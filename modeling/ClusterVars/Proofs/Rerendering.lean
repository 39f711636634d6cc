import ClusterVars.Proofs.Reloading
import ClusterVars.Proofs.Run
import ClusterVars.Proofs.Task

/-! Rendered records as files. What `render` printed and somebody stored can be loaded in place of
the files it was rendered from. The base layers are loaded below it once more; they show through
where the record leaves an option unset, and nowhere when the defaults were filled in. -/
namespace ClusterVars
open Text

/-- The lines of a text other than comments. -/
def Text.body (text : String) : List (List Char) :=
  (linesOf text).filter fun line => line.head? ≠ some '#'

namespace Record
variable {r s : Record}

theorem body_renderUnder (header : String) (r : Record) :
    body (r.renderUnder header) = (r.entries.map fun entry =>
      Assignment.written entry.1.name.toList .assign entry.2).map dropReturn := by
  rw [body, renderUnder_eq, linesOf_writtenText .assign r.entries (lines_noFeed header.toList),
    writtenLines, List.map_append, List.filter_append, List.filter_eq_nil_iff.mpr,
    List.filter_eq_self.mpr, List.nil_append]
  · simp only [List.mem_map]
    rintro line ⟨_, ⟨entry, -, rfl⟩, rfl⟩
    rw [Assignment.written, dropReturn_cons _ (by simp), List.head?_cons]
    decide
  · simp only [List.mem_map]
    rintro line ⟨_, ⟨comment, -, rfl⟩, rfl⟩
    rw [commented, dropReturn_cons _ (by simp), List.head?_cons]
    decide

/-- A rendered record can be told from its assignments alone. -/
theorem body_eq_iff (first : r.toBindings.Valid) (second : s.toBindings.Valid)
    (header other : String) : body (r.renderUnder header) = body (s.renderUnder other) ↔ r = s := by
  rw [body_renderUnder, body_renderUnder]
  constructor
  · intro same
    have held (r : Record) : ((r.entries.map fun entry => Assignment.written entry.1.name.toList
        .assign entry.2).map dropReturn).filterMap Assignment.held? =
          r.entries.map (assigning .assign) := by
      simp only [List.map_map, List.filterMap_map, Function.comp_def,
        Assignment.held?_dropReturn_written]
      simp
    have assigned : r.entries.map (assigning .assign) = s.entries.map (assigning .assign) := by
      rw [← held r, same, held s]
    apply toBindings_injective
    rw [← onto_empty r, ← onto_empty s, ← foldl_act_entries (fits_entries first),
      ← foldl_act_entries (fits_entries second), assigned]
  · rintro rfl
    rfl

/-- Whatever the record leaves unset shows through it. -/
theorem ofBindings_onto_eq_iff (r : Record) (b : Bindings) : ofBindings (r.onto b) = r ↔
    ∀ key, (ofBindings b).value? key ≠ none → r.value? key ≠ none := by
  constructor
  · intro same key set unset
    have shown := value?_ofBindings_onto r b key
    rw [same, unset, Option.none_or] at shown
    exact set shown.symm
  · intro covered
    apply ext_value?
    intro key
    rw [value?_ofBindings_onto]
    cases held : r.value? key with
    | some v => rfl
    | none => exact not_not.mp fun set => covered key set held

end Record

namespace FileTree
variable {t after : FileTree} {named : Option String} {config : Config} {files : List String}
  {defaults verbose : Bool} {path text : String}

/-- The bindings of the base layers alone. -/
def loadBase (t : FileTree) (config : Config) : Logged Bindings :=
  Bindings.empty.addLayers config.unknownOptions (config.base.map t.layer)

/-- The text was stored in a file that is neither the configuration nor a base layer. -/
structure Stored (t after : FileTree) (named : Option String) (config : Config)
    (path text : String) : Prop where
  written : t.write path text = .ok after
  apart : ∀ other ∈ Config.path named :: config.base, t.locate other ≠ t.locate path

namespace Stored

theorem loadConfig (stored : t.Stored after named config path text)
    (loaded : (t.loadConfig named).result = .ok config) :
    (after.loadConfig named).result = .ok config := by
  obtain ⟨place, located⟩ := locate_configPath loaded
  rw [FileTree.loadConfig,
    read_of_write_apart stored.written located (stored.apart _ List.mem_cons_self)]
  exact loaded

theorem layers (stored : t.Stored after named config path text) {lower : Bindings}
    (readable : (t.loadBase config).result = .ok lower) :
    (config.base ++ [path]).map after.layer = config.base.map t.layer ++ [⟨path, .ok text⟩] := by
  have base : config.base.map after.layer = config.base.map t.layer := by
    refine List.map_congr_left fun other member => ?_
    obtain ⟨content, read, -⟩ := (Bindings.addLayers_eq_ok readable).1 (t.layer other)
      (List.mem_map_of_mem member)
    obtain ⟨place, located⟩ := locate_of_read read
    rw [layer, layer, read_of_write_apart stored.written located
      (stored.apart other (List.mem_cons_of_mem _ member))]
  rw [List.map_append, base, List.map_singleton, layer, read_of_write stored.written]

/-- A stored record is loaded on top of the base layers, and warns of nothing. -/
theorem loadRecord {r : Record} {header : String}
    (stored : t.Stored after named config path (r.renderUnder header))
    (valid : r.toBindings.Valid) {lower : Bindings}
    (readable : (t.loadBase config).result = .ok lower) :
    let again := Task.loadRecord config ((config.base ++ [path]).map after.layer)
    again.result = .ok (Record.ofBindings (r.onto lower)) ∧
      again.alerts = (t.loadBase config).alerts := by
  intro again
  obtain ⟨added, silent⟩ :=
    Record.addText_renderUnder valid config.unknownOptions lower path header
  have top : lower.addLayers config.unknownOptions [⟨path, .ok (r.renderUnder header)⟩] =
      lower.addText config.unknownOptions path (r.renderUnder header) := by
    simp [Bindings.addLayers, Bindings.addLayer]
  rw [← top] at added silent
  obtain ⟨result, alerts⟩ := Task.loadRecord_append readable added
  rw [← stored.layers readable] at result alerts
  exact ⟨result, by rw [alerts, silent, List.append_nil, loadBase]⟩

end Stored

/-- What a run of `render` went through that printed something. -/
structure Rendered (t : FileTree) (config : Config) (files : List String) (defaults : Bool)
    (lower upper : Bindings) (r : Record) : Prop where
  base : (t.loadBase config).result = .ok lower
  files : (lower.addLayers config.unknownOptions (files.map t.layer)).result = .ok upper
  filled : (if defaults then config.defaults.fill (Record.ofBindings upper)
    else return Record.ofBindings upper).result = .ok r

namespace Rendered
variable {lower upper : Bindings} {r : Record}

/-- The files warn after the base layers. -/
theorem loadRecord (rendered : t.Rendered config files defaults lower upper r) :
    let record := Task.loadRecord config ((config.base ++ files).map t.layer)
    record.result = .ok (Record.ofBindings upper) ∧
      record.alerts = (t.loadBase config).alerts ++
        (lower.addLayers config.unknownOptions (files.map t.layer)).alerts := by
  intro record
  obtain ⟨result, alerts⟩ := Task.loadRecord_append rendered.base rendered.files
  rw [← List.map_append] at result alerts
  exact ⟨result, alerts⟩

theorem valid_lower (rendered : t.Rendered config files defaults lower upper r) : lower.Valid :=
  Bindings.valid_addLayers Bindings.valid_empty rendered.base

theorem valid (rendered : t.Rendered config files defaults lower upper r) :
    r.toBindings.Valid := by
  have loaded : (Record.ofBindings upper).toBindings.Valid :=
    Record.valid_toBindings_ofBindings
      (Bindings.valid_addLayers rendered.valid_lower rendered.files)
  have filled := rendered.filled
  cases defaults with
  | false =>
    rw [if_neg (by simp)] at filled
    cases filled
    exact loaded
  | true =>
    rw [if_pos rfl] at filled
    exact Defaults.valid_fill loaded filled

theorem full (rendered : t.Rendered config files true lower upper r) : r.Full := by
  have filled := rendered.filled
  rw [if_pos rfl] at filled
  exact Defaults.full_fill filled

theorem lower_eq_empty (rendered : t.Rendered config files defaults lower upper r)
    (noBase : config.base = []) : lower = .empty := by
  have base := rendered.base
  rw [loadBase, noBase, List.map_nil, Bindings.addLayers] at base
  exact (Except.ok.inj base).symm

end Rendered

theorem rendered_of_outcome (loaded : (t.loadConfig named).result = .ok config)
    (printed : (t.outcome ⟨verbose, named, .render files defaults none⟩).exitCode = 0) :
    ∃ lower upper r, t.Rendered config files defaults lower upper r ∧
      (Task.rendering config ((config.base ++ files).map t.layer) defaults).result = .ok r ∧
      (t.outcome ⟨verbose, named, .render files defaults none⟩).stdout =
        r.renderUnder (Task.header (config.base ++ files) defaults) := by
  obtain ⟨delivered, done⟩ := delivery_of_exitCode printed
  have answered : ((Task.render files defaults none).answer config
      ((config.base ++ files).map t.layer)).result = .ok delivered :=
    (delivery_of_loadConfig loaded verbose _).1.symm.trans done
  rw [Task.answer_render] at answered
  obtain ⟨r, rendering, printing⟩ := Logged.bind_eq_ok answered
  cases printing
  obtain ⟨_, record, filled⟩ := Logged.bind_eq_ok rendering
  obtain ⟨upper, added, same⟩ := Logged.bind_eq_ok
    ((Task.result_loadRecord config _).symm.trans record)
  cases same
  rw [List.map_append, Bindings.addLayers_append] at added
  obtain ⟨lower, base, top⟩ := Logged.bind_eq_ok added
  exact ⟨lower, upper, r, ⟨base, top, filled⟩, rendering, by rw [outcome_of_print done]⟩

theorem Stored.outcome_render {r : Record} {header : String} {lower : Bindings}
    (stored : t.Stored after named config path (r.renderUnder header))
    (loaded : (t.loadConfig named).result = .ok config) (valid : r.toBindings.Valid)
    (readable : (t.loadBase config).result = .ok lower) (verbose : Bool) :
    let again := after.outcome ⟨verbose, named, .render [path] false none⟩
    again.exitCode = 0 ∧ again.stdout = (Record.ofBindings (r.onto lower)).renderUnder
      (Task.header (config.base ++ [path]) false) := by
  have rendering : (Task.rendering config ((config.base ++ [path]).map after.layer) false).result =
      .ok (Record.ofBindings (r.onto lower)) :=
    Logged.result_bind_of_ok (stored.loadRecord valid readable).1 _
  have delivered : (after.delivery ⟨verbose, named, .render [path] false none⟩).result =
      .ok (.print ((Record.ofBindings (r.onto lower)).renderUnder
        (Task.header (config.base ++ [path]) false))) := by
    refine (delivery_of_loadConfig (stored.loadConfig loaded) verbose _).1.trans ?_
    rw [Task.answer_render]
    exact Logged.result_bind_of_ok rendering _
  rw [outcome_of_print delivered]
  exact ⟨rfl, rfl⟩

/-- A rendered record that was stored loads as itself, and renders under the same configuration to
the same assignments exactly when it sets whatever the base layers set. -/
theorem render_stored (loaded : (t.loadConfig named).result = .ok config)
    (printed : (t.outcome ⟨verbose, named, .render files defaults none⟩).exitCode = 0) :
    let text := (t.outcome ⟨verbose, named, .render files defaults none⟩).stdout
    ∃ r base : Record,
      (Task.rendering config ((config.base ++ files).map t.layer) defaults).result = .ok r ∧
      text = r.renderUnder (Task.header (config.base ++ files) defaults) ∧
      (∀ policy source, (Record.ofText policy source text).result = .ok r) ∧
      (Record.ofLayers config.unknownOptions (config.base.map t.layer)).result = .ok base ∧
      ∀ path after verbose, t.Stored after named config path text →
        let again := after.outcome ⟨verbose, named, .render [path] false none⟩
        again.exitCode = 0 ∧
          (body again.stdout = body text ↔
            ∀ key, base.value? key ≠ none → r.value? key ≠ none) ∧
          (defaults = true ∨ config.base = [] → body again.stdout = body text) := by
  intro text
  obtain ⟨lower, upper, r, rendered, rendering, shown⟩ := rendered_of_outcome loaded printed
  have same : text = r.renderUnder (Task.header (config.base ++ files) defaults) := shown
  have base : (Record.ofLayers config.unknownOptions (config.base.map t.layer)).result =
      .ok (Record.ofBindings lower) := by
    rw [Record.result_ofLayers]
    exact congrArg (Except.map Record.ofBindings) rendered.base
  refine ⟨r, Record.ofBindings lower, rendering, same, ?_, base, ?_⟩
  · intro policy source
    rw [same]
    exact (Record.ofText_renderUnder rendered.valid policy source _).1
  · intro path after verbose stored again
    rw [same] at stored ⊢
    obtain ⟨succeeded, shown⟩ :=
      stored.outcome_render loaded rendered.valid rendered.base verbose
    have valid : (Record.ofBindings (r.onto lower)).toBindings.Valid :=
      Record.valid_toBindings_ofBindings (Record.valid_onto rendered.valid rendered.valid_lower)
    have covers : body again.stdout = body (r.renderUnder (Task.header (config.base ++ files)
        defaults)) ↔ ∀ key, (Record.ofBindings lower).value? key ≠ none → r.value? key ≠ none := by
      rw [show again.stdout = _ from shown, Record.body_eq_iff valid rendered.valid,
        Record.ofBindings_onto_eq_iff]
    -- no option is left unset by the defaults, and without base layers there is nothing to show
    refine ⟨succeeded, covers, fun always => covers.mpr fun key set => ?_⟩
    rcases always with rfl | noBase
    · obtain ⟨v, held⟩ := rendered.full key
      simp [held]
    · rw [rendered.lower_eq_empty noBase] at set
      exact absurd (Record.value?_ofBindings .empty key) set

/-- An operating system that the base layer sets and the file clears comes back. Both files lie
outside the working directory. -/
theorem render_stored_cleared :
    let t := ofFiles
      [("vars.toml", some "[loader]\nbase = [\"base.rb\"]\n"),
        ("base.rb", some "$os = \"debian12\"\n"),
        ("/srv/ci.rb", some "$os = nil\n$num_instances = 2\n")]
    let text := (t.outcome ⟨false, none, .render ["/srv/ci.rb"] false none⟩).stdout
    let after := t.put ["out.rb"] text
    let again := after.outcome ⟨false, none, .render ["../out.rb"] false none⟩
    (t.loadConfig none).result = .ok { base := ["base.rb"] } ∧
      (t.outcome ⟨false, none, .render ["/srv/ci.rb"] false none⟩).exitCode = 0 ∧
      t.Stored after none { base := ["base.rb"] } "../out.rb" text ∧
      again.exitCode = 0 ∧ body again.stdout ≠ body text := by
  intro t text after again
  have loaded : (t.loadConfig none).result = .ok { base := ["base.rb"] } := by decide +kernel
  have printed : (t.outcome ⟨false, none, .render ["/srv/ci.rb"] false none⟩).exitCode = 0 := by
    decide +kernel
  have stored : t.Stored after none { base := ["base.rb"] } "../out.rb" text :=
    ⟨rfl, by decide +kernel⟩
  obtain ⟨r, base, rendering, -, -, below, repeated⟩ := render_stored loaded printed
  have rendered : (Task.rendering { base := ["base.rb"] } (["base.rb", "/srv/ci.rb"].map t.layer)
      false).result = .ok { numInstances := some 2 } := by decide +kernel
  have underneath : (Record.ofLayers .reject (["base.rb"].map t.layer)).result =
      .ok { os := some "debian12" } := by decide +kernel
  cases rendered.symm.trans rendering
  cases underneath.symm.trans below
  obtain ⟨succeeded, covers, -⟩ := repeated "../out.rb" after false stored
  exact ⟨loaded, printed, stored, succeeded, fun same => covers.mp same .os (by decide) rfl⟩

end FileTree
end ClusterVars
