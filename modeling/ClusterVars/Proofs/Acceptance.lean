import ClusterVars.Proofs.Documents
import ClusterVars.Proofs.Effects
import ClusterVars.Proofs.Topology

/-! What makes a task fail: a layer that does not load, defaults that do not fit their options, or
an operating system without an image. Nothing after these can fail, so that the tasks agree on what
is acceptable up to what each of them looks at. -/
namespace ClusterVars
open Text

/-! Failures of loading and filling -/

/-- A failure that no input can be blamed for. -/
def Failure.IsInternal : Failure → Prop
  | .outOfRange | .unset _ => True
  | _ => False

theorem Failure.not_isInternal_of_location {failure : Failure} {location : Location}
    (located : failure.location? = some location) : ¬ failure.IsInternal := by
  cases failure <;> first | exact id | contradiction

namespace Bindings
variable {policy : Policy} {b : Bindings} {failure : Failure}

theorem not_isInternal_of_addText {source text : String}
    (failed : (b.addText policy source text).result = .error failure) : ¬ failure.IsInternal := by
  have verdict := verdict_addText policy b source text
  rw [Logged.failure?_eq_some.mpr failed] at verdict
  obtain ⟨i, located, -⟩ := verdict.cut
  exact Failure.not_isInternal_of_location located

theorem not_isInternal_of_addLayers {layers : List Layer}
    (failed : (b.addLayers policy layers).result = .error failure) : ¬ failure.IsInternal := by
  induction layers generalizing b with
  | nil => contradiction
  | cons layer layers ih =>
    rcases Logged.bind_eq_error failed with here | ⟨middle, -, later⟩
    · unfold addLayer at here
      split at here
      · cases here
        exact id
      · exact not_isInternal_of_addText here
    · exact ih later

end Bindings

theorem Defaults.not_isInternal_of_fill {d : Defaults} {r : Record} {failure : Failure}
    (failed : (d.fill r).result = .error failure) : ¬ failure.IsInternal := by
  rcases Logged.bind_eq_error failed with refused | ⟨b, added, -⟩
  · exact Bindings.not_isInternal_of_addText refused
  · rw [result_fill added] at failed
    contradiction

theorem Record.valid_of_ofLayers {policy : Policy} {layers : List Layer} {r : Record}
    (loaded : (ofLayers policy layers).result = .ok r) : r.toBindings.Valid := by
  obtain ⟨b, added, made⟩ := Logged.bind_eq_ok loaded
  cases made
  exact valid_toBindings_ofBindings (Bindings.valid_addLayers Bindings.valid_empty added)

/-! Failures of tasks -/

namespace Task
variable {config : Config} {layers : List Layer} {r filled : Record} {failure : Failure}

/-- The task fills what the layers leave unset. -/
def fills : Task → Bool
  | .render _ defaults _ => defaults
  | .provision _ _ _ => true
  | .check _ | .options => false

/-- The causes for which a task fails. -/
inductive Fails (config : Config) (layers : List Layer) : Task → Failure → Prop where
  | load {task : Task} {failure : Failure} (reads : task ≠ .options)
      (failed : (Record.ofLayers config.unknownOptions layers).result = .error failure) :
      Fails config layers task failure
  | defaults {task : Task} {r : Record} {failure : Failure} (fills : task.fills = true)
      (loaded : (Record.ofLayers config.unknownOptions layers).result = .ok r)
      (failed : (config.defaults.fill r).result = .error failure) :
      Fails config layers task failure
  | image {files : List String} {format : Option Format} {output : Option String}
      {r filled : Record} {os : String}
      (loaded : (Record.ofLayers config.unknownOptions layers).result = .ok r)
      (done : (config.defaults.fill r).result = .ok filled) (named : filled.os = some os)
      (unsupported : os ∉ Box.all.map (·.os)) :
      Fails config layers (.provision files format output) (.unsupportedOs os)

theorem Fails.not_isInternal {task : Task} (fails : Fails config layers task failure) :
    ¬ failure.IsInternal := by
  cases fails with
  | load _ failed =>
    rcases Logged.bind_eq_error failed with unloaded | ⟨b, -, unmade⟩
    · exact Bindings.not_isInternal_of_addLayers unloaded
    · cases unmade
  | defaults _ _ failed => exact Defaults.not_isInternal_of_fill failed
  | image => exact id

/-- The document of a valid record is always written. -/
theorem exists_printRecord (valid : r.toBindings.Valid) (header : String) (format : Option Format) :
    ∃ delivered, (printRecord header format r).result = .ok delivered := by
  cases format with
  | none => exact ⟨_, rfl⟩
  | some format =>
    obtain ⟨text, written⟩ := Record.exists_write valid format
    exact ⟨.print text, Logged.result_bind_of_ok written _⟩

/-- Settings are written for every filled record whose operating system has an image. -/
theorem provide_eq_error (valid : r.toBindings.Valid) {format : Option Format}
    (failed : (provide config format r).result = .error failure) :
    (config.defaults.fill r).result = .error failure ∨
      ∃ filled os, (config.defaults.fill r).result = .ok filled ∧ filled.os = some os ∧
        os ∉ Box.all.map (·.os) ∧ failure = .unsupportedOs os := by
  rcases Logged.bind_eq_error failed with unbuilt | ⟨settings, built, unwritten⟩
  · rcases Logged.bind_eq_error unbuilt with unfilled | ⟨filled, done, refused⟩
    · exact .inl unfilled
    · rcases Settings.ofFilled_of_full (Defaults.full_fill done) with
        ⟨settings, built⟩ | ⟨os, named, unknown, unsupported⟩
      · rw [built] at refused
        cases refused
      · have same : failure = .unsupportedOs os := Except.error.inj (refused.symm.trans unsupported)
        exact .inr ⟨filled, os, done, named, Box.ofOs?_eq_none.mp unknown, same⟩
  · obtain ⟨filled, done, made⟩ := Logged.bind_eq_ok built
    obtain ⟨text, written⟩ := Settings.exists_write (Defaults.full_fill done)
      (Defaults.valid_fill valid done) made (format.getD config.format)
    rw [written] at unwritten
    cases unwritten

theorem valid_of_loadRecord (loaded : (loadRecord config layers).result = .ok r) :
    r.toBindings.Valid :=
  Record.valid_of_ofLayers ((result_loadRecord config layers).symm.trans loaded)

theorem valid_of_rendering {defaults : Bool}
    (rendered : (rendering config layers defaults).result = .ok r) : r.toBindings.Valid := by
  cases defaults with
  | false =>
    rw [rendering_false] at rendered
    exact valid_of_loadRecord rendered
  | true =>
    rw [rendering_true] at rendered
    obtain ⟨loaded, record, filled⟩ := Logged.bind_eq_ok rendered
    exact Defaults.valid_fill (valid_of_loadRecord record) filled

theorem result_provision {files : List String} {format : Option Format} {output : Option String} :
    ((Task.provision files format output).answer config layers).result =
      (loadRecord config layers >>= provide config format).result.map
        (Delivery.redirect output) := by
  rw [answer_eq_redirect, Logged.result_bind_pure, printed, answer_provision]
  rfl

theorem fails_of_error {task : Task}
    (failed : (task.answer config layers).result = .error failure) :
    Fails config layers task failure := by
  have record := result_loadRecord config layers
  cases task with
  | check files =>
    rw [answer_check] at failed
    rcases Logged.bind_eq_error failed with unloaded | ⟨r, -, uncounted⟩
    · exact .load (by simp) (record.symm.trans unloaded)
    · cases uncounted
  | render files defaults format =>
    rw [answer_render_in] at failed
    rcases Logged.bind_eq_error failed with unrendered | ⟨r, rendered, unprinted⟩
    · cases defaults with
      | false =>
        rw [rendering_false] at unrendered
        exact .load (by simp) (record.symm.trans unrendered)
      | true =>
        rw [rendering_true] at unrendered
        rcases Logged.bind_eq_error unrendered with unloaded | ⟨r, loaded, unfilled⟩
        · exact .load (by simp) (record.symm.trans unloaded)
        · exact .defaults rfl (record.symm.trans loaded) unfilled
    · obtain ⟨_, printed⟩ := exists_printRecord (valid_of_rendering rendered)
        (header (config.base ++ files) defaults) format
      rw [printed] at unprinted
      cases unprinted
  | provision files format output =>
    rw [answer_eq_redirect] at failed
    rcases Logged.bind_eq_error failed with unanswered | ⟨_, -, undirected⟩
    · rw [printed, answer_provision] at unanswered
      rcases Logged.bind_eq_error unanswered with unloaded | ⟨r, loaded, unprovided⟩
      · exact .load (by simp) (record.symm.trans unloaded)
      · have loads := record.symm.trans loaded
        rcases provide_eq_error (valid_of_loadRecord loaded) unprovided with
          unfilled | ⟨filled, os, done, named, unsupported, rfl⟩
        · exact .defaults rfl loads unfilled
        · exact .image loads done named unsupported
    · cases undirected
  | options => cases failed

theorem provide_of_unfilled {format : Option Format}
    (failed : (config.defaults.fill r).result = .error failure) :
    (provide config format r).result = .error failure := by
  refine Logged.result_bind_of_error ?_ _
  rw [Settings.build, Logged.result_bind_of_error failed]

theorem provide_of_unsupported {format : Option Format} {os : String}
    (done : (config.defaults.fill r).result = .ok filled) (named : filled.os = some os)
    (unsupported : os ∉ Box.all.map (·.os)) :
    (provide config format r).result = .error (.unsupportedOs os) := by
  refine Logged.result_bind_of_error ?_ _
  rw [Settings.build, Logged.result_bind_of_ok done, Settings.ofFilled, named]
  simp only [Settings.required, pure_bind, Box.ofOs?_eq_none.mpr unsupported]
  rfl

theorem error_of_fails {task : Task} (fails : Fails config layers task failure) :
    (task.answer config layers).result = .error failure := by
  have record := result_loadRecord config layers
  cases fails with
  | load reads failed =>
    cases task with
    | options => exact absurd rfl reads
    | check | render | provision => exact Logged.result_bind_of_error (record.trans failed) _
  | @defaults _ r _ fills loaded failed =>
    cases task with
    | check | options => cases fills
    | render files defaults format =>
      obtain rfl : defaults = true := fills
      rw [answer_render_in, rendering_true]
      refine Logged.result_bind_of_error ?_ _
      rw [Logged.result_bind_of_ok (record.trans loaded), failed]
    | provision files format output =>
      rw [result_provision, Logged.result_bind_of_ok (record.trans loaded),
        provide_of_unfilled failed]
      rfl
  | @image files format output r filled os loaded done named unsupported =>
    rw [result_provision, Logged.result_bind_of_ok (record.trans loaded),
      provide_of_unsupported done named unsupported]
    rfl

section
variable {task : Task} (safe : ∀ failure, ¬ Fails config layers task failure)
include safe

theorem loads_of_unfailing (reads : task ≠ .options) :
    ∃ r, (Record.ofLayers config.unknownOptions layers).result = .ok r := by
  cases loaded : (Record.ofLayers config.unknownOptions layers).result with
  | error failure => exact absurd (.load reads loaded) (safe failure)
  | ok r => exact ⟨r, rfl⟩

theorem filled_of_unfailing (fills : task.fills = true)
    (loaded : (Record.ofLayers config.unknownOptions layers).result = .ok r) :
    ∃ filled, (config.defaults.fill r).result = .ok filled := by
  cases done : (config.defaults.fill r).result with
  | error failure => exact absurd (.defaults fills loaded done) (safe failure)
  | ok filled => exact ⟨filled, rfl⟩

end

/-- A task that fills nothing comes to its end on all layers that load. -/
theorem unfailing_iff_loads {task : Task} (reads : task ≠ .options) (bare : task.fills = false) :
    (∀ failure, ¬ Fails config layers task failure) ↔
      ∃ r, (Record.ofLayers config.unknownOptions layers).result = .ok r := by
  refine ⟨fun safe => loads_of_unfailing safe reads, ?_⟩
  rintro ⟨r, loaded⟩ failure fails
  cases fails with
  | load _ failed =>
    rw [loaded] at failed
    cases failed
  | defaults fills => simp [bare] at fills
  | image => cases bare

theorem unfailing_render_iff {files : List String} {format : Option Format} :
    (∀ failure, ¬ Fails config layers (.render files true format) failure) ↔
      (∃ r, (Record.ofLayers config.unknownOptions layers).result = .ok r) ∧
        config.defaults.Valid := by
  constructor
  · intro safe
    obtain ⟨r, loaded⟩ := loads_of_unfailing safe (by simp)
    obtain ⟨filled, done⟩ := filled_of_unfailing safe rfl loaded
    exact ⟨⟨r, loaded⟩, Defaults.valid_of_fill done⟩
  · rintro ⟨⟨r, loaded⟩, valid⟩ failure fails
    cases fails with
    | load _ failed =>
      rw [loaded] at failed
      cases failed
    | @defaults _ r _ _ _ failed =>
      obtain ⟨filled, done⟩ := Defaults.exists_fill valid r
      rw [done] at failed
      cases failed

theorem unfailing_provision_iff {files : List String} {format : Option Format}
    {output : Option String} :
    (∀ failure, ¬ Fails config layers (.provision files format output) failure) ↔
      config.defaults.Valid ∧
        ∃ r filled, (Record.ofLayers config.unknownOptions layers).result = .ok r ∧
          (config.defaults.fill r).result = .ok filled ∧
          ∃ os ∈ Box.all.map (·.os), filled.os = some os := by
  constructor
  · intro safe
    obtain ⟨r, loaded⟩ := loads_of_unfailing safe (by simp)
    obtain ⟨filled, done⟩ := filled_of_unfailing safe rfl loaded
    obtain ⟨os, _, _, _, _, _, _, _, _, _, _, rfl⟩ := (Defaults.full_fill done).fields
    refine ⟨Defaults.valid_of_fill done, r, _, loaded, done, os, ?_, rfl⟩
    by_contra unsupported
    exact safe _ (.image loaded done rfl unsupported)
  · rintro ⟨-, r, filled, loaded, done, os, supported, named⟩ failure fails
    cases fails with
    | load _ failed =>
      rw [loaded] at failed
      cases failed
    | @defaults _ s _ _ loads failed =>
      obtain rfl : r = s := Except.ok.inj (loaded.symm.trans loads)
      rw [done] at failed
      cases failed
    | @image _ _ _ s filled' os' loads done' named' unsupported =>
      obtain rfl : r = s := Except.ok.inj (loaded.symm.trans loads)
      obtain rfl : filled = filled' := Except.ok.inj (done.symm.trans done')
      obtain rfl : os = os' := Option.some.inj (named.symm.trans named')
      exact unsupported supported

end Task

/-! Runs -/

/-- How many lines of the text are assignments. -/
def Text.assignmentCount (text : String) : Nat :=
  (linesOf text).countP fun line => (Assignment.held? line).isSome

theorem Record.assignmentCount_renderUnder (header : String) (r : Record) :
    assignmentCount (r.renderUnder header) = r.keys.length := by
  rw [assignmentCount, ← List.length_filterMap_eq_countP, renderUnder_eq,
    held?_writtenText .assign r.entries (lines_noFeed header.toList), List.length_map, keys,
    List.length_map]

namespace FileTree
variable {t : FileTree} {i : Invocation} {named : Option String} {config : Config}
  {task : Task} {failure : Failure}

theorem not_isInternal_of_loadConfig (failed : (t.loadConfig named).result = .error failure) :
    ¬ failure.IsInternal := by
  unfold loadConfig Config.load at failed
  split at failed
  · split at failed
    · cases failed
    · cases failed
      exact id
  · split at failed
    · cases failed
      exact id
    · cases failed

/-- No run fails for a number that no format holds or for an option without a value. -/
theorem not_isInternal_of_failure? (fails : t.failure? i = some failure) :
    ¬ failure.IsInternal := by
  unfold failure? at fails
  split at fails
  · rename_i failed
    cases fails
    rcases Logged.bind_eq_error failed with unconfigured | ⟨config, -, unanswered⟩
    · exact not_isInternal_of_loadConfig unconfigured
    · exact (Task.fails_of_error unanswered).not_isInternal
  · cases fails
  · split at fails
    · cases fails
      exact id
    · cases fails

section
variable (loaded : (t.loadConfig named).result = .ok config) (verbose : Bool)
include loaded

theorem outcome_of_fails
    (fails : task.Fails config ((task.layerPaths config).map t.layer) failure) :
    (t.outcome ⟨verbose, named, task⟩).exitCode = 1 ∧
      (t.outcome ⟨verbose, named, task⟩).report = some failure.report := by
  have failed := (delivery_of_loadConfig loaded verbose task).1.trans (Task.error_of_fails fails)
  rw [outcome_of_error failed]
  exact ⟨rfl, rfl⟩

theorem exitCode_eq_zero_iff (unasked : task.output? = none) :
    (t.outcome ⟨verbose, named, task⟩).exitCode = 0 ↔
      ∀ failure, ¬ task.Fails config ((task.layerPaths config).map t.layer) failure := by
  constructor
  · intro succeeded failure fails
    rw [(outcome_of_fails loaded verbose fails).1] at succeeded
    contradiction
  · intro safe
    have unredirected : task.printed = task := by
      cases task <;> first | rfl | (cases unasked; rfl)
    have delivered := (delivery_of_loadConfig loaded verbose task).1
    cases answered : (task.answer config ((task.layerPaths config).map t.layer)).result with
    | error failure => exact absurd (Task.fails_of_error answered) (safe failure)
    | ok delivery =>
      rw [← unredirected] at answered
      obtain ⟨text, rfl⟩ := Task.prints_of_answer_printed answered
      rw [unredirected] at answered
      rw [outcome_of_print (delivered.trans answered)]

/-- What `check` counts are the assignments that `render` prints. -/
theorem stdout_check {r : Record} {files : List String}
    (record : (Record.ofLayers config.unknownOptions ((config.base ++ files).map t.layer)).result =
      .ok r) :
    (t.outcome ⟨verbose, named, .check files⟩).stdout = Task.resolved
      (assignmentCount (t.outcome ⟨verbose, named, .render files false none⟩).stdout) files := by
  replace record := (Task.result_loadRecord config _).trans record
  have checked : (t.delivery ⟨verbose, named, .check files⟩).result =
      .ok (.print (Task.resolved r.keys.length files)) := by
    refine (delivery_of_loadConfig loaded verbose (.check files)).1.trans ?_
    rw [Task.layerPaths_of_reads config (by simp), Task.result_check, Task.files, record]
    rfl
  have rendered : (t.delivery ⟨verbose, named, .render files false none⟩).result =
      .ok (.print (r.renderUnder (Task.header (config.base ++ files) false))) := by
    refine (delivery_of_loadConfig loaded verbose (.render files false none)).1.trans ?_
    rw [Task.layerPaths_of_reads config (by simp), Task.answer_render, Task.rendering_false]
    exact Logged.result_bind_of_ok record _
  rw [outcome_of_print checked, outcome_of_print rendered, Record.assignmentCount_renderUnder]

end

/-- The commands agree on what they accept. All of them fail as loading does; where it succeeds,
`check` and `render` do too, in every format, and count the same options. With defaults these have
to be valid, and settings need an operating system of the table besides. No run fails for a number
that a format cannot hold, or for an option without a value. -/
theorem commands_agree (loaded : (t.loadConfig named).result = .ok config) (verbose : Bool)
    (files : List String) :
    let load := (Record.ofLayers config.unknownOptions ((config.base ++ files).map t.layer)).result
    ((t.outcome ⟨verbose, named, .check files⟩).exitCode = 0 ↔ ∃ r, load = .ok r) ∧
      (∀ format, (t.outcome ⟨verbose, named, .render files false format⟩).exitCode = 0 ↔
        ∃ r, load = .ok r) ∧
      ((t.outcome ⟨verbose, named, .check files⟩).exitCode = 0 →
        (t.outcome ⟨verbose, named, .check files⟩).stdout = Task.resolved
          (assignmentCount (t.outcome ⟨verbose, named, .render files false none⟩).stdout) files) ∧
      (∀ format, (t.outcome ⟨verbose, named, .render files true format⟩).exitCode = 0 ↔
        (∃ r, load = .ok r) ∧ config.defaults.Valid) ∧
      (∀ format, (t.outcome ⟨verbose, named, .provision files format none⟩).exitCode = 0 ↔
        config.defaults.Valid ∧ ∃ r filled, load = .ok r ∧
          (config.defaults.fill r).result = .ok filled ∧
          ∃ os ∈ Box.all.map (·.os), filled.os = some os) ∧
      (∀ failure, load = .error failure → ∀ task, task ≠ .options → task.files = files →
        (t.outcome ⟨verbose, named, task⟩).exitCode = 1 ∧
          (t.outcome ⟨verbose, named, task⟩).report = some failure.report) ∧
      ∀ i, (t.outcome i).report = (t.failure? i).map Failure.report ∧
        ∀ failure, t.failure? i = some failure → ¬ failure.IsInternal := by
  intro load
  have check : (t.outcome ⟨verbose, named, .check files⟩).exitCode = 0 ↔ ∃ r, load = .ok r :=
    (exitCode_eq_zero_iff loaded verbose rfl).trans (Task.unfailing_iff_loads (by simp) rfl)
  refine ⟨check, fun format => ?_, fun succeeded => ?_, fun format => ?_, fun format => ?_,
    fun failure failed task reads listed => ?_, fun i => ?_⟩
  · exact (exitCode_eq_zero_iff loaded verbose rfl).trans (Task.unfailing_iff_loads (by simp) rfl)
  · obtain ⟨r, record⟩ := check.mp succeeded
    exact stdout_check loaded verbose record
  · exact (exitCode_eq_zero_iff loaded verbose rfl).trans Task.unfailing_render_iff
  · exact (exitCode_eq_zero_iff loaded verbose rfl).trans Task.unfailing_provision_iff
  · refine outcome_of_fails loaded verbose (.load reads ?_)
    rw [Task.layerPaths_of_reads config reads, listed]
    exact failed
  · exact ⟨outcome_of_failure?.1, fun failure => not_isInternal_of_failure?⟩

/-- An operating system that no image belongs to keeps only the settings from being made. -/
theorem commands_agree_unsupported :
    let t := ofFiles
      [("vars.toml", some "[loader]\nbase = [\"base.rb\"]\n"),
        ("base.rb", some "$os = \"plan9\"\n$vm_cpus = 2\n"),
        ("/srv/ci.rb", some "$vm_cpus = nil\n$num_forks ||= 7\n")]
    (t.loadConfig none).result = .ok { base := ["base.rb"] } ∧
      (t.outcome ⟨false, none, .check ["/srv/ci.rb"]⟩).exitCode = 0 ∧
      (t.outcome ⟨false, none, .check ["/srv/ci.rb"]⟩).stdout = Task.resolved
        (assignmentCount (t.outcome ⟨false, none, .render ["/srv/ci.rb"] false none⟩).stdout)
        ["/srv/ci.rb"] ∧
      (t.outcome ⟨false, none, .render ["/srv/ci.rb"] false (some .toml)⟩).exitCode = 0 ∧
      (t.outcome ⟨false, none, .render ["/srv/ci.rb"] true none⟩).exitCode = 0 ∧
      (t.outcome ⟨false, none, .provision ["/srv/ci.rb"] none none⟩).exitCode ≠ 0 := by
  intro t
  let config : Config := { base := ["base.rb"] }
  have loaded : (t.loadConfig none).result = .ok config := by decide +kernel
  have record : (Record.ofLayers config.unknownOptions ((config.base ++ ["/srv/ci.rb"]).map
      t.layer)).result = .ok { os := some "plan9", numForks := some 7 } := by decide +kernel
  obtain ⟨check, render, counts, filled, settings, -⟩ := commands_agree loaded false ["/srv/ci.rb"]
  have checked := check.mpr ⟨_, record⟩
  refine ⟨loaded, checked, counts checked, (render _).mpr ⟨_, record⟩,
    (filled none).mpr ⟨⟨_, record⟩, Defaults.valid_builtIn⟩, fun succeeded => ?_⟩
  obtain ⟨-, r, f, loads, fills, os, supported, named⟩ := (settings none).mp succeeded
  cases record.symm.trans loads
  have kept : f.value? .os = some (.text "plan9") := Defaults.value?_fill fills .os
  rw [Record.value?, named] at kept
  cases kept
  exact absurd supported (by decide)

end FileTree
end ClusterVars
