import ClusterVars.Proofs.Layers
import ClusterVars.Proofs.Refilling
import ClusterVars.Task

/-! The tasks that make something of a record, taken apart: layers are loaded, the record is filled,
and what is printed depends on nothing else. -/
namespace ClusterVars

namespace Settings
variable {r : Record} {d : Defaults}

/-- The warning is about a role with more nodes than there are. -/
def IsExcess (n : Notice) : Prop := ∃ key role count, n = .exceeds key role count

theorem isExcess_of_noteExcess (key : Key) (role count : Nat) :
    ∀ n ∈ (noteExcess key role count).alerts, IsExcess n := by
  unfold noteExcess
  split
  · intro n member
    obtain rfl := List.mem_singleton.mp member
    exact ⟨key, role, count, rfl⟩
  · intro n member
    simp at member

theorem isExcess_of_ofFilled (full : r.Full) : ∀ n ∈ (ofFilled r).alerts, IsExcess n := by
  obtain ⟨os, cpus, memory, count, control, etcd, plugin, update, cache, forks, playbook, rfl⟩ :=
    full.fields
  simp only [ofFilled, required, pure_bind]
  cases Box.ofOs? os with
  | none => simp [Logged.fail, Logged.alerts]
  | some box =>
    intro n member
    simp only at member
    rw [Logged.alerts_bind_of_ok (result_noteExcess .kubeMasterInstances control count),
      Logged.alerts_bind_of_ok (result_noteExcess .etcdInstances etcd count)] at member
    rcases List.mem_append.mp member with first | second
    · exact isExcess_of_noteExcess .kubeMasterInstances control count n first
    · exact isExcess_of_noteExcess .etcdInstances etcd count n (by simpa using second)

end Settings

namespace Task
variable {config : Config} {layers : List Layer} {files : List String} {defaults : Bool}
  {format : Option Format} {r filled : Record}

theorem loadRecord_of_ok (loaded : (Record.ofLayers config.unknownOptions layers).result = .ok r) :
    (loadRecord config layers).result = .ok r ∧
      (loadRecord config layers).alerts =
        (Record.ofLayers config.unknownOptions layers).alerts := by
  have kept : (Record.ofLayers config.unknownOptions layers).noteFailure .loadFailed =
      Record.ofLayers config.unknownOptions layers := by
    rw [Logged.noteFailure, loaded]
  rw [loadRecord, kept, Logged.result_bind_of_ok rfl, Logged.alerts_bind_of_ok rfl]
  exact ⟨loaded, rfl⟩

/-- Layers are loaded on top of those below them, and warn after these. -/
theorem loadRecord_append {below above : List Layer} {lower upper : Bindings}
    (base : (Bindings.empty.addLayers config.unknownOptions below).result = .ok lower)
    (top : (lower.addLayers config.unknownOptions above).result = .ok upper) :
    (loadRecord config (below ++ above)).result = .ok (Record.ofBindings upper) ∧
      (loadRecord config (below ++ above)).alerts =
        (Bindings.empty.addLayers config.unknownOptions below).alerts ++
          (lower.addLayers config.unknownOptions above).alerts := by
  have layered : (Record.ofLayers config.unknownOptions (below ++ above)).result =
      .ok (Record.ofBindings upper) := by
    rw [Record.result_ofLayers, Bindings.addLayers_append, Logged.result_bind_of_ok base, top]
    rfl
  obtain ⟨result, alerts⟩ := loadRecord_of_ok layered
  refine ⟨result, alerts.trans ?_⟩
  rw [Record.alerts_ofLayers, Bindings.addLayers_append, Logged.alerts_bind_of_ok base]

theorem result_loadRecord (config : Config) (layers : List Layer) :
    (loadRecord config layers).result =
      (Record.ofLayers config.unknownOptions layers).result := by
  rw [loadRecord, Logged.result_bind_of_ok rfl, Logged.noteFailure]
  split
  · rfl
  · rfl

theorem layerPaths_of_reads (config : Config) {task : Task} (reads : task ≠ .options) :
    task.layerPaths config = config.base ++ task.files := by
  cases task with
  | options => exact absurd rfl reads
  | check | render | provision => rfl

/-- The record that is rendered. -/
def rendering (config : Config) (layers : List Layer) (defaults : Bool) : Logged Record := do
  let loaded ← loadRecord config layers
  if defaults then config.defaults.fill loaded else return loaded

theorem rendering_false : rendering config layers false = loadRecord config layers := by
  simp [rendering]

theorem rendering_true :
    rendering config layers true = loadRecord config layers >>= config.defaults.fill := by
  simp [rendering]

/-- A record, printed in a format or as assignments under a header. -/
def printRecord (header : String) (format : Option Format) (r : Record) : Logged Delivery :=
  match format with
  | some format => do
    let text ← Logged.ofExcept (r.document.write format)
    return .print text
  | none => return .print (r.renderUnder header)

theorem answer_render_in (config : Config) (layers : List Layer) (files : List String)
    (defaults : Bool) (format : Option Format) :
    (Task.render files defaults format).answer config layers =
      rendering config layers defaults >>=
        printRecord (header (config.base ++ files) defaults) format := by
  cases defaults <;> cases format <;>
    simp only [answer, rendering, bind_assoc, pure_bind, if_true, Bool.false_eq_true, if_false] <;>
    rfl

theorem answer_render (config : Config) (layers : List Layer) (files : List String)
    (defaults : Bool) : (Task.render files defaults none).answer config layers =
      rendering config layers defaults >>= fun r =>
        pure (.print (r.renderUnder (header (config.base ++ files) defaults))) :=
  answer_render_in config layers files defaults none

theorem prints_of_printRecord {header : String} {delivered : Delivery}
    (printed : (printRecord header format r).result = .ok delivered) :
    ∃ text, delivered = .print text := by
  cases format with
  | none =>
    cases printed
    exact ⟨_, rfl⟩
  | some format =>
    obtain ⟨text, -, rest⟩ := Logged.bind_eq_ok printed
    cases rest
    exact ⟨text, rfl⟩

/-- The message about so many options in these files. -/
def resolved (count : Nat) (files : List String) : String :=
  done (toString count ++ " option(s) resolved (" ++ ", ".intercalate files ++ ")")

/-- How many options a record sets, printed. -/
def count (files : List String) (r : Record) : Logged Delivery := do
  Logged.note (.listed r.keys)
  return .print (resolved r.keys.length files)

theorem answer_check (config : Config) (layers : List Layer) (files : List String) :
    (Task.check files).answer config layers = loadRecord config layers >>= count files := rfl

theorem result_check (config : Config) (layers : List Layer) (files : List String) :
    ((Task.check files).answer config layers).result = (loadRecord config layers).result.map
      fun r => .print (resolved r.keys.length files) := by
  rw [answer_check, Logged.result_bind]
  cases (loadRecord config layers).result <;> rfl

/-- The settings of a record, printed. -/
def provide (config : Config) (format : Option Format) (r : Record) : Logged Delivery := do
  let settings ← Settings.build r config.defaults
  let text ← Logged.ofExcept (settings.document.write (format.getD config.format))
  return .print text

theorem prints_of_provide {delivered : Delivery}
    (provided : (provide config format r).result = .ok delivered) :
    ∃ text, delivered = .print text := by
  obtain ⟨settings, -, rest⟩ := Logged.bind_eq_ok provided
  obtain ⟨text, -, printed⟩ := Logged.bind_eq_ok rest
  cases printed
  exact ⟨text, rfl⟩

theorem unwritten_provide (path text : String) :
    (provide config format r).result ≠ .ok (.write path text) := by
  intro written
  obtain ⟨_, same⟩ := prints_of_provide written
  cases same

theorem alerts_provide :
    (provide config format r).alerts = (Settings.build r config.defaults).alerts := by
  cases built : (Settings.build r config.defaults).result with
  | error failure => exact Logged.alerts_bind_of_error built _
  | ok settings =>
    rw [provide, Logged.alerts_bind_of_ok built, Logged.alerts_bind_pure]
    exact List.append_nil _

/-- The settings of a filled record are printed as those of the record it was filled from. -/
theorem provide_filled (done : (config.defaults.fill r).result = .ok filled)
    (format : Option Format) :
    (provide config format filled).result = (provide config format r).result ∧
      (provide config format filled).alerts = (provide config format r).alerts := by
  have again := Defaults.fill_of_full (Defaults.full_fill done) (Defaults.valid_of_fill done)
  obtain ⟨result, alerts⟩ := Settings.build_of_fill done
  obtain ⟨resultAgain, alertsAgain⟩ := Settings.build_of_fill again
  exact Logged.bind_same (resultAgain.trans result.symm) (alertsAgain.trans alerts.symm) _

theorem isExcess_of_provide (done : (config.defaults.fill r).result = .ok filled)
    (format : Option Format) :
    ∀ n ∈ (provide config format r).alerts, Settings.IsExcess n := by
  rw [alerts_provide, (Settings.build_of_fill done).2]
  exact Settings.isExcess_of_ofFilled (Defaults.full_fill done)

theorem answer_provision (config : Config) (layers : List Layer) (files : List String)
    (format : Option Format) : (Task.provision files format none).answer config layers =
      loadRecord config layers >>= provide config format := rfl

end Task
end ClusterVars
