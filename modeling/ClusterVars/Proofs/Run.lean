import ClusterVars.Proofs.FileTree
import ClusterVars.Proofs.Journal
import ClusterVars.Run

/-! Runs on a file tree as functions of it. A run reads the configuration and the layers and
delivers a text or a failure; what it shows follows from what it delivers, as long as nothing is
written. -/
namespace ClusterVars

/-- Where the configuration is looked for. -/
def Config.path (named : Option String) : String := named.getD defaultPath

/-- The warnings and errors that a run shows. -/
def Outcome.alerts (o : Outcome) : List Notice := o.notices.filter Notice.isWarning

theorem Invocation.readLayers_access (paths : List String) (t : FileTree) :
    readLayers FileTree.access paths t = (paths.map t.layer, t) := by
  induction paths with
  | nil => rfl
  | cons path rest ih =>
    change (⟨path, t.read path⟩ :: (readLayers FileTree.access rest t).1,
      (readLayers FileTree.access rest t).2) = _
    rw [ih]
    rfl

namespace FileTree
variable (t : FileTree) (i : Invocation)

def loadConfig (named : Option String) : Logged Config :=
  Config.load named (t.read (Config.path named))

/-- What the run delivers, with its notices. -/
def delivery : Logged Delivery := do
  let config ← t.loadConfig i.config
  i.task.answer config ((i.task.layerPaths config).map t.layer)

/-- What the run shows. -/
def outcome : Outcome := (i.run access t).1

/-- What the run fails for. -/
def failure? : Option Failure :=
  match (t.delivery i).result with
  | .error failure => some failure
  | .ok (.print _) => none
  | .ok (.write path text) =>
    match t.write path text with
    | .error cause => some (.unwritable path cause)
    | .ok _ => none

theorem deliver_access : i.deliver access t = (t.delivery i, t) := by
  have content : access.read (Config.path i.config) t = (t.read (Config.path i.config), t) := rfl
  unfold Invocation.deliver delivery
  change StateT.bind (access.read (Config.path i.config)) _ t = _
  cases loaded : (t.loadConfig i.config).result with
  | error failure =>
    rw [Logged.bind_of_error loaded]
    rw [loadConfig] at loaded
    simp only [StateT.bind, bind, content, loaded]
    rfl
  | ok config =>
    have layers := Invocation.readLayers_access (i.task.layerPaths config) t
    rw [Logged.bind_of_ok loaded]
    rw [loadConfig] at loaded
    simp only [StateT.bind, bind, content, loaded, layers, Logged.bind]
    rfl

/-- The outcome of a run and the tree after it, by what the run delivers. -/
theorem run_access : i.run access t =
    match (t.delivery i).result with
    | .error failure => (Outcome.failed (t.delivery i).notices failure, t)
    | .ok (.print text) =>
      ({ exitCode := 0, stdout := text, notices := (t.delivery i).notices }, t)
    | .ok (.write path text) =>
      match t.write path text with
      | .error cause => (Outcome.failed (t.delivery i).notices (.unwritable path cause), t)
      | .ok after =>
        ({ exitCode := 0
           stdout := Task.done ("Settings written (" ++ path ++ ")")
           notices := (t.delivery i).notices ++ [.written path] }, after) := by
  unfold Invocation.run
  change StateT.bind (i.deliver access) _ t = _
  simp only [StateT.bind, deliver_access]
  obtain ⟨notices, result⟩ := t.delivery i
  cases result with
  | error failure => rfl
  | ok delivered =>
    cases delivered with
    | print text => rfl
    | write path text =>
      change StateT.bind (access.write path text) _ t = _
      simp only [StateT.bind, access]
      cases t.write path text <;> rfl

variable {t : FileTree} {i : Invocation}

theorem outcome_of_print {text : String} (delivered : (t.delivery i).result = .ok (.print text)) :
    t.outcome i = { exitCode := 0, stdout := text, notices := (t.delivery i).notices } := by
  rw [outcome, run_access, delivered]

theorem outcome_of_error {failure : Failure} (failed : (t.delivery i).result = .error failure) :
    t.outcome i = Outcome.failed (t.delivery i).notices failure := by
  rw [outcome, run_access, failed]

/-- Every run that fails reports what for. -/
theorem outcome_of_failure? : (t.outcome i).report = (t.failure? i).map Failure.report ∧
    ((t.outcome i).exitCode = 0 ↔ t.failure? i = none) := by
  rw [outcome, run_access, failure?]
  cases (t.delivery i).result with
  | error failure => exact ⟨rfl, by simp [Outcome.failed]⟩
  | ok delivered =>
    cases delivered with
    | print text => exact ⟨rfl, by simp⟩
    | write path text =>
      simp only
      cases t.write path text with
      | error cause => exact ⟨rfl, by simp [Outcome.failed]⟩
      | ok after => exact ⟨rfl, by simp⟩

theorem delivery_of_exitCode (succeeded : (t.outcome i).exitCode = 0) :
    ∃ delivered, (t.delivery i).result = .ok delivered := by
  cases held : (t.delivery i).result with
  | ok delivered => exact ⟨delivered, rfl⟩
  | error failure => simp [outcome_of_error held, Outcome.failed] at succeeded

/-- A run that has nothing to write prints something or fails. -/
theorem delivery_cases (unwritten : ∀ path text, (t.delivery i).result ≠ .ok (.write path text)) :
    (∃ text, (t.delivery i).result = .ok (.print text)) ∨
      ∃ failure, (t.delivery i).result = .error failure := by
  cases held : (t.delivery i).result with
  | error failure => exact .inr ⟨failure, rfl⟩
  | ok delivered =>
    cases delivered with
    | print text => exact .inl ⟨text, rfl⟩
    | write path text => exact absurd held (unwritten path text)

/-- Writing a file is no cause for a warning. -/
theorem alerts_outcome : (t.outcome i).alerts = (t.delivery i).alerts := by
  rw [outcome, run_access]
  split
  · rfl
  · rfl
  · split
    · rfl
    · exact (List.filter_append _ _).trans (List.append_nil _)

/-- Two runs that have nothing to write and deliver the same show the same, except for notices. -/
theorem outcome_same {u : FileTree} {j : Invocation}
    (same : (u.delivery j).result = (t.delivery i).result)
    (unwritten : ∀ path text, (t.delivery i).result ≠ .ok (.write path text)) :
    (u.outcome j).exitCode = (t.outcome i).exitCode ∧ (u.outcome j).stdout = (t.outcome i).stdout ∧
      (u.outcome j).report = (t.outcome i).report := by
  rcases delivery_cases unwritten with ⟨text, printed⟩ | ⟨failure, failed⟩
  · rw [outcome_of_print printed, outcome_of_print (same.trans printed)]
    exact ⟨rfl, rfl, rfl⟩
  · rw [outcome_of_error failed, outcome_of_error (same.trans failed)]
    exact ⟨rfl, rfl, rfl⟩

/-- Runs that print something about the same thing, or fail for the same reason. -/
theorem run_prints {u : FileTree} {j : Invocation} {α : Type} {made : Except Failure α}
    {print printThere : α → String}
    (delivered : (t.delivery i).result = made.map fun a => .print (print a))
    (deliveredThere : (u.delivery j).result = made.map fun a => .print (printThere a)) :
    let here := i.run access t
    let there := j.run access u
    there.1.exitCode = here.1.exitCode ∧ there.1.report = here.1.report ∧
      here.2 = t ∧ there.2 = u ∧
      (here.1.exitCode = 0 → ∃ a, here.1.stdout = print a ∧ there.1.stdout = printThere a) := by
  intro here there
  simp only [here, there, run_access, delivered, deliveredThere]
  cases made with
  | error failure =>
    exact ⟨rfl, rfl, rfl, rfl, fun succeeded => absurd succeeded Nat.one_ne_zero⟩
  | ok a => exact ⟨rfl, rfl, rfl, rfl, fun _ => ⟨a, rfl, rfl⟩⟩

/-! The configuration -/

variable {named : Option String} {config : Config}

theorem alerts_loadConfig (loaded : (t.loadConfig named).result = .ok config) :
    (t.loadConfig named).alerts = [] := by
  unfold loadConfig at loaded ⊢
  generalize t.read (Config.path named) = content at loaded ⊢
  unfold Config.load at loaded ⊢
  cases content with
  | error cause =>
    by_cases absent : (named.isNone && cause = .missing) = true
    · simp only [absent, if_true]
      rfl
    · simp only [absent] at loaded
      contradiction
  | ok text =>
    cases parsed : Config.ofText? text with
    | none => simp only [parsed] at loaded; contradiction
    | some config => simp only [parsed]; rfl

/-- Under a valid configuration a run is what its task makes of the layers. -/
theorem delivery_of_loadConfig (loaded : (t.loadConfig named).result = .ok config)
    (verbose : Bool) (task : Task) :
    let answered := task.answer config ((task.layerPaths config).map t.layer)
    (t.delivery ⟨verbose, named, task⟩).result = answered.result ∧
      (t.delivery ⟨verbose, named, task⟩).alerts = answered.alerts := by
  rw [delivery, Logged.result_bind_of_ok loaded, Logged.alerts_bind_of_ok loaded,
    alerts_loadConfig loaded, List.nil_append]
  exact ⟨rfl, rfl⟩

theorem locate_defaultPath (t : FileTree) :
    t.locate Config.defaultPath = .ok (t.workingDirectory ++ ["vars.toml"]) := by
  have usable : FileError.ofPath? Config.defaultPath = none := rfl
  have segments : Path.segments Config.defaultPath = ["vars.toml"] := rfl
  have relative : t.start Config.defaultPath = t.workingDirectory := rfl
  have short : ¬ Path.maxNameSize < "vars.toml".utf8ByteSize := by decide
  rw [locate, followPath, usable]
  simp only [segments, relative, follow, t.isDirectory_workingDirectory, if_true, if_neg short]
  rfl

/-- A configuration was read from its path, or there may be one at the usual path. -/
theorem locate_configPath (loaded : (t.loadConfig named).result = .ok config) :
    ∃ names, t.locate (Config.path named) = .ok names := by
  unfold loadConfig Config.load at loaded
  cases readable : t.read (Config.path named) with
  | ok text => exact locate_of_read readable
  | error cause =>
    rw [readable] at loaded
    simp only at loaded
    split at loaded
    · rename_i absent
      simp only [Bool.and_eq_true, Option.isNone_iff_eq_none] at absent
      rw [absent.1]
      exact ⟨_, t.locate_defaultPath⟩
    · contradiction

end FileTree
end ClusterVars
