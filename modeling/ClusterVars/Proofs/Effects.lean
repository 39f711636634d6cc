import ClusterVars.Proofs.Run
import ClusterVars.Proofs.Task

/-! What a run leaves behind. All reading comes before the only write, and the write comes before
anything is shown, so a run that fails has changed nothing; a text that is written is the one that
would have been printed. -/
namespace ClusterVars

/-- What is handed over, as a file where one is asked for. -/
def Delivery.redirect (output : Option String) : Delivery → Delivery
  | .print text =>
    match output with
    | some path => .write path text
    | none => .print text
  | .write path text => .write path text

namespace Task

/-- The file that the task is asked to write. -/
def output? : Task → Option String
  | .provision _ _ output => output
  | .check _ | .render _ _ _ | .options => none

/-- The task without its file. -/
def printed : Task → Task
  | .provision files format _ => .provision files format none
  | .check files => .check files
  | .render files defaults format => .render files defaults format
  | .options => .options

theorem answer_eq_redirect (config : Config) (layers : List Layer) (task : Task) :
    task.answer config layers = task.printed.answer config layers >>=
      fun delivered => pure (delivered.redirect task.output?) := by
  cases task with
  | check files => simp [answer, printed, output?, Delivery.redirect]
  | render files defaults format =>
    cases defaults <;> cases format <;> simp [answer, printed, output?, Delivery.redirect]
  | provision files format output =>
    cases output <;> simp [answer, printed, output?, Delivery.redirect]
  | options => simp [answer, printed, output?, Delivery.redirect]

theorem layerPaths_printed (config : Config) (task : Task) :
    task.printed.layerPaths config = task.layerPaths config := by
  cases task <;> rfl

/-- A task without a file prints. -/
theorem prints_of_answer_printed {config : Config} {layers : List Layer} {task : Task}
    {delivered : Delivery} (answered : (task.printed.answer config layers).result = .ok delivered) :
    ∃ text, delivered = .print text := by
  cases task with
  | check files =>
    obtain ⟨r, -, counted⟩ := Logged.bind_eq_ok answered
    cases counted
    exact ⟨_, rfl⟩
  | render files defaults format =>
    rw [printed, answer_render_in] at answered
    obtain ⟨r, -, rest⟩ := Logged.bind_eq_ok answered
    exact prints_of_printRecord rest
  | provision files format output =>
    rw [printed, answer_provision] at answered
    obtain ⟨r, -, rest⟩ := Logged.bind_eq_ok answered
    exact prints_of_provide rest
  | options =>
    cases answered
    exact ⟨_, rfl⟩

end Task

/-- The invocation without the file that it is to write. -/
def Invocation.printed (i : Invocation) : Invocation := { i with task := i.task.printed }

namespace FileTree
variable {t after : FileTree} {i : Invocation}

theorem delivery_eq_redirect : t.delivery i =
    t.delivery i.printed >>= fun delivered => pure (delivered.redirect i.task.output?) := by
  simp only [delivery, Invocation.printed, bind_assoc, Task.layerPaths_printed]
  congr 1
  funext config
  exact Task.answer_eq_redirect config _ i.task

theorem prints_of_delivery_printed {delivered : Delivery}
    (printed : (t.delivery i.printed).result = .ok delivered) :
    ∃ text, delivered = .print text := by
  obtain ⟨config, -, answered⟩ := Logged.bind_eq_ok printed
  exact Task.prints_of_answer_printed answered

/-- What a run can come to. -/
inductive Effect (t : FileTree) (i : Invocation) : Outcome × FileTree → Prop where
  | failed (notices : List Notice) (failure : Failure) :
      Effect t i (Outcome.failed notices failure, t)
  | printed {notices : List Notice} {text : String} (unasked : i.task.output? = none) :
      Effect t i ({ exitCode := 0, stdout := text, notices := notices }, t)
  | wrote {notices : List Notice} {path text : String} {after : FileTree}
      (asked : i.task.output? = some path)
      (direct : i.printed.run access t =
        ({ exitCode := 0, stdout := text, notices := notices }, t))
      (written : t.write path text = .ok after) :
      Effect t i ({ exitCode := 0
                    stdout := Task.done ("Settings written (" ++ path ++ ")")
                    notices := notices ++ [.written path] }, after)

theorem effect_run (t : FileTree) (i : Invocation) : t.Effect i (i.run access t) := by
  have delivery := delivery_eq_redirect (t := t) (i := i)
  cases direct : (t.delivery i.printed).result with
  | error failure =>
    rw [Logged.bind_of_error direct] at delivery
    rw [run_access, delivery]
    exact .failed _ _
  | ok delivered =>
    obtain ⟨text, rfl⟩ := prints_of_delivery_printed direct
    rw [Logged.bind_of_ok direct] at delivery
    cases asked : i.task.output? with
    | none =>
      rw [asked] at delivery
      rw [run_access, delivery]
      exact .printed asked
    | some path =>
      have shown := run_access t i.printed
      rw [direct] at shown
      rw [asked] at delivery
      rw [run_access, delivery]
      cases written : t.write path text with
      | error cause =>
        simp only [Delivery.redirect, Logged.result_pure, written]
        exact .failed _ _
      | ok after =>
        simp only [Delivery.redirect, Logged.result_pure, Logged.notices_pure, List.append_nil,
          written]
        exact .wrote asked shown written

/-- A run that fails prints nothing and leaves all files alone, and so does every run that is not
asked for a file. A run that writes one changes no other and no directory, and the file holds what
would have been printed from the files as they were. -/
theorem run_effects (t : FileTree) (arguments : List String) :
    let shown := (t.run arguments).1
    let after := (t.run arguments).2
    (shown.exitCode ≠ 0 → shown.stdout = "" ∧ after = t) ∧
      ((∀ i, Invocation.read arguments = .ok i → i.task.output? = none) → after = t) ∧
      ∀ i path, Invocation.read arguments = .ok i → i.task.output? = some path →
        shown.exitCode = 0 →
          let direct := i.printed.run access t
          direct.1.exitCode = 0 ∧ direct.2 = t ∧ after.read path = .ok direct.1.stdout ∧
            ∃ names, t.locate path = .ok names ∧
              (∀ others, after.isDirectory others = t.isDirectory others) ∧
              ∀ others, others ≠ names → after.content? others = t.content? others := by
  cases reading : Invocation.read arguments with
  | error stop =>
    have same : t.run arguments = (stop.outcome, t) := by
      rw [run, runArguments, reading]
      rfl
    rw [same]
    refine ⟨fun failed => ⟨?_, rfl⟩, fun _ => rfl, fun i path contrary => ?_⟩
    · cases stop <;> first | rfl | contradiction
    · contradiction
  | ok i =>
    have same : t.run arguments = i.run access t := by rw [run, runArguments, reading]
    rw [same]
    have effect := effect_run t i
    generalize i.run access t = ended at effect ⊢
    cases effect with
    | failed notices failure =>
      exact ⟨fun _ => ⟨rfl, rfl⟩, fun _ => rfl,
        fun _ _ _ _ succeeded => absurd succeeded Nat.one_ne_zero⟩
    | printed unasked =>
      refine ⟨fun failed => absurd rfl failed, fun _ => rfl, fun j path read asked => ?_⟩
      cases read
      rw [unasked] at asked
      contradiction
    | @wrote notices path text after asked direct written =>
      refine ⟨fun failed => absurd rfl failed, fun unasked => ?_, fun j other read asks _ => ?_⟩
      · rw [unasked i rfl] at asked
        contradiction
      · cases read
        obtain rfl : path = other := Option.some.inj (asked.symm.trans asks)
        obtain ⟨names, located, named, rfl⟩ := write_eq_ok written
        rw [direct]
        refine ⟨rfl, rfl, read_of_write written, names, located, isDirectory_put named text,
          fun others apart => ?_⟩
        exact (content?_put named text others).trans (if_neg apart)

/-- Settings written into an empty directory, by a path that first leaves another one. -/
theorem run_effects_empty_directory :
    let files := ofFiles [("/etc/vars.toml", some "[export]\nformat = \"json\"\n"),
      ("a.rb", some "$os = \"debian12\"\n")]
    let t : FileTree := { files with directories := [["srv", "out"]] }
    let path := "/etc/../srv/out/settings.json"
    let i : Invocation := ⟨false, some "/etc/vars.toml", .provision ["a.rb"] none (some path)⟩
    let arguments := ["-f", "/etc/vars.toml", "export", "-o", path, "a.rb"]
    let after := (t.run arguments).2
    Invocation.read arguments = .ok i ∧ (t.run arguments).1.exitCode = 0 ∧
      t.read path = .error .missing ∧ after.read path = .ok (i.printed.run access t).1.stdout ∧
      after.content? ["work", "a.rb"] = some (some "$os = \"debian12\"\n") := by
  intro files t path i arguments after
  have reading : Invocation.read arguments = .ok i := by decide +kernel
  have succeeded : (t.run arguments).1.exitCode = 0 := by decide +kernel
  have located : t.locate path = .ok ["srv", "out", "settings.json"] := by decide +kernel
  obtain ⟨-, -, redirected⟩ := run_effects t arguments
  obtain ⟨-, -, written, names, led, -, elsewhere⟩ := redirected i path reading rfl succeeded
  cases located.symm.trans led
  refine ⟨reading, succeeded, by decide +kernel, written, ?_⟩
  exact (elsewhere ["work", "a.rb"] (by decide)).trans (by decide +kernel)

end FileTree
end ClusterVars
