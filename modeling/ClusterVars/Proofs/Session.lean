import ClusterVars.Proofs.Verdict
import ClusterVars.Session

/-! Runs of a session. A step that fails leaves the session as it was, also where a text was refused
at a late line; whatever comes after sees no difference between a failed step and none. -/
namespace ClusterVars
open Text
open Assignment (WellFormed)

/-- The text before line `n + 1`. -/
def Text.before (n : Nat) (text : String) : String := String.ofList (upToLine n text.toList)

namespace Bindings
variable {policy : Policy} {b : Bindings} {source text : String}

theorem linesOf_before (n : Nat) (text : String) :
    linesOf (before n text) = (linesOf text).take n := by
  cases n with
  | zero => simp [before, linesOf, upToLine, dropMark, lines_nil]
  | succ n => exact linesOf_upToLine n text

/-- The statements above the one that is refused are accepted by themselves, and all take effect. -/
theorem addText_before_of_refused {n : Nat} {refusal : Refusal}
    (refused : (b.addText policy source text).result = .error (refusal.failureAt ⟨source, n + 1⟩)) :
    (b.addText policy source (before n text)).result =
      .ok ((((linesOf text).take n).filterMap Assignment.held?).foldl Assignment.act b) := by
  have verdict := verdict_addText policy b source text
  rw [Logged.failure?_eq_some.mpr refused] at verdict
  obtain ⟨allWellFormed, first⟩ := verdict.of_refusal
  obtain ⟨-, -, -, -, -, silent⟩ := first.split
  have wellFormed : WellFormed ((linesOf text).take n) :=
    fun line member => allWellFormed line (List.mem_of_mem_take member)
  rw [← linesOf_before] at wellFormed silent ⊢
  exact (addText_of_unrefused b source wellFormed silent).1

end Bindings

namespace Session
variable {d : Defaults} {s : Session} {step : Step}

def Trace.succeeded (trace : Trace) : Bool := trace.reply.failure?.isNone

/-- The session after steps taken one after the other. -/
def after (d : Defaults) (s : Session) (steps : List Step) : Session :=
  steps.foldl (fun s step => (s.perform d step).after) s

/-- The steps of a run that succeed. -/
def succeeding (d : Defaults) (s : Session) (steps : List Step) : List Step :=
  ((steps.zip (s.run d steps)).filter (·.2.succeeded)).map (·.1)

theorem perform_of_error {failure : Failure} (failed : (s.step d step).result = .error failure) :
    s.perform d step = ⟨⟨(s.step d step).notices, .error failure⟩, s⟩ := by
  simp only [perform, failed]

theorem perform_of_ok {reply : Reply} {next : Session}
    (done : (s.step d step).result = .ok (reply, next)) :
    s.perform d step = ⟨⟨(s.step d step).notices, .ok reply⟩, next⟩ := by
  simp only [perform, done]

/-- A trace shows a failure exactly when the step failed. -/
theorem succeeded_perform : (s.perform d step).succeeded = true ↔
    ∃ reply next, (s.step d step).result = .ok (reply, next) := by
  cases held : (s.step d step).result with
  | error failure => simp [perform_of_error held, Trace.succeeded, Logged.failure?]
  | ok taken =>
    obtain ⟨reply, next⟩ := taken
    simp [perform_of_ok held, Trace.succeeded, Logged.failure?]

theorem after_perform_of_failed (failed : (s.perform d step).succeeded = false) :
    (s.perform d step).after = s := by
  cases held : (s.step d step).result with
  | error failure => rw [perform_of_error held]
  | ok taken =>
    have succeeded := succeeded_perform.mpr ⟨_, _, held⟩
    simp [succeeded] at failed

theorem result_addText_of_reported {source text : String} {failure : Failure}
    (reported : (s.perform d (.layer source text)).reply.result = .error failure) :
    (s.bindings.addText s.policy source text).result = .error failure := by
  cases held : (s.bindings.addText s.policy source text).result with
  | error other =>
    rw [perform_of_error (Logged.result_bind_of_error held _)] at reported
    cases reported
    rfl
  | ok b =>
    rw [perform_of_ok (Logged.result_bind_of_ok held _)] at reported
    contradiction

theorem after_append (earlier later : List Step) :
    s.after d (earlier ++ later) = (s.after d earlier).after d later :=
  List.foldl_append

theorem succeeding_cons (steps : List Step) : s.succeeding d (step :: steps) =
    (if (s.perform d step).succeeded then [step] else []) ++
      (s.perform d step).after.succeeding d steps := by
  rw [succeeding, run, List.zip_cons_cons, List.filter_cons]
  split <;> rfl

/-- Leaving out the failed steps leaves out their traces and changes nothing else. -/
theorem run_succeeding_eq_filter (steps : List Step) :
    s.run d (s.succeeding d steps) = (s.run d steps).filter Trace.succeeded ∧
      s.after d (s.succeeding d steps) = s.after d steps := by
  induction steps generalizing s with
  | nil => exact ⟨rfl, rfl⟩
  | cons step steps ih =>
    obtain ⟨traces, final⟩ := ih (s := (s.perform d step).after)
    rw [succeeding_cons, run]
    by_cases succeeded : (s.perform d step).succeeded = true
    · rw [if_pos succeeded, List.filter_cons_of_pos succeeded, List.singleton_append, run, traces]
      exact ⟨rfl, final⟩
    · have failed : (s.perform d step).succeeded = false := by simpa using succeeded
      rw [if_neg succeeded, List.filter_cons_of_neg succeeded, List.nil_append]
      rw [after_perform_of_failed failed] at traces final ⊢
      refine ⟨traces, final.trans ?_⟩
      rw [after, after, List.foldl_cons, after_perform_of_failed failed]

/-- A step that fails leaves the session as it was, though the lines above a refused statement,
loaded by themselves, would have left what all their statements make of it. Without its failed steps
a run shows what it showed at all others and ends in the same session. -/
theorem run_succeeding (d : Defaults) (s : Session) (steps : List Step) :
    (∀ earlier step later, steps = earlier ++ step :: later →
      let before := s.after d earlier
      let trace := before.perform d step
      trace.succeeded = false → s.after d (earlier ++ [step]) = before ∧
        ∀ source text n (refusal : Refusal), step = .layer source text →
          trace.reply.result = .error (refusal.failureAt ⟨source, n + 1⟩) →
          (before.bindings.addText before.policy source (Text.before n text)).result =
            .ok ((((linesOf text).take n).filterMap Assignment.held?).foldl Assignment.act
              before.bindings)) ∧
      s.run d (s.succeeding d steps) = (s.run d steps).filter Trace.succeeded ∧
      s.after d (s.succeeding d steps) = s.after d steps := by
  refine ⟨?_, run_succeeding_eq_filter steps⟩
  intro earlier step later _ before trace failed
  constructor
  · rw [after_append]
    exact after_perform_of_failed failed
  · rintro source text n refusal rfl reported
    exact Bindings.addText_before_of_refused (result_addText_of_reported reported)

/-- The first line by itself would have set the option. -/
example :
    ((⟨.reject, .empty⟩ : Session).run {} [.layer "ci.rb" "$vm_cpus = 2\n$vm_memory = \"x\"\n",
      .isSet "vm_cpus"]).map (·.reply.result) =
    [.error (.mismatch ⟨"ci.rb", 2⟩ .vmMemory (.text "x")), .ok (.told false)] := by
  cbv

end Session
end ClusterVars
