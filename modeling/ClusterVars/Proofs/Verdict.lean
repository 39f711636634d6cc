import ClusterVars.Load
import ClusterVars.Proofs.Journal
import ClusterVars.Proofs.Statement

/-! Loading a text checks it first and changes bindings afterwards. The check does not look at the
bindings; what it comes to is a verdict on the lines, and the change is a fold of the assignments
that the lines hold. -/
namespace ClusterVars
open Text
open Assignment (fault? held? WellFormed)

/-- The lines that the reader sees. -/
def Text.linesOf (text : String) : List (List Char) := lines (dropMark text.toList)

/-- Why an assignment is refused. -/
inductive Refusal
  | unknownName (name : String)
  | mismatch (key : Key) (found : Literal)
  deriving DecidableEq, Repr

def Refusal.failureAt (location : Location) : Refusal → Failure
  | .unknownName name => .unknownName location name
  | .mismatch key found => .mismatch location key found

theorem Refusal.location?_failureAt (refusal : Refusal) (location : Location) :
    (refusal.failureAt location).location? = some location := by
  cases refusal <;> rfl

theorem Refusal.failureAt_injective {refusal other : Refusal} {location elsewhere : Location}
    (same : refusal.failureAt location = other.failureAt elsewhere) :
    refusal = other ∧ location = elsewhere := by
  cases refusal <;> cases other <;> cases same <;> exact ⟨rfl, rfl⟩

namespace Assignment

/-- An unknown name is refused under one policy, and a literal that neither clears its option nor
fits it under both. -/
def refusal? (policy : Policy) (a : Assignment) : Option Refusal :=
  match Key.ofName? a.name with
  | none => if policy = .reject then some (.unknownName a.name) else none
  | some key =>
    if a.value = .nil ∨ (key.kind.value? a.value).isSome then none
    else some (.mismatch key a.value)

def warning? (policy : Policy) (location : Location) (a : Assignment) : Option Notice :=
  if policy = .warn ∧ Key.ofName? a.name = none then some (.ignored location a.name) else none

/-- The bindings after an assignment that is not refused. -/
def act (b : Bindings) (a : Assignment) : Bindings :=
  match Key.ofName? a.name with
  | none => b
  | some key =>
    match key.meaning? a.value, a.operator with
    | none, _ => b
    | some value, .assign => b.assign key.name value
    | some value, .fill => b.fill key.name value

theorem fits_of_unrefused {policy : Policy} {a : Assignment} {key : Key}
    (known : Key.ofName? a.name = some key) (unrefused : a.refusal? policy = none) :
    a.value = .nil ∨ ∃ v, key.kind.value? a.value = some v := by
  simpa [refusal?, known, Option.isSome_iff_exists, Classical.or_iff_not_imp_left] using unrefused

theorem meaning?_of_unrefused {policy : Policy} {a : Assignment} {key : Key}
    (known : Key.ofName? a.name = some key) (unrefused : a.refusal? policy = none) :
    ∃ value, key.meaning? a.value = some value := by
  by_cases clears : a.value = .nil
  · exact ⟨none, by simp [Key.meaning?, clears]⟩
  · obtain ⟨v, coerced⟩ := (fits_of_unrefused known unrefused).resolve_left clears
    exact ⟨some v, by simp [Key.meaning?, clears, coerced]⟩

end Assignment

namespace Statement
variable (policy : Policy) (b : Bindings)

theorem apply_of_refused {s : Statement} {refusal : Refusal}
    (refused : s.assignment.refusal? policy = some refusal) :
    s.apply policy b = Logged.fail (refusal.failureAt s.location) := by
  unfold apply
  cases known : Key.ofName? s.assignment.name with
  | none =>
    simp only [Assignment.refusal?, known] at refused
    cases policy with
    | warn => simp at refused
    | reject => simp at refused; subst refused; rfl
  | some key =>
    simp only [Assignment.refusal?, known] at refused
    split at refused
    · contradiction
    · rename_i unfit
      obtain ⟨solid, misfit⟩ := not_or.mp unfit
      have meaningless : key.meaning? s.assignment.value = none := by
        simpa [Key.meaning?, solid] using misfit
      cases refused
      simp only [meaningless]
      rfl

theorem apply_of_unrefused {s : Statement} (unrefused : s.assignment.refusal? policy = none) :
    (s.apply policy b).result = .ok (s.assignment.act b) ∧
      (s.apply policy b).alerts = (s.assignment.warning? policy s.location).toList := by
  unfold apply
  cases known : Key.ofName? s.assignment.name with
  | none =>
    cases policy with
    | reject => simp [Assignment.refusal?, known] at unrefused
    | warn =>
      simp only [Assignment.act, Assignment.warning?, known]
      exact ⟨rfl, rfl⟩
  | some key =>
    obtain ⟨value, meaning⟩ := Assignment.meaning?_of_unrefused known unrefused
    simp only [Assignment.act, Assignment.warning?, known, meaning]
    cases s.assignment.operator with
    | assign => exact ⟨rfl, by simp⟩
    | fill =>
      by_cases bound : b.isSet key.name
      · simp only [bound, if_true, Bindings.fill]
        exact ⟨rfl, by simp; rfl⟩
      · simp only [bound, Bindings.fill]
        exact ⟨rfl, by simp⟩

/-- What a statement warns about. -/
def warning? (s : Statement) : Option Notice := s.assignment.warning? policy s.location

/-- The policy accepts every one of the statements. -/
def Unrefused (ss : List Statement) : Prop := ∀ s ∈ ss, s.assignment.refusal? policy = none

theorem applyAll_append (ss ts : List Statement) :
    applyAll policy b (ss ++ ts) = applyAll policy b ss >>= fun b => applyAll policy b ts := by
  induction ss generalizing b with
  | nil => simp [applyAll]
  | cons s ss ih => simp only [List.cons_append, applyAll, bind_assoc, ih]

theorem applyAll_of_unrefused {ss : List Statement} (unrefused : Unrefused policy ss) :
    (applyAll policy b ss).result = .ok ((ss.map (·.assignment)).foldl Assignment.act b) ∧
      (applyAll policy b ss).alerts = ss.filterMap (warning? policy) := by
  induction ss generalizing b with
  | nil => exact ⟨rfl, rfl⟩
  | cons s ss ih =>
    obtain ⟨result, alerts⟩ := apply_of_unrefused policy b (unrefused s (by simp))
    have others := ih (s.assignment.act b) fun s member => unrefused s (by simp [member])
    rw [applyAll, Logged.result_bind_of_ok result, Logged.alerts_bind_of_ok result, alerts]
    refine ⟨others.1, ?_⟩
    rw [others.2, List.filterMap_cons, warning?]
    cases s.assignment.warning? policy s.location <;> rfl

theorem applyAll_of_refused {ss : List Statement} {s : Statement} {refusal : Refusal}
    (unrefused : Unrefused policy ss) (refused : s.assignment.refusal? policy = some refusal)
    (rest : List Statement) :
    (applyAll policy b (ss ++ s :: rest)).result = .error (refusal.failureAt s.location) ∧
      (applyAll policy b (ss ++ s :: rest)).alerts = ss.filterMap (warning? policy) := by
  obtain ⟨result, alerts⟩ := applyAll_of_unrefused policy b unrefused
  have stops (b : Bindings) : applyAll policy b (s :: rest) =
      ⟨[], .error (refusal.failureAt s.location)⟩ := by
    rw [applyAll, apply_of_refused policy b refused]
    rfl
  rw [applyAll_append, Logged.result_bind_of_ok result, Logged.alerts_bind_of_ok result, stops,
    alerts]
  exact ⟨rfl, List.append_nil _⟩

end Statement

/-! Verdicts on lines -/

/-- Why the assignment on a line is refused. -/
def refusalIn? (policy : Policy) (line : List Char) : Option Refusal :=
  (held? line).bind (Assignment.refusal? policy)

/-- The warnings of lines that are numbered from one on: one for each unknown name that is not
refused. -/
def ignored (policy : Policy) (source : String) (ls : List (List Char)) : List Notice :=
  (Statement.ofLines source 1 ls).filterMap (Statement.warning? policy)

/-- What a text comes to, with its warnings and its failure. The first fault among all lines
decides; only where there is none, the first refusal does. -/
inductive Verdict (policy : Policy) (source : String) (ls : List (List Char)) :
    List Notice → Option Failure → Prop where
  | malformed {i fault} : FirstAt fault? ls i fault →
      Verdict policy source ls [] (some (.malformed ⟨source, i + 1⟩ fault))
  | refused {i refusal} : WellFormed ls → FirstAt (refusalIn? policy) ls i refusal →
      Verdict policy source ls (ignored policy source (ls.take i))
        (some (refusal.failureAt ⟨source, i + 1⟩))
  | accepted : WellFormed ls → (∀ line ∈ ls, refusalIn? policy line = none) →
      Verdict policy source ls (ignored policy source ls) none

namespace Verdict
variable {policy : Policy} {source : String} {ls : List (List Char)}
  {alerts others : List Notice} {failure? other? : Option Failure}

theorem unique (verdict : Verdict policy source ls alerts failure?)
    (other : Verdict policy source ls others other?) : alerts = others ∧ failure? = other? := by
  cases verdict with
  | malformed first =>
    cases other with
    | malformed second => obtain ⟨rfl, rfl⟩ := first.unique second; exact ⟨rfl, rfl⟩
    | refused wellFormed _ => exact absurd wellFormed first.not_none
    | accepted wellFormed _ => exact absurd wellFormed first.not_none
  | refused wellFormed first =>
    cases other with
    | malformed second => exact absurd wellFormed second.not_none
    | refused _ second => obtain ⟨rfl, rfl⟩ := first.unique second; exact ⟨rfl, rfl⟩
    | accepted _ unrefused => exact absurd unrefused first.not_none
  | accepted wellFormed unrefused =>
    cases other with
    | malformed second => exact absurd wellFormed second.not_none
    | refused _ second => exact absurd unrefused second.not_none
    | accepted _ _ => exact ⟨rfl, rfl⟩

theorem of_none (verdict : Verdict policy source ls alerts none) :
    WellFormed ls ∧ (∀ line ∈ ls, refusalIn? policy line = none) ∧
      alerts = ignored policy source ls := by
  generalize outcome : none = failure? at verdict
  cases verdict with
  | malformed | refused => contradiction
  | accepted wellFormed unrefused => exact ⟨wellFormed, unrefused, rfl⟩

/-- The refusal that a failure reports is the first one, on the line that the failure names. -/
theorem of_refusal {n : Nat} {refusal : Refusal}
    (verdict : Verdict policy source ls alerts (some (refusal.failureAt ⟨source, n + 1⟩))) :
    WellFormed ls ∧ FirstAt (refusalIn? policy) ls n refusal := by
  generalize outcome : some (refusal.failureAt ⟨source, n + 1⟩) = failure? at verdict
  cases verdict with
  | malformed | accepted => cases refusal <;> cases outcome
  | @refused i first wellFormed reported =>
    obtain ⟨rfl, located⟩ := Refusal.failureAt_injective (Option.some.inj outcome)
    cases located
    exact ⟨wellFormed, reported⟩

/-- A failure names a line, and the lines after that one play no part in it. -/
theorem cut {failure : Failure} (verdict : Verdict policy source ls alerts (some failure)) :
    ∃ i, failure.location? = some ⟨source, i + 1⟩ ∧
      Verdict policy source (ls.take (i + 1)) alerts (some failure) := by
  generalize outcome : some failure = failure? at verdict
  cases verdict with
  | @malformed i fault first =>
    cases outcome
    exact ⟨i, rfl, .malformed first.take⟩
  | @refused i refusal wellFormed first =>
    cases outcome
    refine ⟨i, refusal.location?_failureAt _, ?_⟩
    have kept : WellFormed (ls.take (i + 1)) :=
      fun line member => wellFormed line (List.mem_of_mem_take member)
    have same : (ls.take (i + 1)).take i = ls.take i := by simp [List.take_take]
    simpa only [same] using Verdict.refused kept first.take
  | accepted => contradiction

end Verdict

namespace Statement
variable {policy : Policy} {ls : List (List Char)}

theorem mem_ofLines {source : String} {n : Nat} {s : Statement}
    (member : s ∈ ofLines source n ls) : ∃ line ∈ ls, held? line = some s.assignment := by
  simp only [ofLines, List.mem_filterMap, Option.map_eq_some_iff] at member
  obtain ⟨⟨line, number⟩, numbered, assignment, held, rfl⟩ := member
  exact ⟨line, List.fst_mem_of_mem_zipIdx numbered, held⟩

theorem unrefused_ofLines (unrefused : ∀ line ∈ ls, refusalIn? policy line = none)
    (source : String) (n : Nat) : Unrefused policy (ofLines source n ls) := by
  intro s member
  obtain ⟨line, inLines, held⟩ := mem_ofLines member
  simpa [refusalIn?, held] using unrefused line inLines

theorem applyAll_ofLines_of_unrefused (unrefused : ∀ line ∈ ls, refusalIn? policy line = none)
    (b : Bindings) (source : String) (n : Nat) :
    (applyAll policy b (ofLines source n ls)).result =
        .ok ((ls.filterMap held?).foldl Assignment.act b) ∧
      (applyAll policy b (ofLines source n ls)).alerts =
        (ofLines source n ls).filterMap (warning? policy) := by
  rw [← assignment_ofLines source n]
  exact applyAll_of_unrefused policy b (unrefused_ofLines unrefused source n)

/-- Up to the first refusal the statements are those of the lines before it. -/
theorem applyAll_ofLines_of_refused {i : Nat} {refusal : Refusal}
    (first : FirstAt (refusalIn? policy) ls i refusal) (b : Bindings) (source : String) (n : Nat) :
    (applyAll policy b (ofLines source n ls)).result =
        .error (refusal.failureAt ⟨source, n + i⟩) ∧
      (applyAll policy b (ofLines source n ls)).alerts =
        (ofLines source n (ls.take i)).filterMap (warning? policy) := by
  obtain ⟨line, rest, split, length, refused, silent⟩ := first.split
  obtain ⟨a, held, refused⟩ := Option.bind_eq_some_iff.mp refused
  have statements : ofLines source n ls = ofLines source n (ls.take i) ++
      ⟨⟨source, n + i⟩, a⟩ :: ofLines source (n + i + 1) rest := by
    conv => lhs; rw [split]
    rw [ofLines_append, ofLines_cons, held, length]
    rfl
  rw [statements]
  exact applyAll_of_refused policy b (s := ⟨⟨source, n + i⟩, a⟩)
    (unrefused_ofLines silent source n) refused _

end Statement

namespace Bindings
open Statement (ofLines)
variable (policy : Policy) (b : Bindings) (source : String) {text : String}

theorem addText_of_fault {i : Nat} {fault : LineFault}
    (first : FirstAt fault? (linesOf text) i fault) :
    b.addText policy source text = ⟨[], .error (.malformed ⟨source, i + 1⟩ fault)⟩ := by
  have read := Statement.readLines_of_fault first source 1
  rw [addText, Statement.readText, ← linesOf, read, Nat.add_comm 1 i]
  rfl

theorem addText_of_wellFormed (wellFormed : WellFormed (linesOf text)) :
    (b.addText policy source text).result =
        (applyAll policy b (ofLines source 1 (linesOf text))).result ∧
      (b.addText policy source text).alerts =
        (applyAll policy b (ofLines source 1 (linesOf text))).alerts := by
  have read := Statement.readLines_of_wellFormed wellFormed source 1
  rw [addText, Statement.readText, ← linesOf, read,
    Logged.result_bind_of_ok rfl, Logged.alerts_bind_of_ok rfl]
  cases applied : (applyAll policy b (ofLines source 1 (linesOf text))).result with
  | error failure =>
    rw [Logged.result_bind_of_error applied, Logged.alerts_bind_of_error applied]
    exact ⟨rfl, rfl⟩
  | ok after =>
    rw [Logged.result_bind_of_ok applied, Logged.alerts_bind_of_ok applied]
    exact ⟨rfl, List.append_nil _⟩

variable {policy}

/-- The first refusal stops a text without a fault, on the line that it refuses. -/
theorem addText_of_refused (wellFormed : WellFormed (linesOf text)) {i : Nat} {refusal : Refusal}
    (first : FirstAt (refusalIn? policy) (linesOf text) i refusal) :
    (b.addText policy source text).result = .error (refusal.failureAt ⟨source, i + 1⟩) ∧
      (b.addText policy source text).alerts = ignored policy source ((linesOf text).take i) := by
  obtain ⟨result, alerts⟩ := addText_of_wellFormed policy b source wellFormed
  obtain ⟨stopped, warned⟩ := Statement.applyAll_ofLines_of_refused first b source 1
  rw [result, stopped, alerts, warned, Nat.add_comm 1 i]
  exact ⟨rfl, rfl⟩

theorem addText_of_unrefused (wellFormed : WellFormed (linesOf text))
    (unrefused : ∀ line ∈ linesOf text, refusalIn? policy line = none) :
    (b.addText policy source text).result =
        .ok (((linesOf text).filterMap held?).foldl Assignment.act b) ∧
      (b.addText policy source text).alerts = ignored policy source (linesOf text) := by
  obtain ⟨result, alerts⟩ := addText_of_wellFormed policy b source wellFormed
  obtain ⟨done, warned⟩ := Statement.applyAll_ofLines_of_unrefused unrefused b source 1
  exact ⟨result.trans done, alerts.trans warned⟩

variable (policy)

theorem verdict_addText (text : String) :
    Verdict policy source (linesOf text) (b.addText policy source text).alerts
      (b.addText policy source text).failure? := by
  rcases FirstAt.exists_or_none fault? (linesOf text) with ⟨i, fault, first⟩ | wellFormed
  · rw [addText_of_fault policy b source first]
    exact .malformed first
  · rcases FirstAt.exists_or_none (refusalIn? policy) (linesOf text)
      with ⟨i, refusal, first⟩ | unrefused
    · obtain ⟨stopped, warned⟩ := addText_of_refused b source wellFormed first
      rw [warned, Logged.failure?_eq_some.mpr stopped]
      exact .refused wellFormed first
    · obtain ⟨done, warned⟩ := addText_of_unrefused b source wellFormed unrefused
      rw [warned, Logged.failure?_eq_none.mpr ⟨_, done⟩]
      exact .accepted wellFormed unrefused

theorem linesOf_upToLine (n : Nat) (text : String) :
    linesOf (String.ofList (upToLine (n + 1) text.toList)) = (linesOf text).take (n + 1) := by
  rw [linesOf, String.toList_ofList, dropMark_upToLine, lines_upToLine, linesOf]

/-- The outcome of adding a text is the verdict on its lines. The bindings before have no part in
it, and a failure stays the same when the text is cut off after the line that it names. -/
theorem outcome_addText (policy : Policy) (b : Bindings) (source text : String) :
    Verdict policy source (linesOf text) (b.addText policy source text).alerts
        (b.addText policy source text).failure? ∧
      (∀ other : Bindings,
        (other.addText policy source text).alerts = (b.addText policy source text).alerts ∧
        (other.addText policy source text).failure? = (b.addText policy source text).failure?) ∧
      ∀ failure, (b.addText policy source text).failure? = some failure →
        ∃ n, failure.location? = some ⟨source, n⟩ ∧
          let cut := String.ofList (upToLine n text.toList)
          (b.addText policy source cut).failure? = some failure ∧
          (b.addText policy source cut).alerts = (b.addText policy source text).alerts := by
  have verdict := verdict_addText policy b source text
  refine ⟨verdict, fun other => (verdict_addText policy other source text).unique verdict, ?_⟩
  intro failure failed
  rw [failed] at verdict
  obtain ⟨i, named, atCut⟩ := verdict.cut
  rw [← linesOf_upToLine] at atCut
  obtain ⟨alerts, failure⟩ := (verdict_addText policy b source _).unique atCut
  exact ⟨i + 1, named, failure, alerts⟩

end Bindings
end ClusterVars
