import ClusterVars.Proofs.FinalValue

/-! The policy for unknown names decides about unknown names only. To skip them is to load, without
any leniency, the text in which the lines that name them are empty; each of these lines is left with
one warning. -/
namespace ClusterVars
open Text
open Assignment (fault? held? WellFormed)

namespace Assignment

/-- The schema knows the name. -/
def isKnown (a : Assignment) : Bool := (Key.ofName? a.name).isSome

/-- The name outside the schema that the statement on a line assigns to. -/
def unknownName? (line : List Char) : Option String :=
  (held? line).bind fun a => if a.isKnown then none else some a.name

/-- An empty line in place of one that names an unknown option. -/
def blankUnknown (line : List Char) : List Char :=
  if (unknownName? line).isSome then [] else line

theorem blankUnknown_cases (line : List Char) :
    blankUnknown line = line ∨ blankUnknown line = [] := by
  unfold blankUnknown
  split <;> simp

theorem noFeed_blankUnknown {line : List Char} (noFeed : '\n' ∉ line) :
    '\n' ∉ blankUnknown line := by
  rcases blankUnknown_cases line with same | same <;> simp [same, noFeed]

/-- What is lost is the assignment to the unknown name. A fault stays. -/
theorem read_blankUnknown (line : List Char) :
    read (blankUnknown line) = (read line).map (Option.filter isKnown) := by
  unfold blankUnknown unknownName? held?
  cases found : read line with
  | error fault => simp [found, Except.map]
  | ok held =>
    cases held with
    | none => simp [found, Except.map]
    | some a =>
      by_cases known : a.isKnown = true
      · simp [found, known, Except.map, Option.filter_some]
      · simp only [Option.bind_some, known, Except.map, Option.filter_some]
        rfl

end Assignment

/-- The text in which lines that name an unknown option are empty. -/
def withoutUnknown (text : String) : String :=
  String.ofList (mapLinesAfterMark Assignment.blankUnknown text.toList)

/-- The lines that name an unknown option, by their numbers, with the names. -/
def unknownLines (ls : List (List Char)) : List (Nat × String) :=
  (ls.zipIdx 1).filterMap fun (line, number) =>
    (Assignment.unknownName? line).map fun name => (number, name)

namespace Statement
variable {policy : Policy} {b : Bindings} {source : String}

def isKnown (s : Statement) : Bool := s.assignment.isKnown

/-! Reading: the statements on known names stay, each on its line -/

/-- One line emptied if it names an unknown option, before lines for which that is done already. -/
theorem readLines_blankUnknown_cons (n : Nat) (line : List Char) {ls blanked : List (List Char)}
    (others : readLines source (n + 1) blanked =
      (readLines source (n + 1) ls).map (List.filter isKnown)) :
    readLines source n (Assignment.blankUnknown line :: blanked) =
      (readLines source n (line :: ls)).map (List.filter isKnown) := by
  rw [readLines_cons, readLines_cons, others, Assignment.read_blankUnknown]
  cases Assignment.read line with
  | error fault => rfl
  | ok held =>
    have kept : ((held.filter Assignment.isKnown).map
        fun a => (⟨⟨source, n⟩, a⟩ : Statement)).toList =
          (held.map fun a => (⟨⟨source, n⟩, a⟩ : Statement)).toList.filter isKnown := by
      cases held with
      | none => rfl
      | some a => by_cases known : a.isKnown = true <;> simp [isKnown, known, Option.filter_some]
    simp only [Except.map, kept]
    cases readLines source (n + 1) ls <;> simp

theorem readLines_blankUnknown (source : String) (n : Nat) (ls : List (List Char)) :
    readLines source n (ls.map Assignment.blankUnknown) =
      (readLines source n ls).map (List.filter isKnown) := by
  induction ls generalizing n with
  | nil => rfl
  | cons line ls ih => exact readLines_blankUnknown_cons n line (ih (n + 1))

theorem readText_withoutUnknown (source text : String) :
    readText source (withoutUnknown text) =
      (readText source text).map (List.filter isKnown) := by
  rw [readText_eq, withoutUnknown, String.toList_ofList,
    dropMark_mapLinesAfterMark Assignment.blankUnknown_cases,
    splitOn_mapLines fun _ => Assignment.noFeed_blankUnknown, readLines_blankUnknown,
    ← readText_eq]

example : withoutUnknown
      "\uFEFF$os = nil\r\n$cpus = 2 # no such option\r\n$cpus == 3\n$os2 ||= nil" =
    "\uFEFF$os = nil\r\n\n$cpus == 3\n" := by decide +kernel

/-! Applying: a statement on an unknown name is skipped, and the policy has no say in the others -/

theorem apply_of_isKnown {s : Statement} (known : s.isKnown = true) (b : Bindings)
    (policy other : Policy) : s.apply policy b = s.apply other b := by
  obtain ⟨key, found⟩ := Option.isSome_iff_exists.mp known
  simp only [apply, found]

theorem result_apply_warn_of_unknown {s : Statement} (unknown : ¬ s.isKnown = true)
    (b : Bindings) : (s.apply .warn b).result = .ok b := by
  have missing : Key.ofName? s.assignment.name = none := by
    simpa [isKnown, Assignment.isKnown] using unknown
  simp only [apply, missing]
  rfl

theorem result_applyAll_warn (b : Bindings) (ss : List Statement) :
    (applyAll .warn b ss).result = (applyAll .reject b (ss.filter isKnown)).result := by
  induction ss generalizing b with
  | nil => rfl
  | cons s ss ih =>
    by_cases known : s.isKnown = true
    · rw [List.filter_cons_of_pos known, applyAll, applyAll,
        apply_of_isKnown known b .warn .reject, Logged.result_bind, Logged.result_bind]
      congr 1
      funext b
      exact ih b
    · rw [List.filter_cons_of_neg known, applyAll,
        Logged.result_bind_of_ok (result_apply_warn_of_unknown known b)]
      exact ih b

end Statement

/-! Warnings -/

/-- The warnings about names that are skipped, one for each line that has one. -/
def skippedOn (source : String) (ls : List (List Char)) : List Notice :=
  (unknownLines ls).map fun (number, name) => .ignored ⟨source, number⟩ name

theorem ignored_warn (source : String) (ls : List (List Char)) :
    ignored .warn source ls = skippedOn source ls := by
  unfold ignored skippedOn unknownLines
  generalize 1 = n
  induction ls generalizing n with
  | nil => rfl
  | cons line ls ih =>
    rw [Statement.ofLines_cons, List.filterMap_append, ih (n + 1), List.zipIdx_cons]
    cases holds : held? line with
    | none =>
      have named : Assignment.unknownName? line = none := by simp [Assignment.unknownName?, holds]
      simp [named]
    | some a =>
      by_cases unknown : Key.ofName? a.name = none
      · have named : Assignment.unknownName? line = some a.name := by
          simp [Assignment.unknownName?, holds, Assignment.isKnown, unknown]
        simp [named, Statement.warning?, Assignment.warning?, unknown]
      · have named : Assignment.unknownName? line = none := by
          simp [Assignment.unknownName?, holds, Assignment.isKnown, Option.isSome_iff_ne_none,
            unknown]
        simp [named, Statement.warning?, Assignment.warning?, unknown]

theorem Assignment.isKnown_of_unrefused {a : Assignment} (unrefused : a.refusal? .reject = none) :
    a.isKnown = true := by
  cases found : Key.ofName? a.name with
  | none => simp [refusal?, found] at unrefused
  | some key => simp [isKnown, found]

theorem skippedOn_of_unrefused (source : String) {ls : List (List Char)}
    (unrefused : ∀ line ∈ ls, refusalIn? .reject line = none) : skippedOn source ls = [] := by
  have nothing : unknownLines ls = [] := by
    rw [unknownLines, List.filterMap_eq_nil_iff]
    rintro ⟨line, number⟩ numbered
    have accepted := unrefused line (List.fst_mem_of_mem_zipIdx numbered)
    cases holds : held? line with
    | none => simp [Assignment.unknownName?, holds]
    | some a =>
      have known : a.isKnown = true :=
        Assignment.isKnown_of_unrefused (by simpa [refusalIn?, holds] using accepted)
      simp [Assignment.unknownName?, holds, known]
  rw [skippedOn, nothing, List.map_nil]

namespace Bindings
variable (b : Bindings) (source text : String)

theorem result_addText (policy : Policy) :
    (b.addText policy source text).result =
      (Statement.readText source text).bind fun ss => (applyAll policy b ss).result := by
  unfold addText
  cases Statement.readText source text with
  | error failure => rfl
  | ok ss =>
    rw [Logged.result_bind_of_ok rfl]
    change _ = (applyAll policy b ss).result
    cases applied : (applyAll policy b ss).result with
    | error failure => exact Logged.result_bind_of_error applied _
    | ok after => rw [Logged.result_bind_of_ok applied]; rfl

theorem result_addText_warn :
    (b.addText .warn source text).result =
      (b.addText .reject source (withoutUnknown text)).result := by
  rw [result_addText, result_addText, Statement.readText_withoutUnknown]
  cases Statement.readText source text with
  | error failure => rfl
  | ok ss => exact Statement.result_applyAll_warn b ss

/-- Where nothing is rejected there is no name to skip. -/
theorem addText_warn_of_reject {after : Bindings}
    (done : (b.addText .reject source text).result = .ok after) :
    (b.addText .warn source text).result = .ok after ∧ skippedOn source (linesOf text) = [] := by
  obtain ⟨wellFormed, unrefused, -⟩ := addText_eq_ok done
  refine ⟨?_, skippedOn_of_unrefused source unrefused⟩
  have read : Statement.readText source text = .ok (Statement.ofLines source 1 (linesOf text)) :=
    Statement.readLines_of_wellFormed wellFormed source 1
  have allKnown : (Statement.ofLines source 1 (linesOf text)).filter Statement.isKnown =
      Statement.ofLines source 1 (linesOf text) := by
    rw [List.filter_eq_self]
    intro s member
    exact Assignment.isKnown_of_unrefused (Statement.unrefused_ofLines unrefused source 1 s member)
  rw [← done, result_addText, result_addText, read]
  change (applyAll .warn b _).result = (applyAll .reject b _).result
  rw [Statement.result_applyAll_warn, allKnown]

end Bindings

namespace Verdict
variable {source : String} {ls : List (List Char)} {alerts : List Notice} {failure : Failure}

/-- Leniency refuses no name, and it warns about the lines before the one that fails. -/
theorem of_warn (verdict : Verdict .warn source ls alerts (some failure)) :
    (∀ location name, failure ≠ .unknownName location name) ∧
      ∃ i, failure.location? = some ⟨source, i + 1⟩ ∧
        (¬ WellFormed ls → alerts = []) ∧
        (WellFormed ls → alerts = skippedOn source (ls.take i)) := by
  generalize outcome : some failure = failure? at verdict
  cases verdict with
  | @malformed i fault first =>
    cases outcome
    refine ⟨by simp, i, rfl, fun _ => rfl, fun wellFormed => absurd wellFormed first.not_none⟩
  | @refused i refusal wellFormed first =>
    cases outcome
    refine ⟨?_, i, refusal.location?_failureAt _, fun faulty => absurd wellFormed faulty,
      fun _ => ignored_warn source _⟩
    obtain ⟨line, rest, -, -, refused, -⟩ := first.split
    obtain ⟨a, -, refused⟩ := Option.bind_eq_some_iff.mp refused
    cases refusal with
    | mismatch key found => simp [Refusal.failureAt]
    | unknownName other =>
      unfold Assignment.refusal? at refused
      split at refused <;> simp at refused
  | accepted => contradiction

end Verdict

/-- Under leniency a text comes to what it comes to under rejection once the lines that name unknown
options are empty. Each of these lines up to a failure is warned about, unless a line is malformed;
and where rejection has nothing to reject, leniency has nothing to warn about. -/
theorem Bindings.addText_warn (b : Bindings) (source text : String) :
    let lenient := b.addText .warn source text
    lenient.result = (b.addText .reject source (withoutUnknown text)).result ∧
      (∀ location name, lenient.result ≠ .error (.unknownName location name)) ∧
      (∀ after, lenient.result = .ok after → lenient.alerts = skippedOn source (linesOf text)) ∧
      (∀ failure, lenient.result = .error failure →
        ∃ i, failure.location? = some ⟨source, i + 1⟩ ∧
          (¬ WellFormed (linesOf text) → lenient.alerts = []) ∧
          (WellFormed (linesOf text) →
            lenient.alerts = skippedOn source ((linesOf text).take i))) ∧
      ∀ after, (b.addText .reject source text).result = .ok after →
        lenient.result = .ok after ∧ lenient.alerts = [] := by
  intro lenient
  have verdict : Verdict .warn source (linesOf text) lenient.alerts lenient.failure? :=
    verdict_addText .warn b source text
  refine ⟨result_addText_warn b source text, ?_, ?_, ?_, ?_⟩
  · intro location name failed
    rw [Logged.failure?_eq_some.mpr failed] at verdict
    exact verdict.of_warn.1 location name rfl
  · intro after done
    rw [Logged.failure?_eq_none.mpr ⟨after, done⟩] at verdict
    rw [verdict.of_none.2.2, ignored_warn]
  · intro failure failed
    rw [Logged.failure?_eq_some.mpr failed] at verdict
    exact verdict.of_warn.2
  · intro after done
    obtain ⟨skipped, nothing⟩ := addText_warn_of_reject b source text done
    rw [Logged.failure?_eq_none.mpr ⟨after, skipped⟩] at verdict
    exact ⟨skipped, by rw [verdict.of_none.2.2, ignored_warn, nothing]⟩

end ClusterVars
