import ClusterVars.Proofs.FinalValue

/-! Layers against one text. Loading layers one on top of the other is loading the text in which
each layer follows a line feed; only the places that warnings and failures name differ, and those
by the number of lines before the layer. -/
namespace ClusterVars
open Text
open Assignment (held? WellFormed)

/-- A named text that can be read, as a layer. -/
def Layer.readable (entry : String × String) : Layer := ⟨entry.1, .ok entry.2⟩

/-- The texts one after the other, each after a line feed and without its byte order mark. -/
def concatenation (entries : List (String × String)) : List Char :=
  entries.flatMap fun entry => '\n' :: dropMark entry.2.toList

/-- The number of lines of a concatenation that end before the next text starts. -/
def linesBefore (before : List (String × String)) : Nat := (concatenation before).count '\n' + 1

/-- The unknown name that a warning is about. -/
def Notice.ignoredName? : Notice → Option String
  | .ignored _ name => some name
  | _ => none

section concatenation
variable {entry : String × String} {entries : List (String × String)}

theorem concatenation_cons : concatenation (entry :: entries) =
    '\n' :: (dropMark entry.2.toList ++ concatenation entries) := by
  simp [concatenation]

theorem concatenation_starts (entries : List (String × String)) : concatenation entries = [] ∨
    ∃ rest, concatenation entries = '\n' :: rest := by
  cases entries with
  | nil => exact .inl rfl
  | cons entry entries => exact .inr ⟨_, concatenation_cons⟩

theorem linesOf_concatenation :
    linesOf (String.ofList (concatenation entries)) = lines (concatenation entries) := by
  rw [linesOf, String.toList_ofList]
  rcases concatenation_starts entries with empty | ⟨rest, starts⟩
  · rw [empty]; rfl
  · rw [starts]; rfl

/-- The lines of a text follow in the concatenation on those before it. -/
theorem trim_line_concatenation (before : List (String × String)) (name text : String)
    (rest : List (String × String)) (split : entries = before ++ (name, text) :: rest) (i : Nat)
    (inside : i < (linesOf text).length) :
    (linesOf (String.ofList (concatenation entries)))[linesBefore before + i]?.map trim =
      (linesOf text)[i]?.map trim := by
  have joined : concatenation entries =
      concatenation before ++ '\n' :: (dropMark text.toList ++ concatenation rest) := by
    simp [concatenation, split]
  rw [linesOf_concatenation, joined, linesBefore, ← List.getElem?_drop, drop_lines]
  exact trim_getElem?_lines _ _ (concatenation_starts rest) inside

theorem wellFormed_concatenation : WellFormed (lines (concatenation entries)) ↔
    ∀ entry ∈ entries, WellFormed (linesOf entry.2) := by
  induction entries with
  | nil => simp [concatenation, WellFormed, lines_nil]
  | cons entry entries ih =>
    have blank (ls : List (List Char)) : WellFormed ([] :: ls) ↔ WellFormed ls := by
      simp [WellFormed]
    rw [concatenation_cons, lines_newline, blank,
      Statement.wellFormed_lines_append _ _ (concatenation_starts _), ih, List.forall_mem_cons,
      linesOf]

theorem ofLines_concatenation_cons (source : String) (n : Nat) :
    Statement.ofLines source n (lines (concatenation (entry :: entries))) =
      Statement.ofLines source (n + 1) (linesOf entry.2) ++
        Statement.ofLines source (n + 1 + (dropMark entry.2.toList).count '\n')
          (lines (concatenation entries)) := by
  rw [concatenation_cons, lines_newline, Statement.ofLines_cons,
    Statement.ofLines_lines_append _ _ _ _ (concatenation_starts _), linesOf]
  rfl

end concatenation

namespace Statement
variable {policy : Policy}

/-- Which names are warned about depends on the lines and not on how they are numbered. -/
theorem ignoredNames_ofLines (source other : String) (n m : Nat) (ls : List (List Char)) :
    ((ofLines source n ls).filterMap (warning? policy)).map Notice.ignoredName? =
      ((ofLines other m ls).filterMap (warning? policy)).map Notice.ignoredName? := by
  induction ls generalizing n m with
  | nil => rfl
  | cons line ls ih =>
    have others := ih (n + 1) (m + 1)
    rw [ofLines_cons, ofLines_cons]
    cases held : held? line with
    | none => simpa using others
    | some a =>
      by_cases warned : policy = .warn ∧ Key.ofName? a.name = none
      · simpa [warning?, Assignment.warning?, warned, Notice.ignoredName?] using others
      · simpa [warning?, Assignment.warning?, warned] using others

end Statement

/-- One of the layers is refused at a line of its own, those before it being accepted. -/
structure RefusedAt (policy : Policy) (b : Bindings) (entries before : List (String × String))
    (name : String) (line : Nat) (refusal : Refusal) : Prop where
  reached : ∃ text rest middle, entries = before ++ (name, text) :: rest ∧
    (b.addLayers policy (before.map Layer.readable)).result = .ok middle ∧
    (middle.addText policy name text).result = .error (refusal.failureAt ⟨name, line⟩)

namespace Bindings
open Statement (ofLines)
variable (policy : Policy) (b : Bindings)

/-- A layer by itself and its lines anywhere in another text, on the same bindings. -/
theorem addText_elsewhere (name source : String) (n : Nat) {text : String}
    (wellFormed : WellFormed (linesOf text)) :
    let here := b.addText policy name text
    let there := applyAll policy b (ofLines source n (linesOf text))
    here.alerts.map Notice.ignoredName? = there.alerts.map Notice.ignoredName? ∧
      ((∃ after, here.result = .ok after ∧ there.result = .ok after) ∨
        ∃ i, ∃ refusal : Refusal, here.result = .error (refusal.failureAt ⟨name, i + 1⟩) ∧
          there.result = .error (refusal.failureAt ⟨source, n + i⟩)) := by
  intro here there
  rcases FirstAt.exists_or_none (refusalIn? policy) (linesOf text)
    with ⟨i, refusal, first⟩ | unrefused
  · obtain ⟨stopped, warned⟩ := addText_of_refused b name wellFormed first
    obtain ⟨stoppedThere, warnedThere⟩ := Statement.applyAll_ofLines_of_refused first b source n
    refine ⟨?_, .inr ⟨i, refusal, stopped, stoppedThere⟩⟩
    rw [warned, warnedThere]
    exact Statement.ignoredNames_ofLines ..
  · obtain ⟨done, warned⟩ := addText_of_unrefused b name wellFormed unrefused
    obtain ⟨doneThere, warnedThere⟩ :=
      Statement.applyAll_ofLines_of_unrefused unrefused b source n
    refine ⟨?_, .inl ⟨_, done, doneThere⟩⟩
    rw [warned, warnedThere]
    exact Statement.ignoredNames_ofLines ..

theorem addLayers_concatenation (source : String) (n : Nat) {entries : List (String × String)}
    (wellFormed : ∀ entry ∈ entries, WellFormed (linesOf entry.2)) :
    let layered := b.addLayers policy (entries.map Layer.readable)
    let joined := applyAll policy b (ofLines source n (lines (concatenation entries)))
    layered.alerts.map Notice.ignoredName? = joined.alerts.map Notice.ignoredName? ∧
      ((∃ after, layered.result = .ok after ∧ joined.result = .ok after) ∨
        ∃ before name line refusal, RefusedAt policy b entries before name line refusal ∧
          layered.result = .error (refusal.failureAt ⟨name, line⟩) ∧
          joined.result =
            .error (refusal.failureAt ⟨source, n + (concatenation before).count '\n' + line⟩)) := by
  induction entries generalizing b n with
  | nil => exact ⟨rfl, .inl ⟨b, rfl, rfl⟩⟩
  | cons entry entries ih =>
    intro layered joined
    have layeredSplit : layered = b.addText policy entry.1 entry.2 >>=
      fun b => b.addLayers policy (entries.map Layer.readable) := rfl
    have joinedSplit : joined = applyAll policy b (ofLines source (n + 1) (linesOf entry.2)) >>=
        fun b => applyAll policy b (ofLines source (n + 1 + (dropMark entry.2.toList).count '\n')
          (lines (concatenation entries))) := by
      rw [← Statement.applyAll_append, ← ofLines_concatenation_cons]
    obtain ⟨names, outcome⟩ := addText_elsewhere policy b entry.1 source (n + 1)
      (wellFormed entry (by simp))
    rcases outcome with ⟨after, here, there⟩ | ⟨i, refusal, here, there⟩
    · obtain ⟨laterNames, later⟩ := ih (b := after) (n + 1 + (dropMark entry.2.toList).count '\n')
        fun entry member => wellFormed entry (by simp [member])
      rw [layeredSplit, joinedSplit, Logged.alerts_bind_of_ok here, Logged.alerts_bind_of_ok there,
        Logged.result_bind_of_ok here, Logged.result_bind_of_ok there, List.map_append,
        List.map_append, names, laterNames]
      refine ⟨rfl, later.imp_right ?_⟩
      rintro ⟨before, name, line, refusal, ⟨text, rest, middle, rfl, reached, refused⟩,
        failed, failedThere⟩
      refine ⟨entry :: before, name, line, refusal, ⟨text, rest, middle, rfl, ?_, refused⟩,
        failed, ?_⟩
      · exact (Logged.result_bind_of_ok here _).trans reached
      · rw [failedThere, concatenation_cons, List.count_cons, List.count_append]
        simp only [beq_self_eq_true, if_true]
        congr 3
        omega
    · rw [layeredSplit, joinedSplit, Logged.alerts_bind_of_error here,
        Logged.alerts_bind_of_error there, Logged.result_bind_of_error here,
        Logged.result_bind_of_error there]
      refine ⟨names, .inr ⟨[], entry.1, i + 1, refusal,
        ⟨entry.2, entries, b, rfl, rfl, here⟩, rfl, ?_⟩⟩
      congr 3
      simp [concatenation]
      omega

theorem addText_concatenation (source : String) {entries : List (String × String)}
    (wellFormed : ∀ entry ∈ entries, WellFormed (linesOf entry.2)) :
    let layered := b.addLayers policy (entries.map Layer.readable)
    let joined := b.addText policy source (String.ofList (concatenation entries))
    layered.alerts.map Notice.ignoredName? = joined.alerts.map Notice.ignoredName? ∧
      ((∃ after, layered.result = .ok after ∧ joined.result = .ok after) ∨
        ∃ before name line refusal, RefusedAt policy b entries before name line refusal ∧
          layered.result = .error (refusal.failureAt ⟨name, line⟩) ∧
          joined.result = .error (refusal.failureAt ⟨source, linesBefore before + line⟩)) := by
  intro layered joined
  have joinedWellFormed := wellFormed_concatenation.mpr wellFormed
  rw [← linesOf_concatenation] at joinedWellFormed
  obtain ⟨result, alerts⟩ := addText_of_wellFormed policy b source joinedWellFormed
  rw [linesOf_concatenation] at result alerts
  obtain ⟨names, outcome⟩ := addLayers_concatenation policy b source 1 wellFormed
  refine ⟨names.trans (by rw [alerts]), ?_⟩
  rcases outcome with ⟨after, here, there⟩ | ⟨before, name, line, refusal, refused, here, there⟩
  · exact .inl ⟨after, here, result.trans there⟩
  · refine .inr ⟨before, name, line, refusal, refused, here, ?_⟩
    rw [linesBefore, Nat.add_comm _ 1]
    exact result.trans there

variable {policy : Policy} {b after : Bindings} {entries : List (String × String)}

theorem wellFormed_of_addLayers
    (added : (b.addLayers policy (entries.map Layer.readable)).result = .ok after) :
    ∀ entry ∈ entries, WellFormed (linesOf entry.2) := by
  intro entry member
  obtain ⟨text, readable, wellFormed⟩ :=
    (addLayers_eq_ok added).1 (Layer.readable entry) (List.mem_map_of_mem member)
  cases readable
  exact wellFormed

theorem wellFormed_of_addText {source : String} (added :
      (b.addText policy source (String.ofList (concatenation entries))).result = .ok after) :
    ∀ entry ∈ entries, WellFormed (linesOf entry.2) := by
  have joinedWellFormed := (addText_eq_ok added).1
  rw [linesOf_concatenation] at joinedWellFormed
  exact wellFormed_concatenation.mp joinedWellFormed

end Bindings

theorem Statement.wellFormed_of_readText {source text : String} {ss : List Statement}
    (parsed : readText source text = .ok ss) : WellFormed (linesOf text) := by
  rcases FirstAt.exists_or_none Assignment.fault? (linesOf text) with ⟨i, fault, first⟩ | none
  · rw [readText, ← linesOf, readLines_of_fault first] at parsed
    contradiction
  · exact none

/-- Layers and their concatenation load to the same record with the same warnings, or neither does.
Where every layer can be parsed, they fail for the same reason, at lines that correspond: a layer's
lines stand, up to blanks at their ends, after those that end before it. -/
theorem Record.ofLayers_concatenation (policy : Policy) (source : String)
    (entries : List (String × String)) :
    let layered := Record.ofLayers policy (entries.map Layer.readable)
    let joined := Record.ofText policy source (String.ofList (concatenation entries))
    (∀ r, layered.result = .ok r ↔ joined.result = .ok r) ∧
      (∀ r, layered.result = .ok r →
        layered.alerts.map Notice.ignoredName? = joined.alerts.map Notice.ignoredName?) ∧
      ((∀ entry ∈ entries, ∃ ss, Statement.readText entry.1 entry.2 = .ok ss) →
        ∀ failure, layered.result = .error failure →
          ∃ before name line refusal, RefusedAt policy .empty entries before name line refusal ∧
            failure = refusal.failureAt ⟨name, line⟩ ∧
            joined.result = .error (refusal.failureAt ⟨source, linesBefore before + line⟩)) ∧
      ∀ before name text rest, entries = before ++ (name, text) :: rest →
        ∀ i < (linesOf text).length,
          (linesOf (String.ofList (concatenation entries)))[linesBefore before + i]?.map trim =
            (linesOf text)[i]?.map trim := by
  intro layered joined
  have layeredResult : layered.result = _ := Logged.result_bind_pure _ _
  have joinedResult : joined.result = _ := Logged.result_bind_pure _ _
  have layeredAlerts : layered.alerts = _ := Logged.alerts_bind_pure _ _
  have joinedAlerts : joined.alerts = _ := Logged.alerts_bind_pure _ _
  by_cases wellFormed : ∀ entry ∈ entries, WellFormed (linesOf entry.2)
  · obtain ⟨names, outcome⟩ := Bindings.addText_concatenation policy .empty source wellFormed
    rw [layeredResult, joinedResult, layeredAlerts, joinedAlerts]
    refine ⟨?_, fun _ _ => names, fun _ => ?_, trim_line_concatenation⟩
    · rcases outcome with ⟨after, here, there⟩ | ⟨_, _, _, _, _, here, there⟩
      · rw [here, there]
        exact fun r => Iff.rfl
      · rw [here, there]
        simp [Except.map]
    · rcases outcome with ⟨after, here, there⟩ | ⟨before, name, line, refusal, at_, here, there⟩
      · rw [here]
        intro failure failed
        contradiction
      · rw [here, there]
        rintro failure failed
        cases failed
        exact ⟨before, name, line, refusal, at_, rfl, rfl⟩
  · have layeredFails (r : Record) : layered.result ≠ .ok r := by
      intro loaded
      obtain ⟨after, added, -⟩ := Logged.bind_eq_ok loaded
      exact wellFormed (Bindings.wellFormed_of_addLayers added)
    have joinedFails (r : Record) : joined.result ≠ .ok r := by
      intro loaded
      obtain ⟨after, added, -⟩ := Logged.bind_eq_ok loaded
      exact wellFormed (Bindings.wellFormed_of_addText added)
    refine ⟨fun r => iff_of_false (layeredFails r) (joinedFails r),
      fun r loaded => absurd loaded (layeredFails r), fun parsed => ?_, trim_line_concatenation⟩
    refine absurd (fun entry member => ?_) wellFormed
    obtain ⟨ss, read⟩ := parsed entry member
    exact Statement.wellFormed_of_readText read

end ClusterVars
