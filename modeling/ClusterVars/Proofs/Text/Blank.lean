import ClusterVars.Proofs.Text.Lines
import ClusterVars.Text.Blank

/-! Trimming takes white space off both ends and nothing else, so it does not see the carriage
return that splitting into lines may leave or take. -/
namespace ClusterVars.Text

/-! Runs of characters of one class -/

section
variable {p : Char → Bool} {run rest cs : List Char} {c : Char}

theorem takeWhile_run (inside : ∀ c ∈ run, p c = true)
    (stops : ∀ c, rest.head? = some c → p c = false) : (run ++ rest).takeWhile p = run := by
  rw [List.takeWhile_append_of_pos inside]
  cases rest with
  | nil => simp
  | cons d rest => simp [stops d rfl]

theorem dropWhile_run (inside : ∀ c ∈ run, p c = true)
    (stops : ∀ c, rest.head? = some c → p c = false) : (run ++ rest).dropWhile p = rest := by
  rw [List.dropWhile_append_of_pos inside]
  cases rest with
  | nil => rfl
  | cons d rest => simp [stops d rfl]

theorem stops_dropWhile (head : (cs.dropWhile p).head? = some c) : p c = false := by
  have stop := List.head?_dropWhile_not p cs
  rw [head] at stop
  exact stop

end

/-! Code points of letters -/

theorem code_of_isAlpha {c : Char} (letter : c.isAlpha = true) :
    (65 ≤ c.toNat ∧ c.toNat ≤ 90) ∨ (97 ≤ c.toNat ∧ c.toNat ≤ 122) := by
  change (decide (65 ≤ c.val ∧ c.val ≤ 90) ||
    (decide (97 ≤ c.val) && decide (c.val ≤ 122))) = true at letter
  simpa [UInt32.le_iff_toNat_le] using letter

/-! White space -/

/-- A run of white space. -/
def Blanks (cs : List Char) : Prop := ∀ c ∈ cs, isBlank c = true

theorem isBlank_of_printable {c : Char} (low : 33 ≤ c.toNat) (high : c.toNat ≤ 126) :
    isBlank c = false := by
  simp only [isBlank, inRanges, blankRanges, List.any_cons, List.any_nil, Bool.or_false,
    Bool.or_eq_false_iff, Bool.and_eq_false_iff, decide_eq_false_iff_not]
  omega

theorem exists_blanks (cs : List Char) : ∃ lead, Blanks lead ∧ cs = lead ++ trimStart cs :=
  ⟨cs.takeWhile isBlank, List.all_eq_true.mp List.all_takeWhile,
    List.takeWhile_append_dropWhile.symm⟩

theorem exists_blanks_end (cs : List Char) :
    ∃ blanks, Blanks blanks ∧ cs = trimEnd cs ++ blanks := by
  obtain ⟨lead, blanks, split⟩ := exists_blanks cs.reverse
  refine ⟨lead.reverse, fun c member => blanks c (by simpa using member), ?_⟩
  rw [trimEnd, ← trimStart, ← List.reverse_append, ← split, List.reverse_reverse]

theorem blank_or_visible (line : List Char) :
    Blanks line ∨ ∃ lead c cs, Blanks lead ∧ isBlank c = false ∧ line = lead ++ c :: cs := by
  obtain ⟨lead, blanks, split⟩ := exists_blanks line
  cases left : trimStart line with
  | nil =>
    left
    rw [split, left, List.append_nil]
    exact blanks
  | cons c cs =>
    have head : (line.dropWhile isBlank).head? = some c := congrArg List.head? left
    have visible : isBlank c = false := stops_dropWhile head
    exact .inr ⟨lead, c, cs, blanks, visible, left ▸ split⟩

theorem trimStart_lead {lead cs : List Char} (blanks : Blanks lead)
    (visible : ∀ c, cs.head? = some c → isBlank c = false) : trimStart (lead ++ cs) = cs :=
  dropWhile_run blanks visible

theorem trimStart_blanks {lead : List Char} (blanks : Blanks lead) : trimStart lead = [] := by
  simpa [trimStart_nil] using trimStart_append_of_blank lead [] blanks

theorem visible_ends {cs : List Char} (nonempty : cs ≠ [])
    (visible : ∀ c ∈ cs, isBlank c = false) :
    (∃ c rest, cs = c :: rest ∧ isBlank c = false) ∧
      ∃ start c, cs = start ++ [c] ∧ isBlank c = false := by
  constructor
  · exact ⟨_, _, (List.cons_head_tail nonempty).symm, visible _ (List.head_mem nonempty)⟩
  · exact ⟨_, _, (List.dropLast_concat_getLast nonempty).symm,
      visible _ (List.getLast_mem nonempty)⟩

/-! Trimming -/

theorem trimStart_of_head {cs : List Char} (visible : ∀ c, cs.head? = some c → isBlank c = false) :
    trimStart cs = cs := by
  cases cs with
  | nil => rfl
  | cons c rest => simp [trimStart, visible c rfl]

theorem trimEnd_of_last {cs : List Char}
    (visible : ∀ c, cs.getLast? = some c → isBlank c = false) : trimEnd cs = cs := by
  have reversed : trimStart cs.reverse = cs.reverse :=
    trimStart_of_head fun c head => visible c (by simpa using head)
  simp only [trimStart] at reversed
  rw [trimEnd, reversed, List.reverse_reverse]

theorem trim_of_visible {cs : List Char} (head : ∀ c, cs.head? = some c → isBlank c = false)
    (last : ∀ c, cs.getLast? = some c → isBlank c = false) : trim cs = cs := by
  rw [trim, trimStart_of_head head, trimEnd_of_last last]

theorem trimEnd_append_cons {c : Char} (visible : isBlank c = false) (cs rest : List Char) :
    trimEnd (cs ++ c :: rest) = cs ++ c :: trimEnd rest := by
  simp only [trimEnd, List.reverse_append, List.reverse_cons, List.append_assoc]
  rw [List.dropWhile_append]
  split
  · rename_i gone
    simp [List.isEmpty_iff.mp gone, visible]
  · simp

theorem trim_lead {lead : List Char} {c : Char} (blanks : Blanks lead)
    (visible : isBlank c = false) (cs : List Char) :
    trim (lead ++ c :: cs) = c :: trimEnd cs := by
  rw [trim, trimStart_lead blanks (by simpa using visible)]
  exact trimEnd_append_cons visible [] cs

theorem trim_cons_of_visible {c : Char} (visible : isBlank c = false) (cs : List Char) :
    trim (c :: cs) = c :: trimEnd cs :=
  trim_lead (by simp [Blanks] : Blanks []) visible cs

theorem trimEnd_append_of_blank (cs : List Char) {blanks : List Char}
    (allBlank : ∀ c ∈ blanks, isBlank c) : trimEnd (cs ++ blanks) = trimEnd cs := by
  have reversed : (blanks.reverse ++ cs.reverse).dropWhile isBlank = cs.reverse.dropWhile isBlank :=
    trimStart_append_of_blank blanks.reverse cs.reverse (by simpa using allBlank)
  rw [trimEnd, List.reverse_append, reversed, trimEnd]

theorem trim_append_of_blank (cs : List Char) {blanks : List Char}
    (allBlank : ∀ c ∈ blanks, isBlank c) : trim (cs ++ blanks) = trim cs := by
  induction cs with
  | nil =>
    simp [trim, trimStart_blanks allBlank, trimStart_nil]
  | cons c cs ih =>
    by_cases blank : isBlank c = true
    · simpa [trim, trimStart, blank] using ih
    · have kept (tail : List Char) : trimStart (c :: tail) = c :: tail := by
        simp [trimStart, blank]
      rw [trim, List.cons_append, kept, trim, kept, ← List.cons_append,
        trimEnd_append_of_blank _ allBlank]

theorem trim_append_return (line : List Char) : trim (line ++ ['\r']) = trim line :=
  trim_append_of_blank line (List.all_eq_true.mp rfl)

theorem trim_dropReturn (line : List Char) : trim (dropReturn line) = trim line := by
  rcases dropReturn_cases line with same | same
  · rw [same]
  · conv => rhs; rw [same, trim_append_return]

/-- The lines of a text stay where they are, up to white space, when a line feed follows it. -/
theorem trim_getElem?_lines (cs joint : List Char)
    (starts : joint = [] ∨ ∃ rest, joint = '\n' :: rest) {i : Nat}
    (inside : i < (lines cs).length) :
    (lines (cs ++ joint))[i]?.map trim = (lines cs)[i]?.map trim := by
  induction cs using linewise generalizing i with
  | last line noFeed =>
    obtain rfl | ⟨rest, rfl⟩ := starts
    · rw [List.append_nil]
    · rw [lines_last noFeed] at inside ⊢
      by_cases empty : line = []
      · simp [empty] at inside
      · obtain rfl : i = 0 := by simpa [empty] using inside
        simp [lines_line noFeed, empty, trim_dropReturn]
  | next line rest noFeed ih =>
    rw [List.append_assoc, List.cons_append, lines_line noFeed, lines_line noFeed]
    rw [lines_line noFeed, List.length_cons] at inside
    cases i with
    | zero => rfl
    | succ i => exact ih (Nat.lt_of_succ_lt_succ inside)

end ClusterVars.Text
