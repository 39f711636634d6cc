import ClusterVars.Text.Lines

/-! Texts are taken apart at their line feeds. Splitting a text into lines commutes with joining
texts, but for a carriage return that a line feed swallows. -/
namespace ClusterVars.Text

/-- A line less one carriage return at its end. -/
def dropReturn (line : List Char) : List Char :=
  if line.getLast? = some '\r' then line.dropLast else line

theorem dropReturn_nil : dropReturn [] = [] := by simp [dropReturn]

theorem dropReturn_cons {line : List Char} (c : Char) (nonempty : line ≠ []) :
    dropReturn (c :: line) = c :: dropReturn line := by
  obtain ⟨d, rest, rfl⟩ := List.exists_cons_of_ne_nil nonempty
  simp only [dropReturn, List.getLast?_cons_cons, List.dropLast_cons_cons]
  split <;> rfl

/-- Either nothing happens or one carriage return goes. -/
theorem dropReturn_cases (line : List Char) :
    dropReturn line = line ∨ line = dropReturn line ++ ['\r'] := by
  by_cases ending : line.getLast? = some '\r'
  · right
    have nonempty : line ≠ [] := by rintro rfl; simp at ending
    have last : line.getLast nonempty = '\r' := by
      simpa [List.getLast?_eq_some_getLast nonempty] using ending
    simp only [dropReturn, ending, if_true]
    rw [← last, List.dropLast_concat_getLast]
  · left
    simp [dropReturn, ending]

/-- Induction on the lines of a text: the last line holds no line feed, and every other one is
followed by one. -/
@[elab_as_elim]
theorem linewise {motive : List Char → Prop}
    (last : ∀ line, '\n' ∉ line → motive line)
    (next : ∀ line rest, '\n' ∉ line → motive rest → motive (line ++ '\n' :: rest))
    (cs : List Char) : motive cs := by
  by_cases more : '\n' ∈ cs
  · obtain ⟨line, rest, split, noFeed⟩ := List.eq_append_cons_of_mem more
    have shorter : rest.length < cs.length := by simp [split]; omega
    exact split ▸ next line rest noFeed (linewise last next rest)
  · exact last cs more
termination_by cs.length

/-- A character that ends no line is the first one of the first line. -/
theorem lines_cons {c : Char} {cs : List Char} (noFeed : c ≠ '\n')
    (kept : ∀ rest, c = '\r' → cs ≠ '\n' :: rest) :
    lines (c :: cs) = (c :: (lines cs).headD []) :: (lines cs).tail := by
  rw [lines]
  · cases lines cs <;> rfl
  · exact noFeed
  · exact kept

theorem lines_last {line : List Char} (noFeed : '\n' ∉ line) :
    lines line = if line = [] then [] else [line] := by
  induction line with
  | nil => simp [lines]
  | cons c line ih =>
    simp only [List.mem_cons, not_or] at noFeed
    rw [lines_cons (Ne.symm noFeed.1), ih noFeed.2]
    · by_cases empty : line = [] <;> simp [empty]
    · rintro rest - rfl
      simp at noFeed

theorem lines_line {line : List Char} (noFeed : '\n' ∉ line) (rest : List Char) :
    lines (line ++ '\n' :: rest) = dropReturn line :: lines rest := by
  induction line with
  | nil => simp [lines, dropReturn_nil]
  | cons c line ih =>
    simp only [List.mem_cons, not_or] at noFeed
    by_cases swallowed : c = '\r' ∧ line = []
    · obtain ⟨rfl, rfl⟩ := swallowed
      simp [lines, dropReturn]
    · rw [List.cons_append, lines_cons (Ne.symm noFeed.1), ih noFeed.2]
      · cases line with
        | nil =>
          have plain : c ≠ '\r' := fun isReturn => swallowed ⟨isReturn, rfl⟩
          simp [dropReturn, plain]
        | cons d line => rw [dropReturn_cons c (by simp), List.headD_cons, List.tail_cons]
      · intro after isReturn next
        cases line with
        | nil => exact swallowed ⟨isReturn, rfl⟩
        | cons d line =>
          simp only [List.cons_append, List.cons.injEq] at next
          simp only [List.mem_cons, not_or] at noFeed
          exact noFeed.2.1 next.1.symm

/-- A text that is made of lines splits into them. -/
theorem lines_flatMap {ls : List (List Char)} (noFeed : ∀ line ∈ ls, '\n' ∉ line)
    (rest : List Char) :
    lines (ls.flatMap (· ++ ['\n']) ++ rest) = ls.map dropReturn ++ lines rest := by
  induction ls with
  | nil => simp
  | cons line ls ih =>
    have first := lines_line (noFeed line (by simp)) (ls.flatMap (· ++ ['\n']) ++ rest)
    have others := ih fun line member => noFeed line (by simp [member])
    simpa [others] using first

theorem lines_noFeed (cs : List Char) : ∀ line ∈ lines cs, '\n' ∉ line := by
  induction cs using linewise with
  | last line noFeed =>
    rw [lines_last noFeed]
    split <;> simp [noFeed]
  | next line rest noFeed ih =>
    rw [lines_line noFeed]
    intro first member
    rcases List.mem_cons.mp member with rfl | member
    · intro feed
      rcases dropReturn_cases line with same | same
      · exact noFeed (same ▸ feed)
      · exact noFeed (same ▸ by simp [feed])
    · exact ih first member

/-- Each line feed of a text ends one line. -/
theorem drop_lines (cs rest : List Char) :
    (lines (cs ++ '\n' :: rest)).drop (cs.count '\n' + 1) = lines rest := by
  induction cs using linewise with
  | last line noFeed =>
    rw [lines_line noFeed, List.count_eq_zero.mpr noFeed]
    rfl
  | next line more noFeed ih =>
    have count : (line ++ '\n' :: more).count '\n' = more.count '\n' + 1 := by
      simp [List.count_eq_zero.mpr noFeed]
    rw [count, List.append_assoc, List.cons_append, lines_line noFeed, List.drop_succ_cons, ih]

/-- The text up to the end of line `n`, its line feed included. -/
def upToLine : Nat → List Char → List Char
  | 0, _ => []
  | _ + 1, [] => []
  | n + 1, c :: rest => if c = '\n' then c :: upToLine n rest else c :: upToLine (n + 1) rest

theorem upToLine_last {line : List Char} (noFeed : '\n' ∉ line) (n : Nat) :
    upToLine (n + 1) line = line := by
  induction line with
  | nil => rfl
  | cons c line ih =>
    simp only [List.mem_cons, not_or] at noFeed
    simp [upToLine, Ne.symm noFeed.1, ih noFeed.2]

theorem upToLine_line {line : List Char} (noFeed : '\n' ∉ line) (n : Nat) (rest : List Char) :
    upToLine (n + 1) (line ++ '\n' :: rest) = line ++ '\n' :: upToLine n rest := by
  induction line with
  | nil => simp [upToLine]
  | cons c line ih =>
    simp only [List.mem_cons, not_or] at noFeed
    simp [upToLine, Ne.symm noFeed.1, ih noFeed.2]

theorem lines_upToLine (n : Nat) (cs : List Char) : lines (upToLine n cs) = (lines cs).take n := by
  induction cs using linewise generalizing n with
  | last line noFeed =>
    cases n with
    | zero => simp [upToLine, lines_nil]
    | succ n =>
      rw [upToLine_last noFeed, lines_last noFeed]
      split <;> simp
  | next line rest noFeed ih =>
    cases n with
    | zero => simp [upToLine, lines_nil]
    | succ n => rw [upToLine_line noFeed, lines_line noFeed, lines_line noFeed, ih]; rfl

theorem dropMark_upToLine (n : Nat) (cs : List Char) :
    dropMark (upToLine (n + 1) cs) = upToLine (n + 1) (dropMark cs) := by
  cases cs with
  | nil => rfl
  | cons c rest =>
    by_cases mark : c = '\uFEFF'
    · simp [upToLine, dropMark, mark]
    · by_cases feed : c = '\n' <;> simp [upToLine, dropMark, mark, feed]

end ClusterVars.Text
