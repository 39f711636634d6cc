import ClusterVars.Proofs.Text.Lines

/-! Texts edited line by line. What stands between the line feeds of a text makes it up, so an edit
of the text is an edit of that list: lines are changed in place, which leaves every line its number,
or others are put between them. -/
namespace ClusterVars.Text

theorem noFeed_of_mem_splitOn {line cs : List Char} (member : line ∈ cs.splitOn '\n') :
    '\n' ∉ line := by
  induction cs using linewise with
  | last other noFeed =>
    rw [List.splitOn_eq_singleton noFeed, List.mem_singleton] at member
    exact member ▸ noFeed
  | next other rest noFeed ih =>
    rw [List.splitOn_append_cons_self_of_not_mem noFeed] at member
    rcases List.mem_cons.mp member with rfl | later
    · exact noFeed
    · exact ih later

/-! Lines changed in place -/

/-- A text with every line edited. A carriage return at the end of a line belongs to it. -/
def mapLines (edit : List Char → List Char) (cs : List Char) : List Char :=
  ['\n'].intercalate ((cs.splitOn '\n').map edit)

theorem splitOn_mapLines {edit : List Char → List Char}
    (noFeed : ∀ line, '\n' ∉ line → '\n' ∉ edit line) (cs : List Char) :
    (mapLines edit cs).splitOn '\n' = (cs.splitOn '\n').map edit := by
  refine List.splitOn_intercalate '\n' (fun line member => ?_) (by simp [List.splitOn_ne_nil])
  obtain ⟨before, held, rfl⟩ := List.mem_map.mp member
  exact noFeed before (noFeed_of_mem_splitOn held)

/-- A carriage return in front of every line feed. -/
def withReturns (cs : List Char) : List Char :=
  cs.flatMap fun c => if c = '\n' then ['\r', '\n'] else [c]

theorem withReturns_last {line : List Char} (noFeed : '\n' ∉ line) : withReturns line = line := by
  induction line with
  | nil => rfl
  | cons c line ih =>
    simp only [List.mem_cons, not_or] at noFeed
    rw [withReturns, List.flatMap_cons, if_neg (Ne.symm noFeed.1), ← withReturns, ih noFeed.2,
      List.singleton_append]

theorem withReturns_line {line : List Char} (noFeed : '\n' ∉ line) (rest : List Char) :
    withReturns (line ++ '\n' :: rest) = (line ++ ['\r']) ++ '\n' :: withReturns rest := by
  have front := withReturns_last noFeed
  rw [withReturns] at front
  simp [withReturns, front]

/-! Lines put between others -/

/-- A text with more lines in front of its line `k`. -/
def insertLines (k : Nat) (ls : List (List Char)) (cs : List Char) : List Char :=
  ['\n'].intercalate ((cs.splitOn '\n').take (k - 1) ++ ls ++ (cs.splitOn '\n').drop (k - 1))

theorem splitOn_insertLines (k : Nat) {ls : List (List Char)} (noFeed : ∀ line ∈ ls, '\n' ∉ line)
    (cs : List Char) : (insertLines k ls cs).splitOn '\n' =
      (cs.splitOn '\n').take (k - 1) ++ ls ++ (cs.splitOn '\n').drop (k - 1) := by
  refine List.splitOn_intercalate '\n' (fun line member => ?_) fun empty => ?_
  · simp only [List.mem_append] at member
    rcases member with (before | inserted) | after
    · exact noFeed_of_mem_splitOn (List.mem_of_mem_take before)
    · exact noFeed line inserted
    · exact noFeed_of_mem_splitOn (List.mem_of_mem_drop after)
  · obtain ⟨⟨before, -⟩, after⟩ := by simpa only [List.append_eq_nil_iff] using empty
    have nothing := List.take_append_drop (k - 1) (cs.splitOn '\n')
    rw [before, after] at nothing
    exact List.splitOn_ne_nil '\n' cs nothing.symm

/-! The byte order mark -/

def mark : Char := '\uFEFF'

theorem dropMark_of_head {cs : List Char} (unmarked : cs.head? ≠ some mark) :
    dropMark cs = cs := by
  cases cs with
  | nil => rfl
  | cons c rest =>
    have other : c ≠ '\uFEFF' := by simpa [mark] using unmarked
    simp [dropMark, other]

theorem head?_intercalate_eq_mark_iff (line : List Char) (ls : List (List Char)) :
    (['\n'].intercalate (line :: ls)).head? = some mark ↔ line.head? = some mark := by
  cases line with
  | cons c line => cases ls <;> simp [List.intercalate_cons_cons]
  | nil => cases ls <;> simp [List.intercalate_cons_cons, mark]

theorem splitOn_of_head {cs : List Char} (unmarked : cs.head? ≠ some mark) :
    ∃ first more, cs.splitOn '\n' = first :: more ∧ first.head? ≠ some mark := by
  obtain ⟨first, more, split⟩ := List.exists_cons_of_ne_nil (List.splitOn_ne_nil '\n' cs)
  have whole : ['\n'].intercalate (cs.splitOn '\n') = cs := List.intercalate_splitOn '\n'
  rw [← whole, split, ne_eq, head?_intercalate_eq_mark_iff] at unmarked
  exact ⟨first, more, split, unmarked⟩

/-- The text after its byte order mark with every line edited. -/
def mapLinesAfterMark (edit : List Char → List Char) (cs : List Char) : List Char :=
  if cs.head? = some mark then mark :: mapLines edit cs.tail else mapLines edit cs

/-- An edit that keeps or clears lines brings no byte order mark to the start. -/
theorem dropMark_mapLinesAfterMark {edit : List Char → List Char}
    (clears : ∀ line, edit line = line ∨ edit line = []) (cs : List Char) :
    dropMark (mapLinesAfterMark edit cs) = mapLines edit (dropMark cs) := by
  by_cases marked : cs.head? = some mark
  · obtain ⟨rest, rfl⟩ := List.head?_eq_some_iff.mp marked
    rfl
  · rw [mapLinesAfterMark, if_neg marked, dropMark_of_head marked]
    apply dropMark_of_head
    obtain ⟨first, more, split, unmarkedFirst⟩ := splitOn_of_head marked
    rw [mapLines, split, List.map_cons, ne_eq, head?_intercalate_eq_mark_iff]
    rcases clears first with same | same
    · rwa [same]
    · simp [same]

theorem dropMark_append_feed (cs : List Char) :
    dropMark (cs ++ ['\n']) = dropMark cs ++ ['\n'] := by
  cases cs with
  | nil => rfl
  | cons c rest =>
    simp only [dropMark, List.cons_append]
    split <;> rfl

theorem dropMark_withReturns (cs : List Char) :
    dropMark (withReturns cs) = withReturns (dropMark cs) := by
  cases cs with
  | nil => rfl
  | cons c rest =>
    by_cases marked : c = '\uFEFF'
    · subst marked
      rfl
    · by_cases feed : c = '\n' <;> simp [withReturns, dropMark, marked, feed]

/-- A text with more lines in front of its line `k`, all of them after its byte order mark. -/
def insertLinesAfterMark (k : Nat) (ls : List (List Char)) (cs : List Char) : List Char :=
  if cs.head? = some mark then mark :: insertLines k ls cs.tail else insertLines k ls cs

theorem dropMark_insertLinesAfterMark (k : Nat) {ls : List (List Char)}
    (unmarked : ∀ line ∈ ls, line.head? ≠ some mark) (cs : List Char) :
    dropMark (insertLinesAfterMark k ls cs) = insertLines k ls (dropMark cs) := by
  by_cases marked : cs.head? = some mark
  · obtain ⟨rest, rfl⟩ := List.head?_eq_some_iff.mp marked
    rfl
  · rw [insertLinesAfterMark, if_neg marked, dropMark_of_head marked]
    apply dropMark_of_head
    obtain ⟨first, more, split, unmarkedFirst⟩ := splitOn_of_head marked
    rw [insertLines, split]
    -- the text starts with the first line that is inserted or with the line that was first
    cases k - 1 with
    | zero =>
      cases ls with
      | nil => simpa [head?_intercalate_eq_mark_iff] using unmarkedFirst
      | cons line ls => simpa [head?_intercalate_eq_mark_iff] using unmarked line
    | succ before => simpa [head?_intercalate_eq_mark_iff] using unmarkedFirst

end ClusterVars.Text
