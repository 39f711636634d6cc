import ClusterVars.Proofs.Text.Blank
import ClusterVars.Proofs.Text.Edits
import ClusterVars.Statement

/-! Reading a text, line by line: each line is at fault, or it holds an assignment, or it holds
nothing. The first fault decides; without one the statements are the assignments in order, each
with the number of its line. -/
namespace ClusterVars
open Text

/-- The first element that `f` answers to stands at index `i`, and the answer is `b`. -/
inductive FirstAt {α β : Type} (f : α → Option β) : List α → Nat → β → Prop where
  | here {a l b} : f a = some b → FirstAt f (a :: l) 0 b
  | later {a l i b} : f a = none → FirstAt f l i b → FirstAt f (a :: l) (i + 1) b

namespace FirstAt
variable {α β : Type} {f : α → Option β} {l : List α} {i j : Nat} {b c : β}

theorem exists_or_none (f : α → Option β) (l : List α) :
    (∃ i b, FirstAt f l i b) ∨ ∀ a ∈ l, f a = none := by
  induction l with
  | nil => right; simp
  | cons a l ih =>
    cases answer : f a with
    | some b => exact .inl ⟨0, b, .here answer⟩
    | none =>
      rcases ih with ⟨i, b, first⟩ | silent
      · exact .inl ⟨i + 1, b, .later answer first⟩
      · right; simpa [answer] using silent

theorem not_none (first : FirstAt f l i b) : ¬ ∀ a ∈ l, f a = none := by
  induction first with
  | here answer =>
    intro silent
    have none := silent _ List.mem_cons_self
    simp [none] at answer
  | later _ _ ih => exact fun silent => ih fun a member => silent a (by simp [member])

theorem unique (first : FirstAt f l i b) (other : FirstAt f l j c) : i = j ∧ b = c := by
  induction first generalizing j with
  | here answer => cases other <;> simp_all
  | later answer _ ih =>
    cases other with
    | here contrary => simp [answer] at contrary
    | later _ other => simpa using ih other

/-- What follows the first answer does not matter. -/
theorem take (first : FirstAt f l i b) : FirstAt f (l.take (i + 1)) i b := by
  induction first with
  | here answer => exact .here answer
  | later answer _ ih => exact .later answer ih

theorem split (first : FirstAt f l i b) :
    ∃ a rest, l = l.take i ++ a :: rest ∧ (l.take i).length = i ∧ f a = some b ∧
      ∀ a ∈ l.take i, f a = none := by
  induction first with
  | @here a l b answer => exact ⟨a, l, by simp [answer]⟩
  | @later a l i b answer _ ih =>
    obtain ⟨found, rest, same, length, answered, silent⟩ := ih
    exact ⟨found, rest, by simpa using same, by simpa using length, answered,
      by simpa [answer] using silent⟩

theorem append {m : List α} (silent : ∀ a ∈ l, f a = none) (first : FirstAt f m i b) :
    FirstAt f (l ++ m) (l.length + i) b := by
  induction l with
  | nil => simpa using first
  | cons a l ih =>
    have others := ih fun a member => silent a (by simp [member])
    rw [List.length_cons, Nat.add_right_comm]
    exact .later (silent a (by simp)) others

theorem getElem? (first : FirstAt f l i b) : ∃ a, l[i]? = some a ∧ f a = some b := by
  induction first with
  | @here a l b answer => exact ⟨a, rfl, answer⟩
  | later _ _ ih => simpa using ih

theorem of_getElem? {a : α} (found : l[i]? = some a) (answer : f a = some b)
    (silent : ∀ a ∈ l.take i, f a = none) : FirstAt f l i b := by
  induction l generalizing i with
  | nil => simp at found
  | cons first l ih =>
    cases i with
    | zero =>
      obtain rfl : first = a := by simpa using found
      exact .here answer
    | succ i =>
      rw [List.take_succ_cons] at silent
      exact .later (silent first (by simp)) (ih found fun a member => silent a (by simp [member]))

/-- Elements and answers that correspond to others answer at the same index. -/
theorem map {γ δ : Type} {f' : γ → Option δ} {g : α → γ} {h : β → δ}
    (answers : ∀ a, f' (g a) = (f a).map h) (first : FirstAt f l i b) :
    FirstAt f' (l.map g) i (h b) := by
  induction first with
  | here answer => exact .here (by rw [answers, answer]; rfl)
  | later answer _ ih => exact .later (by rw [answers, answer]; rfl) ih

end FirstAt

namespace Assignment

def fault? (line : List Char) : Option LineFault :=
  match read line with
  | .error fault => some fault
  | .ok _ => none

def held? (line : List Char) : Option Assignment :=
  match read line with
  | .error _ => none
  | .ok held => held

theorem read_dropReturn (line : List Char) : read (dropReturn line) = read line := by
  rw [read, trim_dropReturn, read]

@[simp] theorem fault?_dropReturn (line : List Char) : fault? (dropReturn line) = fault? line := by
  rw [fault?, read_dropReturn, fault?]

@[simp] theorem held?_dropReturn (line : List Char) : held? (dropReturn line) = held? line := by
  rw [held?, read_dropReturn, held?]

@[simp] theorem fault?_nil : fault? [] = none := rfl

@[simp] theorem held?_nil : held? [] = none := rfl

/-- No line is at fault. -/
def WellFormed (ls : List (List Char)) : Prop := ∀ line ∈ ls, fault? line = none

end Assignment

namespace Statement
open Assignment (fault? held? WellFormed)

/-- The statements on lines that are numbered from `n` on. -/
def ofLines (source : String) (n : Nat) (ls : List (List Char)) : List Statement :=
  (ls.zipIdx n).filterMap fun (line, number) =>
    (held? line).map fun assignment => ⟨⟨source, number⟩, assignment⟩

theorem ofLines_nil (source : String) (n : Nat) : ofLines source n [] = [] := rfl

theorem ofLines_cons (source : String) (n : Nat) (line : List Char) (ls : List (List Char)) :
    ofLines source n (line :: ls) =
      ((held? line).map fun a => ⟨⟨source, n⟩, a⟩).toList ++ ofLines source (n + 1) ls := by
  cases held : held? line <;> simp [ofLines, held]

theorem ofLines_append (source : String) (n : Nat) (ls ms : List (List Char)) :
    ofLines source n (ls ++ ms) = ofLines source n ls ++ ofLines source (n + ls.length) ms := by
  simp [ofLines, List.zipIdx_append, List.filterMap_append]

theorem assignment_ofLines (source : String) (n : Nat) (ls : List (List Char)) :
    (ofLines source n ls).map (·.assignment) = ls.filterMap held? := by
  induction ls generalizing n with
  | nil => rfl
  | cons line ls ih =>
    rw [ofLines_cons, List.map_append, ih, List.filterMap_cons]
    cases held? line <;> rfl

theorem readLines_cons (source : String) (n : Nat) (line : List Char) (ls : List (List Char)) :
    readLines source n (line :: ls) =
      match Assignment.read line with
      | .error fault => .error (.malformed ⟨source, n⟩ fault)
      | .ok held => (readLines source (n + 1) ls).map
          ((held.map fun a => ⟨⟨source, n⟩, a⟩).toList ++ ·) := by
  rw [readLines]
  cases Assignment.read line with
  | error fault => rfl
  | ok held =>
    cases held with
    | none => cases readLines source (n + 1) ls <;> rfl
    | some a => rfl

/-- Neither a carriage return at the end of a line nor an empty last line makes a difference. -/
theorem readLines_lines (source : String) (n : Nat) (cs : List Char) :
    readLines source n (lines cs) = readLines source n (cs.splitOn '\n') := by
  induction cs using linewise generalizing n with
  | last line noFeed =>
    rw [lines_last noFeed, List.splitOn_eq_singleton noFeed]
    split
    · subst line
      rfl
    · rfl
  | next line rest noFeed ih =>
    rw [lines_line noFeed, List.splitOn_append_cons_self_of_not_mem noFeed, readLines_cons,
      readLines_cons, Assignment.read_dropReturn, ih]

theorem readText_eq (source text : String) :
    readText source text = readLines source 1 ((dropMark text.toList).splitOn '\n') :=
  readLines_lines source 1 _

theorem readLines_append (source : String) (n : Nat) (ls ms : List (List Char)) :
    readLines source n (ls ++ ms) = (readLines source n ls).bind fun ss =>
      (readLines source (n + ls.length) ms).map (ss ++ ·) := by
  induction ls generalizing n with
  | nil =>
    simp only [List.nil_append, readLines, Except.bind, List.length_nil, Nat.add_zero]
    cases readLines source n ms <;> rfl
  | cons line ls ih =>
    rw [List.cons_append, readLines_cons, readLines_cons, ih, List.length_cons, Nat.add_right_comm,
      Nat.add_assoc]
    cases Assignment.read line with
    | error fault => rfl
    | ok held =>
      cases readLines source (n + 1) ls with
      | error failure => rfl
      | ok ss =>
        cases readLines source (n + (ls.length + 1)) ms <;> simp [Except.bind, Except.map]

theorem readLines_of_wellFormed {ls : List (List Char)} (wellFormed : WellFormed ls)
    (source : String) (n : Nat) : readLines source n ls = .ok (ofLines source n ls) := by
  induction ls generalizing n with
  | nil => rfl
  | cons line ls ih =>
    have here := wellFormed line (by simp)
    have others := ih (fun line member => wellFormed line (by simp [member])) (n + 1)
    simp only [readLines, ofLines_cons, others, held?]
    cases read : Assignment.read line with
    | error fault => simp [fault?, read] at here
    | ok held => cases held <;> rfl

theorem readLines_of_fault {ls : List (List Char)} {i : Nat} {fault : LineFault}
    (first : FirstAt fault? ls i fault) (source : String) (n : Nat) :
    readLines source n ls = .error (.malformed ⟨source, n + i⟩ fault) := by
  induction first generalizing n with
  | @here line ls fault answer =>
    simp only [readLines]
    cases read : Assignment.read line with
    | error other => simp_all [fault?]
    | ok held => simp [fault?, read] at answer
  | @later line ls i fault answer _ ih =>
    have others := ih (n + 1)
    simp only [readLines, others]
    cases read : Assignment.read line with
    | error other => simp [fault?, read] at answer
    | ok held => cases held <;> simp [Except.map] <;> omega

/-- Where a text ends and another one that starts with a line feed goes on, the lines of the first
are read as before, and the numbers of the others are shifted. -/
theorem ofLines_lines_append (source : String) (n : Nat) (cs joint : List Char)
    (starts : joint = [] ∨ ∃ rest, joint = '\n' :: rest) :
    ofLines source n (lines (cs ++ joint)) =
      ofLines source n (lines cs) ++ ofLines source (n + cs.count '\n') (lines joint) := by
  induction cs using linewise generalizing n with
  | last line noFeed =>
    obtain rfl | ⟨rest, rfl⟩ := starts
    · simp [lines_nil, ofLines_nil]
    · rw [lines_line noFeed, lines_last noFeed, lines_newline, List.count_eq_zero.mpr noFeed]
      by_cases empty : line = [] <;> simp [ofLines_cons, ofLines_nil, empty]
  | next line rest noFeed ih =>
    have count : (line ++ '\n' :: rest).count '\n' = rest.count '\n' + 1 := by
      simp [List.count_eq_zero.mpr noFeed]
    rw [List.append_assoc, List.cons_append, lines_line noFeed, lines_line noFeed, ofLines_cons,
      ofLines_cons, ih, count, List.append_assoc, Nat.add_right_comm n 1, Nat.add_assoc n]

theorem wellFormed_lines_append (cs joint : List Char)
    (starts : joint = [] ∨ ∃ rest, joint = '\n' :: rest) :
    WellFormed (lines (cs ++ joint)) ↔ WellFormed (lines cs) ∧ WellFormed (lines joint) := by
  induction cs using linewise with
  | last line noFeed =>
    obtain rfl | ⟨rest, rfl⟩ := starts
    · simp [WellFormed, lines_nil]
    · rw [lines_line noFeed, lines_last noFeed, lines_newline]
      by_cases empty : line = [] <;> simp [WellFormed, empty]
  | next line rest noFeed ih =>
    rw [List.append_assoc, List.cons_append, lines_line noFeed, lines_line noFeed]
    simp only [WellFormed, List.forall_mem_cons, Assignment.fault?_dropReturn] at ih ⊢
    rw [ih, and_assoc]

end Statement
end ClusterVars
