import ClusterVars.Proofs.Grammar.Lines
import ClusterVars.Proofs.Statement

/-! What the reader of a text does not see. A byte order mark, carriage returns in front of the line
feeds and a last line feed make no difference at all; lines that are blank or hold a comment only
push what follows them down. -/
namespace ClusterVars
open Text

/-! Places -/

/-- Where a place is found once `m` lines stand in front of line `k`. -/
def Location.pushedDown (k m : Nat) (location : Location) : Location :=
  if k ≤ location.line then { location with line := location.line + m } else location

/-- The same failure at another place, if it has one. -/
def Failure.relocate (move : Location → Location) : Failure → Failure
  | .malformed location fault => .malformed (move location) fault
  | .unknownName location name => .unknownName (move location) name
  | .mismatch location key found => .mismatch (move location) key found
  | other => other

namespace Statement

/-- The same assignment at another place. -/
def relocate (move : Location → Location) (s : Statement) : Statement :=
  { s with location := move s.location }

/-- What is read of a text, with every statement, or the failure, at another place. -/
def relocated (move : Location → Location) :
    Except Failure (List Statement) → Except Failure (List Statement)
  | .error failure => .error (failure.relocate move)
  | .ok ss => .ok (ss.map (relocate move))

variable {source : String} {move : Location → Location}

theorem relocated_bind_append (before after : Except Failure (List Statement)) :
    relocated move (before.bind fun ss => after.map (ss ++ ·)) =
      (relocated move before).bind fun ss => (relocated move after).map (ss ++ ·) := by
  cases before with
  | error failure => rfl
  | ok ss => cases after <;> simp [relocated, Except.bind, Except.map]

/-- Lines are read alike wherever they stand. -/
theorem readLines_relocated {n m : Nat} {ls : List (List Char)}
    (moves : ∀ i < ls.length, move ⟨source, n + i⟩ = ⟨source, m + i⟩) :
    readLines source m ls = relocated move (readLines source n ls) := by
  induction ls generalizing n m with
  | nil => rfl
  | cons line ls ih =>
    have here : move ⟨source, n⟩ = ⟨source, m⟩ := moves 0 (by simp)
    have others : readLines source (m + 1) ls = relocated move (readLines source (n + 1) ls) := by
      refine ih fun i inside => ?_
      simpa [Nat.add_right_comm, Nat.add_assoc] using moves (i + 1) (by simpa using inside)
    rw [readLines_cons, readLines_cons, others]
    cases Assignment.read line with
    | error fault => simp [relocated, Failure.relocate, here]
    | ok held =>
      cases readLines source (n + 1) ls with
      | error failure => rfl
      | ok ss => cases held <;> simp [relocated, relocate, Except.map, here]

/-! Lines that hold nothing -/

theorem readLines_of_vacant {ls : List (List Char)} (vacant : ∀ line ∈ ls, Vacant line)
    (source : String) (n : Nat) : readLines source n ls = .ok [] := by
  induction ls generalizing n with
  | nil => rfl
  | cons line ls ih =>
    rw [readLines_cons, Assignment.read_eq_none_iff.mpr (vacant line (by simp)),
      ih fun line member => vacant line (by simp [member])]
    rfl

theorem unmarked_of_vacant {line : List Char} (vacant : Vacant line) :
    line.head? ≠ some mark := by
  intro marked
  rcases vacant.endsToken mark marked with blank | comment
  · exact absurd blank (by decide)
  · exact absurd comment (by decide)

/-- Vacant lines in front of line `k` push down the lines from there on. -/
theorem readLines_inserted (source : String) (k : Nat) {ls : List (List Char)}
    (vacant : ∀ line ∈ ls, Vacant line) (all : List (List Char)) :
    readLines source 1 (all.take (k - 1) ++ ls ++ all.drop (k - 1)) =
      relocated (Location.pushedDown k ls.length) (readLines source 1 all) := by
  have before : readLines source 1 (all.take (k - 1)) =
      relocated (Location.pushedDown k ls.length) (readLines source 1 (all.take (k - 1))) := by
    refine readLines_relocated fun i inside => if_neg ?_
    rw [List.length_take] at inside
    dsimp only
    omega
  have after : readLines source (1 + (all.take (k - 1)).length + ls.length) (all.drop (k - 1)) =
      relocated (Location.pushedDown k ls.length)
        (readLines source (1 + (all.take (k - 1)).length) (all.drop (k - 1))) := by
    refine readLines_relocated fun i inside => ?_
    have from_k : k ≤ 1 + (all.take (k - 1)).length + i := by
      rw [List.length_drop] at inside
      rw [List.length_take]
      omega
    rw [Location.pushedDown, if_pos from_k]
    simp only [Location.mk.injEq, true_and]
    omega
  conv => rhs; rw [← List.take_append_drop (k - 1) all]
  rw [List.append_assoc, readLines_append, readLines_append _ _ ls, readLines_of_vacant vacant,
    readLines_append, relocated_bind_append, ← before, ← after]
  congr 1
  funext ss
  cases readLines source (1 + (all.take (k - 1)).length + ls.length) (all.drop (k - 1)) <;> rfl

/-! Line feeds and carriage returns -/

theorem read_append_return (line : List Char) :
    Assignment.read (line ++ ['\r']) = Assignment.read line := by
  rw [Assignment.read, trim_append_return, Assignment.read]

theorem readLines_withReturns (source : String) (n : Nat) (cs : List Char) :
    readLines source n ((withReturns cs).splitOn '\n') = readLines source n (cs.splitOn '\n') := by
  induction cs using linewise generalizing n with
  | last line noFeed => rw [withReturns_last noFeed]
  | next line rest noFeed ih =>
    have noFeedReturn : '\n' ∉ line ++ ['\r'] := by simp [noFeed]
    rw [withReturns_line noFeed, List.splitOn_append_cons_self_of_not_mem noFeedReturn,
      List.splitOn_append_cons_self_of_not_mem noFeed, readLines_cons, readLines_cons,
      read_append_return, ih]

theorem readLines_append_feed (source : String) (n : Nat) (cs : List Char) :
    readLines source n ((cs ++ ['\n']).splitOn '\n') = readLines source n (cs.splitOn '\n') := by
  have empty (m : Nat) : readLines source m [[]] = .ok [] := rfl
  rw [List.splitOn_append_cons_self, List.splitOn_nil, readLines_append, empty]
  cases readLines source n (cs.splitOn '\n') <;> simp [Except.bind, Except.map]

/-- A text is read the same with a byte order mark, with carriage returns in front of its line feeds
and with one more line feed at its end. Blank lines and comments in front of line `k` leave what is
read as it is, but everything from there on is found as many lines further down. -/
theorem readText_layout (source text : String) :
    (text.toList.head? ≠ some mark →
        readText source ("\uFEFF" ++ text) = readText source text) ∧
      readText source (String.ofList (withReturns text.toList)) = readText source text ∧
      readText source (text ++ "\n") = readText source text ∧
      ∀ (k : Nat) (ls : List (List Char)), (∀ line ∈ ls, Vacant line ∧ '\n' ∉ line) →
        readText source (String.ofList (insertLinesAfterMark k ls text.toList)) =
          relocated (Location.pushedDown k ls.length) (readText source text) := by
  refine ⟨fun unmarked => ?_, ?_, ?_, fun k ls vacant => ?_⟩
  · have dropped : dropMark ("\uFEFF" ++ text).toList = text.toList := by
      rw [String.toList_append]
      rfl
    rw [readText_eq, readText_eq, dropped, dropMark_of_head unmarked]
  · rw [readText_eq, readText_eq, String.toList_ofList, dropMark_withReturns,
      readLines_withReturns]
  · have fed : (text ++ "\n").toList = text.toList ++ ['\n'] := String.toList_append
    rw [readText_eq, readText_eq, fed, dropMark_append_feed, readLines_append_feed]
  · rw [readText_eq, readText_eq, String.toList_ofList,
      dropMark_insertLinesAfterMark k fun line member => unmarked_of_vacant (vacant line member).1,
      splitOn_insertLines k fun line member => (vacant line member).2,
      readLines_inserted source k fun line member => (vacant line member).1]

/-- A fault on the last line, after each of the changes. -/
theorem readText_layout_fault :
    let faultOn (line : Nat) : Except Failure (List Statement) :=
      .error (.malformed ⟨"a", line⟩ (.missingOperator "cpus"))
    readText "a" ("\uFEFF" ++ "$os = nil\n$cpus 2") = faultOn 2 ∧
      readText "a" "$os = nil\r\n$cpus 2" = faultOn 2 ∧
      readText "a" ("$os = nil\n$cpus 2" ++ "\n") = faultOn 2 ∧
      readText "a" "$os = nil\n\t# note\r\n\n$cpus 2" = faultOn 4 := by
  intro faultOn
  have read : readText "a" "$os = nil\n$cpus 2" = faultOn 2 := rfl
  obtain ⟨marked, returned, ended, inserted⟩ := readText_layout "a" "$os = nil\n$cpus 2"
  have vacant : ∀ line ∈ ["\t# note\r".toList, []], Vacant line ∧ '\n' ∉ line := by
    intro line member
    obtain rfl | rfl : line = "\t# note\r".toList ∨ line = [] := by simpa using member
    · exact ⟨.comment " note\r".toList (by simp [Blanks]; decide : Blanks ['\t']), by decide⟩
    · exact ⟨.blank (by simp [Blanks]), by simp⟩
  have returns : String.ofList (withReturns "$os = nil\n$cpus 2".toList) =
      "$os = nil\r\n$cpus 2" := rfl
  have lower : String.ofList (insertLinesAfterMark 2 ["\t# note\r".toList, []]
      "$os = nil\n$cpus 2".toList) = "$os = nil\n\t# note\r\n\n$cpus 2" := rfl
  have pushed := inserted 2 _ vacant
  rw [returns, read] at returned
  rw [lower, read] at pushed
  exact ⟨(marked (by decide)).trans read, returned, ended.trans read, pushed⟩

end Statement
end ClusterVars
