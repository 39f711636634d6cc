import ClusterVars.Defaults
import ClusterVars.Proofs.FinalValue
import ClusterVars.Proofs.Written

/-! Texts that the program writes itself: comments, then one assignment on each line. Such a text
has no fault, and what it holds are the entries that it was written from. -/
namespace ClusterVars
open Text
open Assignment (written fault? held? WellFormed)

/-- An entry as an assignment of its value. -/
def assigning (operator : Operator) (entry : Key × Value) : Assignment :=
  ⟨entry.1.name, operator, entry.2.literal⟩

def commented (line : List Char) : List Char := '#' :: ' ' :: line

/-- The lines of a text with comments and entries. -/
def writtenLines (comments : List (List Char)) (operator : Operator)
    (entries : List (Key × Value)) : List (List Char) :=
  comments.map commented ++ entries.map fun entry => written entry.1.name.toList operator entry.2

/-- The text of these lines. -/
def writtenText (comments : List (List Char)) (operator : Operator)
    (entries : List (Key × Value)) : String :=
  String.ofList ((writtenLines comments operator entries).flatMap (· ++ ['\n']))

theorem flatMap_writtenLines (comments : List (List Char)) (operator : Operator)
    (entries : List (Key × Value)) :
    (writtenLines comments operator entries).flatMap (· ++ ['\n']) =
      comments.flatMap (fun line => commented line ++ ['\n']) ++
        entries.flatMap fun entry => written entry.1.name.toList operator entry.2 ++ ['\n'] := by
  simp only [writtenLines, List.flatMap_append, List.flatMap_map]

theorem Record.renderUnder_eq (header : String) (r : Record) :
    r.renderUnder header = writtenText (lines header.toList) .assign r.entries := by
  have line : assignmentLine =
      fun entry => written entry.1.name.toList .assign entry.2 ++ ['\n'] := by
    funext entry
    simp [assignmentLine, written, Operator.chars]
  rw [renderUnder, writtenText, flatMap_writtenLines, line]
  rfl

theorem Defaults.render_eq (d : Defaults) : d.render = writtenText [] .fill d.entries := by
  have line : fillLine = fun entry => written entry.1.name.toList .fill entry.2 ++ ['\n'] := by
    funext entry
    simp [fillLine, written, Operator.chars]
  rw [render, writtenText, flatMap_writtenLines, line]
  rfl

namespace Assignment

theorem read_commented (line : List Char) : read (commented line) = .ok none := by
  rw [read, commented, trim_cons_of_visible (by decide)]
  rfl

theorem read_assigning (operator : Operator) (entry : Key × Value) :
    read (written entry.1.name.toList operator entry.2) =
      .ok (some (assigning operator entry)) := by
  have named : isName entry.1.name.toList = true := by cases entry.1 <;> decide
  simpa [assigning] using read_written named operator entry.2

theorem held?_dropReturn_written (operator : Operator) (entry : Key × Value) :
    held? (dropReturn (written entry.1.name.toList operator entry.2)) =
      some (assigning operator entry) := by
  rw [held?_dropReturn, held?, read_assigning]

theorem noFeed_written (operator : Operator) (entry : Key × Value) :
    '\n' ∉ written entry.1.name.toList operator entry.2 := by
  have name : '\n' ∉ entry.1.name.toList := by cases entry.1 <;> decide
  have mark : '\n' ∉ operator.chars := by cases operator <;> decide
  simp [written, name, mark, entry.2.noFeed_chars]

end Assignment

section
variable {comments : List (List Char)} (operator : Operator) (entries : List (Key × Value))

theorem linesOf_writtenText (clean : ∀ line ∈ comments, '\n' ∉ line) :
    linesOf (writtenText comments operator entries) =
      (writtenLines comments operator entries).map dropReturn := by
  have noFeed : ∀ line ∈ writtenLines comments operator entries, '\n' ∉ line := by
    intro line member
    simp only [writtenLines, List.mem_append, List.mem_map] at member
    rcases member with ⟨comment, inComments, rfl⟩ | ⟨entry, -, rfl⟩
    · simp [commented, clean comment inComments]
    · exact Assignment.noFeed_written operator entry
  have split := lines_flatMap noFeed []
  simp only [List.append_nil, lines_nil] at split
  have noMark : dropMark ((writtenLines comments operator entries).flatMap (· ++ ['\n'])) =
      (writtenLines comments operator entries).flatMap (· ++ ['\n']) := by
    cases comments with
    | cons comment comments => rfl
    | nil => cases entries <;> rfl
  rw [linesOf, writtenText, String.toList_ofList, noMark, split]

theorem wellFormed_writtenText (clean : ∀ line ∈ comments, '\n' ∉ line) :
    WellFormed (linesOf (writtenText comments operator entries)) := by
  rw [linesOf_writtenText operator entries clean]
  intro line member
  simp only [writtenLines, List.map_append, List.map_map, List.mem_append, List.mem_map,
    Function.comp_apply] at member
  rcases member with ⟨comment, -, rfl⟩ | ⟨entry, -, rfl⟩
  · rw [Assignment.fault?_dropReturn, fault?, Assignment.read_commented]
  · rw [Assignment.fault?_dropReturn, fault?, Assignment.read_assigning]

theorem held?_writtenText (clean : ∀ line ∈ comments, '\n' ∉ line) :
    (linesOf (writtenText comments operator entries)).filterMap held? =
      entries.map (assigning operator) := by
  have comment (line : List Char) : held? (dropReturn (commented line)) = none := by
    rw [Assignment.held?_dropReturn, held?, Assignment.read_commented]
  rw [linesOf_writtenText operator entries clean, writtenLines]
  simp only [List.map_append, List.map_map, List.filterMap_append, List.filterMap_map,
    Function.comp_def, comment, Assignment.held?_dropReturn_written]
  simp

theorem entry_of_held (clean : ∀ line ∈ comments, '\n' ∉ line) {line : List Char}
    {a : Assignment} (member : line ∈ linesOf (writtenText comments operator entries))
    (holds : held? line = some a) : ∃ entry ∈ entries, assigning operator entry = a := by
  have held := List.mem_filterMap.mpr ⟨line, member, holds⟩
  rw [held?_writtenText operator entries clean] at held
  exact List.mem_map.mp held

end

namespace Bindings
variable (policy : Policy) (b : Bindings) (source : String) {comments : List (List Char)}
  (operator : Operator) {entries : List (Key × Value)}

theorem addText_writtenText (clean : ∀ line ∈ comments, '\n' ∉ line)
    (fits : ∀ entry ∈ entries, entry.1.kind.value? entry.2.literal ≠ none) :
    (b.addText policy source (writtenText comments operator entries)).result =
        .ok ((entries.map (assigning operator)).foldl Assignment.act b) ∧
      (b.addText policy source (writtenText comments operator entries)).alerts = [] := by
  have wellFormed := wellFormed_writtenText operator entries clean
  have unrefused : ∀ line ∈ linesOf (writtenText comments operator entries),
      refusalIn? policy line = none := by
    intro line member
    cases holds : held? line with
    | none => simp [refusalIn?, holds]
    | some a =>
      obtain ⟨entry, inEntries, rfl⟩ := entry_of_held operator entries clean member holds
      have fitting := Option.isSome_iff_ne_none.mpr (fits entry inEntries)
      simp [refusalIn?, holds, Assignment.refusal?, assigning, Key.ofName?_name, fitting]
  obtain ⟨done, warned⟩ := addText_of_unrefused b source wellFormed unrefused
  refine ⟨by rw [done, held?_writtenText operator entries clean], ?_⟩
  rw [warned, ignored, List.filterMap_eq_nil_iff]
  intro s member
  obtain ⟨line, inLines, holds⟩ := Statement.mem_ofLines member
  obtain ⟨entry, -, same⟩ := entry_of_held operator entries clean inLines holds
  simp [Statement.warning?, Assignment.warning?, ← same, assigning, Key.ofName?_name]

end Bindings
end ClusterVars
