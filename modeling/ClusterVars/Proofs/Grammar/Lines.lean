import ClusterVars.Proofs.Grammar.Literals

/-! The grammar of a line: blank, a comment, or an assignment between white space and comments. The
reader accepts exactly the lines of the grammar. It trims a line before it looks at it, of which the
grammar knows nothing; no part of an assignment starts or ends with white space, so that trimming
takes nothing away from one. -/
namespace ClusterVars
open Text

/-! Lines without an assignment -/

namespace Text

/-- White space, then nothing or a comment. -/
inductive Vacant : List Char → Prop
  | blank {cs} : Blanks cs → Vacant cs
  | comment {lead} (text) : Blanks lead → Vacant (lead ++ '#' :: text)

namespace Vacant
variable {cs : List Char}

theorem isEnd_trimStart_iff : Assignment.isEnd (trimStart cs) = true ↔ Vacant cs := by
  constructor
  · intro ends
    obtain ⟨lead, blanks, split⟩ := exists_blanks cs
    cases left : trimStart cs with
    | nil =>
      rw [left, List.append_nil] at split
      exact split ▸ .blank blanks
    | cons c rest =>
      rw [left] at split ends
      obtain rfl : c = '#' := by simpa [Assignment.isEnd] using ends
      exact split ▸ .comment rest blanks
  · intro vacant
    cases vacant with
    | blank blanks => rw [trimStart_blanks blanks]; rfl
    | comment text blanks => rw [trimStart_lead blanks (by simp; decide)]; rfl

theorem append {blanks : List Char} (vacant : Vacant cs) (allBlank : Blanks blanks) :
    Vacant (cs ++ blanks) := by
  cases vacant with
  | blank more =>
    refine .blank fun c member => ?_
    exact (List.mem_append.mp member).elim (more c) (allBlank c)
  | comment text more =>
    rw [List.append_assoc]
    exact .comment (text ++ blanks) more

theorem trimEnd (vacant : Vacant cs) : Vacant (trimEnd cs) := by
  cases vacant with
  | blank blanks =>
    rw [← List.nil_append cs, trimEnd_append_of_blank [] blanks]
    exact .blank (by simp [Blanks, Text.trimEnd])
  | comment text blanks =>
    rw [trimEnd_append_cons (by decide)]
    exact .comment _ blanks

theorem endsToken (vacant : Vacant cs) : EndsToken cs := by
  intro c head
  cases vacant with
  | blank blanks => exact .inl (blanks c (List.mem_of_head? head))
  | @comment lead text blanks =>
    cases lead with
    | nil => exact .inr (by simpa using head.symm)
    | cons d lead =>
      obtain rfl : d = c := by simpa using head
      exact .inl (blanks d (by simp))

end Vacant
end Text

/-! Operators -/

namespace Operator

/-- An operator as it is written in front of the rest of a line. -/
inductive Spells : List Char → Operator → List Char → Prop
  | assign {rest} : rest.head? ≠ some '=' → Spells ['='] .assign rest
  | fill (rest : List Char) : Spells ['|', '|', '='] .fill rest

variable {spelled input rest : List Char} {operator : Operator}

theorem Spells.starts (spells : operator.Spells spelled rest) :
    ∃ c cs, spelled = c :: cs ∧ isBlank c = false ∧ Assignment.isNameChar c = false := by
  cases spells with
  | assign | fill => exact ⟨_, _, rfl, by decide, by decide⟩

theorem Spells.of_head {other : List Char} (spells : operator.Spells spelled rest)
    (same : other.head? = rest.head?) : operator.Spells spelled other := by
  cases spells with
  | assign single => exact .assign (same ▸ single)
  | fill => exact .fill other

theorem readOperator?_eq_some_iff : Assignment.readOperator? input = some (operator, rest) ↔
    ∃ spelled, input = spelled ++ rest ∧ operator.Spells spelled rest := by
  constructor
  · intro read
    unfold Assignment.readOperator? at read
    split at read
    · cases read
      exact ⟨['|', '|', '='], rfl, .fill rest⟩
    · split at read
      · contradiction
      · rename_i single
        cases read
        exact ⟨['='], rfl, .assign single⟩
    · contradiction
  · rintro ⟨spelled, rfl, spells⟩
    cases spells with
    | assign single => simp [Assignment.readOperator?, single]
    | fill => rfl

end Operator

/-! Assignments -/

namespace Assignment

theorem isDigit_of_starts {c : Char} (starts : c.isAlpha = true ∨ c = '_') :
    c.isDigit = false := by
  rcases starts with letter | rfl
  · have code := code_of_isAlpha letter
    refine Bool.eq_false_iff.mpr fun digit => ?_
    have bounds : 48 ≤ c.toNat ∧ c.toNat ≤ 57 := Char.isDigit_iff_toNat.mp digit
    omega
  · decide

/-- A letter or an underscore, then letters, digits and underscores, all of them ASCII. -/
inductive Name : List Char → Prop
  | intro {c rest} : c.isAlpha = true ∨ c = '_' →
    (∀ d ∈ rest, d.isAlphanum = true ∨ d = '_') → Name (c :: rest)

theorem isName_iff {name : List Char} : isName name = true ↔ Name name := by
  constructor
  · intro named
    cases name with
    | nil => simp [isName] at named
    | cons c rest =>
      simp only [isName, List.all_cons, Bool.and_eq_true, Bool.not_eq_true', List.all_eq_true,
        isNameChar, Char.isAlphanum, Bool.or_eq_true, decide_eq_true_eq] at named
      obtain ⟨noDigit, first, others⟩ := named
      refine .intro (by simpa [noDigit] using first) fun d member => ?_
      simpa [Char.isAlphanum] using others d member
  · rintro ⟨first, others⟩
    have noDigit := isDigit_of_starts first
    simp only [isName, List.all_cons, Bool.and_eq_true, Bool.not_eq_true', List.all_eq_true]
    refine ⟨noDigit, ?_, fun d member => by simpa [isNameChar] using others d member⟩
    rcases first with letter | rfl
    · simp [isNameChar, Char.isAlphanum, letter]
    · rfl

theorem Name.nameChars {name : List Char} (isName : Name name) :
    ∀ c ∈ name, isNameChar c = true := by
  cases name with
  | nil => simp
  | cons c rest =>
    have named := isName_iff.mpr isName
    simp only [Assignment.isName, Bool.and_eq_true, List.all_eq_true] at named
    exact named.2

/-- An assignment as it is written behind a dollar sign. -/
inductive Named : List Char → Assignment → Prop
  | intro {name gap sign space spelled rest operator literal} : Name name → Blanks gap →
    Operator.Spells sign operator (space ++ (spelled ++ rest)) → Blanks space →
    Literal.Spells spelled literal rest → Vacant rest →
    Named (name ++ (gap ++ (sign ++ (space ++ (spelled ++ rest)))))
      ⟨String.ofList name, operator, literal⟩

/-- A line that holds an assignment. -/
inductive Spells : List Char → Assignment → Prop
  | intro {lead rest assignment} : Blanks lead → Named rest assignment →
    Spells (lead ++ '$' :: rest) assignment

variable {input line : List Char} {a : Assignment}

theorem named_of_readNamed (read : readNamed input = .ok a) : Named input a := by
  simp only [readNamed] at read
  split at read
  · contradiction
  · rename_i named
    split at read
    · contradiction
    · rename_i operator afterSign heldSign
      split at read
      · contradiction
      · rename_i literal rest heldLiteral
        split at read
        · rename_i ends
          cases read
          obtain ⟨gap, gapBlanks, splitGap⟩ := exists_blanks (input.dropWhile isNameChar)
          obtain ⟨sign, splitSign, signSpells⟩ := Operator.readOperator?_eq_some_iff.mp heldSign
          obtain ⟨space, spaceBlanks, splitSpace⟩ := exists_blanks afterSign
          obtain ⟨spelled, splitLiteral, spells⟩ := Literal.read_eq_ok_iff.mp heldLiteral
          rw [splitLiteral] at splitSpace
          rw [splitSpace] at splitSign signSpells
          have isName : Name (input.takeWhile isNameChar) := isName_iff.mp (by simpa using named)
          have whole : input = input.takeWhile isNameChar ++
              (gap ++ (sign ++ (space ++ (spelled ++ rest)))) := by
            conv => lhs; rw [← List.takeWhile_append_dropWhile (p := isNameChar) (l := input)]
            rw [splitGap, splitSign]
          have derived := Named.intro isName gapBlanks signSpells spaceBlanks spells
            (Vacant.isEnd_trimStart_iff.mp ends)
          rwa [← whole] at derived
        · contradiction

theorem isNameChar_of_isBlank {c : Char} (blank : isBlank c = true) : isNameChar c = false := by
  cases nameChar : isNameChar c with
  | false => rfl
  | true =>
    simp only [isNameChar, Char.isAlphanum, Bool.or_eq_true, decide_eq_true_eq] at nameChar
    have visible : isBlank c = false := by
      rcases nameChar with (letter | digit) | rfl
      · have code := code_of_isAlpha letter
        exact isBlank_of_printable (by omega) (by omega)
      · exact isBlank_of_isDigit digit
      · decide
    simp [visible] at blank

theorem readNamed_of_named (named : Named input a) : readNamed input = .ok a := by
  cases named with
  | @intro name gap sign space spelled rest operator literal isName gapBlanks signSpells
      spaceBlanks spells vacant =>
    obtain ⟨mark, marks, starts, visibleMark, noName⟩ := signSpells.starts
    obtain ⟨⟨first, firsts, opens, visibleFirst⟩, -⟩ := spells.visible
    have afterName : ∀ c, (gap ++ (sign ++ (space ++ (spelled ++ rest)))).head? = some c →
        isNameChar c = false := by
      intro c head
      cases gap with
      | nil => simp_all
      | cons d gap =>
        obtain rfl : d = c := by simpa using head
        exact isNameChar_of_isBlank (gapBlanks d List.mem_cons_self)
    have afterGap : trimStart (gap ++ (sign ++ (space ++ (spelled ++ rest)))) =
        sign ++ (space ++ (spelled ++ rest)) :=
      trimStart_lead gapBlanks (by simp [starts, visibleMark])
    have afterSpace : trimStart (space ++ (spelled ++ rest)) = spelled ++ rest :=
      trimStart_lead spaceBlanks (by simp [opens, visibleFirst])
    have signRead := Operator.readOperator?_eq_some_iff.mpr ⟨sign, rfl, signSpells⟩
    have literalRead := Literal.read_eq_ok_iff.mpr ⟨spelled, rfl, spells⟩
    have ends := Vacant.isEnd_trimStart_iff.mpr vacant
    rw [readNamed, takeWhile_run isName.nameChars afterName,
      dropWhile_run isName.nameChars afterName]
    simp [isName_iff.mpr isName, afterGap, signRead, afterSpace, literalRead, ends]

theorem readNamed_eq_ok_iff : readNamed input = .ok a ↔ Named input a :=
  ⟨named_of_readNamed, readNamed_of_named⟩

/-! White space around an assignment -/

/-- An assignment ends visibly, and any vacant rest may follow it. -/
theorem Named.split (named : Named input a) : ∃ start c rest, input = start ++ c :: rest ∧
    isBlank c = false ∧ Vacant rest ∧ ∀ other, Vacant other → Named (start ++ c :: other) a := by
  cases named with
  | @intro name gap sign space spelled rest operator literal isName gapBlanks signSpells
      spaceBlanks spells vacant =>
    obtain ⟨⟨first, firsts, opens, -⟩, start, last, closes, visible⟩ := spells.visible
    have ending (other : List Char) : name ++ (gap ++ (sign ++ (space ++ (spelled ++ other)))) =
        (name ++ (gap ++ (sign ++ (space ++ start)))) ++ last :: other := by
      simp [closes]
    refine ⟨_, last, rest, ending rest, visible, vacant, fun other others => ?_⟩
    have sameHead : (space ++ (spelled ++ other)).head? = (space ++ (spelled ++ rest)).head? := by
      simp [opens]
    rw [← ending]
    exact .intro isName gapBlanks (signSpells.of_head sameHead) spaceBlanks
      (spells.before others.endsToken) others

theorem named_trimEnd_iff : Named (trimEnd input) a ↔ Named input a := by
  constructor
  · intro named
    obtain ⟨blanks, allBlank, restored⟩ := exists_blanks_end input
    obtain ⟨start, c, rest, split, -, vacant, follow⟩ := named.split
    rw [restored, split, List.append_assoc, List.cons_append]
    exact follow _ (vacant.append allBlank)
  · intro named
    obtain ⟨start, c, rest, split, visible, vacant, follow⟩ := named.split
    rw [split, trimEnd_append_cons visible]
    exact follow _ vacant.trimEnd

section
variable {lead cs : List Char} {c : Char}

theorem read_of_blanks (blanks : Blanks line) : read line = .ok none := by
  rw [read, trim, trimStart_blanks blanks]
  rfl

theorem read_lead (blanks : Blanks lead) (visible : isBlank c = false) (cs : List Char) :
    read (lead ++ c :: cs) = if c = '#' then .ok none
      else if c = '$' then (readNamed (trimEnd cs)).map some
      else .error (.missingName (String.ofList (c :: trimEnd cs))) := by
  rw [read, trim_lead blanks visible]

theorem vacant_lead_iff (blanks : Blanks lead) (visible : isBlank c = false) :
    Vacant (lead ++ c :: cs) ↔ c = '#' := by
  rw [← Vacant.isEnd_trimStart_iff, trimStart_lead blanks (by simpa using visible)]
  simp [isEnd]

theorem spells_lead_iff (blanks : Blanks lead) (visible : isBlank c = false) :
    Spells (lead ++ c :: cs) a ↔ c = '$' ∧ Named cs a := by
  constructor
  · intro spells
    generalize whole : lead ++ c :: cs = line at spells
    cases spells with
    | @intro other rest _ others named =>
      have same := congrArg trimStart whole
      rw [trimStart_lead blanks (by simpa using visible),
        trimStart_lead others (by simp; decide)] at same
      cases same
      exact ⟨rfl, named⟩
  · rintro ⟨rfl, named⟩
    exact .intro blanks named

theorem not_spells_of_blanks (blanks : Blanks line) : ¬ Spells line a := by
  rintro ⟨-, -⟩
  exact absurd (blanks '$' (by simp)) (by decide)

end

theorem read_eq_none_iff : read line = .ok none ↔ Vacant line := by
  rcases blank_or_visible line with blanks | ⟨lead, c, cs, blanks, visible, rfl⟩
  · exact iff_of_true (read_of_blanks blanks) (.blank blanks)
  · rw [read_lead blanks visible, vacant_lead_iff blanks visible]
    by_cases comment : c = '#'
    · simp [comment]
    · by_cases dollar : c = '$'
      · cases readNamed (trimEnd cs) <;> simp [dollar, Except.map]
      · simp [comment, dollar]

theorem read_eq_some_iff : read line = .ok (some a) ↔ Spells line a := by
  rcases blank_or_visible line with blanks | ⟨lead, c, cs, blanks, visible, rfl⟩
  · rw [read_of_blanks blanks]
    exact iff_of_false (by simp) (not_spells_of_blanks blanks)
  · rw [read_lead blanks visible, spells_lead_iff blanks visible, ← named_trimEnd_iff,
      ← readNamed_eq_ok_iff]
    by_cases dollar : c = '$'
    · cases readNamed (trimEnd cs) <;> simp [dollar, Except.map]
    · by_cases comment : c = '#' <;> simp [comment, dollar]

/-- A line is read as nothing exactly when it is blank or a comment, and as an assignment exactly
when the grammar derives the assignment, which it does for one assignment at most. Every other line
is at fault. -/
theorem read_iff_grammar (line : List Char) :
    (read line = .ok none ↔ Vacant line) ∧
      (∀ a, read line = .ok (some a) ↔ Spells line a) ∧
      (∀ a b, Spells line a → Spells line b → a = b) ∧
      ((∃ fault, read line = .error fault) ↔ ¬ Vacant line ∧ ∀ a, ¬ Spells line a) := by
  refine ⟨read_eq_none_iff, fun a => read_eq_some_iff, fun a b first second => ?_, ?_⟩
  · have same := (read_eq_some_iff.mpr first).symm.trans (read_eq_some_iff.mpr second)
    simpa using same
  · simp only [← read_eq_none_iff, ← read_eq_some_iff]
    cases held : read line with
    | error fault => simp
    | ok found => cases found <;> simp

/-- A number sign opens a comment directly behind a literal, but not inside one. -/
example : read "\t$a ||= \"#1\"# note".toList = .ok (some ⟨"a", .fill, .text "#1"⟩) := by cbv

end Assignment
end ClusterVars
