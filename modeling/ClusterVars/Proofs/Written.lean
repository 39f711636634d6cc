import ClusterVars.Proofs.Numeral
import ClusterVars.Proofs.Text.Blank
import ClusterVars.Assignment
import ClusterVars.Schema

/-! What is written is read back: a quoted text, the literal of a value with anything after it that
does not run into it, and an assignment on a line of its own. -/
namespace ClusterVars
open Text

/-! Quoted texts -/

theorem noFeed_escape (c : Char) : '\n' ∉ escape c := by
  by_cases feed : c = '\n'
  · subst feed
    decide
  · unfold escape
    split
    · decide
    · split
      · decide
      · split <;> simp [Ne.symm feed]

namespace Quote
variable (quote : Quote) (rest : List Char)

theorem readBody_mark : quote.readBody (quote.mark :: rest) = .ok ([], rest) := by
  rw [readBody.eq_def]
  exact if_pos rfl

theorem readBody_plain {c : Char} (open_ : c ≠ quote.mark) (plain : c ≠ '\\') :
    quote.readBody (c :: rest) =
      (quote.readBody rest).map fun read => (c :: read.1, read.2) := by
  rw [readBody.eq_def]
  simp only [if_neg open_, if_neg plain]
  cases quote.readBody rest <;> rfl

theorem readBody_escaped {c : Char} {cs : List Char} (stands : quote.unescape? c = some cs) :
    quote.readBody ('\\' :: c :: rest) =
      (quote.readBody rest).map fun read => (cs ++ read.1, read.2) := by
  have open_ : '\\' ≠ quote.mark := by cases quote <;> decide
  rw [readBody.eq_def]
  simp only [if_neg open_, if_true, stands]
  cases quote.readBody rest <;> rfl

/-- Escaping is undone character by character. -/
theorem readBody_escape (c : Char) :
    Quote.double.readBody (escape c ++ rest) =
      (Quote.double.readBody rest).map fun read => (c :: read.1, read.2) := by
  unfold escape
  split
  · subst c
    exact readBody_escaped .double rest (c := '"') rfl
  · split
    · subst c
      exact readBody_escaped .double rest (c := '\\') rfl
    · split
      · subst c
        exact readBody_escaped .double rest (c := 'n') rfl
      · split
        · subst c
          exact readBody_escaped .double rest (c := 't') rfl
        · rename_i noQuote noBackslash _ _
          exact readBody_plain .double rest noQuote noBackslash

theorem readBody_escapes (cs : List Char) :
    Quote.double.readBody (cs.flatMap escape ++ '"' :: rest) = .ok (cs, rest) := by
  induction cs with
  | nil => exact readBody_mark .double rest
  | cons c cs ih => rw [List.flatMap_cons, List.append_assoc, readBody_escape, ih]; rfl

end Quote

/-! Literals of values -/

theorem Text.isBlank_of_isDigit {c : Char} (digit : c.isDigit = true) : isBlank c = false := by
  have code : 48 ≤ c.toNat ∧ c.toNat ≤ 57 := Char.isDigit_iff_toNat.mp digit
  exact isBlank_of_printable (by omega) (by omega)

namespace Value

/-- The literal that the value is written as. -/
def literal : Value → Literal
  | .text s => .text s
  | .count n => .integer (.ofNat n)
  | .flag b => .flag b

theorem literal_ne_nil (v : Value) : v.literal ≠ .nil := by cases v <;> simp [literal]

theorem isDigit_of_mem_count {n : Nat} {c : Char} (member : c ∈ (count n).chars) :
    c.isDigit = true :=
  Nat.isDigit_of_mem_toDigits (by decide) (by decide) member

theorem noFeed_chars (v : Value) : '\n' ∉ v.chars := by
  cases v with
  | text s => simp [chars, quoted, noFeed_escape]
  | count n =>
    intro feed
    exact absurd (isDigit_of_mem_count feed) (by decide)
  | flag b => cases b <;> decide

/-- A written value starts and ends with characters that trimming leaves alone. -/
theorem visible_chars (v : Value) :
    (∃ c rest, v.chars = c :: rest ∧ isBlank c = false) ∧
      ∃ start c, v.chars = start ++ [c] ∧ isBlank c = false := by
  cases v with
  | text s =>
    exact ⟨⟨'"', _, rfl, by decide⟩, '"' :: s.toList.flatMap escape, '"', rfl, by decide⟩
  | count n =>
    exact visible_ends Nat.toDigits_ne_nil fun c member =>
      isBlank_of_isDigit (isDigit_of_mem_count member)
  | flag b =>
    cases b with
    | true => exact ⟨⟨'t', _, rfl, by decide⟩, ⟨['t', 'r', 'u'], 'e', rfl, by decide⟩⟩
    | false => exact ⟨⟨'f', _, rfl, by decide⟩, ⟨['f', 'a', 'l', 's'], 'e', rfl, by decide⟩⟩

/-- What may follow a value without being taken for a part of it. A quoted text ends itself. -/
def EndsBefore (v : Value) (rest : List Char) : Prop :=
  v.text? = none → ∀ c, rest.head? = some c → Literal.inToken c = false

theorem endsBefore_nil (v : Value) : v.EndsBefore [] := by simp [EndsBefore]

end Value

namespace Literal

theorem read_token {token rest : List Char} {literal : Literal} {c : Char} {cs : List Char}
    (starts : token = c :: cs) (unquoted : ∀ quote : Quote, c ≠ quote.mark)
    (inside : ∀ c ∈ token, inToken c = true)
    (ends : ∀ c, rest.head? = some c → inToken c = false) (known : ofToken token = .ok literal) :
    read (token ++ rest) = .ok (literal, rest) := by
  have taken : (token ++ rest).takeWhile inToken = token := takeWhile_run inside ends
  have left : (token ++ rest).dropWhile inToken = rest := dropWhile_run inside ends
  have noComment : c ≠ '#' := by
    rintro rfl
    exact absurd (inside '#' (by simp [starts])) (by decide)
  subst starts
  rw [List.cons_append] at taken left ⊢
  rw [read, if_neg noComment, if_neg (unquoted _), if_neg (unquoted _), taken, left, known]

theorem ofToken_toDigits (n : Nat) :
    ofToken (Nat.toDigits 10 n) = .ok (.integer (.ofNat n)) := by
  have noLetter (c : Char) (letter : c.isDigit = false) (cs : List Char) :
      Nat.toDigits 10 n ≠ c :: cs := by
    intro same
    have digit : c.isDigit = true :=
      Nat.isDigit_of_mem_toDigits (by decide) (by decide) (same ▸ List.mem_cons_self)
    simp [digit] at letter
  rw [ofToken, if_neg (noLetter 't' (by decide) _), if_neg (noLetter 'f' (by decide) _),
    if_neg (noLetter 'n' (by decide) _), Numeral.read?_toDigits]

/-- A written value is read back, and the rest of the input is left as it is. -/
theorem read_chars (v : Value) {rest : List Char} (ends : v.EndsBefore rest) :
    read (v.chars ++ rest) = .ok (v.literal, rest) := by
  cases v with
  | text s =>
    have body := Quote.readBody_escapes rest s.toList
    simp [Value.chars, quoted, read, Quote.mark, readText, body, Value.literal]
  | count n =>
    have digits : ∀ c ∈ Nat.toDigits 10 n, c.isDigit = true := fun c member =>
      Value.isDigit_of_mem_count member
    have inside : ∀ c ∈ Nat.toDigits 10 n, inToken c = true := by
      intro c member
      have noComment : c ≠ '#' := by rintro rfl; exact absurd (digits _ member) (by decide)
      simp [inToken, isBlank_of_isDigit (digits c member), noComment]
    obtain ⟨c, cs, starts⟩ := List.exists_cons_of_ne_nil (Nat.toDigits_ne_nil (n := n) (b := 10))
    have digit : c.isDigit = true := digits c (by simp [starts])
    refine read_token starts (fun quote => ?_) inside (ends rfl) (ofToken_toDigits n)
    rintro rfl
    cases quote <;> exact absurd digit (by decide)
  | flag b =>
    cases b with
    | true =>
      exact read_token rfl (fun quote => by cases quote <;> decide) (List.all_eq_true.mp rfl)
        (ends rfl) rfl
    | false =>
      exact read_token rfl (fun quote => by cases quote <;> decide) (List.all_eq_true.mp rfl)
        (ends rfl) rfl

end Literal

/-! Assignments on a line -/

def Operator.chars : Operator → List Char
  | .assign => ['=']
  | .fill => ['|', '|', '=']

namespace Assignment

/-- The assignment of a value to a name, as it is written on a line. -/
def written (name : List Char) (operator : Operator) (v : Value) : List Char :=
  '$' :: (name ++ ' ' :: (operator.chars ++ ' ' :: v.chars))

theorem trim_written (name : List Char) (operator : Operator) (v : Value) :
    trim (written name operator v) = written name operator v := by
  obtain ⟨start, last, ending, visible⟩ := v.visible_chars.2
  apply trim_of_visible
  · intro c head
    cases head
    decide
  · intro c isLast
    have found : (written name operator v).getLast? = some last := by
      rw [written, ending]
      simp [List.getLast?_cons, List.getLast?_append]
    rw [found] at isLast
    cases isLast
    exact visible

theorem readOperator?_chars (operator : Operator) (rest : List Char) :
    readOperator? (trimStart (operator.chars ++ ' ' :: rest)) = some (operator, ' ' :: rest) := by
  cases operator <;> rfl

theorem trimStart_space (cs : List Char) : trimStart (' ' :: cs) = trimStart cs :=
  trimStart_append_of_blank [' '] cs (List.all_eq_true.mp rfl)

theorem read_written {name : List Char} (named : isName name = true) (operator : Operator)
    (v : Value) :
    read (written name operator v) = .ok (some ⟨String.ofList name, operator, v.literal⟩) := by
  have inside : ∀ c ∈ name, isNameChar c = true := by
    cases name with
    | nil => simp
    | cons c rest =>
      simp only [isName, Bool.and_eq_true, List.all_eq_true] at named
      exact named.2
  have outside : isNameChar ' ' = false := by decide
  have value : trimStart (' ' :: v.chars) = v.chars := by
    obtain ⟨c, rest, starts, visible⟩ := v.visible_chars.1
    rw [trimStart_space, starts]
    simp [trimStart, visible]
  have literal : Literal.read v.chars = .ok (v.literal, []) := by
    simpa using Literal.read_chars v v.endsBefore_nil
  have rest : readNamed (name ++ ' ' :: (operator.chars ++ ' ' :: v.chars)) =
      .ok ⟨String.ofList name, operator, v.literal⟩ := by
    rw [readNamed, List.takeWhile_append_of_pos inside, List.dropWhile_append_of_pos inside]
    simp [outside, named, trimStart_space, readOperator?_chars, value, literal, trimStart_nil,
      isEnd]
  rw [read, trim_written]
  simp [written, rest, Except.map]

end Assignment
end ClusterVars
