import ClusterVars.Proofs.Written

/-! The grammar of literals, apart from their reader: integers with a sign and grouped digits,
quoted texts with their escapes, and the words of the language. The reader accepts exactly these and
leaves the rest of the line as it is. -/
namespace ClusterVars
open Text

/-! Integers -/

namespace Numeral

/-- An integer as it is written: a sign may stand before the grouped digits. -/
inductive Spells : List Char → Numeral → Prop
  | plain {spelled digits} : Grouped Char.isDigit spelled digits → Spells spelled ⟨false, digits⟩
  | plus {spelled digits} :
    Grouped Char.isDigit spelled digits → Spells ('+' :: spelled) ⟨false, digits⟩
  | minus {spelled digits} :
    Grouped Char.isDigit spelled digits → Spells ('-' :: spelled) ⟨true, digits⟩

variable {token : List Char} {n : Numeral}

theorem Spells.mem (spells : Spells token n) :
    token ≠ [] ∧ ∀ c ∈ token, c.isDigit = true ∨ c ∈ ['_', '+', '-'] := by
  have inside {spelled digits} (grouped : Grouped Char.isDigit spelled digits) :
      ∀ c ∈ spelled, c.isDigit = true ∨ c ∈ ['_', '+', '-'] := fun c member =>
    (grouped.digit_or_underscore member).imp_right (by rintro rfl; decide)
  cases spells with
  | plain grouped => exact ⟨grouped.nonempty, inside grouped⟩
  | plus grouped | minus grouped =>
    refine ⟨by simp, fun c member => ?_⟩
    rcases List.mem_cons.mp member with rfl | later
    · exact .inr (by decide)
    · exact inside grouped c later

theorem readDigits?_eq_some_iff {spelled digits : List Char} :
    readDigits? spelled = some digits ↔ Grouped Char.isDigit spelled digits :=
  ungroup?_eq_some_iff (by decide)

theorem read?_eq_some_iff : read? token = some n ↔ Spells token n := by
  constructor
  · intro read
    cases token with
    | nil => simp [read?] at read
    | cons c rest =>
      simp only [read?] at read
      split at read
      · subst c
        obtain ⟨digits, held, rfl⟩ := Option.map_eq_some_iff.mp read
        exact .minus (readDigits?_eq_some_iff.mp held)
      · split at read
        · subst c
          obtain ⟨digits, held, rfl⟩ := Option.map_eq_some_iff.mp read
          exact .plus (readDigits?_eq_some_iff.mp held)
        · obtain ⟨digits, held, rfl⟩ := Option.map_eq_some_iff.mp read
          exact .plain (readDigits?_eq_some_iff.mp held)
  · intro spells
    cases spells with
    | plain grouped =>
      obtain ⟨c, rest, rfl⟩ := List.exists_cons_of_ne_nil grouped.nonempty
      have first := grouped.digit_or_underscore List.mem_cons_self
      have noMinus : c ≠ '-' := by rintro rfl; simp at first
      have noPlus : c ≠ '+' := by rintro rfl; simp at first
      simp [read?, noMinus, noPlus, readDigits?_eq_some_iff.mpr grouped]
    | plus grouped => simp [read?, readDigits?_eq_some_iff.mpr grouped]
    | minus grouped => simp [read?, readDigits?_eq_some_iff.mpr grouped]

end Numeral

/-! Quoted texts -/

namespace Quote

/-- What a backslash and the character after it stand for. -/
inductive Pair : Quote → Char → List Char → Prop
  | backslash (quote : Quote) : Pair quote '\\' ['\\']
  | mark (quote : Quote) : Pair quote quote.mark [quote.mark]
  | newline : Pair .double 'n' ['\n']
  | tab : Pair .double 't' ['\t']
  /-- Single quotes keep every other pair as it is. -/
  | whole {c} : c ≠ '\\' → c ≠ Quote.single.mark → Pair .single c ['\\', c]

/-- What stands between quotes, as it is written, and the text that it stands for. -/
inductive Body (quote : Quote) : List Char → List Char → Prop
  | nil : Body quote [] []
  | plain {c spelled text} : c ≠ quote.mark → c ≠ '\\' → Body quote spelled text →
    Body quote (c :: spelled) (c :: text)
  | pair {c cs spelled text} : quote.Pair c cs → Body quote spelled text →
    Body quote ('\\' :: c :: spelled) (cs ++ text)

variable {quote : Quote} {input text rest cs : List Char} {c : Char}

theorem unescape?_eq_some_iff : quote.unescape? c = some cs ↔ quote.Pair c cs := by
  constructor
  · intro stands
    unfold unescape? at stands
    split at stands
    · cases stands
      subst c
      exact .backslash quote
    · split at stands
      · cases stands
        subst c
        exact .mark quote
      · rename_i noBackslash noMark
        cases quote with
        | single =>
          cases stands
          exact .whole noBackslash noMark
        | double =>
          simp only at stands
          split at stands
          · cases stands
            subst c
            exact .newline
          · split at stands
            · cases stands
              subst c
              exact .tab
            · contradiction
  · intro pair
    cases pair with
    | backslash => rfl
    | mark => cases quote <;> rfl
    | newline | tab => rfl
    | whole noBackslash noMark => simp [unescape?, noBackslash, noMark]

theorem readBody_of_body {spelled : List Char} (body : quote.Body spelled text) :
    quote.readBody (spelled ++ quote.mark :: rest) = .ok (text, rest) := by
  induction body with
  | nil => exact quote.readBody_mark rest
  | plain open_ plain _ ih => rw [List.cons_append, quote.readBody_plain _ open_ plain, ih]; rfl
  | pair pair _ ih =>
    rw [List.cons_append, List.cons_append,
      quote.readBody_escaped _ (unescape?_eq_some_iff.mpr pair), ih]
    rfl

theorem body_of_readBody (read : quote.readBody input = .ok (text, rest)) :
    ∃ spelled, input = spelled ++ quote.mark :: rest ∧ quote.Body spelled text := by
  fun_induction Quote.readBody quote input generalizing text with
  | case1 | case3 | case4 | case5 | case7 => contradiction
  | case2 =>
    cases read
    exact ⟨[], rfl, .nil⟩
  | case6 escaped after cs stands body left readRest _ ih =>
    cases read
    obtain ⟨spelled, split, body⟩ := ih readRest
    exact ⟨'\\' :: escaped :: spelled, by rw [split]; rfl,
      .pair (unescape?_eq_some_iff.mp stands) body⟩
  | case8 c after noMark noBackslash body left readRest ih =>
    cases read
    obtain ⟨spelled, split, body⟩ := ih readRest
    exact ⟨c :: spelled, by rw [split]; rfl, .plain noMark noBackslash body⟩

theorem readBody_eq_ok_iff : quote.readBody input = .ok (text, rest) ↔
    ∃ spelled, input = spelled ++ quote.mark :: rest ∧ quote.Body spelled text := by
  constructor
  · exact body_of_readBody
  · rintro ⟨spelled, rfl, body⟩
    exact readBody_of_body body

end Quote

/-! Literals -/

/-- A token ends at white space, at a comment or with the line. -/
def Text.EndsToken (rest : List Char) : Prop :=
  ∀ c, rest.head? = some c → isBlank c = true ∨ c = '#'

theorem Text.endsToken_iff {rest : List Char} :
    EndsToken rest ↔ ∀ c, rest.head? = some c → Literal.inToken c = false := by
  simp [EndsToken, Literal.inToken, Classical.or_iff_not_imp_left]

namespace Literal

/-- A literal that is not quoted. -/
inductive Token : List Char → Literal → Prop
  | trueFlag : Token ['t', 'r', 'u', 'e'] (.flag true)
  | falseFlag : Token ['f', 'a', 'l', 's', 'e'] (.flag false)
  | nil : Token ['n', 'i', 'l'] .nil
  | integer {token n} : n.Spells token → Token token (.integer n)

/-- A literal as it is written in front of the rest of a line. A quoted one ends itself. -/
inductive Spells : List Char → Literal → List Char → Prop
  | token {spelled literal rest} : Token spelled literal → EndsToken rest →
    Spells spelled literal rest
  | text {body text} (quote : Quote) (rest : List Char) : quote.Body body text →
    Spells (quote.mark :: (body ++ [quote.mark])) (.text (String.ofList text)) rest

variable {token spelled input rest : List Char} {literal : Literal}

theorem isBlank_of_inToken {c : Char} (inside : inToken c = true) : isBlank c = false := by
  simp only [inToken, Bool.not_or, Bool.and_eq_true, Bool.not_eq_true'] at inside
  exact inside.1

theorem Spells.before {other : List Char} (spells : literal.Spells spelled rest)
    (ends : EndsToken other) : literal.Spells spelled other := by
  cases spells with
  | token isToken => exact .token isToken ends
  | text quote rest body => exact .text quote other body

theorem Token.inside (isToken : Token token literal) :
    token ≠ [] ∧ ∀ c ∈ token,
      inToken c = true ∧ c ≠ Quote.double.mark ∧ c ≠ Quote.single.mark := by
  cases isToken with
  | trueFlag | falseFlag | nil =>
    refine ⟨by decide, fun c member => ⟨List.all_eq_true.mp rfl c member, ?_, ?_⟩⟩ <;>
      · rintro rfl
        exact absurd member (by decide)
  | integer spells =>
    refine ⟨spells.mem.1, fun c member => ?_⟩
    rcases spells.mem.2 c member with digit | sign
    · have noDigit {d : Char} (other : d.isDigit = false) : c ≠ d := by
        rintro rfl
        simp [digit] at other
      refine ⟨?_, noDigit (by decide), noDigit (by decide)⟩
      simp [inToken, isBlank_of_isDigit digit, noDigit (d := '#') (by decide)]
    · simp only [List.mem_cons, List.not_mem_nil, or_false] at sign
      rcases sign with rfl | rfl | rfl <;> decide

theorem Token.unquoted (isToken : Token token literal) {c : Char} (member : c ∈ token)
    (quote : Quote) : c ≠ quote.mark := by
  obtain ⟨-, noDouble, noSingle⟩ := isToken.inside.2 c member
  cases quote <;> assumption

theorem ofToken_eq_ok_iff : ofToken token = .ok literal ↔ Token token literal := by
  constructor
  · intro read
    simp only [ofToken] at read
    split at read
    · cases read
      subst token
      exact .trueFlag
    · split at read
      · cases read
        subst token
        exact .falseFlag
      · split at read
        · cases read
          subst token
          exact .nil
        · cases held : Numeral.read? token with
          | none => simp [held] at read
          | some n =>
            simp only [held] at read
            cases read
            exact .integer (Numeral.read?_eq_some_iff.mp held)
  · intro isToken
    cases isToken with
    | trueFlag | falseFlag | nil => rfl
    | integer spells =>
      have noWord {c : Char} (letter : ¬ (c.isDigit = true ∨ c ∈ ['_', '+', '-']))
          (cs : List Char) : token ≠ c :: cs := by
        rintro rfl
        exact letter (spells.mem.2 c List.mem_cons_self)
      rw [ofToken, if_neg (noWord (by decide) _), if_neg (noWord (by decide) _),
        if_neg (noWord (by decide) _), Numeral.read?_eq_some_iff.mpr spells]

theorem read_mark (quote : Quote) (rest : List Char) :
    read (quote.mark :: rest) = readText quote rest := by
  cases quote <;> rfl

theorem read_of_spells (spells : literal.Spells spelled rest) :
    read (spelled ++ rest) = .ok (literal, rest) := by
  cases spells with
  | token isToken ends =>
    obtain ⟨nonempty, inside⟩ := isToken.inside
    obtain ⟨c, cs, starts⟩ := List.exists_cons_of_ne_nil nonempty
    exact read_token starts (isToken.unquoted (by simp [starts]))
      (fun c member => (inside c member).1) (endsToken_iff.mp ends) (ofToken_eq_ok_iff.mpr isToken)
  | text quote rest body =>
    rw [List.cons_append, List.append_assoc, List.singleton_append, read_mark, readText,
      Quote.readBody_of_body body]

theorem spells_of_read (held : read input = .ok (literal, rest)) :
    ∃ spelled, input = spelled ++ rest ∧ literal.Spells spelled rest := by
  cases input with
  | nil => simp [read] at held
  | cons c cs =>
    by_cases quoted : ∃ quote : Quote, c = quote.mark
    · obtain ⟨quote, rfl⟩ := quoted
      rw [read_mark, readText] at held
      cases body : quote.readBody cs with
      | error fault => simp [body] at held
      | ok pair =>
        obtain ⟨text, after⟩ := pair
        simp only [body] at held
        cases held
        obtain ⟨spelled, rfl, spells⟩ := Quote.readBody_eq_ok_iff.mp body
        exact ⟨_, by simp, .text quote rest spells⟩
    · have unquoted (quote : Quote) : c ≠ quote.mark := fun same => quoted ⟨quote, same⟩
      rw [read, if_neg (unquoted _), if_neg (unquoted _)] at held
      split at held
      · contradiction
      · cases token : ofToken ((c :: cs).takeWhile inToken) with
        | error fault => simp [token] at held
        | ok value =>
          simp only [token] at held
          cases held
          refine ⟨_, List.takeWhile_append_dropWhile.symm, .token (ofToken_eq_ok_iff.mp token) ?_⟩
          rw [endsToken_iff]
          exact fun d head => stops_dropWhile head

theorem read_eq_ok_iff : read input = .ok (literal, rest) ↔
    ∃ spelled, input = spelled ++ rest ∧ literal.Spells spelled rest := by
  constructor
  · exact spells_of_read
  · rintro ⟨spelled, rfl, spells⟩
    exact read_of_spells spells

/-- A literal starts and ends with characters that trimming leaves alone. -/
theorem Spells.visible (spells : literal.Spells spelled rest) :
    (∃ c cs, spelled = c :: cs ∧ isBlank c = false) ∧
      ∃ start c, spelled = start ++ [c] ∧ isBlank c = false := by
  cases spells with
  | token isToken =>
    obtain ⟨nonempty, inside⟩ := isToken.inside
    exact visible_ends nonempty fun c member => isBlank_of_inToken (inside c member).1
  | @text body text quote rest spells =>
    have visible : isBlank quote.mark = false := by cases quote <;> decide
    exact ⟨⟨quote.mark, _, rfl, visible⟩, quote.mark :: body, quote.mark, rfl, visible⟩

end Literal
end ClusterVars
