import ClusterVars.Proofs.Grammar.Lines
import ClusterVars.Proofs.Verdict
import Mathlib.Data.Nat.Digits.Defs

/-! Written integers as integers. What a token denotes is said by its digits and their places alone,
without a bound, and the reader takes in exactly the tokens that denote something. Whether an option
that counts takes the integer depends on the integer and on nothing else; one that it does not take
is refused by the load of a text, never by its reader. -/
namespace ClusterVars
open Text
open Assignment (fault? WellFormed)

namespace Numeral

/-! The integer that a token denotes -/

/-- The number that decimal digits stand for, the digit of the highest place first. -/
def positional (digits : List Char) : Nat :=
  Nat.ofDigits 10 (digits.reverse.map fun c => c.toNat - '0'.toNat)

/-- The integer that is written by grouped digits, with or without a sign in front. -/
inductive Denotes : List Char → Int → Prop
  | plain {spelled digits} : Grouped Char.isDigit spelled digits →
    Denotes spelled (positional digits)
  | plus {spelled digits} : Grouped Char.isDigit spelled digits →
    Denotes ('+' :: spelled) (positional digits)
  | minus {spelled digits} : Grouped Char.isDigit spelled digits →
    Denotes ('-' :: spelled) (-positional digits)

theorem positional_cons (c : Char) (digits : List Char) : positional (c :: digits) =
    (c.toNat - '0'.toNat) * 10 ^ digits.length + positional digits := by
  simp only [positional, List.reverse_cons, List.map_append, Nat.ofDigits_append, List.length_map,
    List.length_reverse, List.map_cons, List.map_nil, Nat.ofDigits_singleton]
  rw [Nat.add_comm, Nat.mul_comm]

/-- Every digit that is read moves those before it up by one place. -/
theorem ofDigitChars_eq (digits : List Char) (n : Nat) :
    Nat.ofDigitChars 10 digits n = n * 10 ^ digits.length + positional digits := by
  induction digits generalizing n with
  | nil => simp [positional]
  | cons c digits ih =>
    rw [Nat.ofDigitChars_cons, ih, positional_cons, List.length_cons]
    ring

variable {token : List Char} {z : Int}

theorem toInt_eq (negative : Bool) (digits : List Char) :
    toInt ⟨negative, digits⟩ =
      if negative then -(positional digits : Int) else positional digits := by
  simp [toInt, ofDigitChars_eq]

theorem denotes_iff : Denotes token z ↔ ∃ n : Numeral, n.Spells token ∧ n.toInt = z := by
  constructor
  · intro denotes
    cases denotes with
    | plain grouped => exact ⟨_, .plain grouped, toInt_eq false _⟩
    | plus grouped => exact ⟨_, .plus grouped, toInt_eq false _⟩
    | minus grouped => exact ⟨_, .minus grouped, toInt_eq true _⟩
  · rintro ⟨n, spells, rfl⟩
    cases spells with
    | plain grouped => exact toInt_eq false _ ▸ .plain grouped
    | plus grouped => exact toInt_eq false _ ▸ .plus grouped
    | minus grouped => exact toInt_eq true _ ▸ .minus grouped

theorem toInt_of_denotes {n : Numeral} (read : read? token = some n) (denotes : Denotes token z) :
    n.toInt = z := by
  obtain ⟨other, spells, rfl⟩ := denotes_iff.mp denotes
  rw [← read?_eq_some_iff, read] at spells
  rw [Option.some.inj spells]

/-! The count that it stands for -/

theorem count?_eq_toInt (limit : Nat) (n : Numeral) :
    n.count? limit = if 1 ≤ n.toInt ∧ n.toInt ≤ limit then some n.toInt.toNat else none := by
  rw [count?_eq]
  cases negative : n.negative with
  | true =>
    have low : n.toInt ≤ 0 := by simp [toInt, negative]
    rw [if_neg (by simp), if_neg (by omega)]
  | false =>
    have same : n.toInt = (Nat.ofDigitChars 10 n.digits 0 : Nat) := by simp [toInt, negative]
    simp only [same, true_and, Int.toNat_natCast, Nat.cast_le, Nat.one_le_cast, Nat.succ_le_iff]

end Numeral

/-- The integers that an option which counts takes. -/
def IsCount (z : Int) : Prop := 1 ≤ z ∧ z ≤ 4294967295

instance (z : Int) : Decidable (IsCount z) := inferInstanceAs (Decidable (_ ∧ _))

theorem Kind.value?_count (n : Numeral) :
    Kind.count.value? (.integer n) =
      if IsCount n.toInt then some (.count n.toInt.toNat) else none := by
  rw [value?, Numeral.count?_eq_toInt, apply_ite (Option.map Value.count)]
  rfl

/-! Lines that give an integer to an option -/

namespace Assignment
variable {key : Key} {token line : List Char} {n : Numeral}

/-- A line on which the token is assigned to the option. -/
inductive Gives (key : Key) (token : List Char) : List Char → Prop
  | intro {lead gap sign space rest operator} : Blanks lead → Blanks gap →
    Operator.Spells sign operator (space ++ (token ++ rest)) → Blanks space → Vacant rest →
    Gives key token
      (lead ++ '$' :: (key.name.toList ++ (gap ++ (sign ++ (space ++ (token ++ rest))))))

theorem name_of_key (key : Key) : Name key.name.toList :=
  isName_iff.mp (by cases key <;> decide)

theorem read_of_gives (gives : Gives key token line) (read : Numeral.read? token = some n) :
    ∃ operator, Assignment.read line = .ok (some ⟨key.name, operator, .integer n⟩) := by
  cases gives with
  | @intro lead gap sign space rest operator leadBlanks gapBlanks signSpells spaceBlanks vacant =>
    have spells : Literal.Spells token (.integer n) rest :=
      .token (.integer (Numeral.read?_eq_some_iff.mp read)) vacant.endsToken
    have named := Named.intro (name_of_key key) gapBlanks signSpells spaceBlanks spells vacant
    rw [String.ofList_toList] at named
    exact ⟨operator, read_eq_some_iff.mpr (.intro leadBlanks named)⟩

theorem fault?_of_gives (gives : Gives key token line) (read : Numeral.read? token = some n) :
    fault? line = none := by
  obtain ⟨operator, held⟩ := read_of_gives gives read
  simp [fault?, held]

theorem refusalIn?_of_gives (gives : Gives key token line) (read : Numeral.read? token = some n)
    (counts : key.kind = .count) (policy : Policy) :
    refusalIn? policy line =
      if IsCount n.toInt then none else some (.mismatch key (.integer n)) := by
  obtain ⟨operator, held⟩ := read_of_gives gives read
  simp only [refusalIn?, held?, held, Option.bind_some, refusal?, Key.ofName?_name, counts,
    Kind.value?_count]
  by_cases fits : IsCount n.toInt <;> simp [fits]

end Assignment

namespace Verdict
variable {policy : Policy} {source : String} {ls : List (List Char)} {alerts : List Notice}
  {failure : Failure} {i : Nat} {line : List Char}

/-- A failure that names a line comes from that line. -/
theorem of_location (verdict : Verdict policy source ls alerts (some failure))
    (located : failure.location? = some ⟨source, i + 1⟩) (found : ls[i]? = some line) :
    (∃ fault, fault? line = some fault ∧ failure = .malformed ⟨source, i + 1⟩ fault) ∨
      ∃ refusal, refusalIn? policy line = some refusal ∧
        failure = refusal.failureAt ⟨source, i + 1⟩ := by
  generalize outcome : some failure = failure? at verdict
  cases verdict with
  | @malformed j fault first =>
    cases outcome
    obtain rfl : j = i := by simpa [Failure.location?] using located
    obtain ⟨other, same, answer⟩ := first.getElem?
    obtain rfl : line = other := by simpa [found] using same
    exact .inl ⟨fault, answer, rfl⟩
  | @refused j refusal wellFormed first =>
    cases outcome
    obtain rfl : j = i := by simpa [refusal.location?_failureAt] using located
    obtain ⟨other, same, answer⟩ := first.getElem?
    obtain rfl : line = other := by simpa [found] using same
    exact .inr ⟨refusal, answer, rfl⟩
  | accepted => contradiction

end Verdict

/-! Loading such a line -/

namespace Bindings
variable {policy : Policy} {text : String} {i : Nat} {line : List Char} {refusal : Refusal}

theorem addText_fails (found : (linesOf text)[i]? = some line)
    (refused : refusalIn? policy line = some refusal) (b : Bindings) (source : String) :
    ∃ failure, (b.addText policy source text).result = .error failure := by
  have verdict := verdict_addText policy b source text
  cases outcome : (b.addText policy source text).failure? with
  | some failure => exact ⟨failure, Logged.failure?_eq_some.mp outcome⟩
  | none =>
    rw [outcome] at verdict
    have accepted := verdict.of_none.2.1 line (List.mem_of_getElem? found)
    rw [accepted] at refused
    contradiction

end Bindings

/-- The reader takes in exactly the tokens that denote an integer, however long they are, and keeps
that integer. An option that counts takes it when it is in range and only then. A text that gives
the option another integer does not load: nothing is wrong with the line as such, so no failure
calls it malformed, and where no other line is at fault and none before it is refused, the failure
is that the integer does not fit. -/
theorem Numeral.count_exact (token : List Char) :
    ((∃ n, read? token = some n) ↔ ∃ z, Denotes token z) ∧
      ∀ n z, read? token = some n → Denotes token z →
        n.toInt = z ∧
        (∀ rest, EndsToken rest → Literal.read (token ++ rest) = .ok (.integer n, rest)) ∧
        Kind.count.value? (.integer n) = (if IsCount z then some (.count z.toNat) else none) ∧
        ∀ (key : Key) (text : String) (i : Nat) (line : List Char), key.kind = .count →
          (linesOf text)[i]? = some line → Assignment.Gives key token line →
          ∀ (policy : Policy) (b : Bindings) (source : String),
            let loaded := (b.addText policy source text).result
            let mismatch : Failure := .mismatch ⟨source, i + 1⟩ key (.integer n)
            (∀ failure, loaded = .error failure → failure.location? = some ⟨source, i + 1⟩ →
              failure = mismatch ∧ ¬ IsCount z) ∧
            (¬ IsCount z → (∃ failure, loaded = .error failure) ∧
              (WellFormed (linesOf text) →
                (∀ earlier ∈ (linesOf text).take i, refusalIn? policy earlier = none) →
                loaded = .error mismatch)) := by
  refine ⟨?_, fun n z read denotes => ?_⟩
  · simp only [read?_eq_some_iff, denotes_iff]
    exact ⟨fun ⟨n, spells⟩ => ⟨n.toInt, n, spells, rfl⟩, fun ⟨z, n, spells, _⟩ => ⟨n, spells⟩⟩
  · obtain rfl := toInt_of_denotes read denotes
    have isToken : Literal.Token token (.integer n) := .integer (read?_eq_some_iff.mp read)
    refine ⟨rfl, fun rest ends => Literal.read_of_spells (.token isToken ends),
      Kind.value?_count n, ?_⟩
    intro key text i line counts found gives policy b source loaded mismatch
    have sound := Assignment.fault?_of_gives gives read
    have refused := Assignment.refusalIn?_of_gives gives read counts policy
    constructor
    · intro failure failed located
      have verdict := Bindings.verdict_addText policy b source text
      rw [Logged.failure?_eq_some.mpr failed] at verdict
      rcases verdict.of_location located found with ⟨fault, faulty, -⟩ | ⟨refusal, answer, rfl⟩
      · simp [sound] at faulty
      · rw [refused] at answer
        split at answer
        · contradiction
        · rename_i outside
          cases answer
          exact ⟨rfl, outside⟩
    · intro outside
      rw [if_neg outside] at refused
      refine ⟨Bindings.addText_fails found refused b source, fun wellFormed accepted => ?_⟩
      have first := FirstAt.of_getElem? found refused accepted
      exact (Bindings.addText_of_refused b source wellFormed first).1

/-- The largest count, with zeros in front, and the integer after it, on a line of a text. -/
theorem Numeral.count_exact_at_limit :
    Kind.count.value? (.integer ⟨false, "0004294967295".toList⟩) = some (.count 4294967295) ∧
      (Bindings.empty.addText .warn "a" "$cpus = nil\n $num_forks ||= +4_294_967_296# all").result =
        .error (.mismatch ⟨"a", 2⟩ .numForks (.integer ⟨false, "4294967296".toList⟩)) := by
  have denotes {token : List Char} {n : Numeral} (read : read? token = some n) :
      Denotes token n.toInt := denotes_iff.mpr ⟨n, read?_eq_some_iff.mp read, rfl⟩
  have largest : read? "000_4294967295".toList = some ⟨false, "0004294967295".toList⟩ := by decide
  have next : read? "+4_294_967_296".toList = some ⟨false, "4294967296".toList⟩ := by decide
  obtain ⟨-, -, coerced, -⟩ := (count_exact _).2 _ _ largest (denotes largest)
  obtain ⟨-, -, -, load⟩ := (count_exact _).2 _ _ next (denotes next)
  have gives : Assignment.Gives .numForks "+4_294_967_296".toList ([' '] ++ '$' ::
      ("num_forks".toList ++ ([' '] ++ (['|', '|', '='] ++ ([' '] ++
        ("+4_294_967_296".toList ++ "# all".toList)))))) := by
    have space : Blanks [' '] := by simp [Blanks]; decide
    have vacant : Vacant "# all".toList := .comment " all".toList (by simp [Blanks] : Blanks [])
    exact .intro space space (.fill _) space vacant
  have lines : linesOf "$cpus = nil\n $num_forks ||= +4_294_967_296# all" =
      ["$cpus = nil".toList, " $num_forks ||= +4_294_967_296# all".toList] := rfl
  obtain ⟨-, refused⟩ := load .numForks _ 1 _ rfl (by rw [lines]; rfl) gives .warn .empty "a"
  refine ⟨coerced, (refused (by decide)).2 ?_ ?_⟩
  · rw [lines, WellFormed]
    decide +kernel
  · rw [lines]
    decide +kernel

end ClusterVars
