import ClusterVars.Proofs.Grammar.Lines
import ClusterVars.Proofs.Verdict

/-! What fits on one line. A value is written on one, from which it is read back whatever follows.
What is said about a text stays on one, too: a fault quotes a piece of the line that it is about,
and a literal is shown as it would be written, however many lines the text that it stands for
has. -/
namespace ClusterVars
open Text
open Assignment (fault? held? written)

/-! Written values -/

theorem Operator.toList_text (operator : Operator) : operator.text.toList = operator.chars := by
  cases operator <;> rfl

namespace Assignment

theorem Name.noFeed {name : List Char} (isName : Name name) : '\n' ∉ name := fun feed =>
  absurd (isName.nameChars '\n' feed) (by decide)

/-- A written assignment is a text of one statement. -/
theorem readText_written {name : List Char} (isName : Name name) (operator : Operator) (v : Value)
    (source : String) :
    Statement.readText source (String.ofList (written name operator v)) =
      .ok [⟨⟨source, 1⟩, ⟨String.ofList name, operator, v.literal⟩⟩] := by
  have mark : '\n' ∉ operator.chars := by cases operator <;> decide
  have noFeed : '\n' ∉ written name operator v := by
    simp [written, isName.noFeed, mark, v.noFeed_chars]
  have noMark : dropMark (written name operator v) = written name operator v := rfl
  rw [Statement.readText_eq, String.toList_ofList, noMark, List.splitOn_eq_singleton noFeed,
    Statement.readLines_cons, read_written (isName_iff.mpr isName)]
  rfl

end Assignment

/-- A value is written on one line. The literal that it stands for is read off its written form with
anything behind it, unless it is an unquoted token that goes on there; and an assignment of it is
read as that one statement. -/
theorem Value.read_shown (v : Value) :
    '\n' ∉ v.chars ∧
      (∀ rest, (∃ s, v = .text s) ∨ EndsToken rest →
        Literal.read (v.chars ++ rest) = .ok (v.literal, rest)) ∧
      ∀ (source name : String) (operator : Operator), Assignment.Name name.toList →
        Statement.readText source ("$" ++ name ++ " " ++ operator.text ++ " " ++ v.shown) =
          .ok [⟨⟨source, 1⟩, ⟨name, operator, v.literal⟩⟩] := by
  refine ⟨v.noFeed_chars, fun rest ends => Literal.read_chars v ?_,
    fun source name operator isName => ?_⟩
  · intro unquoted
    rcases ends with ⟨s, rfl⟩ | ends
    · simp [text?] at unquoted
    · exact endsToken_iff.mp ends
  · have spelled : "$" ++ name ++ " " ++ operator.text ++ " " ++ v.shown =
        String.ofList (written name.toList operator v) := by
      apply String.toList_inj.mp
      simp [written, shown, operator.toList_text]
    rw [spelled, Assignment.readText_written isName, String.ofList_toList]

/-! Faults -/

theorem Text.noFeed_append {s t : String} :
    '\n' ∉ (s ++ t).toList ↔ '\n' ∉ s.toList ∧ '\n' ∉ t.toList := by
  simp only [String.toList_append, List.mem_append, not_or]

theorem Text.trim_subset (cs : List Char) : trim cs ⊆ cs := by
  intro c member
  have reversed := List.dropWhile_subset isBlank (List.mem_reverse.mp member)
  exact List.dropWhile_subset isBlank (List.mem_reverse.mp reversed)

/-- The piece of a line that a fault quotes. -/
def LineFault.excerpt : LineFault → List Char
  | .missingName s | .invalidName s | .missingOperator s | .unrecognised s | .trailing s => s.toList
  | .unsupportedEscape c => [c]
  | .missingValue | .unterminated _ => []

/-- A fault adds no line feed to what it quotes. -/
theorem LineFault.noFeed_message {fault : LineFault} (clean : '\n' ∉ fault.excerpt) :
    '\n' ∉ fault.message.toList := by
  cases fault with
  | unterminated quote => cases quote <;> decide
  | missingValue => decide
  | missingName s | invalidName s | missingOperator s | unrecognised s | trailing s =>
    unfold message
    rw [noFeed_append, noFeed_append]
    exact ⟨⟨by decide, clean⟩, by decide⟩
  | unsupportedEscape c =>
    unfold message
    rw [noFeed_append, noFeed_append, Char.toString, String.toList_singleton]
    exact ⟨⟨by decide, clean⟩, by decide⟩

section
variable {input line : List Char} {fault : LineFault}

theorem Quote.excerpt_subset {quote : Quote} (failed : quote.readBody input = .error fault) :
    fault.excerpt ⊆ input := by
  fun_induction Quote.readBody quote input with
  | case2 | case6 | case8 => contradiction
  | case1 | case3 =>
    cases failed
    exact List.nil_subset _
  | case4 escaped after =>
    cases failed
    simp [LineFault.excerpt]
  | case5 escaped after cs _ other failedAfter _ ih =>
    cases failed
    exact fun c member => by simp [ih failedAfter member]
  | case7 c after _ _ other failedAfter ih =>
    cases failed
    exact fun c member => by simp [ih failedAfter member]

namespace Literal

theorem excerpt_of_ofToken {token : List Char} (failed : ofToken token = .error fault) :
    fault.excerpt = token := by
  unfold ofToken at failed
  split at failed
  · contradiction
  · split at failed
    · contradiction
    · split at failed
      · contradiction
      · split at failed
        · contradiction
        · cases failed
          exact String.toList_ofList

theorem excerpt_subset (failed : read input = .error fault) : fault.excerpt ⊆ input := by
  cases input with
  | nil =>
    cases failed
    exact List.nil_subset _
  | cons c cs =>
    by_cases quoted : ∃ quote : Quote, c = quote.mark
    · obtain ⟨quote, rfl⟩ := quoted
      rw [read_mark, readText] at failed
      cases body : quote.readBody cs with
      | error other =>
        rw [body] at failed
        cases failed
        exact List.subset_cons_of_subset _ (Quote.excerpt_subset body)
      | ok pair => simp [body] at failed
    · have unquoted (quote : Quote) : c ≠ quote.mark := fun same => quoted ⟨quote, same⟩
      rw [read, if_neg (unquoted _), if_neg (unquoted _)] at failed
      split at failed
      · cases failed
        exact List.nil_subset _
      · cases token : ofToken ((c :: cs).takeWhile inToken) with
        | ok literal => simp [token] at failed
        | error other =>
          simp only [token] at failed
          cases failed
          rw [excerpt_of_ofToken token]
          exact List.takeWhile_subset inToken

end Literal

namespace Assignment

theorem excerpt_of_readNamed (failed : readNamed input = .error fault) : fault.excerpt ⊆ input := by
  have name : input.takeWhile isNameChar ⊆ input := List.takeWhile_subset isNameChar
  have afterName : trimStart (input.dropWhile isNameChar) ⊆ input :=
    List.Subset.trans (List.dropWhile_subset isBlank) (List.dropWhile_subset isNameChar)
  simp only [readNamed] at failed
  split at failed
  · cases failed
    simpa [LineFault.excerpt] using name
  · split at failed
    · cases failed
      simpa [LineFault.excerpt] using name
    · rename_i operator afterSign held
      obtain ⟨sign, split, -⟩ := Operator.readOperator?_eq_some_iff.mp held
      rw [split] at afterName
      have value : trimStart afterSign ⊆ input := by
        refine List.Subset.trans (List.dropWhile_subset isBlank) ?_
        exact (List.append_subset.mp afterName).2
      split at failed
      · rename_i other unread
        cases failed
        exact List.Subset.trans (Literal.excerpt_subset unread) value
      · rename_i literal rest heldLiteral
        split at failed
        · contradiction
        · cases failed
          obtain ⟨spelled, splitLiteral, -⟩ := Literal.spells_of_read heldLiteral
          rw [splitLiteral] at value
          have trailing : trimStart rest ⊆ input :=
            List.Subset.trans (List.dropWhile_subset isBlank) (List.append_subset.mp value).2
          simpa [LineFault.excerpt] using trailing

theorem excerpt_of_fault? (faulty : fault? line = some fault) : fault.excerpt ⊆ line := by
  have failed : read line = .error fault := by
    unfold fault? at faulty
    split at faulty
    · cases faulty
      assumption
    · contradiction
  refine List.Subset.trans ?_ (trim_subset line)
  unfold read at failed
  split at failed
  · contradiction
  · rename_i c rest visible
    rw [visible]
    split at failed
    · contradiction
    · split at failed
      · cases held : readNamed rest with
        | ok a => simp [held, Except.map] at failed
        | error other =>
          rw [held] at failed
          cases failed
          exact List.subset_cons_of_subset _ (excerpt_of_readNamed held)
      · cases failed
        simp [LineFault.excerpt]

end Assignment

end

/-! Literals and their options -/

namespace Literal

theorem noFeed_text {n : Numeral} {token : List Char} (spells : n.Spells token) :
    '\n' ∉ n.text.toList := by
  have digits : '\n' ∉ n.digits := by
    intro feed
    have grouped : ∃ spelled, Grouped Char.isDigit spelled n.digits := by
      cases spells with
      | plain grouped | plus grouped | minus grouped => exact ⟨_, grouped⟩
    obtain ⟨spelled, groups, -, sound, -, joined⟩ := grouped
    rw [joined, List.mem_flatten] at feed
    obtain ⟨group, member, feed⟩ := feed
    exact absurd ((sound group member).2 '\n' feed) (by decide)
  rw [Numeral.text, String.toList_ofList]
  split <;> simp [digits]

/-- A literal is shown as it is written, with the line feeds of a text escaped. -/
theorem noFeed_describe {literal : Literal} {spelled rest : List Char}
    (spells : literal.Spells spelled rest) : '\n' ∉ literal.describe.toList := by
  cases spells with
  | @text body text quote rest _ =>
    have shown : '\n' ∉ quoted text := by simp [quoted, noFeed_escape]
    simp only [describe, noFeed_append, String.toList_ofList]
    exact ⟨by decide, shown⟩
  | token isToken =>
    cases isToken with
    | trueFlag | falseFlag | nil => decide
    | integer spells =>
      rw [describe, noFeed_append]
      exact ⟨by decide, noFeed_text spells⟩

end Literal

theorem Key.noFeed_name (key : Key) : '\n' ∉ key.name.toList := by cases key <;> decide

theorem Key.noFeed_describe (key : Key) : '\n' ∉ key.kind.describe.toList := by
  have count : '\n' ∉ Kind.count.describe.toList := by decide
  cases key with
  | vmCpus | vmMemory | numInstances | kubeMasterInstances | etcdInstances | numForks => exact count
  | os | networkPlugin | boxCheckUpdate | libvirtVolumeCache | playbook => decide

theorem Assignment.noFeed_of_held? {line : List Char} {a : Assignment}
    (held : held? line = some a) :
    '\n' ∉ a.name.toList ∧ '\n' ∉ a.value.describe.toList := by
  have read : read line = .ok (some a) := by
    unfold held? at held
    split at held
    · contradiction
    · rename_i same
      rw [same, held]
  obtain ⟨-, named⟩ := read_eq_some_iff.mp read
  cases named with
  | intro isName _ _ _ spells _ =>
    exact ⟨by simpa using isName.noFeed, Literal.noFeed_describe spells⟩

/-! Messages -/

/-- A message on one line, which starts with the name of a text and the number of one of its
lines. -/
structure Reports (source text message : String) : Prop where
  oneLine : '\n' ∉ message.toList
  located : ∃ line, 1 ≤ line ∧ line ≤ (lines text.toList).length ∧
    (source ++ ":" ++ toString line ++ ": ").toList <+: message.toList

theorem Text.length_linesOf_le (text : String) :
    (linesOf text).length ≤ (lines text.toList).length := by
  rw [linesOf]
  cases text.toList with
  | nil => exact Nat.le_refl _
  | cons c cs =>
    by_cases mark : c = '\uFEFF'
    · subst mark
      have first : lines ('\uFEFF' :: cs) = ('\uFEFF' :: (lines cs).headD []) :: (lines cs).tail :=
        lines_cons (by decide) fun _ isReturn => absurd isReturn (by decide)
      rw [first, List.length_cons, List.length_tail, dropMark, if_pos rfl]
      omega
    · have kept : dropMark (c :: cs) = c :: cs := if_neg mark
      exact Nat.le_of_eq (by rw [kept])

theorem FirstAt.lt_length {α β : Type} {f : α → Option β} {l : List α} {i : Nat} {b : β}
    (first : FirstAt f l i b) : i < l.length := by
  obtain ⟨a, found, -⟩ := first.getElem?
  exact (List.getElem?_eq_some_iff.mp found).1

theorem Statement.location_of_mem_ofLines {source : String} {ls : List (List Char)} {s : Statement}
    (member : s ∈ ofLines source 1 ls) : ∃ i < ls.length, s.location = ⟨source, i + 1⟩ := by
  simp only [ofLines, List.mem_filterMap, Option.map_eq_some_iff] at member
  obtain ⟨⟨line, number⟩, numbered, a, -, rfl⟩ := member
  obtain ⟨low, high, -⟩ := List.mem_zipIdx numbered
  have index : number - 1 + 1 = number := by omega
  exact ⟨number - 1, by omega, by rw [index]⟩

namespace Reports
variable {source text : String} {i : Nat}

theorem of_index (inside : i < (linesOf text).length) (named : '\n' ∉ source.toList)
    {said rest : String} (opens : ": ".toList <+: said.toList) (spoken : '\n' ∉ said.toList)
    (clean : '\n' ∉ rest.toList) :
    Reports source text ((⟨source, i + 1⟩ : Location).text ++ (said ++ rest)) := by
  have number : '\n' ∉ (toString (i + 1)).toList := by
    rw [Nat.toString_eq_repr, Nat.toList_repr]
    intro feed
    exact absurd (Value.isDigit_of_mem_count feed) (by decide)
  refine ⟨?_, i + 1, by omega, Nat.le_trans inside (length_linesOf_le text), ?_⟩
  · simp only [Location.text, noFeed_append]
    exact ⟨⟨⟨named, by decide⟩, number⟩, spoken, clean⟩
  · have within : ": ".toList <+: (said ++ rest).toList := by
      rw [String.toList_append]
      exact opens.trans (List.prefix_append _ _)
    have start : (source ++ ":" ++ toString (i + 1) ++ ": ").toList =
        (⟨source, i + 1⟩ : Location).text.toList ++ ": ".toList := String.toList_append
    rw [start, String.toList_append]
    exact (List.prefix_append_right_inj _).mpr within

/-- A fault is reported with what it quotes of its line. -/
theorem of_fault {fault : LineFault} (named : '\n' ∉ source.toList)
    (first : FirstAt fault? (linesOf text) i fault) :
    Reports source text (Failure.malformed ⟨source, i + 1⟩ fault).message := by
  obtain ⟨line, found, faulty⟩ := first.getElem?
  have noFeed : '\n' ∉ line := lines_noFeed _ line (List.mem_of_getElem? found)
  have quoted : '\n' ∉ fault.excerpt := fun feed =>
    noFeed (Assignment.excerpt_of_fault? faulty feed)
  have message : (Failure.malformed ⟨source, i + 1⟩ fault).message =
      (⟨source, i + 1⟩ : Location).text ++ (": malformed assignment: " ++ fault.message) :=
    String.append_assoc
  rw [message]
  exact of_index first.lt_length named (by decide) (by decide) (LineFault.noFeed_message quoted)

/-- A refusal is reported with the name, the kind of the option and the literal as it is shown. -/
theorem of_refusal {policy : Policy} {refusal : Refusal} (named : '\n' ∉ source.toList)
    (first : FirstAt (refusalIn? policy) (linesOf text) i refusal) :
    Reports source text (refusal.failureAt ⟨source, i + 1⟩).message := by
  obtain ⟨line, -, refused⟩ := first.getElem?
  obtain ⟨a, held, refused⟩ := Option.bind_eq_some_iff.mp refused
  obtain ⟨name, value⟩ := Assignment.noFeed_of_held? held
  unfold Assignment.refusal? at refused
  split at refused
  · split at refused
    · cases refused
      have message : (Failure.unknownName ⟨source, i + 1⟩ a.name).message =
          (⟨source, i + 1⟩ : Location).text ++ (": unknown option `$" ++ (a.name ++ "`")) := by
        rw [← String.append_assoc, ← String.append_assoc]
        rfl
      rw [Refusal.failureAt, message]
      refine of_index first.lt_length named (by decide) (by decide) ?_
      exact noFeed_append.mpr ⟨name, by decide⟩
    · contradiction
  · split at refused
    · contradiction
    · rename_i key _ _
      cases refused
      have message : (Failure.mismatch ⟨source, i + 1⟩ key a.value).message =
          (⟨source, i + 1⟩ : Location).text ++ (": `$" ++ (key.name ++ "` expects " ++
            key.kind.describe ++ ", got " ++ a.value.describe)) := by
        simp only [← String.append_assoc]
        rfl
      rw [Refusal.failureAt, message]
      refine of_index first.lt_length named (by decide) (by decide) ?_
      simp only [noFeed_append]
      exact ⟨⟨⟨⟨key.noFeed_name, by decide⟩, key.noFeed_describe⟩, by decide⟩, value⟩

/-- A warning about one of the first lines of a text reports on the text. -/
theorem of_mem_ignored {policy : Policy} {n : Notice} {count : Nat} (named : '\n' ∉ source.toList)
    (member : n ∈ ignored policy source ((linesOf text).take count)) :
    Reports source text n.message := by
  obtain ⟨s, inLines, warned⟩ := List.mem_filterMap.mp member
  obtain ⟨line, -, held⟩ := Statement.mem_ofLines inLines
  obtain ⟨i, inside, located⟩ := Statement.location_of_mem_ofLines inLines
  have within : i < (linesOf text).length := by
    rw [List.length_take] at inside
    omega
  unfold Statement.warning? Assignment.warning? at warned
  split at warned
  · cases warned
    have message : (Notice.ignored s.location s.assignment.name).message =
        s.location.text ++ (": ignoring unknown option $" ++ s.assignment.name) :=
      String.append_assoc
    rw [message, located]
    exact of_index within named (by decide) (by decide) (Assignment.noFeed_of_held? held).1
  · contradiction

end Reports

/-- Whatever is said about a text while it is added, the failure as well as the warnings, is said on
one line that names the text and one of its lines first. -/
theorem Bindings.reports_addText {source : String} (named : '\n' ∉ source.toList) (policy : Policy)
    (b : Bindings) (text : String) :
    (∀ failure, (b.addText policy source text).result = .error failure →
        Reports source text failure.message) ∧
      ∀ message ∈ (b.addText policy source text).warnings, Reports source text message := by
  have verdict := verdict_addText policy b source text
  have whole : (linesOf text).take (linesOf text).length = linesOf text := List.take_length
  constructor
  · intro failure failed
    rw [Logged.failure?_eq_some.mpr failed] at verdict
    generalize (b.addText policy source text).alerts = alerts at verdict
    generalize outcome : some failure = failure? at verdict
    cases verdict with
    | malformed first =>
      cases outcome
      exact .of_fault named first
    | refused _ first =>
      cases outcome
      exact .of_refusal named first
    | accepted => contradiction
  · intro message member
    obtain ⟨n, alert, rfl⟩ := List.mem_map.mp member
    change n ∈ (b.addText policy source text).alerts at alert
    generalize (b.addText policy source text).alerts = alerts at verdict alert
    generalize (b.addText policy source text).failure? = failure? at verdict
    cases verdict with
    | malformed => contradiction
    | refused => exact .of_mem_ignored named alert
    | accepted => exact .of_mem_ignored named (whole.symm ▸ alert)

theorem Bindings.reports_addText_escaped :
    let text := "$zone = 1\n$vm_cpus = \"2\\n\"\n"
    let added := empty.addText .warn "ci.rb" text
    let failure := Failure.mismatch ⟨"ci.rb", 2⟩ .vmCpus (.text "2\n")
    '\n' ∉ "ci.rb".toList ∧ added.result = .error failure ∧
      failure.message = "ci.rb:2: `$vm_cpus` expects a positive integer up to 4294967295, " ++
        "got string \"2\\n\"" ∧
      Reports "ci.rb" text failure.message ∧
      Reports "ci.rb" text "ci.rb:1: ignoring unknown option $zone" := by
  intro text added failure
  have named : '\n' ∉ "ci.rb".toList := by decide
  have failed : added.failure? = some failure := by decide +kernel
  have warned : added.warnings = ["ci.rb:1: ignoring unknown option $zone"] := by decide +kernel
  obtain ⟨failures, warnings⟩ := reports_addText named .warn empty text
  have refused := Logged.failure?_eq_some.mp failed
  exact ⟨named, refused, by decide +kernel, failures failure refused,
    warnings _ (warned ▸ List.mem_singleton_self _)⟩

end ClusterVars
