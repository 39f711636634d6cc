import ClusterVars.Proofs.Reloading

/-! Values that their options do not admit. A text with such values is read like any other, since
every value has a written form; adding it is refused at the first of them, on its own line. Records
are no exception: a record of any values can be told from its text, and loads back unless one of
its values is not admitted. -/
namespace ClusterVars
open Text
open Assignment (held? written)

/-- The entry itself, unless its option admits its value. -/
def misfit? (entry : Key × Value) : Option (Key × Value) :=
  if entry.1.kind.Admits entry.2 then none else some entry

theorem misfit?_eq_none_iff {entry : Key × Value} :
    misfit? entry = none ↔ entry.1.kind.Admits entry.2 := by
  simp [misfit?]

theorem Kind.value?_literal_eq_none_iff {kind : Kind} {v : Value} :
    kind.value? v.literal = none ↔ ¬ kind.Admits v := by
  constructor
  · intro misfit admitted
    simp [value?_literal admitted] at misfit
  · intro refused
    cases coerced : kind.value? v.literal with
    | none => rfl
    | some w =>
      obtain rfl := eq_of_value?_literal coerced
      exact absurd (admits_of_value? coerced) refused

/-- The refusal of an entry that does not fit. -/
def refusalOf (entry : Key × Value) : Refusal := .mismatch entry.1 entry.2.literal

theorem refusalIn?_written (policy : Policy) (operator : Operator) (entry : Key × Value) :
    refusalIn? policy (dropReturn (written entry.1.name.toList operator entry.2)) =
      (misfit? entry).map refusalOf := by
  rw [refusalIn?, Assignment.held?_dropReturn_written, Option.bind_some, Assignment.refusal?,
    assigning, Key.ofName?_name]
  by_cases admitted : entry.1.kind.Admits entry.2
  · simp [misfit?, admitted, Kind.value?_literal admitted]
  · simp [misfit?, admitted, refusalOf, Kind.value?_literal_eq_none_iff.mpr admitted,
      entry.2.literal_ne_nil]

theorem misfit?_or_admits (entries : List (Key × Value)) :
    (∃ i entry, FirstAt misfit? entries i entry) ∨
      ∀ entry ∈ entries, entry.1.kind.Admits entry.2 := by
  simpa only [misfit?_eq_none_iff] using FirstAt.exists_or_none misfit? entries

theorem held?_dropReturn_commented (line : List Char) :
    held? (dropReturn (commented line)) = none := by
  rw [Assignment.held?_dropReturn, held?, Assignment.read_commented]

section
variable {comments : List (List Char)} (operator : Operator) {entries : List (Key × Value)}

/-- The statements of a written text are its entries, on the lines behind the comments. -/
theorem readText_writtenText (clean : ∀ line ∈ comments, '\n' ∉ line) (source : String) :
    Statement.readText source (writtenText comments operator entries) =
      .ok ((entries.zipIdx (comments.length + 1)).map fun (entry, line) =>
        ⟨⟨source, line⟩, assigning operator entry⟩) := by
  have wellFormed := wellFormed_writtenText operator entries clean
  rw [Statement.readText, ← linesOf, Statement.readLines_of_wellFormed wellFormed,
    linesOf_writtenText operator entries clean, writtenLines, List.map_append,
    Statement.ofLines_append]
  simp only [Statement.ofLines, List.map_map, List.zipIdx_map, List.filterMap_map,
    Function.comp_def, Prod.map, held?_dropReturn_commented, Assignment.held?_dropReturn_written]
  simp [Nat.add_comm]

/-- An entry that does not fit makes the whole text fail, on its own line. -/
theorem Bindings.addText_writtenText_of_misfit (clean : ∀ line ∈ comments, '\n' ∉ line)
    {i : Nat} {entry : Key × Value} (first : FirstAt misfit? entries i entry)
    (policy : Policy) (b : Bindings) (source : String) :
    (b.addText policy source (writtenText comments operator entries)).result =
      .error (.mismatch ⟨source, comments.length + i + 1⟩ entry.1 entry.2.literal) := by
  have wellFormed := wellFormed_writtenText operator entries clean
  have refused : FirstAt (refusalIn? policy) (linesOf (writtenText comments operator entries))
      (comments.length + i) (refusalOf entry) := by
    have silent : ∀ line ∈ (comments.map commented).map dropReturn,
        refusalIn? policy line = none := by
      intro line member
      simp only [List.map_map, List.mem_map, Function.comp_apply] at member
      obtain ⟨comment, -, rfl⟩ := member
      rw [refusalIn?, held?_dropReturn_commented]
      rfl
    have found := (first.map (refusalIn?_written policy operator)).append silent
    rw [linesOf_writtenText operator entries clean, writtenLines, List.map_append, List.map_map]
    simpa [Function.comp_def] using found
  exact (addText_of_refused b source wellFormed refused).1

end

theorem Value.literal_injective {v w : Value} (same : v.literal = w.literal) : v = w := by
  cases v <;> cases w <;> simp only [literal, Literal.text.injEq, Literal.flag.injEq,
    Literal.integer.injEq, reduceCtorEq] at same
  case text.text => rw [same]
  case count.count n m =>
    have digits : Nat.toDigits 10 n = Nat.toDigits 10 m := congrArg Numeral.digits same
    have number : n = m := calc
      n = Nat.ofDigitChars 10 (Nat.toDigits 10 n) 0 := Nat.ofDigitChars_ten_toDigits.symm
      _ = Nat.ofDigitChars 10 (Nat.toDigits 10 m) 0 := by rw [digits]
      _ = m := Nat.ofDigitChars_ten_toDigits
    rw [number]
  case flag.flag => rw [same]

theorem assigning_injective (operator : Operator) : Function.Injective (assigning operator) := by
  rintro ⟨key, v⟩ ⟨other, w⟩ same
  have named := Key.name_injective (congrArg Assignment.name same)
  have valued := Value.literal_injective (congrArg Assignment.value same)
  exact Prod.ext named valued

namespace Record
variable {r s : Record}

theorem valid_iff_admits :
    r.toBindings.Valid ↔ ∀ entry ∈ r.entries, entry.1.kind.Admits entry.2 := by
  constructor
  · intro valid entry member
    exact Kind.admits_of_value? (fits_entries valid entry member)
  · intro admitted name v bound
    obtain ⟨key, known, set⟩ := Option.bind_eq_some_iff.mp bound
    exact ⟨key, Key.name_of_ofName? known, admitted (key, v) (mem_entries.mpr set)⟩

theorem eq_of_entries (same : r.entries = s.entries) : r = s := by
  have set (record : Record) (key : Key) (v : Value) :
      record.value? key = some v ↔ (key, v) ∈ record.entries := by rw [mem_entries]
  apply ext_value?
  intro key
  ext v
  rw [set, set, same]

theorem renderUnder_empty (r : Record) : r.renderUnder "" = r.render := by
  simp [renderUnder, render, lines_nil]

/-- A record can be told from its text, whatever the headers. -/
theorem eq_of_renderUnder {header other : String}
    (same : r.renderUnder header = s.renderUnder other) : r = s := by
  have held (header : String) (r : Record) :
      (linesOf (r.renderUnder header)).filterMap held? = r.entries.map (assigning .assign) := by
    rw [renderUnder_eq]
    exact held?_writtenText .assign r.entries (lines_noFeed header.toList)
  have assignments := held header r
  rw [same, held other s] at assignments
  exact eq_of_entries ((assigning_injective .assign).list_map assignments.symm)

theorem ofText_of_misfit {i : Nat} {entry : Key × Value}
    (first : FirstAt misfit? r.entries i entry) (policy : Policy) (source header : String) :
    (ofText policy source (r.renderUnder header)).result =
      .error (.mismatch ⟨source, (lines header.toList).length + i + 1⟩ entry.1
        entry.2.literal) := by
  have refused := Bindings.addText_writtenText_of_misfit .assign (lines_noFeed header.toList) first
    policy .empty source
  rw [renderUnder_eq, ofText]
  exact Logged.result_bind_of_error refused _

theorem ofText_renderUnder_cases (r : Record) (policy : Policy) (source header : String) :
    ((∀ entry ∈ r.entries, entry.1.kind.Admits entry.2) ∧
        (ofText policy source (r.renderUnder header)).result = .ok r) ∨
      ∃ i entry, FirstAt misfit? r.entries i entry ∧
        (ofText policy source (r.renderUnder header)).result =
          .error (.mismatch ⟨source, (lines header.toList).length + i + 1⟩ entry.1
            entry.2.literal) := by
  rcases misfit?_or_admits r.entries with ⟨i, entry, first⟩ | admitted
  · exact .inr ⟨i, entry, first, ofText_of_misfit first policy source header⟩
  · have valid := valid_iff_admits.mpr admitted
    exact .inl ⟨admitted, (ofText_renderUnder valid policy source header).1⟩

/-- Any record, written under any header: its text holds one `=` for each set option, behind the
lines of the header and in schema order. It loads back as itself when every value is admitted, and
otherwise fails at the first that is not. No other record has the same text. -/
theorem outcome_renderUnder (r : Record) (policy : Policy) (source header : String) :
    let text := r.renderUnder header
    let above := (lines header.toList).length
    Statement.readText source text =
        .ok ((r.entries.zipIdx (above + 1)).map fun ((key, v), line) =>
          ⟨⟨source, line⟩, ⟨key.name, .assign, v.literal⟩⟩) ∧
      (∀ loaded, (ofText policy source text).result = .ok loaded ↔
        loaded = r ∧ ∀ entry ∈ r.entries, entry.1.kind.Admits entry.2) ∧
      (∀ failure, (ofText policy source text).result = .error failure ↔
        ∃ i entry, FirstAt misfit? r.entries i entry ∧
          failure = .mismatch ⟨source, above + i + 1⟩ entry.1 entry.2.literal) ∧
      ∀ other : Record, other.render = r.render → other = r := by
  intro text above
  refine ⟨?_, ?_, ?_, ?_⟩
  · rw [show text = _ from renderUnder_eq header r]
    exact readText_writtenText .assign (lines_noFeed header.toList) source
  · intro loaded
    constructor
    · intro done
      rcases ofText_renderUnder_cases r policy source header with
        ⟨admitted, whole⟩ | ⟨i, entry, -, failed⟩
      · exact ⟨Except.ok.inj (done.symm.trans whole), admitted⟩
      · exact absurd (done.symm.trans failed) (by simp)
    · rintro ⟨rfl, admitted⟩
      exact (ofText_renderUnder (valid_iff_admits.mpr admitted) policy source header).1
  · intro failure
    constructor
    · intro failed
      rcases ofText_renderUnder_cases r policy source header with
        ⟨-, whole⟩ | ⟨i, entry, first, refused⟩
      · exact absurd (failed.symm.trans whole) (by simp)
      · exact ⟨i, entry, first, Except.error.inj (failed.symm.trans refused)⟩
    · rintro ⟨i, entry, first, rfl⟩
      exact ofText_of_misfit first policy source header
  · intro other same
    rw [← renderUnder_empty, ← renderUnder_empty] at same
    exact eq_of_renderUnder same

/-- Two values are not admitted; the one that the schema lists first is reported. -/
example :
    let r : Record := { vmCpus := some 0, playbook := some "site.yml", os := some "" }
    (ofText .warn "ci.rb" (r.renderUnder "made\nby hand")).result =
      .error (.mismatch ⟨"ci.rb", 3⟩ .os (.text "")) := by cbv

end Record
end ClusterVars
