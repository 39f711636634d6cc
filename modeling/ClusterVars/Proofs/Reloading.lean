import ClusterVars.Proofs.Filling

/-! Reloading. A record whose values its options admit, written under any header, loads back as
itself and without a warning, on top of other bindings too; and no change of the bindings leads to
any other record. -/
namespace ClusterVars
open Text

namespace Record
variable {r : Record}

/-- The bindings with those of the record on top of them. -/
def onto (r : Record) (b : Bindings) : Bindings :=
  ⟨fun name => (r.toBindings.value? name).or (b.value? name)⟩

theorem value?_onto (r : Record) (b : Bindings) (key : Key) :
    (r.onto b).value? key.name = (r.value? key).or (b.value? key.name) := by
  rw [← value?_toBindings]
  rfl

theorem onto_empty (r : Record) : r.onto .empty = r.toBindings := by
  ext1 name
  simp [onto]

theorem valid_onto {b : Bindings} (upper : r.toBindings.Valid) (lower : b.Valid) :
    (r.onto b).Valid := by
  intro name v bound
  rcases Option.or_eq_some_iff.mp bound with above | ⟨-, below⟩
  · exact upper name v above
  · exact lower name v below

theorem value?_ofBindings_onto (r : Record) (b : Bindings) (key : Key) :
    (ofBindings (r.onto b)).value? key = (r.value? key).or ((ofBindings b).value? key) := by
  rw [value?_ofBindings, value?_ofBindings, value?_onto]
  cases bound : r.value? key with
  | none => rfl
  | some v => simp [Option.filter_some, holds_of_value? bound]

/-- Assigning the entries of a record puts it on top. -/
theorem foldl_act_entries (fits : ∀ entry ∈ r.entries,
      entry.1.kind.value? entry.2.literal = some entry.2) (b : Bindings) :
    (r.entries.map (assigning .assign)).foldl Assignment.act b = r.onto b := by
  ext1 name
  cases known : Key.ofName? name with
  | none =>
    rw [Assignment.value?_foldl_act_of_unknown known]
    simp [onto, toBindings, known]
  | some key =>
    obtain rfl := Key.name_of_ofName? known
    rw [Assignment.value?_foldl_act, filter_assigning, filter_entries, value?_onto]
    cases bound : r.value? key with
    | none => rfl
    | some v =>
      have coerced := fits (key, v) (mem_entries.mpr bound)
      have step := Key.step_of_value (a := assigning .assign (key, v)) v.literal_ne_nil coerced
        (b.value? key.name)
      simpa [assigning] using step

theorem fits_entries (valid : r.toBindings.Valid) : ∀ entry ∈ r.entries,
    entry.1.kind.value? entry.2.literal = some entry.2 := by
  rintro ⟨key, v⟩ member
  have bound : r.toBindings.value? key.name = some v := by
    rw [value?_toBindings]
    exact mem_entries.mp member
  obtain ⟨other, same, admitted⟩ := valid key.name v bound
  obtain rfl := Key.name_injective same
  exact Kind.value?_literal admitted

theorem addText_renderUnder (valid : r.toBindings.Valid) (policy : Policy) (b : Bindings)
    (source header : String) :
    (b.addText policy source (r.renderUnder header)).result = .ok (r.onto b) ∧
      (b.addText policy source (r.renderUnder header)).alerts = [] := by
  have fits := fits_entries valid
  have fitting : ∀ entry ∈ r.entries, entry.1.kind.value? entry.2.literal ≠ none := by
    intro entry member
    simp [fits entry member]
  obtain ⟨result, alerts⟩ := Bindings.addText_writtenText policy b source .assign
    (lines_noFeed header.toList) fitting
  rw [renderUnder_eq]
  exact ⟨by rw [result, foldl_act_entries fits], alerts⟩

theorem ofText_renderUnder (valid : r.toBindings.Valid) (policy : Policy)
    (source header : String) :
    (ofText policy source (r.renderUnder header)).result = .ok r ∧
      (ofText policy source (r.renderUnder header)).warnings = [] := by
  obtain ⟨result, alerts⟩ := addText_renderUnder valid policy .empty source header
  constructor
  · rw [ofText, Logged.result_bind_pure, result, onto_empty]
    exact congrArg Except.ok (ofBindings_toBindings r)
  · apply Logged.warnings_eq_nil
    rw [ofText, Logged.alerts_bind_pure, alerts]

end Record

/-- What bindings can go through, with all that it takes from outside. -/
inductive Change
  | load (policy : Policy) (source text : String)
  | fill (defaults : Defaults)
  | throughRecord
  /-- The rendered record loaded in place of the bindings. -/
  | reload (policy : Policy) (source header : String)

namespace Change
variable {b : Bindings}

def apply (b : Bindings) : Change → Logged Bindings
  | load policy source text => b.addText policy source text
  | fill defaults => do
    let filled ← defaults.fill (Record.ofBindings b)
    return filled.toBindings
  | throughRecord => return (Record.ofBindings b).toBindings
  | reload policy source header =>
    Bindings.empty.addText policy source ((Record.ofBindings b).renderUnder header)

/-- The bindings after the change, which a failed one leaves as they were. -/
def after (b : Bindings) (change : Change) : Bindings :=
  match (change.apply b).result with
  | .ok changed => changed
  | .error _ => b

theorem valid_apply (valid : b.Valid) {change : Change} {changed : Bindings}
    (done : (change.apply b).result = .ok changed) : changed.Valid := by
  cases change with
  | load policy source text => exact Bindings.valid_addText valid done
  | fill defaults =>
    obtain ⟨filled, fills, rest⟩ := Logged.bind_eq_ok done
    cases rest
    exact Defaults.valid_fill (Record.valid_toBindings_ofBindings valid) fills
  | throughRecord =>
    cases done
    exact Record.valid_toBindings_ofBindings valid
  | reload policy source header => exact Bindings.valid_addText Bindings.valid_empty done

theorem valid_after (valid : b.Valid) (change : Change) : (after b change).Valid := by
  unfold after
  split
  · rename_i changed done
    exact valid_apply valid done
  · exact valid

theorem valid_foldl_after (valid : b.Valid) (changes : List Change) :
    (changes.foldl after b).Valid := by
  induction changes generalizing b with
  | nil => exact valid
  | cons change changes ih => exact ih (valid_after valid change)

end Change

/-- Whatever the bindings went through from nothing, every name that they bind is an option with a
value of its kind, a record holds all of it, and the record survives being written under any header
and loaded under any policy. -/
theorem Bindings.reload_after (changes : List Change) :
    let b := changes.foldl Change.after .empty
    b.Valid ∧ (Record.ofBindings b).toBindings = b ∧
      ∀ policy source header,
        let loaded := Record.ofText policy source ((Record.ofBindings b).renderUnder header)
        loaded.result = .ok (Record.ofBindings b) ∧ loaded.warnings = [] := by
  intro b
  have valid : b.Valid := Change.valid_foldl_after valid_empty changes
  refine ⟨valid, Record.toBindings_ofBindings valid, fun policy source header => ?_⟩
  exact Record.ofText_renderUnder (Record.valid_toBindings_ofBindings valid) policy source header

end ClusterVars
