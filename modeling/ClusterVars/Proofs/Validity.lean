import ClusterVars.Proofs.Rendering

/-! Validity. Bindings that loading, filling defaults, going through a record and reloading lead to
hold options of the schema only, each with a value that its kind admits. Such bindings are a record
in another form, and rendering the record loses nothing. -/
namespace ClusterVars
open Text

/-! Values that a kind admits -/

def Kind.Admits : Kind → Value → Prop
  | .identifier, .text s | .path, .text s => s ≠ ""
  | .count, .count n => 1 ≤ n ∧ n ≤ maxCount
  | .flag, .flag _ => True
  | .choice names, .text s => s ∈ names
  | _, _ => False

/-- The value has the type of the kind. -/
def Kind.holds : Kind → Value → Bool
  | .identifier, .text _ | .path, .text _ | .choice _, .text _ => true
  | .count, .count _ => true
  | .flag, .flag _ => true
  | _, _ => false

namespace Kind
variable {kind : Kind} {v : Value}

instance decidableAdmits : (kind : Kind) → (v : Value) → Decidable (kind.Admits v)
  | .identifier, .text s | .path, .text s => inferInstanceAs (Decidable (s ≠ ""))
  | .count, .count n => inferInstanceAs (Decidable (1 ≤ n ∧ n ≤ maxCount))
  | .flag, .flag _ => .isTrue trivial
  | .choice names, .text s => inferInstanceAs (Decidable (s ∈ names))
  | .identifier, .count _ | .identifier, .flag _ | .path, .count _ | .path, .flag _
  | .count, .text _ | .count, .flag _ | .flag, .text _ | .flag, .count _
  | .choice _, .count _ | .choice _, .flag _ => .isFalse id

theorem admits_of_value? {literal : Literal} (coerced : kind.value? literal = some v) :
    kind.Admits v := by
  cases kind with
  | identifier | path =>
    cases literal <;> simp [value?] at coerced
    obtain ⟨nonempty, rfl⟩ := coerced
    exact nonempty
  | count =>
    cases literal <;> simp [value?, Numeral.count?_eq] at coerced
    obtain ⟨⟨-, positive, small⟩, rfl⟩ := coerced
    exact ⟨positive, small⟩
  | flag =>
    cases literal <;> simp [value?] at coerced
    subst coerced
    trivial
  | choice names =>
    cases literal <;> simp [value?] at coerced
    obtain ⟨member, rfl⟩ := coerced
    exact member

theorem value?_literal (admitted : kind.Admits v) : kind.value? v.literal = some v := by
  cases kind with
  | identifier | path =>
    cases v <;> simp [Admits] at admitted
    simp [value?, Value.literal, admitted]
  | count =>
    cases v <;> simp [Admits] at admitted
    simp [value?, Value.literal, Numeral.count?_ofNat, Nat.lt_of_succ_le admitted.1, admitted.2]
  | flag =>
    cases v <;> simp [Admits] at admitted
    rfl
  | choice names =>
    cases v <;> simp [Admits] at admitted
    simp [value?, Value.literal, admitted]

theorem holds_of_admits (admitted : kind.Admits v) : kind.holds v = true := by
  cases kind <;> cases v <;> first | rfl | exact admitted.elim

end Kind

/-! Bindings that a record can hold -/

/-- Every name that is bound is an option with a value that its kind admits. -/
def Bindings.Valid (b : Bindings) : Prop :=
  ∀ name v, b.value? name = some v → ∃ key : Key, key.name = name ∧ key.kind.Admits v

namespace Record

theorem value?_ofBindings (b : Bindings) (key : Key) :
    (ofBindings b).value? key = (b.value? key.name).filter key.kind.holds := by
  cases key <;> simp only [ofBindings, value?] <;>
    cases b.value? _ with
    | none => rfl
    | some v => cases v <;> rfl

theorem holds_of_value? {r : Record} {key : Key} {v : Value} (bound : r.value? key = some v) :
    key.kind.holds v = true := by
  cases key <;> simp only [value?, Option.map_eq_some_iff] at bound <;>
    obtain ⟨_, -, rfl⟩ := bound <;> rfl

theorem ofBindings_toBindings (r : Record) : ofBindings r.toBindings = r := by
  have text (o : Option String) : (o.map Value.text).bind Value.text? = o := by cases o <;> rfl
  have count (o : Option Nat) : (o.map Value.count).bind Value.count? = o := by cases o <;> rfl
  have flag (o : Option Bool) : (o.map Value.flag).bind Value.flag? = o := by cases o <;> rfl
  simp only [ofBindings, value?_toBindings, value?, text, count, flag]

theorem toBindings_injective {r s : Record} (same : r.toBindings = s.toBindings) : r = s := by
  rw [← ofBindings_toBindings r, same, ofBindings_toBindings]

theorem ext_value? {r s : Record} (same : ∀ key, r.value? key = s.value? key) : r = s := by
  apply toBindings_injective
  ext1 name
  simp only [toBindings, funext same]

/-- What is left of bindings that go through a record. -/
theorem value?_toBindings_ofBindings {b : Bindings} {name : String} {v : Value} :
    (ofBindings b).toBindings.value? name = some v ↔
      b.value? name = some v ∧ ∃ key : Key, key.name = name ∧ key.kind.holds v = true := by
  cases known : Key.ofName? name with
  | none =>
    simp [toBindings, known, (Key.name_ne_of_unknown known _).symm]
  | some key =>
    obtain rfl := Key.name_of_ofName? known
    rw [value?_toBindings, value?_ofBindings, Option.filter_eq_some_iff]
    refine and_congr_right fun _ => ⟨fun holds => ⟨key, rfl, holds⟩, ?_⟩
    rintro ⟨other, same, holds⟩
    obtain rfl := Key.name_injective same
    exact holds

theorem toBindings_ofBindings {b : Bindings} (valid : b.Valid) :
    (ofBindings b).toBindings = b := by
  ext1 name
  ext1 v
  rw [value?_toBindings_ofBindings, and_iff_left_iff_imp]
  intro bound
  obtain ⟨key, named, admitted⟩ := valid name v bound
  exact ⟨key, named, Kind.holds_of_admits admitted⟩

theorem mem_entries {r : Record} {entry : Key × Value} :
    entry ∈ r.entries ↔ r.value? entry.1 = some entry.2 := by
  obtain ⟨key, v⟩ := entry
  simp only [entries, List.mem_filterMap, Option.map_eq_some_iff, Prod.mk.injEq]
  constructor
  · rintro ⟨other, -, value, bound, rfl, rfl⟩
    exact bound
  · intro bound
    exact ⟨key, Key.mem_all key, v, bound, rfl, rfl⟩

theorem filter_entries (r : Record) (key : Key) :
    r.entries.filter (·.1 = key) = ((r.value? key).map fun v => (key, v)).toList := by
  have one : Key.all.filter (· = key) = [key] := by cases key <;> rfl
  have chosen : r.entries.filter (·.1 = key) =
      (Key.all.filter (· = key)).filterMap fun key => (r.value? key).map (key, ·) := by
    rw [entries, List.filter_filterMap, List.filterMap_filter]
    congr 1
    funext other
    by_cases same : other = key <;> cases r.value? other <;> simp [same]
  rw [chosen, one]
  cases bound : r.value? key <;> simp [bound]

end Record

theorem filter_assigning (operator : Operator) (entries : List (Key × Value)) (key : Key) :
    (entries.map (assigning operator)).filter (·.name = key.name) =
      (entries.filter (·.1 = key)).map (assigning operator) := by
  rw [List.filter_map]
  congr 2
  funext entry
  exact decide_eq_decide.mpr ⟨Key.name_injective, congrArg Key.name⟩

/-! Every change of the bindings keeps them valid -/

namespace Bindings
variable {b after : Bindings} {policy : Policy} {source text : String}

theorem valid_empty : empty.Valid := by simp [Valid]

theorem valid_assign (valid : b.Valid) {key : Key} {value : Option Value}
    (admitted : ∀ v, value = some v → key.kind.Admits v) : (b.assign key.name value).Valid := by
  intro name v bound
  rw [value?_assign] at bound
  split at bound
  · exact ⟨key, by simp_all, admitted v bound⟩
  · exact valid name v bound

theorem valid_fill (valid : b.Valid) {key : Key} {value : Option Value}
    (admitted : ∀ v, value = some v → key.kind.Admits v) : (b.fill key.name value).Valid := by
  unfold fill
  split
  · exact valid
  · exact valid_assign valid admitted

theorem valid_act (valid : b.Valid) (a : Assignment) : (a.act b).Valid := by
  unfold Assignment.act
  split
  · exact valid
  · rename_i key _
    have admitted {value : Option Value} (meaning : key.meaning? a.value = some value) :
        ∀ v, value = some v → key.kind.Admits v := by
      rintro v rfl
      by_cases clears : a.value = .nil
      · simp [Key.meaning?, clears] at meaning
      · simp only [Key.meaning?, clears, if_false, Option.map_eq_some_iff, Option.some.injEq,
          exists_eq_right] at meaning
        exact Kind.admits_of_value? meaning
    split
    · exact valid
    · rename_i meaning _
      exact valid_assign valid (admitted meaning)
    · rename_i meaning _
      exact valid_fill valid (admitted meaning)

theorem valid_foldl_act (valid : b.Valid) (as : List Assignment) :
    (as.foldl Assignment.act b).Valid := by
  induction as generalizing b with
  | nil => exact valid
  | cons a as ih => exact ih (valid_act valid a)

theorem valid_addText (valid : b.Valid)
    (added : (b.addText policy source text).result = .ok after) : after.Valid := by
  obtain ⟨-, -, rfl⟩ := addText_eq_ok added
  exact valid_foldl_act valid _

theorem valid_addLayers {layers : List Layer} (valid : b.Valid)
    (added : (b.addLayers policy layers).result = .ok after) : after.Valid := by
  obtain ⟨-, -, rfl⟩ := addLayers_eq_ok added
  exact valid_foldl_act valid _

end Bindings

theorem Record.valid_toBindings_ofBindings {b : Bindings} (valid : b.Valid) :
    (ofBindings b).toBindings.Valid := by
  rw [toBindings_ofBindings valid]
  exact valid

end ClusterVars
