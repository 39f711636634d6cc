import ClusterVars.Proofs.Validity

/-! Filling. The given defaults are a text like any other, which loads only when every one of them
fits its option; after it the number of instances is set, and the derived counts follow from it. -/
namespace ClusterVars
open Text

theorem Kind.eq_of_value?_literal {kind : Kind} {v w : Value}
    (coerced : kind.value? v.literal = some w) : w = v := by
  cases kind <;> cases v <;> simp_all [value?, Value.literal, Numeral.count?_ofNat]

namespace Defaults
variable {d : Defaults} {b after : Bindings}

/-- The value that is given for an option; the derived counts have none. -/
def given? (d : Defaults) (key : Key) : Option Value := d.entries.lookup key

theorem filter_entries (d : Defaults) (key : Key) :
    d.entries.filter (·.1 = key) = ((d.given? key).map fun v => (key, v)).toList := by
  cases key <;> rfl

theorem mem_entries {key : Key} {v : Value} (given : d.given? key = some v) :
    (key, v) ∈ d.entries := by
  have chosen : (key, v) ∈ d.entries.filter (·.1 = key) := by simp [filter_entries, given]
  exact (List.mem_filter.mp chosen).1

theorem held?_render (d : Defaults) :
    (linesOf d.render).filterMap Assignment.held? = d.entries.map (assigning .fill) := by
  rw [render_eq]
  exact held?_writtenText .fill d.entries (by simp)

theorem addText_render (added : (b.addText .reject source d.render).result = .ok after) :
    (∀ entry ∈ d.entries, entry.1.kind.value? entry.2.literal = some entry.2) ∧
      after = (d.entries.map (assigning .fill)).foldl Assignment.act b := by
  obtain ⟨-, unrefused, changed⟩ := Bindings.addText_eq_ok added
  refine ⟨fun entry member => ?_, by rw [changed, held?_render]⟩
  have inHeld : assigning .fill entry ∈ (linesOf d.render).filterMap Assignment.held? := by
    rw [held?_render]
    exact List.mem_map_of_mem member
  obtain ⟨line, inLines, holds⟩ := List.mem_filterMap.mp inHeld
  have accepted : (assigning .fill entry).refusal? .reject = none := by
    simpa [refusalIn?, holds] using unrefused line inLines
  have known : Key.ofName? (assigning .fill entry).name = some entry.1 := Key.ofName?_name entry.1
  obtain ⟨v, coerced⟩ : ∃ v, entry.1.kind.value? entry.2.literal = some v :=
    (Assignment.fits_of_unrefused known accepted).resolve_left entry.2.literal_ne_nil
  rw [coerced, Kind.eq_of_value?_literal coerced]

/-- Loading the given defaults sets what is unset and changes nothing else. -/
theorem value?_addText_render (added : (b.addText .reject source d.render).result = .ok after)
    (key : Key) : after.value? key.name = (b.value? key.name).or (d.given? key) := by
  obtain ⟨fits, rfl⟩ := addText_render added
  rw [Assignment.value?_foldl_act, filter_assigning, filter_entries]
  cases given : d.given? key with
  | none => simp
  | some v =>
    have step := Key.step_of_value (a := assigning .fill (key, v)) v.literal_ne_nil
      (fits _ (mem_entries given)) (b.value? key.name)
    simpa [assigning] using step

theorem result_derive (key : Key) (count : Nat) (b : Bindings) :
    (derive key count b).result = .ok (b.fill key.name (some (.count count))) := by
  by_cases bound : b.isSet key.name
  · simp [derive, Bindings.fill, bound]
  · simp [derive, Bindings.fill, bound]
    rfl

/-- The counts that follow from the number of instances. -/
def deriveAll (instances : Nat) (b : Bindings) : Bindings :=
  ((b.fill Key.etcdInstances.name (some (.count (min instances maxEtcd)))).fill
    Key.kubeMasterInstances.name (some (.count (min instances maxControl)))).fill
    Key.numForks.name (some (.count instances))

theorem result_fill {r : Record} (added : (r.toBindings.addText .reject source d.render).result =
    .ok b) : (d.fill r).result = .ok (Record.ofBindings (deriveAll
      (((b.value? Key.numInstances.name).bind Value.count?).getD d.numInstances) b)) := by
  rw [fill, Logged.result_bind_of_ok added, Logged.result_bind_of_ok (result_derive ..),
    Logged.result_bind_of_ok (result_derive ..), Logged.result_bind_of_ok (result_derive ..)]
  rfl

theorem fill_eq_ok {r filled : Record} (done : (d.fill r).result = .ok filled) :
    ∃ b, (r.toBindings.addText .reject source d.render).result = .ok b ∧
      filled = Record.ofBindings (deriveAll
        (((b.value? Key.numInstances.name).bind Value.count?).getD d.numInstances) b) := by
  obtain ⟨b, added, -⟩ := Logged.bind_eq_ok done
  rw [result_fill added] at done
  exact ⟨b, added, (Except.ok.inj done).symm⟩

theorem valid_deriveAll {instances : Nat} (positive : 1 ≤ instances) (small : instances ≤ maxCount)
    (valid : b.Valid) : (deriveAll instances b).Valid := by
  have admitted {n : Nat} (positive : 1 ≤ n) (bound : n ≤ instances) :
      ∀ v, some (Value.count n) = some v → Kind.count.Admits v := by
    rintro v same
    cases same
    exact ⟨positive, Nat.le_trans bound small⟩
  have etcd : 1 ≤ min instances maxEtcd := by simp [maxEtcd]; omega
  have control : 1 ≤ min instances maxControl := by simp [maxControl]; omega
  refine Bindings.valid_fill (Bindings.valid_fill (Bindings.valid_fill valid ?_) ?_) ?_
  · exact admitted etcd (Nat.min_le_left _ _)
  · exact admitted control (Nat.min_le_left _ _)
  · exact admitted positive (Nat.le_refl _)

theorem valid_fill {r filled : Record} (valid : r.toBindings.Valid)
    (done : (d.fill r).result = .ok filled) : filled.toBindings.Valid := by
  obtain ⟨b, added, rfl⟩ := fill_eq_ok done
  have loaded : b.Valid := Bindings.valid_addText valid added
  have given := value?_addText_render added .numInstances
  -- the number of instances is set by now, so that the derived counts start from an admitted one
  obtain ⟨v, bound⟩ : ∃ v, b.value? Key.numInstances.name = some v := by
    rw [given]
    cases r.toBindings.value? Key.numInstances.name with
    | none => exact ⟨.count d.numInstances, rfl⟩
    | some v => exact ⟨v, rfl⟩
  obtain ⟨key, same, admitted⟩ := loaded _ _ bound
  obtain rfl := Key.name_injective same
  cases v with
  | text | flag => exact admitted.elim
  | count instances =>
    obtain ⟨positive, small⟩ := admitted
    rw [bound]
    exact Record.valid_toBindings_ofBindings (valid_deriveAll positive small loaded)

end Defaults
end ClusterVars
