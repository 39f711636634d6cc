import ClusterVars.Proofs.Validity

/-! Records against bindings. A record can hold an option of the schema with a value of its type,
and nothing else; the way through bindings loses nothing of a record, and the way through a record
loses of bindings what no record can hold. -/
namespace ClusterVars

namespace Bindings

/-- Every name that is bound is an option with a value of its type, be it admitted or not. -/
def Typed (b : Bindings) : Prop :=
  ∀ name v, b.value? name = some v → ∃ key : Key, key.name = name ∧ key.kind.holds v = true

end Bindings

namespace Record

/-- The fields under the names of their options, in the order in which they are declared. -/
def fields (r : Record) : List (String × Option Value) :=
  [("os", r.os.map .text),
    ("vm_cpus", r.vmCpus.map .count),
    ("vm_memory", r.vmMemory.map .count),
    ("num_instances", r.numInstances.map .count),
    ("kube_master_instances", r.kubeMasterInstances.map .count),
    ("etcd_instances", r.etcdInstances.map .count),
    ("network_plugin", r.networkPlugin.map .text),
    ("box_check_update", r.boxCheckUpdate.map .flag),
    ("libvirt_volume_cache", r.libvirtVolumeCache.map .text),
    ("num_forks", r.numForks.map .count),
    ("playbook", r.playbook.map .text)]

theorem fields_eq (r : Record) : r.fields = Key.all.map fun key => (key.name, r.value? key) := rfl

/-! Fields as bindings -/

section
variable (r : Record) (keys : List Key) (b : Bindings)

theorem value?_foldl_assign_of_unknown {name : String} (unknown : Key.ofName? name = none) :
    (keys.foldl (fun b key => b.assign key.name (r.value? key)) b).value? name = b.value? name := by
  induction keys generalizing b with
  | nil => rfl
  | cons key keys ih =>
    rw [List.foldl_cons, ih, Bindings.value?_assign, if_neg (Key.name_ne_of_unknown unknown key)]

/-- An option that is assigned its field more than once holds it all the same. -/
theorem value?_foldl_assign (key : Key) :
    (keys.foldl (fun b key => b.assign key.name (r.value? key)) b).value? key.name =
      if key ∈ keys then r.value? key else b.value? key.name := by
  induction keys generalizing b with
  | nil => rfl
  | cons first keys ih =>
    rw [List.foldl_cons, ih, Bindings.value?_assign]
    by_cases same : key = first
    · simp [same]
    · have other : key.name ≠ first.name := fun named => same (Key.name_injective named)
      simp [same, other]

end

theorem toBindings_eq_foldl (r : Record) :
    r.toBindings = r.fields.foldl (fun b field => b.assign field.1 field.2) .empty := by
  rw [fields_eq, List.foldl_map]
  ext1 name
  cases known : Key.ofName? name with
  | none => simp [value?_foldl_assign_of_unknown r _ _ known, toBindings, known]
  | some key =>
    obtain rfl := Key.name_of_ofName? known
    rw [value?_toBindings, value?_foldl_assign, if_pos (Key.mem_all key)]

/-! Set fields -/

theorem keys_eq (r : Record) : r.keys = Key.all.filter fun key => (r.value? key).isSome := by
  rw [keys, entries, List.map_filterMap, ← List.filterMap_eq_filter]
  congr 1
  funext key
  cases bound : r.value? key <;> simp [Option.guard, bound]

theorem names_keys (r : Record) :
    r.keys.map Key.name = (r.fields.filter (·.2.isSome)).map (·.1) := by
  rw [keys_eq, fields_eq, List.filter_map, List.map_map]
  rfl

theorem nodup_names (r : Record) : (r.keys.map Key.name).Nodup := by
  rw [keys_eq]
  exact (List.filter_sublist.map Key.name).nodup (by decide)

/-- A record comes back from the bindings that its fields are assigned to, and its keys are the
names of the fields that are set, in schema order. Of any bindings, of any names and values, a
record keeps the options with a value of their type, and going through a record again changes
nothing; so all is kept exactly if there is nothing else. -/
theorem conversions :
    (∀ r : Record,
      r.toBindings = r.fields.foldl (fun b field => b.assign field.1 field.2) .empty ∧
        ofBindings r.toBindings = r ∧
        r.keys.map Key.name = (r.fields.filter (·.2.isSome)).map (·.1) ∧
        r.fields.map (·.1) = Key.all.map Key.name ∧ (r.keys.map Key.name).Nodup) ∧
      ∀ b : Bindings,
        let kept := (ofBindings b).toBindings
        (∀ name v, kept.value? name = some v ↔
          b.value? name = some v ∧ ∃ key : Key, key.name = name ∧ key.kind.holds v = true) ∧
        (ofBindings kept).toBindings = kept ∧ (kept = b ↔ b.Typed) := by
  constructor
  · intro r
    exact ⟨r.toBindings_eq_foldl, ofBindings_toBindings r, r.names_keys, rfl, r.nodup_names⟩
  · intro b kept
    refine ⟨fun name v => value?_toBindings_ofBindings, ?_, ?_, ?_⟩
    · rw [ofBindings_toBindings]
    · intro same name v bound
      rw [← same] at bound
      exact (value?_toBindings_ofBindings.mp bound).2
    · intro typed
      ext1 name
      ext1 v
      exact value?_toBindings_ofBindings.trans (and_iff_left_iff_imp.mpr (typed name v))

/-- A name outside the schema is lost, and so is a value of another type. -/
example : ofBindings (((Bindings.empty.assign "cpus" (some (.count 2))).assign "os"
    (some (.flag true))).fill "vm_cpus" (some (.count 0))) = { vmCpus := some 0 } := by decide

end Record
end ClusterVars
