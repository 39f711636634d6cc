import ClusterVars.Document.Write
import ClusterVars.Proofs.Refilling

/-! Documents of admitted values. The counts that an option admits are far below what a format can
hold, so the document of a loaded record can be written in each, and so can its settings. -/
namespace ClusterVars

theorem Kind.fits_of_admits {kind : Kind} {v : Value} (admitted : kind.Admits v) :
    Toml.fits v = true := by
  cases v with
  | text | flag => rfl
  | count n =>
    cases kind with
    | count => exact decide_eq_true (Nat.le_trans admitted.2 (by decide))
    | identifier | path | choice | flag => exact admitted.elim

/-- A document is written in every format unless a number in it is too large. -/
theorem Document.exists_write {d : Document}
    (fit : ∀ field ∈ d.allFields, Toml.fits field.2 = true) (format : Format) :
    ∃ text, d.write format = .ok text := by
  cases format with
  | yaml | json => exact ⟨_, rfl⟩
  | toml =>
    have all : d.allFields.all (fun field => Toml.fits field.2) = true := List.all_eq_true.mpr fit
    exact ⟨_, by simp only [write, Toml.write?, all, if_true]; rfl⟩

namespace Record
variable {r : Record}

theorem fits_of_value? (valid : r.toBindings.Valid) {key : Key} {v : Value}
    (set : r.value? key = some v) : Toml.fits v = true := by
  rw [← value?_toBindings] at set
  obtain ⟨_, -, admitted⟩ := valid _ _ set
  exact Kind.fits_of_admits admitted

theorem exists_write (valid : r.toBindings.Valid) (format : Format) :
    ∃ text, r.document.write format = .ok text := by
  refine Document.exists_write (fun field member => ?_) format
  obtain ⟨entry, inEntries, rfl⟩ := List.mem_map.mp member
  exact fits_of_value? valid (mem_entries.mp inEntries)

end Record

namespace Settings
variable {r : Record} {s : Settings}

/-- Settings show the record that they were made of, and its operating system's image. -/
theorem ofFilled_eq_ok (full : r.Full) (built : (ofFilled r).result = .ok s) :
    Box.ofOs? s.software.os = some ⟨s.software.os, s.software.image, s.software.user⟩ ∧
      r = { os := some s.software.os
            vmCpus := some s.nodes.cpu
            vmMemory := some s.nodes.memory
            numInstances := some s.nodes.count
            kubeMasterInstances := some s.nodes.control
            etcdInstances := some s.nodes.etcd
            networkPlugin := some s.software.networkPlugin
            boxCheckUpdate := some s.software.checkUpdate
            libvirtVolumeCache := some s.nodes.volumeCache
            numForks := some s.provisioning.forks
            playbook := some s.provisioning.playbook } := by
  obtain ⟨os, cpus, memory, count, control, etcd, plugin, update, cache, forks, playbook, rfl⟩ :=
    full.fields
  cases found : Box.ofOs? os with
  | none =>
    simp only [ofFilled, required, pure_bind, found] at built
    contradiction
  | some box =>
    have named : box.os = os := by simpa using List.find?_some found
    simp only [ofFilled, required, pure_bind, found, Logged.result_bind_of_ok
      (result_noteExcess _ _ _)] at built
    cases built
    exact ⟨by rw [found, ← named], rfl⟩

/-- Every number in the settings is one of the record's. -/
theorem exists_write (full : r.Full) (valid : r.toBindings.Valid)
    (built : (ofFilled r).result = .ok s) (format : Format) :
    ∃ text, s.document.write format = .ok text := by
  obtain ⟨-, rfl⟩ := ofFilled_eq_ok full built
  have fits := @Record.fits_of_value? _ valid
  refine Document.exists_write (fun field member => ?_) format
  simp only [document, Document.allFields, List.flatMap_cons, List.flatMap_nil, List.append_nil,
    List.cons_append, List.nil_append, List.mem_cons, List.not_mem_nil, or_false] at member
  rcases member with rfl | rfl | rfl | rfl | rfl | rfl | rfl | rfl | rfl | rfl | rfl | rfl | rfl
  · exact @fits .numInstances _ rfl
  · exact @fits .kubeMasterInstances _ rfl
  · exact @fits .etcdInstances _ rfl
  · exact @fits .vmCpus _ rfl
  · exact @fits .vmMemory _ rfl
  all_goals first | rfl | exact @fits .numForks _ rfl

end Settings
end ClusterVars
