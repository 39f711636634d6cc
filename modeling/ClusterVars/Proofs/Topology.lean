import ClusterVars.Proofs.Completion

/-! Settings and the topology they describe. The settings show the completed record, on the one
image that its operating system has; without an image there are none. A role with more nodes than
there are is noted, and only the record itself can ask for so many: what is derived never exceeds
the number of instances. -/
namespace ClusterVars
open Text

namespace Box

/-- An operating system names its image. -/
theorem ofOs?_of_mem : ∀ box ∈ all, ofOs? box.os = some box := by decide

theorem ofOs?_eq_none {os : String} : ofOs? os = none ↔ os ∉ all.map (·.os) := by
  simp [ofOs?]

theorem eq_of_os {box other : Box} (member : box ∈ all) (others : other ∈ all)
    (same : other.os = box.os) : other = box := by
  have found := ofOs?_of_mem other others
  rw [same, ofOs?_of_mem box member] at found
  exact (Option.some.inj found).symm

end Box

namespace Settings
variable {d : Defaults} {r filled : Record} {s : Settings} {box : Box} {os : String}

/-- Every option of the record under its own heading, on the image. -/
structure Shows (s : Settings) (r : Record) (box : Box) : Prop where
  count : r.numInstances = some s.nodes.count
  control : r.kubeMasterInstances = some s.nodes.control
  etcd : r.etcdInstances = some s.nodes.etcd
  cpu : r.vmCpus = some s.nodes.cpu
  memory : r.vmMemory = some s.nodes.memory
  volumeCache : r.libvirtVolumeCache = some s.nodes.volumeCache
  os : r.os = some s.software.os
  image : s.software.image = box.image
  user : s.software.user = box.user
  networkPlugin : r.networkPlugin = some s.software.networkPlugin
  checkUpdate : r.boxCheckUpdate = some s.software.checkUpdate
  playbook : r.playbook = some s.provisioning.playbook
  forks : r.numForks = some s.provisioning.forks

/-- The notice of a role that has more nodes than there are. -/
def excess (key : Key) (role count : Nat) : List Notice :=
  if count < role then [.exceeds key role count] else []

theorem alerts_noteExcess (key : Key) (role count : Nat) :
    (noteExcess key role count).alerts = excess key role count := by
  unfold noteExcess excess
  split <;> rfl

/-- The notices about the topology, the one on the control plane first. -/
def excesses (s : Settings) : List Notice :=
  excess .kubeMasterInstances s.nodes.control s.nodes.count ++
    excess .etcdInstances s.nodes.etcd s.nodes.count

theorem ofFilled_of_box (full : r.Full) (named : r.os = some os) (found : Box.ofOs? os = some box) :
    ∃ s, (ofFilled r).result = .ok s ∧ s.Shows r box ∧ (ofFilled r).alerts = s.excesses := by
  obtain ⟨_, cpus, memory, count, control, etcd, plugin, update, cache, forks, playbook, rfl⟩ :=
    full.fields
  cases named
  refine ⟨⟨⟨count, control, etcd, cpus, memory, cache⟩, ⟨os, box.image, box.user, plugin, update⟩,
    ⟨playbook, forks⟩⟩, ?_, ?_, ?_⟩
  · simp only [ofFilled, required, pure_bind, found,
      Logged.result_bind_of_ok (result_noteExcess _ _ _)]
    rfl
  · constructor <;> rfl
  · simp only [ofFilled, required, pure_bind, found,
      Logged.alerts_bind_of_ok (result_noteExcess _ _ _), alerts_noteExcess]
    simp [excesses]

theorem ofFilled_of_no_box (named : r.os = some os) (unsupported : Box.ofOs? os = none) :
    ofFilled r = Logged.fail (.unsupportedOs os) := by
  simp only [ofFilled, required, named, pure_bind, unsupported]

/-- What is derived for a role never exceeds the number of instances. -/
theorem set_of_excess (shows : s.Shows (d.completed r) box) :
    (s.nodes.count < s.nodes.control → r.kubeMasterInstances = some s.nodes.control) ∧
      (s.nodes.count < s.nodes.etcd → r.etcdInstances = some s.nodes.etcd) := by
  have role {set : Option Nat} {instances most nodes : Nat}
      (filled : some (set.getD (min instances most)) = some nodes) (more : instances < nodes) :
      set = some nodes := by
    cases set with
    | none =>
      simp only [Option.getD_none, Option.some.injEq] at filled
      omega
    | some n => simpa using filled
  have count := Option.some.inj shows.count
  rw [← count]
  exact ⟨role shows.control, role shows.etcd⟩

theorem build_ne_unset (r : Record) (d : Defaults) (key : Key) :
    (build r d).result ≠ .error (.unset key) := by
  intro unset
  rcases misfit?_or_admits d.entries with ⟨i, entry, first⟩ | valid
  · have unbuilt := Logged.result_bind_of_error (Defaults.fill_of_misfit first r) ofFilled
    cases unbuilt.symm.trans unset
  · have result := (build_of_fill (Defaults.fill_of_valid valid r)).1
    rcases ofFilled_of_full (Defaults.full_completed d r) with ⟨s, built⟩ | ⟨os, -, -, refused⟩
    · cases (result.trans built).symm.trans unset
    · cases (result.trans refused).symm.trans unset

/-- Settings are built of the completed record, with a notice for each role that exceeds the number
of instances. They cannot be without defaults that fit or without an image, and for no other
reason. -/
theorem outcome_build (r : Record) (d : Defaults) :
    (∀ failure, (d.fill r).result = .error failure → (build r d).result = .error failure) ∧
      (∀ filled, (d.fill r).result = .ok filled → ∃ os, filled.os = some os ∧
        (os ∉ Box.all.map (·.os) →
          (build r d).result = .error (.unsupportedOs os) ∧ (build r d).alerts = []) ∧
        ∀ box ∈ Box.all, box.os = os →
          (∀ other ∈ Box.all, other.os = os → other = box) ∧
          ∃ s, (build r d).result = .ok s ∧ s.Shows filled box ∧
            (build r d).alerts = s.excesses ∧
            (s.nodes.count < s.nodes.control → r.kubeMasterInstances = some s.nodes.control) ∧
            (s.nodes.count < s.nodes.etcd → r.etcdInstances = some s.nodes.etcd)) ∧
      ∀ key, (build r d).result ≠ .error (.unset key) := by
  refine ⟨fun failure failed => Logged.result_bind_of_error failed _, fun filled done => ?_,
    fun key => build_ne_unset r d key⟩
  obtain rfl := Defaults.eq_completed_of_fill done
  obtain ⟨result, alerts⟩ := build_of_fill done
  refine ⟨r.os.getD d.os, rfl, fun unsupported => ?_, fun box member named => ?_⟩
  · have refused := ofFilled_of_no_box (r := d.completed r) rfl (Box.ofOs?_eq_none.mpr unsupported)
    rw [refused] at result alerts
    exact ⟨result, alerts⟩
  · have found := Box.ofOs?_of_mem box member
    rw [named] at found
    obtain ⟨s, built, shows, noted⟩ := ofFilled_of_box (Defaults.full_completed d r) rfl found
    refine ⟨fun other others same => Box.eq_of_os member others (same.trans named.symm), s,
      result.trans built, shows, alerts.trans noted, set_of_excess shows⟩

end Settings
end ClusterVars
