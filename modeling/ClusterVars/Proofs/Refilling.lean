import ClusterVars.Proofs.Filling
import ClusterVars.Settings

/-! Filling twice. A filled record has a value for every option, so other defaults find nothing left
to fill, and the settings of the filled record are those of the record it was filled from. -/
namespace ClusterVars
open Text

/-! Records in which every option is set -/

namespace Record
variable {r : Record}

/-- Every option is set. -/
def Full (r : Record) : Prop := ∀ key, ∃ v, r.value? key = some v

theorem Full.fields (full : r.Full) :
    ∃ os vmCpus vmMemory numInstances kubeMasterInstances etcdInstances networkPlugin boxCheckUpdate
        libvirtVolumeCache numForks playbook,
      r = ⟨some os, some vmCpus, some vmMemory, some numInstances, some kubeMasterInstances,
        some etcdInstances, some networkPlugin, some boxCheckUpdate, some libvirtVolumeCache,
        some numForks, some playbook⟩ := by
  have set {α : Type} {o : Option α} {wrap : α → Value} (bound : ∃ v, o.map wrap = some v) :
      ∃ a, o = some a := by
    obtain ⟨v, bound⟩ := bound
    obtain ⟨a, held, -⟩ := Option.map_eq_some_iff.mp bound
    exact ⟨a, held⟩
  obtain ⟨os, os'⟩ := set (full .os)
  obtain ⟨vmCpus, vmCpus'⟩ := set (full .vmCpus)
  obtain ⟨vmMemory, vmMemory'⟩ := set (full .vmMemory)
  obtain ⟨numInstances, numInstances'⟩ := set (full .numInstances)
  obtain ⟨kubeMasterInstances, kubeMasterInstances'⟩ := set (full .kubeMasterInstances)
  obtain ⟨etcdInstances, etcdInstances'⟩ := set (full .etcdInstances)
  obtain ⟨networkPlugin, networkPlugin'⟩ := set (full .networkPlugin)
  obtain ⟨boxCheckUpdate, boxCheckUpdate'⟩ := set (full .boxCheckUpdate)
  obtain ⟨libvirtVolumeCache, libvirtVolumeCache'⟩ := set (full .libvirtVolumeCache)
  obtain ⟨numForks, numForks'⟩ := set (full .numForks)
  obtain ⟨playbook, playbook'⟩ := set (full .playbook)
  refine ⟨os, vmCpus, vmMemory, numInstances, kubeMasterInstances, etcdInstances, networkPlugin,
    boxCheckUpdate, libvirtVolumeCache, numForks, playbook, ?_⟩
  cases r
  simp_all

end Record

namespace Defaults
variable {d : Defaults} {r filled : Record}

/-- Every given value is one that its option admits. -/
def Valid (d : Defaults) : Prop := ∀ entry ∈ d.entries, entry.1.kind.Admits entry.2

instance (d : Defaults) : Decidable d.Valid :=
  inferInstanceAs (Decidable (∀ entry ∈ d.entries, entry.1.kind.Admits entry.2))

theorem valid_builtIn : ({} : Defaults).Valid := by decide

/-- The value that follows from the number of instances. -/
def derived? (instances : Nat) : Key → Option Value
  | .etcdInstances => some (.count (min instances maxEtcd))
  | .kubeMasterInstances => some (.count (min instances maxControl))
  | .numForks => some (.count instances)
  | _ => none

theorem value?_deriveAll (instances : Nat) (b : Bindings) (key : Key) :
    (deriveAll instances b).value? key.name =
      (b.value? key.name).or (derived? instances key) := by
  cases key <;> simp [deriveAll, Bindings.value?_fill, Key.name, derived?]

theorem holds_of_given? {key : Key} {v : Value} (given : d.given? key = some v) :
    key.kind.holds v = true := by
  cases key <;> cases given <;> rfl

theorem holds_of_derived? {instances : Nat} {key : Key} {v : Value}
    (derived : derived? instances key = some v) : key.kind.holds v = true := by
  cases key <;> cases derived <;> rfl

theorem given?_or_derived? (d : Defaults) (instances : Nat) (key : Key) :
    ∃ v, (d.given? key).or (derived? instances key) = some v := by
  cases key <;> exact ⟨_, rfl⟩

/-- Options that are set stay; others take what is given, or else what is derived. -/
theorem value?_fill (done : (d.fill r).result = .ok filled) (key : Key) :
    filled.value? key = (r.value? key).or
      ((d.given? key).or (derived? (r.numInstances.getD d.numInstances) key)) := by
  obtain ⟨b, added, rfl⟩ := fill_eq_ok done
  have instances : ((b.value? Key.numInstances.name).bind Value.count?).getD d.numInstances =
      r.numInstances.getD d.numInstances := by
    rw [value?_addText_render added, Record.value?_toBindings, Record.value?]
    cases r.numInstances <;> rfl
  rw [instances, Record.value?_ofBindings, value?_deriveAll, value?_addText_render added,
    Record.value?_toBindings, Option.or_assoc]
  cases set : r.value? key with
  | some v => simp [Option.filter_some, Record.holds_of_value? set]
  | none =>
    cases given : d.given? key with
    | some v => simp [Option.filter_some, holds_of_given? given]
    | none =>
      cases derived : derived? (r.numInstances.getD d.numInstances) key with
      | some v => simp [Option.filter_some, holds_of_derived? derived]
      | none => rfl

theorem full_fill (done : (d.fill r).result = .ok filled) : filled.Full := by
  intro key
  rw [value?_fill done]
  cases r.value? key with
  | some v => exact ⟨v, rfl⟩
  | none => exact given?_or_derived? d _ key

theorem addText_render_of_valid (valid : d.Valid) (b : Bindings) :
    (∃ after, (b.addText .reject source d.render).result = .ok after) ∧
      (b.addText .reject source d.render).alerts = [] := by
  have fits : ∀ entry ∈ d.entries, entry.1.kind.value? entry.2.literal ≠ none := by
    intro entry member
    simp [Kind.value?_literal (valid entry member)]
  have noComments : ∀ line ∈ ([] : List (List Char)), '\n' ∉ line := by simp
  rw [render_eq]
  obtain ⟨added, silent⟩ := Bindings.addText_writtenText .reject b source .fill noComments fits
  exact ⟨⟨_, added⟩, silent⟩

theorem exists_fill (valid : d.Valid) (r : Record) : ∃ filled, (d.fill r).result = .ok filled := by
  obtain ⟨⟨b, added⟩, -⟩ := addText_render_of_valid valid r.toBindings
  exact ⟨_, result_fill added⟩

theorem valid_of_fill (done : (d.fill r).result = .ok filled) : d.Valid := by
  obtain ⟨b, added, -⟩ := fill_eq_ok done
  obtain ⟨fits, -⟩ := addText_render added
  exact fun entry member => Kind.admits_of_value? (fits entry member)

/-- Valid defaults leave a record alone in which every option is set. -/
theorem fill_of_full (full : r.Full) (valid : d.Valid) : (d.fill r).result = .ok r := by
  obtain ⟨filled, done⟩ := exists_fill valid r
  have same : filled = r := Record.ext_value? fun key => by
    obtain ⟨v, set⟩ := full key
    rw [value?_fill done, set, Option.some_or]
  rw [done, same]

theorem alerts_derive (key : Key) (count : Nat) (b : Bindings) :
    (derive key count b).alerts = [] := by
  by_cases bound : b.isSet key.name
  · simp [derive, bound]
  · simp [derive, bound]
    rfl

theorem alerts_fill (done : (d.fill r).result = .ok filled) : (d.fill r).alerts = [] := by
  obtain ⟨⟨b, added⟩, silent⟩ := addText_render_of_valid (valid_of_fill done) r.toBindings
  rw [fill, Logged.alerts_bind_of_ok added, silent,
    Logged.alerts_bind_of_ok (result_derive ..), alerts_derive,
    Logged.alerts_bind_of_ok (result_derive ..), alerts_derive,
    Logged.alerts_bind_of_ok (result_derive ..), alerts_derive]
  rfl

end Defaults

namespace Settings
variable {d other : Defaults} {r filled : Record}

theorem build_of_fill (done : (d.fill r).result = .ok filled) :
    (build r d).result = (ofFilled filled).result ∧
      (build r d).alerts = (ofFilled filled).alerts := by
  constructor
  · rw [build, Logged.result_bind_of_ok done]
  · rw [build, Logged.alerts_bind_of_ok done, Defaults.alerts_fill done, List.nil_append]

theorem result_noteExcess (key : Key) (role count : Nat) :
    (noteExcess key role count).result = .ok () := by
  unfold noteExcess
  split <;> rfl

/-- Only an operating system without an image keeps a full record from having settings. -/
theorem ofFilled_of_full (full : r.Full) :
    (∃ s, (ofFilled r).result = .ok s) ∨
      ∃ os, r.os = some os ∧ Box.ofOs? os = none ∧
        (ofFilled r).result = .error (.unsupportedOs os) := by
  obtain ⟨os, cpus, memory, count, control, etcd, plugin, update, cache, forks, playbook, rfl⟩ :=
    full.fields
  cases found : Box.ofOs? os with
  | none => exact .inr ⟨os, rfl, found, by simp [ofFilled, required, found]; rfl⟩
  | some box =>
    left
    simp [ofFilled, required, found, result_noteExcess, Except.bind, -bind_pure_comp]

/-- Other valid defaults change nothing in a filled record, and its settings come out as they did
from the record before, with the same warnings. -/
theorem build_filled (done : (d.fill r).result = .ok filled) (valid : other.Valid) :
    (other.fill filled).result = .ok filled ∧
      (build filled other).result = (build r d).result ∧
      (build filled other).alerts = (build r d).alerts ∧
      ((∃ s, (build r d).result = .ok s) ∨
        ∃ os, (build r d).result = .error (.unsupportedOs os)) := by
  have full := Defaults.full_fill done
  have again := Defaults.fill_of_full full valid
  obtain ⟨result, alerts⟩ := build_of_fill done
  obtain ⟨resultAgain, alertsAgain⟩ := build_of_fill again
  refine ⟨again, resultAgain.trans result.symm, alertsAgain.trans alerts.symm, ?_⟩
  rw [result]
  rcases ofFilled_of_full full with built | ⟨os, -, -, refused⟩
  · exact .inl built
  · exact .inr ⟨os, refused⟩

/-- More control-plane nodes than nodes, and a memory that no file could set. -/
theorem build_filled_overlapping :
    let r : Record :=
      { os := some "debian12", vmMemory := some 0, numInstances := some 2
        kubeMasterInstances := some 5 }
    let filled : Record :=
      ⟨some "debian12", some 2, some 0, some 2, some 5, some 2, some "flannel", some true,
        some "default", some 2, some "cluster.yml"⟩
    let other : Defaults := { numInstances := 9, os := "opensuse", playbook := "a \"b\".yml" }
    (({} : Defaults).fill r).result = .ok filled ∧ other.Valid ∧
      (other.fill filled).result = .ok filled ∧
      (build filled other).result = (build r {}).result ∧
      (build filled other).alerts = [.exceeds .kubeMasterInstances 5 2] := by
  intro r filled other
  have done : (({} : Defaults).fill r).result = .ok filled := by decide +kernel
  have valid : other.Valid := by
    intro entry member
    simp only [other, Defaults.entries, List.mem_cons, List.not_mem_nil, or_false] at member
    rcases member with rfl | rfl | rfl | rfl | rfl | rfl | rfl | rfl <;>
      simp [Key.kind, Kind.Admits, maxCount, networkPlugins, volumeCacheModes]
  obtain ⟨again, result, alerts, -⟩ := build_filled done valid
  exact ⟨done, valid, again, result, alerts.trans ((build_of_fill done).2.trans rfl)⟩

end Settings
end ClusterVars
