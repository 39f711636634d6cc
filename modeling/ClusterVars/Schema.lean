import ClusterVars.Literal
import ClusterVars.Value

/-! The options that variable files may set: their names, the kind of value each takes, and when
a literal fits a kind. -/
namespace ClusterVars

inductive Kind
  /-- A non-empty text that names something. -/
  | identifier
  /-- A positive number up to `maxCount`. -/
  | count
  | flag
  /-- One of a fixed list of texts. -/
  | choice (names : List String)
  /-- A non-empty path. -/
  | path
  deriving DecidableEq, Repr

def maxCount : Nat := 4294967295

namespace Kind

def typeName : Kind → String
  | .identifier => "string"
  | .count => "integer"
  | .flag => "boolean"
  | .choice _ => "enum"
  | .path => "path"

def describe : Kind → String
  | .identifier => "a non-empty string"
  | .count => "a positive integer up to " ++ toString maxCount
  | .flag => "a boolean"
  | .choice names => "one of " ++ ", ".intercalate names
  | .path => "a non-empty path string"

def choices? : Kind → Option (List String)
  | .choice names => some names
  | _ => none

/-- The value of a literal that fits the kind; `nil` fits none. -/
def value? : Kind → Literal → Option Value
  | .identifier, .text s | .path, .text s => if s = "" then none else some (.text s)
  | .count, .integer n => (n.count? maxCount).map .count
  | .flag, .flag b => some (.flag b)
  | .choice names, .text s => if s ∈ names then some (.text s) else none
  | _, _ => none

end Kind

def networkPlugins : List String :=
  ["calico", "canal", "cilium", "cni", "custom_cni", "flannel", "kube-ovn", "kube-router",
    "macvlan", "weave"]

def volumeCacheModes : List String :=
  ["default", "none", "writethrough", "writeback", "directsync", "unsafe"]

/-- The options of the schema. -/
inductive Key
  | os
  | vmCpus
  | vmMemory
  | numInstances
  | kubeMasterInstances
  | etcdInstances
  | networkPlugin
  | boxCheckUpdate
  | libvirtVolumeCache
  | numForks
  | playbook
  deriving DecidableEq, Repr

namespace Key

/-- Every option, in the order in which they are listed and written. -/
def all : List Key :=
  [.os, .vmCpus, .vmMemory, .numInstances, .kubeMasterInstances, .etcdInstances, .networkPlugin,
    .boxCheckUpdate, .libvirtVolumeCache, .numForks, .playbook]

def name : Key → String
  | .os => "os"
  | .vmCpus => "vm_cpus"
  | .vmMemory => "vm_memory"
  | .numInstances => "num_instances"
  | .kubeMasterInstances => "kube_master_instances"
  | .etcdInstances => "etcd_instances"
  | .networkPlugin => "network_plugin"
  | .boxCheckUpdate => "box_check_update"
  | .libvirtVolumeCache => "libvirt_volume_cache"
  | .numForks => "num_forks"
  | .playbook => "playbook"

def kind : Key → Kind
  | .os => .identifier
  | .vmCpus | .vmMemory | .numInstances | .kubeMasterInstances | .etcdInstances
  | .numForks => .count
  | .networkPlugin => .choice networkPlugins
  | .boxCheckUpdate => .flag
  | .libvirtVolumeCache => .choice volumeCacheModes
  | .playbook => .path

def about : Key → String
  | .os => "Base OS image name"
  | .vmCpus => "Virtual CPUs per node"
  | .vmMemory => "Memory per node in MB"
  | .numInstances => "Total node count"
  | .kubeMasterInstances => "Control-plane node count"
  | .etcdInstances => "etcd node count"
  | .networkPlugin => "CNI plugin"
  | .boxCheckUpdate => "Check for base box updates on startup"
  | .libvirtVolumeCache => "Disk cache mode for libvirt volumes"
  | .numForks => "Ansible fork count during provisioning"
  | .playbook => "Playbook to run instead of the default"

def ofName? (name : String) : Option Key := all.find? (·.name = name)

/-- What assigning a literal to the option means: `nil` unsets it, any other literal has to fit
its kind. -/
def meaning? (key : Key) (literal : Literal) : Option (Option Value) :=
  if literal = .nil then some none else (key.kind.value? literal).map some

theorem mem_all (key : Key) : key ∈ all := by cases key <;> decide

theorem ofName?_name (key : Key) : ofName? key.name = some key := by cases key <;> decide

theorem name_injective {a b : Key} (same : a.name = b.name) : a = b := by
  have found := ofName?_name a
  rw [same, ofName?_name b] at found
  exact (Option.some.inj found).symm

theorem name_of_ofName? {name : String} {key : Key} (found : ofName? name = some key) :
    key.name = name := by
  simpa using List.find?_some found

theorem name_ne_of_unknown {name : String} (unknown : ofName? name = none) (key : Key) :
    name ≠ key.name := by
  rintro rfl
  rw [ofName?_name] at unknown
  contradiction

end Key
end ClusterVars
