import ClusterVars.Defaults
import ClusterVars.Document

/-! Settings for the provisioner: the filled record in the provisioner's own vocabulary, with the
image that belongs to its operating system. -/
namespace ClusterVars

structure Nodes where
  count : Nat
  control : Nat
  etcd : Nat
  cpu : Nat
  memory : Nat
  volumeCache : String
  deriving DecidableEq, Repr

structure Software where
  os : String
  image : String
  user : String
  networkPlugin : String
  checkUpdate : Bool
  deriving DecidableEq, Repr

structure Provisioning where
  playbook : String
  forks : Nat
  deriving DecidableEq, Repr

structure Settings where
  nodes : Nodes
  software : Software
  provisioning : Provisioning
  deriving DecidableEq, Repr

namespace Settings

def required {α : Type} (key : Key) (value : Option α) : Logged α :=
  match value with
  | some a => return a
  | none => Logged.fail (.unset key)

/-- Notes a role that has more nodes than there are. Roles overlap then, which is allowed. -/
def noteExcess (key : Key) (role count : Nat) : Logged Unit :=
  if count < role then Logged.note (.exceeds key role count) else return ()

/-- The settings of a record whose options are all set. -/
def ofFilled (r : Record) : Logged Settings := do
  let os ← required .os r.os
  match Box.ofOs? os with
  | none => Logged.fail (.unsupportedOs os)
  | some box =>
    let nodes : Nodes :=
      { count := ← required .numInstances r.numInstances
        control := ← required .kubeMasterInstances r.kubeMasterInstances
        etcd := ← required .etcdInstances r.etcdInstances
        cpu := ← required .vmCpus r.vmCpus
        memory := ← required .vmMemory r.vmMemory
        volumeCache := ← required .libvirtVolumeCache r.libvirtVolumeCache }
    let software : Software :=
      { os := os
        image := box.image
        user := box.user
        networkPlugin := ← required .networkPlugin r.networkPlugin
        checkUpdate := ← required .boxCheckUpdate r.boxCheckUpdate }
    let provisioning : Provisioning :=
      { playbook := ← required .playbook r.playbook
        forks := ← required .numForks r.numForks }
    noteExcess .kubeMasterInstances nodes.control nodes.count
    noteExcess .etcdInstances nodes.etcd nodes.count
    return ⟨nodes, software, provisioning⟩

/-- The settings of a record, its gaps filled by the defaults. -/
def build (r : Record) (d : Defaults) : Logged Settings := do
  let filled ← d.fill r
  ofFilled filled

def document (s : Settings) : Document :=
  .sectioned
    [("nodes",
        [("count", .count s.nodes.count), ("control", .count s.nodes.control),
          ("etcd", .count s.nodes.etcd), ("cpu", .count s.nodes.cpu),
          ("memory", .count s.nodes.memory), ("volume_cache", .text s.nodes.volumeCache)]),
      ("software",
        [("os", .text s.software.os), ("box", .text s.software.image),
          ("user", .text s.software.user), ("network_plugin", .text s.software.networkPlugin),
          ("check_update", .flag s.software.checkUpdate)]),
      ("provisioning",
        [("playbook", .text s.provisioning.playbook),
          ("forks", .count s.provisioning.forks)])]

end Settings
end ClusterVars
