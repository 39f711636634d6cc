import ClusterVars.Load

/-! Defaults for options that no file sets. Eight are given values, written as assignments that
fill and loaded like any other text; three counts are derived from the number of instances. -/
namespace ClusterVars

structure Defaults where
  numInstances : Nat := 3
  vmCpus : Nat := 2
  vmMemory : Nat := 2048
  os : String := "ubuntu2004"
  networkPlugin : String := "flannel"
  boxCheckUpdate : Bool := true
  libvirtVolumeCache : String := "default"
  playbook : String := "cluster.yml"
  deriving DecidableEq, Repr

namespace Defaults

/-- The given values, in the order in which they are written. -/
def entries (d : Defaults) : List (Key × Value) :=
  [(.numInstances, .count d.numInstances), (.vmCpus, .count d.vmCpus),
    (.vmMemory, .count d.vmMemory), (.os, .text d.os), (.networkPlugin, .text d.networkPlugin),
    (.boxCheckUpdate, .flag d.boxCheckUpdate),
    (.libvirtVolumeCache, .text d.libvirtVolumeCache), (.playbook, .text d.playbook)]

def fillLine (entry : Key × Value) : List Char :=
  '$' :: entry.1.name.toList ++ [' ', '|', '|', '=', ' '] ++ entry.2.chars ++ ['\n']

def render (d : Defaults) : String := String.ofList (d.entries.flatMap fillLine)

/-- The name under which the defaults are loaded. -/
def source : String := "vagrant defaults"

/-- At most this many nodes run etcd by default. -/
def maxEtcd : Nat := 3

/-- At most this many nodes are control-plane nodes by default. -/
def maxControl : Nat := 2

/-- Sets a count that is still unset. -/
def derive (key : Key) (count : Nat) (b : Bindings) : Logged Bindings :=
  if b.isSet key.name then return b
  else do
    Logged.note (.defaulted key count)
    return b.assign key.name (some (.count count))

/-- The record with every unset option filled. -/
def fill (d : Defaults) (r : Record) : Logged Record := do
  let b ← r.toBindings.addText .reject source d.render
  let instances :=
    ((b.value? Key.numInstances.name).bind Value.count?).getD d.numInstances
  let b ← derive .etcdInstances (min instances maxEtcd) b
  let b ← derive .kubeMasterInstances (min instances maxControl) b
  let b ← derive .numForks instances b
  return Record.ofBindings b

end Defaults
end ClusterVars
