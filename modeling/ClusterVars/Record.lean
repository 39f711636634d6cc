import ClusterVars.Bindings
import ClusterVars.Text.Lines

/-! Records of options: one optional field per option of the schema, each with the type of its
option. A record is written as one assignment per set option and can be turned into bindings and
back. -/
namespace ClusterVars
open Text

structure Record where
  os : Option String := none
  vmCpus : Option Nat := none
  vmMemory : Option Nat := none
  numInstances : Option Nat := none
  kubeMasterInstances : Option Nat := none
  etcdInstances : Option Nat := none
  networkPlugin : Option String := none
  boxCheckUpdate : Option Bool := none
  libvirtVolumeCache : Option String := none
  numForks : Option Nat := none
  playbook : Option String := none
  deriving DecidableEq, Repr

namespace Record

def value? (r : Record) : Key → Option Value
  | .os => r.os.map .text
  | .vmCpus => r.vmCpus.map .count
  | .vmMemory => r.vmMemory.map .count
  | .numInstances => r.numInstances.map .count
  | .kubeMasterInstances => r.kubeMasterInstances.map .count
  | .etcdInstances => r.etcdInstances.map .count
  | .networkPlugin => r.networkPlugin.map .text
  | .boxCheckUpdate => r.boxCheckUpdate.map .flag
  | .libvirtVolumeCache => r.libvirtVolumeCache.map .text
  | .numForks => r.numForks.map .count
  | .playbook => r.playbook.map .text

/-- The set options with their values, in schema order. -/
def entries (r : Record) : List (Key × Value) :=
  Key.all.filterMap fun key => (r.value? key).map (key, ·)

def keys (r : Record) : List Key := r.entries.map (·.1)

def toBindings (r : Record) : Bindings := ⟨fun name => (Key.ofName? name).bind r.value?⟩

/-- The options that hold a value of their type; all other bindings are left out. -/
def ofBindings (b : Bindings) : Record :=
  let text (key : Key) := (b.value? key.name).bind Value.text?
  let count (key : Key) := (b.value? key.name).bind Value.count?
  { os := text .os
    vmCpus := count .vmCpus
    vmMemory := count .vmMemory
    numInstances := count .numInstances
    kubeMasterInstances := count .kubeMasterInstances
    etcdInstances := count .etcdInstances
    networkPlugin := text .networkPlugin
    boxCheckUpdate := (b.value? Key.boxCheckUpdate.name).bind Value.flag?
    libvirtVolumeCache := text .libvirtVolumeCache
    numForks := count .numForks
    playbook := text .playbook }

/-- One assignment, as a line of its own. -/
def assignmentLine (entry : Key × Value) : List Char :=
  '$' :: entry.1.name.toList ++ [' ', '=', ' '] ++ entry.2.chars ++ ['\n']

/-- One line of a comment. -/
def commentLine (line : List Char) : List Char := '#' :: ' ' :: line ++ ['\n']

/-- The record as assignments in schema order. -/
def render (r : Record) : String := String.ofList (r.entries.flatMap assignmentLine)

/-- The lines of the header as comments, then the record. -/
def renderUnder (header : String) (r : Record) : String :=
  String.ofList ((lines header.toList).flatMap commentLine ++ r.entries.flatMap assignmentLine)

theorem value?_toBindings (r : Record) (key : Key) :
    r.toBindings.value? key.name = r.value? key := by
  simp [toBindings, Key.ofName?_name]

end Record
end ClusterVars
