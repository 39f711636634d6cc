import ClusterVars.Defaults
import ClusterVars.Format
import ClusterVars.Path
import ClusterVars.Toml.Reader

/-! Configurations: how layers are loaded, which layers come first, how settings are written, and
the defaults. A configuration file may leave out anything and may name nothing else. -/
namespace ClusterVars

structure Config where
  unknownOptions : Policy := .reject
  /-- Paths of layers that come before those of the command. -/
  base : List String := []
  format : Format := .yaml
  defaults : Defaults := {}
  deriving DecidableEq, Repr

namespace Config
open Toml

def text? : Node → Option String
  | .text s => some s
  | _ => none

def count? : Node → Option Nat
  | .integer n => if 0 ≤ n then some n.toNat else none
  | _ => none

def flag? : Node → Option Bool
  | .flag b => some b
  | _ => none

def paths? : Node → Option (List String)
  | .list items => items.mapM text?
  | _ => none

def isEmptyNode : Node → Bool
  | .table _ entries => entries.isEmpty
  | .list items | .tables items => items.isEmpty
  | _ => false

/-- A choice is given by its name, or by a table in which the name stands for nothing. It has to be
the first key, and in a table that is a value the only one. -/
def choice? {α : Type} (ofName? : String → Option α) : Node → Option α
  | .text name => ofName? name
  | .table origin ((name, inner) :: others) =>
    if isEmptyNode inner && (others.isEmpty || !origin.isInline) then ofName? name else none
  | _ => none

/-- The entries of a section. A section is a table with some of the fields, or an array that gives
the first fields in order. -/
def section? (fields : List String) : Node → Option Entries
  | .table _ entries => if entries.all fun e => fields.contains e.1 then some entries else none
  | .list items | .tables items => some (fields.zip items)
  | _ => none

def sectionOf? (root : Entries) (name : String) (fields : List String) : Option Entries :=
  match root.lookup name with
  | none => some []
  | some node => section? fields node

/-- The value of a field, or the given one where the field is left out. -/
def field? {α : Type} (entries : Entries) (name : String) (decode : Node → Option α)
    (otherwise : α) : Option α :=
  match entries.lookup name with
  | none => some otherwise
  | some node => decode node

def defaultsOf? (entries : Entries) : Option Defaults := do
  let given : Defaults := {}
  return {
    numInstances := ← field? entries "num_instances" count? given.numInstances
    vmCpus := ← field? entries "vm_cpus" count? given.vmCpus
    vmMemory := ← field? entries "vm_memory" count? given.vmMemory
    os := ← field? entries "os" text? given.os
    networkPlugin := ← field? entries "network_plugin" text? given.networkPlugin
    boxCheckUpdate := ← field? entries "box_check_update" flag? given.boxCheckUpdate
    libvirtVolumeCache := ← field? entries "libvirt_volume_cache" text? given.libvirtVolumeCache
    playbook := ← field? entries "playbook" text? given.playbook }

def ofEntries? (root : Entries) : Option Config := do
  if !root.all fun e => ["loader", "export", "defaults"].contains e.1 then none
  let loader ← sectionOf? root "loader" ["unknown_options", "base"]
  let writing ← sectionOf? root "export" ["format"]
  let defaults ← sectionOf? root "defaults"
    ["num_instances", "vm_cpus", "vm_memory", "os", "network_plugin", "box_check_update",
      "libvirt_volume_cache", "playbook"]
  return {
    unknownOptions := ← field? loader "unknown_options" (choice? Policy.ofName?) .reject
    base := ← field? loader "base" paths? []
    format := ← field? writing "format" (choice? Format.ofName?) .yaml
    defaults := ← defaultsOf? defaults }

/-- The configuration that a text describes. -/
def ofText? (text : String) : Option Config := (Toml.read? text).bind ofEntries?

/-- Base layers are named as seen from the directory of the configuration file. -/
def under (path : String) (config : Config) : Config :=
  { config with base := config.base.map (Path.join (Path.parent path)) }

/-- The configuration file that is used when none is named. -/
def defaultPath : String := "vars.toml"

/-- Loads the configuration from what was read at its path. Only a configuration file that nobody
named may be missing. -/
def load (named : Option String) (content : Except FileError String) : Logged Config :=
  let path := named.getD defaultPath
  match content with
  | .error cause =>
    if named.isNone && cause = .missing then do
      Logged.note .configAbsent
      return {}
    else do
      Logged.note (.configUnreadable path)
      Logged.fail (.configUnreadable cause)
  | .ok text =>
    match ofText? text with
    | none => do
      Logged.note (.configInvalid path)
      Logged.fail .configInvalid
    | some config => do
      Logged.note .configParsed
      return config.under path

end Config
end ClusterVars
