import ClusterVars.Format

/-! Invocations of the program, and how a list of arguments spells one. Options may stand anywhere
among files; a value that stands apart from its option is settled only when the next option or
file begins, or at the end. -/
namespace ClusterVars

/-- What the program is asked to do. -/
inductive Task
  /-- Load the files and say whether they are valid. -/
  | check (files : List String)
  /-- Print the record, as assignments or in a format. -/
  | render (files : List String) (defaults : Bool) (format : Option Format)
  /-- Print or write the settings. -/
  | provision (files : List String) (format : Option Format) (output : Option String)
  /-- List the options and the defaults. -/
  | options
  deriving DecidableEq, Repr

structure Invocation where
  verbose : Bool
  /-- The configuration file, if one is named. -/
  config : Option String
  task : Task
  deriving DecidableEq, Repr

/-- Reasons to end before any work is done. -/
inductive UsageStop
  | helpRequested
  | versionRequested
  /-- There are no arguments at all. -/
  | nothingGiven
  | missingCommand
  | unknownCommand
  | missingFile
  | unknownArgument
  /-- An option is given twice. -/
  | repeated
  /-- A value is missing, or empty where it must not be. -/
  | missingValue
  | invalidFormat
  /-- An option that takes no value has one. -/
  | unwantedValue
  deriving DecidableEq, Repr

/-- Only what the user asked for counts as success. -/
def UsageStop.exitCode : UsageStop → Nat
  | .helpRequested | .versionRequested => 0
  | _ => 2

namespace Invocation

inductive Switch
  | verbose
  | file
  | version
  | help
  | defaults
  | format
  | output
  deriving DecidableEq, Repr

namespace Switch

def long : Switch → String
  | .verbose => "verbose"
  | .file => "file"
  | .version => "version"
  | .help => "help"
  | .defaults => "defaults"
  | .format => "format"
  | .output => "output"

def short? : Switch → Option Char
  | .verbose => some 'v'
  | .file => some 'f'
  | .version => some 'V'
  | .help => some 'h'
  | .defaults => some 'd'
  | .format => none
  | .output => some 'o'

def takesValue : Switch → Bool
  | .file | .format | .output => true
  | .verbose | .version | .help | .defaults => false

end Switch

inductive Command
  | check
  | render
  | provision
  | options
  deriving DecidableEq, Repr

namespace Command

def all : List Command := [.check, .render, .provision, .options]

def name : Command → String
  | .check => "check"
  | .render => "render"
  | .provision => "export"
  | .options => "options"

def ofName? (name : String) : Option Command := all.find? (·.name = name)

def switches : Command → List Switch
  | .check => [.help]
  | .render => [.defaults, .format, .help]
  | .provision => [.format, .output, .help]
  | .options => [.help]

def takesFiles : Command → Bool
  | .options => false
  | _ => true

end Command

/-- The switches before the command. -/
def globalSwitches : List Switch := [.verbose, .file, .version, .help]

/-- What the last argument left unsettled. -/
inductive Pending
  | nothing
  /-- An option whose value has to come next. -/
  | awaiting (s : Switch)
  | holding (s : Switch) (value : String)
  | files (files : List String)
  deriving DecidableEq, Repr

/-- What the arguments so far have given. -/
structure Scan where
  given : List (Switch × String) := []
  files : List String := []
  pending : Pending := .nothing
  deriving DecidableEq, Repr

namespace Scan

def has (scan : Scan) (s : Switch) : Bool := scan.given.any (·.1 = s)

def value? (scan : Scan) (s : Switch) : Option String := scan.given.lookup s

/-- Takes a switch with its value; switches without one have the empty text. -/
def take (scan : Scan) (s : Switch) (value : String) : Except UsageStop Scan :=
  if scan.has s then .error .repeated
  else if s = .format && (Format.ofRequest? value).isNone then .error .invalidFormat
  else if s = .output && value = "" then .error .missingValue
  else .ok { scan with given := scan.given ++ [(s, value)] }

def settle (scan : Scan) : Except UsageStop Scan :=
  let settled := { scan with pending := .nothing }
  match scan.pending with
  | .nothing => .ok scan
  | .awaiting _ => .error .missingValue
  | .holding s value => settled.take s value
  | .files files =>
    if files.contains "" then .error .missingValue
    else .ok { settled with files := scan.files ++ files }

/-- A switch that takes no value; help and version end the reading. -/
def flag (scan : Scan) (s : Switch) : Except UsageStop Scan := do
  let scan ← scan.settle
  match s with
  | .help => .error .helpRequested
  | .version => .error .versionRequested
  | _ => scan.take s ""

/-- A switch that takes a value, which may be attached to it. -/
def option (scan : Scan) (s : Switch) (attached : Option String) : Except UsageStop Scan := do
  let scan ← scan.settle
  match attached with
  | some value => scan.take s value
  | none => .ok { scan with pending := .awaiting s }

/-- An argument that starts with two dashes, which are left out here. -/
def long (switches : List Switch) (scan : Scan) (argument : List Char) : Except UsageStop Scan :=
  let name := argument.takeWhile (· ≠ '=')
  let attached :=
    match argument.dropWhile (· ≠ '=') with
    | [] => none
    | _ :: value => some (String.ofList value)
  match switches.find? fun s => s.long.toList = name with
  | none => .error .unknownArgument
  | some s =>
    if s.takesValue then scan.option s attached
    else if attached.isSome then .error .unwantedValue
    else scan.flag s

/-- The letters after one dash. The first one that takes a value has the rest as its value, less
an equality sign. -/
def letters (switches : List Switch) : Scan → List Char → Except UsageStop Scan
  | scan, [] => .ok scan
  | scan, letter :: rest =>
    match switches.find? fun s => s.short? = some letter with
    | none => .error .unknownArgument
    | some s =>
      if s.takesValue then
        match rest with
        | [] => scan.option s none
        | c :: more => scan.option s (some (String.ofList (if c = '=' then more else rest)))
      else do
        let scan ← scan.flag s
        letters switches scan rest

/-- An argument that is neither an option nor the value of one. -/
def file (scan : Scan) (argument : String) : Except UsageStop Scan :=
  match scan.pending with
  | .files files => .ok { scan with pending := .files (files ++ [argument]) }
  | _ => do
    let scan ← scan.settle
    .ok { scan with pending := .files [argument] }

/-- An argument before any double dash stands alone. -/
def argument (switches : List Switch) (takesFiles : Bool) (scan : Scan) (argument : String) :
    Except UsageStop Scan :=
  match argument.toList with
  | '-' :: '-' :: name => scan.long switches name
  | '-' :: c :: more => scan.letters switches (c :: more)
  | _ =>
    match scan.pending with
    | .awaiting s => .ok { scan with pending := .holding s argument }
    | _ => if takesFiles then scan.file argument else .error .unknownArgument

/-- Arguments after a double dash are files. -/
def trailing (takesFiles : Bool) : Scan → List String → Except UsageStop Scan
  | scan, [] => .ok scan
  | scan, argument :: rest =>
    if takesFiles then do
      let scan ← scan.file argument
      trailing takesFiles scan rest
    else .error .unknownArgument

/-- The arguments of a command. -/
def arguments (command : Command) : Scan → List String → Except UsageStop Scan
  | scan, [] => .ok scan
  | scan, argument :: rest =>
    if argument = "--" then scan.trailing command.takesFiles rest
    else do
      let scan ← scan.argument command.switches command.takesFiles argument
      arguments command scan rest

def format? (scan : Scan) : Option Format := (scan.value? .format).bind Format.ofRequest?

def task (scan : Scan) : Command → Task
  | .check => .check scan.files
  | .render => .render scan.files (scan.has .defaults) scan.format?
  | .provision => .provision scan.files scan.format? (scan.value? .output)
  | .options => .options

end Scan

def readTask (command : Command) (arguments : List String) : Except UsageStop Task := do
  let scan ← Scan.arguments command {} arguments
  let scan ← scan.settle
  if command.takesFiles && scan.files.isEmpty then .error .missingFile
  else .ok (scan.task command)

def helpName : String := "help"

/-- Help on a command takes the name of one, or of itself. -/
def readHelp : List String → UsageStop
  | [] => .helpRequested
  | [name] =>
    if (Command.ofName? name).isSome || name = helpName then .helpRequested else .unknownCommand
  | _ => .unknownCommand

/-- There is no command: an option still has to be whole. -/
def withoutCommand (scan : Scan) : Except UsageStop Invocation := do
  let scan ← scan.settle
  .error (if scan.given.isEmpty then .nothingGiven else .missingCommand)

/-- Reads the arguments before the command. Those of the command are read before the last option
in front of it is settled. -/
def readFrom : Scan → List String → Except UsageStop Invocation
  | scan, [] => withoutCommand scan
  | scan, argument :: rest =>
    let awaiting :=
      match scan.pending with
      | .awaiting _ => true
      | _ => false
    if !awaiting && argument = helpName then .error (readHelp rest)
    else match if awaiting then none else Command.ofName? argument with
      | some command => do
        let task ← readTask command rest
        let scan ← scan.settle
        .ok ⟨scan.has .verbose, scan.value? .file, task⟩
      | none =>
        if argument = "--" then
          match rest with
          | [] => withoutCommand scan
          | next :: _ =>
            if (Command.ofName? next).isSome || next = helpName then .error .unknownArgument
            else .error .unknownCommand
        else if argument.toList.head? = some '-' && argument ≠ "-" || awaiting then do
          let scan ← scan.argument globalSwitches false argument
          readFrom scan rest
        else .error .unknownCommand

/-- The invocation that a list of arguments spells. -/
def read (arguments : List String) : Except UsageStop Invocation := readFrom {} arguments

end Invocation
end ClusterVars
