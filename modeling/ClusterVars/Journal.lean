import ClusterVars.Failure
import ClusterVars.Text.Controls
import ClusterVars.Text.Visible

/-! Notices that an operation leaves behind, and computations that keep them. A computation that
fails keeps the notices up to its failure. -/
namespace ClusterVars
open Text

inductive Level
  | error
  | warn
  | info
  | debug
  deriving DecidableEq, Repr

namespace Level

/-- The gravest level has rank one. -/
def rank : Level → Nat
  | .error => 1
  | .warn => 2
  | .info => 3
  | .debug => 4

/-- No level has this rank or a lower one. -/
def off : Nat := 0

/-- Every level has a lower rank. -/
def trace : Nat := 5

def name : Level → String
  | .error => "ERROR"
  | .warn => "WARN"
  | .info => "INFO"
  | .debug => "DEBUG"

/-- The rank that a name, in any case, or a number stands for. -/
def rankOfName? (name : List Char) : Option Nat :=
  let digits := if name.head? = some '+' then name.tail else name
  if !digits.isEmpty && digits.all Char.isDigit then
    let n := Nat.ofDigitChars 10 digits 0
    if n ≤ trace then some n else none
  else
    match (String.ofList name).toLower with
    | "off" => some off
    | "error" => some Level.error.rank
    | "warn" => some Level.warn.rank
    | "info" => some Level.info.rank
    | "debug" => some Level.debug.rank
    | "trace" => some trace
    | _ => none

end Level

inductive Notice
  /-- A statement on a name outside the schema was skipped. -/
  | ignored (location : Location) (name : String)
  /-- An option was set already, so the statement had no effect. -/
  | kept (location : Location) (key : Key)
  | resolved (source : String) (count : Nat)
  | defaulted (key : Key) (count : Nat)
  /-- A role has more nodes than there are. -/
  | exceeds (key : Key) (role count : Nat)
  | written (path : String)
  | configAbsent
  | configParsed
  | configUnreadable (path : String)
  | configInvalid (path : String)
  | layers (count : Nat)
  | loadFailed
  | listed (keys : List Key)
  deriving DecidableEq, Repr

namespace Notice

def level : Notice → Level
  | .configUnreadable _ | .configInvalid _ | .loadFailed => .error
  | .ignored _ _ | .exceeds _ _ _ => .warn
  | .written _ | .configAbsent | .configParsed | .layers _ | .listed _ => .info
  | .kept _ _ | .resolved _ _ | .defaulted _ _ => .debug

def isWarning (n : Notice) : Bool := n.level.rank ≤ Level.warn.rank

def message : Notice → String
  | .ignored location name => location.text ++ ": ignoring unknown option $" ++ name
  | .kept location key => location.text ++ ": $" ++ key.name ++ " already set, keeping it"
  | .resolved source count =>
    "variables resolved source=" ++ visible source ++ " options=" ++ toString count
  | .defaulted key count => "$" ++ key.name ++ " defaulted to " ++ toString count
  | .exceeds key role count =>
    key.name ++ " (" ++ toString role ++ ") exceeds " ++ Key.numInstances.name ++ " ("
      ++ toString count ++ ")"
  | .written path => "settings written to " ++ path
  | .configAbsent => "no vars.toml, using built-in defaults"
  | .configParsed => "config file parsed"
  | .configUnreadable path => "Could not read config file " ++ path
  | .configInvalid path => "Could not parse config file " ++ path
  | .layers count => "loading " ++ toString count ++ " layer(s)"
  | .loadFailed => "✗ Could not load variables"
  | .listed keys => "resolved [" ++ ", ".intercalate (keys.map fun k => visible k.name) ++ "]"

/-- The part of the program that leaves the notice, by which a log filter can select it. -/
def part : Notice → String
  | .ignored _ _ | .kept _ _ | .resolved _ _ => "common::loader"
  | .defaulted _ _ => "vagrant::defaults"
  | .exceeds _ _ _ | .written _ => "vagrant::settings"
  | .configAbsent | .configParsed | .configUnreadable _ | .configInvalid _ => "vars_runner::config"
  | .layers _ | .loadFailed => "vars_runner::commands"
  | .listed _ => "vars_runner::commands::check"

/-- The fields of the notice, by which a log filter can select it. -/
def fields : Notice → List String
  | .resolved _ _ => ["message", "source", "options"]
  | _ => ["message"]

/-- The notice as a line of the log. -/
def line (n : Notice) : String := n.level.name ++ " " ++ spellControls n.message

end Notice

/-- A result with the notices that were left on the way to it. -/
structure Logged (α : Type) where
  notices : List Notice
  result : Except Failure α

namespace Logged

def bind {α β : Type} (x : Logged α) (f : α → Logged β) : Logged β :=
  match x.result with
  | .error failure => ⟨x.notices, .error failure⟩
  | .ok a => ⟨x.notices ++ (f a).notices, (f a).result⟩

instance : Monad Logged where
  pure a := ⟨[], .ok a⟩
  bind := bind

def note (n : Notice) : Logged Unit := ⟨[n], .ok ()⟩

def fail {α : Type} (failure : Failure) : Logged α := ⟨[], .error failure⟩

def ofExcept {α : Type} (result : Except Failure α) : Logged α := ⟨[], result⟩

/-- The warnings and errors among the notices, as messages. -/
def warnings {α : Type} (x : Logged α) : List String :=
  (x.notices.filter Notice.isWarning).map Notice.message

variable {α β : Type}

@[simp] theorem result_pure (a : α) : (pure a : Logged α).result = .ok a := rfl

@[simp] theorem notices_pure (a : α) : (pure a : Logged α).notices = [] := rfl

@[simp] theorem result_bind (x : Logged α) (f : α → Logged β) :
    (x >>= f).result = x.result.bind fun a => (f a).result := by
  cases held : x.result <;> simp [Bind.bind, bind, Except.bind, held]

theorem bind_of_ok {x : Logged α} {a : α} (succeeded : x.result = .ok a) (f : α → Logged β) :
    x >>= f = ⟨x.notices ++ (f a).notices, (f a).result⟩ := by
  simp [Bind.bind, bind, succeeded]

theorem bind_of_error {x : Logged α} {failure : Failure} (failed : x.result = .error failure)
    (f : α → Logged β) : x >>= f = ⟨x.notices, .error failure⟩ := by
  simp [Bind.bind, bind, failed]

instance : LawfulMonad Logged := LawfulMonad.mk' Logged
  (by rintro α ⟨notices, result⟩; cases result <;> simp [Functor.map, bind])
  (by intro α β a f; simp [Bind.bind, Pure.pure, bind])
  (by
    rintro α β γ ⟨notices, result⟩ f g
    cases result with
    | error failure => rfl
    | ok a => cases held : (f a).result <;> simp [Bind.bind, bind, held])

end Logged
end ClusterVars
