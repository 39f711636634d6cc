import ClusterVars.Schema

/-! Values bound to names. Any name can be bound, to a value of any type; which names the schema
knows and which values fit them is decided elsewhere. -/
namespace ClusterVars

structure Bindings where
  value? : String → Option Value

namespace Bindings

@[ext] theorem ext {a b : Bindings} (same : ∀ name, a.value? name = b.value? name) : a = b := by
  cases a; cases b; simpa using funext same

def empty : Bindings := ⟨fun _ => none⟩

def isSet (b : Bindings) (name : String) : Bool := (b.value? name).isSome

/-- Binds the name to the value, or unbinds it when there is none. -/
def assign (b : Bindings) (name : String) (value : Option Value) : Bindings :=
  ⟨fun other => if other = name then value else b.value? other⟩

/-- Assigns only while the name is unset. -/
def fill (b : Bindings) (name : String) (value : Option Value) : Bindings :=
  if b.isSet name then b else b.assign name value

/-- The options of the schema that are set, in its order. -/
def entries (b : Bindings) : List (Key × Value) :=
  Key.all.filterMap fun key => (b.value? key.name).map (key, ·)

@[simp] theorem value?_empty (name : String) : empty.value? name = none := rfl

@[simp] theorem value?_assign (b : Bindings) (name other : String) (value : Option Value) :
    (b.assign name value).value? other = if other = name then value else b.value? other := rfl

theorem value?_fill (b : Bindings) (name other : String) (value : Option Value) :
    (b.fill name value).value? other =
      if other = name then (b.value? name).or value else b.value? other := by
  unfold fill isSet
  cases bound : b.value? name <;> by_cases same : other = name <;> simp [same, bound]

end Bindings
end ClusterVars
