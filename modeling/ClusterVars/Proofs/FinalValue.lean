import Mathlib
import ClusterVars.Proofs.Verdict

/-! The value that each option ends with. A load that succeeds is a fold over the assignments of
all layers in which every option goes its own way; the last `=` decides, or the first fill that
takes effect after it. -/
namespace ClusterVars
open Text
open Assignment (held? WellFormed)

/-- What an assignment to the option makes of its value. -/
def Key.step (key : Key) (value : Option Value) (a : Assignment) : Option Value :=
  match key.meaning? a.value, a.operator with
  | none, _ => value
  | some new, .assign => new
  | some new, .fill => value.or new

namespace Assignment
variable {policy : Policy} {a : Assignment} {b : Bindings}

theorem value?_act_of_unknown {name : String} (unknown : Key.ofName? name = none) :
    (a.act b).value? name = b.value? name := by
  have other := Key.name_ne_of_unknown unknown
  unfold act
  split
  · rfl
  · split <;> simp [Bindings.value?_fill, other]

theorem value?_act (key : Key) :
    (a.act b).value? key.name =
      if a.name = key.name then key.step (b.value? key.name) a else b.value? key.name := by
  by_cases same : a.name = key.name
  · have known : Key.ofName? a.name = some key := by rw [same, Key.ofName?_name]
    rw [if_pos same, act, known, Key.step]
    cases meaning : key.meaning? a.value with
    | none => simp [meaning]
    | some value => cases a.operator <;> simp [meaning, Bindings.value?_fill]
  · rw [if_neg same, act]
    cases known : Key.ofName? a.name with
    | none => rfl
    | some other =>
      have different : key.name ≠ other.name := by
        rw [Key.name_of_ofName? known]
        exact Ne.symm same
      cases meaning : other.meaning? a.value with
      | none => simp [meaning]
      | some value =>
        cases a.operator <;> simp [meaning, Bindings.value?_fill, different]

theorem value?_foldl_act_of_unknown {name : String} (unknown : Key.ofName? name = none)
    (as : List Assignment) (b : Bindings) : (as.foldl act b).value? name = b.value? name := by
  induction as generalizing b with
  | nil => rfl
  | cons a as ih => rw [List.foldl_cons, ih, value?_act_of_unknown unknown]

/-- Each option sees the assignments that name it and no others. -/
theorem value?_foldl_act (key : Key) (as : List Assignment) (b : Bindings) :
    (as.foldl act b).value? key.name =
      (as.filter (·.name = key.name)).foldl key.step (b.value? key.name) := by
  induction as generalizing b with
  | nil => rfl
  | cons a as ih =>
    rw [List.foldl_cons, ih, value?_act]
    by_cases same : a.name = key.name <;> simp [same]

end Assignment

/-! The end of a sequence of assignments to one option -/

/-- What fills make of an option that is unset: the first literal other than `nil` counts. -/
def FirstFill (key : Key) (fills : List Assignment) (value : Option Value) : Prop :=
  match fills.find? (·.value ≠ .nil) with
  | none => value = none
  | some a => ∃ v, key.kind.value? a.value = some v ∧ value = some v

/-- The value that assignments to an option end with, from the value at the start. -/
structure Final (key : Key) (start : Option Value) (as : List Assignment)
    (value : Option Value) : Prop where
  /-- The last `=` sets the option, and no later fill changes it. -/
  written : ∀ before last fills, as = before ++ last :: fills → last.operator = .assign →
    (∀ a ∈ fills, a.operator = .fill) → last.value ≠ .nil →
    ∃ v, key.kind.value? last.value = some v ∧ value = some v
  /-- The last `=` clears the option, and later fills set it again. -/
  cleared : ∀ before last fills, as = before ++ last :: fills → last.operator = .assign →
    (∀ a ∈ fills, a.operator = .fill) → last.value = .nil → FirstFill key fills value
  filled : (∀ a ∈ as, a.operator = .fill) → start = none → FirstFill key as value
  kept : (∀ a ∈ as, a.operator = .fill) → ∀ v, start = some v → value = some v

namespace Key
variable {policy : Policy} {key : Key} {as : List Assignment}

/-- The literals of all these assignments mean something to the option. -/
def Accepts (key : Key) (as : List Assignment) : Prop :=
  ∀ a ∈ as, a.value = .nil ∨ ∃ v, key.kind.value? a.value = some v

theorem step_of_nil {a : Assignment} (clears : a.value = .nil) (value : Option Value) :
    key.step value a = if a.operator = .assign then none else value := by
  cases operator : a.operator <;> simp [step, meaning?, clears, operator]

theorem step_of_value {a : Assignment} {v : Value} (solid : a.value ≠ .nil)
    (coerced : key.kind.value? a.value = some v) (value : Option Value) :
    key.step value a = if a.operator = .assign then some v else value.or (some v) := by
  cases operator : a.operator <;> simp [step, meaning?, solid, coerced, operator]

theorem foldl_step_of_set (fills : ∀ a ∈ as, a.operator = .fill) (v : Value) :
    as.foldl key.step (some v) = some v := by
  induction as with
  | nil => rfl
  | cons a as ih =>
    have stays : key.step (some v) a = some v := by
      simp only [step, fills a (by simp)]
      cases key.meaning? a.value <;> rfl
    rw [List.foldl_cons, stays, ih fun a member => fills a (by simp [member])]

theorem foldl_step_of_unset (accepts : key.Accepts as) (fills : ∀ a ∈ as, a.operator = .fill) :
    FirstFill key as (as.foldl key.step none) := by
  induction as with
  | nil => rfl
  | cons a as ih =>
    have isFill : a.operator ≠ .assign := by simp [fills a (by simp)]
    have later : ∀ a ∈ as, a.operator = .fill := fun a member => fills a (by simp [member])
    by_cases clears : a.value = .nil
    · have others := ih (fun a member => accepts a (by simp [member])) later
      simpa [FirstFill, clears, step_of_nil clears, isFill] using others
    · obtain ⟨v, coerced⟩ := (accepts a (by simp)).resolve_left clears
      have set : (a :: as).foldl key.step none = some v := by
        rw [List.foldl_cons, step_of_value clears coerced, if_neg isFill, Option.none_or,
          foldl_step_of_set later]
      simpa [FirstFill, clears, set] using coerced

theorem final_foldl_step (accepts : key.Accepts as) (start : Option Value) :
    Final key start as (as.foldl key.step start) where
  written := by
    rintro before last fills rfl isAssign later solid
    obtain ⟨v, coerced⟩ := (accepts last (by simp)).resolve_left solid
    refine ⟨v, coerced, ?_⟩
    rw [List.foldl_append, List.foldl_cons, step_of_value solid coerced, if_pos isAssign,
      foldl_step_of_set later]
  cleared := by
    rintro before last fills rfl isAssign later clears
    rw [List.foldl_append, List.foldl_cons, step_of_nil clears, if_pos isAssign]
    exact foldl_step_of_unset (fun a member => accepts a (by simp [member])) later
  filled := by
    rintro fills rfl
    exact foldl_step_of_unset accepts fills
  kept := by
    rintro fills v rfl
    exact foldl_step_of_set fills v

end Key

namespace Layer

/-- The assignments of a layer, in the order of its lines. -/
def assignments (layer : Layer) : List Assignment :=
  match layer.text with
  | .error _ => []
  | .ok text => (linesOf text).filterMap held?

end Layer

/-- The assignments of all layers that name the option, in order. -/
def assignmentsTo (key : Key) (layers : List Layer) : List Assignment :=
  (layers.flatMap Layer.assignments).filter (·.name = key.name)

namespace Bindings
variable {policy : Policy} {b after : Bindings} {source text : String} {layers : List Layer}

/-- A text that is added without failure has no fault and no refusal, and changes the bindings by
its assignments. -/
theorem addText_eq_ok (added : (b.addText policy source text).result = .ok after) :
    WellFormed (linesOf text) ∧ (∀ line ∈ linesOf text, refusalIn? policy line = none) ∧
      after = ((linesOf text).filterMap held?).foldl Assignment.act b := by
  have verdict := verdict_addText policy b source text
  rw [Logged.failure?_eq_none.mpr ⟨after, added⟩] at verdict
  obtain ⟨wellFormed, unrefused, -⟩ := verdict.of_none
  rw [(addText_of_unrefused b source wellFormed unrefused).1] at added
  exact ⟨wellFormed, unrefused, (Except.ok.inj added).symm⟩

/-- Layers that are added without failure can all be read, have no fault and no refusal, and change
the bindings by their assignments. -/
theorem addLayers_eq_ok (folded : (b.addLayers policy layers).result = .ok after) :
    (∀ layer ∈ layers, ∃ text, layer.text = .ok text ∧ WellFormed (linesOf text)) ∧
      (∀ a ∈ layers.flatMap Layer.assignments, a.refusal? policy = none) ∧
      after = (layers.flatMap Layer.assignments).foldl Assignment.act b := by
  induction layers generalizing b with
  | nil => simpa using (Except.ok.inj folded).symm
  | cons layer layers ih =>
    obtain ⟨middle, first, rest⟩ := Logged.bind_eq_ok folded
    obtain ⟨laterWellFormed, laterUnrefused, rfl⟩ := ih rest
    cases readable : layer.text with
    | error cause => simp [addLayer, readable, Logged.fail] at first
    | ok text =>
      rw [addLayer, readable] at first
      obtain ⟨wellFormed, unrefused, rfl⟩ := addText_eq_ok first
      have held : layer.assignments = (linesOf text).filterMap held? := by
        rw [Layer.assignments, readable]
      refine ⟨by simpa using ⟨⟨text, readable, wellFormed⟩, laterWellFormed⟩, ?_,
        by rw [List.flatMap_cons, List.foldl_append, held]⟩
      intro a member
      rw [List.flatMap_cons, List.mem_append, held] at member
      rcases member with here | later
      · obtain ⟨line, inLines, holds⟩ := List.mem_filterMap.mp here
        simpa [refusalIn?, holds] using unrefused line inLines
      · exact laterUnrefused a later

/-- Each option of the schema ends with the value that the assignments to it leave, and any other
name keeps what it is bound to. -/
theorem final_addLayers (folded : (b.addLayers policy layers).result = .ok after) :
    (∀ key : Key,
      Final key (b.value? key.name) (assignmentsTo key layers) (after.value? key.name)) ∧
    ∀ name, Key.ofName? name = none → after.value? name = b.value? name := by
  obtain ⟨-, unrefused, rfl⟩ := addLayers_eq_ok folded
  refine ⟨fun key => ?_, fun name unknown => Assignment.value?_foldl_act_of_unknown unknown _ b⟩
  rw [Assignment.value?_foldl_act]
  refine Key.final_foldl_step (fun a member => ?_) _
  obtain ⟨inLayers, named⟩ := List.mem_filter.mp member
  have known : Key.ofName? a.name = some key := by
    rw [of_decide_eq_true named, Key.ofName?_name]
  exact Assignment.fits_of_unrefused known (unrefused a inLayers)

/-- A base layer that clears an option again, and a layer on top of it that fills. -/
theorem final_addLayers_refilled :
    let layers : List Layer :=
      [⟨"base.rb", .ok "$vm_cpus = 4\n$vm_cpus = nil # again\n$vm_cpus ||= nil\n"⟩,
        ⟨"ci.rb", .ok "$vm_cpus ||= 8\n$os ||= \"debian12\"\n$vm_cpus ||= 2\n"⟩]
    ∃ after, ((empty.assign "os" (some (.text "opensuse"))).addLayers .reject layers).result =
        .ok after ∧
      after.value? "vm_cpus" = some (.count 8) ∧ after.value? "os" = some (.text "opensuse") := by
  intro layers
  obtain ⟨after, folded⟩ := Logged.failure?_eq_none.mp
    (by cbv : ((empty.assign "os" (some (.text "opensuse"))).addLayers .reject layers).failure? =
      none)
  obtain ⟨final, -⟩ := final_addLayers folded
  obtain ⟨v, coerced, cpus⟩ : FirstFill .vmCpus _ _ := (final .vmCpus).cleared
    [⟨"vm_cpus", .assign, .integer ⟨false, ['4']⟩⟩] ⟨"vm_cpus", .assign, .nil⟩
    [⟨"vm_cpus", .fill, .nil⟩, ⟨"vm_cpus", .fill, .integer ⟨false, ['8']⟩⟩,
      ⟨"vm_cpus", .fill, .integer ⟨false, ['2']⟩⟩] (by cbv) rfl (by simp) rfl
  have eight : Key.vmCpus.kind.value? (.integer ⟨false, ['8']⟩) = some (.count 8) := by cbv
  have os : assignmentsTo .os layers = [⟨"os", .fill, .text "debian12"⟩] := by cbv
  refine ⟨after, folded, ?_, (final .os).kept (by simp [os]) _ rfl⟩
  rw [← Option.some.inj (coerced.symm.trans eight)]
  exact cpus

end Bindings
end ClusterVars
