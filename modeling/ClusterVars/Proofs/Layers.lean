import ClusterVars.Proofs.FinalValue

/-! Layers, one on top of the other: the layers of two lists are loaded one list after the other,
and every warning of a load is about an unknown name in one of its layers. -/
namespace ClusterVars
open Text

/-- The warning is about an unknown name in a text of one of these names. -/
def Notice.IgnoredIn (sources : List String) (n : Notice) : Prop :=
  ∃ location name, n = .ignored location name ∧ location.source ∈ sources

theorem Notice.IgnoredIn.mono {sources more : List String} {n : Notice} (included : sources ⊆ more)
    (ignored : n.IgnoredIn sources) : n.IgnoredIn more := by
  obtain ⟨location, name, same, member⟩ := ignored
  exact ⟨location, name, same, included member⟩

theorem Statement.source_of_mem_ofLines {source : String} {n : Nat} {ls : List (List Char)}
    {s : Statement} (member : s ∈ ofLines source n ls) : s.location.source = source := by
  simp only [ofLines, List.mem_filterMap, Option.map_eq_some_iff] at member
  obtain ⟨_, -, _, -, rfl⟩ := member
  rfl

namespace Bindings
variable {policy : Policy} {b after : Bindings} {layers : List Layer}

theorem addLayers_append (policy : Policy) (b : Bindings) (lower upper : List Layer) :
    b.addLayers policy (lower ++ upper) =
      b.addLayers policy lower >>= fun b => b.addLayers policy upper := by
  induction lower generalizing b with
  | nil => simp [addLayers]
  | cons layer lower ih => simp only [List.cons_append, addLayers, bind_assoc, ih]

theorem ignoredIn_of_mem_alerts_addText {source text : String}
    (added : (b.addText policy source text).result = .ok after) :
    ∀ n ∈ (b.addText policy source text).alerts, n.IgnoredIn [source] := by
  have verdict := verdict_addText policy b source text
  rw [Logged.failure?_eq_none.mpr ⟨after, added⟩] at verdict
  rw [verdict.of_none.2.2]
  intro n member
  obtain ⟨s, inLines, warned⟩ := List.mem_filterMap.mp member
  unfold Statement.warning? Assignment.warning? at warned
  split at warned
  · cases warned
    exact ⟨s.location, _, rfl, by simp [Statement.source_of_mem_ofLines inLines]⟩
  · contradiction

theorem ignoredIn_of_mem_alerts_addLayers
    (added : (b.addLayers policy layers).result = .ok after) :
    ∀ n ∈ (b.addLayers policy layers).alerts, n.IgnoredIn (layers.map (·.source)) := by
  induction layers generalizing b with
  | nil => simp [addLayers]
  | cons layer layers ih =>
    obtain ⟨middle, first, rest⟩ := Logged.bind_eq_ok added
    rw [addLayers, Logged.alerts_bind_of_ok first]
    intro n member
    rcases List.mem_append.mp member with here | later
    · unfold addLayer at first here
      split at first
      · contradiction
      · rename_i text readable
        rw [readable] at here
        exact (ignoredIn_of_mem_alerts_addText first n here).mono (by simp)
    · exact (ih rest n later).mono (by simp)

end Bindings

namespace Record
variable (policy : Policy) (layers : List Layer)

theorem result_ofLayers : (ofLayers policy layers).result =
    (Bindings.empty.addLayers policy layers).result.map ofBindings :=
  Logged.result_bind_pure _ _

theorem alerts_ofLayers : (ofLayers policy layers).alerts =
    (Bindings.empty.addLayers policy layers).alerts :=
  Logged.alerts_bind_pure _ _

end Record
end ClusterVars
