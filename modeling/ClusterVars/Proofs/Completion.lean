import ClusterVars.Proofs.Misfits
import ClusterVars.Proofs.Refilling

/-! The completed record, field by field: what is set stays, the given defaults stand in for what is
not, and the counts of roles and forks follow from the number of instances. Filling a record comes
to exactly this when the defaults fit their options. Otherwise it fails at the first of them that
does not, whether or not the record would have needed it. -/
namespace ClusterVars
open Text
open Assignment (written)

theorem dropReturn_written (operator : Operator) (entry : Key × Value) :
    dropReturn (written entry.1.name.toList operator entry.2) =
      written entry.1.name.toList operator entry.2 := by
  obtain ⟨start, last, ending, visible⟩ := entry.2.visible_chars.2
  have noReturn : last ≠ '\r' := by
    rintro rfl
    exact absurd visible (by decide)
  rw [dropReturn, if_neg]
  rw [written, ending]
  simp [List.getLast?_cons, List.getLast?_append, noReturn]

namespace Defaults
variable {d : Defaults} {r : Record}

/-- The defaults are written one on each line. -/
theorem linesOf_render (d : Defaults) :
    linesOf d.render = d.entries.map fun entry => written entry.1.name.toList .fill entry.2 := by
  rw [render_eq, linesOf_writtenText .fill d.entries (by simp), writtenLines]
  simp [Function.comp_def, dropReturn_written]

/-- The record with every gap filled. -/
def completed (d : Defaults) (r : Record) : Record :=
  let instances := r.numInstances.getD d.numInstances
  { os := some (r.os.getD d.os)
    vmCpus := some (r.vmCpus.getD d.vmCpus)
    vmMemory := some (r.vmMemory.getD d.vmMemory)
    numInstances := some instances
    kubeMasterInstances := some (r.kubeMasterInstances.getD (min instances 2))
    etcdInstances := some (r.etcdInstances.getD (min instances 3))
    networkPlugin := some (r.networkPlugin.getD d.networkPlugin)
    boxCheckUpdate := some (r.boxCheckUpdate.getD d.boxCheckUpdate)
    libvirtVolumeCache := some (r.libvirtVolumeCache.getD d.libvirtVolumeCache)
    numForks := some (r.numForks.getD instances)
    playbook := some (r.playbook.getD d.playbook) }

theorem value?_completed (d : Defaults) (r : Record) (key : Key) :
    (d.completed r).value? key = (r.value? key).or
      ((d.given? key).or (derived? (r.numInstances.getD d.numInstances) key)) := by
  have settled {α : Type} (o : Option α) (a : α) (wrap : α → Value) :
      (some (o.getD a)).map wrap = (o.map wrap).or (some (wrap a)) := by
    cases o <;> rfl
  cases key <;> exact settled _ _ _

theorem full_completed (d : Defaults) (r : Record) : (d.completed r).Full := by
  intro key
  cases key <;> exact ⟨_, rfl⟩

theorem fill_of_misfit {i : Nat} {entry : Key × Value} (first : FirstAt misfit? d.entries i entry)
    (r : Record) :
    (d.fill r).result = .error (.mismatch ⟨source, i + 1⟩ entry.1 entry.2.literal) := by
  have noComments : ∀ line ∈ ([] : List (List Char)), '\n' ∉ line := by simp
  have refused := Bindings.addText_writtenText_of_misfit .fill noComments first .reject
    r.toBindings source
  rw [List.length_nil, Nat.zero_add, ← render_eq] at refused
  exact Logged.result_bind_of_error refused _

theorem fill_of_valid (valid : d.Valid) (r : Record) :
    (d.fill r).result = .ok (d.completed r) := by
  obtain ⟨filled, done⟩ := exists_fill valid r
  have same : filled = d.completed r := Record.ext_value? fun key => by
    rw [value?_fill done, value?_completed]
  rw [done, same]

theorem eq_completed_of_fill {filled : Record} (done : (d.fill r).result = .ok filled) :
    filled = d.completed r :=
  Except.ok.inj (done.symm.trans (fill_of_valid (valid_of_fill done) r))

/-- Filling comes to the completed record exactly when all given defaults are admitted, whatever the
record has set itself. Otherwise the first that is not is reported on the line that it is written
on. -/
theorem outcome_fill (d : Defaults) (r : Record) :
    linesOf d.render = d.entries.map (fun (key, v) => written key.name.toList .fill v) ∧
      (∀ filled, (d.fill r).result = .ok filled ↔ d.Valid ∧ filled = d.completed r) ∧
      (∀ failure, (d.fill r).result = .error failure ↔
        ∃ i entry, FirstAt misfit? d.entries i entry ∧
          failure = .mismatch ⟨"vagrant defaults", i + 1⟩ entry.1 entry.2.literal) ∧
      (d.completed r).Full := by
  refine ⟨linesOf_render d, fun filled => ?_, fun failure => ?_, full_completed d r⟩
  · constructor
    · intro done
      exact ⟨valid_of_fill done, eq_completed_of_fill done⟩
    · rintro ⟨valid, rfl⟩
      exact fill_of_valid valid r
  · constructor
    · intro failed
      rcases misfit?_or_admits d.entries with ⟨i, entry, first⟩ | valid
      · exact ⟨i, entry, first, Except.error.inj (failed.symm.trans (fill_of_misfit first r))⟩
      · exact absurd (failed.symm.trans (fill_of_valid valid r)) (by simp)
    · rintro ⟨i, entry, first, rfl⟩
      exact fill_of_misfit first r

end Defaults
end ClusterVars
