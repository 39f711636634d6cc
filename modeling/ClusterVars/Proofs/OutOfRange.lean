import ClusterVars.Proofs.Documents
import ClusterVars.Proofs.Topology

/-! Numbers that a format has no integer for. Records hold counts of any size, while options and
defaults admit counts that every format can write; so a document cannot be written for a count that
the record itself has set, and for no other. -/
namespace ClusterVars
open Text

theorem Toml.fits_eq_false_iff {v : Value} :
    fits v = false ↔ ∃ n, v = .count n ∧ maxInteger < n := by
  cases v <;> simp [fits]

namespace Document
variable {d : Document} {format : Format} {failure : Failure}

/-- Some field holds a number above the limit. -/
def HasCountAbove (limit : Nat) (d : Document) : Prop :=
  ∃ field ∈ d.allFields, ∃ n, field.2 = .count n ∧ limit < n

theorem write?_eq_none_iff : Toml.write? d = none ↔ d.HasCountAbove Toml.maxInteger := by
  simp only [HasCountAbove, ← Toml.fits_eq_false_iff, Toml.write?]
  by_cases all : d.allFields.all (fun field => Toml.fits field.2) = true
  · have none : ¬ ∃ field ∈ d.allFields, Toml.fits field.2 = false := by
      rintro ⟨field, member, large⟩
      exact absurd (List.all_eq_true.mp all field member) (Bool.eq_false_iff.mp large)
    simp only [all, if_true, none, reduceCtorEq]
  · have some : ∃ field ∈ d.allFields, Toml.fits field.2 = false := by
      simpa using all
    simp only [all, Bool.false_eq_true, if_false, some]

/-- Writing fails for a number that the format has no integer for, and for nothing else. -/
theorem write_eq_error_iff : d.write format = .error failure ↔
    failure = .outOfRange ∧ format = .toml ∧ d.HasCountAbove Toml.maxInteger := by
  cases format with
  | yaml | json => simp [write]
  | toml =>
    rw [← write?_eq_none_iff, write]
    cases Toml.write? d <;> simp [eq_comm]

end Document

namespace Record
variable {limit : Nat} {r : Record}

/-- Some option is set to a count above the limit. -/
def HasCountAbove (limit : Nat) (r : Record) : Prop :=
  ∃ key n, r.value? key = some (.count n) ∧ limit < n

theorem hasCountAbove_document : r.document.HasCountAbove limit ↔ r.HasCountAbove limit := by
  constructor
  · rintro ⟨field, member, n, held, above⟩
    obtain ⟨⟨key, v⟩, inEntries, rfl⟩ := List.mem_map.mp member
    cases held
    exact ⟨key, n, mem_entries.mp inEntries, above⟩
  · rintro ⟨key, n, set, above⟩
    have inEntries : (key, Value.count n) ∈ r.entries := mem_entries.mpr set
    exact ⟨(key.name, .count n), List.mem_map.mpr ⟨_, inEntries, rfl⟩, n, rfl, above⟩

/-- The options that take counts. -/
theorem hasCountAbove_iff : r.HasCountAbove limit ↔
    ∃ n, some n ∈ [r.numInstances, r.kubeMasterInstances, r.etcdInstances, r.vmCpus, r.vmMemory,
      r.numForks] ∧ limit < n := by
  constructor
  · rintro ⟨key, n, set, above⟩
    refine ⟨n, ?_, above⟩
    cases key <;> simp_all [value?]
  · rintro ⟨n, member, above⟩
    simp only [List.mem_cons, List.not_mem_nil, or_false] at member
    rcases member with set | set | set | set | set | set
    · exact ⟨.numInstances, n, by simp [value?, ← set], above⟩
    · exact ⟨.kubeMasterInstances, n, by simp [value?, ← set], above⟩
    · exact ⟨.etcdInstances, n, by simp [value?, ← set], above⟩
    · exact ⟨.vmCpus, n, by simp [value?, ← set], above⟩
    · exact ⟨.vmMemory, n, by simp [value?, ← set], above⟩
    · exact ⟨.numForks, n, by simp [value?, ← set], above⟩

end Record

namespace Defaults
variable {limit : Nat} {d : Defaults} {r filled : Record}

theorem le_of_given? (valid : d.Valid) {key : Key} {n : Nat}
    (given : d.given? key = some (.count n)) : n ≤ maxCount := by
  have admitted := valid _ (mem_entries given)
  generalize key.kind = kind at admitted
  cases kind with
  | count => exact admitted.2
  | identifier | path | choice | flag => exact admitted.elim

theorem le_of_derived? {instances n : Nat} {key : Key}
    (derived : derived? instances key = some (.count n)) : n ≤ instances := by
  cases key <;> cases derived
  case kubeMasterInstances | etcdInstances => exact Nat.min_le_left _ _
  case numForks => exact Nat.le_refl _

theorem above_instances (room : maxCount ≤ limit) (valid : d.Valid)
    (above : limit < r.numInstances.getD d.numInstances) :
    ∃ n, r.numInstances = some n ∧ limit < n := by
  cases set : r.numInstances with
  | some n => exact ⟨n, rfl, by simpa [set] using above⟩
  | none =>
    have given : d.given? .numInstances = some (.count d.numInstances) := rfl
    have small := le_of_given? valid given
    rw [set, Option.getD_none] at above
    omega

/-- Filling gives no count above a limit that leaves room for every count that an option admits. -/
theorem hasCountAbove_fill (room : maxCount ≤ limit) (done : (d.fill r).result = .ok filled) :
    filled.HasCountAbove limit ↔ r.HasCountAbove limit := by
  have valid := valid_of_fill done
  constructor
  · rintro ⟨key, n, held, above⟩
    rw [value?_fill done] at held
    cases set : r.value? key with
    | some v =>
      rw [set, Option.some_or] at held
      exact ⟨key, n, set.trans held, above⟩
    | none =>
      rw [set, Option.none_or] at held
      cases given : d.given? key with
      | some v =>
        rw [given, Option.some_or] at held
        have small := le_of_given? valid (given.trans held)
        omega
      | none =>
        rw [given, Option.none_or] at held
        obtain ⟨m, instances, large⟩ :=
          above_instances room valid (Nat.lt_of_lt_of_le above (le_of_derived? held))
        exact ⟨.numInstances, m, by simp [Record.value?, instances], large⟩
  · rintro ⟨key, n, set, above⟩
    exact ⟨key, n, by rw [value?_fill done, set, Option.some_or], above⟩

end Defaults

namespace Settings
variable {limit : Nat} {filled : Record} {s : Settings}

/-- The document of settings shows the counts of the record that they were made of. -/
theorem hasCountAbove_document (full : filled.Full) (made : (ofFilled filled).result = .ok s) :
    s.document.HasCountAbove limit ↔ filled.HasCountAbove limit := by
  obtain ⟨-, rfl⟩ := ofFilled_eq_ok full made
  rw [Record.hasCountAbove_iff]
  simp [Document.HasCountAbove, document, Document.allFields]

/-- A document of a record cannot be written in TOML when a count of the record is above the
format's limit, and it can be written in all other cases. The same goes for the settings of a
record: what the defaults give is never above the limit, and what is derived only where the record
itself is. -/
theorem outcome_write (r : Record) (d : Defaults) (format : Format) :
    (∀ failure, r.document.write format = .error failure ↔
        failure = .outOfRange ∧ format = .toml ∧
          ∃ key n, r.value? key = some (.count n) ∧ Toml.maxInteger < n) ∧
      ∀ s, (build r d).result = .ok s →
        (∀ failure, s.document.write format = .error failure ↔
          failure = .outOfRange ∧ format = .toml ∧
            ∃ n, some n ∈ [r.numInstances, r.kubeMasterInstances, r.etcdInstances, r.vmCpus,
              r.vmMemory, r.numForks] ∧ Toml.maxInteger < n) ∧
        (∀ key n, d.given? key = some (.count n) → n ≤ Toml.maxInteger) ∧
        (r.numForks = none → Toml.maxInteger < s.provisioning.forks →
          ∃ n, r.numInstances = some n ∧ Toml.maxInteger < n) := by
  have room : maxCount ≤ Toml.maxInteger := by decide
  refine ⟨fun failure => ?_, fun s built => ?_⟩
  · rw [Document.write_eq_error_iff, Record.hasCountAbove_document, Record.HasCountAbove]
  · obtain ⟨filled, done, made⟩ := Logged.bind_eq_ok built
    have valid := Defaults.valid_of_fill done
    have full := Defaults.full_fill done
    refine ⟨fun failure => ?_, fun key n given => ?_, fun derived above => ?_⟩
    · rw [Document.write_eq_error_iff, hasCountAbove_document full made,
        Defaults.hasCountAbove_fill room done, Record.hasCountAbove_iff]
    · exact (Defaults.le_of_given? valid given).trans room
    · refine Defaults.above_instances room valid ?_
      obtain ⟨-, rfl⟩ := ofFilled_eq_ok full made
      have forks : s.provisioning.forks = r.numForks.getD (r.numInstances.getD d.numInstances) :=
        Option.some.inj (congrArg Record.numForks (Defaults.eq_completed_of_fill done))
      rw [derived, Option.getD_none] at forks
      rwa [← forks]

/-- A number of forks that is derived from too many instances. -/
theorem outcome_write_derived :
    let r : Record := { numInstances := some (Toml.maxInteger + 1) }
    ∃ s, (build r {}).result = .ok s ∧ r.numForks = none ∧
      s.provisioning.forks = Toml.maxInteger + 1 ∧ s.document.write .toml = .error .outOfRange ∧
      ∀ failure, s.document.write .json ≠ .error failure := by
  intro r
  have done := Defaults.fill_of_valid Defaults.valid_builtIn r
  obtain ⟨s, made, forks⟩ : ∃ s, (ofFilled (Defaults.completed {} r)).result = .ok s ∧
      s.provisioning.forks = Toml.maxInteger + 1 := ⟨_, rfl, rfl⟩
  have built : (build r {}).result = .ok s := (Logged.result_bind_of_ok done _).trans made
  obtain ⟨fails, -⟩ := (outcome_write r {} .toml).2 s built
  obtain ⟨failsJson, -⟩ := (outcome_write r {} .json).2 s built
  refine ⟨s, built, rfl, forks, ?_, fun failure failed => ?_⟩
  · exact (fails _).mpr ⟨rfl, rfl, _, List.mem_cons_self, Nat.lt_succ_self _⟩
  · exact absurd ((failsJson failure).mp failed).2.1 (by decide)

end Settings
end ClusterVars
