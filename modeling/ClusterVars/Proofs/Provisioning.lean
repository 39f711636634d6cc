import ClusterVars.Proofs.Rerendering

/-! Settings of a record that was rendered with the defaults filled in. The record sets every
option, so no base layer shows through it and the defaults find nothing left to fill; what is lost
on the way are the warnings about the files that it was rendered from. -/
namespace ClusterVars

theorem Record.Full.ofBindings_onto {r : Record} (full : r.Full) (b : Bindings) :
    Record.ofBindings (r.onto b) = r := by
  refine (Record.ofBindings_onto_eq_iff r b).mpr fun key _ => ?_
  obtain ⟨v, held⟩ := full key
  simp [held]

namespace FileTree
variable {t after : FileTree} {named : Option String} {config : Config} {files : List String}
  {verbose : Bool} {path : String}

theorem ignoredIn_of_mem_alerts {b upper : Bindings} {policy : Policy} {paths : List String}
    (added : (b.addLayers policy (paths.map t.layer)).result = .ok upper) :
    ∀ n ∈ (b.addLayers policy (paths.map t.layer)).alerts, n.IgnoredIn paths := by
  have sources : (paths.map t.layer).map (·.source) = paths := by
    simp [layer, Function.comp_def]
  have ignored := Bindings.ignoredIn_of_mem_alerts_addLayers added
  rwa [sources] at ignored

theorem delivery_provision {r : Record} (loaded : (t.loadConfig named).result = .ok config)
    (record : (Task.loadRecord config ((config.base ++ files).map t.layer)).result = .ok r)
    (verbose : Bool) (format : Option Format) :
    (t.delivery ⟨verbose, named, .provision files format none⟩).result =
        (Task.provide config format r).result ∧
      (t.delivery ⟨verbose, named, .provision files format none⟩).alerts =
        (Task.loadRecord config ((config.base ++ files).map t.layer)).alerts ++
          (Task.provide config format r).alerts := by
  obtain ⟨result, alerts⟩ := delivery_of_loadConfig loaded verbose (.provision files format none)
  rw [result, alerts, Task.answer_provision]
  exact ⟨Logged.result_bind_of_ok record _, Logged.alerts_bind_of_ok record _⟩

/-- The settings of a record that was rendered with the defaults and stored come out as those of the
files that it was rendered from, or fail as those do. The warnings are the same but for those about
unknown names in these files. -/
theorem provision_stored (loaded : (t.loadConfig named).result = .ok config)
    (printed : (t.outcome ⟨verbose, named, .render files true none⟩).exitCode = 0)
    (stored : t.Stored after named config path
      (t.outcome ⟨verbose, named, .render files true none⟩).stdout)
    (verbose : Bool) (format : Option Format) :
    let direct := t.outcome ⟨verbose, named, .provision files format none⟩
    let again := after.outcome ⟨verbose, named, .provision [path] format none⟩
    again.exitCode = direct.exitCode ∧ again.stdout = direct.stdout ∧
      again.report = direct.report ∧
      ∃ fromBase fromFiles fromSettings,
        direct.alerts = fromBase ++ fromFiles ++ fromSettings ∧
        again.alerts = fromBase ++ fromSettings ∧
        (∀ n ∈ fromBase, n.IgnoredIn config.base) ∧ (∀ n ∈ fromFiles, n.IgnoredIn files) ∧
        ∀ n ∈ fromSettings, Settings.IsExcess n := by
  intro direct again
  obtain ⟨lower, upper, filled, rendered, -, text⟩ := rendered_of_outcome loaded printed
  rw [text] at stored
  have done := rendered.filled
  rw [if_pos rfl] at done
  obtain ⟨record, warned⟩ := rendered.loadRecord
  obtain ⟨recordAgain, warnedAgain⟩ := stored.loadRecord rendered.valid rendered.base
  -- what was loaded below the stored record does not show through it
  rw [rendered.full.ofBindings_onto] at recordAgain
  obtain ⟨same, sameAlerts⟩ := Task.provide_filled done format
  obtain ⟨delivered, alerts⟩ := delivery_provision loaded record verbose format
  obtain ⟨deliveredAgain, alertsAgain⟩ :=
    delivery_provision (stored.loadConfig loaded) recordAgain verbose format
  have unwritten (path text : String) :
      (t.delivery ⟨verbose, named, .provision files format none⟩).result ≠
        .ok (.write path text) := by
    rw [delivered]
    exact Task.unwritten_provide path text
  have sameDelivery := deliveredAgain.trans (same.trans delivered.symm)
  obtain ⟨exitCode, stdout, report⟩ := outcome_same sameDelivery unwritten
  have fromBase : ∀ n ∈ (t.loadBase config).alerts, n.IgnoredIn config.base :=
    ignoredIn_of_mem_alerts rendered.base
  refine ⟨exitCode, stdout, report, _, _, _, ?_, ?_, fromBase,
    ignoredIn_of_mem_alerts rendered.files, Task.isExcess_of_provide done format⟩
  · rw [alerts_outcome, alerts, warned]
  · rw [alerts_outcome, alertsAgain, warnedAgain, sameAlerts]

/-- Unknown names in the base layer and in the file, and more control-plane nodes than nodes. The
record is stored in a directory that is empty. -/
theorem provision_stored_overlapping :
    let files := ofFiles
      [("vars.toml", some "[loader]\nunknown_options = \"warn\"\nbase = [\"/etc/base.rb\"]\n"),
        ("/etc/base.rb", some "$os = \"debian12\"\n$region = 1\n"),
        ("ci.rb", some "$num_instances = 2\n$kube_master_instances = 5\n$zone = 2\n")]
    let t : FileTree := { files with directories := [["tmp"]] }
    let config : Config := { unknownOptions := .warn, base := ["/etc/base.rb"] }
    let text := (t.outcome ⟨false, none, .render ["ci.rb"] true none⟩).stdout
    let after := t.put ["tmp", "out.rb"] text
    (t.loadConfig none).result = .ok config ∧
      (t.outcome ⟨false, none, .render ["ci.rb"] true none⟩).exitCode = 0 ∧
      t.Stored after none config "/tmp/out.rb" text ∧
      (t.outcome ⟨false, none, .provision ["ci.rb"] none none⟩).alerts =
        [.ignored ⟨"/etc/base.rb", 2⟩ "region", .ignored ⟨"ci.rb", 3⟩ "zone",
          .exceeds .kubeMasterInstances 5 2] ∧
      (after.outcome ⟨false, none, .provision ["/tmp/out.rb"] none none⟩).exitCode = 0 ∧
      (after.outcome ⟨false, none, .provision ["/tmp/out.rb"] none none⟩).stdout =
        (t.outcome ⟨false, none, .provision ["ci.rb"] none none⟩).stdout := by
  intro files t config text after
  have loaded : (t.loadConfig none).result = .ok config := by decide +kernel
  have printed : (t.outcome ⟨false, none, .render ["ci.rb"] true none⟩).exitCode = 0 := by
    decide +kernel
  have stored : t.Stored after none config "/tmp/out.rb" text := ⟨rfl, by decide +kernel⟩
  have direct : (t.outcome ⟨false, none, .provision ["ci.rb"] none none⟩).exitCode = 0 ∧
      (t.outcome ⟨false, none, .provision ["ci.rb"] none none⟩).alerts =
        [.ignored ⟨"/etc/base.rb", 2⟩ "region", .ignored ⟨"ci.rb", 3⟩ "zone",
          .exceeds .kubeMasterInstances 5 2] := by decide +kernel
  have same := provision_stored loaded printed stored false none
  exact ⟨loaded, printed, stored, direct.2, same.1.trans direct.1, same.2.1⟩

end FileTree
end ClusterVars
