import ClusterVars.Proofs.Effects

/-! Base layers of a configuration against files on the command line. A run knows its layers by
their paths and their order only, so it does not matter which of the two named them. -/
namespace ClusterVars

/-- A layer that a configuration file names, as seen from where the program runs. -/
def Config.layerPath (file entry : String) : String :=
  if Path.isAbsolute entry ∨ Path.parent file = "" then entry
  else Path.join (Path.parent file) entry

theorem Config.base_under (file : String) (config : Config) :
    (config.under file).base = config.base.map (layerPath file) := by
  refine List.map_congr_left fun entry _ => ?_
  unfold layerPath
  split
  · rename_i stays
    simp [Path.join, or_comm, stays]
  · rfl

namespace Task

/-- The task with more files before its own. -/
def behind (paths : List String) : Task → Task
  | .check files => .check (paths ++ files)
  | .render files defaults format => .render (paths ++ files) defaults format
  | .provision files format output => .provision (paths ++ files) format output
  | .options => .options

theorem layerPaths_behind (config : Config) (task : Task) :
    (task.behind config.base).layerPaths { config with base := [] } = task.layerPaths config := by
  cases task <;> rfl

/-- Only `check` tells the files of its task from the base layers. -/
theorem answer_behind (config : Config) (layers : List Layer) {task : Task}
    (unlisted : ∀ files, task ≠ .check files) :
    (task.behind config.base).answer { config with base := [] } layers =
      task.answer config layers := by
  cases task with
  | check files => exact absurd rfl (unlisted files)
  | render | provision | options => rfl

theorem alerts_answer_behind (config : Config) (layers : List Layer) (task : Task) :
    ((task.behind config.base).answer { config with base := [] } layers).alerts =
      (task.answer config layers).alerts := by
  cases task with
  | check files =>
    have silent (files : List String) (r : Record) : (count files r).alerts = [] := rfl
    have same : loadRecord { config with base := [] } layers = loadRecord config layers := rfl
    rw [behind, answer_check, answer_check, same]
    cases loaded : (loadRecord config layers).result with
    | error failure => rw [Logged.alerts_bind_of_error loaded, Logged.alerts_bind_of_error loaded]
    | ok r => rw [Logged.alerts_bind_of_ok loaded, Logged.alerts_bind_of_ok loaded, silent, silent]
  | render files defaults format => rw [answer_behind config layers (by simp)]
  | provision files format output => rw [answer_behind config layers (by simp)]
  | options => rfl

/-- What is shown is the same but for the files: `check` repeats those of its task. -/
def ShowsBehind (base : List String) (here there : Outcome) : Task → Prop
  | .check files => here.exitCode = 0 →
      ∃ count, here.stdout = resolved count files ∧ there.stdout = resolved count (base ++ files)
  | .render _ _ _ | .provision _ _ _ | .options => there.stdout = here.stdout

end Task

namespace FileTree

/-- The trees have the same files and directories, and hold the same at these paths. -/
structure Alike (t u : FileTree) (paths : List String) : Prop where
  workingDirectory : u.workingDirectory = t.workingDirectory
  directories : ∀ names, u.isDirectory names = t.isDirectory names
  files : ∀ names, u.isFile names = t.isFile names
  contents : ∀ path ∈ paths, u.read path = t.read path

/-- The same file was changed in the same way, or nothing was. -/
def SameChange (t after u afterThere : FileTree) : Prop :=
  (after = t ∧ afterThere = u) ∨
    ∃ names text, after = t.put names text ∧ afterThere = u.put names text

namespace Alike
variable {t u : FileTree} {paths : List String}

theorem follow (alike : t.Alike u paths) (names segments : List String) :
    u.follow names segments = t.follow names segments := by
  induction segments generalizing names with
  | nil => rfl
  | cons name rest ih => simp only [FileTree.follow, alike.directories, alike.files, ih]

theorem followPath (alike : t.Alike u paths) (path : String) (segments : List String) :
    u.followPath path segments = t.followPath path segments := by
  simp only [FileTree.followPath, start, alike.workingDirectory, alike.follow]

theorem write (alike : t.Alike u paths) (path text : String) :
    (∃ cause, t.write path text = .error cause ∧ u.write path text = .error cause) ∨
      ∃ names, t.write path text = .ok (t.put names text) ∧
        u.write path text = .ok (u.put names text) := by
  unfold FileTree.write FileTree.locate
  simp only [alike.followPath, alike.directories]
  split
  · split
    · exact .inl ⟨_, rfl, rfl⟩
    · exact .inl ⟨_, rfl, rfl⟩
  · split
    · exact .inl ⟨_, rfl, rfl⟩
    · split
      · exact .inl ⟨_, rfl, rfl⟩
      · exact .inr ⟨_, rfl, rfl⟩

/-- Runs that deliver the same on trees like these end the same way. -/
theorem run (alike : t.Alike u paths) {i j : Invocation}
    (same : (u.delivery j).result = (t.delivery i).result) :
    let here := i.run access t
    let there := j.run access u
    there.1.exitCode = here.1.exitCode ∧ there.1.stdout = here.1.stdout ∧
      there.1.report = here.1.report ∧ t.SameChange here.2 u there.2 := by
  intro here there
  simp only [here, there, run_access, same]
  cases (t.delivery i).result with
  | error failure => exact ⟨rfl, rfl, rfl, .inl ⟨rfl, rfl⟩⟩
  | ok delivered =>
    cases delivered with
    | print text => exact ⟨rfl, rfl, rfl, .inl ⟨rfl, rfl⟩⟩
    | write path text =>
      rcases alike.write path text with ⟨cause, refused, refusedThere⟩ | ⟨names, done, doneThere⟩
      · simp only [refused, refusedThere]
        exact ⟨rfl, rfl, rfl, .inl ⟨rfl, rfl⟩⟩
      · simp only [done, doneThere, true_and]
        exact .inr ⟨names, text, rfl, rfl⟩

/-- Another text in a file makes no difference to paths that lead elsewhere. -/
theorem put {names : List String} (named : t.IsFileName names) (present : t.isFile names = true)
    (text : String) (apart : ∀ path ∈ paths, t.locate path ≠ .ok names) :
    t.Alike (t.put names text) paths := by
  have files (ns : List String) : (t.put names text).isFile ns = t.isFile ns := by
    rw [isFile, content?_put named, isFile]
    split
    · rename_i same
      rw [same]
      exact present.symm
    · rfl
  have alike : t.Alike (t.put names text) [] :=
    ⟨rfl, isDirectory_put named text, files, by simp⟩
  refine ⟨rfl, isDirectory_put named text, files, fun path member => ?_⟩
  have elsewhere := apart path member
  rw [read, read, locate, alike.followPath, ← locate]
  cases located : t.locate path with
  | error cause => rfl
  | ok ns =>
    have different : ns ≠ names := by
      rintro rfl
      exact elsewhere located
    simp only [isDirectory_put named, content?_put named, different, if_false]

end Alike

variable {t u : FileTree} {named other : Option String} {text : String} {given : Config}
  {task : Task}

theorem loadConfig_of_read (content : t.read (Config.path named) = .ok text)
    (parsed : Config.ofText? text = some given) :
    (t.loadConfig named).result = .ok (given.under (Config.path named)) := by
  rw [loadConfig, content, Config.load]
  simp only [parsed]
  rfl

/-- What `check` delivers is the message about the record that the layers describe. -/
theorem delivery_check {config : Config} (loaded : (t.loadConfig named).result = .ok config)
    (verbose : Bool) (files : List String) :
    (t.delivery ⟨verbose, named, .check files⟩).result =
      (Task.loadRecord config ((config.base ++ files).map t.layer)).result.map
        fun r => .print (Task.resolved r.keys.length files) :=
  (delivery_of_loadConfig loaded verbose (.check files)).1.trans (Task.result_check ..)

section behind
variable {config : Config} (loaded : (t.loadConfig named).result = .ok config)
  (bare : (u.loadConfig other).result = .ok { config with base := [] })
  (alike : t.Alike u (config.base ++ task.files)) (verbose : Bool)

include alike in
theorem layers_behind :
    ((task.behind config.base).layerPaths { config with base := [] }).map u.layer =
      (task.layerPaths config).map t.layer := by
  rw [Task.layerPaths_behind]
  refine List.map_congr_left fun path member => ?_
  have listed : path ∈ config.base ++ task.files := by
    cases task with
    | options => contradiction
    | check | render | provision => exact member
  rw [layer, layer, alike.contents path listed]

include loaded bare alike

theorem delivery_behind (unlisted : ∀ files, task ≠ .check files) :
    (u.delivery ⟨verbose, other, task.behind config.base⟩).result =
      (t.delivery ⟨verbose, named, task⟩).result := by
  rw [(delivery_of_loadConfig loaded verbose task).1, (delivery_of_loadConfig bare verbose _).1,
    layers_behind alike, Task.answer_behind config _ unlisted]

theorem alerts_delivery_behind :
    (u.delivery ⟨verbose, other, task.behind config.base⟩).alerts =
      (t.delivery ⟨verbose, named, task⟩).alerts := by
  rw [(delivery_of_loadConfig loaded verbose task).2, (delivery_of_loadConfig bare verbose _).2,
    layers_behind alike, Task.alerts_answer_behind]

omit alike in
theorem run_check_behind {files : List String} (alike : t.Alike u (config.base ++ files)) :
    let here := (⟨verbose, named, .check files⟩ : Invocation).run access t
    let there := (⟨verbose, other, .check (config.base ++ files)⟩ : Invocation).run access u
    there.1.exitCode = here.1.exitCode ∧ there.1.report = here.1.report ∧
      t.SameChange here.2 u there.2 ∧
      (Task.check files).ShowsBehind config.base here.1 there.1 := by
  intro here there
  have direct := delivery_check loaded verbose files
  have moved := delivery_check bare verbose (config.base ++ files)
  have same : Task.loadRecord { config with base := [] } = Task.loadRecord config := rfl
  have layers : (config.base ++ files).map u.layer = (config.base ++ files).map t.layer :=
    @layers_behind t u (.check files) config alike
  rw [same, List.nil_append, layers] at moved
  obtain ⟨exitCode, report, kept, keptThere, shown⟩ := run_prints direct moved
  refine ⟨exitCode, report, .inl ⟨kept, keptThere⟩, fun succeeded => ?_⟩
  obtain ⟨r, printed, printedThere⟩ := shown succeeded
  exact ⟨r.keys.length, printed, printedThere⟩

/-- The same run shows the same, but for the list of files that `check` repeats. -/
theorem run_behind_of_loadConfig :
    let here := (⟨verbose, named, task⟩ : Invocation).run access t
    let there := (⟨verbose, other, task.behind config.base⟩ : Invocation).run access u
    there.1.exitCode = here.1.exitCode ∧ there.1.report = here.1.report ∧
      there.1.alerts = here.1.alerts ∧ t.SameChange here.2 u there.2 ∧
      task.ShowsBehind config.base here.1 there.1 := by
  intro here there
  have alerts : there.1.alerts = here.1.alerts := by
    have same := alerts_delivery_behind loaded bare alike verbose
    rwa [← alerts_outcome, ← alerts_outcome] at same
  have others (unlisted : ∀ files, task ≠ .check files) :
      there.1.exitCode = here.1.exitCode ∧ there.1.stdout = here.1.stdout ∧
        there.1.report = here.1.report ∧ t.SameChange here.2 u there.2 :=
    alike.run (delivery_behind loaded bare alike verbose unlisted)
  cases task with
  | check files =>
    obtain ⟨exitCode, report, changes, shown⟩ := run_check_behind loaded bare verbose alike
    exact ⟨exitCode, report, alerts, changes, shown⟩
  | render | provision | options =>
    obtain ⟨exitCode, stdout, report, changes⟩ := others (by simp)
    exact ⟨exitCode, report, alerts, changes, stdout⟩

end behind

/-- Base layers that the configuration names do what files in front of those of the task do under
the configuration without them: the run ends the same way with the same warnings, and shows the same
but for the list of files that `check` repeats. -/
theorem run_behind (content : t.read (Config.path named) = .ok text)
    (parsed : Config.ofText? text = some given)
    (bare : (u.loadConfig other).result = .ok { given with base := [] })
    (alike : t.Alike u (given.base.map (Config.layerPath (Config.path named)) ++ task.files))
    (verbose : Bool) :
    let base := given.base.map (Config.layerPath (Config.path named))
    let here := (⟨verbose, named, task⟩ : Invocation).run access t
    let there := (⟨verbose, other, task.behind base⟩ : Invocation).run access u
    there.1.exitCode = here.1.exitCode ∧ there.1.report = here.1.report ∧
      there.1.alerts = here.1.alerts ∧ t.SameChange here.2 u there.2 ∧
      task.ShowsBehind base here.1 there.1 := by
  intro base
  have loaded := loadConfig_of_read content parsed
  have moved := Config.base_under (Config.path named) given
  have same := run_behind_of_loadConfig loaded bare (by rw [moved]; exact alike) verbose
  rwa [moved] at same

/-- Base layers beside the configuration, above it and elsewhere, none of them where the program
runs. -/
theorem run_behind_elsewhere :
    let given := "[loader]\nbase = [\"base.rb\", \"../top.rb\", \"/srv/os.rb\"]\n"
    let t := ofFiles
      [("/etc/ci/vars.toml", some given), ("/etc/ci/base.rb", some "$os = \"debian12\"\n"),
        ("/etc/top.rb", some "$vm_cpus = 4\n"), ("/srv/os.rb", some "$os = nil\n"),
        ("a.rb", some "$vm_cpus ||= 9\n")]
    let u := t.put ["etc", "ci", "vars.toml"] ""
    let base := ["/etc/ci/base.rb", "/etc/ci/../top.rb", "/srv/os.rb"]
    let render (files : List String) : Invocation :=
      ⟨false, some "/etc/ci/vars.toml", .render files false none⟩
    (t.outcome (render ["a.rb"])).exitCode = 0 ∧
      (u.outcome (render (base ++ ["a.rb"]))).stdout = (t.outcome (render ["a.rb"])).stdout := by
  intro given t u base render
  let config : Config := { base := ["base.rb", "../top.rb", "/srv/os.rb"] }
  have content : t.read "/etc/ci/vars.toml" = .ok given := by decide +kernel
  have parsed : Config.ofText? given = some config := by decide +kernel
  have bare : (u.loadConfig (some "/etc/ci/vars.toml")).result = .ok {} := by decide +kernel
  have seen : config.base.map (Config.layerPath "/etc/ci/vars.toml") = base := by decide +kernel
  have named : t.IsFileName ["etc", "ci", "vars.toml"] :=
    ⟨⟨["etc", "ci"], "vars.toml", rfl, by decide +kernel⟩, by decide +kernel⟩
  have alike : t.Alike u (base ++ ["a.rb"]) :=
    .put named (by decide +kernel) "" (by decide +kernel)
  obtain ⟨-, -, -, -, shown⟩ := @run_behind t u (some "/etc/ci/vars.toml") _ _ _
    (.render ["a.rb"] false none) content parsed bare (seen.symm ▸ alike) false
  have path : Config.path (some "/etc/ci/vars.toml") = "/etc/ci/vars.toml" := rfl
  rw [path, seen] at shown
  exact ⟨by decide +kernel, shown⟩

end FileTree
end ClusterVars
