import ClusterVars.Proofs.BaseLayers

/-! Repetition. Assignments to one option, however many, come to a single one: together they
overwrite its value, or they fill it. Either is done twice as well as once, so a layer that follows
on itself counts once. -/
namespace ClusterVars
open Text

/-- The value that assigning a new one leaves. -/
def Operator.change (operator : Operator) (new value : Option Value) : Option Value :=
  match operator with
  | .assign => new
  | .fill => value.or new

theorem Operator.change_change (operator : Operator) (new value : Option Value) :
    operator.change new (operator.change new value) = operator.change new value := by
  cases operator with
  | assign => rfl
  | fill => simp only [change, Option.or_assoc, Option.or_self]

/-- Assignments to an option change its value as a single one does. -/
theorem Key.exists_change (key : Key) (as : List Assignment) :
    ∃ (operator : Operator) (new : Option Value),
      ∀ value, as.foldl key.step value = operator.change new value := by
  induction as with
  | nil => exact ⟨.fill, none, fun value => Option.or_none.symm⟩
  | cons a as ih =>
    obtain ⟨operator, new, later⟩ := ih
    simp only [List.foldl_cons, later, step]
    cases key.meaning? a.value with
    | none => exact ⟨operator, new, fun _ => rfl⟩
    | some first =>
      cases operator with
      | assign => exact ⟨.assign, new, fun _ => rfl⟩
      | fill =>
        cases a.operator with
        | assign => exact ⟨.assign, first.or new, fun _ => rfl⟩
        | fill => exact ⟨.fill, first.or new, fun value => Option.or_assoc⟩

theorem Assignment.foldl_act_again (as : List Assignment) (b : Bindings) :
    as.foldl act (as.foldl act b) = as.foldl act b := by
  ext1 name
  cases known : Key.ofName? name with
  | none => rw [value?_foldl_act_of_unknown known]
  | some key =>
    obtain rfl := Key.name_of_ofName? known
    obtain ⟨operator, new, change⟩ := key.exists_change (as.filter (·.name = key.name))
    rw [value?_foldl_act, value?_foldl_act, change, change, operator.change_change]

namespace Bindings
variable {policy : Policy} {b after : Bindings} {source text : String}

theorem addText_again (added : (b.addText policy source text).result = .ok after) :
    (after.addText policy source text).result = .ok after := by
  obtain ⟨wellFormed, unrefused, rfl⟩ := addText_eq_ok added
  rw [(addText_of_unrefused _ source wellFormed unrefused).1, Assignment.foldl_act_again]

theorem addLayer_again {layer : Layer} (added : (b.addLayer policy layer).result = .ok after) :
    (after.addLayer policy layer).result = .ok after := by
  unfold addLayer at added ⊢
  cases readable : layer.text with
  | error cause =>
    rw [readable] at added
    contradiction
  | ok text =>
    rw [readable] at added
    exact addText_again added

/-- A layer that follows on itself, at the bottom of others. -/
theorem addLayers_again (policy : Policy) (b : Bindings) (layer : Layer) (upper : List Layer) :
    (b.addLayers policy (layer :: layer :: upper)).result =
      (b.addLayers policy (layer :: upper)).result := by
  simp only [addLayers, Logged.result_bind]
  cases added : (b.addLayer policy layer).result with
  | error failure => rfl
  | ok after => simp only [Except.bind, addLayer_again added]

theorem addLayers_repeated (policy : Policy) (b : Bindings) (lower : List Layer) (layer : Layer)
    (upper : List Layer) : (b.addLayers policy (lower ++ layer :: layer :: upper)).result =
      (b.addLayers policy (lower ++ layer :: upper)).result := by
  simp only [addLayers_append, Logged.result_bind, addLayers_again]

end Bindings

/-! Runs on other files that load the same record -/

namespace Task
variable {config : Config} {layers others : List Layer}

/-- The task with other files. -/
def naming (files : List String) : Task → Task
  | .check _ => .check files
  | .render _ defaults format => .render files defaults format
  | .provision _ format output => .provision files format output
  | .options => .options

/-- What is shown is the same but for the files: `check` repeats those of its task, and a record
that is printed as assignments stands under all that were loaded. -/
def ShowsNaming (config : Config) (files : List String) (here there : Outcome) : Task → Prop
  | .check own => here.exitCode = 0 →
      ∃ count, here.stdout = resolved count own ∧ there.stdout = resolved count files
  | .render own defaults none => here.exitCode = 0 →
      ∃ r : Record, here.stdout = r.renderUnder (header (config.base ++ own) defaults) ∧
        there.stdout = r.renderUnder (header (config.base ++ files) defaults)
  | .render _ _ (some _) | .provision _ _ _ | .options => there.stdout = here.stdout

theorem loadRecord_repeated (config : Config) (lower : List Layer) (layer : Layer)
    (upper : List Layer) : (loadRecord config (lower ++ layer :: layer :: upper)).result =
      (loadRecord config (lower ++ layer :: upper)).result := by
  simp only [result_loadRecord, Record.result_ofLayers, Bindings.addLayers_repeated]

section same
variable (same : (loadRecord config others).result = (loadRecord config layers).result)
include same

theorem rendering_same (defaults : Bool) :
    (rendering config others defaults).result = (rendering config layers defaults).result := by
  cases defaults with
  | false => rw [rendering_false, rendering_false, same]
  | true => rw [rendering_true, rendering_true, Logged.result_bind, Logged.result_bind, same]

theorem answer_render_same (files own : List String) (defaults : Bool) (format : Format) :
    ((Task.render files defaults (some format)).answer config others).result =
      ((Task.render own defaults (some format)).answer config layers).result := by
  rw [answer_render_in, answer_render_in, Logged.result_bind, Logged.result_bind,
    rendering_same same]
  rfl

theorem answer_provision_same (files own : List String) (format : Option Format)
    (output : Option String) :
    ((Task.provision files format output).answer config others).result =
      ((Task.provision own format output).answer config layers).result := by
  simp only [answer, Logged.result_bind, same]

end same

theorem result_render (config : Config) (layers : List Layer) (files : List String)
    (defaults : Bool) : ((Task.render files defaults none).answer config layers).result =
      (rendering config layers defaults).result.map
        fun r => .print (r.renderUnder (header (config.base ++ files) defaults)) := by
  rw [answer_render, Logged.result_bind_pure]

end Task

/-- The invocation with other files. -/
def Invocation.naming (files : List String) (i : Invocation) : Invocation :=
  { i with task := i.task.naming files }

namespace FileTree
variable {t : FileTree} {i j : Invocation} {config : Config} {files : List String}

/-- Runs that deliver the same end the same way. -/
theorem run_same (same : (t.delivery j).result = (t.delivery i).result) :
    let here := i.run access t
    let there := j.run access t
    there.1.exitCode = here.1.exitCode ∧ there.1.stdout = here.1.stdout ∧
      there.1.report = here.1.report ∧ there.2 = here.2 := by
  have alike : t.Alike t [] := ⟨rfl, fun _ => rfl, fun _ => rfl, fun _ _ => rfl⟩
  obtain ⟨exitCode, stdout, report, change⟩ := alike.run same
  refine ⟨exitCode, stdout, report, ?_⟩
  rcases change with ⟨kept, keptThere⟩ | ⟨names, text, put, putThere⟩
  · exact keptThere.trans kept.symm
  · exact putThere.trans put.symm

/-- Other files under the same configuration that come to the same record. -/
theorem run_naming (loaded : (t.loadConfig i.config).result = .ok config)
    (same : (Task.loadRecord config ((config.base ++ files).map t.layer)).result =
      (Task.loadRecord config ((config.base ++ i.task.files).map t.layer)).result) :
    let here := i.run access t
    let there := (i.naming files).run access t
    there.1.exitCode = here.1.exitCode ∧ there.1.report = here.1.report ∧ there.2 = here.2 ∧
      i.task.ShowsNaming config files here.1 there.1 := by
  obtain ⟨verbose, named, task⟩ := i
  have answered (task : Task) (reads : task ≠ .options) :
      (t.delivery ⟨verbose, named, task⟩).result =
        (task.answer config ((config.base ++ task.files).map t.layer)).result := by
    rw [(delivery_of_loadConfig loaded verbose task).1, Task.layerPaths_of_reads config reads]
  cases task with
  | check own =>
    have here := delivery_check loaded verbose own
    have there := delivery_check loaded verbose files
    rw [same] at there
    obtain ⟨exitCode, report, kept, keptThere, shown⟩ := run_prints here there
    refine ⟨exitCode, report, keptThere.trans kept.symm, fun succeeded => ?_⟩
    obtain ⟨r, printed, printedThere⟩ := shown succeeded
    exact ⟨r.keys.length, printed, printedThere⟩
  | render own defaults format =>
    cases format with
    | none =>
      have here := (answered (.render own defaults none) (by simp)).trans
        (Task.result_render ..)
      have there := (answered (.render files defaults none) (by simp)).trans
        (Task.result_render ..)
      obtain ⟨exitCode, report, kept, keptThere, shown⟩ :=
        run_prints here (there.trans (congrArg _ (Task.rendering_same same defaults)))
      exact ⟨exitCode, report, keptThere.trans kept.symm, shown⟩
    | some format =>
      have delivered : (t.delivery ⟨verbose, named, .render files defaults (some format)⟩).result =
          (t.delivery ⟨verbose, named, .render own defaults (some format)⟩).result :=
        (answered _ (by simp)).trans ((Task.answer_render_same same files own defaults format).trans
          (answered _ (by simp)).symm)
      obtain ⟨exitCode, stdout, report, tree⟩ := run_same delivered
      exact ⟨exitCode, report, tree, stdout⟩
  | provision own format output =>
    have delivered : (t.delivery ⟨verbose, named, .provision files format output⟩).result =
        (t.delivery ⟨verbose, named, .provision own format output⟩).result :=
      (answered _ (by simp)).trans ((Task.answer_provision_same same files own format output).trans
        (answered _ (by simp)).symm)
    obtain ⟨exitCode, stdout, report, tree⟩ := run_same delivered
    exact ⟨exitCode, report, tree, stdout⟩
  | options =>
    obtain ⟨exitCode, stdout, report, tree⟩ :=
      run_same (t := t) (i := ⟨verbose, named, .options⟩) rfl
    exact ⟨exitCode, report, tree, stdout⟩

end FileTree

/-- A text that was added is added once more without any effect, with the same warnings; so a layer
that follows on itself counts once. A run that names a file twice in a row, both times itself or
first as the last base layer of its configuration, ends like the one that names it once and shows
the same, but for the files that `check` and the header of a rendered record list. -/
theorem repeated_layer_counts_once (policy : Policy) :
    (∀ (b after : Bindings) (source text : String),
      (b.addText policy source text).result = .ok after →
        (after.addText policy source text).result = .ok after ∧
          (after.addText policy source text).alerts = (b.addText policy source text).alerts) ∧
      (∀ (b : Bindings) (lower : List Layer) (layer : Layer) (upper : List Layer),
        (b.addLayers policy (lower ++ layer :: layer :: upper)).result =
          (b.addLayers policy (lower ++ layer :: upper)).result) ∧
      ∀ (t : FileTree) (i : Invocation) (config : Config) (lower : List String) (path : String)
        (upper files : List String), (t.loadConfig i.config).result = .ok config →
        config.base ++ i.task.files = lower ++ path :: upper →
        config.base ++ files = lower ++ path :: path :: upper →
        let here := i.run FileTree.access t
        let there := (i.naming files).run FileTree.access t
        there.1.exitCode = here.1.exitCode ∧ there.1.report = here.1.report ∧ there.2 = here.2 ∧
          i.task.ShowsNaming config files here.1 there.1 := by
  refine ⟨fun b after source text added => ⟨Bindings.addText_again added, ?_⟩,
    Bindings.addLayers_repeated policy, ?_⟩
  · exact ((Bindings.verdict_addText policy after source text).unique
      (Bindings.verdict_addText policy b source text)).1
  · intro t i config lower path upper files loaded once twice
    refine FileTree.run_naming loaded ?_
    rw [once, twice]
    simpa using Task.loadRecord_repeated config (lower.map t.layer) (t.layer path)
      (upper.map t.layer)

/-- A base layer that clears an option and fills it again, named once more by the command. -/
theorem repeated_layer_counts_once_refilled :
    let t := FileTree.ofFiles [("vars.toml", some "[loader]\nbase = [\"base.rb\"]\n"),
      ("base.rb", some "$vm_cpus = 4\n$vm_cpus = nil # again\n$vm_cpus ||= 8\n$os ||= nil\n"),
      ("a.rb", some "$os ||= \"debian12\"\n$vm_cpus ||= 2\n")]
    let i : Invocation := ⟨false, none, .render ["a.rb"] false none⟩
    (i.run FileTree.access t).1.exitCode = 0 ∧
      ∃ r : Record,
        (i.run FileTree.access t).1.stdout =
          r.renderUnder (Task.header ["base.rb", "a.rb"] false) ∧
        ((i.naming ["base.rb", "a.rb"]).run FileTree.access t).1.stdout =
          r.renderUnder (Task.header ["base.rb", "base.rb", "a.rb"] false) := by
  intro t i
  have loaded : (t.loadConfig none).result = .ok { base := ["base.rb"] } := by decide +kernel
  have succeeded : (i.run FileTree.access t).1.exitCode = 0 := by decide +kernel
  obtain ⟨-, -, -, shown⟩ := (repeated_layer_counts_once .reject).2.2 t i _ [] "base.rb" ["a.rb"]
    ["base.rb", "a.rb"] loaded rfl rfl
  exact ⟨succeeded, shown succeeded⟩

end ClusterVars
