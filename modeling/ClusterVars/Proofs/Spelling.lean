import ClusterVars.Proofs.Effects
import ClusterVars.Proofs.Text.Blank

/-! Command lines. An invocation is spelled by the options before its command, by the command, and
by options and files in any order behind it; files that look like options stand at the end, behind a
double dash. Every complete invocation can be spelled, and is read off each of its spellings. -/
namespace ClusterVars
open Invocation (Switch Command Scan)

/-! Options -/

/-- A name for each format, under which it can be asked for. -/
structure Format.Naming where
  name : Format → String
  accepted : ∀ format, Format.ofRequest? (name format) = some format

/-- The names that formats are shown with. -/
def Format.Naming.usual : Naming where
  name := Format.name
  accepted format := by cases format <;> decide +kernel

namespace Invocation

namespace Switch

/-- The argument that gives the switch with a value, which is empty for those that take none. -/
def spelled (s : Switch) (value : String) : String :=
  "--" ++ s.long ++ if s.takesValue then "=" ++ value else ""

/-- The switch as an option that is given when there is a value for it. -/
def given (s : Switch) (value : Option String) : List (Switch × String) :=
  value.toList.map (s, ·)

/-- The values that a switch is taken with. -/
def Admits (value : String) : Switch → Prop
  | .verbose | .defaults => value = ""
  | .file => True
  | .format => (Format.ofRequest? value).isSome = true
  | .output => value ≠ ""
  | .version | .help => False

variable {s t : Switch} {value : String} {switches : List Switch}

theorem long_injective (same : s.long.toList = t.long.toList) : s = t := by
  cases s <;> cases t <;> first | rfl | exact absurd same (by decide)

theorem find?_long (known : s ∈ switches) :
    switches.find? (fun t => t.long.toList = s.long.toList) = some s := by
  have found : (switches.find? fun t => t.long.toList = s.long.toList).isSome = true :=
    List.find?_isSome.mpr ⟨s, known, by simp⟩
  obtain ⟨t, found⟩ := Option.isSome_iff_exists.mp found
  have same : t.long.toList = s.long.toList := by simpa using List.find?_some found
  rw [found, long_injective same]

theorem noSign_long (s : Switch) : '=' ∉ s.long.toList := by
  cases s <;> decide

theorem toList_spelled (s : Switch) (value : String) : (s.spelled value).toList =
    '-' :: '-' :: (s.long.toList ++ if s.takesValue then '=' :: value.toList else []) := by
  unfold spelled
  cases s.takesValue <;> simp [String.toList_append]

theorem spelled_shape (s : Switch) (value : String) :
    ∃ c more, (s.spelled value).toList = '-' :: '-' :: c :: more := by
  rw [toList_spelled]
  cases s <;> simp [long]

theorem mem_given {given : Option String} :
    (s, value) ∈ t.given given ↔ s = t ∧ given = some value := by
  cases given <;> simp [Switch.given, eq_comm]

theorem lookup_given (s t : Switch) (value : Option String) :
    (s.given value).lookup t = if t = s then value else none := by
  cases value with
  | none => simp [given]
  | some v =>
    by_cases same : t = s
    · simp [given, same]
    · simp [given, List.lookup_cons, beq_eq_false_iff_ne.mpr same, same]

end Switch

/-! Lists that bind each key once -/

section
variable {α β : Type} {entries others more : List (α × β)} {key : α} {value : β}

theorem fresh_of_nodup (distinct : ((entries ++ (key, value) :: more).map Prod.fst).Nodup) :
    key ∉ entries.map Prod.fst := by
  rw [List.map_append] at distinct
  exact fun member => (List.nodup_append.mp distinct).2.2 key member key List.mem_cons_self rfl

variable [DecidableEq α]

theorem lookup_eq_some_iff_mem (distinct : (entries.map Prod.fst).Nodup) :
    entries.lookup key = some value ↔ (key, value) ∈ entries := by
  induction entries with
  | nil => simp
  | cons entry entries ih =>
    obtain ⟨first, held⟩ := entry
    obtain ⟨fresh, distinct⟩ := List.nodup_cons.mp distinct
    by_cases same : key = first
    · subst same
      have absent : (key, value) ∉ entries := fun member =>
        fresh (List.mem_map.mpr ⟨_, member, rfl⟩)
      simp [absent, eq_comm]
    · simp [List.lookup_cons, beq_eq_false_iff_ne.mpr same, same, ih distinct]

theorem lookup_perm (perm : entries.Perm others) (distinct : (entries.map Prod.fst).Nodup) :
    entries.lookup key = others.lookup key := by
  have otherDistinct := (perm.map Prod.fst).nodup_iff.mp distinct
  refine Option.ext fun value => ?_
  rw [lookup_eq_some_iff_mem distinct, lookup_eq_some_iff_mem otherDistinct, perm.mem_iff]

end

/-! Single arguments -/

namespace Scan
variable {scan : Scan} {given : List (Switch × String)} {files : List String} {s : Switch}
  {value name : String} {switches : List Switch}

/-- The options and files that the arguments so far come to. -/
def Gives (scan : Scan) (given : List (Switch × String)) (files : List String) : Prop :=
  scan.settle = .ok ⟨given, files, .nothing⟩

theorem take_of_admits (fresh : s ∉ scan.given.map Prod.fst) (admits : s.Admits value) :
    scan.take s value = .ok { scan with given := scan.given ++ [(s, value)] } := by
  have once : scan.has s = false := by
    rw [has, List.any_eq_false]
    rintro entry member same
    exact fresh (List.mem_map.mpr ⟨entry, member, by simpa using same⟩)
  cases s <;> simp [Switch.Admits] at admits <;>
    simp [take, once, admits, ← Option.isSome_iff_ne_none]

theorem long_spelled (known : s ∈ switches) (value : String) :
    scan.long switches (s.long.toList ++ if s.takesValue then '=' :: value.toList else []) =
      if s.takesValue then scan.option s (some value) else scan.flag s := by
  have inside : ∀ c ∈ s.long.toList, decide (c ≠ '=') = true := fun c member =>
    decide_eq_true fun sign => s.noSign_long (sign ▸ member)
  have stops : ∀ c, (if s.takesValue then '=' :: value.toList else []).head? = some c →
      decide (c ≠ '=') = false := by
    cases s.takesValue <;> simp
  simp only [long, Text.takeWhile_run inside stops, Text.dropWhile_run inside stops,
    Switch.find?_long known]
  cases s.takesValue <;> simp

/-- A spelled option settles what stands before it, and is taken. -/
theorem argument_spelled (takesFiles : Bool) (gives : scan.Gives given files)
    (known : s ∈ switches) (admits : s.Admits value) (fresh : s ∉ given.map Prod.fst) :
    scan.argument switches takesFiles (s.spelled value) =
      .ok ⟨given ++ [(s, value)], files, .nothing⟩ := by
  have taken : take ⟨given, files, .nothing⟩ s value =
      .ok ⟨given ++ [(s, value)], files, .nothing⟩ := take_of_admits fresh admits
  simp only [argument, s.toList_spelled, long_spelled known]
  unfold Gives at gives
  cases s with
  | file | format | output =>
    simp only [Switch.takesValue, if_true, option, gives]
    exact taken
  | verbose | defaults =>
    cases admits
    simp only [Switch.takesValue, Bool.false_eq_true, if_false, flag, gives]
    exact taken
  | version | help => exact admits.elim

/-- A file joins those before it, which are settled with it. -/
theorem file_of_gives (gives : scan.Gives given files) (named : name ≠ "") :
    ∃ next, scan.file name = .ok next ∧ next.Gives given (files ++ [name]) := by
  obtain ⟨given', files', pending⟩ := scan
  -- files that follow one another are only settled together
  cases pending with
  | files more =>
    simp only [Gives, settle] at gives
    split at gives
    · contradiction
    · rename_i whole
      cases gives
      exact ⟨_, rfl, by simp_all [Gives, settle, eq_comm]⟩
  | nothing | awaiting | holding =>
    unfold Gives at gives
    refine ⟨⟨given, files, .files [name]⟩, ?_, by simp [Gives, settle, named.symm]⟩
    simp only [file, gives]
    rfl

end Scan

/-! Arguments of a command -/

/-- A name that does not look like an option. -/
def Plain (name : String) : Prop := name.toList.head? = some '-' → name = "-"

/-- The command takes files, and no file is without a name. -/
def Command.Takes (command : Command) (name : String) : Prop :=
  command.takesFiles = true ∧ name ≠ ""

/-- What stands behind a command and before a double dash. -/
inductive Word
  | option (s : Switch) (value : String)
  | file (name : String)

namespace Word

def text : Word → String
  | .option s value => s.spelled value
  | .file name => name

def given : Word → List (Switch × String)
  | .option s value => [(s, value)]
  | .file _ => []

def files : Word → List String
  | .option _ _ => []
  | .file name => [name]

/-- The word means something to the command, and is not taken for anything else. -/
def Fits (command : Command) : Word → Prop
  | .option s value => s ∈ command.switches ∧ s.Admits value
  | .file name => command.Takes name ∧ Plain name

variable {command : Command} {word : Word}

theorem text_ne_dashes (fits : word.Fits command) : word.text ≠ "--" := by
  cases word with
  | option s value =>
    intro same
    obtain ⟨c, more, shape⟩ := s.spelled_shape value
    rw [← text, same] at shape
    simp at shape
  | file name =>
    rintro rfl
    exact absurd (fits.2 (by decide)) (by decide)

end Word

namespace Scan
variable {command : Command} {word : Word} {words : List Word} {scan : Scan}
  {given : List (Switch × String)} {files names : List String} {name : String}

theorem argument_plain {switches : List Switch} (gives : scan.Gives given files)
    (plain : Plain name) : scan.argument switches true name = scan.file name := by
  unfold argument
  split
  · rename_i letters
    cases plain (by rw [letters]; rfl)
    cases letters
  · rename_i letters
    cases plain (by rw [letters]; rfl)
    cases letters
  · split
    · rename_i awaiting
      rw [Gives, settle, awaiting] at gives
      contradiction
    · rfl

/-- One word adds what it gives. -/
theorem argument_word (fits : word.Fits command) (gives : scan.Gives given files)
    (distinct : ((given ++ word.given).map Prod.fst).Nodup) :
    ∃ next, scan.argument command.switches command.takesFiles word.text = .ok next ∧
      next.Gives (given ++ word.given) (files ++ word.files) := by
  cases word with
  | option s value =>
    refine ⟨_, argument_spelled _ gives fits.1 fits.2 (fresh_of_nodup distinct), ?_⟩
    rw [Word.files, List.append_nil]
    rfl
  | file name =>
    obtain ⟨⟨takes, named⟩, plain⟩ := fits
    rw [takes, Word.text, argument_plain gives plain, Word.given, List.append_nil]
    exact file_of_gives gives named

/-- Words add what they give, whatever their order is. The scan may hold the last files back, so the
induction is on what it comes to when it is settled. -/
theorem arguments_words (fits : ∀ word ∈ words, word.Fits command) (gives : scan.Gives given files)
    (distinct : ((given ++ words.flatMap Word.given).map Prod.fst).Nodup) :
    ∃ next, next.Gives (given ++ words.flatMap Word.given) (files ++ words.flatMap Word.files) ∧
      ∀ rest, arguments command scan (words.map Word.text ++ rest) =
        arguments command next rest := by
  induction words generalizing scan given files with
  | nil => exact ⟨scan, by simpa using gives, fun rest => rfl⟩
  | cons word words ih =>
    obtain ⟨fitsFirst, fitsRest⟩ := List.forall_mem_cons.mp fits
    rw [List.flatMap_cons, ← List.append_assoc] at distinct
    have distinctFirst : ((given ++ word.given).map Prod.fst).Nodup := by
      rw [List.map_append] at distinct
      exact (List.nodup_append.mp distinct).1
    obtain ⟨middle, first, middleGives⟩ := argument_word fitsFirst gives distinctFirst
    obtain ⟨next, nextGives, later⟩ := ih fitsRest middleGives distinct
    refine ⟨next, by simpa using nextGives, fun rest => ?_⟩
    rw [List.map_cons, List.cons_append, arguments, if_neg (Word.text_ne_dashes fitsFirst), first,
      ← later]
    rfl

/-- Behind a double dash everything is a file. -/
theorem trailing_files (takes : ∀ name ∈ names, command.Takes name)
    (gives : scan.Gives given files) :
    ∃ last, scan.trailing command.takesFiles names = .ok last ∧
      last.Gives given (files ++ names) := by
  induction names generalizing scan files with
  | nil => exact ⟨scan, rfl, by simpa using gives⟩
  | cons name names ih =>
    obtain ⟨⟨takesFiles, named⟩, takesRest⟩ := List.forall_mem_cons.mp takes
    obtain ⟨middle, first, middleGives⟩ := file_of_gives gives named
    obtain ⟨last, later, lastGives⟩ := ih takesRest middleGives
    refine ⟨last, ?_, by simpa using lastGives⟩
    rw [trailing, takesFiles, if_pos rfl, first, ← later, takesFiles]
    rfl

end Scan

/-! Arguments before the command -/

section
variable {s : Switch} {value : String} {given options : List (Switch × String)}

theorem ofName?_name (command : Command) : Command.ofName? command.name = some command := by
  cases command <;> decide

theorem ofName?_spelled (s : Switch) (value : String) :
    Command.ofName? (s.spelled value) = none := by
  obtain ⟨c, more, shape⟩ := s.spelled_shape value
  refine List.find?_eq_none.mpr fun command _ named => ?_
  rw [← of_decide_eq_true named] at shape
  cases command <;> simp [Command.name] at shape

/-- An option before the command leaves nothing pending. -/
theorem readFrom_spelled (known : s ∈ globalSwitches) (admits : s.Admits value)
    (fresh : s ∉ given.map Prod.fst) (rest : List String) :
    readFrom ⟨given, [], .nothing⟩ (s.spelled value :: rest) =
      readFrom ⟨given ++ [(s, value)], [], .nothing⟩ rest := by
  obtain ⟨c, more, shape⟩ := s.spelled_shape value
  have ne {name : String} (other : ∀ c more, name.toList ≠ '-' :: '-' :: c :: more) :
      s.spelled value ≠ name := fun same => other c more (same ▸ shape)
  have gives : Scan.Gives ⟨given, [], .nothing⟩ given [] := rfl
  have taken := Scan.argument_spelled false gives known admits fresh
  have step : readFrom ⟨given, [], .nothing⟩ (s.spelled value :: rest) =
      Scan.argument globalSwitches false ⟨given, [], .nothing⟩ (s.spelled value) >>=
        fun scan => readFrom scan rest := by
    rw [readFrom.eq_def]
    simp [ofName?_spelled, ne, helpName, shape]
  rw [step, taken]
  rfl

/-- Options before the command are taken one after the other. -/
theorem readFrom_options
    (fits : ∀ s value, (s, value) ∈ options → s ∈ globalSwitches ∧ s.Admits value)
    (distinct : ((given ++ options).map Prod.fst).Nodup) (rest : List String) :
    readFrom ⟨given, [], .nothing⟩ (options.map (fun (s, value) => s.spelled value) ++ rest) =
      readFrom ⟨given ++ options, [], .nothing⟩ rest := by
  induction options generalizing given with
  | nil => simp
  | cons option options ih =>
    obtain ⟨s, value⟩ := option
    obtain ⟨known, admits⟩ := fits s value List.mem_cons_self
    have fresh := fresh_of_nodup distinct
    have fitsRest : ∀ t other, (t, other) ∈ options → t ∈ globalSwitches ∧ t.Admits other :=
      fun t other member => fits t other (List.mem_cons_of_mem _ member)
    rw [List.append_cons] at distinct ⊢
    rw [List.map_cons, List.cons_append, readFrom_spelled known admits fresh]
    exact ih fitsRest distinct

/-- A task with the options in front of its command. -/
def ofOptions (options : List (Switch × String)) (task : Task) : Invocation :=
  ⟨Scan.has ⟨options, [], .nothing⟩ .verbose, Scan.value? ⟨options, [], .nothing⟩ .file, task⟩

theorem readFrom_name (given : List (Switch × String)) (command : Command) (rest : List String) :
    readFrom ⟨given, [], .nothing⟩ (command.name :: rest) =
      readTask command rest >>= fun task => .ok (ofOptions given task) := by
  have notHelp : command.name ≠ helpName := by cases command <;> decide
  rw [readFrom.eq_def]
  simp only [notHelp, ofName?_name, Bool.not_false, Bool.true_and, decide_false,
    Bool.false_eq_true, if_false]
  rfl

end

end Invocation

/-! What an invocation gives -/

namespace Task
variable {naming : Format.Naming} {s : Switch} {value : String}

def command : Task → Command
  | .check _ => .check
  | .render _ _ _ => .render
  | .provision _ _ _ => .provision
  | .options => .options

/-- The options that a task needs, in one of their orders. -/
def given (naming : Format.Naming) : Task → List (Switch × String)
  | .check _ | .options => []
  | .render _ defaults format =>
    Switch.defaults.given (if defaults then some "" else none) ++
      Switch.format.given (format.map naming.name)
  | .provision _ format output =>
    Switch.format.given (format.map naming.name) ++ Switch.output.given output

theorem nodup_given (naming : Format.Naming) (task : Task) :
    ((task.given naming).map Prod.fst).Nodup := by
  cases task with
  | check | options => simp [given]
  | render _ defaults format => cases defaults <;> cases format <;> simp [given, Switch.given]
  | provision _ format output => cases format <;> cases output <;> simp [given, Switch.given]

theorem fits_given {task : Task} (output : task.output? ≠ some "")
    (member : (s, value) ∈ task.given naming) : s ∈ task.command.switches ∧ s.Admits value := by
  cases task with
  | check | options => simp [given] at member
  | render _ defaults format =>
    rcases List.mem_append.mp member with member | member
    · obtain ⟨rfl, asked⟩ := Switch.mem_given.mp member
      cases defaults <;> cases asked
      exact ⟨by simp [command, Command.switches], rfl⟩
    · obtain ⟨rfl, asked⟩ := Switch.mem_given.mp member
      obtain ⟨format, rfl, rfl⟩ := Option.map_eq_some_iff.mp asked
      exact ⟨by simp [command, Command.switches], by simp [Switch.Admits, naming.accepted]⟩
  | provision _ format output =>
    rcases List.mem_append.mp member with member | member
    · obtain ⟨rfl, asked⟩ := Switch.mem_given.mp member
      obtain ⟨format, rfl, rfl⟩ := Option.map_eq_some_iff.mp asked
      exact ⟨by simp [command, Command.switches], by simp [Switch.Admits, naming.accepted]⟩
    · obtain ⟨rfl, rfl⟩ := Switch.mem_given.mp member
      exact ⟨by simp [command, Command.switches], fun empty => output (congrArg some empty)⟩

/-- The task is read off the options that it needs. -/
theorem task_given (naming : Format.Naming) (task : Task) :
    Scan.task ⟨task.given naming, task.files, .nothing⟩ task.command = task := by
  cases task with
  | check | options => rfl
  | render files defaults format =>
    cases defaults <;> cases format <;>
      simp [Scan.task, Scan.has, Scan.format?, Scan.value?, given, command, Task.files,
        List.lookup_append, Switch.lookup_given, Switch.mem_given, naming.accepted]
  | provision files format output =>
    cases format <;> cases output <;>
      simp [Scan.task, Scan.format?, Scan.value?, given, command, Task.files,
        List.lookup_append, Switch.lookup_given, naming.accepted]

/-- Their order does not matter, as no option is given twice. -/
theorem task_of_perm {task : Task} {options : List (Switch × String)}
    (perm : options.Perm (task.given naming)) :
    Scan.task ⟨options, task.files, .nothing⟩ task.command = task := by
  have distinct := (perm.map Prod.fst).nodup_iff.mpr (task.nodup_given naming)
  have value (s : Switch) : Scan.value? ⟨options, task.files, .nothing⟩ s =
      Scan.value? ⟨task.given naming, task.files, .nothing⟩ s :=
    Invocation.lookup_perm perm distinct
  have has (s : Switch) : Scan.has ⟨options, task.files, .nothing⟩ s =
      Scan.has ⟨task.given naming, task.files, .nothing⟩ s := perm.any_eq
  conv => rhs; rw [← task.task_given naming]
  cases task.command <;> simp [Scan.task, Scan.format?, value, has]

end Task

namespace Invocation
variable {naming : Format.Naming} {i : Invocation} {s : Switch} {value : String}

/-- The options that an invocation needs before its command, in one of their orders. -/
def given (i : Invocation) : List (Switch × String) :=
  Switch.verbose.given (if i.verbose then some "" else none) ++ Switch.file.given i.config

theorem nodup_given (i : Invocation) : (i.given.map Prod.fst).Nodup := by
  obtain ⟨verbose, config, task⟩ := i
  cases verbose <;> cases config <;> simp [given, Switch.given]

theorem fits_given (member : (s, value) ∈ i.given) : s ∈ globalSwitches ∧ s.Admits value := by
  obtain ⟨verbose, config, task⟩ := i
  rcases List.mem_append.mp member with member | member
  · obtain ⟨rfl, asked⟩ := Switch.mem_given.mp member
    cases verbose <;> cases asked
    exact ⟨by decide, rfl⟩
  · obtain ⟨rfl, -⟩ := Switch.mem_given.mp member
    exact ⟨by decide, trivial⟩

theorem ofOptions_of_perm {options : List (Switch × String)} (perm : options.Perm i.given) :
    ofOptions options i.task = i := by
  have distinct := (perm.map Prod.fst).nodup_iff.mpr i.nodup_given
  have value : Scan.value? ⟨options, [], .nothing⟩ .file = i.given.lookup .file :=
    lookup_perm perm distinct
  have has : Scan.has ⟨options, [], .nothing⟩ .verbose = i.given.any (·.1 = .verbose) := perm.any_eq
  rw [ofOptions, value, has]
  obtain ⟨verbose, config, task⟩ := i
  cases verbose <;> cases config <;>
    simp [given, List.lookup_append, Switch.lookup_given, Switch.mem_given]

/-! Spellings -/

/-- Files are given where they are taken, and no path is empty. -/
structure Complete (i : Invocation) : Prop where
  given : i.task.command.takesFiles = true → i.task.files ≠ []
  named : "" ∉ i.task.files
  output : i.task.output? ≠ some ""

theorem Complete.takes (complete : i.Complete) {name : String} (member : name ∈ i.task.files) :
    i.task.command.Takes name := by
  refine ⟨?_, fun empty => complete.named (empty ▸ member)⟩
  generalize i.task = task at member
  cases task with
  | check | render | provision => rfl
  | options => contradiction

/-- A list of arguments, piece by piece. -/
structure Spelling where
  /-- The options before the command. -/
  options : List (Switch × String)
  command : Command
  words : List Word
  /-- The files behind a double dash, if there is one. -/
  trailing : Option (List String)

namespace Spelling

def tail (p : Spelling) : List String :=
  match p.trailing with
  | none => []
  | some files => "--" :: files

def arguments (p : Spelling) : List String :=
  p.options.map (fun (s, value) => s.spelled value) ++
    p.command.name :: (p.words.map Word.text ++ p.tail)

/-- Options stand in any order, before the command and among its files. Files keep theirs, and those
before a double dash do not look like options. -/
structure Spells (naming : Format.Naming) (p : Spelling) (i : Invocation) : Prop where
  options : p.options.Perm i.given
  command : p.command = i.task.command
  given : (p.words.flatMap Word.given).Perm (i.task.given naming)
  files : p.words.flatMap Word.files ++ p.trailing.getD [] = i.task.files
  plain : ∀ name, Word.file name ∈ p.words → Plain name

variable {p : Spelling}

theorem Spells.fits (spells : p.Spells naming i) (complete : i.Complete) :
    ∀ word ∈ p.words, word.Fits i.task.command := by
  intro word member
  cases word with
  | option s value =>
    have given : (s, value) ∈ p.words.flatMap Word.given :=
      List.mem_flatMap.mpr ⟨_, member, List.mem_singleton_self _⟩
    exact Task.fits_given complete.output (spells.given.mem_iff.mp given)
  | file name =>
    have listed : name ∈ p.words.flatMap Word.files :=
      List.mem_flatMap.mpr ⟨_, member, List.mem_singleton_self _⟩
    refine ⟨complete.takes ?_, spells.plain name member⟩
    rw [← spells.files]
    exact List.mem_append_left _ listed

theorem arguments_tail {command : Command} {scan : Scan} {given : List (Switch × String)}
    {files : List String} (takes : ∀ name ∈ p.trailing.getD [], command.Takes name)
    (gives : scan.Gives given files) :
    ∃ last, Scan.arguments command scan p.tail = .ok last ∧
      last.Gives given (files ++ p.trailing.getD []) := by
  unfold tail
  cases trailing : p.trailing with
  | none => exact ⟨scan, rfl, by simpa using gives⟩
  | some names =>
    rw [trailing] at takes
    obtain ⟨last, run, lastGives⟩ := Scan.trailing_files takes gives
    exact ⟨last, run, lastGives⟩

theorem Spells.readTask_eq (spells : p.Spells naming i) (complete : i.Complete) :
    readTask i.task.command (p.words.map Word.text ++ p.tail) = .ok i.task := by
  have distinct : (([] ++ p.words.flatMap Word.given).map Prod.fst).Nodup :=
    (spells.given.map Prod.fst).nodup_iff.mpr (i.task.nodup_given naming)
  have start : Scan.Gives {} [] [] := rfl
  obtain ⟨next, nextGives, run⟩ := Scan.arguments_words (spells.fits complete) start distinct
  have takes : ∀ name ∈ p.trailing.getD [], i.task.command.Takes name := fun name member =>
    complete.takes (spells.files ▸ List.mem_append_right _ member)
  obtain ⟨last, tailRun, lastGives⟩ := arguments_tail takes nextGives
  rw [List.nil_append, List.nil_append, spells.files] at lastGives
  have filled : (i.task.command.takesFiles && i.task.files.isEmpty) = false := by
    cases takesFiles : i.task.command.takesFiles with
    | false => rfl
    | true => simpa using complete.given takesFiles
  unfold Scan.Gives at lastGives
  simp [readTask, run, tailRun, bind, Except.bind, lastGives, filled,
    Task.task_of_perm spells.given]

end Spelling

/-- Every complete invocation can be spelled, and is what each of its spellings is read as. -/
theorem read_spelled (complete : i.Complete) (naming : Format.Naming) :
    (∃ p : Spelling, p.Spells naming i) ∧
      ∀ p : Spelling, p.Spells naming i → read p.arguments = .ok i := by
  constructor
  · -- behind a double dash, files may have any names
    refine ⟨⟨i.given, i.task.command, (i.task.given naming).map fun (s, value) => .option s value,
      some i.task.files⟩, .refl _, rfl, ?_, ?_, ?_⟩
    · simp [List.flatMap_map, Word.given]
    · simp [List.flatMap_map, Word.files]
    · simp
  · intro p spells
    have distinct : (([] ++ p.options).map Prod.fst).Nodup :=
      (spells.options.map Prod.fst).nodup_iff.mpr i.nodup_given
    have fits (s : Switch) (value : String) (member : (s, value) ∈ p.options) :
        s ∈ globalSwitches ∧ s.Admits value := fits_given (spells.options.mem_iff.mp member)
    have run := readFrom_options fits distinct
    unfold read Spelling.arguments
    rw [show ({} : Scan) = ⟨[], [], .nothing⟩ from rfl, run, List.nil_append, readFrom_name,
      spells.command, spells.readTask_eq complete]
    exact congrArg Except.ok (ofOptions_of_perm spells.options)

/-- Files may have the names of commands, and values may look like options. -/
theorem read_spelled_hidden :
    let i : Invocation := ⟨true, some "", .provision ["check", "-", "--format=json", "a=b"]
      (some .toml) (some "--output=x y")⟩
    let p : Spelling := ⟨[(.file, ""), (.verbose, "")], .provision,
      [.file "check", .option .output "--output=x y", .file "-", .option .format "toml"],
      some ["--format=json", "a=b"]⟩
    i.Complete ∧ p.Spells .usual i ∧
      p.arguments = ["--file=", "--verbose", "export", "check", "--output=--output=x y", "-",
        "--format=toml", "--", "--format=json", "a=b"] ∧
      read p.arguments = .ok i := by
  intro i p
  have complete : i.Complete := ⟨fun _ => by decide, by decide, by decide⟩
  have spells : p.Spells .usual i := by
    refine ⟨by decide, rfl, by decide, rfl, ?_⟩
    intro name member
    simp [p] at member
    rcases member with rfl | rfl
    · exact fun dash => absurd dash (by decide)
    · exact fun _ => rfl
  exact ⟨complete, spells, by decide, (read_spelled complete .usual).2 p spells⟩

end Invocation
end ClusterVars
