import ClusterVars.FileTree

/-! Writing a file. The text is read back at the path it was written to; directories stay what they
were, so that a path which led somewhere still leads there, and whatever else stands there reads as
before. -/
namespace ClusterVars.FileTree
variable {t after : FileTree} {names ns : List String} {text : String}

/-! Directories -/

theorem isDirectory_iff : t.isDirectory names = true ↔
    (∃ directory ∈ t.workingDirectory :: t.directories, names <+: directory) ∨
      ∃ file ∈ t.files, names <+: file.1 ∧ names.length < file.1.length := by
  simp only [isDirectory, Bool.or_eq_true, List.any_eq_true, List.isPrefixOf_iff_prefix,
    Bool.and_eq_true, decide_eq_true_eq]

theorem isDirectory_above (leads : ns <+: names) (directory : t.isDirectory names = true) :
    t.isDirectory ns = true := by
  rw [isDirectory_iff] at directory ⊢
  rcases directory with ⟨other, member, below⟩ | ⟨file, member, below, shorter⟩
  · exact .inl ⟨other, member, leads.trans below⟩
  · exact .inr ⟨file, member, leads.trans below, Nat.lt_of_le_of_lt leads.length_le shorter⟩

theorem isDirectory_workingDirectory (t : FileTree) : t.isDirectory t.workingDirectory = true :=
  isDirectory_iff.mpr (.inl ⟨_, List.mem_cons_self, List.prefix_rfl⟩)

/-- Every path starts from a directory. -/
theorem isDirectory_start (t : FileTree) (path : String) : t.isDirectory (t.start path) = true := by
  rw [start]
  split
  · exact isDirectory_above List.nil_prefix t.isDirectory_workingDirectory
  · exact t.isDirectory_workingDirectory

/-- The names of a file that stands in a directory, or may be put there. -/
def IsFileName (t : FileTree) (names : List String) : Prop :=
  (∃ parent name, names = parent ++ [name] ∧ t.isDirectory parent = true) ∧
    t.isDirectory names = false

/-- A step from a directory leads to one, or to where a file may be put. -/
theorem isFileName_enter {name : String} (directory : t.isDirectory names = true)
    (file : t.isDirectory (enter names name) = false) : t.IsFileName (enter names name) := by
  refine ⟨?_, file⟩
  unfold enter at file ⊢
  split at file
  · rw [directory] at file
    contradiction
  · rename_i named
    split at file
    · rw [isDirectory_above (List.dropLast_prefix names) directory] at file
      contradiction
    · rename_i down
      rw [if_neg named, if_neg down]
      exact ⟨names, name, rfl, directory⟩

theorem isFileName_follow {final : List String} {segments : List String}
    (directory : t.isDirectory names = true) (followed : t.follow names segments = .ok final)
    (file : t.isDirectory final = false) : t.IsFileName final := by
  induction segments generalizing names with
  | nil =>
    cases followed
    rw [directory] at file
    contradiction
  | cons name rest ih =>
    rw [follow, if_pos directory] at followed
    split at followed
    · contradiction
    · by_cases onward : t.isDirectory (enter names name) = true
      · exact ih onward followed
      · -- nothing stands below what is no directory, so the path ends here
        cases rest with
        | nil =>
          cases followed
          exact isFileName_enter directory file
        | cons next rest =>
          rw [follow, if_neg onward] at followed
          split at followed <;> contradiction

theorem isFileName_locate {path : String} (located : t.locate path = .ok names)
    (file : t.isDirectory names = false) : t.IsFileName names := by
  unfold locate followPath at located
  split at located
  · contradiction
  · exact isFileName_follow (t.isDirectory_start path) located file

/-! Putting a file into a directory -/

theorem isDirectory_put (named : t.IsFileName names) (text : String) (ns : List String) :
    (t.put names text).isDirectory ns = t.isDirectory ns := by
  rw [Bool.eq_iff_iff, isDirectory_iff, isDirectory_iff]
  constructor
  · rintro (directory | ⟨file, member, below, shorter⟩)
    · exact .inl directory
    · rcases List.mem_cons.mp member with rfl | kept
      · obtain ⟨⟨parent, name, rfl, directory⟩, -⟩ := named
        have inParent : ns <+: parent := by
          refine (List.prefix_concat_iff.mp below).resolve_left fun same => ?_
          subst same
          exact Nat.lt_irrefl _ shorter
        exact isDirectory_iff.mp (isDirectory_above inParent directory)
      · exact .inr ⟨file, (List.mem_filter.mp kept).1, below, shorter⟩
  · rintro (directory | ⟨file, member, below, shorter⟩)
    · exact .inl directory
    · by_cases replaced : file.1 = names
      · exact .inr ⟨(names, some text), List.mem_cons_self, replaced ▸ below, replaced ▸ shorter⟩
      · have kept : file ∈ t.files.filter (·.1 ≠ names) :=
          List.mem_filter.mpr ⟨member, by simpa using replaced⟩
        exact .inr ⟨file, List.mem_cons_of_mem _ kept, below, shorter⟩

theorem content?_put (named : t.IsFileName names) (text : String) (ns : List String) :
    (t.put names text).content? ns = if ns = names then some (some text) else t.content? ns := by
  rw [content?, isDirectory_put named, content?, put]
  by_cases same : ns = names
  · subst same
    simp [named.2]
  · rw [if_neg same, List.find?_cons_of_neg (by simpa using Ne.symm same), List.find?_filter]
    congr 3
    funext file
    by_cases here : file.1 = ns <;> simp [here, same]

theorem follow_put (named : t.IsFileName names) (text : String) {final segments : List String}
    (followed : t.follow ns segments = .ok final) :
    (t.put names text).follow ns segments = .ok final := by
  induction segments generalizing ns with
  | nil => exact followed
  | cons name rest ih =>
    rw [follow] at followed ⊢
    rw [isDirectory_put named]
    split at followed
    · rename_i directory
      rw [if_pos directory]
      split at followed
      · contradiction
      · rename_i short
        rw [if_neg short]
        exact ih followed
    · split at followed <;> contradiction

theorem locate_put (named : t.IsFileName names) (text : String) {path : String}
    (located : t.locate path = .ok ns) : (t.put names text).locate path = .ok ns := by
  unfold locate followPath at located ⊢
  split at located
  · contradiction
  · exact follow_put named text located

/-! Reading after writing -/

theorem locate_of_read {path : String} (readable : t.read path = .ok text) :
    ∃ names, t.locate path = .ok names := by
  cases located : t.locate path with
  | error cause => simp [read, located] at readable
  | ok names => exact ⟨names, rfl⟩

theorem write_eq_ok {path : String} (written : t.write path text = .ok after) :
    ∃ names, t.locate path = .ok names ∧ t.IsFileName names ∧ after = t.put names text := by
  unfold write at written
  simp only at written
  split at written
  · split at written <;> contradiction
  · split at written
    · contradiction
    · rename_i names located
      split at written
      · contradiction
      · rename_i file
        cases written
        exact ⟨names, located, isFileName_locate located (by simpa using file), rfl⟩

theorem read_of_write {path : String} (written : t.write path text = .ok after) :
    after.read path = .ok text := by
  obtain ⟨names, located, named, rfl⟩ := write_eq_ok written
  rw [read, locate_put named text located]
  simp [isDirectory_put named, named.2, content?_put named]

/-- Another path that leads somewhere else reads as before. -/
theorem read_of_write_apart {path other : String} (written : t.write path text = .ok after)
    (located : t.locate other = .ok ns) (apart : t.locate other ≠ t.locate path) :
    after.read other = t.read other := by
  obtain ⟨names, here, named, rfl⟩ := write_eq_ok written
  have different : ns ≠ names := by
    rintro rfl
    exact apart (located.trans here.symm)
  rw [read, read, locate_put named text located, located]
  simp [isDirectory_put named, content?_put named, different]

end ClusterVars.FileTree
