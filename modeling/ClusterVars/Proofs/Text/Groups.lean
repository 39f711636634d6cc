import ClusterVars.Text.Groups

/-! Grouped digits, as a list of groups. The reader goes character by character; it accepts a text
exactly when the text is groups joined by single underscores, and it returns the groups without
them. -/
namespace ClusterVars.Text

/-- Groups joined by single underscores, none of them empty, and their digits alone. -/
def Grouped (digit : Char → Bool) (spelled digits : List Char) : Prop :=
  ∃ groups : List (List Char), groups ≠ [] ∧
    (∀ group ∈ groups, group ≠ [] ∧ ∀ c ∈ group, digit c = true) ∧
    spelled = ['_'].intercalate groups ∧ digits = groups.flatten

variable {digit : Char → Bool}

/-! The reader takes in every group -/

theorem ungroup?_of_digits {cs : List Char} (nonempty : cs ≠ [])
    (digits : ∀ c ∈ cs, digit c = true) (ungrouped : '_' ∉ cs) : ungroup? digit cs = some cs := by
  induction cs with
  | nil => contradiction
  | cons c rest ih =>
    have first : digit c = true := digits c (by simp)
    cases rest with
    | nil => simp [ungroup?, first]
    | cons d rest =>
      have next : d ≠ '_' := by rintro rfl; simp at ungrouped
      have others := ih (by simp) (fun c member => digits c (by simp [member]))
        (fun member => ungrouped (by simp [member]))
      rw [ungroup?.eq_4 digit c (d :: rest) (by simp) (by simpa using next), if_pos first, others]
      rfl

theorem ungroup?_group (plain : digit '_' = false) {group : List Char} (nonempty : group ≠ [])
    (digits : ∀ c ∈ group, digit c = true) (rest : List Char) :
    ungroup? digit (group ++ '_' :: rest) = (ungroup? digit rest).map (group ++ ·) := by
  induction group with
  | nil => contradiction
  | cons c group ih =>
    have first : digit c = true := digits c (by simp)
    cases group with
    | nil => simp [ungroup?, first]
    | cons d group =>
      have others := ih (by simp) fun c member => digits c (by simp [member])
      have next : d ≠ '_' := by
        rintro rfl
        simp [digits '_' (by simp)] at plain
      rw [List.cons_append, List.cons_append,
        ungroup?.eq_4 digit c (d :: (group ++ '_' :: rest)) (by simp) (by simpa using next),
        if_pos first, ← List.cons_append, others, Option.map_map]
      rfl

theorem ungroup?_of_grouped (plain : digit '_' = false) {spelled digits : List Char}
    (grouped : Grouped digit spelled digits) : ungroup? digit spelled = some digits := by
  obtain ⟨groups, nonempty, sound, rfl, rfl⟩ := grouped
  induction groups with
  | nil => contradiction
  | cons group groups ih =>
    obtain ⟨filled, inside⟩ := sound group (by simp)
    cases groups with
    | nil =>
      have ungrouped : '_' ∉ group := fun member => by simp [inside '_' member] at plain
      simpa using ungroup?_of_digits filled inside ungrouped
    | cons next groups =>
      have others := ih (by simp) fun group member => sound group (by simp [member])
      rw [List.intercalate_cons_cons, List.append_assoc, List.singleton_append,
        ungroup?_group plain filled inside, others]
      rfl

/-! What the reader takes in is grouped -/

namespace Grouped
variable {spelled digits : List Char} {c : Char}

/-- One more digit in the first group. -/
theorem cons (first : digit c = true) (grouped : Grouped digit spelled digits) :
    Grouped digit (c :: spelled) (c :: digits) := by
  obtain ⟨groups, nonempty, sound, rfl, rfl⟩ := grouped
  obtain ⟨group, groups, rfl⟩ := List.exists_cons_of_ne_nil nonempty
  refine ⟨(c :: group) :: groups, by simp, ?_, ?_, rfl⟩
  · intro other member
    rcases List.mem_cons.mp member with rfl | later
    · exact ⟨by simp, by simpa [first] using (sound group (by simp)).2⟩
    · exact sound other (by simp [later])
  · cases groups <;> simp [List.intercalate_cons_cons]

/-- One more group, of a single digit. -/
theorem group (first : digit c = true) (grouped : Grouped digit spelled digits) :
    Grouped digit (c :: '_' :: spelled) (c :: digits) := by
  obtain ⟨groups, nonempty, sound, rfl, rfl⟩ := grouped
  refine ⟨[c] :: groups, by simp, ?_, ?_, rfl⟩
  · intro other member
    rcases List.mem_cons.mp member with rfl | later
    · simp [first]
    · exact sound other later
  · obtain ⟨group, groups, rfl⟩ := List.exists_cons_of_ne_nil nonempty
    simp [List.intercalate_cons_cons]

theorem nonempty (grouped : Grouped digit spelled digits) : spelled ≠ [] := by
  obtain ⟨groups, nonempty, sound, rfl, -⟩ := grouped
  obtain ⟨group, groups, rfl⟩ := List.exists_cons_of_ne_nil nonempty
  have filled := (sound group (by simp)).1
  cases groups <;> simp [List.intercalate_cons_cons, filled]

theorem digit_or_underscore (grouped : Grouped digit spelled digits) (member : c ∈ spelled) :
    digit c = true ∨ c = '_' := by
  obtain ⟨groups, -, sound, rfl, -⟩ := grouped
  induction groups with
  | nil => simp at member
  | cons group groups ih =>
    have here := (sound group (by simp)).2
    cases groups with
    | nil => exact .inl (here c (by simpa using member))
    | cons next groups =>
      rw [List.intercalate_cons_cons, List.append_assoc] at member
      rcases List.mem_append.mp member with inGroup | later
      · exact .inl (here c inGroup)
      · rcases List.mem_append.mp later with joint | later
        · exact .inr (List.mem_singleton.mp joint)
        · exact ih (fun group member => sound group (by simp [member])) later

end Grouped

theorem grouped_of_ungroup? {spelled digits : List Char}
    (read : ungroup? digit spelled = some digits) : Grouped digit spelled digits := by
  fun_induction ungroup? digit spelled generalizing digits with
  | case1 | case3 | case5 | case7 => simp at read
  | case2 c first =>
    obtain rfl := Option.some.inj read
    exact ⟨[[c]], by simp, by simp [first], by simp, rfl⟩
  | case4 c rest first ih =>
    obtain ⟨others, readOthers, rfl⟩ := Option.map_eq_some_iff.mp read
    exact (ih readOthers).group first
  | case6 c rest _ _ first ih =>
    obtain ⟨others, readOthers, rfl⟩ := Option.map_eq_some_iff.mp read
    exact (ih readOthers).cons first

theorem ungroup?_eq_some_iff (plain : digit '_' = false) {spelled digits : List Char} :
    ungroup? digit spelled = some digits ↔ Grouped digit spelled digits :=
  ⟨grouped_of_ungroup?, ungroup?_of_grouped plain⟩

end ClusterVars.Text
