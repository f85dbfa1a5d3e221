import Mathlib.Data.List.Nodup
import Mathlib.Logic.Function.Basic

/-!
# Items in groups

Items have a name and belong to a group.  A map from names to items can be
kept as one list for each group, as long as no item replaces its namesake of
another group.
-/

namespace Grouped

universe u v w

variable {ι : Type u} {κ : Type v} {α : Type w}
variable [DecidableEq ι] [DecidableEq κ]

/-- Put an item at the end of its group, instead of its namesake there. -/
def replace (nameOf : α → ι) (groupOf : α → κ) (lists : κ → List α)
    (item : α) : κ → List α :=
  Function.update lists (groupOf item)
    ((lists (groupOf item)).filter
        (fun other => nameOf other != nameOf item) ++ [item])

/-- Take the items of a name out of all groups. -/
def remove (nameOf : α → ι) (lists : κ → List α) (name : ι) : κ → List α :=
  fun group => (lists group).filter fun item => nameOf item != name

/-- The lists hold the items of the map, each once and in its group. -/
structure Represents (nameOf : α → ι) (groupOf : α → κ)
    (lists : κ → List α) (current : ι → Option α) : Prop where
  named : ∀ name item, current name = some item → nameOf item = name
  mem_iff : ∀ group item,
    item ∈ lists group ↔
      current (nameOf item) = some item ∧ groupOf item = group
  nodup : ∀ group, ((lists group).map nameOf).Nodup

/-- The namesake of the item, if any, belongs to the same group. -/
def KeepsGroup (nameOf : α → ι) (groupOf : α → κ)
    (current : ι → Option α) (item : α) : Prop :=
  ∀ other, current (nameOf item) = some other → groupOf other = groupOf item

variable {nameOf : α → ι} {groupOf : α → κ}
variable {lists : κ → List α} {current : ι → Option α}
variable {item other : α} {name : ι} {group : κ}

omit [DecidableEq ι] [DecidableEq κ] in
theorem represents_empty :
    Represents nameOf groupOf (fun _ => []) (fun _ => none) := by
  refine ⟨nofun, ?_, fun _ => List.nodup_nil⟩
  intro group item
  constructor
  · intro member
    cases member
  · intro held
    cases held.1

theorem mem_replace :
    other ∈ replace nameOf groupOf lists item group ↔
      (group = groupOf item ∧ other = item) ∨
        (other ∈ lists group ∧
          (group = groupOf item → nameOf other ≠ nameOf item)) := by
  unfold replace
  by_cases same : group = groupOf item
  · subst same
    rw [Function.update_self, List.mem_append, List.mem_filter,
      List.mem_singleton]
    constructor
    · intro member
      rcases member with ⟨inList, differs⟩ | isItem
      · exact .inr ⟨inList, fun _ => by simpa using differs⟩
      · exact .inl ⟨rfl, isItem⟩
    · intro held
      rcases held with ⟨_, isItem⟩ | ⟨inList, differs⟩
      · exact .inr isItem
      · exact .inl ⟨inList, by simpa using differs rfl⟩
  · rw [Function.update_of_ne same]
    constructor
    · intro member
      exact .inr ⟨member, fun isSame => absurd isSame same⟩
    · intro held
      rcases held with ⟨isSame, _⟩ | ⟨inList, _⟩
      · exact absurd isSame same
      · exact inList

theorem nodup_replace
    (nodup : ∀ group, ((lists group).map nameOf).Nodup) (group : κ) :
    ((replace nameOf groupOf lists item group).map nameOf).Nodup := by
  unfold replace
  by_cases same : group = groupOf item
  · subst same
    rw [Function.update_self, List.map_append]
    apply List.Nodup.append
    · exact (nodup _).sublist (List.filter_sublist.map _)
    · exact List.nodup_singleton _
    · intro name kept last
      obtain ⟨found, member, rfl⟩ := List.mem_map.mp kept
      have differs := (List.mem_filter.mp member).2
      rw [List.map_singleton, List.mem_singleton] at last
      simp [last] at differs
  · rw [Function.update_of_ne same]
    exact nodup group

/-- An item that stays in the group of its namesake replaces it. -/
theorem Represents.replace
    (represents : Represents nameOf groupOf lists current)
    (keeps : KeepsGroup nameOf groupOf current item) :
    Represents nameOf groupOf (replace nameOf groupOf lists item)
      (Function.update current (nameOf item) (some item)) := by
  refine ⟨?_, ?_, nodup_replace represents.nodup⟩
  · intro name found held
    by_cases same : name = nameOf item
    · subst same
      rw [Function.update_self] at held
      cases held
      rfl
    · rw [Function.update_of_ne same] at held
      exact represents.named name found held
  · intro group found
    rw [mem_replace, represents.mem_iff]
    by_cases same : nameOf found = nameOf item
    · rw [same, Function.update_self]
      constructor
      · intro held
        rcases held with ⟨isGroup, isItem⟩ | ⟨⟨wasHeld, wasGroup⟩, differs⟩
        · exact ⟨by rw [isItem], by rw [isItem, isGroup]⟩
        · rw [keeps found wasHeld] at wasGroup
          exact absurd rfl (differs wasGroup.symm)
      · intro held
        obtain ⟨isItem, isGroup⟩ := held
        cases isItem
        exact .inl ⟨isGroup.symm, rfl⟩
    · rw [Function.update_of_ne same]
      constructor
      · intro held
        rcases held with ⟨_, isItem⟩ | ⟨wasHeld, _⟩
        · exact absurd (congrArg nameOf isItem) same
        · exact wasHeld
      · intro held
        exact .inr ⟨held, fun _ => same⟩

omit [DecidableEq κ] in
theorem Represents.remove
    (represents : Represents nameOf groupOf lists current) (name : ι) :
    Represents nameOf groupOf (remove nameOf lists name)
      (Function.update current name none) := by
  refine ⟨?_, ?_, ?_⟩
  · intro tested found held
    by_cases same : tested = name
    · rw [same, Function.update_self] at held
      cases held
    · rw [Function.update_of_ne same] at held
      exact represents.named tested found held
  · intro group found
    rw [Grouped.remove, List.mem_filter, represents.mem_iff]
    by_cases same : nameOf found = name
    · simp [same]
    · simp [same]
  · intro group
    exact (represents.nodup group).sublist (List.filter_sublist.map _)

omit [DecidableEq ι] [DecidableEq κ] in
/-- A name occurs in one group. -/
theorem Represents.group_eq
    (represents : Represents nameOf groupOf lists current)
    {otherGroup : κ} (member : item ∈ lists group)
    (otherMember : other ∈ lists otherGroup)
    (namesake : nameOf item = nameOf other) :
    item = other ∧ group = otherGroup := by
  obtain ⟨held, isGroup⟩ := (represents.mem_iff group item).mp member
  obtain ⟨otherHeld, isOtherGroup⟩ :=
    (represents.mem_iff otherGroup other).mp otherMember
  rw [namesake, otherHeld] at held
  cases held
  exact ⟨rfl, isGroup.symm.trans isOtherGroup⟩

omit [DecidableEq κ] in
/-- Looking through the groups, in any order, finds the item of a name. -/
theorem Represents.findSome_eq
    (represents : Represents nameOf groupOf lists current)
    {groups : List κ} (covers : ∀ group, lists group ≠ [] → group ∈ groups)
    (name : ι) :
    (groups.findSome? fun group =>
        (lists group).find? fun item => nameOf item == name) =
      current name := by
  have sound : ∀ group item,
      (lists group).find? (fun item => nameOf item == name) = some item →
        current name = some item := by
    intro group item found
    have isName : nameOf item = name := by
      simpa using List.find?_some found
    rw [← isName]
    exact ((represents.mem_iff group item).mp
      (List.mem_of_find?_eq_some found)).1
  cases found : groups.findSome? fun group =>
      (lists group).find? fun item => nameOf item == name with
  | some item =>
      obtain ⟨group, _, isFound⟩ := List.exists_of_findSome?_eq_some found
      exact (sound group item isFound).symm
  | none =>
      cases held : current name with
      | none => rfl
      | some item =>
          have isName := represents.named name item held
          have member : item ∈ lists (groupOf item) := by
            rw [represents.mem_iff, isName]
            exact ⟨held, rfl⟩
          have absent := List.findSome?_eq_none_iff.mp found (groupOf item)
            (covers _ (List.ne_nil_of_mem member))
          have differs := List.find?_eq_none.mp absent item member
          simp [isName] at differs

end Grouped
