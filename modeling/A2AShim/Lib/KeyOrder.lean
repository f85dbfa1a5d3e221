import Mathlib.Data.List.Basic
import Mathlib.Order.Lattice

/-!
# Maps as lists in key order

The members of a map, each key once and in ascending order.  Two such lists
with the same members under every key are the same list.
-/

namespace KeyOrder

universe u v

variable {κ : Type u} {ν : Type v} [LinearOrder κ]

def InOrder (members : List (κ × ν)) : Prop :=
  members.Pairwise fun first second => first.1 < second.1

def member (key : κ) (members : List (κ × ν)) : Option ν :=
  (members.find? fun found => found.1 == key).map Prod.snd

/-- Insert a member, or overwrite the one under its key. -/
def insert (key : κ) (value : ν) : List (κ × ν) → List (κ × ν)
  | [] => [(key, value)]
  | (name, other) :: rest =>
      if name = key then
        (key, value) :: rest
      else if key < name then
        (key, value) :: (name, other) :: rest
      else
        (name, other) :: insert key value rest

/-- Insert members one after the other. -/
def insertAll (added members : List (κ × ν)) : List (κ × ν) :=
  added.foldl (fun current found => insert found.1 found.2 current) members

variable {key tested : κ} {value : ν} {members left right : List (κ × ν)}

theorem member_cons (name : κ) (other : ν) (rest : List (κ × ν)) :
    member key ((name, other) :: rest) =
      if name = key then some other else member key rest := by
  by_cases same : name = key
  · simp [member, same]
  · simp [member, same]

/-- An insertion changes what is under its key, and nothing else. -/
theorem member_insert (members : List (κ × ν)) :
    member tested (insert key value members) =
      if key = tested then some value else member tested members := by
  induction members with
  | nil => simp [insert, member_cons]
  | cons first rest inductionHypothesis =>
      rcases first with ⟨name, other⟩
      by_cases same : name = key
      · subst same
        rw [insert, if_pos rfl, member_cons, member_cons]
        split <;> rfl
      · by_cases before : key < name
        · rw [insert, if_neg same, if_pos before, member_cons]
        · rw [insert, if_neg same, if_neg before, member_cons,
            inductionHypothesis, member_cons]
          by_cases isName : name = tested
          · subst isName
            simp [Ne.symm same]
          · simp [isName]

theorem mem_insert
    {found : κ × ν} (isMember : found ∈ insert key value members) :
    found = (key, value) ∨ found ∈ members := by
  induction members with
  | nil => exact .inl (List.mem_singleton.mp isMember)
  | cons first rest inductionHypothesis =>
      rcases first with ⟨name, other⟩
      unfold insert at isMember
      split at isMember
      · rcases List.mem_cons.mp isMember with isNew | isOld
        · exact .inl isNew
        · exact .inr (List.mem_cons_of_mem _ isOld)
      · split at isMember
        · exact List.mem_cons.mp isMember
        · rcases List.mem_cons.mp isMember with isFirst | isLater
          · exact .inr (by simp [isFirst])
          · rcases inductionHypothesis isLater with isNew | isOld
            · exact .inl isNew
            · exact .inr (List.mem_cons_of_mem _ isOld)

theorem mem_insert_iff
    {found : κ × ν} (absent : ∀ other, other ∈ members → other.1 ≠ key) :
    found ∈ insert key value members ↔
      found = (key, value) ∨ found ∈ members := by
  refine ⟨mem_insert, ?_⟩
  induction members with
  | nil => simp [insert]
  | cons first rest inductionHypothesis =>
      rcases first with ⟨name, other⟩
      have different : name ≠ key := absent _ List.mem_cons_self
      have absentLater : ∀ other, other ∈ rest → other.1 ≠ key :=
        fun other member => absent other (List.mem_cons_of_mem _ member)
      unfold insert
      rw [if_neg different]
      split
      · exact List.mem_cons.mpr
      · rintro (isNew | isOld)
        · exact List.mem_cons_of_mem _ (inductionHypothesis absentLater
            (.inl isNew))
        · rcases List.mem_cons.mp isOld with isFirst | isLater
          · rw [isFirst]
            exact List.mem_cons_self
          · exact List.mem_cons_of_mem _ (inductionHypothesis absentLater
              (.inr isLater))

/-- Members under different keys are all there in the end. -/
theorem mem_insertAll_iff
    {found : κ × ν} {added : List (κ × ν)}
    (distinct : (added.map Prod.fst).Nodup)
    (absent : ∀ other, other ∈ members → other.1 ∉ added.map Prod.fst) :
    found ∈ insertAll added members ↔ found ∈ added ∨ found ∈ members := by
  induction added generalizing members with
  | nil => simp [insertAll]
  | cons first rest inductionHypothesis =>
      rcases first with ⟨name, other⟩
      obtain ⟨notLater, distinctLater⟩ := List.nodup_cons.mp distinct
      have absentName : ∀ other, other ∈ members → other.1 ≠ name :=
        fun other member same =>
          absent other member (same ▸ List.mem_cons_self)
      have others :
          ∀ tested, tested ∈ insert name other members →
            tested.1 ∉ rest.map Prod.fst := by
        intro tested member
        rcases mem_insert member with rfl | isOld
        · exact notLater
        · exact fun later =>
            absent tested isOld (List.mem_cons_of_mem _ later)
      have folded :
          insertAll ((name, other) :: rest) members =
            insertAll rest (insert name other members) :=
        rfl
      rw [folded, inductionHypothesis distinctLater others,
        mem_insert_iff absentName, List.mem_cons]
      exact or_left_comm.trans or_assoc.symm

theorem InOrder.insert
    (ordered : InOrder members) (key : κ) (value : ν) :
    InOrder (insert key value members) := by
  induction members with
  | nil => exact List.pairwise_singleton _ _
  | cons first rest inductionHypothesis =>
      rcases first with ⟨name, other⟩
      obtain ⟨after, orderedRest⟩ := List.pairwise_cons.mp ordered
      unfold KeyOrder.insert
      split
      · rename_i same
        subst same
        exact List.pairwise_cons.mpr ⟨after, orderedRest⟩
      · rename_i different
        split
        · rename_i before
          refine List.pairwise_cons.mpr ⟨?_, ordered⟩
          intro found isMember
          rcases List.mem_cons.mp isMember with isFirst | isLater
          · rw [isFirst]
            exact before
          · exact lt_trans before (after found isLater)
        · rename_i notBefore
          refine List.pairwise_cons.mpr ⟨?_, inductionHypothesis orderedRest⟩
          intro found isMember
          rcases mem_insert isMember with isNew | isOld
          · rw [isNew]
            exact lt_of_le_of_ne (not_lt.mp notBefore) different
          · exact after found isOld

theorem InOrder.insertAll
    (ordered : InOrder members) (added : List (κ × ν)) :
    InOrder (insertAll added members) := by
  induction added generalizing members with
  | nil => exact ordered
  | cons first rest inductionHypothesis =>
      exact inductionHypothesis (ordered.insert first.1 first.2)

theorem InOrder.filter
    (ordered : InOrder members) (keeps : κ × ν → Bool) :
    InOrder (members.filter keeps) :=
  List.Pairwise.filter keeps ordered

theorem member_filter (keeps : κ → Bool) (members : List (κ × ν)) :
    member key (members.filter fun found => keeps found.1) =
      if keeps key then member key members else none := by
  induction members with
  | nil => simp [member]
  | cons first rest inductionHypothesis =>
      rcases first with ⟨name, other⟩
      by_cases kept : keeps name = true
      · have isKept :
            ((name, other) :: rest).filter (fun found => keeps found.1) =
              (name, other) :: rest.filter fun found => keeps found.1 :=
          List.filter_cons_of_pos kept
        rw [isKept, member_cons, member_cons, inductionHypothesis]
        by_cases same : name = key
        · subst same
          simp [kept]
        · simp [same]
      · have isDropped :
            ((name, other) :: rest).filter (fun found => keeps found.1) =
              rest.filter fun found => keeps found.1 :=
          List.filter_cons_of_neg kept
        rw [isDropped, member_cons, inductionHypothesis]
        by_cases same : name = key
        · subst same
          simp [kept]
        · simp [same]

theorem member_eq_none_of_absent
    (absent : ∀ found, found ∈ members → found.1 ≠ key) :
    member key members = none := by
  induction members with
  | nil => rfl
  | cons first rest inductionHypothesis =>
      rw [member_cons, if_neg (absent first List.mem_cons_self)]
      exact inductionHypothesis fun found isMember =>
        absent found (List.mem_cons_of_mem _ isMember)

theorem member_none_of_before
    (before : ∀ found, found ∈ members → key < found.1) :
    member key members = none :=
  member_eq_none_of_absent fun found isMember =>
    ne_of_gt (before found isMember)

theorem insertAll_cons
    (first : κ × ν) (rest members : List (κ × ν)) :
    insertAll (first :: rest) members =
      insertAll rest (insert first.1 first.2 members) :=
  rfl

/-- Insertions leave alone what is under another key. -/
theorem member_insertAll_of_absent
    {added : List (κ × ν)}
    (absent : ∀ found, found ∈ added → found.1 ≠ key) :
    member key (insertAll added members) = member key members := by
  induction added generalizing members with
  | nil => rfl
  | cons first rest inductionHypothesis =>
      have different := absent first List.mem_cons_self
      rw [insertAll_cons, inductionHypothesis fun found isMember =>
        absent found (List.mem_cons_of_mem _ isMember)]
      rw [member_insert, if_neg different]

/-- Inserting a map overwrites the members under its keys. -/
theorem member_insertAll
    {added : List (κ × ν)} (ordered : InOrder added)
    (members : List (κ × ν)) :
    member key (insertAll added members) =
      (member key added).or (member key members) := by
  induction added generalizing members with
  | nil => rfl
  | cons first rest inductionHypothesis =>
      rcases first with ⟨name, value⟩
      obtain ⟨after, orderedRest⟩ := List.pairwise_cons.mp ordered
      rw [insertAll_cons, member_cons]
      by_cases same : name = key
      · subst same
        rw [member_insertAll_of_absent fun found isMember =>
          ne_of_gt (after found isMember)]
        simp [member_insert]
      · rw [inductionHypothesis orderedRest, member_insert, if_neg same,
          if_neg same]

theorem InOrder.member_none_of_lt
    {name : κ} {rest : List (κ × ν)}
    (ordered : InOrder ((name, value) :: rest)) (before : key < name) :
    member key ((name, value) :: rest) = none := by
  have after := (List.pairwise_cons.mp ordered).1
  apply member_none_of_before
  intro found isMember
  rcases List.mem_cons.mp isMember with isFirst | isLater
  · rw [isFirst]
    exact before
  · exact lt_trans before (after found isLater)

/-- Maps with the same members begin with the same key. -/
theorem head_le_of_member_eq
    {name otherName : κ} {otherValue : ν} {rest others : List (κ × ν)}
    (ordered : InOrder ((otherName, otherValue) :: others))
    (same : ∀ key, member key ((name, value) :: rest) =
      member key ((otherName, otherValue) :: others)) :
    otherName ≤ name := by
  by_contra notLe
  have found := same name
  rw [ordered.member_none_of_lt (not_le.mp notLe), member_cons,
    if_pos rfl] at found
  cases found

/-- A map in key order is determined by what is under its keys. -/
theorem eq_of_member_eq
    (leftOrder : InOrder left) (rightOrder : InOrder right)
    (same : ∀ key, member key left = member key right) :
    left = right := by
  induction left generalizing right with
  | nil =>
      cases right with
      | nil => rfl
      | cons first rest =>
          have found := same first.1
          rw [member_cons, if_pos rfl] at found
          cases found
  | cons first rest inductionHypothesis =>
      cases right with
      | nil =>
          have found := same first.1
          rw [member_cons, if_pos rfl] at found
          cases found
      | cons other others =>
          rcases first with ⟨name, value⟩
          rcases other with ⟨otherName, otherValue⟩
          have sameName : otherName = name :=
            le_antisymm (head_le_of_member_eq rightOrder same)
              (head_le_of_member_eq leftOrder fun key => (same key).symm)
          subst sameName
          have foundName := same otherName
          rw [member_cons, if_pos rfl, member_cons, if_pos rfl] at foundName
          cases foundName
          obtain ⟨after, restOrder⟩ := List.pairwise_cons.mp leftOrder
          obtain ⟨otherAfter, othersOrder⟩ := List.pairwise_cons.mp rightOrder
          have sameRest : rest = others := by
            refine inductionHypothesis restOrder othersOrder ?_
            intro key
            by_cases isName : otherName = key
            · subst isName
              rw [member_none_of_before after,
                member_none_of_before otherAfter]
            · have found := same key
              rw [member_cons, member_cons, if_neg isName,
                if_neg isName] at found
              exact found
          rw [sameRest]

end KeyOrder
