import Mathlib.Data.List.Nodup

/-!
# Paging through a list that grows

A page starts behind a cursor, which is an entry of the list, and ends with
the cursor of the next page as long as something is left.  A reader that
follows the cursors while entries are added at the end reads a prefix of the
list, and has read all of it when there is no further cursor.
-/

namespace CursorPaging

universe u

variable {α : Type u}

/-- A reader that has got these entries, in this order, has the cursor. -/
def Follows (order got : List α) (after : Option α) : Prop :=
  got <+: order ∧ got.getLast? = after

theorem follows_start (order : List α) : Follows order [] none :=
  ⟨List.nil_prefix, rfl⟩

/-- Entries added at the end do not disturb the reader. -/
theorem Follows.grow
    {order got : List α} {after : Option α}
    (follows : Follows order got after) (added : List α) :
    Follows (order ++ added) got after :=
  ⟨follows.1.trans (List.prefix_append order added), follows.2⟩

variable [DecidableEq α]

/-- What comes behind the cursor, if the list has the cursor. -/
def behind (order : List α) : Option α → Option (List α)
  | none => some order
  | some cursor =>
      (order.findIdx? (· = cursor)).map fun position =>
        order.drop (position + 1)

/-- A page of at most `size` entries, and the cursor of the next page. -/
def page (size : Nat) (order : List α) (after : Option α) :
    List α × Option α :=
  match behind order after with
  | none => ([], none)
  | some rest =>
      (rest.take size,
        if size < rest.length then (rest.take size).getLast? else none)

variable {order got rest : List α} {after : Option α} {size : Nat}

theorem findIdx?_last
    {front rest : List α} {last : α}
    (distinct : (front ++ last :: rest).Nodup) :
    (front ++ last :: rest).findIdx? (· = last) = some front.length := by
  induction front with
  | nil => simp [List.findIdx?_cons]
  | cons head tail inductionHypothesis =>
      simp only [List.cons_append, List.nodup_cons] at distinct
      have different : head ≠ last := by
        intro same
        subst same
        exact distinct.1 (by simp)
      simp [List.findIdx?_cons, different, inductionHypothesis distinct.2]

/-- The cursor of a reader is found, and behind it is what it has not read. -/
theorem Follows.behind
    (follows : Follows order got after) (distinct : order.Nodup) :
    ∃ rest, behind order after = some rest ∧ order = got ++ rest := by
  obtain ⟨⟨rest, rfl⟩, isLast⟩ := follows
  refine ⟨rest, ?_, rfl⟩
  rcases List.eq_nil_or_concat got with rfl | ⟨front, last, rfl⟩
  · cases isLast
    rfl
  · simp only [List.concat_eq_append, List.getLast?_append,
      List.getLast?_singleton, Option.some_or] at isLast
    subst isLast
    simp only [List.concat_eq_append, List.append_assoc,
      List.singleton_append] at distinct ⊢
    rw [CursorPaging.behind, findIdx?_last distinct]
    simp

/-- Reading a page: either the reader goes on with the next cursor, having
read more, or it has read everything. -/
theorem Follows.read
    (follows : Follows order got after) (distinct : order.Nodup)
    (positive : 0 < size) :
    (∃ cursor, (page size order after).2 = some cursor ∧
        (page size order after).1 ≠ [] ∧
          Follows order (got ++ (page size order after).1)
            (some cursor)) ∨
      ((page size order after).2 = none ∧
        got ++ (page size order after).1 = order) := by
  obtain ⟨rest, isBehind, whole⟩ := follows.behind distinct
  subst whole
  by_cases more : size < rest.length
  · left
    have nonempty : rest.take size ≠ [] := by
      intro nothing
      have noLength := congrArg List.length nothing
      simp only [List.length_take, List.length_nil] at noLength
      omega
    obtain ⟨cursor, isLast⟩ :=
      Option.isSome_iff_exists.mp (List.getLast?_isSome.mpr nonempty)
    refine ⟨cursor, ?_, ?_, ?_, ?_⟩
    · simp only [page, isBehind, more, if_true]
      exact isLast
    · simpa only [page, isBehind] using nonempty
    · simp only [page, isBehind]
      exact (List.prefix_append_right_inj got).mpr (List.take_prefix _ _)
    · simp only [page, isBehind, List.getLast?_append, isLast,
        Option.some_or]
  · right
    constructor
    · simp only [page, isBehind, more, if_false]
    · simp only [page, isBehind]
      rw [List.take_of_length_le (by omega)]

/-- A cursor is an entry of the page it comes with. -/
theorem cursor_mem
    {cursor : α} (isCursor : (page size order after).2 = some cursor) :
    cursor ∈ order := by
  unfold page at isCursor
  split at isCursor
  · cases isCursor
  · rename_i rest isBehind
    split at isCursor
    · have inPage := List.mem_of_getLast? isCursor
      have inRest := List.mem_of_mem_take inPage
      cases after with
      | none =>
          cases isBehind
          exact inRest
      | some previous =>
          obtain ⟨position, _, rfl⟩ := Option.map_eq_some_iff.mp isBehind
          exact List.mem_of_mem_drop inRest
    · cases isCursor

end CursorPaging
