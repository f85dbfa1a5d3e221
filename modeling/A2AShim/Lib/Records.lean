import Mathlib.Data.List.Basic

/-!
# Records that end with a blank line

A text as a list, in which two marks in a row end a record.  Records without a
mark are found again in the text they make up.
-/

namespace Records

universe u

variable {α : Type u}

def terminated (mark : α) (record : List α) : List α :=
  record ++ [mark, mark]

/-- The records of a text.  What follows the last pair of marks, if anything,
is a record too. -/
def split [DecidableEq α] (mark : α) : List α → List (List α)
  | [] => []
  | [last] => [[last]]
  | first :: second :: rest =>
      if first = mark ∧ second = mark then
        [] :: split mark rest
      else
        match split mark (second :: rest) with
        | [] => [[first]]
        | record :: others => (first :: record) :: others

variable [DecidableEq α] {mark : α}

theorem split_terminated_append
    {record : List α} (unmarked : mark ∉ record) (rest : List α) :
    split mark (terminated mark record ++ rest) =
      record :: split mark rest := by
  induction record with
  | nil => simp [terminated, split]
  | cons first others inductionHypothesis =>
      have isOther : first ≠ mark := by
        intro same
        exact unmarked (by simp [same])
      have later : mark ∉ others := fun member =>
        unmarked (List.mem_cons_of_mem first member)
      have remaining := inductionHypothesis later
      obtain ⟨second, tail, isTail⟩ :
          ∃ second tail, terminated mark others ++ rest = second :: tail := by
        cases others with
        | nil => exact ⟨mark, mark :: rest, rfl⟩
        | cons second tail => exact ⟨second, _, rfl⟩
      have unfolded :
          terminated mark (first :: others) ++ rest =
            first :: second :: tail := by
        rw [← isTail]
        rfl
      rw [isTail] at remaining
      rw [unfolded, split]
      simp [isOther, remaining]

/-- The records of a text made up of such records. -/
theorem split_flatMap
    (records : List (List α))
    (unmarked : ∀ record, record ∈ records → mark ∉ record) :
    split mark (records.flatMap (terminated mark)) = records := by
  induction records with
  | nil => rfl
  | cons record rest inductionHypothesis =>
      have first := unmarked record List.mem_cons_self
      have others :=
        inductionHypothesis fun other member =>
          unmarked other (List.mem_cons_of_mem record member)
      rw [List.flatMap_cons, split_terminated_append first, others]

end Records
