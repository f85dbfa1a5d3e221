import Mathlib.Data.List.Basic

/-!
# Two lists joined by a separator

Joining loses where the first list ends as soon as the separator may occur in
the lists themselves.
-/

namespace Separated

universe u

variable {α : Type u}

def join (separator : α) (left right : List α) : List α :=
  left ++ separator :: right

/-- The separator of the other pair stands inside `left`: `left` goes on after
it, with the first part of `otherRight`. -/
def Overlaps (separator : α) (left right otherLeft otherRight : List α) :
    Prop :=
  ∃ middle,
    left = otherLeft ++ separator :: middle ∧
      otherRight = middle ++ separator :: right

variable {separator : α} {left right otherLeft otherRight : List α}

theorem Overlaps.join_eq
    (overlaps : Overlaps separator left right otherLeft otherRight) :
    join separator left right = join separator otherLeft otherRight := by
  rcases overlaps with ⟨middle, rfl, rfl⟩
  simp [join]

theorem Overlaps.left_ne
    (overlaps : Overlaps separator left right otherLeft otherRight) :
    left ≠ otherLeft := by
  rcases overlaps with ⟨middle, rfl, _⟩
  simp

theorem Overlaps.separator_mem
    (overlaps : Overlaps separator left right otherLeft otherRight) :
    separator ∈ left := by
  rcases overlaps with ⟨middle, rfl, _⟩
  simp

/-- When the left lists differ in length, the longer one runs across the
separator of the other pair. -/
theorem overlaps_of_append
    {excess : List α} (longer : left = otherLeft ++ excess)
    (shared : separator :: otherRight = excess ++ separator :: right) :
    (left = otherLeft ∧ right = otherRight) ∨
      Overlaps separator left right otherLeft otherRight := by
  cases excess with
  | nil =>
      have sameRight : otherRight = right := by simpa using shared
      exact .inl ⟨by simpa using longer, sameRight.symm⟩
  | cons first middle =>
      simp only [List.cons_append, List.cons.injEq] at shared
      rcases shared with ⟨rfl, crossed⟩
      exact .inr ⟨middle, longer, crossed⟩

/-- Two joined pairs are the same list only if they are the same pair, or one
overlaps the other. -/
theorem join_eq_iff :
    join separator left right = join separator otherLeft otherRight ↔
      (left = otherLeft ∧ right = otherRight) ∨
        Overlaps separator left right otherLeft otherRight ∨
          Overlaps separator otherLeft otherRight left right := by
  constructor
  · intro same
    rcases List.append_eq_append_iff.mp same with
      ⟨excess, longer, shared⟩ | ⟨excess, longer, shared⟩
    · rcases overlaps_of_append longer shared with equal | overlaps
      · exact .inl ⟨equal.1.symm, equal.2.symm⟩
      · exact .inr (.inr overlaps)
    · rcases overlaps_of_append longer shared with equal | overlaps
      · exact .inl equal
      · exact .inr (.inl overlaps)
  · intro cases
    rcases cases with ⟨rfl, rfl⟩ | overlaps | overlaps
    · rfl
    · exact overlaps.join_eq
    · exact overlaps.join_eq.symm

/-- Left lists without the separator can be read back. -/
theorem join_injective
    (leftPlain : separator ∉ left) (otherPlain : separator ∉ otherLeft)
    (same :
      join separator left right = join separator otherLeft otherRight) :
    left = otherLeft ∧ right = otherRight := by
  rcases join_eq_iff.mp same with equal | overlaps | overlaps
  · exact equal
  · exact absurd overlaps.separator_mem leftPlain
  · exact absurd overlaps.separator_mem otherPlain

/-! ## The last separator -/

section Last

variable [DecidableEq α]

/-- What comes after the last separator, if there is one. -/
def afterLast (separator : α) : List α → Option (List α)
  | [] => none
  | first :: rest =>
      match afterLast separator rest with
      | some tail => some tail
      | none => if first = separator then some rest else none

variable {text tail : List α}

theorem afterLast_of_not_mem (absent : separator ∉ text) :
    afterLast separator text = none := by
  induction text with
  | nil => rfl
  | cons first rest inductionHypothesis =>
      have different := List.ne_of_not_mem_cons absent
      have absentLater := List.not_mem_of_not_mem_cons absent
      simp [afterLast, inductionHypothesis absentLater, different.symm]

theorem afterLast_append (front : List α) (absent : separator ∉ tail) :
    afterLast separator (front ++ separator :: tail) = some tail := by
  induction front with
  | nil => simp [afterLast, afterLast_of_not_mem absent]
  | cons first rest inductionHypothesis =>
      simp [afterLast, inductionHypothesis]

/-- A list either is free of the separator or splits at its last one. -/
theorem split_last (separator : α) (text : List α) :
    separator ∉ text ∨
      ∃ front tail, text = front ++ separator :: tail ∧ separator ∉ tail := by
  induction text with
  | nil => exact .inl List.not_mem_nil
  | cons first rest inductionHypothesis =>
      rcases inductionHypothesis with absent | ⟨front, tail, rfl, absent⟩
      · by_cases same : first = separator
        · subst same
          exact .inr ⟨[], rest, rfl, absent⟩
        · refine .inl fun member => ?_
          rcases List.mem_cons.mp member with rfl | later
          · exact same rfl
          · exact absent later
      · exact .inr ⟨first :: front, tail, rfl, absent⟩

theorem takeWhile_of_not_mem (absent : separator ∉ text) :
    text.takeWhile (fun other => other != separator) = text := by
  induction text with
  | nil => rfl
  | cons first rest inductionHypothesis =>
      have different := List.ne_of_not_mem_cons absent
      have absentLater := List.not_mem_of_not_mem_cons absent
      simp [different.symm, inductionHypothesis absentLater]

/-- Reading from the end up to the separator gives what comes after it. -/
theorem takeWhile_reverse (separator : α) (text : List α) :
    (text.reverse.takeWhile fun other => other != separator).reverse =
      (afterLast separator text).getD text := by
  rcases split_last separator text with absent | ⟨front, tail, rfl, absent⟩
  · have reversed : separator ∉ text.reverse := by
      simpa using absent
    rw [takeWhile_of_not_mem reversed, afterLast_of_not_mem absent,
      List.reverse_reverse]
    rfl
  · have reversed :
        (front ++ separator :: tail).reverse =
          tail.reverse ++ separator :: front.reverse := by
      simp
    have untilSeparator :
        (tail.reverse ++ separator :: front.reverse).takeWhile
            (fun other => other != separator) =
          tail.reverse := by
      rw [List.takeWhile_append_of_pos]
      · simp
      · intro other member
        simpa using fun same : other = separator =>
          absent (same ▸ List.mem_reverse.mp member)
    rw [reversed, untilSeparator, afterLast_append front absent,
      List.reverse_reverse]
    rfl

end Last

end Separated
