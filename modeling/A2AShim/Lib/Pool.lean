import Mathlib.Logic.Function.Basic

/-!
# Pools of threads

A pool holds the threads of a concurrent machine under their names.  One step
replaces one thread, so facts about "some thread" and "every thread" follow
from what that thread was and what it has become.
-/

universe u v w

/-- Threads `τ` under names `ι`. -/
abbrev Pool (ι : Type u) (τ : Type v) : Type (max u v) :=
  ι → Option τ

namespace Pool

variable {ι : Type u} {τ : Type v} [DecidableEq ι]

def empty : Pool ι τ :=
  fun _ => none

def put (pool : Pool ι τ) (name : ι) (thread : τ) : Pool ι τ :=
  Function.update pool name (some thread)

def remove (pool : Pool ι τ) (name : ι) : Pool ι τ :=
  Function.update pool name none

/-- The same names, each thread seen through `view`. -/
def map {ρ : Type w} (view : τ → ρ) (pool : Pool ι τ) : Pool ι ρ :=
  fun name => (pool name).map view

def Any (holds : τ → Prop) (pool : Pool ι τ) : Prop :=
  ∃ name thread, pool name = some thread ∧ holds thread

def All (holds : τ → Prop) (pool : Pool ι τ) : Prop :=
  ∀ name thread, pool name = some thread → holds thread

variable {pool : Pool ι τ} {name : ι} {thread : τ} {holds : τ → Prop}

@[simp]
theorem put_self (pool : Pool ι τ) (name : ι) (thread : τ) :
    pool.put name thread name = some thread := by
  simp [put]

theorem put_other {tested : ι} (different : tested ≠ name) :
    pool.put name thread tested = pool tested := by
  simp [put, different]

theorem map_put {ρ : Type w} (view : τ → ρ) (pool : Pool ι τ) (name : ι)
    (thread : τ) :
    (pool.put name thread).map view = (pool.map view).put name (view thread) := by
  funext tested
  by_cases same : tested = name
  · rw [map, same, put_self, put_self, Option.map_some]
  · rw [map, put_other same, put_other same, map]

theorem map_remove {ρ : Type w} (view : τ → ρ) (pool : Pool ι τ)
    (name : ι) :
    (pool.remove name).map view = (pool.map view).remove name := by
  funext tested
  by_cases same : tested = name
  · simp [map, remove, same]
  · simp [map, remove, same]

/-- A thread that is there afterwards is the one that was put, or was there. -/
theorem put_cases
    {tested : ι} {found : τ}
    (isThread : pool.put name thread tested = some found) :
    (tested = name ∧ found = thread) ∨
      (tested ≠ name ∧ pool tested = some found) := by
  by_cases same : tested = name
  · rw [same, put_self] at isThread
    exact .inl ⟨same, (Option.some.inj isThread).symm⟩
  · rw [put_other same] at isThread
    exact .inr ⟨same, isThread⟩

omit [DecidableEq ι] in
theorem not_any_empty : ¬ Any holds (empty : Pool ι τ) := by
  intro happens
  rcases happens with ⟨_, _, found, _⟩
  cases found

omit [DecidableEq ι] in
theorem all_empty : All holds (empty : Pool ι τ) := by
  intro _ _ found
  cases found

theorem any_put (satisfied : holds thread) : Any holds (pool.put name thread) :=
  ⟨name, thread, put_self _ _ _, satisfied⟩

/-- A pool without such a thread stays one. -/
theorem not_any_put
    (absent : ¬ Any holds pool) (unsatisfied : ¬ holds thread) :
    ¬ Any holds (pool.put name thread) := by
  intro satisfies
  rcases satisfies with ⟨tested, other, found, satisfied⟩
  rcases put_cases found with ⟨_, rfl⟩ | ⟨_, before⟩
  · exact unsatisfied satisfied
  · exact absent ⟨tested, other, before, satisfied⟩

/-- A pool with such a thread keeps one, unless it is the thread that
changed. -/
theorem any_put_of_any
    (present : Any holds pool)
    (kept : ∀ before, pool name = some before → holds before → holds thread) :
    Any holds (pool.put name thread) := by
  rcases present with ⟨tested, other, found, satisfied⟩
  by_cases same : tested = name
  · subst same
    exact any_put (kept other found satisfied)
  · exact ⟨tested, other, (put_other same).trans found, satisfied⟩

theorem any_put_of_free
    (free : pool name = none) (present : Any holds pool) :
    Any holds (pool.put name thread) := by
  apply any_put_of_any present
  intro before found _
  rw [free] at found
  cases found

theorem any_put_fresh
    (free : pool name = none) (unsatisfied : ¬ holds thread) :
    Any holds (pool.put name thread) ↔ Any holds pool := by
  constructor
  · intro present
    by_contra absent
    exact not_any_put absent unsatisfied present
  · exact any_put_of_free free

theorem any_put_congr
    {before : τ} (found : pool name = some before)
    (same : holds thread ↔ holds before) :
    Any holds (pool.put name thread) ↔ Any holds pool := by
  constructor
  · intro present
    by_contra absent
    have unsatisfied : ¬ holds thread :=
      fun satisfied => absent ⟨name, before, found, same.mp satisfied⟩
    exact not_any_put absent unsatisfied present
  · intro present
    apply any_put_of_any present
    intro other foundOther satisfied
    rw [found] at foundOther
    cases foundOther
    exact same.mpr satisfied

/-- A pool with such a thread keeps one, unless it is the thread that
goes. -/
theorem any_remove_of_any
    (present : Any holds pool)
    (kept : ∀ before, pool name = some before → ¬ holds before) :
    Any holds (pool.remove name) := by
  rcases present with ⟨tested, other, found, satisfied⟩
  by_cases same : tested = name
  · subst same
    exact absurd satisfied (kept other found)
  · refine ⟨tested, other, ?_, satisfied⟩
    rw [remove, Function.update_of_ne same]
    exact found

theorem all_put (every : All holds pool) (satisfied : holds thread) :
    All holds (pool.put name thread) := by
  intro tested other found
  rcases put_cases found with ⟨_, rfl⟩ | ⟨_, before⟩
  · exact satisfied
  · exact every tested other before

end Pool
