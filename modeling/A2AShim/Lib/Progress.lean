import Mathlib.Algebra.BigOperators.Group.Finset.Basic
import A2AShim.Lib.Machine
import A2AShim.Lib.Pool

/-!
# Progress of machines

`CanReach` says that some permitted continuation of a state leads to a goal:
nothing has gone wrong that could not be put right.  It composes, and follows
from a measure that some continuation always lowers.

What a run costs is the other question.  An account that no step lowers, and
that each step of interest raises, bounds the number of these steps in every
run, whatever else comes between them.  For the threads of a pool, such an
account is a total of weights.
-/

namespace Machine

universe u v

variable {σ : Type u} {α : Type v}
variable {step : α → σ → Option σ} {ok : σ → α → Prop} {goal : σ → Prop}
variable {init : σ}

/-- Some permitted run from `state` ends in a `goal`. -/
def CanReach (step : α → σ → Option σ) (ok : σ → α → Prop)
    (goal : σ → Prop) (state : σ) : Prop :=
  ∃ trace last, Run step ok state trace last ∧ goal last

namespace CanReach

theorem here {state : σ} (reached : goal state) :
    CanReach step ok goal state :=
  ⟨[], state, .start, reached⟩

/-- After one permitted step. -/
theorem next
    {state target : σ} {action : α}
    (permitted : ok state action) (taken : step action state = some target)
    (later : CanReach step ok goal target) :
    CanReach step ok goal state := by
  rcases later with ⟨trace, last, run, reached⟩
  have first : Run step ok state ([] ++ [action]) target :=
    .snoc .start permitted taken
  exact ⟨_, last, first.append run, reached⟩

/-- One goal on the way to another. -/
theorem andThen
    {between : σ → Prop} {state : σ}
    (first : CanReach step ok between state)
    (second : ∀ middle, between middle → CanReach step ok goal middle) :
    CanReach step ok goal state := by
  rcases first with ⟨trace, middle, run, reached⟩
  rcases second middle reached with ⟨rest, last, remaining, atGoal⟩
  exact ⟨trace ++ rest, last, run.append remaining, atGoal⟩

theorem mono
    {wider : σ → Prop} {state : σ}
    (reachable : CanReach step ok goal state)
    (implied : ∀ last, goal last → wider last) :
    CanReach step ok wider state :=
  reachable.andThen fun last reached => .here (implied last reached)

/-- A continuation under a permission is one under any permission its steps
also have. -/
theorem weaken
    {wider : σ → α → Prop} {state : σ}
    (allowed : ∀ reached action, ok reached action → wider reached action)
    (reachable : CanReach step ok goal state) :
    CanReach step wider goal state := by
  rcases reachable with ⟨trace, last, run, reached⟩
  exact ⟨trace, last, run.weaken allowed, reached⟩

/-- What every permitted step keeps, still holds at the goal. -/
theorem keeping
    {holds : σ → Prop} {state : σ}
    (atStart : holds state)
    (kept : ∀ source action target,
      holds source → ok source action →
        step action source = some target → holds target)
    (reachable : CanReach step ok goal state) :
    CanReach step ok (fun last => holds last ∧ goal last) state := by
  rcases reachable with ⟨trace, last, run, reached⟩
  exact ⟨trace, last, run, run.invariant holds atStart kept, reached⟩

/-- A goal is in reach when every state that misses it has a continuation to
the goal, or to a state of a smaller measure. -/
theorem of_measure
    {holds : σ → Prop} (measure : σ → Nat)
    (descends : ∀ state, holds state → ¬ goal state →
      CanReach step ok
        (fun last =>
          holds last ∧ (goal last ∨ measure last < measure state)) state)
    {state : σ} (atStart : holds state) :
    CanReach step ok (fun last => holds last ∧ goal last) state := by
  induction bound : measure state using Nat.strongRecOn generalizing state with
  | ind size inductionHypothesis =>
      by_cases reached : goal state
      · exact .here ⟨atStart, reached⟩
      · apply (descends state atStart reached).andThen
        intro middle before
        obtain ⟨kept, atGoal | lower⟩ := before
        · exact .here ⟨kept, atGoal⟩
        · subst bound
          exact inductionHypothesis (measure middle) lower kept rfl

/-- A part of a machine that goes on by itself takes the whole along. -/
theorem lift
    {τ β : Type*} {inner : β → τ → Option τ} {okInner : τ → β → Prop}
    {innerGoal : τ → Prop} (act : β → α) (embed : τ → σ)
    (steps : ∀ part event next,
      okInner part event → inner event part = some next →
        ok (embed part) (act event) ∧
          step (act event) (embed part) = some (embed next))
    {part : τ} (reachable : CanReach inner okInner innerGoal part) :
    CanReach step ok (fun last => ∃ next, innerGoal next ∧ last = embed next)
      (embed part) := by
  rcases reachable with ⟨trace, next, run, reached⟩
  refine ⟨trace.map act, embed next, ?_, next, reached, rfl⟩
  clear reached
  induction run with
  | start => exact .start
  | snoc _ permitted taken inductionHypothesis =>
      rw [List.map_append]
      obtain ⟨allowed, stepped⟩ := steps _ _ _ permitted taken
      exact .snoc inductionHypothesis allowed stepped

end CanReach

/-- Where no step lowers an account and each step of `own` raises it, a run
has no more steps of `own` than it adds to the account. -/
theorem Run.count_le
    (holds : σ → Prop) (own : α → Bool) (account : σ → Int)
    (atStart : holds init)
    (kept : ∀ source action target,
      holds source → ok source action →
        step action source = some target → holds target)
    (raises : ∀ source action target,
      holds source → ok source action →
        step action source = some target →
          account source + (if own action then 1 else 0) ≤ account target)
    {trace : List α} {state : σ}
    (run : Run step ok init trace state) :
    account init + trace.countP own ≤ account state := by
  have counted :
      holds state ∧ account init + trace.countP own ≤ account state := by
    induction run with
    | start => exact ⟨atStart, by simp⟩
    | @snoc trace source target action _ permitted taken inductionHypothesis =>
        obtain ⟨before, counted⟩ := inductionHypothesis
        refine ⟨kept _ _ _ before permitted taken, ?_⟩
        have raised := raises _ _ _ before permitted taken
        rw [List.countP_append, List.countP_singleton]
        split at raised
        · rename_i isOwn
          rw [if_pos isOwn]
          omega
        · rename_i notOwn
          rw [if_neg notOwn]
          omega
  exact counted.2

end Machine

namespace Pool

universe u

variable {τ : Type u} {pool : Pool Nat τ}

/-- The weights of the threads with the first names. -/
def total (weight : τ → Nat) (size : Nat) (pool : Pool Nat τ) : Nat :=
  ∑ name ∈ Finset.range size, ((pool name).map weight).getD 0

theorem total_put
    (weight : τ → Nat) {size name : Nat} {before : τ} (thread : τ)
    (found : pool name = some before) (inside : name < size) :
    (pool.put name thread).total weight size + weight before =
      pool.total weight size + weight thread := by
  have member : name ∈ Finset.range size := Finset.mem_range.mpr inside
  have others :
      ∑ other ∈ (Finset.range size).erase name,
          ((pool.put name thread other).map weight).getD 0 =
        ∑ other ∈ (Finset.range size).erase name,
          ((pool other).map weight).getD 0 := by
    apply Finset.sum_congr rfl
    intro other isOther
    rw [put_other (Finset.ne_of_mem_erase isOther)]
  have after := Finset.add_sum_erase (Finset.range size)
    (fun other => ((pool.put name thread other).map weight).getD 0) member
  have earlier := Finset.add_sum_erase (Finset.range size)
    (fun other => ((pool other).map weight).getD 0) member
  simp only [put_self, found, Option.map_some, Option.getD_some]
    at after earlier
  rw [others] at after
  unfold total
  omega

end Pool
