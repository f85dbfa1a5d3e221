import Mathlib.Logic.Basic

/-!
# Scripts

A script is a list of steps that take effect one by one.  It ends at the first
step that fails, and what has taken effect stays.  A script that is cut off is
a prefix of it.
-/

namespace Script

universe u v

variable {σ : Type u} {α : Type v}

/-- The state in the end, and whether all steps have succeeded. -/
def run (step : α → σ → Option σ) : List α → σ → σ × Bool
  | [], state => (state, true)
  | first :: rest, state =>
      match step first state with
      | none => (state, false)
      | some next => run step rest next

variable {step : α → σ → Option σ} {script : List α} {state : σ}

theorem run_append (first second : List α) :
    run step (first ++ second) state =
      if (run step first state).2 then
        run step second (run step first state).1
      else
        run step first state := by
  induction first generalizing state with
  | nil => rfl
  | cons action rest inductionHypothesis =>
      rw [List.cons_append, run, run]
      cases step action state with
      | none => rfl
      | some next => exact inductionHypothesis

/-- What every step of a script preserves. -/
theorem invariant
    (kept : σ → Prop) (atStart : kept state)
    (preserved : ∀ action, action ∈ script → ∀ source target,
      kept source → step action source = some target → kept target) :
    kept (run step script state).1 := by
  induction script generalizing state with
  | nil => exact atStart
  | cons first rest inductionHypothesis =>
      rw [run]
      cases taken : step first state with
      | none => exact atStart
      | some next =>
          apply inductionHypothesis
          · exact preserved first List.mem_cons_self state next atStart taken
          · intro action member
            exact preserved action (List.mem_cons_of_mem _ member)

/-- A script fails that has a step which fails whatever the others do. -/
theorem fails
    (kept : σ → Prop) (atStart : kept state)
    (preserved : ∀ action, action ∈ script → ∀ source target,
      kept source → step action source = some target → kept target)
    {blocked : α} (member : blocked ∈ script)
    (refuses : ∀ source, kept source → step blocked source = none) :
    (run step script state).2 = false := by
  induction script generalizing state with
  | nil => cases member
  | cons first rest inductionHypothesis =>
      rw [run]
      cases taken : step first state with
      | none => rfl
      | some next =>
          rcases List.mem_cons.mp member with rfl | inRest
          · rw [refuses state atStart] at taken
            cases taken
          · apply inductionHypothesis
            · exact preserved first List.mem_cons_self state next atStart
                taken
            · intro action isLater
              exact preserved action (List.mem_cons_of_mem _ isLater)
            · exact inRest

/-! ## Scripts that are cut off -/

/-- One run of the script that fits the state, up to `cut` steps. -/
def cutRun (step : α → σ → Option σ) (scriptOf : σ → List α) (cut : Nat)
    (state : σ) : σ :=
  (run step ((scriptOf state).take cut) state).1

def cutRuns (step : α → σ → Option σ) (scriptOf : σ → List α)
    (cuts : List Nat) (state : σ) : σ :=
  cuts.foldl (fun state cut => cutRun step scriptOf cut state) state

variable {scriptOf : σ → List α} {cuts : List Nat}

/-- What every run preserves, however it is cut off. -/
theorem cutRuns_invariant
    (kept : σ → Prop) (atStart : kept state)
    (preserved : ∀ cut source, kept source →
      kept (cutRun step scriptOf cut source)) :
    kept (cutRuns step scriptOf cuts state) := by
  induction cuts generalizing state with
  | nil => exact atStart
  | cons cut rest inductionHypothesis =>
      exact inductionHypothesis (preserved cut state atStart)

end Script
