import Mathlib.Logic.Basic

/-!
# Runs of labelled step functions

A machine is a partial step function `α → σ → Option σ`: the action `a` is
enabled in a state exactly when the step function returns a state.

A run carries its trace, and a permission `ok` that every step has been taken
under.  Unrestricted runs use the permission `free`.  Properties of every
reachable state are proved by `Run.invariant`; properties that relate a state
to the steps that led to it go by induction on the run, with
`Run.someStep_snoc`.
-/

namespace Machine

universe u v w

variable {σ : Type u} {α : Type v}

/-- The permission that allows every step. -/
def free : σ → α → Prop :=
  fun _ _ => True

/-- Runs from `init` whose steps are all taken with permission `ok`. -/
inductive Run
    (step : α → σ → Option σ) (ok : σ → α → Prop) (init : σ) :
    List α → σ → Prop
  | start : Run step ok init [] init
  | snoc {trace : List α} {source target : σ} {action : α} :
      Run step ok init trace source →
      ok source action →
      step action source = some target →
      Run step ok init (trace ++ [action]) target

/-- Execute a list of actions, failing at the first disabled one. -/
def exec (step : α → σ → Option σ) : List α → σ → Option σ
  | [], state => some state
  | action :: rest, state => (step action state).bind (exec step rest)

/-- Go through a list of actions, passing over the disabled ones. -/
def attempt (step : α → σ → Option σ) : List α → σ → σ
  | [], state => state
  | action :: rest, state =>
      attempt step rest ((step action state).getD state)

/-- Some action of the list is an `event` when its turn comes. -/
def Attempts (step : α → σ → Option σ) (event : σ → α → Prop) :
    List α → σ → Prop
  | [], _ => False
  | action :: rest, state =>
      event state action ∨
        Attempts step event rest ((step action state).getD state)

variable {step : α → σ → Option σ} {ok : σ → α → Prop} {init : σ}

theorem exec_append
    (first second : List α) (state : σ) :
    exec step (first ++ second) state =
      (exec step first state).bind (exec step second) := by
  induction first generalizing state with
  | nil => rfl
  | cons action rest inductionHypothesis =>
      simp only [List.cons_append, exec]
      cases step action state with
      | none => rfl
      | some next => exact inductionHypothesis next

namespace Run

/-- Whatever the first state satisfies and every permitted step keeps, every
state of a permitted run satisfies. -/
theorem invariant
    (holds : σ → Prop)
    (atStart : holds init)
    (kept : ∀ source action target,
      holds source → ok source action →
        step action source = some target → holds target)
    {trace : List α} {state : σ}
    (run : Run step ok init trace state) :
    holds state := by
  induction run with
  | start => exact atStart
  | snoc _ permitted taken inductionHypothesis =>
      exact kept _ _ _ inductionHypothesis permitted taken

/-- A run stays a run under any permission its steps also have. -/
theorem weaken
    {wider : σ → α → Prop}
    (allowed : ∀ state action, ok state action → wider state action)
    {trace : List α} {state : σ}
    (run : Run step ok init trace state) :
    Run step wider init trace state := by
  induction run with
  | start => exact .start
  | snoc _ permitted taken inductionHypothesis =>
      exact .snoc inductionHypothesis (allowed _ _ permitted) taken

theorem toFree
    {trace : List α} {state : σ}
    (run : Run step ok init trace state) :
    Run step free init trace state :=
  run.weaken fun _ _ _ => trivial

/-- Two runs compose when the second starts where the first ends. -/
theorem append
    {middle last : σ} {first second : List α}
    (left : Run step ok init first middle)
    (right : Run step ok middle second last) :
    Run step ok init (first ++ second) last := by
  induction right with
  | start =>
      rw [List.append_nil]
      exact left
  | snoc _ permitted taken inductionHypothesis =>
      rw [← List.append_assoc]
      exact .snoc inductionHypothesis permitted taken

/-- A run that ends with a given action splits before that action. -/
theorem of_snoc
    {trace : List α} {action : α} {target : σ}
    (run : Run step ok init (trace ++ [action]) target) :
    ∃ source,
      Run step ok init trace source ∧ ok source action ∧
        step action source = some target := by
  generalize whole : trace ++ [action] = steps at run
  cases run with
  | start => simp at whole
  | snoc before permitted taken =>
      obtain ⟨sameTrace, sameAction⟩ := List.append_inj' whole rfl
      subst sameTrace
      cases sameAction
      exact ⟨_, before, permitted, taken⟩

/-- A run splits wherever its trace does. -/
theorem split
    {first second : List α} {target : σ}
    (run : Run step ok init (first ++ second) target) :
    ∃ middle,
      Run step ok init first middle ∧ Run step ok middle second target := by
  generalize whole : first ++ second = steps at run
  induction run generalizing second with
  | start =>
      obtain ⟨rfl, rfl⟩ := List.append_eq_nil_iff.mp whole
      exact ⟨init, .start, .start⟩
  | @snoc trace source target action before permitted taken
      inductionHypothesis =>
      rcases List.eq_nil_or_concat second with rfl | ⟨front, last, rfl⟩
      · rw [List.append_nil] at whole
        subst whole
        exact ⟨target, .snoc before permitted taken, .start⟩
      · have regrouped : (first ++ front) ++ [last] = trace ++ [action] := by
          simpa using whole
        obtain ⟨sameTrace, sameAction⟩ := List.append_inj' regrouped rfl
        cases sameAction
        obtain ⟨middle, toMiddle, fromMiddle⟩ := inductionHypothesis sameTrace
        exact ⟨middle, toMiddle, by
          simpa using fromMiddle.snoc permitted taken⟩

theorem exec_eq
    {trace : List α} {state : σ}
    (run : Run step ok init trace state) :
    exec step trace init = some state := by
  induction run with
  | start => rfl
  | snoc _ _ taken inductionHypothesis =>
      rw [exec_append, inductionHypothesis]
      simp [exec, taken]

end Run

/-- Executing actions that are always permitted is a permitted run. -/
theorem run_of_exec_of_always
    {trace : List α} {state : σ}
    (always : ∀ action, action ∈ trace → ∀ reached, ok reached action)
    (executed : exec step trace init = some state) :
    Run step ok init trace state := by
  induction trace generalizing init with
  | nil =>
      cases executed
      exact .start
  | cons action rest inductionHypothesis =>
      simp only [exec, Option.bind_eq_some_iff] at executed
      rcases executed with ⟨next, taken, remaining⟩
      have firstStep : Run step ok init ([] ++ [action]) next :=
        .snoc .start (always action List.mem_cons_self init) taken
      have otherSteps : Run step ok next rest state :=
        inductionHypothesis
          (fun other member => always other (List.mem_cons_of_mem action member))
          remaining
      exact firstStep.append otherSteps

/-- Execute a list of actions, with a test before each of them. -/
def execTested (step : α → σ → Option σ) (test : σ → α → Bool) :
    List α → σ → Option σ
  | [], state => some state
  | action :: rest, state =>
      if test state action then
        (step action state).bind (execTested step test rest)
      else
        none

/-- A trace that passes its tests is a run with what the tests ensure. -/
theorem run_of_execTested
    {test : σ → α → Bool} {trace : List α} {state : σ}
    (sound : ∀ reached action, test reached action = true →
      ok reached action)
    (executed : execTested step test trace init = some state) :
    Run step ok init trace state := by
  induction trace generalizing init with
  | nil =>
      cases executed
      exact .start
  | cons action rest inductionHypothesis =>
      unfold execTested at executed
      split at executed
      · rename_i passed
        obtain ⟨next, taken, remaining⟩ := Option.bind_eq_some_iff.mp executed
        have firstStep : Run step ok init ([] ++ [action]) next :=
          .snoc .start (sound init action passed) taken
        exact firstStep.append (inductionHypothesis remaining)
      · cases executed

/-- Executing a trace is running it without restriction. -/
theorem run_of_exec
    {trace : List α} {state : σ}
    (executed : exec step trace init = some state) :
    Run step free init trace state :=
  run_of_exec_of_always (fun _ _ _ => trivial) executed

/-- Some step of `trace` from `init` is an `event`. -/
def SomeStep
    (step : α → σ → Option σ) (event : σ → α → Prop) (init : σ)
    (trace : List α) : Prop :=
  ∃ before action after state,
    trace = before ++ action :: after ∧
      exec step before init = some state ∧ event state action

theorem not_someStep_nil {event : σ → α → Prop} :
    ¬ SomeStep step event init [] := by
  intro happens
  rcases happens with ⟨before, action, after, _, split, _⟩
  simp at split

/-- The last step of a run happens in the state before it. -/
theorem Run.someStep_snoc
    {event : σ → α → Prop} {trace : List α} {source : σ}
    (run : Run step ok init trace source) (action : α) :
    SomeStep step event init (trace ++ [action]) ↔
      SomeStep step event init trace ∨ event source action := by
  constructor
  · intro happens
    rcases happens with ⟨before, tested, after, state, split, executed, happened⟩
    rcases List.eq_nil_or_concat after with rfl | ⟨front, last, rfl⟩
    · obtain ⟨rfl, sameAction⟩ := List.append_inj' split rfl
      cases sameAction
      have sameState := run.exec_eq.symm.trans executed
      cases sameState
      exact .inr happened
    · have regrouped :
          trace ++ [action] = (before ++ tested :: front) ++ [last] := by
        simpa using split
      obtain ⟨rfl, _⟩ := List.append_inj' regrouped rfl
      exact .inl ⟨before, tested, front, state, rfl, executed, happened⟩
  · intro happens
    rcases happens with
      ⟨before, tested, after, state, rfl, executed, happened⟩ | happened
    · exact ⟨before, tested, after ++ [action], state, by simp, executed,
        happened⟩
    · exact ⟨trace, action, [], source, rfl, run.exec_eq, happened⟩

/-- A step that happens in the middle part of a trace happens in the trace. -/
theorem SomeStep.within
    {event : σ → α → Prop} {first second : List α} {middle : σ}
    (happens : SomeStep step event middle second)
    (executed : exec step first init = some middle) (rest : List α) :
    SomeStep step event init (first ++ second ++ rest) := by
  rcases happens with ⟨before, action, after, state, rfl, reached, happened⟩
  refine ⟨first ++ before, action, after ++ rest, state, by simp, ?_, happened⟩
  rw [exec_append, executed]
  exact reached

/-- The step a trace takes where a front part of it ends. -/
theorem exec_next
    {before rest : List α} {action : α} {reached last : σ}
    (executed : exec step (before ++ action :: rest) init = some last)
    (executedBefore : exec step before init = some reached) :
    ∃ next,
      step action reached = some next ∧ exec step rest next = some last := by
  rw [exec_append, executedBefore] at executed
  exact Option.bind_eq_some_iff.mp executed

/-- Steps that are not permitted to be an `event` are none. -/
theorem Run.not_someStep
    {event : σ → α → Prop} {trace : List α} {state : σ}
    (run : Run step (fun reached action => ¬ event reached action) init
      trace state) :
    ¬ SomeStep step event init trace := by
  induction run with
  | start => exact not_someStep_nil
  | snoc before permitted _ inductionHypothesis =>
      intro happens
      rcases (before.someStep_snoc _).mp happens with earlier | now
      · exact inductionHypothesis earlier
      · exact permitted now

/-- A run without an `event` has the permission to avoid them. -/
theorem Run.avoids
    {event : σ → α → Prop} {trace : List α} {state : σ}
    (run : Run step ok init trace state)
    (never : ¬ SomeStep step event init trace) :
    Run step (fun reached action => ¬ event reached action) init trace
      state := by
  induction run with
  | start => exact .start
  | snoc before _ taken inductionHypothesis =>
      rw [before.someStep_snoc] at never
      exact .snoc (inductionHypothesis fun earlier => never (.inl earlier))
        (fun happens => never (.inr happens)) taken

end Machine
