import A2AShim.Lib.Machine

/-!
# Cells and their last writes

A cell is a part of a machine's state that some steps write and all others
leave alone.  After a run it holds what was written last, or what it held
before if nothing was written.
-/

namespace Machine

universe u v w x

variable {σ : Type u} {α : Type v} {ω : Type w} {β : Type x}

/-- The last write among the steps of a trace. -/
def lastWrite
    (step : α → σ → Option σ) (writes : σ → α → Option ω) :
    List α → σ → Option ω
  | [], _ => none
  | action :: rest, state =>
      match step action state with
      | none => none
      | some next =>
          (lastWrite step writes rest next).or (writes state action)

variable {step : α → σ → Option σ} {ok : σ → α → Prop} {init : σ}
variable {writes : σ → α → Option ω}

theorem lastWrite_concat
    {trace : List α} {source target : σ} {action : α}
    (executed : exec step trace init = some source)
    (taken : step action source = some target) :
    lastWrite step writes (trace ++ [action]) init =
      (writes source action).or (lastWrite step writes trace init) := by
  induction trace generalizing init with
  | nil =>
      cases executed
      simp [lastWrite, taken]
  | cons first rest inductionHypothesis =>
      obtain ⟨next, stepped, remaining⟩ := Option.bind_eq_some_iff.mp executed
      simp only [List.cons_append, lastWrite, stepped,
        inductionHypothesis remaining, Option.or_assoc]

/-- A fact about the last write holds when every writing step brings it about,
and every other step keeps it. -/
theorem Run.lastWrite_invariant
    (holds : ω → σ → Prop)
    (written : ∀ trace source action target write,
      Run step ok init trace source → ok source action →
        step action source = some target →
          writes source action = some write → holds write target)
    (kept : ∀ trace source action target write,
      Run step ok init trace source → ok source action →
        step action source = some target →
          holds write source → holds write target)
    {trace : List α} {state : σ} {write : ω}
    (run : Run step ok init trace state)
    (last : lastWrite step writes trace init = some write) :
    holds write state := by
  induction run with
  | start => cases last
  | @snoc trace source target action before permitted taken
      inductionHypothesis =>
      rw [lastWrite_concat before.exec_eq taken] at last
      cases writing : writes source action with
      | some now =>
          rw [writing] at last
          cases last
          exact written trace source action target write before permitted taken
            writing
      | none =>
          rw [writing, Option.none_or] at last
          exact kept trace source action target write before permitted taken
            (inductionHypothesis last)

/-- The cell `cell` holds the value of its last write. -/
theorem Run.cell_eq
    (cell : σ → β) (value : ω → β)
    (writesCell : ∀ trace source action target,
      Run step ok init trace source → ok source action →
        step action source = some target →
          cell target =
            ((writes source action).map value).getD (cell source))
    {trace : List α} {state : σ}
    (run : Run step ok init trace state) :
    cell state =
      ((lastWrite step writes trace init).map value).getD (cell init) := by
  induction run with
  | start => rfl
  | @snoc trace source target action before permitted taken
      inductionHypothesis =>
      rw [lastWrite_concat before.exec_eq taken,
        writesCell trace source action target before permitted taken,
        inductionHypothesis]
      cases writes source action with
      | some write => rfl
      | none => rfl

end Machine
