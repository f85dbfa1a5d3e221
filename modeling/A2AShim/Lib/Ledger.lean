import Mathlib.Data.List.Basic
import Mathlib.Logic.Function.Basic
import Mathlib.Tactic.ByContra

/-!
# Ledgers of numbered tickets

Tickets are issued in order, taken in that order by the workers, and done when
their worker has finished with them.  A worker has one ticket at most.  In a
fair ledger every ticket that was issued is in exactly one place: waiting, with
one worker, or done.
-/

universe u

/-- `holder` says which ticket a worker has; `done` which tickets are
finished. -/
@[ext]
structure Ledger (ω : Type u) where
  issued : Nat
  taken : Nat
  holder : ω → Option Nat
  done : Nat → Bool

namespace Ledger

variable {ω : Type u} [DecidableEq ω]

def empty : Ledger ω :=
  { issued := 0, taken := 0, holder := fun _ => none, done := fun _ => false }

/-- The worker gets the next ticket. -/
def take (ledger : Ledger ω) (worker : ω) : Ledger ω :=
  { ledger with
    taken := ledger.taken + 1
    holder := Function.update ledger.holder worker (some ledger.taken) }

def finish (ledger : Ledger ω) (worker : ω) (ticket : Nat) : Ledger ω :=
  { ledger with
    holder := Function.update ledger.holder worker none
    done := Function.update ledger.done ticket true }

/-- What can happen to the tickets. -/
inductive Step (ledger : Ledger ω) : Ledger ω → Prop
  | stays : Step ledger ledger
  | issues : Step ledger { ledger with issued := ledger.issued + 1 }
  | takes (worker : ω) (free : ledger.holder worker = none)
      (waiting : ledger.taken < ledger.issued) :
      Step ledger (ledger.take worker)
  | finishes (worker : ω) (ticket : Nat)
      (holds : ledger.holder worker = some ticket) :
      Step ledger (ledger.finish worker ticket)

/-- Every ticket is where it should be, and only there. -/
structure Fair (ledger : Ledger ω) : Prop where
  inOrder : ledger.taken ≤ ledger.issued
  held : ∀ worker ticket, ledger.holder worker = some ticket →
    ticket < ledger.taken ∧ ledger.done ticket = false
  single : ∀ worker other ticket, ledger.holder worker = some ticket →
    ledger.holder other = some ticket → worker = other
  done : ∀ ticket, ledger.done ticket = true → ticket < ledger.taken
  covered : ∀ ticket, ticket < ledger.taken →
    ledger.done ticket = true ∨ ∃ worker, ledger.holder worker = some ticket

inductive Place (ω : Type u) where
  | waiting
  | held (worker : ω)
  | done

/-- Where a ticket is. -/
def At (ledger : Ledger ω) (ticket : Nat) : Place ω → Prop
  | .waiting => ledger.taken ≤ ticket ∧ ticket < ledger.issued
  | .held worker => ledger.holder worker = some ticket
  | .done => ledger.done ticket = true

variable {ledger target : Ledger ω}

omit [DecidableEq ω] in
theorem fair_empty : (empty : Ledger ω).Fair where
  inOrder := Nat.le_refl _
  held := by
    intro worker ticket holds
    cases holds
  single := by
    intro worker other ticket holds
    cases holds
  done := by
    intro ticket isDone
    cases isDone
  covered := by
    intro ticket early
    exact absurd early (Nat.not_lt_zero _)

theorem take_self (ledger : Ledger ω) (worker : ω) :
    (ledger.take worker).holder worker = some ledger.taken :=
  Function.update_self _ _ _

theorem take_other {worker other : ω} (different : other ≠ worker) :
    (ledger.take worker).holder other = ledger.holder other :=
  Function.update_of_ne different _ _

theorem finish_self (ledger : Ledger ω) (worker : ω) (ticket : Nat) :
    (ledger.finish worker ticket).holder worker = none :=
  Function.update_self _ _ _

theorem finish_other
    {worker other : ω} (ticket : Nat) (different : other ≠ worker) :
    (ledger.finish worker ticket).holder other = ledger.holder other :=
  Function.update_of_ne different _ _

theorem finish_done (ledger : Ledger ω) (worker : ω) (ticket : Nat) :
    (ledger.finish worker ticket).done ticket = true :=
  Function.update_self _ _ _

theorem finish_done_other
    {ticket other : Nat} (worker : ω) (different : other ≠ ticket) :
    (ledger.finish worker ticket).done other = ledger.done other :=
  Function.update_of_ne different _ _

theorem Fair.takes
    {worker : ω} (fair : ledger.Fair) (free : ledger.holder worker = none)
    (waiting : ledger.taken < ledger.issued) :
    (ledger.take worker).Fair where
  inOrder := waiting
  held := by
    intro tested ticket holds
    by_cases same : tested = worker
    · rw [same, take_self] at holds
      have isNew : ledger.taken = ticket := Option.some.inj holds
      rw [← isNew]
      refine ⟨Nat.lt_succ_self _, ?_⟩
      by_contra isDone
      have early := fair.done ledger.taken (Bool.not_eq_false _ ▸ isDone)
      exact absurd early (Nat.lt_irrefl _)
    · rw [take_other same] at holds
      have ⟨early, notDone⟩ := fair.held tested ticket holds
      exact ⟨Nat.lt_succ_of_lt early, notDone⟩
  single := by
    intro first second ticket holds holdsToo
    -- Nobody else has the ticket that is taken now.
    have isNew : ∀ tested, tested ≠ worker →
        (ledger.take worker).holder tested ≠ some ledger.taken := by
      intro tested different holds
      rw [take_other different] at holds
      have early := (fair.held tested ledger.taken holds).1
      exact absurd early (Nat.lt_irrefl _)
    by_cases firstIs : first = worker
    · by_cases secondIs : second = worker
      · rw [firstIs, secondIs]
      · rw [firstIs, take_self] at holds
        rw [← holds] at holdsToo
        exact absurd holdsToo (isNew second secondIs)
    · by_cases secondIs : second = worker
      · rw [secondIs, take_self] at holdsToo
        rw [← holdsToo] at holds
        exact absurd holds (isNew first firstIs)
      · rw [take_other firstIs] at holds
        rw [take_other secondIs] at holdsToo
        exact fair.single first second ticket holds holdsToo
  done := by
    intro ticket isDone
    exact Nat.lt_succ_of_lt (fair.done ticket isDone)
  covered := by
    intro ticket early
    rcases Nat.lt_succ_iff_lt_or_eq.mp early with before | isNew
    · rcases fair.covered ticket before with isDone | ⟨tested, holds⟩
      · exact .inl isDone
      · have different : tested ≠ worker := by
          intro same
          rw [same, free] at holds
          contradiction
        exact .inr ⟨tested, (take_other different).trans holds⟩
    · rw [isNew]
      exact .inr ⟨worker, take_self ledger worker⟩

theorem Fair.finishes
    {worker : ω} {ticket : Nat} (fair : ledger.Fair)
    (holds : ledger.holder worker = some ticket) :
    (ledger.finish worker ticket).Fair := by
  have stays : ∀ tested other,
      (ledger.finish worker ticket).holder tested = some other →
        tested ≠ worker ∧ ledger.holder tested = some other := by
    intro tested other holdsOther
    by_cases same : tested = worker
    · rw [same, finish_self] at holdsOther
      contradiction
    · rw [finish_other ticket same] at holdsOther
      exact ⟨same, holdsOther⟩
  refine ⟨fair.inOrder, ?_, ?_, ?_, ?_⟩
  · intro tested other holdsOther
    have ⟨different, held⟩ := stays tested other holdsOther
    have ⟨early, notDone⟩ := fair.held tested other held
    have otherTicket : other ≠ ticket := by
      intro isTicket
      rw [isTicket] at held
      exact different (fair.single tested worker ticket held holds)
    exact ⟨early, (finish_done_other worker otherTicket).trans notDone⟩
  · intro first second other holdsFirst holdsSecond
    exact fair.single first second other (stays first other holdsFirst).2
      (stays second other holdsSecond).2
  · intro other isDone
    by_cases same : other = ticket
    · rw [same]
      exact (fair.held worker ticket holds).1
    · rw [finish_done_other worker same] at isDone
      exact fair.done other isDone
  · intro other early
    by_cases same : other = ticket
    · rw [same]
      exact .inl (finish_done ledger worker ticket)
    · rcases fair.covered other early with isDone | ⟨tested, holdsOther⟩
      · exact .inl ((finish_done_other worker same).trans isDone)
      · have different : tested ≠ worker := by
          intro isWorker
          rw [isWorker, holds] at holdsOther
          exact same (Option.some.inj holdsOther).symm
        exact .inr ⟨tested, (finish_other ticket different).trans holdsOther⟩

theorem Fair.step (fair : ledger.Fair) (step : ledger.Step target) :
    target.Fair := by
  cases step with
  | stays => exact fair
  | issues =>
      exact { fair with inOrder := Nat.le_succ_of_le fair.inOrder }
  | takes worker free waiting => exact fair.takes free waiting
  | finishes worker ticket holds => exact fair.finishes holds

omit [DecidableEq ω] in
/-- Every ticket that was issued is in one place, and in no other. -/
theorem Fair.place
    (fair : ledger.Fair) {ticket : Nat} (isIssued : ticket < ledger.issued) :
    ∃! place, ledger.At ticket place := by
  by_cases waits : ledger.taken ≤ ticket
  · refine ⟨.waiting, ⟨waits, isIssued⟩, ?_⟩
    intro place isAt
    cases place with
    | waiting => rfl
    | held worker =>
        have early := (fair.held worker ticket isAt).1
        omega
    | done =>
        have early := fair.done ticket isAt
        omega
  · rcases fair.covered ticket (by omega) with isDone | ⟨worker, holds⟩
    · refine ⟨.done, isDone, ?_⟩
      intro place isAt
      cases place with
      | waiting => exact absurd isAt.1 waits
      | held worker =>
          have notDone := (fair.held worker ticket isAt).2
          rw [isDone] at notDone
          cases notDone
      | done => rfl
    · refine ⟨.held worker, holds, ?_⟩
      intro place isAt
      cases place with
      | waiting => exact absurd isAt.1 waits
      | held other =>
          rw [fair.single other worker ticket isAt holds]
      | done =>
          have notDone := (fair.held worker ticket holds).2
          have isDone : ledger.done ticket = true := isAt
          rw [isDone] at notDone
          cases notDone

end Ledger
