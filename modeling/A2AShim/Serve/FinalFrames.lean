import Mathlib.Data.List.Infix
import A2AShim.Serve.TaskWriters

/-!
# Final frames

Everything that can happen to a Task while it is bridged: any number of
`run_session` calls, cancels, resets, continuations, transitions of other
callers, and keepalives on the sink.  At most one final frame is published,
nothing follows it, and it carries the state the Task has from then on.
-/

namespace A2AShim

namespace FinalFrames

open TaskWriters (World)

inductive Action where
  | writer (action : TaskWriters.Action)
  | acceptContinuation (id : TaskId)
  | transition (id : TaskId) (toState : TaskState)
  | keepalive (id : TaskId)
  deriving DecidableEq, Repr

/-- The registry after a call that may be refused. -/
def settle (world : World) (outcome : Except TransitionError TaskRegistry) :
    World :=
  match outcome with
  | .error _ => world
  | .ok updated => { world with registry := updated }

variable (json : SerdeJson)

def step : Action → World → Option World
  | .writer action, world => TaskWriters.step json action world
  | .acceptContinuation id, world =>
      some (settle world (world.registry.acceptContinuation id))
  | .transition id toState, world =>
      some (settle world (world.registry.transition id toState))
  | .keepalive id, world =>
      some { world with
        registry :=
          world.registry.onSink id (SseSink.publish SseFrame.keepalive) }

/-- The sent frames hold at most one final frame; it is the last, and carries
the state the Task has. -/
def Truthful (binding : TaskBinding) : Prop :=
  ∀ front frame back,
    binding.sink.sent = front ++ frame :: back → frame.isFinal = true →
      back = [] ∧
        (∀ earlier, earlier ∈ front → earlier.isFinal = false) ∧
        binding.state.isTerminal = true ∧
        ∃ inner : TaskStatusEnvelope,
          frame = .event (.statusUpdate inner) ∧
            inner.status.state = binding.state

variable {json} {id : TaskId} {world target : World}

/-! ## The invariant of one Task -/

/-- The last frame is the only final one, and carries the Task's state. -/
def Sealed (id : TaskId) (binding : TaskBinding) : Prop :=
  binding.state.isTerminal = true ∧
    ∃ front status,
      binding.sink.sent = front ++ [.event (.status id status true)] ∧
        (∀ frame, frame ∈ front → frame.isFinal = false) ∧
        status.state = binding.state

def Unsealed (binding : TaskBinding) : Prop :=
  ∀ frame, frame ∈ binding.sink.sent → frame.isFinal = false

/-- A call for the Task `id` has stored `status`, and will publish it. -/
def Stores (id : TaskId) (status : TaskStatus) (call : Bridge.Call) : Prop :=
  call.taskId = id ∧ call.stored? = some status

/-- The stored status is the state of the Task, and the sink is open. -/
structure Promised (id : TaskId) (world : World) (status : TaskStatus) :
    Prop where
  terminal : status.state.isTerminal = true
  kept : ∃ binding,
    world.registry.bindings id = some binding ∧
      binding.state = status.state ∧ binding.sink.isOpen = true

structure Tracks (id : TaskId) (world : World) : Prop where
  sound : world.calls.All Bridge.Call.Sound
  promised : ∀ name call status,
    world.calls name = some call → Stores id status call →
      Promised id world status
  single : ∀ name other call otherCall status otherStatus,
    world.calls name = some call → Stores id status call →
      world.calls other = some otherCall → Stores id otherStatus otherCall →
        name = other
  opened : ∀ binding, world.registry.bindings id = some binding →
    binding.sink.isOpen = true → Unsealed binding
  closed : ∀ binding, world.registry.bindings id = some binding →
    binding.sink.isOpen = false → Sealed id binding

theorem Sealed.truthful
    {binding : TaskBinding} (sealed : Sealed id binding) :
    Truthful binding := by
  obtain ⟨terminal, front, status, sent, noneBefore, sameState⟩ := sealed
  intro before frame back split isFinal
  rw [sent] at split
  rcases List.eq_nil_or_concat back with rfl | ⟨middle, last, rfl⟩
  · obtain ⟨rfl, sameFrame⟩ := List.append_inj' split rfl
    cases sameFrame
    exact ⟨rfl, noneBefore, terminal, _, rfl, sameState⟩
  · have regrouped :
        front ++ [.event (.status id status true)] =
          (before ++ frame :: middle) ++ [last] := by
      simpa using split
    obtain ⟨rfl, _⟩ := List.append_inj' regrouped rfl
    have notFinal := noneBefore frame (by simp)
    rw [isFinal] at notFinal
    cases notFinal

theorem Unsealed.truthful
    {binding : TaskBinding} (unsealed : Unsealed binding) :
    Truthful binding := by
  intro front frame back split isFinal
  have notFinal := unsealed frame (by simp [split])
  rw [isFinal] at notFinal
  cases notFinal

theorem Tracks.truthful
    {binding : TaskBinding} (tracks : Tracks id world)
    (found : world.registry.bindings id = some binding) :
    Truthful binding := by
  cases isOpen : binding.sink.isOpen with
  | true => exact (tracks.opened binding found isOpen).truthful
  | false => exact (tracks.closed binding found isOpen).truthful

/-! ## Changes from outside the calls -/

/-- What the other callers do to a binding. -/
inductive Outside : Option TaskBinding → Option TaskBinding → Prop
  | same {binding : Option TaskBinding} : Outside binding binding
  | created {after : TaskBinding} {capacity : Nat} :
      after.sink = SseSink.new capacity → Outside none (some after)
  | moves {before after : TaskBinding} :
      before.state.isTerminal = false → after.sink = before.sink →
        Outside (some before) (some after)
  | idles {before after : TaskBinding} :
      after.state = before.state →
        after.sink = before.sink.publish SseFrame.keepalive →
          Outside (some before) (some after)

theorem Unsealed.publish
    {before after : TaskBinding} {frame : SseFrame}
    (unsealed : Unsealed before) (notFinal : frame.isFinal = false)
    (published : after.sink = before.sink.publish frame) :
    Unsealed after := by
  intro tested member
  rw [published, SseSink.publish] at member
  split at member
  · rcases List.mem_append.mp member with earlier | last
    · exact unsealed tested earlier
    · rw [List.mem_singleton.mp last]
      exact notFinal
  · exact unsealed tested member

theorem Sealed.publish
    {before after : TaskBinding} {frame : SseFrame}
    (sealed : Sealed id before) (closed : before.sink.isOpen = false)
    (sameState : after.state = before.state)
    (published : after.sink = before.sink.publish frame) :
    Sealed id after := by
  rw [SseSink.publish_of_closed frame closed] at published
  rw [Sealed, sameState, published]
  exact sealed

theorem Tracks.of_outside
    (tracks : Tracks id world)
    (sameCalls : target.calls = world.calls)
    (outside :
      Outside (world.registry.bindings id) (target.registry.bindings id)) :
    Tracks id target := by
  have promisedBefore := tracks.promised
  have openedBefore := tracks.opened
  have closedBefore := tracks.closed
  refine
    { sound := by rw [sameCalls]; exact tracks.sound
      promised := ?_
      single := by rw [sameCalls]; exact tracks.single
      opened := ?_
      closed := ?_ }
  · intro name call status found stores
    rw [sameCalls] at found
    obtain ⟨terminal, binding, foundBefore, sameState, isOpen⟩ :=
      promisedBefore name call status found stores
    refine ⟨terminal, ?_⟩
    rw [foundBefore] at outside
    generalize target.registry.bindings id = changed at outside ⊢
    cases outside with
    | same => exact ⟨binding, rfl, sameState, isOpen⟩
    | moves active _ =>
        rw [sameState, terminal] at active
        cases active
    | @idles _ after keptState published =>
        refine ⟨after, rfl, by rw [keptState, sameState], ?_⟩
        rw [published, SseSink.publish_isOpen]
        exact isOpen
  · intro binding found isOpen
    rw [found] at outside
    generalize before : world.registry.bindings id = earlier at outside
    cases outside with
    | same => exact openedBefore binding before isOpen
    | created fresh =>
        intro frame member
        rw [fresh] at member
        cases member
    | @moves earlier _ _ sameSink =>
        rw [sameSink] at isOpen
        intro frame member
        rw [sameSink] at member
        exact openedBefore earlier before isOpen frame member
    | @idles earlier _ _ published =>
        rw [published, SseSink.publish_isOpen] at isOpen
        exact (openedBefore earlier before isOpen).publish rfl published
  · intro binding found isClosed
    rw [found] at outside
    generalize before : world.registry.bindings id = earlier at outside
    cases outside with
    | same => exact closedBefore binding before isClosed
    | created fresh =>
        rw [fresh] at isClosed
        cases isClosed
    | @moves earlier _ active sameSink =>
        rw [sameSink] at isClosed
        have terminal := (closedBefore earlier before isClosed).1
        rw [active] at terminal
        cases terminal
    | @idles earlier _ sameState published =>
        rw [published, SseSink.publish_isOpen] at isClosed
        exact (closedBefore earlier before isClosed).publish isClosed
          sameState published

/-! ## Steps of a call -/

section Calls

variable {name : Nat} {call next : Bridge.Call} {updated : TaskRegistry}

def World.after (world : World) (name : Nat) (next : Bridge.Call)
    (updated : TaskRegistry) : World :=
  { world with calls := world.calls.put name next, registry := updated }

/-- Calls that store a status after the step did so before it. -/
theorem stores_before
    (found : world.calls name = some call)
    (subsides : ∀ status, Stores id status next → Stores id status call)
    {tested : Nat} {other : Bridge.Call} {status : TaskStatus}
    (foundOther : world.calls.put name next tested = some other)
    (stores : Stores id status other) :
    ∃ earlier,
      world.calls tested = some earlier ∧ Stores id status earlier := by
  rcases Pool.put_cases foundOther with ⟨rfl, rfl⟩ | ⟨_, before⟩
  · exact ⟨call, found, subsides status stores⟩
  · exact ⟨other, before, stores⟩

/-- Steps after which no further call stores a status. -/
theorem Tracks.of_subsiding
    (tracks : Tracks id world)
    (found : world.calls name = some call)
    (soundNext : next.Sound)
    (subsides : ∀ status, Stores id status next → Stores id status call)
    (keepsPromise : ∀ status,
      Promised id world status →
        Promised id (World.after world name next updated) status)
    (opened : ∀ binding, updated.bindings id = some binding →
      binding.sink.isOpen = true → Unsealed binding)
    (closed : ∀ binding, updated.bindings id = some binding →
      binding.sink.isOpen = false → Sealed id binding) :
    Tracks id (World.after world name next updated) where
  sound := Pool.all_put tracks.sound soundNext
  promised := by
    intro tested other status foundOther stores
    obtain ⟨earlier, foundEarlier, storesEarlier⟩ :=
      stores_before found subsides foundOther stores
    exact keepsPromise status
      (tracks.promised tested earlier status foundEarlier storesEarlier)
  single := by
    intro first second one two status otherStatus foundOne storesOne
      foundTwo storesTwo
    obtain ⟨earlier, foundEarlier, storesEarlier⟩ :=
      stores_before found subsides foundOne storesOne
    obtain ⟨sooner, foundSooner, storesSooner⟩ :=
      stores_before found subsides foundTwo storesTwo
    exact tracks.single first second earlier sooner status otherStatus
      foundEarlier storesEarlier foundSooner storesSooner
  opened := opened
  closed := closed

theorem Promised.of_binding
    {status : TaskStatus} {before after : TaskBinding}
    (promised : Promised id world status)
    (found : world.registry.bindings id = some before)
    (foundAfter : updated.bindings id = some after)
    (sameState : after.state = before.state)
    (sameOpen : after.sink.isOpen = before.sink.isOpen) :
    Promised id (World.after world name next updated) status := by
  obtain ⟨terminal, binding, foundBinding, isStatus, isOpen⟩ := promised
  rw [found] at foundBinding
  cases foundBinding
  exact ⟨terminal, after, foundAfter, by rw [sameState, isStatus],
    by rw [sameOpen]; exact isOpen⟩

theorem Promised.not_active
    {status : TaskStatus} {before : TaskBinding}
    (promised : Promised id world status)
    (found : world.registry.bindings id = some before) :
    before.state.isTerminal = true := by
  obtain ⟨terminal, binding, foundBinding, isStatus, _⟩ := promised
  rw [found] at foundBinding
  cases foundBinding
  rw [isStatus]
  exact terminal

theorem stores_of_stored
    (sameTask : next.taskId = call.taskId)
    (sameStored : next.stored? = call.stored?)
    (status : TaskStatus) (stores : Stores id status next) :
    Stores id status call := by
  rw [Stores, ← sameTask, ← sameStored]
  exact stores

/-- A call that has stored the status of an active Task is the only one. -/
theorem Tracks.of_decision
    (tracks : Tracks id world)
    (soundNext : next.Sound)
    {before after : TaskBinding} {status : TaskStatus}
    (foundBefore : world.registry.bindings id = some before)
    (foundAfter : updated.bindings id = some after)
    (wasActive : before.state.isTerminal = false)
    (isFinished : status.state.isTerminal = true)
    (isStatus : after.state = status.state)
    (sameSink : after.sink = before.sink)
    (stored : next.stored? = some status) :
    Tracks id (World.after world name next updated) := by
  have isOpen : before.sink.isOpen = true := by
    cases opened : before.sink.isOpen with
    | true => rfl
    | false =>
        have terminal := (tracks.closed before foundBefore opened).1
        rw [wasActive] at terminal
        cases terminal
  have onlyNext :
      ∀ tested other otherStatus,
        world.calls.put name next tested = some other →
          Stores id otherStatus other →
          tested = name ∧ otherStatus = status := by
    intro tested other otherStatus foundOther stores
    rcases Pool.put_cases foundOther with ⟨rfl, rfl⟩ | ⟨_, before⟩
    · have sameStatus := stores.2
      rw [stored] at sameStatus
      cases sameStatus
      exact ⟨rfl, rfl⟩
    · have promised :=
        tracks.promised tested other otherStatus before stores
      have terminal := promised.not_active foundBefore
      rw [wasActive] at terminal
      cases terminal
  refine
    { sound := Pool.all_put tracks.sound soundNext
      promised := ?_
      single := ?_
      opened := ?_
      closed := ?_ }
  · intro tested other otherStatus foundOther stores
    obtain ⟨_, rfl⟩ := onlyNext tested other otherStatus foundOther stores
    exact ⟨isFinished, after, foundAfter, isStatus,
      by rw [sameSink]; exact isOpen⟩
  · intro first second one two _ _ foundOne storesOne foundTwo storesTwo
    have isFirst := (onlyNext first one _ foundOne storesOne).1
    have isSecond := (onlyNext second two _ foundTwo storesTwo).1
    exact isFirst.trans isSecond.symm
  · intro binding found _
    have sameBinding := foundAfter.symm.trans found
    cases sameBinding
    intro frame member
    rw [sameSink] at member
    exact tracks.opened before foundBefore isOpen frame member
  · intro binding found isClosed
    have sameBinding := foundAfter.symm.trans found
    cases sameBinding
    rw [sameSink, isOpen] at isClosed
    cases isClosed

/-- The final frame carries the status that the call has stored. -/
theorem Tracks.of_close
    (tracks : Tracks id world)
    (found : world.calls name = some call)
    (soundNext : next.Sound)
    {before after : TaskBinding} {status : TaskStatus}
    (foundBefore : world.registry.bindings id = some before)
    (foundAfter : updated.bindings id = some after)
    (stores : Stores id status call)
    (done : next.stored? = none)
    (sameState : after.state = before.state)
    (published :
      after.sink = before.sink.publishFinal (.status id status true)) :
    Tracks id (World.after world name next updated) := by
  have noneLeft :
      ∀ tested other otherStatus,
        world.calls.put name next tested = some other →
          ¬ Stores id otherStatus other := by
    intro tested other otherStatus foundOther storesOther
    rcases Pool.put_cases foundOther with ⟨rfl, rfl⟩ | ⟨different, before⟩
    · have stored := storesOther.2
      rw [done] at stored
      cases stored
    · exact different
        (tracks.single tested name other call otherStatus status before
          storesOther found stores)
  obtain ⟨terminal, binding, foundBinding, isStatus, isOpen⟩ :=
    tracks.promised name call status found stores
  have sameBefore := foundBefore.symm.trans foundBinding
  cases sameBefore
  refine
    { sound := Pool.all_put tracks.sound soundNext
      promised := ?_
      single := ?_
      opened := ?_
      closed := ?_ }
  · intro tested other otherStatus foundOther storesOther
    exact absurd storesOther (noneLeft tested other otherStatus foundOther)
  · intro first second one two _ _ foundOne storesOne _ _
    exact absurd storesOne (noneLeft first one _ foundOne)
  · intro changed foundChanged opened
    have sameAfter := foundAfter.symm.trans foundChanged
    cases sameAfter
    rw [published] at opened
    cases opened
  · intro changed foundChanged _
    have sameAfter := foundAfter.symm.trans foundChanged
    cases sameAfter
    refine ⟨by rw [sameState, isStatus]; exact terminal,
      before.sink.sent, status, ?_, ?_, by rw [sameState, isStatus]⟩
    · rw [published, SseSink.publishFinal_sent,
        SseSink.publish_sent_of_open _ isOpen]
    · exact tracks.opened before foundBefore isOpen

theorem Tracks.of_call
    (tracks : Tracks id world)
    (found : world.calls name = some call)
    (soundNext : next.Sound)
    (acted : Bridge.Acted call world.registry next updated) :
    Tracks id (World.after world name next updated) := by
  by_cases own : call.taskId = id
  · subst own
    cases foundBefore : world.registry.bindings call.taskId with
    | none =>
        obtain ⟨stillAbsent, subsides⟩ := acted.unknown foundBefore
        apply tracks.of_subsiding found soundNext
        · intro status stores
          exact ⟨rfl, subsides status stores.2⟩
        · intro status promised
          obtain ⟨_, binding, foundBinding, _⟩ := promised
          rw [foundBefore] at foundBinding
          cases foundBinding
        · intro binding foundAfter
          rw [stillAbsent] at foundAfter
          cases foundAfter
        · intro binding foundAfter
          rw [stillAbsent] at foundAfter
          cases foundAfter
    | some before =>
        obtain ⟨after, foundAfter, act⟩ := acted.known before foundBefore
        have isAfter : ∀ binding,
            updated.bindings call.taskId = some binding →
              binding = after := by
          intro binding foundBinding
          exact Option.some.inj (foundBinding.symm.trans foundAfter)
        cases act with
        | keeps sameState sameSink sameStored =>
            apply tracks.of_subsiding found soundNext
            · exact stores_of_stored acted.taskId sameStored
            · intro status promised
              exact promised.of_binding foundBefore foundAfter sameState
                (by rw [sameSink])
            · intro binding foundBinding isOpen frame member
              rw [isAfter binding foundBinding, sameSink] at isOpen member
              exact tracks.opened before foundBefore isOpen frame member
            · intro binding foundBinding isClosed
              rw [isAfter binding foundBinding] at isClosed ⊢
              rw [Sealed, sameState, sameSink]
              rw [sameSink] at isClosed
              exact tracks.closed before foundBefore isClosed
        | shows event notFinal sameState published sameStored =>
            have sameOpen : after.sink.isOpen = before.sink.isOpen := by
              rw [published, SseSink.publishEvent, SseSink.publish_isOpen]
            apply tracks.of_subsiding found soundNext
            · exact stores_of_stored acted.taskId sameStored
            · intro status promised
              exact promised.of_binding foundBefore foundAfter sameState
                sameOpen
            · intro binding foundBinding isOpen
              rw [isAfter binding foundBinding] at isOpen ⊢
              rw [sameOpen] at isOpen
              exact (tracks.opened before foundBefore isOpen).publish notFinal
                published
            · intro binding foundBinding isClosed
              rw [isAfter binding foundBinding] at isClosed ⊢
              rw [sameOpen] at isClosed
              exact (tracks.closed before foundBefore isClosed).publish
                isClosed sameState published
        | begins wasSubmitted isWorking sameSink sameStored =>
            have wasActive : before.state.isTerminal = false := by
              rw [wasSubmitted]
              rfl
            apply tracks.of_subsiding found soundNext
            · exact stores_of_stored acted.taskId sameStored
            · intro status promised
              have terminal := promised.not_active foundBefore
              rw [wasActive] at terminal
              cases terminal
            · intro binding foundBinding isOpen frame member
              rw [isAfter binding foundBinding, sameSink] at isOpen member
              exact tracks.opened before foundBefore isOpen frame member
            · intro binding foundBinding isClosed
              rw [isAfter binding foundBinding, sameSink] at isClosed
              have terminal := (tracks.closed before foundBefore isClosed).1
              rw [wasActive] at terminal
              cases terminal
        | decides status wasActive isFinished isStatus sameSink stored =>
            exact tracks.of_decision soundNext foundBefore foundAfter
              wasActive isFinished isStatus sameSink stored
        | closes status wasStored done sameState published =>
            exact tracks.of_close found soundNext foundBefore foundAfter
              ⟨rfl, wasStored⟩ done sameState published
  · have sameBinding : updated.bindings id = world.registry.bindings id :=
      acted.frame.others id (Ne.symm own)
    apply tracks.of_subsiding found soundNext
    · intro status stores
      exact absurd (acted.taskId.symm.trans stores.1) own
    · intro status promised
      obtain ⟨terminal, binding, foundBinding, isStatus, isOpen⟩ := promised
      exact ⟨terminal, binding, sameBinding.trans foundBinding, isStatus,
        isOpen⟩
    · intro binding foundBinding
      exact tracks.opened binding (sameBinding.symm.trans foundBinding)
    · intro binding foundBinding
      exact tracks.closed binding (sameBinding.symm.trans foundBinding)

end Calls

/-! ## Every step -/

theorem outside_put
    {registry : TaskRegistry} {changed : TaskId} {before after : TaskBinding}
    (found : registry.bindings changed = some before)
    (outside : Outside (some before) (some after)) :
    Outside (registry.bindings id)
      ((registry.put changed after).bindings id) := by
  by_cases same : id = changed
  · subst same
    rw [found, TaskRegistry.put_self]
    exact outside
  · rw [TaskRegistry.put_other same]
    exact .same

theorem outside_cancel (cancelled : TaskId) :
    Outside (world.registry.bindings id)
      ((world.cancel cancelled).registry.bindings id) := by
  unfold TaskWriters.World.cancel
  cases outcome : world.registry.cancel cancelled with
  | error error => exact .same
  | ok updated =>
      obtain ⟨binding, found, active, rfl⟩ :=
        TaskRegistry.cancel_ok_iff.mp outcome
      exact outside_put found (.moves active rfl)

theorem outside_settle
    {outcome : Except TransitionError TaskRegistry}
    (moves : ∀ updated, outcome = .ok updated →
      ∃ changed before state,
        world.registry.bindings changed = some before ∧
          before.state.isTerminal = false ∧
            updated = world.registry.put changed { before with state }) :
    Outside (world.registry.bindings id)
      ((settle world outcome).registry.bindings id) := by
  cases outcome with
  | error error => exact .same
  | ok updated =>
      obtain ⟨changed, before, state, found, active, rfl⟩ := moves updated rfl
      exact outside_put found (.moves active rfl)

theorem settle_calls
    (world : World) (outcome : Except TransitionError TaskRegistry) :
    (settle world outcome).calls = world.calls := by
  cases outcome <;> rfl

/-- The steps: one of the other callers, a call that begins, or a step of a
call. -/
inductive Steps (json : SerdeJson) (world target : World) : Prop
  | outside (sameCalls : target.calls = world.calls)
      (changes : ∀ id,
        Outside (world.registry.bindings id) (target.registry.bindings id))
  | begins (name : Nat) (started : TaskId)
      (unused : world.calls name = none)
      (isTarget :
        target =
          World.after world name (.begin started) world.registry)
  | bridges (name : Nat) (action : Bridge.Action) (call next : Bridge.Call)
      (updated : TaskRegistry)
      (found : world.calls name = some call)
      (stepped :
        Bridge.step json action (call, world.registry) =
          some (next, updated))
      (isTarget : target = World.after world name next updated)

theorem writer_steps
    {action : TaskWriters.Action}
    (taken : TaskWriters.step json action world = some target) :
    Steps json world target := by
  cases TaskWriters.step_steps taken with
  | creates created conversation session unknown =>
      refine .outside rfl ?_
      intro id
      by_cases same : id = created
      · subst same
        rw [unknown, TaskRegistry.create_self]
        exact .created rfl
      · rw [TaskRegistry.create_other same]
        exact .same
  | begins name started unused => exact .begins name started unused rfl
  | bridges name action call next updated found stepped =>
      exact .bridges name action call next updated found stepped rfl
  | cancels cancelled =>
      exact .outside (TaskWriters.cancel_calls cancelled)
        fun id => outside_cancel cancelled
  | lists name key => exact .outside rfl fun id => .same
  | cancelsNext name cancelled rest listed =>
      exact .outside (TaskWriters.cancel_calls cancelled)
        fun id => outside_cancel cancelled

theorem step_steps
    {action : Action}
    (taken : step json action world = some target) :
    Steps json world target := by
  cases action with
  | writer action => exact writer_steps taken
  | acceptContinuation continued =>
      cases taken
      refine .outside (settle_calls _ _) fun id => ?_
      apply outside_settle
      intro updated accepted
      obtain ⟨binding, found, waiting, isUpdated⟩ :=
        TaskRegistry.acceptContinuation_ok_iff.mp accepted
      exact ⟨continued, binding, .working, found, by rw [waiting]; rfl,
        isUpdated⟩
  | transition moved toState =>
      cases taken
      refine .outside (settle_calls _ _) fun id => ?_
      apply outside_settle
      intro updated accepted
      obtain ⟨binding, found, legal, isUpdated⟩ :=
        TaskRegistry.transition_ok_iff.mp accepted
      have active : binding.state.isTerminal = false := by
        by_contra terminal
        have illegal :=
          TaskRegistry.isLegal_from_terminal (by simpa using terminal) toState
        rw [illegal] at legal
        cases legal
      exact ⟨moved, binding, toState, found, active, isUpdated⟩
  | keepalive published =>
      cases taken
      refine .outside rfl fun id => ?_
      cases found : world.registry.bindings published with
      | none =>
          have unchanged :
              world.registry.onSink published
                  (SseSink.publish SseFrame.keepalive) =
                world.registry := by
            simp [TaskRegistry.onSink, found]
          simp only [unchanged]
          exact .same
      | some binding =>
          simp only [TaskRegistry.onSink_of_some found]
          exact outside_put found (.idles rfl rfl)

theorem tracks_start (id : TaskId) : Tracks id World.start where
  sound := Pool.all_empty
  promised := by
    intro name call status found
    cases found
  single := by
    intro name other call otherCall status otherStatus found
    cases found
  opened := by
    intro binding found
    cases found
  closed := by
    intro binding found
    cases found

theorem Tracks.of_begin
    {name : Nat} {started : TaskId}
    (tracks : Tracks id world) (unused : world.calls name = none) :
    Tracks id (World.after world name (.begin started) world.registry) := by
  have earlier :
      ∀ tested other status,
        world.calls.put name (Bridge.Call.begin started) tested = some other →
          Stores id status other → world.calls tested = some other := by
    intro tested other status foundOther stores
    rcases Pool.put_cases foundOther with ⟨rfl, rfl⟩ | ⟨_, before⟩
    · cases stores.2
    · exact before
  refine
    { sound := Pool.all_put tracks.sound (Bridge.sound_of_none rfl)
      promised := ?_
      single := ?_
      opened := tracks.opened
      closed := tracks.closed }
  · intro tested other status foundOther stores
    obtain ⟨terminal, kept⟩ :=
      tracks.promised tested other status
        (earlier tested other status foundOther stores) stores
    exact ⟨terminal, kept⟩
  · intro first second one two status otherStatus foundOne storesOne
      foundTwo storesTwo
    exact tracks.single first second one two status otherStatus
      (earlier first one status foundOne storesOne) storesOne
      (earlier second two otherStatus foundTwo storesTwo) storesTwo

theorem Tracks.of_steps
    (tracks : Tracks id world) (steps : Steps json world target) :
    Tracks id target := by
  cases steps with
  | outside sameCalls changes => exact tracks.of_outside sameCalls (changes id)
  | begins name started unused isTarget =>
      subst isTarget
      exact tracks.of_begin unused
  | bridges name action call next updated found stepped isTarget =>
      subst isTarget
      have sound := tracks.sound name call found
      exact tracks.of_call found (Bridge.step_sound sound stepped)
        (Bridge.step_acted sound stepped)

theorem tracks_of_run
    {trace : List Action}
    (run : Machine.Run (step json) Machine.free World.start trace world) :
    Tracks id world := by
  refine run.invariant (Tracks id) (tracks_start id) ?_
  intro source action next before _ taken
  exact before.of_steps (step_steps taken)

/-! ## Frames stay sent -/

/-- The Task is still there, and nothing sent for it is lost. -/
def Extends (before after : Option TaskBinding) : Prop :=
  ∀ binding, before = some binding →
    ∃ extended, after = some extended ∧
      binding.sink.sent <+: extended.sink.sent

theorem Extends.refl (binding : Option TaskBinding) :
    Extends binding binding :=
  fun binding found => ⟨binding, found, List.prefix_refl _⟩

theorem Extends.trans
    {before middle after : Option TaskBinding}
    (first : Extends before middle) (second : Extends middle after) :
    Extends before after := by
  intro binding found
  obtain ⟨between, foundBetween, early⟩ := first binding found
  obtain ⟨extended, foundAfter, late⟩ := second between foundBetween
  exact ⟨extended, foundAfter, early.trans late⟩

theorem sent_prefix_publish (sink : SseSink) (frame : SseFrame) :
    sink.sent <+: (sink.publish frame).sent := by
  unfold SseSink.publish
  split
  · exact List.prefix_append _ _
  · exact List.prefix_refl _

theorem Outside.extends
    {before after : Option TaskBinding} (outside : Outside before after) :
    Extends before after := by
  intro binding found
  subst found
  cases outside with
  | same => exact ⟨binding, rfl, List.prefix_refl _⟩
  | @moves _ after _ sameSink =>
      exact ⟨after, rfl, by rw [sameSink]⟩
  | @idles _ after _ published =>
      exact ⟨after, rfl, by rw [published]; exact sent_prefix_publish _ _⟩

theorem acted_extends
    {call next : Bridge.Call} {registry updated : TaskRegistry}
    (acted : Bridge.Acted call registry next updated) :
    Extends (registry.bindings id) (updated.bindings id) := by
  by_cases own : id = call.taskId
  · subst own
    intro before found
    obtain ⟨after, foundAfter, act⟩ := acted.known before found
    refine ⟨after, foundAfter, ?_⟩
    cases act with
    | keeps _ sameSink | begins _ _ sameSink | decides _ _ _ _ sameSink =>
        rw [sameSink]
    | shows event _ _ published =>
        rw [published]
        exact sent_prefix_publish _ _
    | closes status _ _ _ published =>
        rw [published, SseSink.publishFinal_sent]
        exact sent_prefix_publish _ _
  · rw [acted.frame.others id own]
    exact .refl _

theorem extends_of_steps
    (tracks : Tracks id world) (steps : Steps json world target) :
    Extends (world.registry.bindings id) (target.registry.bindings id) := by
  cases steps with
  | outside _ changes => exact (changes id).extends
  | begins name started unused isTarget =>
      subst isTarget
      exact .refl _
  | bridges name action call next updated found stepped isTarget =>
      subst isTarget
      have sound := tracks.sound name call found
      exact acted_extends (Bridge.step_acted sound stepped)

theorem extends_of_run
    {later : World} {trace more : List Action}
    (run : Machine.Run (step json) Machine.free World.start trace world)
    (further : Machine.Run (step json) Machine.free world more later) :
    Extends (world.registry.bindings id) (later.registry.bindings id) := by
  have both :
      Tracks id later ∧
        Extends (world.registry.bindings id)
          (later.registry.bindings id) := by
    refine further.invariant
      (fun reached =>
        Tracks id reached ∧
          Extends (world.registry.bindings id) (reached.registry.bindings id))
      ⟨tracks_of_run run, .refl _⟩ ?_
    intro source action next before _ taken
    have steps := step_steps taken
    exact ⟨before.1.of_steps steps,
      before.2.trans (extends_of_steps before.1 steps)⟩
  exact both.2

/-- In every state of every run, the frames sent for a Task hold at most one
final frame, which is the last and carries the Task's state; and from then on
the frames and the state stay as they are. -/
theorem final_frames_truthful
    {trace : List Action}
    (run : Machine.Run (step json) Machine.free World.start trace world)
    {binding : TaskBinding}
    (found : world.registry.bindings id = some binding) :
    Truthful binding ∧
      ∀ more later,
        Machine.Run (step json) Machine.free world more later →
          (∃ frame, frame ∈ binding.sink.sent ∧ frame.isFinal = true) →
            ∃ after,
              later.registry.bindings id = some after ∧
                after.sink.sent = binding.sink.sent ∧
                  after.state = binding.state := by
  have truthful := (tracks_of_run run).truthful found
  refine ⟨truthful, ?_⟩
  intro more later further published
  obtain ⟨frame, member, isFinal⟩ := published
  obtain ⟨after, foundAfter, extra, sentAfter⟩ :=
    extends_of_run run further binding found
  obtain ⟨front, back, sentBefore⟩ := List.append_of_mem member
  have wholeRun := run.append further
  have truthfulAfter := (tracks_of_run wholeRun).truthful foundAfter
  have splitAfter :
      after.sink.sent = front ++ frame :: (back ++ extra) := by
    rw [← sentAfter, sentBefore]
    simp
  obtain ⟨_, _, _, inner, isInner, sameState⟩ :=
    truthful front frame back sentBefore isFinal
  obtain ⟨nothing, _, _, later, isLater, stateAfter⟩ :=
    truthfulAfter front frame (back ++ extra) splitAfter isFinal
  have noExtra : extra = [] := (List.append_eq_nil_iff.mp nothing).2
  subst noExtra
  rw [isInner] at isLater
  cases isLater
  exact ⟨after, foundAfter, by rw [← sentAfter, List.append_nil],
    stateAfter.symm.trans sameState⟩

/-- A Task that asks for input, is continued, and is bridged to its end. -/
theorem continued_turn_truthful :
    ∃ trace world binding,
      Machine.exec (step .constant) trace World.start = some world ∧
        world.registry.bindings ⟨"t"⟩ = some binding ∧
          binding.sink.sent.length = 2 ∧ Truthful binding := by
  let trace : List Action :=
    [.writer (.create ⟨"t"⟩ "c" "s"), .writer (.runSession 0 ⟨"t"⟩),
      .writer (.bridge 0 .work),
      .writer (.bridge 0 (.poll (some (.ok (.update .other))))),
      .writer (.bridge 0 .work), .writer (.bridge 0 .work),
      .writer (.bridge 0 .work), .transition ⟨"t"⟩ .inputRequired,
      .acceptContinuation ⟨"t"⟩,
      .writer (.bridge 0 (.poll (some (.ok (.terminal .endTurn))))),
      .writer (.bridge 0 .work), .writer (.bridge 0 .work),
      .writer (.bridge 0 .work), .keepalive ⟨"t"⟩]
  obtain ⟨world, executed⟩ : ∃ world,
      Machine.exec (step .constant) trace World.start = some world :=
    ⟨_, rfl⟩
  obtain ⟨binding, found⟩ : ∃ binding,
      world.registry.bindings ⟨"t"⟩ = some binding := by
    cases executed
    exact ⟨_, rfl⟩
  have twoFrames : binding.sink.sent.length = 2 := by
    cases executed
    cases found
    rfl
  exact ⟨trace, world, binding, executed, found, twoFrames,
    (final_frames_truthful (Machine.run_of_exec executed) found).1⟩

end FinalFrames

end A2AShim
