import A2AShim.Lib.Pool
import A2AShim.Serve.BridgeEffects

/-!
# The writers of a Task

Three kinds of callers change the state of a Task: `run_session` calls, the
`CancelTask` handler and the `_shim/conversation/reset` handler.  They run at
the same time, each cut at its uses of the registry.

Only `run_session` publishes on the Task's sink.  The phases below follow one
Task through any interleaving: a user's cancel takes an active Task to
`abandoned`, and from there no step reaches its sink with a final frame.
-/

namespace A2AShim

namespace TaskWriters

/-- A reset handler holds the Tasks it has listed and not yet cancelled. -/
structure World where
  registry : TaskRegistry
  calls : Pool Nat Bridge.Call
  resets : Pool Nat (List TaskId)

namespace World

def start : World :=
  { registry := .empty, calls := .empty, resets := .empty }

/-- The Tasks a reset of `key` finds in its one page of the list. -/
def resetTargets (world : World) (key : String) : List TaskId :=
  ((world.registry.list none 1000).1.filter fun task =>
    task.contextId == some key && !task.status.state.isTerminal).map Task.id

/-- `TaskRegistry::cancel`, whose error both handlers survive. -/
def cancel (world : World) (id : TaskId) : World :=
  match world.registry.cancel id with
  | .error _ => world
  | .ok updated => { world with registry := updated }

end World

inductive Action where
  | create (id : TaskId) (conversation session : String)
  | runSession (name : Nat) (id : TaskId)
  | bridge (name : Nat) (action : Bridge.Action)
  | cancelTask (id : TaskId)
  | reset (name : Nat) (key : String)
  | resetNext (name : Nat)
  deriving DecidableEq, Repr

variable (json : SerdeJson)

def step : Action → World → Option World
  | .create id conversation session, world =>
      match world.registry.bindings id with
      | some _ => none
      | none =>
          some { world with
            registry := world.registry.create id conversation session }
  | .runSession name id, world =>
      match world.calls name with
      | some _ => none
      | none =>
          some { world with
            calls := world.calls.put name (Bridge.Call.begin id) }
  | .bridge name action, world =>
      (world.calls name).bind fun call =>
        (Bridge.step json action (call, world.registry)).map fun next =>
          { world with
            calls := world.calls.put name next.1
            registry := next.2 }
  | .cancelTask id, world => some (world.cancel id)
  | .reset name key, world =>
      match world.resets name with
      | some _ => none
      | none =>
          some { world with
            resets := world.resets.put name (world.resetTargets key) }
  | .resetNext name, world =>
      match world.resets name with
      | some (id :: rest) =>
          some { world.cancel id with resets := world.resets.put name rest }
      | _ => none

/-- The Task an action asks to cancel. -/
def Action.cancels (world : World) : Action → Option TaskId
  | .cancelTask id => some id
  | .resetNext name => (world.resets name).bind List.head?
  | _ => none

/-- A user's cancel reaches the Task before it is terminal. -/
def CancelsActive (id : TaskId) (world : World) (action : Action) : Prop :=
  action.cancels world = some id ∧
    ∃ binding, world.registry.bindings id = some binding ∧
      binding.state.isTerminal = false

/-- The call has returned, or is for another Task. -/
def NoCallRunning (id : TaskId) (world : World) : Prop :=
  ∀ name call, world.calls name = some call → call.taskId = id →
    ∃ result, call.pc = .returned result

/-- A final frame was published, and nobody can subscribe any more. -/
def StreamTerminated (binding : TaskBinding) : Prop :=
  (∃ frame, frame ∈ binding.sink.sent ∧ frame.isFinal = true) ∧
    binding.sink.subscribe = none

/-! ## Phases of one Task -/

/-- A call has stored the Task's final status, and will publish it. -/
def Closing (id : TaskId) (world : World) : Prop :=
  world.calls.Any fun call => call.taskId = id ∧ call.isClosing = true

/-- No final frame yet, and subscribers are let in. -/
def StillOpen (binding : TaskBinding) : Prop :=
  binding.sink.isOpen = true ∧
    ∀ frame, frame ∈ binding.sink.sent → frame.isFinal = false

inductive Phase where
  | absent
  | active
  | closing
  | closed
  | abandoned
  deriving DecidableEq, Repr

def Phase.Holds (id : TaskId) (world : World) : Phase → Prop
  | .absent =>
      world.registry.bindings id = none ∧ ¬ Closing id world
  | .active => ∃ binding,
      world.registry.bindings id = some binding ∧
        binding.state.isTerminal = false ∧ StillOpen binding ∧
          ¬ Closing id world
  | .closing => ∃ binding,
      world.registry.bindings id = some binding ∧
        binding.state.isTerminal = true ∧ StillOpen binding ∧
          Closing id world
  | .closed => ∃ binding,
      world.registry.bindings id = some binding ∧
        binding.state.isTerminal = true ∧ StreamTerminated binding
  | .abandoned => ∃ binding,
      world.registry.bindings id = some binding ∧
        binding.state.isTerminal = true ∧ StillOpen binding ∧
          ¬ Closing id world

variable {json} {id : TaskId} {world target : World} {phase : Phase}

theorem Phase.Holds.congr
    (sameBinding :
      target.registry.bindings id = world.registry.bindings id)
    (sameClosing : Closing id target ↔ Closing id world)
    (holds : phase.Holds id world) :
    phase.Holds id target := by
  cases phase <;>
    simpa only [Phase.Holds, sameBinding, sameClosing] using holds

theorem StillOpen.publishEvent
    {before after : TaskBinding} {event : SseEvent}
    (opened : StillOpen before)
    (notFinal : (SseFrame.event event).isFinal = false)
    (published : after.sink = before.sink.publishEvent event) :
    StillOpen after := by
  rcases opened with ⟨isOpen, noFinal⟩
  rw [StillOpen, published, SseSink.publishEvent, SseSink.publish_isOpen,
    SseSink.publish_sent_of_open _ isOpen]
  refine ⟨isOpen, ?_⟩
  intro frame member
  rcases List.mem_append.mp member with earlier | last
  · exact noFinal frame earlier
  · rw [List.mem_singleton.mp last]
    exact notFinal

theorem StillOpen.of_sameSink
    {before after : TaskBinding}
    (opened : StillOpen before) (sameSink : after.sink = before.sink) :
    StillOpen after := by
  rw [StillOpen, sameSink]
  exact opened

theorem StillOpen.publishFinal
    {before after : TaskBinding} {event : SseEvent}
    (opened : StillOpen before)
    (isFinal : (SseFrame.event event).isFinal = true)
    (published : after.sink = before.sink.publishFinal event) :
    StreamTerminated after := by
  rw [StreamTerminated, published, SseSink.publishFinal_sent,
    SseSink.publish_sent_of_open _ opened.1]
  exact ⟨⟨_, by simp, isFinal⟩, by simp [SseSink.subscribe]⟩

theorem StreamTerminated.isOpen
    {binding : TaskBinding} (terminated : StreamTerminated binding) :
    binding.sink.isOpen = false := by
  have refused := terminated.2
  unfold SseSink.subscribe at refused
  by_contra opened
  simp [opened] at refused

/-- A terminated stream stays as it is, whatever is published. -/
theorem StreamTerminated.publish
    {before after : TaskBinding} {event : SseEvent}
    (terminated : StreamTerminated before)
    (published : after.sink = before.sink.publishEvent event ∨
      after.sink = before.sink.publishFinal event) :
    StreamTerminated after := by
  have closed := terminated.isOpen
  have sameSink : after.sink = before.sink := by
    rcases published with shown | finished
    · rw [shown, SseSink.publishEvent, SseSink.publish_of_closed _ closed]
    · rw [finished, SseSink.publishFinal,
        SseSink.publish_of_closed _ closed, ← closed]
  rw [StreamTerminated, sameSink]
  exact terminated

theorem not_stillOpen_of_terminated
    {binding : TaskBinding} (terminated : StreamTerminated binding) :
    ¬ StillOpen binding := by
  intro opened
  rcases opened with ⟨isOpen, _⟩
  rw [terminated.isOpen] at isOpen
  cases isOpen

/-! One step of a call moves the phase of its own Task only. -/

theorem closing_put_other
    {name : Nat} {call next : Bridge.Call}
    (found : world.calls name = some call)
    (sameTask : next.taskId = call.taskId) (other : call.taskId ≠ id) :
    (world.calls.put name next).Any
        (fun call => call.taskId = id ∧ call.isClosing = true) ↔
      Closing id world := by
  apply Pool.any_put_congr found
  rw [sameTask]
  simp [other]

theorem closing_put_same
    (id : TaskId) {name : Nat} {call next : Bridge.Call}
    (found : world.calls name = some call)
    (sameTask : next.taskId = call.taskId)
    (sameClosing : next.isClosing = call.isClosing) :
    (world.calls.put name next).Any
        (fun call => call.taskId = id ∧ call.isClosing = true) ↔
      Closing id world := by
  apply Pool.any_put_congr found
  rw [sameTask, sameClosing]

theorem phase_of_call
    {name : Nat} {call next : Bridge.Call} {updated : TaskRegistry}
    (found : world.calls name = some call)
    (stepped : Bridge.Stepped call world.registry next updated)
    (holds : phase.Holds id world) :
    ∃ after : Phase,
      after.Holds id
          { world with
            calls := world.calls.put name next, registry := updated } ∧
        (after = .abandoned ↔ phase = .abandoned) := by
  by_cases own : call.taskId = id
  · subst own
    have isClosing : call.isClosing = true → Closing call.taskId world :=
      fun closing => ⟨name, call, found, rfl, closing⟩
    have stillClosing := fun sameClosing =>
      closing_put_same call.taskId found stepped.taskId sameClosing
    cases phase with
    | absent =>
        rcases holds with ⟨absent, notClosing⟩
        obtain ⟨stillAbsent, closingBefore⟩ := stepped.unknown absent
        refine ⟨.absent, ⟨stillAbsent, ?_⟩, Iff.rfl⟩
        apply Pool.not_any_put notClosing
        intro nowClosing
        rcases nowClosing with ⟨_, closing⟩
        exact notClosing (isClosing (closingBefore closing))
    | active =>
        rcases holds with ⟨before, foundBefore, active, opened, notClosing⟩
        obtain ⟨after, foundAfter, effect⟩ :=
          stepped.known before foundBefore
        cases effect with
        | keeps sameState sameSink sameClosing =>
            exact ⟨.active, ⟨after, foundAfter, by rw [sameState]; exact active,
              opened.of_sameSink sameSink,
              fun now => notClosing ((stillClosing sameClosing).mp now)⟩,
              Iff.rfl⟩
        | shows event notFinal sameState published sameClosing =>
            exact ⟨.active, ⟨after, foundAfter, by rw [sameState]; exact active,
              opened.publishEvent notFinal published,
              fun now => notClosing ((stillClosing sameClosing).mp now)⟩,
              Iff.rfl⟩
        | begins _ isWorking sameSink sameClosing =>
            exact ⟨.active, ⟨after, foundAfter, by rw [isWorking]; rfl,
              opened.of_sameSink sameSink,
              fun now => notClosing ((stillClosing sameClosing).mp now)⟩,
              Iff.rfl⟩
        | decides _ isFinished sameSink closing =>
            exact ⟨.closing, ⟨after, foundAfter, isFinished,
              opened.of_sameSink sameSink,
              Pool.any_put ⟨stepped.taskId, closing⟩⟩, by simp⟩
        | closes _ _ wasClosing _ _ =>
            exact absurd (isClosing wasClosing) notClosing
    | closing =>
        rcases holds with ⟨before, foundBefore, terminal, opened, closing⟩
        obtain ⟨after, foundAfter, effect⟩ :=
          stepped.known before foundBefore
        obtain ⟨sameState, change⟩ := effect.ended terminal
        rw [← sameState] at terminal
        rcases change with
          ⟨sameSink, sameClosing⟩ |
            ⟨event, notFinal, published, sameClosing⟩ |
              ⟨event, isFinal, wasClosing, published⟩
        · exact ⟨.closing, ⟨after, foundAfter, terminal,
            opened.of_sameSink sameSink,
            (stillClosing sameClosing).mpr closing⟩, Iff.rfl⟩
        · exact ⟨.closing, ⟨after, foundAfter, terminal,
            opened.publishEvent notFinal published,
            (stillClosing sameClosing).mpr closing⟩, Iff.rfl⟩
        · exact ⟨.closed, ⟨after, foundAfter, terminal,
            opened.publishFinal isFinal published⟩, by simp⟩
    | closed =>
        rcases holds with ⟨before, foundBefore, terminal, terminated⟩
        obtain ⟨after, foundAfter, effect⟩ :=
          stepped.known before foundBefore
        obtain ⟨sameState, change⟩ := effect.ended terminal
        rw [← sameState] at terminal
        rcases change with
          ⟨sameSink, sameClosing⟩ |
            ⟨event, notFinal, published, sameClosing⟩ |
              ⟨event, isFinal, wasClosing, published⟩
        · refine ⟨.closed, ⟨after, foundAfter, terminal, ?_⟩, Iff.rfl⟩
          rw [StreamTerminated, sameSink]
          exact terminated
        · exact ⟨.closed, ⟨after, foundAfter, terminal,
            terminated.publish (.inl published)⟩, Iff.rfl⟩
        · exact ⟨.closed, ⟨after, foundAfter, terminal,
            terminated.publish (.inr published)⟩, Iff.rfl⟩
    | abandoned =>
        rcases holds with ⟨before, foundBefore, terminal, opened, notClosing⟩
        obtain ⟨after, foundAfter, effect⟩ :=
          stepped.known before foundBefore
        obtain ⟨sameState, change⟩ := effect.ended terminal
        rw [← sameState] at terminal
        rcases change with
          ⟨sameSink, sameClosing⟩ |
            ⟨event, notFinal, published, sameClosing⟩ |
              ⟨event, isFinal, wasClosing, published⟩
        · exact ⟨.abandoned, ⟨after, foundAfter, terminal,
            opened.of_sameSink sameSink,
            fun now => notClosing ((stillClosing sameClosing).mp now)⟩,
            Iff.rfl⟩
        · exact ⟨.abandoned, ⟨after, foundAfter, terminal,
            opened.publishEvent notFinal published,
            fun now => notClosing ((stillClosing sameClosing).mp now)⟩,
            Iff.rfl⟩
        · exact absurd (isClosing wasClosing) notClosing
  · have sameBinding : updated.bindings id = world.registry.bindings id :=
      stepped.frame.others id (Ne.symm own)
    exact ⟨phase,
      holds.congr sameBinding (closing_put_other found stepped.taskId own),
      Iff.rfl⟩

/-! Cancels. -/

theorem cancel_of_active
    {binding : TaskBinding}
    (found : world.registry.bindings id = some binding)
    (active : binding.state.isTerminal = false) :
    (world.cancel id).registry.bindings id =
      some { binding with state := .canceled } := by
  have cancelled :=
    TaskRegistry.cancel_ok_iff.mpr ⟨binding, found, active, rfl⟩
  simp [World.cancel, cancelled]

/-- A cancel that is refused changes nothing. -/
theorem cancel_of_inactive
    (inactive : ∀ binding, world.registry.bindings id = some binding →
      binding.state.isTerminal = true) :
    world.cancel id = world := by
  unfold World.cancel
  cases outcome : world.registry.cancel id with
  | error error => rfl
  | ok updated =>
      obtain ⟨binding, found, active, _⟩ :=
        TaskRegistry.cancel_ok_iff.mp outcome
      rw [inactive binding found] at active
      cases active

theorem cancel_other
    {cancelled : TaskId} (other : id ≠ cancelled) :
    (world.cancel cancelled).registry.bindings id =
      world.registry.bindings id := by
  unfold World.cancel
  cases outcome : world.registry.cancel cancelled with
  | error error => rfl
  | ok updated =>
      obtain ⟨binding, _, _, rfl⟩ := TaskRegistry.cancel_ok_iff.mp outcome
      exact TaskRegistry.put_other other

theorem cancel_calls (cancelled : TaskId) :
    (world.cancel cancelled).calls = world.calls := by
  unfold World.cancel
  split <;> rfl

theorem phase_of_cancel
    (cancelled : TaskId) (holds : phase.Holds id world) :
    ∃ after : Phase,
      after.Holds id (world.cancel cancelled) ∧
        (after = .abandoned ↔
          phase = .abandoned ∨
            cancelled = id ∧
              ∃ binding, world.registry.bindings id = some binding ∧
                binding.state.isTerminal = false) := by
  by_cases own : cancelled = id
  · subst own
    have refused :
        (∀ binding, world.registry.bindings cancelled = some binding →
            binding.state.isTerminal = true) →
          ∃ after : Phase,
            after.Holds cancelled (world.cancel cancelled) ∧
              (after = .abandoned ↔
                phase = .abandoned ∨
                  cancelled = cancelled ∧
                    ∃ binding,
                      world.registry.bindings cancelled = some binding ∧
                        binding.state.isTerminal = false) := by
      intro inactive
      rw [cancel_of_inactive inactive]
      refine ⟨phase, holds, ?_⟩
      constructor
      · exact .inl
      · intro cause
        rcases cause with same | ⟨_, binding, found, active⟩
        · exact same
        · rw [inactive binding found] at active
          cases active
    have terminalOf :
        ∀ known, world.registry.bindings cancelled = some known →
          known.state.isTerminal = true →
            ∀ binding, world.registry.bindings cancelled = some binding →
              binding.state.isTerminal = true := by
      intro known foundKnown terminal binding found
      rw [foundKnown] at found
      cases found
      exact terminal
    cases phase with
    | absent =>
        apply refused
        intro binding found
        rw [holds.1] at found
        cases found
    | active =>
        rcases holds with ⟨binding, found, active, opened, notClosing⟩
        refine ⟨.abandoned, ⟨_, cancel_of_active found active, rfl,
          opened.of_sameSink rfl, ?_⟩,
          iff_of_true rfl (.inr ⟨rfl, binding, found, active⟩)⟩
        rw [Closing, cancel_calls]
        exact notClosing
    | closing =>
        rcases holds with ⟨binding, found, terminal, _⟩
        exact refused (terminalOf binding found terminal)
    | closed =>
        rcases holds with ⟨binding, found, terminal, _⟩
        exact refused (terminalOf binding found terminal)
    | abandoned =>
        rcases holds with ⟨binding, found, terminal, _⟩
        exact refused (terminalOf binding found terminal)
  · refine ⟨phase, holds.congr (cancel_other (Ne.symm own)) ?_, ?_⟩
    · rw [Closing, cancel_calls]
      rfl
    · simp [own]

/-! ## Every interleaving -/

/-- What a step can do. -/
inductive Steps (json : SerdeJson) (world : World) : Action → World → Prop
  | creates (created : TaskId) (conversation session : String)
      (unknown : world.registry.bindings created = none) :
      Steps json world (.create created conversation session)
        { world with
          registry := world.registry.create created conversation session }
  | begins (name : Nat) (started : TaskId)
      (unused : world.calls name = none) :
      Steps json world (.runSession name started)
        { world with calls := world.calls.put name (Bridge.Call.begin started) }
  | bridges (name : Nat) (action : Bridge.Action) (call next : Bridge.Call)
      (updated : TaskRegistry)
      (found : world.calls name = some call)
      (moved :
        Bridge.step json action (call, world.registry) =
          some (next, updated)) :
      Steps json world (.bridge name action)
        { world with
          calls := world.calls.put name next
          registry := updated }
  | cancels (cancelled : TaskId) :
      Steps json world (.cancelTask cancelled) (world.cancel cancelled)
  | lists (name : Nat) (key : String) :
      Steps json world (.reset name key)
        { world with
          resets := world.resets.put name (world.resetTargets key) }
  | cancelsNext (name : Nat) (cancelled : TaskId) (rest : List TaskId)
      (listed : world.resets name = some (cancelled :: rest)) :
      Steps json world (.resetNext name)
        { world.cancel cancelled with
          resets := world.resets.put name rest }

theorem step_steps
    {action : Action} (taken : step json action world = some target) :
    Steps json world action target := by
  cases action with
  | create created conversation session =>
      simp only [step] at taken
      split at taken
      · cases taken
      · rename_i unknown
        cases taken
        exact .creates created conversation session unknown
  | runSession name started =>
      simp only [step] at taken
      split at taken
      · cases taken
      · rename_i unused
        cases taken
        exact .begins name started unused
  | bridge name action =>
      simp only [step, Option.bind_eq_some_iff, Option.map_eq_some_iff]
        at taken
      rcases taken with ⟨call, found, ⟨next, updated⟩, moved, rfl⟩
      exact .bridges name action call next updated found moved
  | cancelTask cancelled =>
      cases taken
      exact .cancels cancelled
  | reset name key =>
      simp only [step] at taken
      split at taken
      · cases taken
      · cases taken
        exact .lists name key
  | resetNext name =>
      simp only [step] at taken
      split at taken
      · rename_i cancelled rest listed
        cases taken
        exact .cancelsNext name cancelled rest listed
      · cases taken

/-- One step takes the phase of a Task to `abandoned` exactly when it cancels
the active Task. -/
theorem phase_step
    {action : Action}
    (sound : world.calls.All Bridge.Call.Sound)
    (holds : phase.Holds id world)
    (taken : step json action world = some target) :
    ∃ after : Phase,
      after.Holds id target ∧
        (after = .abandoned ↔
          phase = .abandoned ∨ CancelsActive id world action) := by
  have noCancel :
      action.cancels world = none →
        ∀ after : Phase, (after = .abandoned ↔ phase = .abandoned) →
          (after = .abandoned ↔
            phase = .abandoned ∨ CancelsActive id world action) := by
    intro cancelsNone after same
    simp [CancelsActive, cancelsNone, same]
  cases step_steps taken with
  | creates created conversation session unknown =>
      by_cases own : created = id
      · subst own
        cases phase with
        | absent =>
            refine ⟨.active, ⟨_, TaskRegistry.create_self _ _ _ _, rfl,
              ⟨rfl, by simp [TaskRegistry.freshBinding, SseSink.new]⟩,
              holds.2⟩, noCancel rfl _ (by simp)⟩
        | active | closing | closed | abandoned =>
            rcases holds with ⟨binding, found, _⟩
            rw [unknown] at found
            cases found
      · exact ⟨phase,
          holds.congr (TaskRegistry.create_other (Ne.symm own)) Iff.rfl,
          noCancel rfl _ Iff.rfl⟩
  | begins name started unused =>
      have sameClosing :
          Closing id { world with
            calls := world.calls.put name (Bridge.Call.begin started) } ↔
            Closing id world :=
        Pool.any_put_fresh unused
          (by simp [Bridge.Call.begin, Bridge.Call.isClosing])
      refine ⟨phase, ?_, noCancel rfl _ Iff.rfl⟩
      exact Phase.Holds.congr (by rfl) sameClosing holds
  | bridges name action call next updated found moved =>
      obtain ⟨after, holdsAfter, sameEnd⟩ :=
        phase_of_call found (Bridge.step_stepped (sound name call found) moved)
          holds
      exact ⟨after, holdsAfter, noCancel rfl _ sameEnd⟩
  | cancels cancelled =>
      obtain ⟨after, holdsAfter, abandons⟩ :=
        phase_of_cancel cancelled holds
      refine ⟨after, holdsAfter, ?_⟩
      rw [abandons]
      simp [CancelsActive, Action.cancels]
  | lists name key =>
      exact ⟨phase, holds.congr rfl Iff.rfl, noCancel rfl _ Iff.rfl⟩
  | cancelsNext name cancelled rest listed =>
      obtain ⟨after, holdsAfter, abandons⟩ :=
        phase_of_cancel cancelled holds
      refine ⟨after, holdsAfter.congr rfl Iff.rfl, ?_⟩
      rw [abandons]
      simp [CancelsActive, Action.cancels, listed]

theorem sound_step
    {action : Action}
    (sound : world.calls.All Bridge.Call.Sound)
    (taken : step json action world = some target) :
    target.calls.All Bridge.Call.Sound := by
  cases step_steps taken with
  | creates | lists => exact sound
  | begins name started unused =>
      apply Pool.all_put sound
      intro status carried
      cases carried
  | bridges name action call next updated found moved =>
      exact Pool.all_put sound
        (Bridge.step_sound (sound name call found) moved)
  | cancels cancelled =>
      rw [cancel_calls]
      exact sound
  | cancelsNext name cancelled rest listed =>
      simp only [cancel_calls]
      exact sound

open Machine

theorem phase_of_run
    {trace : List Action}
    (run : Run (step json) free World.start trace world) (id : TaskId) :
    world.calls.All Bridge.Call.Sound ∧
      ∃ phase : Phase,
        phase.Holds id world ∧
          (phase = .abandoned ↔
            SomeStep (step json) (CancelsActive id) World.start trace) := by
  induction run with
  | start =>
      refine ⟨Pool.all_empty, .absent, ⟨rfl, Pool.not_any_empty⟩, ?_⟩
      simp [not_someStep_nil]
  | snoc before _ taken inductionHypothesis =>
      rcases inductionHypothesis with ⟨sound, phase, holds, abandoned⟩
      obtain ⟨after, holdsAfter, step⟩ := phase_step sound holds taken
      refine ⟨sound_step sound taken, after, holdsAfter, ?_⟩
      rw [step, before.someStep_snoc, abandoned]

/-- A terminal Task without a running call has terminated its stream exactly
when no user's cancel reached the Task before it was terminal. -/
theorem streamTerminated_iff
    {trace : List Action} {binding : TaskBinding}
    (run : Run (step json) free World.start trace world)
    (found : world.registry.bindings id = some binding)
    (terminal : binding.state.isTerminal = true)
    (idle : NoCallRunning id world) :
    StreamTerminated binding ↔
      ¬ SomeStep (step json) (CancelsActive id) World.start trace := by
  obtain ⟨_, phase, holds, abandoned⟩ := phase_of_run run id
  have notClosing : ¬ Closing id world := by
    intro closingNow
    rcases closingNow with ⟨name, call, foundCall, own, closing⟩
    obtain ⟨result, atReturn⟩ := idle name call foundCall own
    simp [Bridge.Call.isClosing, atReturn] at closing
  rw [← abandoned]
  cases phase with
  | absent =>
      rw [holds.1] at found
      cases found
  | active =>
      rcases holds with ⟨known, foundKnown, active, _⟩
      rw [found] at foundKnown
      cases foundKnown
      rw [terminal] at active
      cases active
  | closing =>
      rcases holds with ⟨_, _, _, _, closing⟩
      exact absurd closing notClosing
  | closed =>
      rcases holds with ⟨known, foundKnown, _, terminated⟩
      rw [found] at foundKnown
      cases foundKnown
      simp [terminated]
  | abandoned =>
      rcases holds with ⟨known, foundKnown, _, opened, _⟩
      rw [found] at foundKnown
      cases foundKnown
      simp only [not_true_eq_false, iff_false]
      exact fun terminated => not_stillOpen_of_terminated terminated opened

/-- A turn to its end. -/
theorem finished_turn_terminates_stream :
    ∃ json trace world binding,
      exec (step json) trace World.start = some world ∧
        world.registry.bindings ⟨"t"⟩ = some binding ∧
          binding.state = .completed ∧ StreamTerminated binding := by
  let trace : List Action :=
    [.create ⟨"t"⟩ "c" "s", .runSession 0 ⟨"t"⟩, .bridge 0 .work,
      .bridge 0 (.poll (some (.ok (.terminal .endTurn)))), .bridge 0 .work,
      .bridge 0 .work, .bridge 0 .work, .bridge 0 .work, .bridge 0 .work,
      .bridge 0 .work]
  obtain ⟨world, executed⟩ : ∃ world,
      exec (step .constant) trace World.start = some world :=
    ⟨_, rfl⟩
  obtain ⟨binding, found⟩ : ∃ binding,
      world.registry.bindings ⟨"t"⟩ = some binding := by
    cases executed
    exact ⟨_, rfl⟩
  have completed : binding.state = .completed := by
    cases executed
    cases found
    rfl
  have idle : NoCallRunning ⟨"t"⟩ world := by
    cases executed
    intro name call foundCall _
    by_cases named : name = 0
    · subst named
      cases foundCall
      exact ⟨_, rfl⟩
    · simp [Pool.put, World.start, Pool.empty, named] at foundCall
  have noCancel :
      ¬ SomeStep (step .constant) (CancelsActive ⟨"t"⟩) World.start trace := by
    intro canceled
    rcases canceled with ⟨before, action, after, state, split, _, cancels, _⟩
    have member : action ∈ trace := by simp [split]
    simp only [trace, List.mem_cons, List.not_mem_nil, or_false] at member
    rcases member with
      rfl | rfl | rfl | rfl | rfl | rfl | rfl | rfl | rfl | rfl <;>
      cases cancels
  exact ⟨.constant, trace, world, binding, executed, found, completed,
    (streamTerminated_iff (run_of_exec executed) found
      (by rw [completed]; rfl) idle).mpr noCancel⟩

/-- A cancel before the first event: the call's own transition is refused, so
it returns without its final frame. -/
theorem canceled_task_can_keep_stream_open :
    ¬ ∀ json trace world id binding,
        Run (step json) free World.start trace world →
          world.registry.bindings id = some binding →
            binding.state.isTerminal = true → NoCallRunning id world →
              StreamTerminated binding := by
  intro claimed
  obtain ⟨world, executed⟩ : ∃ world,
      exec (step .constant)
          [.create ⟨"t"⟩ "c" "s", .runSession 0 ⟨"t"⟩, .bridge 0 .work,
            .cancelTask ⟨"t"⟩,
            .bridge 0 (.poll (some (.ok (.terminal .cancelled)))),
            .bridge 0 .work]
          World.start = some world :=
    ⟨_, rfl⟩
  obtain ⟨binding, found⟩ : ∃ binding,
      world.registry.bindings ⟨"t"⟩ = some binding := by
    cases executed
    exact ⟨_, rfl⟩
  have idle : NoCallRunning ⟨"t"⟩ world := by
    cases executed
    intro name call foundCall _
    by_cases named : name = 0
    · subst named
      cases foundCall
      exact ⟨_, rfl⟩
    · simp [Pool.put, World.start, Pool.empty, cancel_calls, named]
        at foundCall
  have terminated :=
    claimed .constant _ world ⟨"t"⟩ binding (run_of_exec executed) found
      (by cases executed; cases found; rfl) idle
  have closed := terminated.isOpen
  cases executed
  cases found
  cases closed

end TaskWriters

end A2AShim
