import A2AShim.Serve.BridgeEffects

/-!
# The body of a streaming turn

`handle_message_stream` spawns the bridge and then subscribes to the Task's
sink.  The two run at the same time.  A receiver gets only what is sent after
it has subscribed, and there is no subscribing to a closed sink: the handler
expects the sink to be open, and panics when it is not.
-/

namespace A2AShim

/-- What is left of the handler, and the body it hands out. -/
inductive StreamHandler where
  | spawned
  | panicked
  | streaming (receiver : Receiver) (delivered : List SseEvent)
  | ended (delivered : List SseEvent)
  deriving DecidableEq, Repr

structure StreamTurn where
  registry : TaskRegistry
  call : Bridge.Call
  handler : StreamHandler

namespace StreamTurn

/-- The bridge has just been spawned for a Task of `registry`. -/
def start (registry : TaskRegistry) (id : TaskId) : StreamTurn :=
  { registry, call := Bridge.Call.begin id, handler := .spawned }

inductive Action where
  | bridge (action : Bridge.Action)
  | subscribe
  | poll
  deriving DecidableEq, Repr

def subscribe (turn : StreamTurn) : Option StreamTurn :=
  match turn.handler, turn.registry.sink turn.call.taskId with
  | .spawned, some sink =>
      match sink.subscribe with
      | some receiver => some { turn with handler := .streaming receiver [] }
      | none => some { turn with handler := .panicked }
  | _, _ => none

/-- The body polls its receiver.  Keepalives and lag errors are skipped. -/
def poll (turn : StreamTurn) : Option StreamTurn :=
  match turn.handler, turn.registry.sink turn.call.taskId with
  | .streaming receiver delivered, some sink =>
      match sink.recv receiver with
      | (.frame (.event event), rest) =>
          some { turn with handler := .streaming rest (delivered ++ [event]) }
      | (.frame .keepalive, rest) | (.lagged _, rest) =>
          some { turn with handler := .streaming rest delivered }
      | (.closed, _) => some { turn with handler := .ended delivered }
      | (.pending, _) => none
  | _, _ => none

variable (json : SerdeJson)

def step : Action → StreamTurn → Option StreamTurn
  | .bridge action, turn =>
      (Bridge.step json action (turn.call, turn.registry)).map fun next =>
        { turn with call := next.1, registry := next.2 }
  | .subscribe, turn => turn.subscribe
  | .poll, turn => turn.poll

/-- The body never has more than the capacity to catch up on. -/
def KeepsUp (turn : StreamTurn) (_ : Action) : Prop :=
  ∀ receiver delivered sink,
    turn.handler = .streaming receiver delivered →
      turn.registry.sink turn.call.taskId = some sink →
        sink.sent.length ≤ receiver.next + sink.capacity

/-- The body has delivered, or has still to read, every frame of the sink
after the `earlier` ones, in their order. -/
def BodyComplete (earlier : List SseFrame) (turn : StreamTurn) : Prop :=
  ∃ sink, turn.registry.sink turn.call.taskId = some sink ∧
    match turn.handler with
    | .streaming receiver delivered =>
        earlier ++ delivered.map .event ++ sink.unread receiver = sink.sent
    | .ended delivered => earlier ++ delivered.map .event = sink.sent
    | .spawned | .panicked => False

/-- The handler subscribes when the bridge has published something. -/
def SubscribesLate (earlier : List SseFrame) (turn : StreamTurn)
    (action : Action) : Prop :=
  action = .subscribe ∧
    ∃ sink, turn.registry.sink turn.call.taskId = some sink ∧
      sink.sent ≠ earlier

/-! ## Accounting for every frame -/

/-- `missed` events went out before the handler subscribed. -/
def Follows (earlier : List SseFrame) (missed : List SseEvent)
    (sink : SseSink) : StreamHandler → Prop
  | .spawned => missed = []
  | .panicked => missed ≠ []
  | .streaming receiver delivered =>
      earlier ++ (missed ++ delivered).map .event ++ sink.unread receiver =
          sink.sent ∧
        receiver.next ≤ sink.sent.length
  | .ended delivered =>
      earlier ++ (missed ++ delivered).map .event = sink.sent ∧
        sink.isOpen = false

/-- The sink of the turn's Task: everything after the `earlier` frames is an
event the bridge has published, and it is not closed before there is one. -/
structure Accounted (earlier : List SseFrame) (missed : List SseEvent)
    (turn : StreamTurn) : Prop where
  sound : turn.call.Sound
  published : ∃ binding events,
    turn.registry.bindings turn.call.taskId = some binding ∧
      binding.sink.sent = earlier ++ events.map .event ∧
        (binding.sink.isOpen = false → events ≠ []) ∧
          Follows earlier missed binding.sink turn.handler

variable {json} {earlier : List SseFrame} {missed : List SseEvent}
variable {turn target : StreamTurn}

/-- A bridge step appends events, or leaves the sink alone. -/
theorem effect_sink
    {call next : Bridge.Call} {before after : TaskBinding}
    (effect : Bridge.Effect call before next after) :
    ∃ added : List SseEvent,
      after.sink.sent = before.sink.sent ++ added.map .event ∧
        (after.sink.isOpen = false → before.sink.isOpen = false ∨ added ≠ []) ∧
          (before.sink.isOpen = false → after.sink = before.sink) := by
  have publishes :
      ∀ event, ∃ added : List SseEvent,
        (before.sink.publishEvent event).sent =
            before.sink.sent ++ added.map .event ∧
          (before.sink.isOpen = false ∨ added ≠ []) ∧
            (before.sink.isOpen = false →
              before.sink.publishEvent event = before.sink) := by
    intro event
    by_cases opened : before.sink.isOpen = true
    · refine ⟨[event], SseSink.publish_sent_of_open _ opened, .inr (by simp),
        ?_⟩
      intro closed
      rw [opened] at closed
      cases closed
    · have closed : before.sink.isOpen = false := by simpa using opened
      have same := SseSink.publish_of_closed (.event event) closed
      exact ⟨[], by rw [SseSink.publishEvent, same]; simp, .inl closed,
        fun _ => same⟩
  cases effect with
  | keeps _ sameSink _ | begins _ _ sameSink _ | decides _ _ sameSink _ =>
      exact ⟨[], by simp [sameSink], by simp [sameSink], fun _ => sameSink⟩
  | shows event _ _ published _ =>
      obtain ⟨added, sent, counted, same⟩ := publishes event
      rw [published]
      exact ⟨added, sent, fun _ => counted, same⟩
  | closes event _ _ _ published =>
      obtain ⟨added, sent, counted, same⟩ := publishes event
      rw [published]
      refine ⟨added, sent, fun _ => counted, ?_⟩
      intro closed
      rw [SseSink.publishFinal, ← SseSink.publishEvent, same closed, ← closed]

theorem Follows.append
    {sink longer : SseSink} {added : List SseEvent} {handler : StreamHandler}
    (follows : Follows earlier missed sink handler)
    (sent : longer.sent = sink.sent ++ added.map .event)
    (frozen : sink.isOpen = false → longer = sink) :
    Follows earlier missed longer handler := by
  cases handler with
  | spawned | panicked => exact follows
  | streaming receiver delivered =>
      rcases follows with ⟨whole, within⟩
      have unread :
          longer.unread receiver =
            sink.unread receiver ++ added.map .event := by
        rw [SseSink.unread, sent, List.drop_append_of_le_length within]
        rfl
      refine ⟨?_, ?_⟩
      · rw [unread, sent, ← whole]
        simp
      · rw [sent, List.length_append]
        omega
  | ended delivered =>
      rcases follows with ⟨whole, closed⟩
      rw [frozen closed]
      exact ⟨whole, closed⟩

theorem Accounted.bridge
    {action : Bridge.Action}
    (accounted : Accounted earlier missed turn)
    (taken : step json (.bridge action) turn = some target) :
    Accounted earlier missed target := by
  rcases accounted with ⟨sound, binding, events, found, sent, opened, follows⟩
  simp only [step, Option.map_eq_some_iff] at taken
  rcases taken with ⟨⟨next, updated⟩, moved, rfl⟩
  have stepped := Bridge.step_stepped sound moved
  obtain ⟨after, foundAfter, effect⟩ := stepped.known binding found
  obtain ⟨added, sentAfter, openedAfter, frozen⟩ := effect_sink effect
  refine ⟨Bridge.step_sound sound moved, after, events ++ added, ?_, ?_, ?_,
    follows.append sentAfter frozen⟩
  · simp only [stepped.taskId]
    exact foundAfter
  · rw [sentAfter, sent]
    simp
  · intro closed
    rcases openedAfter closed with closedBefore | more
    · simp [opened closedBefore]
    · simp [more]

/-- Subscribing decides which events are missed: those already published. -/
theorem Accounted.subscribe
    (accounted : Accounted earlier [] turn)
    (taken : step json .subscribe turn = some target) :
    ∃ missed, Accounted earlier missed target ∧
      (missed = [] ↔ ¬ SubscribesLate earlier turn .subscribe) := by
  rcases accounted with ⟨sound, binding, events, found, sent, opened, follows⟩
  have sink : turn.registry.sink turn.call.taskId = some binding.sink := by
    simp [TaskRegistry.sink, found]
  have late :
      events = [] ↔ ¬ SubscribesLate earlier turn .subscribe := by
    simp [SubscribesLate, sink, sent]
  refine ⟨events, ?_, late⟩
  simp only [step, StreamTurn.subscribe, sink] at taken
  split at taken
  · rename_i held atSpawned sameSink
    cases sameSink
    by_cases isOpen : binding.sink.isOpen = true
    · simp only [SseSink.subscribe, isOpen, if_true, Option.some.injEq]
        at taken
      subst taken
      refine ⟨sound, binding, events, found, sent, opened, ?_, Nat.le_refl _⟩
      simp [SseSink.unread, sent]
    · have closed : binding.sink.isOpen = false := by simpa using isOpen
      simp only [SseSink.subscribe, closed, Option.some.injEq, if_false,
        Bool.false_eq_true] at taken
      subst taken
      exact ⟨sound, binding, events, found, sent, opened, opened closed⟩
  · cases taken

/-- A body that keeps up takes the frames one by one. -/
theorem Accounted.poll
    (accounted : Accounted earlier missed turn)
    (keepsUp : KeepsUp turn .poll)
    (taken : step json .poll turn = some target) :
    Accounted earlier missed target := by
  rcases accounted with ⟨sound, binding, events, found, sent, opened, follows⟩
  have sink : turn.registry.sink turn.call.taskId = some binding.sink := by
    simp [TaskRegistry.sink, found]
  simp only [step, StreamTurn.poll, sink] at taken
  split at taken
  · rename_i receiver delivered held atStreaming sameSink
    cases sameSink
    rw [atStreaming] at follows
    rcases follows with ⟨whole, within⟩
    have bounded := keepsUp receiver delivered binding.sink atStreaming sink
    cases unread : binding.sink.unread receiver with
    | nil =>
        rw [SseSink.recv_of_unread_nil unread bounded] at taken
        by_cases isOpen : binding.sink.isOpen = true
        · simp [isOpen] at taken
        · have closed : binding.sink.isOpen = false := by simpa using isOpen
          simp only [closed, Bool.false_eq_true, if_false,
            Option.some.injEq] at taken
          subst taken
          refine ⟨sound, binding, events, found, sent, opened, ?_, closed⟩
          rw [unread, List.append_nil] at whole
          exact whole
    | cons frame rest =>
        obtain ⟨received, remaining⟩ :=
          SseSink.recv_of_unread_cons unread bounded
        have later : receiver.next + 1 ≤ binding.sink.sent.length := by
          have lengths := congrArg List.length unread
          simp only [SseSink.unread, List.length_drop, List.length_cons]
            at lengths
          omega
        have isEvent : ∃ event, frame = .event event := by
          have member : frame ∈ events.map SseFrame.event := by
            have split := whole
            rw [sent, List.append_assoc, List.append_cancel_left_eq,
              unread] at split
            rw [← split]
            simp
          obtain ⟨event, _, same⟩ := List.mem_map.mp member
          exact ⟨event, same.symm⟩
        rcases isEvent with ⟨event, rfl⟩
        rw [received] at taken
        cases taken
        refine ⟨sound, binding, events, found, sent, opened, ?_, later⟩
        rw [remaining]
        rw [unread] at whole
        simpa using whole
  · cases taken

open Machine

variable {registry : TaskRegistry} {id : TaskId} {binding : TaskBinding}

theorem accounted_of_run
    {trace : List Action}
    (found : registry.bindings id = some binding)
    (opened : binding.sink.isOpen = true)
    (run : Run (step json) KeepsUp (start registry id) trace turn) :
    ∃ missed, Accounted binding.sink.sent missed turn ∧
      (missed = [] ↔
        ¬ SomeStep (step json) (SubscribesLate binding.sink.sent)
          (start registry id) trace) := by
  induction run with
  | start =>
      refine ⟨[], ⟨?_, binding, [], found, by simp, by simp [opened], rfl⟩,
        by simp [not_someStep_nil]⟩
      intro status carried
      cases carried
  | @snoc trace source target action before keepsUp taken inductionHypothesis =>
      rcases inductionHypothesis with ⟨missed, accounted, inTime⟩
      rw [before.someStep_snoc, not_or, ← inTime]
      cases action with
      | bridge action =>
          exact ⟨missed, accounted.bridge taken, by simp [SubscribesLate]⟩
      | poll =>
          exact ⟨missed, accounted.poll keepsUp taken,
            by simp [SubscribesLate]⟩
      | subscribe =>
          have none : missed = [] := by
            rcases accounted with ⟨_, _, _, _, _, _, follows⟩
            cases atHandler : source.handler with
            | spawned =>
                rw [atHandler] at follows
                exact follows
            | panicked | streaming _ _ | ended _ =>
                simp [step, StreamTurn.subscribe, atHandler] at taken
          subst none
          obtain ⟨missed, after, late⟩ := accounted.subscribe taken
          exact ⟨missed, after, by simpa using late⟩

/-- Once the handler has subscribed, it has not panicked and its body carries
every frame, exactly when the bridge had published nothing before. -/
theorem bodyComplete_iff
    {trace : List Action}
    (found : registry.bindings id = some binding)
    (opened : binding.sink.isOpen = true)
    (run : Run (step json) KeepsUp (start registry id) trace turn)
    (subscribed : turn.handler ≠ .spawned) :
    BodyComplete binding.sink.sent turn ↔
      ¬ SomeStep (step json) (SubscribesLate binding.sink.sent)
        (start registry id) trace := by
  obtain ⟨missed, accounted, inTime⟩ := accounted_of_run found opened run
  rcases accounted with ⟨_, current, events, foundNow, _, _, follows⟩
  have sink : turn.registry.sink turn.call.taskId = some current.sink := by
    simp [TaskRegistry.sink, foundNow]
  rw [← inTime, BodyComplete, sink]
  simp only [Option.some.injEq, exists_eq_left']
  cases atHandler : turn.handler with
  | spawned => exact absurd atHandler subscribed
  | panicked =>
      rw [atHandler] at follows
      exact iff_of_false (fun impossible => impossible) follows
  | streaming receiver delivered =>
      rw [atHandler] at follows
      rcases follows with ⟨whole, _⟩
      simp only [← whole]
      simp
  | ended delivered =>
      rw [atHandler] at follows
      rcases follows with ⟨whole, _⟩
      simp only [← whole]
      simp

/-- A test for `KeepsUp`. -/
def catchesUp (turn : StreamTurn) (_ : Action) : Bool :=
  match turn.handler, turn.registry.sink turn.call.taskId with
  | .streaming receiver _, some sink =>
      decide (sink.sent.length ≤ receiver.next + sink.capacity)
  | _, _ => true

theorem keepsUp_of_catchesUp
    (turn : StreamTurn) (action : Action)
    (catches : catchesUp turn action = true) :
    KeepsUp turn action := by
  intro receiver delivered sink atStreaming sameSink
  simpa [catchesUp, atStreaming, sameSink] using catches

/-- A handler that subscribes first, and reads the Working frame. -/
theorem early_subscriber_gets_every_frame :
    ∃ json trace turn,
      exec (step json) trace
          (start (TaskRegistry.empty.create ⟨"t"⟩ "c" "s") ⟨"t"⟩) =
        some turn ∧
        turn.handler =
          .streaming { next := 1 } [Bridge.workingEvent ⟨"t"⟩] ∧
          BodyComplete [] turn := by
  let trace : List Action :=
    [.subscribe, .bridge .work,
      .bridge (.poll (some (.ok (.terminal .endTurn)))), .bridge .work,
      .bridge .work, .bridge .work, .poll]
  obtain ⟨turn, executed⟩ : ∃ turn,
      execTested (step .constant) catchesUp trace
          (start (TaskRegistry.empty.create ⟨"t"⟩ "c" "s") ⟨"t"⟩) =
        some turn :=
    ⟨_, rfl⟩
  have run := run_of_execTested keepsUp_of_catchesUp executed
  have reading :
      turn.handler =
        .streaming { next := 1 } [Bridge.workingEvent ⟨"t"⟩] := by
    cases executed
    rfl
  have inTime :
      ¬ SomeStep (step .constant) (SubscribesLate [])
        (start (TaskRegistry.empty.create ⟨"t"⟩ "c" "s") ⟨"t"⟩) trace := by
    intro missed
    rcases missed with
      ⟨before, action, after, state, split, reached, rfl, sink, found, published⟩
    cases before with
    | nil =>
        cases reached
        cases found
        exact published rfl
    | cons head rest =>
        have later : Action.subscribe ∈ rest ++ .subscribe :: after := by
          simp
        simp only [trace, List.cons_append, List.cons.injEq] at split
        rw [← split.2] at later
        simp at later
  exact ⟨.constant, trace, turn, run.exec_eq, reading,
    (bodyComplete_iff (TaskRegistry.create_self _ _ _ _) rfl run
      (by rw [reading]; exact nofun)).mpr inTime⟩

/-- The bridge fails the turn before the handler gets to subscribe. -/
theorem handler_can_panic :
    ¬ ∀ json registry id binding trace turn,
        registry.bindings id = some binding → binding.sink.isOpen = true →
          Run (step json) KeepsUp (start registry id) trace turn →
            turn.handler ≠ .spawned → BodyComplete binding.sink.sent turn := by
  intro claimed
  let trace : List Action :=
    [.bridge .work, .bridge (.poll (some (.error .driverGone))),
      .bridge .work, .bridge .work, .bridge .work, .bridge .work,
      .bridge .work, .bridge .work, .subscribe]
  obtain ⟨turn, executed⟩ : ∃ turn,
      execTested (step .constant) catchesUp trace
          (start (TaskRegistry.empty.create ⟨"t"⟩ "c" "s") ⟨"t"⟩) =
        some turn :=
    ⟨_, rfl⟩
  have run := run_of_execTested keepsUp_of_catchesUp executed
  have panicked : turn.handler = .panicked := by
    cases executed
    rfl
  obtain ⟨_, _, complete⟩ :=
    claimed .constant _ _ _ _ turn (TaskRegistry.create_self _ _ _ _) rfl run
      (by rw [panicked]; exact nofun)
  rw [panicked] at complete
  exact complete

end StreamTurn

end A2AShim
