import Mathlib.Data.List.Infix
import A2AShim.Lib.Machine
import A2AShim.Serve.TaskRegistry

/-!
# The body of one subscriber

`handle_message_stream` and `handle_subscribe_to_task` hand out the same body:
the frames of a fresh receiver through one `filter_map`.  The sink is published
on by others meanwhile, in any way, and the body is read at any times.

An event is known here by its position among the frames of the sink, so that
two equal events are told apart.
-/

namespace A2AShim

/-- An event and its position among the sent frames. -/
abbrev Placed := Nat × SseEvent

namespace SseSink

def placedEvent : SseFrame × Nat → Option Placed
  | (.event event, position) => some (position, event)
  | (.keepalive, _) => none

/-- The events among the frames from position `start` on. -/
def eventsFrom (sink : SseSink) (start : Nat) : List Placed :=
  (sink.sent.zipIdx.drop start).filterMap placedEvent

end SseSink

/-- `since` is the number of frames sent before the subscription. -/
structure SseBody where
  sink : SseSink
  since : Nat
  receiver : Receiver
  written : List Placed
  ended : Bool
  deriving DecidableEq, Repr

namespace SseBody

/-- On a closed sink the handler of `SubscribeToTask` answers with an empty
body; the other handler panics. -/
def subscribe (sink : SseSink) : SseBody :=
  { sink
    since := sink.sent.length
    receiver := (sink.subscribe).getD { next := sink.sent.length }
    written := []
    ended := sink.subscribe.isNone }

inductive Action where
  | publishEvent (event : SseEvent)
  | publishFinal (event : SseEvent)
  | keepalive
  | poll
  deriving DecidableEq, Repr

/-- The `filter_map`: it skips keepalives, and errors too. -/
def poll (body : SseBody) : Option SseBody :=
  if body.ended then
    none
  else
    match body.sink.recv body.receiver with
    | (.frame (.event event), receiver) =>
        some { body with
          receiver
          written := body.written ++ [(body.receiver.next, event)] }
    | (.frame .keepalive, receiver) => some { body with receiver }
    | (.lagged _, receiver) => some { body with receiver }
    | (.closed, _) => some { body with ended := true }
    | (.pending, _) => none

def step : Action → SseBody → Option SseBody
  | .publishEvent event, body =>
      some { body with sink := body.sink.publishEvent event }
  | .publishFinal event, body =>
      some { body with sink := body.sink.publishFinal event }
  | .keepalive, body =>
      some { body with sink := body.sink.publish .keepalive }
  | .poll, body => body.poll

/-- The body is read when frames it has not read have left the channel. -/
def ReadsLate (body : SseBody) (action : Action) : Prop :=
  action = .poll ∧ body.ended = false ∧
    body.receiver.next + body.sink.capacity < body.sink.sent.length

/-- What has been written is the beginning of what was published. -/
def Contiguous (body : SseBody) : Prop :=
  body.written <+: body.sink.eventsFrom body.since

/-- In every state the run goes through the body is contiguous, and it ends
when it finds that it has fallen behind. -/
def GapFree (sink : SseSink) (trace : List Action) : Prop :=
  (∀ before rest body,
    trace = before ++ rest →
      Machine.exec step before (subscribe sink) = some body →
        Contiguous body) ∧
    ∀ before action rest body next,
      trace = before ++ action :: rest →
        Machine.exec step before (subscribe sink) = some body →
          step action body = some next → ReadsLate body action →
            next.ended = true

/-! ## Positions of events -/

theorem eventsFrom_publish
    {sink : SseSink} {start : Nat} (frame : SseFrame)
    (within : start ≤ sink.sent.length) :
    (sink.publish frame).eventsFrom start =
      sink.eventsFrom start ++
        if sink.isOpen then
          (SseSink.placedEvent (frame, sink.sent.length)).toList
        else
          [] := by
  cases opened : sink.isOpen with
  | true =>
      have inFront : start ≤ sink.sent.zipIdx.length := by
        simpa using within
      simp only [SseSink.eventsFrom, SseSink.publish_sent_of_open _ opened,
        List.zipIdx_append, List.zipIdx_cons, List.zipIdx_nil, Nat.zero_add,
        if_true]
      rw [List.drop_append_of_le_length inFront, List.filterMap_append]
      congr 1
  | false =>
      rw [SseSink.publish_of_closed frame opened]
      simp

theorem eventsFrom_next
    {sink : SseSink} {start : Nat} {frame : SseFrame}
    (found : sink.sent[start]? = some frame) :
    sink.eventsFrom start =
      (SseSink.placedEvent (frame, start)).toList ++
        sink.eventsFrom (start + 1) := by
  have placed : sink.sent.zipIdx[start]? = some (frame, start) := by
    simp [List.getElem?_zipIdx, found]
  obtain ⟨inRange, isFrame⟩ := List.getElem?_eq_some_iff.mp placed
  have split :
      sink.sent.zipIdx.drop start =
        (frame, start) :: sink.sent.zipIdx.drop (start + 1) := by
    rw [List.drop_eq_getElem_cons inRange, isFrame]
  simp only [SseSink.eventsFrom, split, List.filterMap_cons]
  cases SseSink.placedEvent (frame, start) <;> rfl

theorem eventsFrom_end
    {sink : SseSink} {start : Nat} (beyond : sink.sent.length ≤ start) :
    sink.eventsFrom start = [] := by
  have nothing : sink.sent.zipIdx.drop start = [] := by
    apply List.drop_eq_nil_iff.mpr
    simpa using beyond
  simp [SseSink.eventsFrom, nothing]

/-! ## A body that keeps up -/

/-- What was written and what is still to be read are what was published. -/
structure Follows (body : SseBody) : Prop where
  inRange : body.receiver.next ≤ body.sink.sent.length
  afterSince : body.since ≤ body.receiver.next
  reading : body.ended = false →
    body.written ++ body.sink.eventsFrom body.receiver.next =
      body.sink.eventsFrom body.since
  finished : body.ended = true →
    body.sink.isOpen = false ∧
      body.written = body.sink.eventsFrom body.since

variable {body next : SseBody}

theorem Follows.contiguous (follows : Follows body) : Contiguous body := by
  cases ended : body.ended with
  | false => exact ⟨_, follows.reading ended⟩
  | true =>
      rw [Contiguous, (follows.finished ended).2]

theorem follows_subscribe (sink : SseSink) : Follows (subscribe sink) := by
  cases opened : sink.isOpen with
  | true =>
      refine
        { inRange := ?_
          afterSince := ?_
          reading := fun _ => ?_
          finished := ?_ }
      · simp [subscribe, SseSink.subscribe, opened]
      · simp [subscribe, SseSink.subscribe, opened]
      · simp [subscribe, SseSink.subscribe, opened]
      · simp [subscribe, SseSink.subscribe, opened]
  | false =>
      refine
        { inRange := ?_
          afterSince := ?_
          reading := ?_
          finished := fun _ => ⟨opened, ?_⟩ }
      · simp [subscribe, SseSink.subscribe, opened]
      · simp [subscribe, SseSink.subscribe, opened]
      · simp [subscribe, SseSink.subscribe, opened]
      · exact (eventsFrom_end (Nat.le_refl _)).symm

/-- Publishing adds to the end, unless the sink is closed. -/
theorem Follows.of_publish
    {sink : SseSink} (follows : Follows body) (frame : SseFrame)
    (sent : sink.sent = (body.sink.publish frame).sent)
    (staysClosed : body.sink.isOpen = false → sink.isOpen = false) :
    Follows { body with sink } := by
  have sameEvents :
      ∀ start,
        sink.eventsFrom start = (body.sink.publish frame).eventsFrom start := by
    intro start
    simp only [SseSink.eventsFrom, sent]
  have longer : body.sink.sent.length ≤ sink.sent.length := by
    rw [sent]
    unfold SseSink.publish
    split
    · simp
    · exact Nat.le_refl _
  refine
    { inRange := Nat.le_trans follows.inRange longer
      afterSince := follows.afterSince
      reading := ?_
      finished := ?_ }
  · intro reading
    have sinceInRange : body.since ≤ body.sink.sent.length :=
      Nat.le_trans follows.afterSince follows.inRange
    rw [sameEvents, sameEvents, eventsFrom_publish frame follows.inRange,
      eventsFrom_publish frame sinceInRange, ← List.append_assoc,
      follows.reading reading]
  · intro ended
    obtain ⟨closed, allWritten⟩ := follows.finished ended
    refine ⟨staysClosed closed, ?_⟩
    rw [sameEvents, SseSink.publish_of_closed frame closed]
    exact allWritten

theorem Follows.of_poll
    (follows : Follows body) (reading : body.ended = false)
    (inTime : body.sink.sent.length ≤
      body.receiver.next + body.sink.capacity)
    (taken : body.poll = some next) :
    Follows next := by
  have whole := follows.reading reading
  cases found : body.sink.sent[body.receiver.next]? with
  | some frame =>
      have received :
          body.sink.recv body.receiver =
            (.frame frame, { next := body.receiver.next + 1 }) := by
        unfold SseSink.recv
        rw [if_neg (by omega), found]
      have stillInRange : body.receiver.next + 1 ≤ body.sink.sent.length :=
        (List.getElem?_eq_some_iff.mp found).1
      have remaining := eventsFrom_next found
      cases frame with
      | keepalive =>
          simp only [poll, reading, received, Bool.false_eq_true, if_false,
            Option.some.injEq] at taken
          subst taken
          refine
            { inRange := stillInRange
              afterSince := Nat.le_succ_of_le follows.afterSince
              reading := fun _ => ?_
              finished := fun ended => by simp at ended }
          rw [remaining] at whole
          exact whole
      | event event =>
          simp only [poll, reading, received, Bool.false_eq_true, if_false,
            Option.some.injEq] at taken
          subst taken
          refine
            { inRange := stillInRange
              afterSince := Nat.le_succ_of_le follows.afterSince
              reading := fun _ => ?_
              finished := fun ended => by simp at ended }
          rw [remaining] at whole
          simpa [SseSink.placedEvent] using whole
  | none =>
      have received :
          body.sink.recv body.receiver =
            (if body.sink.isOpen then .pending else .closed,
              body.receiver) := by
        unfold SseSink.recv
        rw [if_neg (by omega), found]
      have allRead := List.getElem?_eq_none_iff.mp found
      cases opened : body.sink.isOpen with
      | true => simp [poll, reading, received, opened] at taken
      | false =>
          simp only [poll, reading, received, opened, Bool.false_eq_true,
            if_false, Option.some.injEq] at taken
          subst taken
          refine
            { inRange := follows.inRange
              afterSince := follows.afterSince
              reading := fun ended => by cases ended
              finished := fun _ => ⟨opened, ?_⟩ }
          rw [eventsFrom_end allRead, List.append_nil] at whole
          exact whole

theorem Follows.of_step
    {action : Action}
    (follows : Follows body) (inTime : ¬ ReadsLate body action)
    (taken : step action body = some next) :
    Follows next := by
  cases action with
  | publishEvent event =>
      cases taken
      apply follows.of_publish (.event event) rfl
      intro closed
      exact (SseSink.publish_isOpen _ _).trans closed
  | publishFinal event =>
      cases taken
      exact follows.of_publish (.event event) rfl fun _ => rfl
  | keepalive =>
      cases taken
      apply follows.of_publish .keepalive rfl
      intro closed
      exact (SseSink.publish_isOpen _ _).trans closed
  | poll =>
      cases ended : body.ended with
      | true => simp [step, poll, ended] at taken
      | false =>
          have notBehind :
              body.sink.sent.length ≤
                body.receiver.next + body.sink.capacity := by
            by_contra behind
            exact inTime ⟨rfl, ended, by omega⟩
          exact follows.of_poll ended notBehind taken

/-- A body that has fallen behind goes on where the channel starts now. -/
theorem poll_of_late
    {action : Action}
    (late : ReadsLate body action)
    (taken : step action body = some next) :
    next.ended = false := by
  obtain ⟨rfl, reading, behind⟩ := late
  have received :
      body.sink.recv body.receiver =
        (.lagged
            (body.sink.sent.length - body.sink.capacity - body.receiver.next),
          { next := body.sink.sent.length - body.sink.capacity }) := by
    unfold SseSink.recv
    rw [if_pos behind]
  simp only [step, poll, reading, received, Bool.false_eq_true, if_false,
    Option.some.injEq] at taken
  subst taken
  rfl

theorem follows_of_run
    {sink : SseSink} {trace : List Action}
    (run : Machine.Run step Machine.free (subscribe sink) trace body)
    (inTime :
      ¬ Machine.SomeStep step ReadsLate (subscribe sink) trace) :
    Follows body := by
  refine (run.avoids inTime).invariant Follows (follows_subscribe sink) ?_
  intro source action target follows notLate taken
  exact follows.of_step notLate taken

/-- A run leaves no gap in the body exactly when every read comes before
unread frames have left the channel. -/
theorem gapFree_iff
    {sink : SseSink} {trace : List Action}
    (run : Machine.Run step Machine.free (subscribe sink) trace body) :
    GapFree sink trace ↔
      ¬ Machine.SomeStep step ReadsLate (subscribe sink) trace := by
  constructor
  · intro gapFree happens
    rcases happens with ⟨before, action, rest, reached, split, executed, late⟩
    have whole := run.exec_eq
    rw [split] at whole
    obtain ⟨next, taken, _⟩ := Machine.exec_next whole executed
    have ends := gapFree.2 before action rest reached next split executed
      taken late
    rw [poll_of_late late taken] at ends
    cases ends
  · intro inTime
    refine ⟨?_, ?_⟩
    · intro before rest reached split executed
      have early :
          ¬ Machine.SomeStep step ReadsLate (subscribe sink) before := by
        intro happens
        have unmoved :
            Machine.exec step [] (subscribe sink) = some (subscribe sink) :=
          rfl
        have happensLater := happens.within unmoved rest
        rw [List.nil_append, ← split] at happensLater
        exact inTime happensLater
      exact (follows_of_run (Machine.run_of_exec executed) early).contiguous
    · intro before action rest reached next split executed taken late
      exact absurd ⟨before, action, rest, reached, split, executed, late⟩ inTime

/-! ## One body in time, one too late -/

def chunk : SseEvent :=
  .artifact ⟨"t"⟩
    { artifactId := some "a-answer", name := some "answer"
      parts := [.text "word "], metadata := none }
    true

def readsInTime (body : SseBody) : Action → Bool
  | .poll =>
      body.ended ||
        decide (body.sink.sent.length ≤
          body.receiver.next + body.sink.capacity)
  | _ => true

theorem not_readsLate
    {action : Action} (inTime : readsInTime body action = true) :
    ¬ ReadsLate body action := by
  intro late
  obtain ⟨rfl, reading, behind⟩ := late
  simp only [readsInTime, reading, Bool.false_or, decide_eq_true_eq] at inTime
  omega

/-- Two events, read to the end of the body. -/
theorem short_body_gapFree :
    ∃ trace body,
      Machine.exec step trace (subscribe (SseSink.new 1)) = some body ∧
        body.written = [(0, chunk), (2, chunk)] ∧ body.ended = true ∧
          GapFree (SseSink.new 1) trace := by
  let trace : List Action :=
    [.publishEvent chunk, .poll, .keepalive, .poll, .publishFinal chunk,
      .poll, .poll]
  obtain ⟨body, executed⟩ : ∃ body,
      Machine.execTested step readsInTime trace (subscribe (SseSink.new 1)) =
        some body :=
    ⟨_, rfl⟩
  have run :
      Machine.Run step (fun reached action => ¬ ReadsLate reached action)
        (subscribe (SseSink.new 1)) trace body :=
    Machine.run_of_execTested (fun _ _ => not_readsLate) executed
  refine ⟨trace, body, run.exec_eq, ?_, ?_, ?_⟩
  · cases executed
    rfl
  · cases executed
    rfl
  · exact (gapFree_iff run.toFree).mpr run.not_someStep

theorem exec_publishes
    (event : SseEvent) (count : Nat) (body : SseBody)
    (opened : body.sink.isOpen = true) :
    Machine.exec step (List.replicate count (.publishEvent event)) body =
      some { body with
        sink :=
          { body.sink with
            sent :=
              body.sink.sent ++ List.replicate count (.event event) } } := by
  induction count generalizing body with
  | zero => simp [Machine.exec]
  | succ count inductionHypothesis =>
      simp only [List.replicate_succ, Machine.exec, step, Option.bind_some]
      rw [inductionHypothesis _ (by simpa [SseSink.publishEvent] using opened)]
      simp [SseSink.publishEvent, SseSink.publish, opened]

/-- A reader that is one event too late writes the second event first. -/
theorem exec_lagging
    (event : SseEvent) {capacity : Nat} (positive : 0 < capacity) :
    ∃ body,
      Machine.exec step
          (List.replicate (capacity + 1) (.publishEvent event) ++
            [.poll, .poll])
          (subscribe (SseSink.new capacity)) = some body ∧
        body.written = [(1, event)] ∧ body.since = 0 ∧
          body.sink.sent = List.replicate (capacity + 1) (.event event) := by
  have second :
      (List.replicate (capacity + 1) (SseFrame.event event))[1]? =
        some (.event event) := by
    simp [positive]
  have notBehind : ¬ 1 + capacity < capacity + 1 := by omega
  rw [Machine.exec_append, exec_publishes event (capacity + 1) _ rfl]
  simp [Machine.exec, step, poll, subscribe, SseSink.subscribe, SseSink.new,
    SseSink.recv, second, notBehind]

/-- After 257 events the first is lost, and the second is written. -/
theorem lagging_body_skips :
    ∃ body,
      Machine.exec step
          (List.replicate (TaskRegistry.sseCapacity + 1)
            (.publishEvent chunk) ++ [.poll, .poll])
          (subscribe (SseSink.new TaskRegistry.sseCapacity)) = some body ∧
        body.written = [(1, chunk)] ∧
          ¬ GapFree (SseSink.new TaskRegistry.sseCapacity)
            (List.replicate (TaskRegistry.sseCapacity + 1)
              (.publishEvent chunk) ++ [.poll, .poll]) := by
  obtain ⟨body, executed, written, since, sent⟩ :=
    exec_lagging chunk
      (show 0 < TaskRegistry.sseCapacity by simp [TaskRegistry.sseCapacity])
  refine ⟨body, executed, written, ?_⟩
  intro gapFree
  have contiguous :=
    gapFree.1 _ [] body (List.append_nil _).symm executed
  have first :
      body.sink.eventsFrom 0 = (0, chunk) :: body.sink.eventsFrom 1 := by
    have found : body.sink.sent[0]? = some (.event chunk) := by
      rw [sent, List.getElem?_replicate]
      simp
    simpa [SseSink.placedEvent] using eventsFrom_next found
  rw [Contiguous, written, since, first] at contiguous
  simp at contiguous

end SseBody

end A2AShim
