import A2AShim.Serve.FinalFrames
import A2AShim.Wire.SseFraming

/-!
# Published events on the wire

Every event the bridge puts on a sink, in any run with any other callers, is
one that survives its encoding.  So does everything that was decoded once.
-/

namespace A2AShim

/-- Every event on the sink survives its encoding. -/
def SseSink.Legible (sink : SseSink) : Prop :=
  ∀ event, .event event ∈ sink.sent → event.Valid

theorem SseSink.Legible.publish
    {sink : SseSink} {frame : SseFrame} (legible : sink.Legible)
    (valid : ∀ event, frame = .event event → event.Valid) :
    (sink.publish frame).Legible := by
  intro event member
  unfold SseSink.publish at member
  split at member
  · rcases List.mem_append.mp member with earlier | last
    · exact legible event earlier
    · exact valid event (List.mem_singleton.mp last).symm
  · exact legible event member

theorem SseSink.Legible.publishEvent
    {sink : SseSink} {event : SseEvent} (legible : sink.Legible)
    (valid : event.Valid) :
    (sink.publishEvent event).Legible := by
  refine legible.publish ?_
  intro other same
  cases same
  exact valid

namespace Bridge

/-- A message the bridge makes has no metadata. -/
theorem valid_of_plain
    {status : TaskStatus}
    (plain : ∀ message, status.message = some message →
      message.metadata = none) :
    status.Valid := by
  intro message isMessage metadata isMetadata
  rw [plain message isMessage] at isMetadata
  cases isMetadata

theorem failedStatus_valid (reason : String) : (failedStatus reason).Valid := by
  refine valid_of_plain ?_
  intro message isMessage
  cases isMessage
  rfl

theorem statusForStop_valid (stop : StopReason) :
    (statusForStop stop).Valid := by
  refine valid_of_plain ?_
  intro message isMessage
  cases stop <;> cases isMessage <;> rfl

theorem workingEvent_valid (id : TaskId) : (workingEvent id).Valid := by
  refine valid_of_plain ?_
  intro message isMessage
  cases isMessage

theorem artifact_valid (id : TaskId) (part : Part) (append : Bool) :
    (SseEvent.artifact id (answerArtifact part) append).Valid := by
  intro isNull
  cases isNull

/-- The final status a call is about to publish survives its encoding. -/
def Call.Legible (call : Call) : Prop :=
  ∀ status, call.pc.final? = some status → status.Valid

variable {json : SerdeJson} {call next : Call}
variable {registry updated : TaskRegistry} {action : Action}

theorem legible_of_none (unset : call.pc.final? = none) : call.Legible := by
  intro status carried
  rw [unset] at carried
  cases carried

theorem onItem_legible (item : StreamItem) :
    Call.Legible { call with pc := onItem json item } := by
  intro status carried
  rcases item with error | (⟨_ | _⟩ | reason)
  · cases carried
    exact failedStatus_valid _
  · cases carried
  · cases carried
  · cases carried
    exact statusForStop_valid reason

theorem step_legible
    (legible : call.Legible)
    (taken : step json action (call, registry) = some (next, updated)) :
    next.Legible := by
  cases action with
  | poll item =>
      obtain ⟨_, rfl, rfl⟩ := poll_some taken
      cases item with
      | none =>
          intro status carried
          cases carried
          exact failedStatus_valid _
      | some item =>
          by_cases seen : call.firstSeen = true
          · simp only [Call.polled, seen, if_true]
            exact @onItem_legible json call item
          · intro status carried
            simp only [Call.polled, seen] at carried
            cases carried
  | work =>
      cases work_works taken with
      | publishesWorking item atPc => exact onItem_legible item
      | decides status binding atPc =>
          intro other carried
          cases carried
          exact legible status (by rw [atPc]; rfl)
      | recordsFinal status atPc =>
          intro other carried
          cases carried
          exact legible status (by rw [atPc]; rfl)
      | _ => exact legible_of_none rfl

/-- A step of a legible call leaves legible sinks. -/
theorem step_sinks_legible
    (legible : call.Legible)
    (sinks : ∀ id binding, registry.bindings id = some binding →
      binding.sink.Legible)
    (taken : step json action (call, registry) = some (next, updated)) :
    ∀ id binding, updated.bindings id = some binding →
      binding.sink.Legible := by
  have afterPut : ∀ {before after : TaskBinding},
      registry.bindings call.taskId = some before →
        after.sink = before.sink →
          ∀ id binding,
            (registry.put call.taskId after).bindings id = some binding →
              binding.sink.Legible := by
    intro before after isBefore sameSink id binding found
    by_cases own : id = call.taskId
    · subst own
      rw [TaskRegistry.put_self] at found
      cases found
      rw [sameSink]
      exact sinks call.taskId before isBefore
    · rw [TaskRegistry.put_other own] at found
      exact sinks id binding found
  have afterPublish : ∀ {act : SseSink → SseSink},
      (∀ sink : SseSink, sink.Legible → (act sink).Legible) →
        ∀ id binding,
          (registry.onSink call.taskId act).bindings id = some binding →
            binding.sink.Legible := by
    intro act keeps id binding found
    by_cases own : id = call.taskId
    · subst own
      cases before : registry.bindings call.taskId with
      | none =>
          simp only [TaskRegistry.onSink, before] at found
          cases found
      | some earlier =>
          rw [TaskRegistry.onSink_self before] at found
          cases found
          exact keeps _ (sinks call.taskId earlier before)
    · rw [TaskRegistry.onSink_other own] at found
      exact sinks id binding found
  cases action with
  | poll item =>
      obtain ⟨_, _, rfl⟩ := poll_some taken
      exact sinks
  | work =>
      cases work_works taken with
      | marks item before _ found => exact afterPut found rfl
      | upserts part rest before artifacts _ found => exact afterPut found rfl
      | decides status before _ found => exact afterPut found rfl
      | publishesWorking item =>
          exact afterPublish fun sink isLegible =>
            isLegible.publishEvent (workingEvent_valid _)
      | publishesArtifact part append rest =>
          exact afterPublish fun sink isLegible =>
            isLegible.publishEvent (artifact_valid _ part append)
      | publishesFinal status atPc =>
          have valid : status.Valid := legible status (by rw [atPc]; rfl)
          exact afterPublish fun sink isLegible =>
            isLegible.publishEvent valid
      | _ => exact sinks

end Bridge

namespace FinalFrames

open TaskWriters (World)

variable {json : SerdeJson} {world target : World}

structure Legible (world : World) : Prop where
  calls : world.calls.All Bridge.Call.Legible
  sinks : ∀ id binding, world.registry.bindings id = some binding →
    binding.sink.Legible

theorem Legible.of_steps
    (legible : Legible world) (steps : Steps json world target) :
    Legible target := by
  cases steps with
  | outside sameCalls changes =>
      refine { calls := by rw [sameCalls]; exact legible.calls, sinks := ?_ }
      intro id binding found
      have change := changes id
      rw [found] at change
      generalize before : world.registry.bindings id = earlier at change
      cases change with
      | same => exact legible.sinks id binding before
      | created fresh =>
          intro event member
          rw [fresh] at member
          cases member
      | @moves earlier _ _ sameSink =>
          rw [sameSink]
          exact legible.sinks id earlier before
      | @idles earlier _ _ published =>
          rw [published]
          refine (legible.sinks id earlier before).publish ?_
          intro event same
          cases same
  | begins name started unused isTarget =>
      subst isTarget
      exact
        { calls := Pool.all_put legible.calls (Bridge.legible_of_none rfl)
          sinks := legible.sinks }
  | bridges name action call next updated found stepped isTarget =>
      subst isTarget
      have legibleCall := legible.calls name call found
      exact
        { calls :=
            Pool.all_put legible.calls
              (Bridge.step_legible legibleCall stepped)
          sinks :=
            Bridge.step_sinks_legible legibleCall legible.sinks stepped }

theorem legible_of_run
    {trace : List Action}
    (run : Machine.Run (step json) Machine.free World.start trace world) :
    Legible world := by
  have start : Legible World.start := by
    refine { calls := Pool.all_empty, sinks := ?_ }
    intro id binding found
    cases found
  refine run.invariant Legible start ?_
  intro source action next before _ taken
  exact before.of_steps (step_steps taken)

end FinalFrames

/-! ## The codecs -/

/-- Decoded from some JSON, or on the sink of a Task in some run. -/
def OnTheWire (event : SseEvent) : Prop :=
  (∃ value, SseEvent.ofValue value = some event) ∨
    ∃ json trace world id binding,
      Machine.Run (FinalFrames.step json) Machine.free TaskWriters.World.start
          trace world ∧
        world.registry.bindings id = some binding ∧
          .event event ∈ binding.sink.sent

theorem OnTheWire.valid
    {event : SseEvent} (onTheWire : OnTheWire event) : event.Valid := by
  rcases onTheWire with
    ⟨value, decoded⟩ | ⟨json, trace, world, id, binding, run, found, member⟩
  · exact SseEvent.valid_of_ofValue decoded
  · exact (FinalFrames.legible_of_run run).sinks id binding found event member

/-- What was decoded or published comes back from its encoding, and a stream
of such events from its records. -/
theorem wire_round_trips
    {json : SerdeJson} {events : List SseEvent}
    (onTheWire : ∀ event, event ∈ events → OnTheWire event)
    (prints : ∀ event, event ∈ events → json.Prints event.toValue) :
    (∀ value part, Part.ofValue value = some part →
        Part.ofValue part.toValue = some part) ∧
      (∀ value message, Message.ofValue value = some message →
        Message.ofValue message.toValue = some message) ∧
      (∀ value task, Task.ofValue value = some task →
        Task.ofValue task.toValue = some task) ∧
      (∀ event, OnTheWire event →
        SseEvent.ofValue event.toValue = some event) ∧
      (∀ value response, JsonRpcResponse.ofValue value = some response →
        JsonRpcResponse.ofValue response.toValue = some response) ∧
      readEvents json (String.join (events.map (encodeSseEvent json))) =
        some events := by
  refine ⟨?_, ?_, ?_, ?_, ?_, ?_⟩
  · intro value part decoded
    exact Part.codec.stable decoded
  · intro value message decoded
    exact Message.codec.stable decoded
  · intro value task decoded
    exact Task.codec.stable decoded
  · intro event isOnTheWire
    exact SseEvent.ofValue_toValue isOnTheWire.valid
  · intro value response decoded
    exact JsonRpcResponse.codec.stable decoded
  · exact readEvents_encode events
      (fun event member => (onTheWire event member).valid) prints

/-- The text of the working frame of the Task "t". -/
def workingText : String :=
  "\x7b\"statusUpdate\":\x7b\"taskId\":\"t\",\"status\":" ++
    "\x7b\"state\":\"working\"\x7d,\"final\":false\x7d\x7d"

theorem working_frame_reads_back :
    ∃ json : SerdeJson,
      json.toText (Bridge.workingEvent ⟨"t"⟩).toValue = workingText ∧
        readEvents json
            (String.join
              [encodeSseEvent json (Bridge.workingEvent ⟨"t"⟩)]) =
          some [Bridge.workingEvent ⟨"t"⟩] := by
  let value := (Bridge.workingEvent ⟨"t"⟩).toValue
  let json := SerdeJson.ofTable [(value, workingText)]
  have isText : json.toText value = workingText := by decide
  have prints : json.Prints value :=
    .of_text isText (by decide) (escapes_append rfl rfl)
  refine ⟨json, isText, ?_⟩
  have round := @wire_round_trips json [Bridge.workingEvent ⟨"t"⟩]
    (by
      intro event member
      cases List.mem_singleton.mp member
      exact .inl ⟨value, rfl⟩)
    (by
      intro event member
      cases List.mem_singleton.mp member
      exact prints)
  exact round.2.2.2.2.2

end A2AShim
