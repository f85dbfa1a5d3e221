import A2AShim.Serve.Bridge

/-!
# What one turn leaves

The contract of `run_session` on a fresh Task that nobody cancels, stated from
the translation table: the state the stream calls for, the frames in their
order, a closed sink.  Only the empty stream misses it, since a Task that is
still `submitted` cannot fail.
-/

namespace A2AShim

namespace Bridge

/-! ## The table -/

/-- The items before the one that ends the turn. -/
def turnItems (stream : List StreamItem) : List StreamItem :=
  stream.takeWhile fun item => !endsStream item

/-- The first terminal item or error, if there is one. -/
def turnEnd (stream : List StreamItem) : Option StreamItem :=
  stream.find? endsStream

def turnState : Option StreamItem → TaskState
  | some (.ok (.terminal .endTurn)) => .completed
  | some (.ok (.terminal .cancelled)) => .canceled
  | _ => .failed

theorem turnState_isTerminal (ending : Option StreamItem) :
    (turnState ending).isTerminal = true := by
  unfold turnState
  split <;> rfl

/-- The status of the final frame. -/
def turnStatus : Option StreamItem → TaskStatus
  | some (.ok (.terminal reason)) => statusForStop reason
  | some (.error error) => errorStatus error
  | _ => endedStatus

theorem turnStatus_untimed (ending : Option StreamItem) :
    (turnStatus ending).timestamp = none := by
  rcases ending with _ | error | (update | reason)
  · rfl
  · rfl
  · rfl
  · cases reason <;> rfl

theorem turnStatus_state (ending : Option StreamItem) :
    (turnStatus ending).state = turnState ending := by
  rcases ending with _ | error | (update | reason)
  · rfl
  · rfl
  · rfl
  · cases reason <;> rfl

/-- The artifacts of a Task that has got `parts` of an answer. -/
def answerSoFar : List Part → List Artifact
  | [] => []
  | part :: rest => [{ answerArtifact part with parts := part :: rest }]

theorem answerSoFar_parts (parts : List Part) :
    (answerSoFar parts).flatMap Artifact.parts = parts := by
  cases parts with
  | nil => rfl
  | cons part rest => simp [answerSoFar]

theorem upsertInto_answerSoFar (done : List Part) (part : Part) :
    (TaskRegistry.upsertInto (answerSoFar done) (answerArtifact part)).2 =
      answerSoFar (done ++ [part]) := by
  cases done with
  | nil => rfl
  | cons first rest =>
      simp [answerSoFar, TaskRegistry.upsertInto, TaskRegistry.mergeArtifact,
        answerArtifact]

variable (json : SerdeJson)

def itemParts : StreamItem → List Part
  | .ok (.update (.agentMessageChunk content)) =>
      Translate.acpToA2a json [content]
  | _ => []

def turnParts (stream : List StreamItem) : List Part :=
  (turnItems stream).flatMap (itemParts json)

/-- One artifact frame for each part; `seen` says that one came before. -/
def artifactFrames (id : TaskId) (seen : Bool) (parts : List Part) :
    List SseFrame :=
  parts.mapIdx fun index part =>
    .event (.artifact id (answerArtifact part) (seen || index != 0))

def finalFrame (id : TaskId) (state : TaskState) (message : Option Message) :
    SseFrame :=
  .event (.status id { state, message, timestamp := none } true)

/-- The contract for the Task `id` of `registry` and the given stream. -/
structure TurnContract (registry : TaskRegistry) (id : TaskId)
    (stream : List StreamItem) : Prop where
  returnsOk : (runSession json registry id stream).1 = .ok ()
  leaves : ∃ binding message,
    (runSession json registry id stream).2.bindings id = some binding ∧
      binding.state = turnState (turnEnd stream) ∧
        binding.sink.isOpen = false ∧
          binding.sink.sent =
            .event (workingEvent id) ::
              artifactFrames id false (turnParts json stream) ++
                [finalFrame id (turnState (turnEnd stream)) message]
  ignoresRest : ∀ more, (turnEnd stream).isSome = true →
    runSession json registry id (stream ++ more) =
      runSession json registry id stream

/-! ## The loop -/

variable {json}
variable {registry : TaskRegistry} {id : TaskId} {binding : TaskBinding}

theorem artifactFrames_cons
    (id : TaskId) (seen : Bool) (part : Part) (rest : List Part) :
    artifactFrames id seen (part :: rest) =
      .event (.artifact id (answerArtifact part) seen) ::
        artifactFrames id true rest := by
  simp [artifactFrames, List.mapIdx_cons]

theorem artifactFrames_append
    (id : TaskId) (seen : Bool) (first second : List Part) :
    artifactFrames id seen (first ++ second) =
      artifactFrames id seen first ++
        artifactFrames id (seen || !first.isEmpty) second := by
  induction first generalizing seen with
  | nil => simp [artifactFrames]
  | cons part rest inductionHypothesis =>
      rw [List.cons_append, artifactFrames_cons, artifactFrames_cons,
        inductionHypothesis]
      simp

theorem finishWith_of_found
    (status : TaskStatus)
    (found : registry.bindings id = some binding)
    (legal : TaskRegistry.isLegal binding.state status.state = true) :
    finishWith registry id status =
      (.ok (),
        registry.put id
          { binding with
            state := status.state
            sink := binding.sink.publishFinal (.status id status true) }) := by
  have moved :
      registry.transition id status.state =
        .ok (registry.put id { binding with state := status.state }) :=
    TaskRegistry.transition_ok_iff.mpr ⟨binding, found, legal, rfl⟩
  simp only [finishWith, moved]
  rw [TaskRegistry.onSink_of_some (TaskRegistry.put_self _ _ _),
    TaskRegistry.put_put]

/-- A legal final transition closes the sink after the final frame. -/
theorem finishWith_of_legal
    (status : TaskStatus)
    (found : registry.bindings id = some binding)
    (legal : TaskRegistry.isLegal binding.state status.state = true)
    (opened : binding.sink.isOpen = true) :
    finishWith registry id status =
      (.ok (),
        registry.put id
          { binding with
            state := status.state
            sink :=
              { binding.sink with
                sent := binding.sink.sent ++ [.event (.status id status true)]
                isOpen := false } }) := by
  rw [finishWith_of_found status found legal]
  simp [SseSink.publishFinal, SseSink.publish, opened]

/-- The binding of a Task that had `done` of its answer, after more parts. -/
def answered (id : TaskId) (seen : Bool) (done parts : List Part)
    (binding : TaskBinding) : TaskBinding :=
  { binding with
    artifacts := answerSoFar (done ++ parts)
    sink :=
      { binding.sink with
        sent := binding.sink.sent ++ artifactFrames id seen parts } }

/-- The parts of one chunk become artifact frames, and nothing else of the
Task changes. -/
theorem answerParts_of_open
    (parts done : List Part) (seen : Bool)
    (found : registry.bindings id = some binding)
    (answer : binding.artifacts = answerSoFar done)
    (opened : binding.sink.isOpen = true) :
    answerParts id parts seen registry =
      (.ok (seen || !parts.isEmpty),
        registry.put id (answered id seen done parts binding)) := by
  induction parts generalizing registry binding done seen with
  | nil =>
      have unchanged : answered id seen done [] binding = binding := by
        simp [answered, artifactFrames, ← answer]
      rw [unchanged, TaskRegistry.put_same found]
      simp [answerParts]
  | cons part rest inductionHypothesis =>
      let stored : TaskBinding :=
        { binding with artifacts := answerSoFar (done ++ [part]) }
      have isStored :
          registry.upsertArtifact id (answerArtifact part) =
            .ok ((TaskRegistry.upsertInto (answerSoFar done)
              (answerArtifact part)).1, registry.put id stored) := by
        refine TaskRegistry.upsertArtifact_ok_iff.mpr ⟨binding, found, ?_⟩
        rw [answer, upsertInto_answerSoFar]
      have published :=
        TaskRegistry.onSink_of_some (TaskRegistry.put_self registry id stored)
          (SseSink.publishEvent (.artifact id (answerArtifact part) seen))
      have sentFirst :
          stored.sink.publishEvent (.artifact id (answerArtifact part) seen) =
            { binding.sink with
              sent :=
                binding.sink.sent ++
                  [.event (.artifact id (answerArtifact part) seen)] } := by
        simp [stored, SseSink.publishEvent, SseSink.publish, opened]
      rw [TaskRegistry.put_put, sentFirst] at published
      have continues :=
        @inductionHypothesis _ _ (done ++ [part]) true
          (TaskRegistry.put_self registry id
            { stored with
              sink :=
                { binding.sink with
                  sent :=
                    binding.sink.sent ++
                      [.event (.artifact id (answerArtifact part) seen)] } })
          rfl opened
      simp only [answerParts, isStored, published, continues,
        TaskRegistry.put_put]
      simp [answered, stored, artifactFrames_cons]

/-- The binding of a Task that had `done` of its answer, after its turn. -/
def turned (json : SerdeJson) (id : TaskId) (seen : Bool) (done : List Part)
    (stream : List StreamItem) (binding : TaskBinding) : TaskBinding :=
  { binding with
    state := turnState (turnEnd stream)
    artifacts := answerSoFar (done ++ turnParts json stream)
    sink :=
      { binding.sink with
        sent :=
          binding.sink.sent ++
            (artifactFrames id seen (turnParts json stream) ++
              [.event (.status id (turnStatus (turnEnd stream)) true)])
        isOpen := false } }

/-- The item that ends the turn decides the state; nothing after it is
read. -/
theorem finishWith_turned
    {stream : List StreamItem} {seen : Bool} {done : List Part}
    (found : registry.bindings id = some binding)
    (working : binding.state = .working)
    (answer : binding.artifacts = answerSoFar done)
    (opened : binding.sink.isOpen = true)
    (noParts : turnParts json stream = []) :
    finishWith registry id (turnStatus (turnEnd stream)) =
      (.ok (),
        registry.put id (turned json id seen done stream binding)) := by
  have legal :
      TaskRegistry.isLegal binding.state (turnStatus (turnEnd stream)).state =
        true := by
    rw [working, turnStatus_state]
    rcases turnEnd stream with _ | error | (update | reason)
    · rfl
    · rfl
    · rfl
    · cases reason <;> rfl
  rw [finishWith_of_legal _ found legal opened, turnStatus_state]
  simp [turned, noParts, artifactFrames, answer]

variable (json) in
/-- The loop of a working Task with an open sink, whatever is on the sink. -/
theorem pump_of_working
    {stream : List StreamItem} {seen : Bool} {done : List Part}
    (found : registry.bindings id = some binding)
    (working : binding.state = .working)
    (answer : binding.artifacts = answerSoFar done)
    (opened : binding.sink.isOpen = true) :
    pump json id true seen stream registry =
      (.ok (),
        registry.put id (turned json id seen done stream binding)) := by
  induction stream generalizing registry binding seen done with
  | nil =>
      exact @finishWith_turned json registry id binding [] seen done found
        working answer opened rfl
  | cons item rest inductionHypothesis =>
      by_cases ends : endsStream item = true
      · have noParts : turnParts json (item :: rest) = [] := by
          simp [turnParts, turnItems, ends]
        have isEnd : turnEnd (item :: rest) = some item := by
          simp [turnEnd, ends]
        have finished := @finishWith_turned json registry id binding
          (item :: rest) seen done found working answer opened noParts
        rw [isEnd] at finished
        cases item with
        | error error => exact finished
        | ok event =>
            cases event with
            | update update => cases ends
            | terminal reason => exact finished
      · have noEnd : turnEnd (item :: rest) = turnEnd rest := by
          simp [turnEnd, ends]
        have moreParts :
            turnParts json (item :: rest) =
              itemParts json item ++ turnParts json rest := by
          simp [turnParts, turnItems, ends]
        cases item with
        | error error => exact absurd rfl ends
        | ok event =>
            cases event with
            | terminal reason => exact absurd rfl ends
            | update update =>
                cases update with
                | other =>
                    have sameTurn :
                        turned json id seen done
                            (.ok (.update .other) :: rest) binding =
                          turned json id seen done rest binding := by
                      simp [turned, noEnd, moreParts, itemParts]
                    rw [sameTurn]
                    exact inductionHypothesis found working answer opened
                | agentMessageChunk content =>
                    let parts := Translate.acpToA2a json [content]
                    have answers :=
                      answerParts_of_open parts done seen found answer opened
                    have continues :=
                      @inductionHypothesis _ _ (seen || !parts.isEmpty)
                        (done ++ parts)
                        (TaskRegistry.put_self registry id
                          (answered id seen done parts binding))
                        working rfl opened
                    rw [TaskRegistry.put_put] at continues
                    have sameTurn :
                        turned json id (seen || !parts.isEmpty)
                            (done ++ parts) rest
                            (answered id seen done parts binding) =
                          turned json id seen done
                            (.ok (.update (.agentMessageChunk content)) ::
                              rest) binding := by
                      simp [turned, answered, noEnd, moreParts, itemParts,
                        artifactFrames_append, parts]
                    rw [sameTurn] at continues
                    simp only [pump, markWorking, if_true, answers, parts]
                    exact continues

variable (json) in
/-- The first item of a submitted Task makes it working, and the loop goes on
as if it had been. -/
theorem pump_of_submitted
    {item : StreamItem} {rest : List StreamItem}
    (found : registry.bindings id = some binding)
    (submitted : binding.state = .submitted) :
    pump json id false false (item :: rest) registry =
      pump json id true false (item :: rest)
        ((registry.put id { binding with state := .working }).onSink id
          (SseSink.publishEvent (workingEvent id))) := by
  have moved :
      registry.transition id .working =
        .ok (registry.put id { binding with state := .working }) :=
    TaskRegistry.transition_ok_iff.mpr
      ⟨binding, found, by rw [submitted]; rfl, rfl⟩
  simp only [pump, markWorking, moved, if_true]
  rfl

variable (json) in
theorem pump_append
    {stream : List StreamItem} (more : List StreamItem)
    (ended : (turnEnd stream).isSome = true)
    (firstSeen artifactSeen : Bool) (registry : TaskRegistry) :
    pump json id firstSeen artifactSeen (stream ++ more) registry =
      pump json id firstSeen artifactSeen stream registry := by
  induction stream generalizing firstSeen artifactSeen registry with
  | nil => cases ended
  | cons item rest inductionHypothesis =>
      rw [List.cons_append]
      cases marked : markWorking registry id firstSeen with
      | error error => simp only [pump, marked]
      | ok current =>
          cases item with
          | error error => simp only [pump, marked]
          | ok event =>
              cases event with
              | terminal reason => simp only [pump, marked]
              | update update =>
                  have laterEnd : (turnEnd rest).isSome = true := by
                    simpa [turnEnd, endsStream] using ended
                  cases update with
                  | other =>
                      simp only [pump, marked]
                      exact inductionHypothesis laterEnd true artifactSeen
                        current
                  | agentMessageChunk content =>
                      simp only [pump, marked]
                      split
                      · rfl
                      · exact inductionHypothesis laterEnd _ _ _

/-! ## A new Task -/

/-- The binding of a new Task after its turn. -/
def finishedBinding (json : SerdeJson) (id : TaskId) (stream : List StreamItem)
    (conversationId acpSessionId : String) : TaskBinding :=
  { conversationId, acpSessionId
    state := turnState (turnEnd stream)
    history := []
    artifacts := answerSoFar (turnParts json stream)
    sink :=
      { capacity := TaskRegistry.sseCapacity
        sent :=
          .event (workingEvent id) ::
            artifactFrames id false (turnParts json stream) ++
              [.event (.status id (turnStatus (turnEnd stream)) true)]
        isOpen := false } }

section NewTask

variable {conversation session : String}

variable (json) in
theorem runSession_of_found
    (stream : List StreamItem)
    (found : registry.bindings id = some binding) :
    runSession json registry id stream =
      pump json id false false stream registry := by
  simp [runSession, TaskRegistry.sink, found]

variable (json) in
/-- Without an item the Task stays `submitted`, and cannot fail. -/
theorem runSession_of_empty
    (fresh : registry.bindings id =
      some (TaskRegistry.freshBinding conversation session)) :
    runSession json registry id [] =
      (.error (.transition .illegal), registry) := by
  have unable : registry.transition id .failed = .error .illegal := by
    simp [TaskRegistry.transition, fresh, TaskRegistry.freshBinding,
      TaskRegistry.isLegal]
  rw [runSession_of_found json [] fresh]
  simp [pump, publishFailed, finishWith, failedStatus, unable]

variable (json) in
theorem runSession_of_fresh
    {stream : List StreamItem} (nonempty : stream ≠ [])
    (fresh : registry.bindings id =
      some (TaskRegistry.freshBinding conversation session)) :
    runSession json registry id stream =
      (.ok (),
        registry.put id
          (finishedBinding json id stream conversation session)) := by
  obtain ⟨item, rest, rfl⟩ := List.exists_cons_of_ne_nil nonempty
  have published :=
    TaskRegistry.onSink_of_some
      (TaskRegistry.put_self registry id
        { TaskRegistry.freshBinding conversation session with
          state := .working })
      (SseSink.publishEvent (workingEvent id))
  rw [TaskRegistry.put_put] at published
  have pumped :=
    @pump_of_working json _ id _ (item :: rest) false []
      (TaskRegistry.put_self registry id
        { TaskRegistry.freshBinding conversation session with
          state := .working
          sink :=
            (TaskRegistry.freshBinding conversation session).sink.publishEvent
              (workingEvent id) })
      rfl rfl rfl
  rw [TaskRegistry.put_put] at pumped
  rw [runSession_of_found json _ fresh, pump_of_submitted json fresh rfl,
    published]
  exact pumped

end NewTask

/-! ## The contract -/

/-- `run_session` keeps its contract on every stream but the empty one. -/
theorem turnContract_iff
    {conversation session : String} (stream : List StreamItem)
    (fresh : registry.bindings id =
      some (TaskRegistry.freshBinding conversation session)) :
    TurnContract json registry id stream ↔ stream ≠ [] := by
  constructor
  · intro contract isSame
    subst isSame
    have returned := contract.returnsOk
    rw [runSession_of_empty json fresh] at returned
    cases returned
  · intro nonempty
    have returned := runSession_of_fresh json nonempty fresh
    have lastFrame :
        SseFrame.event (.status id (turnStatus (turnEnd stream)) true) =
          finalFrame id (turnState (turnEnd stream))
            (turnStatus (turnEnd stream)).message := by
      rw [finalFrame, ← turnStatus_state, ← turnStatus_untimed (turnEnd stream)]
    refine ⟨by rw [returned], ⟨_, (turnStatus (turnEnd stream)).message,
      by rw [returned]; exact TaskRegistry.put_self _ _ _, rfl, rfl, ?_⟩, ?_⟩
    · rw [← lastFrame]
      rfl
    · intro more ended
      rw [runSession_of_found json _ fresh, runSession_of_found json _ fresh]
      exact pump_append json more ended false false registry

/-- One chunk and the end of the turn, for the first Task of a registry. -/
theorem answer_meets_contract :
    TurnContract
      { toText := fun _ => "null"
        fromText := fun _ => some .null
        rejection := fun _ => "" }
      (TaskRegistry.empty.create ⟨"t"⟩ "c" "s") ⟨"t"⟩
      [.ok (.update (.agentMessageChunk (.text "hello"))),
        .ok (.terminal .endTurn)] :=
  (turnContract_iff _ (TaskRegistry.create_self _ _ _ _)).mpr (by simp)

/-- A prompt whose stream ends without any item leaves its Task submitted,
and an open sink without a frame. -/
theorem empty_stream_breaks_contract :
    ¬ ∀ json registry id conversation session stream,
        registry.bindings id =
            some (TaskRegistry.freshBinding conversation session) →
          TurnContract json registry id stream := by
  intro claimed
  have contract :=
    claimed
      { toText := fun _ => "null"
        fromText := fun _ => some .null
        rejection := fun _ => "" }
      (TaskRegistry.empty.create ⟨"t"⟩ "c" "s") ⟨"t"⟩ "c" "s" []
      (TaskRegistry.create_self _ _ _ _)
  have returned := contract.returnsOk
  revert returned
  decide

end Bridge

end A2AShim
