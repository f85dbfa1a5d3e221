import A2AShim.Client.Verdict
import A2AShim.Lib.EventStream
import A2AShim.Serve.BridgeOutcome
import A2AShim.Serve.PublishedEvents

/-!
# An answer from end to end

The registry and the Client Shim accumulate the artifacts of a turn in two
ways: one by the artifact's id, the other by the `append` flag of its frames.
The frames of a turn lead both to the same list.
-/

namespace A2AShim

def SseFrame.event? : SseFrame → Option SseEvent
  | .event inner => some inner
  | .keepalive => none

namespace CallHandler

open Bridge
open EventStream (Frame ReadsEvents)

/-- What comes of a body: the events of its text, then its end, or the idle
window where the body stays open. -/
def bodyItems (read : String → List String) (body : String) (ends : Bool) :
    List BodyItem :=
  ((read body).map fun data => .event data false) ++
    if ends then [] else [.idle]

variable (json : SerdeJson) (registry : TaskRegistry) (id : TaskId)
variable (stream : List StreamItem) (args : A2aSendArgs)
variable (read : String → List String) (rejects : String → String)
variable (limit : String)

/-- The events for a subscriber that was there before the turn and does not
lag. -/
def receivedEvents : List SseEvent :=
  match (registry.sink id).bind SseSink.subscribe,
      (runSession json registry id stream).2.sink id with
  | some receiver, some sink =>
      (sink.unread receiver).filterMap SseFrame.event?
  | _, _ => []

/-- The body of the answer. -/
def responseBody : String :=
  String.join
    ((receivedEvents json registry id stream).map fun event =>
      (Frame.data (json.toText event.toValue)).text)

/-- The body ends when the sink of the Task is closed. -/
def bodyEnds : Bool :=
  match (runSession json registry id stream).2.sink id with
  | some sink => !sink.isOpen
  | none => true

/-- What the Client Shim makes of the body. -/
def clientOutcome : DriveOutcome :=
  driveStream args
    (Outbound.stream json rejects limit
      (bodyItems read (responseBody json registry id stream)
        (bodyEnds json registry id stream)))

def chunkText : StreamItem → String
  | .ok (.update (.agentMessageChunk (.text text))) => text
  | _ => ""

/-- The text chunks of the turn, in order. -/
def answerText : String :=
  let text := String.join ((turnItems stream).map chunkText)
  if text = "" then noTextContent else text

/-- The Client Shim ends with the Task of the registry: its terminal state,
its artifacts and, if it has completed, the text of the answer. -/
def AnswerFaithful : Prop :=
  ∃ task snapshot,
    clientOutcome json registry id stream args read rejects limit =
        outcomeOfFinal task ∧
      (runSession json registry id stream).2.snapshot id = some snapshot ∧
        snapshot.status.state.isTerminal = true ∧
          task.id = id ∧ task.status.state = snapshot.status.state ∧
            task.artifacts = snapshot.artifacts ∧
              (snapshot.status.state = .completed →
                resultText (renderOutcome (outcomeOfFinal task)) =
                  some (answerText stream))

/-! ## The two accumulators -/

variable {json registry id stream read rejects limit}

/-- The Client Shim adds a part as the registry does, if the flag says whether
there was one before. -/
theorem upsertArtifact_answerSoFar (done : List Part) (part : Part) :
    upsertArtifact (answerSoFar done) (answerArtifact part)
        (!done.isEmpty) =
      answerSoFar (done ++ [part]) := by
  cases done with
  | nil => rfl
  | cons first rest =>
      simp [upsertArtifact, answerSoFar, extendFirst, answerArtifact]

/-- The artifact frames of a list of parts. -/
theorem driveFrom_artifactFrames
    {task : Task} (parts done : List Part)
    (rest : List (Except OutboundError SseEvent))
    (sameId : task.id = id) (answer : task.artifacts = answerSoFar done) :
    driveFrom task
        (((artifactFrames id (!done.isEmpty) parts).filterMap
          SseFrame.event?).map .ok ++ rest) =
      driveFrom { task with artifacts := answerSoFar (done ++ parts) }
        rest := by
  induction parts generalizing task done with
  | nil =>
      have unchanged :
          { task with artifacts := answerSoFar (done ++ []) } = task := by
        rw [List.append_nil, ← answer]
      rw [unchanged]
      simp [artifactFrames]
  | cons part others inductionHypothesis =>
      have step :=
        @inductionHypothesis
          { task with id := id, artifacts := answerSoFar (done ++ [part]) }
          (done ++ [part]) rfl rfl
      have nonempty : (!(done ++ [part]).isEmpty) = true := by simp
      rw [nonempty, List.append_assoc, List.singleton_append] at step
      subst sameId
      rw [artifactFrames_cons]
      simp only [List.filterMap_cons, SseFrame.event?, List.map_cons,
        List.cons_append, driveFrom, SseEvent.artifact, answer,
        upsertArtifact_answerSoFar]
      exact step

/-! ## The text of the answer -/

theorem concatenateMessageText_append (first second : List Part) :
    concatenateMessageText (first ++ second) =
      concatenateMessageText first ++ concatenateMessageText second := by
  induction first with
  | nil => simp [concatenateMessageText]
  | cons part rest inductionHypothesis =>
      cases part with
      | text content =>
          simp [concatenateMessageText, inductionHypothesis,
            String.append_assoc]
      | data content mediaType =>
          simpa [concatenateMessageText] using inductionHypothesis
      | file raw url mediaType filename =>
          simpa [concatenateMessageText] using inductionHypothesis

/-- Only text chunks become text parts. -/
theorem concatenateMessageText_itemParts (item : StreamItem) :
    concatenateMessageText (itemParts json item) = chunkText item := by
  rcases item with error | ((content | _) | reason)
  · rfl
  · cases content with
    | text text =>
        simp [itemParts, Translate.acpToA2a, Translate.translateOneOutbound,
          concatenateMessageText, chunkText]
    | resource resource =>
        cases resource <;> rfl
    | _ => rfl
  · rfl
  · rfl

theorem concatenateMessageText_flatMap (items : List StreamItem) :
    concatenateMessageText (items.flatMap (itemParts json)) =
      String.join (items.map chunkText) := by
  induction items with
  | nil => rfl
  | cons item rest inductionHypothesis =>
      rw [List.flatMap_cons, concatenateMessageText_append,
        concatenateMessageText_itemParts, inductionHypothesis, List.map_cons,
        String.join_cons]

theorem concatenateArtifactText_turn
    {task : Task}
    (answer : task.artifacts = answerSoFar (turnParts json stream)) :
    concatenateArtifactText task = answerText stream := by
  have isText :
      String.join (task.artifacts.map fun artifact =>
          concatenateMessageText artifact.parts) =
        String.join ((turnItems stream).map chunkText) := by
    rw [← @concatenateMessageText_flatMap json, answer]
    rw [turnParts]
    cases (turnItems stream).flatMap (itemParts json) with
    | nil => rfl
    | cons part rest => simp [answerSoFar]
  rw [concatenateArtifactText, answerText, isText]

/-! ## The whole turn -/

section Turn

variable {conversation session : String}

theorem receivedEvents_of_fresh
    (nonempty : stream ≠ [])
    (fresh : registry.bindings id =
      some (TaskRegistry.freshBinding conversation session)) :
    receivedEvents json registry id stream =
      workingEvent id ::
        (artifactFrames id false (turnParts json stream)).filterMap
            SseFrame.event? ++
          [.status id (turnStatus (turnEnd stream)) true] := by
  have isReceiver :
      (registry.sink id).bind SseSink.subscribe = some { next := 0 } := by
    simp [TaskRegistry.sink, fresh, TaskRegistry.freshBinding, SseSink.new,
      SseSink.subscribe]
  have isSink :
      (runSession json registry id stream).2.sink id =
        some (finishedBinding json id stream conversation session).sink := by
    rw [runSession_of_fresh json nonempty fresh]
    simp [TaskRegistry.sink]
  simp only [receivedEvents, isReceiver, isSink]
  simp [SseSink.unread, finishedBinding, SseFrame.event?]

theorem receivedEvents_of_empty
    (fresh : registry.bindings id =
      some (TaskRegistry.freshBinding conversation session)) :
    receivedEvents json registry id [] = [] := by
  have isReceiver :
      (registry.sink id).bind SseSink.subscribe = some { next := 0 } := by
    simp [TaskRegistry.sink, fresh, TaskRegistry.freshBinding, SseSink.new,
      SseSink.subscribe]
  have isSink :
      (runSession json registry id []).2.sink id =
        some (TaskRegistry.freshBinding conversation session).sink := by
    rw [runSession_of_empty json fresh]
    simp [TaskRegistry.sink, fresh]
  simp only [receivedEvents, isReceiver, isSink]
  rfl

/-- The body of a turn ends, unless nothing was published. -/
theorem bodyEnds_of_fresh
    (fresh : registry.bindings id =
      some (TaskRegistry.freshBinding conversation session)) :
    bodyEnds json registry id stream = !stream.isEmpty := by
  by_cases nonempty : stream = []
  · subst nonempty
    have isSink :
        (runSession json registry id []).2.sink id =
          some (TaskRegistry.freshBinding conversation session).sink := by
      rw [runSession_of_empty json fresh]
      simp [TaskRegistry.sink, fresh]
    rw [bodyEnds, isSink]
    rfl
  · have isSink :
        (runSession json registry id stream).2.sink id =
          some (finishedBinding json id stream conversation session).sink := by
      rw [runSession_of_fresh json nonempty fresh]
      simp [TaskRegistry.sink]
    rw [bodyEnds, isSink]
    simp [finishedBinding, nonempty]

theorem turnStatus_valid (ending : Option StreamItem) :
    (turnStatus ending).Valid := by
  rcases ending with _ | error | (update | reason)
  · exact failedStatus_valid _
  · exact failedStatus_valid _
  · exact failedStatus_valid _
  · exact statusForStop_valid reason

/-- The events between the first and the last one carry the answer. -/
theorem artifactFrames_artifact
    {event : SseEvent} {seen : Bool} {parts : List Part}
    (member : event ∈
      (artifactFrames id seen parts).filterMap SseFrame.event?) :
    ∃ part append, event = .artifact id (answerArtifact part) append := by
  induction parts generalizing seen with
  | nil => cases member
  | cons part rest inductionHypothesis =>
      rw [artifactFrames_cons] at member
      rcases List.mem_cons.mp member with isFirst | isLater
      · exact ⟨part, seen, isFirst⟩
      · exact inductionHypothesis isLater

theorem receivedEvents_valid
    (nonempty : stream ≠ [])
    (fresh : registry.bindings id =
      some (TaskRegistry.freshBinding conversation session)) :
    ∀ event, event ∈ receivedEvents json registry id stream →
      event.Valid := by
  intro event member
  rw [receivedEvents_of_fresh nonempty fresh] at member
  rcases List.mem_append.mp member with earlier | last
  · rcases List.mem_cons.mp earlier with isWorking | isArtifact
    · rw [isWorking]
      exact workingEvent_valid id
    · obtain ⟨part, append, rfl⟩ := artifactFrames_artifact isArtifact
      exact artifact_valid id part append
  · rw [List.mem_singleton.mp last]
    exact turnStatus_valid _

/-- The events of a turn are all read, up to its end. -/
theorem stream_of_turn
    (nonempty : stream ≠ [])
    (fresh : registry.bindings id =
      some (TaskRegistry.freshBinding conversation session))
    (prints : ∀ event, event ∈ receivedEvents json registry id stream →
      json.Prints event.toValue) :
    Outbound.stream json rejects limit
        ((receivedEvents json registry id stream).map fun event =>
          .event (json.toText event.toValue) false) =
      (receivedEvents json registry id stream).map .ok := by
  have valid : ∀ event, event ∈ receivedEvents json registry id stream → _ :=
    receivedEvents_valid nonempty fresh
  rw [receivedEvents_of_fresh nonempty fresh] at valid prints ⊢
  refine Outbound.stream_of_events ?_ valid prints
  intro event member
  rcases List.mem_cons.mp member with isFirst | isArtifact
  · rw [isFirst]
    rfl
  · obtain ⟨part, append, rfl⟩ := artifactFrames_artifact isArtifact
    rfl

/-- Frames of clean texts, and comments, are read back. -/
theorem read_of_frames
    {events : List SseEvent} {frames : List Frame} (reads : ReadsEvents read)
    (prints : ∀ event, event ∈ events → json.Prints event.toValue)
    (isData : frames.filterMap Frame.data? =
      events.map fun event => json.toText event.toValue)
    (comments : ∀ text, .comment text ∈ frames →
      (Frame.comment text).Clean) :
    read (String.join (frames.map Frame.text)) =
      events.map fun event => json.toText event.toValue := by
  have escapes : ("data: ".toList.all fun char =>
      32 ≤ char.toNat) = true :=
    rfl
  rw [← isData]
  apply reads.frames
  intro frame member
  cases frame with
  | comment text => exact comments text member
  | data text =>
      have listed : text ∈ frames.filterMap Frame.data? :=
        List.mem_filterMap.mpr ⟨_, member, rfl⟩
      rw [isData] at listed
      obtain ⟨event, isEvent, rfl⟩ := List.mem_map.mp listed
      intro char isChar
      rcases List.mem_append.mp isChar with inTag | inText
      · exact of_decide_eq_true (List.all_eq_true.mp escapes char inTag)
      · exact (prints event isEvent).escapes char inText

/-- The body is read as the events of the turn. -/
theorem read_responseBody
    (reads : ReadsEvents read)
    (prints : ∀ event, event ∈ receivedEvents json registry id stream →
      json.Prints event.toValue) :
    read (responseBody json registry id stream) =
      (receivedEvents json registry id stream).map fun event =>
        json.toText event.toValue := by
  have isBody : responseBody json registry id stream =
      String.join
        (((receivedEvents json registry id stream).map fun event =>
          Frame.data (json.toText event.toValue)).map Frame.text) := by
    rw [responseBody, List.map_map]
    rfl
  rw [isBody]
  apply read_of_frames reads prints
  · rw [List.filterMap_map, ← List.filterMap_eq_map]
    rfl
  · intro text member
    obtain ⟨event, _, isData⟩ := List.mem_map.mp member
    cases isData

/-- The Task the Client Shim ends with. -/
def drivenTask (json : SerdeJson) (id : TaskId) (stream : List StreamItem)
    (args : A2aSendArgs) : Task :=
  { initialTask args with
    id
    status := turnStatus (turnEnd stream)
    artifacts := answerSoFar (turnParts json stream) }

theorem driveStream_of_fresh
    (args : A2aSendArgs) (nonempty : stream ≠ [])
    (fresh : registry.bindings id =
      some (TaskRegistry.freshBinding conversation session)) :
    driveStream args ((receivedEvents json registry id stream).map .ok) =
      outcomeOfFinal (drivenTask json id stream args) := by
  have folded :=
    @driveFrom_artifactFrames id
      { initialTask args with
        id
        status := { state := .working, message := none, timestamp := none } }
      (turnParts json stream) []
      [.ok (.status id (turnStatus (turnEnd stream)) true)] rfl rfl
  have ended :
      driveFrom
          { initialTask args with
            id
            status := { state := .working, message := none, timestamp := none }
            artifacts := answerSoFar (turnParts json stream) }
          [.ok (.status id (turnStatus (turnEnd stream)) true)] =
        outcomeOfFinal (drivenTask json id stream args) :=
    rfl
  rw [List.nil_append, ended] at folded
  rw [receivedEvents_of_fresh nonempty fresh, List.map_append]
  exact folded

/-- Without an item nothing is published, and the Task stays `submitted`. -/
theorem not_faithful_of_empty
    (args : A2aSendArgs)
    (fresh : registry.bindings id =
      some (TaskRegistry.freshBinding conversation session)) :
    ¬ AnswerFaithful json registry id [] args read rejects limit := by
  intro given
  rcases given with ⟨task, snapshot, _, taken, terminal, _⟩
  rw [runSession_of_empty json fresh] at taken
  simp only [TaskRegistry.snapshot, fresh, Option.map_some,
    Option.some.injEq] at taken
  rw [← taken] at terminal
  cases terminal

/-- The Client Shim ends with the registry's state, artifacts and text for
every stream but the empty one. -/
theorem answer_faithful_iff
    (args : A2aSendArgs) (reads : ReadsEvents read)
    (fresh : registry.bindings id =
      some (TaskRegistry.freshBinding conversation session))
    (prints : ∀ event, event ∈ receivedEvents json registry id stream →
      json.Prints event.toValue) :
    AnswerFaithful json registry id stream args read rejects limit ↔
      stream ≠ [] := by
  constructor
  · intro faithful isEmpty
    subst isEmpty
    exact not_faithful_of_empty args fresh faithful
  · intro nonempty
    have items :
        bodyItems read (responseBody json registry id stream)
            (bodyEnds json registry id stream) =
          (receivedEvents json registry id stream).map fun event =>
            .event (json.toText event.toValue) false := by
      rw [bodyItems, read_responseBody reads prints, bodyEnds_of_fresh fresh,
        List.map_map]
      simp [nonempty, Function.comp_def]
    have read := @stream_of_turn json registry id stream rejects limit
      conversation session nonempty fresh prints
    have driven := @driveStream_of_fresh json registry id stream conversation
      session args nonempty fresh
    refine ⟨drivenTask json id stream args,
      (finishedBinding json id stream conversation session).snapshot id,
      ?_, ?_, turnState_isTerminal _, rfl, turnStatus_state _, rfl, ?_⟩
    · rw [clientOutcome, items, read, driven]
    · rw [runSession_of_fresh json nonempty fresh]
      simp [TaskRegistry.snapshot]
    · intro completed
      have isCompleted :
          outcomeOfFinal (drivenTask json id stream args) =
            .completed (drivenTask json id stream args) := by
        have state : (drivenTask json id stream args).status.state =
            .completed :=
          (turnStatus_state _).trans completed
        simp only [outcomeOfFinal, state]
      rw [isCompleted, renderOutcome, resultText_completed,
        @concatenateArtifactText_turn json stream _ rfl]

end Turn

/-- One text chunk and the end of the turn. -/
def helloStream : List StreamItem :=
  [.ok (.update (.agentMessageChunk (.text "hello"))),
    .ok (.terminal .endTurn)]

def helloText : String :=
  "\x7b\"artifactUpdate\":\x7b\"taskId\":\"t\",\"artifact\":" ++
    "\x7b\"artifactId\":\"a-answer\",\"name\":\"answer\",\"parts\":" ++
      "[\x7b\"text\":\"hello\"\x7d]\x7d,\"append\":false\x7d\x7d"

def completedText : String :=
  "\x7b\"statusUpdate\":\x7b\"taskId\":\"t\",\"status\":" ++
    "\x7b\"state\":\"completed\"\x7d,\"final\":true\x7d\x7d"

/-- The frames of that turn, and their texts. -/
def helloTable : List (Value × String) :=
  [((workingEvent ⟨"t"⟩).toValue, workingText),
    ((SseEvent.artifact ⟨"t"⟩ (answerArtifact (.text "hello")) false).toValue,
      helloText),
    ((SseEvent.status ⟨"t"⟩ (statusForStop .endTurn) true).toValue,
      completedText)]

theorem hello_answer_faithful :
    AnswerFaithful (.ofTable helloTable)
      (TaskRegistry.empty.create ⟨"t"⟩ "c" "s") ⟨"t"⟩ helloStream
      { conversationId := "c", message := "hi" } EventStream.events
      (fun text => text) "60s" := by
  refine (@answer_faithful_iff _ _ _ helloStream EventStream.events
    (fun text => text) "60s" "c" "s"
    { conversationId := "c", message := "hi" }
    EventStream.readsEvents_events (TaskRegistry.create_self _ _ _ _) ?_).mpr (by simp [helloStream])
  intro event member
  have received :
      receivedEvents (.ofTable helloTable)
          (TaskRegistry.empty.create ⟨"t"⟩ "c" "s") ⟨"t"⟩ helloStream =
        [workingEvent ⟨"t"⟩,
          .artifact ⟨"t"⟩ (answerArtifact (.text "hello")) false,
          .status ⟨"t"⟩ (statusForStop .endTurn) true] :=
    rfl
  rw [received] at member
  simp only [List.mem_cons, List.not_mem_nil, or_false] at member
  rcases member with rfl | rfl | rfl
  · exact .of_text rfl (by decide) (escapes_append rfl rfl)
  · exact .of_text rfl (by decide)
      (escapes_append (escapes_append rfl rfl) rfl)
  · exact .of_text rfl (by decide) (escapes_append rfl rfl)

/-- An agent that ends its stream at once leaves the Client Shim without any
event. -/
theorem empty_answer_not_faithful :
    ¬ ∀ json registry id conversation session stream args read rejects limit,
        ReadsEvents read →
          registry.bindings id =
              some (TaskRegistry.freshBinding conversation session) →
            (∀ event, event ∈ receivedEvents json registry id stream →
              json.Prints event.toValue) →
              AnswerFaithful json registry id stream args read rejects
                limit := by
  intro claimed
  let registry := TaskRegistry.empty.create ⟨"t"⟩ "c" "s"
  let args : A2aSendArgs := { conversationId := "c", message := "hi" }
  have fresh : registry.bindings ⟨"t"⟩ =
      some (TaskRegistry.freshBinding "c" "s") :=
    TaskRegistry.create_self _ _ _ _
  have nothing := @receivedEvents_of_empty .constant registry ⟨"t"⟩ "c" "s"
    fresh
  have faithful := claimed .constant registry ⟨"t"⟩ "c" "s" [] args
    EventStream.events (fun text => text) "60s"
    EventStream.readsEvents_events fresh
    (by
      intro event member
      rw [nothing] at member
      cases member)
  exact not_faithful_of_empty args fresh faithful

end CallHandler

end A2AShim
