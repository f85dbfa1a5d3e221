import A2AShim.Lib.Machine
import A2AShim.Serve.AcpClient
import A2AShim.Serve.TaskRegistry

/-!
# The bridge

`run_session` pumps one prompt stream into the registry and the sink of one
Task.  It is given twice.  `runSession` is the function as it stands in the
source, over the items its stream will yield.  `Call` is the same function cut
where other tasks can come between: each lock of the registry, each use of the
sink, the wait for the next item and the two waits for SQL.  The last section
says that a call nobody comes between computes what `runSession` does.
-/

namespace A2AShim

namespace Bridge

def answerArtifactId : String := "a-answer"
def answerArtifactName : String := "answer"

inductive BridgeError where
  | notFound
  | transition (error : TransitionError)
  deriving DecidableEq, Repr

def textMessage (text : String) : Message :=
  { role := .agent, parts := [.text text], metadata := none }

def workingEvent (id : TaskId) : SseEvent :=
  .status id { state := .working, message := none, timestamp := none } false

/-- The artifact both copies of which carry one part of the answer. -/
def answerArtifact (part : Part) : Artifact :=
  { artifactId := some answerArtifactId
    name := some answerArtifactName
    parts := [part]
    metadata := none }

def statusMessageForStop : StopReason → Option Message
  | .endTurn | .cancelled => none
  | .refusal => some (textMessage "agent refused to complete the turn")
  | .maxTokens => some (textMessage "agent stopped: max tokens")
  | .maxTurnRequests =>
      some (textMessage "agent stopped: max turn requests")
  | .other => some (textMessage "agent stopped for an unrecognized reason")

def stateForStop : StopReason → TaskState
  | .endTurn => .completed
  | .cancelled => .canceled
  | _ => .failed

def statusForStop (stop : StopReason) : TaskStatus :=
  { state := stateForStop stop
    message := statusMessageForStop stop
    timestamp := none }

def failedStatus (reason : String) : TaskStatus :=
  { state := .failed
    message := some (textMessage reason)
    timestamp := none }

def endedStatus : TaskStatus :=
  failedStatus "agent stream ended without terminal stop reason"

def errorStatus (error : AcpError) : TaskStatus :=
  failedStatus ("agent error: " ++ error.text)

/-! ## The function -/

/-- Transition, then publish the final event: the common body of
`publish_terminal_for_stop` and `publish_failed`. -/
def finishWith (registry : TaskRegistry) (id : TaskId) (status : TaskStatus) :
    Except BridgeError Unit × TaskRegistry :=
  match registry.transition id status.state with
  | .error error => (.error (.transition error), registry)
  | .ok updated =>
      (.ok (), updated.onSink id (SseSink.publishFinal (.status id status true)))

def publishTerminalForStop (registry : TaskRegistry) (id : TaskId)
    (stop : StopReason) : Except BridgeError Unit × TaskRegistry :=
  finishWith registry id (statusForStop stop)

def publishFailed (registry : TaskRegistry) (id : TaskId) (reason : String) :
    Except BridgeError Unit × TaskRegistry :=
  finishWith registry id (failedStatus reason)

/-- What the loop does first, once. -/
def markWorking (registry : TaskRegistry) (id : TaskId) (firstSeen : Bool) :
    Except BridgeError TaskRegistry :=
  if firstSeen then
    .ok registry
  else
    match registry.transition id .working with
    | .error error => .error (.transition error)
    | .ok updated =>
        .ok (updated.onSink id (SseSink.publishEvent (workingEvent id)))

/-- The loop over the parts of one chunk; the result is `artifact_seen`. -/
def answerParts (id : TaskId) :
    List Part → Bool → TaskRegistry →
      Except BridgeError Bool × TaskRegistry
  | [], artifactSeen, registry => (.ok artifactSeen, registry)
  | part :: rest, artifactSeen, registry =>
      match registry.upsertArtifact id (answerArtifact part) with
      | .error error => (.error (.transition error), registry)
      | .ok (_, updated) =>
          answerParts id rest true
            (updated.onSink id
              (SseSink.publishEvent
                (.artifact id (answerArtifact part) artifactSeen)))

variable (json : SerdeJson)

/-- The loop over the stream, and what follows it. -/
def pump (id : TaskId) :
    Bool → Bool → List StreamItem → TaskRegistry →
      Except BridgeError Unit × TaskRegistry
  | _, _, [], registry =>
      publishFailed registry id
        "agent stream ended without terminal stop reason"
  | firstSeen, artifactSeen, item :: rest, registry =>
      match markWorking registry id firstSeen with
      | .error error => (.error error, registry)
      | .ok marked =>
          match item with
          | .ok (.update (.agentMessageChunk content)) =>
              match answerParts id (Translate.acpToA2a json [content])
                  artifactSeen marked with
              | (.error error, updated) => (.error error, updated)
              | (.ok seen, updated) => pump id true seen rest updated
          | .ok (.update .other) => pump id true artifactSeen rest marked
          | .ok (.terminal reason) => publishTerminalForStop marked id reason
          | .error error =>
              publishFailed marked id ("agent error: " ++ error.text)

def runSession (registry : TaskRegistry) (id : TaskId)
    (stream : List StreamItem) : Except BridgeError Unit × TaskRegistry :=
  match registry.sink id with
  | none => (.error .notFound, registry)
  | some _ => pump json id false false stream registry

/-! ## The call -/

/-- Where a call stands.  At `next`, `recordWorking` and `recordFinal` it
awaits something other than a lock. -/
inductive Pc where
  | start
  | next
  | markWorking (item : StreamItem)
  | recordWorking (item : StreamItem)
  | publishWorking (item : StreamItem)
  | answer (parts : List Part)
  | publishArtifact (part : Part) (append : Bool) (rest : List Part)
  | finish (status : TaskStatus)
  | recordFinal (status : TaskStatus)
  | publishFinal (status : TaskStatus)
  | returned (result : Except BridgeError Unit)
  deriving DecidableEq, Repr

structure Call where
  taskId : TaskId
  firstSeen : Bool
  artifactSeen : Bool
  pc : Pc
  deriving DecidableEq, Repr

def Call.begin (taskId : TaskId) : Call :=
  { taskId, firstSeen := false, artifactSeen := false, pc := .start }

/-- The `match` on an item, after the first-event check. -/
def onItem : StreamItem → Pc
  | .ok (.update (.agentMessageChunk content)) =>
      .answer (Translate.acpToA2a json [content])
  | .ok (.update .other) => .next
  | .ok (.terminal reason) => .finish (statusForStop reason)
  | .error error => .finish (errorStatus error)

/-- `poll` is the stream's answer to `next`: an item, or its end. -/
inductive Action where
  | poll (polled : Option StreamItem)
  | work
  deriving DecidableEq, Repr

def Call.polled (call : Call) : Option StreamItem → Call
  | none => { call with pc := .finish endedStatus }
  | some item =>
      if call.firstSeen then
        { call with pc := onItem json item }
      else
        { call with firstSeen := true, pc := .markWorking item }

def Call.work (call : Call) (registry : TaskRegistry) :
    Option (Call × TaskRegistry) :=
  let id := call.taskId
  match call.pc with
  | .start =>
      match registry.sink id with
      | none => some ({ call with pc := .returned (.error .notFound) }, registry)
      | some _ => some ({ call with pc := .next }, registry)
  | .next => none
  | .markWorking item =>
      match registry.transition id .working with
      | .error error =>
          some ({ call with pc := .returned (.error (.transition error)) },
            registry)
      | .ok updated => some ({ call with pc := .recordWorking item }, updated)
  | .recordWorking item =>
      some ({ call with pc := .publishWorking item }, registry)
  | .publishWorking item =>
      some ({ call with pc := onItem json item },
        registry.onSink id (SseSink.publishEvent (workingEvent id)))
  | .answer [] => some ({ call with pc := .next }, registry)
  | .answer (part :: rest) =>
      match registry.upsertArtifact id (answerArtifact part) with
      | .error error =>
          some
            ({ call with
                artifactSeen := true
                pc := .returned (.error (.transition error)) },
              registry)
      | .ok (_, updated) =>
          some
            ({ call with
                artifactSeen := true
                pc := .publishArtifact part call.artifactSeen rest },
              updated)
  | .publishArtifact part append rest =>
      some ({ call with pc := .answer rest },
        registry.onSink id
          (SseSink.publishEvent (.artifact id (answerArtifact part) append)))
  | .finish status =>
      match registry.transition id status.state with
      | .error error =>
          some ({ call with pc := .returned (.error (.transition error)) },
            registry)
      | .ok updated => some ({ call with pc := .recordFinal status }, updated)
  | .recordFinal status =>
      some ({ call with pc := .publishFinal status }, registry)
  | .publishFinal status =>
      some ({ call with pc := .returned (.ok ()) },
        registry.onSink id (SseSink.publishFinal (.status id status true)))
  | .returned _ => none

def step : Action → Call × TaskRegistry → Option (Call × TaskRegistry)
  | .poll item, (call, registry) =>
      if call.pc = .next then some (call.polled json item, registry) else none
  | .work, (call, registry) => call.work json registry

/-! ## A call on its own -/

open Machine

/-- What the call has polled. -/
def polls : List Action → List (Option StreamItem) :=
  List.filterMap fun action =>
    match action with
    | .poll polled => some polled
    | .work => none

/-- The steps of one call lead from `source` to `target`, polling `polled`. -/
def Reaches (source : Call × TaskRegistry) (polled : List (Option StreamItem))
    (target : Call × TaskRegistry) : Prop :=
  ∃ trace, exec (step json) trace source = some target ∧ polls trace = polled

variable {json}

theorem Reaches.refl (state : Call × TaskRegistry) :
    Reaches json state [] state :=
  ⟨[], rfl, rfl⟩

theorem Reaches.trans
    {source middle target : Call × TaskRegistry}
    {first second : List (Option StreamItem)}
    (before : Reaches json source first middle)
    (after : Reaches json middle second target) :
    Reaches json source (first ++ second) target := by
  rcases before with ⟨trace, executed, rfl⟩
  rcases after with ⟨rest, remaining, rfl⟩
  refine ⟨trace ++ rest, ?_, by simp [polls]⟩
  rw [exec_append, executed]
  exact remaining

theorem Reaches.work
    {call next : Call} {registry updated : TaskRegistry}
    {polled : List (Option StreamItem)} {target : Call × TaskRegistry}
    (taken : call.work json registry = some (next, updated))
    (after : Reaches json (next, updated) polled target) :
    Reaches json (call, registry) polled target := by
  rcases after with ⟨rest, remaining, rfl⟩
  refine ⟨.work :: rest, ?_, by simp [polls]⟩
  simp only [exec, step, taken]
  exact remaining

theorem Reaches.poll
    {call : Call} {registry : TaskRegistry} {item : Option StreamItem}
    {polled : List (Option StreamItem)} {target : Call × TaskRegistry}
    (atNext : call.pc = .next)
    (after : Reaches json (call.polled json item, registry) polled target) :
    Reaches json (call, registry) (item :: polled) target := by
  rcases after with ⟨rest, remaining, rfl⟩
  refine ⟨.poll item :: rest, ?_, by simp [polls]⟩
  simp only [exec, step, atNext]
  exact remaining

/-- The call returns what `outcome` says, and leaves its registry. -/
def Finishes (json : SerdeJson) (source : Call × TaskRegistry)
    (polled : List (Option StreamItem))
    (outcome : Except BridgeError Unit × TaskRegistry) : Prop :=
  ∃ last,
    Reaches json source polled (last, outcome.2) ∧
      last.pc = .returned outcome.1

variable (json) in
theorem finish_alone
    (call : Call) (registry : TaskRegistry) (status : TaskStatus) :
    Finishes json ({ call with pc := .finish status }, registry) []
      (finishWith registry call.taskId status) := by
  unfold finishWith
  cases moved : registry.transition call.taskId status.state with
  | error error =>
      exact ⟨_, .work (by simp only [Call.work, moved]; rfl) (.refl _), rfl⟩
  | ok updated =>
      exact ⟨_, .work (by simp only [Call.work, moved]; rfl)
        (.work rfl (.work rfl (.refl _))), rfl⟩

variable (json) in
/-- The inner loop, to the next poll or to the error it ends with. -/
theorem answer_alone
    (call : Call) (parts : List Part) (registry : TaskRegistry) :
    (∀ seen updated,
        answerParts call.taskId parts call.artifactSeen registry =
            (.ok seen, updated) →
          Reaches json ({ call with pc := .answer parts }, registry) []
            ({ call with artifactSeen := seen, pc := .next }, updated)) ∧
      ∀ error updated,
        answerParts call.taskId parts call.artifactSeen registry =
            (.error error, updated) →
          Finishes json ({ call with pc := .answer parts }, registry) []
            (.error error, updated) := by
  induction parts generalizing call registry with
  | nil =>
      refine ⟨?_, by simp [answerParts]⟩
      intro seen updated completed
      cases completed
      exact .work rfl (.refl _)
  | cons part rest inductionHypothesis =>
      cases upserted : registry.upsertArtifact call.taskId
          (answerArtifact part) with
      | error error =>
          have stops : ∀ artifactSeen,
              answerParts call.taskId (part :: rest) artifactSeen registry =
                (.error (.transition error), registry) := by
            intro artifactSeen
            simp only [answerParts, upserted]
          refine ⟨?_, ?_⟩
          · intro seen updated completed
            rw [stops] at completed
            cases completed
          · intro other updated failed
            rw [stops] at failed
            cases failed
            exact ⟨_, .work (by simp only [Call.work, upserted]; rfl)
              (.refl _), rfl⟩
      | ok result =>
          rcases result with ⟨merged, stored⟩
          have continues :
              answerParts call.taskId (part :: rest) call.artifactSeen
                  registry =
                answerParts call.taskId rest true
                  (stored.onSink call.taskId
                    (SseSink.publishEvent
                      (.artifact call.taskId (answerArtifact part)
                        call.artifactSeen))) := by
            simp only [answerParts, upserted]
          have taken :
              Call.work json { call with pc := .answer (part :: rest) }
                  registry =
                some
                  ({ call with
                      artifactSeen := true
                      pc := .publishArtifact part call.artifactSeen rest },
                    stored) := by
            simp only [Call.work, upserted]
          obtain ⟨completes, fails⟩ :=
            inductionHypothesis { call with artifactSeen := true }
              (stored.onSink call.taskId
                (SseSink.publishEvent
                  (.artifact call.taskId (answerArtifact part)
                    call.artifactSeen)))
          rw [continues]
          refine ⟨?_, ?_⟩
          · intro seen updated completed
            exact .work taken (.work rfl (completes seen updated completed))
          · intro error updated failed
            obtain ⟨last, reaches, atReturn⟩ := fails error updated failed
            exact ⟨last, .work taken (.work rfl reaches), atReturn⟩

variable (json) in
/-- From the arrival of an item on: the `match`, then the rest of the loop. -/
theorem item_alone
    (call : Call) (item : StreamItem) (rest : List StreamItem)
    (registry : TaskRegistry)
    (inductionHypothesis : ∀ seen updated,
      ∃ polled, polled <+: rest.map some ++ [none] ∧
        Finishes json
          ({ call with firstSeen := true, artifactSeen := seen, pc := .next },
            updated)
          polled (pump json call.taskId true seen rest updated)) :
    ∃ polled, polled <+: rest.map some ++ [none] ∧
      Finishes json
        ({ call with firstSeen := true, pc := onItem json item }, registry)
        polled
        (pump json call.taskId true call.artifactSeen (item :: rest)
          registry) := by
  cases item with
  | error error =>
      exact ⟨[], List.nil_prefix,
        finish_alone json { call with firstSeen := true } registry
          (errorStatus error)⟩
  | ok event =>
      cases event with
      | terminal reason =>
          exact ⟨[], List.nil_prefix,
            finish_alone json { call with firstSeen := true } registry
              (statusForStop reason)⟩
      | update update =>
          cases update with
          | other => exact inductionHypothesis call.artifactSeen registry
          | agentMessageChunk content =>
              obtain ⟨completes, fails⟩ :=
                answer_alone json { call with firstSeen := true }
                  (Translate.acpToA2a json [content]) registry
              cases answered : answerParts call.taskId
                  (Translate.acpToA2a json [content]) call.artifactSeen
                  registry with
              | mk result updated =>
                  cases result with
                  | error error =>
                      refine ⟨[], List.nil_prefix, ?_⟩
                      simp only [pump, markWorking, if_true, answered]
                      exact fails error updated answered
                  | ok seen =>
                      obtain ⟨polled, fromStream, last, reaches, atReturn⟩ :=
                        inductionHypothesis seen updated
                      have through := completes seen updated answered
                      refine ⟨polled, fromStream, last, ?_, ?_⟩
                      · simp only [pump, markWorking, if_true, answered]
                        exact through.trans reaches
                      · simp only [pump, markWorking, if_true, answered]
                        exact atReturn

variable (json) in
theorem pump_alone
    (call : Call) (stream : List StreamItem) (registry : TaskRegistry) :
    ∃ polled, polled <+: stream.map some ++ [none] ∧
      Finishes json ({ call with pc := .next }, registry) polled
        (pump json call.taskId call.firstSeen call.artifactSeen stream
          registry) := by
  induction stream generalizing call registry with
  | nil =>
      obtain ⟨last, reaches, atReturn⟩ :=
        finish_alone json call registry endedStatus
      exact ⟨[none], List.prefix_rfl, last, .poll rfl reaches, atReturn⟩
  | cons item rest inductionHypothesis =>
      have pumpsOn := item_alone json call item rest
      by_cases seenBefore : call.firstSeen = true
      · obtain ⟨polled, fromStream, last, reaches, atReturn⟩ :=
          pumpsOn registry fun seen updated =>
            inductionHypothesis
              { call with firstSeen := true, artifactSeen := seen } updated
        refine ⟨some item :: polled, ?_, last, .poll rfl ?_, ?_⟩
        · simpa using fromStream
        · rw [seenBefore]
          simpa only [Call.polled, seenBefore, if_true] using reaches
        · rw [seenBefore]
          exact atReturn
      · have polledFirst :
            Call.polled json { call with pc := .next } (some item) =
              { call with firstSeen := true, pc := .markWorking item } := by
          simp [Call.polled, seenBefore]
        cases moved : registry.transition call.taskId .working with
        | error error =>
            have stops :
                pump json call.taskId call.firstSeen call.artifactSeen
                    (item :: rest) registry =
                  (.error (.transition error), registry) := by
              simp only [pump, markWorking, seenBefore, moved]
              rfl
            rw [stops]
            refine ⟨[some item], by simp,
              { call with
                firstSeen := true
                pc := .returned (.error (.transition error)) },
              .poll rfl ?_, rfl⟩
            rw [polledFirst]
            exact .work (by simp only [Call.work, moved]) (.refl _)
        | ok marked =>
            obtain ⟨polled, fromStream, last, reaches, atReturn⟩ :=
              pumpsOn
                (marked.onSink call.taskId
                  (SseSink.publishEvent (workingEvent call.taskId)))
                fun seen updated =>
                  inductionHypothesis
                    { call with firstSeen := true, artifactSeen := seen }
                    updated
            have begins :
                pump json call.taskId call.firstSeen call.artifactSeen
                    (item :: rest) registry =
                  pump json call.taskId true call.artifactSeen (item :: rest)
                    (marked.onSink call.taskId
                      (SseSink.publishEvent (workingEvent call.taskId))) := by
              simp only [pump, markWorking, seenBefore, moved, if_true]
              rfl
            rw [begins]
            refine ⟨some item :: polled, by simpa using fromStream, last,
              .poll rfl ?_, atReturn⟩
            rw [polledFirst]
            exact .work (by simp only [Call.work, moved]; rfl)
              (.work rfl (.work rfl reaches))

/-- A call that no other step comes between computes `runSession`, and polls
no more of the stream than its items and its end. -/
theorem runSession_alone
    (registry : TaskRegistry) (id : TaskId) (stream : List StreamItem) :
    ∃ polled, polled <+: stream.map some ++ [none] ∧
      Finishes json (Call.begin id, registry) polled
        (runSession json registry id stream) := by
  unfold runSession
  cases found : registry.sink id with
  | none =>
      exact ⟨[], List.nil_prefix, _,
        .work (by simp only [Call.work, Call.begin, found]; rfl) (.refl _),
        rfl⟩
  | some sink =>
      obtain ⟨polled, fromStream, last, reaches, atReturn⟩ :=
        pump_alone json (Call.begin id) stream registry
      exact ⟨polled, fromStream, last,
        .work (by simp only [Call.work, Call.begin, found]) reaches,
        atReturn⟩

end Bridge

end A2AShim
