import A2AShim.Serve.AgentScript
import A2AShim.Serve.TaskStages

/-!
# One request at a time

The handlers are given twice: as functions that a request runs through on its
own, and as threads that others can come between.  A prompt request whose
thread takes all the steps, but for those of the driver and of the agent, ends
as the function says.

Each position of a thread has a function for the rest of the request, which is
given what the agent is going to say.  A step of the thread leaves the result
of that function as it is, if what the step finds is what the agent has said.
-/

namespace A2AShim

namespace Bridge

variable {json : SerdeJson} {call next : Call}
variable {registry updated : TaskRegistry} {stream : List StreamItem}

variable (json) in
/-- What `runSession` does from the position of the call on. -/
def resume (call : Call) (stream : List StreamItem)
    (registry : TaskRegistry) : Except BridgeError Unit × TaskRegistry :=
  let id := call.taskId
  match call.pc with
  | .start =>
      match registry.sink id with
      | none => (.error .notFound, registry)
      | some _ =>
          pump json id call.firstSeen call.artifactSeen stream registry
  | .next => pump json id call.firstSeen call.artifactSeen stream registry
  | .markWorking item =>
      pump json id false call.artifactSeen (item :: stream) registry
  | .recordWorking item | .publishWorking item =>
      pump json id true call.artifactSeen (item :: stream)
        (registry.onSink id (SseSink.publishEvent (workingEvent id)))
  | .answer parts =>
      match answerParts id parts call.artifactSeen registry with
      | (.error error, updated) => (.error error, updated)
      | (.ok seen, updated) => pump json id true seen stream updated
  | .publishArtifact part append rest =>
      match answerParts id rest call.artifactSeen
          (registry.onSink id
            (SseSink.publishEvent
              (.artifact id (answerArtifact part) append))) with
      | (.error error, updated) => (.error error, updated)
      | (.ok seen, updated) => pump json id true seen stream updated
  | .finish status => finishWith registry id status
  | .recordFinal status | .publishFinal status =>
      (.ok (),
        registry.onSink id (SseSink.publishFinal (.status id status true)))
  | .returned result => (result, registry)

/-- The first event has been seen wherever an item is at hand. -/
def InLoop (call : Call) : Prop :=
  match call.pc with
  | .markWorking _ | .recordWorking _ | .publishWorking _ | .answer _
  | .publishArtifact _ _ _ => call.firstSeen = true
  | _ => True

theorem resume_begin (registry : TaskRegistry) (id : TaskId) :
    resume json (.begin id) stream registry =
      runSession json registry id stream :=
  rfl

/-- The `match` on an item. -/
theorem resume_onItem
    (call : Call) (item : StreamItem) (stream : List StreamItem)
    (registry : TaskRegistry) :
    InLoop { call with firstSeen := true, pc := onItem json item } ∧
      resume json { call with firstSeen := true, pc := onItem json item }
          stream registry =
        pump json call.taskId true call.artifactSeen (item :: stream)
          registry := by
  cases item with
  | error error => exact ⟨trivial, rfl⟩
  | ok event =>
      cases event with
      | terminal reason => exact ⟨trivial, rfl⟩
      | update update =>
          cases update with
          | agentMessageChunk content => exact ⟨rfl, rfl⟩
          | other => exact ⟨trivial, rfl⟩

variable (json stream registry) in
theorem resume_polled
    (atNext : call.pc = .next) (item : StreamItem) :
    InLoop (call.polled json (some item)) ∧
      resume json (call.polled json (some item)) stream registry =
        resume json call (item :: stream) registry := by
  obtain ⟨id, firstSeen, artifactSeen, pc⟩ := call
  cases atNext
  cases firstSeen with
  | true =>
      exact resume_onItem ⟨id, true, artifactSeen, .next⟩ item stream registry
  | false => exact ⟨rfl, rfl⟩

variable (json stream registry) in
theorem resume_polled_none (atNext : call.pc = .next) :
    InLoop (call.polled json none) ∧
      resume json (call.polled json none) stream registry =
        resume json call [] registry := by
  obtain ⟨id, firstSeen, artifactSeen, pc⟩ := call
  cases atNext
  exact ⟨trivial, rfl⟩

theorem resume_answer
    {id : TaskId} {artifactSeen : Bool} {parts : List Part}
    (taken : Call.work json ⟨id, true, artifactSeen, .answer parts⟩ registry =
      some (next, updated)) :
    InLoop next ∧
      resume json next stream updated =
        resume json ⟨id, true, artifactSeen, .answer parts⟩ stream
          registry := by
  cases parts with
  | nil =>
      cases taken
      exact ⟨trivial, rfl⟩
  | cons part rest =>
      simp only [Call.work] at taken
      cases upserted : registry.upsertArtifact id (answerArtifact part) with
      | error error =>
          rw [upserted] at taken
          cases taken
          refine ⟨trivial, ?_⟩
          simp only [resume, answerParts, upserted]
      | ok stored =>
          rw [upserted] at taken
          cases taken
          refine ⟨rfl, ?_⟩
          simp only [resume, answerParts, upserted]

variable (stream) in
/-- One step of a call leaves what is to come of it as it is. -/
theorem resume_work
    (inLoop : InLoop call)
    (taken : call.work json registry = some (next, updated)) :
    InLoop next ∧
      resume json next stream updated = resume json call stream registry := by
  obtain ⟨id, firstSeen, artifactSeen, pc⟩ := call
  cases pc with
  | start =>
      simp only [Call.work] at taken
      cases found : registry.sink id with
      | none =>
          rw [found] at taken
          cases taken
          refine ⟨trivial, ?_⟩
          simp only [resume, found]
      | some sink =>
          rw [found] at taken
          cases taken
          refine ⟨trivial, ?_⟩
          simp only [resume, found]
  | next => cases taken
  | markWorking item =>
      simp only [Call.work] at taken
      have seen : firstSeen = true := inLoop
      cases moved : registry.transition id .working with
      | error error =>
          rw [moved] at taken
          cases taken
          refine ⟨trivial, ?_⟩
          simp [resume, pump, markWorking, moved]
      | ok marked =>
          rw [moved] at taken
          cases taken
          refine ⟨seen, ?_⟩
          simp [resume, pump, markWorking, moved]
  | recordWorking item =>
      cases taken
      exact ⟨inLoop, rfl⟩
  | publishWorking item =>
      have seen : firstSeen = true := inLoop
      subst seen
      cases taken
      exact resume_onItem ⟨id, true, artifactSeen, .next⟩ item stream _
  | answer parts =>
      have seen : firstSeen = true := inLoop
      subst seen
      exact resume_answer taken
  | publishArtifact part append rest =>
      cases taken
      exact ⟨inLoop, rfl⟩
  | finish status =>
      simp only [Call.work] at taken
      cases moved : registry.transition id status.state with
      | error error =>
          rw [moved] at taken
          cases taken
          refine ⟨trivial, ?_⟩
          simp only [resume, finishWith, moved]
      | ok decided =>
          rw [moved] at taken
          cases taken
          refine ⟨trivial, ?_⟩
          simp only [resume, finishWith, moved]
  | recordFinal status =>
      cases taken
      exact ⟨trivial, rfl⟩
  | publishFinal status =>
      cases taken
      exact ⟨trivial, rfl⟩
  | returned result => cases taken

end Bridge

/-! ## The rest of a request -/

/-- What the agent answers: to `session/new`, and to the prompt. -/
structure Script where
  spawned : Except String SessionId
  prompted : Except AcpError (List StreamItem)
  deriving DecidableEq

namespace Script

def stream (script : Script) : List StreamItem :=
  match script.prompted with
  | .ok stream => stream
  | .error _ => []

/-- What is left of the script when so many items have been read. -/
def unread (script : Script) (taken : Nat) : Script :=
  { script with prompted := script.prompted.map (List.drop taken) }

/-- What `session_new` returns for the agent's answer, or without one. -/
def spawnedWith : Option Answer → Except String SessionId
  | some (.session session) => .ok session
  | some (.failed text) => .error (AcpError.agent text).text
  | _ => .error AcpError.driverGone.text

/-- What was taken down; the prompt call fails where it finds the driver
gone. -/
def of (client : AcpClient) (name : Nat) (heard : Heard) : Script :=
  { spawned := spawnedWith heard.spawned
    prompted :=
      if client.statusOf name = some .failed then
        .error .driverGone
      else
        .ok heard.items }

end Script

namespace Http

def surroundings (name : HolderId) (env : Env) (script : Script) :
    Surroundings :=
  { now := env.now
    holder := name
    sessionNew := script.spawned
    newTaskId := env.taskId
    rowInserted := true
    taskRecorded := true
    prompted := script.prompted
    turnRows := id }

variable (json : SerdeJson)

/-- `SendMessage`, after the bridge. -/
def snapshotted (state : ServeState) (guarded : ConversationRef)
    (taskId : TaskId) (env : Surroundings) :
    Except JsonRpcError (Option Task) × ServeState :=
  match state.tasks.snapshot taskId with
  | none =>
      (.error (internalError "task vanished mid-prompt"),
        dropGuard state guarded)
  | some snap =>
      let done :=
        if snap.status.state.isTerminal then
          enqueuePushForTerminal state snap env
        else
          state
      (.ok (some snap), dropGuard done guarded)

/-- What the result of the bridge is to the two methods. -/
def settle (method : Method) (state : ServeState) (guarded : ConversationRef)
    (taskId : TaskId) (env : Surroundings)
    (turn : Except Bridge.BridgeError Unit × TaskRegistry) :
    Except JsonRpcError (Option Task) × ServeState :=
  let driven :=
    { state with tasks := turn.2, rows := state.rows.map env.turnRows }
  match method, turn.1 with
  | .send, .error error =>
      (.error (internalError ("bridge: " ++ bridgeErrorText error)),
        dropGuard driven guarded)
  | .send, .ok () => snapshotted driven guarded taskId env
  | .stream, _ => (.ok none, dropGuard driven guarded)

/-- The bridge has returned, and its changes are in the state. -/
theorem settle_done
    {state : ServeState} (method : Method) (guarded : ConversationRef)
    (taskId : TaskId) (env : Surroundings)
    (result : Except Bridge.BridgeError Unit) (noRows : state.rows = none) :
    settle method state guarded taskId env (result, state.tasks) =
      match method, result with
      | .send, .error error =>
          (.error (internalError ("bridge: " ++ bridgeErrorText error)),
            dropGuard state guarded)
      | .send, .ok () => snapshotted state guarded taskId env
      | .stream, _ => (.ok none, dropGuard state guarded) := by
  obtain ⟨cfg, acp, sessions, conversations, tasks, rows, configs, jobs⟩ :=
    state
  cases noRows
  rfl

/-- The Task is there when the stream of its events is asked for. -/
def fetched (state : ServeState) (guarded : ConversationRef)
    (taskId : TaskId) (env : Surroundings) (stream : List StreamItem) :
    Except JsonRpcError (Option Task) × ServeState :=
  match state.tasks.sink taskId with
  | none =>
      (.error (internalError "task vanished before sink fetch"),
        dropGuard state guarded)
  | some _ =>
      settle .stream state guarded taskId env
        (Bridge.runSession json state.tasks taskId stream)

/-- The two methods, from the prompt on. -/
def complete (method : Method) (env : Surroundings) :
    Except JsonRpcError Begun × ServeState →
      Except JsonRpcError (Option Task) × ServeState
  | (.error error, after) => (.error error, after)
  | (.ok begun, prompted) =>
      match method with
      | .send =>
          settle .send prompted begun.guarded begun.taskId env
            (Bridge.runSession json prompted.tasks begun.taskId begun.stream)
      | .stream =>
          fetched json prompted begun.guarded begun.taskId env begun.stream

/-- A whole request, with the bridge task of `SendStreamingMessage`. -/
def handle (method : Method) (state : ServeState) (params : Value)
    (header : Option String) (env : Surroundings) :
    Except JsonRpcError (Option Task) × ServeState :=
  complete json method env
    (beginPrompt json state params
      (headerCaller state.cfg.callerIdentity header) env)

theorem handle_send
    (state : ServeState) (params : Value) (header : Option String)
    (env : Surroundings) :
    handle json .send state params header env =
      ((handleMessageSend json state params header env).1.map some,
        (handleMessageSend json state params header env).2) := by
  unfold handle handleMessageSend complete
  rcases beginPrompt json state params
    (headerCaller state.cfg.callerIdentity header) env with
    ⟨error | begun, prompted⟩
  · rfl
  · simp only [settle, snapshotted]
    cases (Bridge.runSession json prompted.tasks begun.taskId begun.stream).1
    · rfl
    · simp only
      cases (Bridge.runSession json prompted.tasks begun.taskId
        begun.stream).2.snapshot begun.taskId <;> rfl

theorem handle_stream
    (state : ServeState) (params : Value) (header : Option String)
    (env : Surroundings) :
    handle json .stream state params header env =
      match preparePrompt json state params header env with
      | (.error error, after) => (.error error, after)
      | (.ok (begun, _), prompted) =>
          settle .stream prompted begun.guarded begun.taskId env
            (Bridge.runSession json prompted.tasks begun.taskId
              begun.stream) := by
  unfold handle preparePrompt complete
  rcases beginPrompt json state params
    (headerCaller state.cfg.callerIdentity header) env with
    ⟨error | begun, prompted⟩
  · rfl
  · simp only [fetched]
    cases prompted.tasks.sink begun.taskId with
    | none => rfl
    | some sink => rfl

/-! ## From each position on -/

/-- The prompt is sent. -/
def prompting (state : ServeState) (guarded : ConversationRef)
    (taskId : TaskId) (session : SessionId) (content : List ContentBlock)
    (env : Surroundings) : Except JsonRpcError Begun × ServeState :=
  match env.prompted with
  | .error error =>
      (.error (internalError ("session/prompt failed: " ++ error.text)),
        dropGuard state guarded)
  | .ok stream => (.ok { taskId, guarded, session, content, stream }, state)

/-- The Task is there. -/
def dispatching (state : ServeState) (request : PromptRequest)
    (guarded : ConversationRef) (taskId : TaskId) (session : SessionId)
    (env : Surroundings) : Except JsonRpcError Begun × ServeState :=
  match Translate.validateParts json request.parsed.message.parts
      state.cfg.maxPartBytes with
  | .error error =>
      (.error (invalidParams error.text), dropGuard state guarded)
  | .ok () =>
      prompting state guarded taskId session
        (Translate.a2aToAcp json request.parsed.message.parts PartCaps.none)
        env

/-- A conversation is there, with this session. -/
def acquiring (state : ServeState) (request : PromptRequest)
    (session : SessionId) (env : Surroundings) :
    Except JsonRpcError Begun × ServeState :=
  match state.conversations.acquireInFlight request.key env.holder with
  | .error error => (.error (mapAcquireError error), state)
  | .ok (guarded, map) =>
      sendParts json { state with conversations := map } request guarded
        session env

/-- The conversation is looked up. -/
def opening (state : ServeState) (request : PromptRequest)
    (env : Surroundings) : Except JsonRpcError Begun × ServeState :=
  match openConversation state request env with
  | (.error error, opened) => (.error (mapNewError error), opened)
  | (.ok ref, opened) =>
      acquiring json opened request
        (((opened.conversations.objects ref).map
          Conversation.acpSessionId).getD "") env

theorem beginPrompt_eq
    {state : ServeState} {params : Value} {header : Option String}
    {request : PromptRequest} (env : Surroundings)
    (parsed : parseRequest json state.cfg params header = .ok request)
    (connected : state.acp = true) :
    beginPrompt json state params header env =
      match checkConversationMode state.conversations params request.key with
      | .error error => (.error error, state)
      | .ok () => opening json state request env := by
  unfold beginPrompt
  rw [parsed]
  simp only [connected]
  rfl

theorem enterTask_cfg
    (state : ServeState) (request : PromptRequest) (session : SessionId)
    (env : Surroundings) :
    (enterTask state request session env).2.cfg = state.cfg := by
  unfold enterTask
  split
  · split <;> rfl
  · rfl

theorem sendParts_eq
    (state : ServeState) (request : PromptRequest)
    (guarded : ConversationRef) (session : SessionId) (env : Surroundings) :
    sendParts json state request guarded session env =
      match enterTask state request session env with
      | (.error error, entered) => (.error error, dropGuard entered guarded)
      | (.ok taskId, entered) =>
          dispatching json entered request guarded taskId session env := by
  have sameCfg := enterTask_cfg state request session env
  unfold sendParts dispatching prompting
  cases isEntered : enterTask state request session env with
  | mk result entered =>
      rw [isEntered] at sameCfg
      cases result with
      | error error => rfl
      | ok taskId =>
          dsimp only at sameCfg ⊢
          cases checked : Translate.validateParts json
              request.parsed.message.parts state.cfg.maxPartBytes with
          | error error => simp only [sameCfg, checked]
          | ok => cases env.prompted <;> simp only [sameCfg, checked]

/-- The conversation that `session/new` has made. -/
def spawned (state : ServeState) (request : PromptRequest)
    (session : SessionId) (env : Surroundings) : ServeState :=
  { state with
    conversations :=
      state.conversations.insert request.key session env.now
    sessions := state.sessions ++ [session] }

end Http

/-- What the functions make of a request from a position of its thread on. -/
def Handler.rest (json : SerdeJson) (handler : Handler) (name : Nat)
    (env : Env) (script : Script) (state : ServeState) :
    Except JsonRpcError (Option Task) × ServeState :=
  let around := Http.surroundings name env script
  let complete := Http.complete json handler.method around
  let request := handler.request
  match handler.pc with
  | .checkMode =>
      complete
        (match Http.checkConversationMode state.conversations handler.params
            request.key with
        | .error error => (.error error, state)
        | .ok () => Http.opening json state request around)
  | .lookUp | .create => complete (Http.opening json state request around)
  | .spawning =>
      complete
        (match script.spawned with
        | .error text => (.error (Http.mapNewError (.spawn text)), state)
        | .ok session =>
            Http.acquiring json (Http.spawned state request session around)
              request session around)
  | .insertRow session | .findGuard session =>
      complete (Http.acquiring json state request session around)
  | .lockGuard session found =>
      complete
        (match state.conversations.tryLock found name with
        | none => (.error (Http.mapAcquireError .busy), state)
        | some locked =>
            Http.sendParts json { state with conversations := locked } request
              found session around)
  | .enter session guarded =>
      complete (Http.sendParts json state request guarded session around)
  | .record session guarded taskId | .dispatch session guarded taskId =>
      complete
        (Http.dispatching json state request guarded taskId session around)
  | .sendPrompt guarded taskId =>
      complete (Http.prompting state guarded taskId "" [] around)
  | .fetchSink guarded taskId =>
      Http.fetched json state guarded taskId around script.stream
  | .bridging guarded call =>
      Http.settle handler.method state guarded call.taskId around
        (Bridge.resume json call script.stream state.tasks)
  | .snapshot guarded taskId =>
      Http.snapshotted state guarded taskId around
  | .push guarded snap =>
      (.ok (some snap),
        Http.dropGuard (Http.enqueuePushForTerminal state snap around) guarded)
  | .returned answer => (answer, state)
  | .dropped => (.ok none, state)

/-- The functions' state is that of the threads. -/
structure Matches (cfg : ServeConfig) (state : ServeState)
    (shared : Shared) : Prop where
  cfg : state.cfg = cfg
  connected : state.acp = true
  conversations : state.conversations = shared.conversations
  tasks : state.tasks = shared.tasks
  rows : state.rows = none
  configs : state.pushRegistry = shared.configs
  jobs : state.pushTx = some shared.jobs

/-- The clients of the agent and of the lock are not the functions'. -/
theorem Matches.of_same
    {cfg : ServeConfig} {state : ServeState} {shared after : Shared}
    (same : Matches cfg state shared)
    (conversations : after.conversations = shared.conversations)
    (tasks : after.tasks = shared.tasks)
    (configs : after.configs = shared.configs)
    (jobs : after.jobs = shared.jobs) : Matches cfg state after where
  cfg := same.cfg
  connected := same.connected
  conversations := same.conversations.trans conversations.symm
  tasks := same.tasks.trans tasks.symm
  rows := same.rows
  configs := same.configs.trans configs.symm
  jobs := same.jobs.trans (congrArg some jobs.symm)

namespace Handler

variable {json : SerdeJson} {cfg : ServeConfig} {name : Nat} {env : Env}
variable {handler : Handler} {pc : HandlerPc} {state : ServeState}
variable {shared after : Shared}

/-- What holds at a position beside the state. -/
def Ready (handler : Handler) : Prop :=
  match handler.pc with
  | .fetchSink _ _ => handler.method = .stream
  | .bridging _ call => Bridge.InLoop call
  | _ => True

/-- The script before a step that finds this of the agent, if it is `script`
after it. -/
def earlier (handler : Handler) (name : Nat) (shared : Shared)
    (script : Script) : Script :=
  match handler.pc with
  | .spawning =>
      { script with spawned := Script.spawnedWith (shared.acp.replies name) }
  | .sendPrompt _ _ =>
      { script with
        prompted :=
          if shared.acp.driver = .gone then .error .driverGone
          else .ok script.stream }
  | .bridging _ call =>
      if call.pc = .next then
        match shared.acp.pollNext name with
        | some (some item, _) =>
            { script with prompted := .ok (item :: script.stream) }
        | _ => { script with prompted := .ok [] }
      else
        script
  | _ => script

/-- The rest of the request is the same after a step. -/
def Continues (json : SerdeJson) (cfg : ServeConfig) (name : Nat) (env : Env)
    (handler : Handler) (state : ServeState) (shared : Shared)
    (pc : HandlerPc) (after : Shared) : Prop :=
  ∃ next, Matches cfg next after ∧ Ready { handler with pc } ∧
    ∀ script,
      ({ handler with pc } : Handler).rest json name env script next =
        handler.rest json name env (handler.earlier name shared script) state

theorem continues_fail
    {error : JsonRpcError} (same : Matches cfg state after)
    (isRest : ∀ script,
      handler.rest json name env (handler.earlier name shared script) state =
        (.error error, state)) :
    Continues json cfg name env handler state shared
      (.returned (.error error)) after :=
  ⟨state, same, trivial, fun script => (isRest script).symm⟩

variable (json) in
theorem opening_hit
    {ref : ConversationRef} (around : Surroundings)
    (found : state.conversations.get handler.request.key = some ref) :
    Http.opening json state handler.request around =
      Http.acquiring json
        { state with
          conversations := state.conversations.touch ref around.now }
        handler.request
        (((state.conversations.objects ref).map
          Conversation.acpSessionId).getD "") around := by
  have session :
      ((state.conversations.touch ref around.now).objects ref).map
          Conversation.acpSessionId =
        (state.conversations.objects ref).map Conversation.acpSessionId :=
    ConversationMap.touch_field _ (fun _ => rfl) ref
  simp only [Http.opening, Http.openConversation, ConversationMap.getOrCreate,
    found, session]

theorem opening_full
    (around : Surroundings)
    (absent : state.conversations.get handler.request.key = none)
    (full : state.conversations.isFull = true) :
    Http.opening json state handler.request around =
      (.error (Http.mapNewError .limitReached), state) := by
  simp only [Http.opening, Http.openConversation, ConversationMap.getOrCreate,
    absent, full, if_true]

theorem opening_miss
    (around : Surroundings) (noRows : state.rows = none)
    (absent : state.conversations.get handler.request.key = none)
    (room : state.conversations.isFull = false) :
    Http.opening json state handler.request around =
      match around.sessionNew with
      | .error text => (.error (Http.mapNewError (.spawn text)), state)
      | .ok session =>
          Http.acquiring json
            (Http.spawned state handler.request session around)
            handler.request session around := by
  simp only [Http.opening, Http.openConversation, ConversationMap.getOrCreate,
    absent, room]
  cases around.sessionNew with
  | error text => rfl
  | ok session =>
      have found : (state.conversations.insert handler.request.key session
          around.now).objects state.conversations.fresh =
            some { id := handler.request.key, acpSessionId := session
                   lastUsedAt := around.now, inFlight := none } :=
        Function.update_self _ _ _
      simp [found, noRows, Http.spawned]

/-- The key is looked up, with the read lock or the write lock. -/
theorem continues_hit
    {ref : ConversationRef} (same : Matches cfg state shared)
    (atLookUp : handler.pc = .lookUp ∨ handler.pc = .create)
    (found : shared.conversations.get handler.request.key = some ref) :
    Continues json cfg name env handler state shared
      (.findGuard
        (((shared.conversations.objects ref).map
          Conversation.acpSessionId).getD ""))
      { shared with
        conversations := shared.conversations.touch ref env.now } := by
  have isFound : state.conversations.get handler.request.key = some ref := by
    rw [same.conversations]
    exact found
  refine ⟨{ state with
    conversations := state.conversations.touch ref env.now }, ?_, trivial, ?_⟩
  · exact { same with
      conversations :=
        congrArg (fun map => ConversationMap.touch map ref env.now)
          same.conversations }
  · intro script
    have opened :=
      opening_hit json (Http.surroundings name env script) isFound
    rcases atLookUp with before | before
    · simp only [rest, earlier, before]
      rw [opened, same.conversations]
      rfl
    · simp only [rest, earlier, before]
      rw [opened, same.conversations]
      rfl

theorem continues_checkMode
    (same : Matches cfg state shared) (before : handler.pc = .checkMode)
    (taken : handler.open_ cfg name env shared = some (pc, after)) :
    Continues json cfg name env handler state shared pc after := by
  simp only [open_, before] at taken
  split at taken
  · cases taken
  · cases checked : Http.checkConversationMode shared.conversations
      handler.params handler.request.key with
    | error error =>
        rw [checked] at taken
        cases taken
        apply continues_fail same
        intro script
        simp only [rest, earlier, before, same.conversations, checked]
        rfl
    | ok checkedOk =>
        rw [checked] at taken
        cases taken
        refine ⟨state, same, trivial, ?_⟩
        intro script
        simp only [rest, earlier, before, same.conversations, checked]

theorem continues_create
    (same : Matches cfg state shared) (before : handler.pc = .create)
    (taken : handler.open_ cfg name env shared = some (pc, after)) :
    Continues json cfg name env handler state shared pc after := by
  simp only [open_, before] at taken
  split at taken
  · cases taken
  · cases found : shared.conversations.get handler.request.key with
    | some ref =>
        rw [found] at taken
        cases taken
        exact continues_hit same (.inr before) found
    | none =>
        rw [found] at taken
        simp only at taken
        have absent : state.conversations.get handler.request.key = none := by
          rw [same.conversations]
          exact found
        split at taken
        · rename_i full
          cases taken
          apply continues_fail same
          intro script
          have isFull : state.conversations.isFull = true := by
            rw [same.conversations]
            exact full
          simp only [rest, earlier, before]
          rw [opening_full _ absent isFull]
          rfl
        · rename_i notFull
          obtain ⟨acp, _, moved⟩ := Option.map_eq_some_iff.mp taken
          cases moved
          refine ⟨state, same.of_same rfl rfl rfl rfl, trivial, ?_⟩
          intro script
          have room : state.conversations.isFull = false := by
            rw [same.conversations]
            simpa using notFull
          simp only [rest, earlier, before]
          rw [opening_miss _ same.rows absent room]
          rfl

theorem continues_spawning
    (same : Matches cfg state shared) (before : handler.pc = .spawning)
    (taken : handler.open_ cfg name env shared = some (pc, after)) :
    Continues json cfg name env handler state shared pc after := by
  have fails : ∀ text,
      Script.spawnedWith (shared.acp.replies name) = .error text →
        Continues json cfg name env handler state shared
          (.returned (.error (Http.mapNewError (.spawn text))))
          { shared with writer := none } := by
    intro text failed
    have free : Matches cfg state { shared with writer := none } :=
      same.of_same rfl rfl rfl rfl
    apply continues_fail free
    intro script
    simp only [rest, earlier, before, failed]
    rfl
  simp only [open_, before] at taken
  cases replied : shared.acp.replies name with
  | none =>
      rw [replied] at taken
      simp only at taken
      split at taken
      · cases taken
        exact fails _ (by rw [replied]; rfl)
      · cases taken
  | some reply =>
      rw [replied] at taken
      cases reply with
      | failed text =>
          cases taken
          exact fails _ (by rw [replied]; rfl)
      | session session =>
          cases taken
          refine ⟨Http.spawned state handler.request session
            (Http.surroundings name env ⟨.ok session, .ok []⟩), ?_, trivial,
              ?_⟩
          · exact { same with
              conversations :=
                congrArg
                  (fun map => ConversationMap.insert map handler.request.key
                    session env.now)
                  same.conversations }
          · intro script
            simp only [rest, earlier, before, replied]
            rfl
      | _ => cases taken

/-- Up to the guard. -/
theorem continues_open
    (same : Matches cfg state shared)
    (taken : handler.open_ cfg name env shared = some (pc, after)) :
    Continues json cfg name env handler state shared pc after := by
  cases before : handler.pc with
  | checkMode => exact continues_checkMode same before taken
  | lookUp =>
      simp only [open_, before] at taken
      split at taken
      · cases taken
      · cases found : shared.conversations.get handler.request.key with
        | some ref =>
            rw [found] at taken
            cases taken
            exact continues_hit same (.inl before) found
        | none =>
            rw [found] at taken
            cases taken
            refine ⟨state, same, trivial, ?_⟩
            intro script
            simp only [rest, earlier, before]
  | create => exact continues_create same before taken
  | spawning => exact continues_spawning same before taken
  | insertRow session =>
      simp only [open_, before] at taken
      cases taken
      refine ⟨state, same, trivial, ?_⟩
      intro script
      simp only [rest, earlier, before]
  | findGuard session =>
      simp only [open_, before] at taken
      split at taken
      · cases taken
      · cases found : shared.conversations.get handler.request.key with
        | none =>
            rw [found] at taken
            cases taken
            apply continues_fail same
            intro script
            simp only [rest, earlier, before, Http.acquiring,
              ConversationMap.acquireInFlight, same.conversations, found]
            rfl
        | some ref =>
            rw [found] at taken
            cases taken
            refine ⟨state, same, trivial, ?_⟩
            intro script
            simp only [rest, earlier, before, Http.acquiring,
              ConversationMap.acquireInFlight, same.conversations, found,
              Http.surroundings]
            cases shared.conversations.tryLock ref name <;> rfl
  | lockGuard session found =>
      simp only [open_, before] at taken
      cases isLocked : shared.conversations.tryLock found name with
      | none =>
          rw [isLocked] at taken
          cases taken
          apply continues_fail same
          intro script
          simp only [rest, earlier, before, same.conversations, isLocked]
          rfl
      | some locked =>
          rw [isLocked] at taken
          cases taken
          refine ⟨{ state with conversations := locked },
            { same with conversations := rfl }, trivial, ?_⟩
          intro script
          simp only [rest, earlier, before, same.conversations, isLocked]
  | _ =>
      simp only [open_, before] at taken
      cases taken

/-- An answer, and the guard is dropped. -/
theorem continues_finish
    {guarded : ConversationRef} {moved : Shared}
    {answer : Except JsonRpcError (Option Task)} {last : ServeState}
    (same : Matches cfg last moved)
    (isRest : ∀ script,
      handler.rest json name env (handler.earlier name shared script) state =
        (answer, Http.dropGuard last guarded)) :
    Continues json cfg name env handler state shared (.returned answer)
      (moved.release guarded) := by
  refine ⟨Http.dropGuard last guarded, ?_, trivial,
    fun script => (isRest script).symm⟩
  exact { same with
    conversations :=
      congrArg (fun map => ConversationMap.release map guarded)
        same.conversations }

theorem continues_enter
    {session : SessionId} {guarded : ConversationRef}
    (same : Matches cfg state shared)
    (before : handler.pc = .enter session guarded)
    (taken : handler.start json cfg name env shared = some (pc, after)) :
    Continues json cfg name env handler state shared pc after := by
  simp only [start, before] at taken
  cases isId : handler.request.parsed.id with
  | some existing =>
      rw [isId] at taken
      simp only at taken
      cases accepted : shared.tasks.acceptContinuation existing with
      | error error =>
          rw [accepted] at taken
          cases taken
          apply continues_finish same
          intro script
          simp only [rest, earlier, before, Http.sendParts_eq, Http.enterTask, isId,
            same.tasks, accepted]
          rfl
      | ok tasks =>
          rw [accepted] at taken
          cases taken
          refine ⟨{ state with tasks }, { same with tasks := rfl }, trivial,
            ?_⟩
          intro script
          simp only [rest, earlier, before, Http.sendParts_eq, Http.enterTask, isId,
            same.tasks, accepted]
  | none =>
      rw [isId] at taken
      simp only at taken
      cases isNew : shared.tasks.bindings env.taskId with
      | some binding =>
          rw [isNew] at taken
          cases taken
      | none =>
          rw [isNew] at taken
          cases taken
          refine ⟨{ state with
            tasks :=
              state.tasks.create env.taskId handler.request.key session },
            { same with
              tasks :=
                congrArg
                  (fun tasks => TaskRegistry.create tasks env.taskId
                    handler.request.key session)
                  same.tasks }, trivial, ?_⟩
          intro script
          simp only [rest, earlier, before, Http.sendParts_eq, Http.enterTask, isId,
            Http.surroundings, same.rows]
          rfl

theorem continues_sendPrompt
    {guarded : ConversationRef} {taskId : TaskId}
    (same : Matches cfg state shared)
    (before : handler.pc = .sendPrompt guarded taskId)
    (taken : handler.start json cfg name env shared = some (pc, after)) :
    Continues json cfg name env handler state shared pc after := by
  simp only [start, before] at taken
  obtain ⟨acp, _, moved⟩ := Option.bind_eq_some_iff.mp taken
  split at moved
  · rename_i gone
    cases moved
    have unsent : Matches cfg state { shared with acp } :=
      same.of_same rfl rfl rfl rfl
    apply continues_finish unsent
    intro script
    simp only [rest, earlier, before, if_pos gone]
    rfl
  · rename_i alive
    cases isMethod : handler.method with
    | send =>
        rw [isMethod] at moved
        cases moved
        refine ⟨state, same.of_same rfl rfl rfl rfl, trivial, ?_⟩
        intro script
        simp only [rest, earlier, before, isMethod, if_neg alive]
        rfl
    | stream =>
        rw [isMethod] at moved
        cases moved
        refine ⟨state, same.of_same rfl rfl rfl rfl, isMethod, ?_⟩
        intro script
        simp only [rest, earlier, before, isMethod, if_neg alive]
        rfl

theorem continues_fetchSink
    {guarded : ConversationRef} {taskId : TaskId}
    (same : Matches cfg state shared) (ready : Ready handler)
    (before : handler.pc = .fetchSink guarded taskId)
    (taken : handler.start json cfg name env shared = some (pc, after)) :
    Continues json cfg name env handler state shared pc after := by
  have isStream : handler.method = .stream := by
    simpa only [Ready, before] using ready
  simp only [start, before] at taken
  cases found : shared.tasks.sink taskId with
  | none =>
      rw [found] at taken
      cases taken
      apply continues_finish same
      intro script
      simp only [rest, before, Http.fetched, same.tasks, found]
  | some sink =>
      rw [found] at taken
      cases taken
      refine ⟨state, same, trivial, ?_⟩
      intro script
      simp only [rest, earlier, before, Http.fetched, same.tasks, found, isStream]
      rfl

/-- From the guard to the bridge. -/
theorem continues_start
    (same : Matches cfg state shared) (ready : Ready handler)
    (taken : handler.start json cfg name env shared = some (pc, after)) :
    Continues json cfg name env handler state shared pc after := by
  cases before : handler.pc with
  | enter session guarded => exact continues_enter same before taken
  | record session guarded taskId =>
      simp only [start, before] at taken
      cases taken
      refine ⟨state, same, trivial, ?_⟩
      intro script
      simp only [rest, earlier, before]
  | dispatch session guarded taskId =>
      simp only [start, before] at taken
      cases valid : Translate.validateParts json
          handler.request.parsed.message.parts cfg.maxPartBytes with
      | error error =>
          rw [valid] at taken
          cases taken
          apply continues_finish same
          intro script
          simp only [rest, earlier, before, Http.dispatching, same.cfg, valid]
          rfl
      | ok isValid =>
          rw [valid] at taken
          obtain ⟨acp, _, moved⟩ := Option.map_eq_some_iff.mp taken
          cases moved
          refine ⟨state, same.of_same rfl rfl rfl rfl, trivial, ?_⟩
          intro script
          simp only [rest, earlier, before, Http.dispatching, same.cfg, valid,
            Http.prompting, Http.surroundings]
          cases script.prompted <;> rfl
  | sendPrompt guarded taskId => exact continues_sendPrompt same before taken
  | fetchSink guarded taskId =>
      exact continues_fetchSink same ready before taken
  | _ =>
      simp only [start, before] at taken
      cases taken

/-- The next item of the stream, or its end. -/
theorem continues_poll
    {guarded : ConversationRef} {call : Bridge.Call}
    (same : Matches cfg state shared)
    (before : handler.pc = .bridging guarded call) (atNext : call.pc = .next)
    (taken : handler.bridge json name guarded call shared =
      some (pc, after)) :
    Continues json cfg name env handler state shared pc after := by
  simp only [bridge, atNext] at taken
  obtain ⟨⟨polled, acp⟩, isPolled, moved⟩ := Option.map_eq_some_iff.mp taken
  cases moved
  cases polled with
  | some item =>
      have resumed := fun stream =>
        Bridge.resume_polled json state.tasks stream atNext item
      refine ⟨state, same.of_same rfl rfl rfl rfl, (resumed []).1, ?_⟩
      intro script
      simp only [rest, earlier, before, if_pos atNext, isPolled,
        Bridge.polled_taskId, (resumed _).2]
      rfl
  | none =>
      have resumed := fun stream =>
        Bridge.resume_polled_none json state.tasks stream atNext
      refine ⟨state, same.of_same rfl rfl rfl rfl, (resumed []).1, ?_⟩
      intro script
      simp only [rest, earlier, before, if_pos atNext, isPolled,
        Bridge.polled_taskId, (resumed _).2]
      rfl

theorem continues_work
    {guarded : ConversationRef} {call next : Bridge.Call}
    {tasks : TaskRegistry}
    (same : Matches cfg state shared) (ready : Ready handler)
    (before : handler.pc = .bridging guarded call) (notNext : call.pc ≠ .next)
    (worked : call.work json shared.tasks = some (next, tasks)) :
    Continues json cfg name env handler state shared (.bridging guarded next)
      { shared with tasks } := by
  have inLoop : Bridge.InLoop call := by
    simpa only [Ready, before] using ready
  have resumed := fun stream =>
    Bridge.resume_work stream inLoop worked
  have sameTask : next.taskId = call.taskId := by
    cases Bridge.work_works worked <;> rfl
  refine ⟨{ state with tasks }, { same with tasks := rfl }, (resumed []).1, ?_⟩
  intro script
  simp only [rest, earlier, before, if_neg notNext, sameTask, (resumed _).2,
    same.tasks]
  rfl

/-- A step of the bridge call, or what is made of its result. -/
theorem continues_bridge
    {guarded : ConversationRef} {call : Bridge.Call}
    (same : Matches cfg state shared) (ready : Ready handler)
    (before : handler.pc = .bridging guarded call)
    (taken : handler.bridge json name guarded call shared =
      some (pc, after)) :
    Continues json cfg name env handler state shared pc after := by
  cases atPc : call.pc with
  | next => exact continues_poll same before atPc taken
  | returned result =>
      simp only [bridge, atPc] at taken
      cases isMethod : handler.method with
      | send =>
          rw [isMethod] at taken
          cases result with
          | error error =>
              cases taken
              apply continues_finish same
              intro script
              simp only [rest, earlier, before, Bridge.resume, atPc, isMethod]
              rw [Http.settle_done _ _ _ _ _ same.rows]
          | ok done =>
              cases taken
              refine ⟨state, same, trivial, ?_⟩
              intro script
              simp only [rest, earlier, before, Bridge.resume, atPc, isMethod]
              rw [Http.settle_done _ _ _ _ _ same.rows]
              rfl
      | stream =>
          rw [isMethod] at taken
          cases taken
          apply continues_finish same
          intro script
          simp only [rest, earlier, before, Bridge.resume, atPc, isMethod]
          rw [Http.settle_done _ _ _ _ _ same.rows]
  | _ =>
      simp only [bridge, atPc] at taken
      obtain ⟨⟨next, tasks⟩, worked, moved⟩ := Option.map_eq_some_iff.mp taken
      cases moved
      exact continues_work same ready before (by simp [atPc]) worked

theorem continues_snapshot
    {guarded : ConversationRef} {taskId : TaskId}
    (same : Matches cfg state shared)
    (before : handler.pc = .snapshot guarded taskId)
    (taken : handler.work json cfg name env shared = some (pc, after)) :
    Continues json cfg name env handler state shared pc after := by
  simp only [work, before] at taken
  cases found : shared.tasks.snapshot taskId with
  | none =>
      rw [found] at taken
      cases taken
      apply continues_finish same
      intro script
      simp only [rest, before, Http.snapshotted, same.tasks, found]
  | some snap =>
      rw [found] at taken
      simp only at taken
      split at taken
      · rename_i terminal
        cases taken
        refine ⟨state, same, trivial, ?_⟩
        intro script
        simp only [rest, earlier, before, Http.snapshotted, same.tasks, found]
        rw [if_pos terminal]
      · rename_i notTerminal
        cases taken
        apply continues_finish same
        intro script
        simp only [rest, earlier, before, Http.snapshotted, same.tasks, found]
        rw [if_neg notTerminal]

theorem continues_push
    {guarded : ConversationRef} {snap : Task}
    (same : Matches cfg state shared)
    (before : handler.pc = .push guarded snap)
    (taken : handler.work json cfg name env shared = some (pc, after)) :
    Continues json cfg name env handler state shared pc after := by
  simp only [work, before] at taken
  cases taken
  have pushed : ∀ script,
      Matches cfg
        (Http.enqueuePushForTerminal state snap
          (Http.surroundings name env script))
        { shared with
          jobs :=
            shared.jobs ++
              PushDelivery.jobsForTerminal shared.configs snap env.now } := by
    intro script
    refine { same with jobs := ?_ }
    simp only [Http.enqueuePushForTerminal, same.jobs, same.configs]
    rfl
  apply continues_finish (pushed ⟨.ok "", .ok []⟩)
  intro script
  simp only [rest, earlier, before]
  rfl

/-- One step of a thread leaves the rest of its request as it is. -/
theorem continues_of_work
    (same : Matches cfg state shared) (ready : Ready handler)
    (taken : handler.work json cfg name env shared = some (pc, after)) :
    Continues json cfg name env handler state shared pc after := by
  cases before : handler.pc with
  | bridging guarded call =>
      simp only [work, before] at taken
      exact continues_bridge same ready before taken
  | snapshot guarded taskId => exact continues_snapshot same before taken
  | push guarded snap => exact continues_push same before taken
  | enter session guarded | record session guarded taskId
  | dispatch session guarded taskId | sendPrompt guarded taskId
  | fetchSink guarded taskId =>
      simp only [work, before] at taken
      exact continues_start same ready taken
  | checkMode | lookUp | create | spawning | insertRow session
  | findGuard session | lockGuard session found | returned answer
  | dropped =>
      simp only [work, before] at taken
      exact continues_open same taken

end Handler

namespace AcpClient

/-- How many items the reader of a stream has taken. -/
def takenOf (client : AcpClient) (sink : PromptId) : Nat :=
  ((client.streams sink).map PromptStream.taken).getD 0

/-- What a thread can find at the client is what the script says. -/
structure Tells (script : Script) (name : Nat) (client : AcpClient) :
    Prop where
  spawned : (client.replies name).isSome = true ∨ client.driver = .gone →
    script.spawned = Script.spawnedWith (client.replies name)
  refused : client.statusOf name = some .failed →
    script.prompted = .error .driverGone
  sent : ∀ stream, client.streams name = some stream →
    stream.status = .returned →
      ∃ items, script.prompted = .ok items ∧ stream.items <+: items ∧
        (client.isOpen name = false → items = stream.items)

variable {name : Nat} {client target last : AcpClient} {heard final : Heard}
variable {items : List StreamItem} {stream : PromptStream}

theorem Follows.isPrefix
    (follows : Follows name client items)
    (found : client.streams name = some stream) :
    stream.items <+: items := by
  by_cases gone : client.driver = .gone
  · exact (follows.left stream found gone).1
  · exact ⟨_, follows.whole stream found gone⟩

/-- Nothing is missing from a stream that nobody can send on. -/
theorem Follows.of_closed
    (follows : Follows name client items)
    (found : client.streams name = some stream)
    (closed : ¬ client.HasSender name) :
    items = stream.items := by
  by_cases gone : client.driver = .gone
  · rcases (follows.left stream found gone).2 with same | route
    · exact same.symm
    · exact absurd (.routed _ route) closed
  · have noUpdate : client.heldUpdate name = [] := by
      apply heldUpdate_of_away
      intro other update pair isSame
      subst isSame
      exact closed (.delivering update pair)
    have noTerminal : client.heldTerminal name = [] := by
      apply heldTerminal_of_driver
      intro session item standing
      exact closed (.driving (by rw [standing]; rfl))
    rw [← follows.whole stream found gone, noUpdate, noTerminal,
      List.append_nil, List.append_nil]

/-- What is taken down in the end says what can be found on the way. -/
theorem tells_of_lasts
    (agree : client.PromptsAgree) (follows : Follows name client heard.items)
    (same : heard.spawned = client.replies name)
    (lasts : Lasts name client heard last final) :
    Tells (.of last name final) name client where
  spawned := by
    intro known
    unfold Script.of
    dsimp only
    rcases known with replied | gone
    · obtain ⟨answer, isAnswer⟩ := Option.isSome_iff_exists.mp replied
      rw [lasts.spawned answer (same.trans isAnswer), isAnswer]
    · rw [(lasts.gone gone).2, same]
  refused := by
    intro failed
    exact if_pos (lasts.status _ failed (by simp))
  sent := by
    intro stream found returned
    have stands : client.statusOf name = some .returned := by
      rw [statusOf, found, Option.map_some, returned]
    have notFailed : last.statusOf name ≠ some .failed := by
      rw [lasts.status _ stands (by simp)]
      simp
    refine ⟨final.items, if_neg notFailed,
      (follows.isPrefix found).trans lasts.items, ?_⟩
    intro isClosed
    have closed : ¬ client.HasSender name := by
      rw [← agree.isOpen_iff, isClosed]
      exact Bool.false_ne_true
    rw [(lasts.closed closed ⟨stream, found⟩).2.2]
    exact follows.of_closed found closed

theorem takenOf_of_found
    (found : client.streams name = some stream) :
    client.takenOf name = stream.taken := by
  simp [takenOf, found]

theorem takenOf_of_step
    {action : Action} (taken : step action client = some target)
    (notTaken : action ≠ .take name) :
    target.takenOf name = client.takenOf name := by
  cases found : client.streams name with
  | some stream =>
      obtain ⟨later, _, foundNow, same, _⟩ := step_items found taken notTaken
      rw [takenOf_of_found foundNow, takenOf_of_found found, same]
  | none =>
      by_cases own : action.caller? = some name
      · cases action with
        | registerRoute caller session content =>
            cases own
            obtain ⟨_, rfl⟩ := registerRoute_some taken
            simp [takenOf, found, putRoute, putStream]
        | sendPrompt caller =>
            cases own
            obtain ⟨stream, known, _⟩ := sendPrompt_some taken
            rw [found] at known
            cases known
        | take caller =>
            cases own
            exact absurd rfl notTaken
        | _ => cases own
      · have absent := statusOf_of_step taken own
        simp only [statusOf, found, Option.map_none,
          Option.map_eq_none_iff] at absent
        simp [takenOf, found, absent]

end AcpClient

namespace Script

variable {script : Script} {items : List StreamItem}

theorem unread_zero (script : Script) : script.unread 0 = script := by
  obtain ⟨spawned, error | items⟩ := script
  · rfl
  · rfl

/-- One item more is read. -/
theorem unread_succ
    {taken : Nat} {item : StreamItem} (isOk : script.prompted = .ok items)
    (next : items[taken]? = some item) :
    script.unread taken =
      { script with
        prompted := .ok (item :: (script.unread (taken + 1)).stream) } := by
  obtain ⟨within, isItem⟩ := List.getElem?_eq_some_iff.mp next
  simp only [unread, stream, isOk, Except.map]
  rw [List.drop_eq_getElem_cons within, isItem]

end Script

namespace Handler

variable {json : SerdeJson} {cfg : ServeConfig} {name : Nat} {env : Env}
variable {handler : Handler} {pc : HandlerPc} {shared after : Shared}
variable {script : Script}

/-- Only a poll takes an item. -/
theorem takenOf_of_work
    (taken : handler.work json cfg name env shared = some (pc, after))
    (away : ∀ guarded call, handler.pc = .bridging guarded call →
      call.pc ≠ .next) :
    after.acp.takenOf name = shared.acp.takenOf name := by
  cases work_moves taken with
  | asks acp _ _ _ submitted => exact AcpClient.takenOf_of_step submitted nofun
  | routes session guarded taskId content acp _ registered =>
      exact AcpClient.takenOf_of_step registered nofun
  | unsent guarded taskId error acp _ _ called =>
      exact AcpClient.takenOf_of_step called nofun
  | sends _ guarded taskId acp _ _ called =>
      exact AcpClient.takenOf_of_step called nofun
  | polls guarded call stream item acp before atNext =>
      exact absurd atNext (away guarded call before)
  | _ => rfl

theorem earlier_spawning
    (before : handler.pc = .spawning)
    (taken : handler.work json cfg name env shared = some (pc, after))
    (tells : AcpClient.Tells script name shared.acp) :
    handler.earlier name shared (script.unread (after.acp.takenOf name)) =
      script.unread (shared.acp.takenOf name) := by
  rw [takenOf_of_work taken (by simp [before])]
  have known :
      (shared.acp.replies name).isSome = true ∨ shared.acp.driver = .gone := by
    simp only [work, open_, before] at taken
    cases replied : shared.acp.replies name with
    | some answer => exact .inl rfl
    | none =>
        rw [replied] at taken
        simp only at taken
        split at taken
        · rename_i gone
          exact .inr gone
        · cases taken
  simp only [earlier, before, Script.unread, tells.spawned known]

theorem earlier_sendPrompt
    {guarded : ConversationRef} {taskId : TaskId}
    (before : handler.pc = .sendPrompt guarded taskId)
    (taken : handler.work json cfg name env shared = some (pc, after))
    (tells : AcpClient.Tells script name after.acp) :
    handler.earlier name shared (script.unread (after.acp.takenOf name)) =
      script.unread (shared.acp.takenOf name) := by
  rw [takenOf_of_work taken (by simp [before])]
  simp only [work, start, before] at taken
  obtain ⟨acp, called, moved⟩ := Option.bind_eq_some_iff.mp taken
  obtain ⟨stream, _, _, ⟨gone, isFailed⟩ | ⟨alive, isSent⟩⟩ :=
    AcpClient.sendPrompt_some called
  · rw [if_pos gone] at moved
    have isAcp : after.acp = acp := by
      cases moved
      rfl
    have failed : script.prompted = .error .driverGone := by
      apply tells.refused
      rw [isAcp, isFailed, AcpClient.statusOf_putStream_self]
    simp only [earlier, before, if_pos gone, Script.unread, failed]
    rfl
  · rw [if_neg alive] at moved
    have isAcp : after.acp = acp := by
      cases isMethod : handler.method with
      | send | stream =>
          rw [isMethod] at moved
          cases moved
          rfl
    obtain ⟨items, isOk, _⟩ := by
      refine tells.sent { stream with status := .returned } ?_ rfl
      rw [isAcp, isSent]
      exact AcpClient.putStream_self _ _ _
    simp only [earlier, before, if_neg alive, Script.unread, Script.stream,
      isOk, Except.map]

theorem earlier_poll
    {guarded : ConversationRef} {call : Bridge.Call}
    (before : handler.pc = .bridging guarded call) (atNext : call.pc = .next)
    (returned : shared.acp.statusOf name = some .returned)
    (taken : handler.work json cfg name env shared = some (pc, after))
    (tells : AcpClient.Tells script name shared.acp) :
    handler.earlier name shared (script.unread (after.acp.takenOf name)) =
      script.unread (shared.acp.takenOf name) := by
  obtain ⟨stream, found, isReturned⟩ := Option.map_eq_some_iff.mp returned
  obtain ⟨items, isOk, isPrefix, closed⟩ := tells.sent stream found isReturned
  simp only [work, bridge, before, atNext] at taken
  obtain ⟨⟨item, acp⟩, isPolled, moved⟩ := Option.map_eq_some_iff.mp taken
  have isAcp : after.acp = acp := by
    cases moved
    rfl
  simp only [earlier, before, if_pos atNext, isPolled]
  unfold AcpClient.pollNext at isPolled
  simp only [found] at isPolled
  rw [AcpClient.takenOf_of_found found]
  cases next : stream.items[stream.taken]? with
  | some got =>
      rw [next] at isPolled
      obtain ⟨target, isTaken, isPair⟩ := Option.map_eq_some_iff.mp isPolled
      cases isPair
      obtain ⟨reading, isReading, _, _, rfl⟩ := AcpClient.take_some isTaken
      rw [found] at isReading
      cases isReading
      rw [isAcp, AcpClient.takenOf_of_found (AcpClient.putStream_self _ _ _)]
      have isNext : items[stream.taken]? = some got := by
        obtain ⟨rest, isWhole⟩ := isPrefix
        obtain ⟨within, _⟩ := List.getElem?_eq_some_iff.mp next
        rw [← isWhole, List.getElem?_append_left within, next]
      exact (Script.unread_succ isOk isNext).symm
  | none =>
      rw [next] at isPolled
      simp only at isPolled
      split at isPolled
      · cases isPolled
      · rename_i isClosed
        cases isPolled
        have allRead : items.drop stream.taken = [] := by
          rw [closed (by simpa using isClosed), List.drop_eq_nil_iff]
          exact List.getElem?_eq_none_iff.mp next
        simp only [Script.unread, isOk, Except.map, allRead]

/-- What a step finds is what the script says is next. -/
theorem earlier_unread
    (channel : ∀ status, handler.pc.channel = some status →
      shared.acp.statusOf name = status)
    (taken : handler.work json cfg name env shared = some (pc, after))
    (here : AcpClient.Tells script name shared.acp)
    (there : AcpClient.Tells script name after.acp) :
    handler.earlier name shared (script.unread (after.acp.takenOf name)) =
      script.unread (shared.acp.takenOf name) := by
  cases before : handler.pc with
  | spawning => exact earlier_spawning before taken here
  | sendPrompt guarded taskId => exact earlier_sendPrompt before taken there
  | bridging guarded call =>
      by_cases atNext : call.pc = .next
      · exact earlier_poll before atNext
          (channel _ (by rw [before]; rfl)) taken here
      · rw [takenOf_of_work taken]
        · simp only [earlier, before, if_neg atNext]
        · intro other isCall isBridge
          rw [before] at isBridge
          cases isBridge
          exact atNext
  | _ =>
      rw [takenOf_of_work taken (by simp [before])]
      simp only [earlier, before]

end Handler

namespace Server

open Machine

variable {json : SerdeJson} {cfg : ServeConfig} {name : Nat} {env : Env}
variable {server target : Server} {heard later : Heard}

/-- One step, with what the agent says to the request `name` taken down. -/
def heardStep (json : SerdeJson) (cfg : ServeConfig) (name : Nat)
    (action : Action) (state : Server × Heard) : Option (Server × Heard) :=
  (step json cfg action state.1).map fun next =>
    (next,
      match action with
      | .acp act => state.1.shared.acp.hear name state.2 act
      | _ => state.2)

/-- A step of the one thread at the one time, or of the driver and the agent,
which sends updates for the prompt it is at work on. -/
def Alone (name : Nat) (env : Env) (state : Server × Heard) : Action → Prop
  | .work worker around => worker = name ∧ around = env
  | .acp act => state.1.shared.acp.Undistracted act
  | _ => False

/-- The driver has no command, or is gone. -/
def AtRest (client : AcpClient) : Prop :=
  client.queue = [] ∧ (client.driver = .receiving ∨ client.driver = .gone)

/-- The steps that are permitted, and what they leave. -/
inductive Goes (json : SerdeJson) (cfg : ServeConfig) (name : Nat) (env : Env)
    (server : Server) (heard : Heard) : Server → Heard → Prop
  | works (target : Server)
      (taken : step json cfg (.work name env) server = some target) :
      Goes json cfg name env server heard target heard
  | acts (act : AcpClient.Action) (acp : AcpClient)
      (stepped :
        step json cfg (.acp act) server =
          some { server with shared := { server.shared with acp } })
      (taken : AcpClient.step act server.shared.acp = some acp)
      (noCaller : act.caller? = none)
      (undistracted : server.shared.acp.Undistracted act) :
      Goes json cfg name env server heard
        { server with shared := { server.shared with acp } }
        (server.shared.acp.hear name heard act)

theorem goes_of_heardStep
    {action : Action} (alone : Alone name env (server, heard) action)
    (taken : heardStep json cfg name action (server, heard) =
      some (target, later)) :
    Goes json cfg name env server heard target later := by
  obtain ⟨next, stepped, isPair⟩ := Option.map_eq_some_iff.mp taken
  cases isPair
  cases action with
  | work worker around =>
      obtain ⟨rfl, rfl⟩ := alone
      exact .works target stepped
  | acp act =>
      have moved := stepped
      simp only [step] at moved
      split at moved
      · rename_i outside
        obtain ⟨acp, answered, rfl⟩ := Option.map_eq_some_iff.mp moved
        refine .acts act acp stepped answered ?_ alone
        cases act with
        | registerRoute | sendPrompt | take => cases outside
        | _ => rfl
      · cases moved
  | _ => exact alone.elim

/-- Of the client's steps, threads take only those at which nothing is
said. -/
theorem hear_of_inside
    {client : AcpClient} {act : AcpClient.Action}
    (inside : ¬ isOutside act = true) (heard : Heard) :
    client.hear name heard act = heard ∧ client.Undistracted act := by
  cases act with
  | registerRoute | sendPrompt | submit | take =>
      exact ⟨by simp [AcpClient.hear, AcpClient.saidTo, AcpClient.saidOn],
        trivial⟩
  | _ => exact absurd rfl inside

theorem Goes.hears
    (goes : Goes json cfg name env server heard target later) :
    AcpClient.Hears name server.shared.acp heard target.shared.acp later := by
  cases goes with
  | works _ taken =>
      rcases acp_of_step taken with same | ⟨act, moved, byCaller, outside⟩
      · rw [same]
        exact .stays
      · have inside : ¬ isOutside act = true := by
          intro isOut
          cases outside isOut
        obtain ⟨silent, undistracted⟩ :
            server.shared.acp.hear name heard act = heard ∧
              server.shared.acp.Undistracted act :=
          hear_of_inside inside heard
        have heardNow : AcpClient.Hears name server.shared.acp heard
            target.shared.acp (server.shared.acp.hear name heard act) := by
          refine .steps act _ moved ?_ undistracted
          intro caller isCaller
          obtain ⟨_, isOwn⟩ := byCaller caller isCaller
          cases isOwn
          rfl
        rwa [silent] at heardNow
  | acts act acp _ taken noCaller undistracted =>
      exact .steps act acp taken (by simp [noCaller]) undistracted

/-- A request on its way, of which `whole` is what the functions make. -/
structure Underway (json : SerdeJson) (cfg : ServeConfig) (name : Nat)
    (env : Env)
    (whole : Script → Except JsonRpcError (Option Task) × ServeState)
    (state : Server × Heard) : Prop where
  sound : Sound json cfg state.1
  follows : AcpClient.Follows name state.1.shared.acp state.2.items
  spawned : state.2.spawned = state.1.shared.acp.replies name
  same : ∃ handler serve,
    state.1.threads name = some (.prompt handler) ∧
      Matches cfg serve state.1.shared ∧ handler.Ready ∧
        ∀ trace last,
          Run (heardStep json cfg name) (Alone name env) state trace last →
            whole (.of last.1.shared.acp name last.2) =
              handler.rest json name env
                ((Script.of last.1.shared.acp name last.2).unread
                  (state.1.shared.acp.takenOf name))
                serve

/-- What is known of the client at the end of a run. -/
theorem lasts_of_run
    {state last : Server × Heard} {trace : List Action}
    (run : Run (heardStep json cfg name) (Alone name env) state trace last) :
    AcpClient.Lasts name state.1.shared.acp state.2 last.1.shared.acp
      last.2 := by
  induction run with
  | start => exact .refl
  | snoc _ alone taken inductionHypothesis =>
      exact inductionHypothesis.step (goes_of_heardStep alone taken).hears

namespace Underway

variable {whole : Script → Except JsonRpcError (Option Task) × ServeState}
variable {state next : Server × Heard}

theorem tells
    (underway : Underway json cfg name env whole state)
    {trace : List Action} {last : Server × Heard}
    (run : Run (heardStep json cfg name) (Alone name env) state trace last) :
    AcpClient.Tells (.of last.1.shared.acp name last.2) name
      state.1.shared.acp :=
  AcpClient.tells_of_lasts underway.sound.turns.agree underway.follows
    underway.spawned (lasts_of_run run)

theorem sound_step
    (underway : Underway json cfg name env whole (server, heard))
    (goes : Goes json cfg name env server heard target later) :
    Sound json cfg target := by
  cases goes with
  | works _ taken => exact underway.sound.step taken
  | acts act acp stepped => exact underway.sound.step stepped

theorem follows_step
    (underway : Underway json cfg name env whole (server, heard))
    (goes : Goes json cfg name env server heard target later) :
    AcpClient.Follows name target.shared.acp later.items := by
  have hears := goes.hears
  generalize target.shared.acp = client at hears ⊢
  cases hears with
  | stays => exact underway.follows
  | steps action _ taken byOwn undistracted =>
      exact underway.follows.step underway.sound.turns.agree byOwn
        undistracted taken

theorem spawned_step
    (underway : Underway json cfg name env whole (server, heard))
    (goes : Goes json cfg name env server heard target later) :
    later.spawned = target.shared.acp.replies name := by
  obtain ⟨handler, _, found, _⟩ := underway.same
  have noCancel : ∀ session,
      Command.cancel session name ∉ server.shared.acp.queue := by
    intro session queued
    obtain ⟨thread, isThread, _, asks⟩ := underway.sound.calling.own _ name
      (List.mem_append_right _ queued) rfl
    cases found.symm.trans isThread
    cases asks
  have hears := goes.hears
  generalize target.shared.acp = client at hears ⊢
  cases hears with
  | stays => exact underway.spawned
  | steps action _ taken byOwn undistracted =>
      exact AcpClient.spawned_of_step underway.sound.calling.agree noCancel
        underway.spawned taken

/-- A step leaves what the functions make of the request. -/
theorem step
    {action : Action}
    (underway : Underway json cfg name env whole state)
    (alone : Alone name env state action)
    (taken : heardStep json cfg name action state = some next) :
    Underway json cfg name env whole next := by
  obtain ⟨server, heard⟩ := state
  obtain ⟨target, later⟩ := next
  have goes := goes_of_heardStep alone taken
  have sound := underway.sound_step goes
  have follows := underway.follows_step goes
  have spawned := underway.spawned_step goes
  refine ⟨sound, follows, spawned, ?_⟩
  have before : Run (heardStep json cfg name) (Alone name env)
      (server, heard) ([] ++ [action]) (target, later) :=
    .snoc .start alone taken
  obtain ⟨handler, serve, found, same, ready, isRest⟩ := underway.same
  dsimp only at found
  cases goes with
  | works _ stepped =>
      simp only [Server.step, found, Option.bind_some] at stepped
      obtain ⟨⟨thread, after⟩, worked, rfl⟩ :=
        Option.map_eq_some_iff.mp stepped
      obtain ⟨⟨pc, moved⟩, handled, isThread⟩ :=
        Option.map_eq_some_iff.mp worked
      cases isThread
      obtain ⟨state, same, ready, continues⟩ :=
        Handler.continues_of_work same ready handled
      refine ⟨_, state, Pool.put_self _ _ _, same, ready, ?_⟩
      intro trace last run
      have there :=
        AcpClient.tells_of_lasts sound.turns.agree follows spawned
          (lasts_of_run run)
      rw [isRest _ _ (before.append run), continues]
      rw [Handler.earlier_unread
        (fun status => underway.sound.placed.opened name handler status
          (handlers_of_found found)) handled
        (underway.tells (before.append run)) there]
  | acts act acp stepped moved noCaller =>
      refine ⟨handler, serve, found, same.of_same rfl rfl rfl rfl, ready, ?_⟩
      intro trace last run
      have sameTaken : acp.takenOf name = server.shared.acp.takenOf name := by
        apply AcpClient.takenOf_of_step moved
        rintro rfl
        cases noCaller
      rw [isRest _ _ (before.append run)]
      dsimp only
      rw [sameTaken]

theorem of_run
    {trace : List Action}
    (underway : Underway json cfg name env whole state)
    (run : Run (heardStep json cfg name) (Alone name env) state trace next) :
    Underway json cfg name env whole next :=
  run.invariant (Underway json cfg name env whole) underway
    fun _ _ _ before alone taken => before.step alone taken

end Underway

/-- A request, the steps until the next, what the agent has said to it, and
its answer. -/
structure Exchange where
  name : Nat
  method : Method
  params : Value
  header : Option String
  env : Env
  trace : List Action
  script : Script
  answer : Except JsonRpcError (Option Task)

/-- Each request comes when the one before has been answered, and the driver
has finished with it or is gone. -/
inductive ServesInTurn (json : SerdeJson) (cfg : ServeConfig) :
    Server → List Exchange → Server → Prop
  | done (server : Server) : ServesInTurn json cfg server [] server
  | serves {server first target last : Server} {heard : Heard}
      {handler : Handler}
      (exchange : Exchange) (later : List Exchange)
      (free : server.threads exchange.name = none)
      (rests : AtRest server.shared.acp)
      (begun :
        step json cfg
            (.request exchange.name exchange.method exchange.params
              exchange.header)
            server = some first)
      (run :
        Run (heardStep json cfg exchange.name)
          (Alone exchange.name exchange.env) (first, .nothing) exchange.trace
          (target, heard))
      (said :
        exchange.script = .of target.shared.acp exchange.name heard)
      (returned :
        target.threads exchange.name = some (.prompt handler))
      (answered : handler.pc = .returned exchange.answer)
      (others : ServesInTurn json cfg target later last) :
      ServesInTurn json cfg server (exchange :: later) last

/-- The functions, one after the other, on what the agent has said. -/
inductive HandlesInTurn (json : SerdeJson) :
    ServeState → List Exchange → ServeState → Prop
  | done (state : ServeState) : HandlesInTurn json state [] state
  | handles {state next last : ServeState} (exchange : Exchange)
      (later : List Exchange)
      (handled :
        Http.handle json exchange.method state exchange.params
            exchange.header
            (Http.surroundings exchange.name exchange.env exchange.script) =
          (exchange.answer, next))
      (others : HandlesInTurn json next later last) :
      HandlesInTurn json state (exchange :: later) last

/-- Where there is no thread, none comes up. -/
theorem absent_of_run
    {state last : Server × Heard} {trace : List Action}
    (absent : state.1.threads name = none)
    (run : Run (heardStep json cfg name) (Alone name env) state trace last) :
    last.1.threads name = none := by
  refine run.invariant (fun reached => reached.1.threads name = none) absent ?_
  intro source action next before alone taken
  obtain ⟨server, heard⟩ := source
  obtain ⟨target, later⟩ := next
  dsimp only at before
  cases goes_of_heardStep alone taken with
  | works _ stepped =>
      simp only [step, before] at stepped
      cases stepped
  | acts => exact before

/-- The client has nothing of a request that has just come. -/
theorem follows_of_rest
    (sound : Sound json cfg server) (free : server.threads name = none)
    (rests : AtRest server.shared.acp) :
    AcpClient.Follows name server.shared.acp [] := by
  have unknown : server.shared.acp.streams name = none :=
    Option.map_eq_none_iff.mp (sound.placed.unopened name free)
  have noHand : ∀ session other,
      ¬ server.shared.acp.InHand session other := by
    obtain ⟨empty, receiving | gone⟩ := rests
    · simp [AcpClient.InHand, AcpClient.Finishing, AcpClient.pending, empty,
        receiving]
    · simp [AcpClient.InHand, AcpClient.Finishing, AcpClient.pending, empty,
        gone]
  have absent : ∀ stream, server.shared.acp.streams name ≠ some stream := by
    intro stream found
    rw [unknown] at found
    cases found
  refine ⟨fun session other inHand => absurd inHand (noHand session other),
    fun session inHand => absurd inHand (noHand session name),
    fun stream found => absurd found (absent stream), ?_, fun _ => rfl,
    fun stream found => absurd found (absent stream),
    fun stream found => absurd found (absent stream)⟩
  intro update pair
  obtain ⟨stream, found⟩ := sound.turns.agree.held name update pair
  exact absurd found (absent stream)

theorem handle_of_alone
    {first : Server} {state : ServeState} {handler : Handler}
    (exchange : Exchange) (same : Matches cfg state server.shared)
    (sound : Sound json cfg server)
    (free : server.threads exchange.name = none)
    (rests : AtRest server.shared.acp)
    (begun :
      step json cfg
          (.request exchange.name exchange.method exchange.params
            exchange.header)
          server = some first)
    (run :
      Run (heardStep json cfg exchange.name)
        (Alone exchange.name exchange.env) (first, .nothing) exchange.trace
        (target, heard))
    (said : exchange.script = .of target.shared.acp exchange.name heard)
    (returned : target.threads exchange.name = some (.prompt handler))
    (answered : handler.pc = .returned exchange.answer) :
    Sound json cfg target ∧ ∃ last,
      Http.handle json exchange.method state exchange.params exchange.header
          (Http.surroundings exchange.name exchange.env exchange.script) =
        (exchange.answer, last) ∧ Matches cfg last target.shared := by
  have soundFirst := sound.step begun
  simp only [step] at begun
  cases parsed : Http.parseRequest json cfg exchange.params
      (Http.headerCaller cfg.callerIdentity exchange.header) with
  | error error =>
      rw [parsed] at begun
      cases begun
      have absent := absent_of_run (by exact free) run
      rw [absent] at returned
      cases returned
  | ok request =>
      rw [parsed] at begun
      simp only [spawn, free] at begun
      let arrived : Handler :=
        { method := exchange.method, params := exchange.params, request
          pc := .checkMode }
      have isFirst :
          ({ server with
            threads := server.threads.put exchange.name (.prompt arrived) } :
              Server) = first :=
        Option.some.inj begun
      have unknown : server.shared.acp.streams exchange.name = none :=
        Option.map_eq_none_iff.mp (sound.placed.unopened exchange.name free)
      have unanswered : server.shared.acp.replies exchange.name = none := by
        cases replied : server.shared.acp.replies exchange.name with
        | none => rfl
        | some answer =>
            obtain ⟨command, isSent, isCall, _⟩ :=
              sound.calling.agree.replied exchange.name answer replied
            obtain ⟨thread, found, _⟩ := sound.calling.own command
              exchange.name (List.mem_append_left _ isSent) isCall
            rw [free] at found
            cases found
      have parsedHere : Http.parseRequest json state.cfg exchange.params
          (Http.headerCaller state.cfg.callerIdentity exchange.header) =
            .ok request := by
        rw [same.cfg]
        exact parsed
      have underway : Underway json cfg exchange.name exchange.env
          (fun script =>
            Http.handle json exchange.method state exchange.params
              exchange.header
              (Http.surroundings exchange.name exchange.env script))
          (first, .nothing) := by
        refine ⟨soundFirst, ?_, ?_, arrived, state, ?_, ?_, trivial, ?_⟩
        · have follows :
              AcpClient.Follows exchange.name server.shared.acp [] :=
            follows_of_rest sound free rests
          rw [← isFirst]
          exact follows
        · rw [← isFirst]
          exact unanswered.symm
        · rw [← isFirst]
          exact Pool.put_self _ _ _
        · rw [← isFirst]
          exact same
        · intro trace last _
          have noneTaken :
              first.shared.acp.takenOf exchange.name = 0 := by
            rw [← isFirst]
            simp [AcpClient.takenOf, unknown]
          dsimp only
          rw [noneTaken, Script.unread_zero, Http.handle,
            Http.beginPrompt_eq json _ parsedHere same.connected]
          rfl
      have ended := underway.of_run run
      obtain ⟨last, state, found, same, _, isRest⟩ := ended.same
      cases returned.symm.trans found
      refine ⟨ended.sound, state, ?_, same⟩
      have isAnswer := isRest [] (target, heard) .start
      rw [said]
      refine isAnswer.trans ?_
      simp only [Handler.rest, answered]

/-- Requests that come one at a time are handled as by the functions, on what
the agent says to each of them. -/
theorem one_at_a_time_is_sequential
    {trace : List Action} {maxActive idleWindow now : Nat}
    {loaded : List (String × SessionId)} {exchanges : List Exchange}
    {state : ServeState}
    (run : Run (step json cfg) free
      (start maxActive idleWindow now loaded) trace server)
    (same : Matches cfg state server.shared)
    (serves : ServesInTurn json cfg server exchanges target) :
    ∃ last, HandlesInTurn json state exchanges last ∧
      Matches cfg last target.shared := by
  have sound := sound_of_run run
  clear run
  induction serves generalizing state with
  | done server => exact ⟨state, .done state, same⟩
  | serves exchange later free rests begun run said returned answered _
      inductionHypothesis =>
      obtain ⟨sound, next, handled, same⟩ :=
        handle_of_alone exchange same sound free rests begun run said returned
          answered
      obtain ⟨last, others, same⟩ := inductionHypothesis same sound
      exact ⟨last, .handles exchange later handled others, same⟩

/-- The state of the functions at startup. -/
def plainState : ServeState :=
  { cfg := plainConfig
    acp := true
    sessions := []
    conversations := .new 10 60
    tasks := .empty
    rows := none
    pushRegistry := .empty
    pushTx := some [] }

/-- `Alone`, as a test. -/
def isAlone (name : Nat) (env : Env) (state : Server × Heard) : Action → Bool
  | .work worker around => decide (worker = name ∧ around = env)
  | .acp (.notify session _) =>
      match state.1.shared.acp.routes session with
      | none => true
      | some sink =>
          decide (state.1.shared.acp.driver.atWork = some (session, sink))
  | .acp _ => true
  | _ => false

theorem alone_of_isAlone
    (state : Server × Heard) (action : Action)
    (passed : isAlone name env state action = true) :
    Alone name env state action := by
  cases action with
  | work worker around => simpa [isAlone, Alone] using passed
  | acp act =>
      cases act with
      | notify session update =>
          intro sink route
          simpa [isAlone, route] using passed
      | _ => trivial
  | _ => cases passed

/-- The answer of a prompt handler that has returned. -/
def promptAnswer (server : Server) (name : Nat) :
    Option (Except JsonRpcError (Option Task)) :=
  match server.threads name with
  | some (.prompt { pc := .returned answer, .. }) => some answer
  | _ => none

theorem returned_of_promptAnswer
    {answer : Except JsonRpcError (Option Task)}
    (isAnswer : server.promptAnswer name = some answer) :
    ∃ handler, server.threads name = some (.prompt handler) ∧
      handler.pc = .returned answer := by
  unfold promptAnswer at isAnswer
  split at isAnswer
  · rename_i found
    cases isAnswer
    exact ⟨_, found, rfl⟩
  · cases isAnswer

/-- A `SendMessage` and a `SendStreamingMessage` of one conversation. -/
theorem two_requests_in_turn :
    ∃ exchanges target last,
      exchanges.map Exchange.script =
          [⟨.ok "s",
              .ok [.ok (.update (.agentMessageChunk (.text "hi"))),
                .ok (.terminal .endTurn)]⟩,
            ⟨.error "driver task gone", .ok [.ok (.terminal .endTurn)]⟩] ∧
        ServesInTurn .constant plainConfig (start 10 60 0 []) exchanges
          target ∧
          HandlesInTurn .constant plainState exchanges last ∧
            Matches plainConfig last target.shared := by
  let sendEnv : Env := { now := 0, taskId := ⟨"t"⟩ }
  let streamEnv : Env := { now := 5, taskId := ⟨"u"⟩ }
  let sendTrace : List Action :=
    List.replicate 3 (.work 0 sendEnv) ++
      [.acp .receive, .acp (.answer (.session "s"))] ++
        List.replicate 8 (.work 0 sendEnv) ++
          [.acp .receive,
            .acp (.notify "s" (.agentMessageChunk (.text "hi"))),
            .acp .deliver] ++
            List.replicate 8 (.work 0 sendEnv) ++
              [.acp (.answer (.stopped .endTurn)), .acp .sendTerminal,
                .acp .clearRoute] ++ List.replicate 7 (.work 0 sendEnv)
  let streamTrace : List Action :=
    List.replicate 10 (.work 1 streamEnv) ++
      [.acp .receive, .acp (.answer (.stopped .endTurn)), .acp .sendTerminal,
        .acp .clearRoute] ++ List.replicate 8 (.work 1 streamEnv)
  let sendScript : Script :=
    ⟨.ok "s",
      .ok [.ok (.update (.agentMessageChunk (.text "hi"))),
        .ok (.terminal .endTurn)]⟩
  let streamScript : Script :=
    ⟨.error "driver task gone", .ok [.ok (.terminal .endTurn)]⟩
  have ran :
      ((step .constant plainConfig (.request 0 .send plainParams none)
        (start 10 60 0 [])).bind fun first =>
          (execTested (heardStep .constant plainConfig 0) (isAlone 0 sendEnv)
            sendTrace (first, .nothing)).bind fun middle =>
              (step .constant plainConfig (.request 1 .stream plainParams none)
                middle.1).bind fun second =>
                  (execTested (heardStep .constant plainConfig 1)
                    (isAlone 1 streamEnv) streamTrace
                      (second, .nothing)).bind fun target =>
                        (middle.1.promptAnswer 0).bind fun _ =>
                          (target.1.promptAnswer 1).bind fun _ =>
                            if (middle.1.threads 1).isNone ∧
                                middle.1.shared.acp.queue = [] ∧
                                middle.1.shared.acp.driver = .receiving ∧
                                sendScript =
                                  .of middle.1.shared.acp 0 middle.2 ∧
                                streamScript =
                                  .of target.1.shared.acp 1 target.2
                            then some () else none) = some () := by
    decide +kernel
  obtain ⟨first, begun, ran⟩ := Option.bind_eq_some_iff.mp ran
  obtain ⟨middle, executed, ran⟩ := Option.bind_eq_some_iff.mp ran
  obtain ⟨second, begunAgain, ran⟩ := Option.bind_eq_some_iff.mp ran
  obtain ⟨target, streamed, ran⟩ := Option.bind_eq_some_iff.mp ran
  obtain ⟨answer, isAnswer, ran⟩ := Option.bind_eq_some_iff.mp ran
  obtain ⟨ended, isEnded, ran⟩ := Option.bind_eq_some_iff.mp ran
  obtain ⟨⟨free, empty, receiving, said, streamSaid⟩, _⟩ :=
    Option.ite_none_right_eq_some.mp ran
  obtain ⟨handler, returned, answered⟩ := returned_of_promptAnswer isAnswer
  obtain ⟨streamer, streamReturned, streamAnswered⟩ :=
    returned_of_promptAnswer isEnded
  let exchanges : List Exchange :=
    [⟨0, .send, plainParams, none, sendEnv, sendTrace, sendScript, answer⟩,
      ⟨1, .stream, plainParams, none, streamEnv, streamTrace, streamScript,
        ended⟩]
  have serves : ServesInTurn .constant plainConfig (start 10 60 0 [])
      exchanges target.1 :=
    .serves _ _ rfl ⟨rfl, .inl rfl⟩ begun
      (run_of_execTested alone_of_isAlone executed) said returned answered
      (.serves _ _ (Option.isNone_iff_eq_none.mp free)
        ⟨empty, .inl receiving⟩ begunAgain
        (run_of_execTested alone_of_isAlone streamed) streamSaid
        streamReturned streamAnswered (.done target.1))
  have matching : Matches plainConfig plainState (start 10 60 0 []).shared :=
    ⟨rfl, rfl, rfl, rfl, rfl, rfl, rfl⟩
  obtain ⟨last, handles, sameLast⟩ :=
    one_at_a_time_is_sequential .start matching serves
  exact ⟨exchanges, target.1, last, rfl, serves, handles, sameLast⟩

end Server

end A2AShim
