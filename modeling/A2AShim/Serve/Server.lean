import A2AShim.Lib.Pool
import A2AShim.Serve.AcpPrompts
import A2AShim.Serve.BridgeEffects
import A2AShim.Serve.Http

/-!
# The server at work

All requests of one Serve Shim at the same time.  Each request is a thread,
cut wherever another one can come between: at each use of a lock, and at each
wait.  A step of a thread is a function of the thread and of what all of them
share.

The waits for SQL are there whether or not a database is configured, and only
where a request can be dropped; the rows themselves are left out, since no
request reads them.
-/

namespace A2AShim

/-- The reader of a stream asks for its next item, and waits while there is
none and somebody may still send one. -/
def AcpClient.pollNext (client : AcpClient) (sink : PromptId) :
    Option (Option StreamItem × AcpClient) :=
  match client.streams sink with
  | none => none
  | some stream =>
      match stream.items[stream.taken]? with
      | some item => (client.take sink).map fun target => (some item, target)
      | none => if client.isOpen sink then none else some (none, client)

/-- `insert_loaded`: a conversation that is restored at startup. -/
def ConversationMap.insertLoaded (map : ConversationMap) (key : String)
    (session : SessionId) (now : Nat) : ConversationMap :=
  if (map.get key).isSome ∨ map.isFull then map
  else map.insert key session now

/-- `writer` is the request that holds the map's write lock while the agent
makes its session. -/
structure Shared where
  conversations : ConversationMap
  writer : Option Nat
  tasks : TaskRegistry
  configs : PushConfigRegistry
  jobs : List DeliveryJob
  acp : AcpClient

namespace Shared

def release (shared : Shared) (guarded : ConversationRef) : Shared :=
  { shared with conversations := shared.conversations.release guarded }

end Shared

/-- The clock, and what the random generator returns. -/
structure Env where
  now : Nat
  taskId : TaskId
  deriving DecidableEq, Repr

/-! ## The prompt handlers -/

inductive Method where
  | send
  | stream
  deriving DecidableEq, Repr

/-- Where a prompt handler stands.  For `SendStreamingMessage`, `bridging` is
the spawned bridge task.  Request, session, guard and Task are kept as long as
the handler needs them. -/
inductive HandlerPc where
  | checkMode
  | lookUp
  | create
  | spawning
  | insertRow (session : SessionId)
  | findGuard (session : SessionId)
  | lockGuard (session : SessionId) (found : ConversationRef)
  | enter (session : SessionId) (guarded : ConversationRef)
  | record (session : SessionId) (guarded : ConversationRef) (taskId : TaskId)
  | dispatch (session : SessionId) (guarded : ConversationRef)
      (taskId : TaskId)
  | sendPrompt (guarded : ConversationRef) (taskId : TaskId)
  | fetchSink (guarded : ConversationRef) (taskId : TaskId)
  | bridging (guarded : ConversationRef) (call : Bridge.Call)
  | snapshot (guarded : ConversationRef) (taskId : TaskId)
  | push (guarded : ConversationRef) (snap : Task)
  | returned (answer : Except JsonRpcError (Option Task))
  | dropped
  deriving DecidableEq

structure Handler where
  method : Method
  params : Value
  request : Http.PromptRequest
  pc : HandlerPc
  deriving DecidableEq

namespace HandlerPc

/-- The guard a handler holds. -/
def guard? : HandlerPc → Option ConversationRef
  | .enter _ guarded | .record _ guarded _ | .dispatch _ guarded _
  | .sendPrompt guarded _ | .fetchSink guarded _ | .bridging guarded _
  | .snapshot guarded _ | .push guarded _ => some guarded
  | _ => none

/-- The Task a handler has created or continued, until it returns. -/
def task? : HandlerPc → Option TaskId
  | .record _ _ taskId | .dispatch _ _ taskId | .sendPrompt _ taskId
  | .fetchSink _ taskId | .snapshot _ taskId => some taskId
  | .bridging _ call => some call.taskId
  | .push _ snap => some snap.id
  | _ => none

/-- The handler's future is suspended at an await here, or can be. -/
def awaits : HandlerPc → Bool
  | .checkMode | .lookUp | .create | .spawning | .insertRow _
  | .findGuard _ | .record _ _ _ => true
  | .bridging _ call =>
      match call.pc with
      | .next | .recordWorking _ | .recordFinal _ => true
      | _ => false
  | _ => false

end HandlerPc

namespace Handler

variable (json : SerdeJson) (cfg : ServeConfig)

/-- An answer before the guard was taken. -/
def fail (error : JsonRpcError) (shared : Shared) :
    Option (HandlerPc × Shared) :=
  some (.returned (.error error), shared)

/-- An answer, or the end of the bridge task; the guard is dropped. -/
def finish (guarded : ConversationRef)
    (answer : Except JsonRpcError (Option Task)) (shared : Shared) :
    Option (HandlerPc × Shared) :=
  some (.returned answer, shared.release guarded)

/-- Up to the guard: `check_conversation_mode`, `get_or_create_with_meta`,
`acquire_in_flight`.  Readers and writers of the map wait for its writer. -/
def open_ (name : Nat) (env : Env) (handler : Handler) (shared : Shared) :
    Option (HandlerPc × Shared) :=
  let map := shared.conversations
  let key := handler.request.key
  match handler.pc with
  | .checkMode =>
      -- only these modes look into the map
      if shared.writer.isSome ∧
          Http.conversationMode handler.params ∈ ["new", "continue"] then
        none
      else
        match Http.checkConversationMode map handler.params key with
        | .error error => fail error shared
        | .ok () => some (.lookUp, shared)
  | .lookUp =>
      if shared.writer.isSome then none
      else
        match map.get key with
        | some ref =>
            let session :=
              ((map.objects ref).map Conversation.acpSessionId).getD ""
            some (.findGuard session,
              { shared with conversations := map.touch ref env.now })
        | none => some (.create, shared)
  | .create =>
      if shared.writer.isSome then none
      else
        match map.get key with
        | some ref =>
            let session :=
              ((map.objects ref).map Conversation.acpSessionId).getD ""
            some (.findGuard session,
              { shared with conversations := map.touch ref env.now })
        | none =>
            if map.isFull then
              fail (Http.mapNewError .limitReached) shared
            else
              (shared.acp.submit (.sessionNew cfg.cwd name)).map fun acp =>
                (.spawning, { shared with writer := some name, acp })
  | .spawning =>
      match shared.acp.replies name with
      | some (.session session) =>
          some (.insertRow session,
            { shared with
              conversations := map.insert key session env.now
              writer := none })
      | some (.failed text) =>
          fail (Http.mapNewError (.spawn (AcpError.agent text).text))
            { shared with writer := none }
      | some _ => none
      | none =>
          if shared.acp.driver = .gone then
            fail (Http.mapNewError (.spawn AcpError.driverGone.text))
              { shared with writer := none }
          else
            none
  | .insertRow session => some (.findGuard session, shared)
  | .findGuard session =>
      if shared.writer.isSome then none
      else
        match map.get key with
        | none => fail (Http.mapAcquireError .notFound) shared
        | some found => some (.lockGuard session found, shared)
  | .lockGuard session found =>
      match map.tryLock found name with
      | none => fail (Http.mapAcquireError .busy) shared
      | some locked =>
          some (.enter session found, { shared with conversations := locked })
  | _ => none

/-- From the guard to the bridge. -/
def start (name : Nat) (env : Env) (handler : Handler) (shared : Shared) :
    Option (HandlerPc × Shared) :=
  let parts := handler.request.parsed.message.parts
  match handler.pc with
  | .enter session guarded =>
      match handler.request.parsed.id with
      | some existing =>
          match shared.tasks.acceptContinuation existing with
          | .error error =>
              finish guarded (.error (Http.mapTransitionError error)) shared
          | .ok tasks =>
              some (.dispatch session guarded existing, { shared with tasks })
      | none =>
          match shared.tasks.bindings env.taskId with
          | some _ => none
          | none =>
              some (.record session guarded env.taskId,
                { shared with
                  tasks :=
                    shared.tasks.create env.taskId handler.request.key
                      session })
  | .record session guarded taskId =>
      some (.dispatch session guarded taskId, shared)
  | .dispatch session guarded taskId =>
      match Translate.validateParts json parts cfg.maxPartBytes with
      | .error error =>
          finish guarded (.error (Http.invalidParams error.text)) shared
      | .ok () =>
          (shared.acp.registerRoute name session
              (Translate.a2aToAcp json parts .none)).map fun acp =>
            (.sendPrompt guarded taskId, { shared with acp })
  | .sendPrompt guarded taskId =>
      (shared.acp.sendPrompt name).bind fun acp =>
        if shared.acp.driver = .gone then
          finish guarded
            (.error (Http.internalError
              ("session/prompt failed: " ++ AcpError.driverGone.text)))
            { shared with acp }
        else
          match handler.method with
          | .send =>
              some (.bridging guarded (.begin taskId), { shared with acp })
          | .stream => some (.fetchSink guarded taskId, { shared with acp })
  | .fetchSink guarded taskId =>
      match shared.tasks.sink taskId with
      | none =>
          finish guarded
            (.error (Http.internalError "task vanished before sink fetch"))
            shared
      | some _ => some (.bridging guarded (.begin taskId), shared)
  | _ => none

/-- A bridge call, and what its handler does with the result. -/
def bridge (name : Nat) (handler : Handler) (guarded : ConversationRef)
    (call : Bridge.Call) (shared : Shared) : Option (HandlerPc × Shared) :=
  match call.pc with
  | .next =>
      (shared.acp.pollNext name).map fun polled =>
        (.bridging guarded (call.polled json polled.1),
          { shared with acp := polled.2 })
  | .returned result =>
      match handler.method, result with
      | .send, .error error =>
          finish guarded
            (.error (Http.internalError
              ("bridge: " ++ Http.bridgeErrorText error)))
            shared
      | .send, .ok () => some (.snapshot guarded call.taskId, shared)
      | .stream, _ => finish guarded (.ok none) shared
  | _ =>
      (call.work json shared.tasks).map fun next =>
        (.bridging guarded next.1, { shared with tasks := next.2 })

/-- One step of a handler. -/
def work (name : Nat) (env : Env) (handler : Handler) (shared : Shared) :
    Option (HandlerPc × Shared) :=
  match handler.pc with
  | .bridging guarded call => bridge json name handler guarded call shared
  | .snapshot guarded taskId =>
      match shared.tasks.snapshot taskId with
      | none =>
          finish guarded
            (.error (Http.internalError "task vanished mid-prompt")) shared
      | some snap =>
          if snap.status.state.isTerminal then
            some (.push guarded snap, shared)
          else
            finish guarded (.ok (some snap)) shared
  | .push guarded snap =>
      finish guarded (.ok (some snap))
        { shared with
          jobs :=
            shared.jobs ++
              PushDelivery.jobsForTerminal shared.configs snap env.now }
  | .enter _ _ | .record _ _ _ | .dispatch _ _ _ | .sendPrompt _ _
  | .fetchSink _ _ => start json cfg name env handler shared
  | _ => open_ cfg name env handler shared

/-- The future is dropped where it awaits; the locks it holds are freed. -/
def drop (name : Nat) (handler : Handler) (shared : Shared) :
    Option (HandlerPc × Shared) :=
  if handler.method = .send ∧ handler.pc.awaits = true then
    some (.dropped,
      { shared with
        conversations :=
          match handler.pc.guard? with
          | some guarded => shared.conversations.release guarded
          | none => shared.conversations
        writer :=
          if shared.writer = some name then none else shared.writer })
  else
    none

end Handler

/-! ## The other requests -/

inductive CancelPc where
  | cancel
  | find
  | tell (session : SessionId)
  | await
  | snapshot
  | returned (answer : Except JsonRpcError Task)
  deriving DecidableEq

/-- A `CancelTask` handler. -/
structure Canceling where
  taskId : TaskId
  pc : CancelPc
  deriving DecidableEq

/-- The driver has answered, or is gone. -/
def Shared.hasReply (shared : Shared) (name : Nat) : Bool :=
  (shared.acp.replies name).isSome || decide (shared.acp.driver = .gone)

namespace Canceling

def work (name : Nat) (canceling : Canceling) (shared : Shared) :
    Option (CancelPc × Shared) :=
  match canceling.pc with
  | .cancel =>
      match shared.tasks.cancel canceling.taskId with
      | .error error =>
          some (.returned (.error (Http.mapTransitionError error)), shared)
      | .ok tasks => some (.find, { shared with tasks })
  | .find =>
      if shared.writer.isSome then none
      else
        let context :=
          (shared.tasks.bindings canceling.taskId).map
            TaskBinding.conversationId
        let conversation :=
          (context.bind shared.conversations.get).bind
            shared.conversations.objects
        match conversation with
        | some conversation => some (.tell conversation.acpSessionId, shared)
        | none => some (.snapshot, shared)
  | .tell session =>
      (shared.acp.submit (.cancel session name)).map fun acp =>
        (.await, { shared with acp })
  | .await => if shared.hasReply name then some (.snapshot, shared) else none
  | .snapshot =>
      match shared.tasks.snapshot canceling.taskId with
      | none =>
          some (.returned
            (.error (Http.internalError "task vanished mid-cancel")), shared)
      | some snap => some (.returned (.ok snap), shared)
  | .returned _ => none

end Canceling

inductive ResetPc where
  | lookUp
  | list (session : Option SessionId)
  | canceling (session : Option SessionId) (targets canceled : List TaskId)
  | await (canceled : List TaskId)
  | remove (canceled : List TaskId)
  | returned (cleared : Bool) (canceled : List TaskId)
  deriving DecidableEq

/-- A `_shim/conversation/reset` handler. -/
structure Resetting where
  key : String
  pc : ResetPc
  deriving DecidableEq

namespace Resetting

/-- The Tasks of `key` in the one page of the list, but for finished ones. -/
def targets (tasks : TaskRegistry) (key : String) : List TaskId :=
  ((tasks.list none 1000).1.filter fun task =>
    task.contextId == some key && !task.status.state.isTerminal).map Task.id

def work (name : Nat) (resetting : Resetting) (shared : Shared) :
    Option (ResetPc × Shared) :=
  match resetting.pc with
  | .lookUp =>
      if shared.writer.isSome then none
      else
        let conversation :=
          (shared.conversations.get resetting.key).bind
            shared.conversations.objects
        some (.list (conversation.map Conversation.acpSessionId), shared)
  | .list session =>
      some (.canceling session (targets shared.tasks resetting.key) [], shared)
  | .canceling session (id :: rest) canceled =>
      match shared.tasks.cancel id with
      | .error _ => some (.canceling session rest canceled, shared)
      | .ok tasks =>
          some (.canceling session rest (canceled ++ [id]),
            { shared with tasks })
  | .canceling (some session) [] canceled =>
      (shared.acp.submit (.cancel session name)).map fun acp =>
        (.await canceled, { shared with acp })
  | .canceling none [] canceled => some (.returned false canceled, shared)
  | .await canceled =>
      if shared.hasReply name then some (.remove canceled, shared) else none
  | .remove canceled =>
      if shared.writer.isSome then none
      else
        some (.returned true canceled,
          { shared with
            conversations := shared.conversations.remove resetting.key })
  | .returned _ _ => none

end Resetting

/-- The idle reaper: it reads the idle keys, then removes them. -/
inductive Sweep where
  | scan
  | remove (keys : List String)
  | done (keys : List String)
  deriving DecidableEq

namespace Sweep

def work (env : Env) (sweep : Sweep) (shared : Shared) :
    Option (Sweep × Shared) :=
  if shared.writer.isSome then none
  else
    match sweep with
    | .scan =>
        match shared.conversations.idleKeys env.now with
        | [] => some (.done [], shared)
        | keys => some (.remove keys, shared)
    | .remove keys =>
        some (.done keys,
          { shared with
            conversations :=
              keys.foldl ConversationMap.remove shared.conversations })
    | .done _ => none

end Sweep

/-! ## The machine -/

inductive Thread where
  | prompt (handler : Handler)
  | cancel (canceling : Canceling)
  | reset (resetting : Resetting)
  | sweep (sweep : Sweep)
  deriving DecidableEq

structure Server where
  shared : Shared
  threads : Pool Nat Thread

namespace Server

/-- `loaded` are the conversations restored before any request is taken. -/
def start (maxActive idleWindow now : Nat)
    (loaded : List (String × SessionId)) : Server :=
  { shared :=
      { conversations :=
          loaded.foldl
            (fun map row => map.insertLoaded row.1 row.2 now)
            (.new maxActive idleWindow)
        writer := none
        tasks := .empty
        configs := .empty
        jobs := []
        acp := .spawned }
    threads := .empty }

/-- The steps of the driver task, of the callback, and of the agent. -/
def isOutside : AcpClient.Action → Bool
  | .receive | .answer _ | .sendTerminal | .clearRoute | .notify _ _
  | .deliver | .stop => true
  | _ => false

inductive Action where
  | request (name : Nat) (method : Method) (params : Value)
      (header : Option String)
  | cancelTask (name : Nat) (taskId : TaskId)
  | reset (name : Nat) (conversationId : String)
      (callerId header : Option String)
  | sweep (name : Nat)
  | work (name : Nat) (env : Env)
  | drop (name : Nat)
  | putConfig (config : PushNotificationConfig)
  | deleteConfig (configId : String)
  | acp (action : AcpClient.Action)
  deriving DecidableEq

def spawn (server : Server) (name : Nat) (thread : Thread) : Option Server :=
  match server.threads name with
  | some _ => none
  | none =>
      some { server with threads := server.threads.put name thread }

variable (json : SerdeJson) (cfg : ServeConfig)

/-- One step of a thread. -/
def workThread (name : Nat) (env : Env) (shared : Shared) :
    Thread → Option (Thread × Shared)
  | .prompt handler =>
      (handler.work json cfg name env shared).map fun next =>
        (.prompt { handler with pc := next.1 }, next.2)
  | .cancel canceling =>
      (canceling.work name shared).map fun next =>
        (.cancel { canceling with pc := next.1 }, next.2)
  | .reset resetting =>
      (resetting.work name shared).map fun next =>
        (.reset { resetting with pc := next.1 }, next.2)
  | .sweep sweep =>
      (sweep.work env shared).map fun next => (.sweep next.1, next.2)

def dropThread (name : Nat) (shared : Shared) :
    Thread → Option (Thread × Shared)
  | .prompt handler =>
      (handler.drop name shared).map fun next =>
        (.prompt { handler with pc := next.1 }, next.2)
  | _ => none

/-- A request that does not parse is answered at once, and leaves no
thread. -/
def step : Action → Server → Option Server
  | .request name method params header, server =>
      match Http.parseRequest json cfg params
          (Http.headerCaller cfg.callerIdentity header) with
      | .error _ => some server
      | .ok request =>
          server.spawn name
            (.prompt { method, params, request, pc := .checkMode })
  | .cancelTask name taskId, server =>
      server.spawn name (.cancel { taskId, pc := .cancel })
  | .reset name conversationId callerId header, server =>
      let caller :=
        Http.resolveCallerId cfg.callerIdentity
          (Http.headerCaller cfg.callerIdentity header) callerId
      server.spawn name
        (.reset
          { key := Http.partitionKey caller conversationId, pc := .lookUp })
  | .sweep name, server => server.spawn name (.sweep .scan)
  | .work name env, server =>
      (server.threads name).bind fun thread =>
        (workThread json cfg name env server.shared thread).map fun next =>
          { shared := next.2, threads := server.threads.put name next.1 }
  | .drop name, server =>
      (server.threads name).bind fun thread =>
        (dropThread name server.shared thread).map fun next =>
          { shared := next.2, threads := server.threads.put name next.1 }
  | .putConfig config, server =>
      some { server with
        shared :=
          { server.shared with
            configs := server.shared.configs.insert config } }
  | .deleteConfig configId, server =>
      some { server with
        shared :=
          { server.shared with
            configs := server.shared.configs.delete configId } }
  | .acp action, server =>
      if isOutside action then
        (AcpClient.step action server.shared.acp).map fun acp =>
          { server with shared := { server.shared with acp } }
      else
        none

/-! ## A request to run -/

def plainConfig : ServeConfig :=
  { callerIdentity :=
      { enabled := false, defaultCallerId := "", trustHeader := false }
    maxPartBytes := 1000
    cwd := "/" }

/-- A message of one part for the conversation `c`. -/
def plainParams : Value :=
  .object
    [("message", .object
      [("role", .string "user"),
        ("parts", .array [.object [("text", .string "hello")]]),
        ("metadata", .object
          [(MessageMetadata.conversationKey, .string "c")])])]

end Server

end A2AShim
