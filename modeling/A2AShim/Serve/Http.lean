import A2AShim.Serve.Bridge
import A2AShim.Serve.Conversation
import A2AShim.Serve.Persistence
import A2AShim.Serve.PushDelivery
import A2AShim.Wire.Rpc

/-!
# The request handlers

`SendMessage` and `SendStreamingMessage` as one request runs through them on
its own.  The two handlers repeat the same statements up to the prompt; these
are `beginPrompt` here.

What the handlers do not decide themselves comes in through `Surroundings`:
the clock, the random task identifier, whether a row can be written, and the
answers of the agent.
-/

namespace A2AShim

structure CallerIdentityConfig where
  enabled : Bool
  defaultCallerId : String
  trustHeader : Bool
  deriving DecidableEq, Repr

/-- The settings the handlers read; `cwd` is the agent's directory. -/
structure ServeConfig where
  callerIdentity : CallerIdentityConfig
  maxPartBytes : Nat
  cwd : String
  deriving DecidableEq, Repr

/-- `sessions` are the sessions the agent has made for this shim.  `pushTx`
holds the jobs on the channel to the delivery workers, if one is wired. -/
structure ServeState where
  cfg : ServeConfig
  acp : Bool
  sessions : List SessionId
  conversations : ConversationMap
  tasks : TaskRegistry
  rows : Option Rows
  pushRegistry : PushConfigRegistry
  pushTx : Option (List DeliveryJob)

/-- What one request gets from outside.  `turnRows` is what the row writes of
the bridge's own transitions make of the rows. -/
structure Surroundings where
  now : Nat
  holder : HolderId
  sessionNew : Except String SessionId
  newTaskId : TaskId
  rowInserted : Bool
  taskRecorded : Bool
  prompted : Except AcpError (List StreamItem)
  turnRows : Rows → Rows

namespace Http

/-! ## Keys and modes -/

def headerCaller (cfg : CallerIdentityConfig) (header : Option String) :
    Option String :=
  if cfg.trustHeader then header else none

/-- Header first, then metadata, then the default; none when disabled. -/
def resolveCallerId (cfg : CallerIdentityConfig)
    (header metadata : Option String) : Option String :=
  if !cfg.enabled then
    none
  else
    match header, metadata with
    | some caller, _ => some caller
    | none, some caller => some caller
    | none, none => some cfg.defaultCallerId

def partitionKey (callerId : Option String) (conversationId : String) :
    String :=
  match callerId with
  | some caller => caller ++ "\u001f" ++ conversationId
  | none => conversationId

def conversationMode (params : Value) : String :=
  ((params.get "_shim_conversation_mode").bind Value.asStr).getD "auto"

/-! ## Errors -/

def invalidParams (message : String) : JsonRpcError :=
  { code := Codes.invalidParams, message, data := none }

def internalError (message : String) : JsonRpcError :=
  { code := Codes.internalError, message, data := none }

def mapNewError : NewError → JsonRpcError
  | .limitReached =>
      { code := Codes.conversationLimitReached
        message := "max active conversations reached"
        data := none }
  | .spawn text => internalError ("session/new failed: " ++ text)

def mapAcquireError : AcquireError → JsonRpcError
  | .busy =>
      { code := Codes.conversationBusy
        message := "conversation already has a prompt in flight"
        data := none }
  | .notFound =>
      internalError "conversation vanished between create and acquire"

def mapTransitionError : TransitionError → JsonRpcError
  | .notFound =>
      { code := Codes.taskNotFound, message := "task not found", data := none }
  | .notCancelable =>
      { code := Codes.taskNotCancelable
        message := "task is already in a terminal state"
        data := none }
  | .invalidContinuation =>
      invalidParams "continuation only valid from input-required"
  | .illegal => internalError "illegal task transition"

def bridgeErrorText : Bridge.BridgeError → String
  | .notFound => "task not in registry"
  | .transition error =>
      "registry transition: " ++
        match error with
        | .notFound => "task not found"
        | .notCancelable => "task not cancelable: already in terminal state"
        | .illegal => "illegal transition"
        | .invalidContinuation =>
            "continuation only valid from input-required"

/-! ## The statements before the prompt -/

variable (json : SerdeJson)

/-- A request that has passed the checks on its own text. -/
structure PromptRequest where
  parsed : SendMessageParams
  callerId : Option String
  key : String
  deriving DecidableEq, Repr

def missingConversation : JsonRpcError :=
  invalidParams
    ("missing required metadata key '" ++ MessageMetadata.conversationKey ++
      "' (spec § 2.6)")

def metadataCaller (message : Message) : Option String :=
  (message.metadata.bind fun metadata =>
    metadata.getExtra "x-a2a-shim/caller_id").bind Value.asStr

def parseRequest (cfg : ServeConfig) (params : Value)
    (header : Option String) : Except JsonRpcError PromptRequest :=
  match SendMessageParams.ofValue params with
  | none =>
      .error (invalidParams ("invalid params: " ++ json.rejection params))
  | some parsed =>
      match parsed.message.metadata.bind MessageMetadata.conversation with
      | none => .error missingConversation
      | some conversationId =>
          let callerId :=
            resolveCallerId cfg.callerIdentity header
              (metadataCaller parsed.message)
          .ok { parsed, callerId, key := partitionKey callerId conversationId }

def checkConversationMode (map : ConversationMap) (params : Value)
    (key : String) : Except JsonRpcError Unit :=
  match conversationMode params with
  | "auto" => .ok ()
  | "new" =>
      if (map.get key).isSome then
        .error
          { code := Codes.conversationExists
            message :=
              "conversation '" ++ key ++ "' already exists (mode=new)"
            data := none }
      else
        .ok ()
  | "continue" =>
      if (map.get key).isNone then
        .error
          { code := Codes.conversationLost
            message :=
              "conversation '" ++ key ++ "' does not exist (mode=continue)"
            data := none }
      else
        .ok ()
  | other => .error (invalidParams ("unknown conversation_mode: " ++ other))

/-- `get_or_create_with_meta`: a conversation that was created gets a row. -/
def openConversation (state : ServeState) (request : PromptRequest)
    (env : Surroundings) :
    Except NewError ConversationRef × ServeState :=
  match state.conversations.getOrCreate request.key env.now env.sessionNew with
  | .error error => (.error error, state)
  | .ok ((ref, false), map) =>
      (.ok ref, { state with conversations := map })
  | .ok ((ref, true), map) =>
      let session :=
        ((map.objects ref).map Conversation.acpSessionId).getD ""
      let rows :=
        if env.rowInserted then
          state.rows.map fun rows =>
            rows.insertConversation request.key session state.cfg.cwd
              (request.callerId.getD "anonymous") env.now
        else
          state.rows
      (.ok ref,
        { state with
          conversations := map
          sessions := state.sessions ++ [session]
          rows })

/-- Continue the Task the request names, or create one. -/
def enterTask (state : ServeState) (request : PromptRequest)
    (session : SessionId) (env : Surroundings) :
    Except JsonRpcError TaskId × ServeState :=
  match request.parsed.id with
  | some existing =>
      match state.tasks.acceptContinuation existing with
      | .error error => (.error (mapTransitionError error), state)
      | .ok tasks => (.ok existing, { state with tasks })
  | none =>
      let rows :=
        if env.taskRecorded then
          state.rows.map fun rows =>
            (rows.recordTask env.newTaskId.text request.key "submitted"
              env.now).getD rows
        else
          state.rows
      (.ok env.newTaskId,
        { state with
          tasks := state.tasks.create env.newTaskId request.key session
          rows })

/-- The guard is dropped where a handler returns. -/
def dropGuard (state : ServeState) (guarded : ConversationRef) : ServeState :=
  { state with conversations := state.conversations.release guarded }

/-- What the handlers go on with; they still hold the guard of `guarded`, and
`content` went to `session`. -/
structure Begun where
  taskId : TaskId
  guarded : ConversationRef
  session : SessionId
  content : List ContentBlock
  stream : List StreamItem
  deriving DecidableEq, Repr

/-- From the Task on: check the parts, translate them, send the prompt. -/
def sendParts (state : ServeState) (request : PromptRequest)
    (guarded : ConversationRef) (session : SessionId) (env : Surroundings) :
    Except JsonRpcError Begun × ServeState :=
  match enterTask state request session env with
  | (.error error, entered) => (.error error, dropGuard entered guarded)
  | (.ok taskId, entered) =>
      match Translate.validateParts json request.parsed.message.parts
          state.cfg.maxPartBytes with
      | .error error =>
          (.error (invalidParams error.text), dropGuard entered guarded)
      | .ok () =>
          let content :=
            Translate.a2aToAcp json request.parsed.message.parts PartCaps.none
          match env.prompted with
          | .error error =>
              (.error (internalError
                ("session/prompt failed: " ++ error.text)),
                dropGuard entered guarded)
          | .ok stream =>
              (.ok { taskId, guarded, session, content, stream }, entered)

def beginPrompt (state : ServeState) (params : Value)
    (header : Option String) (env : Surroundings) :
    Except JsonRpcError Begun × ServeState :=
  match parseRequest json state.cfg params header with
  | .error error => (.error error, state)
  | .ok request =>
      match checkConversationMode state.conversations params request.key with
      | .error error => (.error error, state)
      | .ok () =>
          if state.acp = false then
            (.error (internalError "ACP client not configured"), state)
          else
            match openConversation state request env with
            | (.error error, opened) => (.error (mapNewError error), opened)
            | (.ok ref, opened) =>
                match opened.conversations.acquireInFlight request.key
                    env.holder with
                | .error error => (.error (mapAcquireError error), opened)
                | .ok (guarded, map) =>
                    let session :=
                      ((opened.conversations.objects ref).map
                        Conversation.acpSessionId).getD ""
                    sendParts json { opened with conversations := map } request
                      guarded session env

/-! ## The handlers -/

/-- `enqueue_push_for_terminal`. -/
def enqueuePushForTerminal (state : ServeState) (snap : Task)
    (env : Surroundings) : ServeState :=
  { state with
    pushTx := state.pushTx.map fun jobs =>
      jobs ++ PushDelivery.jobsForTerminal state.pushRegistry snap env.now }

/-- The handler of `SendMessage`: it runs the bridge itself, and drops the
guard when it returns. -/
def handleMessageSend (state : ServeState) (params : Value)
    (header : Option String) (env : Surroundings) :
    Except JsonRpcError Task × ServeState :=
  match beginPrompt json state params
      (headerCaller state.cfg.callerIdentity header) env with
  | (.error error, after) => (.error error, after)
  | (.ok begun, prompted) =>
      let turn := Bridge.runSession json prompted.tasks begun.taskId begun.stream
      let driven :=
        { prompted with tasks := turn.2, rows := prompted.rows.map env.turnRows }
      match turn.1 with
      | .error error =>
          (.error (internalError ("bridge: " ++ bridgeErrorText error)),
            dropGuard driven begun.guarded)
      | .ok () =>
          match driven.tasks.snapshot begun.taskId with
          | none =>
              (.error (internalError "task vanished mid-prompt"),
                dropGuard driven begun.guarded)
          | some snap =>
              let done :=
                if snap.status.state.isTerminal then
                  enqueuePushForTerminal driven snap env
                else
                  driven
              (.ok snap, dropGuard done begun.guarded)

/-- `prepare_prompt`, and with it the part of `handle_message_stream` that
answers errors.  The guard goes on to the bridge task. -/
def preparePrompt (state : ServeState) (params : Value)
    (header : Option String) (env : Surroundings) :
    Except JsonRpcError (Begun × SseSink) × ServeState :=
  match beginPrompt json state params
      (headerCaller state.cfg.callerIdentity header) env with
  | (.error error, after) => (.error error, after)
  | (.ok begun, prompted) =>
      match prompted.tasks.sink begun.taskId with
      | none =>
          (.error (internalError "task vanished before sink fetch"),
            dropGuard prompted begun.guarded)
      | some sink => (.ok (begun, sink), prompted)

end Http

end A2AShim
