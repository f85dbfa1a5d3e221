import A2AShim.Client.AnswerFidelity
import A2AShim.Serve.OneRequest
import A2AShim.Serve.SentTask
import A2AShim.Serve.TaskViews

/-!
# A call from the Host to the agent and back

The request that `build_request_body` makes meets the handler of
`SendStreamingMessage`, and whatever the handler answers with is read as an
event stream: also the JSON-RPC error of a request that was refused.  A body of
events is open as long as the sink of the Task is.
-/

namespace A2AShim

open EventStream (Frame ReadsEvents)

/-! ## On the wire -/

/-- `JsonRpcRequest<Value>`, as the extractor of `jsonrpc_root` reads it. -/
structure JsonRpcRequest where
  jsonrpc : String
  id : Value
  method : String
  params : Value
  deriving DecidableEq, Repr

def JsonRpcRequest.ofValue (value : Value) : Option JsonRpcRequest := do
  let members ← value.structMembers ["jsonrpc", "id", "method", "params"]
  let jsonrpc ← (← members.get "jsonrpc").asStr
  let id ← members.get "id"
  let method ← (← members.get "method").asStr
  let params ← members.get "params"
  return { jsonrpc, id, method, params }

/-- The answer of a handler to the HTTP server, with status 200.  A body of
events may stay open when the last of them has been sent. -/
inductive ResponseBody where
  | json (value : Value)
  | events (events : List SseEvent) (ends : Bool)
  deriving DecidableEq, Repr

namespace ResponseBody

/-- Every value of the body is printed as serde_json prints it. -/
def Printed (json : SerdeJson) : ResponseBody → Prop
  | .json value => json.Prints value
  | .events sent _ => ∀ event, event ∈ sent → json.Prints event.toValue

def ends : ResponseBody → Bool
  | .json _ => true
  | .events _ ends => ends

/-- The texts that may be sent for a body.  Comments keep a stream alive, in
any place. -/
inductive Sent (json : SerdeJson) : ResponseBody → String → Prop
  | json (value : Value) : Sent json (.json value) (json.toText value)
  | events (sent : List SseEvent) (ends : Bool) (frames : List Frame)
      (isData : frames.filterMap Frame.data? =
        sent.map fun event => json.toText event.toValue)
      (comments : ∀ text, .comment text ∈ frames →
        (Frame.comment text).Clean) :
      Sent json (.events sent ends) (String.join (frames.map Frame.text))

end ResponseBody

namespace Http

/-- `handle_message_stream`, for a reader that is there before the bridge
begins and does not lag.  The body ends when the bridge has closed the sink. -/
def handleMessageStream (json : SerdeJson) (state : ServeState)
    (request : JsonRpcRequest) (header : Option String)
    (env : Surroundings) : ResponseBody :=
  match preparePrompt json state request.params header env with
  | (.error error, _) =>
      .json
        (JsonRpcResponse.toValue
          { jsonrpc := "2.0", id := request.id
            resultOrError := .error error })
  | (.ok (begun, _), prompted) =>
      .events
        (CallHandler.receivedEvents json prompted.tasks begun.taskId
          begun.stream)
        (CallHandler.bodyEnds json prompted.tasks begun.taskId begun.stream)

/-- `jsonrpc_root`, for a request with the method of the Client Shim. -/
def postStream (json : SerdeJson) (state : ServeState) (text : String)
    (header : Option String) (env : Surroundings) : Option ResponseBody := do
  let request ← (json.fromText text).bind JsonRpcRequest.ofValue
  if request.method = "SendStreamingMessage" then
    some (handleMessageStream json state request header env)
  else
    none

end Http

/-- The arguments of `a2a_send` that go into the request. -/
structure HostCall where
  conversationId : String
  message : String
  taskId : Option String
  metadata : Option Value
  callerId : Option String
  conversationMode : Option String
  deriving DecidableEq, Repr

namespace HostCall

open CallHandler

def args (call : HostCall) : A2aSendArgs :=
  { conversationId := call.conversationId, message := call.message }

def params (call : HostCall) : Value :=
  Outbound.requestParams call.conversationId call.message call.taskId
    call.metadata call.callerId call.conversationMode

def body (call : HostCall) : Value :=
  Outbound.buildRequestBody call.conversationId call.message call.taskId
    call.metadata call.callerId call.conversationMode

/-- What the Host gets for this text of a response, which comes in time. -/
def result (json : SerdeJson) (read : String → List String)
    (rejects : String → String) (limit : String) (call : HostCall)
    (text : String) (ends : Bool) : Value :=
  callA2aSend json rejects limit call.args (.ok (bodyItems read text ends))

/-- What the Host gets when a body ends without an event. -/
def unanswered : Value :=
  renderFailed "remote stream ended without a terminal status-update"
    .protocolError (some "t-unknown")

/-- What the Host gets when a body without an event stays open. -/
def timedOut : Value :=
  renderFailed OutboundError.remoteTimeout.text .remoteTimeout
    (some "t-unknown")

end HostCall

namespace HostCall

open CallHandler Http

variable {json : SerdeJson} {read : String → List String}
variable {rejects : String → String} {limit : String}
variable {state prompted : ServeState} {header : Option String}
variable {env : Surroundings} {begun : Begun} {sink : SseSink}
variable {call : HostCall} {request : PromptRequest}

/-! ## The request -/

theorem body_parsed (call : HostCall) :
    JsonRpcRequest.ofValue call.body =
      some
        { jsonrpc := "2.0"
          id := .number (.int 1)
          method := "SendStreamingMessage"
          params := call.params } := by
  simp [JsonRpcRequest.ofValue, body, params, Outbound.buildRequestBody,
    Outbound.object, Outbound.get_object, KeyOrder.insertAll,
    KeyOrder.member_insert, Value.structMembers, Value.asStr]

theorem posted
    (prints : json.Prints call.body) :
    postStream json state (json.toText call.body) header env =
      some
        (handleMessageStream json state
          { jsonrpc := "2.0"
            id := .number (.int 1)
            method := "SendStreamingMessage"
            params := call.params } header env) := by
  simp [postStream, prints.reads, body_parsed]

/-- The parameters are read as the call has them. -/
theorem request_of_parsed
    {caller : Option String}
    (parsed : parseRequest json state.cfg call.params caller =
      .ok request) :
    request.parsed.id = call.taskId.map TaskId.mk ∧
      request.parsed.message.parts = [.text call.message] := by
  have decoded :=
    Outbound.requestParams_parsed call.conversationId call.message
      call.taskId call.metadata call.callerId call.conversationMode
  unfold parseRequest at parsed
  rw [params, decoded] at parsed
  simp only at parsed
  split at parsed
  · cases parsed
  · cases parsed
    exact ⟨rfl, rfl⟩

/-- A request that was accepted: the agent gets the message of the Host, and
where no Task waits for input, the Task is a new one. -/
theorem begun_of_prepared
    (noInput : ∀ id binding, state.tasks.bindings id = some binding →
      binding.state ≠ .inputRequired)
    (prepared : preparePrompt json state call.params header env =
      (.ok (begun, sink), prompted)) :
    begun.content = [.text call.message] ∧
      ∃ conversation session,
        prompted.tasks.bindings begun.taskId =
          some (TaskRegistry.freshBinding conversation session) := by
  have begins : beginPrompt json state call.params
      (headerCaller state.cfg.callerIdentity header) env =
        (.ok begun, prompted) := by
    unfold preparePrompt at prepared
    rcases isBegun : beginPrompt json state call.params
        (headerCaller state.cfg.callerIdentity header) env with
      ⟨error | started, after⟩
    · rw [isBegun] at prepared
      cases prepared
    · rw [isBegun] at prepared
      dsimp only at prepared
      cases hasSink : after.tasks.sink started.taskId with
      | none =>
          rw [hasSink] at prepared
          cases prepared
      | some known =>
          rw [hasSink] at prepared
          cases prepared
          rfl
  obtain ⟨request, opened, session, parsed, sameTasks, _, entered⟩ :=
    begun_of_ok begins
  have ⟨sameId, sameParts⟩ := request_of_parsed parsed
  refine ⟨?_, ?_⟩
  · rcases beginPrompt_parsed parsed with
      ⟨_, _, _, _, _, _, sends⟩ | ⟨_, error, after, failed, _⟩
    · rw [begins] at sends
      obtain ⟨_, sent, _⟩ := sendParts_ok sends.symm
      rw [sent, sameParts]
      rfl
    · rw [begins] at failed
      cases failed
  · unfold enterTask at entered
    rw [sameId, sameTasks] at entered
    cases isTask : call.taskId with
    | some existing =>
        rw [isTask] at entered
        have refused : ∃ error,
            state.tasks.acceptContinuation ⟨existing⟩ = .error error := by
          unfold TaskRegistry.acceptContinuation
          cases known : state.tasks.bindings ⟨existing⟩ with
          | none => exact ⟨_, rfl⟩
          | some binding =>
              simp only [ne_eq, noInput _ _ known, not_false_eq_true, if_true]
              exact ⟨_, rfl⟩
        obtain ⟨error, refused⟩ := refused
        simp only [Option.map_some, refused] at entered
        cases entered
    | none =>
        rw [isTask] at entered
        simp only [Option.map_none, Except.ok.injEq, Prod.mk.injEq] at entered
        obtain ⟨isNew, isPrompted⟩ := entered
        rw [← isNew, ← isPrompted]
        exact ⟨_, _, TaskRegistry.create_self _ _ _ _⟩

/-! ## The response -/

theorem result_of_silence
    {text : String} {ends : Bool} (silent : read text = []) :
    call.result json read rejects limit text ends =
      if ends then unanswered else timedOut := by
  rw [result, bodyItems, silent]
  cases ends <;> rfl

theorem timedOut_ne_unanswered : timedOut ≠ unanswered := by
  intro same
  have kinds := congrArg errorKind same
  rw [timedOut, unanswered, (read_renderFailed _ _ _).2,
    (read_renderFailed _ _ _).2] at kinds
  revert kinds
  decide

theorem errorKind_unanswered :
    errorKind unanswered = some "protocol_error" :=
  (read_renderFailed _ .protocolError _).2

/-- No final status is a protocol error. -/
theorem not_unanswered_of_final (task : Task) :
    renderOutcome (outcomeOfFinal task) ≠ unanswered := by
  have noKind : ∀ value : Value, errorKind value ≠ some "protocol_error" →
      value ≠ unanswered := by
    intro value other same
    rw [same, errorKind_unanswered] at other
    exact other rfl
  have failed : ∀ reason kind taskId, kind ≠ .protocolError →
      renderFailed reason kind taskId ≠ unanswered := by
    intro reason kind taskId other
    apply noKind
    rw [(read_renderFailed reason kind taskId).2]
    cases kind <;> simp_all [ErrorKind.wireName]
  have answered : ∀ value : Value, isError value = some false →
      value ≠ unanswered := by
    intro value notError same
    rw [same, unanswered, (read_renderFailed _ _ _).1] at notError
    cases notError
  unfold outcomeOfFinal
  cases task.status.state with
  | completed => exact answered _ (read_renderCompleted task).1
  | inputRequired => exact answered _ (read_renderInputRequired task).1
  | canceled => exact failed _ .remoteCanceled _ (by simp)
  | _ => exact failed _ .remoteFailed _ (by simp)

/-- A body of events is read back from any text that is sent for it. -/
theorem read_of_sent
    {sent : List SseEvent} {ends : Bool} {text : String}
    (reads : ReadsEvents read)
    (prints : ∀ event, event ∈ sent → json.Prints event.toValue)
    (isSent : ResponseBody.Sent json (.events sent ends) text) :
    read text = sent.map fun event => json.toText event.toValue := by
  cases isSent with
  | events _ _ frames isData comments =>
      exact read_of_frames reads prints isData comments

/-- The Host gets the turn as the Client Shim folds it. -/
theorem result_of_turn
    {registry : TaskRegistry} {id : TaskId} {stream : List StreamItem}
    {conversation session text : String} (nonempty : stream ≠ [])
    (fresh : registry.bindings id =
      some (TaskRegistry.freshBinding conversation session))
    (prints : ∀ event, event ∈ receivedEvents json registry id stream →
      json.Prints event.toValue)
    (isRead : read text =
      (receivedEvents json registry id stream).map fun event =>
        json.toText event.toValue) :
    call.result json read rejects limit text
        (bodyEnds json registry id stream) =
      renderOutcome
        (outcomeOfFinal (drivenTask json id stream call.args)) := by
  have items :
      bodyItems read text (bodyEnds json registry id stream) =
        (receivedEvents json registry id stream).map fun event =>
          .event (json.toText event.toValue) false := by
    rw [bodyItems, isRead, bodyEnds_of_fresh fresh, List.map_map]
    simp [nonempty, Function.comp_def]
  have read := @stream_of_turn json registry id stream rejects limit
    conversation session nonempty fresh prints
  have driven :=
    @driveStream_of_fresh json registry id stream conversation session
      call.args nonempty fresh
  rw [result, items]
  simp only [callA2aSend]
  rw [read, driven]

/-! ## The whole call -/

/-- Whatever the requests before have left: a Host gets the turn of the agent,
which was asked what the Host has said.  If the agent ended at once, the body
stays open, and the Host gets the timeout.  Only a request that was refused
gets the failure of a body without an event. -/
theorem turn_or_silence_reaches_host
    {cfg : ServeConfig} {server : Server} {trace : List Server.Action}
    {maxActive idleWindow now : Nat} {loaded : List (String × SessionId)}
    {answer : ResponseBody} {text : String}
    (run : Machine.Run (Server.step json cfg) Machine.free
      (Server.start maxActive idleWindow now loaded) trace server)
    (sameTasks : state.tasks = server.shared.tasks)
    (reads : ReadsEvents read) (bodyPrints : json.Prints call.body)
    (answers :
      postStream json state (json.toText call.body) header env = some answer)
    (printed : answer.Printed json) (sent : answer.Sent json text) :
    (∀ begun sink after,
      preparePrompt json state call.params header env =
          (.ok (begun, sink), after) →
        begun.content = [.text call.message] ∧
          call.result json read rejects limit text answer.ends =
            if begun.stream = [] then timedOut
            else
              renderOutcome
                (outcomeOfFinal
                  (drivenTask json begun.taskId begun.stream call.args))) ∧
      (call.result json read rejects limit text answer.ends = unanswered ↔
        ∀ begun sink after,
          preparePrompt json state call.params header env ≠
            (.ok (begun, sink), after)) := by
  have noInput : ∀ id binding, state.tasks.bindings id = some binding →
      binding.state ≠ .inputRequired := by
    rw [sameTasks]
    exact (Server.turns_of_run run).1.noInput
  rw [posted bodyPrints] at answers
  have isAnswer := Option.some.inj answers
  subst isAnswer
  rcases prepared : preparePrompt json state call.params header env with
    ⟨error | ⟨begun, sink⟩, prompted⟩
  · -- the body is the error, and no event stream
    simp only [handleMessageStream, prepared] at printed sent ⊢
    have silent : read text = [] := by
      cases sent with
      | json value => exact reads.unterminated _ printed.escapes
    refine ⟨?_, fun _ => ?_, fun _ => result_of_silence silent⟩
    · intro begun sink after accepted
      cases accepted
    · intro begun sink after accepted
      cases accepted
  · obtain ⟨isContent, conversation, session, fresh⟩ :=
      begun_of_prepared noInput prepared
    simp only [handleMessageStream, prepared] at printed sent ⊢
    have isRead := read_of_sent reads printed sent
    have isResult :
        call.result json read rejects limit text
            (bodyEnds json prompted.tasks begun.taskId begun.stream) =
          if begun.stream = [] then timedOut
          else
            renderOutcome
              (outcomeOfFinal
                (drivenTask json begun.taskId begun.stream call.args)) := by
      by_cases isEmpty : begun.stream = []
      · have silent : read text = [] := by
          rw [isRead, isEmpty, receivedEvents_of_empty fresh]
          rfl
        rw [result_of_silence silent, bodyEnds_of_fresh fresh, if_pos isEmpty,
          isEmpty]
        rfl
      · rw [if_neg isEmpty]
        exact result_of_turn isEmpty fresh printed isRead
    refine ⟨?_, ?_, fun refused => absurd rfl (refused begun sink prompted)⟩
    · intro other otherSink after same
      cases same
      exact ⟨isContent, isResult⟩
    · intro isUnanswered
      simp only [ResponseBody.ends] at isUnanswered
      rw [isResult] at isUnanswered
      split at isUnanswered
      · exact absurd isUnanswered timedOut_ne_unanswered
      · exact absurd isUnanswered (not_unanswered_of_final _)

def helloCall : HostCall :=
  { conversationId := "c", message := "hi", taskId := none, metadata := none
    callerId := none, conversationMode := none }

def helloBody : String :=
  "\x7b\"id\":1,\"jsonrpc\":\"2.0\"," ++
    "\"method\":\"SendStreamingMessage\"," ++
      "\"params\":\x7b\"message\":\x7b\"metadata\":" ++
        "\x7b\"x-a2a-shim/conversation\":\"c\"\x7d," ++
          "\"parts\":[\x7b\"text\":\"hi\"\x7d],\"role\":\"user\"\x7d\x7d\x7d"

/-- A turn of one chunk reaches the Host, with a comment in between. -/
theorem hello_reaches_host :
    ∃ (json : SerdeJson) (text : String) (task : Task),
      helloCall.result json EventStream.events id "60s" text true =
          renderOutcome (outcomeOfFinal task) ∧
        task.status.state = .completed ∧
          concatenateArtifactText task = "hello" := by
  let json := SerdeJson.ofTable ((helloCall.body, helloBody) :: helloTable)
  let state := Server.plainState
  let env : Surroundings :=
    { now := 7, holder := 0, sessionNew := .ok "s", newTaskId := ⟨"t"⟩
      rowInserted := true, taskRecorded := true, prompted := .ok helloStream
      turnRows := fun rows => rows }
  let sent : List SseEvent :=
    [Bridge.workingEvent ⟨"t"⟩,
      .artifact ⟨"t"⟩ (Bridge.answerArtifact (.text "hello")) false,
      .status ⟨"t"⟩ (Bridge.statusForStop .endTurn) true]
  let frames : List Frame :=
    [.data workingText, .data helloText, .comment " keepalive",
      .data completedText]
  have bodyPrints : json.Prints helloCall.body :=
    .of_text rfl (by simp [json, SerdeJson.ofTable]) (by decide +kernel)
  obtain ⟨begun, sink, after, prepared, isTask, isStream⟩ :
      ∃ begun sink after,
        preparePrompt json state helloCall.params none env =
            (.ok (begun, sink), after) ∧
          begun.taskId = ⟨"t"⟩ ∧ begun.stream = helloStream :=
    ⟨_, _, _, rfl, rfl, rfl⟩
  have answers :
      postStream json state (json.toText helloCall.body) none env =
        some (.events sent true) := by
    rw [posted bodyPrints]
    rfl
  have printed : ResponseBody.Printed json (.events sent true) := by
    intro event member
    simp only [sent, List.mem_cons, List.not_mem_nil, or_false] at member
    rcases member with rfl | rfl | rfl
    · exact .of_text rfl (by decide) (escapes_append rfl rfl)
    · exact .of_text rfl (by decide)
        (escapes_append (escapes_append rfl rfl) rfl)
    · exact .of_text rfl (by decide) (escapes_append rfl rfl)
  have isSent : ResponseBody.Sent json (.events sent true)
      (String.join (frames.map Frame.text)) := by
    refine .events sent true frames rfl ?_
    intro text member char inText
    simp only [frames, List.mem_cons, List.not_mem_nil, or_false,
      reduceCtorEq, false_or, Frame.comment.injEq] at member
    subst member
    have escapes : ((Frame.comment " keepalive").line.all fun char =>
        32 ≤ char.toNat) = true :=
      rfl
    exact of_decide_eq_true (List.all_eq_true.mp escapes char inText)
  have whole :=
    @turn_or_silence_reaches_host json EventStream.events id "60s" state none
      env helloCall Server.plainConfig (Server.start 10 60 0 []) [] 10 60 0 []
      _ _ .start rfl EventStream.readsEvents_events bodyPrints answers printed
      isSent
  obtain ⟨_, isTurn⟩ := whole.1 begun sink after prepared
  rw [isTask, isStream, if_neg (by simp [helloStream])] at isTurn
  exact ⟨json, _, _, isTurn, rfl, rfl⟩

end HostCall

end A2AShim
