import A2AShim.Serve.CallerPartition
import A2AShim.Serve.PushMirror
import A2AShim.Serve.PushRequests
import A2AShim.Serve.SseBody
import A2AShim.Serve.TaskRows
import A2AShim.Serve.TaskViews

/-!
# The server and its database

The server at work, with the tables it writes.  A thread that has issued
statements goes on when they have been executed; without a database they do
nothing.  A request that is answered under one lock is answered at once; one
that needs the table of push configurations too is cut in between.
-/

namespace A2AShim

inductive RpcMethod where
  | sendMessage
  | sendStreamingMessage
  | subscribeToTask
  | getTask
  | cancelTask
  | listTasks
  | createPushConfig
  | getPushConfig
  | listPushConfigs
  | deletePushConfig
  | reset
  | unknown (name : String)
  deriving DecidableEq, Repr

def RpcMethod.ofString : String → RpcMethod
  | "SendMessage" => .sendMessage
  | "SendStreamingMessage" => .sendStreamingMessage
  | "SubscribeToTask" => .subscribeToTask
  | "GetTask" => .getTask
  | "CancelTask" => .cancelTask
  | "ListTasks" => .listTasks
  | "CreateTaskPushNotificationConfig" => .createPushConfig
  | "GetTaskPushNotificationConfig" => .getPushConfig
  | "ListTaskPushNotificationConfigs" => .listPushConfigs
  | "DeleteTaskPushNotificationConfig" => .deletePushConfig
  | "_shim/conversation/reset" => .reset
  | other => .unknown other

inductive RpcAnswer where
  | error (error : JsonRpcError)
  | task (task : Task)
  | tasks (page : List Task × Option String)
  | push (result : Value)
  | reset (cleared : Bool) (cancelledTaskIds : List TaskId)
  | body (body : SseBody)
  deriving DecidableEq

def RpcAnswer.of {α : Type} (wrap : α → RpcAnswer) :
    Except JsonRpcError α → RpcAnswer
  | .error failure => .error failure
  | .ok result => wrap result

namespace Http

def methodNotFound (name : String) : JsonRpcError :=
  { code := Codes.methodNotFound
    message := "method not found: " ++ name
    data := none }

/-- The body of a subscriber as it is when it begins. -/
def handleSubscribeToTask (json : SerdeJson) (params : Value)
    (tasks : TaskRegistry) : Except JsonRpcError SseBody :=
  match TaskIdParams.ofValue params with
  | none => .error (invalidParams ("invalid params: " ++ json.rejection params))
  | some parsed =>
      match tasks.sink parsed.id with
      | none => .error (taskNotFound parsed.id)
      | some sink => .ok (SseBody.subscribe sink)

end Http

/-! ## The statements of a thread -/

/-- `record_task` after a change of state. -/
def TaskRegistry.recorded (tasks : TaskRegistry) (id : TaskId)
    (state : TaskState) : Statement :=
  .recordTask id.text (conversationOf tasks id) (stateStr state)

/-- What a handler executes where it stands. -/
def Handler.statements (cfg : ServeConfig) (tasks : TaskRegistry)
    (handler : Handler) : List Statement :=
  match handler.pc with
  | .insertRow session =>
      [.insertConversation handler.request.key session cfg.cwd
        (handler.request.callerId.getD "anonymous")]
  | .record _ _ taskId =>
      [.recordTask taskId.text handler.request.key "submitted"]
  | .bridging _ call =>
      match call.pc with
      | .recordWorking _ => [tasks.recorded call.taskId .working]
      | .recordFinal status => [tasks.recorded call.taskId status.state]
      | _ => []
  | _ => []

/-- The statements that a step of a thread leads to. -/
def Thread.statements (cfg : ServeConfig) (tasks : TaskRegistry) :
    Thread → Thread → List Statement
  | .prompt _, .prompt after => after.statements cfg tasks
  | .cancel before, .cancel after =>
      match before.pc, after.pc with
      | .cancel, .find => [tasks.recorded after.taskId .canceled]
      | _, _ => []
  | .reset before, .reset after =>
      match before.pc, after.pc with
      | .canceling _ (id :: _) canceled, .canceling _ _ later =>
          if later = canceled then [] else [tasks.recorded id .canceled]
      | .await _, .remove _ => [.deleteConversation after.key]
      | _, _ => []
  | .sweep (.remove keys), .sweep (.done _) =>
      keys.map Statement.deleteConversation
  | _, _ => []

/-! ## Requests that wait for the table -/

/-- A call of the registry that has waited for the database.  An insertion
knows whether its row was stored; of a deletion the row has gone; and what is
looked for was not in the lists.  The deletion of a worker has no answer. -/
inductive PushCall where
  | insert (config : PushNotificationConfig) (out : Value) (stored : Bool)
  | delete (configId : String) (out : Option Value)
  | look (configId : String)
  deriving DecidableEq

/-- How far a request on the registry comes before it waits. -/
inductive PushBegin where
  | answered (result : Except JsonRpcError Value)
  | waits (configs : PushConfigs) (call : PushCall)

namespace Http

/-- What the registry's `get` returns is the answer. -/
def pushFound (configId : String) :
    Option PushNotificationConfig → Except JsonRpcError Value
  | none => .error (pushConfigNotFound configId)
  | some config => .ok (pushConfigToWire config)

def insertFailed : JsonRpcError :=
  internalError ("push registry insert: " ++ PushConfigs.foreignKeyFailed)

end Http

/-- The lists are written, or the table is looked into. -/
def PushCall.finish (configs : PushConfigs) :
    PushCall → Option (Except JsonRpcError Value) × PushConfigs
  | .insert config out true => (some (.ok out), configs.insertInner config)
  | .insert _ _ false => (some (.error Http.insertFailed), configs)
  | .delete configId out => (out.map .ok, configs.deleteInner configId)
  | .look configId =>
      (some (Http.pushFound configId (configs.getRow configId)), configs)

namespace Http

def beginPushCreate (parsed : PushConfigParams) (now : Nat) (newId : String)
    (configs : PushConfigs) : PushBegin :=
  match pushConfigOf parsed newId with
  | .error error => .answered (.error error)
  | .ok (config, out) =>
      match configs.insertRow config now with
      | none => .waits configs (.insert config out false)
      | some written => .waits written (.insert config out true)

def beginPushGet (parsed : PushConfigParams) (scan : List String)
    (configs : PushConfigs) : PushBegin :=
  match requireConfigId parsed with
  | .error error => .answered (.error error)
  | .ok configId =>
      match configs.getInner scan configId with
      | some config => .answered (.ok (pushConfigToWire config))
      | none => .waits configs (.look configId)

def beginPushDelete (parsed : PushConfigParams) (configs : PushConfigs) :
    PushBegin :=
  match requireConfigId parsed with
  | .error error => .answered (.error error)
  | .ok configId =>
      .waits (configs.deleteRow configId)
        (.delete configId (some (.object [("deleted", .bool true)])))

/-- Both halves of a request, with nothing in between. -/
def finishPush (configs : PushConfigs) :
    PushBegin → Option (Except JsonRpcError Value) × PushConfigs
  | .answered result => (some result, configs)
  | .waits begun call => call.finish begun

variable {parsed : PushConfigParams} {configs : PushConfigs}

theorem finishPush_create (now : Nat) (newId : String) :
    finishPush configs (beginPushCreate parsed now newId configs) =
      (some (handlePushCreate parsed now newId configs).1,
        (handlePushCreate parsed now newId configs).2) := by
  unfold handlePushCreate beginPushCreate
  cases pushConfigOf parsed newId with
  | error error => rfl
  | ok request =>
      obtain ⟨config, out⟩ := request
      simp only [PushConfigs.insert_eq]
      cases configs.insertRow config now with
      | none => rfl
      | some written => rfl

theorem finishPush_get (scan : List String) :
    finishPush configs (beginPushGet parsed scan configs) =
      (some (handlePushGet parsed scan configs), configs) := by
  unfold handlePushGet beginPushGet
  cases requireConfigId parsed with
  | error error => rfl
  | ok configId =>
      simp only [PushConfigs.get_eq]
      cases configs.getInner scan configId with
      | some config => rfl
      | none =>
          simp only [Option.none_or, finishPush, PushCall.finish]
          cases configs.getRow configId with
          | none => rfl
          | some config => rfl

theorem finishPush_delete :
    finishPush configs (beginPushDelete parsed configs) =
      (some (handlePushDelete parsed configs).1,
        (handlePushDelete parsed configs).2) := by
  unfold handlePushDelete beginPushDelete
  cases requireConfigId parsed with
  | error error => rfl
  | ok configId => rfl

end Http

/-! ## The machine -/

/-- `pending` are the statements a thread waits for, `calls` the requests that
wait for the table of push configurations, and the deletions of workers. -/
structure Live where
  server : Server
  keys : List String
  rows : Option Rows
  pending : Nat → List Statement
  calls : Pool Nat PushCall
  answers : List (Nat × RpcAnswer)

/-- What a request on push configurations gets from outside: the clock, a
random id, and the order in which the map of the registry is gone through. -/
structure Chance where
  now : Nat
  newId : String
  scan : List String
  deriving DecidableEq, Repr

namespace Live

/-- `deleteConfig` is that of a delivery worker; `finish` goes on with a call
of the registry that has waited for the database. -/
inductive Action where
  | request (name : Nat) (method : String) (params : Value)
      (header : Option String) (chance : Chance)
  | sweep (name : Nat)
  | work (name : Nat) (env : Env)
  | execute (name : Nat) (now : Nat)
  | deleteConfig (name : Nat) (configId : String)
  | finish (name : Nat)
  | acp (action : AcpClient.Action)
  deriving DecidableEq

/-- A process that finds these rows, none of them a conversation's. -/
def start (maxActive idleWindow now : Nat) (rows : Option Rows) : Live :=
  { server := Server.start maxActive idleWindow now []
    keys := []
    rows
    pending := fun _ => []
    calls := .empty
    answers := [] }

def tasks (live : Live) : TaskRegistry :=
  live.server.shared.tasks

def pushConfigs (live : Live) : PushConfigs :=
  { registry := live.server.shared.configs
    keys := live.keys
    rows := live.rows }

def withPushConfigs (live : Live) (configs : PushConfigs) : Live :=
  { live with
    server :=
      { live.server with
        shared := { live.server.shared with configs := configs.registry } }
    keys := configs.keys
    rows := configs.rows }

def answer (live : Live) (name : Nat) (result : RpcAnswer) : Live :=
  { live with answers := live.answers ++ [(name, result)] }

variable (json : SerdeJson) (cfg : ServeConfig) (pushEnabled : Bool)

def serverStep (live : Live) (action : Server.Action) : Option Live :=
  (Server.step json cfg action live.server).map fun server =>
    { live with server }

/-- The prompt handlers: what does not parse is answered at once. -/
def prompt (live : Live) (name : Nat) (method : Method) (params : Value)
    (header : Option String) : Option Live :=
  match Http.parseRequest json cfg params
      (Http.headerCaller cfg.callerIdentity header) with
  | .error error => some (live.answer name (.error error))
  | .ok _ => live.serverStep json cfg (.request name method params header)

def cancelTask (live : Live) (name : Nat) (params : Value) : Option Live :=
  match TaskIdParams.ofValue params with
  | none =>
      some (live.answer name
        (.error (Http.invalidParams
          ("invalid params: " ++ json.rejection params))))
  | some parsed => live.serverStep json cfg (.cancelTask name parsed.id)

def resetConversation (live : Live) (name : Nat) (params : Value)
    (header : Option String) : Option Live :=
  match Http.ConversationResetParams.ofValue params with
  | none =>
      some (live.answer name
        (.error (Http.invalidParams
          ("invalid params: " ++ json.rejection params))))
  | some parsed =>
      live.serverStep json cfg
        (.reset name parsed.conversationId parsed.callerId header)

/-- A call of the registry waits under its name. -/
def wait (live : Live) (name : Nat) (configs : PushConfigs)
    (call : PushCall) : Live :=
  { live.withPushConfigs configs with calls := live.calls.put name call }

/-- A request on the registry of push configurations. -/
def push (live : Live) (name : Nat) (params : Value)
    (begins : PushConfigParams → PushConfigs → PushBegin) : Option Live :=
  match live.calls name with
  | some _ => none
  | none =>
      match Http.pushParams json pushEnabled params with
      | .error error => some (live.answer name (.error error))
      | .ok parsed =>
          match begins parsed live.pushConfigs with
          | .answered result => some (live.answer name (.of .push result))
          | .waits configs call => some (live.wait name configs call)

/-- `dispatch`, and the two methods that answer with a stream. -/
def request (live : Live) (name : Nat) (params : Value)
    (header : Option String) (chance : Chance) : RpcMethod → Option Live
  | .sendMessage => live.prompt json cfg name .send params header
  | .sendStreamingMessage => live.prompt json cfg name .stream params header
  | .subscribeToTask =>
      some (live.answer name
        (.of .body (Http.handleSubscribeToTask json params live.tasks)))
  | .getTask =>
      some (live.answer name
        (.of .task (Http.handleTasksGet json params live.tasks)))
  | .cancelTask => live.cancelTask json cfg name params
  | .listTasks =>
      some (live.answer name
        (.of .tasks (Http.handleListTasks json params live.tasks)))
  | .createPushConfig =>
      live.push json pushEnabled name params fun parsed =>
        Http.beginPushCreate parsed chance.now chance.newId
  | .getPushConfig =>
      if chance.scan.Perm live.keys then
        live.push json pushEnabled name params fun parsed =>
          Http.beginPushGet parsed chance.scan
      else
        none
  | .listPushConfigs =>
      live.push json pushEnabled name params fun parsed configs =>
        .answered (Http.handlePushList parsed configs)
  | .deletePushConfig =>
      live.push json pushEnabled name params Http.beginPushDelete
  | .reset => live.resetConversation json cfg name params header
  | .unknown other =>
      some (live.answer name (.error (Http.methodNotFound other)))

/-- A step of a thread that waits for no statement. -/
def work (live : Live) (name : Nat) (env : Env) : Option Live :=
  match live.pending name with
  | _ :: _ => none
  | [] =>
      (live.serverStep json cfg (.work name env)).map fun next =>
        let issued :=
          match live.server.threads name, next.server.threads name with
          | some before, some after => before.statements cfg next.tasks after
          | _, _ => []
        { next with pending := Function.update next.pending name issued }

def execute (live : Live) (name now : Nat) : Option Live :=
  match live.pending name with
  | [] => none
  | statement :: rest =>
      some
        { live with
          rows := live.rows.map fun rows => statement.execute now rows
          pending := Function.update live.pending name rest }

/-- A worker has deleted the row. -/
def deleteConfig (live : Live) (name : Nat) (configId : String) :
    Option Live :=
  match live.calls name with
  | some _ => none
  | none =>
      some (live.wait name (live.pushConfigs.deleteRow configId)
        (.delete configId none))

/-- A call has come to its end. -/
def settle (live : Live) (name : Nat)
    (done : Option (Except JsonRpcError Value) × PushConfigs) : Live :=
  let settled :=
    { live.withPushConfigs done.2 with calls := live.calls.remove name }
  match done.1 with
  | some result => settled.answer name (.of .push result)
  | none => settled

def finish (live : Live) (name : Nat) : Option Live :=
  (live.calls name).map fun call =>
    live.settle name (call.finish live.pushConfigs)

def step : Action → Live → Option Live
  | .request name method params header chance, live =>
      live.request json cfg pushEnabled name params header chance
        (.ofString method)
  | .sweep name, live => live.serverStep json cfg (.sweep name)
  | .work name env, live => live.work json cfg name env
  | .execute name now, live => live.execute name now
  | .deleteConfig name configId, live => live.deleteConfig name configId
  | .finish name, live => live.finish name
  | .acp action, live => live.serverStep json cfg (.acp action)

/-! ## Results -/

/-- What a thread has answered.  A stream has no answer of its own. -/
def threadAnswer : Thread → Option RpcAnswer
  | .prompt handler =>
      match handler.pc with
      | .returned (.ok (some task)) => some (.task task)
      | .returned (.error error) => some (.error error)
      | _ => none
  | .cancel canceling =>
      match canceling.pc with
      | .returned (.ok task) => some (.task task)
      | .returned (.error error) => some (.error error)
      | _ => none
  | .reset resetting =>
      match resetting.pc with
      | .returned cleared canceled => some (.reset cleared canceled)
      | _ => none
  | .sweep _ => none

/-- The answers to all requests, what the streams are cut from, and the jobs
for the delivery workers. -/
structure Results where
  answers : List (Nat × RpcAnswer)
  returned : Nat → Option RpcAnswer
  sinks : TaskId → Option SseSink
  jobs : List DeliveryJob

def results (live : Live) : Results :=
  { answers := live.answers
    returned := fun name => (live.server.threads name).bind threadAnswer
    sinks := live.tasks.sink
    jobs := live.server.shared.jobs }

end Live

end A2AShim
