import A2AShim.Serve.BridgeOutcome
import A2AShim.Serve.CallerPartition
import A2AShim.Serve.Continuation
import A2AShim.Serve.TaskPages

/-!
# The views of a finished Task

The final frame takes its status from the bridge, every other view from the
binding, which has no status message and keeps the partition key as the
conversation id.
-/

namespace A2AShim

/-- Parameters of `GetTask`. -/
structure TaskIdParams where
  id : TaskId
  deriving DecidableEq, Repr

def TaskIdParams.ofValue (value : Value) : Option TaskIdParams := do
  let members ← value.structMembers ["id"]
  let id ← (← members.get "id").asStr
  return { id := ⟨id⟩ }

namespace TaskRegistry

open Machine

variable {registry later : TaskRegistry} {id : TaskId} {binding : TaskBinding}

/-- No call changes the binding of a finished Task. -/
theorem run_keeps_finished
    {call : Call} (terminal : binding.state.isTerminal = true)
    (found : registry.bindings id = some binding)
    (fresh : call.FreshId registry) :
    (call.run registry).2.bindings id = some binding := by
  have isOther : ∀ {target : TaskId} {before : TaskBinding},
      registry.bindings target = some before →
        before.state.isTerminal = false → id ≠ target := by
    intro target before isBefore active same
    subst same
    rw [found] at isBefore
    cases isBefore
    rw [terminal] at active
    cases active
  cases call with
  | create created conversationId acpSessionId =>
      have different : id ≠ created := by
        intro same
        have unknown := fresh created conversationId acpSessionId rfl
        rw [← same, found] at unknown
        cases unknown
      simp only [Call.run, Call.outcome]
      rw [create_other different, found]
  | transition target toState =>
      cases outcome : registry.transition target toState with
      | error error => simpa only [Call.run, Call.outcome, outcome] using found
      | ok updated =>
          obtain ⟨before, isBefore, legal, rfl⟩ :=
            transition_ok_iff.mp outcome
          have active := (arrow_of_isLegal legal).1.source_not_terminal
          simp only [Call.run, Call.outcome, outcome]
          rw [put_other (isOther isBefore active), found]
  | acceptContinuation target =>
      cases outcome : registry.acceptContinuation target with
      | error error => simpa only [Call.run, Call.outcome, outcome] using found
      | ok updated =>
          obtain ⟨before, isBefore, waiting, rfl⟩ :=
            acceptContinuation_ok_iff.mp outcome
          have active : before.state.isTerminal = false := by
            rw [waiting]
            rfl
          simp only [Call.run, Call.outcome, outcome]
          rw [put_other (isOther isBefore active), found]
  | cancel target =>
      cases outcome : registry.cancel target with
      | error error => simpa only [Call.run, Call.outcome, outcome] using found
      | ok updated =>
          obtain ⟨before, isBefore, active, rfl⟩ := cancel_ok_iff.mp outcome
          simp only [Call.run, Call.outcome, outcome]
          rw [put_other (isOther isBefore active), found]

theorem finished_stays
    {calls : List Call} (terminal : binding.state.isTerminal = true)
    (found : registry.bindings id = some binding)
    (run : Run Call.step (fun registry call => call.FreshId registry) registry
      calls later) :
    later.bindings id = some binding := by
  refine run.invariant (fun current => current.bindings id = some binding)
    found ?_
  intro source call target before fresh taken
  cases taken
  exact run_keeps_finished terminal before fresh

end TaskRegistry

namespace Http

open Machine

variable (json : SerdeJson)

def taskNotFound (id : TaskId) : JsonRpcError :=
  { code := Codes.taskNotFound
    message := "task not found: " ++ id.text
    data := none }

def handleTasksGet (params : Value) (tasks : TaskRegistry) :
    Except JsonRpcError Task :=
  match TaskIdParams.ofValue params with
  | none => .error (invalidParams ("invalid params: " ++ json.rejection params))
  | some parsed =>
      match tasks.snapshot parsed.id with
      | none => .error (taskNotFound parsed.id)
      | some snap => .ok snap

/-! ## What a client can see -/

/-- An answer of the registry that shows the Task `id`. -/
inductive Shows (registry : TaskRegistry) (id : TaskId) (task : Task) : Prop
  | getTask (params : Value)
      (answered : handleTasksGet json params registry = .ok task)
      (same : task.id = id) : Shows registry id task
  | listTasks (params : Value) (page : List Task × Option String)
      (answered : handleListTasks json params registry = .ok page)
      (listed : task ∈ page.1) (same : task.id = id) : Shows registry id task

/-- The registry when the bridge has returned. -/
def turnRegistry (begun : Begun) (prompted : ServeState) : TaskRegistry :=
  (Bridge.runSession json prompted.tasks begun.taskId begun.stream).2

/-- What shows the Task of a turn: the answer of `SendMessage`, and the
answers of the registry at any time after the turn. -/
inductive View (state : ServeState) (params : Value) (header : Option String)
    (env : Surroundings) (begun : Begun) (prompted : ServeState)
    (task : Task) : Prop
  | sendMessage
      (answered :
        (handleMessageSend json state params header env).1 = .ok task) :
      View state params header env begun prompted task
  | later (calls : List TaskRegistry.Call) (registry : TaskRegistry)
      (run : Run TaskRegistry.Call.step
        (fun registry call => call.FreshId registry)
        (turnRegistry json begun prompted) calls registry)
      (shown : Shows json registry begun.taskId task) :
      View state params header env begun prompted task

/-- The turn from `before` to `after` ends with a final frame. -/
def SendsFinal (before after : TaskRegistry) (id : TaskId)
    (status : TaskStatus) : Prop :=
  ∃ early late frames,
    before.bindings id = some early ∧ after.bindings id = some late ∧
      late.sink.sent =
        early.sink.sent ++ frames ++ [.event (.status id status true)]

def sentConversation (params : Value) : Option String :=
  (SendMessageParams.ofValue params).bind fun parsed =>
    parsed.message.metadata.bind MessageMetadata.conversation

def sentTask (params : Value) : Option TaskId :=
  (SendMessageParams.ofValue params).bind SendMessageParams.id

/-- The turn has a final frame, and every view has the status of that frame
and the conversation id of the request. -/
def ViewsAgree (state : ServeState) (params : Value) (header : Option String)
    (env : Surroundings) (begun : Begun) (prompted : ServeState) : Prop :=
  ∃ status,
    SendsFinal prompted.tasks (turnRegistry json begun prompted) begun.taskId
        status ∧
      ∀ task, View json state params header env begun prompted task →
        task.status.state = status.state ∧
          task.status.message = status.message ∧
            task.contextId = sentConversation params

/-! ## The turn of a request -/

variable {json}
variable {state opened prompted : ServeState} {params : Value}
variable {header : Option String} {env : Surroundings} {begun : Begun}
variable {request : PromptRequest} {registry : TaskRegistry} {id : TaskId}
variable {binding : TaskBinding}

theorem snapshot_of_found
    (found : registry.bindings id = some binding) :
    registry.snapshot id = some (binding.snapshot id) := by
  simp [TaskRegistry.snapshot, found]

theorem snapshot_of_listed
    {params : ListTasksParams} {task : Task}
    (listed : task ∈ (listTasks params registry).1) :
    registry.snapshot task.id = some task := by
  have taken : ∃ other, registry.snapshot other = some task := by
    unfold listTasks TaskRegistry.list at listed
    cases after : params.pageToken.map TaskId.mk with
    | none =>
        simp only [after, List.mem_filterMap] at listed
        obtain ⟨other, _, taken⟩ := listed
        exact ⟨other, taken⟩
    | some cursor =>
        simp only [after] at listed
        split at listed
        · obtain ⟨other, _, taken⟩ := List.mem_filterMap.mp listed
          exact ⟨other, taken⟩
        · cases listed
  obtain ⟨other, taken⟩ := taken
  rw [TaskRegistry.snapshot_id taken]
  exact taken

theorem Shows.snapshot
    {task : Task} (shown : Shows json registry id task) :
    registry.snapshot id = some task := by
  cases shown with
  | getTask params answered same =>
      unfold handleTasksGet at answered
      split at answered
      · cases answered
      · split at answered
        · cases answered
        · rename_i taken
          cases answered
          rw [← same, TaskRegistry.snapshot_id taken]
          exact taken
  | listTasks params page answered listed same =>
      unfold handleListTasks at answered
      split at answered
      · cases answered
      · cases answered
        rw [← same]
        exact snapshot_of_listed listed

/-- `GetTask` shows every Task. -/
theorem shows_of_found
    (found : registry.bindings id = some binding) :
    Shows json registry id (binding.snapshot id) := by
  refine .getTask (.object [("id", .string id.text)]) ?_ rfl
  have decoded :
      TaskIdParams.ofValue (.object [("id", .string id.text)]) =
        some { id } :=
    rfl
  simp only [handleTasksGet, decoded, snapshot_of_found found]

/-- What a request that was accepted has gone through. -/
theorem begun_of_ok
    (begins : beginPrompt json state params header env =
      (.ok begun, prompted)) :
    ∃ request opened session,
      parseRequest json state.cfg params header = .ok request ∧
        opened.tasks = state.tasks ∧ env.prompted = .ok begun.stream ∧
          enterTask opened request session env =
            (.ok begun.taskId, prompted) := by
  cases parsed : parseRequest json state.cfg params header with
  | error error =>
      simp [beginPrompt, parsed] at begins
  | ok request =>
      rcases @beginPrompt_parsed json state params header env request parsed
        with ⟨session, opened, guarded, _, sameTasks, _, sends⟩ |
          ⟨_, error, after, failed, _⟩
      · rw [begins] at sends
        obtain ⟨_, _, isStream, entered⟩ := sendParts_ok sends.symm
        exact ⟨request, opened, session, rfl, sameTasks, isStream, entered⟩
      · rw [begins] at failed
        cases failed

theorem sent_of_parsed
    {caller : Option String}
    (parsed : parseRequest json state.cfg params caller = .ok request) :
    ∃ conversationId, sentConversation params = some conversationId ∧
      sentTask params = request.parsed.id ∧
        request.key = partitionKey request.callerId conversationId := by
  unfold parseRequest at parsed
  split at parsed
  · cases parsed
  · rename_i message decoded
    split at parsed
    · cases parsed
    · rename_i conversationId named
      cases parsed
      exact ⟨conversationId, by simp [sentConversation, decoded, named],
        by simp [sentTask, decoded], rfl⟩

/-- A caller id makes the key longer than the conversation id. -/
theorem partitionKey_eq_self_iff
    (callerId : Option String) (conversationId : String) :
    partitionKey callerId conversationId = conversationId ↔
      callerId = none := by
  cases callerId with
  | none => simp [partitionKey]
  | some caller =>
      simp only [partitionKey, reduceCtorEq, iff_false]
      intro same
      have sameLength := congrArg String.length same
      simp [String.length_append] at sameLength

theorem resolveCallerId_eq_none_iff
    (identity : CallerIdentityConfig) (caller metadata : Option String) :
    resolveCallerId identity caller metadata = none ↔
      identity.enabled = false := by
  cases enabled : identity.enabled with
  | false => simp [resolveCallerId, enabled]
  | true =>
      obtain ⟨resolved, isResolved⟩ :=
        resolveCallerId_of_enabled enabled caller metadata
      simp [isResolved]

theorem message_of_turnStatus_iff (ending : Option StreamItem) :
    (Bridge.turnStatus ending).message = none ↔
      ending = some (.ok (.terminal .endTurn)) ∨
        ending = some (.ok (.terminal .cancelled)) := by
  rcases ending with _ | error | (update | reason)
  · simp [Bridge.turnStatus, Bridge.endedStatus, Bridge.failedStatus]
  · simp [Bridge.turnStatus, Bridge.errorStatus, Bridge.failedStatus]
  · simp [Bridge.turnStatus, Bridge.endedStatus, Bridge.failedStatus]
  · cases reason <;>
      simp [Bridge.turnStatus, Bridge.statusForStop,
        Bridge.statusMessageForStop]

theorem not_sendsFinal_of_same
    {status : TaskStatus} : ¬ SendsFinal registry registry id status := by
  intro given
  rcases given with ⟨early, late, frames, isEarly, isLate, sent⟩
  rw [isEarly] at isLate
  cases isLate
  have sameLength := congrArg List.length sent
  simp only [List.length_append, List.length_singleton] at sameLength
  omega

/-- The frame that comes last on the sink carries the final status. -/
theorem SendsFinal.last
    {before after : TaskRegistry} {status : TaskStatus} {late : TaskBinding}
    (final : SendsFinal before after id status)
    (found : after.bindings id = some late) :
    late.sink.sent.getLast? = some (.event (.status id status true)) := by
  obtain ⟨_, other, frames, _, isLate, sent⟩ := final
  rw [found] at isLate
  cases isLate
  rw [sent, List.getLast?_concat]

/-- A continued Task gets no final frame, or one that says why it failed,
which `GetTask` does not. -/
theorem not_viewsAgree_of_working
    (found : prompted.tasks.bindings begun.taskId = some binding)
    (working : binding.state = .working) :
    ¬ ViewsAgree json state params header env begun prompted := by
  intro given
  rcases given with ⟨status, final, views⟩
  cases isStream : begun.stream with
  | cons item rest =>
      have unable :
          prompted.tasks.transition begun.taskId .working =
            .error .illegal := by
        simp [TaskRegistry.transition, found, working, TaskRegistry.isLegal]
      have unchanged : turnRegistry json begun prompted = prompted.tasks := by
        rw [turnRegistry, isStream,
          Bridge.runSession_of_found json _ found]
        simp [Bridge.pump, Bridge.markWorking, unable]
      rw [unchanged] at final
      exact not_sendsFinal_of_same final
  | nil =>
      have finished :=
        Bridge.finishWith_of_found Bridge.endedStatus found
          (by rw [working]; rfl)
      have isTurn :
          turnRegistry json begun prompted =
            (Bridge.finishWith prompted.tasks begun.taskId
              Bridge.endedStatus).2 := by
        rw [turnRegistry, isStream, Bridge.runSession_of_found json _ found]
        rfl
      let failed : TaskBinding :=
        { binding with
          state := .failed
          sink :=
            binding.sink.publishFinal
              (.status begun.taskId Bridge.endedStatus true) }
      have isLate :
          (turnRegistry json begun prompted).bindings begun.taskId =
            some failed := by
        rw [isTurn, finished]
        exact TaskRegistry.put_self _ _ _
      by_cases opened : binding.sink.isOpen = true
      · have noMessage :=
          (views _ (.later [] _ .start (shows_of_found isLate))).2.1
        have last := final.last isLate
        simp only [failed, SseSink.publishFinal, SseSink.publish, opened,
          if_true, List.getLast?_concat, Option.some.injEq, SseFrame.event.injEq,
          SseEvent.status, SseEvent.statusUpdate.injEq,
          TaskStatusEnvelope.mk.injEq, and_true, true_and] at last
        rw [← last] at noMessage
        cases noMessage
      · obtain ⟨early, late, frames, isEarly, stillLate, sent⟩ := final
        rw [found] at isEarly
        cases isEarly
        rw [isLate] at stillLate
        cases stillLate
        have sameLength := congrArg List.length sent
        simp [failed, SseSink.publishFinal, SseSink.publish, opened]
          at sameLength

/-- After a first turn with any item, everything shows one snapshot. -/
theorem View.snapshot_of_fresh
    {conversation session : String} {task : Task}
    (begins : beginPrompt json state params
      (headerCaller state.cfg.callerIdentity header) env =
        (.ok begun, prompted))
    (fresh : prompted.tasks.bindings begun.taskId =
      some (TaskRegistry.freshBinding conversation session))
    (nonempty : begun.stream ≠ [])
    (view : View json state params header env begun prompted task) :
    task =
      (Bridge.finishedBinding json begun.taskId begun.stream conversation
        session).snapshot begun.taskId := by
  have returned := Bridge.runSession_of_fresh json nonempty fresh
  have found :
      (turnRegistry json begun prompted).bindings begun.taskId =
        some (Bridge.finishedBinding json begun.taskId begun.stream
          conversation session) := by
    rw [turnRegistry, returned, TaskRegistry.put_self]
  cases view with
  | sendMessage answered =>
      have taken := snapshot_of_found found
      rw [turnRegistry, returned] at taken
      simp only [handleMessageSend, begins, returned, taken] at answered
      cases answered
      rfl
  | later calls registry run shown =>
      have terminal :
          (Bridge.finishedBinding json begun.taskId begun.stream conversation
            session).state.isTerminal = true :=
        Bridge.turnState_isTerminal _
      have stays := TaskRegistry.finished_stays terminal found run
      have taken := shown.snapshot
      rw [snapshot_of_found stays] at taken
      exact (Option.some.inj taken).symm

theorem viewsAgree_of_fresh_iff
    {session : SessionId}
    (begins : beginPrompt json state params
      (headerCaller state.cfg.callerIdentity header) env =
        (.ok begun, prompted))
    (parsed : parseRequest json state.cfg params
      (headerCaller state.cfg.callerIdentity header) = .ok request)
    (fresh : prompted.tasks.bindings begun.taskId =
      some (TaskRegistry.freshBinding request.key session)) :
    ViewsAgree json state params header env begun prompted ↔
      request.callerId = none ∧
        (Bridge.turnStatus (Bridge.turnEnd begun.stream)).message = none ∧
          begun.stream ≠ [] := by
  obtain ⟨conversationId, sent, _, key⟩ := sent_of_parsed parsed
  constructor
  · intro given
    rcases given with ⟨status, final, views⟩
    have nonempty : begun.stream ≠ [] := by
      intro isEmpty
      have unchanged : turnRegistry json begun prompted = prompted.tasks := by
        rw [turnRegistry, isEmpty, Bridge.runSession_of_empty json fresh]
      rw [unchanged] at final
      exact not_sendsFinal_of_same final
    have found :
        (turnRegistry json begun prompted).bindings begun.taskId =
          some (Bridge.finishedBinding json begun.taskId begun.stream
            request.key session) := by
      rw [turnRegistry, Bridge.runSession_of_fresh json nonempty fresh,
        TaskRegistry.put_self]
    have last := final.last found
    simp only [Bridge.finishedBinding, List.getLast?_concat,
      Option.some.injEq, SseFrame.event.injEq, SseEvent.status,
      SseEvent.statusUpdate.injEq, TaskStatusEnvelope.mk.injEq, and_true,
      true_and] at last
    obtain ⟨_, sameMessage, sameContext⟩ :=
      views _ (.later [] _ .start (shows_of_found found))
    refine ⟨?_, ?_, nonempty⟩
    · rw [sent] at sameContext
      have sameKey : request.key = conversationId :=
        Option.some.inj sameContext
      rw [key] at sameKey
      exact (partitionKey_eq_self_iff _ _).mp sameKey
    · rw [last]
      exact sameMessage.symm
  · intro given
    rcases given with ⟨noCaller, noMessage, nonempty⟩
    have returned := Bridge.runSession_of_fresh json nonempty fresh
    refine ⟨Bridge.turnStatus (Bridge.turnEnd begun.stream), ?_, ?_⟩
    · have found :
          (turnRegistry json begun prompted).bindings begun.taskId =
            some (Bridge.finishedBinding json begun.taskId begun.stream
              request.key session) := by
        rw [turnRegistry, returned, TaskRegistry.put_self]
      exact ⟨_, _, .event (Bridge.workingEvent begun.taskId) ::
        Bridge.artifactFrames begun.taskId false
          (Bridge.turnParts json begun.stream), fresh, found, rfl⟩
    · intro task view
      have isSnapshot := view.snapshot_of_fresh begins fresh nonempty
      subst isSnapshot
      refine ⟨(Bridge.turnStatus_state _).symm, noMessage.symm, ?_⟩
      rw [sent]
      have sameKey : request.key = conversationId := by
        rw [key, noCaller]
        rfl
      exact congrArg some sameKey

/-- A turn without caller identities, of a new Task, that ends without a
message. -/
def PlainTurn (cfg : ServeConfig) (params : Value)
    (stream : List StreamItem) : Prop :=
  cfg.callerIdentity.enabled = false ∧ sentTask params = none ∧
    (Bridge.turnEnd stream = some (.ok (.terminal .endTurn)) ∨
      Bridge.turnEnd stream = some (.ok (.terminal .cancelled)))

/-- All views of a finished Task agree exactly for the plain turns. -/
theorem views_agree_iff
    {stream : List StreamItem}
    (begins : beginPrompt json state params
      (headerCaller state.cfg.callerIdentity header) env =
        (.ok begun, prompted))
    (answers : env.prompted = .ok stream) :
    ViewsAgree json state params header env begun prompted ↔
      PlainTurn state.cfg params stream := by
  obtain ⟨request, opened, session, parsed, sameTasks, isStream, entered⟩ :=
    begun_of_ok begins
  have sameStream : begun.stream = stream := by
    rw [answers] at isStream
    exact (Except.ok.inj isStream).symm
  obtain ⟨_, _, named, _⟩ := sent_of_parsed parsed
  cases existing : request.parsed.id with
  | some id =>
      have isNamed : sentTask params = some id := named.trans existing
      obtain ⟨resumed, found, working⟩ : ∃ resumed,
          prompted.tasks.bindings begun.taskId = some resumed ∧
            resumed.state = .working := by
        simp only [enterTask, existing] at entered
        split at entered
        · cases entered
        · rename_i tasks accepted
          obtain ⟨binding, _, _, rfl⟩ :=
            TaskRegistry.acceptContinuation_ok_iff.mp accepted
          cases entered
          exact ⟨_, TaskRegistry.put_self _ _ _, rfl⟩
      have disagree :=
        @not_viewsAgree_of_working json state prompted params header env begun
          resumed found working
      refine iff_of_false disagree ?_
      intro given
      rcases given with ⟨_, isNew, _⟩
      rw [isNamed] at isNew
      cases isNew
  | none =>
      have isNew : sentTask params = none := named.trans existing
      have fresh :
          prompted.tasks.bindings begun.taskId =
            some (TaskRegistry.freshBinding request.key session) := by
        simp only [enterTask, existing] at entered
        obtain ⟨isId, isState⟩ := Prod.mk.inj entered
        subst isState
        rw [← Except.ok.inj isId]
        exact TaskRegistry.create_self _ _ _ _
      rw [viewsAgree_of_fresh_iff begins parsed fresh, sameStream,
        message_of_turnStatus_iff, PlainTurn,
        parseRequest_callerId json state.cfg parsed,
        resolveCallerId_eq_none_iff]
      constructor
      · intro given
        rcases given with ⟨disabled, ended, _⟩
        exact ⟨disabled, isNew, ended⟩
      · intro given
        rcases given with ⟨disabled, _, ended⟩
        refine ⟨disabled, ended, ?_⟩
        intro isEmpty
        subst isEmpty
        rcases ended with atEnd | atEnd
        · cases atEnd
        · cases atEnd

/-- A shim without conversations and without caller identities. -/
def idleShim : ServeState :=
  { cfg :=
      { callerIdentity :=
          { enabled := false, defaultCallerId := "anonymous"
            trustHeader := false }
        maxPartBytes := 1000
        cwd := "/" }
    acp := true
    sessions := []
    conversations := .new 10 60
    tasks := .empty
    rows := none
    pushRegistry := .empty
    pushTx := none }

/-- "hello", on the conversation "project". -/
def greeting : Value :=
  .object
    [("message", .object
      [("role", .string "user"),
        ("parts", .array [.object [("text", .string "hello")]]),
        ("metadata", .object
          [(MessageMetadata.conversationKey, .string "project")])])]

/-- An agent that answers with this stream. -/
def answeredBy (stream : List StreamItem) : Surroundings :=
  { now := 0, holder := 0, sessionNew := .ok "s", newTaskId := ⟨"t"⟩
    rowInserted := true, taskRecorded := true, prompted := .ok stream
    turnRows := fun rows => rows }

theorem completed_views_agree :
    ∃ begun prompted,
      beginPrompt .constant idleShim greeting none
          (answeredBy [.ok (.terminal .endTurn)]) = (.ok begun, prompted) ∧
        ViewsAgree .constant idleShim greeting none
          (answeredBy [.ok (.terminal .endTurn)]) begun prompted := by
  obtain ⟨begun, prompted, begins⟩ : ∃ begun prompted,
      beginPrompt .constant idleShim greeting none
          (answeredBy [.ok (.terminal .endTurn)]) = (.ok begun, prompted) :=
    ⟨_, _, rfl⟩
  refine ⟨begun, prompted, begins, ?_⟩
  exact (@views_agree_iff .constant idleShim prompted greeting none
    (answeredBy [.ok (.terminal .endTurn)]) begun _ begins rfl).mpr
      ⟨rfl, rfl, .inl rfl⟩

/-- Only the final frame says that the agent refused. -/
theorem refusal_missing_from_views :
    ¬ ∀ json state params header env begun prompted,
        beginPrompt json state params
            (headerCaller state.cfg.callerIdentity header) env =
              (.ok begun, prompted) →
          ViewsAgree json state params header env begun prompted := by
  intro claimed
  obtain ⟨begun, prompted, begins, isTask, refused⟩ : ∃ begun prompted,
      beginPrompt .constant idleShim greeting none
          (answeredBy [.ok (.terminal .refusal)]) = (.ok begun, prompted) ∧
        prompted.tasks.bindings begun.taskId =
          some (TaskRegistry.freshBinding "project" "s") ∧
        begun.stream = [.ok (.terminal .refusal)] :=
    ⟨_, _, rfl, rfl, rfl⟩
  have agree := claimed .constant idleShim greeting none
    (answeredBy [.ok (.terminal .refusal)]) begun prompted begins
  obtain ⟨request, parsed, key⟩ : ∃ request,
      parseRequest .constant idleShim.cfg greeting none = .ok request ∧
        request.key = "project" :=
    ⟨_, rfl, rfl⟩
  rw [← key] at isTask
  obtain ⟨_, noMessage, _⟩ :=
    (@viewsAgree_of_fresh_iff .constant idleShim prompted greeting none
      (answeredBy [.ok (.terminal .refusal)]) begun request "s" begins parsed
      isTask).mp agree
  rw [refused] at noMessage
  cases noMessage

end Http

end A2AShim
