import A2AShim.Serve.BridgeOutcome
import A2AShim.Serve.Rejections

/-!
# Tasks that are continued

A request that names a Task in `input-required` makes it `working` again and
starts a turn on it.  The bridge then asks for the same transition once more,
which the registry refuses, so no such turn gets past its first event.  And
the request's conversation is not compared with the Task's: a request on any
conversation continues any Task that waits for input.
-/

namespace A2AShim

/-! ## The turn of a continued Task -/

namespace Bridge

/-- `accept_continuation`, then `run_session` on the same Task. -/
def continueSession (json : SerdeJson) (registry : TaskRegistry) (id : TaskId)
    (stream : List StreamItem) : Except BridgeError Unit × TaskRegistry :=
  match registry.acceptContinuation id with
  | .error error => (.error (.transition error), registry)
  | .ok accepted => runSession json accepted id stream

/-- The continued turn runs to the state the stream calls for, and publishes
it. -/
structure RunsToCompletion (json : SerdeJson) (registry : TaskRegistry)
    (id : TaskId) (stream : List StreamItem) : Prop where
  returnsOk : (continueSession json registry id stream).1 = .ok ()
  leaves : ∃ binding message frames,
    (continueSession json registry id stream).2.bindings id = some binding ∧
      binding.state = turnState (turnEnd stream) ∧
        binding.sink.sent =
          frames ++ [finalFrame id (turnState (turnEnd stream)) message]

variable {json : SerdeJson} {registry : TaskRegistry} {id : TaskId}
variable {binding : TaskBinding}

/-- The first event of a continued turn ends it, and leaves the Task
`working`. -/
theorem continueSession_stops
    (found : registry.bindings id = some binding)
    (waiting : binding.state = .inputRequired)
    (item : StreamItem) (rest : List StreamItem) :
    continueSession json registry id (item :: rest) =
      (.error (.transition .illegal),
        registry.put id { binding with state := .working }) := by
  have accepted :
      registry.acceptContinuation id =
        .ok (registry.put id { binding with state := .working }) :=
    TaskRegistry.acceptContinuation_ok_iff.mpr ⟨binding, found, waiting, rfl⟩
  have unable :
      (registry.put id { binding with state := .working }).transition id
          .working = .error .illegal := by
    simp [TaskRegistry.transition, TaskRegistry.isLegal]
  have known :
      (registry.put id { binding with state := .working }).sink id =
        some binding.sink := by
    simp [TaskRegistry.sink]
  simp only [continueSession, accepted, runSession, known, pump, markWorking,
    unable, Bool.false_eq_true, if_false]

/-- No event stream with an event in it brings a continued Task to its end. -/
theorem continued_turn_never_completes
    (found : registry.bindings id = some binding)
    (waiting : binding.state = .inputRequired)
    {stream : List StreamItem} (nonempty : stream ≠ []) :
    ¬ RunsToCompletion json registry id stream := by
  obtain ⟨item, rest, rfl⟩ := List.exists_cons_of_ne_nil nonempty
  intro completes
  have returned := completes.returnsOk
  rw [continueSession_stops found waiting] at returned
  cases returned

/-- A registry whose only Task waits for input. -/
def waitingRegistry : TaskRegistry :=
  (TaskRegistry.empty.create ⟨"t"⟩ "c" "s").put ⟨"t"⟩
    { TaskRegistry.freshBinding "c" "s" with state := .inputRequired }

theorem ended_continuation_fails :
    waitingRegistry.bindings ⟨"t"⟩ =
        some { TaskRegistry.freshBinding "c" "s" with
          state := .inputRequired } ∧
      ¬ RunsToCompletion .constant waitingRegistry ⟨"t"⟩
        [.ok (.terminal .endTurn)] :=
  ⟨TaskRegistry.put_self _ _ _,
    continued_turn_never_completes (TaskRegistry.put_self _ _ _) rfl
      (List.cons_ne_nil _ _)⟩

/-- The agent ends the turn of a continued Task, and the Task stays
`working`. -/
theorem continuation_can_stall :
    ¬ ∀ json registry id binding stream,
        registry.bindings id = some binding →
          binding.state = .inputRequired → stream ≠ [] →
            RunsToCompletion json registry id stream := by
  intro claimed
  have completes :=
    claimed .constant waitingRegistry ⟨"t"⟩ _ [.ok (.terminal .endTurn)]
      (TaskRegistry.put_self _ _ _) rfl (List.cons_ne_nil _ _)
  have returned := completes.returnsOk
  revert returned
  decide

end Bridge

/-! ## The conversation of a continued Task -/

namespace Http

/-- The request names this Task of the registry. -/
structure Names (json : SerdeJson) (state : ServeState) (params : Value)
    (header : Option String) (request : PromptRequest) (id : TaskId)
    (binding : TaskBinding) : Prop where
  parsed : parseRequest json state.cfg params header = .ok request
  named : request.parsed.id = some id
  known : state.tasks.bindings id = some binding

/-- A request on an existing Task is sent on that Task's session if it is
accepted; with the key of another conversation it is rejected, and no Task
changes. -/
def KeepsToConversation (json : SerdeJson) (state : ServeState)
    (params : Value) (header : Option String) (env : Surroundings) : Prop :=
  ∀ request id binding, Names json state params header request id binding →
    (∀ begun after,
        beginPrompt json state params header env = (.ok begun, after) →
          begun.session = binding.acpSessionId) ∧
      (request.key ≠ binding.conversationId →
        ∃ error after,
          beginPrompt json state params header env = (.error error, after) ∧
            after.tasks = state.tasks)

/-- The request gets as far as its Task, on this session: its mode allows it,
and its key has an idle conversation or can get a new one. -/
inductive GetsThrough (state : ServeState) (params : Value)
    (request : PromptRequest) (env : Surroundings) : SessionId → Prop
  | finds (ref : ConversationRef) (conversation : Conversation)
      (allowed :
        checkConversationMode state.conversations params request.key = .ok ())
      (wired : state.acp = true)
      (bound : state.conversations.get request.key = some ref)
      (known : state.conversations.objects ref = some conversation)
      (idle : conversation.inFlight = none) :
      GetsThrough state params request env conversation.acpSessionId
  | opens (session : SessionId)
      (allowed :
        checkConversationMode state.conversations params request.key = .ok ())
      (wired : state.acp = true)
      (unbound : state.conversations.get request.key = none)
      (room : state.conversations.isFull = false)
      (made : env.sessionNew = .ok session) :
      GetsThrough state params request env session

/-- The prompt of a request that got its Task is sent. -/
def GoesOut (json : SerdeJson) (state : ServeState) (request : PromptRequest)
    (env : Surroundings) : Prop :=
  Translate.validateParts json request.parsed.message.parts
      state.cfg.maxPartBytes = .ok () ∧
    ∃ stream, env.prompted = .ok stream

/-- A Task that waits for input is on the request's own key and, when the
prompt goes out, on the session of that key's conversation. -/
def OnOwnConversation (json : SerdeJson) (state : ServeState) (params : Value)
    (header : Option String) (env : Surroundings) : Prop :=
  ∀ request id binding session,
    Names json state params header request id binding →
      binding.state = .inputRequired →
        GetsThrough state params request env session →
          binding.conversationId = request.key ∧
            (GoesOut json state request env →
              binding.acpSessionId = session)

variable {json : SerdeJson} {state after : ServeState} {params : Value}
variable {header : Option String} {env : Surroundings}
variable {request : PromptRequest} {id : TaskId} {binding : TaskBinding}

theorem openConversation_failed
    {opened : ServeState} {failure : NewError}
    (failed : openConversation state request env = (.error failure, opened)) :
    opened.tasks = state.tasks := by
  unfold openConversation at failed
  split at failed
  · cases failed
    rfl
  · cases failed
  · cases failed

/-- A conversation that was opened and locked let the request through. -/
theorem getsThrough_of_acquired
    {opened : ServeState} {ref guarded : ConversationRef}
    {locked : ConversationMap}
    (allowed :
      checkConversationMode state.conversations params request.key = .ok ())
    (wired : state.acp = true)
    (openedIs : openConversation state request env = (.ok ref, opened))
    (acquired : opened.conversations.acquireInFlight request.key env.holder =
      .ok (guarded, locked)) :
    GetsThrough state params request env
      (((opened.conversations.objects ref).map
        Conversation.acpSessionId).getD "") := by
  obtain ⟨bound, taken⟩ := ConversationMap.acquireInFlight_ok acquired
  obtain ⟨conversation, known, idle, _⟩ := ConversationMap.tryLock_some taken
  unfold openConversation at openedIs
  cases outcome : state.conversations.getOrCreate request.key env.now
      env.sessionNew with
  | error failure => simp [outcome] at openedIs
  | ok result =>
      have room : state.conversations.get request.key = none →
          state.conversations.isFull = false := by
        intro unbound
        by_contra notRoom
        have full : state.conversations.isFull = true := by
          simpa using notRoom
        simp [ConversationMap.getOrCreate, unbound, full] at outcome
      rcases ConversationMap.getOrCreate_ok outcome with
        ⟨found, isBound, rfl⟩ | ⟨session, unbound, made, rfl⟩
      · simp only [outcome] at openedIs
        cases openedIs
        have sameRef : guarded = ref := by
          have same := isBound.symm.trans bound
          exact (Option.some.inj same).symm
        subst sameRef
        simp only [ConversationMap.touch,
          ConversationMap.update_self] at known ⊢
        obtain ⟨before, foundBefore, rfl⟩ := Option.map_eq_some_iff.mp known
        rw [foundBefore]
        exact .finds guarded before allowed wired isBound foundBefore idle
      · simp only [outcome] at openedIs
        cases openedIs
        have isNew :
            (state.conversations.insert request.key session env.now).objects
                state.conversations.fresh =
              some { id := request.key, acpSessionId := session
                     lastUsedAt := env.now, inFlight := none } := by
          simp [ConversationMap.insert]
        simp only [isNew, Option.map_some, Option.getD_some]
        exact .opens session allowed wired unbound (room unbound) made

/-- What lets a request through opens its conversation and locks it. -/
theorem GetsThrough.acquires
    {session : SessionId}
    (through : GetsThrough state params request env session) :
    ∃ ref opened taken,
      openConversation state request env = (.ok ref, opened) ∧
        opened.conversations.acquireInFlight request.key env.holder =
          .ok taken := by
  cases through with
  | finds ref conversation allowed wired bound known idle =>
      let touched := state.conversations.touch ref env.now
      have isObject :
          touched.objects ref =
            some { conversation with lastUsedAt := env.now } := by
        simp [touched, ConversationMap.touch, ConversationMap.update_self,
          known]
      have stillBound : touched.get request.key = some ref := bound
      obtain ⟨taken, acquired⟩ : ∃ taken,
          touched.acquireInFlight request.key env.holder = .ok taken := by
        simp only [ConversationMap.acquireInFlight, stillBound,
          ConversationMap.tryLock, isObject, idle]
        exact ⟨_, rfl⟩
      refine ⟨ref, { state with conversations := touched }, taken, ?_, acquired⟩
      simp only [openConversation, ConversationMap.getOrCreate, bound]
      rfl
  | opens _ allowed wired unbound room made =>
      let inserted := state.conversations.insert request.key session env.now
      have isObject :
          inserted.objects state.conversations.fresh =
            some { id := request.key, acpSessionId := session
                   lastUsedAt := env.now, inFlight := none } := by
        simp [inserted, ConversationMap.insert]
      have isBound : inserted.get request.key =
          some state.conversations.fresh :=
        ConversationMap.insert_get_self
      obtain ⟨taken, acquired⟩ : ∃ taken,
          inserted.acquireInFlight request.key env.holder = .ok taken := by
        simp only [ConversationMap.acquireInFlight, isBound,
          ConversationMap.tryLock, isObject]
        exact ⟨_, rfl⟩
      obtain ⟨opened, openedIs, sameMap⟩ : ∃ opened,
          openConversation state request env =
              (.ok state.conversations.fresh, opened) ∧
            opened.conversations = inserted := by
        simp only [openConversation, ConversationMap.getOrCreate, unbound,
          room, made, Bool.false_eq_true, if_false]
        exact ⟨_, rfl, rfl⟩
      refine ⟨_, opened, taken, openedIs, ?_⟩
      rw [sameMap]
      exact acquired

/-- A parsed request gets through to its Task, or fails before it. -/
theorem beginPrompt_parsed
    (parsed : parseRequest json state.cfg params header = .ok request) :
    (∃ session opened guarded,
        GetsThrough state params request env session ∧
          opened.tasks = state.tasks ∧ opened.cfg = state.cfg ∧
            beginPrompt json state params header env =
              sendParts json opened request guarded session env) ∨
      (∀ session, ¬ GetsThrough state params request env session) ∧
        ∃ error after,
          beginPrompt json state params header env = (.error error, after) ∧
            after.tasks = state.tasks := by
  unfold beginPrompt
  simp only [parsed]
  cases checked : checkConversationMode state.conversations params
      request.key with
  | error failure =>
      refine .inr ⟨?_, failure, state, rfl, rfl⟩
      intro session through
      cases through with
      | finds _ _ allowed =>
          rw [checked] at allowed
          cases allowed
      | opens _ allowed =>
          rw [checked] at allowed
          cases allowed
  | ok passed =>
      cases wired : state.acp with
      | false =>
          refine .inr ⟨?_, _, state, rfl, rfl⟩
          intro session through
          cases through with
          | finds _ _ _ isWired =>
              rw [wired] at isWired
              cases isWired
          | opens _ _ isWired =>
              rw [wired] at isWired
              cases isWired
      | true =>
          cases openedIs : openConversation state request env with
          | mk result opened =>
              cases result with
              | error failure =>
                  refine .inr ⟨?_, _, opened, rfl,
                    openConversation_failed openedIs⟩
                  intro session through
                  obtain ⟨ref, other, _, isOpened, _⟩ := through.acquires
                  rw [openedIs] at isOpened
                  cases isOpened
              | ok ref =>
                  obtain ⟨sameTasks, sameCfg, _⟩ := openConversation_ok openedIs
                  cases acquired : opened.conversations.acquireInFlight
                      request.key env.holder with
                  | error failure =>
                      simp only [acquired]
                      refine .inr ⟨?_, _, opened, rfl, sameTasks⟩
                      intro session through
                      obtain ⟨_, other, taken, isOpened, isAcquired⟩ :=
                        through.acquires
                      rw [openedIs] at isOpened
                      cases isOpened
                      rw [acquired] at isAcquired
                      cases isAcquired
                  | ok taken =>
                      have through :=
                        getsThrough_of_acquired checked wired openedIs acquired
                      simp only [acquired]
                      exact .inl ⟨_, { opened with conversations := taken.2 },
                        taken.1, through, sameTasks, sameCfg, rfl⟩

/-- The way to a Task leads to one session. -/
theorem GetsThrough.unique
    {session other : SessionId}
    (first : GetsThrough state params request env session)
    (second : GetsThrough state params request env other) :
    session = other := by
  cases first with
  | finds ref conversation _ _ bound known _ =>
      cases second with
      | finds otherRef otherConversation _ _ otherBound otherKnown _ =>
          have sameRef := Option.some.inj (bound.symm.trans otherBound)
          subst sameRef
          have same := Option.some.inj (known.symm.trans otherKnown)
          rw [same]
      | opens _ _ _ unbound =>
          rw [bound] at unbound
          cases unbound
  | opens _ _ _ unbound _ made =>
      cases second with
      | finds otherRef _ _ _ otherBound =>
          rw [otherBound] at unbound
          cases unbound
      | opens _ _ _ _ _ otherMade =>
          exact Except.ok.inj (made.symm.trans otherMade)

/-- A request that gets through changes a Task that waits for input. -/
theorem sendParts_resumes
    {opened : ServeState} {guarded : ConversationRef} {session : SessionId}
    (named : request.parsed.id = some id)
    (known : opened.tasks.bindings id = some binding)
    (waiting : binding.state = .inputRequired) :
    (sendParts json opened request guarded session env).2.tasks ≠
      opened.tasks := by
  have accepted :
      opened.tasks.acceptContinuation id =
        .ok (opened.tasks.put id { binding with state := .working }) :=
    TaskRegistry.acceptContinuation_ok_iff.mpr ⟨binding, known, waiting, rfl⟩
  have changed :
      opened.tasks.put id { binding with state := .working } ≠
        opened.tasks := by
    intro same
    have resumed := congrFun (congrArg TaskRegistry.bindings same) id
    rw [TaskRegistry.put_self, known] at resumed
    have states := congrArg TaskBinding.state (Option.some.inj resumed)
    rw [waiting] at states
    cases states
  simp only [sendParts, enterTask, named, accepted]
  split
  · exact changed
  · split <;> exact changed

/-- A request that gets through fails without a trace on the Tasks if its own
does not wait for input. -/
theorem sendParts_refuses
    {opened : ServeState} {guarded : ConversationRef} {session : SessionId}
    (named : request.parsed.id = some id)
    (known : opened.tasks.bindings id = some binding)
    (active : binding.state ≠ .inputRequired) :
    ∃ error after,
      sendParts json opened request guarded session env =
          (.error error, after) ∧
        after.tasks = opened.tasks := by
  have refused :
      opened.tasks.acceptContinuation id = .error .invalidContinuation := by
    simp [TaskRegistry.acceptContinuation, known, active]
  simp only [sendParts, enterTask, named, refused]
  exact ⟨_, _, rfl, rfl⟩

/-- What an accepted request has sent: its parts, to the session it got through
to. -/
theorem sendParts_ok
    {opened : ServeState} {guarded : ConversationRef} {session : SessionId}
    {begun : Begun}
    (accepted : sendParts json opened request guarded session env =
      (.ok begun, after)) :
    begun.session = session ∧
      begun.content =
          Translate.a2aToAcp json request.parsed.message.parts
            PartCaps.none ∧
        env.prompted = .ok begun.stream ∧
          enterTask opened request session env = (.ok begun.taskId, after) := by
  revert accepted
  unfold sendParts
  rcases enterTask opened request session env with ⟨error | entered, tasks⟩
  · intro accepted
    cases accepted
  · cases Translate.validateParts json request.parsed.message.parts
        opened.cfg.maxPartBytes with
    | error error =>
        intro accepted
        cases accepted
    | ok valid =>
        cases env.prompted with
        | error error =>
            intro accepted
            cases accepted
        | ok stream =>
            intro accepted
            cases accepted
            exact ⟨rfl, rfl, rfl, rfl⟩

/-- Only a prompt that goes out is accepted, and then it is. -/
theorem sendParts_ok_iff
    {opened : ServeState} {guarded : ConversationRef} {session : SessionId}
    (named : request.parsed.id = some id)
    (known : opened.tasks.bindings id = some binding)
    (waiting : binding.state = .inputRequired)
    (sameCfg : opened.cfg = state.cfg) :
    (∃ begun after,
        sendParts json opened request guarded session env =
          (.ok begun, after)) ↔
      GoesOut json state request env := by
  have accepted :
      opened.tasks.acceptContinuation id =
        .ok (opened.tasks.put id { binding with state := .working }) :=
    TaskRegistry.acceptContinuation_ok_iff.mpr ⟨binding, known, waiting, rfl⟩
  simp only [sendParts, enterTask, named, accepted, GoesOut, sameCfg]
  cases Translate.validateParts json request.parsed.message.parts
      state.cfg.maxPartBytes with
  | error error => simp
  | ok valid =>
      cases env.prompted with
      | error error => simp
      | ok stream => simp

/-- A request drives its Task on the Task's own conversation exactly when the
Task, if it waits for input, is on the conversation of the request. -/
theorem keepsToConversation_iff :
    KeepsToConversation json state params header env ↔
      OnOwnConversation json state params header env := by
  constructor
  · intro keeps request id binding session names waiting through
    obtain ⟨onSession, byKey⟩ := keeps request id binding names
    rcases @beginPrompt_parsed json state params header env request
        names.parsed with
      ⟨reached, opened, guarded, isThrough, sameTasks, sameCfg, begins⟩ |
      ⟨blocked, _⟩
    · have sameSession := isThrough.unique through
      subst sameSession
      have known : opened.tasks.bindings id = some binding := by
        rw [sameTasks]
        exact names.known
      constructor
      · by_contra foreign
        obtain ⟨error, after, failed, unchanged⟩ :=
          byKey fun same => foreign same.symm
        have resumed := @sendParts_resumes json env request id binding opened
          guarded reached names.named known waiting
        rw [← begins, failed, sameTasks] at resumed
        exact resumed unchanged
      · intro goesOut
        obtain ⟨begun, after, accepted⟩ :=
          (sendParts_ok_iff names.named known waiting sameCfg).mpr goesOut
        have onOwn := onSession begun after (begins.trans accepted)
        rw [(sendParts_ok accepted).1] at onOwn
        exact onOwn.symm
    · exact absurd through (blocked session)
  · intro onOwn request id binding names
    rcases @beginPrompt_parsed json state params header env request
        names.parsed with
      ⟨reached, opened, guarded, through, sameTasks, sameCfg, begins⟩ |
      ⟨_, error, after, failed, unchanged⟩
    · have known : opened.tasks.bindings id = some binding := by
        rw [sameTasks]
        exact names.known
      by_cases waiting : binding.state = .inputRequired
      · obtain ⟨ownKey, ownSession⟩ :=
          onOwn request id binding reached names waiting through
        refine ⟨?_, fun foreign => absurd ownKey.symm foreign⟩
        intro begun after accepted
        have sent := begins.symm.trans accepted
        have goesOut : GoesOut json state request env :=
          (sendParts_ok_iff names.named known waiting sameCfg).mp
            ⟨begun, after, sent⟩
        rw [(sendParts_ok sent).1, ownSession goesOut]
      · obtain ⟨error, after, refused, unchanged⟩ :=
          @sendParts_refuses json env request id binding opened guarded reached
            names.named known waiting
        rw [begins, refused]
        exact ⟨nofun, fun _ => ⟨error, after, rfl, unchanged.trans sameTasks⟩⟩
    · rw [failed]
      exact ⟨nofun, fun _ => ⟨error, after, rfl, unchanged⟩⟩

/-- Bob, on a conversation of his own, continues a Task of Alice's. -/
theorem foreign_task_can_be_continued :
    ¬ ∀ json state params header env,
        KeepsToConversation json state params header env := by
  intro claimed
  let aliceKey := partitionKey (some "alice") "project"
  let binding : TaskBinding :=
    { TaskRegistry.freshBinding aliceKey "s-1" with state := .inputRequired }
  let state : ServeState :=
    { cfg :=
        { callerIdentity :=
            { enabled := true, defaultCallerId := "anonymous"
              trustHeader := false }
          maxPartBytes := 1000
          cwd := "/" }
      acp := true
      sessions := ["s-1"]
      conversations := (ConversationMap.new 10 60).insert aliceKey "s-1" 0
      tasks := (TaskRegistry.empty.create ⟨"t"⟩ aliceKey "s-1").put ⟨"t"⟩ binding
      rows := none
      pushRegistry := .empty
      pushTx := none }
  let params : Value :=
    .object
      [("id", .string "t"),
        ("message", .object
          [("role", .string "user"),
            ("parts", .array [.object [("text", .string "hello")]]),
            ("metadata", .object
              [(MessageMetadata.conversationKey, .string "notes"),
                ("x-a2a-shim/caller_id", .string "bob")])])]
  let env : Surroundings := { fairSurroundings with sessionNew := .ok "s-2" }
  obtain ⟨request, parsed, named, key⟩ : ∃ request,
      parseRequest .constant state.cfg params none = .ok request ∧
        request.parsed.id = some ⟨"t"⟩ ∧
          request.key = partitionKey (some "bob") "notes" :=
    ⟨_, rfl, rfl, rfl⟩
  obtain ⟨begun, after, accepted⟩ : ∃ begun after,
      beginPrompt .constant state params none env = (.ok begun, after) :=
    ⟨_, _, rfl⟩
  have names : Names .constant state params none request ⟨"t"⟩ binding :=
    ⟨parsed, named, TaskRegistry.put_self _ _ _⟩
  have foreign : request.key ≠ binding.conversationId := by
    rw [key]
    decide
  obtain ⟨error, _, rejected, _⟩ :=
    (claimed .constant state params none env request ⟨"t"⟩ binding names).2
      foreign
  rw [accepted] at rejected
  cases rejected

end Http

end A2AShim
