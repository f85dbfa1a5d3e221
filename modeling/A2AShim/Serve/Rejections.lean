import A2AShim.Serve.Http

/-!
# What a rejected request leaves behind

The checks of the two prompt handlers are mixed with their effects.  A request
that fails before its conversation is opened leaves nothing.  After that it
leaves nothing only if the conversation was there already and the registry
refuses the Task the request wants to continue: a conversation that was opened
for it stays, and so does a Task that was created for it.
-/

namespace A2AShim

/-- A conversation but for its last use. -/
def Conversation.lasting (conversation : Conversation) :
    String × SessionId × Option HolderId :=
  (conversation.id, conversation.acpSessionId, conversation.inFlight)

/-- The same conversations (but for their last use), sessions, Tasks and
rows. -/
structure ServeState.Unchanged (before after : ServeState) : Prop where
  keys : after.conversations.inner = before.conversations.inner
  objects : ∀ ref,
    (after.conversations.objects ref).map Conversation.lasting =
      (before.conversations.objects ref).map Conversation.lasting
  sessions : after.sessions = before.sessions
  tasks : after.tasks = before.tasks
  rows : after.rows = before.rows

namespace Http

/-- Answered with `INVALID_PARAMS` or `TASK_NOT_FOUND`. -/
def IsRejection (error : JsonRpcError) : Prop :=
  error.code = Codes.invalidParams ∨ error.code = Codes.taskNotFound

/-- The requests whose rejection comes before every effect that lasts. -/
inductive RejectedEarly (json : SerdeJson) (state : ServeState)
    (params : Value) (header : Option String) : Prop where
  | malformed (undecoded : SendMessageParams.ofValue params = none)
  | unnamed (parsed : SendMessageParams)
      (decoded : SendMessageParams.ofValue params = some parsed)
      (noConversation :
        parsed.message.metadata.bind MessageMetadata.conversation = none)
  | unknownMode
      (unknown : conversationMode params ∉ ["auto", "new", "continue"])
  | refused (request : PromptRequest) (existing : TaskId)
      (parsed : parseRequest json state.cfg params
        (headerCaller state.cfg.callerIdentity header) = .ok request)
      (known : (state.conversations.get request.key).isSome = true)
      (named : request.parsed.id = some existing)
      (refuses : ∀ binding, state.tasks.bindings existing = some binding →
        binding.state ≠ .inputRequired)

variable {json : SerdeJson} {state after opened : ServeState}
variable {params : Value} {header : Option String} {env : Surroundings}
variable {request : PromptRequest} {error : JsonRpcError}

theorem not_isRejection_internalError (text : String) :
    ¬ IsRejection (internalError text) := by
  intro rejection
  rcases rejection with isInvalid | isNotFound
  · cases isInvalid
  · cases isNotFound

/-! ## Stage by stage -/

theorem parseRequest_error
    {caller : Option String}
    (failed : parseRequest json state.cfg params caller = .error error) :
    RejectedEarly json state params header := by
  unfold parseRequest at failed
  cases decoded : SendMessageParams.ofValue params with
  | none => exact .malformed decoded
  | some parsed =>
      simp only [decoded] at failed
      split at failed
      · rename_i noConversation
        exact .unnamed parsed decoded noConversation
      · cases failed

/-- A request that was parsed is neither malformed nor unnamed. -/
theorem rejectedEarly_of_parsed
    (parsed : parseRequest json state.cfg params
      (headerCaller state.cfg.callerIdentity header) = .ok request)
    (early : RejectedEarly json state params header) :
    conversationMode params ∉ ["auto", "new", "continue"] ∨
      (state.conversations.get request.key).isSome = true ∧
        ∃ existing, request.parsed.id = some existing ∧
          ∀ binding, state.tasks.bindings existing = some binding →
            binding.state ≠ .inputRequired := by
  cases early with
  | malformed undecoded =>
      simp [parseRequest, undecoded] at parsed
  | unnamed message decoded noConversation =>
      simp only [parseRequest, decoded, noConversation] at parsed
      cases parsed
  | unknownMode unknown => exact .inl unknown
  | refused other existing sameParsed known named refuses =>
      rw [parsed] at sameParsed
      cases sameParsed
      exact .inr ⟨known, existing, named, refuses⟩

theorem checkConversationMode_error
    {map : ConversationMap} {key : String}
    (failed : checkConversationMode map params key = .error error)
    (rejected : IsRejection error) :
    conversationMode params ∉ ["auto", "new", "continue"] := by
  unfold checkConversationMode at failed
  split at failed
  · cases failed
  · split at failed
    · cases failed
      rcases rejected with isInvalid | isNotFound
      · cases isInvalid
      · cases isNotFound
    · cases failed
  · split at failed
    · cases failed
      rcases rejected with isInvalid | isNotFound
      · cases isInvalid
      · cases isNotFound
    · cases failed
  · rename_i notAuto notNew notContinue
    simp only [List.mem_cons, List.not_mem_nil, or_false, not_or]
    exact ⟨notAuto, notNew, notContinue⟩

theorem checkConversationMode_ok
    {map : ConversationMap} {key : String}
    (passed : checkConversationMode map params key = .ok ()) :
    conversationMode params ∈ ["auto", "new", "continue"] := by
  unfold checkConversationMode at passed
  split at passed
  · rename_i isAuto
    simp [isAuto]
  · rename_i isNew
    simp [isNew]
  · rename_i isContinue
    simp [isContinue]
  · cases passed

theorem openConversation_error
    {failure : NewError}
    (failed : openConversation state request env = (.error failure, opened)) :
    ¬ IsRejection (mapNewError failure) := by
  cases failure with
  | spawn text => exact not_isRejection_internalError _
  | limitReached =>
      intro rejection
      rcases rejection with isInvalid | isNotFound
      · cases isInvalid
      · cases isNotFound

/-- Opening a conversation finds it, or adds it to the map. -/
theorem openConversation_ok
    {ref : ConversationRef}
    (done : openConversation state request env = (.ok ref, opened)) :
    opened.tasks = state.tasks ∧ opened.cfg = state.cfg ∧
      ((state.conversations.get request.key = some ref ∧
          opened =
            { state with
              conversations := state.conversations.touch ref env.now }) ∨
        (state.conversations.get request.key = none ∧
          opened.conversations.inner ≠ state.conversations.inner)) := by
  unfold openConversation at done
  cases outcome : state.conversations.getOrCreate request.key env.now
      env.sessionNew with
  | error failure => simp [outcome] at done
  | ok result =>
      rcases ConversationMap.getOrCreate_ok outcome with
        ⟨known, found, rfl⟩ | ⟨session, absent, _, rfl⟩
      · simp only [outcome] at done
        cases done
        exact ⟨rfl, rfl, .inl ⟨found, rfl⟩⟩
      · simp only [outcome] at done
        cases done
        refine ⟨rfl, rfl, .inr ⟨absent, ?_⟩⟩
        intro same
        have inserted :
            (state.conversations.insert request.key session env.now).get
                request.key = none := by
          rw [ConversationMap.get, same]
          exact absent
        rw [ConversationMap.insert_get_self] at inserted
        cases inserted

/-- Entering a Task changes the registry, unless it is refused. -/
theorem enterTask_ok
    {session : SessionId} {taskId : TaskId}
    (done : enterTask state request session env = (.ok taskId, after)) :
    after.conversations = state.conversations ∧
      (∀ existing, request.parsed.id = some existing →
        ∃ binding, state.tasks.bindings existing = some binding ∧
          binding.state = .inputRequired) ∧
        after.tasks ≠ state.tasks := by
  unfold enterTask at done
  cases named : request.parsed.id with
  | none =>
      simp only [named] at done
      cases done
      refine ⟨rfl, nofun, ?_⟩
      intro same
      have sameOrder := congrArg TaskRegistry.order same
      simp [TaskRegistry.create] at sameOrder
  | some existing =>
      cases accepted : state.tasks.acceptContinuation existing with
      | error failure => simp [named, accepted] at done
      | ok tasks =>
          simp only [named, accepted] at done
          cases done
          obtain ⟨binding, found, waiting, rfl⟩ :=
            TaskRegistry.acceptContinuation_ok_iff.mp accepted
          refine ⟨rfl, ?_, ?_⟩
          · intro other same
            cases same
            exact ⟨binding, found, waiting⟩
          · intro same
            have resumed :=
              congrFun (congrArg TaskRegistry.bindings same) taskId
            simp only [TaskRegistry.put_self, found, Option.some.injEq]
              at resumed
            rw [← resumed] at waiting
            cases waiting

theorem enterTask_error
    {session : SessionId}
    (failed : enterTask state request session env = (.error error, after)) :
    after = state ∧
      ∃ existing, request.parsed.id = some existing ∧
        ∀ binding, state.tasks.bindings existing = some binding →
          binding.state ≠ .inputRequired := by
  unfold enterTask at failed
  cases named : request.parsed.id with
  | none =>
      simp only [named] at failed
      cases failed
  | some existing =>
      cases accepted : state.tasks.acceptContinuation existing with
      | ok tasks =>
          simp only [named, accepted] at failed
          cases failed
      | error failure =>
          simp only [named, accepted] at failed
          cases failed
          refine ⟨rfl, existing, rfl, ?_⟩
          intro binding found waiting
          have accepts :=
            TaskRegistry.acceptContinuation_ok_iff.mpr
              ⟨binding, found, waiting, rfl⟩
          rw [accepted] at accepts
          cases accepts

/-- A rejection from the Task on is a refused continuation, or comes after the
registry has changed. -/
theorem sendParts_error
    {guarded : ConversationRef} {session : SessionId}
    (failed : sendParts json state request guarded session env =
      (.error error, after))
    (rejected : IsRejection error) :
    after.conversations = state.conversations.release guarded ∧
      ((after = dropGuard state guarded ∧
          ∃ existing, request.parsed.id = some existing ∧
            ∀ binding, state.tasks.bindings existing = some binding →
              binding.state ≠ .inputRequired) ∨
        (after.tasks ≠ state.tasks ∧
          ∀ existing, request.parsed.id = some existing →
            ∃ binding, state.tasks.bindings existing = some binding ∧
              binding.state = .inputRequired)) := by
  unfold sendParts at failed
  cases entered : enterTask state request session env with
  | mk result current =>
      cases result with
      | error failure =>
          simp only [entered] at failed
          cases failed
          obtain ⟨rfl, refuses⟩ := enterTask_error entered
          exact ⟨rfl, .inl ⟨rfl, refuses⟩⟩
      | ok taskId =>
          obtain ⟨sameMap, accepts, changed⟩ := enterTask_ok entered
          simp only [entered] at failed
          split at failed
          · cases failed
            exact ⟨by rw [dropGuard, sameMap], .inr ⟨changed, accepts⟩⟩
          · split at failed
            · cases failed
              exact absurd rejected (not_isRejection_internalError _)
            · cases failed

theorem acquireInFlight_error
    {failure : AcquireError} : ¬ IsRejection (mapAcquireError failure) := by
  cases failure with
  | notFound => exact not_isRejection_internalError _
  | busy =>
      intro rejection
      rcases rejection with isInvalid | isNotFound
      · cases isInvalid
      · cases isNotFound

/-! ## The whole request -/

/-- Taking the guard of a conversation that was found, and dropping it again,
leaves the conversations as they were but for the touch. -/
theorem touch_lock_release
    {map locked : ConversationMap} {ref guarded : ConversationRef}
    {holder : HolderId} {now : Nat}
    (taken : (map.touch ref now).tryLock guarded holder = some locked) :
    (locked.release guarded).inner = map.inner ∧
      ∀ tested,
        ((locked.release guarded).objects tested).map Conversation.lasting =
          (map.objects tested).map Conversation.lasting := by
  obtain ⟨conversation, found, free, rfl⟩ :=
    ConversationMap.tryLock_some taken
  refine ⟨rfl, ?_⟩
  intro tested
  have touched :
      ((map.touch ref now).objects tested).map Conversation.lasting =
        (map.objects tested).map Conversation.lasting :=
    ConversationMap.update_field Conversation.lasting
      (by intro conversation; rfl) tested
  rw [← touched]
  by_cases same : tested = guarded
  · subst same
    simp [ConversationMap.release, ConversationMap.update_self, found,
      Conversation.lasting, free]
  · simp only [ConversationMap.release, ConversationMap.update_other same]

/-- The rejections that come once the guard is held. -/
theorem guarded_rejected
    {ref guarded : ConversationRef} {map : ConversationMap}
    {session : SessionId}
    (parsed : parseRequest json state.cfg params
      (headerCaller state.cfg.callerIdentity header) = .ok request)
    (knownMode : conversationMode params ∈ ["auto", "new", "continue"])
    (openedIs : openConversation state request env = (.ok ref, opened))
    (acquired : opened.conversations.acquireInFlight request.key env.holder =
      .ok (guarded, map))
    (failed : sendParts json { opened with conversations := map } request
      guarded session env = (.error error, after))
    (rejected : IsRejection error) :
    ServeState.Unchanged state after ↔
      RejectedEarly json state params header := by
  obtain ⟨sameTasks, _, outcome⟩ := openConversation_ok openedIs
  obtain ⟨_, taken⟩ := ConversationMap.acquireInFlight_ok acquired
  obtain ⟨released, stage⟩ := sendParts_error failed rejected
  rcases outcome with ⟨found, rfl⟩ | ⟨absent, changedMap⟩
  · obtain ⟨sameKeys, sameObjects⟩ := touch_lock_release taken
    rcases stage with ⟨rfl, existing, named, refuses⟩ | ⟨changed, accepts⟩
    · have known : (state.conversations.get request.key).isSome = true := by
        rw [found]
        rfl
      exact iff_of_true ⟨sameKeys, sameObjects, rfl, rfl, rfl⟩
        (.refused request existing parsed known named refuses)
    · apply iff_of_false
      · intro unchanged
        exact changed unchanged.tasks
      · intro early
        rcases rejectedEarly_of_parsed parsed early with
          unknown | ⟨_, existing, named, refuses⟩
        · exact unknown knownMode
        · obtain ⟨binding, foundTask, waiting⟩ := accepts existing named
          exact refuses binding foundTask waiting
  · obtain ⟨_, _, _, lockedIs⟩ := ConversationMap.tryLock_some taken
    have sameMap : after.conversations.inner = opened.conversations.inner := by
      have sameInner := congrArg ConversationMap.inner lockedIs
      simp only [ConversationMap.update_inner] at sameInner
      rw [released, ← sameInner]
      rfl
    apply iff_of_false
    · intro unchanged
      exact changedMap (sameMap.symm.trans unchanged.keys)
    · intro early
      rcases rejectedEarly_of_parsed parsed early with
        unknown | ⟨known, _⟩
      · exact unknown knownMode
      · rw [absent] at known
        cases known

theorem beginPrompt_rejected
    (failed : beginPrompt json state params
      (headerCaller state.cfg.callerIdentity header) env = (.error error, after))
    (rejected : IsRejection error) :
    ServeState.Unchanged state after ↔
      RejectedEarly json state params header := by
  have unchanged : ServeState.Unchanged state state :=
    ⟨rfl, fun _ => rfl, rfl, rfl, rfl⟩
  unfold beginPrompt at failed
  cases parsed : parseRequest json state.cfg params
      (headerCaller state.cfg.callerIdentity header) with
  | error failure =>
      simp only [parsed] at failed
      cases failed
      exact iff_of_true unchanged (parseRequest_error parsed)
  | ok request =>
      simp only [parsed] at failed
      cases checked : checkConversationMode state.conversations params
          request.key with
      | error failure =>
          simp only [checked] at failed
          cases failed
          exact iff_of_true unchanged
            (.unknownMode (checkConversationMode_error checked rejected))
      | ok _ =>
          have knownMode := checkConversationMode_ok checked
          simp only [checked] at failed
          split at failed
          · cases failed
            exact absurd rejected (not_isRejection_internalError _)
          · cases openedIs : openConversation state request env with
            | mk result opened =>
                cases result with
                | error failure =>
                    simp only [openedIs] at failed
                    cases failed
                    exact absurd rejected (openConversation_error openedIs)
                | ok ref =>
                    simp only [openedIs] at failed
                    cases acquired : opened.conversations.acquireInFlight
                        request.key env.holder with
                    | error failure =>
                        simp only [acquired] at failed
                        cases failed
                        exact absurd rejected acquireInFlight_error
                    | ok taken =>
                        simp only [acquired] at failed
                        exact guarded_rejected parsed knownMode openedIs
                          acquired failed rejected

theorem handleMessageSend_rejected
    {failure : JsonRpcError}
    (answered : handleMessageSend json state params header env =
      (.error failure, after))
    (rejected : IsRejection failure) :
    beginPrompt json state params
      (headerCaller state.cfg.callerIdentity header) env =
        (.error failure, after) := by
  unfold handleMessageSend at answered
  split at answered
  · rename_i began
    rw [began]
    cases answered
    rfl
  · simp only at answered
    split at answered
    · cases answered
      exact absurd rejected (not_isRejection_internalError _)
    · split at answered
      · cases answered
        exact absurd rejected (not_isRejection_internalError _)
      · cases answered

theorem preparePrompt_rejected
    {failure : JsonRpcError}
    (answered : preparePrompt json state params header env =
      (.error failure, after))
    (rejected : IsRejection failure) :
    beginPrompt json state params
      (headerCaller state.cfg.callerIdentity header) env =
        (.error failure, after) := by
  unfold preparePrompt at answered
  split at answered
  · rename_i began
    rw [began]
    cases answered
    rfl
  · split at answered
    · cases answered
      exact absurd rejected (not_isRejection_internalError _)
    · cases answered

/-- A request of either method that is answered with `INVALID_PARAMS` or
`TASK_NOT_FOUND` leaves everything as it was exactly when it is rejected
early. -/
theorem rejected_request_unchanged_iff
    (rejected : IsRejection error)
    (answered :
      handleMessageSend json state params header env = (.error error, after) ∨
        preparePrompt json state params header env =
          (.error error, after)) :
    ServeState.Unchanged state after ↔
      RejectedEarly json state params header := by
  have failed :
      beginPrompt json state params
        (headerCaller state.cfg.callerIdentity header) env =
          (.error error, after) := by
    rcases answered with sent | streamed
    · exact handleMessageSend_rejected sent rejected
    · exact preparePrompt_rejected streamed rejected
  exact beginPrompt_rejected failed rejected

/-- A shim without conversations that takes parts of four bytes at most. -/
def smallShim : ServeState :=
  { cfg :=
      { callerIdentity :=
          { enabled := false, defaultCallerId := "", trustHeader := false }
        maxPartBytes := 4
        cwd := "/" }
    acp := true
    sessions := []
    conversations := .new 10 60
    tasks := .empty
    rows := none
    pushRegistry := .empty
    pushTx := none }

/-- All goes well outside the request, and a new Task is called `u`. -/
def fairSurroundings : Surroundings :=
  { now := 7, holder := 0, sessionNew := .ok "s", newTaskId := ⟨"u"⟩
    rowInserted := true, taskRecorded := true, prompted := .ok []
    turnRows := id }

/-- Continuing an unknown Task of a known conversation. -/
theorem unknown_continuation_changes_nothing :
    ∃ json state params header env error after,
      handleMessageSend json state params header env = (.error error, after) ∧
        error.code = Codes.taskNotFound ∧
          (state.conversations.get "c").isSome = true ∧
            ServeState.Unchanged state after := by
  let state : ServeState :=
    { smallShim with
      sessions := ["s"]
      conversations := (ConversationMap.new 10 60).insert "c" "s" 0 }
  let params : Value :=
    .object
      [("id", .string "t"),
        ("message", .object
          [("role", .string "user"),
            ("parts", .array []),
            ("metadata", .object
              [(MessageMetadata.conversationKey, .string "c")])])]
  obtain ⟨error, after, answered, code⟩ : ∃ error after,
      handleMessageSend .constant state params none fairSurroundings =
          (.error error, after) ∧
        error.code = Codes.taskNotFound :=
    ⟨_, _, rfl, rfl⟩
  obtain ⟨request, parsed, key, named⟩ : ∃ request,
      parseRequest .constant state.cfg params
          (headerCaller state.cfg.callerIdentity none) = .ok request ∧
        request.key = "c" ∧ request.parsed.id = some ⟨"t"⟩ :=
    ⟨_, rfl, rfl, rfl⟩
  have known : (state.conversations.get request.key).isSome = true := by
    rw [key]
    decide
  refine ⟨.constant, state, params, none, fairSurroundings, error, after,
    answered, code, by decide, ?_⟩
  exact (rejected_request_unchanged_iff (.inr code) (.inl answered)).mpr
    (.refused request ⟨"t"⟩ parsed known named (fun _ found => nomatch found))

/-- A part that is too large is found only after the conversation and the Task
have been made for it. -/
theorem rejected_request_can_leave_task :
    ¬ ∀ json state params header env error after,
        IsRejection error →
          handleMessageSend json state params header env =
              (.error error, after) →
            ServeState.Unchanged state after := by
  intro claimed
  let params : Value :=
    .object
      [("message", .object
        [("role", .string "user"),
          ("parts", .array [.object [("text", .string "hello")]]),
          ("metadata", .object
            [(MessageMetadata.conversationKey, .string "c")])])]
  obtain ⟨error, after, answered, code, created⟩ : ∃ error after,
      handleMessageSend .constant smallShim params none fairSurroundings =
          (.error error, after) ∧
        error.code = Codes.invalidParams ∧ after.tasks.order = [⟨"u"⟩] :=
    ⟨_, _, rfl, rfl, rfl⟩
  have unchanged :=
    claimed .constant smallShim params none fairSurroundings error after
      (.inl code) answered
  rw [unchanged.tasks] at created
  cases created

end Http

end A2AShim
