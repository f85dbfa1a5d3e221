import A2AShim.Lib.Separated
import A2AShim.Serve.Server

/-!
# Caller partitions

The keys that requests of different callers use, and what a reset under one
key does to what stands under another.
-/

namespace A2AShim

namespace Http

variable (json : SerdeJson) (cfg : ServeConfig)

/-! ## Requests and their keys -/

structure ConversationResetParams where
  conversationId : String
  callerId : Option String
  deriving DecidableEq, Repr

/-- The second item of an array may be left out: it has a default. -/
def ConversationResetParams.ofValue (value : Value) :
    Option ConversationResetParams := do
  let members ←
    match value with
    | .array [only] => some (.object [("conversation_id", only)])
    | other => other.structMembers ["conversation_id", "caller_id"]
  let conversationId ← (← members.get "conversation_id").asStr
  let callerId ← Value.optional Value.asStr (members.get "caller_id")
  return { conversationId, callerId }

/-- What the handlers build a key from. -/
structure Route where
  callerId : Option String
  conversationId : String
  deriving DecidableEq, Repr

def Route.key (route : Route) : String :=
  partitionKey route.callerId route.conversationId

/-- `SendMessage` and `SendStreamingMessage` carry both ids in the message's
metadata. -/
def promptRoute (params : Value) (header : Option String) : Option Route :=
  match parseRequest json cfg params
      (headerCaller cfg.callerIdentity header) with
  | .error _ => none
  | .ok request =>
      (request.parsed.message.metadata.bind MessageMetadata.conversation).map
        fun conversationId => { callerId := request.callerId, conversationId }

/-- `_shim/conversation/reset` carries them in its parameters. -/
def resetRoute (params : Value) (header : Option String) : Option Route :=
  (ConversationResetParams.ofValue params).map fun parsed =>
    { callerId :=
        resolveCallerId cfg.callerIdentity
          (headerCaller cfg.callerIdentity header) parsed.callerId
      conversationId := parsed.conversationId }

/-- Some request is routed by `route`. -/
def Routed (route : Route) : Prop :=
  ∃ params header,
    promptRoute json cfg params header = some route ∨
      resetRoute cfg params header = some route

/-! ## The reset handler on its own -/

/-- The answer, and the session the agent is told to cancel. -/
structure ResetOutcome where
  cleared : Bool
  cancelledTaskIds : List TaskId
  told : Option SessionId
  deriving DecidableEq, Repr

/-- What becomes of the statements of a reset: when the Task is recorded, if
that succeeds, and whether the row is deleted. -/
structure ResetStatements where
  recorded : TaskId → Option Nat
  rowDeleted : Bool

/-- The row that `TaskRegistry::cancel` writes. -/
def recordCanceled (statements : ResetStatements) (tasks : TaskRegistry)
    (id : TaskId) (rows : Rows) : Rows :=
  match statements.recorded id with
  | none => rows
  | some now =>
      (rows.recordTask id.text (TaskRegistry.conversationOf tasks id)
        (TaskRegistry.stateStr .canceled) now).getD rows

def cancelTargets (statements : ResetStatements) :
    List TaskId → TaskRegistry → Option Rows →
      List TaskId × TaskRegistry × Option Rows
  | [], tasks, rows => ([], tasks, rows)
  | id :: rest, tasks, rows =>
      match tasks.cancel id with
      | .error _ => cancelTargets statements rest tasks rows
      | .ok canceled =>
          let others :=
            cancelTargets statements rest canceled
              (rows.map (recordCanceled statements canceled id))
          (id :: others.1, others.2)

/-- `handle_conversation_reset` from the key on, with all its statements. -/
def handleConversationReset (statements : ResetStatements)
    (state : ServeState) (key : String) : ResetOutcome × ServeState :=
  let conversation :=
    (state.conversations.get key).bind state.conversations.objects
  let canceled :=
    cancelTargets statements (Resetting.targets state.tasks key) state.tasks
      state.rows
  let told :=
    if state.acp then conversation.map Conversation.acpSessionId else none
  match conversation with
  | none =>
      ({ cleared := false, cancelledTaskIds := canceled.1, told },
        { state with tasks := canceled.2.1, rows := canceled.2.2 })
  | some _ =>
      ({ cleared := true, cancelledTaskIds := canceled.1, told },
        { state with
          tasks := canceled.2.1
          rows :=
            if statements.rowDeleted then
              canceled.2.2.map fun rows => rows.deleteConversation key
            else
              canceled.2.2
          conversations := state.conversations.remove key })

/-- The handler where no Task can be recorded. -/
def resetConversation (state : ServeState) (key : String)
    (rowDeleted : Bool) : ResetOutcome × ServeState :=
  handleConversationReset { recorded := fun _ => none, rowDeleted } state key

/-- What stands under a key: the conversation, its Tasks, and their rows. -/
structure Holdings where
  conversation : Option Conversation
  tasks : TaskId → Option TaskBinding
  conversationRows : Option (List ConversationRow)
  taskRows : Option (List TaskRow)

def holdings (state : ServeState) (key : String) : Holdings :=
  { conversation :=
      (state.conversations.get key).bind state.conversations.objects
    tasks := fun id =>
      (state.tasks.bindings id).filter fun binding =>
        binding.conversationId == key
    conversationRows :=
      state.rows.map fun rows =>
        rows.conversations.filter fun row => row.conversationId == key
    taskRows :=
      state.rows.map fun rows =>
        rows.tasks.filter fun row => row.conversationId == key }

/-! ## The canceled Tasks -/

/-- Cancel the listed Tasks; those that cannot be canceled are passed by. -/
def cancelAll : List TaskId → TaskRegistry → List TaskId × TaskRegistry
  | [], tasks => ([], tasks)
  | id :: rest, tasks =>
      match tasks.cancel id with
      | .error _ => cancelAll rest tasks
      | .ok canceled =>
          let others := cancelAll rest canceled
          (id :: others.1, others.2)

/-- The statements decide nothing but the rows. -/
theorem cancelTargets_eq
    {statements : ResetStatements} {targets : List TaskId}
    (tasks : TaskRegistry) (rows : Option Rows) :
    (cancelTargets statements targets tasks rows).1 =
        (cancelAll targets tasks).1 ∧
      (cancelTargets statements targets tasks rows).2.1 =
        (cancelAll targets tasks).2 := by
  induction targets generalizing tasks rows with
  | nil => exact ⟨rfl, rfl⟩
  | cons target rest inductionHypothesis =>
      rw [cancelTargets, cancelAll]
      cases tasks.cancel target with
      | error error => exact inductionHypothesis tasks rows
      | ok canceled =>
          obtain ⟨sameIds, sameTasks⟩ := inductionHypothesis canceled
            (rows.map (recordCanceled statements canceled target))
          exact ⟨congrArg (List.cons target) sameIds, sameTasks⟩

theorem cancelTargets_unrecorded
    {rowDeleted : Bool} (targets : List TaskId) (tasks : TaskRegistry)
    (rows : Option Rows) :
    (cancelTargets { recorded := fun _ => none, rowDeleted } targets tasks
      rows).2.2 = rows := by
  induction targets generalizing tasks with
  | nil => rfl
  | cons target rest inductionHypothesis =>
      rw [cancelTargets]
      cases tasks.cancel target with
      | error error => exact inductionHypothesis tasks
      | ok canceled =>
          have same : rows.map (recordCanceled
              { recorded := fun _ => none, rowDeleted } canceled target) =
                rows := by
            cases rows with
            | none => rfl
            | some rows => rfl
          dsimp only
          rw [same]
          exact inductionHypothesis canceled

/-! ## A reset stays under its key -/

theorem cancel_keeps_conversation
    {tasks canceled : TaskRegistry} {target : TaskId}
    (accepted : tasks.cancel target = .ok canceled) (id : TaskId) :
    (canceled.bindings id).map TaskBinding.conversationId =
      (tasks.bindings id).map TaskBinding.conversationId := by
  obtain ⟨binding, found, _, updated⟩ :=
    TaskRegistry.cancel_ok_iff.mp accepted
  subst updated
  by_cases same : id = target
  · subst same
    rw [TaskRegistry.put_self, found]
    rfl
  · rw [TaskRegistry.put_other same]

theorem cancel_other
    {tasks canceled : TaskRegistry} {target id : TaskId}
    (accepted : tasks.cancel target = .ok canceled)
    (different : id ≠ target) :
    canceled.bindings id = tasks.bindings id := by
  obtain ⟨binding, _, _, updated⟩ := TaskRegistry.cancel_ok_iff.mp accepted
  subst updated
  exact TaskRegistry.put_other different

/-- Canceling listed Tasks leaves every other Task alone. -/
theorem cancelAll_other
    {targets : List TaskId} {id : TaskId} (tasks : TaskRegistry)
    (unlisted : id ∉ targets) :
    (cancelAll targets tasks).2.bindings id = tasks.bindings id := by
  induction targets generalizing tasks with
  | nil => rfl
  | cons target rest inductionHypothesis =>
      have different : id ≠ target := fun same =>
        unlisted (same ▸ List.mem_cons_self)
      have unlistedRest : id ∉ rest := fun member =>
        unlisted (List.mem_cons_of_mem target member)
      cases outcome : tasks.cancel target with
      | error error =>
          simp only [cancelAll, outcome]
          exact inductionHypothesis tasks unlistedRest
      | ok canceled =>
          simp only [cancelAll, outcome]
          rw [inductionHypothesis canceled unlistedRest]
          exact cancel_other outcome different

theorem cancelAll_keeps_conversation
    (targets : List TaskId) (tasks : TaskRegistry) (id : TaskId) :
    ((cancelAll targets tasks).2.bindings id).map
        TaskBinding.conversationId =
      (tasks.bindings id).map TaskBinding.conversationId := by
  induction targets generalizing tasks with
  | nil => rfl
  | cons target rest inductionHypothesis =>
      cases outcome : tasks.cancel target with
      | error error =>
          simp only [cancelAll, outcome]
          exact inductionHypothesis tasks
      | ok canceled =>
          simp only [cancelAll, outcome]
          rw [inductionHypothesis canceled]
          exact cancel_keeps_conversation outcome id

/-- The reset's list holds Tasks of its own key only. -/
theorem conversation_of_target
    {tasks : TaskRegistry} {key : String} {id : TaskId}
    (listed : id ∈ Resetting.targets tasks key) :
    (tasks.bindings id).map TaskBinding.conversationId = some key := by
  simp only [Resetting.targets, TaskRegistry.list, List.mem_map,
    List.mem_filter, List.mem_filterMap] at listed
  rcases listed with ⟨task, ⟨⟨source, _, snapshotted⟩, selected⟩, sameId⟩
  simp only [TaskRegistry.snapshot, Option.map_eq_some_iff] at snapshotted
  rcases snapshotted with ⟨binding, found, rfl⟩
  simp only [TaskBinding.snapshot] at sameId selected
  subst sameId
  rw [found]
  simp at selected
  exact congrArg some selected.1

theorem filter_of_conversation
    {key : String} {binding : Option TaskBinding}
    (foreign : binding.map TaskBinding.conversationId ≠ some key) :
    (binding.filter fun binding => binding.conversationId == key) = none := by
  cases binding with
  | none => rfl
  | some binding =>
      have elsewhere : binding.conversationId ≠ key := by
        simpa using foreign
      simp [Option.filter, elsewhere]

/-- The rows of one key outlive the deletion of another. -/
theorem filter_deleteConversation
    {key other : String} (different : other ≠ key) (rows : Rows) :
    ((rows.deleteConversation key).conversations.filter fun row =>
        row.conversationId == other) =
        (rows.conversations.filter fun row => row.conversationId == other) ∧
      ((rows.deleteConversation key).tasks.filter fun row =>
        row.conversationId == other) =
          rows.tasks.filter fun row => row.conversationId == other := by
  unfold Rows.deleteConversation
  cases rows.hasConversation key with
  | false => exact ⟨rfl, rfl⟩
  | true =>
      simp only [if_true, List.filter_filter]
      constructor <;>
      · apply List.filter_congr
        intro row _
        by_cases same : row.conversationId = other
        · simp [same, different]
        · simp [same]

/-- A reset leaves what stands under any other key as it is. -/
theorem resetConversation_keeps
    (state : ServeState) {key other : String} (rowDeleted : Bool)
    (different : other ≠ key) :
    holdings (resetConversation state key rowDeleted).2 other =
      holdings state other := by
  have tasksKept :
      ∀ id,
        (((cancelAll (Resetting.targets state.tasks key)
            state.tasks).2.bindings id).filter fun binding =>
              binding.conversationId == other) =
          (state.tasks.bindings id).filter fun binding =>
            binding.conversationId == other := by
    intro id
    by_cases listed : id ∈ Resetting.targets state.tasks key
    · have ownKey := conversation_of_target listed
      have foreign :
          (state.tasks.bindings id).map TaskBinding.conversationId ≠
            some other := by
        rw [ownKey]
        simpa using Ne.symm different
      have stillForeign := foreign
      rw [← cancelAll_keeps_conversation
        (Resetting.targets state.tasks key)] at stillForeign
      rw [filter_of_conversation foreign, filter_of_conversation stillForeign]
    · rw [cancelAll_other state.tasks listed]
  have sameTasks := (@cancelTargets_eq
    { recorded := fun _ => none, rowDeleted }
    (Resetting.targets state.tasks key) state.tasks state.rows).2
  have sameRows := @cancelTargets_unrecorded rowDeleted
    (Resetting.targets state.tasks key) state.tasks state.rows
  unfold resetConversation handleConversationReset holdings
  cases found :
      (state.conversations.get key).bind state.conversations.objects with
  | none =>
      simp only [sameTasks, sameRows, Holdings.mk.injEq, true_and, and_true]
      exact funext tasksKept
  | some conversation =>
      simp only [sameTasks, sameRows, Holdings.mk.injEq]
      refine ⟨?_, funext tasksKept, ?_, ?_⟩
      · rw [ConversationMap.remove_get_other different]
        rfl
      · by_cases deleted : rowDeleted = true
        · simp only [deleted, if_true, Option.map_map]
          congr 1
          funext rows
          exact (filter_deleteConversation different rows).1
        · simp [deleted]
      · by_cases deleted : rowDeleted = true
        · simp only [deleted, if_true, Option.map_map]
          congr 1
          funext rows
          exact (filter_deleteConversation different rows).2
        · simp [deleted]

/-! ## Keys of different routes -/

def unitSeparator : Char :=
  '\x1f'

/-- The caller id of `first` goes on after that of `second` with a separator,
and takes the beginning of the conversation id of `second` with it. -/
def Overlap (first second : Route) : Prop :=
  ∃ caller middle : String,
    second.callerId = some caller ∧
      first.callerId = some (caller ++ "\u001f" ++ middle) ∧
      second.conversationId = middle ++ "\u001f" ++ first.conversationId

/-- The two routes share a key, or a reset by the first can change what stands
under the key of the second, only if they are the same. -/
def Apart (first second : Route) : Prop :=
  (first.key = second.key ∨
    ∃ state rowDeleted,
      holdings (resetConversation state first.key rowDeleted).2 second.key ≠
        holdings state second.key) →
  first.callerId = second.callerId ∧
    first.conversationId = second.conversationId

theorem resolveCallerId_of_enabled
    {identity : CallerIdentityConfig} (enabled : identity.enabled = true)
    (header metadata : Option String) :
    ∃ caller, resolveCallerId identity header metadata = some caller := by
  cases header with
  | some caller => exact ⟨caller, by simp [resolveCallerId, enabled]⟩
  | none =>
      cases metadata with
      | some caller => exact ⟨caller, by simp [resolveCallerId, enabled]⟩
      | none =>
          exact ⟨identity.defaultCallerId, by simp [resolveCallerId, enabled]⟩

theorem parseRequest_callerId
    {params : Value} {header : Option String} {request : PromptRequest}
    (parsed : parseRequest json cfg params header = .ok request) :
    request.callerId =
      resolveCallerId cfg.callerIdentity header
        (metadataCaller request.parsed.message) := by
  unfold parseRequest at parsed
  split at parsed
  · cases parsed
  · split at parsed
    · cases parsed
    · cases parsed
      rfl

/-- With caller identities on, every request has one. -/
theorem caller_of_routed
    {route : Route} (enabled : cfg.callerIdentity.enabled = true)
    (routed : Routed json cfg route) :
    ∃ caller, route.callerId = some caller := by
  rcases routed with ⟨params, header, byPrompt | byReset⟩
  · unfold promptRoute at byPrompt
    cases parsed : parseRequest json cfg params
        (headerCaller cfg.callerIdentity header) with
    | error error => simp [parsed] at byPrompt
    | ok request =>
        simp only [parsed, Option.map_eq_some_iff] at byPrompt
        rcases byPrompt with ⟨conversationId, _, rfl⟩
        rw [parseRequest_callerId json cfg parsed]
        exact resolveCallerId_of_enabled enabled _ _
  · simp only [resetRoute, Option.map_eq_some_iff] at byReset
    rcases byReset with ⟨params, _, rfl⟩
    exact resolveCallerId_of_enabled enabled _ _

theorem partitionKey_toList (caller conversationId : String) :
    (partitionKey (some caller) conversationId).toList =
      Separated.join unitSeparator caller.toList conversationId.toList := by
  have separator : ("\u001f" : String).toList = [unitSeparator] := by decide
  simp [partitionKey, String.toList_append, separator, Separated.join]

theorem overlap_iff
    {caller otherCaller conversationId otherId : String} :
    Overlap { callerId := some caller, conversationId }
        { callerId := some otherCaller, conversationId := otherId } ↔
      Separated.Overlaps unitSeparator caller.toList conversationId.toList
        otherCaller.toList otherId.toList := by
  have separator : ("\u001f" : String).toList = [unitSeparator] := by decide
  constructor
  · intro overlap
    rcases overlap with ⟨shorter, middle, sameCaller, longer, crossed⟩
    cases sameCaller
    refine ⟨middle.toList, ?_, ?_⟩
    · simp [Option.some.inj longer, String.toList_append, separator]
    · simp only at crossed
      simp [crossed, String.toList_append, separator]
  · intro overlaps
    rcases overlaps with ⟨middle, longer, crossed⟩
    refine ⟨otherCaller, String.ofList middle, rfl, ?_, ?_⟩
    · apply congrArg some
      apply String.toList_inj.mp
      simp [longer, String.toList_append, separator]
    · apply String.toList_inj.mp
      simp [crossed, String.toList_append, separator]

theorem key_eq_iff
    {caller otherCaller conversationId otherId : String} :
    partitionKey (some caller) conversationId =
        partitionKey (some otherCaller) otherId ↔
      (caller = otherCaller ∧ conversationId = otherId) ∨
        Overlap { callerId := some caller, conversationId }
          { callerId := some otherCaller, conversationId := otherId } ∨
        Overlap { callerId := some otherCaller, conversationId := otherId }
          { callerId := some caller, conversationId } := by
  rw [← String.toList_inj, partitionKey_toList, partitionKey_toList,
    Separated.join_eq_iff, overlap_iff, overlap_iff, String.toList_inj,
    String.toList_inj]

/-- Callers whose ids are free of the separator never meet. -/
theorem partitionKey_injective
    {caller otherCaller conversationId otherId : String}
    (plain : unitSeparator ∉ caller.toList)
    (otherPlain : unitSeparator ∉ otherCaller.toList)
    (same :
      partitionKey (some caller) conversationId =
        partitionKey (some otherCaller) otherId) :
    caller = otherCaller ∧ conversationId = otherId := by
  rw [← String.toList_inj, partitionKey_toList, partitionKey_toList] at same
  have equal := Separated.join_injective plain otherPlain same
  exact ⟨String.toList_inj.mp equal.1, String.toList_inj.mp equal.2⟩

theorem apart_iff_key
    {first second : Route} :
    Apart first second ↔
      (first.key = second.key →
        first.callerId = second.callerId ∧
          first.conversationId = second.conversationId) := by
  constructor
  · intro apart sameKey
    exact apart (.inl sameKey)
  · intro byKey reached
    rcases reached with sameKey | ⟨state, rowDeleted, changed⟩
    · exact byKey sameKey
    · by_cases sameKey : second.key = first.key
      · exact byKey sameKey.symm
      · exact absurd (resetConversation_keeps state rowDeleted sameKey) changed

/-- Partitions of two requests are apart exactly when neither caller id runs
across the separator into the other's conversation id. -/
theorem caller_partitions_apart_iff
    (enabled : cfg.callerIdentity.enabled = true)
    {first second : Route}
    (firstRouted : Routed json cfg first)
    (secondRouted : Routed json cfg second) :
    Apart first second ↔ ¬ (Overlap first second ∨ Overlap second first) := by
  obtain ⟨caller, isCaller⟩ := caller_of_routed json cfg enabled firstRouted
  obtain ⟨otherCaller, isOther⟩ :=
    caller_of_routed json cfg enabled secondRouted
  rcases first with ⟨_, conversationId⟩
  rcases second with ⟨_, otherId⟩
  subst isCaller isOther
  rw [apart_iff_key]
  simp only [Route.key, key_eq_iff, Option.some.injEq]
  constructor
  · intro injective overlap
    have same := injective (.inr overlap)
    rcases same with ⟨rfl, rfl⟩
    rcases overlap with overlap | overlap
    · exact (overlap_iff.mp overlap).left_ne rfl
    · exact (overlap_iff.mp overlap).left_ne rfl
  · intro noOverlap sameKey
    rcases sameKey with same | overlap
    · exact same
    · exact absurd overlap noOverlap

/-! ## Two callers under one key -/

/-- A request of `caller` on `conversationId`, both in the metadata. -/
def promptParams (caller conversationId : String) : Value :=
  .object
    [("message", .object
      [("role", .string "user"),
        ("parts", .array [.object [("text", .string "hello")]]),
        ("metadata", .object
          [("x-a2a-shim/conversation", .string conversationId),
            ("x-a2a-shim/caller_id", .string caller)])])]

/-- A reset of `conversationId` by `caller`. -/
def resetParams (caller conversationId : String) : Value :=
  .object
    [("conversation_id", .string conversationId),
      ("caller_id", .string caller)]

def partitioned : ServeConfig :=
  { callerIdentity :=
      { enabled := true, defaultCallerId := "anonymous", trustHeader := true }
    maxPartBytes := 1048576
    cwd := "/work" }

/-- The conversation `c` of the caller `a␟b`, and nothing else. -/
def oneConversation : ServeState :=
  { cfg := partitioned
    acp := true
    sessions := ["s-1"]
    conversations :=
      (ConversationMap.new 4 600).insert
        (Route.key { callerId := some "a\u001fb", conversationId := "c" })
        "s-1" 0
    tasks := .empty
    rows := none
    pushRegistry := .empty
    pushTx := none }

/-- The caller `a` resets the conversation of the caller `a␟b`. -/
theorem partitions_overlap :
    promptRoute .constant partitioned (promptParams "a\u001fb" "c") none =
        some { callerId := some "a\u001fb", conversationId := "c" } ∧
      resetRoute partitioned (resetParams "a" "b\u001fc") none =
        some { callerId := some "a", conversationId := "b\u001fc" } ∧
      (holdings oneConversation
          (Route.key { callerId := some "a\u001fb", conversationId := "c" })
        ).conversation.isSome = true ∧
      (holdings
          (resetConversation oneConversation
            (Route.key
              { callerId := some "a", conversationId := "b\u001fc" })
            true).2
          (Route.key { callerId := some "a\u001fb", conversationId := "c" })
        ).conversation = none ∧
      ¬ Apart { callerId := some "a\u001fb", conversationId := "c" }
        { callerId := some "a", conversationId := "b\u001fc" } := by
  have sameKey :
      Route.key { callerId := some "a\u001fb", conversationId := "c" } =
        Route.key { callerId := some "a", conversationId := "b\u001fc" } := by
    decide
  refine ⟨by decide, by decide, by decide, by decide, ?_⟩
  intro apart
  have same := (apart (.inl sameKey)).2
  exact absurd same (by decide)

/-- Callers `alice` and `bob` share no conversation. -/
theorem alice_bob_apart :
    Apart { callerId := some "alice", conversationId := "project/x" }
      { callerId := some "bob", conversationId := "project/x" } := by
  refine (caller_partitions_apart_iff .constant partitioned rfl
    ⟨promptParams "alice" "project/x", none, .inl (by decide)⟩
    ⟨resetParams "bob" "project/x", none, .inr (by decide)⟩).mpr ?_
  have apart : ∀ middle : String,
      "alice" ≠ "bob" ++ "\u001f" ++ middle ∧
        "bob" ≠ "alice" ++ "\u001f" ++ middle := by
    intro middle
    refine ⟨fun same => ?_, fun same => ?_⟩
    · have heads := congrArg (fun text => text.toList.head?) same
      simp at heads
    · have heads := congrArg (fun text => text.toList.head?) same
      simp at heads
  rintro (overlap | overlap)
  · obtain ⟨caller, middle, isBob, isAlice, _⟩ := overlap
    cases isBob
    exact (apart middle).1 (Option.some.inj isAlice)
  · obtain ⟨caller, middle, isAlice, isBob, _⟩ := overlap
    cases isAlice
    exact (apart middle).2 (Option.some.inj isBob)

end Http

end A2AShim
