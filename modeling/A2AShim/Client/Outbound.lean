import Mathlib.Data.String.Basic
import A2AShim.Lib.KeyOrder
import A2AShim.Serve.Http

/-!
# The request of the Client Shim

`build_request_body`, and what the Serve Shim makes of it.  A
`serde_json::Map` keeps its members in key order.
-/

namespace A2AShim

namespace Outbound

open KeyOrder

def callerKey : String :=
  "x-a2a-shim/caller_id"

def isReserved (key : String) : Bool :=
  key == MessageMetadata.conversationKey || key == callerKey

/-- What the host has supplied, without the two keys it may not set. -/
def suppliedMetadata : Option Value → List (String × Value)
  | some (.object members) => members.filter fun found => !isReserved found.1
  | _ => []

def insertSome (key : String) (value : Option String)
    (members : List (String × Value)) : List (String × Value) :=
  match value with
  | some text => insert key (.string text) members
  | none => members

def requestMetadata (conversationId : String) (metadata : Option Value)
    (callerId : Option String) : List (String × Value) :=
  insertAll (suppliedMetadata metadata)
    (insertSome callerKey callerId
      (insert MessageMetadata.conversationKey (.string conversationId) []))

/-- An object literal. -/
def object (members : List (String × Value)) : Value :=
  .object (insertAll members [])

def requestParams (conversationId message : String) (taskId : Option String)
    (metadata : Option Value) (callerId conversationMode : Option String) :
    Value :=
  .object
    (insert "message"
      (object
        [("role", .string "user"),
          ("parts", .array [object [("text", .string message)]]),
          ("metadata",
            .object (requestMetadata conversationId metadata callerId))])
      (insertSome "_shim_conversation_mode" conversationMode
        (insertSome "id" taskId [])))

def buildRequestBody (conversationId message : String)
    (taskId : Option String) (metadata : Option Value)
    (callerId conversationMode : Option String) : Value :=
  object
    [("jsonrpc", .string "2.0"), ("id", .number (.int 1)),
      ("method", .string "SendStreamingMessage"),
      ("params",
        requestParams conversationId message taskId metadata callerId
          conversationMode)]

/-! ## Looking members up -/

theorem get_object (key : String) (members : List (String × Value)) :
    (Value.object members).get key = member key members :=
  rfl

theorem member_insertSome
    (key tested : String) (value : Option String)
    (members : List (String × Value)) :
    member tested (insertSome key value members) =
      if key = tested then
        (value.map .string).or (member tested members)
      else
        member tested members := by
  cases value with
  | none => simp [insertSome]
  | some text => simp [insertSome, member_insert]

theorem InOrder.insertSome
    {members : List (String × Value)} (ordered : InOrder members)
    (key : String) (value : Option String) :
    InOrder (insertSome key value members) := by
  cases value with
  | none => exact ordered
  | some text => exact ordered.insert key (.string text)

/-! ## What the Serve Shim extracts -/

/-- The extra members but for the caller id. -/
def remainingMetadata (metadata : MessageMetadata) : List (String × Value) :=
  metadata.extra.filter fun found => found.1 != callerKey

/-- Exactly what the host has supplied remains, but for the two keys. -/
structure Remains (metadata : Option Value)
    (remaining : List (String × Value)) : Prop where
  ordered : InOrder remaining
  members : ∀ key value, (key, value) ∈ remaining ↔
    (∃ supplied, metadata = some (.object supplied) ∧
        (key, value) ∈ supplied) ∧
      key ≠ "x-a2a-shim/conversation" ∧ key ≠ "x-a2a-shim/caller_id"

variable (conversationId message : String) (taskId : Option String)
variable (metadata : Option Value) (callerId conversationMode : Option String)

/-- The Serve Shim recovers every argument from the parameters. -/
structure Recovers (params : Value) : Prop where
  parsed : ∃ parsed decoded,
    SendMessageParams.ofValue params = some parsed ∧
      parsed.id = taskId.map TaskId.mk ∧
        parsed.message.parts = [.text message] ∧
          parsed.message.metadata = some decoded ∧
            decoded.conversation = some conversationId ∧
              Http.metadataCaller parsed.message = callerId ∧
                ((∀ members, metadata = some (.object members) →
                    InOrder members) →
                  Remains metadata (remainingMetadata decoded))
  named :
    (params.get "_shim_conversation_mode").bind Value.asStr = conversationMode
  mode : Http.conversationMode params = conversationMode.getD "auto"

/-- The metadata as it is decoded from the request. -/
def decodedMetadata : MessageMetadata :=
  { conversation := some conversationId
    extra :=
      (requestMetadata conversationId metadata callerId).filter
        fun found => found.1 != MessageMetadata.conversationKey }

theorem isReserved_of_supplied
    {found : String × Value} (supplied : found ∈ suppliedMetadata metadata) :
    isReserved found.1 = false := by
  unfold suppliedMetadata at supplied
  split at supplied
  · simpa using (List.mem_filter.mp supplied).2
  · cases supplied

theorem requestMetadata_ordered :
    InOrder (requestMetadata conversationId metadata callerId) := by
  have routed :
      InOrder (insertSome callerKey callerId
        (insert MessageMetadata.conversationKey (.string conversationId) [])) :=
    InOrder.insertSome (List.pairwise_singleton _ _) _ _
  exact routed.insertAll (suppliedMetadata metadata)

theorem member_conversation :
    member MessageMetadata.conversationKey
        (requestMetadata conversationId metadata callerId) =
      some (.string conversationId) := by
  have absent : ∀ found, found ∈ suppliedMetadata metadata →
      found.1 ≠ MessageMetadata.conversationKey := by
    intro found supplied same
    have notReserved := isReserved_of_supplied metadata supplied
    simp [isReserved, same] at notReserved
  rw [requestMetadata, member_insertAll_of_absent absent, member_insertSome,
    if_neg (by decide), member_insert, if_pos rfl]

theorem member_caller :
    member callerKey (requestMetadata conversationId metadata callerId) =
      callerId.map .string := by
  have absent : ∀ found, found ∈ suppliedMetadata metadata →
      found.1 ≠ callerKey := by
    intro found supplied same
    have notReserved := isReserved_of_supplied metadata supplied
    simp [isReserved, same] at notReserved
  rw [requestMetadata, member_insertAll_of_absent absent, member_insertSome,
    if_pos rfl, member_insert, if_neg (by decide)]
  cases callerId <;> rfl

theorem suppliedMetadata_ordered
    (isMap : ∀ members, metadata = some (.object members) →
      InOrder members) :
    InOrder (suppliedMetadata metadata) := by
  unfold suppliedMetadata
  split
  · rename_i members
    exact (isMap members rfl).filter _
  · exact List.Pairwise.nil

theorem caller_recovered :
    ((decodedMetadata conversationId metadata callerId).getExtra
        callerKey).bind Value.asStr =
      callerId := by
  rw [decodedMetadata, MessageMetadata.getExtra, get_object,
    member_filter fun name => name != MessageMetadata.conversationKey,
    if_pos (by decide), member_caller]
  cases callerId <;> rfl

theorem mem_suppliedMetadata
    (key : String) (value : Value) :
    (key, value) ∈ suppliedMetadata metadata ↔
      (∃ supplied, metadata = some (.object supplied) ∧
          (key, value) ∈ supplied) ∧
        key ≠ "x-a2a-shim/conversation" ∧ key ≠ "x-a2a-shim/caller_id" := by
  have unreserved : (!isReserved key) = true ↔
      key ≠ "x-a2a-shim/conversation" ∧ key ≠ "x-a2a-shim/caller_id" := by
    simp [isReserved, MessageMetadata.conversationKey, callerKey]
  unfold suppliedMetadata
  split
  · rename_i members
    rw [List.mem_filter, unreserved]
    simp
  · rename_i notObject
    constructor
    · intro supplied
      cases supplied
    · rintro ⟨⟨members, isObject, _⟩, _⟩
      exact absurd isObject (notObject members)

/-- What is left of the metadata is what the host has supplied. -/
theorem remaining_eq
    (isMap : ∀ members, metadata = some (.object members) →
      InOrder members) :
    remainingMetadata (decodedMetadata conversationId metadata callerId) =
      suppliedMetadata metadata := by
  have supplied := suppliedMetadata_ordered metadata isMap
  have request := requestMetadata_ordered conversationId metadata callerId
  have unreserved :
      (fun found : String × Value =>
          found.1 != callerKey &&
            found.1 != MessageMetadata.conversationKey) =
        fun found => !isReserved found.1 := by
    funext found
    simp [isReserved, bne, Bool.and_comm]
  rw [remainingMetadata, decodedMetadata, List.filter_filter, unreserved]
  apply eq_of_member_eq (request.filter _) supplied
  intro key
  rw [member_filter fun name => !isReserved name]
  by_cases reserved : isReserved key = true
  · have absent : ∀ found, found ∈ suppliedMetadata metadata →
        found.1 ≠ key := by
      intro found isSupplied same
      have notReserved := isReserved_of_supplied metadata isSupplied
      rw [same, reserved] at notReserved
      cases notReserved
    rw [member_eq_none_of_absent absent]
    simp [reserved]
  · have notRouted :
        member key (insertSome callerKey callerId
          (insert MessageMetadata.conversationKey (.string conversationId)
            [])) = none := by
      simp only [isReserved, Bool.or_eq_true, beq_iff_eq, not_or] at reserved
      rw [member_insertSome, if_neg (Ne.symm reserved.2), member_insert,
        if_neg (Ne.symm reserved.1)]
      rfl
    rw [requestMetadata, member_insertAll supplied, notRouted]
    simp [reserved]

/-! ## The request -/

/-- The message of a request. -/
def requestMessage : Value :=
  object
    [("role", .string "user"),
      ("parts", .array [object [("text", .string message)]]),
      ("metadata",
        .object (requestMetadata conversationId metadata callerId))]

theorem get_requestParams (key : String) :
    (requestParams conversationId message taskId metadata callerId
        conversationMode).get key =
      if "message" = key then
        some (requestMessage conversationId message metadata callerId)
      else if "_shim_conversation_mode" = key then
        conversationMode.map .string
      else if "id" = key then
        taskId.map .string
      else
        none := by
  have nothing : member key ([] : List (String × Value)) = none := rfl
  rw [requestParams, get_object, member_insert, member_insertSome,
    member_insertSome, nothing]
  by_cases isMode : "_shim_conversation_mode" = key
  · subst isMode
    simp
  · simp [isMode, requestMessage]

theorem get_requestMessage (key : String) :
    (requestMessage conversationId message metadata callerId).get key =
      if "metadata" = key then
        some (.object (requestMetadata conversationId metadata callerId))
      else if "parts" = key then
        some (.array [object [("text", .string message)]])
      else if "role" = key then
        some (.string "user")
      else
        none := by
  have nothing : member key ([] : List (String × Value)) = none := rfl
  simp only [requestMessage, object, get_object, insertAll, List.foldl_cons,
    List.foldl_nil, member_insert, nothing]

theorem requestMessage_parsed :
    Message.ofValue
        (requestMessage conversationId message metadata callerId) =
      some
        { role := .user
          parts := [.text message]
          metadata :=
            some (decodedMetadata conversationId metadata callerId) } := by
  have isMetadata :
      MessageMetadata.ofValue
          (.object (requestMetadata conversationId metadata callerId)) =
        some (decodedMetadata conversationId metadata callerId) := by
    simp only [MessageMetadata.ofValue, get_object, member_conversation]
    rfl
  have isObject :
      (requestMessage conversationId message metadata callerId).structMembers
          ["role", "parts", "metadata"] =
        some (requestMessage conversationId message metadata callerId) :=
    rfl
  have areParts :
      Message.partsOfValue (.array [object [("text", .string message)]]) =
        some [.text message] :=
    rfl
  have isRole : MessageRole.ofValue (.string "user") = some .user := rfl
  simp only [Message.ofValue, isObject, get_requestMessage,
    Option.bind_eq_bind, Option.bind_some]
  simp [isRole, areParts, Value.optional, isMetadata]

/-- The parameters are read back as they were given. -/
theorem requestParams_parsed :
    SendMessageParams.ofValue
        (requestParams conversationId message taskId metadata callerId
          conversationMode) =
      some
        { id := taskId.map TaskId.mk
          message :=
            { role := .user
              parts := [.text message]
              metadata :=
                some (decodedMetadata conversationId metadata callerId) }
          configuration := none } := by
  have isMessage :=
    requestMessage_parsed conversationId message metadata callerId
  have isId :
      Value.optional (fun id => id.asStr.map TaskId.mk)
          (taskId.map .string) =
        some (taskId.map TaskId.mk) := by
    cases taskId <;> rfl
  have noConfiguration :
      Value.optional some none = some (none : Option Value) :=
    rfl
  have isObject :
      (requestParams conversationId message taskId metadata callerId
          conversationMode).structMembers ["id", "message", "configuration"] =
        some (requestParams conversationId message taskId metadata callerId
          conversationMode) :=
    rfl
  simp only [SendMessageParams.ofValue, isObject, get_requestParams,
    Option.bind_eq_bind, Option.bind_some]
  simp [isId, isMessage, noConfiguration]

/-- The Serve Shim recovers from the body what the Client Shim was given. -/
theorem request_is_recovered :
    ∃ params,
      (buildRequestBody conversationId message taskId metadata callerId
          conversationMode).get "params" = some params ∧
        Recovers conversationId message taskId metadata callerId
          conversationMode params := by
  have isMode :
      (requestParams conversationId message taskId metadata callerId
          conversationMode).get "_shim_conversation_mode" =
        conversationMode.map .string := by
    rw [get_requestParams, if_neg (by decide), if_pos rfl]
  have named :
      (conversationMode.map Value.string).bind Value.asStr =
        conversationMode := by
    cases conversationMode <;> rfl
  have nothing : member "params" ([] : List (String × Value)) = none := rfl
  refine ⟨_, ?_, { parsed := ⟨_, _, requestParams_parsed conversationId message
    taskId metadata callerId conversationMode, rfl, rfl, rfl, rfl, ?_, ?_⟩
                   named := by rw [isMode, named]
                   mode := by rw [Http.conversationMode, isMode, named] }⟩
  · simp [buildRequestBody, object, get_object, insertAll, member_insert]
  · exact caller_recovered conversationId metadata callerId
  · intro isMap
    rw [remaining_eq conversationId metadata callerId isMap]
    exact ⟨suppliedMetadata_ordered metadata isMap,
      mem_suppliedMetadata metadata⟩

/-- The host names another conversation and a caller in its metadata. -/
theorem reserved_keys_recovered :
    ∃ params parsed decoded,
      (buildRequestBody "c" "hi" none
          (some (.object
            [("note", .string "n"),
              ("x-a2a-shim/caller_id", .string "mallory"),
              ("x-a2a-shim/conversation", .string "other")]))
          none none).get "params" = some params ∧
        SendMessageParams.ofValue params = some parsed ∧
          parsed.message.metadata = some decoded ∧
            decoded.conversation = some "c" ∧
              Http.metadataCaller parsed.message = none ∧
                ("note", .string "n") ∈ remainingMetadata decoded ∧
                  ∀ value, ("x-a2a-shim/caller_id", value) ∉
                    remainingMetadata decoded := by
  let supplied : List (String × Value) :=
    [("note", .string "n"), ("x-a2a-shim/caller_id", .string "mallory"),
      ("x-a2a-shim/conversation", .string "other")]
  obtain ⟨params, isParams, recovered⟩ :=
    request_is_recovered "c" "hi" none (some (.object supplied)) none none
  obtain ⟨parsed, decoded, isParsed, _, _, isDecoded, isConversation,
    isCaller, remains⟩ := recovered.parsed
  have isMap : ∀ members, some (Value.object supplied) =
      some (.object members) → InOrder members := by
    intro members same
    cases same
    have ordered :
        ("note" < "x-a2a-shim/caller_id" ∧
          "note" < "x-a2a-shim/conversation") ∧
            "x-a2a-shim/caller_id" < "x-a2a-shim/conversation" := by
      simp only [String.lt_iff_toList_lt]
      decide
    simpa [InOrder, supplied] using ordered
  obtain ⟨_, exactly⟩ := remains isMap
  refine ⟨params, parsed, decoded, isParams, isParsed, isDecoded,
    isConversation, isCaller, ?_, ?_⟩
  · rw [exactly]
    exact ⟨⟨supplied, rfl, List.mem_cons_self⟩, by decide, by decide⟩
  · intro value remained
    rw [exactly] at remained
    exact remained.2.2 rfl

end Outbound

end A2AShim
