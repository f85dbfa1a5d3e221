import A2AShim.Client.McpServer
import A2AShim.Wire.JsonSchema

/-!
# The advertised schema and the arguments

`tools/list` advertises a schema for the arguments of `a2a_send`, and a call
decodes its arguments with a derived decoder of its own.
-/

namespace A2AShim

namespace McpServer

open JsonSchema
open KeyOrder
open Outbound (object)

def inputSchema : Value :=
  (toolDefinition.get "inputSchema").getD .null

theorem holds_object_iff
    {keywords : List (String × Value)} {value : Value}
    (distinct : (keywords.map Prod.fst).Nodup) :
    holds (object keywords) value = true ↔
      ∀ found, found ∈ keywords →
        keywordsHold (insertAll keywords []) [found] value = true := by
  rw [object, holds, keywordsHold_iff]
  constructor
  · intro all found member
    exact all found ((mem_insertAll_iff distinct (by simp)).mpr (.inl member))
  · intro all found member
    rcases (mem_insertAll_iff distinct (by simp)).mp member with listed | none
    · exact all found listed
    · cases none

theorem type_of_holds
    {keywords : List (String × Value)} {value : Value} {type : String}
    (distinct : (keywords.map Prod.fst).Nodup)
    (listed : ("type", .string type) ∈ keywords)
    (valid : holds (object keywords) value = true) :
    typeHolds type value = true := by
  have typed := (holds_object_iff distinct).mp valid _ listed
  simpa [keywordsHold, assertionHolds] using typed

theorem string_of_typeHolds
    {value : Value} (typed : typeHolds "string" value = true) :
    ∃ text, value = .string text := by
  cases value with
  | string text => exact ⟨text, rfl⟩
  | _ => simp [typeHolds] at typed

/-- What the schema says about the members that are decoded. -/
structure ValidArguments (value : Value) : Prop where
  isObject : typeHolds "object" value = true
  required : ∀ name, name ∈ ["endpoint", "conversation_id", "message"] →
    ∃ member, value.get name = some member
  texts : ∀ name,
    name ∈ ["endpoint", "conversation_id", "message", "task_id", "caller_id",
      "conversation_mode"] →
      ∀ member, value.get name = some member → ∃ text, member = .string text
  timeout : ∀ member, value.get "timeout_secs" = some member →
    ∃ number, member = .number number ∧ 1 ≤ number.toRat

theorem inputSchema_shape :
    ∃ keywords properties,
      inputSchema = object keywords ∧
        (keywords.map Prod.fst).Nodup ∧ (properties.map Prod.fst).Nodup ∧
        ("type", .string "object") ∈ keywords ∧
        ("required", .array
            [.string "endpoint", .string "conversation_id",
              .string "message"]) ∈ keywords ∧
        ("properties", object properties) ∈ keywords ∧
        (∀ name,
          name ∈ ["endpoint", "conversation_id", "message", "task_id",
            "caller_id", "conversation_mode"] →
            ∃ annotations,
              ((("type", Value.string "string") :: annotations).map
                  Prod.fst).Nodup ∧
                (name, object (("type", .string "string") :: annotations)) ∈
                  properties) ∧
        ∃ description,
          ((("type", Value.string "number") ::
              ("minimum", .number (.int 1)) :: [description]).map
                Prod.fst).Nodup ∧
            ("timeout_secs", object
              [("type", .string "number"), ("minimum", .number (.int 1)),
                description]) ∈ properties := by
  refine ⟨_, _, rfl, ?_, ?_, List.mem_of_getElem? (i := 0) rfl,
    List.mem_of_getElem? (i := 2) rfl, List.mem_of_getElem? (i := 3) rfl,
    ?_, ?_⟩
  · decide
  · decide
  · intro name listed
    simp only [List.mem_cons, List.not_mem_nil, or_false] at listed
    rcases listed with rfl | rfl | rfl | rfl | rfl | rfl
    · refine ⟨_, ?_, List.mem_of_getElem? (i := 0) rfl⟩
      decide
    · refine ⟨_, ?_, List.mem_of_getElem? (i := 1) rfl⟩
      decide
    · refine ⟨_, ?_, List.mem_of_getElem? (i := 2) rfl⟩
      decide
    · refine ⟨_, ?_, List.mem_of_getElem? (i := 3) rfl⟩
      decide
    · refine ⟨_, ?_, List.mem_of_getElem? (i := 6) rfl⟩
      decide
    · refine ⟨_, ?_, List.mem_of_getElem? (i := 7) rfl⟩
      decide
  · refine ⟨_, ?_, List.mem_of_getElem? (i := 4) rfl⟩
    decide

variable {value : Value}

theorem validArguments_of_holds (valid : holds inputSchema value = true) :
    ValidArguments value := by
  obtain ⟨keywords, properties, isSchema, distinct, distinctProperties,
    typed, required, members, strings, description, distinctTimeout, timeout⟩ :=
    inputSchema_shape
  rw [isSchema] at valid
  have each := (holds_object_iff distinct).mp valid
  have isObject := type_of_holds distinct typed valid
  have memberHolds :
      ∀ name schema member, (name, schema) ∈ properties →
        value.get name = some member → holds schema member = true := by
    intro name schema member listed found
    have held := each _ members
    simp only [keywordsHold, if_true, object, propertiesHold,
      Bool.and_true] at held
    exact membersHold_iff.mp held (name, schema)
      ((mem_insertAll_iff distinctProperties (by simp)).mpr (.inl listed))
      member found
  refine ⟨isObject, ?_, ?_, ?_⟩
  · intro name listed
    refine get_of_required (each _ typed) (each _ required) ?_
    simpa using listed
  · intro name listed member found
    obtain ⟨annotations, distinctKeywords, isProperty⟩ := strings name listed
    have held := memberHolds name _ member isProperty found
    exact string_of_typeHolds
      (type_of_holds distinctKeywords List.mem_cons_self held)
  · intro member found
    have held := memberHolds _ _ member timeout found
    have isNumber := type_of_holds distinctTimeout List.mem_cons_self held
    have least := (holds_object_iff distinctTimeout).mp held _
      (List.mem_cons_of_mem _ List.mem_cons_self)
    cases member with
    | number number =>
        have isLeast : (Number.int 1).toRat ≤ number.toRat := by
          simpa [keywordsHold, assertionHolds] using least
        exact ⟨number, rfl, isLeast⟩
    | _ => simp [typeHolds] at isNumber

/-- The timeout, if there is one, is an integer of 64 bits. -/
def TimeoutFits (value : Value) : Prop :=
  ∀ timeout, value.get "timeout_secs" = some timeout →
    ∃ seconds : Nat,
      seconds < 2 ^ 64 ∧ timeout = .number (.int seconds)

theorem optional_text
    {name : String}
    (texts : ∀ member, value.get name = some member →
      ∃ text, member = .string text) :
    ∃ text, Value.optional Value.asStr (value.get name) = some text := by
  cases found : value.get name with
  | none => exact ⟨none, rfl⟩
  | some member =>
      obtain ⟨text, rfl⟩ := texts member found
      exact ⟨some text, rfl⟩

theorem optional_timeout_iff
    (numbers : ∀ member, value.get "timeout_secs" = some member →
      ∃ number, member = .number number ∧ 1 ≤ number.toRat) :
    (∃ seconds,
        Value.optional ToolArguments.asU64 (value.get "timeout_secs") =
          some seconds) ↔
      TimeoutFits value := by
  cases found : value.get "timeout_secs" with
  | none => simp [Value.optional, TimeoutFits, found]
  | some member =>
      obtain ⟨number, rfl, least⟩ := numbers member found
      simp only [Value.optional, TimeoutFits, found, Option.some.injEq,
        forall_eq', Value.number.injEq, Option.map_eq_some_iff]
      cases number with
      | int seconds =>
          have positive : (1 : Int) ≤ seconds := by
            have cast : ((1 : Int) : Rat) ≤ (seconds : Rat) := by
              simpa [Number.toRat_int] using least
            exact Rat.intCast_le_intCast.mp cast
          constructor
          · rintro ⟨_, seconds', isSeconds, _⟩
            simp only [ToolArguments.asU64] at isSeconds
            split at isSeconds
            · rename_i range
              exact ⟨seconds.toNat, by omega, by
                rw [Int.toNat_of_nonneg range.1]⟩
            · cases isSeconds
          · rintro ⟨small, fits, isInt⟩
            cases isInt
            refine ⟨some small, small, ?_, rfl⟩
            simp only [ToolArguments.asU64]
            rw [if_pos (by omega)]
            simp
      | float bits => simp [ToolArguments.asU64]

/-- A value that satisfies the schema decodes exactly when its timeout is an
integer of 64 bits. -/
theorem decodes_iff (valid : ValidArguments value) :
    (∃ arguments, ToolArguments.ofValue value = some arguments) ↔
      TimeoutFits value := by
  rw [← optional_timeout_iff valid.timeout]
  have isMembers : value.structMembersFrom 3
      ["endpoint", "conversation_id", "message", "task_id", "timeout_secs",
        "metadata", "caller_id", "conversation_mode"] = some value := by
    have isObject := valid.isObject
    cases value with
    | object members => rfl
    | _ => simp [typeHolds] at isObject
  have text : ∀ name, name ∈ ["endpoint", "conversation_id", "message"] →
      ∃ content, value.get name = some (.string content) := by
    intro name listed
    obtain ⟨member, found⟩ := valid.required name listed
    obtain ⟨content, rfl⟩ :=
      valid.texts name (List.mem_append_left _ listed) member found
    exact ⟨content, found⟩
  obtain ⟨endpoint, isEndpoint⟩ := text "endpoint" (by simp)
  obtain ⟨conversation, isConversation⟩ := text "conversation_id" (by simp)
  obtain ⟨message, isMessage⟩ := text "message" (by simp)
  obtain ⟨taskId, isTaskId⟩ := optional_text (valid.texts "task_id" (by simp))
  obtain ⟨callerId, isCallerId⟩ :=
    optional_text (valid.texts "caller_id" (by simp))
  obtain ⟨mode, isMode⟩ :=
    optional_text (valid.texts "conversation_mode" (by simp))
  have metadata : ∃ metadata,
      Value.optional some (value.get "metadata") = some metadata := by
    unfold Value.optional
    split
    · exact ⟨_, rfl⟩
    · exact ⟨_, rfl⟩
    · exact ⟨_, rfl⟩
  obtain ⟨metadata, isMetadata⟩ := metadata
  cases timeout :
      Value.optional ToolArguments.asU64 (value.get "timeout_secs") with
  | none =>
      simp only [ToolArguments.ofValue, isMembers, isEndpoint, isConversation,
        isMessage, isTaskId, timeout, Value.asStr, Option.bind_eq_bind,
        Option.bind_some, Option.bind_none, reduceCtorEq, exists_false]
  | some seconds =>
      simp only [ToolArguments.ofValue, isMembers, isEndpoint, isConversation,
        isMessage, isTaskId, timeout, isMetadata, isCallerId, isMode,
        Value.asStr, Option.bind_eq_bind, Option.bind_some, Option.pure_def,
        Option.some.injEq, exists_eq']

/-! ## The call -/

/-- One call on its own: its task or its heartbeat goes on, or the host
cancels it. -/
inductive CallEvent where
  | task (step : CallStep)
  | cancel

/-- The call, and what it has sent so far. -/
def callStep (json : SerdeJson) :
    CallEvent → CallTask × List CallEffect →
      Option (CallTask × List CallEffect)
  | .task step, state =>
      (next json state.1 step).map fun found =>
        (found.1, state.2 ++ [found.2])
  | .cancel, state => some ({ state.1 with cancelled := true }, state.2)

def errorCode (response : Value) : Option Value :=
  (response.get "error").bind (Value.get "code")

/-- Some run of the call responds with `INVALID_PARAMS`. -/
def AnswersInvalidParams (json : SerdeJson) (request : Value) : Prop :=
  ∃ trace state response,
    Machine.Run (callStep json) Machine.free (spawn request, []) trace state ∧
      CallEffect.response response ∈ state.2 ∧
        errorCode response = some (.number (.int Codes.invalidParams))

/-- The result that stands for invalid parameters. -/
def IsMarker (result : Value) : Prop :=
  (result.get invalidParamsKey).bind Value.asBool = some true

variable {json : SerdeJson} {request result : Value}

theorem errorCode_toolResponse (unmarked : ¬ IsMarker result) :
    errorCode (toolResponse request result) = none := by
  unfold IsMarker at unmarked
  simp [toolResponse, unmarked, answer, JsonRpcResponse.toValue, errorCode]

theorem not_isMarker_object
    {isError : Bool} {content meta_ : Value} :
    ¬ IsMarker (object
      [("isError", .bool isError), ("content", content),
        ("_meta", meta_)]) := by
  have absent :
      (object [("isError", .bool isError), ("content", content),
        ("_meta", meta_)]).get invalidParamsKey = none := by
    rw [object, Outbound.get_object, member_insertAll_of_absent]
    · rfl
    · simp [invalidParamsKey]
  simp [IsMarker, absent]

theorem not_isMarker_renderOutcome (outcome : DriveOutcome) :
    ¬ IsMarker (CallHandler.renderOutcome outcome) := by
  cases outcome <;> exact not_isMarker_object

/-- The result a call carries on its way out. -/
def Carries (call : CallTask) (result : Value) : Prop :=
  call.pc = .stopping result ∨ call.pc = .leaving result ∨
    call.pc = .replying result

/-- No result of the call stands for invalid parameters, and none has been
sent. -/
structure Unmarked (request : Value) (state : CallTask × List CallEffect) :
    Prop where
  sameRequest : state.1.request = request
  result : ∀ result, Carries state.1 result → ¬ IsMarker result
  sent : ∀ response, CallEffect.response response ∈ state.2 →
    errorCode response ≠ some (.number (.int Codes.invalidParams))

section Next

variable {call after : CallTask} {step : CallStep} {effect : CallEffect}

theorem request_of_next
    (taken : next json call step = some (after, effect)) :
    after.request = call.request := by
  cases next_moves taken <;> rfl

/-- A call sends what it carries. -/
theorem response_of_next
    {response : Value}
    (taken : next json call step = some (after, .response response)) :
    ∃ result, Carries call result ∧
      response = toolResponse call.request result := by
  generalize isResponse : CallEffect.response response = effect at taken
  cases next_moves taken <;> cases isResponse
  case reply result carried => exact ⟨result, .inr (.inr carried), rfl⟩

/-- With arguments that decode, a call makes no result that stands for invalid
parameters. -/
theorem result_of_next
    (decodes : ∃ arguments,
      ToolArguments.ofValue (toolArguments call.request) = some arguments)
    (taken : next json call step = some (after, effect))
    (carried : Carries after result) :
    Carries call result ∨ ¬ IsMarker result := by
  obtain ⟨arguments, decoded⟩ := decodes
  unfold Carries at carried ⊢
  cases step with
  | register =>
      cases place : call.pc <;>
        simp only [next, place, decoded, reduceCtorEq, Option.some.injEq,
          Prod.mk.injEq] at taken
      obtain ⟨rfl, rfl⟩ := taken
      simp at carried
  | opened failure =>
      cases place : call.pc <;>
        simp only [next, place, reduceCtorEq, Option.some.injEq,
          Prod.mk.injEq] at taken
      obtain ⟨rfl, rfl⟩ := taken
      cases failure with
      | none => simp at carried
      | some error =>
          simp only [CallPc.stopping.injEq, reduceCtorEq, or_false] at carried
          subst carried
          exact .inr not_isMarker_object
  | polled item =>
      cases place : call.pc <;>
        simp only [next, place, reduceCtorEq, Option.some.injEq,
          Prod.mk.injEq] at taken
      obtain ⟨rfl, rfl⟩ := taken
      simp only at carried
      split at carried
      · simp at carried
      · simp only [CallPc.stopping.injEq, reduceCtorEq, or_false] at carried
        subst carried
        exact .inr (not_isMarker_renderOutcome _)
  | hostCancelled =>
      cases next_moves taken
      simp only [CallPc.stopping.injEq, reduceCtorEq, or_false] at carried
      subst carried
      exact .inr not_isMarker_object
  | startHeartbeat =>
      cases next_moves taken
      simp at carried
  | dropHeartbeat =>
      cases next_moves taken with
      | dropHeartbeat before place =>
          simp only [CallPc.leaving.injEq, reduceCtorEq, or_false,
            false_or] at carried
          subst carried
          exact .inl (.inl place)
  | unregister =>
      cases next_moves taken with
      | unregister before place =>
          simp only [CallPc.replying.injEq, reduceCtorEq, false_or] at carried
          subst carried
          exact .inl (.inr (.inl place))
  | reply =>
      cases next_moves taken
      simp at carried
  | wake | compose | sendFrame | endHeartbeat =>
      cases next_moves taken
      exact .inl carried

end Next

theorem unmarked_step
    {event : CallEvent} {source target : CallTask × List CallEffect}
    (decodes : ∃ arguments,
      ToolArguments.ofValue (toolArguments request) = some arguments)
    (unmarked : Unmarked request source)
    (taken : callStep json event source = some target) :
    Unmarked request target := by
  cases event with
  | cancel =>
      cases taken
      exact ⟨unmarked.sameRequest, unmarked.result, unmarked.sent⟩
  | task step =>
      obtain ⟨⟨after, effect⟩, moved, rfl⟩ := Option.map_eq_some_iff.mp taken
      refine ⟨(request_of_next moved).trans unmarked.sameRequest, ?_, ?_⟩
      · intro result carried
        rw [← unmarked.sameRequest] at decodes
        rcases result_of_next decodes moved carried with before | isFine
        · exact unmarked.result result before
        · exact isFine
      · intro response sent
        rcases List.mem_append.mp sent with earlier | now
        · exact unmarked.sent response earlier
        · obtain rfl := List.mem_singleton.mp now
          obtain ⟨result, carried, rfl⟩ := response_of_next moved
          rw [errorCode_toolResponse (unmarked.result result carried)]
          simp

/-- A call with arguments that decode never responds with `INVALID_PARAMS`,
whatever its stream, its heartbeat and the host do. -/
theorem not_answersInvalidParams
    (decodes : ∃ arguments,
      ToolArguments.ofValue (toolArguments request) = some arguments) :
    ¬ AnswersInvalidParams json request := by
  rintro ⟨trace, state, response, run, sent, isInvalid⟩
  have atStart : Unmarked request (spawn request, []) := by
    refine ⟨rfl, ?_, ?_⟩
    · intro result carried
      simp [Carries, spawn] at carried
    · intro response sent
      cases sent
  have unmarked := run.invariant (Unmarked request) atStart
    fun source event target unmarked _ taken =>
      unmarked_step decodes unmarked taken
  exact unmarked.sent response sent isInvalid

/-- A call with other arguments can respond with nothing else. -/
theorem answersInvalidParams
    (refused : ToolArguments.ofValue (toolArguments request) = none) :
    AnswersInvalidParams json request := by
  let marker := invalidParamsMarker (json.rejection (toolArguments request))
  let call := spawn request
  refine ⟨[.task .register, .task .reply],
    ({ call with pc := .done },
      [.quiet, .response (toolResponse request marker)]),
    toolResponse request marker, Machine.run_of_exec ?_, by simp, ?_⟩
  · simp [Machine.exec, callStep, next, call, spawn, refused, marker]
  · have marked :
        (marker.get invalidParamsKey).bind Value.asBool = some true := by
      simp [marker, invalidParamsMarker, object, Outbound.get_object,
        insertAll, member_insert, invalidParamsKey, Value.asBool]
    simp [toolResponse, marked, answer, JsonRpcResponse.toValue, errorCode,
      JsonRpcError.toValue]

/-! ## The agreement -/

/-- The arguments of a request that the schema admits are decoded, and the
call is not answered with `INVALID_PARAMS`. -/
structure SchemaAgrees (json : SerdeJson) (request : Value) : Prop where
  decodes : ∃ arguments,
    ToolArguments.ofValue (toolArguments request) = some arguments
  answered : ¬ AnswersInvalidParams json request

/-- For arguments that satisfy the advertised schema, the call accepts them
exactly when the timeout is absent or an integer of 64 bits. -/
theorem schema_agrees_iff
    (json : SerdeJson) (request : Value)
    (valid : holds inputSchema (toolArguments request) = true) :
    SchemaAgrees json request ↔ TimeoutFits (toolArguments request) := by
  rw [← decodes_iff (validArguments_of_holds valid)]
  constructor
  · exact fun agrees => agrees.decodes
  · exact fun decodes => ⟨decodes, not_answersInvalidParams decodes⟩

/-- A `tools/call` request with a timeout. -/
def timedRequest (timeout : Number) : Value :=
  .object
    [("id", .number (.int 1)), ("method", .string "tools/call"),
      ("params", .object
        [("name", .string "a2a_send"),
          ("arguments", .object
            [("endpoint", .string "http://127.0.0.1:7001"),
              ("conversation_id", .string "h/t"), ("message", .string "hi"),
              ("timeout_secs", .number timeout)])])]

theorem thirty_seconds_agree :
    SchemaAgrees .constant (timedRequest (.int 30)) := by
  refine (schema_agrees_iff .constant (timedRequest (.int 30))
    (by decide +kernel)).mpr ?_
  intro timeout found
  cases found
  exact ⟨30, by decide, rfl⟩

/-- A second and a half satisfies the schema, and is refused. -/
theorem fractional_timeout_is_refused :
    holds inputSchema
        (toolArguments (timedRequest (.float 0x3FF8000000000000))) = true ∧
      AnswersInvalidParams .constant
        (timedRequest (.float 0x3FF8000000000000)) ∧
      ¬ ∀ json request,
        holds inputSchema (toolArguments request) = true →
          SchemaAgrees json request := by
  have admitted :
      holds inputSchema
        (toolArguments (timedRequest (.float 0x3FF8000000000000))) = true := by
    decide +kernel
  have refused :
      AnswersInvalidParams .constant
        (timedRequest (.float 0x3FF8000000000000)) :=
    answersInvalidParams rfl
  refine ⟨admitted, refused, ?_⟩
  intro agree
  exact (agree .constant _ admitted).answered refused

end McpServer

end A2AShim
