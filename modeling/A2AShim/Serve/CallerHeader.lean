import A2AShim.Serve.CallerPartition

/-!
# The caller header

The caller of a request is taken from its header, if that is trusted, and else
from its body.  A header whose bytes are not visible ASCII counts as none.
-/

namespace A2AShim

/-- A header value may hold any visible ASCII byte, a tab, and any byte from
128 on. -/
structure HeaderValue where
  bytes : List UInt8
  valid : ∀ byte, byte ∈ bytes → 32 ≤ byte ∧ byte ≠ 127 ∨ byte = 9

namespace HeaderValue

def isVisibleAscii (byte : UInt8) : Bool :=
  32 ≤ byte && byte < 127 || byte == 9

/-- `HeaderValue::to_str`. -/
def toStr (value : HeaderValue) : Option String :=
  if value.bytes.all isVisibleAscii then
    some (String.ofList (value.bytes.map fun byte => Char.ofNat byte.toNat))
  else
    none

theorem isSome_toStr_iff {value : HeaderValue} :
    value.toStr.isSome = true ↔
      ∀ byte, byte ∈ value.bytes → isVisibleAscii byte = true := by
  unfold toStr
  rw [← List.all_eq_true]
  split
  · simp [*]
  · simp [*]

end HeaderValue

namespace Http

/-- What `jsonrpc_root` reads of the values of `X-A2A-Caller-Id`: the first
one, if it can be decoded. -/
def headerText (values : List HeaderValue) : Option String :=
  values.head?.bind HeaderValue.toStr

/-- Where a caller is resolved: `SendMessage` and `SendStreamingMessage` read
their parameters alike. -/
inductive Entry where
  | prompt
  | reset
  deriving DecidableEq, Repr

variable (json : SerdeJson) (cfg : ServeConfig)

/-- The caller and the conversation of a request, if it can be decoded. -/
def Entry.route (entry : Entry) (params : Value)
    (values : List HeaderValue) : Option Route :=
  match entry with
  | .prompt => promptRoute json cfg params (headerText values)
  | .reset => resetRoute cfg params (headerText values)

/-! ## Requests that differ in the caller -/

/-- The message without the caller in its metadata. -/
def withoutCaller (message : Message) : Message :=
  { message with
    metadata :=
      message.metadata.map fun metadata =>
        { metadata with
          extra := metadata.extra.filter fun member =>
            member.1 != "x-a2a-shim/caller_id" } }

/-- The requests differ in the callers that their bodies name, at most. -/
def Entry.SameButCaller (entry : Entry) (first second : Value) : Prop :=
  match entry with
  | .prompt =>
      ∃ parsed other,
        SendMessageParams.ofValue first = some parsed ∧
          SendMessageParams.ofValue second = some other ∧
            { parsed with message := withoutCaller parsed.message } =
              { other with message := withoutCaller other.message }
  | .reset =>
      ∃ parsed other,
        ConversationResetParams.ofValue first = some parsed ∧
          ConversationResetParams.ofValue second = some other ∧
            parsed.conversationId = other.conversationId

/-- A trusted header that is there decides on the caller, and one that is not
trusted has no say. -/
structure HeaderRules (values : List HeaderValue) (entry : Entry) : Prop where
  trusted : cfg.callerIdentity.enabled = true →
    cfg.callerIdentity.trustHeader = true → values ≠ [] →
      ∀ first second route other,
        entry.SameButCaller first second →
          entry.route json cfg first values = some route →
            entry.route json cfg second values = some other →
              route.callerId = other.callerId ∧ route.key = other.key
  untrusted : cfg.callerIdentity.trustHeader = false →
    ∀ params others,
      entry.route json cfg params values = entry.route json cfg params others

variable {json cfg} {values : List HeaderValue} {entry : Entry}
variable {first second params : Value} {route other : Route}

theorem conversation_withoutCaller (message : Message) :
    (withoutCaller message).metadata.bind MessageMetadata.conversation =
      message.metadata.bind MessageMetadata.conversation := by
  cases found : message.metadata with
  | none => simp [withoutCaller, found]
  | some metadata => simp [withoutCaller, found]

theorem parsed_of_parseRequest
    {header : Option String} {request : PromptRequest}
    (accepted : parseRequest json cfg params header = .ok request) :
    SendMessageParams.ofValue params = some request.parsed := by
  unfold parseRequest at accepted
  split at accepted
  · cases accepted
  · rename_i parsed found
    split at accepted
    · cases accepted
    · cases accepted
      exact found

/-- A header that is decoded is the caller, whatever the body says. -/
theorem callerId_of_header
    {text : String} (enabled : cfg.callerIdentity.enabled = true)
    (trusted : cfg.callerIdentity.trustHeader = true)
    (decoded : headerText values = some text)
    (routed : entry.route json cfg params values = some route) :
    route.callerId = some text := by
  cases entry with
  | prompt =>
      simp only [Entry.route, promptRoute, decoded] at routed
      split at routed
      · cases routed
      · rename_i request accepted
        obtain ⟨_, _, rfl⟩ := Option.map_eq_some_iff.mp routed
        rw [parseRequest_callerId json cfg accepted]
        simp [resolveCallerId, headerCaller, enabled, trusted]
  | reset =>
      simp only [Entry.route, resetRoute, decoded] at routed
      obtain ⟨_, _, rfl⟩ := Option.map_eq_some_iff.mp routed
      simp [resolveCallerId, headerCaller, enabled, trusted]

/-- The body's caller has no influence on the conversation id. -/
theorem conversationId_of_same
    (same : entry.SameButCaller first second)
    (routed : entry.route json cfg first values = some route)
    (routedToo : entry.route json cfg second values = some other) :
    route.conversationId = other.conversationId := by
  cases entry with
  | prompt =>
      obtain ⟨parsed, parsedToo, isFirst, isSecond, equal⟩ := same
      simp only [Entry.route, promptRoute] at routed routedToo
      split at routed
      · cases routed
      · rename_i request accepted
        split at routedToo
        · cases routedToo
        · rename_i requestToo acceptedToo
          obtain ⟨conversation, found, rfl⟩ :=
            Option.map_eq_some_iff.mp routed
          obtain ⟨conversationToo, foundToo, rfl⟩ :=
            Option.map_eq_some_iff.mp routedToo
          rw [parsed_of_parseRequest accepted] at isFirst
          rw [parsed_of_parseRequest acceptedToo] at isSecond
          cases isFirst
          cases isSecond
          have messages :
              withoutCaller request.parsed.message =
                withoutCaller requestToo.parsed.message :=
            congrArg SendMessageParams.message equal
          rw [← conversation_withoutCaller, messages,
            conversation_withoutCaller, foundToo] at found
          exact (Option.some.inj found).symm
  | reset =>
      obtain ⟨parsed, parsedToo, isFirst, isSecond, equal⟩ := same
      simp only [Entry.route, resetRoute, isFirst, isSecond,
        Option.map_some, Option.some.injEq] at routed routedToo
      rw [← routed, ← routedToo]
      exact equal

theorem route_of_untrusted
    (untrusted : cfg.callerIdentity.trustHeader = false)
    (others : List HeaderValue) :
    entry.route json cfg params values =
      entry.route json cfg params others := by
  have noHeader : ∀ header,
      headerCaller cfg.callerIdentity header = none := by
    intro header
    simp [headerCaller, untrusted]
  cases entry with
  | prompt => simp only [Entry.route, promptRoute, noHeader]
  | reset => simp only [Entry.route, resetRoute, noHeader]

/-! ## Two callers under one header -/

/-- A request that names a caller in its body. -/
def Entry.paramsOf (entry : Entry) (caller : String) : Value :=
  match entry with
  | .prompt => promptParams caller "c"
  | .reset => resetParams caller "c"

theorem sameButCaller_paramsOf (entry : Entry) :
    entry.SameButCaller (entry.paramsOf "alice") (entry.paramsOf "bob") := by
  cases entry with
  | prompt => exact ⟨_, _, rfl, rfl, rfl⟩
  | reset => exact ⟨_, _, rfl, rfl, rfl⟩

/-- Where the header cannot be decoded, the body names the caller. -/
theorem route_paramsOf
    (enabled : cfg.callerIdentity.enabled = true)
    (undecoded : headerText values = none) (caller : String) :
    entry.route json cfg (entry.paramsOf caller) values =
      some { callerId := some caller, conversationId := "c" } := by
  have noHeader :
      headerCaller cfg.callerIdentity (headerText values) = none := by
    simp [headerCaller, undecoded]
  have fromBody :
      resolveCallerId cfg.callerIdentity none (some caller) = some caller := by
    simp [resolveCallerId, enabled]
  cases entry with
  | prompt =>
      simp only [Entry.route, promptRoute, noHeader]
      exact congrArg
        (fun callerId => some (Route.mk callerId "c")) fromBody
  | reset =>
      simp only [Entry.route, resetRoute, noHeader]
      exact congrArg
        (fun callerId => some (Route.mk callerId "c")) fromBody

/-- The rules hold exactly when the header, where it is trusted, is visible
ASCII. -/
theorem header_rules_iff
    (json : SerdeJson) (cfg : ServeConfig) (values : List HeaderValue)
    (entry : Entry) :
    HeaderRules json cfg values entry ↔
      (cfg.callerIdentity.enabled = true →
        cfg.callerIdentity.trustHeader = true →
          ∀ header, values.head? = some header →
            ∀ byte, byte ∈ header.bytes →
              HeaderValue.isVisibleAscii byte = true) := by
  constructor
  · intro rules enabled trusted header isFirst
    rw [← HeaderValue.isSome_toStr_iff]
    by_contra undecoded
    have none : headerText values = none := by
      simpa [headerText, isFirst] using undecoded
    have present : values ≠ [] := by
      intro empty
      rw [empty] at isFirst
      cases isFirst
    have same := (rules.trusted enabled trusted present _ _ _ _
      (sameButCaller_paramsOf entry) (route_paramsOf enabled none "alice")
      (route_paramsOf enabled none "bob")).1
    simp at same
  · intro visible
    refine ⟨?_, fun untrusted _ others => route_of_untrusted untrusted others⟩
    intro enabled trusted present first second route other same routed
      routedToo
    obtain ⟨header, more, rfl⟩ := List.exists_cons_of_ne_nil present
    have decodes := HeaderValue.isSome_toStr_iff.mpr
      (visible enabled trusted header rfl)
    obtain ⟨text, isText⟩ := Option.isSome_iff_exists.mp decodes
    have decoded : headerText (header :: more) = some text := isText
    have caller := callerId_of_header enabled trusted decoded routed
    have callerToo := callerId_of_header enabled trusted decoded routedToo
    have sameCaller := caller.trans callerToo.symm
    refine ⟨sameCaller, ?_⟩
    rw [Route.key, Route.key, sameCaller,
      conversationId_of_same same routed routedToo]

/-- `é` in Latin-1. -/
def latinHeader : HeaderValue :=
  { bytes := [0xE9]
    valid := by
      intro byte member
      rw [List.mem_singleton.mp member]
      exact .inl (by decide) }

/-- Under the one header the body's caller is the resolved one. -/
theorem body_overrides_header :
    Entry.route .constant partitioned .prompt (promptParams "alice" "c")
          [latinHeader] =
        some { callerId := some "alice", conversationId := "c" } ∧
      Entry.route .constant partitioned .prompt (promptParams "bob" "c")
          [latinHeader] =
        some { callerId := some "bob", conversationId := "c" } ∧
      ¬ HeaderRules .constant partitioned [latinHeader] .prompt := by
  refine ⟨by decide, by decide, ?_⟩
  intro rules
  have same := (rules.trusted rfl rfl (by decide) _ _ _ _
    (sameButCaller_paramsOf .prompt)
    (route_paramsOf rfl (by decide) "alice")
    (route_paramsOf rfl (by decide) "bob")).1
  simp at same

end Http

end A2AShim
