import A2AShim.Client.McpReplies

/-!
# Cancellation by the host

The token of a call is registered by the spawned task and not by the loop that
has read the request.  From then on until the call unregisters it, the token
that is not canceled yet is under its key, as long as the ids of the running
calls differ.  A `notifications/cancelled` that is read before that finds
nothing.
-/

namespace A2AShim

namespace McpServer

variable {json : SerdeJson} {parseFailure : String → String}
variable {call after : CallTask} {callStep : CallStep} {effect : CallEffect}
variable {state target : McpLoop} {action : McpAction}

/-- `call_a2a_send` has returned. -/
def isFinished (call : CallTask) : Bool :=
  match call.pc with
  | .replying _ => true
  | .done => true
  | _ => false

/-- The token of the call is registered. -/
def isRegistered (call : CallTask) : Bool :=
  match call.pc with
  | .spawned => false
  | .replying _ => false
  | .done => false
  | _ => true

/-- No two calls with one id run at the same time. -/
def DistinctCalls (state : McpLoop) : Prop :=
  ∀ (index other : Nat) (first second : CallTask),
    state.calls[index]? = some first → state.calls[other]? = some second →
      isFinished first = false → isFinished second = false →
        requestId first.request = requestId second.request → index = other

/-- The loop reads a `notifications/cancelled` for `id`. -/
def Cancels (json : SerdeJson) (id : Value) (state : McpLoop)
    (action : McpAction) : Prop :=
  action = .read ∧ state.pc = .reading ∧
    ∃ first rest, state.input = first :: rest ∧
      cancelledLine json first = some id

/-- It does so while the call of that id has not registered its token. -/
def CancelsTooEarly (json : SerdeJson) (state : McpLoop)
    (action : McpAction) : Prop :=
  ∃ call, call ∈ state.calls ∧ call.pc = .spawned ∧
    Cancels json (requestId call.request) state action

/-- The ids that requests and cancellations carry. -/
def mentionedIds (json : SerdeJson) (lines : List String) : List Value :=
  lines.flatMap fun line =>
    ((json.fromText line).map requestId).toList ++
      (cancelledLine json line).toList

/-- The printed ids tell the ids apart. -/
def DistinctTexts (json : SerdeJson) (lines : List String) : Prop :=
  ∀ id, id ∈ mentionedIds json lines →
    ∀ other, other ∈ mentionedIds json lines →
      json.toText id = json.toText other → id = other

/-! ## Steps of a call -/

theorem Moves.cancelled_eq
    (moves : Moves json call callStep after effect) :
    after.cancelled = call.cancelled := by
  cases moves <;> rfl

/-- A call registers and unregisters once, and is registered in between. -/
theorem Moves.registered_cases
    (moves : Moves json call callStep after effect) :
    (effect = .register ∧ isFinished call = false ∧
        isRegistered call = false ∧ isRegistered after = true) ∨
      (effect = .unregister ∧ isFinished call = false ∧
        isRegistered after = false) ∨
        (effect ≠ .register ∧ effect ≠ .unregister ∧
          isRegistered after = isRegistered call) := by
  cases moves with
  | refuse result place =>
      exact .inr (.inr (by simp [isRegistered, place]))
  | register args place =>
      exact .inl (by simp [isRegistered, isFinished, place])
  | startHeartbeat args beat place =>
      exact .inr (.inr (by simp [isRegistered, place]))
  | unopened args error result place =>
      exact .inr (.inr (by simp [isRegistered, place]))
  | opened args task place =>
      exact .inr (.inr (by simp [isRegistered, place]))
  | driven item task updated place =>
      exact .inr (.inr (by simp [isRegistered, place]))
  | drained item task result place =>
      exact .inr (.inr (by simp [isRegistered, place]))
  | hostCancelled task place =>
      exact .inr (.inr (by simp [isRegistered, place]))
  | dropHeartbeat result place =>
      exact .inr (.inr (by simp [isRegistered, place]))
  | unregister result place =>
      exact .inr (.inl (by simp [isRegistered, isFinished, place]))
  | reply result place =>
      exact .inr (.inr (by simp [isRegistered, place]))
  | wake place => exact .inr (.inr ⟨nofun, nofun, rfl⟩)
  | compose place => exact .inr (.inr ⟨nofun, nofun, rfl⟩)
  | sendFrame progress message token place =>
      exact .inr (.inr ⟨nofun, nofun, rfl⟩)
  | endHeartbeat place => exact .inr (.inr ⟨nofun, nofun, rfl⟩)

theorem registered_iff :
    isRegistered call = true ↔ isFinished call = false ∧ call.pc ≠ .spawned := by
  cases place : call.pc <;> simp [isRegistered, isFinished, place]

/-! ## The registry -/

/-- An entry of the registry is a registered call under its key, and a
registered call whose token is not canceled has one. -/
structure Keyed (json : SerdeJson) (calls : List CallTask)
    (registry : String → Option Nat) : Prop where
  entries : ∀ (key : String) (index : Nat),
    registry key = some index →
      ∃ call, calls[index]? = some call ∧
        callKey json call = key ∧ isRegistered call = true
  waiting : ∀ (index : Nat) (call : CallTask),
    calls[index]? = some call → isRegistered call = true →
      call.cancelled = false →
        registry (callKey json call) = some index

/-- The lines to come, and the ids of the calls, are those of the input. -/
structure Mentioned (json : SerdeJson) (lines : List String)
    (state : McpLoop) : Prop where
  input : ∀ line, line ∈ state.input → line ∈ lines
  calls : ∀ call, call ∈ state.calls →
    requestId call.request ∈ mentionedIds json lines

theorem mem_mentionedIds_request
    {lines : List String} {line : String} {request : Value}
    (member : line ∈ lines) (parsed : json.fromText line = some request) :
    requestId request ∈ mentionedIds json lines :=
  List.mem_flatMap.mpr ⟨line, member, by simp [parsed]⟩

theorem mem_mentionedIds_cancelled
    {lines : List String} {line : String} {id : Value}
    (member : line ∈ lines) (named : cancelledLine json line = some id) :
    id ∈ mentionedIds json lines :=
  List.mem_flatMap.mpr ⟨line, member, by simp [named]⟩

theorem Mentioned.later
    {lines : List String} (mentioned : Mentioned json lines state)
    {first : String} {rest : List String} (input : state.input = first :: rest) :
    ∀ line, line ∈ rest → line ∈ lines := by
  intro line member
  apply mentioned.input
  rw [input]
  exact List.mem_cons_of_mem first member

/-- Canceling changes the token under the key, and nothing else. -/
theorem getElem?_cancel (key : String) (state : McpLoop) (index : Nat) :
    (cancel key state).calls[index]? =
      (state.calls[index]?).map fun call =>
        if state.registry key = some index then
          { call with cancelled := true }
        else
          call := by
  unfold cancel
  cases found : state.registry key with
  | none => simp
  | some named =>
      simp only [List.getElem?_modify, Option.some.injEq]
      by_cases same : named = index
      · simp [same]
      · simp [same]

theorem request_of_mem_cancel
    {key : String} (member : call ∈ (cancel key state).calls) :
    ∃ before, before ∈ state.calls ∧ call.request = before.request := by
  obtain ⟨index, found⟩ := List.getElem?_of_mem member
  rw [getElem?_cancel] at found
  obtain ⟨before, inCalls, rfl⟩ := Option.map_eq_some_iff.mp found
  refine ⟨before, List.mem_of_getElem? inCalls, ?_⟩
  split <;> rfl

theorem registry_cancel (key : String) (state : McpLoop) :
    (cancel key state).registry =
      Function.update state.registry key none := by
  unfold cancel
  split
  · rename_i absent
    exact (Function.update_eq_self_iff.mpr absent.symm).symm
  · rfl

theorem mentioned_step
    {lines : List String} (mentioned : Mentioned json lines state)
    (taken : Steps json state action target) :
    Mentioned json lines target := by
  cases taken with
  | skip first rest _ input _ _ =>
      exact ⟨mentioned.later input, mentioned.calls⟩
  | cancel first rest id _ input _ _ =>
      obtain ⟨isInput, _⟩ :=
        cancel_frame (json.toText id) { state with input := rest }
      constructor
      · rw [isInput]
        exact mentioned.later input
      · intro call member
        obtain ⟨before, inCalls, same⟩ := request_of_mem_cancel member
        rw [same]
        exact mentioned.calls before inCalls
  | answer first rest value _ input _ _ =>
      exact ⟨mentioned.later input, mentioned.calls⟩
  | spawn first rest request _ input _ parsed _ =>
      refine ⟨mentioned.later input, ?_⟩
      intro call member
      rcases List.mem_append.mp member with old | new
      · exact mentioned.calls call old
      · cases List.mem_singleton.mp new
        refine mem_mentionedIds_request (mentioned.input first ?_) parsed
        rw [input]
        exact List.mem_cons_self
  | close _ _ => exact ⟨mentioned.input, mentioned.calls⟩
  | write entry _ => exact ⟨mentioned.input, mentioned.calls⟩
  | finish _ _ _ => exact ⟨mentioned.input, mentioned.calls⟩
  | call index callStep call after effect found moves =>
      constructor
      · rw [(perform_frame _ _ _ _).1]
        exact mentioned.input
      · intro tested member
        rw [perform_calls] at member
        rcases List.mem_or_eq_of_mem_set member with old | rfl
        · exact mentioned.calls tested old
        · rw [moves.request_eq]
          exact mentioned.calls call (List.mem_of_getElem? found)

theorem keyed_cancel
    (keyed : Keyed json state.calls state.registry) (key : String) :
    Keyed json (cancel key state).calls (cancel key state).registry := by
  constructor
  · intro tested index found
    rw [registry_cancel] at found
    by_cases same : tested = key
    · rw [same, Function.update_self] at found
      cases found
    · rw [Function.update_of_ne same] at found
      obtain ⟨call, inCalls, isKey, registered⟩ :=
        keyed.entries tested index found
      rw [getElem?_cancel, inCalls]
      refine ⟨_, rfl, ?_⟩
      split
      · exact ⟨isKey, registered⟩
      · exact ⟨isKey, registered⟩
  · intro index call found registered notCancelled
    rw [getElem?_cancel] at found
    obtain ⟨before, inCalls, isCall⟩ := Option.map_eq_some_iff.mp found
    split at isCall
    · rw [← isCall] at notCancelled
      cases notCancelled
    · rename_i isOther
      subst isCall
      have held := keyed.waiting index before inCalls registered notCancelled
      have otherKey : callKey json before ≠ key := by
        intro same
        exact isOther (same ▸ held)
      rw [registry_cancel, Function.update_of_ne otherKey]
      exact held

theorem keyed_append
    {calls : List CallTask} {registry : String → Option Nat}
    (keyed : Keyed json calls registry) (request : Value) :
    Keyed json (calls ++ [spawn request]) registry := by
  constructor
  · intro key index found
    obtain ⟨call, inCalls, isKey⟩ := keyed.entries key index found
    obtain ⟨inside, _⟩ := List.getElem?_eq_some_iff.mp inCalls
    exact ⟨call, (List.getElem?_append_left inside).trans inCalls, isKey⟩
  · intro index call found registered notCancelled
    by_cases inside : index < calls.length
    · rw [List.getElem?_append_left inside] at found
      exact keyed.waiting index call found registered notCancelled
    · rw [List.getElem?_append_right (Nat.le_of_not_lt inside)] at found
      have isNew := List.mem_of_getElem? found
      rw [List.mem_singleton.mp isNew] at registered
      cases registered

/-- One call moves; the registry changes at its key at most. -/
theorem keyed_set
    {calls : List CallTask} {registry changed : String → Option Nat}
    (keyed : Keyed json calls registry) {index : Nat}
    (found : calls[index]? = some call)
    (sameKey : callKey json after = callKey json call)
    (others : ∀ key other, index ≠ other → changed key = some other →
      registry key = some other)
    (self : ∀ key, changed key = some index →
      callKey json call = key ∧ isRegistered after = true)
    (kept : ∀ other tested, index ≠ other → calls[other]? = some tested →
      isRegistered tested = true →
        registry (callKey json tested) = some other →
          changed (callKey json tested) = some other)
    (waits : isRegistered after = true → after.cancelled = false →
      changed (callKey json call) = some index) :
    Keyed json (calls.set index after) changed := by
  obtain ⟨inside, _⟩ := List.getElem?_eq_some_iff.mp found
  have setSelf : (calls.set index after)[index]? = some after :=
    List.getElem?_set_self inside
  constructor
  · intro key other held
    by_cases isOther : index = other
    · subst isOther
      obtain ⟨isKey, registered⟩ := self key held
      exact ⟨after, setSelf, sameKey.trans isKey, registered⟩
    · rw [List.getElem?_set_ne isOther]
      exact keyed.entries key other (others key other isOther held)
  · intro other tested inCalls registered notCancelled
    by_cases isOther : index = other
    · subst isOther
      rw [setSelf] at inCalls
      cases inCalls
      rw [sameKey]
      exact waits registered notCancelled
    · rw [List.getElem?_set_ne isOther] at inCalls
      exact kept other tested isOther inCalls registered
        (keyed.waiting other tested inCalls registered notCancelled)

/-- The calls that run have different keys. -/
theorem callKey_ne
    {lines : List String} (texts : DistinctTexts json lines)
    (mentioned : Mentioned json lines state) (distinct : DistinctCalls state)
    {index other : Nat} {second : CallTask}
    (found : state.calls[index]? = some call)
    (foundOther : state.calls[other]? = some second)
    (running : isFinished call = false)
    (runningOther : isFinished second = false) (isOther : index ≠ other) :
    callKey json second ≠ callKey json call := by
  intro same
  have sameId := texts _
    (mentioned.calls second (List.mem_of_getElem? foundOther)) _
    (mentioned.calls call (List.mem_of_getElem? found)) same
  exact isOther
    (distinct index other call second found foundOther running runningOther
      sameId.symm)

/-- The key of an entry for a call is that of the call. -/
theorem Keyed.key_eq
    {calls : List CallTask} {registry : String → Option Nat}
    (keyed : Keyed json calls registry) {index : Nat} {key : String}
    (found : calls[index]? = some call) (held : registry key = some index) :
    callKey json call = key ∧ isRegistered call = true := by
  obtain ⟨stored, inCalls, isKey⟩ := keyed.entries key index held
  rw [found] at inCalls
  cases inCalls
  exact isKey

theorem keyed_register
    {lines : List String} (texts : DistinctTexts json lines)
    (mentioned : Mentioned json lines state) (distinct : DistinctCalls state)
    (keyed : Keyed json state.calls state.registry) {index : Nat}
    (found : state.calls[index]? = some call)
    (sameKey : callKey json after = callKey json call)
    (running : isFinished call = false)
    (notRegistered : isRegistered call = false)
    (registered : isRegistered after = true) :
    Keyed json (state.calls.set index after)
      (Function.update state.registry (callKey json call) (some index)) := by
  refine keyed_set keyed found sameKey ?_ ?_ ?_ ?_
  · intro key other isOther held
    by_cases isKey : key = callKey json call
    · subst isKey
      simp only [Function.update_self, Option.some.injEq] at held
      exact absurd held isOther
    · simpa [isKey] using held
  · intro key held
    by_cases isKey : key = callKey json call
    · exact ⟨isKey.symm, registered⟩
    · simp only [Function.update_of_ne isKey] at held
      rw [(keyed.key_eq found held).2] at notRegistered
      cases notRegistered
  · intro other tested isOther inCalls isRunning held
    have otherKey := callKey_ne texts mentioned distinct found inCalls running
      (registered_iff.mp isRunning).1 isOther
    simpa [otherKey] using held
  · intro _ _
    exact Function.update_self _ _ _

theorem keyed_unregister
    {lines : List String} (texts : DistinctTexts json lines)
    (mentioned : Mentioned json lines state) (distinct : DistinctCalls state)
    (keyed : Keyed json state.calls state.registry) {index : Nat}
    (found : state.calls[index]? = some call)
    (sameKey : callKey json after = callKey json call)
    (running : isFinished call = false)
    (notRegistered : isRegistered after = false) :
    Keyed json (state.calls.set index after)
      (Function.update state.registry (callKey json call) none) := by
  refine keyed_set keyed found sameKey ?_ ?_ ?_ ?_
  · intro key other isOther held
    by_cases isKey : key = callKey json call
    · subst isKey
      simp at held
    · simpa [isKey] using held
  · intro key held
    by_cases isKey : key = callKey json call
    · subst isKey
      simp at held
    · simp only [Function.update_of_ne isKey] at held
      exact absurd (keyed.key_eq found held).1.symm isKey
  · intro other tested isOther inCalls isRunning held
    have otherKey := callKey_ne texts mentioned distinct found inCalls running
      (registered_iff.mp isRunning).1 isOther
    simpa [otherKey] using held
  · intro registered _
    rw [notRegistered] at registered
    cases registered

theorem keyed_call
    {lines : List String} (texts : DistinctTexts json lines)
    (mentioned : Mentioned json lines state) (distinct : DistinctCalls state)
    (keyed : Keyed json state.calls state.registry) {index : Nat}
    (found : state.calls[index]? = some call)
    (moves : Moves json call callStep after effect) :
    Keyed json (state.calls.set index after)
      (perform index (callKey json call) state effect).registry := by
  have sameKey : callKey json after = callKey json call := by
    rw [callKey, callKey, moves.request_eq]
  rcases moves.registered_cases with
    ⟨rfl, running, notRegistered, registered⟩ |
      ⟨rfl, running, notRegistered⟩ | ⟨notRegister, notUnregister, same⟩
  · exact keyed_register texts mentioned distinct keyed found sameKey running
      notRegistered registered
  · exact keyed_unregister texts mentioned distinct keyed found sameKey running
      notRegistered
  · have unchanged :
        (perform index (callKey json call) state effect).registry =
          state.registry := by
      cases effect with
      | register => exact absurd rfl notRegister
      | unregister => exact absurd rfl notUnregister
      | _ => rfl
    rw [unchanged]
    refine keyed_set keyed found sameKey (fun _ _ _ held => held) ?_
      (fun _ _ _ _ _ held => held) ?_
    · intro key held
      obtain ⟨isKey, registered⟩ := keyed.key_eq found held
      exact ⟨isKey, same.trans registered⟩
    · intro registered notCancelled
      exact keyed.waiting index call found (same.symm.trans registered)
        (moves.cancelled_eq.symm.trans notCancelled)

theorem keyed_step
    {lines : List String} (texts : DistinctTexts json lines)
    (mentioned : Mentioned json lines state) (distinct : DistinctCalls state)
    (keyed : Keyed json state.calls state.registry)
    (taken : Steps json state action target) :
    Keyed json target.calls target.registry := by
  cases taken with
  | cancel first rest id _ _ _ _ =>
      exact @keyed_cancel json { state with input := rest } keyed _
  | spawn first rest request _ _ _ _ _ => exact keyed_append keyed request
  | call index callStep call after effect found moves =>
      have moved := keyed_call texts mentioned distinct keyed found moves
      rw [perform_calls]
      cases effect <;> exact moved
  | _ => exact keyed

/-! ## Tokens -/

/-- A call stays, and so does the cancellation of its token. -/
theorem cancelled_kept
    {index : Nat} (taken : Steps json state action target)
    (found : state.calls[index]? = some call) (cancelled : call.cancelled = true) :
    ∃ now, target.calls[index]? = some now ∧ now.cancelled = true := by
  cases taken with
  | cancel first rest id _ _ _ _ =>
      rw [getElem?_cancel, found]
      refine ⟨_, rfl, ?_⟩
      split
      · rfl
      · exact cancelled
  | spawn first rest request _ _ _ _ _ =>
      obtain ⟨inside, _⟩ := List.getElem?_eq_some_iff.mp found
      exact ⟨call, (List.getElem?_append_left inside).trans found, cancelled⟩
  | call moved callStep before after effect foundMoved moves =>
      rw [perform_calls]
      by_cases same : moved = index
      · subst same
        obtain ⟨inside, _⟩ := List.getElem?_eq_some_iff.mp foundMoved
        rw [found] at foundMoved
        cases foundMoved
        exact ⟨after, List.getElem?_set_self inside,
          moves.cancelled_eq.trans cancelled⟩
      · exact ⟨call, (List.getElem?_set_ne same).trans found, cancelled⟩
  | _ => exact ⟨call, found, cancelled⟩

/-- A token that has been canceled was so before, or the line that is read
carries the id of the call. -/
theorem cancelled_cases
    {lines : List String} (texts : DistinctTexts json lines)
    (mentioned : Mentioned json lines state)
    (keyed : Keyed json state.calls state.registry) {index : Nat}
    (taken : Steps json state action target)
    (found : target.calls[index]? = some after)
    (cancelled : after.cancelled = true) :
    (∃ call, state.calls[index]? = some call ∧ call.cancelled = true ∧
        after.request = call.request) ∨
      Cancels json (requestId after.request) state action := by
  cases taken with
  | cancel first rest id reading input named _ =>
      rw [getElem?_cancel] at found
      obtain ⟨before, inCalls, isCall⟩ := Option.map_eq_some_iff.mp found
      split at isCall
      · rename_i held
        subst isCall
        have isKey := (keyed.key_eq inCalls held).1
        have inLines : first ∈ lines := by
          apply mentioned.input
          rw [input]
          exact List.mem_cons_self
        have sameId := texts _
          (mentioned.calls before (List.mem_of_getElem? inCalls)) _
          (mem_mentionedIds_cancelled inLines named) isKey
        exact .inr ⟨rfl, reading, first, rest, input, sameId ▸ named⟩
      · subst isCall
        exact .inl ⟨before, inCalls, cancelled, rfl⟩
  | spawn first rest request _ _ _ _ _ =>
      by_cases inside : index < state.calls.length
      · rw [List.getElem?_append_left inside] at found
        exact .inl ⟨after, found, cancelled, rfl⟩
      · rw [List.getElem?_append_right (Nat.le_of_not_lt inside)] at found
        have isNew := List.mem_of_getElem? found
        rw [List.mem_singleton.mp isNew] at cancelled
        cases cancelled
  | call moved callStep before changed effect foundMoved moves =>
      rw [perform_calls] at found
      by_cases same : moved = index
      · subst same
        obtain ⟨inside, _⟩ := List.getElem?_eq_some_iff.mp foundMoved
        rw [List.getElem?_set_self inside] at found
        cases found
        exact .inl ⟨before, foundMoved, moves.cancelled_eq ▸ cancelled,
          moves.request_eq⟩
      · rw [List.getElem?_set_ne same] at found
        exact .inl ⟨after, found, cancelled, rfl⟩
  | _ => exact .inl ⟨after, found, cancelled, rfl⟩

/-- A cancellation cancels the token of the registered call it names. -/
theorem cancelled_of_cancels
    (keyed : Keyed json state.calls state.registry) {index : Nat}
    (taken : Steps json state action target)
    (found : state.calls[index]? = some call)
    (registered : isRegistered call = true)
    (cancels : Cancels json (requestId call.request) state action) :
    ∃ now, target.calls[index]? = some now ∧ now.cancelled = true := by
  cases alreadyCancelled : call.cancelled with
  | true => exact cancelled_kept taken found alreadyCancelled
  | false =>
      obtain ⟨rfl, reading, first, rest, input, named⟩ := cancels
      have held := keyed.waiting index call found registered alreadyCancelled
      cases taken with
      | cancel other later id _ isInput isNamed _ =>
          rw [input] at isInput
          cases isInput
          rw [named] at isNamed
          cases isNamed
          rw [getElem?_cancel, found]
          exact ⟨_, rfl, congrArg CallTask.cancelled (if_pos held)⟩
      | skip other later _ isInput notNamed _ =>
          rw [input] at isInput
          cases isInput
          rw [named] at notNamed
          cases notNamed
      | answer other later value _ isInput notNamed _ =>
          rw [input] at isInput
          cases isInput
          rw [named] at notNamed
          cases notNamed
      | spawn other later request _ isInput notNamed _ _ =>
          rw [input] at isInput
          cases isInput
          rw [named] at notNamed
          cases notNamed
      | close _ isInput =>
          rw [input] at isInput
          cases isInput

/-! ## Runs -/

/-- The ids of the running calls differ, and no call is canceled before its
token is registered. -/
def InTime (json : SerdeJson) (state : McpLoop) (action : McpAction) : Prop :=
  DistinctCalls state ∧ ¬ CancelsTooEarly json state action

/-- A call is canceled that has not finished. -/
def CancelsRunning (json : SerdeJson) (index : Nat) (state : McpLoop)
    (action : McpAction) : Prop :=
  ∃ call, state.calls[index]? = some call ∧ isFinished call = false ∧
    Cancels json (requestId call.request) state action

/-- A token that has been canceled. -/
def TokenCancelled (state : McpLoop) (index : Nat) : Prop :=
  ∃ call, state.calls[index]? = some call ∧ call.cancelled = true

/-- What the registry keeps along a run. -/
structure Registered (json : SerdeJson) (lines : List String)
    (state : McpLoop) : Prop where
  keyed : Keyed json state.calls state.registry
  mentioned : Mentioned json lines state

theorem registered_start (lines : List String) :
    Registered json lines (start lines) := by
  refine ⟨⟨?_, ?_⟩, ⟨fun _ member => member, ?_⟩⟩
  · intro key index held
    cases held
  · intro index call found
    cases found
  · intro call member
    cases member

theorem registered_run
    {lines : List String} (texts : DistinctTexts json lines)
    {trace : List McpAction}
    (run : Machine.Run (step json parseFailure) (InTime json) (start lines)
      trace state) :
    Registered json lines state :=
  run.invariant (Registered json lines) (registered_start lines)
    fun _ _ _ holds permitted taken =>
      ⟨keyed_step texts holds.mentioned permitted.1 holds.keyed
          (step_steps taken),
        mentioned_step holds.mentioned (step_steps taken)⟩

/-- In a run that cancels no call too early, a cancellation that is read while
the call runs cancels its token, and nothing else does. -/
theorem cancellation_reaches_call
    {lines : List String} (texts : DistinctTexts json lines)
    {trace : List McpAction}
    (run : Machine.Run (step json parseFailure) (InTime json) (start lines)
      trace state) :
    (∀ index : Nat,
        Machine.SomeStep (step json parseFailure) (CancelsRunning json index)
            (start lines) trace →
          TokenCancelled state index) ∧
      ∀ (index : Nat) (call : CallTask), state.calls[index]? = some call →
        call.cancelled = true →
          Machine.SomeStep (step json parseFailure)
            (Cancels json (requestId call.request)) (start lines) trace := by
  induction run with
  | start =>
      refine ⟨fun _ happens => absurd happens Machine.not_someStep_nil, ?_⟩
      intro index call found
      cases found
  | @snoc trace source target action before permitted taken
      inductionHypothesis =>
      have registered := registered_run texts before
      have taken := step_steps taken
      constructor
      · intro index happens
        rcases (before.someStep_snoc action).mp happens with
          earlier | ⟨call, found, running, cancels⟩
        · obtain ⟨call, found, cancelled⟩ :=
            inductionHypothesis.1 index earlier
          exact cancelled_kept taken found cancelled
        · have notSpawned : call.pc ≠ .spawned := fun isSpawned =>
            permitted.2
              ⟨call, List.mem_of_getElem? found, isSpawned, cancels⟩
          exact cancelled_of_cancels registered.keyed taken found
            (registered_iff.mpr ⟨running, notSpawned⟩) cancels
      · intro index call found cancelled
        rw [before.someStep_snoc]
        rcases cancelled_cases texts registered.mentioned registered.keyed
            taken found cancelled with
          ⟨earlier, inCalls, wasCancelled, same⟩ | cancels
        · rw [same]
          exact .inl
            (inductionHypothesis.2 index earlier inCalls wasCancelled)
        · exact .inr cancels

/-! ## A call that is canceled -/

def sendCall : Value :=
  .object
    [("id", .number (.int 8)), ("method", .string "tools/call"),
      ("params", .object
        [("_meta", .object [("progressToken", .number (.int 1))]),
          ("arguments", .object
            [("conversation_id", .string "c"),
              ("endpoint", .string "http://h"), ("message", .string "hi")]),
          ("name", .string "a2a_send")])]

def sendCallText : String :=
  "\x7b\"id\":8,\"method\":\"tools/call\",\"params\":\x7b" ++
    "\"_meta\":\x7b\"progressToken\":1\x7d,\"arguments\":\x7b" ++
      "\"conversation_id\":\"c\",\"endpoint\":\"http://h\"," ++
        "\"message\":\"hi\"\x7d,\"name\":\"a2a_send\"\x7d\x7d"

def cancelCall : Value :=
  .object
    [("method", .string "notifications/cancelled"),
      ("params", .object [("requestId", .number (.int 8))])]

def cancelCallText : String :=
  "\x7b\"method\":\"notifications/cancelled\",\"params\":" ++
    "\x7b\"requestId\":8\x7d\x7d"

def sendJson : SerdeJson :=
  .ofTable
    [(sendCall, sendCallText), (cancelCall, cancelCallText),
      (.number (.int 8), "8")]

/-- Nobody listens at the endpoint. -/
def unsent : OutboundError :=
  .networkError "error sending request"

theorem distinctTexts_send :
    DistinctTexts sendJson [sendCallText, cancelCallText] := by
  unfold DistinctTexts
  decide +kernel

/-- One call at most, and none that is spawned when a line is read. -/
def oneCallInTime (state : McpLoop) : McpAction → Bool
  | .read =>
      state.calls.length ≤ 1 && state.calls.all fun call => call.pc ≠ .spawned
  | _ => state.calls.length ≤ 1

theorem distinctCalls_of_one (one : state.calls.length ≤ 1) :
    DistinctCalls state := by
  intro index other first second found foundOther _ _ _
  obtain ⟨inside, _⟩ := List.getElem?_eq_some_iff.mp found
  obtain ⟨insideOther, _⟩ := List.getElem?_eq_some_iff.mp foundOther
  omega

theorem inTime_of_oneCall
    (passed : oneCallInTime state action = true) :
    InTime json state action := by
  cases action with
  | read =>
      simp only [oneCallInTime, Bool.and_eq_true, decide_eq_true_eq]
        at passed
      refine ⟨distinctCalls_of_one passed.1, ?_⟩
      intro given
      rcases given with ⟨call, member, isSpawned, _⟩
      have notSpawned := List.all_eq_true.mp passed.2 call member
      simp [isSpawned] at notSpawned
  | _ =>
      refine ⟨distinctCalls_of_one (of_decide_eq_true passed), ?_⟩
      intro given
      rcases given with ⟨call, _, _, absurdity, _⟩
      cases absurdity

/-- The second line is read when the call is at `pc`. -/
theorem cancelsRunning_of_reached
    {before after : List McpAction} {pc : CallPc}
    (reached :
      (Machine.exec (step sendJson fun _ => "") before
        (start [sendCallText, cancelCallText])).map (fun state =>
          (state.pc, state.input, state.calls)) =
        some (.reading, [cancelCallText], [{ spawn sendCall with pc }]))
    (running : isFinished { spawn sendCall with pc } = false) :
    Machine.SomeStep (step sendJson fun _ => "") (CancelsRunning sendJson 0)
      (start [sendCallText, cancelCallText]) (before ++ .read :: after) := by
  obtain ⟨state, executed, isReached⟩ := Option.map_eq_some_iff.mp reached
  simp only [Prod.mk.injEq] at isReached
  obtain ⟨reading, input, calls⟩ := isReached
  have named : cancelledLine sendJson cancelCallText =
      some (requestId sendCall) := by
    decide +kernel
  refine ⟨before, .read, after, state, rfl, executed,
    { spawn sendCall with pc }, ?_, running, rfl, reading, cancelCallText, [],
    input, named⟩
  rw [calls]
  rfl

theorem registered_call_is_cancelled :
    ∃ state : McpLoop,
      Machine.exec (step sendJson fun _ => "")
          [.read, .call 0 .register, .read] (start
            [sendCallText, cancelCallText]) = some state ∧
        TokenCancelled state 0 := by
  have executes :
      ((Machine.execTested (step sendJson fun _ => "") oneCallInTime
        [.read, .call 0 .register, .read] (start
          [sendCallText, cancelCallText]))).isSome = true := by
    decide +kernel
  have registered :
      (Machine.exec (step sendJson fun _ => "") [.read, .call 0 .register]
        (start [sendCallText, cancelCallText])).map (fun state =>
          (state.pc, state.input, state.calls)) =
        some (.reading, [cancelCallText],
          [{ spawn sendCall with
            pc := .registered
              { conversationId := "c", message := "hi", endpoint := "http://h"
                taskId := none, timeoutSecs := none, metadata := none
                callerId := none, conversationMode := none } }]) := by
    decide +kernel
  obtain ⟨state, executed⟩ := Option.isSome_iff_exists.mp executes
  have run := Machine.run_of_execTested
    (fun _ _ passed => @inTime_of_oneCall sendJson _ _ passed) executed
  exact ⟨state, run.exec_eq,
    (cancellation_reaches_call distinctTexts_send run).1 0
      (cancelsRunning_of_reached registered rfl)⟩

/-- A cancellation that is read before the call has registered is lost. -/
theorem early_cancellation_is_lost :
    ¬ ∀ json parseFailure lines trace (state : McpLoop),
        DistinctTexts json lines →
          Machine.Run (step json parseFailure)
              (fun state _ => DistinctCalls state) (start lines) trace state →
            ∀ index,
              Machine.SomeStep (step json parseFailure)
                  (CancelsRunning json index) (start lines) trace →
                TokenCancelled state index := by
  intro claimed
  have spawned :
      (Machine.exec (step sendJson fun _ => "") [.read]
        (start [sendCallText, cancelCallText])).map (fun state =>
          (state.pc, state.input, state.calls)) =
        some (.reading, [cancelCallText], [spawn sendCall]) := by
    decide +kernel
  have reached :
      (Machine.execTested (step sendJson fun _ => "")
        (fun state _ => state.calls.length ≤ 1)
        [.read, .read, .call 0 .register, .call 0 .startHeartbeat,
          .call 0 (.opened (some unsent)), .call 0 .dropHeartbeat,
            .call 0 .unregister, .call 0 .reply]
        (start [sendCallText, cancelCallText])).map (fun state =>
          state.calls[0]?.map CallTask.cancelled) =
        some (some false) := by
    decide +kernel
  obtain ⟨state, executed, notCancelled⟩ := Option.map_eq_some_iff.mp reached
  have run : Machine.Run (step sendJson fun _ => "")
      (fun state _ => DistinctCalls state)
        (start [sendCallText, cancelCallText]) _ state :=
    Machine.run_of_execTested
      (fun _ _ passed => distinctCalls_of_one (of_decide_eq_true passed))
      executed
  obtain ⟨call, found, cancelled⟩ :=
    claimed sendJson (fun _ => "") _ _ state distinctTexts_send run 0
      (@cancelsRunning_of_reached [.read] _ .spawned spawned rfl)
  simp [found, cancelled] at notCancelled

end McpServer

end A2AShim
