import A2AShim.Client.Heartbeat
import A2AShim.Client.McpDispatch
import A2AShim.Lib.Machine

/-!
# The stdio MCP loop

`serve_loop` reads the lines of the host and spawns a task for each `a2a_send`
call.  A call registers a cancellation token, owns a heartbeat task, drives the
outbound stream and sends its response.  All of them send to one queue, which
the writer task empties; the loop returns when every sender of the queue is
gone.
-/

namespace A2AShim

/-- Who has put a value on the queue; a call is named by its place among those
that have been spawned. -/
inductive Origin where
  | loop
  | response (call : Nat)
  | progress (call : Nat)
  deriving DecidableEq, Repr

structure Entry where
  value : Value
  origin : Origin
  deriving DecidableEq, Repr

/-- Where the task of a call is. -/
inductive CallPc where
  | spawned
  | registered (args : ToolArguments)
  | opening (args : ToolArguments)
  | driving (task : Task)
  | stopping (result : Value)
  | leaving (result : Value)
  | replying (result : Value)
  | done
  deriving DecidableEq, Repr

/-- Where the task of a heartbeat is; without a progress token there is
none. -/
inductive BeatPc where
  | absent
  | sleeping
  | woken
  | composed (progress : Int) (message : Value)
  | ended
  deriving DecidableEq, Repr

structure CallTask where
  request : Value
  pc : CallPc
  beat : BeatPc
  heartbeat : Heartbeat
  cancelled : Bool
  deriving DecidableEq, Repr

/-- What the task of a call, or its heartbeat, does next. -/
inductive CallStep where
  | register
  | startHeartbeat
  | opened (failure : Option OutboundError)
  | polled (item : Option (Except OutboundError SseEvent))
  | hostCancelled
  | dropHeartbeat
  | unregister
  | reply
  | wake
  | compose
  | sendFrame
  | endHeartbeat

inductive CallEffect where
  | quiet
  | register
  | unregister
  | response (value : Value)
  | progress (value : Value)
  deriving DecidableEq, Repr

inductive LoopPc where
  | reading
  | closed
  | returned
  deriving DecidableEq, Repr

/-- `input` are the lines not read yet, `queue` is all that has been sent and
`written` how much of it the writer has taken. -/
structure McpLoop where
  input : List String
  pc : LoopPc
  queue : List Entry
  written : Nat
  output : String
  calls : List CallTask
  registry : String → Option Nat

inductive McpAction where
  | read
  | write
  | finish
  | call (index : Nat) (step : CallStep)

namespace CallHandler

/-- One round of `drive_stream`; `none` is the end of the stream. -/
def pollDrive (task : Task) :
    Option (Except OutboundError SseEvent) → Task ⊕ DriveOutcome
  | none =>
      .inr (.error .protocolError
        "remote stream ended without a terminal status-update"
        (some task.id.text))
  | some (.error error) =>
      .inr (.error (errorKindForOutbound error) error.text
        (some task.id.text))
  | some (.ok (.statusUpdate inner)) =>
      let updated := { task with id := inner.taskId, status := inner.status }
      if inner.final then .inr (outcomeOfFinal updated) else .inl updated
  | some (.ok (.artifactUpdate inner)) =>
      .inl
        { task with
          id := inner.taskId
          artifacts :=
            upsertArtifact task.artifacts inner.artifact inner.append }

/-- The heartbeat gets the texts of an artifact one by one. -/
def appendParts (heartbeat : Heartbeat) :
    Option (Except OutboundError SseEvent) → Heartbeat
  | some (.ok (.artifactUpdate inner)) =>
      inner.artifact.parts.foldl
        (fun current part =>
          match part with
          | .text content => current.appendText content
          | _ => current)
        heartbeat
  | _ => heartbeat

/-- `drive_stream` is its rounds. -/
theorem driveFrom_poll
    (task : Task) (items : List (Except OutboundError SseEvent)) :
    driveFrom task items =
      match pollDrive task items.head? with
      | .inl next => driveFrom next items.tail
      | .inr outcome => outcome := by
  cases items with
  | nil => rfl
  | cons item rest =>
      rcases item with error | event
      · rfl
      · cases event with
        | statusUpdate inner =>
            cases final : inner.final with
            | false => simp [driveFrom, pollDrive, final]
            | true => simp [driveFrom, pollDrive, final]
        | artifactUpdate inner => rfl

end CallHandler

namespace McpServer

open CallHandler

variable (json : SerdeJson) (parseFailure : String → String)

/-! ## A call -/

def spawn (request : Value) : CallTask :=
  { request
    pc := .spawned
    beat := .absent
    heartbeat := Heartbeat.start
    cancelled := false }

/-- The result of a call that the host has canceled. -/
def cancelledByHost : Value :=
  renderFailed "call cancelled by host" .remoteCanceled none

/-- The body of `call_a2a_send` up to its response, and the heartbeat task. -/
def next (call : CallTask) : CallStep → Option (CallTask × CallEffect)
  | .register =>
      match call.pc with
      | .spawned =>
          let arguments := toolArguments call.request
          match ToolArguments.ofValue arguments with
          | none =>
              let result := invalidParamsMarker (json.rejection arguments)
              some ({ call with pc := .replying result }, .quiet)
          | some args => some ({ call with pc := .registered args }, .register)
      | _ => none
  | .startHeartbeat =>
      match call.pc with
      | .registered args =>
          let beat :=
            if (progressToken call.request).isSome then
              BeatPc.sleeping
            else
              BeatPc.absent
          some ({ call with pc := .opening args, beat }, .quiet)
      | _ => none
  | .opened failure =>
      match call.pc with
      | .opening args =>
          let pc :=
            match failure with
            | some error =>
                CallPc.stopping
                  (renderFailed error.text (errorKindForOutbound error) none)
            | none => CallPc.driving (initialTask args.toA2aSendArgs)
          some ({ call with pc }, .quiet)
      | _ => none
  | .polled item =>
      match call.pc with
      | .driving task =>
          let pc :=
            match pollDrive task item with
            | .inl updated => CallPc.driving updated
            | .inr outcome => CallPc.stopping (renderOutcome outcome)
          let heartbeat := appendParts call.heartbeat item
          some ({ call with pc, heartbeat }, .quiet)
      | _ => none
  | .hostCancelled =>
      match call.pc with
      | .driving _ =>
          if call.cancelled then
            some ({ call with pc := .stopping cancelledByHost }, .quiet)
          else
            none
      | _ => none
  | .dropHeartbeat =>
      match call.pc with
      | .stopping result =>
          let heartbeat := { call.heartbeat with cancelled := true }
          some ({ call with pc := .leaving result, heartbeat }, .quiet)
      | _ => none
  | .unregister =>
      match call.pc with
      | .leaving result =>
          some ({ call with pc := .replying result }, .unregister)
      | _ => none
  | .reply =>
      match call.pc with
      | .replying result =>
          some ({ call with pc := .done },
            .response (toolResponse call.request result))
      | _ => none
  -- The select of a heartbeat takes either branch when both are ready.
  | .wake =>
      match call.beat with
      | .sleeping => some ({ call with beat := .woken }, .quiet)
      | _ => none
  | .compose =>
      match call.beat with
      | .woken =>
          let progress := Heartbeat.nextProgress call.heartbeat.progress
          let beat := BeatPc.composed progress call.heartbeat.message
          let heartbeat := { call.heartbeat with progress }
          some ({ call with beat, heartbeat }, .quiet)
      | _ => none
  | .sendFrame =>
      match call.beat, progressToken call.request with
      | .composed progress message, some token =>
          some ({ call with beat := .sleeping },
            .progress (Heartbeat.frame token progress message))
      | _, _ => none
  | .endHeartbeat =>
      match call.beat with
      | .sleeping =>
          if call.heartbeat.cancelled then
            some ({ call with beat := .ended }, .quiet)
          else
            none
      | _ => none

/-- A call that holds a sender of the queue, or whose heartbeat does. -/
def holdsSender (call : CallTask) : Bool :=
  !(call.pc = .done ∧ (call.beat = .absent ∨ call.beat = .ended))

/-! ## The loop -/

def start (lines : List String) : McpLoop :=
  { input := lines
    pc := .reading
    queue := []
    written := 0
    output := ""
    calls := []
    registry := fun _ => none }

def send (value : Value) (origin : Origin) (state : McpLoop) : McpLoop :=
  { state with queue := state.queue ++ [{ value, origin }] }

def perform (index : Nat) (key : String) (state : McpLoop) :
    CallEffect → McpLoop
  | .quiet => state
  | .register =>
      { state with
        registry := Function.update state.registry key (some index) }
  | .unregister =>
      { state with registry := Function.update state.registry key none }
  | .response value => send value (.response index) state
  | .progress value => send value (.progress index) state

def callKey (call : CallTask) : String :=
  json.toText (requestId call.request)

def stepCall (index : Nat) (step : CallStep) (state : McpLoop) :
    Option McpLoop :=
  match state.calls[index]? with
  | none => none
  | some call =>
      (next json call step).map fun found =>
        perform index (callKey json call)
          { state with calls := state.calls.set index found.1 } found.2

/-- `CancellationRegistry::cancel`. -/
def cancel (key : String) (state : McpLoop) : McpLoop :=
  match state.registry key with
  | none => state
  | some index =>
      { state with
        registry := Function.update state.registry key none
        calls :=
          state.calls.modify index fun call =>
            { call with cancelled := true } }

/-- The id a `notifications/cancelled` message names. -/
def cancelledId (message : Value) : Option Value :=
  if requestMethod message = "notifications/cancelled" then
    (message.get "params").bind (Value.get "requestId")
  else
    none

def handleNotification (message : Value) (state : McpLoop) : McpLoop :=
  match cancelledId message with
  | some id => cancel (json.toText id) state
  | none => state

def spawnToolsCall (request : Value) (state : McpLoop) : McpLoop :=
  if toolName request = "a2a_send" then
    { state with calls := state.calls ++ [spawn request] }
  else
    send (unknownTool request) .loop state

/-- `char::is_whitespace`. -/
def isWhitespace (char : Char) : Bool :=
  let code := char.toNat
  9 ≤ code && code ≤ 13 || 0x2000 ≤ code && code ≤ 0x200A ||
    [0x20, 0x85, 0xA0, 0x1680, 0x2028, 0x2029, 0x202F, 0x205F, 0x3000].contains
      code

def isBlank (line : String) : Bool :=
  line.toList.all isWhitespace

def handleLine (line : String) (state : McpLoop) : McpLoop :=
  if isBlank line then
    state
  else
    match json.fromText line with
    | none => send (parseErrorResponse (parseFailure line)) .loop state
    | some message =>
        if message.get "id" = none then
          handleNotification json message state
        else if requestMethod message = "tools/call" then
          spawnToolsCall message state
        else
          send (dispatchSync message) .loop state

/-- The id of the call a line cancels. -/
def cancelledLine (line : String) : Option Value :=
  if isBlank line then
    none
  else
    (json.fromText line).bind fun message =>
      if message.get "id" = none then cancelledId message else none

/-- The reply that is due to a line. -/
def expectedReply (line : String) : Option (Value × Bool) :=
  if isBlank line then
    none
  else
    match json.fromText line with
    | none => some (.null, true)
    | some message => (message.get "id").map fun id => (id, false)

/-- The line the writer makes of a value. -/
def line (value : Value) : String :=
  json.toText value ++ "\n"

def step : McpAction → McpLoop → Option McpLoop
  | .read, state =>
      match state.pc, state.input with
      | .reading, first :: rest =>
          some (handleLine json parseFailure first { state with input := rest })
      | .reading, [] => some { state with pc := .closed }
      | _, _ => none
  | .write, state =>
      (state.queue[state.written]?).map fun entry =>
        { state with
          written := state.written + 1
          output := state.output ++ line json entry.value }
  | .finish, state =>
      if state.pc = .closed ∧ state.written = state.queue.length ∧
          state.calls.all (fun call => !holdsSender call) = true then
        some { state with pc := .returned }
      else
        none
  | .call index callStep, state => stepCall json index callStep state

/-! ## What a step does -/

variable {json parseFailure}

/-- The steps of a call and of its heartbeat. -/
inductive Moves (json : SerdeJson) (call : CallTask) :
    CallStep → CallTask → CallEffect → Prop
  | refuse (result : Value) :
      call.pc = .spawned →
        Moves json call .register { call with pc := .replying result } .quiet
  | register (args : ToolArguments) :
      call.pc = .spawned →
        Moves json call .register { call with pc := .registered args }
          .register
  | startHeartbeat (args : ToolArguments) (beat : BeatPc) :
      call.pc = .registered args →
        beat = .sleeping ∨ beat = .absent →
          Moves json call .startHeartbeat
            { call with pc := .opening args, beat } .quiet
  | unopened (args : ToolArguments) (error : OutboundError) (result : Value) :
      call.pc = .opening args →
        Moves json call (.opened (some error))
          { call with pc := .stopping result } .quiet
  | opened (args : ToolArguments) (task : Task) :
      call.pc = .opening args →
        Moves json call (.opened none) { call with pc := .driving task }
          .quiet
  | driven (item : Option (Except OutboundError SseEvent))
      (task updated : Task) :
      call.pc = .driving task →
        Moves json call (.polled item)
          { call with
            pc := .driving updated
            heartbeat := appendParts call.heartbeat item } .quiet
  | drained (item : Option (Except OutboundError SseEvent))
      (task : Task) (result : Value) :
      call.pc = .driving task →
        Moves json call (.polled item)
          { call with
            pc := .stopping result
            heartbeat := appendParts call.heartbeat item } .quiet
  | hostCancelled (task : Task) :
      call.pc = .driving task → call.cancelled = true →
        Moves json call .hostCancelled
          { call with pc := .stopping cancelledByHost } .quiet
  | dropHeartbeat (result : Value) :
      call.pc = .stopping result →
        Moves json call .dropHeartbeat
          { call with
            pc := .leaving result
            heartbeat := { call.heartbeat with cancelled := true } } .quiet
  | unregister (result : Value) :
      call.pc = .leaving result →
        Moves json call .unregister { call with pc := .replying result }
          .unregister
  | reply (result : Value) :
      call.pc = .replying result →
        Moves json call .reply { call with pc := .done }
          (.response (toolResponse call.request result))
  | wake :
      call.beat = .sleeping →
        Moves json call .wake { call with beat := .woken } .quiet
  | compose :
      call.beat = .woken →
        Moves json call .compose
          { call with
            beat := .composed
              (Heartbeat.nextProgress call.heartbeat.progress)
              call.heartbeat.message
            heartbeat :=
              { call.heartbeat with
                progress :=
                  Heartbeat.nextProgress call.heartbeat.progress } } .quiet
  | sendFrame (progress : Int) (message token : Value) :
      call.beat = .composed progress message →
        Moves json call .sendFrame { call with beat := .sleeping }
          (.progress (Heartbeat.frame token progress message))
  | endHeartbeat :
      call.beat = .sleeping →
        Moves json call .endHeartbeat { call with beat := .ended } .quiet

theorem next_moves
    {call after : CallTask} {callStep : CallStep} {effect : CallEffect}
    (taken : next json call callStep = some (after, effect)) :
    Moves json call callStep after effect := by
  cases callStep with
  | register =>
      cases place : call.pc <;> simp only [next, place, reduceCtorEq] at taken
      split at taken
      · cases taken
        exact .refuse _ place
      · cases taken
        exact .register _ place
  | startHeartbeat =>
      cases place : call.pc <;>
        simp only [next, place, reduceCtorEq, Option.some.injEq,
          Prod.mk.injEq] at taken
      obtain ⟨rfl, rfl⟩ := taken
      refine .startHeartbeat _ _ place ?_
      split
      · exact .inl rfl
      · exact .inr rfl
  | opened failure =>
      cases place : call.pc <;>
        simp only [next, place, reduceCtorEq, Option.some.injEq,
          Prod.mk.injEq] at taken
      obtain ⟨rfl, rfl⟩ := taken
      cases failure with
      | some error => exact .unopened _ _ _ place
      | none => exact .opened _ _ place
  | polled item =>
      cases place : call.pc <;>
        simp only [next, place, reduceCtorEq, Option.some.injEq,
          Prod.mk.injEq] at taken
      obtain ⟨rfl, rfl⟩ := taken
      split
      · exact .driven _ _ _ place
      · exact .drained _ _ _ place
  | hostCancelled =>
      cases place : call.pc <;> simp only [next, place, reduceCtorEq] at taken
      split at taken
      · rename_i isCancelled
        cases taken
        exact .hostCancelled _ place isCancelled
      · cases taken
  | dropHeartbeat =>
      cases place : call.pc <;> simp only [next, place, reduceCtorEq] at taken
      cases taken
      exact .dropHeartbeat _ place
  | unregister =>
      cases place : call.pc <;> simp only [next, place, reduceCtorEq] at taken
      cases taken
      exact .unregister _ place
  | reply =>
      cases place : call.pc <;> simp only [next, place, reduceCtorEq] at taken
      cases taken
      exact .reply _ place
  | wake =>
      cases place : call.beat <;> simp only [next, place, reduceCtorEq] at taken
      cases taken
      exact .wake place
  | compose =>
      cases place : call.beat <;> simp only [next, place, reduceCtorEq] at taken
      cases taken
      exact .compose place
  | sendFrame =>
      simp only [next] at taken
      split at taken
      · rename_i place _
        cases taken
        exact .sendFrame _ _ _ place
      · cases taken
  | endHeartbeat =>
      cases place : call.beat <;> simp only [next, place, reduceCtorEq] at taken
      split at taken
      · cases taken
        exact .endHeartbeat place
      · cases taken

theorem Moves.request_eq
    {call after : CallTask} {callStep : CallStep} {effect : CallEffect}
    (moves : Moves json call callStep after effect) :
    after.request = call.request := by
  cases moves <;> rfl

theorem stepCall_cases
    {index : Nat} {callStep : CallStep} {state target : McpLoop}
    (taken : stepCall json index callStep state = some target) :
    ∃ call after effect,
      state.calls[index]? = some call ∧
        Moves json call callStep after effect ∧
          target = perform index (callKey json call)
            { state with calls := state.calls.set index after } effect := by
  unfold stepCall at taken
  split at taken
  · cases taken
  · rename_i call found
    obtain ⟨⟨after, effect⟩, moved, isTarget⟩ :=
      Option.map_eq_some_iff.mp taken
    exact ⟨call, after, effect, found, next_moves moved, isTarget.symm⟩

/-- The steps of the loop, of the writer and of the calls. -/
inductive Steps (json : SerdeJson) (state : McpLoop) :
    McpAction → McpLoop → Prop
  | skip (first : String) (rest : List String) :
      state.pc = .reading → state.input = first :: rest →
        cancelledLine json first = none → expectedReply json first = none →
          Steps json state .read { state with input := rest }
  | cancel (first : String) (rest : List String) (id : Value) :
      state.pc = .reading → state.input = first :: rest →
        cancelledLine json first = some id →
          expectedReply json first = none →
            Steps json state .read
              (cancel (json.toText id) { state with input := rest })
  | answer (first : String) (rest : List String) (value : Value) :
      state.pc = .reading → state.input = first :: rest →
        cancelledLine json first = none →
          expectedReply json first = replyKey value →
            Steps json state .read
              (send value .loop { state with input := rest })
  | spawn (first : String) (rest : List String) (request : Value) :
      state.pc = .reading → state.input = first :: rest →
        cancelledLine json first = none →
          json.fromText first = some request →
            expectedReply json first = some (requestId request, false) →
              Steps json state .read
                { state with
                  input := rest
                  calls := state.calls ++ [spawn request] }
  | close :
      state.pc = .reading → state.input = [] →
        Steps json state .read { state with pc := .closed }
  | write (entry : Entry) :
      state.queue[state.written]? = some entry →
        Steps json state .write
          { state with
            written := state.written + 1
            output := state.output ++ line json entry.value }
  | finish :
      state.pc = .closed → state.written = state.queue.length →
        (∀ call, call ∈ state.calls → holdsSender call = false) →
          Steps json state .finish { state with pc := .returned }
  | call (index : Nat) (callStep : CallStep) (call after : CallTask)
      (effect : CallEffect) :
      state.calls[index]? = some call →
        Moves json call callStep after effect →
          Steps json state (.call index callStep)
            (perform index (callKey json call)
              { state with calls := state.calls.set index after } effect)

theorem handleLine_steps
    {first : String} {rest : List String} {state : McpLoop}
    (reading : state.pc = .reading) (input : state.input = first :: rest) :
    Steps json state .read
      (handleLine json parseFailure first { state with input := rest }) := by
  unfold handleLine
  cases blank : isBlank first with
  | true =>
      exact .skip first rest reading input (by simp [cancelledLine, blank])
        (by simp [expectedReply, blank])
  | false =>
      cases parsed : json.fromText first with
      | none =>
          refine .answer first rest _ reading input ?_ ?_
          · simp [cancelledLine, blank, parsed]
          · rw [replyKey_parseErrorResponse]
            simp [expectedReply, blank, parsed]
      | some message =>
          cases identified : message.get "id" with
          | none =>
              have notDue : expectedReply json first = none := by
                simp [expectedReply, blank, parsed, identified]
              cases named : cancelledId message with
              | none =>
                  have handled :=
                    Steps.skip first rest reading input
                      (by simp [cancelledLine, blank, parsed, identified, named])
                      notDue
                  simpa [identified, handleNotification, named] using handled
              | some id =>
                  have handled :=
                    Steps.cancel first rest id reading input
                      (by simp [cancelledLine, blank, parsed, identified, named])
                      notDue
                  simpa [identified, handleNotification, named] using handled
          | some id =>
              have notNamed : cancelledLine json first = none := by
                simp [cancelledLine, blank, parsed, identified]
              have due : expectedReply json first =
                  some (requestId message, false) := by
                simp [expectedReply, blank, parsed, identified, requestId]
              by_cases isCall : requestMethod message = "tools/call"
              · by_cases known : toolName message = "a2a_send"
                · have handled :=
                    Steps.spawn first rest message reading input notNamed
                      parsed due
                  simpa [identified, isCall, spawnToolsCall, known] using
                    handled
                · have handled :=
                    Steps.answer first rest (unknownTool message) reading input
                      notNamed (by rw [due, replyKey_unknownTool])
                  simpa [identified, isCall, spawnToolsCall, known] using
                    handled
              · have handled :=
                  Steps.answer first rest (dispatchSync message) reading input
                    notNamed (by rw [due, replyKey_dispatchSync])
                simpa [identified, isCall] using handled

theorem step_steps
    {action : McpAction} {state target : McpLoop}
    (taken : step json parseFailure action state = some target) :
    Steps json state action target := by
  cases action with
  | read =>
      simp only [step] at taken
      split at taken
      · rename_i reading input
        cases taken
        exact handleLine_steps reading input
      · rename_i reading input
        cases taken
        exact .close reading input
      · cases taken
  | write =>
      obtain ⟨entry, found, rfl⟩ := Option.map_eq_some_iff.mp taken
      exact .write entry found
  | finish =>
      simp only [step] at taken
      split at taken
      · rename_i ends
        obtain ⟨closed, written, released⟩ := ends
        cases taken
        refine .finish closed written ?_
        intro call member
        simpa using List.all_eq_true.mp released call member
      · cases taken
  | call index callStep =>
      obtain ⟨call, after, effect, found, moves, rfl⟩ := stepCall_cases taken
      exact .call index callStep call after effect found moves

end McpServer

end A2AShim
