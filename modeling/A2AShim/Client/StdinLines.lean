import A2AShim.Client.McpReplies

/-!
# Lines of bytes

`serve_loop` reads bytes.  A line is decoded before it is parsed, and one that
is not UTF-8 leaves the loop through `?`, as a failed read does; then nobody
waits for the calls.  The writer leaves its loop when stdout refuses a value.
-/

namespace A2AShim

/-- How the bytes end. -/
inductive Ending where
  | eof
  | failure
  deriving DecidableEq, Repr

/-- What the loop is run on; `stdoutFails` says that stdout may refuse what is
written. -/
structure Stdio where
  bytes : List UInt8
  ending : Ending
  stdoutFails : Bool

inductive ReadError where
  | invalidData
  | broken
  deriving DecidableEq, Repr

/-- The error that the end of the input is. -/
def Ending.error : Ending → Option ReadError
  | .eof => none
  | .failure => some .broken

namespace Stdio

/-- The lines, each with its newline, and what is left after the last one. -/
def pieces : List UInt8 → List (List UInt8) × List UInt8
  | [] => ([], [])
  | byte :: rest =>
      if byte = 10 then
        ([byte] :: (pieces rest).1, (pieces rest).2)
      else
        match pieces rest with
        | ([], last) => ([], byte :: last)
        | (first :: more, last) => ((byte :: first) :: more, last)

/-- `read_line` takes what is left at the end of the input for a line, and
drops it when the read fails. -/
def lines (stdio : Stdio) : List (List UInt8) :=
  let found := pieces stdio.bytes
  if stdio.ending = .eof ∧ found.2 ≠ [] then
    found.1 ++ [found.2]
  else
    found.1

/-- No byte is lost. -/
theorem pieces_flatten (bytes : List UInt8) :
    (pieces bytes).1.flatten ++ (pieces bytes).2 = bytes := by
  induction bytes with
  | nil => rfl
  | cons byte rest inductionHypothesis =>
      by_cases ends : byte = 10
      · simp [pieces, ends, inductionHypothesis]
      · rw [pieces, if_neg ends]
        split
        · rename_i last found
          rw [found] at inductionHypothesis
          simpa using inductionHypothesis
        · rename_i first more last found
          rw [found] at inductionHypothesis
          simpa using inductionHypothesis

end Stdio

/-- What `next_line` takes off the end of a line. -/
def chomp (line : List Char) : List Char :=
  match line.reverse with
  | '\n' :: '\r' :: rest => rest.reverse
  | '\n' :: rest => rest.reverse
  | _ => line

def decodeLine (line : List UInt8) : Option String :=
  (String.fromUTF8? ⟨line.toArray⟩).map fun text =>
    String.ofList (chomp text.toList)

/-- `input` are the lines not read yet; that of `loop` is not used. -/
structure StdinLoop where
  input : List (List UInt8)
  loop : McpLoop
  writerEnded : Bool
  failure : Option ReadError

inductive StdinAction where
  | read
  | write
  | writeFails
  | finish
  | call (index : Nat) (step : CallStep)

namespace StdinLoop

open McpServer

variable (json : SerdeJson) (parseFailure : String → String) (stdio : Stdio)

def start : StdinLoop :=
  { input := stdio.lines
    loop := McpServer.start []
    writerEnded := false
    failure := none }

/-- The loop returns, with an error if there is one. -/
def leave (failure : Option ReadError) (state : StdinLoop) : StdinLoop :=
  { state with loop := { state.loop with pc := .returned }, failure }

/-- `next_line().await?`, and what is done with the line. -/
def read (state : StdinLoop) : StdinLoop :=
  match state.input with
  | [] =>
      match stdio.ending with
      | .eof => { state with loop := { state.loop with pc := .closed } }
      | .failure => leave (some .broken) state
  | line :: rest =>
      match decodeLine line with
      | none => leave (some .invalidData) { state with input := rest }
      | some text =>
          { state with
            input := rest
            loop := handleLine json parseFailure text state.loop }

/-- The steps up to the return; the writer waits for all senders, the loop for
the writer. -/
def step : StdinAction → StdinLoop → Option StdinLoop
  | .read, state =>
      if state.loop.pc = .reading then
        some (read json parseFailure stdio state)
      else
        none
  | .write, state =>
      if state.loop.pc ≠ .returned ∧ state.writerEnded = false then
        (McpServer.step json parseFailure .write state.loop).map fun loop =>
          { state with loop }
      else
        none
  | .writeFails, state =>
      if state.loop.pc ≠ .returned ∧ state.writerEnded = false ∧
          stdio.stdoutFails = true ∧
            state.loop.written < state.loop.queue.length then
        some { state with writerEnded := true }
      else
        none
  | .finish, state =>
      if state.loop.pc = .closed ∧
          (state.writerEnded = true ∨
            state.loop.written = state.loop.queue.length ∧
              state.loop.calls.all (fun call => !holdsSender call) =
                true) then
        some (leave none state)
      else
        none
  | .call index callStep, state =>
      if state.loop.pc ≠ .returned then
        (stepCall json index callStep state.loop).map fun loop =>
          { state with loop }
      else
        none

/-! ## What a run is to keep -/

/-- A line that is not UTF-8, or neither blank nor JSON. -/
def isUnusable (line : List UInt8) : Bool :=
  match decodeLine line with
  | none => true
  | some text => !isBlank text && (json.fromText text).isNone

/-- A line with a call of the tool. -/
def startsCall (line : List UInt8) : Bool :=
  match decodeLine line with
  | none => false
  | some text =>
      !isBlank text &&
        (json.fromText text).any fun message =>
          (message.get "id").isSome &&
            requestMethod message == "tools/call" &&
              toolName message == "a2a_send"

/-- The parse errors with a null id on the queue. -/
def parseErrors (queue : List Entry) : Nat :=
  (replied queue).count (.null, true)

/-- The unusable lines that an action reads. -/
def unusableRead (state : StdinLoop) : StdinAction → Nat
  | .read => (state.input.head?.any (isUnusable json)).toNat
  | _ => 0

/-- The loop reads on behind each line, an unusable one adds one parse error
at most, and the loop returns at the end of the input only, with the responses
of all its calls written. -/
structure Survives (state : StdinLoop) : Prop where
  goesOn : state.loop.pc = .reading → ∀ line rest,
    state.input = line :: rest →
      ∃ target,
        step json parseFailure stdio .read state = some target ∧
          target.loop.pc = .reading ∧ target.input = rest
  errors : ∀ action target,
    step json parseFailure stdio action state = some target →
      parseErrors target.loop.queue ≤
        parseErrors state.loop.queue + unusableRead json state action
  ends : state.loop.pc = .returned →
    state.input = [] ∧ state.failure = stdio.ending.error
  answered : state.loop.pc = .returned → ∀ index,
    index < state.loop.calls.length →
      ∃ entry, entry ∈ state.loop.queue.take state.loop.written ∧
        entry.origin = .response index

/-- Every line is UTF-8; where one starts a call, the input ends without an
error and stdout takes every write. -/
structure Orderly : Prop where
  decodes : ∀ line, line ∈ stdio.lines → (decodeLine line).isSome = true
  calls : ∀ line, line ∈ stdio.lines → startsCall json line = true →
    stdio.ending = .eof ∧ stdio.stdoutFails = false

variable {json parseFailure stdio}
variable {state target : StdinLoop} {loop later : McpLoop}

/-! ## What a step does -/

/-- The steps of the reader, of the writer and of the calls. -/
inductive Steps (json : SerdeJson) (parseFailure : String → String)
    (stdio : Stdio) (state : StdinLoop) : StdinAction → StdinLoop → Prop
  | line (first : List UInt8) (rest : List (List UInt8)) (text : String) :
      state.loop.pc = .reading → state.input = first :: rest →
        decodeLine first = some text →
          Steps json parseFailure stdio state .read
            { state with
              input := rest
              loop := handleLine json parseFailure text state.loop }
  | undecoded (first : List UInt8) (rest : List (List UInt8)) :
      state.loop.pc = .reading → state.input = first :: rest →
        decodeLine first = none →
          Steps json parseFailure stdio state .read
            (leave (some .invalidData) { state with input := rest })
  | close :
      state.loop.pc = .reading → state.input = [] → stdio.ending = .eof →
        Steps json parseFailure stdio state .read
          { state with loop := { state.loop with pc := .closed } }
  | fail :
      state.loop.pc = .reading → state.input = [] →
        stdio.ending = .failure →
          Steps json parseFailure stdio state .read
            (leave (some .broken) state)
  | write (loop : McpLoop) :
      state.loop.pc ≠ .returned → state.writerEnded = false →
        McpServer.Steps json state.loop .write loop →
          Steps json parseFailure stdio state .write { state with loop }
  | writeFails :
      state.loop.pc ≠ .returned → stdio.stdoutFails = true →
        Steps json parseFailure stdio state .writeFails
          { state with writerEnded := true }
  | finish :
      state.loop.pc = .closed →
        (state.writerEnded = true ∨
          state.loop.written = state.loop.queue.length ∧
            ∀ call, call ∈ state.loop.calls → holdsSender call = false) →
          Steps json parseFailure stdio state .finish (leave none state)
  | call (index : Nat) (callStep : CallStep) (loop : McpLoop) :
      state.loop.pc ≠ .returned →
        McpServer.Steps json state.loop (.call index callStep) loop →
          Steps json parseFailure stdio state (.call index callStep)
            { state with loop }

theorem step_steps
    {action : StdinAction}
    (taken : step json parseFailure stdio action state = some target) :
    Steps json parseFailure stdio state action target := by
  cases action with
  | read =>
      simp only [step] at taken
      split at taken
      · rename_i reading
        cases taken
        unfold read
        split
        · rename_i input
          cases ending : stdio.ending with
          | eof => exact .close reading input ending
          | failure => exact .fail reading input ending
        · rename_i first rest input
          cases decoded : decodeLine first with
          | none => exact .undecoded first rest reading input decoded
          | some text => exact .line first rest text reading input decoded
      · cases taken
  | write =>
      simp only [step] at taken
      split at taken
      · rename_i open_
        obtain ⟨loop, written, rfl⟩ := Option.map_eq_some_iff.mp taken
        exact .write loop open_.1 open_.2 (McpServer.step_steps written)
      · cases taken
  | writeFails =>
      simp only [step] at taken
      split at taken
      · rename_i refused
        cases taken
        exact .writeFails refused.1 refused.2.2.1
      · cases taken
  | finish =>
      simp only [step] at taken
      split at taken
      · rename_i ends
        cases taken
        refine .finish ends.1 (ends.2.imp_right fun drained => ?_)
        refine ⟨drained.1, fun call member => ?_⟩
        simpa using List.all_eq_true.mp drained.2 call member
      · cases taken
  | call index callStep =>
      simp only [step] at taken
      split at taken
      · rename_i open_
        obtain ⟨loop, moved, rfl⟩ := Option.map_eq_some_iff.mp taken
        have isStep : McpServer.step json parseFailure (.call index callStep)
            state.loop = some loop := moved
        exact .call index callStep loop open_ (McpServer.step_steps isStep)
      · cases taken

/-! ## The loop behind the decoder -/

/-- What is done with a line is a step of `McpServer` that reads it. -/
theorem steps_handleLine
    (json : SerdeJson) (parseFailure : String → String) (text : String)
    (reading : loop.pc = .reading) :
    McpServer.Steps json { loop with input := text :: loop.input } .read
      (handleLine json parseFailure text loop) :=
  @handleLine_steps json parseFailure text loop.input
    { loop with input := text :: loop.input } reading rfl

/-- A call that is done has put its response on the queue. -/
def Answered (loop : McpLoop) : Prop :=
  ∀ index call, loop.calls[index]? = some call → call.pc = .done →
    ∃ entry, entry ∈ loop.queue ∧ entry.origin = .response index

theorem Answered.of_calls
    (answered : Answered loop) {added : List Entry}
    (calls : later.calls = loop.calls)
    (queue : later.queue = loop.queue ++ added) : Answered later := by
  intro index call found done
  rw [calls] at found
  obtain ⟨entry, member, isResponse⟩ := answered index call found done
  refine ⟨entry, ?_, isResponse⟩
  rw [queue]
  exact List.mem_append_left _ member

/-- A step of a call that ends at `done` has begun there, or it is the
response. -/
theorem done_of_moves
    {call after : CallTask} {callStep : CallStep} {effect : CallEffect}
    (moves : Moves json call callStep after effect)
    (done : after.pc = .done) :
    call.pc = .done ∨ ∃ value, effect = .response value := by
  cases moves with
  | reply result place => exact .inr ⟨_, rfl⟩
  | wake place => exact .inl done
  | compose place => exact .inl done
  | sendFrame progress message token place => exact .inl done
  | endHeartbeat place => exact .inl done
  | _ => cases done

theorem answered_cancel
    (key : String) (answered : Answered loop) :
    Answered (cancel key loop) := by
  unfold cancel
  split
  · exact answered
  · rename_i target _
    intro index call found done
    simp only [List.getElem?_modify] at found
    split at found
    · obtain ⟨before, isBefore, rfl⟩ := Option.map_eq_some_iff.mp found
      exact answered index before isBefore done
    · obtain ⟨before, isBefore, rfl⟩ := Option.map_eq_some_iff.mp found
      exact answered index before isBefore done

theorem answered_step
    {action : McpAction} (answered : Answered loop)
    (taken : McpServer.Steps json loop action later) : Answered later := by
  cases taken with
  | skip first rest _ _ _ _ => exact answered
  | cancel first rest id _ _ _ _ => exact answered_cancel _ answered
  | answer first rest value _ _ _ _ => exact answered.of_calls rfl rfl
  | spawn first rest request _ _ _ _ _ =>
      intro index call found done
      simp only [List.getElem?_append] at found
      split at found
      · exact answered index call found done
      · rw [List.getElem?_singleton] at found
        split at found
        · cases found
          cases done
        · cases found
  | close _ _ => exact answered
  | write entry _ => exact answered
  | finish _ _ _ => exact answered
  | call index callStep call after effect found moves =>
      have queue := queue_perform index (callKey json call)
        { loop with calls := loop.calls.set index after } effect
      intro other changed isChanged done
      rw [perform_calls] at isChanged
      rw [queue]
      by_cases same : index = other
      · subst same
        obtain ⟨inside, _⟩ := List.getElem?_eq_some_iff.mp found
        rw [List.getElem?_set_self inside] at isChanged
        cases isChanged
        rcases done_of_moves moves done with before | ⟨value, rfl⟩
        · obtain ⟨entry, member, isResponse⟩ := answered index call found before
          exact ⟨entry, List.mem_append_left _ member, isResponse⟩
        · refine ⟨⟨value, .response index⟩, ?_, rfl⟩
          exact List.mem_append_right _ List.mem_cons_self
      · rw [List.getElem?_set_ne same] at isChanged
        obtain ⟨entry, member, isResponse⟩ :=
          answered other changed isChanged done
        exact ⟨entry, List.mem_append_left _ member, isResponse⟩

/-! ## Parse errors -/

theorem isUnusable_of_expectedReply
    {line : List UInt8} {text : String} (decoded : decodeLine line = some text)
    (due : expectedReply json text = some (.null, true)) :
    isUnusable json line = true := by
  unfold expectedReply at due
  split at due
  · cases due
  · rename_i notBlank
    split at due
    · rename_i unparsed
      simp [isUnusable, decoded, notBlank, unparsed]
    · simp at due

/-- A call sends no parse error. -/
theorem not_mem_sentBy
    {call after : CallTask} {callStep : CallStep} {effect : CallEffect}
    (moves : Moves json call callStep after effect) :
    ((.null, true) : Value × Bool) ∉ sentBy effect := by
  intro member
  have isOwed : ((.null, true) : Value × Bool) ∈ owed call := by
    rw [← moves.sentBy_append]
    exact List.mem_append_left _ member
  unfold owed at isOwed
  split at isOwed
  · cases isOwed
  · simp at isOwed

theorem parseErrors_call
    {index : Nat} {callStep : CallStep}
    (taken : McpServer.Steps json loop (.call index callStep) later) :
    parseErrors later.queue = parseErrors loop.queue := by
  cases taken with
  | call index callStep call after effect found moves =>
      rw [parseErrors, replied_perform, List.count_append,
        List.count_eq_zero_of_not_mem (not_mem_sentBy moves)]
      rfl

theorem parseErrors_line
    {line : List UInt8} {text : String} (reading : loop.pc = .reading)
    (decoded : decodeLine line = some text) :
    parseErrors (handleLine json parseFailure text loop).queue ≤
      parseErrors loop.queue + (isUnusable json line).toNat := by
  have taken := steps_handleLine json parseFailure text reading
  generalize handleLine json parseFailure text loop = after at taken
  cases taken with
  | skip first rest _ _ _ _ => exact Nat.le_add_right _ _
  | cancel first rest id _ _ _ _ =>
      rw [(cancel_frame _ _).2.2.1]
      exact Nat.le_add_right _ _
  | answer first rest value _ input _ due =>
      cases input
      have added := replied_append loop.queue value .loop
      simp only [parseErrors, send, added, List.count_append]
      by_cases isError : replyKey value = some (.null, true)
      · have unusable :=
          isUnusable_of_expectedReply decoded (due.trans isError)
        simp [isError, unusable]
      · have notError :
            ((.null, true) : Value × Bool) ∉ (replyKey value).toList := by
          intro member
          exact isError (Option.mem_toList.mp member)
        rw [List.count_eq_zero_of_not_mem notError]
        omega
  | spawn first rest request _ _ _ _ _ => exact Nat.le_add_right _ _
  | close _ input => cases input

/-- A step adds one parse error for an unusable line that it reads, at
most. -/
theorem parseErrors_step
    {action : StdinAction}
    (taken : Steps json parseFailure stdio state action target) :
    parseErrors target.loop.queue ≤
      parseErrors state.loop.queue + unusableRead json state action := by
  cases taken with
  | line first rest text reading input decoded =>
      simp only [unusableRead, input, List.head?_cons, Option.any_some]
      exact parseErrors_line reading decoded
  | undecoded first rest _ _ _ => exact Nat.le_add_right _ _
  | close _ _ _ => exact Nat.le_add_right _ _
  | fail _ _ _ => exact Nat.le_add_right _ _
  | write loop _ _ written =>
      cases written with
      | write entry _ => exact Nat.le_add_right _ _
  | writeFails _ _ => exact Nat.le_add_right _ _
  | finish _ _ => exact Nat.le_add_right _ _
  | call index callStep loop _ moved =>
      rw [parseErrors_call moved]
      exact Nat.le_add_right _ _

/-! ## Calls that have been started -/

theorem length_calls_cancel (key : String) (loop : McpLoop) :
    (cancel key loop).calls.length = loop.calls.length := by
  unfold cancel
  split
  · rfl
  · exact List.length_modify _ _ _

theorem handleLine_calls
    (json : SerdeJson) (parseFailure : String → String) (loop : McpLoop)
    {line : List UInt8} {text : String}
    (decoded : decodeLine line = some text) :
    (handleLine json parseFailure text loop).calls.length =
      loop.calls.length + (startsCall json line).toNat := by
  simp only [startsCall, decoded]
  unfold handleLine
  cases blank : isBlank text with
  | true => simp
  | false =>
      cases parsed : json.fromText text with
      | none => simp [send]
      | some message =>
          cases identified : message.get "id" with
          | none =>
              cases named : cancelledId message with
              | none => simp [identified, handleNotification, named]
              | some id =>
                  simp [identified, handleNotification, named,
                    length_calls_cancel]
          | some id =>
              by_cases isCall : requestMethod message = "tools/call"
              · by_cases known : toolName message = "a2a_send"
                · simp [identified, isCall, spawnToolsCall, known]
                · simp [identified, isCall, spawnToolsCall, known, send]
              · simp [identified, isCall, send]

theorem handleLine_frame
    (json : SerdeJson) (parseFailure : String → String) (text : String)
    (reading : loop.pc = .reading) :
    (handleLine json parseFailure text loop).pc = .reading ∧
      (handleLine json parseFailure text loop).written = loop.written := by
  have taken := steps_handleLine json parseFailure text reading
  generalize handleLine json parseFailure text loop = after at taken
  cases taken with
  | skip first rest _ _ _ _ => exact ⟨reading, rfl⟩
  | cancel first rest id _ _ _ _ =>
      obtain ⟨_, pc, _, written, _⟩ :=
        cancel_frame (json.toText id) { loop with input := rest }
      exact ⟨pc.trans reading, written⟩
  | answer first rest value _ _ _ _ => exact ⟨reading, rfl⟩
  | spawn first rest request _ _ _ _ _ => exact ⟨reading, rfl⟩
  | close _ input => cases input

/-- No call has left its first place. -/
def AllSpawned (loop : McpLoop) : Prop :=
  ∀ call, call ∈ loop.calls → call.pc = .spawned

theorem allSpawned_handleLine
    (text : String) (reading : loop.pc = .reading)
    (spawned : AllSpawned loop) :
    AllSpawned (handleLine json parseFailure text loop) := by
  have taken := steps_handleLine json parseFailure text reading
  generalize handleLine json parseFailure text loop = after at taken
  cases taken with
  | skip first rest _ _ _ _ => exact spawned
  | cancel first rest id _ _ _ _ =>
      unfold cancel
      split
      · exact spawned
      · intro call member
        obtain ⟨index, found⟩ := List.getElem?_of_mem member
        rw [List.getElem?_modify] at found
        obtain ⟨before, isBefore, changed⟩ := Option.map_eq_some_iff.mp found
        have place := spawned before (List.mem_of_getElem? isBefore)
        split at changed
        · rw [← changed]
          exact place
        · rw [← changed]
          exact place
  | answer first rest value _ _ _ _ => exact spawned
  | spawn first rest request _ _ _ _ _ =>
      intro call member
      rcases List.mem_append.mp member with before | last
      · exact spawned call before
      · rw [List.mem_singleton.mp last]
        rfl
  | close _ input => cases input

/-! ## Orderly input -/

/-- What holds up to the return, on an orderly input. -/
structure Holds (json : SerdeJson) (stdio : Stdio) (state : StdinLoop) :
    Prop where
  unread : ∃ seen, stdio.lines = seen ++ state.input
  answered : Answered state.loop
  idle : (∀ line, line ∈ stdio.lines → startsCall json line = false) →
    state.loop.calls = []
  writer : state.writerEnded = true → stdio.stdoutFails = true
  noFailure : state.loop.pc ≠ .returned → state.failure = none
  closed : state.loop.pc = .closed →
    state.input = [] ∧ stdio.ending = .eof
  returned : state.loop.pc = .returned →
    state.input = [] ∧ state.failure = stdio.ending.error ∧
      (stdio.ending = .eof →
        state.writerEnded = true ∨
          state.loop.written = state.loop.queue.length ∧
            ∀ call, call ∈ state.loop.calls → holdsSender call = false)

theorem holds_start : Holds json stdio (start stdio) :=
  { unread := ⟨[], rfl⟩
    answered := fun index call found => by
      simp [start, McpServer.start] at found
    idle := fun _ => rfl
    writer := fun ended => by cases ended
    noFailure := fun _ => rfl
    closed := fun closed => by cases closed
    returned := fun returned => by cases returned }

/-- A line that is to be read is one of the input. -/
theorem Holds.listed
    {line : List UInt8} {rest : List (List UInt8)}
    (holds : Holds json stdio state) (input : state.input = line :: rest) :
    line ∈ stdio.lines := by
  obtain ⟨seen, whole⟩ := holds.unread
  rw [whole, input]
  exact List.mem_append_right seen List.mem_cons_self

theorem holds_step
    {action : StdinAction} (orderly : Orderly json stdio)
    (holds : Holds json stdio state)
    (taken : Steps json parseFailure stdio state action target) :
    Holds json stdio target := by
  cases taken with
  | line first rest text reading input decoded =>
      obtain ⟨seen, whole⟩ := holds.unread
      have isWhole : stdio.lines = (seen ++ [first]) ++ rest := by
        rw [whole, input]
        simp
      obtain ⟨stillReading, _⟩ :=
        handleLine_frame json parseFailure text reading
      refine
        { unread := ⟨seen ++ [first], isWhole⟩
          answered := ?_
          idle := ?_
          writer := holds.writer
          noFailure := fun _ => holds.noFailure (by simp [reading])
          closed := fun closed => by simp [stillReading] at closed
          returned := fun returned => by simp [stillReading] at returned }
      · have before : Answered { state.loop with
            input := text :: state.loop.input } := holds.answered
        exact answered_step before
          (steps_handleLine json parseFailure text reading)
      · intro none
        have noCall := none first (holds.listed input)
        have length := handleLine_calls json parseFailure state.loop decoded
        rw [noCall, holds.idle none] at length
        exact List.eq_nil_of_length_eq_zero length
  | undecoded first rest _ input undecoded =>
      have decodes := orderly.decodes first (holds.listed input)
      rw [undecoded] at decodes
      cases decodes
  | close reading input ending =>
      exact
        { holds with
          noFailure := fun _ => holds.noFailure (by simp [reading])
          closed := fun _ => ⟨input, ending⟩
          returned := fun returned => by cases returned }
  | fail reading input ending =>
      exact
        { holds with
          noFailure := fun notReturned => absurd rfl notReturned
          closed := fun closed => by cases closed
          returned := fun _ => ⟨input, by rw [ending]; rfl, fun isEof => by
            rw [ending] at isEof
            cases isEof⟩ }
  | write loop notReturned _ written =>
      cases written with
      | write entry _ =>
          exact
            { holds with
              returned := fun returned => absurd returned notReturned }
  | writeFails notReturned fails =>
      exact
        { holds with
          writer := fun _ => fails
          returned := fun returned => absurd returned notReturned }
  | finish closed drained =>
      obtain ⟨input, ending⟩ := holds.closed closed
      exact
        { holds with
          noFailure := fun notReturned => absurd rfl notReturned
          closed := fun closed => by cases closed
          returned := fun _ => ⟨input, by rw [ending]; rfl, fun _ => drained⟩ }
  | call index callStep loop notReturned moved =>
      have answered := answered_step holds.answered moved
      cases moved with
      | call index callStep call after effect found moves =>
          obtain ⟨_, pc, _, _⟩ := perform_frame index (callKey json call)
            { state.loop with calls := state.loop.calls.set index after }
            effect
          exact
            { holds with
              answered := answered
              idle := fun none => by
                rw [holds.idle none] at found
                cases found
              noFailure := fun _ => holds.noFailure notReturned
              closed := fun closed => holds.closed (pc.symm.trans closed)
              returned := fun returned =>
                absurd (pc.symm.trans returned) notReturned }

theorem step_line
    (json : SerdeJson) (parseFailure : String → String) (stdio : Stdio)
    {line : List UInt8} {rest : List (List UInt8)} {text : String}
    (reading : state.loop.pc = .reading) (input : state.input = line :: rest)
    (decoded : decodeLine line = some text) :
    step json parseFailure stdio .read state =
      some
        { state with
          input := rest
          loop := handleLine json parseFailure text state.loop } := by
  simp [step, reading, read, input, decoded]

theorem Holds.survives
    (orderly : Orderly json stdio) (holds : Holds json stdio state) :
    Survives json parseFailure stdio state := by
  refine
    { goesOn := ?_
      errors := fun action target taken =>
        parseErrors_step (step_steps taken)
      ends := fun returned =>
        ⟨(holds.returned returned).1, (holds.returned returned).2.1⟩
      answered := ?_ }
  · intro reading line rest input
    have decodes := orderly.decodes line (holds.listed input)
    obtain ⟨text, decoded⟩ := Option.isSome_iff_exists.mp decodes
    exact ⟨_, step_line json parseFailure stdio reading input decoded,
      (handleLine_frame json parseFailure text reading).1, rfl⟩
  · intro returned index inside
    by_cases idle : ∀ line, line ∈ stdio.lines → startsCall json line = false
    · rw [holds.idle idle] at inside
      cases inside
    · simp only [not_forall, Bool.not_eq_false] at idle
      obtain ⟨line, listed, starts⟩ := idle
      obtain ⟨ending, takes⟩ := orderly.calls line listed starts
      rcases (holds.returned returned).2.2 ending with ended | drained
      · rw [holds.writer ended] at takes
        cases takes
      · obtain ⟨written, released⟩ := drained
        have isReleased := released _ (List.getElem_mem inside)
        simp only [holdsSender, Bool.not_eq_false', decide_eq_true_eq]
          at isReleased
        rw [written, List.take_length]
        exact holds.answered index _ (List.getElem?_eq_getElem inside)
          isReleased.1

/-! ## Input that is not orderly -/

/-- The state can be reached. -/
def Reached (json : SerdeJson) (parseFailure : String → String)
    (stdio : Stdio) (state : StdinLoop) : Prop :=
  ∃ trace,
    Machine.Run (step json parseFailure stdio) Machine.free (start stdio)
      trace state

theorem Reached.next
    {action : StdinAction} (reached : Reached json parseFailure stdio state)
    (taken : step json parseFailure stdio action state = some target) :
    Reached json parseFailure stdio target := by
  obtain ⟨trace, run⟩ := reached
  exact ⟨trace ++ [action], run.snoc trivial taken⟩

/-- Lines have been read, and nothing else has been done. -/
structure OnlyRead (state : StdinLoop) (rest : List (List UInt8)) :
    Prop where
  reading : state.loop.pc = .reading
  input : state.input = rest
  written : state.loop.written = 0
  writing : state.writerEnded = false
  spawned : AllSpawned state.loop

theorem onlyRead_start : OnlyRead (start stdio) stdio.lines :=
  { reading := rfl
    input := rfl
    written := rfl
    writing := rfl
    spawned := fun _ member => by cases member }

/-- A line that the loop goes on behind has been decoded. -/
theorem decoded_of_survives
    {line : List UInt8} {rest : List (List UInt8)}
    (survives : Survives json parseFailure stdio state)
    (reading : state.loop.pc = .reading)
    (input : state.input = line :: rest) :
    ∃ text, decodeLine line = some text := by
  cases decoded : decodeLine line with
  | some text => exact ⟨text, rfl⟩
  | none =>
      obtain ⟨target, taken, stillReading, _⟩ :=
        survives.goesOn reading line rest input
      simp only [step, reading, read, input, decoded, if_true,
        Option.some.injEq] at taken
      rw [← taken] at stillReading
      cases stillReading

/-- All lines can be read first. -/
theorem reads_all
    (survives : ∀ state, Reached json parseFailure stdio state →
      Survives json parseFailure stdio state)
    (lines : List (List UInt8))
    (reached : Reached json parseFailure stdio state)
    (read : OnlyRead state lines) :
    (∀ line, line ∈ lines → (decodeLine line).isSome = true) ∧
      ∃ target, Reached json parseFailure stdio target ∧
        OnlyRead target [] ∧
          state.loop.calls.length ≤ target.loop.calls.length ∧
            ∀ line, line ∈ lines → startsCall json line = true →
              target.loop.calls ≠ [] := by
  induction lines generalizing state with
  | nil =>
      exact ⟨nofun, state, reached, read, Nat.le_refl _, nofun⟩
  | cons line rest inductionHypothesis =>
      obtain ⟨text, decoded⟩ := decoded_of_survives
        (survives state reached) read.reading read.input
      have taken := step_line json parseFailure stdio read.reading
        read.input decoded
      obtain ⟨stillReading, written⟩ :=
        handleLine_frame json parseFailure text read.reading
      have length := handleLine_calls json parseFailure state.loop decoded
      obtain ⟨decodes, target, reachedTarget, atEnd, longer, started⟩ :=
        inductionHypothesis (reached.next taken)
          { reading := stillReading
            input := rfl
            written := written.trans read.written
            writing := read.writing
            spawned :=
              allSpawned_handleLine text read.reading read.spawned }
      simp only [length] at longer
      refine ⟨?_, target, reachedTarget, atEnd, by omega, ?_⟩
      · intro other member
        rcases List.mem_cons.mp member with rfl | later
        · rw [decoded]
          rfl
        · exact decodes other later
      · intro other member starts
        rcases List.mem_cons.mp member with rfl | later
        · intro empty
          rw [starts, empty] at longer
          simp at longer
        · exact started other later starts

/-- A loop that has returned with calls has written something. -/
theorem written_of_survives
    (survives : Survives json parseFailure stdio state)
    (returned : state.loop.pc = .returned)
    (started : state.loop.calls ≠ []) : state.loop.written ≠ 0 := by
  intro nothing
  have inside : 0 < state.loop.calls.length :=
    List.length_pos_of_ne_nil started
  obtain ⟨entry, member, _⟩ := survives.answered returned 0 inside
  rw [nothing] at member
  cases member

/-- The input is at its end, and the writer has taken nothing. -/
structure Waiting (state : StdinLoop) (index : Nat) (call : CallTask) :
    Prop where
  closed : state.loop.pc = .closed
  written : state.loop.written = 0
  writing : state.writerEnded = false
  found : state.loop.calls[index]? = some call

theorem Waiting.next
    {index : Nat} {call after : CallTask} {callStep : CallStep}
    {effect : CallEffect} (waiting : Waiting state index call)
    (reached : Reached json parseFailure stdio state)
    (moved : McpServer.next json call callStep = some (after, effect)) :
    ∃ target, Reached json parseFailure stdio target ∧
      Waiting target index after ∧
        target.loop.queue = state.loop.queue ++ added index effect := by
  have taken : step json parseFailure stdio (.call index callStep) state =
      some
        { state with
          loop := perform index (callKey json call)
            { state.loop with calls := state.loop.calls.set index after }
            effect } := by
    simp [step, waiting.closed, stepCall, waiting.found, moved]
  obtain ⟨_, pc, written, _⟩ := perform_frame index (callKey json call)
    { state.loop with calls := state.loop.calls.set index after } effect
  obtain ⟨inside, _⟩ := List.getElem?_eq_some_iff.mp waiting.found
  refine ⟨_, reached.next taken, ?_, queue_perform _ _ _ _⟩
  refine
    { closed := pc.trans waiting.closed
      written := written.trans waiting.written
      writing := waiting.writing
      found := ?_ }
  simp only [perform_calls]
  exact List.getElem?_set_self inside

/-- The steps of a call on its own. -/
def callTask (json : SerdeJson) (callStep : CallStep) (call : CallTask) :
    Option CallTask :=
  (McpServer.next json call callStep).map Prod.fst

theorem Waiting.run
    {index : Nat} {call after : CallTask} (steps : List CallStep)
    (waiting : Waiting state index call)
    (reached : Reached json parseFailure stdio state)
    (executed : Machine.exec (callTask json) steps call = some after) :
    ∃ target, Reached json parseFailure stdio target ∧
      Waiting target index after := by
  induction steps generalizing state call with
  | nil =>
      cases executed
      exact ⟨state, reached, waiting⟩
  | cons callStep rest inductionHypothesis =>
      obtain ⟨middle, moved, others⟩ := Option.bind_eq_some_iff.mp executed
      obtain ⟨⟨_, effect⟩, isNext, rfl⟩ := Option.map_eq_some_iff.mp moved
      obtain ⟨next, reachedNext, waitingNext, _⟩ :=
        waiting.next reached isNext
      exact inductionHypothesis waitingNext reachedNext others

/-- The steps of a call that could not send its request. -/
def unopenedSteps (error : String) : List CallStep :=
  [.register, .startHeartbeat, .opened (some (.networkError error)),
    .dropHeartbeat, .unregister]

/-- A call can come to its response. -/
theorem exec_replying
    (json : SerdeJson) {call : CallTask} (spawned : call.pc = .spawned) :
    ∃ steps result,
      (Machine.exec (callTask json) steps call).map CallTask.pc =
        some (.replying result) := by
  cases decoded : ToolArguments.ofValue (toolArguments call.request) with
  | none =>
      refine ⟨[.register],
        invalidParamsMarker (json.rejection (toolArguments call.request)), ?_⟩
      simp [Machine.exec, callTask, McpServer.next, spawned, decoded]
  | some args =>
      let refused := OutboundError.networkError "error sending request"
      refine ⟨unopenedSteps "error sending request",
        CallHandler.renderFailed refused.text (errorKindForOutbound refused)
          none, ?_⟩
      simp [unopenedSteps, refused, Machine.exec, callTask, McpServer.next,
        spawned, decoded]

/-- Where stdout refuses the first response, the loop returns without it. -/
theorem returns_unwritten
    (fails : stdio.stdoutFails = true)
    (reached : Reached json parseFailure stdio state)
    (index : Nat) (call : CallTask) (waiting : Waiting state index call)
    (spawned : call.pc = .spawned) :
    ∃ target, Reached json parseFailure stdio target ∧
      target.loop.pc = .returned ∧ target.loop.calls ≠ [] ∧
        target.loop.written = 0 := by
  obtain ⟨steps, result, place⟩ := exec_replying json spawned
  obtain ⟨after, executed, place⟩ := Option.map_eq_some_iff.mp place
  obtain ⟨replying, reachedReplying, waiting⟩ :=
    waiting.run steps reached executed
  have replies : McpServer.next json after .reply =
      some ({ after with pc := .done },
        .response (toolResponse after.request result)) := by
    simp [McpServer.next, place]
  obtain ⟨replied, reachedReplied, waiting, queue⟩ :=
    waiting.next reachedReplying replies
  have refused : step json parseFailure stdio .writeFails replied =
      some { replied with writerEnded := true } := by
    simp [step, waiting.closed, waiting.writing, fails, waiting.written, queue,
      added]
  have finished : step json parseFailure stdio .finish
      { replied with writerEnded := true } =
        some (leave none { replied with writerEnded := true }) := by
    simp [step, waiting.closed]
  refine ⟨_, (reachedReplied.next refused).next finished, rfl, ?_,
    waiting.written⟩
  intro empty
  have found := waiting.found
  rw [show replied.loop.calls = [] from empty] at found
  cases found

/-- Every run survives exactly when the input is orderly. -/
theorem serve_loop_survives_iff
    (json : SerdeJson) (parseFailure : String → String) (stdio : Stdio) :
    (∀ trace state,
      Machine.Run (step json parseFailure stdio) Machine.free (start stdio)
        trace state →
          Survives json parseFailure stdio state) ↔
      Orderly json stdio := by
  constructor
  · intro allSurvive
    have survives : ∀ state, Reached json parseFailure stdio state →
        Survives json parseFailure stdio state := by
      intro state reached
      obtain ⟨trace, run⟩ := reached
      exact allSurvive trace state run
    obtain ⟨decodes, state, reached, atEnd, _, started⟩ :=
      reads_all survives stdio.lines ⟨[], .start⟩ onlyRead_start
    refine ⟨decodes, fun line listed starts => ?_⟩
    have someCall := started line listed starts
    cases ending : stdio.ending with
    | failure =>
        have failed : step json parseFailure stdio .read state =
            some (leave (some .broken) state) := by
          simp [step, atEnd.reading, read, atEnd.input, ending]
        have left := survives _ (reached.next failed)
        have something := written_of_survives left rfl someCall
        exact absurd atEnd.written something
    | eof =>
        refine ⟨rfl, ?_⟩
        have closed : step json parseFailure stdio .read state =
            some { state with loop := { state.loop with pc := .closed } } := by
          simp [step, atEnd.reading, read, atEnd.input, ending]
        obtain ⟨call, others, isCalls⟩ :=
          List.exists_cons_of_ne_nil someCall
        by_contra fails
        obtain ⟨target, reachedTarget, returned, calls, unwritten⟩ :=
          returns_unwritten (by simpa using fails) (reached.next closed) 0 call
            { closed := rfl
              written := atEnd.written
              writing := atEnd.writing
              found := by simp [isCalls] }
            (atEnd.spawned call (by simp [isCalls]))
        exact written_of_survives (survives target reachedTarget) returned
          calls unwritten
  · intro orderly trace state run
    have holds : Holds json stdio state :=
      run.invariant (Holds json stdio) holds_start
        fun _ _ _ holds _ taken => holds_step orderly holds (step_steps taken)
    exact holds.survives orderly

/-- A call, a line with the byte 255, and one more call. -/
def spoiledInput : Stdio :=
  { bytes :=
      emptyCallText.toUTF8.data.toList ++ [10, 255, 10] ++
        emptyCallText.toUTF8.data.toList ++ [10]
    ending := .eof
    stdoutFails := false }

/-- The loop returns with the second call unread and the first unanswered. -/
theorem undecoded_line_ends_loop :
    (∃ state,
      Machine.exec (step emptyCallJson (fun _ => notKey) spoiledInput)
          [.read, .read] (start spoiledInput) = some state ∧
        state.loop.pc = .returned ∧
        state.failure = some .invalidData ∧
        state.input.length = 1 ∧
        state.loop.calls.length = 1 ∧
        state.loop.queue = []) ∧
      ¬ ∀ trace state,
        Machine.Run (step emptyCallJson (fun _ => notKey) spoiledInput)
          Machine.free (start spoiledInput) trace state →
            Survives emptyCallJson (fun _ => notKey) spoiledInput state := by
  have observed :
      (Machine.exec (step emptyCallJson (fun _ => notKey) spoiledInput)
          [.read, .read] (start spoiledInput)).map (fun state =>
        (state.loop.pc, state.failure, state.input.length,
          state.loop.calls.length, state.loop.queue)) =
        some (.returned, some .invalidData, 1, 1, []) := by
    decide +kernel
  obtain ⟨state, executed, isObserved⟩ := Option.map_eq_some_iff.mp observed
  simp only [Prod.mk.injEq] at isObserved
  refine ⟨⟨state, executed, isObserved⟩, ?_⟩
  intro allSurvive
  have survives := allSurvive _ state (Machine.run_of_exec executed)
  have atEnd := (survives.ends isObserved.1).1
  rw [atEnd] at isObserved
  simp at isObserved

end StdinLoop

end A2AShim
