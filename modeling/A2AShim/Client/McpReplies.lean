import Mathlib.Data.List.Perm.Basic
import A2AShim.Client.McpServer
import A2AShim.Wire.SseFraming

/-!
# One response for each request

The replies on the queue and those the calls still owe are, together, the
replies that are due to the lines read so far.  A loop that returns has read
every line, and every call has paid.
-/

namespace A2AShim

namespace McpServer

variable {json : SerdeJson} {parseFailure : String → String}
variable {call after : CallTask} {callStep : CallStep} {effect : CallEffect}
variable {state target : McpLoop}

/-- The reply a call still owes. -/
def owed (call : CallTask) : List (Value × Bool) :=
  if call.pc = .done then [] else [(requestId call.request, false)]

def replied (queue : List Entry) : List (Value × Bool) :=
  queue.filterMap fun entry => replyKey entry.value

def sentBy : CallEffect → List (Value × Bool)
  | .response value => (replyKey value).toList
  | .progress value => (replyKey value).toList
  | _ => []

/-! ## Steps of a call -/

/-- A call sends a reply when it stops owing one, and no other. -/
theorem Moves.sentBy_append
    (moves : Moves json call callStep after effect) :
    sentBy effect ++ owed after = owed call := by
  cases moves with
  | refuse result place => simp [sentBy, owed, place]
  | register args place => simp [sentBy, owed, place]
  | startHeartbeat args beat place => simp [sentBy, owed, place]
  | unopened args error result place => simp [sentBy, owed, place]
  | opened args task place => simp [sentBy, owed, place]
  | driven item task updated place => simp [sentBy, owed, place]
  | drained item task result place => simp [sentBy, owed, place]
  | hostCancelled task place => simp [sentBy, owed, place]
  | dropHeartbeat result place => simp [sentBy, owed, place]
  | unregister result place => simp [sentBy, owed, place]
  | reply result place =>
      simp [sentBy, owed, place, replyKey_toolResponse]
  | sendFrame progress message token place =>
      simp [sentBy, owed, replyKey]
  | _ => rfl

/-- Nothing moves in a call without a sender. -/
theorem Moves.holdsSender
    (moves : Moves json call callStep after effect) :
    holdsSender call = true := by
  cases moves <;> rename_i place <;> simp_all [McpServer.holdsSender]

theorem replied_append (queue : List Entry) (value : Value)
    (origin : Origin) :
    replied (queue ++ [⟨value, origin⟩]) =
      replied queue ++ (replyKey value).toList := by
  unfold replied
  rw [List.filterMap_append]
  cases key : replyKey value with
  | none => simp [key]
  | some reply => simp [key]

theorem replied_perform (index : Nat) (key : String) (state : McpLoop)
    (effect : CallEffect) :
    replied (perform index key state effect).queue =
      replied state.queue ++ sentBy effect := by
  cases effect with
  | response value => exact replied_append state.queue value _
  | progress value => exact replied_append state.queue value _
  | _ => exact (List.append_nil _).symm

theorem perform_calls (index : Nat) (key : String) (state : McpLoop)
    (effect : CallEffect) :
    (perform index key state effect).calls = state.calls := by
  cases effect <;> rfl

/-- What a call has put on the queue by a step. -/
def added (index : Nat) : CallEffect → List Entry
  | .response value => [⟨value, .response index⟩]
  | .progress value => [⟨value, .progress index⟩]
  | .quiet => []
  | .register => []
  | .unregister => []

theorem queue_perform (index : Nat) (key : String) (state : McpLoop)
    (effect : CallEffect) :
    (perform index key state effect).queue =
      state.queue ++ added index effect := by
  cases effect with
  | response value => rfl
  | progress value => rfl
  | _ => exact (List.append_nil _).symm

theorem perform_frame (index : Nat) (key : String) (state : McpLoop)
    (effect : CallEffect) :
    (perform index key state effect).input = state.input ∧
      (perform index key state effect).pc = state.pc ∧
        (perform index key state effect).written = state.written ∧
          (perform index key state effect).output = state.output := by
  cases effect <;> exact ⟨rfl, rfl, rfl, rfl⟩

/-! ## The balance -/

/-- What the calls owe changes where one call changes. -/
theorem flatMap_owed_set
    {calls : List CallTask} {index : Nat}
    (found : calls[index]? = some call)
    {paid : List (Value × Bool)} (balanced : paid ++ owed after = owed call) :
    (paid ++ (calls.set index after).flatMap owed).Perm
      (calls.flatMap owed) := by
  obtain ⟨inside, isCall⟩ := List.getElem?_eq_some_iff.mp found
  have changed : ((calls.set index after).flatMap owed).Perm
      (owed after ++ (calls.eraseIdx index).flatMap owed) :=
    (List.set_perm_cons_eraseIdx inside after).flatMap_right owed
  have unchanged : (owed call ++ (calls.eraseIdx index).flatMap owed).Perm
      (calls.flatMap owed) := by
    rw [← isCall]
    exact (List.getElem_cons_eraseIdx_perm inside).flatMap_right owed
  refine (changed.append_left paid).trans ?_
  rw [← List.append_assoc, balanced]
  exact unchanged

theorem flatMap_owed_modify (calls : List CallTask) (index : Nat) :
    (calls.modify index fun call =>
        { call with cancelled := true }).flatMap owed =
      calls.flatMap owed := by
  induction calls generalizing index with
  | nil => cases index <;> rfl
  | cons first others inductionHypothesis =>
      cases index with
      | zero => rfl
      | succ index =>
          rw [List.modify_succ_cons, List.flatMap_cons, List.flatMap_cons,
            inductionHypothesis]

theorem flatMap_owed_cancel (key : String) (state : McpLoop) :
    (cancel key state).calls.flatMap owed = state.calls.flatMap owed := by
  unfold cancel
  split
  · rfl
  · exact flatMap_owed_modify _ _

/-- The replies sent and owed are those due to the lines read. -/
def Balanced (json : SerdeJson) (lines : List String) (state : McpLoop) :
    Prop :=
  ∃ seen, lines = seen ++ state.input ∧
    (replied state.queue ++ state.calls.flatMap owed).Perm
      (seen.filterMap (expectedReply json))

theorem cancel_frame (key : String) (state : McpLoop) :
    (cancel key state).input = state.input ∧
      (cancel key state).pc = state.pc ∧
        (cancel key state).queue = state.queue ∧
          (cancel key state).written = state.written ∧
            (cancel key state).output = state.output := by
  unfold cancel
  split <;> exact ⟨rfl, rfl, rfl, rfl, rfl⟩

/-- A line that has been read adds the reply that is due to it. -/
theorem balanced_read
    {lines : List String} {first : String} {rest : List String}
    {replies : List (Value × Bool)}
    (balanced : Balanced json lines state) (input : state.input = first :: rest)
    (paid : replies.Perm
      (replied state.queue ++ state.calls.flatMap owed ++
        (expectedReply json first).toList)) :
    ∃ seen, lines = seen ++ rest ∧
      replies.Perm (seen.filterMap (expectedReply json)) := by
  obtain ⟨seen, whole, balance⟩ := balanced
  refine ⟨seen ++ [first], ?_, ?_⟩
  · rw [whole, input]
    simp
  · have last : [first].filterMap (expectedReply json) =
        (expectedReply json first).toList := by
      cases due : expectedReply json first <;> simp [due]
    rw [List.filterMap_append, last]
    exact paid.trans (balance.append_right _)

theorem balanced_step
    {lines : List String} {action : McpAction}
    (balanced : Balanced json lines state)
    (taken : Steps json state action target) :
    Balanced json lines target := by
  cases taken with
  | skip first rest _ input _ notDue =>
      refine balanced_read balanced input ?_
      rw [notDue, Option.toList_none, List.append_nil]
  | cancel first rest id _ input _ notDue =>
      obtain ⟨isInput, _, queue, _⟩ :=
        cancel_frame (json.toText id) { state with input := rest }
      rw [Balanced, isInput, queue, flatMap_owed_cancel]
      refine balanced_read balanced input ?_
      rw [notDue, Option.toList_none, List.append_nil]
  | answer first rest value _ input _ due =>
      refine balanced_read balanced input ?_
      have added := replied_append state.queue value .loop
      simp only [send, added, due, List.append_assoc]
      exact List.perm_append_comm.append_left _
  | spawn first rest request _ input _ _ due =>
      refine balanced_read balanced input ?_
      rw [due]
      simp [owed, spawn]
  | close _ _ => exact balanced
  | write entry _ => exact balanced
  | finish _ _ _ => exact balanced
  | call index callStep call after effect found moves =>
      obtain ⟨seen, whole, balance⟩ := balanced
      refine ⟨seen, whole.trans ?_, ?_⟩
      · rw [(perform_frame _ _ _ _).1]
      · rw [replied_perform, perform_calls, List.append_assoc]
        exact ((flatMap_owed_set found moves.sentBy_append).append_left
          _).trans balance

/-! ## The writer -/

/-- The output is what the writer has taken, and a loop that has returned is
finished. -/
structure Flushed (json : SerdeJson) (state : McpLoop) : Prop where
  bound : state.written ≤ state.queue.length
  output : state.output =
    String.join ((state.queue.take state.written).map fun entry =>
      line json entry.value)
  closed : state.pc ≠ .reading → state.input = []
  finished : state.pc = .returned →
    state.written = state.queue.length ∧
      ∀ call, call ∈ state.calls → holdsSender call = false

theorem Flushed.of_queue
    (flushed : Flushed json state)
    {added : List Entry} (queue : target.queue = state.queue ++ added)
    (written : target.written = state.written)
    (output : target.output = state.output) :
    target.written ≤ target.queue.length ∧
      target.output =
        String.join ((target.queue.take target.written).map fun entry =>
          line json entry.value) := by
  rw [queue, written, output, List.take_append_of_le_length flushed.bound]
  refine ⟨flushed.bound.trans ?_, flushed.output⟩
  simp

/-- A loop that reads is not finished. -/
theorem Flushed.of_reading
    (bound : state.written ≤ state.queue.length)
    (output : state.output =
      String.join ((state.queue.take state.written).map fun entry =>
        line json entry.value))
    (reading : state.pc = .reading) : Flushed json state := by
  refine ⟨bound, output, fun notReading => absurd reading notReading, ?_⟩
  intro isReturned
  rw [reading] at isReturned
  cases isReturned

theorem flushed_step
    {action : McpAction} (flushed : Flushed json state)
    (taken : Steps json state action target) :
    Flushed json target := by
  cases taken with
  | skip first rest reading _ _ _ =>
      refine ⟨flushed.bound, flushed.output, ?_, flushed.finished⟩
      exact fun notReading => absurd reading notReading
  | cancel first rest id reading _ _ _ =>
      obtain ⟨_, pc, queue, written, output⟩ :=
        cancel_frame (json.toText id) { state with input := rest }
      obtain ⟨bound, isOutput⟩ :=
        flushed.of_queue (queue.trans (List.append_nil _).symm) written output
      exact .of_reading bound isOutput (pc.trans reading)
  | answer first rest value reading _ _ _ =>
      obtain ⟨bound, isOutput⟩ := @Flushed.of_queue json state
        (send value .loop { state with input := rest }) flushed _ rfl rfl rfl
      exact .of_reading bound isOutput reading
  | spawn first rest request reading _ _ _ _ =>
      exact .of_reading flushed.bound flushed.output reading
  | close reading input =>
      exact ⟨flushed.bound, flushed.output, fun _ => input, nofun⟩
  | write entry next =>
      obtain ⟨inside, _⟩ := List.getElem?_eq_some_iff.mp next
      refine ⟨inside, ?_, flushed.closed, ?_⟩
      · simp only
        rw [List.take_add_one, next, List.map_append, String.join_append,
          ← flushed.output]
        simp
      · intro isReturned
        have all := (flushed.finished isReturned).1
        omega
  | finish closed written released =>
      refine ⟨flushed.bound, flushed.output, ?_, fun _ => ⟨written, released⟩⟩
      exact fun _ => flushed.closed (by rw [closed]; nofun)
  | call index callStep call after effect found moves =>
      have queue := queue_perform index (callKey json call)
        { state with calls := state.calls.set index after } effect
      obtain ⟨input, pc, written, output⟩ := perform_frame index
        (callKey json call)
        { state with calls := state.calls.set index after } effect
      obtain ⟨bound, isOutput⟩ := flushed.of_queue queue written output
      refine ⟨bound, isOutput, ?_, ?_⟩
      · intro notReading
        rw [input]
        exact flushed.closed fun reading => notReading (pc.trans reading)
      · intro isReturned
        have released := (flushed.finished (pc.symm.trans isReturned)).2 call
          (List.mem_of_getElem? found)
        rw [moves.holdsSender] at released
        cases released

/-! ## The output -/

theorem splitOn_lines
    (escapes : ∀ value, '\n' ∉ (json.toText value).toList)
    (values : List Value) :
    (String.join (values.map (line json))).toList.splitOn '\n' =
      values.map (fun value => (json.toText value).toList) ++ [[]] := by
  induction values with
  | nil => rfl
  | cons value others inductionHypothesis =>
      have isLine : (line json value).toList =
          (json.toText value).toList ++ ['\n'] := by
        rw [line, String.toList_append]
        rfl
      rw [List.map_cons, String.join_cons, String.toList_append, isLine,
        List.append_assoc, List.singleton_append,
        List.splitOn_append_cons_self_of_not_mem (escapes value),
        inductionHypothesis]
      rfl

theorem not_owed_of_released
    {calls : List CallTask}
    (released : ∀ call, call ∈ calls → holdsSender call = false) :
    calls.flatMap owed = [] := by
  rw [List.flatMap_eq_nil_iff]
  intro call member
  have isReleased := released call member
  simp only [holdsSender, Bool.not_eq_false', decide_eq_true_eq]
    at isReleased
  rw [owed, if_pos isReleased.1]

/-- A loop that has returned has written a line for each value on the queue,
with one reply for each line that is due one. -/
theorem serve_loop_answers
    (escapes : ∀ value, '\n' ∉ (json.toText value).toList)
    {lines : List String} {trace : List McpAction}
    (run : Machine.Run (step json parseFailure) Machine.free (start lines)
      trace state)
    (returned : state.pc = .returned) :
    ∃ values : List Value,
      state.output.toList.splitOn '\n' =
          values.map (fun value => (json.toText value).toList) ++ [[]] ∧
        (values.filterMap replyKey).Perm
          (lines.filterMap (expectedReply json)) := by
  have flushed : Flushed json state :=
    run.invariant (Flushed json)
      ⟨Nat.le_refl 0, rfl, fun notReading => absurd rfl notReading,
        fun isReturned => by cases isReturned⟩
      fun _ _ _ holds _ taken => flushed_step holds (step_steps taken)
  obtain ⟨seen, whole, balance⟩ : Balanced json lines state :=
    run.invariant (Balanced json lines) ⟨[], rfl, List.Perm.refl _⟩
      fun _ _ _ holds _ taken => balanced_step holds (step_steps taken)
  obtain ⟨written, released⟩ := flushed.finished returned
  refine ⟨state.queue.map Entry.value, ?_, ?_⟩
  · have isOutput := flushed.output
    rw [written, List.take_length] at isOutput
    rw [← splitOn_lines escapes, isOutput, List.map_map]
    rfl
  · have allSeen : seen = lines := by
      rw [whole, flushed.closed (by rw [returned]; nofun), List.append_nil]
    rw [not_owed_of_released released, List.append_nil, allSeen] at balance
    rw [List.filterMap_map]
    exact balance

/-! ## A run -/

theorem toText_ofTable (table : List (Value × String)) (value : Value) :
    (SerdeJson.ofTable table).toText value = "null" ∨
      ∃ row, row ∈ table ∧ (SerdeJson.ofTable table).toText value = row.2 := by
  simp only [SerdeJson.ofTable]
  cases found : table.find? fun row => row.1 = value with
  | none => exact .inl rfl
  | some row => exact .inr ⟨row, List.mem_of_find?_eq_some found, rfl⟩

theorem escapes_ofTable
    {table : List (Value × String)}
    (plain : ∀ row, row ∈ table →
      (row.2.toList.all fun char => 32 ≤ char.toNat) = true)
    (value : Value) :
    '\n' ∉ ((SerdeJson.ofTable table).toText value).toList := by
  intro member
  rcases toText_ofTable table value with isNull | ⟨row, inTable, isText⟩
  · rw [isNull] at member
    revert member
    decide
  · rw [isText] at member
    have isControl := List.all_eq_true.mp (plain row inTable) '\n' member
    revert isControl
    decide

def emptyCall : Value :=
  .object
    [("id", .number (.int 8)), ("method", .string "tools/call"),
      ("params", .object [("name", .string "a2a_send")])]

def emptyCallText : String :=
  "\x7b\"id\":8,\"method\":\"tools/call\",\"params\":" ++
    "\x7b\"name\":\"a2a_send\"\x7d\x7d"

def notStruct : String :=
  "invalid type: null, expected struct A2aSendArgs"

def notKey : String :=
  "key must be a string at line 1 column 2"

/-- What the loop reads and writes below. -/
def emptyCallTable : List (Value × String) :=
  [(emptyCall, emptyCallText),
    (parseErrorResponse notKey,
      "\x7b\"error\":\x7b\"code\":-32700,\"message\":\"parse error: " ++
        notKey ++ "\"\x7d,\"id\":null,\"jsonrpc\":\"2.0\"\x7d"),
    (toolResponse emptyCall (invalidParamsMarker notStruct),
      "\x7b\"error\":\x7b\"code\":-32602,\"message\":\"invalid " ++
        "a2a_send arguments: " ++ notStruct ++
          "\"\x7d,\"id\":8,\"jsonrpc\":\"2.0\"\x7d")]

def emptyCallJson : SerdeJson :=
  { SerdeJson.ofTable emptyCallTable with rejection := fun _ => notStruct }

theorem empty_call_is_answered :
    ∃ state : McpLoop,
      state.pc = .returned ∧
        ∃ values : List Value,
          state.output.toList.splitOn '\n' =
              values.map (fun value =>
                (emptyCallJson.toText value).toList) ++ [[]] ∧
            (values.filterMap replyKey).Perm
              ([emptyCallText, "", "\x7bbad"].filterMap
                (expectedReply emptyCallJson)) := by
  have finished :
      (Machine.exec (step emptyCallJson fun _ => notKey)
        [.read, .read, .read, .read, .call 0 .register, .write,
          .call 0 .reply, .write, .finish]
        (start [emptyCallText, "", "\x7bbad"])).map McpLoop.pc =
          some .returned := by
    decide +kernel
  have escapes : ∀ value, '\n' ∉ (emptyCallJson.toText value).toList := by
    refine @escapes_ofTable emptyCallTable ?_
    intro row member
    simp only [emptyCallTable, List.mem_cons, List.not_mem_nil, or_false]
      at member
    rcases member with rfl | rfl | rfl
    · exact escapes_append rfl rfl
    · exact escapes_append (escapes_append rfl rfl) rfl
    · exact escapes_append
        (escapes_append (escapes_append rfl rfl) rfl) rfl
  obtain ⟨state, executed, returned⟩ := Option.map_eq_some_iff.mp finished
  exact ⟨state, returned,
    serve_loop_answers escapes (Machine.run_of_exec executed) returned⟩

end McpServer

end A2AShim
