import A2AShim.Client.HostCancel

/-!
# Progress before the response

The token of a heartbeat stops its task only in the select.  A heartbeat that
has left the select sends one more frame, whatever the call does meanwhile.
-/

namespace A2AShim

namespace McpServer

variable {json : SerdeJson} {parseFailure : String → String}
variable {call after : CallTask} {callStep : CallStep} {effect : CallEffect}
variable {state target : McpLoop} {action : McpAction}

/-- No progress frame of the call follows its response. -/
def QuietAfterResponse (index : Nat) (queue : List Entry) : Prop :=
  queue.Pairwise fun earlier later =>
    earlier.origin = .response index → later.origin ≠ .progress index

/-- The progress of the frames of the call increases. -/
def ProgressIncreases (index : Nat) (queue : List Entry) : Prop :=
  queue.Pairwise fun earlier later =>
    earlier.origin = .progress index → later.origin = .progress index →
      ∃ first second, Heartbeat.progressOf earlier.value = some first ∧
        Heartbeat.progressOf later.value = some second ∧ first < second

/-- The heartbeat is not between its select and the queue. -/
def isResting : BeatPc → Bool
  | .woken => false
  | .composed _ _ => false
  | _ => true

/-- The call does not respond while its heartbeat is between the select and
the queue, the heartbeat does not wake after the response, and its counter
does not overflow. -/
def beatsInTime (call : CallTask) : CallStep → Bool
  | .reply => isResting call.beat
  | .wake => call.pc ≠ .done
  | .compose => call.heartbeat.progress < 2 ^ 63 - 1
  | _ => true

def BeatsInTime (state : McpLoop) (action : McpAction) : Prop :=
  ∀ index callStep call, action = .call index callStep →
    state.calls[index]? = some call → beatsInTime call callStep = true

/-! ## One call -/

/-- What the order of the frames depends on. -/
structure BeatView where
  pc : CallPc
  beat : BeatPc
  progress : Int

def viewOf (call : CallTask) : BeatView :=
  { pc := call.pc, beat := call.beat, progress := call.heartbeat.progress }

/-- The value is less than that of the frame to be sent. -/
def BeatView.Allows (view : BeatView) (value : Int) : Prop :=
  value ≤ view.progress ∧
    ∀ progress message, view.beat = .composed progress message →
      value < progress

def BeatView.Answered (view : BeatView) : Prop :=
  view.pc = .done ∧ isResting view.beat = true

structure BeatView.Counts (view : BeatView) : Prop where
  notNegative : 0 ≤ view.progress
  composed : ∀ progress message, view.beat = .composed progress message →
    progress = view.progress

/-- The queue and the call agree on what the call has sent. -/
structure Ordered (index : Nat) (queue : List Entry)
    (view : Option BeatView) : Prop where
  sent : ∀ entry, entry ∈ queue → entry.origin = .progress index →
    ∃ found value, view = some found ∧
      Heartbeat.progressOf entry.value = some value ∧ found.Allows value
  answered : ∀ entry, entry ∈ queue → entry.origin = .response index →
    ∃ found, view = some found ∧ found.Answered
  counts : ∀ found, view = some found → found.Counts
  quiet : QuietAfterResponse index queue
  increases : ProgressIncreases index queue

variable {index : Nat} {queue : List Entry} {view next : BeatView}

theorem pairwise_snoc
    {relation : Entry → Entry → Prop} {last : Entry}
    (pairwise : queue.Pairwise relation)
    (related : ∀ earlier, earlier ∈ queue → relation earlier last) :
    (queue ++ [last]).Pairwise relation := by
  refine List.pairwise_append.mpr
    ⟨pairwise, List.pairwise_singleton _ _, ?_⟩
  intro earlier member later isLast
  rw [List.mem_singleton.mp isLast]
  exact related earlier member

/-- The call moves and sends nothing. -/
theorem Ordered.move
    (ordered : Ordered index queue (some view))
    (allows : ∀ value, view.Allows value → next.Allows value)
    (answered : view.Answered → next.Answered)
    (counts : next.Counts) :
    Ordered index queue (some next) := by
  refine ⟨?_, ?_, ?_, ordered.quiet, ordered.increases⟩
  · intro entry member isProgress
    obtain ⟨found, value, isView, isValue, allowed⟩ :=
      ordered.sent entry member isProgress
    cases isView
    exact ⟨next, value, rfl, isValue, allows value allowed⟩
  · intro entry member isResponse
    obtain ⟨found, isView, wasAnswered⟩ :=
      ordered.answered entry member isResponse
    cases isView
    exact ⟨next, rfl, answered wasAnswered⟩
  · intro found isView
    cases isView
    exact counts

/-- Somebody else sends. -/
theorem Ordered.append_other
    {found : Option BeatView} (ordered : Ordered index queue found)
    {entry : Entry} (notProgress : entry.origin ≠ .progress index)
    (notResponse : entry.origin ≠ .response index) :
    Ordered index (queue ++ [entry]) found := by
  refine ⟨?_, ?_, ordered.counts, ?_, ?_⟩
  · intro tested member isProgress
    rcases List.mem_append.mp member with old | new
    · exact ordered.sent tested old isProgress
    · cases List.mem_singleton.mp new
      exact absurd isProgress notProgress
  · intro tested member isResponse
    rcases List.mem_append.mp member with old | new
    · exact ordered.answered tested old isResponse
    · cases List.mem_singleton.mp new
      exact absurd isResponse notResponse
  · exact pairwise_snoc ordered.quiet fun _ _ _ => notProgress
  · exact pairwise_snoc ordered.increases fun _ _ _ isProgress =>
      absurd isProgress notProgress

/-- The call responds while its heartbeat rests. -/
theorem Ordered.respond
    (ordered : Ordered index queue (some view))
    (resting : isResting view.beat = true) (value : Value) :
    Ordered index (queue ++ [⟨value, .response index⟩])
      (some { view with pc := .done }) := by
  refine ⟨?_, ?_, ?_, ?_, ?_⟩
  · intro tested member isProgress
    rcases List.mem_append.mp member with old | new
    · obtain ⟨found, progress, isView, isValue, allowed⟩ :=
        ordered.sent tested old isProgress
      cases isView
      exact ⟨_, progress, rfl, isValue, allowed⟩
    · cases List.mem_singleton.mp new
      cases isProgress
  · intro tested _ _
    exact ⟨_, rfl, rfl, resting⟩
  · intro found isView
    cases isView
    have counts := ordered.counts view rfl
    exact ⟨counts.notNegative, counts.composed⟩
  · exact pairwise_snoc ordered.quiet fun _ _ _ => nofun
  · exact pairwise_snoc ordered.increases fun _ _ _ => nofun

/-- The heartbeat sends what it has composed; the call has not responded. -/
theorem Ordered.beat
    (ordered : Ordered index queue (some view)) {progress : Int}
    {message : Value} (composed : view.beat = .composed progress message)
    (token : Value) :
    Ordered index
      (queue ++
        [⟨Heartbeat.frame token progress message, .progress index⟩])
      (some { view with beat := .sleeping }) := by
  have counts := ordered.counts view rfl
  have isProgress := counts.composed progress message composed
  have notAnswered : ¬ view.Answered := by
    intro answered
    have resting := answered.2
    rw [composed] at resting
    cases resting
  refine ⟨?_, ?_, ?_, ?_, ?_⟩
  · intro tested member isSent
    rcases List.mem_append.mp member with old | new
    · obtain ⟨found, value, isView, isValue, allowed⟩ :=
        ordered.sent tested old isSent
      cases isView
      exact ⟨_, value, rfl, isValue, allowed.1, nofun⟩
    · cases List.mem_singleton.mp new
      exact ⟨_, progress, rfl, Heartbeat.progressOf_frame _ _ _,
        le_of_eq isProgress, nofun⟩
  · intro tested member isResponse
    rcases List.mem_append.mp member with old | new
    · obtain ⟨found, isView, answered⟩ :=
        ordered.answered tested old isResponse
      cases isView
      exact absurd answered notAnswered
    · cases List.mem_singleton.mp new
      cases isResponse
  · intro found isView
    cases isView
    exact ⟨counts.notNegative, nofun⟩
  · refine pairwise_snoc ordered.quiet ?_
    intro earlier member isResponse
    obtain ⟨found, isView, answered⟩ :=
      ordered.answered earlier member isResponse
    cases isView
    exact absurd answered notAnswered
  · refine pairwise_snoc ordered.increases ?_
    intro earlier member wasSent _
    obtain ⟨found, value, isView, isValue, allowed⟩ :=
      ordered.sent earlier member wasSent
    cases isView
    exact ⟨value, progress, isValue, Heartbeat.progressOf_frame _ _ _,
      allowed.2 progress message composed⟩

theorem appendParts_progress
    (heartbeat : Heartbeat)
    (item : Option (Except OutboundError SseEvent)) :
    (CallHandler.appendParts heartbeat item).progress =
      heartbeat.progress := by
  unfold CallHandler.appendParts
  split
  · rename_i inner
    generalize inner.artifact.parts = parts
    induction parts generalizing heartbeat with
    | nil => rfl
    | cons part others inductionHypothesis =>
        rw [List.foldl_cons, inductionHypothesis]
        split <;> rfl
  · rfl

/-- A call that moves before its response changes no frame. -/
theorem Ordered.proceed
    (ordered : Ordered index queue (some view))
    (notDone : view.pc ≠ .done) (pc : CallPc) :
    Ordered index queue (some { view with pc }) :=
  ordered.move (fun _ allowed => allowed)
    (fun answered => absurd answered.1 notDone)
    ⟨(ordered.counts view rfl).notNegative,
      (ordered.counts view rfl).composed⟩

theorem Moves.ordered
    (moves : Moves json call callStep after effect)
    (inTime : beatsInTime call callStep = true)
    (ordered : Ordered index queue (some (viewOf call))) :
    Ordered index (queue ++ added index effect) (some (viewOf after)) := by
  have counts := ordered.counts (viewOf call) rfl
  cases moves with
  | refuse result place =>
      rw [added, List.append_nil]
      exact ordered.proceed (by rw [viewOf, place]; nofun) _
  | register args place =>
      rw [added, List.append_nil]
      exact ordered.proceed (by rw [viewOf, place]; nofun) _
  | startHeartbeat args beat place isBeat =>
      rw [added, List.append_nil]
      refine ordered.move (fun value allowed => ⟨allowed.1, ?_⟩) ?_
        ⟨counts.notNegative, ?_⟩
      · rcases isBeat with rfl | rfl <;> nofun
      · intro answered
        have isDone : call.pc = .done := answered.1
        rw [place] at isDone
        cases isDone
      · rcases isBeat with rfl | rfl <;> nofun
  | unopened args error result place =>
      rw [added, List.append_nil]
      exact ordered.proceed (by rw [viewOf, place]; nofun) _
  | opened args task place =>
      rw [added, List.append_nil]
      exact ordered.proceed (by rw [viewOf, place]; nofun) _
  | driven item task updated place =>
      rw [added, List.append_nil, viewOf, appendParts_progress]
      exact ordered.proceed (by rw [viewOf, place]; nofun) _
  | drained item task result place =>
      rw [added, List.append_nil, viewOf, appendParts_progress]
      exact ordered.proceed (by rw [viewOf, place]; nofun) _
  | hostCancelled task place _ =>
      rw [added, List.append_nil]
      exact ordered.proceed (by rw [viewOf, place]; nofun) _
  | dropHeartbeat result place =>
      rw [added, List.append_nil]
      exact ordered.proceed (by rw [viewOf, place]; nofun) _
  | unregister result place =>
      rw [added, List.append_nil]
      exact ordered.proceed (by rw [viewOf, place]; nofun) _
  | reply result place => exact ordered.respond inTime _
  | wake place =>
      rw [added, List.append_nil]
      have notDone : call.pc ≠ .done := of_decide_eq_true inTime
      exact ordered.move (fun _ allowed => ⟨allowed.1, nofun⟩)
        (fun answered => absurd answered.1 notDone)
        ⟨counts.notNegative, nofun⟩
  | compose place =>
      rw [added, List.append_nil]
      have grows : call.heartbeat.progress <
          Heartbeat.nextProgress call.heartbeat.progress := by
        have notNegative : 0 ≤ call.heartbeat.progress := counts.notNegative
        rw [Heartbeat.nextProgress_of_lt notNegative (of_decide_eq_true inTime)]
        exact Int.lt_succ _
      refine ordered.move ?_ ?_ ⟨?_, ?_⟩
      · intro value allowed
        have bounded : value ≤ call.heartbeat.progress := allowed.1
        refine ⟨le_of_lt (lt_of_le_of_lt bounded grows), ?_⟩
        intro progress message isComposed
        cases isComposed
        exact lt_of_le_of_lt bounded grows
      · intro answered
        have resting : isResting call.beat = true := answered.2
        rw [place] at resting
        cases resting
      · exact le_of_lt (lt_of_le_of_lt counts.notNegative grows)
      · intro progress message isComposed
        cases isComposed
        rfl
  | sendFrame progress message token place => exact ordered.beat place token
  | endHeartbeat place =>
      rw [added, List.append_nil]
      exact ordered.move (fun _ allowed => ⟨allowed.1, nofun⟩)
        (fun answered => ⟨answered.1, rfl⟩) ⟨counts.notNegative, nofun⟩

/-! ## Runs -/

def OrderedAt (index : Nat) (state : McpLoop) : Prop :=
  Ordered index state.queue ((state.calls[index]?).map viewOf)

/-- A call that has just been spawned has put nothing on the queue. -/
theorem ordered_spawn
    {index : Nat} {request : Value} (ordered : OrderedAt index state) :
    Ordered index state.queue
      (((state.calls ++ [spawn request])[index]?).map viewOf) := by
  by_cases inside : index < state.calls.length
  · have same : (state.calls ++ [spawn request])[index]? =
        state.calls[index]? :=
      List.getElem?_append_left inside
    rw [same]
    exact ordered
  · have absent : state.calls[index]? = none :=
      List.getElem?_eq_none (Nat.le_of_not_lt inside)
    rw [OrderedAt, absent] at ordered
    refine ⟨?_, ?_, ?_, ordered.quiet, ordered.increases⟩
    · intro entry member isProgress
      obtain ⟨found, _, isView, _⟩ := ordered.sent entry member isProgress
      cases isView
    · intro entry member isResponse
      obtain ⟨found, isView, _⟩ := ordered.answered entry member isResponse
      cases isView
    · intro found isView
      obtain ⟨call, inCalls, rfl⟩ := Option.map_eq_some_iff.mp isView
      have last : (state.calls ++ [spawn request])[index]? = some call :=
        inCalls
      rw [List.getElem?_append_right (Nat.le_of_not_lt inside)] at last
      have isNew := List.mem_of_getElem? last
      rw [List.mem_singleton.mp isNew]
      exact ⟨le_refl 0, nofun⟩

theorem ordered_step
    (index : Nat) (ordered : OrderedAt index state)
    (inTime : BeatsInTime state action)
    (taken : Steps json state action target) : OrderedAt index target := by
  cases taken with
  | cancel first rest id _ _ _ _ =>
      obtain ⟨_, _, queue, _⟩ :=
        cancel_frame (json.toText id) { state with input := rest }
      have sameView :
          ((cancel (json.toText id)
            { state with input := rest }).calls[index]?).map viewOf =
              (state.calls[index]?).map viewOf := by
        rw [getElem?_cancel, Option.map_map]
        congr 1
        funext call
        simp only [Function.comp]
        split <;> rfl
      rw [OrderedAt, queue, sameView]
      exact ordered
  | answer first rest value _ _ _ _ =>
      exact Ordered.append_other ordered nofun nofun
  | spawn first rest request _ _ _ _ _ => exact ordered_spawn ordered
  | call moved callStep call after effect found moves =>
      rw [OrderedAt, queue_perform, perform_calls]
      by_cases same : moved = index
      · subst same
        obtain ⟨inside, _⟩ := List.getElem?_eq_some_iff.mp found
        rw [OrderedAt, found] at ordered
        have set : (state.calls.set moved after)[moved]? = some after :=
          List.getElem?_set_self inside
        simp only [set]
        exact moves.ordered (inTime moved callStep call rfl found) ordered
      · have kept : (state.calls.set moved after)[index]? =
            state.calls[index]? :=
          List.getElem?_set_ne same
        simp only [kept]
        cases effect with
        | response value =>
            exact Ordered.append_other ordered nofun (by simpa using same)
        | progress value =>
            exact Ordered.append_other ordered (by simpa using same) nofun
        | _ =>
            rw [added, List.append_nil]
            exact ordered
  | _ => exact ordered

/-- In a run whose heartbeats are in time, the response of a call comes after
its progress, and the progress increases. -/
theorem progress_precedes_response
    {lines : List String} {trace : List McpAction}
    (run : Machine.Run (step json parseFailure) BeatsInTime (start lines)
      trace state)
    (index : Nat) :
    QuietAfterResponse index state.queue ∧
      ProgressIncreases index state.queue := by
  have ordered : OrderedAt index state := by
    refine run.invariant (OrderedAt index) ?_ ?_
    · refine ⟨?_, ?_, ?_, List.Pairwise.nil, List.Pairwise.nil⟩
      · intro entry member
        cases member
      · intro entry member
        cases member
      · intro found isView
        cases isView
    · intro source action next holds permitted taken
      exact ordered_step index holds permitted (step_steps taken)
  exact ⟨ordered.quiet, ordered.increases⟩

/-! ## A heartbeat that is late -/

def sendSteps : List McpAction :=
  [.read, .call 0 .register, .call 0 .startHeartbeat, .call 0 .wake,
    .call 0 .compose]

def respondSteps : List McpAction :=
  [.call 0 (.opened (some unsent)), .call 0 .dropHeartbeat,
    .call 0 .unregister, .call 0 .reply]

def allBeatInTime (state : McpLoop) : McpAction → Bool
  | .call index callStep =>
      (state.calls[index]?).all fun call => beatsInTime call callStep
  | _ => true

theorem beatsInTime_of_all
    (passed : allBeatInTime state action = true) :
    BeatsInTime state action := by
  intro index callStep call isSame found
  subst isSame
  simpa [allBeatInTime, found] using passed

theorem one_frame_precedes_response :
    ∃ state : McpLoop,
      state.queue.map Entry.origin = [.progress 0, .response 0] ∧
        QuietAfterResponse 0 state.queue ∧
          ProgressIncreases 0 state.queue := by
  have executes :
      ((Machine.execTested (step sendJson fun _ => "") allBeatInTime
        (sendSteps ++ [.call 0 .sendFrame] ++ respondSteps)
        (start [sendCallText])).map fun state =>
          state.queue.map Entry.origin) =
        some [.progress 0, .response 0] := by
    decide +kernel
  obtain ⟨state, executed, origins⟩ := Option.map_eq_some_iff.mp executes
  have run := Machine.run_of_execTested
    (fun _ _ passed => beatsInTime_of_all passed) executed
  exact ⟨state, origins, progress_precedes_response run 0⟩

/-- A frame that has been composed is sent after the response. -/
theorem late_frame_follows_response :
    ¬ ∀ json parseFailure lines trace (state : McpLoop),
        Machine.Run (step json parseFailure) Machine.free (start lines) trace
            state →
          ∀ index, QuietAfterResponse index state.queue ∧
            ProgressIncreases index state.queue := by
  intro claimed
  have executes :
      ((Machine.exec (step sendJson fun _ => "")
        (sendSteps ++ respondSteps ++ [.call 0 .sendFrame])
        (start [sendCallText])).map fun state =>
          state.queue.map Entry.origin) =
        some [.response 0, .progress 0] := by
    decide +kernel
  obtain ⟨state, executed, origins⟩ := Option.map_eq_some_iff.mp executes
  have quiet := (claimed sendJson (fun _ => "") _ _ state
    (Machine.run_of_exec executed) 0).1
  have mapped : (state.queue.map Entry.origin).Pairwise fun earlier later =>
      earlier = .response 0 → later ≠ .progress 0 :=
    List.pairwise_map.mpr quiet
  rw [origins] at mapped
  revert mapped
  decide

end McpServer

end A2AShim
