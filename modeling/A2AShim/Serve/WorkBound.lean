import A2AShim.Lib.Progress
import A2AShim.Serve.Waiting

/-!
# How much work a request is

Each position of a thread has a rank, and each step of the thread lowers it,
but for the poll that brings a new item.  An item costs as many steps as it
has parts to store, twice, and a few more.  So what a request does is bounded
by what the agent sends it, however the other requests come between.
-/

namespace A2AShim

namespace Bridge

/-- The steps a call has left from here if its stream ends at once; nothing
for the positions at which it holds an item. -/
def Pc.restRank : Pc → Nat
  | .start => 6
  | .next => 5
  | .answer parts => 6 + 2 * parts.length
  | .publishArtifact _ _ rest => 7 + 2 * rest.length
  | .finish _ => 4
  | .recordFinal _ => 3
  | .publishFinal _ => 2
  | .returned _ => 1
  | .markWorking _ | .recordWorking _ | .publishWorking _ => 0

/-- The steps an item costs, those of a chunk growing with its parts. -/
def itemCost (json : SerdeJson) (item : StreamItem) : Nat :=
  (onItem json item).restRank

def Pc.rank (json : SerdeJson) : Pc → Nat
  | .markWorking item => itemCost json item + 3
  | .recordWorking item => itemCost json item + 2
  | .publishWorking item => itemCost json item + 1
  | pc => pc.restRank

variable {json : SerdeJson} {call next : Call}
variable {registry updated : TaskRegistry}

theorem onItem_rank (item : StreamItem) :
    (onItem json item).rank json = itemCost json item := by
  rcases item with error | update | reason
  · rfl
  · cases update <;> rfl
  · rfl

theorem work_rank
    (taken : call.work json registry = some (next, updated)) :
    next.pc.rank json + 1 ≤ call.pc.rank json := by
  cases work_works taken with
  | lost atPc | starts _ atPc | recordsWorking _ atPc | answered atPc
  | recordsFinal _ atPc | publishesFinal _ atPc | undecided _ _ atPc
  | decides _ _ atPc | marks _ _ atPc | unmarked _ _ atPc =>
      rw [atPc]
      simp [Pc.rank, Pc.restRank]
  | publishesWorking item atPc =>
      rw [atPc]
      simp only [onItem_rank]
      simp [Pc.rank]
  | unanswered part rest error atPc
  | upserts part rest binding artifacts atPc =>
      rw [atPc]
      simp only [Pc.rank, Pc.restRank, List.length_cons]
      omega
  | publishesArtifact part append rest atPc =>
      rw [atPc]
      simp only [Pc.rank, Pc.restRank]
      omega

variable (json) in
theorem polled_rank
    (atNext : call.pc = .next) (polled : Option StreamItem) :
    (call.polled json polled).pc.rank json + 1 ≤
      call.pc.rank json + (polled.map (itemCost json)).getD 0 := by
  rw [atNext]
  cases polled with
  | none => simp [Call.polled, Pc.rank, Pc.restRank]
  | some item =>
      have costs : ((some item).map (itemCost json)).getD 0 =
          itemCost json item := rfl
      have atNextRank : Pc.rank json .next = 5 := rfl
      rw [costs, atNextRank]
      unfold Call.polled
      by_cases seen : call.firstSeen = true
      · simp only [if_pos seen, onItem_rank]
        omega
      · have marking : Pc.rank json (.markWorking item) =
            itemCost json item + 3 := rfl
        simp only [if_neg seen, marking]
        omega

end Bridge

namespace AcpClient

/-- What the items that the reader of a stream has got have cost it. -/
def readCost (json : SerdeJson) (client : AcpClient) (sink : PromptId) : Nat :=
  ((client.streams sink).map fun stream =>
    (stream.yielded.map (Bridge.itemCost json)).sum).getD 0

variable {json : SerdeJson} {client target : AcpClient} {sink : PromptId}

theorem readCost_of_found
    {stream : PromptStream} (found : client.streams sink = some stream) :
    client.readCost json sink =
      (stream.yielded.map (Bridge.itemCost json)).sum := by
  rw [readCost, found]
  rfl

theorem readCost_congr
    (same : target.streams sink = client.streams sink) :
    target.readCost json sink = client.readCost json sink := by
  rw [readCost, same]
  rfl

variable (json) in
/-- The reader gets the next item. -/
theorem readCost_take
    {stream : PromptStream} {item : StreamItem}
    (found : client.streams sink = some stream)
    (isNext : stream.items[stream.taken]? = some item)
    (taken : client.take sink = some target) :
    target.readCost json sink =
      client.readCost json sink + Bridge.itemCost json item := by
  obtain ⟨other, isOther, _, _, rfl⟩ := take_some taken
  rw [found] at isOther
  cases isOther
  rw [readCost_of_found (putStream_self _ _ _), readCost_of_found found]
  simp only [PromptStream.yielded]
  rw [List.take_add_one, isNext]
  simp

theorem readCost_putStream
    {changed : PromptId} {before stream : PromptStream}
    (found : client.streams changed = some before)
    (more : before.yielded <+: stream.yielded)
    (put : target.streams = (client.putStream changed stream).streams) :
    client.readCost json sink ≤ target.readCost json sink := by
  by_cases same : sink = changed
  · subst same
    have isNow : target.streams sink = some stream := by
      rw [put, putStream_self]
    rw [readCost_of_found found, readCost_of_found isNow]
    obtain ⟨rest, isRest⟩ := more
    rw [← isRest, List.map_append, List.sum_append]
    omega
  · have unchanged : target.streams sink = client.streams sink := by
      rw [put, putStream_other same]
    rw [readCost_congr unchanged]

theorem readCost_send
    {channel : PromptId} {item : StreamItem}
    (sent : target.streams = (client.send channel item).streams) :
    client.readCost json sink ≤ target.readCost json sink := by
  cases found : client.streams channel with
  | none =>
      have unchanged : target.streams sink = client.streams sink := by
        rw [sent, send, found]
      rw [readCost_congr unchanged]
  | some stream =>
      refine readCost_putStream found ?_
        (sent.trans (by rw [send, found]))
      exact (List.prefix_append stream.items [item]).take stream.taken

/-- Nobody takes an item back. -/
theorem readCost_of_step
    {action : Action} (taken : step action client = some target) :
    client.readCost json sink ≤ target.readCost json sink := by
  cases action with
  | registerRoute started session content =>
      obtain ⟨fresh, rfl⟩ := registerRoute_some taken
      by_cases same : sink = started
      · subst same
        simp [readCost, fresh]
      · exact Nat.le_of_eq (readCost_congr (putStream_other same)).symm
  | sendPrompt called =>
      obtain ⟨stream, found, _, ⟨_, rfl⟩ | ⟨_, rfl⟩⟩ := sendPrompt_some taken
      · refine readCost_putStream found ?_ rfl
        exact List.prefix_rfl
      · refine readCost_putStream found ?_ rfl
        exact List.prefix_rfl
  | submit command =>
      obtain ⟨_, ⟨_, rfl⟩ | ⟨_, rfl⟩⟩ := submit_some taken
      · exact Nat.le_refl _
      · exact Nat.le_refl _
  | receive =>
      obtain ⟨_, _, _, _, ⟨_, _, _, rfl⟩ | ⟨_, rfl⟩⟩ := receive_some taken
      · exact Nat.le_refl _
      · exact Nat.le_refl _
  | answer answer =>
      obtain ⟨_, _, _, _, ⟨_, _, _, _, rfl⟩ | ⟨_, _, rfl⟩⟩ :=
        answered_some taken
      · exact Nat.le_refl _
      · exact Nat.le_refl _
  | sendTerminal =>
      obtain ⟨_, _, _, _, rfl⟩ := sendTerminal_some taken
      exact readCost_send rfl
  | clearRoute =>
      obtain ⟨_, _, _, rfl⟩ := clearRoute_some taken
      exact Nat.le_refl _
  | notify session update =>
      obtain ⟨_, _, rfl⟩ := notified_some taken
      exact Nat.le_refl _
  | deliver =>
      obtain ⟨_, _, _, rfl⟩ := deliver_some taken
      exact readCost_send rfl
  | take taker =>
      obtain ⟨stream, found, _, _, rfl⟩ := take_some taken
      refine readCost_putStream found ?_ rfl
      exact List.take_prefix_take_left (Nat.le_succ _)
  | stop =>
      obtain ⟨_, rfl⟩ := stop_some taken
      exact Nat.le_refl _

end AcpClient

/-! ## The ranks of threads -/

/-- The steps a handler has left if its stream ends at once. -/
def HandlerPc.rank (json : SerdeJson) : HandlerPc → Nat
  | .checkMode => 21
  | .lookUp => 20
  | .create => 19
  | .spawning => 18
  | .insertRow _ => 17
  | .findGuard _ => 16
  | .lockGuard _ _ => 15
  | .enter _ _ => 14
  | .record _ _ _ => 13
  | .dispatch _ _ _ => 12
  | .sendPrompt _ _ => 11
  | .fetchSink _ _ => 10
  | .bridging _ call => call.pc.rank json + 3
  | .snapshot _ _ => 2
  | .push _ _ => 1
  | .returned _ | .dropped => 0

def CancelPc.rank : CancelPc → Nat
  | .cancel => 5
  | .find => 4
  | .tell _ => 3
  | .await => 2
  | .snapshot => 1
  | .returned _ => 0

/-- A reset goes through one page of the list. -/
def ResetPc.rank : ResetPc → Nat
  | .lookUp => 1005
  | .list _ => 1004
  | .canceling _ targets _ => targets.length + 3
  | .await _ => 2
  | .remove _ => 1
  | .returned _ _ => 0

def Sweep.rank : Sweep → Nat
  | .scan => 2
  | .remove _ => 1
  | .done _ => 0

def Thread.rank (json : SerdeJson) : Thread → Nat
  | .prompt handler => handler.pc.rank json
  | .cancel canceling => canceling.pc.rank
  | .reset resetting => resetting.pc.rank
  | .sweep position => position.rank

section

variable {json : SerdeJson} {cfg : ServeConfig} {name : Nat} {env : Env}
variable {shared after : Shared}

theorem Handler.running_of_work
    {handler : Handler} {next : HandlerPc}
    (taken : handler.work json cfg name env shared = some (next, after)) :
    handler.pc.isOver = false := by
  cases atPc : handler.pc with
  | returned answer => simp [work, open_, atPc] at taken
  | dropped => simp [work, open_, atPc] at taken
  | _ => rfl

variable (json) in
/-- A step of a handler on the way to its guard. -/
theorem Handler.opening_rank
    {handler : Handler} {next : HandlerPc}
    (running : handler.pc.isOver = false)
    (opening : Opening cfg name env handler shared next after) :
    next.rank json + 1 ≤ handler.pc.rank json := by
  cases opening with
  | hits ref before =>
      rcases before with before | before <;> rw [before] <;>
        simp [HandlerPc.rank]
  | refuses error before =>
      rcases before with idle | ⟨_, _, before⟩
      · cases atPc : handler.pc <;> rw [atPc] at idle running <;>
          first | cases idle; done | cases running; done |
            simp [HandlerPc.rank]
      · rw [before]
        simp [HandlerPc.rank]
  | asks _ before | passes before | misses before | opens _ before
  | unopened _ before | records _ before | aims _ _ before
  | locks _ _ _ before =>
      rw [before]
      simp [HandlerPc.rank]

/-- A step of a handler that has its guard, other than a poll. -/
theorem Handler.guarded_rank
    {handler : Handler} {next : HandlerPc} {guarded : ConversationRef}
    (isGuarded : handler.pc.guard? = some guarded)
    (notPoll : ∀ held call, handler.pc = .bridging held call →
      call.pc ≠ .next)
    (moved : Moves json cfg name env handler shared next after) :
    next.rank json + 1 ≤ handler.pc.rank json := by
  have unguarded : ∀ {pc : HandlerPc}, handler.pc = pc →
      pc.guard? = none → False := by
    intro pc atPc noGuard
    rw [atPc, noGuard] at isGuarded
    cases isGuarded
  cases moved with
  | idles _ before =>
      rcases before with idle | ⟨_, _, atLock⟩
      · rw [isIdle_of_guard isGuarded] at idle
        cases idle
      · exact (unguarded atLock rfl).elim
  | touches ref session before =>
      rcases before with before | before
      · exact (unguarded before rfl).elim
      · exact (unguarded before rfl).elim
  | asks acp before => exact (unguarded before rfl).elim
  | opens session before => exact (unguarded before rfl).elim
  | unopened error before => exact (unguarded before rfl).elim
  | aims session found before => exact (unguarded before rfl).elim
  | locks session found locked before => exact (unguarded before rfl).elim
  | polls held call stream item acp before atNext =>
      exact absurd atNext (notPoll held call before)
  | ends held call before atNext =>
      exact absurd atNext (notPoll held call before)
  | bridges held call stepped tasks before worked =>
      rw [before]
      have lower := Bridge.work_rank worked
      simp only [HandlerPc.rank]
      omega
  | leaves held call result answer before atReturn
  | settles held call before atReturn =>
      rw [before]
      simp [HandlerPc.rank, atReturn, Bridge.Pc.rank, Bridge.Pc.restRank]
  | sends _ held taskId acp before isNext =>
      rw [before]
      rcases isNext with rfl | rfl <;>
        simp [HandlerPc.rank, Bridge.Call.begin, Bridge.Pc.rank,
          Bridge.Pc.restRank]
  | attaches held taskId before =>
      rw [before]
      simp [HandlerPc.rank, Bridge.Call.begin, Bridge.Pc.rank,
        Bridge.Pc.restRank]
  | refused _ _ _ before | resumes _ _ _ _ before | creates _ _ before
  | records _ _ _ before | tooLarge _ _ _ _ before | routes _ _ _ _ _ before
  | unsent _ _ _ _ before | unattached _ _ _ before | answers _ _ _ before
  | announces _ _ _ before | pushes _ _ _ before =>
      rw [before]
      simp [HandlerPc.rank]

theorem Handler.poll_rank
    {handler : Handler} {next : HandlerPc} {guarded : ConversationRef}
    {call : Bridge.Call}
    (bridging : handler.pc = .bridging guarded call)
    (atNext : call.pc = .next)
    (taken : handler.work json cfg name env shared = some (next, after)) :
    next.rank json + 1 + shared.acp.readCost json name ≤
      handler.pc.rank json + after.acp.readCost json name := by
  simp only [work, bridging, bridge, atNext] at taken
  obtain ⟨polled, isPolled, moved⟩ := Option.map_eq_some_iff.mp taken
  cases moved
  have lower := Bridge.polled_rank json atNext polled.1
  rw [bridging]
  simp only [HandlerPc.rank]
  rcases AcpClient.pollNext_some isPolled with
    ⟨stream, item, found, isNext, isItem, isTaken⟩ | ⟨_, isEnd⟩
  · have costs :=
      AcpClient.readCost_take json found isNext isTaken
    rw [isItem] at lower ⊢
    simp only [Option.map_some, Option.getD_some] at lower
    omega
  · rw [isEnd] at lower ⊢
    simp only [Option.map_none, Option.getD_none] at lower
    dsimp only
    omega

/-- A step of a handler, other than a poll. -/
theorem Handler.work_rank
    {handler : Handler} {next : HandlerPc}
    (notPoll : ∀ held call, handler.pc = .bridging held call →
      call.pc ≠ .next)
    (taken : handler.work json cfg name env shared = some (next, after)) :
    next.rank json + 1 ≤ handler.pc.rank json := by
  cases isGuarded : handler.pc.guard? with
  | none =>
      exact opening_rank json (running_of_work taken)
        (work_opening isGuarded taken)
  | some guarded => exact guarded_rank isGuarded notPoll (work_moves taken)

theorem Canceling.work_rank
    {canceling : Canceling} {next : CancelPc}
    (taken : canceling.work name shared = some (next, after)) :
    next.rank + 1 ≤ canceling.pc.rank := by
  unfold Canceling.work at taken
  cases atPc : canceling.pc with
  | tell session =>
      simp only [atPc] at taken
      obtain ⟨acp, _, moved⟩ := Option.map_eq_some_iff.mp taken
      cases moved
      simp [CancelPc.rank]
  | find =>
      simp only [atPc] at taken
      split at taken
      · cases taken
      · split at taken <;> cases taken <;> simp [CancelPc.rank]
  | returned answer => simp [atPc] at taken
  | cancel | await | snapshot =>
      simp only [atPc] at taken
      split at taken <;> cases taken <;> simp [CancelPc.rank]

theorem Resetting.targets_bounded (tasks : TaskRegistry) (key : String) :
    (targets tasks key).length ≤ 1000 := by
  unfold targets
  rw [List.length_map]
  refine (List.length_filter_le _ _).trans ?_
  have page : (tasks.list none 1000).1 =
      ((tasks.order.take (min (0 + 1000) tasks.order.length)).drop 0).filterMap
        tasks.snapshot := rfl
  rw [page]
  refine (List.length_filterMap_le _ _).trans ?_
  rw [List.length_drop, List.length_take]
  omega

theorem Resetting.work_rank
    {resetting : Resetting} {next : ResetPc}
    (taken : resetting.work name shared = some (next, after)) :
    next.rank + 1 ≤ resetting.pc.rank := by
  unfold Resetting.work at taken
  cases atPc : resetting.pc with
  | list session =>
      simp only [atPc] at taken
      cases taken
      have := targets_bounded shared.tasks resetting.key
      simp only [ResetPc.rank]
      omega
  | canceling session ids canceled =>
      cases ids with
      | cons id rest =>
          simp only [atPc] at taken
          split at taken
          · cases taken
            simp only [ResetPc.rank, List.length_cons]
            omega
          · cases taken
            simp only [ResetPc.rank, List.length_cons]
            omega
      | nil =>
          cases session with
          | none =>
              simp only [atPc] at taken
              cases taken
              simp [ResetPc.rank]
          | some session =>
              simp only [atPc] at taken
              obtain ⟨acp, _, moved⟩ := Option.map_eq_some_iff.mp taken
              cases moved
              simp [ResetPc.rank]
  | returned cleared canceled => simp [atPc] at taken
  | lookUp | await | remove =>
      simp only [atPc] at taken
      split at taken <;> cases taken
      simp [ResetPc.rank]

theorem Sweep.work_rank
    {sweep next : Sweep}
    (taken : sweep.work env shared = some (next, after)) :
    next.rank + 1 ≤ sweep.rank := by
  unfold Sweep.work at taken
  split at taken
  · cases taken
  · cases sweep with
    | scan =>
        simp only at taken
        split at taken <;> cases taken <;> simp [Sweep.rank]
    | remove keys =>
        cases taken
        simp [Sweep.rank]
    | done keys => cases taken

end

namespace Server

open Machine

variable {json : SerdeJson} {cfg : ServeConfig} {server target : Server}

/-- The thread's next step is to take an item. -/
def Polls (thread : Thread) : Prop :=
  ∃ handler held call, thread = .prompt handler ∧
    handler.pc = .bridging held call ∧ call.pc = .next

variable {name : Nat} {env : Env} {shared after : Shared}
variable {thread next : Thread}

/-- A step of a thread, other than a poll, lowers its rank. -/
theorem workThread_lowers
    (notPoll : ¬ Polls thread)
    (taken : workThread json cfg name env shared thread =
      some (next, after)) :
    next.rank json + 1 ≤ thread.rank json := by
  cases thread with
  | prompt handler =>
      obtain ⟨⟨pc, moved⟩, worked, stepped⟩ := Option.map_eq_some_iff.mp taken
      cases stepped
      refine Handler.work_rank ?_ worked
      intro held call bridging atNext
      exact notPoll ⟨handler, held, call, rfl, bridging, atNext⟩
  | cancel canceling =>
      obtain ⟨⟨pc, moved⟩, worked, stepped⟩ := Option.map_eq_some_iff.mp taken
      cases stepped
      exact Canceling.work_rank worked
  | reset resetting =>
      obtain ⟨⟨pc, moved⟩, worked, stepped⟩ := Option.map_eq_some_iff.mp taken
      cases stepped
      exact Resetting.work_rank worked
  | sweep position =>
      obtain ⟨⟨pc, moved⟩, worked, stepped⟩ := Option.map_eq_some_iff.mp taken
      cases stepped
      exact Sweep.work_rank worked

/-- A step of a thread lowers its rank, or brings it an item. -/
theorem workThread_rank
    (taken : workThread json cfg name env shared thread =
      some (next, after)) :
    next.rank json + 1 + shared.acp.readCost json name ≤
      thread.rank json + after.acp.readCost json name := by
  by_cases polls : Polls thread
  · obtain ⟨handler, held, call, rfl, bridging, atNext⟩ := polls
    obtain ⟨⟨pc, moved⟩, worked, stepped⟩ := Option.map_eq_some_iff.mp taken
    cases stepped
    exact Handler.poll_rank bridging atNext worked
  · have lower := workThread_lowers polls taken
    have costs : shared.acp.readCost json name ≤
        after.acp.readCost json name := by
      rcases workThread_calls taken with
        ⟨_, _, submitted⟩ | ⟨_, same | ⟨act, stepped, _⟩⟩
      · exact AcpClient.readCost_of_step submitted
      · rw [same]
      · exact AcpClient.readCost_of_step stepped
    omega

/-- A step of the thread of this name. -/
def isWorkOf (name : Nat) : Action → Bool
  | .work worker _ => worker == name
  | _ => false

/-- What a thread has been through: the items it has got, less the steps it
has left. -/
def workAccount (json : SerdeJson) (name : Nat) (server : Server) : Int :=
  server.shared.acp.readCost json name -
    ((server.threads name).map (Thread.rank json)).getD 0

theorem readCost_of_serverStep
    {action : Action} (name : Nat)
    (taken : step json cfg action server = some target) :
    server.shared.acp.readCost json name ≤
      target.shared.acp.readCost json name := by
  rcases acp_of_step taken with same | ⟨act, stepped, _⟩
  · rw [same]
  · exact AcpClient.readCost_of_step stepped

/-- A thread stays as it is while others step, but for being dropped. -/
theorem thread_of_other
    {action : Action} {name : Nat} {thread : Thread}
    (found : server.threads name = some thread)
    (notOwn : isWorkOf name action = false)
    (taken : step json cfg action server = some target) :
    ∃ later, target.threads name = some later ∧
      later.rank json ≤ thread.rank json := by
  have kept : ∀ {other : Nat} {next : Thread}, other ≠ name →
      target.threads = server.threads.put other next →
        ∃ later, target.threads name = some later ∧
          later.rank json ≤ thread.rank json := by
    intro other next different threads
    rw [threads, Pool.put_other different.symm]
    exact ⟨thread, found, Nat.le_refl _⟩
  have different : ∀ other, server.threads other = none → other ≠ name := by
    intro other free same
    rw [same, found] at free
    cases free
  cases step_steps taken with
  | keeps | configures | agent => exact ⟨thread, found, Nat.le_refl _⟩
  | spawns _ other next free isNew => exact kept (different other free) rfl
  | prompts other env handler next after isOther moved =>
      exact kept (by simpa [isWorkOf] using notOwn) rfl
  | works other env before next after isOther noHandler affected =>
      exact kept (by simpa [isWorkOf] using notOwn) rfl
  | drops other handler isOther _ _ =>
      by_cases same : other = name
      · subst same
        exact ⟨_, Pool.put_self _ _ _, Nat.zero_le _⟩
      · exact kept same rfl

/-- One step, and what it adds to the account of a thread. -/
theorem workAccount_of_step
    {action : Action} {name : Nat} {thread : Thread}
    (found : server.threads name = some thread)
    (taken : step json cfg action server = some target) :
    (∃ later, target.threads name = some later) ∧
      workAccount json name server +
          (if isWorkOf name action then 1 else 0) ≤
        workAccount json name target := by
  by_cases own : isWorkOf name action = true
  · cases action with
    | work worker env =>
        have same : worker = name := by simpa [isWorkOf] using own
        subst same
        simp only [step, found, Option.bind_some] at taken
        obtain ⟨⟨next, after⟩, worked, rfl⟩ := Option.map_eq_some_iff.mp taken
        have lower := workThread_rank worked
        refine ⟨⟨next, Pool.put_self _ _ _⟩, ?_⟩
        simp only [workAccount, found, Pool.put_self, Option.map_some,
          Option.getD_some, own, if_true]
        omega
    | _ => cases own
  · have notOwn : isWorkOf name action = false := by simpa using own
    obtain ⟨later, foundLater, lower⟩ := thread_of_other found notOwn taken
    have costs := readCost_of_serverStep name taken
    refine ⟨⟨later, foundLater⟩, ?_⟩
    simp only [workAccount, found, foundLater, Option.map_some,
      Option.getD_some, notOwn]
    simp only [Bool.false_eq_true, if_false]
    omega

/-- However the others come between, a thread takes no more steps than its
rank and the items it gets on the way allow. -/
theorem request_work_bounded
    {rest : List Action} {name : Nat} {thread : Thread}
    (found : server.threads name = some thread)
    (run : Run (step json cfg) free server rest target) :
    rest.countP (isWorkOf name) + server.shared.acp.readCost json name ≤
      thread.rank json + target.shared.acp.readCost json name := by
  have counted :=
    run.count_le (fun server => ∃ thread, server.threads name = some thread)
      (isWorkOf name) (workAccount json name) ⟨thread, found⟩
      (fun _ _ _ before _ taken => by
        obtain ⟨_, foundBefore⟩ := before
        exact (workAccount_of_step foundBefore taken).1)
      (fun _ _ _ before _ taken => by
        obtain ⟨_, foundBefore⟩ := before
        exact (workAccount_of_step foundBefore taken).2)
  simp only [workAccount, found, Option.map_some, Option.getD_some] at counted
  omega

/-- A whole `SendMessage` with one chunk of one part. -/
theorem answered_request_work :
    ∃ rest server later thread,
      exec (step .constant plainConfig) [.request 0 .send plainParams none]
          (start 10 60 0 []) = some server ∧
        server.threads 0 = some thread ∧ thread.rank .constant = 21 ∧
          exec (step .constant plainConfig) rest server = some later ∧
            rest.countP (isWorkOf 0) = 26 ∧
              26 ≤ 21 + later.shared.acp.readCost .constant 0 := by
  let work : Action := .work 0 { now := 0, taskId := ⟨"t"⟩ }
  let rest : List Action :=
    [work, work, work, .acp .receive, .acp (.answer (.session "s")), work,
      work, work, work, work, work, work, work, .acp .receive,
      .acp (.notify "s" (.agentMessageChunk (.text "hi"))), .acp .deliver,
      work, work, work, work, work, work, work, work,
      .acp (.answer (.stopped .endTurn)), .acp .sendTerminal,
      .acp .clearRoute, work, work, work, work, work, work, work]
  obtain ⟨server, begun⟩ : ∃ server,
      exec (step .constant plainConfig) [.request 0 .send plainParams none]
        (start 10 60 0 []) = some server :=
    ⟨_, rfl⟩
  obtain ⟨later, executed⟩ : ∃ later,
      exec (step .constant plainConfig) rest server = some later := by
    cases begun
    exact ⟨_, rfl⟩
  obtain ⟨thread, found, isNew⟩ : ∃ thread,
      server.threads 0 = some thread ∧ thread.rank .constant = 21 := by
    cases begun
    exact ⟨_, rfl, rfl⟩
  have bounded := request_work_bounded found (run_of_exec executed)
  have counted : rest.countP (isWorkOf 0) = 26 := by decide
  refine ⟨rest, server, later, thread, begun, found, isNew, executed,
    counted, ?_⟩
  omega

end Server

end A2AShim
