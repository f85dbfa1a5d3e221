import A2AShim.Serve.WorkBound

/-!
# Every request can finish

Whatever a run has come to, a request can be brought to its end by steps of
its own, of the driver and of the agent's answers, and by the one step that
gives the map's write lock back.  No other request has to move, and no new one
has to come.
-/

namespace A2AShim

open Machine

/-- The steps from a position of the driver to the next command. -/
def Driver.rank : Driver → Nat
  | .awaiting _ => 3
  | .resolved _ _ _ => 2
  | .clearing _ _ => 1
  | .receiving | .gone => 0

namespace AcpClient

/-- The driver waits for commands, with none queued and no update on its way;
or it has ended. -/
def Settled (client : AcpClient) : Prop :=
  client.driver = .gone ∨
    client.driver = .receiving ∧ client.queue = [] ∧ client.callback = none

/-- A step that finishes what has been asked of the agent. -/
def Action.settles : Action → Bool
  | .receive | .answer _ | .sendTerminal | .clearRoute | .deliver => true
  | _ => false

/-- The steps until all is settled. -/
def unsettled (client : AcpClient) : Nat :=
  4 * client.queue.length + client.driver.rank +
    if client.callback = none then 0 else 1

variable {client : AcpClient}

/-- An error is an answer to every request. -/
theorem answered_failed
    {command : Command}
    (atAwait : client.driver = .awaiting command)
    (notCancel : ∀ session respond, command ≠ .cancel session respond)
    (quiet : client.callback = none) :
    ∃ target, client.answered (.failed "") = some target ∧
      target.queue = client.queue ∧ target.callback = none ∧
        target.driver.rank < 3 := by
  unfold answered
  rw [atAwait]
  cases command with
  | cancel session respond => exact absurd rfl (notCancel session respond)
  | prompt session content sink =>
      refine ⟨{ client with driver := _ }, if_pos ⟨rfl, quiet⟩, rfl, quiet, ?_⟩
      simp [Driver.rank]
  | initializeAgent respond | sessionNew cwd respond
  | loadSession session cwd respond | resumeSession session cwd respond =>
      refine ⟨client.reply respond _, if_pos ⟨rfl, quiet⟩, rfl, quiet, ?_⟩
      simp [reply, Driver.rank]

/-- What is not settled has a step that settles more of it. -/
theorem settles_on
    (sound : DriverSound client) (open_ : ¬ client.Settled) :
    ∃ action target, action.settles = true ∧
      step action client = some target ∧
        target.unsettled < client.unsettled := by
  have alive : client.driver ≠ .gone := fun gone => open_ (.inl gone)
  by_cases quiet : client.callback = none
  · cases standing : client.driver with
    | gone => exact absurd standing alive
    | awaiting command =>
        have notCancel : ∀ session respond,
            command ≠ .cancel session respond := by
          intro session respond isCancel
          exact sound.noCancel session respond (isCancel ▸ standing)
        obtain ⟨target, taken, queue, callback, lower⟩ :=
          answered_failed standing notCancel quiet
        refine ⟨.answer (.failed ""), target, rfl, taken, ?_⟩
        have isThree : client.driver.rank = 3 := by rw [standing]; rfl
        simp only [unsettled, queue, callback, quiet, if_true, isThree]
        omega
    | resolved session sink item =>
        have taken :
            step .sendTerminal client =
              some { client.send sink item with
                driver := .clearing session sink } := by
          simp [step, sendTerminal, standing]
        refine ⟨_, _, rfl, taken, ?_⟩
        simp [unsettled, standing, quiet, Driver.rank]
    | clearing session sink =>
        have taken :
            step .clearRoute client =
              some { client.putRoute session none with
                driver := .receiving } := by
          simp [step, clearRoute, standing]
        refine ⟨_, _, rfl, taken, ?_⟩
        simp [unsettled, putRoute, standing, quiet, Driver.rank]
    | receiving =>
        cases queued : client.queue with
        | nil => exact absurd (.inr ⟨standing, queued, quiet⟩) open_
        | cons command rest =>
            obtain ⟨target, taken, _⟩ := receive_sends standing queued
            refine ⟨.receive, target, rfl, taken, ?_⟩
            have isZero : client.driver.rank = 0 := by rw [standing]; rfl
            obtain ⟨other, later, _, isQueue, outcome⟩ := receive_some taken
            rw [queued] at isQueue
            cases isQueue
            rcases outcome with ⟨session, respond, _, rfl⟩ | ⟨_, rfl⟩
            · simp only [unsettled, quiet, queued, standing, if_true,
                List.length_cons, Driver.rank]
              omega
            · simp only [unsettled, quiet, queued, standing, if_true,
                List.length_cons, Driver.rank]
              omega
  · obtain ⟨⟨sink, update⟩, held⟩ := Option.ne_none_iff_exists'.mp quiet
    have taken :
        step .deliver client =
          some { client.send sink (.ok (.update update)) with
            callback := none } := by
      simp [step, deliver, held]
    refine ⟨_, _, rfl, taken, ?_⟩
    simp [unsettled, held]

/-- All that was asked of the agent can be settled. -/
theorem can_settle (sound : DriverSound client) :
    CanReach step (fun _ action => action.settles = true)
      (fun last => DriverSound last ∧ Settled last) client := by
  refine CanReach.of_measure unsettled ?_ sound
  intro state before open_
  obtain ⟨action, target, permitted, taken, lower⟩ := settles_on before open_
  exact .next permitted taken (.here ⟨before.step taken, .inr lower⟩)

/-! What the reader of a stream leaves alone -/

/-- What all items of a stream cost its reader. -/
def streamCost (json : SerdeJson) (client : AcpClient) (sink : PromptId) :
    Nat :=
  ((client.streams sink).map fun stream =>
    (stream.items.map (Bridge.itemCost json)).sum).getD 0

variable {target : AcpClient} {sink : PromptId}

theorem readCost_le_streamCost
    (json : SerdeJson) (client : AcpClient) (sink : PromptId) :
    client.readCost json sink ≤ client.streamCost json sink := by
  unfold readCost streamCost
  cases client.streams sink with
  | none => exact Nat.le_refl _
  | some stream =>
      have whole :
          (stream.items.map (Bridge.itemCost json)).sum =
            (stream.yielded.map (Bridge.itemCost json)).sum +
              ((stream.items.drop stream.taken).map
                (Bridge.itemCost json)).sum := by
        rw [← List.sum_append, ← List.map_append, PromptStream.yielded,
          List.take_append_drop]
      simp only [Option.map_some, Option.getD_some]
      omega

theorem streamCost_take
    (json : SerdeJson) (taken : client.take sink = some target) :
    target.streamCost json sink = client.streamCost json sink := by
  obtain ⟨stream, found, _, _, rfl⟩ := take_some taken
  simp [streamCost, found]

theorem Settled.take
    (settled : client.Settled) (taken : client.take sink = some target) :
    target.Settled := by
  obtain ⟨stream, _, _, _, rfl⟩ := take_some taken
  exact settled

/-- Only its end takes the driver away. -/
theorem alive_of_step
    {action : Action} (alive : client.driver ≠ .gone)
    (taken : step action client = some target) (goesOn : action ≠ .stop) :
    target.driver ≠ .gone := by
  cases action with
  | registerRoute started session content =>
      obtain ⟨_, rfl⟩ := registerRoute_some taken
      exact alive
  | sendPrompt called =>
      obtain ⟨stream, _, _, ⟨_, rfl⟩ | ⟨_, rfl⟩⟩ := sendPrompt_some taken
      · exact alive
      · exact alive
  | submit command =>
      obtain ⟨_, ⟨_, rfl⟩ | ⟨_, rfl⟩⟩ := submit_some taken
      · exact alive
      · exact alive
  | receive => exact (commands_of_receive taken).2
  | answer answer =>
      obtain ⟨_, _, _, _, ⟨_, _, _, _, rfl⟩ | ⟨_, _, rfl⟩⟩ :=
        answered_some taken
      · exact Driver.noConfusion
      · exact Driver.noConfusion
  | sendTerminal =>
      obtain ⟨_, _, _, _, rfl⟩ := sendTerminal_some taken
      exact Driver.noConfusion
  | clearRoute =>
      obtain ⟨_, _, _, rfl⟩ := clearRoute_some taken
      exact Driver.noConfusion
  | notify session update =>
      obtain ⟨_, _, rfl⟩ := notified_some taken
      exact alive
  | deliver =>
      obtain ⟨sink, update, _, rfl⟩ := deliver_some taken
      simpa using alive
  | take taker =>
      obtain ⟨stream, _, _, _, rfl⟩ := take_some taken
      exact alive
  | stop => exact absurd rfl goesOn

end AcpClient

/-- The rank, with all positions of a bridge as one. -/
def HandlerPc.stage (json : SerdeJson) : HandlerPc → Nat
  | .bridging _ _ => 3
  | pc => pc.rank json

theorem HandlerPc.stage_le_rank (json : SerdeJson) (pc : HandlerPc) :
    pc.stage json ≤ pc.rank json := by
  cases pc with
  | bridging guarded call =>
      simp only [stage, rank]
      omega
  | _ => exact Nat.le_refl _

theorem HandlerPc.stage_of_not_bridging
    {json : SerdeJson} {pc : HandlerPc}
    (elsewhere : ∀ guarded call, pc ≠ .bridging guarded call) :
    pc.stage json = pc.rank json := by
  cases pc with
  | bridging guarded call => exact absurd rfl (elsewhere guarded call)
  | _ => rfl

namespace Handler

variable {json : SerdeJson} {cfg : ServeConfig} {name : Nat} {env : Env}
variable {handler : Handler} {shared after : Shared} {next : HandlerPc}

/-- A bridge reads its own stream, and goes on until its handler is nearly
done. -/
theorem bridging_step
    {guarded : ConversationRef} {call : Bridge.Call}
    (bridging : handler.pc = .bridging guarded call)
    (taken : handler.work json cfg name env shared = some (next, after)) :
    (after.acp = shared.acp ∨ shared.acp.take name = some after.acp) ∧
      after.writer = shared.writer ∧
        ((∃ later, next = .bridging guarded later) ∨ next.rank json < 3) := by
  simp only [work, bridging, bridge] at taken
  split at taken
  · obtain ⟨polled, isPolled, moved⟩ := Option.map_eq_some_iff.mp taken
    cases moved
    refine ⟨?_, rfl, .inl ⟨_, rfl⟩⟩
    rcases AcpClient.pollNext_some isPolled with
      ⟨_, _, _, _, _, isTaken⟩ | ⟨_, atEnd⟩
    · exact .inr isTaken
    · rw [atEnd]
      exact .inl rfl
  · split at taken
    · cases taken
      exact ⟨.inl rfl, rfl, .inr (Nat.zero_lt_succ _)⟩
    · cases taken
      exact ⟨.inl rfl, rfl, .inr (Nat.lt_succ_self _)⟩
    · cases taken
      exact ⟨.inl rfl, rfl, .inr (Nat.zero_lt_succ _)⟩
  · obtain ⟨stepped, _, moved⟩ := Option.map_eq_some_iff.mp taken
    cases moved
    exact ⟨.inl rfl, rfl, .inl ⟨_, rfl⟩⟩

/-- The answer to the call of a new session gives the lock back. -/
theorem spawned_step
    (atSpawn : handler.pc = .spawning)
    (taken : handler.work json cfg name env shared = some (next, after)) :
    after.acp = shared.acp ∧ after.writer = none := by
  simp only [work, open_, atSpawn] at taken
  split at taken
  · cases taken
    exact ⟨rfl, rfl⟩
  · cases taken
    exact ⟨rfl, rfl⟩
  · cases taken
  · split at taken
    · cases taken
      exact ⟨rfl, rfl⟩
    · cases taken

end Handler

namespace Server

variable {json : SerdeJson} {cfg : ServeConfig} {server target : Server}

/-- A step that a thread may be waiting for: its own, one of the driver or an
answer of the agent, or one of the holder of the map's write lock. -/
def Helps (name : Nat) (server : Server) : Action → Prop
  | .work worker _ => worker = name ∨ server.shared.writer = some worker
  | .acp act => act.settles = true
  | _ => False

/-- The thread has come to its end. -/
def Finished (name : Nat) (server : Server) : Prop :=
  ∃ thread, server.threads name = some thread ∧ thread.isOver = true

/-- Nobody but the thread itself is needed for its next step. -/
structure Ready (json : SerdeJson) (cfg : ServeConfig) (name : Nat)
    (server : Server) : Prop where
  sound : Sound json cfg server
  settled : server.shared.acp.Settled
  unlocked : ∀ holder, server.shared.writer = some holder → holder = name

/-- Where all is settled, the driver owes nobody an answer. -/
theorem no_call_of_settled
    {name : Nat} (settled : server.shared.acp.Settled) :
    ¬ WaitsForCall server name := by
  intro waits
  obtain ⟨alive, command, _, waiting⟩ := waits.pending
  rcases settled with gone | ⟨receives, empty, _⟩
  · exact alive gone
  · rcases waiting with queued | awaited
    · rw [empty] at queued
      cases queued
    · rw [receives] at awaited
      cases awaited

/-- With the driver at rest no answer is coming. -/
theorem no_item_of_settled
    {name tested : Nat} (ready : Ready json cfg name server) :
    ¬ (tested ∈ server.shared.acp.pendingSinks ∨
      ∃ session item,
        server.shared.acp.driver = .resolved session tested item) := by
  have queued : server.shared.acp.pending = [] ∧
      ∀ session sink item,
        server.shared.acp.driver ≠ .resolved session sink item := by
    rcases ready.settled with gone | ⟨receives, empty, _⟩
    · simp [AcpClient.pending, gone, ready.sound.driver.unqueued gone]
    · simp [AcpClient.pending, receives, empty]
  rintro (pending | ⟨session, item, resolved⟩)
  · simp [AcpClient.pendingSinks, queued.1] at pending
  · exact queued.2 session tested item resolved

/-- A thread for which nobody is missing takes a step, but for a bridge whose
stream the end of the driver has left open. -/
theorem Ready.works
    {name : Nat} {thread : Thread}
    (ready : Ready json cfg name server)
    (found : server.threads name = some thread)
    (notOver : thread.isOver = false) :
    CanWork json cfg server name ∨
      LeftOpen server name := by
  rcases ready.sound.thread_waits found notOver with
    works | (forCall | forItem) | leftOpen | locked
  · exact .inl works
  · exact absurd forCall (no_call_of_settled ready.settled)
  · exact absurd forItem.coming (no_item_of_settled ready)
  · exact .inr leftOpen
  · left
    obtain ⟨holder, isWriter⟩ := Option.isSome_iff_exists.mp locked
    have isOwn := ready.unlocked holder isWriter
    subst isOwn
    rcases ready.sound.writer_waits isWriter with works | forCall
    · exact works
    · exact absurd forCall (no_call_of_settled ready.settled)

theorem isOutside_of_settles
    {act : AcpClient.Action} (settles : act.settles = true) :
    isOutside act = true := by
  cases act with
  | registerRoute | sendPrompt | submit | notify | take | stop => cases settles
  | _ => rfl

theorem can_settle (name : Nat) (sound : Sound json cfg server) :
    CanReach (step json cfg) (Helps name)
      (fun last => last.shared.acp.Settled ∧ last.threads = server.threads)
      server := by
  have settling := AcpClient.can_settle sound.driver
  have lifted : CanReach (step json cfg) (Helps name) _ server :=
    settling.lift Action.acp
      (fun acp => { server with shared := { server.shared with acp } })
      fun acp act next settles taken => by
        refine ⟨settles, ?_⟩
        have outside := isOutside_of_settles settles
        simp only [step, outside, if_true, taken, Option.map_some]
  apply lifted.mono
  intro last reached
  obtain ⟨acp, ⟨_, settled⟩, rfl⟩ := reached
  exact ⟨settled, rfl⟩

/-- The driver gets done with all it has, then the lock is given back. -/
theorem can_be_ready
    {name : Nat} {thread : Thread}
    (sound : Sound json cfg server)
    (found : server.threads name = some thread) :
    CanReach (step json cfg) (Helps name)
      (fun last =>
        Ready json cfg name last ∧ last.threads name = some thread)
      server := by
  have settling :=
    (can_settle name sound).keeping sound
      fun _ _ _ before _ taken => before.step taken
  apply settling.andThen
  intro middle reached
  obtain ⟨soundNow, settled, sameThreads⟩ := reached
  have foundNow : middle.threads name = some thread := by
    rw [sameThreads, found]
  by_cases free : ∀ holder, middle.shared.writer = some holder → holder = name
  · exact .here ⟨⟨soundNow, settled, free⟩, foundNow⟩
  · obtain ⟨holder, isWriter, different⟩ : ∃ holder,
        middle.shared.writer = some holder ∧ holder ≠ name := by
      simpa using free
    obtain ⟨handler, isHolder, atSpawn⟩ :=
      (soundNow.placed.writing holder).mp isWriter
    rcases soundNow.writer_waits isWriter with
      ⟨env, target, taken⟩ | forCall
    · obtain ⟨next, worked, threads⟩ := work_of_step taken isHolder
      obtain ⟨sameAcp, unlocked⟩ := Handler.spawned_step atSpawn worked
      have helps : Helps name middle (.work holder env) := .inr isWriter
      refine .next helps taken (.here ⟨⟨?_, ?_, ?_⟩, ?_⟩)
      · exact soundNow.step taken
      · rw [sameAcp]
        exact settled
      · intro other isOther
        rw [unlocked] at isOther
        cases isOther
      · rw [threads, Pool.put_other different.symm]
        exact foundNow
    · exact absurd forCall (no_call_of_settled settled)

/-- The bridge of a ready handler comes to its end, or to the end of what its
stream has when the driver is gone. -/
theorem Ready.bridge_ends
    {name : Nat} {handler : Handler} {guarded : ConversationRef}
    {call : Bridge.Call}
    (ready : Ready json cfg name server)
    (found : server.handlers name = some handler)
    (bridging : handler.pc = .bridging guarded call) :
    CanReach (step json cfg) (Helps name)
      (fun last => Sound json cfg last ∧
        ((∃ later, last.handlers name = some later ∧
            later.pc.rank json < 3) ∨
          LeftOpen last name))
      server := by
  let position : Server → Nat := fun last =>
    ((last.threads name).map (Thread.rank json)).getD 0 +
      last.shared.acp.streamCost json name -
        last.shared.acp.readCost json name
  let inBridge : Server → Prop := fun last =>
    Ready json cfg name last ∧
      ∃ later, last.handlers name = some later ∧
        ((∃ guarded call, later.pc = .bridging guarded call) ∨
          later.pc.rank json < 3)
  have atStart : inBridge server :=
    ⟨ready, handler, found, .inl ⟨guarded, call, bridging⟩⟩
  apply (CanReach.of_measure position ?_ atStart).mono
  · intro last reached
    exact ⟨reached.1.1.sound, reached.2⟩
  intro state before unfinished
  obtain ⟨readyNow, later, isLater, stands⟩ := before
  rcases stands with ⟨held, current, atBridge⟩ | lower
  · have isThread := thread_of_handlers isLater
    rcases readyNow.works isThread (by rw [Thread.isOver, atBridge]; rfl) with
      ⟨env, target, taken⟩ | stuck
    · obtain ⟨next, worked, threads⟩ := work_of_step taken isLater
      obtain ⟨acp, writer, goesOn⟩ := Handler.bridging_step atBridge worked
      have stepped :
          workThread json cfg name env state.shared (.prompt later) =
            some (.prompt { later with pc := next }, target.shared) := by
        simp only [workThread, worked, Option.map_some]
      have lower := workThread_rank stepped
      have bounded :=
        AcpClient.readCost_le_streamCost json state.shared.acp name
      have boundedAfter :=
        AcpClient.readCost_le_streamCost json target.shared.acp name
      have sameCost : target.shared.acp.streamCost json name =
          state.shared.acp.streamCost json name := by
        rcases acp with same | isTaken
        · rw [same]
        · exact AcpClient.streamCost_take json isTaken
      have helps : Helps name state (.work name env) := .inl rfl
      refine .next helps taken (.here ⟨⟨⟨?_, ?_, ?_⟩, ?_⟩, .inr ?_⟩)
      · exact readyNow.sound.step taken
      · rcases acp with same | isTaken
        · rw [same]
          exact readyNow.settled
        · exact readyNow.settled.take isTaken
      · rw [writer]
        exact readyNow.unlocked
      · refine ⟨_, handlers_of_put threads, ?_⟩
        rcases goesOn with ⟨on, isOn⟩ | ended
        · exact .inl ⟨held, on, isOn⟩
        · exact .inr ended
      · simp only [position, threads, isThread, Pool.put_self,
          Option.map_some, Option.getD_some]
        omega
    · exact absurd (.inr stuck) unfinished
  · exact absurd (.inl ⟨later, isLater, lower⟩) unfinished

/-- The rank of a thread, with all positions of its bridge as one. -/
def stage (json : SerdeJson) : Thread → Nat
  | .prompt handler => handler.pc.stage json
  | thread => thread.rank json

/-- From a ready state a thread comes a stage further. -/
theorem Ready.goes_on
    {name : Nat} {thread : Thread}
    (ready : Ready json cfg name server)
    (found : server.threads name = some thread)
    (notOver : thread.isOver = false) :
    CanReach (step json cfg) (Helps name)
      (fun last => Sound json cfg last ∧
        ((∃ later, last.threads name = some later ∧
            stage json later < stage json thread) ∨
          LeftOpen last name))
      server := by
  by_cases inBridge : ∃ handler guarded call, thread = .prompt handler ∧
      handler.pc = .bridging guarded call
  · obtain ⟨handler, guarded, call, rfl, bridging⟩ := inBridge
    apply (ready.bridge_ends (handlers_of_found found) bridging).mono
    intro last reached
    obtain ⟨sound, ⟨later, isLater, lower⟩ | stuck⟩ := reached
    · refine ⟨sound, .inl ⟨_, thread_of_handlers isLater, ?_⟩⟩
      have isBridge : stage json (.prompt handler) = 3 := by
        simp only [stage, bridging, HandlerPc.stage]
      have atMost := HandlerPc.stage_le_rank json later.pc
      rw [isBridge]
      simp only [stage]
      omega
    · exact ⟨sound, .inr stuck⟩
  · rcases ready.works found notOver with ⟨env, target, taken⟩ | stuck
    · have helps : Helps name server (.work name env) := .inl rfl
      refine .next helps taken (.here ⟨ready.sound.step taken, .inl ?_⟩)
      simp only [step, found, Option.bind_some] at taken
      obtain ⟨⟨next, after⟩, worked, rfl⟩ := Option.map_eq_some_iff.mp taken
      refine ⟨next, Pool.put_self _ _ _, ?_⟩
      have notPoll : ¬ Polls thread := by
        intro polls
        obtain ⟨handler, held, call, isPrompt, bridging, _⟩ := polls
        exact inBridge ⟨handler, held, call, isPrompt, bridging⟩
      have lower := workThread_lowers notPoll worked
      have sameStage : stage json thread = thread.rank json := by
        cases thread with
        | prompt handler =>
            apply HandlerPc.stage_of_not_bridging
            intro guarded call bridging
            exact inBridge ⟨handler, guarded, call, rfl, bridging⟩
        | _ => rfl
      have atMost : stage json next ≤ next.rank json := by
        cases next with
        | prompt handler => exact HandlerPc.stage_le_rank json handler.pc
        | _ => exact Nat.le_refl _
      omega
    · exact .here ⟨ready.sound, .inr stuck⟩

theorem Sound.can_finish
    {name : Nat} {thread : Thread}
    (sound : Sound json cfg server)
    (found : server.threads name = some thread) :
    CanReach (Server.step json cfg) (Helps name)
      (fun last => Finished name last ∨
        LeftOpen last name)
      server := by
  let left : Server → Nat := fun last =>
    ((last.threads name).map (stage json)).getD 0
  let isThere : Server → Prop := fun last =>
    Sound json cfg last ∧ ∃ thread, last.threads name = some thread
  have atStart : isThere server := ⟨sound, thread, found⟩
  apply (CanReach.of_measure left ?_ atStart).mono
  · intro last reached
    exact reached.2
  intro state before unfinished
  obtain ⟨soundNow, thread, isThread⟩ := before
  have notOver : thread.isOver = false := by
    by_contra isOver
    exact unfinished (.inl ⟨thread, isThread, by simpa using isOver⟩)
  apply (can_be_ready soundNow isThread).andThen
  intro middle reached
  obtain ⟨ready, sameThread⟩ := reached
  apply (ready.goes_on sameThread notOver).mono
  intro last reached
  obtain ⟨soundLast, ⟨later, isLater, lower⟩ | stuck⟩ := reached
  · refine ⟨⟨soundLast, later, isLater⟩, .inr ?_⟩
    simpa only [left, isLater, isThread, Option.map_some,
      Option.getD_some] using lower
  · obtain ⟨handler, _, _, isHandler, _⟩ := stuck.bridge
    exact ⟨⟨soundLast, _, thread_of_handlers isHandler⟩, .inl (.inr stuck)⟩

/-- Steps that help do not end the driver. -/
theorem alive_of_helps
    {name : Nat} {action : Action}
    (alive : server.shared.acp.driver ≠ .gone)
    (helps : Helps name server action)
    (taken : step json cfg action server = some target) :
    target.shared.acp.driver ≠ .gone := by
  rcases acp_of_step taken with same | ⟨act, stepped, _, byDriver⟩
  · rw [same]
    exact alive
  · apply AcpClient.alive_of_step alive stepped
    intro isStop
    subst isStop
    have isOwn := byDriver rfl
    subst isOwn
    cases helps

section

variable {trace : List Action} {maxActive idleWindow now : Nat}
variable {loaded : List (String × SessionId)}

/-- From every state of every run, a thread can be brought to its end with
the help it may be waiting for, unless the driver has ended and left its
stream open. -/
theorem requests_can_finish
    {name : Nat} {thread : Thread}
    (run : Run (step json cfg) free
      (start maxActive idleWindow now loaded) trace server)
    (found : server.threads name = some thread) :
    CanReach (step json cfg) (Helps name)
      (fun last => Finished name last ∨
        server.shared.acp.driver = .gone ∧ LeftOpen last name)
      server := by
  have reachable := (sound_of_run run).can_finish found
  by_cases alive : server.shared.acp.driver = .gone
  · apply reachable.mono
    intro last reached
    rcases reached with finished | stuck
    · exact .inl finished
    · exact .inr ⟨alive, stuck⟩
  · let lives : Server → Prop := fun last => last.shared.acp.driver ≠ .gone
    have livesNow : lives server := alive
    apply (reachable.keeping livesNow
      fun _ _ _ before helps taken => alive_of_helps before helps taken).mono
    intro last reached
    obtain ⟨stillAlive, finished | stuck⟩ := reached
    · exact .inl finished
    · exact absurd stuck.gone stillAlive

end

/-- A second request finds the map locked for the session of the first. -/
theorem locked_out_request_finishes :
    ∃ trace server,
      exec (step .constant plainConfig) trace (start 10 60 0 []) =
          some server ∧
        server.shared.writer = some 0 ∧
          CanReach (step .constant plainConfig) (Helps 1) (Finished 1)
            server := by
  let work : Nat → Action := fun name =>
    .work name { now := 0, taskId := ⟨"t"⟩ }
  let trace : List Action :=
    [.request 0 .send plainParams none, work 0, work 0, work 0,
      .request 1 .send plainParams none, work 1]
  obtain ⟨server, executed⟩ : ∃ server,
      exec (step .constant plainConfig) trace (start 10 60 0 []) =
        some server :=
    ⟨_, rfl⟩
  obtain ⟨thread, found, locked, alive⟩ : ∃ thread,
      server.threads 1 = some thread ∧ server.shared.writer = some 0 ∧
        server.shared.acp.driver ≠ .gone := by
    cases executed
    exact ⟨_, rfl, rfl, Driver.noConfusion⟩
  refine ⟨trace, server, executed, locked, ?_⟩
  apply (requests_can_finish (run_of_exec executed) found).mono
  intro last reached
  rcases reached with finished | ⟨gone, _⟩
  · exact finished
  · exact absurd gone alive

end Server

end A2AShim
