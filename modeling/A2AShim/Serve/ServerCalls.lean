import A2AShim.Serve.AcpCalls
import A2AShim.Serve.SentTask

/-!
# The calls of the server

A request makes one call of the agent at most, on a channel named like its
thread: `session/new` for a prompt, `session/cancel` for a cancel or a reset.
In every run the answer it finds there is the one the agent gave to its own
command, however the calls of all requests overlap.
-/

namespace A2AShim

/-- Where a thread stands with its call. -/
inductive CallStage where
  | before
  | waiting
  | after
  deriving DecidableEq, Repr

def HandlerPc.callStage : HandlerPc → CallStage
  | .checkMode | .lookUp | .create => .before
  | .spawning => .waiting
  | _ => .after

def CancelPc.callStage : CancelPc → CallStage
  | .cancel | .find | .tell _ => .before
  | .await => .waiting
  | .snapshot | .returned _ => .after

def ResetPc.callStage : ResetPc → CallStage
  | .lookUp | .list _ | .canceling _ _ _ => .before
  | .await _ => .waiting
  | .remove _ | .returned _ _ => .after

namespace Thread

def callStage : Thread → CallStage
  | .prompt handler => handler.pc.callStage
  | .cancel canceling => canceling.pc.callStage
  | .reset resetting => resetting.pc.callStage
  | .sweep _ => .after

/-- The commands a thread of this name may call the agent with. -/
def Asks (cfg : ServeConfig) (name : Nat) : Thread → Command → Prop
  | .prompt _, command => command = .sessionNew cfg.cwd name
  | .cancel _, command | .reset _, command =>
      ∃ session, command = .cancel session name
  | .sweep _, _ => False

end Thread

namespace AcpClient

/-- The client stays, or takes a step that is no call. -/
def Uncalled (client target : AcpClient) : Prop :=
  target = client ∨
    ∃ action, step action client = some target ∧
      ∀ command, action ≠ .submit command

variable {client target : AcpClient}

theorem Uncalled.agree
    (uncalled : Uncalled client target) (agree : CallsAgree client) :
    CallsAgree target := by
  rcases uncalled with rfl | ⟨action, taken, noCall⟩
  · exact agree
  · exact agree.step (fun command isCall => absurd isCall (noCall command))
      taken

theorem commands_of_receive (taken : client.receive = some target) :
    target.commands = client.commands ∧ target.driver ≠ .gone := by
  obtain ⟨command, rest, atReceive, queued, change⟩ := receive_some taken
  rcases change with ⟨_, _, _, rfl⟩ | ⟨_, rfl⟩
  · simp [commands, queued, atReceive]
  · simp [commands, queued]

/-- Without a call, only the prompts of streams come in, and only the end of
the driver takes a command out. -/
theorem commands_of_step
    {action : Action}
    (taken : step action client = some target)
    (noCall : ∀ command, action ≠ .submit command) :
    (∀ command, command ∈ target.commands →
        command ∈ client.commands ∨
          ∃ sink stream, action = .sendPrompt sink ∧
            client.streams sink = some stream ∧
              command = .prompt stream.session stream.content sink) ∧
      ((∀ command, command ∈ client.commands → command ∈ target.commands) ∨
        target.driver = .gone) ∧
        (client.driver = .gone → target.driver = .gone) := by
  cases action with
  | registerRoute sink session content =>
      obtain ⟨_, rfl⟩ := registerRoute_some taken
      exact ⟨fun _ => .inl, .inl fun _ member => member, id⟩
  | sendPrompt sink =>
      obtain ⟨stream, found, _, ⟨_, rfl⟩ | ⟨alive, rfl⟩⟩ :=
        sendPrompt_some taken
      · exact ⟨fun _ => .inl, .inl fun _ member => member, id⟩
      · refine ⟨?_, .inl ?_, id⟩
        · intro command member
          unfold commands at member
          rw [← List.append_assoc] at member
          rcases List.mem_append.mp member with earlier | last
          · exact .inl earlier
          · rw [List.mem_singleton.mp last]
            exact .inr ⟨sink, stream, rfl, found, rfl⟩
        · intro command member
          unfold commands
          rw [← List.append_assoc]
          exact List.mem_append_left _ member
  | submit command => exact absurd rfl (noCall command)
  | receive =>
      obtain ⟨same, alive⟩ := commands_of_receive taken
      rw [same]
      refine ⟨fun _ => .inl, .inl fun _ member => member, ?_⟩
      intro gone
      obtain ⟨_, _, atReceive, _⟩ := receive_some taken
      rw [gone] at atReceive
      cases atReceive
  | answer answer =>
      obtain ⟨command, atAwait, _, change⟩ := answered_cases taken
      have notGone : client.driver ≠ .gone := by
        rw [atAwait]
        exact Driver.noConfusion
      rcases change with ⟨_, _, _, rfl⟩ | ⟨_, _, rfl⟩
      · exact ⟨fun _ => .inl, .inl fun _ member => member,
          fun gone => absurd gone notGone⟩
      · exact ⟨fun _ => .inl, .inl fun _ member => member,
          fun gone => absurd gone notGone⟩
  | sendTerminal =>
      obtain ⟨session, sink, item, atResolved, rfl⟩ := sendTerminal_some taken
      have same : ∀ driver, commands
          { client.send sink item with driver := driver } =
            client.commands := by
        intro driver
        simp [commands]
      rw [same]
      refine ⟨fun _ => .inl, .inl fun _ member => member, ?_⟩
      intro gone
      rw [atResolved] at gone
      cases gone
  | clearRoute =>
      obtain ⟨session, sink, atClearing, rfl⟩ := clearRoute_some taken
      refine ⟨fun _ => .inl, .inl fun _ member => member, ?_⟩
      intro gone
      rw [atClearing] at gone
      cases gone
  | notify session update =>
      obtain ⟨_, _, rfl⟩ := notified_some taken
      exact ⟨fun _ => .inl, .inl fun _ member => member, id⟩
  | deliver =>
      obtain ⟨sink, update, _, rfl⟩ := deliver_some taken
      have same : commands
          { client.send sink (.ok (.update update)) with callback := none } =
            client.commands := by
        simp [commands]
      rw [same]
      exact ⟨fun _ => .inl, .inl fun _ member => member, by simp⟩
  | take sink =>
      obtain ⟨stream, _, _, _, rfl⟩ := take_some taken
      exact ⟨fun _ => .inl, .inl fun _ member => member, id⟩
  | stop =>
      obtain ⟨_, rfl⟩ := stop_some taken
      refine ⟨?_, .inr rfl, fun _ => rfl⟩
      intro command member
      left
      unfold commands at member ⊢
      rw [List.append_nil] at member
      exact List.mem_append_left _ member

end AcpClient

/-! ## One step of a thread -/

section

variable {json : SerdeJson} {cfg : ServeConfig} {name : Nat} {env : Env}
variable {shared after : Shared}

theorem Handler.work_calls
    {handler : Handler} {next : HandlerPc}
    (taken : handler.work json cfg name env shared = some (next, after)) :
    (handler.pc.callStage = .before ∧ next = .spawning ∧
        AcpClient.step (.submit (.sessionNew cfg.cwd name)) shared.acp =
          some after.acp) ∨
      (next.callStage = handler.pc.callStage ∨ next.callStage = .after) ∧
        shared.acp.Uncalled after.acp := by
  cases isGuarded : handler.pc.guard? with
  | none =>
      cases Handler.work_opening isGuarded taken with
      | asks acp before unwritten absent submitted =>
          exact .inl ⟨by rw [before]; rfl, rfl, submitted⟩
      | passes before =>
          exact .inr ⟨.inl (by rw [before]; rfl), .inl rfl⟩
      | misses before =>
          exact .inr ⟨.inl (by rw [before]; rfl), .inl rfl⟩
      | _ => exact .inr ⟨.inr rfl, .inl rfl⟩
  | some guarded =>
      right
      have moved := Handler.work_moves taken
      have afterGuard : next.callStage = .after := by
        rcases Handler.guarded_cases isGuarded moved with
          ⟨stillGuarded, _⟩ | ⟨⟨answer, rfl⟩, _⟩
        · cases next <;> first | rfl | cases stillGuarded
        · rfl
      refine ⟨.inr afterGuard, ?_⟩
      cases moved with
      | asks acp before =>
          rw [before] at isGuarded
          cases isGuarded
      | routes session guarded taskId content acp _ registered =>
          exact .inr ⟨_, registered, nofun⟩
      | unsent guarded taskId error acp _ _ called =>
          exact .inr ⟨_, called, nofun⟩
      | sends _ guarded taskId acp _ _ called => exact .inr ⟨_, called, nofun⟩
      | polls guarded call stream item acp _ _ _ _ isTaken =>
          exact .inr ⟨_, isTaken, nofun⟩
      | _ => exact .inl rfl

theorem Canceling.work_calls
    {canceling : Canceling} {next : CancelPc}
    (taken : canceling.work name shared = some (next, after)) :
    (canceling.pc.callStage = .before ∧ next = .await ∧
        ∃ session, AcpClient.step (.submit (.cancel session name)) shared.acp =
          some after.acp) ∨
      (next.callStage = canceling.pc.callStage ∨ next.callStage = .after) ∧
        after.acp = shared.acp := by
  unfold Canceling.work at taken
  cases atPc : canceling.pc with
  | cancel =>
      simp only [atPc] at taken
      right
      split at taken <;> cases taken
      · exact ⟨.inr rfl, rfl⟩
      · exact ⟨.inl rfl, rfl⟩
  | find =>
      simp only [atPc] at taken
      right
      split at taken
      · cases taken
      · split at taken <;> cases taken
        · exact ⟨.inl rfl, rfl⟩
        · exact ⟨.inr rfl, rfl⟩
  | tell session =>
      simp only [atPc] at taken
      obtain ⟨acp, submitted, moved⟩ := Option.map_eq_some_iff.mp taken
      cases moved
      exact .inl ⟨rfl, rfl, session, submitted⟩
  | await =>
      simp only [atPc] at taken
      split at taken <;> cases taken
      exact .inr ⟨.inr rfl, rfl⟩
  | snapshot =>
      simp only [atPc] at taken
      split at taken <;> cases taken
      · exact .inr ⟨.inr rfl, rfl⟩
      · exact .inr ⟨.inr rfl, rfl⟩
  | returned answer => simp [atPc] at taken

theorem Resetting.work_calls
    {resetting : Resetting} {next : ResetPc}
    (taken : resetting.work name shared = some (next, after)) :
    (resetting.pc.callStage = .before ∧
        (∃ canceled, next = .await canceled) ∧
          ∃ session,
            AcpClient.step (.submit (.cancel session name)) shared.acp =
              some after.acp) ∨
      (next.callStage = resetting.pc.callStage ∨ next.callStage = .after) ∧
        after.acp = shared.acp := by
  unfold Resetting.work at taken
  cases atPc : resetting.pc with
  | lookUp =>
      simp only [atPc] at taken
      split at taken <;> cases taken
      exact .inr ⟨.inl rfl, rfl⟩
  | list session =>
      simp only [atPc] at taken
      cases taken
      exact .inr ⟨.inl rfl, rfl⟩
  | canceling session targets canceled =>
      cases targets with
      | cons id rest =>
          simp only [atPc] at taken
          split at taken <;> cases taken
          · exact .inr ⟨.inl rfl, rfl⟩
          · exact .inr ⟨.inl rfl, rfl⟩
      | nil =>
          cases session with
          | some session =>
              simp only [atPc] at taken
              obtain ⟨acp, submitted, moved⟩ :=
                Option.map_eq_some_iff.mp taken
              cases moved
              exact .inl ⟨rfl, ⟨canceled, rfl⟩, session, submitted⟩
          | none =>
              simp only [atPc] at taken
              cases taken
              exact .inr ⟨.inr rfl, rfl⟩
  | await canceled =>
      simp only [atPc] at taken
      split at taken <;> cases taken
      exact .inr ⟨.inr rfl, rfl⟩
  | remove canceled =>
      simp only [atPc] at taken
      split at taken <;> cases taken
      exact .inr ⟨.inr rfl, rfl⟩
  | returned cleared canceled => simp [atPc] at taken

theorem Sweep.work_calls
    {sweep next : Sweep}
    (taken : sweep.work env shared = some (next, after)) :
    after.acp = shared.acp := by
  unfold Sweep.work at taken
  split at taken
  · cases taken
  · cases sweep with
    | scan =>
        simp only at taken
        split at taken <;> cases taken <;> rfl
    | remove keys =>
        cases taken
        rfl
    | done keys => cases taken

end

namespace Server

open Machine

/-- A thread goes on without a call. -/
structure GoesOn (cfg : ServeConfig) (name : Nat) (thread next : Thread) :
    Prop where
  stage : next.callStage = thread.callStage ∨ next.callStage = .after
  asks : ∀ command, thread.Asks cfg name command → next.Asks cfg name command

/-- A thread calls the agent. -/
structure Calls (cfg : ServeConfig) (name : Nat) (thread next : Thread)
    (command : Command) : Prop where
  before : thread.callStage = .before
  waits : next.callStage = .waiting
  asked : next.Asks cfg name command
  named : command.respond? = some name

variable {json : SerdeJson} {cfg : ServeConfig} {server target : Server}

theorem workThread_calls
    {name : Nat} {env : Env} {shared after : Shared} {thread next : Thread}
    (taken : workThread json cfg name env shared thread =
      some (next, after)) :
    (∃ command, Calls cfg name thread next command ∧
        AcpClient.step (.submit command) shared.acp = some after.acp) ∨
      GoesOn cfg name thread next ∧ shared.acp.Uncalled after.acp := by
  cases thread with
  | prompt handler =>
      obtain ⟨⟨pc, moved⟩, worked, stepped⟩ := Option.map_eq_some_iff.mp taken
      cases stepped
      rcases Handler.work_calls worked with
        ⟨before, rfl, submitted⟩ | ⟨stage, uncalled⟩
      · exact .inl ⟨_, ⟨before, rfl, rfl, rfl⟩, submitted⟩
      · exact .inr ⟨⟨stage, fun _ => id⟩, uncalled⟩
  | cancel canceling =>
      obtain ⟨⟨pc, moved⟩, worked, stepped⟩ := Option.map_eq_some_iff.mp taken
      cases stepped
      rcases Canceling.work_calls worked with
        ⟨before, rfl, session, submitted⟩ | ⟨stage, same⟩
      · exact .inl ⟨_, ⟨before, rfl, ⟨session, rfl⟩, rfl⟩, submitted⟩
      · exact .inr ⟨⟨stage, fun _ => id⟩, .inl same⟩
  | reset resetting =>
      obtain ⟨⟨pc, moved⟩, worked, stepped⟩ := Option.map_eq_some_iff.mp taken
      cases stepped
      rcases Resetting.work_calls worked with
        ⟨before, ⟨canceled, rfl⟩, session, submitted⟩ | ⟨stage, same⟩
      · exact .inl ⟨_, ⟨before, rfl, ⟨session, rfl⟩, rfl⟩, submitted⟩
      · exact .inr ⟨⟨stage, fun _ => id⟩, .inl same⟩
  | sweep sweep =>
      obtain ⟨⟨pc, moved⟩, worked, stepped⟩ := Option.map_eq_some_iff.mp taken
      cases stepped
      exact .inr ⟨⟨.inl rfl, fun _ => id⟩, .inl (Sweep.work_calls worked)⟩

/-! ## One step of the server -/

/-- A step that is no call: a thread goes on, or comes. -/
inductive Passes (cfg : ServeConfig) (server target : Server) : Prop
  | stays (same : target.threads = server.threads)
  | comes (name : Nat) (next : Thread)
      (threads : target.threads = server.threads.put name next)
      (free : server.threads name = none)
      (notWaiting : next.callStage ≠ .waiting)
  | goesOn (name : Nat) (thread next : Thread)
      (threads : target.threads = server.threads.put name next)
      (found : server.threads name = some thread)
      (goesOn : GoesOn cfg name thread next)

theorem spawn_passes
    {name : Nat} {thread : Thread}
    (notWaiting : thread.callStage ≠ .waiting)
    (taken : server.spawn name thread = some target) :
    server.shared.acp.Uncalled target.shared.acp ∧
      Passes cfg server target := by
  unfold spawn at taken
  split at taken
  · cases taken
  · rename_i free
    cases taken
    exact ⟨.inl rfl, .comes name thread rfl free notWaiting⟩

theorem calls_of_step
    {action : Action} (taken : step json cfg action server = some target) :
    (∃ name thread next command,
        server.threads name = some thread ∧
          target.threads = server.threads.put name next ∧
            Calls cfg name thread next command ∧
              AcpClient.step (.submit command) server.shared.acp =
                some target.shared.acp) ∨
      server.shared.acp.Uncalled target.shared.acp ∧
        Passes cfg server target := by
  cases action with
  | request name method params header =>
      simp only [step] at taken
      right
      split at taken
      · cases taken
        exact ⟨.inl rfl, .stays rfl⟩
      · exact spawn_passes CallStage.noConfusion taken
  | cancelTask name taskId | reset name conversationId callerId header
  | sweep name => exact .inr (spawn_passes CallStage.noConfusion taken)
  | work name env =>
      obtain ⟨thread, found, worked⟩ := Option.bind_eq_some_iff.mp taken
      obtain ⟨⟨next, after⟩, moved, stepped⟩ :=
        Option.map_eq_some_iff.mp worked
      cases stepped
      rcases workThread_calls moved with
        ⟨command, calls, submitted⟩ | ⟨goesOn, uncalled⟩
      · exact .inl ⟨name, thread, next, command, found, rfl, calls, submitted⟩
      · exact .inr ⟨uncalled, .goesOn name thread next rfl found goesOn⟩
  | drop name =>
      obtain ⟨thread, found, dropped⟩ := Option.bind_eq_some_iff.mp taken
      obtain ⟨⟨next, after⟩, moved, stepped⟩ :=
        Option.map_eq_some_iff.mp dropped
      cases stepped
      cases thread with
      | prompt handler =>
          obtain ⟨⟨pc, left⟩, gone, isNext⟩ := Option.map_eq_some_iff.mp moved
          unfold Handler.drop at gone
          split at gone
          · cases gone
            cases isNext
            exact .inr ⟨.inl rfl,
              .goesOn name _ _ rfl found ⟨.inr rfl, fun _ => id⟩⟩
          · cases gone
      | _ => cases moved
  | putConfig config =>
      cases taken
      exact .inr ⟨.inl rfl, .stays rfl⟩
  | deleteConfig configId =>
      cases taken
      exact .inr ⟨.inl rfl, .stays rfl⟩
  | acp action =>
      simp only [step] at taken
      split at taken
      · rename_i outside
        obtain ⟨acp, moved, stepped⟩ := Option.map_eq_some_iff.mp taken
        cases stepped
        refine .inr ⟨.inr ⟨action, moved, ?_⟩, .stays rfl⟩
        intro command isCall
        subst isCall
        cases outside
      · cases taken

/-! ## The invariant -/

/-- Commands belong to the threads that have made them, and a thread that
waits has made one. -/
structure Calling (cfg : ServeConfig) (server : Server) : Prop where
  agree : server.shared.acp.CallsAgree
  own : ∀ command call, command ∈ server.shared.acp.commands →
    command.respond? = some call →
      ∃ thread, server.threads call = some thread ∧
        thread.callStage ≠ .before ∧ thread.Asks cfg call command
  waiting : ∀ name thread, server.threads name = some thread →
    thread.callStage = .waiting →
      server.shared.acp.driver = .gone ∨
        ∃ command, command ∈ server.shared.acp.commands ∧
          command.respond? = some name

theorem calling_start
    (maxActive idleWindow now : Nat) (loaded : List (String × SessionId)) :
    Calling cfg (start maxActive idleWindow now loaded) where
  agree := AcpClient.callsAgree_spawned
  own := by
    intro command call member
    cases member
  waiting := by
    intro name thread found
    cases found

/-- Commands without a channel aside, a step that is no call brings none, and
loses some only with the driver. -/
theorem Uncalled.commands
    {client next : AcpClient} (uncalled : client.Uncalled next) :
    (∀ command, command ∈ next.commands →
        command ∈ client.commands ∨ command.respond? = none) ∧
      ((∀ command, command ∈ client.commands → command ∈ next.commands) ∨
        next.driver = .gone) ∧
        (client.driver = .gone → next.driver = .gone) := by
  rcases uncalled with rfl | ⟨action, taken, noCall⟩
  · exact ⟨fun _ => .inl, .inl fun _ => id, id⟩
  · obtain ⟨comes, stays, gone⟩ := AcpClient.commands_of_step taken noCall
    refine ⟨?_, stays, gone⟩
    intro command member
    rcases comes command member with earlier | ⟨_, _, _, _, rfl⟩
    · exact .inl earlier
    · exact .inr rfl

theorem Calling.passes
    (calling : Calling cfg server)
    (uncalled : server.shared.acp.Uncalled target.shared.acp)
    (passes : Passes cfg server target) :
    Calling cfg target := by
  obtain ⟨fewer, more, gone⟩ := Uncalled.commands uncalled
  have kept : ∀ call thread, server.threads call = some thread →
      ∃ next, target.threads call = some next ∧
        (next.callStage = thread.callStage ∨ next.callStage = .after) ∧
          ∀ command, thread.Asks cfg call command →
            next.Asks cfg call command := by
    intro call thread found
    cases passes with
    | stays same =>
        rw [same]
        exact ⟨thread, found, .inl rfl, fun _ => id⟩
    | comes name next threads free =>
        have different : call ≠ name := by
          intro same
          rw [same, free] at found
          cases found
        rw [threads, Pool.put_other different]
        exact ⟨thread, found, .inl rfl, fun _ => id⟩
    | goesOn name before next threads isBefore goesOn =>
        rw [threads]
        by_cases same : call = name
        · subst same
          rw [found] at isBefore
          cases isBefore
          exact ⟨next, Pool.put_self _ _ _, goesOn.stage, goesOn.asks⟩
        · rw [Pool.put_other same]
          exact ⟨thread, found, .inl rfl, fun _ => id⟩
  refine ⟨uncalled.agree calling.agree, ?_, ?_⟩
  · intro command call member isCall
    rcases fewer command member with before | noCall
    · obtain ⟨thread, found, stage, asks⟩ :=
        calling.own command call before isCall
      obtain ⟨next, foundNext, goesOn, stillAsks⟩ := kept call thread found
      refine ⟨next, foundNext, ?_, stillAsks command asks⟩
      rcases goesOn with same | after
      · rw [same]
        exact stage
      · rw [after]
        exact CallStage.noConfusion
    · rw [noCall] at isCall
      cases isCall
  · intro name thread found waits
    have waited : ∃ before, server.threads name = some before ∧
        before.callStage = .waiting := by
      cases passes with
      | stays same =>
          rw [same] at found
          exact ⟨thread, found, waits⟩
      | comes other next threads free notWaiting =>
          rw [threads] at found
          rcases Pool.put_cases found with ⟨rfl, rfl⟩ | ⟨_, before⟩
          · exact absurd waits notWaiting
          · exact ⟨thread, before, waits⟩
      | goesOn other before next threads isBefore goesOn =>
          rw [threads] at found
          rcases Pool.put_cases found with ⟨rfl, rfl⟩ | ⟨_, earlier⟩
          · refine ⟨before, isBefore, ?_⟩
            rcases goesOn.stage with same | after
            · rw [← same]
              exact waits
            · rw [after] at waits
              cases waits
          · exact ⟨thread, earlier, waits⟩
    obtain ⟨before, foundBefore, waitedBefore⟩ := waited
    rcases calling.waiting name before foundBefore waitedBefore with
      ended | ⟨command, member, isCall⟩
    · exact .inl (gone ended)
    · rcases more with all | ended
      · exact .inr ⟨command, all command member, isCall⟩
      · exact .inl ended

theorem Calling.calls
    {name : Nat} {thread next : Thread} {command : Command}
    (calling : Calling cfg server)
    (found : server.threads name = some thread)
    (threads : target.threads = server.threads.put name next)
    (calls : Calls cfg name thread next command)
    (submitted :
      AcpClient.step (.submit command) server.shared.acp =
        some target.shared.acp) :
    Calling cfg target := by
  have fresh : ∀ other, other ∈ server.shared.acp.commands →
      other.Apart command := by
    intro other member call isCall isOwn
    cases calls.named.symm.trans isOwn
    obtain ⟨asker, isThread, stage, _⟩ := calling.own other name member isCall
    rw [found] at isThread
    cases isThread
    exact stage calls.before
  have agree : server.shared.acp.CallsAgree → target.shared.acp.CallsAgree := by
    intro before
    refine before.step ?_ submitted
    intro other isSame
    cases isSame
    exact fresh
  have others : ∀ call, call ≠ name →
      target.threads call = server.threads call := by
    intro call different
    rw [threads, Pool.put_other different]
  have asking : target.threads name = some next := by
    rw [threads, Pool.put_self]
  have commands : target.shared.acp.commands = server.shared.acp.commands ∧
        target.shared.acp.driver = .gone ∨
      target.shared.acp.commands =
          server.shared.acp.commands ++ [command] ∧
        target.shared.acp.driver = server.shared.acp.driver := by
    obtain ⟨_, ⟨gone, same⟩ | ⟨_, queued⟩⟩ := AcpClient.submit_some submitted
    · rw [same]
      exact .inl ⟨rfl, gone⟩
    · rw [queued]
      exact .inr ⟨by simp [AcpClient.commands], rfl⟩
  refine ⟨agree calling.agree, ?_, ?_⟩
  · intro other call member isCall
    have cases : other ∈ server.shared.acp.commands ∨ other = command := by
      rcases commands with ⟨same, _⟩ | ⟨more, _⟩
      · rw [same] at member
        exact .inl member
      · rw [more] at member
        exact (List.mem_append.mp member).imp_right List.mem_singleton.mp
    rcases cases with before | rfl
    · obtain ⟨asker, isThread, stage, asks⟩ :=
        calling.own other call before isCall
      have different : call ≠ name := by
        rintro rfl
        exact fresh other before call isCall calls.named
      exact ⟨asker, (others call different).trans isThread, stage, asks⟩
    · cases calls.named.symm.trans isCall
      refine ⟨next, asking, ?_, calls.asked⟩
      rw [calls.waits]
      exact CallStage.noConfusion
  · intro tested waiter isThread waits
    by_cases same : tested = name
    · subst same
      rcases commands with ⟨_, gone⟩ | ⟨more, _⟩
      · exact .inl gone
      · refine .inr ⟨command, ?_, calls.named⟩
        rw [more]
        exact List.mem_append_right _ (List.mem_singleton.mpr rfl)
    · rw [others tested same] at isThread
      rcases commands with ⟨_, gone⟩ | ⟨more, sameDriver⟩
      · exact .inl gone
      · rw [more, sameDriver]
        rcases calling.waiting tested waiter isThread waits with
          ended | ⟨other, member, isCall⟩
        · exact .inl ended
        · exact .inr ⟨other, List.mem_append_left _ member, isCall⟩

theorem Calling.step
    {action : Action}
    (calling : Calling cfg server)
    (taken : step json cfg action server = some target) :
    Calling cfg target := by
  rcases calls_of_step taken with
    ⟨name, thread, next, command, found, threads, calls, submitted⟩ |
      ⟨uncalled, passes⟩
  · exact calling.calls found threads calls submitted
  · exact calling.passes uncalled passes

section

variable {trace : List Action} {maxActive idleWindow now : Nat}
variable {loaded : List (String × SessionId)}

theorem calling_of_run
    (run : Run (Server.step json cfg) free
      (start maxActive idleWindow now loaded) trace server) :
    Calling cfg server :=
  run.invariant (Calling cfg) (calling_start maxActive idleWindow now loaded)
    fun _ _ _ before _ taken => before.step taken

/-- The driver has answered the call, or may still answer it. -/
def CallPending (client : AcpClient) (name : Nat) : Prop :=
  client.driver ≠ .gone ∧
    ∃ command, command.respond? = some name ∧
      (command ∈ client.queue ∨ client.driver = .awaiting command)

/-- A request that waits for its call has an answer, or the driver has the
call, or the driver is gone. -/
theorem Calling.fate
    {name : Nat} {thread : Thread}
    (calling : Calling cfg server)
    (found : server.threads name = some thread)
    (waits : thread.callStage = .waiting) :
    (∃ answer, server.shared.acp.replies name = some answer) ∨
      CallPending server.shared.acp name ∨
        server.shared.acp.driver = .gone := by
  by_cases gone : server.shared.acp.driver = .gone
  · exact .inr (.inr gone)
  · rcases calling.waiting name thread found waits with
      ended | ⟨command, member, isCall⟩
    · exact .inr (.inr ended)
    · rcases List.mem_append.mp member with isSent | queued
      · rcases calling.agree.settled command name isSent isCall with
          atAwait | ended | answered
        · exact .inr (.inl ⟨gone, command, isCall, .inr atAwait⟩)
        · exact .inr (.inr ended)
        · exact .inl answered
      · exact .inr (.inl ⟨gone, command, isCall, .inl queued⟩)

/-- The command is answered by the agent, or sent, if it is a cancel. -/
def Answered (command : Command) (answer : Answer) (server : Server)
    (action : Action) : Prop :=
  ∃ act, action = .acp act ∧
    AcpClient.Answers command answer server.shared.acp act

/-- Threads answer no calls. -/
theorem answered_of_step
    {action : Action} {name : Nat} {answer : Answer}
    (taken : step json cfg action server = some target)
    (got : target.shared.acp.replies name = some answer) :
    server.shared.acp.replies name = some answer ∨
      ∃ command act, action = .acp act ∧
        AcpClient.step act server.shared.acp = some target.shared.acp ∧
          command.respond? = some name ∧
            AcpClient.Answers command answer server.shared.acp act := by
  have unanswered : ∀ {act : AcpClient.Action},
      AcpClient.step act server.shared.acp = some target.shared.acp →
        (∀ given, act ≠ .answer given) → act ≠ .receive →
          server.shared.acp.replies name = some answer := by
    intro act moved notAnswer notReceive
    rcases AcpClient.reply_of_step moved got with before | ⟨_, _, answers⟩
    · exact before
    · cases answers with
      | byAgent => exact absurd rfl (notAnswer answer)
      | bySending => exact absurd rfl notReceive
  cases step_steps taken with
  | prompts thread env handler next after found moved =>
      left
      cases moved with
      | asks acp _ _ _ submitted => exact unanswered submitted nofun nofun
      | routes session guarded taskId content acp _ registered =>
          exact unanswered registered nofun nofun
      | unsent guarded taskId error acp _ _ called =>
          exact unanswered called nofun nofun
      | sends _ guarded taskId acp _ _ called =>
          exact unanswered called nofun nofun
      | polls guarded call stream item acp _ _ _ _ isTaken =>
          exact unanswered isTaken nofun nofun
      | _ => exact got
  | works thread env before next after found noHandler affected =>
      left
      cases affected with
      | submits command acp submitted =>
          exact unanswered submitted nofun nofun
      | _ => exact got
  | agent act acp outside stepped =>
      rcases AcpClient.reply_of_step stepped got with
        before | ⟨command, isCall, answers⟩
      · exact .inl before
      · exact .inr ⟨command, act, rfl, stepped, isCall, answers⟩
  | _ => exact .inl got

theorem sent_of_step
    {action : Action} (taken : step json cfg action server = some target) :
    server.shared.acp.sent <+: target.shared.acp.sent := by
  rcases step_acp taken with same | ⟨act, moved, _⟩
  · rw [same]
  · exact AcpClient.sent_grows moved

/-- Every answer was given to a command that had been sent for it. -/
theorem answered_of_run
    (run : Run (Server.step json cfg) free
      (start maxActive idleWindow now loaded) trace server)
    {name : Nat} {answer : Answer}
    (got : server.shared.acp.replies name = some answer) :
    ∃ command, command ∈ server.shared.acp.sent ∧
      command.respond? = some name ∧
        SomeStep (Server.step json cfg) (Answered command answer)
          (start maxActive idleWindow now loaded) trace := by
  induction run with
  | start => cases got
  | snoc before _ taken inductionHypothesis =>
      have agree := (calling_of_run before).agree
      rcases answered_of_step taken got with
        earlier | ⟨command, act, rfl, moved, isCall, answers⟩
      · obtain ⟨command, member, isCall, happened⟩ :=
          inductionHypothesis earlier
        exact ⟨command, (sent_of_step taken).subset member, isCall,
          (before.someStep_snoc _).mpr (.inl happened)⟩
      · exact ⟨command, answers.sent agree moved, isCall,
          (before.someStep_snoc _).mpr (.inr ⟨act, rfl, answers⟩)⟩

/-- In every run, an answer that a request finds is the one the agent gave to
the one command this request has sent; it is not overwritten; and a request
that still waits has an answer, or its call is with the driver, or the driver
is gone. -/
theorem calls_answered_once
    (run : Run (Server.step json cfg) free
      (start maxActive idleWindow now loaded) trace server) :
    (∀ name answer, server.shared.acp.replies name = some answer →
      (∃ thread command, server.threads name = some thread ∧
        thread.Asks cfg name command ∧
          command ∈ server.shared.acp.sent ∧
            SomeStep (Server.step json cfg) (Answered command answer)
                (start maxActive idleWindow now loaded) trace ∧
              ∀ other, other ∈ server.shared.acp.commands →
                other.respond? = some name → other = command) ∧
        ∀ rest later, Run (Server.step json cfg) free server rest later →
          later.shared.acp.replies name = some answer) ∧
      ∀ name thread, server.threads name = some thread →
        thread.callStage = .waiting →
          (∃ answer, server.shared.acp.replies name = some answer) ∨
            CallPending server.shared.acp name ∨
              server.shared.acp.driver = .gone := by
  have calling := calling_of_run run
  refine ⟨?_, fun name thread found waits => calling.fate found waits⟩
  intro name answer got
  obtain ⟨command, member, isCall, happened⟩ := answered_of_run run got
  have received : command ∈ server.shared.acp.commands :=
    List.mem_append_left _ member
  obtain ⟨thread, found, _, asks⟩ := calling.own command name received isCall
  refine ⟨⟨thread, command, found, asks, member, happened, ?_⟩, ?_⟩
  · intro other isOther sameCall
    exact calling.agree.unique isOther received sameCall isCall
  · intro rest later after
    have kept : Calling cfg later ∧
        later.shared.acp.replies name = some answer := by
      refine after.invariant
        (fun reached => Calling cfg reached ∧
          reached.shared.acp.replies name = some answer)
        ⟨calling, got⟩ ?_
      intro source action next before _ taken
      refine ⟨before.1.step taken, ?_⟩
      rcases step_acp taken with same | ⟨act, moved, _⟩
      · rw [same]
        exact before.2
      · exact before.1.agree.reply_stays before.2 moved
    exact kept.2

end

/-- A prompt and a reset of its conversation, each with its own answer. -/
theorem overlapping_calls_answered :
    ∃ trace server,
      exec (step .constant plainConfig) trace (start 10 60 0 []) =
          some server ∧
        SomeStep (step .constant plainConfig)
            (Answered (.sessionNew plainConfig.cwd 0) (.session "s"))
            (start 10 60 0 []) trace ∧
          ∃ session, SomeStep (step .constant plainConfig)
            (Answered (.cancel session 2) .done) (start 10 60 0 []) trace := by
  let prompt : Action := .work 0 { now := 0, taskId := ⟨"t"⟩ }
  let reset : Action := .work 2 { now := 0, taskId := ⟨"u"⟩ }
  let trace : List Action :=
    [.request 0 .send plainParams none, prompt, prompt, prompt, .acp .receive,
      .acp (.answer (.session "s")), prompt, .reset 2 "c" none none, reset,
      reset, prompt, reset, .acp .receive]
  obtain ⟨server, executed⟩ : ∃ server,
      exec (step .constant plainConfig) trace (start 10 60 0 []) =
        some server :=
    ⟨_, rfl⟩
  have once := calls_answered_once (run_of_exec executed)
  have forPrompt : server.shared.acp.replies 0 = some (.session "s") := by
    cases executed
    rfl
  have forReset : server.shared.acp.replies 2 = some .done := by
    cases executed
    rfl
  obtain ⟨⟨one, asked, isOne, asksOne, _, answeredOne, _⟩, _⟩ :=
    once.1 0 _ forPrompt
  obtain ⟨⟨two, told, isTwo, asksTwo, _, answeredTwo, _⟩, _⟩ :=
    once.1 2 _ forReset
  obtain ⟨⟨handler, isHandler⟩, ⟨resetting, isResetting⟩⟩ :
      (∃ handler, server.threads 0 = some (.prompt handler)) ∧
        ∃ resetting, server.threads 2 = some (.reset resetting) := by
    cases executed
    exact ⟨⟨_, rfl⟩, _, rfl⟩
  rw [isHandler] at isOne
  cases isOne
  cases asksOne
  rw [isResetting] at isTwo
  cases isTwo
  obtain ⟨session, rfl⟩ := asksTwo
  exact ⟨trace, server, executed, answeredOne, session, answeredTwo⟩

end Server

end A2AShim
