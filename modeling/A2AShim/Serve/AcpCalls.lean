import Mathlib.Data.List.Pairwise
import A2AShim.Serve.AcpPrompts

/-!
# The answers to calls

Every call but a prompt waits on a oneshot channel of its own.  The driver
answers one command after the other, and an answer goes to the channel that
came with the command.
-/

namespace A2AShim

namespace Command

/-- The channel a command is answered on, unless it is a prompt. -/
def respond? : Command → Option CallId
  | .initializeAgent respond | .sessionNew _ respond
  | .loadSession _ _ respond | .resumeSession _ _ respond
  | .cancel _ respond => some respond
  | .prompt _ _ _ => none

/-- What can come back for a command; a cancel is only sent. -/
def Takes (command : Command) (answer : Answer) : Prop :=
  command.accepts answer = true ∨
    (∃ session respond, command = .cancel session respond) ∧ answer = .done

/-- The commands do not share a channel. -/
def Apart (first second : Command) : Prop :=
  ∀ call, first.respond? = some call → second.respond? ≠ some call

end Command

namespace AcpClient

/-- The commands the driver has got so far, in the order they came in. -/
def commands (client : AcpClient) : List Command :=
  client.sent ++ client.queue

/-- What channels have got belongs to what was sent for them. -/
structure CallsAgree (client : AcpClient) : Prop where
  distinct : client.commands.Pairwise Command.Apart
  awaited : ∀ command, client.driver = .awaiting command →
    command ∈ client.sent
  replied : ∀ call answer, client.replies call = some answer →
    ∃ command, command ∈ client.sent ∧ command.respond? = some call ∧
      command.Takes answer ∧ client.driver ≠ .awaiting command
  settled : ∀ command call, command ∈ client.sent →
    command.respond? = some call →
      client.driver = .awaiting command ∨ client.driver = .gone ∨
        ∃ answer, client.replies call = some answer

/-- The agent gives `answer` to the command the driver awaits; a cancel is done
when it is sent. -/
inductive Answers (command : Command) (answer : Answer) (client : AcpClient) :
    Action → Prop
  | byAgent (awaited : client.driver = .awaiting command) :
      Answers command answer client (.answer answer)
  | bySending (session : SessionId) (respond : CallId) (rest : List Command)
      (isCancel : command = .cancel session respond)
      (isDone : answer = .done)
      (ready : client.driver = .receiving)
      (first : client.queue = command :: rest) :
      Answers command answer client .receive

theorem callsAgree_spawned : CallsAgree spawned where
  distinct := by simp [spawned, commands]
  awaited := nofun
  replied := nofun
  settled := nofun

variable {client target : AcpClient}

/-- One call, one command. -/
theorem CallsAgree.unique
    {first second : Command} {call : CallId}
    (agree : CallsAgree client)
    (memberFirst : first ∈ client.commands)
    (memberSecond : second ∈ client.commands)
    (forFirst : first.respond? = some call)
    (forSecond : second.respond? = some call) :
    first = second := by
  by_contra different
  have symmetric : Std.Symm Command.Apart :=
    ⟨fun _ _ apart call isCall same => apart call same isCall⟩
  exact agree.distinct.forall memberFirst memberSecond different call forFirst
    forSecond

/-- The driver awaits the answer to the channel it will put it on. -/
theorem answered_cases
    {answer : Answer} (taken : client.answered answer = some target) :
    ∃ command,
      client.driver = .awaiting command ∧ command.accepts answer = true ∧
        ((∃ session sink,
            command.respond? = none ∧
              target =
                { client with
                  driver := .resolved session sink answer.item }) ∨
          ∃ respond, command.respond? = some respond ∧
            target = client.reply respond answer) := by
  obtain ⟨quiet, command, atAwait, accepted, _⟩ := answered_some taken
  refine ⟨command, atAwait, accepted, ?_⟩
  have proper : command.accepts answer = true ∧ client.callback = none :=
    ⟨accepted, quiet⟩
  simp only [answered, atAwait, if_pos proper] at taken
  cases command with
  | prompt session content sink =>
      exact .inl ⟨session, sink, rfl, (Option.some.inj taken).symm⟩
  | initializeAgent respond | sessionNew _ respond
  | loadSession _ _ respond | resumeSession _ _ respond =>
      exact .inr ⟨respond, rfl, (Option.some.inj taken).symm⟩
  | cancel session respond => cases taken

@[simp]
theorem send_replies
    (client : AcpClient) (sink : PromptId) (item : StreamItem) :
    (client.send sink item).replies = client.replies := by
  unfold send
  split <;> rfl

/-! ## Step by step -/

/-- Steps that answer no call and take no command. -/
theorem CallsAgree.of_same
    (agree : CallsAgree client)
    (sameSent : target.sent = client.sent)
    (sameReplies : target.replies = client.replies)
    (fewer : target.queue.Sublist client.queue)
    (awaits : ∀ command, target.driver = .awaiting command →
      client.driver = .awaiting command)
    (waits : ∀ command call, client.driver = .awaiting command →
      command.respond? = some call →
        target.driver = .awaiting command ∨ target.driver = .gone)
    (gone : client.driver = .gone → target.driver = .gone) :
    CallsAgree target where
  distinct := by
    have shorter : target.commands.Sublist client.commands := by
      unfold commands
      rw [sameSent]
      exact (List.Sublist.refl _).append fewer
    exact List.Pairwise.sublist shorter agree.distinct
  awaited := by
    intro command atAwait
    rw [sameSent]
    exact agree.awaited command (awaits command atAwait)
  replied := by
    intro call answer got
    rw [sameReplies] at got
    obtain ⟨command, member, isCall, takes, settled⟩ :=
      agree.replied call answer got
    refine ⟨command, by rw [sameSent]; exact member, isCall, takes, ?_⟩
    intro atAwait
    exact settled (awaits command atAwait)
  settled := by
    intro command call member isCall
    rw [sameSent] at member
    rw [sameReplies]
    rcases agree.settled command call member isCall with
      atAwait | ended | answered
    · exact (waits command call atAwait isCall).imp_right .inl
    · exact .inr (.inl (gone ended))
    · exact .inr (.inr answered)

/-- The same, where the driver is not concerned either. -/
theorem CallsAgree.of_sameDriver
    (agree : CallsAgree client)
    (sameSent : target.sent = client.sent)
    (sameReplies : target.replies = client.replies)
    (fewer : target.queue.Sublist client.queue)
    (sameDriver : target.driver = client.driver) :
    CallsAgree target := by
  apply agree.of_same sameSent sameReplies fewer
  · intro command atAwait
    exact sameDriver.symm.trans atAwait
  · intro command call atAwait _
    exact .inl (sameDriver.trans atAwait)
  · exact sameDriver.trans

/-- A command comes in; a prompt needs no channel. -/
theorem CallsAgree.enqueue
    {command : Command}
    (agree : CallsAgree client)
    (fresh : ∀ other, other ∈ client.commands → other.Apart command)
    (sameSent : target.sent = client.sent)
    (sameReplies : target.replies = client.replies)
    (sameDriver : target.driver = client.driver)
    (queued : target.queue = client.queue ++ [command]) :
    CallsAgree target where
  distinct := by
    unfold commands
    rw [sameSent, queued, ← List.append_assoc]
    refine List.pairwise_append.mpr
      ⟨agree.distinct, List.pairwise_singleton _ _, ?_⟩
    intro other member last isLast
    rw [List.mem_singleton.mp isLast]
    exact fresh other member
  awaited := by
    rw [sameSent, sameDriver]
    exact agree.awaited
  replied := by
    rw [sameSent, sameReplies, sameDriver]
    exact agree.replied
  settled := by
    rw [sameSent, sameReplies, sameDriver]
    exact agree.settled

theorem CallsAgree.receive
    (agree : CallsAgree client)
    (taken : client.receive = some target) :
    CallsAgree target := by
  obtain ⟨command, rest, atReceive, queued, change⟩ := receive_some taken
  have sameCommands : (client.sent ++ [command]) ++ rest = client.commands := by
    simp [commands, queued]
  have separate : ∀ earlier, earlier ∈ client.sent →
      earlier.Apart command := by
    intro earlier member
    apply (List.pairwise_append.mp agree.distinct).2.2 earlier member
    rw [queued]
    exact List.mem_cons_self
  rcases change with ⟨session, respond, rfl, rfl⟩ | ⟨notCancel, rfl⟩
  · constructor
    · unfold commands
      rw [sameCommands]
      exact agree.distinct
    · intro other atAwait
      rw [atReceive] at atAwait
      cases atAwait
    · intro call answer got
      dsimp only at got
      by_cases isOwn : call = respond
      · subst isOwn
        rw [Function.update_self] at got
        cases got
        refine ⟨_, List.mem_append_right _ (List.mem_singleton.mpr rfl), rfl,
          .inr ⟨⟨session, call, rfl⟩, rfl⟩, ?_⟩
        rw [atReceive]
        exact Driver.noConfusion
      · rw [Function.update_of_ne isOwn] at got
        obtain ⟨other, member, isCall, takes, settled⟩ :=
          agree.replied call answer got
        exact ⟨other, List.mem_append_left _ member, isCall, takes, settled⟩
    · intro other call member isCall
      right
      right
      dsimp only
      by_cases isOwn : call = respond
      · subst isOwn
        exact ⟨.done, Function.update_self _ _ _⟩
      · rw [Function.update_of_ne isOwn]
        rcases List.mem_append.mp member with earlier | last
        · rcases agree.settled other call earlier isCall with
            atAwait | gone | answered
          · rw [atReceive] at atAwait
            cases atAwait
          · rw [atReceive] at gone
            cases gone
          · exact answered
        · rw [List.mem_singleton.mp last] at isCall
          exact absurd (Option.some.inj isCall).symm isOwn
  · constructor
    · unfold commands
      rw [sameCommands]
      exact agree.distinct
    · intro other atAwait
      cases atAwait
      exact List.mem_append_right _ (List.mem_singleton.mpr rfl)
    · intro call answer got
      obtain ⟨other, member, isCall, takes, _⟩ :=
        agree.replied call answer got
      refine ⟨other, List.mem_append_left _ member, isCall, takes, ?_⟩
      intro atAwait
      cases atAwait
      exact separate _ member call isCall isCall
    · intro other call member isCall
      rcases List.mem_append.mp member with earlier | last
      · rcases agree.settled other call earlier isCall with
          atAwait | gone | answered
        · rw [atReceive] at atAwait
          cases atAwait
        · rw [atReceive] at gone
          cases gone
        · exact .inr (.inr answered)
      · rw [List.mem_singleton.mp last]
        exact .inl rfl

theorem CallsAgree.answered
    {answer : Answer}
    (agree : CallsAgree client)
    (taken : client.answered answer = some target) :
    CallsAgree target := by
  obtain ⟨command, atAwait, accepted, change⟩ := answered_cases taken
  rcases change with ⟨session, sink, noCall, rfl⟩ | ⟨respond, isOwn, rfl⟩
  · refine agree.of_same rfl rfl (List.Sublist.refl _) ?_ ?_ ?_
    · intro other isOther
      cases isOther
    · intro other call isOther isCall
      cases atAwait.symm.trans isOther
      rw [noCall] at isCall
      cases isCall
    · intro gone
      rw [atAwait] at gone
      cases gone
  · have alone : ∀ other, other ∈ client.sent →
        other.respond? = some respond → other = command := by
      intro other member isCall
      exact agree.unique (List.mem_append_left _ member)
        (List.mem_append_left _ (agree.awaited command atAwait)) isCall isOwn
    refine ⟨agree.distinct, nofun, ?_, ?_⟩
    · intro call got isGot
      simp only [reply] at isGot ⊢
      by_cases same : call = respond
      · subst same
        rw [Function.update_self] at isGot
        cases isGot
        exact ⟨command, agree.awaited command atAwait, isOwn, .inl accepted,
          Driver.noConfusion⟩
      · rw [Function.update_of_ne same] at isGot
        obtain ⟨other, member, isCall, takes, _⟩ :=
          agree.replied call got isGot
        exact ⟨other, member, isCall, takes, Driver.noConfusion⟩
    · intro other call member isCall
      right
      right
      simp only [reply]
      by_cases same : call = respond
      · subst same
        exact ⟨answer, Function.update_self _ _ _⟩
      · rw [Function.update_of_ne same]
        rcases agree.settled other call member isCall with
          isOther | gone | answered
        · cases atAwait.symm.trans isOther
          rw [isOwn] at isCall
          exact absurd (Option.some.inj isCall).symm same
        · rw [atAwait] at gone
          cases gone
        · exact answered

/-- A call that comes in must have a channel of its own. -/
theorem CallsAgree.step
    {action : Action}
    (agree : CallsAgree client)
    (fresh : ∀ command, action = .submit command →
      ∀ other, other ∈ client.commands → other.Apart command)
    (taken : step action client = some target) :
    CallsAgree target := by
  have same : List.Sublist client.queue client.queue := List.Sublist.refl _
  cases action with
  | registerRoute sink session content =>
      obtain ⟨_, rfl⟩ := registerRoute_some taken
      exact agree.of_sameDriver rfl rfl same rfl
  | sendPrompt sink =>
      obtain ⟨stream, _, _, ⟨_, rfl⟩ | ⟨_, rfl⟩⟩ := sendPrompt_some taken
      · exact agree.of_sameDriver rfl rfl same rfl
      · refine agree.enqueue ?_ rfl rfl rfl rfl
        intro other _ call _ isCall
        cases isCall
  | submit command =>
      obtain ⟨_, ⟨_, rfl⟩ | ⟨_, rfl⟩⟩ := submit_some taken
      · exact agree
      · exact agree.enqueue (fresh command rfl) rfl rfl rfl rfl
  | receive => exact agree.receive taken
  | answer answer => exact agree.answered taken
  | sendTerminal =>
      obtain ⟨session, sink, item, atResolved, rfl⟩ := sendTerminal_some taken
      refine agree.of_same (by simp) (by simp) (by simp) nofun ?_ ?_
      · intro command call atAwait
        rw [atResolved] at atAwait
        cases atAwait
      · intro gone
        rw [atResolved] at gone
        cases gone
  | clearRoute =>
      obtain ⟨session, sink, atClearing, rfl⟩ := clearRoute_some taken
      refine agree.of_same rfl rfl same nofun ?_ ?_
      · intro command call atAwait
        rw [atClearing] at atAwait
        cases atAwait
      · intro gone
        rw [atClearing] at gone
        cases gone
  | notify session update =>
      obtain ⟨_, _, rfl⟩ := notified_some taken
      exact agree.of_sameDriver rfl rfl same rfl
  | deliver =>
      obtain ⟨sink, update, _, rfl⟩ := deliver_some taken
      exact agree.of_sameDriver (by simp) (by simp) (by simp) (by simp)
  | take sink =>
      obtain ⟨stream, _, _, _, rfl⟩ := take_some taken
      exact agree.of_sameDriver rfl rfl same rfl
  | stop =>
      obtain ⟨_, rfl⟩ := stop_some taken
      exact agree.of_same rfl rfl (List.nil_sublist _) nofun
        (fun _ _ _ _ => .inr rfl) fun _ => rfl

/-- Nothing is taken back from the agent. -/
theorem sent_grows
    {action : Action} (taken : step action client = some target) :
    client.sent <+: target.sent := by
  cases action with
  | registerRoute sink session content =>
      obtain ⟨_, rfl⟩ := registerRoute_some taken
      exact List.prefix_refl _
  | sendPrompt sink =>
      obtain ⟨stream, _, _, ⟨_, rfl⟩ | ⟨_, rfl⟩⟩ := sendPrompt_some taken
      · exact List.prefix_refl _
      · exact List.prefix_refl _
  | submit command =>
      obtain ⟨_, ⟨_, rfl⟩ | ⟨_, rfl⟩⟩ := submit_some taken
      · exact List.prefix_refl _
      · exact List.prefix_refl _
  | receive =>
      obtain ⟨command, rest, _, _, ⟨_, _, _, rfl⟩ | ⟨_, rfl⟩⟩ :=
        receive_some taken
      · exact List.prefix_append _ _
      · exact List.prefix_append _ _
  | answer given =>
      obtain ⟨_, _, _, ⟨_, _, _, rfl⟩ | ⟨_, _, rfl⟩⟩ := answered_cases taken
      · exact List.prefix_refl _
      · exact List.prefix_refl _
  | sendTerminal =>
      obtain ⟨_, _, _, _, rfl⟩ := sendTerminal_some taken
      simp
  | clearRoute =>
      obtain ⟨_, _, _, rfl⟩ := clearRoute_some taken
      exact List.prefix_refl _
  | notify session update =>
      obtain ⟨_, _, rfl⟩ := notified_some taken
      exact List.prefix_refl _
  | deliver =>
      obtain ⟨_, _, _, rfl⟩ := deliver_some taken
      simp
  | take sink =>
      obtain ⟨_, _, _, _, rfl⟩ := take_some taken
      exact List.prefix_refl _
  | stop =>
      obtain ⟨_, rfl⟩ := stop_some taken
      exact List.prefix_refl _

/-- A command is with the agent when it is answered. -/
theorem Answers.sent
    {action : Action} {command : Command} {answer : Answer}
    (answers : Answers command answer client action)
    (agree : CallsAgree client)
    (taken : step action client = some target) : command ∈ target.sent := by
  cases answers with
  | byAgent awaited =>
      exact (sent_grows taken).subset (agree.awaited command awaited)
  | bySending session respond rest isCancel isDone ready first =>
      obtain ⟨other, queued, _, next, change⟩ := receive_some taken
      rw [first] at next
      cases next
      rcases change with ⟨_, _, _, rfl⟩ | ⟨_, rfl⟩
      · exact List.mem_append_right _ (List.mem_singleton.mpr rfl)
      · exact List.mem_append_right _ (List.mem_singleton.mpr rfl)

/-- An answer on a channel was there, or is given to the channel's command
now. -/
theorem reply_of_step
    {action : Action} {call : CallId} {answer : Answer}
    (taken : step action client = some target)
    (got : target.replies call = some answer) :
    client.replies call = some answer ∨
      ∃ command, command.respond? = some call ∧
        Answers command answer client action := by
  cases action with
  | registerRoute sink session content =>
      obtain ⟨_, rfl⟩ := registerRoute_some taken
      exact .inl got
  | sendPrompt sink =>
      obtain ⟨stream, _, _, ⟨_, rfl⟩ | ⟨_, rfl⟩⟩ := sendPrompt_some taken
      · exact .inl got
      · exact .inl got
  | submit command =>
      obtain ⟨_, ⟨_, rfl⟩ | ⟨_, rfl⟩⟩ := submit_some taken
      · exact .inl got
      · exact .inl got
  | receive =>
      obtain ⟨command, rest, ready, first, change⟩ := receive_some taken
      rcases change with ⟨session, respond, isCancel, rfl⟩ | ⟨_, rfl⟩
      · by_cases same : call = respond
        · subst same
          simp only [Function.update_self, Option.some.injEq] at got
          exact .inr ⟨command, by rw [isCancel]; rfl,
            .bySending session call rest isCancel got.symm ready first⟩
        · simp only [Function.update_of_ne same] at got
          exact .inl got
      · exact .inl got
  | answer given =>
      obtain ⟨command, atAwait, _, change⟩ := answered_cases taken
      rcases change with ⟨_, _, _, rfl⟩ | ⟨respond, isCall, rfl⟩
      · exact .inl got
      · by_cases same : call = respond
        · subst same
          simp only [reply, Function.update_self, Option.some.injEq] at got
          subst got
          exact .inr ⟨command, isCall, .byAgent atAwait⟩
        · simp only [reply, Function.update_of_ne same] at got
          exact .inl got
  | sendTerminal =>
      obtain ⟨_, _, _, _, rfl⟩ := sendTerminal_some taken
      simp only [send_replies] at got
      exact .inl got
  | clearRoute =>
      obtain ⟨_, _, _, rfl⟩ := clearRoute_some taken
      exact .inl got
  | notify session update =>
      obtain ⟨_, _, rfl⟩ := notified_some taken
      exact .inl got
  | deliver =>
      obtain ⟨_, _, _, rfl⟩ := deliver_some taken
      simp only [send_replies] at got
      exact .inl got
  | take sink =>
      obtain ⟨_, _, _, _, rfl⟩ := take_some taken
      exact .inl got
  | stop =>
      obtain ⟨_, rfl⟩ := stop_some taken
      exact .inl got

/-- No channel is answered twice. -/
theorem CallsAgree.reply_stays
    {action : Action} {call : CallId} {answer : Answer}
    (agree : CallsAgree client)
    (got : client.replies call = some answer)
    (taken : AcpClient.step action client = some target) :
    target.replies call = some answer := by
  obtain ⟨command, member, isCall, _, settled⟩ :=
    agree.replied call answer got
  cases action with
  | registerRoute sink session content =>
      obtain ⟨_, rfl⟩ := registerRoute_some taken
      exact got
  | sendPrompt sink =>
      obtain ⟨stream, _, _, ⟨_, rfl⟩ | ⟨_, rfl⟩⟩ := sendPrompt_some taken
      · exact got
      · exact got
  | submit command =>
      obtain ⟨_, ⟨_, rfl⟩ | ⟨_, rfl⟩⟩ := submit_some taken
      · exact got
      · exact got
  | receive =>
      obtain ⟨first, rest, _, queued, ⟨session, respond, rfl, rfl⟩ | ⟨_, rfl⟩⟩ :=
        receive_some taken
      · have other : call ≠ respond := by
          intro same
          subst same
          have apart : command.Apart (.cancel session call) := by
            apply (List.pairwise_append.mp agree.distinct).2.2 command member
            rw [queued]
            exact List.mem_cons_self
          exact apart call isCall rfl
        dsimp only
        rw [Function.update_of_ne other]
        exact got
      · exact got
  | answer given =>
      obtain ⟨awaited, atAwait, _, change⟩ := answered_cases taken
      rcases change with ⟨session, sink, _, rfl⟩ | ⟨respond, isOwn, rfl⟩
      · exact got
      · have other : call ≠ respond := by
          intro same
          subst same
          have isSame : command = awaited :=
            agree.unique (List.mem_append_left _ member)
              (List.mem_append_left _ (agree.awaited awaited atAwait)) isCall
              isOwn
          subst isSame
          exact settled atAwait
        simp only [reply]
        rw [Function.update_of_ne other]
        exact got
  | sendTerminal =>
      obtain ⟨session, sink, item, _, rfl⟩ := sendTerminal_some taken
      simpa using got
  | clearRoute =>
      obtain ⟨session, sink, _, rfl⟩ := clearRoute_some taken
      exact got
  | notify session update =>
      obtain ⟨_, _, rfl⟩ := notified_some taken
      exact got
  | deliver =>
      obtain ⟨sink, update, _, rfl⟩ := deliver_some taken
      simpa using got
  | take sink =>
      obtain ⟨stream, _, _, _, rfl⟩ := take_some taken
      exact got
  | stop =>
      obtain ⟨_, rfl⟩ := stop_some taken
      exact got

end AcpClient

end A2AShim
