import A2AShim.Serve.AcpLiveness

/-!
# Outstanding prompts

A prompt is outstanding from its `session_prompt_blocks` call until the
agent's response resolves it.  While it is, its stream carries no terminal
item, whoever the callers are and whatever else they do.
-/

namespace A2AShim

namespace AcpClient

/-- The prompts whose command is queued or awaited. -/
def pendingSinks (client : AcpClient) : List PromptId :=
  client.pending.filterMap Command.sink?

/-- The prompt was registered, and has no response yet. -/
def Outstanding (client : AcpClient) (sink : PromptId) : Prop :=
  (∃ stream, client.streams sink = some stream ∧
      stream.status = .registered) ∨
    sink ∈ client.pendingSinks

/-- Somebody holds a sender of the stream of `sink`, as far as a look at the
stream's own session, the queue, the driver and the callback can tell. -/
def isOpen (client : AcpClient) (sink : PromptId) : Bool :=
  match client.streams sink with
  | none => false
  | some stream =>
      decide (client.routes stream.session = some sink) ||
        client.queue.any (fun command => command.sink? == some sink) ||
          decide (client.driver.sink? = some sink) ||
            decide (client.callback.map Prod.fst = some sink) ||
              decide (stream.status = .registered)

/-- What the parts of the client say about one prompt fits together. -/
structure PromptsAgree (client : AcpClient) : Prop where
  registeredAlone : ∀ sink stream,
    client.streams sink = some stream → stream.status = .registered →
      sink ∉ client.pendingSinks
  pendingReturned : ∀ sink, sink ∈ client.pendingSinks →
    ∃ stream, client.streams sink = some stream ∧ stream.status = .returned
  pendingDistinct : client.pendingSinks.Nodup
  unended : ∀ sink stream, client.Outstanding sink →
    client.streams sink = some stream →
      ∀ item, item ∈ stream.items → endsStream item = false
  finished : ∀ session sink, client.Finishing session sink →
    (∃ stream, client.streams sink = some stream) ∧ ¬ client.Outstanding sink
  routed : ∀ session sink, client.routes session = some sink →
    ∃ stream, client.streams sink = some stream ∧ stream.session = session
  held : ∀ sink update, client.callback = some (sink, update) →
    ∃ stream, client.streams sink = some stream

theorem promptsAgree_spawned : PromptsAgree spawned where
  registeredAlone := by simp [spawned]
  pendingReturned := by simp [spawned, pendingSinks, pending]
  pendingDistinct := by simp [spawned, pendingSinks, pending]
  unended := by simp [spawned]
  finished := by simp [spawned, Finishing]
  routed := by simp [spawned]
  held := by simp [spawned]

variable {client target : AcpClient} {sink : PromptId}

/-! ## Outstanding prompts, step by step -/

/-- A step that leaves the statuses of all streams, and brings no prompt to
the agent, leaves the outstanding prompts or fewer. -/
theorem Outstanding.of_fewer
    (outstanding : target.Outstanding sink)
    (sameStatus : ∀ stream, target.streams sink = some stream →
      ∃ before, client.streams sink = some before ∧
        before.status = stream.status)
    (fewer : sink ∈ target.pendingSinks → sink ∈ client.pendingSinks) :
    client.Outstanding sink := by
  rcases outstanding with ⟨stream, found, inCall⟩ | waiting
  · obtain ⟨before, foundBefore, same⟩ := sameStatus stream found
    exact .inl ⟨before, foundBefore, same.trans inCall⟩
  · exact .inr (fewer waiting)

/-- How a step that starts and sends no prompt changes one stream. -/
structure StreamKept (client target : AcpClient) (sink : PromptId) : Prop where
  back : ∀ stream, target.streams sink = some stream →
    ∃ before, client.streams sink = some before ∧
      before.status = stream.status ∧ before.session = stream.session ∧
        (∀ item, item ∈ stream.items →
          item ∈ before.items ∨ endsStream item = false ∨
            ¬ client.Outstanding sink)
  forth : ∀ before, client.streams sink = some before →
    ∃ stream, target.streams sink = some stream ∧
      stream.status = before.status ∧ stream.session = before.session

theorem streamKept_of_same
    (same : target.streams sink = client.streams sink) :
    StreamKept client target sink where
  back := by
    intro stream found
    rw [same] at found
    exact ⟨stream, found, rfl, rfl, fun item member => .inl member⟩
  forth := by
    intro before found
    exact ⟨before, same.trans found, rfl, rfl⟩

theorem streamKept_of_send
    {channel : PromptId} {item : StreamItem}
    (sent : target.streams = (client.send channel item).streams)
    (harmless : endsStream item = false ∨ ¬ client.Outstanding channel)
    (sink : PromptId) :
    StreamKept client target sink := by
  by_cases same : sink = channel
  · subst same
    have now :
        target.streams sink =
          (client.streams sink).map fun stream =>
            { stream with items := stream.items ++ [item] } := by
      rw [sent, send_streams, if_pos rfl]
    constructor
    · intro stream found
      rw [now] at found
      obtain ⟨before, foundBefore, rfl⟩ := Option.map_eq_some_iff.mp found
      refine ⟨before, foundBefore, rfl, rfl, ?_⟩
      intro other member
      rcases List.mem_append.mp member with earlier | last
      · exact .inl earlier
      · rw [List.mem_singleton.mp last]
        exact .inr harmless
    · intro before found
      refine ⟨{ before with items := before.items ++ [item] }, ?_, rfl, rfl⟩
      rw [now, found]
      rfl
  · apply streamKept_of_same
    rw [sent, send_streams, if_neg same]

/-- The steps that start and send no prompt. -/
theorem PromptsAgree.of_kept
    (agree : PromptsAgree client)
    (kept : ∀ sink, StreamKept client target sink)
    (fewer : target.pendingSinks.Sublist client.pendingSinks)
    (finished : ∀ session sink, target.Finishing session sink →
      (∃ stream, client.streams sink = some stream) ∧
        (∀ stream, client.streams sink = some stream →
          stream.status ≠ .registered) ∧
          sink ∉ target.pendingSinks)
    (routed : ∀ session sink, target.routes session = some sink →
      client.routes session = some sink)
    (held : ∀ sink update, target.callback = some (sink, update) →
      ∃ stream, client.streams sink = some stream) :
    PromptsAgree target where
  registeredAlone := by
    intro sink stream found inCall waiting
    obtain ⟨before, foundBefore, same, _⟩ := (kept sink).back stream found
    exact agree.registeredAlone sink before foundBefore (same.trans inCall)
      (fewer.subset waiting)
  pendingReturned := by
    intro sink waiting
    obtain ⟨before, found, returned⟩ :=
      agree.pendingReturned sink (fewer.subset waiting)
    obtain ⟨stream, foundNow, same, _⟩ := (kept sink).forth before found
    exact ⟨stream, foundNow, same.trans returned⟩
  pendingDistinct := agree.pendingDistinct.sublist fewer
  unended := by
    intro sink stream outstanding found item member
    obtain ⟨before, foundBefore, same, _, items⟩ :=
      (kept sink).back stream found
    have outstandingBefore : client.Outstanding sink :=
      outstanding.of_fewer
        (fun other foundOther => by
          rw [found] at foundOther
          cases foundOther
          exact ⟨before, foundBefore, same⟩)
        (fun waiting => fewer.subset waiting)
    rcases items item member with earlier | harmless | settled
    · exact agree.unended sink before outstandingBefore foundBefore item earlier
    · exact harmless
    · exact absurd outstandingBefore settled
  finished := by
    intro session sink finishing
    obtain ⟨⟨before, found⟩, called, settled⟩ :=
      finished session sink finishing
    obtain ⟨stream, foundNow, same, _⟩ := (kept sink).forth before found
    refine ⟨⟨stream, foundNow⟩, ?_⟩
    intro prompts
    rcases prompts with ⟨other, foundOther, inCall⟩ | waiting
    · rw [foundNow] at foundOther
      cases foundOther
      exact called before found (same.symm.trans inCall)
    · exact settled waiting
  routed := by
    intro session sink route
    obtain ⟨before, found, same⟩ :=
      agree.routed session sink (routed session sink route)
    obtain ⟨stream, foundNow, _, sameSession⟩ := (kept sink).forth before found
    exact ⟨stream, foundNow, sameSession.trans same⟩
  held := by
    intro sink update pair
    obtain ⟨before, found⟩ := held sink update pair
    obtain ⟨stream, foundNow, _⟩ := (kept sink).forth before found
    exact ⟨stream, foundNow⟩

theorem PromptsAgree.not_registered
    (agree : PromptsAgree client) {session : SessionId}
    (finishing : client.Finishing session sink)
    {stream : PromptStream} (found : client.streams sink = some stream) :
    stream.status ≠ .registered := by
  intro inCall
  exact (agree.finished session sink finishing).2 (.inl ⟨stream, found, inCall⟩)

theorem PromptsAgree.not_pending
    (agree : PromptsAgree client) {session : SessionId}
    (finishing : client.Finishing session sink) :
    sink ∉ client.pendingSinks :=
  fun waiting => (agree.finished session sink finishing).2 (.inr waiting)

/-- Steps that change neither the driver nor the pending commands. -/
theorem PromptsAgree.of_sameDriver
    (agree : PromptsAgree client)
    (kept : ∀ sink, StreamKept client target sink)
    (sameDriver : target.driver = client.driver)
    (samePending : target.pendingSinks = client.pendingSinks)
    (routed : ∀ session sink, target.routes session = some sink →
      client.routes session = some sink)
    (held : ∀ sink update, target.callback = some (sink, update) →
      ∃ stream, client.streams sink = some stream) :
    PromptsAgree target := by
  refine agree.of_kept kept (by rw [samePending]) ?_ routed held
  intro session sink finishing
  have before : client.Finishing session sink := by
    unfold Finishing at finishing
    rw [sameDriver] at finishing
    exact finishing
  rw [samePending]
  exact ⟨(agree.finished session sink before).1,
    fun stream found => agree.not_registered before found,
    agree.not_pending before⟩

/-- Steps after which the driver is not finishing with any prompt. -/
theorem PromptsAgree.of_idleDriver
    (agree : PromptsAgree client)
    (sameStreams : target.streams = client.streams)
    (fewer : target.pendingSinks.Sublist client.pendingSinks)
    (idle : ∀ session sink, ¬ target.Finishing session sink)
    (routed : ∀ session sink, target.routes session = some sink →
      client.routes session = some sink)
    (held : ∀ sink update, target.callback = some (sink, update) →
      ∃ stream, client.streams sink = some stream) :
    PromptsAgree target :=
  agree.of_kept
    (fun sink => streamKept_of_same (congrFun sameStreams sink)) fewer
    (fun session sink finishing => absurd finishing (idle session sink))
    routed held

/-! ## One step -/

theorem sink?_of_not_prompt
    {command : Command} (other : command.isPrompt = false) :
    command.sink? = none := by
  cases command with
  | prompt session content sink => cases other
  | _ => rfl

theorem pendingSinks_enqueue
    (client : AcpClient) (streams : PromptId → Option PromptStream)
    (command : Command) :
    pendingSinks { client with
      streams := streams, queue := client.queue ++ [command] } =
      client.pendingSinks ++ command.sink?.toList := by
  unfold pendingSinks
  rw [pending_enqueue, List.filterMap_append]
  cases carried : command.sink? <;> simp [carried]

/-- A driver that is not awaiting has only the queue before it. -/
theorem pendingSinks_of_not_awaiting
    (free : ∀ command, client.driver ≠ .awaiting command) :
    client.pendingSinks = client.queue.filterMap Command.sink? := by
  unfold pendingSinks pending
  split
  · rename_i command atAwait
    exact absurd atAwait (free command)
  · rfl

theorem pendingSinks_of_awaiting
    {command : Command} (atAwait : client.driver = .awaiting command) :
    client.pendingSinks =
      command.sink?.toList ++ client.queue.filterMap Command.sink? := by
  unfold pendingSinks pending
  rw [atAwait]
  cases carried : command.sink? <;> simp [carried]

/-- The driver has read nothing yet of a queue that begins with `command`. -/
theorem pendingSinks_of_receiving
    {command : Command} {rest : List Command}
    (atReceive : client.driver = .receiving)
    (queued : client.queue = command :: rest) :
    client.pendingSinks =
      command.sink?.toList ++ rest.filterMap Command.sink? := by
  rw [pendingSinks_of_not_awaiting (by simp [atReceive]), queued]
  cases carried : command.sink? <;> simp [carried]

theorem PromptsAgree.registerRoute
    {session : SessionId} {content : List ContentBlock}
    (agree : PromptsAgree client)
    (taken : client.registerRoute sink session content = some target) :
    PromptsAgree target := by
  obtain ⟨fresh, rfl⟩ := registerRoute_some taken
  have notPending : sink ∉ client.pendingSinks := by
    intro waiting
    obtain ⟨stream, found, _⟩ := agree.pendingReturned sink waiting
    rw [fresh] at found
    cases found
  have older : ∀ tested, tested ≠ sink → ∀ stream,
      ((client.putStream sink
          { session, content, status := .registered, items := [], taken := 0 }
        ).putRoute session (some sink)).streams tested = some stream →
        client.streams tested = some stream := by
    intro tested different stream found
    rw [← found]
    exact (putStream_other different).symm
  have settled : ∀ tested, tested ≠ sink → ¬ client.Outstanding tested →
      ¬ Outstanding
        ((client.putStream sink
            { session, content, status := .registered, items := []
              taken := 0 }).putRoute session (some sink)) tested := by
    intro tested different before prompts
    rcases prompts with ⟨stream, found, inCall⟩ | waiting
    · exact before (.inl ⟨stream, older tested different stream found, inCall⟩)
    · exact before (.inr waiting)
  have same : ∀ tested, tested ≠ sink →
      ((client.putStream sink
          { session, content, status := .registered, items := [], taken := 0 }
        ).putRoute session (some sink)).streams tested =
        client.streams tested :=
    fun tested different => putStream_other different
  constructor
  · intro tested stream found inCall
    by_cases named : tested = sink
    · subst named
      exact notPending
    · exact agree.registeredAlone tested stream
        (older tested named stream found) inCall
  · intro tested waiting
    have named : tested ≠ sink := by
      intro isSame
      subst isSame
      exact notPending waiting
    obtain ⟨stream, found, returned⟩ := agree.pendingReturned tested waiting
    exact ⟨stream, (same tested named).trans found, returned⟩
  · exact agree.pendingDistinct
  · intro tested stream outstanding found
    by_cases named : tested = sink
    · subst named
      have isNew := (putStream_self client tested _).symm.trans found
      cases isNew
      simp
    · refine agree.unended tested stream ?_ (older tested named stream found)
      by_contra before
      exact settled tested named before outstanding
  · intro finishedOn tested finishing
    obtain ⟨⟨stream, found⟩, before⟩ :=
      agree.finished finishedOn tested finishing
    have named : tested ≠ sink := by
      intro isSame
      subst isSame
      rw [fresh] at found
      cases found
    exact ⟨⟨stream, (same tested named).trans found⟩,
      settled tested named before⟩
  · intro tested found route
    by_cases named : tested = session
    · subst named
      have leads : some sink = some found := by
        rw [← route]
        exact (Function.update_self tested (some sink) client.routes).symm
      cases leads
      exact ⟨_, putStream_self client sink _, rfl⟩
    · have before : client.routes tested = some found := by
        rw [← route]
        exact (Function.update_of_ne named (some sink) client.routes).symm
      obtain ⟨stream, known, sameSession⟩ := agree.routed tested found before
      have other : found ≠ sink := by
        intro isSame
        subst isSame
        rw [fresh] at known
        cases known
      exact ⟨stream, (same found other).trans known, sameSession⟩
  · intro found update pair
    obtain ⟨stream, known⟩ := agree.held found update pair
    have other : found ≠ sink := by
      intro isSame
      subst isSame
      rw [fresh] at known
      cases known
    exact ⟨stream, (same found other).trans known⟩

/-- A call that returns: its stream is failed, or its command is queued. -/
theorem PromptsAgree.of_return
    {stream : PromptStream} {status : CallStatus}
    (agree : PromptsAgree client)
    (found : client.streams sink = some stream)
    (inCall : stream.status = .registered)
    (sameStreams :
      target.streams = (client.putStream sink { stream with status }).streams)
    (sameDriver : target.driver = client.driver)
    (sameCallback : target.callback = client.callback)
    (routed : ∀ session tested, target.routes session = some tested →
      client.routes session = some tested)
    (result :
      (status = .failed ∧ target.pendingSinks = client.pendingSinks) ∨
        (status = .returned ∧
          target.pendingSinks = client.pendingSinks ++ [sink])) :
    PromptsAgree target := by
  have calling : client.Outstanding sink := .inl ⟨stream, found, inCall⟩
  have unqueued := agree.registeredAlone sink stream found inCall
  have own : target.streams sink = some { stream with status } := by
    rw [sameStreams, putStream_self]
  have same : ∀ tested, tested ≠ sink →
      target.streams tested = client.streams tested := by
    intro tested different
    rw [sameStreams, putStream_other different]
  have notInCall : status ≠ .registered := by
    rcases result with ⟨rfl, _⟩ | ⟨rfl, _⟩ <;> decide
  have pendingNow : ∀ tested, tested ∈ target.pendingSinks →
      tested ∈ client.pendingSinks ∨ (tested = sink ∧ status = .returned) := by
    intro tested waiting
    rcases result with ⟨_, samePending⟩ | ⟨returned, more⟩
    · rw [samePending] at waiting
      exact .inl waiting
    · rw [more] at waiting
      rcases List.mem_append.mp waiting with before | last
      · exact .inl before
      · exact .inr ⟨List.mem_singleton.mp last, returned⟩
  have older : ∀ tested, target.Outstanding tested →
      client.Outstanding tested := by
    intro tested prompts
    rcases prompts with ⟨other, foundNow, registered⟩ | waiting
    · by_cases named : tested = sink
      · subst named
        exact calling
      · rw [same tested named] at foundNow
        exact .inl ⟨other, foundNow, registered⟩
    · rcases pendingNow tested waiting with before | ⟨rfl, _⟩
      · exact .inr before
      · exact calling
  have known : ∀ tested, (∃ before, client.streams tested = some before) →
      ∃ after, target.streams tested = some after := by
    intro tested earlier
    rcases earlier with ⟨before, foundBefore⟩
    by_cases named : tested = sink
    · subst named
      exact ⟨_, own⟩
    · exact ⟨before, (same tested named).trans foundBefore⟩
  constructor
  · intro tested other foundNow registered waiting
    by_cases named : tested = sink
    · subst named
      rw [own] at foundNow
      cases foundNow
      exact notInCall registered
    · rw [same tested named] at foundNow
      rcases pendingNow tested waiting with before | ⟨rfl, _⟩
      · exact agree.registeredAlone tested other foundNow registered before
      · exact named rfl
  · intro tested waiting
    rcases pendingNow tested waiting with before | ⟨rfl, returned⟩
    · have named : tested ≠ sink := by
        intro isSame
        subst isSame
        exact unqueued before
      obtain ⟨other, foundBefore, returned⟩ :=
        agree.pendingReturned tested before
      exact ⟨other, (same tested named).trans foundBefore, returned⟩
    · exact ⟨_, own, returned⟩
  · rcases result with ⟨_, samePending⟩ | ⟨_, more⟩
    · rw [samePending]
      exact agree.pendingDistinct
    · rw [more]
      apply agree.pendingDistinct.append (List.nodup_singleton sink)
      intro tested before last
      rw [List.mem_singleton.mp last] at before
      exact unqueued before
  · intro tested other outstanding foundNow item member
    by_cases named : tested = sink
    · subst named
      rw [own] at foundNow
      cases foundNow
      exact agree.unended tested stream calling found item member
    · rw [same tested named] at foundNow
      exact agree.unended tested other (older tested outstanding) foundNow item
        member
  · intro session tested finishing
    have before : client.Finishing session tested := by
      unfold Finishing at finishing
      rw [sameDriver] at finishing
      exact finishing
    obtain ⟨exists_, settled⟩ := agree.finished session tested before
    exact ⟨known tested exists_, fun outstanding =>
      settled (older tested outstanding)⟩
  · intro session tested route
    obtain ⟨before, foundBefore, sameSession⟩ :=
      agree.routed session tested (routed session tested route)
    by_cases named : tested = sink
    · subst named
      rw [found] at foundBefore
      cases foundBefore
      exact ⟨_, own, sameSession⟩
    · exact ⟨before, (same tested named).trans foundBefore, sameSession⟩
  · intro tested update pair
    rw [sameCallback] at pair
    exact known tested (agree.held tested update pair)

theorem PromptsAgree.sendPrompt
    (agree : PromptsAgree client)
    (taken : client.sendPrompt sink = some target) :
    PromptsAgree target := by
  obtain ⟨stream, found, inCall, ⟨_, rfl⟩ | ⟨alive, rfl⟩⟩ :=
    sendPrompt_some taken
  · refine agree.of_return found inCall rfl rfl rfl ?_ (.inl ⟨rfl, rfl⟩)
    intro session tested route
    by_cases named : session = stream.session
    · subst named
      have cleared : none = some tested := by
        rw [← route]
        exact (Function.update_self stream.session none client.routes).symm
      cases cleared
    · rw [← route]
      exact (Function.update_of_ne named none client.routes).symm
  · refine agree.of_return found inCall rfl rfl rfl (fun _ _ route => route)
      (.inr ⟨rfl, ?_⟩)
    exact pendingSinks_enqueue client _ _

theorem PromptsAgree.submit
    {command : Command} (agree : PromptsAgree client)
    (taken : client.submit command = some target) :
    PromptsAgree target := by
  obtain ⟨other, ⟨_, rfl⟩ | ⟨_, rfl⟩⟩ := submit_some taken
  · exact agree
  · refine agree.of_sameDriver (fun sink => streamKept_of_same rfl) rfl ?_
      (fun _ _ route => route) agree.held
    have enqueued := pendingSinks_enqueue client client.streams command
    rw [sink?_of_not_prompt other] at enqueued
    simpa using enqueued

theorem PromptsAgree.receive
    (agree : PromptsAgree client)
    (taken : client.receive = some target) :
    PromptsAgree target := by
  obtain ⟨command, rest, atReceive, queued, outcome⟩ := receive_some taken
  have before := pendingSinks_of_receiving atReceive queued
  rcases outcome with ⟨session, respond, rfl, rfl⟩ | ⟨_, rfl⟩
  · refine agree.of_idleDriver rfl ?_ (by simp [Finishing, atReceive])
      (fun _ _ route => route) agree.held
    rw [before, pendingSinks_of_not_awaiting (by simp [atReceive])]
    exact List.sublist_append_right _ _
  · refine agree.of_idleDriver rfl ?_ (by simp [Finishing])
      (fun _ _ route => route) agree.held
    rw [before, pendingSinks_of_awaiting rfl]

theorem PromptsAgree.answered
    {answer : Answer} (agree : PromptsAgree client)
    (taken : client.answered answer = some target) :
    PromptsAgree target := by
  obtain ⟨idle, command, atAwait, _, outcome⟩ := answered_some taken
  have before := pendingSinks_of_awaiting atAwait
  rcases outcome with ⟨session, content, sink, rfl, rfl⟩ | ⟨_, respond, rfl⟩
  · have whole : client.pendingSinks =
        sink :: client.queue.filterMap Command.sink? := before
    have after :
        pendingSinks { client with
          driver := .resolved session sink answer.item } =
          client.queue.filterMap Command.sink? :=
      pendingSinks_of_not_awaiting (by simp)
    obtain ⟨stream, found, returned⟩ :=
      agree.pendingReturned sink (by simp [whole])
    have distinct := agree.pendingDistinct
    rw [whole] at distinct
    refine agree.of_kept (fun _ => streamKept_of_same rfl) ?_ ?_
      (fun _ _ route => route) agree.held
    · rw [after, whole]
      exact List.sublist_cons_self _ _
    · intro finishedOn tested finishing
      have named : sink = tested := by
        rcases finishing with ⟨item, atResolved⟩ | atClearing
        · cases atResolved
          rfl
        · cases atClearing
      subst named
      refine ⟨⟨stream, found⟩, ?_, ?_⟩
      · intro other foundOther inCall
        rw [found] at foundOther
        cases foundOther
        rw [returned] at inCall
        cases inCall
      · rw [after]
        exact (List.nodup_cons.mp distinct).1
  · refine agree.of_idleDriver rfl ?_ (by simp [Finishing, reply])
      (fun _ _ route => route) agree.held
    rw [before, pendingSinks_of_not_awaiting (by simp [reply])]
    exact List.sublist_append_right _ _

theorem PromptsAgree.sendTerminal
    (agree : PromptsAgree client)
    (taken : client.sendTerminal = some target) :
    PromptsAgree target := by
  obtain ⟨session, sink, item, atResolved, rfl⟩ := sendTerminal_some taken
  have finishing : client.Finishing session sink := .inl ⟨item, atResolved⟩
  obtain ⟨known, settled⟩ := agree.finished session sink finishing
  have samePending :
      pendingSinks { client.send sink item with
        driver := .clearing session sink } = client.pendingSinks := by
    rw [pendingSinks_of_not_awaiting (by simp),
      pendingSinks_of_not_awaiting (by simp [atResolved])]
    simp
  refine agree.of_kept (streamKept_of_send rfl (.inr settled))
    (by rw [samePending]) ?_ ?_ ?_
  · intro finishedOn tested finishingNow
    have named : sink = tested := by
      rcases finishingNow with ⟨item, atResolvedNow⟩ | atClearing
      · cases atResolvedNow
      · cases atClearing
        rfl
    subst named
    rw [samePending]
    exact ⟨known, fun stream found => agree.not_registered finishing found,
      agree.not_pending finishing⟩
  · intro tested found route
    rw [← route]
    exact congrFun (send_routes client sink item).symm tested
  · intro tested update pair
    apply agree.held tested update
    rw [← pair]
    exact (send_callback client sink item).symm

theorem PromptsAgree.clearRoute
    (agree : PromptsAgree client)
    (taken : client.clearRoute = some target) :
    PromptsAgree target := by
  obtain ⟨session, sink, atClearing, rfl⟩ := clearRoute_some taken
  refine agree.of_idleDriver rfl ?_ (by simp [Finishing]) ?_ agree.held
  · rw [pendingSinks_of_not_awaiting (by simp),
      pendingSinks_of_not_awaiting (by simp [atClearing])]
    exact List.Sublist.refl _
  · intro tested found route
    by_cases named : tested = session
    · subst named
      have cleared : none = some found := by
        rw [← route]
        exact (Function.update_self tested none client.routes).symm
      cases cleared
    · rw [← route]
      exact (Function.update_of_ne named none client.routes).symm

theorem PromptsAgree.notified
    {session : SessionId} {update : SessionUpdate}
    (agree : PromptsAgree client)
    (taken : client.notified session update = some target) :
    PromptsAgree target := by
  obtain ⟨_, _, rfl⟩ := notified_some taken
  refine agree.of_sameDriver (fun _ => streamKept_of_same rfl) rfl rfl
    (fun _ _ route => route) ?_
  intro sink held pair
  obtain ⟨found, route, named⟩ := Option.map_eq_some_iff.mp pair
  cases named
  obtain ⟨stream, known, _⟩ := agree.routed session sink route
  exact ⟨stream, known⟩

theorem PromptsAgree.deliver
    (agree : PromptsAgree client)
    (taken : client.deliver = some target) :
    PromptsAgree target := by
  obtain ⟨sink, update, _, rfl⟩ := deliver_some taken
  refine agree.of_sameDriver (streamKept_of_send rfl (.inl rfl))
    (send_driver _ _ _) ?_ ?_ (by simp)
  · unfold pendingSinks pending
    simp
  · intro session tested route
    rw [← route]
    exact congrFun (send_routes client sink _).symm session

theorem PromptsAgree.take
    (agree : PromptsAgree client)
    (taken : client.take sink = some target) :
    PromptsAgree target := by
  obtain ⟨stream, found, _, _, rfl⟩ := take_some taken
  refine agree.of_sameDriver ?_ rfl rfl (fun _ _ route => route) agree.held
  intro tested
  by_cases named : tested = sink
  · subst named
    constructor
    · intro after foundNow
      rw [putStream_self] at foundNow
      cases foundNow
      exact ⟨stream, found, rfl, rfl, fun item member => .inl member⟩
    · intro before foundBefore
      rw [found] at foundBefore
      cases foundBefore
      exact ⟨_, putStream_self _ _ _, rfl, rfl⟩
  · exact streamKept_of_same (putStream_other named)

theorem PromptsAgree.stop
    (agree : PromptsAgree client)
    (taken : client.stop = some target) :
    PromptsAgree target := by
  obtain ⟨_, rfl⟩ := stop_some taken
  refine agree.of_idleDriver rfl ?_ (by simp [Finishing])
    (fun _ _ route => route) (by simp)
  rw [pendingSinks_of_not_awaiting (by simp)]
  exact List.nil_sublist _

theorem PromptsAgree.step
    {action : Action} (agree : PromptsAgree client)
    (taken : step action client = some target) :
    PromptsAgree target := by
  cases action with
  | registerRoute sink session content => exact agree.registerRoute taken
  | sendPrompt sink => exact agree.sendPrompt taken
  | submit command => exact agree.submit taken
  | receive => exact agree.receive taken
  | answer answer => exact agree.answered taken
  | sendTerminal => exact agree.sendTerminal taken
  | clearRoute => exact agree.clearRoute taken
  | notify session update => exact agree.notified taken
  | deliver => exact agree.deliver taken
  | take sink => exact agree.take taken
  | stop => exact agree.stop taken

/-- Writing one channel back leaves the channel of another prompt. -/
theorem stream_of_put
    {written : PromptId} {put stream : PromptStream}
    (different : sink ≠ written)
    (found : (client.putStream written put).streams sink = some stream) :
    client.streams sink = some stream := by
  rw [putStream_other different] at found
  exact found

/-- Only `session_prompt_blocks` makes a prompt outstanding. -/
theorem outstanding_step
    {action : Action} (agree : PromptsAgree client)
    (taken : step action client = some target)
    (outstanding : target.Outstanding sink) :
    client.Outstanding sink ∨
      ∃ session content, action = .registerRoute sink session content := by
  have ofSame :
      (∀ tested, StreamKept client target tested) →
        target.pendingSinks.Sublist client.pendingSinks →
          client.Outstanding sink := by
    intro kept fewer
    apply outstanding.of_fewer _ fun waiting => fewer.subset waiting
    intro stream found
    obtain ⟨before, foundBefore, same, _⟩ := (kept sink).back stream found
    exact ⟨before, foundBefore, same⟩
  cases action with
  | registerRoute started session content =>
      obtain ⟨_, rfl⟩ := registerRoute_some taken
      by_cases named : sink = started
      · subst named
        exact .inr ⟨session, content, rfl⟩
      · left
        rcases outstanding with ⟨stream, found, inCall⟩ | waiting
        · exact .inl ⟨stream, stream_of_put named found, inCall⟩
        · exact .inr waiting
  | sendPrompt called =>
      left
      obtain ⟨stream, found, inCall, outcome⟩ := sendPrompt_some taken
      by_cases named : sink = called
      · subst named
        exact .inl ⟨stream, found, inCall⟩
      · rcases outcome with ⟨_, rfl⟩ | ⟨_, rfl⟩
        · rcases outstanding with ⟨other, foundOther, registered⟩ | waiting
          · exact .inl ⟨other, stream_of_put named foundOther, registered⟩
          · exact .inr waiting
        · rcases outstanding with ⟨other, foundOther, registered⟩ | waiting
          · exact .inl ⟨other, stream_of_put named foundOther, registered⟩
          · have enqueued : sink ∈ client.pendingSinks ++ [called] := by
              have whole :=
                pendingSinks_enqueue client
                  (client.putStream called
                    { stream with status := .returned }).streams
                  (.prompt stream.session stream.content called)
              simp only [Command.sink?, Option.toList_some] at whole
              rw [← whole]
              exact waiting
            rcases List.mem_append.mp enqueued with before | last
            · exact .inr before
            · exact absurd (List.mem_singleton.mp last) named
  | submit command =>
      left
      obtain ⟨other, ⟨_, rfl⟩ | ⟨_, rfl⟩⟩ := submit_some taken
      · exact outstanding
      · apply ofSame fun _ => streamKept_of_same rfl
        have enqueued := pendingSinks_enqueue client client.streams command
        rw [sink?_of_not_prompt other] at enqueued
        simp only [Option.toList_none, List.append_nil] at enqueued
        rw [enqueued]
  | receive =>
      left
      obtain ⟨command, rest, atReceive, queued, outcome⟩ := receive_some taken
      have before := pendingSinks_of_receiving atReceive queued
      rcases outcome with ⟨session, respond, rfl, rfl⟩ | ⟨_, rfl⟩
      · apply ofSame fun _ => streamKept_of_same rfl
        rw [before, pendingSinks_of_not_awaiting (by simp [atReceive])]
        exact List.sublist_append_right _ _
      · apply ofSame fun _ => streamKept_of_same rfl
        rw [before, pendingSinks_of_awaiting rfl]
  | answer answer =>
      left
      obtain ⟨_, command, atAwait, _, outcome⟩ := answered_some taken
      have before := pendingSinks_of_awaiting atAwait
      rcases outcome with ⟨session, content, ended, rfl, rfl⟩ | ⟨_, respond, rfl⟩
      · apply ofSame fun _ => streamKept_of_same rfl
        rw [before, pendingSinks_of_not_awaiting (by simp)]
        exact List.sublist_append_right _ _
      · apply ofSame fun _ => streamKept_of_same rfl
        rw [before, pendingSinks_of_not_awaiting (by simp [reply])]
        exact List.sublist_append_right _ _
  | sendTerminal =>
      left
      obtain ⟨session, ended, item, atResolved, rfl⟩ := sendTerminal_some taken
      have settled :=
        (agree.finished session ended (.inl ⟨item, atResolved⟩)).2
      apply ofSame (streamKept_of_send rfl (.inr settled))
      rw [pendingSinks_of_not_awaiting (by simp),
        pendingSinks_of_not_awaiting (by simp [atResolved])]
      simp
  | clearRoute =>
      left
      obtain ⟨session, ended, atClearing, rfl⟩ := clearRoute_some taken
      apply ofSame fun _ => streamKept_of_same rfl
      rw [pendingSinks_of_not_awaiting (by simp),
        pendingSinks_of_not_awaiting (by simp [atClearing])]
      exact List.Sublist.refl _
  | notify session update =>
      left
      obtain ⟨_, _, rfl⟩ := notified_some taken
      exact outstanding
  | deliver =>
      left
      obtain ⟨delivered, update, _, rfl⟩ := deliver_some taken
      apply ofSame (streamKept_of_send rfl (.inl rfl))
      simp [pendingSinks, pending]
  | take taker =>
      left
      obtain ⟨stream, found, _, _, rfl⟩ := take_some taken
      rcases outstanding with ⟨other, foundOther, registered⟩ | waiting
      · by_cases named : sink = taker
        · subst named
          rw [putStream_self] at foundOther
          cases foundOther
          exact .inl ⟨stream, found, registered⟩
        · exact .inl ⟨other, stream_of_put named foundOther, registered⟩
      · exact .inr waiting
  | stop =>
      left
      obtain ⟨_, rfl⟩ := stop_some taken
      apply ofSame fun _ => streamKept_of_same rfl
      rw [pendingSinks_of_not_awaiting (by simp)]
      exact List.nil_sublist _

/-- A prompt is outstanding only if it was, unless it is registered now. -/
theorem outstanding_of_step
    {action : Action} (agree : PromptsAgree client)
    (taken : step action client = some target)
    (unregistered : ∀ session content,
      action ≠ .registerRoute sink session content)
    (outstanding : target.Outstanding sink) :
    client.Outstanding sink := by
  rcases outstanding_step agree taken outstanding with
    before | ⟨session, content, started⟩
  · exact before
  · exact absurd started (unregistered session content)

/-- A prompt whose command could not be queued is over. -/
theorem PromptsAgree.not_outstanding_of_unsent
    (agree : PromptsAgree client) (gone : client.driver = .gone)
    (taken : client.sendPrompt sink = some target) :
    ¬ target.Outstanding sink := by
  obtain ⟨stream, found, inCall, ⟨_, rfl⟩ | ⟨alive, _⟩⟩ :=
    sendPrompt_some taken
  · intro prompts
    rcases prompts with ⟨other, foundOther, registered⟩ | waiting
    · rw [putStream_self] at foundOther
      cases foundOther
      cases registered
    · exact agree.registeredAlone sink stream found inCall waiting
  · exact absurd gone alive

/-! ## What the reader of a stream can tell -/

theorem PromptsAgree.not_outstanding_of_end
    (agree : PromptsAgree client) {stream : PromptStream}
    (found : client.streams sink = some stream)
    {item : StreamItem} (member : item ∈ stream.items)
    (ends : endsStream item = true) :
    ¬ client.Outstanding sink := by
  intro outstanding
  have unended := agree.unended sink stream outstanding found item member
  rw [ends] at unended
  cases unended

/-- A stream is at its end when nobody holds a sender of it. -/
theorem PromptsAgree.isOpen_iff
    (agree : PromptsAgree client) :
    client.isOpen sink = true ↔ client.HasSender sink := by
  unfold isOpen
  cases found : client.streams sink with
  | none =>
      refine iff_of_false Bool.false_ne_true ?_
      intro held
      have unknown : ¬ ∃ stream, client.streams sink = some stream := by
        intro known
        rcases known with ⟨stream, known⟩
        rw [found] at known
        cases known
      cases held with
      | routed session route =>
          obtain ⟨stream, known, _⟩ := agree.routed session sink route
          exact unknown ⟨stream, known⟩
      | queued command waiting carries =>
          have queued : sink ∈ client.queue.filterMap Command.sink? :=
            List.mem_filterMap.mpr ⟨command, waiting, carries⟩
          have isPending : sink ∈ client.pendingSinks := by
            unfold pendingSinks pending
            split
            · exact (List.sublist_cons_self _ _).filterMap _ |>.subset queued
            · exact queued
          obtain ⟨stream, known, _⟩ := agree.pendingReturned sink isPending
          exact unknown ⟨stream, known⟩
      | driving holds =>
          cases atDriver : client.driver with
          | awaiting command =>
              rw [atDriver] at holds
              have isPending : sink ∈ client.pendingSinks := by
                have carried : command.sink? = some sink := holds
                rw [pendingSinks_of_awaiting atDriver, carried]
                simp
              obtain ⟨stream, known, _⟩ := agree.pendingReturned sink isPending
              exact unknown ⟨stream, known⟩
          | resolved session other item =>
              rw [atDriver] at holds
              cases holds
              exact unknown
                (agree.finished session sink (.inl ⟨item, atDriver⟩)).1
          | clearing session other =>
              rw [atDriver] at holds
              cases holds
              exact unknown (agree.finished session sink (.inr atDriver)).1
          | receiving =>
              rw [atDriver] at holds
              cases holds
          | gone =>
              rw [atDriver] at holds
              cases holds
      | delivering update pair => exact unknown (agree.held sink update pair)
      | calling stream known _ => exact unknown ⟨stream, known⟩
  | some stream =>
      simp only [Bool.or_eq_true, decide_eq_true_eq, List.any_eq_true,
        beq_iff_eq]
      constructor
      · intro holder
        rcases holder with
          (((route | ⟨command, waiting, carries⟩) | holds) | held) | inCall
        · exact .routed stream.session route
        · exact .queued command waiting carries
        · exact .driving holds
        · obtain ⟨⟨named, update⟩, pair, same⟩ := Option.map_eq_some_iff.mp held
          cases same
          exact .delivering update pair
        · exact .calling stream found inCall
      · intro held
        cases held with
        | routed session route =>
            obtain ⟨other, known, same⟩ := agree.routed session sink route
            rw [found] at known
            cases known
            rw [same]
            exact .inl (.inl (.inl (.inl route)))
        | queued command waiting carries =>
            exact .inl (.inl (.inl (.inr ⟨command, waiting, carries⟩)))
        | driving holds => exact .inl (.inl (.inr holds))
        | delivering update pair =>
            refine .inl (.inr ?_)
            rw [pair]
            rfl
        | calling other known inCall =>
            rw [found] at known
            cases known
            exact .inr inCall

/-- The prompt of a stream that is at its end is not outstanding. -/
theorem PromptsAgree.not_outstanding_of_closed
    (agree : PromptsAgree client) (closed : client.isOpen sink = false) :
    ¬ client.Outstanding sink := by
  intro outstanding
  have unheld : ¬ client.HasSender sink := by
    rw [← agree.isOpen_iff, closed]
    exact Bool.false_ne_true
  rcases outstanding with ⟨stream, found, inCall⟩ | waiting
  · exact unheld (.calling stream found inCall)
  · obtain ⟨command, member, carries⟩ := List.mem_filterMap.mp waiting
    unfold pending at member
    split at member
    · rename_i awaited atAwait
      rcases List.mem_cons.mp member with rfl | queued
      · apply unheld (.driving _)
        rw [atAwait]
        exact carries
      · exact unheld (.queued command queued carries)
    · exact unheld (.queued command member carries)

end AcpClient

end A2AShim
