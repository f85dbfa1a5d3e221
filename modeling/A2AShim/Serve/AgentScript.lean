import A2AShim.Serve.Waiting

/-!
# What the agent says to one request

The answer to its `session/new`, and on its prompt the updates and the answer,
are taken down here from the steps of the agent alone.  While updates come for
the prompt only that the agent is at work on, and no other prompt is in the
driver's hands, the stream of a prompt carries what is taken down, item by
item.
-/

namespace A2AShim

/-- The prompt the agent is at work on, and its session. -/
def Driver.atWork : Driver → Option (SessionId × PromptId)
  | .awaiting (.prompt session _ sink) => some (session, sink)
  | _ => none

/-- The channel of the call the agent is at work on. -/
def Driver.calling : Driver → Option CallId
  | .awaiting command => command.respond?
  | _ => none

/-- What was taken down for a request. -/
structure Heard where
  spawned : Option Answer
  items : List StreamItem

def Heard.nothing : Heard :=
  { spawned := none, items := [] }

namespace AcpClient

/-- What the agent says on the prompt of `sink`. -/
def saidOn (client : AcpClient) (sink : PromptId) : Action → List StreamItem
  | .notify session update =>
      if client.driver.atWork = some (session, sink) then
        [.ok (.update update)]
      else
        []
  | .answer answer =>
      if client.driver.atWork.map Prod.snd = some sink then
        [answer.item]
      else
        []
  | _ => []

/-- The agent's answer to the call on this channel. -/
def saidTo (client : AcpClient) (call : CallId) : Action → Option Answer
  | .answer answer =>
      if client.driver.calling = some call then some answer else none
  | _ => none

/-- One step is taken down. -/
def hear (client : AcpClient) (name : Nat) (heard : Heard) (action : Action) :
    Heard :=
  { spawned := heard.spawned.or (client.saidTo name action)
    items := heard.items ++ client.saidOn name action }

/-- The agent sends updates for the prompt it is at work on, or for no
prompt. -/
def Undistracted (client : AcpClient) : Action → Prop
  | .notify session _ =>
      ∀ sink, client.routes session = some sink →
        client.driver.atWork = some (session, sink)
  | _ => True

variable {client target : AcpClient} {sink : PromptId} {action : Action}
variable {items : List StreamItem}

/-! ## The prompts in the driver's hands -/

/-- A prompt with the driver, from its command on to the end of its route. -/
def InHand (client : AcpClient) (session : SessionId) (sink : PromptId) :
    Prop :=
  (∃ content, Command.prompt session content sink ∈ client.pending) ∨
    client.Finishing session sink

theorem inHand_of_atWork
    {session : SessionId}
    (atWork : client.driver.atWork = some (session, sink)) :
    client.InHand session sink := by
  unfold Driver.atWork at atWork
  split at atWork
  · rename_i content _ isDriver
    cases atWork
    refine .inl ⟨content, ?_⟩
    unfold pending
    rw [isDriver]
    exact List.mem_cons_self
  · cases atWork

/-- A prompt in the driver's hands is pending, or being finished. -/
theorem InHand.cases
    {session : SessionId} (inHand : client.InHand session sink) :
    sink ∈ client.pendingSinks ∨ client.Finishing session sink := by
  rcases inHand with ⟨content, member⟩ | finishing
  · exact .inl (List.mem_filterMap.mpr ⟨_, member, rfl⟩)
  · exact .inr finishing

/-- Steps that leave the driver and do not add to its queue. -/
theorem InHand.of_same
    {session : SessionId} (inHand : target.InHand session sink)
    (driver : target.driver = client.driver)
    (queue : target.queue = client.queue) :
    client.InHand session sink := by
  unfold InHand Finishing pending at inHand ⊢
  rwa [driver, queue] at inHand

/-- A prompt comes into the driver's hands with its command. -/
theorem inHand_of_step
    {session : SessionId}
    (taken : step action client = some target)
    (inHand : target.InHand session sink) :
    client.InHand session sink ∨
      action = .sendPrompt sink ∧ ∃ stream,
        client.streams sink = some stream ∧ stream.session = session ∧
          stream.status = .registered := by
  cases action with
  | registerRoute other session content =>
      obtain ⟨_, rfl⟩ := registerRoute_some taken
      exact .inl (inHand.of_same rfl rfl)
  | sendPrompt other =>
      obtain ⟨stream, found, inCall, ⟨_, rfl⟩ | ⟨_, rfl⟩⟩ :=
        sendPrompt_some taken
      · exact .inl (inHand.of_same rfl rfl)
      · rcases inHand with ⟨content, member⟩ | finishing
        · have enqueued := pending_enqueue client
            (client.putStream other
              { stream with status := .returned }).streams
            (.prompt stream.session stream.content other)
          rcases List.mem_append.mp (enqueued ▸ member) with before | last
          · exact .inl (.inl ⟨content, before⟩)
          · cases List.mem_singleton.mp last
            exact .inr ⟨rfl, stream, found, rfl, inCall⟩
        · exact .inl (.inr finishing)
  | submit command =>
      obtain ⟨other, ⟨_, rfl⟩ | ⟨_, rfl⟩⟩ := submit_some taken
      · exact .inl inHand
      · left
        rcases inHand with ⟨content, member⟩ | finishing
        · have enqueued := pending_enqueue client client.streams command
          rcases List.mem_append.mp (enqueued ▸ member) with before | last
          · exact .inl ⟨content, before⟩
          · rw [← List.mem_singleton.mp last] at other
            cases other
        · exact .inr finishing
  | receive =>
      obtain ⟨command, rest, atReceive, queued, outcome⟩ := receive_some taken
      left
      have before : client.pending = command :: rest := by
        unfold pending
        rw [atReceive, queued]
      rcases outcome with ⟨_, _, _, rfl⟩ | ⟨_, rfl⟩
      · rcases inHand with ⟨content, member⟩ | finishing
        · refine .inl ⟨content, ?_⟩
          unfold pending at member
          rw [atReceive] at member
          rw [before]
          exact List.mem_cons_of_mem _ member
        · simp [Finishing, atReceive] at finishing
      · rcases inHand with ⟨content, member⟩ | finishing
        · exact .inl ⟨content, before ▸ member⟩
        · simp [Finishing] at finishing
  | answer answer =>
      obtain ⟨_, command, atAwait, _, outcome⟩ := answered_some taken
      left
      have before : client.pending = command :: client.queue := by
        unfold pending
        rw [atAwait]
      rcases outcome with ⟨prompted, content, other, rfl, rfl⟩ | ⟨_, _, rfl⟩
      · rcases inHand with ⟨content, member⟩ | finishing
        · refine .inl ⟨content, ?_⟩
          rw [before]
          exact List.mem_cons_of_mem _ member
        · refine .inl ⟨content, ?_⟩
          rw [before]
          rcases finishing with ⟨item, standing⟩ | standing
          · cases standing
            exact List.mem_cons_self
          · cases standing
      · rcases inHand with ⟨content, member⟩ | finishing
        · refine .inl ⟨content, ?_⟩
          rw [before]
          exact List.mem_cons_of_mem _ member
        · simp [Finishing, reply] at finishing
  | sendTerminal =>
      obtain ⟨finished, other, item, atResolved, rfl⟩ :=
        sendTerminal_some taken
      left
      rcases inHand with ⟨content, member⟩ | finishing
      · refine .inl ⟨content, ?_⟩
        unfold pending at member ⊢
        rw [atResolved]
        simpa using member
      · refine .inr ?_
        rcases finishing with ⟨item, standing⟩ | standing
        · cases standing
        · cases standing
          exact .inl ⟨item, atResolved⟩
  | clearRoute =>
      obtain ⟨finished, other, atClearing, rfl⟩ := clearRoute_some taken
      left
      rcases inHand with ⟨content, member⟩ | finishing
      · refine .inl ⟨content, ?_⟩
        unfold pending at member ⊢
        rw [atClearing]
        exact member
      · simp [Finishing] at finishing
  | notify session update =>
      obtain ⟨_, _, rfl⟩ := notified_some taken
      exact .inl (inHand.of_same rfl rfl)
  | deliver =>
      obtain ⟨other, update, _, rfl⟩ := deliver_some taken
      exact .inl (inHand.of_same (by simp) (by simp))
  | take other =>
      obtain ⟨stream, _, _, _, rfl⟩ := take_some taken
      exact .inl (inHand.of_same rfl rfl)
  | stop =>
      obtain ⟨_, rfl⟩ := stop_some taken
      rcases inHand with ⟨content, member⟩ | finishing
      · cases member
      · simp [Finishing] at finishing

/-! ## The stream follows the agent -/

/-- No prompt but that of `sink` is in the driver's hands, and its stream is
what was taken down for it. -/
structure Follows (sink : PromptId) (client : AcpClient)
    (items : List StreamItem) : Prop where
  own : ∀ session other, client.InHand session other → other = sink
  routed : ∀ session, client.InHand session sink →
    client.routes session = some sink
  unsent : ∀ stream, client.streams sink = some stream →
    stream.status = .registered →
      client.routes stream.session = some sink ∧ items = []
  held : ∀ update, client.callback = some (sink, update) →
    ∃ session, client.driver.atWork = some (session, sink)
  fresh : client.streams sink = none → items = []
  whole : ∀ stream, client.streams sink = some stream →
    client.driver ≠ .gone →
      stream.items ++ (client.heldUpdate sink ++ client.heldTerminal sink) =
        items
  left : ∀ stream, client.streams sink = some stream →
    client.driver = .gone →
      stream.items <+: items ∧
        (stream.items = items ∨ client.routes stream.session = some sink)

theorem saidOn_of_idle
    (idle : ∀ session, client.driver.atWork ≠ some (session, sink))
    (action : Action) :
    client.saidOn sink action = [] := by
  cases action with
  | notify session update => exact if_neg (idle session)
  | answer answer =>
      refine if_neg ?_
      intro atWork
      obtain ⟨⟨session, asked⟩, isDriver, rfl⟩ :=
        Option.map_eq_some_iff.mp atWork
      exact idle session isDriver
  | _ => rfl

theorem not_atWork
    (notPending : sink ∉ client.pendingSinks) (session : SessionId) :
    client.driver.atWork ≠ some (session, sink) := by
  intro atWork
  unfold Driver.atWork at atWork
  split at atWork
  · rename_i content _ isDriver
    cases atWork
    apply notPending
    rw [pendingSinks_of_awaiting isDriver]
    exact List.mem_append_left _ (List.mem_singleton.mpr rfl)
  · cases atWork

/-- Nothing is said on a prompt before its command is sent. -/
theorem saidOn_of_unsent
    (agree : client.PromptsAgree)
    (unsent : ∀ stream, client.streams sink = some stream →
      stream.status = .registered)
    (action : Action) :
    client.saidOn sink action = [] := by
  refine saidOn_of_idle (not_atWork ?_) action
  intro waiting
  obtain ⟨stream, found, returned⟩ := agree.pendingReturned sink waiting
  rw [unsent stream found] at returned
  cases returned

theorem heldTerminal_of_driver
    (different : ∀ session item, client.driver ≠ .resolved session sink item) :
    client.heldTerminal sink = [] := by
  apply heldTerminal_of_away
  intro session other item standing isSame
  subst isSame
  exact different session item standing

/-- Nothing is on its way to a stream that is not there. -/
theorem unheld_of_fresh
    (agree : client.PromptsAgree) (unknown : client.streams sink = none) :
    client.heldUpdate sink = [] ∧ client.heldTerminal sink = [] := by
  constructor
  · apply heldUpdate_of_away
    intro other update pair isSame
    obtain ⟨stream, found⟩ := agree.held other update pair
    rw [isSame, unknown] at found
    cases found
  · apply heldTerminal_of_driver
    intro session item standing
    obtain ⟨⟨stream, found⟩, _⟩ :=
      agree.finished session sink (.inl ⟨item, standing⟩)
    rw [unknown] at found
    cases found

namespace Follows

theorem own_step
    (follows : Follows sink client items)
    (taken : step action client = some target)
    (byOwn : ∀ caller, action.caller? = some caller → caller = sink)
    (session : SessionId) (other : PromptId)
    (inHand : target.InHand session other) : other = sink := by
  rcases inHand_of_step taken inHand with before | ⟨rfl, _⟩
  · exact follows.own session other before
  · exact byOwn other rfl

theorem own_step_of_caller
    (follows : Follows sink client items)
    (taken : step action client = some target)
    (isCaller : action.caller? = some sink) :
    ∀ session other, target.InHand session other → other = sink := by
  apply follows.own_step taken
  intro caller isOther
  rw [isCaller] at isOther
  exact (Option.some.inj isOther).symm

/-- An update is on its way to the prompt only while the agent is at work on
it. -/
theorem not_held
    (follows : Follows sink client items)
    (idle : client.driver.atWork = none) (update : SessionUpdate) :
    client.callback ≠ some (sink, update) := by
  intro pair
  obtain ⟨session, atWork⟩ := follows.held update pair
  rw [idle] at atWork
  cases atWork

theorem routed_step
    (follows : Follows sink client items)
    (taken : step action client = some target)
    (sameRoutes : target.routes = client.routes)
    (session : SessionId) (inHand : target.InHand session sink) :
    target.routes session = some sink := by
  rw [sameRoutes]
  rcases inHand_of_step taken inHand with
    before | ⟨_, stream, found, rfl, inCall⟩
  · exact follows.routed session before
  · exact (follows.unsent stream found inCall).1

/-- Steps at which the agent may say something. -/
theorem of_hearing
    (follows : Follows sink client items) (agree : client.PromptsAgree)
    (taken : step action client = some target)
    (byOwn : ∀ caller, action.caller? = some caller → caller = sink)
    (alive : client.driver ≠ .gone) (stillAlive : target.driver ≠ .gone)
    (sameStreams : target.streams = client.streams)
    (sameRoutes : target.routes = client.routes)
    (held : ∀ update, target.callback = some (sink, update) →
      ∃ session, target.driver.atWork = some (session, sink))
    (coming :
      target.heldUpdate sink ++ target.heldTerminal sink =
        client.heldUpdate sink ++ client.heldTerminal sink ++
          client.saidOn sink action) :
    Follows sink target (items ++ client.saidOn sink action) where
  own := follows.own_step taken byOwn
  routed := follows.routed_step taken sameRoutes
  unsent := by
    intro stream found inCall
    rw [sameStreams] at found
    obtain ⟨route, noItems⟩ := follows.unsent stream found inCall
    refine ⟨by rwa [sameRoutes], ?_⟩
    rw [noItems, saidOn_of_unsent agree, List.append_nil]
    intro other foundOther
    rw [found] at foundOther
    cases foundOther
    exact inCall
  held := held
  fresh := by
    intro unknown
    rw [sameStreams] at unknown
    rw [follows.fresh unknown, saidOn_of_unsent agree, List.append_nil]
    intro stream found
    rw [unknown] at found
    cases found
  whole := by
    intro stream found _
    rw [sameStreams] at found
    rw [coming, ← follows.whole stream found alive, List.append_assoc,
      List.append_assoc, List.append_assoc]
  left := fun _ _ gone => absurd gone stillAlive

theorem receive
    (follows : Follows sink client items) (agree : client.PromptsAgree)
    (taken : step .receive client = some target) :
    Follows sink target items := by
  have hears := follows.of_hearing agree taken nofun
  simp only [saidOn, List.append_nil] at hears
  obtain ⟨command, rest, atReceive, _, outcome⟩ := receive_some taken
  have unheld := follows.not_held (by rw [atReceive]; rfl)
  rcases outcome with ⟨_, _, _, rfl⟩ | ⟨_, rfl⟩
  · refine hears (by simp [atReceive]) (by simp [atReceive]) rfl rfl ?_ rfl
    intro update pair
    exact absurd pair (unheld update)
  · refine hears (by simp [atReceive]) (by simp) rfl rfl ?_ ?_
    · intro update pair
      exact absurd pair (unheld update)
    · simp [heldUpdate, heldTerminal, atReceive]

theorem submit
    {command : Command}
    (follows : Follows sink client items) (agree : client.PromptsAgree)
    (taken : step (.submit command) client = some target) :
    Follows sink target items := by
  have hears := follows.of_hearing agree taken nofun
  simp only [saidOn, List.append_nil] at hears
  obtain ⟨_, ⟨_, rfl⟩ | ⟨alive, rfl⟩⟩ := submit_some taken
  · exact follows
  · exact hears alive alive rfl rfl follows.held rfl

theorem answered
    {answer : Answer}
    (follows : Follows sink client items) (agree : client.PromptsAgree)
    (taken : step (.answer answer) client = some target) :
    Follows sink target (items ++ client.saidOn sink (.answer answer)) := by
  have hears := follows.of_hearing agree taken nofun
  obtain ⟨idle, command, atAwait, _, outcome⟩ := answered_some taken
  have alive : client.driver ≠ .gone := by simp [atAwait]
  have before : client.heldTerminal sink = [] :=
    heldTerminal_of_driver (by simp [atAwait])
  rcases outcome with ⟨session, content, other, rfl, rfl⟩ | ⟨other, _, rfl⟩
  · refine hears alive (by simp) rfl rfl (by simp [idle]) ?_
    have said : client.saidOn sink (.answer answer) =
        if other = sink then [answer.item] else [] := by
      simp [saidOn, atAwait, Driver.atWork]
    rw [said, before]
    simp [heldUpdate, heldTerminal, idle]
  · refine hears alive (by simp [reply]) rfl rfl (by simp [reply, idle]) ?_
    have noPrompt : client.driver.atWork = none := by
      rw [atAwait]
      cases command with
      | prompt session content other => cases other
      | _ => rfl
    rw [saidOn_of_idle (by simp [noPrompt]), before]
    simp [heldUpdate, heldTerminal, reply]

theorem notified
    {session : SessionId} {update : SessionUpdate}
    (follows : Follows sink client items) (agree : client.PromptsAgree)
    (undistracted : client.Undistracted (.notify session update))
    (taken : step (.notify session update) client = some target) :
    Follows sink target
      (items ++ client.saidOn sink (.notify session update)) := by
  have hears := follows.of_hearing agree taken nofun
  obtain ⟨alive, idle, rfl⟩ := notified_some taken
  refine hears alive alive rfl rfl ?_ ?_
  · intro later pair
    obtain ⟨other, route, isPair⟩ := Option.map_eq_some_iff.mp pair
    cases isPair
    exact ⟨session, undistracted sink route⟩
  · have before : client.heldUpdate sink = [] := by
      simp [heldUpdate, idle]
    by_cases atWork : client.driver.atWork = some (session, sink)
    · have route := follows.routed session (inHand_of_atWork atWork)
      have noTerminal : client.heldTerminal sink = [] := by
        apply heldTerminal_of_driver
        intro other item standing
        rw [standing] at atWork
        cases atWork
      have terminal : heldTerminal
          { client with
            callback :=
              (client.routes session).map fun sink => (sink, update) }
          sink = client.heldTerminal sink :=
        rfl
      rw [terminal, noTerminal, before, saidOn, if_pos atWork]
      simp [heldUpdate, route]
    · have unrouted : client.routes session ≠ some sink :=
        fun route => atWork (undistracted sink route)
      rw [heldUpdate_unrouted unrouted, before, saidOn, if_neg atWork,
        List.append_nil]
      rfl

/-- An item that was held for the stream is sent on it. -/
theorem of_send
    {channel : PromptId} {item : StreamItem}
    (follows : Follows sink client items)
    (taken : step action client = some target)
    (notCaller : action.caller? = none)
    (sent : target.streams = (client.send channel item).streams)
    (sameRoutes : target.routes = client.routes)
    (sameEnd : target.driver = .gone ↔ client.driver = .gone)
    (held : ∀ update, target.callback = some (sink, update) →
      ∃ session, target.driver.atWork = some (session, sink))
    (coming : client.driver ≠ .gone →
      client.heldUpdate sink ++ client.heldTerminal sink =
        (if sink = channel then [item] else []) ++
          (target.heldUpdate sink ++ target.heldTerminal sink))
    (alive : sink = channel → client.driver ≠ .gone) :
    Follows sink target items := by
  have back : ∀ stream, target.streams sink = some stream →
      ∃ before, client.streams sink = some before ∧
        stream.status = before.status ∧ stream.session = before.session ∧
          stream.items =
            before.items ++ if sink = channel then [item] else [] := by
    intro stream found
    rw [sent, send_streams] at found
    by_cases same : sink = channel
    · rw [if_pos same, ← same] at found
      obtain ⟨before, foundBefore, rfl⟩ := Option.map_eq_some_iff.mp found
      exact ⟨before, foundBefore, rfl, rfl, by rw [if_pos same]⟩
    · rw [if_neg same] at found
      exact ⟨stream, found, rfl, rfl, by rw [if_neg same, List.append_nil]⟩
  refine ⟨follows.own_step taken (by simp [notCaller]),
    follows.routed_step taken sameRoutes, ?_, held, ?_, ?_, ?_⟩
  · intro stream found inCall
    obtain ⟨before, foundBefore, status, session, _⟩ := back stream found
    rw [sameRoutes, session]
    exact follows.unsent before foundBefore (status ▸ inCall)
  · intro unknown
    apply follows.fresh
    rw [sent, send_none_iff] at unknown
    exact unknown
  · intro stream found goesOn
    obtain ⟨before, foundBefore, _, _, more⟩ := back stream found
    have notGone : client.driver ≠ .gone := fun gone =>
      goesOn (sameEnd.mpr gone)
    rw [← follows.whole before foundBefore notGone, coming notGone, more,
      List.append_assoc]
  · intro stream found gone
    obtain ⟨before, foundBefore, _, session, more⟩ := back stream found
    have different : sink ≠ channel := fun same =>
      alive same (sameEnd.mp gone)
    rw [if_neg different, List.append_nil] at more
    rw [more, sameRoutes, session]
    exact follows.left before foundBefore (sameEnd.mp gone)

theorem deliver
    (follows : Follows sink client items)
    (taken : step .deliver client = some target) :
    Follows sink target items := by
  obtain ⟨channel, update, pair, isTarget⟩ := deliver_some taken
  have alive : sink = channel → client.driver ≠ .gone := by
    intro same gone
    subst same
    obtain ⟨session, atWork⟩ := follows.held update pair
    rw [gone] at atWork
    cases atWork
  have sends := @of_send client target sink .deliver items channel
    (.ok (.update update)) follows taken rfl
  refine sends ?_ ?_ ?_ ?_ ?_ alive
  · rw [isTarget]
  · rw [isTarget]
    simp
  · rw [isTarget]
    simp
  · rw [isTarget]
    simp
  · intro _
    have terminal : target.heldTerminal sink = client.heldTerminal sink := by
      rw [isTarget]
      simp [heldTerminal]
    have update : target.heldUpdate sink = [] := by
      rw [isTarget]
      rfl
    rw [terminal, update, List.nil_append]
    simp [heldUpdate, pair, eq_comm]

theorem sendTerminal
    (follows : Follows sink client items)
    (taken : step .sendTerminal client = some target) :
    Follows sink target items := by
  obtain ⟨session, channel, item, atResolved, isTarget⟩ :=
    sendTerminal_some taken
  have unheld := follows.not_held (by rw [atResolved]; rfl)
  have sends := @of_send client target sink .sendTerminal items channel item
    follows taken rfl
  refine sends ?_ ?_ ?_ ?_ ?_ (by simp [atResolved])
  · rw [isTarget]
  · rw [isTarget]
    simp
  · rw [isTarget]
    simp [atResolved]
  · intro update pair
    rw [isTarget] at pair
    simp only [send_callback] at pair
    exact absurd pair (unheld update)
  · intro _
    have noUpdate : client.heldUpdate sink = [] := by
      apply heldUpdate_of_away
      intro other update pair isSame
      exact unheld update (isSame ▸ pair)
    have stillNone : target.heldUpdate sink = client.heldUpdate sink := by
      rw [isTarget]
      simp [heldUpdate]
    have sentNow : target.heldTerminal sink = [] := by
      rw [isTarget]
      rfl
    rw [stillNone, noUpdate, sentNow]
    simp [heldTerminal, atResolved, eq_comm]

theorem clearRoute
    (follows : Follows sink client items) (agree : client.PromptsAgree)
    (taken : step .clearRoute client = some target) :
    Follows sink target items := by
  have ownNow := follows.own_step taken nofun
  obtain ⟨session, other, atClearing, rfl⟩ := clearRoute_some taken
  have finishing : client.Finishing session other := .inr atClearing
  have isOwn : other = sink := follows.own session other (.inr finishing)
  subst isOwn
  have settled := (agree.finished session other finishing).2
  have unheld := follows.not_held (by rw [atClearing]; rfl)
  refine ⟨ownNow, ?_, ?_, ?_, follows.fresh, ?_, ?_⟩
  · intro tested inHand
    rcases inHand.cases with waiting | standing
    · refine absurd (.inr ?_) settled
      rw [pendingSinks_of_not_awaiting (by simp)] at waiting
      rw [pendingSinks_of_not_awaiting (by simp [atClearing])]
      exact waiting
    · simp [Finishing] at standing
  · intro stream found inCall
    exact absurd (.inl ⟨stream, found, inCall⟩) settled
  · intro update pair
    exact absurd pair (unheld update)
  · intro stream found _
    rw [← follows.whole stream found (by simp [atClearing])]
    simp [heldUpdate, heldTerminal, atClearing, putRoute]
  · intro stream found gone
    cases gone

theorem stop
    (follows : Follows sink client items) (agree : client.PromptsAgree)
    (taken : step .stop client = some target) :
    Follows sink target items := by
  have ownNow := follows.own_step taken nofun
  have routedNow := fun same => follows.routed_step taken same
  obtain ⟨alive, rfl⟩ := stop_some taken
  refine ⟨ownNow, routedNow rfl, follows.unsent, nofun, follows.fresh,
    fun _ _ goesOn => absurd rfl goesOn, ?_⟩
  intro stream found _
  have whole := follows.whole stream found alive
  refine ⟨⟨_, whole⟩, ?_⟩
  by_cases nothing : client.heldUpdate sink ++ client.heldTerminal sink = []
  · rw [nothing, List.append_nil] at whole
    exact .inl whole
  · -- what is lost was on its way to a prompt that still has its route
    right
    have inHand : ∃ session, client.InHand session sink := by
      by_contra none
      apply nothing
      rw [heldUpdate_of_away, heldTerminal_of_driver]
      · rfl
      · intro session item standing
        exact none ⟨session, .inr (.inl ⟨item, standing⟩)⟩
      · intro other update pair isSame
        subst isSame
        obtain ⟨session, atWork⟩ := follows.held update pair
        exact none ⟨session, inHand_of_atWork atWork⟩
    obtain ⟨session, inHand⟩ := inHand
    have route := follows.routed session inHand
    obtain ⟨other, foundOther, isSession⟩ := agree.routed session sink route
    rw [found] at foundOther
    cases foundOther
    rw [isSession]
    exact route

theorem registerRoute
    {session : SessionId} {content : List ContentBlock}
    (follows : Follows sink client items) (agree : client.PromptsAgree)
    (taken : step (.registerRoute sink session content) client =
      some target) :
    Follows sink target items := by
  have ownNow := follows.own_step_of_caller taken rfl
  have inHandNow := fun tested =>
    @inHand_of_step client target sink _ tested taken
  obtain ⟨unknown, rfl⟩ := registerRoute_some taken
  have noItems := follows.fresh unknown
  obtain ⟨noUpdate, noTerminal⟩ := unheld_of_fresh agree unknown
  have absent : ∀ tested, ¬ client.InHand tested sink := by
    intro tested inHand
    rcases inHand.cases with waiting | standing
    · obtain ⟨stream, found, _⟩ := agree.pendingReturned sink waiting
      rw [unknown] at found
      cases found
    · obtain ⟨⟨stream, found⟩, _⟩ := agree.finished tested sink standing
      rw [unknown] at found
      cases found
  refine ⟨ownNow, ?_, ?_, ?_, fun _ => noItems, ?_, ?_⟩
  · intro tested inHand
    rcases inHandNow tested inHand with before | ⟨isSend, _⟩
    · exact absurd before (absent tested)
    · cases isSend
  · intro stream found _
    have isNew := (putStream_self client sink _).symm.trans found
    cases isNew
    exact ⟨Function.update_self _ _ _, noItems⟩
  · intro update pair
    obtain ⟨stream, found⟩ := agree.held sink update pair
    rw [unknown] at found
    cases found
  · intro stream found _
    have isNew := (putStream_self client sink _).symm.trans found
    cases isNew
    rw [noItems]
    have sameUpdate : heldUpdate
        ((client.putStream sink
          { session, content, status := .registered, items := [], taken := 0 }
          ).putRoute session (some sink)) sink = client.heldUpdate sink :=
      rfl
    have sameTerminal : heldTerminal
        ((client.putStream sink
          { session, content, status := .registered, items := [], taken := 0 }
          ).putRoute session (some sink)) sink = client.heldTerminal sink :=
      rfl
    rw [sameUpdate, sameTerminal, noUpdate, noTerminal]
    rfl
  · intro stream found _
    have isNew := (putStream_self client sink _).symm.trans found
    cases isNew
    exact ⟨List.nil_prefix, .inl noItems.symm⟩

theorem sendPrompt
    (follows : Follows sink client items) (agree : client.PromptsAgree)
    (taken : step (.sendPrompt sink) client = some target) :
    Follows sink target items := by
  have ownNow := follows.own_step_of_caller taken rfl
  have routedNow := fun same => follows.routed_step taken same
  have inHandNow := fun tested =>
    @inHand_of_step client target sink _ tested taken
  obtain ⟨stream, found, inCall, ⟨gone, rfl⟩ | ⟨alive, rfl⟩⟩ :=
    sendPrompt_some taken
  · obtain ⟨_, noItems⟩ := follows.unsent stream found inCall
    have nothing : stream.items = [] := by
      obtain ⟨isPrefix, _⟩ := follows.left stream found gone
      rw [noItems] at isPrefix
      exact List.prefix_nil.mp isPrefix
    have absent : ∀ tested, ¬ client.InHand tested sink := by
      intro tested inHand
      rcases inHand.cases with waiting | standing
      · exact agree.registeredAlone sink stream found inCall waiting
      · simp [Finishing, gone] at standing
    refine ⟨ownNow, ?_, ?_, follows.held, fun _ => noItems, ?_, ?_⟩
    · intro tested inHand
      exact absurd (inHand.of_same rfl rfl) (absent tested)
    · intro later isLater stillInCall
      rw [putStream_self] at isLater
      cases isLater
      cases stillInCall
    · intro later _ goesOn
      exact absurd gone goesOn
    · intro later isLater _
      rw [putStream_self] at isLater
      cases isLater
      rw [noItems, nothing]
      exact ⟨List.prefix_refl _, .inl rfl⟩
  · refine ⟨ownNow, routedNow rfl, ?_, follows.held, ?_, ?_, ?_⟩
    · intro later isLater stillInCall
      rw [putStream_self] at isLater
      cases isLater
      cases stillInCall
    · intro unknown
      rw [putStream_self] at unknown
      cases unknown
    · intro later isLater _
      rw [putStream_self] at isLater
      cases isLater
      exact follows.whole stream found alive
    · intro later _ gone
      exact absurd gone alive

theorem take
    (follows : Follows sink client items)
    (taken : step (.take sink) client = some target) :
    Follows sink target items := by
  have ownNow := follows.own_step_of_caller taken rfl
  have routedNow := fun same => follows.routed_step taken same
  obtain ⟨stream, found, _, _, rfl⟩ := take_some taken
  refine ⟨ownNow, routedNow rfl, ?_, follows.held, ?_, ?_, ?_⟩
  · intro later isLater inCall
    rw [putStream_self] at isLater
    cases isLater
    exact follows.unsent stream found inCall
  · intro unknown
    rw [putStream_self] at unknown
    cases unknown
  · intro later isLater alive
    rw [putStream_self] at isLater
    cases isLater
    exact follows.whole stream found alive
  · intro later isLater gone
    rw [putStream_self] at isLater
    cases isLater
    exact follows.left stream found gone

/-- One step, with what the agent says in it. -/
theorem step
    (follows : Follows sink client items) (agree : client.PromptsAgree)
    (byOwn : ∀ caller, action.caller? = some caller → caller = sink)
    (undistracted : client.Undistracted action)
    (taken : AcpClient.step action client = some target) :
    Follows sink target (items ++ client.saidOn sink action) := by
  have silent : ∀ {after : List StreamItem}, after = [] →
      Follows sink target items → Follows sink target (items ++ after) := by
    intro after isNil
    rw [isNil, List.append_nil]
    exact id
  cases action with
  | registerRoute caller session content =>
      cases byOwn caller rfl
      exact silent rfl (follows.registerRoute agree taken)
  | sendPrompt caller =>
      cases byOwn caller rfl
      exact silent rfl (follows.sendPrompt agree taken)
  | submit command => exact silent rfl (follows.submit agree taken)
  | receive => exact silent rfl (follows.receive agree taken)
  | answer answer => exact follows.answered agree taken
  | sendTerminal => exact silent rfl (follows.sendTerminal taken)
  | clearRoute => exact silent rfl (follows.clearRoute agree taken)
  | notify session update => exact follows.notified agree undistracted taken
  | deliver => exact silent rfl (follows.deliver taken)
  | take caller =>
      cases byOwn caller rfl
      exact silent rfl (follows.take taken)
  | stop => exact silent rfl (follows.stop agree taken)

end Follows

/-! ## The answer to `session/new` -/

/-- The answer that was taken down is the one on the channel. -/
theorem spawned_of_step
    {name : CallId} {heard : Heard} (agree : client.CallsAgree)
    (noCancel : ∀ session, Command.cancel session name ∉ client.queue)
    (same : heard.spawned = client.replies name)
    (taken : step action client = some target) :
    (client.hear name heard action).spawned = target.replies name := by
  unfold hear
  dsimp only
  cases replied : client.replies name with
  | some answer =>
      rw [same, replied, agree.reply_stays replied taken]
      rfl
  | none =>
      rw [same, replied, Option.none_or]
      cases got : target.replies name with
      | some answer =>
          have answers := (reply_of_step taken got).resolve_left
            (by simp [replied])
          obtain ⟨command, isCall, answers⟩ := answers
          cases answers with
          | byAgent awaited =>
              refine if_pos ?_
              rw [awaited]
              exact isCall
          | bySending session respond rest isCancel _ _ first =>
              subst isCancel
              cases isCall
              refine absurd ?_ (noCancel session)
              rw [first]
              exact List.mem_cons_self
      | none =>
          cases action with
          | answer answer =>
              refine if_neg ?_
              intro isCalling
              obtain ⟨command, atAwait, _, outcome⟩ := answered_cases taken
              rw [atAwait] at isCalling
              rcases outcome with ⟨_, _, noCall, _⟩ | ⟨respond, isCall, rfl⟩
              · exact absurd (isCalling.symm.trans noCall) nofun
              · cases isCall.symm.trans isCalling
                simp [reply] at got
          | _ => rfl

/-! ## What was taken down lasts -/

/-- The client may take a step, and what the agent says in it is taken
down. -/
inductive Hears (name : Nat) (client : AcpClient) (heard : Heard) :
    AcpClient → Heard → Prop
  | stays : Hears name client heard client heard
  | steps (action : Action) (target : AcpClient)
      (taken : step action client = some target)
      (byOwn : ∀ caller, action.caller? = some caller → caller = name)
      (undistracted : client.Undistracted action) :
      Hears name client heard target (client.hear name heard action)

/-- What is known here is known of everything that comes of it. -/
structure Lasts (name : Nat) (client : AcpClient) (heard : Heard)
    (last : AcpClient) (final : Heard) : Prop where
  items : heard.items <+: final.items
  spawned : ∀ answer, heard.spawned = some answer →
    final.spawned = some answer
  gone : client.driver = .gone →
    last.driver = .gone ∧ final.spawned = heard.spawned
  status : ∀ status, client.statusOf name = some status →
    status ≠ .registered → last.statusOf name = some status
  closed : ¬ client.HasSender name →
    (∃ stream, client.streams name = some stream) →
      ¬ last.HasSender name ∧ (∃ stream, last.streams name = some stream) ∧
        final.items = heard.items

variable {name : Nat} {heard final later : Heard} {last next : AcpClient}

theorem Lasts.refl : Lasts name client heard client heard where
  items := List.prefix_refl _
  spawned := fun _ => id
  gone := fun gone => ⟨gone, rfl⟩
  status := fun _ found _ => found
  closed := fun closed known => ⟨closed, known, rfl⟩

theorem gone_of_step
    (taken : step action client = some target)
    (gone : client.driver = .gone) : target.driver = .gone := by
  by_cases isCall : ∃ command, action = .submit command
  · obtain ⟨command, rfl⟩ := isCall
    obtain ⟨_, ⟨_, rfl⟩ | ⟨alive, _⟩⟩ := submit_some taken
    · exact gone
    · exact absurd gone alive
  · refine (commands_of_step taken ?_).2.2 gone
    intro command isSubmit
    exact isCall ⟨command, isSubmit⟩

theorem status_of_step
    (taken : step action client = some target)
    {status : CallStatus} (found : client.statusOf name = some status)
    (called : status ≠ .registered) :
    target.statusOf name = some status := by
  by_cases own : action.caller? = some name
  · cases action with
    | registerRoute caller session content =>
        cases own
        obtain ⟨unknown, _⟩ := registerRoute_some taken
        rw [statusOf, unknown] at found
        cases found
    | sendPrompt caller =>
        cases own
        obtain ⟨stream, isStream, inCall, _⟩ := sendPrompt_some taken
        rw [statusOf, isStream] at found
        cases found
        exact absurd inCall called
    | take caller =>
        cases own
        rw [statusOf_take taken]
        exact found
    | _ => cases own
  · rw [statusOf_of_step taken own]
    exact found

theorem known_of_step
    (taken : step action client = some target)
    (known : ∃ stream, client.streams sink = some stream) :
    ∃ stream, target.streams sink = some stream := by
  obtain ⟨stream, found⟩ := known
  by_cases isTake : action = .take sink
  · subst isTake
    obtain ⟨_, _, _, _, rfl⟩ := take_some taken
    exact ⟨_, putStream_self _ _ _⟩
  · obtain ⟨after, _, foundNow, _⟩ := step_items found taken isTake
    exact ⟨after, foundNow⟩

theorem Lasts.step
    (lasts : Lasts name client heard next later)
    (hears : Hears name next later last final) :
    Lasts name client heard last final := by
  cases hears with
  | stays => exact lasts
  | steps action _ taken byOwn undistracted =>
      refine ⟨lasts.items.trans (List.prefix_append _ _), ?_, ?_, ?_, ?_⟩
      · intro answer spawned
        simp only [hear, lasts.spawned answer spawned, Option.some_or]
      · intro gone
        obtain ⟨stillGone, same⟩ := lasts.gone gone
        refine ⟨gone_of_step taken stillGone, ?_⟩
        have silent : next.saidTo name action = none := by
          cases action with
          | answer answer =>
              refine if_neg ?_
              rw [stillGone]
              exact nofun
          | _ => rfl
        simp only [hear, silent, Option.or_none, same]
      · intro status found called
        exact status_of_step taken (lasts.status status found called) called
      · intro closed known
        obtain ⟨stillClosed, stillKnown, same⟩ := lasts.closed closed known
        obtain ⟨stream, found⟩ := stillKnown
        refine ⟨fun held => stillClosed (step_hasSender found taken held),
          known_of_step taken ⟨stream, found⟩, ?_⟩
        have silent : next.saidOn name action = [] := by
          apply saidOn_of_idle
          intro session atWork
          apply stillClosed
          unfold Driver.atWork at atWork
          split at atWork
          · rename_i content _ isDriver
            cases atWork
            exact .driving (by rw [isDriver]; rfl)
          · cases atWork
        simp only [hear, silent, List.append_nil, same]

end AcpClient

end A2AShim
