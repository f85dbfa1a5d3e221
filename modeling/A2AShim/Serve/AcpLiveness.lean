import Mathlib.Data.List.Infix
import A2AShim.Serve.AcpStreams

/-!
# What the one driver task can leave waiting

Two things can keep a reader or a caller waiting: a sender that outlives the
driver, and a prompt the driver awaits.

`spawn` says that remaining prompt streams observe their sender being dropped
when the connection closes.  The route map holds a clone of each sender,
though, and every `AcpClient` handle keeps that map.

The driver takes a command only after it has finished with the one before, so
the commands it can send without an answer to a prompt are the ones up to the
first prompt in its queue.
-/

namespace A2AShim

/-! ## Senders after the end of the driver -/

/-- The sender the driver task holds in a local variable. -/
def Driver.sink? : Driver → Option PromptId
  | .awaiting command => command.sink?
  | .resolved _ sink _ => some sink
  | .clearing _ sink => some sink
  | .receiving | .gone => none

namespace AcpClient

open Machine

/-- Everything that can hold a sender of the channel `sink`. -/
inductive HasSender (client : AcpClient) (sink : PromptId) : Prop where
  | routed (session : SessionId) (route : client.routes session = some sink)
  | queued (command : Command) (waiting : command ∈ client.queue)
      (carries : command.sink? = some sink)
  | driving (holds : client.driver.sink? = some sink)
  | delivering (update : SessionUpdate)
      (held : client.callback = some (sink, update))
  | calling (stream : PromptStream)
      (found : client.streams sink = some stream)
      (inCall : stream.status = .registered)

/-- A reader has taken every item, and the channel is still open. -/
def Waits (client : AcpClient) (sink : PromptId) : Prop :=
  ∃ stream,
    client.streams sink = some stream ∧
      stream.taken = stream.items.length ∧ client.HasSender sink

/-- No stream that was returned has a sender, so none keeps its reader
waiting. -/
def StreamsEnded (client : AcpClient) : Prop :=
  ∀ sink stream, client.streams sink = some stream →
    stream.status = .returned →
      ¬ client.HasSender sink ∧ ¬ client.Waits sink

/-- No route leads to a stream that was returned. -/
def RoutesIdle (client : AcpClient) : Prop :=
  ∀ session sink stream, client.routes session = some sink →
    client.streams sink = some stream → stream.status ≠ .returned

/-- The client after its driver, when no route was left behind. -/
structure DrainedByEnd (client : AcpClient) : Prop where
  ended : client.driver = .gone
  unqueued : client.queue = []
  idle : client.callback = none
  routesIdle : client.RoutesIdle

variable {client target : AcpClient}

theorem DrainedByEnd.streamsEnded (drained : DrainedByEnd client) :
    StreamsEnded client := by
  intro sink stream found returned
  have unheld : ¬ client.HasSender sink := by
    intro held
    cases held with
    | routed session route =>
        exact drained.routesIdle session sink stream route found returned
    | queued command waiting _ =>
        rw [drained.unqueued] at waiting
        cases waiting
    | driving holds =>
        rw [drained.ended] at holds
        cases holds
    | delivering update pair =>
        rw [drained.idle] at pair
        cases pair
    | calling other foundOther inCall =>
        rw [found] at foundOther
        cases foundOther
        rw [returned] at inCall
        cases inCall
  refine ⟨unheld, ?_⟩
  intro holds
  rcases holds with ⟨_, _, _, held⟩
  exact unheld held

/-- After its end the driver cannot be handed a prompt, so no call returns a
stream any more. -/
theorem DrainedByEnd.step
    {action : Action}
    (drained : DrainedByEnd client)
    (taken : step action client = some target) :
    DrainedByEnd target := by
  rcases drained with ⟨ended, unqueued, idle, routesIdle⟩
  cases action with
  | registerRoute sink session content =>
      obtain ⟨unknown, rfl⟩ := registerRoute_some taken
      refine ⟨ended, unqueued, idle, ?_⟩
      intro tested other stream route found
      by_cases fresh : other = sink
      · subst fresh
        have isNew : PromptStream.mk session content .registered [] 0 =
            stream := by
          simpa [putRoute] using found
        simp [← isNew]
      · have foundBefore : client.streams other = some stream := by
          simpa [putRoute, putStream, fresh] using found
        by_cases sameSession : tested = session
        · subst sameSession
          simp [putRoute] at route
          exact absurd route.symm fresh
        · have routeBefore : client.routes tested = some other := by
            simpa [putRoute, putStream, sameSession] using route
          exact routesIdle tested other stream routeBefore foundBefore
  | sendPrompt sink =>
      obtain ⟨stream, found, inCall, ⟨_, rfl⟩ | ⟨alive, _⟩⟩ :=
        sendPrompt_some taken
      · refine ⟨ended, unqueued, idle, ?_⟩
        intro tested other now route foundNow
        rcases putStream_cases foundNow with ⟨rfl, rfl⟩ | foundBefore
        · simp
        · by_cases cleared : tested = stream.session
          · simp [putRoute, putStream, cleared] at route
          · have routeBefore : client.routes tested = some other := by
              simpa [putRoute, putStream, cleared] using route
            exact routesIdle tested other now routeBefore foundBefore
      · exact absurd ended alive
  | submit command =>
      obtain ⟨_, ⟨_, rfl⟩ | ⟨alive, _⟩⟩ := submit_some taken
      · exact ⟨ended, unqueued, idle, routesIdle⟩
      · exact absurd ended alive
  | receive =>
      obtain ⟨_, _, atReceive, _⟩ := receive_some taken
      rw [ended] at atReceive
      cases atReceive
  | answer answer =>
      obtain ⟨_, _, atAwait, _⟩ := answered_some taken
      rw [ended] at atAwait
      cases atAwait
  | sendTerminal =>
      obtain ⟨_, _, _, atResolved, _⟩ := sendTerminal_some taken
      rw [ended] at atResolved
      cases atResolved
  | clearRoute =>
      obtain ⟨_, _, atClearing, _⟩ := clearRoute_some taken
      rw [ended] at atClearing
      cases atClearing
  | notify session update =>
      obtain ⟨alive, _⟩ := notified_some taken
      exact absurd ended alive
  | deliver =>
      obtain ⟨_, _, held, _⟩ := deliver_some taken
      rw [idle] at held
      cases held
  | take sink =>
      obtain ⟨stream, found, returned, _, rfl⟩ := take_some taken
      refine ⟨ended, unqueued, idle, ?_⟩
      intro tested other now route foundNow
      rcases putStream_cases foundNow with ⟨rfl, rfl⟩ | foundBefore
      · exact absurd returned (routesIdle tested other stream route found)
      · exact routesIdle tested other now route foundBefore
  | stop =>
      obtain ⟨alive, _⟩ := stop_some taken
      exact absurd ended alive

/-! The prompts that the driver has not finished with. -/

/-- The command of the prompt is queued or awaited, or the driver stands
between the response and the removal of the route. -/
def Unfinished (client : AcpClient) (session : SessionId) (sink : PromptId) :
    Prop :=
  (∃ content, .prompt session content sink ∈ client.pending) ∨
    client.Finishing session sink

/-- A route leads to a call on its session, and after that has returned, until
the driver ends, to a prompt that is not finished. -/
structure RoutesWork (client : AcpClient) : Prop where
  known : ∀ session sink, client.routes session = some sink →
    ∃ stream, client.streams sink = some stream ∧ stream.session = session
  working : client.driver ≠ .gone → ∀ session sink stream,
    client.routes session = some sink → client.streams sink = some stream →
      stream.status = .returned → client.Unfinished session sink
  returned : ∀ session sink, client.Unfinished session sink →
    ∃ stream, client.streams sink = some stream ∧ stream.status = .returned

theorem routesWork_spawned : RoutesWork spawned where
  known := by simp [spawned]
  working := by simp [spawned]
  returned := by simp [spawned, Unfinished, pending, Finishing]

/-- What a call has done to a stream. -/
def callOf (stream : PromptStream) : SessionId × CallStatus :=
  (stream.session, stream.status)

theorem callOf_send
    (client : AcpClient) (channel sink : PromptId) (item : StreamItem) :
    ((client.send channel item).streams sink).map callOf =
      (client.streams sink).map callOf := by
  rw [send_streams]
  by_cases same : sink = channel
  · subst same
    rw [if_pos rfl, Option.map_map]
    rfl
  · rw [if_neg same]

theorem callOf_take
    {channel : PromptId} {stream : PromptStream}
    (found : client.streams channel = some stream) (sink : PromptId) :
    ((client.putStream channel
        { stream with taken := stream.taken + 1 }).streams sink).map callOf =
      (client.streams sink).map callOf := by
  by_cases same : sink = channel
  · subst same
    rw [putStream_self, found]
    rfl
  · rw [putStream_other same]

/-- Steps that make, start and finish no prompt. -/
theorem RoutesWork.of_same
    (work : RoutesWork client)
    (routes : target.routes = client.routes)
    (alive : target.driver ≠ .gone → client.driver ≠ .gone)
    (calls : ∀ sink,
      (target.streams sink).map callOf = (client.streams sink).map callOf)
    (same : ∀ session sink,
      target.Unfinished session sink ↔ client.Unfinished session sink) :
    RoutesWork target := by
  have forth : ∀ sink before, client.streams sink = some before →
      ∃ stream, target.streams sink = some stream ∧
        stream.session = before.session ∧ stream.status = before.status := by
    intro sink before found
    have mapped := calls sink
    rw [found] at mapped
    obtain ⟨stream, foundNow, sameCall⟩ := Option.map_eq_some_iff.mp mapped
    obtain ⟨sameSession, sameStatus⟩ := Prod.mk.inj sameCall
    exact ⟨stream, foundNow, sameSession, sameStatus⟩
  refine ⟨?_, ?_, ?_⟩
  · intro session sink route
    rw [routes] at route
    obtain ⟨before, found, isSession⟩ := work.known session sink route
    obtain ⟨stream, foundNow, sameSession, _⟩ := forth sink before found
    exact ⟨stream, foundNow, sameSession.trans isSession⟩
  · intro running session sink stream route found isReturned
    rw [routes] at route
    obtain ⟨before, foundBefore, _⟩ := work.known session sink route
    obtain ⟨now, foundNow, _, sameStatus⟩ := forth sink before foundBefore
    rw [found] at foundNow
    cases foundNow
    exact (same session sink).mpr
      (work.working (alive running) session sink before route foundBefore
        (sameStatus.symm.trans isReturned))
  · intro session sink unfinished
    obtain ⟨before, found, isReturned⟩ :=
      work.returned session sink ((same session sink).mp unfinished)
    obtain ⟨stream, foundNow, _, sameStatus⟩ := forth sink before found
    exact ⟨stream, foundNow, sameStatus.trans isReturned⟩

theorem RoutesWork.registerRoute
    {sink : PromptId} {session : SessionId} {content : List ContentBlock}
    (work : RoutesWork client)
    (taken : client.registerRoute sink session content = some target) :
    RoutesWork target := by
  obtain ⟨unknown, rfl⟩ := registerRoute_some taken
  have older : ∀ {other stream}, client.streams other = some stream →
      other ≠ sink := by
    intro other stream found isSame
    rw [isSame, unknown] at found
    cases found
  refine ⟨?_, ?_, ?_⟩
  · intro tested other route
    by_cases same : tested = session
    · subst same
      have isSink : sink = other := by simpa [putRoute] using route
      subst isSink
      exact ⟨_, putStream_self _ _ _, rfl⟩
    · have routeBefore : client.routes tested = some other := by
        simpa [putRoute, putStream, same] using route
      obtain ⟨stream, found, isSession⟩ := work.known tested other routeBefore
      exact ⟨stream, (putStream_other (older found)).trans found, isSession⟩
  · intro alive tested other stream route found isReturned
    rcases putStream_cases found with ⟨rfl, rfl⟩ | foundBefore
    · cases isReturned
    · have different : tested ≠ session := by
        intro same
        subst same
        have isSink : sink = other := by simpa [putRoute] using route
        exact older foundBefore isSink.symm
      have routeBefore : client.routes tested = some other := by
        simpa [putRoute, putStream, different] using route
      exact work.working alive tested other stream routeBefore foundBefore
        isReturned
  · intro tested other unfinished
    obtain ⟨stream, found, isReturned⟩ := work.returned tested other unfinished
    exact ⟨stream, (putStream_other (older found)).trans found, isReturned⟩

theorem RoutesWork.sendPrompt
    {sink : PromptId} (work : RoutesWork client)
    (taken : client.sendPrompt sink = some target) :
    RoutesWork target := by
  obtain ⟨stream, found, inCall, outcome⟩ := sendPrompt_some taken
  have others : ∀ {tested other stream'},
      client.Unfinished tested other →
        (client.putStream sink stream').streams other =
          client.streams other := by
    intro tested other stream' unfinished
    apply putStream_other
    intro isSink
    obtain ⟨before, foundBefore, isReturned⟩ :=
      work.returned tested other unfinished
    rw [isSink, found] at foundBefore
    cases foundBefore
    rw [inCall] at isReturned
    cases isReturned
  rcases outcome with ⟨ended, rfl⟩ | ⟨alive, rfl⟩
  · refine ⟨?_, fun alive => absurd ended alive, ?_⟩
    · intro tested other route
      by_cases same : tested = stream.session
      · simp [putRoute, putStream, same] at route
      · have routeBefore : client.routes tested = some other := by
          simpa [putRoute, putStream, same] using route
        obtain ⟨before, foundBefore, isSession⟩ :=
          work.known tested other routeBefore
        refine ⟨before, ?_, isSession⟩
        have different : other ≠ sink := by
          intro isSink
          rw [isSink, found] at foundBefore
          cases foundBefore
          exact same isSession.symm
        exact (putStream_other different).trans foundBefore
    · intro tested other unfinished
      have before : client.Unfinished tested other := unfinished
      obtain ⟨kept, foundBefore, isReturned⟩ := work.returned tested other before
      exact ⟨kept, (others before).trans foundBefore, isReturned⟩
  · have queued :=
      pending_enqueue client
        (Function.update client.streams sink
          (some { stream with status := .returned }))
        (.prompt stream.session stream.content sink)
    have split : ∀ tested other,
        Unfinished
            { client.putStream sink { stream with status := .returned } with
              queue :=
                client.queue ++
                  [.prompt stream.session stream.content sink] }
            tested other ↔
          client.Unfinished tested other ∨
            tested = stream.session ∧ other = sink := by
      intro tested other
      constructor
      · intro unfinished
        rcases unfinished with ⟨content, waiting⟩ | busy
        · rw [putStream, queued, List.mem_append, List.mem_singleton] at waiting
          rcases waiting with before | isNew
          · exact .inl (.inl ⟨content, before⟩)
          · cases isNew
            exact .inr ⟨rfl, rfl⟩
        · exact .inl (.inr busy)
      · intro either
        rcases either with (⟨content, before⟩ | busy) | ⟨rfl, rfl⟩
        · refine .inl ⟨content, ?_⟩
          rw [putStream, queued]
          exact List.mem_append_left _ before
        · exact .inr busy
        · refine .inl ⟨stream.content, ?_⟩
          rw [putStream, queued]
          exact List.mem_append_right _ (List.mem_singleton_self _)
    refine ⟨?_, ?_, ?_⟩
    · intro tested other route
      obtain ⟨before, foundBefore, isSession⟩ := work.known tested other route
      by_cases isSink : other = sink
      · subst isSink
        rw [found] at foundBefore
        cases foundBefore
        exact ⟨_, putStream_self _ _ _, isSession⟩
      · exact ⟨before, (putStream_other isSink).trans foundBefore, isSession⟩
    · intro _ tested other now route foundNow isReturned
      rw [split]
      rcases putStream_cases foundNow with ⟨rfl, rfl⟩ | foundBefore
      · obtain ⟨before, foundBefore, isSession⟩ := work.known tested other route
        rw [found] at foundBefore
        cases foundBefore
        exact .inr ⟨isSession.symm, rfl⟩
      · exact .inl
          (work.working alive tested other now route foundBefore isReturned)
    · intro tested other unfinished
      rcases (split tested other).mp unfinished with before | ⟨_, rfl⟩
      · obtain ⟨kept, foundBefore, isReturned⟩ :=
          work.returned tested other before
        exact ⟨kept, (others before).trans foundBefore, isReturned⟩
      · exact ⟨_, putStream_self _ _ _, rfl⟩

theorem RoutesWork.clearRoute
    (work : RoutesWork client)
    (taken : client.clearRoute = some target) :
    RoutesWork target := by
  obtain ⟨session, sink, atClearing, rfl⟩ := clearRoute_some taken
  have samePending :
      pending { client.putRoute session none with driver := .receiving } =
        client.pending := by
    simp [pending, putRoute, atClearing]
  refine ⟨?_, ?_, ?_⟩
  · intro tested other route
    by_cases same : tested = session
    · simp [putRoute, same] at route
    · exact work.known tested other (by simpa [putRoute, same] using route)
  · intro _ tested other stream route found isReturned
    by_cases same : tested = session
    · simp [putRoute, same] at route
    · have routeBefore : client.routes tested = some other := by
        simpa [putRoute, same] using route
      rcases work.working (by simp [atClearing]) tested other stream
          routeBefore found isReturned with
        ⟨content, waiting⟩ | ⟨item, atResolved⟩ | isClearing
      · exact .inl ⟨content, by rw [samePending]; exact waiting⟩
      · rw [atClearing] at atResolved
        cases atResolved
      · rw [atClearing] at isClearing
        cases isClearing
        exact absurd rfl same
  · intro tested other unfinished
    rcases unfinished with ⟨content, waiting⟩ | ⟨item, atResolved⟩ | isClearing
    · rw [samePending] at waiting
      exact work.returned tested other (.inl ⟨content, waiting⟩)
    · cases atResolved
    · cases isClearing

theorem RoutesWork.step
    {action : Action} (work : RoutesWork client)
    (taken : step action client = some target) :
    RoutesWork target := by
  cases action with
  | registerRoute sink session content => exact work.registerRoute taken
  | sendPrompt sink => exact work.sendPrompt taken
  | clearRoute => exact work.clearRoute taken
  | submit command =>
      obtain ⟨notPrompt, ⟨_, rfl⟩ | ⟨alive, rfl⟩⟩ := submit_some taken
      · exact work
      · have queued := pending_enqueue client client.streams command
        refine work.of_same rfl (fun _ => alive) (fun _ => rfl) ?_
        intro session sink
        simp only [Unfinished, queued, List.mem_append, List.mem_singleton]
        constructor
        · intro unfinished
          rcases unfinished with ⟨content, before | rfl⟩ | busy
          · exact .inl ⟨content, before⟩
          · cases notPrompt
          · exact .inr busy
        · intro unfinished
          rcases unfinished with ⟨content, before⟩ | busy
          · exact .inl ⟨content, .inl before⟩
          · exact .inr busy
  | receive =>
      obtain ⟨command, rest, atReceive, queued, ⟨_, _, rfl, rfl⟩ | ⟨_, rfl⟩⟩ :=
        receive_some taken
      · exact work.of_same rfl (by simp [atReceive]) (fun _ => rfl)
          (by simp [Unfinished, pending, Finishing, atReceive, queued])
      · exact work.of_same rfl (by simp [atReceive]) (fun _ => rfl)
          (by simp [Unfinished, pending, Finishing, atReceive, queued])
  | answer answer =>
      obtain ⟨_, command, atAwait, _,
        ⟨session, content, sink, rfl, rfl⟩ | ⟨notPrompt, _, rfl⟩⟩ :=
        answered_some taken
      · refine work.of_same rfl (by simp [atAwait]) (fun _ => rfl) ?_
        intro tested other
        simp only [Unfinished, pending, Finishing, atAwait, List.mem_cons,
          Command.prompt.injEq, Driver.resolved.injEq, reduceCtorEq,
          exists_false, or_false]
        constructor
        · intro unfinished
          rcases unfinished with ⟨blocks, waiting⟩ | ⟨item, rfl, rfl, _⟩
          · exact ⟨blocks, .inr waiting⟩
          · exact ⟨content, .inl ⟨rfl, rfl, rfl⟩⟩
        · intro unfinished
          rcases unfinished with ⟨blocks, ⟨rfl, rfl, rfl⟩ | waiting⟩
          · exact .inr ⟨_, rfl, rfl, rfl⟩
          · exact .inl ⟨blocks, waiting⟩
      · refine work.of_same rfl (by simp [atAwait]) (fun _ => rfl) ?_
        intro tested other
        have notThis : ∀ blocks, .prompt tested blocks other ≠ command := by
          intro blocks same
          rw [← same] at notPrompt
          cases notPrompt
        simp [Unfinished, pending, Finishing, reply, atAwait, notThis]
  | sendTerminal =>
      obtain ⟨session, sink, item, atResolved, rfl⟩ := sendTerminal_some taken
      refine work.of_same (by simp) (by simp [atResolved])
        (callOf_send client sink · item) ?_
      intro tested other
      simp [Unfinished, pending, Finishing, atResolved]
  | notify session update =>
      obtain ⟨alive, _, rfl⟩ := notified_some taken
      exact work.of_same rfl (fun _ => alive) (fun _ => rfl) fun _ _ => Iff.rfl
  | deliver =>
      obtain ⟨sink, update, _, rfl⟩ := deliver_some taken
      refine work.of_same (by simp) (by simp)
        (callOf_send client sink · (.ok (.update update))) ?_
      intro tested other
      simp [Unfinished, pending, Finishing]
  | take sink =>
      obtain ⟨stream, found, _, _, rfl⟩ := take_some taken
      exact work.of_same rfl id (callOf_take found) fun _ _ => Iff.rfl
  | stop =>
      obtain ⟨_, rfl⟩ := stop_some taken
      refine ⟨work.known, fun alive => absurd rfl alive, ?_⟩
      intro tested other unfinished
      rcases unfinished with ⟨content, waiting⟩ | ⟨item, atResolved⟩ | isClearing
      · cases waiting
      · cases atResolved
      · cases isClearing

theorem routesWork_of_run
    {trace : List Action} (run : Run step free spawned trace client) :
    RoutesWork client :=
  run.invariant RoutesWork routesWork_spawned
    fun _ _ _ before _ taken => before.step taken

/-- In a reachable state of the running driver, a route is left to a returned
stream by an unfinished prompt whose route is still its own. -/
theorem routesIdle_iff
    (work : RoutesWork client) (alive : client.driver ≠ .gone) :
    RoutesIdle client ↔
      ∀ session sink, client.Unfinished session sink →
        client.routes session ≠ some sink := by
  constructor
  · intro idle session sink unfinished route
    obtain ⟨stream, found, returned⟩ := work.returned session sink unfinished
    exact idle session sink stream route found returned
  · intro overtaken session sink stream route found returned
    exact overtaken session sink
      (work.working alive session sink stream route found returned) route

/-- From the end of the driver on, in every state, no returned stream has a
sender: exactly when, at that end, no prompt that is queued, awaited or about
to be finished with still has its own route. -/
theorem streams_end_with_driver_iff
    {trace : List Action} {ended : AcpClient}
    (run : Run step free spawned trace client)
    (stopped : step .stop client = some ended) :
    (∀ rest later, Run step free ended rest later → StreamsEnded later) ↔
      ∀ session sink, client.Unfinished session sink →
        client.routes session ≠ some sink := by
  obtain ⟨alive, rfl⟩ := stop_some stopped
  rw [← routesIdle_iff (routesWork_of_run run) alive]
  constructor
  · intro always session sink stream route found returned
    have atEnd := always [] _ .start sink stream found returned
    exact atEnd.1 (.routed session route)
  · intro routesIdle rest later run
    have atEnd : DrainedByEnd
        { client with driver := .gone, queue := [], callback := none } :=
      ⟨rfl, rfl, rfl, routesIdle⟩
    have drained : DrainedByEnd later :=
      run.invariant DrainedByEnd atEnd fun _ _ _ before _ taken =>
        before.step taken
    exact drained.streamsEnded

/-- A prompt that another one on its session has overtaken: its route is the
other's, whose turn clears it. -/
theorem streams_end_after_turns :
    ∃ client ended,
      exec step
          [.registerRoute 0 "s" [], .sendPrompt 0, .registerRoute 1 "s" [],
            .sendPrompt 1, .receive, .answer (.stopped .endTurn),
            .sendTerminal, .clearRoute, .receive]
          spawned = some client ∧
        client.Unfinished "s" 1 ∧
          step .stop client = some ended ∧
            ∀ rest later, Run step free ended rest later →
              StreamsEnded later := by
  obtain ⟨client, executed⟩ : ∃ client,
      exec step
          [.registerRoute 0 "s" [], .sendPrompt 0, .registerRoute 1 "s" [],
            .sendPrompt 1, .receive, .answer (.stopped .endTurn),
            .sendTerminal, .clearRoute, .receive]
          spawned = some client :=
    ⟨_, rfl⟩
  have overtaken : ∀ session sink, client.Unfinished session sink →
      client.routes session ≠ some sink := by
    cases executed
    intro session sink _ route
    by_cases named : session = "s" <;>
      simp [putRoute, send, putStream, spawned, named] at route
  have unfinished : client.Unfinished "s" 1 := by
    cases executed
    exact .inl ⟨[], List.mem_singleton_self _⟩
  obtain ⟨ended, stopped⟩ : ∃ ended, step .stop client = some ended := by
    cases executed
    exact ⟨_, rfl⟩
  exact ⟨client, ended, executed, unfinished, stopped,
    (streams_end_with_driver_iff (run_of_exec executed) stopped).mpr
      overtaken⟩

/-- The agent goes away while it works on a prompt.  The route map keeps a
sender of the prompt's stream, and the reader waits. -/
theorem streams_can_outlive_driver :
    ¬ ∀ trace client, Run step free spawned trace client →
        client.driver = .gone → StreamsEnded client := by
  intro claimed
  have run : Run step free spawned
      [.registerRoute 0 "s" [], .sendPrompt 0, .receive, .stop] _ :=
    run_of_exec rfl
  have unheld := (claimed _ _ run rfl 0 _ rfl rfl).1
  exact unheld (.routed "s" rfl)

/-! ## Commands behind a prompt -/

/-- The driver awaits the agent's response to a prompt. -/
def AwaitsPrompt (client : AcpClient) : Prop :=
  ∃ session content sink,
    client.driver = .awaiting (.prompt session content sink)

/-- Steps of the driver and the callback, without an answer to a prompt. -/
def WithoutPromptAnswer (client : AcpClient) : Action → Prop
  | .answer _ => ¬ client.AwaitsPrompt
  | .receive | .sendTerminal | .clearRoute | .notify _ _ | .deliver => True
  | .registerRoute _ _ _ | .sendPrompt _ | .submit _ | .take _ | .stop => False

/-- The command that `queued` commands are before can be sent to the agent
without an answer to a prompt. -/
def CanSend (client : AcpClient) (queued : List Command) (command : Command) :
    Prop :=
  ∃ trace later,
    Run step WithoutPromptAnswer client trace later ∧
      later.sent = client.sent ++ queued ++ [command]

/-- Cancels, and commands for another session than the one prompting. -/
def MustNotWait (client : AcpClient) : Command → Prop
  | .cancel _ _ => True
  | command =>
      ∀ session content sink,
        client.driver = .awaiting (.prompt session content sink) →
          command.session? ≠ some session

/-- The elements up to the first one with `test`, and that one. -/
def takeThrough (test : Command → Bool) : List Command → List Command
  | [] => []
  | command :: rest =>
      command :: if test command then [] else takeThrough test rest

theorem takeThrough_before
    {test : Command → Bool} {commands front : List Command} {last : Command}
    (reached : front ++ [last] <+: takeThrough test commands) :
    ∀ command, command ∈ front → test command = false := by
  induction commands generalizing front with
  | nil => simp [takeThrough] at reached
  | cons first rest inductionHypothesis =>
      cases front with
      | nil => simp
      | cons head more =>
          rw [takeThrough, List.cons_append, List.cons_prefix_cons] at reached
          rcases reached with ⟨rfl, remaining⟩
          by_cases stops : test head = true
          · simp [stops] at remaining
          · rw [if_neg stops] at remaining
            intro command member
            rcases List.mem_cons.mp member with rfl | later
            · simpa using stops
            · exact inductionHypothesis remaining command later

open Classical in
/-- What the driver can still send without an answer to a prompt. -/
noncomputable def sendable (client : AcpClient) : List Command :=
  if client.AwaitsPrompt then
    []
  else
    takeThrough Command.isPrompt client.queue

theorem sendable_of_awaits (awaits : client.AwaitsPrompt) :
    client.sendable = [] :=
  if_pos awaits

theorem sendable_of_not_awaits (free : ¬ client.AwaitsPrompt) :
    client.sendable = takeThrough Command.isPrompt client.queue :=
  if_neg free

/-- Steps that leave the queue alone and await no other prompt. -/
theorem sendable_congr
    (sameQueue : target.queue = client.queue)
    (sameAwait : target.AwaitsPrompt ↔ client.AwaitsPrompt) :
    target.sendable = client.sendable := by
  by_cases awaits : client.AwaitsPrompt
  · rw [sendable_of_awaits awaits, sendable_of_awaits (sameAwait.mpr awaits)]
  · rw [sendable_of_not_awaits awaits,
      sendable_of_not_awaits fun now => awaits (sameAwait.mp now), sameQueue]

theorem not_awaitsPrompt_of_driver
    (elsewhere : ∀ command, client.driver ≠ .awaiting command) :
    ¬ client.AwaitsPrompt := by
  intro awaits
  rcases awaits with ⟨session, content, sink, atAwait⟩
  exact elsewhere _ atAwait

theorem isPrompt_iff (command : Command) :
    command.isPrompt = true ↔
      ∃ session content sink, command = .prompt session content sink := by
  cases command <;> simp [Command.isPrompt]

/-- Without answers to prompts, every step only moves commands from the
sendable ones to the sent ones. -/
theorem sent_append_sendable
    {action : Action}
    (permitted : WithoutPromptAnswer client action)
    (taken : step action client = some target) :
    target.sent ++ target.sendable = client.sent ++ client.sendable := by
  cases action with
  | receive =>
      obtain ⟨command, rest, atReceive, queued, outcome⟩ := receive_some taken
      have wasFree : ¬ client.AwaitsPrompt :=
        not_awaitsPrompt_of_driver (by simp [atReceive])
      rw [sendable_of_not_awaits wasFree, queued, takeThrough]
      rcases outcome with ⟨session, respond, rfl, rfl⟩ | ⟨_, rfl⟩
      · rw [sendable_of_not_awaits
          (not_awaitsPrompt_of_driver (by simp [atReceive]))]
        simp [Command.isPrompt]
      · by_cases forPrompt : command.isPrompt = true
        · obtain ⟨session, content, sink, rfl⟩ :=
            (isPrompt_iff command).mp forPrompt
          rw [sendable_of_awaits ⟨session, content, sink, rfl⟩]
          simp [Command.isPrompt]
        · have stillFree :
              ¬ AwaitsPrompt { client with
                queue := rest
                sent := client.sent ++ [command]
                driver := .awaiting command } := by
            intro awaits
            rcases awaits with ⟨session, content, sink, atAwait⟩
            cases atAwait
            exact forPrompt rfl
          rw [sendable_of_not_awaits stillFree]
          simp [forPrompt]
  | answer answer =>
      obtain ⟨_, command, atAwait, _, outcome⟩ := answered_some taken
      rcases outcome with ⟨session, content, sink, rfl, _⟩ | ⟨_, respond, rfl⟩
      · exact absurd ⟨session, content, sink, atAwait⟩ permitted
      · have sameSendable :
            (client.reply respond answer).sendable = client.sendable := by
          refine sendable_congr (by rfl) ?_
          exact iff_of_false
            (not_awaitsPrompt_of_driver (by simp [reply])) permitted
        rw [sameSendable]
        rfl
  | sendTerminal =>
      obtain ⟨session, sink, item, atResolved, rfl⟩ := sendTerminal_some taken
      have sameSendable :
          sendable { client.send sink item with
            driver := .clearing session sink } = client.sendable := by
        refine sendable_congr (by simp) ?_
        exact iff_of_false (not_awaitsPrompt_of_driver (by simp))
          (not_awaitsPrompt_of_driver (by simp [atResolved]))
      rw [sameSendable]
      simp
  | clearRoute =>
      obtain ⟨session, sink, atClearing, rfl⟩ := clearRoute_some taken
      have sameSendable :
          sendable { client.putRoute session none with
            driver := .receiving } = client.sendable := by
        refine sendable_congr (by rfl) ?_
        exact iff_of_false (not_awaitsPrompt_of_driver (by simp))
          (not_awaitsPrompt_of_driver (by simp [atClearing]))
      rw [sameSendable]
      rfl
  | notify session update =>
      obtain ⟨_, _, rfl⟩ := notified_some taken
      rfl
  | deliver =>
      obtain ⟨sink, update, _, rfl⟩ := deliver_some taken
      have sameSendable :
          sendable { client.send sink (.ok (.update update)) with
            callback := none } = client.sendable :=
        sendable_congr (by simp) (by simp [AwaitsPrompt])
      rw [sameSendable]
      simp
  | registerRoute _ _ _ | sendPrompt _ | submit _ | take _ | stop =>
      exact absurd permitted id

/-- What runs without answers to prompts have sent was sendable. -/
theorem sendable_of_run
    {trace : List Action} {later : AcpClient}
    (run : Run step WithoutPromptAnswer client trace later) :
    later.sent ++ later.sendable = client.sent ++ client.sendable :=
  run.invariant
    (fun reached =>
      reached.sent ++ reached.sendable = client.sent ++ client.sendable)
    rfl
    fun _ _ _ before permitted taken =>
      (sent_append_sendable permitted taken).trans before

/-! The other direction: the driver gets on with everything else. -/

/-- A driver that has not ended, and awaits no answer the agent need not
give. -/
structure GetsOn (client : AcpClient) : Prop where
  alive : client.driver ≠ .gone
  noCancel : ∀ session respond,
    client.driver ≠ .awaiting (.cancel session respond)
  noPrompt : ¬ client.AwaitsPrompt

theorem single_step
    {action : Action}
    (taken : step action client = some target)
    (permitted : WithoutPromptAnswer client action) :
    Run step WithoutPromptAnswer client [action] target :=
  Run.snoc .start permitted taken

/-- The callback finishes with the notification it has. -/
theorem callback_finishes (client : AcpClient) :
    ∃ trace later,
      Run step WithoutPromptAnswer client trace later ∧
        later.callback = none ∧ later.driver = client.driver ∧
          later.queue = client.queue ∧ later.sent = client.sent := by
  cases held : client.callback with
  | none => exact ⟨[], client, .start, held, rfl, rfl, rfl⟩
  | some pair =>
      rcases pair with ⟨sink, update⟩
      have taken :
          step .deliver client =
            some { client.send sink (.ok (.update update)) with
              callback := none } := by
        simp [step, deliver, held]
      exact ⟨_, _, single_step taken trivial, rfl, by simp, by simp, by simp⟩

/-- The driver finishes with its command, unless that is a prompt. -/
theorem driver_finishes (getsOn : GetsOn client) :
    ∃ trace later,
      Run step WithoutPromptAnswer client trace later ∧
        later.driver = .receiving ∧ later.queue = client.queue ∧
          later.sent = client.sent := by
  cases standing : client.driver with
  | receiving => exact ⟨[], client, .start, standing, rfl, rfl⟩
  | gone => exact absurd standing getsOn.alive
  | clearing session sink =>
      have taken :
          step .clearRoute client =
            some { client.putRoute session none with
              driver := .receiving } := by
        simp [step, clearRoute, standing]
      exact ⟨_, _, single_step taken trivial, rfl, rfl, rfl⟩
  | resolved session sink item =>
      have sends :
          step .sendTerminal client =
            some { client.send sink item with
              driver := .clearing session sink } := by
        simp [step, sendTerminal, standing]
      have clears :
          step .clearRoute { client.send sink item with
              driver := .clearing session sink } =
            some { (client.send sink item).putRoute session none with
              driver := .receiving } := rfl
      exact ⟨_, _, (single_step sends trivial).append
        (single_step clears trivial), rfl, by simp [putRoute],
        by simp [putRoute]⟩
  | awaiting command =>
      obtain ⟨trace, middle, run, quiet, sameDriver, sameQueue, sameSent⟩ :=
        callback_finishes client
      have awaited : middle.driver = .awaiting command :=
        sameDriver.trans standing
      have free : ¬ middle.AwaitsPrompt := by
        intro awaits
        rcases awaits with ⟨session, content, sink, atAwait⟩
        exact getsOn.noPrompt
          ⟨session, content, sink, sameDriver.symm.trans atAwait⟩
      have answerable :
          ∃ respond, step (.answer (.failed "")) middle =
            some (middle.reply respond (.failed "")) := by
        cases command with
        | prompt session content sink =>
            exact absurd ⟨session, content, sink, awaited⟩ free
        | cancel session respond =>
            exact absurd standing (getsOn.noCancel session respond)
        | initializeAgent respond =>
            exact ⟨respond, by
              simp [step, answered, awaited, quiet, Command.accepts]⟩
        | sessionNew cwd respond =>
            exact ⟨respond, by
              simp [step, answered, awaited, quiet, Command.accepts]⟩
        | loadSession session cwd respond =>
            exact ⟨respond, by
              simp [step, answered, awaited, quiet, Command.accepts]⟩
        | resumeSession session cwd respond =>
            exact ⟨respond, by
              simp [step, answered, awaited, quiet, Command.accepts]⟩
      rcases answerable with ⟨respond, taken⟩
      exact ⟨_, _, run.append (single_step taken free), rfl, sameQueue,
        sameSent⟩

theorem receive_sends
    {command : Command} {rest : List Command}
    (atReceive : client.driver = .receiving)
    (queued : client.queue = command :: rest) :
    ∃ later,
      step .receive client = some later ∧
        later.sent = client.sent ++ [command] ∧ later.queue = rest ∧
          (command.isPrompt = false → GetsOn later) := by
  cases command with
  | cancel session respond =>
      refine ⟨_, by rw [step, receive, atReceive, queued], rfl, rfl, ?_⟩
      intro _
      exact ⟨by simp, by simp, not_awaitsPrompt_of_driver (by simp)⟩
  | prompt session content sink =>
      exact ⟨_, by rw [step, receive, atReceive, queued], rfl, rfl,
        fun plain => by cases plain⟩
  | initializeAgent _ | sessionNew _ _ | loadSession _ _ _
  | resumeSession _ _ _ =>
      refine ⟨_, by rw [step, receive, atReceive, queued], rfl, rfl, ?_⟩
      intro _
      exact ⟨by simp, by simp, by simp [AwaitsPrompt]⟩

/-- Only the driver's own receive makes it await, and it awaits no cancel. -/
structure DriverSound (client : AcpClient) : Prop where
  noCancel : ∀ session respond,
    client.driver ≠ .awaiting (.cancel session respond)
  unqueued : client.driver = .gone → client.queue = []

theorem DriverSound.step
    {action : Action}
    (sound : DriverSound client)
    (taken : step action client = some target) :
    DriverSound target := by
  cases action with
  | registerRoute sink session content =>
      obtain ⟨_, rfl⟩ := registerRoute_some taken
      exact ⟨sound.noCancel, sound.unqueued⟩
  | sendPrompt sink =>
      obtain ⟨_, _, _, ⟨_, rfl⟩ | ⟨alive, rfl⟩⟩ := sendPrompt_some taken
      · exact ⟨sound.noCancel, sound.unqueued⟩
      · exact ⟨sound.noCancel, fun ended => absurd ended alive⟩
  | submit command =>
      obtain ⟨_, ⟨_, rfl⟩ | ⟨alive, rfl⟩⟩ := submit_some taken
      · exact sound
      · exact ⟨sound.noCancel, fun ended => absurd ended alive⟩
  | receive =>
      obtain ⟨command, rest, atReceive, _, ⟨_, _, _, rfl⟩ | ⟨other, rfl⟩⟩ :=
        receive_some taken
      · exact ⟨sound.noCancel, by simp [atReceive]⟩
      · refine ⟨?_, by simp⟩
        intro session respond atAwait
        cases atAwait
        exact other session respond rfl
  | answer answer =>
      obtain ⟨_, _, _, _, ⟨_, _, _, _, rfl⟩ | ⟨_, _, rfl⟩⟩ :=
        answered_some taken
      · exact ⟨by simp, by simp⟩
      · exact ⟨by simp [reply], by simp [reply]⟩
  | sendTerminal =>
      obtain ⟨_, _, _, _, rfl⟩ := sendTerminal_some taken
      exact ⟨by simp, by simp⟩
  | clearRoute =>
      obtain ⟨_, _, _, rfl⟩ := clearRoute_some taken
      exact ⟨by simp, by simp⟩
  | notify session update =>
      obtain ⟨_, _, rfl⟩ := notified_some taken
      exact ⟨sound.noCancel, sound.unqueued⟩
  | deliver =>
      obtain ⟨_, _, _, rfl⟩ := deliver_some taken
      refine ⟨?_, ?_⟩
      · simpa using sound.noCancel
      · simpa using sound.unqueued
  | take sink =>
      obtain ⟨_, _, _, _, rfl⟩ := take_some taken
      exact ⟨sound.noCancel, sound.unqueued⟩
  | stop =>
      obtain ⟨_, rfl⟩ := stop_some taken
      exact ⟨by simp, by simp⟩

theorem driverSound_of_run
    {trace : List Action}
    (run : Run step free spawned trace client) :
    DriverSound client :=
  run.invariant DriverSound
    ⟨by simp [spawned], by simp [spawned]⟩
    fun _ _ _ before _ taken => before.step taken

/-- The driver sends the commands of its queue one after the other, as long as
none of them is a prompt. -/
theorem canSend_of_no_prompt
    {front after : List Command} {command : Command}
    (getsOn : GetsOn client)
    (queued : client.queue = front ++ command :: after)
    (noPrompt : ∀ earlier, earlier ∈ front → earlier.isPrompt = false) :
    CanSend client front command := by
  induction front generalizing client with
  | nil =>
      obtain ⟨trace, ready, run, atReceive, sameQueue, sameSent⟩ :=
        driver_finishes getsOn
      have atHead : ready.queue = command :: after := sameQueue.trans queued
      obtain ⟨later, taken, sentLast, _⟩ := receive_sends atReceive atHead
      refine ⟨_, later, run.append (single_step taken trivial), ?_⟩
      rw [sentLast, sameSent, List.append_nil]
  | cons first rest inductionHypothesis =>
      obtain ⟨trace, ready, run, atReceive, sameQueue, sameSent⟩ :=
        driver_finishes getsOn
      have atHead : ready.queue = first :: (rest ++ command :: after) :=
        sameQueue.trans queued
      have firstPlain : first.isPrompt = false := noPrompt first (by simp)
      obtain ⟨next, taken, nextSent, nextQueue, nextGetsOn⟩ :=
        receive_sends atReceive atHead
      obtain ⟨others, later, remaining, sentAll⟩ :=
        inductionHypothesis (nextGetsOn firstPlain) nextQueue
          fun earlier member => noPrompt earlier (by simp [member])
      refine ⟨_, later,
        (run.append (single_step taken trivial)).append remaining, ?_⟩
      rw [sentAll, nextSent, sameSent]
      simp

/-- A queued command can be sent without an answer to a prompt exactly when
the driver awaits none and no prompt is queued before the command. -/
theorem canSend_iff
    {trace : List Action} {front after : List Command} {command : Command}
    (run : Run step free spawned trace client)
    (queued : client.queue = front ++ command :: after) :
    CanSend client front command ↔
      ¬ client.AwaitsPrompt ∧
        ∀ earlier, earlier ∈ front → earlier.isPrompt = false := by
  constructor
  · intro sendable
    rcases sendable with ⟨steps, later, sending, sentAll⟩
    have balance := sendable_of_run sending
    rw [sentAll, List.append_assoc, List.append_assoc,
      List.append_cancel_left_eq, ← List.append_assoc] at balance
    have reached : front ++ [command] <+: client.sendable := ⟨_, balance⟩
    by_cases awaits : client.AwaitsPrompt
    · rw [sendable_of_awaits awaits] at reached
      simp at reached
    · refine ⟨awaits, ?_⟩
      rw [sendable_of_not_awaits awaits] at reached
      exact takeThrough_before reached
  · intro free
    rcases free with ⟨awaits, noPrompt⟩
    have sound := driverSound_of_run run
    have alive : client.driver ≠ .gone := by
      intro ended
      have unqueued := sound.unqueued ended
      rw [queued] at unqueued
      simp at unqueued
    exact canSend_of_no_prompt ⟨alive, sound.noCancel, awaits⟩ queued noPrompt

/-- A cancel behind a `session/new` goes out once the agent has answered
that. -/
theorem cancel_sent_after_sessionNew :
    ∃ client,
      exec step
          [.submit (.sessionNew "/" 0), .receive, .submit (.cancel "s" 1)]
          spawned = some client ∧
        CanSend client [] (.cancel "s" 1) := by
  obtain ⟨client, executed⟩ : ∃ client,
      exec step
          [.submit (.sessionNew "/" 0), .receive, .submit (.cancel "s" 1)]
          spawned = some client :=
    ⟨_, rfl⟩
  have queued : client.queue = [] ++ [.cancel "s" 1] := by
    cases executed
    rfl
  have awaits : ¬ client.AwaitsPrompt := by
    cases executed
    simp [AwaitsPrompt]
  exact ⟨client, executed,
    (canSend_iff (run_of_exec executed) queued).mpr ⟨awaits, by simp⟩⟩

/-- The cancel of a running turn waits for the turn's own response. -/
theorem cancel_can_be_blocked :
    ¬ ∀ trace client, Run step free spawned trace client →
        ∀ front command after, client.queue = front ++ command :: after →
          MustNotWait client command → CanSend client front command := by
  intro claimed
  obtain ⟨client, executed⟩ : ∃ client,
      exec step
          [.registerRoute 0 "s" [], .sendPrompt 0, .receive,
            .submit (.cancel "s" 0)]
          spawned = some client :=
    ⟨_, rfl⟩
  have queued : client.queue = [] ++ [.cancel "s" 0] := by
    cases executed
    rfl
  have awaits : client.AwaitsPrompt := by
    cases executed
    exact ⟨"s", [], 0, rfl⟩
  obtain ⟨steps, later, sending, sentAll⟩ :=
    claimed _ client (run_of_exec executed) [] (.cancel "s" 0) [] queued
      trivial
  have balance := sendable_of_run sending
  rw [sentAll, sendable_of_awaits awaits] at balance
  simp at balance

end AcpClient

end A2AShim
