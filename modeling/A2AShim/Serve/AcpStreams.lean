import Mathlib.Data.List.Nodup
import A2AShim.Serve.AcpClient

/-!
# What a prompt stream yields

The route table is keyed by session, while a stream belongs to one prompt.
The specification here is a book of windows: each prompt's window opens when
the driver sends its request to the agent and closes when the agent's response
resolves it.  A stream keeps its contract when it carries the updates that
arrived in its window, then the one item made of the response.
-/

namespace A2AShim

namespace AcpClient

/-! ## The book of windows -/

structure Window where
  session : SessionId
  arrived : List SessionUpdate
  resolution : Option StreamItem
  deriving DecidableEq, Repr

/-- What the prompt's stream has to carry so far. -/
def Window.expected (window : Window) : List StreamItem :=
  (window.arrived.map fun update => .ok (.update update)) ++
    window.resolution.toList

abbrev Book := PromptId → Option Window

/-- The prompts whose requests have gone to the agent. -/
def sentPrompts (client : AcpClient) : List PromptId :=
  client.sent.filterMap Command.sink?

/-- An update that arrives for a session enters the window of a prompt on it
that has been sent and is not resolved. -/
def Window.arrive (client : AcpClient) (session : SessionId)
    (update : SessionUpdate) (sink : PromptId) (window : Window) : Window :=
  if sink ∈ client.sentPrompts ∧ window.session = session ∧
      window.resolution = none then
    { window with arrived := window.arrived ++ [update] }
  else
    window

/-- The windows after `action`, taken from a state with `client`. -/
def observe (client : AcpClient) : Action → Book → Book
  | .registerRoute sink session _, book =>
      Function.update book sink
        (some { session, arrived := [], resolution := none })
  | .notify session update, book =>
      fun sink => (book sink).map (Window.arrive client session update sink)
  | .answer answer, book =>
      match client.driver with
      | .awaiting (.prompt _ _ sink) =>
          Function.update book sink
            ((book sink).map fun window =>
              { window with resolution := some answer.item })
      | _ => book
  | _, book => book

/-- The client run together with its book. -/
def observedStep (action : Action) (state : AcpClient × Book) :
    Option (AcpClient × Book) :=
  (step action state.1).map fun next =>
    (next, observe state.1 action state.2)

def unobserved : AcpClient × Book :=
  (spawned, fun _ => none)

/-- Items looked up or made for a stream but not yet sent on it. -/
def heldUpdate (client : AcpClient) (sink : PromptId) : List StreamItem :=
  match client.callback with
  | some (held, update) => if held = sink then [.ok (.update update)] else []
  | none => []

def heldTerminal (client : AcpClient) (sink : PromptId) : List StreamItem :=
  match client.driver with
  | .resolved _ held item => if held = sink then [item] else []
  | _ => []

/-- The contract: what was sent on a stream, with what is about to be sent, is
what its window says, and its holder has got it in that order. -/
def StreamContract (state : AcpClient × Book) : Prop :=
  ∀ sink stream, state.1.streams sink = some stream →
    ∃ window, state.2 sink = some window ∧
      window.session = stream.session ∧
        stream.items ++ state.1.heldUpdate sink ++ state.1.heldTerminal sink =
            window.expected ∧
          stream.yielded <+: window.expected

/-- Callers start a prompt on a session only after every earlier stream on it
has yielded the item that ends it (or its call has failed). -/
def Disciplined (client : AcpClient) : Action → Prop
  | .registerRoute _ session _ =>
      ∀ earlier stream, client.streams earlier = some stream →
        stream.session = session →
          stream.status = .failed ∨
            ∃ item, item ∈ stream.yielded ∧ endsStream item = true
  | _ => True

/-- No update arrives for a session that has a route while the agent is not at
work on its prompt: neither while the command waits in the queue, nor between
the response and the removal of the route.  And once the terminal item is out,
no new prompt is registered on the session before the route is removed. -/
def Undisturbed (client : AcpClient) : Action → Prop
  | .registerRoute _ session _ =>
      ∀ sink, client.driver ≠ .clearing session sink
  | .notify session _ =>
      ∀ sink, client.routes session = some sink →
        ∃ content, client.driver = .awaiting (.prompt session content sink)
  | _ => True

/-- Steps of disciplined callers, the callback and the running drive loop. -/
def disciplined (state : AcpClient × Book) (action : Action) : Prop :=
  action ≠ .stop ∧ Disciplined state.1 action

def undisturbed (state : AcpClient × Book) (action : Action) : Prop :=
  disciplined state action ∧ Undisturbed state.1 action

/-! ## Bookkeeping lemmas -/

variable {client : AcpClient} {book : Book}

@[simp]
theorem putStream_self
    (client : AcpClient) (sink : PromptId) (stream : PromptStream) :
    (client.putStream sink stream).streams sink = some stream := by
  simp [putStream]

theorem putStream_other
    {sink tested : PromptId} {stream : PromptStream}
    (different : tested ≠ sink) :
    (client.putStream sink stream).streams tested = client.streams tested := by
  simp [putStream, different]

/-- A stream that is found after one has been put. -/
theorem putStream_cases
    {sink tested : PromptId} {put stream : PromptStream}
    (found : (client.putStream sink put).streams tested = some stream) :
    tested = sink ∧ stream = put ∨ client.streams tested = some stream := by
  by_cases same : tested = sink
  · subst same
    rw [putStream_self, Option.some.injEq] at found
    exact .inl ⟨rfl, found.symm⟩
  · rw [putStream_other same] at found
    exact .inr found

theorem heldUpdate_of_away
    {sink : PromptId}
    (away : ∀ other update,
      client.callback = some (other, update) → other ≠ sink) :
    client.heldUpdate sink = [] := by
  unfold heldUpdate
  cases held : client.callback with
  | none => rfl
  | some pair => exact if_neg (away pair.1 pair.2 held)

theorem heldTerminal_of_away
    {sink : PromptId}
    (away : ∀ session other item,
      client.driver = .resolved session other item → other ≠ sink) :
    client.heldTerminal sink = [] := by
  unfold heldTerminal
  cases standing : client.driver with
  | resolved session other item =>
      exact if_neg (away session other item standing)
  | _ => rfl

/-- An update whose session is not routed to a sink is not held for it. -/
theorem heldUpdate_unrouted
    {session : SessionId} {update : SessionUpdate} {sink : PromptId}
    (unrouted : client.routes session ≠ some sink) :
    heldUpdate { client with
      callback := (client.routes session).map fun sink => (sink, update) }
      sink = [] := by
  cases route : client.routes session with
  | none => simp [heldUpdate]
  | some other =>
      have different : other ≠ sink := by
        intro isSame
        subst isSame
        exact unrouted route
      simp [heldUpdate, different]

/-- Sending appends to the one channel, whoever holds it. -/
theorem send_streams
    (client : AcpClient) (sink tested : PromptId) (item : StreamItem) :
    (client.send sink item).streams tested =
      if tested = sink then
        (client.streams sink).map fun stream =>
          { stream with items := stream.items ++ [item] }
      else
        client.streams tested := by
  unfold send
  by_cases same : tested = sink
  · subst same
    cases found : client.streams tested with
    | none => simp [found]
    | some stream => simp
  · cases found : client.streams sink with
    | none => simp [same]
    | some stream => simp [same, putStream_other]

theorem send_none_iff
    (client : AcpClient) (sink tested : PromptId) (item : StreamItem) :
    (client.send sink item).streams tested = none ↔
      client.streams tested = none := by
  rw [send_streams]
  by_cases same : tested = sink
  · rw [if_pos same, Option.map_eq_none_iff, same]
  · rw [if_neg same]

/-- An item adds nothing to a stream but itself. -/
theorem status_of_send
    {sink tested : PromptId} {item : StreamItem} {stream : PromptStream}
    (found : (client.send sink item).streams tested = some stream) :
    ∃ before,
      client.streams tested = some before ∧ before.status = stream.status := by
  rw [send_streams] at found
  by_cases same : tested = sink
  · rw [if_pos same, ← same] at found
    obtain ⟨before, foundBefore, rfl⟩ := Option.map_eq_some_iff.mp found
    exact ⟨before, foundBefore, rfl⟩
  · rw [if_neg same] at found
    exact ⟨stream, found, rfl⟩

@[simp]
theorem send_routes (client : AcpClient) (sink : PromptId) (item : StreamItem) :
    (client.send sink item).routes = client.routes := by
  unfold send
  split <;> rfl

@[simp]
theorem send_queue (client : AcpClient) (sink : PromptId) (item : StreamItem) :
    (client.send sink item).queue = client.queue := by
  unfold send
  split <;> rfl

@[simp]
theorem send_driver (client : AcpClient) (sink : PromptId) (item : StreamItem) :
    (client.send sink item).driver = client.driver := by
  unfold send
  split <;> rfl

@[simp]
theorem send_sent (client : AcpClient) (sink : PromptId) (item : StreamItem) :
    (client.send sink item).sent = client.sent := by
  unfold send
  split <;> rfl

@[simp]
theorem send_callback
    (client : AcpClient) (sink : PromptId) (item : StreamItem) :
    (client.send sink item).callback = client.callback := by
  unfold send
  split <;> rfl

/-- Commands the driver has taken but not finished with, then the queue. -/
def pending (client : AcpClient) : List Command :=
  match client.driver with
  | .awaiting command => command :: client.queue
  | _ => client.queue

theorem pending_enqueue
    (client : AcpClient) (streams : PromptId → Option PromptStream)
    (command : Command) :
    pending { client with
      streams := streams, queue := client.queue ++ [command] } =
      client.pending ++ [command] := by
  unfold pending
  cases client.driver <;> rfl

theorem prompt_sink_mem
    {commands : List Command} {sink : PromptId}
    (member : sink ∈ commands.filterMap Command.sink?) :
    ∃ session content, Command.prompt session content sink ∈ commands := by
  obtain ⟨command, inside, named⟩ := List.mem_filterMap.mp member
  cases command with
  | prompt session content other =>
      simp only [Command.sink?, Option.some.injEq] at named
      subst named
      exact ⟨session, content, inside⟩
  | _ => simp [Command.sink?] at named

theorem Window.arrive_session
    (session : SessionId) (update : SessionUpdate) (sink : PromptId)
    (window : Window) :
    (window.arrive client session update sink).session = window.session := by
  unfold Window.arrive
  split <;> rfl

theorem Window.arrive_resolution
    (session : SessionId) (update : SessionUpdate) (sink : PromptId)
    (window : Window) :
    (window.arrive client session update sink).resolution =
      window.resolution := by
  unfold Window.arrive
  split <;> rfl

/-- A stream that has still something to come carries no ending item yet. -/
theorem no_end_before_expected
    {window : Window} {items rest : List StreamItem}
    (whole : items ++ rest = window.expected)
    (unfinished : rest ≠ [] ∨ window.resolution = none) :
    ∀ item, item ∈ items → endsStream item = false := by
  have updatesOnly :
      ∀ item, item ∈ (window.arrived.map fun update =>
          (.ok (.update update) : StreamItem)) →
        endsStream item = false := by
    intro item member
    obtain ⟨update, _, rfl⟩ := List.mem_map.mp member
    rfl
  intro item member
  apply updatesOnly
  rcases unfinished with more | unresolved
  · have shorter : items.length ≤ window.arrived.length := by
      have restLength : 0 < rest.length := List.length_pos_iff.mpr more
      have totalLength := congrArg List.length whole
      have oneResolution : window.resolution.toList.length ≤ 1 := by
        cases window.resolution <;> simp
      simp only [Window.expected, List.length_append, List.length_map]
        at totalLength
      omega
    have prefixOfExpected : items <+: window.expected := ⟨rest, whole⟩
    have prefixOfUpdates :=
      List.prefix_of_prefix_length_le prefixOfExpected
        (List.prefix_append _ window.resolution.toList)
        (by simpa using shorter)
    exact prefixOfUpdates.subset member
  · have wholeUpdates :
        items ++ rest =
          window.arrived.map fun update => .ok (.update update) := by
      rw [whole, Window.expected, unresolved]
      simp
    rw [← wholeUpdates]
    exact List.mem_append_left rest member

/-! ## The invariant behind the contract -/

/-- The driver is about to finish with the prompt of `sink` on `session`. -/
def Finishing (client : AcpClient) (session : SessionId) (sink : PromptId) :
    Prop :=
  (∃ item, client.driver = .resolved session sink item) ∨
    client.driver = .clearing session sink

/-- Which prompts the route table, the queue, the driver and the callback may
still be working for. -/
structure Tracked (client : AcpClient) (book : Book) : Prop where
  alive : client.driver ≠ .gone
  sentFirst : ∀ command, client.driver = .awaiting command →
    command ∈ client.sent
  known : ∀ sink, client.streams sink = none ↔ book sink = none
  account : ∀ sink stream window,
    client.streams sink = some stream → book sink = some window →
      window.session = stream.session ∧
        stream.items ++ (client.heldUpdate sink ++ client.heldTerminal sink) =
          window.expected
  openRouted : ∀ sink window,
    book sink = some window → window.resolution = none →
      client.routes window.session = some sink
  routed : ∀ session sink, client.routes session = some sink →
    ∃ window, book sink = some window ∧ window.session = session ∧
      (window.resolution = none ∨ client.Finishing session sink)
  finishing : ∀ session sink, client.Finishing session sink →
    client.routes session = some sink ∧
      ∃ window, book sink = some window ∧ window.resolution ≠ none
  pendingOpen : ∀ session content sink,
    Command.prompt session content sink ∈ client.pending →
      ∃ window stream,
        book sink = some window ∧ client.streams sink = some stream ∧
          window.session = session ∧ window.resolution = none ∧
            stream.status = .returned
  pendingDistinct : (client.pending.filterMap Command.sink?).Nodup
  heldOpen : ∀ sink update, client.callback = some (sink, update) →
    ∃ window, book sink = some window ∧ window.resolution = none
  resolvedReturned : ∀ sink stream window,
    client.streams sink = some stream → book sink = some window →
      window.resolution ≠ none → stream.status = .returned
  notFailed : ∀ sink stream,
    client.streams sink = some stream → stream.status ≠ .failed

theorem tracked_spawned : Tracked spawned fun _ => none where
  alive := by simp [spawned]
  sentFirst := by simp [spawned]
  known := by simp [spawned]
  account := by simp [spawned]
  openRouted := by simp
  routed := by simp [spawned]
  finishing := by simp [spawned, Finishing]
  pendingOpen := by simp [spawned, pending]
  pendingDistinct := by simp [spawned, pending]
  heldOpen := by simp [spawned]
  resolvedReturned := by simp [spawned]
  notFailed := by simp [spawned]

namespace Tracked

/-- Callers that keep the discipline find no open window on their session, and
no driver on its way to send a terminal item there. -/
theorem session_free
    (tracked : Tracked client book)
    {sink : PromptId} {session : SessionId} {content : List ContentBlock}
    (inTurn : Disciplined client (.registerRoute sink session content)) :
    (∀ earlier window, book earlier = some window →
        window.session = session → window.resolution ≠ none) ∧
      ∀ earlier item, client.driver ≠ .resolved session earlier item := by
  have ended :
      ∀ earlier window, book earlier = some window →
        window.session = session →
          ∃ stream, client.streams earlier = some stream ∧
            ∃ item, item ∈ stream.items ∧ endsStream item = true := by
    intro earlier window booked sameSession
    cases found : client.streams earlier with
    | none =>
        rw [(tracked.known earlier).mp found] at booked
        cases booked
    | some stream =>
        refine ⟨stream, rfl, ?_⟩
        have streamSession :=
          (tracked.account earlier stream window found booked).1
        rcases inTurn earlier stream found
            (streamSession.symm.trans sameSession) with failed | yielded
        · exact absurd failed (tracked.notFailed earlier stream found)
        · rcases yielded with ⟨item, member, ends⟩
          exact ⟨item, List.mem_of_mem_take member, ends⟩
  constructor
  · intro earlier window booked sameSession unresolved
    obtain ⟨stream, found, item, member, ends⟩ :=
      ended earlier window booked sameSession
    have noEnd :=
      no_end_before_expected
        (tracked.account earlier stream window found booked).2
        (.inr unresolved) item member
    rw [noEnd] at ends
    cases ends
  · intro earlier item atResolved
    have route := (tracked.finishing session earlier (.inl ⟨item, atResolved⟩)).1
    obtain ⟨window, booked, sameSession, _⟩ :=
      tracked.routed session earlier route
    obtain ⟨stream, found, other, member, ends⟩ :=
      ended earlier window booked sameSession
    have stillComing :
        client.heldUpdate earlier ++ client.heldTerminal earlier ≠ [] := by
      simp [heldTerminal, atResolved]
    have noEnd :=
      no_end_before_expected
        (tracked.account earlier stream window found booked).2
        (.inl stillComing) other member
    rw [noEnd] at ends
    cases ends

/-- Nothing is on its way to a stream that does not exist yet. -/
theorem fresh
    (tracked : Tracked client book) {sink : PromptId}
    (unknown : client.streams sink = none) :
    client.heldUpdate sink = [] ∧ client.heldTerminal sink = [] := by
  have unbooked : book sink = none := (tracked.known sink).mp unknown
  constructor
  · apply heldUpdate_of_away
    intro other update held isSame
    obtain ⟨window, booked, _⟩ := tracked.heldOpen other update held
    rw [isSame, unbooked] at booked
    cases booked
  · apply heldTerminal_of_away
    intro session other item standing isSame
    obtain ⟨_, window, booked, _⟩ :=
      tracked.finishing session other (.inl ⟨item, standing⟩)
    rw [isSame, unbooked] at booked
    cases booked

/-- A stream in a call that has not sent its command is not pending, and its
window is open. -/
theorem of_registered
    (tracked : Tracked client book)
    {sink : PromptId} {stream : PromptStream}
    (found : client.streams sink = some stream)
    (inCall : stream.status = .registered) :
    (∃ window, book sink = some window ∧
        window.session = stream.session ∧ window.resolution = none) ∧
      sink ∉ client.pending.filterMap Command.sink? := by
  constructor
  · cases booked : book sink with
    | none =>
        rw [(tracked.known sink).mpr booked] at found
        cases found
    | some window =>
        refine ⟨window, rfl, (tracked.account sink stream window found booked).1, ?_⟩
        by_contra finished
        have returned :=
          tracked.resolvedReturned sink stream window found booked finished
        rw [inCall] at returned
        cases returned
  · intro member
    obtain ⟨session, content, waiting⟩ := prompt_sink_mem member
    obtain ⟨window, other, _, foundOther, _, _, returned⟩ :=
      tracked.pendingOpen session content sink waiting
    rw [found] at foundOther
    cases foundOther
    rw [inCall] at returned
    cases returned

/-- An open window has no terminal item on its way. -/
theorem heldTerminal_of_open
    (tracked : Tracked client book) {sink : PromptId} {window : Window}
    (booked : book sink = some window) (unresolved : window.resolution = none) :
    client.heldTerminal sink = [] := by
  apply heldTerminal_of_away
  intro session other item standing isSame
  obtain ⟨_, found, otherBooked, finished⟩ :=
    tracked.finishing session other (.inl ⟨item, standing⟩)
  rw [isSame, booked] at otherBooked
  cases otherBooked
  exact finished unresolved

/-- A resolved window has no update on its way. -/
theorem heldUpdate_of_resolved
    (tracked : Tracked client book) {sink : PromptId} {window : Window}
    (booked : book sink = some window) (finished : window.resolution ≠ none) :
    client.heldUpdate sink = [] := by
  apply heldUpdate_of_away
  intro other update held isSame
  obtain ⟨found, otherBooked, unresolved⟩ :=
    tracked.heldOpen other update held
  rw [isSame, booked] at otherBooked
  cases otherBooked
  exact finished unresolved

/-! ## Every step keeps the invariant -/

theorem registerRoute
    (tracked : Tracked client book)
    {sink : PromptId} {session : SessionId} {content : List ContentBlock}
    (inTurn : Disciplined client (.registerRoute sink session content))
    (settled : Undisturbed client (.registerRoute sink session content))
    {target : AcpClient}
    (taken : client.registerRoute sink session content = some target) :
    Tracked target
      (Function.update book sink
        (some { session, arrived := [], resolution := none })) := by
  obtain ⟨unknown, rfl⟩ := registerRoute_some taken
  have unbooked : book sink = none := (tracked.known sink).mp unknown
  have noneHeld := tracked.fresh unknown
  have bookedOther :
      ∀ {other window}, book other = some window → other ≠ sink := by
    intro other window booked isSame
    subst isSame
    rw [unbooked] at booked
    cases booked
  refine
    { alive := tracked.alive
      sentFirst := tracked.sentFirst
      known := ?_, account := ?_, openRouted := ?_, routed := ?_
      finishing := ?_, pendingOpen := ?_
      pendingDistinct := tracked.pendingDistinct
      heldOpen := ?_, resolvedReturned := ?_, notFailed := ?_ }
  · intro tested
    by_cases same : tested = sink
    · subst same
      simp [putRoute]
    · simpa [putRoute, putStream, same] using tracked.known tested
  · intro tested stream window found booked
    by_cases same : tested = sink
    · subst same
      simp only [putRoute, putStream_self, Option.some.injEq] at found
      simp only [Function.update_self, Option.some.injEq] at booked
      subst found booked
      refine ⟨rfl, ?_⟩
      change [] ++ (client.heldUpdate tested ++ client.heldTerminal tested) = []
      rw [noneHeld.1, noneHeld.2]
      rfl
    · rw [Function.update_of_ne same] at booked
      rw [putRoute, putStream_other same] at found
      exact tracked.account tested stream window found booked
  · intro tested window booked unresolved
    by_cases same : tested = sink
    · subst same
      simp only [Function.update_self, Option.some.injEq] at booked
      subst booked
      simp [putRoute]
    · rw [Function.update_of_ne same] at booked
      have otherSession : window.session ≠ session := by
        intro sameSession
        exact (tracked.session_free inTurn).1
          tested window booked sameSession unresolved
      have routedBefore := tracked.openRouted tested window booked unresolved
      simpa [putRoute, putStream, otherSession] using routedBefore
  · intro tested other route
    by_cases same : tested = session
    · subst same
      have sameSink : sink = other := by
        simpa [putRoute] using route
      subst sameSink
      exact ⟨{ session := tested, arrived := [], resolution := none },
        by simp, rfl, .inl rfl⟩
    · have routeBefore : client.routes tested = some other := by
        simpa [putRoute, putStream, same] using route
      obtain ⟨window, booked, rest⟩ := tracked.routed tested other routeBefore
      refine ⟨window, ?_, rest⟩
      rw [Function.update_of_ne (bookedOther booked)]
      exact booked
  · intro tested other busy
    have otherSession : tested ≠ session := by
      intro isSame
      subst isSame
      rcases busy with ⟨item, atResolved⟩ | atClearing
      · exact (tracked.session_free inTurn).2 other item atResolved
      · exact settled other atClearing
    obtain ⟨routeBefore, window, booked, finished⟩ :=
      tracked.finishing tested other busy
    refine ⟨by simpa [putRoute, putStream, otherSession] using routeBefore,
      window, ?_, finished⟩
    rw [Function.update_of_ne (bookedOther booked)]
    exact booked
  · intro tested blocks other waiting
    obtain ⟨window, stream, booked, found, rest⟩ :=
      tracked.pendingOpen tested blocks other waiting
    have different := bookedOther booked
    refine ⟨window, stream, ?_, ?_, rest⟩
    · rw [Function.update_of_ne different]
      exact booked
    · simpa [putRoute, putStream, different] using found
  · intro other update held
    obtain ⟨window, booked, unresolved⟩ := tracked.heldOpen other update held
    refine ⟨window, ?_, unresolved⟩
    rw [Function.update_of_ne (bookedOther booked)]
    exact booked
  · intro tested stream window found booked finished
    by_cases same : tested = sink
    · subst same
      simp only [Function.update_self, Option.some.injEq] at booked
      subst booked
      exact absurd rfl finished
    · rw [Function.update_of_ne same] at booked
      rw [putRoute, putStream_other same] at found
      exact tracked.resolvedReturned tested stream window found booked finished
  · intro tested stream found
    rcases putStream_cases found with ⟨rfl, rfl⟩ | foundBefore
    · simp
    · exact tracked.notFailed tested stream foundBefore

/-- Changing a stream's status or read position, but not what was sent on it,
keeps the accounts. -/
theorem account_of_same_items
    (tracked : Tracked client book)
    {sink : PromptId} {stream : PromptStream} (changed : PromptStream)
    (found : client.streams sink = some stream)
    (sameSession : changed.session = stream.session)
    (sameItems : changed.items = stream.items)
    {tested : PromptId} {now : PromptStream} {window : Window}
    (foundNow :
      Function.update client.streams sink (some changed) tested = some now)
    (booked : book tested = some window) :
    window.session = now.session ∧
      now.items ++ (client.heldUpdate tested ++ client.heldTerminal tested) =
        window.expected := by
  by_cases same : tested = sink
  · subst same
    simp only [Function.update_self, Option.some.injEq] at foundNow
    subst foundNow
    rw [sameSession, sameItems]
    exact tracked.account tested stream window found booked
  · rw [Function.update_of_ne same] at foundNow
    exact tracked.account tested now window foundNow booked

theorem known_of_found
    (tracked : Tracked client book)
    {sink : PromptId} {stream : PromptStream}
    (found : client.streams sink = some stream)
    (changed : PromptStream) (tested : PromptId) :
    Function.update client.streams sink (some changed) tested = none ↔
      book tested = none := by
  by_cases same : tested = sink
  · subst same
    rw [← tracked.known tested, found]
    simp
  · simpa [same] using tracked.known tested

theorem sendPrompt
    (tracked : Tracked client book)
    {sink : PromptId} {target : AcpClient}
    (taken : client.sendPrompt sink = some target) :
    Tracked target book := by
  obtain ⟨stream, found, inCall, outcome⟩ := sendPrompt_some taken
  obtain ⟨⟨own, ownBooked, ownSession, ownOpen⟩, notPending⟩ :=
    tracked.of_registered found inCall
  rcases outcome with ⟨ended, _⟩ | ⟨alive, rfl⟩
  · exact absurd ended tracked.alive
  · have queued :=
      pending_enqueue client
        (Function.update client.streams sink
          (some { stream with status := .returned }))
        (.prompt stream.session stream.content sink)
    refine
      { tracked with
        alive := alive
        known := tracked.known_of_found found _
        account := fun _ _ _ =>
          tracked.account_of_same_items
            { stream with status := .returned } found rfl rfl
        pendingOpen := ?_, pendingDistinct := ?_
        resolvedReturned := ?_, notFailed := ?_ }
    · intro session content other waiting
      rw [putStream, queued, List.mem_append, List.mem_singleton] at waiting
      rcases waiting with before | new
      · have different : other ≠ sink := by
          intro isSame
          subst isSame
          exact notPending (List.mem_filterMap.mpr ⟨_, before, rfl⟩)
        obtain ⟨window, now, booked, foundNow, rest⟩ :=
          tracked.pendingOpen session content other before
        exact ⟨window, now, booked, by
          simpa [putStream, different] using foundNow, rest⟩
      · cases new
        exact ⟨own, { stream with status := .returned }, ownBooked,
          by simp, ownSession, ownOpen, rfl⟩
    · rw [putStream, queued, List.filterMap_append]
      refine List.Nodup.append tracked.pendingDistinct (by simp [Command.sink?]) ?_
      simpa [Command.sink?] using notPending
    · intro tested now window foundNow booked finished
      rcases putStream_cases foundNow with ⟨rfl, rfl⟩ | foundBefore
      · rfl
      · exact tracked.resolvedReturned tested now window foundBefore booked
          finished
    · intro tested now foundNow
      rcases putStream_cases foundNow with ⟨rfl, rfl⟩ | foundBefore
      · simp
      · exact tracked.notFailed tested now foundBefore

/-- Steps that only move commands keep the invariant, when the driver is
neither before nor after the step about to finish with a prompt. -/
theorem of_commands
    (tracked : Tracked client book) {target : AcpClient}
    (streams : target.streams = client.streams)
    (routes : target.routes = client.routes)
    (callback : target.callback = client.callback)
    (idleBefore : ∀ session sink, ¬ client.Finishing session sink)
    (idleAfter : ∀ session sink, ¬ target.Finishing session sink)
    (running : target.driver ≠ .gone)
    (sentFirst : ∀ command, target.driver = .awaiting command →
      command ∈ target.sent)
    (fromPending : ∀ session content sink,
      Command.prompt session content sink ∈ target.pending →
        Command.prompt session content sink ∈ client.pending)
    (distinct : (target.pending.filterMap Command.sink?).Nodup) :
    Tracked target book := by
  have noTerminal :
      ∀ {some? : AcpClient}, (∀ session sink, ¬ some?.Finishing session sink) →
        ∀ sink, some?.heldTerminal sink = [] := by
    intro some? idle sink
    apply heldTerminal_of_away
    intro session other item standing
    exact absurd (.inl ⟨item, standing⟩) (idle session other)
  refine
    { alive := running
      sentFirst := sentFirst
      known := by rw [streams]; exact tracked.known
      account := ?_, openRouted := by rw [routes]; exact tracked.openRouted
      routed := ?_
      finishing := fun session sink busy =>
        absurd busy (idleAfter session sink)
      pendingOpen := ?_, pendingDistinct := distinct
      heldOpen := by rw [callback]; exact tracked.heldOpen
      resolvedReturned := by rw [streams]; exact tracked.resolvedReturned
      notFailed := by rw [streams]; exact tracked.notFailed }
  · intro sink stream window found booked
    rw [streams] at found
    obtain ⟨sameSession, whole⟩ :=
      tracked.account sink stream window found booked
    refine ⟨sameSession, ?_⟩
    rw [noTerminal idleBefore] at whole
    rw [noTerminal idleAfter, ← whole]
    unfold heldUpdate
    rw [callback]
  · intro session sink route
    rw [routes] at route
    obtain ⟨window, booked, sameSession, unresolved | busy⟩ :=
      tracked.routed session sink route
    · exact ⟨window, booked, sameSession, .inl unresolved⟩
    · exact absurd busy (idleBefore session sink)
  · intro session content sink waiting
    rw [streams]
    exact tracked.pendingOpen session content sink
      (fromPending session content sink waiting)

theorem submit
    (tracked : Tracked client book)
    {command : Command} {target : AcpClient}
    (taken : client.submit command = some target) :
    Tracked target book := by
  obtain ⟨notPrompt, outcome⟩ := submit_some taken
  rcases outcome with ⟨ended, _⟩ | ⟨_, rfl⟩
  · exact absurd ended tracked.alive
  · have queued := pending_enqueue client client.streams command
    refine
      { tracked with
        pendingOpen := ?_, pendingDistinct := ?_ }
    · intro session content sink waiting
      rw [queued, List.mem_append, List.mem_singleton] at waiting
      rcases waiting with before | rfl
      · exact tracked.pendingOpen session content sink before
      · cases notPrompt
    · have unnamed : command.sink? = none := by
        cases command <;> first | rfl | cases notPrompt
      rw [queued, List.filterMap_append]
      simpa [unnamed] using tracked.pendingDistinct

theorem receive
    (tracked : Tracked client book) {target : AcpClient}
    (taken : client.receive = some target) :
    Tracked target book := by
  obtain ⟨command, rest, atReceive, queued, outcome⟩ := receive_some taken
  have pendingBefore : client.pending = command :: rest := by
    rw [pending, atReceive, queued]
  have distinct := tracked.pendingDistinct
  rw [pendingBefore] at distinct
  rcases outcome with ⟨session, respond, rfl, rfl⟩ | ⟨_, rfl⟩
  · refine tracked.of_commands rfl rfl rfl ?_ ?_ ?_ ?_ ?_ ?_
    · simp [Finishing, atReceive]
    · simp [Finishing, atReceive]
    · simp [atReceive]
    · simp [atReceive]
    · intro tested content sink waiting
      rw [pendingBefore]
      exact List.mem_cons_of_mem _ (by simpa [pending, atReceive] using waiting)
    · simpa [pending, atReceive, Command.sink?, List.filterMap_cons]
        using distinct
  · refine tracked.of_commands rfl rfl rfl ?_ ?_ ?_ ?_ ?_ ?_
    · simp [Finishing, atReceive]
    · simp [Finishing]
    · simp
    · intro awaited isAwaited
      cases isAwaited
      exact List.mem_append_right _ (List.mem_singleton_self _)
    · intro tested content sink waiting
      rw [pendingBefore]
      exact waiting
    · exact distinct

theorem answered
    (tracked : Tracked client book)
    {answer : Answer} {target : AcpClient}
    (taken : client.answered answer = some target) :
    Tracked target (observe client (.answer answer) book) := by
  obtain ⟨idle, command, atAwait, _, outcome⟩ := answered_some taken
  have pendingBefore : client.pending = command :: client.queue := by
    rw [pending, atAwait]
  have distinct := tracked.pendingDistinct
  rw [pendingBefore] at distinct
  rcases outcome with
    ⟨session, content, sink, rfl, rfl⟩ | ⟨notPrompt, respond, rfl⟩
  · obtain ⟨own, ownStream, ownBooked, ownFound, ownSession, ownOpen, returned⟩ :=
      tracked.pendingOpen session content sink (by rw [pendingBefore]; simp)
    simp only [List.filterMap_cons, Command.sink?, List.nodup_cons] at distinct
    simp only [observe, atAwait, ownBooked, Option.map_some]
    have notBusy : ∀ tested other, ¬ client.Finishing tested other := by
      simp [Finishing, atAwait]
    refine
      { alive := by simp
        sentFirst := by simp
        known := ?_, account := ?_, openRouted := ?_, routed := ?_
        finishing := ?_, pendingOpen := ?_
        pendingDistinct := distinct.2
        heldOpen := ?_, resolvedReturned := ?_
        notFailed := tracked.notFailed }
    · intro tested
      by_cases same : tested = sink
      · subst same
        simp [ownFound]
      · simpa [same] using tracked.known tested
    · intro tested stream window found booked
      by_cases same : tested = sink
      · subst same
        simp only [Function.update_self, Option.some.injEq] at booked
        subst booked
        obtain ⟨sameSession, whole⟩ :=
          tracked.account tested stream own found ownBooked
        refine ⟨sameSession, ?_⟩
        have soFar : stream.items =
            own.arrived.map fun update => .ok (.update update) := by
          simpa [heldUpdate, idle, heldTerminal, atAwait, Window.expected,
            ownOpen] using whole
        simp [heldUpdate, idle, heldTerminal, Window.expected, soFar]
      · rw [Function.update_of_ne same] at booked
        have whole := tracked.account tested stream window found booked
        simpa [heldUpdate, idle, heldTerminal, atAwait, Ne.symm same]
          using whole
    · intro tested window booked unresolved
      by_cases same : tested = sink
      · subst same
        simp only [Function.update_self, Option.some.injEq] at booked
        subst booked
        cases unresolved
      · rw [Function.update_of_ne same] at booked
        exact tracked.openRouted tested window booked unresolved
    · intro tested other route
      obtain ⟨window, booked, sameSession, unresolved | busy⟩ :=
        tracked.routed tested other route
      · by_cases same : other = sink
        · subst same
          rw [ownBooked] at booked
          cases booked
          refine ⟨{ own with resolution := some answer.item }, by simp,
            sameSession, .inr (.inl ⟨answer.item, ?_⟩)⟩
          rw [← ownSession, sameSession]
        · refine ⟨window, ?_, sameSession, .inl unresolved⟩
          rw [Function.update_of_ne same]
          exact booked
      · exact absurd busy (notBusy tested other)
    · intro tested other busy
      rcases busy with ⟨item, atResolved⟩ | atClearing
      · cases atResolved
        refine ⟨?_, { own with resolution := some answer.item }, by simp,
          by simp⟩
        rw [← ownSession]
        exact tracked.openRouted sink own ownBooked ownOpen
      · cases atClearing
    · intro tested blocks other waiting
      have inQueue : Command.prompt tested blocks other ∈ client.queue :=
        waiting
      have different : other ≠ sink := by
        intro isSame
        subst isSame
        exact distinct.1 (List.mem_filterMap.mpr ⟨_, inQueue, rfl⟩)
      rw [Function.update_of_ne different]
      exact tracked.pendingOpen tested blocks other
        (by rw [pendingBefore]; exact List.mem_cons_of_mem _ inQueue)
    · intro other update held
      rw [idle] at held
      cases held
    · intro tested stream window found booked finished
      by_cases same : tested = sink
      · subst same
        rw [ownFound] at found
        cases found
        exact returned
      · rw [Function.update_of_ne same] at booked
        exact tracked.resolvedReturned tested stream window found booked finished
  · have sameBook : observe client (.answer answer) book = book := by
      cases command with
      | prompt _ _ _ => cases notPrompt
      | _ => simp [observe, atAwait]
    rw [sameBook]
    refine tracked.of_commands rfl rfl rfl ?_ ?_ ?_ ?_ ?_ ?_
    · simp [Finishing, atAwait]
    · simp [Finishing, reply]
    · simp [reply]
    · simp [reply]
    · intro tested content sink waiting
      rw [pendingBefore]
      exact List.mem_cons_of_mem _ waiting
    · exact distinct.sublist
        ((List.sublist_cons_self command client.queue).filterMap _)

theorem sendTerminal
    (tracked : Tracked client book) {target : AcpClient}
    (taken : client.sendTerminal = some target) :
    Tracked target book := by
  obtain ⟨session, sink, item, atResolved, rfl⟩ := sendTerminal_some taken
  obtain ⟨route, own, ownBooked, finished⟩ :=
    tracked.finishing session sink (.inl ⟨item, atResolved⟩)
  have noUpdate := tracked.heldUpdate_of_resolved ownBooked finished
  have pendingSame :
      pending { client.send sink item with
        driver := .clearing session sink } = client.pending := by
    simp [pending, atResolved]
  refine
    { alive := by simp
      sentFirst := by simp
      known := ?_, account := ?_
      openRouted := by simpa using tracked.openRouted
      routed := ?_, finishing := ?_
      pendingOpen := ?_
      pendingDistinct := by rw [pendingSame]; exact tracked.pendingDistinct
      heldOpen := by simpa using tracked.heldOpen
      resolvedReturned := ?_, notFailed := ?_ }
  · intro tested
    exact (send_none_iff client sink tested item).trans (tracked.known tested)
  · intro tested stream window found booked
    simp only [send_streams] at found
    by_cases same : tested = sink
    · subst same
      rw [if_pos rfl, Option.map_eq_some_iff] at found
      rcases found with ⟨before, foundBefore, rfl⟩
      obtain ⟨sameSession, whole⟩ :=
        tracked.account tested before window foundBefore booked
      refine ⟨sameSession, ?_⟩
      rw [noUpdate] at whole
      have noUpdateAfter :
          heldUpdate { client.send tested item with
            driver := .clearing session tested } tested = [] := by
        simpa [heldUpdate] using noUpdate
      rw [noUpdateAfter]
      simpa [heldTerminal, atResolved] using whole
    · rw [if_neg same] at found
      have whole := tracked.account tested stream window found booked
      simpa [heldUpdate, heldTerminal, atResolved, Ne.symm same] using whole
  · intro tested other routeNow
    have routeBefore : client.routes tested = some other := by
      simpa using routeNow
    obtain ⟨window, booked, sameSession, unresolved | busy⟩ :=
      tracked.routed tested other routeBefore
    · exact ⟨window, booked, sameSession, .inl unresolved⟩
    · refine ⟨window, booked, sameSession, .inr (.inr ?_)⟩
      rcases busy with ⟨otherItem, otherResolved⟩ | otherClearing
      · rw [atResolved] at otherResolved
        cases otherResolved
        rfl
      · rw [atResolved] at otherClearing
        cases otherClearing
  · intro tested other busy
    rcases busy with ⟨otherItem, otherResolved⟩ | otherClearing
    · cases otherResolved
    · cases otherClearing
      exact ⟨by simpa using route, own, ownBooked, finished⟩
  · intro tested content other waiting
    rw [pendingSame] at waiting
    obtain ⟨window, stream, booked, found, rest⟩ :=
      tracked.pendingOpen tested content other waiting
    have different : other ≠ sink := by
      intro isSame
      subst isSame
      rw [ownBooked] at booked
      cases booked
      exact finished rest.2.1
    exact ⟨window, stream, booked, by
      simpa [send_streams, different] using found, rest⟩
  · intro tested stream window found booked resolved
    obtain ⟨before, foundBefore, sameStatus⟩ := status_of_send found
    rw [← sameStatus]
    exact tracked.resolvedReturned tested before window foundBefore booked
      resolved
  · intro tested stream found
    obtain ⟨before, foundBefore, sameStatus⟩ := status_of_send found
    rw [← sameStatus]
    exact tracked.notFailed tested before foundBefore

theorem clearRoute
    (tracked : Tracked client book) {target : AcpClient}
    (taken : client.clearRoute = some target) :
    Tracked target book := by
  obtain ⟨session, sink, atClearing, rfl⟩ := clearRoute_some taken
  obtain ⟨route, own, ownBooked, finished⟩ :=
    tracked.finishing session sink (.inr atClearing)
  refine
    { tracked with
      alive := by simp
      sentFirst := by simp
      account := ?_, openRouted := ?_, routed := ?_
      finishing := by simp [Finishing]
      pendingOpen := ?_, pendingDistinct := ?_ }
  · intro tested stream window found booked
    have whole := tracked.account tested stream window found booked
    simpa [heldTerminal, heldUpdate, putRoute, atClearing] using whole
  · intro tested window booked unresolved
    have routeBefore := tracked.openRouted tested window booked unresolved
    -- The removed route led to the finished prompt, so not to this one.
    have different : window.session ≠ session := by
      intro sameSession
      rw [sameSession, route] at routeBefore
      cases routeBefore
      rw [ownBooked] at booked
      cases booked
      exact finished unresolved
    simpa [putRoute, different] using routeBefore
  · intro tested other routeNow
    by_cases same : tested = session
    · subst same
      simp [putRoute] at routeNow
    · have routeBefore : client.routes tested = some other := by
        simpa [putRoute, same] using routeNow
      obtain ⟨window, booked, sameSession, unresolved | busy⟩ :=
        tracked.routed tested other routeBefore
      · exact ⟨window, booked, sameSession, .inl unresolved⟩
      · rcases busy with ⟨item, atResolved⟩ | otherClearing
        · rw [atClearing] at atResolved
          cases atResolved
        · rw [atClearing] at otherClearing
          cases otherClearing
          exact absurd rfl same
  · intro tested content other waiting
    exact tracked.pendingOpen tested content other
      (by simpa [pending, putRoute, atClearing] using waiting)
  · simpa [pending, putRoute, atClearing] using tracked.pendingDistinct

/-- While no prompt of the session is finishing, its route leads only to an
open window of the session. -/
theorem open_of_route
    (tracked : Tracked client book)
    {session : SessionId} {sink : PromptId} {window : Window}
    (notBusy : ¬ client.Finishing session sink)
    (booked : book sink = some window)
    (route : client.routes session = some sink) :
    window.session = session ∧ window.resolution = none := by
  obtain ⟨other, otherBooked, otherSession, unresolved | busy⟩ :=
    tracked.routed session sink route
  · rw [booked] at otherBooked
    cases otherBooked
    exact ⟨otherSession, unresolved⟩
  · exact absurd busy notBusy

theorem notified
    (tracked : Tracked client book)
    {session : SessionId} {update : SessionUpdate}
    (settled : Undisturbed client (.notify session update))
    {target : AcpClient}
    (taken : client.notified session update = some target) :
    Tracked target (observe client (.notify session update) book) := by
  obtain ⟨_, idle, rfl⟩ := notified_some taken
  have notBusy : ∀ sink, ¬ client.Finishing session sink := by
    intro sink busy
    obtain ⟨content, atAwait⟩ :=
      settled sink (tracked.finishing session sink busy).1
    rcases busy with ⟨item, atResolved⟩ | atClearing
    · rw [atAwait] at atResolved
      cases atResolved
    · rw [atAwait] at atClearing
      cases atClearing
  have arrivedWindow :
      ∀ {sink window}, observe client (.notify session update) book sink =
          some window →
        ∃ before, book sink = some before ∧
          window = before.arrive client session update sink := by
    intro sink window booked
    obtain ⟨before, bookedBefore, rfl⟩ := Option.map_eq_some_iff.mp booked
    exact ⟨before, bookedBefore, rfl⟩
  have rebooked :
      ∀ {sink before}, book sink = some before →
        observe client (.notify session update) book sink =
          some (before.arrive client session update sink) := by
    intro sink before booked
    simp [observe, booked]
  refine
    { alive := tracked.alive
      sentFirst := tracked.sentFirst
      known := ?_, account := ?_, openRouted := ?_, routed := ?_
      finishing := ?_, pendingOpen := ?_
      pendingDistinct := tracked.pendingDistinct
      heldOpen := ?_, resolvedReturned := ?_
      notFailed := tracked.notFailed }
  · intro sink
    simpa [observe] using tracked.known sink
  · intro sink stream window found booked
    obtain ⟨before, bookedBefore, rfl⟩ := arrivedWindow booked
    obtain ⟨sameSession, whole⟩ :=
      tracked.account sink stream before found bookedBefore
    refine ⟨by rw [Window.arrive_session]; exact sameSession, ?_⟩
    have soFar :
        stream.items ++ client.heldTerminal sink = before.expected := by
      simpa [heldUpdate, idle] using whole
    by_cases reached : before.session = session ∧ before.resolution = none
    · -- An open window of the session: its prompt holds the route.
      have route : client.routes session = some sink := by
        rw [← reached.1]
        exact tracked.openRouted sink before bookedBefore reached.2
      have noTerminal :=
        tracked.heldTerminal_of_open bookedBefore reached.2
      have noTerminalAfter :
          heldTerminal { client with
            callback :=
              (client.routes session).map fun sink => (sink, update) }
            sink = [] :=
        noTerminal
      obtain ⟨content, atAwait⟩ := settled sink route
      have wasSent : sink ∈ client.sentPrompts :=
        List.mem_filterMap.mpr ⟨_, tracked.sentFirst _ atAwait, rfl⟩
      rw [noTerminal, List.append_nil] at soFar
      rw [noTerminalAfter]
      simp [heldUpdate, route, Window.arrive, wasSent, reached,
        Window.expected, soFar]
    · -- No open window: then the route does not lead here.
      have unrouted : client.routes session ≠ some sink := by
        intro route
        exact reached (tracked.open_of_route (notBusy sink) bookedBefore route)
      have noUpdate :
          heldUpdate { client with
            callback :=
              (client.routes session).map fun sink => (sink, update) }
            sink = [] :=
        heldUpdate_unrouted unrouted
      have unchanged :
          before.arrive client session update sink = before := by
        simp [Window.arrive, reached]
      rw [noUpdate, unchanged]
      exact soFar
  · intro sink window booked unresolved
    obtain ⟨before, bookedBefore, rfl⟩ := arrivedWindow booked
    rw [Window.arrive_resolution] at unresolved
    rw [Window.arrive_session]
    exact tracked.openRouted sink before bookedBefore unresolved
  · intro tested sink route
    obtain ⟨before, booked, sameSession, rest⟩ :=
      tracked.routed tested sink route
    refine ⟨_, rebooked booked, ?_, ?_⟩
    · rw [Window.arrive_session]
      exact sameSession
    · rw [Window.arrive_resolution]
      exact rest
  · intro tested sink busy
    obtain ⟨route, before, booked, finished⟩ :=
      tracked.finishing tested sink busy
    refine ⟨route, _, rebooked booked, ?_⟩
    rw [Window.arrive_resolution]
    exact finished
  · intro tested content sink waiting
    obtain ⟨before, stream, booked, found, sameSession, unresolved, returned⟩ :=
      tracked.pendingOpen tested content sink waiting
    refine ⟨_, stream, rebooked booked, found, ?_, ?_, returned⟩
    · rw [Window.arrive_session]
      exact sameSession
    · rw [Window.arrive_resolution]
      exact unresolved
  · intro sink held sends
    obtain ⟨routedSink, route, samePair⟩ := Option.map_eq_some_iff.mp sends
    cases samePair
    obtain ⟨before, booked, _, unresolved | busy⟩ :=
      tracked.routed session sink route
    · refine ⟨_, rebooked booked, ?_⟩
      rw [Window.arrive_resolution]
      exact unresolved
    · exact absurd busy (notBusy sink)
  · intro sink stream window found booked finished
    obtain ⟨before, bookedBefore, rfl⟩ := arrivedWindow booked
    rw [Window.arrive_resolution] at finished
    exact tracked.resolvedReturned sink stream before found bookedBefore finished

theorem deliver
    (tracked : Tracked client book) {target : AcpClient}
    (taken : client.deliver = some target) :
    Tracked target book := by
  obtain ⟨sink, update, held, rfl⟩ := deliver_some taken
  obtain ⟨own, ownBooked, ownOpen⟩ := tracked.heldOpen sink update held
  have pendingSame :
      pending { client.send sink (.ok (.update update)) with
        callback := none } = client.pending := by
    simp [pending]
  refine
    { alive := by simpa using tracked.alive
      sentFirst := by simpa using tracked.sentFirst
      known := ?_, account := ?_
      openRouted := by simpa using tracked.openRouted
      routed := by simpa [Finishing] using tracked.routed
      finishing := by simpa [Finishing] using tracked.finishing
      pendingOpen := ?_
      pendingDistinct := by rw [pendingSame]; exact tracked.pendingDistinct
      heldOpen := by simp
      resolvedReturned := ?_, notFailed := ?_ }
  · intro tested
    exact (send_none_iff client sink tested _).trans (tracked.known tested)
  · intro tested stream window found booked
    simp only [send_streams] at found
    by_cases same : tested = sink
    · subst same
      rw [if_pos rfl, Option.map_eq_some_iff] at found
      rcases found with ⟨before, foundBefore, rfl⟩
      obtain ⟨sameSession, whole⟩ :=
        tracked.account tested before window foundBefore booked
      refine ⟨sameSession, ?_⟩
      simpa [heldUpdate, held, heldTerminal] using whole
    · rw [if_neg same] at found
      have whole := tracked.account tested stream window found booked
      simpa [heldUpdate, held, heldTerminal, Ne.symm same] using whole
  · intro session content other waiting
    rw [pendingSame] at waiting
    obtain ⟨window, stream, booked, found, sameSession, unresolved, returned⟩ :=
      tracked.pendingOpen session content other waiting
    by_cases same : other = sink
    · subst same
      exact ⟨window,
        { stream with items := stream.items ++ [.ok (.update update)] },
        booked, by simp [send_streams, found], sameSession, unresolved,
        returned⟩
    · exact ⟨window, stream, booked, by
        simpa [send_streams, same] using found,
        sameSession, unresolved, returned⟩
  · intro tested stream window found booked finished
    obtain ⟨before, foundBefore, sameStatus⟩ := status_of_send found
    rw [← sameStatus]
    exact tracked.resolvedReturned tested before window foundBefore booked
      finished
  · intro tested stream found
    obtain ⟨before, foundBefore, sameStatus⟩ := status_of_send found
    rw [← sameStatus]
    exact tracked.notFailed tested before foundBefore

theorem take
    (tracked : Tracked client book)
    {sink : PromptId} {target : AcpClient}
    (taken : client.take sink = some target) :
    Tracked target book := by
  obtain ⟨stream, found, returned, _, rfl⟩ := take_some taken
  refine
    { tracked with
      known := tracked.known_of_found found _
      account := fun _ _ _ =>
        tracked.account_of_same_items
          { stream with taken := stream.taken + 1 } found rfl rfl
      pendingOpen := ?_, resolvedReturned := ?_, notFailed := ?_ }
  · intro session content other waiting
    obtain ⟨window, now, booked, foundNow, sameSession, unresolved, status⟩ :=
      tracked.pendingOpen session content other waiting
    by_cases same : other = sink
    · subst same
      exact ⟨window, { stream with taken := stream.taken + 1 }, booked,
        by simp, sameSession, unresolved, returned⟩
    · exact ⟨window, now, booked, by
        simpa [putStream, same] using foundNow,
        sameSession, unresolved, status⟩
  · intro tested now window foundNow booked finished
    rcases putStream_cases foundNow with ⟨rfl, rfl⟩ | foundBefore
    · exact returned
    · exact tracked.resolvedReturned tested now window foundBefore booked
        finished
  · intro tested now foundNow
    rcases putStream_cases foundNow with ⟨rfl, rfl⟩ | foundBefore
    · simp [returned]
    · exact tracked.notFailed tested now foundBefore

/-- One undisturbed step of the client and its book. -/
theorem step
    {action : Action} {target : AcpClient × Book}
    (tracked : Tracked client book)
    (permitted : undisturbed (client, book) action)
    (taken : observedStep action (client, book) = some target) :
    Tracked target.1 target.2 := by
  rcases permitted with ⟨⟨running, inTurn⟩, settled⟩
  obtain ⟨next, moved, rfl⟩ := Option.map_eq_some_iff.mp taken
  cases action with
  | registerRoute sink session content =>
      exact tracked.registerRoute inTurn settled moved
  | sendPrompt sink => exact tracked.sendPrompt moved
  | submit command => exact tracked.submit moved
  | receive => exact tracked.receive moved
  | answer answer => exact tracked.answered moved
  | sendTerminal => exact tracked.sendTerminal moved
  | clearRoute => exact tracked.clearRoute moved
  | notify session update => exact tracked.notified settled moved
  | deliver => exact tracked.deliver moved
  | take sink => exact tracked.take moved
  | stop => exact absurd rfl running

theorem contract (tracked : Tracked client book) :
    StreamContract (client, book) := by
  intro sink stream found
  cases booked : book sink with
  | none =>
      rw [(tracked.known sink).mpr booked] at found
      cases found
  | some window =>
      obtain ⟨sameSession, whole⟩ :=
        tracked.account sink stream window found booked
      refine ⟨window, booked, sameSession, ?_, ?_⟩
      · rw [List.append_assoc]
        exact whole
      · rw [← whole]
        exact (List.take_prefix _ _).trans (List.prefix_append _ _)

end Tracked

open Machine

/-- While updates arrive only for prompts that the agent is at work on, and no
prompt takes a route that is about to be removed, all streams keep the
contract. -/
theorem undisturbed_streams_keep_contract
    {trace : List Action} {state : AcpClient × Book}
    (run : Run observedStep undisturbed unobserved trace state) :
    StreamContract state := by
  have tracked : Tracked state.1 state.2 :=
    run.invariant (fun reached => Tracked reached.1 reached.2)
      tracked_spawned fun _ _ _ before permitted taken =>
        before.step permitted taken
  exact tracked.contract

/-- A turn in which one update arrives. -/
theorem turn_keeps_contract :
    ∃ trace state,
      exec observedStep trace unobserved = some state ∧
        (∃ stream, state.1.streams 0 = some stream ∧
          stream.yielded =
            [.ok (.update .other), .ok (.terminal .endTurn)]) ∧
          StreamContract state := by
  have first :
      Run observedStep undisturbed unobserved
        ([] ++ [.registerRoute 0 "s" []]) _ :=
    .snoc .start
      ⟨⟨by simp, by simp [Disciplined, unobserved, spawned]⟩,
        by simp [Undisturbed, unobserved, spawned]⟩
      rfl
  have sent :=
    first.append
      (run_of_exec_of_always
        (by simp [undisturbed, disciplined, Disciplined, Undisturbed] :
          ∀ action, action ∈ [.sendPrompt 0, .receive] →
            ∀ reached, undisturbed reached action)
        rfl)
  have arrived :
      Run observedStep undisturbed unobserved
        (_ ++ [.notify "s" .other]) _ :=
    sent.snoc
      ⟨⟨by simp, by simp [Disciplined]⟩, by
        intro sink route
        have isPrompt : some 0 = some sink := route
        cases isPrompt
        exact ⟨[], rfl⟩⟩
      rfl
  have whole :=
    arrived.append
      (run_of_exec_of_always
        (by simp [undisturbed, disciplined, Disciplined, Undisturbed] :
          ∀ action, action ∈
            [.deliver, .answer (.stopped .endTurn), .sendTerminal,
              .clearRoute, .take 0, .take 0] →
            ∀ reached, undisturbed reached action)
        rfl)
  exact ⟨_, _, whole.exec_eq, ⟨_, rfl, by decide⟩,
    undisturbed_streams_keep_contract whole⟩

section Sessions

variable {target : AcpClient} {sink : PromptId}

theorem session_of_send
    {channel : PromptId} {item : StreamItem}
    (sent : target.streams = (client.send channel item).streams) :
    (target.streams sink).map PromptStream.session =
      (client.streams sink).map PromptStream.session := by
  rw [sent, send_streams]
  split
  · rename_i same
    subst same
    rw [Option.map_map]
    rfl
  · rfl

theorem session_of_putStream
    {changed : PromptId} {before stream : PromptStream}
    (found : client.streams changed = some before)
    (put : target.streams = (client.putStream changed stream).streams)
    (sameSession : stream.session = before.session) :
    (target.streams sink).map PromptStream.session =
      (client.streams sink).map PromptStream.session := by
  rw [put]
  by_cases same : sink = changed
  · subst same
    rw [putStream_self, found, Option.map_some, Option.map_some, sameSession]
  · rw [putStream_other same]

/-- A stream keeps its session; only `session_prompt_blocks` makes one. -/
theorem session_of_step
    {action : Action} (taken : step action client = some target)
    (unregistered : ∀ session content,
      action ≠ .registerRoute sink session content) :
    (target.streams sink).map PromptStream.session =
      (client.streams sink).map PromptStream.session := by
  cases action with
  | registerRoute started session content =>
      obtain ⟨_, rfl⟩ := registerRoute_some taken
      have other : sink ≠ started := by
        intro same
        subst same
        exact unregistered session content rfl
      exact congrArg _ (putStream_other other)
  | sendPrompt called =>
      obtain ⟨stream, found, _, ⟨_, rfl⟩ | ⟨_, rfl⟩⟩ := sendPrompt_some taken
      · exact session_of_putStream found rfl rfl
      · exact session_of_putStream found rfl rfl
  | submit command =>
      obtain ⟨_, ⟨_, rfl⟩ | ⟨_, rfl⟩⟩ := submit_some taken
      · rfl
      · rfl
  | receive =>
      obtain ⟨_, _, _, _, ⟨_, _, _, rfl⟩ | ⟨_, rfl⟩⟩ := receive_some taken
      · rfl
      · rfl
  | answer answer =>
      obtain ⟨_, _, _, _, ⟨_, _, _, _, rfl⟩ | ⟨_, _, rfl⟩⟩ :=
        answered_some taken
      · rfl
      · rfl
  | sendTerminal =>
      obtain ⟨_, _, _, _, rfl⟩ := sendTerminal_some taken
      exact session_of_send rfl
  | clearRoute =>
      obtain ⟨_, _, _, rfl⟩ := clearRoute_some taken
      rfl
  | notify session update =>
      obtain ⟨_, _, rfl⟩ := notified_some taken
      rfl
  | deliver =>
      obtain ⟨_, _, _, rfl⟩ := deliver_some taken
      exact session_of_send rfl
  | take taker =>
      obtain ⟨stream, found, _, _, rfl⟩ := take_some taken
      exact session_of_putStream found rfl rfl
  | stop =>
      obtain ⟨_, rfl⟩ := stop_some taken
      rfl

end Sessions

/-- A channel exists only once a call has made it. -/
theorem unknown_until_registered
    {sink : PromptId} {trace : List Action} {state : AcpClient × Book}
    {ok : AcpClient × Book → Action → Prop}
    (run : Run observedStep ok unobserved trace state)
    (absent : ∀ session content, .registerRoute sink session content ∉ trace) :
    state.1.streams sink = none := by
  induction run with
  | start => rfl
  | @snoc trace source target action _ _ taken inductionHypothesis =>
      have before : source.1.streams sink = none :=
        inductionHypothesis fun session content member =>
          absent session content (List.mem_append_left _ member)
      obtain ⟨next, moved, rfl⟩ := Option.map_eq_some_iff.mp taken
      have otherAction :
          ∀ session content, action ≠ .registerRoute sink session content := by
        intro session content isSame
        subst isSame
        exact absent session content (by simp)
      have kept := session_of_step moved otherAction
      rw [before, Option.map_none] at kept
      exact Option.map_eq_none_iff.mp kept

/-- A new prompt may be registered between the terminal item of the previous
one and the removal of its route.  The removal then takes the new route, and
the updates that arrive for the new prompt are dropped. -/
theorem streams_can_break_contract :
    ¬ ∀ trace state,
        Run observedStep disciplined unobserved trace state →
          StreamContract state := by
  intro claimed
  have first :
      Run observedStep disciplined unobserved
        ([] ++ [.registerRoute 0 "s" []]) _ :=
    .snoc .start ⟨by simp, by simp [Disciplined, unobserved, spawned]⟩ rfl
  have firstTurn :=
    first.append
      (run_of_exec_of_always
        (by simp [disciplined, Disciplined] : ∀ action, action ∈
            [.sendPrompt 0, .receive, .answer (.stopped .endTurn),
              .sendTerminal, .take 0] →
            ∀ reached, disciplined reached action)
        rfl)
  have inTurn :
      ∀ reached, Run observedStep disciplined unobserved
          ([] ++ [.registerRoute 0 "s" []] ++
            [.sendPrompt 0, .receive, .answer (.stopped .endTurn),
              .sendTerminal, .take 0]) reached →
        (∃ stream, reached.1.streams 0 = some stream ∧
          .ok (.terminal .endTurn) ∈ stream.yielded) →
        disciplined reached (.registerRoute 1 "s" []) := by
    intro reached run ended
    rcases ended with ⟨zeroth, foundZeroth, ended⟩
    refine ⟨by simp, ?_⟩
    intro earlier stream found _
    by_cases same : earlier = 0
    · subst same
      rw [foundZeroth] at found
      cases found
      exact .inr ⟨_, ended, rfl⟩
    · rw [unknown_until_registered run (by simp [same])] at found
      cases found
  have second :=
    firstTurn.snoc (inTurn _ firstTurn ⟨_, rfl, by decide⟩) rfl
  have secondTurn :=
    second.append
      (run_of_exec_of_always
        (by simp [disciplined, Disciplined] : ∀ action, action ∈
            [.clearRoute, .sendPrompt 1, .receive, .notify "s" .other] →
            ∀ reached, disciplined reached action)
        rfl)
  obtain ⟨window, booked, _, whole, _⟩ := claimed _ _ secondTurn 1 _ rfl
  cases booked
  revert whole
  decide

end AcpClient

end A2AShim
