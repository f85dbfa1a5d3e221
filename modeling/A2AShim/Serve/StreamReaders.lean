import A2AShim.Serve.ServerSteps

/-!
# What the reader of a stream has got

Items are added at the end of a stream only, and only by somebody who holds a
sender of it.  So what a reader has taken stays as it is, and a stream that is
at its end stays there.
-/

namespace A2AShim

namespace AcpClient

/-- The stream of a prompt, and a reader that has not run ahead of it. -/
structure Reads (client : AcpClient) (sink : PromptId)
    (stream : PromptStream) : Prop where
  found : client.streams sink = some stream
  within : stream.taken ≤ stream.items.length

/-- The reader of `sink` notices nothing of what others do. -/
def Continues (sink : PromptId) (client target : AcpClient) : Prop :=
  ∀ stream, client.Reads sink stream →
    ∃ later, target.Reads sink later ∧ later.yielded = stream.yielded ∧
      (client.AtEnd sink → target.AtEnd sink)

variable {client target : AcpClient} {sink : PromptId}
variable {stream : PromptStream} {action : Action}

theorem continues_refl (sink : PromptId) (client : AcpClient) :
    Continues sink client client :=
  fun stream reads => ⟨stream, reads, rfl, fun atEnd => atEnd⟩

/-! ## Senders -/

/-- A sender in the target was one before, or is at a part of the client that
has changed. -/
theorem HasSender.before
    (held : target.HasSender sink)
    (routes : target.routes = client.routes ∨
      ∀ session, target.routes session = some sink → client.HasSender sink)
    (queue : target.queue = client.queue ∨
      ∀ command, command ∈ target.queue → command.sink? = some sink →
        client.HasSender sink)
    (driver : target.driver = client.driver ∨
      (target.driver.sink? = some sink → client.HasSender sink))
    (callback : target.callback = client.callback ∨
      ∀ update, target.callback = some (sink, update) →
        client.HasSender sink)
    (streams : target.streams sink = client.streams sink ∨
      ∀ now, target.streams sink = some now → now.status = .registered →
        client.HasSender sink) :
    client.HasSender sink := by
  cases held with
  | routed session route =>
      rcases routes with same | changed
      · exact .routed session (same ▸ route)
      · exact changed session route
  | queued command waiting carries =>
      rcases queue with same | changed
      · exact .queued command (same ▸ waiting) carries
      · exact changed command waiting carries
  | driving holds =>
      rcases driver with same | changed
      · exact .driving (same ▸ holds)
      · exact changed holds
  | delivering update pair =>
      rcases callback with same | changed
      · exact .delivering update (same ▸ pair)
      · exact changed update pair
  | calling now found inCall =>
      rcases streams with same | changed
      · exact .calling now (same ▸ found) inCall
      · exact changed now found inCall

/-- A route that was there before the last change of the table. -/
theorem hasSender_of_putRoute
    {session changed : SessionId} {entry : Option PromptId}
    (route : (client.putRoute changed entry).routes session = some sink)
    (notEntered : entry ≠ some sink) :
    client.HasSender sink := by
  by_cases same : session = changed
  · subst same
    simp only [putRoute, Function.update_self] at route
    exact absurd route notEntered
  · simp only [putRoute, ne_eq, same, not_false_eq_true,
      Function.update_of_ne] at route
    exact .routed session route

theorem calling_of_send
    {channel : PromptId} {item : StreamItem} {now : PromptStream}
    (found : (client.send channel item).streams sink = some now)
    (inCall : now.status = .registered) :
    client.HasSender sink := by
  rw [send_streams] at found
  split at found
  · rename_i same
    subst same
    obtain ⟨before, foundBefore, rfl⟩ := Option.map_eq_some_iff.mp found
    exact .calling before foundBefore inCall
  · exact .calling now found inCall

/-- The call that registered a stream holds a sender of it until it ends. -/
theorem calling_of_putStream
    {other : PromptId} {prompt put now : PromptStream}
    (inCall : client.streams other = some prompt)
    (registered : prompt.status = .registered)
    (found : (client.putStream other put).streams sink = some now)
    (stillInCall : now.status = .registered) :
    client.HasSender sink := by
  by_cases same : sink = other
  · subst same
    exact .calling prompt inCall registered
  · exact .calling now ((putStream_other same).symm.trans found) stillInCall

/-! Nobody gets a sender of a channel that has none left. -/

theorem registerRoute_hasSender
    {other : PromptId} {session : SessionId} {content : List ContentBlock}
    (taken : client.registerRoute other session content = some target)
    (known : client.streams sink = some stream)
    (held : target.HasSender sink) :
    client.HasSender sink := by
  obtain ⟨unknown, rfl⟩ := registerRoute_some taken
  have different : sink ≠ other := by
    intro same
    subst same
    rw [unknown] at known
    cases known
  refine held.before (.inr ?_) (.inl rfl) (.inl rfl) (.inl rfl)
    (.inl (putStream_other different))
  intro at' route
  refine hasSender_of_putRoute route ?_
  intro same
  exact different (Option.some.inj same).symm

theorem sendPrompt_hasSender
    {other : PromptId} (taken : client.sendPrompt other = some target)
    (held : target.HasSender sink) :
    client.HasSender sink := by
  obtain ⟨prompt, found, inCall, ⟨_, rfl⟩ | ⟨_, rfl⟩⟩ := sendPrompt_some taken
  · -- The call fails, and takes its route back.
    refine held.before (.inr ?_) (.inl rfl) (.inl rfl) (.inl rfl) (.inr ?_)
    · intro session route
      exact hasSender_of_putRoute route nofun
    · intro now foundNow stillInCall
      exact calling_of_putStream found inCall foundNow stillInCall
  · refine held.before (.inl rfl) (.inr ?_) (.inl rfl) (.inl rfl) (.inr ?_)
    · intro command waiting carries
      rcases List.mem_append.mp waiting with earlier | last
      · exact .queued command earlier carries
      · rw [List.mem_singleton.mp last] at carries
        cases carries
        exact .calling prompt found inCall
    · intro now foundNow stillInCall
      exact calling_of_putStream found inCall foundNow stillInCall

theorem submit_hasSender
    {command : Command} (taken : client.submit command = some target)
    (held : target.HasSender sink) :
    client.HasSender sink := by
  obtain ⟨noPrompt, ⟨_, rfl⟩ | ⟨_, rfl⟩⟩ := submit_some taken
  · exact held
  · refine held.before (.inl rfl) (.inr ?_) (.inl rfl) (.inl rfl) (.inl rfl)
    intro other waiting carries
    rcases List.mem_append.mp waiting with earlier | last
    · exact .queued other earlier carries
    · rw [List.mem_singleton.mp last, sink?_of_not_prompt noPrompt] at carries
      cases carries

theorem receive_hasSender
    (taken : client.receive = some target) (held : target.HasSender sink) :
    client.HasSender sink := by
  obtain ⟨command, rest, _, queued, received⟩ := receive_some taken
  have later : ∀ other, other ∈ rest → other.sink? = some sink →
      client.HasSender sink := by
    intro other waiting carries
    refine .queued other ?_ carries
    rw [queued]
    exact List.mem_cons_of_mem command waiting
  rcases received with ⟨_, _, _, rfl⟩ | ⟨_, rfl⟩
  · exact held.before (.inl rfl) (.inr later) (.inl rfl) (.inl rfl) (.inl rfl)
  · refine held.before (.inl rfl) (.inr later) (.inr ?_) (.inl rfl) (.inl rfl)
    intro holds
    refine .queued command ?_ holds
    rw [queued]
    exact List.mem_cons_self

theorem answered_hasSender
    {answer : Answer} (taken : client.answered answer = some target)
    (held : target.HasSender sink) :
    client.HasSender sink := by
  obtain ⟨_, command, atAwait, _,
    ⟨session, content, prompt, isPrompt, rfl⟩ | ⟨_, respond, rfl⟩⟩ :=
      answered_some taken
  · refine held.before (.inl rfl) (.inl rfl) (.inr ?_) (.inl rfl) (.inl rfl)
    intro holds
    apply HasSender.driving
    rw [atAwait, isPrompt]
    exact holds
  · refine held.before (.inl rfl) (.inl rfl) (.inr ?_) (.inl rfl) (.inl rfl)
    intro holds
    cases holds

theorem sendTerminal_hasSender
    (taken : client.sendTerminal = some target)
    (held : target.HasSender sink) :
    client.HasSender sink := by
  obtain ⟨session, prompt, item, atResolved, rfl⟩ := sendTerminal_some taken
  refine held.before (.inl (send_routes _ _ _)) (.inl (send_queue _ _ _))
    (.inr ?_) (.inl (send_callback _ _ _)) (.inr ?_)
  · intro holds
    apply HasSender.driving
    rw [atResolved]
    exact holds
  · intro now found inCall
    exact calling_of_send found inCall

theorem clearRoute_hasSender
    (taken : client.clearRoute = some target)
    (held : target.HasSender sink) :
    client.HasSender sink := by
  obtain ⟨session, prompt, _, rfl⟩ := clearRoute_some taken
  refine held.before (.inr ?_) (.inl rfl) (.inr ?_) (.inl rfl) (.inl rfl)
  · intro other route
    exact hasSender_of_putRoute route nofun
  · intro holds
    cases holds

theorem notified_hasSender
    {session : SessionId} {update : SessionUpdate}
    (taken : client.notified session update = some target)
    (held : target.HasSender sink) :
    client.HasSender sink := by
  obtain ⟨_, _, rfl⟩ := notified_some taken
  refine held.before (.inl rfl) (.inl rfl) (.inl rfl) (.inr ?_) (.inl rfl)
  intro notified pair
  obtain ⟨routed, route, same⟩ := Option.map_eq_some_iff.mp pair
  cases same
  exact .routed session route

theorem deliver_hasSender
    (taken : client.deliver = some target) (held : target.HasSender sink) :
    client.HasSender sink := by
  obtain ⟨prompt, update, _, rfl⟩ := deliver_some taken
  refine held.before (.inl (send_routes _ _ _)) (.inl (send_queue _ _ _))
    (.inl (send_driver _ _ _)) (.inr ?_) (.inr ?_)
  · intro notified pair
    cases pair
  · intro now found inCall
    exact calling_of_send found inCall

theorem take_hasSender
    {other : PromptId} (taken : client.take other = some target)
    (held : target.HasSender sink) :
    client.HasSender sink := by
  obtain ⟨prompt, found, returned, _, rfl⟩ := take_some taken
  refine held.before (.inl rfl) (.inl rfl) (.inl rfl) (.inl rfl) (.inr ?_)
  intro now foundNow inCall
  by_cases same : sink = other
  · subst same
    rw [putStream_self] at foundNow
    cases foundNow
    rw [returned] at inCall
    cases inCall
  · exact .calling now ((putStream_other same).symm.trans foundNow) inCall

theorem stop_hasSender
    (taken : client.stop = some target) (held : target.HasSender sink) :
    client.HasSender sink := by
  obtain ⟨_, rfl⟩ := stop_some taken
  refine held.before (.inl rfl) (.inr ?_) (.inr ?_) (.inr ?_) (.inl rfl)
  · intro command waiting
    cases waiting
  · intro holds
    cases holds
  · intro update pair
    cases pair

theorem step_hasSender
    (known : client.streams sink = some stream)
    (taken : step action client = some target)
    (held : target.HasSender sink) :
    client.HasSender sink := by
  cases action with
  | registerRoute => exact registerRoute_hasSender taken known held
  | sendPrompt => exact sendPrompt_hasSender taken held
  | submit => exact submit_hasSender taken held
  | receive => exact receive_hasSender taken held
  | answer => exact answered_hasSender taken held
  | sendTerminal => exact sendTerminal_hasSender taken held
  | clearRoute => exact clearRoute_hasSender taken held
  | notify => exact notified_hasSender taken held
  | deliver => exact deliver_hasSender taken held
  | take => exact take_hasSender taken held
  | stop => exact stop_hasSender taken held

/-! ## Items -/

/-- Items are only added, by the holders of senders. -/
theorem step_items
    (known : client.streams sink = some stream)
    (taken : step action client = some target)
    (notTaken : action ≠ .take sink) :
    ∃ later more,
      target.streams sink = some later ∧ later.taken = stream.taken ∧
        later.items = stream.items ++ more ∧
          (more = [] ∨ client.HasSender sink) := by
  have unchanged : target.streams sink = client.streams sink →
      ∃ later more,
        target.streams sink = some later ∧ later.taken = stream.taken ∧
          later.items = stream.items ++ more ∧
            (more = [] ∨ client.HasSender sink) := by
    intro same
    exact ⟨stream, [], same.trans known, rfl, by simp, .inl rfl⟩
  have sent : ∀ channel item,
      target.streams = (client.send channel item).streams →
        client.HasSender channel →
          ∃ later more,
            target.streams sink = some later ∧ later.taken = stream.taken ∧
              later.items = stream.items ++ more ∧
                (more = [] ∨ client.HasSender sink) := by
    intro channel item isSent holder
    by_cases same : sink = channel
    · subst same
      refine ⟨{ stream with items := stream.items ++ [item] }, [item], ?_, rfl,
        rfl, .inr holder⟩
      rw [isSent, send_streams, if_pos rfl, known]
      rfl
    · apply unchanged
      rw [isSent, send_streams, if_neg same]
  cases action with
  | registerRoute other session content =>
      obtain ⟨unknown, rfl⟩ := registerRoute_some taken
      have different : sink ≠ other := by
        intro same
        subst same
        rw [unknown] at known
        cases known
      exact unchanged (putStream_other different)
  | sendPrompt other =>
      obtain ⟨prompt, found, _, ⟨_, rfl⟩ | ⟨_, rfl⟩⟩ := sendPrompt_some taken
      · by_cases same : sink = other
        · subst same
          rw [known] at found
          cases found
          exact ⟨_, [], putStream_self _ _ _, rfl, by simp, .inl rfl⟩
        · exact unchanged (putStream_other same)
      · by_cases same : sink = other
        · subst same
          rw [known] at found
          cases found
          exact ⟨_, [], putStream_self _ _ _, rfl, by simp, .inl rfl⟩
        · exact unchanged (putStream_other same)
  | submit command =>
      obtain ⟨_, ⟨_, rfl⟩ | ⟨_, rfl⟩⟩ := submit_some taken
      · exact unchanged rfl
      · exact unchanged rfl
  | receive =>
      obtain ⟨_, _, _, _, ⟨_, _, _, rfl⟩ | ⟨_, rfl⟩⟩ := receive_some taken
      · exact unchanged rfl
      · exact unchanged rfl
  | answer answer =>
      obtain ⟨_, _, _, _, ⟨_, _, _, _, rfl⟩ | ⟨_, _, rfl⟩⟩ :=
        answered_some taken
      · exact unchanged rfl
      · exact unchanged rfl
  | sendTerminal =>
      obtain ⟨session, prompt, item, atResolved, rfl⟩ := sendTerminal_some taken
      exact sent prompt item rfl (.driving (by rw [atResolved]; rfl))
  | clearRoute =>
      obtain ⟨_, _, _, rfl⟩ := clearRoute_some taken
      exact unchanged rfl
  | notify session update =>
      obtain ⟨_, _, rfl⟩ := notified_some taken
      exact unchanged rfl
  | deliver =>
      obtain ⟨prompt, update, held, rfl⟩ := deliver_some taken
      exact sent prompt _ rfl (.delivering update held)
  | take other =>
      obtain ⟨prompt, found, _, _, rfl⟩ := take_some taken
      have different : sink ≠ other := by
        intro same
        subst same
        exact notTaken rfl
      exact unchanged (putStream_other different)
  | stop =>
      obtain ⟨_, rfl⟩ := stop_some taken
      exact unchanged rfl

/-- Whatever others do, a reader keeps what it has, and its end. -/
theorem step_continues
    (agree : client.PromptsAgree)
    (taken : step action client = some target)
    (notTaken : action ≠ .take sink) :
    Continues sink client target := by
  intro stream reads
  obtain ⟨later, more, found, sameTaken, items, byHolder⟩ :=
    step_items reads.found taken notTaken
  have within := reads.within
  refine ⟨later, ⟨found, ?_⟩, ?_, ?_⟩
  · rw [sameTaken, items, List.length_append]
    omega
  · unfold PromptStream.yielded
    rw [sameTaken, items, List.take_append_of_le_length within]
  · intro atEnd
    obtain ⟨⟨before, foundBefore, allTaken⟩, closed⟩ := atEnd
    rw [reads.found] at foundBefore
    cases foundBefore
    have unheld : ¬ client.HasSender sink := by
      rw [← agree.isOpen_iff, closed]
      exact Bool.false_ne_true
    have noMore : more = [] := byHolder.resolve_right unheld
    refine ⟨⟨later, found, ?_⟩, ?_⟩
    · rw [items, noMore, List.append_nil, sameTaken]
      exact allTaken
    · have stillUnheld : ¬ target.HasSender sink := fun held =>
        unheld (step_hasSender reads.found taken held)
      rw [← (agree.step taken).isOpen_iff] at stillUnheld
      simpa using stillUnheld

/-- A new stream has nothing to read yet. -/
theorem reads_of_registered
    {session : SessionId} {content : List ContentBlock}
    (taken : client.registerRoute sink session content = some target) :
    ∃ stream, target.Reads sink stream ∧ stream.yielded = [] := by
  obtain ⟨_, rfl⟩ := registerRoute_some taken
  exact ⟨_, ⟨putStream_self _ _ _, Nat.le_refl 0⟩, rfl⟩

/-- The reader takes the next item. -/
theorem reads_of_take
    (reads : client.Reads sink stream)
    {item : StreamItem} (next : stream.items[stream.taken]? = some item)
    (taken : client.take sink = some target) :
    ∃ later, target.Reads sink later ∧
      later.yielded = stream.yielded ++ [item] := by
  obtain ⟨before, found, _, unread, rfl⟩ := take_some taken
  rw [reads.found] at found
  cases found
  refine ⟨_, ⟨putStream_self _ _ _, unread⟩, ?_⟩
  unfold PromptStream.yielded
  simp only [List.take_add_one, next, Option.toList_some]

/-- A reader with an item to read is not at the end. -/
theorem Reads.not_atEnd
    (reads : client.Reads sink stream)
    {item : StreamItem} (next : stream.items[stream.taken]? = some item) :
    ¬ client.AtEnd sink := by
  intro atEnd
  obtain ⟨⟨other, found, allTaken⟩, _⟩ := atEnd
  rw [reads.found] at found
  cases found
  rw [List.getElem?_eq_none_iff.mpr allTaken] at next
  cases next

/-- What the reader gets, or that there is nothing more to get. -/
theorem reads_of_pollNext
    (reads : client.Reads sink stream) {item : Option StreamItem}
    (polled : client.pollNext sink = some (item, target)) :
    (∃ got later, item = some got ∧ target.Reads sink later ∧
        later.yielded = stream.yielded ++ [got] ∧ ¬ client.AtEnd sink) ∨
      (item = none ∧ target = client ∧ client.AtEnd sink) := by
  rcases pollNext_some polled with
    ⟨other, got, found, next, isSome, isTaken⟩ | ⟨atEnd, isEnd⟩
  · rw [reads.found] at found
    cases found
    obtain ⟨later, readsLater, yielded⟩ := reads_of_take reads next isTaken
    exact .inl ⟨got, later, isSome, readsLater, yielded,
      reads.not_atEnd next⟩
  · cases isEnd
    exact .inr ⟨rfl, rfl, atEnd⟩

end AcpClient

end A2AShim
