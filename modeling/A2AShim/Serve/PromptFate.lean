import A2AShim.Serve.AcpPrompts

/-!
# What becomes of a prompt

Once it is registered, a prompt waits for the response of the agent, has got
it, or has lost the driver.  Nothing else ends it.
-/

namespace A2AShim

namespace AcpClient

/-- The agent has responded to the prompt. -/
def Answered (client : AcpClient) (sink : PromptId) : Prop :=
  (∃ session item, client.driver = .resolved session sink item) ∨
    ∃ stream item, client.streams sink = some stream ∧
      item ∈ stream.items ∧ endsStream item = true

/-- Every prompt waits for a response, or has one, or the driver is gone. -/
structure Accounted (client : AcpClient) : Prop where
  ending : ∀ session sink item, client.driver = .resolved session sink item →
    endsStream item = true
  fate : ∀ sink stream, client.streams sink = some stream →
    client.Outstanding sink ∨ client.Answered sink ∨ client.driver = .gone

theorem accounted_spawned : Accounted spawned where
  ending := nofun
  fate := nofun

variable {client target : AcpClient} {sink : PromptId}

theorem endsStream_item (answer : Answer) : endsStream answer.item = true := by
  cases answer <;> rfl

/-- A step that leaves the driver and keeps all streams and pending prompts
leaves every prompt its fate. -/
theorem Accounted.of_kept
    (accounted : Accounted client)
    (sameDriver : target.driver = client.driver)
    (streams : ∀ sink stream, target.streams sink = some stream →
      ∃ before, client.streams sink = some before ∧
        before.status = stream.status ∧
          ∀ item, item ∈ before.items → item ∈ stream.items)
    (pending : ∀ sink, sink ∈ client.pendingSinks →
      sink ∈ target.pendingSinks) :
    Accounted target where
  ending := by
    rw [sameDriver]
    exact accounted.ending
  fate := by
    intro sink stream found
    obtain ⟨before, foundBefore, sameStatus, items⟩ := streams sink stream found
    rw [sameDriver]
    rcases accounted.fate sink before foundBefore with
      (⟨other, isOther, inCall⟩ | waiting) | answered | gone
    · rw [foundBefore] at isOther
      cases isOther
      exact .inl (.inl ⟨stream, found, sameStatus.symm.trans inCall⟩)
    · exact .inl (.inr (pending sink waiting))
    · right
      left
      rcases answered with ⟨session, item, atResolved⟩ |
        ⟨other, item, isOther, member, ends⟩
      · exact .inl ⟨session, item, sameDriver.trans atResolved⟩
      · rw [foundBefore] at isOther
        cases isOther
        exact .inr ⟨stream, item, found, items item member, ends⟩
    · exact .inr (.inr gone)

/-- The streams after an item is sent. -/
theorem streams_of_send
    {channel : PromptId} {item : StreamItem} {stream : PromptStream}
    (found : (client.send channel item).streams sink = some stream) :
    ∃ before, client.streams sink = some before ∧
      before.status = stream.status ∧
        (∀ earlier, earlier ∈ before.items → earlier ∈ stream.items) ∧
          (sink = channel → item ∈ stream.items) := by
  rw [send_streams] at found
  split at found
  · rename_i same
    subst same
    obtain ⟨before, foundBefore, rfl⟩ := Option.map_eq_some_iff.mp found
    exact ⟨before, foundBefore, rfl,
      fun earlier member => List.mem_append_left _ member,
      fun _ => List.mem_append_right _ (List.mem_singleton.mpr rfl)⟩
  · rename_i different
    exact ⟨stream, found, rfl, fun _ member => member,
      fun same => absurd same different⟩

/-- A driver that was not at a resolved prompt goes on to one that has the
response, or to none, and leaves the streams and the other prompts alone. -/
theorem Accounted.of_driver
    (accounted : Accounted client)
    (unresolved : ∀ session sink item,
      client.driver ≠ .resolved session sink item)
    (alive : client.driver ≠ .gone)
    (sameStreams : target.streams = client.streams)
    (ending : ∀ session sink item, target.driver = .resolved session sink item →
      endsStream item = true)
    (pending : ∀ sink, sink ∈ client.pendingSinks →
      sink ∈ target.pendingSinks ∨ target.Answered sink) :
    Accounted target where
  ending := ending
  fate := by
    intro sink stream found
    rw [sameStreams] at found
    rcases accounted.fate sink stream found with
      (⟨other, isOther, inCall⟩ | waiting) | answered | gone
    · refine .inl (.inl ⟨other, ?_, inCall⟩)
      rw [sameStreams]
      exact isOther
    · rcases pending sink waiting with still | done
      · exact .inl (.inr still)
      · exact .inr (.inl done)
    · rcases answered with ⟨session, item, atResolved⟩ |
        ⟨other, item, isOther, member, ends⟩
      · exact absurd atResolved (unresolved session sink item)
      · refine .inr (.inl (.inr ⟨other, item, ?_, member, ends⟩))
        rw [sameStreams]
        exact isOther
    · exact absurd gone alive

theorem Accounted.sendTerminal
    (accounted : Accounted client)
    (taken : client.sendTerminal = some target) :
    Accounted target := by
  obtain ⟨session, ended, last, atResolved, rfl⟩ := sendTerminal_some taken
  have ends := accounted.ending session ended last atResolved
  refine ⟨nofun, ?_⟩
  intro sink stream found
  obtain ⟨before, foundBefore, sameStatus, items, own⟩ :=
    streams_of_send found
  rcases accounted.fate sink before foundBefore with
    (⟨other, isOther, inCall⟩ | waiting) | answered | gone
  · rw [foundBefore] at isOther
    cases isOther
    exact .inl (.inl ⟨stream, found, sameStatus.symm.trans inCall⟩)
  · refine .inl (.inr ?_)
    rw [pendingSinks_of_not_awaiting (by simp [atResolved])] at waiting
    rw [pendingSinks_of_not_awaiting (by simp)]
    simpa using waiting
  · refine .inr (.inl (.inr ?_))
    rcases answered with ⟨other, item, isOther⟩ |
      ⟨other, item, isOther, member, endsOther⟩
    · rw [atResolved] at isOther
      cases isOther
      exact ⟨stream, last, found, own rfl, ends⟩
    · rw [foundBefore] at isOther
      cases isOther
      exact ⟨stream, item, found, items item member, endsOther⟩
  · rw [atResolved] at gone
    cases gone

/-- Only the caller's own steps change the status of a stream. -/
theorem Accounted.putStream
    (accounted : Accounted client) {stream : PromptStream}
    (sameDriver : target.driver = client.driver)
    (streams : target.streams = (client.putStream sink stream).streams)
    (pending : ∀ tested, tested ∈ client.pendingSinks →
      tested ∈ target.pendingSinks)
    (fate : target.Outstanding sink ∨ target.Answered sink ∨
      target.driver = .gone) :
    Accounted target where
  ending := by
    rw [sameDriver]
    exact accounted.ending
  fate := by
    intro tested now found
    by_cases same : tested = sink
    · subst same
      exact fate
    · have others : target.streams tested = client.streams tested := by
        rw [streams]
        exact putStream_other same
      rw [others] at found
      rw [sameDriver]
      rcases accounted.fate tested now found with
        (⟨other, isOther, inCall⟩ | waiting) | answered | gone
      · exact .inl (.inl ⟨other, others.trans isOther, inCall⟩)
      · exact .inl (.inr (pending tested waiting))
      · right
        left
        rcases answered with ⟨session, item, atResolved⟩ |
          ⟨other, item, isOther, member, ends⟩
        · exact .inl ⟨session, item, sameDriver.trans atResolved⟩
        · exact .inr ⟨other, item, others.trans isOther, member, ends⟩
      · exact .inr (.inr gone)

theorem Accounted.sendPrompt
    (accounted : Accounted client)
    (taken : client.sendPrompt sink = some target) :
    Accounted target := by
  obtain ⟨stream, found, inCall, ⟨gone, rfl⟩ | ⟨alive, rfl⟩⟩ :=
    sendPrompt_some taken
  · exact accounted.putStream rfl rfl (fun _ waiting => waiting)
      (.inr (.inr gone))
  · have enqueued :=
      pendingSinks_enqueue client
        (client.putStream sink { stream with status := .returned }).streams
        (.prompt stream.session stream.content sink)
    refine accounted.putStream rfl rfl ?_ (.inl (.inr ?_))
    · intro tested waiting
      refine enqueued ▸ ?_
      exact List.mem_append_left _ waiting
    · refine enqueued ▸ ?_
      exact List.mem_append_right _ (List.mem_singleton.mpr rfl)

theorem Accounted.receive
    (accounted : Accounted client)
    (taken : client.receive = some target) :
    Accounted target := by
  obtain ⟨command, rest, atReceive, queued, outcome⟩ := receive_some taken
  have before := pendingSinks_of_receiving atReceive queued
  rcases outcome with ⟨session, respond, rfl, rfl⟩ | ⟨_, rfl⟩
  · refine accounted.of_driver (by simp [atReceive]) (by simp [atReceive]) rfl
      (by simp [atReceive]) ?_
    intro sink waiting
    rw [before] at waiting
    rw [pendingSinks_of_not_awaiting (by simp [atReceive])]
    exact .inl waiting
  · refine accounted.of_driver (by simp [atReceive]) (by simp [atReceive]) rfl
      nofun ?_
    intro sink waiting
    rw [before] at waiting
    rw [pendingSinks_of_awaiting rfl]
    exact .inl waiting

theorem Accounted.answered
    {answer : Answer} (accounted : Accounted client)
    (taken : client.answered answer = some target) :
    Accounted target := by
  obtain ⟨_, command, atAwait, _, outcome⟩ := answered_some taken
  have before := pendingSinks_of_awaiting atAwait
  rcases outcome with ⟨session, content, sink, rfl, rfl⟩ |
    ⟨notPrompt, respond, rfl⟩
  · refine accounted.of_driver (by simp [atAwait]) (by simp [atAwait]) rfl ?_ ?_
    · intro otherSession other item same
      cases same
      exact endsStream_item answer
    · intro tested waiting
      rw [before] at waiting
      rcases List.mem_append.mp waiting with own | queued
      · rw [Option.mem_toList] at own
        cases own
        exact .inr (.inl ⟨session, answer.item, rfl⟩)
      · left
        rw [pendingSinks_of_not_awaiting (by simp)]
        exact queued
  · refine accounted.of_driver (by simp [atAwait]) (by simp [atAwait]) rfl
      nofun ?_
    intro tested waiting
    rw [before, sink?_of_not_prompt notPrompt] at waiting
    left
    rw [pendingSinks_of_not_awaiting (by simp [reply])]
    exact waiting

theorem Accounted.step
    {action : Action} (accounted : Accounted client)
    (taken : step action client = some target) :
    Accounted target := by
  cases action with
  | registerRoute started session content =>
      obtain ⟨unknown, rfl⟩ := registerRoute_some taken
      exact accounted.putStream rfl rfl (fun _ waiting => waiting)
        (.inl (.inl ⟨_, putStream_self _ _ _, rfl⟩))
  | sendPrompt called => exact accounted.sendPrompt taken
  | submit command =>
      obtain ⟨_, ⟨_, rfl⟩ | ⟨_, rfl⟩⟩ := submit_some taken
      · exact accounted
      · refine accounted.of_kept rfl
          (fun _ stream found => ⟨stream, found, rfl, fun _ member => member⟩) ?_
        intro sink waiting
        rw [pendingSinks_enqueue client client.streams command]
        exact List.mem_append_left _ waiting
  | receive => exact accounted.receive taken
  | answer answer => exact accounted.answered taken
  | sendTerminal => exact accounted.sendTerminal taken
  | clearRoute =>
      obtain ⟨session, ended, atClearing, rfl⟩ := clearRoute_some taken
      refine accounted.of_driver (by simp [atClearing]) (by simp [atClearing])
        rfl (by simp) ?_
      intro sink waiting
      rw [pendingSinks_of_not_awaiting (by simp [atClearing])] at waiting
      left
      rw [pendingSinks_of_not_awaiting (by simp)]
      exact waiting
  | notify session update =>
      obtain ⟨_, _, rfl⟩ := notified_some taken
      exact accounted.of_kept rfl
        (fun _ stream found => ⟨stream, found, rfl, fun _ member => member⟩)
        fun _ waiting => waiting
  | deliver =>
      obtain ⟨delivered, update, _, rfl⟩ := deliver_some taken
      refine accounted.of_kept (send_driver _ _ _) ?_ ?_
      · intro sink stream found
        obtain ⟨before, foundBefore, sameStatus, items, _⟩ :=
          streams_of_send found
        exact ⟨before, foundBefore, sameStatus, items⟩
      · intro sink waiting
        simpa [pendingSinks, pending] using waiting
  | take taker =>
      obtain ⟨stream, found, returned, _, rfl⟩ := take_some taken
      refine accounted.of_kept rfl ?_ fun _ waiting => waiting
      intro sink now foundNow
      by_cases same : sink = taker
      · subst same
        rw [putStream_self] at foundNow
        cases foundNow
        exact ⟨stream, found, rfl, fun _ member => member⟩
      · rw [putStream_other same] at foundNow
        exact ⟨now, foundNow, rfl, fun _ member => member⟩
  | stop =>
      obtain ⟨_, rfl⟩ := stop_some taken
      exact ⟨by simp, fun _ _ _ => .inr (.inr rfl)⟩

end AcpClient

end A2AShim
