import A2AShim.Serve.BridgeOutcome
import A2AShim.Serve.MapSteps
import A2AShim.Serve.StreamReaders
import A2AShim.Serve.TaskOwners

/-!
# The Task a `SendMessage` returns

A bridge call accounts for the items it has polled: the artifact holds the
parts of the chunks among them, and the status it comes to is the one the
table has for the item that ends them.  A handler that returns a Task returns
this account of its own stream, whatever other requests do meanwhile.
-/

namespace A2AShim

namespace Bridge

variable {json : SerdeJson}

/-! ## The table, item by item -/

theorem turnEnd_append (first second : List StreamItem) :
    turnEnd (first ++ second) = (turnEnd first).or (turnEnd second) := by
  unfold turnEnd
  exact List.find?_append

theorem turnItems_append_of_open
    {first : List StreamItem} (isOpen : turnEnd first = none)
    (second : List StreamItem) :
    turnItems (first ++ second) = first ++ turnItems second := by
  have goesOn : ∀ item, item ∈ first → (!endsStream item) = true := by
    intro item member
    simpa using List.find?_eq_none.mp isOpen item member
  unfold turnItems
  exact List.takeWhile_append_of_pos goesOn

theorem turnParts_append_of_open
    {first : List StreamItem} (isOpen : turnEnd first = none)
    (second : List StreamItem) :
    turnParts json (first ++ second) =
      turnParts json first ++ turnParts json second := by
  have allCount : turnItems first = first := by
    simpa [turnItems] using turnItems_append_of_open isOpen []
  unfold turnParts
  rw [turnItems_append_of_open isOpen, allCount, List.flatMap_append]

/-- Nothing after the end of the turn counts. -/
theorem turnParts_append_of_ended
    {first : List StreamItem} (ended : (turnEnd first).isSome = true)
    (second : List StreamItem) :
    turnParts json (first ++ second) = turnParts json first := by
  induction first with
  | nil => cases ended
  | cons item rest inductionHypothesis =>
      by_cases ends : endsStream item = true
      · simp [turnParts, turnItems, ends]
      · have laterEnd : (turnEnd rest).isSome = true := by
          simpa [turnEnd, ends] using ended
        have sameRest := inductionHypothesis laterEnd
        simp only [turnParts, turnItems] at sameRest
        simp [turnParts, turnItems, ends, sameRest]

/-! ## What a call has made of its items -/

/-- The outcome of a turn whose reader has got `polled`, and which is over. -/
structure Outcome (json : SerdeJson) (polled : List StreamItem)
    (atEnd : Prop) (state : TaskState) (artifacts : List Artifact) :
    Prop where
  ended : (turnEnd polled).isSome = true ∨ atEnd
  prescribed : state = turnState (turnEnd polled)
  answer : artifacts = answerSoFar (turnParts json polled)

/-- What the binding of a Task holds of the items its call has polled. -/
def Call.Account (json : SerdeJson) (call : Call) (polled : List StreamItem)
    (atEnd : Prop) (binding : TaskBinding) : Prop :=
  match call.pc with
  | .start =>
      call.firstSeen = false ∧ polled = [] ∧ binding.artifacts = []
  | .next =>
      turnEnd polled = none ∧ (call.firstSeen = false → polled = []) ∧
        binding.artifacts = answerSoFar (turnParts json polled)
  | .markWorking item | .recordWorking item | .publishWorking item =>
      call.firstSeen = true ∧ polled = [item] ∧ binding.artifacts = []
  | .answer rest | .publishArtifact _ _ rest =>
      call.firstSeen = true ∧ turnEnd polled = none ∧
        ∃ done, turnParts json polled = done ++ rest ∧
          binding.artifacts = answerSoFar done
  | .finish status =>
      Outcome json polled atEnd status.state binding.artifacts
  | .recordFinal status | .publishFinal status =>
      Outcome json polled atEnd status.state binding.artifacts ∧
        binding.state = status.state
  | .returned (.ok ()) =>
      Outcome json polled atEnd binding.state binding.artifacts
  | .returned (.error _) => True

variable {call next : Call} {registry updated : TaskRegistry}
variable {binding after : TaskBinding} {polled : List StreamItem}
variable {atEnd stillAtEnd : Prop}

theorem Outcome.of_end
    {state : TaskState} {artifacts : List Artifact}
    (outcome : Outcome json polled atEnd state artifacts)
    (stays : atEnd → stillAtEnd) :
    Outcome json polled stillAtEnd state artifacts :=
  ⟨outcome.ended.imp_right stays, outcome.prescribed, outcome.answer⟩

/-- An account is good for every binding with the same artifacts, unless a
terminal state has changed. -/
theorem Call.Account.of_similar
    (account : call.Account json polled atEnd binding)
    (stays : atEnd → stillAtEnd)
    (artifacts : after.artifacts = binding.artifacts)
    (frozen : binding.state.isTerminal = true → after.state = binding.state) :
    call.Account json polled stillAtEnd after := by
  have closing : ∀ {status : TaskStatus},
      Outcome json polled atEnd status.state binding.artifacts →
        binding.state = status.state → after.state = status.state := by
    intro status outcome stored
    have terminal : binding.state.isTerminal = true := by
      rw [stored, outcome.prescribed]
      exact turnState_isTerminal _
    exact (frozen terminal).trans stored
  rcases call with ⟨taskId, firstSeen, artifactSeen, pc⟩
  simp only [Call.Account] at account ⊢
  rw [artifacts]
  cases pc with
  | finish status => exact account.of_end stays
  | recordFinal status =>
      exact ⟨account.1.of_end stays, closing account.1 account.2⟩
  | publishFinal status =>
      exact ⟨account.1.of_end stays, closing account.1 account.2⟩
  | returned result =>
      cases result with
      | error error => trivial
      | ok done =>
          have terminal : binding.state.isTerminal = true := by
            rw [account.prescribed]
            exact turnState_isTerminal _
          simp only [frozen terminal]
          exact account.of_end stays
  | _ => exact account

/-- A begun call has polled nothing. -/
theorem begin_account
    {taskId : TaskId} (unanswered : binding.artifacts = []) :
    (Call.begin taskId).Account json [] atEnd binding :=
  ⟨rfl, rfl, unanswered⟩

/-- The `match` on an item. -/
theorem onItem_account
    (item : StreamItem) (seen : call.firstSeen = true)
    (isOpen : turnEnd polled = none)
    (answer : binding.artifacts = answerSoFar (turnParts json polled)) :
    Call.Account json { call with pc := onItem json item } (polled ++ [item])
      atEnd binding := by
  have parts := @turnParts_append_of_open json _ isOpen [item]
  have ending : turnEnd (polled ++ [item]) = turnEnd [item] := by
    rw [turnEnd_append, isOpen, Option.none_or]
  rcases item with error | ((content | _) | reason)
  · refine ⟨.inl ?_, ?_, ?_⟩
    · rw [ending]
      rfl
    · rw [ending]
      rfl
    · rw [parts, answer]
      simp [turnParts, turnItems, endsStream]
  · refine ⟨seen, ending.trans rfl, turnParts json polled, ?_, answer⟩
    rw [parts]
    simp [turnParts, turnItems, endsStream, itemParts]
  · refine ⟨ending.trans rfl, ?_, ?_⟩
    · intro unseen
      rw [seen] at unseen
      cases unseen
    · rw [parts, answer]
      simp [turnParts, turnItems, endsStream, itemParts]
  · refine ⟨.inl ?_, ?_, ?_⟩
    · rw [ending]
      rfl
    · rw [ending]
      cases reason <;> rfl
    · rw [parts, answer]
      simp [turnParts, turnItems, endsStream]

theorem polled_account
    (item : StreamItem) (atNext : call.pc = .next)
    (account : call.Account json polled atEnd binding) :
    (call.polled json (some item)).Account json (polled ++ [item]) atEnd
      binding := by
  unfold Call.Account at account
  rw [atNext] at account
  obtain ⟨isOpen, unseenYet, answer⟩ := account
  simp only [Call.polled]
  by_cases seen : call.firstSeen = true
  · rw [if_pos seen]
    exact onItem_account item seen isOpen answer
  · rw [if_neg seen]
    have nothing := unseenYet (by simpa using seen)
    subst nothing
    exact ⟨rfl, rfl, answer⟩

theorem ended_account
    (atNext : call.pc = .next) (isOver : atEnd)
    (account : call.Account json polled atEnd binding) :
    (call.polled json none).Account json polled atEnd binding := by
  unfold Call.Account at account
  rw [atNext] at account
  obtain ⟨isOpen, _, answer⟩ := account
  refine ⟨.inr isOver, ?_, answer⟩
  rw [isOpen]
  rfl

/-- A step between two polls keeps the account. -/
theorem work_account
    (account : call.Account json polled atEnd binding)
    (found : registry.bindings call.taskId = some binding)
    (taken : call.work json registry = some (next, updated)) :
    ∃ after, updated.bindings next.taskId = some after ∧
      next.Account json polled atEnd after := by
  have isOwn : ∀ {other : TaskBinding},
      registry.bindings call.taskId = some other → other = binding := by
    intro other foundOther
    rw [found] at foundOther
    exact (Option.some.inj foundOther).symm
  unfold Call.Account at account
  cases work_works taken with
  | lost atPc absent =>
      rw [found] at absent
      cases absent
  | starts other atPc =>
      rw [atPc] at account
      obtain ⟨unseen, nothing, answer⟩ := account
      subst nothing
      exact ⟨binding, found, rfl, fun _ => rfl, answer⟩
  | unmarked item error atPc => exact ⟨binding, found, trivial⟩
  | marks item other atPc foundOther =>
      cases isOwn foundOther
      rw [atPc] at account
      exact ⟨_, TaskRegistry.put_self _ _ _, account⟩
  | recordsWorking item atPc =>
      rw [atPc] at account
      exact ⟨binding, found, account⟩
  | publishesWorking item atPc =>
      rw [atPc] at account
      obtain ⟨seen, only, answer⟩ := account
      subst only
      have begun :=
        @onItem_account json call binding [] atEnd item seen rfl answer
      exact ⟨_, TaskRegistry.onSink_self found _,
        begun.of_similar (fun isOver => isOver) rfl fun _ => rfl⟩
  | answered atPc =>
      rw [atPc] at account
      obtain ⟨seen, isOpen, done, parts, answer⟩ := account
      rw [List.append_nil] at parts
      refine ⟨binding, found, isOpen, ?_, ?_⟩
      · intro unseen
        have contradiction := seen.symm.trans unseen
        cases contradiction
      · rw [parts]
        exact answer
  | unanswered part rest error atPc => exact ⟨binding, found, trivial⟩
  | upserts part rest other artifacts atPc foundOther =>
      rw [atPc] at account
      obtain ⟨seen, isOpen, done, parts, answer⟩ := account
      have stored :
          registry.upsertArtifact call.taskId (answerArtifact part) =
            .ok (_, _) :=
        TaskRegistry.upsertArtifact_ok_iff.mpr ⟨binding, found, rfl⟩
      simp only [Call.work, atPc, stored, Option.some.injEq,
        Prod.mk.injEq] at taken
      have isUpdated := taken.2
      rw [← isUpdated]
      refine ⟨_, TaskRegistry.put_self _ _ _, seen, isOpen, done ++ [part],
        ?_, ?_⟩
      · simpa using parts
      · rw [answer]
        exact upsertInto_answerSoFar done part
  | publishesArtifact part append rest atPc =>
      rw [atPc] at account
      exact ⟨_, TaskRegistry.onSink_self found _, account⟩
  | undecided status error atPc => exact ⟨binding, found, trivial⟩
  | decides status other atPc foundOther =>
      cases isOwn foundOther
      rw [atPc] at account
      exact ⟨_, TaskRegistry.put_self _ _ _, account, rfl⟩
  | recordsFinal status atPc =>
      rw [atPc] at account
      exact ⟨binding, found, account⟩
  | publishesFinal status atPc =>
      rw [atPc] at account
      refine ⟨_, TaskRegistry.onSink_self found _, ?_⟩
      have outcome : Outcome json polled atEnd binding.state
          binding.artifacts := by
        rw [account.2]
        exact account.1
      exact outcome

end Bridge

open Bridge

/-! ## The handler of a call -/

/-- What a prompt handler and its Task have of the handler's stream. -/
def HandlerPc.Turn (json : SerdeJson) (name : Nat) (shared : Shared) :
    HandlerPc → Prop
  | .record _ _ taskId | .dispatch _ _ taskId =>
      ∃ binding, shared.tasks.bindings taskId = some binding ∧
        binding.artifacts = []
  | .sendPrompt _ taskId | .fetchSink _ taskId =>
      ∃ binding stream, shared.tasks.bindings taskId = some binding ∧
        shared.acp.Reads name stream ∧ stream.yielded = [] ∧
          binding.artifacts = []
  | .bridging _ call =>
      ∃ binding stream, shared.tasks.bindings call.taskId = some binding ∧
        shared.acp.Reads name stream ∧
          call.Account json stream.yielded (shared.acp.AtEnd name) binding
  | .snapshot _ taskId =>
      ∃ binding stream, shared.tasks.bindings taskId = some binding ∧
        shared.acp.Reads name stream ∧
          Outcome json stream.yielded (shared.acp.AtEnd name) binding.state
            binding.artifacts
  | .push _ snap | .returned (.ok (some snap)) =>
      ∃ binding stream, shared.tasks.bindings snap.id = some binding ∧
        shared.acp.Reads name stream ∧
          Outcome json stream.yielded (shared.acp.AtEnd name)
              snap.status.state snap.artifacts ∧
            binding.state = snap.status.state
  | _ => True

section

variable {json : SerdeJson} {cfg : ServeConfig} {name : Nat} {env : Env}
variable {handler : Handler} {shared after : Shared} {pc next : HandlerPc}

/-- Steps of others. -/
theorem HandlerPc.Turn.frame
    (turn : pc.Turn json name shared)
    (reader : AcpClient.Continues name shared.acp after.acp)
    (kept : ∀ id binding, shared.tasks.bindings id = some binding →
      ∃ later, after.tasks.bindings id = some later ∧
        (binding.state.isTerminal = true → later.state = binding.state) ∧
          (pc.task? = some id → later.artifacts = binding.artifacts)) :
    pc.Turn json name after := by
  have announced : ∀ snap : Task,
      (∃ binding stream, shared.tasks.bindings snap.id = some binding ∧
        shared.acp.Reads name stream ∧
          Outcome json stream.yielded (shared.acp.AtEnd name)
              snap.status.state snap.artifacts ∧
            binding.state = snap.status.state) →
      ∃ binding stream, after.tasks.bindings snap.id = some binding ∧
        after.acp.Reads name stream ∧
          Outcome json stream.yielded (after.acp.AtEnd name)
              snap.status.state snap.artifacts ∧
            binding.state = snap.status.state := by
    intro snap turn
    obtain ⟨binding, stream, found, reads, outcome, same⟩ := turn
    obtain ⟨later, foundLater, frozen, _⟩ := kept snap.id binding found
    obtain ⟨now, readsNow, yielded, stays⟩ := reader stream reads
    have terminal : binding.state.isTerminal = true := by
      rw [same, outcome.prescribed]
      exact turnState_isTerminal _
    refine ⟨later, now, foundLater, readsNow, ?_, (frozen terminal).trans same⟩
    rw [yielded]
    exact outcome.of_end stays
  have created : ∀ id, pc.task? = some id →
      (∃ binding, shared.tasks.bindings id = some binding ∧
        binding.artifacts = []) →
      ∃ binding, after.tasks.bindings id = some binding ∧
        binding.artifacts = [] := by
    intro id isOwn turn
    obtain ⟨binding, found, nothing⟩ := turn
    obtain ⟨later, foundLater, _, same⟩ := kept id binding found
    exact ⟨later, foundLater, (same isOwn).trans nothing⟩
  have asked : ∀ id, pc.task? = some id →
      (∃ binding stream, shared.tasks.bindings id = some binding ∧
        shared.acp.Reads name stream ∧ stream.yielded = [] ∧
          binding.artifacts = []) →
      ∃ binding stream, after.tasks.bindings id = some binding ∧
        after.acp.Reads name stream ∧ stream.yielded = [] ∧
          binding.artifacts = [] := by
    intro id isOwn turn
    obtain ⟨binding, stream, found, reads, unread, nothing⟩ := turn
    obtain ⟨later, foundLater, _, same⟩ := kept id binding found
    obtain ⟨now, readsNow, yielded, _⟩ := reader stream reads
    exact ⟨later, now, foundLater, readsNow, yielded.trans unread,
      (same isOwn).trans nothing⟩
  cases pc with
  | record session guarded taskId => exact created taskId rfl turn
  | dispatch session guarded taskId => exact created taskId rfl turn
  | sendPrompt guarded taskId => exact asked taskId rfl turn
  | fetchSink guarded taskId => exact asked taskId rfl turn
  | bridging guarded call =>
      obtain ⟨binding, stream, found, reads, account⟩ := turn
      obtain ⟨later, foundLater, frozen, same⟩ :=
        kept call.taskId binding found
      obtain ⟨now, readsNow, yielded, stays⟩ := reader stream reads
      refine ⟨later, now, foundLater, readsNow, ?_⟩
      rw [yielded]
      exact account.of_similar stays (same rfl) frozen
  | snapshot guarded taskId =>
      obtain ⟨binding, stream, found, reads, outcome⟩ := turn
      obtain ⟨later, foundLater, frozen, same⟩ := kept taskId binding found
      obtain ⟨now, readsNow, yielded, stays⟩ := reader stream reads
      have terminal : binding.state.isTerminal = true := by
        rw [outcome.prescribed]
        exact turnState_isTerminal _
      refine ⟨later, now, foundLater, readsNow, ?_⟩
      rw [yielded, same rfl, frozen terminal]
      exact outcome.of_end stays
  | push guarded snap => exact announced snap turn
  | returned answer =>
      rcases answer with error | (_ | snap)
      · trivial
      · trivial
      · exact announced snap turn
  | _ => trivial

/-- Before the guard there is no Task. -/
theorem opening_turn
    (taken : handler.open_ cfg name env shared = some (next, after)) :
    next.Turn json name after := by
  cases Handler.open_opening taken <;> trivial

/-- From the guard to the bridge. -/
theorem start_turn
    (agree : shared.acp.PromptsAgree)
    (notResumed : ∀ id updated,
      shared.tasks.acceptContinuation id ≠ .ok updated)
    (turn : handler.pc.Turn json name shared)
    (taken : handler.start json cfg name env shared = some (next, after)) :
    next.Turn json name after := by
  unfold Handler.start Handler.finish at taken
  cases atPc : handler.pc with
  | enter session guarded =>
      simp only [atPc] at taken
      split at taken
      · rename_i existing _
        split at taken
        · cases taken
          trivial
        · rename_i tasks accepted
          exact absurd accepted (notResumed existing tasks)
      · split at taken
        · cases taken
        · cases taken
          exact ⟨_, TaskRegistry.create_self _ _ _ _, rfl⟩
  | record session guarded taskId =>
      simp only [atPc] at taken
      cases taken
      rw [atPc] at turn
      exact turn
  | dispatch session guarded taskId =>
      simp only [atPc] at taken
      split at taken
      · cases taken
        trivial
      · obtain ⟨acp, registered, moved⟩ := Option.map_eq_some_iff.mp taken
        cases moved
        rw [atPc] at turn
        obtain ⟨binding, found, nothing⟩ := turn
        obtain ⟨stream, reads, unread⟩ :=
          AcpClient.reads_of_registered registered
        exact ⟨binding, stream, found, reads, unread, nothing⟩
  | sendPrompt guarded taskId =>
      simp only [atPc] at taken
      obtain ⟨acp, called, outcome⟩ := Option.bind_eq_some_iff.mp taken
      rw [atPc] at turn
      obtain ⟨binding, stream, found, reads, unread, nothing⟩ := turn
      have goesOn : AcpClient.Continues name shared.acp acp :=
        AcpClient.step_continues agree
          (show AcpClient.step (.sendPrompt name) shared.acp = some acp from
            called) nofun
      obtain ⟨now, readsNow, yielded, _⟩ := goesOn stream reads
      have unreadNow := yielded.trans unread
      split at outcome
      · cases outcome
        trivial
      · split at outcome
        · cases outcome
          refine ⟨binding, now, found, readsNow, ?_⟩
          rw [unreadNow]
          exact begin_account nothing
        · cases outcome
          exact ⟨binding, now, found, readsNow, unreadNow, nothing⟩
  | fetchSink guarded taskId =>
      simp only [atPc] at taken
      rw [atPc] at turn
      obtain ⟨binding, stream, found, reads, unread, nothing⟩ := turn
      split at taken
      · cases taken
        trivial
      · cases taken
        refine ⟨binding, stream, found, reads, ?_⟩
        rw [unread]
        exact begin_account nothing
  | _ => simp [atPc] at taken

theorem bridge_turn
    {guarded : ConversationRef} {call : Call}
    (atPc : handler.pc = .bridging guarded call)
    (turn : handler.pc.Turn json name shared)
    (taken :
      handler.bridge json name guarded call shared = some (next, after)) :
    next.Turn json name after := by
  rw [atPc] at turn
  obtain ⟨binding, stream, found, reads, account⟩ := turn
  unfold Handler.bridge Handler.finish at taken
  split at taken
  · rename_i atNext
    obtain ⟨⟨item, acp⟩, polled, moved⟩ := Option.map_eq_some_iff.mp taken
    cases moved
    rcases AcpClient.reads_of_pollNext reads polled with
      ⟨got, later, rfl, readsLater, yielded, unfinished⟩ | ⟨rfl, rfl, atEnd⟩
    · refine ⟨binding, later, ?_, readsLater, ?_⟩
      · rw [polled_taskId]
        exact found
      · rw [yielded]
        exact (polled_account got atNext account).of_similar
          (fun atEnd => absurd atEnd unfinished) rfl fun _ => rfl
    · exact ⟨binding, stream, found, reads,
        ended_account atNext atEnd account⟩
  · rename_i result atReturn
    split at taken
    · cases taken
      trivial
    · cases taken
      unfold Call.Account at account
      rw [atReturn] at account
      exact ⟨binding, stream, found, reads, account⟩
    · cases taken
      trivial
  · obtain ⟨⟨worked, tasks⟩, moved, stepped⟩ :=
      Option.map_eq_some_iff.mp taken
    cases stepped
    obtain ⟨later, foundLater, accountLater⟩ :=
      work_account account found moved
    exact ⟨later, stream, foundLater, reads, accountLater⟩

theorem work_turn
    (agree : shared.acp.PromptsAgree)
    (notResumed : ∀ id updated,
      shared.tasks.acceptContinuation id ≠ .ok updated)
    (turn : handler.pc.Turn json name shared)
    (taken : handler.work json cfg name env shared = some (next, after)) :
    next.Turn json name after := by
  unfold Handler.work at taken
  split at taken
  · rename_i guarded call atPc
    exact bridge_turn atPc turn taken
  · rename_i guarded taskId atPc
    rw [atPc] at turn
    obtain ⟨binding, stream, found, reads, outcome⟩ := turn
    have terminal : binding.state.isTerminal = true := by
      rw [outcome.prescribed]
      exact turnState_isTerminal _
    simp only [TaskRegistry.snapshot, found, Option.map_some,
      TaskBinding.snapshot, terminal, if_true] at taken
    cases taken
    exact ⟨binding, stream, found, reads, outcome, rfl⟩
  · rename_i guarded snap atPc
    rw [atPc] at turn
    cases taken
    exact turn
  · exact start_turn agree notResumed turn taken
  · exact start_turn agree notResumed turn taken
  · exact start_turn agree notResumed turn taken
  · exact start_turn agree notResumed turn taken
  · exact start_turn agree notResumed turn taken
  · exact opening_turn taken

end

/-! ## Runs -/

namespace Server

open Machine

variable {json : SerdeJson} {cfg : ServeConfig} {server target : Server}
variable {action : Action}

/-- The agent's side takes one step at most, and only a handler reads from its
own stream. -/
theorem step_acp
    (taken : step json cfg action server = some target) :
    target.shared.acp = server.shared.acp ∨
      ∃ act, AcpClient.step act server.shared.acp = some target.shared.acp ∧
        ∀ sink, act = .take sink → ∃ env, action = .work sink env := by
  cases step_steps taken with
  | prompts name env handler next after found moved =>
      cases moved with
      | asks acp _ _ _ submitted => exact .inr ⟨_, submitted, nofun⟩
      | routes session guarded taskId content acp _ registered =>
          exact .inr ⟨_, registered, nofun⟩
      | unsent guarded taskId error acp _ _ called =>
          exact .inr ⟨_, called, nofun⟩
      | sends _ guarded taskId acp _ _ called => exact .inr ⟨_, called, nofun⟩
      | polls guarded call stream item acp _ _ _ _ isTaken =>
          refine .inr ⟨_, isTaken, ?_⟩
          intro sink same
          cases same
          exact ⟨env, rfl⟩
      | _ => exact .inl rfl
  | works name env thread next after found noHandler affected =>
      cases affected with
      | submits command acp submitted => exact .inr ⟨_, submitted, nofun⟩
      | _ => exact .inl rfl
  | agent act acp outside stepped =>
      refine .inr ⟨act, stepped, ?_⟩
      intro sink same
      subst same
      cases outside
  | _ => exact .inl rfl

/-- A handler has worked, or is as it was, has just come, or is gone. -/
theorem handler_of_step
    {name : Nat} {later : Handler}
    (taken : step json cfg action server = some target)
    (found : target.handlers name = some later) :
    (∃ env handler next, action = .work name env ∧
        server.handlers name = some handler ∧
          handler.work json cfg name env server.shared =
              some (next, target.shared) ∧
            later = { handler with pc := next }) ∨
      ((∀ env, action ≠ .work name env) ∧
        server.handlers name = some later) ∨
        later.pc = .checkMode ∨ later.pc = .dropped := by
  by_cases own : ∃ env, action = .work name env
  · obtain ⟨env, rfl⟩ := own
    obtain ⟨handler, isHandler⟩ := handlers_of_work taken found
    obtain ⟨next, worked, threads⟩ := work_of_step taken isHandler
    have same := (handlers_of_put threads).symm.trans found
    exact .inl ⟨env, handler, next, rfl, isHandler, worked,
      (Option.some.inj same).symm⟩
  · have notOwn : ∀ env, action ≠ .work name env :=
      fun env same => own ⟨env, same⟩
    cases handlerStep_of_step taken found with
    | stays handler unchanged => exact .inr (.inl ⟨notOwn, unchanged⟩)
    | arrives handler _ atCheck => exact .inr (.inr (.inl atCheck))
    | opens env handler next isOwn => exact absurd isOwn (notOwn env)
    | moves env handler next guarded isOwn => exact absurd isOwn (notOwn env)
    | drops handler => exact .inr (.inr (.inr rfl))

/-- Every handler accounts for its stream. -/
structure Turns (json : SerdeJson) (server : Server) : Prop where
  agree : server.shared.acp.PromptsAgree
  turn : ∀ name handler, server.handlers name = some handler →
    handler.pc.Turn json name server.shared

theorem turns_start
    (maxActive idleWindow now : Nat) (loaded : List (String × SessionId)) :
    Turns json (start maxActive idleWindow now loaded) where
  agree := AcpClient.promptsAgree_spawned
  turn := by
    intro name handler found
    rw [handlers_start] at found
    cases found

theorem Turns.step
    (turns : Turns json server) (staged : Staged server)
    (taken : step json cfg action server = some target) :
    Turns json target where
  agree := by
    rcases step_acp taken with same | ⟨act, stepped, _⟩
    · rw [same]
      exact turns.agree
    · exact turns.agree.step stepped
  turn := by
    intro name later found
    rcases handler_of_step taken found with
      ⟨env, handler, next, rfl, isHandler, worked, rfl⟩ |
        ⟨notOwn, unchanged⟩ | isNew | isGone
    · exact work_turn turns.agree (fun id _ => staged.not_resumed id)
        (turns.turn name handler isHandler) worked
    · have reader :
          AcpClient.Continues name server.shared.acp target.shared.acp := by
        rcases step_acp taken with same | ⟨act, stepped, byOwner⟩
        · rw [same]
          exact AcpClient.continues_refl name _
        · apply AcpClient.step_continues turns.agree stepped
          intro isTake
          obtain ⟨env, isOwn⟩ := byOwner name isTake
          exact notOwn env isOwn
      refine (turns.turn name later unchanged).frame reader ?_
      intro id binding known
      obtain ⟨after, foundAfter, kept⟩ := known_kept staged taken known
      refine ⟨after, foundAfter, kept.frozen, ?_⟩
      intro owned
      apply kept.artifacts.resolve_right
      intro bridged
      obtain ⟨other, env, handler, guarded, call, isWork, isOther, bridging,
        onTask⟩ := bridged
      have isOwner : server.Owns other id := by
        refine ⟨handler, isOther, ?_⟩
        rw [bridging]
        exact congrArg some onTask
      have isSame :=
        staged.alone other name id isOwner ⟨later, unchanged, owned⟩
      subst isSame
      exact notOwn env isWork
    · rw [isNew]
      trivial
    · rw [isGone]
      trivial

end Server

/-! ## Where a handler has its Task from -/

/-- The Task a handler works on, or has returned. -/
def HandlerPc.turnTask? : HandlerPc → Option TaskId
  | .returned (.ok (some snap)) => some snap.id
  | pc => pc.task?

namespace Handler

variable {json : SerdeJson} {cfg : ServeConfig} {name : Nat} {env : Env}
variable {handler : Handler} {shared after : Shared} {next : HandlerPc}
variable {id : TaskId}

theorem start_task
    (taken : handler.start json cfg name env shared = some (next, after))
    (owned : next.turnTask? = some id) :
    handler.pc.turnTask? = some id ∨
      ∃ session guarded, handler.pc = .enter session guarded := by
  unfold start finish at taken
  cases atPc : handler.pc with
  | enter session guarded => exact .inr ⟨session, guarded, rfl⟩
  | record session guarded taskId =>
      simp only [atPc] at taken
      cases taken
      exact .inl owned
  | dispatch session guarded taskId =>
      simp only [atPc] at taken
      split at taken
      · cases taken
        cases owned
      · obtain ⟨acp, _, moved⟩ := Option.map_eq_some_iff.mp taken
        cases moved
        exact .inl owned
  | sendPrompt guarded taskId =>
      simp only [atPc] at taken
      obtain ⟨acp, _, outcome⟩ := Option.bind_eq_some_iff.mp taken
      split at outcome
      · cases outcome
        cases owned
      · split at outcome
        · cases outcome
          exact .inl owned
        · cases outcome
          exact .inl owned
  | fetchSink guarded taskId =>
      simp only [atPc] at taken
      split at taken
      · cases taken
        cases owned
      · cases taken
        exact .inl owned
  | _ => simp [atPc] at taken

theorem bridge_task
    {guarded : ConversationRef} {call : Call}
    (taken :
      handler.bridge json name guarded call shared = some (next, after))
    (owned : next.turnTask? = some id) :
    call.taskId = id := by
  unfold bridge finish at taken
  split at taken
  · obtain ⟨polled, _, moved⟩ := Option.map_eq_some_iff.mp taken
    cases moved
    simpa [HandlerPc.turnTask?, HandlerPc.task?] using owned
  · split at taken
    · cases taken
      cases owned
    · cases taken
      exact Option.some.inj owned
    · cases taken
      cases owned
  · obtain ⟨⟨worked, tasks⟩, moved, stepped⟩ :=
      Option.map_eq_some_iff.mp taken
    cases stepped
    have sameTask : worked.taskId = call.taskId := by
      cases work_works moved <;> rfl
    exact sameTask.symm.trans (Option.some.inj owned)

/-- A handler comes to a Task only where it enters one. -/
theorem work_task
    (taken : handler.work json cfg name env shared = some (next, after))
    (owned : next.turnTask? = some id) :
    handler.pc.turnTask? = some id ∨
      ∃ session guarded, handler.pc = .enter session guarded := by
  unfold work finish at taken
  split at taken
  · rename_i guarded call atPc
    rw [atPc]
    exact .inl (congrArg some (bridge_task taken owned))
  · rename_i guarded taskId atPc
    rw [atPc]
    split at taken
    · cases taken
      cases owned
    · rename_i snap found
      obtain ⟨binding, _, rfl⟩ := Option.map_eq_some_iff.mp found
      split at taken
      · cases taken
        exact .inl owned
      · cases taken
        exact .inl owned
  · rename_i guarded snap atPc
    rw [atPc]
    cases taken
    exact .inl owned
  · exact start_task taken owned
  · exact start_task taken owned
  · exact start_task taken owned
  · exact start_task taken owned
  · exact start_task taken owned
  · cases open_opening taken <;> cases owned

end Handler

namespace Server

open Machine

variable {json : SerdeJson} {cfg : ServeConfig} {server target : Server}
variable {action : Action}

/-- The step at which a handler creates or continues a Task, which has
`before` of artifacts until then. -/
def Enters (json : SerdeJson) (cfg : ServeConfig) (name : Nat) (id : TaskId)
    (before : List Artifact) (server : Server) (action : Action) : Prop :=
  ∃ handler session guarded target later,
    server.handlers name = some handler ∧
      handler.pc = .enter session guarded ∧
        step json cfg action server = some target ∧
          target.handlers name = some later ∧ later.pc.task? = some id ∧
            before =
              ((server.shared.tasks.bindings id).map
                TaskBinding.artifacts).getD []

theorem entered_of_step
    {name : Nat} {later : Handler} {id : TaskId} (staged : Staged server)
    (taken : step json cfg action server = some target)
    (found : target.handlers name = some later)
    (owned : later.pc.turnTask? = some id) :
    (∃ handler, server.handlers name = some handler ∧
        handler.pc.turnTask? = some id) ∨
      Enters json cfg name id [] server action := by
  rcases handler_of_step taken found with
    ⟨env, handler, next, rfl, isHandler, worked, rfl⟩ |
      ⟨_, unchanged⟩ | isNew | isGone
  · rcases Handler.work_task worked owned with earlier | isEnter
    · exact .inl ⟨handler, isHandler, earlier⟩
    · obtain ⟨session, guarded, atPc⟩ := isEnter
      right
      have created :
          server.shared.tasks.bindings id = none ∧ next.task? = some id := by
        generalize target.shared = after at worked
        simp only [Handler.work, Handler.start, Handler.finish,
          atPc] at worked
        split at worked
        · rename_i existing _
          split at worked
          · cases worked
            cases owned
          · rename_i tasks accepted
            exact absurd accepted (staged.not_resumed existing)
        · split at worked
          · cases worked
          · rename_i unknown
            cases worked
            cases owned
            exact ⟨unknown, rfl⟩
      refine ⟨handler, session, guarded, target, _, isHandler, atPc, taken,
        found, created.2, ?_⟩
      rw [created.1]
      rfl
  · exact .inl ⟨later, unchanged, owned⟩
  · rw [isNew] at owned
    cases owned
  · rw [isGone] at owned
    cases owned

variable {trace : List Action} {maxActive idleWindow now : Nat}
variable {loaded : List (String × SessionId)}

theorem turns_of_run
    (run : Run (step json cfg) free
      (start maxActive idleWindow now loaded) trace server) :
    Staged server ∧ Turns json server :=
  run.invariant (fun server => Staged server ∧ Turns json server)
    ⟨staged_start maxActive idleWindow now loaded,
      turns_start maxActive idleWindow now loaded⟩
    fun _ _ _ before _ taken =>
      ⟨before.1.step taken, before.2.step before.1 taken⟩

theorem entered_of_run
    (run : Run (step json cfg) free
      (start maxActive idleWindow now loaded) trace server) :
    ∀ name handler id, server.handlers name = some handler →
      handler.pc.turnTask? = some id →
        SomeStep (step json cfg) (Enters json cfg name id [])
          (start maxActive idleWindow now loaded) trace := by
  induction run with
  | start =>
      intro name handler id found
      rw [handlers_start] at found
      cases found
  | snoc before _ taken inductionHypothesis =>
      intro name later id found owned
      rw [before.someStep_snoc]
      rcases entered_of_step (turns_of_run before).1 taken found owned with
        ⟨handler, isHandler, earlier⟩ | entered
      · exact .inl (inductionHypothesis name handler id isHandler earlier)
      · exact .inr entered

/-- A terminal Task keeps its state, whatever comes. -/
theorem terminal_stays
    {id : TaskId} {binding : TaskBinding} {rest : List Action}
    (staged : Staged server)
    (known : server.shared.tasks.bindings id = some binding)
    (terminal : binding.state.isTerminal = true)
    (run : Run (step json cfg) free server rest target) :
    (target.shared.tasks.bindings id).map TaskBinding.state =
      some binding.state := by
  have kept : Staged target ∧
      ∃ later, target.shared.tasks.bindings id = some later ∧
        later.state = binding.state := by
    refine run.invariant
      (fun reached => Staged reached ∧
        ∃ later, reached.shared.tasks.bindings id = some later ∧
          later.state = binding.state)
      ⟨staged, binding, known, rfl⟩ ?_
    intro source action next before _ taken
    obtain ⟨stagedBefore, earlier, knownEarlier, sameState⟩ := before
    obtain ⟨later, knownLater, frozen⟩ :=
      known_stays stagedBefore taken knownEarlier
    refine ⟨stagedBefore.step taken, later, knownLater, ?_⟩
    rw [frozen (by rw [sameState]; exact terminal)]
    exact sameState
  obtain ⟨_, later, knownLater, sameState⟩ := kept
  rw [knownLater, Option.map_some, sameState]

/-- The whole stream of a turn that is over says what the read part says. -/
theorem outcome_of_stream
    {state : TaskState} {artifacts : List Artifact} {sink : PromptId}
    {client : AcpClient} {stream : PromptStream}
    (reads : client.Reads sink stream)
    (outcome : Outcome json stream.yielded (client.AtEnd sink) state
      artifacts) :
    state = turnState (turnEnd stream.items) ∧
      artifacts = answerSoFar (turnParts json stream.items) := by
  have split : stream.items =
      stream.yielded ++ stream.items.drop stream.taken :=
    (List.take_append_drop stream.taken stream.items).symm
  rcases outcome.ended with ended | atEnd
  · obtain ⟨ending, isEnd⟩ := Option.isSome_iff_exists.mp ended
    constructor
    · rw [split, turnEnd_append, isEnd, Option.some_or, ← isEnd]
      exact outcome.prescribed
    · rw [split, turnParts_append_of_ended ended]
      exact outcome.answer
  · obtain ⟨⟨other, found, allTaken⟩, _⟩ := atEnd
    rw [reads.found] at found
    cases found
    have allYielded : stream.yielded = stream.items :=
      List.take_of_length_le allTaken
    rw [← allYielded]
    exact ⟨outcome.prescribed, outcome.answer⟩

/-- The Task a `SendMessage` returns is the one it has created or continued,
with what the prompt's own stream prescribes, and stays as it is. -/
theorem sent_task_is_own_turn
    {name : Nat} {handler : Handler} {task : Task}
    (run : Run (step json cfg) free
      (start maxActive idleWindow now loaded) trace server)
    (found : server.handlers name = some handler)
    (answered : handler.pc = .returned (.ok (some task))) :
    ∃ before stream,
      SomeStep (step json cfg) (Enters json cfg name task.id before)
          (start maxActive idleWindow now loaded) trace ∧
        server.shared.acp.streams name = some stream ∧
        task.status.state.isTerminal = true ∧
        task.status.state = turnState (turnEnd stream.items) ∧
        task.artifacts.flatMap Artifact.parts =
          before.flatMap Artifact.parts ++ turnParts json stream.items ∧
        ∀ rest later, Run (step json cfg) free server rest later →
          (later.shared.tasks.bindings task.id).map TaskBinding.state =
            some task.status.state := by
  obtain ⟨staged, turns⟩ := turns_of_run run
  have turn := turns.turn name handler found
  rw [answered] at turn
  obtain ⟨binding, stream, known, reads, outcome, sameState⟩ := turn
  have entered :=
    entered_of_run run name handler task.id found (by rw [answered]; rfl)
  have terminal : task.status.state.isTerminal = true := by
    rw [outcome.prescribed]
    exact turnState_isTerminal _
  obtain ⟨prescribed, answer⟩ := outcome_of_stream reads outcome
  refine ⟨[], stream, entered, reads.found, terminal, prescribed, ?_, ?_⟩
  · rw [answer, answerSoFar_parts]
    rfl
  · intro rest later after
    rw [← sameState] at terminal ⊢
    exact terminal_stays staged known terminal after

/-- A turn with one chunk. -/
theorem answered_turn_is_returned :
    ∃ json cfg trace server handler task before stream,
      exec (step json cfg) trace (start 10 60 0 []) = some server ∧
        server.handlers 0 = some handler ∧
        handler.pc = .returned (.ok (some task)) ∧
        SomeStep (step json cfg) (Enters json cfg 0 task.id before)
          (start 10 60 0 []) trace ∧
        server.shared.acp.streams 0 = some stream ∧
        task.status.state = turnState (turnEnd stream.items) ∧
        task.artifacts.flatMap Artifact.parts =
          before.flatMap Artifact.parts ++ turnParts json stream.items := by
  let work : Action := .work 0 { now := 0, taskId := ⟨"t"⟩ }
  let trace : List Action :=
    [.request 0 .send plainParams none, work, work, work, .acp .receive,
      .acp (.answer (.session "s")), work, work, work, work, work, work, work,
      work, .acp .receive,
      .acp (.notify "s" (.agentMessageChunk (.text "hi"))), .acp .deliver,
      work, work, work, work, work, work, work, work,
      .acp (.answer (.stopped .endTurn)), .acp .sendTerminal,
      .acp .clearRoute, work, work, work, work, work, work, work]
  obtain ⟨server, executed⟩ : ∃ server,
      exec (step .constant plainConfig) trace (start 10 60 0 []) =
        some server :=
    ⟨_, rfl⟩
  obtain ⟨handler, task, found, answered⟩ : ∃ handler task,
      server.handlers 0 = some handler ∧
        handler.pc = .returned (.ok (some task)) := by
    cases executed
    exact ⟨_, _, rfl, rfl⟩
  obtain ⟨before, stream, entered, reads, _, prescribed, answer, _⟩ :=
    sent_task_is_own_turn (run_of_exec executed) found answered
  exact ⟨.constant, plainConfig, trace, server, handler, task, before, stream,
    executed, found, answered, entered, reads, prescribed, answer⟩

end Server

end A2AShim
