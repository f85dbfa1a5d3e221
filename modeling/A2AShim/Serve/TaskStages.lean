import A2AShim.Serve.ServerSteps

/-!
# Where a Task stands, and whose it is

For each position of a prompt handler there are only a few states its Task can
be in: what the handler has brought it to, or a terminal state, which a cancel
can bring in at any time.  No step leads to `input-required`, so no Task is
ever continued, and each one belongs to the handler that has created it.
-/

namespace A2AShim

namespace Bridge

/-- The states a Task can be in while a call stands where it does. -/
def Call.Stage (call : Call) (state : TaskState) : Prop :=
  state.isTerminal = true ∨
    match call.pc with
    | .start => call.firstSeen = false ∧ state = .submitted
    | .next | .finish _ =>
        if call.firstSeen then state = .working else state = .submitted
    | .markWorking _ => call.firstSeen = true ∧ state = .submitted
    | .recordWorking _ | .publishWorking _ | .answer _
    | .publishArtifact _ _ _ => call.firstSeen = true ∧ state = .working
    | .recordFinal _ | .publishFinal _ => False
    | .returned result =>
        result ≠ .ok () ∧ call.firstSeen = false ∧ state = .submitted

variable {json : SerdeJson} {call next : Call}
variable {registry updated : TaskRegistry} {binding : TaskBinding}

theorem begin_stage {taskId : TaskId} {state : TaskState}
    (atStart : state = .submitted ∨ state.isTerminal = true) :
    (Call.begin taskId).Stage state := by
  rcases atStart with submitted | terminal
  · exact .inr ⟨rfl, submitted⟩
  · exact .inl terminal

theorem onItem_stage
    {state : TaskState} (item : StreamItem) (seen : call.firstSeen = true)
    (working : state = .working ∨ state.isTerminal = true) :
    Call.Stage { call with pc := onItem json item } state := by
  rcases working with isWorking | terminal
  · right
    rcases item with error | (⟨_ | _⟩ | _)
    · simpa [onItem, seen] using isWorking
    · exact ⟨seen, isWorking⟩
    · simpa [onItem, seen] using isWorking
    · simpa [onItem, seen] using isWorking
  · exact .inl terminal

theorem polled_stage
    {state : TaskState} (item : Option StreamItem)
    (atNext : call.pc = .next) (stage : call.Stage state) :
    (call.polled json item).Stage state := by
  rcases stage with terminal | stage
  · exact .inl terminal
  · rw [atNext] at stage
    unfold Call.polled
    split
    · exact .inr stage
    · split
      · rename_i seen
        rw [if_pos seen] at stage
        exact onItem_stage _ seen (.inl stage)
      · rename_i unseen
        rw [if_neg unseen] at stage
        exact .inr ⟨rfl, stage⟩

@[simp]
theorem polled_taskId (call : Call) (item : Option StreamItem) :
    (call.polled json item).taskId = call.taskId := by
  unfold Call.polled
  split
  · rfl
  · split <;> rfl

/-- A terminal state stays. -/
theorem work_terminal
    (sound : call.Sound)
    (found : registry.bindings call.taskId = some binding)
    (taken : call.work json registry = some (next, updated))
    (foundAfter : updated.bindings call.taskId = some after)
    (terminal : binding.state.isTerminal = true) :
    after.state = binding.state := by
  obtain ⟨other, foundOther, effect⟩ :=
    (work_stepped sound taken).known binding found
  rw [foundAfter] at foundOther
  cases foundOther
  exact (effect.ended terminal).1

/-- A step of a call takes its Task along. -/
theorem work_stage
    (sound : call.Sound)
    (found : registry.bindings call.taskId = some binding)
    (stage : call.Stage binding.state)
    (taken : call.work json registry = some (next, updated)) :
    ∃ after, updated.bindings call.taskId = some after ∧
      next.Stage after.state := by
  rcases stage with terminal | stage
  · obtain ⟨after, foundAfter, effect⟩ :=
      (work_stepped sound taken).known binding found
    refine ⟨after, foundAfter, .inl ?_⟩
    rw [(effect.ended terminal).1]
    exact terminal
  · have isOwn : ∀ {other : TaskBinding},
        registry.bindings call.taskId = some other → other = binding := by
      intro other foundOther
      rw [found] at foundOther
      exact (Option.some.inj foundOther).symm
    cases work_works taken with
    | lost atPc absent =>
        rw [found] at absent
        cases absent
    | starts other atPc =>
        rw [atPc] at stage
        have stays : call.firstSeen = false ∧ binding.state = .submitted :=
          stage
        refine ⟨binding, found, .inr ?_⟩
        simpa [stays.1] using stays.2
    | unmarked item error atPc illegal =>
        rw [atPc] at stage
        have refused := illegal binding found
        rw [stage.2] at refused
        cases refused
    | marks item other atPc foundOther =>
        rw [atPc] at stage
        exact ⟨_, TaskRegistry.put_self _ _ _, .inr ⟨stage.1, rfl⟩⟩
    | recordsWorking item atPc =>
        rw [atPc] at stage
        exact ⟨binding, found, .inr stage⟩
    | publishesWorking item atPc =>
        rw [atPc] at stage
        exact ⟨_, TaskRegistry.onSink_self found _,
          onItem_stage item stage.1 (.inl stage.2)⟩
    | answered atPc =>
        rw [atPc] at stage
        have working : call.firstSeen = true ∧ binding.state = .working :=
          stage
        refine ⟨binding, found, .inr ?_⟩
        simpa [working.1] using working.2
    | unanswered part rest error atPc absent =>
        rw [found] at absent
        cases absent
    | upserts part rest other artifacts atPc foundOther =>
        cases isOwn foundOther
        rw [atPc] at stage
        exact ⟨_, TaskRegistry.put_self _ _ _, .inr stage⟩
    | publishesArtifact part append rest atPc =>
        rw [atPc] at stage
        exact ⟨_, TaskRegistry.onSink_self found _, .inr stage⟩
    | undecided status error atPc illegal =>
        rw [atPc] at stage
        refine ⟨binding, found, .inr ?_⟩
        by_cases seen : call.firstSeen = true
        · rw [if_pos seen] at stage
          have terminal : status.state.isTerminal = true :=
            sound status (by rw [atPc]; rfl)
          have refused := illegal binding found
          rw [stage] at refused
          cases named : status.state <;>
            simp_all [TaskState.isTerminal, TaskRegistry.isLegal]
        · rw [if_neg seen] at stage
          exact ⟨by simp, by simpa using seen, stage⟩
    | decides status other atPc foundOther =>
        have terminal : status.state.isTerminal = true :=
          sound status (by rw [atPc]; rfl)
        exact ⟨_, TaskRegistry.put_self _ _ _, .inl terminal⟩
    | recordsFinal status atPc =>
        rw [atPc] at stage
        exact stage.elim
    | publishesFinal status atPc =>
        rw [atPc] at stage
        exact stage.elim

end Bridge

/-- The states the Task of a handler can be in. -/
def HandlerPc.Stage (binding : TaskBinding) : HandlerPc → Prop
  | .record _ _ _ | .dispatch _ _ _ | .sendPrompt _ _ | .fetchSink _ _ =>
      binding.state = .submitted ∨ binding.state.isTerminal = true
  | .bridging _ call => call.Stage binding.state
  | .snapshot _ _ => binding.state.isTerminal = true
  | .push _ snap =>
      binding.state.isTerminal = true ∧ snap.status.state = binding.state
  | _ => True

/-- A cancel moves the Task on, wherever its handler stands. -/
theorem HandlerPc.Stage.canceled
    {pc : HandlerPc} {binding : TaskBinding} (stage : pc.Stage binding)
    (active : binding.state.isTerminal = false) :
    pc.Stage { binding with state := .canceled } := by
  cases pc with
  | record session guarded taskId => exact .inr rfl
  | dispatch session guarded taskId => exact .inr rfl
  | sendPrompt guarded taskId => exact .inr rfl
  | fetchSink guarded taskId => exact .inr rfl
  | bridging guarded call => exact .inl rfl
  | snapshot guarded taskId => rfl
  | push guarded snap =>
      have terminal := stage.1
      rw [active] at terminal
      cases terminal
  | _ => trivial

/-- What a step of a handler does to the Tasks. -/
inductive Handler.TaskMove (json : SerdeJson) (env : Env) (handler : Handler)
    (tasks : TaskRegistry) (next : HandlerPc) : TaskRegistry → Prop
  | keeps
      (owned : ∀ id, next.task? = some id → handler.pc.task? = some id)
      (stage : ∀ id binding, next.task? = some id →
        tasks.bindings id = some binding → handler.pc.Stage binding →
          next.Stage binding)
      (sound : ∀ guarded call, next = .bridging guarded call →
        (∀ held before, handler.pc = .bridging held before →
          before.Sound) → call.Sound) :
      TaskMove json env handler tasks next tasks
  | creates (session : SessionId) (guarded : ConversationRef)
      (before : handler.pc = .enter session guarded)
      (unknown : tasks.bindings env.taskId = none)
      (after : next = .record session guarded env.taskId) :
      TaskMove json env handler tasks next
        (tasks.create env.taskId handler.request.key session)
  | resumes (existing : TaskId) (updated : TaskRegistry)
      (accepted : tasks.acceptContinuation existing = .ok updated) :
      TaskMove json env handler tasks next updated
  | bridges (guarded : ConversationRef) (call moved : Bridge.Call)
      (updated : TaskRegistry)
      (before : handler.pc = .bridging guarded call)
      (worked : call.work json tasks = some (moved, updated))
      (after : next = .bridging guarded moved) :
      TaskMove json env handler tasks next updated

namespace Handler

variable {json : SerdeJson} {cfg : ServeConfig} {name : Nat} {env : Env}
variable {handler : Handler} {shared after : Shared} {next : HandlerPc}

/-- Steps to a position that has no Task. -/
theorem TaskMove.of_none
    (unowned : next.task? = none) :
    TaskMove json env handler shared.tasks next shared.tasks := by
  refine .keeps ?_ ?_ ?_
  · intro id owned
    rw [unowned] at owned
    cases owned
  · intro id binding owned
    rw [unowned] at owned
    cases owned
  · intro guarded call bridging
    rw [bridging] at unowned
    cases unowned

/-- The handler goes on with its Task, and not to a bridge call. -/
theorem TaskMove.of_carried
    (owned : handler.pc.task? = next.task?)
    (stage : ∀ binding, handler.pc.Stage binding → next.Stage binding)
    (noCall : ∀ guarded call, next ≠ .bridging guarded call) :
    TaskMove json env handler shared.tasks next shared.tasks := by
  refine .keeps ?_ (fun _ binding _ _ before => stage binding before) ?_
  · intro id isOwn
    rw [owned]
    exact isOwn
  · intro guarded call isBridging _
    exact absurd isBridging (noCall guarded call)

/-- A bridge call is begun. -/
theorem TaskMove.of_begin
    {guarded : ConversationRef} {taskId : TaskId}
    (owned : handler.pc.task? = some taskId)
    (stage : ∀ binding, handler.pc.Stage binding →
      binding.state = .submitted ∨ binding.state.isTerminal = true) :
    TaskMove json env handler shared.tasks
      (.bridging guarded (.begin taskId)) shared.tasks := by
  refine .keeps ?_ ?_ ?_
  · intro id isOwn
    cases isOwn
    exact owned
  · intro id binding _ _ before
    have begun : (Bridge.Call.begin taskId).Stage binding.state :=
      Bridge.begin_stage (stage binding before)
    exact begun
  · intro held call isBridging _
    cases isBridging
    exact nofun

/-- A bridge call has polled its stream. -/
theorem TaskMove.of_polled
    {guarded : ConversationRef} {call : Bridge.Call}
    (before : handler.pc = .bridging guarded call) (atNext : call.pc = .next)
    (item : Option StreamItem) :
    TaskMove json env handler shared.tasks
      (.bridging guarded (call.polled json item)) shared.tasks := by
  refine .keeps ?_ ?_ ?_
  · rw [before]
    intro id owned
    simpa [HandlerPc.task?] using owned
  · rw [before]
    intro _ binding _ _ stage
    have polled : (call.polled json item).Stage binding.state :=
      Bridge.polled_stage item atNext stage
    exact polled
  · intro held other isBridging _
    cases isBridging
    exact Bridge.polled_sound item

theorem isIdle_task?
    {pc : HandlerPc} (idle : pc.isIdle = true) :
    pc.task? = none := by
  cases pc <;> first | rfl | cases idle

theorem moves_tasks
    (moved : Moves json cfg name env handler shared next after) :
    TaskMove json env handler shared.tasks next after.tasks := by
  cases moved with
  | idles _ _ isIdle => exact .of_none (isIdle_task? isIdle)
  | touches => exact .of_none rfl
  | asks => exact .of_none rfl
  | opens => exact .of_none rfl
  | unopened => exact .of_none rfl
  | aims => exact .of_none rfl
  | locks => exact .of_none rfl
  | refused => exact .of_none rfl
  | resumes session guarded existing tasks _ accepted =>
      exact .resumes existing tasks accepted
  | creates session guarded before unknown =>
      exact .creates session guarded before unknown rfl
  | records session guarded taskId before =>
      exact .of_carried (by rw [before]; rfl)
        (by rw [before]; exact fun _ stage => stage) (by simp)
  | tooLarge => exact .of_none rfl
  | routes session guarded taskId content acp before =>
      exact .of_carried (by rw [before]; rfl)
        (by rw [before]; exact fun _ stage => stage) (by simp)
  | unsent => exact .of_none rfl
  | sends _ guarded taskId acp before isNext =>
      rcases isNext with rfl | rfl
      · exact .of_begin (by rw [before]; rfl)
          (by rw [before]; exact fun _ stage => stage)
      · exact .of_carried (by rw [before]; rfl)
          (by rw [before]; exact fun _ stage => stage) (by simp)
  | unattached => exact .of_none rfl
  | attaches guarded taskId before =>
      exact .of_begin (by rw [before]; rfl)
        (by rw [before]; exact fun _ stage => stage)
  | polls guarded call stream item acp before atNext =>
      exact .of_polled before atNext _
  | ends guarded call before atNext =>
      exact .of_polled before atNext _
  | bridges guarded call moved tasks before worked =>
      exact .bridges guarded call moved tasks before worked rfl
  | leaves => exact .of_none rfl
  | settles guarded call before atReturn =>
      refine .of_carried (by rw [before]; rfl) ?_ (by simp)
      · rw [before]
        intro binding stage
        rcases stage with terminal | stage
        · exact terminal
        · rw [atReturn] at stage
          exact absurd rfl stage.1
  | answers => exact .of_none rfl
  | announces guarded taskId binding before found terminal =>
      refine .keeps ?_ ?_ (by simp)
      · rw [before]
        exact fun _ owned => owned
      · intro id other owned foundOther _
        cases owned
        have same := found.symm.trans foundOther
        cases same
        exact ⟨terminal, rfl⟩
  | pushes => exact .of_none rfl

end Handler

namespace Server

/-- The Task belongs to the handler of this name. -/
def Owns (server : Server) (name : Nat) (id : TaskId) : Prop :=
  ∃ handler, server.handlers name = some handler ∧
    handler.pc.task? = some id

/-- Every owned Task is where its handler has brought it, and has one owner
only. -/
structure Staged (server : Server) : Prop where
  noInput : ∀ id binding, server.shared.tasks.bindings id = some binding →
    binding.state ≠ .inputRequired
  stage : ∀ name handler id, server.handlers name = some handler →
    handler.pc.task? = some id →
      ∃ binding, server.shared.tasks.bindings id = some binding ∧
        handler.pc.Stage binding
  alone : ∀ first second id, server.Owns first id → server.Owns second id →
    first = second
  sound : ∀ name handler guarded call, server.handlers name = some handler →
    handler.pc = .bridging guarded call → call.Sound

/-- No Task waits for input, so none is continued. -/
theorem Staged.not_resumed
    {server : Server} {updated : TaskRegistry} (staged : Staged server)
    (existing : TaskId) :
    server.shared.tasks.acceptContinuation existing ≠ .ok updated := by
  intro accepted
  obtain ⟨binding, found, waiting, _⟩ :=
    TaskRegistry.acceptContinuation_ok_iff.mp accepted
  exact staged.noInput existing binding found waiting

theorem staged_start
    (maxActive idleWindow now : Nat) (loaded : List (String × SessionId)) :
    Staged (start maxActive idleWindow now loaded) := by
  have noHandler : ∀ name handler,
      (start maxActive idleWindow now loaded).handlers name ≠
        some handler := by
    intro name handler
    rw [handlers_start]
    exact (Option.some_ne_none handler).symm
  constructor
  · intro id binding found
    cases found
  · intro name handler id found
    exact absurd found (noHandler name handler)
  · intro first second id owns
    rcases owns with ⟨handler, found, _⟩
    exact absurd found (noHandler first handler)
  · intro name handler guarded call found
    exact absurd found (noHandler name handler)

variable {json : SerdeJson} {cfg : ServeConfig} {server target : Server}

/-- One name at most has another handler than before; the Tasks of the others
stay in their stage. -/
theorem Staged.of_handlers
    {name : Nat} (staged : Staged server)
    (noInput : ∀ id binding, target.shared.tasks.bindings id = some binding →
      binding.state ≠ .inputRequired)
    (others : ∀ tested, tested ≠ name →
      target.handlers tested = server.handlers tested)
    (framed : ∀ tested handler id binding, tested ≠ name →
      server.handlers tested = some handler → handler.pc.task? = some id →
        server.shared.tasks.bindings id = some binding →
          handler.pc.Stage binding →
            ∃ after, target.shared.tasks.bindings id = some after ∧
              handler.pc.Stage after)
    (own : ∀ handler id, target.handlers name = some handler →
      handler.pc.task? = some id →
        (∃ binding, target.shared.tasks.bindings id = some binding ∧
          handler.pc.Stage binding) ∧
          ∀ tested, tested ≠ name → ¬ server.Owns tested id)
    (sound : ∀ handler guarded call, target.handlers name = some handler →
      handler.pc = .bridging guarded call → call.Sound) :
    Staged target where
  noInput := noInput
  stage := by
    intro tested handler id found owned
    by_cases same : tested = name
    · subst same
      exact (own handler id found owned).1
    · rw [others tested same] at found
      obtain ⟨binding, foundTask, stage⟩ :=
        staged.stage tested handler id found owned
      exact framed tested handler id binding same found owned foundTask stage
  alone := by
    have older : ∀ tested, tested ≠ name → ∀ id, target.Owns tested id →
        server.Owns tested id := by
      intro tested different id owns
      rcases owns with ⟨handler, found, owned⟩
      rw [others tested different] at found
      exact ⟨handler, found, owned⟩
    intro first second id ownsFirst ownsSecond
    by_cases isFirst : first = name
    · by_cases isSecond : second = name
      · rw [isFirst, isSecond]
      · subst isFirst
        rcases ownsFirst with ⟨handler, found, owned⟩
        exact absurd (older second isSecond id ownsSecond)
          ((own handler id found owned).2 second isSecond)
    · by_cases isSecond : second = name
      · subst isSecond
        rcases ownsSecond with ⟨handler, found, owned⟩
        exact absurd (older first isFirst id ownsFirst)
          ((own handler id found owned).2 first isFirst)
      · exact staged.alone first second id (older first isFirst id ownsFirst)
          (older second isSecond id ownsSecond)
  sound := by
    intro tested handler guarded call found bridging
    by_cases same : tested = name
    · subst same
      exact sound handler guarded call found bridging
    · rw [others tested same] at found
      exact staged.sound tested handler guarded call found bridging

/-- A handler without a Task takes the place of the one before. -/
theorem Staged.of_unowned
    {name : Nat} (staged : Staged server)
    (others : ∀ tested, tested ≠ name →
      target.handlers tested = server.handlers tested)
    (unowned : ∀ handler, target.handlers name = some handler →
      handler.pc.task? = none)
    (sameTasks : target.shared.tasks = server.shared.tasks) :
    Staged target := by
  refine staged.of_handlers (by rw [sameTasks]; exact staged.noInput) others
    ?_ ?_ ?_
  · intro tested handler id binding _ _ _ found stage
    rw [sameTasks]
    exact ⟨binding, found, stage⟩
  · intro handler id found owned
    rw [unowned handler found] at owned
    cases owned
  · intro handler guarded call found bridging
    have noTask := unowned handler found
    rw [bridging] at noTask
    cases noTask

/-- All handlers and all Tasks are as before. -/
theorem Staged.of_same
    (staged : Staged server)
    (sameHandlers : ∀ name, target.handlers name = server.handlers name)
    (sameTasks : target.shared.tasks = server.shared.tasks) :
    Staged target where
  noInput := by
    rw [sameTasks]
    exact staged.noInput
  stage := by
    intro name handler id found owned
    rw [sameHandlers] at found
    rw [sameTasks]
    exact staged.stage name handler id found owned
  alone := by
    intro first second id ownsFirst ownsSecond
    rcases ownsFirst with ⟨one, foundOne, ownsOne⟩
    rcases ownsSecond with ⟨two, foundTwo, ownsTwo⟩
    rw [sameHandlers] at foundOne foundTwo
    exact staged.alone first second id ⟨one, foundOne, ownsOne⟩
      ⟨two, foundTwo, ownsTwo⟩
  sound := by
    intro name handler guarded call found bridging
    rw [sameHandlers] at found
    exact staged.sound name handler guarded call found bridging

theorem Staged.cancels
    {id : TaskId} {tasks : TaskRegistry} (staged : Staged server)
    (sameHandlers : ∀ name, target.handlers name = server.handlers name)
    (canceled : server.shared.tasks.cancel id = .ok tasks)
    (isNow : target.shared.tasks = tasks) :
    Staged target := by
  obtain ⟨binding, found, active, rfl⟩ := TaskRegistry.cancel_ok_iff.mp canceled
  have known : ∀ tested before,
      server.shared.tasks.bindings tested = some before →
        tested = id ∧ before = binding ∨
          tested ≠ id ∧ target.shared.tasks.bindings tested = some before := by
    intro tested before foundBefore
    by_cases same : tested = id
    · subst same
      rw [found] at foundBefore
      cases foundBefore
      exact .inl ⟨rfl, rfl⟩
    · rw [isNow, TaskRegistry.put_other same]
      exact .inr ⟨same, foundBefore⟩
  constructor
  · intro tested after foundAfter
    rw [isNow] at foundAfter
    by_cases same : tested = id
    · subst same
      rw [TaskRegistry.put_self] at foundAfter
      cases foundAfter
      exact nofun
    · rw [TaskRegistry.put_other same] at foundAfter
      exact staged.noInput tested after foundAfter
  · intro name handler tested foundHandler owned
    rw [sameHandlers] at foundHandler
    obtain ⟨before, foundBefore, stage⟩ :=
      staged.stage name handler tested foundHandler owned
    rcases known tested before foundBefore with ⟨rfl, rfl⟩ | ⟨_, still⟩
    · refine ⟨{ before with state := .canceled }, ?_, stage.canceled active⟩
      rw [isNow, TaskRegistry.put_self]
    · exact ⟨before, still, stage⟩
  · intro first second tested ownsFirst ownsSecond
    rcases ownsFirst with ⟨one, foundOne, ownsOne⟩
    rcases ownsSecond with ⟨two, foundTwo, ownsTwo⟩
    rw [sameHandlers] at foundOne foundTwo
    exact staged.alone first second tested ⟨one, foundOne, ownsOne⟩
      ⟨two, foundTwo, ownsTwo⟩
  · intro name handler guarded call foundHandler bridging
    rw [sameHandlers] at foundHandler
    exact staged.sound name handler guarded call foundHandler bridging

/-! ## The step of a prompt handler, by what it does to the Tasks -/

section

variable {name : Nat} {env : Env} {handler : Handler} {next : HandlerPc}

theorem Staged.of_keeps
    (staged : Staged server) (isOwn : server.handlers name = some handler)
    (others : ∀ tested, tested ≠ name →
      target.handlers tested = server.handlers tested)
    (isNext : target.handlers name = some { handler with pc := next })
    (sameTasks : target.shared.tasks = server.shared.tasks)
    (owned : ∀ id, next.task? = some id → handler.pc.task? = some id)
    (stage : ∀ id binding, next.task? = some id →
      server.shared.tasks.bindings id = some binding →
        handler.pc.Stage binding → next.Stage binding)
    (sound : ∀ guarded call, next = .bridging guarded call →
      (∀ held before, handler.pc = .bridging held before → before.Sound) →
        call.Sound) :
    Staged target := by
  refine staged.of_handlers (by rw [sameTasks]; exact staged.noInput) others
    ?_ ?_ ?_
  · intro tested other id binding _ _ _ foundTask before
    rw [sameTasks]
    exact ⟨binding, foundTask, before⟩
  · intro later id foundLater ownsNow
    cases isNext.symm.trans foundLater
    have ownedBefore := owned id ownsNow
    obtain ⟨binding, foundTask, before⟩ :=
      staged.stage name handler id isOwn ownedBefore
    rw [sameTasks]
    refine ⟨⟨binding, foundTask, stage id binding ownsNow foundTask before⟩,
      ?_⟩
    intro tested different ownsTested
    exact different
      (staged.alone tested name id ownsTested ⟨handler, isOwn, ownedBefore⟩)
  · intro later guarded call foundLater bridging
    cases isNext.symm.trans foundLater
    exact sound guarded call bridging fun held before atBridge =>
      staged.sound name handler held before isOwn atBridge

theorem Staged.noInput_create
    (staged : Staged server) {id tested : TaskId} {binding : TaskBinding}
    {conversation : String} {session : SessionId}
    (found : (server.shared.tasks.create id conversation session).bindings
      tested = some binding) :
    binding.state ≠ .inputRequired := by
  by_cases same : tested = id
  · subst same
    rw [TaskRegistry.create_self] at found
    cases found
    exact nofun
  · rw [TaskRegistry.create_other same] at found
    exact staged.noInput tested binding found

theorem Staged.of_creates
    {session : SessionId} {guarded : ConversationRef} (staged : Staged server)
    (others : ∀ tested, tested ≠ name →
      target.handlers tested = server.handlers tested)
    (isNext : target.handlers name =
      some { handler with pc := .record session guarded env.taskId })
    (created : target.shared.tasks =
      server.shared.tasks.create env.taskId handler.request.key session)
    (unknown : server.shared.tasks.bindings env.taskId = none) :
    Staged target := by
  refine staged.of_handlers ?_ others ?_ ?_ ?_
  · intro tested binding foundTask
    rw [created] at foundTask
    exact staged.noInput_create foundTask
  · intro tested other id binding _ _ _ foundTask stage
    have different : id ≠ env.taskId := by
      intro isSame
      subst isSame
      rw [unknown] at foundTask
      cases foundTask
    rw [created, TaskRegistry.create_other different]
    exact ⟨binding, foundTask, stage⟩
  · intro later id foundLater ownsNow
    cases isNext.symm.trans foundLater
    cases ownsNow
    rw [created, TaskRegistry.create_self]
    refine ⟨⟨_, rfl, .inl rfl⟩, ?_⟩
    intro tested different owns
    rcases owns with ⟨other, foundOther, ownsOther⟩
    obtain ⟨binding, foundTask, _⟩ :=
      staged.stage tested other env.taskId foundOther ownsOther
    rw [unknown] at foundTask
    cases foundTask
  · intro later held call foundLater bridging
    cases isNext.symm.trans foundLater
    cases bridging

/-- No step of a bridge call puts its Task on hold. -/
theorem Staged.noInput_stepped
    {call moved : Bridge.Call} {updated : TaskRegistry} {tested : TaskId}
    {binding after : TaskBinding} (staged : Staged server)
    (known : server.shared.tasks.bindings call.taskId = some binding)
    (changes : Bridge.Stepped call server.shared.tasks moved updated)
    (found : updated.bindings tested = some after) :
    after.state ≠ .inputRequired := by
  by_cases same : tested = call.taskId
  · subst same
    obtain ⟨result, foundResult, effect⟩ := changes.known binding known
    rw [found] at foundResult
    cases foundResult
    have noInput := staged.noInput call.taskId binding known
    cases effect with
    | keeps sameState _ _ => rw [sameState]; exact noInput
    | shows _ _ sameState _ _ => rw [sameState]; exact noInput
    | begins _ isWorking _ _ => rw [isWorking]; exact nofun
    | decides _ isFinished _ _ =>
        intro waiting
        rw [waiting] at isFinished
        cases isFinished
    | closes _ _ _ sameState _ => rw [sameState]; exact noInput
  · rw [changes.frame.others tested same] at found
    exact staged.noInput tested after found

theorem Staged.of_bridges
    {guarded : ConversationRef} {call moved : Bridge.Call}
    (staged : Staged server) (isOwn : server.handlers name = some handler)
    (others : ∀ tested, tested ≠ name →
      target.handlers tested = server.handlers tested)
    (isNext : target.handlers name =
      some { handler with pc := .bridging guarded moved })
    (before : handler.pc = .bridging guarded call)
    (worked :
      call.work json server.shared.tasks =
        some (moved, target.shared.tasks)) :
    Staged target := by
  have sound := staged.sound name handler guarded call isOwn before
  have owned : handler.pc.task? = some call.taskId := by
    rw [before]
    rfl
  have owns : server.Owns name call.taskId := ⟨handler, isOwn, owned⟩
  obtain ⟨binding, foundTask, stage⟩ :=
    staged.stage name handler call.taskId isOwn owned
  rw [before] at stage
  have changes := Bridge.work_stepped sound worked
  obtain ⟨current, foundNow, stageNow⟩ :=
    Bridge.work_stage sound foundTask stage worked
  refine staged.of_handlers ?_ others ?_ ?_ ?_
  · intro tested after found
    exact staged.noInput_stepped foundTask changes found
  · intro tested other id otherBinding different foundOther ownedOther
      foundOtherTask stageOther
    have notOwn : id ≠ call.taskId := by
      intro isSame
      subst isSame
      exact different
        (staged.alone tested name call.taskId ⟨other, foundOther, ownedOther⟩
          owns)
    rw [changes.frame.others id notOwn]
    exact ⟨otherBinding, foundOtherTask, stageOther⟩
  · intro later id foundLater ownsNow
    cases isNext.symm.trans foundLater
    have named : id = call.taskId :=
      (Option.some.inj ownsNow).symm.trans changes.taskId
    subst named
    refine ⟨⟨current, foundNow, stageNow⟩, ?_⟩
    intro tested different ownsTested
    exact different (staged.alone tested name call.taskId ownsTested owns)
  · intro later held other foundLater bridging
    cases isNext.symm.trans foundLater
    cases bridging
    exact Bridge.work_sound sound worked

theorem Staged.prompts
    {after : Shared} (staged : Staged server)
    (found : server.threads name = some (.prompt handler))
    (moved : handler.TaskMove json env server.shared.tasks next after.tasks) :
    Staged
      { shared := after
        threads :=
          server.threads.put name (.prompt { handler with pc := next }) } := by
  have isOwn : server.handlers name = some handler := handlers_of_found found
  generalize tasksAre : after.tasks = tasks at moved
  cases moved with
  | keeps owned stage sound =>
      exact staged.of_keeps isOwn (fun _ => handlers_put_other)
        handlers_put_self tasksAre owned stage sound
  | creates session guarded before unknown isRecord =>
      subst isRecord
      exact staged.of_creates (fun _ => handlers_put_other) handlers_put_self
        tasksAre unknown
  | resumes existing _ accepted =>
      exact absurd accepted (staged.not_resumed existing)
  | bridges guarded call stepped _ before worked isBridging =>
      subst isBridging tasksAre
      exact staged.of_bridges isOwn (fun _ => handlers_put_other)
        handlers_put_self before worked

end

theorem Staged.step
    {action : Action} (staged : Staged server)
    (taken : step json cfg action server = some target) :
    Staged target := by
  cases step_steps taken with
  | keeps => exact staged
  | spawns _ name thread free isNew =>
      refine staged.of_unowned
        (fun tested different => handlers_put_other different) ?_ rfl
      intro handler found
      have isPrompt : thread.handler? = some handler := by
        simpa [handlers] using found
      rw [isNew handler isPrompt]
      rfl
  | prompts name env handler next after found moved =>
      exact staged.prompts found (Handler.moves_tasks moved)
  | works name env thread next after found noHandler affected =>
      have wasOutsider : server.handlers name = none := by
        rw [handlers_of_found found]
        exact noHandler.1
      have same := handlers_put_outsider after wasOutsider noHandler.2
      cases affected with
      | keeps => exact staged.of_same same rfl
      | cancels id tasks _ canceled => exact staged.cancels same canceled rfl
      | submits command acp _ => exact staged.of_same same rfl
      | removes _ => exact staged.of_same same rfl
  | drops name handler found _ _ =>
      refine staged.of_unowned
        (fun tested different => handlers_put_other different) ?_ rfl
      intro later foundLater
      rw [handlers_put_self] at foundLater
      cases foundLater
      rfl
  | configures => exact staged.of_same (fun _ => rfl) rfl
  | agent => exact staged.of_same (fun _ => rfl) rfl

/-! ## What stays -/

/-- The thread that takes this step is a bridge call on the Task. -/
def Bridges (server : Server) (id : TaskId) (action : Action) : Prop :=
  ∃ name env handler guarded call,
    action = .work name env ∧ server.handlers name = some handler ∧
      handler.pc = .bridging guarded call ∧ call.taskId = id

/-- What no step but those of its own bridge calls changes of a Task. -/
structure Kept (server : Server) (id : TaskId) (action : Action)
    (binding later : TaskBinding) : Prop where
  place : later.place = binding.place
  frozen : binding.state.isTerminal = true → later.state = binding.state
  artifacts : later.artifacts = binding.artifacts ∨ server.Bridges id action

theorem Kept.refl
    (server : Server) (id : TaskId) (action : Action) (binding : TaskBinding) :
    Kept server id action binding binding :=
  ⟨rfl, fun _ => rfl, .inl rfl⟩

/-- A Task that is there stays, where it is, and terminal once it is. -/
theorem known_kept
    {id : TaskId} {binding : TaskBinding} {action : Action}
    (staged : Staged server)
    (taken : step json cfg action server = some target)
    (known : server.shared.tasks.bindings id = some binding) :
    ∃ later, target.shared.tasks.bindings id = some later ∧
      Kept server id action binding later := by
  cases step_steps taken with
  | keeps => exact ⟨binding, known, .refl _ _ _ _⟩
  | spawns => exact ⟨binding, known, .refl _ _ _ _⟩
  | drops => exact ⟨binding, known, .refl _ _ _ _⟩
  | configures => exact ⟨binding, known, .refl _ _ _ _⟩
  | agent => exact ⟨binding, known, .refl _ _ _ _⟩
  | works name env thread next after found noHandler affected =>
      cases affected with
      | keeps => exact ⟨binding, known, .refl _ _ _ _⟩
      | submits => exact ⟨binding, known, .refl _ _ _ _⟩
      | removes => exact ⟨binding, known, .refl _ _ _ _⟩
      | cancels canceled tasks _ done =>
          obtain ⟨before, foundTask, active, rfl⟩ :=
            TaskRegistry.cancel_ok_iff.mp done
          by_cases same : id = canceled
          · subst same
            rw [known] at foundTask
            cases foundTask
            refine ⟨_, TaskRegistry.put_self _ _ _, rfl, ?_, .inl rfl⟩
            intro terminal
            rw [active] at terminal
            cases terminal
          · exact ⟨binding, (TaskRegistry.put_other same).trans known,
              .refl _ _ _ _⟩
  | prompts name env handler next after found moved =>
      have isOwn := handlers_of_found found
      have taskMove := Handler.moves_tasks moved
      generalize tasksAre : after.tasks = tasks at taskMove
      cases taskMove with
      | keeps => exact ⟨binding, known, .refl _ _ _ _⟩
      | creates session guarded before unknown =>
          have different : id ≠ env.taskId := by
            intro isSame
            subst isSame
            rw [unknown] at known
            cases known
          exact ⟨binding, (TaskRegistry.create_other different).trans known,
            .refl _ _ _ _⟩
      | resumes existing _ accepted =>
          exact absurd accepted (staged.not_resumed existing)
      | bridges guarded call stepped _ before worked =>
          have sound := staged.sound name handler guarded call isOwn before
          have changes := Bridge.work_stepped sound worked
          by_cases same : id = call.taskId
          · subst same
            obtain ⟨later, foundLater, samePlace⟩ :=
              Bridge.work_place known worked
            exact ⟨later, foundLater, samePlace,
              Bridge.work_terminal sound known worked foundLater,
              .inr ⟨name, env, handler, guarded, call, rfl, isOwn, before,
                rfl⟩⟩
          · exact ⟨binding, (changes.frame.others id same).trans known,
              .refl _ _ _ _⟩

theorem known_stays
    {id : TaskId} {binding : TaskBinding} {action : Action}
    (staged : Staged server)
    (taken : step json cfg action server = some target)
    (known : server.shared.tasks.bindings id = some binding) :
    ∃ later, target.shared.tasks.bindings id = some later ∧
      (binding.state.isTerminal = true → later.state = binding.state) := by
  obtain ⟨later, found, kept⟩ := known_kept staged taken known
  exact ⟨later, found, kept.frozen⟩

/-- Nobody comes to own a Task that is there and has no owner. -/
theorem unowned_stays
    {id : TaskId} {binding : TaskBinding} {action : Action}
    (staged : Staged server)
    (taken : step json cfg action server = some target)
    (known : server.shared.tasks.bindings id = some binding)
    (unowned : ∀ name, ¬ server.Owns name id) :
    ∀ name, ¬ target.Owns name id := by
  have ofHandlers : ∀ changed,
      (∀ tested, tested ≠ changed →
        target.handlers tested = server.handlers tested) →
        (∀ later, target.handlers changed = some later →
          later.pc.task? ≠ some id) →
          ∀ name, ¬ target.Owns name id := by
    intro changed others own tested owns
    rcases owns with ⟨handler, found, owned⟩
    by_cases same : tested = changed
    · subst same
      exact own handler found owned
    · rw [others tested same] at found
      exact unowned tested ⟨handler, found, owned⟩
  have ofSame :
      (∀ tested, target.handlers tested = server.handlers tested) →
        ∀ name, ¬ target.Owns name id := by
    intro same tested owns
    rcases owns with ⟨handler, found, owned⟩
    rw [same] at found
    exact unowned tested ⟨handler, found, owned⟩
  cases step_steps taken with
  | keeps => exact unowned
  | configures => exact ofSame fun _ => rfl
  | agent => exact ofSame fun _ => rfl
  | works name env thread next after found noHandler affected =>
      refine ofSame (handlers_put_outsider after ?_ noHandler.2)
      rw [handlers_of_found found]
      exact noHandler.1
  | spawns _ name thread free isNew =>
      refine ofHandlers name
        (fun tested different => handlers_put_other different) ?_
      intro handler found owned
      have isPrompt : thread.handler? = some handler := by
        simpa [handlers] using found
      rw [isNew handler isPrompt] at owned
      cases owned
  | drops name handler found =>
      refine ofHandlers name
        (fun tested different => handlers_put_other different) ?_
      intro later foundLater owned
      rw [handlers_put_self] at foundLater
      cases foundLater
      cases owned
  | prompts name env handler next after found moved =>
      refine ofHandlers name
        (fun tested different => handlers_put_other different) ?_
      intro later foundLater owned
      rw [handlers_put_self] at foundLater
      cases foundLater
      have isOwn := handlers_of_found found
      have taskMove := Handler.moves_tasks moved
      generalize tasksAre : after.tasks = tasks at taskMove
      cases taskMove with
      | keeps ownedBefore =>
          exact unowned name ⟨handler, isOwn, ownedBefore id owned⟩
      | creates session guarded before unknown isRecord =>
          rw [isRecord] at owned
          cases owned
          rw [unknown] at known
          cases known
      | resumes existing _ accepted =>
          exact absurd accepted (staged.not_resumed existing)
      | bridges guarded call stepped _ before worked isBridging =>
          have sound := staged.sound name handler guarded call isOwn before
          rw [isBridging] at owned
          refine unowned name ⟨handler, isOwn, ?_⟩
          rw [before]
          have same := (Bridge.work_stepped sound worked).taskId
          exact (congrArg some same.symm).trans owned

end Server

end A2AShim
