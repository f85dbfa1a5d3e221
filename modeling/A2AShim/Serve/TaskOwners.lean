import A2AShim.Serve.InFlight

/-!
# Orphaned Tasks

A Task in `submitted` or `working` needs somebody who will still drive it.
Between the creation of a Task and the first event of its stream there are
four ways to lose it: a part that is too large, a driver that is gone, a
stream that ends at once, and a client that goes away.  There is no other.
-/

namespace A2AShim

namespace Bridge

/-- The call is about to store its last status, or has returned. -/
def Call.isLast (call : Call) : Bool :=
  match call.pc with
  | .finish _ | .returned _ => true
  | _ => false

/-- A call that comes to its end has seen an event, unless the Task is
finished anyway. -/
def Call.Sure (call : Call) (state : TaskState) : Prop :=
  state.isTerminal = false → call.isLast = true → call.firstSeen = true

variable {json : SerdeJson} {call next : Call}
variable {registry updated : TaskRegistry} {binding after : TaskBinding}

/-- A sure call does not return while its Task is active. -/
theorem Call.Sure.not_returned
    {state : TaskState} {result : Except BridgeError Unit}
    (sure : call.Sure state) (stage : call.Stage state)
    (active : state.isTerminal = false) :
    call.pc ≠ .returned result := by
  intro atReturn
  have last : call.isLast = true := by
    unfold Call.isLast
    rw [atReturn]
  have seen := sure active last
  rcases stage with terminal | stage
  · rw [active] at terminal
    cases terminal
  · rw [atReturn] at stage
    rw [stage.2.1] at seen
    cases seen

theorem work_firstSeen
    (taken : call.work json registry = some (next, updated)) :
    next.firstSeen = call.firstSeen := by
  cases work_works taken <;> rfl

theorem onItem_firstSeen (item : StreamItem) :
    (call.polled json (some item)).firstSeen = true := by
  unfold Call.polled
  by_cases seen : call.firstSeen = true
  · simp [seen]
  · simp [seen]

theorem work_sure
    (sound : call.Sound) (sure : call.Sure binding.state)
    (found : registry.bindings call.taskId = some binding)
    (stage : call.Stage binding.state)
    (taken : call.work json registry = some (next, updated))
    (foundAfter : updated.bindings call.taskId = some after) :
    next.Sure after.state := by
  intro active last
  have wasActive : binding.state.isTerminal = false := by
    by_contra terminal
    have same :=
      work_terminal sound found taken foundAfter (by simpa using terminal)
    rw [same] at active
    exact terminal active
  rw [work_firstSeen taken]
  rcases stage with terminal | stage
  · rw [wasActive] at terminal
    cases terminal
  · cases work_works taken with
    | lost atPc absent =>
        rw [found] at absent
        cases absent
    | starts other atPc => cases last
    | unmarked item error atPc =>
        rw [atPc] at stage
        exact stage.1
    | marks item other atPc => cases last
    | recordsWorking item atPc => cases last
    | publishesWorking item atPc =>
        rw [atPc] at stage
        exact stage.1
    | answered atPc => cases last
    | unanswered part rest error atPc absent =>
        rw [found] at absent
        cases absent
    | upserts part rest other artifacts atPc => cases last
    | publishesArtifact part append rest atPc => cases last
    | undecided status error atPc =>
        apply sure wasActive
        unfold Call.isLast
        rw [atPc]
    | decides status other atPc => cases last
    | recordsFinal status atPc => cases last
    | publishesFinal status atPc =>
        rw [atPc] at stage
        exact stage.elim

end Bridge

namespace Server

/-- The Task has a live owner: a handler that has created or continued it and
has not returned, or a bridge call that is still running. -/
def Drives (server : Server) (name : Nat) (id : TaskId) : Prop :=
  ∃ handler, server.handlers name = some handler ∧
    handler.pc.task? = some id ∧
      ∀ guarded call result, handler.pc = .bridging guarded call →
        call.pc ≠ .returned result

/-- Every Task that is not finished has a live owner. -/
def NoOrphan (server : Server) : Prop :=
  ∀ id binding, server.shared.tasks.bindings id = some binding →
    binding.state = .submitted ∨ binding.state = .working →
      ∃ name, server.Drives name id

/-- The steps that lose a Task which is not finished. -/
inductive Abandons (json : SerdeJson) (cfg : ServeConfig) (server : Server) :
    Action → Prop
  | drops (name : Nat) (handler : Handler) (id : TaskId)
      (binding : TaskBinding)
      (found : server.handlers name = some handler)
      (owned : handler.pc.task? = some id)
      (known : server.shared.tasks.bindings id = some binding)
      (active : binding.state.isTerminal = false) :
      Abandons json cfg server (.drop name)
  | oversized (name : Nat) (env : Env) (handler : Handler)
      (session : SessionId) (guarded : ConversationRef) (id : TaskId)
      (binding : TaskBinding)
      (found : server.handlers name = some handler)
      (atDispatch : handler.pc = .dispatch session guarded id)
      (tooLarge : ∃ part, part ∈ handler.request.parsed.message.parts ∧
        cfg.maxPartBytes < Translate.partPayloadSize json part)
      (known : server.shared.tasks.bindings id = some binding)
      (active : binding.state.isTerminal = false) :
      Abandons json cfg server (.work name env)
  | unsent (name : Nat) (env : Env) (handler : Handler)
      (guarded : ConversationRef) (id : TaskId) (binding : TaskBinding)
      (found : server.handlers name = some handler)
      (atSend : handler.pc = .sendPrompt guarded id)
      (gone : server.shared.acp.driver = .gone)
      (known : server.shared.tasks.bindings id = some binding)
      (active : binding.state.isTerminal = false) :
      Abandons json cfg server (.work name env)
  | ends (name : Nat) (env : Env) (handler : Handler)
      (guarded : ConversationRef) (call : Bridge.Call) (binding : TaskBinding)
      (found : server.handlers name = some handler)
      (atBridge : handler.pc = .bridging guarded call)
      (atNext : call.pc = .next) (unseen : call.firstSeen = false)
      (atEnd : server.shared.acp.AtEnd name)
      (known : server.shared.tasks.bindings call.taskId = some binding)
      (active : binding.state.isTerminal = false) :
      Abandons json cfg server (.work name env)

/-! ## The invariant -/

/-- Active Tasks have owners, and no owner comes to an end before the first
event. -/
structure Driven (server : Server) : Prop where
  owned : ∀ id binding, server.shared.tasks.bindings id = some binding →
    binding.state.isTerminal = false → ∃ name, server.Owns name id
  sure : ∀ name handler guarded call binding,
    server.handlers name = some handler →
      handler.pc = .bridging guarded call →
        server.shared.tasks.bindings call.taskId = some binding →
          call.Sure binding.state

variable {json : SerdeJson} {cfg : ServeConfig} {server target : Server}
variable {shared after : Shared} {name tested : Nat} {handler : Handler}
variable {next : HandlerPc} {env : Env}

theorem Driven.noOrphan
    (driven : Driven server) (staged : Staged server) :
    NoOrphan server := by
  intro id binding known unfinished
  have active : binding.state.isTerminal = false := by
    rcases unfinished with submitted | working
    · rw [submitted]
      rfl
    · rw [working]
      rfl
  obtain ⟨name, handler, found, owned⟩ := driven.owned id binding known active
  refine ⟨name, handler, found, owned, ?_⟩
  intro guarded call result atBridge
  obtain ⟨other, foundOther, stage⟩ :=
    staged.stage name handler id found owned
  rw [known] at foundOther
  cases foundOther
  rw [atBridge] at owned stage
  cases owned
  exact (driven.sure name handler guarded call binding found atBridge known
    ).not_returned stage active

/-- A handler lets go of a Task only when it is finished. -/
theorem moves_keep_task
    {id : TaskId} {binding : TaskBinding}
    (driven : Driven server) (staged : Staged server)
    (isOwn : server.handlers name = some handler)
    (kept : ¬ Abandons json cfg server (.work name env))
    (moved : Handler.Moves json cfg name env handler server.shared next after)
    (owned : handler.pc.task? = some id)
    (known : server.shared.tasks.bindings id = some binding)
    (active : binding.state.isTerminal = false) :
    next.task? = some id := by
  obtain ⟨other, foundOther, stage⟩ :=
    staged.stage name handler id isOwn owned
  rw [known] at foundOther
  cases foundOther
  have notTerminal : binding.state.isTerminal ≠ true := by
    rw [active]
    exact Bool.false_ne_true
  cases moved with
  | idles _ wasIdle =>
      rcases wasIdle with idle | ⟨session, found, atLock⟩
      · rw [Handler.isIdle_task? idle] at owned
        cases owned
      · rw [atLock] at owned
        cases owned
  | touches ref session before =>
      rcases before with before | before
      · rw [before] at owned
        cases owned
      · rw [before] at owned
        cases owned
  | asks acp before | opens session before | unopened error before
  | aims session found before | locks session found locked before
  | refused session guarded error before
  | resumes session guarded existing tasks before
  | creates session guarded before =>
      rw [before] at owned
      cases owned
  | records session guarded taskId before
  | routes session guarded taskId content acp before
  | attaches guarded taskId before
  | settles guarded call before
  | announces guarded taskId binding before =>
      rw [before] at owned
      exact owned
  | sends _ guarded taskId acp before isNext =>
      rw [before] at owned
      rcases isNext with rfl | rfl
      · exact owned
      · exact owned
  | polls guarded call stream item acp before
  | ends guarded call before =>
      rw [before] at owned
      simpa [HandlerPc.task?] using owned
  | bridges guarded call stepped tasks before worked =>
      have sound := staged.sound name handler guarded call isOwn before
      rw [before] at owned
      simpa [HandlerPc.task?, (Bridge.work_stepped sound worked).taskId]
        using owned
  | tooLarge session guarded taskId error before oversized =>
      rw [before] at owned
      cases owned
      have exceeds : ∃ part, part ∈ handler.request.parsed.message.parts ∧
          cfg.maxPartBytes < Translate.partPayloadSize json part := by
        by_contra fits
        apply oversized
        rw [Translate.validateParts_ok_iff]
        intro part member
        exact Nat.le_of_not_lt fun larger => fits ⟨part, member, larger⟩
      have abandons : Abandons json cfg server (.work name env) :=
        .oversized name env handler session guarded id binding isOwn before
          exceeds known active
      exact absurd abandons kept
  | unsent guarded taskId error acp before gone =>
      rw [before] at owned
      cases owned
      have abandons : Abandons json cfg server (.work name env) :=
        .unsent name env handler guarded id binding isOwn before gone known
          active
      exact absurd abandons kept
  | unattached guarded taskId error before unknown =>
      rw [before] at owned
      cases owned
      rw [known] at unknown
      cases unknown
  | leaves guarded call result answer before atReturn =>
      rw [before] at owned stage
      cases owned
      exact absurd atReturn
        ((driven.sure name handler guarded call binding isOwn before known
          ).not_returned stage active)
  | answers guarded taskId answer before =>
      rw [before] at stage
      exact absurd stage notTerminal
  | pushes guarded snap answer before =>
      rw [before] at stage
      exact absurd stage.1 notTerminal

/-- Steps that keep the handlers, and the Tasks or make one of them
terminal. -/
theorem Driven.of_same
    (driven : Driven server)
    (sameHandlers : ∀ name, target.handlers name = server.handlers name)
    (tasks : ∀ id binding, target.shared.tasks.bindings id = some binding →
      server.shared.tasks.bindings id = some binding ∨
        binding.state.isTerminal = true) :
    Driven target where
  owned := by
    intro id binding known active
    rcases tasks id binding known with same | terminal
    · obtain ⟨name, handler, found, owned⟩ :=
        driven.owned id binding same active
      exact ⟨name, handler, (sameHandlers name).trans found, owned⟩
    · rw [active] at terminal
      cases terminal
  sure := by
    intro name handler guarded call binding found atBridge known
    rw [sameHandlers] at found
    rcases tasks call.taskId binding known with same | terminal
    · exact driven.sure name handler guarded call binding found atBridge same
    · intro active
      rw [active] at terminal
      cases terminal

/-- How the Tasks of the other handlers come out of a handler's step. -/
theorem moves_other_tasks
    {id : TaskId} {binding : TaskBinding} (staged : Staged server)
    (isOwn : server.handlers name = some handler)
    (moved : handler.TaskMove json env server.shared.tasks next after.tasks)
    (notOwned : handler.pc.task? ≠ some id)
    (known : after.tasks.bindings id = some binding) :
    server.shared.tasks.bindings id = some binding ∨
      next.task? = some id := by
  generalize tasksAre : after.tasks = tasks at moved
  cases moved with
  | keeps => exact .inl (tasksAre ▸ known)
  | creates session guarded before unknown isRecord =>
      by_cases same : id = env.taskId
      · rw [isRecord, same]
        exact .inr rfl
      · rw [tasksAre, TaskRegistry.create_other same] at known
        exact .inl known
  | resumes existing _ accepted =>
      exact absurd accepted (staged.not_resumed existing)
  | bridges guarded call stepped _ before worked =>
      have sound := staged.sound name handler guarded call isOwn before
      have different : id ≠ call.taskId := by
        intro isSame
        subst isSame
        apply notOwned
        rw [before]
        rfl
      rw [tasksAre, (Bridge.work_stepped sound worked).frame.others id
        different] at known
      exact .inl known

/-- A Task that is active after a handler's step was active before it, or has
been made in it. -/
theorem moves_active
    {id : TaskId} {binding : TaskBinding} (staged : Staged server)
    (isOwn : server.handlers name = some handler)
    (moved : handler.TaskMove json env server.shared.tasks next after.tasks)
    (owned : handler.pc.task? = some id)
    (known : after.tasks.bindings id = some binding)
    (active : binding.state.isTerminal = false) :
    ∃ before, server.shared.tasks.bindings id = some before ∧
      before.state.isTerminal = false := by
  obtain ⟨before, foundBefore, _⟩ := staged.stage name handler id isOwn owned
  refine ⟨before, foundBefore, ?_⟩
  generalize tasksAre : after.tasks = tasks at moved
  cases moved with
  | keeps =>
      rw [tasksAre, foundBefore] at known
      cases known
      exact active
  | creates session guarded atEnter =>
      rw [atEnter] at owned
      cases owned
  | resumes existing _ accepted =>
      exact absurd accepted (staged.not_resumed existing)
  | bridges guarded call stepped _ atBridge worked =>
      have sound := staged.sound name handler guarded call isOwn atBridge
      rw [atBridge] at owned
      cases owned
      by_contra terminal
      have same :=
        Bridge.work_terminal sound foundBefore worked (tasksAre ▸ known)
          (by simpa using terminal)
      rw [same] at active
      exact terminal active

theorem begin_sure {taskId : TaskId} {state : TaskState} :
    (Bridge.Call.begin taskId).Sure state := by
  intro _ last
  cases last

/-- A handler's own call stays sure. -/
theorem moves_sure
    {held : ConversationRef} {call : Bridge.Call} {binding : TaskBinding}
    (driven : Driven server) (staged : Staged server)
    (isOwn : server.handlers name = some handler)
    (kept : ¬ Abandons json cfg server (.work name env))
    (moved : Handler.Moves json cfg name env handler server.shared next after)
    (atBridge : next = .bridging held call)
    (known : after.tasks.bindings call.taskId = some binding) :
    call.Sure binding.state := by
  cases moved with
  | idles _ _ isIdle =>
      rw [atBridge] at isIdle
      cases isIdle
  | sends _ guarded taskId acp before isNext =>
      rcases isNext with rfl | rfl
      · cases atBridge
        exact begin_sure
      · cases atBridge
  | attaches guarded taskId before =>
      cases atBridge
      exact begin_sure
  | polls guarded polling stream item acp before =>
      cases atBridge
      exact fun _ _ => Bridge.onItem_firstSeen item
  | ends guarded polling before atNext atEnd =>
      cases atBridge
      intro active _
      have current :
          server.shared.tasks.bindings polling.taskId = some binding := known
      by_cases seen : polling.firstSeen = true
      · exact seen
      · have unseen : polling.firstSeen = false := by simpa using seen
        have abandons : Abandons json cfg server (.work name env) :=
          .ends name env handler held polling binding isOwn before atNext
            unseen atEnd current active
        exact absurd abandons kept
  | bridges guarded working stepped tasks before worked =>
      cases atBridge
      have sound := staged.sound name handler held working isOwn before
      obtain ⟨earlier, foundEarlier, stage⟩ :=
        staged.stage name handler working.taskId isOwn (by rw [before]; rfl)
      rw [before] at stage
      have sure :=
        driven.sure name handler held working earlier isOwn before
          foundEarlier
      rw [(Bridge.work_stepped sound worked).taskId] at known
      exact Bridge.work_sure sound sure foundEarlier stage worked known
  | _ => cases atBridge

theorem Driven.prompts
    (driven : Driven server) (staged : Staged server)
    (found : server.threads name = some (.prompt handler))
    (kept : ¬ Abandons json cfg server (.work name env))
    (moved : Handler.Moves json cfg name env handler server.shared next after) :
    Driven
      { shared := after
        threads :=
          server.threads.put name (.prompt { handler with pc := next }) } := by
  have isOwn : server.handlers name = some handler := handlers_of_found found
  have taskMove := Handler.moves_tasks moved
  constructor
  · intro id binding known active
    by_cases owned : handler.pc.task? = some id
    · obtain ⟨before, foundBefore, wasActive⟩ :=
        moves_active staged isOwn taskMove owned known active
      exact ⟨name, _, handlers_put_self,
        moves_keep_task driven staged isOwn kept moved owned foundBefore
          wasActive⟩
    · rcases moves_other_tasks staged isOwn taskMove owned known with
        same | isNew
      · obtain ⟨tested, other, foundOther, ownsOther⟩ :=
          driven.owned id binding same active
        have different : tested ≠ name := by
          intro isSame
          subst isSame
          rw [isOwn] at foundOther
          cases foundOther
          exact owned ownsOther
        exact ⟨tested, other, (handlers_put_other different).trans foundOther,
          ownsOther⟩
      · exact ⟨name, _, handlers_put_self, isNew⟩
  · intro tested other guarded call binding foundOther atBridge known
    by_cases same : tested = name
    · subst same
      rw [handlers_put_self] at foundOther
      cases foundOther
      exact moves_sure driven staged isOwn kept moved atBridge known
    · rw [handlers_put_other same] at foundOther
      have ownsOther : other.pc.task? = some call.taskId := by
        rw [atBridge]
        rfl
      have notOwned : handler.pc.task? ≠ some call.taskId := by
        intro owned
        exact same
          (staged.alone tested name call.taskId
            ⟨other, foundOther, ownsOther⟩ ⟨handler, isOwn, owned⟩)
      obtain ⟨before, foundBefore, _⟩ :=
        staged.stage tested other call.taskId foundOther ownsOther
      rcases moves_other_tasks staged isOwn taskMove notOwned known with
        unchanged | isNew
      · exact driven.sure tested other guarded call binding foundOther atBridge
          unchanged
      · have stagedAfter : Staged
            { shared := after
              threads :=
                server.threads.put name
                  (.prompt { handler with pc := next }) } :=
          staged.prompts found taskMove
        have sameName : tested = name :=
          stagedAfter.alone tested name call.taskId
            ⟨other, (handlers_put_other same).trans foundOther, ownsOther⟩
            ⟨_, handlers_put_self, isNew⟩
        exact absurd sameName same

/-- A name gets a handler that has no Task. -/
theorem Driven.of_unowned
    (driven : Driven server)
    (others : ∀ tested, tested ≠ name →
      target.handlers tested = server.handlers tested)
    (unowned : ∀ later, target.handlers name = some later →
      later.pc.task? = none)
    (released : ∀ id binding, server.Owns name id →
      server.shared.tasks.bindings id = some binding →
        binding.state.isTerminal = true)
    (sameTasks : target.shared.tasks = server.shared.tasks) :
    Driven target where
  owned := by
    intro id binding known active
    rw [sameTasks] at known
    obtain ⟨tested, handler, found, owned⟩ :=
      driven.owned id binding known active
    have different : tested ≠ name := by
      intro isSame
      subst isSame
      have terminal := released id binding ⟨handler, found, owned⟩ known
      rw [active] at terminal
      cases terminal
    exact ⟨tested, handler, (others tested different).trans found, owned⟩
  sure := by
    intro tested handler guarded call binding found atBridge known
    rw [sameTasks] at known
    by_cases same : tested = name
    · subst same
      have noTask := unowned handler found
      rw [atBridge] at noTask
      cases noTask
    · rw [others tested same] at found
      exact driven.sure tested handler guarded call binding found atBridge
        known

theorem Driven.step
    {action : Action} (driven : Driven server) (staged : Staged server)
    (kept : ¬ Abandons json cfg server action)
    (taken : step json cfg action server = some target) :
    Driven target := by
  cases step_steps taken with
  | keeps => exact driven
  | spawns _ name thread free isNew =>
      refine driven.of_unowned
        (fun tested different => handlers_put_other different) ?_ ?_ rfl
      · intro handler found
        have isPrompt : thread.handler? = some handler := by
          simpa [handlers] using found
        rw [isNew handler isPrompt]
        rfl
      · intro id binding owns
        rcases owns with ⟨handler, found, _⟩
        rw [handlers_of_free free] at found
        cases found
  | prompts name env handler next after found moved =>
      exact driven.prompts staged found kept moved
  | works name env thread next after found noHandler affected =>
      have wasOutsider : server.handlers name = none := by
        rw [handlers_of_found found]
        exact noHandler.1
      have same := handlers_put_outsider after wasOutsider noHandler.2
      cases affected with
      | keeps => exact driven.of_same same fun _ _ known => .inl known
      | submits => exact driven.of_same same fun _ _ known => .inl known
      | removes => exact driven.of_same same fun _ _ known => .inl known
      | cancels id tasks _ canceled =>
          obtain ⟨binding, foundTask, _, rfl⟩ :=
            TaskRegistry.cancel_ok_iff.mp canceled
          refine driven.of_same same ?_
          intro tested later known
          by_cases isCanceled : tested = id
          · subst isCanceled
            have isNow := (TaskRegistry.put_self _ _ _).symm.trans known
            cases isNow
            exact .inr rfl
          · have unchanged := (TaskRegistry.put_other isCanceled).symm.trans known
            exact .inl unchanged
  | drops name handler found forSend awaiting =>
      refine driven.of_unowned
        (fun tested different => handlers_put_other different) ?_ ?_ rfl
      · intro later foundLater
        rw [handlers_put_self] at foundLater
        cases foundLater
        rfl
      · intro id binding owns known
        rcases owns with ⟨other, foundOther, owned⟩
        rw [handlers_of_found found] at foundOther
        cases foundOther
        by_contra active
        apply kept
        exact .drops name handler id binding (handlers_of_found found) owned known
          (by simpa using active)
  | configures => exact driven.of_same (fun _ => rfl) fun _ _ known => .inl known
  | agent => exact driven.of_same (fun _ => rfl) fun _ _ known => .inl known

theorem driven_start
    (maxActive idleWindow now : Nat) (loaded : List (String × SessionId)) :
    Driven (start maxActive idleWindow now loaded) where
  owned := by
    intro id binding known
    cases known
  sure := by
    intro name handler guarded call binding found
    rw [handlers_start] at found
    cases found

open Machine

/-- Whenever no step loses an active Task, every reachable state has a live
owner for each of them. -/
theorem kept_tasks_have_owners
    {maxActive idleWindow now : Nat} {loaded : List (String × SessionId)}
    {trace : List Action}
    (run : Run (step json cfg)
      (fun reached action => ¬ Abandons json cfg reached action)
      (start maxActive idleWindow now loaded) trace server) :
    NoOrphan server := by
  have both : Driven server ∧ Staged server :=
    run.invariant (fun reached => Driven reached ∧ Staged reached)
      ⟨driven_start maxActive idleWindow now loaded,
        staged_start maxActive idleWindow now loaded⟩
      fun _ _ _ before permitted taken =>
        ⟨before.1.step before.2 permitted taken, before.2.step taken⟩
  exact both.1.noOrphan both.2

/-- A test that only lets through steps that lose no Task. -/
def isCareful (json : SerdeJson) (cfg : ServeConfig) (server : Server) :
    Action → Bool
  | .work name _ =>
      match server.handlers name with
      | none => true
      | some handler =>
          match handler.pc with
          | .dispatch _ _ _ =>
              handler.request.parsed.message.parts.all fun part =>
                decide (Translate.partPayloadSize json part ≤ cfg.maxPartBytes)
          | .sendPrompt _ _ => decide (server.shared.acp.driver ≠ .gone)
          | .bridging _ call => call.firstSeen || server.shared.acp.isOpen name
          | _ => true
  | .drop _ => false
  | _ => true

theorem isCareful_sound
    (action : Action) (careful : isCareful json cfg server action = true) :
    ¬ Abandons json cfg server action := by
  intro abandons
  cases abandons with
  | drops => cases careful
  | oversized name env handler session guarded id binding found atDispatch
      tooLarge =>
      rcases tooLarge with ⟨part, member, larger⟩
      simp only [isCareful, found, atDispatch, List.all_eq_true,
        decide_eq_true_eq] at careful
      have fits := careful part member
      omega
  | unsent name env handler guarded id binding found atSend gone =>
      simp [isCareful, found, atSend, gone] at careful
  | ends name env handler guarded call binding found atBridge atNext unseen
      atEnd =>
      simp [isCareful, found, atBridge, unseen, atEnd.2] at careful

/-- A turn after its first event. -/
theorem working_task_has_owner :
    ∃ json cfg trace server,
      exec (step json cfg) trace (start 10 60 0 []) = some server ∧
        (∃ binding, server.shared.tasks.bindings ⟨"t"⟩ = some binding ∧
          binding.state = .working) ∧
          NoOrphan server := by
  let work : Action := .work 0 { now := 0, taskId := ⟨"t"⟩ }
  let trace : List Action :=
    [.request 0 .stream plainParams none, work, work, work, .acp .receive,
      .acp (.answer (.session "s")), work, work, work, work, work, work, work,
      work, .acp .receive, .acp (.notify "s" .other), .acp .deliver, work,
      work, work, work]
  obtain ⟨server, tested⟩ : ∃ server,
      execTested (step .constant plainConfig)
        (isCareful .constant plainConfig) trace (start 10 60 0 []) =
          some server :=
    ⟨_, rfl⟩
  have run :=
    run_of_execTested (fun reached action careful =>
      isCareful_sound action careful) tested
  refine ⟨.constant, plainConfig, trace, server, run.exec_eq, ?_,
    kept_tasks_have_owners run⟩
  cases tested
  exact ⟨_, rfl, rfl⟩

/-- The handler of a message whose part is too large has made a Task when it
finds out. -/
theorem rejected_part_leaves_orphan :
    ¬ ∀ json cfg trace server,
        Run (step json cfg) free (start 10 60 0 []) trace server →
          NoOrphan server := by
  intro claimed
  let cfg : ServeConfig := { plainConfig with maxPartBytes := 4 }
  let work : Action := .work 0 { now := 0, taskId := ⟨"t"⟩ }
  let trace : List Action :=
    [.request 0 .send plainParams none, work, work, work, .acp .receive,
      .acp (.answer (.session "s")), work, work, work, work, work, work, work]
  obtain ⟨server, executed⟩ : ∃ server,
      exec (step .constant cfg) trace (start 10 60 0 []) = some server :=
    ⟨_, rfl⟩
  obtain ⟨binding, known, submitted⟩ : ∃ binding,
      server.shared.tasks.bindings ⟨"t"⟩ = some binding ∧
        binding.state = .submitted := by
    cases executed
    exact ⟨_, rfl, rfl⟩
  obtain ⟨name, handler, found, owned, _⟩ :=
    claimed .constant cfg trace server (run_of_exec executed) ⟨"t"⟩ binding
      known (.inl submitted)
  by_cases named : name = 0
  · subst named
    cases executed
    cases found
    cases owned
  · cases executed
    simp [handlers, Pool.put, Pool.empty, start, named] at found

end Server

end A2AShim
