import A2AShim.Serve.TaskOwners

/-!
# Pushing a terminal Task

Only the handler of `SendMessage` queues delivery jobs, after its bridge has
returned and it has seen the Task terminal.  A Task that becomes terminal in
that handler's bridge gets its jobs once, if the configurations stay and the
handler is not dropped until then.  On every other way to a terminal state
nothing is queued.
-/

namespace A2AShim

theorem TaskId.eq_of_text
    {first second : TaskId} (same : first.text = second.text) :
    first = second := by
  cases first
  cases second
  exact congrArg TaskId.mk same

namespace Bridge

variable {json : SerdeJson} {call next : Call}
variable {registry updated : TaskRegistry} {binding after : TaskBinding}

/-- A call makes its Task terminal when it stores its last status. -/
theorem work_decides
    (found : registry.bindings call.taskId = some binding)
    (sound : call.Sound)
    (taken : call.work json registry = some (next, updated))
    (foundAfter : updated.bindings call.taskId = some after)
    (active : binding.state.isTerminal = false)
    (terminal : after.state.isTerminal = true) :
    next.isClosing = true ∧
      ∃ status, call.pc = .finish status ∧
        TaskRegistry.isLegal binding.state status.state = true := by
  obtain ⟨other, foundOther, effect⟩ :=
    (work_stepped sound taken).known binding found
  rw [foundAfter] at foundOther
  cases foundOther
  have unchanged : after.state ≠ binding.state := by
    intro same
    rw [same, active] at terminal
    cases terminal
  cases effect with
  | keeps sameState _ _ => exact absurd sameState unchanged
  | shows _ _ sameState _ _ => exact absurd sameState unchanged
  | begins _ isWorking _ _ =>
      rw [isWorking] at terminal
      cases terminal
  | closes _ _ _ sameState _ => exact absurd sameState unchanged
  | decides _ _ _ closing =>
      refine ⟨closing, ?_⟩
      cases work_works taken with
      | decides status other atPc foundStored legal =>
          rw [found] at foundStored
          cases foundStored
          exact ⟨status, atPc, legal⟩
      | publishesWorking item =>
          rw [onItem_not_closing] at closing
          cases closing
      | recordsFinal status =>
          rw [found] at foundAfter
          cases foundAfter
          exact absurd rfl unchanged
      | _ => cases closing

/-- The last status is stored, and no error has come up. -/
def Call.isSettling (call : Call) : Bool :=
  match call.pc with
  | .recordFinal _ | .publishFinal _ | .returned (.ok ()) => true
  | _ => false

theorem isSettling_of_closing (closing : call.isClosing = true) :
    call.isSettling = true := by
  unfold Call.isClosing at closing
  unfold Call.isSettling
  cases atPc : call.pc with
  | recordFinal status => rfl
  | publishFinal status => rfl
  | _ =>
      rw [atPc] at closing
      cases closing

theorem work_isSettling
    (settling : call.isSettling = true)
    (taken : call.work json registry = some (next, updated)) :
    next.isSettling = true := by
  unfold Call.isSettling at settling
  cases work_works taken with
  | recordsFinal status => rfl
  | publishesFinal status => rfl
  | lost atPc | starts binding atPc | unmarked item error atPc
  | marks item binding atPc | recordsWorking item atPc
  | publishesWorking item atPc | answered atPc
  | unanswered part rest error atPc | upserts part rest binding artifacts atPc
  | publishesArtifact part append rest atPc | undecided status error atPc
  | decides status binding atPc =>
      rw [atPc] at settling
      cases settling

end Bridge

/-- A `SendMessage` handler whose bridge has made the Task terminal, and which
has not queued the jobs yet. -/
def Handler.isAnnouncing (handler : Handler) : Bool :=
  match handler.method, handler.pc with
  | .send, .bridging _ call => call.isSettling
  | .send, .snapshot _ _ | .send, .push _ _ => true
  | _, _ => false

namespace Server

open Machine

def jobsFor (server : Server) (config : PushNotificationConfig) :
    List DeliveryJob :=
  server.shared.jobs.filter fun job => decide (job.config = config)

/-- Nobody works on the Task any more: no handler and no bridge has it, and
each cancel of it and each reset has been answered. -/
def Rested (server : Server) (id : TaskId) : Prop :=
  (∀ name, ¬ server.Owns name id) ∧
    (∀ name canceling, server.threads name = some (.cancel canceling) →
      canceling.taskId = id → ∃ answer, canceling.pc = .returned answer) ∧
      ∀ name resetting, server.threads name = some (.reset resetting) →
        ∃ cleared canceled, resetting.pc = .returned cleared canceled

/-- The step takes an unfinished Task to the terminal `state`. -/
def Finishes (reached next : Server) (id : TaskId) (state : TaskState) :
    Prop :=
  (∃ binding, reached.shared.tasks.bindings id = some binding ∧
      binding.state.isTerminal = false) ∧
    (∃ binding, next.shared.tasks.bindings id = some binding ∧
      binding.state = state) ∧
      state.isTerminal = true

/-- Each configuration that was registered when a Task became terminal has one
job at most, and has it when nobody works on the Task any more. -/
def PushedOnce (json : SerdeJson) (cfg : ServeConfig) (init : Server)
    (trace : List Action) (server : Server) : Prop :=
  ∀ before action after reached next id state,
    trace = before ++ action :: after →
      exec (step json cfg) before init = some reached →
        step json cfg action reached = some next →
          Finishes reached next id state →
            ∀ config, config ∈ reached.shared.configs.listForTask id.text →
              (server.jobsFor config).length ≤ 1 ∧
                (server.Rested id →
                  ∃ now,
                    server.jobsFor config =
                      [{ config
                         payload :=
                          PushDelivery.buildStatusUpdatePayload id.text
                            (TaskRegistry.stateStr state) now }])

def Announces (server : Server) (name : Nat) (id : TaskId) : Prop :=
  ∃ handler, server.handlers name = some handler ∧
    handler.isAnnouncing = true ∧ handler.pc.task? = some id

/-- The steps that leave a registered configuration without its job: a Task
becomes terminal in the bridge of a stream, or by a cancel; or, before the
jobs of a terminal Task are queued, its handler is dropped, or a configuration
is deleted or replaced by another. -/
inductive Misses (server : Server) : Action → Prop
  | streams (name : Nat) (env : Env) (handler : Handler)
      (guarded : ConversationRef) (call : Bridge.Call) (status : TaskStatus)
      (binding : TaskBinding) (config : PushNotificationConfig)
      (found : server.handlers name = some handler)
      (forStream : handler.method = .stream)
      (atBridge : handler.pc = .bridging guarded call)
      (atFinish : call.pc = .finish status)
      (known : server.shared.tasks.bindings call.taskId = some binding)
      (legal : TaskRegistry.isLegal binding.state status.state = true)
      (registered :
        config ∈ server.shared.configs.listForTask call.taskId.text) :
      Misses server (.work name env)
  | cancels (name : Nat) (env : Env) (thread : Thread) (id : TaskId)
      (binding : TaskBinding) (config : PushNotificationConfig)
      (found : server.threads name = some thread)
      (asked : thread.cancels? = some id)
      (known : server.shared.tasks.bindings id = some binding)
      (active : binding.state.isTerminal = false)
      (registered : config ∈ server.shared.configs.listForTask id.text) :
      Misses server (.work name env)
  | drops (name : Nat) (id : TaskId) (config : PushNotificationConfig)
      (announces : server.Announces name id)
      (registered : config ∈ server.shared.configs.listForTask id.text) :
      Misses server (.drop name)
  | replaces (config other : PushNotificationConfig) (name : Nat)
      (id : TaskId) (announces : server.Announces name id)
      (registered : other ∈ server.shared.configs.listForTask id.text)
      (sameTask : id.text = config.taskId)
      (namesake : other.configId = config.configId)
      (different : other ≠ config) :
      Misses server (.putConfig config)
  | deletes (configId : String) (other : PushNotificationConfig) (name : Nat)
      (id : TaskId) (announces : server.Announces name id)
      (registered : other ∈ server.shared.configs.listForTask id.text)
      (named : other.configId = configId) :
      Misses server (.deleteConfig configId)

/-! ## What holds of the queue in every run -/

/-- Jobs are for finished Tasks that nobody works on any more. -/
structure Queued (server : Server) : Prop where
  indexed : server.shared.configs.Indexed
  finished : ∀ job, job ∈ server.shared.jobs →
    ∃ id binding, job.config.taskId = id.text ∧
      server.shared.tasks.bindings id = some binding ∧
        binding.state.isTerminal = true ∧ ∀ name, ¬ server.Owns name id

variable {json : SerdeJson} {cfg : ServeConfig} {server target : Server}
variable {shared after : Shared} {name tested : Nat} {handler : Handler}
variable {next : HandlerPc} {env : Env} {id : TaskId}

/-- What a handler's step does to the configurations and to the jobs. -/
theorem moves_jobs
    (moved : Handler.Moves json cfg name env handler shared next after) :
    after.configs = shared.configs ∧
      ((after.jobs = shared.jobs ∧
          ∀ guarded snap, handler.pc ≠ .push guarded snap) ∨
        ∃ guarded snap, handler.pc = .push guarded snap ∧
          next.task? = none ∧
            after.jobs =
              shared.jobs ++
                PushDelivery.jobsForTerminal shared.configs snap env.now) := by
  cases moved with
  | pushes guarded snap answer before =>
      exact ⟨rfl, .inr ⟨guarded, snap, before, rfl, rfl⟩⟩
  | _ =>
      refine ⟨rfl, .inl ⟨rfl, ?_⟩⟩
      intro guarded snap atPush
      simp_all [HandlerPc.isIdle]

/-! ### Steps and the queue -/

/-- Registrations keep the registry in order; other steps leave it alone. -/
theorem indexed_step
    {action : Action} (indexed : server.shared.configs.Indexed)
    (taken : step json cfg action server = some target) :
    target.shared.configs.Indexed := by
  cases step_steps taken with
  | keeps => exact indexed
  | spawns => exact indexed
  | prompts name env handler next after found moved =>
      rw [(moves_jobs moved).1]
      exact indexed
  | works name env thread next after found noHandler affected =>
      cases affected <;> exact indexed
  | drops => exact indexed
  | configures _ configs asked =>
      rcases asked with ⟨config, _, rfl⟩ | ⟨configId, _, rfl⟩
      · exact indexed.insert
      · exact indexed.delete configId
  | agent => exact indexed

/-- The jobs after a step are those before it, and those of the Task whose
handler makes its push. -/
theorem jobs_step
    {action : Action} (staged : Staged server)
    (taken : step json cfg action server = some target) :
    (target.shared.jobs = server.shared.jobs ∧
        ∀ name handler guarded snap, server.handlers name = some handler →
          handler.pc = .push guarded snap →
            target.handlers name = some handler) ∨
      ∃ name handler guarded snap now binding,
        server.handlers name = some handler ∧
          handler.pc = .push guarded snap ∧
          server.shared.tasks.bindings snap.id = some binding ∧
          binding.state.isTerminal = true ∧
          snap.status.state = binding.state ∧
          (∀ tested, ¬ target.Owns tested snap.id) ∧
          (∀ tested, tested ≠ name →
            target.handlers tested = server.handlers tested) ∧
          target.shared.jobs =
            server.shared.jobs ++
              PushDelivery.jobsForTerminal server.shared.configs snap now := by
  have ofOther : ∀ changed,
      (∀ tested, tested ≠ changed →
        target.handlers tested = server.handlers tested) →
        (∀ handler guarded snap, server.handlers changed = some handler →
          handler.pc ≠ .push guarded snap) →
          ∀ name handler guarded snap, server.handlers name = some handler →
            handler.pc = .push guarded snap →
              target.handlers name = some handler := by
    intro changed others notPush name handler guarded snap found atPush
    by_cases same : name = changed
    · subst same
      exact absurd atPush (notPush handler guarded snap found)
    · exact (others name same).trans found
  cases step_steps taken with
  | keeps => exact .inl ⟨rfl, fun _ _ _ _ found _ => found⟩
  | configures => exact .inl ⟨rfl, fun _ _ _ _ found _ => found⟩
  | agent => exact .inl ⟨rfl, fun _ _ _ _ found _ => found⟩
  | spawns _ name thread free =>
      refine .inl ⟨rfl, ofOther name
        (fun tested different => handlers_put_other different) ?_⟩
      intro handler guarded snap found
      rw [handlers_of_free free] at found
      cases found
  | works name env thread next after found noHandler affected =>
      have sameJobs : after.jobs = server.shared.jobs := by
        cases affected <;> rfl
      refine .inl ⟨sameJobs, ofOther name
        (fun tested different => handlers_put_other different) ?_⟩
      intro handler guarded snap isPrompt
      rw [handlers_of_found found, noHandler.1] at isPrompt
      cases isPrompt
  | drops name handler found _ awaiting =>
      refine .inl ⟨rfl, ofOther name
        (fun tested different => handlers_put_other different) ?_⟩
      intro other guarded snap foundOther atPush
      rw [handlers_of_found found] at foundOther
      cases foundOther
      rw [atPush] at awaiting
      cases awaiting
  | prompts name env handler next after found moved =>
      have isOwn := handlers_of_found found
      rcases (moves_jobs moved).2 with
        ⟨same, notPush⟩ | ⟨guarded, snap, before, gone, added⟩
      · refine .inl ⟨same, ofOther name
          (fun tested different => handlers_put_other different) ?_⟩
        intro other guarded snap foundOther
        rw [isOwn] at foundOther
        cases foundOther
        exact notPush guarded snap
      · have owned : handler.pc.task? = some snap.id := by
          rw [before]
          rfl
        obtain ⟨binding, known, stage⟩ :=
          staged.stage name handler snap.id isOwn owned
        rw [before] at stage
        refine .inr ⟨name, handler, guarded, snap, env.now, binding, isOwn,
          before, known, stage.1, stage.2, ?_,
          fun tested different => handlers_put_other different, added⟩
        intro tested owns
        rcases owns with ⟨other, foundOther, ownsOther⟩
        by_cases same : tested = name
        · subst same
          rw [handlers_put_self] at foundOther
          cases foundOther
          rw [gone] at ownsOther
          cases ownsOther
        · rw [handlers_put_other same] at foundOther
          exact same
            (staged.alone tested name snap.id ⟨other, foundOther, ownsOther⟩
              ⟨handler, isOwn, owned⟩)

theorem Queued.step
    {action : Action} (queued : Queued server) (staged : Staged server)
    (taken : step json cfg action server = some target) :
    Queued target where
  indexed := indexed_step queued.indexed taken
  finished := by
    intro job member
    have ofOld : job ∈ server.shared.jobs →
        ∃ id binding, job.config.taskId = id.text ∧
          target.shared.tasks.bindings id = some binding ∧
            binding.state.isTerminal = true ∧
              ∀ name, ¬ target.Owns name id := by
      intro old
      obtain ⟨id, binding, named, known, terminal, unowned⟩ :=
        queued.finished job old
      obtain ⟨later, knownLater, same⟩ := known_stays staged taken known
      refine ⟨id, later, named, knownLater, ?_,
        unowned_stays staged taken known unowned⟩
      rw [same terminal]
      exact terminal
    rcases jobs_step staged taken with ⟨same, _⟩ |
      ⟨name, handler, guarded, snap, now, binding, isOwn, before, known,
        terminal, stored, unowned, others, added⟩
    · rw [same] at member
      exact ofOld member
    · rw [added] at member
      rcases List.mem_append.mp member with old | new
      · exact ofOld old
      · obtain ⟨later, knownLater, same⟩ := known_stays staged taken known
        refine ⟨snap.id, later, ?_, knownLater, ?_, unowned⟩
        · exact (queued.indexed snap.id.text).1 _
            (PushDelivery.config_of_mem_jobs new)
        · rw [same terminal]
          exact terminal

theorem queued_start
    (maxActive idleWindow now : Nat) (loaded : List (String × SessionId)) :
    Queued (start maxActive idleWindow now loaded) where
  indexed := PushConfigRegistry.indexed_empty
  finished := by
    intro job member
    cases member

/-- Nothing has been queued for a Task that somebody owns, or that is not
finished. -/
theorem Queued.jobsFor_nil
    {binding : TaskBinding} {config : PushNotificationConfig}
    (queued : Queued server)
    (known : server.shared.tasks.bindings id = some binding)
    (unpushed : binding.state.isTerminal = false ∨ ∃ name, server.Owns name id)
    (named : config.taskId = id.text) :
    server.jobsFor config = [] := by
  apply List.filter_eq_nil_iff.mpr
  intro job member isJob
  obtain ⟨other, otherBinding, namedOther, knownOther, terminal, unowned⟩ :=
    queued.finished job member
  rw [of_decide_eq_true isJob, named] at namedOther
  have same : id = other := TaskId.eq_of_text namedOther
  subst same
  rw [known] at knownOther
  cases knownOther
  rcases unpushed with active | ⟨name, owns⟩
  · rw [active] at terminal
    cases terminal
  · exact unowned name owns

/-- Jobs of one Task do not count for another. -/
theorem jobsFor_other
    {configs : PushConfigRegistry} {snap : Task} {now : Int}
    {config : PushNotificationConfig} (indexed : configs.Indexed)
    (different : config.taskId ≠ snap.id.text) :
    (PushDelivery.jobsForTerminal configs snap now).filter
        (fun job => decide (job.config = config)) = [] := by
  apply List.filter_eq_nil_iff.mpr
  intro job member isJob
  apply different
  rw [← of_decide_eq_true isJob]
  exact (indexed snap.id.text).1 _ (PushDelivery.config_of_mem_jobs member)

/-! ## From the terminal state to the job -/

/-- What holds of a configuration from the terminal transition on. -/
structure Follows (id : TaskId) (state : TaskState)
    (config : PushNotificationConfig) (server : Server) : Prop where
  known : ∃ binding, server.shared.tasks.bindings id = some binding ∧
    binding.state = state
  terminal : state.isTerminal = true
  named : config.taskId = id.text
  phase :
    (∃ name, server.Announces name id ∧
        config ∈ server.shared.configs.listForTask id.text ∧
        server.jobsFor config = []) ∨
      ((∀ name, ¬ server.Owns name id) ∧
        ∃ now, server.jobsFor config =
          [{ config
             payload :=
              PushDelivery.buildStatusUpdatePayload id.text
                (TaskRegistry.stateStr state) now }])

variable {state : TaskState} {config : PushNotificationConfig}

theorem Announces.owns (announces : server.Announces name id) :
    server.Owns name id := by
  rcases announces with ⟨handler, found, _, owned⟩
  exact ⟨handler, found, owned⟩

/-- Where a handler that announces can stand. -/
theorem isAnnouncing_cases (announcing : handler.isAnnouncing = true) :
    (handler.method = .send ∧
        ((∃ guarded call, handler.pc = .bridging guarded call ∧
            call.isSettling = true) ∨
          ∃ guarded taskId, handler.pc = .snapshot guarded taskId)) ∨
      ∃ guarded snap, handler.pc = .push guarded snap := by
  unfold Handler.isAnnouncing at announcing
  split at announcing
  · rename_i guarded call forSend before
    exact .inl ⟨forSend, .inl ⟨guarded, call, before, announcing⟩⟩
  · rename_i guarded taskId forSend before
    exact .inl ⟨forSend, .inr ⟨guarded, taskId, before⟩⟩
  · rename_i guarded snap forSend before
    exact .inr ⟨guarded, snap, before⟩
  · cases announcing

/-- A handler whose bridge has settled goes on to its snapshot. -/
theorem moves_settling
    {guarded : ConversationRef} {call : Bridge.Call}
    (moved : Handler.Moves json cfg name env handler shared next after)
    (sound : call.Sound)
    (atBridge : handler.pc = .bridging guarded call)
    (forSend : handler.method = .send) (settling : call.isSettling = true) :
    Handler.isAnnouncing { handler with pc := next } = true ∧
      next.task? = some call.taskId ∧ after.jobs = shared.jobs := by
  have notNext : call.pc ≠ .next := by
    intro atNext
    unfold Bridge.Call.isSettling at settling
    rw [atNext] at settling
    cases settling
  cases moved with
  | bridges held working stepped tasks before worked =>
      rw [atBridge] at before
      cases before
      have sameTask := (Bridge.work_stepped sound worked).taskId
      refine ⟨?_, congrArg some sameTask, rfl⟩
      unfold Handler.isAnnouncing
      rw [forSend]
      exact Bridge.work_isSettling settling worked
  | polls held polling stream item acp before atNext =>
      rw [atBridge] at before
      cases before
      exact absurd atNext notNext
  | ends held polling before atNext =>
      rw [atBridge] at before
      cases before
      exact absurd atNext notNext
  | leaves held leaving result answer before atReturn unannounced =>
      rw [atBridge] at before
      cases before
      unfold Bridge.Call.isSettling at settling
      rw [atReturn] at settling
      rcases result with error | ⟨⟩
      · cases settling
      · have forStream := unannounced rfl
        rw [forSend] at forStream
        cases forStream
  | settles held settled before atReturn =>
      rw [atBridge] at before
      cases before
      refine ⟨?_, rfl, rfl⟩
      unfold Handler.isAnnouncing
      rw [forSend]
  | _ => simp_all [HandlerPc.isIdle]

/-- A handler that takes the snapshot of a finished Task goes on to its
push. -/
theorem moves_snapshot
    {guarded : ConversationRef} {binding : TaskBinding}
    (moved : Handler.Moves json cfg name env handler shared next after)
    (atSnapshot : handler.pc = .snapshot guarded id)
    (forSend : handler.method = .send)
    (known : shared.tasks.bindings id = some binding)
    (terminal : binding.state.isTerminal = true) :
    Handler.isAnnouncing { handler with pc := next } = true ∧
      next.task? = some id ∧ after.jobs = shared.jobs := by
  cases moved with
  | answers held taskId answer before unfinished =>
      rw [atSnapshot] at before
      cases before
      have active := unfinished binding known
      rw [terminal] at active
      cases active
  | announces held taskId other before found =>
      rw [atSnapshot] at before
      cases before
      refine ⟨?_, rfl, rfl⟩
      unfold Handler.isAnnouncing
      rw [forSend]
  | _ => simp_all [HandlerPc.isIdle]

/-- A handler that announces comes closer to its push, or makes it. -/
theorem moves_announcing
    {binding : TaskBinding}
    (moved : Handler.Moves json cfg name env handler shared next after)
    (sound : ∀ guarded call, handler.pc = .bridging guarded call → call.Sound)
    (announcing : handler.isAnnouncing = true)
    (owned : handler.pc.task? = some id)
    (known : shared.tasks.bindings id = some binding)
    (terminal : binding.state.isTerminal = true) :
    (Handler.isAnnouncing { handler with pc := next } = true ∧
        next.task? = some id ∧ after.jobs = shared.jobs) ∨
      ∃ guarded snap, handler.pc = .push guarded snap := by
  rcases isAnnouncing_cases announcing with
    ⟨forSend, ⟨guarded, call, atBridge, settling⟩ | ⟨guarded, taskId, atSnapshot⟩⟩ |
    atPush
  · rw [atBridge] at owned
    cases owned
    exact .inl
      (moves_settling moved (sound guarded call atBridge) atBridge forSend
        settling)
  · rw [atSnapshot] at owned
    cases owned
    exact .inl (moves_snapshot moved atSnapshot forSend known terminal)
  · exact .inr atPush

/-- A handler that announces keeps on doing so until its push. -/
theorem announces_step
    {action : Action} {binding : TaskBinding} (staged : Staged server)
    (announces : server.Announces name id)
    (known : server.shared.tasks.bindings id = some binding)
    (terminal : binding.state.isTerminal = true)
    (registered : config ∈ server.shared.configs.listForTask id.text)
    (kept : ¬ Misses server action)
    (taken : step json cfg action server = some target) :
    target.Announces name id ∨
      ∃ handler guarded snap, server.handlers name = some handler ∧
        handler.pc = .push guarded snap := by
  rcases announces with ⟨handler, found, announcing, owned⟩
  have ofSame : target.handlers name = server.handlers name →
      target.Announces name id :=
    fun same => ⟨handler, same.trans found, announcing, owned⟩
  cases step_steps taken with
  | keeps => exact .inl (ofSame rfl)
  | configures => exact .inl (ofSame rfl)
  | agent => exact .inl (ofSame rfl)
  | spawns _ other thread free =>
      have different : name ≠ other := by
        intro isSame
        subst isSame
        rw [handlers_of_free free] at found
        cases found
      exact .inl (ofSame (handlers_put_other different))
  | works other env thread next after foundThread noHandler =>
      have different : name ≠ other := by
        intro isSame
        subst isSame
        rw [handlers_of_found foundThread, noHandler.1] at found
        cases found
      exact .inl (ofSame (handlers_put_other different))
  | drops other =>
      have different : name ≠ other := by
        intro isSame
        subst isSame
        apply kept
        exact .drops name id config ⟨handler, found, announcing, owned⟩
          registered
      exact .inl (ofSame (handlers_put_other different))
  | prompts other env mover next after foundThread moved =>
      by_cases same : name = other
      · subst same
        rw [handlers_of_found foundThread] at found
        cases found
        have isOwn := handlers_of_found foundThread
        rcases moves_announcing moved
            (fun guarded call => staged.sound name _ guarded call isOwn)
            announcing owned known terminal with
          ⟨still, ownsStill, _⟩ | ⟨guarded, snap, atPush⟩
        · exact .inl ⟨_, handlers_put_self, still, ownsStill⟩
        · exact .inr ⟨_, guarded, snap, isOwn, atPush⟩
      · exact .inl (ofSame (handlers_put_other same))

theorem registered_step
    {action : Action} (announces : server.Announces name id)
    (registered : config ∈ server.shared.configs.listForTask id.text)
    (kept : ¬ Misses server action)
    (taken : step json cfg action server = some target) :
    config ∈ target.shared.configs.listForTask id.text := by
  cases step_steps taken with
  | keeps => exact registered
  | spawns => exact registered
  | prompts other env handler next after found moved =>
      rw [(moves_jobs moved).1]
      exact registered
  | works other env thread next after found noHandler affected =>
      cases affected <;> exact registered
  | drops => exact registered
  | agent => exact registered
  | configures _ configs asked =>
      rcases asked with ⟨put, rfl, rfl⟩ | ⟨configId, rfl, rfl⟩
      · apply PushConfigRegistry.mem_insert registered
        intro sameTask namesake
        by_contra different
        apply kept
        exact .replaces put config name id announces registered sameTask namesake
          different
      · apply PushConfigRegistry.mem_delete registered
        intro isNamed
        apply kept
        exact .deletes configId config name id announces registered isNamed

/-- Jobs are queued for one Task at a time. -/
theorem jobsFor_append
    {snap : Task} {now : Int}
    (indexed : server.shared.configs.Indexed)
    (added : target.shared.jobs =
      server.shared.jobs ++
        PushDelivery.jobsForTerminal server.shared.configs snap now)
    (different : config.taskId ≠ snap.id.text) :
    target.jobsFor config = server.jobsFor config := by
  unfold jobsFor
  rw [added, List.filter_append, jobsFor_other indexed different,
    List.append_nil]

theorem Follows.step
    {action : Action} (follows : Follows id state config server)
    (queued : Queued server) (staged : Staged server)
    (kept : ¬ Misses server action)
    (taken : step json cfg action server = some target) :
    Follows id state config target := by
  rcases follows with ⟨⟨binding, known, isState⟩, terminal, named, phase⟩
  have wasTerminal : binding.state.isTerminal = true := by
    rw [isState]
    exact terminal
  obtain ⟨later, knownLater, same⟩ := known_stays staged taken known
  refine ⟨⟨later, knownLater, (same wasTerminal).trans isState⟩, terminal,
    named, ?_⟩
  rcases phase with ⟨name, announces, registered, unpushed⟩ |
    ⟨unowned, now, pushed⟩
  · have stays := announces_step staged announces known wasTerminal registered
      kept taken
    have registeredLater := registered_step announces registered kept taken
    rcases jobs_step staged taken with ⟨sameJobs, atPush⟩ |
      ⟨pusher, handler, guarded, snap, now, pushedBinding, isOwn, before,
        knownPushed, _, stored, unowned, others, added⟩
    · have unpushedLater : target.jobsFor config = [] := by
        unfold jobsFor
        rw [sameJobs]
        exact unpushed
      refine .inl ⟨name, ?_, registeredLater, unpushedLater⟩
      rcases stays with still | ⟨handler, guarded, snap, found, isPush⟩
      · exact still
      · rcases announces with ⟨other, foundOther, announcing, owned⟩
        rw [found] at foundOther
        cases foundOther
        exact ⟨handler, atPush name handler guarded snap found isPush,
          announcing, owned⟩
    · have ownsPushed : server.Owns pusher snap.id :=
        ⟨handler, isOwn, by rw [before]; rfl⟩
      by_cases sameTask : snap.id = id
      · subst sameTask
        rw [known] at knownPushed
        cases knownPushed
        refine .inr ⟨unowned, now, ?_⟩
        have terminalSnap : snap.status.state.isTerminal = true := by
          rw [stored]
          exact wasTerminal
        have jobs :=
          PushDelivery.jobsForTerminal_of_mem now queued.indexed
            terminalSnap registered
        unfold jobsFor at unpushed ⊢
        rw [added, List.filter_append, unpushed, jobs, stored, isState]
        rfl
      · have different : config.taskId ≠ snap.id.text := by
          rw [named]
          exact fun sameText =>
            sameTask (TaskId.eq_of_text sameText.symm)
        have notPusher : name ≠ pusher := by
          intro isSame
          subst isSame
          rcases announces with ⟨other, foundOther, _, owned⟩
          rw [isOwn] at foundOther
          cases foundOther
          rw [before] at owned
          exact sameTask (Option.some.inj owned)
        refine .inl ⟨name, ?_, registeredLater,
          (jobsFor_append queued.indexed added different).trans unpushed⟩
        rcases announces with ⟨other, foundOther, announcing, owned⟩
        exact ⟨other, (others name notPusher).trans foundOther, announcing,
          owned⟩
  · refine .inr ⟨unowned_stays staged taken known unowned, now, ?_⟩
    rcases jobs_step staged taken with ⟨sameJobs, _⟩ |
      ⟨pusher, handler, guarded, snap, _, _, isOwn, before, _, _, _, _, _,
        added⟩
    · unfold jobsFor
      rw [sameJobs]
      exact pushed
    · have different : config.taskId ≠ snap.id.text := by
        rw [named]
        intro sameText
        have sameTask := TaskId.eq_of_text sameText
        subst sameTask
        exact unowned pusher ⟨handler, isOwn, by rw [before]; rfl⟩
      exact (jobsFor_append queued.indexed added different).trans pushed

/-- Steps that keep the state of a Task do not finish it. -/
theorem not_finishes_of_same
    (same : ∀ binding, server.shared.tasks.bindings id = some binding →
      target.shared.tasks.bindings id = some binding) :
    ¬ Finishes server target id state := by
  intro finishes
  rcases finishes with
    ⟨⟨binding, known, active⟩, ⟨later, knownLater, isState⟩, terminal⟩
  rw [same binding known] at knownLater
  cases knownLater
  rw [← isState, active] at terminal
  cases terminal

/-- A Task that finishes without a miss has a handler that announces it. -/
theorem finishes_announces
    {action : Action} (staged : Staged server)
    (registered : config ∈ server.shared.configs.listForTask id.text)
    (kept : ¬ Misses server action)
    (taken : step json cfg action server = some target)
    (finishes : Finishes server target id state) :
    ∃ name, target.Announces name id ∧
      target.shared.configs = server.shared.configs := by
  cases step_steps taken with
  | keeps => exact absurd finishes (not_finishes_of_same fun _ known => known)
  | spawns => exact absurd finishes (not_finishes_of_same fun _ known => known)
  | drops => exact absurd finishes (not_finishes_of_same fun _ known => known)
  | configures =>
      exact absurd finishes (not_finishes_of_same fun _ known => known)
  | agent => exact absurd finishes (not_finishes_of_same fun _ known => known)
  | works name env thread next after found noHandler affected =>
      cases affected with
      | keeps =>
          exact absurd finishes (not_finishes_of_same fun _ known => known)
      | submits =>
          exact absurd finishes (not_finishes_of_same fun _ known => known)
      | removes =>
          exact absurd finishes (not_finishes_of_same fun _ known => known)
      | cancels canceled tasks asked done =>
          obtain ⟨before, foundTask, active, rfl⟩ :=
            TaskRegistry.cancel_ok_iff.mp done
          by_cases same : id = canceled
          · subst same
            have misses : Misses server (.work name env) :=
              .cancels name env thread id before config found asked foundTask
                active registered
            exact absurd misses kept
          · exact absurd finishes
              (not_finishes_of_same fun _ known =>
                (TaskRegistry.put_other same).trans known)
  | prompts name env handler next after found moved =>
      have isOwn := handlers_of_found found
      have taskMove := Handler.moves_tasks moved
      generalize tasksAre : after.tasks = tasks at taskMove
      have changes :
          ¬ ∀ binding, server.shared.tasks.bindings id = some binding →
            tasks.bindings id = some binding := by
        intro same
        apply not_finishes_of_same ?_ finishes
        intro binding known
        have still := same binding known
        rw [← tasksAre] at still
        exact still
      cases taskMove with
      | keeps => exact absurd (fun _ known => known) changes
      | creates session guarded before unknown =>
          apply absurd ?_ changes
          intro binding known
          have different : id ≠ env.taskId := by
            intro isSame
            subst isSame
            rw [unknown] at known
            cases known
          exact (TaskRegistry.create_other different).trans known
      | resumes existing _ accepted =>
          exact absurd accepted (staged.not_resumed existing)
      | bridges guarded call worker _ before worked isBridging =>
          have sound := staged.sound name handler guarded call isOwn before
          have stepped := Bridge.work_stepped sound worked
          by_cases same : id = call.taskId
          · subst same
            obtain ⟨⟨binding, known, active⟩, ⟨later, knownLater, isState⟩,
              terminal⟩ := finishes
            have foundLater : after.tasks.bindings call.taskId = some later :=
              knownLater
            rw [tasksAre] at foundLater
            obtain ⟨closing, status, atFinish, legal⟩ :=
              Bridge.work_decides known sound worked foundLater active
                (isState ▸ terminal)
            cases isMethod : handler.method with
            | stream =>
                have misses : Misses server (.work name env) :=
                  .streams name env handler guarded call status binding config
                    isOwn isMethod before atFinish known legal registered
                exact absurd misses kept
            | send =>
                refine ⟨name, ⟨_, handlers_put_self, ?_, ?_⟩,
                  (moves_jobs moved).1⟩
                · rw [isBridging]
                  unfold Handler.isAnnouncing
                  exact Bridge.isSettling_of_closing closing
                · rw [isBridging]
                  exact congrArg some stepped.taskId
          · apply absurd ?_ changes
            intro binding known
            exact (stepped.frame.others id same).trans known

/-- A configuration is followed from the terminal transition on. -/
theorem follows_of_finishes
    {action : Action} (queued : Queued server) (staged : Staged server)
    (registered : config ∈ server.shared.configs.listForTask id.text)
    (kept : ¬ Misses server action)
    (taken : step json cfg action server = some target)
    (finishes : Finishes server target id state) :
    Follows id state config target := by
  obtain ⟨name, announces, sameConfigs⟩ :=
    finishes_announces staged registered kept taken finishes
  have named := (queued.indexed id.text).1 config registered
  have queuedLater := queued.step staged taken
  rcases finishes.2.1 with ⟨later, knownLater, isState⟩
  refine ⟨finishes.2.1, finishes.2.2, named, .inl ⟨name, announces, ?_, ?_⟩⟩
  · rw [sameConfigs]
    exact registered
  · exact queuedLater.jobsFor_nil knownLater (.inr ⟨name, announces.owns⟩) named

/-- A followed configuration has one job at most, and has it in the end. -/
theorem Follows.once (follows : Follows id state config server) :
    (server.jobsFor config).length ≤ 1 ∧
      (server.Rested id →
        ∃ now,
          server.jobsFor config =
            [{ config
               payload :=
                PushDelivery.buildStatusUpdatePayload id.text
                  (TaskRegistry.stateStr state) now }]) := by
  rcases follows.phase with ⟨name, announces, _, unpushed⟩ | ⟨_, now, pushed⟩
  · constructor
    · rw [unpushed]
      exact Nat.zero_le 1
    · intro rested
      exact absurd announces.owns (rested.1 name)
  · constructor
    · rw [pushed]
      exact Nat.le_refl 1
    · intro _
      exact ⟨now, pushed⟩

/-- Whenever no step misses a configuration, each one that was registered when
its Task became terminal gets its job exactly once. -/
theorem unmissed_configs_pushed_once
    {maxActive idleWindow now : Nat} {loaded : List (String × SessionId)}
    {trace : List Action}
    (run : Run (step json cfg)
      (fun reached action => ¬ Misses reached action)
      (start maxActive idleWindow now loaded) trace server) :
    PushedOnce json cfg (start maxActive idleWindow now loaded) trace
      server := by
  intro before action later reached next id state whole toReached taken
    finishes config registered
  subst whole
  rcases run.split with ⟨middle, toMiddle, fromMiddle⟩
  have sameMiddle := toMiddle.exec_eq.symm.trans toReached
  cases sameMiddle
  have invariants : Queued reached ∧ Staged reached :=
    toMiddle.invariant (fun tested => Queued tested ∧ Staged tested)
      ⟨queued_start maxActive idleWindow now loaded,
        staged_start maxActive idleWindow now loaded⟩
      fun _ _ _ holds _ moved =>
        ⟨holds.1.step holds.2 moved, holds.2.step moved⟩
  have oneByOne :
      Run (step json cfg) (fun tested action => ¬ Misses tested action) reached
        (([] ++ [action]) ++ later) server := fromMiddle
  rcases oneByOne.split with ⟨target, toTarget, fromTarget⟩
  rcases toTarget.of_snoc with ⟨source, atSource, kept, moved⟩
  have sameSource := atSource.exec_eq
  cases sameSource
  have sameTarget := moved.symm.trans taken
  cases sameTarget
  have followed : Follows id state config server ∧ Queued server ∧
      Staged server :=
    fromTarget.invariant
      (fun tested => Follows id state config tested ∧ Queued tested ∧
        Staged tested)
      ⟨follows_of_finishes invariants.1 invariants.2 registered kept taken
          finishes,
        invariants.1.step invariants.2 taken, invariants.2.step taken⟩
      fun _ _ _ holds permitted stepped =>
        ⟨holds.1.step holds.2.1 holds.2.2 permitted stepped,
          holds.2.1.step holds.2.2 stepped, holds.2.2.step stepped⟩
  exact followed.1.once

/-- A handler that announces is never held up. -/
theorem announcer_can_work
    (staged : Staged server) (announces : server.Announces name id)
    (env : Env) :
    ∃ later, step json cfg (.work name env) server = some later := by
  rcases announces with ⟨handler, found, announcing, owned⟩
  obtain ⟨thread, foundThread, isPrompt⟩ := Option.bind_eq_some_iff.mp found
  cases thread with
  | prompt own =>
      cases isPrompt
      suffices works : (handler.work json cfg name env server.shared).isSome by
        obtain ⟨moved, worked⟩ := Option.isSome_iff_exists.mp works
        refine ⟨{ shared := moved.2
                  threads :=
                    server.threads.put name
                      (.prompt { handler with pc := moved.1 }) }, ?_⟩
        simp [Server.step, foundThread, workThread, worked]
      unfold Handler.work
      rcases isAnnouncing_cases announcing with
        ⟨forSend, ⟨guarded, call, atBridge, settling⟩ |
          ⟨guarded, taskId, atSnapshot⟩⟩ | ⟨guarded, snap, atPush⟩
      · rw [atBridge]
        unfold Bridge.Call.isSettling at settling
        unfold Handler.bridge
        split at settling
        · rename_i status atPc
          simp [atPc, Bridge.Call.work]
        · rename_i status atPc
          simp [atPc, Bridge.Call.work]
        · rename_i atPc
          simp [atPc, forSend]
        · cases settling
      · rw [atSnapshot] at owned ⊢
        cases owned
        obtain ⟨binding, known, terminal⟩ :=
          staged.stage name handler id found (by rw [atSnapshot]; rfl)
        simp only
        split
        · rfl
        · split <;> rfl
      · rw [atPush]
        rfl
  | _ => cases isPrompt

/-- A test that only lets through steps that miss no configuration: nothing is
dropped, deleted or canceled, no stream finishes a Task, and each Task gets
one configuration. -/
def isComplete (server : Server) : Action → Bool
  | .work name _ =>
      match server.threads name with
      | some (.prompt handler) =>
          match handler.method, handler.pc with
          | .stream, .bridging _ _ => false
          | _, _ => true
      | some thread => thread.cancels?.isNone
      | none => true
  | .drop _ => false
  | .putConfig config =>
      (server.shared.configs.listForTask config.taskId).isEmpty
  | .deleteConfig _ => false
  | _ => true

theorem isComplete_sound
    (action : Action) (complete : isComplete server action = true) :
    ¬ Misses server action := by
  intro misses
  cases misses with
  | streams name env handler guarded call status binding config found forStream
      atBridge =>
      obtain ⟨thread, foundThread, isPrompt⟩ :=
        Option.bind_eq_some_iff.mp found
      cases thread with
      | prompt own =>
          cases isPrompt
          simp [isComplete, foundThread, forStream, atBridge] at complete
      | _ => cases isPrompt
  | cancels name env thread id binding config found asked =>
      cases thread with
      | prompt handler => cases asked
      | _ => simp [isComplete, found, asked] at complete
  | drops => cases complete
  | deletes => cases complete
  | replaces config other name id announces registered sameTask =>
      rw [sameTask] at registered
      simp only [isComplete, List.isEmpty_iff] at complete
      rw [complete] at registered
      cases registered

/-- A configuration for the Task `t`. -/
def plainPush : PushNotificationConfig :=
  { configId := "p", taskId := "t", url := "https://example.com/"
    token := none, authScheme := none, authCredentials := none
    tenant := none }

/-- A turn of `SendMessage`, for whose Task a configuration is registered in
the middle. -/
theorem finished_turn_pushes_once :
    ∃ json cfg trace server,
      exec (step json cfg) trace (start 10 60 0 []) = some server ∧
        server.shared.jobs.length = 1 ∧
          PushedOnce json cfg (start 10 60 0 []) trace server := by
  let work : Action := .work 0 { now := 0, taskId := ⟨"t"⟩ }
  let trace : List Action :=
    [.request 0 .send plainParams none, work, work, work, .acp .receive,
      .acp (.answer (.session "s")), work, work, work, work, work,
      .putConfig plainPush, work, work, work, .acp .receive,
      .acp (.answer (.stopped .endTurn)), .acp .sendTerminal, .acp .clearRoute,
      work, work, work, work, work, work, work, work, work, work, work]
  obtain ⟨server, tested⟩ : ∃ server,
      execTested (step .constant plainConfig) isComplete trace
        (start 10 60 0 []) = some server :=
    ⟨_, rfl⟩
  have run :=
    run_of_execTested
      (fun reached action complete => isComplete_sound action complete) tested
  refine ⟨.constant, plainConfig, trace, server, run.exec_eq, ?_,
    unmissed_configs_pushed_once run⟩
  cases tested
  rfl

/-- `CancelTask` makes a Task terminal, and nothing is queued for its
configuration. -/
theorem canceled_task_is_not_pushed :
    ¬ ∀ json cfg trace server,
        Run (step json cfg) free (start 10 60 0 []) trace server →
          PushedOnce json cfg (start 10 60 0 []) trace server := by
  intro claimed
  let env : Env := { now := 0, taskId := ⟨"t"⟩ }
  let work : Action := .work 0 env
  let cancel : Action := .work 1 env
  let before : List Action :=
    [.request 0 .send plainParams none, work, work, work, .acp .receive,
      .acp (.answer (.session "s")), work, work, work, work, work,
      .putConfig plainPush, work, work, work, .acp .receive, work,
      .cancelTask 1 ⟨"t"⟩]
  let after : List Action :=
    [cancel, cancel, .acp (.answer (.stopped .cancelled)), .acp .sendTerminal,
      .acp .clearRoute, .acp .receive, cancel, cancel, work, work, work]
  obtain ⟨reached, executed⟩ : ∃ reached,
      exec (step .constant plainConfig) before (start 10 60 0 []) =
        some reached :=
    ⟨_, rfl⟩
  obtain ⟨next, taken⟩ : ∃ next,
      step .constant plainConfig cancel reached = some next := by
    cases executed
    exact ⟨_, rfl⟩
  obtain ⟨server, ended⟩ : ∃ server,
      exec (step .constant plainConfig) after next = some server := by
    cases executed
    cases taken
    exact ⟨_, rfl⟩
  have whole :
      exec (step .constant plainConfig) (before ++ cancel :: after)
        (start 10 60 0 []) = some server := by
    rw [exec_append, executed]
    simp only [exec, Option.bind_some, taken, ended]
  have finishes : Finishes reached next ⟨"t"⟩ .canceled := by
    cases executed
    cases taken
    exact ⟨⟨_, rfl, rfl⟩, ⟨_, rfl, rfl⟩, rfl⟩
  have registered :
      plainPush ∈ reached.shared.configs.listForTask "t" := by
    cases executed
    exact List.mem_singleton.mpr rfl
  have answered : ∀ name thread, server.threads name = some thread →
      (∃ handler, thread = .prompt handler ∧ handler.pc.task? = none) ∨
        ∃ canceling, thread = .cancel canceling ∧
          ∃ answer, canceling.pc = .returned answer := by
    intro name thread found
    by_cases isFirst : name = 0
    · subst isFirst
      cases executed
      cases taken
      cases ended
      cases found
      exact .inl ⟨_, rfl, rfl⟩
    · by_cases isSecond : name = 1
      · subst isSecond
        cases executed
        cases taken
        cases ended
        cases found
        exact .inr ⟨_, rfl, _, rfl⟩
      · cases executed
        cases taken
        cases ended
        simp [Pool.put, Pool.empty, start, isFirst, isSecond] at found
  have rested : server.Rested ⟨"t"⟩ := by
    refine ⟨?_, ?_, ?_⟩
    · intro name owns
      rcases owns with ⟨handler, found, owned⟩
      obtain ⟨thread, foundThread, isPrompt⟩ :=
        Option.bind_eq_some_iff.mp found
      rcases answered name thread foundThread with
        ⟨other, rfl, unowned⟩ | ⟨canceling, rfl, _⟩
      · cases isPrompt
        rw [unowned] at owned
        cases owned
      · cases isPrompt
    · intro name canceling found _
      rcases answered name _ found with ⟨_, isOther, _⟩ | ⟨_, isOwn, answer⟩
      · cases isOther
      · cases isOwn
        exact answer
    · intro name resetting found
      rcases answered name _ found with ⟨_, isOther, _⟩ | ⟨_, isOther, _⟩
      · cases isOther
      · cases isOther
  obtain ⟨now, pushed⟩ :=
    (claimed .constant plainConfig _ server (run_of_exec whole) before cancel
      after reached next ⟨"t"⟩ .canceled rfl executed taken finishes plainPush
      registered).2 rested
  have unpushed : server.jobsFor plainPush = [] := by
    cases executed
    cases taken
    cases ended
    rfl
  rw [unpushed] at pushed
  cases pushed

end Server

end A2AShim
