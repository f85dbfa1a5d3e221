import A2AShim.Serve.ServerSteps

/-!
# The map under the handlers

What a step of the server does to one handler on the way to its guard, and
what it does to the conversation map for all others.
-/

namespace A2AShim

namespace Handler

variable {json : SerdeJson} {cfg : ServeConfig} {name : Nat} {env : Env}
variable {handler : Handler} {shared after : Shared} {next : HandlerPc}

theorem work_opening
    (unguarded : handler.pc.guard? = none)
    (taken : handler.work json cfg name env shared = some (next, after)) :
    Opening cfg name env handler shared next after := by
  apply open_opening
  cases atPc : handler.pc <;> rw [atPc] at unguarded
  case enter | record | dispatch | sendPrompt | fetchSink | bridging
    | snapshot | push => cases unguarded
  all_goals simpa only [work, atPc] using taken

theorem isIdle_of_guard
    {pc : HandlerPc} {guarded : ConversationRef}
    (isGuarded : pc.guard? = some guarded) :
    pc.isIdle = false := by
  cases pc <;> first | rfl | cases isGuarded

/-- A handler that has its guard either keeps it and leaves the map alone, or
drops it and returns. -/
theorem guarded_cases
    {guarded : ConversationRef} (isGuarded : handler.pc.guard? = some guarded)
    (moved : Moves json cfg name env handler shared next after) :
    (next.guard? = some guarded ∧
        after.conversations = shared.conversations) ∨
      (∃ answer, next = .returned answer) ∧
        after.conversations = shared.conversations.release guarded := by
  have unguarded : ∀ {pc : HandlerPc}, handler.pc = pc → pc.guard? = none →
      False := by
    intro pc atPc noGuard
    rw [atPc, noGuard] at isGuarded
    cases isGuarded
  have same : ∀ {pc : HandlerPc} {held : ConversationRef},
      handler.pc = pc → pc.guard? = some held → held = guarded := by
    intro pc held atPc isHeld
    rw [atPc, isHeld] at isGuarded
    exact Option.some.inj isGuarded
  cases moved with
  | idles _ before isIdle =>
      rcases before with idle | ⟨session, found, atLock⟩
      · rw [isIdle_of_guard isGuarded] at idle
        cases idle
      · exact (unguarded atLock rfl).elim
  | touches ref session before =>
      rcases before with before | before
      · exact (unguarded before rfl).elim
      · exact (unguarded before rfl).elim
  | asks acp before => exact (unguarded before rfl).elim
  | opens session before => exact (unguarded before rfl).elim
  | unopened error before => exact (unguarded before rfl).elim
  | aims session found before => exact (unguarded before rfl).elim
  | locks session found locked before => exact (unguarded before rfl).elim
  | refused session released error before
  | tooLarge session released _ error before
  | unsent released _ error _ before
  | unattached released _ error before
  | leaves released _ _ answer before
  | answers released _ answer before
  | pushes released snap answer before =>
      right
      rw [← same before rfl]
      exact ⟨⟨_, rfl⟩, rfl⟩
  | resumes session held existing tasks before
  | creates session held before
  | records session held taskId before
  | routes session held taskId content acp before
  | attaches held taskId before
  | polls held call stream item acp before
  | ends held call before
  | bridges held call stepped tasks before
  | settles held call before
  | announces held taskId binding before =>
      left
      rw [← same before rfl]
      exact ⟨rfl, rfl⟩
  | sends _ held taskId acp before isNext =>
      left
      rw [← same before rfl]
      rcases isNext with rfl | rfl
      · exact ⟨rfl, rfl⟩
      · exact ⟨rfl, rfl⟩

end Handler

namespace Server

/-- What a step does to the keys of the map: nothing, or a handler binds its
own to what the agent has made, or a reset or a sweep removes some. -/
inductive MapChange (server : Server) (action : Action) (target : Server) :
    Prop
  | keeps
      (related :
        server.shared.conversations.Related target.shared.conversations) :
      MapChange server action target
  | binds (name : Nat) (env : Env) (handler : Handler) (session : SessionId)
      (isAction : action = .work name env)
      (found : server.handlers name = some handler)
      (atSpawn : handler.pc = .spawning)
      (replied : server.shared.acp.replies name = some (.session session))
      (foundAfter :
        target.handlers name =
          some { handler with pc := .insertRow session })
      (isMap :
        target.shared.conversations =
          server.shared.conversations.insert handler.request.key session
            env.now) :
      MapChange server action target
  | removes (name : Nat) (env : Env) (thread : Thread)
      (isAction : action = .work name env)
      (found : server.threads name = some thread)
      (isMap :
        target.shared.conversations =
          thread.removes.foldl ConversationMap.remove
            server.shared.conversations) :
      MapChange server action target

/-- Where a handler comes from that is there after a step. -/
inductive HandlerStep (json : SerdeJson) (cfg : ServeConfig)
    (server : Server) (action : Action) (target : Server) (name : Nat) :
    Handler → Prop
  | stays (handler : Handler)
      (found : server.handlers name = some handler)
      (notOwn : ∀ env, action ≠ .work name env) :
      HandlerStep json cfg server action target name handler
  | arrives (handler : Handler)
      (free : server.threads name = none)
      (atCheck : handler.pc = .checkMode)
      (sameShared : target.shared = server.shared) :
      HandlerStep json cfg server action target name handler
  | opens (env : Env) (handler : Handler) (next : HandlerPc)
      (isAction : action = .work name env)
      (found : server.handlers name = some handler)
      (unguarded : handler.pc.guard? = none)
      (opening :
        Handler.Opening cfg name env handler server.shared next
          target.shared) :
      HandlerStep json cfg server action target name
        { handler with pc := next }
  | moves (env : Env) (handler : Handler) (next : HandlerPc)
      (guarded : ConversationRef)
      (isAction : action = .work name env)
      (found : server.handlers name = some handler)
      (isGuarded : handler.pc.guard? = some guarded)
      (moved :
        Handler.Moves json cfg name env handler server.shared next
          target.shared) :
      HandlerStep json cfg server action target name
        { handler with pc := next }
  | drops (handler : Handler) :
      HandlerStep json cfg server action target name
        { handler with pc := .dropped }

variable {json : SerdeJson} {cfg : ServeConfig} {server target : Server}

/-- The handler of a thread that works is that thread. -/
theorem thread_of_handlers
    {name : Nat} {handler : Handler}
    (found : server.handlers name = some handler) :
    server.threads name = some (.prompt handler) := by
  obtain ⟨thread, foundThread, isPrompt⟩ := Option.bind_eq_some_iff.mp found
  cases thread <;> cases isPrompt
  exact foundThread

/-- A handler's own step. -/
theorem work_of_step
    {name : Nat} {env : Env} {handler : Handler}
    (taken : step json cfg (.work name env) server = some target)
    (found : server.handlers name = some handler) :
    ∃ next,
      handler.work json cfg name env server.shared =
          some (next, target.shared) ∧
        target.threads =
          server.threads.put name (.prompt { handler with pc := next }) := by
  have foundThread := thread_of_handlers found
  simp only [step, foundThread, Option.bind_some, workThread,
    Option.map_map] at taken
  obtain ⟨⟨next, after⟩, worked, rfl⟩ := Option.map_eq_some_iff.mp taken
  exact ⟨next, worked, rfl⟩

theorem handlers_of_put
    {name : Nat} {handler : Handler}
    (threads : target.threads = server.threads.put name (.prompt handler)) :
    target.handlers name = some handler := by
  simp [handlers, threads, Thread.handler?]

theorem mapChange_of_opening
    {name : Nat} {env : Env} {handler : Handler} {next : HandlerPc}
    (found : server.handlers name = some handler)
    (foundAfter : target.handlers name = some { handler with pc := next })
    (opening :
      Handler.Opening cfg name env handler server.shared next
        target.shared) :
    MapChange server (.work name env) target := by
  generalize isAfter : target.shared = after at opening
  cases opening with
  | hits ref before unwritten bound =>
      apply MapChange.keeps
      rw [isAfter]
      exact ConversationMap.related_touch _ _ _
  | locks session guarded locked before isTaken =>
      apply MapChange.keeps
      rw [isAfter]
      exact ConversationMap.related_tryLock isTaken
  | opens session before replied =>
      refine .binds name env handler session rfl found before replied
        foundAfter ?_
      rw [isAfter]
  | passes | misses | asks | unopened | records | aims | refuses =>
      apply MapChange.keeps
      rw [isAfter]
      exact .refl _

theorem mapChange_of_step
    {action : Action} (taken : step json cfg action server = some target) :
    MapChange server action target := by
  cases step_steps taken with
  | keeps => exact .keeps (.refl _)
  | spawns => exact .keeps (.refl _)
  | configures => exact .keeps (.refl _)
  | agent => exact .keeps (.refl _)
  | drops name handler found _ _ =>
      apply MapChange.keeps
      unfold afterDrop
      cases handler.pc.guard? with
      | none => exact .refl _
      | some guarded => exact ConversationMap.related_release _ _
  | works name env thread next after found noHandler affected =>
      cases affected with
      | removes unwritten => exact .removes name env thread rfl found rfl
      | _ => exact .keeps (.refl _)
  | prompts name env handler next after found moved =>
      have isOwn : server.handlers name = some handler :=
        handlers_of_found found
      cases isGuarded : handler.pc.guard? with
      | some guarded =>
          apply MapChange.keeps
          rcases Handler.guarded_cases isGuarded moved with
            ⟨_, same⟩ | ⟨_, released⟩
          · rw [same]
            exact .refl _
          · rw [released]
            exact ConversationMap.related_release _ _
      | none =>
          obtain ⟨opened, worked, threads⟩ := work_of_step taken isOwn
          exact mapChange_of_opening isOwn (handlers_of_put threads)
            (Handler.work_opening isGuarded worked)

/-- Threads that are no prompt handlers do not become one. -/
theorem handlers_of_work
    {name : Nat} {env : Env} {handler : Handler}
    (taken : step json cfg (.work name env) server = some target)
    (found : target.handlers name = some handler) :
    ∃ before, server.handlers name = some before := by
  obtain ⟨thread, foundThread, worked⟩ := Option.bind_eq_some_iff.mp taken
  obtain ⟨⟨next, after⟩, moved, rfl⟩ := Option.map_eq_some_iff.mp worked
  cases thread with
  | prompt handler => exact ⟨handler, handlers_of_found foundThread⟩
  | cancel | reset | sweep =>
      obtain ⟨_, _, stepped⟩ := Option.map_eq_some_iff.mp moved
      cases stepped
      simp [handlers, Thread.handler?] at found

theorem handlerStep_of_step
    {action : Action} {name : Nat} {handler : Handler}
    (taken : step json cfg action server = some target)
    (found : target.handlers name = some handler) :
    HandlerStep json cfg server action target name handler := by
  by_cases own : ∃ env, action = .work name env
  · obtain ⟨env, rfl⟩ := own
    obtain ⟨before, isOwn⟩ := handlers_of_work taken found
    obtain ⟨next, worked, threads⟩ := work_of_step taken isOwn
    rw [handlers_of_put threads] at found
    cases found
    cases isGuarded : before.pc.guard? with
    | none =>
        exact .opens env before next rfl isOwn isGuarded
          (Handler.work_opening isGuarded worked)
    | some guarded =>
        exact .moves env before next guarded rfl isOwn isGuarded
          (Handler.work_moves worked)
  · have notOwn : ∀ env, action ≠ .work name env :=
      fun env isOwn => own ⟨env, isOwn⟩
    cases step_steps taken with
    | keeps | configures | agent => exact .stays handler found notOwn
    | spawns _ other thread free isNew =>
        by_cases same : name = other
        · subst same
          have isPrompt : thread.handler? = some handler := by
            simpa [handlers] using found
          exact .arrives handler free (isNew handler isPrompt) rfl
        · rw [handlers_put_other same] at found
          exact .stays handler found notOwn
    | drops other dropped foundThread _ _ =>
        by_cases same : name = other
        · subst same
          rw [handlers_put_self] at found
          cases found
          exact .drops dropped
        · rw [handlers_put_other same] at found
          exact .stays handler found notOwn
    | works other env thread next after foundThread noHandler affected =>
        have outsider : server.handlers other = none := by
          rw [handlers_of_found foundThread]
          exact noHandler.1
        rw [handlers_put_outsider after outsider noHandler.2] at found
        exact .stays handler found notOwn
    | prompts other env working next after foundThread moved =>
        have different : name ≠ other := fun same => own ⟨env, by rw [same]⟩
        rw [handlers_put_other different] at found
        exact .stays handler found notOwn

/-- A test for steps that neither bind nor remove a key. -/
def leavesKeys (server : Server) : Action → Bool
  | .work name _ =>
      match server.threads name with
      | some (.prompt handler) => handler.pc != .spawning
      | some thread => thread.removes.isEmpty
      | none => true
  | _ => true

end Server

end A2AShim
