import A2AShim.Serve.TaskStages

/-!
# One prompt at a time

The guard in a `Conversation` object is the single permit of its key as long
as two things hold.  Whoever holds a guard keeps it until the agent has
answered.  And the key stays bound to the object whose guard is held, or about
to be taken, for a prompt.

Under these, every handler that may still prompt, or waits for its answer,
holds the guard of the object its key is bound to; so there is one such
handler for a key.
-/

namespace A2AShim

namespace Bridge

/-- The call has got an item that ends its stream, or the end of it. -/
def Call.isOver (call : Call) : Bool :=
  match call.pc with
  | .markWorking item | .recordWorking item | .publishWorking item =>
      endsStream item
  | .finish _ | .recordFinal _ | .publishFinal _ | .returned _ => true
  | _ => false

variable {json : SerdeJson} {call next : Call}
variable {registry updated : TaskRegistry} {binding : TaskBinding}

theorem onItem_isOver
    {item : StreamItem}
    (ended : Call.isOver { call with pc := onItem json item } = true) :
    endsStream item = true := by
  rcases item with error | (⟨_ | _⟩ | _)
  · rfl
  · cases ended
  · cases ended
  · rfl

theorem polled_isOver
    {item : StreamItem}
    (ended : (call.polled json (some item)).isOver = true) :
    endsStream item = true := by
  unfold Call.polled at ended
  simp only at ended
  split at ended
  · exact onItem_isOver ended
  · exact ended

/-- A call is over when its stream is, unless its Task was canceled before the
first event. -/
theorem work_isOver
    (found : registry.bindings call.taskId = some binding)
    (taken : call.work json registry = some (next, updated))
    (ended : next.isOver = true) :
    call.isOver = true ∨
      ∃ item, call.pc = .markWorking item ∧ binding.state ≠ .submitted := by
  have wasOver : ∀ {pc}, call.pc = pc →
      Call.isOver { call with pc } = true → call.isOver = true := by
    intro pc atPc whole
    subst atPc
    exact whole
  cases work_works taken with
  | lost atPc absent =>
      rw [found] at absent
      cases absent
  | starts other atPc => cases ended
  | unmarked item error atPc illegal =>
      refine .inr ⟨item, atPc, ?_⟩
      intro submitted
      have refused := illegal binding found
      rw [submitted] at refused
      cases refused
  | marks item other atPc => exact .inl (wasOver atPc ended)
  | recordsWorking item atPc => exact .inl (wasOver atPc ended)
  | publishesWorking item atPc =>
      exact .inl (wasOver atPc (onItem_isOver ended))
  | answered atPc => cases ended
  | unanswered part rest error atPc absent =>
      rw [found] at absent
      cases absent
  | upserts part rest other artifacts atPc => cases ended
  | publishesArtifact part append rest atPc => cases ended
  | undecided status error atPc => exact .inl (wasOver atPc rfl)
  | decides status other atPc => exact .inl (wasOver atPc rfl)
  | recordsFinal status atPc => exact .inl (wasOver atPc rfl)
  | publishesFinal status atPc => exact .inl (wasOver atPc rfl)

end Bridge

namespace HandlerPc

/-- The guard a handler holds, or is about to try. -/
def lock? : HandlerPc → Option ConversationRef
  | .lockGuard _ found => some found
  | pc => pc.guard?

/-- The handler is on its way from the look at its key to its prompt. -/
def isOpening : HandlerPc → Bool
  | .lockGuard _ _ | .enter _ _ | .record _ _ _ | .dispatch _ _ _ => true
  | _ => false

/-- The handler has not started its prompt, or has got the end of it. -/
def isQuiet : HandlerPc → Bool
  | .sendPrompt _ _ | .fetchSink _ _ => false
  | .bridging _ call => call.isOver
  | _ => true

end HandlerPc

namespace Server

/-- The handler may still start its prompt, or waits for the response. -/
def Engaged (shared : Shared) (name : Nat) (pc : HandlerPc) : Prop :=
  pc.isOpening = true ∨ shared.acp.Outstanding name

/-- The steps that take the permit from an engaged handler: its future is
dropped, its bridge finds the Task canceled at the first event, or its key is
taken out of the map. -/
inductive Disturbs (server : Server) : Action → Prop
  | drops (name : Nat) (outstanding : server.shared.acp.Outstanding name) :
      Disturbs server (.drop name)
  | refuses (name : Nat) (env : Env) (handler : Handler)
      (guarded : ConversationRef) (call : Bridge.Call) (item : StreamItem)
      (binding : TaskBinding)
      (found : server.handlers name = some handler)
      (atBridge : handler.pc = .bridging guarded call)
      (atFirst : call.pc = .markWorking item)
      (known : server.shared.tasks.bindings call.taskId = some binding)
      (finished : binding.state.isTerminal = true)
      (outstanding : server.shared.acp.Outstanding name) :
      Disturbs server (.work name env)
  | unbinds (name : Nat) (env : Env) (thread : Thread) (other : Nat)
      (handler : Handler)
      (found : server.threads name = some thread)
      (removed : handler.request.key ∈ thread.removes)
      (holder : server.handlers other = some handler)
      (engaged : Engaged server.shared other handler.pc) :
      Disturbs server (.work name env)

/-- At most one prompt is outstanding for each key. -/
def SinglePrompt (server : Server) : Prop :=
  (∀ name, server.shared.acp.Outstanding name →
    ∃ handler, server.handlers name = some handler) ∧
    ∀ first second one two,
      server.handlers first = some one → server.handlers second = some two →
        one.request.key = two.request.key →
          server.shared.acp.Outstanding first →
            server.shared.acp.Outstanding second → first = second

/-! ## The invariant -/

/-- Where a handler stands agrees with the map, its writer and the agent. -/
structure Fits (shared : Shared) (name : Nat) (handler : Handler) : Prop where
  writes : handler.pc = .spawning ↔ shared.writer = some name
  absent : handler.pc = .spawning →
    shared.conversations.get handler.request.key = none
  holds : ∀ guarded, handler.pc.guard? = some guarded →
    ∃ conversation,
      shared.conversations.objects guarded = some conversation ∧
        conversation.inFlight = some name
  bound : ∀ ref, handler.pc.lock? = some ref →
    Engaged shared name handler.pc →
      shared.conversations.get handler.request.key = some ref
  active : shared.acp.Outstanding name → handler.pc.isQuiet = false

structure Exclusive (server : Server) : Prop where
  agree : server.shared.acp.PromptsAgree
  fresh : server.shared.conversations.Fresh
  writer : ∀ name, server.shared.writer = some name →
    ∃ handler, server.handlers name = some handler
  prompting : ∀ name, server.shared.acp.Outstanding name →
    ∃ handler, server.handlers name = some handler
  fits : ∀ name handler, server.handlers name = some handler →
    Fits server.shared name handler

variable {json : SerdeJson} {cfg : ServeConfig} {server target : Server}
variable {shared after : Shared} {name tested : Nat} {handler : Handler}
variable {next : HandlerPc} {env : Env}

theorem isQuiet_guard?
    {pc : HandlerPc} (busy : pc.isQuiet = false) :
    ∃ guarded, pc.guard? = some guarded := by
  cases pc with
  | sendPrompt guarded taskId => exact ⟨guarded, rfl⟩
  | fetchSink guarded taskId => exact ⟨guarded, rfl⟩
  | bridging guarded call => exact ⟨guarded, rfl⟩
  | _ => cases busy

theorem lock?_of_guard?
    {pc : HandlerPc} {guarded : ConversationRef}
    (holds : pc.guard? = some guarded) :
    pc.lock? = some guarded := by
  cases pc with
  | lockGuard session found => cases holds
  | _ => exact holds

theorem Fits.heldBy
    {pc : HandlerPc} {guarded : ConversationRef}
    (fits : Fits shared name handler) (atPc : handler.pc = pc)
    (holds : pc.guard? = some guarded) :
    shared.conversations.HeldBy guarded name := by
  subst atPc
  exact fits.holds guarded holds

/-- Two handlers of one key that both wait for the agent hold one guard. -/
theorem Exclusive.singlePrompt (exclusive : Exclusive server) :
    SinglePrompt server := by
  refine ⟨exclusive.prompting, ?_⟩
  intro first second one two foundOne foundTwo sameKey promptsOne promptsTwo
  have fitsOne := exclusive.fits first one foundOne
  have fitsTwo := exclusive.fits second two foundTwo
  obtain ⟨guardOne, holdsOne⟩ := isQuiet_guard? (fitsOne.active promptsOne)
  obtain ⟨guardTwo, holdsTwo⟩ := isQuiet_guard? (fitsTwo.active promptsTwo)
  have boundOne :=
    fitsOne.bound guardOne (lock?_of_guard? holdsOne) (.inr promptsOne)
  have boundTwo :=
    fitsTwo.bound guardTwo (lock?_of_guard? holdsTwo) (.inr promptsTwo)
  have sameGuard : guardOne = guardTwo := by
    rw [sameKey, boundTwo] at boundOne
    exact (Option.some.inj boundOne).symm
  have heldByOne := fitsOne.heldBy rfl holdsOne
  have heldByTwo := fitsTwo.heldBy rfl holdsTwo
  rw [← sameGuard] at heldByTwo
  exact heldByOne.unique heldByTwo

/-! ## What a step leaves to the other handlers -/

/-- A step that changes `before` to `after` leaves everything that `handler`,
named `tested`, relies on. -/
structure Spares (tested : Nat) (handler : Handler) (before after : Shared) :
    Prop where
  writer : after.writer = some tested ↔ before.writer = some tested
  holds : ∀ ref conversation,
    before.conversations.objects ref = some conversation →
      conversation.inFlight = some tested →
        ∃ now, after.conversations.objects ref = some now ∧
          now.inFlight = some tested
  keys : ∀ ref, Engaged after tested handler.pc →
    before.conversations.get handler.request.key = some ref →
      after.conversations.get handler.request.key = some ref
  absent : before.writer = some tested →
    before.conversations.get handler.request.key = none →
      after.conversations.get handler.request.key = none
  prompts : after.acp.Outstanding tested → before.acp.Outstanding tested

theorem Spares.refl (tested : Nat) (handler : Handler) (shared : Shared) :
    Spares tested handler shared shared :=
  ⟨Iff.rfl, fun _ conversation found held => ⟨conversation, found, held⟩,
    fun _ _ bound => bound, fun _ absent => absent, fun prompts => prompts⟩

theorem Spares.engaged
    (spares : Spares tested handler shared after)
    (engaged : Engaged after tested handler.pc) :
    Engaged shared tested handler.pc :=
  engaged.imp_right spares.prompts

theorem Spares.trans
    {middle : Shared}
    (first : Spares tested handler shared middle)
    (second : Spares tested handler middle after) :
    Spares tested handler shared after where
  writer := second.writer.trans first.writer
  holds := by
    intro ref conversation found held
    obtain ⟨between, foundBetween, heldBetween⟩ :=
      first.holds ref conversation found held
    exact second.holds ref between foundBetween heldBetween
  keys := fun ref engaged bound =>
    second.keys ref engaged (first.keys ref (second.engaged engaged) bound)
  absent := fun writes absent =>
    second.absent (first.writer.mpr writes) (first.absent writes absent)
  prompts := fun prompts => first.prompts (second.prompts prompts)

theorem Spares.fits
    (spares : Spares tested handler shared after)
    (fits : Fits shared tested handler) :
    Fits after tested handler where
  writes := fits.writes.trans spares.writer.symm
  absent := fun atSpawn =>
    spares.absent (fits.writes.mp atSpawn) (fits.absent atSpawn)
  holds := by
    intro guarded holds
    obtain ⟨conversation, found, held⟩ := fits.holds guarded holds
    exact spares.holds guarded conversation found held
  bound := fun ref locks engaged =>
    spares.keys ref engaged (fits.bound ref locks (spares.engaged engaged))
  active := fun prompts => fits.active (spares.prompts prompts)

/-- Steps of the agent's side that do not start the prompt of `tested`. -/
theorem Spares.of_acp
    {action : AcpClient.Action} {acp : AcpClient}
    (agree : shared.acp.PromptsAgree)
    (taken : AcpClient.step action shared.acp = some acp)
    (other : ∀ session content,
      action ≠ .registerRoute tested session content) :
    Spares tested handler shared { shared with acp } where
  writer := Iff.rfl
  holds := fun _ conversation found held => ⟨conversation, found, held⟩
  keys := fun _ _ bound => bound
  absent := fun _ absent => absent
  prompts := AcpClient.outstanding_of_step agree taken other

theorem Spares.of_release
    {guarded : ConversationRef}
    (held : shared.conversations.HeldBy guarded name)
    (different : tested ≠ name) :
    Spares tested handler shared (shared.release guarded) where
  writer := Iff.rfl
  holds := by
    intro ref conversation found isHolder
    have heldByTested : shared.conversations.HeldBy ref tested :=
      ⟨conversation, found, isHolder⟩
    have otherGuard : ref ≠ guarded := by
      intro same
      subst same
      exact different (heldByTested.unique held)
    exact heldByTested.release_other otherGuard
  keys := fun _ _ bound => bound
  absent := fun _ absent => absent
  prompts := fun prompts => prompts

/-- A step that changes the writer as well, but not to or from `tested`. -/
theorem Spares.with_writer
    {middle : Shared} (spares : Spares tested handler shared middle)
    (sameMap : after.conversations = middle.conversations)
    (sameAcp : after.acp = middle.acp)
    (writer : after.writer = some tested ↔ shared.writer = some tested) :
    Spares tested handler shared after where
  writer := writer
  holds := by
    rw [sameMap]
    exact spares.holds
  keys := by
    intro ref engaged bound
    rw [Engaged, sameAcp] at engaged
    rw [sameMap]
    exact spares.keys ref engaged bound
  absent := by
    rw [sameMap]
    exact spares.absent
  prompts := by
    rw [sameAcp]
    exact spares.prompts

/-- Fields of the shared state that no handler relies on. -/
theorem Spares.of_same
    (sameMap : after.conversations = shared.conversations)
    (sameWriter : after.writer = shared.writer)
    (sameAcp : after.acp = shared.acp) :
    Spares tested handler shared after :=
  (Spares.refl tested handler shared).with_writer sameMap sameAcp
    (by rw [sameWriter])

theorem Spares.of_touch
    (ref : ConversationRef) (now : Nat) :
    Spares tested handler shared
      { shared with conversations := shared.conversations.touch ref now } where
  writer := Iff.rfl
  holds := fun _ conversation found isHolder =>
    ConversationMap.HeldBy.touch ⟨conversation, found, isHolder⟩ ref
  keys := fun _ _ bound => bound
  absent := fun _ absent => absent
  prompts := fun prompts => prompts

/-- Taking a guard that is free takes it from nobody. -/
theorem Spares.of_lock
    {found : ConversationRef} {locked : ConversationMap}
    (taken : shared.conversations.tryLock found name = some locked) :
    Spares tested handler shared
      { shared with conversations := locked } where
  writer := Iff.rfl
  holds := fun _ conversation found isHolder =>
    ConversationMap.HeldBy.tryLock_other ⟨conversation, found, isHolder⟩ taken
  keys := by
    intro ref _ bound
    rw [(ConversationMap.related_tryLock taken).keys]
    exact bound
  absent := by
    intro _ absent
    rw [(ConversationMap.related_tryLock taken).keys]
    exact absent
  prompts := fun prompts => prompts

/-- The writer of the map adds its own key. -/
theorem Spares.of_insert
    {key : String} {session : SessionId} {now : Nat}
    (different : tested ≠ name)
    (fresh : shared.conversations.Fresh)
    (writes : shared.writer = some name)
    (absent : shared.conversations.get key = none) :
    Spares tested handler shared
      { shared with
        conversations := shared.conversations.insert key session now
        writer := none } where
  writer := by
    rw [writes]
    exact iff_of_false (by simp) (by simp [Ne.symm different])
  holds := fun _ conversation found isHolder =>
    ConversationMap.HeldBy.insert ⟨conversation, found, isHolder⟩ fresh
  keys := by
    intro ref _ bound
    have otherKey : handler.request.key ≠ key := by
      intro same
      rw [same, absent] at bound
      cases bound
    exact (ConversationMap.insert_get_other otherKey).trans bound
  absent := by
    intro testedWrites
    rw [writes] at testedWrites
    cases testedWrites
    exact absurd rfl different
  prompts := fun prompts => prompts

/-- A handler's steps leave the other handlers what they rely on. -/
theorem moves_spares
    (exclusive : Exclusive server)
    (isOwn : server.handlers name = some handler)
    (moved : Handler.Moves json cfg name env handler server.shared next after)
    (different : tested ≠ name) (other : Handler) :
    Spares tested other server.shared after := by
  have fits := exclusive.fits name handler isOwn
  have released : ∀ {pc : HandlerPc} {guarded : ConversationRef},
      handler.pc = pc → pc.guard? = some guarded →
        Spares tested other server.shared (server.shared.release guarded) :=
    fun atPc holds => .of_release (fits.heldBy atPc holds) different
  have outside : ∀ {action : AcpClient.Action} {acp : AcpClient},
      AcpClient.step action server.shared.acp = some acp →
        (∀ session content,
          action ≠ .registerRoute tested session content) →
          Spares tested other server.shared { server.shared with acp } :=
    fun taken notOwn => .of_acp exclusive.agree taken notOwn
  cases moved with
  | idles => exact .refl tested other _
  | touches ref session before found => exact .of_touch ref env.now
  | asks acp before unwritten absent submitted =>
      refine (outside submitted (by simp)).with_writer rfl rfl ?_
      rw [unwritten]
      exact iff_of_false (by simpa using Ne.symm different) (by simp)
  | opens session before =>
      exact .of_insert different (exclusive.fresh)
        (fits.writes.mp before) (fits.absent before)
  | unopened error before =>
      have writes := fits.writes.mp before
      refine (Spares.refl tested other server.shared).with_writer rfl rfl ?_
      rw [writes]
      exact iff_of_false (by simp) (by simpa using Ne.symm different)
  | aims => exact .refl tested other _
  | locks session found locked before taken => exact .of_lock taken
  | refused session guarded error before =>
      exact released before rfl
  | resumes => exact .of_same rfl rfl rfl
  | creates => exact .of_same rfl rfl rfl
  | records => exact .refl tested other _
  | tooLarge session guarded taskId error before =>
      exact released before rfl
  | routes session guarded taskId content acp before registered =>
      refine outside registered ?_
      intro otherSession otherContent same
      cases same
      exact different rfl
  | unsent guarded taskId error acp before gone called =>
      have called := outside called (by simp)
      have held : server.shared.conversations.HeldBy guarded name :=
        fits.heldBy before rfl
      exact called.trans (.of_release held different)
  | sends _ guarded taskId acp before isNext called =>
      exact outside called (by simp)
  | unattached guarded taskId error before =>
      exact released before rfl
  | attaches => exact .refl tested other _
  | polls guarded call stream item acp before atNext found member taken =>
      exact outside taken (by simp)
  | ends => exact .refl tested other _
  | bridges => exact .of_same rfl rfl rfl
  | leaves guarded call result answer before =>
      exact released before rfl
  | settles => exact .refl tested other _
  | answers guarded taskId answer before =>
      exact released before rfl
  | announces => exact .refl tested other _
  | pushes guarded snap answer before =>
      have spares := released before rfl
      exact spares.trans (.of_same rfl rfl rfl)

/-! ## What a step leaves its own handler -/

/-- Positions without guard: the handler must not be the writer, and must not
have a prompt at the agent. -/
theorem Fits.of_idle
    (idle : next.isIdle = true) (notWriter : after.writer ≠ some name)
    (settled : ¬ after.acp.Outstanding name) :
    Fits after name { handler with pc := next } := by
  have notSpawning : next ≠ .spawning := by
    intro isSame
    subst isSame
    cases idle
  have noLock : next.lock? = none := by
    cases next <;> first | rfl | cases idle
  constructor
  · exact iff_of_false notSpawning notWriter
  · intro atSpawn
    exact absurd atSpawn notSpawning
  · intro guarded holds
    have locks := noLock.symm.trans (lock?_of_guard? holds)
    cases locks
  · intro ref locks
    have unlocked := noLock.symm.trans locks
    cases unlocked
  · intro prompts
    exact absurd prompts settled

/-- A handler that goes on with its guard in hand. -/
theorem Fits.of_carried
    {pc : HandlerPc} {guarded : ConversationRef}
    (fits : Fits shared name handler) (atPc : handler.pc = pc)
    (before : pc.guard? = some guarded)
    (now : next.guard? = some guarded)
    (sameMap : after.conversations = shared.conversations)
    (sameWriter : after.writer = shared.writer)
    (engaged : Engaged after name next → Engaged shared name handler.pc)
    (active : after.acp.Outstanding name → next.isQuiet = false) :
    Fits after name { handler with pc := next } := by
  subst atPc
  have notSpawning : ∀ {pc : HandlerPc}, pc.guard? = some guarded →
      pc ≠ .spawning := by
    intro _ holds isSame
    subst isSame
    cases holds
  constructor
  · rw [sameWriter, ← fits.writes]
    exact iff_of_false (notSpawning now) (notSpawning before)
  · intro atSpawn
    exact absurd atSpawn (notSpawning now)
  · intro held holds
    have same := now.symm.trans holds
    cases same
    rw [sameMap]
    exact fits.holds guarded before
  · intro ref locks isEngaged
    have same := (lock?_of_guard? now).symm.trans locks
    cases same
    rw [sameMap]
    exact fits.bound guarded (lock?_of_guard? before) (engaged isEngaged)
  · exact active

theorem Fits.notWriter
    (fits : Fits shared name handler) (other : handler.pc ≠ .spawning) :
    shared.writer ≠ some name :=
  fun writes => other (fits.writes.mpr writes)

theorem Fits.settled
    {pc : HandlerPc} (fits : Fits shared name handler)
    (atPc : handler.pc = pc) (quiet : pc.isQuiet = true) :
    ¬ shared.acp.Outstanding name := by
  subst atPc
  intro prompts
  have busy := fits.active prompts
  rw [quiet] at busy
  cases busy

/-- A handler that returns drops its guard after its prompt. -/
theorem Fits.of_release
    {pc : HandlerPc} {guarded : ConversationRef}
    {answer : Except JsonRpcError (Option Task)}
    (fits : Fits shared name handler) (atPc : handler.pc = pc)
    (before : pc.guard? = some guarded)
    (sameWriter : after.writer = shared.writer)
    (settled : ¬ after.acp.Outstanding name) :
    Fits after name { handler with pc := .returned answer } := by
  refine .of_idle rfl ?_ settled
  rw [sameWriter]
  apply fits.notWriter
  intro atSpawn
  rw [← atPc, atSpawn] at before
  cases before

/-- A handler on its way to its prompt, whose key is bound to its guard. -/
theorem Fits.of_opening
    {pc : HandlerPc} {guarded : ConversationRef}
    (fits : Fits shared name handler) (atPc : handler.pc = pc)
    (before : pc.guard? = some guarded) (opening : pc.isOpening = true)
    (now : next.guard? = some guarded)
    (sameMap : after.conversations = shared.conversations)
    (sameWriter : after.writer = shared.writer)
    (active : after.acp.Outstanding name → next.isQuiet = false) :
    Fits after name { handler with pc := next } := by
  refine fits.of_carried atPc before now sameMap sameWriter ?_ active
  intro _
  left
  rw [atPc]
  exact opening

/-- A call whose prompt is outstanding is not over after its step. -/
theorem bridge_busy
    {guarded : ConversationRef} {call stepped : Bridge.Call}
    {tasks : TaskRegistry} (fits : Fits server.shared name handler)
    (staged : Staged server)
    (isOwn : server.handlers name = some handler)
    (undisturbed : ¬ Disturbs server (.work name env))
    (before : handler.pc = .bridging guarded call)
    (worked : call.work json server.shared.tasks = some (stepped, tasks))
    (prompts : server.shared.acp.Outstanding name) :
    stepped.isOver = false := by
  by_contra notBusy
  have ended : stepped.isOver = true := by simpa using notBusy
  obtain ⟨binding, known, stage⟩ :=
    staged.stage name handler call.taskId isOwn (by rw [before]; rfl)
  rcases Bridge.work_isOver known worked ended with
    wasOver | ⟨item, atFirst, notSubmitted⟩
  · have busy := fits.active prompts
    rw [before] at busy
    have isOver : call.isOver = false := busy
    rw [wasOver] at isOver
    cases isOver
  · have finished : binding.state.isTerminal = true := by
      rw [before] at stage
      rcases stage with terminal | stage
      · exact terminal
      · rw [atFirst] at stage
        exact absurd stage.2 notSubmitted
    apply undisturbed
    exact .refuses name env handler guarded call item binding isOwn before
      atFirst known finished prompts

/-- Where nothing is held yet, no prompt has been started either. -/
theorem quiet_before_guard
    {pc : HandlerPc}
    (before : pc.isIdle = true ∨
      ∃ session found, pc = .lockGuard session found) :
    pc.isQuiet = true ∧ pc ≠ .spawning := by
  rcases before with idle | ⟨session, found, rfl⟩
  · cases pc with
    | spawning | sendPrompt | fetchSink | bridging => cases idle
    | _ => exact ⟨rfl, nofun⟩
  · exact ⟨rfl, nofun⟩

theorem quiet_of_returned
    {guarded : ConversationRef} {call : Bridge.Call}
    {result : Except Bridge.BridgeError Unit}
    (atReturn : call.pc = .returned result) :
    (HandlerPc.bridging guarded call).isQuiet = true := by
  show call.isOver = true
  unfold Bridge.Call.isOver
  rw [atReturn]

theorem moves_fits
    (exclusive : Exclusive server) (staged : Staged server)
    (isOwn : server.handlers name = some handler)
    (undisturbed : ¬ Disturbs server (.work name env))
    (moved : Handler.Moves json cfg name env handler server.shared next after) :
    Fits after name { handler with pc := next } := by
  have fits := exclusive.fits name handler isOwn
  have agree := exclusive.agree
  have engagedByPrompt : ∀ {pc : HandlerPc}, pc.isOpening = false →
      Engaged server.shared name pc →
        Engaged server.shared name handler.pc := by
    intro pc later engaged
    rcases engaged with opening | prompts
    · rw [later] at opening
      cases opening
    · exact .inr prompts
  cases moved with
  | idles _ wasIdle isIdle =>
      obtain ⟨quiet, notSpawning⟩ := quiet_before_guard wasIdle
      exact .of_idle isIdle (fits.notWriter notSpawning) (fits.settled rfl quiet)
  | touches ref session before found =>
      rcases before with before | before
      · exact .of_idle rfl (fits.notWriter (by rw [before]; exact nofun))
          (fits.settled before rfl)
      · exact .of_idle rfl (fits.notWriter (by rw [before]; exact nofun))
          (fits.settled before rfl)
  | asks acp before unwritten absent submitted =>
      have settled := fits.settled before rfl
      constructor
      · exact iff_of_true rfl rfl
      · exact fun _ => absent
      · exact nofun
      · exact nofun
      · intro prompts
        exact absurd
          (AcpClient.outstanding_of_step agree submitted (by simp) prompts)
          settled
  | opens session before =>
      exact .of_idle rfl (by simp) (fits.settled before rfl)
  | unopened error before =>
      exact .of_idle rfl (by simp) (fits.settled before rfl)
  | aims session found before unwritten bound =>
      constructor
      · rw [unwritten]
        exact iff_of_false (by simp) (by simp)
      · exact nofun
      · exact nofun
      · intro ref locks _
        cases locks
        exact bound
      · intro prompts
        exact absurd prompts (fits.settled before rfl)
  | locks session found locked before taken =>
      constructor
      · exact iff_of_false nofun (fits.notWriter (by rw [before]; exact nofun))
      · exact nofun
      · intro guarded holds
        cases holds
        exact ConversationMap.heldBy_of_tryLock taken
      · intro ref locks _
        cases locks
        rw [(ConversationMap.related_tryLock taken).keys]
        exact fits.bound found (by rw [before]; rfl) (.inl (by rw [before]; rfl))
      · intro prompts
        exact absurd prompts (fits.settled before rfl)
  | refused session guarded error before =>
      exact fits.of_release before rfl rfl (fits.settled before rfl)
  | resumes _ _ _ _ before | creates _ _ before | records _ _ _ before =>
      have settled := fits.settled before rfl
      exact fits.of_opening before rfl rfl rfl rfl rfl
        (fun prompts => absurd prompts settled)
  | tooLarge session guarded taskId error before =>
      exact fits.of_release before rfl rfl (fits.settled before rfl)
  | routes session guarded taskId content acp before registered =>
      exact fits.of_opening before rfl rfl rfl rfl rfl (fun _ => rfl)
  | unsent guarded taskId error acp before gone called =>
      exact fits.of_release before rfl rfl
        (agree.not_outstanding_of_unsent gone called)
  | sends _ guarded taskId acp before isNext called =>
      have earlier : acp.Outstanding name →
          server.shared.acp.Outstanding name :=
        AcpClient.outstanding_of_step agree called (by simp)
      rcases isNext with rfl | rfl
      · refine fits.of_carried before rfl rfl rfl rfl ?_
          (fun _ => rfl)
        exact fun engaged => engagedByPrompt rfl (engaged.imp_right earlier)
      · refine fits.of_carried before rfl rfl rfl rfl ?_
          (fun _ => rfl)
        exact fun engaged => engagedByPrompt rfl (engaged.imp_right earlier)
  | unattached guarded taskId error before unknown =>
      obtain ⟨binding, known, _⟩ :=
        staged.stage name handler taskId isOwn (by rw [before]; rfl)
      rw [unknown] at known
      cases known
  | attaches guarded taskId before =>
      exact fits.of_carried before rfl rfl rfl rfl
        (engagedByPrompt rfl) (fun _ => rfl)
  | polls guarded call stream item acp before atNext found member taken =>
      have earlier : acp.Outstanding name →
          server.shared.acp.Outstanding name :=
        AcpClient.outstanding_of_step agree taken (by simp)
      refine fits.of_carried before rfl rfl rfl rfl ?_ ?_
      · exact fun engaged => engagedByPrompt rfl (engaged.imp_right earlier)
      · intro prompts
        by_contra quiet
        have ends : endsStream item = true :=
          Bridge.polled_isOver (by simpa [HandlerPc.isQuiet] using quiet)
        exact agree.not_outstanding_of_end found member ends (earlier prompts)
  | ends guarded call before atNext atEnd =>
      refine fits.of_carried before rfl rfl rfl rfl
        (engagedByPrompt rfl) ?_
      intro prompts
      exact absurd prompts (agree.not_outstanding_of_closed atEnd.2)
  | bridges guarded call stepped tasks before worked =>
      exact fits.of_carried before rfl rfl rfl rfl
        (engagedByPrompt rfl)
        (bridge_busy fits staged isOwn undisturbed before worked)
  | leaves guarded call result answer before atReturn =>
      exact fits.of_release before rfl rfl
        (fits.settled before (quiet_of_returned atReturn))
  | settles guarded call before atReturn =>
      have settled := fits.settled before (quiet_of_returned atReturn)
      exact fits.of_carried before rfl rfl rfl rfl
        (engagedByPrompt rfl) (fun prompts => absurd prompts settled)
  | answers guarded taskId answer before =>
      exact fits.of_release before rfl rfl (fits.settled before rfl)
  | announces guarded taskId binding before =>
      have settled := fits.settled before rfl
      exact fits.of_carried before rfl rfl rfl rfl
        (engagedByPrompt rfl) (fun prompts => absurd prompts settled)
  | pushes guarded snap answer before =>
      exact fits.of_release before rfl rfl (fits.settled before rfl)

/-! ## Every step -/

theorem moves_acp
    (moved : Handler.Moves json cfg name env handler shared next after) :
    after.acp = shared.acp ∨
      ∃ action, AcpClient.step action shared.acp = some after.acp := by
  cases moved with
  | asks acp _ _ _ submitted => exact .inr ⟨_, submitted⟩
  | routes session guarded taskId content acp _ registered =>
      exact .inr ⟨_, registered⟩
  | unsent guarded taskId error acp _ _ called => exact .inr ⟨_, called⟩
  | sends _ guarded taskId acp _ _ called => exact .inr ⟨_, called⟩
  | polls guarded call stream item acp _ _ _ _ taken => exact .inr ⟨_, taken⟩
  | _ => exact .inl rfl

theorem moves_fresh
    (isFresh : shared.conversations.Fresh)
    (moved : Handler.Moves json cfg name env handler shared next after) :
    after.conversations.Fresh := by
  cases moved with
  | touches => exact isFresh.update
  | opens => exact isFresh.insert
  | locks session found locked before taken =>
      obtain ⟨_, _, _, rfl⟩ := ConversationMap.tryLock_some taken
      exact isFresh.update
  | refused | tooLarge | unsent | unattached | leaves | answers | pushes =>
      exact isFresh.update
  | _ => exact isFresh

theorem Exclusive.prompts
    (exclusive : Exclusive server) (staged : Staged server)
    (found : server.threads name = some (.prompt handler))
    (undisturbed : ¬ Disturbs server (.work name env))
    (moved : Handler.Moves json cfg name env handler server.shared next after) :
    Exclusive
      { shared := after
        threads :=
          server.threads.put name (.prompt { handler with pc := next }) } := by
  have isOwn : server.handlers name = some handler := handlers_of_found found
  have spares : ∀ tested, tested ≠ name → ∀ other,
      Spares tested other server.shared after :=
    fun tested different other => moves_spares exclusive isOwn moved different
      other
  constructor
  · rcases moves_acp moved with same | ⟨action, taken⟩
    · exact same ▸ exclusive.agree
    · exact exclusive.agree.step taken
  · exact moves_fresh exclusive.fresh moved
  · intro tested writes
    by_cases same : tested = name
    · subst same
      exact ⟨_, handlers_put_self⟩
    · rw [handlers_put_other same]
      exact exclusive.writer tested
        ((spares tested same handler).writer.mp writes)
  · intro tested prompts
    by_cases same : tested = name
    · subst same
      exact ⟨_, handlers_put_self⟩
    · rw [handlers_put_other same]
      exact exclusive.prompting tested
        ((spares tested same handler).prompts prompts)
  · intro tested other foundOther
    by_cases same : tested = name
    · subst same
      rw [handlers_put_self] at foundOther
      cases foundOther
      exact moves_fits exclusive staged isOwn undisturbed moved
    · rw [handlers_put_other same] at foundOther
      exact (spares tested same other).fits
        (exclusive.fits tested other foundOther)

/-- Steps that change no handler. -/
theorem Exclusive.of_spares
    (exclusive : Exclusive server)
    (agree : target.shared.acp.PromptsAgree)
    (fresh : target.shared.conversations.Fresh)
    (sameHandlers : ∀ tested, target.handlers tested = server.handlers tested)
    (sameWriter : target.shared.writer = server.shared.writer)
    (prompts : ∀ tested, target.shared.acp.Outstanding tested →
      server.shared.acp.Outstanding tested)
    (spares : ∀ tested handler, server.handlers tested = some handler →
      Spares tested handler server.shared target.shared) :
    Exclusive target where
  agree := agree
  fresh := fresh
  writer := by
    intro tested writes
    rw [sameHandlers]
    rw [sameWriter] at writes
    exact exclusive.writer tested writes
  prompting := by
    intro tested outstanding
    rw [sameHandlers]
    exact exclusive.prompting tested (prompts tested outstanding)
  fits := by
    intro tested handler found
    rw [sameHandlers] at found
    exact (spares tested handler found).fits
      (exclusive.fits tested handler found)

/-- Steps of the agent's side, and of callers that start no prompt. -/
theorem Exclusive.of_acp
    {action : AcpClient.Action} (exclusive : Exclusive server)
    (sameHandlers : ∀ tested, target.handlers tested = server.handlers tested)
    (taken : AcpClient.step action server.shared.acp = some target.shared.acp)
    (noPrompt : ∀ sink session content,
      action ≠ .registerRoute sink session content)
    (others : target.shared =
      { server.shared with acp := target.shared.acp }) :
    Exclusive target := by
  have spares : ∀ tested handler,
      Spares tested handler server.shared target.shared := by
    intro tested handler
    rw [others]
    exact .of_acp exclusive.agree taken (noPrompt tested)
  refine exclusive.of_spares (exclusive.agree.step taken) ?_ sameHandlers ?_ ?_
    fun tested handler _ => spares tested handler
  · rw [others]
    exact exclusive.fresh
  · rw [others]
  · intro tested outstanding
    exact AcpClient.outstanding_of_step exclusive.agree taken
      (noPrompt tested) outstanding

/-- Keys of engaged handlers are left in the map. -/
theorem Exclusive.removes
    {keys : List String} (exclusive : Exclusive server)
    (sameHandlers : ∀ tested, target.handlers tested = server.handlers tested)
    (kept : ∀ tested handler, server.handlers tested = some handler →
      Engaged server.shared tested handler.pc → handler.request.key ∉ keys)
    (removed : target.shared =
      { server.shared with
        conversations :=
          keys.foldl ConversationMap.remove server.shared.conversations }) :
    Exclusive target := by
  refine exclusive.of_spares ?_ ?_ sameHandlers ?_ ?_ ?_
  · rw [removed]
    exact exclusive.agree
  · rw [removed]
    intro ref later
    rw [ConversationMap.removeAll_fresh] at later
    rw [ConversationMap.removeAll_objects]
    exact exclusive.fresh ref later
  · rw [removed]
  · rw [removed]
    exact fun _ outstanding => outstanding
  · intro tested handler found
    rw [removed]
    constructor
    · exact Iff.rfl
    · intro ref conversation foundObject held
      rw [ConversationMap.removeAll_objects]
      exact ⟨conversation, foundObject, held⟩
    · intro ref engaged bound
      rw [ConversationMap.removeAll_get_other
        (kept tested handler found engaged)]
      exact bound
    · exact fun _ absent => ConversationMap.removeAll_get_none keys absent
    · exact fun outstanding => outstanding

theorem Exclusive.works
    {thread : Thread} (exclusive : Exclusive server)
    (sameHandlers : ∀ tested, target.handlers tested = server.handlers tested)
    (kept : ∀ tested handler, server.handlers tested = some handler →
      Engaged server.shared tested handler.pc →
        handler.request.key ∉ thread.removes)
    (affected : thread.Affects server.shared target.shared) :
    Exclusive target := by
  generalize isNow : target.shared = now at affected
  cases affected with
  | keeps =>
      refine exclusive.of_spares ?_ ?_ sameHandlers ?_ ?_ ?_
      · rw [isNow]
        exact exclusive.agree
      · rw [isNow]
        exact exclusive.fresh
      · rw [isNow]
      · rw [isNow]
        exact fun _ outstanding => outstanding
      · rw [isNow]
        exact fun tested handler _ => .refl tested handler _
  | cancels id tasks _ canceled =>
      refine exclusive.of_spares ?_ ?_ sameHandlers ?_ ?_ ?_
      · rw [isNow]
        exact exclusive.agree
      · rw [isNow]
        exact exclusive.fresh
      · rw [isNow]
      · rw [isNow]
        exact fun _ outstanding => outstanding
      · rw [isNow]
        exact fun tested handler _ => .of_same rfl rfl rfl
  | submits command acp submitted =>
      have isAcp : target.shared.acp = acp := by rw [isNow]
      rw [← isAcp] at submitted
      refine exclusive.of_acp sameHandlers submitted ?_ ?_
      · simp
      · rw [isNow]
  | removes unwritten => exact exclusive.removes sameHandlers kept isNow

/-- A handler without outstanding prompt may be dropped. -/
theorem Exclusive.drops
    (exclusive : Exclusive server)
    (found : server.threads name = some (.prompt handler))
    (settled : ¬ server.shared.acp.Outstanding name) :
    Exclusive
      { shared := afterDrop name handler server.shared
        threads :=
          server.threads.put name (.prompt { handler with pc := .dropped }) } := by
  have isOwn : server.handlers name = some handler := handlers_of_found found
  have fits := exclusive.fits name handler isOwn
  have writerAfter : ∀ tested,
      (afterDrop name handler server.shared).writer = some tested ↔
        tested ≠ name ∧ server.shared.writer = some tested := by
    intro tested
    unfold afterDrop
    by_cases writes : server.shared.writer = some name
    · simp only [writes, if_true, Option.some.injEq]
      constructor
      · exact nofun
      · intro kept
        rcases kept with ⟨different, same⟩
        exact absurd same.symm different
    · simp only [writes, if_false]
      constructor
      · intro same
        refine ⟨?_, same⟩
        intro isSame
        subst isSame
        exact writes same
      · exact fun both => both.2
  have spares : ∀ tested, tested ≠ name → ∀ other,
      Spares tested other server.shared
        (afterDrop name handler server.shared) := by
    intro tested different other
    have writer :
        (afterDrop name handler server.shared).writer = some tested ↔
          server.shared.writer = some tested := by
      rw [writerAfter tested]
      exact and_iff_right different
    cases holds : handler.pc.guard? with
    | none =>
        have sameMap : (afterDrop name handler server.shared).conversations =
            server.shared.conversations := by
          simp [afterDrop, holds]
        exact (Spares.refl tested other server.shared).with_writer sameMap rfl
          writer
    | some guarded =>
        have released :
            Spares tested other server.shared
              (server.shared.release guarded) :=
          .of_release (fits.heldBy rfl holds) different
        have sameMap : (afterDrop name handler server.shared).conversations =
            server.shared.conversations.release guarded := by
          simp [afterDrop, holds]
        exact released.with_writer sameMap rfl writer
  constructor
  · exact exclusive.agree
  · unfold afterDrop
    cases holds : handler.pc.guard? with
    | none => exact exclusive.fresh
    | some guarded => exact exclusive.fresh.update
  · intro tested writes
    obtain ⟨different, before⟩ := (writerAfter tested).mp writes
    rw [handlers_put_other different]
    exact exclusive.writer tested before
  · intro tested prompts
    by_cases same : tested = name
    · subst same
      exact ⟨_, handlers_put_self⟩
    · rw [handlers_put_other same]
      exact exclusive.prompting tested prompts
  · intro tested other foundOther
    by_cases same : tested = name
    · subst same
      rw [handlers_put_self] at foundOther
      cases foundOther
      refine Fits.of_idle rfl ?_ settled
      intro writes
      exact ((writerAfter tested).mp writes).1 rfl
    · rw [handlers_put_other same] at foundOther
      exact (spares tested same other).fits
        (exclusive.fits tested other foundOther)

/-- A thread that has just been made holds nothing. -/
theorem Exclusive.spawns
    {thread : Thread} (exclusive : Exclusive server)
    (free : server.threads name = none)
    (isNew : ∀ handler, thread.handler? = some handler →
      handler.pc = .checkMode) :
    Exclusive { server with threads := server.threads.put name thread } := by
  have nobody : server.handlers name = none := handlers_of_free free
  have notWriter : server.shared.writer ≠ some name := by
    intro writes
    obtain ⟨handler, found⟩ := exclusive.writer name writes
    rw [nobody] at found
    cases found
  have settled : ¬ server.shared.acp.Outstanding name := by
    intro prompts
    obtain ⟨handler, found⟩ := exclusive.prompting name prompts
    rw [nobody] at found
    cases found
  constructor
  · exact exclusive.agree
  · exact exclusive.fresh
  · intro tested writes
    have different : tested ≠ name := by
      intro isSame
      subst isSame
      exact notWriter writes
    rw [handlers_put_other different]
    exact exclusive.writer tested writes
  · intro tested prompts
    have different : tested ≠ name := by
      intro isSame
      subst isSame
      exact settled prompts
    rw [handlers_put_other different]
    exact exclusive.prompting tested prompts
  · intro tested handler found
    by_cases same : tested = name
    · subst same
      have isPrompt : thread.handler? = some handler := by
        simpa [handlers] using found
      have atStart := isNew handler isPrompt
      have fits : Fits server.shared tested
          { handler with pc := .checkMode } :=
        .of_idle rfl notWriter settled
      rw [← atStart] at fits
      exact fits
    · rw [handlers_put_other same] at found
      exact exclusive.fits tested handler found

theorem Exclusive.step
    {action : Action} (exclusive : Exclusive server) (staged : Staged server)
    (undisturbed : ¬ Disturbs server action)
    (taken : step json cfg action server = some target) :
    Exclusive target := by
  cases step_steps taken with
  | keeps => exact exclusive
  | spawns _ name thread free isNew => exact exclusive.spawns free isNew
  | prompts name env handler next after found moved =>
      exact exclusive.prompts staged found undisturbed moved
  | works name env thread next after found noHandler affected =>
      have wasOutsider : server.handlers name = none := by
        rw [handlers_of_found found]
        exact noHandler.1
      refine exclusive.works
        (handlers_put_outsider after wasOutsider noHandler.2) ?_ affected
      intro tested handler foundHandler engaged removed
      apply undisturbed
      exact .unbinds name env thread tested handler found removed foundHandler
        engaged
  | drops name handler found _ _ =>
      exact exclusive.drops found fun outstanding =>
        undisturbed (.drops name outstanding)
  | configures _ configs _ =>
      exact exclusive.of_spares exclusive.agree exclusive.fresh (fun _ => rfl)
        rfl (fun _ outstanding => outstanding)
        (fun _ _ _ => .of_same rfl rfl rfl)
  | agent action acp outside moved =>
      refine exclusive.of_acp (fun _ => rfl) moved ?_ rfl
      intro sink session content isSame
      subst isSame
      cases outside

/-! ## Every run -/

theorem exclusive_start
    (maxActive idleWindow now : Nat) (loaded : List (String × SessionId)) :
    Exclusive (start maxActive idleWindow now loaded) where
  agree := AcpClient.promptsAgree_spawned
  fresh := start_fresh maxActive idleWindow now loaded
  writer := by
    intro name writes
    cases writes
  prompting := by
    intro name prompts
    rcases prompts with ⟨stream, found, _⟩ | waiting
    · cases found
    · cases waiting
  fits := by
    intro name handler found
    rw [handlers_start] at found
    cases found

open Machine

/-- Whenever no step takes the permit from an engaged handler, every reachable
state has one outstanding prompt for a key at most. -/
theorem undisturbed_prompts_single
    {maxActive idleWindow now : Nat} {loaded : List (String × SessionId)}
    {trace : List Action}
    (run : Run (step json cfg) (fun reached action => ¬ Disturbs reached action)
      (start maxActive idleWindow now loaded) trace server) :
    SinglePrompt server := by
  have both : Exclusive server ∧ Staged server :=
    run.invariant (fun reached => Exclusive reached ∧ Staged reached)
      ⟨exclusive_start maxActive idleWindow now loaded,
        staged_start maxActive idleWindow now loaded⟩
      fun _ _ _ before permitted taken =>
        ⟨before.1.step before.2 permitted taken, before.2.step taken⟩
  exact both.1.singlePrompt

/-- A test that only lets through steps that disturb nobody: no handler is
dropped, no key is removed, and no bridge works. -/
def isCalm (server : Server) : Action → Bool
  | .work name _ =>
      match server.handlers name with
      | some handler =>
          match handler.pc with
          | .bridging _ _ => false
          | _ => true
      | none => false
  | .drop _ => false
  | _ => true

theorem isCalm_sound
    (action : Action) (calm : isCalm server action = true) :
    ¬ Disturbs server action := by
  intro disturbs
  cases disturbs with
  | drops => cases calm
  | refuses name env handler guarded call item binding found atBridge =>
      simp [isCalm, found, atBridge] at calm
  | unbinds name env thread other handler found removed =>
      have isOwn := handlers_of_found found
      cases thread with
      | prompt own => cases removed
      | _ => simp [isCalm, isOwn, Thread.handler?] at calm

/-- Two requests for one key: the second finds the guard taken while the
prompt of the first is at the agent. -/
theorem busy_conversation_keeps_single_prompt :
    ∃ json cfg trace server,
      exec (step json cfg) trace (start 10 60 0 []) = some server ∧
        server.shared.acp.Outstanding 0 ∧
          (∃ handler, server.handlers 1 = some handler ∧
            handler.pc =
              .returned (.error (Http.mapAcquireError .busy))) ∧
            SinglePrompt server := by
  let work (name : Nat) : Action := .work name { now := 0, taskId := ⟨"t"⟩ }
  let trace : List Action :=
    [.request 0 .send plainParams none, work 0, work 0, work 0, .acp .receive,
      .acp (.answer (.session "s")), work 0, work 0, work 0, work 0, work 0,
      work 0, work 0, work 0, .acp .receive,
      .request 1 .stream plainParams none, work 1, work 1, work 1, work 1]
  obtain ⟨server, tested⟩ : ∃ server,
      execTested (step .constant plainConfig) isCalm trace (start 10 60 0 []) =
        some server :=
    ⟨_, rfl⟩
  have run :=
    run_of_execTested (fun reached action calm => isCalm_sound action calm)
      tested
  refine ⟨.constant, plainConfig, trace, server, run.exec_eq, ?_, ?_,
    undisturbed_prompts_single run⟩
  · right
    cases tested
    decide
  · cases tested
    exact ⟨_, rfl, rfl⟩

/-- A client goes away while the agent works for it; the next request of the
conversation finds the guard free. -/
theorem dropped_request_allows_second_prompt :
    ¬ ∀ json cfg trace server,
        Run (step json cfg) free (start 10 60 0 []) trace server →
          SinglePrompt server := by
  intro claimed
  let first : Action := .work 0 { now := 0, taskId := ⟨"t"⟩ }
  let second : Action := .work 1 { now := 0, taskId := ⟨"u"⟩ }
  let trace : List Action :=
    [.request 0 .send plainParams none, first, first, first, .acp .receive,
      .acp (.answer (.session "s")), first, first, first, first, first, first,
      first, first, first, .acp .receive, .drop 0,
      .request 1 .send plainParams none, second, second, second, second, second,
      second, second]
  obtain ⟨server, executed⟩ : ∃ server,
      exec (step .constant plainConfig) trace (start 10 60 0 []) =
        some server :=
    ⟨_, rfl⟩
  have single :=
    (claimed .constant plainConfig trace server (run_of_exec executed)).2
  obtain ⟨one, foundOne, keyOne⟩ : ∃ handler,
      server.handlers 0 = some handler ∧ handler.request.key = "c" := by
    cases executed
    exact ⟨_, rfl, rfl⟩
  obtain ⟨two, foundTwo, keyTwo⟩ : ∃ handler,
      server.handlers 1 = some handler ∧ handler.request.key = "c" := by
    cases executed
    exact ⟨_, rfl, rfl⟩
  have promptsOne : server.shared.acp.Outstanding 0 := by
    right
    cases executed
    decide
  have promptsTwo : server.shared.acp.Outstanding 1 := by
    left
    cases executed
    exact ⟨_, rfl, rfl⟩
  have same :=
    single 0 1 one two foundOne foundTwo (keyOne.trans keyTwo.symm) promptsOne
      promptsTwo
  cases same

end Server

end A2AShim
