import A2AShim.Serve.ConversationInvariant
import A2AShim.Serve.MapSteps

/-!
# What a guard covers

A handler prompts the session of the conversation that `get_or_create` gave
it, but takes the guard of the one it finds by a second look at the key.  The
two are one as long as nobody binds the key anew between these.
-/

namespace A2AShim

namespace ConversationMap

/-- The session of the conversation object is `session`. -/
def HasSession (map : ConversationMap) (ref : ConversationRef)
    (session : SessionId) : Prop :=
  (map.objects ref).map Conversation.acpSessionId = some session

variable {map : ConversationMap} {ref : ConversationRef}
variable {key : String} {session : SessionId} {now : Nat}

theorem HasSession.insert
    {made : SessionId} (has : map.HasSession ref session) (fresh : map.Fresh) :
    (map.insert key made now).HasSession ref session := by
  obtain ⟨conversation, found, isSession⟩ := Option.map_eq_some_iff.mp has
  refine Option.map_eq_some_iff.mpr ⟨conversation, ?_, isSession⟩
  rw [insert_objects_other (ne_fresh_of_found fresh found)]
  exact found

theorem hasSession_insert_fresh :
    (map.insert key session now).HasSession map.fresh session := by
  simp [HasSession, ConversationMap.insert]

theorem Related.hasSession
    {later : ConversationMap} (related : map.Related later)
    (has : map.HasSession ref session) :
    later.HasSession ref session :=
  (related.sessions ref).trans has

end ConversationMap

namespace HandlerPc

/-- The session the handler has got, before it looks for its guard. -/
def session? : HandlerPc → Option SessionId
  | .insertRow session | .findGuard session => some session
  | _ => none

/-- The session a handler is going to prompt, and the object whose guard it
goes for or has. -/
def aim? : HandlerPc → Option (SessionId × ConversationRef)
  | .lockGuard session found => some (session, found)
  | .enter session guarded | .record session guarded _
  | .dispatch session guarded _ => some (session, guarded)
  | _ => none

/-- The handler may have called `session_prompt_blocks`. -/
def hasCalled : HandlerPc → Bool
  | .sendPrompt _ _ | .fetchSink _ _ | .bridging _ _ | .snapshot _ _
  | .push _ _ | .returned _ | .dropped => true
  | _ => false

end HandlerPc

namespace Server

open Machine

/-- The handler `name` holds a guard and is about to prompt the session, or
has called `session_prompt_blocks` for it and not returned yet. -/
def Prompting (server : Server) (name : Nat) (session : SessionId)
    (guarded : ConversationRef) : Prop :=
  ∃ handler,
    server.handlers name = some handler ∧
      handler.pc.guard? = some guarded ∧
        ((∃ taskId, handler.pc = .dispatch session guarded taskId) ∨
          ∃ stream, server.shared.acp.streams name = some stream ∧
            stream.session = session)

/-- Who prompts a session has the guard of the conversation with it. -/
def GuardCovers (server : Server) : Prop :=
  ∀ name session guarded, Prompting server name session guarded →
    server.shared.conversations.HeldBy guarded name ∧
      server.shared.conversations.HasSession guarded session

/-- No two handlers prompt one session. -/
def SinglePrompter (server : Server) : Prop :=
  ∀ first second session one two,
    Prompting server first session one →
      Prompting server second session two → first = second

/-- The steps that bind the key of a handler anew, to another session, after
it has got its conversation and before it looks for the guard. -/
inductive Rebinds (server : Server) : Action → Prop
  | binds (name : Nat) (env : Env) (handler : Handler) (session : SessionId)
      (other : Nat) (waiting : Handler) (expected : SessionId)
      (found : server.handlers name = some handler)
      (atSpawn : handler.pc = .spawning)
      (replied : server.shared.acp.replies name = some (.session session))
      (waits : server.handlers other = some waiting)
      (sameKey : waiting.request.key = handler.request.key)
      (got : waiting.pc.session? = some expected)
      (otherSession : expected ≠ session) :
      Rebinds server (.work name env)

/-- The agent makes no session twice. -/
def FreshSession (server : Server) : Action → Prop
  | .work name _ =>
      ∀ handler session,
        server.handlers name = some handler → handler.pc = .spawning →
          server.shared.acp.replies name = some (.session session) →
            server.shared.conversations.Unused session
  | _ => True

/-! ## The guards -/

/-- Handlers hold the guards they have taken. -/
def Locked (server : Server) : Prop :=
  ∀ name handler guarded, server.handlers name = some handler →
    handler.pc.guard? = some guarded →
      server.shared.conversations.HeldBy guarded name

variable {json : SerdeJson} {cfg : ServeConfig} {server target : Server}
variable {shared after : Shared} {name tested : Nat} {env : Env}
variable {handler : Handler} {next : HandlerPc}

/-- A guard stays with its holder until a handler that has it returns or is
dropped. -/
theorem holder_of_step
    {action : Action} {ref : ConversationRef} {holder : HolderId}
    (fresh : server.shared.conversations.Fresh)
    (taken : step json cfg action server = some target)
    (held : server.shared.conversations.HeldBy ref holder) :
    target.shared.conversations.HeldBy ref holder ∨
      ∃ name before later,
        server.handlers name = some before ∧ before.pc.guard? = some ref ∧
          target.handlers name = some later ∧ later.pc.guard? = none := by
  cases step_steps taken with
  | keeps | spawns | configures | agent => exact .inl held
  | works name env thread next after found noHandler affected =>
      cases affected with
      | removes unwritten =>
          left
          simp only [ConversationMap.HeldBy, ConversationMap.removeAll_objects]
          exact held
      | _ => exact .inl held
  | drops name handler found _ _ =>
      have isOwn : server.handlers name = some handler :=
        handlers_of_found found
      unfold afterDrop
      cases isGuarded : handler.pc.guard? with
      | none => exact .inl held
      | some guarded =>
          by_cases same : ref = guarded
          · subst same
            exact .inr
              ⟨name, handler, _, isOwn, isGuarded, handlers_put_self, rfl⟩
          · exact .inl (held.release_other same)
  | prompts name env handler next after found moved =>
      have isOwn : server.handlers name = some handler :=
        handlers_of_found found
      cases isGuarded : handler.pc.guard? with
      | some guarded =>
          rcases Handler.guarded_cases isGuarded moved with
            ⟨_, same⟩ | ⟨⟨answer, rfl⟩, released⟩
          · rw [same]
            exact .inl held
          · by_cases same : ref = guarded
            · subst same
              exact .inr
                ⟨name, handler, _, isOwn, isGuarded, handlers_put_self, rfl⟩
            · rw [released]
              exact .inl (held.release_other same)
      | none =>
          left
          cases moved with
          | touches touched => exact held.touch touched
          | opens => exact held.insert fresh
          | locks session guarded locked before isTaken =>
              exact held.tryLock_other isTaken
          | refused session released error before
          | tooLarge session released _ error before
          | unsent released _ error _ before
          | unattached released _ error before
          | leaves released _ _ answer before
          | answers released _ answer before
          | pushes released snap answer before =>
              rw [before] at isGuarded
              cases isGuarded
          | _ => exact held

theorem Locked.step
    {action : Action} (locked : Locked server)
    (fresh : server.shared.conversations.Fresh)
    (taken : step json cfg action server = some target) :
    Locked target := by
  intro name handler guarded found isGuarded
  cases handlerStep_of_step taken found with
  | stays _ foundBefore notOwn =>
      have held := locked name handler guarded foundBefore isGuarded
      rcases holder_of_step fresh taken held with
        kept | ⟨other, before, later, isOther, hasGuard, foundLater, dropped⟩
      · exact kept
      · have heldByOther := locked other before guarded isOther hasGuard
        have sameName := held.unique heldByOther
        subst sameName
        rw [found] at foundLater
        cases foundLater
        rw [dropped] at isGuarded
        cases isGuarded
  | arrives _ free atCheck =>
      rw [atCheck] at isGuarded
      cases isGuarded
  | opens env before next isAction foundBefore unguarded opening =>
      generalize target.shared = after at opening
      cases opening with
      | locks session ref locked before isTaken =>
          cases isGuarded
          exact ConversationMap.heldBy_of_tryLock isTaken
      | _ => cases isGuarded
  | moves env before next had isAction foundBefore hadGuard moved =>
      rcases Handler.guarded_cases hadGuard moved with
        ⟨stillGuarded, same⟩ | ⟨⟨answer, rfl⟩, _⟩
      · have sameGuard := stillGuarded.symm.trans isGuarded
        cases sameGuard
        rw [same]
        exact locked name before _ foundBefore hadGuard
      · cases isGuarded
  | drops before => cases isGuarded

/-! ## The sessions handlers have -/

/-- The session a handler has is that of the conversation it means: of the one
its key is bound to until it has looked for the guard, and then of the one
whose guard it goes for. -/
structure Aimed (shared : Shared) (name : Nat) (handler : Handler) :
    Prop where
  kept : ∀ session ref, handler.pc.session? = some session →
    shared.conversations.get handler.request.key = some ref →
      shared.conversations.HasSession ref session
  aimed : ∀ session ref, handler.pc.aim? = some (session, ref) →
    shared.conversations.HasSession ref session
  sent : ∀ guarded stream, handler.pc.guard? = some guarded →
    shared.acp.streams name = some stream →
      shared.conversations.HasSession guarded stream.session
  unsent : handler.pc.hasCalled = false → shared.acp.streams name = none

structure Aims (server : Server) : Prop where
  fresh : server.shared.conversations.Fresh
  bound : ∀ key ref, server.shared.conversations.get key = some ref →
    (server.shared.conversations.objects ref).isSome = true
  unnamed : ∀ name, server.handlers name = none →
    server.shared.acp.streams name = none
  each : ∀ name handler, server.handlers name = some handler →
    Aimed server.shared name handler

theorem guardCovers_of_aims
    (locked : Locked server) (aims : Aims server) :
    GuardCovers server := by
  intro name session guarded prompting
  obtain ⟨handler, found, isGuarded, ⟨taskId, atDispatch⟩ | ⟨stream, isStream, rfl⟩⟩ :=
    prompting
  · refine ⟨locked name handler guarded found isGuarded, ?_⟩
    exact (aims.each name handler found).aimed session guarded
      (by rw [atDispatch]; rfl)
  · refine ⟨locked name handler guarded found isGuarded, ?_⟩
    exact (aims.each name handler found).sent guarded stream isGuarded isStream

theorem called_settled
    {pc : HandlerPc} (called : pc.hasCalled = true) :
    pc.session? = none ∧ pc.aim? = none := by
  cases pc <;> first | exact ⟨rfl, rfl⟩ | cases called

/-- Positions after the call, whose guard covers the stream. -/
theorem Aimed.of_called
    (called : next.hasCalled = true)
    (sent : ∀ guarded stream, next.guard? = some guarded →
      after.acp.streams name = some stream →
        after.conversations.HasSession guarded stream.session) :
    Aimed after name { handler with pc := next } where
  kept := by
    intro session ref has
    rw [(called_settled called).1] at has
    cases has
  aimed := by
    intro session ref has
    rw [(called_settled called).2] at has
    cases has
  sent := sent
  unsent := by
    intro uncalled
    rw [called] at uncalled
    cases uncalled

theorem Aimed.of_returned
    (answer : Except JsonRpcError (Option Task)) :
    Aimed after name { handler with pc := .returned answer } :=
  .of_called rfl nofun

/-- Positions before the call. -/
theorem Aimed.of_uncalled
    (unsent : after.acp.streams name = none)
    (kept : ∀ session ref, next.session? = some session →
      after.conversations.get handler.request.key = some ref →
        after.conversations.HasSession ref session)
    (aimed : ∀ session ref, next.aim? = some (session, ref) →
      after.conversations.HasSession ref session) :
    Aimed after name { handler with pc := next } where
  kept := kept
  aimed := aimed
  sent := by
    intro guarded stream _ isStream
    rw [unsent] at isStream
    cases isStream
  unsent := fun _ => unsent

/-- A step on the handler's own way to the guard. -/
theorem Aimed.of_opening
    (aims : Aims server) (isOwn : server.handlers name = some handler)
    (opening :
      Handler.Opening cfg name env handler server.shared next after) :
    Aimed after name { handler with pc := next } := by
  have aimed := aims.each name handler isOwn
  have unsent : ∀ {pc : HandlerPc}, handler.pc = pc → pc.hasCalled = false →
      server.shared.acp.streams name = none := by
    intro pc atPc uncalled
    apply aimed.unsent
    rw [atPc]
    exact uncalled
  cases opening with
  | passes before => exact .of_uncalled (unsent before rfl) nofun nofun
  | misses before => exact .of_uncalled (unsent before rfl) nofun nofun
  | hits ref before unwritten found =>
      have noStream : server.shared.acp.streams name = none := by
        rcases before with before | before
        · exact unsent before rfl
        · exact unsent before rfl
      refine .of_uncalled noStream ?_ nofun
      intro session other has present
      cases has
      have sameRef := found.symm.trans present
      cases sameRef
      obtain ⟨conversation, isObject⟩ :=
        Option.isSome_iff_exists.mp (aims.bound _ ref found)
      apply (ConversationMap.related_touch _ ref env.now).hasSession
      simp [ConversationMap.HasSession, isObject]
  | asks acp before unwritten absent submitted =>
      have kept :
          (acp.streams name).map PromptStream.session =
            (server.shared.acp.streams name).map PromptStream.session :=
        AcpClient.session_of_step submitted (by simp)
      rw [unsent before rfl, Option.map_none, Option.map_eq_none_iff] at kept
      exact .of_uncalled kept nofun nofun
  | opens session before replied =>
      refine .of_uncalled (unsent before rfl) ?_ nofun
      intro made ref has present
      cases has
      rw [ConversationMap.insert_get_self] at present
      cases present
      exact ConversationMap.hasSession_insert_fresh
  | unopened error before => exact .of_returned _
  | records session before =>
      refine .of_uncalled (unsent before rfl) ?_ nofun
      intro made ref has present
      cases has
      exact aimed.kept session ref (by rw [before]; rfl) present
  | aims session found before unwritten bound =>
      refine .of_uncalled (unsent before rfl) nofun ?_
      intro meant ref has
      cases has
      exact aimed.kept session found (by rw [before]; rfl) bound
  | locks session found locked before taken =>
      refine .of_uncalled (unsent before rfl) nofun ?_
      intro meant ref has
      cases has
      apply (ConversationMap.related_tryLock taken).hasSession
      exact aimed.aimed session found (by rw [before]; rfl)
  | refuses error before => exact .of_returned _

/-- A handler that prepares its prompt. -/
theorem Aimed.prepares
    (aimed : Aimed shared name handler) (sameAim : next.aim? = handler.pc.aim?)
    (got : next.session? = none) (uncalled : handler.pc.hasCalled = false)
    (sameMap : after.conversations = shared.conversations)
    (sameAcp : after.acp = shared.acp) :
    Aimed after name { handler with pc := next } := by
  refine .of_uncalled ?_ ?_ ?_
  · rw [sameAcp]
    exact aimed.unsent uncalled
  · intro session ref has
    rw [got] at has
    cases has
  · intro session ref has
    rw [sameAim] at has
    rw [sameMap]
    exact aimed.aimed session ref has

/-- A handler that goes on with the prompt it has started. -/
theorem Aimed.goes_on
    {guarded : ConversationRef} (aimed : Aimed shared name handler)
    (before : handler.pc.guard? = some guarded)
    (now : next.guard? = some guarded) (called : next.hasCalled = true)
    (sameMap : after.conversations = shared.conversations)
    (sameSession :
      (after.acp.streams name).map PromptStream.session =
        (shared.acp.streams name).map PromptStream.session) :
    Aimed after name { handler with pc := next } := by
  refine .of_called called ?_
  intro ref stream isGuarded isStream
  have sameGuard := now.symm.trans isGuarded
  cases sameGuard
  rw [isStream, Option.map_some] at sameSession
  obtain ⟨earlier, isEarlier, sameId⟩ :=
    Option.map_eq_some_iff.mp sameSession.symm
  rw [sameMap, ← sameId]
  exact aimed.sent guarded earlier before isEarlier

/-- A step of a handler that has its guard. -/
theorem Aimed.of_moves
    {guarded : ConversationRef} (aimed : Aimed shared name handler)
    (isGuarded : handler.pc.guard? = some guarded)
    (moved : Handler.Moves json cfg name env handler shared next after) :
    Aimed after name { handler with pc := next } := by
  rcases Handler.guarded_cases isGuarded moved with
    ⟨stillGuarded, sameMap⟩ | ⟨⟨answer, rfl⟩, _⟩
  · cases moved with
    | resumes session held existing tasks before
    | creates session held before
    | records session held taskId before =>
        refine aimed.prepares ?_ rfl ?_ rfl rfl
        · rw [before]
          rfl
        · rw [before]
          rfl
    | routes session held taskId content acp before registered =>
        obtain ⟨_, isAcp⟩ := AcpClient.registerRoute_some registered
        have has :=
          aimed.aimed session held (by rw [before]; rfl)
        refine .of_called rfl ?_
        intro ref stream isHeld isStream
        cases isHeld
        have isNew : acp.streams name =
            some { session, content, status := .registered, items := []
                   taken := 0 } := by
          rw [isAcp]
          exact AcpClient.putStream_self _ _ _
        rw [isNew] at isStream
        cases isStream
        exact has
    | sends _ held taskId acp before isNext called =>
        refine aimed.goes_on isGuarded stillGuarded ?_ rfl
          (AcpClient.session_of_step called (by simp))
        rcases isNext with rfl | rfl
        · rfl
        · rfl
    | polls held call stream item acp before atNext found member taken =>
        exact aimed.goes_on isGuarded stillGuarded rfl rfl
          (AcpClient.session_of_step taken (by simp))
    | attaches | ends | bridges | settles | announces =>
        exact aimed.goes_on isGuarded stillGuarded rfl rfl rfl
    | idles _ before isIdle =>
        rw [Handler.isIdle_of_guard stillGuarded] at isIdle
        cases isIdle
    | locks session held locked before =>
        rw [before] at isGuarded
        cases isGuarded
    | _ => cases stillGuarded
  · exact .of_returned answer

theorem moves_session
    (moved : Handler.Moves json cfg name env handler shared next after)
    (different : tested ≠ name) :
    (after.acp.streams tested).map PromptStream.session =
      (shared.acp.streams tested).map PromptStream.session := by
  cases moved with
  | asks acp _ _ _ submitted =>
      exact AcpClient.session_of_step submitted (by simp)
  | routes session guarded taskId content acp _ registered =>
      apply AcpClient.session_of_step registered
      intro otherSession otherContent same
      cases same
      exact different rfl
  | unsent guarded taskId error acp _ _ called =>
      exact AcpClient.session_of_step called (by simp)
  | sends _ guarded taskId acp _ _ called =>
      exact AcpClient.session_of_step called (by simp)
  | polls guarded call stream item acp _ _ _ _ taken =>
      exact AcpClient.session_of_step taken (by simp)
  | _ => rfl

/-- The streams of a name change their sessions only when its handler works. -/
theorem session_of_step
    {action : Action} (taken : step json cfg action server = some target)
    (tested : Nat)
    (notOwn : ∀ env handler, action = .work tested env →
      server.handlers tested = some handler → False) :
    (target.shared.acp.streams tested).map PromptStream.session =
      (server.shared.acp.streams tested).map PromptStream.session := by
  cases step_steps taken with
  | keeps | spawns | configures | drops => rfl
  | agent action acp outside moved =>
      apply AcpClient.session_of_step moved
      intro session content same
      subst same
      cases outside
  | works name env thread next after found noHandler affected =>
      cases affected with
      | submits command acp submitted =>
          exact AcpClient.session_of_step submitted (by simp)
      | _ => rfl
  | prompts name env handler next after found moved =>
      apply moves_session moved
      intro same
      subst same
      exact notOwn env handler rfl (handlers_of_found found)

/-- Handlers stay. -/
theorem handlers_none_of_step
    {action : Action} (taken : step json cfg action server = some target)
    (gone : target.handlers name = none) :
    server.handlers name = none := by
  cases step_steps taken with
  | keeps | configures | agent => exact gone
  | spawns _ other thread free isNew =>
      by_cases same : name = other
      · subst same
        exact handlers_of_free free
      · rw [handlers_put_other same] at gone
        exact gone
  | works other env thread next after found noHandler affected =>
      have outsider : server.handlers other = none := by
        rw [handlers_of_found found]
        exact noHandler.1
      rw [handlers_put_outsider after outsider noHandler.2] at gone
      exact gone
  | prompts other env handler next after found moved =>
      by_cases same : name = other
      · subst same
        rw [handlers_put_self] at gone
        cases gone
      · rw [handlers_put_other same] at gone
        exact gone
  | drops other handler found =>
      by_cases same : name = other
      · subst same
        rw [handlers_put_self] at gone
        cases gone
      · rw [handlers_put_other same] at gone
        exact gone

theorem hasSession_of_change
    {action : Action} {ref : ConversationRef} {session : SessionId}
    (change : MapChange server action target)
    (fresh : server.shared.conversations.Fresh)
    (has : server.shared.conversations.HasSession ref session) :
    target.shared.conversations.HasSession ref session := by
  cases change with
  | keeps related => exact related.hasSession has
  | binds name env handler made _ _ _ _ _ isMap =>
      rw [isMap]
      exact has.insert fresh
  | removes name env thread _ _ isMap =>
      rw [isMap, ConversationMap.HasSession, ConversationMap.removeAll_objects]
      exact has

/-- What the others do leaves a handler its session, unless its key is bound
anew. -/
theorem Aimed.of_change
    {action : Action} (aimed : Aimed server.shared name handler)
    (found : server.handlers name = some handler)
    (change : MapChange server action target)
    (fresh : server.shared.conversations.Fresh)
    (steady : ¬ Rebinds server action)
    (sameSession :
      (target.shared.acp.streams name).map PromptStream.session =
        (server.shared.acp.streams name).map PromptStream.session) :
    Aimed target.shared name handler where
  kept := by
    intro session ref got present
    cases change with
    | keeps related =>
        rw [related.keys] at present
        exact related.hasSession (aimed.kept session ref got present)
    | binds other env opener made isAction foundOpener atSpawn replied _
        isMap =>
        subst isAction
        rw [isMap] at present ⊢
        by_cases sameKey : handler.request.key = opener.request.key
        · have isMade : session = made := by
            by_contra otherSession
            exact steady (.binds other env opener made name handler session
              foundOpener atSpawn replied found sameKey got otherSession)
          subst isMade
          rw [sameKey, ConversationMap.insert_get_self] at present
          cases present
          exact ConversationMap.hasSession_insert_fresh
        · rw [ConversationMap.insert_get_other sameKey] at present
          exact (aimed.kept session ref got present).insert fresh
    | removes other env thread _ _ isMap =>
        rw [isMap] at present
        by_cases removed : handler.request.key ∈ thread.removes
        · rw [ConversationMap.removeAll_get_self removed] at present
          cases present
        · rw [ConversationMap.removeAll_get_other removed] at present
          rw [isMap, ConversationMap.HasSession,
            ConversationMap.removeAll_objects]
          exact aimed.kept session ref got present
  aimed := fun session ref aim =>
    hasSession_of_change change fresh (aimed.aimed session ref aim)
  sent := by
    intro guarded stream isGuarded isStream
    rw [isStream, Option.map_some] at sameSession
    obtain ⟨earlier, isEarlier, sameId⟩ :=
      Option.map_eq_some_iff.mp sameSession.symm
    rw [← sameId]
    exact hasSession_of_change change fresh
      (aimed.sent guarded earlier isGuarded isEarlier)
  unsent := by
    intro uncalled
    rw [aimed.unsent uncalled, Option.map_none, Option.map_eq_none_iff]
      at sameSession
    exact sameSession

theorem fresh_of_change
    {action : Action} (change : MapChange server action target)
    (fresh : server.shared.conversations.Fresh) :
    target.shared.conversations.Fresh := by
  cases change with
  | keeps related =>
      intro ref later
      rw [related.fresh] at later
      have sameSession := related.sessions ref
      rw [fresh ref later, Option.map_none, Option.map_eq_none_iff]
        at sameSession
      exact sameSession
  | binds name env handler made _ _ _ _ _ isMap =>
      rw [isMap]
      exact fresh.insert
  | removes name env thread _ _ isMap =>
      rw [isMap]
      intro ref later
      rw [ConversationMap.removeAll_fresh] at later
      rw [ConversationMap.removeAll_objects]
      exact fresh ref later

theorem isSome_of_change
    {action : Action} {ref : ConversationRef}
    (change : MapChange server action target)
    (fresh : server.shared.conversations.Fresh)
    (isObject :
      (server.shared.conversations.objects ref).isSome = true) :
    (target.shared.conversations.objects ref).isSome = true := by
  obtain ⟨conversation, found⟩ := Option.isSome_iff_exists.mp isObject
  have has : server.shared.conversations.HasSession ref
      conversation.acpSessionId :=
    congrArg (Option.map Conversation.acpSessionId) found
  obtain ⟨later, foundLater, _⟩ :=
    Option.map_eq_some_iff.mp (hasSession_of_change change fresh has)
  exact Option.isSome_iff_exists.mpr ⟨later, foundLater⟩

theorem bound_of_change
    {action : Action} {key : String} {ref : ConversationRef}
    (aims : Aims server) (change : MapChange server action target)
    (present : target.shared.conversations.get key = some ref) :
    (target.shared.conversations.objects ref).isSome = true := by
  have before :
      server.shared.conversations.get key = some ref →
        (target.shared.conversations.objects ref).isSome = true :=
    fun earlier =>
      isSome_of_change change aims.fresh (aims.bound key ref earlier)
  cases change with
  | keeps related =>
      rw [related.keys] at present
      exact before present
  | binds name env handler made _ _ _ _ _ isMap =>
      by_cases same : key = handler.request.key
      · rw [isMap, same, ConversationMap.insert_get_self] at present
        cases present
        rw [isMap]
        simp [ConversationMap.insert]
      · rw [isMap, ConversationMap.insert_get_other same] at present
        exact before present
  | removes name env thread _ _ isMap =>
      rw [isMap] at present
      by_cases removed : key ∈ thread.removes
      · rw [ConversationMap.removeAll_get_self removed] at present
        cases present
      · rw [ConversationMap.removeAll_get_other removed] at present
        exact before present

theorem Aims.step
    {action : Action} (aims : Aims server) (steady : ¬ Rebinds server action)
    (taken : step json cfg action server = some target) :
    Aims target := by
  have change := mapChange_of_step taken
  refine
    { fresh := fresh_of_change change aims.fresh
      bound := fun key ref => bound_of_change aims change
      unnamed := ?_
      each := ?_ }
  · intro name gone
    have goneBefore := handlers_none_of_step taken gone
    have kept :=
      session_of_step taken name fun env handler _ found => by
        rw [goneBefore] at found
        cases found
    rw [aims.unnamed name goneBefore, Option.map_none, Option.map_eq_none_iff]
      at kept
    exact kept
  · intro name handler found
    cases handlerStep_of_step taken found with
    | stays _ foundBefore notOwn =>
        exact (aims.each name handler foundBefore).of_change foundBefore change
          aims.fresh steady
          (session_of_step taken name fun env _ isOwn _ => notOwn env isOwn)
    | arrives _ free atCheck sameShared =>
        have noStream : target.shared.acp.streams name = none := by
          rw [sameShared]
          exact aims.unnamed name (handlers_of_free free)
        have arrived : Aimed target.shared name { handler with pc := .checkMode } :=
          .of_uncalled noStream nofun nofun
        rw [← atCheck] at arrived
        exact arrived
    | opens env before next isAction foundBefore unguarded opening =>
        exact .of_opening aims foundBefore opening
    | moves env before next guarded isAction foundBefore isGuarded moved =>
        exact (aims.each name before foundBefore).of_moves isGuarded moved
    | drops before => exact .of_called rfl nofun

/-! ## Every run -/

/-- Where no two conversations have one session, no two handlers prompt one. -/
theorem GuardCovers.singlePrompter
    (covers : GuardCovers server)
    (distinct : server.shared.conversations.DistinctSessions) :
    SinglePrompter server := by
  intro first second session one two prompting promptingToo
  obtain ⟨held, has⟩ := covers first session one prompting
  obtain ⟨heldToo, hasToo⟩ := covers second session two promptingToo
  obtain ⟨conversation, found, isSession⟩ := Option.map_eq_some_iff.mp has
  obtain ⟨other, foundOther, isOther⟩ := Option.map_eq_some_iff.mp hasToo
  have sameRef :=
    distinct one two conversation other found foundOther
      (isSession.trans isOther.symm)
  subst sameRef
  exact held.unique heldToo

theorem distinct_of_step
    {action : Action}
    (distinct : server.shared.conversations.DistinctSessions)
    (freshSession : FreshSession server action)
    (taken : step json cfg action server = some target) :
    target.shared.conversations.DistinctSessions := by
  cases mapChange_of_step taken with
  | keeps related =>
      intro first second one two foundOne foundTwo same
      have sessionOne := related.sessions first
      have sessionTwo := related.sessions second
      rw [foundOne, Option.map_some] at sessionOne
      rw [foundTwo, Option.map_some] at sessionTwo
      obtain ⟨earlier, foundEarlier, isOne⟩ :=
        Option.map_eq_some_iff.mp sessionOne.symm
      obtain ⟨sooner, foundSooner, isTwo⟩ :=
        Option.map_eq_some_iff.mp sessionTwo.symm
      exact distinct first second earlier sooner foundEarlier foundSooner
        (isOne.trans (same.trans isTwo.symm))
  | binds name env handler session isAction found atSpawn replied _ isMap =>
      subst isAction
      rw [isMap]
      exact distinct.insert (freshSession handler session found atSpawn replied)
  | removes name env thread _ _ isMap =>
      rw [isMap]
      intro first second one two foundOne foundTwo same
      rw [ConversationMap.removeAll_objects] at foundOne foundTwo
      exact distinct first second one two foundOne foundTwo same

theorem bound_start
    (maxActive idleWindow now : Nat) (loaded : List (String × SessionId)) :
    let map := (start maxActive idleWindow now loaded).shared.conversations
    map.Fresh ∧ ∀ key ref, map.get key = some ref →
      (map.objects ref).isSome = true := by
  refine start_invariant
    (fun map => map.Fresh ∧ ∀ key ref,
      map.get key = some ref → (map.objects ref).isSome = true) loaded ?_ ?_
  · refine ⟨fun _ _ => rfl, ?_⟩
    intro key ref present
    simp [ConversationMap.get, ConversationMap.new] at present
  · intro map inserted session before
    refine ⟨before.1.insert, ?_⟩
    intro key ref present
    by_cases same : key = inserted
    · rw [same, ConversationMap.insert_get_self] at present
      cases present
      simp [ConversationMap.insert]
    · rw [ConversationMap.insert_get_other same] at present
      have isObject := before.2 key ref present
      obtain ⟨conversation, found⟩ := Option.isSome_iff_exists.mp isObject
      rw [ConversationMap.insert_objects_other
        (ConversationMap.ne_fresh_of_found before.1 found)]
      exact isObject

theorem aims_start
    (maxActive idleWindow now : Nat) (loaded : List (String × SessionId)) :
    Aims (start maxActive idleWindow now loaded) where
  fresh := start_fresh maxActive idleWindow now loaded
  bound := (bound_start maxActive idleWindow now loaded).2
  unnamed := fun _ _ => rfl
  each := by
    intro name handler found
    rw [handlers_start] at found
    cases found

theorem distinct_start
    {loaded : List (String × SessionId)} (maxActive idleWindow now : Nat)
    (nodup : (loaded.map Prod.snd).Nodup) :
    (start maxActive idleWindow now
      loaded).shared.conversations.DistinctSessions := by
  have rows : ∀ (rows : List (String × SessionId)) (map : ConversationMap),
      (rows.map Prod.snd).Nodup → map.DistinctSessions →
        (∀ row, row ∈ rows → map.Unused row.2) →
          (rows.foldl (fun map row => map.insertLoaded row.1 row.2 now)
            map).DistinctSessions := by
    intro rows
    induction rows with
    | nil => exact fun _ _ distinct _ => distinct
    | cons row rest inductionHypothesis =>
        intro map nodup distinct unused
        rw [List.map_cons, List.nodup_cons] at nodup
        have unusedHere := unused row List.mem_cons_self
        have unusedLater : ∀ other, other ∈ rest → map.Unused other.2 :=
          fun other member => unused other (List.mem_cons_of_mem _ member)
        rw [List.foldl_cons]
        unfold ConversationMap.insertLoaded
        split
        · exact inductionHypothesis map nodup.2 distinct unusedLater
        · apply inductionHypothesis _ nodup.2 (distinct.insert unusedHere)
          intro other member ref conversation found same
          rcases ConversationMap.insert_objects_cases found with
            ⟨_, _, isSession⟩ | ⟨_, earlier⟩
          · apply nodup.1
            rw [← isSession, same]
            exact List.mem_map_of_mem member
          · exact unusedLater other member ref conversation earlier same
  apply rows loaded _ nodup
  · intro ref other conversation otherConversation found
    cases found
  · intro row _ ref conversation found
    cases found

/-- As long as no key is bound anew while a handler that has its conversation
looks for the guard, every handler has the guard of what it prompts; and where
no session is made or restored twice, no two handlers prompt one. -/
theorem guards_cover
    {maxActive idleWindow now : Nat} {loaded : List (String × SessionId)}
    {trace : List Action}
    (run : Run (step json cfg) (fun reached action => ¬ Rebinds reached action)
      (start maxActive idleWindow now loaded) trace server) :
    GuardCovers server ∧
      ((loaded.map Prod.snd).Nodup →
        Run (step json cfg) FreshSession
          (start maxActive idleWindow now loaded) trace server →
            SinglePrompter server) := by
  have both : Locked server ∧ Aims server := by
    refine run.invariant (fun reached => Locked reached ∧ Aims reached) ?_ ?_
    · refine ⟨?_, aims_start maxActive idleWindow now loaded⟩
      intro name handler guarded found
      rw [handlers_start] at found
      cases found
    · intro source action next before steady taken
      exact ⟨before.1.step before.2.fresh taken, before.2.step steady taken⟩
  have covers := guardCovers_of_aims both.1 both.2
  refine ⟨covers, ?_⟩
  intro nodup freshRun
  apply covers.singlePrompter
  exact freshRun.invariant
    (fun reached => reached.shared.conversations.DistinctSessions)
    (distinct_start maxActive idleWindow now nodup)
    fun _ _ _ distinct freshSession taken =>
      distinct_of_step distinct freshSession taken

theorem not_rebinds_of_leavesKeys
    {action : Action} (leaves : leavesKeys server action = true) :
    ¬ Rebinds server action := by
  intro rebinds
  cases rebinds with
  | binds name env handler session other waiting expected found atSpawn =>
      simp [leavesKeys, thread_of_handlers found, atSpawn] at leaves

/-- One request prompts the session it has made. -/
theorem lone_request_covered :
    ∃ trace server,
      exec (step .constant plainConfig) trace (start 10 60 0 []) =
          some server ∧
        Prompting server 0 "s" 0 ∧ GuardCovers server := by
  let work : Action := .work 0 { now := 0, taskId := ⟨"t"⟩ }
  let before : List Action :=
    [.request 0 .send plainParams none, work, work, work, .acp .receive,
      .acp (.answer (.session "s"))]
  let after : List Action := [work, work, work, work, work, work, work]
  obtain ⟨spawning, toSpawning⟩ : ∃ spawning,
      execTested (step .constant plainConfig) leavesKeys before
        (start 10 60 0 []) = some spawning :=
    ⟨_, rfl⟩
  obtain ⟨opened, opens⟩ : ∃ opened,
      step .constant plainConfig work spawning = some opened := by
    cases toSpawning
    exact ⟨_, rfl⟩
  obtain ⟨server, toEnd⟩ : ∃ server,
      execTested (step .constant plainConfig) leavesKeys after opened =
        some server := by
    cases toSpawning
    cases opens
    exact ⟨_, rfl⟩
  have steady :
      ¬ Rebinds spawning (.work 0 { now := 0, taskId := ⟨"t"⟩ }) := by
    intro rebinds
    cases toSpawning
    cases rebinds with
    | binds _ _ _ session other waiting expected _ _ _ waits _ got =>
        match other, waits with
        | 0, waits =>
            cases waits
            cases got
        | _ + 1, waits => cases waits
  have run :=
    ((run_of_execTested (fun _ _ => not_rebinds_of_leavesKeys)
      toSpawning).snoc steady opens).append
        (run_of_execTested (fun _ _ => not_rebinds_of_leavesKeys) toEnd)
  refine ⟨_, server, run.exec_eq, ?_, (guards_cover run).1⟩
  cases toSpawning
  cases opens
  cases toEnd
  exact ⟨_, rfl, rfl, .inr ⟨_, rfl, rfl⟩⟩

/-- A reset removes the key of a request that has its conversation but not yet
its guard; the next request makes another one under the key. -/
theorem guard_of_other_conversation :
    ¬ ∀ cfg trace server,
        Run (step .constant cfg) free (start 10 60 0 []) trace server →
          GuardCovers server := by
  intro claimed
  let first : Action := .work 0 { now := 0, taskId := ⟨"t"⟩ }
  let second : Action := .work 1 { now := 0, taskId := ⟨"u"⟩ }
  let reset : Action := .work 2 { now := 0, taskId := ⟨"v"⟩ }
  let trace : List Action :=
    [.request 0 .send plainParams none, first, first, first, .acp .receive,
      .acp (.answer (.session "s1")), first, first,
      .reset 2 "c" none none, reset, reset, reset, .acp .receive, reset, reset,
      .request 1 .send plainParams none, second, second, second,
      .acp .receive, .acp (.answer (.session "s2")), second,
      first, first, first, first, first, first]
  obtain ⟨server, executed⟩ : ∃ server,
      exec (step .constant plainConfig) trace (start 10 60 0 []) =
        some server :=
    ⟨_, rfl⟩
  have covers := claimed plainConfig trace server (run_of_exec executed)
  have prompting : Prompting server 0 "s1" 1 := by
    cases executed
    exact ⟨_, rfl, rfl, .inr ⟨_, rfl, rfl⟩⟩
  have has := (covers 0 "s1" 1 prompting).2
  cases executed
  have same : some "s2" = some "s1" := has
  exact absurd same (by decide)

end Server

end A2AShim
