import A2AShim.Serve.GuardCovers
import A2AShim.Serve.Waiting

/-!
# The sessions of a key

A session reaches the agent again in prompts and cancels.  Each of them is for
a conversation key: that of the prompt, of the reset, or of the Task to cancel.
The session is one that was restored for this key, or that the agent has made
for a request with it.
-/

namespace A2AShim

namespace ConversationMap

/-- The key and the session of a conversation object. -/
def entry (map : ConversationMap) (ref : ConversationRef) :
    Option (String × SessionId) :=
  (map.objects ref).map fun conversation =>
    (conversation.id, conversation.acpSessionId)

/-- A conversation has been made under `key` for `session`; it may have left
the map since. -/
def Filed (map : ConversationMap) (key : String) (session : SessionId) :
    Prop :=
  ∃ ref, map.entry ref = some (key, session)

variable {map : ConversationMap} {ref tested : ConversationRef}
variable {key : String} {session : SessionId} {now : Nat}

theorem entry_touch : (map.touch ref now).entry tested = map.entry tested :=
  touch_field _ (fun _ => rfl) tested

theorem entry_release :
    (map.release ref).entry tested = map.entry tested := by
  apply update_field
  intro conversation
  rfl

theorem entry_tryLock
    {locked : ConversationMap} {holder : HolderId}
    (taken : map.tryLock ref holder = some locked) :
    locked.entry tested = map.entry tested := by
  unfold tryLock at taken
  split at taken
  · cases taken
  · split at taken
    · cases taken
    · cases taken
      apply update_field
      intro conversation
      rfl

theorem entry_insert_self :
    (map.insert key session now).entry map.fresh = some (key, session) := by
  simp [entry, insert]

theorem entry_insert_other (earlier : tested ≠ map.fresh) :
    (map.insert key session now).entry tested = map.entry tested := by
  rw [entry, insert_objects_other earlier, entry]

/-- No conversation is made from one map to the other, and no key bound. -/
structure Within (map later : ConversationMap) : Prop where
  entries : ∀ ref, later.entry ref = map.entry ref
  keys : ∀ key ref, later.get key = some ref → map.get key = some ref

theorem within_refl (map : ConversationMap) : map.Within map :=
  ⟨fun _ => rfl, fun _ _ => id⟩

theorem within_removeAll (keys : List String) (map : ConversationMap) :
    map.Within (keys.foldl ConversationMap.remove map) where
  entries := by
    intro ref
    rw [entry, removeAll_objects, entry]
  keys := by
    intro key ref present
    by_cases removed : key ∈ keys
    · rw [removeAll_get_self removed] at present
      cases present
    · rwa [removeAll_get_other removed] at present

theorem filed_of_insert
    {other : String} {made : SessionId}
    (filed : (map.insert other made now).Filed key session) :
    map.Filed key session ∨ key = other ∧ session = made := by
  obtain ⟨ref, isEntry⟩ := filed
  by_cases isNew : ref = map.fresh
  · subst isNew
    rw [entry_insert_self] at isEntry
    cases isEntry
    exact .inr ⟨rfl, rfl⟩
  · rw [entry_insert_other isNew] at isEntry
    exact .inl ⟨ref, isEntry⟩

/-- Only restored conversations come in at startup. -/
theorem filed_of_loaded
    (rows : List (String × SessionId)) (map : ConversationMap)
    (filed :
      (rows.foldl (fun map row => map.insertLoaded row.1 row.2 now)
        map).Filed key session) :
    map.Filed key session ∨ (key, session) ∈ rows := by
  induction rows generalizing map with
  | nil => exact .inl filed
  | cons row rest inductionHypothesis =>
      rw [List.foldl_cons] at filed
      rcases inductionHypothesis _ filed with earlier | later
      · unfold insertLoaded at earlier
        split at earlier
        · exact .inl earlier
        · rcases filed_of_insert earlier with before | ⟨rfl, rfl⟩
          · exact .inl before
          · exact .inr List.mem_cons_self
      · exact .inr (List.mem_cons_of_mem _ later)

/-- Every key is the key of the conversation it leads to. -/
def Indexed (map : ConversationMap) : Prop :=
  ∀ key ref, map.get key = some ref →
    ∃ session, map.entry ref = some (key, session)

theorem Indexed.within
    {later : ConversationMap} (indexed : map.Indexed)
    (within : map.Within later) :
    later.Indexed := by
  intro key ref present
  obtain ⟨session, isEntry⟩ := indexed key ref (within.keys key ref present)
  exact ⟨session, (within.entries ref).trans isEntry⟩

theorem Indexed.insert
    {made : SessionId} (indexed : map.Indexed) (fresh : map.Fresh) :
    (map.insert key made now).Indexed := by
  intro tested ref present
  by_cases same : tested = key
  · subst same
    rw [insert_get_self] at present
    cases present
    exact ⟨made, entry_insert_self⟩
  · rw [insert_get_other same] at present
    obtain ⟨session, isEntry⟩ := indexed tested ref present
    obtain ⟨conversation, found, _⟩ := Option.map_eq_some_iff.mp isEntry
    exact ⟨session,
      (entry_insert_other (ne_fresh_of_found fresh found)).trans isEntry⟩

theorem Indexed.filed
    {conversation : Conversation} (indexed : map.Indexed)
    (bound : map.get key = some ref)
    (found : map.objects ref = some conversation) :
    map.Filed key conversation.acpSessionId := by
  obtain ⟨session, isEntry⟩ := indexed key ref bound
  refine ⟨ref, ?_⟩
  rw [entry, found] at isEntry ⊢
  cases isEntry
  rfl

theorem Filed.within
    {later : ConversationMap} (filed : map.Filed key session)
    (within : map.Within later) :
    later.Filed key session := by
  obtain ⟨ref, isEntry⟩ := filed
  exact ⟨ref, (within.entries ref).trans isEntry⟩

theorem Filed.insert
    {other : String} {made : SessionId}
    (filed : map.Filed key session) (fresh : map.Fresh) :
    (map.insert other made now).Filed key session := by
  obtain ⟨ref, isEntry⟩ := filed
  obtain ⟨conversation, found, _⟩ := Option.map_eq_some_iff.mp isEntry
  exact ⟨ref, (entry_insert_other (ne_fresh_of_found fresh found)).trans
    isEntry⟩

end ConversationMap

/-- Names the thread a command comes from. -/
def Command.issuer : Command → Nat
  | .prompt _ _ sink => sink
  | .initializeAgent respond | .sessionNew _ respond
  | .loadSession _ _ respond | .resumeSession _ _ respond
  | .cancel _ respond => respond

/-- A session comes to a channel as the agent's answer, and to no other. -/
theorem AcpClient.session_replied
    {client target : AcpClient} {action : Action} {call : CallId}
    {session : SessionId}
    (taken : step action client = some target)
    (got : target.replies call = some (.session session)) :
    client.replies call = some (.session session) ∨
      action = .answer (.session session) ∧
        ∀ other, other ≠ call →
          target.replies other = client.replies other := by
  rcases reply_of_step taken got with earlier | ⟨command, isCall, answers⟩
  · exact .inl earlier
  · cases answers with
    | bySending _ _ _ _ isDone => cases isDone
    | byAgent awaited =>
        refine .inr ⟨rfl, ?_⟩
        intro other different
        obtain ⟨asked, atAwait, _, ⟨_, _, _, rfl⟩ | ⟨respond, isOwn, rfl⟩⟩ :=
          answered_cases taken
        · rfl
        · rw [awaited] at atAwait
          cases atAwait
          rw [isCall] at isOwn
          cases isOwn
          exact Function.update_of_ne different _ _

namespace Thread

/-- The session a thread is going to name to the agent. -/
def session? : Thread → Option SessionId
  | .prompt handler =>
      handler.pc.session?.or (handler.pc.aim?.map Prod.fst)
  | .cancel { pc := .tell session, .. } => some session
  | .reset { pc := .list session, .. } => session
  | .reset { pc := .canceling session _ _, .. } => session
  | _ => none

/-- The conversation key a thread is about. -/
def key? (tasks : TaskRegistry) : Thread → Option String
  | .prompt handler => some handler.request.key
  | .cancel canceling =>
      (tasks.bindings canceling.taskId).map TaskBinding.conversationId
  | .reset resetting => some resetting.key
  | .sweep _ => none

/-- The sessions a thread names in a step of the client are its own. -/
def Tells (name : Nat) (thread : Thread) : AcpClient.Action → Prop
  | .submit command =>
      command.issuer = name ∧
        ∀ session, command.session? = some session →
          thread.session? = some session
  | .registerRoute sink session _ =>
      sink = name ∧ thread.session? = some session
  | _ => True

/-- What a step of a thread does to the client. -/
def TellsOf (name : Nat) (thread : Thread) (client target : AcpClient) :
    Prop :=
  target = client ∨
    ∃ act, AcpClient.step act client = some target ∧ thread.Tells name act

end Thread

section

variable {json : SerdeJson} {cfg : ServeConfig} {name : Nat} {env : Env}
variable {shared after : Shared}

theorem Handler.work_tells
    {handler : Handler} {next : HandlerPc}
    (taken : handler.work json cfg name env shared = some (next, after)) :
    Thread.TellsOf name (.prompt handler) shared.acp after.acp := by
  cases work_moves taken with
  | asks acp _ _ _ submitted => exact .inr ⟨_, submitted, rfl, nofun⟩
  | routes session guarded taskId content acp before registered =>
      refine .inr ⟨_, registered, rfl, ?_⟩
      simp [Thread.session?, before, HandlerPc.session?, HandlerPc.aim?]
  | unsent _ _ _ acp _ _ called => exact .inr ⟨_, called, trivial⟩
  | sends _ _ _ acp _ _ called => exact .inr ⟨_, called, trivial⟩
  | polls _ _ _ _ acp _ _ _ _ isTaken => exact .inr ⟨_, isTaken, trivial⟩
  | _ => exact .inl rfl

theorem Canceling.work_tells
    {canceling : Canceling} {next : CancelPc}
    (taken : canceling.work name shared = some (next, after)) :
    Thread.TellsOf name (.cancel canceling) shared.acp after.acp := by
  unfold Canceling.work at taken
  cases atPc : canceling.pc with
  | tell session =>
      simp only [atPc] at taken
      obtain ⟨acp, submitted, moved⟩ := Option.map_eq_some_iff.mp taken
      cases moved
      refine .inr ⟨.submit (.cancel session name), submitted, rfl, ?_⟩
      intro told isTold
      cases isTold
      cases canceling
      cases atPc
      rfl
  | find =>
      simp only [atPc] at taken
      split at taken
      · cases taken
      · split at taken <;> cases taken <;> exact .inl rfl
  | returned answer => simp [atPc] at taken
  | cancel | await | snapshot =>
      simp only [atPc] at taken
      split at taken <;> cases taken <;> exact .inl rfl

theorem Resetting.work_tells
    {resetting : Resetting} {next : ResetPc}
    (taken : resetting.work name shared = some (next, after)) :
    Thread.TellsOf name (.reset resetting) shared.acp after.acp := by
  unfold Resetting.work at taken
  cases atPc : resetting.pc with
  | list session =>
      simp only [atPc] at taken
      cases taken
      exact .inl rfl
  | canceling session ids canceled =>
      cases ids with
      | cons id rest =>
          simp only [atPc] at taken
          split at taken <;> cases taken <;> exact .inl rfl
      | nil =>
          cases session with
          | none =>
              simp only [atPc] at taken
              cases taken
              exact .inl rfl
          | some session =>
              simp only [atPc] at taken
              obtain ⟨acp, submitted, moved⟩ :=
                Option.map_eq_some_iff.mp taken
              cases moved
              refine .inr
                ⟨.submit (.cancel session name), submitted, rfl, ?_⟩
              intro told isTold
              cases isTold
              cases resetting
              cases atPc
              rfl
  | returned cleared canceled => simp [atPc] at taken
  | lookUp | await | remove =>
      simp only [atPc] at taken
      split at taken <;> cases taken
      exact .inl rfl

/-- Where the session comes from that a thread has after a step: from the
thread, from the map, or from the agent's answer to the thread itself. -/
inductive Thread.Gets (name : Nat) (thread : Thread) (shared after : Shared)
    (session : SessionId) : Prop
  | had (named : thread.session? = some session)
  | finds (key : String)
      (isKey : thread.key? shared.tasks = some key)
      (filed : shared.conversations.Filed key session)
  | makes (handler : Handler) (now : Nat)
      (isPrompt : thread = .prompt handler)
      (replied : shared.acp.replies name = some (.session session))
      (inserted :
        after.conversations =
          shared.conversations.insert handler.request.key session now)

variable {session : SessionId}

theorem Handler.work_gets
    {handler : Handler} {next : HandlerPc}
    (indexed : shared.conversations.Indexed)
    (taken : handler.work json cfg name env shared = some (next, after))
    (named : Thread.session? (.prompt { handler with pc := next }) =
      some session) :
    Thread.Gets name (.prompt handler) shared after session := by
  cases isGuarded : handler.pc.guard? with
  | none =>
      cases work_opening isGuarded taken with
      | passes | misses | asks | unopened | refuses => cases named
      | hits ref before unwritten found =>
          cases named
          obtain ⟨made, isEntry⟩ := indexed _ ref found
          obtain ⟨conversation, isObject, isPair⟩ :=
            Option.map_eq_some_iff.mp isEntry
          rw [isObject]
          exact .finds handler.request.key rfl (indexed.filed found isObject)
      | opens made before replied =>
          cases named
          exact .makes handler env.now rfl replied rfl
      | records made before
      | aims made found before
      | locks made found locked before =>
          cases named
          apply Thread.Gets.had
          simp only [Thread.session?, before]
          rfl
  | some guarded =>
      apply Thread.Gets.had
      have unguarded : ∀ {pc : HandlerPc}, handler.pc = pc →
          pc.guard? = none → False := by
        intro pc atPc noGuard
        rw [atPc, noGuard] at isGuarded
        cases isGuarded
      cases work_moves taken with
      | resumes made held existing tasks before
      | creates made held before
      | records made held taskId before =>
          cases named
          simp only [Thread.session?, before]
          rfl
      | touches ref made before =>
          rcases before with before | before
          · exact (unguarded before rfl).elim
          · exact (unguarded before rfl).elim
      | opens made before => exact (unguarded before rfl).elim
      | aims made found before => exact (unguarded before rfl).elim
      | locks made found locked before => exact (unguarded before rfl).elim
      | idles _ before =>
          rcases before with idle | ⟨_, _, before⟩
          · rw [isIdle_of_guard isGuarded] at idle
            cases idle
          · exact (unguarded before rfl).elim
      | sends _ _ _ _ _ isNext =>
          rcases isNext with rfl | rfl
          · cases named
          · cases named
      | _ => cases named

theorem Canceling.work_gets
    {canceling : Canceling} {next : CancelPc}
    (indexed : shared.conversations.Indexed)
    (taken : canceling.work name shared = some (next, after))
    (named : Thread.session? (.cancel { canceling with pc := next }) =
      some session) :
    Thread.Gets name (.cancel canceling) shared after session := by
  unfold Canceling.work at taken
  cases atPc : canceling.pc with
  | tell told =>
      simp only [atPc] at taken
      obtain ⟨acp, submitted, moved⟩ := Option.map_eq_some_iff.mp taken
      cases moved
      cases named
  | find =>
      simp only [atPc] at taken
      split at taken
      · cases taken
      · split at taken
        · rename_i conversation found
          cases taken
          cases named
          obtain ⟨ref, bound, isObject⟩ := Option.bind_eq_some_iff.mp found
          obtain ⟨key, isKey, present⟩ := Option.bind_eq_some_iff.mp bound
          exact .finds key isKey (indexed.filed present isObject)
        · cases taken
          cases named
  | returned answer => simp [atPc] at taken
  | cancel | await | snapshot =>
      simp only [atPc] at taken
      split at taken <;> cases taken <;> cases named

theorem Resetting.work_gets
    {resetting : Resetting} {next : ResetPc}
    (indexed : shared.conversations.Indexed)
    (taken : resetting.work name shared = some (next, after))
    (named : Thread.session? (.reset { resetting with pc := next }) =
      some session) :
    Thread.Gets name (.reset resetting) shared after session := by
  have kept : ∀ {pc : ResetPc}, resetting.pc = pc →
      Thread.session? (.reset { resetting with pc := pc }) = some session →
        Thread.Gets name (.reset resetting) shared after session := by
    intro pc atPc isNamed
    subst atPc
    exact .had isNamed
  unfold Resetting.work at taken
  cases atPc : resetting.pc with
  | lookUp =>
      simp only [atPc] at taken
      split at taken
      · cases taken
      · cases taken
        have found : ((shared.conversations.get resetting.key).bind
            shared.conversations.objects).map Conversation.acpSessionId =
              some session := named
        obtain ⟨conversation, isBound, rfl⟩ :=
          Option.map_eq_some_iff.mp found
        obtain ⟨ref, bound, isObject⟩ := Option.bind_eq_some_iff.mp isBound
        exact .finds resetting.key rfl (indexed.filed bound isObject)
  | list told =>
      simp only [atPc] at taken
      cases taken
      exact kept atPc named
  | canceling told ids canceled =>
      cases ids with
      | cons id rest =>
          simp only [atPc] at taken
          split at taken
          · cases taken
            exact kept atPc named
          · cases taken
            exact kept atPc named
      | nil =>
          cases told with
          | none =>
              simp only [atPc] at taken
              cases taken
              cases named
          | some told =>
              simp only [atPc] at taken
              obtain ⟨acp, submitted, moved⟩ :=
                Option.map_eq_some_iff.mp taken
              cases moved
              cases named
  | returned cleared canceled => simp [atPc] at taken
  | await | remove =>
      simp only [atPc] at taken
      split at taken <;> cases taken
      cases named

end

namespace Server

open Machine

variable {json : SerdeJson} {cfg : ServeConfig} {server target : Server}
variable {name : Nat} {env : Env} {shared after : Shared}
variable {thread next : Thread} {session : SessionId}

theorem workThread_tells
    (taken : workThread json cfg name env shared thread =
      some (next, after)) :
    thread.TellsOf name shared.acp after.acp := by
  cases thread with
  | prompt handler =>
      obtain ⟨⟨pc, moved⟩, worked, stepped⟩ := Option.map_eq_some_iff.mp taken
      cases stepped
      exact Handler.work_tells worked
  | cancel canceling =>
      obtain ⟨⟨pc, moved⟩, worked, stepped⟩ := Option.map_eq_some_iff.mp taken
      cases stepped
      exact Canceling.work_tells worked
  | reset resetting =>
      obtain ⟨⟨pc, moved⟩, worked, stepped⟩ := Option.map_eq_some_iff.mp taken
      cases stepped
      exact Resetting.work_tells worked
  | sweep position =>
      obtain ⟨⟨pc, moved⟩, worked, stepped⟩ := Option.map_eq_some_iff.mp taken
      cases stepped
      exact .inl (Sweep.work_calls worked)

theorem workThread_gets
    (indexed : shared.conversations.Indexed)
    (taken : workThread json cfg name env shared thread =
      some (next, after))
    (named : next.session? = some session) :
    thread.Gets name shared after session := by
  cases thread with
  | prompt handler =>
      obtain ⟨⟨pc, moved⟩, worked, stepped⟩ := Option.map_eq_some_iff.mp taken
      cases stepped
      exact Handler.work_gets indexed worked named
  | cancel canceling =>
      obtain ⟨⟨pc, moved⟩, worked, stepped⟩ := Option.map_eq_some_iff.mp taken
      cases stepped
      exact Canceling.work_gets indexed worked named
  | reset resetting =>
      obtain ⟨⟨pc, moved⟩, worked, stepped⟩ := Option.map_eq_some_iff.mp taken
      cases stepped
      exact Resetting.work_gets indexed worked named
  | sweep position =>
      obtain ⟨⟨pc, moved⟩, worked, stepped⟩ := Option.map_eq_some_iff.mp taken
      cases stepped
      cases named

/-- A thread stays with its key. -/
theorem workThread_key
    (taken : workThread json cfg name env shared thread =
      some (next, after)) :
    (∀ tasks, next.key? tasks = thread.key? tasks) ∧
      next.handler?.map Handler.request = thread.handler?.map Handler.request := by
  cases thread <;>
    · obtain ⟨_, _, stepped⟩ := Option.map_eq_some_iff.mp taken
      cases stepped
      exact ⟨fun _ => rfl, rfl⟩

/-- A step of a thread makes no conversation, but for the one of a new
session. -/
theorem workThread_map
    (taken : workThread json cfg name env shared thread =
      some (next, after)) :
    shared.conversations.Within after.conversations ∨
      ∃ handler session, thread = .prompt handler ∧
        handler.pc = .spawning ∧
          shared.acp.replies name = some (.session session) ∧
            after.conversations =
              shared.conversations.insert handler.request.key session
                env.now := by
  have same : after.conversations = shared.conversations →
      shared.conversations.Within after.conversations := by
    intro isSame
    rw [isSame]
    exact ConversationMap.within_refl _
  cases thread with
  | prompt handler =>
      obtain ⟨⟨pc, moved⟩, worked, stepped⟩ := Option.map_eq_some_iff.mp taken
      cases stepped
      cases isGuarded : handler.pc.guard? with
      | some guarded =>
          left
          rcases Handler.guarded_cases isGuarded (Handler.work_moves worked)
            with ⟨_, isSame⟩ | ⟨_, released⟩
          · exact same isSame
          · refine ⟨?_, ?_⟩
            · intro ref
              rw [released]
              exact ConversationMap.entry_release
            · intro key ref present
              rw [released] at present
              exact present
      | none =>
          cases Handler.work_opening isGuarded worked with
          | hits ref before unwritten found =>
              exact .inl ⟨fun _ => ConversationMap.entry_touch,
                fun _ _ => id⟩
          | locks session found locked before isTaken =>
              left
              refine ⟨fun _ => ConversationMap.entry_tryLock isTaken, ?_⟩
              intro key ref present
              have related := ConversationMap.related_tryLock isTaken
              rwa [related.keys] at present
          | opens session before replied =>
              exact .inr ⟨handler, session, rfl, before, replied, rfl⟩
          | passes | misses | asks | unopened | records | aims | refuses =>
              exact .inl (same rfl)
  | cancel canceling =>
      obtain ⟨⟨pc, moved⟩, worked, stepped⟩ := Option.map_eq_some_iff.mp taken
      cases stepped
      cases Canceling.work_affects worked with
      | removes unwritten => exact .inl (ConversationMap.within_removeAll _ _)
      | keeps | cancels | submits => exact .inl (same rfl)
  | reset resetting =>
      obtain ⟨⟨pc, moved⟩, worked, stepped⟩ := Option.map_eq_some_iff.mp taken
      cases stepped
      cases Resetting.work_affects worked with
      | removes unwritten => exact .inl (ConversationMap.within_removeAll _ _)
      | keeps | cancels | submits => exact .inl (same rfl)
  | sweep position =>
      obtain ⟨⟨pc, moved⟩, worked, stepped⟩ := Option.map_eq_some_iff.mp taken
      cases stepped
      cases Sweep.work_affects worked with
      | removes unwritten => exact .inl (ConversationMap.within_removeAll _ _)
      | keeps | cancels | submits => exact .inl (same rfl)

theorem within_afterDrop (name : Nat) (handler : Handler) (shared : Shared) :
    shared.conversations.Within (afterDrop name handler shared).conversations := by
  unfold afterDrop
  cases handler.pc.guard? with
  | none => exact ConversationMap.within_refl _
  | some guarded =>
      exact ⟨fun _ => ConversationMap.entry_release, fun _ _ => id⟩

/-- What a step does to one thread, and to what all share. -/
inductive Turn (json : SerdeJson) (cfg : ServeConfig) (server target : Server) :
    Prop
  | passes
      (threads : target.threads = server.threads)
      (sameMap : target.shared.conversations = server.shared.conversations)
      (client : target.shared.acp = server.shared.acp ∨
        ∃ act, AcpClient.step act server.shared.acp =
            some target.shared.acp ∧ isOutside act = true)
  | comes (name : Nat) (thread : Thread)
      (threads : target.threads = server.threads.put name thread)
      (free : server.threads name = none)
      (unnamed : thread.session? = none)
      (sameShared : target.shared = server.shared)
  | works (name : Nat) (env : Env) (thread next : Thread)
      (threads : target.threads = server.threads.put name next)
      (found : server.threads name = some thread)
      (worked :
        workThread json cfg name env server.shared thread =
          some (next, target.shared))
  | drops (name : Nat) (handler : Handler)
      (threads :
        target.threads =
          server.threads.put name (.prompt { handler with pc := .dropped }))
      (found : server.threads name = some (.prompt handler))
      (isAfter : target.shared = afterDrop name handler server.shared)

theorem turn_of_spawn
    {thread : Thread} (unnamed : thread.session? = none)
    (taken : server.spawn name thread = some target) :
    Turn json cfg server target := by
  unfold spawn at taken
  split at taken
  · cases taken
  · rename_i free
    cases taken
    exact .comes name thread rfl free unnamed rfl

theorem turn_of_step
    {action : Action} (taken : step json cfg action server = some target) :
    Turn json cfg server target := by
  cases action with
  | request name method params header =>
      simp only [step] at taken
      split at taken
      · cases taken
        exact .passes rfl rfl (.inl rfl)
      · exact turn_of_spawn rfl taken
  | cancelTask name taskId | reset name conversationId callerId header
  | sweep name => exact turn_of_spawn rfl taken
  | work name env =>
      obtain ⟨thread, found, worked⟩ := Option.bind_eq_some_iff.mp taken
      obtain ⟨⟨next, after⟩, moved, rfl⟩ := Option.map_eq_some_iff.mp worked
      exact .works name env thread next rfl found moved
  | drop name =>
      obtain ⟨thread, found, dropped⟩ := Option.bind_eq_some_iff.mp taken
      obtain ⟨⟨next, after⟩, moved, rfl⟩ := Option.map_eq_some_iff.mp dropped
      cases thread with
      | prompt handler =>
          obtain ⟨⟨pc, left⟩, gone, isNext⟩ := Option.map_eq_some_iff.mp moved
          unfold Handler.drop at gone
          split at gone
          · cases gone
            cases isNext
            exact .drops name handler rfl found rfl
          · cases gone
      | _ => cases moved
  | putConfig config =>
      cases taken
      exact .passes rfl rfl (.inl rfl)
  | deleteConfig configId =>
      cases taken
      exact .passes rfl rfl (.inl rfl)
  | acp act =>
      simp only [step] at taken
      split at taken
      · rename_i outside
        obtain ⟨acp, moved, rfl⟩ := Option.map_eq_some_iff.mp taken
        exact .passes rfl rfl (.inr ⟨act, moved, outside⟩)
      · cases taken

/-! ## Whose session it is -/

/-- The session was restored for the key, or the agent has made it for a
request with the key. -/
def Made (loaded : List (String × SessionId)) (server : Server)
    (key : String) (session : SessionId) : Prop :=
  (key, session) ∈ loaded ∨
    ∃ maker handler, server.handlers maker = some handler ∧
      handler.request.key = key ∧
        server.shared.acp.replies maker = some (.session session)

/-- The thread is about a key that a conversation with the session has been
made under. -/
def MayName (server : Server) (name : Nat) (session : SessionId) : Prop :=
  ∃ thread key, server.threads name = some thread ∧
    thread.key? server.shared.tasks = some key ∧
      server.shared.conversations.Filed key session

/-- Sessions come from the agent, and are named for their own keys only. -/
structure Keyed (loaded : List (String × SessionId)) (server : Server) :
    Prop where
  fresh : server.shared.conversations.Fresh
  indexed : server.shared.conversations.Indexed
  made : ∀ key session, server.shared.conversations.Filed key session →
    Made loaded server key session
  named : ∀ name thread session, server.threads name = some thread →
    thread.session? = some session → server.MayName name session
  streams : ∀ sink stream, server.shared.acp.streams sink = some stream →
    server.MayName sink stream.session
  commands : ∀ command session, command ∈ server.shared.acp.commands →
    command.session? = some session → server.MayName command.issuer session

variable {loaded : List (String × SessionId)} {key : String}

/-- Threads keep their keys. -/
theorem key_kept
    {action : Action} (staged : Staged server)
    (taken : step json cfg action server = some target)
    (isKey : thread.key? server.shared.tasks = some key) :
    thread.key? target.shared.tasks = some key := by
  cases thread with
  | prompt | reset | sweep => exact isKey
  | cancel canceling =>
      obtain ⟨binding, known, isPlace⟩ := Option.map_eq_some_iff.mp isKey
      obtain ⟨later, knownLater, kept⟩ := known_kept staged taken known
      have samePlace := congrArg Prod.fst kept.place
      refine Option.map_eq_some_iff.mpr ⟨later, knownLater, ?_⟩
      exact samePlace.trans isPlace

/-- Threads stay, with the request they have come with. -/
theorem thread_kept
    {action : Action}
    (taken : step json cfg action server = some target)
    (found : server.threads name = some thread) :
    ∃ later, target.threads name = some later ∧
      (∀ tasks, later.key? tasks = thread.key? tasks) ∧
        later.handler?.map Handler.request =
          thread.handler?.map Handler.request := by
  cases turn_of_step taken with
  | passes threads =>
      rw [threads]
      exact ⟨thread, found, fun _ => rfl, rfl⟩
  | comes other next threads free =>
      have different : name ≠ other := by
        intro same
        rw [same, free] at found
        cases found
      rw [threads, Pool.put_other different]
      exact ⟨thread, found, fun _ => rfl, rfl⟩
  | works other env before next threads isOther worked =>
      rw [threads]
      by_cases same : name = other
      · subst same
        rw [found] at isOther
        cases isOther
        obtain ⟨sameKey, sameRequest⟩ := workThread_key worked
        exact ⟨next, Pool.put_self _ _ _, sameKey, sameRequest⟩
      · rw [Pool.put_other same]
        exact ⟨thread, found, fun _ => rfl, rfl⟩
  | drops other handler threads isOther =>
      rw [threads]
      by_cases same : name = other
      · subst same
        rw [found] at isOther
        cases isOther
        exact ⟨_, Pool.put_self _ _ _, fun _ => rfl, rfl⟩
      · rw [Pool.put_other same]
        exact ⟨thread, found, fun _ => rfl, rfl⟩

theorem MayName.step
    {action : Action} (may : server.MayName name session)
    (staged : Staged server) (fresh : server.shared.conversations.Fresh)
    (taken : step json cfg action server = some target) :
    target.MayName name session := by
  obtain ⟨thread, key, found, isKey, filed⟩ := may
  obtain ⟨later, foundLater, sameKey, _⟩ := thread_kept taken found
  refine ⟨later, key, foundLater, ?_, ?_⟩
  · rw [sameKey]
    exact key_kept staged taken isKey
  · cases turn_of_step taken with
    | passes _ sameMap =>
        rw [sameMap]
        exact filed
    | comes _ _ _ _ _ sameShared =>
        rw [sameShared]
        exact filed
    | works _ env _ _ _ _ worked =>
        rcases workThread_map worked with
          within | ⟨handler, made, _, _, _, inserted⟩
        · exact filed.within within
        · rw [inserted]
          exact filed.insert fresh
    | drops _ handler _ _ isAfter =>
        rw [isAfter]
        exact filed.within (within_afterDrop _ _ _)

theorem Made.step
    {action : Action} (made : Made loaded server key session)
    (calling : Calling cfg server)
    (taken : step json cfg action server = some target) :
    Made loaded target key session := by
  rcases made with restored | ⟨maker, handler, found, isKey, replied⟩
  · exact .inl restored
  · right
    obtain ⟨later, foundLater, _, sameRequest⟩ :=
      thread_kept taken (thread_of_handlers found)
    obtain ⟨after, isPrompt, isRequest⟩ :=
      Option.map_eq_some_iff.mp sameRequest
    refine ⟨maker, after, ?_, ?_, ?_⟩
    · rw [handlers_of_found foundLater]
      exact isPrompt
    · rw [isRequest]
      exact isKey
    · rcases acp_of_step taken with same | ⟨act, stepped, _⟩
      · rw [same]
        exact replied
      · exact calling.agree.reply_stays replied stepped

/-- What a step of the client names, where it names no session that it may
not. -/
theorem mayName_of_act
    {act : AcpClient.Action} {acp : AcpClient}
    (stepped : AcpClient.step act server.shared.acp = some acp)
    (streams : ∀ sink stream, server.shared.acp.streams sink = some stream →
      server.MayName sink stream.session)
    (commands : ∀ command session, command ∈ server.shared.acp.commands →
      command.session? = some session →
        server.MayName command.issuer session)
    (submits : ∀ command session, act = .submit command →
      command.session? = some session →
        server.MayName command.issuer session)
    (routes : ∀ sink session content,
      act = .registerRoute sink session content →
        server.MayName sink session) :
    (∀ sink stream, acp.streams sink = some stream →
        server.MayName sink stream.session) ∧
      ∀ command session, command ∈ acp.commands →
        command.session? = some session →
          server.MayName command.issuer session := by
  refine ⟨?_, ?_⟩
  · intro sink stream found
    by_cases registers : ∃ session content,
        act = .registerRoute sink session content
    · obtain ⟨session, content, rfl⟩ := registers
      obtain ⟨_, rfl⟩ := AcpClient.registerRoute_some stepped
      simp only [AcpClient.putRoute, AcpClient.putStream_self] at found
      cases found
      exact routes sink session content rfl
    · have kept := AcpClient.session_of_step stepped
        fun session content isRoute => registers ⟨session, content, isRoute⟩
      rw [found] at kept
      obtain ⟨before, foundBefore, isSession⟩ :=
        Option.map_eq_some_iff.mp kept.symm
      rw [← isSession]
      exact streams sink before foundBefore
  · intro command session member isSession
    by_cases calls : ∃ sent, act = .submit sent
    · obtain ⟨sent, rfl⟩ := calls
      obtain ⟨_, ⟨_, rfl⟩ | ⟨_, rfl⟩⟩ := AcpClient.submit_some stepped
      · exact commands command session member isSession
      · unfold AcpClient.commands at member
        rw [← List.append_assoc] at member
        rcases List.mem_append.mp member with earlier | last
        · exact commands command session earlier isSession
        · rw [List.mem_singleton.mp last] at isSession ⊢
          exact submits sent session rfl isSession
    · obtain ⟨comes, _⟩ := AcpClient.commands_of_step stepped
        fun sent isCall => calls ⟨sent, isCall⟩
      rcases comes command member with earlier | ⟨sink, stream, _, found, rfl⟩
      · exact commands command session earlier isSession
      · cases isSession
        exact streams sink stream found

theorem Keyed.acp
    {action : Action} (keyed : Keyed loaded server)
    (taken : step json cfg action server = some target) :
    (∀ sink stream, target.shared.acp.streams sink = some stream →
        server.MayName sink stream.session) ∧
      ∀ command session, command ∈ target.shared.acp.commands →
        command.session? = some session →
          server.MayName command.issuer session := by
  cases turn_of_step taken with
  | passes threads _ client =>
      rcases client with same | ⟨act, stepped, outside⟩
      · rw [same]
        exact ⟨keyed.streams, keyed.commands⟩
      · apply mayName_of_act stepped keyed.streams keyed.commands
        · intro command session isCall
          subst isCall
          cases outside
        · intro sink session content isRoute
          subst isRoute
          cases outside
  | comes _ _ _ _ _ sameShared =>
      rw [sameShared]
      exact ⟨keyed.streams, keyed.commands⟩
  | works name env thread next threads found worked =>
      rcases workThread_tells worked with same | ⟨act, stepped, tells⟩
      · rw [same]
        exact ⟨keyed.streams, keyed.commands⟩
      · apply mayName_of_act stepped keyed.streams keyed.commands
        · intro command session isCall isSession
          subst isCall
          rw [tells.1]
          exact keyed.named name thread session found
            (tells.2 session isSession)
        · intro sink session content isRoute
          subst isRoute
          rw [tells.1]
          exact keyed.named name thread session found tells.2
  | drops _ _ _ _ isAfter =>
      rw [isAfter]
      exact ⟨keyed.streams, keyed.commands⟩

theorem Keyed.indexed_step
    {action : Action} (keyed : Keyed loaded server)
    (taken : step json cfg action server = some target) :
    target.shared.conversations.Indexed := by
  cases turn_of_step taken with
  | passes _ sameMap =>
      rw [sameMap]
      exact keyed.indexed
  | comes _ _ _ _ _ sameShared =>
      rw [sameShared]
      exact keyed.indexed
  | drops _ _ _ _ isAfter =>
      rw [isAfter]
      exact keyed.indexed.within (within_afterDrop _ _ _)
  | works name env thread next _ _ worked =>
      rcases workThread_map worked with
        within | ⟨handler, made, _, _, _, inserted⟩
      · exact keyed.indexed.within within
      · rw [inserted]
        exact keyed.indexed.insert keyed.fresh

theorem Keyed.made_step
    {action : Action} (keyed : Keyed loaded server)
    (calling : Calling cfg server)
    (taken : step json cfg action server = some target)
    (filed : target.shared.conversations.Filed key session) :
    Made loaded target key session := by
  have ofWithin : server.shared.conversations.Within
      target.shared.conversations → Made loaded target key session := by
    intro within
    obtain ⟨ref, isEntry⟩ := filed
    have before : server.shared.conversations.Filed key session :=
      ⟨ref, (within.entries ref).symm.trans isEntry⟩
    exact (keyed.made key session before).step calling taken
  cases turn_of_step taken with
  | passes _ sameMap =>
      apply ofWithin
      rw [sameMap]
      exact ConversationMap.within_refl _
  | comes _ _ _ _ _ sameShared =>
      apply ofWithin
      rw [sameShared]
      exact ConversationMap.within_refl _
  | drops _ _ _ _ isAfter =>
      apply ofWithin
      rw [isAfter]
      exact within_afterDrop _ _ _
  | works name env thread next _ found worked =>
      rcases workThread_map worked with
        within | ⟨handler, made, rfl, _, replied, inserted⟩
      · exact ofWithin within
      · rw [inserted] at filed
        rcases ConversationMap.filed_of_insert filed with
          before | ⟨rfl, rfl⟩
        · exact (keyed.made key session before).step calling taken
        · have madeNow : Made loaded server handler.request.key session :=
            .inr ⟨name, handler, handlers_of_found found, rfl, replied⟩
          exact madeNow.step calling taken

theorem Keyed.named_step
    {action : Action} (keyed : Keyed loaded server)
    (staged : Staged server)
    (taken : step json cfg action server = some target)
    (found : target.threads name = some thread)
    (named : thread.session? = some session) :
    target.MayName name session := by
  have same : ∀ {other : Thread}, server.threads name = some other →
      other.session? = some session → target.MayName name session := by
    intro other foundBefore isNamed
    exact (keyed.named name other session foundBefore isNamed).step staged
      keyed.fresh taken
  cases turn_of_step taken with
  | passes threads =>
      rw [threads] at found
      exact same found named
  | comes other next threads _ unnamed =>
      rw [threads] at found
      rcases Pool.put_cases found with ⟨_, rfl⟩ | ⟨_, before⟩
      · rw [unnamed] at named
        cases named
      · exact same before named
  | drops other handler threads =>
      rw [threads] at found
      rcases Pool.put_cases found with ⟨_, rfl⟩ | ⟨_, before⟩
      · cases named
      · exact same before named
  | works other env working next threads isWorking worked =>
      have foundNow := found
      rw [threads] at found
      rcases Pool.put_cases found with ⟨rfl, rfl⟩ | ⟨_, before⟩
      · cases workThread_gets keyed.indexed worked named with
        | had isNamed => exact same isWorking isNamed
        | finds key isKey filed =>
            have may : server.MayName name session :=
              ⟨working, key, isWorking, isKey, filed⟩
            exact may.step staged keyed.fresh taken
        | makes handler now isPrompt replied inserted =>
            subst isPrompt
            refine ⟨_, handler.request.key, foundNow, ?_, ?_⟩
            · rw [(workThread_key worked).1]
              rfl
            · rw [inserted]
              exact ⟨_, ConversationMap.entry_insert_self⟩
      · exact same before named

theorem Keyed.step
    {action : Action} (keyed : Keyed loaded server)
    (staged : Staged server) (calling : Calling cfg server)
    (taken : step json cfg action server = some target) :
    Keyed loaded target where
  fresh := fresh_of_change (mapChange_of_step taken) keyed.fresh
  indexed := keyed.indexed_step taken
  made := fun _ _ filed => keyed.made_step calling taken filed
  named := fun _ _ _ found named => keyed.named_step staged taken found named
  streams := by
    intro sink stream found
    exact ((keyed.acp taken).1 sink stream found).step staged keyed.fresh taken
  commands := by
    intro command session member isSession
    exact ((keyed.acp taken).2 command session member isSession).step staged
      keyed.fresh taken

theorem keyed_start
    (maxActive idleWindow now : Nat) (loaded : List (String × SessionId)) :
    Keyed loaded (start maxActive idleWindow now loaded) where
  fresh := start_fresh maxActive idleWindow now loaded
  indexed := by
    refine (start_invariant (fun map => map.Fresh ∧ map.Indexed) loaded
      ⟨fun _ _ => rfl, ?_⟩ ?_).2
    · intro key ref present
      cases present
    · intro map key session before
      exact ⟨before.1.insert, before.2.insert before.1⟩
  made := by
    intro key session filed
    rcases ConversationMap.filed_of_loaded loaded _ filed with
      ⟨ref, isEntry⟩ | restored
    · cases isEntry
    · exact .inl restored
  named := by
    intro name thread session found
    cases found
  streams := by
    intro sink stream found
    cases found
  commands := by
    intro command session member
    cases member

/-- The agent hands out no session twice, and none that was restored. -/
def FreshAnswer (loaded : List (String × SessionId)) (server : Server) :
    Action → Prop
  | .acp (.answer (.session session)) =>
      session ∉ loaded.map Prod.snd ∧
        ∀ call, server.shared.acp.replies call ≠ some (.session session)
  | _ => True

/-- Every session the agent has made was made once. -/
structure MadeOnce (loaded : List (String × SessionId)) (server : Server) :
    Prop where
  unrestored : ∀ call session,
    server.shared.acp.replies call = some (.session session) →
      session ∉ loaded.map Prod.snd
  unique : ∀ first second session,
    server.shared.acp.replies first = some (.session session) →
      server.shared.acp.replies second = some (.session session) →
        first = second

theorem MadeOnce.step
    {action : Action} (once : MadeOnce loaded server)
    (fresh : FreshAnswer loaded server action)
    (taken : step json cfg action server = some target) :
    MadeOnce loaded target := by
  rcases acp_of_step taken with same | ⟨act, stepped, _, byDriver⟩
  · refine ⟨?_, ?_⟩
    · rw [same]
      exact once.unrestored
    · rw [same]
      exact once.unique
  · have comes : ∀ call session,
        target.shared.acp.replies call = some (.session session) →
          server.shared.acp.replies call = some (.session session) ∨
            session ∉ loaded.map Prod.snd ∧
              ∀ other, other ≠ call →
                target.shared.acp.replies other ≠
                  some (.session session) := by
      intro call session got
      rcases AcpClient.session_replied stepped got with
        before | ⟨rfl, others⟩
      · exact .inl before
      · have isOwn := byDriver rfl
        subst isOwn
        refine .inr ⟨fresh.1, ?_⟩
        intro other different
        rw [others other different]
        exact fresh.2 other
    refine ⟨?_, ?_⟩
    · intro call session got
      rcases comes call session got with before | ⟨unrestored, _⟩
      · exact once.unrestored call session before
      · exact unrestored
    · intro first second session gotFirst gotSecond
      rcases comes first session gotFirst with before | ⟨_, others⟩
      · rcases comes second session gotSecond with
          beforeToo | ⟨_, others⟩
        · exact once.unique first second session before beforeToo
        · by_contra different
          exact others first different gotFirst
      · by_contra different
        exact others second (Ne.symm different) gotSecond

theorem madeOnce_start
    (maxActive idleWindow now : Nat) (loaded : List (String × SessionId)) :
    MadeOnce loaded (start maxActive idleWindow now loaded) where
  unrestored := by
    intro call session got
    cases got
  unique := by
    intro first second session got
    cases got

theorem Made.unique
    {other : String} (once : MadeOnce loaded server)
    (nodup : (loaded.map Prod.snd).Nodup)
    (made : Made loaded server key session)
    (madeToo : Made loaded server other session) :
    key = other := by
  rcases made with restored | ⟨maker, handler, found, isKey, replied⟩
  · rcases madeToo with restoredToo | ⟨_, _, _, _, replied⟩
    · have same := List.inj_on_of_nodup_map nodup restored restoredToo rfl
      exact congrArg Prod.fst same
    · exact absurd (List.mem_map_of_mem restored)
        (once.unrestored _ _ replied)
  · rcases madeToo with restoredToo | ⟨second, working, isWorking, isOther, repliedToo⟩
    · exact absurd (List.mem_map_of_mem restoredToo)
        (once.unrestored _ _ replied)
    · have sameMaker := once.unique maker second session replied repliedToo
      subst sameMaker
      rw [found] at isWorking
      cases isWorking
      exact isKey.symm.trans isOther

section

variable {trace : List Action} {maxActive idleWindow now : Nat}

theorem keyed_of_run
    (run : Run (step json cfg) free
      (start maxActive idleWindow now loaded) trace server) :
    Keyed loaded server := by
  have all := run.invariant
    (fun reached => Staged reached ∧ Calling cfg reached ∧
      Keyed loaded reached)
    ⟨staged_start maxActive idleWindow now loaded,
      calling_start maxActive idleWindow now loaded,
      keyed_start maxActive idleWindow now loaded⟩
    fun _ _ _ before _ taken =>
      ⟨before.1.step taken, before.2.1.step taken,
        before.2.2.step before.1 before.2.1 taken⟩
  exact all.2.2

/-- In every run, a prompt or a cancel that has come to the driver names a
session that was restored, or made by the agent, for the very key that the
request behind it is about. -/
theorem commands_name_own_sessions
    {command : Command}
    (run : Run (step json cfg) free
      (start maxActive idleWindow now loaded) trace server)
    (member : command ∈ server.shared.acp.commands)
    (isSession : command.session? = some session) :
    ∃ thread key, server.threads command.issuer = some thread ∧
      thread.key? server.shared.tasks = some key ∧
        Made loaded server key session := by
  have keyed := keyed_of_run run
  obtain ⟨thread, key, found, isKey, filed⟩ :=
    keyed.commands command session member isSession
  exact ⟨thread, key, found, isKey, keyed.made key session filed⟩

/-- With an agent that hands out no session twice, no session is named for
two keys. -/
theorem sessions_not_shared
    {first second : Command}
    (nodup : (loaded.map Prod.snd).Nodup)
    (run : Run (step json cfg) (FreshAnswer loaded)
      (start maxActive idleWindow now loaded) trace server)
    (member : first ∈ server.shared.acp.commands)
    (memberToo : second ∈ server.shared.acp.commands)
    (isSession : first.session? = some session)
    (isSessionToo : second.session? = some session) :
    ∃ one two key, server.threads first.issuer = some one ∧
      server.threads second.issuer = some two ∧
        one.key? server.shared.tasks = some key ∧
          two.key? server.shared.tasks = some key := by
  have keyed := keyed_of_run run.toFree
  have once := run.invariant (MadeOnce loaded)
    (madeOnce_start maxActive idleWindow now loaded)
    fun _ _ _ before fresh taken => before.step fresh taken
  obtain ⟨one, key, isOne, isKey, filed⟩ :=
    keyed.commands first session member isSession
  obtain ⟨two, other, isTwo, isOther, filedToo⟩ :=
    keyed.commands second session memberToo isSessionToo
  have same : key = other :=
    (keyed.made key session filed).unique once nodup
      (keyed.made other session filedToo)
  subst same
  exact ⟨one, two, key, isOne, isTwo, isKey, isOther⟩

end

/-- Up to the answer of the agent, from it to the prompt, and the cancel of
the prompt's Task. -/
def openingTrace : List Action :=
  let work : Action := .work 0 { now := 0, taskId := ⟨"t"⟩ }
  [.request 0 .send plainParams none, work, work, work, .acp .receive]

def promptingTrace : List Action :=
  let work : Action := .work 0 { now := 0, taskId := ⟨"t"⟩ }
  let cancel : Action := .work 1 { now := 0, taskId := ⟨"t"⟩ }
  [work, work, work, work, work, work, work, work, .cancelTask 1 ⟨"t"⟩,
    cancel, cancel, cancel]

/-- The cancel of a prompt's Task names the session of its conversation. -/
theorem cancel_names_own_session :
    ∃ server,
      exec (step .constant plainConfig)
          (openingTrace ++ .acp (.answer (.session "s")) :: promptingTrace)
          (start 10 60 0 []) = some server ∧
        .cancel "s" 1 ∈ server.shared.acp.commands ∧
          ∃ thread key, server.threads 1 = some thread ∧
            thread.key? server.shared.tasks = some key ∧
              Made [] server key "s" := by
  obtain ⟨server, executed⟩ : ∃ server,
      exec (step .constant plainConfig)
        (openingTrace ++ .acp (.answer (.session "s")) :: promptingTrace)
        (start 10 60 0 []) = some server :=
    ⟨_, rfl⟩
  have member : .cancel "s" 1 ∈ server.shared.acp.commands := by
    cases executed
    decide
  exact ⟨server, executed, member,
    commands_name_own_sessions (run_of_exec executed) member rfl⟩

/-- A test for steps that bring no session. -/
def bringsNone (_ : Server) : Action → Bool
  | .acp (.answer (.session _)) => false
  | _ => true

theorem freshAnswer_of_bringsNone
    {action : Action} (none : bringsNone server action = true) :
    FreshAnswer loaded server action := by
  unfold FreshAnswer
  split
  · cases none
  · trivial

/-- A prompt and the cancel of its Task name one session, for one key. -/
theorem prompt_and_cancel_share :
    ∃ (server : Server) (one two : Thread) (key : String),
      Command.prompt "s" [.text "hello"] 0 ∈ server.shared.acp.commands ∧
        Command.cancel "s" 1 ∈ server.shared.acp.commands ∧
          server.threads 0 = some one ∧ server.threads 1 = some two ∧
            one.key? server.shared.tasks = some key ∧
              two.key? server.shared.tasks = some key := by
  obtain ⟨asking, asks⟩ : ∃ asking,
      execTested (step .constant plainConfig) bringsNone openingTrace
        (start 10 60 0 []) = some asking :=
    ⟨_, rfl⟩
  obtain ⟨opened, opens⟩ : ∃ opened,
      step .constant plainConfig (.acp (.answer (.session "s"))) asking =
        some opened := by
    cases asks
    exact ⟨_, rfl⟩
  have isFresh : FreshAnswer [] asking (.acp (.answer (.session "s"))) := by
    refine ⟨List.not_mem_nil, ?_⟩
    intro call got
    cases asks
    cases got
  obtain ⟨server, prompts⟩ : ∃ server,
      execTested (step .constant plainConfig) bringsNone promptingTrace
        opened = some server := by
    cases asks
    cases opens
    exact ⟨_, rfl⟩
  have run :=
    ((run_of_execTested (fun _ _ => freshAnswer_of_bringsNone) asks).snoc
      isFresh opens).append
        (run_of_execTested (fun _ _ => freshAnswer_of_bringsNone) prompts)
  have members :
      Command.prompt "s" [.text "hello"] 0 ∈ server.shared.acp.commands ∧
        Command.cancel "s" 1 ∈ server.shared.acp.commands := by
    cases asks
    cases opens
    cases prompts
    decide
  have nodup : (([] : List (String × SessionId)).map Prod.snd).Nodup :=
    List.nodup_nil
  obtain ⟨one, two, key, shared⟩ :=
    sessions_not_shared nodup run members.1 members.2 rfl rfl
  exact ⟨server, one, two, key, members.1, members.2, shared⟩

end Server

end A2AShim
