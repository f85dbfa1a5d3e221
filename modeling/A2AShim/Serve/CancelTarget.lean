import A2AShim.Serve.PromptFate
import A2AShim.Serve.ServerCalls

/-!
# Which turn a cancel is for

`CancelTask` cancels the Task first, then looks its conversation's key up and
hands `session/cancel` for the session it finds there to the driver, which
sends it when it gets to it.  Neither the Task nor the handler remembers in
which state the Task was, and nobody compares the session with the Task's own.
The books below tell for which Task a prompt was sent, and in which state a
cancel has found its Task.
-/

namespace A2AShim

/-! ## The books -/

/-- A book with what is noted under `name`, if anything is. -/
def note {β : Type} (book : Nat → Option β) (name : Nat) :
    Option β → Nat → Option β
  | some value => Function.update book name (some value)
  | none => book

section

variable {β : Type} {book : Nat → Option β} {name tested : Nat}
variable {noted : Option β} {value : β}

theorem note_cases
    (entry : note book name noted tested = some value) :
    book tested = some value ∨ tested = name ∧ noted = some value := by
  cases noted with
  | none => exact .inl entry
  | some new =>
      by_cases same : tested = name
      · subst same
        simp only [note, Function.update_self, Option.some.injEq] at entry
        exact .inr ⟨rfl, congrArg some entry⟩
      · left
        simpa [note, same] using entry

theorem note_kept
    (entry : book tested = some value)
    (unchanged : tested = name → noted = none ∨ noted = some value) :
    note book name noted tested = some value := by
  cases noted with
  | none => exact entry
  | some new =>
      by_cases same : tested = name
      · rcases unchanged same with absent | isSame
        · cases absent
        · cases isSame
          simp [note, same]
      · simpa [note, same] using entry

theorem note_self : note book name (some value) name = some value :=
  Function.update_self _ _ _

end

/-- The Task a handler has just registered its prompt for. -/
def HandlerPc.registers? : HandlerPc → Option TaskId
  | .sendPrompt _ taskId => some taskId
  | _ => none

/-- The Task a handler's prompt was sent for, as long as it bridges it. -/
def HandlerPc.prompts? : HandlerPc → Option TaskId
  | .sendPrompt _ taskId | .fetchSink _ taskId => some taskId
  | .bridging _ call => some call.taskId
  | _ => none

/-- The Task a handler is about to prompt a session for. -/
def HandlerPc.opens? : HandlerPc → Option (TaskId × SessionId)
  | .record session _ taskId | .dispatch session _ taskId =>
      some (taskId, session)
  | _ => none

namespace Thread

def canceling? : Thread → Option Canceling
  | .cancel canceling => some canceling
  | _ => none

/-- The Task the cancel's next step cancels, and its state until then. -/
def finds? (tasks : TaskRegistry) (thread : Thread) :
    Option (TaskId × TaskState) :=
  thread.canceling?.bind fun canceling =>
    match canceling.pc with
    | .cancel =>
        (tasks.bindings canceling.taskId).map fun binding =>
          (canceling.taskId, binding.state)
    | _ => none

end Thread

/-- `prompted` has the Task each prompt was registered for, `found` the Task
each cancel was for, in the state it was in. -/
structure CancelBook where
  prompted : PromptId → Option TaskId
  found : Nat → Option (TaskId × TaskState)

namespace Server

open Machine

def unbooked : CancelBook :=
  { prompted := fun _ => none, found := fun _ => none }

/-- The books after `action`, which leads from `server` to `target`. -/
def observe (server : Server) (action : Action) (target : Server)
    (book : CancelBook) : CancelBook :=
  match action with
  | .work name _ =>
      { prompted :=
          note book.prompted name
            ((target.handlers name).bind fun handler =>
              handler.pc.registers?)
        found :=
          note book.found name
            ((server.threads name).bind
              (Thread.finds? server.shared.tasks)) }
  | _ => book

variable (json : SerdeJson) (cfg : ServeConfig)

/-- The server run together with its books. -/
def bookedStep (action : Action) (state : Server × CancelBook) :
    Option (Server × CancelBook) :=
  (step json cfg action state.1).map fun target =>
    (target, observe state.1 action target state.2)

/-! ## The contract -/

/-- A cancel of the Task has found it running, and its own prompt is
outstanding on `session`. -/
structure TargetsOwnTurn (state : Server × CancelBook) (name : Nat)
    (taskId : TaskId) (session : SessionId) : Prop where
  running : state.2.found name = some (taskId, .working)
  own : ∃ prompt stream, state.2.prompted prompt = some taskId ∧
    state.1.shared.acp.streams prompt = some stream ∧
      stream.session = session ∧ state.1.shared.acp.Outstanding prompt

/-- Only the Task itself, and the thread that cancels it, change. -/
structure SparesOthers (server target : Server) (taskId : TaskId) : Prop where
  tasks : ∀ other, other ≠ taskId →
    target.shared.tasks.bindings other = server.shared.tasks.bindings other
  handlers : ∀ name, target.handlers name = server.handlers name
  streams : target.shared.acp.streams = server.shared.acp.streams
  prompts : ∀ prompt, server.shared.acp.Outstanding prompt →
    target.shared.acp.Outstanding prompt

/-- A step of a `CancelTask` that hands `session/cancel` for a session without
the Task's own outstanding prompt to the driver, or changes another Task's
turn. -/
def Oversteps (state : Server × CancelBook) (action : Action) : Prop :=
  ∃ name env canceling,
    action = .work name env ∧
      state.1.threads name = some (.cancel canceling) ∧
        ((∃ session, canceling.pc = .tell session ∧
            state.1.shared.acp.driver ≠ .gone ∧
              ¬ TargetsOwnTurn state name canceling.taskId session) ∨
          ∃ target, step json cfg action state.1 = some target ∧
            ¬ SparesOthers state.1 target canceling.taskId)

/-- The `session/cancel` of a `CancelTask`, which the driver has sent or is to
send, names the session of the Task's own prompt, and the Task was running. -/
def CancelsOwn (state : Server × CancelBook) : Prop :=
  ∀ name canceling session,
    state.1.threads name = some (.cancel canceling) →
      .cancel session name ∈ state.1.shared.acp.commands →
        state.2.found name = some (canceling.taskId, .working) ∧
          ∃ prompt stream, state.2.prompted prompt = some canceling.taskId ∧
            state.1.shared.acp.streams prompt = some stream ∧
              stream.session = session

/-- The steps that lead a cancel astray: it finds a conversation although the
Task was not running, or one with another session than the Task's, or the
agent has responded to the Task's prompt before the cancel is handed over. -/
inductive Strays (state : Server × CancelBook) : Action → Prop
  | unfit (name : Nat) (env : Env) (canceling : Canceling)
      (binding : TaskBinding) (ref : ConversationRef)
      (conversation : Conversation)
      (found : state.1.threads name = some (.cancel canceling))
      (atFind : canceling.pc = .find)
      (unwritten : state.1.shared.writer = none)
      (known :
        state.1.shared.tasks.bindings canceling.taskId = some binding)
      (bound :
        state.1.shared.conversations.get binding.conversationId = some ref)
      (isObject :
        state.1.shared.conversations.objects ref = some conversation)
      (mistaken : state.2.found name ≠ some (canceling.taskId, .working) ∨
        conversation.acpSessionId ≠ binding.acpSessionId) :
      Strays state (.work name env)
  | late (name : Nat) (env : Env) (canceling : Canceling)
      (session : SessionId) (prompt : PromptId)
      (found : state.1.threads name = some (.cancel canceling))
      (atTell : canceling.pc = .tell session)
      (alive : state.1.shared.acp.driver ≠ .gone)
      (own : state.2.prompted prompt = some canceling.taskId)
      (answered : state.1.shared.acp.Answered prompt) :
      Strays state (.work name env)

variable {json cfg}
variable {server target : Server}

/-! ## What handlers do -/

section

variable {name : Nat} {env : Env} {handler : Handler}
variable {shared after : Shared} {next : HandlerPc} {id : TaskId}

theorem opens?_of_idle
    {pc : HandlerPc} (idle : pc.isIdle = true) :
    pc.opens? = none ∧ pc.prompts? = none ∧ pc.registers? = none := by
  cases pc <;> first | exact ⟨rfl, rfl, rfl⟩ | cases idle

theorem moves_prompts
    (moved : Handler.Moves json cfg name env handler shared next after)
    (prompts : next.prompts? = some id) :
    next.registers? = some id ∨ handler.pc.prompts? = some id := by
  cases moved with
  | idles _ _ isIdle =>
      rw [(opens?_of_idle isIdle).2.1] at prompts
      cases prompts
  | routes session guarded taskId content acp before =>
      exact .inl prompts
  | sends _ guarded taskId acp before isNext =>
      rw [before]
      rcases isNext with rfl | rfl
      · exact .inr prompts
      · exact .inr prompts
  | attaches guarded taskId before =>
      rw [before]
      exact .inr prompts
  | polls guarded call stream item acp before =>
      rw [before]
      right
      simpa [HandlerPc.prompts?] using prompts
  | ends guarded call before =>
      rw [before]
      right
      simpa [HandlerPc.prompts?] using prompts
  | bridges guarded call worked tasks before stepped =>
      rw [before]
      have sameTask : worked.taskId = call.taskId := by
        cases Bridge.work_works stepped <;> rfl
      exact .inr ((congrArg some sameTask.symm).trans prompts)
  | _ => cases prompts

/-- A prompt is registered on the session its handler has for the Task. -/
theorem moves_registers
    (moved : Handler.Moves json cfg name env handler shared next after)
    (registers : next.registers? = some id) :
    ∃ session content,
      handler.pc.opens? = some (id, session) ∧
        AcpClient.step (.registerRoute name session content) shared.acp =
            some after.acp ∧
          after.tasks = shared.tasks := by
  cases moved with
  | idles _ _ isIdle =>
      rw [(opens?_of_idle isIdle).2.2] at registers
      cases registers
  | routes session guarded taskId content acp before registered =>
      cases registers
      exact ⟨session, content, by rw [before]; rfl, registered, rfl⟩
  | sends _ guarded taskId acp before isNext =>
      rcases isNext with rfl | rfl <;> cases registers
  | _ => cases registers

theorem moves_opens
    {session : SessionId}
    (notResumed : ∀ id updated,
      shared.tasks.acceptContinuation id ≠ .ok updated)
    (moved : Handler.Moves json cfg name env handler shared next after)
    (opens : next.opens? = some (id, session)) :
    (handler.pc.opens? = some (id, session) ∧ after.tasks = shared.tasks) ∨
      (after.tasks.bindings id).map TaskBinding.acpSessionId =
        some session := by
  cases moved with
  | idles _ _ isIdle =>
      rw [(opens?_of_idle isIdle).1] at opens
      cases opens
  | resumes made guarded existing tasks before accepted =>
      exact absurd accepted (notResumed existing tasks)
  | creates made guarded before unknown =>
      cases opens
      right
      simp [TaskRegistry.freshBinding]
  | records made guarded taskId before =>
      left
      rw [before]
      exact ⟨opens, rfl⟩
  | sends _ guarded taskId acp before isNext =>
      rcases isNext with rfl | rfl <;> cases opens
  | _ => cases opens

end

/-! ## What the books say of the Tasks -/

/-- The Task was made for the session. -/
def Belongs (server : Server) (id : TaskId) (session : SessionId) : Prop :=
  (server.shared.tasks.bindings id).map TaskBinding.acpSessionId =
    some session

theorem Belongs.step
    {action : Action} {id : TaskId} {session : SessionId}
    (belongs : server.Belongs id session) (staged : Staged server)
    (taken : step json cfg action server = some target) :
    target.Belongs id session := by
  obtain ⟨binding, known, sameSession⟩ := Option.map_eq_some_iff.mp belongs
  obtain ⟨later, knownLater, kept⟩ := known_kept staged taken known
  have samePlace : later.acpSessionId = binding.acpSessionId :=
    congrArg Prod.snd kept.place
  rw [Belongs, knownLater, Option.map_some, samePlace, sameSession]

/-- A stream stays on its session. -/
theorem stream_stays
    {action : Action} {prompt : PromptId} {stream : PromptStream}
    (found : server.shared.acp.streams prompt = some stream)
    (taken : step json cfg action server = some target) :
    ∃ later, target.shared.acp.streams prompt = some later ∧
      later.session = stream.session := by
  rcases step_acp taken with same | ⟨act, moved, _⟩
  · rw [same]
    exact ⟨stream, found, rfl⟩
  · have unregistered : ∀ session content,
        act ≠ .registerRoute prompt session content := by
      intro session content same
      subst same
      obtain ⟨unknown, _⟩ := AcpClient.registerRoute_some moved
      rw [found] at unknown
      cases unknown
    have kept := AcpClient.session_of_step moved unregistered
    rw [found, Option.map_some] at kept
    exact Option.map_eq_some_iff.mp kept

/-- Only the bridge of its prompt sets a Task to work. -/
theorem working_of_step
    {action : Action} {id : TaskId} {later : TaskBinding}
    (staged : Staged server)
    (taken : step json cfg action server = some target)
    (known : target.shared.tasks.bindings id = some later)
    (working : later.state = .working) :
    (∃ binding, server.shared.tasks.bindings id = some binding ∧
        binding.state = .working) ∨
      ∃ name handler, server.handlers name = some handler ∧
        handler.pc.prompts? = some id := by
  cases step_steps taken with
  | keeps => exact .inl ⟨later, known, working⟩
  | spawns => exact .inl ⟨later, known, working⟩
  | drops => exact .inl ⟨later, known, working⟩
  | configures => exact .inl ⟨later, known, working⟩
  | agent => exact .inl ⟨later, known, working⟩
  | works name env thread next after found noHandler affected =>
      cases affected with
      | keeps => exact .inl ⟨later, known, working⟩
      | submits => exact .inl ⟨later, known, working⟩
      | removes => exact .inl ⟨later, known, working⟩
      | cancels canceled tasks _ done =>
          obtain ⟨before, foundTask, active, rfl⟩ :=
            TaskRegistry.cancel_ok_iff.mp done
          by_cases same : id = canceled
          · subst same
            rw [TaskRegistry.put_self] at known
            cases known
            cases working
          · rw [TaskRegistry.put_other same] at known
            exact .inl ⟨later, known, working⟩
  | prompts name env handler next after found moved =>
      have isOwn := handlers_of_found found
      have taskMove := Handler.moves_tasks moved
      generalize tasksAre : after.tasks = tasks at taskMove known
      cases taskMove with
      | keeps => exact .inl ⟨later, known, working⟩
      | creates session guarded before unknown =>
          by_cases same : id = env.taskId
          · subst same
            rw [TaskRegistry.create_self] at known
            cases known
            cases working
          · rw [TaskRegistry.create_other same] at known
            exact .inl ⟨later, known, working⟩
      | resumes existing _ accepted =>
          exact absurd accepted (staged.not_resumed existing)
      | bridges guarded call stepped _ before worked =>
          by_cases same : id = call.taskId
          · right
            refine ⟨name, handler, isOwn, ?_⟩
            rw [before, same]
            rfl
          · have sound := staged.sound name handler guarded call isOwn before
            have changes := Bridge.work_stepped sound worked
            rw [changes.frame.others id same] at known
            exact .inl ⟨later, known, working⟩

/-- What holds of the server and its books in every run. -/
structure Booked (state : Server × CancelBook) : Prop where
  staged : Staged state.1
  accounted : state.1.shared.acp.Accounted
  opens : ∀ name handler id session,
    state.1.handlers name = some handler →
      handler.pc.opens? = some (id, session) → state.1.Belongs id session
  prompted : ∀ prompt id, state.2.prompted prompt = some id →
    ∃ stream, state.1.shared.acp.streams prompt = some stream ∧
      state.1.Belongs id stream.session
  bridged : ∀ name handler id, state.1.handlers name = some handler →
    handler.pc.prompts? = some id → state.2.prompted name = some id
  working : ∀ id binding, state.1.shared.tasks.bindings id = some binding →
    binding.state = .working → ∃ prompt, state.2.prompted prompt = some id
  found : ∀ name id, state.2.found name = some (id, .working) →
    ∃ prompt, state.2.prompted prompt = some id

theorem booked_start
    (maxActive idleWindow now : Nat) (loaded : List (String × SessionId)) :
    Booked (start maxActive idleWindow now loaded, unbooked) where
  staged := staged_start maxActive idleWindow now loaded
  accounted := AcpClient.accounted_spawned
  opens := by
    intro name handler id session found
    rw [handlers_start] at found
    cases found
  prompted := fun _ _ written => by cases written
  bridged := by
    intro name handler id found
    rw [handlers_start] at found
    cases found
  working := fun _ _ known => by cases known
  found := fun _ _ entry => by cases entry

/-- Handlers register a prompt where they have opened its session. -/
theorem registered_of_step
    {name : Nat} {env : Env} {id : TaskId}
    (taken : step json cfg (.work name env) server = some target)
    (noted : ((target.handlers name).bind fun handler =>
      handler.pc.registers?) = some id) :
    ∃ handler session content,
      server.handlers name = some handler ∧
        handler.pc.opens? = some (id, session) ∧
          AcpClient.step (.registerRoute name session content)
              server.shared.acp = some target.shared.acp ∧
            target.shared.tasks = server.shared.tasks := by
  obtain ⟨later, found, registers⟩ := Option.bind_eq_some_iff.mp noted
  obtain ⟨handler, isHandler⟩ := handlers_of_work taken found
  obtain ⟨next, worked, threads⟩ := work_of_step taken isHandler
  have isLater := (handlers_of_put threads).symm.trans found
  cases isLater
  obtain ⟨session, content, opens, registered, sameTasks⟩ :=
    moves_registers (Handler.work_moves worked) registers
  exact ⟨handler, session, content, isHandler, opens, registered, sameTasks⟩

variable {book : CancelBook} {action : Action}

/-- What is written in the book of prompts stays there. -/
theorem Booked.prompted_stays
    {prompt : PromptId} {id : TaskId} (booked : Booked (server, book))
    (taken : step json cfg action server = some target)
    (written : book.prompted prompt = some id) :
    (observe server action target book).prompted prompt = some id := by
  cases action with
  | work name env =>
      refine note_kept written ?_
      intro isName
      subst isName
      left
      rw [Option.eq_none_iff_forall_ne_some]
      intro other noted
      obtain ⟨handler, session, content, _, _, registered, _⟩ :=
        registered_of_step taken noted
      obtain ⟨unknown, _⟩ := AcpClient.registerRoute_some registered
      obtain ⟨stream, isStream, _⟩ := booked.prompted prompt id written
      rw [unknown] at isStream
      cases isStream
  | _ => exact written

/-- A new entry in the book of prompts is for the prompt registered now. -/
theorem Booked.prompted_cases
    {prompt : PromptId} {id : TaskId} (booked : Booked (server, book))
    (taken : step json cfg action server = some target)
    (written : (observe server action target book).prompted prompt = some id) :
    book.prompted prompt = some id ∨
      ∃ stream, target.shared.acp.streams prompt = some stream ∧
        server.Belongs id stream.session := by
  cases action with
  | work name env =>
      rcases note_cases written with earlier | ⟨rfl, noted⟩
      · exact .inl earlier
      · obtain ⟨handler, session, content, isHandler, opens, registered, _⟩ :=
          registered_of_step taken noted
        obtain ⟨_, isAcp⟩ := AcpClient.registerRoute_some registered
        have belongs : server.Belongs id session :=
          booked.opens prompt handler id session isHandler opens
        right
        refine ⟨{ session, content, status := .registered, items := []
                  taken := 0 }, ?_, belongs⟩
        rw [isAcp]
        exact AcpClient.putStream_self _ _ _
  | _ => exact .inl written

theorem Booked.bridged_step
    {name : Nat} {later : Handler} {id : TaskId}
    (booked : Booked (server, book))
    (taken : step json cfg action server = some target)
    (found : target.handlers name = some later)
    (prompts : later.pc.prompts? = some id) :
    (observe server action target book).prompted name = some id := by
  rcases handler_of_step taken found with
    ⟨env, handler, next, rfl, isHandler, worked, rfl⟩ |
      ⟨_, unchanged⟩ | isNew | isGone
  · rcases moves_prompts (Handler.work_moves worked) prompts with
      registers | before
    · have noted : ((target.handlers name).bind fun handler =>
          handler.pc.registers?) = some id := by
        rw [found]
        exact registers
      unfold observe
      simp only [noted]
      exact note_self
    · exact booked.prompted_stays taken
        (booked.bridged name handler id isHandler before)
  · exact booked.prompted_stays taken
      (booked.bridged name later id unchanged prompts)
  · rw [isNew] at prompts
    cases prompts
  · rw [isGone] at prompts
    cases prompts

theorem Booked.step
    (booked : Booked (server, book))
    (taken : step json cfg action server = some target) :
    Booked (target, observe server action target book) where
  staged := booked.staged.step taken
  accounted := by
    rcases step_acp taken with same | ⟨act, moved, _⟩
    · rw [same]
      exact booked.accounted
    · exact booked.accounted.step moved
  opens := by
    intro name later id session found opens
    rcases handler_of_step taken found with
      ⟨env, handler, next, rfl, isHandler, worked, rfl⟩ |
        ⟨_, unchanged⟩ | isNew | isGone
    · rcases moves_opens (fun id _ => booked.staged.not_resumed id)
        (Handler.work_moves worked) opens with ⟨before, _⟩ | made
      · exact (booked.opens name handler id session isHandler before).step
          booked.staged taken
      · exact made
    · exact (booked.opens name later id session unchanged opens).step
        booked.staged taken
    · rw [isNew] at opens
      cases opens
    · rw [isGone] at opens
      cases opens
  prompted := by
    intro prompt id written
    rcases booked.prompted_cases taken written with
      earlier | ⟨stream, isStream, belongs⟩
    · obtain ⟨stream, isStream, belongs⟩ :=
        booked.prompted prompt id earlier
      obtain ⟨later, isLater, sameSession⟩ := stream_stays isStream taken
      refine ⟨later, isLater, ?_⟩
      rw [sameSession]
      exact belongs.step booked.staged taken
    · exact ⟨stream, isStream, belongs.step booked.staged taken⟩
  bridged := fun name later id found prompts =>
    booked.bridged_step taken found prompts
  working := by
    intro id later known isWorking
    rcases working_of_step booked.staged taken known isWorking with
      ⟨binding, knownBefore, wasWorking⟩ | ⟨name, handler, isHandler, prompts⟩
    · obtain ⟨prompt, written⟩ :=
        booked.working id binding knownBefore wasWorking
      exact ⟨prompt, booked.prompted_stays taken written⟩
    · exact ⟨name, booked.prompted_stays taken
        (booked.bridged name handler id isHandler prompts)⟩
  found := by
    intro name id entry
    have earlier : book.found name = some (id, .working) ∨
        ∃ binding, server.shared.tasks.bindings id = some binding ∧
          binding.state = .working := by
      cases action with
      | work other env =>
          rcases note_cases entry with before | ⟨rfl, noted⟩
          · exact .inl before
          · right
            obtain ⟨thread, _, finds⟩ := Option.bind_eq_some_iff.mp noted
            obtain ⟨canceling, _, atCancel⟩ :=
              Option.bind_eq_some_iff.mp finds
            split at atCancel
            · obtain ⟨binding, known, pair⟩ :=
                Option.map_eq_some_iff.mp atCancel
              obtain ⟨rfl, isWorking⟩ := Prod.mk.inj pair
              exact ⟨binding, known, isWorking⟩
            · cases atCancel
      | _ => exact .inl entry
    rcases earlier with before | ⟨binding, known, isWorking⟩
    · obtain ⟨prompt, written⟩ := booked.found name id before
      exact ⟨prompt, booked.prompted_stays taken written⟩
    · obtain ⟨prompt, written⟩ := booked.working id binding known isWorking
      exact ⟨prompt, booked.prompted_stays taken written⟩

/-- A Task that was found running has a prompt on its own session. -/
theorem Booked.own
    {name : Nat} {id : TaskId} {session : SessionId}
    (booked : Booked (server, book))
    (running : book.found name = some (id, .working))
    (belongs : server.Belongs id session) :
    ∃ prompt stream, book.prompted prompt = some id ∧
      server.shared.acp.streams prompt = some stream ∧
        stream.session = session := by
  obtain ⟨prompt, written⟩ := booked.found name id running
  obtain ⟨stream, isStream, placed⟩ := booked.prompted prompt id written
  exact ⟨prompt, stream, written, isStream,
    Option.some.inj (placed.symm.trans belongs)⟩

/-! ## The cancels -/

/-- A cancel that is there after another name's thread was put, was there. -/
theorem canceling_of_put
    {name tested : Nat} {thread : Thread} {later : Canceling}
    (found : server.threads.put name thread tested = some (.cancel later))
    (other : thread.canceling? = none) :
    server.threads tested = some (.cancel later) := by
  rcases Pool.put_cases found with ⟨_, rfl⟩ | ⟨_, before⟩
  · cases other
  · exact before

theorem canceling_of_spawn
    {name tested : Nat} {thread : Thread} {later : Canceling}
    (taken : server.spawn name thread = some target)
    (found : target.threads tested = some (.cancel later))
    (other : thread.canceling? = none) :
    server.threads tested = some (.cancel later) := by
  unfold spawn at taken
  split at taken
  · cases taken
  · cases taken
    exact canceling_of_put found other

theorem canceling_of_cancelTask
    {name tested : Nat} {taskId : TaskId} {later : Canceling}
    (taken : step json cfg (.cancelTask name taskId) server = some target)
    (found : target.threads tested = some (.cancel later)) :
    server.threads tested = some (.cancel later) ∨
      server.threads tested = none ∧ later.pc = .cancel := by
  simp only [step, spawn] at taken
  split at taken
  · cases taken
  · rename_i free
    cases taken
    rcases Pool.put_cases found with ⟨rfl, isCancel⟩ | ⟨_, before⟩
    · cases isCancel
      exact .inr ⟨free, rfl⟩
    · exact .inl before

/-- A cancel that is there after some thread has worked has worked itself, or
is as it was. -/
theorem canceling_of_work
    {name tested : Nat} {env : Env} {later : Canceling}
    (taken : step json cfg (.work name env) server = some target)
    (found : target.threads tested = some (.cancel later)) :
    (tested = name ∧ ∃ before,
        server.threads tested = some (.cancel before) ∧
          before.work tested server.shared = some (later.pc, target.shared) ∧
            later.taskId = before.taskId) ∨
      (tested ≠ name ∧ server.threads tested = some (.cancel later)) := by
  obtain ⟨thread, foundThread, worked⟩ := Option.bind_eq_some_iff.mp taken
  obtain ⟨⟨next, after⟩, moved, rfl⟩ := Option.map_eq_some_iff.mp worked
  by_cases same : tested = name
  · subst same
    simp only [Pool.put_self, Option.some.injEq] at found
    subst found
    cases thread with
    | cancel before =>
        obtain ⟨⟨pc, shared⟩, canceled, stepped⟩ :=
          Option.map_eq_some_iff.mp moved
        cases stepped
        exact .inl ⟨rfl, before, foundThread, canceled, rfl⟩
    | _ =>
        obtain ⟨_, _, stepped⟩ := Option.map_eq_some_iff.mp moved
        cases stepped
  · simp only [Pool.put_other same] at found
    exact .inr ⟨same, found⟩

/-- A cancel has worked, or is as it was, or has just come. -/
theorem canceling_of_step
    {name : Nat} {later : Canceling}
    (taken : step json cfg action server = some target)
    (found : target.threads name = some (.cancel later)) :
    (∃ env before, action = .work name env ∧
        server.threads name = some (.cancel before) ∧
          before.work name server.shared = some (later.pc, target.shared) ∧
            later.taskId = before.taskId) ∨
      ((∀ env, action ≠ .work name env) ∧
        server.threads name = some (.cancel later)) ∨
        server.threads name = none ∧ later.pc = .cancel := by
  cases action with
  | request other method params header =>
      right
      left
      simp only [step] at taken
      split at taken
      · cases taken
        exact ⟨by simp, found⟩
      · exact ⟨by simp, canceling_of_spawn taken found rfl⟩
  | cancelTask other taskId =>
      right
      rcases canceling_of_cancelTask taken found with wasThere | isNew
      · exact .inl ⟨by simp, wasThere⟩
      · exact .inr isNew
  | reset other conversationId callerId header =>
      exact .inr (.inl ⟨by simp, canceling_of_spawn taken found rfl⟩)
  | sweep other =>
      exact .inr (.inl ⟨by simp, canceling_of_spawn taken found rfl⟩)
  | work other env =>
      rcases canceling_of_work taken found with
        ⟨rfl, before, wasThere, worked, sameTask⟩ | ⟨different, wasThere⟩
      · exact .inl ⟨env, before, rfl, wasThere, worked, sameTask⟩
      · refine .inr (.inl ⟨?_, wasThere⟩)
        intro env' same
        cases same
        exact different rfl
  | drop other =>
      obtain ⟨thread, foundThread, dropped⟩ :=
        Option.bind_eq_some_iff.mp taken
      obtain ⟨⟨next, after⟩, moved, rfl⟩ := Option.map_eq_some_iff.mp dropped
      cases thread with
      | prompt handler =>
          obtain ⟨_, _, stepped⟩ := Option.map_eq_some_iff.mp moved
          cases stepped
          exact .inr (.inl ⟨by simp, canceling_of_put found rfl⟩)
      | _ => cases moved
  | putConfig config =>
      cases taken
      exact .inr (.inl ⟨by simp, found⟩)
  | deleteConfig configId =>
      cases taken
      exact .inr (.inl ⟨by simp, found⟩)
  | acp act =>
      simp only [step] at taken
      split at taken
      · obtain ⟨acp, _, rfl⟩ := Option.map_eq_some_iff.mp taken
        exact .inr (.inl ⟨by simp, found⟩)
      · cases taken

/-- What is noted of a cancel stays where another thread works. -/
theorem entry_kept
    {name : Nat} {value : TaskId × TaskState}
    (entry : book.found name = some value)
    (notOwn : ∀ env, action ≠ .work name env) :
    (observe server action target book).found name = some value := by
  cases action with
  | work other env =>
      refine note_kept entry fun same => ?_
      subst same
      exact absurd rfl (notOwn env)
  | _ => exact entry

/-- The session a cancel is about to tell is that of its Task, which it has
found running. -/
def Told (state : Server × CancelBook) : Prop :=
  ∀ name canceling session,
    state.1.threads name = some (.cancel canceling) →
      canceling.pc = .tell session →
        state.2.found name = some (canceling.taskId, .working) ∧
          state.1.Belongs canceling.taskId session

/-- How a cancel comes to know a session. -/
theorem told_of_work
    {name : Nat} {before : Canceling} {session : SessionId}
    {shared after : Shared}
    (worked : before.work name shared = some (.tell session, after)) :
    before.pc = .find ∧ shared.writer = none ∧
      ∃ binding ref conversation,
        shared.tasks.bindings before.taskId = some binding ∧
          shared.conversations.get binding.conversationId = some ref ∧
            shared.conversations.objects ref = some conversation ∧
              conversation.acpSessionId = session := by
  unfold Canceling.work at worked
  cases atPc : before.pc with
  | find =>
      simp only [atPc] at worked
      split at worked
      · cases worked
      · rename_i unwritten
        split at worked
        · rename_i conversation looked
          cases worked
          obtain ⟨ref, bound, isObject⟩ := Option.bind_eq_some_iff.mp looked
          obtain ⟨key, isKey, found⟩ := Option.bind_eq_some_iff.mp bound
          obtain ⟨binding, known, rfl⟩ := Option.map_eq_some_iff.mp isKey
          exact ⟨rfl, by simpa using unwritten, binding, ref, conversation,
            known, found, isObject, rfl⟩
        · cases worked
  | cancel =>
      simp only [atPc] at worked
      split at worked <;> cases worked
  | tell other =>
      simp only [atPc] at worked
      obtain ⟨acp, _, moved⟩ := Option.map_eq_some_iff.mp worked
      cases moved
  | await =>
      simp only [atPc] at worked
      split at worked <;> cases worked
  | snapshot =>
      simp only [atPc] at worked
      split at worked <;> cases worked
  | returned answer => simp [atPc] at worked

theorem Told.step
    (told : Told (server, book)) (staged : Staged server)
    (steady : ¬ Strays (server, book) action)
    (taken : step json cfg action server = some target) :
    Told (target, observe server action target book) := by
  intro name later session found atTell
  rcases canceling_of_step taken found with
    ⟨env, before, rfl, wasThere, worked, sameTask⟩ | ⟨notOwn, wasThere⟩ |
      ⟨_, isNew⟩
  · rw [atTell] at worked
    obtain ⟨atFind, unwritten, binding, ref, conversation, known, bound,
      isObject, sameSession⟩ := told_of_work worked
    have fits : book.found name = some (before.taskId, .working) ∧
        conversation.acpSessionId = binding.acpSessionId := by
      constructor
      · by_contra notRunning
        exact steady (.unfit name env before binding ref conversation wasThere
          atFind unwritten known bound isObject (.inl notRunning))
      · by_contra elsewhere
        exact steady (.unfit name env before binding ref conversation wasThere
          atFind unwritten known bound isObject (.inr elsewhere))
    have belongs : server.Belongs before.taskId session := by
      rw [Belongs, known, Option.map_some, ← fits.2, sameSession]
    rw [sameTask]
    refine ⟨note_kept fits.1 fun _ => .inl ?_, belongs.step staged taken⟩
    simp [wasThere, Thread.finds?, Thread.canceling?, atFind]
  · obtain ⟨entry, belongs⟩ := told name later session wasThere atTell
    exact ⟨entry_kept entry notOwn, belongs.step staged taken⟩
  · rw [isNew] at atTell
    cases atTell

/-- What has been told the driver was told for the Task's session. -/
def HandedOver (state : Server × CancelBook) : Prop :=
  ∀ name canceling session,
    state.1.threads name = some (.cancel canceling) →
      .cancel session name ∈ state.1.shared.acp.commands →
        state.2.found name = some (canceling.taskId, .working) ∧
          state.1.Belongs canceling.taskId session

/-- Only a cancel that has been told its session makes a call. -/
theorem tell_of_call
    {name : Nat} {canceling : Canceling} {next : CancelPc}
    {shared after : Shared} {session : SessionId}
    (worked : canceling.work name shared = some (next, after))
    (notThere : .cancel session name ∉ shared.acp.commands)
    (there : .cancel session name ∈ after.acp.commands) :
    canceling.pc = .tell session := by
  unfold Canceling.work at worked
  cases atPc : canceling.pc with
  | tell told =>
      simp only [atPc] at worked
      obtain ⟨acp, submitted, moved⟩ := Option.map_eq_some_iff.mp worked
      cases moved
      obtain ⟨_, ⟨_, rfl⟩ | ⟨_, rfl⟩⟩ := AcpClient.submit_some submitted
      · exact absurd there notThere
      · have isNew : AcpClient.commands
            { shared.acp with
              queue := shared.acp.queue ++ [.cancel told name] } =
            shared.acp.commands ++ [.cancel told name] := by
          simp [AcpClient.commands]
        rw [isNew] at there
        rcases List.mem_append.mp there with earlier | last
        · exact absurd earlier notThere
        · cases List.mem_singleton.mp last
          rfl
  | cancel =>
      simp only [atPc] at worked
      split at worked <;> cases worked <;> exact absurd there notThere
  | find =>
      simp only [atPc] at worked
      split at worked
      · cases worked
      · split at worked <;> cases worked <;> exact absurd there notThere
  | await =>
      simp only [atPc] at worked
      split at worked <;> cases worked
      exact absurd there notThere
  | snapshot =>
      simp only [atPc] at worked
      split at worked <;> cases worked <;> exact absurd there notThere
  | returned answer => simp [atPc] at worked

/-- A cancel command that a step brings is a call of the thread it names. -/
theorem caller_of_new_cancel
    {name : Nat} {session : SessionId}
    (taken : step json cfg action server = some target)
    (notThere : .cancel session name ∉ server.shared.acp.commands)
    (there : .cancel session name ∈ target.shared.acp.commands) :
    ∃ thread next, server.threads name = some thread ∧
      target.threads name = some next ∧
        thread.callStage = .before ∧ next.callStage = .waiting := by
  rcases calls_of_step taken with
    ⟨caller, thread, next, command, found, threads, calls, submitted⟩ |
      ⟨uncalled, _⟩
  · have isCommand : command = .cancel session name := by
      obtain ⟨_, ⟨_, same⟩ | ⟨_, queued⟩⟩ := AcpClient.submit_some submitted
      · rw [same] at there
        exact absurd there notThere
      · rw [queued] at there
        unfold AcpClient.commands at there notThere
        rw [← List.append_assoc] at there
        rcases List.mem_append.mp there with earlier | last
        · exact absurd earlier notThere
        · exact (List.mem_singleton.mp last).symm
    have isCaller : name = caller := by
      have named := calls.named
      rw [isCommand] at named
      exact Option.some.inj named
    rw [isCaller]
    refine ⟨thread, next, found, ?_, calls.before, calls.waits⟩
    rw [threads]
    exact Pool.put_self _ _ _
  · obtain ⟨fewer, _⟩ := Uncalled.commands uncalled
    rcases fewer _ there with earlier | noCall
    · exact absurd earlier notThere
    · cases noCall

theorem HandedOver.step
    (handed : HandedOver (server, book)) (told : Told (server, book))
    (calling : Calling cfg server) (staged : Staged server)
    (taken : step json cfg action server = some target) :
    HandedOver (target, observe server action target book) := by
  intro name later session found there
  by_cases wasThere : .cancel session name ∈ server.shared.acp.commands
  · obtain ⟨thread, isThread, begun, _⟩ :=
      calling.own _ name wasThere rfl
    rcases canceling_of_step taken found with
      ⟨env, before, rfl, isBefore, worked, sameTask⟩ | ⟨notOwn, isBefore⟩ |
        ⟨free, _⟩
    · obtain ⟨entry, belongs⟩ := handed name before session isBefore wasThere
      rw [sameTask]
      refine ⟨note_kept entry fun _ => .inl ?_, belongs.step staged taken⟩
      rw [isBefore] at isThread
      cases isThread
      obtain ⟨taskId, pc⟩ := before
      cases pc with
      | cancel => exact absurd rfl begun
      | _ => simp [isBefore, Thread.finds?, Thread.canceling?]
    · obtain ⟨entry, belongs⟩ := handed name later session isBefore wasThere
      exact ⟨entry_kept entry notOwn, belongs.step staged taken⟩
    · rw [free] at isThread
      cases isThread
  · obtain ⟨thread, next, isThread, isNext, begins, waits⟩ :=
      caller_of_new_cancel taken wasThere there
    rcases canceling_of_step taken found with
      ⟨env, before, rfl, isBefore, worked, sameTask⟩ | ⟨_, isBefore⟩ |
        ⟨free, _⟩
    · have atTell := tell_of_call worked wasThere there
      obtain ⟨entry, belongs⟩ := told name before session isBefore atTell
      rw [sameTask]
      refine ⟨note_kept entry fun _ => .inl ?_, belongs.step staged taken⟩
      simp [isBefore, Thread.finds?, Thread.canceling?, atTell]
    · rw [isBefore] at isThread
      cases isThread
      rw [found] at isNext
      cases isNext
      rw [begins] at waits
      cases waits
    · rw [free] at isThread
      cases isThread

/-- A cancel that was told in time is one for the Task's own prompt. -/
theorem HandedOver.cancelsOwn
    (handed : HandedOver (server, book)) (booked : Booked (server, book)) :
    CancelsOwn (server, book) := by
  intro name canceling session found there
  obtain ⟨running, belongs⟩ := handed name canceling session found there
  obtain ⟨prompt, stream, written, isStream, sameSession⟩ :=
    booked.own running belongs
  exact ⟨running, prompt, stream, written, isStream, sameSession⟩

/-! ## What a cancel does -/

theorem pendingSinks_of_submit
    {client after : AcpClient} {command : Command}
    (submitted : client.submit command = some after) :
    after.streams = client.streams ∧
      ∀ prompt, client.Outstanding prompt → after.Outstanding prompt := by
  obtain ⟨_, ⟨_, rfl⟩ | ⟨_, rfl⟩⟩ := AcpClient.submit_some submitted
  · exact ⟨rfl, fun _ outstanding => outstanding⟩
  · refine ⟨rfl, fun prompt outstanding => outstanding.imp_right ?_⟩
    intro waiting
    rw [AcpClient.pendingSinks_enqueue client client.streams command]
    exact List.mem_append_left _ waiting

/-- Whatever it sends, a cancel changes its own Task only. -/
theorem sparesOthers_of_step
    {name : Nat} {env : Env} {canceling : Canceling}
    (found : server.threads name = some (.cancel canceling))
    (taken : step json cfg (.work name env) server = some target) :
    SparesOthers server target canceling.taskId := by
  obtain ⟨thread, foundThread, worked⟩ := Option.bind_eq_some_iff.mp taken
  rw [found] at foundThread
  cases foundThread
  obtain ⟨⟨next, after⟩, moved, rfl⟩ := Option.map_eq_some_iff.mp worked
  obtain ⟨⟨pc, shared⟩, stepped, isNext⟩ := Option.map_eq_some_iff.mp moved
  cases isNext
  have handlers : ∀ tested,
      Server.handlers
          { shared := shared
            threads :=
              server.threads.put name (.cancel { canceling with pc }) }
          tested =
        server.handlers tested :=
    handlers_put_outsider shared (handlers_of_found found) rfl
  cases Canceling.work_affects stepped with
  | keeps => exact ⟨fun _ _ => rfl, handlers, rfl, fun _ prompts => prompts⟩
  | cancels id tasks asked canceled =>
      have isOwn : id = canceling.taskId := by
        obtain ⟨taskId, pc⟩ := canceling
        cases pc with
        | cancel => exact (Option.some.inj asked).symm
        | _ => cases asked
      obtain ⟨binding, _, _, rfl⟩ := TaskRegistry.cancel_ok_iff.mp canceled
      subst isOwn
      exact ⟨fun _ different => TaskRegistry.put_other different, handlers,
        rfl, fun _ prompts => prompts⟩
  | submits command acp submitted =>
      obtain ⟨sameStreams, prompts⟩ := pendingSinks_of_submit submitted
      exact ⟨fun _ _ => rfl, handlers, sameStreams, prompts⟩
  | removes => exact ⟨fun _ _ => rfl, handlers, rfl, fun _ prompts => prompts⟩

theorem not_oversteps
    (booked : Booked (server, book)) (told : Told (server, book))
    (steady : ¬ Strays (server, book) action) :
    ¬ Oversteps json cfg (server, book) action := by
  intro oversteps
  obtain ⟨name, env, canceling, rfl, found, wrong⟩ := oversteps
  rcases wrong with ⟨session, atTell, alive, mistaken⟩ |
    ⟨target, taken, disturbs⟩
  · obtain ⟨running, belongs⟩ := told name canceling session found atTell
    obtain ⟨prompt, stream, written, isStream, sameSession⟩ :=
      booked.own running belongs
    apply mistaken
    refine ⟨running, prompt, stream, written, isStream, sameSession, ?_⟩
    rcases booked.accounted.fate prompt stream isStream with
      outstanding | answered | gone
    · exact outstanding
    · exact absurd (.late name env canceling session prompt found atTell alive
        written answered) steady
    · exact absurd gone alive
  · exact disturbs (sparesOthers_of_step found taken)

/-- What holds of cancels as long as none strays. -/
structure OnCourse (cfg : ServeConfig) (state : Server × CancelBook) :
    Prop where
  booked : Booked state
  calling : Calling cfg state.1
  told : Told state
  handed : HandedOver state

theorem onCourse_start
    (maxActive idleWindow now : Nat) (loaded : List (String × SessionId)) :
    OnCourse cfg (start maxActive idleWindow now loaded, unbooked) where
  booked := booked_start maxActive idleWindow now loaded
  calling := calling_start maxActive idleWindow now loaded
  told := fun _ _ _ found => by cases found
  handed := fun _ _ _ found => by cases found

theorem OnCourse.step
    (kept : OnCourse cfg (server, book))
    (steady : ¬ Strays (server, book) action)
    (taken : step json cfg action server = some target) :
    OnCourse cfg (target, observe server action target book) where
  booked := kept.booked.step taken
  calling := kept.calling.step taken
  told := kept.told.step kept.booked.staged steady taken
  handed :=
    kept.handed.step kept.told kept.calling kept.booked.staged taken

/-- While no cancel strays, each one is for its own Task's turn or none: when
it is handed to the driver, and in all that the driver has got of it. -/
theorem cancel_targets_own_turn
    {trace : List Action} {state : Server × CancelBook}
    {maxActive idleWindow now : Nat} {loaded : List (String × SessionId)}
    (run : Run (bookedStep json cfg)
      (fun reached action => ¬ Strays reached action)
      (start maxActive idleWindow now loaded, unbooked) trace state) :
    ¬ SomeStep (bookedStep json cfg) (Oversteps json cfg)
        (start maxActive idleWindow now loaded, unbooked) trace ∧
      CancelsOwn state := by
  have kept : OnCourse cfg state ∧
      ¬ SomeStep (bookedStep json cfg) (Oversteps json cfg)
        (start maxActive idleWindow now loaded, unbooked) trace := by
    induction run with
    | start =>
        exact ⟨onCourse_start maxActive idleWindow now loaded,
          not_someStep_nil⟩
    | snoc before steady taken inductionHypothesis =>
        obtain ⟨onCourse, never⟩ := inductionHypothesis
        obtain ⟨target, stepped, rfl⟩ := Option.map_eq_some_iff.mp taken
        refine ⟨onCourse.step steady stepped, ?_⟩
        rw [before.someStep_snoc]
        intro happens
        rcases happens with earlier | now
        · exact never earlier
        · exact not_oversteps onCourse.booked onCourse.told steady now
  exact ⟨kept.2, kept.1.handed.cancelsOwn kept.1.booked⟩

/-- Of a cancel, only its first step is taken. -/
def cancelsOnly (state : Server × CancelBook) : Action → Bool
  | .work name _ =>
      match state.1.threads name with
      | some (.cancel canceling) => decide (canceling.pc = .cancel)
      | _ => true
  | _ => true

/-- A cancel of a Task whose prompt has got its first chunk. -/
theorem cancel_of_running_task_is_its_own :
    ∃ json cfg trace state,
      Run (bookedStep json cfg) (fun reached action => ¬ Strays reached action)
          (start 10 60 0 [], unbooked) trace state ∧
        ¬ SomeStep (bookedStep json cfg) (Oversteps json cfg)
          (start 10 60 0 [], unbooked) trace ∧
        CancelsOwn state ∧ state.1.shared.acp.queue = [.cancel "s" 1] := by
  let env : Env := { now := 0, taskId := ⟨"t"⟩ }
  let work : Action := .work 0 env
  let trace : List Action :=
    [.request 0 .send plainParams none, work, work, work, .acp .receive,
      .acp (.answer (.session "s")), work, work, work, work, work, work, work,
      work, .acp .receive,
      .acp (.notify "s" (.agentMessageChunk (.text "hi"))), .acp .deliver,
      work, work, work, .cancelTask 1 ⟨"t"⟩, .work 1 env]
  have sound : ∀ state action, cancelsOnly state action = true →
      ¬ Strays state action := by
    intro state action passed strays
    cases strays with
    | unfit name env canceling _ _ _ found atFind =>
        simp [cancelsOnly, found, atFind] at passed
    | late name env canceling _ _ found atTell =>
        simp [cancelsOnly, found, atTell] at passed
  obtain ⟨reached, told, queued, executed, finds, tells, atFind, entry,
      ⟨binding, known, made⟩, ⟨ref, conversation, bound, isObject, isMade⟩,
      atTell, written, ⟨session, content, waiting⟩, ⟨stream, found, unended⟩,
      isQueued⟩ : ∃ reached told queued,
      execTested (bookedStep .constant plainConfig) cancelsOnly trace
          (start 10 60 0 [], unbooked) = some reached ∧
        bookedStep .constant plainConfig (.work 1 env) reached = some told ∧
        bookedStep .constant plainConfig (.work 1 env) told = some queued ∧
        reached.1.threads 1 = some (.cancel ⟨⟨"t"⟩, .find⟩) ∧
        reached.2.found 1 = some (⟨"t"⟩, .working) ∧
        (∃ binding, reached.1.shared.tasks.bindings ⟨"t"⟩ = some binding ∧
          binding.place = ("c", "s")) ∧
        (∃ ref conversation,
          reached.1.shared.conversations.get "c" = some ref ∧
            reached.1.shared.conversations.objects ref = some conversation ∧
              conversation.acpSessionId = "s") ∧
        told.1.threads 1 = some (.cancel ⟨⟨"t"⟩, .tell "s"⟩) ∧
        told.2.prompted = note (fun _ => none) 0 (some ⟨"t"⟩) ∧
        (∃ session content, told.1.shared.acp.driver =
          .awaiting (.prompt session content 0)) ∧
        (∃ stream, told.1.shared.acp.streams 0 = some stream ∧
          stream.items.all (fun item => !endsStream item) = true) ∧
        queued.1.shared.acp.queue = [.cancel "s" 1] :=
    ⟨_, _, _, rfl, rfl, rfl, rfl, rfl, ⟨_, rfl, rfl⟩, ⟨_, _, rfl, rfl, rfl⟩,
      rfl, rfl, ⟨_, _, rfl⟩, ⟨_, rfl, rfl⟩, rfl⟩
  have steadyFind : ¬ Strays reached (.work 1 env) := by
    intro strays
    cases strays with
    | unfit name _ canceling other otherRef otherConversation isCancel _ _
        isKnown isBound isOther mistaken =>
        rw [atFind] at isCancel
        cases isCancel
        rw [known] at isKnown
        cases isKnown
        obtain ⟨sameKey, sameSession⟩ := Prod.mk.inj made
        rw [sameKey, bound] at isBound
        cases isBound
        rw [isObject] at isOther
        cases isOther
        rcases mistaken with notRunning | elsewhere
        · exact notRunning entry
        · exact elsewhere (isMade.trans sameSession.symm)
    | late name _ canceling session prompt isCancel isTell =>
        rw [atFind] at isCancel
        cases isCancel
        cases isTell
  have steadyTell : ¬ Strays told (.work 1 env) := by
    intro strays
    cases strays with
    | unfit name _ canceling other otherRef otherConversation isCancel isFind =>
        rw [atTell] at isCancel
        cases isCancel
        cases isFind
    | late name _ canceling otherSession prompt _ _ _ own answered =>
        have isZero : prompt = 0 := by
          rw [written] at own
          rcases note_cases own with unwritten | ⟨isPrompt, _⟩
          · cases unwritten
          · exact isPrompt
        subst isZero
        rcases answered with ⟨_, _, resolved⟩ |
          ⟨other, item, isOther, member, ends⟩
        · rw [waiting] at resolved
          cases resolved
        · rw [found] at isOther
          cases isOther
          have unending := List.all_eq_true.mp unended item member
          rw [ends] at unending
          cases unending
  have run := (run_of_execTested sound executed).snoc steadyFind finds
    |>.snoc steadyTell tells
  obtain ⟨inBounds, isOwn⟩ := cancel_targets_own_turn run
  exact ⟨.constant, plainConfig, _, queued, run, inBounds, isOwn, isQueued⟩

/-- A Task that was refused for its size is never prompted.  Its cancel is
handed over for the session of the next Task's turn, and the agent gets it. -/
theorem cancel_can_target_another_turn :
    ∃ json cfg trace state,
      exec (bookedStep json cfg) trace (start 10 60 0 [], unbooked) =
          some state ∧
        SomeStep (bookedStep json cfg) (Oversteps json cfg)
          (start 10 60 0 [], unbooked) trace ∧
        state.2.prompted 1 = some ⟨"u"⟩ ∧
        state.1.shared.acp.Outstanding 1 ∧
        state.1.shared.acp.queue = [.cancel "s" 2] ∧
        ∃ rest later, exec (bookedStep json cfg) rest state = some later ∧
          .cancel "s" 2 ∈ later.1.shared.acp.sent := by
  let cfg : ServeConfig := { plainConfig with maxPartBytes := 4 }
  let params (text : String) : Value :=
    .object
      [("message", .object
        [("role", .string "user"),
          ("parts", .array [.object [("text", .string text)]]),
          ("metadata", .object
            [(MessageMetadata.conversationKey, .string "c")])])]
  let first : Action := .work 0 { now := 0, taskId := ⟨"t"⟩ }
  let second : Action := .work 1 { now := 0, taskId := ⟨"u"⟩ }
  let tell : Action := .work 2 { now := 0, taskId := ⟨"v"⟩ }
  let trace : List Action :=
    [.request 0 .send (params "hello") none, first, first, first,
      .acp .receive, .acp (.answer (.session "s")), first, first, first,
      first, first, first, first, .request 1 .send (params "hi") none,
      second, second, second, second, second, second, second, second,
      .acp .receive, .cancelTask 2 ⟨"t"⟩, tell, tell]
  let rest : List Action :=
    [.acp (.answer (.stopped .endTurn)), .acp .sendTerminal, .acp .clearRoute,
      .acp .receive]
  obtain ⟨told, queued, later, executed, tells, found, atTell, alive, written,
      waiting, isQueued, goesOn, isSent⟩ : ∃ told queued later,
      exec (bookedStep .constant cfg) trace (start 10 60 0 [], unbooked) =
          some told ∧
        bookedStep .constant cfg tell told = some queued ∧
        told.2.found 2 = some (⟨"t"⟩, .submitted) ∧
        told.1.threads 2 = some (.cancel ⟨⟨"t"⟩, .tell "s"⟩) ∧
        (∃ session content, told.1.shared.acp.driver =
          .awaiting (.prompt session content 1)) ∧
        queued.2.prompted 1 = some ⟨"u"⟩ ∧
        (∃ session content, queued.1.shared.acp.driver =
          .awaiting (.prompt session content 1)) ∧
        queued.1.shared.acp.queue = [.cancel "s" 2] ∧
        exec (bookedStep .constant cfg) rest queued = some later ∧
        later.1.shared.acp.sent.getLast? = some (.cancel "s" 2) :=
    ⟨_, _, _, rfl, rfl, rfl, rfl, ⟨_, _, rfl⟩, rfl, ⟨_, _, rfl⟩, rfl, rfl, rfl⟩
  obtain ⟨session, content, isAlive⟩ := alive
  obtain ⟨other, sent, stillWaiting⟩ := waiting
  refine ⟨.constant, cfg, trace ++ [tell], queued, ?_, ?_, written, ?_,
    isQueued, rest, later, goesOn, List.mem_of_getLast? isSent⟩
  · rw [exec_append, executed]
    simp [exec, tells]
  · refine ⟨trace, tell, [], told, rfl, executed, 2, _, _, rfl, atTell, ?_⟩
    refine .inl ⟨"s", rfl, by simp [isAlive], ?_⟩
    intro stops
    have running := stops.running
    rw [found] at running
    cases running
  · right
    rw [AcpClient.pendingSinks_of_awaiting stillWaiting]
    exact List.mem_append_left _ (List.mem_singleton.mpr rfl)

end Server

end A2AShim
