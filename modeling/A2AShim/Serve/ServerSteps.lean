import A2AShim.Serve.Server

/-!
# What one step of the server can do

One constructor for each branch of a handler's code, with the checks that lead
into it.  Everything about runs of the server is proved from these.
-/

namespace A2AShim

/-- The reader has taken every item, and nobody can send another one. -/
def AcpClient.AtEnd (client : AcpClient) (sink : PromptId) : Prop :=
  (∃ stream, client.streams sink = some stream ∧
      stream.items.length ≤ stream.taken) ∧
    client.isOpen sink = false

theorem AcpClient.pollNext_some
    {client : AcpClient} {sink : PromptId}
    {polled : Option StreamItem × AcpClient}
    (taken : client.pollNext sink = some polled) :
    (∃ stream item, client.streams sink = some stream ∧
        stream.items[stream.taken]? = some item ∧ polled.1 = some item ∧
          client.take sink = some polled.2) ∨
      (client.AtEnd sink ∧ polled = (none, client)) := by
  unfold pollNext at taken
  cases found : client.streams sink with
  | none => simp [found] at taken
  | some stream =>
      simp only [found] at taken
      cases next : stream.items[stream.taken]? with
      | some item =>
          simp only [next, Option.map_eq_some_iff] at taken
          rcases taken with ⟨target, isTaken, rfl⟩
          exact .inl ⟨stream, item, rfl, next, rfl, isTaken⟩
      | none =>
          simp only [next] at taken
          by_cases isOpen : client.isOpen sink = true
          · simp [isOpen] at taken
          · simp only [isOpen, if_false, Option.some.injEq,
              Bool.false_eq_true] at taken
            exact .inr
              ⟨⟨⟨stream, found, List.getElem?_eq_none_iff.mp next⟩,
                by simpa using isOpen⟩, taken.symm⟩

namespace HandlerPc

/-- Positions before the guard at which nothing is held or aimed at. -/
def isIdle : HandlerPc → Bool
  | .checkMode | .lookUp | .create | .insertRow _ | .findGuard _
  | .returned _ | .dropped => true
  | _ => false

end HandlerPc

namespace Handler

/-- The steps of a handler that has no guard yet. -/
inductive Opening (cfg : ServeConfig) (name : Nat) (env : Env)
    (handler : Handler) (shared : Shared) : HandlerPc → Shared → Prop
  | passes
      (before : handler.pc = .checkMode)
      (honoured :
        Http.checkConversationMode shared.conversations handler.params
          handler.request.key = .ok ()) :
      Opening cfg name env handler shared .lookUp shared
  | misses
      (before : handler.pc = .lookUp)
      (absent : shared.conversations.get handler.request.key = none) :
      Opening cfg name env handler shared .create shared
  | hits (ref : ConversationRef)
      (before : handler.pc = .lookUp ∨ handler.pc = .create)
      (unwritten : shared.writer = none)
      (found : shared.conversations.get handler.request.key = some ref) :
      Opening cfg name env handler shared
        (.findGuard
          (((shared.conversations.objects ref).map
            Conversation.acpSessionId).getD ""))
        { shared with
          conversations := shared.conversations.touch ref env.now }
  | asks (acp : AcpClient)
      (before : handler.pc = .create)
      (unwritten : shared.writer = none)
      (absent : shared.conversations.get handler.request.key = none)
      (submitted :
        AcpClient.step (.submit (.sessionNew cfg.cwd name)) shared.acp =
          some acp) :
      Opening cfg name env handler shared .spawning
        { shared with writer := some name, acp }
  | opens (session : SessionId)
      (before : handler.pc = .spawning)
      (replied : shared.acp.replies name = some (.session session)) :
      Opening cfg name env handler shared (.insertRow session)
        { shared with
          conversations :=
            shared.conversations.insert handler.request.key session env.now
          writer := none }
  | unopened (error : JsonRpcError)
      (before : handler.pc = .spawning) :
      Opening cfg name env handler shared (.returned (.error error))
        { shared with writer := none }
  | records (session : SessionId)
      (before : handler.pc = .insertRow session) :
      Opening cfg name env handler shared (.findGuard session) shared
  | aims (session : SessionId) (found : ConversationRef)
      (before : handler.pc = .findGuard session)
      (unwritten : shared.writer = none)
      (bound : shared.conversations.get handler.request.key = some found) :
      Opening cfg name env handler shared (.lockGuard session found) shared
  | locks (session : SessionId) (found : ConversationRef)
      (locked : ConversationMap)
      (before : handler.pc = .lockGuard session found)
      (taken : shared.conversations.tryLock found name = some locked) :
      Opening cfg name env handler shared (.enter session found)
        { shared with conversations := locked }
  | refuses (error : JsonRpcError)
      (before : handler.pc.isIdle = true ∨
        ∃ session found, handler.pc = .lockGuard session found) :
      Opening cfg name env handler shared (.returned (.error error)) shared

/-- The steps of a prompt handler. -/
inductive Moves (json : SerdeJson) (cfg : ServeConfig) (name : Nat)
    (env : Env) (handler : Handler) (shared : Shared) :
    HandlerPc → Shared → Prop
  | idles (next : HandlerPc)
      (before : handler.pc.isIdle = true ∨
        ∃ session found, handler.pc = .lockGuard session found)
      (after : next.isIdle = true) :
      Moves json cfg name env handler shared next shared
  | touches (ref : ConversationRef) (session : SessionId)
      (before : handler.pc = .lookUp ∨ handler.pc = .create)
      (found : shared.conversations.get handler.request.key = some ref) :
      Moves json cfg name env handler shared (.findGuard session)
        { shared with
          conversations := shared.conversations.touch ref env.now }
  | asks (acp : AcpClient)
      (before : handler.pc = .create)
      (unwritten : shared.writer = none)
      (absent : shared.conversations.get handler.request.key = none)
      (submitted : AcpClient.step (.submit (.sessionNew cfg.cwd name))
        shared.acp = some acp) :
      Moves json cfg name env handler shared .spawning
        { shared with writer := some name, acp }
  | opens (session : SessionId)
      (before : handler.pc = .spawning) :
      Moves json cfg name env handler shared (.insertRow session)
        { shared with
          conversations :=
            shared.conversations.insert handler.request.key session env.now
          writer := none }
  | unopened (error : JsonRpcError)
      (before : handler.pc = .spawning) :
      Moves json cfg name env handler shared (.returned (.error error))
        { shared with writer := none }
  | aims (session : SessionId) (found : ConversationRef)
      (before : handler.pc = .findGuard session)
      (unwritten : shared.writer = none)
      (bound : shared.conversations.get handler.request.key = some found) :
      Moves json cfg name env handler shared (.lockGuard session found) shared
  | locks (session : SessionId) (found : ConversationRef)
      (locked : ConversationMap)
      (before : handler.pc = .lockGuard session found)
      (taken : shared.conversations.tryLock found name = some locked) :
      Moves json cfg name env handler shared (.enter session found)
        { shared with conversations := locked }
  | refused (session : SessionId) (guarded : ConversationRef)
      (error : JsonRpcError)
      (before : handler.pc = .enter session guarded) :
      Moves json cfg name env handler shared (.returned (.error error))
        (shared.release guarded)
  | resumes (session : SessionId) (guarded : ConversationRef)
      (existing : TaskId) (tasks : TaskRegistry)
      (before : handler.pc = .enter session guarded)
      (accepted : shared.tasks.acceptContinuation existing = .ok tasks) :
      Moves json cfg name env handler shared
        (.dispatch session guarded existing) { shared with tasks }
  | creates (session : SessionId) (guarded : ConversationRef)
      (before : handler.pc = .enter session guarded)
      (unknown : shared.tasks.bindings env.taskId = none) :
      Moves json cfg name env handler shared
        (.record session guarded env.taskId)
        { shared with
          tasks :=
            shared.tasks.create env.taskId handler.request.key session }
  | records (session : SessionId) (guarded : ConversationRef)
      (taskId : TaskId)
      (before : handler.pc = .record session guarded taskId) :
      Moves json cfg name env handler shared
        (.dispatch session guarded taskId) shared
  | tooLarge (session : SessionId) (guarded : ConversationRef)
      (taskId : TaskId) (error : JsonRpcError)
      (before : handler.pc = .dispatch session guarded taskId)
      (oversized : Translate.validateParts json
        handler.request.parsed.message.parts cfg.maxPartBytes ≠ .ok ()) :
      Moves json cfg name env handler shared (.returned (.error error))
        (shared.release guarded)
  | routes (session : SessionId) (guarded : ConversationRef)
      (taskId : TaskId) (content : List ContentBlock) (acp : AcpClient)
      (before : handler.pc = .dispatch session guarded taskId)
      (registered : AcpClient.step (.registerRoute name session content)
        shared.acp = some acp) :
      Moves json cfg name env handler shared (.sendPrompt guarded taskId)
        { shared with acp }
  | unsent (guarded : ConversationRef) (taskId : TaskId)
      (error : JsonRpcError) (acp : AcpClient)
      (before : handler.pc = .sendPrompt guarded taskId)
      (gone : shared.acp.driver = .gone)
      (called : AcpClient.step (.sendPrompt name) shared.acp = some acp) :
      Moves json cfg name env handler shared (.returned (.error error))
        (Shared.release { shared with acp } guarded)
  | sends (next : HandlerPc) (guarded : ConversationRef) (taskId : TaskId)
      (acp : AcpClient)
      (before : handler.pc = .sendPrompt guarded taskId)
      (after : next = .bridging guarded (.begin taskId) ∨
        next = .fetchSink guarded taskId)
      (called : AcpClient.step (.sendPrompt name) shared.acp = some acp) :
      Moves json cfg name env handler shared next { shared with acp }
  | unattached (guarded : ConversationRef) (taskId : TaskId)
      (error : JsonRpcError)
      (before : handler.pc = .fetchSink guarded taskId)
      (unknown : shared.tasks.bindings taskId = none) :
      Moves json cfg name env handler shared (.returned (.error error))
        (shared.release guarded)
  | attaches (guarded : ConversationRef) (taskId : TaskId)
      (before : handler.pc = .fetchSink guarded taskId) :
      Moves json cfg name env handler shared
        (.bridging guarded (.begin taskId)) shared
  | polls (guarded : ConversationRef) (call : Bridge.Call)
      (stream : PromptStream) (item : StreamItem) (acp : AcpClient)
      (before : handler.pc = .bridging guarded call)
      (atNext : call.pc = .next)
      (found : shared.acp.streams name = some stream)
      (member : item ∈ stream.items)
      (taken : AcpClient.step (.take name) shared.acp = some acp) :
      Moves json cfg name env handler shared
        (.bridging guarded (call.polled json (some item)))
        { shared with acp }
  | ends (guarded : ConversationRef) (call : Bridge.Call)
      (before : handler.pc = .bridging guarded call)
      (atNext : call.pc = .next)
      (atEnd : shared.acp.AtEnd name) :
      Moves json cfg name env handler shared
        (.bridging guarded (call.polled json none)) shared
  | bridges (guarded : ConversationRef) (call next : Bridge.Call)
      (tasks : TaskRegistry)
      (before : handler.pc = .bridging guarded call)
      (worked : call.work json shared.tasks = some (next, tasks)) :
      Moves json cfg name env handler shared (.bridging guarded next)
        { shared with tasks }
  | leaves (guarded : ConversationRef) (call : Bridge.Call)
      (result : Except Bridge.BridgeError Unit)
      (answer : Except JsonRpcError (Option Task))
      (before : handler.pc = .bridging guarded call)
      (atReturn : call.pc = .returned result)
      (unannounced : result = .ok () → handler.method = .stream) :
      Moves json cfg name env handler shared (.returned answer)
        (shared.release guarded)
  | settles (guarded : ConversationRef) (call : Bridge.Call)
      (before : handler.pc = .bridging guarded call)
      (atReturn : call.pc = .returned (.ok ()))
      (forSend : handler.method = .send) :
      Moves json cfg name env handler shared
        (.snapshot guarded call.taskId) shared
  | answers (guarded : ConversationRef) (taskId : TaskId)
      (answer : Except JsonRpcError (Option Task))
      (before : handler.pc = .snapshot guarded taskId)
      (unfinished : ∀ binding, shared.tasks.bindings taskId = some binding →
        binding.state.isTerminal = false) :
      Moves json cfg name env handler shared (.returned answer)
        (shared.release guarded)
  | announces (guarded : ConversationRef) (taskId : TaskId)
      (binding : TaskBinding)
      (before : handler.pc = .snapshot guarded taskId)
      (found : shared.tasks.bindings taskId = some binding)
      (terminal : binding.state.isTerminal = true) :
      Moves json cfg name env handler shared
        (.push guarded (binding.snapshot taskId)) shared
  | pushes (guarded : ConversationRef) (snap : Task)
      (answer : Except JsonRpcError (Option Task))
      (before : handler.pc = .push guarded snap) :
      Moves json cfg name env handler shared (.returned answer)
        (Shared.release
          { shared with
            jobs :=
              shared.jobs ++
                PushDelivery.jobsForTerminal shared.configs snap env.now }
          guarded)

variable {json : SerdeJson} {cfg : ServeConfig} {name : Nat} {env : Env}
variable {handler : Handler} {shared after : Shared} {next : HandlerPc}

theorem open_opening
    (taken : handler.open_ cfg name env shared = some (next, after)) :
    Opening cfg name env handler shared next after := by
  unfold open_ at taken
  cases atPc : handler.pc with
  | checkMode =>
      simp only [atPc] at taken
      split at taken
      · cases taken
      · split at taken
        · cases taken
          exact .refuses _ (.inl (by rw [atPc]; rfl))
        · rename_i honoured
          cases taken
          exact .passes atPc honoured
  | lookUp =>
      simp only [atPc] at taken
      split at taken
      · cases taken
      · rename_i unwritten
        split at taken
        · rename_i ref found
          cases taken
          exact .hits ref (.inl atPc) (by simpa using unwritten) found
        · rename_i absent
          cases taken
          exact .misses atPc absent
  | create =>
      simp only [atPc] at taken
      split at taken
      · cases taken
      · rename_i unwritten
        split at taken
        · rename_i ref found
          cases taken
          exact .hits ref (.inr atPc) (by simpa using unwritten) found
        · rename_i absent
          split at taken
          · cases taken
            exact .refuses _ (.inl (by rw [atPc]; rfl))
          · obtain ⟨acp, submitted, moved⟩ := Option.map_eq_some_iff.mp taken
            cases moved
            exact .asks acp atPc (by simpa using unwritten) absent submitted
  | spawning =>
      simp only [atPc] at taken
      split at taken
      · rename_i session replied
        cases taken
        exact .opens session atPc replied
      · cases taken
        exact .unopened _ atPc
      · cases taken
      · split at taken
        · cases taken
          exact .unopened _ atPc
        · cases taken
  | insertRow session =>
      simp only [atPc] at taken
      cases taken
      exact .records session atPc
  | findGuard session =>
      simp only [atPc] at taken
      split at taken
      · cases taken
      · rename_i unwritten
        split at taken
        · cases taken
          exact .refuses _ (.inl (by rw [atPc]; rfl))
        · rename_i found bound
          cases taken
          exact .aims session found atPc (by simpa using unwritten) bound
  | lockGuard session found =>
      simp only [atPc] at taken
      split at taken
      · cases taken
        exact .refuses _ (.inr ⟨session, found, atPc⟩)
      · rename_i locked isTaken
        cases taken
        exact .locks session found locked atPc isTaken
  | _ => simp [atPc] at taken

theorem Opening.moves
    (opening : Opening cfg name env handler shared next after) :
    Moves json cfg name env handler shared next after := by
  cases opening with
  | passes before => exact .idles _ (.inl (by rw [before]; rfl)) rfl
  | misses before => exact .idles _ (.inl (by rw [before]; rfl)) rfl
  | hits ref before unwritten found => exact .touches ref _ before found
  | asks acp before unwritten absent submitted =>
      exact .asks acp before unwritten absent submitted
  | opens session before => exact .opens session before
  | unopened error before => exact .unopened error before
  | records session before => exact .idles _ (.inl (by rw [before]; rfl)) rfl
  | aims session found before unwritten bound =>
      exact .aims session found before unwritten bound
  | locks session found locked before taken =>
      exact .locks session found locked before taken
  | refuses error before => exact .idles _ before rfl

theorem start_moves
    (taken : handler.start json cfg name env shared = some (next, after)) :
    Moves json cfg name env handler shared next after := by
  unfold start at taken
  cases atPc : handler.pc with
  | enter session guarded =>
      simp only [atPc] at taken
      split at taken
      · rename_i existing _
        split at taken
        · cases taken
          exact .refused session guarded _ atPc
        · rename_i tasks accepted
          cases taken
          exact .resumes session guarded existing tasks atPc accepted
      · split at taken
        · cases taken
        · rename_i unknown
          cases taken
          exact .creates session guarded atPc unknown
  | record session guarded taskId =>
      simp only [atPc] at taken
      cases taken
      exact .records session guarded taskId atPc
  | dispatch session guarded taskId =>
      simp only [atPc] at taken
      split at taken
      · rename_i error oversized
        cases taken
        exact .tooLarge session guarded taskId _ atPc (by simp [oversized])
      · obtain ⟨acp, registered, moved⟩ := Option.map_eq_some_iff.mp taken
        cases moved
        exact .routes session guarded taskId _ acp atPc registered
  | sendPrompt guarded taskId =>
      simp only [atPc] at taken
      obtain ⟨acp, called, outcome⟩ := Option.bind_eq_some_iff.mp taken
      split at outcome
      · rename_i gone
        cases outcome
        exact .unsent guarded taskId _ acp atPc gone called
      · split at outcome
        · cases outcome
          exact .sends _ guarded taskId acp atPc (.inl rfl) called
        · cases outcome
          exact .sends _ guarded taskId acp atPc (.inr rfl) called
  | fetchSink guarded taskId =>
      simp only [atPc] at taken
      split at taken
      · rename_i unknown
        cases taken
        exact .unattached guarded taskId _ atPc
          (Option.map_eq_none_iff.mp unknown)
      · cases taken
        exact .attaches guarded taskId atPc
  | _ => simp [atPc] at taken

theorem bridge_moves
    {guarded : ConversationRef} {call : Bridge.Call}
    (before : handler.pc = .bridging guarded call)
    (taken :
      handler.bridge json name guarded call shared = some (next, after)) :
    Moves json cfg name env handler shared next after := by
  unfold bridge at taken
  split at taken
  · rename_i atNext
    obtain ⟨⟨item, acp⟩, polled, moved⟩ := Option.map_eq_some_iff.mp taken
    cases moved
    rcases AcpClient.pollNext_some polled with
      ⟨stream, got, found, isNext, isSome, isTaken⟩ | ⟨atEnd, isEnd⟩
    · cases isSome
      exact .polls guarded call stream got acp before atNext found
        (List.mem_of_getElem? isNext) isTaken
    · cases isEnd
      exact .ends guarded call before atNext atEnd
  · rename_i result atReturn
    split at taken
    · cases taken
      exact .leaves guarded call _ _ before atReturn nofun
    · rename_i forSend
      cases taken
      exact .settles guarded call before atReturn forSend
    · rename_i forStream
      cases taken
      exact .leaves guarded call _ _ before atReturn fun _ => forStream
  · obtain ⟨⟨worked, tasks⟩, moved, stepped⟩ :=
      Option.map_eq_some_iff.mp taken
    cases stepped
    exact .bridges guarded call worked tasks before moved

theorem work_moves
    (taken : handler.work json cfg name env shared = some (next, after)) :
    Moves json cfg name env handler shared next after := by
  unfold work at taken
  split at taken
  · rename_i guarded call atPc
    exact bridge_moves atPc taken
  · rename_i guarded taskId atPc
    split at taken
    · rename_i vanished
      cases taken
      have unknown : shared.tasks.bindings taskId = none :=
        Option.map_eq_none_iff.mp vanished
      exact .answers guarded taskId _ atPc (by simp [unknown])
    · rename_i snap found
      obtain ⟨binding, known, rfl⟩ := Option.map_eq_some_iff.mp found
      split at taken
      · rename_i terminal
        cases taken
        exact .announces guarded taskId binding atPc known terminal
      · rename_i active
        cases taken
        refine .answers guarded taskId _ atPc ?_
        intro other foundOther
        rw [known] at foundOther
        cases foundOther
        simpa [TaskBinding.snapshot] using active
  · rename_i guarded snap atPc
    cases taken
    exact .pushes guarded snap _ atPc
  · exact start_moves taken
  · exact start_moves taken
  · exact start_moves taken
  · exact start_moves taken
  · exact start_moves taken
  · exact (open_opening taken).moves

end Handler

/-! ## The other threads -/

namespace Thread

def handler? : Thread → Option Handler
  | .prompt handler => some handler
  | _ => none

/-- The Task the thread's next step asks to cancel. -/
def cancels? : Thread → Option TaskId
  | .cancel { taskId, pc := .cancel } => some taskId
  | .reset { pc := .canceling _ (id :: _) _, .. } => some id
  | _ => none

/-- The keys the thread's next step takes out of the map. -/
def removes : Thread → List String
  | .reset { key, pc := .remove _ } => [key]
  | .sweep (.remove keys) => keys
  | _ => []

/-- What a step of a thread that is no prompt handler does to the rest. -/
inductive Affects (thread : Thread) (shared : Shared) : Shared → Prop
  | keeps : Affects thread shared shared
  | cancels (id : TaskId) (tasks : TaskRegistry)
      (asked : thread.cancels? = some id)
      (canceled : shared.tasks.cancel id = .ok tasks) :
      Affects thread shared { shared with tasks }
  | submits (command : Command) (acp : AcpClient)
      (submitted : AcpClient.step (.submit command) shared.acp = some acp) :
      Affects thread shared { shared with acp }
  | removes (unwritten : shared.writer = none) :
      Affects thread shared
        { shared with
          conversations :=
            thread.removes.foldl ConversationMap.remove
              shared.conversations }

end Thread

theorem Canceling.work_affects
    {name : Nat} {canceling : Canceling} {shared after : Shared}
    {next : CancelPc}
    (taken : canceling.work name shared = some (next, after)) :
    Thread.Affects (.cancel canceling) shared after := by
  unfold Canceling.work at taken
  cases atPc : canceling.pc with
  | cancel =>
      simp only [atPc] at taken
      split at taken
      · cases taken
        exact .keeps
      · rename_i tasks canceled
        cases taken
        refine .cancels canceling.taskId tasks ?_ canceled
        cases canceling
        cases atPc
        rfl
  | find =>
      simp only [atPc] at taken
      split at taken
      · cases taken
      · split at taken
        · cases taken
          exact .keeps
        · cases taken
          exact .keeps
  | tell session =>
      simp only [atPc] at taken
      obtain ⟨acp, submitted, moved⟩ := Option.map_eq_some_iff.mp taken
      cases moved
      exact .submits _ acp submitted
  | await =>
      simp only [atPc] at taken
      split at taken
      · cases taken
        exact .keeps
      · cases taken
  | snapshot =>
      simp only [atPc] at taken
      split at taken
      · cases taken
        exact .keeps
      · cases taken
        exact .keeps
  | returned answer => simp [atPc] at taken

theorem Resetting.work_affects
    {name : Nat} {resetting : Resetting} {shared after : Shared}
    {next : ResetPc}
    (taken : resetting.work name shared = some (next, after)) :
    Thread.Affects (.reset resetting) shared after := by
  unfold Resetting.work at taken
  cases atPc : resetting.pc with
  | lookUp =>
      simp only [atPc] at taken
      split at taken
      · cases taken
      · cases taken
        exact .keeps
  | list session =>
      simp only [atPc] at taken
      cases taken
      exact .keeps
  | canceling session targets canceled =>
      cases targets with
      | cons id rest =>
          simp only [atPc] at taken
          split at taken
          · cases taken
            exact .keeps
          · rename_i tasks isCanceled
            cases taken
            refine .cancels id tasks ?_ isCanceled
            cases resetting
            cases atPc
            rfl
      | nil =>
          cases session with
          | some session =>
              simp only [atPc] at taken
              obtain ⟨acp, submitted, moved⟩ :=
                Option.map_eq_some_iff.mp taken
              cases moved
              exact .submits _ acp submitted
          | none =>
              simp only [atPc] at taken
              cases taken
              exact .keeps
  | await canceled =>
      simp only [atPc] at taken
      split at taken
      · cases taken
        exact .keeps
      · cases taken
  | remove canceled =>
      simp only [atPc] at taken
      split at taken
      · cases taken
      · rename_i unwritten
        cases taken
        have removed : Thread.removes (.reset resetting) = [resetting.key] := by
          cases resetting
          cases atPc
          rfl
        have affects : Thread.Affects (.reset resetting) shared _ :=
          .removes (by simpa using unwritten)
        rw [removed] at affects
        exact affects
  | returned cleared canceled => simp [atPc] at taken

theorem Sweep.work_affects
    {env : Env} {sweep next : Sweep} {shared after : Shared}
    (taken : sweep.work env shared = some (next, after)) :
    Thread.Affects (.sweep sweep) shared after := by
  unfold Sweep.work at taken
  split at taken
  · cases taken
  · rename_i unwritten
    cases sweep with
    | scan =>
        simp only at taken
        split at taken
        · cases taken
          exact .keeps
        · cases taken
          exact .keeps
    | remove keys =>
        cases taken
        exact .removes (by simpa using unwritten)
    | done keys => cases taken

namespace Server

/-- The prompt handler of a name, if it is one's. -/
def handlers (server : Server) (name : Nat) : Option Handler :=
  (server.threads name).bind Thread.handler?

/-- The state a dropped handler leaves. -/
def afterDrop (name : Nat) (handler : Handler) (shared : Shared) : Shared :=
  { shared with
    conversations :=
      match handler.pc.guard? with
      | some guarded => shared.conversations.release guarded
      | none => shared.conversations
    writer := if shared.writer = some name then none else shared.writer }

/-- The steps of the server, by what they change. -/
inductive Steps (json : SerdeJson) (cfg : ServeConfig) (server : Server) :
    Action → Server → Prop
  | keeps (action : Action) : Steps json cfg server action server
  | spawns (action : Action) (name : Nat) (thread : Thread)
      (free : server.threads name = none)
      (isNew : ∀ handler, thread.handler? = some handler →
        handler.pc = .checkMode) :
      Steps json cfg server action
        { server with threads := server.threads.put name thread }
  | prompts (name : Nat) (env : Env) (handler : Handler) (next : HandlerPc)
      (after : Shared)
      (found : server.threads name = some (.prompt handler))
      (moved :
        Handler.Moves json cfg name env handler server.shared next after) :
      Steps json cfg server (.work name env)
        { shared := after
          threads :=
            server.threads.put name (.prompt { handler with pc := next }) }
  | works (name : Nat) (env : Env) (thread next : Thread) (after : Shared)
      (found : server.threads name = some thread)
      (noHandler : thread.handler? = none ∧ next.handler? = none)
      (affected : thread.Affects server.shared after) :
      Steps json cfg server (.work name env)
        { shared := after, threads := server.threads.put name next }
  | drops (name : Nat) (handler : Handler)
      (found : server.threads name = some (.prompt handler))
      (forSend : handler.method = .send)
      (awaiting : handler.pc.awaits = true) :
      Steps json cfg server (.drop name)
        { shared := afterDrop name handler server.shared
          threads :=
            server.threads.put name (.prompt { handler with pc := .dropped }) }
  | configures (action : Action) (configs : PushConfigRegistry)
      (asked :
        (∃ config, action = .putConfig config ∧
            configs = server.shared.configs.insert config) ∨
          ∃ configId, action = .deleteConfig configId ∧
            configs = server.shared.configs.delete configId) :
      Steps json cfg server action
        { server with shared := { server.shared with configs } }
  | agent (action : AcpClient.Action) (acp : AcpClient)
      (outside : isOutside action = true)
      (taken : AcpClient.step action server.shared.acp = some acp) :
      Steps json cfg server (.acp action)
        { server with shared := { server.shared with acp } }

variable {json : SerdeJson} {cfg : ServeConfig} {server target : Server}

theorem spawn_steps
    {action : Action} {name : Nat} {thread : Thread}
    (isNew : ∀ handler, thread.handler? = some handler →
      handler.pc = .checkMode)
    (taken : server.spawn name thread = some target) :
    Steps json cfg server action target := by
  unfold spawn at taken
  cases free : server.threads name with
  | some other => simp [free] at taken
  | none =>
      simp only [free, Option.some.injEq] at taken
      rw [← taken]
      exact .spawns action name thread free isNew

theorem workThread_steps
    {name : Nat} {env : Env} {thread next : Thread} {after : Shared}
    (found : server.threads name = some thread)
    (taken : workThread json cfg name env server.shared thread =
      some (next, after)) :
    Steps json cfg server (.work name env)
      { shared := after, threads := server.threads.put name next } := by
  cases thread with
  | prompt handler =>
      obtain ⟨⟨pc, moved⟩, worked, stepped⟩ := Option.map_eq_some_iff.mp taken
      cases stepped
      exact .prompts name env handler pc _ found (Handler.work_moves worked)
  | cancel canceling =>
      obtain ⟨⟨pc, moved⟩, worked, stepped⟩ := Option.map_eq_some_iff.mp taken
      cases stepped
      exact .works name env _ _ _ found ⟨rfl, rfl⟩
        (Canceling.work_affects worked)
  | reset resetting =>
      obtain ⟨⟨pc, moved⟩, worked, stepped⟩ := Option.map_eq_some_iff.mp taken
      cases stepped
      exact .works name env _ _ _ found ⟨rfl, rfl⟩
        (Resetting.work_affects worked)
  | sweep sweep =>
      obtain ⟨⟨pc, moved⟩, worked, stepped⟩ := Option.map_eq_some_iff.mp taken
      cases stepped
      exact .works name env _ _ _ found ⟨rfl, rfl⟩ (Sweep.work_affects worked)

theorem step_steps
    {action : Action} (taken : step json cfg action server = some target) :
    Steps json cfg server action target := by
  cases action with
  | request name method params header =>
      simp only [step] at taken
      split at taken
      · cases taken
        exact .keeps _
      · refine spawn_steps ?_ taken
        intro handler isPrompt
        cases isPrompt
        rfl
  | cancelTask name taskId | reset name conversationId callerId header
  | sweep name =>
      refine spawn_steps ?_ taken
      intro handler isPrompt
      cases isPrompt
  | work name env =>
      obtain ⟨thread, found, worked⟩ := Option.bind_eq_some_iff.mp taken
      obtain ⟨⟨next, after⟩, moved, stepped⟩ :=
        Option.map_eq_some_iff.mp worked
      cases stepped
      exact workThread_steps found moved
  | drop name =>
      obtain ⟨thread, found, dropped⟩ := Option.bind_eq_some_iff.mp taken
      obtain ⟨⟨next, after⟩, moved, stepped⟩ :=
        Option.map_eq_some_iff.mp dropped
      cases stepped
      cases thread with
      | prompt handler =>
          obtain ⟨⟨pc, left⟩, gone, isNext⟩ := Option.map_eq_some_iff.mp moved
          unfold Handler.drop at gone
          split at gone
          · rename_i droppable
            cases gone
            cases isNext
            exact .drops name handler found droppable.1 droppable.2
          · cases gone
      | _ => cases moved
  | putConfig config =>
      cases taken
      exact .configures _ _ (.inl ⟨config, rfl, rfl⟩)
  | deleteConfig configId =>
      cases taken
      exact .configures _ _ (.inr ⟨configId, rfl, rfl⟩)
  | acp action =>
      simp only [step] at taken
      split at taken
      · rename_i outside
        obtain ⟨acp, moved, stepped⟩ := Option.map_eq_some_iff.mp taken
        cases stepped
        exact .agent action acp outside moved
      · cases taken

/-! ## The handlers after a step -/

theorem handlers_put_self
    {name : Nat} {handler : Handler} {shared : Shared} :
    handlers
        { shared := shared
          threads := server.threads.put name (.prompt handler) } name =
      some handler := by
  simp [handlers, Thread.handler?]

theorem handlers_put_other
    {name tested : Nat} {thread : Thread} {shared : Shared}
    (different : tested ≠ name) :
    handlers
        { shared := shared, threads := server.threads.put name thread }
        tested =
      server.handlers tested := by
  simp [handlers, Pool.put_other different]

/-- Threads that are no prompt handlers do not matter to the handlers. -/
theorem handlers_put_outsider
    {name : Nat} {next : Thread} (shared : Shared)
    (before : server.handlers name = none) (after : next.handler? = none)
    (tested : Nat) :
    handlers
        { shared := shared, threads := server.threads.put name next }
        tested =
      server.handlers tested := by
  by_cases same : tested = name
  · subst same
    rw [before]
    simp [handlers, after]
  · exact handlers_put_other same

theorem handlers_of_found
    {name : Nat} {thread : Thread}
    (found : server.threads name = some thread) :
    server.handlers name = thread.handler? := by
  simp [handlers, found]

theorem handlers_of_free
    {name : Nat} (free : server.threads name = none) :
    server.handlers name = none := by
  simp [handlers, free]

theorem handlers_start
    (maxActive idleWindow now : Nat) (loaded : List (String × SessionId))
    (name : Nat) :
    (start maxActive idleWindow now loaded).handlers name = none :=
  rfl

/-- What the empty map satisfies and every restored conversation keeps, the
map of a server that starts satisfies. -/
theorem start_invariant
    (holds : ConversationMap → Prop) {maxActive idleWindow now : Nat}
    (loaded : List (String × SessionId))
    (atStart : holds (.new maxActive idleWindow))
    (kept : ∀ map key session, holds map → holds (map.insert key session now)) :
    holds (start maxActive idleWindow now loaded).shared.conversations := by
  have rows : ∀ (rows : List (String × SessionId)) (map : ConversationMap),
      holds map →
        holds (rows.foldl
          (fun map row => map.insertLoaded row.1 row.2 now) map) := by
    intro rows
    induction rows with
    | nil => exact fun _ before => before
    | cons row rest inductionHypothesis =>
        intro map before
        have restored : holds (map.insertLoaded row.1 row.2 now) := by
          unfold ConversationMap.insertLoaded
          split
          · exact before
          · exact kept map row.1 row.2 before
        exact inductionHypothesis _ restored
  exact rows loaded _ atStart

theorem start_fresh
    (maxActive idleWindow now : Nat) (loaded : List (String × SessionId)) :
    (start maxActive idleWindow now loaded).shared.conversations.Fresh :=
  start_invariant ConversationMap.Fresh loaded (fun _ _ => rfl)
    fun _ _ _ isFresh => isFresh.insert

end Server

end A2AShim
