import A2AShim.Serve.PromptFate
import A2AShim.Serve.ServerCalls
import A2AShim.Serve.TaskOrder

/-!
# What a request can wait for

Threads wait for the write lock of the map, for the answer to a call, and for
the next item of their stream.  The lock is held only while its holder waits
for a call.  So a chain of waits has two links at most, and ends at the agent.
-/

namespace A2AShim

/-! ## Streams and their handlers -/

namespace AcpClient

/-- The prompt whose stream only its own caller may step. -/
def Action.caller? : Action → Option PromptId
  | .registerRoute sink _ _ | .sendPrompt sink | .take sink => some sink
  | _ => none

/-- How far the `session_prompt_blocks` call of a stream is. -/
def statusOf (client : AcpClient) (sink : PromptId) : Option CallStatus :=
  (client.streams sink).map PromptStream.status

variable {client target : AcpClient} {sink : PromptId}

theorem statusOf_putStream_self (stream : PromptStream) :
    (client.putStream sink stream).statusOf sink = some stream.status := by
  simp [statusOf]

theorem statusOf_send (channel : PromptId) (item : StreamItem) :
    (client.send channel item).statusOf sink = client.statusOf sink := by
  unfold statusOf
  rw [send_streams]
  split
  · rename_i same
    subst same
    rw [Option.map_map]
    rfl
  · rfl

/-- Others leave the status of a stream as it is. -/
theorem statusOf_of_step
    {action : Action} (taken : step action client = some target)
    (other : action.caller? ≠ some sink) :
    target.statusOf sink = client.statusOf sink := by
  have elsewhere : ∀ {changed : PromptId} (stream : PromptStream),
      changed ≠ sink →
        (client.putStream changed stream).statusOf sink =
          client.statusOf sink := by
    intro changed stream different
    unfold statusOf
    rw [putStream_other different.symm]
  have notOwn : ∀ {changed : PromptId},
      action.caller? = some changed → changed ≠ sink := by
    intro changed isCaller same
    exact other (isCaller.trans (congrArg some same))
  cases action with
  | registerRoute started session content =>
      obtain ⟨_, rfl⟩ := registerRoute_some taken
      exact elsewhere _ (notOwn rfl)
  | sendPrompt called =>
      obtain ⟨stream, _, _, ⟨_, rfl⟩ | ⟨_, rfl⟩⟩ := sendPrompt_some taken
      · exact elsewhere _ (notOwn rfl)
      · exact elsewhere _ (notOwn rfl)
  | submit command =>
      obtain ⟨_, ⟨_, rfl⟩ | ⟨_, rfl⟩⟩ := submit_some taken
      · rfl
      · rfl
  | receive =>
      obtain ⟨_, _, _, _, ⟨_, _, _, rfl⟩ | ⟨_, rfl⟩⟩ := receive_some taken
      · rfl
      · rfl
  | answer answer =>
      obtain ⟨_, _, _, _, ⟨_, _, _, _, rfl⟩ | ⟨_, _, rfl⟩⟩ :=
        answered_some taken
      · rfl
      · rfl
  | sendTerminal =>
      obtain ⟨_, _, _, _, rfl⟩ := sendTerminal_some taken
      exact statusOf_send _ _
  | clearRoute =>
      obtain ⟨_, _, _, rfl⟩ := clearRoute_some taken
      rfl
  | notify session update =>
      obtain ⟨_, _, rfl⟩ := notified_some taken
      rfl
  | deliver =>
      obtain ⟨_, _, _, rfl⟩ := deliver_some taken
      exact statusOf_send _ _
  | take taker =>
      obtain ⟨stream, _, _, _, rfl⟩ := take_some taken
      exact elsewhere _ (notOwn rfl)
  | stop =>
      obtain ⟨_, rfl⟩ := stop_some taken
      rfl

theorem statusOf_take
    (taken : step (.take sink) client = some target) :
    target.statusOf sink = client.statusOf sink := by
  obtain ⟨stream, found, _, _, rfl⟩ := take_some taken
  rw [statusOf_putStream_self, statusOf, found]
  rfl

end AcpClient

theorem TaskRegistry.Built.onSink
    {registry : TaskRegistry} {id : TaskId}
    (built : Built registry) (act : SseSink → SseSink) :
    Built (registry.onSink id act) := by
  unfold TaskRegistry.onSink
  split
  · exact built
  · rename_i binding known
    exact built.put id _ known

/-- The status the handler's stream has here; `none` where there is none yet.
Nothing is said of handlers that are done. -/
def HandlerPc.channel : HandlerPc → Option (Option CallStatus)
  | .sendPrompt _ _ => some (some .registered)
  | .fetchSink _ _ | .bridging _ _ | .snapshot _ _ | .push _ _ =>
      some (some .returned)
  | .returned _ | .dropped => none
  | _ => some none

namespace Handler

variable {json : SerdeJson} {cfg : ServeConfig} {name : Nat} {env : Env}
variable {handler : Handler} {shared after : Shared} {next : HandlerPc}

/-- A handler goes on with its prompt only if the driver takes commands. -/
theorem alive_of_sent
    {guarded : ConversationRef} {taskId : TaskId}
    (atPc : handler.pc = .sendPrompt guarded taskId)
    (taken : handler.work json cfg name env shared = some (next, after))
    (goesOn : ∀ answer, next ≠ .returned answer) :
    shared.acp.driver ≠ .gone := by
  intro gone
  simp only [work, start, atPc, gone, if_true] at taken
  obtain ⟨acp, _, finished⟩ := Option.bind_eq_some_iff.mp taken
  cases finished
  exact goesOn _ rfl

/-- A handler's stream is where the handler has brought it. -/
theorem work_channel
    (before : ∀ status, handler.pc.channel = some status →
      shared.acp.statusOf name = status)
    (taken : handler.work json cfg name env shared = some (next, after))
    {status : Option CallStatus} (isNext : next.channel = some status) :
    after.acp.statusOf name = status := by
  cases isGuarded : handler.pc.guard? with
  | none =>
      have unsent : ∀ {pc : HandlerPc}, handler.pc = pc →
          pc.channel = some none → shared.acp.statusOf name = none := by
        intro pc atPc unopened
        exact before none (by rw [atPc]; exact unopened)
      cases work_opening isGuarded taken with
      | passes atPc =>
          cases isNext
          exact unsent atPc rfl
      | misses atPc =>
          cases isNext
          exact unsent atPc rfl
      | hits ref atPc =>
          cases isNext
          rcases atPc with atPc | atPc
          · exact unsent atPc rfl
          · exact unsent atPc rfl
      | asks acp atPc unwritten absent submitted =>
          cases isNext
          rw [← unsent atPc rfl]
          exact AcpClient.statusOf_of_step submitted nofun
      | opens session atPc =>
          cases isNext
          exact unsent atPc rfl
      | unopened error atPc => cases isNext
      | records session atPc =>
          cases isNext
          exact unsent atPc rfl
      | aims session found atPc =>
          cases isNext
          exact unsent atPc rfl
      | locks session found locked atPc =>
          cases isNext
          exact unsent atPc rfl
      | refuses error atPc => cases isNext
  | some guarded =>
      have unguarded : ∀ {pc : HandlerPc}, handler.pc = pc →
          pc.guard? = none → False := by
        intro pc atPc noGuard
        rw [atPc, noGuard] at isGuarded
        cases isGuarded
      have stands : ∀ {pc : HandlerPc} {expected : Option CallStatus},
          handler.pc = pc → pc.channel = some expected →
            shared.acp.statusOf name = expected := by
        intro pc expected atPc isChannel
        exact before expected (by rw [atPc]; exact isChannel)
      cases work_moves taken with
      | idles _ isBefore =>
          rcases isBefore with idle | ⟨_, _, atLock⟩
          · rw [isIdle_of_guard isGuarded] at idle
            cases idle
          · exact (unguarded atLock rfl).elim
      | touches ref session isBefore =>
          rcases isBefore with isBefore | isBefore
          · exact (unguarded isBefore rfl).elim
          · exact (unguarded isBefore rfl).elim
      | asks acp isBefore => exact (unguarded isBefore rfl).elim
      | opens session isBefore => exact (unguarded isBefore rfl).elim
      | unopened error isBefore => exact (unguarded isBefore rfl).elim
      | aims session found isBefore => exact (unguarded isBefore rfl).elim
      | locks session found locked isBefore =>
          exact (unguarded isBefore rfl).elim
      | refused | tooLarge | unsent | unattached | leaves | answers
      | pushes => cases isNext
      | resumes session held existing tasks isBefore
      | creates session held isBefore
      | records session held taskId isBefore =>
          cases isNext
          exact stands isBefore rfl
      | routes session held taskId content acp isBefore registered =>
          cases isNext
          obtain ⟨_, rfl⟩ := AcpClient.registerRoute_some registered
          exact AcpClient.statusOf_putStream_self _
      | sends _ held taskId acp isBefore isAfter called =>
          have goesOn : ∀ answer, next ≠ .returned answer := by
            intro answer isReturn
            subst isReturn
            cases isNext
          have alive := alive_of_sent isBefore taken goesOn
          obtain ⟨stream, _, _, ⟨gone, _⟩ | ⟨_, rfl⟩⟩ :=
            AcpClient.sendPrompt_some called
          · exact absurd gone alive
          · have isStatus : status = some .returned := by
              rcases isAfter with rfl | rfl
              · cases isNext
                rfl
              · cases isNext
                rfl
            rw [isStatus]
            exact AcpClient.statusOf_putStream_self _
      | attaches held taskId isBefore
      | ends held call isBefore
      | bridges held call stepped tasks isBefore
      | settles held call isBefore
      | announces held taskId binding isBefore =>
          cases isNext
          exact stands isBefore rfl
      | polls held call stream item acp isBefore _ _ _ isTaken =>
          cases isNext
          rw [AcpClient.statusOf_take isTaken]
          exact stands isBefore rfl

/-- The write lock of the map is taken for a call of `session/new`, and given
back with its answer. -/
theorem work_writer
    (taken : handler.work json cfg name env shared = some (next, after)) :
    (handler.pc ≠ .spawning ∧
        (next ≠ .spawning ∧ after.writer = shared.writer ∨
          next = .spawning ∧ shared.writer = none ∧
            after.writer = some name)) ∨
      handler.pc = .spawning ∧ next ≠ .spawning ∧ after.writer = none := by
  cases isGuarded : handler.pc.guard? with
  | none =>
      cases work_opening isGuarded taken with
      | asks acp atPc unwritten =>
          exact .inl ⟨by rw [atPc]; exact HandlerPc.noConfusion,
            .inr ⟨rfl, unwritten, rfl⟩⟩
      | opens session atPc =>
          exact .inr ⟨atPc, HandlerPc.noConfusion, rfl⟩
      | unopened error atPc =>
          exact .inr ⟨atPc, HandlerPc.noConfusion, rfl⟩
      | hits ref atPc =>
          refine .inl ⟨?_, .inl ⟨HandlerPc.noConfusion, rfl⟩⟩
          rcases atPc with atPc | atPc <;> rw [atPc] <;>
            exact HandlerPc.noConfusion
      | refuses error atPc =>
          refine .inl ⟨?_, .inl ⟨HandlerPc.noConfusion, rfl⟩⟩
          intro atSpawn
          rcases atPc with idle | ⟨_, _, atLock⟩
          · rw [atSpawn] at idle
            cases idle
          · rw [atSpawn] at atLock
            cases atLock
      | passes atPc | misses atPc | records session atPc
      | aims session found atPc | locks session found locked atPc =>
          exact .inl ⟨by rw [atPc]; exact HandlerPc.noConfusion,
            .inl ⟨HandlerPc.noConfusion, rfl⟩⟩
  | some guarded =>
      left
      have notSpawning : ∀ {pc : HandlerPc}, pc.guard? = some guarded →
          pc ≠ .spawning := by
        intro pc holds atSpawn
        rw [atSpawn] at holds
        cases holds
      have moved := work_moves taken
      refine ⟨notSpawning isGuarded, .inl ⟨?_, ?_⟩⟩
      · rcases guarded_cases isGuarded moved with
          ⟨stillGuarded, _⟩ | ⟨⟨answer, rfl⟩, _⟩
        · exact notSpawning stillGuarded
        · exact HandlerPc.noConfusion
      · cases moved with
        | asks acp atPc =>
            rw [atPc] at isGuarded
            cases isGuarded
        | opens session atPc =>
            rw [atPc] at isGuarded
            cases isGuarded
        | unopened error atPc =>
            rw [atPc] at isGuarded
            cases isGuarded
        | _ => rfl

end Handler

namespace Server

open Machine

variable {json : SerdeJson} {cfg : ServeConfig} {server target : Server}

/-- The agent's side takes one step at most: a stream's caller is its own
thread, and the driver's steps are not the threads'. -/
theorem acp_of_step
    {action : Action} (taken : step json cfg action server = some target) :
    target.shared.acp = server.shared.acp ∨
      ∃ act, AcpClient.step act server.shared.acp = some target.shared.acp ∧
        (∀ sink, act.caller? = some sink → ∃ env, action = .work sink env) ∧
          (isOutside act = true → action = .acp act) := by
  cases step_steps taken with
  | prompts name env handler next after found moved =>
      cases moved with
      | asks acp _ _ _ submitted => exact .inr ⟨_, submitted, nofun, nofun⟩
      | routes session guarded taskId content acp _ registered =>
          refine .inr ⟨_, registered, ?_, nofun⟩
          intro sink isCaller
          cases isCaller
          exact ⟨env, rfl⟩
      | unsent guarded taskId error acp _ _ called =>
          refine .inr ⟨_, called, ?_, nofun⟩
          intro sink isCaller
          cases isCaller
          exact ⟨env, rfl⟩
      | sends _ guarded taskId acp _ _ called =>
          refine .inr ⟨_, called, ?_, nofun⟩
          intro sink isCaller
          cases isCaller
          exact ⟨env, rfl⟩
      | polls guarded call stream item acp _ _ _ _ isTaken =>
          refine .inr ⟨_, isTaken, ?_, nofun⟩
          intro sink isCaller
          cases isCaller
          exact ⟨env, rfl⟩
      | _ => exact .inl rfl
  | works name env thread next after found noHandler affected =>
      cases affected with
      | submits command acp submitted => exact .inr ⟨_, submitted, nofun, nofun⟩
      | _ => exact .inl rfl
  | agent act acp outside stepped =>
      refine .inr ⟨act, stepped, ?_, fun _ => rfl⟩
      intro sink isCaller
      cases act with
      | registerRoute | sendPrompt | take => cases outside
      | _ => cases isCaller
  | _ => exact .inl rfl

/-- Every step makes a registry that the methods can make. -/
theorem built_of_step
    {action : Action} (built : server.shared.tasks.Built)
    (taken : step json cfg action server = some target) :
    target.shared.tasks.Built := by
  cases step_steps taken with
  | works name env thread next after found noHandler affected =>
      cases affected with
      | cancels id tasks asked canceled => exact built.cancel canceled
      | _ => exact built
  | prompts name env handler next after found moved =>
      have taskMove := Handler.moves_tasks moved
      generalize after.tasks = tasks at taskMove ⊢
      cases taskMove with
      | keeps => exact built
      | creates session guarded before unknown =>
          exact built.create _ _ _ unknown
      | resumes existing _ accepted => exact built.acceptContinuation accepted
      | bridges guarded call stepped _ before worked =>
          cases Bridge.work_works worked with
          | marks item binding _ known => exact built.put _ _ known
          | upserts part rest binding artifacts _ known =>
              exact built.put _ _ known
          | decides status binding _ known => exact built.put _ _ known
          | publishesWorking | publishesArtifact | publishesFinal =>
              exact built.onSink _
          | _ => exact built
  | _ => exact built

/-- The handler of `name` waits for a new session. -/
def Spawning (server : Server) (name : Nat) : Prop :=
  ∃ handler, server.handlers name = some handler ∧ handler.pc = .spawning

/-- Streams are where their handlers have brought them, and the map's writer
is the one handler that waits for a new session. -/
structure Placed (server : Server) : Prop where
  unopened : ∀ name, server.threads name = none →
    server.shared.acp.statusOf name = none
  opened : ∀ name handler status, server.handlers name = some handler →
    handler.pc.channel = some status →
      server.shared.acp.statusOf name = status
  writing : ∀ name,
    server.shared.writer = some name ↔ server.Spawning name
  built : server.shared.tasks.Built

theorem placed_start
    (maxActive idleWindow now : Nat) (loaded : List (String × SessionId)) :
    Placed (start maxActive idleWindow now loaded) where
  unopened := fun _ _ => rfl
  opened := by
    intro name handler status found
    rw [handlers_start] at found
    cases found
  writing := by
    intro name
    constructor
    · intro writes
      cases writes
    · intro spawning
      obtain ⟨handler, found, _⟩ := spawning
      rw [handlers_start] at found
      cases found
  built := .empty

/-- Threads do not go away. -/
theorem thread_stays
    {action : Action} {name : Nat}
    (taken : step json cfg action server = some target)
    (free : target.threads name = none) :
    server.threads name = none := by
  rcases calls_of_step taken with
    ⟨other, thread, next, command, found, threads, _⟩ | ⟨_, passes⟩
  · rw [threads] at free
    by_cases same : name = other
    · subst same
      rw [Pool.put_self] at free
      cases free
    · rwa [Pool.put_other same] at free
  · cases passes with
    | stays same => rwa [same] at free
    | comes other next threads | goesOn other _ next threads =>
        rw [threads] at free
        by_cases same : name = other
        · subst same
          rw [Pool.put_self] at free
          cases free
        · rwa [Pool.put_other same] at free

theorem Placed.streams
    {action : Action} (placed : Placed server)
    (taken : step json cfg action server = some target) :
    (∀ name, target.threads name = none →
        target.shared.acp.statusOf name = none) ∧
      ∀ name handler status, target.handlers name = some handler →
        handler.pc.channel = some status →
          target.shared.acp.statusOf name = status := by
  have others : ∀ name, (∀ env, action ≠ .work name env) →
      target.shared.acp.statusOf name = server.shared.acp.statusOf name := by
    intro name notOwn
    rcases acp_of_step taken with same | ⟨act, stepped, byCaller, _⟩
    · rw [same]
    · apply AcpClient.statusOf_of_step stepped
      intro isCaller
      obtain ⟨env, isOwn⟩ := byCaller name isCaller
      exact notOwn env isOwn
  refine ⟨?_, ?_⟩
  · intro name free
    have freeBefore := thread_stays taken free
    rw [others name]
    · exact placed.unopened name freeBefore
    · intro env isOwn
      subst isOwn
      obtain ⟨thread, found, _⟩ := Option.bind_eq_some_iff.mp taken
      rw [freeBefore] at found
      cases found
  · intro name later status found isChannel
    by_cases own : ∃ env, action = .work name env
    · obtain ⟨env, rfl⟩ := own
      obtain ⟨handler, isOwn⟩ := handlers_of_work taken found
      obtain ⟨next, worked, threads⟩ := work_of_step taken isOwn
      rw [handlers_of_put threads] at found
      cases found
      exact Handler.work_channel
        (fun status => placed.opened name handler status isOwn) worked
        isChannel
    · have notOwn : ∀ env, action ≠ .work name env :=
        fun env isOwn => own ⟨env, isOwn⟩
      cases handlerStep_of_step taken found with
      | stays _ foundBefore =>
          rw [others name notOwn]
          exact placed.opened name later status foundBefore isChannel
      | arrives _ free atCheck sameShared =>
          rw [atCheck] at isChannel
          cases isChannel
          rw [sameShared]
          exact placed.unopened name free
      | opens env before next isOwn => exact absurd isOwn (notOwn env)
      | moves env before next guarded isOwn => exact absurd isOwn (notOwn env)
      | drops before => cases isChannel

theorem Placed.writer
    {action : Action} (placed : Placed server)
    (taken : step json cfg action server = some target) (tested : Nat) :
    target.shared.writer = some tested ↔ target.Spawning tested := by
  have before := placed.writing tested
  have elsewhere : ∀ {name : Nat} {next : Thread} {after : Shared},
      tested ≠ name →
        (Spawning
            { shared := after, threads := server.threads.put name next }
            tested ↔ server.Spawning tested) := by
    intro name next after different
    unfold Spawning
    rw [handlers_put_other different]
  cases step_steps taken with
  | keeps | configures | agent => exact before
  | spawns _ name thread free isNew =>
      refine before.trans ?_
      by_cases same : tested = name
      · subst same
        constructor
        · intro spawning
          obtain ⟨handler, found, _⟩ := spawning
          rw [handlers_of_free free] at found
          cases found
        · intro spawning
          obtain ⟨handler, found, atSpawn⟩ := spawning
          have isPrompt : thread.handler? = some handler := by
            simpa [handlers] using found
          rw [isNew handler isPrompt] at atSpawn
          cases atSpawn
      · exact (elsewhere same).symm
  | works name env thread next after found noHandler affected =>
      have sameWriter : after.writer = server.shared.writer := by
        cases affected <;> rfl
      have sameHandlers : ∀ other,
          handlers
              { shared := after, threads := server.threads.put name next }
              other = server.handlers other := by
        apply handlers_put_outsider after _ noHandler.2
        rw [handlers_of_found found]
        exact noHandler.1
      unfold Spawning
      rw [sameHandlers]
      exact (by rw [sameWriter] : after.writer = some tested ↔ _).trans before
  | drops name handler found _ _ =>
      by_cases same : tested = name
      · subst same
        constructor
        · intro writes
          simp only [afterDrop] at writes
          split at writes
          · cases writes
          · rename_i notWriter
            exact absurd writes notWriter
        · intro spawning
          obtain ⟨later, isLater, atSpawn⟩ := spawning
          rw [handlers_put_self] at isLater
          cases isLater
          cases atSpawn
      · refine Iff.trans ?_ (before.trans (elsewhere same).symm)
        simp only [afterDrop]
        split
        · rename_i isWriter
          rw [isWriter]
          simp [Ne.symm same]
        · rfl
  | prompts name env handler next after found moved =>
      have isOwn : server.handlers name = some handler :=
        handlers_of_found found
      obtain ⟨opened, worked, threads⟩ := work_of_step taken isOwn
      have isNext := handlers_of_put threads
      have spawnsNow : Spawning
          { shared := after
            threads :=
              server.threads.put name (.prompt { handler with pc := next }) }
          name ↔ opened = .spawning := by
        unfold Spawning
        rw [isNext]
        simp
      have spawnsBefore :
          server.shared.writer = some name ↔ handler.pc = .spawning := by
        rw [placed.writing]
        unfold Spawning
        rw [isOwn]
        simp
      have writes := Handler.work_writer worked
      dsimp only at writes ⊢
      by_cases same : tested = name
      · subst same
        rw [spawnsNow]
        rcases writes with
          ⟨away, ⟨stillAway, unchanged⟩ | ⟨arrives, _, isWriter⟩⟩ |
            ⟨_, leaves, freed⟩
        · rw [unchanged, spawnsBefore]
          exact ⟨fun now => absurd now away, fun now => absurd now stillAway⟩
        · exact ⟨fun _ => arrives, fun _ => isWriter⟩
        · rw [freed]
          constructor
          · intro written
            cases written
          · intro spawning
            exact absurd spawning leaves
      · rw [elsewhere same, ← before]
        rcases writes with
          ⟨away, ⟨stillAway, unchanged⟩ | ⟨arrives, free, isWriter⟩⟩ |
            ⟨atSpawn, leaves, freed⟩
        · rw [unchanged]
        · rw [free, isWriter]
          simp [Ne.symm same]
        · rw [freed, spawnsBefore.mpr atSpawn]
          simp [Ne.symm same]

theorem Placed.step
    {action : Action} (placed : Placed server)
    (taken : step json cfg action server = some target) :
    Placed target where
  unopened := (placed.streams taken).1
  opened := (placed.streams taken).2
  writing := placed.writer taken
  built := built_of_step placed.built taken

end Server

/-! ## Who can take a step -/

/-- There is always an identifier that is not in use. -/
theorem exists_fresh_taskId (ids : List TaskId) : ∃ id, id ∉ ids := by
  have longer : ∃ size, ∀ id, id ∈ ids → id.text.length < size := by
    induction ids with
    | nil => exact ⟨0, nofun⟩
    | cons first rest inductionHypothesis =>
        obtain ⟨size, bounded⟩ := inductionHypothesis
        refine ⟨max size (first.text.length + 1), ?_⟩
        intro id member
        rcases List.mem_cons.mp member with rfl | later
        · omega
        · have := bounded id later
          omega
  obtain ⟨size, bounded⟩ := longer
  refine ⟨⟨String.ofList (List.replicate size 'a')⟩, ?_⟩
  intro member
  have short := bounded _ member
  simp at short

namespace AcpClient

variable {client : AcpClient} {sink : PromptId}

theorem submit_total
    (client : AcpClient) (command : Command)
    (noPrompt : command.isPrompt = false) :
    ∃ target, client.submit command = some target := by
  unfold submit
  rw [noPrompt]
  by_cases gone : client.driver = .gone
  · exact ⟨_, by simp only [gone]; rfl⟩
  · exact ⟨_, by simp only [gone]; rfl⟩

theorem registerRoute_total
    (session : SessionId) (content : List ContentBlock)
    (unopened : client.statusOf sink = none) :
    ∃ target, client.registerRoute sink session content = some target := by
  unfold registerRoute
  rw [Option.map_eq_none_iff.mp unopened]
  exact ⟨_, rfl⟩

theorem sendPrompt_total
    (inCall : client.statusOf sink = some .registered) :
    ∃ target, client.sendPrompt sink = some target := by
  obtain ⟨stream, found, registered⟩ := Option.map_eq_some_iff.mp inCall
  unfold sendPrompt
  rw [found]
  by_cases gone : client.driver = .gone
  · exact ⟨_, by simp only [registered, gone]; rfl⟩
  · exact ⟨_, by simp only [registered, gone]; rfl⟩

/-- The callback ends with the driver. -/
theorem callback_of_step
    {target : AcpClient} {action : Action}
    (quiet : client.driver = .gone → client.callback = none)
    (taken : step action client = some target)
    (gone : target.driver = .gone) :
    target.callback = none := by
  cases action with
  | registerRoute started session content =>
      obtain ⟨_, rfl⟩ := registerRoute_some taken
      exact quiet gone
  | sendPrompt called =>
      obtain ⟨stream, _, _, ⟨_, rfl⟩ | ⟨_, rfl⟩⟩ := sendPrompt_some taken
      · exact quiet gone
      · exact quiet gone
  | submit command =>
      obtain ⟨_, ⟨_, rfl⟩ | ⟨_, rfl⟩⟩ := submit_some taken
      · exact quiet gone
      · exact quiet gone
  | receive => exact absurd gone (commands_of_receive taken).2
  | answer answer =>
      obtain ⟨idle, _, _, _, ⟨_, _, _, _, rfl⟩ | ⟨_, _, rfl⟩⟩ :=
        answered_some taken
      · exact idle
      · exact idle
  | sendTerminal =>
      obtain ⟨_, _, _, _, rfl⟩ := sendTerminal_some taken
      cases gone
  | clearRoute =>
      obtain ⟨_, _, _, rfl⟩ := clearRoute_some taken
      cases gone
  | notify session update =>
      obtain ⟨alive, _, rfl⟩ := notified_some taken
      exact absurd gone alive
  | deliver =>
      obtain ⟨_, _, _, rfl⟩ := deliver_some taken
      rfl
  | take taker =>
      obtain ⟨stream, _, _, _, rfl⟩ := take_some taken
      exact quiet gone
  | stop =>
      obtain ⟨_, rfl⟩ := stop_some taken
      rfl

/-- A reader that has returned gets an item, or the end, or waits for one. -/
theorem pollNext_none
    {stream : PromptStream}
    (found : client.streams sink = some stream)
    (returned : stream.status = .returned)
    (nothing : client.pollNext sink = none) :
    stream.items.length ≤ stream.taken ∧ client.isOpen sink = true := by
  unfold pollNext at nothing
  simp only [found] at nothing
  cases next : stream.items[stream.taken]? with
  | none =>
      rw [next] at nothing
      refine ⟨List.getElem?_eq_none_iff.mp next, ?_⟩
      simpa using nothing
  | some item =>
      obtain ⟨within, _⟩ := List.getElem?_eq_some_iff.mp next
      rw [next] at nothing
      simp [take, found, returned, within] at nothing

end AcpClient

theorem Bridge.Call.work_total
    (json : SerdeJson) {call : Bridge.Call} (registry : TaskRegistry)
    (notNext : call.pc ≠ .next)
    (notReturned : ∀ result, call.pc ≠ .returned result) :
    ∃ next, call.work json registry = some next := by
  unfold Call.work
  cases atPc : call.pc with
  | next => exact absurd atPc notNext
  | returned result => exact absurd atPc (notReturned result)
  | start =>
      dsimp only
      split <;> exact ⟨_, rfl⟩
  | markWorking item =>
      dsimp only
      split <;> exact ⟨_, rfl⟩
  | answer parts =>
      cases parts with
      | nil => exact ⟨_, rfl⟩
      | cons part rest =>
          dsimp only
          split <;> exact ⟨_, rfl⟩
  | finish status =>
      dsimp only
      split <;> exact ⟨_, rfl⟩
  | _ => exact ⟨_, rfl⟩

/-- The handler has answered, or nobody waits for its answer. -/
def HandlerPc.isOver : HandlerPc → Bool
  | .returned _ | .dropped => true
  | _ => false

namespace Handler

/-- What a handler may have to wait for. -/
inductive Waits (name : Nat) (handler : Handler) (shared : Shared) : Prop
  | lock (held : shared.writer.isSome = true)
      (notOwn : handler.pc ≠ .spawning)
  | call (atSpawn : handler.pc = .spawning)
      (unanswered : shared.acp.replies name = none)
      (alive : shared.acp.driver ≠ .gone)
  | item (guarded : ConversationRef) (call : Bridge.Call)
      (bridging : handler.pc = .bridging guarded call)
      (atNext : call.pc = .next)
      (nothing : shared.acp.pollNext name = none)

variable (json : SerdeJson) (cfg : ServeConfig)
variable {name : Nat} {handler : Handler} {shared : Shared}

theorem can_work
    (unused : ∃ id, shared.tasks.bindings id = none)
    (channel : ∀ status, handler.pc.channel = some status →
      shared.acp.statusOf name = status)
    (replied : ∀ answer, handler.pc = .spawning →
      shared.acp.replies name = some answer →
        (∃ session, answer = .session session) ∨
          ∃ text, answer = .failed text)
    (notOver : handler.pc.isOver = false) :
    (∃ env, (handler.work json cfg name env shared).isSome = true) ∨
      Waits name handler shared := by
  have fromLock : ∀ {pc : HandlerPc}, handler.pc = pc → pc ≠ .spawning →
      shared.writer.isSome = true → Waits name handler shared := by
    intro pc atPc notOwn held
    exact .lock held (by rw [atPc]; exact notOwn)
  let env : Env := { now := 0, taskId := ⟨""⟩ }
  cases atPc : handler.pc with
  | checkMode =>
      by_cases locked : shared.writer.isSome = true ∧
          Http.conversationMode handler.params ∈ ["new", "continue"]
      · exact .inr (fromLock atPc HandlerPc.noConfusion locked.1)
      · refine .inl ⟨env, ?_⟩
        simp only [work, open_, atPc, if_neg locked]
        split <;> rfl
  | lookUp =>
      by_cases locked : shared.writer.isSome = true
      · exact .inr (fromLock atPc HandlerPc.noConfusion locked)
      · refine .inl ⟨env, ?_⟩
        simp only [work, open_, atPc, if_neg locked]
        split <;> rfl
  | create =>
      by_cases locked : shared.writer.isSome = true
      · exact .inr (fromLock atPc HandlerPc.noConfusion locked)
      · refine .inl ⟨env, ?_⟩
        simp only [work, open_, atPc, if_neg locked]
        split
        · rfl
        · split
          · rfl
          · obtain ⟨acp, submitted⟩ :=
              shared.acp.submit_total (.sessionNew cfg.cwd name) rfl
            rw [submitted]
            rfl
  | spawning =>
      cases got : shared.acp.replies name with
      | none =>
          by_cases gone : shared.acp.driver = .gone
          · refine .inl ⟨env, ?_⟩
            simp only [work, open_, atPc, got, if_pos gone]
            rfl
          · exact .inr (.call atPc got gone)
      | some answer =>
          refine .inl ⟨env, ?_⟩
          rcases replied answer atPc got with ⟨session, rfl⟩ | ⟨text, rfl⟩
          · simp only [work, open_, atPc, got]
            rfl
          · simp only [work, open_, atPc, got]
            rfl
  | insertRow session =>
      refine .inl ⟨env, ?_⟩
      simp only [work, open_, atPc]
      rfl
  | findGuard session =>
      by_cases locked : shared.writer.isSome = true
      · exact .inr (fromLock atPc HandlerPc.noConfusion locked)
      · refine .inl ⟨env, ?_⟩
        simp only [work, open_, atPc, if_neg locked]
        split <;> rfl
  | lockGuard session found =>
      refine .inl ⟨env, ?_⟩
      simp only [work, open_, atPc]
      split <;> rfl
  | enter session guarded =>
      obtain ⟨id, isFree⟩ := unused
      refine .inl ⟨{ now := 0, taskId := id }, ?_⟩
      simp only [work, start, atPc, isFree]
      split
      · split <;> rfl
      · rfl
  | record session guarded taskId =>
      refine .inl ⟨env, ?_⟩
      simp only [work, start, atPc]
      rfl
  | dispatch session guarded taskId =>
      have unopened := channel none (by rw [atPc]; rfl)
      refine .inl ⟨env, ?_⟩
      simp only [work, start, atPc]
      split
      · rfl
      · obtain ⟨acp, registered⟩ :=
          AcpClient.registerRoute_total session
            (Translate.a2aToAcp json handler.request.parsed.message.parts
              .none) unopened
        rw [registered]
        rfl
  | sendPrompt guarded taskId =>
      have inCall := channel (some .registered) (by rw [atPc]; rfl)
      obtain ⟨acp, called⟩ := AcpClient.sendPrompt_total inCall
      refine .inl ⟨env, ?_⟩
      simp only [work, start, atPc, called, Option.bind_some]
      split
      · rfl
      · split <;> rfl
  | fetchSink guarded taskId =>
      refine .inl ⟨env, ?_⟩
      simp only [work, start, atPc]
      split <;> rfl
  | bridging guarded call =>
      by_cases atNext : call.pc = .next
      · cases polled : shared.acp.pollNext name with
        | none => exact .inr (.item guarded call atPc atNext polled)
        | some result =>
            refine .inl ⟨env, ?_⟩
            simp only [work, bridge, atPc, atNext, polled]
            rfl
      · refine .inl ⟨env, ?_⟩
        simp only [work, bridge, atPc]
        split
        · contradiction
        · split <;> rfl
        · rename_i _ notReturned
          obtain ⟨next, worked⟩ :=
            Bridge.Call.work_total json shared.tasks atNext notReturned
          rw [worked]
          rfl
  | snapshot guarded taskId =>
      refine .inl ⟨env, ?_⟩
      simp only [work, atPc]
      split
      · rfl
      · split <;> rfl
  | push guarded snap =>
      refine .inl ⟨env, ?_⟩
      simp only [work, atPc]
      rfl
  | returned answer =>
      rw [atPc] at notOver
      cases notOver
  | dropped =>
      rw [atPc] at notOver
      cases notOver

end Handler

theorem Canceling.can_work
    (name : Nat) (canceling : Canceling) (shared : Shared)
    (notOver : ∀ answer, canceling.pc ≠ .returned answer) :
    (canceling.work name shared).isSome = true ∨
      shared.writer.isSome = true ∨
        canceling.pc = .await ∧ shared.hasReply name = false := by
  unfold Canceling.work
  cases atPc : canceling.pc with
  | cancel =>
      left
      dsimp only
      split <;> rfl
  | find =>
      by_cases locked : shared.writer.isSome = true
      · exact .inr (.inl locked)
      · left
        simp only [if_neg locked]
        split <;> rfl
  | tell session =>
      left
      obtain ⟨acp, submitted⟩ :=
        shared.acp.submit_total (.cancel session name) rfl
      simp only [submitted]
      rfl
  | await =>
      cases reply : shared.hasReply name with
      | true => exact .inl rfl
      | false => exact .inr (.inr ⟨rfl, rfl⟩)
  | snapshot =>
      left
      dsimp only
      split <;> rfl
  | returned answer => exact absurd atPc (notOver answer)

theorem Resetting.can_work
    (name : Nat) (resetting : Resetting) (shared : Shared)
    (notOver : ∀ cleared canceled,
      resetting.pc ≠ .returned cleared canceled) :
    (resetting.work name shared).isSome = true ∨
      shared.writer.isSome = true ∨
        (∃ canceled, resetting.pc = .await canceled) ∧
          shared.hasReply name = false := by
  unfold Resetting.work
  cases atPc : resetting.pc with
  | lookUp =>
      by_cases locked : shared.writer.isSome = true
      · exact .inr (.inl locked)
      · left
        simp only [if_neg locked]
        rfl
  | list session => exact .inl rfl
  | canceling session targets canceled =>
      left
      cases targets with
      | cons id rest =>
          dsimp only
          split <;> rfl
      | nil =>
          cases session with
          | none => rfl
          | some session =>
              obtain ⟨acp, submitted⟩ :=
                shared.acp.submit_total (.cancel session name) rfl
              simp only [submitted]
              rfl
  | await canceled =>
      cases reply : shared.hasReply name with
      | true => exact .inl rfl
      | false => exact .inr (.inr ⟨⟨canceled, rfl⟩, rfl⟩)
  | remove canceled =>
      by_cases locked : shared.writer.isSome = true
      · exact .inr (.inl locked)
      · left
        simp only [if_neg locked]
        rfl
  | returned cleared canceled => exact absurd atPc (notOver cleared canceled)

theorem Sweep.can_work
    (env : Env) (sweep : Sweep) (shared : Shared)
    (notOver : ∀ keys, sweep ≠ .done keys) :
    (sweep.work env shared).isSome = true ∨
      shared.writer.isSome = true := by
  unfold Sweep.work
  by_cases locked : shared.writer.isSome = true
  · exact .inr locked
  · left
    simp only [if_neg locked]
    cases sweep with
    | scan =>
        dsimp only
        split <;> rfl
    | remove keys => rfl
    | done keys => exact absurd rfl (notOver keys)

/-! ## In every run -/

/-- The thread has returned, or was dropped. -/
def Thread.isOver : Thread → Bool
  | .prompt handler => handler.pc.isOver
  | .cancel { pc := .returned _, .. } => true
  | .reset { pc := .returned _ _, .. } => true
  | .sweep (.done _) => true
  | _ => false

namespace Server

open Machine

/-- What the runs of the server keep. -/
structure Sound (json : SerdeJson) (cfg : ServeConfig) (server : Server) :
    Prop where
  staged : Staged server
  turns : Turns json server
  calling : Calling cfg server
  placed : Placed server
  accounted : server.shared.acp.Accounted
  driver : server.shared.acp.DriverSound
  quiet : server.shared.acp.driver = .gone →
    server.shared.acp.callback = none

variable {json : SerdeJson} {cfg : ServeConfig} {server target : Server}

theorem Sound.step
    {action : Action} (sound : Sound json cfg server)
    (taken : step json cfg action server = some target) :
    Sound json cfg target where
  staged := sound.staged.step taken
  turns := sound.turns.step sound.staged taken
  calling := sound.calling.step taken
  placed := sound.placed.step taken
  accounted := by
    rcases acp_of_step taken with same | ⟨act, stepped, _⟩
    · rw [same]
      exact sound.accounted
    · exact sound.accounted.step stepped
  driver := by
    rcases acp_of_step taken with same | ⟨act, stepped, _⟩
    · rw [same]
      exact sound.driver
    · exact sound.driver.step stepped
  quiet := by
    rcases acp_of_step taken with same | ⟨act, stepped, _⟩
    · rw [same]
      exact sound.quiet
    · exact AcpClient.callback_of_step sound.quiet stepped

section

variable {trace : List Action} {maxActive idleWindow now : Nat}
variable {loaded : List (String × SessionId)}

theorem sound_of_run
    (run : Run (Server.step json cfg) free
      (start maxActive idleWindow now loaded) trace server) :
    Sound json cfg server := by
  refine run.invariant (Sound json cfg)
    ⟨staged_start maxActive idleWindow now loaded,
      turns_start maxActive idleWindow now loaded,
      calling_start maxActive idleWindow now loaded,
      placed_start maxActive idleWindow now loaded,
      AcpClient.accounted_spawned, ⟨nofun, fun _ => rfl⟩, fun _ => rfl⟩
    fun _ _ _ before _ taken => before.step taken

end

/-- Some step of the thread is possible. -/
def CanWork (json : SerdeJson) (cfg : ServeConfig) (server : Server)
    (name : Nat) : Prop :=
  ∃ env target, Server.step json cfg (.work name env) server = some target

/-- The thread has called the agent, which has not answered. -/
structure WaitsForCall (server : Server) (name : Nat) : Prop where
  thread : ∃ thread, server.threads name = some thread ∧
    thread.callStage = .waiting
  pending : CallPending server.shared.acp name
  unanswered : server.shared.acp.replies name = none

/-- A bridge has read all there is of its stream. -/
structure AtItem (server : Server) (name : Nat) : Prop where
  bridge : ∃ handler guarded call, server.handlers name = some handler ∧
    handler.pc = .bridging guarded call ∧ call.pc = .next
  read : ∃ stream, server.shared.acp.streams name = some stream ∧
    stream.items.length ≤ stream.taken

/-- The driver has the prompt and no answer to it, or the answer is on its
way. -/
structure WaitsForItem (server : Server) (name : Nat) : Prop
    extends AtItem server name where
  coming : name ∈ server.shared.acp.pendingSinks ∨
    ∃ session item, server.shared.acp.driver = .resolved session name item

/-- The driver is gone and a route to the stream is left: no item comes any
more, and no end. -/
structure LeftOpen (server : Server) (name : Nat) : Prop
    extends AtItem server name where
  gone : server.shared.acp.driver = .gone
  routed : ∃ session, server.shared.acp.routes session = some name

def WaitsForAgent (server : Server) (name : Nat) : Prop :=
  WaitsForCall server name ∨ WaitsForItem server name

theorem CanWork.of_thread
    {name : Nat} {thread : Thread} (env : Env)
    (found : server.threads name = some thread)
    (works : (workThread json cfg name env server.shared thread).isSome =
      true) :
    CanWork json cfg server name := by
  obtain ⟨next, worked⟩ := Option.isSome_iff_exists.mp works
  exact ⟨env, _, by simp only [step, found, Option.bind_some, worked]; rfl⟩

theorem Sound.waitsForCall
    {name : Nat} {thread : Thread}
    (sound : Sound json cfg server)
    (found : server.threads name = some thread)
    (waits : thread.callStage = .waiting)
    (unanswered : server.shared.acp.replies name = none)
    (alive : server.shared.acp.driver ≠ .gone) :
    WaitsForCall server name := by
  refine ⟨⟨thread, found, waits⟩, ?_, unanswered⟩
  rcases sound.calling.fate found waits with
    ⟨answer, got⟩ | pending | gone
  · rw [unanswered] at got
    cases got
  · exact pending
  · exact absurd gone alive

/-- With the driver gone, only a route is left that can hold a sender. -/
theorem Sound.routed
    {name : Nat} {stream : PromptStream}
    (sound : Sound json cfg server)
    (found : server.shared.acp.streams name = some stream)
    (returned : stream.status = .returned)
    (gone : server.shared.acp.driver = .gone)
    (opened : server.shared.acp.isOpen name = true) :
    ∃ session, server.shared.acp.routes session = some name := by
  cases sound.turns.agree.isOpen_iff.mp opened with
  | routed session route => exact ⟨session, route⟩
  | queued command waiting =>
      rw [sound.driver.unqueued gone] at waiting
      cases waiting
  | driving holds =>
      rw [gone] at holds
      cases holds
  | delivering update held =>
      rw [sound.quiet gone] at held
      cases held
  | calling other isOther inCall =>
      rw [found] at isOther
      cases isOther
      rw [returned] at inCall
      cases inCall

theorem Sound.waitsForItem
    {name : Nat} {handler : Handler} {guarded : ConversationRef}
    {call : Bridge.Call}
    (sound : Sound json cfg server)
    (found : server.handlers name = some handler)
    (bridging : handler.pc = .bridging guarded call)
    (atNext : call.pc = .next)
    (nothing : server.shared.acp.pollNext name = none) :
    WaitsForItem server name ∨ LeftOpen server name := by
  have status :=
    sound.placed.opened name handler (some .returned) found
      (by rw [bridging]; rfl)
  obtain ⟨stream, isStream, returned⟩ := Option.map_eq_some_iff.mp status
  obtain ⟨allTaken, opened⟩ :=
    AcpClient.pollNext_none isStream returned nothing
  have atItem : AtItem server name :=
    ⟨⟨handler, guarded, call, found, bridging, atNext⟩,
      stream, isStream, allTaken⟩
  rcases sound.accounted.fate name stream isStream with
    outstanding | answered | gone
  · rcases outstanding with ⟨other, isOther, registered⟩ | pending
    · rw [isStream] at isOther
      cases isOther
      rw [returned] at registered
      cases registered
    · exact .inl ⟨atItem, .inl pending⟩
  · rcases answered with ⟨session, item, resolved⟩ |
      ⟨other, item, isOther, member, ends⟩
    · exact .inl ⟨atItem, .inr ⟨session, item, resolved⟩⟩
    · rw [isStream] at isOther
      cases isOther
      have turn := sound.turns.turn name handler found
      rw [bridging] at turn
      obtain ⟨binding, read, _, reads, account⟩ := turn
      have sameStream := isStream.symm.trans reads.found
      cases sameStream
      have yielded : stream.yielded = stream.items :=
        List.take_of_length_le allTaken
      simp only [Bridge.Call.Account, atNext, yielded] at account
      have unended := List.find?_eq_none.mp account.1 item member
      exact absurd ends unended
  · exact .inr ⟨atItem, gone, sound.routed isStream returned gone opened⟩

theorem Sound.handler_waits
    {name : Nat} {handler : Handler}
    (sound : Sound json cfg server)
    (found : server.handlers name = some handler)
    (notOver : handler.pc.isOver = false) :
    CanWork json cfg server name ∨ WaitsForAgent server name ∨
      LeftOpen server name ∨
        server.shared.writer.isSome = true ∧ handler.pc ≠ .spawning := by
  have isThread := thread_of_handlers found
  have unused : ∃ id, server.shared.tasks.bindings id = none := by
    obtain ⟨id, unlisted⟩ :=
      exists_fresh_taskId server.shared.tasks.order
    refine ⟨id, ?_⟩
    have unknown := mt (sound.placed.built.indexed.listed id).mpr unlisted
    simpa using unknown
  have replied : ∀ answer, handler.pc = .spawning →
      server.shared.acp.replies name = some answer →
        (∃ session, answer = .session session) ∨
          ∃ text, answer = .failed text := by
    intro answer _ got
    obtain ⟨command, member, isCall, takes, _⟩ :=
      sound.calling.agree.replied name answer got
    obtain ⟨thread, isOwn, _, asks⟩ :=
      sound.calling.own command name (List.mem_append_left _ member) isCall
    rw [isThread] at isOwn
    cases isOwn
    cases asks
    rcases takes with accepted | ⟨⟨_, _, isCancel⟩, _⟩
    · cases answer with
      | session session => exact .inl ⟨session, rfl⟩
      | failed text => exact .inr ⟨text, rfl⟩
      | _ => cases accepted
    · cases isCancel
  rcases Handler.can_work json cfg unused
      (fun status => sound.placed.opened name handler status found) replied
      notOver with ⟨env, works⟩ | waits
  · left
    apply CanWork.of_thread env isThread
    simpa [workThread] using works
  · right
    cases waits with
    | lock held notOwn => exact .inr (.inr ⟨held, notOwn⟩)
    | call atSpawn unanswered alive =>
        left
        left
        refine sound.waitsForCall isThread ?_ unanswered alive
        exact congrArg HandlerPc.callStage atSpawn
    | item guarded call bridging atNext nothing =>
        rcases sound.waitsForItem found bridging atNext nothing with
          forItem | leftOpen
        · exact .inl (.inr forItem)
        · exact .inr (.inl leftOpen)

/-- A cancel or a reset that has no answer yet. -/
theorem Sound.caller_waits
    {name : Nat} {thread : Thread}
    (sound : Sound json cfg server)
    (found : server.threads name = some thread)
    (waits : thread.callStage = .waiting)
    (noReply : server.shared.hasReply name = false) :
    WaitsForCall server name := by
  unfold Shared.hasReply at noReply
  rw [Bool.or_eq_false_iff] at noReply
  apply sound.waitsForCall found waits
  · simpa using noReply.1
  · simpa using noReply.2

theorem Sound.thread_waits
    {name : Nat} {thread : Thread}
    (sound : Sound json cfg server)
    (found : server.threads name = some thread)
    (notOver : thread.isOver = false) :
    CanWork json cfg server name ∨ WaitsForAgent server name ∨
      LeftOpen server name ∨ server.shared.writer.isSome = true := by
  let env : Env := { now := 0, taskId := ⟨""⟩ }
  cases thread with
  | prompt handler =>
      rcases sound.handler_waits (handlers_of_found found) notOver with
        works | waits | leftOpen | ⟨locked, _⟩
      · exact .inl works
      · exact .inr (.inl waits)
      · exact .inr (.inr (.inl leftOpen))
      · exact .inr (.inr (.inr locked))
  | cancel canceling =>
      have running : ∀ answer, canceling.pc ≠ .returned answer := by
        intro answer returned
        cases canceling
        cases returned
        cases notOver
      rcases Canceling.can_work name canceling server.shared running with
        works | locked | ⟨atAwait, noReply⟩
      · left
        apply CanWork.of_thread env found
        simpa [workThread] using works
      · exact .inr (.inr (.inr locked))
      · refine .inr (.inl (.inl (sound.caller_waits found ?_ noReply)))
        exact congrArg CancelPc.callStage atAwait
  | reset resetting =>
      have running : ∀ cleared canceled,
          resetting.pc ≠ .returned cleared canceled := by
        intro cleared canceled returned
        cases resetting
        cases returned
        cases notOver
      rcases Resetting.can_work name resetting server.shared running with
        works | locked | ⟨⟨canceled, atAwait⟩, noReply⟩
      · left
        apply CanWork.of_thread env found
        simpa [workThread] using works
      · exact .inr (.inr (.inr locked))
      · refine .inr (.inl (.inl (sound.caller_waits found ?_ noReply)))
        exact congrArg ResetPc.callStage atAwait
  | sweep sweep =>
      have running : ∀ keys, sweep ≠ .done keys := by
        intro keys finished
        cases finished
        cases notOver
      rcases Sweep.can_work env sweep server.shared running with
        works | locked
      · left
        apply CanWork.of_thread env found
        simpa [workThread] using works
      · exact .inr (.inr (.inr locked))

/-- The holder of the map's write lock goes on, or waits for the agent. -/
theorem Sound.writer_waits
    {name : Nat}
    (sound : Sound json cfg server)
    (isWriter : server.shared.writer = some name) :
    CanWork json cfg server name ∨ WaitsForCall server name := by
  obtain ⟨handler, found, atSpawn⟩ := (sound.placed.writing name).mp isWriter
  have notBridging : ¬ AtItem server name := by
    intro atItem
    obtain ⟨other, guarded, call, isOther, bridging, _⟩ := atItem.bridge
    rw [found] at isOther
    cases isOther
    rw [atSpawn] at bridging
    cases bridging
  rcases sound.handler_waits found (by rw [atSpawn]; rfl) with
    works | (forCall | forItem) | leftOpen | ⟨_, notOwn⟩
  · exact .inl works
  · exact .inr forCall
  · exact absurd forItem.toAtItem notBridging
  · exact absurd leftOpen.toAtItem notBridging
  · exact absurd atSpawn notOwn

section

variable {trace : List Action} {maxActive idleWindow now : Nat}
variable {loaded : List (String × SessionId)}

/-- In every state of every run, a request that is not over can take a step,
or waits for the agent, or for the map's write lock, whose holder can take a
step or waits for the agent; but for a stream that was left open when the
driver ended. -/
theorem requests_wait_for_agent
    {name : Nat} {thread : Thread}
    (run : Run (Server.step json cfg) free
      (start maxActive idleWindow now loaded) trace server)
    (found : server.threads name = some thread)
    (notOver : thread.isOver = false) :
    CanWork json cfg server name ∨ WaitsForAgent server name ∨
      LeftOpen server name ∨
        ∃ holder, server.shared.writer = some holder ∧
          (CanWork json cfg server holder ∨ WaitsForCall server holder) := by
  have sound := sound_of_run run
  rcases sound.thread_waits found notOver with
    works | waits | leftOpen | locked
  · exact .inl works
  · exact .inr (.inl waits)
  · exact .inr (.inr (.inl leftOpen))
  · obtain ⟨holder, isWriter⟩ := Option.isSome_iff_exists.mp locked
    exact .inr (.inr (.inr ⟨holder, isWriter, sound.writer_waits isWriter⟩))

end

/-- The second request finds the map locked for the session of the first. -/
theorem second_request_waits :
    ∃ trace server,
      exec (step .constant plainConfig) trace (start 10 60 0 []) =
          some server ∧
        (∀ env, step .constant plainConfig (.work 1 env) server = none) ∧
          ∃ holder, server.shared.writer = some holder ∧
            (CanWork .constant plainConfig server holder ∨
              WaitsForCall server holder) := by
  let first : Action := .work 0 { now := 0, taskId := ⟨"t"⟩ }
  let second : Action := .work 1 { now := 0, taskId := ⟨"u"⟩ }
  let trace : List Action :=
    [.request 0 .send plainParams none, first, first, first,
      .request 1 .send plainParams none, second]
  obtain ⟨server, executed⟩ : ∃ server,
      exec (step .constant plainConfig) trace (start 10 60 0 []) =
        some server :=
    ⟨_, rfl⟩
  obtain ⟨handler, found, atLookUp⟩ : ∃ handler,
      server.threads 1 = some (.prompt handler) ∧ handler.pc = .lookUp := by
    cases executed
    exact ⟨_, rfl, rfl⟩
  have blocked : ∀ env,
      step .constant plainConfig (.work 1 env) server = none := by
    intro env
    cases executed
    rfl
  have notOver : (Thread.prompt handler).isOver = false := by
    simp [Thread.isOver, atLookUp, HandlerPc.isOver]
  have notBridging : ¬ AtItem server 1 := by
    intro atItem
    obtain ⟨other, guarded, call, isOther, bridging, _⟩ := atItem.bridge
    rw [handlers_of_found found] at isOther
    cases isOther
    rw [atLookUp] at bridging
    cases bridging
  refine ⟨trace, server, executed, blocked, ?_⟩
  rcases requests_wait_for_agent (run_of_exec executed) found notOver with
    works | (forCall | forItem) | leftOpen | waits
  · obtain ⟨env, target, taken⟩ := works
    rw [blocked env] at taken
    cases taken
  · obtain ⟨thread, isThread, waiting⟩ := forCall.thread
    rw [found] at isThread
    cases isThread
    simp [Thread.callStage, atLookUp, HandlerPc.callStage] at waiting
  · exact absurd forItem.toAtItem notBridging
  · exact absurd leftOpen.toAtItem notBridging
  · exact waits

end Server

end A2AShim
