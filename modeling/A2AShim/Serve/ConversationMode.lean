import A2AShim.Serve.MapSteps

/-!
# Conversation modes

A request in mode `new` wants a conversation of its own, one in mode
`continue` a conversation that is there.  The mode is checked by a look at the
map before `get_or_create` looks again, so it is kept as long as nobody binds
or removes the key in between.
-/

namespace A2AShim

/-- The request's `_shim_conversation_mode`. -/
def Handler.mode (handler : Handler) : String :=
  Http.conversationMode handler.params

/-- The mode has been checked, and `get_or_create` has not returned. -/
def HandlerPc.isAsking : HandlerPc → Bool
  | .lookUp | .create | .spawning => true
  | _ => false

namespace Server

open Machine

/-- In this step, `get_or_create` returns a conversation to the handler, with
`created` saying whether it is a new one. -/
def Returns (server : Server) (action : Action) (handler : Handler)
    (created : Bool) : Prop :=
  ∃ name env,
    action = .work name env ∧ server.handlers name = some handler ∧
      ((created = false ∧ (handler.pc = .lookUp ∨ handler.pc = .create) ∧
          server.shared.writer = none ∧
            (server.shared.conversations.get handler.request.key).isSome =
              true) ∨
        (created = true ∧ handler.pc = .spawning ∧
          ∃ session,
            server.shared.acp.replies name = some (.session session)))

/-- The request goes on with a conversation that its mode excludes. -/
def BreaksMode (server : Server) (action : Action) : Prop :=
  ∃ handler,
    (handler.mode = "new" ∧ Returns server action handler false) ∨
      (handler.mode = "continue" ∧ Returns server action handler true)

/-- The step takes the key out of the map. -/
def Unbinds (key : String) (server : Server) (action : Action) : Prop :=
  ∃ name env thread,
    action = .work name env ∧ server.threads name = some thread ∧
      key ∈ thread.removes

/-- Requests get what their modes ask for; so of two requests in mode `new`
for one key, the second can only go on once the key has been removed. -/
structure ModesHonoured (json : SerdeJson) (cfg : ServeConfig)
    (init : Server) (trace : List Action) : Prop where
  kept : ¬ SomeStep (step json cfg) BreaksMode init trace
  oneNew : ∀ before first between second after earlier later one two,
    trace = before ++ first :: (between ++ second :: after) →
      exec (step json cfg) before init = some earlier →
        exec (step json cfg) (first :: between) earlier = some later →
          (∃ created, Returns earlier first one created) →
            (∃ created, Returns later second two created) →
              one.mode = "new" → two.mode = "new" →
                one.request.key = two.request.key →
                  SomeStep (step json cfg) (Unbinds one.request.key) earlier
                    (first :: between)

/-- The steps that make a check stale: another call binds the key of a request
in mode `new`, or the key of one in mode `continue` is removed before it is
looked up. -/
inductive Overtakes (server : Server) : Action → Prop
  | binds (name : Nat) (env : Env) (handler : Handler) (session : SessionId)
      (other : Nat) (waiting : Handler)
      (found : server.handlers name = some handler)
      (atSpawn : handler.pc = .spawning)
      (replied : server.shared.acp.replies name = some (.session session))
      (waits : server.handlers other = some waiting)
      (different : other ≠ name)
      (sameKey : waiting.request.key = handler.request.key)
      (isNew : waiting.mode = "new")
      (asking : waiting.pc.isAsking = true) :
      Overtakes server (.work name env)
  | removes (name : Nat) (env : Env) (thread : Thread)
      (other : Nat) (waiting : Handler)
      (found : server.threads name = some thread)
      (removed : waiting.request.key ∈ thread.removes)
      (waits : server.handlers other = some waiting)
      (isContinue : waiting.mode = "continue")
      (atLookUp : waiting.pc = .lookUp) :
      Overtakes server (.work name env)

/-! ## The checks that still hold -/

/-- What a handler has checked is still so. -/
structure ModeFits (shared : Shared) (handler : Handler) : Prop where
  absent : handler.mode = "new" → handler.pc.isAsking = true →
    shared.conversations.get handler.request.key = none
  bound : handler.mode = "continue" → handler.pc = .lookUp →
    (shared.conversations.get handler.request.key).isSome = true
  settled : handler.mode = "continue" →
    handler.pc ≠ .create ∧ handler.pc ≠ .spawning

def Checked (server : Server) : Prop :=
  ∀ name handler, server.handlers name = some handler →
    ModeFits server.shared handler

variable {json : SerdeJson} {cfg : ServeConfig} {server target : Server}
variable {shared : Shared} {handler : Handler} {name : Nat}

/-- Positions that no check matters to. -/
theorem ModeFits.of_outside
    (notAsking : handler.pc.isAsking = false) :
    ModeFits shared handler where
  absent := by
    intro _ asking
    rw [notAsking] at asking
    cases asking
  bound := by
    intro _ atLookUp
    rw [atLookUp] at notAsking
    cases notAsking
  settled := by
    intro _
    constructor
    · intro atCreate
      rw [atCreate] at notAsking
      cases notAsking
    · intro atSpawn
      rw [atSpawn] at notAsking
      cases notAsking

theorem absent_of_honoured
    {map : ConversationMap} {params : Value} {key : String}
    (honoured : Http.checkConversationMode map params key = .ok ())
    (isNew : Http.conversationMode params = "new") :
    map.get key = none := by
  simp only [Http.checkConversationMode, isNew] at honoured
  split at honoured
  · cases honoured
  · rename_i absent
    simpa using absent

theorem bound_of_honoured
    {map : ConversationMap} {params : Value} {key : String}
    (honoured : Http.checkConversationMode map params key = .ok ())
    (isContinue : Http.conversationMode params = "continue") :
    (map.get key).isSome = true := by
  simp only [Http.checkConversationMode, isContinue] at honoured
  split at honoured
  · cases honoured
  · rename_i bound
    simpa [Option.isSome_iff_ne_none] using bound

theorem guarded_not_asking
    {pc : HandlerPc} {guarded : ConversationRef}
    (isGuarded : pc.guard? = some guarded) :
    pc.isAsking = false := by
  cases pc <;> first | rfl | cases isGuarded

/-- A step on the handler's own way to the map. -/
theorem ModeFits.of_opening
    {env : Env} {next : HandlerPc} {after : Shared}
    (fits : ModeFits shared handler)
    (opening : Handler.Opening cfg name env handler shared next after) :
    ModeFits after { handler with pc := next } := by
  cases opening with
  | passes before honoured =>
      exact
        { absent := fun isNew _ => absent_of_honoured honoured isNew
          bound := fun isContinue _ => bound_of_honoured honoured isContinue
          settled := fun _ => ⟨nofun, nofun⟩ }
  | misses before absent =>
      refine { absent := fun _ _ => absent, bound := nofun, settled := ?_ }
      intro isContinue
      have bound := fits.bound isContinue before
      rw [absent] at bound
      cases bound
  | asks acp before unwritten absent submitted =>
      refine { absent := fun _ _ => absent, bound := nofun, settled := ?_ }
      intro isContinue
      exact absurd before (fits.settled isContinue).1
  | _ => exact .of_outside rfl

/-- What the others do leaves a check alone, unless it overtakes it. -/
theorem ModeFits.of_mapChange
    {action : Action} (fits : ModeFits server.shared handler)
    (found : server.handlers name = some handler)
    (notOwn : ∀ env, action ≠ .work name env)
    (orderly : ¬ Overtakes server action)
    (change : MapChange server action target) :
    ModeFits target.shared handler := by
  cases change with
  | keeps related =>
      exact
        { absent := fun isNew asking =>
            (related.keys _).trans (fits.absent isNew asking)
          bound := by
            intro isContinue atLookUp
            rw [related.keys]
            exact fits.bound isContinue atLookUp
          settled := fits.settled }
  | binds other env opener session isAction foundOpener atSpawn replied _
      isMap =>
      subst isAction
      have different : name ≠ other := by
        intro same
        subst same
        exact notOwn env rfl
      constructor
      · intro isNew asking
        have otherKey : handler.request.key ≠ opener.request.key := by
          intro sameKey
          exact orderly (.binds other env opener session name handler
            foundOpener atSpawn replied found different sameKey isNew asking)
        rw [isMap, ConversationMap.insert_get_other otherKey]
        exact fits.absent isNew asking
      · intro isContinue atLookUp
        rw [isMap]
        by_cases sameKey : handler.request.key = opener.request.key
        · rw [sameKey, ConversationMap.insert_get_self]
          rfl
        · rw [ConversationMap.insert_get_other sameKey]
          exact fits.bound isContinue atLookUp
      · exact fits.settled
  | removes other env thread isAction foundThread isMap =>
      subst isAction
      constructor
      · intro isNew asking
        rw [isMap]
        exact ConversationMap.removeAll_get_none _ (fits.absent isNew asking)
      · intro isContinue atLookUp
        have remains : handler.request.key ∉ thread.removes := by
          intro removed
          exact orderly (.removes other env thread name handler foundThread
            removed found isContinue atLookUp)
        rw [isMap, ConversationMap.removeAll_get_other remains]
        exact fits.bound isContinue atLookUp
      · exact fits.settled

theorem Checked.step
    {action : Action} (checked : Checked server)
    (orderly : ¬ Overtakes server action)
    (taken : step json cfg action server = some target) :
    Checked target := by
  intro name handler found
  have own := handlerStep_of_step taken found
  cases own with
  | stays _ foundBefore notOwn =>
      exact (checked name handler foundBefore).of_mapChange foundBefore notOwn
        orderly (mapChange_of_step taken)
  | arrives _ free atCheck sameShared =>
      apply ModeFits.of_outside
      rw [atCheck]
      rfl
  | opens env before next isAction foundBefore unguarded opening =>
      exact (checked name before foundBefore).of_opening opening
  | moves env before next guarded isAction foundBefore isGuarded moved =>
      rcases Handler.guarded_cases isGuarded moved with
        ⟨stillGuarded, _⟩ | ⟨⟨answer, rfl⟩, _⟩
      · exact .of_outside (guarded_not_asking stillGuarded)
      · exact .of_outside rfl
  | drops before => exact .of_outside rfl

/-- A handler whose check still holds goes on as its mode asks. -/
theorem Checked.not_breaksMode
    {action : Action} (checked : Checked server) :
    ¬ BreaksMode server action := by
  intro breaks
  obtain ⟨handler, ⟨isNew, returns⟩ | ⟨isContinue, returns⟩⟩ := breaks
  · obtain ⟨name, env, _, found, returned⟩ := returns
    rcases returned with ⟨_, asking, _, bound⟩ | ⟨isTrue, _⟩
    · have isAsking : handler.pc.isAsking = true := by
        rcases asking with atPc | atPc <;> rw [atPc] <;> rfl
      rw [(checked name handler found).absent isNew isAsking] at bound
      cases bound
    · cases isTrue
  · obtain ⟨name, env, _, found, returned⟩ := returns
    rcases returned with ⟨isFalse, _⟩ | ⟨_, atSpawn, _⟩
    · cases isFalse
    · exact ((checked name handler found).settled isContinue).2 atSpawn

/-! ## Keys that stay bound -/

theorem bound_of_step
    {action : Action} {key : String}
    (taken : step json cfg action server = some target)
    (bound : (server.shared.conversations.get key).isSome = true)
    (kept : ¬ Unbinds key server action) :
    (target.shared.conversations.get key).isSome = true := by
  cases mapChange_of_step taken with
  | keeps related =>
      rw [related.keys]
      exact bound
  | binds name env handler session _ _ _ _ _ isMap =>
      rw [isMap]
      by_cases same : key = handler.request.key
      · rw [same, ConversationMap.insert_get_self]
        rfl
      · rw [ConversationMap.insert_get_other same]
        exact bound
  | removes name env thread isAction found isMap =>
      have remains : key ∉ thread.removes := fun removed =>
        kept ⟨name, env, thread, isAction, found, removed⟩
      rw [isMap, ConversationMap.removeAll_get_other remains]
      exact bound

theorem bound_of_exec
    {trace : List Action} {key : String}
    (executed : exec (step json cfg) trace server = some target)
    (bound : (server.shared.conversations.get key).isSome = true)
    (kept : ¬ SomeStep (step json cfg) (Unbinds key) server trace) :
    (target.shared.conversations.get key).isSome = true := by
  induction trace generalizing server with
  | nil =>
      cases executed
      exact bound
  | cons action rest inductionHypothesis =>
      obtain ⟨next, taken, remaining⟩ := Option.bind_eq_some_iff.mp executed
      apply inductionHypothesis remaining
      · apply bound_of_step taken bound
        intro unbinds
        exact kept ⟨[], action, rest, server, rfl, rfl, unbinds⟩
      · intro happens
        have executedHere : exec (step json cfg) [action] server = some next := by
          simp [exec, taken]
        have later := happens.within executedHere []
        rw [List.append_nil] at later
        exact kept later

/-- A call that creates a conversation binds its key. -/
theorem bound_of_created
    {action : Action} (returns : Returns server action handler true)
    (taken : step json cfg action server = some target) :
    (target.shared.conversations.get handler.request.key).isSome = true := by
  obtain ⟨name, env, rfl, found, ⟨isFalse, _⟩ | ⟨_, atSpawn, session, replied⟩⟩ :=
    returns
  · cases isFalse
  · obtain ⟨next, worked, _⟩ := work_of_step taken found
    simp only [Handler.work, Handler.open_, atSpawn, replied,
      Option.some.injEq, Prod.mk.injEq] at worked
    rw [← worked.2, ConversationMap.insert_get_self]
    rfl

theorem created_of_new
    {action : Action} {created : Bool}
    (honoured : ¬ BreaksMode server action) (isNew : handler.mode = "new")
    (returns : Returns server action handler created) :
    created = true := by
  cases created with
  | true => rfl
  | false => exact absurd ⟨handler, .inl ⟨isNew, returns⟩⟩ honoured

/-- A handler that creates a conversation in mode `new` finds no other. -/
theorem Checked.absent_of_created
    {action : Action} (checked : Checked server)
    (isNew : handler.mode = "new")
    (returns : Returns server action handler true) :
    server.shared.conversations.get handler.request.key = none := by
  obtain ⟨name, env, _, found, ⟨isFalse, _⟩ | ⟨_, atSpawn, _⟩⟩ := returns
  · cases isFalse
  · refine (checked name handler found).absent isNew ?_
    rw [atSpawn]
    rfl

/-! ## Every run -/

variable {init : Server}

theorem checked_of_run
    {trace : List Action} (atStart : Checked init)
    (run : Run (step json cfg)
      (fun reached action => ¬ Overtakes reached action) init trace server) :
    Checked server := by
  refine run.invariant Checked atStart ?_
  intro source action next checked orderly taken
  exact checked.step orderly taken

/-- What holds of the end of every run holds wherever its trace is cut. -/
theorem checked_within
    {before rest : List Action} {reached : Server} (atStart : Checked init)
    (run : Run (step json cfg)
      (fun reached action => ¬ Overtakes reached action) init
      (before ++ rest) server)
    (executed : exec (step json cfg) before init = some reached) :
    Checked reached := by
  obtain ⟨middle, front, _⟩ := run.split
  have sameState := front.exec_eq.symm.trans executed
  cases sameState
  exact checked_of_run atStart front

/-- Modes are honoured in every run in which no check is overtaken. -/
theorem modes_honoured
    {maxActive idleWindow now : Nat} {loaded : List (String × SessionId)}
    {trace : List Action}
    (run : Run (step json cfg)
      (fun reached action => ¬ Overtakes reached action)
      (start maxActive idleWindow now loaded) trace server) :
    ModesHonoured json cfg (start maxActive idleWindow now loaded) trace := by
  have atStart : Checked (start maxActive idleWindow now loaded) := by
    intro name handler found
    rw [handlers_start] at found
    cases found
  constructor
  · intro happens
    rcases happens with
      ⟨before, action, after, reached, rfl, executed, breaks⟩
    exact (checked_within atStart run executed).not_breaksMode breaks
  · intro before first between second after earlier later one two split
      toEarlier toLater returnsOne returnsTwo oneNew twoNew sameKey
    subst split
    have checkedEarlier := checked_within atStart run toEarlier
    have toSecond :
        exec (step json cfg) (before ++ first :: between)
            (start maxActive idleWindow now loaded) =
          some later := by
      rw [exec_append, toEarlier]
      exact toLater
    have regrouped :
        before ++ first :: (between ++ second :: after) =
          (before ++ first :: between) ++ second :: after := by
      simp
    rw [regrouped] at run
    have checkedLater := checked_within atStart run toSecond
    obtain ⟨createdOne, returnsOne⟩ := returnsOne
    obtain ⟨createdTwo, returnsTwo⟩ := returnsTwo
    have isTrueOne :=
      created_of_new checkedEarlier.not_breaksMode oneNew returnsOne
    have isTrueTwo :=
      created_of_new checkedLater.not_breaksMode twoNew returnsTwo
    subst isTrueOne
    subst isTrueTwo
    by_contra never
    obtain ⟨next, taken, remaining⟩ := Option.bind_eq_some_iff.mp toLater
    have boundNext := bound_of_created returnsOne taken
    have executedHere : exec (step json cfg) [first] earlier = some next := by
      simp [exec, taken]
    have boundLater :=
      bound_of_exec remaining boundNext fun happens =>
        never (by simpa using happens.within executedHere [])
    rw [sameKey, checkedLater.absent_of_created twoNew returnsTwo] at boundLater
    cases boundLater

theorem leavesKeys_sound
    {action : Action} (leaves : leavesKeys server action = true) :
    ¬ Overtakes server action := by
  intro overtakes
  cases overtakes with
  | binds name env handler session other waiting found atSpawn =>
      simp [leavesKeys, thread_of_handlers found, atSpawn] at leaves
  | removes name env thread other waiting found removed =>
      cases thread with
      | prompt handler => cases removed
      | cancel canceling => cases removed
      | reset | sweep =>
          simp only [leavesKeys, found, List.isEmpty_iff] at leaves
          rw [leaves] at removed
          cases removed

/-- `SendMessage` for the conversation `c` in a mode. -/
def modeParams (mode : String) : Value :=
  .object
    [("message", .object
      [("role", .string "user"),
        ("parts", .array [.object [("text", .string "hello")]]),
        ("metadata", .object
          [(MessageMetadata.conversationKey, .string "c")])]),
      ("_shim_conversation_mode", .string mode)]

/-- One caller makes a conversation in mode `new`, and another one goes on
with it in mode `continue`. -/
theorem new_then_continue_honoured :
    ∃ cfg trace server,
      exec (step .constant cfg) trace (start 10 60 0 []) = some server ∧
        (∃ handler, server.handlers 1 = some handler ∧
          handler.pc = .findGuard "s") ∧
          ModesHonoured .constant cfg (start 10 60 0 []) trace := by
  let work (name : Nat) : Action := .work name { now := 0, taskId := ⟨"t"⟩ }
  let before : List Action :=
    [.request 0 .send (modeParams "new") none, work 0, work 0, work 0,
      .acp .receive, .acp (.answer (.session "s"))]
  let after : List Action :=
    [.request 1 .send (modeParams "continue") none, work 1, work 1]
  obtain ⟨spawning, toSpawning⟩ : ∃ spawning,
      execTested (step .constant plainConfig) leavesKeys before
        (start 10 60 0 []) = some spawning :=
    ⟨_, rfl⟩
  obtain ⟨opened, opens⟩ : ∃ opened,
      step .constant plainConfig (work 0) spawning = some opened := by
    cases toSpawning
    exact ⟨_, rfl⟩
  obtain ⟨server, toEnd⟩ : ∃ server,
      execTested (step .constant plainConfig) leavesKeys after opened =
        some server := by
    cases toSpawning
    cases opens
    exact ⟨_, rfl⟩
  have orderly : ¬ Overtakes spawning (work 0) := by
    intro overtakes
    cases toSpawning
    cases overtakes with
    | binds _ _ handler session other waiting _ _ _ waits different =>
        match other, waits with
        | 0, _ => exact different rfl
        | _ + 1, waits => cases waits
    | removes _ _ thread other waiting found removed =>
        cases found
        cases removed
  have run :=
    ((run_of_execTested (fun _ _ => leavesKeys_sound) toSpawning).snoc orderly
      opens).append (run_of_execTested (fun _ _ => leavesKeys_sound) toEnd)
  refine ⟨plainConfig, _, server, run.exec_eq, ?_, modes_honoured run⟩
  cases toSpawning
  cases opens
  cases toEnd
  exact ⟨_, rfl, rfl⟩

/-- Two callers ask for a new conversation under one key, and both pass the
check before the first one makes it. -/
theorem second_new_request_proceeds :
    ¬ ∀ cfg trace server,
        Run (step .constant cfg) free (start 10 60 0 []) trace server →
          ModesHonoured .constant cfg (start 10 60 0 []) trace := by
  intro claimed
  let work (name : Nat) : Action := .work name { now := 0, taskId := ⟨"t"⟩ }
  let before : List Action :=
    [.request 0 .send (modeParams "new") none, work 0,
      .request 1 .send (modeParams "new") none, work 1, work 0, work 0,
      .acp .receive, .acp (.answer (.session "s")), work 0]
  obtain ⟨opened, executed⟩ : ∃ opened,
      exec (step .constant plainConfig) before (start 10 60 0 []) =
        some opened :=
    ⟨_, rfl⟩
  obtain ⟨server, last⟩ : ∃ server,
      step .constant plainConfig (work 1) opened = some server := by
    cases executed
    exact ⟨_, rfl⟩
  have run := (run_of_exec executed).snoc trivial last
  have honoured := claimed plainConfig _ server run
  apply honoured.kept
  refine ⟨before, work 1, [], opened, rfl, executed, ?_⟩
  cases executed
  exact ⟨_, .inl ⟨rfl, 1, _, rfl, rfl, .inl ⟨rfl, .inl rfl, rfl, rfl⟩⟩⟩

end Server

end A2AShim
