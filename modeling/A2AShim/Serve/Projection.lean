import A2AShim.Serve.Live
import A2AShim.Serve.PushOnce

/-!
# With and without a database

Forgetting the tables commutes with every step of the server but two: the
answer to a request whose row was refused, and a look into the table that
finds what the lists did not have.  Requests come to the second only when they
overlap.
-/

namespace A2AShim

namespace PushConfigs

def withoutRows (configs : PushConfigs) : PushConfigs :=
  { configs with rows := none }

/-- The rows are those of listed configurations, some may have gone. -/
structure Covered (configs : PushConfigs) : Prop where
  indexed : configs.registry.Indexed
  covers : ∀ taskId, configs.registry.inner taskId ≠ [] →
    taskId ∈ configs.keys
  stored : ∀ configId, PushStore.HasRow configs configId →
    PushStore.Listed configs configId

variable {configs target : PushConfigs} {config : PushNotificationConfig}
variable {now : Nat}

theorem covered_new
    {rows : Option Rows}
    (noConfigs : ∀ tables, rows = some tables → tables.pushConfigs = []) :
    Covered (new rows) := by
  refine ⟨PushConfigRegistry.indexed_empty, fun _ some => absurd rfl some, ?_⟩
  intro configId given
  rcases given with ⟨tables, row, isRows, member, _⟩
  rw [noConfigs tables isRows] at member
  cases member

theorem Covered.insert
    (covered : Covered configs)
    (inserted : configs.insert config now = .ok target) : Covered target := by
  rw [insert_eq] at inserted
  split at inserted
  · cases inserted
  · rename_i written isWritten
    cases inserted
    obtain ⟨registry, keys, rows⟩ := PushStore.insertRow_some isWritten
    have sameInner : written.registry.inner = configs.registry.inner := by
      rw [registry]
    refine ⟨?_, ?_, ?_⟩
    · refine PushConfigRegistry.Indexed.insert ?_
      rw [registry]
      exact covered.indexed
    · refine covers_insert ?_
      rw [sameInner, keys]
      exact covered.covers
    · intro tested held
      rw [PushStore.listed_insertInner]
      rcases rows tested held with isNew | before
      · exact .inl isNew
      · obtain ⟨found, member, isId⟩ := covered.stored tested before
        refine .inr ⟨found, ?_, isId⟩
        rw [listForTask, registry]
        exact member

theorem Covered.delete
    (covered : Covered configs) (configId : String) :
    Covered (configs.delete configId) := by
  refine ⟨covered.indexed.delete configId, covers_delete covered.covers, ?_⟩
  intro tested held
  rw [delete_eq] at held ⊢
  obtain ⟨differs, before⟩ := PushStore.hasRow_deleteRow.mp held
  rw [PushStore.listed_deleteInner]
  exact ⟨differs, covered.stored tested before⟩

/-- Fewer rows. -/
theorem Covered.shrink
    {rows : Option Rows} (covered : Covered configs)
    (fewer : ∀ configId, PushStore.HasRow { configs with rows } configId →
      PushStore.HasRow configs configId) :
    Covered { configs with rows } :=
  ⟨covered.indexed, covered.covers,
    fun configId held => covered.stored configId (fewer configId held)⟩

/-- The table has nothing that the lists do not have. -/
theorem Covered.no_row
    (covered : Covered configs) {scan : List String} {configId : String}
    (isScan : scan.Perm configs.keys)
    (absent : configs.getInner scan configId = none) :
    ¬ PushStore.HasRow configs configId := by
  intro held
  obtain ⟨config, member, isId⟩ := covered.stored configId held
  have inKeys := covered.covers config.taskId (List.ne_nil_of_mem member)
  have noneThere := List.findSome?_eq_none_iff.mp absent config.taskId
    (isScan.mem_iff.mpr inKeys)
  have differs := List.find?_eq_none.mp noneThere config member
  exact differs (by simpa using isId)

end PushConfigs

/-- Without a table no row is refused. -/
def PushCall.withoutRows : PushCall → PushCall
  | .insert config out _ => .insert config out true
  | .delete configId out => .delete configId out
  | .look configId => .look configId

def PushBegin.withoutRows : PushBegin → PushBegin
  | .answered result => .answered result
  | .waits configs call => .waits configs.withoutRows call.withoutRows

namespace Live

variable (json : SerdeJson) (cfg : ServeConfig) (pushEnabled : Bool)

/-- Without a database. -/
def withoutRows (live : Live) : Live :=
  { live with
    rows := none
    calls := live.calls.map PushCall.withoutRows }

/-- A request to create a push configuration is answered whose Task had no
row. -/
def Refused (live : Live) (action : Action) : Prop :=
  ∃ name config out,
    action = .finish name ∧ live.calls name = some (.insert config out false)

/-- The table has what a request has not found in the lists. -/
def Leftover (live : Live) (action : Action) : Prop :=
  ∃ name configId config,
    action = .finish name ∧ live.calls name = some (.look configId) ∧
      live.pushConfigs.getRow configId = some config

def Diverges (live : Live) (action : Action) : Prop :=
  Refused live action ∨ Leftover live action

variable {json cfg pushEnabled}
variable {live next : Live} {name : Nat} {params : Value}
variable {header : Option String} {chance : Chance}

/-! ## Steps without the tables -/

theorem serverStep_withoutRows (live : Live) (action : Server.Action) :
    live.withoutRows.serverStep json cfg action =
      (live.serverStep json cfg action).map withoutRows := by
  rw [serverStep, serverStep, Option.map_map]
  rfl

theorem prompt_withoutRows (live : Live) (name : Nat) (method : Method)
    (params : Value) (header : Option String) :
    live.withoutRows.prompt json cfg name method params header =
      (live.prompt json cfg name method params header).map withoutRows := by
  unfold prompt
  cases Http.parseRequest json cfg params
      (Http.headerCaller cfg.callerIdentity header) with
  | error error => rfl
  | ok request => exact serverStep_withoutRows live _

theorem cancelTask_withoutRows (live : Live) (name : Nat) (params : Value) :
    live.withoutRows.cancelTask json cfg name params =
      (live.cancelTask json cfg name params).map withoutRows := by
  unfold cancelTask
  cases TaskIdParams.ofValue params with
  | none => rfl
  | some parsed => exact serverStep_withoutRows live _

theorem resetConversation_withoutRows (live : Live) (name : Nat)
    (params : Value) (header : Option String) :
    live.withoutRows.resetConversation json cfg name params header =
      (live.resetConversation json cfg name params header).map
        withoutRows := by
  unfold resetConversation
  cases Http.ConversationResetParams.ofValue params with
  | none => rfl
  | some parsed => exact serverStep_withoutRows live _

theorem wait_withoutRows (live : Live) (name : Nat) (configs : PushConfigs)
    (call : PushCall) :
    live.withoutRows.wait name configs.withoutRows call.withoutRows =
      (live.wait name configs call).withoutRows := by
  have sameCalls := Pool.map_put PushCall.withoutRows live.calls name call
  unfold wait withoutRows
  rw [sameCalls]
  rfl

theorem push_withoutRows
    {begins : PushConfigParams → PushConfigs → PushBegin}
    (blind : ∀ parsed,
      begins parsed live.pushConfigs.withoutRows =
        (begins parsed live.pushConfigs).withoutRows) :
    live.withoutRows.push json pushEnabled name params begins =
      (live.push json pushEnabled name params begins).map withoutRows := by
  have isConfigs : live.withoutRows.pushConfigs =
      live.pushConfigs.withoutRows := rfl
  have sameCall : live.withoutRows.calls name =
      (live.calls name).map PushCall.withoutRows := rfl
  unfold push
  rw [sameCall, isConfigs]
  cases live.calls name with
  | some call => rfl
  | none =>
      cases Http.pushParams json pushEnabled params with
      | error error => rfl
      | ok parsed =>
          simp only [Option.map_none, blind parsed]
          cases begins parsed live.pushConfigs with
          | answered result => rfl
          | waits configs call =>
              exact congrArg some (wait_withoutRows live name configs call)

theorem create_withoutRows
    (parsed : PushConfigParams) (now : Nat) (newId : String)
    (configs : PushConfigs) :
    Http.beginPushCreate parsed now newId configs.withoutRows =
      (Http.beginPushCreate parsed now newId configs).withoutRows := by
  unfold Http.beginPushCreate
  cases Http.pushConfigOf parsed newId with
  | error error => rfl
  | ok request =>
      obtain ⟨config, out⟩ := request
      have plain : configs.withoutRows.insertRow config now =
          some configs.withoutRows := rfl
      simp only [plain]
      cases written : configs.insertRow config now with
      | none => rfl
      | some target =>
          obtain ⟨registry, keys, _⟩ := PushStore.insertRow_some written
          have same : target.withoutRows = configs.withoutRows := by
            simp only [PushConfigs.withoutRows, registry, keys]
          simp only [PushBegin.withoutRows, PushCall.withoutRows, same]

theorem get_withoutRows
    (parsed : PushConfigParams) (scan : List String)
    (configs : PushConfigs) :
    Http.beginPushGet parsed scan configs.withoutRows =
      (Http.beginPushGet parsed scan configs).withoutRows := by
  have sameLists : ∀ configId,
      configs.withoutRows.getInner scan configId =
        configs.getInner scan configId := fun _ => rfl
  unfold Http.beginPushGet
  cases Http.requireConfigId parsed with
  | error error => rfl
  | ok configId =>
      simp only [sameLists]
      cases configs.getInner scan configId with
      | some config => rfl
      | none => rfl

theorem delete_withoutRows (parsed : PushConfigParams)
    (configs : PushConfigs) :
    Http.beginPushDelete parsed configs.withoutRows =
      (Http.beginPushDelete parsed configs).withoutRows := by
  unfold Http.beginPushDelete
  cases Http.requireConfigId parsed with
  | error error => rfl
  | ok configId => rfl

theorem request_withoutRows (live : Live) (name : Nat) (params : Value)
    (header : Option String) (chance : Chance) (method : RpcMethod) :
    live.withoutRows.request json cfg pushEnabled name params header chance
        method =
      (live.request json cfg pushEnabled name params header chance
        method).map withoutRows := by
  cases method with
  | sendMessage => exact prompt_withoutRows live name .send params header
  | sendStreamingMessage =>
      exact prompt_withoutRows live name .stream params header
  | subscribeToTask => rfl
  | getTask => rfl
  | cancelTask => exact cancelTask_withoutRows live name params
  | listTasks => rfl
  | createPushConfig =>
      exact push_withoutRows fun parsed => create_withoutRows parsed _ _ _
  | getPushConfig =>
      unfold request
      by_cases isScan : chance.scan.Perm live.keys
      · have sameScan : chance.scan.Perm live.withoutRows.keys := isScan
        simp only [isScan, sameScan, if_true]
        exact push_withoutRows fun parsed => get_withoutRows parsed _ _
      · have sameScan : ¬ chance.scan.Perm live.withoutRows.keys := isScan
        simp only [isScan, sameScan, if_false, Option.map_none]
  | listPushConfigs =>
      unfold request
      exact push_withoutRows fun _ => rfl
  | deletePushConfig =>
      exact push_withoutRows fun parsed => delete_withoutRows parsed _
  | reset => exact resetConversation_withoutRows live name params header
  | unknown other => rfl

theorem work_withoutRows (live : Live) (name : Nat) (env : Env) :
    live.withoutRows.work json cfg name env =
      (live.work json cfg name env).map withoutRows := by
  unfold work
  cases pending : live.pending name with
  | cons statement rest =>
      have same : live.withoutRows.pending name = statement :: rest := pending
      simp only [same, Option.map_none]
  | nil =>
      have same : live.withoutRows.pending name = [] := pending
      simp only [same]
      rw [serverStep_withoutRows, Option.map_map, Option.map_map]
      rfl

theorem execute_withoutRows (live : Live) (name now : Nat) :
    live.withoutRows.execute name now =
      (live.execute name now).map withoutRows := by
  unfold execute
  cases pending : live.pending name with
  | nil =>
      have same : live.withoutRows.pending name = [] := pending
      simp only [same, Option.map_none]
  | cons statement rest =>
      have same : live.withoutRows.pending name = statement :: rest := pending
      simp only [same, Option.map_some]
      rfl

theorem deleteConfig_withoutRows (live : Live) (name : Nat)
    (configId : String) :
    live.withoutRows.deleteConfig name configId =
      (live.deleteConfig name configId).map withoutRows := by
  have sameCall : live.withoutRows.calls name =
      (live.calls name).map PushCall.withoutRows := rfl
  unfold deleteConfig
  rw [sameCall]
  cases live.calls name with
  | some call => rfl
  | none =>
      exact congrArg some (wait_withoutRows live name
        (live.pushConfigs.deleteRow configId) (.delete configId none))

theorem settle_withoutRows (live : Live) (name : Nat)
    (answer : Option (Except JsonRpcError Value)) (configs : PushConfigs) :
    live.withoutRows.settle name (answer, configs.withoutRows) =
      (live.settle name (answer, configs)).withoutRows := by
  have removed := Pool.map_remove PushCall.withoutRows live.calls name
  cases answer with
  | none =>
      simp only [settle, withoutRows, removed]
      rfl
  | some result =>
      simp only [settle, answer, withoutRows, removed]
      rfl

/-- A call that is not answered in two ways. -/
theorem finish_withoutRows
    (joint : ¬ Diverges live (.finish name)) :
    live.withoutRows.finish name =
      (live.finish name).map withoutRows := by
  obtain ⟨notRefused, nothingLeft⟩ := not_or.mp joint
  have sameCall : live.withoutRows.calls name =
      (live.calls name).map PushCall.withoutRows := rfl
  cases waits : live.calls name with
  | none => simp only [finish, sameCall, waits, Option.map_none]
  | some call =>
      have sameEnd : call.withoutRows.finish live.withoutRows.pushConfigs =
          ((call.finish live.pushConfigs).1,
            (call.finish live.pushConfigs).2.withoutRows) := by
        cases call with
        | insert config out stored =>
            cases stored with
            | false => exact absurd ⟨name, config, out, rfl, waits⟩ notRefused
            | true => rfl
        | delete configId out => rfl
        | look configId =>
            have missed : live.pushConfigs.getRow configId = none := by
              rw [Option.eq_none_iff_forall_ne_some]
              intro config stored
              exact nothingLeft ⟨name, configId, config, rfl, waits, stored⟩
            simp only [PushCall.withoutRows, PushCall.finish, missed]
            rfl
      simp only [finish, sameCall, waits, Option.map_some, sameEnd]
      exact congrArg some (settle_withoutRows live name _ _)

theorem step_withoutRows
    {action : Action} (joint : ¬ Diverges live action) :
    step json cfg pushEnabled action live.withoutRows =
      (step json cfg pushEnabled action live).map withoutRows := by
  cases action with
  | request name method params header chance =>
      exact request_withoutRows live name params header chance _
  | sweep name => exact serverStep_withoutRows live _
  | work name env => exact work_withoutRows live name env
  | execute name now => exact execute_withoutRows live name now
  | deleteConfig name configId =>
      exact deleteConfig_withoutRows live name configId
  | finish name => exact finish_withoutRows joint
  | acp action => exact serverStep_withoutRows live _

/-! ## The answers so far -/

theorem answers_serverStep
    {action : Server.Action}
    (taken : live.serverStep json cfg action = some next) :
    next.answers = live.answers := by
  obtain ⟨server, _, rfl⟩ := Option.map_eq_some_iff.mp taken
  rfl

theorem answers_answer (live : Live) (name : Nat) (result : RpcAnswer) :
    live.answers <+: (live.answer name result).answers :=
  List.prefix_append _ _

theorem answers_push
    {begins : PushConfigParams → PushConfigs → PushBegin}
    (taken : live.push json pushEnabled name params begins = some next) :
    live.answers <+: next.answers := by
  unfold push at taken
  split at taken
  · cases taken
  · split at taken
    · cases taken
      exact answers_answer live name _
    · split at taken
      · cases taken
        exact answers_answer live name _
      · cases taken
        exact List.prefix_refl _

theorem answers_request
    {method : RpcMethod}
    (taken : live.request json cfg pushEnabled name params header chance
      method = some next) : live.answers <+: next.answers := by
  cases method with
  | sendMessage | sendStreamingMessage =>
      simp only [request, prompt] at taken
      split at taken
      · cases taken
        exact answers_answer live name _
      · rw [answers_serverStep taken]
  | cancelTask =>
      simp only [request, cancelTask] at taken
      split at taken
      · cases taken
        exact answers_answer live name _
      · rw [answers_serverStep taken]
  | reset =>
      simp only [request, resetConversation] at taken
      split at taken
      · cases taken
        exact answers_answer live name _
      · rw [answers_serverStep taken]
  | subscribeToTask | getTask | listTasks | unknown =>
      cases taken
      exact answers_answer live name _
  | createPushConfig | listPushConfigs | deletePushConfig =>
      simp only [request] at taken
      exact answers_push taken
  | getPushConfig =>
      simp only [request] at taken
      split at taken
      · exact answers_push taken
      · cases taken

theorem answers_settle (live : Live) (name : Nat)
    (done : Option (Except JsonRpcError Value) × PushConfigs) :
    (live.settle name done).answers =
      live.answers ++
        (done.1.map fun result => (name, RpcAnswer.of .push result)).toList := by
  obtain ⟨_ | result, configs⟩ := done
  · simp [settle, withPushConfigs]
  · simp [settle, withPushConfigs, answer]

/-- No step takes an answer back. -/
theorem answers_step
    {action : Action}
    (taken : step json cfg pushEnabled action live = some next) :
    live.answers <+: next.answers := by
  cases action with
  | request name method params header chance => exact answers_request taken
  | sweep name | acp action => rw [answers_serverStep taken]
  | work name env =>
      simp only [step, work] at taken
      split at taken
      · cases taken
      · obtain ⟨moved, isMove, rfl⟩ := Option.map_eq_some_iff.mp taken
        rw [answers_serverStep isMove]
  | execute name now =>
      simp only [step, execute] at taken
      split at taken <;> cases taken
      exact List.prefix_refl _
  | deleteConfig name configId =>
      simp only [step, deleteConfig] at taken
      split at taken <;> cases taken
      exact List.prefix_refl _
  | finish name =>
      obtain ⟨call, _, rfl⟩ := Option.map_eq_some_iff.mp taken
      rw [answers_settle]
      exact List.prefix_append _ _

theorem answers_attempt (schedule : List Action) (live : Live) :
    live.answers <+:
      (Machine.attempt (step json cfg pushEnabled) schedule live).answers := by
  induction schedule generalizing live with
  | nil => exact List.prefix_refl _
  | cons action rest inductionHypothesis =>
      have oneStep : live.answers <+:
          ((step json cfg pushEnabled action live).getD live).answers := by
        cases taken : step json cfg pushEnabled action live with
        | none => exact List.prefix_refl _
        | some next => exact answers_step taken
      exact oneStep.trans (inductionHypothesis _)

/-! ## A request that parts them -/

/-- What a call is answered. -/
theorem answered_of_finish
    {call : PushCall} {result : Except JsonRpcError Value}
    (waits : live.calls name = some call)
    (ends : (call.finish live.pushConfigs).1 = some result) :
    ∃ next, live.finish name = some next ∧
      next.answers = live.answers ++ [(name, .of .push result)] := by
  refine ⟨_, by rw [finish, waits, Option.map_some], ?_⟩
  rw [answers_settle, ends]
  rfl

/-- A call that answers one thing with the tables and another without. -/
theorem diverging_answers
    {action : Action} (diverges : Diverges live action) :
    ∃ name left right stored plain,
      left ≠ right ∧
        step json cfg pushEnabled action live = some stored ∧
          stored.answers = live.answers ++ [(name, left)] ∧
        step json cfg pushEnabled action live.withoutRows = some plain ∧
          plain.answers = live.answers ++ [(name, right)] := by
  obtain ⟨name, call, left, right, rfl, waits, here, there, different⟩ :
      ∃ name call left right,
        action = .finish name ∧ live.calls name = some call ∧
          (call.finish live.pushConfigs).1 = some left ∧
            (call.withoutRows.finish live.withoutRows.pushConfigs).1 =
              some right ∧
              RpcAnswer.of .push left ≠ RpcAnswer.of .push right := by
    rcases diverges with ⟨name, config, out, rfl, waits⟩ |
      ⟨name, configId, config, rfl, waits, stored⟩
    · exact ⟨name, _, _, _, rfl, waits, rfl, rfl, RpcAnswer.noConfusion⟩
    · refine ⟨name, _, _, _, rfl, waits, rfl, rfl, ?_⟩
      rw [stored]
      exact RpcAnswer.noConfusion
  have plainly : live.withoutRows.calls name = some call.withoutRows := by
    simp only [withoutRows, Pool.map, waits, Option.map_some]
  obtain ⟨stored, isStored, storedAnswers⟩ := answered_of_finish waits here
  obtain ⟨plain, isPlain, plainAnswers⟩ := answered_of_finish plainly there
  exact ⟨name, _, _, stored, plain, different, isStored, storedAnswers,
    isPlain, plainAnswers⟩

/-- Two lists that go on after different items differ. -/
theorem ne_of_prefix
    {α : Type} {front first second : List α} {left right : α}
    (different : left ≠ right) (isFirst : front ++ [left] <+: first)
    (isSecond : front ++ [right] <+: second) : first ≠ second := by
  intro isSame
  subst isSame
  have same : front ++ [left] = front ++ [right] :=
    (List.prefix_of_prefix_length_le isFirst isSecond (by simp)).eq_of_length
      (by simp)
  exact different (by simpa using same)

theorem results_eq_iff
    (live : Live) (schedule : List Action) :
    (Machine.attempt (step json cfg pushEnabled) schedule live).results =
        (Machine.attempt (step json cfg pushEnabled) schedule
          live.withoutRows).results ↔
      ¬ Machine.Attempts (step json cfg pushEnabled) Diverges schedule
        live := by
  induction schedule generalizing live with
  | nil => exact iff_of_true rfl id
  | cons action rest inductionHypothesis =>
      by_cases diverges : Diverges live action
      · refine iff_of_false ?_ fun never => never (.inl diverges)
        obtain ⟨name, left, right, stored, plain, different, isStored,
          storedAnswers, isPlain, plainAnswers⟩ :=
          @diverging_answers json cfg pushEnabled _ _ diverges
        intro same
        have sameAnswers := congrArg Results.answers same
        simp only [Machine.attempt, isStored, isPlain,
          Option.getD_some] at sameAnswers
        refine ne_of_prefix ?_ (storedAnswers ▸ answers_attempt rest stored)
          (plainAnswers ▸ answers_attempt rest plain) sameAnswers
        intro samePair
        exact different (Prod.mk.inj samePair).2
      · have commutes := @step_withoutRows json cfg pushEnabled _ _ diverges
        have sameNext : (step json cfg pushEnabled action
              live.withoutRows).getD live.withoutRows =
            ((step json cfg pushEnabled action live).getD
              live).withoutRows := by
          rw [commutes, Option.getD_map]
        simp only [Machine.attempt, Machine.Attempts, diverges, false_or,
          sameNext]
        exact inductionHypothesis _

/-- From an empty database, the results are those without one exactly when no
request is answered whose row was refused, or out of a row that it has not
found in the lists. -/
theorem persistence_is_projection_iff
    (json : SerdeJson) (cfg : ServeConfig) (pushEnabled : Bool)
    (maxActive idleWindow now : Nat) (schedule : List Action) :
    (Machine.attempt (step json cfg pushEnabled) schedule
        (start maxActive idleWindow now (some .empty))).results =
      (Machine.attempt (step json cfg pushEnabled) schedule
        (start maxActive idleWindow now none)).results ↔
      ¬ Machine.Attempts (step json cfg pushEnabled) Diverges schedule
        (start maxActive idleWindow now (some .empty)) :=
  results_eq_iff (start maxActive idleWindow now (some .empty)) schedule

/-! ## Requests one at a time -/

/-- A call of the registry begins while another one waits. -/
def Overlaps (live : Live) (action : Action) : Prop :=
  (∃ name call, live.calls name = some call) ∧
    ((∃ name configId, action = .deleteConfig name configId) ∨
      ∃ name method params header chance,
        action = .request name method params header chance ∧
          RpcMethod.ofString method ∈
            [.createPushConfig, .getPushConfig, .deletePushConfig])

/-- The rows are covered as soon as the call has come to its end, and it does
not find a row that it has not found in the lists. -/
structure Midway (configs : PushConfigs) (call : PushCall) : Prop where
  covered : (call.finish configs).2.Covered
  missed : ∀ configId, call = .look configId →
    ¬ PushStore.HasRow configs configId

/-- One call waits at most. -/
inductive InTurn (live : Live) : Prop
  | idle (free : ∀ name, live.calls name = none)
      (covered : live.pushConfigs.Covered)
  | waits (name : Nat) (call : PushCall)
      (waiting : live.calls name = some call)
      (alone : ∀ other, other ≠ name → live.calls other = none)
      (midway : Midway live.pushConfigs call)

/-- The rows of Tasks go, and nothing else. -/
theorem InTurn.shrink
    {rows : Option Rows} (inTurn : InTurn live)
    (sameCalls : next.calls = live.calls)
    (configs : next.pushConfigs = { live.pushConfigs with rows })
    (fewer : ∀ configId,
      PushStore.HasRow { live.pushConfigs with rows } configId →
        PushStore.HasRow live.pushConfigs configId) :
    InTurn next := by
  have kept : ∀ configs : PushConfigs,
      configs.rows = live.pushConfigs.rows → configs.Covered →
        PushConfigs.Covered { configs with rows } := by
    intro configs sameRows covered
    apply covered.shrink
    intro configId held
    obtain ⟨tables, row, isRows, member, isId⟩ :=
      fewer configId held
    exact ⟨tables, row, sameRows.trans isRows, member, isId⟩
  cases inTurn with
  | idle free covered =>
      refine .idle (by rw [sameCalls]; exact free) ?_
      rw [configs]
      exact kept _ rfl covered
  | waits name call waiting alone midway =>
      refine .waits name call (by rw [sameCalls]; exact waiting)
        (by rw [sameCalls]; exact alone) ?_
      rw [configs]
      refine ⟨?_, fun configId isLook held =>
        midway.missed configId isLook (fewer configId held)⟩
      cases call with
      | insert config out stored =>
          cases stored with
          | true =>
              exact kept (live.pushConfigs.insertInner config) rfl
                midway.covered
          | false => exact kept live.pushConfigs rfl midway.covered
      | delete configId out =>
          exact kept (live.pushConfigs.deleteInner configId) rfl
            midway.covered
      | look configId => exact kept live.pushConfigs rfl midway.covered

/-- Where nobody waits, a request may begin to. -/
theorem InTurn.wait
    {configs : PushConfigs} {call : PushCall}
    (free : ∀ other, live.calls other = none)
    (midway : Midway configs call) :
    InTurn (live.wait name configs call) := by
  refine .waits name call (Pool.put_self _ _ _) ?_ midway
  intro other different
  exact (Pool.put_other different).trans (free other)

theorem InTurn.answer
    (inTurn : InTurn live) (result : RpcAnswer) :
    InTurn (live.answer name result) := by
  cases inTurn with
  | idle free covered => exact .idle free covered
  | waits tested call waiting alone midway =>
      exact .waits tested call waiting alone midway

/-- A call that waits is the only one. -/
theorem InTurn.of_waits
    {call : PushCall} (inTurn : InTurn live)
    (waits : live.calls name = some call) :
    (∀ other, other ≠ name → live.calls other = none) ∧
      Midway live.pushConfigs call := by
  cases inTurn with
  | idle free =>
      rw [free name] at waits
      cases waits
  | waits tested found waiting alone midway =>
      have isName : tested = name := by
        by_contra different
        rw [alone name (Ne.symm different)] at waits
        cases waits
      subst isName
      rw [waiting] at waits
      cases waits
      exact ⟨alone, midway⟩

/-- The call that waits comes to its end. -/
theorem InTurn.finish
    (inTurn : InTurn live) (taken : live.finish name = some next) :
    InTurn next := by
  obtain ⟨call, waits, rfl⟩ := Option.map_eq_some_iff.mp taken
  obtain ⟨alone, midway⟩ := inTurn.of_waits waits
  have free : ∀ other, live.calls.remove name other = none := by
    intro other
    by_cases same : other = name
    · simp [Pool.remove, same]
    · simpa [Pool.remove, same] using alone other same
  have covered := midway.covered
  generalize call.finish live.pushConfigs = done at covered ⊢
  obtain ⟨_ | result, configs⟩ := done
  · exact .idle free covered
  · exact .idle free covered

/-- A request begins where nobody waits, or is answered. -/
theorem InTurn.push
    {begins : PushConfigParams → PushConfigs → PushBegin}
    (inTurn : InTurn live)
    (halfway : (∀ other, live.calls other = none) →
      live.pushConfigs.Covered → ∀ parsed configs call,
        begins parsed live.pushConfigs = .waits configs call →
          Midway configs call)
    (apart : (∃ other call, live.calls other = some call) →
      ∀ parsed configs call,
        begins parsed live.pushConfigs ≠ .waits configs call)
    (taken : live.push json pushEnabled name params begins = some next) :
    InTurn next := by
  unfold Live.push at taken
  split at taken
  · cases taken
  · split at taken
    · cases taken
      exact inTurn.answer _
    · rename_i parsed _
      split at taken
      · cases taken
        exact inTurn.answer _
      · rename_i configs call begun
        cases taken
        cases inTurn with
        | idle free covered =>
            exact .wait free (halfway free covered parsed configs call begun)
        | waits other waiter waiting =>
            exact absurd begun (apart ⟨other, waiter, waiting⟩ _ _ _)

/-- A row is refused to a Task that has none itself. -/
theorem refused_iff
    {parsed : PushConfigParams} {now : Nat} {newId : String}
    {configs : PushConfigs} {config : PushNotificationConfig} {out : Value} :
    Http.beginPushCreate parsed now newId configs =
        .waits configs (.insert config out false) ↔
      Http.pushConfigOf parsed newId = .ok (config, out) ∧
        ∃ rows, configs.rows = some rows ∧
          rows.hasTask config.taskId = false := by
  have noRow : ∀ config : PushNotificationConfig,
      configs.insertRow config now = none ↔
        ∃ rows, configs.rows = some rows ∧
          rows.hasTask config.taskId = false := by
    intro config
    unfold PushConfigs.insertRow
    cases configs.rows with
    | none => simp
    | some rows =>
        cases known : rows.hasTask config.taskId <;>
          simp [Rows.insertPushConfig, PushNotificationConfig.toRow, known]
  unfold Http.beginPushCreate
  cases Http.pushConfigOf parsed newId with
  | error error => simp
  | ok request =>
      obtain ⟨asked, answer⟩ := request
      cases written : configs.insertRow asked now with
      | none =>
          have isRefused := (noRow asked).mp written
          simp only [written, PushBegin.waits.injEq, PushCall.insert.injEq,
            Except.ok.injEq, Prod.mk.injEq, and_true, true_and]
          constructor
          · rintro ⟨rfl, rfl⟩
            exact ⟨⟨rfl, rfl⟩, isRefused⟩
          · rintro ⟨⟨rfl, rfl⟩, _⟩
            exact ⟨rfl, rfl⟩
      | some target =>
          simp only [written, PushBegin.waits.injEq, PushCall.insert.injEq,
            Except.ok.injEq, Prod.mk.injEq, Bool.true_eq_false, and_false,
            false_iff, not_and]
          rintro ⟨rfl, rfl⟩ refused
          rw [(noRow asked).mpr refused] at written
          cases written

theorem midway_create
    {parsed : PushConfigParams} {now : Nat} {newId : String}
    {configs begun : PushConfigs} {call : PushCall}
    (covered : configs.Covered)
    (begins : Http.beginPushCreate parsed now newId configs =
      .waits begun call) :
    Midway begun call := by
  unfold Http.beginPushCreate at begins
  split at begins
  · cases begins
  · rename_i config out _
    split at begins
    · cases begins
      exact ⟨covered, nofun⟩
    · rename_i isWritten
      cases begins
      have inserted : configs.insert config now =
          .ok (begun.insertInner config) := by
        rw [PushConfigs.insert_eq, isWritten]
      exact ⟨covered.insert inserted, nofun⟩

theorem midway_get
    {parsed : PushConfigParams} {scan : List String}
    {configs begun : PushConfigs} {call : PushCall}
    (covered : configs.Covered) (isScan : scan.Perm configs.keys)
    (begins : Http.beginPushGet parsed scan configs = .waits begun call) :
    Midway begun call := by
  unfold Http.beginPushGet at begins
  split at begins
  · cases begins
  · split at begins
    · cases begins
    · rename_i absent
      cases begins
      refine ⟨covered, ?_⟩
      intro configId isLook
      cases isLook
      exact covered.no_row isScan absent

theorem midway_delete
    {parsed : PushConfigParams} {configs begun : PushConfigs}
    {call : PushCall} (covered : configs.Covered)
    (begins : Http.beginPushDelete parsed configs = .waits begun call) :
    Midway begun call := by
  unfold Http.beginPushDelete at begins
  split at begins
  · cases begins
  · rename_i configId _
    cases begins
    exact ⟨covered.delete configId, nofun⟩

theorem pushConfigs_serverStep
    {action : Server.Action}
    (other : ∀ config configId,
      action ≠ .putConfig config ∧ action ≠ .deleteConfig configId)
    (taken : live.serverStep json cfg action = some next) :
    next.pushConfigs = live.pushConfigs ∧ next.calls = live.calls := by
  obtain ⟨server, moved, rfl⟩ := Option.map_eq_some_iff.mp taken
  have sameConfigs : server.shared.configs = live.server.shared.configs := by
    cases Server.step_steps moved with
    | keeps => rfl
    | spawns => rfl
    | prompts name env handler next after found isMove =>
        exact (Server.moves_jobs isMove).1
    | works name env thread next after found noHandler affected =>
        cases affected <;> rfl
    | drops => rfl
    | agent => rfl
    | configures _ configs asked =>
        rcases asked with ⟨config, rfl, _⟩ | ⟨configId, rfl, _⟩
        · exact absurd rfl (other config "").1
        · exact absurd rfl (other ⟨"", "", "", none, none, none, none⟩
            configId).2
  refine ⟨?_, rfl⟩
  rw [pushConfigs, sameConfigs, pushConfigs]

theorem InTurn.serverStep
    {action : Server.Action} (inTurn : InTurn live)
    (other : ∀ config configId,
      action ≠ .putConfig config ∧ action ≠ .deleteConfig configId)
    (taken : live.serverStep json cfg action = some next) :
    InTurn next := by
  obtain ⟨configs, calls⟩ := pushConfigs_serverStep other taken
  exact inTurn.shrink calls configs fun _ held => held

theorem InTurn.request
    {method : String} (inTurn : InTurn live)
    (notOver : ¬ Overlaps live (.request name method params header chance))
    (taken : live.request json cfg pushEnabled name params header chance
      (.ofString method) = some next) : InTurn next := by
  have alone : RpcMethod.ofString method ∈
        [.createPushConfig, .getPushConfig, .deletePushConfig] →
      ¬ ∃ other call, live.calls other = some call :=
    fun isPush waits => notOver
      ⟨waits, .inr ⟨name, method, params, header, chance, rfl, isPush⟩⟩
  generalize RpcMethod.ofString method = asked at taken alone
  cases asked with
  | sendMessage | sendStreamingMessage =>
      simp only [Live.request, prompt] at taken
      split at taken
      · cases taken
        exact inTurn.answer _
      · exact inTurn.serverStep (by simp) taken
  | cancelTask =>
      simp only [Live.request, cancelTask] at taken
      split at taken
      · cases taken
        exact inTurn.answer _
      · exact inTurn.serverStep (by simp) taken
  | reset =>
      simp only [Live.request, resetConversation] at taken
      split at taken
      · cases taken
        exact inTurn.answer _
      · exact inTurn.serverStep (by simp) taken
  | subscribeToTask | getTask | listTasks | unknown =>
      cases taken
      exact inTurn.answer _
  | createPushConfig =>
      refine inTurn.push ?_ ?_ taken
      · exact fun _ covered _ _ _ begins => midway_create covered begins
      · exact fun waits => absurd waits (alone (by simp))
  | getPushConfig =>
      simp only [Live.request] at taken
      split at taken
      · rename_i isScan
        refine inTurn.push ?_ ?_ taken
        · exact fun _ covered _ _ _ begins => midway_get covered isScan begins
        · exact fun waits => absurd waits (alone (by simp))
      · cases taken
  | listPushConfigs =>
      simp only [Live.request] at taken
      refine inTurn.push ?_ ?_ taken
      · exact fun _ _ _ _ _ begins => by cases begins
      · exact fun _ _ _ _ begins => by cases begins
  | deletePushConfig =>
      refine inTurn.push ?_ ?_ taken
      · exact fun _ covered _ _ _ begins => midway_delete covered begins
      · exact fun waits => absurd waits (alone (by simp))

theorem InTurn.step
    {action : Action} (inTurn : InTurn live)
    (notOver : ¬ Overlaps live action)
    (taken : step json cfg pushEnabled action live = some next) :
    InTurn next := by
  cases action with
  | request name method params header chance =>
      exact inTurn.request notOver taken
  | sweep name => exact inTurn.serverStep (by simp) taken
  | work name env =>
      simp only [Live.step, work] at taken
      split at taken
      · cases taken
      · obtain ⟨moved, isMove, rfl⟩ := Option.map_eq_some_iff.mp taken
        have movedOn := inTurn.serverStep (by simp) isMove
        exact movedOn.shrink rfl rfl fun _ held => held
  | execute name now =>
      simp only [Live.step, execute] at taken
      split at taken
      · cases taken
      · rename_i statement rest _
        cases taken
        refine inTurn.shrink rfl rfl ?_
        intro configId given
        rcases given with ⟨_, row, isRows, member, isId⟩
        obtain ⟨rows, wasRows, rfl⟩ := Option.map_eq_some_iff.mp isRows
        exact ⟨rows, row, wasRows, (Rows.mem_execute.mp member).1, isId⟩
  | deleteConfig name configId =>
      have alone : ¬ ∃ other call, live.calls other = some call :=
        fun waits => notOver ⟨waits, .inl ⟨name, configId, rfl⟩⟩
      simp only [Live.step, deleteConfig] at taken
      split at taken
      · cases taken
      · cases taken
        cases inTurn with
        | idle free covered =>
            exact .wait free ⟨covered.delete configId, nofun⟩
        | waits other call waiting => exact absurd ⟨other, call, waiting⟩ alone
  | finish name => exact inTurn.finish taken
  | acp action => exact inTurn.serverStep (by simp) taken

/-- A call that has waited alone does not find what the lists do not have. -/
theorem InTurn.no_leftover
    {action : Action} (inTurn : InTurn live) : ¬ Leftover live action := by
  intro leftover
  obtain ⟨name, configId, config, rfl, waits, stored⟩ := leftover
  obtain ⟨_, midway⟩ := inTurn.of_waits waits
  obtain ⟨row, found, _⟩ := Option.map_eq_some_iff.mp stored
  obtain ⟨rows, isRows, isRow⟩ := Option.bind_eq_some_iff.mp found
  exact midway.missed configId rfl
    (PushStore.hasRow_iff.mpr ⟨rows, isRows, by rw [isRow]; rfl⟩)

theorem diverges_in_turn_iff
    (inTurn : InTurn live) (schedule : List Action)
    (apart : ¬ Machine.Attempts (step json cfg pushEnabled) Overlaps schedule
      live) :
    Machine.Attempts (step json cfg pushEnabled) Diverges schedule live ↔
      Machine.Attempts (step json cfg pushEnabled) Refused schedule live := by
  induction schedule generalizing live with
  | nil => exact Iff.rfl
  | cons action rest inductionHypothesis =>
      obtain ⟨notOver, later⟩ := not_or.mp apart
      have goesOn : InTurn
          ((step json cfg pushEnabled action live).getD live) := by
        cases taken : step json cfg pushEnabled action live with
        | none => exact inTurn
        | some next => exact inTurn.step notOver taken
      exact or_congr (or_iff_left inTurn.no_leftover)
        (inductionHypothesis goesOn later)

/-- Where no two calls of the registry overlap, only a refused row tells the
tables from none. -/
theorem projection_of_turns_iff
    (json : SerdeJson) (cfg : ServeConfig) (pushEnabled : Bool)
    (maxActive idleWindow now : Nat) (schedule : List Action)
    (apart : ¬ Machine.Attempts (step json cfg pushEnabled) Overlaps schedule
      (start maxActive idleWindow now (some .empty))) :
    (Machine.attempt (step json cfg pushEnabled) schedule
        (start maxActive idleWindow now (some .empty))).results =
      (Machine.attempt (step json cfg pushEnabled) schedule
        (start maxActive idleWindow now none)).results ↔
      ¬ Machine.Attempts (step json cfg pushEnabled) Refused schedule
        (start maxActive idleWindow now (some .empty)) := by
  have covered : (PushConfigs.new (some .empty)).Covered := by
    apply PushConfigs.covered_new
    intro tables isEmpty
    cases isEmpty
    rfl
  have inTurn : InTurn (start maxActive idleWindow now (some .empty)) :=
    .idle (fun _ => rfl) covered
  rw [← diverges_in_turn_iff inTurn schedule apart]
  exact results_eq_iff _ schedule

/-! ## Requests that tell -/

def asks (name : Nat) (method : String) (params : Value) : List Action :=
  [.request name method params none { now := 1, newId := "x", scan := ["t"] },
    .finish name]

/-- A push configuration for Task `t`. -/
def creates (name : Nat) : List Action :=
  asks name "CreateTaskPushNotificationConfig"
    (.object
      [("taskId", .string "t"),
        ("pushNotificationConfig", .object
          [("id", .string "a"), ("url", .string "http://h")])])

theorem missing_row_fails_request :
    ¬ ∀ json cfg pushEnabled maxActive idleWindow now schedule,
        (Machine.attempt (step json cfg pushEnabled) schedule
            (start maxActive idleWindow now (some .empty))).results =
          (Machine.attempt (step json cfg pushEnabled) schedule
            (start maxActive idleWindow now none)).results := by
  intro claimed
  have same := congrArg Results.answers
    (claimed .constant Http.partitioned true 1 1 0 (creates 0))
  have differs : (Machine.attempt (step .constant Http.partitioned true)
        (creates 0) (start 1 1 0 (some .empty))).answers ≠
      (Machine.attempt (step .constant Http.partitioned true) (creates 0)
        (start 1 1 0 none)).answers := by
    decide +kernel
  exact differs same

/-- Task `t` gets its row and a configuration; its deletion is overtaken by
another request that creates it again. -/
def overlapping : List Action :=
  let work : Action := .work 0 { now := 1, taskId := ⟨"t"⟩ }
  let byId : Value := .object [("configId", .string "a")]
  [.request 0 "SendMessage" Server.plainParams none
      { now := 1, newId := "x", scan := [] },
    work, work, work, .acp .receive, .acp (.answer (.session "s")), work, work,
    .execute 0 1, work, work, work, work, .execute 0 1] ++
    creates 1 ++
    (asks 2 "DeleteTaskPushNotificationConfig" byId).take 1 ++
    creates 3 ++ [.finish 2] ++
    asks 4 "GetTaskPushNotificationConfig" byId

example :
    (Machine.attempt (step .constant Server.plainConfig true) overlapping
        (start 10 60 0 (some .empty))).answers ≠
      (Machine.attempt (step .constant Server.plainConfig true) overlapping
        (start 10 60 0 none)).answers := by
  decide +kernel

end Live

end A2AShim
