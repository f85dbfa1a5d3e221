import A2AShim.Serve.BridgeSteps

/-!
# What one step of a bridge call changes

A step of a `run_session` call touches the binding of its own Task only, and
changes it in one of five ways.  Results about many calls at once are proved
from these, not from the code of the call.
-/

namespace A2AShim

/-- A status update with `final = true`. -/
def SseFrame.isFinal : SseFrame → Bool
  | .event (.statusUpdate inner) => inner.final
  | .event (.artifactUpdate _) => false
  | .keepalive => false

namespace TaskRegistry

/-- The registries differ in the binding of one Task at most. -/
structure SameBut (id : TaskId) (registry updated : TaskRegistry) : Prop where
  order : updated.order = registry.order
  others : ∀ tested, tested ≠ id →
    updated.bindings tested = registry.bindings tested

variable {registry : TaskRegistry} {id : TaskId}

theorem SameBut.refl (id : TaskId) (registry : TaskRegistry) :
    SameBut id registry registry :=
  ⟨rfl, fun _ _ => rfl⟩

theorem sameBut_put (binding : TaskBinding) :
    SameBut id registry (registry.put id binding) :=
  ⟨rfl, fun _ different => put_other different⟩

theorem sameBut_onSink (act : SseSink → SseSink) :
    SameBut id registry (registry.onSink id act) := by
  refine ⟨?_, fun _ different => onSink_other different act⟩
  unfold onSink
  split <;> rfl

end TaskRegistry

namespace Bridge

/-- The final status has been stored, and not yet published. -/
def Call.isClosing (call : Call) : Bool :=
  match call.pc with
  | .recordFinal _ | .publishFinal _ => true
  | _ => false

/-- The final status a call is about to store, or has stored. -/
def Pc.final? : Pc → Option TaskStatus
  | .finish status | .recordFinal status | .publishFinal status => some status
  | _ => none

def Call.Sound (call : Call) : Prop :=
  ∀ status, call.pc.final? = some status → status.state.isTerminal = true

/-- The changes one step of a call can make to the binding of its Task. -/
inductive Effect (call : Call) (before : TaskBinding) (next : Call)
    (after : TaskBinding) : Prop where
  | keeps (sameState : after.state = before.state)
      (sameSink : after.sink = before.sink)
      (sameClosing : next.isClosing = call.isClosing)
  | shows (event : SseEvent)
      (notFinal : (SseFrame.event event).isFinal = false)
      (sameState : after.state = before.state)
      (published : after.sink = before.sink.publishEvent event)
      (sameClosing : next.isClosing = call.isClosing)
  | begins (wasSubmitted : before.state = .submitted)
      (isWorking : after.state = .working)
      (sameSink : after.sink = before.sink)
      (sameClosing : next.isClosing = call.isClosing)
  | decides (wasActive : before.state.isTerminal = false)
      (isFinished : after.state.isTerminal = true)
      (sameSink : after.sink = before.sink)
      (closing : next.isClosing = true)
  | closes (event : SseEvent)
      (isFinal : (SseFrame.event event).isFinal = true)
      (wasClosing : call.isClosing = true)
      (sameState : after.state = before.state)
      (published : after.sink = before.sink.publishFinal event)

variable {json : SerdeJson} {call next : Call}
variable {registry updated : TaskRegistry}

/-- A terminal Task keeps its state, and its sink gets one event at most. -/
theorem Effect.ended
    {before after : TaskBinding} (effect : Effect call before next after)
    (terminal : before.state.isTerminal = true) :
    after.state = before.state ∧
      ((after.sink = before.sink ∧ next.isClosing = call.isClosing) ∨
        (∃ event, (SseFrame.event event).isFinal = false ∧
          after.sink = before.sink.publishEvent event ∧
            next.isClosing = call.isClosing) ∨
          ∃ event, (SseFrame.event event).isFinal = true ∧
            call.isClosing = true ∧
              after.sink = before.sink.publishFinal event) := by
  cases effect with
  | keeps sameState sameSink sameClosing =>
      exact ⟨sameState, .inl ⟨sameSink, sameClosing⟩⟩
  | shows event notFinal sameState published sameClosing =>
      exact ⟨sameState,
        .inr (.inl ⟨event, notFinal, published, sameClosing⟩)⟩
  | begins wasSubmitted _ _ _ =>
      rw [wasSubmitted] at terminal
      cases terminal
  | decides wasActive _ _ _ =>
      rw [wasActive] at terminal
      cases terminal
  | closes event isFinal wasClosing sameState published =>
      exact ⟨sameState, .inr (.inr ⟨event, isFinal, wasClosing, published⟩)⟩

theorem onItem_not_closing (item : StreamItem) :
    Call.isClosing { call with pc := onItem json item } = false := by
  rcases item with error | (⟨_ | _⟩ | _) <;> rfl

theorem onItem_sound (item : StreamItem) :
    Call.Sound { call with pc := onItem json item } := by
  intro status carried
  rcases item with error | (⟨_ | _⟩ | reason)
  · cases carried
    rfl
  · cases carried
  · cases carried
  · cases carried
    cases reason <;> rfl

/-- What a step of a call with a binding, or without one, leaves. -/
structure Stepped (call : Call) (registry : TaskRegistry) (next : Call)
    (updated : TaskRegistry) : Prop where
  taskId : next.taskId = call.taskId
  frame : TaskRegistry.SameBut call.taskId registry updated
  known : ∀ before, registry.bindings call.taskId = some before →
    ∃ after, updated.bindings call.taskId = some after ∧
      Effect call before next after
  unknown : registry.bindings call.taskId = none →
    updated.bindings call.taskId = none ∧
      (next.isClosing = true → call.isClosing = true)

/-- The final status a call has stored, and not yet published. -/
def Call.stored? (call : Call) : Option TaskStatus :=
  match call.pc with
  | .recordFinal status | .publishFinal status => some status
  | _ => none

/-- The same changes, with the status a call carries. -/
inductive Act (call : Call) (before : TaskBinding) (next : Call)
    (after : TaskBinding) : Prop where
  | keeps (sameState : after.state = before.state)
      (sameSink : after.sink = before.sink)
      (sameStored : next.stored? = call.stored?)
  | shows (event : SseEvent)
      (notFinal : (SseFrame.event event).isFinal = false)
      (sameState : after.state = before.state)
      (published : after.sink = before.sink.publishEvent event)
      (sameStored : next.stored? = call.stored?)
  | begins (wasSubmitted : before.state = .submitted)
      (isWorking : after.state = .working)
      (sameSink : after.sink = before.sink)
      (sameStored : next.stored? = call.stored?)
  | decides (status : TaskStatus)
      (wasActive : before.state.isTerminal = false)
      (isFinished : status.state.isTerminal = true)
      (isStatus : after.state = status.state)
      (sameSink : after.sink = before.sink)
      (stored : next.stored? = some status)
  | closes (status : TaskStatus)
      (wasStored : call.stored? = some status)
      (done : next.stored? = none)
      (sameState : after.state = before.state)
      (published :
        after.sink =
          before.sink.publishFinal (.status call.taskId status true))

structure Acted (call : Call) (registry : TaskRegistry) (next : Call)
    (updated : TaskRegistry) : Prop where
  taskId : next.taskId = call.taskId
  frame : TaskRegistry.SameBut call.taskId registry updated
  known : ∀ before, registry.bindings call.taskId = some before →
    ∃ after, updated.bindings call.taskId = some after ∧
      Act call before next after
  unknown : registry.bindings call.taskId = none →
    updated.bindings call.taskId = none ∧
      ∀ status, next.stored? = some status → call.stored? = some status

theorem isClosing_eq (call : Call) :
    call.isClosing = call.stored?.isSome := by
  unfold Call.isClosing Call.stored?
  cases call.pc <;> rfl

theorem isClosing_congr
    (sameStored : next.stored? = call.stored?) :
    next.isClosing = call.isClosing := by
  rw [isClosing_eq, isClosing_eq, sameStored]

theorem Act.effect
    {before after : TaskBinding} (act : Act call before next after) :
    Effect call before next after := by
  cases act with
  | keeps sameState sameSink sameStored =>
      exact .keeps sameState sameSink (isClosing_congr sameStored)
  | shows event notFinal sameState published sameStored =>
      exact .shows event notFinal sameState published
        (isClosing_congr sameStored)
  | begins wasSubmitted isWorking sameSink sameStored =>
      exact .begins wasSubmitted isWorking sameSink
        (isClosing_congr sameStored)
  | decides status wasActive isFinished isStatus sameSink stored =>
      exact .decides wasActive (by rw [isStatus]; exact isFinished) sameSink
        (by rw [isClosing_eq, stored]; rfl)
  | closes status wasStored done sameState published =>
      exact .closes _ rfl (by rw [isClosing_eq, wasStored]; rfl) sameState
        published

theorem Acted.stepped
    (acted : Acted call registry next updated) :
    Stepped call registry next updated where
  taskId := acted.taskId
  frame := acted.frame
  known := by
    intro before found
    obtain ⟨after, foundAfter, act⟩ := acted.known before found
    exact ⟨after, foundAfter, act.effect⟩
  unknown := by
    intro absent
    obtain ⟨stillAbsent, subsides⟩ := acted.unknown absent
    refine ⟨stillAbsent, ?_⟩
    intro closing
    rw [isClosing_eq] at closing ⊢
    obtain ⟨status, stored⟩ := Option.isSome_iff_exists.mp closing
    rw [subsides status stored]
    rfl

/-- Steps that leave the registry alone. -/
theorem Acted.of_pc
    {pc : Pc} {firstSeen artifactSeen : Bool}
    (sameStored :
      Call.stored? { call with firstSeen, artifactSeen, pc } = call.stored?) :
    Acted call registry { call with firstSeen, artifactSeen, pc } registry
    where
  taskId := rfl
  frame := .refl _ _
  known := fun before found => ⟨before, found, .keeps rfl rfl sameStored⟩
  unknown := fun absent => ⟨absent, fun _ stored => sameStored ▸ stored⟩

/-- Steps that use the sink. -/
theorem Acted.of_onSink
    {pc : Pc} (change : SseSink → SseSink)
    (acts : ∀ before : TaskBinding,
      Act call before { call with pc }
        { before with sink := change before.sink })
    (subsides : ∀ status,
      Call.stored? { call with pc } = some status →
        call.stored? = some status) :
    Acted call registry { call with pc }
      (registry.onSink call.taskId change) where
  taskId := rfl
  frame := TaskRegistry.sameBut_onSink _
  known := fun before found =>
    ⟨_, TaskRegistry.onSink_self found change, acts before⟩
  unknown := by
    intro absent
    have unchanged : registry.onSink call.taskId change = registry := by
      simp [TaskRegistry.onSink, absent]
    rw [unchanged]
    exact ⟨absent, subsides⟩

/-- Steps that publish an event which is not final. -/
theorem Acted.of_publishEvent
    {pc : Pc} (event : SseEvent)
    (notFinal : (SseFrame.event event).isFinal = false)
    (sameStored : Call.stored? { call with pc } = call.stored?) :
    Acted call registry { call with pc }
      (registry.onSink call.taskId (SseSink.publishEvent event)) :=
  .of_onSink _ (fun _ => .shows event notFinal rfl rfl sameStored)
    fun _ stored => sameStored ▸ stored

/-- Steps that put the Task's binding anew. -/
theorem Acted.of_put
    {binding changed : TaskBinding} {pc : Pc} {artifactSeen : Bool}
    (found : registry.bindings call.taskId = some binding)
    (act : Act call binding { call with artifactSeen, pc } changed) :
    Acted call registry { call with artifactSeen, pc }
      (registry.put call.taskId changed) where
  taskId := rfl
  frame := TaskRegistry.sameBut_put _
  known := by
    intro before foundBefore
    rw [found] at foundBefore
    cases foundBefore
    exact ⟨changed, TaskRegistry.put_self _ _ _, act⟩
  unknown := by
    intro absent
    rw [found] at absent
    cases absent

theorem stored?_of_pc
    {pc : Pc} (atPc : call.pc = pc) :
    call.stored? = Call.stored? { call with pc } := by
  cases call
  cases atPc
  rfl

theorem onItem_stored? (item : StreamItem) :
    Call.stored? { call with pc := onItem json item } = none := by
  rcases item with error | (⟨_ | _⟩ | _) <;> rfl

theorem work_acted
    (sound : call.Sound)
    (taken : call.work json registry = some (next, updated)) :
    Acted call registry next updated := by
  cases work_works taken with
  | lost atPc | starts binding atPc | answered atPc
  | unmarked item error atPc | recordsWorking item atPc
  | unanswered part rest error atPc | undecided status error atPc =>
      have nothing : call.stored? = none := stored?_of_pc atPc
      exact .of_pc (by rw [nothing]; rfl)
  | marks item binding atPc found legal =>
      have nothing : call.stored? = none := stored?_of_pc atPc
      have wasSubmitted : binding.state = .submitted :=
        (TaskRegistry.isLegal_to_working_iff _).mp legal
      exact .of_put found
        (.begins wasSubmitted rfl rfl (by rw [nothing]; rfl))
  | publishesWorking item atPc =>
      have nothing : call.stored? = none := stored?_of_pc atPc
      exact .of_publishEvent _ rfl
        (by rw [nothing]; exact onItem_stored? item)
  | upserts part rest binding artifacts atPc found =>
      have nothing : call.stored? = none := stored?_of_pc atPc
      exact .of_put found (.keeps rfl rfl (by rw [nothing]; rfl))
  | publishesArtifact part append rest atPc =>
      have nothing : call.stored? = none := stored?_of_pc atPc
      exact .of_publishEvent _ rfl (by rw [nothing]; rfl)
  | decides status binding atPc found legal =>
      have wasActive : binding.state.isTerminal = false := by
        by_contra terminal
        have illegal :=
          TaskRegistry.isLegal_from_terminal (by simpa using terminal)
            status.state
        rw [illegal] at legal
        cases legal
      have isFinished : status.state.isTerminal = true :=
        sound status (by rw [atPc]; rfl)
      exact .of_put found
        (.decides status wasActive isFinished rfl rfl rfl)
  | recordsFinal status atPc =>
      have stored : call.stored? = some status := stored?_of_pc atPc
      exact .of_pc (by rw [stored]; rfl)
  | publishesFinal status atPc =>
      have stored : call.stored? = some status := stored?_of_pc atPc
      exact .of_onSink _ (fun _ => .closes status stored rfl rfl rfl)
        fun _ impossible => by cases impossible

theorem polled_acted
    {item : Option StreamItem} (atNext : call.pc = .next) :
    Acted call registry (call.polled json item) registry := by
  have nothing : call.stored? = none := stored?_of_pc atNext
  unfold Call.polled
  split
  · exact .of_pc (by rw [nothing]; rfl)
  · split
    · exact .of_pc (by rw [nothing]; exact onItem_stored? _)
    · exact .of_pc (by rw [nothing]; rfl)

theorem step_acted
    {action : Action} (sound : call.Sound)
    (taken : step json action (call, registry) = some (next, updated)) :
    Acted call registry next updated := by
  cases action with
  | poll item =>
      obtain ⟨atNext, rfl, rfl⟩ := poll_some taken
      exact polled_acted atNext
  | work => exact work_acted sound taken

theorem work_stepped
    (sound : call.Sound)
    (taken : call.work json registry = some (next, updated)) :
    Stepped call registry next updated :=
  (work_acted sound taken).stepped

theorem step_stepped
    {action : Action} (sound : call.Sound)
    (taken : step json action (call, registry) = some (next, updated)) :
    Stepped call registry next updated :=
  (step_acted sound taken).stepped

/-- A call without a final status. -/
theorem sound_of_none (unset : call.pc.final? = none) : call.Sound := by
  intro status carried
  rw [unset] at carried
  cases carried

/-- Only `onItem` and the end of the stream bring in a final status. -/
theorem work_sound
    (sound : call.Sound)
    (taken : call.work json registry = some (next, updated)) :
    next.Sound := by
  cases work_works taken with
  | publishesWorking item => exact onItem_sound item
  | decides status binding atPc =>
      intro carried isCarried
      apply sound carried
      rw [atPc]
      exact isCarried
  | recordsFinal status atPc =>
      intro carried isCarried
      apply sound carried
      rw [atPc]
      exact isCarried
  | _ => exact sound_of_none rfl

theorem polled_sound (item : Option StreamItem) :
    (call.polled json item).Sound := by
  unfold Call.polled
  split
  · intro carried isCarried
    cases isCarried
    rfl
  · split
    · exact onItem_sound _
    · intro carried isCarried
      cases isCarried

theorem step_sound
    {action : Action} (sound : call.Sound)
    (taken : step json action (call, registry) = some (next, updated)) :
    next.Sound := by
  cases action with
  | poll item =>
      obtain ⟨_, rfl, rfl⟩ := poll_some taken
      exact polled_sound item
  | work => exact work_sound sound taken

end Bridge

end A2AShim
