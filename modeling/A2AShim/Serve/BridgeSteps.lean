import A2AShim.Serve.Bridge

/-!
# What one step of a bridge call can do

One constructor for each branch of the code between two polls of the stream,
with the answer of the registry that leads into it.
-/

namespace A2AShim

/-- The conversation key and the session a Task was created with. -/
def TaskBinding.place (binding : TaskBinding) : String × SessionId :=
  (binding.conversationId, binding.acpSessionId)

namespace Bridge

/-- The steps of a call between two polls, one constructor for each branch. -/
inductive Works (json : SerdeJson) (call : Call) (registry : TaskRegistry) :
    Call → TaskRegistry → Prop
  | lost (atPc : call.pc = .start)
      (absent : registry.bindings call.taskId = none) :
      Works json call registry
        { call with pc := .returned (.error .notFound) } registry
  | starts (binding : TaskBinding) (atPc : call.pc = .start)
      (found : registry.bindings call.taskId = some binding) :
      Works json call registry { call with pc := .next } registry
  | unmarked (item : StreamItem) (error : TransitionError)
      (atPc : call.pc = .markWorking item)
      (illegal : ∀ binding,
        registry.bindings call.taskId = some binding →
          TaskRegistry.isLegal binding.state .working = false) :
      Works json call registry
        { call with pc := .returned (.error (.transition error)) } registry
  | marks (item : StreamItem) (binding : TaskBinding)
      (atPc : call.pc = .markWorking item)
      (found : registry.bindings call.taskId = some binding)
      (legal : TaskRegistry.isLegal binding.state .working = true) :
      Works json call registry { call with pc := .recordWorking item }
        (registry.put call.taskId { binding with state := .working })
  | recordsWorking (item : StreamItem)
      (atPc : call.pc = .recordWorking item) :
      Works json call registry { call with pc := .publishWorking item }
        registry
  | publishesWorking (item : StreamItem)
      (atPc : call.pc = .publishWorking item) :
      Works json call registry { call with pc := onItem json item }
        (registry.onSink call.taskId
          (SseSink.publishEvent (workingEvent call.taskId)))
  | answered (atPc : call.pc = .answer []) :
      Works json call registry { call with pc := .next } registry
  | unanswered (part : Part) (rest : List Part) (error : TransitionError)
      (atPc : call.pc = .answer (part :: rest))
      (absent : registry.bindings call.taskId = none) :
      Works json call registry
        { call with
          artifactSeen := true
          pc := .returned (.error (.transition error)) }
        registry
  | upserts (part : Part) (rest : List Part) (binding : TaskBinding)
      (artifacts : List Artifact)
      (atPc : call.pc = .answer (part :: rest))
      (found : registry.bindings call.taskId = some binding) :
      Works json call registry
        { call with
          artifactSeen := true
          pc := .publishArtifact part call.artifactSeen rest }
        (registry.put call.taskId { binding with artifacts })
  | publishesArtifact (part : Part) (append : Bool) (rest : List Part)
      (atPc : call.pc = .publishArtifact part append rest) :
      Works json call registry { call with pc := .answer rest }
        (registry.onSink call.taskId
          (SseSink.publishEvent
            (.artifact call.taskId (answerArtifact part) append)))
  | undecided (status : TaskStatus) (error : TransitionError)
      (atPc : call.pc = .finish status)
      (illegal : ∀ binding,
        registry.bindings call.taskId = some binding →
          TaskRegistry.isLegal binding.state status.state = false) :
      Works json call registry
        { call with pc := .returned (.error (.transition error)) } registry
  | decides (status : TaskStatus) (binding : TaskBinding)
      (atPc : call.pc = .finish status)
      (found : registry.bindings call.taskId = some binding)
      (legal : TaskRegistry.isLegal binding.state status.state = true) :
      Works json call registry { call with pc := .recordFinal status }
        (registry.put call.taskId { binding with state := status.state })
  | recordsFinal (status : TaskStatus) (atPc : call.pc = .recordFinal status) :
      Works json call registry { call with pc := .publishFinal status }
        registry
  | publishesFinal (status : TaskStatus)
      (atPc : call.pc = .publishFinal status) :
      Works json call registry { call with pc := .returned (.ok ()) }
        (registry.onSink call.taskId
          (SseSink.publishFinal (.status call.taskId status true)))

theorem work_works
    {json : SerdeJson} {call next : Call} {registry updated : TaskRegistry}
    (taken : call.work json registry = some (next, updated)) :
    Works json call registry next updated := by
  unfold Call.work at taken
  cases atPc : call.pc with
  | start =>
      simp only [atPc] at taken
      split at taken
      · rename_i absent
        cases taken
        exact .lost atPc (Option.map_eq_none_iff.mp absent)
      · rename_i sink found
        obtain ⟨binding, known, _⟩ := Option.map_eq_some_iff.mp found
        cases taken
        exact .starts binding atPc known
  | next => simp [atPc] at taken
  | markWorking item =>
      simp only [atPc] at taken
      split at taken
      · rename_i error refused
        cases taken
        exact .unmarked item error atPc fun binding found =>
          TaskRegistry.illegal_of_transition refused found
      · rename_i stored moved
        obtain ⟨binding, found, legal, rfl⟩ :=
          TaskRegistry.transition_ok_iff.mp moved
        cases taken
        exact .marks item binding atPc found legal
  | recordWorking item =>
      simp only [atPc] at taken
      cases taken
      exact .recordsWorking item atPc
  | publishWorking item =>
      simp only [atPc] at taken
      cases taken
      exact .publishesWorking item atPc
  | answer parts =>
      cases parts with
      | nil =>
          simp only [atPc] at taken
          cases taken
          exact .answered atPc
      | cons part rest =>
          simp only [atPc] at taken
          split at taken
          · rename_i error refused
            cases taken
            exact .unanswered part rest error atPc
              (TaskRegistry.absent_of_upsertArtifact refused)
          · rename_i merged stored upserted
            obtain ⟨binding, found, isResult⟩ :=
              TaskRegistry.upsertArtifact_ok_iff.mp upserted
            cases isResult
            cases taken
            exact .upserts part rest binding _ atPc found
  | publishArtifact part append rest =>
      simp only [atPc] at taken
      cases taken
      exact .publishesArtifact part append rest atPc
  | finish status =>
      simp only [atPc] at taken
      split at taken
      · rename_i error refused
        cases taken
        exact .undecided status error atPc fun binding found =>
          TaskRegistry.illegal_of_transition refused found
      · rename_i stored moved
        obtain ⟨binding, found, legal, rfl⟩ :=
          TaskRegistry.transition_ok_iff.mp moved
        cases taken
        exact .decides status binding atPc found legal
  | recordFinal status =>
      simp only [atPc] at taken
      cases taken
      exact .recordsFinal status atPc
  | publishFinal status =>
      simp only [atPc] at taken
      cases taken
      exact .publishesFinal status atPc
  | returned result => simp [atPc] at taken

/-- A call leaves the bindings of other Tasks alone. -/
theorem work_frame
    {json : SerdeJson} {call next : Call} {registry updated : TaskRegistry}
    {id : TaskId}
    (taken : call.work json registry = some (next, updated))
    (different : id ≠ call.taskId) :
    updated.bindings id = registry.bindings id := by
  cases work_works taken with
  | marks | upserts | decides => exact TaskRegistry.put_other different
  | publishesWorking | publishesArtifact | publishesFinal =>
      exact TaskRegistry.onSink_other different _
  | _ => rfl

/-- No step of a call moves its Task to another conversation or session. -/
theorem work_place
    {json : SerdeJson} {call next : Call} {registry updated : TaskRegistry}
    {binding : TaskBinding}
    (found : registry.bindings call.taskId = some binding)
    (taken : call.work json registry = some (next, updated)) :
    ∃ after, updated.bindings call.taskId = some after ∧
      after.place = binding.place := by
  have isOwn : ∀ {other : TaskBinding},
      registry.bindings call.taskId = some other → other = binding := by
    intro other foundOther
    rw [found] at foundOther
    exact (Option.some.inj foundOther).symm
  cases work_works taken with
  | marks item other atPc foundOther =>
      cases isOwn foundOther
      exact ⟨_, TaskRegistry.put_self _ _ _, rfl⟩
  | upserts part rest other artifacts atPc foundOther =>
      cases isOwn foundOther
      exact ⟨_, TaskRegistry.put_self _ _ _, rfl⟩
  | decides status other atPc foundOther =>
      cases isOwn foundOther
      exact ⟨_, TaskRegistry.put_self _ _ _, rfl⟩
  | publishesWorking | publishesArtifact | publishesFinal =>
      exact ⟨_, TaskRegistry.onSink_self found _, rfl⟩
  | _ => exact ⟨binding, found, rfl⟩

theorem poll_some
    {json : SerdeJson} {call next : Call} {registry updated : TaskRegistry}
    {item : Option StreamItem}
    (taken :
      step json (.poll item) (call, registry) = some (next, updated)) :
    call.pc = .next ∧ next = call.polled json item ∧ updated = registry := by
  by_cases atNext : call.pc = .next
  · simp only [step, atNext, if_true, Option.some.injEq,
      Prod.mk.injEq] at taken
    exact ⟨atNext, taken.1.symm, taken.2.symm⟩
  · simp [step, atNext] at taken

theorem step_frame
    {json : SerdeJson} {call next : Call} {registry updated : TaskRegistry}
    {action : Action} {id : TaskId}
    (taken : step json action (call, registry) = some (next, updated))
    (different : id ≠ call.taskId) :
    updated.bindings id = registry.bindings id := by
  cases action with
  | poll item =>
      obtain ⟨_, _, rfl⟩ := poll_some taken
      rfl
  | work => exact work_frame taken different

end Bridge

end A2AShim
