import A2AShim.Serve.TaskWriters

/-!
# Finished Tasks

`transition` and `cancel` look at the state of the Task, `upsert_artifact`
does not.  So a finished Task stays as it is until a `run_session` call comes
back with a part of the answer.
-/

namespace A2AShim

def SseFrame.isArtifact : SseFrame → Bool
  | .event (.artifactUpdate _) => true
  | .event (.statusUpdate _) => false
  | .keepalive => false

/-- The artifact updates sent so far. -/
def SseSink.artifactFrames (sink : SseSink) : List SseFrame :=
  sink.sent.filter SseFrame.isArtifact

theorem SseSink.artifactFrames_publish
    {frame : SseFrame} (sink : SseSink) (other : frame.isArtifact = false) :
    (sink.publish frame).artifactFrames = sink.artifactFrames := by
  unfold SseSink.publish
  split
  · simp [SseSink.artifactFrames, other]
  · rfl

namespace TaskRegistry

/-- The parts of all artifacts together. -/
def partCount (artifacts : List Artifact) : Nat :=
  (artifacts.map fun artifact => artifact.parts.length).sum

theorem mergeArtifact_partCount
    {artifactId : String} {parts : List Part} {artifacts : List Artifact}
    {result : Artifact × List Artifact}
    (merged : mergeArtifact artifactId parts artifacts = some result) :
    partCount result.2 = partCount artifacts + parts.length := by
  induction artifacts generalizing result with
  | nil => cases merged
  | cons existing rest inductionHypothesis =>
      by_cases named : existing.artifactId = some artifactId
      · simp only [mergeArtifact, named, if_true, Option.some.injEq] at merged
        subst merged
        simp only [partCount, List.map_cons, List.sum_cons,
          List.length_append]
        omega
      · simp only [mergeArtifact, named, if_false,
          Option.map_eq_some_iff] at merged
        rcases merged with ⟨others, mergedRest, rfl⟩
        have counted := inductionHypothesis mergedRest
        simp only [partCount, List.map_cons, List.sum_cons] at counted ⊢
        omega

/-- Every part counts, merged or not. -/
theorem upsertInto_partCount
    (artifacts : List Artifact) (artifact : Artifact) :
    partCount (upsertInto artifacts artifact).2 =
      partCount artifacts + artifact.parts.length := by
  unfold upsertInto
  cases merged :
      artifact.artifactId.bind fun artifactId =>
        mergeArtifact artifactId artifact.parts artifacts with
  | none => simp [partCount]
  | some result =>
      obtain ⟨artifactId, _, mergedAt⟩ := Option.bind_eq_some_iff.mp merged
      exact mergeArtifact_partCount mergedAt

end TaskRegistry

namespace TaskWriters

variable (json : SerdeJson)

/-- From any point of the trace at which the Task is finished to any later one,
its snapshot stays the same, and no artifact update is sent. -/
def Frozen (id : TaskId) (trace : List Action) : Prop :=
  ∀ before between rest earlier later binding,
    trace = before ++ between ++ rest →
      Machine.exec (step json) before World.start = some earlier →
        Machine.exec (step json) between earlier = some later →
          earlier.registry.bindings id = some binding →
            binding.state.isTerminal = true →
              later.registry.snapshot id = earlier.registry.snapshot id ∧
                (later.registry.sink id).map SseSink.artifactFrames =
                  (earlier.registry.sink id).map SseSink.artifactFrames

/-- A call comes back to a finished Task with a part to store, or to show. -/
def AnswersFinished (id : TaskId) (world : World) (action : Action) : Prop :=
  ∃ name call binding,
    action = .bridge name .work ∧ world.calls name = some call ∧
      call.taskId = id ∧ world.registry.bindings id = some binding ∧
        binding.state.isTerminal = true ∧
          ((∃ part rest, call.pc = .answer (part :: rest)) ∨
            (∃ part append rest, call.pc = .publishArtifact part append rest) ∧
              binding.sink.isOpen = true)

/-- What clients see of a Task is the same. -/
def SameView (before after : TaskBinding) : Prop :=
  after.conversationId = before.conversationId ∧
    after.state = before.state ∧ after.history = before.history ∧
      after.artifacts = before.artifacts ∧
        after.sink.artifactFrames = before.sink.artifactFrames

variable {json} {id : TaskId} {world target : World}

theorem SameView.refl (binding : TaskBinding) : SameView binding binding :=
  ⟨rfl, rfl, rfl, rfl, rfl⟩

theorem SameView.trans
    {before middle after : TaskBinding}
    (first : SameView before middle) (second : SameView middle after) :
    SameView before after := by
  obtain ⟨conversation, state, history, artifacts, frames⟩ := second
  exact ⟨conversation.trans first.1, state.trans first.2.1,
    history.trans first.2.2.1, artifacts.trans first.2.2.2.1,
    frames.trans first.2.2.2.2⟩

theorem sameView_of_publish
    {binding : TaskBinding} {frame : SseFrame}
    (other : frame.isArtifact = false) :
    SameView binding
      { binding with sink := binding.sink.publish frame } :=
  ⟨rfl, rfl, rfl, rfl, SseSink.artifactFrames_publish binding.sink other⟩

theorem sameView_of_closed
    {binding : TaskBinding} (frame : SseFrame)
    (closed : binding.sink.isOpen = false) :
    SameView binding
      { binding with sink := binding.sink.publish frame } := by
  rw [SseSink.publish_of_closed frame closed]
  exact .refl binding

/-! ## Steps that leave a finished Task alone -/

section Calls

variable {call next : Bridge.Call} {registry updated : TaskRegistry}
variable {binding : TaskBinding}

theorem not_legal_of_terminal
    {toState : TaskState} (terminal : binding.state.isTerminal = true) :
    TaskRegistry.isLegal binding.state toState ≠ true := by
  rw [TaskRegistry.isLegal_from_terminal terminal]
  simp

/-- A step of a call that has no part of the answer at hand. -/
theorem work_keeps_view
    (taken : call.work json registry = some (next, updated))
    (found : registry.bindings call.taskId = some binding)
    (terminal : binding.state.isTerminal = true)
    (noPart : ∀ part rest, call.pc ≠ .answer (part :: rest))
    (noFrame : ∀ part append rest,
      call.pc = .publishArtifact part append rest →
        binding.sink.isOpen = false) :
    ∃ after, updated.bindings call.taskId = some after ∧
      SameView binding after := by
  cases Bridge.work_works taken with
  | lost atPc | starts known atPc | answered atPc
  | unmarked item error atPc | recordsWorking item atPc
  | unanswered part rest error atPc | undecided status error atPc
  | recordsFinal status atPc =>
      exact ⟨binding, found, .refl binding⟩
  | marks item known atPc foundKnown legal =>
      rw [found] at foundKnown
      cases foundKnown
      exact absurd legal (not_legal_of_terminal terminal)
  | decides status known atPc foundKnown legal =>
      rw [found] at foundKnown
      cases foundKnown
      exact absurd legal (not_legal_of_terminal terminal)
  | upserts part rest known artifacts atPc =>
      exact absurd atPc (noPart part rest)
  | publishesWorking item atPc =>
      exact ⟨_, TaskRegistry.onSink_self found _, sameView_of_publish rfl⟩
  | publishesArtifact part append rest atPc =>
      exact ⟨_, TaskRegistry.onSink_self found _,
        sameView_of_closed _ (noFrame part append rest atPc)⟩
  | publishesFinal status atPc =>
      refine ⟨_, TaskRegistry.onSink_self found _, rfl, rfl, rfl, rfl, ?_⟩
      exact SseSink.artifactFrames_publish binding.sink rfl

end Calls

theorem step_keeps_view
    {action : Action} {binding : TaskBinding}
    (taken : step json action world = some target)
    (found : world.registry.bindings id = some binding)
    (terminal : binding.state.isTerminal = true)
    (quiet : ¬ AnswersFinished id world action) :
    ∃ after, target.registry.bindings id = some after ∧
      SameView binding after := by
  have unchanged :
      target.registry.bindings id = world.registry.bindings id →
        ∃ after, target.registry.bindings id = some after ∧
          SameView binding after :=
    fun same => ⟨binding, same.trans found, .refl binding⟩
  have afterCancel : ∀ cancelled,
      (world.cancel cancelled).registry.bindings id =
        world.registry.bindings id := by
    intro cancelled
    by_cases own : cancelled = id
    · subst own
      have inactive :
          ∀ known, world.registry.bindings cancelled = some known →
            known.state.isTerminal = true := by
        intro known foundKnown
        rw [found] at foundKnown
        cases foundKnown
        exact terminal
      rw [cancel_of_inactive inactive]
    · exact cancel_other (Ne.symm own)
  cases step_steps taken with
  | creates created conversation session unknown =>
      apply unchanged
      apply TaskRegistry.create_other
      intro same
      subst same
      rw [unknown] at found
      cases found
  | begins | lists => exact unchanged rfl
  | bridges name action call next updated foundCall stepped =>
      by_cases own : call.taskId = id
      · subst own
        cases action with
        | poll item =>
            apply unchanged
            obtain ⟨_, _, rfl⟩ := Bridge.poll_some stepped
            rfl
        | work =>
            apply work_keeps_view stepped found terminal
            · intro part rest atPc
              exact quiet ⟨name, call, binding, rfl, foundCall, rfl, found,
                terminal, .inl ⟨part, rest, atPc⟩⟩
            · intro part append rest atPc
              cases opened : binding.sink.isOpen with
              | false => rfl
              | true =>
                  exact absurd ⟨name, call, binding, rfl, foundCall, rfl,
                    found, terminal, .inr ⟨⟨part, append, rest, atPc⟩, opened⟩⟩
                    quiet
      · exact unchanged (Bridge.step_frame stepped (Ne.symm own))
  | cancels cancelled => exact unchanged (afterCancel cancelled)
  | cancelsNext name cancelled rest listed =>
      exact unchanged (afterCancel cancelled)

/-! ## Steps that change a finished Task -/

theorem step_changes_view
    {action : Action} {binding : TaskBinding}
    (taken : step json action world = some target)
    (found : world.registry.bindings id = some binding)
    (answers : AnswersFinished id world action) :
    ∃ after, target.registry.bindings id = some after ∧
      (after.artifacts ≠ binding.artifacts ∨
        after.sink.artifactFrames ≠ binding.sink.artifactFrames) := by
  rcases answers with
    ⟨name, call, known, rfl, foundCall, rfl, foundKnown, _, atPart⟩
  have sameBinding := found.symm.trans foundKnown
  cases sameBinding
  simp only [step, Option.bind_eq_some_iff, Option.map_eq_some_iff] at taken
  rcases taken with ⟨stepping, foundStepping, ⟨next, updated⟩, stepped, rfl⟩
  rw [foundCall] at foundStepping
  cases foundStepping
  simp only [Bridge.step, Bridge.Call.work] at stepped
  rcases atPart with ⟨part, rest, atPc⟩ | ⟨⟨part, append, rest, atPc⟩, opened⟩
  · have stored :
        world.registry.upsertArtifact call.taskId
            (Bridge.answerArtifact part) =
          .ok
            ((TaskRegistry.upsertInto binding.artifacts
                (Bridge.answerArtifact part)).1,
              world.registry.put call.taskId
                { binding with
                  artifacts :=
                    (TaskRegistry.upsertInto binding.artifacts
                      (Bridge.answerArtifact part)).2 }) :=
      TaskRegistry.upsertArtifact_ok_iff.mpr ⟨binding, found, rfl⟩
    simp only [atPc, stored] at stepped
    cases stepped
    refine ⟨_, TaskRegistry.put_self _ _ _, .inl ?_⟩
    intro same
    have counted :=
      TaskRegistry.upsertInto_partCount binding.artifacts
        (Bridge.answerArtifact part)
    simp only at same
    rw [same] at counted
    simp [Bridge.answerArtifact] at counted
  · simp only [atPc] at stepped
    cases stepped
    refine ⟨_, TaskRegistry.onSink_self found _, .inr ?_⟩
    intro same
    have longer := congrArg List.length same
    simp [SseSink.publishEvent, SseSink.artifactFrames,
      SseSink.publish_sent_of_open _ opened, SseFrame.isArtifact,
      SseEvent.artifact] at longer

/-! ## Whole runs -/

theorem SameView.snapshot
    {before after : TaskBinding} (same : SameView before after) :
    after.snapshot id = before.snapshot id := by
  obtain ⟨conversation, state, history, artifacts, _⟩ := same
  simp [TaskBinding.snapshot, conversation, state, history, artifacts]

/-- Between two points of a trace with no such step in between. -/
theorem exec_keeps_view
    {between : List Action} {earlier later : World} {binding : TaskBinding}
    (executed : Machine.exec (step json) between earlier = some later)
    (found : earlier.registry.bindings id = some binding)
    (terminal : binding.state.isTerminal = true)
    (quiet :
      ¬ Machine.SomeStep (step json) (AnswersFinished id) earlier between) :
    ∃ after, later.registry.bindings id = some after ∧
      SameView binding after := by
  induction between generalizing earlier binding with
  | nil =>
      cases executed
      exact ⟨binding, found, .refl binding⟩
  | cons action rest inductionHypothesis =>
      obtain ⟨next, taken, remaining⟩ := Option.bind_eq_some_iff.mp executed
      have quietHere : ¬ AnswersFinished id earlier action := by
        intro answers
        exact quiet ⟨[], action, rest, earlier, rfl, rfl, answers⟩
      obtain ⟨middle, foundNext, sameMiddle⟩ :=
        step_keeps_view taken found terminal quietHere
      have terminalNext : middle.state.isTerminal = true := by
        rw [sameMiddle.2.1]
        exact terminal
      have quietLater :
          ¬ Machine.SomeStep (step json) (AnswersFinished id) next rest := by
        intro happens
        have executedHere :
            Machine.exec (step json) [action] earlier = some next := by
          simp [Machine.exec, taken]
        have happensHere := happens.within executedHere []
        rw [List.append_nil] at happensHere
        exact quiet happensHere
      obtain ⟨after, foundLater, sameLater⟩ :=
        inductionHypothesis remaining foundNext terminalNext quietLater
      exact ⟨after, foundLater, sameMiddle.trans sameLater⟩

/-- Finished Tasks stay as they are exactly in the runs in which no call comes
back to a finished Task with a part of the answer. -/
theorem frozen_iff
    {trace : List Action}
    (run : Machine.Run (step json) Machine.free World.start trace world) :
    Frozen json id trace ↔
      ¬ Machine.SomeStep (step json) (AnswersFinished id) World.start
        trace := by
  constructor
  · intro frozen happens
    rcases happens with
      ⟨before, action, rest, earlier, split, executed, answers⟩
    have finished := answers
    obtain ⟨name, call, binding, _, _, _, found, terminal, _⟩ := finished
    have whole := run.exec_eq
    rw [split] at whole
    obtain ⟨target, taken, _⟩ := Machine.exec_next whole executed
    have oneStep : Machine.exec (step json) [action] earlier = some target := by
      simp [Machine.exec, taken]
    obtain ⟨sameSnapshot, sameFrames⟩ :=
      frozen before [action] rest earlier target binding (by simp [split])
        executed oneStep found terminal
    obtain ⟨after, foundAfter, changed⟩ :=
      step_changes_view taken found answers
    simp only [TaskRegistry.snapshot, TaskRegistry.sink, found, foundAfter,
      Option.map_some, Option.some.injEq] at sameSnapshot sameFrames
    rcases changed with artifactsChanged | framesChanged
    · exact artifactsChanged (congrArg Task.artifacts sameSnapshot)
    · exact framesChanged sameFrames
  · intro quiet before between rest earlier later binding split executed
      remaining found terminal
    have quietBetween :
        ¬ Machine.SomeStep (step json) (AnswersFinished id) earlier
          between := by
      intro happens
      rw [split] at quiet
      exact quiet (happens.within executed rest)
    obtain ⟨after, foundLater, same⟩ :=
      exec_keeps_view remaining found terminal quietBetween
    refine ⟨?_, ?_⟩
    · simp only [TaskRegistry.snapshot, found, foundLater, Option.map_some]
      rw [same.snapshot]
    · simp only [TaskRegistry.sink, found, foundLater, Option.map_some]
      rw [same.2.2.2.2]

/-- No call at work has a part of the answer at hand. -/
def answersNothing (world : World) : Action → Bool
  | .bridge name .work =>
      match (world.calls name).map Bridge.Call.pc with
      | some (.answer (_ :: _)) | some (.publishArtifact _ _ _) => false
      | _ => true
  | _ => true

theorem not_answersFinished
    {action : Action} (nothing : answersNothing world action = true) :
    ¬ AnswersFinished id world action := by
  intro answers
  rcases answers with
    ⟨name, call, _, rfl, foundCall, _, _, _,
      ⟨part, rest, atPc⟩ | ⟨⟨part, append, rest, atPc⟩, _⟩⟩
  · simp [answersNothing, foundCall, atPc] at nothing
  · simp [answersNothing, foundCall, atPc] at nothing

/-- The agent heeds the cancel at once. -/
theorem heeded_cancel_frozen :
    ∃ trace world,
      Machine.exec (step .constant) trace World.start = some world ∧
        (world.registry.snapshot ⟨"t"⟩).map (fun task => task.status.state) =
          some .canceled ∧
        Frozen .constant ⟨"t"⟩ trace := by
  let trace : List Action :=
    [.create ⟨"t"⟩ "c" "s", .runSession 0 ⟨"t"⟩, .bridge 0 .work,
      .bridge 0 (.poll (some (.ok (.update .other)))), .bridge 0 .work,
      .bridge 0 .work, .bridge 0 .work, .cancelTask ⟨"t"⟩,
      .bridge 0 (.poll (some (.ok (.terminal .cancelled)))), .bridge 0 .work]
  obtain ⟨world, executed⟩ : ∃ world,
      Machine.execTested (step .constant) answersNothing trace World.start =
        some world :=
    ⟨_, rfl⟩
  have run :
      Machine.Run (step .constant)
        (fun reached action => ¬ AnswersFinished ⟨"t"⟩ reached action)
        World.start trace world :=
    Machine.run_of_execTested (fun _ _ => not_answersFinished) executed
  refine ⟨trace, world, run.exec_eq, by cases executed; rfl, ?_⟩
  exact (frozen_iff run.toFree).mpr run.not_someStep

/-- The agent goes on with its answer after a cancel. -/
theorem canceled_task_still_answered :
    ¬ ∀ trace world,
        Machine.Run (step .constant) Machine.free World.start trace world →
          Frozen .constant ⟨"t"⟩ trace := by
  intro claimed
  let before : List Action :=
    [.create ⟨"t"⟩ "c" "s", .runSession 0 ⟨"t"⟩, .bridge 0 .work,
      .bridge 0 (.poll (some (.ok (.update .other)))), .bridge 0 .work,
      .bridge 0 .work, .bridge 0 .work, .cancelTask ⟨"t"⟩]
  let between : List Action :=
    [.bridge 0
        (.poll (some (.ok (.update (.agentMessageChunk (.text "late")))))),
      .bridge 0 .work, .bridge 0 .work]
  obtain ⟨earlier, executed⟩ : ∃ earlier,
      Machine.exec (step .constant) before World.start = some earlier :=
    ⟨_, rfl⟩
  obtain ⟨later, remaining⟩ : ∃ later,
      Machine.exec (step .constant) between earlier = some later := by
    cases executed
    exact ⟨_, rfl⟩
  have whole :
      Machine.exec (step .constant) (before ++ between ++ []) World.start =
        some later := by
    rw [List.append_nil, Machine.exec_append, executed]
    exact remaining
  have frozen := claimed _ _ (Machine.run_of_exec whole)
  obtain ⟨binding, found⟩ : ∃ binding,
      earlier.registry.bindings ⟨"t"⟩ = some binding := by
    cases executed
    exact ⟨_, rfl⟩
  have same :=
    frozen before between [] earlier later binding rfl executed remaining found
      (by cases executed; cases found; rfl)
  have sameCount := congrArg (Option.map fun task => task.artifacts.length) same.1
  cases executed
  cases remaining
  cases sameCount

end TaskWriters

end A2AShim
