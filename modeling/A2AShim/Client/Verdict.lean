import A2AShim.Client.CallHandler
import A2AShim.Wire.SseFraming

/-!
# The verdict of a call

`outbound::stream` turns the body of the answer into typed items and stops at
the first one that decides; the fold of the call stops there too.  The result
depends on nothing that comes later.
-/

namespace A2AShim

/-- What the body of the answer does next; its end is the end of the list.
`late` says that the hard ceiling is exceeded when the event arrives. -/
inductive BodyItem where
  | event (data : String) (late : Bool)
  | transportError (text : String)
  | idle
  deriving DecidableEq, Repr

def SseEvent.isFinal : SseEvent → Bool
  | .statusUpdate inner => inner.final
  | .artifactUpdate _ => false

/-! ## The stream -/

namespace Outbound

/-- `rejects` is the text of a failed `from_str`, `limit` the debug text of
the hard ceiling. -/
def stream (json : SerdeJson) (rejects : String → String) (limit : String) :
    List BodyItem → List (Except OutboundError SseEvent)
  | [] => []
  | .idle :: _ => [.error .remoteTimeout]
  | .transportError text :: _ => [.error (.networkError text)]
  | .event data late :: rest =>
      if late then
        [.error (.hardCeilingExceeded limit)]
      else
        match parseSseDataLine json data with
        | some event =>
            .ok event ::
              if event.isFinal then []
              else stream json rejects limit rest
        | none =>
            [.error (.protocolError
              ("non-SseEvent data line: " ++ rejects data ++ " (raw: " ++
                data ++ ")"))]

/-- Events up to the only final one are all read. -/
theorem stream_of_events
    {json : SerdeJson} {rejects : String → String} {limit : String}
    {front : List SseEvent} {last : SseEvent}
    (going : ∀ event, event ∈ front → event.isFinal = false)
    (valid : ∀ event, event ∈ front ++ [last] → event.Valid)
    (prints : ∀ event, event ∈ front ++ [last] →
      json.Prints event.toValue) :
    stream json rejects limit
        ((front ++ [last]).map fun event =>
          .event (json.toText event.toValue) false) =
      (front ++ [last]).map .ok := by
  induction front with
  | nil =>
      have decoded :=
        parseSseDataLine_toText (valid last (by simp)) (prints last (by simp))
      simp [stream, decoded]
  | cons event rest inductionHypothesis =>
      have decoded :=
        parseSseDataLine_toText (valid event (by simp))
          (prints event (by simp))
      have others :=
        inductionHypothesis
          (fun other member => going other (List.mem_cons_of_mem event member))
          (fun other member => valid other (List.mem_cons_of_mem event member))
          (fun other member => prints other (List.mem_cons_of_mem event member))
      simp only [List.cons_append, List.map_cons, stream, decoded,
        going event List.mem_cons_self]
      rw [others]
      rfl

end Outbound

namespace CallHandler

/-- The result of a call that the host has not canceled; `opened` is what
`outbound::stream` returns. -/
def callA2aSend (json : SerdeJson) (rejects : String → String)
    (limit : String) (args : A2aSendArgs)
    (opened : Except OutboundError (List BodyItem)) : Value :=
  match opened with
  | .error error => renderFailed error.text (errorKindForOutbound error) none
  | .ok body =>
      renderOutcome
        (driveStream args (Outbound.stream json rejects limit body))

/-! ## Reading a result -/

def isError (result : Value) : Option Bool :=
  (result.get "isError").bind Value.asBool

def errorKind (result : Value) : Option String :=
  (((result.get "_meta").bind (Value.get "error")).bind
    (Value.get "kind")).bind Value.asStr

def resultTask (result : Value) : Option Value :=
  (result.get "_meta").bind (Value.get "a2aTask")

/-- What the result of an outcome says. -/
theorem read_renderCompleted (task : Task) :
    isError (renderCompleted task) = some false ∧
      resultTask (renderCompleted task) = some task.toValue := by
  simp [isError, resultTask, renderCompleted, Outbound.object,
    Outbound.get_object, KeyOrder.insertAll, KeyOrder.member_insert,
    Value.asBool]

theorem read_renderInputRequired (task : Task) :
    isError (renderInputRequired task) = some false ∧
      resultTask (renderInputRequired task) = some task.toValue := by
  simp [isError, resultTask, renderInputRequired, Outbound.object,
    Outbound.get_object, KeyOrder.insertAll, KeyOrder.member_insert,
    Value.asBool]

theorem read_renderFailed
    (reason : String) (kind : ErrorKind) (taskId : Option String) :
    isError (renderFailed reason kind taskId) = some true ∧
      errorKind (renderFailed reason kind taskId) = some kind.wireName := by
  simp [isError, errorKind, renderFailed, Outbound.object,
    Outbound.get_object, KeyOrder.insertAll, KeyOrder.member_insert,
    Value.asBool, Value.asStr]

/-! ## The items that pass -/

variable (json : SerdeJson) (rejects : String → String) (limit : String)

/-- An event that comes in time and decodes. -/
def decoded : BodyItem → Option SseEvent
  | .event data false => parseSseDataLine json data
  | _ => none

/-- The call goes on after such an event. -/
def passing (item : BodyItem) : Option SseEvent :=
  (decoded json item).filter fun event => !event.isFinal

def AllPass (front : List BodyItem) : Prop :=
  ∀ item, item ∈ front → (passing json item).isSome = true

def foldEvent (artifacts : List Artifact) : SseEvent → List Artifact
  | .statusUpdate _ => artifacts
  | .artifactUpdate inner =>
      upsertArtifact artifacts inner.artifact inner.append

/-- The artifacts of the events of a body. -/
def foldArtifacts (front : List BodyItem) : List Artifact :=
  (front.filterMap (decoded json)).foldl foldEvent []

/-- A final status-update that the call answers with a result. -/
def accepted (item : BodyItem) : Option TaskStatusEnvelope :=
  match decoded json item with
  | some (.statusUpdate inner) =>
      if inner.final ∧
          (inner.status.state = .completed ∨
            inner.status.state = .inputRequired) then
        some inner
      else
        none
  | _ => none

/-- What is wrong with an item. -/
def offence : BodyItem → Option ErrorKind
  | .idle => some .remoteTimeout
  | .transportError _ => some .networkError
  | .event _ true => some .remoteTimeout
  | .event data false =>
      match parseSseDataLine json data with
      | none => some .protocolError
      | some (.artifactUpdate _) => none
      | some (.statusUpdate inner) =>
          if inner.final then
            match inner.status.state with
            | .completed | .inputRequired => none
            | .canceled => some .remoteCanceled
            | _ => some .remoteFailed
          else
            none

/-- The kind of the first offending item; a body without one lacks its final
status-update. -/
def firstOffence (body : List BodyItem) : ErrorKind :=
  (body.findSome? (offence json)).getD .protocolError

/-- The task of the fold after the events of `front`. -/
def foldedTask (task : Task) (front : List BodyItem) : Task :=
  (front.filterMap (decoded json)).foldl
    (fun task event =>
      match event with
      | .statusUpdate inner =>
          { task with id := inner.taskId, status := inner.status }
      | .artifactUpdate inner =>
          { task with
            id := inner.taskId
            artifacts :=
              upsertArtifact task.artifacts inner.artifact inner.append })
    task

variable {json rejects limit}
variable {task : Task} {front rest : List BodyItem} {item : BodyItem}

theorem passing_iff {event : SseEvent} :
    passing json item = some event ↔
      ∃ data, item = .event data false ∧
        parseSseDataLine json data = some event ∧ event.isFinal = false := by
  rw [passing, Option.filter_eq_some_iff]
  rcases item with ⟨data, _ | _⟩ | text | _ <;> simp [decoded]

/-- The fold goes through the items that pass. -/
theorem driveFrom_front
    (allPass : AllPass json front) :
    driveFrom task (Outbound.stream json rejects limit (front ++ rest)) =
      driveFrom (foldedTask json task front)
        (Outbound.stream json rejects limit rest) := by
  induction front generalizing task with
  | nil => rfl
  | cons item others inductionHypothesis =>
      obtain ⟨event, passes⟩ :=
        Option.isSome_iff_exists.mp (allPass item List.mem_cons_self)
      obtain ⟨data, rfl, parsed, notFinal⟩ := passing_iff.mp passes
      have othersPass : AllPass json others := fun other member =>
        allPass other (List.mem_cons_of_mem _ member)
      cases event with
      | statusUpdate inner =>
          have unfinished : inner.final = false := notFinal
          simp only [List.cons_append, Outbound.stream, parsed, notFinal,
            Bool.false_eq_true, if_false, driveFrom, unfinished]
          rw [inductionHypothesis othersPass]
          simp [foldedTask, decoded, parsed]
      | artifactUpdate inner =>
          simp only [List.cons_append, Outbound.stream, parsed, notFinal,
            Bool.false_eq_true, if_false, driveFrom]
          rw [inductionHypothesis othersPass]
          simp [foldedTask, decoded, parsed]

/-! ## The item that decides -/

theorem accepted_iff {inner : TaskStatusEnvelope} :
    accepted json item = some inner ↔
      ∃ data, item = .event data false ∧
        parseSseDataLine json data = some (.statusUpdate inner) ∧
          inner.final = true ∧
            (inner.status.state = .completed ∨
              inner.status.state = .inputRequired) := by
  constructor
  · intro isAccepted
    unfold accepted at isAccepted
    split at isAccepted
    · rename_i found parsed
      split at isAccepted
      · rename_i finished
        cases isAccepted
        rcases item with ⟨data, _ | _⟩ | text | _
        · exact ⟨data, rfl, parsed, finished⟩
        · cases parsed
        · cases parsed
        · cases parsed
      · cases isAccepted
    · cases isAccepted
  · intro given
    rcases given with ⟨data, rfl, parsed, finished⟩
    simp only [accepted, decoded, parsed]
    rw [if_pos finished]

/-- An item passes, or is accepted, or offends. -/
theorem item_cases (item : BodyItem) :
    (passing json item).isSome = true ∨
      (∃ inner, accepted json item = some inner) ∨
        ∃ kind, offence json item = some kind := by
  rcases item with ⟨data, _ | _⟩ | text | _
  · cases parsed : parseSseDataLine json data with
    | none => simp [offence, parsed]
    | some event =>
        cases event with
        | artifactUpdate inner =>
            left
            simp [passing, decoded, parsed, SseEvent.isFinal]
        | statusUpdate inner =>
            cases final : inner.final with
            | false =>
                left
                simp [passing, decoded, parsed, SseEvent.isFinal, final]
            | true =>
                right
                cases state : inner.status.state <;>
                  simp [accepted, decoded, offence, parsed, final, state]
  · exact .inr (.inr ⟨_, rfl⟩)
  · exact .inr (.inr ⟨_, rfl⟩)
  · exact .inr (.inr ⟨_, rfl⟩)

theorem offence_of_passing
    (passes : (passing json item).isSome = true) :
    offence json item = none := by
  obtain ⟨event, isPassing⟩ := Option.isSome_iff_exists.mp passes
  obtain ⟨data, rfl, parsed, notFinal⟩ := passing_iff.mp isPassing
  cases event with
  | artifactUpdate inner => simp [offence, parsed]
  | statusUpdate inner =>
      have unfinished : inner.final = false := notFinal
      simp [offence, parsed, unfinished]

theorem offence_of_accepted
    {inner : TaskStatusEnvelope}
    (isAccepted : accepted json item = some inner) :
    offence json item = none := by
  obtain ⟨data, rfl, parsed, final, state⟩ := accepted_iff.mp isAccepted
  rcases state with state | state <;> simp [offence, parsed, final, state]

theorem accepted_not_passing
    {inner : TaskStatusEnvelope}
    (isAccepted : accepted json item = some inner) :
    passing json item = none := by
  obtain ⟨data, rfl, parsed, final, _⟩ := accepted_iff.mp isAccepted
  simp [passing, decoded, parsed, SseEvent.isFinal, final]

/-- A final status-update ends the fold. -/
theorem driveFrom_final
    {data : String} {inner : TaskStatusEnvelope}
    (parsed : parseSseDataLine json data = some (.statusUpdate inner))
    (final : inner.final = true) :
    driveFrom task
        (Outbound.stream json rejects limit (.event data false :: rest)) =
      outcomeOfFinal
        { task with id := inner.taskId, status := inner.status } := by
  simp [Outbound.stream, parsed, driveFrom, final]

theorem read_accepted
    {inner : TaskStatusEnvelope}
    (isAccepted : accepted json item = some inner) :
    isError (renderOutcome (driveFrom task
        (Outbound.stream json rejects limit (item :: rest)))) =
          some false ∧
      resultTask (renderOutcome (driveFrom task
          (Outbound.stream json rejects limit (item :: rest)))) =
        some (Task.toValue
          { task with id := inner.taskId, status := inner.status }) := by
  obtain ⟨data, rfl, parsed, final, state⟩ := accepted_iff.mp isAccepted
  rw [driveFrom_final parsed final]
  rcases state with completed | waiting
  · simp only [outcomeOfFinal, completed, renderOutcome]
    exact read_renderCompleted _
  · simp only [outcomeOfFinal, waiting, renderOutcome]
    exact read_renderInputRequired _

theorem read_offence
    {kind : ErrorKind} (isOffence : offence json item = some kind) :
    isError (renderOutcome (driveFrom task
        (Outbound.stream json rejects limit (item :: rest)))) =
          some true ∧
      errorKind (renderOutcome (driveFrom task
          (Outbound.stream json rejects limit (item :: rest)))) =
        some kind.wireName := by
  rcases item with ⟨data, _ | _⟩ | text | _
  · cases parsed : parseSseDataLine json data with
    | none =>
        simp only [offence, parsed, Option.some.injEq] at isOffence
        subst isOffence
        simp only [Outbound.stream, parsed, Bool.false_eq_true, if_false,
          driveFrom, renderOutcome]
        exact read_renderFailed _ _ _
    | some event =>
        cases event with
        | artifactUpdate inner => simp [offence, parsed] at isOffence
        | statusUpdate inner =>
            cases final : inner.final with
            | false => simp [offence, parsed, final] at isOffence
            | true =>
                rw [driveFrom_final parsed final]
                cases state : inner.status.state <;>
                  simp only [offence, parsed, final, state, if_true,
                    Option.some.injEq, reduceCtorEq] at isOffence <;>
                  subst isOffence <;>
                  simp only [outcomeOfFinal, state, renderOutcome] <;>
                  exact read_renderFailed _ _ _
  · cases isOffence
    simp only [Outbound.stream, if_true, driveFrom, renderOutcome]
    exact read_renderFailed _ _ _
  · cases isOffence
    simp only [Outbound.stream, driveFrom, renderOutcome]
    exact read_renderFailed _ _ _
  · cases isOffence
    simp only [Outbound.stream, driveFrom, renderOutcome]
    exact read_renderFailed _ _ _

/-- Nothing after an item that does not pass is looked at. -/
theorem stream_decided
    (decides : passing json item = none) (rest other : List BodyItem) :
    Outbound.stream json rejects limit (item :: rest) =
      Outbound.stream json rejects limit (item :: other) := by
  rcases item with ⟨data, _ | _⟩ | text | _
  · cases parsed : parseSseDataLine json data with
    | none => simp [Outbound.stream, parsed]
    | some event =>
        have final : event.isFinal = true := by
          simpa [passing, decoded, parsed] using decides
        simp [Outbound.stream, parsed, final]
  · rfl
  · rfl
  · rfl

/-- All items of a body pass, or one of them is the first that does not. -/
theorem body_cases (body : List BodyItem) :
    AllPass json body ∨
      ∃ front item rest, body = front ++ item :: rest ∧
        AllPass json front ∧ passing json item = none := by
  induction body with
  | nil => exact .inl nofun
  | cons first others inductionHypothesis =>
      cases passes : passing json first with
      | none => exact .inr ⟨[], first, others, rfl, nofun, passes⟩
      | some event =>
          have firstPasses : (passing json first).isSome = true := by
            rw [passes]
            rfl
          rcases inductionHypothesis with
            allPass | ⟨front, item, rest, rfl, frontPasses, decides⟩
          · refine .inl ?_
            intro item member
            rcases List.mem_cons.mp member with rfl | inOthers
            · exact firstPasses
            · exact allPass item inOthers
          · refine .inr ⟨first :: front, item, rest, rfl, ?_, decides⟩
            intro tested member
            rcases List.mem_cons.mp member with rfl | inFront
            · exact firstPasses
            · exact frontPasses tested inFront

/-! ## The verdict -/

theorem foldedTask_final
    (task : Task) (front : List BodyItem) (id : TaskId)
    (status : TaskStatus) :
    { foldedTask json task front with id := id, status := status } =
      { task with
        id := id
        status := status
        artifacts :=
          (front.filterMap (decoded json)).foldl foldEvent
            task.artifacts } := by
  unfold foldedTask
  generalize front.filterMap (decoded json) = events
  induction events generalizing task with
  | nil => rfl
  | cons event others inductionHypothesis =>
      rw [List.foldl_cons, inductionHypothesis, List.foldl_cons]
      cases event with
      | statusUpdate inner => rfl
      | artifactUpdate inner => rfl

/-- The first item of a body that does not pass is accepted. -/
structure Accepts (json : SerdeJson) (body front : List BodyItem)
    (inner : TaskStatusEnvelope) : Prop where
  allPass : AllPass json front
  found : ∃ item rest, body = front ++ item :: rest ∧
    accepted json item = some inner

/-- The result of a call, by the first item of the body that does not
pass. -/
structure Verdict (json : SerdeJson) (args : A2aSendArgs)
    (body : List BodyItem) (result : Value) : Prop where
  succeeds : isError result = some false ↔
    ∃ front inner, Accepts json body front inner
  task : ∀ front inner, Accepts json body front inner →
    resultTask result =
      some (Task.toValue
        { initialTask args with
          id := inner.taskId
          status := inner.status
          artifacts := foldArtifacts json front })
  fails : (¬ ∃ front inner, Accepts json body front inner) →
    isError result = some true ∧
      errorKind result = some (firstOffence json body).wireName

/-- The items after the first that does not pass do not matter. -/
def Decided (json : SerdeJson) (verdict : List BodyItem → Value) : Prop :=
  ∀ front item rest other, AllPass json front → passing json item = none →
    verdict (front ++ item :: rest) = verdict (front ++ item :: other)

theorem firstOffence_front
    (allPass : AllPass json front) (body : List BodyItem) :
    firstOffence json (front ++ body) = firstOffence json body := by
  have noOffence : front.findSome? (offence json) = none := by
    rw [List.findSome?_eq_none_iff]
    intro item member
    exact offence_of_passing (allPass item member)
  rw [firstOffence, List.findSome?_append, noOffence, Option.none_or]
  rfl

/-- A body has one prefix at most that ends where the call does. -/
theorem Accepts.unique
    {other : List BodyItem} {inner : TaskStatusEnvelope}
    (accepts : Accepts json (front ++ item :: rest) other inner)
    (allPass : AllPass json front) (decides : passing json item = none) :
    other = front ∧ accepted json item = some inner := by
  obtain ⟨otherPass, next, later, split, isAccepted⟩ := accepts
  have nextDecides := accepted_not_passing isAccepted
  induction front generalizing other with
  | nil =>
      cases other with
      | nil =>
          simp only [List.nil_append, List.cons.injEq] at split
          rw [split.1]
          exact ⟨rfl, isAccepted⟩
      | cons first others =>
          simp only [List.nil_append, List.cons_append, List.cons.injEq]
            at split
          have passes := otherPass first List.mem_cons_self
          rw [← split.1, decides] at passes
          cases passes
  | cons first others inductionHypothesis =>
      cases other with
      | nil =>
          simp only [List.nil_append, List.cons_append, List.cons.injEq]
            at split
          have passes := allPass first List.mem_cons_self
          rw [split.1, nextDecides] at passes
          cases passes
      | cons head tail =>
          simp only [List.cons_append, List.cons.injEq] at split
          obtain ⟨sameTail, same⟩ :=
            inductionHypothesis
              (fun tested member =>
                allPass tested (List.mem_cons_of_mem _ member))
              (fun tested member =>
                otherPass tested (List.mem_cons_of_mem _ member))
              split.2
          rw [split.1, sameTail]
          exact ⟨rfl, same⟩

theorem no_accepts_of_allPass
    {body : List BodyItem} (allPass : AllPass json body)
    {inner : TaskStatusEnvelope} : ¬ Accepts json body front inner := by
  intro accepts
  obtain ⟨item, rest, rfl, isAccepted⟩ := accepts.found
  have passes := allPass item
    (List.mem_append_right front List.mem_cons_self)
  rw [accepted_not_passing isAccepted] at passes
  cases passes

/-- A result that names the first offence, where no item is accepted. -/
theorem verdict_of_refused
    {args : A2aSendArgs} {body : List BodyItem} {result : Value}
    (noAccepts : ∀ front inner, ¬ Accepts json body front inner)
    (failed : isError result = some true)
    (kind : errorKind result = some (firstOffence json body).wireName) :
    Verdict json args body result := by
  constructor
  · rw [failed]
    constructor
    · intro absurd
      cases absurd
    · rintro ⟨front, inner, accepts⟩
      exact absurd accepts (noAccepts front inner)
  · intro front inner accepts
    exact absurd accepts (noAccepts front inner)
  · intro _
    exact ⟨failed, kind⟩

/-- A body that ends without a final status-update. -/
theorem verdict_of_allPass
    (args : A2aSendArgs) {body : List BodyItem}
    (allPass : AllPass json body) :
    Verdict json args body
      (callA2aSend json rejects limit args (.ok body)) := by
  have result : callA2aSend json rejects limit args (.ok body) =
      renderFailed "remote stream ended without a terminal status-update"
        .protocolError
        (some (foldedTask json (initialTask args) body).id.text) := by
    have driven := @driveFrom_front json rejects limit (initialTask args) body
      [] allPass
    rw [List.append_nil] at driven
    simp only [callA2aSend, driveStream, driven]
    rfl
  have isLast : firstOffence json body = .protocolError := by
    have skipped := firstOffence_front allPass []
    rw [List.append_nil] at skipped
    exact skipped
  obtain ⟨failed, kind⟩ :=
    read_renderFailed "remote stream ended without a terminal status-update"
      .protocolError
      (some (foldedTask json (initialTask args) body).id.text)
  rw [result]
  apply verdict_of_refused
  · intro front inner
    exact no_accepts_of_allPass allPass
  · exact failed
  · rw [isLast]
    exact kind

/-- A body with a first item that does not pass. -/
theorem verdict_of_decided
    (args : A2aSendArgs) (allPass : AllPass json front)
    (decides : passing json item = none) :
    Verdict json args (front ++ item :: rest)
      (callA2aSend json rejects limit args (.ok (front ++ item :: rest))) := by
  have result :
      callA2aSend json rejects limit args (.ok (front ++ item :: rest)) =
        renderOutcome
          (driveFrom (foldedTask json (initialTask args) front)
            (Outbound.stream json rejects limit (item :: rest))) := by
    simp only [callA2aSend, driveStream, driveFrom_front allPass]
  rw [result]
  rcases @item_cases json item with passes | ⟨inner, isAccepted⟩ | ⟨kind, bad⟩
  · rw [decides] at passes
    cases passes
  · obtain ⟨succeeded, task⟩ :=
      @read_accepted json rejects limit
        (foldedTask json (initialTask args) front) rest item inner isAccepted
    have accepts : Accepts json (front ++ item :: rest) front inner :=
      ⟨allPass, item, rest, rfl, isAccepted⟩
    constructor
    · exact iff_of_true succeeded ⟨front, inner, accepts⟩
    · intro other found otherAccepts
      obtain ⟨rfl, same⟩ := otherAccepts.unique allPass decides
      rw [isAccepted] at same
      cases same
      rw [task, foldedTask_final]
      rfl
    · intro none
      exact absurd ⟨front, inner, accepts⟩ none
  · obtain ⟨failed, isKind⟩ :=
      @read_offence json rejects limit
        (foldedTask json (initialTask args) front) rest item kind bad
    have noAccepts : ∀ other inner,
        ¬ Accepts json (front ++ item :: rest) other inner := by
      intro other inner accepts
      obtain ⟨_, isAccepted⟩ := accepts.unique allPass decides
      rw [offence_of_accepted isAccepted] at bad
      cases bad
    have first : firstOffence json (front ++ item :: rest) = kind := by
      rw [firstOffence_front allPass]
      simp [firstOffence, bad]
    apply verdict_of_refused noAccepts failed
    rw [first]
    exact isKind

/-- A call succeeds with the first item that does not pass, if that is a final
status-update with a result, and fails with its kind otherwise. -/
theorem call_verdict
    (json : SerdeJson) (rejects : String → String) (limit : String)
    (args : A2aSendArgs) :
    (∀ body, Verdict json args body
      (callA2aSend json rejects limit args (.ok body))) ∧
      Decided json fun body =>
        callA2aSend json rejects limit args (.ok body) := by
  constructor
  · intro body
    rcases @body_cases json body with
      allPass | ⟨front, item, rest, rfl, allPass, decides⟩
    · exact verdict_of_allPass args allPass
    · exact verdict_of_decided args allPass decides
  · intro front item rest other allPass decides
    simp only [callA2aSend, driveStream, driveFrom_front allPass]
    rw [stream_decided decides rest other]

/-- A final status-update with a result comes before anything else that ends
the stream. -/
def OccursFirst (json : SerdeJson) (body : List BodyItem) : Prop :=
  ∃ front data late rest inner,
    body = front ++ .event data late :: rest ∧
      (∀ item, item ∈ front → ∃ other later event,
        item = .event other later ∧
          parseSseDataLine json other = some event) ∧
        parseSseDataLine json data = some (.statusUpdate inner) ∧
          inner.final = true ∧
            (inner.status.state = .completed ∨
              inner.status.state = .inputRequired)

def finalText (state : String) : String :=
  "\x7b\"statusUpdate\":\x7b\"taskId\":\"t\",\"status\":\x7b\"state\":\"" ++
    state ++ "\"\x7d,\"final\":true\x7d\x7d"

def finalEvent (state : TaskState) : SseEvent :=
  .status ⟨"t"⟩ { state, message := none, timestamp := none } true

/-- The two final status-updates below. -/
def finalTable : List (Value × String) :=
  [((finalEvent .failed).toValue, finalText "failed"),
    ((finalEvent .completed).toValue, finalText "completed")]

/-- A completed Task is not the result when it comes after another final
status-update, or after the hard ceiling. -/
theorem completed_is_not_always_result :
    ¬ ∀ json rejects limit args body,
        isError (callA2aSend json rejects limit args (.ok body)) =
            some false ↔
          OccursFirst json body := by
  intro claimed
  let json := SerdeJson.ofTable finalTable
  have failed : parseSseDataLine json (finalText "failed") =
      some (finalEvent .failed) := by
    decide
  have completed : parseSseDataLine json (finalText "completed") =
      some (finalEvent .completed) := by
    decide
  have ends : ∀ rest args,
      isError (callA2aSend json (fun _ => "") "1ms" args
        (.ok (.event (finalText "failed") false :: rest))) = some true := by
    intro rest args
    simp only [callA2aSend, driveStream]
    rw [driveFrom_final failed rfl]
    exact (read_renderFailed _ _ _).1
  have occurs : OccursFirst json
      [.event (finalText "failed") false,
        .event (finalText "completed") false] := by
    refine ⟨[.event (finalText "failed") false], finalText "completed", false,
      [], _, rfl, ?_, completed, rfl, .inl rfl⟩
    intro item member
    cases List.mem_singleton.mp member
    exact ⟨_, false, _, rfl, failed⟩
  have succeeds :=
    (claimed json (fun _ => "") "1ms"
      { conversationId := "c", message := "hi" } _).mpr occurs
  rw [ends] at succeeds
  cases succeeds

end CallHandler

end A2AShim
