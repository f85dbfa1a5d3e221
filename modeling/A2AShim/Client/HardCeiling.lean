import A2AShim.Client.Verdict

/-!
# The two deadlines of a stream

Each wait for the body is raced against the idle window.  The hard ceiling is
tested only when a frame arrives, so a wait that begins before the ceiling can
end behind it.
-/

namespace A2AShim

/-- Times are readings of a clock. -/
structure HardCeiling where
  started : Nat
  limit : Nat
  deriving DecidableEq, Repr

def HardCeiling.exceeded (ceiling : HardCeiling) (now : Nat) : Bool :=
  decide (ceiling.limit ≤ now - ceiling.started)

structure OutboundDeadlines where
  streamIdle : Nat
  hardCeiling : Nat
  deriving DecidableEq, Repr

/-- What a wait for the body ends with. -/
inductive Incoming where
  | ended
  | failed (text : String)
  | frame (data : String)
  deriving DecidableEq, Repr

/-- `delay` counts from the beginning of the wait.  Where both branches of the
`select!` are ready at once, `timerFirst` says which one it takes. -/
structure Arrival where
  delay : Nat
  incoming : Incoming
  timerFirst : Bool
  deriving DecidableEq, Repr

/-- The arrival ends its wait; else the idle window does. -/
def Arrival.InTime (arrival : Arrival) (idle : Nat) : Prop :=
  arrival.delay < idle ∨ (arrival.delay = idle ∧ arrival.timerFirst = false)

instance (arrival : Arrival) (idle : Nat) :
    Decidable (arrival.InTime idle) :=
  inferInstanceAs (Decidable (_ ∨ _))

structure Yielded where
  time : Nat
  item : Except OutboundError SseEvent

namespace Outbound

variable (json : SerdeJson) (rejects : String → String) (limit : String)

/-- The loop of `stream`, at the beginning of a wait.  After the last arrival
the body stays silent. -/
def timedFrom (idle : Nat) (ceiling : HardCeiling) (now : Nat) :
    List Arrival → List Yielded
  | [] => [⟨now + idle, .error .remoteTimeout⟩]
  | arrival :: rest =>
      if arrival.InTime idle then
        match arrival.incoming with
        | .ended => []
        | .failed text =>
            [⟨now + arrival.delay, .error (.networkError text)⟩]
        | .frame data =>
            if ceiling.exceeded (now + arrival.delay) then
              [⟨now + arrival.delay, .error (.hardCeilingExceeded limit)⟩]
            else
              match parseSseDataLine json data with
              | some event =>
                  ⟨now + arrival.delay, .ok event⟩ ::
                    if event.isFinal then []
                    else timedFrom idle ceiling (now + arrival.delay) rest
              | none =>
                  [⟨now + arrival.delay, .error (.protocolError
                    ("non-SseEvent data line: " ++ rejects data ++
                      " (raw: " ++ data ++ ")"))⟩]
      else
        [⟨now + idle, .error .remoteTimeout⟩]

def timedStream (deadlines : OutboundDeadlines) (opened : Nat)
    (arrivals : List Arrival) : List Yielded :=
  timedFrom json rejects limit deadlines.streamIdle
    ⟨opened, deadlines.hardCeiling⟩ opened arrivals

/-! ## The stream without its clock -/

/-- The items of the body, as the races and the tests of the ceiling turn
out. -/
def bodyItems (idle : Nat) (ceiling : HardCeiling) (now : Nat) :
    List Arrival → List BodyItem
  | [] => [.idle]
  | arrival :: rest =>
      if arrival.InTime idle then
        match arrival.incoming with
        | .ended => []
        | .failed text => [.transportError text]
        | .frame data =>
            .event data (ceiling.exceeded (now + arrival.delay)) ::
              bodyItems idle ceiling (now + arrival.delay) rest
      else
        [.idle]

variable {json rejects limit}
variable {idle now opened : Nat} {ceiling : HardCeiling}
variable {arrival : Arrival} {arrivals front rest : List Arrival}

theorem item_timedFrom :
    (timedFrom json rejects limit idle ceiling now arrivals).map
        Yielded.item =
      stream json rejects limit (bodyItems idle ceiling now arrivals) := by
  induction arrivals generalizing now with
  | nil => rfl
  | cons arrival rest inductionHypothesis =>
      rw [timedFrom, bodyItems]
      by_cases inTime : arrival.InTime idle
      · rw [if_pos inTime, if_pos inTime]
        cases arrival.incoming with
        | ended => rfl
        | failed text => rfl
        | frame data =>
            cases late : ceiling.exceeded (now + arrival.delay) with
            | true => simp [stream]
            | false =>
                cases parsed : parseSseDataLine json data with
                | none => simp [stream, parsed]
                | some event =>
                    cases final : event.isFinal with
                    | true => simp [stream, parsed, final]
                    | false =>
                        simp [stream, parsed, final, inductionHypothesis]
      · rw [if_neg inTime, if_neg inTime]
        rfl

/-- Nothing follows an error, or a final status-update. -/
def Closes : Except OutboundError SseEvent → Prop
  | .error _ => True
  | .ok event => event.isFinal = true

def Closed (items : List (Except OutboundError SseEvent)) : Prop :=
  ∀ before item after, items = before ++ item :: after →
    Closes item → after = []

theorem closed_single (item : Except OutboundError SseEvent) :
    Closed [item] := by
  intro before other after split _
  cases before with
  | nil => exact (List.cons.inj split).2.symm
  | cons first others =>
      have none := (List.cons.inj split).2
      simp at none

theorem closed_cons
    {item : Except OutboundError SseEvent}
    {items : List (Except OutboundError SseEvent)}
    (goesOn : ¬ Closes item) (closed : Closed items) :
    Closed (item :: items) := by
  intro before other after split closes
  cases before with
  | nil =>
      rw [(List.cons.inj split).1] at goesOn
      exact absurd closes goesOn
  | cons first others =>
      exact closed others other after (List.cons.inj split).2 closes

theorem closed_stream (body : List BodyItem) :
    Closed (stream json rejects limit body) := by
  induction body with
  | nil =>
      intro before item after split _
      simp [stream] at split
  | cons item others inductionHypothesis =>
      rcases item with ⟨data, _ | _⟩ | text | _
      · cases parsed : parseSseDataLine json data with
        | none =>
            simp only [stream, parsed, Bool.false_eq_true, if_false]
            exact closed_single _
        | some event =>
            cases final : event.isFinal with
            | true =>
                simp only [stream, parsed, final, Bool.false_eq_true,
                  if_false, if_true]
                exact closed_single _
            | false =>
                simp only [stream, parsed, final, Bool.false_eq_true,
                  if_false]
                refine closed_cons ?_ inductionHypothesis
                simp [Closes, final]
      · exact closed_single _
      · exact closed_single _
      · exact closed_single _

/-! ## The waits -/

def elapsed (front : List Arrival) : Nat :=
  (front.map Arrival.delay).sum

variable (json)

/-- The stream reads on after such an arrival, unless it comes behind the
ceiling. -/
def Passes (idle : Nat) (arrival : Arrival) : Prop :=
  arrival.InTime idle ∧
    ∃ data event, arrival.incoming = .frame data ∧
      parseSseDataLine json data = some event ∧ event.isFinal = false

/-- After these arrivals the stream waits for the next one. -/
structure ReadsOn (idle : Nat) (ceiling : HardCeiling) (now : Nat)
    (front : List Arrival) : Prop where
  passes : ∀ arrival, arrival ∈ front → Passes json idle arrival
  before : front ≠ [] →
    ceiling.exceeded (now + elapsed front) = false

variable {json}

/-- A wait that begins at `now` is over by the ceiling, or ends with the end
of the body. -/
def OverByCeiling (idle : Nat) (ceiling : HardCeiling) (now : Nat) :
    List Arrival → Prop
  | [] => now + idle ≤ ceiling.started + ceiling.limit
  | arrival :: _ =>
      (arrival.InTime idle ∧ arrival.incoming = .ended) ∨
        now + min idle arrival.delay ≤ ceiling.started + ceiling.limit

variable (json)

def WaitsFrom (idle : Nat) (ceiling : HardCeiling) (now : Nat)
    (arrivals : List Arrival) : Prop :=
  ∀ front rest, arrivals = front ++ rest →
    ReadsOn json idle ceiling now front →
      OverByCeiling idle ceiling (now + elapsed front) rest

/-- Every wait of the stream is over by the ceiling. -/
def WaitsEndInTime (deadlines : OutboundDeadlines) (opened : Nat)
    (arrivals : List Arrival) : Prop :=
  WaitsFrom json deadlines.streamIdle ⟨opened, deadlines.hardCeiling⟩ opened
    arrivals

variable {json}

theorem exceeded_eq_false :
    ceiling.exceeded now = false ↔
      now - ceiling.started < ceiling.limit := by
  simp [HardCeiling.exceeded]

theorem readsOn_nil : ReadsOn json idle ceiling now [] where
  passes := by simp
  before := fun nonempty => absurd rfl nonempty

theorem readsOn_cons :
    ReadsOn json idle ceiling now (arrival :: front) ↔
      (Passes json idle arrival ∧
        ceiling.exceeded (now + arrival.delay) = false) ∧
        ReadsOn json idle ceiling (now + arrival.delay) front := by
  have total : elapsed (arrival :: front) = arrival.delay + elapsed front := by
    simp [elapsed]
  constructor
  · intro readsOn
    have before := readsOn.before (List.cons_ne_nil _ _)
    rw [total, exceeded_eq_false] at before
    refine ⟨⟨readsOn.passes arrival List.mem_cons_self, ?_⟩, ?_, ?_⟩
    · rw [exceeded_eq_false]
      omega
    · intro other member
      exact readsOn.passes other (List.mem_cons_of_mem _ member)
    · intro _
      rw [exceeded_eq_false]
      omega
  · rintro ⟨⟨passes, early⟩, readsOn⟩
    refine ⟨?_, ?_⟩
    · intro other member
      rcases List.mem_cons.mp member with rfl | inFront
      · exact passes
      · exact readsOn.passes other inFront
    · intro _
      rw [total, ← Nat.add_assoc]
      cases front with
      | nil => exact early
      | cons next others => exact readsOn.before (List.cons_ne_nil _ _)

theorem waitsFrom_cons :
    WaitsFrom json idle ceiling now (arrival :: rest) ↔
      OverByCeiling idle ceiling now (arrival :: rest) ∧
        (Passes json idle arrival ∧
            ceiling.exceeded (now + arrival.delay) = false →
          WaitsFrom json idle ceiling (now + arrival.delay) rest) := by
  constructor
  · intro waits
    refine ⟨waits [] (arrival :: rest) rfl readsOn_nil, ?_⟩
    intro passes front behind split readsOn
    have isOver := waits (arrival :: front) behind (by rw [split]; rfl)
      (readsOn_cons.mpr ⟨passes, readsOn⟩)
    simpa [elapsed, Nat.add_assoc] using isOver
  · rintro ⟨isOver, waits⟩ front behind split readsOn
    cases front with
    | nil =>
        rw [List.nil_append] at split
        rw [← split]
        exact isOver
    | cons first others =>
        obtain ⟨rfl, splitRest⟩ := List.cons.inj split
        obtain ⟨passes, readsOnRest⟩ := readsOn_cons.mp readsOn
        have overRest := waits passes others behind splitRest readsOnRest
        simpa [elapsed, Nat.add_assoc] using overRest

/-- One wait: the stream reads on, or ends with the body, or yields its last
item. -/
theorem timedFrom_cons :
    (∃ event, (Passes json idle arrival ∧
          ceiling.exceeded (now + arrival.delay) = false) ∧
        timedFrom json rejects limit idle ceiling now (arrival :: rest) =
          ⟨now + arrival.delay, .ok event⟩ ::
            timedFrom json rejects limit idle ceiling (now + arrival.delay)
              rest) ∨
      (¬ (Passes json idle arrival ∧
          ceiling.exceeded (now + arrival.delay) = false) ∧
        ((arrival.InTime idle ∧ arrival.incoming = .ended) ∧
            timedFrom json rejects limit idle ceiling now
              (arrival :: rest) = [] ∨
          ¬ (arrival.InTime idle ∧ arrival.incoming = .ended) ∧
            ∃ item, timedFrom json rejects limit idle ceiling now
              (arrival :: rest) =
                [⟨now + min idle arrival.delay, item⟩])) := by
  rw [timedFrom]
  by_cases inTime : arrival.InTime idle
  · rw [if_pos inTime]
    have least : min idle arrival.delay = arrival.delay := by
      unfold Arrival.InTime at inTime
      omega
    rw [least]
    cases kind : arrival.incoming with
    | ended => exact .inr ⟨by simp [Passes, kind], .inl ⟨⟨inTime, rfl⟩, rfl⟩⟩
    | failed text =>
        exact .inr ⟨by simp [Passes, kind], .inr ⟨by simp, _, rfl⟩⟩
    | frame data =>
        cases late : ceiling.exceeded (now + arrival.delay) with
        | true => exact .inr ⟨by simp, .inr ⟨by simp, _, rfl⟩⟩
        | false =>
            cases parsed : parseSseDataLine json data with
            | none =>
                refine .inr ⟨by simp [Passes, kind, parsed],
                  .inr ⟨by simp, .error (.protocolError
                    ("non-SseEvent data line: " ++ rejects data ++
                      " (raw: " ++ data ++ ")")), ?_⟩⟩
                simp only [parsed, Bool.false_eq_true, if_false]
            | some event =>
                cases final : event.isFinal with
                | true =>
                    refine .inr ⟨by simp [Passes, kind, parsed, final],
                      .inr ⟨by simp, .ok event, ?_⟩⟩
                    simp only [parsed, final, Bool.false_eq_true, if_false,
                      if_true]
                | false =>
                    refine .inl ⟨event,
                      ⟨⟨inTime, data, event, kind, parsed, final⟩, rfl⟩, ?_⟩
                    simp only [parsed, final, Bool.false_eq_true, if_false]
  · rw [if_neg inTime]
    have least : min idle arrival.delay = idle := by
      unfold Arrival.InTime at inTime
      omega
    rw [least]
    exact .inr ⟨fun passes => inTime passes.1.1,
      .inr ⟨fun ended => inTime ended.1, _, rfl⟩⟩

theorem times_le_iff :
    (∀ yielded, yielded ∈
        timedFrom json rejects limit idle ceiling now arrivals →
          yielded.time ≤ ceiling.started + ceiling.limit) ↔
      WaitsFrom json idle ceiling now arrivals := by
  induction arrivals generalizing now with
  | nil =>
      constructor
      · intro timely front rest split _
        obtain ⟨rfl, rfl⟩ := List.append_eq_nil_iff.mp split.symm
        exact timely _ List.mem_cons_self
      · intro waits yielded member
        rw [List.mem_singleton.mp member]
        exact waits [] [] rfl readsOn_nil
  | cons arrival rest inductionHypothesis =>
      rw [waitsFrom_cons]
      rcases @timedFrom_cons json rejects limit idle now ceiling arrival rest
        with ⟨event, passes, yields⟩ | ⟨stops, ends⟩
      · have early := exceeded_eq_false.mp passes.2
        rw [yields, List.forall_mem_cons, inductionHypothesis]
        apply and_congr
        · constructor
          · intro _
            exact .inr (by omega)
          · intro _
            simp only
            omega
        · exact ⟨fun waits _ => waits, fun waits => waits passes⟩
      · rw [and_iff_left fun passes => absurd passes stops]
        rcases ends with ⟨ended, yields⟩ | ⟨notEnded, item, yields⟩
        · rw [yields]
          exact ⟨fun _ => .inl ended, by simp⟩
        · rw [yields]
          simp [OverByCeiling, notEnded]

/-! ## The ceiling -/

/-- Every item comes by the ceiling; an error or a final status-update is the
last item. -/
structure CeilingHolds (deadlines : OutboundDeadlines) (opened : Nat)
    (items : List Yielded) : Prop where
  inTime : ∀ yielded, yielded ∈ items →
    yielded.time ≤ opened + deadlines.hardCeiling
  closed : Closed (items.map Yielded.item)

/-- The ceiling holds exactly when every wait is over by the ceiling. -/
theorem ceiling_holds_iff
    (json : SerdeJson) (rejects : String → String) (limit : String)
    (deadlines : OutboundDeadlines) (opened : Nat)
    (arrivals : List Arrival) :
    CeilingHolds deadlines opened
        (timedStream json rejects limit deadlines opened arrivals) ↔
      WaitsEndInTime json deadlines opened arrivals := by
  have timely := @times_le_iff json rejects limit deadlines.streamIdle opened
    ⟨opened, deadlines.hardCeiling⟩ arrivals
  constructor
  · exact fun holds => timely.mp holds.inTime
  · intro waits
    refine ⟨timely.mpr waits, ?_⟩
    rw [timedStream, item_timedFrom]
    exact closed_stream _

theorem times_le_max
    {yielded : Yielded}
    (member : yielded ∈
      timedFrom json rejects limit idle ceiling now arrivals) :
    yielded.time ≤ max now (ceiling.started + ceiling.limit) + idle := by
  induction arrivals generalizing now with
  | nil =>
      rw [List.mem_singleton.mp member]
      simp only
      omega
  | cons arrival rest inductionHypothesis =>
      rcases @timedFrom_cons json rejects limit idle now ceiling arrival rest
        with ⟨event, passes, yields⟩ | ⟨_, ⟨_, yields⟩ | ⟨_, item, yields⟩⟩
      · have early := exceeded_eq_false.mp passes.2
        rw [yields] at member
        rcases List.mem_cons.mp member with rfl | later
        · simp only
          omega
        · have bound := inductionHypothesis later
          omega
      · rw [yields] at member
        cases member
      · rw [yields] at member
        rw [List.mem_singleton.mp member]
        simp only
        omega

/-- An item is late by one idle window at most. -/
theorem times_le_ceiling_add_idle
    {deadlines : OutboundDeadlines} {yielded : Yielded}
    (member : yielded ∈
      timedStream json rejects limit deadlines opened arrivals) :
    yielded.time ≤
      opened + deadlines.hardCeiling + deadlines.streamIdle := by
  have bound := times_le_max member
  simp only at bound
  omega

/-- With an idle window of ten minutes and a ceiling of five, a remote that is
silent is given up after ten. -/
theorem silent_remote_outlasts_ceiling :
    (timedStream .constant id "300s" ⟨600, 300⟩ 0 []).map Yielded.time =
        [600] ∧
      ¬ ∀ (json : SerdeJson) (rejects : String → String) (limit : String)
          (deadlines : OutboundDeadlines) (opened : Nat)
          (arrivals : List Arrival),
        CeilingHolds deadlines opened
          (timedStream json rejects limit deadlines opened arrivals) := by
  refine ⟨rfl, ?_⟩
  intro holds
  have inTime := (holds .constant id "300s" ⟨600, 300⟩ 0 []).inTime _
    List.mem_cons_self
  simp at inTime

end Outbound

end A2AShim
