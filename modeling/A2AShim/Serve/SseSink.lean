import A2AShim.Wire.Task

/-!
# The per-Task event sink

`SseSink` wraps one `tokio::sync::broadcast` sender.  The channel is modelled
by the list of all frames sent on it; a receiver is a position in that list,
starting at its end.  A receiver that has fallen more than the capacity behind
is told so once and continues from the oldest retained frame.
-/

namespace A2AShim

inductive SseFrame where
  | event (event : SseEvent)
  | keepalive
  deriving DecidableEq, Repr

/-- `isOpen` says that the mutex still holds the sender. -/
structure SseSink where
  capacity : Nat
  sent : List SseFrame
  isOpen : Bool
  deriving DecidableEq, Repr

structure Receiver where
  next : Nat
  deriving DecidableEq, Repr

/-- What one poll of a `broadcast::Receiver` returns. -/
inductive Received where
  | frame (frame : SseFrame)
  | lagged (skipped : Nat)
  | closed
  | pending
  deriving DecidableEq, Repr

namespace SseSink

def new (capacity : Nat) : SseSink :=
  { capacity, sent := [], isOpen := true }

def subscribe (sink : SseSink) : Option Receiver :=
  if sink.isOpen then some { next := sink.sent.length } else none

def publish (frame : SseFrame) (sink : SseSink) : SseSink :=
  if sink.isOpen then { sink with sent := sink.sent ++ [frame] } else sink

def publishEvent (event : SseEvent) (sink : SseSink) : SseSink :=
  sink.publish (.event event)

/-- Send the terminal event if the sender is still there, then drop it. -/
def publishFinal (event : SseEvent) (sink : SseSink) : SseSink :=
  { sink.publish (.event event) with isOpen := false }

/-- `broadcast::Receiver::recv` as a poll. -/
def recv (sink : SseSink) (receiver : Receiver) : Received × Receiver :=
  if receiver.next + sink.capacity < sink.sent.length then
    let oldest := sink.sent.length - sink.capacity
    (.lagged (oldest - receiver.next), { next := oldest })
  else
    match sink.sent[receiver.next]? with
    | some frame => (.frame frame, { next := receiver.next + 1 })
    | none => (if sink.isOpen then .pending else .closed, receiver)

/-- Frames the receiver has still to read. -/
def unread (sink : SseSink) (receiver : Receiver) : List SseFrame :=
  sink.sent.drop receiver.next

@[simp]
theorem publish_isOpen (frame : SseFrame) (sink : SseSink) :
    (sink.publish frame).isOpen = sink.isOpen := by
  unfold publish
  split <;> rfl

theorem publish_sent_of_open
    {sink : SseSink} (frame : SseFrame) (opened : sink.isOpen = true) :
    (sink.publish frame).sent = sink.sent ++ [frame] := by
  simp [publish, opened]

/-- A closed sink drops whatever is published on it. -/
theorem publish_of_closed
    {sink : SseSink} (frame : SseFrame) (closed : sink.isOpen = false) :
    sink.publish frame = sink := by
  simp [publish, closed]

@[simp]
theorem publishFinal_isOpen (event : SseEvent) (sink : SseSink) :
    (sink.publishFinal event).isOpen = false :=
  rfl

@[simp]
theorem publishFinal_sent (event : SseEvent) (sink : SseSink) :
    (sink.publishFinal event).sent = (sink.publish (.event event)).sent :=
  rfl

/-- Reading delivers exactly the next unread frame, as long as the receiver
has not fallen more than the capacity behind. -/
theorem recv_of_unread_cons
    {sink : SseSink} {receiver : Receiver}
    {frame : SseFrame} {rest : List SseFrame}
    (nextUnread : sink.unread receiver = frame :: rest)
    (keepsUp : sink.sent.length ≤ receiver.next + sink.capacity) :
    sink.recv receiver = (.frame frame, { next := receiver.next + 1 }) ∧
      sink.unread { next := receiver.next + 1 } = rest := by
  have found : sink.sent[receiver.next]? = some frame := by
    have headOfDrop := congrArg List.head? nextUnread
    simpa [unread, List.head?_drop] using headOfDrop
  have remaining : sink.sent.drop (receiver.next + 1) = rest := by
    have tailOfDrop := congrArg List.tail nextUnread
    simpa [unread, List.tail_drop] using tailOfDrop
  refine ⟨?_, remaining⟩
  unfold recv
  rw [if_neg (by omega), found]

theorem recv_of_unread_nil
    {sink : SseSink} {receiver : Receiver}
    (allRead : sink.unread receiver = [])
    (keepsUp : sink.sent.length ≤ receiver.next + sink.capacity) :
    sink.recv receiver =
      (if sink.isOpen then .pending else .closed, receiver) := by
  have beyond : sink.sent[receiver.next]? = none := by
    rw [List.getElem?_eq_none_iff]
    exact List.drop_eq_nil_iff.mp allRead
  unfold recv
  rw [if_neg (by omega), beyond]

end SseSink

end A2AShim
