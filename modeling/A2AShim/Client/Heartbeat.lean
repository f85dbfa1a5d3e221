import A2AShim.Client.CallHandler

/-!
# The text of a heartbeat

A heartbeat sends a `notifications/progress` frame on every tick.  The message
of a frame is the tail of the text the agent has streamed, of which only the
last bytes are kept.
-/

namespace A2AShim

/-- What the guard and its task share, and the token that stops the task. -/
structure Heartbeat where
  progress : Int
  summary : Option String
  accumulated : List Char
  cancelled : Bool
  deriving DecidableEq, Repr

namespace Heartbeat

def maxAccumBytes : Nat := 4096
def tailChars : Nat := 200

def start : Heartbeat :=
  { progress := 0, summary := none, accumulated := [], cancelled := false }

/-- `fetch_add` on an `i64`, and one more. -/
def nextProgress (progress : Int) : Int :=
  (progress + 1).bmod (2 ^ 64)

def byteSize (text : List Char) : Nat :=
  (text.map Char.utf8Size).sum

/-- The text from the first character boundary that leaves at most `limit`
bytes. -/
def keepTail (limit : Nat) : List Char → List Char
  | [] => []
  | char :: rest =>
      if byteSize (char :: rest) ≤ limit then
        char :: rest
      else
        keepTail limit rest

def appendText (heartbeat : Heartbeat) (text : String) : Heartbeat :=
  { heartbeat with
    accumulated :=
      keepTail maxAccumBytes (heartbeat.accumulated ++ text.toList) }

/-- The message of the next frame. -/
def message (heartbeat : Heartbeat) : Value :=
  match heartbeat.summary with
  | some summary => .string summary
  | none =>
      if heartbeat.accumulated = [] then
        .null
      else
        .string (String.ofList (heartbeat.accumulated.drop
          (heartbeat.accumulated.length - tailChars)))

/-- The `notifications/progress` frame. -/
def frame (token : Value) (progress : Int) (message : Value) : Value :=
  Outbound.object
    [("jsonrpc", .string "2.0"),
      ("method", .string "notifications/progress"),
      ("params", Outbound.object
        [("progressToken", token), ("progress", .number (.int progress)),
          ("total", .null), ("message", message)])]

/-- The progress a frame reports. -/
def progressOf (value : Value) : Option Int :=
  match (value.get "params").bind (Value.get "progress") with
  | some (.number (.int progress)) => some progress
  | _ => none

@[simp]
theorem progressOf_frame (token : Value) (progress : Int) (message : Value) :
    progressOf (frame token progress message) = some progress := by
  simp [progressOf, frame, Outbound.object, Outbound.get_object,
    KeyOrder.insertAll, KeyOrder.member_insert]

@[simp]
theorem get_id_frame (token : Value) (progress : Int) (message : Value) :
    (frame token progress message).get "id" = none := by
  simp [frame, Outbound.object, Outbound.get_object, KeyOrder.insertAll,
    KeyOrder.member_insert]
  rfl

/-! ## The buffer -/

theorem keepTail_suffix (limit : Nat) (text : List Char) :
    keepTail limit text <:+ text := by
  induction text with
  | nil => exact List.suffix_rfl
  | cons char rest inductionHypothesis =>
      unfold keepTail
      split
      · exact List.suffix_rfl
      · exact inductionHypothesis.trans (List.suffix_cons char rest)

theorem byteSize_keepTail (limit : Nat) (text : List Char) :
    byteSize (keepTail limit text) ≤ limit := by
  induction text with
  | nil => exact Nat.zero_le limit
  | cons char rest inductionHypothesis =>
      unfold keepTail
      split
      · assumption
      · exact inductionHypothesis

/-- No longer end of the text fits. -/
theorem keepTail_longest
    {limit : Nat} {text tail : List Char}
    (suffix : tail <:+ text) (fits : byteSize tail ≤ limit) :
    tail <:+ keepTail limit text := by
  induction text with
  | nil => exact suffix
  | cons char rest inductionHypothesis =>
      unfold keepTail
      split
      · exact suffix
      · rename_i tooLong
        rcases List.suffix_cons_iff.mp suffix with rfl | shorter
        · exact absurd fits tooLong
        · exact inductionHypothesis shorter

theorem nextProgress_of_lt
    {progress : Int} (notNegative : 0 ≤ progress)
    (small : progress < 2 ^ 63 - 1) :
    nextProgress progress = progress + 1 := by
  unfold nextProgress
  rw [Int.bmod_eq_of_le]
  · omega
  · omega

end Heartbeat

end A2AShim
