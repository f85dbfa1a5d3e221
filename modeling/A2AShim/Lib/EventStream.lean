import A2AShim.Lib.Records

/-!
# Event streams

A text is cut into lines, and the data lines before a blank line are an event.
Comments and other fields are passed over, and so is what follows the last
line end.
-/

namespace EventStream

/-- The lines of a text; the first of them has begun with `begun`. -/
def linesFrom (begun : List Char) : List Char → List (List Char)
  | [] => []
  | char :: rest =>
      if char = '\n' then
        begun :: linesFrom [] rest
      else
        linesFrom (begun ++ [char]) rest

/-- The value of a `data` line, without its one leading space. -/
def dataOf (line : List Char) : Option (List Char) :=
  if "data:".toList.isPrefixOf line then
    match line.drop 5 with
    | ' ' :: rest => some rest
    | value => some value
  else
    none

/-- The events of the lines, after the data lines `held`. -/
def eventsFrom (held : List (List Char)) : List (List Char) → List String
  | [] => []
  | [] :: rest =>
      match held with
      | [] => eventsFrom [] rest
      | _ =>
          String.ofList (List.intercalate ['\n'] held) :: eventsFrom [] rest
  | line :: rest =>
      match dataOf line with
      | some value => eventsFrom (held ++ [value]) rest
      | none => eventsFrom held rest

def events (body : String) : List String :=
  eventsFrom [] (linesFrom [] body.toList)

/-- What a server sends: an event with one data line, or a comment. -/
inductive Frame where
  | data (text : String)
  | comment (text : String)
  deriving DecidableEq, Repr

namespace Frame

def line : Frame → List Char
  | data text => "data: ".toList ++ text.toList
  | comment text => ':' :: text.toList

def text (frame : Frame) : String :=
  String.ofList (Records.terminated '\n' frame.line)

def data? : Frame → Option String
  | data text => some text
  | comment _ => none

/-- The text has no control character, so no line end either. -/
def Clean (frame : Frame) : Prop :=
  ∀ char, char ∈ frame.line → 32 ≤ char.toNat

theorem Clean.unmarked {frame : Frame} (clean : frame.Clean) :
    '\n' ∉ frame.line := by
  intro member
  have isControl := clean '\n' member
  revert isControl
  decide

end Frame

theorem linesFrom_unmarked
    (begun rest : List Char) {text : List Char} (unmarked : '\n' ∉ text) :
    linesFrom begun (text ++ rest) = linesFrom (begun ++ text) rest := by
  induction text generalizing begun with
  | nil => simp
  | cons char others inductionHypothesis =>
      have isOther : char ≠ '\n' := by
        intro same
        exact unmarked (by simp [same])
      have later : '\n' ∉ others := fun member =>
        unmarked (List.mem_cons_of_mem char member)
      rw [List.cons_append, linesFrom, if_neg isOther,
        inductionHypothesis (begun ++ [char]) later, List.append_assoc]
      rfl

theorem linesFrom_terminated
    {record rest : List Char} (unmarked : '\n' ∉ record) :
    linesFrom [] (Records.terminated '\n' record ++ rest) =
      record :: [] :: linesFrom [] rest := by
  rw [Records.terminated, List.append_assoc,
    linesFrom_unmarked [] _ unmarked]
  simp [linesFrom]

/-- A frame is read back. -/
theorem eventsFrom_frame (frame : Frame) (rest : List (List Char)) :
    eventsFrom [] (frame.line :: [] :: rest) =
      frame.data?.toList ++ eventsFrom [] rest := by
  cases frame with
  | data text =>
      have isData :
          dataOf ("data: ".toList ++ text.toList) = some text.toList :=
        rfl
      have isLine : "data: ".toList ++ text.toList =
          'd' :: ("ata: ".toList ++ text.toList) :=
        rfl
      simp only [Frame.line]
      rw [isLine, eventsFrom, ← isLine, isData]
      · simp [eventsFrom, Frame.data?, List.intercalate, String.ofList_toList]
      · simp
  | comment text =>
      simp [Frame.line, eventsFrom, dataOf, Frame.data?]

/-- A stream of clean frames is read back from its body. -/
theorem events_frames
    (frames : List Frame) (clean : ∀ frame, frame ∈ frames → frame.Clean) :
    events (String.join (frames.map Frame.text)) =
      frames.filterMap Frame.data? := by
  have isBody :
      (String.join (frames.map Frame.text)).toList =
        frames.flatMap fun frame => Records.terminated '\n' frame.line := by
    simp [String.toList_join, List.flatMap_map, Frame.text]
  rw [events, isBody]
  induction frames with
  | nil => rfl
  | cons frame rest inductionHypothesis =>
      have first := clean frame List.mem_cons_self
      have others :=
        inductionHypothesis (fun other member =>
          clean other (List.mem_cons_of_mem frame member)) (by
            simp [String.toList_join, List.flatMap_map, Frame.text])
      rw [List.flatMap_cons, linesFrom_terminated first.unmarked,
        eventsFrom_frame, others]
      cases frame <;> rfl

/-- Without a line end there is no event. -/
theorem events_unterminated
    {body : String} (unmarked : '\n' ∉ body.toList) : events body = [] := by
  have isRest := linesFrom_unmarked [] [] unmarked
  rw [List.append_nil] at isRest
  rw [events, isRest]
  rfl

/-- What a reader of event streams does: an event that is not ended by a blank
line is not dispatched, and a comment is no event. -/
structure ReadsEvents (read : String → List String) : Prop where
  unterminated : ∀ body : String,
    (∀ char, char ∈ body.toList → 32 ≤ char.toNat) → read body = []
  frames : ∀ frames : List Frame,
    (∀ frame, frame ∈ frames → frame.Clean) →
      read (String.join (frames.map Frame.text)) =
        frames.filterMap Frame.data?

theorem readsEvents_events : ReadsEvents events where
  unterminated := by
    intro body clean
    apply events_unterminated
    intro member
    have isControl := clean '\n' member
    revert isControl
    decide
  frames := events_frames

end EventStream
