import A2AShim.Lib.Records
import A2AShim.Wire.TaskCodec

/-!
# Framing

Each event is one `data:` line and a blank line.  The text of an event has no
line break, since JSON escapes control characters.
-/

namespace A2AShim

/-- What is used of printing and parsing a value: it comes back, and its text
has no control character. -/
structure SerdeJson.Prints (json : SerdeJson) (value : Value) : Prop where
  reads : json.fromText (json.toText value) = some value
  escapes : ∀ char, char ∈ (json.toText value).toList → 32 ≤ char.toNat

/-- For a value whose text is known. -/
theorem SerdeJson.Prints.of_text
    {json : SerdeJson} {value : Value} {text : String}
    (isText : json.toText value = text)
    (reads : json.fromText text = some value)
    (escapes : (text.toList.all fun char => 32 ≤ char.toNat) = true) :
    json.Prints value := by
  refine { reads := by rw [isText]; exact reads, escapes := ?_ }
  intro char member
  rw [isText] at member
  exact of_decide_eq_true (List.all_eq_true.mp escapes char member)

theorem escapes_append
    {left right : String}
    (escapesLeft : (left.toList.all fun char => 32 ≤ char.toNat) = true)
    (escapesRight : (right.toList.all fun char => 32 ≤ char.toNat) = true) :
    ((left ++ right).toList.all fun char => 32 ≤ char.toNat) = true := by
  rw [String.toList_append, List.all_append, escapesLeft, escapesRight]
  rfl

/-- Prints the values of a table, for runs in which few texts matter. -/
def SerdeJson.ofTable (table : List (Value × String)) : SerdeJson :=
  { toText := fun value =>
      ((table.find? fun row => row.1 = value).map Prod.snd).getD "null"
    fromText := fun text =>
      (table.find? fun row => row.2 = text).map Prod.fst
    rejection := fun _ => "" }

variable (json : SerdeJson)

def encodeSseEvent (event : SseEvent) : String :=
  "data: " ++ json.toText event.toValue ++ "\n\n"

def parseSseDataLine (line : String) : Option SseEvent :=
  (json.fromText line).bind SseEvent.ofValue

/-- The data payload of a record that is one `data:` line. -/
def dataPayload (record : List Char) : Option String :=
  if "data: ".toList.isPrefixOf record then
    some (String.ofList (record.drop 6))
  else
    none

/-- The records of a body up to the blank lines, each parsed. -/
def readEvents (body : String) : Option (List SseEvent) :=
  (Records.split '\n' body.toList).mapM fun record =>
    (dataPayload record).bind (parseSseDataLine json)

variable {json}

def dataLine (json : SerdeJson) (event : SseEvent) : List Char :=
  "data: ".toList ++ (json.toText event.toValue).toList

theorem encodeSseEvent_toList (event : SseEvent) :
    (encodeSseEvent json event).toList =
      Records.terminated '\n' (dataLine json event) := by
  rw [encodeSseEvent, String.toList_append, String.toList_append]
  rfl

theorem dataPayload_dataLine (event : SseEvent) :
    dataPayload (dataLine json event) = some (json.toText event.toValue) := by
  have tagged :
      "data: ".toList.isPrefixOf (dataLine json event) = true :=
    List.isPrefixOf_iff_prefix.mpr (List.prefix_append _ _)
  have isText :
      (dataLine json event).drop 6 = (json.toText event.toValue).toList :=
    List.drop_left' rfl
  rw [dataPayload, if_pos tagged, isText, String.ofList_toList]

/-- The parser reads what the encoder has printed. -/
theorem parseSseDataLine_toText
    {event : SseEvent} (valid : event.Valid)
    (prints : json.Prints event.toValue) :
    parseSseDataLine json (json.toText event.toValue) = some event := by
  simp only [parseSseDataLine, prints.reads, Option.bind_some]
  exact SseEvent.ofValue_toValue valid

theorem unmarked_dataLine
    {event : SseEvent} (prints : json.Prints event.toValue) :
    '\n' ∉ dataLine json event := by
  intro member
  rcases List.mem_append.mp member with inTag | inText
  · revert inTag
    decide
  · have isControl := prints.escapes '\n' inText
    revert isControl
    decide

/-- A stream of events is read back from its body. -/
theorem readEvents_encode
    (events : List SseEvent)
    (valid : ∀ event, event ∈ events → event.Valid)
    (prints : ∀ event, event ∈ events → json.Prints event.toValue) :
    readEvents json (String.join (events.map (encodeSseEvent json))) =
      some events := by
  have isBody :
      (String.join (events.map (encodeSseEvent json))).toList =
        (events.map (dataLine json)).flatMap (Records.terminated '\n') := by
    simp [String.toList_join, List.flatMap_map, encodeSseEvent_toList]
  have isSplit :=
    Records.split_flatMap (events.map (dataLine json)) (by
      intro record member
      obtain ⟨event, isEvent, rfl⟩ := List.mem_map.mp member
      exact unmarked_dataLine (prints event isEvent))
  rw [readEvents, isBody, isSplit]
  refine List.mapM_map_of_inverse events ?_
  intro event member
  rw [dataPayload_dataLine]
  exact parseSseDataLine_toText (valid event member) (prints event member)

end A2AShim
