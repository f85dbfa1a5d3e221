import A2AShim.Wire.Rpc

/-!
# Parts of the legacy wire

Before the cutover a part was told by its `type` member.  `LegacyPart.ofValue`
is the decoder of that time, and the results say what the decoder of today
makes of what it accepted.
-/

namespace A2AShim

inductive LegacyPart where
  | text (text : String)
  | file (name mimeType bytes uri : Option String)
  | data (data : Value)
  deriving DecidableEq, Repr

namespace LegacyPart

def textOfValue (value : Value) : Option LegacyPart := do
  let text ← (← value.get "text").asStr
  return .text text

def fileOfValue (value : Value) : Option LegacyPart := do
  let name ← Value.optional Value.asStr (value.get "name")
  let mimeType ← Value.optional Value.asStr (value.get "mimeType")
  let bytes ← Value.optional Value.asStr (value.get "bytes")
  let uri ← Value.optional Value.asStr (value.get "uri")
  return .file name mimeType bytes uri

def dataOfValue (value : Value) : Option LegacyPart :=
  (value.get "data").map .data

/-- `#[serde(tag = "type")]`. -/
def ofValue (value : Value) : Option LegacyPart :=
  match value.get "type" with
  | some (.string "text") => textOfValue value
  | some (.string "file") => fileOfValue value
  | some (.string "data") => dataOfValue value
  | _ => none

end LegacyPart

namespace Part

/-- The value is taken for a text part of today. -/
def ReadAsText (value : Value) : Prop :=
  ∃ text, ofValue value = some (.text text)

variable {value : Value} {text : String}

theorem textOfValue_iff :
    textOfValue value = some (.text text) ↔
      value.get "text" = some (.string text) := by
  cases found : value.get "text" with
  | none => simp [textOfValue, found]
  | some member => cases member <;> simp [textOfValue, found, Value.asStr]

/-- Only the first variant makes text parts. -/
theorem ofValue_text_iff :
    ofValue value = some (.text text) ↔
      value.get "text" = some (.string text) := by
  rw [← textOfValue_iff]
  constructor
  · intro read
    unfold ofValue at read
    cases asText : textOfValue value with
    | some part =>
        rw [asText] at read
        exact read
    | none =>
        rw [asText] at read
        cases asData : dataOfValue value with
        | some part =>
            rw [asData] at read
            cases read
            simp [dataOfValue, Option.bind_eq_some_iff] at asData
        | none =>
            rw [asData] at read
            have asFile : fileOfValue value = some (.text text) := read
            simp [fileOfValue, Option.bind_eq_some_iff] at asFile
  · intro read
    rw [ofValue, read]
    rfl

/-- The legacy text form is the text form of today with one member more. -/
theorem readAsText_of_legacy_text
    (isLegacy : LegacyPart.ofValue value = some (.text text)) :
    ofValue value = some (.text text) := by
  rw [ofValue_text_iff]
  unfold LegacyPart.ofValue at isLegacy
  split at isLegacy
  · simp only [LegacyPart.textOfValue, Option.bind_eq_bind,
      Option.bind_eq_some_iff, Option.pure_def, Option.some.injEq,
      LegacyPart.text.injEq] at isLegacy
    obtain ⟨member, found, content, isString, rfl⟩ := isLegacy
    cases member <;> cases isString
    exact found
  · simp [LegacyPart.fileOfValue, Option.bind_eq_some_iff] at isLegacy
  · simp [LegacyPart.dataOfValue] at isLegacy
  · cases isLegacy

/-- A legacy part is not taken for a text part of today exactly when it is of
the file or data form and has no string as a further member `text`. -/
theorem legacy_part_not_text_iff
    {legacy : LegacyPart} (isLegacy : LegacyPart.ofValue value = some legacy) :
    ¬ ReadAsText value ↔
      (∀ text, legacy ≠ .text text) ∧
        ∀ text, value.get "text" ≠ some (.string text) := by
  simp only [ReadAsText, not_exists]
  constructor
  · intro notRead
    refine ⟨?_, ?_⟩
    · rintro text rfl
      exact notRead text (readAsText_of_legacy_text isLegacy)
    · intro text found
      exact notRead text (ofValue_text_iff.mpr found)
  · intro absent text read
    exact absent.2 text (ofValue_text_iff.mp read)

/-- A file part of the legacy wire. -/
def legacyFile : Value :=
  .object
    [("type", .string "file"), ("name", .string "x.png"),
      ("mimeType", .string "image/png"), ("bytes", .string "AAAA")]

theorem legacy_file_not_text : ¬ ReadAsText legacyFile := by
  have isLegacy :
      LegacyPart.ofValue legacyFile =
        some (.file (some "x.png") (some "image/png") (some "AAAA") none) :=
    rfl
  refine (legacy_part_not_text_iff isLegacy).mpr ⟨nofun, ?_⟩
  intro text found
  cases found

/-- A request of a legacy client with one text part. -/
def legacyRequest : Value :=
  .object
    [("message", .object
      [("role", .string "user"),
        ("parts", .array
          [.object [("type", .string "text"), ("text", .string "hi")]])])]

/-- It is accepted, and its part is read as a text part of today. -/
theorem legacy_text_is_accepted :
    SendMessageParams.ofValue legacyRequest =
        some
          { id := none
            message :=
              { role := .user, parts := [.text "hi"], metadata := none }
            configuration := none } ∧
      ¬ ∀ value legacy, LegacyPart.ofValue value = some legacy →
        ¬ ReadAsText value := by
  refine ⟨by decide, ?_⟩
  intro rejected
  refine rejected
    (.object [("type", .string "text"), ("text", .string "hi")]) (.text "hi")
    rfl ⟨"hi", rfl⟩

end Part

end A2AShim
