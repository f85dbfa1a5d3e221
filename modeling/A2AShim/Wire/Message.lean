import A2AShim.Wire.Json

/-!
# Messages and parts

`Message`, `Part` and `MessageMetadata` with the decoding their derived
`Deserialize` instances perform on a `serde_json::Value`.
-/

namespace A2AShim

inductive MessageRole where
  | user
  | agent
  deriving DecidableEq, Repr

/-- `Part`, told apart on the wire by which members are present. -/
inductive Part where
  | text (text : String)
  | data (data : Value) (mediaType : String)
  | file (raw url : Option String) (mediaType : String)
      (filename : Option String)
  deriving DecidableEq, Repr

structure MessageMetadata where
  conversation : Option String
  extra : List (String × Value)
  deriving DecidableEq, Repr

structure Message where
  role : MessageRole
  parts : List Part
  metadata : Option MessageMetadata
  deriving DecidableEq, Repr

namespace Value

/-- The members a derived struct decoder reads: those of an object, or the
items of an array that has exactly one item for each declared field. -/
def structMembers (fields : List String) : Value → Option Value
  | .object members => some (.object members)
  | .array items =>
      if items.length = fields.length then
        some (.object (fields.zip items))
      else
        none
  | _ => none

/-- A unit variant of a derived enum: its name, or a one-member object from
its name to null. -/
def variantName : Value → Option String
  | .string name => some name
  | .object [(name, .null)] => some name
  | _ => none

def optional {α : Type} (decode : Value → Option α) :
    Option Value → Option (Option α)
  | none => some none
  | some .null => some none
  | some value => (decode value).map some

end Value

namespace MessageRole

def ofValue (value : Value) : Option MessageRole :=
  match value.variantName with
  | some "user" => some .user
  | some "agent" => some .agent
  | _ => none

end MessageRole

namespace Part

def textOfValue (value : Value) : Option Part := do
  let text ← (← value.get "text").asStr
  return .text text

def dataOfValue (value : Value) : Option Part := do
  let data ← value.get "data"
  let mediaType ← (← value.get "mediaType").asStr
  return .data data mediaType

def fileOfValue (value : Value) : Option Part := do
  let raw ← Value.optional Value.asStr (value.get "raw")
  let url ← Value.optional Value.asStr (value.get "url")
  let mediaType ← (← value.get "mediaType").asStr
  let filename ← Value.optional Value.asStr (value.get "filename")
  return .file raw url mediaType filename

/-- `#[serde(untagged)]`: the first variant, in declaration order, whose
members decode. -/
def ofValue (value : Value) : Option Part :=
  textOfValue value <|> dataOfValue value <|> fileOfValue value

end Part

namespace MessageMetadata

def conversationKey : String :=
  "x-a2a-shim/conversation"

/-- The named member goes to `conversation`; every other member is kept by
`#[serde(flatten)]`. -/
def ofValue : Value → Option MessageMetadata
  | .object members => do
      let conversation ←
        Value.optional Value.asStr ((Value.object members).get conversationKey)
      return {
        conversation
        extra := members.filter fun member => member.1 != conversationKey }
  | _ => none

def getExtra (metadata : MessageMetadata) (key : String) : Option Value :=
  (Value.object metadata.extra).get key

end MessageMetadata

namespace Message

def partsOfValue : Value → Option (List Part)
  | .array items => items.mapM Part.ofValue
  | _ => none

def ofValue (value : Value) : Option Message := do
  let members ← value.structMembers ["role", "parts", "metadata"]
  let role ← MessageRole.ofValue (← members.get "role")
  let parts ← partsOfValue (← members.get "parts")
  let metadata ←
    Value.optional MessageMetadata.ofValue (members.get "metadata")
  return { role, parts, metadata }

end Message

/-- A data part keeps its kind although a file part would also accept it. -/
example :
    Part.ofValue (.object
      [("data", .null), ("mediaType", .string "application/json")]) =
      some (.data .null "application/json") := by
  decide

end A2AShim
