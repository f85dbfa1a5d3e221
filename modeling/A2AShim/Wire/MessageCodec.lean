import A2AShim.Lib.Codec
import A2AShim.Wire.Message

/-!
# Encoding messages

The derived `Serialize` instances write the members in the order of their
declaration.  Members with `skip_serializing_if` are left out when they are
absent.
-/

namespace A2AShim

namespace Value

/-- An object from its members, without the absent ones. -/
def ofFields (fields : List (String × Option Value)) : Value :=
  .object (fields.filterMap fun field => field.2.map fun value =>
    (field.1, value))

@[simp]
theorem get_ofFields_nil (key : String) : (ofFields []).get key = none :=
  rfl

@[simp]
theorem get_ofFields_cons
    (key name : String) (member : Option Value)
    (rest : List (String × Option Value)) :
    (ofFields ((name, member) :: rest)).get key =
      if name = key then
        member.or ((ofFields rest).get key)
      else
        (ofFields rest).get key := by
  cases member with
  | none => simp [ofFields, get]
  | some value =>
      by_cases same : name = key
      · simp [ofFields, get, same]
      · simp [ofFields, get, same]

@[simp]
theorem structMembers_ofFields
    (names : List String) (fields : List (String × Option Value)) :
    (ofFields fields).structMembers names = some (ofFields fields) :=
  rfl

def asItems : Value → Option (List Value)
  | .array items => some items
  | _ => none

/-- The array of the encodings. -/
def arrayOf {α : Type} (codec : Codec α Value) : Codec (List α) Value where
  encode values := .array (codec.list.encode values)
  decode value := value.asItems.bind codec.list.decode
  Valid := codec.list.Valid
  valid_of_decode source values decoded := by
    obtain ⟨items, _, isList⟩ := Option.bind_eq_some_iff.mp decoded
    exact codec.list.valid_of_decode items values isList
  decode_encode values valid := codec.list.decode_encode values valid

section Optional

variable {α : Type} (codec : Codec α Value)

/-- What an optional member must be: absent, or valid and not printed as
null. -/
def OptionalValid (value : Option α) : Prop :=
  ∀ inner, value = some inner → codec.Valid inner

theorem optional_encode
    {value : Option α} (valid : OptionalValid codec value)
    (present : ∀ inner, codec.encode inner ≠ .null) :
    optional codec.decode (value.map codec.encode) = some value := by
  cases value with
  | none => rfl
  | some inner =>
      have decoded := codec.decode_encode inner (valid inner rfl)
      rw [Option.map_some]
      unfold optional
      split
      · rename_i isNone
        cases isNone
      · rename_i isNull
        exact absurd (Option.some.inj isNull) (present inner)
      · rename_i other isOther
        rw [← Option.some.inj isOther, decoded]
        rfl

theorem optionalValid_of_decode
    {member : Option Value} {value : Option α}
    (decoded : optional codec.decode member = some value) :
    OptionalValid codec value := by
  intro inner isInner
  subst isInner
  unfold optional at decoded
  split at decoded
  · cases decoded
  · cases decoded
  · obtain ⟨other, isOther, same⟩ := Option.map_eq_some_iff.mp decoded
    cases same
    exact codec.valid_of_decode _ inner isOther

end Optional

/-- A member of any kind is kept as it is, but null is taken as absent. -/
theorem optional_some_ne_null
    {member value : Option Value}
    (decoded : optional some member = some value) :
    value ≠ some .null := by
  unfold optional at decoded
  split at decoded
  · cases decoded
    simp
  · cases decoded
    simp
  · rename_i other notNull
    cases decoded
    intro isNull
    exact notNull (Option.some.inj isNull)

theorem optional_some_self
    {value : Option Value} (notNull : value ≠ some .null) :
    optional some value = some value := by
  unfold optional
  split
  · rfl
  · exact absurd rfl notNull
  · rfl

def textCodec : Codec String Value where
  encode := .string
  decode := asStr
  Valid _ := True
  valid_of_decode _ _ _ := trivial
  decode_encode _ _ := rfl

end Value

namespace MessageRole

def toValue : MessageRole → Value
  | .user => .string "user"
  | .agent => .string "agent"

theorem ofValue_toValue (role : MessageRole) :
    ofValue role.toValue = some role := by
  cases role <;> rfl

end MessageRole

namespace Part

def toValue : Part → Value
  | .text content => .ofFields [("text", some (.string content))]
  | .data content mediaType =>
      .ofFields
        [("data", some content), ("mediaType", some (.string mediaType))]
  | .file raw url mediaType filename =>
      .ofFields
        [("raw", raw.map .string), ("url", url.map .string),
          ("mediaType", some (.string mediaType)),
          ("filename", filename.map .string)]

theorem optional_string (member : Option String) :
    Value.optional Value.asStr (member.map .string) = some member := by
  cases member <;> rfl

/-- Every part is decoded as what it was: the members an earlier variant needs
are not written for a later one. -/
theorem ofValue_toValue (part : Part) : ofValue part.toValue = some part := by
  cases part with
  | text content => simp [toValue, ofValue, textOfValue, Value.asStr]
  | data content mediaType =>
      simp [toValue, ofValue, textOfValue, dataOfValue, Value.asStr]
  | file raw url mediaType filename =>
      simp [toValue, ofValue, textOfValue, dataOfValue, fileOfValue,
        optional_string, Value.asStr]

def codec : Codec Part Value where
  encode := toValue
  decode := ofValue
  Valid _ := True
  valid_of_decode _ _ _ := trivial
  decode_encode part _ := ofValue_toValue part

end Part

namespace MessageMetadata

def toValue (metadata : MessageMetadata) : Value :=
  .object
    ((metadata.conversation.map fun conversationId =>
      (conversationKey, Value.string conversationId)).toList ++ metadata.extra)

/-- The residual members do not hold the named one. -/
def Valid (metadata : MessageMetadata) : Prop :=
  ∀ member, member ∈ metadata.extra → member.1 ≠ conversationKey

theorem valid_of_ofValue
    {value : Value} {metadata : MessageMetadata}
    (decoded : ofValue value = some metadata) : metadata.Valid := by
  cases value with
  | object members =>
      simp only [ofValue, Option.bind_eq_bind, Option.bind_eq_some_iff,
        Option.pure_def, Option.some.injEq] at decoded
      obtain ⟨conversation, _, rfl⟩ := decoded
      intro member isMember
      simpa using (List.mem_filter.mp isMember).2
  | _ => cases decoded

theorem ofValue_toValue
    {metadata : MessageMetadata} (valid : metadata.Valid) :
    ofValue metadata.toValue = some metadata := by
  have isKept :
      (metadata.extra.filter fun member => member.1 != conversationKey) =
        metadata.extra := by
    rw [List.filter_eq_self]
    intro member isMember
    simpa using valid member isMember
  have isResidual :
      (metadata.extra.find? fun member => member.1 == conversationKey) =
        none := by
    rw [List.find?_eq_none]
    intro member isMember
    simpa using valid member isMember
  rcases metadata with ⟨_ | conversationId, extra⟩
  · simp only [toValue, ofValue, Value.get, Option.map_none, Option.toList,
      List.nil_append, isResidual, isKept]
    rfl
  · simp only [toValue, ofValue, Value.get, Option.map_some, Option.toList]
    simp [Value.optional, Value.asStr, isKept]

def codec : Codec MessageMetadata Value where
  encode := toValue
  decode := ofValue
  Valid := Valid
  valid_of_decode _ _ decoded := valid_of_ofValue decoded
  decode_encode _ valid := ofValue_toValue valid

end MessageMetadata

namespace Message

def toValue (message : Message) : Value :=
  .ofFields
    [("role", some message.role.toValue),
      ("parts", some ((Value.arrayOf Part.codec).encode message.parts)),
      ("metadata", message.metadata.map MessageMetadata.toValue)]

def Valid (message : Message) : Prop :=
  Value.OptionalValid MessageMetadata.codec message.metadata

theorem partsOfValue_eq (value : Value) :
    partsOfValue value = (Value.arrayOf Part.codec).decode value := by
  cases value <;> rfl

theorem valid_of_ofValue
    {value : Value} {message : Message}
    (decoded : ofValue value = some message) : message.Valid := by
  simp only [ofValue, Option.bind_eq_bind, Option.bind_eq_some_iff,
    Option.pure_def, Option.some.injEq] at decoded
  obtain ⟨_, _, _, _, _, _, _, _, _, _, metadata, isMetadata, rfl⟩ := decoded
  exact Value.optionalValid_of_decode MessageMetadata.codec isMetadata

theorem ofValue_toValue
    {message : Message} (valid : message.Valid) :
    ofValue message.toValue = some message := by
  have parts :=
    (Value.arrayOf Part.codec).decode_encode message.parts
      fun _ _ => trivial
  have metadata :
      Value.optional MessageMetadata.ofValue
          (message.metadata.map MessageMetadata.toValue) =
        some message.metadata :=
    Value.optional_encode MessageMetadata.codec valid fun _ isNull =>
      nomatch isNull
  simp [toValue, ofValue, MessageRole.ofValue_toValue, partsOfValue_eq, parts,
    metadata]

def codec : Codec Message Value where
  encode := toValue
  decode := ofValue
  Valid := Valid
  valid_of_decode _ _ decoded := valid_of_ofValue decoded
  decode_encode _ valid := ofValue_toValue valid

end Message

end A2AShim
