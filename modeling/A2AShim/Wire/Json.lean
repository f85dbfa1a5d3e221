import Mathlib.Logic.Basic

/-!
# JSON values

`serde_json::Value` as the shim sees it.  Numbers are the two forms the crate
keeps without arbitrary precision: an integer, or the bits of an `f64`.

Printing and parsing text belong to the `serde_json` crate.  They enter the
model through `SerdeJson`, so that every result holds for whatever printer and
parser the crate ships.
-/

namespace A2AShim

inductive Number where
  | int (value : Int)
  | float (bits : UInt64)
  deriving DecidableEq, Repr

inductive Value where
  | null
  | bool (value : Bool)
  | number (value : Number)
  | string (text : String)
  | array (items : List Value)
  | object (members : List (String × Value))
  deriving Repr, Inhabited

namespace Value

mutual

def same : Value → Value → Bool
  | .null, .null => true
  | .bool left, .bool right => left == right
  | .number left, .number right => decide (left = right)
  | .string left, .string right => left == right
  | .array left, .array right => sameItems left right
  | .object left, .object right => sameMembers left right
  | _, _ => false

def sameItems : List Value → List Value → Bool
  | [], [] => true
  | left :: leftRest, right :: rightRest =>
      same left right && sameItems leftRest rightRest
  | _, _ => false

def sameMembers : List (String × Value) → List (String × Value) → Bool
  | [], [] => true
  | (leftKey, left) :: leftRest, (rightKey, right) :: rightRest =>
      leftKey == rightKey && same left right && sameMembers leftRest rightRest
  | _, _ => false

end

mutual

theorem same_iff : ∀ left right : Value, same left right = true ↔ left = right
  | .null, right => by cases right <;> simp [same]
  | .bool left, right => by cases right <;> simp [same]
  | .number left, right => by cases right <;> simp [same]
  | .string left, right => by cases right <;> simp [same]
  | .array left, right => by
      cases right with
      | array right => simp [same, sameItems_iff left right]
      | _ => simp [same]
  | .object left, right => by
      cases right with
      | object right => simp [same, sameMembers_iff left right]
      | _ => simp [same]

theorem sameItems_iff :
    ∀ left right : List Value, sameItems left right = true ↔ left = right
  | [], right => by cases right <;> simp [sameItems]
  | left :: leftRest, right => by
      cases right with
      | nil => simp [sameItems]
      | cons right rightRest =>
          simp [sameItems, same_iff left right,
            sameItems_iff leftRest rightRest]

theorem sameMembers_iff :
    ∀ left right : List (String × Value),
      sameMembers left right = true ↔ left = right
  | [], right => by cases right <;> simp [sameMembers]
  | (leftKey, left) :: leftRest, right => by
      cases right with
      | nil => simp [sameMembers]
      | cons right rightRest =>
          rcases right with ⟨rightKey, right⟩
          simp [sameMembers, same_iff left right,
            sameMembers_iff leftRest rightRest, and_assoc]

end

instance : DecidableEq Value := fun left right =>
  decidable_of_iff (same left right = true) (same_iff left right)

/-- `Value::get` with a string index: the member of an object, nothing on any
other value. -/
def get (key : String) : Value → Option Value
  | .object members => (members.find? fun member => member.1 == key).map Prod.snd
  | _ => none

def asStr : Value → Option String
  | .string text => some text
  | _ => none

end Value

/-- What the shim uses of `serde_json`'s text side: `Value::to_string`,
`serde_json::from_str`, and the message of a failed `serde_json::from_value`. -/
structure SerdeJson where
  toText : Value → String
  fromText : String → Option Value
  rejection : Value → String

/-- Prints every value alike, for runs in which no text matters. -/
def SerdeJson.constant : SerdeJson :=
  { toText := fun _ => "null"
    fromText := fun _ => some .null
    rejection := fun _ => "" }

end A2AShim
