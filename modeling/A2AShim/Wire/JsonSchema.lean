import Mathlib.Algebra.Order.Ring.Nat
import Mathlib.Data.Rat.Defs
import A2AShim.Wire.Json

/-!
# JSON schemas

Which values satisfy a schema, for the keywords a tool definition uses.  Other
keywords are annotations: they say nothing about the value.
-/

namespace A2AShim

/-- The number itself; a float is read from the fields of its bits. -/
def Number.toRat : Number → Rat
  | .int value => value
  | .float bits =>
      let exponent := bits.toNat / 2 ^ 52 % 2 ^ 11
      let fraction := bits.toNat % 2 ^ 52
      let significand := if exponent = 0 then fraction else fraction + 2 ^ 52
      let scale := max exponent 1
      let magnitude : Rat :=
        if 1075 ≤ scale then
          (significand * 2 ^ (scale - 1075) : Nat)
        else
          mkRat significand (2 ^ (1075 - scale))
      if bits.toNat < 2 ^ 63 then magnitude else -magnitude

theorem Number.toRat_int (value : Int) : (Number.int value).toRat = value :=
  rfl

namespace JsonSchema

def typeHolds : String → Value → Bool
  | "object", .object _ => true
  | "array", .array _ => true
  | "string", .string _ => true
  | "number", .number _ => true
  | "boolean", .bool _ => true
  | "null", .null => true
  | _, _ => false

/-- The keywords that have no schemas inside. -/
def assertionHolds : String → Value → Value → Bool
  | "type", .string type, value => typeHolds type value
  | "required", .array names, .object members =>
      names.all fun name =>
        members.any fun member => Value.string member.1 == name
  | "minimum", .number least, .number value =>
      decide (least.toRat ≤ value.toRat)
  | "enum", .array items, value => items.contains value
  | _, _, _ => true

/-- The members of a value that `properties` does not name. -/
def additional (keywords : List (String × Value)) :
    Value → List (String × Value)
  | .object members =>
      members.filter fun member =>
        (((Value.object keywords).get "properties").bind
          (Value.get member.1)).isNone
  | _ => []

mutual

/-- The value satisfies the schema. -/
def holds : Value → Value → Bool
  | .bool allowed, _ => allowed
  | .object keywords, value => keywordsHold keywords keywords value
  | _, _ => false

/-- `whole` are all keywords of the schema. -/
def keywordsHold (whole : List (String × Value)) :
    List (String × Value) → Value → Bool
  | [], _ => true
  | (keyword, argument) :: rest, value =>
      (if keyword = "properties" then
        propertiesHold argument value
      else if keyword = "additionalProperties" then
        (additional whole value).all fun member => holds argument member.2
      else
        assertionHolds keyword argument value) &&
        keywordsHold whole rest value

def propertiesHold : Value → Value → Bool
  | .object properties, value => membersHold properties value
  | _, _ => true

/-- Each member that is there satisfies its schema. -/
def membersHold : List (String × Value) → Value → Bool
  | [], _ => true
  | (name, schema) :: rest, value =>
      (match value.get name with
      | none => true
      | some member => holds schema member) &&
        membersHold rest value

end

variable {whole keywords properties : List (String × Value)} {value : Value}

/-- Every keyword says its own. -/
theorem keywordsHold_iff :
    keywordsHold whole keywords value = true ↔
      ∀ found, found ∈ keywords →
        keywordsHold whole [found] value = true := by
  induction keywords with
  | nil => simp [keywordsHold]
  | cons first rest inductionHypothesis =>
      rcases first with ⟨keyword, argument⟩
      rw [keywordsHold, Bool.and_eq_true, inductionHypothesis]
      simp [keywordsHold]

theorem membersHold_iff :
    membersHold properties value = true ↔
      ∀ found, found ∈ properties →
        ∀ member, value.get found.1 = some member →
          holds found.2 member = true := by
  induction properties with
  | nil => simp [membersHold]
  | cons first rest inductionHypothesis =>
      rcases first with ⟨name, schema⟩
      rw [membersHold, Bool.and_eq_true, inductionHypothesis]
      cases found : value.get name with
      | none => simp [found]
      | some member => simp [found]

/-- A value of the type object has the members that are required. -/
theorem get_of_required
    {names : List Value} {name : String}
    (isObject : keywordsHold whole [("type", .string "object")] value = true)
    (required : keywordsHold whole [("required", .array names)] value = true)
    (listed : Value.string name ∈ names) :
    ∃ member, value.get name = some member := by
  cases value with
  | object members =>
      simp only [keywordsHold, assertionHolds, List.all_eq_true,
        List.any_eq_true, beq_iff_eq, Bool.and_true, if_false,
        String.reduceEq] at required
      obtain ⟨found, isMember, sameName⟩ := required _ listed
      have named : (members.find? fun member => member.1 == name).isSome := by
        rw [List.find?_isSome]
        exact ⟨found, isMember, beq_iff_eq.mpr (Value.string.inj sameName)⟩
      obtain ⟨member, isFound⟩ := Option.isSome_iff_exists.mp named
      exact ⟨member.2, by rw [Value.get, isFound]; rfl⟩
  | _ => simp [keywordsHold, assertionHolds, typeHolds] at isObject

end JsonSchema

end A2AShim
