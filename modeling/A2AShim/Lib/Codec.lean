import Mathlib.Data.Option.Basic

/-!
# Codecs

A partial decoder with an encoder.  `Valid` is what every decoded value is,
and what a value needs to survive its encoding.
-/

universe u v

/-- A list is decoded item by item, if each item is. -/
theorem List.mapM_map_of_inverse
    {α : Type u} {β : Type v} {encode : α → β} {decode : β → Option α}
    (values : List α)
    (inverse : ∀ value, value ∈ values → decode (encode value) = some value) :
    (values.map encode).mapM decode = some values := by
  induction values with
  | nil => rfl
  | cons value rest inductionHypothesis =>
      have first := inverse value List.mem_cons_self
      have others :=
        inductionHypothesis fun other member =>
          inverse other (List.mem_cons_of_mem _ member)
      simp [first, others]

structure Codec (α : Type u) (β : Type v) where
  encode : α → β
  decode : β → Option α
  Valid : α → Prop
  valid_of_decode :
    ∀ source value, decode source = some value → Valid value
  decode_encode : ∀ value, Valid value → decode (encode value) = some value

namespace Codec

variable {α : Type u} {β : Type v}

/-- What was decoded once is decoded again from its encoding. -/
theorem stable
    (codec : Codec α β) {source : β} {value : α}
    (decoded : codec.decode source = some value) :
    codec.decode (codec.encode value) = some value :=
  codec.decode_encode value (codec.valid_of_decode source value decoded)

theorem valid_of_mapM
    (codec : Codec α β) {sources : List β} {values : List α}
    (decoded : sources.mapM codec.decode = some values) :
    ∀ value, value ∈ values → codec.Valid value := by
  induction sources generalizing values with
  | nil =>
      cases decoded
      simp
  | cons source rest inductionHypothesis =>
      simp only [List.mapM_cons, Option.pure_def, Option.bind_eq_bind,
        Option.bind_eq_some_iff, Option.some.injEq] at decoded
      obtain ⟨first, isFirst, others, areOthers, rfl⟩ := decoded
      intro value member
      rcases List.mem_cons.mp member with rfl | later
      · exact codec.valid_of_decode source value isFirst
      · exact inductionHypothesis areOthers value later

/-- Item by item. -/
def list (codec : Codec α β) : Codec (List α) (List β) where
  encode values := values.map codec.encode
  decode sources := sources.mapM codec.decode
  Valid values := ∀ value, value ∈ values → codec.Valid value
  valid_of_decode _ _ decoded := codec.valid_of_mapM decoded
  decode_encode values valid :=
    List.mapM_map_of_inverse values fun value member =>
      codec.decode_encode value (valid value member)

end Codec
