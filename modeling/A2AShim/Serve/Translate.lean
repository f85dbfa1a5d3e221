import A2AShim.Wire.Message

/-!
# Parts and content blocks

Translation between A2A parts and ACP content blocks, and the size check on
inbound parts.  The ACP types keep what the translation reads.  The last
constructor of each stands for the variants a later protocol crate may add.
-/

namespace A2AShim

structure ResourceLink where
  name : String
  uri : String
  mimeType : Option String
  deriving DecidableEq, Repr

inductive EmbeddedResource where
  | text (text uri : String) (mimeType : Option String)
  | blob (blob uri : String) (mimeType : Option String)
  | other
  deriving DecidableEq, Repr

inductive ContentBlock where
  | text (text : String)
  | image (data mimeType : String)
  | audio (data mimeType : String)
  | resourceLink (link : ResourceLink)
  | resource (resource : EmbeddedResource)
  | other
  deriving DecidableEq, Repr

structure PartCaps where
  image : Bool
  audio : Bool
  embeddedContext : Bool
  deriving DecidableEq, Repr

namespace PartCaps

/-- `PartCaps::default`, which both handlers pass. -/
def none : PartCaps :=
  { image := false, audio := false, embeddedContext := false }

end PartCaps

namespace Translate

def startsWith (stem text : String) : Bool :=
  stem.toList.isPrefixOf text.toList

/-- The text after the last slash, or the whole url when that is empty. -/
def deriveLinkName (url : String) : String :=
  let tail := (url.toList.reverse.takeWhile (· != '/')).reverse
  if tail.isEmpty then url else String.ofList tail

variable (json : SerdeJson)

def translateOneInbound (caps : PartCaps) : Part → Option ContentBlock
  | .text text => some (.text text)
  | .file (some raw) _ mediaType _ =>
      if startsWith "image/" mediaType then
        if caps.image then some (.image raw mediaType) else none
      else if startsWith "audio/" mediaType then
        if caps.audio then some (.audio raw mediaType) else none
      else if caps.embeddedContext then
        let uri := "data:" ++ mediaType ++ ";base64," ++ raw
        some (.resource (.blob raw uri (some mediaType)))
      else
        none
  | .file none (some url) mediaType _ =>
      some (.resourceLink
        { name := deriveLinkName url, uri := url, mimeType := some mediaType })
  | .file none none _ _ => none
  | .data data mediaType =>
      if caps.embeddedContext then
        let text := json.toText data
        let uri := "data:" ++ mediaType ++ ";utf8," ++ text
        some (.resource (.text text uri (some mediaType)))
      else
        none

/-- `a2a_to_acp`: gated parts are dropped, the rest keep their order. -/
def a2aToAcp (parts : List Part) (caps : PartCaps) : List ContentBlock :=
  parts.filterMap (translateOneInbound json caps)

def translateOneOutbound : ContentBlock → Option Part
  | .text text => some (.text text)
  | .image data mimeType => some (.file (some data) none mimeType none)
  | .audio data mimeType => some (.file (some data) none mimeType none)
  | .resourceLink link =>
      some (.file none (some link.uri)
        (link.mimeType.getD "application/octet-stream") (some link.name))
  | .resource (.blob blob _ mimeType) =>
      some (.file (some blob) none
        (mimeType.getD "application/octet-stream") none)
  | .resource (.text text _ mimeType) =>
      some (.data ((json.fromText text).getD (.string text))
        (mimeType.getD "text/plain"))
  | .resource .other => none
  | .other => none

def acpToA2a (blocks : List ContentBlock) : List Part :=
  blocks.filterMap (translateOneOutbound json)

structure PartTooLargeError where
  index : Nat
  size : Nat
  max : Nat
  deriving DecidableEq, Repr

def PartTooLargeError.text (error : PartTooLargeError) : String :=
  "part " ++ toString error.index ++ " too large: " ++ toString error.size ++
    " bytes exceeds --max-part-bytes=" ++ toString error.max

/-- Bytes of content in a part; media type and file name are not counted. -/
def partPayloadSize : Part → Nat
  | .text text => text.utf8ByteSize
  | .file (some raw) _ _ _ => raw.utf8ByteSize
  | .file none (some url) _ _ => url.utf8ByteSize
  | .file none none _ _ => 0
  | .data data _ => (json.toText data).utf8ByteSize

def validatePartsFrom (maxBytes : Nat) :
    Nat → List Part → Except PartTooLargeError Unit
  | _, [] => .ok ()
  | index, part :: rest =>
      if maxBytes < partPayloadSize json part then
        .error { index, size := partPayloadSize json part, max := maxBytes }
      else
        validatePartsFrom maxBytes (index + 1) rest

def validateParts (parts : List Part) (maxBytes : Nat) :
    Except PartTooLargeError Unit :=
  validatePartsFrom json maxBytes 0 parts

/-- The parts pass exactly when each of them fits. -/
theorem validateParts_ok_iff (parts : List Part) (maxBytes : Nat) :
    validateParts json parts maxBytes = .ok () ↔
      ∀ part, part ∈ parts → partPayloadSize json part ≤ maxBytes := by
  have fromAny :
      ∀ index, validatePartsFrom json maxBytes index parts = .ok () ↔
        ∀ part, part ∈ parts → partPayloadSize json part ≤ maxBytes := by
    induction parts with
    | nil => simp [validatePartsFrom]
    | cons part rest inductionHypothesis =>
        intro index
        by_cases oversized : maxBytes < partPayloadSize json part
        · simp only [validatePartsFrom, oversized, if_true, reduceCtorEq,
            false_iff]
          intro fits
          have bound := fits part List.mem_cons_self
          omega
        · simp only [validatePartsFrom, oversized, if_false,
            inductionHypothesis, List.mem_cons, forall_eq_or_imp]
          exact (and_iff_right (Nat.le_of_not_lt oversized)).symm
  exact fromAny 0

end Translate

end A2AShim
