import A2AShim.Lib.Separated
import A2AShim.Serve.Translate

/-!
# Parts that come back

What is left of a list of parts after it has been translated for the agent and
back: the parts the agent's capabilities permit, each in a normal form.
-/

namespace A2AShim

/-- The capability a media type of inline content needs. -/
def PartCaps.allowsMedia (caps : PartCaps) (mediaType : String) : Bool :=
  if Translate.startsWith "image/" mediaType then caps.image
  else if Translate.startsWith "audio/" mediaType then caps.audio
  else caps.embeddedContext

/-- The agent can be sent the part. -/
def PartCaps.permits (caps : PartCaps) : Part → Bool
  | .text _ => true
  | .data _ _ => caps.embeddedContext
  | .file (some _) _ mediaType _ => caps.allowsMedia mediaType
  | .file .none _ _ _ => true

/-- The agent can be sent the block. -/
def PartCaps.accepts (caps : PartCaps) : ContentBlock → Bool
  | .image _ _ => caps.image
  | .audio _ _ => caps.audio
  | .resource _ => caps.embeddedContext
  | .text _ | .resourceLink _ | .other => true

namespace Translate

/-- The text after the last slash of the url; the whole url when there is no
slash or nothing after it. -/
def linkName (url : String) : String :=
  match Separated.afterLast '/' url.toList with
  | some (first :: rest) => String.ofList (first :: rest)
  | _ => url

/-- A part without what the translation does not carry. -/
def normalForm : Part → Option Part
  | .text text => some (.text text)
  | .data data mediaType => some (.data data mediaType)
  | .file (some raw) _ mediaType _ =>
      some (.file (some raw) none mediaType none)
  | .file none (some url) mediaType _ =>
      some (.file none (some url) mediaType (some (linkName url)))
  | .file none none _ _ => none

/-- The permitted parts, in order and in normal form. -/
def gatedNormalForm (caps : PartCaps) (parts : List Part) : List Part :=
  (parts.filter caps.permits).filterMap normalForm

/-- The name the translation derives is the text after the last slash. -/
theorem deriveLinkName_eq (url : String) :
    deriveLinkName url = linkName url := by
  have fromEnd := Separated.takeWhile_reverse '/' url.toList
  unfold deriveLinkName linkName
  simp only [fromEnd]
  cases Separated.afterLast '/' url.toList with
  | none =>
      cases empty : url.toList with
      | nil => simp
      | cons first rest =>
          have whole : String.ofList (first :: rest) = url := by
            rw [← empty, String.ofList_toList]
          simpa using whole
  | some tail =>
      cases tail with
      | nil => rfl
      | cons first rest => rfl

variable (json : SerdeJson) (caps : PartCaps)

/-- The values of the data parts are read back as they are printed. -/
def ReadsBack (parts : List Part) : Prop :=
  ∀ data mediaType, Part.data data mediaType ∈ parts →
    json.fromText (json.toText data) = some data

/-- One part there and back. -/
theorem translateOne_back
    {part : Part}
    (readsBack : ∀ data mediaType, part = .data data mediaType →
      json.fromText (json.toText data) = some data) :
    (translateOneInbound json caps part).bind (translateOneOutbound json) =
      if caps.permits part then normalForm part else none := by
  cases part with
  | text text => rfl
  | data data mediaType =>
      have read := readsBack data mediaType rfl
      cases gate : caps.embeddedContext with
      | false => simp [translateOneInbound, PartCaps.permits, gate]
      | true =>
          simp [translateOneInbound, translateOneOutbound, PartCaps.permits,
            gate, read, normalForm]
  | file raw url mediaType filename =>
      cases raw with
      | some raw =>
          unfold translateOneInbound PartCaps.permits PartCaps.allowsMedia
          by_cases image : startsWith "image/" mediaType = true
          · cases caps.image <;>
              simp [image, translateOneOutbound, normalForm]
          · by_cases audio : startsWith "audio/" mediaType = true
            · cases caps.audio <;>
                simp [image, audio, translateOneOutbound, normalForm]
            · cases caps.embeddedContext <;>
                simp [image, audio, translateOneOutbound, normalForm]
      | none =>
          cases url with
          | some url =>
              simp [translateOneInbound, translateOneOutbound,
                PartCaps.permits, normalForm, deriveLinkName_eq]
          | none => rfl

/-- A block is only made for an agent that accepts it. -/
theorem accepts_of_translated
    {part : Part} {block : ContentBlock}
    (translated : translateOneInbound json caps part = some block) :
    caps.accepts block = true := by
  cases part with
  | text text =>
      cases translated
      rfl
  | data data mediaType =>
      simp only [translateOneInbound] at translated
      split at translated
      · rename_i gate
        cases translated
        exact gate
      · cases translated
  | file raw url mediaType filename =>
      cases raw with
      | some raw =>
          simp only [translateOneInbound] at translated
          split at translated
          · split at translated
            · rename_i gate
              cases translated
              exact gate
            · cases translated
          · split at translated
            · split at translated
              · rename_i gate
                cases translated
                exact gate
              · cases translated
            · split at translated
              · rename_i gate
                cases translated
                exact gate
              · cases translated
      | none =>
          cases url with
          | some url =>
              cases translated
              rfl
          | none => cases translated

theorem translated_back
    {parts : List Part} (readsBack : ReadsBack json parts) :
    acpToA2a json (a2aToAcp json parts caps) = gatedNormalForm caps parts := by
  unfold acpToA2a a2aToAcp gatedNormalForm
  rw [List.filterMap_filterMap, List.filterMap_filter]
  apply List.filterMap_congr
  intro part member
  apply translateOne_back
  rintro data mediaType rfl
  exact readsBack data mediaType member

/-- Translating parts for the agent and back leaves the permitted ones in
normal form, and the agent gets no block it has not asked for. -/
theorem inbound_outbound_normal_form
    (parts : List Part) (readsBack : ReadsBack json parts) :
    acpToA2a json (a2aToAcp json parts caps) = gatedNormalForm caps parts ∧
      ∀ block, block ∈ a2aToAcp json parts caps →
        caps.accepts block = true := by
  refine ⟨translated_back json caps readsBack, ?_⟩
  intro block member
  obtain ⟨part, _, translated⟩ := List.mem_filterMap.mp member
  exact accepts_of_translated json caps translated

/-- A message with every kind of part. -/
def mixedParts : List Part :=
  [.text "hi", .data .null "application/json",
    .file (some "aGk=") (some "http://h/a.png") "image/png" (some "a.png"),
    .file (some "aGk=") none "audio/wav" none,
    .file none (some "http://h/b/c.txt") "text/plain" none,
    .file none (some "http://h/d/") "text/plain" none,
    .file none none "text/plain" none]

/-- An agent that takes images and no other inline content. -/
theorem image_agent_normal_form :
    acpToA2a .constant
          (a2aToAcp .constant mixedParts
            { image := true, audio := false, embeddedContext := false }) =
        [.text "hi", .file (some "aGk=") none "image/png" none,
          .file none (some "http://h/b/c.txt") "text/plain" (some "c.txt"),
          .file none (some "http://h/d/") "text/plain"
            (some "http://h/d/")] := by
  have readsBack : ReadsBack .constant mixedParts := by
    intro data mediaType member
    simp only [mixedParts, List.mem_cons, reduceCtorEq, Part.data.injEq,
      List.not_mem_nil, or_false, false_or] at member
    rw [member.1]
    rfl
  have back := (inbound_outbound_normal_form .constant
    { image := true, audio := false, embeddedContext := false } mixedParts
    readsBack).1
  rw [back]
  decide

end Translate

end A2AShim
