import Mathlib.Data.List.DropRight
import A2AShim.Client.Heartbeat

/-!
# What a heartbeat shows

`append_text` as the source has it, on the bytes of the buffer: it looks for a
character boundary and slices there.  A slice that is not at a boundary would
panic; here it has no value.
-/

namespace A2AShim

namespace Heartbeat

/-! ## Bytes and boundaries -/

/-- `str::is_char_boundary`. -/
def isCharBoundary : List Char → Nat → Bool
  | _, 0 => true
  | [], _ + 1 => false
  | char :: rest, offset + 1 =>
      decide (char.utf8Size ≤ offset + 1) &&
        isCharBoundary rest (offset + 1 - char.utf8Size)

/-- `&text[offset..]`. -/
def sliceFrom : List Char → Nat → Option (List Char)
  | text, 0 => some text
  | [], _ + 1 => none
  | char :: rest, offset + 1 =>
      if char.utf8Size ≤ offset + 1 then
        sliceFrom rest (offset + 1 - char.utf8Size)
      else
        none

/-- Cut the buffer when it has grown beyond its limit. -/
def trim (buffer : List Char) : Option (List Char) :=
  let size := byteSize buffer
  if maxAccumBytes < size then
    let cutoff := size - maxAccumBytes
    let safeCutoff :=
      ((List.range' cutoff (size - cutoff)).find?
        (isCharBoundary buffer)).getD size
    sliceFrom buffer safeCutoff
  else
    some buffer

/-- `append_text`. -/
def appendTextChecked (heartbeat : Heartbeat) (text : String) :
    Option Heartbeat :=
  (trim (heartbeat.accumulated ++ text.toList)).map fun accumulated =>
    { heartbeat with accumulated }

@[simp]
theorem byteSize_nil : byteSize [] = 0 :=
  rfl

@[simp]
theorem byteSize_cons (char : Char) (rest : List Char) :
    byteSize (char :: rest) = char.utf8Size + byteSize rest := by
  simp [byteSize]

@[simp]
theorem byteSize_append (front tail : List Char) :
    byteSize (front ++ tail) = byteSize front + byteSize tail := by
  simp [byteSize]

theorem byteSize_le_length (text : List Char) :
    byteSize text ≤ 4 * text.length := by
  induction text with
  | nil => exact Nat.le_refl 0
  | cons char rest inductionHypothesis =>
      have size := Char.utf8Size_le_four char
      rw [byteSize_cons, List.length_cons]
      omega

theorem isCharBoundary_iff (text : List Char) (offset : Nat) :
    isCharBoundary text offset = true ↔
      ∃ front tail, text = front ++ tail ∧ byteSize front = offset := by
  induction text generalizing offset with
  | nil =>
      cases offset with
      | zero => simp [isCharBoundary]
      | succ offset => simp [isCharBoundary]
  | cons char rest inductionHypothesis =>
      cases offset with
      | zero =>
          refine iff_of_true rfl ⟨[], char :: rest, rfl, rfl⟩
      | succ offset =>
          simp only [isCharBoundary, Bool.and_eq_true, decide_eq_true_eq,
            inductionHypothesis]
          constructor
          · rintro ⟨fits, front, tail, rfl, size⟩
            refine ⟨char :: front, tail, rfl, ?_⟩
            rw [byteSize_cons, size]
            omega
          · rintro ⟨front, tail, whole, size⟩
            cases front with
            | nil => cases size
            | cons first front =>
                rw [List.cons_append, List.cons.injEq] at whole
                obtain ⟨rfl, rfl⟩ := whole
                rw [byteSize_cons] at size
                exact ⟨by omega, front, tail, rfl, by omega⟩

theorem sliceFrom_append (front tail : List Char) :
    sliceFrom (front ++ tail) (byteSize front) = some tail := by
  induction front with
  | nil =>
      cases tail <;> rfl
  | cons char front inductionHypothesis =>
      have positive := Char.utf8Size_pos char
      obtain ⟨offset, isOffset⟩ :
          ∃ offset, char.utf8Size + byteSize front = offset + 1 :=
        ⟨char.utf8Size + byteSize front - 1, by omega⟩
      have fits : char.utf8Size ≤ offset + 1 := by omega
      have remaining : offset + 1 - char.utf8Size = byteSize front := by omega
      rw [byteSize_cons, isOffset, List.cons_append, sliceFrom, if_pos fits,
        remaining, inductionHypothesis]

/-! ## The longest end that fits -/

/-- `tail` is the longest end of `whole` with at most `limit` bytes. -/
structure LongestTail (limit : Nat) (whole tail : List Char) : Prop where
  suffix : tail <:+ whole
  fits : byteSize tail ≤ limit
  longest : ∀ other, other <:+ whole → byteSize other ≤ limit →
    other <:+ tail

theorem longestTail_keepTail (limit : Nat) (whole : List Char) :
    LongestTail limit whole (keepTail limit whole) where
  suffix := keepTail_suffix limit whole
  fits := byteSize_keepTail limit whole
  longest _ suffix fits := keepTail_longest suffix fits

theorem LongestTail.unique
    {limit : Nat} {whole tail other : List Char}
    (isTail : LongestTail limit whole tail)
    (isOther : LongestTail limit whole other) :
    tail = other :=
  (isOther.longest tail isTail.suffix isTail.fits).eq_of_length_le
    (isTail.longest other isOther.suffix isOther.fits).length_le

/-- What is cut off early would be cut off later as well. -/
theorem LongestTail.append
    {limit : Nat} {whole tail rest : List Char} {cut : List Char}
    (isTail : LongestTail limit whole tail)
    (isCut : LongestTail limit (tail ++ rest) cut) :
    LongestTail limit (whole ++ rest) cut where
  suffix := isCut.suffix.trans (List.suffix_append_self_iff.mpr isTail.suffix)
  fits := isCut.fits
  longest := by
    intro other suffix fits
    apply isCut.longest other _ fits
    rcases List.suffix_or_suffix_of_suffix suffix
        (List.suffix_append whole rest) with inRest | ⟨front, rfl⟩
    · exact inRest.trans (List.suffix_append tail rest)
    · have frontSuffix : front <:+ whole :=
        List.suffix_append_self_iff.mp suffix
      rw [byteSize_append] at fits
      have kept := isTail.longest front frontSuffix (by omega)
      exact List.suffix_append_self_iff.mpr kept

/-- A search upwards stops at the first place there is. -/
theorem find_first
    {test : Nat → Bool} {start target : Nat} (size : Nat)
    (above : start ≤ target) (within : target ≤ size)
    (passes : test target = true)
    (noEarlier : ∀ offset, start ≤ offset → offset < target →
      test offset = false) :
    ((List.range' start (size - start)).find? test).getD size = target := by
  by_cases inside : target < size
  · have found :
        (List.range' start (size - start)).find? test = some target := by
      rw [List.find?_range'_eq_some]
      refine ⟨passes, ?_, ?_⟩
      · rw [List.mem_range'_1]
        omega
      · intro offset late early
        rw [noEarlier offset late early]
        rfl
    rw [found]
    rfl
  · have atEnd : target = size := by omega
    subst atEnd
    have nothing : (List.range' start (target - start)).find? test = none := by
      rw [List.find?_range'_eq_none]
      intro offset late early
      rw [noEarlier offset late (by omega)]
      rfl
    rw [nothing]
    rfl

/-- The slice is at a boundary, and leaves the longest end that fits. -/
theorem trim_eq (buffer : List Char) :
    trim buffer = some (keepTail maxAccumBytes buffer) := by
  have isTail := longestTail_keepTail maxAccumBytes buffer
  generalize keepTail maxAccumBytes buffer = tail at isTail
  unfold trim
  by_cases long : maxAccumBytes < byteSize buffer
  · obtain ⟨front, rfl⟩ := isTail.suffix
    have fits := isTail.fits
    rw [byteSize_append] at long
    -- No boundary between the cutoff and the place of the slice.
    have noEarlier : ∀ offset,
        byteSize (front ++ tail) - maxAccumBytes ≤ offset →
          offset < byteSize front →
            isCharBoundary (front ++ tail) offset = false := by
      intro offset late early
      rw [← Bool.not_eq_true, isCharBoundary_iff]
      rintro ⟨shorter, longer, split, size⟩
      have sizes := congrArg byteSize split
      rw [byteSize_append, byteSize_append] at sizes
      rw [byteSize_append] at late
      have longerFits : byteSize longer ≤ maxAccumBytes := by omega
      obtain ⟨extra, rfl⟩ :=
        isTail.longest longer ⟨shorter, split.symm⟩ longerFits
      rw [byteSize_append] at sizes
      omega
    have atBoundary : isCharBoundary (front ++ tail) (byteSize front) = true :=
      (isCharBoundary_iff _ _).mpr ⟨front, tail, rfl, rfl⟩
    have isSlice :=
      find_first (byteSize (front ++ tail))
        (by rw [byteSize_append]; omega) (by rw [byteSize_append]; omega)
        atBoundary noEarlier
    simp only [byteSize_append] at isSlice
    simp only [byteSize_append, long, if_true, isSlice, sliceFrom_append]
  · have whole := isTail.longest buffer List.suffix_rfl (by omega)
    have same : tail = buffer := isTail.suffix.eq_of_length_le whole.length_le
    simp [long, same]

/-! ## Any number of appends -/

/-- All the text that has been appended. -/
def wholeText (texts : List String) : List Char :=
  texts.flatMap String.toList

def appendAll (texts : List String) (heartbeat : Heartbeat) :
    Option Heartbeat :=
  texts.foldlM appendTextChecked heartbeat

theorem appendTextChecked_eq (heartbeat : Heartbeat) (text : String) :
    heartbeat.appendTextChecked text = some (heartbeat.appendText text) := by
  rw [appendTextChecked, trim_eq]
  rfl

/-- The appends never panic, and change nothing but the buffer, which is the
longest end of all the text that fits. -/
theorem appendAll_buffer (texts : List String) :
    ∃ buffer,
      appendAll texts start = some { start with accumulated := buffer } ∧
        LongestTail maxAccumBytes (wholeText texts) buffer := by
  induction texts using List.reverseRecOn with
  | nil =>
      exact ⟨[], rfl, List.suffix_rfl, Nat.zero_le _, fun _ suffix _ => suffix⟩
  | append_singleton earlier text inductionHypothesis =>
      obtain ⟨buffer, appended, isTail⟩ := inductionHypothesis
      refine ⟨keepTail maxAccumBytes (buffer ++ text.toList), ?_, ?_⟩
      · rw [appendAll, List.foldlM_append]
        rw [appendAll] at appended
        rw [appended]
        simp [appendTextChecked_eq, appendText]
      · have isCut :=
          longestTail_keepTail maxAccumBytes (buffer ++ text.toList)
        have whole :
            wholeText (earlier ++ [text]) =
              wholeText earlier ++ text.toList := by
          simp [wholeText]
        rw [whole]
        exact isTail.append isCut

/-- The last characters of the buffer are the last ones of the text. -/
theorem LongestTail.last_characters
    {whole tail : List Char} (isTail : LongestTail maxAccumBytes whole tail) :
    tail.drop (tail.length - tailChars) =
      whole.drop (whole.length - tailChars) := by
  obtain ⟨front, rfl⟩ := isTail.suffix
  by_cases enough : tailChars ≤ tail.length
  · have beyond :
        (front ++ tail).length - tailChars =
          front.length + (tail.length - tailChars) := by
      rw [List.length_append]
      omega
    rw [beyond, List.drop_length_add_append]
  · -- A short buffer has lost nothing: one character more would still fit.
    rcases List.eq_nil_or_concat front with rfl | ⟨init, char, rfl⟩
    · rfl
    · have size := byteSize_le_length (char :: tail)
      rw [List.length_cons] at size
      simp only [tailChars, not_le] at enough
      have fits : byteSize (char :: tail) ≤ maxAccumBytes := by
        unfold maxAccumBytes
        omega
      have longer :=
        (isTail.longest (char :: tail) ⟨init, by simp⟩ fits).length_le
      rw [List.length_cons] at longer
      omega

theorem LongestTail.nil_iff
    {whole tail : List Char} (isTail : LongestTail maxAccumBytes whole tail) :
    tail = [] ↔ whole = [] := by
  constructor
  · intro empty
    subst empty
    have last := isTail.last_characters
    rw [List.drop_nil] at last
    have short := List.drop_eq_nil_iff.mp last.symm
    unfold tailChars at short
    exact List.length_eq_zero_iff.mp (by omega)
  · intro empty
    subst empty
    exact List.suffix_nil.mp isTail.suffix

/-- With text, the message is its last characters; without, it is null. -/
def ShowsTail (texts : List String) (heartbeat : Heartbeat) : Prop :=
  heartbeat.message =
    if wholeText texts = [] then .null
    else
      .string (String.ofList
        ((wholeText texts).rtake (min tailChars (wholeText texts).length)))

/-- However the text is chunked, nothing panics, the buffer is the longest end
of the text that fits, and the next frame shows the end of the text. -/
theorem heartbeat_shows_tail (texts : List String) :
    ∃ heartbeat,
      appendAll texts start = some heartbeat ∧
        LongestTail maxAccumBytes (wholeText texts) heartbeat.accumulated ∧
          ShowsTail texts heartbeat := by
  obtain ⟨buffer, appended, isTail⟩ := appendAll_buffer texts
  refine ⟨_, appended, isTail, ?_⟩
  have sameCount :
      (wholeText texts).length - min tailChars (wholeText texts).length =
        (wholeText texts).length - tailChars := by
    omega
  simp only [ShowsTail, message, start, isTail.nil_iff,
    isTail.last_characters, List.rtake, sameCount]

/-- Without text the message is not the empty text. -/
theorem no_text_shows_null :
    ¬ ∀ texts, ∃ heartbeat,
      appendAll texts start = some heartbeat ∧
        heartbeat.message =
          .string (String.ofList
            ((wholeText texts).rtake
              (min tailChars (wholeText texts).length))) := by
  intro shows
  obtain ⟨heartbeat, appended, shown⟩ := shows []
  cases appended
  cases shown

end Heartbeat

end A2AShim
