import Mathlib.Data.List.Induction
import A2AShim.Client.CallHandler

/-!
# The two accumulators of artifacts

The registry folds the artifacts of a turn into its Task by their ids alone.
The Client Shim folds the same artifacts, each with the flag that says whether
one of its id has come before.
-/

namespace A2AShim

def Artifact.isUnnamed (artifact : Artifact) : Bool :=
  artifact.artifactId.isNone

namespace TaskRegistry

/-- Fold artifacts into a Task, one after the other. -/
def upsertAll (registry : TaskRegistry) (id : TaskId)
    (artifacts : List Artifact) : Except TransitionError TaskRegistry :=
  artifacts.foldlM
    (fun current artifact =>
      (current.upsertArtifact id artifact).map Prod.snd)
    registry

/-- What the fold makes of the artifacts of a Task. -/
def upsertedInto (start artifacts : List Artifact) : List Artifact :=
  artifacts.foldl (fun current artifact => (upsertInto current artifact).2)
    start

theorem upsertAll_eq
    {registry : TaskRegistry} {id : TaskId} {binding : TaskBinding}
    (artifacts : List Artifact)
    (found : registry.bindings id = some binding) :
    upsertAll registry id artifacts =
      .ok (registry.put id
        { binding with
          artifacts := upsertedInto binding.artifacts artifacts }) := by
  induction artifacts generalizing registry binding with
  | nil =>
      have unchanged := put_same found
      simp only [upsertedInto, List.foldl_nil]
      rw [unchanged]
      rfl
  | cons artifact rest inductionHypothesis =>
      have first :
          registry.upsertArtifact id artifact =
            .ok ((upsertInto binding.artifacts artifact).1,
              registry.put id
                { binding with
                  artifacts := (upsertInto binding.artifacts artifact).2 }) :=
        upsertArtifact_ok_iff.mpr ⟨binding, found, rfl⟩
      have others := inductionHypothesis
        (put_self registry id
          { binding with
            artifacts := (upsertInto binding.artifacts artifact).2 })
      rw [put_put] at others
      unfold upsertAll at others ⊢
      rw [List.foldlM_cons, first]
      exact others

/-! ## One artifact -/

variable {artifactId : String} {parts : List Part} {current : List Artifact}
variable {artifact : Artifact} {result : Artifact × List Artifact}

theorem mergeArtifact_eq_none_iff :
    mergeArtifact artifactId parts current = none ↔
      some artifactId ∉ current.map Artifact.artifactId := by
  induction current with
  | nil => simp [mergeArtifact]
  | cons existing rest inductionHypothesis =>
      by_cases named : existing.artifactId = some artifactId
      · simp [mergeArtifact, named]
      · simp [mergeArtifact, named, inductionHypothesis, eq_comm]

/-- A merge keeps the ids, keeps the unnamed artifacts, and adds the parts. -/
theorem mergeArtifact_some
    (merged : mergeArtifact artifactId parts current = some result) :
    result.2.map Artifact.artifactId = current.map Artifact.artifactId ∧
      result.2.filter Artifact.isUnnamed =
          current.filter Artifact.isUnnamed ∧
        (result.2.flatMap Artifact.parts).Perm
          (current.flatMap Artifact.parts ++ parts) := by
  induction current generalizing result with
  | nil => cases merged
  | cons existing rest inductionHypothesis =>
      by_cases named : existing.artifactId = some artifactId
      · simp only [mergeArtifact, named, if_true, Option.some.injEq] at merged
        subst merged
        refine ⟨by simp [named], ?_, ?_⟩
        · simp [Artifact.isUnnamed, named]
        · simp only [List.flatMap_cons, List.append_assoc]
          exact List.perm_append_comm.append_left existing.parts
      · simp only [mergeArtifact, named, if_false,
          Option.map_eq_some_iff] at merged
        obtain ⟨others, mergedRest, rfl⟩ := merged
        obtain ⟨sameIds, sameUnnamed, allParts⟩ :=
          inductionHypothesis mergedRest
        refine ⟨?_, ?_, ?_⟩
        · simp only [List.map_cons, sameIds]
        · simp only [List.filter_cons, sameUnnamed]
        · simp only [List.flatMap_cons, List.append_assoc]
          exact allParts.append_left existing.parts

theorem upsertInto_of_unnamed
    (unnamed : artifact.artifactId = none) (current : List Artifact) :
    (upsertInto current artifact).2 = current ++ [artifact] := by
  simp [upsertInto, unnamed]

theorem upsertInto_of_new
    (isNew : artifact.artifactId ∉ current.map Artifact.artifactId) :
    (upsertInto current artifact).2 = current ++ [artifact] := by
  cases named : artifact.artifactId with
  | none => exact upsertInto_of_unnamed named current
  | some artifactId =>
      rw [named] at isNew
      have notMerged :
          mergeArtifact artifactId artifact.parts current = none :=
        mergeArtifact_eq_none_iff.mpr isNew
      simp [upsertInto, named, notMerged]

/-- What the registry adds to: ids it knows, unnamed artifacts, parts. -/
theorem upsertInto_adds (current : List Artifact) (artifact : Artifact) :
    (∀ tested,
        tested ∈ (upsertInto current artifact).2.map Artifact.artifactId ↔
          tested ∈ (current ++ [artifact]).map Artifact.artifactId) ∧
      (upsertInto current artifact).2.filter Artifact.isUnnamed =
          (current ++ [artifact]).filter Artifact.isUnnamed ∧
        ((upsertInto current artifact).2.flatMap Artifact.parts).Perm
          ((current ++ [artifact]).flatMap Artifact.parts) := by
  by_cases known : artifact.artifactId ∈ current.map Artifact.artifactId
  · cases named : artifact.artifactId with
    | none =>
        rw [upsertInto_of_unnamed named]
        exact ⟨fun _ => Iff.rfl, rfl, List.Perm.refl _⟩
    | some artifactId =>
        cases merged : mergeArtifact artifactId artifact.parts current with
        | none =>
            rw [named] at known
            exact absurd known (mergeArtifact_eq_none_iff.mp merged)
        | some result =>
            obtain ⟨sameIds, sameUnnamed, allParts⟩ :=
              mergeArtifact_some merged
            have isResult : (upsertInto current artifact).2 = result.2 := by
              simp [upsertInto, named, merged]
            rw [isResult]
            refine ⟨?_, ?_, ?_⟩
            · intro tested
              rw [sameIds, List.map_append, List.mem_append]
              refine (or_iff_left_of_imp ?_).symm
              intro isLast
              rw [List.map_singleton, List.mem_singleton] at isLast
              rw [isLast]
              exact known
            · simp [sameUnnamed, Artifact.isUnnamed, named]
            · simpa using allParts
  · rw [upsertInto_of_new known]
    exact ⟨fun _ => Iff.rfl, rfl, List.Perm.refl _⟩

end TaskRegistry

namespace CallHandler

open TaskRegistry

/-! ## The client's side -/

/-- The flag of an artifact: one of its id has come before. -/
def seenBefore (earlier : List Artifact) (artifact : Artifact) : Bool :=
  !artifact.isUnnamed &&
    earlier.any fun other => other.artifactId == artifact.artifactId

/-- The artifacts with their flags. -/
def flaggedAfter (earlier : List Artifact) :
    List Artifact → List (Artifact × Bool)
  | [] => []
  | artifact :: rest =>
      (artifact, seenBefore earlier artifact) ::
        flaggedAfter (earlier ++ [artifact]) rest

/-- The Client Shim folds the flagged artifacts into its Task. -/
def clientArtifacts (artifacts : List Artifact) : List Artifact :=
  (flaggedAfter [] artifacts).foldl
    (fun current flagged => upsertArtifact current flagged.1 flagged.2) []

theorem flaggedAfter_append (earlier artifacts : List Artifact)
    (last : Artifact) :
    flaggedAfter earlier (artifacts ++ [last]) =
      flaggedAfter earlier artifacts ++
        [(last, seenBefore (earlier ++ artifacts) last)] := by
  induction artifacts generalizing earlier with
  | nil => simp [flaggedAfter]
  | cons artifact rest inductionHypothesis =>
      simp [flaggedAfter, inductionHypothesis]

theorem clientArtifacts_append (artifacts : List Artifact)
    (last : Artifact) :
    clientArtifacts (artifacts ++ [last]) =
      upsertArtifact (clientArtifacts artifacts) last
        (seenBefore artifacts last) := by
  simp [clientArtifacts, flaggedAfter_append]

variable {artifact : Artifact} {current : List Artifact}

theorem extendFirst_eq_merge
    {artifactId : String} (named : artifact.artifactId = some artifactId) :
    extendFirst artifact current =
      (mergeArtifact artifactId artifact.parts current).map Prod.snd := by
  induction current with
  | nil => rfl
  | cons existing rest inductionHypothesis =>
      by_cases same : existing.artifactId = some artifactId
      · simp [extendFirst, mergeArtifact, named, same]
      · simp only [extendFirst, mergeArtifact, named, same, if_false,
          inductionHypothesis, Option.map_map]
        rfl

theorem replaceOrPush_of_new
    (isNew : artifact.artifactId ∉ current.map Artifact.artifactId) :
    replaceOrPush artifact current = current ++ [artifact] := by
  induction current with
  | nil => rfl
  | cons existing rest inductionHypothesis =>
      rw [List.map_cons, List.mem_cons, not_or] at isNew
      simp [replaceOrPush, Ne.symm isNew.1, inductionHypothesis isNew.2]

/-- With the right flag, and unless it replaces an unnamed artifact, the
client does what the registry does. -/
theorem upsertArtifact_eq
    {earlier : List Artifact}
    (sameIds : ∀ tested,
      tested ∈ current.map Artifact.artifactId ↔
        tested ∈ earlier.map Artifact.artifactId)
    (firstUnnamed : artifact.artifactId = none →
      none ∉ earlier.map Artifact.artifactId) :
    upsertArtifact current artifact (seenBefore earlier artifact) =
      (upsertInto current artifact).2 := by
  by_cases known : artifact.artifactId ∈ current.map Artifact.artifactId
  · cases named : artifact.artifactId with
    | none =>
        rw [named] at known
        exact absurd ((sameIds none).mp known) (firstUnnamed named)
    | some artifactId =>
        have seen : seenBefore earlier artifact = true := by
          obtain ⟨other, member, sameId⟩ :=
            List.mem_map.mp ((sameIds _).mp known)
          simp only [seenBefore, Artifact.isUnnamed, named, Option.isNone_some,
            Bool.not_false, Bool.true_and, List.any_eq_true, beq_iff_eq]
          exact ⟨other, member, by rw [sameId, named]⟩
        cases merged : mergeArtifact artifactId artifact.parts current with
        | none =>
            rw [named] at known
            exact absurd known (mergeArtifact_eq_none_iff.mp merged)
        | some result =>
            simp [upsertArtifact, seen, extendFirst_eq_merge named, merged,
              upsertInto, named]
  · have unseen : seenBefore earlier artifact = false := by
      rw [sameIds] at known
      simp only [seenBefore, Bool.and_eq_false_imp, List.any_eq_false,
        beq_iff_eq]
      intro _ other member sameId
      exact known (sameId ▸ List.mem_map_of_mem member)
    rw [unseen, upsertInto_of_new known]
    simp [upsertArtifact, replaceOrPush_of_new known]

theorem extendFirst_ids
    {extended : List Artifact}
    (isExtended : extendFirst artifact current = some extended) :
    extended.map Artifact.artifactId = current.map Artifact.artifactId := by
  induction current generalizing extended with
  | nil => cases isExtended
  | cons existing rest inductionHypothesis =>
      by_cases same : existing.artifactId = artifact.artifactId
      · simp only [extendFirst, same, if_true, Option.some.injEq] at isExtended
        subst isExtended
        simp [same]
      · simp only [extendFirst, same, if_false,
          Option.map_eq_some_iff] at isExtended
        obtain ⟨others, extendedRest, rfl⟩ := isExtended
        rw [List.map_cons, List.map_cons, inductionHypothesis extendedRest]

theorem replaceOrPush_ids :
    (replaceOrPush artifact current).map Artifact.artifactId =
      if artifact.artifactId ∈ current.map Artifact.artifactId then
        current.map Artifact.artifactId
      else
        current.map Artifact.artifactId ++ [artifact.artifactId] := by
  induction current with
  | nil => simp [replaceOrPush]
  | cons existing rest inductionHypothesis =>
      by_cases same : existing.artifactId = artifact.artifactId
      · simp [replaceOrPush, same]
      · simp only [replaceOrPush, same, if_false, List.map_cons,
          inductionHypothesis, List.mem_cons, Ne.symm same, false_or]
        split <;> rfl

/-- The client never has two artifacts with one id, nor two without. -/
theorem upsertArtifact_distinct
    (append : Bool)
    (distinct : (current.map Artifact.artifactId).Nodup) :
    ((upsertArtifact current artifact append).map
      Artifact.artifactId).Nodup := by
  have replaced :
      ((replaceOrPush artifact current).map Artifact.artifactId).Nodup := by
    rw [replaceOrPush_ids]
    split
    · exact distinct
    · rename_i isNew
      exact List.nodup_append'.mpr
        ⟨distinct, List.nodup_singleton _, by simpa using isNew⟩
  cases append with
  | false => exact replaced
  | true =>
      cases isExtended : extendFirst artifact current with
      | none => simpa [upsertArtifact, isExtended] using replaced
      | some extended =>
          simpa [upsertArtifact, isExtended, extendFirst_ids isExtended] using
            distinct

theorem clientArtifacts_distinct (artifacts : List Artifact) :
    ((clientArtifacts artifacts).map Artifact.artifactId).Nodup := by
  induction artifacts using List.reverseRecOn with
  | nil => exact List.nodup_nil
  | append_singleton earlier last inductionHypothesis =>
      rw [clientArtifacts_append]
      exact upsertArtifact_distinct _ inductionHypothesis

theorem clientArtifacts_unnamed (artifacts : List Artifact) :
    ((clientArtifacts artifacts).filter Artifact.isUnnamed).length ≤ 1 := by
  have distinct :=
    List.nodup_iff_count_le_one.mp (clientArtifacts_distinct artifacts) none
  rw [List.count, List.countP_map, List.countP_eq_length_filter] at distinct
  have sameTest :
      (fun id : Option String => id == none) ∘ Artifact.artifactId =
        Artifact.isUnnamed := by
    funext artifact
    cases named : artifact.artifactId <;>
      simp [Artifact.isUnnamed, named]
  rw [sameTest] at distinct
  exact distinct

/-! ## The whole fold -/

theorem upsertedInto_append (start artifacts : List Artifact)
    (last : Artifact) :
    upsertedInto start (artifacts ++ [last]) =
      (upsertInto (upsertedInto start artifacts) last).2 := by
  simp [upsertedInto]

/-- The registry knows every id, keeps unnamed artifacts apart, and loses no
part. -/
theorem upsertedInto_keeps (artifacts : List Artifact) :
    (∀ tested,
        tested ∈ (upsertedInto [] artifacts).map Artifact.artifactId ↔
          tested ∈ artifacts.map Artifact.artifactId) ∧
      (upsertedInto [] artifacts).filter Artifact.isUnnamed =
          artifacts.filter Artifact.isUnnamed ∧
        ((upsertedInto [] artifacts).flatMap Artifact.parts).Perm
          (artifacts.flatMap Artifact.parts) := by
  induction artifacts using List.reverseRecOn with
  | nil => exact ⟨fun _ => Iff.rfl, rfl, List.Perm.refl _⟩
  | append_singleton earlier last inductionHypothesis =>
      obtain ⟨sameIds, sameUnnamed, allParts⟩ := inductionHypothesis
      obtain ⟨addedIds, addedUnnamed, addedParts⟩ :=
        upsertInto_adds (upsertedInto [] earlier) last
      rw [upsertedInto_append]
      refine ⟨?_, ?_, ?_⟩
      · intro tested
        rw [addedIds, List.map_append, List.map_append, List.mem_append,
          List.mem_append, sameIds]
      · rw [addedUnnamed, List.filter_append, List.filter_append, sameUnnamed]
      · refine addedParts.trans ?_
        rw [List.flatMap_append, List.flatMap_append]
        exact allParts.append_right _

/-- The artifacts without an id are at most one. -/
def AtMostOneUnnamed (artifacts : List Artifact) : Prop :=
  (artifacts.filter Artifact.isUnnamed).length ≤ 1

theorem clientArtifacts_eq
    {artifacts : List Artifact} (few : AtMostOneUnnamed artifacts) :
    clientArtifacts artifacts = upsertedInto [] artifacts := by
  induction artifacts using List.reverseRecOn with
  | nil => rfl
  | append_singleton earlier last inductionHypothesis =>
      rw [AtMostOneUnnamed, List.filter_append, List.length_append] at few
      have same := inductionHypothesis (Nat.le_of_add_right_le few)
      rw [clientArtifacts_append, upsertedInto_append, same]
      apply upsertArtifact_eq (upsertedInto_keeps earlier).1
      intro unnamed member
      obtain ⟨other, isEarlier, otherUnnamed⟩ := List.mem_map.mp member
      have before : 0 < (earlier.filter Artifact.isUnnamed).length := by
        apply List.length_pos_of_mem
        exact List.mem_filter.mpr
          ⟨isEarlier, by simp [Artifact.isUnnamed, otherUnnamed]⟩
      have now : ([last].filter Artifact.isUnnamed).length = 1 := by
        simp [Artifact.isUnnamed, unnamed]
      omega

/-- Both accumulators build the same list from a new Task on, in which the
unnamed artifacts stand as they came, and no part is missing. -/
structure AccumulatorsAgree (registry : TaskRegistry) (id : TaskId)
    (conversation session : String) (artifacts : List Artifact) : Prop where
  same : ∃ built snapshot,
    upsertAll (registry.create id conversation session) id artifacts =
        .ok built ∧
      built.snapshot id = some snapshot ∧
        snapshot.artifacts = clientArtifacts artifacts
  separate :
    (clientArtifacts artifacts).filter Artifact.isUnnamed =
      artifacts.filter Artifact.isUnnamed
  complete :
    ((clientArtifacts artifacts).flatMap Artifact.parts).Perm
      (artifacts.flatMap Artifact.parts)

/-- The two accumulators agree exactly on the sequences with at most one
artifact without an id. -/
theorem accumulators_agree_iff
    (registry : TaskRegistry) (id : TaskId) (conversation session : String)
    (artifacts : List Artifact) :
    AccumulatorsAgree registry id conversation session artifacts ↔
      AtMostOneUnnamed artifacts := by
  constructor
  · intro agree
    rw [AtMostOneUnnamed, ← agree.separate]
    exact clientArtifacts_unnamed artifacts
  · intro few
    have same := clientArtifacts_eq few
    obtain ⟨_, separate, complete⟩ := upsertedInto_keeps artifacts
    have folded := upsertAll_eq artifacts
      (create_self registry id conversation session)
    refine ⟨⟨_, TaskBinding.snapshot
      { freshBinding conversation session with
        artifacts := upsertedInto [] artifacts } id, folded, ?_, ?_⟩, ?_, ?_⟩
    · rw [snapshot, put_self]
      rfl
    · rw [same]
      rfl
    · rw [same]
      exact separate
    · rw [same]
      exact complete

/-- An artifact without an id. -/
def unnamedText (text : String) : Artifact :=
  { artifactId := none, name := none, parts := [.text text], metadata := none }

/-- The second of two artifacts without an id replaces the first. -/
theorem unnamed_artifact_is_replaced :
    ¬ ∀ registry id conversation session artifacts,
      AccumulatorsAgree registry id conversation session artifacts := by
  intro agree
  have separate :=
    (agree .empty ⟨"t"⟩ "c" "s"
      [unnamedText "one", unnamedText "two"]).separate
  have replaced :
      clientArtifacts [unnamedText "one", unnamedText "two"] =
        [unnamedText "two"] :=
    rfl
  rw [replaced] at separate
  exact absurd separate (by decide)

end CallHandler

end A2AShim
