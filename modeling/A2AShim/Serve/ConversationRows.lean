import A2AShim.Lib.LastWrite
import A2AShim.Serve.ConversationInvariant

/-!
# The conversations table

The table against the map it is written through from.  A call changes the map
and the table in two steps, so for every key there is a last change of the map
and a last statement on the table, and what counts is whose they are.
-/

namespace A2AShim

namespace Rows

/-- The sessions in the rows of a conversation. -/
def sessionsOf (rows : Rows) (conversationId : String) : List SessionId :=
  (rows.conversations.filter fun row =>
    row.conversationId == conversationId).map ConversationRow.acpSessionId

theorem sessionsOf_delete_self (rows : Rows) (key : String) :
    (rows.deleteConversation key).sessionsOf key = [] := by
  simp [sessionsOf, conversations_deleteConversation, List.filter_filter, bne,
    Bool.and_not_self]

theorem sessionsOf_delete_other
    {key other : String} (different : other ≠ key) (rows : Rows) :
    (rows.deleteConversation key).sessionsOf other = rows.sessionsOf other := by
  simp only [sessionsOf, conversations_deleteConversation,
    List.filter_filter]
  congr 1
  apply List.filter_congr
  intro row _
  by_cases isOther : row.conversationId = other
  · simp [isOther, different]
  · simp [isOther]

theorem sessionsOf_insert_self
    (rows : Rows) (key session cwd callerId : String) (now : Nat) :
    (rows.insertConversation key session cwd callerId now).sessionsOf key =
      [session] := by
  have others := sessionsOf_delete_self rows key
  simp only [sessionsOf, List.map_eq_nil_iff] at others
  simp [sessionsOf, insertConversation, List.filter_append, others]

theorem sessionsOf_insert_other
    {key other : String} (different : other ≠ key)
    (rows : Rows) (session cwd callerId : String) (now : Nat) :
    (rows.insertConversation key session cwd callerId now).sessionsOf other =
      rows.sessionsOf other := by
  rw [← sessionsOf_delete_other different rows]
  simp [sessionsOf, insertConversation, List.filter_append, different.symm]

end Rows

namespace ConversationCallers

/-- The session that a key is bound to. -/
def Callers.boundSession (callers : Callers) (key : String) :
    Option SessionId :=
  (callers.map.get key).map callers.sessionOf

/-- One row for each entry, with its key and its session. -/
def Mirrors (callers : Callers) : Prop :=
  ∀ key,
    callers.rows.sessionsOf key = (callers.boundSession key).toList

/-- A map without callers and the table that mirrors it. -/
structure Agrees (init : Callers) : Prop where
  formed : init.map.WellFormed
  distinct : init.map.DistinctSessions
  noThreads : init.threads = .empty
  mirrors : Mirrors init

/-- The steps of `get_or_create_with_meta`, of resets and of sweeps. -/
def Requested (_ : Callers) : Action → Prop
  | .insertLoaded _ _ _ | .remove _ => False
  | _ => True

/-- Every call has ended. -/
def Quiescent (callers : Callers) : Prop :=
  ∀ name caller, callers.threads name = some caller →
    match caller with
    | .opening _ _ _ (.returned _) | .opening _ _ _ .dropped => True
    | .resetting _ (.returned _) => True
    | .sweeping (.deleteRows []) => True
    | _ => False

/-- What a step leaves at a key: the session of the call that took it, or
nothing. -/
inductive Write where
  | call (name : Nat) (session : SessionId)
  | nobody
  deriving DecidableEq, Repr

def Write.session : Write → Option SessionId
  | .call _ session => some session
  | .nobody => none

/-- The change of the map at `key`. -/
def mapWrite (key : String) (callers : Callers) : Action → Option Write
  | .work name env =>
      match callers.threads name, env.spawned with
      | some (.opening opened _ _ .spawning), .ok session =>
          if opened = key then some (.call name session) else none
      | some (.resetting removed .remove), _ =>
          if removed = key then some .nobody else none
      | some (.sweeping (.remove keys)), _ =>
          if key ∈ keys then some .nobody else none
      | _, _ => none
  | _ => none

/-- The statement on the row of `key`. -/
def rowWrite (key : String) (callers : Callers) : Action → Option Write
  | .work name _ =>
      match callers.threads name with
      | some (.opening opened _ _ (.insertRow _ session)) =>
          if opened = key then some (.call name session) else none
      | some (.resetting removed .deleteRow) =>
          if removed = key then some .nobody else none
      | some (.sweeping (.deleteRows (removed :: _))) =>
          if removed = key then some .nobody else none
      | _ => none
  | _ => none

def lastMapWrite (key : String) (trace : List Action) (init : Callers) :
    Option Write :=
  Machine.lastWrite step (mapWrite key) trace init

def lastRowWrite (key : String) (trace : List Action) (init : Callers) :
    Option Write :=
  Machine.lastWrite step (rowWrite key) trace init

/-- The last change of the map at `key` and the last statement on its row are
of one call, or both removed what there was. -/
def SameOrigin (key : String) (init : Callers) (trace : List Action) : Prop :=
  match lastMapWrite key trace init, lastRowWrite key trace init with
  | some (.call name _), some (.call other _) => name = other
  | some .nobody, some .nobody => True
  | none, none => True
  | some .nobody, none | none, some .nobody => init.map.get key = none
  | _, _ => False

/-! ## Conversations and the calls that made them -/

/-- Where a call that has made a conversation stands. -/
def Made (callers : Callers) (name : Nat) (key : String)
    (ref : ConversationRef) (session : SessionId) : Prop :=
  Obtained callers name key ref true ∧
    (callers.map.objects ref).map Conversation.acpSessionId = some session

/-- A call makes one conversation, which carries the session it will record,
and no other call makes it. -/
structure Authored (init callers : Callers) : Prop where
  fresh : callers.map.Fresh
  older : init.map.fresh ≤ callers.map.fresh
  bound : ∀ key ref, callers.map.get key = some ref →
    (callers.map.objects ref).isSome = true
  made : ∀ name key ref, Obtained callers name key ref true →
    init.map.fresh ≤ ref ∧ (callers.map.objects ref).isSome = true
  single : ∀ name other key otherKey ref,
    Obtained callers name key ref true →
      Obtained callers other otherKey ref true → name = other
  recorded : ∀ name key cwd callerId ref session,
    callers.threads name =
        some (.opening key cwd callerId (.insertRow ref session)) →
      (callers.map.objects ref).map Conversation.acpSessionId = some session
  kept : ∀ ref session,
    (init.map.objects ref).map Conversation.acpSessionId = some session →
      (callers.map.objects ref).map Conversation.acpSessionId = some session

variable {init callers target : Callers}

theorem Agrees.authored (agreed : Agrees init) : Authored init init where
  fresh := agreed.formed.fresh
  older := Nat.le_refl _
  bound := by
    intro key ref present
    obtain ⟨conversation, isObject, _⟩ := agreed.formed.ids key ref present
    rw [isObject]
    rfl
  made := by
    intro name key ref obtained
    obtain ⟨_, _, _, found, _⟩ := obtained
    rw [agreed.noThreads] at found
    cases found
  single := by
    intro name other key otherKey ref obtained
    obtain ⟨_, _, _, found, _⟩ := obtained
    rw [agreed.noThreads] at found
    cases found
  recorded := by
    intro name key cwd callerId ref session found
    rw [agreed.noThreads] at found
    cases found
  kept := fun _ _ same => same

/-- What a step does to the map: touch an object, bind a key to a new one, or
remove keys. -/
theorem map_of_steps
    {action : Action} (steps : Steps callers target action) :
    (∃ ref now, target.map = callers.map.touch ref now) ∨
      (∃ key session now, target.map = callers.map.insert key session now) ∨
        ∃ keys : List String,
          target.map = keys.foldl ConversationMap.remove callers.map := by
  cases steps with
  | hits name env key cwd callerId pc ref found waiting unlocked present
      isTarget =>
      subst isTarget
      exact .inl ⟨ref, env.now, rfl⟩
  | creates name env key cwd callerId session found made isTarget =>
      subst isTarget
      exact .inr (.inl ⟨key, session, env.now, rfl⟩)
  | loads key session now unlocked absent room isTarget =>
      subst isTarget
      exact .inr (.inl ⟨key, session, now, rfl⟩)
  | removes name env keys before after found unlocked removing isTarget =>
      subst isTarget
      exact .inr (.inr ⟨keys, rfl⟩)
  | clears key unlocked isTarget =>
      subst isTarget
      exact .inr (.inr ⟨[key], rfl⟩)
  | starts _ _ _ _ _ isTarget | turns _ _ _ _ _ _ _ isTarget
  | refuses _ _ _ _ _ _ _ _ _ isTarget | spawns _ _ _ _ _ _ _ _ _ isTarget
  | fails _ _ _ _ _ _ _ _ isTarget | records _ _ _ _ _ _ _ _ isTarget
  | deletes _ _ _ _ _ _ _ isTarget | ignores _ _ _ isTarget
  | drops _ _ _ _ _ _ _ isTarget =>
      subst isTarget
      exact .inr (.inr ⟨[], rfl⟩)

/-- No step takes the session from an object. -/
theorem session_of_steps
    {action : Action} {ref : ConversationRef} {session : SessionId}
    (fresh : callers.map.Fresh) (steps : Steps callers target action)
    (isSession :
      (callers.map.objects ref).map Conversation.acpSessionId =
        some session) :
    (target.map.objects ref).map Conversation.acpSessionId =
      some session := by
  rcases map_of_steps steps with
    ⟨touched, now, same⟩ | ⟨key, made, now, same⟩ | ⟨keys, same⟩
  · rw [same, ← isSession]
    exact ConversationMap.touch_field _ (fun _ => rfl) ref
  · obtain ⟨conversation, found, _⟩ := Option.map_eq_some_iff.mp isSession
    rw [same, ConversationMap.insert_objects_other
      (ConversationMap.ne_fresh_of_found fresh found)]
    exact isSession
  · rw [same, ConversationMap.removeAll_objects]
    exact isSession

theorem isSome_of_steps
    {action : Action} {ref : ConversationRef}
    (fresh : callers.map.Fresh) (steps : Steps callers target action)
    (isObject : (callers.map.objects ref).isSome = true) :
    (target.map.objects ref).isSome = true := by
  obtain ⟨conversation, isConversation⟩ := Option.isSome_iff_exists.mp isObject
  have kept :=
    session_of_steps fresh steps
      (congrArg (Option.map Conversation.acpSessionId) isConversation)
  rw [Option.map_eq_some_iff] at kept
  obtain ⟨later, isLater, _⟩ := kept
  exact Option.isSome_iff_exists.mpr ⟨later, isLater⟩

theorem fresh_of_steps
    {action : Action} (fresh : callers.map.Fresh)
    (steps : Steps callers target action) :
    target.map.Fresh ∧ callers.map.fresh ≤ target.map.fresh := by
  rcases map_of_steps steps with
    ⟨touched, now, same⟩ | ⟨key, made, now, same⟩ | ⟨keys, same⟩
  · rw [same]
    exact ⟨fresh.update, Nat.le_refl _⟩
  · rw [same]
    exact ⟨fresh.insert, Nat.le_succ _⟩
  · rw [same]
    refine ⟨?_, Nat.le_of_eq (ConversationMap.removeAll_fresh keys).symm⟩
    intro ref later
    rw [ConversationMap.removeAll_fresh] at later
    rw [ConversationMap.removeAll_objects]
    exact fresh ref later

theorem bound_of_steps
    {action : Action} {key : String} {ref : ConversationRef}
    (fresh : callers.map.Fresh) (steps : Steps callers target action)
    (bound : ∀ key ref, callers.map.get key = some ref →
      (callers.map.objects ref).isSome = true)
    (present : target.map.get key = some ref) :
    (target.map.objects ref).isSome = true := by
  have later :
      callers.map.get key = some ref →
        (target.map.objects ref).isSome = true :=
    fun before => isSome_of_steps fresh steps (bound key ref before)
  rcases map_of_steps steps with
    ⟨touched, now, same⟩ | ⟨inserted, made, now, same⟩ | ⟨keys, same⟩
  · rw [same] at present
    exact later present
  · by_cases isKey : key = inserted
    · subst isKey
      rw [same, ConversationMap.insert_get_self] at present
      cases present
      rw [same]
      simp [ConversationMap.insert]
    · rw [same, ConversationMap.insert_get_other isKey] at present
      exact later present
  · rw [same] at present
    by_cases removed : key ∈ keys
    · rw [ConversationMap.removeAll_get_self removed] at present
      cases present
    · rw [ConversationMap.removeAll_get_other removed] at present
      exact later present

/-- A call is about to record the conversation it has just made. -/
theorem recording_cases
    {action : Action} {name : Nat} {key cwd callerId : String}
    {ref : ConversationRef} {session : SessionId}
    (steps : Steps callers target action)
    (found :
      target.threads name =
        some (.opening key cwd callerId (.insertRow ref session))) :
    callers.threads name =
        some (.opening key cwd callerId (.insertRow ref session)) ∨
      (target.map.objects ref).map Conversation.acpSessionId =
        some session := by
  by_cases changed : callers.threads name = target.threads name
  · exact .inl (changed.trans found)
  right
  cases steps with
  | creates _ env other _ _ made foundThread isMade isTarget =>
      subst isTarget
      rw [thread_of_put changed rfl] at found
      cases found
      simp [Callers.put, ConversationMap.insert]
  | starts action _ caller isStart _ isTarget =>
      subst isTarget
      rw [thread_of_put changed rfl] at found
      cases found
      cases action <;> simp [starting] at isStart
  | turns _ _ _ _ _ _ turned isTarget =>
      subst isTarget
      rw [thread_of_put changed rfl] at found
      cases found
      cases turned
  | deletes _ _ _ _ _ _ deleting isTarget =>
      subst isTarget
      rw [thread_of_put changed rfl] at found
      cases found
      cases deleting
  | removes _ _ _ _ _ _ _ removing isTarget =>
      subst isTarget
      rw [thread_of_put changed rfl] at found
      cases found
      cases removing
  | hits _ _ _ _ _ _ _ _ _ _ _ isTarget
  | refuses _ _ _ _ _ _ _ _ _ isTarget | spawns _ _ _ _ _ _ _ _ _ isTarget
  | fails _ _ _ _ _ _ _ _ isTarget | records _ _ _ _ _ _ _ _ isTarget
  | drops _ _ _ _ _ _ _ isTarget =>
      subst isTarget
      rw [thread_of_put changed rfl] at found
      cases found
  | loads _ _ _ _ _ _ isTarget | ignores _ _ _ isTarget
  | clears _ _ isTarget =>
      subst isTarget
      exact absurd rfl changed

theorem Authored.of_steps
    {action : Action} (authored : Authored init callers)
    (steps : Steps callers target action) :
    Authored init target := by
  obtain ⟨freshAfter, growing⟩ := fresh_of_steps authored.fresh steps
  have newest : ∀ name key ref,
      Obtained callers name key ref true → ref ≠ callers.map.fresh :=
    fun name key ref obtained =>
      authored.fresh.ne (authored.made name key ref obtained).2
  refine
    { fresh := freshAfter
      older := Nat.le_trans authored.older growing
      bound := fun key ref =>
        bound_of_steps authored.fresh steps authored.bound
      made := ?_
      single := ?_
      recorded := ?_
      kept := fun ref session same =>
        session_of_steps authored.fresh steps
          (authored.kept ref session same) }
  · intro name key ref obtained
    rcases obtained_cases steps obtained with
      before | ⟨isFalse, _⟩ | ⟨_, isFresh, _, env, session, _, _, same⟩
    · obtain ⟨isNew, isObject⟩ := authored.made name key ref before
      exact ⟨isNew, isSome_of_steps authored.fresh steps isObject⟩
    · cases isFalse
    · subst isFresh
      refine ⟨authored.older, ?_⟩
      rw [same]
      simp [ConversationMap.insert]
  · intro name other key otherKey ref obtained otherObtained
    rcases obtained_cases steps obtained with
      before | ⟨isFalse, _⟩ | ⟨_, isFresh, _, env, session, isAction, _⟩
    · rcases obtained_cases steps otherObtained with
        otherBefore | ⟨isFalse, _⟩ | ⟨_, otherFresh, _⟩
      · exact authored.single name other key otherKey ref before otherBefore
      · cases isFalse
      · exact absurd otherFresh (newest name key ref before)
    · cases isFalse
    · rcases obtained_cases steps otherObtained with
        otherBefore | ⟨isFalse, _⟩ | ⟨_, _, _, _, _, isOther, _⟩
      · exact absurd isFresh (newest other otherKey ref otherBefore)
      · cases isFalse
      · rw [isAction] at isOther
        cases isOther
        rfl
  · intro name key cwd callerId ref session found
    rcases recording_cases steps found with before | now
    · exact session_of_steps authored.fresh steps
        (authored.recorded name key cwd callerId ref session before)
    · exact now

theorem Authored.of_run
    {ok : Callers → Action → Prop} {trace : List Action}
    (authored : Authored init init)
    (run : Machine.Run step ok init trace callers) :
    Authored init callers := by
  refine run.invariant (Authored init) authored ?_
  intro source action next before _ taken
  exact before.of_steps (step_steps taken)

/-! ## What each write leaves -/

theorem boundSession_touch
    {ref : ConversationRef} {now : Nat}
    (touched : target.map = callers.map.touch ref now) (key : String) :
    target.boundSession key = callers.boundSession key := by
  have sameSession : target.sessionOf = callers.sessionOf := by
    funext tested
    simp only [Callers.sessionOf, touched]
    rw [ConversationMap.touch_field _ (fun _ => rfl)]
  rw [Callers.boundSession, sameSession, touched]
  rfl

theorem boundSession_insert_self
    {key : String} {session : SessionId} {now : Nat}
    (inserted : target.map = callers.map.insert key session now) :
    target.boundSession key = some session := by
  rw [Callers.boundSession, inserted, ConversationMap.insert_get_self]
  simp [Callers.sessionOf, inserted, ConversationMap.insert]

theorem boundSession_insert_other
    {key other : String} {session : SessionId} {now : Nat}
    (authored : Authored init callers) (different : other ≠ key)
    (inserted : target.map = callers.map.insert key session now) :
    target.boundSession other = callers.boundSession other := by
  rw [Callers.boundSession, inserted,
    ConversationMap.insert_get_other different, Callers.boundSession]
  apply Option.map_congr
  intro ref present
  have earlier := authored.fresh.ne (authored.bound other ref present)
  simp only [Callers.sessionOf, inserted]
  rw [ConversationMap.insert_objects_other earlier]

theorem boundSession_remove_self
    {keys : List String} {key : String} (removed : key ∈ keys)
    (same : target.map = keys.foldl ConversationMap.remove callers.map) :
    target.boundSession key = none := by
  rw [Callers.boundSession, same, ConversationMap.removeAll_get_self removed]
  rfl

theorem boundSession_remove_other
    {keys : List String} {key : String} (remains : key ∉ keys)
    (same : target.map = keys.foldl ConversationMap.remove callers.map) :
    target.boundSession key = callers.boundSession key := by
  have sameSession : target.sessionOf = callers.sessionOf := by
    funext tested
    simp only [Callers.sessionOf, same, ConversationMap.removeAll_objects]
  rw [Callers.boundSession, sameSession, same,
    ConversationMap.removeAll_get_other remains]
  rfl

/-- The map at `key` holds what its last change left. -/
theorem boundSession_of_steps
    {action : Action} (authored : Authored init callers)
    (requested : Requested callers action)
    (steps : Steps callers target action) (key : String) :
    target.boundSession key =
      ((mapWrite key callers action).map Write.session).getD
        (callers.boundSession key) := by
  cases steps with
  | starts _ name caller isStart unused isTarget =>
      subst isTarget
      cases action <;> simp [starting] at isStart <;> rfl
  | turns name env before after found unlocked turned isTarget =>
      subst isTarget
      cases turned <;> simp [mapWrite, found] <;> rfl
  | hits name env other cwd callerId pc ref found waiting unlocked present
      isTarget =>
      subst isTarget
      have unwritten : mapWrite key callers (.work name env) = none := by
        rcases waiting with rfl | rfl <;> simp [mapWrite, found]
      rw [unwritten]
      exact boundSession_touch rfl key
  | creates name env other cwd callerId session found made isTarget =>
      subst isTarget
      by_cases isKey : key = other
      · subst isKey
        simp only [mapWrite, found, made, if_true]
        exact boundSession_insert_self rfl
      · have unwritten : mapWrite key callers (.work name env) = none := by
          simp [mapWrite, found, made, Ne.symm isKey]
        rw [unwritten]
        exact boundSession_insert_other authored isKey rfl
  | removes name env keys before after found unlocked removing isTarget =>
      subst isTarget
      have writing :
          mapWrite key callers (.work name env) =
            if key ∈ keys then some .nobody else none := by
        cases removing with
        | reset other only =>
            subst only
            simp [mapWrite, found, eq_comm]
        | sweep => simp [mapWrite, found]
      by_cases removed : key ∈ keys
      · rw [writing, if_pos removed]
        exact boundSession_remove_self removed rfl
      · rw [writing, if_neg removed]
        exact boundSession_remove_other removed rfl
  | deletes name env other before after found deleting isTarget =>
      subst isTarget
      cases deleting <;> simp [mapWrite, found] <;> rfl
  | refuses name env other cwd callerId found _ _ _ isTarget
  | spawns name env other cwd callerId found _ _ _ isTarget
  | records name env other cwd callerId ref session found isTarget =>
      subst isTarget
      simp [mapWrite, found]
      rfl
  | fails name env other cwd callerId text found failed isTarget =>
      subst isTarget
      simp [mapWrite, found, failed]
      rfl
  | drops name other cwd callerId pc found waiting isTarget =>
      subst isTarget
      rfl
  | loads | ignores | clears => exact requested.elim

/-- The row of `key` holds what its last statement left. -/
theorem sessionsOf_of_steps
    {action : Action} (steps : Steps callers target action) (key : String) :
    target.rows.sessionsOf key =
      ((rowWrite key callers action).map fun write =>
        write.session.toList).getD (callers.rows.sessionsOf key) := by
  cases steps with
  | starts _ name caller isStart unused isTarget =>
      subst isTarget
      cases action <;> simp [starting] at isStart <;> rfl
  | turns name env before after found unlocked turned isTarget =>
      subst isTarget
      cases turned <;> simp [rowWrite, found] <;> rfl
  | hits name env other cwd callerId pc ref found waiting unlocked present
      isTarget =>
      subst isTarget
      rcases waiting with rfl | rfl <;> simp [rowWrite, found] <;> rfl
  | removes name env keys before after found unlocked removing isTarget =>
      subst isTarget
      cases removing <;> simp [rowWrite, found] <;> rfl
  | records name env other cwd callerId ref session found isTarget =>
      subst isTarget
      by_cases isKey : other = key
      · subst isKey
        simp only [rowWrite, found, if_true]
        exact Rows.sessionsOf_insert_self _ _ _ _ _ _
      · simp only [rowWrite, found, if_neg isKey]
        exact Rows.sessionsOf_insert_other (Ne.symm isKey) _ _ _ _ _
  | deletes name env other before after found deleting isTarget =>
      subst isTarget
      have writing :
          rowWrite key callers (.work name env) =
            if other = key then some .nobody else none := by
        cases deleting <;> simp [rowWrite, found]
      by_cases isKey : other = key
      · subst isKey
        rw [writing, if_pos rfl]
        exact Rows.sessionsOf_delete_self _ _
      · rw [writing, if_neg isKey]
        exact Rows.sessionsOf_delete_other (Ne.symm isKey) _
  | refuses name env other cwd callerId found _ _ _ isTarget
  | spawns name env other cwd callerId found _ _ _ isTarget
  | creates name env other cwd callerId _ found _ isTarget
  | fails name env other cwd callerId _ found _ isTarget =>
      subst isTarget
      simp [rowWrite, found]
      rfl
  | loads _ _ _ _ _ _ isTarget | ignores _ _ _ isTarget
  | clears _ _ isTarget | drops _ _ _ _ _ _ _ isTarget =>
      subst isTarget
      rfl

theorem not_obtained
    {caller : Caller} {name : Nat} {key : String} {ref : ConversationRef}
    {created : Bool} (found : callers.threads name = some caller)
    (nothing : ∀ key cwd callerId pc, caller = .opening key cwd callerId pc →
      (∀ result, pc ≠ .returned (.ok result)) ∧
        ∀ ref session, pc ≠ .insertRow ref session) :
    ¬ Obtained callers name key ref created := by
  intro obtained
  obtain ⟨cwd, callerId, pc, atPlace, atPc⟩ := obtained
  have isCaller := Option.some.inj (found.symm.trans atPlace)
  obtain ⟨notReturned, notInserted⟩ := nothing key cwd callerId pc isCaller
  rcases atPc with returned | ⟨_, session, inserted⟩
  · exact notReturned _ returned
  · exact notInserted ref session inserted

theorem obtained_put
    {source : Callers} {caller : Caller} {name tested : Nat} {key : String}
    {ref : ConversationRef} {created : Bool}
    (sameThreads : source.threads = callers.threads)
    (elsewhere : ¬ Obtained callers name key ref created)
    (obtained : Obtained callers tested key ref created) :
    Obtained (source.put name caller) tested key ref created := by
  have different : tested ≠ name := by
    intro same
    subst same
    exact elsewhere obtained
  obtain ⟨cwd, callerId, pc, atPlace, atPc⟩ := obtained
  refine ⟨cwd, callerId, pc, ?_, atPc⟩
  simp only [Callers.put, sameThreads, Pool.put_other different]
  exact atPlace

/-- A call that has obtained a conversation keeps it. -/
theorem obtained_later
    {action : Action} {tested : Nat} {key : String} {ref : ConversationRef}
    {created : Bool} (steps : Steps callers target action)
    (obtained : Obtained callers tested key ref created) :
    Obtained target tested key ref created := by
  cases steps with
  | starts _ name caller isStart unused isTarget =>
      subst isTarget
      refine obtained_put rfl ?_ obtained
      intro atStart
      obtain ⟨_, _, _, found, _⟩ := atStart
      rw [unused] at found
      cases found
  | turns name env before after found unlocked turned isTarget =>
      subst isTarget
      refine obtained_put rfl (not_obtained found ?_) obtained
      intro key cwd callerId pc isCaller
      subst isCaller
      cases turned
      simp
  | hits name env other cwd callerId pc _ found waiting unlocked present
      isTarget =>
      subst isTarget
      refine obtained_put rfl (not_obtained found ?_) obtained
      intro key cwd callerId pc isCaller
      cases isCaller
      rcases waiting with rfl | rfl <;> simp
  | records name env other cwd callerId recorded session found isTarget =>
      subst isTarget
      by_cases same : tested = name
      · subst same
        obtain ⟨_, _, _, atPlace, atPc⟩ := obtained
        rw [found] at atPlace
        cases atPlace
        rcases atPc with returned | ⟨isCreated, _, inserted⟩
        · cases returned
        · cases inserted
          refine ⟨cwd, callerId, _, Pool.put_self _ _ _, .inl ?_⟩
          rw [isCreated]
      · obtain ⟨_, _, _, atPlace, atPc⟩ := obtained
        exact ⟨_, _, _, (Pool.put_other same).trans atPlace, atPc⟩
  | deletes name env other before after found deleting isTarget =>
      subst isTarget
      refine obtained_put rfl (not_obtained found ?_) obtained
      intro key cwd callerId pc isCaller
      subst isCaller
      cases deleting
  | removes name env keys before after found unlocked removing isTarget =>
      subst isTarget
      refine obtained_put rfl (not_obtained found ?_) obtained
      intro key cwd callerId pc isCaller
      subst isCaller
      cases removing
  | drops name other cwd callerId pc found waiting isTarget =>
      subst isTarget
      refine obtained_put rfl (not_obtained found ?_) obtained
      intro key cwd callerId pc isCaller
      cases isCaller
      rcases waiting with rfl | rfl | rfl <;> simp
  | refuses name env other cwd callerId found _ _ _ isTarget
  | spawns name env other cwd callerId found _ _ _ isTarget
  | creates name env other cwd callerId _ found _ isTarget
  | fails name env other cwd callerId _ found _ isTarget =>
      subst isTarget
      refine obtained_put rfl (not_obtained found ?_) obtained
      intro key cwd callerId pc isCaller
      cases isCaller
      simp
  | loads _ _ _ _ _ _ isTarget | ignores _ _ _ isTarget
  | clears _ _ isTarget =>
      subst isTarget
      exact obtained

/-- What is known of a write: a call that wrote a session has made a
conversation with it. -/
def Wrote (key : String) : Write → Callers → Prop
  | .call name session, callers => ∃ ref, Made callers name key ref session
  | .nobody, _ => True

theorem wrote_later
    {action : Action} {key : String} {write : Write}
    (authored : Authored init callers)
    (steps : Steps callers target action) (wrote : Wrote key write callers) :
    Wrote key write target := by
  cases write with
  | nobody => trivial
  | call name session =>
      obtain ⟨ref, obtained, isSession⟩ := wrote
      exact ⟨ref, obtained_later steps obtained,
        session_of_steps authored.fresh steps isSession⟩

theorem mapWrite_call
    {action : Action} {key : String} {name : Nat} {session : SessionId}
    (writing : mapWrite key callers action = some (.call name session)) :
    ∃ env cwd callerId,
      action = .work name env ∧ env.spawned = .ok session ∧
        callers.threads name =
          some (.opening key cwd callerId .spawning) := by
  unfold mapWrite at writing
  split at writing
  · rename_i worker env
    split at writing
    · rename_i opened cwd callerId made found isMade
      split at writing
      · rename_i isKey
        cases writing
        subst isKey
        exact ⟨env, cwd, callerId, rfl, isMade, found⟩
      · cases writing
    · split at writing <;> cases writing
    · split at writing <;> cases writing
    · cases writing
  · cases writing

theorem rowWrite_call
    {action : Action} {key : String} {name : Nat} {session : SessionId}
    (writing : rowWrite key callers action = some (.call name session)) :
    ∃ env cwd callerId ref,
      action = .work name env ∧
        callers.threads name =
          some (.opening key cwd callerId (.insertRow ref session)) := by
  unfold rowWrite at writing
  split at writing
  · rename_i worker env
    split at writing
    · rename_i opened cwd callerId ref made found
      split at writing
      · rename_i isKey
        cases writing
        subst isKey
        exact ⟨env, cwd, callerId, ref, rfl, found⟩
      · cases writing
    · split at writing <;> cases writing
    · split at writing <;> cases writing
    · cases writing
  · cases writing

theorem wrote_map
    {action : Action} {key : String} {write : Write}
    (taken : step action callers = some target)
    (writing : mapWrite key callers action = some write) :
    Wrote key write target := by
  cases write with
  | nobody => trivial
  | call name session =>
      obtain ⟨env, cwd, callerId, rfl, isMade, found⟩ := mapWrite_call writing
      simp only [step, found, Option.bind_some, workOpening, isMade,
        Option.some.injEq] at taken
      subst taken
      refine ⟨callers.map.fresh,
        ⟨cwd, callerId, _, Pool.put_self _ _ _, .inr ⟨rfl, session, rfl⟩⟩, ?_⟩
      simp [Callers.put, ConversationMap.insert]

theorem wrote_row
    {action : Action} {key : String} {write : Write}
    (authored : Authored init callers)
    (taken : step action callers = some target)
    (writing : rowWrite key callers action = some write) :
    Wrote key write target := by
  cases write with
  | nobody => trivial
  | call name session =>
      obtain ⟨env, cwd, callerId, ref, rfl, found⟩ := rowWrite_call writing
      have isSession := authored.recorded _ _ _ _ _ _ found
      have obtained : Obtained callers name key ref true :=
        ⟨cwd, callerId, _, found, .inr ⟨rfl, session, rfl⟩⟩
      have steps := step_steps taken
      exact ⟨ref, obtained_later steps obtained,
        session_of_steps authored.fresh steps isSession⟩

/-! ## The table after a run -/

variable {trace : List Action}

theorem wrote_lastMap
    {key : String} {write : Write} (agreed : Agrees init)
    (run : Machine.Run step Requested init trace callers)
    (last : lastMapWrite key trace init = some write) :
    Wrote key write callers := by
  refine run.lastWrite_invariant (Wrote key) ?_ ?_ last
  · intro trace source action target write _ _ taken writing
    exact wrote_map taken writing
  · intro trace source action target write before _ taken wrote
    exact wrote_later (agreed.authored.of_run before) (step_steps taken) wrote

theorem wrote_lastRow
    {key : String} {write : Write} (agreed : Agrees init)
    (run : Machine.Run step Requested init trace callers)
    (last : lastRowWrite key trace init = some write) :
    Wrote key write callers := by
  refine run.lastWrite_invariant (Wrote key) ?_ ?_ last
  · intro trace source action target write before _ taken writing
    exact wrote_row (agreed.authored.of_run before) taken writing
  · intro trace source action target write before _ taken wrote
    exact wrote_later (agreed.authored.of_run before) (step_steps taken) wrote

theorem boundSession_of_run
    (agreed : Agrees init)
    (run : Machine.Run step Requested init trace callers) (key : String) :
    callers.boundSession key =
      ((lastMapWrite key trace init).map Write.session).getD
        (init.boundSession key) := by
  refine run.cell_eq (fun state => state.boundSession key) Write.session ?_
  intro trace source action target before requested taken
  exact boundSession_of_steps (agreed.authored.of_run before) requested
    (step_steps taken) key

theorem sessionsOf_of_run
    (run : Machine.Run step Requested init trace callers) (key : String) :
    callers.rows.sessionsOf key =
      ((lastRowWrite key trace init).map fun write =>
        write.session.toList).getD (init.rows.sessionsOf key) := by
  refine run.cell_eq (fun state => state.rows.sessionsOf key)
    (fun write : Write => write.session.toList) ?_
  intro trace source action target before requested taken
  exact sessionsOf_of_steps (step_steps taken) key

/-- A call writes one session wherever it writes. -/
theorem session_of_wrote
    {key : String} {name : Nat} {session other : SessionId}
    (wrote : Wrote key (.call name session) callers)
    (wroteOther : Wrote key (.call name other) callers) :
    session = other := by
  obtain ⟨ref, ⟨cwd, callerId, pc, found, atPc⟩, isSession⟩ := wrote
  obtain ⟨otherRef, ⟨otherCwd, otherCaller, otherPc, otherFound, atOther⟩,
    isOther⟩ := wroteOther
  rw [found] at otherFound
  cases otherFound
  have sameRef : ref = otherRef := by
    rcases atPc with rfl | ⟨_, _, rfl⟩
    · rcases atOther with returned | ⟨_, _, inserted⟩
      · cases returned
        rfl
      · cases inserted
    · rcases atOther with returned | ⟨_, _, inserted⟩
      · cases returned
      · cases inserted
        rfl
  subst sameRef
  exact Option.some.inj (isSession.symm.trans isOther)

/-- Where every conversation has its own session, two calls write two. -/
theorem name_of_wrote
    {key : String} {name other : Nat} {session : SessionId}
    (authored : Authored init callers)
    (distinct : callers.map.DistinctSessions)
    (wrote : Wrote key (.call name session) callers)
    (wroteOther : Wrote key (.call other session) callers) :
    name = other := by
  obtain ⟨ref, obtained, isSession⟩ := wrote
  obtain ⟨otherRef, otherObtained, isOther⟩ := wroteOther
  obtain ⟨conversation, found, isConversation⟩ :=
    Option.map_eq_some_iff.mp isSession
  obtain ⟨otherConversation, otherFound, isOtherConversation⟩ :=
    Option.map_eq_some_iff.mp isOther
  have sameRef :=
    distinct ref otherRef conversation otherConversation found
      otherFound (isConversation.trans isOtherConversation.symm)
  subst sameRef
  exact authored.single name other key key ref obtained otherObtained

/-- What a call writes is new: no key had it at the start. -/
theorem not_bound_of_wrote
    {key : String} {name : Nat} {session : SessionId}
    (agreed : Agrees init) (authored : Authored init callers)
    (distinct : callers.map.DistinctSessions)
    (wrote : Wrote key (.call name session) callers) :
    init.boundSession key ≠ some session := by
  intro isBound
  obtain ⟨ref, obtained, isSession⟩ := wrote
  obtain ⟨initRef, present, isInit⟩ := Option.map_eq_some_iff.mp isBound
  obtain ⟨initConversation, initFound, _⟩ :=
    agreed.formed.ids key initRef present
  have initSession :
      (init.map.objects initRef).map Conversation.acpSessionId =
        some session := by
    simp only [Callers.sessionOf, initFound, Option.map_some,
      Option.getD_some] at isInit
    rw [initFound, Option.map_some, isInit]
  obtain ⟨conversation, found, isConversation⟩ :=
    Option.map_eq_some_iff.mp isSession
  obtain ⟨kept, keptFound, isKept⟩ :=
    Option.map_eq_some_iff.mp (authored.kept initRef session initSession)
  have sameRef :=
    distinct ref initRef conversation kept found keptFound
      (isConversation.trans isKept.symm)
  have isNew := (authored.made name key ref obtained).1
  rw [sameRef] at isNew
  rw [agreed.formed.fresh initRef isNew] at initFound
  cases initFound

theorem boundSession_none
    {key : String} (absent : init.map.get key = none) :
    init.boundSession key = none := by
  rw [Callers.boundSession, absent]
  rfl

/-- The table mirrors the map where the last write of each is of one call. -/
theorem mirrorsAt_of_sameOrigin
    (agreed : Agrees init)
    (run : Machine.Run step Requested init trace callers) {key : String}
    (same : SameOrigin key init trace) :
    callers.rows.sessionsOf key = (callers.boundSession key).toList := by
  rw [boundSession_of_run agreed run, sessionsOf_of_run run,
    agreed.mirrors key]
  unfold SameOrigin at same
  generalize lastMap : lastMapWrite key trace init = mapWritten at same ⊢
  generalize lastRow : lastRowWrite key trace init = rowWritten at same ⊢
  match mapWritten, rowWritten with
  | none, none | some .nobody, some .nobody => rfl
  | some .nobody, none | none, some .nobody =>
      simp [boundSession_none same, Write.session]
  | some (.call name session), some (.call other recorded) =>
      have sameName : name = other := same
      subst sameName
      have sameSession :=
        session_of_wrote (wrote_lastMap agreed run lastMap)
          (wrote_lastRow agreed run lastRow)
      subst sameSession
      rfl
  | none, some (.call _ _) | some .nobody, some (.call _ _)
  | some (.call _ _), none | some (.call _ _), some .nobody =>
      exact same.elim

/-- Where the agent makes no session twice, only one call's writes agree. -/
theorem sameOrigin_of_mirrorsAt
    (agreed : Agrees init)
    (run : Machine.Run step Requested init trace callers)
    (distinct : callers.map.DistinctSessions) {key : String}
    (mirrors :
      callers.rows.sessionsOf key = (callers.boundSession key).toList) :
    SameOrigin key init trace := by
  have authored := agreed.authored.of_run run
  rw [boundSession_of_run agreed run, sessionsOf_of_run run,
    agreed.mirrors key] at mirrors
  unfold SameOrigin
  generalize lastMap : lastMapWrite key trace init = mapWritten at mirrors ⊢
  generalize lastRow : lastRowWrite key trace init = rowWritten at mirrors ⊢
  match mapWritten, rowWritten with
  | none, none | some .nobody, some .nobody => trivial
  | some .nobody, none | none, some .nobody =>
      simpa [Write.session, Callers.boundSession] using mirrors
  | some (.call name session), some (.call other recorded) =>
      have sameSession : recorded = session := by
        simpa [Write.session] using mirrors
      subst sameSession
      exact name_of_wrote authored distinct (wrote_lastMap agreed run lastMap)
        (wrote_lastRow agreed run lastRow)
  | none, some (.call name session) =>
      have isBound : init.boundSession key = some session :=
        Option.toList_eq_singleton_iff.mp mirrors.symm
      exact not_bound_of_wrote agreed authored distinct
        (wrote_lastRow agreed run lastRow) isBound
  | some (.call name session), none =>
      have isBound : init.boundSession key = some session :=
        Option.toList_eq_singleton_iff.mp mirrors
      exact not_bound_of_wrote agreed authored distinct
        (wrote_lastMap agreed run lastMap) isBound
  | some .nobody, some (.call _ _) | some (.call _ _), some .nobody =>
      simp [Write.session] at mirrors

/-- The table mirrors the map when, for every key, the last change of the map
and the last statement on the row are of one call, and, since the agent makes
no session twice, only then. -/
theorem rows_mirror_iff
    (agreed : Agrees init)
    (run : Machine.Run step Requested init trace callers) :
    ((∀ key, SameOrigin key init trace) → Mirrors callers) ∧
      (Machine.Run step FreshSession init trace callers →
        Mirrors callers → ∀ key, SameOrigin key init trace) := by
  constructor
  · intro same key
    exact mirrorsAt_of_sameOrigin agreed run (same key)
  · intro freshRun mirrors key
    have distinct := distinctSessions_of_run agreed.distinct freshRun
    exact sameOrigin_of_mirrorsAt agreed run distinct (mirrors key)

/-- An empty map and empty tables. -/
def Callers.empty : Callers :=
  .start 64 600 { conversations := [], tasks := [], pushConfigs := [] }

theorem agrees_empty : Agrees .empty where
  formed := ConversationMap.wellFormed_new 64 600
  distinct := ConversationMap.distinctSessions_new 64 600
  noThreads := rfl
  mirrors := fun _ => rfl

/-- One call makes a conversation and its row. -/
theorem recorded_conversation_mirrored :
    ∃ trace callers,
      Machine.Run step FreshSession .empty trace callers ∧
        callers.map.get "k" = some 0 ∧ Mirrors callers ∧
          ∀ key, SameOrigin key .empty trace := by
  let env : Env := { now := 0, spawned := .error "", idle := [] }
  let spawned : Env := { env with spawned := .ok "s-0" }
  let before : List Action :=
    [.open_ 0 "k" "/work" "anonymous", .work 0 env, .work 0 env]
  let after : List Action := [.work 0 env]
  obtain ⟨spawning, toSpawning⟩ : ∃ spawning,
      Machine.exec step before .empty = some spawning :=
    ⟨_, rfl⟩
  obtain ⟨created, creates⟩ : ∃ created,
      step (.work 0 spawned) spawning = some created := by
    cases toSpawning
    exact ⟨_, rfl⟩
  obtain ⟨callers, toEnd⟩ : ∃ callers,
      Machine.exec step after created = some callers := by
    cases toSpawning
    cases creates
    exact ⟨_, rfl⟩
  have unused : ∀ ref, spawning.map.objects ref = none := by
    cases toSpawning
    exact fun _ => rfl
  have freshRun := freshRun_of_exec rfl rfl toSpawning unused creates toEnd
  have run : Machine.Run step Requested .empty _ callers :=
    Machine.run_of_exec_of_always (by simp [before, after, Requested])
      freshRun.exec_eq
  have same : ∀ key,
      SameOrigin key .empty (before ++ [.work 0 spawned] ++ after) := by
    intro key
    let write : Option Write :=
      if "k" = key then some (.call 0 "s-0") else none
    have changed :
        lastMapWrite key (before ++ [.work 0 spawned] ++ after) .empty =
          ((((none.or none).or write).or none).or none).or none :=
      rfl
    have stated :
        lastRowWrite key (before ++ [.work 0 spawned] ++ after) .empty =
          ((((none.or write).or none).or none).or none).or none :=
      rfl
    simp only [SameOrigin, changed, stated, Option.or_none, Option.none_or]
    by_cases isKey : "k" = key
    · simp [write, isKey]
    · simp [write, isKey]
  have mirrors := (rows_mirror_iff agrees_empty run).1 same
  refine ⟨_, callers, freshRun, ?_, mirrors,
    (rows_mirror_iff agrees_empty run).2 freshRun mirrors⟩
  cases toSpawning
  cases creates
  cases toEnd
  rfl

/-- A reset deletes the row before it is written, and removes the key after. -/
theorem reset_can_leave_row :
    ¬ ∀ init trace callers,
        Agrees init → Machine.Run step Requested init trace callers →
          Machine.Run step FreshSession init trace callers →
            Quiescent callers → Mirrors callers := by
  intro claimed
  let env : Env := { now := 0, spawned := .error "", idle := [] }
  let before : List Action :=
    [.open_ 0 "k" "/work" "anonymous", .work 0 env, .work 0 env]
  let after : List Action :=
    [.reset 1 "k", .work 1 env, .work 1 env, .work 0 env, .work 1 env]
  obtain ⟨spawning, toSpawning⟩ : ∃ spawning,
      Machine.exec step before .empty = some spawning :=
    ⟨_, rfl⟩
  obtain ⟨created, creates⟩ : ∃ created,
      step (.work 0 { env with spawned := .ok "s-0" }) spawning =
        some created := by
    cases toSpawning
    exact ⟨_, rfl⟩
  obtain ⟨callers, toEnd⟩ : ∃ callers,
      Machine.exec step after created = some callers := by
    cases toSpawning
    cases creates
    exact ⟨_, rfl⟩
  have unused : ∀ ref, spawning.map.objects ref = none := by
    cases toSpawning
    exact fun _ => rfl
  have run := freshRun_of_exec rfl rfl toSpawning unused creates toEnd
  have requested : Machine.Run step Requested .empty _ callers :=
    Machine.run_of_exec_of_always (by simp [before, after, Requested])
      run.exec_eq
  have quiescent : Quiescent callers := by
    cases toSpawning
    cases creates
    cases toEnd
    intro name caller found
    match name, found with
    | 0, found | 1, found =>
        cases found
        trivial
    | _ + 2, found => cases found
  have mirrors := claimed _ _ callers agrees_empty requested run quiescent "k"
  cases toSpawning
  cases creates
  cases toEnd
  cases mirrors

end ConversationCallers

end A2AShim
