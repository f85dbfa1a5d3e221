import A2AShim.Serve.ConversationCallers

/-!
# The invariant of the conversation map

What holds of the map in every state that its callers can reach.  Two keys
never share a session as long as none is handed out or loaded twice.
-/

namespace A2AShim

namespace ConversationMap

/-- No conversation has had this session. -/
def Unused (map : ConversationMap) (session : SessionId) : Prop :=
  ∀ ref conversation,
    map.objects ref = some conversation → conversation.acpSessionId ≠ session

/-- No two conversations have one session. -/
def DistinctSessions (map : ConversationMap) : Prop :=
  ∀ ref other conversation otherConversation,
    map.objects ref = some conversation →
      map.objects other = some otherConversation →
        conversation.acpSessionId = otherConversation.acpSessionId →
          ref = other

/-- Capacity and uniqueness. -/
structure WellFormed (map : ConversationMap) : Prop where
  fresh : map.Fresh
  small : map.inner.entries.length ≤ map.maxActive
  ids : ∀ key ref, map.get key = some ref →
    ∃ conversation, map.objects ref = some conversation ∧
      conversation.id = key

variable {map : ConversationMap} {ref : ConversationRef} {key : String}
variable {session : SessionId} {now : Nat}

/-- Below the bound, the comparison of truncated lengths is exact. -/
theorem lt_of_not_full
    (bounded : map.maxActive < 2 ^ 32)
    (small : map.inner.entries.length ≤ map.maxActive)
    (room : map.isFull = false) :
    map.inner.entries.length < map.maxActive := by
  simp only [isFull, decide_eq_false_iff_not, Nat.not_le] at room
  have untruncated :
      map.inner.entries.length % 2 ^ 32 = map.inner.entries.length :=
    Nat.mod_eq_of_lt (by omega)
  omega

theorem insert_entries_length (absent : map.get key = none) :
    (map.insert key session now).inner.entries.length =
      map.inner.entries.length + 1 := by
  have notMember : key ∉ map.inner := AList.lookup_eq_none.mp absent
  simp only [insert, AList.entries_insert_of_notMem notMember,
    List.length_cons]

theorem remove_entries_length (key : String) :
    (map.remove key).inner.entries.length ≤ map.inner.entries.length :=
  (List.kerase_sublist key map.inner.entries).length_le

/-- A changed object is the changed form of the one it was. -/
theorem update_objects_some
    {change : Conversation → Conversation} {tested : ConversationRef}
    {conversation : Conversation}
    (found : (map.update ref change).objects tested = some conversation) :
    ∃ before, map.objects tested = some before ∧
      (conversation = before ∨ conversation = change before) := by
  by_cases same : tested = ref
  · subst same
    rw [update_self] at found
    obtain ⟨before, foundBefore, rfl⟩ := Option.map_eq_some_iff.mp found
    exact ⟨before, foundBefore, .inr rfl⟩
  · rw [update_other same] at found
    exact ⟨conversation, found, .inl rfl⟩

theorem touch_objects_some
    {tested : ConversationRef} {conversation : Conversation}
    (found : (map.touch ref now).objects tested = some conversation) :
    ∃ before, map.objects tested = some before ∧
      conversation.id = before.id ∧
        conversation.acpSessionId = before.acpSessionId := by
  obtain ⟨before, foundBefore, changed⟩ := update_objects_some found
  rcases changed with rfl | rfl
  · exact ⟨conversation, foundBefore, rfl, rfl⟩
  · exact ⟨before, foundBefore, rfl, rfl⟩

theorem WellFormed.touch (formed : map.WellFormed) :
    (map.touch ref now).WellFormed where
  fresh := formed.fresh.update
  small := formed.small
  ids := by
    intro key found present
    obtain ⟨conversation, foundBefore, isKey⟩ := formed.ids key found present
    have sameId :
        ((map.touch ref now).objects found).map Conversation.id =
          (map.objects found).map Conversation.id :=
      touch_field _ (fun _ => rfl) found
    rw [foundBefore] at sameId
    obtain ⟨after, foundAfter, isId⟩ := Option.map_eq_some_iff.mp sameId
    exact ⟨after, foundAfter, isId.trans isKey⟩

theorem DistinctSessions.touch (distinct : map.DistinctSessions) :
    (map.touch ref now).DistinctSessions := by
  intro first second one two foundOne foundTwo same
  obtain ⟨earlier, foundEarlier, _, isOne⟩ := touch_objects_some foundOne
  obtain ⟨sooner, foundSooner, _, isTwo⟩ := touch_objects_some foundTwo
  apply distinct first second earlier sooner foundEarlier foundSooner
  rw [← isOne, ← isTwo, same]

theorem insert_objects_cases
    {tested : ConversationRef} {conversation : Conversation}
    (found :
      (map.insert key session now).objects tested = some conversation) :
    (tested = map.fresh ∧ conversation.id = key ∧
        conversation.acpSessionId = session) ∨
      tested ≠ map.fresh ∧ map.objects tested = some conversation := by
  by_cases same : tested = map.fresh
  · subst same
    have inserted :
        (map.insert key session now).objects map.fresh =
          some { id := key, acpSessionId := session, lastUsedAt := now
                 inFlight := none } := by
      simp [insert]
    rw [inserted] at found
    cases found
    exact .inl ⟨rfl, rfl, rfl⟩
  · refine .inr ⟨same, ?_⟩
    rw [← found, insert_objects_other same]

theorem DistinctSessions.insert
    (distinct : map.DistinctSessions) (unused : map.Unused session) :
    (map.insert key session now).DistinctSessions := by
  intro first second one two foundOne foundTwo same
  rcases insert_objects_cases foundOne with
    ⟨isFirst, _, isSession⟩ | ⟨_, earlier⟩
  · rcases insert_objects_cases foundTwo with
      ⟨isSecond, _, _⟩ | ⟨_, sooner⟩
    · exact isFirst.trans isSecond.symm
    · exact absurd (same.symm.trans isSession) (unused second two sooner)
  · rcases insert_objects_cases foundTwo with
      ⟨_, _, isSession⟩ | ⟨_, sooner⟩
    · exact absurd (same.trans isSession) (unused first one earlier)
    · exact distinct first second one two earlier sooner same

theorem WellFormed.insert
    (formed : map.WellFormed) (absent : map.get key = none)
    (room : map.inner.entries.length < map.maxActive) :
    (map.insert key session now).WellFormed where
  fresh := formed.fresh.insert
  small := by
    rw [insert_entries_length absent]
    exact room
  ids := by
    intro tested found present
    by_cases same : tested = key
    · subst same
      rw [insert_get_self] at present
      cases present
      exact ⟨_, Function.update_self _ _ _, rfl⟩
    · rw [insert_get_other same] at present
      obtain ⟨conversation, foundBefore, isKey⟩ :=
        formed.ids tested found present
      have earlier := ne_fresh_of_found formed.fresh foundBefore
      exact ⟨conversation, (insert_objects_other earlier).trans foundBefore,
        isKey⟩

theorem WellFormed.remove (formed : map.WellFormed) (key : String) :
    (map.remove key).WellFormed where
  fresh := formed.fresh
  small := Nat.le_trans (remove_entries_length key) formed.small
  ids := by
    intro tested found present
    by_cases same : tested = key
    · subst same
      rw [remove_get_self] at present
      cases present
    · rw [remove_get_other same] at present
      exact formed.ids tested found present

theorem WellFormed.removeAll
    (formed : map.WellFormed) (keys : List String) :
    (keys.foldl ConversationMap.remove map).WellFormed := by
  induction keys generalizing map with
  | nil => exact formed
  | cons key rest inductionHypothesis =>
      exact inductionHypothesis (formed.remove key)

theorem wellFormed_new (maxActive idleWindow : Nat) :
    (ConversationMap.new maxActive idleWindow).WellFormed where
  fresh := fun _ _ => rfl
  small := Nat.zero_le _
  ids := by
    intro key ref present
    simp [get, new] at present

theorem distinctSessions_new (maxActive idleWindow : Nat) :
    (ConversationMap.new maxActive idleWindow).DistinctSessions := by
  intro ref other conversation otherConversation found
  cases found

end ConversationMap

namespace ConversationCallers

/-- A session that is new is one the map has never had: the agent makes no
session twice, and recovery loads none that is known. -/
def FreshSession (callers : Callers) : Action → Prop
  | .work name env =>
      ∀ key cwd callerId session,
        callers.threads name = some (.opening key cwd callerId .spawning) →
          env.spawned = .ok session → callers.map.Unused session
  | .insertLoaded _ session _ => callers.map.Unused session
  | _ => True

/-- The spawn closure of a call runs. -/
def Spawning (callers : Callers) (name : Nat) (key : String) : Prop :=
  ∃ cwd callerId,
    callers.threads name = some (.opening key cwd callerId .spawning)

/-- The invariant of the map and of the spawn closures. -/
structure Holds (maxActive : Nat) (callers : Callers) : Prop where
  limit : callers.map.maxActive = maxActive
  formed : callers.map.WellFormed
  spawning : ∀ name key, Spawning callers name key →
    callers.writer = some name ∧ callers.map.get key = none ∧
      callers.map.inner.entries.length < callers.map.maxActive

variable {maxActive : Nat} {callers target : Callers} {name : Nat}

theorem not_spawning_of_starting
    {action : Action} {caller : Caller}
    (isStart : starting action = some (name, caller))
    (key cwd callerId : String) :
    caller ≠ .opening key cwd callerId .spawning := by
  intro same
  subst same
  cases action <;> simp [starting] at isStart

/-- A closure that runs after the step of another thread ran before it. -/
theorem spawning_before
    {caller : Caller} {tested : Nat} {key : String} {source : Callers}
    (sameThreads : source.threads = callers.threads)
    (notSpawning : ∀ key cwd callerId,
      caller ≠ .opening key cwd callerId .spawning)
    (spawning : Spawning (source.put name caller) tested key) :
    tested ≠ name ∧ Spawning callers tested key := by
  obtain ⟨cwd, callerId, found⟩ := spawning
  simp only [Callers.put, sameThreads] at found
  rcases Pool.put_cases found with ⟨_, isCaller⟩ | ⟨different, before⟩
  · exact absurd isCaller.symm (notSpawning key cwd callerId)
  · exact ⟨different, cwd, callerId, before⟩

/-- While the lock is free, no closure runs. -/
theorem Holds.idle_of_unlocked
    (holds : Holds maxActive callers) (unlocked : callers.writer = none)
    {tested : Nat} {key : String} :
    ¬ Spawning callers tested key := by
  intro spawning
  have locked := (holds.spawning tested key spawning).1
  rw [unlocked] at locked
  cases locked

/-- Steps that leave the map as it is, and the lock to whoever has it. -/
theorem Holds.of_same_map
    {caller : Caller} {source : Callers}
    (holds : Holds maxActive callers)
    (sameMap : source.map = callers.map)
    (sameWriter : source.writer = callers.writer)
    (sameThreads : source.threads = callers.threads)
    (notSpawning : ∀ key cwd callerId,
      caller ≠ .opening key cwd callerId .spawning) :
    Holds maxActive (source.put name caller) where
  limit := by
    simp only [Callers.put, sameMap]
    exact holds.limit
  formed := by
    simp only [Callers.put, sameMap]
    exact holds.formed
  spawning := by
    intro tested key spawning
    have before := spawning_before sameThreads notSpawning spawning
    simp only [Callers.put, sameMap, sameWriter]
    exact holds.spawning tested key before.2

/-- Steps taken while the lock is free, or by the thread that frees it. -/
theorem Holds.of_alone
    {caller : Caller} {source : Callers}
    (limit : source.map.maxActive = maxActive)
    (formed : source.map.WellFormed)
    (sameThreads : source.threads = callers.threads)
    (notSpawning : ∀ key cwd callerId,
      caller ≠ .opening key cwd callerId .spawning)
    (alone : ∀ tested key, Spawning callers tested key → tested = name) :
    Holds maxActive (source.put name caller) where
  limit := limit
  formed := formed
  spawning := by
    intro tested key spawning
    have before := spawning_before sameThreads notSpawning spawning
    exact absurd (alone tested key before.2) before.1

theorem removeAll_maxActive (keys : List String) (map : ConversationMap) :
    (keys.foldl ConversationMap.remove map).maxActive = map.maxActive := by
  induction keys generalizing map with
  | nil => rfl
  | cons key rest inductionHypothesis => exact inductionHypothesis _

theorem Holds.of_steps
    {action : Action} (bounded : maxActive < 2 ^ 32)
    (holds : Holds maxActive callers)
    (steps : Steps callers target action) :
    Holds maxActive target := by
  have limit := holds.limit
  have roomFor :
      callers.map.isFull = false →
        callers.map.inner.entries.length < callers.map.maxActive :=
    ConversationMap.lt_of_not_full (by rw [limit]; exact bounded)
      holds.formed.small
  have aloneIfUnlocked :
      callers.writer = none →
        ∀ name tested key, Spawning callers tested key → tested = name :=
    fun unlocked _ _ _ spawning =>
      absurd spawning (holds.idle_of_unlocked unlocked)
  have aloneIfSpawning :
      ∀ name key, Spawning callers name key →
        ∀ tested other, Spawning callers tested other → tested = name := by
    intro name key spawning tested other alsoSpawning
    have locked := (holds.spawning name key spawning).1
    have alsoLocked := (holds.spawning tested other alsoSpawning).1
    rw [locked] at alsoLocked
    exact (Option.some.inj alsoLocked).symm
  cases steps with
  | starts _ name caller isStart unused isTarget =>
      subst isTarget
      exact holds.of_same_map rfl rfl rfl (not_spawning_of_starting isStart)
  | turns name env before after found unlocked turned isTarget =>
      subst isTarget
      apply holds.of_same_map rfl rfl rfl
      intro key cwd callerId same
      subst same
      cases turned
  | hits name env key cwd callerId pc ref found waiting unlocked present
      isTarget =>
      subst isTarget
      exact .of_alone limit holds.formed.touch rfl (by simp)
        (aloneIfUnlocked unlocked name)
  | refuses name env key cwd callerId found unlocked absent full isTarget =>
      subst isTarget
      exact holds.of_same_map rfl rfl rfl (by simp)
  | spawns name env key cwd callerId found unlocked absent room isTarget =>
      subst isTarget
      refine { limit := limit, formed := holds.formed, spawning := ?_ }
      intro tested testedKey spawning
      by_cases same : tested = name
      · subst same
        obtain ⟨_, _, foundHere⟩ := spawning
        simp only [Callers.put, Pool.put_self, Option.some.injEq,
          Caller.opening.injEq] at foundHere
        obtain ⟨rfl, _⟩ := foundHere
        exact ⟨rfl, absent, roomFor room⟩
      · obtain ⟨otherCwd, otherCaller, foundHere⟩ := spawning
        simp only [Callers.put, Pool.put_other same] at foundHere
        exact absurd ⟨otherCwd, otherCaller, foundHere⟩
          (holds.idle_of_unlocked unlocked)
  | creates name env key cwd callerId session found made isTarget =>
      subst isTarget
      obtain ⟨_, absent, room⟩ := holds.spawning name key ⟨_, _, found⟩
      exact .of_alone limit (holds.formed.insert absent room) rfl (by simp)
        (aloneIfSpawning name key ⟨_, _, found⟩)
  | fails name env key cwd callerId text found failed isTarget =>
      subst isTarget
      exact .of_alone limit holds.formed rfl (by simp)
        (aloneIfSpawning name key ⟨_, _, found⟩)
  | records name env key cwd callerId ref session found isTarget =>
      subst isTarget
      exact holds.of_same_map rfl rfl rfl (by simp)
  | deletes name env key before after found deleting isTarget =>
      subst isTarget
      refine holds.of_same_map rfl rfl rfl ?_
      intro key cwd callerId same
      subst same
      cases deleting
  | removes name env keys before after found unlocked removing isTarget =>
      subst isTarget
      refine .of_alone ?_ (holds.formed.removeAll keys) rfl ?_
        (aloneIfUnlocked unlocked name)
      · rw [removeAll_maxActive]
        exact limit
      · intro key cwd callerId same
        subst same
        cases removing
  | loads key session now unlocked absent room isTarget =>
      subst isTarget
      refine
        { limit := limit
          formed := holds.formed.insert absent (roomFor room)
          spawning := ?_ }
      intro tested testedKey spawning
      exact absurd spawning (holds.idle_of_unlocked unlocked)
  | ignores key session now isTarget =>
      subst isTarget
      exact holds
  | clears key unlocked isTarget =>
      subst isTarget
      refine
        { limit := limit, formed := holds.formed.remove key, spawning := ?_ }
      intro tested testedKey spawning
      exact absurd spawning (holds.idle_of_unlocked unlocked)
  | drops name key cwd callerId pc found waiting isTarget =>
      subst isTarget
      refine { limit := limit, formed := holds.formed, spawning := ?_ }
      intro tested testedKey spawning
      have before : tested ≠ name ∧ Spawning callers tested testedKey :=
        spawning_before rfl (by simp) spawning
      obtain ⟨locked, absent, room⟩ :=
        holds.spawning tested testedKey before.2
      refine ⟨?_, absent, room⟩
      have notOwn : callers.writer ≠ some name := by
        rw [locked]
        simpa using before.1
      simp only [Callers.put, notOwn, if_false]
      exact locked

theorem Holds.of_run
    {ok : Callers → Action → Prop} {init : Callers} {trace : List Action}
    (holds : Holds maxActive init) (bounded : maxActive < 2 ^ 32)
    (run : Machine.Run step ok init trace callers) :
    Holds maxActive callers := by
  refine run.invariant (Holds maxActive) holds ?_
  intro source action next holdsBefore _ taken
  exact holdsBefore.of_steps bounded (step_steps taken)

/-- A session that is new keeps them distinct. -/
theorem distinctSessions_of_steps
    {action : Action} (distinct : callers.map.DistinctSessions)
    (fresh : FreshSession callers action)
    (steps : Steps callers target action) :
    target.map.DistinctSessions := by
  cases steps with
  | creates name env key cwd callerId session found made isTarget =>
      subst isTarget
      exact distinct.insert (fresh key cwd callerId session found made)
  | loads key session now unlocked absent room isTarget =>
      subst isTarget
      exact distinct.insert fresh
  | hits name env key cwd callerId pc ref found waiting unlocked present
      isTarget =>
      subst isTarget
      exact distinct.touch
  | removes name env keys before after found unlocked removing isTarget =>
      subst isTarget
      have same := @ConversationMap.removeAll_objects callers.map keys
      intro first second one two foundOne foundTwo
      simp only [Callers.put, same] at foundOne foundTwo
      exact distinct first second one two foundOne foundTwo
  | clears key unlocked isTarget =>
      subst isTarget
      exact distinct
  | starts _ _ _ _ _ isTarget | turns _ _ _ _ _ _ _ isTarget
  | refuses _ _ _ _ _ _ _ _ _ isTarget | spawns _ _ _ _ _ _ _ _ _ isTarget
  | fails _ _ _ _ _ _ _ _ isTarget | records _ _ _ _ _ _ _ _ isTarget
  | deletes _ _ _ _ _ _ _ isTarget | ignores _ _ _ isTarget
  | drops _ _ _ _ _ _ _ isTarget =>
      subst isTarget
      exact distinct

theorem distinctSessions_of_run
    {init : Callers} {trace : List Action}
    (distinct : init.map.DistinctSessions)
    (run : Machine.Run step FreshSession init trace callers) :
    callers.map.DistinctSessions := by
  refine run.invariant (fun reached => reached.map.DistinctSessions) distinct
    ?_
  intro source action next distinctBefore fresh taken
  exact distinctSessions_of_steps distinctBefore fresh (step_steps taken)

/-- A map without callers. -/
theorem holds_of_formed
    {init : Callers} (formed : init.map.WellFormed)
    (noThreads : init.threads = .empty) :
    Holds init.map.maxActive init where
  limit := rfl
  formed := formed
  spawning := by
    intro name key spawning
    obtain ⟨_, _, found⟩ := spawning
    rw [noThreads] at found
    cases found

/-! ## What calls return -/

/-- The step removes the key from the map. -/
def RemovesKey (key : String) (callers : Callers) : Action → Prop
  | .remove removed => removed = key
  | .work name _ =>
      ∃ keys before after,
        callers.threads name = some before ∧ Removes keys before after ∧
          key ∈ keys
  | _ => False

/-- A call on `key` has got its conversation from the map, or put it there; a
call that has put it there writes the row before it returns. -/
def Obtained (callers : Callers) (name : Nat) (key : String)
    (ref : ConversationRef) (created : Bool) : Prop :=
  ∃ cwd callerId pc,
    callers.threads name = some (.opening key cwd callerId pc) ∧
      (pc = .returned (.ok (ref, created)) ∨
        created = true ∧ ∃ session, pc = .insertRow ref session)

/-- While it is in the map, a key keeps its conversation. -/
theorem get_of_steps
    {action : Action} {key : String} {ref : ConversationRef}
    (holds : Holds maxActive callers)
    (steps : Steps callers target action)
    (present : callers.map.get key = some ref)
    (kept : ¬ RemovesKey key callers action) :
    target.map.get key = some ref := by
  have boundBefore : ∀ other, callers.map.get other = none → key ≠ other := by
    intro other absent same
    subst same
    rw [present] at absent
    cases absent
  cases steps with
  | creates name env other cwd callerId session found made isTarget =>
      subst isTarget
      obtain ⟨_, absent, _⟩ := holds.spawning name other ⟨_, _, found⟩
      have different := boundBefore other absent
      exact (ConversationMap.insert_get_other different).trans present
  | loads other session now unlocked absent room isTarget =>
      subst isTarget
      have different := boundBefore other absent
      exact (ConversationMap.insert_get_other different).trans present
  | removes name env keys before after found unlocked removing isTarget =>
      subst isTarget
      have notRemoved : key ∉ keys := fun member =>
        kept ⟨keys, before, after, found, removing, member⟩
      exact (ConversationMap.removeAll_get_other notRemoved).trans present
  | clears other unlocked isTarget =>
      subst isTarget
      have different : key ≠ other := fun same => kept same.symm
      exact (ConversationMap.remove_get_other different).trans present
  | starts _ _ _ _ _ isTarget | turns _ _ _ _ _ _ _ isTarget
  | hits _ _ _ _ _ _ _ _ _ _ _ isTarget
  | refuses _ _ _ _ _ _ _ _ _ isTarget | spawns _ _ _ _ _ _ _ _ _ isTarget
  | fails _ _ _ _ _ _ _ _ isTarget | records _ _ _ _ _ _ _ _ isTarget
  | deletes _ _ _ _ _ _ _ isTarget | ignores _ _ _ isTarget
  | drops _ _ _ _ _ _ _ isTarget =>
      subst isTarget
      exact present

theorem obtained_of_put
    {source : Callers} {caller : Caller} {tested : Nat} {key : String}
    {ref : ConversationRef} {created : Bool}
    (sameThreads : source.threads = callers.threads)
    (obtained : Obtained (source.put name caller) tested key ref created) :
    (tested = name ∧
        ∃ cwd callerId pc, caller = .opening key cwd callerId pc ∧
          (pc = .returned (.ok (ref, created)) ∨
            created = true ∧ ∃ session, pc = .insertRow ref session)) ∨
      Obtained callers tested key ref created := by
  obtain ⟨cwd, callerId, pc, found, atPc⟩ := obtained
  simp only [Callers.put, sameThreads] at found
  rcases Pool.put_cases found with ⟨same, isCaller⟩ | ⟨_, before⟩
  · exact .inl ⟨same, cwd, callerId, pc, isCaller.symm, atPc⟩
  · exact .inr ⟨cwd, callerId, pc, before, atPc⟩

/-- Steps to a place where nothing has been obtained. -/
theorem obtained_before
    {source : Callers} {caller : Caller} {tested : Nat} {key : String}
    {ref : ConversationRef} {created : Bool}
    (sameThreads : source.threads = callers.threads)
    (nothing : ∀ key cwd callerId pc, caller = .opening key cwd callerId pc →
      (∀ result, pc ≠ .returned (.ok result)) ∧
        ∀ ref session, pc ≠ .insertRow ref session)
    (obtained : Obtained (source.put name caller) tested key ref created) :
    Obtained callers tested key ref created := by
  rcases obtained_of_put sameThreads obtained with
    ⟨_, cwd, callerId, pc, isCaller, atPc⟩ | before
  · obtain ⟨notReturned, notInserted⟩ := nothing key cwd callerId pc isCaller
    rcases atPc with returned | ⟨_, session, inserted⟩
    · exact absurd returned (notReturned _)
    · exact absurd inserted (notInserted ref session)
  · exact before

/-- The two ways to obtain a conversation: to find it, or to make it. -/
theorem obtained_cases
    {action : Action} {key : String} {ref : ConversationRef}
    {created : Bool} {tested : Nat}
    (steps : Steps callers target action)
    (obtained : Obtained target tested key ref created) :
    Obtained callers tested key ref created ∨
      (created = false ∧ callers.map.get key = some ref) ∨
        (created = true ∧ ref = callers.map.fresh ∧
          Spawning callers tested key ∧
            ∃ env session,
              action = .work tested env ∧ env.spawned = .ok session ∧
                target.map = callers.map.insert key session env.now) := by
  cases steps with
  | starts _ name caller isStart unused isTarget =>
      subst isTarget
      refine .inl (obtained_before rfl ?_ obtained)
      intro key cwd callerId pc isCaller
      subst isCaller
      cases action <;> simp [starting] at isStart
      obtain ⟨_, _, _, _, rfl⟩ := isStart
      simp
  | turns name env before after foundThread unlocked turned isTarget =>
      subst isTarget
      refine .inl (obtained_before rfl ?_ obtained)
      intro key cwd callerId pc isCaller
      subst isCaller
      cases turned
      simp
  | hits name env other cwd callerId pc hit foundThread waiting unlocked isHit
      isTarget =>
      subst isTarget
      rcases obtained_of_put rfl obtained with
        ⟨_, _, _, _, isCaller, atPc⟩ | before
      · cases isCaller
        rcases atPc with returned | ⟨_, session, inserted⟩
        · cases returned
          exact .inr (.inl ⟨rfl, isHit⟩)
        · cases inserted
      · exact .inl before
  | refuses name env other cwd callerId foundThread unlocked absent full
      isTarget =>
      subst isTarget
      refine .inl (obtained_before rfl ?_ obtained)
      intro key cwd callerId pc isCaller
      cases isCaller
      simp
  | spawns name env other cwd callerId foundThread unlocked absent room
      isTarget =>
      subst isTarget
      refine .inl (obtained_before rfl ?_ obtained)
      intro key cwd callerId pc isCaller
      cases isCaller
      simp
  | creates name env other cwd callerId session foundThread made isTarget =>
      subst isTarget
      rcases obtained_of_put rfl obtained with
        ⟨isName, _, _, _, isCaller, atPc⟩ | before
      · subst isName
        cases isCaller
        rcases atPc with returned | ⟨isCreated, _, inserted⟩
        · cases returned
        · cases inserted
          exact .inr (.inr ⟨isCreated, rfl, ⟨_, _, foundThread⟩, env, session,
            rfl, made, rfl⟩)
      · exact .inl before
  | fails name env other cwd callerId text foundThread failed isTarget =>
      subst isTarget
      refine .inl (obtained_before rfl ?_ obtained)
      intro key cwd callerId pc isCaller
      cases isCaller
      simp
  | records name env other cwd callerId recorded session foundThread
      isTarget =>
      subst isTarget
      rcases obtained_of_put rfl obtained with
        ⟨isName, _, _, _, isCaller, atPc⟩ | before
      · subst isName
        cases isCaller
        rcases atPc with returned | ⟨_, _, inserted⟩
        · cases returned
          exact .inl ⟨cwd, callerId, _, foundThread, .inr ⟨rfl, session, rfl⟩⟩
        · cases inserted
      · exact .inl before
  | deletes name env other before after foundThread deleting isTarget =>
      subst isTarget
      refine .inl (obtained_before rfl ?_ obtained)
      intro key cwd callerId pc isCaller
      subst isCaller
      cases deleting
  | removes name env keys before after foundThread unlocked removing
      isTarget =>
      subst isTarget
      refine .inl (obtained_before rfl ?_ obtained)
      intro key cwd callerId pc isCaller
      subst isCaller
      cases removing
  | loads other session now unlocked absent room isTarget =>
      subst isTarget
      exact .inl obtained
  | ignores other session now isTarget =>
      subst isTarget
      exact .inl obtained
  | clears other unlocked isTarget =>
      subst isTarget
      exact .inl obtained
  | drops name other cwd callerId pc foundThread waiting isTarget =>
      subst isTarget
      refine .inl (obtained_before rfl ?_ obtained)
      intro key cwd callerId pc isCaller
      cases isCaller
      simp

/-- What a call obtains while the key is in the map is what the key has. -/
theorem obtained_of_steps
    {action : Action} {key : String} {ref found : ConversationRef}
    {created : Bool} {tested : Nat}
    (holds : Holds maxActive callers)
    (steps : Steps callers target action)
    (present : callers.map.get key = some ref)
    (obtained : Obtained target tested key found created) :
    Obtained callers tested key found created ∨
      found = ref ∧ created = false := by
  rcases obtained_cases steps obtained with
    before | ⟨isHit, hit⟩ | ⟨_, _, spawning, _⟩
  · exact .inl before
  · rw [present] at hit
    exact .inr ⟨(Option.some.inj hit).symm, isHit⟩
  · obtain ⟨_, absent, _⟩ := holds.spawning tested key spawning
    rw [present] at absent
    cases absent

/-- The call that puts a conversation under a key obtains it. -/
theorem inserter_obtains
    {action : Action} {key : String} {ref : ConversationRef}
    (steps : Steps callers target action)
    (absent : callers.map.get key = none)
    (present : target.map.get key = some ref) :
    (∃ name, Obtained target name key ref true) ∨
      ∃ session now, action = .insertLoaded key session now := by
  have unchanged :
      target.map.get key = callers.map.get key →
        (∃ name, Obtained target name key ref true) ∨
          ∃ session now, action = .insertLoaded key session now := by
    intro same
    rw [same, absent] at present
    cases present
  cases steps with
  | creates name env other cwd callerId session foundThread made isTarget =>
      by_cases same : key = other
      · subst same
        subst isTarget
        have isFresh :
            (callers.map.insert key session env.now).get key =
              some callers.map.fresh :=
          ConversationMap.insert_get_self
        have sameRef := isFresh.symm.trans present
        cases sameRef
        refine .inl ⟨name, cwd, callerId, _, Pool.put_self _ _ _, .inr ?_⟩
        exact ⟨rfl, session, rfl⟩
      · apply unchanged
        subst isTarget
        exact ConversationMap.insert_get_other same
  | loads other session now unlocked absentOther room isTarget =>
      by_cases same : key = other
      · subst same
        exact .inr ⟨session, now, rfl⟩
      · apply unchanged
        subst isTarget
        exact ConversationMap.insert_get_other same
  | removes name env keys before after found unlocked removing isTarget =>
      subst isTarget
      have stillAbsent := ConversationMap.removeAll_get_none keys absent
      simp only [Callers.put, stillAbsent] at present
      cases present
  | clears other unlocked isTarget =>
      subst isTarget
      have stillAbsent : (callers.map.remove other).get key = none :=
        ConversationMap.removeAll_get_none [other] absent
      simp only [stillAbsent] at present
      cases present
  | starts _ _ _ _ _ isTarget | turns _ _ _ _ _ _ _ isTarget
  | hits _ _ _ _ _ _ _ _ _ _ _ isTarget
  | refuses _ _ _ _ _ _ _ _ _ isTarget | spawns _ _ _ _ _ _ _ _ _ isTarget
  | fails _ _ _ _ _ _ _ _ isTarget | records _ _ _ _ _ _ _ _ isTarget
  | deletes _ _ _ _ _ _ _ isTarget | ignores _ _ _ isTarget
  | drops _ _ _ _ _ _ _ isTarget =>
      apply unchanged
      subst isTarget
      rfl

/-- Only the stepping thread changes. -/
theorem thread_of_put
    {source : Callers} {caller : Caller} {tested : Nat}
    (changed :
      callers.threads tested ≠ (source.put name caller).threads tested)
    (sameThreads : source.threads = callers.threads) :
    (source.put name caller).threads tested = some caller := by
  by_cases same : tested = name
  · subst same
    exact Pool.put_self _ _ _
  · simp only [Callers.put, sameThreads, Pool.put_other same] at changed
    exact absurd rfl changed

/-- A call that fails leaves the map as it was. -/
theorem map_of_failed
    {action : Action} {key cwd callerId : String} {error : NewError}
    {tested : Nat}
    (steps : Steps callers target action)
    (changed : callers.threads tested ≠ target.threads tested)
    (failed : target.threads tested =
      some (.opening key cwd callerId (.returned (.error error)))) :
    target.map = callers.map := by
  cases steps with
  | hits name env other _ _ pc hit found waiting unlocked present isTarget =>
      subst isTarget
      rw [thread_of_put changed rfl] at failed
      cases failed
  | creates name env other _ _ session found made isTarget =>
      subst isTarget
      rw [thread_of_put changed rfl] at failed
      cases failed
  | removes name env keys before after found unlocked removing isTarget =>
      subst isTarget
      rw [thread_of_put changed rfl] at failed
      cases failed
      cases removing
  | loads other session now unlocked absent room isTarget =>
      subst isTarget
      exact absurd rfl changed
  | clears other unlocked isTarget =>
      subst isTarget
      exact absurd rfl changed
  | starts _ _ _ _ _ isTarget | turns _ _ _ _ _ _ _ isTarget
  | refuses _ _ _ _ _ _ _ _ _ isTarget | spawns _ _ _ _ _ _ _ _ _ isTarget
  | fails _ _ _ _ _ _ _ _ isTarget | records _ _ _ _ _ _ _ _ isTarget
  | deletes _ _ _ _ _ _ _ isTarget | ignores _ _ _ isTarget
  | drops _ _ _ _ _ _ _ isTarget =>
      subst isTarget
      rfl

/-! ## The contract -/

/-- What callers of the map can rely on. -/
structure MapContract (maxActive : Nat) (callers : Callers) : Prop where
  capacity : callers.map.inner.entries.length ≤ maxActive
  untruncated :
    callers.map.inner.entries.length % 2 ^ 32 =
      callers.map.inner.entries.length
  ids : ∀ key ref, callers.map.get key = some ref →
    ∃ conversation, callers.map.objects ref = some conversation ∧
      conversation.id = key
  oneSpawn : ∀ name other key otherKey,
    Spawning callers name key → Spawning callers other otherKey →
      name = other
  spawnAdmitted : ∀ name key, Spawning callers name key →
    callers.map.get key = none ∧
      callers.map.inner.entries.length < maxActive
  /-- From its insertion to its removal, a key has one conversation. -/
  sameConversation : ∀ key ref more later,
    callers.map.get key = some ref →
      Machine.Run step Machine.free callers more later →
        ¬ Machine.SomeStep step (RemovesKey key) callers more →
          later.map.get key = some ref ∧
            ∀ name found created, Obtained later name key found created →
              Obtained callers name key found created ∨
                found = ref ∧ created = false
  inserter : ∀ action target key ref,
    step action callers = some target → callers.map.get key = none →
      target.map.get key = some ref →
        (∃ name, Obtained target name key ref true) ∨
          ∃ session now, action = .insertLoaded key session now
  failure : ∀ action target name key cwd callerId error,
    step action callers = some target →
      callers.threads name ≠ target.threads name →
        target.threads name =
            some (.opening key cwd callerId (.returned (.error error))) →
          target.map = callers.map

/-- No two keys share a session. -/
def OwnSessions (callers : Callers) : Prop :=
  ∀ key other ref otherRef,
    callers.map.get key = some ref → callers.map.get other = some otherRef →
      callers.sessionOf ref = callers.sessionOf otherRef → key = other

theorem sameConversation_of_run
    {key : String} {ref : ConversationRef} {more : List Action}
    {later : Callers}
    (bounded : maxActive < 2 ^ 32) (holds : Holds maxActive callers)
    (present : callers.map.get key = some ref)
    (run : Machine.Run step Machine.free callers more later)
    (kept : ¬ Machine.SomeStep step (RemovesKey key) callers more) :
    Holds maxActive later ∧ later.map.get key = some ref ∧
      ∀ name found created, Obtained later name key found created →
        Obtained callers name key found created ∨
          found = ref ∧ created = false := by
  induction run with
  | start =>
      refine ⟨holds, present, ?_⟩
      intro name found created obtained
      exact .inl obtained
  | @snoc trace source target action before _ taken
      inductionHypothesis =>
      rw [before.someStep_snoc action] at kept
      obtain ⟨holdsBefore, presentBefore, obtainedBefore⟩ :=
        inductionHypothesis fun earlier => kept (.inl earlier)
      have steps := step_steps taken
      refine ⟨holdsBefore.of_steps bounded steps,
        get_of_steps holdsBefore steps presentBefore
          fun removed => kept (.inr removed), ?_⟩
      intro name found created obtained
      rcases obtained_of_steps holdsBefore steps presentBefore obtained with
        earlier | now
      · exact obtainedBefore name found created earlier
      · exact .inr now

theorem Holds.ownSessions
    (holds : Holds maxActive callers)
    (distinct : callers.map.DistinctSessions) : OwnSessions callers := by
  intro key other ref otherRef found foundOther same
  obtain ⟨conversation, isObject, isKey⟩ :=
    holds.formed.ids key ref found
  obtain ⟨otherConversation, isOtherObject, isOtherKey⟩ :=
    holds.formed.ids other otherRef foundOther
  simp only [Callers.sessionOf, isObject, isOtherObject, Option.map_some,
    Option.getD_some] at same
  have sameRef :=
    distinct ref otherRef conversation otherConversation isObject isOtherObject
      same
  subst sameRef
  rw [isObject] at isOtherObject
  cases isOtherObject
  exact isKey.symm.trans isOtherKey

/-- The contract holds in every state the callers can reach, and with new
sessions only, no two keys share one. -/
theorem conversation_map_contract
    {idleWindow : Nat} {rows : Rows} {trace : List Action}
    (bounded : maxActive < 2 ^ 32)
    (run : Machine.Run step Machine.free
      (.start maxActive idleWindow rows) trace callers) :
    MapContract maxActive callers ∧
      (Machine.Run step FreshSession (.start maxActive idleWindow rows) trace
          callers →
        OwnSessions callers) := by
  have formed : (Callers.start maxActive idleWindow rows).map.WellFormed :=
    ConversationMap.wellFormed_new maxActive idleWindow
  have atStart : Holds maxActive (Callers.start maxActive idleWindow rows) :=
    holds_of_formed formed rfl
  have holds := atStart.of_run bounded run
  have capacity : callers.map.inner.entries.length ≤ maxActive := by
    rw [← holds.limit]
    exact holds.formed.small
  refine
    ⟨{ capacity := capacity
       untruncated := Nat.mod_eq_of_lt (Nat.lt_of_le_of_lt capacity bounded)
       ids := holds.formed.ids
       oneSpawn := ?_
       spawnAdmitted := ?_
       sameConversation := ?_
       inserter := fun _ _ _ _ taken => inserter_obtains (step_steps taken)
       failure := fun _ _ _ _ _ _ _ taken => map_of_failed (step_steps taken) },
      ?_⟩
  · intro name other key otherKey spawning otherSpawning
    have locked := (holds.spawning name key spawning).1
    have otherLocked := (holds.spawning other otherKey otherSpawning).1
    rw [locked] at otherLocked
    exact Option.some.inj otherLocked
  · intro name key spawning
    obtain ⟨_, absent, room⟩ := holds.spawning name key spawning
    rw [holds.limit] at room
    exact ⟨absent, room⟩
  · intro key ref more later present further kept
    exact (sameConversation_of_run bounded holds present further kept).2
  · intro freshRun
    have atFirst : (Callers.start maxActive idleWindow
        rows).map.DistinctSessions :=
      ConversationMap.distinctSessions_new maxActive idleWindow
    exact holds.ownSessions (distinctSessions_of_run atFirst freshRun)

/-- Steps that bring no session. -/
def isQuiet : Action → Bool
  | .work _ env =>
      match env.spawned with
      | .ok _ => false
      | .error _ => true
  | .insertLoaded _ _ _ => false
  | _ => true

theorem freshSession_of_isQuiet
    {action : Action} (quiet : isQuiet action = true) (callers : Callers) :
    FreshSession callers action := by
  cases action with
  | work name env =>
      intro key cwd callerId session _ made
      simp [isQuiet, made] at quiet
  | insertLoaded key session now => cases quiet
  | open_ | reset | sweep | remove | drop => trivial

/-- A trace with one session is a run in which no session comes twice. -/
theorem freshRun_of_exec
    {init source : Callers} {before after : List Action} {env : Env}
    (quietBefore : before.all isQuiet = true)
    (quietAfter : after.all isQuiet = true)
    (toSource : Machine.exec step before init = some source)
    (unused : ∀ ref, source.map.objects ref = none)
    (taken : step (.work name env) source = some target)
    (toEnd : Machine.exec step after target = some callers) :
    Machine.Run step FreshSession init (before ++ [.work name env] ++ after)
      callers := by
  have firstSession : FreshSession source (.work name env) := by
    intro key cwd callerId session _ _ ref conversation found
    rw [unused ref] at found
    cases found
  have front :=
    Machine.run_of_exec_of_always
      (fun action member =>
        freshSession_of_isQuiet (List.all_eq_true.mp quietBefore action member))
      toSource
  have rest :=
    Machine.run_of_exec_of_always
      (fun action member =>
        freshSession_of_isQuiet (List.all_eq_true.mp quietAfter action member))
      toEnd
  exact (front.snoc firstSession taken).append rest

/-- Two callers on one key: one spawns, the other gets what it made. -/
theorem two_callers_contract :
    ∃ trace callers,
      Machine.exec step trace
          (.start 2 600
            { conversations := [], tasks := [], pushConfigs := [] }) =
          some callers ∧
        callers.map.get "k" = some 0 ∧
          Obtained callers 0 "k" 0 true ∧ Obtained callers 1 "k" 0 false ∧
            MapContract 2 callers ∧ OwnSessions callers := by
  let env : Env := { now := 0, spawned := .error "", idle := [] }
  let before : List Action :=
    [.open_ 0 "k" "/work" "anonymous", .open_ 1 "k" "/work" "anonymous",
      .work 0 env, .work 1 env, .work 0 env]
  let after : List Action := [.work 1 env, .work 0 env]
  obtain ⟨spawning, toSpawning⟩ : ∃ spawning,
      Machine.exec step before
          (.start 2 600
            { conversations := [], tasks := [], pushConfigs := [] }) =
        some spawning :=
    ⟨_, rfl⟩
  obtain ⟨created, creates⟩ : ∃ created,
      step (.work 0 { env with spawned := .ok "s-0" }) spawning =
        some created := by
    cases toSpawning
    exact ⟨_, rfl⟩
  obtain ⟨callers, toEnd⟩ : ∃ callers,
      Machine.exec step after created = some callers := by
    cases toSpawning
    cases creates
    exact ⟨_, rfl⟩
  have unused : ∀ ref, spawning.map.objects ref = none := by
    cases toSpawning
    exact fun _ => rfl
  have run := freshRun_of_exec rfl rfl toSpawning unused creates toEnd
  have ⟨contract, apart⟩ := conversation_map_contract (by decide) run.toFree
  refine ⟨_, callers, run.exec_eq, ?_, ?_, ?_, contract, apart run⟩
  · cases toSpawning
    cases creates
    cases toEnd
    rfl
  · cases toSpawning
    cases creates
    cases toEnd
    exact ⟨_, _, _, rfl, .inl rfl⟩
  · cases toSpawning
    cases creates
    cases toEnd
    exact ⟨_, _, _, rfl, .inl rfl⟩

end ConversationCallers

end A2AShim
