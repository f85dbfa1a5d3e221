import A2AShim.Lib.Machine
import A2AShim.Lib.Pool
import A2AShim.Serve.Conversation

/-!
# The idle sweep among other callers

`sweep_idle` looks at the conversations one by one under the read lock, and
removes the keys it has picked later, under the write lock.  In between others
use, remove and bind the same keys.  Nor does it look at the guard, and
entering a conversation does not count as a use of it.

Time is a clock that never goes back.  The rows are left out.
-/

namespace A2AShim

namespace IdleSweep

/-- `get_or_create`. -/
inductive OpenPc where
  | lookUp
  | lock
  | spawning
  | returned (result : Except NewError (ConversationRef × Bool))
  | dropped
  deriving DecidableEq

/-- `acquire_in_flight`, and the turn for which the guard is held. -/
inductive AcquirePc where
  | lookUp
  | tryLock (ref : ConversationRef)
  | holding (ref : ConversationRef)
  | refused (error : AcquireError)
  | released
  deriving DecidableEq, Repr

/-- `sweep_idle`; `left` are the keys it has not looked at. -/
inductive SweepPc where
  | start
  | readLock (now : Nat)
  | scanning (now : Nat) (left toDrop : List String)
  | writeLock (toDrop : List String)
  | returned (dropped : List String)
  deriving DecidableEq, Repr

inductive Caller where
  | opening (key : String) (pc : OpenPc)
  | acquiring (key : String) (pc : AcquirePc)
  | sweeping (pc : SweepPc)
  deriving DecidableEq

/-- `writer` holds the write lock while its spawn closure runs; `readers` hold
the read lock while they scan. -/
structure Callers where
  clock : Nat
  map : ConversationMap
  writer : Option Nat
  readers : List Nat
  threads : Pool Nat Caller

/-- What the spawn closure returns, and the key a scan comes to next. -/
structure Env where
  spawned : Except String SessionId
  visited : String
  deriving DecidableEq

namespace Callers

def init (maxActive idleWindow : Nat) : Callers :=
  { clock := 0, map := .new maxActive idleWindow, writer := none
    readers := [], threads := .empty }

def put (callers : Callers) (name : Nat) (caller : Caller) : Callers :=
  { callers with threads := callers.threads.put name caller }

/-- The write lock is free. -/
def isUnlocked (callers : Callers) : Bool :=
  callers.writer.isNone && callers.readers.isEmpty

end Callers

/-- The test of `sweep_idle`. -/
def isIdle (map : ConversationMap) (now : Nat) (key : String) : Bool :=
  match (map.get key).bind map.objects with
  | some conversation =>
      decide (map.idleWindow ≤ now - conversation.lastUsedAt)
  | none => false

def workOpening (callers : Callers) (name : Nat) (env : Env) (key : String)
    (pc : OpenPc) : Option Callers :=
  let goTo (source : Callers) (next : OpenPc) : Callers :=
    source.put name (.opening key next)
  let hit (ref : ConversationRef) : Callers :=
    goTo { callers with map := callers.map.touch ref callers.clock }
      (.returned (.ok (ref, false)))
  match pc with
  | .lookUp =>
      if callers.writer.isSome then none
      else
        match callers.map.get key with
        | some ref => some (hit ref)
        | none => some (goTo callers .lock)
  | .lock =>
      if callers.isUnlocked then
        match callers.map.get key with
        | some ref => some (hit ref)
        | none =>
            if callers.map.isFull then
              some (goTo callers (.returned (.error .limitReached)))
            else
              some (goTo { callers with writer := some name } .spawning)
      else
        none
  | .spawning =>
      match env.spawned with
      | .error text =>
          some (goTo { callers with writer := none }
            (.returned (.error (.spawn text))))
      | .ok session =>
          some (goTo
            { callers with
              map := callers.map.insert key session callers.clock
              writer := none }
            (.returned (.ok (callers.map.fresh, true))))
  | .returned _ | .dropped => none

def workAcquiring (callers : Callers) (name : Nat) (key : String)
    (pc : AcquirePc) : Option Callers :=
  let goTo (source : Callers) (next : AcquirePc) : Callers :=
    source.put name (.acquiring key next)
  match pc with
  | .lookUp =>
      if callers.writer.isSome then none
      else
        match callers.map.get key with
        | some ref => some (goTo callers (.tryLock ref))
        | none => some (goTo callers (.refused .notFound))
  | .tryLock ref =>
      match callers.map.tryLock ref name with
      | some locked => some (goTo { callers with map := locked } (.holding ref))
      | none => some (goTo callers (.refused .busy))
  | .holding ref =>
      some (goTo { callers with map := callers.map.release ref } .released)
  | .refused _ | .released => none

def workSweeping (callers : Callers) (name : Nat) (env : Env)
    (pc : SweepPc) : Option Callers :=
  let goTo (source : Callers) (next : SweepPc) : Callers :=
    source.put name (.sweeping next)
  match pc with
  | .start => some (goTo callers (.readLock callers.clock))
  | .readLock now =>
      if callers.writer.isSome then none
      else
        some (goTo { callers with readers := name :: callers.readers }
          (.scanning now (callers.map.inner.entries.map Sigma.fst) []))
  | .scanning _ [] [] =>
      some (goTo { callers with readers := callers.readers.erase name }
        (.returned []))
  | .scanning _ [] toDrop =>
      some (goTo { callers with readers := callers.readers.erase name }
        (.writeLock toDrop))
  | .scanning now left toDrop =>
      if env.visited ∈ left then
        some (goTo callers
          (.scanning now (left.erase env.visited)
            (if isIdle callers.map now env.visited then
              toDrop ++ [env.visited]
            else
              toDrop)))
      else
        none
  | .writeLock toDrop =>
      if callers.isUnlocked then
        some (goTo
          { callers with
            map := toDrop.foldl ConversationMap.remove callers.map }
          (.returned toDrop))
      else
        none
  | .returned _ => none

inductive Action where
  | tick
  | open_ (name : Nat) (key : String)
  | acquire (name : Nat) (key : String)
  | sweep (name : Nat)
  | insertLoaded (key : String) (session : SessionId)
  | remove (key : String)
  | work (name : Nat) (env : Env)
  | drop (name : Nat)
  deriving DecidableEq

def spawn (callers : Callers) (name : Nat) (caller : Caller) :
    Option Callers :=
  match callers.threads name with
  | some _ => none
  | none => some (callers.put name caller)

/-- The caller of `get_or_create` goes away while it waits. -/
def drop (callers : Callers) (name : Nat) : Option Callers :=
  match callers.threads name with
  | some (.opening key pc) =>
      if pc = .lookUp ∨ pc = .lock ∨ pc = .spawning then
        some (Callers.put
          { callers with
            writer :=
              if callers.writer = some name then none else callers.writer }
          name (.opening key .dropped))
      else none
  | _ => none

def step : Action → Callers → Option Callers
  | .tick, callers => some { callers with clock := callers.clock + 1 }
  | .open_ name key, callers => spawn callers name (.opening key .lookUp)
  | .acquire name key, callers => spawn callers name (.acquiring key .lookUp)
  | .sweep name, callers => spawn callers name (.sweeping .start)
  | .insertLoaded key session, callers =>
      if callers.isUnlocked then
        if (callers.map.get key).isSome ∨ callers.map.isFull then
          some callers
        else
          some { callers with
            map := callers.map.insert key session callers.clock }
      else none
  | .remove key, callers =>
      if callers.isUnlocked then
        some { callers with map := callers.map.remove key }
      else none
  | .work name env, callers =>
      (callers.threads name).bind fun
        | .opening key pc => workOpening callers name env key pc
        | .acquiring key pc => workAcquiring callers name key pc
        | .sweeping pc => workSweeping callers name env pc
  | .drop name, callers => drop callers name

/-! ## What a sweep has to do -/

/-- What a step of a sweep has to do: it removes no conversation but unused
ones whose guard is free, and the ids it returns are those it has removed. -/
structure SweepsIdle (callers next : Callers) (name : Nat) : Prop where
  idle : ∀ key ref, callers.map.get key = some ref →
    next.map.get key = none → ∃ conversation,
      callers.map.objects ref = some conversation ∧
        callers.map.idleWindow ≤ callers.clock - conversation.lastUsedAt ∧
          conversation.inFlight = none
  returned : ∀ dropped,
    next.threads name = some (.sweeping (.returned dropped)) →
      dropped.Nodup ∧ ∀ key, key ∈ dropped ↔
        (callers.map.get key).isSome = true ∧ next.map.get key = none

/-- The keys that a sweep has picked. -/
def SweepPc.toDrop : SweepPc → List String
  | .scanning _ _ toDrop | .writeLock toDrop => toDrop
  | _ => []

/-- The keys that the next step of a sweep removes. -/
def SweepPc.toRemove : SweepPc → List String
  | .writeLock toDrop => toDrop
  | _ => []

def SweepPc.left : SweepPc → List String
  | .scanning _ left _ => left
  | _ => []

def SweepPc.now? : SweepPc → Option Nat
  | .readLock now | .scanning now _ _ => some now
  | _ => none

/-- The sweep is going to remove the key. -/
def Picked (callers : Callers) (name : Nat) (key : String) : Prop :=
  ∃ pc, callers.threads name = some (.sweeping pc) ∧ key ∈ pc.toDrop

/-- Steps that use, enter or remove what the key is bound to. -/
inductive Uses (callers : Callers) (key : String) : Action → Prop
  | opens (name : Nat) (env : Env) (pc : OpenPc)
      (found : callers.threads name = some (.opening key pc))
      (looks : pc = .lookUp ∨ pc = .lock) :
      Uses callers key (.work name env)
  | enters (name : Nat) (env : Env) (other : String) (ref : ConversationRef)
      (found : callers.threads name = some (.acquiring other (.tryLock ref)))
      (bound : callers.map.get key = some ref) :
      Uses callers key (.work name env)
  | removes : Uses callers key (.remove key)

/-- Steps on a key that a sweep has picked, and picks of a conversation whose
guard is held. -/
inductive Disturbs (callers : Callers) : Action → Prop
  | uses (action : Action) (name : Nat) (key : String)
      (picked : Picked callers name key) (used : Uses callers key action) :
      Disturbs callers action
  | sweeps (name other : Nat) (env : Env) (key : String)
      (toDrop : List String)
      (found : callers.threads name = some (.sweeping (.writeLock toDrop)))
      (member : key ∈ toDrop) (different : other ≠ name)
      (picked : Picked callers other key) :
      Disturbs callers (.work name env)
  | busy (name now : Nat) (env : Env) (left toDrop : List String)
      (ref : ConversationRef) (conversation : Conversation)
      (found :
        callers.threads name = some (.sweeping (.scanning now left toDrop)))
      (idle : isIdle callers.map now env.visited = true)
      (bound : callers.map.get env.visited = some ref)
      (isObject : callers.map.objects ref = some conversation)
      (held : conversation.inFlight ≠ none) :
      Disturbs callers (.work name env)

def Undisturbed (callers : Callers) (action : Action) : Prop :=
  ¬ Disturbs callers action

/-! ## What one step does -/

/-- What becomes of the map. -/
inductive MapEffect (callers next : Callers) : Action → Prop
  | keeps (action : Action) (isMap : next.map = callers.map) :
      MapEffect callers next action
  | touches (name : Nat) (env : Env) (key : String) (pc : OpenPc)
      (ref : ConversationRef)
      (found : callers.threads name = some (.opening key pc))
      (looks : pc = .lookUp ∨ pc = .lock)
      (bound : callers.map.get key = some ref)
      (isMap : next.map = callers.map.touch ref callers.clock) :
      MapEffect callers next (.work name env)
  | creates (name : Nat) (env : Env) (key : String) (session : SessionId)
      (found : callers.threads name = some (.opening key .spawning))
      (leaves : ∀ other, next.threads name ≠ some (.opening other .spawning))
      (isMap :
        next.map = callers.map.insert key session callers.clock) :
      MapEffect callers next (.work name env)
  | loads (key : String) (session : SessionId)
      (unlocked : callers.writer = none)
      (absent : callers.map.get key = none)
      (isMap :
        next.map = callers.map.insert key session callers.clock) :
      MapEffect callers next (.insertLoaded key session)
  | locks (name : Nat) (env : Env) (key : String) (ref : ConversationRef)
      (found : callers.threads name = some (.acquiring key (.tryLock ref)))
      (taken : callers.map.tryLock ref name = some next.map) :
      MapEffect callers next (.work name env)
  | releases (name : Nat) (env : Env) (ref : ConversationRef)
      (isMap : next.map = callers.map.release ref) :
      MapEffect callers next (.work name env)
  | clears (key : String) (isMap : next.map = callers.map.remove key) :
      MapEffect callers next (.remove key)
  | sweeps (name : Nat) (env : Env) (toDrop : List String)
      (found : callers.threads name = some (.sweeping (.writeLock toDrop)))
      (returns : next.threads name = some (.sweeping (.returned toDrop)))
      (isMap :
        next.map = toDrop.foldl ConversationMap.remove callers.map) :
      MapEffect callers next (.work name env)

/-- What becomes of the thread of a sweep. -/
inductive SweepMove (callers : Callers) (env : Env) :
    SweepPc → SweepPc → Prop
  | starts : SweepMove callers env .start (.readLock callers.clock)
  | reads (now : Nat) :
      SweepMove callers env (.readLock now)
        (.scanning now (callers.map.inner.entries.map Sigma.fst) [])
  | passes (now : Nat) (left toDrop : List String)
      (visits : env.visited ∈ left) :
      SweepMove callers env (.scanning now left toDrop)
        (.scanning now (left.erase env.visited) toDrop)
  | picks (now : Nat) (left toDrop : List String)
      (visits : env.visited ∈ left)
      (idle : isIdle callers.map now env.visited = true) :
      SweepMove callers env (.scanning now left toDrop)
        (.scanning now (left.erase env.visited) (toDrop ++ [env.visited]))
  | findsNone (now : Nat) :
      SweepMove callers env (.scanning now [] []) (.returned [])
  | ends (now : Nat) (toDrop : List String) :
      SweepMove callers env (.scanning now [] toDrop) (.writeLock toDrop)
  | removes (toDrop : List String) :
      SweepMove callers env (.writeLock toDrop) (.returned toDrop)

/-- What becomes of the writer and the threads. -/
inductive ThreadEffect (callers next : Callers) : Action → Prop
  | keeps (action : Action) (sameThreads : next.threads = callers.threads)
      (sameWriter : next.writer = callers.writer) :
      ThreadEffect callers next action
  | moves (action : Action) (name : Nat) (after : Caller)
      (isNext : next.threads = callers.threads.put name after)
      (notSpawning : ∀ key, after ≠ .opening key .spawning)
      (notSweeping : ∀ pc, after = .sweeping pc → pc = .start)
      (sameWriter : next.writer = callers.writer ∨
        callers.writer = some name ∨
          ∃ key, callers.threads name = some (.opening key .spawning)) :
      ThreadEffect callers next action
  | spawns (name : Nat) (env : Env) (key : String)
      (isNext :
        next.threads = callers.threads.put name (.opening key .spawning))
      (unlocked : callers.writer = none)
      (isWriter : next.writer = some name)
      (absent : next.map.get key = none) :
      ThreadEffect callers next (.work name env)
  | sweeps (name : Nat) (env : Env) (before after : SweepPc)
      (found : callers.threads name = some (.sweeping before))
      (isNext : next.threads = callers.threads.put name (.sweeping after))
      (moved : SweepMove callers env before after)
      (sameWriter : next.writer = callers.writer) :
      ThreadEffect callers next (.work name env)

structure Effects (callers next : Callers) (action : Action) : Prop where
  map : MapEffect callers next action
  thread : ThreadEffect callers next action
  clock : callers.clock ≤ next.clock

variable {callers next : Callers} {name : Nat} {env : Env} {key : String}

theorem isUnlocked_iff :
    callers.isUnlocked = true ↔
      callers.writer = none ∧ callers.readers = [] := by
  simp [Callers.isUnlocked]

theorem spawn_effects
    {action : Action} {caller : Caller}
    (notSpawning : ∀ key, caller ≠ .opening key .spawning)
    (notSweeping : ∀ pc, caller = .sweeping pc → pc = .start)
    (taken : spawn callers name caller = some next) :
    Effects callers next action := by
  unfold spawn at taken
  split at taken
  · cases taken
  · cases taken
    exact ⟨.keeps _ rfl,
      .moves _ name caller rfl notSpawning notSweeping (.inl rfl),
      Nat.le_refl _⟩

theorem workOpening_effects
    {pc : OpenPc} (found : callers.threads name = some (.opening key pc))
    (taken : workOpening callers name env key pc = some next) :
    Effects callers next (.work name env) := by
  cases pc with
  | lookUp =>
      simp only [workOpening] at taken
      split at taken
      · cases taken
      · split at taken
        · rename_i ref bound
          cases taken
          exact ⟨.touches name env key _ ref found (.inl rfl) bound rfl,
            .moves _ name _ rfl nofun nofun (.inl rfl), Nat.le_refl _⟩
        · cases taken
          exact ⟨.keeps _ rfl, .moves _ name _ rfl nofun nofun (.inl rfl),
            Nat.le_refl _⟩
  | lock =>
      simp only [workOpening] at taken
      split at taken
      · rename_i unlocked
        split at taken
        · rename_i ref bound
          cases taken
          exact ⟨.touches name env key _ ref found (.inr rfl) bound rfl,
            .moves _ name _ rfl nofun nofun (.inl rfl), Nat.le_refl _⟩
        · rename_i absent
          split at taken
          · cases taken
            exact ⟨.keeps _ rfl, .moves _ name _ rfl nofun nofun (.inl rfl),
              Nat.le_refl _⟩
          · cases taken
            exact ⟨.keeps _ rfl,
              .spawns name env key rfl (isUnlocked_iff.mp unlocked).1 rfl
                absent,
              Nat.le_refl _⟩
      · cases taken
  | spawning =>
      simp only [workOpening] at taken
      split at taken
      · cases taken
        exact ⟨.keeps _ rfl,
          .moves _ name _ rfl nofun nofun (.inr (.inr ⟨key, found⟩)),
          Nat.le_refl _⟩
      · rename_i session made
        cases taken
        refine ⟨.creates name env key session found ?_ rfl,
          .moves _ name _ rfl nofun nofun (.inr (.inr ⟨key, found⟩)),
          Nat.le_refl _⟩
        intro other
        simp [Callers.put]
  | returned result => cases taken
  | dropped => cases taken

theorem workAcquiring_effects
    {pc : AcquirePc} (found : callers.threads name = some (.acquiring key pc))
    (taken : workAcquiring callers name key pc = some next) :
    Effects callers next (.work name env) := by
  cases pc with
  | lookUp =>
      simp only [workAcquiring] at taken
      split at taken
      · cases taken
      · split at taken
        · cases taken
          exact ⟨.keeps _ rfl, .moves _ name _ rfl nofun nofun (.inl rfl),
            Nat.le_refl _⟩
        · cases taken
          exact ⟨.keeps _ rfl, .moves _ name _ rfl nofun nofun (.inl rfl),
            Nat.le_refl _⟩
  | tryLock ref =>
      simp only [workAcquiring] at taken
      split at taken
      · rename_i locked isLocked
        cases taken
        exact ⟨.locks name env key ref found isLocked,
          .moves _ name _ rfl nofun nofun (.inl rfl), Nat.le_refl _⟩
      · cases taken
        exact ⟨.keeps _ rfl, .moves _ name _ rfl nofun nofun (.inl rfl),
          Nat.le_refl _⟩
  | holding ref =>
      cases taken
      exact ⟨.releases name env ref rfl,
        .moves _ name _ rfl nofun nofun (.inl rfl), Nat.le_refl _⟩
  | refused error => cases taken
  | released => cases taken

/-- One step of a sweep. -/
structure Moved (callers next : Callers) (name : Nat) (env : Env)
    (before after : SweepPc) : Prop where
  threads : next.threads = callers.threads.put name (.sweeping after)
  move : SweepMove callers env before after
  writer : next.writer = callers.writer
  clock : next.clock = callers.clock
  map : next.map =
    before.toRemove.foldl ConversationMap.remove callers.map

theorem workSweeping_moves
    {pc : SweepPc} (taken : workSweeping callers name env pc = some next) :
    ∃ after, Moved callers next name env pc after := by
  cases pc with
  | start =>
      cases taken
      exact ⟨_, rfl, .starts, rfl, rfl, rfl⟩
  | readLock now =>
      simp only [workSweeping] at taken
      split at taken
      · cases taken
      · cases taken
        exact ⟨_, rfl, .reads now, rfl, rfl, rfl⟩
  | scanning now left toDrop =>
      cases left with
      | nil =>
          cases toDrop with
          | nil =>
              cases taken
              exact ⟨_, rfl, .findsNone now, rfl, rfl, rfl⟩
          | cons first rest =>
              cases taken
              exact ⟨_, rfl, .ends now _, rfl, rfl, rfl⟩
      | cons first rest =>
          simp only [workSweeping] at taken
          split at taken
          · rename_i visits
            cases taken
            refine ⟨_, rfl, ?_, rfl, rfl, rfl⟩
            split
            · rename_i idle
              exact .picks now _ toDrop visits idle
            · exact .passes now _ toDrop visits
          · cases taken
  | writeLock toDrop =>
      simp only [workSweeping] at taken
      split at taken
      · cases taken
        exact ⟨_, rfl, .removes toDrop, rfl, rfl, rfl⟩
      · cases taken
  | returned dropped => cases taken

theorem workSweeping_effects
    {pc : SweepPc} (found : callers.threads name = some (.sweeping pc))
    (taken : workSweeping callers name env pc = some next) :
    Effects callers next (.work name env) := by
  obtain ⟨after, moved⟩ := workSweeping_moves taken
  refine ⟨?_, .sweeps name env pc after found moved.threads moved.move
    moved.writer, Nat.le_of_eq moved.clock.symm⟩
  have isMap := moved.map
  cases moved.move with
  | removes toDrop =>
      refine .sweeps name env toDrop found ?_ isMap
      rw [moved.threads]
      exact Pool.put_self _ _ _
  | starts | reads | passes | picks | findsNone | ends =>
      exact .keeps _ isMap

theorem drop_effects (taken : drop callers name = some next) :
    Effects callers next (.drop name) := by
  unfold drop at taken
  split at taken
  · rename_i key pc found
    split at taken
    · cases taken
      refine ⟨.keeps _ rfl, .moves _ name _ rfl nofun nofun ?_,
        Nat.le_refl _⟩
      by_cases isWriter : callers.writer = some name
      · exact .inr (.inl isWriter)
      · left
        simp [Callers.put, isWriter]
    · cases taken
  · cases taken

/-- What a step does to the map, and what to the threads. -/
theorem effects_of_step
    {action : Action} (taken : step action callers = some next) :
    Effects callers next action := by
  cases action with
  | tick =>
      cases taken
      exact ⟨.keeps _ rfl, .keeps _ rfl rfl, Nat.le_succ _⟩
  | open_ name key =>
      refine spawn_effects ?_ ?_ taken
      · intro other same
        cases same
      · intro pc same
        cases same
  | acquire name key =>
      refine spawn_effects ?_ ?_ taken
      · intro other same
        cases same
      · intro pc same
        cases same
  | sweep name =>
      refine spawn_effects ?_ ?_ taken
      · intro other same
        cases same
      · intro pc same
        cases same
        rfl
  | insertLoaded key session =>
      simp only [step] at taken
      split at taken
      · rename_i unlocked
        split at taken
        · cases taken
          exact ⟨.keeps _ rfl, .keeps _ rfl rfl, Nat.le_refl _⟩
        · rename_i free
          cases taken
          have absent : callers.map.get key = none := by
            rw [not_or] at free
            simpa using free.1
          exact ⟨.loads key session (isUnlocked_iff.mp unlocked).1 absent rfl,
            .keeps _ rfl rfl, Nat.le_refl _⟩
      · cases taken
  | remove key =>
      simp only [step] at taken
      split at taken
      · cases taken
        exact ⟨.clears key rfl, .keeps _ rfl rfl, Nat.le_refl _⟩
      · cases taken
  | work name env =>
      obtain ⟨caller, found, worked⟩ := Option.bind_eq_some_iff.mp taken
      cases caller with
      | opening key pc => exact workOpening_effects found worked
      | acquiring key pc => exact workAcquiring_effects found worked
      | sweeping pc => exact workSweeping_effects found worked
  | drop name => exact drop_effects taken

/-! ## The invariant -/

/-- Every key is bound to an object that has its name. -/
structure Named (map : ConversationMap) : Prop where
  fresh : map.Fresh
  ids : ∀ key ref, map.get key = some ref →
    ∃ conversation, map.objects ref = some conversation ∧
      conversation.id = key

/-- The key is bound to a conversation that is unused for the window and whose
guard is free. -/
def IdleAt (callers : Callers) (key : String) : Prop :=
  ∃ ref conversation, callers.map.get key = some ref ∧
    callers.map.objects ref = some conversation ∧
      callers.map.idleWindow ≤ callers.clock - conversation.lastUsedAt ∧
        conversation.inFlight = none

/-- Where a sweep stands: it has looked at other keys than it will, and what it
has picked is idle. -/
structure SweepSound (callers : Callers) (pc : SweepPc) : Prop where
  past : ∀ now, pc.now? = some now → now ≤ callers.clock
  distinct : (pc.left ++ pc.toDrop).Nodup
  idle : ∀ key, key ∈ pc.toDrop → IdleAt callers key

structure Sound (callers : Callers) : Prop where
  named : Named callers.map
  spawning : ∀ name key,
    callers.threads name = some (.opening key .spawning) →
      callers.writer = some name ∧ callers.map.get key = none
  sweeps : ∀ name pc, callers.threads name = some (.sweeping pc) →
    SweepSound callers pc

theorem Named.eq_of_ref
    {map : ConversationMap} {key other : String} {ref : ConversationRef}
    (named : Named map) (bound : map.get key = some ref)
    (boundToo : map.get other = some ref) : key = other := by
  obtain ⟨conversation, found, isKey⟩ := named.ids key ref bound
  obtain ⟨again, foundAgain, isOther⟩ := named.ids other ref boundToo
  rw [found] at foundAgain
  cases foundAgain
  rw [← isKey, ← isOther]

theorem named_init (maxActive idleWindow : Nat) :
    Named (ConversationMap.new maxActive idleWindow) where
  fresh := fun _ _ => rfl
  ids := by
    intro key ref bound
    simp [ConversationMap.get, ConversationMap.new] at bound

section Named

variable {map : ConversationMap} {ref : ConversationRef}
variable {session : SessionId} {now : Nat}

theorem Named.update
    {change : Conversation → Conversation} (named : Named map)
    (sameId : ∀ conversation, (change conversation).id = conversation.id) :
    Named (map.update ref change) where
  fresh := named.fresh.update
  ids := by
    intro key found bound
    obtain ⟨conversation, isObject, isKey⟩ := named.ids key found bound
    have kept := @ConversationMap.update_field map ref change _
      Conversation.id sameId found
    rw [isObject] at kept
    obtain ⟨after, isAfter, isId⟩ := Option.map_eq_some_iff.mp kept
    exact ⟨after, isAfter, isId.trans isKey⟩

theorem Named.insert (named : Named map) :
    Named (map.insert key session now) where
  fresh := named.fresh.insert
  ids := by
    intro tested found bound
    by_cases same : tested = key
    · subst same
      rw [ConversationMap.insert_get_self] at bound
      cases bound
      exact ⟨_, Function.update_self _ _ _, rfl⟩
    · rw [ConversationMap.insert_get_other same] at bound
      obtain ⟨conversation, isObject, isKey⟩ := named.ids tested found bound
      have earlier := ConversationMap.ne_fresh_of_found named.fresh isObject
      exact ⟨conversation,
        (ConversationMap.insert_objects_other earlier).trans isObject, isKey⟩

theorem Named.removeAll (named : Named map) (keys : List String) :
    Named (keys.foldl ConversationMap.remove map) where
  fresh := by
    intro tested later
    rw [ConversationMap.removeAll_fresh] at later
    rw [ConversationMap.removeAll_objects]
    exact named.fresh tested later
  ids := by
    intro tested found bound
    rw [ConversationMap.removeAll_objects]
    by_cases removed : tested ∈ keys
    · rw [ConversationMap.removeAll_get_self removed] at bound
      cases bound
    · rw [ConversationMap.removeAll_get_other removed] at bound
      exact named.ids tested found bound

end Named

theorem removeAll_idleWindow {map : ConversationMap} (keys : List String) :
    (keys.foldl ConversationMap.remove map).idleWindow = map.idleWindow := by
  induction keys generalizing map with
  | nil => rfl
  | cons key rest inductionHypothesis => exact inductionHypothesis

theorem named_step
    {action : Action} (named : Named callers.map)
    (effect : MapEffect callers next action) : Named next.map := by
  cases effect with
  | keeps _ isMap =>
      rw [isMap]
      exact named
  | touches name env key pc ref found looks bound isMap =>
      rw [isMap]
      exact named.update fun _ => rfl
  | creates name env key session found leaves isMap =>
      rw [isMap]
      exact named.insert
  | loads key session unlocked absent isMap =>
      rw [isMap]
      exact named.insert
  | locks name env key ref found taken =>
      obtain ⟨_, _, _, isMap⟩ := ConversationMap.tryLock_some taken
      rw [isMap]
      exact named.update fun _ => rfl
  | releases name env ref isMap =>
      rw [isMap]
      exact named.update fun _ => rfl
  | clears key isMap =>
      rw [isMap]
      exact named.removeAll [key]
  | sweeps name env toDrop found returns isMap =>
      rw [isMap]
      exact named.removeAll toDrop

/-- While a thread is spawning, nobody else can bind its key. -/
theorem stays_free
    {action : Action} (sound : Sound callers)
    (effect : MapEffect callers next action) {key : String}
    (was : callers.threads name = some (.opening key .spawning))
    (found : next.threads name = some (.opening key .spawning)) :
    next.map.get key = none := by
  obtain ⟨isWriter, absent⟩ := sound.spawning name key was
  cases effect with
  | keeps _ isMap =>
      rw [isMap]
      exact absent
  | touches other env touched pc ref foundOther looks bound isMap =>
      rw [isMap]
      exact absent
  | creates other env created session foundOther leaves isMap =>
      have same := (sound.spawning other created foundOther).1
      rw [isWriter] at same
      cases same
      exact absurd found (leaves key)
  | loads loaded session unlocked free isMap =>
      rw [isWriter] at unlocked
      cases unlocked
  | locks other env locked ref foundOther taken =>
      obtain ⟨_, _, _, isMap⟩ := ConversationMap.tryLock_some taken
      rw [isMap]
      exact absent
  | releases other env ref isMap =>
      rw [isMap]
      exact absent
  | clears removed isMap =>
      rw [isMap]
      exact ConversationMap.removeAll_get_none [removed] absent
  | sweeps other env toDrop foundOther returns isMap =>
      rw [isMap]
      exact ConversationMap.removeAll_get_none toDrop absent

theorem spawning_step
    {action : Action} (sound : Sound callers)
    (effects : Effects callers next action) {key : String}
    (found : next.threads name = some (.opening key .spawning)) :
    next.writer = some name ∧ next.map.get key = none := by
  -- A thread that was spawning already still has the lock and its free key.
  have stays : callers.threads name = some (.opening key .spawning) →
      next.map.get key = none :=
    fun was => stays_free sound effects.map was found
  cases effects.thread with
  | keeps _ sameThreads sameWriter =>
      rw [sameThreads] at found
      rw [sameWriter]
      exact ⟨(sound.spawning name key found).1, stays found⟩
  | moves _ other after isNext notSpawning notSweeping sameWriter =>
      rw [isNext] at found
      rcases Pool.put_cases found with ⟨_, isCaller⟩ | ⟨different, before⟩
      · exact absurd isCaller.symm (notSpawning key)
      · have isWriter := (sound.spawning name key before).1
        refine ⟨?_, stays before⟩
        rcases sameWriter with kept | wasWriter | ⟨otherKey, spawns⟩
        · rw [kept]
          exact isWriter
        · rw [wasWriter] at isWriter
          exact absurd (Option.some.inj isWriter).symm different
        · have wasWriter := (sound.spawning other otherKey spawns).1
          rw [wasWriter] at isWriter
          exact absurd (Option.some.inj isWriter).symm different
  | spawns other env created isNext unlocked isWriter absent =>
      rw [isNext] at found
      rcases Pool.put_cases found with ⟨rfl, isCaller⟩ | ⟨_, before⟩
      · cases isCaller
        exact ⟨isWriter, absent⟩
      · have wasWriter := (sound.spawning name key before).1
        rw [unlocked] at wasWriter
        cases wasWriter
  | sweeps other env pc after foundOther isNext moved sameWriter =>
      rw [isNext] at found
      rcases Pool.put_cases found with ⟨_, isCaller⟩ | ⟨_, before⟩
      · cases isCaller
      · rw [sameWriter]
        exact ⟨(sound.spawning name key before).1, stays before⟩

theorem idleAt_keep
    (idle : IdleAt callers key) (later : callers.clock ≤ next.clock)
    (isMap : next.map = callers.map) : IdleAt next key := by
  obtain ⟨ref, conversation, bound, isObject, unused, free⟩ := idle
  refine ⟨ref, conversation, ?_, ?_, ?_, free⟩
  · rw [isMap]
    exact bound
  · rw [isMap]
    exact isObject
  · rw [isMap]
    omega

/-- A change of another object leaves the one of the key. -/
theorem idleAt_update
    {changed : ConversationRef} {change : Conversation → Conversation}
    (idle : IdleAt callers key) (later : callers.clock ≤ next.clock)
    (isMap : next.map = callers.map.update changed change)
    (different : callers.map.get key ≠ some changed) : IdleAt next key := by
  obtain ⟨ref, conversation, bound, isObject, unused, free⟩ := idle
  have otherRef : ref ≠ changed := by
    intro same
    exact different (bound.trans (congrArg some same))
  refine ⟨ref, conversation, ?_, ?_, ?_, free⟩
  · rw [isMap]
    exact bound
  · rw [isMap, ConversationMap.update_other otherRef]
    exact isObject
  · have sameWindow : next.map.idleWindow = callers.map.idleWindow := by
      rw [isMap]
      rfl
    omega

theorem idleAt_release
    {released : ConversationRef} (idle : IdleAt callers key)
    (later : callers.clock ≤ next.clock)
    (isMap : next.map = callers.map.release released) : IdleAt next key := by
  by_cases same : callers.map.get key = some released
  · obtain ⟨ref, conversation, bound, isObject, unused, free⟩ := idle
    rw [bound] at same
    cases same
    have sameWindow : next.map.idleWindow = callers.map.idleWindow := by
      rw [isMap]
      rfl
    refine ⟨released, { conversation with inFlight := none }, ?_, ?_, ?_, rfl⟩
    · rw [isMap]
      exact bound
    · rw [isMap, ConversationMap.release, ConversationMap.update_self,
        isObject]
      rfl
    · simp only
      omega
  · exact idleAt_update idle later isMap same

theorem idleAt_insert
    {added : String} {session : SessionId} {now : Nat}
    (idle : IdleAt callers key) (later : callers.clock ≤ next.clock)
    (fresh : callers.map.Fresh)
    (isMap : next.map = callers.map.insert added session now)
    (absent : callers.map.get added = none) : IdleAt next key := by
  obtain ⟨ref, conversation, bound, isObject, unused, free⟩ := idle
  have different : key ≠ added := by
    intro same
    rw [← same, bound] at absent
    cases absent
  have earlier := ConversationMap.ne_fresh_of_found fresh isObject
  refine ⟨ref, conversation, ?_, ?_, ?_, free⟩
  · rw [isMap, ConversationMap.insert_get_other different]
    exact bound
  · rw [isMap, ConversationMap.insert_objects_other earlier]
    exact isObject
  · have sameWindow : next.map.idleWindow = callers.map.idleWindow := by
      rw [isMap]
      rfl
    omega

theorem idleAt_removeAll
    {keys : List String} (idle : IdleAt callers key)
    (later : callers.clock ≤ next.clock)
    (isMap : next.map = keys.foldl ConversationMap.remove callers.map)
    (spared : key ∉ keys) : IdleAt next key := by
  obtain ⟨ref, conversation, bound, isObject, unused, free⟩ := idle
  refine ⟨ref, conversation, ?_, ?_, ?_, free⟩
  · rw [isMap, ConversationMap.removeAll_get_other spared]
    exact bound
  · rw [isMap, ConversationMap.removeAll_objects]
    exact isObject
  · rw [isMap, removeAll_idleWindow]
    omega

/-- A conversation stays idle as long as nobody uses, enters or removes it. -/
theorem idleAt_step
    {action : Action} (sound : Sound callers)
    (effects : Effects callers next action) (idle : IdleAt callers key)
    (notUsed : ¬ Uses callers key action)
    (notSwept : ∀ other toDrop,
      callers.threads other = some (.sweeping (.writeLock toDrop)) →
        next.threads other = some (.sweeping (.returned toDrop)) →
          (∃ env, action = .work other env) → key ∉ toDrop) :
    IdleAt next key := by
  have later := effects.clock
  cases effects.map with
  | keeps _ isMap => exact idleAt_keep idle later isMap
  | touches name env touched pc ref found looks boundOther isMap =>
      refine idleAt_update idle later isMap ?_
      intro bound
      have sameKey := sound.named.eq_of_ref bound boundOther
      subst sameKey
      exact notUsed (.opens name env pc found looks)
  | creates name env added session found leaves isMap =>
      have absent := (sound.spawning name added found).2
      exact idleAt_insert idle later sound.named.fresh isMap absent
  | loads added session unlocked absent isMap =>
      exact idleAt_insert idle later sound.named.fresh isMap absent
  | locks name env locked ref found taken =>
      obtain ⟨_, _, _, isMap⟩ := ConversationMap.tryLock_some taken
      refine idleAt_update idle later isMap ?_
      intro bound
      exact notUsed (.enters name env locked ref found bound)
  | releases name env ref isMap => exact idleAt_release idle later isMap
  | clears other isMap =>
      refine @idleAt_removeAll _ _ _ [other] idle later isMap ?_
      intro member
      rw [List.mem_singleton.mp member] at notUsed
      exact notUsed .removes
  | sweeps other env toDrop found returns isMap =>
      have spared := notSwept other toDrop found returns ⟨env, rfl⟩
      exact idleAt_removeAll idle later isMap spared

/-- What a sweep has picked stays idle until the sweep removes it. -/
theorem idleAt_picked
    {action : Action} {pc : SweepPc} (sound : Sound callers)
    (undisturbed : Undisturbed callers action)
    (effects : Effects callers next action)
    (found : callers.threads name = some (.sweeping pc))
    (member : key ∈ pc.toDrop)
    (stays : ∀ dropped,
      next.threads name ≠ some (.sweeping (.returned dropped))) :
    IdleAt next key := by
  have picked : Picked callers name key := ⟨pc, found, member⟩
  refine idleAt_step sound effects ((sound.sweeps name pc found).idle key
    member) ?_ ?_
  · exact fun used => undisturbed (.uses action name key picked used)
  · rintro other toDrop isSweep returns ⟨env, rfl⟩ swept
    by_cases same : name = other
    · subst same
      exact stays toDrop returns
    · exact undisturbed
        (.sweeps other name env key toDrop isSweep swept same picked)

/-- A sweep that has nothing to read of what it was. -/
theorem sweepSound_of_none
    {pc : SweepPc} (noTime : pc.now? = none) (noKeys : pc.left = [])
    (nothing : pc.toDrop = []) : SweepSound callers pc where
  past := by
    intro now isNow
    rw [noTime] at isNow
    cases isNow
  distinct := by
    rw [noKeys, nothing]
    exact List.nodup_nil
  idle := by
    intro key member
    rw [nothing] at member
    cases member

/-- The guard of a conversation that is picked is free. -/
theorem idleAt_visited
    {now : Nat} {left toDrop : List String}
    (sound : Sound callers) (undisturbed : Undisturbed callers (.work name env))
    (found :
      callers.threads name = some (.sweeping (.scanning now left toDrop)))
    (idle : isIdle callers.map now env.visited = true) :
    IdleAt callers env.visited := by
  have past := (sound.sweeps name _ found).past now rfl
  have test := idle
  unfold isIdle at test
  split at test
  · rename_i conversation isObject
    obtain ⟨ref, bound, stored⟩ := Option.bind_eq_some_iff.mp isObject
    refine ⟨ref, conversation, bound, stored, ?_, ?_⟩
    · have unused := of_decide_eq_true test
      omega
    · by_contra held
      exact undisturbed (.busy name now env left toDrop ref conversation found
        idle bound stored held)
  · cases test

theorem sweepMove_sound
    {before after : SweepPc} (sound : Sound callers)
    (undisturbed : Undisturbed callers (.work name env))
    (effects : Effects callers next (.work name env))
    (found : callers.threads name = some (.sweeping before))
    (moved : SweepMove callers env before after)
    (isNext : next.threads name = some (.sweeping after)) :
    SweepSound next after := by
  have was := sound.sweeps name before found
  have stillIdle : (∀ dropped, after ≠ .returned dropped) →
      ∀ key, key ∈ before.toDrop → IdleAt next key := by
    intro goesOn key member
    refine idleAt_picked sound undisturbed effects found member ?_
    intro dropped returned
    rw [isNext] at returned
    cases returned
    exact goesOn dropped rfl
  have past : ∀ now, before.now? = some now → now ≤ next.clock :=
    fun now isNow => Nat.le_trans (was.past now isNow) effects.clock
  cases moved with
  | starts =>
      refine ⟨?_, List.nodup_nil, nofun⟩
      intro now isNow
      cases isNow
      exact effects.clock
  | reads now =>
      refine ⟨past, ?_, nofun⟩
      rw [SweepPc.toDrop, List.append_nil]
      exact callers.map.inner.nodupKeys
  | passes now left toDrop visits =>
      refine ⟨past, ?_, stillIdle nofun⟩
      exact List.Sublist.nodup
        ((List.erase_sublist).append (List.Sublist.refl _)) was.distinct
  | picks now left toDrop visits idle =>
      have whole : (left.erase env.visited ++
          (toDrop ++ [env.visited])).Perm (left ++ toDrop) := by
        rw [← List.append_assoc]
        refine (List.perm_append_singleton _ _).trans ?_
        rw [← List.cons_append]
        exact (List.perm_cons_erase visits).symm.append_right toDrop
      refine ⟨past, whole.nodup_iff.mpr was.distinct, ?_⟩
      intro key member
      rcases List.mem_append.mp member with old | isVisited
      · exact stillIdle nofun key old
      · rw [List.mem_singleton.mp isVisited]
        refine idleAt_step sound effects
          (idleAt_visited sound undisturbed found idle) ?_ ?_
        · intro used
          cases used with
          | opens _ _ pc foundToo looks =>
              rw [found] at foundToo
              cases foundToo
          | enters _ _ other ref foundToo bound =>
              rw [found] at foundToo
              cases foundToo
        · rintro other toDrop isSweep _ ⟨env, same⟩
          cases same
          rw [found] at isSweep
          cases isSweep
  | findsNone now => exact sweepSound_of_none rfl rfl rfl
  | ends now toDrop =>
      exact ⟨nofun, was.distinct, stillIdle nofun⟩
  | removes toDrop => exact sweepSound_of_none rfl rfl rfl

theorem sweeps_step
    {action : Action} {pc : SweepPc} (sound : Sound callers)
    (undisturbed : Undisturbed callers action)
    (effects : Effects callers next action)
    (found : next.threads name = some (.sweeping pc)) :
    SweepSound next pc := by
  -- A sweep that another thread's step leaves where it was.
  have kept : callers.threads name = some (.sweeping pc) →
      SweepSound next pc := by
    intro was
    obtain ⟨past, distinct, _⟩ := sound.sweeps name pc was
    refine ⟨fun now isNow => Nat.le_trans (past now isNow) effects.clock,
      distinct, ?_⟩
    intro key member
    refine idleAt_picked sound undisturbed effects was member ?_
    intro dropped returned
    rw [found] at returned
    cases returned
    cases member
  cases effects.thread with
  | keeps _ sameThreads sameWriter =>
      rw [sameThreads] at found
      exact kept found
  | moves _ other after isNext notSpawning notSweeping sameWriter =>
      rw [isNext] at found
      rcases Pool.put_cases found with ⟨_, isCaller⟩ | ⟨_, was⟩
      · rw [notSweeping pc isCaller.symm]
        exact sweepSound_of_none rfl rfl rfl
      · exact kept was
  | spawns other env created isNext unlocked isWriter absent =>
      rw [isNext] at found
      rcases Pool.put_cases found with ⟨_, isCaller⟩ | ⟨_, was⟩
      · cases isCaller
      · exact kept was
  | sweeps other env before after foundOther isNext moved sameWriter =>
      have isThread := found
      rw [isNext] at isThread
      rcases Pool.put_cases isThread with ⟨rfl, isSweep⟩ | ⟨_, was⟩
      · cases isSweep
        exact sweepMove_sound sound undisturbed effects foundOther moved found
      · exact kept was

theorem sound_init (maxActive idleWindow : Nat) :
    Sound (.init maxActive idleWindow) where
  named := named_init maxActive idleWindow
  spawning := nofun
  sweeps := nofun

theorem sound_step
    {action : Action} (sound : Sound callers)
    (undisturbed : Undisturbed callers action)
    (taken : step action callers = some next) : Sound next := by
  have effects := effects_of_step taken
  exact
    { named := named_step sound.named effects.map
      spawning := fun _ _ found => spawning_step sound effects found
      sweeps := fun _ _ found => sweeps_step sound undisturbed effects found }

theorem sound_of_run
    {maxActive idleWindow : Nat} {trace : List Action}
    (run : Machine.Run step Undisturbed (.init maxActive idleWindow) trace
      callers) : Sound callers := by
  refine run.invariant Sound (sound_init maxActive idleWindow) ?_
  intro source action target sound undisturbed taken
  exact sound_step sound undisturbed taken

/-! ## What a sweep removes -/

/-- As long as nobody uses, enters or removes what a sweep has picked, and no
turn outlasts the idle window, sweeps remove idle conversations and report
them. -/
theorem sweep_removes_idle
    {maxActive idleWindow : Nat} {trace : List Action}
    {callers next : Callers} {name : Nat} {env : Env} {pc : SweepPc}
    (run : Machine.Run step Undisturbed (.init maxActive idleWindow) trace
      callers)
    (found : callers.threads name = some (.sweeping pc))
    (taken : step (.work name env) callers = some next) :
    SweepsIdle callers next name := by
  have sound := (sound_of_run run).sweeps name pc found
  simp only [step, found, Option.bind_some] at taken
  obtain ⟨after, moved⟩ := workSweeping_moves taken
  have spared : ∀ key, key ∉ pc.toRemove →
      next.map.get key = callers.map.get key := by
    intro key notRemoved
    rw [moved.map]
    exact ConversationMap.removeAll_get_other notRemoved
  have removed : ∀ key, key ∈ pc.toRemove →
      IdleAt callers key ∧ next.map.get key = none := by
    intro key member
    have picked : key ∈ pc.toDrop := by
      cases pc with
      | writeLock toDrop => exact member
      | start | readLock | scanning | returned => cases member
    refine ⟨sound.idle key picked, ?_⟩
    rw [moved.map]
    exact ConversationMap.removeAll_get_self member
  have removedIff : ∀ key, key ∈ pc.toRemove ↔
      (callers.map.get key).isSome = true ∧ next.map.get key = none := by
    intro key
    constructor
    · intro member
      obtain ⟨⟨ref, _, bound, _⟩, gone⟩ := removed key member
      exact ⟨by rw [bound]; rfl, gone⟩
    · rintro ⟨bound, gone⟩
      by_contra notRemoved
      rw [← spared key notRemoved, gone] at bound
      cases bound
  refine ⟨?_, ?_⟩
  · intro key ref bound gone
    have member := (removedIff key).mpr ⟨by rw [bound]; rfl, gone⟩
    obtain ⟨found, conversation, boundToo, isObject, unused, free⟩ :=
      (removed key member).1
    rw [bound] at boundToo
    cases boundToo
    exact ⟨conversation, isObject, unused, free⟩
  · intro dropped isReturned
    rw [moved.threads, Pool.put_self] at isReturned
    cases isReturned
    cases moved.move with
    | findsNone now => exact ⟨List.nodup_nil, removedIff⟩
    | removes toDrop => exact ⟨sound.distinct, removedIff⟩

/-! ## Runs -/

/-- Steps of sweeps that pick no busy conversation, and steps without a
thread. -/
def isUndisturbed (callers : Callers) : Action → Bool
  | .work name env =>
      match callers.threads name with
      | some (.sweeping (.writeLock _)) => false
      | some (.sweeping _) =>
          ((callers.map.get env.visited).bind callers.map.objects).all
            fun conversation => conversation.inFlight.isNone
      | _ => false
  | .remove _ => false
  | _ => true

theorem undisturbed_of_test
    {action : Action} (tested : isUndisturbed callers action = true) :
    Undisturbed callers action := by
  intro disturbs
  cases disturbs with
  | uses _ name key picked used =>
      cases used with
      | opens name env pc found looks => simp [isUndisturbed, found] at tested
      | enters name env other ref found bound =>
          simp [isUndisturbed, found] at tested
      | removes => simp [isUndisturbed] at tested
  | sweeps name other env key toDrop found member different picked =>
      simp [isUndisturbed, found] at tested
  | busy name now env left toDrop ref conversation found idle bound isObject
      held =>
      simp [isUndisturbed, found, bound, isObject] at tested
      exact held tested

/-- One sweep of a map with one key, up to the removal. -/
def sweepsKey (name : Nat) (key : String) : List Action :=
  .sweep name :: List.replicate 4 (.work name ⟨.ok "s", key⟩)

/-- A conversation that is loaded and left alone is swept. -/
def leftAlone : List Action :=
  [.insertLoaded "c" "s", .tick] ++ sweepsKey 0 "c"

theorem left_alone_is_swept :
    ∃ callers next,
      Machine.Run step Undisturbed (.init 4 1) leftAlone callers ∧
        next.threads 0 = some (.sweeping (.returned ["c"])) ∧
          SweepsIdle callers next 0 := by
  have run := @Machine.run_of_execTested _ _ step Undisturbed (.init 4 1)
    isUndisturbed leftAlone _ (fun _ _ tested => undisturbed_of_test tested)
    rfl
  have swept := @sweep_removes_idle 4 1 leftAlone _ _ 0 ⟨.ok "s", "c"⟩
    (.writeLock ["c"]) run rfl rfl
  exact ⟨_, _, run, rfl, swept⟩

/-- A turn that takes as long as the idle window, and a sweep. -/
def longTurn : List Action :=
  .open_ 0 "c" :: List.replicate 3 (.work 0 ⟨.ok "s", "c"⟩) ++
    .acquire 1 "c" :: List.replicate 2 (.work 1 ⟨.ok "s", "c"⟩) ++
      .tick :: sweepsKey 2 "c"

/-- A conversation is swept in the middle of its turn. -/
theorem long_turn_is_swept :
    ¬ ∀ (maxActive idleWindow : Nat) (trace : List Action)
        (callers next : Callers) (name : Nat) (env : Env) (pc : SweepPc),
      Machine.Run step Machine.free (.init maxActive idleWindow) trace
          callers →
        callers.threads name = some (.sweeping pc) →
          step (.work name env) callers = some next →
            SweepsIdle callers next name := by
  intro sweepsIdle
  have swept := sweepsIdle 4 1 longTurn _ _ 2 ⟨.ok "s", "c"⟩
    (.writeLock ["c"]) (Machine.run_of_exec rfl) rfl rfl
  obtain ⟨conversation, isObject, _, free⟩ := swept.idle "c" 0 rfl rfl
  have held : some conversation = some ⟨"c", "s", 0, some 1⟩ :=
    isObject.symm
  cases held
  cases free

end IdleSweep

end A2AShim
