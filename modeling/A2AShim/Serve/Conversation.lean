import Mathlib.Algebra.Order.Ring.Nat
import Mathlib.Data.List.AList
import Mathlib.Logic.Function.Basic
import A2AShim.Serve.AcpClient

/-!
# The conversation map

`ConversationMap` maps keys to shared `Conversation` objects.  A request keeps
the object it has looked up, also when the key is removed or bound to another
object meanwhile, so objects have names of their own here, and the map only
refers to them.  The object holds the mutex whose guard is the single prompt
permit of the key.

The methods are given in the pieces that happen under one lock.
`getOrCreate` and `acquireInFlight` put them together for a request that runs
on its own.
-/

namespace A2AShim

/-- Names a `Conversation` object. -/
abbrev ConversationRef := Nat

/-- Names whoever may hold a guard. -/
abbrev HolderId := Nat

/-- `inFlight` says who holds the guard. -/
structure Conversation where
  id : String
  acpSessionId : SessionId
  lastUsedAt : Nat
  inFlight : Option HolderId
  deriving DecidableEq, Repr

inductive NewError where
  | limitReached
  | spawn (text : String)
  deriving DecidableEq, Repr

inductive AcquireError where
  | busy
  | notFound
  deriving DecidableEq, Repr

/-- `fresh` is the name the next object gets. -/
structure ConversationMap where
  maxActive : Nat
  idleWindow : Nat
  inner : AList fun _ : String => ConversationRef
  objects : ConversationRef → Option Conversation
  fresh : ConversationRef

namespace ConversationMap

def new (maxActive idleWindow : Nat) : ConversationMap :=
  { maxActive, idleWindow
    inner := ∅
    objects := fun _ => none
    fresh := 0 }

def get (map : ConversationMap) (key : String) : Option ConversationRef :=
  map.inner.lookup key

def update (map : ConversationMap) (ref : ConversationRef)
    (change : Conversation → Conversation) : ConversationMap :=
  { map with
    objects :=
      Function.update map.objects ref ((map.objects ref).map change) }

def touch (map : ConversationMap) (ref : ConversationRef) (now : Nat) :
    ConversationMap :=
  map.update ref fun conversation => { conversation with lastUsedAt := now }

/-- `w.len() as u32 >= self.max_active`. -/
def isFull (map : ConversationMap) : Bool :=
  decide (map.maxActive ≤ map.inner.entries.length % 2 ^ 32)

def insert (map : ConversationMap) (key : String) (session : SessionId)
    (now : Nat) : ConversationMap :=
  { map with
    inner := map.inner.insert key map.fresh
    objects :=
      Function.update map.objects map.fresh
        (some { id := key, acpSessionId := session, lastUsedAt := now
                inFlight := none })
    fresh := map.fresh + 1 }

/-- `try_lock_owned` on the guard of an object. -/
def tryLock (map : ConversationMap) (ref : ConversationRef)
    (holder : HolderId) : Option ConversationMap :=
  match map.objects ref with
  | none => none
  | some conversation =>
      match conversation.inFlight with
      | some _ => none
      | none =>
          some (map.update ref fun conversation =>
            { conversation with inFlight := some holder })

/-- Drop the guard of an object. -/
def release (map : ConversationMap) (ref : ConversationRef) :
    ConversationMap :=
  map.update ref fun conversation => { conversation with inFlight := none }

def remove (map : ConversationMap) (key : String) : ConversationMap :=
  { map with inner := map.inner.erase key }

/-- The keys `sweep_idle` finds under the read lock. -/
def idleKeys (map : ConversationMap) (now : Nat) : List String :=
  (map.inner.entries.filter fun entry =>
    match map.objects entry.2 with
    | some conversation =>
        decide (map.idleWindow ≤ now - conversation.lastUsedAt)
    | none => false).map Sigma.fst

/-- `get_or_create`; `spawned` is what the spawn closure returns. -/
def getOrCreate (map : ConversationMap) (key : String) (now : Nat)
    (spawned : Except String SessionId) :
    Except NewError ((ConversationRef × Bool) × ConversationMap) :=
  match map.get key with
  | some ref => .ok ((ref, false), map.touch ref now)
  | none =>
      if map.isFull then
        .error .limitReached
      else
        match spawned with
        | .error text => .error (.spawn text)
        | .ok session =>
            .ok ((map.fresh, true), map.insert key session now)

def acquireInFlight (map : ConversationMap) (key : String)
    (holder : HolderId) :
    Except AcquireError (ConversationRef × ConversationMap) :=
  match map.get key with
  | none => .error .notFound
  | some ref =>
      match map.tryLock ref holder with
      | none => .error .busy
      | some locked => .ok (ref, locked)

/-! ## Lookups after each operation -/

variable {map : ConversationMap} {ref tested : ConversationRef}
variable {change : Conversation → Conversation}

@[simp]
theorem update_inner : (map.update ref change).inner = map.inner :=
  rfl

@[simp]
theorem update_get (key : String) :
    (map.update ref change).get key = map.get key :=
  rfl

theorem update_self :
    (map.update ref change).objects ref = (map.objects ref).map change := by
  simp [update]

theorem update_other (different : tested ≠ ref) :
    (map.update ref change).objects tested = map.objects tested := by
  simp [update, different]

/-- An update that keeps a field of the object keeps it everywhere. -/
theorem update_field
    {α : Type} (field : Conversation → α)
    (kept : ∀ conversation, field (change conversation) = field conversation)
    (tested : ConversationRef) :
    ((map.update ref change).objects tested).map field =
      (map.objects tested).map field := by
  by_cases same : tested = ref
  · subst same
    rw [update_self, Option.map_map]
    congr 1
    funext conversation
    exact kept conversation
  · rw [update_other same]

theorem touch_field
    {α : Type} {now : Nat} (field : Conversation → α)
    (kept : ∀ conversation : Conversation,
      field { conversation with lastUsedAt := now } = field conversation)
    (tested : ConversationRef) :
    ((map.touch ref now).objects tested).map field =
      (map.objects tested).map field :=
  update_field field kept tested

theorem insert_get_self {key : String} {session : SessionId} {now : Nat} :
    (map.insert key session now).get key = some map.fresh :=
  AList.lookup_insert _

theorem insert_get_other
    {key other : String} {session : SessionId} {now : Nat}
    (different : other ≠ key) :
    (map.insert key session now).get other = map.get other :=
  AList.lookup_insert_ne different

theorem remove_get_self (key : String) : (map.remove key).get key = none :=
  AList.lookup_erase _ _

theorem remove_get_other {key other : String} (different : other ≠ key) :
    (map.remove key).get other = map.get other :=
  AList.lookup_erase_ne different

theorem removeAll_get_other
    {keys : List String} {key : String} (kept : key ∉ keys) :
    (keys.foldl remove map).get key = map.get key := by
  induction keys generalizing map with
  | nil => rfl
  | cons removed rest inductionHypothesis =>
      rw [List.foldl_cons,
        inductionHypothesis fun member => kept (List.mem_cons_of_mem _ member)]
      exact remove_get_other fun same => kept (same ▸ List.mem_cons_self)

/-- Removing keys binds none. -/
theorem removeAll_get_none
    (keys : List String) {key : String} (absent : map.get key = none) :
    (keys.foldl remove map).get key = none := by
  induction keys generalizing map with
  | nil => exact absent
  | cons removed rest inductionHypothesis =>
      apply inductionHypothesis
      by_cases same : key = removed
      · subst same
        exact remove_get_self key
      · rw [remove_get_other same]
        exact absent

theorem removeAll_get_self
    {keys : List String} {key : String} (removed : key ∈ keys) :
    (keys.foldl remove map).get key = none := by
  induction keys generalizing map with
  | nil => cases removed
  | cons first rest inductionHypothesis =>
      rcases List.mem_cons.mp removed with rfl | later
      · exact removeAll_get_none rest (remove_get_self key)
      · exact inductionHypothesis later

theorem removeAll_objects (keys : List String) :
    (keys.foldl remove map).objects = map.objects := by
  induction keys generalizing map with
  | nil => rfl
  | cons removed rest inductionHypothesis => exact inductionHypothesis

theorem removeAll_fresh (keys : List String) :
    (keys.foldl remove map).fresh = map.fresh := by
  induction keys generalizing map with
  | nil => rfl
  | cons removed rest inductionHypothesis => exact inductionHypothesis

/-- No object has a name yet to be given. -/
def Fresh (map : ConversationMap) : Prop :=
  ∀ ref, map.fresh ≤ ref → map.objects ref = none

theorem Fresh.update (isFresh : map.Fresh) :
    (map.update ref change).Fresh := by
  intro tested later
  have unknown := isFresh tested later
  by_cases same : tested = ref
  · subst same
    rw [update_self, unknown]
    rfl
  · rw [update_other same]
    exact unknown

theorem Fresh.insert
    {key : String} {session : SessionId} {now : Nat} (isFresh : map.Fresh) :
    (map.insert key session now).Fresh := by
  intro tested later
  have beyond : map.fresh < tested := Nat.lt_of_succ_le later
  exact (Function.update_of_ne (Nat.ne_of_gt beyond) _ _).trans
    (isFresh tested (Nat.le_of_lt beyond))

theorem tryLock_some
    {holder : HolderId} {locked : ConversationMap}
    (taken : map.tryLock ref holder = some locked) :
    ∃ conversation,
      map.objects ref = some conversation ∧ conversation.inFlight = none ∧
        locked =
          map.update ref fun conversation =>
            { conversation with inFlight := some holder } := by
  unfold tryLock at taken
  cases found : map.objects ref with
  | none => simp [found] at taken
  | some conversation =>
      rw [found] at taken
      cases held : conversation.inFlight with
      | some other => simp [held] at taken
      | none =>
          simp only [held, Option.some.injEq] at taken
          exact ⟨conversation, rfl, held, taken.symm⟩

/-- A hit touches the object; a miss that succeeds adds one. -/
theorem getOrCreate_ok
    {key : String} {now : Nat} {spawned : Except String SessionId}
    {result : (ConversationRef × Bool) × ConversationMap}
    (done : map.getOrCreate key now spawned = .ok result) :
    (∃ ref, map.get key = some ref ∧
        result = ((ref, false), map.touch ref now)) ∨
      ∃ session,
        map.get key = none ∧ spawned = .ok session ∧
          result = ((map.fresh, true), map.insert key session now) := by
  unfold getOrCreate at done
  cases found : map.get key with
  | some ref =>
      simp only [found, Except.ok.injEq] at done
      exact .inl ⟨ref, rfl, done.symm⟩
  | none =>
      by_cases full : map.isFull = true
      · simp [found, full] at done
      · cases outcome : spawned with
        | error text => simp [found, full, outcome] at done
        | ok session =>
            simp only [found, full, outcome, if_false, Except.ok.injEq,
              Bool.false_eq_true] at done
            exact .inr ⟨session, rfl, rfl, done.symm⟩

theorem acquireInFlight_ok
    {key : String} {holder : HolderId}
    {result : ConversationRef × ConversationMap}
    (done : map.acquireInFlight key holder = .ok result) :
    map.get key = some result.1 ∧
      map.tryLock result.1 holder = some result.2 := by
  unfold acquireInFlight at done
  cases found : map.get key with
  | none => simp [found] at done
  | some ref =>
      cases taken : map.tryLock ref holder with
      | none => simp [found, taken] at done
      | some locked =>
          simp only [found, taken, Except.ok.injEq] at done
          cases done
          exact ⟨rfl, taken⟩

/-! ## Operations on objects -/

/-- The operations that leave the keys, and the sessions of the objects. -/
structure Related (map other : ConversationMap) : Prop where
  keys : ∀ key, other.get key = map.get key
  sessions : ∀ ref,
    (other.objects ref).map Conversation.acpSessionId =
      (map.objects ref).map Conversation.acpSessionId
  fresh : other.fresh = map.fresh

theorem Related.refl (map : ConversationMap) : map.Related map :=
  ⟨fun _ => rfl, fun _ => rfl, rfl⟩

theorem related_touch
    (map : ConversationMap) (ref : ConversationRef) (now : Nat) :
    map.Related (map.touch ref now) :=
  ⟨fun _ => rfl, touch_field _ fun _ => rfl, rfl⟩

theorem related_release (map : ConversationMap) (ref : ConversationRef) :
    map.Related (map.release ref) :=
  ⟨fun _ => rfl, update_field _ fun _ => rfl, rfl⟩

theorem related_tryLock
    {map locked : ConversationMap} {ref : ConversationRef} {holder : HolderId}
    (taken : map.tryLock ref holder = some locked) :
    map.Related locked := by
  obtain ⟨_, _, _, rfl⟩ := tryLock_some taken
  exact ⟨fun _ => rfl, update_field _ fun _ => rfl, rfl⟩

/-! ## Guards -/

section Guards

variable {other : ConversationRef} {holder otherHolder : HolderId}
variable {key : String} {session : SessionId} {now : Nat}

/-- `holder` has the guard of the object. -/
def HeldBy (map : ConversationMap) (ref : ConversationRef)
    (holder : HolderId) : Prop :=
  ∃ conversation,
    map.objects ref = some conversation ∧ conversation.inFlight = some holder

theorem HeldBy.unique
    (held : map.HeldBy ref holder) (heldToo : map.HeldBy ref otherHolder) :
    holder = otherHolder := by
  obtain ⟨conversation, found, isHolder⟩ := held
  obtain ⟨again, foundAgain, isOther⟩ := heldToo
  rw [found] at foundAgain
  cases foundAgain
  rw [isHolder] at isOther
  exact Option.some.inj isOther

theorem HeldBy.touch
    (held : map.HeldBy ref holder) (touched : ConversationRef) :
    (map.touch touched now).HeldBy ref holder := by
  obtain ⟨conversation, found, isHolder⟩ := held
  have kept :
      ((map.touch touched now).objects ref).map Conversation.inFlight =
        (map.objects ref).map Conversation.inFlight :=
    touch_field _ (fun _ => rfl) ref
  rw [found, Option.map_some, isHolder] at kept
  exact Option.map_eq_some_iff.mp kept

theorem Fresh.ne
    (isFresh : map.Fresh) (isObject : (map.objects ref).isSome = true) :
    ref ≠ map.fresh := by
  intro same
  rw [same, isFresh _ (Nat.le_refl _)] at isObject
  cases isObject

theorem ne_fresh_of_found
    {conversation : Conversation} (isFresh : map.Fresh)
    (found : map.objects ref = some conversation) :
    ref ≠ map.fresh :=
  isFresh.ne (by rw [found]; rfl)

theorem insert_objects_other (different : ref ≠ map.fresh) :
    (map.insert key session now).objects ref = map.objects ref :=
  Function.update_of_ne different _ _

theorem HeldBy.insert (held : map.HeldBy ref holder) (fresh : map.Fresh) :
    (map.insert key session now).HeldBy ref holder := by
  obtain ⟨conversation, found, isHolder⟩ := held
  refine ⟨conversation, ?_, isHolder⟩
  rw [insert_objects_other (ne_fresh_of_found fresh found)]
  exact found

theorem HeldBy.release_other
    (held : map.HeldBy ref holder) (different : ref ≠ other) :
    (map.release other).HeldBy ref holder := by
  obtain ⟨conversation, found, isHolder⟩ := held
  exact ⟨conversation, (update_other different).trans found, isHolder⟩

theorem HeldBy.tryLock_other
    {locked : ConversationMap} (held : map.HeldBy ref holder)
    (taken : map.tryLock other otherHolder = some locked) :
    locked.HeldBy ref holder := by
  obtain ⟨free, foundFree, isFree, rfl⟩ := tryLock_some taken
  obtain ⟨conversation, found, isHolder⟩ := held
  have different : ref ≠ other := by
    intro same
    subst same
    rw [found] at foundFree
    cases foundFree
    rw [isFree] at isHolder
    cases isHolder
  exact ⟨conversation, (update_other different).trans found, isHolder⟩

theorem heldBy_of_tryLock
    {locked : ConversationMap}
    (taken : map.tryLock ref holder = some locked) :
    locked.HeldBy ref holder := by
  obtain ⟨conversation, found, _, rfl⟩ := tryLock_some taken
  refine ⟨{ conversation with inFlight := some holder }, ?_, rfl⟩
  rw [update_self, found]
  rfl

end Guards

end ConversationMap

end A2AShim
