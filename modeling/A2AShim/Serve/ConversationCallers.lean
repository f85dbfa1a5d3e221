import Mathlib.Data.List.Infix
import A2AShim.Lib.Machine
import A2AShim.Lib.Pool
import A2AShim.Serve.Conversation
import A2AShim.Serve.Persistence

/-!
# The callers of the conversation map

Any number of calls of `get_or_create_with_meta`, of resets and of sweeps, cut
at each use of the map's lock and at each SQL statement, with `insert_loaded`
and `remove` in between.  The write lock is held while a session is made, so
nobody else reads or writes the map meanwhile.

`get_or_create` is `get_or_create_with_meta` without the row.
-/

namespace A2AShim

namespace ConversationCallers

inductive OpenPc where
  | lookUp
  | lock
  | spawning
  | insertRow (ref : ConversationRef) (session : SessionId)
  | returned (result : Except NewError (ConversationRef × Bool))
  | dropped
  deriving DecidableEq

/-- The part of a reset that is about the map and its rows. -/
inductive ResetPc where
  | lookUp
  | deleteRow
  | remove
  | returned (cleared : Bool)
  deriving DecidableEq, Repr

inductive SweepPc where
  | scan
  | remove (keys : List String)
  | deleteRows (keys : List String)
  deriving DecidableEq, Repr

inductive Caller where
  | opening (key cwd callerId : String) (pc : OpenPc)
  | resetting (key : String) (pc : ResetPc)
  | sweeping (pc : SweepPc)
  deriving DecidableEq

/-- `writer` holds the write lock while its spawn closure runs. -/
structure Callers where
  map : ConversationMap
  rows : Rows
  writer : Option Nat
  threads : Pool Nat Caller

/-- What a step gets from outside: the clock, what the spawn closure returns,
and the keys a scan finds idle.  Conversations are touched while a scan goes
on, so it may find any of the keys idle. -/
structure Env where
  now : Nat
  spawned : Except String SessionId
  idle : List String
  deriving DecidableEq

namespace Callers

def start (maxActive idleWindow : Nat) (rows : Rows) : Callers :=
  { map := .new maxActive idleWindow, rows, writer := none
    threads := .empty }

def put (callers : Callers) (name : Nat) (caller : Caller) : Callers :=
  { callers with threads := callers.threads.put name caller }

/-- The session of a conversation object. -/
def sessionOf (callers : Callers) (ref : ConversationRef) : SessionId :=
  ((callers.map.objects ref).map Conversation.acpSessionId).getD ""

end Callers

/-- `get_or_create_with_meta`. -/
def workOpening (callers : Callers) (name : Nat) (env : Env)
    (key cwd callerId : String) (pc : OpenPc) : Option Callers :=
  let goTo (source : Callers) (next : OpenPc) : Callers :=
    source.put name (.opening key cwd callerId next)
  let hit (ref : ConversationRef) : Callers :=
    goTo { callers with map := callers.map.touch ref env.now }
      (.returned (.ok (ref, false)))
  match pc with
  | .lookUp =>
      if callers.writer.isSome then none
      else
        match callers.map.get key with
        | some ref => some (hit ref)
        | none => some (goTo callers .lock)
  | .lock =>
      if callers.writer.isSome then none
      else
        match callers.map.get key with
        | some ref => some (hit ref)
        | none =>
            if callers.map.isFull then
              some (goTo callers (.returned (.error .limitReached)))
            else
              some (goTo { callers with writer := some name } .spawning)
  | .spawning =>
      match env.spawned with
      | .error text =>
          some (goTo { callers with writer := none }
            (.returned (.error (.spawn text))))
      | .ok session =>
          some (goTo
            { callers with
              map := callers.map.insert key session env.now
              writer := none }
            (.insertRow callers.map.fresh session))
  | .insertRow ref session =>
      some (goTo
        { callers with
          rows :=
            callers.rows.insertConversation key session cwd callerId env.now }
        (.returned (.ok (ref, true))))
  | .returned _ | .dropped => none

def workResetting (callers : Callers) (name : Nat) (key : String)
    (pc : ResetPc) : Option Callers :=
  let goTo (source : Callers) (next : ResetPc) : Callers :=
    source.put name (.resetting key next)
  match pc with
  | .lookUp =>
      if callers.writer.isSome then none
      else
        match callers.map.get key with
        | none => some (goTo callers (.returned false))
        | some _ => some (goTo callers .deleteRow)
  | .deleteRow =>
      some (goTo
        { callers with rows := callers.rows.deleteConversation key } .remove)
  | .remove =>
      if callers.writer.isSome then none
      else
        some (goTo { callers with map := callers.map.remove key }
          (.returned true))
  | .returned _ => none

def workSweeping (callers : Callers) (name : Nat) (env : Env)
    (pc : SweepPc) : Option Callers :=
  let goTo (source : Callers) (next : SweepPc) : Callers :=
    source.put name (.sweeping next)
  match pc with
  | .scan =>
      if callers.writer.isSome then none
      else if env.idle.all fun key => (callers.map.get key).isSome then
        match env.idle with
        | [] => some (goTo callers (.deleteRows []))
        | keys => some (goTo callers (.remove keys))
      else none
  | .remove keys =>
      if callers.writer.isSome then none
      else
        some (goTo
          { callers with map := keys.foldl ConversationMap.remove callers.map }
          (.deleteRows keys))
  | .deleteRows (key :: rest) =>
      some (goTo
        { callers with rows := callers.rows.deleteConversation key }
        (.deleteRows rest))
  | .deleteRows [] => none

inductive Action where
  | open_ (name : Nat) (key cwd callerId : String)
  | reset (name : Nat) (key : String)
  | sweep (name : Nat)
  | insertLoaded (key : String) (session : SessionId) (now : Nat)
  | remove (key : String)
  | work (name : Nat) (env : Env)
  | drop (name : Nat)
  deriving DecidableEq

def spawn (callers : Callers) (name : Nat) (caller : Caller) :
    Option Callers :=
  match callers.threads name with
  | some _ => none
  | none => some (callers.put name caller)

/-- The caller of `get_or_create` goes away while it waits; the write lock is
freed with its future.  A statement that has been started runs to its end. -/
def drop (callers : Callers) (name : Nat) : Option Callers :=
  match callers.threads name with
  | some (.opening key cwd callerId pc) =>
      if pc = .lookUp ∨ pc = .lock ∨ pc = .spawning then
        some (Callers.put
          { callers with
            writer :=
              if callers.writer = some name then none else callers.writer }
          name (.opening key cwd callerId .dropped))
      else none
  | _ => none

def step : Action → Callers → Option Callers
  | .open_ name key cwd callerId, callers =>
      spawn callers name (.opening key cwd callerId .lookUp)
  | .reset name key, callers => spawn callers name (.resetting key .lookUp)
  | .sweep name, callers => spawn callers name (.sweeping .scan)
  | .insertLoaded key session now, callers =>
      if callers.writer.isSome then none
      else if (callers.map.get key).isSome ∨ callers.map.isFull then
        some callers
      else
        some { callers with map := callers.map.insert key session now }
  | .remove key, callers =>
      if callers.writer.isSome then none
      else some { callers with map := callers.map.remove key }
  | .work name env, callers =>
      (callers.threads name).bind fun
        | .opening key cwd callerId pc =>
            workOpening callers name env key cwd callerId pc
        | .resetting key pc => workResetting callers name key pc
        | .sweeping pc => workSweeping callers name env pc
  | .drop name, callers => drop callers name

/-! ## What one step does -/

/-- The thread an action starts. -/
def starting : Action → Option (Nat × Caller)
  | .open_ name key cwd callerId =>
      some (name, .opening key cwd callerId .lookUp)
  | .reset name key => some (name, .resetting key .lookUp)
  | .sweep name => some (name, .sweeping .scan)
  | _ => none

/-- Steps that read the map and change nothing but the thread. -/
inductive Turns (callers : Callers) : Caller → Caller → Prop
  | misses (key cwd callerId : String)
      (absent : callers.map.get key = none) :
      Turns callers (.opening key cwd callerId .lookUp)
        (.opening key cwd callerId .lock)
  | findsNothing (key : String) (absent : callers.map.get key = none) :
      Turns callers (.resetting key .lookUp)
        (.resetting key (.returned false))
  | finds (key : String) (ref : ConversationRef)
      (present : callers.map.get key = some ref) :
      Turns callers (.resetting key .lookUp) (.resetting key .deleteRow)
  | scansNothing : Turns callers (.sweeping .scan) (.sweeping (.deleteRows []))
  | scans (keys : List String)
      (present : ∀ key, key ∈ keys → (callers.map.get key).isSome = true) :
      Turns callers (.sweeping .scan) (.sweeping (.remove keys))

/-- Steps that delete the row of `key`. -/
inductive Deletes (key : String) : Caller → Caller → Prop
  | reset : Deletes key (.resetting key .deleteRow) (.resetting key .remove)
  | sweep (rest : List String) :
      Deletes key (.sweeping (.deleteRows (key :: rest)))
        (.sweeping (.deleteRows rest))

/-- Steps that remove `keys` from the map. -/
inductive Removes (keys : List String) : Caller → Caller → Prop
  | reset (key : String) (only : keys = [key]) :
      Removes keys (.resetting key .remove) (.resetting key (.returned true))
  | sweep : Removes keys (.sweeping (.remove keys)) (.sweeping (.deleteRows keys))

/-- One constructor for each kind of step. -/
inductive Steps (callers target : Callers) : Action → Prop
  | starts (action : Action) (name : Nat) (caller : Caller)
      (isStart : starting action = some (name, caller))
      (unused : callers.threads name = none)
      (isTarget : target = callers.put name caller) :
      Steps callers target action
  | turns (name : Nat) (env : Env) (before after : Caller)
      (found : callers.threads name = some before)
      (unlocked : callers.writer = none)
      (turned : Turns callers before after)
      (isTarget : target = callers.put name after) :
      Steps callers target (.work name env)
  | hits (name : Nat) (env : Env) (key cwd callerId : String) (pc : OpenPc)
      (ref : ConversationRef)
      (found : callers.threads name = some (.opening key cwd callerId pc))
      (waiting : pc = .lookUp ∨ pc = .lock)
      (unlocked : callers.writer = none)
      (present : callers.map.get key = some ref)
      (isTarget :
        target =
          Callers.put { callers with map := callers.map.touch ref env.now }
            name
            (.opening key cwd callerId (.returned (.ok (ref, false))))) :
      Steps callers target (.work name env)
  | refuses (name : Nat) (env : Env) (key cwd callerId : String)
      (found : callers.threads name = some (.opening key cwd callerId .lock))
      (unlocked : callers.writer = none)
      (absent : callers.map.get key = none)
      (full : callers.map.isFull = true)
      (isTarget :
        target =
          callers.put name
            (.opening key cwd callerId (.returned (.error .limitReached)))) :
      Steps callers target (.work name env)
  | spawns (name : Nat) (env : Env) (key cwd callerId : String)
      (found : callers.threads name = some (.opening key cwd callerId .lock))
      (unlocked : callers.writer = none)
      (absent : callers.map.get key = none)
      (room : callers.map.isFull = false)
      (isTarget :
        target =
          Callers.put { callers with writer := some name } name
            (.opening key cwd callerId .spawning)) :
      Steps callers target (.work name env)
  | creates (name : Nat) (env : Env) (key cwd callerId : String)
      (session : SessionId)
      (found :
        callers.threads name = some (.opening key cwd callerId .spawning))
      (made : env.spawned = .ok session)
      (isTarget :
        target =
          Callers.put
            { callers with
              map := callers.map.insert key session env.now
              writer := none }
            name
            (.opening key cwd callerId
              (.insertRow callers.map.fresh session))) :
      Steps callers target (.work name env)
  | fails (name : Nat) (env : Env) (key cwd callerId text : String)
      (found :
        callers.threads name = some (.opening key cwd callerId .spawning))
      (failed : env.spawned = .error text)
      (isTarget :
        target =
          Callers.put { callers with writer := none } name
            (.opening key cwd callerId (.returned (.error (.spawn text))))) :
      Steps callers target (.work name env)
  | records (name : Nat) (env : Env) (key cwd callerId : String)
      (ref : ConversationRef) (session : SessionId)
      (found :
        callers.threads name =
          some (.opening key cwd callerId (.insertRow ref session)))
      (isTarget :
        target =
          Callers.put
            { callers with
              rows :=
                callers.rows.insertConversation key session cwd callerId
                  env.now }
            name (.opening key cwd callerId (.returned (.ok (ref, true))))) :
      Steps callers target (.work name env)
  | deletes (name : Nat) (env : Env) (key : String) (before after : Caller)
      (found : callers.threads name = some before)
      (deleting : Deletes key before after)
      (isTarget :
        target =
          Callers.put
            { callers with rows := callers.rows.deleteConversation key }
            name after) :
      Steps callers target (.work name env)
  | removes (name : Nat) (env : Env) (keys : List String)
      (before after : Caller)
      (found : callers.threads name = some before)
      (unlocked : callers.writer = none)
      (removing : Removes keys before after)
      (isTarget :
        target =
          Callers.put
            { callers with
              map := keys.foldl ConversationMap.remove callers.map }
            name after) :
      Steps callers target (.work name env)
  | loads (key : String) (session : SessionId) (now : Nat)
      (unlocked : callers.writer = none)
      (absent : callers.map.get key = none)
      (room : callers.map.isFull = false)
      (isTarget :
        target =
          { callers with map := callers.map.insert key session now }) :
      Steps callers target (.insertLoaded key session now)
  | ignores (key : String) (session : SessionId) (now : Nat)
      (isTarget : target = callers) :
      Steps callers target (.insertLoaded key session now)
  | clears (key : String) (unlocked : callers.writer = none)
      (isTarget : target = { callers with map := callers.map.remove key }) :
      Steps callers target (.remove key)
  | drops (name : Nat) (key cwd callerId : String) (pc : OpenPc)
      (found : callers.threads name = some (.opening key cwd callerId pc))
      (waiting : pc = .lookUp ∨ pc = .lock ∨ pc = .spawning)
      (isTarget :
        target =
          Callers.put
            { callers with
              writer :=
                if callers.writer = some name then none else callers.writer }
            name (.opening key cwd callerId .dropped)) :
      Steps callers target (.drop name)

variable {callers target : Callers} {name : Nat} {env : Env}

theorem spawn_steps
    {action : Action} {caller : Caller}
    (isStart : starting action = some (name, caller))
    (taken : spawn callers name caller = some target) :
    Steps callers target action := by
  unfold spawn at taken
  cases unused : callers.threads name with
  | some other => simp [unused] at taken
  | none =>
      simp only [unused, Option.some.injEq] at taken
      exact .starts action name caller isStart unused taken.symm

theorem workOpening_steps
    {key cwd callerId : String} {pc : OpenPc}
    (found : callers.threads name = some (.opening key cwd callerId pc))
    (taken :
      workOpening callers name env key cwd callerId pc = some target) :
    Steps callers target (.work name env) := by
  unfold workOpening at taken
  cases pc with
  | lookUp =>
      cases unlocked : callers.writer with
      | some writer => simp [unlocked] at taken
      | none =>
          cases present : callers.map.get key with
          | none =>
              simp only [unlocked, present, Option.isSome_none,
                Bool.false_eq_true, if_false, Option.some.injEq] at taken
              exact .turns name env _ _ found unlocked
                (.misses key cwd callerId present) taken.symm
          | some ref =>
              simp only [unlocked, present, Option.isSome_none,
                Bool.false_eq_true, if_false, Option.some.injEq] at taken
              exact .hits name env key cwd callerId .lookUp ref found (.inl rfl)
                unlocked present (by rw [← taken, unlocked])
  | lock =>
      cases unlocked : callers.writer with
      | some writer => simp [unlocked] at taken
      | none =>
          cases present : callers.map.get key with
          | some ref =>
              simp only [unlocked, present, Option.isSome_none,
                Bool.false_eq_true, if_false, Option.some.injEq] at taken
              exact .hits name env key cwd callerId .lock ref found (.inr rfl)
                unlocked present (by rw [← taken, unlocked])
          | none =>
              cases full : callers.map.isFull with
              | true =>
                  simp only [unlocked, present, full, Option.isSome_none,
                    Bool.false_eq_true, if_false, if_true,
                    Option.some.injEq] at taken
                  exact .refuses name env key cwd callerId found unlocked
                    present full taken.symm
              | false =>
                  simp only [unlocked, present, full, Option.isSome_none,
                    Bool.false_eq_true, if_false, Option.some.injEq] at taken
                  exact .spawns name env key cwd callerId found unlocked present
                    full taken.symm
  | spawning =>
      cases outcome : env.spawned with
      | error text =>
          simp only [outcome, Option.some.injEq] at taken
          exact .fails name env key cwd callerId text found outcome taken.symm
      | ok session =>
          simp only [outcome, Option.some.injEq] at taken
          exact .creates name env key cwd callerId session found outcome
            taken.symm
  | insertRow ref session =>
      simp only [Option.some.injEq] at taken
      exact .records name env key cwd callerId ref session found taken.symm
  | returned result => cases taken
  | dropped => cases taken

theorem workResetting_steps
    {key : String} {pc : ResetPc}
    (found : callers.threads name = some (.resetting key pc))
    (taken : workResetting callers name key pc = some target) :
    Steps callers target (.work name env) := by
  unfold workResetting at taken
  cases pc with
  | lookUp =>
      cases unlocked : callers.writer with
      | some writer => simp [unlocked] at taken
      | none =>
          cases present : callers.map.get key with
          | none =>
              simp only [unlocked, present, Option.isSome_none,
                Bool.false_eq_true, if_false, Option.some.injEq] at taken
              exact .turns name env _ _ found unlocked
                (.findsNothing key present) taken.symm
          | some ref =>
              simp only [unlocked, present, Option.isSome_none,
                Bool.false_eq_true, if_false, Option.some.injEq] at taken
              exact .turns name env _ _ found unlocked
                (.finds key ref present) taken.symm
  | deleteRow =>
      simp only [Option.some.injEq] at taken
      exact .deletes name env key _ _ found .reset taken.symm
  | remove =>
      cases unlocked : callers.writer with
      | some writer => simp [unlocked] at taken
      | none =>
          simp only [unlocked, Option.isSome_none, Bool.false_eq_true,
            if_false, Option.some.injEq] at taken
          exact .removes name env [key] _ _ found unlocked (.reset key rfl)
            (by rw [← taken, unlocked]; rfl)
  | returned cleared => cases taken

theorem workSweeping_steps
    {pc : SweepPc}
    (found : callers.threads name = some (.sweeping pc))
    (taken : workSweeping callers name env pc = some target) :
    Steps callers target (.work name env) := by
  unfold workSweeping at taken
  cases pc with
  | scan =>
      cases unlocked : callers.writer with
      | some writer => simp [unlocked] at taken
      | none =>
          simp only [unlocked, Option.isSome_none, Bool.false_eq_true,
            if_false] at taken
          split at taken
          · rename_i present
            cases idle : env.idle with
            | nil =>
                simp only [idle, Option.some.injEq] at taken
                exact .turns name env _ _ found unlocked .scansNothing
                  taken.symm
            | cons key rest =>
                simp only [idle, Option.some.injEq] at taken
                refine .turns name env _ _ found unlocked
                  (.scans (key :: rest) ?_) taken.symm
                rw [← idle]
                exact List.all_eq_true.mp present
          · cases taken
  | remove keys =>
      cases unlocked : callers.writer with
      | some writer => simp [unlocked] at taken
      | none =>
          simp only [unlocked, Option.isSome_none, Bool.false_eq_true,
            if_false, Option.some.injEq] at taken
          exact .removes name env keys _ _ found unlocked .sweep
            (by rw [← taken, unlocked])
  | deleteRows keys =>
      cases keys with
      | nil => cases taken
      | cons key rest =>
          simp only [Option.some.injEq] at taken
          exact .deletes name env key _ _ found (.sweep rest) taken.symm

theorem step_steps
    {action : Action} (taken : step action callers = some target) :
    Steps callers target action := by
  cases action with
  | open_ name key cwd callerId => exact spawn_steps rfl taken
  | reset name key => exact spawn_steps rfl taken
  | sweep name => exact spawn_steps rfl taken
  | insertLoaded key session now =>
      simp only [step] at taken
      cases unlocked : callers.writer with
      | some writer => simp [unlocked] at taken
      | none =>
          simp only [unlocked, Option.isSome_none, Bool.false_eq_true,
            if_false] at taken
          split at taken
          · cases taken
            exact .ignores key session now rfl
          · rename_i admitted
            simp only [not_or, Bool.not_eq_true, Option.isSome_eq_false_iff,
              Option.isNone_iff_eq_none] at admitted
            cases taken
            exact .loads key session now unlocked admitted.1 admitted.2
              (by rw [unlocked])
  | remove key =>
      simp only [step] at taken
      cases unlocked : callers.writer with
      | some writer => simp [unlocked] at taken
      | none =>
          simp only [unlocked, Option.isSome_none, Bool.false_eq_true,
            if_false, Option.some.injEq] at taken
          exact .clears key unlocked (by rw [← taken, unlocked])
  | work name env =>
      obtain ⟨caller, found, worked⟩ := Option.bind_eq_some_iff.mp taken
      cases caller with
      | opening key cwd callerId pc => exact workOpening_steps found worked
      | resetting key pc => exact workResetting_steps found worked
      | sweeping pc => exact workSweeping_steps found worked
  | drop name =>
      simp only [step, drop] at taken
      split at taken
      · rename_i key cwd callerId pc found
        split at taken
        · rename_i waiting
          cases taken
          exact .drops name key cwd callerId pc found waiting rfl
        · cases taken
      · cases taken

end ConversationCallers

end A2AShim
