import Mathlib.Logic.Basic

/-!
# Permission decisions

What `evaluate` answers to a permission request of the agent: which option it
approves, and when it rejects.
-/

namespace A2AShim

/-- A kind that the SDK adds later would be named `other` as well. -/
inductive ToolKind where
  | read
  | edit
  | delete
  | move
  | search
  | execute
  | think
  | fetch
  | switchMode
  | other
  deriving DecidableEq, Repr

inductive PermissionOptionKind where
  | allowOnce
  | allowAlways
  | rejectOnce
  | rejectAlways
  deriving DecidableEq, Repr

structure PermissionOption where
  optionId : String
  kind : PermissionOptionKind
  deriving DecidableEq, Repr

/-- `toolKind` is that of `tool_call.fields`, an update that may leave it
out. -/
structure RequestPermissionRequest where
  toolKind : Option ToolKind
  options : List PermissionOption
  deriving DecidableEq, Repr

inductive PermissionStrategy where
  | autoApprove
  | autoReject
  | passthrough
  deriving DecidableEq, Repr

namespace Permission

inductive Decision where
  | approve (optionId : String)
  | reject
  deriving DecidableEq, Repr

def toolKindName : ToolKind → String
  | .read => "read"
  | .edit => "edit"
  | .delete => "delete"
  | .move => "move"
  | .search => "search"
  | .execute => "execute"
  | .think => "think"
  | .fetch => "fetch"
  | .switchMode => "switch_mode"
  | .other => "other"

/-- `str::eq_ignore_ascii_case`. -/
def eqIgnoreAsciiCase (left right : String) : Bool :=
  left.toList.map Char.toLower == right.toList.map Char.toLower

/-- The first `AllowOnce` option, or else the first option. -/
def chosen (options : List PermissionOption) : Option PermissionOption :=
  (options.find? fun option => option.kind == .allowOnce).or options.head?

/-- An update without a kind matches no entry. -/
def denied (toolKind : Option ToolKind) (denyToolKinds : List String) :
    Bool :=
  !denyToolKinds.isEmpty &&
    match toolKind with
    | some kind =>
        denyToolKinds.any fun entry =>
          eqIgnoreAsciiCase entry (toolKindName kind)
    | none => false

def evaluate (request : RequestPermissionRequest)
    (strategy : PermissionStrategy) (denyToolKinds : List String) :
    Decision :=
  match strategy with
  | .autoReject => .reject
  | .passthrough => .reject
  | .autoApprove =>
      if denied request.toolKind denyToolKinds then
        .reject
      else
        match chosen request.options with
        | some option => .approve option.optionId
        | none => .reject

/-! ## Names on the wire -/

/-- The name of the variant in the SDK. -/
def variantName : ToolKind → String
  | .read => "Read"
  | .edit => "Edit"
  | .delete => "Delete"
  | .move => "Move"
  | .search => "Search"
  | .execute => "Execute"
  | .think => "Think"
  | .fetch => "Fetch"
  | .switchMode => "SwitchMode"
  | .other => "Other"

/-- An underscore before each capital, and all in lower case. -/
def snakeChars (chars : List Char) : List Char :=
  chars.flatMap fun char =>
    if char.isUpper then ['_', char.toLower] else [char]

/-- How the SDK derives the names of its variants. -/
def wireName (kind : ToolKind) : String :=
  match (variantName kind).toList with
  | [] => ""
  | first :: rest => String.ofList (first.toLower :: snakeChars rest)

theorem toolKindName_eq_wireName (kind : ToolKind) :
    toolKindName kind = wireName kind := by
  cases kind <;> decide

/-! ## What is approved -/

/-- An entry of the deny list names the kind of the tool. -/
def Denied (toolKind : Option ToolKind) (denyToolKinds : List String) :
    Prop :=
  ∃ kind entry, toolKind = some kind ∧ entry ∈ denyToolKinds ∧
    eqIgnoreAsciiCase entry (wireName kind) = true

/-- The option that is taken when the request is granted. -/
inductive Taken (options : List PermissionOption) : PermissionOption → Prop
  | once (front rest : List PermissionOption) (option : PermissionOption)
      (split : options = front ++ option :: rest)
      (isOnce : option.kind = .allowOnce)
      (noneBefore : ∀ other, other ∈ front → other.kind ≠ .allowOnce) :
      Taken options option
  | first (rest : List PermissionOption) (option : PermissionOption)
      (isFirst : options = option :: rest)
      (noOnce : ∀ other, other ∈ options → other.kind ≠ .allowOnce) :
      Taken options option

structure Grants (request : RequestPermissionRequest)
    (strategy : PermissionStrategy) (denyToolKinds : List String)
    (optionId : String) : Prop where
  automatic : strategy = .autoApprove
  notDenied : ¬ Denied request.toolKind denyToolKinds
  taken : ∃ option, Taken request.options option ∧
    option.optionId = optionId

variable {options : List PermissionOption} {option : PermissionOption}
variable {request : RequestPermissionRequest} {denyToolKinds : List String}

theorem chosen_eq_some_iff :
    chosen options = some option ↔ Taken options option := by
  unfold chosen
  cases found : options.find? fun option => option.kind == .allowOnce with
  | some once =>
      have split := List.find?_eq_some_iff_append.mp found
      obtain ⟨isOnce, front, rest, whole, noneBefore⟩ := split
      rw [Option.some_or, Option.some.injEq]
      constructor
      · rintro rfl
        refine .once front rest once whole (beq_iff_eq.mp isOnce) ?_
        intro other member
        simpa using noneBefore other member
      · intro taken
        cases taken with
        | once front rest option whole isOnce noneBefore =>
            have same : options.find? (fun option =>
                option.kind == .allowOnce) = some option := by
              rw [List.find?_eq_some_iff_append]
              refine ⟨beq_iff_eq.mpr isOnce, front, rest, whole, ?_⟩
              intro other member
              simpa using noneBefore other member
            rw [found] at same
            exact Option.some.inj same
        | first rest option isFirst noOnce =>
            have member := List.mem_of_find?_eq_some found
            exact absurd (beq_iff_eq.mp isOnce) (noOnce once member)
  | none =>
      have noOnce : ∀ other, other ∈ options → other.kind ≠ .allowOnce := by
        intro other member
        simpa using List.find?_eq_none.mp found other member
      rw [Option.none_or, List.head?_eq_some_iff]
      constructor
      · rintro ⟨rest, isFirst⟩
        exact .first rest option isFirst noOnce
      · intro taken
        cases taken with
        | once front rest option whole isOnce noneBefore =>
            have member : option ∈ options := by
              rw [whole]
              exact List.mem_append_right front List.mem_cons_self
            exact absurd isOnce (noOnce option member)
        | first rest option isFirst _ => exact ⟨rest, isFirst⟩

theorem denied_iff {toolKind : Option ToolKind} :
    denied toolKind denyToolKinds = true ↔
      Denied toolKind denyToolKinds := by
  cases toolKind with
  | none => simp [denied, Denied]
  | some kind =>
      simp only [denied, toolKindName_eq_wireName, Bool.and_eq_true,
        List.any_eq_true]
      constructor
      · rintro ⟨_, entry, member, same⟩
        exact ⟨kind, entry, rfl, member, same⟩
      · rintro ⟨_, entry, isKind, member, same⟩
        cases isKind
        refine ⟨?_, entry, member, same⟩
        cases denyToolKinds with
        | nil => cases member
        | cons first rest => rfl

theorem evaluate_eq_approve_iff
    {strategy : PermissionStrategy} {optionId : String} :
    evaluate request strategy denyToolKinds = .approve optionId ↔
      Grants request strategy denyToolKinds optionId := by
  cases strategy with
  | autoReject => exact ⟨nofun, fun grants => by cases grants.automatic⟩
  | passthrough => exact ⟨nofun, fun grants => by cases grants.automatic⟩
  | autoApprove =>
      rw [evaluate]
      by_cases isDenied : Denied request.toolKind denyToolKinds
      · rw [if_pos (denied_iff.mpr isDenied)]
        exact ⟨nofun, fun grants => absurd isDenied grants.notDenied⟩
      · rw [if_neg fun test => isDenied (denied_iff.mp test)]
        cases found : chosen request.options with
        | none =>
            refine ⟨nofun, ?_⟩
            rintro ⟨_, _, option, taken, _⟩
            rw [chosen_eq_some_iff.mpr taken] at found
            cases found
        | some option =>
            have isTaken := chosen_eq_some_iff.mp found
            simp only [Decision.approve.injEq]
            constructor
            · intro same
              exact ⟨rfl, isDenied, option, isTaken, same⟩
            · rintro ⟨_, _, other, taken, same⟩
              rw [chosen_eq_some_iff.mpr taken] at found
              cases found
              exact same

/-- A request is approved with an option that is offered, `AllowOnce` if there
is such an option and the first one otherwise; where nothing can be approved,
it is rejected. -/
theorem evaluate_decides
    (request : RequestPermissionRequest) (strategy : PermissionStrategy)
    (denyToolKinds : List String) :
    (∀ optionId,
        evaluate request strategy denyToolKinds = .approve optionId ↔
          Grants request strategy denyToolKinds optionId) ∧
      (evaluate request strategy denyToolKinds = .reject ↔
        ∀ optionId, ¬ Grants request strategy denyToolKinds optionId) := by
  refine ⟨fun optionId => evaluate_eq_approve_iff, ?_⟩
  constructor
  · intro rejected optionId grants
    rw [evaluate_eq_approve_iff.mpr grants] at rejected
    cases rejected
  · intro noGrant
    cases decision : evaluate request strategy denyToolKinds with
    | reject => rfl
    | approve optionId =>
        exact absurd (evaluate_eq_approve_iff.mp decision) (noGrant optionId)

/-- A request that offers nothing but a refusal. -/
def onlyReject : RequestPermissionRequest :=
  { toolKind := some .execute, options := [⟨"o-rej", .rejectOnce⟩] }

/-- The refusal is approved. -/
theorem refusal_is_approved :
    evaluate onlyReject .autoApprove [] = .approve "o-rej" ∧
      ¬ ∀ request strategy denyToolKinds optionId,
        evaluate request strategy denyToolKinds = .approve optionId →
          ∃ option, option ∈ request.options ∧ option.optionId = optionId ∧
            (option.kind = .allowOnce ∨ option.kind = .allowAlways) := by
  have approved : evaluate onlyReject .autoApprove [] = .approve "o-rej" := by
    decide
  refine ⟨approved, ?_⟩
  intro allows
  obtain ⟨option, member, _, allowed⟩ :=
    allows onlyReject .autoApprove [] "o-rej" approved
  cases List.mem_singleton.mp member
  rcases allowed with once | always
  · cases once
  · cases always

end Permission

end A2AShim
