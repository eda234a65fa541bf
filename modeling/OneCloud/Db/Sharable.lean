import Mathlib.Data.List.Basic

/-
This file models the sharing fields of a sharable resource, its rows of the
shared-resource table, and the `public` and `private` requests of `sharablebase.go`.
-/

namespace OneCloud.Db

/-- The five rbac scopes, from the lowest to the highest. -/
inductive TRbacScope where
  | scopeNone
  | scopeUser
  | scopeProject
  | scopeDomain
  | scopeSystem
  deriving DecidableEq, Repr

namespace TRbacScope

/-- The rank that `HigherThan` compares. -/
def score : TRbacScope → Nat
  | scopeNone => 0
  | scopeUser => 1
  | scopeProject => 2
  | scopeDomain => 3
  | scopeSystem => 4

/-- This is `TRbacScope.HigherThan`. -/
def higherThan (s1 s2 : TRbacScope) : Bool := s2.score < s1.score

/-- The text `string(scope)` of a scope. -/
def toString : TRbacScope → String
  | scopeNone => "none"
  | scopeUser => "user"
  | scopeProject => "project"
  | scopeDomain => "domain"
  | scopeSystem => "system"

@[simp] theorem higherThan_iff (s1 s2 : TRbacScope) : s1.higherThan s2 = true ↔ s2.score < s1.score := by
  simp [higherThan]

end TRbacScope

/-- `strings.ToLower` on the ASCII letters that the scope names are written in. -/
def toLowerAscii (str : String) : String := ⟨str.data.map Char.toLower⟩

/-- This is `rbacutils.String2ScopeDefault`, which reads a scope name in any letter case. -/
def string2ScopeDefault (str : String) (defScope : TRbacScope) : TRbacScope :=
  match toLowerAscii str with
  | "system" => .scopeSystem
  | "domain" => .scopeDomain
  | "project" => .scopeProject
  | "user" => .scopeUser
  | "none" => .scopeNone
  | _ => defScope

/-- The two target types of a shared-resource row, `SharedTargetProject` and `SharedTargetDomain`. -/
inductive SharedTarget where
  | sharedTargetProject
  | sharedTargetDomain
  deriving DecidableEq, Repr

/-- One row of the shared-resource table for the modelled resource. -/
structure SSharedResource where
  targetType : SharedTarget
  targetProjectId : String
  deriving DecidableEq, Repr

/-- The ids of the rows of one target type. -/
def sharedIds (targetType : SharedTarget) (shares : List SSharedResource) : List String :=
  (shares.filter fun row => row.targetType == targetType).map SSharedResource.targetProjectId

/-- `shareToTarget` leaves the resource's rows of one target type equal to the ids it returns. -/
def replaceShares (targetType : SharedTarget) (ids : List String)
    (shares : List SSharedResource) : List SSharedResource :=
  shares.filter (fun row => row.targetType != targetType) ++ ids.map (SSharedResource.mk targetType)

@[simp] theorem sharedIds_replaceShares_same (targetType : SharedTarget) (ids : List String)
    (shares : List SSharedResource) :
    sharedIds targetType (replaceShares targetType ids shares) = ids := by
  simp [sharedIds, replaceShares, List.filter_map, Function.comp_def]

@[simp] theorem sharedIds_replaceShares_other {targetType other : SharedTarget} (distinct : other ≠ targetType)
    (ids : List String) (shares : List SSharedResource) :
    sharedIds other (replaceShares targetType ids shares) = sharedIds other shares := by
  have dropped : (ids.map (SSharedResource.mk targetType)).filter
      (fun row => row.targetType == other) = [] := by
    simp [List.filter_eq_nil_iff, Ne.symm distinct]
  have kept (row : SSharedResource) :
      (row.targetType == other && row.targetType != targetType) = (row.targetType == other) := by
    by_cases same : row.targetType = other <;> simp [same, distinct]
  simp only [sharedIds, replaceShares, List.filter_append, List.map_append, List.filter_filter,
    dropped, kept, List.map_nil, List.append_nil]

/-- The errors of `httperrors` that the sharing code wraps. -/
inductive HttpErrorClass where
  | errNotSupported
  | errInputParameter
  | errForbidden
  | errNotSufficientPrivilege
  deriving DecidableEq, Repr

/-- An error as `errors.Wrap` builds it, or one returned by a collaborator. -/
inductive SharableError where
  | httpError (errorClass : HttpErrorClass)
  | external (text : String)
  | wrap (cause : SharableError) (msg : String)
  deriving DecidableEq, Repr

/-- The owner of a resource or of a request: a project and its domain. -/
structure IdentityProvider where
  projectId : String
  projectDomainId : String
  deriving DecidableEq, Repr

/-- A sharable resource: the fields of `SSharableBaseResource`, its owner and its shared-resource rows. -/
structure SharableModel where
  isPublic : Bool
  publicScope : TRbacScope
  publicSrc : String
  ownerId : IdentityProvider
  shares : List SSharedResource
  deriving DecidableEq, Repr

/-- `apis.OWNER_SOURCE_LOCAL`, the source that `SetShare` records. -/
def ownerSourceLocal : String := "local"

/-- This is `SSharableBaseResource.SetShare`. -/
def SharableModel.setShare (model : SharableModel) (scope : TRbacScope) : SharableModel :=
  { model with isPublic := scope != .scopeNone, publicScope := scope, publicSrc := ownerSourceLocal }

@[simp] theorem SharableModel.setShare_shares (model : SharableModel) (scope : TRbacScope) :
    (model.setShare scope).shares = model.shares := rfl

@[simp] theorem SharableModel.setShare_ownerId (model : SharableModel) (scope : TRbacScope) :
    (model.setShare scope).ownerId = model.ownerId := rfl

@[simp] theorem SharableModel.setShare_publicScope (model : SharableModel) (scope : TRbacScope) :
    (model.setShare scope).publicScope = scope := rfl

@[simp] theorem SharableModel.setShare_isPublic (model : SharableModel) (scope : TRbacScope) :
    (model.setShare scope).isPublic = (scope != .scopeNone) := rfl

/-- `jsonutils.Marshal` of a string list, as `%s` prints it. -/
def marshalStrings (ids : List String) : String :=
  "[" ++ ",".intercalate (ids.map fun id => "\"" ++ id ++ "\"") ++ "]"

/-- The body of `apis.PerformPublicProjectInput`. -/
structure PerformPublicProjectInput where
  scope : String
  sharedProjects : List String
  sharedDomains : List String

/-- What the collaborators of one `SharablePerformPublic` call answer. -/
structure PublicEnv where
  candidateIds : List String
  requireIds : List String
  shareToTarget : SharedTarget → List String → List String → List String →
    Except SharableError (List String)
  allowScope : TRbacScope
  updateError : Option SharableError

/-- The scope after `shared_projects` or `shared_domains` has overridden the requested one. -/
def retargetScope (input : PerformPublicProjectInput) (targetScope : TRbacScope) : TRbacScope :=
  if 0 < input.sharedProjects.length ∧ targetScope ≠ .scopeProject then .scopeProject
  else if 0 < input.sharedDomains.length ∧ targetScope ≠ .scopeDomain then .scopeDomain
  else targetScope

/-- The `switch targetScope` of `SharablePerformPublic`: the rows it leaves and the scope it settles on. -/
def performPublicShare (resourceScope : TRbacScope) (env : PublicEnv)
    (input : PerformPublicProjectInput) (targetScope : TRbacScope) (shares : List SSharedResource) :
    List SSharedResource × Except SharableError TRbacScope :=
  match targetScope with
  | .scopeProject =>
      if env.requireIds.length = 0 then
        (shares, .error (.wrap (.httpError .errForbidden) "require to be shared to system"))
      else if 1 < env.requireIds.length then
        (shares, .error (.wrap (.httpError .errForbidden) "require to be shared to other domain"))
      else
        match env.shareToTarget .sharedTargetProject input.sharedProjects [] [] with
        | .error err => (shares, .error (.wrap err "shareToTarget"))
        | .ok sharedProjects =>
            (replaceShares .sharedTargetProject sharedProjects shares,
              .ok (if sharedProjects.length = 0 then .scopeNone else .scopeProject))
  | .scopeDomain =>
      if env.requireIds.length = 0 then
        (shares, .error (.wrap (.httpError .errForbidden) "require to be shared to system"))
      else
        match env.shareToTarget .sharedTargetProject [] [] [] with
        | .error err => (shares, .error (.wrap err "shareToTarget clean projects"))
        | .ok cleared =>
            let shares := replaceShares .sharedTargetProject cleared shares
            match env.shareToTarget .sharedTargetDomain input.sharedDomains env.candidateIds env.requireIds with
            | .error err => (shares, .error (.wrap err "shareToTarget add domains"))
            | .ok sharedDomains =>
                (replaceShares .sharedTargetDomain sharedDomains shares,
                  .ok (if sharedDomains.length = 0 ∧ resourceScope = .scopeDomain then .scopeNone
                    else .scopeDomain))
  | .scopeSystem =>
      if 0 < env.candidateIds.length then
        (shares, .error (.wrap (.httpError .errForbidden)
          ("sharing is limited to domains " ++ marshalStrings env.candidateIds)))
      else
        match env.shareToTarget .sharedTargetProject [] [] [] with
        | .error err => (shares, .error (.wrap err "shareToTarget clean projects"))
        | .ok cleared =>
            let shares := replaceShares .sharedTargetProject cleared shares
            match env.shareToTarget .sharedTargetDomain [] [] [] with
            | .error err => (shares, .error (.wrap err "shareToTarget clean domainss"))
            | .ok cleared => (replaceShares .sharedTargetDomain cleared shares, .ok .scopeSystem)
  | targetScope => (shares, .ok targetScope)

/-- This is `SharablePerformPublic`; the returned error is `none` for a nil error. -/
def sharablePerformPublic (resourceScope : TRbacScope) (env : PublicEnv)
    (input : PerformPublicProjectInput) (model : SharableModel) : SharableModel × Option SharableError :=
  let targetScope := string2ScopeDefault input.scope .scopeSystem
  if resourceScope.higherThan targetScope then
    (model, some (.wrap (.httpError .errNotSupported)
      ("cannot share " ++ resourceScope.toString ++ " resource to " ++ targetScope.toString)))
  else if 0 < input.sharedProjects.length ∧ 0 < input.sharedDomains.length then
    (model, some (.wrap (.httpError .errInputParameter)
      "cannot set shared_projects and shared_domains at the same time"))
  else
    let (shares, settled) :=
      performPublicShare resourceScope env input (retargetScope input targetScope) model.shares
    let model := { model with shares := shares }
    match settled with
    | .error err => (model, some err)
    | .ok targetScope =>
        if targetScope.higherThan env.allowScope then
          (model, some (.wrap (.httpError .errNotSufficientPrivilege)
            ("require " ++ targetScope.toString ++ " allow " ++ env.allowScope.toString)))
        else
          match env.updateError with
          | some err => (model, some (.wrap err "Update"))
          | none => (model.setShare targetScope, none)

/-- What the collaborators of one `SharablePerformPrivate` call answer. -/
structure PrivateEnv where
  requireIds : List String
  allowScope : TRbacScope
  cleanError : Option SharableError
  updateError : Option SharableError

/-- This is `SharablePerformPrivate`; `CleanModelShares` deletes every row of the resource. -/
def sharablePerformPrivate (env : PrivateEnv) (model : SharableModel) :
    SharableModel × Option SharableError :=
  if !model.isPublic ∧ model.publicScope = .scopeNone then (model, none)
  else if env.requireIds.length = 0 then
    (model, some (.wrap (.httpError .errForbidden) "require to be shared to system"))
  else if 1 < env.requireIds.length then
    (model, some (.wrap (.httpError .errForbidden) "require to be shared to other domain"))
  else if model.publicScope.higherThan env.allowScope then
    (model, some (.wrap (.httpError .errNotSufficientPrivilege)
      ("require " ++ model.publicScope.toString ++ " allow " ++ env.allowScope.toString)))
  else
    match env.cleanError with
    | some err => (model, some (.wrap err "CleanModelShares"))
    | none =>
        let model := { model with shares := [] }
        match env.updateError with
        | some err => (model, some (.wrap err "Update"))
        | none => (model.setShare .scopeNone, none)

/-- A public request fails having changed at most the rows, or settles on the switch's scope. -/
theorem sharablePerformPublic_cases (resourceScope : TRbacScope) (env : PublicEnv)
    (input : PerformPublicProjectInput) (model : SharableModel) :
    (∃ shares err, sharablePerformPublic resourceScope env input model =
        ({ model with shares := shares }, some err)) ∨
      (∃ shares targetScope,
        resourceScope.higherThan (string2ScopeDefault input.scope .scopeSystem) = false ∧
        performPublicShare resourceScope env input
            (retargetScope input (string2ScopeDefault input.scope .scopeSystem)) model.shares =
          (shares, .ok targetScope) ∧
        targetScope.higherThan env.allowScope = false ∧ env.updateError = none ∧
        sharablePerformPublic resourceScope env input model =
          ({ model with shares := shares }.setShare targetScope, none)) := by
  dsimp only [sharablePerformPublic]
  by_cases guard : resourceScope.higherThan (string2ScopeDefault input.scope .scopeSystem) = true
  · exact .inl ⟨model.shares, _, by rw [if_pos guard]⟩
  rw [if_neg guard]
  by_cases both : 0 < input.sharedProjects.length ∧ 0 < input.sharedDomains.length
  · exact .inl ⟨model.shares, _, by rw [if_pos both]⟩
  rw [if_neg both]
  rcases share : performPublicShare resourceScope env input _ model.shares with
    ⟨shares, err | targetScope⟩
  · exact .inl ⟨shares, err, rfl⟩
  dsimp only
  by_cases denied : targetScope.higherThan env.allowScope = true
  · exact .inl ⟨shares, _, by rw [if_pos denied]⟩
  rw [if_neg denied]
  rcases update : env.updateError with _ | err
  · exact .inr ⟨shares, targetScope, Bool.eq_false_iff.mpr guard, rfl, Bool.eq_false_iff.mpr denied, rfl, rfl⟩
  · exact .inl ⟨shares, _, rfl⟩

/-- A `shareToTarget` that accepts every requested target. -/
def acceptAllTargets : SharedTarget → List String → List String → List String →
    Except SharableError (List String) :=
  fun _ targetIds _ _ => .ok targetIds

/-- A project share the policy denies still writes its project rows. -/
theorem sharablePerformPublic_denied_after_share :
    let model : SharableModel := ⟨false, .scopeNone, "", ⟨"p1", "d1"⟩, []⟩
    let result := sharablePerformPublic .scopeProject ⟨[], ["d1"], acceptAllTargets, .scopeNone, none⟩
      ⟨"project", ["p2"], []⟩ model
    result.2 = some (.wrap (.httpError .errNotSufficientPrivilege) "require project allow none") ∧
      model.shares = [] ∧ result.1.shares = [⟨.sharedTargetProject, "p2"⟩] := by
  decide

/-- A domain resource shared to the system with a project list ends at project scope. -/
theorem sharablePerformPublic_domain_resource_to_project :
    let result : SharableModel × Option SharableError :=
      sharablePerformPublic .scopeDomain ⟨[], ["d1"], acceptAllTargets, .scopeSystem, none⟩
      ⟨"", ["p2"], []⟩ ⟨false, .scopeNone, "", ⟨"p1", "d1"⟩, []⟩
    result.2 = none ∧ result.1.publicScope = .scopeProject ∧
      TRbacScope.scopeDomain.higherThan result.1.publicScope = true := by
  decide

/-- A private request fails, returns early, or clears the rows and the scope. -/
theorem sharablePerformPrivate_cases (env : PrivateEnv) (model : SharableModel) :
    (∃ shares err, sharablePerformPrivate env model = ({ model with shares := shares }, some err)) ∨
      (model.isPublic = false ∧ model.publicScope = .scopeNone ∧
        sharablePerformPrivate env model = (model, none)) ∨
      sharablePerformPrivate env model = ({ model with shares := [] }.setShare .scopeNone, none) := by
  unfold sharablePerformPrivate
  by_cases already : (!model.isPublic) = true ∧ model.publicScope = .scopeNone
  · rw [if_pos already]
    exact .inr (.inl ⟨by simpa using already.1, already.2, rfl⟩)
  rw [if_neg already]
  by_cases unrequired : env.requireIds.length = 0
  · exact .inl ⟨model.shares, _, by rw [if_pos unrequired]⟩
  rw [if_neg unrequired]
  by_cases many : 1 < env.requireIds.length
  · exact .inl ⟨model.shares, _, by rw [if_pos many]⟩
  rw [if_neg many]
  by_cases denied : model.publicScope.higherThan env.allowScope = true
  · exact .inl ⟨model.shares, _, by rw [if_pos denied]⟩
  rw [if_neg denied]
  rcases env.cleanError with _ | err
  · rcases env.updateError with _ | err
    · exact .inr (.inr rfl)
    · exact .inl ⟨[], _, rfl⟩
  · exact .inl ⟨model.shares, _, rfl⟩

end OneCloud.Db
