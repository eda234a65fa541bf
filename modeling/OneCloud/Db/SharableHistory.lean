import OneCloud.Db.Sharable

/-
This file runs the share requests one after another, models the list filter of
`SharableManagerFilterByOwner` and the check of `SharableModelIsSharable`, and states
what the listing relies on.
-/

namespace OneCloud.Db

/-- One request on the resource, with what its collaborators answer. -/
inductive ShareRequest where
  | performPublic (env : PublicEnv) (input : PerformPublicProjectInput)
  | performPrivate (env : PrivateEnv)

/-- The resource and the error after one request. -/
def ShareRequest.run (resourceScope : TRbacScope) :
    ShareRequest → SharableModel → SharableModel × Option SharableError
  | .performPublic env input, model => sharablePerformPublic resourceScope env input model
  | .performPrivate env, model => sharablePerformPrivate env model

/-- The resource after a history of requests, the failed ones included. -/
def runRequests (resourceScope : TRbacScope) : List ShareRequest → SharableModel → SharableModel
  | [], model => model
  | request :: rest, model => runRequests resourceScope rest (request.run resourceScope model).1

/-- Every request of the history returns a nil error. -/
def AllSucceed (resourceScope : TRbacScope) : List ShareRequest → SharableModel → Prop
  | [], _ => True
  | request :: rest, model =>
      (request.run resourceScope model).2 = none ∧
        AllSucceed resourceScope rest (request.run resourceScope model).1

/-- The states a resource reaches from `start` by requests that succeed or fail. -/
inductive Reachable (resourceScope : TRbacScope) (start : SharableModel) : SharableModel → Prop
  | init : Reachable resourceScope start start
  | step {model : SharableModel} (request : ShareRequest) :
      Reachable resourceScope start model →
        Reachable resourceScope start (request.run resourceScope model).1

theorem reachable_runRequests (resourceScope : TRbacScope) (start : SharableModel)
    (requests : List ShareRequest) {model : SharableModel} (reached : Reachable resourceScope start model) :
    Reachable resourceScope start (runRequests resourceScope requests model) := by
  induction requests generalizing model with
  | nil => exact reached
  | cons request rest ih => exact ih (.step request reached)

/-- A resource that is not shared: not public, scope `none`, no shared-resource rows. -/
def unshared (ownerId : IdentityProvider) (publicSrc : String) : SharableModel :=
  ⟨false, .scopeNone, publicSrc, ownerId, []⟩

/-- Whether the row passes the filter that `SharableManagerFilterByOwner` adds. -/
def sharableManagerFilterByOwner (resScope : TRbacScope) (owner : Option IdentityProvider)
    (scope : TRbacScope) (model : SharableModel) : Bool :=
  match owner with
  | none => true
  | some owner =>
      if resScope = .scopeProject ∧ scope = .scopeProject then
        if 0 < owner.projectId.length then
          model.ownerId.projectId == owner.projectId ||
            (model.isPublic && model.publicScope == .scopeSystem) ||
            (model.isPublic && model.publicScope == .scopeDomain &&
              (model.ownerId.projectDomainId == owner.projectDomainId ||
                (sharedIds .sharedTargetDomain model.shares).contains owner.projectDomainId)) ||
            (sharedIds .sharedTargetProject model.shares).contains owner.projectId
        else true
      else if (resScope = .scopeDomain ∧ (scope = .scopeProject ∨ scope = .scopeDomain)) ∨
          (resScope = .scopeProject ∧ scope = .scopeDomain) then
        if 0 < owner.projectDomainId.length then
          model.ownerId.projectDomainId == owner.projectDomainId ||
            (model.isPublic && model.publicScope == .scopeSystem) ||
            (model.isPublic && (sharedIds .sharedTargetDomain model.shares).contains owner.projectDomainId)
        else true
      else true

/-- This is `SharableModelIsSharable`; the two counting queries read the resource's rows. -/
def sharableModelIsSharable (model : SharableModel) (reqUsrId : IdentityProvider) : Bool :=
  if model.isPublic ∧ model.publicScope = .scopeSystem then true
  else if model.isPublic ∧ model.publicScope = .scopeDomain ∧
      (model.ownerId.projectDomainId = reqUsrId.projectDomainId ∨
        reqUsrId.projectDomainId ∈ sharedIds .sharedTargetDomain model.shares) then true
  else if model.publicScope = .scopeProject ∧
      (model.ownerId.projectId = reqUsrId.projectId ∨
        reqUsrId.projectId ∈ sharedIds .sharedTargetProject model.shares) then true
  else false

/-- Listing shows a resource outside the owner's domain only when it is shared there. -/
def ListingRevealsOnlyShared (resourceScope : TRbacScope) (model : SharableModel) : Prop :=
  ∀ (requester : IdentityProvider) (scope : TRbacScope),
    0 < requester.projectId.length → 0 < requester.projectDomainId.length →
    requester.projectDomainId ≠ model.ownerId.projectDomainId →
    requester.projectId ≠ model.ownerId.projectId →
    (scope = .scopeProject ∨ scope = .scopeDomain) →
    sharableManagerFilterByOwner resourceScope (some requester) scope model = true →
    sharableModelIsSharable model requester = true

/-- The rows agree with the scope: no rows of a target type above it. -/
def SharesMatchScope (model : SharableModel) : Prop :=
  ((model.publicScope = .scopeNone ∨ model.publicScope = .scopeSystem) → model.shares = []) ∧
    (model.publicScope = .scopeDomain → sharedIds .sharedTargetProject model.shares = []) ∧
    (model.publicScope = .scopeProject → sharedIds .sharedTargetDomain model.shares = [])

/-- A request leaves the sharing fields alone, or sets them all with `SetShare`. -/
theorem ShareRequest.run_fst (resourceScope : TRbacScope) (request : ShareRequest)
    (model : SharableModel) :
    ∃ shares, (request.run resourceScope model).1 = { model with shares := shares } ∨
      ∃ targetScope, (request.run resourceScope model).1 = { model with shares := shares }.setShare targetScope := by
  cases request with
  | performPublic env input =>
      rcases sharablePerformPublic_cases resourceScope env input model with
        ⟨shares, err, result⟩ | ⟨shares, targetScope, -, -, -, -, result⟩
      · exact ⟨shares, .inl (by simp [run, result])⟩
      · exact ⟨shares, .inr ⟨targetScope, by simp [run, result]⟩⟩
  | performPrivate env =>
      rcases sharablePerformPrivate_cases env model with ⟨shares, err, result⟩ | ⟨-, -, result⟩ | result
      · exact ⟨shares, .inl (by simp [run, result])⟩
      · exact ⟨model.shares, .inl (by simp [run, result])⟩
      · exact ⟨[], .inr ⟨.scopeNone, by simp [run, result]⟩⟩

/-- A failed request leaves `IsPublic`, `PublicScope` and `PublicSrc` as they were. -/
theorem ShareRequest.run_error (resourceScope : TRbacScope) (request : ShareRequest)
    (model : SharableModel) {err : SharableError}
    (failed : (request.run resourceScope model).2 = some err) :
    (request.run resourceScope model).1 =
      { model with shares := (request.run resourceScope model).1.shares } := by
  cases request with
  | performPublic env input =>
      rcases sharablePerformPublic_cases resourceScope env input model with
        ⟨shares, err, result⟩ | ⟨shares, targetScope, -, -, -, -, result⟩
      · simp [run, result]
      · simp [run, result] at failed
  | performPrivate env =>
      rcases sharablePerformPrivate_cases env model with ⟨shares, err, result⟩ | ⟨-, -, result⟩ | result
      · simp [run, result]
      · simp [run, result] at failed
      · simp [run, result] at failed

theorem ShareRequest.run_error_denied_public :
    (ShareRequest.run .scopeProject (.performPublic ⟨[], ["d1"], acceptAllTargets, .scopeNone, none⟩
        ⟨"project", ["p2"], []⟩) (unshared ⟨"p1", "d1"⟩ "")).2 =
        some (.wrap (.httpError .errNotSufficientPrivilege) "require project allow none") ∧
      (ShareRequest.run .scopeProject (.performPublic ⟨[], ["d1"], acceptAllTargets, .scopeNone, none⟩
        ⟨"project", ["p2"], []⟩) (unshared ⟨"p1", "d1"⟩ "")).1 =
        { unshared ⟨"p1", "d1"⟩ "" with shares := [⟨.sharedTargetProject, "p2"⟩] } :=
  ⟨by decide, (@ShareRequest.run_error .scopeProject
    (.performPublic ⟨[], ["d1"], acceptAllTargets, .scopeNone, none⟩ ⟨"project", ["p2"], []⟩)
    (unshared ⟨"p1", "d1"⟩ "") (.wrap (.httpError .errNotSufficientPrivilege) "require project allow none")
    (by decide)).trans (by decide)⟩

/-- `IsPublic` says whether `PublicScope` is a scope other than `none`. -/
def PublicMatchesScope (model : SharableModel) : Prop :=
  model.isPublic = (model.publicScope != .scopeNone)

theorem publicMatchesScope_run (resourceScope : TRbacScope) (request : ShareRequest)
    {model : SharableModel} (consistent : PublicMatchesScope model) :
    PublicMatchesScope (request.run resourceScope model).1 := by
  obtain ⟨shares, same | ⟨targetScope, settled⟩⟩ := request.run_fst resourceScope model
  · rw [same]; exact consistent
  · rw [settled]; rfl

/-- Every resource reached from an unshared one is public exactly when its scope is set. -/
theorem reachable_publicMatchesScope (resourceScope : TRbacScope) (ownerId : IdentityProvider)
    (publicSrc : String) {model : SharableModel}
    (reached : Reachable resourceScope (unshared ownerId publicSrc) model) :
    PublicMatchesScope model := by
  induction reached with
  | init => rfl
  | step request _ ih => exact publicMatchesScope_run resourceScope request ih

theorem reachable_publicMatchesScope_unshared :
    PublicMatchesScope (runRequests .scopeProject [] (unshared ⟨"p1", "d1"⟩ "")) :=
  reachable_publicMatchesScope .scopeProject ⟨"p1", "d1"⟩ "" (reachable_runRequests _ _ [] .init)

/-- Outside the owner's project and domain, the filter admits only through a share. -/
theorem sharableManagerFilterByOwner_outside {resourceScope scope : TRbacScope} {model : SharableModel}
    {requester : IdentityProvider} (sharable : resourceScope = .scopeProject ∨ resourceScope = .scopeDomain)
    (listed : scope = .scopeProject ∨ scope = .scopeDomain) (projectNamed : 0 < requester.projectId.length)
    (domainNamed : 0 < requester.projectDomainId.length)
    (otherDomain : requester.projectDomainId ≠ model.ownerId.projectDomainId)
    (otherProject : requester.projectId ≠ model.ownerId.projectId)
    (admitted : sharableManagerFilterByOwner resourceScope (some requester) scope model = true) :
    (model.isPublic = true ∧ model.publicScope = .scopeSystem) ∨
      (model.isPublic = true ∧ requester.projectDomainId ∈ sharedIds .sharedTargetDomain model.shares) ∨
      requester.projectId ∈ sharedIds .sharedTargetProject model.shares := by
  rcases sharable with rfl | rfl <;> rcases listed with rfl | rfl <;>
    simp [sharableManagerFilterByOwner, projectNamed, domainNamed, Ne.symm otherDomain,
      Ne.symm otherProject] at admitted
  · rcases admitted with (system | ⟨⟨isPublic, -⟩, inDomain⟩) | inProject
    exacts [.inl system, .inr (.inl ⟨isPublic, inDomain⟩), .inr (.inr inProject)]
  all_goals exact admitted.imp_right .inl

/-- The listing is sound for a resource whose rows agree with its scope. -/
theorem listingRevealsOnlyShared_of_rowsAtScope {resourceScope : TRbacScope} {model : SharableModel}
    (sharable : resourceScope = .scopeProject ∨ resourceScope = .scopeDomain)
    (projectRows : sharedIds .sharedTargetProject model.shares ≠ [] → model.publicScope = .scopeProject)
    (domainRows : sharedIds .sharedTargetDomain model.shares ≠ [] → model.publicScope = .scopeDomain) :
    ListingRevealsOnlyShared resourceScope model := by
  intro requester scope projectNamed domainNamed otherDomain otherProject listed admitted
  rcases sharableManagerFilterByOwner_outside sharable listed projectNamed domainNamed otherDomain otherProject
    admitted with ⟨isPublic, system⟩ | ⟨isPublic, inDomain⟩ | inProject
  · simp [sharableModelIsSharable, isPublic, system]
  · simp [sharableModelIsSharable, isPublic, domainRows (List.ne_nil_of_mem inDomain), inDomain]
  · simp [sharableModelIsSharable, projectRows (List.ne_nil_of_mem inProject), inProject]

theorem listingRevealsOnlyShared_projectShare :
    let model : SharableModel := ⟨true, .scopeProject, "", ⟨"p1", "d1"⟩, [⟨.sharedTargetProject, "p2"⟩]⟩
    (sharedIds .sharedTargetProject model.shares ≠ [] → model.publicScope = .scopeProject) ∧
      (sharedIds .sharedTargetDomain model.shares ≠ [] → model.publicScope = .scopeDomain) ∧
      ListingRevealsOnlyShared .scopeProject model :=
  ⟨fun _ => rfl, fun nonempty => (nonempty rfl).elim,
    listingRevealsOnlyShared_of_rowsAtScope (.inl rfl) (fun _ => rfl) fun nonempty => (nonempty rfl).elim⟩

/-- One denied project share leaves a row that makes the listing show the resource. -/
theorem sharableListing_reveals_after_denied_public :
    let start : SharableModel := unshared ⟨"p1", "d1"⟩ ""
    let model := runRequests .scopeProject
      [.performPublic ⟨[], ["d1"], acceptAllTargets, .scopeNone, none⟩ ⟨"project", ["p2"], []⟩] start
    Reachable .scopeProject start model ∧
      sharableManagerFilterByOwner .scopeProject (some ⟨"p2", "d2"⟩) .scopeProject model = true ∧
      sharableModelIsSharable model ⟨"p2", "d2"⟩ = false ∧
      ¬ ListingRevealsOnlyShared .scopeProject model :=
  ⟨reachable_runRequests _ _ _ .init, by decide, by decide, fun holds =>
    absurd (holds ⟨"p2", "d2"⟩ .scopeProject (by decide) (by decide) (by decide) (by decide)
      (.inl rfl) (by decide)) (by decide)⟩

/-- A domain share and then a project share leave a domain row beside the project scope. -/
theorem sharablePerformPublic_project_keeps_domain_rows :
    let env : PublicEnv := ⟨[], ["d1"], acceptAllTargets, .scopeSystem, none⟩
    let requests := [ShareRequest.performPublic env ⟨"domain", [], ["d2"]⟩,
      .performPublic env ⟨"project", ["p2"], []⟩]
    let model := runRequests .scopeProject requests (unshared ⟨"p1", "d1"⟩ "")
    AllSucceed .scopeProject requests (unshared ⟨"p1", "d1"⟩ "") ∧
      model.publicScope = .scopeProject ∧ sharedIds .sharedTargetDomain model.shares = ["d2"] ∧
      ¬ SharesMatchScope model :=
  ⟨⟨by decide, by decide, trivial⟩, by decide, by decide,
    fun consistent => absurd (consistent.2.2 (by decide)) (by decide)⟩

end OneCloud.Db
