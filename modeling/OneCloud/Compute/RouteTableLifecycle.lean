import OneCloud.Compute.RouteEdit
import OneCloud.Compute.RouteTableConvergence

/-
This file models the requests that change the route-table table: `ValidateCreateData` and the
insert that follows it, `ValidateUpdateData` and the update, `PerformAddRoutes`,
`PerformDelRoutes` and `PerformPurge` on a stored route table, and the cloud sync of
`SyncRouteTables`; and it follows the table through every run of them.
-/

namespace OneCloud.Compute

/-! ### The requests -/

/-- This is `validateRoutes`, whose struct validator stores what `SRoutes.Validate` leaves. -/
def validateRoutes (net : NetIPv6) (missing : GoError) (routes : Option (List SRoute)) (update : Bool) :
    Except GoError (Option (List SRoute)) :=
  match routes with
  | none => if update then .ok none else .error missing
  | some routes => (SRoutes.validate net routes).map some

/-- What the collaborators of `ValidateCreateData` answer. -/
structure CreateEnv where
  missingRoutes : GoError
  vpc : Except GoError SVpc
  region : SVpc → Except GoError String
  unmarshalError : Option GoError
  validateVirtual : Option GoError

/-- `vpc.GetRegion()` in `ValidateCreateData`: the region's id, or the conflict error that
replaces the driver's. -/
def CreateEnv.vpcRegion (env : CreateEnv) (vpc : SVpc) : Except GoError String :=
  match env.region vpc with
  | .error _ => .error ⟨"failed getting region of vpc " ++ vpc.name ++ "(" ++ vpc.id ++ ")"⟩
  | .ok regionId => .ok regionId

/-- This is `SRouteTableManager.ValidateCreateData`. -/
def validateCreateData (net : NetIPv6) (env : CreateEnv) (routes : Option (List SRoute)) :
    Except GoError (Option (List SRoute) × SVpc × String) := do
  let routes ← validateRoutes net env.missingRoutes routes false
  let vpc ← env.vpc
  let regionId ← env.vpcRegion vpc
  match env.unmarshalError with
  | some err => .error ⟨"unmarshal VirtualResourceCreateInput fail " ++ err.msg⟩
  | none =>
      match env.validateVirtual with
      | some err => .error err
      | none => pure (routes, vpc, regionId)

/-- A create request: `ValidateCreateData`, then the framework's insert, which may fail. -/
def createRouteTable (net : NetIPv6) (env : CreateEnv) (routes : Option (List SRoute)) (row : SRouteTable)
    (insertError : Option GoError) (store : RouteTableStore) : RouteTableStore × Option GoError :=
  match validateCreateData net env routes with
  | .error err => (store, some err)
  | .ok (routes, vpc, _) =>
      match insertError with
      | some err => (store, some err)
      | none => (store.insert { row with vpcId := vpc.id, routes := routes.getD [] }, none)

/-- This is `SRouteTable.ValidateUpdateData`; `validateVirtual` is the answer of
`SVirtualResourceBase.ValidateUpdateData`. -/
def SRouteTable.validateUpdateData (net : NetIPv6) (missing : GoError) (routes : Option (List SRoute))
    (validateVirtual : Option GoError) : Except GoError (Option (List SRoute)) := do
  let routes ← validateRoutes net missing routes true
  match validateVirtual with
  | some err => .error err
  | none => pure routes

/-- This is `SRouteTable.PerformPurge`, up to the delete. -/
def SRouteTable.performPurge (deleteCondition : Option GoError) (provider : Option Bool)
    (realDelete : Option GoError) : Option GoError :=
  match deleteCondition with
  | some err => some err
  | none =>
      if provider = some true then some ⟨"Cannot purge route_table on enabled cloud provider"⟩
      else realDelete

/-- A request on one stored route table, with the answers of its collaborators. -/
inductive RowRequest where
  | update (missing : GoError) (routes : Option (List SRoute)) (validateVirtual updateError : Option GoError)
  | addRoutes (adds : List SRoute) (updateError : Option GoError)
  | delRoutes (cidrs : Except GoError (List String)) (updateError : Option GoError)
  | purge (deleteCondition : Option GoError) (provider : Option Bool) (realDelete : Option GoError)

/-- The row a route edit wrote, stored unless the edit failed. -/
def writeBack (store : RouteTableStore) (edited : SRouteTable × Option GoError) : RouteTableStore × Option GoError :=
  match edited.2 with
  | some err => (store, some err)
  | none => (store.update edited.1, none)

/-- A request on the stored route table `rt`: the table after it, and the error it returns. -/
def RowRequest.run (net : NetIPv6) (rt : SRouteTable) (store : RouteTableStore) :
    RowRequest → RouteTableStore × Option GoError
  | .update missing routes validateVirtual updateError =>
      match SRouteTable.validateUpdateData net missing routes validateVirtual, updateError with
      | .error err, _ => (store, some err)
      | .ok _, some err => (store, some err)
      | .ok routes, none => (store.update { rt with routes := routes.getD rt.routes }, none)
  | .addRoutes adds updateError => writeBack store (rt.performAddRoutes net adds updateError)
  | .delRoutes cidrs updateError => writeBack store (rt.performDelRoutes cidrs updateError)
  | .purge deleteCondition provider realDelete =>
      match SRouteTable.performPurge deleteCondition provider realDelete with
      | some err => (store, some err)
      | none => (store.delete rt, none)

/-- A cloud table whose routes, when the driver returns them, have distinct Cidrs. -/
def CloudRoutesDistinct (cloudRouteTable : ICloudRouteTable) : Prop :=
  ∀ routes, cloudRoutes cloudRouteTable = .ok routes → (routes.map SRoute.cidr).Nodup

namespace RouteTableStore

/-- One change of the table: a create, a request on a stored table, or a sync pass. -/
inductive Step (net : NetIPv6) : RouteTableStore → RouteTableStore → Prop
  | create {store : RouteTableStore} (env : CreateEnv) (routes : Option (List SRoute)) (row : SRouteTable)
      (insertError : Option GoError) : Step net store (createRouteTable net env routes row insertError store).1
  | request {store : RouteTableStore} {rt : SRouteTable} (stored : rt ∈ store.rows) (request : RowRequest) :
      Step net store (request.run net rt store).1
  | sync {store : RouteTableStore} (env : SyncEnv) (userCred : TokenCredential) (vpc : SVpc)
      (cloudRouteTables : List ICloudRouteTable) (reported : ∀ c ∈ cloudRouteTables, CloudRoutesDistinct c) :
      Step net store (syncRouteTables env userCred vpc cloudRouteTables store).store

/-- The tables that runs of requests and sync passes reach from the empty table. -/
inductive Reachable (net : NetIPv6) : RouteTableStore → Prop
  | empty : Reachable net empty
  | step {store next : RouteTableStore} : Reachable net store → Step net store next → Reachable net next

/-- No route table holds two routes with one Cidr. -/
def RoutesDistinct (store : RouteTableStore) : Prop :=
  ∀ rt ∈ store.rows, (rt.routes.map SRoute.cidr).Nodup

end RouteTableStore

/-! ### What each request leaves -/

/-- The routes `validateRoutes` accepts are those `SRoutes.Validate` leaves, so no Cidr is
among them twice. -/
theorem validateRoutes_distinct {net : NetIPv6} {missing : GoError} {routes : Option (List SRoute)}
    {update : Bool} {validated : Option (List SRoute)} (accepted : validateRoutes net missing routes update = .ok validated) :
    ∀ checked ∈ validated, (checked.map SRoute.cidr).Nodup := by
  intro checked found
  cases routes with
  | none =>
      cases update <;> simp [validateRoutes] at accepted
      subst accepted
      simp at found
  | some routes =>
      revert accepted
      simp only [validateRoutes, Except.map]
      split <;> intro accepted
      · cases accepted
      · rename_i valid validated
        cases accepted
        cases Option.mem_def.mp found
        exact (SRoutes.validate_ok validated).2

/-- `ValidateCreateData` succeeds exactly when every check it makes passes, and returns what
they found. -/
theorem validateCreateData_ok {net : NetIPv6} {env : CreateEnv} {routes : Option (List SRoute)}
    {result : Option (List SRoute) × SVpc × String} (ok : validateCreateData net env routes = .ok result) :
    validateRoutes net env.missingRoutes routes false = .ok result.1 ∧ env.vpc = .ok result.2.1 ∧
      env.region result.2.1 = .ok result.2.2 ∧ env.unmarshalError = none ∧ env.validateVirtual = none := by
  obtain ⟨validated, routesOk, ok⟩ := (except_bind_eq_ok _ _ _).mp ok
  obtain ⟨vpc, vpcOk, ok⟩ := (except_bind_eq_ok _ _ _).mp ok
  obtain ⟨regionId, regionOk, ok⟩ := (except_bind_eq_ok _ _ _).mp ok
  have regionFound : env.region vpc = .ok regionId := by
    revert regionOk
    unfold CreateEnv.vpcRegion
    split <;> intro regionOk <;> cases regionOk
    assumption
  revert ok
  rcases env.unmarshalError with _ | err
  · rcases env.validateVirtual with _ | err
    · rintro ⟨⟩
      exact ⟨routesOk, vpcOk, regionFound, rfl, rfl⟩
    · rintro ⟨⟩
  · rintro ⟨⟩

/-- `ValidateUpdateData` succeeds exactly when the routes and the base checks pass. -/
theorem SRouteTable.validateUpdateData_ok {net : NetIPv6} {missing : GoError} {routes : Option (List SRoute)}
    {validateVirtual : Option GoError} {validated : Option (List SRoute)}
    (ok : SRouteTable.validateUpdateData net missing routes validateVirtual = .ok validated) :
    validateRoutes net missing routes true = .ok validated ∧ validateVirtual = none := by
  obtain ⟨checked, accepted, rest⟩ := (except_bind_eq_ok _ _ _).mp ok
  revert rest
  cases validateVirtual
  · rintro ⟨⟩
    exact ⟨accepted, rfl⟩
  · rintro ⟨⟩

/-- The loop of `PerformAddRoutes` keeps the Cidrs distinct, whatever it is given. -/
theorem addRoutes_nodup (adds : List SRoute) :
    ∀ {routes : List SRoute}, (routes.map SRoute.cidr).Nodup → ((addRoutes routes adds).map SRoute.cidr).Nodup := by
  induction adds with
  | nil => exact id
  | cons add adds ih =>
      intro routes distinct
      rw [addRoutes_cons]
      split_ifs with present
      · exact ih distinct
      · refine ih ?_
        rw [List.map_append, List.map_singleton, List.nodup_append]
        exact ⟨distinct, List.nodup_singleton _, List.disjoint_singleton.mpr present⟩

namespace RouteTableStore

variable {store : RouteTableStore}

theorem RoutesDistinct.insert (holds : store.RoutesDistinct) {row : SRouteTable}
    (distinct : (row.routes.map SRoute.cidr).Nodup) : (store.insert row).RoutesDistinct := by
  intro rt member
  rw [insert_rows, List.mem_append, List.mem_singleton] at member
  rcases member with old | rfl
  · exact holds rt old
  · exact distinct

theorem RoutesDistinct.update (holds : store.RoutesDistinct) {row : SRouteTable}
    (distinct : (row.routes.map SRoute.cidr).Nodup) : (store.update row).RoutesDistinct := by
  intro rt member
  rw [update_rows] at member
  obtain ⟨old, oldMember, rfl⟩ := List.mem_map.mp member
  split_ifs
  · exact distinct
  · exact holds old oldMember

theorem RoutesDistinct.delete (holds : store.RoutesDistinct) (row : SRouteTable) :
    (store.delete row).RoutesDistinct := fun rt member =>
  holds rt (List.mem_filter.mp (delete_rows store row ▸ member)).1

theorem RoutesDistinct.writeBack (holds : store.RoutesDistinct) {edited : SRouteTable × Option GoError}
    (distinct : (edited.1.routes.map SRoute.cidr).Nodup) : (writeBack store edited).1.RoutesDistinct := by
  unfold Compute.writeBack
  split
  · exact holds
  · exact holds.update distinct

end RouteTableStore

open RouteTableStore

theorem createRouteTable_routesDistinct (net : NetIPv6) (env : CreateEnv) (routes : Option (List SRoute))
    (row : SRouteTable) (insertError : Option GoError) {store : RouteTableStore} (holds : store.RoutesDistinct) :
    (createRouteTable net env routes row insertError store).1.RoutesDistinct := by
  unfold createRouteTable
  split
  · exact holds
  · rename_i validated vpc regionId checked
    cases insertError
    · refine holds.insert ?_
      cases found : validated with
      | none => exact List.nodup_nil
      | some routes => exact validateRoutes_distinct (validateCreateData_ok checked).1 routes found
    · exact holds

theorem RowRequest.run_routesDistinct (net : NetIPv6) {rt : SRouteTable} {store : RouteTableStore}
    (holds : store.RoutesDistinct) (stored : rt ∈ store.rows) :
    ∀ request : RowRequest, (request.run net rt store).1.RoutesDistinct
  | .update missing routes validateVirtual updateError => by
      dsimp only [RowRequest.run]
      split
      · exact holds
      · exact holds
      · rename_i validated checked
        refine holds.update ?_
        cases found : validated with
        | none => exact holds rt stored
        | some routes => exact validateRoutes_distinct (SRouteTable.validateUpdateData_ok checked).1 routes found
  | .addRoutes adds updateError => by
      refine holds.writeBack ?_
      unfold SRouteTable.performAddRoutes
      split
      · exact holds rt stored
      · split
        · exact holds rt stored
        · exact addRoutes_nodup _ (holds rt stored)
  | .delRoutes cidrs updateError => by
      refine holds.writeBack ?_
      unfold SRouteTable.performDelRoutes
      split
      · exact holds rt stored
      · split
        · exact holds rt stored
        · exact (holds rt stored).sublist ((delRoutes_sublist _ rt.routes).map SRoute.cidr)
  | .purge deleteCondition provider realDelete => by
      dsimp only [RowRequest.run]
      split
      · exact holds
      · exact holds.delete rt

/-- A create request that fails leaves the table as it was. -/
theorem createRouteTable_failed {net : NetIPv6} {env : CreateEnv} {routes : Option (List SRoute)}
    {row : SRouteTable} {insertError : Option GoError} {store : RouteTableStore}
    (failed : (createRouteTable net env routes row insertError store).2.isSome) :
    (createRouteTable net env routes row insertError store).1 = store := by
  revert failed
  unfold createRouteTable
  split
  · exact fun _ => rfl
  · cases insertError
    · exact fun failed => by cases failed
    · exact fun _ => rfl

/-- A request on a route table that fails leaves the table as it was. -/
theorem RowRequest.run_failed (net : NetIPv6) (rt : SRouteTable) (store : RouteTableStore) (request : RowRequest)
    (failed : (request.run net rt store).2.isSome) : (request.run net rt store).1 = store := by
  revert failed
  cases request <;> dsimp only [RowRequest.run, writeBack] <;> split <;>
    first | exact fun _ => rfl | exact fun failed => by cases failed

/-- After a sync pass every row is an old one or holds a cloud table's routes. -/
theorem mem_syncRouteTables_rows {env : SyncEnv} {userCred : TokenCredential} {vpc : SVpc}
    {cloudRouteTables : List ICloudRouteTable} {store : RouteTableStore} {row : SRouteTable}
    (member : row ∈ (syncRouteTables env userCred vpc cloudRouteTables store).store.rows) :
    row ∈ store.rows ∨ ∃ c ∈ cloudRouteTables, cloudRoutes c = .ok row.routes := by
  by_cases distinct : ((vpcRouteTables store vpc).map SRouteTable.externalId).Nodup ∧
      (cloudRouteTables.map ICloudRouteTable.globalId).Nodup
  · obtain ⟨insertedRows, rows, inserted⟩ := syncRouteTables_rows env userCred distinct.1 distinct.2
    rw [rows] at member
    rcases List.mem_append.mp member with kept | fromInsert
    · obtain ⟨old, keptMember, rfl⟩ := List.mem_map.mp kept
      have present := (List.mem_filter.mp keptMember).1
      rcases replaceAll_commonPairs_cases present with same | ⟨-, c, cloudMember, -, ok⟩
      · exact .inl (same.symm ▸ present)
      · exact .inr ⟨c, cloudMember, (SRouteTable.syncWithCloudRouteTable_ok ok).2.2.2.2⟩
    · obtain ⟨c, addedMember, related⟩ := exists_mem_of_forall₂ inserted row fromInsert
      exact .inr ⟨c, (List.mem_filter.mp (List.mem_filter.mp addedMember).1).1, (insertedRow_fields related).2.2.2⟩
  · simp only [syncRouteTables, compareSets, if_neg distinct] at member
    exact .inl member

theorem syncRouteTables_routesDistinct (env : SyncEnv) (userCred : TokenCredential) (vpc : SVpc)
    {cloudRouteTables : List ICloudRouteTable} (reported : ∀ c ∈ cloudRouteTables, CloudRoutesDistinct c)
    {store : RouteTableStore} (holds : store.RoutesDistinct) :
    (syncRouteTables env userCred vpc cloudRouteTables store).store.RoutesDistinct := fun row member =>
  match mem_syncRouteTables_rows member with
  | .inl old => holds row old
  | .inr ⟨c, cloudMember, fetched⟩ => reported c cloudMember row.routes fetched

/-- A sync pass inserts a cloud table's routes even when they repeat a Cidr. -/
theorem syncRouteTables_inserts_repeated_cidrs {env : SyncEnv} {userCred : TokenCredential} {vpc : SVpc}
    {cloudRouteTable : ICloudRouteTable} {store : RouteTableStore} {built : SRouteTable}
    (fresh : vpcRouteTables store vpc = []) (inserted : insertFromCloud env userCred vpc cloudRouteTable = .ok built)
    (repeated : ¬(built.routes.map SRoute.cidr).Nodup) :
    ¬(syncRouteTables env userCred vpc [cloudRouteTable] store).store.RoutesDistinct := by
  intro holds
  have localDistinct : ((vpcRouteTables store vpc).map SRouteTable.externalId).Nodup := by
    rw [fresh]
    exact List.nodup_nil
  have remoteDistinct : ([cloudRouteTable].map ICloudRouteTable.globalId).Nodup := List.nodup_singleton _
  obtain ⟨insertedRows, after, related⟩ := syncRouteTables_rows env userCred localDistinct remoteDistinct
  have added : (addedRouteTables vpc [cloudRouteTable] store).filter
      (fun c => (insertFromCloud env userCred vpc c).toBool) = [cloudRouteTable] := by
    simp [addedRouteTables, fresh, inserted, Except.toBool]
  rw [added, List.forall₂_cons_left_iff] at related
  obtain ⟨row, rest, ⟨built', ok, rowIs⟩, -, rfl⟩ := related
  cases inserted.symm.trans ok
  apply repeated
  have distinct := holds row (after ▸ List.mem_append_right _ (List.mem_cons_self _ _))
  rwa [rowIs] at distinct

/-- Every reachable table holds no route table with two routes of one Cidr. -/
theorem RouteTableStore.Reachable.routesDistinct {net : NetIPv6} {store : RouteTableStore}
    (reached : store.Reachable net) : store.RoutesDistinct := by
  induction reached with
  | empty => exact fun rt member => nomatch mem_rows.mp member
  | step _ step holds =>
      cases step with
      | create env routes row insertError => exact createRouteTable_routesDistinct net env routes row insertError holds
      | request stored request => exact RowRequest.run_routesDistinct net holds stored request
      | sync env userCred vpc cloudRouteTables reported => exact syncRouteTables_routesDistinct env userCred vpc reported holds

/-- A create environment in which every check passes, with the VPC `vpc-1` of region `region-1`. -/
def acceptingCreateEnv : CreateEnv := ⟨⟨"missing routes"⟩, .ok ⟨"vpc-1", "main"⟩, fun _ => .ok "region-1", none, none⟩

theorem RouteTableStore.Reachable.routesDistinct_afterCreate :
    (createRouteTable ipv4OnlyNet acceptingCreateEnv (some [⟨"custom", "10.0.0.0/24", "", ""⟩]) (routeTableWith [])
        none .empty).1.Reachable ipv4OnlyNet ∧
      (createRouteTable ipv4OnlyNet acceptingCreateEnv (some [⟨"custom", "10.0.0.0/24", "", ""⟩]) (routeTableWith [])
        none .empty).1.RoutesDistinct :=
  ⟨.step .empty (.create _ _ _ _), RouteTableStore.Reachable.routesDistinct (.step .empty (.create _ _ _ _))⟩

/-- A cloud table whose driver reports the route to `10.0.0.0/24` twice. -/
def repeatedCloudRouteTable : ICloudRouteTable :=
  ⟨"rtb-x", "rtbl-x", "custom", "", .ok [⟨"custom", "10.0.0.0/24", "", ""⟩, ⟨"custom", "10.0.0.0/24", "", ""⟩]⟩

theorem syncRouteTables_inserts_repeated_cidrs_twice :
    vpcRouteTables .empty sampleVpc = [] ∧
      insertFromCloud sampleEnv ⟨"p1", "d1"⟩ sampleVpc repeatedCloudRouteTable =
        .ok ⟨0, "rtbl-x", "vpc-1", "rtb-x", "custom",
          [⟨"custom", "10.0.0.0/24", "", ""⟩, ⟨"custom", "10.0.0.0/24", "", ""⟩], "", "p1", "d1"⟩ ∧
      ¬(syncRouteTables sampleEnv ⟨"p1", "d1"⟩ sampleVpc [repeatedCloudRouteTable] .empty).store.RoutesDistinct :=
  ⟨rfl, rfl, syncRouteTables_inserts_repeated_cidrs rfl rfl (by decide)⟩

end OneCloud.Compute
