import OneCloud.Compute.RouteTableStore
import Mathlib.Data.List.Forall2

/-
This file models `SRouteTableManager.SyncRouteTables`: the comparison of the VPC's route
tables with the cloud's, and the three loops that delete, update and insert.
-/

namespace OneCloud.Compute

/-- The three kinds of item that a sync pass counts. -/
inductive SyncCategory where
  | add
  | update
  | delete
  deriving DecidableEq, Repr

/-- Modelled from the spec: `compare.SyncResult`, the counts and error causes of one pass. -/
structure SyncResult where
  okCnt : SyncCategory → Nat
  errCnt : SyncCategory → Nat
  errors : List GoError

namespace SyncResult

/-- A fresh result, `compare.SyncResult{}`. -/
def empty : SyncResult := ⟨fun _ => 0, fun _ => 0, []⟩

/-- One item of a kind counted: `Add()` and the like with no error, `AddError(err)` with one. -/
def record (result : SyncResult) (category : SyncCategory) : Option GoError → SyncResult
  | none => { result with okCnt := Function.update result.okCnt category (result.okCnt category + 1) }
  | some err =>
      { result with errCnt := Function.update result.errCnt category (result.errCnt category + 1),
                    errors := result.errors ++ [err] }

/-- An error of the whole pass. -/
def error (result : SyncResult) (err : GoError) : SyncResult :=
  { result with errors := result.errors ++ [err] }

def addCnt (result : SyncResult) : Nat := result.okCnt .add
def addErrCnt (result : SyncResult) : Nat := result.errCnt .add
def updateCnt (result : SyncResult) : Nat := result.okCnt .update
def updateErrCnt (result : SyncResult) : Nat := result.errCnt .update
def delCnt (result : SyncResult) : Nat := result.okCnt .delete
def delErrCnt (result : SyncResult) : Nat := result.errCnt .delete

@[simp] theorem record_okCnt (result : SyncResult) (category kind : SyncCategory) (outcome : Option GoError) :
    (result.record category outcome).okCnt kind =
      result.okCnt kind + if kind = category ∧ outcome = none then 1 else 0 := by
  cases outcome <;> by_cases same : kind = category <;> simp [record, same, Function.update_apply]

@[simp] theorem record_errCnt (result : SyncResult) (category kind : SyncCategory) (outcome : Option GoError) :
    (result.record category outcome).errCnt kind =
      result.errCnt kind + if kind = category ∧ outcome.isSome then 1 else 0 := by
  cases outcome <;> by_cases same : kind = category <;> simp [record, same, Function.update_apply]

end SyncResult

/-- Modelled from the spec: the `AmbiguousKeyError` of the set comparator. -/
def ambiguousKeyError : GoError := ⟨"AmbiguousKeyError"⟩

/-- Modelled from the spec: the local and remote items with the same key, in local order. -/
def matchedPairs {α β : Type} (localKey : α → String) (remoteKey : β → String)
    (dbSet : List α) (extSet : List β) : List (α × β) :=
  dbSet.filterMap fun item => (extSet.find? fun ext => remoteKey ext == localKey item).map (item, ·)

/-- Modelled from the spec: `compare.CompareSets`, which refuses a key repeated on either side. -/
def compareSets {α β : Type} (localKey : α → String) (remoteKey : β → String)
    (dbSet : List α) (extSet : List β) : Except GoError (List α × List α × List β × List β) :=
  if (dbSet.map localKey).Nodup ∧ (extSet.map remoteKey).Nodup then
    let common := matchedPairs localKey remoteKey dbSet extSet
    .ok (dbSet.filter (fun item => !(extSet.map remoteKey).contains (localKey item)),
      common.map Prod.fst, common.map Prod.snd,
      extSet.filter (fun ext => !(dbSet.map localKey).contains (remoteKey ext)))
  else .error ambiguousKeyError

/-- One `for` loop of `SyncRouteTables`, counting each item as a success or an error. -/
def syncEach {α β γ : Type} (attempt : α → Except GoError β)
    (write : β → RouteTableStore → RouteTableStore × γ) (category : SyncCategory) :
    List α → RouteTableStore → SyncResult → RouteTableStore × SyncResult × List γ
  | [], store, result => (store, result, [])
  | item :: rest, store, result =>
      match attempt item with
      | .error err => syncEach attempt write category rest store (result.record category (some err))
      | .ok value =>
          let (store, kept) := write value store
          let (store, result, keptRest) :=
            syncEach attempt write category rest store (result.record category none)
          (store, result, kept :: keptRest)

/-- What `SyncRouteTables` returns, with the store it leaves. -/
structure SyncOutcome where
  store : RouteTableStore
  localRouteTables : List SRouteTable
  remoteRouteTables : List ICloudRouteTable
  syncResult : SyncResult

/-- The three loops of `SyncRouteTables` over the lists that `CompareSets` returned. -/
def syncRouteTableLoops (env : SyncEnv) (userCred : TokenCredential) (vpc : SVpc)
    (removed commondb : List SRouteTable) (commonext added : List ICloudRouteTable)
    (store : RouteTableStore) : SyncOutcome :=
  let removeLoop :=
    syncEach (SRouteTable.syncRemoveCloudRouteTable env)
      (fun routeTable store => (store.delete routeTable, ()))
      .delete removed store .empty
  let updateLoop :=
    syncEach (fun (pair : SRouteTable × ICloudRouteTable) =>
        (pair.1.syncWithCloudRouteTable env userCred vpc pair.2).map (·, pair.2))
      (fun synced store => (store.update synced.1, synced))
      .update (commondb.zip commonext) removeLoop.1 removeLoop.2.1
  let addLoop :=
    syncEach (fun cloudRouteTable =>
        (insertFromCloud env userCred vpc cloudRouteTable).map (·, cloudRouteTable))
      (fun built store => (store.insert built.1, ({ built.1 with id := store.nextId }, built.2)))
      .add added updateLoop.1 updateLoop.2.1
  let returned := updateLoop.2.2 ++ addLoop.2.2
  ⟨addLoop.1, returned.map Prod.fst, returned.map Prod.snd, addLoop.2.1⟩

/-- This is `SRouteTableManager.SyncRouteTables`; a failed comparison returns nil lists. -/
def syncRouteTables (env : SyncEnv) (userCred : TokenCredential) (vpc : SVpc)
    (cloudRouteTables : List ICloudRouteTable) (store : RouteTableStore) : SyncOutcome :=
  match compareSets SRouteTable.externalId ICloudRouteTable.globalId
      (vpcRouteTables store vpc) cloudRouteTables with
  | .error err => ⟨store, [], [], SyncResult.empty.error err⟩
  | .ok (removed, commondb, commonext, added) =>
      syncRouteTableLoops env userCred vpc removed commondb commonext added store

section SyncEach

variable {α β γ : Type} (attempt : α → Except GoError β)
  (write : β → RouteTableStore → RouteTableStore × γ) (category : SyncCategory)

/-- A loop counts, under its own kind, exactly the items whose attempt succeeds. -/
theorem syncEach_okCnt (kind : SyncCategory) (items : List α) (store : RouteTableStore)
    (result : SyncResult) :
    (syncEach attempt write category items store result).2.1.okCnt kind =
      result.okCnt kind + if kind = category then items.countP (fun item => (attempt item).toBool) else 0 := by
  induction items generalizing store result with
  | nil => simp [syncEach]
  | cons item rest ih =>
      rcases outcome : attempt item with err | value <;>
        simp only [syncEach, outcome, ih, SyncResult.record_okCnt] <;>
        by_cases same : kind = category <;> simp [same, outcome, List.countP_cons, Except.toBool]; omega

/-- A loop counts, under its own kind, exactly the items whose attempt fails as errors. -/
theorem syncEach_errCnt (kind : SyncCategory) (items : List α) (store : RouteTableStore)
    (result : SyncResult) :
    (syncEach attempt write category items store result).2.1.errCnt kind =
      result.errCnt kind + if kind = category then items.countP (fun item => !(attempt item).toBool) else 0 := by
  induction items generalizing store result with
  | nil => simp [syncEach]
  | cons item rest ih =>
      rcases outcome : attempt item with err | value <;>
        simp only [syncEach, outcome, ih, SyncResult.record_errCnt] <;>
        by_cases same : kind = category <;> simp [same, outcome, List.countP_cons, Except.toBool]; omega

/-- What a loop keeps comes from the items whose attempt succeeds, one each and in order. -/
theorem syncEach_kept (items : List α) (store : RouteTableStore) (result : SyncResult) :
    List.Forall₂ (fun item kept => ∃ value, attempt item = .ok value ∧ ∃ before, (write value before).2 = kept)
      (items.filter fun item => (attempt item).toBool) (syncEach attempt write category items store result).2.2 := by
  induction items generalizing store result with
  | nil => simp [syncEach]
  | cons item rest ih =>
      rcases outcome : attempt item with err | value
      · simpa [syncEach, outcome, Except.toBool] using ih store _
      · simp only [syncEach, outcome, List.filter_cons, Except.toBool, if_true]
        exact .cons ⟨value, outcome, store, rfl⟩ (ih _ _)

/-- A loop writes the store once for each item whose attempt succeeds, in order. -/
theorem syncEach_store (items : List α) (store : RouteTableStore) (result : SyncResult) :
    (syncEach attempt write category items store result).1 =
      (items.filterMap fun item => (attempt item).toOption).foldl (fun store value => (write value store).1) store := by
  induction items generalizing store result with
  | nil => simp [syncEach]
  | cons item rest ih =>
      rcases outcome : attempt item with err | value <;>
        simp [syncEach, outcome, ih, Except.toOption]

end SyncEach

@[simp] theorem toBool_map_pair {α β : Type} (outcome : Except GoError α) (second : β) :
    (outcome.map (·, second)).toBool = outcome.toBool := by
  cases outcome <;> rfl

theorem countP_add_countP_not {α : Type} (holds : α → Bool) (items : List α) :
    items.countP holds + items.countP (fun item => !holds item) = items.length := by
  simpa using (List.length_eq_countP_add_countP holds items).symm

/-- `routeTable` is the row a pass returns for `cloudRouteTable`: written back or inserted. -/
def SyncedFrom (env : SyncEnv) (userCred : TokenCredential) (vpc : SVpc)
    (commondb : List SRouteTable) (commonext added : List ICloudRouteTable)
    (routeTable : SRouteTable) (cloudRouteTable : ICloudRouteTable) : Prop :=
  (∃ self, (self, cloudRouteTable) ∈ commondb.zip commonext ∧
      self.syncWithCloudRouteTable env userCred vpc cloudRouteTable = .ok routeTable) ∨
    (cloudRouteTable ∈ added ∧ ∃ built, insertFromCloud env userCred vpc cloudRouteTable = .ok built ∧
      routeTable = { built with id := routeTable.id })

theorem map_eq_of_forall₂ {α β γ : Type} {left : List α} {right : List β} {f : α → γ} {g : β → γ}
    (related : List.Forall₂ (fun a b => f a = g b) left right) : left.map f = right.map g := by
  have same : List.Forall₂ (· = ·) (left.map f) (right.map g) :=
    List.forall₂_map_left_iff.mpr (List.forall₂_map_right_iff.mpr related)
  rwa [List.forall₂_eq_eq_eq] at same

theorem map_pair_eq_ok {α β : Type} {outcome : Except GoError α} {second : β} {value : α × β} :
    outcome.map (·, second) = .ok value ↔ outcome = .ok value.1 ∧ value.2 = second := by
  cases outcome <;> cases value <;> simp [Except.map, eq_comm]

/-- The update loop keeps, in order, each common pair whose write-back succeeded. -/
theorem updateLoop_kept (env : SyncEnv) (userCred : TokenCredential) (vpc : SVpc)
    (pairs : List (SRouteTable × ICloudRouteTable)) (store : RouteTableStore) (result : SyncResult) :
    List.Forall₂ (fun pair kept =>
        pair.1.syncWithCloudRouteTable env userCred vpc pair.2 = .ok kept.1 ∧ pair.2 = kept.2)
      (pairs.filter fun pair => (pair.1.syncWithCloudRouteTable env userCred vpc pair.2).toBool)
      (syncEach (fun (pair : SRouteTable × ICloudRouteTable) =>
          (pair.1.syncWithCloudRouteTable env userCred vpc pair.2).map (·, pair.2))
        (fun synced store => (store.update synced.1, synced)) .update pairs store result).2.2 := by
  have kept := syncEach_kept (fun (pair : SRouteTable × ICloudRouteTable) =>
      (pair.1.syncWithCloudRouteTable env userCred vpc pair.2).map (·, pair.2))
    (fun synced store => (store.update synced.1, synced)) .update pairs store result
  simp only [toBool_map_pair] at kept
  refine kept.imp ?_
  rintro pair kept ⟨value, attempted, before, rfl⟩
  exact (map_pair_eq_ok.mp attempted).imp_right Eq.symm

/-- The insert loop keeps, in order, each cloud table whose insert succeeded. -/
theorem addLoop_kept (env : SyncEnv) (userCred : TokenCredential) (vpc : SVpc)
    (added : List ICloudRouteTable) (store : RouteTableStore) (result : SyncResult) :
    List.Forall₂ (fun cloudRouteTable kept => cloudRouteTable = kept.2 ∧
        ∃ built, insertFromCloud env userCred vpc cloudRouteTable = .ok built ∧
          kept.1 = { built with id := kept.1.id })
      (added.filter fun cloudRouteTable => (insertFromCloud env userCred vpc cloudRouteTable).toBool)
      (syncEach (fun cloudRouteTable =>
          (insertFromCloud env userCred vpc cloudRouteTable).map (·, cloudRouteTable))
        (fun built store => (store.insert built.1, ({ built.1 with id := store.nextId }, built.2)))
        .add added store result).2.2 := by
  have kept := syncEach_kept (fun cloudRouteTable =>
      (insertFromCloud env userCred vpc cloudRouteTable).map (·, cloudRouteTable))
    (fun built store => (store.insert built.1, ({ built.1 with id := store.nextId }, built.2)))
    .add added store result
  simp only [toBool_map_pair] at kept
  refine kept.imp ?_
  rintro cloudRouteTable kept ⟨value, attempted, before, rfl⟩
  obtain ⟨built, second⟩ := value
  obtain ⟨inserted, rfl⟩ := map_pair_eq_ok.mp attempted
  exact ⟨rfl, built, inserted, rfl⟩

/-- The update loop returns the cloud side of the pairs it wrote back, in order. -/
theorem updateLoop_remote (env : SyncEnv) (userCred : TokenCredential) (vpc : SVpc)
    (pairs : List (SRouteTable × ICloudRouteTable)) (store : RouteTableStore) (result : SyncResult) :
    (syncEach (fun (pair : SRouteTable × ICloudRouteTable) =>
          (pair.1.syncWithCloudRouteTable env userCred vpc pair.2).map (·, pair.2))
        (fun synced store => (store.update synced.1, synced)) .update pairs store result).2.2.map Prod.snd =
      (pairs.filter fun pair => (pair.1.syncWithCloudRouteTable env userCred vpc pair.2).toBool).map Prod.snd :=
  (map_eq_of_forall₂ ((updateLoop_kept env userCred vpc pairs store result).imp
    fun _ _ related => related.2)).symm

/-- The insert loop returns the cloud tables it inserted, in order. -/
theorem addLoop_remote (env : SyncEnv) (userCred : TokenCredential) (vpc : SVpc)
    (added : List ICloudRouteTable) (store : RouteTableStore) (result : SyncResult) :
    (syncEach (fun cloudRouteTable =>
          (insertFromCloud env userCred vpc cloudRouteTable).map (·, cloudRouteTable))
        (fun built store => (store.insert built.1, ({ built.1 with id := store.nextId }, built.2)))
        .add added store result).2.2.map Prod.snd =
      added.filter fun cloudRouteTable => (insertFromCloud env userCred vpc cloudRouteTable).toBool := by
  simpa using (map_eq_of_forall₂ ((addLoop_kept env userCred vpc added store result).imp
    fun _ _ related => related.1)).symm

/-- Every item of every loop is counted once, and the returned lists pair rows with cloud tables. -/
theorem syncRouteTableLoops_accounts (env : SyncEnv) (userCred : TokenCredential) (vpc : SVpc)
    (removed commondb : List SRouteTable) (commonext added : List ICloudRouteTable)
    (sameLength : commondb.length = commonext.length) (store : RouteTableStore) :
    let outcome := syncRouteTableLoops env userCred vpc removed commondb commonext added store
    let deleted := fun routeTable : SRouteTable => (routeTable.syncRemoveCloudRouteTable env).toBool
    let synced := fun pair : SRouteTable × ICloudRouteTable =>
      (pair.1.syncWithCloudRouteTable env userCred vpc pair.2).toBool
    let inserted := fun cloudRouteTable => (insertFromCloud env userCred vpc cloudRouteTable).toBool
    outcome.syncResult.delCnt = removed.countP deleted ∧
      outcome.syncResult.delErrCnt = removed.countP (fun routeTable => !deleted routeTable) ∧
      outcome.syncResult.delCnt + outcome.syncResult.delErrCnt = removed.length ∧
      outcome.syncResult.updateCnt = (commondb.zip commonext).countP synced ∧
      outcome.syncResult.updateErrCnt = (commondb.zip commonext).countP (fun pair => !synced pair) ∧
      outcome.syncResult.updateCnt + outcome.syncResult.updateErrCnt = commondb.length ∧
      outcome.syncResult.addCnt = added.countP inserted ∧
      outcome.syncResult.addErrCnt = added.countP (fun cloudRouteTable => !inserted cloudRouteTable) ∧
      outcome.syncResult.addCnt + outcome.syncResult.addErrCnt = added.length ∧
      outcome.remoteRouteTables =
        ((commondb.zip commonext).filter synced).map Prod.snd ++ added.filter inserted ∧
      outcome.localRouteTables.length = outcome.syncResult.updateCnt + outcome.syncResult.addCnt ∧
      List.Forall₂ (SyncedFrom env userCred vpc commondb commonext added)
        outcome.localRouteTables outcome.remoteRouteTables := by
  intro outcome deleted synced inserted
  have pairsLength : (commondb.zip commonext).length = commondb.length := by simp [sameLength]
  have remote : outcome.remoteRouteTables =
      ((commondb.zip commonext).filter synced).map Prod.snd ++ added.filter inserted := by
    simp only [outcome, syncRouteTableLoops, List.map_append, updateLoop_remote, addLoop_remote]
  have pairing : List.Forall₂ (SyncedFrom env userCred vpc commondb commonext added)
      outcome.localRouteTables outcome.remoteRouteTables := by
    simp only [outcome, syncRouteTableLoops]
    rw [List.forall₂_map_left_iff, List.forall₂_map_right_iff, List.forall₂_same]
    intro kept member
    rcases List.mem_append.mp member with fromUpdate | fromAdd
    · obtain ⟨pair, member, written, same⟩ := exists_mem_of_forall₂ (updateLoop_kept ..) kept fromUpdate
      rw [← same]
      exact .inl ⟨pair.1, (List.mem_filter.mp member).1, written⟩
    · obtain ⟨cloudRouteTable, member, rfl, built⟩ := exists_mem_of_forall₂ (addLoop_kept ..) kept fromAdd
      exact .inr ⟨(List.mem_filter.mp member).1, built⟩
  have okCnt (kind : SyncCategory) : outcome.syncResult.okCnt kind =
      (if kind = .delete then removed.countP deleted else 0) +
        (if kind = .update then (commondb.zip commonext).countP synced else 0) +
        (if kind = .add then added.countP inserted else 0) := by
    simp [outcome, syncRouteTableLoops, syncEach_okCnt, SyncResult.empty, deleted, synced, inserted]
  have errCnt (kind : SyncCategory) : outcome.syncResult.errCnt kind =
      (if kind = .delete then removed.countP (fun routeTable => !deleted routeTable) else 0) +
        (if kind = .update then (commondb.zip commonext).countP (fun pair => !synced pair) else 0) +
        (if kind = .add then added.countP (fun cloudRouteTable => !inserted cloudRouteTable) else 0) := by
    simp [outcome, syncRouteTableLoops, syncEach_errCnt, SyncResult.empty, deleted, synced, inserted]
  refine ⟨by simp [SyncResult.delCnt, okCnt], by simp [SyncResult.delErrCnt, errCnt], ?_,
    by simp [SyncResult.updateCnt, okCnt], by simp [SyncResult.updateErrCnt, errCnt], ?_,
    by simp [SyncResult.addCnt, okCnt], by simp [SyncResult.addErrCnt, errCnt], ?_, remote, ?_, pairing⟩
  · simp [SyncResult.delCnt, SyncResult.delErrCnt, okCnt, errCnt, countP_add_countP_not]
  · simp [SyncResult.updateCnt, SyncResult.updateErrCnt, okCnt, errCnt, countP_add_countP_not, pairsLength]
  · simp [SyncResult.addCnt, SyncResult.addErrCnt, okCnt, errCnt, countP_add_countP_not]
  · rw [pairing.length_eq, remote]
    simp [SyncResult.updateCnt, SyncResult.addCnt, okCnt, List.countP_eq_length_filter]

theorem syncRouteTableLoops_accounts_allLoops :
    let env : SyncEnv := ⟨fun _ => none, fun name => .ok name, fun _ => none, fun _ => none⟩
    let stored (externalId : String) : SRouteTable :=
      ⟨0, "rtbl-" ++ externalId, "vpc-1", externalId, "system", [], "", "p1", "d1"⟩
    let cloud (globalId : String) : ICloudRouteTable := ⟨globalId, "rtbl-" ++ globalId, "custom", "", .ok []⟩
    let outcome := syncRouteTableLoops env ⟨"p1", "d1"⟩ ⟨"vpc-1", "main"⟩ [stored "A"] [stored "B"] [cloud "B"]
      [cloud "C"] ((RouteTableStore.empty.insert (stored "A")).insert (stored "B"))
    [stored "B"].length = [cloud "B"].length ∧ outcome.syncResult.delCnt = 1 ∧ outcome.syncResult.updateCnt = 1 ∧
      outcome.syncResult.addCnt = 1 ∧ outcome.remoteRouteTables.map ICloudRouteTable.globalId = ["B", "C"] := by
  intro env stored cloud outcome
  obtain ⟨deleted, -, -, updated, -, -, added, -, -, remote, -⟩ :=
    syncRouteTableLoops_accounts env ⟨"p1", "d1"⟩ ⟨"vpc-1", "main"⟩ [stored "A"] [stored "B"] [cloud "B"] [cloud "C"]
      rfl ((RouteTableStore.empty.insert (stored "A")).insert (stored "B"))
  exact ⟨rfl, deleted.trans (by decide), updated.trans (by decide), added.trans (by decide),
    (congrArg (List.map ICloudRouteTable.globalId) remote).trans (by decide)⟩

end OneCloud.Compute
