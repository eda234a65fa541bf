import OneCloud.Compute.RouteTableSync

/-
This file follows the rows of the route-table table through the three loops of
`SyncRouteTables` and shows where a pass leaves the VPC's route tables.
-/

namespace OneCloud.Compute

/-- A written-back row takes the place of the row with its id. -/
def replaceRow (written row : SRouteTable) : SRouteTable :=
  if row.id = written.id then written else row

/-- A row after all the write-backs of a loop, in order. -/
def replaceAll (written : List SRouteTable) (row : SRouteTable) : SRouteTable :=
  written.foldl (fun row next => replaceRow next row) row

@[simp] theorem replaceAll_nil (row : SRouteTable) : replaceAll [] row = row := rfl

@[simp] theorem replaceAll_cons (first : SRouteTable) (rest : List SRouteTable) (row : SRouteTable) :
    replaceAll (first :: rest) row = replaceAll rest (replaceRow first row) := rfl

theorem replaceAll_of_forall_ne {written : List SRouteTable} {row : SRouteTable}
    (untouched : ∀ next ∈ written, next.id ≠ row.id) : replaceAll written row = row := by
  induction written with
  | nil => rfl
  | cons next rest ih =>
      have differs : row.id ≠ next.id := Ne.symm (untouched next (List.mem_cons_self _ _))
      simp only [replaceAll_cons, replaceRow, differs, if_false]
      exact ih fun other member => untouched other (List.mem_cons_of_mem _ member)

/-- A row whose every write-back is `target` ends as `target` once written back. -/
theorem replaceAll_of_agree {written : List SRouteTable} {row target : SRouteTable}
    (agree : ∀ next ∈ written, next.id = row.id → next = target) (sameId : target.id = row.id) :
    replaceAll written row = if target ∈ written then target else row := by
  induction written generalizing row with
  | nil => simp
  | cons first rest ih =>
      have restAgree (row' : SRouteTable) (sameId' : target.id = row'.id) :
          ∀ next ∈ rest, next.id = row'.id → next = target := fun next member same =>
        agree next (List.mem_cons_of_mem _ member) (same.trans (sameId'.symm.trans sameId))
      simp only [replaceAll_cons, replaceRow, List.mem_cons]
      by_cases hit : row.id = first.id
      · have first_eq : first = target := agree first (List.mem_cons_self _ _) hit.symm
        rw [if_pos hit, first_eq, ih (restAgree target rfl) rfl]
        simp
      · have differs : target ≠ first := fun same => hit (sameId.symm.trans (congrArg _ same))
        rw [if_neg hit, ih (restAgree row sameId) sameId]
        simp [differs]

namespace RouteTableStore

theorem foldl_delete_rows (deleted : List SRouteTable) (store : RouteTableStore) :
    (deleted.foldl (fun store routeTable => store.delete routeTable) store).rows =
      store.rows.filter fun row => deleted.all fun routeTable => row.id != routeTable.id := by
  induction deleted generalizing store with
  | nil => simp
  | cons first rest ih =>
      simp only [List.foldl_cons, ih, delete_rows, List.filter_filter, List.all_cons]
      congr 1
      funext row
      exact Bool.and_comm _ _

theorem all_id_ne_iff {store : RouteTableStore} {gone : List SRouteTable} {row : SRouteTable}
    (stored : ∀ routeTable ∈ gone, routeTable ∈ store.rows) (present : row ∈ store.rows) :
    (gone.all fun routeTable => row.id != routeTable.id) = true ↔ row ∉ gone := by
  simp only [List.all_eq_true, bne_iff_ne, ne_eq]
  constructor
  · exact fun apart member => apart row member rfl
  · intro absent routeTable member same
    exact absent (eq_of_mem_rows present (stored routeTable member) same ▸ member)

theorem foldl_update_rows (written : List SRouteTable) (store : RouteTableStore) :
    (written.foldl (fun store routeTable => store.update routeTable) store).rows =
      store.rows.map (replaceAll written) := by
  induction written generalizing store with
  | nil => exact (List.map_id _).symm
  | cons first rest ih =>
      simp only [List.foldl_cons, ih, update_rows, List.map_map]
      rfl

end RouteTableStore

@[simp] theorem toOption_eq_some {α : Type} {outcome : Except GoError α} {value : α} :
    outcome.toOption = some value ↔ outcome = .ok value := by
  cases outcome <;> simp [Except.toOption]

@[simp] theorem toOption_map_pair_fst {α β : Type} (outcome : Except GoError α) (second : β) :
    ((outcome.map (·, second)).toOption).map Prod.fst = outcome.toOption := by
  cases outcome <;> rfl

/-- The route tables that the delete loop removes: those whose delete succeeds. -/
def deletedRows (env : SyncEnv) (removed : List SRouteTable) : List SRouteTable :=
  removed.filter fun routeTable => (env.deleteError routeTable).isNone

/-- The rows that the update loop writes back, in order: the successful results of
`SyncWithCloudRouteTable`. -/
def writtenRows (env : SyncEnv) (userCred : TokenCredential) (vpc : SVpc)
    (pairs : List (SRouteTable × ICloudRouteTable)) : List SRouteTable :=
  pairs.filterMap fun pair => (pair.1.syncWithCloudRouteTable env userCred vpc pair.2).toOption

theorem mem_writtenRows {env : SyncEnv} {userCred : TokenCredential} {vpc : SVpc}
    {pairs : List (SRouteTable × ICloudRouteTable)} {written : SRouteTable} :
    written ∈ writtenRows env userCred vpc pairs ↔
      ∃ pair ∈ pairs, pair.1.syncWithCloudRouteTable env userCred vpc pair.2 = .ok written := by
  simp [writtenRows]

/-- The delete loop removes exactly the route tables whose delete succeeds. -/
theorem removeLoop_rows (env : SyncEnv) (removed : List SRouteTable) (store : RouteTableStore)
    (result : SyncResult) :
    (syncEach (SRouteTable.syncRemoveCloudRouteTable env) (fun routeTable store => (store.delete routeTable, ()))
        .delete removed store result).1.rows =
      store.rows.filter fun row => (deletedRows env removed).all fun gone => row.id != gone.id := by
  have succeeded : (removed.filterMap fun routeTable => (routeTable.syncRemoveCloudRouteTable env).toOption) =
      deletedRows env removed := by
    rw [deletedRows, ← List.filterMap_eq_filter]
    refine List.filterMap_congr fun routeTable _ => ?_
    cases failed : env.deleteError routeTable <;>
      simp [SRouteTable.syncRemoveCloudRouteTable, failed, Option.guard, Except.toOption]
  rw [syncEach_store, succeeded]
  exact RouteTableStore.foldl_delete_rows _ _

/-- The update loop replaces each row by its last write-back. -/
theorem updateLoop_rows (env : SyncEnv) (userCred : TokenCredential) (vpc : SVpc)
    (pairs : List (SRouteTable × ICloudRouteTable)) (store : RouteTableStore) (result : SyncResult) :
    (syncEach (fun (pair : SRouteTable × ICloudRouteTable) =>
          (pair.1.syncWithCloudRouteTable env userCred vpc pair.2).map (·, pair.2))
        (fun synced store => (store.update synced.1, synced)) .update pairs store result).1.rows =
      store.rows.map (replaceAll (writtenRows env userCred vpc pairs)) := by
  have written : writtenRows env userCred vpc pairs =
      (pairs.filterMap fun pair => ((pair.1.syncWithCloudRouteTable env userCred vpc pair.2).map
        (·, pair.2)).toOption).map Prod.fst := by
    simp only [writtenRows, List.map_filterMap, toOption_map_pair_fst]
  rw [syncEach_store, written, ← RouteTableStore.foldl_update_rows, List.foldl_map]

/-- The insert loop appends the rows it keeps, in order. -/
theorem insertLoop_rows {α β : Type} (attempt : α → Except GoError (SRouteTable × β))
    (items : List α) (store : RouteTableStore) (result : SyncResult) :
    let loop := syncEach attempt
      (fun built store => (store.insert built.1, ({ built.1 with id := store.nextId }, built.2)))
      .add items store result
    loop.1.rows = store.rows ++ loop.2.2.map Prod.fst := by
  induction items generalizing store result with
  | nil => simp [syncEach]
  | cons item rest ih =>
      rcases outcome : attempt item with err | value
      · simpa [syncEach, outcome] using ih store _
      · simp [syncEach, outcome, ih, RouteTableStore.insert_rows]

/-- After the three loops the table holds the kept rows, written back, then the inserted ones. -/
theorem syncRouteTableLoops_rows (env : SyncEnv) (userCred : TokenCredential) (vpc : SVpc)
    (removed commondb : List SRouteTable) (commonext added : List ICloudRouteTable)
    (store : RouteTableStore) :
    ∃ insertedRows : List SRouteTable,
      (syncRouteTableLoops env userCred vpc removed commondb commonext added store).store.rows =
        (store.rows.filter fun row => (deletedRows env removed).all fun gone => row.id != gone.id).map
          (replaceAll (writtenRows env userCred vpc (commondb.zip commonext))) ++ insertedRows ∧
      List.Forall₂ (fun cloudRouteTable row => ∃ built,
          insertFromCloud env userCred vpc cloudRouteTable = .ok built ∧ row = { built with id := row.id })
        (added.filter fun cloudRouteTable => (insertFromCloud env userCred vpc cloudRouteTable).toBool)
        insertedRows := by
  simp only [syncRouteTableLoops, insertLoop_rows, updateLoop_rows, removeLoop_rows]
  exact ⟨_, rfl, List.forall₂_map_right_iff.mpr ((addLoop_kept ..).imp fun _ _ kept => kept.2)⟩

section Matching

variable {α β : Type} {localKey : α → String} {remoteKey : β → String}

theorem mem_matchedPairs {dbSet : List α} {extSet : List β} {item : α} {ext : β} :
    (item, ext) ∈ matchedPairs localKey remoteKey dbSet extSet ↔
      item ∈ dbSet ∧ extSet.find? (fun other => remoteKey other == localKey item) = some ext := by
  simp only [matchedPairs, List.mem_filterMap, Option.map_eq_some', Prod.mk.injEq]
  constructor
  · rintro ⟨_, member, _, found, rfl, rfl⟩
    exact ⟨member, found⟩
  · rintro ⟨member, found⟩
    exact ⟨item, member, ext, found, rfl, rfl⟩

theorem mem_of_mem_matchedPairs {dbSet : List α} {extSet : List β} {item : α} {ext : β}
    (paired : (item, ext) ∈ matchedPairs localKey remoteKey dbSet extSet) :
    item ∈ dbSet ∧ ext ∈ extSet ∧ remoteKey ext = localKey item := by
  obtain ⟨member, found⟩ := mem_matchedPairs.mp paired
  exact ⟨member, List.mem_of_find?_eq_some found, by simpa using List.find?_some found⟩

theorem matchedPairs_functional {dbSet : List α} {extSet : List β} {item : α} {first second : β}
    (pairedFirst : (item, first) ∈ matchedPairs localKey remoteKey dbSet extSet)
    (pairedSecond : (item, second) ∈ matchedPairs localKey remoteKey dbSet extSet) : first = second :=
  Option.some.inj ((mem_matchedPairs.mp pairedFirst).2.symm.trans (mem_matchedPairs.mp pairedSecond).2)

theorem zip_map_fst_snd {pairs : List (α × β)} : (pairs.map Prod.fst).zip (pairs.map Prod.snd) = pairs := by
  simpa using List.zip_unzip pairs

end Matching

section Replace

variable {env : SyncEnv} {userCred : TokenCredential} {vpc : SVpc} {store : RouteTableStore}
  {pairs : List (SRouteTable × ICloudRouteTable)}

/-- A stored row written back from a pair ends as its write-back. -/
theorem replaceAll_writtenRows_of_ok (stored : ∀ pair ∈ pairs, pair.1 ∈ store.rows)
    (functional : ∀ row first second, (row, first) ∈ pairs → (row, second) ∈ pairs → first = second)
    {row synced : SRouteTable} {cloudRouteTable : ICloudRouteTable} (present : row ∈ store.rows)
    (paired : (row, cloudRouteTable) ∈ pairs)
    (ok : row.syncWithCloudRouteTable env userCred vpc cloudRouteTable = .ok synced) :
    replaceAll (writtenRows env userCred vpc pairs) row = synced := by
  have agree : ∀ next ∈ writtenRows env userCred vpc pairs, next.id = row.id → next = synced := by
    intro next member sameId
    obtain ⟨⟨self, other⟩, paired', ok'⟩ := mem_writtenRows.mp member
    have self_eq : self = row := RouteTableStore.eq_of_mem_rows (stored _ paired') present
      ((SRouteTable.syncWithCloudRouteTable_ok ok').1.symm.trans sameId)
    subst self_eq
    rw [functional _ _ _ paired' paired, ok] at ok'
    exact (Except.ok.inj ok').symm
  rw [replaceAll_of_agree agree (SRouteTable.syncWithCloudRouteTable_ok ok).1,
    if_pos (mem_writtenRows.mpr ⟨_, paired, ok⟩)]

/-- A stored row that no pair writes back is left as it is. -/
theorem replaceAll_writtenRows_of_not_ok (stored : ∀ pair ∈ pairs, pair.1 ∈ store.rows)
    {row : SRouteTable} (present : row ∈ store.rows)
    (notWritten : ∀ cloudRouteTable synced, (row, cloudRouteTable) ∈ pairs →
      row.syncWithCloudRouteTable env userCred vpc cloudRouteTable ≠ .ok synced) :
    replaceAll (writtenRows env userCred vpc pairs) row = row := by
  refine replaceAll_of_forall_ne fun next member sameId => ?_
  obtain ⟨⟨self, other⟩, paired, ok⟩ := mem_writtenRows.mp member
  have self_eq : self = row := RouteTableStore.eq_of_mem_rows (stored _ paired) present
    ((SRouteTable.syncWithCloudRouteTable_ok ok).1.symm.trans sameId)
  subst self_eq
  exact notWritten other next paired ok

end Replace

/-- A row inserted from a cloud table carries its VPC, global id, type and routes. -/
theorem insertedRow_fields {env : SyncEnv} {userCred : TokenCredential} {vpc : SVpc}
    {cloudRouteTable : ICloudRouteTable} {row : SRouteTable}
    (inserted : ∃ built, insertFromCloud env userCred vpc cloudRouteTable = .ok built ∧ row = { built with id := row.id }) :
    row.vpcId = vpc.id ∧ row.externalId = cloudRouteTable.globalId ∧ row.type = cloudRouteTable.type ∧
      cloudRoutes cloudRouteTable = .ok row.routes := by
  obtain ⟨built, ok, same⟩ := inserted
  have fields := insertFromCloud_ok ok
  rw [same]
  exact fields

section Pass

variable (env : SyncEnv) (userCred : TokenCredential) (vpc : SVpc)
  (cloudRouteTables : List ICloudRouteTable) (store : RouteTableStore)

/-- The pairs `CompareSets` matches: a route table and the cloud table of its external id. -/
def commonPairs : List (SRouteTable × ICloudRouteTable) :=
  matchedPairs SRouteTable.externalId ICloudRouteTable.globalId (vpcRouteTables store vpc) cloudRouteTables

/-- The route tables of the VPC that no cloud table matches, the `removed` of `CompareSets`. -/
def removedRouteTables : List SRouteTable :=
  (vpcRouteTables store vpc).filter fun routeTable =>
    !(cloudRouteTables.map ICloudRouteTable.globalId).contains routeTable.externalId

/-- The cloud tables that no route table of the VPC matches, the `added` of `CompareSets`. -/
def addedRouteTables : List ICloudRouteTable :=
  cloudRouteTables.filter fun cloudRouteTable =>
    !((vpcRouteTables store vpc).map SRouteTable.externalId).contains cloudRouteTable.globalId

variable {vpc cloudRouteTables store}

theorem commonPairs_stored : ∀ pair ∈ commonPairs vpc cloudRouteTables store, pair.1 ∈ store.rows := by
  rintro ⟨row, cloudRouteTable⟩ paired
  exact (List.mem_filter.mp (mem_matchedPairs.mp paired).1).1

theorem syncRouteTables_eq
    (localDistinct : ((vpcRouteTables store vpc).map SRouteTable.externalId).Nodup)
    (remoteDistinct : (cloudRouteTables.map ICloudRouteTable.globalId).Nodup) :
    syncRouteTables env userCred vpc cloudRouteTables store =
      syncRouteTableLoops env userCred vpc (removedRouteTables vpc cloudRouteTables store)
        ((commonPairs vpc cloudRouteTables store).map Prod.fst)
        ((commonPairs vpc cloudRouteTables store).map Prod.snd)
        (addedRouteTables vpc cloudRouteTables store) store := by
  simp only [syncRouteTables, compareSets, localDistinct, remoteDistinct, and_self, if_true]
  rfl

/-- A pass keeps each undeleted row, written back, followed by the inserted rows. -/
theorem syncRouteTables_rows
    (localDistinct : ((vpcRouteTables store vpc).map SRouteTable.externalId).Nodup)
    (remoteDistinct : (cloudRouteTables.map ICloudRouteTable.globalId).Nodup) :
    ∃ insertedRows : List SRouteTable,
      (syncRouteTables env userCred vpc cloudRouteTables store).store.rows =
        (store.rows.filter fun row => row ∉ deletedRows env (removedRouteTables vpc cloudRouteTables store)).map
          (replaceAll (writtenRows env userCred vpc (commonPairs vpc cloudRouteTables store))) ++ insertedRows ∧
      List.Forall₂ (fun cloudRouteTable row => ∃ built,
          insertFromCloud env userCred vpc cloudRouteTable = .ok built ∧ row = { built with id := row.id })
        ((addedRouteTables vpc cloudRouteTables store).filter fun cloudRouteTable =>
          (insertFromCloud env userCred vpc cloudRouteTable).toBool)
        insertedRows := by
  obtain ⟨insertedRows, rows, inserted⟩ := syncRouteTableLoops_rows env userCred vpc
    (removedRouteTables vpc cloudRouteTables store) ((commonPairs vpc cloudRouteTables store).map Prod.fst)
    ((commonPairs vpc cloudRouteTables store).map Prod.snd) (addedRouteTables vpc cloudRouteTables store) store
  refine ⟨insertedRows, ?_, inserted⟩
  rw [syncRouteTables_eq env userCred localDistinct remoteDistinct, rows, zip_map_fst_snd]
  congr 2
  refine List.filter_congr fun row present => ?_
  have stored : ∀ gone ∈ deletedRows env (removedRouteTables vpc cloudRouteTables store), gone ∈ store.rows :=
    fun gone member => (List.mem_filter.mp (List.mem_filter.mp (List.mem_filter.mp member).1).1).1
  exact Bool.eq_iff_iff.mpr ((RouteTableStore.all_id_ne_iff stored present).trans decide_eq_true_iff.symm)

end Pass

section Pass

variable {env : SyncEnv} {userCred : TokenCredential} {vpc : SVpc}
  {cloudRouteTables : List ICloudRouteTable} {store : RouteTableStore}

/-- A stored row stays as it is or is written back from its cloud table. -/
theorem replaceAll_commonPairs_cases {row : SRouteTable} (present : row ∈ store.rows) :
    replaceAll (writtenRows env userCred vpc (commonPairs vpc cloudRouteTables store)) row = row ∨
      row ∈ vpcRouteTables store vpc ∧ ∃ cloudRouteTable ∈ cloudRouteTables,
        cloudRouteTable.globalId = row.externalId ∧ row.syncWithCloudRouteTable env userCred vpc cloudRouteTable =
          .ok (replaceAll (writtenRows env userCred vpc (commonPairs vpc cloudRouteTables store)) row) := by
  by_cases written : ∃ cloudRouteTable synced, (row, cloudRouteTable) ∈ commonPairs vpc cloudRouteTables store ∧
      row.syncWithCloudRouteTable env userCred vpc cloudRouteTable = .ok synced
  · obtain ⟨cloudRouteTable, synced, paired, ok⟩ := written
    rw [replaceAll_writtenRows_of_ok commonPairs_stored (fun _ _ _ => matchedPairs_functional) present paired ok]
    obtain ⟨member, cloudMember, keyed⟩ := mem_of_mem_matchedPairs paired
    exact .inr ⟨member, cloudRouteTable, cloudMember, keyed, ok⟩
  · push_neg at written
    exact .inl (replaceAll_writtenRows_of_not_ok commonPairs_stored present written)

end Pass

/-- No delete, write-back or insert of a pass fails. -/
def NoItemFails (env : SyncEnv) (userCred : TokenCredential) (vpc : SVpc)
    (localRouteTables : List SRouteTable) (cloudRouteTables : List ICloudRouteTable) : Prop :=
  (∀ routeTable ∈ localRouteTables,
      (∀ cloudRouteTable ∈ cloudRouteTables, cloudRouteTable.globalId ≠ routeTable.externalId) →
        env.deleteError routeTable = none) ∧
    (∀ routeTable ∈ localRouteTables, ∀ cloudRouteTable ∈ cloudRouteTables,
      cloudRouteTable.globalId = routeTable.externalId →
        (routeTable.syncWithCloudRouteTable env userCred vpc cloudRouteTable).toBool) ∧
    (∀ cloudRouteTable ∈ cloudRouteTables,
      (∀ routeTable ∈ localRouteTables, cloudRouteTable.globalId ≠ routeTable.externalId) →
        (insertFromCloud env userCred vpc cloudRouteTable).toBool)

instance (env : SyncEnv) (userCred : TokenCredential) (vpc : SVpc) (localRouteTables : List SRouteTable)
    (cloudRouteTables : List ICloudRouteTable) :
    Decidable (NoItemFails env userCred vpc localRouteTables cloudRouteTables) :=
  inferInstanceAs (Decidable ((∀ routeTable ∈ localRouteTables,
      (∀ cloudRouteTable ∈ cloudRouteTables, cloudRouteTable.globalId ≠ routeTable.externalId) →
        env.deleteError routeTable = none) ∧
    (∀ routeTable ∈ localRouteTables, ∀ cloudRouteTable ∈ cloudRouteTables,
      cloudRouteTable.globalId = routeTable.externalId →
        (routeTable.syncWithCloudRouteTable env userCred vpc cloudRouteTable).toBool) ∧
    (∀ cloudRouteTable ∈ cloudRouteTables,
      (∀ routeTable ∈ localRouteTables, cloudRouteTable.globalId ≠ routeTable.externalId) →
        (insertFromCloud env userCred vpc cloudRouteTable).toBool)))

/-- With no failure, every cloud table is written back or inserted. -/
theorem NoItemFails.succeeded {env : SyncEnv} {userCred : TokenCredential} {vpc : SVpc}
    {localRouteTables : List SRouteTable} {cloudRouteTables : List ICloudRouteTable}
    (noFailure : NoItemFails env userCred vpc localRouteTables cloudRouteTables)
    {cloudRouteTable : ICloudRouteTable} (cloudMember : cloudRouteTable ∈ cloudRouteTables) :
    (∃ routeTable ∈ localRouteTables, cloudRouteTable.globalId = routeTable.externalId ∧
        (routeTable.syncWithCloudRouteTable env userCred vpc cloudRouteTable).toBool) ∨
      ((∀ routeTable ∈ localRouteTables, cloudRouteTable.globalId ≠ routeTable.externalId) ∧
        (insertFromCloud env userCred vpc cloudRouteTable).toBool) := by
  by_cases matched : ∃ routeTable ∈ localRouteTables, cloudRouteTable.globalId = routeTable.externalId
  · obtain ⟨routeTable, member, keyed⟩ := matched
    exact .inl ⟨routeTable, member, keyed, noFailure.2.1 routeTable member cloudRouteTable cloudMember keyed⟩
  · push_neg at matched
    exact .inr ⟨matched, noFailure.2.2 cloudRouteTable cloudMember matched⟩

section Converges

variable {env : SyncEnv} {userCred : TokenCredential} {vpc : SVpc}
  {cloudRouteTables : List ICloudRouteTable} {store : RouteTableStore}
  (localDistinct : ((vpcRouteTables store vpc).map SRouteTable.externalId).Nodup)
  (remoteDistinct : (cloudRouteTables.map ICloudRouteTable.globalId).Nodup)
include localDistinct remoteDistinct

end Converges

/-- A VPC with route tables `A` and `B`, and a cloud that reports `B` and `C`. -/
def sampleVpc : SVpc := ⟨"vpc-1", "main"⟩

/-- Collaborators that never fail. -/
def sampleEnv : SyncEnv := ⟨fun _ => none, fun name => .ok name, fun _ => none, fun _ => none⟩

end OneCloud.Compute
