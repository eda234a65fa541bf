import Mathlib.Data.List.Basic
import Mathlib.Data.List.Nodup
import Mathlib.Logic.Function.Basic

/-
This file models route tables, the table that stores them, the cloud provider's view of
them, and the per-item operations that `SyncRouteTables` runs.
-/

namespace OneCloud.Compute

/-- An error returned by a collaborator (the database, the cloud driver). -/
structure GoError where
  msg : String
  deriving DecidableEq, Repr

/-- One route of a route table. -/
structure SRoute where
  type : String
  cidr : String
  nextHopType : String
  nextHopId : String
  deriving DecidableEq, Repr

/-- A route as the cloud driver reports it (`ICloudRoute`). -/
structure ICloudRoute where
  type : String
  cidr : String
  nextHopType : String
  nextHop : String
  deriving DecidableEq, Repr

/-- A route table as the cloud driver reports it (`ICloudRouteTable`); `GetIRoutes` may fail. -/
structure ICloudRouteTable where
  globalId : String
  name : String
  type : String
  description : String
  iRoutes : Except GoError (List ICloudRoute)

/-- The VPC a route table belongs to. -/
structure SVpc where
  id : String
  name : String
  deriving DecidableEq, Repr

/-- The caller of a sync pass, whose project and domain own what it inserts. -/
structure TokenCredential where
  projectId : String
  projectDomainId : String
  deriving DecidableEq, Repr

/-- A row of `route_tables_tbl`. -/
structure SRouteTable where
  id : Nat
  name : String
  vpcId : String
  externalId : String
  type : String
  routes : List SRoute
  description : String
  projectId : String
  domainId : String
  deriving DecidableEq, Repr

/-- The route-table table, keyed by id; an insert hands out `nextId`. -/
structure RouteTableStore where
  table : Nat → Option SRouteTable
  nextId : Nat
  bounded : ∀ id, nextId ≤ id → table id = none
  keyed : ∀ id routeTable, table id = some routeTable → routeTable.id = id

namespace RouteTableStore

/-- The rows of the table in id order. -/
def rows (store : RouteTableStore) : List SRouteTable :=
  (List.range store.nextId).filterMap store.table

theorem mem_rows {store : RouteTableStore} {routeTable : SRouteTable} :
    routeTable ∈ store.rows ↔ store.table routeTable.id = some routeTable := by
  constructor
  · intro member
    obtain ⟨key, -, found⟩ := List.mem_filterMap.mp member
    rwa [store.keyed key routeTable found]
  · intro found
    refine List.mem_filterMap.mpr ⟨routeTable.id, List.mem_range.mpr ?_, found⟩
    by_contra outside
    simp [store.bounded _ (Nat.le_of_not_lt outside)] at found

/-- The empty table. -/
def empty : RouteTableStore where
  table _ := none
  nextId := 0
  bounded _ _ := rfl
  keyed _ _ found := by cases found

/-- Deleting a row: `RealDelete` of the route table with this id. -/
def delete (store : RouteTableStore) (routeTable : SRouteTable) : RouteTableStore where
  table := Function.update store.table routeTable.id none
  nextId := store.nextId
  bounded key above := by
    by_cases same : key = routeTable.id
    · rw [same, Function.update_same]
    · rw [Function.update_noteq same, store.bounded key above]
  keyed key row found := by
    by_cases same : key = routeTable.id
    · rw [same, Function.update_same] at found
      cases found
    · rw [Function.update_noteq same] at found
      exact store.keyed key row found

/-- Writing a row back: the `UPDATE` of `UpdateWithLock`, which changes an existing row. -/
def update (store : RouteTableStore) (routeTable : SRouteTable) : RouteTableStore where
  table := if (store.table routeTable.id).isSome then
      Function.update store.table routeTable.id (some routeTable) else store.table
  nextId := store.nextId
  bounded key above := by
    split_ifs with present
    · by_cases same : key = routeTable.id
      · subst same
        simp [store.bounded _ above] at present
      · rw [Function.update_noteq same, store.bounded key above]
    · exact store.bounded key above
  keyed key row found := by
    split_ifs at found with present
    · by_cases same : key = routeTable.id
      · subst same
        rw [Function.update_same, Option.some.injEq] at found
        rw [← found]
      · rw [Function.update_noteq same] at found
        exact store.keyed key row found
    · exact store.keyed key row found

/-- Inserting a new row, which receives the next id. -/
def insert (store : RouteTableStore) (routeTable : SRouteTable) : RouteTableStore where
  table := Function.update store.table store.nextId (some { routeTable with id := store.nextId })
  nextId := store.nextId + 1
  bounded key above := by
    rw [Function.update_noteq (by omega), store.bounded key (by omega)]
  keyed key row found := by
    by_cases same : key = store.nextId
    · subst same
      rw [Function.update_same, Option.some.injEq] at found
      rw [← found]
    · rw [Function.update_noteq same] at found
      exact store.keyed key row found

@[simp] theorem delete_table (store : RouteTableStore) (routeTable : SRouteTable) (key : Nat) :
    (store.delete routeTable).table key = if key = routeTable.id then none else store.table key := by
  simp [delete, Function.update_apply]

@[simp] theorem update_table (store : RouteTableStore) (routeTable : SRouteTable) (key : Nat) :
    (store.update routeTable).table key =
      if key = routeTable.id ∧ (store.table key).isSome then some routeTable else store.table key := by
  by_cases same : key = routeTable.id
  · subst same
    by_cases present : (store.table routeTable.id).isSome <;> simp [update, present]
  · simp only [update, same, false_and, if_false]
    split_ifs <;> simp [Function.update_noteq same]

@[simp] theorem insert_table (store : RouteTableStore) (routeTable : SRouteTable) (key : Nat) :
    (store.insert routeTable).table key =
      if key = store.nextId then some { routeTable with id := store.nextId } else store.table key := by
  simp [insert, Function.update_apply]

@[simp] theorem delete_nextId (store : RouteTableStore) (routeTable : SRouteTable) :
    (store.delete routeTable).nextId = store.nextId := rfl

@[simp] theorem update_nextId (store : RouteTableStore) (routeTable : SRouteTable) :
    (store.update routeTable).nextId = store.nextId := rfl

@[simp] theorem insert_nextId (store : RouteTableStore) (routeTable : SRouteTable) :
    (store.insert routeTable).nextId = store.nextId + 1 := rfl

theorem eq_of_mem_rows {store : RouteTableStore} {first second : SRouteTable}
    (firstRow : first ∈ store.rows) (secondRow : second ∈ store.rows) (sameId : first.id = second.id) :
    first = second := by
  rw [mem_rows] at firstRow secondRow
  rw [sameId, secondRow] at firstRow
  exact (Option.some.inj firstRow).symm

theorem rows_nodup (store : RouteTableStore) : store.rows.Nodup :=
  (List.nodup_range _).filterMap fun key key' row found found' =>
    (store.keyed key row found).symm.trans (store.keyed key' row found')

/-- Deleting keeps every other row, in order. -/
theorem delete_rows (store : RouteTableStore) (routeTable : SRouteTable) :
    (store.delete routeTable).rows = store.rows.filter fun row => row.id != routeTable.id := by
  simp only [rows, delete_nextId, List.filter_filterMap]
  refine List.filterMap_congr fun key _ => ?_
  rcases found : store.table key with _ | row
  · simp [found]
  · have keyed := store.keyed key row found
    by_cases same : key = routeTable.id <;> simp [found, same, keyed, Option.filter_some]

/-- Writing a row back replaces the row with its id, in place. -/
theorem update_rows (store : RouteTableStore) (routeTable : SRouteTable) :
    (store.update routeTable).rows =
      store.rows.map fun row => if row.id = routeTable.id then routeTable else row := by
  simp only [rows, update_nextId, List.map_filterMap]
  refine List.filterMap_congr fun key _ => ?_
  rcases found : store.table key with _ | row
  · simp [found]
  · have keyed := store.keyed key row found
    by_cases same : key = routeTable.id
    · subst same
      simp [found, keyed]
    · simp [found, same, keyed, Ne.symm same]

/-- Inserting appends the new row, under the next id, after all the others. -/
theorem insert_rows (store : RouteTableStore) (routeTable : SRouteTable) :
    (store.insert routeTable).rows = store.rows ++ [{ routeTable with id := store.nextId }] := by
  simp only [rows, insert_nextId, List.range_succ, List.filterMap_append]
  congr 1
  · refine List.filterMap_congr fun key member => ?_
    simp [Nat.ne_of_lt (List.mem_range.mp member)]
  · simp

end RouteTableStore

/-- The route tables of one VPC: `Query().Equals("vpc_id", vpc.Id)`. -/
def vpcRouteTables (store : RouteTableStore) (vpc : SVpc) : List SRouteTable :=
  store.rows.filter fun routeTable => routeTable.vpcId == vpc.id

/-- What the collaborators of a sync pass answer. -/
structure SyncEnv where
  deleteError : SRouteTable → Option GoError
  generateName : String → Except GoError String
  updateError : SRouteTable → Option GoError
  insertError : SRouteTable → Option GoError

/-- This is `routeTableBasename`. -/
def routeTableBasename (name vpcName : String) : String :=
  if name ≠ "" then name
  else if vpcName ≠ "" then "rtbl-" ++ vpcName
  else "rtbl"

/-- A cloud route as a stored route. -/
def SRoute.ofCloud (cloudRoute : ICloudRoute) : SRoute :=
  ⟨cloudRoute.type, cloudRoute.cidr, cloudRoute.nextHopType, cloudRoute.nextHop⟩

/-- The routes `newRouteTableFromCloud` stores for a cloud route table. -/
def cloudRoutes (cloudRouteTable : ICloudRouteTable) : Except GoError (List SRoute) :=
  cloudRouteTable.iRoutes.map (List.map SRoute.ofCloud)

/-- This is `newRouteTableFromCloud`; the row has no id until it is inserted. -/
def newRouteTableFromCloud (env : SyncEnv) (userCred : TokenCredential) (vpc : SVpc)
    (cloudRouteTable : ICloudRouteTable) : Except GoError SRouteTable := do
  let routes ← cloudRoutes cloudRouteTable
  let newName ← env.generateName (routeTableBasename cloudRouteTable.name vpc.name)
  pure { id := 0, name := newName, vpcId := vpc.id, externalId := cloudRouteTable.globalId,
         type := cloudRouteTable.type, routes := routes, description := cloudRouteTable.description,
         projectId := userCred.projectId, domainId := userCred.projectDomainId }

theorem except_bind_eq_ok {ε α β : Type} (value : Except ε α) (next : α → Except ε β) (result : β) :
    value >>= next = .ok result ↔ ∃ input, value = .ok input ∧ next input = .ok result := by
  cases value <;> simp [bind, Except.bind]

/-- A row built from a cloud table carries the VPC, the cloud id, type and routes. -/
theorem newRouteTableFromCloud_ok {env : SyncEnv} {userCred : TokenCredential} {vpc : SVpc}
    {cloudRouteTable : ICloudRouteTable} {built : SRouteTable}
    (ok : newRouteTableFromCloud env userCred vpc cloudRouteTable = .ok built) :
    built.vpcId = vpc.id ∧ built.externalId = cloudRouteTable.globalId ∧
      built.type = cloudRouteTable.type ∧ cloudRoutes cloudRouteTable = .ok built.routes := by
  obtain ⟨routes, fetched, named⟩ := (except_bind_eq_ok _ _ _).mp ok
  obtain ⟨name, -, built⟩ := (except_bind_eq_ok _ _ _).mp named
  cases built
  exact ⟨rfl, rfl, rfl, fetched⟩

/-- This is `syncRemoveCloudRouteTable`: the route table to delete, unless
`ValidateDeleteCondition` or `RealDelete` fails. -/
def SRouteTable.syncRemoveCloudRouteTable (env : SyncEnv) (self : SRouteTable) :
    Except GoError SRouteTable :=
  match env.deleteError self with
  | some err => .error err
  | none => .ok self

/-- The row that `SyncWithCloudRouteTable` writes: the VPC, type and routes of the cloud table. -/
def SRouteTable.syncedWith (self : SRouteTable) (vpc : SVpc) (routeTable : SRouteTable) : SRouteTable :=
  { self with vpcId := vpc.id, type := routeTable.type, routes := routeTable.routes }

/-- This is `SyncWithCloudRouteTable`: the row to write back, unless building the cloud
table or `UpdateWithLock` fails. -/
def SRouteTable.syncWithCloudRouteTable (env : SyncEnv) (userCred : TokenCredential)
    (self : SRouteTable) (vpc : SVpc) (cloudRouteTable : ICloudRouteTable) :
    Except GoError SRouteTable := do
  let routeTable ← newRouteTableFromCloud env userCred vpc cloudRouteTable
  let synced := self.syncedWith vpc routeTable
  match env.updateError synced with
  | some err => .error err
  | none => pure synced

/-- This is `insertFromCloud`: the row to insert, unless building it or `Insert` fails. -/
def insertFromCloud (env : SyncEnv) (userCred : TokenCredential) (vpc : SVpc)
    (cloudRouteTable : ICloudRouteTable) : Except GoError SRouteTable := do
  let routeTable ← newRouteTableFromCloud env userCred vpc cloudRouteTable
  match env.insertError routeTable with
  | some err => .error err
  | none => pure routeTable

/-- `SyncWithCloudRouteTable` writes the cloud table's type and routes under the row's ids. -/
theorem SRouteTable.syncWithCloudRouteTable_ok {env : SyncEnv} {userCred : TokenCredential}
    {vpc : SVpc} {self synced : SRouteTable} {cloudRouteTable : ICloudRouteTable}
    (ok : self.syncWithCloudRouteTable env userCred vpc cloudRouteTable = .ok synced) :
    synced.id = self.id ∧ synced.vpcId = vpc.id ∧ synced.externalId = self.externalId ∧
      synced.type = cloudRouteTable.type ∧ cloudRoutes cloudRouteTable = .ok synced.routes := by
  obtain ⟨built, fromCloud, written⟩ := (except_bind_eq_ok _ _ _).mp ok
  have fields := newRouteTableFromCloud_ok fromCloud
  dsimp only at written
  split at written
  · cases written
  · cases written
    exact ⟨rfl, rfl, rfl, fields.2.2.1, fields.2.2.2⟩

/-- `insertFromCloud` builds the row of the VPC with the cloud table's id, type and routes. -/
theorem insertFromCloud_ok {env : SyncEnv} {userCred : TokenCredential} {vpc : SVpc}
    {built : SRouteTable} {cloudRouteTable : ICloudRouteTable}
    (ok : insertFromCloud env userCred vpc cloudRouteTable = .ok built) :
    built.vpcId = vpc.id ∧ built.externalId = cloudRouteTable.globalId ∧
      built.type = cloudRouteTable.type ∧ cloudRoutes cloudRouteTable = .ok built.routes := by
  obtain ⟨fresh, fromCloud, inserted⟩ := (except_bind_eq_ok _ _ _).mp ok
  split at inserted
  · cases inserted
  · cases inserted
    exact newRouteTableFromCloud_ok fromCloud

theorem exists_mem_of_forall₂ {α β : Type} {related : α → β → Prop} :
    ∀ {left : List α} {right : List β}, List.Forall₂ related left right →
      ∀ b ∈ right, ∃ a ∈ left, related a b
  | _, _, .nil => by simp
  | a :: _, _, .cons head tail => by
      rintro b (_ | ⟨_, member⟩)
      · exact ⟨a, List.mem_cons_self _ _, head⟩
      · obtain ⟨other, otherMember, otherRelated⟩ := exists_mem_of_forall₂ tail b member
        exact ⟨other, List.mem_cons_of_mem _ otherMember, otherRelated⟩

end OneCloud.Compute
