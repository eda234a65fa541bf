import OneCloud.Compute.RouteValidate
import Mathlib.Data.List.Perm.Subperm

/-
This file models `PerformAddRoutes` and `PerformDelRoutes`, which edit the routes of a route
table by Cidr, and states what each leaves stored and how the two compose.
-/

namespace OneCloud.Compute

/-- The loop of `PerformAddRoutes`, which appends each route whose Cidr is not yet there. -/
def addRoutes (routes adds : List SRoute) : List SRoute :=
  adds.foldl (fun routes add => if routes.any (·.cidr == add.cidr) then routes else routes ++ [add]) routes

/-- This is `PerformAddRoutes`, with the outcome of `db.Update` as a parameter. -/
def SRouteTable.performAddRoutes (net : NetIPv6) (rt : SRouteTable) (adds : List SRoute)
    (updateError : Option GoError) : SRouteTable × Option GoError :=
  match SRoutes.validate net adds with
  | .error err => (rt, some err)
  | .ok adds =>
      let routes := addRoutes rt.routes adds
      match updateError with
      | some err => (rt, some err)
      | none => ({ rt with routes := routes }, none)

/-- The inner loop of `PerformDelRoutes`, which splices out the last non-system route of Cidr `cidr`. -/
def delRouteBelow (cidr : String) (routes : List SRoute) : Nat → List SRoute
  | 0 => routes
  | i + 1 =>
      match routes[i]? with
      | none => routes
      | some route =>
          if route.type = "system" then delRouteBelow cidr routes i
          else if route.cidr = cidr then routes.eraseIdx i
          else delRouteBelow cidr routes i

/-- The loop of `PerformDelRoutes`: one backward scan of the current routes for each cidr. -/
def delRoutes (routes : List SRoute) (cidrs : List String) : List SRoute :=
  cidrs.foldl (fun routes cidr => delRouteBelow cidr routes routes.length) routes

/-- This is `PerformDelRoutes`; `cidrs` is what `data.Unmarshal` read from the request. -/
def SRouteTable.performDelRoutes (rt : SRouteTable) (cidrs : Except GoError (List String))
    (updateError : Option GoError) : SRouteTable × Option GoError :=
  match cidrs with
  | .error err => (rt, some ⟨"unmarshaling cidrs failed: " ++ err.msg⟩)
  | .ok cidrs =>
      let routes := delRoutes rt.routes cidrs
      match updateError with
      | some err => (rt, some err)
      | none => ({ rt with routes := routes }, none)

/-- A route the scan for `cidr` removes: not a system route, and of Cidr `cidr`. -/
def deletable (cidr : String) (route : SRoute) : Bool :=
  route.type != "system" && route.cidr == cidr

@[simp] theorem deletable_eq_true {cidr : String} {route : SRoute} :
    deletable cidr route = true ↔ route.type ≠ "system" ∧ route.cidr = cidr := by
  simp [deletable]

/-- The scan over `front ++ back` removes from `front` only, when `back` holds nothing to remove. -/
theorem delRouteBelow_append (cidr : String) (front : List SRoute) :
    ∀ back : List SRoute, delRouteBelow cidr (front ++ back) front.length =
      (front.reverse.eraseP (deletable cidr)).reverse ++ back := by
  induction front using List.reverseRecOn with
  | nil => intro back; rfl
  | append_singleton front route ih =>
      intro back
      have found : (front ++ route :: back)[front.length]? = some route := by
        rw [List.getElem?_append_right (le_refl _), Nat.sub_self, List.getElem?_cons_zero]
      rw [List.length_append, List.length_singleton, List.append_assoc, List.singleton_append, delRouteBelow,
        found, List.reverse_append, List.reverse_singleton, List.singleton_append]
      dsimp only
      by_cases system : route.type = "system"
      · have kept : ¬ deletable cidr route := fun hit => (deletable_eq_true.mp hit).1 system
        rw [if_pos system, ih, List.eraseP_cons_of_neg kept]
        simp
      · by_cases matched : route.cidr = cidr
        · have removed : deletable cidr route := deletable_eq_true.mpr ⟨system, matched⟩
          rw [if_neg system, if_pos matched, List.eraseIdx_append_of_length_le (le_refl _), Nat.sub_self,
            List.eraseP_cons_of_pos removed, List.reverse_reverse]
          rfl
        · have kept : ¬ deletable cidr route := fun hit => matched (deletable_eq_true.mp hit).2
          rw [if_neg system, if_neg matched, ih, List.eraseP_cons_of_neg kept]
          simp

/-- The scan for one Cidr removes the last non-system route of that Cidr. -/
theorem delRouteBelow_length (cidr : String) (routes : List SRoute) :
    delRouteBelow cidr routes routes.length = (routes.reverse.eraseP (deletable cidr)).reverse := by
  simpa using delRouteBelow_append cidr routes []

section EraseLast

variable {α : Type} (p : α → Bool)

/-! Removing the last element of a list that satisfies `p`, as the backward scan does. -/

theorem eraseP_reverse_sublist (l : List α) : (l.reverse.eraseP p).reverse.Sublist l := by
  simpa using (List.eraseP_sublist (p := p) l.reverse).reverse

/-- The scan removes nothing, or one element that satisfies `p`. -/
theorem eraseP_reverse_cases (l : List α) :
    (l.reverse.eraseP p).reverse = l ∨ ∃ a, p a ∧ l.Perm (a :: (l.reverse.eraseP p).reverse) := by
  rcases List.exists_or_eq_self_of_eraseP p l.reverse with same | ⟨a, front, back, _, holds, split, erased⟩
  · exact .inl (by rw [same, List.reverse_reverse])
  · refine .inr ⟨a, holds, ?_⟩
    rw [erased, ← List.reverse_reverse l, split]
    exact (List.reverse_perm _).trans (List.perm_middle.trans ((List.reverse_perm _).symm.cons a))

theorem eraseP_eq_filter_of_unique {l : List α} (unique : (l.filter p).length ≤ 1) :
    l.eraseP p = l.filter fun a => !p a := by
  induction l with
  | nil => rfl
  | cons a rest ih =>
      by_cases holds : p a
      · have none : rest.filter p = [] := by
          simpa [List.filter_cons, holds] using unique
        rw [List.eraseP_cons_of_pos holds, List.filter_cons, if_neg (by simp [holds])]
        exact (List.filter_eq_self.mpr fun b member => by
          simpa using List.filter_eq_nil_iff.mp none b member).symm
      · rw [List.eraseP_cons_of_neg holds, List.filter_cons, if_pos (by simpa using holds),
          ih (by simpa [List.filter_cons, holds] using unique)]

/-- Where at most one element satisfies `p`, the scan removes every element that does. -/
theorem eraseP_reverse_of_unique {l : List α} (unique : (l.filter p).length ≤ 1) :
    (l.reverse.eraseP p).reverse = l.filter fun a => !p a := by
  rw [eraseP_eq_filter_of_unique p (by simpa [List.filter_reverse] using unique), List.filter_reverse,
    List.reverse_reverse]

end EraseLast

@[simp] theorem delRoutes_nil (routes : List SRoute) : delRoutes routes [] = routes := rfl

@[simp] theorem delRoutes_cons (routes : List SRoute) (cidr : String) (cidrs : List String) :
    delRoutes routes (cidr :: cidrs) =
      delRoutes ((routes.reverse.eraseP (deletable cidr)).reverse) cidrs := by
  rw [delRoutes, List.foldl_cons, delRouteBelow_length]
  rfl

theorem delRoutes_sublist (cidrs : List String) : ∀ routes : List SRoute, (delRoutes routes cidrs).Sublist routes := by
  induction cidrs with
  | nil => exact fun routes => List.Sublist.refl routes
  | cons cidr cidrs ih =>
      intro routes
      rw [delRoutes_cons]
      exact (ih _).trans (eraseP_reverse_sublist _ routes)

/-- The routes `PerformDelRoutes` removes are non-system routes, each matched by its own Cidr. -/
theorem delRoutes_removed (cidrs : List String) : ∀ routes : List SRoute,
    ∃ removed : List SRoute, routes.Perm (delRoutes routes cidrs ++ removed) ∧
      (∀ route ∈ removed, route.type ≠ "system") ∧ (removed.map SRoute.cidr).Subperm cidrs := by
  induction cidrs with
  | nil => exact fun routes => ⟨[], by simp, by simp, by simp⟩
  | cons cidr cidrs ih =>
      intro routes
      obtain ⟨removed, perm, custom, matched⟩ := ih ((routes.reverse.eraseP (deletable cidr)).reverse)
      rw [delRoutes_cons]
      rcases eraseP_reverse_cases (deletable cidr) routes with same | ⟨route, hit, split⟩
      · rw [same] at perm ⊢
        exact ⟨removed, perm, custom, matched.trans ((List.sublist_cons_self cidr cidrs).subperm)⟩
      · have fields := deletable_eq_true.mp hit
        refine ⟨route :: removed, split.trans ((perm.cons route).trans List.perm_middle.symm), ?_, ?_⟩
        · rintro other (_ | ⟨_, member⟩)
          exacts [fields.1, custom other member]
        · rw [List.map_cons, fields.2]
          exact (List.subperm_cons cidr).mpr matched

/-- `PerformDelRoutes` keeps every system route, in order. -/
theorem delRoutes_system (routes : List SRoute) (cidrs : List String) :
    (delRoutes routes cidrs).filter (·.type == "system") = routes.filter (·.type == "system") := by
  obtain ⟨removed, perm, custom, -⟩ := delRoutes_removed cidrs routes
  have noneRemoved : removed.filter (·.type == "system") = [] :=
    List.filter_eq_nil_iff.mpr fun route member => by simpa using custom route member
  refine ((delRoutes_sublist cidrs routes).filter _).eq_of_length ?_
  rw [(perm.filter _).length_eq, List.filter_append, noneRemoved, List.append_nil]

/-- With distinct non-system Cidrs, one Cidr matches at most one removable route. -/
theorem deletable_unique {routes : List SRoute}
    (distinct : ((routes.filter (·.type != "system")).map SRoute.cidr).Nodup) (cidr : String) :
    (routes.filter (deletable cidr)).length ≤ 1 := by
  have split : routes.filter (deletable cidr) =
      (routes.filter (·.type != "system")).filter (·.cidr == cidr) := by
    rw [List.filter_filter]
    exact List.filter_congr fun route _ => by simp [deletable, Bool.and_comm]
  have matching : ((routes.filter (deletable cidr)).map SRoute.cidr).Nodup := by
    rw [split]
    exact distinct.sublist ((List.filter_sublist _).map _)
  have same : ∀ other ∈ (routes.filter (deletable cidr)).map SRoute.cidr, other = cidr := by
    simp only [List.mem_map, List.mem_filter, deletable_eq_true]
    rintro _ ⟨route, ⟨_, _, matched⟩, rfl⟩
    exact matched
  rw [List.eq_replicate_of_mem same, List.nodup_replicate, List.length_map] at matching
  exact matching

/-- With distinct non-system Cidrs, the loop removes exactly the non-system routes it is given. -/
theorem delRoutes_of_distinct (cidrs : List String) : ∀ {routes : List SRoute},
    ((routes.filter (·.type != "system")).map SRoute.cidr).Nodup →
      delRoutes routes cidrs = routes.filter fun route => route.type == "system" || !cidrs.contains route.cidr := by
  induction cidrs with
  | nil => exact fun _ => by simp
  | cons cidr cidrs ih =>
      intro routes distinct
      have kept := (List.filter_sublist (p := fun route => !deletable cidr route) routes).filter
        (·.type != "system")
      rw [delRoutes_cons, eraseP_reverse_of_unique _ (deletable_unique distinct cidr),
        ih (distinct.sublist (kept.map _)), List.filter_filter]
      refine List.filter_congr fun route _ => ?_
      simp only [deletable, bne, List.contains_cons]
      cases route.type == "system" <;> cases route.cidr == cidr <;> cases cidrs.contains route.cidr <;> rfl

@[simp] theorem addRoutes_nil (routes : List SRoute) : addRoutes routes [] = routes := rfl

@[simp] theorem addRoutes_cons (routes : List SRoute) (add : SRoute) (adds : List SRoute) :
    addRoutes routes (add :: adds) =
      addRoutes (if add.cidr ∈ routes.map SRoute.cidr then routes else routes ++ [add]) adds := by
  have found : routes.any (·.cidr == add.cidr) = true ↔ add.cidr ∈ routes.map SRoute.cidr := by
    simp only [List.any_eq_true, beq_iff_eq, List.mem_map]
  simp only [addRoutes, List.foldl_cons, found]

/-- With distinct Cidrs in `adds`, the loop appends exactly the added routes whose Cidr is new. -/
theorem addRoutes_of_distinct (routes : List SRoute) {adds : List SRoute}
    (distinct : (adds.map SRoute.cidr).Nodup) :
    addRoutes routes adds = routes ++ adds.filter fun add => add.cidr ∉ routes.map SRoute.cidr := by
  induction adds generalizing routes with
  | nil => simp
  | cons add adds ih =>
      rw [List.map_cons, List.nodup_cons] at distinct
      rw [addRoutes_cons, List.filter_cons]
      by_cases present : add.cidr ∈ routes.map SRoute.cidr
      · rw [if_pos present, if_neg fun absent => absurd present (of_decide_eq_true absent), ih routes distinct.2]
      · have others : adds.filter (fun other => other.cidr ∉ (routes ++ [add]).map SRoute.cidr) =
            adds.filter fun other => other.cidr ∉ routes.map SRoute.cidr :=
          List.filter_congr fun other member => by
            have apart : other.cidr ≠ add.cidr := fun same => distinct.1 (same ▸ List.mem_map_of_mem _ member)
            simp only [List.map_append, List.map_cons, List.map_nil, List.mem_append, List.mem_singleton, apart,
              or_false]
        rw [if_neg present, if_pos (decide_eq_true present), ih _ distinct.2, others, List.append_assoc,
          List.singleton_append]

/-- A route edit that fails, in `SRoutes.Validate` or in `db.Update`, leaves the table as it
was. -/
theorem SRouteTable.performAddRoutes_failed {net : NetIPv6} {rt : SRouteTable} {adds : List SRoute}
    {updateError : Option GoError} (failed : (rt.performAddRoutes net adds updateError).2.isSome) :
    (rt.performAddRoutes net adds updateError).1 = rt := by
  revert failed
  unfold SRouteTable.performAddRoutes
  split
  · exact fun _ => rfl
  · cases updateError
    · exact fun failed => by cases failed
    · exact fun _ => rfl

/-- A route edit that fails, in `data.Unmarshal` or in `db.Update`, leaves the table as it
was. -/
theorem SRouteTable.performDelRoutes_failed {rt : SRouteTable} {cidrs : Except GoError (List String)}
    {updateError : Option GoError} (failed : (rt.performDelRoutes cidrs updateError).2.isSome) :
    (rt.performDelRoutes cidrs updateError).1 = rt := by
  revert failed
  unfold SRouteTable.performDelRoutes
  split
  · exact fun _ => rfl
  · cases updateError
    · exact fun failed => by cases failed
    · exact fun _ => rfl

/-- `PerformDelRoutes` removes exactly the non-system routes whose Cidr it is given, when those Cidrs are distinct. -/
theorem SRouteTable.performDelRoutes_removes (rt : SRouteTable) (cidrs : List String) :
    let stored : List SRoute := (rt.performDelRoutes (.ok cidrs) none).1.routes
    stored.Sublist rt.routes ∧
      stored.filter (·.type == "system") = rt.routes.filter (·.type == "system") ∧
      (∃ removed : List SRoute, rt.routes.Perm (stored ++ removed) ∧
        (∀ route ∈ removed, route.type ≠ "system") ∧ (removed.map SRoute.cidr).Subperm cidrs) ∧
      (((rt.routes.filter (·.type != "system")).map SRoute.cidr).Nodup →
        stored = rt.routes.filter fun route => route.type == "system" || !cidrs.contains route.cidr) :=
  ⟨delRoutes_sublist cidrs rt.routes, delRoutes_system rt.routes cidrs, delRoutes_removed cidrs rt.routes,
    delRoutes_of_distinct cidrs⟩

/-- `PerformAddRoutes` appends, in order, the validated routes whose Cidr is new. -/
theorem SRouteTable.performAddRoutes_appends (net : NetIPv6) (rt : SRouteTable) {adds validated : List SRoute}
    (accepted : SRoutes.validate net adds = .ok validated) :
    let stored : List SRoute := rt.routes ++ validated.filter fun add => add.cidr ∉ rt.routes.map SRoute.cidr
    rt.performAddRoutes net adds none = ({ rt with routes := stored }, none) ∧
      (∀ add ∈ validated, add.cidr ∈ stored.map SRoute.cidr) ∧
      ((rt.routes.map SRoute.cidr).Nodup → (stored.map SRoute.cidr).Nodup) := by
  intro stored
  have distinct := (SRoutes.validate_ok accepted).2
  refine ⟨?_, fun add member => ?_, fun unique => ?_⟩
  · simp only [SRouteTable.performAddRoutes, accepted, addRoutes_of_distinct rt.routes distinct, stored]
  · rw [List.map_append, List.mem_append]
    by_cases present : add.cidr ∈ rt.routes.map SRoute.cidr
    · exact .inl present
    · exact .inr (List.mem_map_of_mem _ (List.mem_filter.mpr ⟨member, decide_eq_true present⟩))
  · rw [List.map_append, List.nodup_append]
    refine ⟨unique, distinct.sublist ((List.filter_sublist _).map _), fun cidr old new => ?_⟩
    obtain ⟨add, member, rfl⟩ := List.mem_map.mp new
    exact (by simpa using (List.mem_filter.mp member).2 : add.cidr ∉ rt.routes.map SRoute.cidr) old

/-- A route table with the given routes, for the examples below. -/
def routeTableWith (routes : List SRoute) : SRouteTable :=
  ⟨1, "rtb-1", "vpc-1", "", "", routes, "", "", ""⟩

/-- A `NetIPv6` that reads no IPv6 text, for the examples below. -/
def ipv4OnlyNet : NetIPv6 := ⟨fun _ => none, fun _ _ => none⟩

theorem SRouteTable.performAddRoutes_appends_overlap :
    SRoutes.validate ipv4OnlyNet [⟨"custom", "10.0.0.0/24", "", ""⟩, ⟨"custom", "10.0.1.0/24", "", ""⟩] =
        .ok [⟨"custom", "10.0.0.0/24", "", ""⟩, ⟨"custom", "10.0.1.0/24", "", ""⟩] ∧
      (routeTableWith [⟨"custom", "10.0.0.0/24", "", ""⟩]).performAddRoutes ipv4OnlyNet
          [⟨"custom", "10.0.0.0/24", "", ""⟩, ⟨"custom", "10.0.1.0/24", "", ""⟩] none =
        (routeTableWith [⟨"custom", "10.0.0.0/24", "", ""⟩, ⟨"custom", "10.0.1.0/24", "", ""⟩], none) :=
  ⟨rfl, (@SRouteTable.performAddRoutes_appends ipv4OnlyNet (routeTableWith [⟨"custom", "10.0.0.0/24", "", ""⟩])
    [⟨"custom", "10.0.0.0/24", "", ""⟩, ⟨"custom", "10.0.1.0/24", "", ""⟩]
    [⟨"custom", "10.0.0.0/24", "", ""⟩, ⟨"custom", "10.0.1.0/24", "", ""⟩] rfl).1.trans (by decide)⟩

/-- A system route passes the checks and is added, but deleting its Cidr leaves it stored. -/
theorem SRouteTable.performDelRoutes_keeps_added_system_route (net : NetIPv6) (rt : SRouteTable)
    (fresh : "10.0.0.0/8" ∉ rt.routes.map SRoute.cidr) :
    let adds : List SRoute := [⟨"system", "10.0.0.0/8", "", ""⟩]
    SRoutes.validate net adds = .ok adds ∧
      ((rt.performAddRoutes net adds none).1.performDelRoutes (.ok (adds.map SRoute.cidr)) none).1.routes =
        rt.routes ++ adds := by
  intro adds
  have accepted : SRoutes.validate net adds = .ok adds := rfl
  have appended : adds.filter (fun add => add.cidr ∉ rt.routes.map SRoute.cidr) = adds :=
    List.filter_cons_of_pos (decide_eq_true fresh)
  have skipped : ∀ route ∈ (rt.routes ++ adds).reverse, ¬ deletable "10.0.0.0/8" route := by
    intro route member hit
    obtain ⟨custom, matched⟩ := deletable_eq_true.mp hit
    rcases List.mem_append.mp (List.mem_reverse.mp member) with old | added
    · exact fresh (matched ▸ List.mem_map_of_mem _ old)
    · exact custom (by rw [List.mem_singleton.mp added])
  have single : (adds.map SRoute.cidr).Nodup := List.nodup_singleton _
  have cidrs : adds.map SRoute.cidr = ["10.0.0.0/8"] := rfl
  refine ⟨accepted, ?_⟩
  simp only [SRouteTable.performAddRoutes, accepted, addRoutes_of_distinct rt.routes single, appended,
    SRouteTable.performDelRoutes, cidrs, delRoutes_cons, delRoutes_nil]
  rw [List.eraseP_of_forall_not skipped, List.reverse_reverse]

/-- A system route added to the empty table and deleted again stays there. -/
theorem SRouteTable.performDelRoutes_keeps_added_system_route_empty :
    let adds : List SRoute := [⟨"system", "10.0.0.0/8", "", ""⟩]
    SRoutes.validate ipv4OnlyNet adds = .ok adds ∧ ((routeTableWith []).routes.map SRoute.cidr).Nodup ∧
      (∀ add ∈ adds, add.cidr ∉ (routeTableWith []).routes.map SRoute.cidr) ∧
      (((routeTableWith []).performAddRoutes ipv4OnlyNet adds none).1.performDelRoutes
        (.ok (adds.map SRoute.cidr)) none).1 ≠ routeTableWith [] := by
  intro adds
  obtain ⟨accepted, kept⟩ := SRouteTable.performDelRoutes_keeps_added_system_route ipv4OnlyNet (routeTableWith [])
    (List.not_mem_nil _)
  exact ⟨accepted, List.nodup_nil, fun _ _ => List.not_mem_nil _,
    fun restored => absurd (kept.symm.trans (congrArg SRouteTable.routes restored)) (by decide)⟩

/-- Deleting the Cidrs of new non-system routes right after adding them restores the table. -/
theorem SRouteTable.performDelRoutes_undoes_performAddRoutes (net : NetIPv6) (rt : SRouteTable)
    {adds validated : List SRoute} {cidrs : List String} (accepted : SRoutes.validate net adds = .ok validated)
    (distinct : (rt.routes.map SRoute.cidr).Nodup) (disjoint : ∀ add ∈ validated, add.cidr ∉ rt.routes.map SRoute.cidr)
    (custom : ∀ add ∈ adds, add.type ≠ "system") (reordered : cidrs.Perm (validated.map SRoute.cidr)) :
    ((rt.performAddRoutes net adds none).1.performDelRoutes (.ok cidrs) none).1 = rt := by
  have addsDistinct := (SRoutes.validate_ok accepted).2
  have appended : validated.filter (fun add => add.cidr ∉ rt.routes.map SRoute.cidr) = validated :=
    List.filter_eq_self.mpr fun add member => by simpa using disjoint add member
  have allDistinct : ((rt.routes ++ validated).map SRoute.cidr).Nodup := by
    rw [List.map_append, List.nodup_append]
    refine ⟨distinct, addsDistinct, fun cidr old new => ?_⟩
    obtain ⟨add, member, rfl⟩ := List.mem_map.mp new
    exact disjoint add member old
  have customValid : ∀ add ∈ validated, add.type ≠ "system" := by
    intro add member
    obtain ⟨input, inputMember, same⟩ :=
      List.mem_map.mp (SRoutes.validate_types accepted ▸ List.mem_map_of_mem SRoute.type member)
    exact same ▸ custom input inputMember
  have keptOld : rt.routes.filter (fun route => route.type == "system" || !cidrs.contains route.cidr) = rt.routes :=
    List.filter_eq_self.mpr fun route member => by
      have absent : route.cidr ∉ cidrs := fun given => by
        obtain ⟨add, added, same⟩ := List.mem_map.mp (reordered.mem_iff.mp given)
        exact disjoint add added (same ▸ List.mem_map_of_mem _ member)
      simp [absent]
  have removedNew : validated.filter (fun route => route.type == "system" || !cidrs.contains route.cidr) = [] :=
    List.filter_eq_nil_iff.mpr fun add member => by
      have given : add.cidr ∈ cidrs := reordered.mem_iff.mpr (List.mem_map_of_mem _ member)
      simp [customValid add member, given]
  simp only [SRouteTable.performAddRoutes, accepted, addRoutes_of_distinct rt.routes addsDistinct, appended,
    SRouteTable.performDelRoutes, delRoutes_of_distinct cidrs (allDistinct.sublist ((List.filter_sublist _).map _)),
    List.filter_append, keptOld, removedNew, List.append_nil]

theorem SRouteTable.performDelRoutes_undoes_performAddRoutes_two :
    (((routeTableWith [⟨"custom", "10.1.0.0/16", "", ""⟩]).performAddRoutes ipv4OnlyNet
        [⟨"custom", "10.0.0.0/24", "", ""⟩, ⟨"custom", "10.0.1.0/24", "", ""⟩] none).1.performDelRoutes
        (.ok ["10.0.1.0/24", "10.0.0.0/24"]) none).1 = routeTableWith [⟨"custom", "10.1.0.0/16", "", ""⟩] :=
  SRouteTable.performDelRoutes_undoes_performAddRoutes ipv4OnlyNet _ rfl (by decide) (by decide) (by decide)
    (by decide)

end OneCloud.Compute
