import OneCloud.Db.Sharable

/-
This file models the domains a sharable resource may move to on a change of owner:
`ISharableChangeOwnerCandidateDomainIds`, and `ISharableMergeChangeOwnerCandidateDomainIds`,
which intersects several such lists; and `ISharableMergeShareRequireDomainIds`, which merges
the domains that several resources require to be shared to.
-/

namespace OneCloud.Db

namespace Stringutils2

/-!
Modelled from the spec: `stringutils2` is not in src. A `SSortedStrings` is modelled by its
elements, with the set operations its functions are named for; every result below is about
the set of ids, which sorting leaves as it is.
-/

/-- `stringutils2.NewSortedStrings`. -/
def newSortedStrings (strs : List String) : List String := strs

/-- `stringutils2.Append` of one string. -/
def append (ss : List String) (ele : String) : List String := ss ++ [ele]

/-- `stringutils2.Intersect`. -/
def intersect (a b : List String) : List String := a.filter (b.contains ·)

@[simp] theorem mem_intersect {a b : List String} {id : String} : id ∈ intersect a b ↔ id ∈ a ∧ id ∈ b := by
  simp [intersect]

end Stringutils2

open Stringutils2

/-- This is `ISharableChangeOwnerCandidateDomainIds`. -/
def iSharableChangeOwnerCandidateDomainIds (model : SharableModel) : List String :=
  if model.isPublic ∧ model.publicScope = .scopeSystem then []
  else
    let candidates := if model.isPublic ∧ model.publicScope = .scopeDomain then
        sharedIds .sharedTargetDomain model.shares
      else []
    if 0 < model.ownerId.projectDomainId.length then candidates ++ [model.ownerId.projectDomainId]
    else candidates

/-- One pass of the loop of `ISharableMergeChangeOwnerCandidateDomainIds`. -/
def mergeCandidate (ownerDomainId : String) (ret candidate : List String) : List String :=
  if 0 < candidate.length then
    let cand := newSortedStrings candidate
    let cand := if 0 < ownerDomainId.length ∧ !cand.contains ownerDomainId then append cand ownerDomainId
      else cand
    if 0 < ret.length then intersect ret cand else newSortedStrings cand
  else ret

/-- This is `ISharableMergeChangeOwnerCandidateDomainIds`. -/
def iSharableMergeChangeOwnerCandidateDomainIds (model : SharableModel)
    (candidates : List (List String)) : List String :=
  candidates.foldl (mergeCandidate model.ownerId.projectDomainId) []

/-- A candidate list extended with the owner's domain, if the owner has one. -/
def ownerExtended (model : SharableModel) (candidate : List String) : List String :=
  if 0 < model.ownerId.projectDomainId.length then candidate ++ [model.ownerId.projectDomainId]
  else candidate

/-- The ids common to every non-empty candidate list, each extended with the owner's domain. -/
def CommonCandidate (model : SharableModel) (candidates : List (List String)) (id : String) : Prop :=
  (∃ candidate ∈ candidates, candidate ≠ []) ∧
    ∀ candidate ∈ candidates, candidate ≠ [] → id ∈ ownerExtended model candidate

instance (model : SharableModel) (candidates : List (List String)) (id : String) :
    Decidable (CommonCandidate model candidates id) :=
  inferInstanceAs (Decidable ((∃ candidate ∈ candidates, candidate ≠ []) ∧
    ∀ candidate ∈ candidates, candidate ≠ [] → id ∈ ownerExtended model candidate))

/-- A non-empty candidate intersects a non-empty merge with its extended list. -/
theorem mem_mergeCandidate {model : SharableModel} (ret : List String) {candidate : List String}
    (nonempty : candidate ≠ []) {id : String} :
    id ∈ mergeCandidate model.ownerId.projectDomainId ret candidate ↔
      (ret ≠ [] → id ∈ ret) ∧ id ∈ ownerExtended model candidate := by
  have extended : id ∈ (if 0 < model.ownerId.projectDomainId.length ∧
        !candidate.contains model.ownerId.projectDomainId then append candidate model.ownerId.projectDomainId
        else candidate) ↔ id ∈ ownerExtended model candidate := by
    unfold ownerExtended
    split_ifs with added owned owned
    · rfl
    · exact absurd added.1 owned
    · have held : model.ownerId.projectDomainId ∈ candidate := by simpa [owned] using added
      simp only [List.mem_append, List.mem_singleton, iff_self_or]
      exact fun same => same ▸ held
    · rfl
  cases ret with
  | nil => simpa [mergeCandidate, List.length_pos.mpr nonempty, newSortedStrings] using extended
  | cons first rest =>
      simp only [mergeCandidate, List.length_pos.mpr nonempty, List.length_cons, Nat.succ_pos, if_true,
        newSortedStrings, mem_intersect, extended, ne_eq, reduceCtorEq, not_false_eq_true, forall_const]

/-- With an owner domain the merge never empties, so it is the whole intersection. -/
theorem mem_foldl_mergeCandidate {model : SharableModel} (owned : 0 < model.ownerId.projectDomainId.length)
    {id : String} (candidates : List (List String)) {ret : List String}
    (holdsOwner : ret = [] ∨ model.ownerId.projectDomainId ∈ ret) :
    id ∈ candidates.foldl (mergeCandidate model.ownerId.projectDomainId) ret ↔
      (ret ≠ [] ∨ ∃ candidate ∈ candidates, candidate ≠ []) ∧ (ret ≠ [] → id ∈ ret) ∧
        ∀ candidate ∈ candidates, candidate ≠ [] → id ∈ ownerExtended model candidate := by
  induction candidates generalizing ret with
  | nil =>
      simp only [List.foldl_nil, List.not_mem_nil, false_and, exists_false, or_false, false_implies,
        implies_true, and_true]
      exact ⟨fun member => ⟨List.ne_nil_of_mem member, fun _ => member⟩, fun held => held.2 held.1⟩
  | cons candidate rest ih =>
      rw [List.foldl_cons]
      by_cases empty : candidate = []
      · rw [show mergeCandidate _ ret candidate = ret by simp [mergeCandidate, empty], ih holdsOwner]
        simp [empty]
      · have stillOwner : model.ownerId.projectDomainId ∈
            mergeCandidate model.ownerId.projectDomainId ret candidate := by
          rw [mem_mergeCandidate ret empty]
          refine ⟨fun nonempty => holdsOwner.resolve_left nonempty, ?_⟩
          simp [ownerExtended, owned]
        rw [ih (.inr stillOwner), mem_mergeCandidate ret empty]
        simp only [List.ne_nil_of_mem stillOwner, ne_eq, not_false_eq_true, true_or, true_implies,
          List.mem_cons, forall_eq_or_imp, empty, true_and]
        exact ⟨fun ⟨⟨kept, extended⟩, later⟩ => ⟨.inr ⟨candidate, .inl rfl, empty⟩, kept, extended, later⟩,
          fun ⟨_, kept, extended, later⟩ => ⟨⟨kept, extended⟩, later⟩⟩

/-- For an owner with a domain, the merge is the intersection of the extended lists. -/
theorem mem_iSharableMergeChangeOwnerCandidateDomainIds {model : SharableModel}
    (owned : 0 < model.ownerId.projectDomainId.length) (candidates : List (List String)) (id : String) :
    id ∈ iSharableMergeChangeOwnerCandidateDomainIds model candidates ↔ CommonCandidate model candidates id := by
  rw [iSharableMergeChangeOwnerCandidateDomainIds, mem_foldl_mergeCandidate owned candidates (.inl rfl)]
  simp [CommonCandidate]

theorem mem_iSharableMergeChangeOwnerCandidateDomainIds_owned :
    0 < ("d0" : String).length ∧
      "d0" ∈ iSharableMergeChangeOwnerCandidateDomainIds ⟨false, .scopeNone, "", ⟨"p1", "d0"⟩, []⟩
        [["d1"], [], ["d2", "d0"]] :=
  ⟨by decide, (mem_iSharableMergeChangeOwnerCandidateDomainIds (by decide) [["d1"], [], ["d2", "d0"]] "d0").mpr
    (by decide)⟩

/-- For an owner with no domain, an empty merge restarts from a later list. -/
theorem iSharableMergeChangeOwnerCandidateDomainIds_restarts :
    let model : SharableModel := ⟨false, .scopeNone, "", ⟨"p1", ""⟩, []⟩
    let candidates : List (List String) := [["d1"], ["d2"], ["d3"]]
    iSharableMergeChangeOwnerCandidateDomainIds model candidates = ["d3"] ∧
      ¬ CommonCandidate model candidates "d3" ∧ ∀ id, ¬ CommonCandidate model candidates id := by
  refine ⟨by decide, fun common => ?_, fun id common => ?_⟩
  · exact absurd (common.2 ["d1"] (by simp) (by simp)) (by decide)
  · have first := common.2 ["d1"] (by simp) (by simp)
    have second := common.2 ["d2"] (by simp) (by simp)
    simp only [ownerExtended, String.length, List.length_nil, lt_self_iff_false, if_false,
      List.mem_singleton] at first second
    exact absurd (first.symm.trans second) (by decide)

/-! ### Required domains -/

namespace Stringutils2

/-- `stringutils2.Merge`: the ids of both lists. -/
def merge (a b : List String) : List String := a ++ b.filter (!a.contains ·)

@[simp] theorem mem_merge {a b : List String} {id : String} : id ∈ merge a b ↔ id ∈ a ∨ id ∈ b := by
  by_cases held : id ∈ a <;> simp [merge, held]

end Stringutils2

/-- The loop of `ISharableMergeShareRequireDomainIds`, which an empty list ends with `nil`. -/
def mergeShareRequireFrom (ret : List String) : List (List String) → List String
  | [] => ret
  | req :: rest =>
      if 0 < req.length then mergeShareRequireFrom (if ret = [] then newSortedStrings req else merge ret req) rest
      else []

/-- This is `ISharableMergeShareRequireDomainIds`. -/
def iSharableMergeShareRequireDomainIds (requiredIds : List (List String)) : List String :=
  mergeShareRequireFrom [] requiredIds

theorem mem_mergeShareRequireFrom {id : String} :
    ∀ (ret : List String) (requiredIds : List (List String)),
      id ∈ mergeShareRequireFrom ret requiredIds ↔
        (∀ required ∈ requiredIds, required ≠ []) ∧ (id ∈ ret ∨ ∃ required ∈ requiredIds, id ∈ required)
  | ret, [] => by simp [mergeShareRequireFrom]
  | ret, req :: rest => by
      by_cases empty : req = []
      · simp [mergeShareRequireFrom, empty]
      have merged : id ∈ (if ret = [] then newSortedStrings req else merge ret req) ↔ id ∈ ret ∨ id ∈ req := by
        split_ifs with fresh
        · simp [fresh, newSortedStrings]
        · exact mem_merge
      rw [mergeShareRequireFrom, if_pos (List.length_pos.mpr empty), mem_mergeShareRequireFrom _ rest, merged]
      simp only [List.mem_cons, forall_eq_or_imp, exists_eq_or_imp, ne_eq, empty, not_false_eq_true, true_and, or_assoc]

/-- The required domains are the union of the lists, or none if one list is empty. -/
theorem mem_iSharableMergeShareRequireDomainIds (requiredIds : List (List String)) (id : String) :
    id ∈ iSharableMergeShareRequireDomainIds requiredIds ↔
      (∀ required ∈ requiredIds, required ≠ []) ∧ ∃ required ∈ requiredIds, id ∈ required := by
  simp [iSharableMergeShareRequireDomainIds, mem_mergeShareRequireFrom]

end OneCloud.Db
