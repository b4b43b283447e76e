/-
How `PoolMgr::LoadFromDB` reads `pool_pool`. Every accepted row becomes a member
of the group of its mother pool and an entry of the search map, from the pool to
its mother. With one row for each pool the two describe the same relation.
-/

import DarkCore.Pools.PoolNesting

namespace DarkCore.Pools

open Lib

/-- A row of `pool_pool` -/
structure PoolPoolRow where
  poolId : Nat
  motherPool : Nat
  chance : ℚ

/-- `mPoolPoolGroups` and `mPoolSearchMap` -/
structure PoolPools where
  groups : Nat → PoolGroup := fun _ => {}
  searchMap : OrdMap Nat Nat := .empty

namespace PoolGroup

def setPoolId (group : PoolGroup) (poolId : Nat) : PoolGroup := { group with poolId := poolId }

def addEntry (group : PoolGroup) (obj : PoolObject) (maxEntries : Nat) : PoolGroup :=
  if obj.chance ≠ 0 ∧ maxEntries = 1 then
    { group with explicitlyChanced := group.explicitlyChanced ++ [obj] }
  else { group with equalChanced := group.equalChanced ++ [obj] }

def removeOneRelation (group : PoolGroup) (childPool : Nat) : PoolGroup :=
  { group with
    explicitlyChanced := group.explicitlyChanced.eraseP fun obj => obj.guid == childPool
    equalChanced := group.equalChanced.eraseP fun obj => obj.guid == childPool }

end PoolGroup

namespace PoolPools

/-- `std::map::insert` leaves an entry that is there as it is. -/
def insertPair (searchMap : OrdMap Nat Nat) (childPool motherPool : Nat) : OrdMap Nat Nat :=
  if (searchMap.find childPool).isSome then searchMap
  else searchMap.assign childPool motherPool

def loadRow (maxPoolId : Nat) (maxLimit : Nat → Nat) (loaded : PoolPools) (row : PoolPoolRow) :
    PoolPools :=
  if row.motherPool > maxPoolId then loaded
  else if row.poolId > maxPoolId then loaded
  else if row.motherPool = row.poolId then loaded
  else if row.chance < 0 ∨ row.chance > 100 then loaded
  else
    { groups :=
        Function.update loaded.groups row.motherPool
          (((loaded.groups row.motherPool).setPoolId row.motherPool).addEntry
            { guid := row.poolId, chance := row.chance } (maxLimit row.motherPool))
      searchMap := insertPair loaded.searchMap row.poolId row.motherPool }

def loadRows (maxPoolId : Nat) (maxLimit : Nat → Nat) (rows : List PoolPoolRow) : PoolPools :=
  rows.foldl (loadRow maxPoolId maxLimit) {}

def removeRelation (loaded : PoolPools) (childPool motherPool : Nat) : PoolPools where
  groups :=
    Function.update loaded.groups motherPool
      ((loaded.groups motherPool).removeOneRelation childPool)
  searchMap := loaded.searchMap.erase childPool

/-- The groups and the search map describe the same relation, between different pools that
exist. -/
structure InStep (maxPoolId : Nat) (loaded : PoolPools) : Prop where
  searched : ∀ child mother,
    loaded.searchMap.find child = some mother ↔ child ∈ (loaded.groups mother).guids
  listedOnce : ∀ mother, (loaded.groups mother).guids.Nodup
  poolId_eq : ∀ mother, (loaded.groups mother).isEmpty = false →
    (loaded.groups mother).poolId = mother
  childExists : ∀ child mother, loaded.searchMap.find child = some mother → child ≤ maxPoolId
  motherExists : ∀ child mother, loaded.searchMap.find child = some mother → mother ≤ maxPoolId
  notItself : ∀ child mother, loaded.searchMap.find child = some mother → mother ≠ child

end PoolPools

namespace PoolGroup

variable {group : PoolGroup}

@[simp] theorem guids_setPoolId (poolId : Nat) : (group.setPoolId poolId).guids = group.guids := rfl

@[simp] theorem poolId_addEntry (obj : PoolObject) (maxEntries : Nat) :
    (group.addEntry obj maxEntries).poolId = group.poolId := by
  unfold addEntry
  split <;> rfl

theorem guids_addEntry_perm (obj : PoolObject) (maxEntries : Nat) :
    (group.addEntry obj maxEntries).guids.Perm (obj.guid :: group.guids) := by
  unfold addEntry guids
  split
  · grind
  · simp

theorem guids_removeOneRelation (childPool : Nat) :
    (group.removeOneRelation childPool).guids =
      (group.equalChanced.map PoolObject.guid).erase childPool ++
        (group.explicitlyChanced.map PoolObject.guid).erase childPool := by
  simp only [guids, removeOneRelation, List.map_append, List.erase_eq_eraseP', List.eraseP_map,
    Function.comp_def]

theorem guids_eq_append : group.guids =
    group.equalChanced.map PoolObject.guid ++ group.explicitlyChanced.map PoolObject.guid :=
  List.map_append

theorem mem_guids_removeOneRelation (distinct : group.guids.Nodup) {childPool child : Nat} :
    child ∈ (group.removeOneRelation childPool).guids ↔
      child ≠ childPool ∧ child ∈ group.guids := by
  rw [guids_eq_append, List.nodup_append] at distinct
  rw [guids_removeOneRelation, guids_eq_append, List.mem_append, List.mem_append,
    distinct.1.mem_erase_iff, distinct.2.1.mem_erase_iff, ← and_or_left]

theorem nodup_guids_removeOneRelation (distinct : group.guids.Nodup) (childPool : Nat) :
    (group.removeOneRelation childPool).guids.Nodup := by
  rw [guids_eq_append] at distinct
  rw [guids_removeOneRelation]
  exact distinct.sublist (List.erase_sublist.append List.erase_sublist)

theorem isEmpty_removeOneRelation {childPool : Nat}
    (nonempty : (group.removeOneRelation childPool).isEmpty = false) : group.isEmpty = false := by
  obtain ⟨poolId, explicit, equal⟩ := group
  cases explicit with
  | cons obj rest => rfl
  | nil =>
    cases equal with
    | cons obj rest => rfl
    | nil => exact nonempty

end PoolGroup

namespace PoolPools

variable {maxPoolId : Nat} {maxLimit : Nat → Nat} {loaded : PoolPools} {row : PoolPoolRow}
  {rows : List PoolPoolRow}

theorem find_insertPair (searchMap : OrdMap Nat Nat) {childPool : Nat} (motherPool : Nat)
    (new : searchMap.find childPool = none) (child : Nat) :
    (insertPair searchMap childPool motherPool).find child =
      if child = childPool then some motherPool else searchMap.find child := by
  unfold insertPair
  rw [new, if_neg (by decide), OrdMap.find_assign, Function.update_apply]

theorem loadRow_cases (maxPoolId : Nat) (maxLimit : Nat → Nat) (loaded : PoolPools)
    (row : PoolPoolRow) :
    loadRow maxPoolId maxLimit loaded row = loaded ∨
      (row.motherPool ≤ maxPoolId ∧ row.poolId ≤ maxPoolId ∧ row.motherPool ≠ row.poolId ∧
        (loadRow maxPoolId maxLimit loaded row).searchMap =
          insertPair loaded.searchMap row.poolId row.motherPool ∧
        ∃ obj : PoolObject, obj.guid = row.poolId ∧ (loadRow maxPoolId maxLimit loaded row).groups =
            Function.update loaded.groups row.motherPool
              (((loaded.groups row.motherPool).setPoolId row.motherPool).addEntry obj
                (maxLimit row.motherPool))) := by
  by_cases motherExists : row.motherPool > maxPoolId
  · exact Or.inl (if_pos motherExists)
  · by_cases childExists : row.poolId > maxPoolId
    · simp_all [loadRow]
    · by_cases itself : row.motherPool = row.poolId
      · simp_all [loadRow]
      · by_cases invalid : row.chance < 0 ∨ row.chance > 100
        · simp_all [loadRow]
        · grind [loadRow]

theorem InStep.loadRow (inStep : loaded.InStep maxPoolId)
    (new : loaded.searchMap.find row.poolId = none) :
    (loadRow maxPoolId maxLimit loaded row).InStep maxPoolId := by
  rcases loadRow_cases maxPoolId maxLimit loaded row with
    skipped | ⟨motherExists, childExists, apart, searchMap, obj, named, groups⟩
  · simp_all
  · have find := find_insertPair loaded.searchMap row.motherPool new
    have unlisted : ∀ mother, row.poolId ∉ (loaded.groups mother).guids := by
      intro mother listed
      cases new.symm.trans ((inStep.searched _ mother).mpr listed)
    have perm := ((loaded.groups row.motherPool).setPoolId row.motherPool).guids_addEntry_perm obj
      (maxLimit row.motherPool)
    rw [named, PoolGroup.guids_setPoolId] at perm
    constructor
    case searched =>
      intro child mother
      rw [searchMap, groups, find]
      by_cases here : mother = row.motherPool
      · subst here
        rw [Function.update_self, perm.mem_iff, List.mem_cons, ← inStep.searched]
        by_cases same : child = row.poolId <;> simp [same]
      · rw [Function.update_of_ne here, ← inStep.searched]
        by_cases same : child = row.poolId
        · simp [same, new, Ne.symm here]
        · simp [same]
    case listedOnce =>
      intro mother
      rw [groups]
      by_cases here : mother = row.motherPool
      · subst here
        rw [Function.update_self, perm.nodup_iff, List.nodup_cons]
        exact ⟨unlisted _, inStep.listedOnce _⟩
      · rw [Function.update_of_ne here]
        exact inStep.listedOnce mother
    case poolId_eq =>
      intro mother
      rw [groups]
      by_cases here : mother = row.motherPool
      · subst here
        rw [Function.update_self, PoolGroup.poolId_addEntry]
        intro _
        rfl
      · rw [Function.update_of_ne here]
        exact inStep.poolId_eq mother
    case childExists =>
      intro child mother
      rw [searchMap, find]
      split
      · omega
      · exact inStep.childExists child mother
    case motherExists =>
      intro child mother
      rw [searchMap, find]
      split
      · grind
      · exact inStep.motherExists child mother
    case notItself =>
      intro child mother
      rw [searchMap, find]
      split
      · grind
      · exact inStep.notItself child mother

theorem find_loadRow_none {child : Nat} (new : loaded.searchMap.find child = none)
    (other : child ≠ row.poolId) :
    (PoolPools.loadRow maxPoolId maxLimit loaded row).searchMap.find child = none := by
  rcases loadRow_cases maxPoolId maxLimit loaded row with skipped | ⟨_, _, _, searchMap, _⟩
  · simp_all
  · rw [searchMap]
    unfold insertPair
    split
    · exact new
    · rw [OrdMap.find_assign, Function.update_of_ne other]
      exact new

theorem InStep.empty : ({} : PoolPools).InStep maxPoolId where
  searched child mother := by simp [OrdMap.find, OrdMap.empty, OrdMap.findEntries, PoolGroup.guids]
  listedOnce _ := List.nodup_nil
  poolId_eq _ nonempty := by cases nonempty
  childExists _ _ found := by cases found
  motherExists _ _ found := by cases found
  notItself _ _ found := by cases found

theorem InStep.foldl_loadRow (inStep : loaded.InStep maxPoolId)
    (oneMother : (rows.map PoolPoolRow.poolId).Nodup)
    (new : ∀ row ∈ rows, loaded.searchMap.find row.poolId = none) :
    (rows.foldl (PoolPools.loadRow maxPoolId maxLimit) loaded).InStep maxPoolId := by
  induction rows generalizing loaded with
  | nil => exact inStep
  | cons row rows ih =>
    rw [List.map_cons, List.nodup_cons] at oneMother
    refine ih (inStep.loadRow (new row List.mem_cons_self)) oneMother.2 ?_
    intro other later
    refine find_loadRow_none (new other (List.mem_cons_of_mem row later)) ?_
    intro same
    exact oneMother.1 (same ▸ List.mem_map_of_mem later)

theorem inStep_loadRows (maxPoolId : Nat) (maxLimit : Nat → Nat)
    (oneMother : (rows.map PoolPoolRow.poolId).Nodup) :
    (loadRows maxPoolId maxLimit rows).InStep maxPoolId :=
  InStep.empty.foldl_loadRow oneMother fun _ _ => rfl

theorem find_removeRelation (childPool motherPool : Nat) :
    (loaded.removeRelation childPool motherPool).searchMap.find =
      Function.update loaded.searchMap.find childPool none := by
  rw [removeRelation, OrdMap.find_erase]

theorem groups_removeRelation (childPool motherPool : Nat) :
    (loaded.removeRelation childPool motherPool).groups =
      Function.update loaded.groups motherPool
        ((loaded.groups motherPool).removeOneRelation childPool) := rfl

theorem of_find_removeRelation {childPool motherPool child mother : Nat}
    (found : (loaded.removeRelation childPool motherPool).searchMap.find child = some mother) :
    child ≠ childPool ∧ loaded.searchMap.find child = some mother := by
  rw [find_removeRelation, Function.update_apply] at found
  split at found
  · cases found
  · simp_all

theorem InStep.removeRelation (inStep : loaded.InStep maxPoolId) {childPool motherPool : Nat}
    (link : loaded.searchMap.find childPool = some motherPool) :
    (loaded.removeRelation childPool motherPool).InStep maxPoolId where
  searched child mother := by
    rw [find_removeRelation, Function.update_apply]
    rw [groups_removeRelation]
    by_cases here : mother = motherPool
    · subst here
      rw [Function.update_self, PoolGroup.mem_guids_removeOneRelation (inStep.listedOnce mother),
        ← inStep.searched]
      by_cases same : child = childPool <;> simp [same]
    · rw [Function.update_of_ne here, ← inStep.searched]
      by_cases same : child = childPool
      · simp [same, link, Ne.symm here]
      · simp [same]
  listedOnce mother := by
    rw [groups_removeRelation]
    by_cases here : mother = motherPool
    · subst here
      rw [Function.update_self]
      exact PoolGroup.nodup_guids_removeOneRelation (inStep.listedOnce mother) childPool
    · rw [Function.update_of_ne here]
      exact inStep.listedOnce mother
  poolId_eq mother := by
    rw [groups_removeRelation]
    by_cases here : mother = motherPool
    · subst here
      rw [Function.update_self]
      intro nonempty
      exact inStep.poolId_eq mother (PoolGroup.isEmpty_removeOneRelation nonempty)
    · rw [Function.update_of_ne here]
      exact inStep.poolId_eq mother
  childExists child mother found :=
    inStep.childExists child mother (of_find_removeRelation found).2
  motherExists child mother found :=
    inStep.motherExists child mother (of_find_removeRelation found).2
  notItself child mother found := inStep.notItself child mother (of_find_removeRelation found).2

end PoolPools

end DarkCore.Pools
