/-
The check for circular references in `PoolMgr::LoadFromDB`. From every pool the
walk follows the links up to the mothers until there is none or the next one
leads back to where the walk has been; that link is removed. In the end no pool is
below itself, so that `SpawnPool` and `DespawnPool`, which call themselves for
the pools in a pool, return.
-/

import DarkCore.Lib.Forest
import DarkCore.Lib.Loops
import DarkCore.Pools.PoolCounts
import DarkCore.Pools.PoolLoading

namespace DarkCore.Pools

open Lib

/-- The pools as they are now, `checkedPools` and the key of the iterator -/
structure Walk where
  loaded : PoolPools
  checkedPools : List Nat
  pool : Nat

def Walk.round (walk : Walk) : Option (Walk × Bool) :=
  match walk.loaded.searchMap.find walk.pool with
  | none => none
  | some mother =>
    let checkedPools := walk.checkedPools.insert walk.pool
    if mother ∈ checkedPools then
      some ({ walk with
        loaded := walk.loaded.removeRelation walk.pool mother
        checkedPools := checkedPools }, false)
    else some ({ walk with checkedPools := checkedPools, pool := mother }, true)

namespace PoolPools

def startWalk (loaded : PoolPools) (pool : Nat) : Walk where
  loaded := loaded
  checkedPools := []
  pool := pool

def checkFrom (loaded : PoolPools) (pool : Nat) : PoolPools :=
  (loopFor Walk.round (loaded.searchMap.entries.length + 1) (loaded.startWalk pool)).loaded

def removeCircles (maxPoolId : Nat) (loaded : PoolPools) : PoolPools :=
  (List.range maxPoolId).foldl checkFrom loaded

/-- The part of `LoadFromDB` about pools of pools -/
def load (maxPoolId : Nat) (maxLimit : Nat → Nat) (rows : List PoolPoolRow) : PoolPools :=
  removeCircles maxPoolId (loadRows maxPoolId maxLimit rows)

def MotherOf (loaded : PoolPools) (child mother : Nat) : Prop :=
  Under loaded.searchMap.find child mother

end PoolPools

structure Walks (loaded : PoolPools) (start : Nat) (walk : Walk) : Prop where
  same : walk.loaded = loaded
  climbs : Climbs loaded.searchMap.find start walk.checkedPools walk.pool

variable {loaded : PoolPools} {start : Nat} {walk next last : Walk} {maxPoolId pool : Nat}

theorem round_eq_none : walk.round = none ↔ walk.loaded.searchMap.find walk.pool = none := by
  unfold Walk.round
  cases walk.loaded.searchMap.find walk.pool with
  | none => simp
  | some mother =>
    grind

section

variable (walks : Walks loaded start walk)
include walks

theorem Walks.goesOn (more : walk.round = some (next, true)) :
    Walks loaded start next ∧ next.checkedPools = walk.pool :: walk.checkedPools := by
  have insert := List.insert_of_not_mem walks.climbs.not_mem
  unfold Walk.round at more
  cases found : walk.loaded.searchMap.find walk.pool with
  | none => simp [found] at more
  | some mother =>
    rw [found] at more
    dsimp only at more
    rw [insert] at more
    split at more
    · simp at more
    · rename_i new
      cases more
      rw [walks.same] at found
      exact ⟨⟨walks.same, walks.climbs.up found new⟩, rfl⟩

theorem Walks.breaksOff
    (left : walk.round = some (last, false)) :
    ∃ mother, loaded.searchMap.find walk.pool = some mother ∧
      last.loaded = loaded.removeRelation walk.pool mother := by
  unfold Walk.round at left
  cases found : walk.loaded.searchMap.find walk.pool with
  | none => simp [found] at left
  | some mother =>
    rw [found] at left
    dsimp only at left
    rw [walks.same] at left found
    split at left
    · grind
    · simp at left

theorem Walks.length_le :
    walk.checkedPools.length ≤ loaded.searchMap.entries.length := by
  have linked : walk.checkedPools ⊆ loaded.searchMap.entries.map Prod.fst := by
    intro checked member
    obtain ⟨mother, link⟩ := walks.climbs.linked member
    exact OrdMap.mem_keys.mpr (by rw [link]; exact Option.some_ne_none mother)
  have shorter := (walks.climbs.nodup.subperm linked).length_le
  rwa [List.length_map] at shorter

end

theorem Walks.startWalk (loaded : PoolPools) (pool : Nat) :
    Walks loaded pool (loaded.startWalk pool) where
  same := rfl
  climbs := Climbs.here

theorem loop_checkFrom (loaded : PoolPools) (pool : Nat) :
    Loop Walk.round (loaded.startWalk pool)
      (loopFor Walk.round (loaded.searchMap.entries.length + 1) (loaded.startWalk pool)) := by
  have falls : ∀ walk next, Walks loaded pool walk → walk.round = some (next, true) →
      Walks loaded pool next ∧
        loaded.searchMap.entries.length - next.checkedPools.length <
          loaded.searchMap.entries.length - walk.checkedPools.length := by
    intro walk next walks more
    obtain ⟨walksOn, checked⟩ := walks.goesOn more
    have enough := walksOn.length_le
    refine ⟨walksOn, ?_⟩
    rw [checked, List.length_cons] at enough ⊢
    omega
  exact loop_loopFor falls (Walks.startWalk loaded pool)
    (Nat.lt_succ_of_le (Nat.sub_le _ _))

theorem checkFrom_cases (loaded : PoolPools) (pool : Nat) :
    Ends (loaded.checkFrom pool).searchMap.find pool ∧
      (loaded.checkFrom pool = loaded ∨ ∃ child mother, loaded.searchMap.find child = some mother ∧
          loaded.checkFrom pool = loaded.removeRelation child mother) := by
  refine @Loop.result _ _ (Walks loaded pool)
    (fun last => Ends last.loaded.searchMap.find pool ∧
      (last.loaded = loaded ∨ ∃ child mother, loaded.searchMap.find child = some mother ∧
        last.loaded = loaded.removeRelation child mother))
    (fun _ _ walks more => (walks.goesOn more).1) ?_ ?_ _ _ (Walks.startWalk loaded pool)
    (loop_checkFrom loaded pool)
  · intro walk walks atEnd
    have isRoot := round_eq_none.mp atEnd
    rw [walks.same] at isRoot ⊢
    exact ⟨walks.climbs.ends (fun _ _ => rfl) ⟨0, .root isRoot⟩, Or.inl rfl⟩
  · intro walk last walks left
    obtain ⟨mother, link, removed⟩ := walks.breaksOff left
    rw [removed, PoolPools.find_removeRelation]
    exact ⟨walks.climbs.ends_cut, Or.inr ⟨walk.pool, mother, link, rfl⟩⟩

namespace PoolPools

theorem InStep.checkFrom (inStep : loaded.InStep maxPoolId) (pool : Nat) :
    (loaded.checkFrom pool).InStep maxPoolId := by
  rcases (checkFrom_cases loaded pool).2 with same | ⟨child, mother, link, removed⟩
  · simp_all
  · rw [removed]
    exact inStep.removeRelation link

theorem ends_checkFrom {other : Nat} (ends : Ends loaded.searchMap.find other) (pool : Nat) :
    Ends (loaded.checkFrom pool).searchMap.find other := by
  rcases (checkFrom_cases loaded pool).2 with same | ⟨child, mother, _, removed⟩
  · simp_all
  · rw [removed, find_removeRelation]
    exact ends.cut child

theorem removeCircles_succ (count : Nat) (loaded : PoolPools) :
    removeCircles (count + 1) loaded = (removeCircles count loaded).checkFrom count := by
  unfold removeCircles
  rw [List.range_succ, List.foldl_append]
  rfl

section

variable (inStep : loaded.InStep maxPoolId)
include inStep

theorem removeCircles_spec (count : Nat) :
    (removeCircles count loaded).InStep maxPoolId ∧
      ∀ pool < count, Ends (removeCircles count loaded).searchMap.find pool := by
  induction count with
  | zero => exact ⟨inStep, fun pool below => absurd below (Nat.not_lt_zero pool)⟩
  | succ count ih =>
    rw [removeCircles_succ]
    refine ⟨ih.1.checkFrom count, ?_⟩
    intro pool below
    rcases Nat.lt_succ_iff_lt_or_eq.mp below with earlier | rfl
    · exact ends_checkFrom (ih.2 pool earlier) count
    · exact (checkFrom_cases _ pool).1

theorem InStep.ends
    (below : ∀ pool < maxPoolId, Ends loaded.searchMap.find pool) (pool : Nat) :
    Ends loaded.searchMap.find pool := by
  cases found : loaded.searchMap.find pool with
  | none => exact ⟨0, .root found⟩
  | some mother =>
    have here := inStep.childExists pool mother found
    by_cases walked : pool < maxPoolId
    · exact below pool walked
    · have motherHere := inStep.motherExists pool mother found
      have apart := inStep.notItself pool mother found
      exact (below mother (by omega)).under found

theorem InStep.exists_depth
    (ends : ∀ pool, Ends loaded.searchMap.find pool) :
    ∃ depth : Nat → Nat, ∀ pool child, child ∈ (loaded.groups pool).guids →
      depth child < depth pool := by
  obtain ⟨depth, falls⟩ := exists_measure (loaded.searchMap.entries.map Prod.fst).toFinset ends
    (fun child mother link => List.mem_toFinset.mpr (OrdMap.mem_keys.mpr (by simp [link])))
  exact ⟨depth, fun pool child listed => falls child pool ((inStep.searched child pool).mpr listed)⟩

end

def InStep.tableOf (base : PoolTable) {loaded : PoolPools} (inStep : loaded.InStep base.maxPoolId)
    (depth : Nat → Nat)
    (nested : ∀ pool child, child ∈ (loaded.groups pool).guids → depth child < depth pool) :
    PoolTable where
  maxPoolId := base.maxPoolId
  maxLimit := base.maxLimit
  groups := Function.update base.groups .pool loaded.groups
  searchMap := Function.update base.searchMap .pool loaded.searchMap
  questTemplate := base.questTemplate
  depth := depth
  maxLimit_lt := base.maxLimit_lt
  poolId_eq kind pool := by
    cases kind with
    | pool => exact inStep.poolId_eq pool
    | creature => exact base.poolId_eq .creature pool
    | gameObject => exact base.poolId_eq .gameObject pool
    | quest => exact base.poolId_eq .quest pool
  listedOnce kind pool := by
    cases kind with
    | pool => exact inStep.listedOnce pool
    | creature => exact base.listedOnce .creature pool
    | gameObject => exact base.listedOnce .gameObject pool
    | quest => exact base.listedOnce .quest pool
  searched kind guid pool := by
    cases kind with
    | pool => exact inStep.searched guid pool
    | creature => exact base.searched .creature guid pool
    | gameObject => exact base.searched .gameObject guid pool
    | quest => exact base.searched .quest guid pool
  nested := nested

/-- The table as `LoadFromDB` leaves it: the pools of pools from the rows, everything else as it
was. -/
structure Holds (table base : PoolTable) (loaded : PoolPools) : Prop where
  maxPoolId : table.maxPoolId = base.maxPoolId
  maxLimit : table.maxLimit = base.maxLimit
  questTemplate : table.questTemplate = base.questTemplate
  poolGroups : table.groups .pool = loaded.groups
  poolSearchMap : table.searchMap .pool = loaded.searchMap
  otherGroups : ∀ kind, kind ≠ .pool → table.groups kind = base.groups kind
  otherSearchMaps : ∀ kind, kind ≠ .pool → table.searchMap kind = base.searchMap kind

/-- The circles are removed from every relation that the rows describe: what is left is in step
and without circles, and spawning and despawning a pool returns. -/
theorem load_terminates (base : PoolTable) (rows : List PoolPoolRow)
    (oneMother : (rows.map PoolPoolRow.poolId).Nodup) :
    let loaded := load base.maxPoolId base.maxLimit rows
    (∀ child mother,
      loaded.searchMap.find child = some mother ↔ child ∈ (loaded.groups mother).guids) ∧
    (∀ pool, ¬ Relation.TransGen loaded.MotherOf pool pool) ∧
    ∃ table : PoolTable, Holds table base loaded ∧
      ∀ pool, PoolTable.Returns table.spawnPoolBy table.spawnPool pool ∧
        PoolTable.Returns table.despawnPoolBy table.despawnPool pool := by
  intro loaded
  have loadedInStep := inStep_loadRows base.maxPoolId base.maxLimit oneMother
  obtain ⟨inStep, below⟩ := removeCircles_spec loadedInStep base.maxPoolId
  have ends := inStep.ends below
  obtain ⟨depth, nested⟩ := inStep.exists_depth ends
  refine ⟨inStep.searched, fun pool => (ends pool).acyclic,
    inStep.tableOf base depth nested, ?_, ?_⟩
  · constructor
    case otherGroups => exact fun kind other => Function.update_of_ne other _ _
    case otherSearchMaps => exact fun kind other => Function.update_of_ne other _ _
    all_goals rfl
  · intro pool
    exact ⟨PoolTable.spawnPool_returns _ pool, PoolTable.despawnPool_returns _ pool⟩

def circleRows : List PoolPoolRow := [⟨1, 2, 0⟩, ⟨2, 3, 50⟩, ⟨3, 1, 0⟩, ⟨0, 1, 0⟩]

/-- The walk from the pool outside of the circle removes the link that closes it. -/
theorem load_terminates_circle :
    let loaded := load dailies.maxPoolId dailies.maxLimit circleRows
    loaded.searchMap.entries = [(0, 1), (1, 2), (2, 3)] ∧
      (∀ pool, ¬ Relation.TransGen loaded.MotherOf pool pool) ∧
      ∃ table : PoolTable, Holds table dailies loaded ∧
        ∀ pool, PoolTable.Returns table.spawnPoolBy table.spawnPool pool ∧
          PoolTable.Returns table.despawnPoolBy table.despawnPool pool :=
  ⟨by decide +kernel, (load_terminates dailies circleRows (by decide)).2⟩

end PoolPools

end DarkCore.Pools
