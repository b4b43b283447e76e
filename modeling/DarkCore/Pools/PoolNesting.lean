/-
Pools in pools. `SpawnPool` and `DespawnPool` call themselves for the pools that
a pool lists, which are nested less deep than the pool itself. The recursion of
the model is bounded by a depth; any depth beyond that of the pool gives the
same result, so the model satisfies the equations of the source.
-/

import DarkCore.Pools.PoolMgr

namespace DarkCore.Pools

open Lib

namespace PoolGroup

variable {group : PoolGroup} {spawns : ActivePoolData} {kind : Kind} {triggerFrom : Nat}
  {dice : Dice} {obj : PoolObject}

theorem mem_guids_of_equal (listed : obj ∈ group.equalChanced) : obj.guid ∈ group.guids :=
  List.mem_map_of_mem (List.mem_append_left _ listed)

theorem mem_guids_of_explicit (listed : obj ∈ group.explicitlyChanced) :
    obj.guid ∈ group.guids :=
  List.mem_map_of_mem (List.mem_append_right _ listed)

theorem isEmpty_eq_false (listed : group.guids ≠ []) : group.isEmpty = false := by
  obtain ⟨poolId, explicit, equal⟩ := group
  cases explicit with
  | cons obj rest => rfl
  | nil =>
    cases equal with
    | cons obj rest => rfl
    | nil => exact absurd rfl listed

theorem guids_of_isEmpty (empty : group.isEmpty = true) : group.guids = [] := by
  by_contra listed
  rw [isEmpty_eq_false listed] at empty
  cases empty

variable {objects : List PoolObject} {state : State}

theorem rollExplicit_spec {roll : ℚ}
    (rolled : rollExplicit spawns kind triggerFrom objects roll = some obj) :
    obj ∈ objects ∧ canBeRolled spawns kind triggerFrom obj.guid = true := by
  induction objects generalizing roll with
  | nil => cases rolled
  | cons head rest ih =>
    unfold rollExplicit at rolled
    split at rolled
    · simp_all
    · obtain ⟨listed, eligible⟩ := ih rolled
      exact ⟨List.mem_cons_of_mem head listed, eligible⟩

theorem rollEqual_spec {index : Nat}
    (rolled : rollEqual spawns kind triggerFrom objects index = some obj) :
    obj ∈ objects ∧ canBeRolled spawns kind triggerFrom obj.guid = true := by
  obtain ⟨found, eligible⟩ := Option.filter_eq_some_iff.mp rolled
  exact ⟨List.mem_of_getElem? found, eligible⟩

theorem rollOne_spec (rolled : (group.rollOne spawns kind triggerFrom dice).1 = some obj) :
    obj.guid ∈ group.guids ∧
      (obj.guid = triggerFrom ∨ spawns.isActiveObject kind obj.guid = false) := by
  have listed : obj.guid ∈ group.guids ∧
      canBeRolled spawns kind triggerFrom obj.guid = true := by
    unfold rollOne at rolled
    dsimp only at rolled
    split at rolled
    · rename_i found
      cases rolled
      exact (rollExplicit_spec found).imp_left mem_guids_of_explicit
    · split at rolled
      · cases rolled
      · exact (rollEqual_spec rolled).imp_left mem_guids_of_equal
  refine listed.imp_right ?_
  intro eligible
  unfold canBeRolled at eligible
  rw [Bool.or_eq_true, beq_iff_eq, Bool.not_eq_true'] at eligible
  exact eligible

variable {despawn despawn' spawn spawn' : Nat → State → State}

theorem despawnObjects_congr {poolId guid : Nat}
    (same : ∀ obj ∈ objects, despawn obj.guid = despawn' obj.guid) :
    despawnObjects despawn kind poolId guid objects state =
      despawnObjects despawn' kind poolId guid objects state := by
  induction objects generalizing state with
  | nil => rfl
  | cons obj rest ih =>
    have later : ∀ other ∈ rest, despawn other.guid = despawn' other.guid :=
      fun other listed => same other (List.mem_cons_of_mem obj listed)
    unfold despawnObjects
    rw [same obj List.mem_cons_self, ih later, ih later]

theorem despawnObject_congr {guid : Nat}
    (same : ∀ child ∈ group.guids, despawn child = despawn' child) :
    group.despawnObject despawn kind guid state = group.despawnObject despawn' kind guid state := by
  have sameEqual : ∀ obj ∈ group.equalChanced, despawn obj.guid = despawn' obj.guid :=
    fun obj listed => same obj.guid (mem_guids_of_equal listed)
  have sameExplicit : ∀ obj ∈ group.explicitlyChanced, despawn obj.guid = despawn' obj.guid :=
    fun obj listed => same obj.guid (mem_guids_of_explicit listed)
  unfold despawnObject
  rw [despawnObjects_congr sameEqual, despawnObjects_congr sameExplicit]

theorem spawnObjects_congr {left lastDespawned : Nat}
    (same : ∀ child ∈ group.guids, spawn child = spawn' child) :
    group.spawnObjects spawn despawn kind left triggerFrom lastDespawned state =
      group.spawnObjects spawn' despawn kind left triggerFrom lastDespawned state := by
  induction left generalizing triggerFrom lastDespawned state with
  | zero => rfl
  | succ left ih =>
    unfold spawnObjects
    dsimp only
    split
    · exact ih
    · rename_i obj rolled
      rw [same obj.guid (rollOne_spec rolled).1, ih, ih, ih, ih]

theorem spawnObject_congr {limit : Nat}
    (same : ∀ child ∈ group.guids, spawn child = spawn' child) :
    group.spawnObject spawn despawn kind limit triggerFrom state =
      group.spawnObject spawn' despawn kind limit triggerFrom state :=
  spawnObjects_congr same

end PoolGroup

namespace PoolTable

variable {table : PoolTable} {depth pool : Nat} {state : State}

theorem despawnGroup_congr {despawn despawn' : Nat → State → State} {kind : Kind}
    (same : ∀ child ∈ (table.groups .pool pool).guids, despawn child = despawn' child) :
    table.despawnGroup despawn kind pool state = table.despawnGroup despawn' kind pool state := by
  unfold despawnGroup
  dsimp only
  cases kind with
  | pool =>
    unfold object1
    rw [PoolGroup.despawnObject_congr same]
  | creature | gameObject | quest => rfl

theorem spawnGroup_congr {spawn spawn' : Nat → State → State} {kind : Kind} {triggerFrom : Nat}
    (same : ∀ child ∈ (table.groups .pool pool).guids, spawn child = spawn' child) :
    table.spawnGroup spawn kind pool triggerFrom state =
      table.spawnGroup spawn' kind pool triggerFrom state := by
  unfold spawnGroup
  dsimp only
  cases kind with
  | pool =>
    rw [if_neg (by decide : Kind.pool ≠ Kind.quest), if_neg (by decide : Kind.pool ≠ Kind.quest)]
    unfold object1
    rw [PoolGroup.spawnObject_congr same]
  | creature | gameObject | quest => rfl

theorem deep_enough {run : Nat → Nat → State → State}
    (inner : ∀ below other pool,
      (∀ child ∈ (table.groups .pool pool).guids, run below child = run other child) →
      run (below + 1) pool = run (other + 1) pool)
    (enough : table.depth pool < depth) : run depth pool = run (table.depth pool + 1) pool := by
  induction depth using Nat.strong_induction_on generalizing pool with
  | h depth ih =>
    obtain ⟨below, rfl⟩ : ∃ below, depth = below + 1 := ⟨depth - 1, by omega⟩
    apply inner
    intro child listed
    have nested := table.nested pool child listed
    rw [ih below (Nat.lt_succ_self below) (by omega), ih (table.depth pool) enough nested]

theorem despawnPoolTo_eq (enough : table.depth pool < depth) :
    table.despawnPoolTo depth pool = table.despawnPool pool := by
  refine deep_enough (fun below other pool same => ?_) enough
  funext state
  unfold despawnPoolTo
  dsimp only
  rw [despawnGroup_congr same, despawnGroup_congr same, despawnGroup_congr same,
    despawnGroup_congr same]

theorem spawnPoolTo_eq (enough : table.depth pool < depth) :
    table.spawnPoolTo depth pool = table.spawnPool pool := by
  refine deep_enough (fun below other pool same => ?_) enough
  funext state
  unfold spawnPoolTo
  dsimp only
  rw [spawnGroup_congr same, spawnGroup_congr same, spawnGroup_congr same, spawnGroup_congr same]

/-- `PoolMgr::DespawnPool` -/
theorem despawnPool_eq (pool : Nat) (state : State) :
    table.despawnPool pool state =
      table.despawnGroup table.despawnPool .quest pool
        (table.despawnGroup table.despawnPool .pool pool
          (table.despawnGroup table.despawnPool .gameObject pool
            (table.despawnGroup table.despawnPool .creature pool state))) := by
  have same : ∀ child ∈ (table.groups .pool pool).guids,
      table.despawnPoolTo (table.depth pool) child = table.despawnPool child :=
    fun child listed => despawnPoolTo_eq (table.nested pool child listed)
  conv_lhs => unfold despawnPool despawnPoolTo
  dsimp only
  rw [despawnGroup_congr same, despawnGroup_congr same, despawnGroup_congr same,
    despawnGroup_congr same]

/-- `PoolMgr::SpawnPool` -/
theorem spawnPool_eq (pool : Nat) (state : State) :
    table.spawnPool pool state =
      table.spawnGroup table.spawnPool .quest pool 0
        (table.spawnGroup table.spawnPool .creature pool 0
          (table.spawnGroup table.spawnPool .gameObject pool 0
            (table.spawnGroup table.spawnPool .pool pool 0 state))) := by
  have same : ∀ child ∈ (table.groups .pool pool).guids,
      table.spawnPoolTo (table.depth pool) child = table.spawnPool child :=
    fun child listed => spawnPoolTo_eq (table.nested pool child listed)
  conv_lhs => unfold spawnPool spawnPoolTo
  dsimp only
  rw [spawnGroup_congr same, spawnGroup_congr same, spawnGroup_congr same, spawnGroup_congr same]

/-- The body of `DespawnPool`, with what its calls of itself do -/
def despawnPoolBy (table : PoolTable) (calls : Nat → State → State) (pool : Nat) (state : State) :
    State :=
  table.despawnGroup calls .quest pool
    (table.despawnGroup calls .pool pool (table.despawnGroup calls .gameObject pool
        (table.despawnGroup calls .creature pool state)))

/-- The body of `SpawnPool`, with what its calls of itself do -/
def spawnPoolBy (table : PoolTable) (calls : Nat → State → State) (pool : Nat) (state : State) :
    State :=
  table.spawnGroup calls .quest pool 0
    (table.spawnGroup calls .creature pool 0 (table.spawnGroup calls .gameObject pool 0
        (table.spawnGroup calls .pool pool 0 state)))

def nestedCalls (body : (Nat → State → State) → Nat → State → State)
    (bottom : Nat → State → State) : Nat → Nat → State → State
  | 0 => bottom
  | calls + 1 => body (nestedCalls body bottom calls)

def Returns (body : (Nat → State → State) → Nat → State → State) (result : Nat → State → State)
    (pool : Nat) : Prop :=
  ∃ calls, ∀ bottom, nestedCalls body bottom calls pool = result pool

theorem nestedCalls_eq {body : (Nat → State → State) → Nat → State → State}
    {result : Nat → State → State} {bottom : Nat → State → State}
    (equation : ∀ pool, body result pool = result pool)
    (inner : ∀ pool calls calls', (∀ child ∈ (table.groups .pool pool).guids,
      calls child = calls' child) → body calls pool = body calls' pool)
    (enough : table.depth pool < depth) :
    nestedCalls body bottom depth pool = result pool := by
  induction depth using Nat.strong_induction_on generalizing pool with
  | h depth ih =>
    obtain ⟨below, rfl⟩ : ∃ below, depth = below + 1 := ⟨depth - 1, by omega⟩
    have same : ∀ child ∈ (table.groups .pool pool).guids,
        nestedCalls body bottom below child = result child := by
      intro child listed
      have nested := table.nested pool child listed
      exact ih below (Nat.lt_succ_self below) (by omega)
    unfold nestedCalls
    rw [inner pool _ _ same, equation]

theorem despawnPool_returns (table : PoolTable) (pool : Nat) :
    Returns table.despawnPoolBy table.despawnPool pool := by
  refine ⟨table.depth pool + 1, fun bottom => nestedCalls_eq ?_ ?_ (Nat.lt_succ_self _)⟩
  · intro pool
    funext state
    exact (despawnPool_eq pool state).symm
  · intro pool calls calls' same
    funext state
    unfold despawnPoolBy
    rw [despawnGroup_congr same, despawnGroup_congr same, despawnGroup_congr same,
      despawnGroup_congr same]

theorem spawnPool_returns (table : PoolTable) (pool : Nat) :
    Returns table.spawnPoolBy table.spawnPool pool := by
  refine ⟨table.depth pool + 1, fun bottom => nestedCalls_eq ?_ ?_ (Nat.lt_succ_self _)⟩
  · intro pool
    funext state
    exact (spawnPool_eq pool state).symm
  · intro pool calls calls' same
    funext state
    unfold spawnPoolBy
    rw [spawnGroup_congr same, spawnGroup_congr same, spawnGroup_congr same, spawnGroup_congr same]

end PoolTable

end DarkCore.Pools
