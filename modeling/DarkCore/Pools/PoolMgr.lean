/-
The pool system (`PoolMgr.cpp`: `ActivePoolData`, `PoolGroup<T>`, `PoolMgr`).

A pool spawns up to `MaxLimit` of its members: creatures, game objects, other
pools and quests. The number of spawned members is kept in the same map that
says which pools are active, apart from the sets of active objects. What a spawn
does to the grid and to the quest givers is left out.

The random numbers are part of the state. A chance is a rational number: with
floats, too, the roll goes below zero at one of the chances and stays there.
-/

import DarkCore.Lib.OrdMap
import Mathlib.Algebra.Order.Field.Rat

namespace DarkCore.Pools

open Lib

/-- The template parameter `T` of the source. -/
inductive Kind where
  | creature
  | gameObject
  | pool
  | quest
deriving DecidableEq

/-- The conversion of a `uint32` difference to an `int`. -/
def int32 (number : Int) : Int := number.bmod (2 ^ 32)

/-- `--limit` on a `uint32`. -/
def decrement (limit : Nat) : Nat := (limit + (2 ^ 32 - 1)) % 2 ^ 32

structure Dice where
  chances : Nat → ℚ
  indices : Nat → Nat
  rolled : Nat := 0

def Dice.next (dice : Dice) : Dice := { dice with rolled := dice.rolled + 1 }

def Dice.randChance (dice : Dice) : ℚ := dice.chances dice.rolled

/-- `urand(0, size - 1)` -/
def Dice.urand (dice : Dice) (size : Nat) : Nat := dice.indices dice.rolled % size

abbrev ActivePoolObjects := OrdMap Nat Unit

def guidsOf (objects : ActivePoolObjects) : List Nat := objects.entries.map Prod.fst

structure ActivePoolData where
  spawnedCreatures : ActivePoolObjects := .empty
  spawnedGameobjects : ActivePoolObjects := .empty
  activeQuests : ActivePoolObjects := .empty
  spawnedPools : OrdMap Nat Nat := .empty

namespace ActivePoolData

def getActiveObjectCount (spawns : ActivePoolData) (poolId : Nat) : Nat :=
  (spawns.spawnedPools.find poolId).getD 0

def isActiveObject (spawns : ActivePoolData) : Kind → Nat → Bool
  | .creature, guid => (spawns.spawnedCreatures.find guid).isSome
  | .gameObject, guid => (spawns.spawnedGameobjects.find guid).isSome
  | .pool, guid => (spawns.spawnedPools.find guid).isSome
  | .quest, guid => (spawns.activeQuests.find guid).isSome

/-- `++mSpawnedPools[pool_id]` -/
def countUp (pools : OrdMap Nat Nat) (poolId : Nat) : OrdMap Nat Nat :=
  pools.assign poolId ((pools.find poolId).getD 0 + 1)

/-- `mSpawnedPools[pool_id]` is decremented unless it is zero. -/
def countDown (pools : OrdMap Nat Nat) (poolId : Nat) : OrdMap Nat Nat :=
  pools.assign poolId ((pools.find poolId).getD 0 - 1)

def activateObject (spawns : ActivePoolData) (kind : Kind) (guid poolId : Nat) : ActivePoolData :=
  match kind with
  | .creature =>
    { spawns with
      spawnedCreatures := spawns.spawnedCreatures.assign guid ()
      spawnedPools := countUp spawns.spawnedPools poolId }
  | .gameObject =>
    { spawns with
      spawnedGameobjects := spawns.spawnedGameobjects.assign guid ()
      spawnedPools := countUp spawns.spawnedPools poolId }
  | .pool => { spawns with spawnedPools := countUp (spawns.spawnedPools.assign guid 0) poolId }
  | .quest =>
    { spawns with
      activeQuests := spawns.activeQuests.assign guid ()
      spawnedPools := countUp spawns.spawnedPools poolId }

def removeObject (spawns : ActivePoolData) (kind : Kind) (guid poolId : Nat) : ActivePoolData :=
  match kind with
  | .creature =>
    { spawns with
      spawnedCreatures := spawns.spawnedCreatures.erase guid
      spawnedPools := countDown spawns.spawnedPools poolId }
  | .gameObject =>
    { spawns with
      spawnedGameobjects := spawns.spawnedGameobjects.erase guid
      spawnedPools := countDown spawns.spawnedPools poolId }
  | .pool => { spawns with spawnedPools := countDown (spawns.spawnedPools.erase guid) poolId }
  | .quest =>
    { spawns with
      activeQuests := spawns.activeQuests.erase guid
      spawnedPools := countDown spawns.spawnedPools poolId }

end ActivePoolData

/-- The active objects, the table `pool_quest_save` and the random numbers to come. -/
structure State where
  spawns : ActivePoolData := {}
  saved : Nat → ActivePoolObjects
  dice : Dice

structure PoolObject where
  guid : Nat
  chance : ℚ := 0

structure PoolGroup where
  poolId : Nat := 0
  explicitlyChanced : List PoolObject := []
  equalChanced : List PoolObject := []

namespace PoolGroup

def isEmpty (group : PoolGroup) : Bool :=
  group.explicitlyChanced.isEmpty && group.equalChanced.isEmpty

def guids (group : PoolGroup) : List Nat :=
  (group.equalChanced ++ group.explicitlyChanced).map PoolObject.guid

def getFirstEqualChancedObjectId (group : PoolGroup) : Nat :=
  match group.equalChanced with
  | [] => 0
  | obj :: _ => obj.guid

def canBeRolled (spawns : ActivePoolData) (kind : Kind) (triggerFrom guid : Nat) : Bool :=
  guid == triggerFrom || !spawns.isActiveObject kind guid

def rollExplicit (spawns : ActivePoolData) (kind : Kind) (triggerFrom : Nat) :
    List PoolObject → ℚ → Option PoolObject
  | [], _ => none
  | obj :: rest, roll =>
    if roll - obj.chance < 0 ∧ canBeRolled spawns kind triggerFrom obj.guid then some obj
    else rollExplicit spawns kind triggerFrom rest (roll - obj.chance)

def rollEqual (spawns : ActivePoolData) (kind : Kind) (triggerFrom : Nat)
    (objects : List PoolObject) (index : Nat) : Option PoolObject :=
  objects[index]?.filter fun obj => canBeRolled spawns kind triggerFrom obj.guid

def rollOne (group : PoolGroup) (spawns : ActivePoolData) (kind : Kind) (triggerFrom : Nat)
    (dice : Dice) : Option PoolObject × Dice :=
  let afterChance := if group.explicitlyChanced.isEmpty then dice else dice.next
  match rollExplicit spawns kind triggerFrom group.explicitlyChanced dice.randChance with
  | some obj => (some obj, afterChance)
  | none =>
    if group.equalChanced.isEmpty then (none, afterChance)
    else
      (rollEqual spawns kind triggerFrom group.equalChanced
        (afterChance.urand group.equalChanced.length), afterChance.next)

/-- One loop of `DespawnObject`; without a guid every active object is despawned. -/
def despawnObjects (despawn1Object : Nat → State → State) (kind : Kind) (poolId guid : Nat) :
    List PoolObject → State → State
  | [], state => state
  | obj :: rest, state =>
    if state.spawns.isActiveObject kind obj.guid ∧ (guid = 0 ∨ obj.guid = guid) then
      let despawned := despawn1Object obj.guid state
      despawnObjects despawn1Object kind poolId guid rest
        { despawned with spawns := despawned.spawns.removeObject kind obj.guid poolId }
    else despawnObjects despawn1Object kind poolId guid rest state

def despawnObject (group : PoolGroup) (despawn1Object : Nat → State → State) (kind : Kind)
    (guid : Nat) (state : State) : State :=
  despawnObjects despawn1Object kind group.poolId guid group.explicitlyChanced
    (despawnObjects despawn1Object kind group.poolId guid group.equalChanced state)

/-- The loop of `SpawnObject`, with the number of rolls that are left, the object that triggered
the spawn and the object that was despawned for it. -/
def spawnObjects (group : PoolGroup) (spawn1Object despawn1Object : Nat → State → State)
    (kind : Kind) : Nat → Nat → Nat → State → State
  | 0, _, _, state => state
  | left + 1, triggerFrom, lastDespawned, state =>
    let roll := group.rollOne state.spawns kind triggerFrom state.dice
    let rolled := { state with dice := roll.2 }
    match roll.1 with
    | none => group.spawnObjects spawn1Object despawn1Object kind left triggerFrom lastDespawned
        rolled
    | some obj =>
      if obj.guid = lastDespawned then
        group.spawnObjects spawn1Object despawn1Object kind left triggerFrom lastDespawned
          rolled
      else if obj.guid = triggerFrom then
        group.spawnObjects spawn1Object despawn1Object kind left 0 lastDespawned rolled
      else
        let spawned := spawn1Object obj.guid
          { rolled with spawns := rolled.spawns.activateObject kind obj.guid group.poolId }
        if triggerFrom = 0 then
          group.spawnObjects spawn1Object despawn1Object kind left 0 lastDespawned spawned
        else
          group.spawnObjects spawn1Object despawn1Object kind left 0 triggerFrom
            (group.despawnObject despawn1Object kind triggerFrom spawned)

/-- `SpawnObject` for creatures, game objects and pools -/
def spawnObject (group : PoolGroup) (spawn1Object despawn1Object : Nat → State → State)
    (kind : Kind) (limit triggerFrom : Nat) (state : State) : State :=
  let count := int32 (limit - state.spawns.getActiveObjectCount group.poolId)
  -- the triggering object is still counted
  let count := if triggerFrom = 0 then count else count + 1
  group.spawnObjects spawn1Object despawn1Object kind count.toNat triggerFrom 0 state

end PoolGroup

structure QuestTemplate where
  isDaily : Bool
  isWeekly : Bool

/-- What the loader leaves: the primary keys of `pool_creature`, `pool_gameobject`, `pool_pool`
and `pool_quest` list every object once, and the links that close a circle are removed. -/
structure PoolTable where
  maxPoolId : Nat
  maxLimit : Nat → Nat
  groups : Kind → Nat → PoolGroup
  searchMap : Kind → OrdMap Nat Nat
  questTemplate : Nat → Option QuestTemplate
  /-- How deep pools are nested below a pool. -/
  depth : Nat → Nat
  maxLimit_lt : ∀ pool, maxLimit pool < 2 ^ 32
  poolId_eq : ∀ kind pool, (groups kind pool).isEmpty = false → (groups kind pool).poolId = pool
  listedOnce : ∀ kind pool, (groups kind pool).guids.Nodup
  searched : ∀ kind guid pool,
    (searchMap kind).find guid = some pool ↔ guid ∈ (groups kind pool).guids
  nested : ∀ pool child, child ∈ (groups .pool pool).guids → depth child < depth pool

namespace PoolTable

variable (table : PoolTable)

def isPartOfAPool (kind : Kind) (guid : Nat) : Nat := ((table.searchMap kind).find guid).getD 0

def saveQuestsToDB (state : State) : State :=
  { state with
    saved := fun pool =>
      ((table.searchMap .quest).entries.filter fun entry =>
          entry.2 = pool ∧ state.spawns.isActiveObject .quest entry.1).foldl
        (fun rows entry => rows.assign entry.1 ())
        (if (table.groups .quest pool).isEmpty then state.saved pool else .empty) }

/-- The rows of `pool_quest_save` are activated until the limit is used up. -/
def loadQuests (poolId : Nat) : List Nat → Nat → State → State
  | [], _, state => state
  | questId :: rest, limit, state =>
    let activated :=
      { state with spawns := state.spawns.activateObject .quest questId poolId }
    if decrement limit = 0 then activated
    else loadQuests poolId rest (decrement limit) activated

def differentQuests (spawns : ActivePoolData) : List PoolObject → ActivePoolObjects →
    ActivePoolObjects
  | [], newQuests => newQuests
  | obj :: rest, newQuests =>
    if spawns.isActiveObject .quest obj.guid then differentQuests spawns rest newQuests
    else differentQuests spawns rest (newQuests.assign obj.guid ())

/-- Quests that were active, of whatever pool, fill the new quests up to the limit. The loop ends
with the current quests, whose number is its fuel. -/
def recycleQuests (limit : Nat) : Nat → ActivePoolObjects → ActivePoolObjects → Dice →
    ActivePoolObjects × Dice
  | 0, _, newQuests, dice => (newQuests, dice)
  | fuel + 1, currentQuests, newQuests, dice =>
    match (guidsOf currentQuests)[dice.urand currentQuests.entries.length]? with
    | none => (newQuests, dice)
    | some questId =>
      let recycled := newQuests.assign questId ()
      if recycled.entries.length < limit then
        recycleQuests limit fuel (currentQuests.erase questId) recycled dice.next
      else (recycled, dice.next)

def activateQuests (poolId : Nat) : Nat → Nat → ActivePoolObjects → State → State
  | 0, _, _, state => state
  | fuel + 1, limit, newQuests, state =>
    match (guidsOf newQuests)[state.dice.urand newQuests.entries.length]? with
    | none => state
    | some questId =>
      let activated :=
        { state with
          spawns := state.spawns.activateObject .quest questId poolId
          dice := state.dice.next }
      if decrement limit = 0 then activated
      else activateQuests poolId fuel (decrement limit) (newQuests.erase questId) activated

/-- The new quests of `PoolGroup<Quest>::SpawnObject`, and the state with the group cleared. -/
def chooseQuests (group : PoolGroup) (limit : Nat) (state : State) : ActivePoolObjects × State :=
  let currentQuests := state.spawns.activeQuests
  let newQuests := differentQuests state.spawns group.equalChanced .empty
  let cleared := group.despawnObject (fun _ state => state) .quest 0 state
  if newQuests.entries.length < limit ∧ currentQuests.entries ≠ [] then
    let recycled :=
      recycleQuests limit currentQuests.entries.length currentQuests newQuests cleared.dice
    (recycled.1, { cleared with dice := recycled.2 })
  else (newQuests, cleared)

/-- `PoolGroup<Quest>::SpawnObject` -/
def spawnQuests (group : PoolGroup) (limit triggerFrom : Nat) (state : State) : State :=
  if triggerFrom = 0 ∧ (state.saved group.poolId).entries ≠ [] then
    loadQuests group.poolId (guidsOf (state.saved group.poolId)) limit state
  else
    let chosen := chooseQuests group limit state
    if chosen.1.entries = [] then chosen.2
    else
      let activated :=
        activateQuests group.poolId chosen.1.entries.length limit chosen.1 chosen.2
      if triggerFrom = 0 then table.saveQuestsToDB activated else activated

/-- `Spawn1Object` and `Despawn1Object`: only a pool changes the active objects. -/
def object1 (onPool : Nat → State → State) : Kind → Nat → State → State
  | .pool => onPool
  | _ => fun _ state => state

def despawnGroup (despawnPool : Nat → State → State) (kind : Kind) (pool : Nat)
    (state : State) : State :=
  let group := table.groups kind pool
  if group.isEmpty then state
  else group.despawnObject (object1 despawnPool kind) kind 0 state

/-- `DespawnPool` down to a depth of nested pools -/
def despawnPoolTo : Nat → Nat → State → State
  | 0, _, state => state
  | depth + 1, pool, state =>
    let despawn := table.despawnGroup (despawnPoolTo depth)
    despawn .quest pool (despawn .pool pool (despawn .gameObject pool
      (despawn .creature pool state)))

def despawnPool (pool : Nat) (state : State) : State :=
  table.despawnPoolTo (table.depth pool + 1) pool state

/-- `SpawnPool<T>` -/
def spawnGroup (spawnPool : Nat → State → State) (kind : Kind) (pool triggerFrom : Nat)
    (state : State) : State :=
  let group := table.groups kind pool
  if group.isEmpty then state
  else if kind = .quest then table.spawnQuests group (table.maxLimit pool) triggerFrom state
  else
    group.spawnObject (object1 spawnPool kind) (object1 table.despawnPool kind) kind
      (table.maxLimit pool) triggerFrom state

/-- `SpawnPool` down to a depth of nested pools -/
def spawnPoolTo : Nat → Nat → State → State
  | 0, _, state => state
  | depth + 1, pool, state =>
    let spawn := table.spawnGroup (spawnPoolTo depth)
    spawn .quest pool 0 (spawn .creature pool 0 (spawn .gameObject pool 0
      (spawn .pool pool 0 state)))

def spawnPool (pool : Nat) (state : State) : State :=
  table.spawnPoolTo (table.depth pool + 1) pool state

/-- `UpdatePool<T>` -/
def updatePool (kind : Kind) (pool guid : Nat) (state : State) : State :=
  let motherPool := table.isPartOfAPool .pool pool
  if motherPool = 0 then table.spawnGroup table.spawnPool kind pool guid state
  else table.spawnGroup table.spawnPool .pool motherPool pool state

def changedPools (skipped : QuestTemplate → Bool) : List Nat :=
  (List.range (table.maxPoolId + 1)).filterMap fun pool =>
    let group := table.groups .quest pool
    match table.questTemplate group.getFirstEqualChancedObjectId with
    | some quest => if skipped quest then none else some group.poolId
    | none => none

def changeQuests (skipped : QuestTemplate → Bool) (state : State) : State :=
  table.saveQuestsToDB
    -- anything but zero means that nothing is loaded
    ((table.changedPools skipped).foldl (fun state pool => table.updatePool .quest pool 1 state)
      state)

def changeDailyQuests : State → State := table.changeQuests QuestTemplate.isWeekly

def changeWeeklyQuests : State → State := table.changeQuests QuestTemplate.isDaily

end PoolTable

inductive Call where
  | spawnPool (pool : Nat)
  | despawnPool (pool : Nat)
  | updatePool (kind : Kind) (pool guid : Nat)
  | changeDailyQuests
  | changeWeeklyQuests

def next (table : PoolTable) (state : State) : Call → State
  | .spawnPool pool => table.spawnPool pool state
  | .despawnPool pool => table.despawnPool pool state
  | .updatePool kind pool guid => table.updatePool kind pool guid state
  | .changeDailyQuests => table.changeDailyQuests state
  | .changeWeeklyQuests => table.changeWeeklyQuests state

def State.initial (saved : Nat → ActivePoolObjects) (dice : Dice) : State :=
  { saved := saved, dice := dice }

end DarkCore.Pools
