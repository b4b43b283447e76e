/-
Updates and runs. `UpdatePool` spawns in the pool of the object that triggers
it, or in the mother of that pool with the pool as the trigger; a change of the
daily or weekly quests updates one pool after the other.
-/

import DarkCore.Lib.Runs
import DarkCore.Pools.PoolSpawn

namespace DarkCore.Pools

open Lib

namespace PoolTable

variable (table : PoolTable) (precise limited : Nat → Prop)

def updatedPool (pool : Nat) : Nat :=
  if table.isPartOfAPool .pool pool = 0 then pool else table.isPartOfAPool .pool pool

structure Triggered (spawns : ActivePoolData) (kind : Kind) (pool guid : Nat) : Prop where
  named : guid ≠ 0
  member : guid ∈ table.members kind pool
  active : spawns.isActiveObject kind guid = true

/-- The pool that an update spawns in may have a counter, and where its limit is claimed, what
triggers the spawn is active. -/
structure UpdateStarts (spawns : ActivePoolData) (kind : Kind) (pool guid : Nat) : Prop where
  rooted : table.Rooted spawns (table.updatedPool pool)
  mother : table.isPartOfAPool .pool pool ≠ 0 → limited (table.isPartOfAPool .pool pool) →
    spawns.isActiveObject .pool pool = true
  direct : table.isPartOfAPool .pool pool = 0 → kind ≠ .quest → limited pool →
    guid ∈ table.members kind pool ∧ spawns.isActiveObject kind guid = true

structure UpdateFinds (spawns : ActivePoolData) (kind : Kind) (pool : Nat) : Prop where
  nested : table.isPartOfAPool .pool pool ≠ 0 ∨ kind = .pool →
    ∀ other, table.Below (table.updatedPool pool) other → precise other →
      table.EnoughQuests (table.Below (table.updatedPool pool)) spawns other
  chosen : table.isPartOfAPool .pool pool = 0 → kind = .quest →
    (table.groups .quest pool).isEmpty = false → precise pool → table.Selectable spawns pool

structure Healthy (state : State) : Prop where
  sound : table.Sound precise state
  limits : ∀ pool, limited pool →
    table.activeMembers state.spawns pool ≤ table.maxLimit pool

variable {table precise limited} {pool guid : Nat} {state after : State} {kind : Kind}

theorem mem_of_isPartOfAPool (part : table.isPartOfAPool kind guid ≠ 0) :
    guid ∈ table.members kind (table.isPartOfAPool kind guid) := by
  unfold isPartOfAPool at part ⊢
  cases found : (table.searchMap kind).find guid with
  | none =>
    simp_all
  | some pool => exact (table.searched kind guid pool).mp found

theorem Triggered.starts (sound : table.Sound precise state)
    (triggered : table.Triggered state.spawns kind pool guid) :
    table.UpdateStarts limited state.spawns kind pool guid := by
  have active := sound.pool_active triggered.member triggered.active
  refine ⟨?_, fun _ _ => active, fun _ _ _ => ⟨triggered.member, triggered.active⟩⟩
  unfold updatedPool
  split
  · exact Or.inr active
  · rename_i part
    exact Or.inr (sound.pool_active (mem_of_isPartOfAPool part) active)

theorem Healthy.of_within {level : Nat} (healthy : table.Healthy precise limited state)
    (sound : table.Sound precise after) (above : table.Above level state.spawns after.spawns)
    (within : table.Within limited level state.spawns → table.Within limited level after.spawns) :
    table.Healthy precise limited after := by
  refine ⟨sound, ?_⟩
  intro pool isLimited
  by_cases low : table.depth pool < level
  · exact within (fun other _ => healthy.limits other) pool low isLimited
  · rw [above.activeMembers (Nat.not_lt.mp low)]
    exact healthy.limits pool isLimited

theorem initial_healthy {saved : Nat → ActivePoolObjects} (dice : Dice)
    (listed : ∀ pool, ∀ entry ∈ (saved pool).entries, entry.1 ∈ table.members .quest pool) :
    table.Healthy precise limited (State.initial saved dice) := by
  have none : ∀ pool, table.activeMembers (State.initial saved dice).spawns pool = 0 := by
    intro pool
    rw [activeMembers_eq_zero]
    intro kind guid _
    cases kind <;> rfl
  refine ⟨⟨?_, ?_, ?_, listed⟩, ?_⟩
  · simp [none]
  · intro pool _
    exact Nat.zero_le _
  · intro quest active
    cases active
  · simp [none]

theorem despawnPool_healthy (healthy : table.Healthy precise limited state) (pool : Nat) :
    table.Healthy precise limited (table.despawnPool pool state) := by
  obtain ⟨despawned, _⟩ := despawnPool_spec pool healthy.sound
  exact ⟨despawned.sound, fun other isLimited =>
    Nat.le_trans (despawned.activeMembers_le other) (healthy.limits other isLimited)⟩

theorem spawnPool_healthy (regime : table.Regime precise limited)
    (healthy : table.Healthy precise limited state)
    (enough : ∀ other, table.Under pool other → precise other →
      table.EnoughQuests (table.Under pool) state.spawns other)
    (rooted : table.Rooted state.spawns pool)
    (none : table.activeOf state.spawns .quest pool = 0) :
    table.Healthy precise limited (table.spawnPool pool state) := by
  have spawned := spawnPool_spec regime pool state enough healthy.sound rooted none
  exact healthy.of_within spawned.sound spawned.above spawned.within

theorem updatePool_healthy (regime : table.Regime precise limited)
    (healthy : table.Healthy precise limited state) (named : guid ≠ 0)
    (starts : table.UpdateStarts limited state.spawns kind pool guid)
    (finds : table.UpdateFinds precise state.spawns kind pool) :
    table.Healthy precise limited (table.updatePool kind pool guid state) := by
  have rooted := starts.rooted
  have nested := finds.nested
  unfold updatedPool at rooted nested
  unfold updatePool
  dsimp only
  split
  · rename_i motherless
    rw [if_pos motherless] at rooted nested
    by_cases isQuest : kind = .quest
    · subst isQuest
      have spawned := spawnQuestGroup_spec table.spawnPool regime healthy.sound rooted
        (fun zero => absurd zero named) (finds.chosen motherless rfl)
      exact healthy.of_within spawned.sound spawned.above spawned.within
    · obtain ⟨filled, _, within⟩ := spawnGroup_spec regime isQuest
        (fun isPool => spawnsMembers_pool (fun child _ => spawnPool_spec regime child)
          (nested (Or.inr isPool)))
        (Fresh.refl state.spawns) healthy.sound rooted fun _ => starts.direct motherless isQuest
      exact healthy.of_within filled.sound filled.above within
  · rename_i part
    rw [if_neg part] at rooted nested
    obtain ⟨filled, _, within⟩ := spawnGroup_spec regime (by decide : Kind.pool ≠ .quest)
      (fun _ => spawnsMembers_pool (fun child _ => spawnPool_spec regime child)
        (nested (Or.inl part)))
      (Fresh.refl state.spawns) healthy.sound rooted
      fun _ isLimited => ⟨mem_of_isPartOfAPool part, starts.mother part isLimited⟩
    exact healthy.of_within filled.sound filled.above within

theorem changeQuests_healthy (skipped : QuestTemplate → Bool)
    {condition : State → Nat → Prop}
    (kept : ∀ state pool, table.Healthy precise limited state → condition state pool →
      table.Healthy precise limited (table.updatePool .quest pool 1 state))
    (healthy : table.Healthy precise limited state)
    (updates : Along (fun state pool => table.updatePool .quest pool 1 state) condition state
      (table.changedPools skipped)) :
    table.Healthy precise limited (table.changeQuests skipped state) := by
  have updated := (always_of_step kept healthy updates).last
  exact ⟨saveQuestsToDB_sound updated.sound, updated.limits⟩

end PoolTable

end DarkCore.Pools
