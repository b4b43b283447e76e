/-
`MaxLimit` over whole runs. The quests of a pool are spawned without a look at
its counter, so that only pools that list quests and nothing else, or no quests
at all, keep their limit; the others share it by the counter.
-/

import DarkCore.Pools.PoolCounts

namespace DarkCore.Pools

open Lib

namespace PoolTable

variable (table : PoolTable)

def Unmixed (pool : Nat) : Prop :=
  (table.groups .quest pool).isEmpty = true ∨
    ∀ kind, kind ≠ .quest → (table.groups kind pool).isEmpty = true

/-- The calls that keep the limits: a pool is spawned by itself when it has no mother or is active,
and when none of its quests is active; an update is triggered by an active member. -/
def LimitsKept (state : State) : Call → Prop
  | .spawnPool pool => table.Rooted state.spawns pool ∧
      table.activeOf state.spawns .quest pool = 0
  | .despawnPool _ => True
  | .updatePool kind pool guid => table.Triggered state.spawns kind pool guid
  | .changeDailyQuests => Along (fun state pool => table.updatePool .quest pool 1 state)
      (fun state pool => table.Rooted state.spawns pool) state
      (table.changedPools QuestTemplate.isWeekly)
  | .changeWeeklyQuests => Along (fun state pool => table.updatePool .quest pool 1 state)
      (fun state pool => table.Rooted state.spawns pool) state
      (table.changedPools QuestTemplate.isDaily)

def QuestFree (pool : Nat) : Prop := (table.groups .quest pool).isEmpty = true

def Limited (pool : Nat) : Prop := 0 < table.maxLimit pool ∧ table.Unmixed pool

variable {table} {state : State}

theorem limit_regime : table.Regime table.QuestFree table.Limited where
  positive := fun _ isLimited => isLimited.1
  unmixed := by
    intro pool isLimited nonempty
    rcases isLimited.2 with noQuests | onlyQuests
    · simp_all
    · exact onlyQuests
  counted := fun _ _ noQuests => noQuests

theorem enough_of_questFree {pools : Nat → Prop} {spawns : ActivePoolData} {pool : Nat}
    (noQuests : table.QuestFree pool) : table.EnoughQuests pools spawns pool := by
  intro nonempty
  rw [noQuests] at nonempty
  cases nonempty

theorem finds_of_questFree (spawns : ActivePoolData) (kind : Kind) (pool : Nat) :
    table.UpdateFinds table.QuestFree spawns kind pool := by
  refine ⟨fun _ _ _ => enough_of_questFree, ?_⟩
  intro _ _ nonempty noQuests
  rw [noQuests] at nonempty
  cases nonempty

theorem changeStarts (healthy : table.Healthy table.QuestFree table.Limited state) {pool : Nat}
    (rooted : table.Rooted state.spawns pool) :
    table.UpdateStarts table.Limited state.spawns .quest pool 1 := by
  have active : table.isPartOfAPool .pool pool ≠ 0 →
      state.spawns.isActiveObject .pool pool = true := by
    intro part
    refine rooted.resolve_left fun motherless => part ?_
    unfold isPartOfAPool
    rw [motherless]
    rfl
  refine ⟨?_, fun part _ => active part, fun _ notQuest => absurd rfl notQuest⟩
  unfold updatedPool
  split
  · exact rooted
  · rename_i part
    exact Or.inr (healthy.sound.pool_active (mem_of_isPartOfAPool part) (active part))

theorem changed_limited (state : State) (pool : Nat)
    (healthy : table.Healthy table.QuestFree table.Limited state)
    (rooted : table.Rooted state.spawns pool) :
    table.Healthy table.QuestFree table.Limited (table.updatePool .quest pool 1 state) :=
  updatePool_healthy limit_regime healthy Nat.one_ne_zero (changeStarts healthy rooted)
    (finds_of_questFree state.spawns .quest pool)

theorem next_limited (state : State) (call : Call)
    (healthy : table.Healthy table.QuestFree table.Limited state)
    (kept : table.LimitsKept state call) :
    table.Healthy table.QuestFree table.Limited (next table state call) := by
  cases call with
  | spawnPool pool =>
    obtain ⟨rooted, none⟩ := kept
    exact spawnPool_healthy limit_regime healthy (fun _ _ => enough_of_questFree) rooted none
  | despawnPool pool => exact despawnPool_healthy healthy pool
  | updatePool kind pool guid =>
    exact updatePool_healthy limit_regime healthy kept.named (kept.starts healthy.sound)
      (finds_of_questFree state.spawns kind pool)
  | changeDailyQuests => exact changeQuests_healthy _ changed_limited healthy kept
  | changeWeeklyQuests => exact changeQuests_healthy _ changed_limited healthy kept

end PoolTable

/-- In a run of calls that keep the limits, from any quests saved for their own pools and for all
random numbers, no pool with a limit that does not mix quests with other members exceeds it. -/
theorem limits_are_kept (table : PoolTable) (saved : Nat → ActivePoolObjects) (dice : Dice)
    (calls : List Call)
    (listed : ∀ pool, ∀ entry ∈ (saved pool).entries, entry.1 ∈ table.members .quest pool)
    (kept : Along (next table) table.LimitsKept (State.initial saved dice) calls) :
    Always (next table) (fun state => ∀ pool, 0 < table.maxLimit pool → table.Unmixed pool →
        table.activeMembers state.spawns pool ≤ table.maxLimit pool)
      (State.initial saved dice) calls := by
  have start : table.Healthy table.QuestFree table.Limited (State.initial saved dice) :=
    PoolTable.initial_healthy dice listed
  exact (always_of_step PoolTable.next_limited start kept).imp
    fun _ healthy pool positive unmixed => healthy.limits pool ⟨positive, unmixed⟩

section Example

/-- A creature respawns and another one may take its place. -/
theorem limits_are_kept_dailies :
    Always (next dailies) (fun state => ∀ pool, 0 < dailies.maxLimit pool → dailies.Unmixed pool →
        dailies.activeMembers state.spawns pool ≤ dailies.maxLimit pool)
      (State.initial noneSaved firstDice)
      [.spawnPool 1, .spawnPool 3, .updatePool .creature 3 5, .updatePool .quest 1 10,
        .despawnPool 1] := by
  apply limits_are_kept
  · intro pool entry impossible
    cases impossible
  · exact ⟨⟨Or.inl (dailies_noMother 1), by decide +kernel⟩,
      ⟨Or.inl (dailies_noMother 3), by decide +kernel⟩, ⟨by decide, by decide, by decide +kernel⟩,
      ⟨by decide, by decide, by decide +kernel⟩, trivial, trivial⟩

def mixedGroups : Kind → Nat → PoolGroup
  | .creature, 1 => { poolId := 1, equalChanced := [{ guid := 5 }] }
  | .quest, 1 => { poolId := 1, equalChanced := [{ guid := 10 }] }
  | _, _ => {}

def mixedSearch : Kind → OrdMap Nat Nat
  | .creature => ⟨[(5, 1)], by decide⟩
  | .quest => ⟨[(10, 1)], by decide⟩
  | _ => .empty

theorem mixedSearch_iff (kind : Kind) (guid pool : Nat) :
    (mixedSearch kind).find guid = some pool ↔ guid ∈ (mixedGroups kind pool).guids := by
  rw [OrdMap.find_eq_some]
  by_cases here : pool = 1
  · subst here
    cases kind <;> simp [mixedSearch, mixedGroups, PoolGroup.guids, OrdMap.empty]
  · cases kind <;> simp [mixedSearch, mixedGroups, PoolGroup.guids, OrdMap.empty, here]

theorem mixed_maxLimit_lt (_ : Nat) : 1 < 2 ^ 32 := by decide

def mixed : PoolTable where
  maxPoolId := 1
  maxLimit := fun _ => 1
  groups := mixedGroups
  searchMap := mixedSearch
  questTemplate := fun quest => if quest = 0 then none else some ⟨true, false⟩
  depth := fun _ => 0
  maxLimit_lt := mixed_maxLimit_lt
  poolId_eq := by
    intro kind pool
    unfold mixedGroups
    split <;> simp [PoolGroup.isEmpty]
  listedOnce := by
    intro kind pool
    unfold mixedGroups
    split <;> decide
  searched := mixedSearch_iff
  nested := by
    intro pool child listed
    have found := (mixedSearch_iff .pool child pool).mpr listed
    cases found

/-- The quest is activated beside the creature, which uses up the limit. -/
theorem mixed_pool_exceeds_limit :
    ¬ Always (next mixed) (fun state => ∀ pool, 0 < mixed.maxLimit pool →
        mixed.activeMembers state.spawns pool ≤ mixed.maxLimit pool)
      (State.initial noneSaved firstDice) [.spawnPool 1] := by
  rintro ⟨_, limits⟩
  exact absurd (limits 1 (by decide)) (by decide +kernel)

end Example

end DarkCore.Pools
