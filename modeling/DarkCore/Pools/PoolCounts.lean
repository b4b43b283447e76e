/-
`GetActiveObjectCount` against the members that are active, over whole runs. The
two agree as long as no pool gets a quest that is active already: neither one
that is saved for a pool whose quests are active, nor one of another pool that
the choice of quests recycles.
-/

import DarkCore.Pools.PoolUpdate

namespace DarkCore.Pools

open Lib

namespace PoolTable

variable (table : PoolTable)

def Counted (state : State) : Prop :=
  ∀ pool, state.spawns.getActiveObjectCount pool = table.activeMembers state.spawns pool

def QuestsFound (state : State) (pool : Nat) : Prop :=
  table.Rooted state.spawns (table.updatedPool pool) ∧
    table.UpdateFinds (fun _ => True) state.spawns .quest pool

/-- The calls that keep the counters. A pool is spawned by itself when it has no mother or is
active, and when none of its quests is active; and the pools that quests are chosen for have
enough of their own. -/
def CountsKept (state : State) : Call → Prop
  | .spawnPool pool => table.Rooted state.spawns pool ∧
      table.activeOf state.spawns .quest pool = 0 ∧
      ∀ other, table.Under pool other → table.EnoughQuests (table.Under pool) state.spawns other
  | .despawnPool _ => True
  | .updatePool kind pool guid => table.Triggered state.spawns kind pool guid ∧
      table.UpdateFinds (fun _ => True) state.spawns kind pool
  | .changeDailyQuests => Along (fun state pool => table.updatePool .quest pool 1 state)
      table.QuestsFound state (table.changedPools QuestTemplate.isWeekly)
  | .changeWeeklyQuests => Along (fun state pool => table.updatePool .quest pool 1 state)
      table.QuestsFound state (table.changedPools QuestTemplate.isDaily)

/-- `DespawnPool` leaves no member active and nothing counted. -/
def Emptied (state : State) : Call → Prop
  | .despawnPool pool =>
    table.activeMembers (next table state (.despawnPool pool)).spawns pool = 0 ∧
      (next table state (.despawnPool pool)).spawns.getActiveObjectCount pool = 0
  | _ => True

variable {table}

theorem counting_regime : table.Regime (fun _ => True) (fun _ => False) :=
  ⟨fun _ impossible => impossible.elim, fun _ impossible => impossible.elim,
    fun _ impossible => impossible.elim⟩

theorem Healthy.counted {state : State}
    (healthy : table.Healthy (fun _ => True) (fun _ => False) state) : table.Counted state :=
  fun pool => Nat.le_antisymm (healthy.sound.notAbove pool trivial) (healthy.sound.counted pool)

theorem questsFound_healthy (state : State) (pool : Nat)
    (healthy : table.Healthy (fun _ => True) (fun _ => False) state)
    (found : table.QuestsFound state pool) :
    table.Healthy (fun _ => True) (fun _ => False) (table.updatePool .quest pool 1 state) :=
  updatePool_healthy counting_regime healthy Nat.one_ne_zero
    ⟨found.1, fun _ impossible => impossible.elim, fun _ _ impossible => impossible.elim⟩ found.2

theorem next_counted (state : State) (call : Call)
    (healthy : table.Healthy (fun _ => True) (fun _ => False) state)
    (kept : table.CountsKept state call) :
    table.Healthy (fun _ => True) (fun _ => False) (next table state call) := by
  cases call with
  | spawnPool pool =>
    obtain ⟨rooted, none, enough⟩ := kept
    exact spawnPool_healthy counting_regime healthy (fun other under _ => enough other under)
      rooted none
  | despawnPool pool => exact despawnPool_healthy healthy pool
  | updatePool kind pool guid =>
    obtain ⟨triggered, finds⟩ := kept
    exact updatePool_healthy counting_regime healthy triggered.named
      (triggered.starts healthy.sound) finds
  | changeDailyQuests => exact changeQuests_healthy _ questsFound_healthy healthy kept
  | changeWeeklyQuests => exact changeQuests_healthy _ questsFound_healthy healthy kept

theorem next_emptied (state : State) (call : Call)
    (healthy : table.Healthy (fun _ => True) (fun _ => False) state) :
    table.Emptied state call := by
  cases call with
  | despawnPool pool =>
    obtain ⟨_, empty⟩ := despawnPool_spec pool healthy.sound
    exact ⟨empty, ((despawnPool_healthy healthy pool).counted pool).trans empty⟩
  | spawnPool pool => exact trivial
  | updatePool kind pool guid => exact trivial
  | changeDailyQuests | changeWeeklyQuests => exact trivial

end PoolTable

/-- In a run of calls that keep the counters, from any quests saved for their own pools and for
all random numbers, every counter is the number of active members, and a pool that is despawned
has none. -/
theorem counts_match_members (table : PoolTable) (saved : Nat → ActivePoolObjects) (dice : Dice)
    (calls : List Call)
    (listed : ∀ pool, ∀ entry ∈ (saved pool).entries, entry.1 ∈ table.members .quest pool)
    (kept : Along (next table) table.CountsKept (State.initial saved dice) calls) :
    Always (next table) table.Counted (State.initial saved dice) calls ∧
      Along (next table) table.Emptied (State.initial saved dice) calls := by
  have start : table.Healthy (fun _ => True) (fun _ => False) (State.initial saved dice) :=
    PoolTable.initial_healthy dice listed
  constructor
  · exact (always_of_step PoolTable.next_counted start kept).imp
      fun _ => PoolTable.Healthy.counted
  · exact along_of_step PoolTable.next_counted
      (fun state call healthy _ => PoolTable.next_emptied state call healthy) start kept

section Example

def dailyGroups : Kind → Nat → PoolGroup
  | .quest, 1 => { poolId := 1, equalChanced := [{ guid := 10 }, { guid := 11 }] }
  | .quest, 2 => { poolId := 2, equalChanced := [{ guid := 20 }] }
  | .creature, 3 => { poolId := 3, equalChanced := [{ guid := 5 }, { guid := 6 }] }
  | _, _ => {}

def dailySearch : Kind → OrdMap Nat Nat
  | .quest => ⟨[(10, 1), (11, 1), (20, 2)], by decide⟩
  | .creature => ⟨[(5, 3), (6, 3)], by decide⟩
  | _ => .empty

theorem dailySearch_iff (kind : Kind) (guid pool : Nat) :
    (dailySearch kind).find guid = some pool ↔ guid ∈ (dailyGroups kind pool).guids := by
  rw [OrdMap.find_eq_some]
  cases kind with
  | creature =>
    by_cases here : pool = 3
    · subst here
      simp [dailySearch, dailyGroups, PoolGroup.guids]
    · simp [dailySearch, dailyGroups, PoolGroup.guids, here]
  | quest =>
    by_cases first : pool = 1
    · grind [dailySearch, dailyGroups, PoolGroup.guids]
    · by_cases second : pool = 2
      · subst second
        simp [dailySearch, dailyGroups, PoolGroup.guids]
      · simp [dailySearch, dailyGroups, PoolGroup.guids, first, second]
  | gameObject | pool => simp [dailySearch, dailyGroups, PoolGroup.guids, OrdMap.empty]

def dailies : PoolTable where
  maxPoolId := 3
  maxLimit := fun _ => 1
  groups := dailyGroups
  searchMap := dailySearch
  questTemplate := fun quest => if quest = 0 then none else some ⟨true, false⟩
  depth := fun _ => 0
  maxLimit_lt := fun _ => by decide
  poolId_eq := by
    intro kind pool
    unfold dailyGroups
    split <;> simp [PoolGroup.isEmpty]
  listedOnce := by
    intro kind pool
    unfold dailyGroups
    split <;> decide
  searched := dailySearch_iff
  nested := by
    intro pool child listed
    have found := (dailySearch_iff .pool child pool).mpr listed
    cases found

def firstDice : Dice := { chances := fun _ => 0, indices := fun _ => 0 }

def noneSaved : Nat → ActivePoolObjects := fun _ => .empty

theorem dailies_enough (pools : Nat → Prop) (spawns : ActivePoolData) (pool : Nat) :
    dailies.EnoughQuests pools spawns pool := by
  intro nonempty
  left
  by_cases first : pool = 1
  · subst first
    decide
  · by_cases second : pool = 2
    · subst second
      decide
    · simp [dailies, dailyGroups, PoolGroup.isEmpty, first, second] at nonempty

theorem dailies_noMother (pool : Nat) : (dailies.searchMap .pool).find pool = none := rfl

theorem dailies_finds {state : State} {kind : Kind} {pool : Nat}
    (chosen : kind = .quest → dailies.Selectable state.spawns pool) :
    dailies.UpdateFinds (fun _ => True) state.spawns kind pool :=
  ⟨fun _ other _ _ => dailies_enough _ _ other, fun _ isQuest _ _ => chosen isQuest⟩

/-- A creature respawns, the daily quests change, and a pool of quests is despawned. -/
theorem counts_match_members_dailies :
    Always (next dailies) dailies.Counted (State.initial noneSaved firstDice)
        [.spawnPool 1, .spawnPool 3, .updatePool .creature 3 5, .changeDailyQuests,
          .despawnPool 1] ∧
      Along (next dailies) dailies.Emptied (State.initial noneSaved firstDice)
        [.spawnPool 1, .spawnPool 3, .updatePool .creature 3 5, .changeDailyQuests,
          .despawnPool 1] := by
  apply counts_match_members
  · intro pool entry impossible
    cases impossible
  · refine ⟨⟨Or.inl (dailies_noMother 1), by decide +kernel,
        fun other _ => dailies_enough _ _ other⟩,
      ⟨Or.inl (dailies_noMother 3), by decide +kernel, fun other _ => dailies_enough _ _ other⟩,
      ⟨⟨by decide, by decide, by decide +kernel⟩,
        dailies_finds fun impossible => by cases impossible⟩, ?_, trivial, trivial⟩
    have updated : dailies.changedPools QuestTemplate.isWeekly = [1, 2] := by decide +kernel
    unfold PoolTable.CountsKept
    rw [updated]
    refine ⟨⟨Or.inl (dailies_noMother 1), dailies_finds fun _ => Or.inl ?_⟩,
      ⟨Or.inl (dailies_noMother 2), dailies_finds fun _ => Or.inl ?_⟩, trivial⟩
    · decide +kernel
    · decide +kernel

/-- The only quest of pool 2 is active when the quests change, so that one of pool 1 is activated
for pool 2 as well. -/
theorem recycled_quest_is_counted_twice :
    ¬ Always (next dailies) dailies.Counted (State.initial noneSaved firstDice)
        [.spawnPool 1, .spawnPool 2, .changeDailyQuests] := by
  rintro ⟨_, _, _, counted⟩
  exact absurd (counted 2) (by decide +kernel)

end Example

end DarkCore.Pools
