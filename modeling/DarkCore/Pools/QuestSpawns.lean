/-
The quests that `PoolGroup<Quest>::SpawnObject` activates for a pool. Saved quests
are taken as they are, up to the limit but at least one, without a look at those
that are active already. Otherwise the choice starts from the quests of the pool
that were not active; where these are fewer than the limit it goes on with any
quest that was active, of whatever pool.
-/

import DarkCore.Pools.PoolCounts
import Mathlib.Data.List.Perm.Subperm

namespace DarkCore.Pools

open Lib

/-! ### Activations -/

/-- The saved quests that `loadQuests` activates, in this order -/
def loadedQuests : List Nat → Nat → List Nat
  | [], _ => []
  | questId :: rest, limit =>
    if decrement limit = 0 then [questId]
    else questId :: loadedQuests rest (decrement limit)

/-- The quests that `activateQuests` activates, in this order -/
def pickedQuests : Nat → Nat → ActivePoolObjects → Dice → List Nat
  | 0, _, _, _ => []
  | fuel + 1, limit, newQuests, dice =>
    match (guidsOf newQuests)[dice.urand newQuests.entries.length]? with
    | none => []
    | some questId =>
      if decrement limit = 0 then [questId]
      else questId :: pickedQuests fuel (decrement limit) (newQuests.erase questId) dice.next

/-- One call of `ActivateObject<Quest>` after the other -/
def ActivePoolData.activateAll (spawns : ActivePoolData) (poolId : Nat) (quests : List Nat) :
    ActivePoolData :=
  quests.foldl (fun spawns questId => spawns.activateObject .quest questId poolId) spawns

namespace PoolTable

/-- The quests for which `SpawnObject` calls `ActivateObject` -/
def activatedQuests (group : PoolGroup) (limit triggerFrom : Nat) (state : State) : List Nat :=
  if triggerFrom = 0 ∧ (state.saved group.poolId).entries ≠ [] then
    loadedQuests (guidsOf (state.saved group.poolId)) limit
  else
    let chosen := chooseQuests group limit state
    pickedQuests chosen.1.entries.length limit chosen.1 chosen.2.dice

def clearedSpawns (group : PoolGroup) (limit triggerFrom : Nat) (state : State) : ActivePoolData :=
  if triggerFrom = 0 ∧ (state.saved group.poolId).entries ≠ [] then state.spawns
  else (chooseQuests group limit state).2.spawns

variable (table : PoolTable) (pool limit triggerFrom : Nat) (state : State)

/-- The spawn activates quests of the pool only, leaves all others as they are and ends with at
most as many active quests of the pool as the limit tells. -/
structure SpawnsOwn : Prop where
  own : ∀ quest ∈ activatedQuests (table.groups .quest pool) limit triggerFrom state,
    quest ∈ table.members .quest pool
  others : ∀ quest, quest ∉ table.members .quest pool →
    (table.spawnQuests (table.groups .quest pool) limit triggerFrom
      state).spawns.isActiveObject .quest quest = state.spawns.isActiveObject .quest quest
  within : table.activeOf (table.spawnQuests (table.groups .quest pool) limit triggerFrom
    state).spawns .quest pool ≤ limit

/-- The first saved quests are quests of the pool, and with the quests of the pool that are active
they are not too many. -/
def SavedFit (spawns : ActivePoolData) (rows : List Nat) : Prop :=
  0 < limit ∧ (∀ quest ∈ rows.take limit, quest ∈ table.members .quest pool) ∧
    ((table.members .quest pool).countP fun quest =>
      spawns.isActiveObject .quest quest || decide (quest ∈ rows.take limit)) ≤ limit

/-- The quests that are not active are enough, or only quests of the pool are active. Without a
limit there must be nothing to choose from. -/
def ChoiceFits (spawns : ActivePoolData) : Prop :=
  (limit = 0 → table.inactiveQuests spawns pool = 0) ∧
    (limit ≤ table.inactiveQuests spawns pool ∨
      ∀ quest, spawns.isActiveObject .quest quest = true → quest ∈ table.members .quest pool)

def SpawnFits (spawns : ActivePoolData) (saved : Nat → ActivePoolObjects) : Prop :=
  if triggerFrom = 0 ∧ (saved (table.groups .quest pool).poolId).entries ≠ [] then
    table.SavedFit pool limit spawns (guidsOf (saved (table.groups .quest pool).poolId))
  else table.ChoiceFits pool limit spawns

end PoolTable

/-! ### What the loops activate -/

section Loops

variable {spawns : ActivePoolData} {state : State} {poolId limit quest : Nat}
  {newQuests : ActivePoolObjects} {dice : Dice}

theorem isActiveObject_activateAll {quests : List Nat} :
    (spawns.activateAll poolId quests).isActiveObject .quest quest = true ↔
      spawns.isActiveObject .quest quest = true ∨ quest ∈ quests := by
  unfold ActivePoolData.activateAll
  induction quests generalizing spawns with
  | nil => simp
  | cons first rest ih =>
    rw [List.foldl_cons, ih, ActivePoolData.isActiveObject_activateObject]
    simp [or_assoc]

theorem loadQuests_spawns (rows : List Nat) :
    (PoolTable.loadQuests poolId rows limit state).spawns =
      state.spawns.activateAll poolId (loadedQuests rows limit) := by
  unfold ActivePoolData.activateAll
  induction rows generalizing limit state with
  | nil => rfl
  | cons questId rest ih =>
    unfold PoolTable.loadQuests loadedQuests
    split
    · rfl
    · exact ih

theorem activateQuests_spawns (fuel : Nat) :
    (PoolTable.activateQuests poolId fuel limit newQuests state).spawns =
      state.spawns.activateAll poolId (pickedQuests fuel limit newQuests state.dice) := by
  unfold ActivePoolData.activateAll
  induction fuel generalizing limit newQuests state with
  | zero => rfl
  | succ fuel ih =>
    unfold PoolTable.activateQuests pickedQuests
    cases (guidsOf newQuests)[state.dice.urand newQuests.entries.length]? with
    | none => rfl
    | some questId =>
      dsimp only
      split
      · rfl
      · rw [ih, List.foldl_cons]

theorem loadedQuests_eq_take (rows : List Nat) (positive : 0 < limit) (bounded : limit < 2 ^ 32) :
    loadedQuests rows limit = rows.take limit := by
  induction rows generalizing limit with
  | nil => simp [loadedQuests]
  | cons questId rest ih =>
    have less := PoolTable.decrement_of_pos positive bounded
    obtain ⟨left, rfl⟩ : ∃ left, limit = left + 1 := ⟨limit - 1, by omega⟩
    rw [Nat.add_sub_cancel] at less
    unfold loadedQuests
    rw [less, List.take_succ_cons]
    split
    · simp_all
    · rename_i more
      rw [ih (Nat.pos_of_ne_zero more) (by omega)]

theorem head_mem_loadedQuests (rest : List Nat) : quest ∈ loadedQuests (quest :: rest) limit := by
  unfold loadedQuests
  split
  · exact List.mem_singleton_self quest
  · exact List.mem_cons_self

theorem exists_pick (dice : Dice) (some_ : newQuests.entries ≠ []) :
    ∃ quest, (guidsOf newQuests)[dice.urand newQuests.entries.length]? = some quest := by
  have positive : 0 < newQuests.entries.length := List.length_pos_iff.mpr some_
  have inRange : dice.urand newQuests.entries.length < (guidsOf newQuests).length := by
    unfold guidsOf Dice.urand
    rw [List.length_map]
    exact Nat.mod_lt _ positive
  exact ⟨_, List.getElem?_eq_getElem inRange⟩

theorem length_erase_pick {picked : Nat} (listed : picked ∈ guidsOf newQuests) :
    (newQuests.erase picked).entries.length + 1 = newQuests.entries.length := by
  obtain ⟨value, found⟩ := Option.isSome_iff_exists.mp (mem_guidsOf.mp listed)
  have positive : 0 < newQuests.entries.length :=
    List.length_pos_of_mem (OrdMap.find_eq_some.mp found)
  have less := OrdMap.length_erase_some found
  omega

theorem mem_of_mem_pickedQuests {fuel : Nat}
    (picked : quest ∈ pickedQuests fuel limit newQuests dice) : quest ∈ guidsOf newQuests := by
  induction fuel generalizing limit newQuests dice with
  | zero => cases picked
  | succ fuel ih =>
    unfold pickedQuests at picked
    split at picked
    · cases picked
    · rename_i first found
      split at picked
      · grind
      · rcases List.mem_cons.mp picked with rfl | later
        · exact List.mem_of_getElem? found
        · exact (mem_guidsOf_erase.mp (ih later)).2

theorem length_pickedQuests_le {fuel : Nat} (positive : 0 < limit) (bounded : limit < 2 ^ 32) :
    (pickedQuests fuel limit newQuests dice).length ≤ limit := by
  induction fuel generalizing limit newQuests dice with
  | zero => exact Nat.zero_le limit
  | succ fuel ih =>
    have less := PoolTable.decrement_of_pos positive bounded
    unfold pickedQuests
    split
    · exact Nat.zero_le limit
    · rename_i first _
      split
      · exact positive
      · rename_i more
        have later := @ih (decrement limit) (newQuests.erase first) dice.next
          (Nat.pos_of_ne_zero more) (PoolTable.decrement_lt limit)
        rw [List.length_cons]
        omega

theorem mem_pickedQuests {fuel : Nat} (enough : newQuests.entries.length ≤ fuel)
    (fits : newQuests.entries.length ≤ limit) (bounded : limit < 2 ^ 32)
    (listed : quest ∈ guidsOf newQuests) : quest ∈ pickedQuests fuel limit newQuests dice := by
  have nonempty : newQuests.entries ≠ [] := by
    grind [guidsOf]
  induction fuel generalizing limit newQuests dice with
  | zero => exact absurd (List.length_eq_zero_iff.mp (Nat.le_zero.mp enough)) nonempty
  | succ fuel ih =>
    have positive := List.length_pos_iff.mpr nonempty
    have less := PoolTable.decrement_of_pos (by omega : 0 < limit) bounded
    obtain ⟨first, found⟩ := exists_pick dice nonempty
    have erased := length_erase_pick (List.mem_of_getElem? found)
    unfold pickedQuests
    rw [found]
    dsimp only
    by_cases here : quest = first
    · rw [here]
      split
      · exact List.mem_singleton_self first
      · exact List.mem_cons_self
    · have later := mem_guidsOf_erase.mpr ⟨here, listed⟩
      have rest : (newQuests.erase first).entries ≠ [] := by
        grind [guidsOf]
      have restPositive := List.length_pos_iff.mpr rest
      rw [if_neg (by omega)]
      exact List.mem_cons_of_mem first
        (ih (by omega) (by omega) (PoolTable.decrement_lt limit) later rest)

theorem pickedQuests_ne_nil {fuel : Nat} (nonempty : newQuests.entries ≠ []) :
    pickedQuests (fuel + 1) limit newQuests dice ≠ [] := by
  obtain ⟨first, found⟩ := exists_pick dice nonempty
  unfold pickedQuests
  rw [found]
  dsimp only
  split <;> exact List.cons_ne_nil _ _

end Loops

/-! ### The choice -/

section Choice

variable {state : State} {limit quest poolId : Nat} {currentQuests newQuests : ActivePoolObjects}
  {dice : Dice} {group : PoolGroup}

theorem length_assign_le (objects : ActivePoolObjects) (added : Nat) :
    (objects.assign added ()).entries.length ≤ objects.entries.length + 1 := by
  cases found : objects.find added with
  | none => exact Nat.le_of_eq (OrdMap.length_assign_none found)
  | some value => exact Nat.le_succ_of_le (Nat.le_of_eq (OrdMap.length_assign_some found))

theorem mem_recycleQuests_of_mem {fuel : Nat} (chosen : quest ∈ guidsOf newQuests) :
    quest ∈ guidsOf (PoolTable.recycleQuests limit fuel currentQuests newQuests dice).1 := by
  induction fuel generalizing currentQuests newQuests dice with
  | zero => exact chosen
  | succ fuel ih =>
    unfold PoolTable.recycleQuests
    split
    · exact chosen
    · rename_i recycled _
      have still : quest ∈ guidsOf (newQuests.assign recycled ()) :=
        mem_guidsOf_assign.mpr (Or.inr chosen)
      dsimp only
      split
      · exact ih still
      · exact still

theorem length_recycleQuests_le {fuel : Nat} (fewer : newQuests.entries.length < limit) :
    (PoolTable.recycleQuests limit fuel currentQuests newQuests dice).1.entries.length ≤ limit := by
  induction fuel generalizing currentQuests newQuests dice with
  | zero => exact Nat.le_of_lt fewer
  | succ fuel ih =>
    unfold PoolTable.recycleQuests
    split
    · exact Nat.le_of_lt fewer
    · rename_i recycled _
      have oneMore := length_assign_le newQuests recycled
      dsimp only
      split
      · rename_i still
        exact ih still
      · exact Nat.le_trans oneMore fewer

theorem first_mem_recycleQuests {fuel : Nat} (positive : 0 < fuel)
    (rolled : (guidsOf currentQuests)[dice.urand currentQuests.entries.length]? = some quest) :
    quest ∈ guidsOf (PoolTable.recycleQuests limit fuel currentQuests newQuests dice).1 := by
  obtain ⟨left, rfl⟩ := Nat.exists_eq_succ_of_ne_zero (Nat.pos_iff_ne_zero.mp positive)
  have assigned : quest ∈ guidsOf (newQuests.assign quest ()) :=
    mem_guidsOf_assign.mpr (Or.inl rfl)
  unfold PoolTable.recycleQuests
  rw [rolled]
  dsimp only
  split
  · exact mem_recycleQuests_of_mem assigned
  · exact assigned

theorem dice_despawnObjects {objects : List PoolObject} :
    (PoolGroup.despawnObjects (fun _ state => state) .quest poolId 0 objects state).dice =
      state.dice := by
  induction objects generalizing state with
  | nil => rfl
  | cons head rest ih =>
    unfold PoolGroup.despawnObjects
    split <;> rw [ih]

theorem dice_despawnObject :
    (group.despawnObject (fun _ state => state) .quest 0 state).dice = state.dice := by
  unfold PoolGroup.despawnObject
  rw [dice_despawnObjects, dice_despawnObjects]

theorem isActiveObject_despawnObjects {objects : List PoolObject} :
    (PoolGroup.despawnObjects (fun _ state => state) .quest poolId 0 objects
        state).spawns.isActiveObject .quest quest = true ↔
      state.spawns.isActiveObject .quest quest = true ∧ ∀ obj ∈ objects, obj.guid ≠ quest := by
  induction objects generalizing state with
  | nil => simp [PoolGroup.despawnObjects]
  | cons head rest ih =>
    unfold PoolGroup.despawnObjects
    split
    · rw [ih, ActivePoolData.isActiveObject_removeObject]
      simp only [List.forall_mem_cons, true_and, reduceCtorEq, false_and, or_false, and_assoc,
        eq_comm, ne_eq]
    · rename_i inactive
      rw [ih, List.forall_mem_cons]
      simp only [true_or, and_true] at inactive
      constructor
      · grind
      · simp_all

theorem isActiveObject_despawnObject :
    (group.despawnObject (fun _ state => state) .quest 0 state).spawns.isActiveObject .quest quest =
        true ↔
      state.spawns.isActiveObject .quest quest = true ∧ quest ∉ group.guids := by
  unfold PoolGroup.despawnObject PoolGroup.guids
  rw [isActiveObject_despawnObjects, isActiveObject_despawnObjects, List.map_append,
    List.mem_append, List.mem_map, List.mem_map, not_or]
  constructor <;> simp_all

theorem chooseQuests_spawns (group : PoolGroup) (limit : Nat) (state : State) :
    (PoolTable.chooseQuests group limit state).2.spawns =
      (group.despawnObject (fun _ state => state) .quest 0 state).spawns := by
  unfold PoolTable.chooseQuests
  dsimp only
  split <;> rfl

theorem mem_chooseQuests (chosen : quest ∈ guidsOf (PoolTable.chooseQuests group limit state).1) :
    quest ∈ guidsOf (PoolTable.differentQuests state.spawns group.equalChanced .empty) ∨
      (PoolTable.differentQuests state.spawns group.equalChanced .empty).entries.length < limit ∧
        state.spawns.isActiveObject .quest quest = true := by
  unfold PoolTable.chooseQuests at chosen
  dsimp only at chosen
  split at chosen
  · rename_i recycles
    rcases PoolTable.mem_recycleQuests chosen with new | current
    · exact Or.inl new
    · exact Or.inr ⟨recycles.1, mem_guidsOf.mp current⟩
  · exact Or.inl chosen

end Choice

/-! ### The spawn -/

namespace PoolTable

variable {table : PoolTable} {pool limit triggerFrom quest : Nat} {state : State}
  {spawns : ActivePoolData} {saved : Nat → ActivePoolObjects}

theorem spawnQuests_spawns (table : PoolTable) (group : PoolGroup) (limit triggerFrom : Nat)
    (state : State) :
    (table.spawnQuests group limit triggerFrom state).spawns =
      (clearedSpawns group limit triggerFrom state).activateAll group.poolId
        (activatedQuests group limit triggerFrom state) := by
  unfold spawnQuests clearedSpawns activatedQuests
  split
  · exact loadQuests_spawns _
  · dsimp only
    split
    · rename_i none
      rw [none]
      rfl
    · split <;> exact activateQuests_spawns _

theorem isActiveObject_spawnQuests {group : PoolGroup} :
    (table.spawnQuests group limit triggerFrom state).spawns.isActiveObject .quest quest = true ↔
      (clearedSpawns group limit triggerFrom state).isActiveObject .quest quest = true ∨
        quest ∈ activatedQuests group limit triggerFrom state := by
  rw [spawnQuests_spawns, isActiveObject_activateAll]

theorem isActiveObject_clearedSpawns (foreign : quest ∉ table.members .quest pool) :
    (clearedSpawns (table.groups .quest pool) limit triggerFrom state).isActiveObject .quest quest =
      state.spawns.isActiveObject .quest quest := by
  unfold clearedSpawns
  split
  · rfl
  · rw [chooseQuests_spawns, Bool.eq_iff_iff, isActiveObject_despawnObject]
    exact and_iff_left foreign

theorem activeOf_spawnQuests (table : PoolTable) (pool limit triggerFrom : Nat) (state : State) :
    table.activeOf (table.spawnQuests (table.groups .quest pool) limit triggerFrom state).spawns
        .quest pool =
      (table.members .quest pool).countP fun quest =>
        (clearedSpawns (table.groups .quest pool) limit triggerFrom
          state).isActiveObject .quest quest ||
        decide (quest ∈ activatedQuests (table.groups .quest pool) limit triggerFrom state) := by
  refine List.countP_congr fun quest _ => ?_
  rw [isActiveObject_spawnQuests, Bool.or_eq_true, decide_eq_true_iff]

theorem SpawnsOwn.of_own
    (own : ∀ quest ∈ activatedQuests (table.groups .quest pool) limit triggerFrom state,
      quest ∈ table.members .quest pool)
    (within : ((table.members .quest pool).countP fun quest =>
        (clearedSpawns (table.groups .quest pool) limit triggerFrom
          state).isActiveObject .quest quest ||
        decide (quest ∈ activatedQuests (table.groups .quest pool) limit triggerFrom state)) ≤
      limit) :
    table.SpawnsOwn pool limit triggerFrom state where
  own := own
  others quest foreign := by
    rw [Bool.eq_iff_iff, isActiveObject_spawnQuests, isActiveObject_clearedSpawns foreign]
    exact or_iff_left fun activated => foreign (own quest activated)
  within := by
    grind [activeOf_spawnQuests]

theorem countP_mem_le (table : PoolTable) (pool : Nat) (quests : List Nat) :
    ((table.members .quest pool).countP fun quest => decide (quest ∈ quests)) ≤ quests.length := by
  have distinct : (table.members .quest pool).Nodup := table.listedOnce .quest pool
  have among : (table.members .quest pool).filter (fun quest => decide (quest ∈ quests)) ⊆ quests :=
    fun quest listed => of_decide_eq_true (List.mem_filter.mp listed).2
  rw [List.countP_eq_length_filter]
  exact (List.Nodup.subperm (distinct.filter _) among).length_le

/-! ### Saved quests -/

theorem spawnsOwn_saved_iff (bounded : limit < 2 ^ 32)
    (load : triggerFrom = 0 ∧ (state.saved (table.groups .quest pool).poolId).entries ≠ []) :
    table.SpawnsOwn pool limit triggerFrom state ↔
      table.SavedFit pool limit state.spawns
        (guidsOf (state.saved (table.groups .quest pool).poolId)) := by
  have activated : activatedQuests (table.groups .quest pool) limit triggerFrom state =
      loadedQuests (guidsOf (state.saved (table.groups .quest pool).poolId)) limit := if_pos load
  have cleared : clearedSpawns (table.groups .quest pool) limit triggerFrom state = state.spawns :=
    if_pos load
  constructor
  · intro spawnsOwn
    have own := spawnsOwn.own
    have within := spawnsOwn.within
    rw [activeOf_spawnQuests, cleared, activated] at within
    rw [activated] at own
    have positive : 0 < limit := by
      by_contra none
      have isZero : limit = 0 := Nat.eq_zero_of_not_pos none
      rw [isZero] at within
      cases rows : guidsOf (state.saved (table.groups .quest pool).poolId) with
      | nil => exact load.2 (List.map_eq_nil_iff.mp rows)
      | cons first rest =>
        rw [rows] at own within
        have taken : first ∈ loadedQuests (first :: rest) limit := head_mem_loadedQuests rest
        rw [isZero] at taken own
        have absent := List.countP_eq_zero.mp (Nat.le_zero.mp within) first (own first taken)
        exact absent (by rw [decide_eq_true taken, Bool.or_true])
    rw [loadedQuests_eq_take _ positive bounded] at own within
    exact ⟨positive, own, within⟩
  · rintro ⟨positive, own, within⟩
    have taken := loadedQuests_eq_take
      (guidsOf (state.saved (table.groups .quest pool).poolId)) positive bounded
    refine SpawnsOwn.of_own ?_ ?_ <;> simp_all

/-! ### Chosen quests -/

theorem activeOf_chosen (load : ¬ (triggerFrom = 0 ∧
      (state.saved (table.groups .quest pool).poolId).entries ≠ [])) :
    ((table.members .quest pool).countP fun quest =>
        (clearedSpawns (table.groups .quest pool) limit triggerFrom
          state).isActiveObject .quest quest ||
        decide (quest ∈ activatedQuests (table.groups .quest pool) limit triggerFrom state)) =
      (table.members .quest pool).countP fun quest =>
        decide (quest ∈ activatedQuests (table.groups .quest pool) limit triggerFrom state) := by
  refine List.countP_congr fun quest listed => ?_
  have cleared : (clearedSpawns (table.groups .quest pool) limit triggerFrom
      state).isActiveObject .quest quest = false := by
    unfold clearedSpawns
    rw [if_neg load, chooseQuests_spawns, ← Bool.not_eq_true, isActiveObject_despawnObject]
    exact fun both => both.2 listed
  rw [cleared, Bool.false_or]

theorem chooseQuests_of_enough {group : PoolGroup}
    (enough : limit ≤ (differentQuests state.spawns group.equalChanced .empty).entries.length) :
    (chooseQuests group limit state).1 =
      differentQuests state.spawns group.equalChanced .empty := by
  unfold chooseQuests
  rw [if_neg fun recycles => Nat.not_lt.mpr enough recycles.1]

theorem spawnsOwn_of_choiceFits (bounded : limit < 2 ^ 32)
    (load : ¬ (triggerFrom = 0 ∧ (state.saved (table.groups .quest pool).poolId).entries ≠ []))
    (fits : table.ChoiceFits pool limit state.spawns) :
    table.SpawnsOwn pool limit triggerFrom state := by
  obtain ⟨unlimited, enough⟩ := fits
  have length := length_differentQuests table pool state.spawns
  have activated : activatedQuests (table.groups .quest pool) limit triggerFrom state =
      pickedQuests (chooseQuests (table.groups .quest pool) limit state).1.entries.length limit
        (chooseQuests (table.groups .quest pool) limit state).1
        (chooseQuests (table.groups .quest pool) limit state).2.dice := if_neg load
  refine SpawnsOwn.of_own ?_ ?_
  · intro quest picked
    rw [activated] at picked
    rcases mem_chooseQuests (mem_of_mem_pickedQuests picked) with different | ⟨fewer, active⟩
    · exact own_of_mem_differentQuests different
    · rcases enough with isEnough | alone
      · omega
      · exact alone quest active
  · rw [activeOf_chosen load]
    refine Nat.le_trans (countP_mem_le table pool _) ?_
    rw [activated]
    rcases Nat.eq_zero_or_pos limit with isZero | positive
    · have nothing :
          (chooseQuests (table.groups .quest pool) limit state).1.entries.length = 0 := by
        rw [chooseQuests_of_enough (by omega), length, unlimited isZero]
      rw [nothing]
      exact Nat.zero_le limit
    · exact length_pickedQuests_le positive bounded

def alwaysDice (index : Nat) : Dice := { chances := fun _ => 0, indices := fun _ => index }

theorem urand_alwaysDice {index size : Nat} (inRange : index < size) :
    (alwaysDice index).urand size = index :=
  Nat.mod_eq_of_lt inRange

theorem exists_foreign (bounded : limit < 2 ^ 32)
    (load : ¬ (triggerFrom = 0 ∧ (saved (table.groups .quest pool).poolId).entries ≠ []))
    (fewer : table.inactiveQuests spawns pool < limit)
    (active : spawns.isActiveObject .quest quest = true) :
    ∃ dice, quest ∈ activatedQuests (table.groups .quest pool) limit triggerFrom
      { spawns := spawns, saved := saved, dice := dice } := by
  have current : quest ∈ guidsOf spawns.activeQuests := mem_guidsOf.mpr active
  obtain ⟨index, found⟩ := List.mem_iff_getElem?.mp current
  have inRange : index < spawns.activeQuests.entries.length := by
    have within := (List.getElem?_eq_some_iff.mp found).1
    rwa [guidsOf, List.length_map] at within
  refine ⟨alwaysDice index, ?_⟩
  have different := length_differentQuests table pool spawns
  have recycles : (differentQuests spawns (table.groups .quest pool).equalChanced
      .empty).entries.length < limit ∧ spawns.activeQuests.entries ≠ [] :=
    ⟨by omega, List.length_pos_iff.mp (by omega)⟩
  unfold activatedQuests
  rw [if_neg load]
  unfold chooseQuests
  dsimp only
  rw [if_pos recycles]
  refine mem_pickedQuests (Nat.le_refl _) (length_recycleQuests_le recycles.1) bounded ?_
  refine first_mem_recycleQuests (by omega) ?_
  rw [dice_despawnObject, urand_alwaysDice inRange]
  exact found

theorem exists_activated
    (load : ¬ (triggerFrom = 0 ∧ (state.saved (table.groups .quest pool).poolId).entries ≠ []))
    (something : table.inactiveQuests state.spawns pool ≠ 0) :
    ∃ quest, quest ∈ activatedQuests (table.groups .quest pool) 0 triggerFrom state := by
  have length := length_differentQuests table pool state.spawns
  obtain ⟨more, isMore⟩ := Nat.exists_eq_succ_of_ne_zero something
  have nonempty : (differentQuests state.spawns (table.groups .quest pool).equalChanced
      .empty).entries ≠ [] := by
    grind
  unfold activatedQuests
  rw [if_neg load]
  dsimp only
  rw [chooseQuests_of_enough (Nat.zero_le _), length, isMore]
  exact List.exists_mem_of_ne_nil _ (pickedQuests_ne_nil nonempty)

theorem choiceFits_of_spawnsOwn (bounded : limit < 2 ^ 32)
    (load : ¬ (triggerFrom = 0 ∧ (saved (table.groups .quest pool).poolId).entries ≠ []))
    (spawnsOwn : ∀ dice, table.SpawnsOwn pool limit triggerFrom
      { spawns := spawns, saved := saved, dice := dice }) :
    table.ChoiceFits pool limit spawns := by
  constructor
  · intro isZero
    have within := (spawnsOwn (alwaysDice 0)).within
    have own := (spawnsOwn (alwaysDice 0)).own
    rw [activeOf_spawnQuests, activeOf_chosen load] at within
    rw [isZero] at within own
    by_contra something
    obtain ⟨first, picked⟩ :=
      @exists_activated _ _ triggerFrom { spawns := spawns, saved := saved, dice := alwaysDice 0 }
        load something
    have none := List.countP_eq_zero.mp (Nat.le_zero.mp within) first (own first picked)
    exact none (decide_eq_true picked)
  · by_cases enough : limit ≤ table.inactiveQuests spawns pool
    · exact Or.inl enough
    · right
      intro quest active
      obtain ⟨dice, foreign⟩ := exists_foreign bounded load (Nat.lt_of_not_le enough) active
      exact (spawnsOwn dice).own quest foreign

/-! ### Both ways -/

/-- Whatever the random numbers are, the spawn activates quests of the pool only, leaves the others
and keeps to the limit: exactly if the saved quests fit or, without saved quests, the choice
does. -/
theorem spawnsOwn_iff (table : PoolTable) (pool : Nat) (limit : UInt32) (triggerFrom : Nat)
    (spawns : ActivePoolData) (saved : Nat → ActivePoolObjects) :
    (∀ dice, table.SpawnsOwn pool limit.toNat triggerFrom
        { spawns := spawns, saved := saved, dice := dice }) ↔
      table.SpawnFits pool limit.toNat triggerFrom spawns saved := by
  have bounded : limit.toNat < 2 ^ 32 := limit.toNat_lt
  unfold SpawnFits
  split
  · rename_i load
    constructor
    · intro spawnsOwn
      exact (spawnsOwn_saved_iff bounded load).mp (spawnsOwn (alwaysDice 0))
    · intro fits dice
      exact (spawnsOwn_saved_iff bounded load).mpr fits
  · rename_i load
    constructor
    · exact choiceFits_of_spawnsOwn bounded load
    · intro fits dice
      exact spawnsOwn_of_choiceFits bounded load fits

def twoActive : ActivePoolData where
  activeQuests := (OrdMap.empty.assign 10 ()).assign 20 ()
  spawnedPools := (OrdMap.empty.assign 1 1).assign 2 1

/-- The second pool has only the quest that was active, and gets the one of the first pool. -/
theorem not_spawnsOwn :
    ¬ ∀ (table : PoolTable) (pool : Nat) (limit : UInt32) (triggerFrom : Nat)
      (spawns : ActivePoolData) (saved : Nat → ActivePoolObjects) (dice : Dice),
      table.SpawnsOwn pool limit.toNat triggerFrom
        { spawns := spawns, saved := saved, dice := dice } := by
  intro always
  have own := (always dailies 2 1 1 twoActive noneSaved firstDice).own 10
  revert own
  decide +kernel

end PoolTable

end DarkCore.Pools
