/-
The quests of a pool. They are loaded from the table of saved quests, or chosen
among the quests of the pool that were not active and, where these are too few,
among all quests that were. Only the choice of a quest of another pool makes the
counter too large, and it is never made too small.
-/

import DarkCore.Pools.PoolDespawn

namespace DarkCore.Pools

open Lib

section Sets

variable {objects : ActivePoolObjects} {guid added : Nat}

theorem mem_guidsOf : guid ∈ guidsOf objects ↔ (objects.find guid).isSome = true := by
  rw [Option.isSome_iff_exists]
  constructor
  · intro listed
    obtain ⟨entry, inMap, rfl⟩ := List.mem_map.mp listed
    exact ⟨entry.2, OrdMap.find_eq_some.mpr inMap⟩
  · rintro ⟨value, found⟩
    exact List.mem_map_of_mem (OrdMap.find_eq_some.mp found)

theorem mem_guidsOf_assign : guid ∈ guidsOf (objects.assign added ()) ↔
    guid = added ∨ guid ∈ guidsOf objects := by
  rw [mem_guidsOf, mem_guidsOf, OrdMap.find_assign, Function.update_apply]
  split_ifs with same
  · exact iff_of_true rfl (Or.inl same)
  · exact (or_iff_right same).symm

theorem mem_guidsOf_erase : guid ∈ guidsOf (objects.erase added) ↔
    guid ≠ added ∧ guid ∈ guidsOf objects := by
  rw [mem_guidsOf, mem_guidsOf, OrdMap.find_erase, Function.update_apply]
  split_ifs with same
  · exact iff_of_false Bool.false_ne_true fun both => both.1 same
  · exact (and_iff_right same).symm

theorem guidsOf_nodup (objects : ActivePoolObjects) : (guidsOf objects).Nodup :=
  OrdMap.keys_nodup objects

theorem length_assign_of_absent (absent : guid ∉ guidsOf objects) :
    (objects.assign guid ()).entries.length = objects.entries.length + 1 := by
  have missing : objects.find guid = none := by
    rw [mem_guidsOf, Bool.not_eq_true, Option.isSome_eq_false_iff,
      Option.isNone_iff_eq_none] at absent
    exact absent
  have counted := @OrdMap.countWhere_assign _ _ _ objects guid () (fun _ => true)
  rw [missing, OrdMap.countWhere_true, OrdMap.countWhere_true] at counted
  exact counted

end Sets

namespace PoolTable

variable {table : PoolTable} {precise limited : Nat → Prop} {level limit pool guid : Nat}
  {state before middle after : State} {kind : Kind}

theorem activeMembers_activateObject (rooted : table.Rooted state.spawns pool)
    (listed : guid ∈ table.members kind pool)
    (inactive : state.spawns.isActiveObject kind guid = false) (looked : Nat) :
    table.activeMembers (state.spawns.activateObject kind guid pool) looked =
      table.activeMembers state.spawns looked + if looked = pool then 1 else 0 := by
  have changed := fun other => activeOf_activateObject rooted listed inactive other looked
  unfold activeMembers
  rw [changed .creature, changed .gameObject, changed .quest, changed .pool]
  by_cases here : looked = pool
  · cases kind <;> simp only [here, reduceCtorEq, and_true, if_true, if_false] <;> omega
  · simp only [here, and_false, if_false, Nat.add_zero]

theorem activateObject_sound (sound : table.Sound precise state)
    (rooted : table.Rooted state.spawns pool) (listed : guid ∈ table.members kind pool)
    (inactive : state.spawns.isActiveObject kind guid = false) :
    table.Sound precise { state with spawns := state.spawns.activateObject kind guid pool } := by
  have fresh : kind = .pool → state.spawns.isActiveObject .pool guid = false := by
    grind
  refine ⟨?_, ?_, ?_, sound.rows⟩
  · intro looked
    rw [activeMembers_activateObject rooted listed inactive,
      ActivePoolData.count_activateObject fresh]
    exact Nat.add_le_add_right (sound.counted looked) _
  · intro looked preciseHere
    rw [activeMembers_activateObject rooted listed inactive,
      ActivePoolData.count_activateObject fresh]
    exact Nat.add_le_add_right (sound.notAbove looked preciseHere) _
  · intro quest active
    rcases ActivePoolData.isActiveObject_activateObject.mp active with old | ⟨rfl, rfl⟩ | ⟨isPool, _⟩
    · exact sound.quests quest old
    · exact ⟨pool, listed⟩
    · cases isPool

variable {spawns : ActivePoolData} {newQuests : ActivePoolObjects} {objects : List PoolObject}

theorem Rooted.mono {changed : ActivePoolData}
    (kept : spawns.isActiveObject .pool pool = true → changed.isActiveObject .pool pool = true)
    (rooted : table.Rooted spawns pool) : table.Rooted changed pool :=
  rooted.imp_right kept

variable (table precise) in
/-- A quest that may be activated for a pool: one of its own that is not active or, unless the pool
is counted precisely, any that is active. -/
def Choosable (state : State) (pool quest : Nat) : Prop :=
  (quest ∈ table.members .quest pool ∧ state.spawns.isActiveObject .quest quest = false) ∨
    (state.spawns.isActiveObject .quest quest = true ∧ ¬ precise pool)

variable (table precise) in
structure QuestsActivated (pool number : Nat) (before after : State) : Prop where
  sound : table.Sound precise after
  counts : ∀ other, other ≠ pool →
    after.spawns.getActiveObjectCount other = before.spawns.getActiveObjectCount other
  members : ∀ kind other, ¬ (kind = .quest ∧ other = pool) →
    table.activeOf after.spawns kind other = table.activeOf before.spawns kind other
  kept : ∀ kind guid, before.spawns.isActiveObject kind guid = true →
    after.spawns.isActiveObject kind guid = true
  more : table.activeOf after.spawns .quest pool ≤
    table.activeOf before.spawns .quest pool + number
  fresh : ∀ quest, after.spawns.isActiveObject .quest quest = true →
    before.spawns.isActiveObject .quest quest = true ∨ quest ∈ table.members .quest pool

theorem QuestsActivated.trans {first second : Nat}
    (one : table.QuestsActivated precise pool first before middle)
    (two : table.QuestsActivated precise pool second middle after) :
    table.QuestsActivated precise pool (first + second) before after where
  sound := two.sound
  counts := fun other different => (two.counts other different).trans (one.counts other different)
  members := fun kind other elsewhere =>
    (two.members kind other elsewhere).trans (one.members kind other elsewhere)
  kept := fun kind guid active => two.kept kind guid (one.kept kind guid active)
  more := by
    have added := one.more
    have addedMore := two.more
    omega
  fresh := by
    intro quest active
    rcases two.fresh quest active with earlier | own
    · exact one.fresh quest earlier
    · exact Or.inr own

theorem QuestsActivated.refl (sound : table.Sound precise state) :
    table.QuestsActivated precise pool 0 state state :=
  ⟨sound, fun _ _ => rfl, fun _ _ _ => rfl, fun _ _ => id, Nat.le_refl _, fun _ => Or.inl⟩

theorem activeOf_activateAgain (rooted : table.Rooted state.spawns pool)
    (active : state.spawns.isActiveObject .quest guid = true) (other : Kind) (looked : Nat) :
    table.activeOf (state.spawns.activateObject .quest guid pool) other looked =
      table.activeOf state.spawns other looked := by
  apply List.countP_congr
  intro member inPool
  rw [ActivePoolData.isActiveObject_activateObject]
  constructor
  · rintro (already | ⟨rfl, rfl⟩ | ⟨rfl, rfl⟩)
    · exact already
    · exact active
    · rcases rooted with motherless | already
      · have found := (table.searched .pool member looked).mpr inPool
        rw [motherless] at found
        cases found
      · exact already
  · exact Or.inl

theorem activateQuest_spec (sound : table.Sound precise state)
    (rooted : table.Rooted state.spawns pool) (choosable : table.Choosable precise state pool guid)
    (dice : Dice) :
    table.QuestsActivated precise pool 1 state
      { state with
        spawns := state.spawns.activateObject .quest guid pool
        dice := dice } := by
  have kept : ∀ kind looked, state.spawns.isActiveObject kind looked = true →
      (state.spawns.activateObject .quest guid pool).isActiveObject kind looked = true :=
    fun kind looked active => ActivePoolData.isActiveObject_activateObject.mpr (Or.inl active)
  have count : ∀ looked, (state.spawns.activateObject .quest guid pool).getActiveObjectCount looked =
      state.spawns.getActiveObjectCount looked + if looked = pool then 1 else 0 := by
    intro looked
    exact ActivePoolData.count_activateObject fun isPool => by cases isPool
  have counts : ∀ other, other ≠ pool →
      (state.spawns.activateObject .quest guid pool).getActiveObjectCount other =
        state.spawns.getActiveObjectCount other := by
    simp [count, Nat.add_zero]
  rcases choosable with ⟨listed, inactive⟩ | ⟨active, notPrecise⟩
  · have changed := activeOf_activateObject rooted listed inactive
    have soundAfter := activateObject_sound sound rooted listed inactive
    refine ⟨⟨soundAfter.counted, soundAfter.notAbove, soundAfter.quests, sound.rows⟩, counts, ?_,
      kept, ?_, ?_⟩
    · simp_all
    · exact Nat.le_of_eq ((changed .quest pool).trans (by rw [if_pos ⟨rfl, rfl⟩]))
    · intro quest nowActive
      dsimp only at nowActive
      rcases ActivePoolData.isActiveObject_activateObject.mp nowActive with
        old | ⟨_, rfl⟩ | ⟨isPool, _⟩
      · exact Or.inl old
      · exact Or.inr listed
      · cases isPool
  · have same := activeOf_activateAgain rooted active
    have sameMembers := fun looked => activeMembers_congr fun kind => same kind looked
    have sameQuests : ∀ quest,
        (state.spawns.activateObject .quest guid pool).isActiveObject .quest quest = true →
          state.spawns.isActiveObject .quest quest = true := by
      intro quest nowActive
      rcases ActivePoolData.isActiveObject_activateObject.mp nowActive with
        old | ⟨_, rfl⟩ | ⟨isPool, _⟩
      · exact old
      · exact active
      · cases isPool
    refine ⟨⟨?_, ?_, ?_, sound.rows⟩, counts, fun kind other _ => same kind other, kept, ?_,
      fun quest nowActive => Or.inl (sameQuests quest nowActive)⟩
    · intro looked
      rw [sameMembers, count]
      exact Nat.le_add_right_of_le (sound.counted looked)
    · intro looked preciseHere
      rw [sameMembers, count, if_neg, Nat.add_zero]
      · exact sound.notAbove looked preciseHere
      · rintro rfl
        exact notPrecise preciseHere
    · intro quest nowActive
      exact sound.quests quest (sameQuests quest nowActive)
    · exact Nat.le_trans (Nat.le_of_eq (same .quest pool)) (Nat.le_succ _)

theorem Choosable.activate {quest : Nat} (choosable : table.Choosable precise state pool quest)
    (different : quest ≠ guid) (dice : Dice) :
    table.Choosable precise
      { state with
        spawns := state.spawns.activateObject .quest guid pool
        dice := dice } pool quest := by
  rcases choosable with ⟨listed, inactive⟩ | ⟨active, notPrecise⟩
  · refine Or.inl ⟨listed, ?_⟩
    rw [← Bool.not_eq_true, ActivePoolData.isActiveObject_activateObject]
    rintro (old | ⟨_, same⟩ | ⟨isPool, _⟩)
    · simp_all
    · exact different same
    · cases isPool
  · exact Or.inr ⟨ActivePoolData.isActiveObject_activateObject.mpr (Or.inl active), notPrecise⟩

theorem decrement_of_pos (positive : 0 < limit) (bounded : limit < 2 ^ 32) :
    decrement limit = limit - 1 := by
  unfold decrement
  omega

theorem decrement_lt (limit : Nat) : decrement limit < 2 ^ 32 :=
  Nat.mod_lt _ (by decide)

theorem loadQuests_spec {rows : List Nat} (distinct : rows.Nodup) (bounded : limit < 2 ^ 32)
    (sound : table.Sound precise state) (rooted : table.Rooted state.spawns pool)
    (choosable : ∀ quest ∈ rows, table.Choosable precise state pool quest) :
    ∃ number, table.QuestsActivated precise pool number state (loadQuests pool rows limit state) ∧
      (0 < limit → number ≤ limit) := by
  induction rows generalizing limit state with
  | nil => exact ⟨0, QuestsActivated.refl sound, fun _ => Nat.zero_le limit⟩
  | cons quest rest ih =>
    obtain ⟨absent, restDistinct⟩ := List.nodup_cons.mp distinct
    have first := activateQuest_spec sound rooted (choosable quest List.mem_cons_self) state.dice
    unfold loadQuests
    split
    · exact ⟨1, first, id⟩
    · rename_i more
      obtain ⟨number, later, within⟩ := ih restDistinct (decrement_lt limit) first.sound
        (rooted.mono (first.kept .pool pool)) (by
          intro other inRest
          refine (choosable other (List.mem_cons_of_mem quest inRest)).activate ?_ state.dice
          exact fun same => absent (same ▸ inRest))
      refine ⟨1 + number, first.trans later, ?_⟩
      intro positive
      have bound := within (Nat.pos_of_ne_zero more)
      rw [decrement_of_pos positive bounded] at bound
      omega

theorem activateQuests_spec {fuel : Nat}
    (bounded : limit < 2 ^ 32) (sound : table.Sound precise state)
    (rooted : table.Rooted state.spawns pool)
    (choosable : ∀ quest ∈ guidsOf newQuests, table.Choosable precise state pool quest) :
    ∃ number, table.QuestsActivated precise pool number state
        (activateQuests pool fuel limit newQuests state) ∧ (0 < limit → number ≤ limit) := by
  induction fuel generalizing limit newQuests state with
  | zero => exact ⟨0, QuestsActivated.refl sound, fun _ => Nat.zero_le limit⟩
  | succ fuel ih =>
    unfold activateQuests
    split
    · exact ⟨0, QuestsActivated.refl sound, fun _ => Nat.zero_le limit⟩
    · rename_i quest picked
      have first := activateQuest_spec sound rooted
        (choosable quest (List.mem_of_getElem? picked)) state.dice.next
      split
      · exact ⟨1, first, id⟩
      · rename_i more
        obtain ⟨number, later, within⟩ := @ih (decrement limit) _ (newQuests.erase quest)
          (decrement_lt limit) first.sound (rooted.mono (first.kept .pool pool)) (by
            intro other inRest
            obtain ⟨different, inNew⟩ := mem_guidsOf_erase.mp inRest
            exact (choosable other inNew).activate different state.dice.next)
        refine ⟨1 + number, first.trans later, ?_⟩
        intro positive
        have bound := within (Nat.pos_of_ne_zero more)
        rw [decrement_of_pos positive bounded] at bound
        omega

variable (table) in
def inactiveQuests (spawns : ActivePoolData) (pool : Nat) : Nat :=
  (table.groups .quest pool).equalChanced.countP fun obj =>
    !spawns.isActiveObject .quest obj.guid

theorem mem_differentQuests
    {quest : Nat}
    (chosen : quest ∈ guidsOf (differentQuests spawns objects newQuests)) :
    quest ∈ guidsOf newQuests ∨
      (∃ obj ∈ objects, obj.guid = quest) ∧ spawns.isActiveObject .quest quest = false := by
  induction objects generalizing newQuests with
  | nil => exact Or.inl chosen
  | cons head rest ih =>
    unfold differentQuests at chosen
    split at chosen
    · rcases ih chosen with old | ⟨⟨obj, inRest, same⟩, inactive⟩
      · exact Or.inl old
      · exact Or.inr ⟨⟨obj, List.mem_cons_of_mem head inRest, same⟩, inactive⟩
    · rename_i inactive
      rcases ih chosen with new | ⟨⟨obj, inRest, same⟩, restInactive⟩
      · rcases mem_guidsOf_assign.mp new with rfl | old
        · exact Or.inr ⟨⟨head, List.mem_cons_self, rfl⟩, Bool.not_eq_true _ ▸ inactive⟩
        · exact Or.inl old
      · exact Or.inr ⟨⟨obj, List.mem_cons_of_mem head inRest, same⟩, restInactive⟩

theorem differentQuests_length
    (distinct : (objects.map PoolObject.guid).Nodup)
    (absent : ∀ obj ∈ objects, obj.guid ∉ guidsOf newQuests) :
    (differentQuests spawns objects newQuests).entries.length =
      newQuests.entries.length +
        objects.countP fun obj => !spawns.isActiveObject .quest obj.guid := by
  induction objects generalizing newQuests with
  | nil => rfl
  | cons head rest ih =>
    rw [List.map_cons] at distinct
    obtain ⟨headAbsent, restDistinct⟩ := List.nodup_cons.mp distinct
    have restAbsent := fun obj inRest => absent obj (List.mem_cons_of_mem head inRest)
    unfold differentQuests
    rw [List.countP_cons]
    split
    · rename_i active
      rw [ih restDistinct restAbsent, active]
      rfl
    · rename_i active
      have inactive := eq_false_of_ne_true active
      rw [ih restDistinct, length_assign_of_absent (absent head List.mem_cons_self), inactive]
      · grind
      · intro obj inRest chosen
        rcases mem_guidsOf_assign.mp chosen with same | old
        · exact headAbsent (same ▸ List.mem_map_of_mem inRest)
        · exact restAbsent obj inRest old

theorem length_differentQuests (table : PoolTable) (pool : Nat) (spawns : ActivePoolData) :
    (differentQuests spawns (table.groups .quest pool).equalChanced .empty).entries.length =
      table.inactiveQuests spawns pool := by
  have distinct := table.listedOnce .quest pool
  unfold PoolGroup.guids at distinct
  rw [List.map_append] at distinct
  rw [differentQuests_length distinct.of_append_left fun obj _ absent => by cases absent]
  exact Nat.zero_add _

theorem own_of_mem_differentQuests {quest : Nat}
    (chosen : quest ∈ guidsOf (differentQuests spawns (table.groups .quest pool).equalChanced
      .empty)) : quest ∈ table.members .quest pool := by
  rcases mem_differentQuests chosen with impossible | ⟨⟨obj, equal, rfl⟩, _⟩
  · cases impossible
  · exact PoolGroup.mem_guids_of_equal equal

theorem mem_recycleQuests {fuel : Nat} {currentQuests : ActivePoolObjects} {dice : Dice}
    {quest : Nat}
    (chosen : quest ∈ guidsOf (recycleQuests limit fuel currentQuests newQuests dice).1) :
    quest ∈ guidsOf newQuests ∨ quest ∈ guidsOf currentQuests := by
  induction fuel generalizing currentQuests newQuests dice with
  | zero => exact Or.inl chosen
  | succ fuel ih =>
    unfold recycleQuests at chosen
    split at chosen
    · exact Or.inl chosen
    · rename_i recycled picked
      have inCurrent := List.mem_of_getElem? picked
      have ofAssigned : quest ∈ guidsOf (newQuests.assign recycled ()) →
          quest ∈ guidsOf newQuests ∨ quest ∈ guidsOf currentQuests := by
        intro assigned
        rcases mem_guidsOf_assign.mp assigned with rfl | old
        · exact Or.inr inCurrent
        · exact Or.inl old
      dsimp only at chosen
      split at chosen
      · rcases ih chosen with new | left
        · exact ofAssigned new
        · exact Or.inr (mem_guidsOf_erase.mp left).2
      · exact ofAssigned chosen

theorem despawnObjects_keeps {poolId only : Nat} {other : Kind}
    (unlisted : ¬ (other = kind ∧ ∃ obj ∈ objects, obj.guid = guid))
    (active : state.spawns.isActiveObject other guid = true) :
    (PoolGroup.despawnObjects (fun _ state => state) kind poolId only objects
      state).spawns.isActiveObject other guid = true := by
  induction objects generalizing state with
  | nil => exact active
  | cons head rest ih =>
    have restUnlisted : ¬ (other = kind ∧ ∃ obj ∈ rest, obj.guid = guid) := by
      simp_all
    unfold PoolGroup.despawnObjects
    split
    · apply ih restUnlisted
      apply ActivePoolData.isActiveObject_removeObject.mpr
      refine Or.inl ⟨active, ?_⟩
      rintro ⟨same, named⟩
      exact unlisted ⟨same, head, List.mem_cons_self, named.symm⟩
    · exact ih restUnlisted active

theorem despawnObject_keeps {only : Nat} {other : Kind}
    (unlisted : ¬ (other = kind ∧ guid ∈ table.members kind pool))
    (active : state.spawns.isActiveObject other guid = true) :
    ((table.groups kind pool).despawnObject (fun _ state => state) kind only
      state).spawns.isActiveObject other guid = true := by
  unfold PoolGroup.despawnObject
  apply despawnObjects_keeps
  · rintro ⟨same, obj, explicit, rfl⟩
    exact unlisted ⟨same, PoolGroup.mem_guids_of_explicit explicit⟩
  · apply despawnObjects_keeps
    · rintro ⟨same, obj, equal, rfl⟩
      exact unlisted ⟨same, PoolGroup.mem_guids_of_equal equal⟩
    · exact active

variable (table) in
def Selectable (spawns : ActivePoolData) (pool : Nat) : Prop :=
  table.maxLimit pool ≤ table.inactiveQuests spawns pool ∨
    ∀ quest, spawns.isActiveObject .quest quest = true → quest ∈ table.members .quest pool

theorem chooseQuests_spec (nonempty : (table.groups .quest pool).isEmpty = false)
    (sound : table.Sound precise state)
    (selectable : precise pool → table.Selectable state.spawns pool) :
    let chosen := chooseQuests (table.groups .quest pool) (table.maxLimit pool) state
    table.Despawned precise (table.depth pool + 1) state chosen.2 ∧
      (∀ kind guid, kind ≠ .quest → state.spawns.isActiveObject kind guid = true →
        chosen.2.spawns.isActiveObject kind guid = true) ∧
      table.activeOf chosen.2.spawns .quest pool = 0 ∧
      ∀ quest ∈ guidsOf chosen.1, table.Choosable precise chosen.2 pool quest := by
  have calls : table.DespawnsMembers precise .quest pool (fun _ state => state) :=
    despawnsMembers_self (by decide : Kind.quest ≠ .pool) fun _ state => state
  obtain ⟨despawned, cleared⟩ := despawnObject_spec calls 0 nonempty sound
  have keeps : ∀ kind guid, ¬ (kind = .quest ∧ guid ∈ table.members .quest pool) →
      state.spawns.isActiveObject kind guid = true →
      ((table.groups .quest pool).despawnObject (fun _ state => state) .quest 0
        state).spawns.isActiveObject kind guid = true :=
    fun kind guid unlisted active => despawnObject_keeps unlisted active
  have none : table.activeOf ((table.groups .quest pool).despawnObject (fun _ state => state)
      .quest 0 state).spawns .quest pool = 0 := by
    apply List.countP_eq_zero.mpr
    intro guid listed
    rw [cleared guid listed (Or.inl rfl)]
    exact Bool.false_ne_true
  have length := length_differentQuests table pool state.spawns
  have different : ∀ quest ∈ guidsOf (differentQuests state.spawns
      (table.groups .quest pool).equalChanced .empty), quest ∈ table.members .quest pool :=
    fun _ chosen => own_of_mem_differentQuests chosen
  unfold chooseQuests
  dsimp only
  split
  · rename_i recycles
    refine ⟨⟨⟨despawned.sound.counted, despawned.sound.notAbove, despawned.sound.quests,
      despawned.sound.rows⟩, despawned.above, despawned.fewer, despawned.pools⟩,
      fun kind guid notQuest => keeps kind guid fun both => notQuest both.1, none, ?_⟩
    intro quest chosen
    by_cases own : quest ∈ table.members .quest pool
    · exact Or.inl ⟨own, cleared quest own (Or.inl rfl)⟩
    · rcases mem_recycleQuests chosen with new | current
      · exact absurd (different quest new) own
      · have active : state.spawns.isActiveObject .quest quest = true := mem_guidsOf.mp current
        refine Or.inr ⟨keeps .quest quest (fun both => own both.2) active, ?_⟩
        intro preciseHere
        rcases selectable preciseHere with enough | alone
        · omega
        · exact own (alone quest active)
  · refine ⟨despawned, fun kind guid notQuest => keeps kind guid fun both => notQuest both.1, none,
      ?_⟩
    intro quest chosen
    have own := different quest chosen
    exact Or.inl ⟨own, cleared quest own (Or.inl rfl)⟩

end PoolTable

end DarkCore.Pools
