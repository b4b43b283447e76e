/-
Spawning. A group rolls as often as its pool has room and, for a triggering
object, once more, and despawns that object for the first one it spawns. With
the members that are active, the rolls that are left never exceed the limit.
-/

import DarkCore.Pools.PoolQuests

namespace DarkCore.Pools

open Lib

namespace PoolTable

variable (table : PoolTable) (precise limited : Nat → Prop)

/-! ### Limits -/

/-- The pools whose limit is claimed: quests are their only members, or they have none and are
counted precisely. -/
structure Regime : Prop where
  positive : ∀ pool, limited pool → 0 < table.maxLimit pool
  unmixed : ∀ pool, limited pool → (table.groups .quest pool).isEmpty = false →
    ∀ kind, kind ≠ .quest → (table.groups kind pool).isEmpty = true
  counted : ∀ pool, limited pool → (table.groups .quest pool).isEmpty = true → precise pool

def Within (level : Nat) (spawns : ActivePoolData) : Prop :=
  ∀ pool, table.depth pool < level → limited pool →
    table.activeMembers spawns pool ≤ table.maxLimit pool

def Under : Nat → Nat → Prop :=
  Relation.ReflTransGen fun mother child => child ∈ table.members .pool mother

def Below (pool other : Nat) : Prop :=
  ∃ child ∈ table.members .pool pool, table.Under child other

def Kept (before after : State) : Prop :=
  ∀ kind guid, kind ≠ .quest → before.spawns.isActiveObject kind guid = true →
    after.spawns.isActiveObject kind guid = true

def Fresh (pools : Nat → Prop) (before after : ActivePoolData) : Prop :=
  ∀ quest, after.isActiveObject .quest quest = true →
    before.isActiveObject .quest quest = true ∨
      ∃ other, pools other ∧ quest ∈ table.members .quest other

structure Spawned (pools : Nat → Prop) (level : Nat) (before after : State) : Prop where
  sound : table.Sound precise after
  above : table.Above level before.spawns after.spawns
  within : table.Within limited level before.spawns → table.Within limited level after.spawns
  kept : Kept before after
  fresh : table.Fresh pools before.spawns after.spawns

variable {table precise limited} {level limit pool triggerFrom : Nat} {pools : Nat → Prop}
  {state before middle after : State} {kind : Kind}

theorem Fresh.refl (spawns : ActivePoolData) : table.Fresh pools spawns spawns :=
  fun _ => Or.inl

theorem Fresh.trans {before middle after : ActivePoolData}
    (first : table.Fresh pools before middle) (second : table.Fresh pools middle after) :
    table.Fresh pools before after := by
  intro quest active
  rcases second quest active with earlier | new
  · exact first quest earlier
  · exact Or.inr new

theorem Fresh.mono {more : Nat → Prop} {before after : ActivePoolData}
    (wider : ∀ other, pools other → more other) (fresh : table.Fresh pools before after) :
    table.Fresh more before after := by
  intro quest active
  rcases fresh quest active with earlier | ⟨other, inPools, listed⟩
  · exact Or.inl earlier
  · exact Or.inr ⟨other, wider other inPools, listed⟩

theorem Kept.refl (state : State) : Kept state state := fun _ _ _ => id

theorem Kept.trans (first : Kept before middle) (second : Kept middle after) :
    Kept before after :=
  fun kind guid notQuest active => second kind guid notQuest (first kind guid notQuest active)

theorem Kept.rooted (kept : Kept before after) (rooted : table.Rooted before.spawns pool) :
    table.Rooted after.spawns pool :=
  rooted.mono (kept .pool pool (by decide))

theorem Spawned.refl (sound : table.Sound precise state) :
    table.Spawned precise limited pools level state state :=
  ⟨sound, Above.refl state.spawns, id, Kept.refl state, Fresh.refl state.spawns⟩

theorem Spawned.trans (first : table.Spawned precise limited pools level before middle)
    (second : table.Spawned precise limited pools level middle after) :
    table.Spawned precise limited pools level before after :=
  ⟨second.sound, first.above.trans second.above, fun within => second.within (first.within within),
    first.kept.trans second.kept, first.fresh.trans second.fresh⟩

theorem Spawned.mono {higher : Nat} {more : Nat → Prop} (up : level ≤ higher)
    (wider : ∀ other, pools other → more other)
    (spawned : table.Spawned precise limited pools level before after) :
    table.Spawned precise limited more higher before after := by
  refine ⟨spawned.sound, spawned.above.mono up, ?_, spawned.kept, spawned.fresh.mono wider⟩
  intro within pool low isLimited
  by_cases inside : table.depth pool < level
  · exact spawned.within (fun other lower => within other (Nat.lt_of_lt_of_le lower up)) pool
      inside isLimited
  · rw [spawned.above.activeMembers (Nat.not_lt.mp inside)]
    exact within pool low isLimited

theorem Despawned.within {other : Nat} (despawned : table.Despawned precise level before after)
    (within : table.Within limited other before.spawns) :
    table.Within limited other after.spawns :=
  fun pool low isLimited => Nat.le_trans (despawned.activeMembers_le pool)
    (within pool low isLimited)

theorem Despawned.spawned (despawned : table.Despawned precise level before after)
    (kept : Kept before after) : table.Spawned precise limited pools level before after :=
  ⟨despawned.sound, despawned.above, despawned.within, kept,
    fun quest active => Or.inl (despawned.fewer .quest quest active)⟩

/-! ### Saved quests -/

theorem mem_foldl_assign {entries : List (Nat × Nat)} {rows : ActivePoolObjects}
    {entry : Nat × Unit}
    (saved : entry ∈ (entries.foldl (fun rows entry => rows.assign entry.1 ()) rows).entries) :
    entry ∈ rows.entries ∨ ∃ added ∈ entries, added.1 = entry.1 := by
  induction entries generalizing rows with
  | nil => exact Or.inl saved
  | cons head rest ih =>
    rcases ih saved with assigned | ⟨added, inRest, same⟩
    · rcases OrdMap.mem_assign assigned with rfl | old
      · exact Or.inr ⟨head, List.mem_cons_self, rfl⟩
      · exact Or.inl old
    · exact Or.inr ⟨added, List.mem_cons_of_mem head inRest, same⟩

theorem saveQuestsToDB_sound (sound : table.Sound precise state) :
    table.Sound precise (table.saveQuestsToDB state) := by
  refine ⟨sound.counted, sound.notAbove, sound.quests, ?_⟩
  intro pool entry saved
  rcases mem_foldl_assign saved with old | ⟨added, listed, same⟩
  · split at old
    · exact sound.rows pool entry old
    · cases old
  · obtain ⟨inMap, ofPool⟩ := List.mem_filter.mp listed
    have found := OrdMap.find_eq_some.mpr inMap
    rw [(of_decide_eq_true ofPool).1, same] at found
    exact (table.searched .quest entry.1 pool).mp found

/-! ### Quests -/

theorem activeMembers_of_unmixed {spawns : ActivePoolData}
    (unmixed : ∀ kind, kind ≠ .quest → (table.groups kind pool).isEmpty = true) :
    table.activeMembers spawns pool = table.activeOf spawns .quest pool := by
  have none : ∀ kind, kind ≠ .quest → table.activeOf spawns kind pool = 0 := by
    intro kind notQuest
    unfold activeOf members
    rw [PoolGroup.guids_of_isEmpty (unmixed kind notQuest)]
    rfl
  unfold activeMembers
  rw [none .creature (by decide), none .gameObject (by decide), none .pool (by decide)]
  omega

theorem QuestsActivated.spawned {number : Nat} (regime : table.Regime precise limited)
    (activated : table.QuestsActivated precise pool number before after)
    (nonempty : (table.groups .quest pool).isEmpty = false)
    (none : table.activeOf before.spawns .quest pool = 0)
    (bound : 0 < table.maxLimit pool → number ≤ table.maxLimit pool) :
    table.Spawned precise limited (· = pool) (table.depth pool + 1) before after := by
  refine ⟨activated.sound, ⟨?_, ?_⟩, ?_, fun kind guid _ => activated.kept kind guid,
    fun quest active => (activated.fresh quest active).imp_right fun own => ⟨pool, rfl, own⟩⟩
  · intro other high
    exact activated.counts other fun same => absurd (same ▸ high) (Nat.not_succ_le_self _)
  · intro other kind high
    exact activated.members kind other fun both =>
      absurd (both.2 ▸ high) (Nat.not_succ_le_self _)
  · intro within other low isLimited
    by_cases same : other = pool
    · subst same
      have more := activated.more
      have enough := bound (regime.positive other isLimited)
      rw [activeMembers_of_unmixed (regime.unmixed other isLimited nonempty)]
      omega
    · rw [activeMembers_congr fun kind => activated.members kind other fun both => same both.2]
      exact within other low isLimited

theorem spawnQuests_spec (regime : table.Regime precise limited)
    (nonempty : (table.groups .quest pool).isEmpty = false) (sound : table.Sound precise state)
    (rooted : table.Rooted state.spawns pool)
    (none : triggerFrom = 0 → table.activeOf state.spawns .quest pool = 0)
    (selectable : precise pool → table.Selectable state.spawns pool) :
    let after :=
      table.spawnQuests (table.groups .quest pool) (table.maxLimit pool) triggerFrom state
    table.Spawned precise limited (· = pool) (table.depth pool + 1) state after := by
  unfold spawnQuests
  dsimp only
  rw [table.poolId_eq .quest pool nonempty]
  split
  · rename_i loads
    have inactive := List.countP_eq_zero.mp (none loads.1)
    obtain ⟨number, loaded, bound⟩ := loadQuests_spec (guidsOf_nodup (state.saved pool))
      (table.maxLimit_lt pool) sound rooted (by
        intro quest saved
        obtain ⟨entry, inRows, rfl⟩ := List.mem_map.mp saved
        have listed := sound.rows pool entry inRows
        exact Or.inl ⟨listed, eq_false_of_ne_true (inactive entry.1 listed)⟩)
    exact loaded.spawned regime nonempty (none loads.1) bound
  · obtain ⟨cleared, keeps, noneLeft, choosable⟩ := chooseQuests_spec nonempty sound selectable
    have first := @Despawned.spawned table precise limited _ (· = pool) _ _ cleared keeps
    split
    · exact first
    · obtain ⟨number, activated, bound⟩ := activateQuests_spec (table.maxLimit_lt pool)
        cleared.sound (rooted.mono (keeps .pool pool (by decide))) choosable
      have spawned := first.trans (activated.spawned regime nonempty noneLeft bound)
      split
      · exact ⟨saveQuestsToDB_sound spawned.sound, spawned.above, spawned.within, spawned.kept,
          spawned.fresh⟩
      · exact spawned

/-! ### Groups -/

variable (table precise limited) in
/-- What the loop of a group needs of the call for one of its members, when only quests of pools
below became active since the spawn began. -/
def SpawnsMembers (base : ActivePoolData) (kind : Kind) (pool : Nat)
    (spawn1Object : Nat → State → State) : Prop :=
  ∀ guid ∈ table.members kind pool, ∀ state, table.Sound precise state →
    table.Fresh (table.Below pool) base state.spawns →
    (kind = .pool → state.spawns.isActiveObject .pool guid = true ∧
      table.activeMembers state.spawns guid = 0) →
    table.Spawned precise limited (table.Below pool) (table.depth pool) state
      (spawn1Object guid state)

variable (table precise) in
structure Filled (pool : Nat) (before after : State) : Prop where
  sound : table.Sound precise after
  above : table.Above (table.depth pool + 1) before.spawns after.spawns
  rooted : table.Rooted before.spawns pool → table.Rooted after.spawns pool
  quests : table.activeOf after.spawns .quest pool ≤ table.activeOf before.spawns .quest pool
  fresh : table.Fresh (table.Below pool) before.spawns after.spawns

variable (table) in
/-- The members that are active and the rolls that are left stay within the limit, one more for an
object that triggered the spawn and is active itself. -/
structure Budget (kind : Kind) (pool left triggerFrom : Nat) (spawns : ActivePoolData) : Prop where
  rolls : table.activeMembers spawns pool + left ≤
    table.maxLimit pool + if triggerFrom = 0 then 0 else 1
  active : table.activeMembers spawns pool ≤ table.maxLimit pool
  trigger : triggerFrom ≠ 0 → triggerFrom ∈ table.members kind pool ∧
    spawns.isActiveObject kind triggerFrom = true

theorem Filled.refl (sound : table.Sound precise state) : table.Filled precise pool state state :=
  ⟨sound, Above.refl state.spawns, id, Nat.le_refl _, Fresh.refl state.spawns⟩

theorem Filled.trans (first : table.Filled precise pool before middle)
    (second : table.Filled precise pool middle after) : table.Filled precise pool before after :=
  ⟨second.sound, first.above.trans second.above, fun rooted => second.rooted (first.rooted rooted),
    Nat.le_trans second.quests first.quests, first.fresh.trans second.fresh⟩

theorem Despawned.filled (despawned : table.Despawned precise (table.depth pool + 1) before after) :
    table.Filled precise pool before after :=
  ⟨despawned.sound, despawned.above, Rooted.mono (despawned.pools pool (Nat.le_refl _)),
    despawned.activeOf_le .quest pool,
    fun quest active => Or.inl (despawned.fewer .quest quest active)⟩

theorem Sound.redice (sound : table.Sound precise state) (dice : Dice) :
    table.Sound precise { state with dice := dice } :=
  ⟨sound.counted, sound.notAbove, sound.quests, sound.rows⟩

section Budget

variable {left : Nat} {spawns changed : ActivePoolData}

theorem Budget.skip (budget : table.Budget kind pool (left + 1) triggerFrom spawns) :
    table.Budget kind pool left triggerFrom spawns :=
  ⟨Nat.le_trans (Nat.add_le_add_left (Nat.le_succ left) _) budget.rolls, budget.active,
    budget.trigger⟩

theorem Budget.respawn (budget : table.Budget kind pool (left + 1) triggerFrom spawns) :
    table.Budget kind pool left 0 spawns := by
  refine ⟨?_, budget.active, fun impossible => absurd rfl impossible⟩
  have spent := budget.rolls
  rw [if_pos rfl]
  split_ifs at spent <;> omega

theorem Budget.spawn (budget : table.Budget kind pool (left + 1) 0 spawns)
    (more : table.activeMembers changed pool = table.activeMembers spawns pool + 1) :
    table.Budget kind pool left 0 changed := by
  have spent := budget.rolls
  rw [if_pos rfl] at spent
  refine ⟨?_, ?_, fun impossible => absurd rfl impossible⟩ <;> omega

theorem Budget.exchange (budget : table.Budget kind pool (left + 1) triggerFrom spawns)
    (triggered : triggerFrom ≠ 0)
    (notMore : table.activeMembers changed pool ≤ table.activeMembers spawns pool) :
    table.Budget kind pool left 0 changed := by
  have spent := budget.rolls
  rw [if_neg triggered] at spent
  refine ⟨?_, Nat.le_trans notMore budget.active, fun impossible => absurd rfl impossible⟩
  rw [if_pos rfl]
  omega

end Budget

theorem Despawned.activeMembers_lt {guid : Nat}
    (despawned : table.Despawned precise level before after)
    (listed : guid ∈ table.members kind pool)
    (wasActive : before.spawns.isActiveObject kind guid = true)
    (inactive : after.spawns.isActiveObject kind guid = false) :
    table.activeMembers after.spawns pool + 1 ≤ table.activeMembers before.spawns pool := by
  have ofKind : table.activeOf after.spawns kind pool + 1 ≤
      table.activeOf before.spawns kind pool := by
    have others : (table.members kind pool).countP
        (fun member => before.spawns.isActiveObject kind member && member != guid) + 1 =
          table.activeOf before.spawns kind pool := by
      refine (countP_add_one (table.listedOnce kind pool) listed ?_ wasActive ?_).symm
      · rw [bne_self_eq_false, Bool.and_false]
      · intro other _ different
        rw [bne_iff_ne.mpr different, Bool.and_true]
    rw [← others]
    apply Nat.succ_le_succ
    apply List.countP_mono_left
    intro member _ active
    rw [despawned.fewer kind member active, Bool.true_and, bne_iff_ne]
    rintro rfl
    rw [inactive] at active
    cases active
  have creatures := despawned.activeOf_le .creature pool
  have gameObjects := despawned.activeOf_le .gameObject pool
  have quests := despawned.activeOf_le .quest pool
  have pools := despawned.activeOf_le .pool pool
  unfold activeMembers
  cases kind <;> omega

variable (table precise limited) in
structure MemberSpawned (pool : Nat) (before after : State) : Prop where
  filled : table.Filled precise pool before after
  kept : Kept before after
  more : table.activeMembers after.spawns pool = table.activeMembers before.spawns pool + 1
  others : table.Within limited (table.depth pool + 1) before.spawns →
    ∀ other, other ≠ pool → table.depth other < table.depth pool + 1 → limited other →
      table.activeMembers after.spawns other ≤ table.maxLimit other

variable {base spawns : ActivePoolData} {spawn1Object : Nat → State → State}

theorem spawnMember_spec {guid : Nat}
    (notQuest : kind ≠ .quest)
    (calls : table.SpawnsMembers precise limited base kind pool spawn1Object)
    (since : table.Fresh (table.Below pool) base state.spawns)
    (sound : table.Sound precise state) (rooted : table.Rooted state.spawns pool)
    (listed : guid ∈ table.members kind pool)
    (inactive : state.spawns.isActiveObject kind guid = false) (dice : Dice) :
    table.MemberSpawned precise limited pool state
      (spawn1Object guid { state with
          spawns := state.spawns.activateObject kind guid pool
          dice := dice }) := by
  have activated := (activateObject_sound sound rooted listed inactive).redice dice
  have members := activeMembers_activateObject rooted listed inactive
  have ofKind := activeOf_activateObject rooted listed inactive
  have keeps : ∀ other looked, state.spawns.isActiveObject other looked = true →
      (state.spawns.activateObject kind guid pool).isActiveObject other looked = true :=
    fun other looked active => ActivePoolData.isActiveObject_activateObject.mpr (Or.inl active)
  have noQuest : table.Fresh (table.Below pool) state.spawns
      (state.spawns.activateObject kind guid pool) := by
    intro quest active
    rcases ActivePoolData.isActiveObject_activateObject.mp active with old | ⟨same, _⟩ | ⟨isPool, _⟩
    · exact Or.inl old
    · exact absurd same.symm notQuest
    · cases isPool
  have spawned := calls guid listed _ activated (since.trans noQuest) (by
    rintro rfl
    dsimp only
    constructor
    · exact ActivePoolData.isActiveObject_activateObject.mpr (Or.inr (Or.inl ⟨rfl, rfl⟩))
    · rw [members, if_neg (child_ne listed), Nat.add_zero]
      exact sound.activeMembers_of_inactive inactive)
  have wasInactive : kind = .pool → state.spawns.isActiveObject .pool guid = false := by
    grind
  have kept : Kept state _ := Kept.trans (fun other looked _ => keeps other looked) spawned.kept
  refine ⟨⟨spawned.sound, ⟨?_, ?_⟩, kept.rooted, ?_, noQuest.trans spawned.fresh⟩, kept, ?_, ?_⟩
  · intro other high
    rw [spawned.above.counts other (Nat.le_of_succ_le high)]
    rw [ActivePoolData.count_activateObject wasInactive, if_neg, Nat.add_zero]
    rintro rfl
    exact Nat.not_succ_le_self _ high
  · intro other looked high
    rw [spawned.above.members other looked (Nat.le_of_succ_le high)]
    rw [ofKind, if_neg, Nat.add_zero]
    rintro ⟨_, rfl⟩
    exact Nat.not_succ_le_self _ high
  · rw [spawned.above.members pool .quest (Nat.le_refl _)]
    rw [ofKind, if_neg fun both => notQuest both.1.symm]
    exact Nat.le_refl _
  · rw [spawned.above.activeMembers (Nat.le_refl _)]
    rw [members, if_pos rfl]
  · intro within other different low isLimited
    by_cases below : table.depth other < table.depth pool
    · refine spawned.within ?_ other below isLimited
      intro lower lowerDepth lowerLimited
      rw [members, if_neg, Nat.add_zero]
      · exact within lower (Nat.lt_succ_of_lt lowerDepth) lowerLimited
      · grind
    · rw [spawned.above.activeMembers (Nat.not_lt.mp below)]
      rw [members, if_neg different, Nat.add_zero]
      exact within other low isLimited

theorem MemberSpawned.notMore {guid : Nat}
    (spawned : table.MemberSpawned precise limited pool before middle)
    (despawned : table.Despawned precise level middle after) (notQuest : kind ≠ .quest)
    (wasActive : guid ∈ table.members kind pool ∧ before.spawns.isActiveObject kind guid = true)
    (cleared : guid ∈ table.members kind pool → after.spawns.isActiveObject kind guid = false) :
    table.activeMembers after.spawns pool ≤ table.activeMembers before.spawns pool := by
  have less := despawned.activeMembers_lt wasActive.1
    (spawned.kept kind guid notQuest wasActive.2) (cleared wasActive.1)
  rw [spawned.more] at less
  exact Nat.le_of_succ_le_succ less

theorem Within.of_others
    (others : ∀ other, other ≠ pool → table.depth other < level → limited other →
      table.activeMembers spawns other ≤ table.maxLimit other)
    (here : limited pool → table.activeMembers spawns pool ≤ table.maxLimit pool) :
    table.Within limited level spawns := by
  intro other low isLimited
  by_cases same : other = pool
  · simp_all
  · exact others other same low isLimited

/-- The loop of `SpawnObject`, by induction on the rolls that are left. -/
theorem spawnObjects_spec
    {despawn1Object : Nat → State → State} {left lastDespawned : Nat}
    (notQuest : kind ≠ .quest) (nonempty : (table.groups kind pool).isEmpty = false)
    (spawns : table.SpawnsMembers precise limited base kind pool spawn1Object)
    (despawns : table.DespawnsMembers precise kind pool despawn1Object)
    (since : table.Fresh (table.Below pool) base state.spawns)
    (sound : table.Sound precise state) (rooted : table.Rooted state.spawns pool) :
    let after := (table.groups kind pool).spawnObjects spawn1Object despawn1Object kind left
      triggerFrom lastDespawned state
    table.Filled precise pool state after ∧ (triggerFrom = 0 → Kept state after) ∧
      (table.Within limited (table.depth pool + 1) state.spawns →
        (limited pool → table.Budget kind pool left triggerFrom state.spawns) →
        table.Within limited (table.depth pool + 1) after.spawns) := by
  induction left generalizing triggerFrom lastDespawned state with
  | zero => exact ⟨Filled.refl sound, fun _ => Kept.refl state, fun within _ => within⟩
  | succ left ih =>
    unfold PoolGroup.spawnObjects
    dsimp only
    have rerolled := fun dice trigger => @ih trigger { state with dice := dice } lastDespawned
      since (sound.redice dice) rooted
    split
    · obtain ⟨filled, kept, within⟩ := rerolled
        ((table.groups kind pool).rollOne state.spawns kind triggerFrom state.dice).2 triggerFrom
      exact ⟨⟨filled.sound, filled.above, filled.rooted, filled.quests, filled.fresh⟩, kept,
        fun before budget => within before fun isLimited => (budget isLimited).skip⟩
    · rename_i obj rolled
      obtain ⟨listed, eligible⟩ := PoolGroup.rollOne_spec rolled
      split_ifs with last trigger untriggered
      · obtain ⟨filled, kept, within⟩ := rerolled
          ((table.groups kind pool).rollOne state.spawns kind triggerFrom state.dice).2
          triggerFrom
        exact ⟨⟨filled.sound, filled.above, filled.rooted, filled.quests, filled.fresh⟩, kept,
          fun before budget => within before fun isLimited => (budget isLimited).skip⟩
      · -- the triggering object is spawned again
        obtain ⟨filled, kept, within⟩ := rerolled
          ((table.groups kind pool).rollOne state.spawns kind triggerFrom state.dice).2 0
        exact ⟨⟨filled.sound, filled.above, filled.rooted, filled.quests, filled.fresh⟩,
          fun _ => kept rfl,
          fun before budget => within before fun isLimited => (budget isLimited).respawn⟩
      · subst untriggered
        have first := spawnMember_spec notQuest spawns since sound rooted listed
          (eligible.resolve_left trigger)
          ((table.groups kind pool).rollOne state.spawns kind 0 state.dice).2
        rw [table.poolId_eq kind pool nonempty]
        obtain ⟨filled, kept, within⟩ := @ih 0 _ lastDespawned
          (since.trans first.filled.fresh) first.filled.sound (first.filled.rooted rooted)
        refine ⟨first.filled.trans filled, fun _ => first.kept.trans (kept rfl), ?_⟩
        intro before budget
        have spent := fun isLimited => (budget isLimited).spawn first.more
        exact within (Within.of_others (first.others before) fun isLimited =>
          (spent isLimited).active) spent
      · -- the triggering object makes way for the new one
        have first := spawnMember_spec notQuest spawns since sound rooted listed
          (eligible.resolve_left trigger)
          ((table.groups kind pool).rollOne state.spawns kind triggerFrom state.dice).2
        rw [table.poolId_eq kind pool nonempty]
        obtain ⟨despawned, cleared⟩ :=
          despawnObject_spec despawns triggerFrom nonempty first.filled.sound
        have both := first.filled.trans despawned.filled
        obtain ⟨filled, _, within⟩ := @ih 0 _ triggerFrom (since.trans both.fresh) both.sound
          (both.rooted rooted)
        refine ⟨both.trans filled, fun impossible => absurd impossible untriggered, ?_⟩
        intro before budget
        have notMore := fun isLimited =>
          first.notMore despawned notQuest ((budget isLimited).trigger untriggered)
            fun member => cleared triggerFrom member (Or.inr rfl)
        have spent := fun isLimited => (budget isLimited).exchange untriggered (notMore isLimited)
        refine within (Within.of_others ?_ fun isLimited => (spent isLimited).active) spent
        intro other different low isLimited
        exact Nat.le_trans (despawned.activeMembers_le other)
          (first.others before other different low isLimited)

theorem int32_le {number : Int} (nonneg : 0 ≤ number) : int32 number ≤ number := by
  unfold int32
  rw [Int.bmod_def]
  split <;> omega

theorem spawnObject_spec {despawn1Object : Nat → State → State}
    (regime : table.Regime precise limited) (notQuest : kind ≠ .quest)
    (nonempty : (table.groups kind pool).isEmpty = false)
    (spawns : table.SpawnsMembers precise limited base kind pool spawn1Object)
    (despawns : table.DespawnsMembers precise kind pool despawn1Object)
    (since : table.Fresh (table.Below pool) base state.spawns)
    (sound : table.Sound precise state) (rooted : table.Rooted state.spawns pool)
    (triggered : triggerFrom ≠ 0 → limited pool → triggerFrom ∈ table.members kind pool ∧
      state.spawns.isActiveObject kind triggerFrom = true) :
    let after := (table.groups kind pool).spawnObject spawn1Object despawn1Object kind
      (table.maxLimit pool) triggerFrom state
    table.Filled precise pool state after ∧ (triggerFrom = 0 → Kept state after) ∧
      (table.Within limited (table.depth pool + 1) state.spawns →
        table.Within limited (table.depth pool + 1) after.spawns) := by
  unfold PoolGroup.spawnObject
  rw [table.poolId_eq kind pool nonempty]
  obtain ⟨filled, kept, within⟩ :=
    spawnObjects_spec notQuest nonempty spawns despawns since sound rooted
  refine ⟨filled, kept, fun before => within before fun isLimited => ?_⟩
  have noQuests : (table.groups .quest pool).isEmpty = true := by
    by_contra quests
    have empty := regime.unmixed pool isLimited (eq_false_of_ne_true quests) kind notQuest
    rw [nonempty] at empty
    cases empty
  have active := before pool (Nat.lt_succ_self _) isLimited
  have counted : state.spawns.getActiveObjectCount pool =
      table.activeMembers state.spawns pool :=
    Nat.le_antisymm (sound.notAbove pool (regime.counted pool isLimited noQuests))
      (sound.counted pool)
  have room := @int32_le
    ((table.maxLimit pool : Int) - (table.activeMembers state.spawns pool : Int)) (by omega)
  rw [counted]
  refine ⟨?_, active, fun isTriggered => triggered isTriggered isLimited⟩
  split_ifs <;> omega

theorem spawnsMembers_self (notPool : kind ≠ .pool)
    (onPool : Nat → State → State) :
    table.SpawnsMembers precise limited base kind pool (object1 onPool kind) := by
  intro guid _ state sound _ _
  have unchanged : object1 onPool kind guid state = state := by
    cases kind with
    | pool => exact absurd rfl notPool
    | creature | gameObject | quest => rfl
  rw [unchanged]
  exact Spawned.refl sound

/-- `SpawnPool<T>` for creatures, game objects and pools -/
theorem spawnGroup_spec {spawnPool : Nat → State → State}
    (regime : table.Regime precise limited) (notQuest : kind ≠ .quest)
    (spawns : kind = .pool → table.SpawnsMembers precise limited base .pool pool spawnPool)
    (since : table.Fresh (table.Below pool) base state.spawns)
    (sound : table.Sound precise state) (rooted : table.Rooted state.spawns pool)
    (triggered : triggerFrom ≠ 0 → limited pool → triggerFrom ∈ table.members kind pool ∧
      state.spawns.isActiveObject kind triggerFrom = true) :
    let after := table.spawnGroup spawnPool kind pool triggerFrom state
    table.Filled precise pool state after ∧ (triggerFrom = 0 → Kept state after) ∧
      (table.Within limited (table.depth pool + 1) state.spawns →
        table.Within limited (table.depth pool + 1) after.spawns) := by
  unfold spawnGroup
  dsimp only
  split
  · exact ⟨Filled.refl sound, fun _ => Kept.refl state, id⟩
  · rename_i nonempty
    have nonempty := eq_false_of_ne_true nonempty
    by_cases isPool : kind = .pool
    · subst isPool
      exact spawnObject_spec regime notQuest nonempty (spawns rfl) (despawnsMembers_pool pool)
        since sound rooted triggered
    · exact spawnObject_spec regime notQuest nonempty (spawnsMembers_self isPool spawnPool)
        (despawnsMembers_self isPool table.despawnPool) since sound rooted triggered

/-- `SpawnPool<Quest>` -/
theorem spawnQuestGroup_spec (spawnPool : Nat → State → State)
    (regime : table.Regime precise limited) (sound : table.Sound precise state)
    (rooted : table.Rooted state.spawns pool)
    (none : triggerFrom = 0 → table.activeOf state.spawns .quest pool = 0)
    (selectable : (table.groups .quest pool).isEmpty = false → precise pool →
      table.Selectable state.spawns pool) :
    table.Spawned precise limited (· = pool) (table.depth pool + 1) state
      (table.spawnGroup spawnPool .quest pool triggerFrom state) := by
  unfold spawnGroup
  dsimp only
  split
  · exact Spawned.refl sound
  · rename_i nonempty
    rw [if_pos rfl]
    have nonempty := eq_false_of_ne_true nonempty
    exact spawnQuests_spec regime nonempty sound rooted none (selectable nonempty)

/-! ### Pools -/

theorem Under.of_below {other : Nat} (below : table.Below pool other) : table.Under pool other := by
  obtain ⟨child, listed, under⟩ := below
  exact Relation.ReflTransGen.head listed under

variable (table) in
/-- A pool finds enough quests of its own when none of them is active, or no other quest is active
and none of the given pools lists others. -/
def EnoughQuests (pools : Nat → Prop) (spawns : ActivePoolData) (pool : Nat) : Prop :=
  (table.groups .quest pool).isEmpty = false →
    table.maxLimit pool ≤ (table.groups .quest pool).equalChanced.length ∨
      ((∀ quest, spawns.isActiveObject .quest quest = true → quest ∈ table.members .quest pool) ∧
        ∀ other, pools other → other ≠ pool → (table.groups .quest other).isEmpty = true)

theorem EnoughQuests.since {fewer : Nat → Prop}
    (enough : table.EnoughQuests pools base pool) (narrower : ∀ other, fewer other → pools other)
    (since : table.Fresh pools base spawns) : table.EnoughQuests fewer spawns pool := by
  intro nonempty
  refine (enough nonempty).imp_right ?_
  rintro ⟨alone, others⟩
  constructor
  · intro quest active
    rcases since quest active with earlier | ⟨other, inPools, listed⟩
    · exact alone quest earlier
    · by_cases same : other = pool
      · exact same ▸ listed
      · unfold members at listed
        rw [PoolGroup.guids_of_isEmpty (others other inPools same)] at listed
        cases listed
  · exact fun other inFewer => others other (narrower other inFewer)

theorem EnoughQuests.selectable
    (enough : table.EnoughQuests pools spawns pool)
    (nonempty : (table.groups .quest pool).isEmpty = false)
    (none : table.activeOf spawns .quest pool = 0) : table.Selectable spawns pool := by
  rcases enough nonempty with many | alone
  · left
    have inactive := List.countP_eq_zero.mp none
    have all : table.inactiveQuests spawns pool =
        (table.groups .quest pool).equalChanced.length := by
      apply List.countP_eq_length.mpr
      intro obj listed
      rw [eq_false_of_ne_true (inactive obj.guid (PoolGroup.mem_guids_of_equal listed))]
      rfl
    rw [all]
    exact many
  · exact Or.inr alone.1

variable (table precise limited) in
/-- What `SpawnPool` does for a pool that may have a counter and has no active quest. -/
def SpawnPoolSpec (pool : Nat) : Prop :=
  ∀ state, (∀ other, table.Under pool other → precise other →
      table.EnoughQuests (table.Under pool) state.spawns other) →
    table.Sound precise state → table.Rooted state.spawns pool →
    table.activeOf state.spawns .quest pool = 0 →
    table.Spawned precise limited (table.Under pool) (table.depth pool + 1) state
      (table.spawnPool pool state)

theorem spawnsMembers_pool
    (specs : ∀ child ∈ table.members .pool pool, table.SpawnPoolSpec precise limited child)
    (enough : ∀ other, table.Below pool other → precise other →
      table.EnoughQuests (table.Below pool) base other) :
    table.SpawnsMembers precise limited base .pool pool table.spawnPool := by
  intro child listed state sound since fresh
  obtain ⟨active, empty⟩ := fresh rfl
  have below : ∀ other, table.Under child other → table.Below pool other :=
    fun other under => ⟨child, listed, under⟩
  have none : table.activeOf state.spawns .quest child = 0 :=
    Nat.le_zero.mp (empty ▸ activeOf_le_activeMembers .quest)
  have spawned := specs child listed state
    (fun other under isPrecise => (enough other (below other under) isPrecise).since below since)
    sound (Or.inr active) none
  exact spawned.mono (table.nested pool child listed) below

theorem spawnPool_spec (regime : table.Regime precise limited) (pool : Nat) :
    table.SpawnPoolSpec precise limited pool := by
  induction deep : table.depth pool using Nat.strong_induction_on generalizing pool with
  | h depth ih =>
    subst deep
    intro state enough sound rooted none
    have calls : table.SpawnsMembers precise limited state.spawns .pool pool table.spawnPool :=
      spawnsMembers_pool
        (fun child listed => ih (table.depth child) (table.nested pool child listed) child rfl)
        fun other below isPrecise => (enough other (Under.of_below below) isPrecise).since
          (fun _ => Under.of_below) (Fresh.refl state.spawns)
    have untriggered : ∀ {kind : Kind} {inner : State}, (0 : Nat) ≠ 0 → limited pool →
        0 ∈ table.members kind pool ∧ inner.spawns.isActiveObject kind 0 = true :=
      fun impossible => absurd rfl impossible
    rw [spawnPool_eq]
    obtain ⟨first, firstKept, firstWithin⟩ := spawnGroup_spec regime
      (by decide : Kind.pool ≠ .quest) (fun _ => calls) (Fresh.refl _) sound rooted untriggered
    obtain ⟨second, secondKept, secondWithin⟩ := spawnGroup_spec regime
      (by decide : Kind.gameObject ≠ .quest) (fun _ => calls) first.fresh first.sound
      (first.rooted rooted) untriggered
    have firstTwo := first.trans second
    obtain ⟨third, thirdKept, thirdWithin⟩ := spawnGroup_spec regime
      (by decide : Kind.creature ≠ .quest) (fun _ => calls) firstTwo.fresh firstTwo.sound
      (firstTwo.rooted rooted) untriggered
    have firstThree := firstTwo.trans third
    have stillNone := Nat.le_zero.mp (none ▸ firstThree.quests)
    have fresh := firstThree.fresh.mono fun _ => Under.of_below
    have fourth := @spawnQuestGroup_spec table precise limited pool 0 _ table.spawnPool regime
      firstThree.sound (firstThree.rooted rooted) (fun _ => stillNone)
      fun nonempty isPrecise =>
        ((enough pool Relation.ReflTransGen.refl isPrecise).since (fun _ => id) fresh).selectable
          nonempty stillNone
    refine ⟨fourth.sound, firstThree.above.trans fourth.above, ?_,
      (((firstKept rfl).trans (secondKept rfl)).trans (thirdKept rfl)).trans fourth.kept,
      fresh.trans (fourth.fresh.mono ?_)⟩
    · exact fun before => fourth.within (thirdWithin (secondWithin (firstWithin before)))
    · rintro other rfl
      exact Relation.ReflTransGen.refl

end PoolTable

end DarkCore.Pools
