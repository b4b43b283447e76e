/-
Despawning. What holds of the pool system between two calls is a structure of
its own; despawning keeps it, activates nothing, empties the pool and leaves the
pools that are nested higher as they were.
-/

import DarkCore.Pools.ActiveMembers

namespace DarkCore.Pools

open Lib

namespace PoolTable

variable (table : PoolTable) (precise : Nat → Prop)

/-- A counter is never below the number of active members; it is that number for the pools that
are counted precisely. -/
structure Sound (state : State) : Prop where
  counted : ∀ pool,
    table.activeMembers state.spawns pool ≤ state.spawns.getActiveObjectCount pool
  notAbove : ∀ pool, precise pool →
    state.spawns.getActiveObjectCount pool ≤ table.activeMembers state.spawns pool
  quests : ∀ quest, state.spawns.isActiveObject .quest quest = true →
    ∃ pool, quest ∈ table.members .quest pool
  rows : ∀ pool, ∀ entry ∈ (state.saved pool).entries, entry.1 ∈ table.members .quest pool

structure Above (level : Nat) (before after : ActivePoolData) : Prop where
  counts : ∀ pool, level ≤ table.depth pool →
    after.getActiveObjectCount pool = before.getActiveObjectCount pool
  members : ∀ pool kind, level ≤ table.depth pool →
    table.activeOf after kind pool = table.activeOf before kind pool

structure Despawned (level : Nat) (before after : State) : Prop where
  sound : table.Sound precise after
  above : table.Above level before.spawns after.spawns
  fewer : ∀ kind guid, after.spawns.isActiveObject kind guid = true →
    before.spawns.isActiveObject kind guid = true
  pools : ∀ pool, level ≤ table.depth pool + 1 →
    before.spawns.isActiveObject .pool pool = true → after.spawns.isActiveObject .pool pool = true

def DespawnsMembers (kind : Kind) (pool : Nat) (despawn1Object : Nat → State → State) : Prop :=
  ∀ guid ∈ table.members kind pool, ∀ state, table.Sound precise state →
    state.spawns.isActiveObject kind guid = true →
    table.Despawned precise (table.depth pool) state (despawn1Object guid state) ∧
      (despawn1Object guid state).spawns.isActiveObject kind guid = true ∧
      (kind = .pool → table.activeMembers (despawn1Object guid state).spawns guid = 0)

variable {table precise} {level : Nat} {state before middle after : State} {kind : Kind}
  {guid pool : Nat}

theorem Above.refl (spawns : ActivePoolData) : table.Above level spawns spawns :=
  ⟨fun _ _ => rfl, fun _ _ _ => rfl⟩

theorem Above.trans {before middle after : ActivePoolData}
    (first : table.Above level before middle) (second : table.Above level middle after) :
    table.Above level before after := by
  constructor
  · intro pool high
    rw [second.counts pool high, first.counts pool high]
  · intro pool kind high
    rw [second.members pool kind high, first.members pool kind high]

theorem Above.mono {higher : Nat} {before after : ActivePoolData} (up : level ≤ higher)
    (frame : table.Above level before after) : table.Above higher before after :=
  ⟨fun pool high => frame.counts pool (Nat.le_trans up high),
    fun pool kind high => frame.members pool kind (Nat.le_trans up high)⟩

theorem Above.activeMembers {before after : ActivePoolData}
    (frame : table.Above level before after) (high : level ≤ table.depth pool) :
    table.activeMembers after pool = table.activeMembers before pool :=
  activeMembers_congr fun kind => frame.members pool kind high

theorem Despawned.refl (sound : table.Sound precise state) :
    table.Despawned precise level state state :=
  ⟨sound, Above.refl state.spawns, fun _ _ => id, fun _ _ => id⟩

theorem Despawned.trans (first : table.Despawned precise level before middle)
    (second : table.Despawned precise level middle after) :
    table.Despawned precise level before after where
  sound := second.sound
  above := first.above.trans second.above
  fewer := fun kind guid active => first.fewer kind guid (second.fewer kind guid active)
  pools := fun pool high active => second.pools pool high (first.pools pool high active)

theorem Despawned.mono {higher : Nat} (up : level ≤ higher)
    (despawned : table.Despawned precise level before after) :
    table.Despawned precise higher before after where
  sound := despawned.sound
  above := despawned.above.mono up
  fewer := despawned.fewer
  pools := fun pool high => despawned.pools pool (Nat.le_trans up high)

theorem Despawned.activeOf_le (despawned : table.Despawned precise level before after)
    (kind : Kind) (pool : Nat) :
    table.activeOf after.spawns kind pool ≤ table.activeOf before.spawns kind pool :=
  List.countP_mono_left fun guid _ => despawned.fewer kind guid

theorem Despawned.activeMembers_le (despawned : table.Despawned precise level before after)
    (pool : Nat) :
    table.activeMembers after.spawns pool ≤ table.activeMembers before.spawns pool := by
  unfold activeMembers
  have creatures := despawned.activeOf_le .creature pool
  have gameObjects := despawned.activeOf_le .gameObject pool
  have quests := despawned.activeOf_le .quest pool
  have pools := despawned.activeOf_le .pool pool
  omega

theorem Sound.pool_active (sound : table.Sound precise state)
    (listed : guid ∈ table.members kind pool)
    (active : state.spawns.isActiveObject kind guid = true) :
    state.spawns.isActiveObject .pool pool = true := by
  apply ActivePoolData.isActiveObject_of_count
  have some : 0 < table.activeOf state.spawns kind pool :=
    List.countP_pos_iff.mpr ⟨guid, listed, active⟩
  have ofKind : table.activeOf state.spawns kind pool ≤ table.activeMembers state.spawns pool :=
    activeOf_le_activeMembers kind
  have counted := sound.counted pool
  omega

theorem Sound.activeMembers_of_inactive (sound : table.Sound precise state)
    (inactive : state.spawns.isActiveObject .pool pool = false) :
    table.activeMembers state.spawns pool = 0 := by
  have counted := sound.counted pool
  rw [ActivePoolData.count_of_inactive inactive] at counted
  exact Nat.le_zero.mp counted

theorem activeMembers_removeObject (rooted : table.Rooted state.spawns pool)
    (listed : guid ∈ table.members kind pool)
    (active : state.spawns.isActiveObject kind guid = true) (looked : Nat) :
    table.activeMembers (state.spawns.removeObject kind guid pool) looked +
        (if looked = pool then 1 else 0) =
      table.activeMembers state.spawns looked := by
  have changed := fun other => activeOf_removeObject rooted listed active other looked
  unfold activeMembers
  rw [← changed .creature, ← changed .gameObject, ← changed .quest, ← changed .pool]
  by_cases here : looked = pool
  · cases kind <;> simp only [here, reduceCtorEq, and_true, if_true, if_false] <;> omega
  · simp only [here, and_false, if_false, Nat.add_zero]

theorem removeObject_despawned (sound : table.Sound precise state)
    (listed : guid ∈ table.members kind pool)
    (active : state.spawns.isActiveObject kind guid = true)
    (empty : kind = .pool → table.activeMembers state.spawns guid = 0) :
    table.Despawned precise (table.depth pool + 1) state
      { state with spawns := state.spawns.removeObject kind guid pool } := by
  have poolActive := sound.pool_active listed active
  have rooted : table.Rooted state.spawns pool := Or.inr poolActive
  have differ : kind = .pool → guid ≠ pool := by
    rintro rfl
    exact child_ne listed
  have deeper : kind = .pool → table.depth guid < table.depth pool := by
    rintro rfl
    exact table.nested pool guid listed
  have removed := activeMembers_removeObject rooted listed active
  refine ⟨⟨?_, ?_, ?_, sound.rows⟩, ⟨?_, ?_⟩, ?_, ?_⟩
  · intro looked
    have counted := sound.counted looked
    have fewer := removed looked
    dsimp only
    rw [ActivePoolData.count_removeObject differ]
    split_ifs at fewer ⊢ with here child
    · grind
    · have none := empty child.1
      rw [← child.2] at none
      omega
    · omega
  · intro looked preciseHere
    have notAbove := sound.notAbove looked preciseHere
    have fewer := removed looked
    dsimp only
    rw [ActivePoolData.count_removeObject differ]
    split_ifs at fewer ⊢ with here child
    · simp_all
    · omega
    · omega
  · intro quest stays
    rw [ActivePoolData.isActiveObject_removeObject] at stays
    rcases stays with ⟨stayed, _⟩ | ⟨impossible, _⟩
    · exact sound.quests quest stayed
    · cases impossible
  · intro looked high
    rw [ActivePoolData.count_removeObject differ, if_neg, if_neg]
    · rintro ⟨rfl, rfl⟩
      have lower := deeper rfl
      omega
    · grind
  · intro looked other high
    have same := activeOf_removeObject rooted listed active other looked
    rw [if_neg, Nat.add_zero] at same
    · exact same
    · grind
  · intro other looked stays
    rw [ActivePoolData.isActiveObject_removeObject] at stays
    rcases stays with ⟨stayed, _⟩ | ⟨rfl, rfl⟩
    · exact stayed
    · exact poolActive
  · intro looked high stays
    rw [ActivePoolData.isActiveObject_removeObject]
    refine Or.inl ⟨stays, ?_⟩
    rintro ⟨rfl, rfl⟩
    have lower := deeper rfl
    omega

theorem removeObject_inactive {spawns : ActivePoolData}
    (listed : guid ∈ table.members kind pool) :
    (spawns.removeObject kind guid pool).isActiveObject kind guid = false := by
  rw [← Bool.not_eq_true, ActivePoolData.isActiveObject_removeObject]
  rintro (⟨_, removed⟩ | ⟨rfl, same⟩)
  · exact removed ⟨rfl, rfl⟩
  · exact child_ne listed same

section Loop

variable {despawn1Object : Nat → State → State}
  (calls : table.DespawnsMembers precise kind pool despawn1Object)

include calls

theorem despawnObjects_spec (only : Nat) {objects : List PoolObject}
    (listed : ∀ obj ∈ objects, obj.guid ∈ table.members kind pool)
    (sound : table.Sound precise state) :
    table.Despawned precise (table.depth pool + 1) state
        (PoolGroup.despawnObjects despawn1Object kind pool only objects state) ∧
      ∀ obj ∈ objects, only = 0 ∨ obj.guid = only →
        (PoolGroup.despawnObjects despawn1Object kind pool only objects
          state).spawns.isActiveObject kind obj.guid = false := by
  induction objects generalizing state with
  | nil =>
    constructor
    · exact Despawned.refl sound
    · intro obj inNil
      cases inNil
  | cons head rest ih =>
    have headListed := listed head List.mem_cons_self
    have restListed := fun obj inRest => listed obj (List.mem_cons_of_mem head inRest)
    unfold PoolGroup.despawnObjects
    split
    · rename_i chosen
      obtain ⟨called, stillActive, empty⟩ := calls head.guid headListed state sound chosen.1
      have removed := removeObject_despawned called.sound headListed stillActive empty
      obtain ⟨later, cleared⟩ := ih restListed removed.sound
      have first := (called.mono (Nat.le_succ _)).trans removed
      refine ⟨first.trans later, ?_⟩
      intro obj inObjects named
      rcases List.mem_cons.mp inObjects with rfl | inRest
      · by_contra active
        have impossible := later.fewer kind obj.guid (Bool.not_eq_false _ ▸ active)
        rw [removeObject_inactive headListed] at impossible
        cases impossible
      · exact cleared obj inRest named
    · rename_i kept
      obtain ⟨later, cleared⟩ := ih restListed sound
      refine ⟨later, ?_⟩
      intro obj inObjects named
      rcases List.mem_cons.mp inObjects with rfl | inRest
      · by_contra active
        exact kept ⟨later.fewer kind obj.guid (Bool.not_eq_false _ ▸ active), named⟩
      · exact cleared obj inRest named

theorem despawnObject_spec (only : Nat) (nonempty : (table.groups kind pool).isEmpty = false)
    (sound : table.Sound precise state) :
    table.Despawned precise (table.depth pool + 1) state
        ((table.groups kind pool).despawnObject despawn1Object kind only state) ∧
      ∀ guid ∈ table.members kind pool, only = 0 ∨ guid = only →
        ((table.groups kind pool).despawnObject despawn1Object kind only
          state).spawns.isActiveObject kind guid = false := by
  unfold PoolGroup.despawnObject
  rw [table.poolId_eq kind pool nonempty]
  obtain ⟨first, firstCleared⟩ := despawnObjects_spec calls only
    (fun obj => PoolGroup.mem_guids_of_equal) sound
  obtain ⟨second, secondCleared⟩ := despawnObjects_spec calls only
    (fun obj => PoolGroup.mem_guids_of_explicit) first.sound
  refine ⟨first.trans second, ?_⟩
  intro guid member named
  obtain ⟨obj, inGroup, rfl⟩ := List.mem_map.mp member
  rcases List.mem_append.mp inGroup with equal | explicit
  · by_contra active
    have impossible := second.fewer kind obj.guid (Bool.not_eq_false _ ▸ active)
    rw [firstCleared obj equal named] at impossible
    cases impossible
  · exact secondCleared obj explicit named

end Loop

theorem despawnsMembers_self (notPool : kind ≠ .pool) (onPool : Nat → State → State) :
    table.DespawnsMembers precise kind pool (object1 onPool kind) := by
  intro guid _ state sound active
  have unchanged : object1 onPool kind guid state = state := by
    cases kind with
    | pool => exact absurd rfl notPool
    | creature | gameObject | quest => rfl
  rw [unchanged]
  exact ⟨Despawned.refl sound, active, fun isPool => absurd isPool notPool⟩

theorem despawnGroup_spec {despawn : Nat → State → State}
    (calls : table.DespawnsMembers precise kind pool (object1 despawn kind))
    (sound : table.Sound precise state) :
    table.Despawned precise (table.depth pool + 1) state
        (table.despawnGroup despawn kind pool state) ∧
      ∀ guid ∈ table.members kind pool,
        (table.despawnGroup despawn kind pool state).spawns.isActiveObject kind guid = false := by
  unfold despawnGroup
  dsimp only
  split
  · rename_i empty
    refine ⟨Despawned.refl sound, ?_⟩
    intro guid member
    unfold members at member
    rw [PoolGroup.guids_of_isEmpty empty] at member
    cases member
  · rename_i nonempty
    obtain ⟨despawned, cleared⟩ :=
      despawnObject_spec calls 0 (Bool.not_eq_true _ ▸ nonempty) sound
    exact ⟨despawned, fun guid member => cleared guid member (Or.inl rfl)⟩

/-- `DespawnPool` activates nothing, leaves no member of the pool active and keeps the counters in
step. The induction is on the depth of the pools nested below. -/
theorem despawnPool_spec (pool : Nat) (sound : table.Sound precise state) :
    table.Despawned precise (table.depth pool + 1) state (table.despawnPool pool state) ∧
      table.activeMembers (table.despawnPool pool state).spawns pool = 0 := by
  induction deep : table.depth pool using Nat.strong_induction_on generalizing pool state with
  | h depth ih =>
    subst deep
    have calls : table.DespawnsMembers precise .pool pool table.despawnPool := by
      intro child listed inner innerSound active
      have nested := table.nested pool child listed
      obtain ⟨despawned, empty⟩ := ih (table.depth child) nested child innerSound rfl
      exact ⟨despawned.mono nested, despawned.pools child (Nat.le_refl _) active, fun _ => empty⟩
    rw [despawnPool_eq]
    obtain ⟨first, noCreature⟩ := despawnGroup_spec
      (despawnsMembers_self (by decide : Kind.creature ≠ .pool) table.despawnPool) sound
    obtain ⟨second, noGameObject⟩ := despawnGroup_spec
      (despawnsMembers_self (by decide : Kind.gameObject ≠ .pool) table.despawnPool) first.sound
    obtain ⟨third, noPool⟩ := despawnGroup_spec calls second.sound
    obtain ⟨fourth, noQuest⟩ := despawnGroup_spec
      (despawnsMembers_self (by decide : Kind.quest ≠ .pool) table.despawnPool) third.sound
    refine ⟨((first.trans second).trans third).trans fourth, ?_⟩
    rw [activeMembers_eq_zero]
    intro kind guid member
    by_contra active
    have active := Bool.not_eq_false _ ▸ active
    cases kind with
    | quest => exact absurd active (Bool.not_eq_true _ ▸ noQuest guid member)
    | pool =>
      have before := fourth.fewer .pool guid active
      exact absurd before (Bool.not_eq_true _ ▸ noPool guid member)
    | gameObject =>
      have before := third.fewer .gameObject guid (fourth.fewer .gameObject guid active)
      exact absurd before (Bool.not_eq_true _ ▸ noGameObject guid member)
    | creature =>
      have before := second.fewer .creature guid
        (third.fewer .creature guid (fourth.fewer .creature guid active))
      exact absurd before (Bool.not_eq_true _ ▸ noCreature guid member)

theorem despawnsMembers_pool (pool : Nat) :
    table.DespawnsMembers precise .pool pool table.despawnPool := by
  intro child listed state sound active
  obtain ⟨despawned, empty⟩ := despawnPool_spec child sound
  exact ⟨despawned.mono (table.nested pool child listed),
    despawned.pools child (Nat.le_refl _) active, fun _ => empty⟩

end PoolTable

end DarkCore.Pools
