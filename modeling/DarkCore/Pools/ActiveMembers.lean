/-
The active members of a pool and its counter: what `ActivateObject` and
`RemoveObject` change in each. A pool's counter is also what makes it an active
member of its mother, so a pool that has a mother may get one only by its
mother's hand.
-/

import DarkCore.Pools.PoolNesting

namespace DarkCore.Pools

open Lib

namespace ActivePoolData

variable {spawns : ActivePoolData} {kind other : Kind} {guid poolId looked : Nat}

theorem countUp_find (pools : OrdMap Nat Nat) (poolId looked : Nat) :
    (countUp pools poolId).find looked =
      if looked = poolId then some ((pools.find poolId).getD 0 + 1) else pools.find looked := by
  unfold countUp
  rw [OrdMap.find_assign, Function.update_apply]

theorem countDown_find (pools : OrdMap Nat Nat) (poolId looked : Nat) :
    (countDown pools poolId).find looked =
      if looked = poolId then some ((pools.find poolId).getD 0 - 1) else pools.find looked := by
  unfold countDown
  rw [OrdMap.find_assign, Function.update_apply]

theorem count_of_inactive (inactive : spawns.isActiveObject .pool poolId = false) :
    spawns.getActiveObjectCount poolId = 0 := by
  unfold isActiveObject at inactive
  unfold getActiveObjectCount
  rw [Option.isSome_eq_false_iff, Option.isNone_iff_eq_none] at inactive
  rw [inactive]
  rfl

theorem isActiveObject_of_count (counted : 0 < spawns.getActiveObjectCount poolId) :
    spawns.isActiveObject .pool poolId = true := by
  by_contra inactive
  rw [count_of_inactive (Bool.not_eq_true _ ▸ inactive)] at counted
  exact Nat.lt_irrefl 0 counted

theorem isActiveObject_activateObject :
    (spawns.activateObject kind guid poolId).isActiveObject other looked = true ↔
      spawns.isActiveObject other looked = true ∨ (other = kind ∧ looked = guid) ∨
        (other = .pool ∧ looked = poolId) := by
  cases kind <;> cases other <;>
    simp only [activateObject, isActiveObject, countUp_find, OrdMap.find_assign,
      Function.update_apply, reduceCtorEq, false_and, or_false, false_or, true_and] <;>
    split_ifs <;> simp_all

theorem isActiveObject_removeObject :
    (spawns.removeObject kind guid poolId).isActiveObject other looked = true ↔
      (spawns.isActiveObject other looked = true ∧ ¬ (other = kind ∧ looked = guid)) ∨
        (other = .pool ∧ looked = poolId) := by
  cases kind <;> cases other <;>
    simp only [removeObject, isActiveObject, countDown_find, OrdMap.find_erase,
      Function.update_apply, reduceCtorEq, false_and, or_false, true_and, not_false_eq_true, and_true] <;>
    split_ifs <;> simp_all

theorem count_activateObject
    (fresh : kind = .pool → spawns.isActiveObject .pool guid = false) :
    (spawns.activateObject kind guid poolId).getActiveObjectCount looked =
      spawns.getActiveObjectCount looked + if looked = poolId then 1 else 0 := by
  cases kind with
  | pool =>
    have zero := count_of_inactive (fresh rfl)
    unfold getActiveObjectCount at zero ⊢
    simp only [activateObject, countUp_find, OrdMap.find_assign, Function.update_apply]
    split_ifs <;> simp_all
  | creature | gameObject | quest =>
    grind [getActiveObjectCount, activateObject, countUp_find]

theorem count_removeObject (differ : kind = .pool → guid ≠ poolId) :
    (spawns.removeObject kind guid poolId).getActiveObjectCount looked =
      if looked = poolId then spawns.getActiveObjectCount poolId - 1
      else if kind = .pool ∧ looked = guid then 0
      else spawns.getActiveObjectCount looked := by
  cases kind with
  | pool =>
    have different := (differ rfl).symm
    unfold getActiveObjectCount
    simp only [removeObject, countDown_find, OrdMap.find_erase, Function.update_apply,
      if_neg different, true_and]
    split_ifs <;> rfl
  | creature | gameObject | quest =>
    unfold getActiveObjectCount
    simp only [removeObject, countDown_find, reduceCtorEq, false_and, if_false]
    split_ifs <;> rfl

end ActivePoolData

theorem countP_add_one {elements : List Nat} {element : Nat} {before after : Nat → Bool}
    (distinct : elements.Nodup) (listed : element ∈ elements) (off : before element = false)
    (on : after element = true)
    (same : ∀ other ∈ elements, other ≠ element → after other = before other) :
    elements.countP after = elements.countP before + 1 := by
  induction elements with
  | nil => cases listed
  | cons head rest ih =>
    obtain ⟨absent, restDistinct⟩ := List.nodup_cons.mp distinct
    rw [List.countP_cons, List.countP_cons]
    rcases List.mem_cons.mp listed with first | later
    · subst first
      have unchanged : rest.countP after = rest.countP before := by
        apply List.countP_congr
        intro other inRest
        rw [same other (List.mem_cons_of_mem _ inRest) (fun equal => absent (equal ▸ inRest))]
      rw [unchanged, off, on]
      rfl
    · have different : head ≠ element := fun equal => absent (equal ▸ later)
      rw [ih restDistinct later (fun other inRest => same other (List.mem_cons_of_mem _ inRest)),
        same head List.mem_cons_self different]
      omega

namespace PoolTable

variable (table : PoolTable)

def members (kind : Kind) (pool : Nat) : List Nat := (table.groups kind pool).guids

def activeOf (spawns : ActivePoolData) (kind : Kind) (pool : Nat) : Nat :=
  (table.members kind pool).countP (spawns.isActiveObject kind)

def activeMembers (spawns : ActivePoolData) (pool : Nat) : Nat :=
  table.activeOf spawns .creature pool + table.activeOf spawns .gameObject pool +
    table.activeOf spawns .quest pool + table.activeOf spawns .pool pool

/-- A pool whose counter may appear: it has no mother, or its mother counts it already. -/
def Rooted (spawns : ActivePoolData) (pool : Nat) : Prop :=
  (table.searchMap .pool).find pool = none ∨ spawns.isActiveObject .pool pool = true

variable {table} {spawns changed : ActivePoolData} {kind : Kind} {guid pool : Nat}

theorem pool_unique {other : Nat} (first : guid ∈ table.members kind pool)
    (second : guid ∈ table.members kind other) : pool = other := by
  have found := (table.searched kind guid pool).mpr first
  rw [(table.searched kind guid other).mpr second] at found
  exact (Option.some.inj found).symm

theorem child_ne (listed : guid ∈ table.members .pool pool) : guid ≠ pool := by
  intro same
  have nested := table.nested pool guid listed
  rw [same] at nested
  exact Nat.lt_irrefl _ nested

theorem activeMembers_congr
    (same : ∀ kind, table.activeOf changed kind pool = table.activeOf spawns kind pool) :
    table.activeMembers changed pool = table.activeMembers spawns pool := by
  unfold activeMembers
  rw [same, same, same, same]

theorem activeOf_le_activeMembers (kind : Kind) :
    table.activeOf spawns kind pool ≤ table.activeMembers spawns pool := by
  unfold activeMembers
  cases kind <;> omega

theorem activeMembers_eq_zero :
    table.activeMembers spawns pool = 0 ↔
      ∀ kind, ∀ guid ∈ table.members kind pool, spawns.isActiveObject kind guid = false := by
  constructor
  · intro zero kind guid listed
    have none : table.activeOf spawns kind pool ≤ table.activeMembers spawns pool :=
      activeOf_le_activeMembers kind
    rw [zero, Nat.le_zero] at none
    exact Bool.not_eq_true _ ▸ List.countP_eq_zero.mp none guid listed
  · intro inactive
    have none : ∀ kind, table.activeOf spawns kind pool = 0 := by
      intro kind
      apply List.countP_eq_zero.mpr
      intro guid listed
      rw [inactive kind guid listed]
      exact Bool.false_ne_true
    unfold activeMembers
    rw [none, none, none, none]

theorem Rooted.active_of_listed (rooted : table.Rooted spawns pool) {looked : Nat}
    (inPool : pool ∈ table.members .pool looked) : spawns.isActiveObject .pool pool = true := by
  rcases rooted with motherless | active
  · have found := (table.searched .pool pool looked).mpr inPool
    rw [motherless] at found
    cases found
  · exact active

theorem activeOf_of_change (listed : guid ∈ table.members kind pool)
    (off : spawns.isActiveObject kind guid = false)
    (on : changed.isActiveObject kind guid = true) {other : Kind} {looked : Nat}
    (unchanged : ∀ member ∈ table.members other looked, ¬ (other = kind ∧ member = guid) →
      changed.isActiveObject other member = spawns.isActiveObject other member) :
    table.activeOf changed other looked =
      table.activeOf spawns other looked + if other = kind ∧ looked = pool then 1 else 0 := by
  by_cases here : other = kind ∧ looked = pool
  · obtain ⟨rfl, rfl⟩ := here
    rw [if_pos ⟨rfl, rfl⟩]
    refine countP_add_one (table.listedOnce other looked) listed off on ?_
    intro member inPool different
    exact unchanged member inPool fun same => different same.2
  · rw [if_neg here, Nat.add_zero]
    apply List.countP_congr
    intro member inPool
    rw [unchanged member inPool]
    rintro ⟨rfl, rfl⟩
    exact here ⟨rfl, pool_unique inPool listed⟩

theorem activeOf_activateObject (rooted : table.Rooted spawns pool)
    (listed : guid ∈ table.members kind pool)
    (inactive : spawns.isActiveObject kind guid = false) (other : Kind) (looked : Nat) :
    table.activeOf (spawns.activateObject kind guid pool) other looked =
      table.activeOf spawns other looked + if other = kind ∧ looked = pool then 1 else 0 := by
  apply activeOf_of_change listed inactive
  · simp [ActivePoolData.isActiveObject_activateObject]
  · intro member inPool different
    rw [Bool.eq_iff_iff, ActivePoolData.isActiveObject_activateObject]
    constructor
    · rintro (active | same | ⟨rfl, rfl⟩)
      · exact active
      · exact absurd same different
      · exact rooted.active_of_listed inPool
    · exact Or.inl

theorem activeOf_removeObject (rooted : table.Rooted spawns pool)
    (listed : guid ∈ table.members kind pool)
    (active : spawns.isActiveObject kind guid = true) (other : Kind) (looked : Nat) :
    table.activeOf (spawns.removeObject kind guid pool) other looked +
        (if other = kind ∧ looked = pool then 1 else 0) =
      table.activeOf spawns other looked := by
  refine (activeOf_of_change listed ?_ active ?_).symm
  · rw [← Bool.not_eq_true, ActivePoolData.isActiveObject_removeObject]
    rintro (⟨_, removed⟩ | ⟨rfl, same⟩)
    · exact removed ⟨rfl, rfl⟩
    · exact child_ne listed same
  · intro member inPool different
    rw [Bool.eq_iff_iff, ActivePoolData.isActiveObject_removeObject]
    constructor
    · exact fun stays => Or.inl ⟨stays, different⟩
    · rintro (⟨stays, _⟩ | ⟨rfl, rfl⟩)
      · exact stays
      · exact rooted.active_of_listed inPool

end PoolTable

end DarkCore.Pools
