/-
The round-robin looter of a group (`Group::UpdateLooterGuid`). The search goes
through the member slots behind the one of the old looter and then from the
first slot to his own, so it comes to the members in the order of the rotated
list.
-/

import Mathlib.Data.List.Rotate

namespace DarkCore.Groups

inductive LootMethod where
  | freeForAll
  | roundRobin
  | masterLoot
  | groupLoot
  | needBeforeGreed
  deriving DecidableEq

/-- What the choice of the looter reads of a group: the guids of its member slots, and the looter,
0 being nobody -/
structure LooterGroup where
  lootMethod : LootMethod
  memberSlots : List Nat
  looterGuid : Nat
  distinct : memberSlots.Nodup
  named : 0 ∉ memberSlots

namespace LooterGroup

/-- The position `guid_itr` from which the search goes on -/
def searchStart (group : LooterGroup) : Nat :=
  let slot := group.memberSlots.idxOf group.looterGuid
  if slot < group.memberSlots.length then slot + 1 else slot

/-- `UpdateLooterGuid`; `near` are the members that `FindPlayer` finds in the distance of the loot,
and the flag says that `SendUpdate` was called. -/
def updateLooterGuid (near : Nat → Bool) (ifneed : Bool) (group : LooterGroup) :
    LooterGroup × Bool :=
  match group.lootMethod with
  | .masterLoot => (group, false)
  | .freeForAll => (group, false)
  | _ =>
    if group.memberSlots.idxOf group.looterGuid < group.memberSlots.length ∧
        ifneed = true ∧ near group.looterGuid = true then (group, false)
    else
      let newLooter :=
        match (group.memberSlots.drop group.searchStart).find? near with
        | some guid => some guid
        | none => (group.memberSlots.take group.searchStart).find? near
      match newLooter with
      | some guid =>
        if group.looterGuid ≠ guid then ({ group with looterGuid := guid }, true)
        else (group, false)
      | none => ({ group with looterGuid := 0 }, true)

/-- The looter is searched for at all: not where everybody loots or a master hands out, nor, if it
is asked for, while the current looter is near. -/
def Searches (near : Nat → Bool) (ifneed : Bool) (group : LooterGroup) : Prop :=
  group.lootMethod ≠ .masterLoot ∧ group.lootMethod ≠ .freeForAll ∧
    ¬ (group.looterGuid ∈ group.memberSlots ∧ ifneed = true ∧ near group.looterGuid = true)

def turns (group : LooterGroup) : List Nat := group.memberSlots.rotate group.searchStart

variable {group : LooterGroup} {near : Nat → Bool} {ifneed : Bool}

theorem searchStart_le : group.searchStart ≤ group.memberSlots.length := by
  have bound := group.memberSlots.idxOf_le_length (a := group.looterGuid)
  simp only [searchStart]
  split <;> omega

theorem find?_turns : group.turns.find? near =
    match (group.memberSlots.drop group.searchStart).find? near with
    | some guid => some guid
    | none => (group.memberSlots.take group.searchStart).find? near := by
  rw [turns, List.rotate_eq_drop_append_take searchStart_le, List.find?_append]
  cases (group.memberSlots.drop group.searchStart).find? near with
  | none => rfl
  | some guid => rfl

theorem mem_turns {guid : Nat} : guid ∈ group.turns ↔ guid ∈ group.memberSlots :=
  (group.memberSlots.rotate_perm group.searchStart).mem_iff

theorem looterGuid_update (searches : group.Searches near ifneed) :
    (group.updateLooterGuid near ifneed).1.looterGuid = (group.turns.find? near).getD 0 := by
  obtain ⟨notMaster, notFree, due⟩ := searches
  rw [← List.idxOf_lt_length_iff] at due
  unfold updateLooterGuid
  split
  · simp_all
  · simp_all
  · grind [find?_turns]

theorem update_frame : (group.updateLooterGuid near ifneed).1.memberSlots = group.memberSlots ∧
    (group.updateLooterGuid near ifneed).1.lootMethod = group.lootMethod := by
  unfold updateLooterGuid
  split
  · exact ⟨rfl, rfl⟩
  · exact ⟨rfl, rfl⟩
  · grind

def lootersAfter (near : Nat → Bool) : Nat → LooterGroup → List Nat
  | 0, _ => []
  | calls + 1, group =>
    let next := (group.updateLooterGuid near false).1
    next.looterGuid :: lootersAfter near calls next

theorem turns_of_member {before after : List Nat}
    (split : group.memberSlots = before ++ group.looterGuid :: after) :
    group.turns = after ++ before ++ [group.looterGuid] := by
  have distinct := group.distinct
  rw [split, List.nodup_append] at distinct
  have notBefore : group.looterGuid ∉ before := fun member =>
    distinct.2.2 _ member _ List.mem_cons_self rfl
  have place : group.searchStart = (before ++ [group.looterGuid]).length := by
    simp [searchStart, split, List.idxOf_append_of_notMem notBefore]
  have slots : group.memberSlots = (before ++ [group.looterGuid]) ++ after := by simp [split]
  rw [turns, place, slots, List.rotate_append_length_eq, List.append_assoc]

theorem lootersAfter_eq (all : ∀ guid ∈ group.memberSlots, near guid = true)
    (searches : group.Searches near false) (some : group.memberSlots ≠ []) (calls : Nat) :
    lootersAfter near calls group = (List.range calls).map fun call =>
      group.memberSlots.getD ((group.searchStart + call) % group.memberSlots.length) 0 := by
  induction calls generalizing group with
  | zero => rfl
  | succ calls ih =>
    have positive : 0 < group.memberSlots.length := List.length_pos_iff.mpr some
    have inside := Nat.mod_lt group.searchStart positive
    obtain ⟨sameSlots, sameMethod⟩ := @update_frame group near false
    have chosen : (group.updateLooterGuid near false).1.looterGuid =
        group.memberSlots[group.searchStart % group.memberSlots.length] := by
      rw [looterGuid_update searches]
      have head : group.turns.find? near = group.turns.head? := by
        cases order : group.turns with
        | nil => rfl
        | cons first rest =>
          have member : first ∈ group.turns := order ▸ List.mem_cons_self
          simp [all first (mem_turns.mp member)]
      rw [head, turns, ← List.rotate_mod, List.head?_rotate inside]
      simp [inside]
    have start : (group.updateLooterGuid near false).1.searchStart =
        group.searchStart % group.memberSlots.length + 1 := by
      rw [searchStart, sameSlots, chosen, group.distinct.idxOf_getElem _ inside]
      exact if_pos inside
    have later := @ih (group.updateLooterGuid near false).1 (by rwa [sameSlots])
      ⟨sameMethod ▸ searches.1, sameMethod ▸ searches.2.1, by simp⟩ (by rwa [sameSlots])
    rw [lootersAfter, later, List.range_succ_eq_map, List.map_cons, List.map_map, sameSlots, start]
    congr 1
    · simp [chosen, inside]
    · apply List.map_congr_left
      intro call _
      simp only [Function.comp_apply, Nat.succ_eq_add_one]
      rw [Nat.add_assoc, Nat.mod_add_mod, Nat.add_comm 1 call]

/-- A search chooses the first near member cyclically after the current looter, who comes last
himself, and nobody if no member is near. Where all are near, as many calls as there are members
choose each of them once. -/
theorem updateLooterGuid_cyclic (group : LooterGroup) (near : Nat → Bool) (ifneed : Bool)
    (searches : group.Searches near ifneed) :
    (group.updateLooterGuid near ifneed).1.looterGuid = (group.turns.find? near).getD 0 ∧
    ((group.updateLooterGuid near ifneed).1.looterGuid = 0 ↔
      ∀ guid ∈ group.memberSlots, near guid = false) ∧
    (∀ before after, group.memberSlots = before ++ group.looterGuid :: after →
      group.turns = after ++ before ++ [group.looterGuid]) ∧
    (group.looterGuid ∉ group.memberSlots → group.turns = group.memberSlots) ∧
    ((∀ guid ∈ group.memberSlots, near guid = true) →
      (lootersAfter near group.memberSlots.length group).Perm group.memberSlots) := by
  have chosen := looterGuid_update searches
  refine ⟨chosen, ?_, fun before after => turns_of_member, ?_, ?_⟩
  · rw [chosen]
    cases found : group.turns.find? near with
    | none =>
      rw [List.find?_eq_none] at found
      refine iff_of_true rfl fun guid member => ?_
      exact Bool.eq_false_iff.mpr (found guid (mem_turns.mpr member))
    | some guid =>
      have member : guid ∈ group.memberSlots := mem_turns.mp (List.mem_of_find?_eq_some found)
      have isNear : near guid = true := List.find?_some found
      refine iff_of_false (fun isZero => group.named ?_) fun none => ?_
      · rw [← show guid = 0 from isZero]
        exact member
      · rw [none guid member] at isNear
        cases isNear
  · intro missing
    have place : group.searchStart = group.memberSlots.length := by
      simp [searchStart, List.idxOf_eq_length missing]
    rw [turns, place, List.rotate_length]
  · intro all
    by_cases some : group.memberSlots = []
    · simp [some, lootersAfter]
    · rw [lootersAfter_eq all ⟨searches.1, searches.2.1, by simp⟩ some]
      refine List.Perm.trans (List.Perm.of_eq ?_) (group.memberSlots.rotate_perm group.searchStart)
      apply List.ext_getElem
      · simp
      · intro call first second
        have positive : 0 < group.memberSlots.length := List.length_pos_iff.mpr some
        simp [List.getElem_rotate, Nat.add_comm, Nat.mod_lt _ positive]

def threeMembers (lootMethod : LootMethod) : LooterGroup where
  lootMethod := lootMethod
  memberSlots := [5, 6, 7]
  looterGuid := 6
  distinct := by decide
  named := by decide

theorem updateLooterGuid_cyclic_three :
    (lootersAfter (fun _ => true) 3 (threeMembers .groupLoot)).Perm [5, 6, 7] :=
  (updateLooterGuid_cyclic (threeMembers .groupLoot) (fun _ => true) false
    ⟨by decide, by decide, by decide⟩).2.2.2.2 fun _ _ => rfl

/-- The looter keeps his turn while he is near if only a needed change is asked for, and under a
master looter always. -/
theorem not_updateLooterGuid_cyclic :
    ((threeMembers .groupLoot).updateLooterGuid (fun _ => true) true).1.looterGuid ≠
        ((threeMembers .groupLoot).turns.find? fun _ => true).getD 0 ∧
      ((threeMembers .masterLoot).updateLooterGuid (fun _ => true) false).1.looterGuid ≠
        ((threeMembers .masterLoot).turns.find? fun _ => true).getD 0 := by
  decide +kernel

end LooterGroup

end DarkCore.Groups
