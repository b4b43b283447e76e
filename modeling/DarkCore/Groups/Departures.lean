/-
What a departure leaves of the rolls (`Group::_removeRolls`). The call of
`CountRollVote` that should end a roll nobody is awaited in any more comes after
the vote of the leaving member was erased, and does nothing for a player without
a vote.
-/

import DarkCore.Groups.Rolls

namespace DarkCore.Groups

open Lib

def Roll.Awaits (roll : Roll) (guid : Nat) : Prop :=
  roll.playerVote.find guid = some .notEmitedYet

structure LeftRolls (guid : Nat) (rolls : List Roll) : Prop where
  absent : ∀ roll ∈ rolls, roll.playerVote.find guid = none
  awaited : ∀ roll ∈ rolls, ∃ other, roll.Awaits other

variable {players : Players} {dice : Dice} {guid : Nat} {state : State}

theorem awaits_without {roll : Roll} {other : Nat} :
    (roll.without guid).Awaits other ↔ other ≠ guid ∧ roll.Awaits other := by
  unfold Roll.without Roll.Awaits
  cases found : roll.playerVote.find guid with
  | none =>
    grind
  | some vote =>
    simp only [(remove_keeps roll guid vote).2.2.2, OrdMap.find_erase]
    by_cases same : other = guid <;> simp [same]

section

variable (guids : (state.group.rollId.map Roll.itemGUID).Nodup)
include guids

theorem removeRolls_rolls :
    (removeRolls players dice guid state).1.group.rollId =
      state.group.rollId.map (Roll.without guid) := by
  rw [removeRolls_eq guids]

theorem removeRolls_absent :
    ∀ roll ∈ (removeRolls players dice guid state).1.group.rollId,
      roll.playerVote.find guid = none := by
  simp [removeRolls_rolls guids, without_absent]

theorem removeRolls_awaited :
    (∀ roll ∈ (removeRolls players dice guid state).1.group.rollId, ∃ other, roll.Awaits other) ↔
      ∀ roll ∈ state.group.rollId, ∃ other, other ≠ guid ∧ roll.Awaits other := by
  simp [removeRolls_rolls guids, awaits_without]

end

/-- No roll is left over exactly where each one still awaited somebody else. -/
theorem leftRolls_iff_awaited (players : Players) (dice : Dice) (guid : Nat) (state : State)
    (guids : (state.group.rollId.map Roll.itemGUID).Nodup) :
    LeftRolls guid (removeRolls players dice guid state).1.group.rollId ↔
      ∀ roll ∈ state.group.rollId, ∃ other, other ≠ guid ∧ roll.Awaits other := by
  rw [← removeRolls_awaited guids]
  exact ⟨LeftRolls.awaited, LeftRolls.mk (removeRolls_absent guids)⟩

def halfVoted : State where
  group := {
    memberSlots := [5, 6, 7]
    rollId := [{
      itemGUID := 1, itemid := 2, itemSlot := 0, loot := some 3
      playerVote := (OrdMap.empty.assign 5 .need).assign 6 .notEmitedYet
      totalPlayersRolling := 2, totalNeed := 1 }]
    lootThreshold := 2, isRaidGroup := false, isBGGroup := false }
  loots := fun _ => some ⟨[⟨2, 1, false, false, true, false⟩], true⟩
  nextItemGuid := 2

def everybodyOnline : Players := ⟨fun _ => true, fun _ _ _ => true⟩

theorem leftRolls_iff_awaited_voter :
    LeftRolls 5 (removeRolls everybodyOnline (fun _ _ => 0) 5 halfVoted).1.group.rollId := by
  refine (leftRolls_iff_awaited everybodyOnline (fun _ _ => 0) 5 halfVoted (by decide)).mpr ?_
  simpa [halfVoted] using ⟨6, by decide, rfl⟩

/-- When the other one goes, the roll stays although the only vote left is given. -/
theorem not_leftRolls :
    ¬ LeftRolls 6 (removeRolls everybodyOnline (fun _ _ => 0) 6 halfVoted).1.group.rollId := by
  intro left
  have awaited := (removeRolls_awaited (by decide)).mp left.awaited
  obtain ⟨other, notLeaving, awaits⟩ := awaited _ (List.mem_singleton.mpr rfl)
  rcases OrdMap.find_assign_some.mp awaits with ⟨leaving, _⟩ | ⟨_, earlier⟩
  · exact notLeaving leaving
  · rcases OrdMap.find_assign_some.mp earlier with ⟨_, vote⟩ | ⟨_, nobody⟩
    · cases vote
    · cases nobody

end DarkCore.Groups
