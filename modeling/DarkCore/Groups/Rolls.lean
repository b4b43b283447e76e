/-
What the steps of a group do to its list of rolls: which rolls go, which come,
and what a departing member changes in those that stay. The guids of the rolls
stay distinct, so a vote or a departure concerns one roll only.
-/

import DarkCore.Groups.LootRoll
import DarkCore.Lib.Runs
import Mathlib.Data.List.Sublists

namespace DarkCore.Groups

open Lib

/-! ### The end of a roll -/

section Ending

variable (players : Players) (dice : Dice)

theorem handOut_case (roll : Roll) (object guid : Nat) (state : State) :
    ∃ change, (change = LootItem.looted ∨ change = LootItem.unblocked) ∧
      (handOut players roll object guid state).1 =
        state.setItem object roll.itemSlot change := by
  unfold handOut
  dsimp only
  split
  · exact ⟨LootItem.looted, Or.inl rfl, rfl⟩
  · exact ⟨LootItem.unblocked, Or.inr rfl, rfl⟩

section

variable (roll : Roll) (object : Nat) (state : State)
include roll object state

theorem settleRoll_case :
    (settleRoll players dice roll object state).1 = state ∨
      ∃ change, (change = LootItem.looted ∨ change = LootItem.unblocked) ∧
        (settleRoll players dice roll object state).1 =
          state.setItem object roll.itemSlot change := by
  unfold settleRoll
  split
  · split
    · exact Or.inl rfl
    · split
      · exact Or.inr (handOut_case players roll object _ state)
      · exact Or.inl rfl
  · split
    · split
      · exact Or.inl rfl
      · split
        · split
          · exact Or.inr (handOut_case players roll object _ state)
          · exact Or.inr ⟨LootItem.looted, Or.inl rfl, rfl⟩
          · exact Or.inl rfl
        · exact Or.inl rfl
    · exact Or.inr ⟨LootItem.unblocked, Or.inr rfl, rfl⟩

theorem settleRoll_group :
    (settleRoll players dice roll object state).1.group = state.group := by
  rcases settleRoll_case players dice roll object state with same | ⟨change, _, changed⟩
  · rw [same]
  · rw [changed]
    rfl

theorem settleRoll_nextItemGuid :
    (settleRoll players dice roll object state).1.nextItemGuid = state.nextItemGuid := by
  rcases settleRoll_case players dice roll object state with same | ⟨change, _, changed⟩
  · rw [same]
  · rw [changed]
    rfl

end

variable {players dice} {index : Nat} {roll : Roll} {state : State}

section

variable (there : state.group.rollId[index]? = some roll)
include there

theorem countTheRoll_case :
    (roll.loot = none ∧ countTheRoll players dice index state = (state.eraseRoll index, [])) ∨
      ∃ object, roll.loot = some object ∧
        countTheRoll players dice index state =
          ((settleRoll players dice roll object state).1.eraseRoll index,
            (settleRoll players dice roll object state).2) := by
  unfold countTheRoll
  rw [there]
  dsimp only
  cases linked : roll.loot with
  | none => exact Or.inl ⟨rfl, rfl⟩
  | some object => exact Or.inr ⟨object, rfl, rfl⟩

theorem countTheRoll_group :
    (countTheRoll players dice index state).1.group =
      { state.group with rollId := state.group.rollId.eraseIdx index } := by
  rcases countTheRoll_case there with ⟨_, gone⟩ | ⟨object, _, settled⟩
  · rw [gone]
    rfl
  · simp [State.eraseRoll, settled, settleRoll_group]

theorem countTheRoll_nextItemGuid :
    (countTheRoll players dice index state).1.nextItemGuid = state.nextItemGuid := by
  rcases countTheRoll_case there with ⟨_, gone⟩ | ⟨object, _, settled⟩
  · rw [gone]
    rfl
  · rw [settled]
    exact settleRoll_nextItemGuid players dice roll object state

end

theorem endRoll_induction {property : State → Prop} {object : Nat}
    (counted : ∀ state index roll, state.group.rollId[index]? = some roll →
      roll.loot = some object → property state → property (countTheRoll players dice index state).1)
    (start : property state) : property (endRoll players dice object state).1 := by
  unfold endRoll
  generalize state.group.rollId.length = fuel
  induction fuel generalizing state with
  | zero => exact start
  | succ fuel ih =>
    unfold endRollLoop
    cases search : state.group.rollId.findIdx? fun roll => roll.loot == some object with
    | none => exact start
    | some index =>
      obtain ⟨inside, linked, _⟩ := List.findIdx?_eq_some_iff_getElem.mp search
      apply ih
      exact counted state index _ (List.getElem?_eq_getElem inside) (eq_of_beq linked) start

end Ending

/-! ### Votes -/

section Votes

variable {players : Players} {dice : Dice} {guid itemGUID choice index : Nat} {roll : Roll}
  {state : State}

theorem votableRoll_some (votable : votableRoll state guid itemGUID = some (index, roll)) :
    state.group.rollId[index]? = some roll ∧ roll.itemGUID = itemGUID ∧
      ∃ vote, roll.playerVote.find guid = some vote := by
  unfold votableRoll at votable
  rw [Option.bind_eq_bind, Option.bind_eq_some_iff] at votable
  obtain ⟨place, found, votable⟩ := votable
  rw [Option.bind_eq_bind, Option.bind_eq_some_iff] at votable
  obtain ⟨subject, there, votable⟩ := votable
  rw [Option.bind_eq_bind, Option.bind_eq_some_iff] at votable
  obtain ⟨vote, voter, votable⟩ := votable
  split at votable
  · cases votable
  · cases votable
    obtain ⟨inside, matched, _⟩ := List.findIdx?_eq_some_iff_getElem.mp found
    rw [List.getElem?_eq_getElem inside, Option.some_inj] at there
    rw [there, Bool.and_eq_true] at matched
    refine ⟨?_, eq_of_beq matched.1, vote, voter⟩
    rw [List.getElem?_eq_getElem inside, there]

theorem countRollVote_case (players : Players) (dice : Dice) (guid itemGUID choice : Nat)
    (state : State) :
    (votableRoll state guid itemGUID = none ∧
        countRollVote players dice guid itemGUID choice state = (state, [])) ∨
      ∃ index roll, votableRoll state guid itemGUID = some (index, roll) ∧
        (((roll.choose guid choice).decided = false ∧
            countRollVote players dice guid itemGUID choice state =
              (state.setRoll index (roll.choose guid choice), [])) ∨
          ((roll.choose guid choice).decided = true ∧
            countRollVote players dice guid itemGUID choice state = countTheRoll players dice index
                (state.setRoll index (roll.choose guid choice)))) := by
  unfold countRollVote
  cases votable : votableRoll state guid itemGUID with
  | none => exact Or.inl ⟨rfl, rfl⟩
  | some found =>
    obtain ⟨index, roll⟩ := found
    refine Or.inr ⟨index, roll, rfl, ?_⟩
    dsimp only
    cases ended : (roll.choose guid choice).decided with
    | false | true =>
      simp

theorem setRoll_there (there : state.group.rollId[index]? = some roll) (changed : Roll) :
    (state.setRoll index changed).group.rollId[index]? = some changed := by
  obtain ⟨inside, _⟩ := List.getElem?_eq_some_iff.mp there
  unfold State.setRoll
  exact List.getElem?_set_self inside

theorem cast_keeps (roll : Roll) (guid : Nat) (vote : RollVote) :
    (roll.cast guid vote).itemGUID = roll.itemGUID ∧ (roll.cast guid vote).loot = roll.loot ∧
      (roll.cast guid vote).itemSlot = roll.itemSlot ∧
      (roll.cast guid vote).itemid = roll.itemid := by
  unfold Roll.cast
  cases vote <;> exact ⟨rfl, rfl, rfl, rfl⟩

theorem choose_keeps (roll : Roll) (guid choice : Nat) :
    (roll.choose guid choice).itemGUID = roll.itemGUID ∧
      (roll.choose guid choice).loot = roll.loot ∧
      (roll.choose guid choice).itemSlot = roll.itemSlot ∧
      (roll.choose guid choice).itemid = roll.itemid := by
  unfold Roll.choose
  split
  · exact cast_keeps roll guid _
  · exact ⟨rfl, rfl, rfl, rfl⟩

end Votes

/-! ### Departures -/

def Roll.without (guid : Nat) (roll : Roll) : Roll :=
  match roll.playerVote.find guid with
  | none => roll
  | some vote => roll.remove guid vote

theorem remove_keeps (roll : Roll) (guid : Nat) (vote : RollVote) :
    (roll.remove guid vote).itemGUID = roll.itemGUID ∧
      (roll.remove guid vote).loot = roll.loot ∧
      (roll.remove guid vote).itemSlot = roll.itemSlot ∧
      (roll.remove guid vote).playerVote = roll.playerVote.erase guid := by
  unfold Roll.remove
  cases vote <;> exact ⟨rfl, rfl, rfl, rfl⟩

theorem without_keeps (guid : Nat) (roll : Roll) :
    (roll.without guid).itemGUID = roll.itemGUID ∧ (roll.without guid).loot = roll.loot ∧
      (roll.without guid).itemSlot = roll.itemSlot := by
  unfold Roll.without
  split
  · exact ⟨rfl, rfl, rfl⟩
  · rename_i vote _
    obtain ⟨sameGuid, sameLoot, sameSlot, _⟩ := remove_keeps roll guid vote
    exact ⟨sameGuid, sameLoot, sameSlot⟩

theorem without_absent (guid : Nat) (roll : Roll) :
    (roll.without guid).playerVote.find guid = none := by
  unfold Roll.without
  split
  · assumption
  · rename_i vote _
    rw [(remove_keeps roll guid vote).2.2.2, OrdMap.find_eq_none]
    intro entry member
    exact (OrdMap.mem_erase.mp member).2

section Departures

variable (players : Players) (dice : Dice) (guid : Nat)

/-- The state in the middle of `_removeRolls`: the first rolls have lost the player. -/
def State.partly (guid turns : Nat) (state : State) : State :=
  { state with
    group := { state.group with
      rollId := state.group.rollId.mapIdx fun index roll =>
        if index < turns then roll.without guid else roll } }

variable {guid} {state : State} {turns : Nat}

theorem partly_getElem? (index : Nat) :
    (state.partly guid turns).group.rollId[index]? =
      state.group.rollId[index]?.map fun roll =>
        if index < turns then roll.without guid else roll := by
  unfold State.partly
  exact List.getElem?_mapIdx

theorem partly_zero : state.partly guid 0 = state := by
  have same : (state.group.rollId.mapIdx fun index roll =>
      if index < 0 then roll.without guid else roll) = state.group.rollId := by
    apply List.ext_getElem?
    intro index
    rw [List.getElem?_mapIdx]
    cases state.group.rollId[index]? with
    | none => rfl
    | some roll => rfl
  unfold State.partly
  rw [same]

theorem partly_all :
    state.partly guid state.group.rollId.length =
      { state with
        group := { state.group with
          rollId := state.group.rollId.map (Roll.without guid) } } := by
  have same : (state.group.rollId.mapIdx fun index roll =>
      if index < state.group.rollId.length then roll.without guid else roll) =
        state.group.rollId.map (Roll.without guid) := by
    apply List.ext_getElem?
    intro index
    rw [List.getElem?_mapIdx, List.getElem?_map]
    cases there : state.group.rollId[index]? with
    | none => rfl
    | some roll =>
      obtain ⟨inside, _⟩ := List.getElem?_eq_some_iff.mp there
      rw [Option.map_some, Option.map_some, if_pos inside]
  unfold State.partly
  rw [same]

theorem partly_succ_absent {roll : Roll} (there : state.group.rollId[turns]? = some roll)
    (absent : roll.playerVote.find guid = none) :
    state.partly guid (turns + 1) = state.partly guid turns := by
  have same : (state.group.rollId.mapIdx fun index roll =>
      if index < turns + 1 then roll.without guid else roll) =
        state.group.rollId.mapIdx fun index roll =>
          if index < turns then roll.without guid else roll := by
    apply List.ext_getElem?
    intro index
    rw [List.getElem?_mapIdx, List.getElem?_mapIdx]
    by_cases here : index = turns
    · simp [here, there, Option.map_some, Roll.without, absent]
    · congr 1
      funext other
      have both : index < turns + 1 ↔ index < turns := by omega
      rw [if_congr both rfl rfl]
  unfold State.partly
  rw [same]

theorem partly_succ {roll : Roll} (there : state.group.rollId[turns]? = some roll) :
    (state.partly guid turns).setRoll turns (roll.without guid) =
      state.partly guid (turns + 1) := by
  obtain ⟨inside, _⟩ := List.getElem?_eq_some_iff.mp there
  have same : (state.group.rollId.mapIdx fun index roll =>
      if index < turns then roll.without guid else roll).set turns (roll.without guid) =
        state.group.rollId.mapIdx fun index roll =>
          if index < turns + 1 then roll.without guid else roll := by
    apply List.ext_getElem?
    intro index
    rw [List.getElem?_mapIdx]
    by_cases here : index = turns
    · simp_all
    · rw [List.getElem?_set_ne (Ne.symm here), List.getElem?_mapIdx]
      congr 1
      funext other
      have both : index < turns ↔ index < turns + 1 := by omega
      rw [if_congr both rfl rfl]
  unfold State.partly State.setRoll
  rw [same]

theorem votableRoll_partly {roll : Roll}
    (guids : (state.group.rollId.map Roll.itemGUID).Nodup)
    (there : state.group.rollId[turns]? = some roll) :
    votableRoll (state.partly guid (turns + 1)) guid roll.itemGUID = none := by
  cases votable : votableRoll (state.partly guid (turns + 1)) guid roll.itemGUID with
  | none => rfl
  | some found =>
    obtain ⟨index, other⟩ := found
    obtain ⟨otherThere, sameGuid, vote, voter⟩ := votableRoll_some votable
    rw [partly_getElem?, Option.map_eq_some_iff] at otherThere
    obtain ⟨original, originalThere, changed⟩ := otherThere
    have originalGuid : original.itemGUID = roll.itemGUID := by
      rw [← sameGuid, ← changed]
      split
      · exact (without_keeps guid original).1.symm
      · rfl
    obtain ⟨inside, atIndex⟩ := List.getElem?_eq_some_iff.mp originalThere
    obtain ⟨insideTurn, atTurn⟩ := List.getElem?_eq_some_iff.mp there
    have sameIndex : index = turns := by
      have insideBoth : index < (state.group.rollId.map Roll.itemGUID).length ∧
          turns < (state.group.rollId.map Roll.itemGUID).length := by
        simp_all
      apply (@List.Nodup.getElem_inj_iff _ _ guids _ insideBoth.1 _ insideBoth.2).mp
      rw [List.getElem_map, List.getElem_map, atIndex, atTurn, originalGuid]
    rw [sameIndex, if_pos (Nat.lt_succ_self turns)] at changed
    rw [← changed, without_absent] at voter
    cases voter

variable {players dice}

theorem removeFromRoll_partly (guids : (state.group.rollId.map Roll.itemGUID).Nodup)
    (inside : turns < state.group.rollId.length) :
    removeFromRoll players dice guid (state.partly guid turns, []) turns =
      (state.partly guid (turns + 1), []) := by
  have there := List.getElem?_eq_getElem inside
  generalize state.group.rollId[turns] = roll at there
  unfold removeFromRoll
  rw [partly_getElem?, there, Option.map_some, if_neg (Nat.lt_irrefl turns)]
  dsimp only
  cases voter : roll.playerVote.find guid with
  | none => rw [partly_succ_absent there voter]
  | some vote =>
    dsimp only
    have left : roll.remove guid vote = roll.without guid := by
      simp_all [Roll.without]
    rw [left, partly_succ there]
    unfold countRollVote
    rw [votableRoll_partly guids there]
    rfl

theorem removeRolls_eq (guids : (state.group.rollId.map Roll.itemGUID).Nodup) :
    removeRolls players dice guid state =
      ({ state with
          group := { state.group with
            rollId := state.group.rollId.map (Roll.without guid) } }, []) := by
  have turnsDone : ∀ turns, turns ≤ state.group.rollId.length →
      (List.range turns).foldl (removeFromRoll players dice guid) (state, []) =
        (state.partly guid turns, []) := by
    intro turns
    induction turns with
    | zero =>
      simp [partly_zero]
    | succ turns ih =>
      intro inside
      rw [List.range_succ, List.foldl_append, ih (Nat.le_of_succ_le inside)]
      exact removeFromRoll_partly guids inside
  unfold removeRolls
  rw [turnsDone _ (Nat.le_refl _), partly_all]

end Departures

/-! ### Openings -/

section Openings

variable {near : Surroundings} {eligible : LootItem → Nat → Bool} {group : Group} {object : Nat}

def Roll.empty (itemGUID itemid itemSlot object : Nat) : Roll :=
  { itemGUID, itemid, itemSlot, loot := some object }

theorem enterAll_keeps (takesPart : Nat → Bool) (guids : List Nat) (roll : Roll) :
    (Roll.enterAll near takesPart guids roll).itemGUID = roll.itemGUID ∧
      (Roll.enterAll near takesPart guids roll).loot = roll.loot ∧
      (Roll.enterAll near takesPart guids roll).itemSlot = roll.itemSlot := by
  induction guids generalizing roll with
  | nil => exact ⟨rfl, rfl, rfl⟩
  | cons guid rest ih =>
    unfold Roll.enterAll
    split
    · obtain ⟨sameGuid, sameLoot, sameSlot⟩ := ih (roll.enter guid (near.passOnGroupLoot guid))
      rw [sameGuid, sameLoot, sameSlot]
      unfold Roll.enter
      split <;> exact ⟨rfl, rfl, rfl⟩
    · exact ih roll

theorem startRoll_case (item : LootItem) (itemSlot nextItemGuid : Nat) :
    (∃ changed nextGuid, startRoll near eligible group object item itemSlot nextItemGuid =
          (changed, none, nextGuid) ∧
        nextItemGuid ≤ nextGuid ∧ changed.isBlocked = item.isBlocked) ∨
      startRoll near eligible group object item itemSlot nextItemGuid =
        ({ item with isBlocked := true }, some (Roll.enterAll near (eligible item) group.memberSlots
            (Roll.empty nextItemGuid item.itemid itemSlot object)), nextItemGuid + 1) := by
  unfold startRoll
  split
  · exact Or.inl ⟨item, nextItemGuid, rfl, Nat.le_refl _, rfl⟩
  · split
    · exact Or.inl ⟨item, nextItemGuid, rfl, Nat.le_refl _, rfl⟩
    · split
      · dsimp only
        split
        · exact Or.inr rfl
        · exact Or.inl ⟨item, nextItemGuid + 1, rfl, Nat.le_succ _, rfl⟩
      · exact Or.inl ⟨_, nextItemGuid, rfl, Nat.le_refl _, rfl⟩

variable {items : List LootItem} {itemSlot nextItemGuid : Nat} {roll : Roll}

theorem startRolls_next :
    nextItemGuid ≤ (startRolls near eligible group object items itemSlot nextItemGuid).2.2 := by
  induction items generalizing itemSlot nextItemGuid with
  | nil => exact Nat.le_refl _
  | cons item rest ih =>
    unfold startRolls
    rcases startRoll_case item itemSlot nextItemGuid with
      ⟨changed, nextGuid, started, later, _⟩ | started
    · rw [started]
      exact Nat.le_trans later ih
    · rw [started]
      exact Nat.le_trans (Nat.le_succ _) ih

theorem startRolls_entered
    (member : roll ∈ (startRolls near eligible group object items itemSlot nextItemGuid).2.1) :
    ∃ item itemGUID slot,
      roll = Roll.enterAll near (eligible item) group.memberSlots
        (Roll.empty itemGUID item.itemid slot object) ∧
      nextItemGuid ≤ itemGUID ∧
      itemGUID < (startRolls near eligible group object items itemSlot nextItemGuid).2.2 ∧
      itemSlot ≤ slot := by
  induction items generalizing itemSlot nextItemGuid with
  | nil => cases member
  | cons item rest ih =>
    unfold startRolls at member ⊢
    rcases startRoll_case item itemSlot nextItemGuid with
      ⟨changed, nextGuid, started, later, _⟩ | started
    · rw [started] at member ⊢
      obtain ⟨source, itemGUID, slot, entered, above, below, after⟩ := ih member
      exact ⟨source, itemGUID, slot, entered, Nat.le_trans later above, below,
        Nat.le_of_succ_le after⟩
    · rw [started] at member ⊢
      rcases List.mem_cons.mp member with first | inRest
      · exact ⟨item, nextItemGuid, itemSlot, first, Nat.le_refl _, startRolls_next, Nat.le_refl _⟩
      · obtain ⟨source, itemGUID, slot, entered, above, below, after⟩ := ih inRest
        exact ⟨source, itemGUID, slot, entered, Nat.le_of_succ_le above, below,
          Nat.le_of_succ_le after⟩

theorem startRolls_mem
    (member : roll ∈ (startRolls near eligible group object items itemSlot nextItemGuid).2.1) :
    roll.loot = some object ∧ nextItemGuid ≤ roll.itemGUID ∧
      roll.itemGUID < (startRolls near eligible group object items itemSlot nextItemGuid).2.2 ∧
      itemSlot ≤ roll.itemSlot := by
  obtain ⟨item, itemGUID, slot, entered, above, below, after⟩ := startRolls_entered member
  obtain ⟨sameGuid, sameLoot, sameSlot⟩ := @enterAll_keeps near (eligible item) group.memberSlots
    (Roll.empty itemGUID item.itemid slot object)
  rw [entered, sameGuid, sameLoot, sameSlot]
  exact ⟨rfl, above, below, after⟩

theorem startRolls_distinct :
    (startRolls near eligible group object items itemSlot nextItemGuid).2.1.Pairwise
      fun first second => first.itemGUID ≠ second.itemGUID ∧
        first.itemSlot ≠ second.itemSlot := by
  induction items generalizing itemSlot nextItemGuid with
  | nil => exact List.Pairwise.nil
  | cons item rest ih =>
    unfold startRolls
    rcases startRoll_case item itemSlot nextItemGuid with
      ⟨changed, nextGuid, started, later, _⟩ | started
    · rw [started]
      exact ih
    · rw [started]
      refine List.pairwise_cons.mpr ⟨?_, ih⟩
      intro other member
      obtain ⟨sameGuid, _, sameSlot⟩ := @enterAll_keeps near (eligible item) group.memberSlots
        (Roll.empty nextItemGuid item.itemid itemSlot object)
      obtain ⟨_, above, _, after⟩ := startRolls_mem member
      rw [sameGuid, sameSlot]
      exact ⟨Nat.ne_of_lt above, Nat.ne_of_lt after⟩

theorem sendLoot_case (object : Nat) (needRules : Bool) (near : Surroundings) (state : State) :
    ∃ eligible, sendLoot object needRules near state = state ∨
      ∃ loot, state.loots object = some loot ∧ loot.lootForBody = false ∧
        sendLoot object needRules near state =
          { state with
            loots := Function.update state.loots object
              (some { items := (startRolls near eligible state.group object loot.items 0
                        state.nextItemGuid).1,
                      lootForBody := true })
            group := { state.group with
              rollId := state.group.rollId ++ (startRolls near eligible state.group object
                loot.items 0 state.nextItemGuid).2.1 }
            nextItemGuid := (startRolls near eligible state.group object loot.items 0
              state.nextItemGuid).2.2 } := by
  unfold sendLoot
  cases opened : state.loots object with
  | none => exact ⟨near.allowed, Or.inl rfl⟩
  | some loot =>
    dsimp only
    cases applied : loot.lootForBody with
    | true => exact ⟨near.allowed, Or.inl rfl⟩
    | false =>
      cases needRules with
      | true | false => exact ⟨_, Or.inr ⟨loot, rfl, applied, rfl⟩⟩

end Openings

/-! ### Guids stay distinct -/

structure State.Numbered (state : State) : Prop where
  members : state.group.memberSlots.length ≤ maxRaidSize
  distinct : state.group.memberSlots.Nodup
  guids : (state.group.rollId.map Roll.itemGUID).Nodup
  used : ∀ roll ∈ state.group.rollId, roll.itemGUID < state.nextItemGuid

section Numbered

variable {state : State}

theorem initial_numbered (lootThreshold : Nat) (isRaidGroup isBGGroup : Bool)
    (nextItemGuid : Nat) :
    (State.initial lootThreshold isRaidGroup isBGGroup nextItemGuid).Numbered where
  members := Nat.zero_le _
  distinct := List.nodup_nil
  guids := List.nodup_nil
  used := by
    intro roll member
    cases member

theorem State.Numbered.fewer {after : State} (numbered : state.Numbered)
    (members : after.group.memberSlots.Sublist state.group.memberSlots)
    (rolls : (after.group.rollId.map Roll.itemGUID).Sublist (state.group.rollId.map Roll.itemGUID))
    (next : after.nextItemGuid = state.nextItemGuid) : after.Numbered where
  members := Nat.le_trans members.length_le numbered.members
  distinct := numbered.distinct.sublist members
  guids := numbered.guids.sublist rolls
  used := by
    intro roll member
    have old := rolls.subset (List.mem_map_of_mem member)
    obtain ⟨original, originalMember, same⟩ := List.mem_map.mp old
    rw [next, ← same]
    exact numbered.used original originalMember

theorem State.Numbered.same {after : State} (numbered : state.Numbered)
    (members : after.group.memberSlots = state.group.memberSlots)
    (rolls : after.group.rollId = state.group.rollId)
    (next : after.nextItemGuid = state.nextItemGuid) : after.Numbered := by
  apply numbered.fewer
  · rw [members]
  · rw [rolls]
  · exact next

theorem setRoll_map {β : Type} {view : Roll → β} {index : Nat} {roll changed : Roll}
    (there : state.group.rollId[index]? = some roll) (same : view changed = view roll) :
    (state.setRoll index changed).group.rollId.map view = state.group.rollId.map view := by
  have here : (state.group.rollId.map view)[index]? = some (view roll) := by
    simp_all
  obtain ⟨inside, value⟩ := List.getElem?_eq_some_iff.mp here
  unfold State.setRoll
  rw [List.map_set, same, ← value]
  exact List.set_getElem_self inside

theorem countTheRoll_numbered {players : Players} {dice : Dice} {index : Nat} {roll : Roll}
    (numbered : state.Numbered) (there : state.group.rollId[index]? = some roll) :
    (countTheRoll players dice index state).1.Numbered := by
  apply numbered.fewer
  · rw [countTheRoll_group there]
  · rw [countTheRoll_group there]
    exact (List.eraseIdx_sublist _ _).map _
  · exact countTheRoll_nextItemGuid there

theorem setRoll_numbered {index : Nat} {roll changed : Roll} (numbered : state.Numbered)
    (there : state.group.rollId[index]? = some roll) (same : changed.itemGUID = roll.itemGUID) :
    (state.setRoll index changed).Numbered := by
  apply numbered.fewer
  · exact List.Sublist.refl _
  · rw [setRoll_map there same]
  · rfl

theorem countRollVote_numbered (players : Players) (dice : Dice) (guid itemGUID choice : Nat)
    (numbered : state.Numbered) :
    (countRollVote players dice guid itemGUID choice state).1.Numbered := by
  rcases countRollVote_case players dice guid itemGUID choice state with
    ⟨_, ignored⟩ | ⟨index, roll, votable, counted⟩
  · simp_all
  · obtain ⟨there, _⟩ := votableRoll_some votable
    have recorded := setRoll_numbered numbered there (choose_keeps roll guid choice).1
    rcases counted with ⟨_, stays⟩ | ⟨_, ends⟩
    · simp_all
    · rw [ends]
      exact countTheRoll_numbered recorded (setRoll_there there _)

theorem clearLoot_numbered (object : Nat) (numbered : state.Numbered) :
    (clearLoot object state).Numbered := by
  apply numbered.fewer
  · exact List.Sublist.refl _
  · unfold clearLoot
    rw [List.map_map]
    have same : (Roll.itemGUID ∘ fun roll =>
        if roll.loot = some object then { roll with loot := none } else roll) =
          Roll.itemGUID := by
      grind
    rw [same]
  · rfl

theorem sendLoot_numbered (object : Nat) (needRules : Bool) (near : Surroundings)
    (numbered : state.Numbered) : (sendLoot object needRules near state).Numbered := by
  obtain ⟨eligible, sent⟩ := sendLoot_case object needRules near state
  rcases sent with same | ⟨loot, _, _, opened⟩
  · simp_all
  · rw [opened]
    constructor
    · exact numbered.members
    · exact numbered.distinct
    · dsimp only
      rw [List.map_append, List.nodup_append]
      refine ⟨numbered.guids, ?_, ?_⟩
      · rw [List.Nodup, List.pairwise_map]
        exact startRolls_distinct.imp And.left
      · intro old oldMember new newMember
        obtain ⟨roll, member, rfl⟩ := List.mem_map.mp oldMember
        obtain ⟨other, otherMember, rfl⟩ := List.mem_map.mp newMember
        exact Nat.ne_of_lt
          (Nat.lt_of_lt_of_le (numbered.used roll member) (startRolls_mem otherMember).2.1)
    · intro roll member
      rcases List.mem_append.mp member with old | new
      · exact Nat.lt_of_lt_of_le (numbered.used roll old) startRolls_next
      · exact (startRolls_mem new).2.2.1

theorem addMember_numbered (guid : Nat) (numbered : state.Numbered) :
    (addMember guid state).Numbered := by
  unfold addMember
  split
  · exact numbered
  · rename_i allowed
    obtain ⟨room, absent⟩ := not_or.mp allowed
    constructor
    · have small : state.group.memberSlots.length < maxRaidSize := by
        unfold Group.isFull at room
        rw [decide_eq_true_iff, not_le] at room
        refine Nat.lt_of_lt_of_le room ?_
        split
        · exact Nat.le_refl _
        · decide
      rw [List.length_append]
      exact small
    · dsimp only
      rw [List.nodup_append]
      refine ⟨numbered.distinct, List.nodup_singleton guid, ?_⟩
      intro old member new newMember
      rw [List.mem_singleton.mp newMember]
      rintro rfl
      exact absent member
    · exact numbered.guids
    · exact numbered.used

theorem disband_numbered (numbered : state.Numbered) : (disband state).Numbered := by
  apply numbered.fewer
  · exact List.nil_sublist _
  · exact List.nil_sublist _
  · rfl

theorem removeMember_case (players : Players) (dice : Dice) (guid : Nat)
    (numbered : state.Numbered) :
    (state.group.staysWithout = true ∧ removeMember players dice guid state = ({ state with
              group := { state.group with
                rollId := state.group.rollId.map (Roll.without guid)
                memberSlots := state.group.memberSlots.erase guid } }, [])) ∨
      (state.group.staysWithout = false ∧
        removeMember players dice guid state = (disband state, [])) := by
  unfold removeMember
  cases stays : state.group.staysWithout with
  | true =>
    rw [if_pos rfl, removeRolls_eq numbered.guids]
    exact Or.inl ⟨rfl, rfl⟩
  | false =>
    simp

theorem removeMember_numbered (players : Players) (dice : Dice) (guid : Nat)
    (numbered : state.Numbered) : (removeMember players dice guid state).1.Numbered := by
  rcases removeMember_case players dice guid numbered with ⟨_, left⟩ | ⟨_, gone⟩
  · rw [left]
    apply numbered.fewer
    · exact List.erase_sublist
    · dsimp only
      rw [List.map_map]
      have same : Roll.itemGUID ∘ Roll.without guid = Roll.itemGUID := by
        funext roll
        exact (without_keeps guid roll).1
      rw [same]
    · rfl
  · rw [gone]
    exact disband_numbered numbered

theorem next_numbered (action : Step) (numbered : state.Numbered) :
    (next state action).Numbered := by
  cases action with
  | fill object items => exact (clearLoot_numbered object numbered).same rfl rfl rfl
  | clear object => exact clearLoot_numbered object numbered
  | «open» object needRules near => exact sendLoot_numbered object needRules near numbered
  | take object slot =>
    unfold next step storeLootItem
    dsimp only
    split
    · exact numbered
    · split
      · exact numbered
      · split
        · exact numbered
        · exact numbered.same rfl rfl rfl
  | vote guid itemGUID choice players dice =>
    unfold next step
    dsimp only
    split
    · exact countRollVote_numbered players dice guid itemGUID choice numbered
    · exact numbered
  | timer object players dice =>
    apply endRoll_induction _ numbered
    intro state index roll there _ holds
    exact countTheRoll_numbered holds there
  | join guid => exact addMember_numbered guid numbered
  | leave guid players dice => exact removeMember_numbered players dice guid numbered
  | disband => exact disband_numbered numbered
  | convertToRaid => exact numbered.same rfl rfl rfl
  | setLootThreshold threshold => exact numbered.same rfl rfl rfl

end Numbered

/-! ### Where the rolls of the next state come from -/

inductive Origin (state : State) (action : Step) (roll : Roll) : Prop where
  | kept (member : roll ∈ state.group.rollId)
  | cut (old : Roll) (member : old ∈ state.group.rollId)
      (same : roll = { old with loot := none })
  | voted (guid itemGUID choice : Nat) (players : Players) (dice : Dice) (index : Nat)
      (old : Roll) (byVote : action = .vote guid itemGUID choice players dice)
      (voter : guid ∈ state.group.memberSlots)
      (votable : votableRoll state guid itemGUID = some (index, old))
      (same : roll = old.choose guid choice)
  | left (guid : Nat) (old : Roll) (member : old ∈ state.group.rollId)
      (same : roll = old.without guid)
  | entered (near : Surroundings) (takesPart : Nat → Bool)
      (itemGUID itemid itemSlot object : Nat)
      (same : roll = Roll.enterAll near takesPart state.group.memberSlots
        (Roll.empty itemGUID itemid itemSlot object))

section Origin

variable {state : State} {roll : Roll}

theorem clearLoot_origin {object : Nat} {action : Step}
    (member : roll ∈ (clearLoot object state).group.rollId) : Origin state action roll := by
  obtain ⟨old, oldMember, changed⟩ := List.mem_map.mp member
  split at changed
  · exact .cut old oldMember changed.symm
  · exact .kept (changed ▸ oldMember)

theorem setRoll_mem {index : Nat} {changed : Roll}
    (member : roll ∈ (state.setRoll index changed).group.rollId) :
    roll = changed ∨ roll ∈ state.group.rollId :=
  (List.mem_or_eq_of_mem_set member).symm

theorem countTheRoll_mem {players : Players} {dice : Dice} {index : Nat} {counted : Roll}
    (there : state.group.rollId[index]? = some counted)
    (member : roll ∈ (countTheRoll players dice index state).1.group.rollId) :
    roll ∈ state.group.rollId := by
  rw [countTheRoll_group there] at member
  exact List.mem_of_mem_eraseIdx member

theorem countRollVote_mem {players : Players} {dice : Dice} {guid itemGUID choice : Nat}
    (member : roll ∈ (countRollVote players dice guid itemGUID choice state).1.group.rollId) :
    roll ∈ state.group.rollId ∨
      ∃ index old, votableRoll state guid itemGUID = some (index, old) ∧
        roll = old.choose guid choice := by
  rcases countRollVote_case players dice guid itemGUID choice state with
    ⟨_, ignored⟩ | ⟨index, old, votable, counted⟩
  · simp_all
  · obtain ⟨there, _⟩ := votableRoll_some votable
    have recorded : roll ∈
        (state.setRoll index (old.choose guid choice)).group.rollId := by
      rcases counted with ⟨_, stays⟩ | ⟨_, ends⟩
      · rwa [stays] at member
      · rw [ends] at member
        exact countTheRoll_mem (setRoll_there there _) member
    rcases setRoll_mem recorded with changed | kept
    · exact Or.inr ⟨index, old, votable, changed⟩
    · exact Or.inl kept

theorem endRoll_mem {players : Players} {dice : Dice} {object : Nat}
    (member : roll ∈ (endRoll players dice object state).1.group.rollId) :
    roll ∈ state.group.rollId := by
  refine @endRoll_induction players dice state
    (fun later => roll ∈ later.group.rollId → roll ∈ state.group.rollId) object ?_ ?_ member
  · intro later index counted there _ holds inLater
    exact holds (countTheRoll_mem there inLater)
  · exact id

theorem next_origin {action : Step} (numbered : state.Numbered)
    (member : roll ∈ (next state action).group.rollId) : Origin state action roll := by
  cases action with
  | fill object items => exact clearLoot_origin member
  | clear object => exact clearLoot_origin member
  | «open» object needRules near =>
    obtain ⟨eligible, same | ⟨loot, _, _, opened⟩⟩ :=
      sendLoot_case object needRules near state
    · exact .kept (same ▸ member)
    · change roll ∈ (sendLoot object needRules near state).group.rollId at member
      rw [opened] at member
      rcases List.mem_append.mp member with old | new
      · exact .kept old
      · obtain ⟨item, itemGUID, slot, entered, _⟩ := startRolls_entered new
        exact .entered near (eligible item) itemGUID item.itemid slot object entered
  | take object slot =>
    refine .kept ?_
    unfold next step storeLootItem at member
    dsimp only at member
    split at member
    · exact member
    · split at member
      · exact member
      · split at member <;> exact member
  | vote guid itemGUID choice players dice =>
    unfold next step at member
    dsimp only at member
    split at member
    · rename_i voter
      rcases countRollVote_mem member with kept | ⟨index, old, votable, changed⟩
      · exact .kept kept
      · exact .voted guid itemGUID choice players dice index old rfl voter votable changed
    · exact .kept member
  | timer object players dice => exact .kept (endRoll_mem member)
  | join guid =>
    refine .kept ?_
    unfold next step addMember at member
    dsimp only at member
    split at member <;> exact member
  | leave guid players dice =>
    change roll ∈ (removeMember players dice guid state).1.group.rollId at member
    rcases removeMember_case players dice guid numbered with ⟨_, left⟩ | ⟨_, gone⟩
    · rw [left] at member
      obtain ⟨old, oldMember, changed⟩ := List.mem_map.mp member
      exact .left guid old oldMember changed.symm
    · rw [gone] at member
      cases member
  | disband => cases member
  | convertToRaid => exact .kept member
  | setLootThreshold threshold => exact .kept member

end Origin

end DarkCore.Groups
