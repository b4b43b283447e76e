/-
The block that a roll puts on its item. Every blocked item belongs to one roll,
and the end of a roll releases the item if nobody wants it or if the winner is
there to receive it. A winner who is offline, a GREED tally without a voter and
a group that disbands leave the item blocked for good.
-/

import DarkCore.Groups.RollWinner

namespace DarkCore.Groups

open Lib

/-! ### Blocked items -/

def Roll.about (object slot : Nat) (roll : Roll) : Bool :=
  roll.loot == some object && roll.itemSlot == slot

def State.Covered (state : State) : Prop :=
  ∀ object slot item, state.lootItem object slot = some item →
    item.isBlocked = true → item.isLooted = false →
      state.group.rollId.countP (Roll.about object slot) = 1

def Roll.Names (dice : Dice) (counts : RollVote → Bool) (roll : Roll) (guid : Nat) : Prop :=
  (∃ vote, roll.Leads dice counts guid vote) ∨
    (roll.playerVote.countWhere counts = 0 ∧
      (roll.playerVote.entries.head?.map Prod.fst) = some guid)

def Roll.Releases (players : Players) (dice : Dice) (roll : Roll) : Prop :=
  (roll.totalNeed = 0 ∧ roll.totalGreed = 0) ∨
    (0 < roll.totalNeed ∧ ∃ guid, roll.Names dice countsAsNeed guid ∧ players.online guid = true) ∨
    (roll.totalNeed = 0 ∧ 0 < roll.totalGreed ∧
      ∃ guid vote, roll.Leads dice countsAsGreed guid vote ∧ players.online guid = true)

def Releasing (state : State) : Step → Prop
  | .vote guid itemGUID choice players dice =>
    ∀ index roll, guid ∈ state.group.memberSlots →
      votableRoll state guid itemGUID = some (index, roll) →
        (roll.choose guid choice).decided = true →
          (roll.choose guid choice).Releases players dice
  | .timer object players dice =>
    ∀ roll ∈ state.group.rollId, roll.loot = some object → roll.Releases players dice
  | .leave _ _ _ =>
    state.group.staysWithout = true ∨ ∀ roll ∈ state.group.rollId, roll.loot = none
  | .disband => ∀ roll ∈ state.group.rollId, roll.loot = none
  | _ => True

/-! ### Items of a loot -/

section Items

variable {state : State} {object slot : Nat}

theorem lootItem_setItem (change : LootItem → LootItem) :
    (state.setItem object slot change).lootItem object slot =
      (state.lootItem object slot).map change := by
  unfold State.setItem State.lootItem
  dsimp only
  rw [Function.update_self]
  cases state.loots object with
  | none => rfl
  | some loot => exact List.getElem?_modify_eq change slot loot.items

theorem lootItem_setItem_other (change : LootItem → LootItem) {object' slot' : Nat}
    (other : ¬ (object' = object ∧ slot' = slot)) :
    (state.setItem object slot change).lootItem object' slot' =
      state.lootItem object' slot' := by
  unfold State.setItem State.lootItem
  dsimp only
  by_cases same : object' = object
  · rw [same, Function.update_self]
    cases state.loots object with
    | none => rfl
    | some loot =>
      exact List.getElem?_modify_ne change loot.items fun slots => other ⟨same, slots.symm⟩
  · rw [Function.update_of_ne same]

theorem setItem_loot {change : LootItem → LootItem} {object' : Nat} {loot : Loot}
    (there : (state.setItem object slot change).loots object' = some loot) :
    ∃ before, state.loots object' = some before ∧ before.lootForBody = loot.lootForBody ∧
      ∀ item ∈ loot.items, ∃ old ∈ before.items, item = old ∨ item = change old := by
  unfold State.setItem at there
  dsimp only at there
  by_cases same : object' = object
  · rw [same, Function.update_self, Option.map_eq_some_iff] at there
    obtain ⟨before, found, changed⟩ := there
    refine ⟨before, same ▸ found, changed ▸ rfl, ?_⟩
    intro item member
    rw [← changed] at member
    obtain ⟨index, atIndex⟩ := List.getElem?_of_mem member
    by_cases here : slot = index
    · rw [here, List.getElem?_modify_eq] at atIndex
      obtain ⟨old, oldThere, new⟩ := Option.map_eq_some_iff.mp atIndex
      exact ⟨old, List.mem_of_getElem? oldThere, Or.inr new.symm⟩
    · grind
  · grind

end Items

/-! ### The end of a roll and its item -/

section Release

variable {players : Players} {dice : Dice} {roll : Roll} {object : Nat} {state : State}

theorem rollWinner_case (dice : Dice) (counts : RollVote → Bool) (roll : Roll) :
    rollWinner dice roll counts = none ∨
      (∃ guid vote, roll.Leads dice counts guid vote ∧
        rollWinner dice roll counts = some ⟨guid, randomN dice roll guid, vote⟩) ∨
      (roll.playerVote.countWhere counts = 0 ∧
        ∃ guid, roll.playerVote.entries.head?.map Prod.fst = some guid ∧
          rollWinner dice roll counts = some ⟨guid, 0, .notValid⟩) := by
  by_cases nobody : roll.playerVote.entries = []
  · exact Or.inl (rollWinner_nobody nobody)
  · rcases Nat.eq_zero_or_pos (roll.playerVote.countWhere counts) with none | voters
    · exact Or.inr (Or.inr ⟨none, rollWinner_guess none nobody⟩)
    · exact Or.inr (Or.inl (rollWinner_leads voters))

variable {counts : RollVote → Bool}

theorem Roll.Leads.unique {guid other : Nat} {vote vote' : RollVote}
    (first : roll.Leads dice counts guid vote) (second : roll.Leads dice counts other vote') :
    guid = other := by
  have same : randomN dice roll guid = randomN dice roll other :=
    Nat.le_antisymm (second.highest _ first.voted first.counted)
      (first.highest _ second.voted second.counted)
  apply Nat.le_antisymm
  · exact first.first _ second.voted second.counted same.symm
  · exact second.first _ first.voted first.counted same

theorem Roll.Leads.voters {guid : Nat} {vote : RollVote}
    (leads : roll.Leads dice counts guid vote) : roll.playerVote.countWhere counts ≠ 0 :=
  (countWhere_pos.mpr ⟨_, leads.voted, leads.counted⟩).ne'

theorem rollWinner_names {guid : Nat}
    (named : roll.Names dice counts guid) :
    ∃ best, rollWinner dice roll counts = some best ∧ best.maxguid = guid := by
  rcases rollWinner_case dice counts roll with
    none | ⟨other, vote, leads, found⟩ | ⟨noVoters, other, head, found⟩
  · have nobody : roll.playerVote.entries = [] := by
      grind [rollWinner]
    rcases named with ⟨vote, leads⟩ | ⟨_, head⟩
    · exact absurd (nobody ▸ leads.voted) List.not_mem_nil
    · simp_all
  · refine ⟨_, found, ?_⟩
    rcases named with ⟨vote', leads'⟩ | ⟨noVoters, _⟩
    · exact leads.unique leads'
    · exact absurd noVoters leads.voters
  · refine ⟨_, found, ?_⟩
    rcases named with ⟨vote', leads'⟩ | ⟨_, head'⟩
    · exact absurd noVoters leads'.voters
    · exact Option.some_inj.mp (head.symm.trans head')

theorem settleRoll_releases (releases : roll.Releases players dice) :
    ∃ change, (change = LootItem.looted ∨ change = LootItem.unblocked) ∧
      (settleRoll players dice roll object state).1 =
        state.setItem object roll.itemSlot change := by
  unfold settleRoll
  rcases releases with ⟨noNeed, noGreed⟩ | ⟨needed, guid, named, online⟩ |
    ⟨noNeed, greedy, guid, vote, leads, online⟩
  · simp_all
  · obtain ⟨best, found, winner⟩ := rollWinner_names named
    rw [if_pos needed, found]
    dsimp only
    rw [winner, if_pos online]
    exact handOut_case players roll object guid state
  · obtain ⟨other, vote', leads', found⟩ := @rollWinner_leads countsAsGreed dice roll
      (Nat.pos_of_ne_zero leads.voters)
    rw [if_neg (Nat.not_lt.mpr (Nat.le_of_eq noNeed)), if_pos greedy, found]
    dsimp only
    rw [leads'.unique leads, if_pos online]
    have counted := leads'.counted
    cases vote' with
    | greed => exact handOut_case players roll object guid state
    | disenchant => exact ⟨LootItem.looted, Or.inl rfl, rfl⟩
    | _ => cases counted

end Release

/-! ### The invariant -/

structure State.Guarded (state : State) : Prop where
  numbered : state.Numbered
  covered : ∀ object slot item, state.lootItem object slot = some item →
    item.isBlocked = true → item.isLooted = false →
      ∃ roll ∈ state.group.rollId, roll.about object slot = true
  distinct : state.group.rollId.Pairwise fun first second =>
    ∀ object slot, first.about object slot = true → second.about object slot = false
  opened : ∀ roll ∈ state.group.rollId, ∀ object, roll.loot = some object →
    ∃ loot, state.loots object = some loot ∧ loot.lootForBody = true
  closed : ∀ object loot, state.loots object = some loot → loot.lootForBody = false →
    ∀ item ∈ loot.items, item.isBlocked = false

section Guarded

variable {players : Players} {dice : Dice} {state : State}

variable {object : Nat}

theorem about_iff {slot : Nat} {roll : Roll} :
    roll.about object slot = true ↔ roll.loot = some object ∧ roll.itemSlot = slot := by
  unfold Roll.about
  rw [Bool.and_eq_true, beq_iff_eq, beq_iff_eq]

theorem initial_guarded (lootThreshold : Nat) (isRaidGroup isBGGroup : Bool)
    (nextItemGuid : Nat) :
    (State.initial lootThreshold isRaidGroup isBGGroup nextItemGuid).Guarded where
  numbered := initial_numbered lootThreshold isRaidGroup isBGGroup nextItemGuid
  covered := by
    intro object slot item there
    cases there
  distinct := List.Pairwise.nil
  opened := by
    intro roll member
    cases member
  closed := by
    intro object loot there
    cases there

theorem countP_le_one {test : Roll → Bool} {rolls : List Roll}
    (apart : rolls.Pairwise fun first second => test first = true → test second = false) :
    rolls.countP test ≤ 1 := by
  induction rolls with
  | nil => exact Nat.zero_le 1
  | cons roll rest ih =>
    obtain ⟨fromRoll, restApart⟩ := List.pairwise_cons.mp apart
    rw [List.countP_cons]
    split
    · rename_i tested
      have none : rest.countP test = 0 := by
        simp_all
      rw [none]
    · exact ih restApart

theorem State.Guarded.once (guarded : state.Guarded) : state.Covered := by
  intro object slot item there blocked unlooted
  obtain ⟨roll, member, about⟩ := guarded.covered object slot item there blocked unlooted
  apply Nat.le_antisymm
  · exact countP_le_one (guarded.distinct.imp fun apart => apart object slot)
  · exact List.countP_pos_iff.mpr ⟨roll, member, about⟩

def Frees (change : LootItem → LootItem) : Prop :=
  ∀ item, ((change item).isBlocked = true → item.isBlocked = true) ∧
    ((change item).isLooted = false → item.isLooted = false)

theorem frees_looted : Frees LootItem.looted := by
  intro item
  exact ⟨id, fun unlooted => absurd unlooted Bool.noConfusion⟩

theorem frees_unblocked : Frees LootItem.unblocked := by
  intro item
  exact ⟨fun blocked => absurd blocked Bool.noConfusion, id⟩

theorem setItem_guarded {slot : Nat} {change : LootItem → LootItem}
    (guarded : state.Guarded) (frees : Frees change) :
    (state.setItem object slot change).Guarded where
  numbered := guarded.numbered.same rfl rfl rfl
  covered := by
    intro place position item there blocked unlooted
    by_cases here : place = object ∧ position = slot
    · rw [here.1, here.2, lootItem_setItem] at there
      obtain ⟨old, oldThere, changed⟩ := Option.map_eq_some_iff.mp there
      rw [← changed] at blocked unlooted
      rw [here.1, here.2]
      exact guarded.covered object slot old oldThere ((frees old).1 blocked)
        ((frees old).2 unlooted)
    · rw [lootItem_setItem_other change here] at there
      exact guarded.covered place position item there blocked unlooted
  distinct := guarded.distinct
  opened := by
    intro roll member place linked
    obtain ⟨loot, there, applied⟩ := guarded.opened roll member place linked
    unfold State.setItem
    dsimp only
    by_cases same : place = object <;> simp_all
  closed := by
    intro place loot there unopened item member
    obtain ⟨before, beforeThere, same, items⟩ := setItem_loot there
    obtain ⟨old, oldMember, kept | changed⟩ := items item member
    · rw [kept]
      exact guarded.closed place before beforeThere (same.trans unopened) old oldMember
    · have free := guarded.closed place before beforeThere (same.trans unopened) old oldMember
      rw [changed, Bool.eq_false_iff]
      intro blocked
      exact absurd ((frees old).1 blocked) (Bool.eq_false_iff.mp free)

def Roll.subject (roll : Roll) : Option Nat × Nat := (roll.loot, roll.itemSlot)

theorem about_subject {first second : Roll} (same : first.subject = second.subject)
    (object slot : Nat) : first.about object slot = second.about object slot := by
  obtain ⟨loot, place⟩ := Prod.mk.inj same
  unfold Roll.about
  rw [loot, place]

theorem State.Guarded.sameSubjects {after : State} (guarded : state.Guarded)
    (numbered : after.Numbered) (loots : after.loots = state.loots)
    (subjects : after.group.rollId.map Roll.subject = state.group.rollId.map Roll.subject) :
    after.Guarded where
  numbered := numbered
  covered := by
    intro object slot item there blocked unlooted
    unfold State.lootItem at there
    rw [loots] at there
    obtain ⟨roll, member, about⟩ := guarded.covered object slot item there blocked unlooted
    have mapped : roll.subject ∈ after.group.rollId.map Roll.subject := by
      grind
    obtain ⟨other, otherMember, same⟩ := List.mem_map.mp mapped
    exact ⟨other, otherMember, (about_subject same object slot).trans about⟩
  distinct := by
    have apart : (after.group.rollId.map Roll.subject).Pairwise fun first second =>
        first.1 = none ∨ first ≠ second := by
      rw [subjects, List.pairwise_map]
      apply guarded.distinct.imp
      intro first second separate
      cases linked : first.loot with
      | none => exact Or.inl linked
      | some object =>
        refine Or.inr fun same => ?_
        have about := separate object first.itemSlot (about_iff.mpr ⟨linked, rfl⟩)
        rw [← about_subject same, about_iff.mpr ⟨linked, rfl⟩] at about
        cases about
    rw [List.pairwise_map] at apart
    apply apart.imp
    intro first second separate object slot about
    obtain ⟨linked, place⟩ := about_iff.mp about
    rcases separate with unlinked | different
    · cases unlinked.symm.trans linked
    · rw [Bool.eq_false_iff]
      intro aboutSecond
      obtain ⟨linked', place'⟩ := about_iff.mp aboutSecond
      apply different
      unfold Roll.subject
      rw [linked, linked', place, place']
  opened := by
    intro roll member object linked
    have mapped : roll.subject ∈ state.group.rollId.map Roll.subject := by
      grind
    obtain ⟨other, otherMember, same⟩ := List.mem_map.mp mapped
    rw [loots]
    exact guarded.opened other otherMember object ((congrArg Prod.fst same).trans linked)
  closed := by
    rw [loots]
    exact guarded.closed

theorem eraseRoll_guarded {index : Nat} {roll : Roll} (guarded : state.Guarded)
    (there : state.group.rollId[index]? = some roll)
    (released : ∀ object item, roll.loot = some object →
      state.lootItem object roll.itemSlot = some item →
        item.isBlocked = true → item.isLooted = false → False) :
    (state.eraseRoll index).Guarded where
  numbered := by
    apply guarded.numbered.fewer
    · exact List.Sublist.refl _
    · exact (List.eraseIdx_sublist _ _).map _
    · rfl
  covered := by
    intro object slot item itemThere blocked unlooted
    obtain ⟨other, member, about⟩ := guarded.covered object slot item itemThere blocked unlooted
    obtain ⟨position, atPosition⟩ := List.getElem?_of_mem member
    refine ⟨other, ?_, about⟩
    apply List.mem_eraseIdx_iff_getElem?.mpr
    refine ⟨position, ?_, atPosition⟩
    rintro rfl
    rw [there] at atPosition
    cases atPosition
    obtain ⟨linked, place⟩ := about_iff.mp about
    exact released object item linked (place ▸ itemThere) blocked unlooted
  distinct := guarded.distinct.sublist (List.eraseIdx_sublist _ _)
  opened := by
    intro other member
    exact guarded.opened other (List.mem_of_mem_eraseIdx member)
  closed := guarded.closed

theorem countTheRoll_guarded {index : Nat} {roll : Roll} (guarded : state.Guarded)
    (there : state.group.rollId[index]? = some roll)
    (releases : roll.loot ≠ none → roll.Releases players dice) :
    (countTheRoll players dice index state).1.Guarded := by
  rcases countTheRoll_case there with ⟨unlinked, gone⟩ | ⟨object, linked, settled⟩
  · rw [gone]
    apply eraseRoll_guarded guarded there
    intro object item linked
    cases unlinked.symm.trans linked
  · rw [settled]
    obtain ⟨change, freed, changed⟩ :=
      @settleRoll_releases players dice roll object state
        (releases (linked ▸ Option.some_ne_none object))
    rw [changed]
    have frees : Frees change := by
      rcases freed with rfl | rfl
      · exact frees_looted
      · exact frees_unblocked
    refine @eraseRoll_guarded _ index roll (setItem_guarded guarded frees) there ?_
    intro place item linked' itemThere blocked unlooted
    rw [← Option.some_inj.mp (linked.symm.trans linked'), lootItem_setItem] at itemThere
    obtain ⟨old, _, new⟩ := Option.map_eq_some_iff.mp itemThere
    rw [← new] at blocked unlooted
    rcases freed with rfl | rfl
    · cases unlooted
    · cases blocked

/-! ### Steps -/

theorem clearLoot_guarded (object : Nat) (guarded : state.Guarded) :
    (clearLoot object state).Guarded where
  numbered := clearLoot_numbered object guarded.numbered
  covered := by
    intro place slot item there blocked unlooted
    unfold State.lootItem clearLoot at there
    dsimp only at there
    by_cases same : place = object
    · simp_all
    · rw [Function.update_of_ne same] at there
      obtain ⟨roll, member, about⟩ := guarded.covered place slot item there blocked unlooted
      refine ⟨roll, List.mem_map.mpr ⟨roll, member, if_neg ?_⟩, about⟩
      intro linked
      exact same (Option.some_inj.mp ((about_iff.mp about).1.symm.trans linked))
  distinct := by
    refine List.pairwise_map.mpr (guarded.distinct.imp ?_)
    intro first second apart place slot about
    split at about
    · cases (about_iff.mp about).1
    · split
      · rfl
      · exact apart place slot about
  opened := by
    intro roll member place linked
    obtain ⟨old, oldMember, cut⟩ := List.mem_map.mp member
    split at cut
    · grind
    · rename_i other
      rw [← cut] at linked
      have different : place ≠ object := fun same => other (same ▸ linked)
      unfold clearLoot
      dsimp only
      rw [Function.update_of_ne different]
      exact guarded.opened old oldMember place linked
  closed := by
    intro place loot there
    unfold clearLoot at there
    dsimp only at there
    by_cases same : place = object
    · simp_all
    · rw [Function.update_of_ne same] at there
      exact guarded.closed place loot there

theorem clearLoot_unlinked (object : Nat) :
    ∀ roll ∈ (clearLoot object state).group.rollId, roll.loot ≠ some object := by
  intro roll member linked
  obtain ⟨old, _, cut⟩ := List.mem_map.mp member
  split at cut
  · grind
  · simp_all

theorem newLoot_guarded {loot : Loot} (guarded : state.Guarded)
    (unlinked : ∀ roll ∈ state.group.rollId, roll.loot ≠ some object) (free : ∀ item ∈ loot.items, item.isBlocked = false) :
    { state with loots := Function.update state.loots object (some loot) }.Guarded where
  numbered := guarded.numbered.same rfl rfl rfl
  covered := by
    intro place slot item there blocked unlooted
    unfold State.lootItem at there
    dsimp only at there
    by_cases same : place = object
    · rw [same, Function.update_self] at there
      have unblocked := free item (List.mem_of_getElem? there)
      cases unblocked.symm.trans blocked
    · rw [Function.update_of_ne same] at there
      exact guarded.covered place slot item there blocked unlooted
  distinct := guarded.distinct
  opened := by
    intro roll member place linked
    have different : place ≠ object := fun same => unlinked roll member (same ▸ linked)
    dsimp only
    rw [Function.update_of_ne different]
    exact guarded.opened roll member place linked
  closed := by
    intro place other there
    dsimp only at there
    by_cases same : place = object
    · simp_all
    · rw [Function.update_of_ne same] at there
      exact guarded.closed place other there

theorem fillLoot_guarded (object : Nat) (items : List (Nat × Nat × Bool))
    (guarded : state.Guarded) : (fillLoot object items state).Guarded := by
  apply newLoot_guarded (clearLoot_guarded object guarded) (clearLoot_unlinked object)
  intro item member
  obtain ⟨entry, _, made⟩ := List.mem_map.mp member
  rw [← made]

theorem startRolls_blocked {near : Surroundings} {eligible : LootItem → Nat → Bool}
    {group : Group} {items : List LootItem} {itemSlot nextItemGuid index : Nat}
    {item : LootItem} (free : ∀ item ∈ items, item.isBlocked = false)
    (there :
      (startRolls near eligible group object items itemSlot nextItemGuid).1[index]? = some item)
    (blocked : item.isBlocked = true) :
    ∃ roll ∈ (startRolls near eligible group object items itemSlot nextItemGuid).2.1,
      roll.itemSlot = itemSlot + index := by
  induction items generalizing itemSlot nextItemGuid index with
  | nil => cases there
  | cons head rest ih =>
    have restFree : ∀ item ∈ rest, item.isBlocked = false :=
      fun other member => free other (List.mem_cons_of_mem head member)
    unfold startRolls at there ⊢
    cases index with
    | zero =>
      rcases startRoll_case head itemSlot nextItemGuid with
        ⟨changed, nextGuid, started, _, same⟩ | started
      · rw [started] at there
        cases there
        rw [free head List.mem_cons_self, blocked] at same
        cases same
      · rw [started]
        refine ⟨_, List.mem_cons_self, ?_⟩
        exact (enterAll_keeps (eligible head) group.memberSlots _).2.2
    | succ index =>
      obtain ⟨roll, member, slot⟩ := ih restFree there
      refine ⟨roll, List.mem_append_right _ member, ?_⟩
      rw [slot, Nat.add_right_comm, Nat.add_assoc]

theorem sendLoot_guarded (object : Nat) (needRules : Bool) (near : Surroundings)
    (guarded : state.Guarded) : (sendLoot object needRules near state).Guarded := by
  have numbered := sendLoot_numbered object needRules near guarded.numbered
  obtain ⟨eligible, same | ⟨loot, there, unopened, sent⟩⟩ :=
    sendLoot_case object needRules near state
  · simp_all
  · have unlinked : ∀ roll ∈ state.group.rollId, roll.loot ≠ some object := by
      intro roll member linked
      obtain ⟨other, otherThere, applied⟩ := guarded.opened roll member object linked
      cases there.symm.trans otherThere
      cases unopened.symm.trans applied
    rw [sent] at numbered ⊢
    constructor
    · exact numbered
    · intro place slot item itemThere blocked unlooted
      unfold State.lootItem at itemThere
      dsimp only at itemThere ⊢
      by_cases here : place = object
      · rw [here, Function.update_self] at itemThere
        obtain ⟨roll, member, position⟩ :=
          startRolls_blocked (guarded.closed object loot there unopened) itemThere blocked
        rw [Nat.zero_add] at position
        exact ⟨roll, List.mem_append_right _ member,
          about_iff.mpr ⟨here ▸ (startRolls_mem member).1, position⟩⟩
      · rw [Function.update_of_ne here] at itemThere
        obtain ⟨roll, member, about⟩ :=
          guarded.covered place slot item itemThere blocked unlooted
        exact ⟨roll, List.mem_append_left _ member, about⟩
    · refine List.pairwise_append.mpr ⟨guarded.distinct, ?_, ?_⟩
      · apply startRolls_distinct.imp
        intro first second apart place slot about
        rw [Bool.eq_false_iff]
        intro aboutSecond
        exact apart.2 ((about_iff.mp about).2.trans (about_iff.mp aboutSecond).2.symm)
      · intro old oldMember new newMember place slot about
        rw [Bool.eq_false_iff]
        intro aboutNew
        have linked := (about_iff.mp aboutNew).1
        rw [(startRolls_mem newMember).1] at linked
        exact unlinked old oldMember ((about_iff.mp about).1.trans linked.symm)
    · intro roll member place linked
      dsimp only
      by_cases here : place = object
      · simp [here, Function.update_self]
      · rw [Function.update_of_ne here]
        rcases List.mem_append.mp member with old | new
        · exact guarded.opened roll old place linked
        · exact absurd (Option.some_inj.mp (linked.symm.trans (startRolls_mem new).1)) here
    · intro place other otherThere
      dsimp only at otherThere
      by_cases here : place = object
      · grind
      · rw [Function.update_of_ne here] at otherThere
        exact guarded.closed place other otherThere

theorem disband_guarded (guarded : state.Guarded)
    (unlinked : ∀ roll ∈ state.group.rollId, roll.loot = none) : (disband state).Guarded where
  numbered := disband_numbered guarded.numbered
  covered := by
    intro object slot item there blocked unlooted
    obtain ⟨roll, member, about⟩ := guarded.covered object slot item there blocked unlooted
    cases (unlinked roll member).symm.trans (about_iff.mp about).1
  distinct := List.Pairwise.nil
  opened := by
    intro roll member
    cases member
  closed := guarded.closed

theorem setRoll_guarded {index : Nat} {roll : Roll} (guarded : state.Guarded)
    (there : state.group.rollId[index]? = some roll) (guid choice : Nat) :
    (state.setRoll index (roll.choose guid choice)).Guarded := by
  obtain ⟨sameGuid, sameLoot, sameSlot, _⟩ := choose_keeps roll guid choice
  apply guarded.sameSubjects (setRoll_numbered guarded.numbered there sameGuid) rfl
  exact setRoll_map there (Prod.ext sameLoot sameSlot)

theorem leave_guarded (guid : Nat) (guarded : state.Guarded)
    (releasing : Releasing state (.leave guid players dice)) :
    (removeMember players dice guid state).1.Guarded := by
  have numbered := removeMember_numbered players dice guid guarded.numbered
  rcases removeMember_case players dice guid guarded.numbered with ⟨_, left⟩ | ⟨small, gone⟩
  · rw [left] at numbered ⊢
    apply guarded.sameSubjects numbered rfl
    rw [List.map_map]
    apply List.map_congr_left
    intro roll _
    obtain ⟨_, sameLoot, sameSlot⟩ := without_keeps guid roll
    exact Prod.ext sameLoot sameSlot
  · rw [gone]
    rcases releasing with stays | unlinked
    · cases small.symm.trans stays
    · exact disband_guarded guarded unlinked

theorem addMember_keeps (guid : Nat) (state : State) :
    (addMember guid state).group.rollId = state.group.rollId ∧
      (addMember guid state).loots = state.loots := by
  unfold addMember
  split <;> exact ⟨rfl, rfl⟩

theorem vote_guarded {guid itemGUID choice : Nat} (guarded : state.Guarded)
    (releases : ∀ index roll, votableRoll state guid itemGUID = some (index, roll) →
      (roll.choose guid choice).decided = true → (roll.choose guid choice).Releases players dice) :
    (countRollVote players dice guid itemGUID choice state).1.Guarded := by
  rcases countRollVote_case players dice guid itemGUID choice state with
    ⟨_, ignored⟩ | ⟨index, roll, votable, counted⟩
  · simp_all
  · obtain ⟨there, _⟩ := votableRoll_some votable
    have recorded := setRoll_guarded guarded there guid choice
    rcases counted with ⟨_, stays⟩ | ⟨decided, ends⟩
    · simp_all
    · rw [ends]
      exact countTheRoll_guarded recorded (setRoll_there there _)
        fun _ => releases index roll votable decided

theorem timer_guarded (guarded : state.Guarded)
    (releases : ∀ roll ∈ state.group.rollId, roll.loot = some object → roll.Releases players dice) :
    (endRoll players dice object state).1.Guarded := by
  refine (@endRoll_induction players dice state (fun later => later.Guarded ∧
    ∀ roll ∈ later.group.rollId, roll.loot = some object → roll.Releases players dice)
    object ?_ ⟨guarded, releases⟩).1
  intro later index roll there linked ⟨laterGuarded, laterReleases⟩
  constructor
  · exact countTheRoll_guarded laterGuarded there
      fun _ => laterReleases roll (List.mem_of_getElem? there) linked
  · intro other member
    exact laterReleases other (countTheRoll_mem there member)

theorem next_guarded (state : State) (action : Step) (guarded : state.Guarded)
    (releasing : Releasing state action) : (next state action).Guarded := by
  cases action with
  | fill object items => exact fillLoot_guarded object items guarded
  | clear object => exact clearLoot_guarded object guarded
  | «open» object needRules near => exact sendLoot_guarded object needRules near guarded
  | take object slot =>
    unfold next step storeLootItem
    dsimp only
    split
    · exact guarded
    · split
      · exact guarded
      · split
        · exact guarded
        · exact setItem_guarded guarded frees_looted
  | vote guid itemGUID choice players dice =>
    unfold next step
    dsimp only
    split
    · rename_i voter
      apply vote_guarded guarded
      intro index roll votable decided
      exact releasing index roll voter votable decided
    · exact guarded
  | timer object players dice => exact timer_guarded guarded releasing
  | join guid =>
    obtain ⟨rolls, loots⟩ := addMember_keeps guid state
    exact guarded.sameSubjects (addMember_numbered guid guarded.numbered) loots
      (congrArg (List.map Roll.subject) rolls)
  | leave guid players dice => exact leave_guarded guid guarded releasing
  | disband => exact disband_guarded guarded releasing
  | convertToRaid => exact guarded.sameSubjects (guarded.numbered.same rfl rfl rfl) rfl rfl
  | setLootThreshold threshold =>
    exact guarded.sameSubjects (guarded.numbered.same rfl rfl rfl) rfl rfl

end Guarded

/-- When every roll that ends releases its item, a blocked item always has its one roll. -/
theorem blocks_stay_covered (lootThreshold : Nat) (isRaidGroup isBGGroup : Bool)
    (nextItemGuid : Nat) (actions : List Step)
    (releasing : Along next Releasing
      (State.initial lootThreshold isRaidGroup isBGGroup nextItemGuid) actions) :
    Always next State.Covered (State.initial lootThreshold isRaidGroup isBGGroup nextItemGuid)
      actions := by
  have start := initial_guarded lootThreshold isRaidGroup isBGGroup nextItemGuid
  apply (always_of_step next_guarded start releasing).imp
  intro state guarded
  exact guarded.once

/-- Everybody passes, with all players online. -/
theorem blocks_stay_covered_opening :
    Always next State.Covered (State.initial 2 false false 100)
      (opening ++ [.vote 1 100 0 allOnline lowDice, .vote 2 100 0 allOnline lowDice,
        .vote 3 100 0 allOnline lowDice]) := by
  apply blocks_stay_covered
  refine ⟨trivial, trivial, trivial, trivial, trivial, ?_, ?_, ?_, trivial⟩
  · intro index roll _ votable decided
    cases votable
    cases decided
  · intro index roll _ votable decided
    cases votable
    cases decided
  · intro index roll _ votable _
    cases votable
    exact Or.inl ⟨rfl, rfl⟩

def allOffline : Players where
  online := fun _ => false
  canStoreNewItem := fun _ _ _ => true

/-- The only player who needs is gone when the timer ends the roll: the item stays blocked and no
roll is left for it. -/
theorem offline_winner_blocks :
    ¬ Always next State.Covered (State.initial 2 false false 100)
      (opening ++ [.vote 1 100 1 allOnline lowDice, .timer 7 allOffline lowDice]) := by
  rintro ⟨_, _, _, _, _, _, _, covered⟩
  exact absurd (covered 7 0 _ rfl rfl rfl) (by decide)

end DarkCore.Groups
