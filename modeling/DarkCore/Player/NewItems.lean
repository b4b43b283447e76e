/-
Giving a player new items (`Player::CanStoreNewItem`, `Player::StoreNewItem`). A
search may begin with positions that are planned already; an item that is made
for a plan has the amounts of all its positions.
-/

import DarkCore.Player.StoreItem

namespace DarkCore.Player

open Items Lib

section

variable (store : ItemStore) (inventory : Inventory)

/-- The search for `count` items with the positions that `dest` has -/
def searchFrom (request : StoreRequest) (dest : List (Position × Nat)) (noSimilar count : Nat) :
    Answer :=
  match searchRoom store inventory request noSimilar (dest, count) with
  | .error answer => answer
  | .ok plan => ⟨.inventoryFull, plan.1, some ((plan.2 + noSimilar) % 2 ^ 32)⟩

/-- `_CanStoreItem` without an item, with the positions that `dest` has at the call -/
def canStoreNewItem (bag slot : Nat) (dest : List (Position × Nat)) (entry count : Nat) : Answer :=
  let request : StoreRequest :=
    { entry := entry, count := count, source := none, swap := false, bag := bag, slot := slot }
  if !store.known entry then ⟨.itemNotFound, dest, some count⟩
  else
    let limit := canTakeMoreSimilarItems store inventory request
    if limit.1 ≠ .ok ∧ count = limit.2 then ⟨limit.1, dest, some limit.2⟩
    else if limit.1 ≠ .ok then
      searchFrom store inventory request dest limit.2 ((count + (2 ^ 32 - limit.2)) % 2 ^ 32)
    else searchFrom store inventory request dest 0 count

structure Takes (entry : Nat) (position : Position) (amount : Nat) : Prop where
  holds : inventory.Holds store position
  takes : (stacking store).Accepts entry (inventory.getItemByPos store position) amount
  positive : 0 < amount

/-- `StoreNewItem`; the count is kept in 32 bits. -/
def storeNewItem (dest : List (Position × Nat)) (entry : Nat) : Inventory :=
  let count := (dest.map Prod.snd).sum % 2 ^ 32
  if count < 1 then inventory
  else
    storeItem store { inventory with nextGuid := inventory.nextGuid + 1 } dest
      { guid := inventory.nextGuid, entry := entry, count := min count (store.maxStack entry) }

end

/-- A bag that a call may name: none, the player, or a bag slot, which `GetItemByPos` reads -/
def ProperBag (bag : Nat) : Prop := bag = nullBag ∨ bag = inventorySlotBag0 ∨ BagSlot bag

section

variable {store : ItemStore} {inventory : Inventory} {bag slot entry count : Nat}
  {dest : List (Position × Nat)}

theorem suitable_iff_takes (proper : ProperBag bag) (position : Position) (amount : Nat) :
    Suitable store inventory
        { entry := entry, count := count, source := none, swap := false, bag := bag, slot := slot }
        position amount ↔
      Takes store inventory entry position amount := by
  have outside : ∀ other : Position, StoreRequest.OutsideSource inventory
      { entry := entry, count := count, source := none, swap := false, bag := bag, slot := slot }
      other := by
    intro other item _ impossible
    cases impossible
  have seen : StoreRequest.seen store inventory
      { entry := entry, count := count, source := none, swap := false, bag := bag, slot := slot }
      position = inventory.getItemByPos store position := by
    unfold StoreRequest.seen StoreRequest.ignoreSource
    rw [if_neg (fun both => by cases both.2.1)]
    cases inventory.getItemByPos store position with
    | none => rfl
    | some item => rfl
  constructor
  · intro suitable
    refine ⟨suitable.holds ⟨proper, outside _⟩, ?_, suitable.positive⟩
    rw [← seen]
    exact suitable.takes
  · intro takes
    constructor
    · rcases takes.holds with main | ⟨bagSlot, item, present, inside⟩
      · exact Or.inl main
      · exact Or.inr ⟨item, (Inventory.getMain_of_bagSlot bagSlot).trans present, inside⟩
    · rw [seen]
      exact takes.takes
    · exact takes.positive
    · exact Or.inr (outside position)
    · exact takes.holds.imp And.left fun inBag => Or.inr inBag.1

theorem searchFrom_planned (proper : ProperBag bag) {noSimilar left : Nat}
    (small : noSimilar < 2 ^ 32) (more : 0 < left)
    (planned : Planned (Takes store inventory entry) (dest.map Prod.snd).sum dest 0) :
    let answer := searchFrom store inventory
      { entry := entry, count := count, source := none, swap := false, bag := bag, slot := slot }
      dest noSimilar left
    Planned (Takes store inventory entry) (answer.dest.map Prod.snd).sum answer.dest 0 ∧
      (answer.dest.map Prod.snd).sum ≤ (dest.map Prod.snd).sum + left ∧
      (answer.result = .ok →
        (answer.dest.map Prod.snd).sum = (dest.map Prod.snd).sum + left ∧ noSimilar = 0) := by
  have start : Planned (Suitable store inventory
      { entry := entry, count := count, source := none, swap := false, bag := bag, slot := slot })
      ((dest.map Prod.snd).sum + left) ((dest, left) : Plan).1 ((dest, left) : Plan).2 :=
    { distinct := planned.distinct
      good := fun position amount member =>
        (suitable_iff_takes proper position amount).mpr (planned.good position amount member)
      sum := rfl }
  have restrict : ∀ {total rest : Nat} {plan : List (Position × Nat)},
      Planned (Suitable store inventory
        { entry := entry, count := count, source := none, swap := false, bag := bag
          slot := slot }) total plan rest →
      Planned (Takes store inventory entry) (plan.map Prod.snd).sum plan 0 := by
    intro total rest plan plans
    exact
      { distinct := plans.distinct
        good := fun position amount member =>
          (suitable_iff_takes proper position amount).mp (plans.good position amount member)
        sum := Nat.add_zero _ }
  have sound := searchRoom_sound small more start
  intro answer
  change Planned (Takes store inventory entry)
      ((searchFrom store inventory _ dest noSimilar left).dest.map Prod.snd).sum
      (searchFrom store inventory _ dest noSimilar left).dest 0 ∧
    ((searchFrom store inventory _ dest noSimilar left).dest.map Prod.snd).sum ≤
      (dest.map Prod.snd).sum + left ∧
    ((searchFrom store inventory _ dest noSimilar left).result = .ok →
      ((searchFrom store inventory _ dest noSimilar left).dest.map Prod.snd).sum =
        (dest.map Prod.snd).sum + left ∧ noSimilar = 0)
  unfold searchFrom
  cases searched : searchRoom store inventory
      { entry := entry, count := count, source := none, swap := false, bag := bag, slot := slot }
      noSimilar (dest, left) with
  | error answer =>
    rw [searched] at sound
    obtain ⟨rest, plans, ended, -⟩ := sound
    have sum := plans.sum
    refine ⟨restrict plans, Nat.le_of_add_right_le (le_of_eq sum), fun accepted => ?_⟩
    obtain ⟨nothing, unlimited⟩ := ended accepted
    rw [nothing, Nat.add_zero] at sum
    exact ⟨sum, unlimited⟩
  | ok plan =>
    rw [searched] at sound
    refine ⟨restrict sound.2, Nat.le_of_add_right_le (le_of_eq sound.2.sum), fun accepted => ?_⟩
    cases accepted

def searchable (store : ItemStore) (inventory : Inventory) (entry count : Nat) : Nat :=
  let limit := canTakeMoreSimilarItems store inventory
    { entry := entry, count := count, source := none, swap := false, bag := nullBag
      slot := nullSlot }
  if limit.1 ≠ .ok then (count + (2 ^ 32 - limit.2)) % 2 ^ 32 else count

theorem canStoreNewItem_planned (proper : ProperBag bag) (positive : 0 < count)
    (small : count < 2 ^ 32)
    (planned : Planned (Takes store inventory entry) (dest.map Prod.snd).sum dest 0) :
    let answer := canStoreNewItem store inventory bag slot dest entry count
    Planned (Takes store inventory entry) (answer.dest.map Prod.snd).sum answer.dest 0 ∧
      (answer.dest.map Prod.snd).sum ≤
        (dest.map Prod.snd).sum + searchable store inventory entry count ∧
      (answer.result = .ok → (answer.dest.map Prod.snd).sum = (dest.map Prod.snd).sum + count ∧
          searchable store inventory entry count = count) := by
  have refused : (canTakeMoreSimilarItems store inventory
      { entry := entry, count := count, source := none, swap := false, bag := bag
        slot := slot }).2 < 2 ^ 32 :=
    (canTakeMoreSimilarItems_refused store inventory small).1
  have same : searchable store inventory entry count =
      let limit := canTakeMoreSimilarItems store inventory
        { entry := entry, count := count, source := none, swap := false, bag := bag
          slot := slot }
      if limit.1 ≠ .ok then (count + (2 ^ 32 - limit.2)) % 2 ^ 32 else count :=
    rfl
  unfold canStoreNewItem
  split
  · exact ⟨planned, Nat.le_add_right _ _, fun accepted => by cases accepted⟩
  · dsimp only at same ⊢
    generalize canTakeMoreSimilarItems store inventory _ = limit at refused same ⊢
    split
    · simp_all
    · rename_i partly
      split
      · rename_i limited
        have unequal : count ≠ limit.2 := fun same => partly ⟨limited, same⟩
        rw [if_pos limited] at same
        have searched := @searchFrom_planned store inventory bag slot entry count dest proper
          limit.2 ((count + (2 ^ 32 - limit.2)) % 2 ^ 32) refused (by omega) planned
        rw [same]
        refine ⟨searched.1, searched.2.1, fun accepted => ?_⟩
        obtain ⟨sum, unlimited⟩ := searched.2.2 accepted
        rw [sum, unlimited]
        omega
      · rename_i unlimited
        rw [if_neg unlimited] at same
        have searched := @searchFrom_planned store inventory bag slot entry count dest proper
          0 count (by decide) positive planned
        rw [same]
        exact ⟨searched.1, searched.2.1, fun accepted => ⟨(searched.2.2 accepted).1, rfl⟩⟩

def Gains (store : ItemStore) (before after : Inventory) (gain : Nat → Nat) : Prop :=
  ∃ places : Finset Place, ∀ support, places ⊆ support → ∀ kind,
    (stacking store).total support after.slots kind =
      (stacking store).total support before.slots kind + gain kind

variable {before middle after : Inventory} {gain other : Nat → Nat}

theorem Gains.refl (inventory : Inventory) : Gains store inventory inventory fun _ => 0 :=
  ⟨∅, fun _ _ _ => rfl⟩

theorem Gains.trans (first : Gains store before middle gain)
    (second : Gains store middle after other) :
    Gains store before after fun kind => gain kind + other kind := by
  obtain ⟨places, gained⟩ := first
  obtain ⟨places', gained'⟩ := second
  refine ⟨places ∪ places', fun support inside kind => ?_⟩
  obtain ⟨first, second⟩ := Finset.union_subset_iff.mp inside
  rw [gained' support second, gained support first, Nat.add_assoc]

theorem Gains.unique (first : Gains store before after gain)
    (second : Gains store before after other) : gain = other := by
  obtain ⟨places, gained⟩ := first
  obtain ⟨places', gained'⟩ := second
  funext kind
  have one := gained (places ∪ places') Finset.subset_union_left kind
  have two := gained' (places ∪ places') Finset.subset_union_right kind
  omega

theorem storeNewItem_gains
    (coherent : Coherent (stacking store) inventory.slots inventory.nextGuid)
    (planned : Planned (Takes store inventory entry) (dest.map Prod.snd).sum dest 0)
    (positive : 0 < (dest.map Prod.snd).sum) (small : (dest.map Prod.snd).sum < 2 ^ 32) :
    let after := storeNewItem store inventory dest entry
    Coherent (stacking store) after.slots after.nextGuid ∧
      Gains store inventory after fun kind =>
        if entry = kind then (dest.map Prod.snd).sum else 0 := by
  have some_item : ¬ (dest.map Prod.snd).sum % 2 ^ 32 < 1 := by
    omega
  let next : Inventory := { inventory with nextGuid := inventory.nextGuid + 1 }
  let item : Item :=
    { guid := inventory.nextGuid, entry := entry
      count := min ((dest.map Prod.snd).sum % 2 ^ 32) (store.maxStack entry) }
  have unfolded : storeNewItem store inventory dest entry = storeItem store next dest item :=
    if_neg some_item
  have nextCoherent : Coherent (stacking store) next.slots next.nextGuid :=
    { bounded := coherent.bounded
      distinct := coherent.distinct
      fresh := fun place resident present =>
        Nat.lt_succ_of_lt (coherent.fresh place resident present) }
  have storable : Storable store next item.entry dest :=
    { distinct := planned.distinct
      holds := fun position amount member => (planned.good position amount member).holds
      takes := fun position amount member => (planned.good position amount member).takes
      positive := fun position amount member => (planned.good position amount member).positive }
  have stored := storeItem_stored storable nextCoherent (Nat.lt_succ_self _)
    fun place resident present => Nat.ne_of_lt (coherent.fresh place resident present)
  rw [unfolded]
  refine ⟨stored.coherent, (dest.map fun planned => next.placeOf planned.1).toFinset, ?_⟩
  intro support inside kind
  exact stored.total storable nextCoherent (fun position amount member =>
    inside (List.mem_toFinset.mpr (List.mem_map.mpr ⟨(position, amount), member, rfl⟩))) kind

end

end DarkCore.Player
