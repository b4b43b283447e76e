/-
Loot that goes straight into the inventory (`Player::AutoStoreLoot`). The three
attempts to place an item write to one list of positions, and a failed attempt
leaves there what it has planned.

The loot and the inventory are the ones that `FillLoot` leaves.
-/

import DarkCore.Looting.Loot
import DarkCore.Player.NewItems

namespace DarkCore.Looting

open Items Lib
open Player (Position Answer Inventory stacking canStoreNewItem storeNewItem nullBag nullSlot)

structure Attempt where
  leftover : List (Position × Nat)
  answer : Answer

section

variable (store : ItemStore) (inventory : Inventory) (item : LootItem)

def attempt (hint : Position) (leftover : List (Position × Nat)) : Attempt :=
  ⟨leftover, canStoreNewItem store inventory hint.1 hint.2 leftover item.itemid item.count⟩

def Attempt.orElse (names : Prop) [Decidable names] (hint : Position) (failed : Attempt) :
    Attempt :=
  if failed.answer.result ≠ .ok ∧ names then
    attempt store inventory item hint failed.answer.dest
  else failed

def tryStore (hint : Position) : Attempt :=
  ((attempt store inventory item hint []).orElse store inventory item
      (hint.2 ≠ nullSlot) (hint.1, nullSlot)).orElse store inventory item
    (hint.1 ≠ nullBag) (nullBag, nullSlot)

def storeRow (hint : Position) : Inventory :=
  let last := tryStore store inventory item hint
  if last.answer.result ≠ .ok then inventory
  else storeNewItem store inventory last.answer.dest item.itemid

end

section

variable (store : ItemStore) (hint : Position)

/-- The loop over the slots, with the items that it stores. The item of a slot is not tested for
being null: a slot that shows nothing, such as that of a token which `FillLoot` has stored itself,
gives no result. -/
def autoStore : List (Option LootItem) → Inventory → Option (Inventory × List LootItem)
  | [], inventory => some (inventory, [])
  | none :: _, _ => none
  | some item :: rest, inventory =>
    if (tryStore store inventory item hint).answer.result ≠ .ok then autoStore rest inventory
    else
      (autoStore rest (storeRow store inventory item hint)).map fun result =>
        (result.1, item :: result.2)

/-- What `LootItemInSlot` shows the player in the slots up to `GetMaxSlotInLootFor` -/
def Loot.slotsFor (guid : Nat) (loot : Loot) : List (Option LootItem) :=
  (List.range (loot.getMaxSlotInLootFor guid)).map fun slot =>
    (loot.lootItemInSlot slot guid).map Prod.fst

def autoStoreLoot (guid : Nat) (loot : Loot) (inventory : Inventory) :
    Option (Inventory × List LootItem) :=
  autoStore store hint (loot.slotsFor guid) inventory

def amounts (items : List LootItem) (kind : Nat) : Nat :=
  (items.map fun item => if item.itemid = kind then item.count else 0).sum

def StoresExactly (guid : Nat) (loot : Loot) (inventory : Inventory) : Prop :=
  ∃ after stored, autoStoreLoot store hint guid loot inventory = some (after, stored) ∧
    Player.Gains store inventory after (amounts stored)

def nextInventory (inventory : Inventory) : Option LootItem → Inventory
  | none => inventory
  | some item => storeRow store inventory item hint

def BeginsEmpty (inventory : Inventory) (slot : Option LootItem) : Prop :=
  ∃ item, slot = some item ∧
    ((tryStore store inventory item hint).answer.result = .ok →
      (tryStore store inventory item hint).leftover = [])

end

/-- After some attempts the positions of the last one and those of the failed ones take their
amounts; an attempt that answers OK has planned the whole count besides. -/
structure Attempted (store : ItemStore) (inventory : Inventory) (item : LootItem) (tries : Nat)
    (last : Attempt) : Prop where
  left : Planned (Player.Takes store inventory item.itemid)
    (last.leftover.map Prod.snd).sum last.leftover 0
  planned : Planned (Player.Takes store inventory item.itemid)
    (last.answer.dest.map Prod.snd).sum last.answer.dest 0
  most : (last.answer.dest.map Prod.snd).sum ≤
    tries * Player.searchable store inventory item.itemid item.count
  complete : last.answer.result = .ok →
    (last.answer.dest.map Prod.snd).sum = (last.leftover.map Prod.snd).sum + item.count ∧
      Player.searchable store inventory item.itemid item.count = item.count

def LootItem.Rolled (item : LootItem) : Prop := 0 < item.count ∧ item.count < 256

section

variable {store : ItemStore} {inventory : Inventory} {item : LootItem} {hint : Position}

theorem attempted_attempt (proper : Player.ProperBag hint.1) (rolled : item.Rolled)
    {leftover : List (Position × Nat)} {tries : Nat}
    (left : Planned (Player.Takes store inventory item.itemid)
      (leftover.map Prod.snd).sum leftover 0)
    (most : (leftover.map Prod.snd).sum ≤
      tries * Player.searchable store inventory item.itemid item.count) :
    Attempted store inventory item (tries + 1)
      (attempt store inventory item hint leftover) := by
  have small : item.count < 2 ^ 32 := Nat.lt_trans rolled.2 (by decide)
  have searched :=
    @Player.canStoreNewItem_planned store inventory hint.1 hint.2 item.itemid item.count leftover
      proper rolled.1 small left
  obtain ⟨planned, bound, complete⟩ := searched
  constructor
  · exact left
  · exact planned
  · rw [Nat.succ_mul]
    exact bound.trans (Nat.add_le_add_right most _)
  · exact complete

theorem Attempted.orElse {tries : Nat} {last : Attempt}
    (attempted : Attempted store inventory item tries last) (names : Prop) [Decidable names]
    (hint : Position) (proper : Player.ProperBag hint.1) (rolled : item.Rolled) :
    Attempted store inventory item (tries + 1)
      (last.orElse store inventory item names hint) := by
  unfold Attempt.orElse
  split
  · exact attempted_attempt proper rolled attempted.planned attempted.most
  · exact
      { left := attempted.left
        planned := attempted.planned
        most := attempted.most.trans (Nat.mul_le_mul_right _ (Nat.le_succ tries))
        complete := attempted.complete }

theorem attempted_tryStore (proper : Player.ProperBag hint.1) (rolled : item.Rolled) :
    Attempted store inventory item 3 (tryStore store inventory item hint) := by
  have first : Attempted store inventory item 1 (attempt store inventory item hint []) :=
    attempted_attempt proper rolled (Planned.empty _ _) (Nat.zero_le _)
  have second := first.orElse (hint.2 ≠ nullSlot) (hint.1, nullSlot) proper rolled
  exact second.orElse (hint.1 ≠ nullBag) (nullBag, nullSlot) (Or.inl rfl) rolled

theorem storeRow_gains
    (coherent : Coherent (stacking store) inventory.slots inventory.nextGuid)
    (proper : Player.ProperBag hint.1) (rolled : item.Rolled)
    (accepted : (tryStore store inventory item hint).answer.result = .ok) :
    let after := storeRow store inventory item hint
    Coherent (stacking store) after.slots after.nextGuid ∧
      Player.Gains store inventory after fun kind =>
        if item.itemid = kind then
          ((tryStore store inventory item hint).leftover.map Prod.snd).sum + item.count
        else 0 := by
  have attempted : Attempted store inventory item 3 (tryStore store inventory item hint) :=
    attempted_tryStore proper rolled
  have row : storeRow store inventory item hint =
      storeNewItem store inventory (tryStore store inventory item hint).answer.dest item.itemid :=
    if_neg (not_not_intro accepted)
  obtain ⟨sum, whole⟩ := attempted.complete accepted
  have most := attempted.most
  rw [whole] at most
  have least := rolled.1
  have largest := rolled.2
  have stored := Player.storeNewItem_gains coherent attempted.planned (by omega) (by omega)
  rw [row, ← sum]
  exact stored

theorem leftover_nil_iff (proper : Player.ProperBag hint.1) (rolled : item.Rolled) :
    (tryStore store inventory item hint).leftover = [] ↔
      ((tryStore store inventory item hint).leftover.map Prod.snd).sum = 0 := by
  have attempted : Attempted store inventory item 3 (tryStore store inventory item hint) :=
    attempted_tryStore proper rolled
  have left := attempted.left
  generalize (tryStore store inventory item hint).leftover = leftover at left
  cases leftover with
  | nil => simp only [List.map_nil, List.sum_nil]
  | cons planned rest =>
    have positive := (left.good planned.1 planned.2 List.mem_cons_self).positive
    simp only [List.map_cons, List.sum_cons, reduceCtorEq, false_iff]
    omega

end

section

variable {store : ItemStore} {hint : Position} {inventory after : Inventory}
  {slots : List (Option LootItem)} {stored : List LootItem}

theorem amounts_cons (item : LootItem) (items : List LootItem) (kind : Nat) :
    amounts (item :: items) kind =
      (if item.itemid = kind then item.count else 0) + amounts items kind := by
  simp only [amounts, List.map_cons, List.sum_cons]

theorem autoStore_gains
    (coherent : Coherent (stacking store) inventory.slots inventory.nextGuid)
    (proper : Player.ProperBag hint.1) (rolled : ∀ item, some item ∈ slots → item.Rolled)
    (ended : autoStore store hint slots inventory = some (after, stored)) :
    ∃ excess : Nat → Nat,
      Player.Gains store inventory after (fun kind => amounts stored kind + excess kind) ∧
        ((∀ kind, excess kind = 0) ↔
          Along (nextInventory store hint) (BeginsEmpty store hint) inventory slots) := by
  induction slots generalizing inventory stored with
  | nil =>
    cases ended
    refine ⟨fun _ => 0, Player.Gains.refl _, ?_⟩
    simp only [Along, implies_true]
  | cons slot rest ih =>
    have later : ∀ item, some item ∈ rest → item.Rolled := fun item member =>
      rolled item (List.mem_cons_of_mem _ member)
    cases slot with
    | none => cases ended
    | some item =>
      have row := rolled item List.mem_cons_self
      unfold autoStore at ended
      split at ended
      · rename_i refused
        have same : storeRow store inventory item hint = inventory := if_pos refused
        obtain ⟨excess, gains, nothing⟩ := ih coherent later ended
        refine ⟨excess, gains, nothing.trans ?_⟩
        have begins : BeginsEmpty store hint inventory (some item) :=
          ⟨item, rfl, fun accepted => absurd accepted refused⟩
        simp only [Along, begins, nextInventory, same, true_and]
      · rename_i accepted
        have accepted := not_not.mp accepted
        obtain ⟨result, inner, same⟩ := Option.map_eq_some_iff.mp ended
        cases same
        obtain ⟨kept, gained⟩ := storeRow_gains coherent proper row accepted
        obtain ⟨excess, gains, nothing⟩ := ih kept later inner
        let left := ((tryStore store inventory item hint).leftover.map Prod.snd).sum
        refine ⟨fun kind => (if item.itemid = kind then left else 0) + excess kind, ?_, ?_⟩
        · have both := gained.trans gains
          have regrouped : (fun kind => (if item.itemid = kind then left + item.count else 0) +
              (amounts result.2 kind + excess kind)) = fun kind =>
                amounts (item :: result.2) kind +
                  ((if item.itemid = kind then left else 0) + excess kind) := by
            grind [amounts_cons]
          rw [← regrouped]
          exact both
        · have empty : (tryStore store inventory item hint).leftover = [] ↔ left = 0 :=
            leftover_nil_iff proper row
          have begins : BeginsEmpty store hint inventory (some item) ↔ left = 0 := by
            constructor
            · rintro ⟨other, same, begins⟩
              cases same
              exact empty.mp (begins accepted)
            · intro zero
              exact ⟨item, rfl, fun _ => empty.mpr zero⟩
          simp only [Along, begins, nextInventory]
          rw [← nothing]
          constructor
          · intro zero
            have own := zero item.itemid
            rw [if_pos rfl] at own
            exact ⟨Nat.eq_zero_of_add_eq_zero_right own, fun kind =>
              Nat.eq_zero_of_add_eq_zero_left (zero kind)⟩
          · simp_all

theorem autoStore_ends
    (begins : Along (nextInventory store hint) (BeginsEmpty store hint) inventory slots) :
    ∃ after stored, autoStore store hint slots inventory = some (after, stored) := by
  induction slots generalizing inventory with
  | nil => exact ⟨inventory, [], rfl⟩
  | cons slot rest ih =>
    obtain ⟨⟨item, same, -⟩, later⟩ := begins
    cases same
    obtain ⟨after, stored, ended⟩ := ih later
    unfold autoStore
    split
    · rename_i refused
      have same : nextInventory store hint inventory (some item) = inventory := if_pos refused
      rw [same] at ended
      exact ⟨after, stored, ended⟩
    · exact ⟨after, item :: stored, Option.map_eq_some_iff.mpr ⟨(after, stored), ended, rfl⟩⟩

theorem tryStore_anywhere (store : ItemStore) (inventory : Inventory) (item : LootItem) :
    (tryStore store inventory item (nullBag, nullSlot)).leftover = [] := by
  simp only [tryStore, Attempt.orElse, attempt, ne_eq, not_true_eq_false, and_false, if_false]

end

theorem autoStoreLoot_storesExactly_iff (store : ItemStore) (hint : Position) (guid : Nat)
    (loot : Loot) (inventory : Inventory)
    (coherent : Coherent (stacking store) inventory.slots inventory.nextGuid)
    (proper : Player.ProperBag hint.1)
    (rolled : ∀ item, some item ∈ loot.slotsFor guid → item.Rolled) :
    StoresExactly store hint guid loot inventory ↔
      Along (nextInventory store hint) (BeginsEmpty store hint) inventory
        (loot.slotsFor guid) := by
  constructor
  · rintro ⟨after, stored, ended, exactly⟩
    obtain ⟨excess, gains, nothing⟩ := autoStore_gains coherent proper rolled ended
    refine nothing.mp fun kind => ?_
    have same := congrFun (exactly.unique gains) kind
    omega
  · intro begins
    obtain ⟨after, stored, ended⟩ := autoStore_ends begins
    obtain ⟨excess, gains, nothing⟩ := autoStore_gains coherent proper rolled ended
    have zero := nothing.mpr begins
    simp only [zero, Nat.add_zero] at gains
    exact ⟨after, stored, ended, gains⟩

def potionsAndBags : ItemStore where
  prototype := fun entry =>
    if entry = 118 then { stackable := 20 }
    else { itemClass := 1, inventoryType := 18, containerSlots := 1 }
  known := fun _ => true
  limitCategory := fun _ => none

def fullBackpack : Inventory where
  slots := fun place =>
    match place with
    | .main slot =>
      if slot = 19 then some { guid := 19, entry := 4500, count := 1 }
      else if 23 ≤ slot ∧ slot < 39 then
        some { guid := slot, entry := 118, count := if slot = 23 then 17 else 20 }
      else none
    | .inBag _ _ => none
  nextGuid := 39

theorem fullBackpack_slots {place : Player.Place} {item : Player.Item}
    (present : fullBackpack.slots place = some item) :
    place = .main item.guid ∧ item.guid < 39 ∧
      item.count ≤ potionsAndBags.maxStack item.entry := by
  cases place with
  | inBag bag slot => cases present
  | main slot =>
    simp only [fullBackpack] at present
    split at present
    · rename_i bag
      cases present
      exact ⟨congrArg _ bag, by decide, by decide⟩
    · split at present
      · rename_i backpack
        cases present
        refine ⟨rfl, backpack.2, ?_⟩
        change (if slot = 23 then 17 else 20) ≤ 20
        split <;> omega
      · cases present

theorem fullBackpack_coherent :
    Coherent (stacking potionsAndBags) fullBackpack.slots fullBackpack.nextGuid := by
  constructor
  · intro place item present
    exact (fullBackpack_slots present).2.2
  · intro first second left right atFirst atSecond same
    rw [(fullBackpack_slots atFirst).1, (fullBackpack_slots atSecond).1]
    exact congrArg _ same
  · intro place item present
    exact (fullBackpack_slots present).2.1

def fivePotions : Loot where
  items := [{ itemid := 118, conditions := [], count := 5, freeforall := false,
              needsQuest := false }]

theorem fivePotions_rolled : ∀ item, some item ∈ fivePotions.slotsFor 1 → item.Rolled := by
  intro item member
  have slots : fivePotions.slotsFor 1 = fivePotions.items.map some := rfl
  rw [slots] at member
  cases List.mem_singleton.mp member
  exact (by decide : 0 < 5 ∧ 5 < 256)

/-- The first slot of the first bag is asked for: three of the five potions are planned before that
attempt fails, the next one plans five, and eight are stored. -/
theorem autoStoreLoot_leftover :
    ¬ StoresExactly potionsAndBags (nullBag, 0) 1 fivePotions fullBackpack := by
  rintro ⟨after, stored, ended, exactly⟩
  obtain ⟨excess, gains, nothing⟩ :=
    autoStore_gains fullBackpack_coherent (Or.inl rfl) fivePotions_rolled ended
  have begins := nothing.mp fun kind => by
    have same := congrFun (exactly.unique gains) kind
    omega
  obtain ⟨⟨item, same, empty⟩, -⟩ := begins
  cases same
  have last :
      (tryStore potionsAndBags fullBackpack (fivePotions.items.get ⟨0, by decide⟩)
          (nullBag, 0)).answer.result = .ok ∧
        (tryStore potionsAndBags fullBackpack (fivePotions.items.get ⟨0, by decide⟩)
          (nullBag, 0)).leftover = [((Player.inventorySlotBag0, 23), 3)] := by
    decide +kernel
  cases last.2.symm.trans (empty last.1)

theorem autoStoreLoot_storesExactly_iff_potions :
    StoresExactly potionsAndBags (nullBag, nullSlot) 1 fivePotions fullBackpack := by
  refine (autoStoreLoot_storesExactly_iff potionsAndBags (nullBag, nullSlot) 1 fivePotions
    fullBackpack fullBackpack_coherent (Or.inl rfl) fivePotions_rolled).mpr ?_
  exact ⟨⟨_, rfl, fun _ => tryStore_anywhere _ _ _⟩, trivial⟩

end DarkCore.Looting
