/-
The inventory of a player (`Player.cpp`): the slots of the player, the contents
of the bags, and the counts that the carry limits read.

An item is found by its place: a slot of the player, or a slot of a bag. The
content of a bag belongs to the bag item, so it stays with the bag when the bag
changes its slot; it is therefore kept under the guid of the bag.
-/

import DarkCore.Items.Prototype
import DarkCore.Lib.Stacks

namespace DarkCore.Player

open Items Lib

def nullBag : Nat := 0
def nullSlot : Nat := 255
def inventorySlotBag0 : Nat := 255
def equipmentSlotEnd : Nat := 19
def inventorySlotBagStart : Nat := 19
def inventorySlotBagEnd : Nat := 23
def inventorySlotItemStart : Nat := 23
def inventorySlotItemEnd : Nat := 39
def bankSlotItemStart : Nat := 39
def bankSlotItemEnd : Nat := 67
def bankSlotBagStart : Nat := 67
def bankSlotBagEnd : Nat := 74
def buybackSlotStart : Nat := 74
def buybackSlotEnd : Nat := 86
def keyringSlotStart : Nat := 86
def keyringSlotEnd : Nat := 118
def currencyTokenSlotStart : Nat := 118
def currencyTokenSlotEnd : Nat := 150
def playerSlotEnd : Nat := 150

def slotRange (first past : Nat) : List Nat := List.range' first (past - first)

theorem mem_slotRange {first past slot : Nat} :
    slot ∈ slotRange first past ↔ first ≤ slot ∧ slot < past := by
  unfold slotRange
  rw [List.mem_range'_1]
  omega

/-- The slots of the player that `GetItemByPos` reads. -/
def MainSlot (slot : Nat) : Prop :=
  slot < bankSlotBagEnd ∨ (keyringSlotStart ≤ slot ∧ slot < currencyTokenSlotEnd)

def BagSlot (slot : Nat) : Prop :=
  (inventorySlotBagStart ≤ slot ∧ slot < inventorySlotBagEnd) ∨
    (bankSlotBagStart ≤ slot ∧ slot < bankSlotBagEnd)

instance (slot : Nat) : Decidable (MainSlot slot) := inferInstanceAs (Decidable (_ ∨ _))
instance (slot : Nat) : Decidable (BagSlot slot) := inferInstanceAs (Decidable (_ ∨ _))

theorem BagSlot.main {slot : Nat} (bagSlot : BagSlot slot) : MainSlot slot := by
  left
  rcases bagSlot with inventory | bank
  · exact Nat.lt_trans inventory.2 (by decide)
  · exact bank.2

/-- A position as the protocol writes it, `bag << 8 | slot`. -/
abbrev Position := Nat × Nat

def isBagPos (position : Position) : Bool :=
  position.1 == inventorySlotBag0 && decide (BagSlot position.2)

structure Item where
  guid : Nat
  entry : Nat
  count : Nat
  lootGenerated : Bool := false
  inTrade : Bool := false
  soulBound : Bool := false
  /-- The player is the owner. -/
  owned : Bool := true
  /-- Soulbound but tradeable to the player, or bound to the account. -/
  shared : Bool := false
  /-- The gems in the sockets. -/
  gems : List Nat := []
deriving DecidableEq

inductive Place where
  | main (slot : Nat)
  | inBag (bag slot : Nat)
deriving DecidableEq

structure Inventory where
  slots : Place → Option Item
  /-- The next low guid that `sObjectMgr` gives to an item. -/
  nextGuid : Nat

def stacking (store : ItemStore) : Stacking Item Nat where
  guid := Item.guid
  entry := Item.entry
  count := Item.count
  maxStack := store.maxStack

def Item.proto (store : ItemStore) (item : Item) : ItemPrototype := store.prototype item.entry

def Item.isBag (store : ItemStore) (item : Item) : Bool := (item.proto store).inventoryType == 18

def Item.isBindedNotWith (item : Item) : Bool := item.soulBound && !item.owned && !item.shared

def Item.getBagSize (store : ItemStore) (item : Item) : Nat := (item.proto store).containerSlots

def Inventory.getItemByPos (store : ItemStore) (inventory : Inventory) (position : Position) :
    Option Item :=
  if position.1 = inventorySlotBag0 ∧ MainSlot position.2 then
    inventory.slots (.main position.2)
  else if BagSlot position.1 then
    match inventory.slots (.main position.1) with
    | some bag =>
      if position.2 < bag.getBagSize store then inventory.slots (.inBag bag.guid position.2)
      else none
    | none => none
  else none

/-- `GetItemByPos(INVENTORY_SLOT_BAG_0, slot)`, which the code casts to a bag. -/
def Inventory.getMain (inventory : Inventory) (slot : Nat) : Option Item :=
  if MainSlot slot then inventory.slots (.main slot) else none

/-- `Bag::IsEmpty` -/
def Inventory.isEmptyBag (store : ItemStore) (inventory : Inventory) (bag : Item) : Bool :=
  (List.range (bag.getBagSize store)).all fun slot =>
    (inventory.slots (.inBag bag.guid slot)).isNone

def Inventory.isNonEmptyBag (store : ItemStore) (inventory : Inventory) (item : Item) : Bool :=
  item.isBag store && !inventory.isEmptyBag store item

/-- Where a position is stored: `_StoreItem` reads the bag from its slot. -/
def Inventory.locate (inventory : Inventory) (position : Position) : Option Place :=
  if position.1 = inventorySlotBag0 then some (.main position.2)
  else (inventory.getMain position.1).map fun bag => .inBag bag.guid position.2

def countIf (test : Item → Bool) (skip : Option Item) (content : Option Item) : Nat :=
  match content with
  | some item => if skip.map Item.guid = some item.guid then 0 else if test item then item.count else 0
  | none => 0

def Inventory.countMain (store : ItemStore) (inventory : Inventory) (test : Item → Bool)
    (skip : Option Item) (first past : Nat) : Nat :=
  ((slotRange first past).map fun slot =>
    countIf test skip (inventory.getItemByPos store (inventorySlotBag0, slot))).sum

def Inventory.countBags (store : ItemStore) (inventory : Inventory) (test : Item → Bool)
    (skip : Option Item) (first past : Nat) : Nat :=
  ((slotRange first past).map fun bagSlot => match inventory.getMain bagSlot with
    | some bag => ((List.range (bag.getBagSize store)).map fun slot =>
      countIf test skip (inventory.slots (.inBag bag.guid slot))).sum
    | none => 0).sum

def Inventory.countGems (store : ItemStore) (inventory : Inventory) (entry : Nat)
    (skip : Option Item) (first past : Nat) : Nat :=
  match skip with
  | none => 0
  | some moved =>
    if (moved.proto store).gemProperties = 0 then 0
    else ((slotRange first past).map fun slot =>
      match inventory.getItemByPos store (inventorySlotBag0, slot) with
      | some item =>
        if item.guid = moved.guid ∨ (item.proto store).socketColor = 0 then 0
        else item.gems.count entry
      | none => 0).sum

/-- `GetItemCount(item, true, skipItem)`, in 32 bits. -/
def Inventory.getItemCount (store : ItemStore) (inventory : Inventory) (entry : Nat)
    (skip : Option Item) : Nat :=
  let test : Item → Bool := fun item => item.entry == entry
  (inventory.countMain store test skip 0 inventorySlotItemEnd +
    inventory.countMain store test skip keyringSlotStart currencyTokenSlotEnd +
    inventory.countBags store test skip inventorySlotBagStart inventorySlotBagEnd +
    inventory.countGems store entry skip 0 inventorySlotItemEnd +
    inventory.countMain store test skip bankSlotItemStart bankSlotItemEnd +
    inventory.countBags store test skip bankSlotBagStart bankSlotBagEnd +
    inventory.countGems store entry skip bankSlotItemStart bankSlotItemEnd) % 2 ^ 32

def Inventory.getItemCountWithLimitCategory (store : ItemStore) (inventory : Inventory)
    (category : Nat) (skip : Option Item) : Nat :=
  let test : Item → Bool := fun item => (item.proto store).itemLimitCategory == category
  (inventory.countMain store test skip 0 inventorySlotItemEnd +
    inventory.countMain store test skip keyringSlotStart currencyTokenSlotEnd +
    inventory.countBags store test skip inventorySlotBagStart inventorySlotBagEnd +
    inventory.countMain store test skip bankSlotItemStart bankSlotItemEnd +
    inventory.countBags store test skip bankSlotBagStart bankSlotBagEnd) % 2 ^ 32

end DarkCore.Player
