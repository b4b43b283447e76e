/-
Item prototypes (`ItemPrototype.h`) and the answers of the inventory checks
(`Item.h`, `InventoryResult`). Only the prototype fields that the storage code
reads are kept.
-/

import Mathlib.Init

namespace DarkCore.Items

structure ItemPrototype where
  itemClass : Nat := 0
  subClass : Nat := 0
  inventoryType : Nat := 0
  /-- At most zero: no limit. -/
  maxCount : Int := 0
  stackable : Int := 1
  containerSlots : Nat := 0
  bonding : Nat := 0
  bagFamily : Nat := 0
  /-- `Socket[0].Color` -/
  socketColor : Nat := 0
  gemProperties : Nat := 0
  itemLimitCategory : Nat := 0
deriving DecidableEq

/-- An unset or unlimited `Stackable` still leaves a finite stack. -/
def ItemPrototype.getMaxStackSize (proto : ItemPrototype) : Nat :=
  if proto.stackable = 2147483647 ∨ proto.stackable ≤ 0 then 0x7FFFFFFF - 1
  else proto.stackable.toNat

theorem ItemPrototype.getMaxStackSize_pos (proto : ItemPrototype) :
    0 < proto.getMaxStackSize := by
  unfold ItemPrototype.getMaxStackSize
  split
  · decide
  · omega

structure ItemLimitCategoryEntry where
  maxCount : Nat
  mode : Nat
deriving DecidableEq

/-- The loaded prototypes and `ItemLimitCategory.dbc`; `known` says that `GetItemPrototype` finds
the entry. -/
structure ItemStore where
  prototype : Nat → ItemPrototype
  known : Nat → Bool
  limitCategory : Nat → Option ItemLimitCategoryEntry

def ItemStore.getItemPrototype (store : ItemStore) (entry : Nat) : Option ItemPrototype :=
  if store.known entry then some (store.prototype entry) else none

def ItemStore.maxStack (store : ItemStore) (entry : Nat) : Nat :=
  (store.prototype entry).getMaxStackSize

theorem ItemStore.maxStack_pos (store : ItemStore) (entry : Nat) : 0 < store.maxStack entry :=
  (store.prototype entry).getMaxStackSize_pos

/-- The members of `InventoryResult` that the storage code answers. -/
inductive InventoryResult where
  | ok
  | nonEmptyBagOverOtherBag
  | itemDoesntGoIntoBag
  | cantCarryMoreOfThis
  | itemCantStack
  | itemCantBeEquipped
  | itemsCantBeSwapped
  | itemNotFound
  | cantDropSoulbound
  | canOnlyDoWithEmptyBags
  | dontOwnThatItem
  | alreadyLooted
  | inventoryFull
  | bankFull
  | itemMaxLimitCategoryCountExceeded
deriving DecidableEq

end DarkCore.Items
