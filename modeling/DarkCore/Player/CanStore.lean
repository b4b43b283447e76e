/-
The search for room in the inventory (`Player::_CanStoreItem` and its passes
`_CanStoreItem_InSpecificSlot`, `_InBag` and `_InInventorySlots`).

The passes share one list of planned positions and a decreasing count. The code
runs the same three lines after each pass: an error ends the search, a count of
zero ends it as well. This is the `Except` monad here, with the final answer as
the exception.
-/

import DarkCore.Player.Inventory

namespace DarkCore.Player

open Items Lib

def itemClassContainer : Nat := 1
def itemClassQuiver : Nat := 11
def bagFamilyMaskKeys : Nat := 0x100
def bagFamilyMaskCurrencyTokens : Nat := 0x2000

def hasFamily (proto : ItemPrototype) (mask : Nat) : Bool := proto.bagFamily &&& mask != 0

def bagMask (itemClass subClass : Nat) : Option Nat :=
  if itemClass = itemClassContainer then
    match subClass with
    | 1 => some 0x4
    | 2 => some 0x20
    | 3 => some 0x40
    | 4 => some 0x80
    | 5 => some 0x200
    | 6 => some 0x400
    | 7 => some 0x8
    | 8 => some 0x10
    | 9 => some 0x8000
    | _ => none
  else if itemClass = itemClassQuiver then
    match subClass with
    | 2 => some 0x1
    | 3 => some 0x2
    | _ => none
  else none

def isPlainContainer (proto : ItemPrototype) : Bool :=
  proto.itemClass == itemClassContainer && proto.subClass == 0

def itemCanGoIntoBag (proto bagProto : ItemPrototype) : Bool :=
  if isPlainContainer bagProto then true
  else
    match bagMask bagProto.itemClass bagProto.subClass with
    | some mask => hasFamily proto mask
    | none => false

/-- One call of `_CanStoreItem`: what is to be stored and the item it is moved from. -/
structure StoreRequest where
  entry : Nat
  count : Nat
  source : Option Item
  swap : Bool
  bag : Nat
  slot : Nat

def StoreRequest.hint (request : StoreRequest) : Position := (request.bag, request.slot)

def StoreRequest.proto (store : ItemStore) (request : StoreRequest) : ItemPrototype :=
  store.prototype request.entry

abbrev Plan := List (Position × Nat) × Nat

/-- What `_CanStoreItem` returns, with `dest` and the value written to `no_space_count`. -/
structure Answer where
  result : InventoryResult
  dest : List (Position × Nat)
  noSpace : Option Nat
deriving DecidableEq

/-- `CanBeMergedPartlyWith`, for the prototype of the request. -/
def StoreRequest.canBeMergedPartlyWith (request : StoreRequest) (store : ItemStore)
    (item : Item) : InventoryResult :=
  if item.lootGenerated then .alreadyLooted
  else if item.entry ≠ request.entry then .itemCantStack
  else if store.maxStack request.entry ≤ item.count then .itemCantStack
  else .ok

def StoreRequest.ignoreSource (request : StoreRequest) (content : Option Item) : Option Item :=
  content.filter fun item => request.source.map Item.guid != some item.guid

def StoreRequest.movesFullBag (request : StoreRequest) (store : ItemStore)
    (inventory : Inventory) : Bool :=
  match request.source with
  | some item => inventory.isNonEmptyBag store item
  | none => false

section Passes

variable (store : ItemStore) (inventory : Inventory) (request : StoreRequest)

def fitsEmptySlot (position : Position) : Bool :=
  let proto := request.proto store
  if position.1 = inventorySlotBag0 then
    !(decide (keyringSlotStart ≤ position.2 ∧ position.2 < keyringSlotEnd) &&
        !hasFamily proto bagFamilyMaskKeys) &&
    !(decide (currencyTokenSlotStart ≤ position.2 ∧ position.2 < currencyTokenSlotEnd) &&
        !hasFamily proto bagFamilyMaskCurrencyTokens) &&
    !decide ((buybackSlotStart ≤ position.2 ∧ position.2 < buybackSlotEnd) ∨
        playerSlotEnd ≤ position.2)
  else
    match inventory.getMain position.1 with
    | some bag =>
      decide (position.2 < bag.getBagSize store) && itemCanGoIntoBag proto (bag.proto store)
    | none => false

def canStoreItemInSpecificSlot (plan : Plan) : InventoryResult × Plan :=
  let position := request.hint
  let item2 := request.ignoreSource (inventory.getItemByPos store position)
  if request.movesFullBag store inventory && !isBagPos position then
    (.canOnlyDoWithEmptyBags, plan)
  else
    match if request.swap then none else item2 with
    | none =>
      if fitsEmptySlot store inventory request position then
        (.ok, reserve position (store.maxStack request.entry) plan.1 plan.2)
      else (.itemDoesntGoIntoBag, plan)
    | some resident =>
      match request.canBeMergedPartlyWith store resident with
      | .ok => (.ok, reserve position (store.maxStack request.entry - resident.count) plan.1 plan.2)
      | error => (error, plan)

/-- The room a pass finds in a slot; `none` when it goes on to the next one. -/
def slotRoom (merge : Bool) (position : Position) : Option Nat :=
  let item2 := request.ignoreSource (inventory.getItemByPos store position)
  if item2.isSome ≠ merge then none
  else
    match item2 with
    | none => some (store.maxStack request.entry)
    | some resident =>
      if request.canBeMergedPartlyWith store resident = .ok then
        some (store.maxStack request.entry - resident.count)
      else none

/-- The loop of `_InBag` and `_InInventorySlots` over the slots that are left. -/
def fillSlots (merge : Bool) : List Position → Plan → Plan
  | [], plan => plan
  | position :: rest, plan =>
    match slotRoom store inventory request merge position with
    | none => fillSlots merge rest plan
    | some room =>
      if position ∈ plan.1.map Prod.fst then fillSlots merge rest plan
      else
        let next := reserve position room plan.1 plan.2
        if next.2 = 0 then next else fillSlots merge rest next

def canStoreItemInBag (bagSlot : Nat) (merge nonSpecialized : Bool) (skipBag skipSlot : Nat)
    (plan : Plan) : InventoryResult × Plan :=
  if bagSlot = skipBag then (.itemDoesntGoIntoBag, plan)
  else
    match inventory.getMain bagSlot with
    | none => (.itemDoesntGoIntoBag, plan)
    | some bag =>
      if request.source.map Item.guid = some bag.guid then (.itemDoesntGoIntoBag, plan)
      else if request.movesFullBag store inventory then (.canOnlyDoWithEmptyBags, plan)
      else if nonSpecialized ≠ isPlainContainer (bag.proto store) then
        (.itemDoesntGoIntoBag, plan)
      else if !itemCanGoIntoBag (request.proto store) (bag.proto store) then
        (.itemDoesntGoIntoBag, plan)
      else
        let slots := (List.range (bag.getBagSize store)).filter (· != skipSlot)
        (.ok, fillSlots store inventory request merge (slots.map (bagSlot, ·)) plan)

def canStoreItemInInventorySlots (first past : Nat) (merge : Bool) (skipBag skipSlot : Nat)
    (plan : Plan) : InventoryResult × Plan :=
  if request.movesFullBag store inventory then (.canOnlyDoWithEmptyBags, plan)
  else
    let slots := (slotRange first past).filter fun slot =>
      !(skipBag == inventorySlotBag0 && slot == skipSlot)
    (.ok, fillSlots store inventory request merge (slots.map (inventorySlotBag0, ·)) plan)

def settle (noSimilar : Nat) (outcome : InventoryResult × Plan) : Except Answer Plan :=
  if outcome.1 ≠ .ok then
    throw ⟨outcome.1, outcome.2.1, some ((outcome.2.2 + noSimilar) % 2 ^ 32)⟩
  else if outcome.2.2 = 0 then
    if noSimilar = 0 then throw ⟨.ok, outcome.2.1, none⟩
    else throw ⟨.cantCarryMoreOfThis, outcome.2.1, some noSimilar⟩
  else pure outcome.2

def overBags (noSimilar : Nat) (pass : Nat → Plan → InventoryResult × Plan) :
    List Nat → Plan → Except Answer Plan
  | [], plan => pure plan
  | bagSlot :: rest, plan =>
    let outcome := pass bagSlot plan
    if outcome.1 ≠ .ok then overBags noSimilar pass rest plan
    else settle noSimilar outcome >>= overBags noSimilar pass rest

def equippedBags : List Nat := slotRange inventorySlotBagStart inventorySlotBagEnd

/-- Both modes of `_InBag` for the bag that the caller named. -/
def inNamedBag (merge : Bool) (plan : Plan) : InventoryResult × Plan :=
  let outcome := canStoreItemInBag store inventory request request.bag merge false nullBag
    request.slot plan
  if outcome.1 ≠ .ok then
    canStoreItemInBag store inventory request request.bag merge true nullBag request.slot plan
  else outcome

def inSlots (noSimilar first past : Nat) (merge : Bool) (plan : Plan) : Except Answer Plan :=
  settle noSimilar (canStoreItemInInventorySlots store inventory request first past merge
    request.bag request.slot plan)

def inEquippedBags (noSimilar : Nat) (merge nonSpecialized : Bool) (plan : Plan) :
    Except Answer Plan :=
  overBags noSimilar
    (fun bagSlot => canStoreItemInBag store inventory request bagSlot merge nonSpecialized
      request.bag request.slot) equippedBags plan

def passIf (condition : Prop) [Decidable condition] (pass : Plan → Except Answer Plan)
    (plan : Plan) : Except Answer Plan :=
  if condition then pass plan else pure plan

def mergeIntoSlots (noSimilar : Nat) (plan : Plan) : Except Answer Plan := do
  let plan ← inSlots store inventory request noSimilar keyringSlotStart currencyTokenSlotEnd
    true plan
  inSlots store inventory request noSimilar inventorySlotItemStart inventorySlotItemEnd true plan

def searchNamedSlot (noSimilar : Nat) (plan : Plan) : Except Answer Plan :=
  passIf (request.bag ≠ nullBag ∧ request.slot ≠ nullSlot)
    (fun plan => settle noSimilar (canStoreItemInSpecificSlot store inventory request plan)) plan

/-- Free slots for keys and tokens when the caller named the inventory: a key may also go into a
token slot. -/
def inNamedFamilySlots (noSimilar : Nat) (plan : Plan) : Except Answer Plan :=
  if hasFamily (request.proto store) bagFamilyMaskKeys then do
    let plan ← inSlots store inventory request noSimilar keyringSlotStart keyringSlotEnd false plan
    inSlots store inventory request noSimilar currencyTokenSlotStart currencyTokenSlotEnd
      false plan
  else
    passIf (hasFamily (request.proto store) bagFamilyMaskCurrencyTokens)
      (inSlots store inventory request noSimilar currencyTokenSlotStart currencyTokenSlotEnd
        false) plan

def searchNamedBag (noSimilar : Nat) (plan : Plan) : Except Answer Plan :=
  if request.bag = nullBag then pure plan
  else if request.bag = inventorySlotBag0 then do
    let plan ← passIf ((request.proto store).stackable ≠ 1)
      (mergeIntoSlots store inventory request noSimilar) plan
    let plan ← inNamedFamilySlots store inventory request noSimilar plan
    inSlots store inventory request noSimilar inventorySlotItemStart inventorySlotItemEnd
      false plan
  else do
    let plan ← passIf ((request.proto store).stackable ≠ 1)
      (fun plan => settle noSimilar (inNamedBag store inventory request true plan)) plan
    settle noSimilar (inNamedBag store inventory request false plan)

def searchStacks (noSimilar : Nat) (plan : Plan) : Except Answer Plan :=
  passIf ((request.proto store).stackable ≠ 1)
    (fun plan => do
      let plan ← mergeIntoSlots store inventory request noSimilar plan
      let plan ← passIf ((request.proto store).bagFamily ≠ 0)
        (inEquippedBags store inventory request noSimilar true false) plan
      inEquippedBags store inventory request noSimilar true true plan) plan

def inFamilySlots (noSimilar : Nat) (plan : Plan) : Except Answer Plan :=
  if hasFamily (request.proto store) bagFamilyMaskKeys then
    inSlots store inventory request noSimilar keyringSlotStart keyringSlotEnd false plan
  else
    passIf (hasFamily (request.proto store) bagFamilyMaskCurrencyTokens)
      (inSlots store inventory request noSimilar currencyTokenSlotStart currencyTokenSlotEnd
        false) plan

def searchSpecialSlots (noSimilar : Nat) (plan : Plan) : Except Answer Plan :=
  passIf ((request.proto store).bagFamily ≠ 0)
    (fun plan => do
      let plan ← inFamilySlots store inventory request noSimilar plan
      inEquippedBags store inventory request noSimilar false false plan) plan

def searchFreeSlots (noSimilar : Nat) (plan : Plan) : Except Answer Plan :=
  if request.movesFullBag store inventory then
    throw ⟨.nonEmptyBagOverOtherBag, plan.1, none⟩
  else do
    let plan ← inSlots store inventory request noSimilar inventorySlotItemStart
      inventorySlotItemEnd false plan
    inEquippedBags store inventory request noSimilar false true plan

def searchRoom (noSimilar : Nat) (plan : Plan) : Except Answer Plan := do
  let plan ← searchNamedSlot store inventory request noSimilar plan
  let plan ← searchNamedBag store inventory request noSimilar plan
  let plan ← searchStacks store inventory request noSimilar plan
  let plan ← searchSpecialSlots store inventory request noSimilar plan
  searchFreeSlots store inventory request noSimilar plan

/-- `_CanTakeMoreSimilarItems`, with the count that cannot be taken. -/
def canTakeMoreSimilarItems : InventoryResult × Nat :=
  let proto := request.proto store
  if !store.known request.entry then (.cantCarryMoreOfThis, request.count)
  else if (request.source.map Item.lootGenerated).getD false then (.alreadyLooted, 0)
  else if (proto.maxCount ≤ 0 ∧ proto.itemLimitCategory = 0) ∨ proto.maxCount = 2147483647 then
    (.ok, 0)
  else
    let current := inventory.getItemCount store request.entry request.source
    let allowed := proto.maxCount.toNat
    if 0 < proto.maxCount ∧ allowed < (current + request.count) % 2 ^ 32 then
      (.cantCarryMoreOfThis, (request.count + current + (2 ^ 32 - allowed)) % 2 ^ 32)
    else if proto.itemLimitCategory = 0 then (.ok, 0)
    else
      match store.limitCategory proto.itemLimitCategory with
      | none => (.itemCantBeEquipped, request.count)
      | some limit =>
        let current := inventory.getItemCountWithLimitCategory store proto.itemLimitCategory
          request.source
        if limit.mode = 0 ∧ limit.maxCount < (current + request.count) % 2 ^ 32 then
          (.itemMaxLimitCategoryCountExceeded,
            (request.count + current + (2 ^ 32 - limit.maxCount)) % 2 ^ 32)
        else (.ok, 0)

/-- The search for `count` items, after the limits refused `noSimilar` more. -/
def searchAnswer (noSimilar count : Nat) : Answer :=
  match searchRoom store inventory request noSimilar ([], count) with
  | .error answer => answer
  | .ok plan => ⟨.inventoryFull, plan.1, some ((plan.2 + noSimilar) % 2 ^ 32)⟩

def canStoreItem : Answer :=
  if !store.known request.entry then
    ⟨if request.swap then .itemsCantBeSwapped else .itemNotFound, [], some request.count⟩
  else if (request.source.map Item.lootGenerated).getD false then
    ⟨.alreadyLooted, [], some request.count⟩
  else if (request.source.map Item.isBindedNotWith).getD false then
    ⟨.dontOwnThatItem, [], some request.count⟩
  else
    let limit := canTakeMoreSimilarItems store inventory request
    if limit.1 ≠ .ok ∧ request.count = limit.2 then ⟨limit.1, [], some limit.2⟩
    else if limit.1 ≠ .ok then
      searchAnswer store inventory request limit.2
        ((request.count + (2 ^ 32 - limit.2)) % 2 ^ 32)
    else searchAnswer store inventory request 0 request.count

end Passes

end DarkCore.Player
