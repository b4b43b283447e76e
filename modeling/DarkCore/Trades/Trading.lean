/-
Trading (`TradeData` in `Player.cpp`, `TradeHandler.cpp`). An offer is a list of
guids and an amount of money; the items stay in the inventory until both have
accepted. Then all of them are taken out, and moved to the other side slot by
slot.
-/

import DarkCore.Player.Money
import DarkCore.Player.StoreItem

namespace DarkCore.Trades

open DarkCore.Lib DarkCore.Items DarkCore.Player

abbrev tradeSlotCount : Nat := 7

def tradeSlotNontraded : Fin tradeSlotCount := 6

/-- The `TRADE_SLOT_TRADED_COUNT` first slots -/
def tradedSlots : List (Fin tradeSlotCount) := [0, 1, 2, 3, 4, 5]

/-- `TradeData`; 0 stands for no item and for no spell. -/
structure TradeData where
  accepted : Bool
  money : Nat
  spell : Nat
  spellCastItem : Nat
  items : Fin tradeSlotCount → Nat

structure Trader where
  slots : Place → Option Item
  purse : Purse
  trade : Option TradeData

structure Table where
  player : Trader
  trader : Trader
  nextGuid : Nat

namespace Table

variable (table : Table)

def swap : Table := { table with player := table.trader, trader := table.player }

def playerInventory : Inventory := ⟨table.player.slots, table.nextGuid⟩

def traderInventory : Inventory := ⟨table.trader.slots, table.nextGuid⟩

def setTrade (trade : TradeData) : Table :=
  { table with player := { table.player with trade := some trade } }

/-- `SetAccepted(false)` on both sides -/
def withdraw : Table :=
  { table with
    player :=
      { table.player with trade := table.player.trade.map ({ · with accepted := false }) }
    trader :=
      { table.trader with trade := table.trader.trade.map ({ · with accepted := false }) } }

def setSpell (spellId castItem : Nat) : Table :=
  match table.player.trade with
  | none => table
  | some trade =>
    if trade.spell = spellId ∧ trade.spellCastItem = castItem then table
    else (table.setTrade { trade with spell := spellId, spellCastItem := castItem }).withdraw

def setItem (slot : Fin tradeSlotCount) (itemGuid : Nat) : Table :=
  match table.player.trade with
  | none => table
  | some trade =>
    if trade.items slot = itemGuid then table
    else
      let table :=
        (table.setTrade { trade with items := Function.update trade.items slot itemGuid }).withdraw
      let table := if slot = tradeSlotNontraded then (table.swap.setSpell 0 0).swap else table
      table.setSpell 0 0

def setMoney (money : Nat) : Table :=
  match table.player.trade with
  | none => table
  | some trade =>
    if trade.money = money then table
    else (table.setTrade { trade with money := money }).withdraw

end Table

/-- Where `GetItemByGuid` looks, in its order; the slots of the bank itself are left out. -/
def guidPositions (store : ItemStore) (inventory : Inventory) : List Position :=
  (slotRange 0 inventorySlotItemEnd ++ slotRange keyringSlotStart currencyTokenSlotEnd).map
      (inventorySlotBag0, ·) ++
    (slotRange inventorySlotBagStart inventorySlotBagEnd ++
        slotRange bankSlotBagStart bankSlotBagEnd).flatMap fun bagSlot =>
      match inventory.getMain bagSlot with
      | some bag => (List.range (bag.getBagSize store)).map (bagSlot, ·)
      | none => []

/-- `Player::GetItemByGuid`, with the place of the item -/
def getItemByGuid (store : ItemStore) (inventory : Inventory) (guid : Nat) :
    Option (Place × Item) :=
  (guidPositions store inventory).findSome? fun position =>
    (inventory.getItemByPos store position).bind fun item =>
      if item.guid = guid then some (inventory.placeOf position, item) else none

def TradeData.getItem (store : ItemStore) (inventory : Inventory) (trade : TradeData)
    (slot : Fin tradeSlotCount) : Option (Place × Item) :=
  if trade.items slot = 0 then none else getItemByGuid store inventory (trade.items slot)

def TradeData.getItems (store : ItemStore) (inventory : Inventory) (trade : TradeData) :
    List (Option (Place × Item)) :=
  tradedSlots.map (trade.getItem store inventory)

def handed (item : Item) : Item := { item with owned := false }

/-- The request of `CanStoreItem(NULL_BAG, NULL_SLOT, dest, pItem, false)` -/
def requestFor (item : Item) : StoreRequest where
  entry := item.entry
  count := item.count
  source := some item
  swap := false
  bag := nullBag
  slot := nullSlot

section CanStoreItems

variable (store : ItemStore) (inventory : Inventory)

def bagPositions (test : Item → Bool) : List Position :=
  equippedBags.flatMap fun bagSlot =>
    match inventory.getMain bagSlot with
    | some bag => if test bag then (List.range (bag.getBagSize store)).map (bagSlot, ·) else []
    | none => []

def mainPositions (first past : Nat) : List Position :=
  (slotRange first past).map (inventorySlotBag0, ·)

def spaceTable (position : Position) : Nat :=
  match inventory.getItemByPos store position with
  | some item => if item.inTrade = true then 0 else item.count
  | none => 0

def mergePositions (proto : ItemPrototype) : List Position :=
  mainPositions keyringSlotStart keyringSlotEnd ++
    mainPositions currencyTokenSlotStart currencyTokenSlotEnd ++
    mainPositions inventorySlotItemStart inventorySlotItemEnd ++
    bagPositions store inventory fun bag => itemCanGoIntoBag proto (bag.proto store)

def freePositions (proto : ItemPrototype) : List Position :=
  (if proto.bagFamily ≠ 0 then
    (if hasFamily proto bagFamilyMaskKeys then mainPositions keyringSlotStart keyringSlotEnd
      else []) ++ (if hasFamily proto bagFamilyMaskCurrencyTokens then
      mainPositions currencyTokenSlotStart currencyTokenSlotEnd else []) ++
    bagPositions store inventory fun bag =>
      !isPlainContainer (bag.proto store) && itemCanGoIntoBag proto (bag.proto store) else []) ++
    mainPositions inventorySlotItemStart inventorySlotItemEnd ++
    bagPositions store inventory fun bag => isPlainContainer (bag.proto store)

def reserveSpace (space : Position → Nat) (item : Item) : Option (Position → Nat) :=
  let proto := item.proto store
  let merge :=
    if proto.stackable ≠ 1 then
      (mergePositions store inventory proto).find? fun position =>
        match inventory.getItemByPos store position with
        | some resident =>
          decide ((requestFor item).canBeMergedPartlyWith store resident = .ok) &&
            decide (space position + item.count ≤ store.maxStack item.entry)
        | none => false
    else none
  match merge with
  | some position => some (Function.update space position (space position + item.count))
  | none =>
    ((freePositions store inventory proto).find? fun position =>
      decide (space position = 0)).map fun position => Function.update space position 1

def canStoreAll : (Position → Nat) → List (Option Item) → InventoryResult
  | _, [] => .ok
  | space, none :: rest => canStoreAll space rest
  | space, some item :: rest =>
    if store.known item.entry = false then .itemNotFound
    else if item.lootGenerated = true then .alreadyLooted
    else if item.isBindedNotWith = true then .dontOwnThatItem
    else
      let limit := canTakeMoreSimilarItems store inventory (requestFor item)
      if limit.1 ≠ .ok then limit.1
      else
        match reserveSpace store inventory space item with
        | some space => canStoreAll space rest
        | none => .inventoryFull

def canStoreItems (items : List (Option Item)) : InventoryResult :=
  canStoreAll store inventory (spaceTable store inventory) items

end CanStoreItems

/-- `SetInTrade` on items that are offered -/
def markInTrade (offered : List (Option (Place × Item))) (inventory : Inventory) : Inventory :=
  { inventory with
    slots := fun place =>
      (inventory.slots place).map fun item =>
        if item.guid ∈ offered.filterMap (·.map (·.2.guid)) then { item with inTrade := true }
        else item }

/-- `_CanStoreItem` with a list that an earlier search has filled -/
def canStoreItemAfter (store : ItemStore) (inventory : Inventory) (dest : List (Position × Nat))
    (request : StoreRequest) : Answer :=
  let search (noSimilar count : Nat) : Answer :=
    match searchRoom store inventory request noSimilar (dest, count) with
    | .error answer => answer
    | .ok plan => ⟨.inventoryFull, plan.1, some ((plan.2 + noSimilar) % 2 ^ 32)⟩
  if !store.known request.entry then
    ⟨if request.swap then .itemsCantBeSwapped else .itemNotFound, dest, some request.count⟩
  else if (request.source.map Item.lootGenerated).getD false then
    ⟨.alreadyLooted, dest, some request.count⟩
  else if (request.source.map Item.isBindedNotWith).getD false then
    ⟨.dontOwnThatItem, dest, some request.count⟩
  else
    let limit := canTakeMoreSimilarItems store inventory request
    if limit.1 ≠ .ok ∧ request.count = limit.2 then ⟨limit.1, dest, some limit.2⟩
    else if limit.1 ≠ .ok then search limit.2 ((request.count + (2 ^ 32 - limit.2)) % 2 ^ 32)
    else search 0 request.count

structure Packs where
  player : Place → Option Item
  trader : Place → Option Item
  nextGuid : Nat
  toPlayer : List Item := []
  toTrader : List Item := []

namespace Packs

variable (store : ItemStore) (packs : Packs)

def playerInventory : Inventory := ⟨packs.player, packs.nextGuid⟩

def traderInventory : Inventory := ⟨packs.trader, packs.nextGuid⟩

/-- `_player->MoveItemToInventory` -/
def storePlayer (dest : List (Position × Nat)) (item : Item) : Packs :=
  let stored := storeItem store packs.playerInventory dest item
  { packs with player := stored.slots, nextGuid := stored.nextGuid }

/-- `trader->MoveItemToInventory` -/
def storeTrader (dest : List (Position × Nat)) (item : Item) : Packs :=
  let stored := storeItem store packs.traderInventory dest item
  { packs with trader := stored.slots, nextGuid := stored.nextGuid }

def answer (inventory : Inventory) : Option Item → Answer
  | none => ⟨.ok, [], none⟩
  | some item => canStoreItem store inventory (requestFor item)

/-- `traderCanTrade` -/
def traderAnswer (mine : Option Item) : Answer :=
  answer store packs.traderInventory (mine.map handed)

/-- `playerCanTrade` -/
def playerAnswer (his : Option Item) : Answer :=
  answer store packs.playerInventory (his.map handed)

def bothCanTrade (mine his : Option Item) : Bool :=
  decide ((packs.traderAnswer store mine).result = .ok) &&
    decide ((packs.playerAnswer store his).result = .ok)

def handTrader (traderDst : List (Position × Nat)) : Option Item → Packs
  | none => packs
  | some item =>
    { packs.storeTrader store traderDst (handed item) with toTrader := packs.toTrader ++ [item] }

def handPlayer (playerDst : List (Position × Nat)) : Option Item → Packs
  | none => packs
  | some item =>
    { packs.storePlayer store playerDst (handed item) with toPlayer := packs.toPlayer ++ [item] }

def handOver (mine his : Option Item) : Packs :=
  (packs.handTrader store (packs.traderAnswer store mine).dest mine).handPlayer store
    (packs.playerAnswer store his).dest his

def returnPlayer (playerDst : List (Position × Nat)) : Option Item → Packs
  | none => packs
  | some item =>
    let back := canStoreItemAfter store packs.playerInventory playerDst (requestFor item)
    if back.result = .ok then packs.storePlayer store back.dest item else packs

def returnTrader (traderDst : List (Position × Nat)) : Option Item → Packs
  | none => packs
  | some item =>
    let back := canStoreItemAfter store packs.traderInventory traderDst (requestFor item)
    if back.result = .ok then packs.storeTrader store back.dest item else packs

def giveBack (mine his : Option Item) : Packs :=
  (packs.returnPlayer store (packs.playerAnswer store his).dest mine).returnTrader store
    (packs.traderAnswer store mine).dest his

/-- One slot of `WorldSession::moveItems` -/
def moveItem (mine his : Option Item) : Packs :=
  if packs.bothCanTrade store mine his = true then packs.handOver store mine his
  else packs.giveBack store mine his

def moveItems : Packs → List (Option Item × Option Item) → Packs
  | packs, [] => packs
  | packs, (mine, his) :: rest => moveItems (packs.moveItem store mine his) rest

end Packs

structure Checks where
  /-- `Item::CanBeTraded` -/
  canBeTraded : Item → Bool
  /-- `Spell::CheckCast` of the spell of the player -/
  playerCasts : Bool
  traderCasts : Bool

/-- `MoveItemFromInventory` for the items of an offer; an item knows its place. -/
def takeOut (offered : List (Option (Place × Item))) (slots : Place → Option Item) :
    Place → Option Item :=
  offered.foldl
    (fun slots content => match content with
      | none => slots
      | some found => Function.update slots found.1 none) slots

namespace Table

variable (store : ItemStore) (checks : Checks) (table : Table)

def playerItems : List (Option (Place × Item)) :=
  match table.player.trade with
  | none => []
  | some trade => trade.getItems store table.playerInventory

def traderItems : List (Option (Place × Item)) :=
  match table.trader.trade with
  | none => []
  | some trade => trade.getItems store table.traderInventory

def allTradeable : Bool :=
  ((table.playerItems store).all fun content => match content with
    | none => true
    | some found => checks.canBeTraded found.2 && !(handed found.2).isBindedNotWith) &&
  ((table.traderItems store).all fun content => match content with
    | none => true
    | some found => checks.canBeTraded found.2)

def spellFails (mine his : TradeData) (inventory hisInventory : Inventory) (casts : Bool) : Bool :=
  decide (mine.spell ≠ 0) &&
    ((his.getItem store hisInventory tradeSlotNontraded).isNone ||
      (decide (mine.spellCastItem ≠ 0) &&
        (getItemByGuid store inventory mine.spellCastItem).isNone) || !casts)

def allFit : Bool :=
  decide (canStoreItems store (markInTrade (table.traderItems store) table.traderInventory)
    ((table.playerItems store).map (·.map (handed ·.2))) = .ok) &&
  decide (canStoreItems store (markInTrade (table.playerItems store) table.playerInventory)
    ((table.traderItems store).map (·.map (handed ·.2))) = .ok)

def moved : Packs :=
  Packs.moveItems store
    { player := takeOut (table.playerItems store) table.player.slots
      trader := takeOut (table.traderItems store) table.trader.slots
      nextGuid := table.nextGuid }
    (((table.playerItems store).map (·.map (·.2))).zip
      ((table.traderItems store).map (·.map (·.2))))

def exchange (mine his : TradeData) : Table where
  player :=
    { slots := (table.moved store).player
      purse := (table.player.purse.modifyMoney (-int32 mine.money)).modifyMoney (int32 his.money)
      trade := none }
  trader :=
    { slots := (table.moved store).trader
      purse := (table.trader.purse.modifyMoney (-int32 his.money)).modifyMoney (int32 mine.money)
      trade := none }
  nextGuid := (table.moved store).nextGuid

/-- What `HandleAcceptTradeOpcode` does before the exchange: the table that it leaves, or that the
exchange follows -/
def agreement (mine his : TradeData) : Except Table Unit :=
  let accepted := table.setTrade { mine with accepted := true }
  if table.player.purse.hasEnoughMoney mine.money = false then
    .error (table.setTrade { mine with accepted := false })
  else if table.trader.purse.hasEnoughMoney his.money = false then
    .error (accepted.swap.setTrade { his with accepted := false }).swap
  else if table.allTradeable store checks = false then .error accepted
  else if his.accepted = false then .error accepted
  else if spellFails store mine his table.playerInventory table.traderInventory
      checks.playerCasts = true then .error (accepted.setSpell 0 0)
  else if spellFails store his mine table.traderInventory table.playerInventory
      checks.traderCasts = true then .error (accepted.swap.setSpell 0 0).swap
  else if table.allFit store = false then .error accepted.withdraw
  else .ok ()

/-- `WorldSession::HandleAcceptTradeOpcode` -/
def handleAcceptTrade : Table :=
  match table.player.trade, table.trader.trade with
  | some mine, some his =>
    match table.agreement store checks mine his with
    | .error left => left
    | .ok () => table.exchange store mine his
  | _, _ => table

def handleUnacceptTrade : Table :=
  match table.player.trade with
  | none => table
  | some trade => table.setTrade { trade with accepted := false }

def handleSetTradeGold (gold : Nat) : Table := table.setMoney (gold % 2 ^ 32)

def hasItem (trade : TradeData) (guid : Nat) : Bool :=
  (List.finRange tradeSlotCount).any fun slot => decide (trade.items slot = guid)

def handleSetTradeItem (tradeSlot : Nat) (position : Position) : Table :=
  match table.player.trade with
  | none => table
  | some trade =>
    if valid : tradeSlot < tradeSlotCount then
      match table.playerInventory.getItemByPos store position with
      | none => table
      | some item =>
        if ⟨tradeSlot, valid⟩ ≠ tradeSlotNontraded ∧ checks.canBeTraded item = false then table
        else if hasItem trade item.guid = true then table
        else table.setItem ⟨tradeSlot, valid⟩ item.guid
    else table

def handleClearTradeItem (tradeSlot : Nat) : Table :=
  if valid : tradeSlot < tradeSlotCount then table.setItem ⟨tradeSlot, valid⟩ 0 else table

def isInventoryPos (position : Position) : Bool :=
  (decide (position.1 = inventorySlotBag0) && (decide (position.2 = nullSlot) ||
      decide (inventorySlotItemStart ≤ position.2 ∧ position.2 < inventorySlotItemEnd) ||
      decide (keyringSlotStart ≤ position.2 ∧ position.2 < currencyTokenSlotEnd))) ||
    decide (inventorySlotBagStart ≤ position.1 ∧ position.1 < inventorySlotBagEnd)

/-- `Player::SplitItem` into a slot of the inventory -/
def splitItem (source destination : Position) (count : Nat) : Table :=
  match table.playerInventory.getItemByPos store source with
  | none => table
  | some item =>
    if item.lootGenerated = true ∨ item.count ≤ count then table
    else if isInventoryPos destination = false then table
    else
      match table.playerInventory.cloneItem store item count with
      | none => table
      | some (copy, inventory) =>
        let left := inventory.put (inventory.placeOf source)
          (some { item with count := item.count - count })
        let answer := canStoreItem store left
          { requestFor copy with bag := destination.1, slot := destination.2 }
        if answer.result ≠ .ok then { table with nextGuid := inventory.nextGuid }
        else
          let stored := storeItem store left answer.dest copy
          { table with
            player := { table.player with slots := stored.slots }
            nextGuid := stored.nextGuid }

end Table

end DarkCore.Trades
