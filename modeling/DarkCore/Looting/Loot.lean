/-
The loot of a body (`LootMgr.cpp`, `Player.cpp`: `StoreLootItem`,
`LootHandler.cpp`, `Group.cpp`: `GroupLoot`, `CountTheRoll`).

Whether an item is left is kept in the item itself and, for quest items, items
that are free for all and conditional items, in a list for each player. A body
also keeps what was handed out, which the source does not. Views,
notifications, the looters who may trade an item, and items under the threshold
are left out.
-/

import DarkCore.Lib.OrdMap
import DarkCore.Lib.Runs

namespace DarkCore.Looting

open Lib

structure LootStoreItem where
  itemid : Nat
  needsQuest : Bool := false
  conditions : List Nat := []
  count : Nat := 1

structure ItemPrototype where
  /-- `ITEM_PROTO_FLAG_PARTY_LOOT` -/
  partyLoot : Bool := false
  /-- `BAG_FAMILY_MASK_CURRENCY_TOKENS` -/
  currencyToken : Bool := false

structure LootItem where
  itemid : Nat
  conditions : List Nat
  count : Nat
  freeforall : Bool
  needsQuest : Bool
  isLooted : Bool := false
  isBlocked : Bool := false
  isCounted : Bool := false

structure QuestItem where
  index : Nat
  isLooted : Bool := false

def LootItem.ofStore (prototypes : Nat → Option ItemPrototype) (item : LootStoreItem) :
    LootItem where
  itemid := item.itemid
  conditions := item.conditions
  count := item.count
  freeforall :=
    match prototypes item.itemid with
    | none => false
    | some proto => proto.partyLoot
  needsQuest := item.needsQuest

def LootItem.markLooted (item : LootItem) : LootItem := { item with isLooted := true }

def QuestItem.markLooted (entry : QuestItem) : QuestItem := { entry with isLooted := true }

def maxNrLootItems : Nat := 16
def maxNrQuestItems : Nat := 32

structure Loot where
  items : List LootItem := []
  questItems : List LootItem := []
  gold : Nat := 0
  /-- A `uint8` -/
  unlootedCount : Nat := 0
  playerQuestItems : OrdMap Nat (List QuestItem) := .empty
  playerFFAItems : OrdMap Nat (List QuestItem) := .empty
  playerNonQuestNonFFAConditionalItems : OrdMap Nat (List QuestItem) := .empty

/-- What the filling of a loot asks of a player. Storing currency tokens may change the later
answers, so these are given for each slot. -/
structure Looter where
  guid : Nat
  allowed : LootItem → Bool
  allowedLater : Nat → Bool
  room : Nat → Bool

namespace Loot

def isLooted (loot : Loot) : Bool := loot.gold = 0 && loot.unlootedCount = 0

/-- `unlootedCount` is increased so many times. -/
def countMore (more : Nat) (loot : Loot) : Loot :=
  { loot with unlootedCount := (loot.unlootedCount + more) % 256 }

/-- `--unlootedCount` -/
def countLess (loot : Loot) : Loot :=
  { loot with unlootedCount := (loot.unlootedCount + 255) % 256 }

def addItem (prototypes : Nat → Option ItemPrototype) (loot : Loot) (item : LootStoreItem) :
    Loot :=
  if item.needsQuest then
    if loot.questItems.length < maxNrQuestItems then
      { loot with questItems := loot.questItems ++ [.ofStore prototypes item] }
    else loot
  else if loot.items.length < maxNrLootItems then
    let added := { loot with items := loot.items ++ [.ofStore prototypes item] }
    if item.conditions.isEmpty then
      match prototypes item.itemid with
      | none => added.countMore 1
      | some proto => if proto.partyLoot then added else added.countMore 1
    else added
  else loot

/-- The list of `FillFFALoot`, from the given index on -/
def listFFA (allowed : LootItem → Bool) : List LootItem → Nat → List QuestItem
  | [], _ => []
  | item :: rest, index =>
    if !item.isLooted && item.freeforall && allowed item then
      { index := index } :: listFFA allowed rest (index + 1)
    else listFFA allowed rest (index + 1)

def fillFFALoot (looter : Looter) (loot : Loot) : Loot :=
  match listFFA looter.allowed loot.items 0 with
  | [] => loot
  | entry :: rest =>
    { loot.countMore (entry :: rest).length with
      playerFFAItems := loot.playerFFAItems.assign looter.guid (entry :: rest) }

/-- The items, the list and the number of items that `FillQuestLoot` counts; `shown` is the number
of items that the player sees so far. -/
def listQuest (allowed : LootItem → Bool) :
    List LootItem → Nat → Nat → List LootItem × List QuestItem × Nat
  | [], _, _ => ([], [], 0)
  | item :: rest, index, shown =>
    if !item.isLooted && allowed item then
      let counted := if item.freeforall || !item.isBlocked then 1 else 0
      if shown + 1 = maxNrLootItems then
        ({ item with isBlocked := true } :: rest, [{ index := index }], counted)
      else
        let later := listQuest allowed rest (index + 1) (shown + 1)
        ({ item with isBlocked := true } :: later.1, { index := index } :: later.2.1,
          counted + later.2.2)
    else
      let later := listQuest allowed rest (index + 1) shown
      (item :: later.1, later.2)

def fillQuestLoot (looter : Looter) (loot : Loot) : Loot :=
  if loot.items.length = maxNrLootItems then loot
  else
    let listed := listQuest looter.allowed loot.questItems 0 loot.items.length
    match listed.2.1 with
    | [] => loot
    | entry :: rest =>
      { loot.countMore listed.2.2 with
        questItems := listed.1
        playerQuestItems := loot.playerQuestItems.assign looter.guid (entry :: rest) }

/-- The items, the list and the number of items that `FillNonQuestNonFFAConditionalLoot` counts -/
def listConditional (allowed : LootItem → Bool) :
    List LootItem → Nat → List LootItem × List QuestItem × Nat
  | [], _ => ([], [], 0)
  | item :: rest, index =>
    let later := listConditional allowed rest (index + 1)
    if !item.isLooted && !item.freeforall && allowed item && !item.conditions.isEmpty then
      ({ item with isCounted := true } :: later.1, { index := index } :: later.2.1,
        (if item.isCounted then 0 else 1) + later.2.2)
    else (item :: later.1, later.2)

def fillNonQuestNonFFAConditionalLoot (looter : Looter) (loot : Loot) : Loot :=
  let listed := listConditional looter.allowed loot.items 0
  match listed.2.1 with
  | [] => loot
  | entry :: rest =>
    { loot.countMore listed.2.2 with
      items := listed.1
      playerNonQuestNonFFAConditionalItems :=
        loot.playerNonQuestNonFFAConditionalItems.assign looter.guid (entry :: rest) }

/-- The lists of `FillNotNormalLootFor`, each filled unless the player has it -/
def fillLists (looter : Looter) (loot : Loot) : Loot :=
  let quest :=
    if (loot.playerQuestItems.find looter.guid).isSome then loot else loot.fillQuestLoot looter
  let ffa :=
    if (quest.playerFFAItems.find looter.guid).isSome then quest else quest.fillFFALoot looter
  if (ffa.playerNonQuestNonFFAConditionalItems.find looter.guid).isSome then ffa
  else ffa.fillNonQuestNonFFAConditionalLoot looter

def getMaxSlotInLootFor (guid : Nat) (loot : Loot) : Nat :=
  loot.items.length +
    match loot.playerQuestItems.find guid with
    | none => 0
    | some entries => entries.length

inductive Found where
  | quest (position index : Nat)
  | ffa (slot position : Nat)
  | conditional (slot position : Nat)
  | plain (slot : Nat)

def Found.isQuest : Found → Bool
  | .quest _ _ => true
  | _ => false

def findEntry (slot guid : Nat) (lists : OrdMap Nat (List QuestItem)) : Option (Nat × QuestItem) :=
  match lists.find guid with
  | none => none
  | some entries =>
    match entries.findIdx? fun entry => entry.index = slot with
    | none => none
    | some position => entries[position]?.map fun entry => (position, entry)

def lootItemInSlot (slot guid : Nat) (loot : Loot) : Option (LootItem × Found) :=
  if loot.items.length ≤ slot then
    match (loot.playerQuestItems.find guid).bind fun entries =>
        entries[slot - loot.items.length]? with
    | none => none
    | some entry =>
      if entry.isLooted then none
      else
        loot.questItems[entry.index]?.map fun item =>
          (item, .quest (slot - loot.items.length) entry.index)
  else
    match loot.items[slot]? with
    | none => none
    | some item =>
      if item.freeforall then
        match findEntry slot guid loot.playerFFAItems with
        | none => if item.isLooted then none else some (item, .plain slot)
        | some (position, entry) =>
          if entry.isLooted then none else some (item, .ffa slot position)
      else if !item.conditions.isEmpty then
        match findEntry slot guid loot.playerNonQuestNonFFAConditionalItems with
        | none => if item.isLooted then none else some (item, .plain slot)
        | some (position, entry) =>
          if entry.isLooted then none else some (item, .conditional slot position)
      else if item.isLooted then none
      else some (item, .plain slot)

def markEntry (guid position : Nat) (lists : OrdMap Nat (List QuestItem)) :
    OrdMap Nat (List QuestItem) :=
  match lists.find guid with
  | none => lists
  | some entries => lists.assign guid (entries.modify position QuestItem.markLooted)

/-- The marks that `StoreLootItem` sets; an item that is free for all is not marked itself. -/
def markFound (guid : Nat) (item : LootItem) (loot : Loot) : Found → Loot
  | .quest position index =>
    { loot with
      playerQuestItems := markEntry guid position loot.playerQuestItems
      questItems :=
        if item.freeforall then loot.questItems
        else loot.questItems.modify index LootItem.markLooted }
  | .ffa slot position =>
    { loot with
      playerFFAItems := markEntry guid position loot.playerFFAItems
      items := if item.freeforall then loot.items else loot.items.modify slot .markLooted }
  | .conditional slot position =>
    { loot with
      playerNonQuestNonFFAConditionalItems :=
        markEntry guid position loot.playerNonQuestNonFFAConditionalItems
      items := if item.freeforall then loot.items else loot.items.modify slot .markLooted }
  | .plain slot =>
    { loot with
      items := if item.freeforall then loot.items else loot.items.modify slot .markLooted }

end Loot

structure CurrencyLoot where
  currencyId : Nat
  currencyAmount : Nat

/-- What is handed out: a slot of the items, an index of the quest items or a row of the
currencies -/
inductive Good where
  | item (slot : Nat)
  | quest (index : Nat)
  | currency (row : Nat)
deriving DecidableEq

structure Handout where
  good : Good
  guid : Nat
deriving DecidableEq

structure Body where
  loot : Loot
  currencies : List CurrencyLoot := []
  /-- The group rules were applied (`lootForBody`, or `GO_ACTIVATED`). -/
  opened : Bool := false
  /-- The slots for which a roll goes on -/
  rolls : List Nat := []
  /-- All that was handed out, and whether the counter fell below zero -/
  handed : List Handout := []
  wrapped : Bool := false

inductive RollEnd where
  | won (guid : Nat) (room : Bool)
  | disenchanted (guid : Nat)
  | offline
  | passed

def Loot.Found.good : Loot.Found → Good
  | .quest _ index => .quest index
  | .ffa slot _ => .item slot
  | .conditional slot _ => .item slot
  | .plain slot => .item slot

namespace Body

/-- A hand-out that was marked is counted; a stack of nothing is no item (`CreateItem`). -/
def handOut (good : Good) (guid count : Nat) (marked : Loot) (body : Body) : Body :=
  { body with
    loot := marked.countLess
    handed := if count = 0 then body.handed else ⟨good, guid⟩ :: body.handed
    wrapped := body.wrapped || marked.unlootedCount = 0 }

/-- `StoreLootItem`; `room` is the answer of `CanStoreNewItem`. -/
def storeLootItem (guid slot : Nat) (room : Bool) (body : Body) : Body :=
  match body.loot.lootItemInSlot slot guid with
  | none => body
  | some (item, found) =>
    if !found.isQuest && item.isBlocked then body
    else if room then
      body.handOut found.good guid item.count (body.loot.markFound guid item found)
    else body

/-- The items that the loop of `FillNotNormalLootFor` stores: the item that it looks at is the one
of `quest_items`, not the one of the player's list. -/
def wantsToken (prototypes : Nat → Option ItemPrototype) (looter : Looter) (slot : Nat)
    (body : Body) : Bool :=
  let item :=
    if slot < body.loot.items.length then body.loot.items[slot]?
    else body.loot.questItems[slot - body.loot.items.length]?
  match item with
  | none => false
  | some item =>
    !item.isLooted && item.freeforall && looter.allowedLater slot &&
      match prototypes item.itemid with
      | none => false
      | some proto => proto.currencyToken

def storeToken (prototypes : Nat → Option ItemPrototype) (looter : Looter) (body : Body)
    (slot : Nat) : Body :=
  if body.wantsToken prototypes looter slot then
    body.storeLootItem looter.guid slot (looter.room slot)
  else body

def fillNotNormalLootFor (prototypes : Nat → Option ItemPrototype) (looter : Looter)
    (withCurrency : Bool) (body : Body) : Body :=
  let filled := { body with loot := body.loot.fillLists looter }
  if withCurrency then
    (List.range (filled.loot.getMaxSlotInLootFor looter.guid)).foldl (storeToken prototypes looter)
      filled
  else filled

/-- `GroupLoot` and `NeedBeforeGreed`; `rolled` are the slots of items over the threshold for
which somebody can roll. -/
def groupLoot (rolled : Nat → Bool) (body : Body) : Body :=
  if body.opened then body
  else
    { body with
      opened := true
      loot := { body.loot with
        items := body.loot.items.mapIdx fun slot item =>
          if !item.freeforall && rolled slot then { item with isBlocked := true } else item }
      rolls := (List.range body.loot.items.length).filter fun slot =>
        match body.loot.items[slot]? with
        | none => false
        | some item => !item.freeforall && rolled slot }

/-- `CountTheRoll` for the roll of a slot. A disenchanted item is handed out as well. -/
def countTheRoll (slot : Nat) (rollEnd : RollEnd) (body : Body) : Body :=
  match body.loot.items[slot]? with
  | none => body
  | some item =>
    if body.rolls.contains slot then
      let ended := { body with rolls := body.rolls.erase slot }
      let looted :=
        { body.loot with items := body.loot.items.modify slot LootItem.markLooted }
      let unblocked :=
        { body.loot with
          items := body.loot.items.modify slot fun item => { item with isBlocked := false } }
      match rollEnd with
      | .won guid true => ended.handOut (.item slot) guid item.count looted
      | .won _ false => { ended with loot := unblocked }
      | .disenchanted guid => ended.handOut (.item slot) guid 1 looted
      | .offline => ended
      | .passed => { ended with loot := unblocked }
    else body

/-- `HandleLootMasterGiveOpcode`, which reads one item behind the last one if it is asked to: then
there is no result. -/
def handleLootMasterGive (target slot : Nat) (room : Bool) (body : Body) : Option Body :=
  if body.loot.items.length < slot then some body
  else
    match body.loot.items[slot]? with
    | none => none
    | some item =>
      if room then
        some (body.handOut (.item slot) target item.count { body.loot with
            items := body.loot.items.modify slot fun item =>
              { item with count := 0, isLooted := true } })
      else some body

/-- `CMSG_AUTOSTORE_LOOT_CURRENCY` -/
def handleAutostoreLootCurrency (guid slot : Nat) (body : Body) : Body :=
  if slot < body.currencies.length then
    { body with handed := ⟨.currency slot, guid⟩ :: body.handed }
  else body

def handleLootMoney (body : Body) : Body := { body with loot := { body.loot with gold := 0 } }

/-- The filling for a player comes in its steps, the lists and each slot. -/
inductive Request where
  | fill (looter : Looter)
  | token (looter : Looter) (slot : Nat)
  | groupLoot (rolled : Nat → Bool)
  | autostore (guid slot : Nat) (room : Bool)
  | currency (guid slot : Nat)
  | rollEnds (slot : Nat) (rollEnd : RollEnd)
  | masterGive (target slot : Nat) (room : Bool)
  | money

variable (prototypes : Nat → Option ItemPrototype)

def handle (body : Body) : Request → Option Body
  | .fill looter => some { body with loot := body.loot.fillLists looter }
  | .token looter slot => body.storeToken prototypes looter slot
  | .groupLoot rolled => body.groupLoot rolled
  | .autostore guid slot room => body.storeLootItem guid slot room
  | .currency guid slot => body.handleAutostoreLootCurrency guid slot
  | .rollEnds slot rollEnd => body.countTheRoll slot rollEnd
  | .masterGive target slot room => body.handleLootMasterGive target slot room
  | .money => body.handleLootMoney

def next (body : Option Body) (request : Request) : Option Body :=
  body.bind fun body => body.handle prototypes request

def start (gold : Nat) (currencies : List CurrencyLoot) (rows : List LootStoreItem) :
    Option Body :=
  some { loot := rows.foldl (Loot.addItem prototypes) { gold := gold }, currencies := currencies }

def fillRequests (looter : Looter) (withCurrency : Bool) (body : Body) : List Request :=
  .fill looter ::
    if withCurrency then
      (List.range ((body.loot.fillLists looter).getMaxSlotInLootFor looter.guid)).map
        (.token looter)
    else []

end Body

end DarkCore.Looting
