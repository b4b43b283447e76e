/-
Loot templates (`LootMgr.cpp`, `LootMgr.h`): the rows of a `*_loot_template`
table, the templates built of them and the filling of a loot.

`LootTemplate::Process` calls itself for each reference that is drawn. Here the
calls and the rounds of its loops that are still to be made are a list of tasks,
the next one first; performing a task is one step, and every step is given the
dice that are thrown in it. Chances and rates are rational numbers. The reports
that the loader writes, the random properties of an item and the sharing out of
the loot are left out.
-/

import DarkCore.Lib.Worklist
import DarkCore.Looting.Loot
import Mathlib.Data.Rat.Floor

namespace DarkCore.LootTables

open Lib
open Looting (Loot LootItem)

/-- What `rand_chance` returns -/
structure Percent where
  value : ℚ
  nonneg : 0 ≤ value
  below : value < 100

/-- The dice of one attempt to draw an entry: a chance, the place in a list that `irand` chooses
and the one in the range of `urand` -/
structure Throw where
  chance : Percent
  place : Nat
  count : Nat

/-- `roll_chance_f` -/
def rollChance (chance : ℚ) (throw : Throw) : Bool := decide (throw.chance.value < chance)

structure ItemPrototype extends Looting.ItemPrototype where
  inventoryType : Nat := 0
  quality : Nat := 0

structure LootStoreItem where
  itemid : Nat
  /-- Always positive, for quest and other items and for references -/
  chance : ℚ
  /-- The least count of an item (positive) or the referenced template (negative) -/
  mincountOrRef : Int
  lootmode : BitVec 16
  group : Nat
  needsQuest : Bool
  /-- The largest count of an item or the multiplicator of a reference -/
  maxcount : Nat
  conditions : List Nat := []
deriving DecidableEq

structure LootGroup where
  explicitlyChanced : List LootStoreItem := []
  equalChanced : List LootStoreItem := []
deriving DecidableEq

structure LootTemplate where
  entries : List LootStoreItem := []
  groups : List LootGroup := []
deriving DecidableEq

abbrev LootStore := OrdMap Nat LootTemplate

structure Row where
  entry : Nat
  item : Nat
  chanceOrQuestChance : ℚ
  lootmode : BitVec 16
  groupid : Nat
  mincountOrRef : Int
  maxcount : Int

/-- The constructor of `LootStoreItem`: a negative chance is that of a quest item, `group` has
seven bits and `maxcount` eight. -/
def Row.storeItem (row : Row) : LootStoreItem where
  itemid := row.item
  chance := |row.chanceOrQuestChance|
  mincountOrRef := row.mincountOrRef
  lootmode := row.lootmode
  group := row.groupid % 2 ^ 7
  needsQuest := decide (row.chanceOrQuestChance < 0)
  maxcount := (row.maxcount % 2 ^ 8).toNat

def LootStoreItem.isValid (prototypes : Nat → Option ItemPrototype) (item : LootStoreItem) :
    Bool :=
  if 1 <<< 7 ≤ item.group then false
  else if item.mincountOrRef = 0 then false
  else if 0 < item.mincountOrRef then
    match prototypes item.itemid with
    | none => false
    | some _ =>
      if item.chance = 0 ∧ item.group = 0 then false
      else if item.chance ≠ 0 ∧ item.chance < 1 / 1000000 then false
      else decide (item.mincountOrRef ≤ item.maxcount)
  -- The quest chance of a reference is reported and kept.
  else if item.needsQuest then true
  else decide (item.chance ≠ 0)

def LootGroup.addEntry (group : LootGroup) (item : LootStoreItem) : LootGroup :=
  if item.chance ≠ 0 then
    { group with explicitlyChanced := group.explicitlyChanced ++ [item] }
  else { group with equalChanced := group.equalChanced ++ [item] }

def LootTemplate.addEntry (template : LootTemplate) (item : LootStoreItem) : LootTemplate :=
  if 0 < item.group ∧ 0 < item.mincountOrRef then
    let groups :=
      if template.groups.length ≤ item.group then
        template.groups ++ List.replicate (item.group - template.groups.length) ⟨[], []⟩
      else template.groups
    { template with groups := groups.modify (item.group - 1) fun group => group.addEntry item }
  else { template with entries := template.entries ++ [item] }

def loadRow (prototypes : Nat → Option ItemPrototype) (store : LootStore) (row : Row) :
    LootStore :=
  if 255 < row.maxcount then store
  else if row.storeItem.isValid prototypes then
    store.assign row.entry (((store.find row.entry).getD ⟨[], []⟩).addEntry row.storeItem)
  else store

def loadLootTable (prototypes : Nat → Option ItemPrototype) (rows : List Row) : LootStore :=
  rows.foldl (loadRow prototypes) .empty

structure Rates where
  referenced : ℚ := 1
  referencedAmount : ℚ := 1
  /-- The rate that `qualityToRate` names -/
  quality : Nat → ℚ := fun _ => 1

/-- `references` is `LootTemplates_Reference`; `rate` and `lootMode` are the arguments that
`Process` hands on unchanged. -/
structure Source where
  prototypes : Nat → Option ItemPrototype
  references : LootStore
  rates : Rates := {}
  rate : Bool := true
  lootMode : BitVec 16

/-- `LootTemplates_Reference.GetLootFor(-mincountOrRef)` -/
def Source.referenced (source : Source) (item : LootStoreItem) : Option LootTemplate :=
  source.references.find (-item.mincountOrRef).toNat

def Source.repeats (source : Source) (item : LootStoreItem) : Nat :=
  ⌊(item.maxcount : ℚ) * source.rates.referencedAmount⌋.toNat

/-- The chance that `LootStoreItem::Roll` compares with the dice -/
def Source.rolledChance (source : Source) (item : LootStoreItem) : ℚ :=
  if item.mincountOrRef < 0 then
    item.chance * (if source.rate then source.rates.referenced else 1)
  else
    match source.prototypes item.itemid with
    | none => item.chance * 1
    | some proto =>
      item.chance * (if source.rate then source.rates.quality proto.quality else 1)

def Source.roll (source : Source) (item : LootStoreItem) (throw : Throw) : Bool :=
  if 100 ≤ item.chance then true else rollChance (source.rolledChance item) throw

/-- The constructor of `LootItem` rolls the count. -/
def LootStoreItem.counted (item : LootStoreItem) (throw : Throw) : Looting.LootStoreItem where
  itemid := item.itemid
  needsQuest := item.needsQuest
  conditions := item.conditions
  count :=
    item.mincountOrRef.toNat + throw.count % (item.maxcount - item.mincountOrRef.toNat + 1)

def Source.lootPrototypes (source : Source) (itemid : Nat) : Option Looting.ItemPrototype :=
  (source.prototypes itemid).map ItemPrototype.toItemPrototype

def Source.addItem (source : Source) (loot : Loot) (item : LootStoreItem) (throw : Throw) :
    Loot :=
  loot.addItem source.lootPrototypes (item.counted throw)

def ItemPrototype.dropLimit (proto : ItemPrototype) : Nat :=
  if proto.inventoryType = 0 then 3 else 1

def ItemPrototype.limitReached (proto : ItemPrototype) (counter : Nat) : Bool :=
  proto.inventoryType == 0 && counter == 3 || proto.inventoryType != 0 && counter == 1

/-- The search for duplicates in `LootGroup::Process`, whose counter is a `uint8` -/
def findDuplicate (proto : ItemPrototype) (itemid : Nat) : Nat → Bool → List LootItem → Bool
  | _, duplicate, [] => duplicate
  | counter, duplicate, dropped :: rest =>
    if dropped.itemid = itemid then
      let counter := (counter + 1) % 256
      findDuplicate proto itemid counter (duplicate || proto.limitReached counter) rest
    else findDuplicate proto itemid counter duplicate rest

def Source.isDuplicate (source : Source) (loot : Loot) (item : LootStoreItem) : Bool :=
  match source.prototypes item.itemid with
  | none => false
  | some proto => findDuplicate proto item.itemid 0 false loot.items

/-- The entries from the drawn one on; those before it are erased. -/
def rollExplicit (roll : ℚ) : List LootStoreItem → List LootStoreItem
  | [] => []
  | item :: rest =>
    if 100 ≤ item.chance then item :: rest
    else if roll - item.chance < 0 then item :: rest
    else rollExplicit (roll - item.chance) rest

/-- The loop of `LootGroup::Process` over what is left of the two lists. The numbers are that of
the attempts left, `uiMaxAttempts - uiAttemptCount`, and that of the attempts made. -/
def Source.attempt (source : Source) (dice : Nat → Throw) :
    Nat → Nat → List LootStoreItem → List LootStoreItem → Loot → Loot
  | 0, _, _, _, loot => loot
  | left + 1, made, explicit, equal, loot =>
    match rollExplicit (dice made).chance.value explicit with
    | item :: rest =>
      if item.lootmode &&& source.lootMode ≠ 0 then
        if source.isDuplicate loot item then
          source.attempt dice left (made + 1) rest equal loot
        else source.addItem loot item (dice made)
      else source.attempt dice left (made + 1) (item :: rest) equal loot
    | [] =>
      match equal[(dice made).place % equal.length]? with
      | some item =>
        if item.lootmode &&& source.lootMode ≠ 0 then
          if source.isDuplicate loot item then
            source.attempt dice left (made + 1) []
              (equal.eraseIdx ((dice made).place % equal.length)) loot
          else source.addItem loot item (dice made)
        else source.attempt dice left (made + 1) [] equal loot
      -- Nothing was drawn and both lists are empty.
      | none => loot

/-- `LootGroup::Process`; `uiMaxAttempts` is a `uint8`. -/
def Source.processGroup (source : Source) (dice : Nat → Throw) (group : LootGroup) (loot : Loot) :
    Loot :=
  source.attempt dice
    ((group.explicitlyChanced.length + group.equalChanced.length) % 2 ^ 8) 0
    group.explicitlyChanced group.equalChanced loot

/-- Where the loop over the dropped items in `LootTemplate::Process` ends: each `continue` goes
on with the next dropped item. -/
def scanDropped (proto : ItemPrototype) (itemid : Nat) : Nat → List LootItem → List LootItem
  | _, [] => []
  | counter, dropped :: rest =>
    if dropped.itemid = itemid then
      let counter := (counter + 1) % 256
      if proto.limitReached counter then scanDropped proto itemid counter rest
      else scanDropped proto itemid counter rest
    else scanDropped proto itemid counter rest

/-- Whether the loop was left before its end, which lets `Process` pass over the entry -/
def Source.isStopped (source : Source) (loot : Loot) (item : LootStoreItem) : Bool :=
  match source.prototypes item.itemid with
  | none => false
  | some proto => !(scanDropped proto item.itemid 0 loot.items).isEmpty

/-- A call of `LootTemplate::Process`, a round of its loop over the entries or one of its loop
over the groups -/
inductive Task where
  | process (template : LootTemplate) (groupId : Nat)
  | entry (item : LootStoreItem)
  | group (group : LootGroup)

def LootTemplate.tasks (template : LootTemplate) : List Task :=
  template.entries.map Task.entry ++ template.groups.map Task.group

def Source.performEntry (source : Source) (dice : Nat → Throw) (item : LootStoreItem)
    (loot : Loot) : Loot × List Task :=
  if item.lootmode &&& ~~~source.lootMode ≠ 0 then (loot, [])
  else if source.roll item (dice 0) = false then (loot, [])
  else if source.isStopped loot item then (loot, [])
  else if item.mincountOrRef < 0 then
    match source.referenced item with
    | none => (loot, [])
    | some referenced =>
      (loot, List.replicate (source.repeats item) (.process referenced item.group))
  else (source.addItem loot item (dice 0), [])

def Source.perform (source : Source) (dice : Nat → Throw) (task : Task) (loot : Loot) :
    Loot × List Task :=
  match task with
  | .process template groupId =>
    if groupId ≠ 0 then
      match template.groups[groupId - 1]? with
      | none => (loot, [])
      | some group => (loot, [.group group])
    else (loot, template.tasks)
  | .entry item => source.performEntry dice item loot
  | .group group => (source.processGroup dice group loot, [])

/-- The start of `LootTemplate::Process` for a loot -/
def LootTemplate.filling (template : LootTemplate) (loot : Loot) : Worklist Loot Task :=
  { state := loot, tasks := [.process template 0] }

/-- One step of `LootTemplate::Process` -/
abbrev Source.next (source : Source) (work : Worklist Loot Task) (dice : Nat → Throw) :
    Worklist Loot Task :=
  Worklist.next source.perform work dice

end DarkCore.LootTables
