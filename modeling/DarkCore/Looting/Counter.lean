/-
The counter of a loot against what is outstanding, in every run of fillings and
hand-outs: which requests take something that is not outstanding.
-/

import DarkCore.Looting.Outstanding

namespace DarkCore.Looting

open Lib

/-! ### Listed items -/

def EveryEntry (lists : OrdMap Nat (List QuestItem)) (holds : Nat → Prop) : Prop :=
  ∀ guid entries, lists.find guid = some entries → ∀ entry ∈ entries, holds entry.index

section EveryEntry

variable {lists : OrdMap Nat (List QuestItem)} {holds weaker : Nat → Prop} {guid position : Nat}

section

variable (every : EveryEntry lists holds)
include every

theorem EveryEntry.imp
    (implies : ∀ index, holds index → weaker index) : EveryEntry lists weaker :=
  fun guid entries isList entry listed =>
    implies entry.index (every guid entries isList entry listed)

theorem EveryEntry.assign {entries : List QuestItem}
    (added : ∀ entry ∈ entries, holds entry.index) :
    EveryEntry (lists.assign guid entries) holds := by
  intro other otherEntries isList entry listed
  rw [OrdMap.find_assign] at isList
  by_cases same : other = guid
  · simp_all
  · rw [Function.update_of_ne same] at isList
    exact every other otherEntries isList entry listed

theorem EveryEntry.markEntry :
    EveryEntry (Loot.markEntry guid position lists) holds := by
  unfold Loot.markEntry
  split
  · exact every
  · rename_i entries isList
    apply every.assign
    intro entry listed
    obtain ⟨old, member, marked | same⟩ := mem_modify listed
    · rw [marked]
      exact every guid entries isList old member
    · rw [same]
      exact every guid entries isList old member

end

end EveryEntry

def LootItem.missed (item : LootItem) : Bool :=
  item.isLooted || item.freeforall || (!item.conditions.isEmpty && !item.isCounted)

theorem LootItem.missed_eq (item : LootItem) : item.missed = !item.left := by
  unfold LootItem.missed LootItem.left
  cases item.isLooted <;> cases item.freeforall <;> cases item.conditions.isEmpty <;>
    cases item.isCounted <;> rfl

namespace Loot

variable {loot : Loot} {guid slot : Nat} {item : LootItem} {found : Found} {looter : Looter}

structure Listed (loot : Loot) : Prop where
  quest : EveryEntry loot.playerQuestItems fun index =>
    loot.questItems[index]?.map LootItem.isBlocked = some true
  conditional : EveryEntry loot.playerNonQuestNonFFAConditionalItems fun index =>
    loot.items[index]?.map LootItem.isCounted = some true

section

variable (listed : loot.Listed)
include listed

theorem Listed.fillQuestLoot : (loot.fillQuestLoot looter).Listed := by
  unfold Loot.fillQuestLoot
  split
  · exact listed
  · dsimp only
    split
    · exact listed
    · rename_i entry rest isList
      constructor
      case quest =>
        apply (listed.quest.imp fun index blocked => listQuest_lists.marked (fun _ => rfl) blocked).assign
        intro other member
        obtain ⟨_, offset, item, isIndex, isItem⟩ := listQuest_lists.changed (isList ▸ member)
        rw [Nat.zero_add] at isIndex
        rw [isIndex, isItem]
        rfl
      case conditional => exact listed.conditional

theorem Listed.fillFFALoot : (loot.fillFFALoot looter).Listed := by
  unfold Loot.fillFFALoot
  split
  · exact listed
  · exact ⟨listed.quest, listed.conditional⟩

theorem Listed.fillConditionalLoot :
    (loot.fillNonQuestNonFFAConditionalLoot looter).Listed := by
  unfold Loot.fillNonQuestNonFFAConditionalLoot
  dsimp only
  split
  · exact listed
  · rename_i entry rest isList
    constructor
    case quest => exact listed.quest
    case conditional =>
      apply (listed.conditional.imp fun index counted => listConditional_lists.marked (fun _ => rfl) counted).assign
      intro other member
      obtain ⟨_, offset, item, isIndex, isItem⟩ := listConditional_lists.changed (isList ▸ member)
      rw [Nat.zero_add] at isIndex
      rw [isIndex, isItem]
      rfl

theorem Listed.fillLists : (loot.fillLists looter).Listed :=
  fillLists_keeps Listed listed (fun _ before _ => before.fillQuestLoot)
    (fun _ before _ => before.fillFFALoot) fun _ before _ => before.fillConditionalLoot

theorem Listed.modify (slot : Nat) (change : LootItem → LootItem)
    (keeps : ∀ item, (change item).isCounted = item.isCounted) :
    Listed { loot with items := loot.items.modify slot change } where
  quest := listed.quest
  conditional := listed.conditional.imp fun index counted =>
    (getElem?_modify_map keeps index).trans counted

theorem Listed.markFound : (loot.markFound guid item found).Listed := by
  have items (slot : Nat) : EveryEntry loot.playerNonQuestNonFFAConditionalItems fun index =>
      (if item.freeforall then loot.items
        else loot.items.modify slot .markLooted)[index]?.map LootItem.isCounted = some true := by
    split
    · exact listed.conditional
    · have keeps (item : LootItem) : item.markLooted.isCounted = item.isCounted := rfl
      exact listed.conditional.imp fun index counted =>
      (getElem?_modify_map keeps index).trans counted
  cases found with
  | quest position index =>
    constructor
    case quest =>
      apply EveryEntry.markEntry
      dsimp only [Loot.markFound]
      split
      · exact listed.quest
      · have keeps (item : LootItem) : item.markLooted.isBlocked = item.isBlocked := rfl
        exact listed.quest.imp fun index blocked => (getElem?_modify_map keeps index).trans blocked
    case conditional => exact listed.conditional
  | ffa slot position => exact ⟨listed.quest, items slot⟩
  | conditional slot position => exact ⟨listed.quest, (items slot).markEntry⟩
  | plain slot => exact ⟨listed.quest, items slot⟩

end

/-! ### Hand-outs of what is not outstanding -/

/-- A quest item or conditional item that was looted by somebody else, an item that is free for
all but not in the player's list, or a conditional item that is in nobody's list -/
def Found.missed (item : LootItem) : Found → Bool
  | .quest _ _ => !item.freeforall && item.isLooted
  | .ffa _ _ => false
  | .conditional _ _ => item.isLooted
  | .plain _ => item.freeforall || (!item.conditions.isEmpty && !item.isCounted)

theorem Found.missed_eq (listed : loot.Listed) (finds : loot.Finds guid slot item found) :
    found.missed item = !found.takes item := by
  cases found with
  | quest position index =>
    obtain ⟨isItem, entries, entry, isList, isElement, atIndex, _⟩ := finds
    have blocked := listed.quest guid entries isList entry (List.mem_of_getElem? isElement)
    rw [atIndex, isItem] at blocked
    have isBlocked : item.isBlocked = true := Option.some.inj blocked
    unfold Found.missed Found.takes LootItem.questLeft
    rw [isBlocked]
    cases item.freeforall <;> cases item.isLooted <;> rfl
  | ffa found position => rfl
  | conditional found position =>
    obtain ⟨atSlot, isItem, shared, conditional, entries, entry, isList, isElement, atIndex, _⟩ :=
      finds
    have counted := listed.conditional guid entries isList entry (List.mem_of_getElem? isElement)
    rw [atIndex, isItem] at counted
    have isCounted : item.isCounted = true := Option.some.inj counted
    unfold Found.missed Found.takes LootItem.left
    rw [isCounted, shared]
    cases item.isLooted <;> cases item.conditions.isEmpty <;> rfl
  | plain found =>
    obtain ⟨_, _, unlooted⟩ := finds
    unfold Found.missed Found.takes LootItem.left
    rw [unlooted]
    cases item.freeforall <;> cases item.conditions.isEmpty <;> cases item.isCounted <;> rfl

end Loot

def RollEnd.awards : RollEnd → Bool
  | .won _ room => room
  | .disenchanted _ => true
  | .offline => false
  | .passed => false

namespace Body

variable {prototypes : Nat → Option ItemPrototype} {body : Body}

def storeMisses (guid slot : Nat) (room : Bool) (body : Body) : Prop :=
  room = true ∧ ∃ item found, body.loot.lootItemInSlot slot guid = some (item, found) ∧
    (found.isQuest = true ∨ item.isBlocked = false) ∧ found.missed item = true

/-- The requests after which the counter is wrong: too many hand-outs for one byte are
outstanding, an item that is not outstanding is handed out, or one behind the last. -/
def Misses (prototypes : Nat → Option ItemPrototype) (body : Body) : Request → Prop
  | .fill looter => 255 < (body.loot.fillLists looter).outstanding
  | .token looter slot =>
    body.wantsToken prototypes looter slot = true ∧
      body.storeMisses looter.guid slot (looter.room slot)
  | .groupLoot _ => False
  | .autostore guid slot room => body.storeMisses guid slot room
  | .currency _ _ => False
  | .rollEnds slot rollEnd =>
    body.rolls.contains slot = true ∧ rollEnd.awards = true ∧
      ∃ item, body.loot.items[slot]? = some item ∧ item.missed = true
  | .masterGive _ slot room =>
    slot = body.loot.items.length ∨
      room = true ∧ ∃ item, body.loot.items[slot]? = some item ∧ item.missed = true
  | .money => False

structure Exact (body : Body) : Prop where
  counted : body.loot.unlootedCount = body.loot.outstanding
  unwrapped : body.wrapped = false
  looted : body.loot.isLooted = true ↔ body.loot.gold = 0 ∧ body.loot.outstanding = 0

def ExactState (state : Option Body) : Prop := ∃ body, state = some body ∧ body.Exact

structure Kept (body : Body) : Prop where
  listed : body.loot.Listed
  byte : body.loot.unlootedCount < 256

theorem exact_iff : body.Exact ↔
    body.loot.unlootedCount = body.loot.outstanding ∧ body.wrapped = false := by
  constructor
  · exact fun exact => ⟨exact.counted, exact.unwrapped⟩
  · rintro ⟨counted, unwrapped⟩
    refine ⟨counted, unwrapped, ?_⟩
    unfold Loot.isLooted
    rw [Bool.and_eq_true, decide_eq_true_eq, decide_eq_true_eq, counted]

theorem Exact.small (exact : body.Exact) (kept : body.Kept) : body.loot.outstanding < 256 :=
  exact.counted ▸ kept.byte

variable {guid slot : Nat}

theorem handOut_exact (exact : body.Exact) (kept : body.Kept) {good : Good} {count : Nat}
    {marked : Loot} {takes : Bool} (same : marked.unlootedCount = body.loot.unlootedCount)
    (taken : marked.outstanding + (if takes then 1 else 0) = body.loot.outstanding) :
    (body.handOut good guid count marked).Exact ↔ takes = true := by
  have small := exact.small kept
  have counted := exact.counted
  have left : marked.countLess.outstanding = marked.outstanding := rfl
  rw [exact_iff]
  unfold handOut
  rw [left, exact.unwrapped, Bool.false_or, decide_eq_false_iff_not]
  unfold Loot.countLess
  dsimp only
  rw [same]
  cases takes with
  | true | false =>
    grind

/-! ### Single requests -/

theorem unlootedCount_markFound {loot : Loot} {item : LootItem} {found : Loot.Found} :
    (loot.markFound guid item found).unlootedCount = loot.unlootedCount := by
  cases found <;> rfl

section

variable (exact : body.Exact)
include exact

theorem storeLootItem_exact (kept : body.Kept)
    {room : Bool} :
    (body.storeLootItem guid slot room).Exact ↔ ¬ body.storeMisses guid slot room := by
  unfold storeLootItem
  split
  · rename_i nothing
    refine iff_of_true exact ?_
    rintro ⟨_, item, found, isFound, _⟩
    rw [nothing] at isFound
    cases isFound
  · rename_i item found isFound
    have missed : body.storeMisses guid slot room ↔
        room = true ∧ (found.isQuest = true ∨ item.isBlocked = false) ∧
          found.missed item = true := by
      constructor
      · rintro ⟨isRoom, other, otherFound, isOther, free, missed⟩
        cases isFound.symm.trans isOther
        exact ⟨isRoom, free, missed⟩
      · rintro ⟨isRoom, free, missed⟩
        exact ⟨isRoom, item, found, isFound, free, missed⟩
    rw [missed]
    split
    · simp_all
    · rename_i free
      split
      · rename_i isRoom
        have finds := Loot.lootItemInSlot_finds isFound
        have isFree := Loot.free_of_not_refused free
        rw [handOut_exact exact kept unlootedCount_markFound (Loot.outstanding_markFound finds),
          Loot.Found.missed_eq kept.listed finds]
        constructor <;> simp_all
      · simp_all

theorem handOut_item_exact (kept : body.Kept)
    {item : LootItem} (good : Good) (guid count : Nat) (change : LootItem → LootItem)
    (isItem : body.loot.items[slot]? = some item) (looted : (change item).left = false) :
    (body.handOut good guid count
      { body.loot with items := body.loot.items.modify slot change }).Exact ↔
        item.missed = false := by
  have modified := Loot.outstanding_modify change isItem
  rw [looted, if_neg Bool.false_ne_true, Nat.add_zero] at modified
  rw [LootItem.missed_eq, Bool.not_eq_false']
  refine handOut_exact exact kept ?_ modified
  rfl

theorem Exact.sameLoot {changed : Body} (sameLoot : changed.loot = body.loot)
    (sameWrapped : changed.wrapped = body.wrapped) : changed.Exact := by
  rw [exact_iff, sameLoot, sameWrapped]
  exact ⟨exact.counted, exact.unwrapped⟩

theorem exact_blocked {item : LootItem} {rolls : List Nat}
    (isItem : body.loot.items[slot]? = some item) :
    Exact { body with
      rolls := rolls
      loot := { body.loot with
        items := body.loot.items.modify slot fun item => { item with isBlocked := false } } } := by
  have modified := Loot.outstanding_modify (fun item => { item with isBlocked := false }) isItem
  have sameLeft : LootItem.left { item with isBlocked := false } = item.left := rfl
  rw [exact_iff]
  rw [sameLeft] at modified
  rw [Nat.add_right_cancel modified]
  exact ⟨exact.counted, exact.unwrapped⟩

theorem countTheRoll_exact (kept : body.Kept)
    {rollEnd : RollEnd} :
    (body.countTheRoll slot rollEnd).Exact ↔ ¬ body.Misses prototypes (.rollEnds slot rollEnd) := by
  unfold countTheRoll Misses
  split
  · simp_all
  · rename_i item isItem
    split
    · rename_i rolling
      have ended : Exact { body with rolls := body.rolls.erase slot } := exact.sameLoot rfl rfl
      have endedKept : Kept { body with rolls := body.rolls.erase slot } := ⟨kept.listed, kept.byte⟩
      have missed : (body.rolls.contains slot = true ∧ true = true ∧
          ∃ item, body.loot.items[slot]? = some item ∧ item.missed = true) ↔
            item.missed = true := by
        simp_all
      have handed (guid count : Nat) := handOut_item_exact ended endedKept (.item slot) guid count
        LootItem.markLooted isItem rfl
      have never {rest : Prop} : ¬ (body.rolls.contains slot = true ∧ false = true ∧ rest) :=
        fun awarded => Bool.false_ne_true awarded.2.1
      cases rollEnd with
      | won guid room =>
        cases room with
        | true =>
          refine (handed guid item.count).trans ?_
          rw [← Bool.not_eq_true]
          exact (not_congr missed).symm
        | false => exact iff_of_true (exact_blocked exact isItem) never
      | disenchanted guid =>
        refine (handed guid 1).trans ?_
        rw [← Bool.not_eq_true]
        exact (not_congr missed).symm
      | offline => exact iff_of_true ended never
      | passed => exact iff_of_true (exact_blocked exact isItem) never
    · simp_all

theorem handleLootMasterGive_exact (kept : body.Kept) {target : Nat}
    {room : Bool} :
    ExactState (body.handleLootMasterGive target slot room) ↔
      ¬ body.Misses prototypes (.masterGive target slot room) := by
  have state {result : Body} : ExactState (some result) ↔ result.Exact := by
    constructor
    · rintro ⟨other, same, isExact⟩
      cases same
      exact isExact
    · exact fun isExact => ⟨result, rfl, isExact⟩
  unfold handleLootMasterGive Misses
  dsimp only
  split
  · grind
  · rename_i within
    split
    · rename_i nothing
      have behind := List.getElem?_eq_none_iff.mp nothing
      refine iff_of_false ?_ fun missed => missed (Or.inl (by omega))
      rintro ⟨result, impossible, _⟩
      cases impossible
    · rename_i item isItem
      have inside : slot < body.loot.items.length := (List.getElem?_eq_some_iff.mp isItem).1
      have missed : (slot = body.loot.items.length ∨
          room = true ∧ ∃ item, body.loot.items[slot]? = some item ∧ item.missed = true) ↔
            room = true ∧ item.missed = true := by
        grind
      rw [missed]
      split
      · rename_i isRoom
        rw [state]
        refine (handOut_item_exact exact kept _ _ _ _ isItem rfl).trans ?_
        rw [isRoom, ← Bool.not_eq_true]
        exact not_congr (iff_and_self.mpr fun _ => rfl)
      · simp_all

theorem fill_exact (kept : body.Kept) {looter : Looter} :
    Exact { body with loot := body.loot.fillLists looter } ↔
      ¬ body.Misses prototypes (.fill looter) := by
  have small := exact.small kept
  have congruent : body.loot.Congruent := by
    unfold Loot.Congruent
    rw [Nat.mod_eq_of_lt small]
    exact exact.counted
  have filled : (body.loot.fillLists looter).unlootedCount =
      (body.loot.fillLists looter).outstanding % 256 := Loot.fillLists_congruent congruent
  rw [exact_iff]
  unfold Misses
  dsimp only
  rw [filled, and_iff_left exact.unwrapped]
  omega

end

theorem countP_mapIdx {items : List LootItem} {change : Nat → LootItem → LootItem}
    {test : LootItem → Bool} (keeps : ∀ slot item, test (change slot item) = test item) :
    (items.mapIdx change).countP test = items.countP test := by
  induction items generalizing change with
  | nil => rfl
  | cons item rest ih =>
    rw [List.mapIdx_cons, List.countP_cons, List.countP_cons, keeps,
      ih fun slot item => keeps (slot + 1) item]

theorem groupLoot_exact (exact : body.Exact) {rolled : Nat → Bool} :
    (body.groupLoot rolled).Exact := by
  unfold groupLoot
  split
  · exact exact
  · rw [exact_iff]
    refine ⟨?_, exact.unwrapped⟩
    unfold Loot.outstanding
    rw [countP_mapIdx]
    · exact exact.counted
    · intro slot item
      split <;> rfl

theorem handle_exact (exact : body.Exact) (kept : body.Kept) (request : Request) :
    ExactState (body.handle prototypes request) ↔ ¬ body.Misses prototypes request := by
  have state {result : Body} : ExactState (some result) ↔ result.Exact := by
    constructor
    · rintro ⟨other, same, isExact⟩
      cases same
      exact isExact
    · exact fun isExact => ⟨result, rfl, isExact⟩
  cases request with
  | fill looter => exact state.trans (fill_exact exact kept)
  | token looter slot =>
    unfold handle
    rw [state]
    unfold storeToken Misses
    dsimp only
    split
    · rename_i wanted
      rw [storeLootItem_exact exact kept, and_iff_right wanted]
    · simp_all
  | groupLoot rolled => exact iff_of_true (state.mpr (groupLoot_exact exact)) id
  | autostore guid slot room => exact state.trans (storeLootItem_exact exact kept)
  | currency guid slot =>
    refine iff_of_true (state.mpr ?_) id
    unfold handleAutostoreLootCurrency
    split
    · exact exact.sameLoot rfl rfl
    · exact exact
  | rollEnds slot rollEnd => exact state.trans (countTheRoll_exact exact kept)
  | masterGive target slot room => exact handleLootMasterGive_exact exact kept
  | money =>
    refine iff_of_true (state.mpr ?_) id
    exact exact_iff.mpr ⟨exact.counted, exact.unwrapped⟩

/-! ### What every request keeps -/

theorem handOut_kept {good : Good} {count : Nat} {marked : Loot} (listed : marked.Listed) :
    (body.handOut good guid count marked).Kept :=
  ⟨⟨listed.quest, listed.conditional⟩, Nat.mod_lt _ (by decide)⟩

section

variable (kept : body.Kept)
include kept

theorem storeLootItem_kept {room : Bool} :
    (body.storeLootItem guid slot room).Kept := by
  unfold storeLootItem
  split
  · exact kept
  · split
    · exact kept
    · split
      · exact handOut_kept kept.listed.markFound
      · exact kept

theorem fill_kept {looter : Looter} :
    Kept { body with loot := body.loot.fillLists looter } := by
  refine ⟨kept.listed.fillLists, ?_⟩
  have byte (before : Loot) (more : Nat) : (before.countMore more).unlootedCount < 256 :=
    Nat.mod_lt _ (by decide)
  refine Loot.fillLists_keeps (fun loot => loot.unlootedCount < 256) kept.byte ?_ ?_ ?_
  · grind [Loot.fillQuestLoot]
  · grind [Loot.fillFFALoot]
  · grind [Loot.fillNonQuestNonFFAConditionalLoot]

theorem groupLoot_kept {rolled : Nat → Bool} :
    (body.groupLoot rolled).Kept := by
  unfold groupLoot
  split
  · exact kept
  · refine ⟨⟨kept.listed.quest, kept.listed.conditional.imp fun index counted => ?_⟩, kept.byte⟩
    rw [List.getElem?_mapIdx, Option.map_map, ← counted]
    congr 1
    funext item
    rw [Function.comp_apply]
    split <;> rfl

theorem countTheRoll_kept {rollEnd : RollEnd} :
    (body.countTheRoll slot rollEnd).Kept := by
  have ended : Kept { body with rolls := body.rolls.erase slot } := ⟨kept.listed, kept.byte⟩
  have looted := kept.listed.modify slot LootItem.markLooted fun _ => rfl
  have unblocked := kept.listed.modify slot (fun item => { item with isBlocked := false })
    fun _ => rfl
  unfold countTheRoll
  split
  · exact kept
  · split
    · cases rollEnd with
      | won guid room =>
        cases room with
        | true => exact handOut_kept looted
        | false => exact ⟨unblocked, kept.byte⟩
      | disenchanted guid => exact handOut_kept looted
      | offline => exact ended
      | passed => exact ⟨unblocked, kept.byte⟩
    · exact kept

theorem handle_kept {request : Request} {result : Body}
    (handled : body.handle prototypes request = some result) : result.Kept := by
  cases request with
  | fill looter =>
    cases handled
    exact fill_kept kept
  | token looter slot =>
    cases handled
    unfold storeToken
    split
    · exact storeLootItem_kept kept
    · exact kept
  | groupLoot rolled =>
    cases handled
    exact groupLoot_kept kept
  | autostore guid slot room =>
    cases handled
    exact storeLootItem_kept kept
  | currency guid slot =>
    cases handled
    unfold handleAutostoreLootCurrency
    split
    · exact ⟨kept.listed, kept.byte⟩
    · exact kept
  | rollEnds slot rollEnd =>
    cases handled
    exact countTheRoll_kept kept
  | masterGive target slot room =>
    unfold handle handleLootMasterGive at handled
    dsimp only at handled
    split at handled
    · simp_all
    · split at handled
      · cases handled
      · split at handled
        · cases handled
          exact handOut_kept (kept.listed.modify _ _ fun _ => rfl)
        · cases handled
          exact kept
  | money =>
    cases handled
    exact ⟨⟨kept.listed.quest, kept.listed.conditional⟩, kept.byte⟩

end

/-! ### Runs -/

structure Fresh (loot : Loot) : Prop where
  quest : loot.playerQuestItems = .empty
  ffa : loot.playerFFAItems = .empty
  conditional : loot.playerNonQuestNonFFAConditionalItems = .empty
  counted : loot.unlootedCount = loot.items.countP LootItem.left
  size : loot.items.length ≤ maxNrLootItems
  unlisted : loot.questItems.countP LootItem.questLeft = 0

theorem Fresh.addItem {loot : Loot} (fresh : Fresh loot) (row : LootStoreItem) :
    Fresh (loot.addItem prototypes row) := by
  have unlisted : (LootItem.ofStore prototypes row).questLeft = false :=
    Bool.and_eq_false_iff.mpr (Or.inr rfl)
  have left : (LootItem.ofStore prototypes row).left =
      (!(LootItem.ofStore prototypes row).freeforall && (row.conditions.isEmpty || false)) := rfl
  have pushed (items : List LootItem) (item : LootItem) :
      (items ++ [item]).countP LootItem.left =
        items.countP LootItem.left + if item.left then 1 else 0 := by
    rw [List.countP_append, List.countP_singleton]
  unfold Loot.addItem
  split
  · split
    · refine ⟨fresh.quest, fresh.ffa, fresh.conditional, fresh.counted, fresh.size, ?_⟩
      rw [List.countP_append, fresh.unlisted, List.countP_singleton, unlisted,
        if_neg Bool.false_ne_true]
    · exact fresh
  · split
    · rename_i room
      have size : (loot.items ++ [LootItem.ofStore prototypes row]).length ≤ maxNrLootItems := by
        rw [List.length_append, List.length_singleton]
        exact room
      have few : loot.items.countP LootItem.left ≤ loot.items.length := List.countP_le_length
      have added : Loot.countMore 1
            { loot with items := loot.items ++ [LootItem.ofStore prototypes row] } =
          { loot with
            items := loot.items ++ [LootItem.ofStore prototypes row]
            unlootedCount := loot.unlootedCount + 1 } := by
        have counted := fresh.counted
        unfold Loot.countMore
        unfold maxNrLootItems at room
        dsimp only
        rw [Nat.mod_eq_of_lt (by omega)]
      have freshAs (more : Nat)
          (isLeft : (if (LootItem.ofStore prototypes row).left then 1 else 0) = more) :
          Fresh { loot with
            items := loot.items ++ [LootItem.ofStore prototypes row]
            unlootedCount := loot.unlootedCount + more } := by
        refine ⟨fresh.quest, fresh.ffa, fresh.conditional, ?_, size, fresh.unlisted⟩
        rw [pushed, isLeft, fresh.counted]
      split
      · rename_i plain
        split
        · rename_i noProto
          have shared : (LootItem.ofStore prototypes row).freeforall = false := by
            unfold LootItem.ofStore
            rw [noProto]
          rw [added]
          apply freshAs 1
          rw [left, shared, plain]
          rfl
        · rename_i proto isProto
          have sameFFA : (LootItem.ofStore prototypes row).freeforall = proto.partyLoot := by
            unfold LootItem.ofStore
            rw [isProto]
          split
          · simp_all
          · rename_i shared
            rw [Bool.not_eq_true] at shared
            rw [added]
            apply freshAs 1
            rw [left, sameFFA, shared, plain]
            rfl
      · simp_all
    · exact fresh

theorem fresh_start {gold : Nat} (rows : List LootStoreItem) :
    Fresh (rows.foldl (Loot.addItem prototypes) { gold := gold }) := by
  have step (loot : Loot) (fresh : Fresh loot) :
      Fresh (rows.foldl (Loot.addItem prototypes) loot) := by
    induction rows generalizing loot with
    | nil => exact fresh
    | cons row rest ih => exact ih (loot.addItem prototypes row) (fresh.addItem row)
  exact step _ ⟨rfl, rfl, rfl, rfl, Nat.zero_le _, rfl⟩

theorem Fresh.exact (fresh : Fresh body.loot) (unwrapped : body.wrapped = false) : body.Exact := by
  rw [exact_iff]
  refine ⟨?_, unwrapped⟩
  unfold Loot.outstanding Loot.entriesLeft
  rw [fresh.quest, fresh.ffa, fresh.counted, fresh.unlisted]
  rfl

theorem Fresh.kept (fresh : Fresh body.loot) : body.Kept := by
  have few : body.loot.items.countP LootItem.left ≤ body.loot.items.length := List.countP_le_length
  have size := fresh.size
  refine ⟨⟨?_, ?_⟩, ?_⟩
  · rw [fresh.quest]
    exact nofun
  · rw [fresh.conditional]
    exact nofun
  · grind [maxNrLootItems, fresh.counted]

theorem run_exact (exact : body.Exact) (kept : body.Kept) {requests : List Request} :
    Always (next prototypes) ExactState (some body) requests ↔
      Along (next prototypes)
        (fun state request => ∀ before, state = some before → ¬ before.Misses prototypes request)
        (some body) requests := by
  induction requests generalizing body with
  | nil => exact iff_of_true ⟨body, rfl, exact⟩ trivial
  | cons request rest ih =>
    have later {result : Body} (handled : body.handle prototypes request = some result)
        (isExact : result.Exact) := ih isExact (handle_kept kept handled)
    constructor
    · rintro ⟨_, always⟩
      have isExact : ExactState (body.handle prototypes request) := always.first
      refine ⟨?_, ?_⟩
      · intro before same
        cases same
        exact (handle_exact exact kept request).mp isExact
      · obtain ⟨result, handled, resultExact⟩ := isExact
        unfold next at always ⊢
        rw [Option.bind_some, handled] at always ⊢
        exact (later handled resultExact).mp always
    · rintro ⟨notMissed, along⟩
      have isExact := (handle_exact exact kept request).mpr (notMissed body rfl)
      refine ⟨⟨body, rfl, exact⟩, ?_⟩
      obtain ⟨result, handled, resultExact⟩ := isExact
      unfold next at along ⊢
      rw [Option.bind_some, handled] at along ⊢
      exact (later handled resultExact).mpr along

/-- In all states of a run the counter is the number of outstanding hand-outs if and only if no
request of the run misses them. -/
theorem counter_exact (prototypes : Nat → Option ItemPrototype) (gold : Nat)
    (currencies : List CurrencyLoot) (rows : List LootStoreItem) (requests : List Request) :
    Always (next prototypes) ExactState (start prototypes gold currencies rows) requests ↔
      Along (next prototypes)
        (fun state request => ∀ body, state = some body → ¬ body.Misses prototypes request)
        (start prototypes gold currencies rows) requests :=
  run_exact ((fresh_start rows).exact rfl) (fresh_start rows).kept

/-- Player 1 stores the only item, then the master looter gives it to player 2. -/
theorem given_after_stored :
    ¬ Always (next fun _ => some {}) ExactState (start (fun _ => some {}) 0 [] [{ itemid := 25 }])
      [.fill ⟨1, fun _ => true, fun _ => true, fun _ => true⟩, .autostore 1 0 true,
        .masterGive 2 0 true] := by
  intro always
  obtain ⟨body, isLast, exact⟩ := always.last
  have counts : (List.foldl (next fun _ => some {})
      (start (fun _ => some {}) 0 [] [{ itemid := 25 }])
      [.fill ⟨1, fun _ => true, fun _ => true, fun _ => true⟩, .autostore 1 0 true,
        .masterGive 2 0 true]).map (fun body => (body.loot.unlootedCount, body.loot.outstanding)) =
      some (255, 0) := by decide
  rw [isLast, Option.map_some, exact.counted] at counts
  have both := Prod.mk.inj (Option.some.inj counts)
  rw [both.2] at both
  cases both.1

end Body

end DarkCore.Looting
