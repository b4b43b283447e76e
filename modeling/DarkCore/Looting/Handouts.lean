/-
What is handed out at most once in every run of the requests, and the requests
that hand out what the loot has not recorded, or has recorded already.
-/

import DarkCore.Looting.Records

namespace DarkCore.Looting

open Lib

/-! ### Hand-outs -/

def Loot.Conflict (loot : Loot) (first second : Handout) : Prop :=
  first.good = second.good ∧ (loot.Shared first.good ∨ first.guid = second.guid)

/-- The lookup does not see that the item was handed out: the lists of the other players are not
marked with an item, and a player without an entry for an item that is free for all leaves no
mark. -/
def Loot.Found.unrecorded (item : LootItem) : Loot.Found → Bool
  | .quest _ _ => !item.freeforall && item.isLooted
  | .ffa _ _ => false
  | .conditional _ _ => item.isLooted
  | .plain _ => item.freeforall

namespace Loot

variable {loot : Loot} {guid slot : Nat} {item : LootItem} {found : Found}

theorem recorded_found (distinct : loot.DistinctLists) (finds : loot.Finds guid slot item found)
    (recorded : loot.Recorded guid found.good) :
    item.count = 0 ∨ found.unrecorded item = true := by
  cases found with
  | quest position index =>
    obtain ⟨isItem, entries, entry, isList, isElement, atIndex, unlooted⟩ := finds
    rcases recorded with ⟨shared, looted⟩ | ⟨_, looted⟩
    · rw [isItem] at shared looted
      have isShared : item.freeforall = false := Option.some.inj shared
      have isLooted : item.isLooted = true := Option.some.inj looted
      right
      unfold Found.unrecorded
      rw [isShared, isLooted]
      rfl
    · exact absurd looted (not_entryLooted distinct.quest isList isElement atIndex unlooted)
  | ffa found position =>
    obtain ⟨atSlot, isItem, freeforall, entries, entry, isList, isElement, atIndex, unlooted⟩ :=
      finds
    subst atSlot
    rcases recorded with ⟨shared, _⟩ | ⟨_, empty | looted⟩
    · simp_all
    · simp_all
    · exact absurd looted (not_entryLooted distinct.ffa isList isElement atIndex unlooted)
  | conditional found position =>
    obtain ⟨atSlot, isItem, isShared, _⟩ := finds
    subst atSlot
    rcases recorded with ⟨_, looted⟩ | ⟨freeforall, _⟩
    · rw [isItem] at looted
      exact Or.inr (Option.some.inj looted)
    · simp_all
  | plain found =>
    obtain ⟨atSlot, isItem, unlooted⟩ := finds
    subst atSlot
    rcases recorded with ⟨_, looted⟩ | ⟨freeforall, _⟩
    · simp_all
    · rw [isItem] at freeforall
      exact Or.inr (Option.some.inj freeforall)

theorem recorded_modify {change : LootItem → LootItem} (isItem : loot.items[slot]? = some item)
    (shared : (change item).freeforall = false) (looted : (change item).isLooted = true) :
    Recorded { loot with items := loot.items.modify slot change } guid (.item slot) := by
  left
  rw [List.getElem?_modify_eq, isItem]
  exact ⟨congrArg some shared, congrArg some looted⟩

theorem recorded_markFound (finds : loot.Finds guid slot item found)
    (records : found.unrecorded item = false) :
    (loot.markFound guid item found).Recorded guid found.good := by
  cases found with
  | quest position index =>
    obtain ⟨isItem, entries, entry, isList, isElement, atIndex, unlooted⟩ := finds
    unfold markFound Found.good Recorded
    dsimp only
    cases freeforall : item.freeforall with
    | true =>
      right
      rw [if_pos rfl, isItem]
      exact ⟨congrArg some freeforall, entryLooted_marked isList isElement atIndex⟩
    | false =>
      left
      rw [if_neg Bool.false_ne_true, List.getElem?_modify_eq, isItem]
      exact ⟨congrArg some freeforall, rfl⟩
  | ffa found position =>
    obtain ⟨atSlot, isItem, freeforall, entries, entry, isList, isElement, atIndex, unlooted⟩ :=
      finds
    subst atSlot
    right
    unfold markFound
    dsimp only
    rw [if_pos freeforall, isItem]
    exact ⟨congrArg some freeforall, Or.inr (entryLooted_marked isList isElement atIndex)⟩
  | conditional found position =>
    obtain ⟨atSlot, isItem, shared, _⟩ := finds
    subst atSlot
    left
    unfold markFound
    dsimp only
    rw [shared, if_neg Bool.false_ne_true, List.getElem?_modify_eq, isItem]
    exact ⟨congrArg some shared, rfl⟩
  | plain found =>
    obtain ⟨atSlot, isItem, _⟩ := finds
    subst atSlot
    left
    have shared : item.freeforall = false := records
    unfold markFound
    dsimp only
    rw [shared, if_neg Bool.false_ne_true, List.getElem?_modify_eq, isItem]
    exact ⟨congrArg some shared, rfl⟩

end Loot

def RollEnd.gives (count : Nat) : RollEnd → Bool
  | .won _ room => room && count ≠ 0
  | .disenchanted _ => true
  | .offline => false
  | .passed => false

def Body.Request.row : Body.Request → Option Nat
  | .currency _ slot => some slot
  | _ => none

namespace Body

variable {prototypes : Nat → Option ItemPrototype} {body : Body}

def times (good : Good) (body : Body) : Nat :=
  body.handed.countP fun handout => handout.good = good

def timesTo (good : Good) (guid : Nat) (body : Body) : Nat :=
  body.handed.countP fun handout => handout = ⟨good, guid⟩

/-- Items that are free for all are handed out at most once to each player, all other items and
the rows of the currencies at most once. -/
structure AtMostOnce (body : Body) : Prop where
  item : ∀ slot item, body.loot.items[slot]? = some item → item.freeforall = false →
    body.times (.item slot) ≤ 1
  itemFFA : ∀ slot item guid, body.loot.items[slot]? = some item → item.freeforall = true →
    body.timesTo (.item slot) guid ≤ 1
  quest : ∀ index item, body.loot.questItems[index]? = some item → item.freeforall = false →
    body.times (.quest index) ≤ 1
  questFFA : ∀ index item guid, body.loot.questItems[index]? = some item →
    item.freeforall = true → body.timesTo (.quest index) guid ≤ 1
  currency : ∀ row, body.times (.currency row) ≤ 1

def AtMostOnceState (state : Option Body) : Prop := ∃ body, state = some body ∧ body.AtMostOnce

def storeRepeats (guid slot : Nat) (room : Bool) (body : Body) : Prop :=
  room = true ∧ ∃ item found, body.loot.lootItemInSlot slot guid = some (item, found) ∧
    (found.isQuest = true ∨ item.isBlocked = false) ∧ item.count ≠ 0 ∧
    found.unrecorded item = true

/-- The requests that hand out an item which was handed out already, or do so without a record, or
read behind the last item -/
def Repeats (prototypes : Nat → Option ItemPrototype) (body : Body) : Request → Prop
  | .fill _ => False
  | .token looter slot =>
    body.wantsToken prototypes looter slot = true ∧
      body.storeRepeats looter.guid slot (looter.room slot)
  | .groupLoot _ => False
  | .autostore guid slot room => body.storeRepeats guid slot room
  | .currency _ _ => False
  | .rollEnds slot rollEnd =>
    body.rolls.contains slot = true ∧ ∃ item, body.loot.items[slot]? = some item ∧
      rollEnd.gives item.count = true ∧ item.isLooted = true
  | .masterGive target slot room =>
    slot = body.loot.items.length ∨
      room = true ∧ ∃ item, body.loot.items[slot]? = some item ∧ item.count ≠ 0 ∧
        if item.freeforall then EntryLooted slot target body.loot.playerFFAItems
        else item.isLooted = true
  | .money => False

/-! ### Records of all hand-outs -/

structure Recording (body : Body) : Prop where
  apart : body.handed.Pairwise fun later earlier => ¬ body.loot.Conflict later earlier
  recorded : ∀ handout ∈ body.handed, body.loot.Recorded handout.guid handout.good
  distinct : body.loot.DistinctLists
  rolls : ∀ slot ∈ body.rolls, body.loot.Shared (.item slot)

theorem Recording.atMostOnce (recording : body.Recording) : body.AtMostOnce := by
  have once (good : Good) (shared : body.loot.Shared good) : body.times good ≤ 1 := by
    refine countP_le_one recording.apart ?_
    intro first second isFirst isSecond apart
    rw [decide_eq_true_eq] at isFirst isSecond
    exact apart ⟨isFirst.trans isSecond.symm, Or.inl (isFirst ▸ shared)⟩
  have onceTo (good : Good) (guid : Nat) : body.timesTo good guid ≤ 1 := by
    refine countP_le_one recording.apart ?_
    intro first second isFirst isSecond apart
    rw [decide_eq_true_eq] at isFirst isSecond
    rw [isFirst, isSecond] at apart
    exact apart ⟨rfl, Or.inr rfl⟩
  constructor
  case item =>
    simp_all [Loot.Shared]
  case itemFFA => exact fun slot _ guid _ _ => onceTo (.item slot) guid
  case quest =>
    simp_all [Loot.Shared]
  case questFFA => exact fun index _ guid _ _ => onceTo (.quest index) guid
  case currency => exact fun row => once (.currency row) trivial

theorem Recording.apart_of_extends (recording : body.Recording) {changed : Loot}
    (grows : body.loot.Extends changed) :
    body.handed.Pairwise fun later earlier => ¬ changed.Conflict later earlier := by
  refine recording.apart.imp ?_
  rintro later earlier apart ⟨sameGood, shared | sameGuid⟩
  · exact apart ⟨sameGood, Or.inl (grows.shared.mp shared)⟩
  · exact apart ⟨sameGood, Or.inr sameGuid⟩

theorem Recording.silent (recording : body.Recording) {changed : Body}
    (grows : body.loot.Extends changed.loot) (distinct : changed.loot.DistinctLists)
    (sameHanded : changed.handed = body.handed)
    (rolls : ∀ slot ∈ changed.rolls, changed.loot.Shared (.item slot)) : changed.Recording where
  apart := sameHanded ▸ recording.apart_of_extends grows
  recorded handout handed := grows.recorded (recording.recorded handout (sameHanded ▸ handed))
  distinct := distinct
  rolls := rolls

variable {guid slot : Nat} {handout : Handout}

theorem handOut_recording (recording : body.Recording) {good : Good} {count : Nat}
    {marked : Loot} (grows : body.loot.Extends marked) (distinct : marked.DistinctLists)
    (fresh : count ≠ 0 → ¬ body.loot.Recorded guid good)
    (now : count ≠ 0 → marked.Recorded guid good) :
    (body.handOut good guid count marked).Recording := by
  have counted : body.loot.Extends marked.countLess :=
    ⟨grows.items, grows.questItems, grows.ffa, grows.quest⟩
  have rolls (slot : Nat) (rolling : slot ∈ body.rolls) : marked.countLess.Shared (.item slot) :=
    counted.shared.mpr (recording.rolls slot rolling)
  unfold handOut
  by_cases empty : count = 0
  · rw [if_pos empty]
    exact recording.silent counted ⟨distinct.ffa, distinct.quest⟩ rfl rolls
  · rw [if_neg empty]
    constructor
    case apart =>
      refine List.pairwise_cons.mpr ⟨?_, recording.apart_of_extends counted⟩
      rintro earlier handed ⟨sameGood, shared | sameGuid⟩
      · have recorded := recording.recorded earlier handed
        rw [← sameGood] at recorded
        exact fresh empty (recorded.of_shared (counted.shared.mp shared))
      · have recorded := recording.recorded earlier handed
        rw [← sameGood, ← sameGuid] at recorded
        exact fresh empty recorded
    case recorded =>
      intro handout handed
      rcases List.mem_cons.mp handed with isNew | isOld
      · rw [isNew]
        cases good with
        | item slot => exact now empty
        | quest index => exact now empty
        | currency row => trivial
      · exact counted.recorded (recording.recorded handout isOld)
    case distinct => exact ⟨distinct.ffa, distinct.quest⟩
    case rolls => exact rolls

/-! ### Single requests -/

section

variable (recording : body.Recording)
include recording

theorem storeLootItem_recording {room : Bool}
    (notRepeats : ¬ body.storeRepeats guid slot room) :
    (body.storeLootItem guid slot room).Recording := by
  unfold storeLootItem
  split
  · exact recording
  · rename_i item found isFound
    split
    · exact recording
    · rename_i free
      split
      · rename_i isRoom
        have finds := Loot.lootItemInSlot_finds isFound
        have isFree := Loot.free_of_not_refused free
        have records (nonzero : item.count ≠ 0) : found.unrecorded item = false := by
          by_contra unrecorded
          rw [Bool.not_eq_false] at unrecorded
          exact notRepeats ⟨isRoom, item, found, isFound, isFree, nonzero, unrecorded⟩
        refine handOut_recording recording Loot.extends_markFound recording.distinct.markFound ?_ ?_
        · intro nonzero recorded
          rcases Loot.recorded_found recording.distinct finds recorded with empty | unrecorded
          · exact nonzero empty
          · simp_all
        · exact fun nonzero => Loot.recorded_markFound finds (records nonzero)
      · exact recording

theorem fill_recording {looter : Looter} :
    Recording { body with loot := body.loot.fillLists looter } := by
  have filled := Loot.fillLists_records looter recording.distinct
  refine recording.silent filled.1 filled.2 rfl ?_
  exact fun slot rolling => filled.1.shared.mpr (recording.rolls slot rolling)

theorem groupLoot_recording {rolled : Nat → Bool} :
    (body.groupLoot rolled).Recording := by
  unfold groupLoot
  split
  · exact recording
  · have keeps {β : Type} (field : LootItem → β)
        (same : ∀ item : LootItem, field { item with isBlocked := true } = field item)
        (index : Nat) :
        (body.loot.items.mapIdx fun slot item =>
          if !item.freeforall && rolled slot then { item with isBlocked := true }
          else item)[index]?.map field = body.loot.items[index]?.map field := by
      rw [List.getElem?_mapIdx, Option.map_map]
      congr 1
      funext item
      rw [Function.comp_apply]
      split
      · exact same item
      · rfl
    refine recording.silent ⟨?_, .refl _, fun _ _ looted => looted, fun _ _ looted => looted⟩
      ⟨recording.distinct.ffa, recording.distinct.quest⟩ rfl ?_
    · exact .of_fields (keeps LootItem.freeforall fun _ => rfl)
        (keeps LootItem.isLooted fun _ => rfl) (keeps LootItem.count fun _ => rfl)
    · intro slot rolling
      have test := (List.mem_filter.mp rolling).2
      unfold Loot.Shared
      dsimp only
      rw [keeps LootItem.freeforall fun _ => rfl]
      split at test
      · cases test
      · simp_all

theorem countTheRoll_recording {rollEnd : RollEnd}
    (notRepeats : ¬ body.Repeats prototypes (.rollEnds slot rollEnd)) :
    (body.countTheRoll slot rollEnd).Recording := by
  unfold countTheRoll
  split
  · exact recording
  · rename_i item isItem
    split
    · rename_i rolling
      have shared : item.freeforall = false := by
        have isShared := recording.rolls slot (List.contains_iff_mem.mp rolling)
        unfold Loot.Shared at isShared
        dsimp only at isShared
        rw [isItem] at isShared
        exact Option.some.inj isShared
      have ended : Recording { body with rolls := body.rolls.erase slot } :=
        recording.silent (.refl _) recording.distinct rfl
          fun other rolls => recording.rolls other (List.mem_of_mem_erase rolls)
      have unblocked : Recording { body with
          rolls := body.rolls.erase slot
          loot := { body.loot with
            items := body.loot.items.modify slot fun item =>
            { item with isBlocked := false } } } := by
        have grows : body.loot.Extends { body.loot with
            items := body.loot.items.modify slot fun item => { item with isBlocked := false } } :=
          .modify _ (fun _ => rfl) (fun _ looted => looted) fun _ empty => empty
        refine ended.silent grows ⟨recording.distinct.ffa, recording.distinct.quest⟩ rfl ?_
        exact fun other rolls =>
          grows.shared.mpr (recording.rolls other (List.mem_of_mem_erase rolls))
      have awarded (guid count : Nat) (unlooted : count ≠ 0 → item.isLooted = false) :
          (handOut (.item slot) guid count
            { body.loot with items := body.loot.items.modify slot LootItem.markLooted }
            { body with rolls := body.rolls.erase slot }).Recording := by
        refine handOut_recording ended (.modify _ (fun _ => rfl) (fun _ _ => rfl)
          fun _ empty => empty) ⟨recording.distinct.ffa, recording.distinct.quest⟩ ?_ ?_
        · rintro nonzero (⟨_, looted⟩ | ⟨freeforall, _⟩) <;> simp_all
        · exact fun _ => Loot.recorded_modify isItem shared rfl
      have unlooted (gives : rollEnd.gives item.count = true) : item.isLooted = false := by
        by_contra looted
        rw [Bool.not_eq_false] at looted
        exact notRepeats ⟨rolling, item, isItem, gives, looted⟩
      cases rollEnd with
      | won guid room =>
        cases room with
        | true =>
          refine awarded guid item.count fun nonzero => unlooted ?_
          exact (Bool.true_and _).trans (decide_eq_true nonzero)
        | false => exact unblocked
      | disenchanted guid => exact awarded guid 1 fun _ => unlooted rfl
      | offline => exact ended
      | passed => exact unblocked
    · exact recording

theorem handleLootMasterGive_recording {target : Nat}
    {room : Bool} (notRepeats : ¬ body.Repeats prototypes (.masterGive target slot room)) :
    ∃ result, body.handleLootMasterGive target slot room = some result ∧ result.Recording := by
  unfold handleLootMasterGive
  split
  · exact ⟨body, rfl, recording⟩
  · rename_i within
    split
    · rename_i nothing
      have behind := List.getElem?_eq_none_iff.mp nothing
      exact absurd (Or.inl (by omega)) notRepeats
    · rename_i item isItem
      split
      · rename_i isRoom
        refine ⟨_, rfl, ?_⟩
        have unmarked (nonzero : item.count ≠ 0) : ¬ (if item.freeforall then
            EntryLooted slot target body.loot.playerFFAItems else item.isLooted = true) :=
          fun marked => notRepeats (Or.inr ⟨isRoom, item, isItem, nonzero, marked⟩)
        refine handOut_recording recording (.modify _ (fun _ => rfl) (fun _ _ => rfl)
          fun _ _ => rfl) ⟨recording.distinct.ffa, recording.distinct.quest⟩ ?_ ?_
        · rintro nonzero (⟨shared, looted⟩ | ⟨freeforall, empty | looted⟩)
          · rw [isItem] at shared looted
            have marks := unmarked nonzero
            rw [Option.some.inj shared, if_neg Bool.false_ne_true] at marks
            exact marks (Option.some.inj looted)
          · simp_all
          · rw [isItem] at freeforall
            have marks := unmarked nonzero
            rw [if_pos (Option.some.inj freeforall)] at marks
            exact marks looted
        · intro _
          cases freeforall : item.freeforall with
          | true =>
            right
            rw [List.getElem?_modify_eq, isItem]
            exact ⟨congrArg some freeforall, Or.inl rfl⟩
          | false => exact Loot.recorded_modify isItem freeforall rfl
      · exact ⟨body, rfl, recording⟩

theorem handleAutostoreLootCurrency_recording
    (unused : ∀ handout ∈ body.handed, handout.good ≠ .currency slot) :
    (body.handleAutostoreLootCurrency guid slot).Recording := by
  unfold handleAutostoreLootCurrency
  split
  · constructor
    case apart =>
      refine List.pairwise_cons.mpr ⟨?_, recording.apart⟩
      rintro earlier handed ⟨sameGood, _⟩
      exact unused earlier handed sameGood.symm
    case recorded =>
      intro handout handed
      rcases List.mem_cons.mp handed with isNew | isOld
      · rw [isNew]
        trivial
      · exact recording.recorded handout isOld
    case distinct => exact recording.distinct
    case rolls => exact recording.rolls
  · exact recording

end

/-! ### Runs -/

theorem mem_handOut {good : Good} {count : Nat} {marked : Loot}
    (handed : handout ∈ (body.handOut good guid count marked).handed) :
    handout.good = good ∨ handout ∈ body.handed := by
  unfold handOut at handed
  split at handed
  · exact Or.inr handed
  · rcases List.mem_cons.mp handed with isNew | isOld
    · exact Or.inl (congrArg Handout.good isNew)
    · exact Or.inr isOld

theorem storeLootItem_row {row : Nat} {room : Bool}
    (handed : handout ∈ (body.storeLootItem guid slot room).handed)
    (isRow : handout.good = .currency row) : handout ∈ body.handed := by
  unfold storeLootItem at handed
  split at handed
  · exact handed
  · rename_i item found _
    split at handed
    · exact handed
    · split at handed
      · rcases mem_handOut handed with sameGood | isOld
        · rw [sameGood] at isRow
          cases found <;> cases isRow
        · exact isOld
      · exact handed

theorem countTheRoll_row {row : Nat} {rollEnd : RollEnd}
    (handed : handout ∈ (body.countTheRoll slot rollEnd).handed)
    (isRow : handout.good = .currency row) : handout ∈ body.handed := by
  have notNew (either : handout.good = .item slot ∨ handout ∈ body.handed) :
      handout ∈ body.handed := by
    rcases either with sameGood | isOld
    · cases isRow.symm.trans sameGood
    · exact isOld
  unfold countTheRoll at handed
  split at handed
  · exact handed
  · split at handed
    · cases rollEnd with
      | won guid room =>
        cases room with
        | true =>
          have either := mem_handOut handed
          exact notNew either
        | false => exact handed
      | disenchanted guid =>
        have either := mem_handOut handed
        exact notNew either
      | offline | passed => exact handed
    · exact handed

theorem handle_row {request : Request} {result : Body} {row : Nat}
    (handled : body.handle prototypes request = some result) (handed : handout ∈ result.handed)
    (isRow : handout.good = .currency row) :
    handout ∈ body.handed ∨ request.row = some row := by
  cases request with
  | fill looter =>
    cases handled
    exact Or.inl handed
  | token looter slot =>
    cases handled
    unfold storeToken at handed
    split at handed
    · exact Or.inl (storeLootItem_row handed isRow)
    · exact Or.inl handed
  | groupLoot rolled =>
    cases handled
    unfold groupLoot at handed
    split at handed <;> exact Or.inl handed
  | autostore guid slot room =>
    cases handled
    exact Or.inl (storeLootItem_row handed isRow)
  | currency guid slot =>
    cases handled
    unfold handleAutostoreLootCurrency at handed
    split at handed
    · rcases List.mem_cons.mp handed with isNew | isOld
      · rw [isNew] at isRow
        exact Or.inr (congrArg some (Good.currency.inj isRow))
      · exact Or.inl isOld
    · exact Or.inl handed
  | rollEnds slot rollEnd =>
    cases handled
    exact Or.inl (countTheRoll_row handed isRow)
  | masterGive target slot room =>
    unfold handle handleLootMasterGive at handled
    dsimp only at handled
    split at handled
    · simp_all
    · split at handled
      · cases handled
      · split at handled
        · cases handled
          rcases mem_handOut handed with sameGood | isOld
          · cases isRow.symm.trans sameGood
          · exact Or.inl isOld
        · simp_all
  | money =>
    cases handled
    exact Or.inl handed

theorem handle_recording (recording : body.Recording) {request : Request}
    (notRepeats : ¬ body.Repeats prototypes request)
    (unused : ∀ row, request.row = some row →
      ∀ handout ∈ body.handed, handout.good ≠ .currency row) :
    ∃ result, body.handle prototypes request = some result ∧ result.Recording := by
  cases request with
  | fill looter => exact ⟨_, rfl, fill_recording recording⟩
  | token looter slot =>
    refine ⟨_, rfl, ?_⟩
    unfold storeToken
    split
    · rename_i wanted
      exact storeLootItem_recording recording fun repeats => notRepeats ⟨wanted, repeats⟩
    · exact recording
  | groupLoot rolled => exact ⟨_, rfl, groupLoot_recording recording⟩
  | autostore guid slot room => exact ⟨_, rfl, storeLootItem_recording recording notRepeats⟩
  | currency guid slot =>
    exact ⟨_, rfl, handleAutostoreLootCurrency_recording recording (unused slot rfl)⟩
  | rollEnds slot rollEnd => exact ⟨_, rfl, countTheRoll_recording recording notRepeats⟩
  | masterGive target slot room => exact handleLootMasterGive_recording recording notRepeats
  | money =>
    refine ⟨_, rfl, recording.silent ⟨.refl _, .refl _, fun _ _ looted => looted,
      fun _ _ looted => looted⟩ ⟨recording.distinct.ffa, recording.distinct.quest⟩ rfl ?_⟩
    exact recording.rolls

theorem run_recording (recording : body.Recording) {requests : List Request}
    (records : Along (next prototypes)
      (fun state request => ∀ before, state = some before → ¬ before.Repeats prototypes request)
      (some body) requests)
    (rowsOnce : (requests.filterMap Request.row).Nodup)
    (unused : ∀ row ∈ requests.filterMap Request.row,
      ∀ handout ∈ body.handed, handout.good ≠ .currency row) :
    Always (next prototypes) AtMostOnceState (some body) requests := by
  induction requests generalizing body with
  | nil => exact ⟨body, rfl, recording.atMostOnce⟩
  | cons request rest ih =>
    refine ⟨⟨body, rfl, recording.atMostOnce⟩, ?_⟩
    have listed {row : Nat} (isRow : request.row = some row) :
        (request :: rest).filterMap Request.row = row :: rest.filterMap Request.row := by
      rw [List.filterMap_cons, isRow]
    have restRows : (rest.filterMap Request.row).Nodup ∧
        ∀ row ∈ rest.filterMap Request.row,
          row ∈ (request :: rest).filterMap Request.row ∧ request.row ≠ some row := by
      cases isRow : request.row with
      | none =>
        have same : (request :: rest).filterMap Request.row = rest.filterMap Request.row := by
          rw [List.filterMap_cons, isRow]
        rw [same] at rowsOnce ⊢
        exact ⟨rowsOnce, fun row member => ⟨member, nofun⟩⟩
      | some first =>
        rw [listed isRow] at rowsOnce ⊢
        obtain ⟨apart, nodup⟩ := List.nodup_cons.mp rowsOnce
        refine ⟨nodup, fun row member => ⟨List.mem_cons_of_mem first member, ?_⟩⟩
        intro same
        exact apart (Option.some.inj same ▸ member)
    obtain ⟨result, handled, resultRecording⟩ := handle_recording recording
      (records.1 body rfl) fun row isRow => unused row (by
        rw [listed isRow]
        exact List.mem_cons_self)
    have along := records.2
    unfold next at along ⊢
    rw [Option.bind_some, handled] at along ⊢
    refine ih resultRecording along restRows.1 ?_
    intro row member handout handed isRow
    obtain ⟨inAll, notRequested⟩ := restRows.2 row member
    rcases handle_row handled handed isRow with isOld | requested
    · exact unused row inAll handout isOld isRow
    · exact notRequested requested

theorem start_lists (gold : Nat) (rows : List LootStoreItem) :
    (rows.foldl (Loot.addItem prototypes) { gold := gold }).DistinctLists := by
  have step (loot : Loot) (distinct : loot.DistinctLists) :
      (rows.foldl (Loot.addItem prototypes) loot).DistinctLists := by
    induction rows generalizing loot with
    | nil => exact distinct
    | cons row rest ih =>
      apply ih
      unfold Loot.addItem
      repeat' split
      all_goals exact ⟨distinct.ffa, distinct.quest⟩
  exact step _ ⟨nofun, nofun⟩

end Body

end DarkCore.Looting
