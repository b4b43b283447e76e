/-
The exchange of two offers. Items that change hands or go back to a list of their
own are neither made nor lost; a list that is left from the search for the other
item is no such list. Money is lost where a purse reaches the gold limit.
-/

import DarkCore.Trades.Packs
import Mathlib.Algebra.Order.BigOperators.Group.Finset

namespace DarkCore.Trades

open DarkCore.Lib DarkCore.Items DarkCore.Player

variable {store : ItemStore} {packs after : Packs} {item : Item} {items rest : List Item}
  {mine his : Option Item}

/-! ### Slots that are clean -/

/-- An item that goes back starts a list of its own, and finds room. -/
def returnsClean (store : ItemStore) (inventory : Inventory) (dest : List (Position × Nat)) :
    Option Item → Bool
  | none => true
  | some item =>
    decide (dest = []) && decide ((canStoreItem store inventory (requestFor item)).result = .ok)

def cleanSlot (store : ItemStore) (packs : Packs) (mine his : Option Item) : Bool :=
  packs.bothCanTrade store mine his ||
    (returnsClean store packs.playerInventory (packs.playerAnswer store his).dest mine &&
      returnsClean store
        (packs.returnPlayer store (packs.playerAnswer store his).dest mine).traderInventory
        (packs.traderAnswer store mine).dest his)

def clean (store : ItemStore) : Packs → List (Option Item × Option Item) → Bool
  | _, [] => true
  | packs, (mine, his) :: rest =>
    cleanSlot store packs mine his && clean store (packs.moveItem store mine his) rest

/-! ### Single moves -/

theorem Storable.later {slots : Place → Option Item} {next other entry : Nat}
    {dest : List (Position × Nat)}
    (storable : Storable store (⟨slots, next⟩ : Inventory) entry dest) :
    Storable store (⟨slots, other⟩ : Inventory) entry dest :=
  ⟨storable.distinct, storable.holds, storable.takes, storable.positive⟩

def Planned (store : ItemStore) (inventory : Inventory) (dest : List (Position × Nat)) :
    Option Item → Prop
  | none => True
  | some item =>
    Storable store inventory item.entry dest ∧ (dest.map Prod.snd).sum = item.count

theorem answer_planned {inventory : Inventory} {content : Option Item}
    (coherent : Coherent (stacking store) inventory.slots inventory.nextGuid)
    (absent : ∀ item ∈ content, Absent (stacking store) inventory.slots item)
    (counts : ∀ item ∈ content, 0 < item.count ∧ item.count < 2 ^ 32)
    (accepted : (Packs.answer store inventory (content.map handed)).result = .ok) :
    Planned store inventory (Packs.answer store inventory (content.map handed)).dest content := by
  cases content with
  | none => exact trivial
  | some item =>
    have small := counts item rfl
    have known : Absent (stacking store) inventory.slots (handed item) := absent item rfl
    exact plan_of_accepted coherent known small.1 small.2 accepted

theorem handPlayer_took {dest : List (Position × Nat)}
    (sound : packs.Sound store (his.toList ++ rest))
    (planned : Planned store packs.playerInventory dest his) :
    Took store packs (packs.handPlayer store dest his) his.toList rest := by
  cases his with
  | none => exact Took.nothing sound
  | some item =>
    have took := storePlayer_took false sound planned.1 planned.2
    exact ⟨⟨took.sound.player, took.sound.trader, took.sound.below, took.sound.notPlayer,
      took.sound.notTrader, took.sound.distinct, took.sound.counts⟩, took.player, took.trader,
      took.total⟩

theorem handTrader_took {dest : List (Position × Nat)}
    (sound : packs.Sound store (mine.toList ++ rest))
    (planned : Planned store packs.traderInventory dest mine) :
    Took store packs (packs.handTrader store dest mine) mine.toList rest := by
  have swapped : (packs.handTrader store dest mine).swap =
      packs.swap.handPlayer store dest mine := by
    cases mine <;> rfl
  exact Took.swap (swapped ▸ handPlayer_took sound.swap planned)

theorem handTrader_player (dest : List (Position × Nat)) (mine : Option Item) :
    (packs.handTrader store dest mine).player = packs.player := by
  cases mine with
  | none => rfl
  | some item => rfl

theorem planned_later {slots : Place → Option Item} {next other : Nat}
    {dest : List (Position × Nat)} {content : Option Item}
    (planned : Planned store ⟨slots, next⟩ dest content) :
    Planned store ⟨slots, other⟩ dest content := by
  cases content with
  | none => exact trivial
  | some item => exact ⟨Storable.later planned.1, planned.2⟩

theorem handOver_took (sound : packs.Sound store (mine.toList ++ (his.toList ++ rest)))
    (both : packs.bothCanTrade store mine his = true) :
    Took store packs (packs.handOver store mine his) (mine.toList ++ his.toList) rest := by
  unfold Packs.bothCanTrade at both
  rw [Bool.and_eq_true, decide_eq_true_iff, decide_eq_true_iff] at both
  have isMine : ∀ item ∈ mine, item ∈ mine.toList ++ (his.toList ++ rest) := fun item member =>
    List.mem_append_left _ (Option.mem_toList.mpr member)
  have isHis : ∀ item ∈ his, item ∈ mine.toList ++ (his.toList ++ rest) := fun item member =>
    List.mem_append_right _ (List.mem_append_left _ (Option.mem_toList.mpr member))
  have traderPlan : Planned store packs.traderInventory (packs.traderAnswer store mine).dest mine :=
    answer_planned sound.trader (fun item member => sound.notTrader item (isMine item member))
      (fun item member => sound.counts item (isMine item member)) both.1
  have playerPlan : Planned store packs.playerInventory (packs.playerAnswer store his).dest his :=
    answer_planned sound.player (fun item member => sound.notPlayer item (isHis item member))
      (fun item member => sound.counts item (isHis item member)) both.2
  have first := handTrader_took sound traderPlan
  refine first.trans (handPlayer_took first.sound ?_)
  unfold Packs.playerInventory at playerPlan ⊢
  rw [handTrader_player]
  exact planned_later playerPlan

theorem returnPlayer_took {dest : List (Position × Nat)}
    (sound : packs.Sound store (mine.toList ++ rest))
    (isClean : returnsClean store packs.playerInventory dest mine = true) :
    Took store packs (packs.returnPlayer store dest mine) mine.toList rest := by
  cases mine with
  | none => exact Took.nothing sound
  | some item =>
    unfold returnsClean at isClean
    rw [Bool.and_eq_true, decide_eq_true_iff, decide_eq_true_iff] at isClean
    have small := sound.counts item List.mem_cons_self
    have absent := sound.notPlayer item List.mem_cons_self
    have planned := plan_of_accepted sound.player absent small.1 small.2 isClean.2
    unfold Packs.returnPlayer
    dsimp only
    rw [isClean.1, canStoreItemAfter_nil, if_pos isClean.2]
    exact storePlayer_took item.owned sound planned.1 planned.2

theorem returnTrader_took {dest : List (Position × Nat)}
    (sound : packs.Sound store (his.toList ++ rest))
    (isClean : returnsClean store packs.traderInventory dest his = true) :
    Took store packs (packs.returnTrader store dest his) his.toList rest := by
  have swapped : (packs.returnTrader store dest his).swap =
      packs.swap.returnPlayer store dest his := by
    cases his with
    | none => rfl
    | some item =>
      unfold Packs.returnTrader Packs.returnPlayer
      dsimp only
      split
      · rename_i accepted
        exact (if_pos accepted).symm
      · rename_i refused
        exact (if_neg refused).symm
  exact Took.swap (swapped ▸ returnPlayer_took sound.swap isClean)

/-! ### All slots -/

theorem moveItem_took (sound : packs.Sound store (mine.toList ++ (his.toList ++ rest)))
    (isClean : cleanSlot store packs mine his = true) :
    Took store packs (packs.moveItem store mine his) (mine.toList ++ his.toList) rest := by
  unfold Packs.moveItem
  split
  · rename_i both
    exact handOver_took sound both
  · rename_i stuck
    unfold cleanSlot at isClean
    rw [Bool.or_eq_true, Bool.and_eq_true] at isClean
    rcases isClean with both | ⟨mineBack, hisBack⟩
    · exact absurd both stuck
    · have first := returnPlayer_took sound mineBack
      exact first.trans (returnTrader_took first.sound hisBack)

def pairItems (pairs : List (Option Item × Option Item)) : List Item :=
  pairs.flatMap fun pair => pair.1.toList ++ pair.2.toList

theorem moveItems_took {pairs : List (Option Item × Option Item)}
    (sound : packs.Sound store (pairItems pairs)) (isClean : clean store packs pairs = true) :
    Took store packs (Packs.moveItems store packs pairs) (pairItems pairs) [] := by
  induction pairs generalizing packs with
  | nil => exact Took.nothing sound
  | cons head rest ih =>
    obtain ⟨mine, his⟩ := head
    unfold clean at isClean
    rw [Bool.and_eq_true] at isClean
    have start : packs.Sound store (mine.toList ++ (his.toList ++ pairItems rest)) := by
      rw [← List.append_assoc]
      exact sound
    have first := moveItem_took start isClean.1
    have later := ih first.sound isClean.2
    have both : Took store packs (packs.moveItem store mine his) (mine.toList ++ his.toList)
        (pairItems rest ++ []) := by
      simp_all
    exact both.trans later

/-! ### Taking the items out -/

theorem getItemByGuid_eq_some {inventory : Inventory} {guid : Nat} {place : Place}
    (found : getItemByGuid store inventory guid = some (place, item)) :
    inventory.slots place = some item ∧ item.guid = guid := by
  obtain ⟨position, _, isItem⟩ := List.exists_of_findSome?_eq_some found
  obtain ⟨resident, present, isFound⟩ := Option.bind_eq_some_iff.mp isItem
  split at isFound
  · rename_i isGuid
    injection isFound with isPair
    injection isPair with isPlace isResident
    rw [← isPlace, ← isResident]
    exact ⟨getItemByPos_slots present, isGuid⟩
  · cases isFound

theorem getItem_eq_some {inventory : Inventory} {trade : TradeData}
    {slot : Fin tradeSlotCount} {place : Place}
    (found : trade.getItem store inventory slot = some (place, item)) :
    inventory.slots place = some item ∧ item.guid = trade.items slot ∧ trade.items slot ≠ 0 := by
  unfold TradeData.getItem at found
  split at found
  · cases found
  · rename_i some_guid
    obtain ⟨present, isGuid⟩ := getItemByGuid_eq_some found
    exact ⟨present, isGuid, some_guid⟩

def TradeData.Distinct (trade : TradeData) : Prop :=
  ∀ slot other, trade.items slot ≠ 0 → trade.items slot = trade.items other → slot = other

def offeredItems (offered : List (Option (Place × Item))) : List Item :=
  offered.filterMap fun content => content.map (·.2)

structure Offered (slots : Place → Option Item) (offered : List (Option (Place × Item))) :
    Prop where
  present : ∀ place item, some (place, item) ∈ offered → slots place = some item
  distinct : ((offeredItems offered).map (·.guid)).Nodup

theorem mem_offeredItems {offered : List (Option (Place × Item))}
    (member : item ∈ offeredItems offered) : ∃ place, some (place, item) ∈ offered := by
  obtain ⟨content, inside, isItem⟩ := List.mem_filterMap.mp member
  obtain ⟨found, isFound, same⟩ := Option.map_eq_some_iff.mp isItem
  exact ⟨found.1, by rw [← same, ← isFound]; exact inside⟩

theorem guids_of_slots {inventory : Inventory} {trade : TradeData} (distinct : trade.Distinct)
    {slots : List (Fin tradeSlotCount)} (apart : slots.Nodup) :
    ((offeredItems (slots.map (trade.getItem store inventory))).map (·.guid)).Nodup := by
  induction slots with
  | nil => exact List.nodup_nil
  | cons slot rest ih =>
    have later := ih (List.nodup_cons.mp apart).2
    unfold offeredItems at later ⊢
    rw [List.map_cons, List.filterMap_cons]
    cases found : trade.getItem store inventory slot with
    | none => exact later
    | some content =>
      obtain ⟨place, item⟩ := content
      obtain ⟨_, isGuid, some_guid⟩ := getItem_eq_some found
      rw [Option.map_some, List.map_cons]
      refine List.nodup_cons.mpr ⟨?_, later⟩
      intro member
      obtain ⟨other, isOther, sameGuid⟩ := List.mem_map.mp member
      obtain ⟨otherPlace, inside⟩ := mem_offeredItems isOther
      obtain ⟨otherSlot, isSlot, otherFound⟩ := List.mem_map.mp inside
      obtain ⟨_, otherGuid, _⟩ := getItem_eq_some otherFound
      have same : slot = otherSlot :=
        distinct slot otherSlot some_guid (isGuid.symm.trans (sameGuid.symm.trans otherGuid))
      exact (List.nodup_cons.mp apart).1 (same ▸ isSlot)

theorem getItems_offered {inventory : Inventory} {trade : TradeData}
    (distinct : trade.Distinct) : Offered inventory.slots (trade.getItems store inventory) where
  present place item member := by
    obtain ⟨slot, _, found⟩ := List.mem_map.mp member
    exact (getItem_eq_some found).1
  distinct := guids_of_slots distinct (by decide)

theorem takeOut_sub {offered : List (Option (Place × Item))} {slots : Place → Option Item}
    {place : Place} (present : takeOut offered slots place = some item) :
    slots place = some item ∧ ∀ other, some (place, other) ∉ offered := by
  unfold takeOut at present
  induction offered generalizing slots with
  | nil => exact ⟨present, fun _ => List.not_mem_nil⟩
  | cons content rest ih =>
    rw [List.foldl_cons] at present
    obtain ⟨left, apart⟩ := ih present
    cases content with
    | none =>
      refine ⟨left, fun other member => ?_⟩
      rcases List.mem_cons.mp member with impossible | later
      · cases impossible
      · exact apart other later
    | some found =>
      dsimp only at left
      by_cases here : place = found.1
      · grind
      · rw [Function.update_of_ne here] at left
        refine ⟨left, fun other member => ?_⟩
        rcases List.mem_cons.mp member with first | later
        · grind
        · exact apart other later

theorem takeOut_total {offered : List (Option (Place × Item))} {slots : Place → Option Item}
    {next : Nat} (coherent : Coherent (stacking store) slots next) (are : Offered slots offered)
    {places : Finset Place} (within : ∀ place item, slots place = some item → place ∈ places)
    (kind : Nat) :
    (stacking store).total places (takeOut offered slots) kind +
        carried kind (offeredItems offered) = (stacking store).total places slots kind := by
  unfold takeOut
  induction offered generalizing slots with
  | nil => rfl
  | cons content rest ih =>
    rw [List.foldl_cons]
    cases content with
    | none =>
      refine ih coherent ⟨?_, are.distinct⟩ within
      exact fun place item member => are.present place item (List.mem_cons_of_mem _ member)
    | some found =>
      obtain ⟨place, item⟩ := found
      have here := are.present place item List.mem_cons_self
      have apart := List.nodup_cons.mp are.distinct
      have fewer : ∀ other resident, Function.update slots place none other = some resident →
          slots other = some resident := by
        grind
      have left : Offered (Function.update slots place none) rest := by
        refine ⟨fun other resident member => ?_, apart.2⟩
        have there := are.present other resident (List.mem_cons_of_mem _ member)
        by_cases same : other = place
        · rw [same, here] at there
          injection there with there
          have isMember : resident ∈ offeredItems rest :=
            List.mem_filterMap.mpr ⟨_, member, rfl⟩
          exact absurd (List.mem_map.mpr ⟨resident, isMember, by rw [← there]⟩) apart.1
        · simp_all
      have later := ih (coherent.sub fewer) left
        (fun other resident present => within other resident (fewer other resident present))
      have cleared := (stacking store).total_update places slots (within place item here) none
        kind
      rw [here] at cleared
      have isFirst : offeredItems (some (place, item) :: rest) =
          [item] ++ offeredItems rest := rfl
      have isHeld : (stacking store).held kind (some item) =
          if item.entry = kind then item.count else 0 := rfl
      rw [isFirst, carried_append, carried_singleton]
      rw [isHeld, Stacking.held_none] at cleared
      dsimp only
      omega

/-! ### Tables -/

structure Table.Proper (store : ItemStore) (table : Table) : Prop where
  player : Coherent (stacking store) table.player.slots table.nextGuid
  trader : Coherent (stacking store) table.trader.slots table.nextGuid
  apart : ∀ place other mine his, table.player.slots place = some mine →
    table.trader.slots other = some his → mine.guid ≠ his.guid
  playerCounts : ∀ place item, table.player.slots place = some item →
    0 < item.count ∧ item.count < 2 ^ 32
  traderCounts : ∀ place item, table.trader.slots place = some item →
    0 < item.count ∧ item.count < 2 ^ 32
  playerOffer : ∀ trade, table.player.trade = some trade → trade.Distinct
  traderOffer : ∀ trade, table.trader.trade = some trade → trade.Distinct
  playerLimit : table.player.purse.money ≤ maxMoneyAmount
  traderLimit : table.trader.purse.money ≤ maxMoneyAmount

variable {table left : Table} {checks : Checks} {trade : TradeData}

theorem playerItems_offered (proper : table.Proper store) :
    Offered table.player.slots (table.playerItems store) := by
  unfold Table.playerItems
  split
  · constructor
    · intro place item member
      cases member
    · exact List.nodup_nil
  · rename_i trade isTrade
    have are : Offered table.playerInventory.slots
        (trade.getItems store table.playerInventory) :=
      getItems_offered (proper.playerOffer trade isTrade)
    exact are

theorem Table.Proper.swap (proper : table.Proper store) : table.swap.Proper store where
  player := proper.trader
  trader := proper.player
  apart place other mine his isMine isHis := (proper.apart other place his mine isHis isMine).symm
  playerCounts := proper.traderCounts
  traderCounts := proper.playerCounts
  playerOffer := proper.traderOffer
  traderOffer := proper.playerOffer
  playerLimit := proper.traderLimit
  traderLimit := proper.playerLimit

theorem traderItems_offered (proper : table.Proper store) :
    Offered table.trader.slots (table.traderItems store) :=
  playerItems_offered proper.swap

theorem pairItems_perm {first second : List (Option Item)} (same : first.length = second.length) :
    (pairItems (first.zip second)).Perm (first.filterMap id ++ second.filterMap id) := by
  induction first generalizing second with
  | nil =>
    cases second with
    | nil => exact List.Perm.refl _
    | cons head rest => cases same
  | cons mine rest ih =>
    cases second with
    | nil => cases same
    | cons his others =>
      have later := ih (Nat.succ.inj same)
      have isFirst : ∀ (content : Option Item) (rest : List (Option Item)),
          (content :: rest).filterMap id = content.toList ++ rest.filterMap id := by
        grind
      rw [isFirst, isFirst]
      have split : pairItems ((mine :: rest).zip (his :: others)) =
          mine.toList ++ (his.toList ++ pairItems (rest.zip others)) := by
        simp [pairItems]
      rw [split, List.append_assoc]
      refine List.Perm.append_left mine.toList ?_
      refine (later.append_left his.toList).trans ?_
      rw [← List.append_assoc, ← List.append_assoc]
      exact List.perm_append_comm.append_right _

theorem offeredItems_eq (offered : List (Option (Place × Item))) :
    (offered.map (·.map (·.2))).filterMap id = offeredItems offered := by
  unfold offeredItems
  rw [List.filterMap_map]
  rfl

def Table.emptied (store : ItemStore) (table : Table) : Packs where
  player := takeOut (table.playerItems store) table.player.slots
  trader := takeOut (table.traderItems store) table.trader.slots
  nextGuid := table.nextGuid

def Table.pairs (store : ItemStore) (table : Table) : List (Option Item × Option Item) :=
  ((table.playerItems store).map (·.map (·.2))).zip ((table.traderItems store).map (·.map (·.2)))

theorem moved_eq (store : ItemStore) (table : Table) :
    table.moved store = Packs.moveItems store (table.emptied store) (table.pairs store) := rfl

theorem length_getItems (store : ItemStore) (inventory : Inventory) (trade : TradeData) :
    (trade.getItems store inventory).length = 6 := List.length_map _

theorem pairs_perm {mine his : TradeData} (isMine : table.player.trade = some mine)
    (isHis : table.trader.trade = some his) :
    (pairItems (table.pairs store)).Perm
      (offeredItems (table.playerItems store) ++ offeredItems (table.traderItems store)) := by
  have same : ((table.playerItems store).map (·.map (·.2))).length =
      ((table.traderItems store).map (·.map (·.2))).length := by
    simp [Table.playerItems, Table.traderItems, List.length_map, isMine, isHis, length_getItems]
  have perm := pairItems_perm same
  rw [offeredItems_eq, offeredItems_eq] at perm
  exact perm

theorem Packs.Sound.perm {packs : Packs} (sound : packs.Sound store items)
    (perm : items.Perm rest) : packs.Sound store rest where
  player := sound.player
  trader := sound.trader
  below item member := sound.below item (perm.symm.subset member)
  notPlayer item member := sound.notPlayer item (perm.symm.subset member)
  notTrader item member := sound.notTrader item (perm.symm.subset member)
  distinct := (perm.map (·.guid)).nodup_iff.mp sound.distinct
  counts item member := sound.counts item (perm.symm.subset member)

theorem carried_perm (perm : items.Perm rest) (kind : Nat) :
    carried kind items = carried kind rest := (perm.map _).sum_eq

theorem takeOut_absent {offered : List (Option (Place × Item))} {slots : Place → Option Item}
    {next : Nat} (coherent : Coherent (stacking store) slots next) (are : Offered slots offered)
    (member : item ∈ offeredItems offered) :
    Absent (stacking store) (takeOut offered slots) item := by
  intro place resident present same
  obtain ⟨there, apart⟩ := takeOut_sub present
  obtain ⟨home, isOffered⟩ := mem_offeredItems member
  have here := are.present home item isOffered
  have isHome := coherent.distinct place home resident item there here same
  exact apart item (isHome ▸ isOffered)

theorem emptied_sound (proper : table.Proper store) :
    (table.emptied store).Sound store
      (offeredItems (table.playerItems store) ++ offeredItems (table.traderItems store)) := by
  have mine := playerItems_offered proper
  have his := traderItems_offered proper
  have isMine : ∀ item ∈ offeredItems (table.playerItems store),
      ∃ place, table.player.slots place = some item := by
    intro item member
    obtain ⟨place, offered⟩ := mem_offeredItems member
    exact ⟨place, mine.present place item offered⟩
  have isHis : ∀ item ∈ offeredItems (table.traderItems store),
      ∃ place, table.trader.slots place = some item := by
    intro item member
    obtain ⟨place, offered⟩ := mem_offeredItems member
    exact ⟨place, his.present place item offered⟩
  constructor
  · exact proper.player.sub fun place item present => (takeOut_sub present).1
  · exact proper.trader.sub fun place item present => (takeOut_sub present).1
  · intro item member
    rcases List.mem_append.mp member with mineIs | hisIs
    · obtain ⟨place, present⟩ := isMine item mineIs
      exact proper.player.fresh place item present
    · obtain ⟨place, present⟩ := isHis item hisIs
      exact proper.trader.fresh place item present
  · intro item member
    rcases List.mem_append.mp member with mineIs | hisIs
    · exact takeOut_absent proper.player mine mineIs
    · obtain ⟨other, there⟩ := isHis item hisIs
      intro place resident present
      exact proper.apart place other resident item (takeOut_sub present).1 there
  · intro item member
    rcases List.mem_append.mp member with mineIs | hisIs
    · obtain ⟨other, there⟩ := isMine item mineIs
      intro place resident present
      exact (proper.apart other place item resident there (takeOut_sub present).1).symm
    · exact takeOut_absent proper.trader his hisIs
  · rw [List.map_append]
    refine List.nodup_append.mpr ⟨mine.distinct, his.distinct, ?_⟩
    intro guid mineIs other hisIs same
    obtain ⟨item, isItem, isGuid⟩ := List.mem_map.mp mineIs
    obtain ⟨hisItem, isHisItem, hisGuid⟩ := List.mem_map.mp hisIs
    obtain ⟨place, here⟩ := isMine item isItem
    obtain ⟨otherPlace, there⟩ := isHis hisItem isHisItem
    exact proper.apart place otherPlace item hisItem here there
      (isGuid.trans (same.trans hisGuid.symm))
  · intro item member
    rcases List.mem_append.mp member with mineIs | hisIs
    · obtain ⟨place, present⟩ := isMine item mineIs
      exact proper.playerCounts place item present
    · obtain ⟨place, present⟩ := isHis item hisIs
      exact proper.traderCounts place item present

/-! ### Nothing is made or lost -/

def Table.total (store : ItemStore) (places : Finset Place) (table : Table) (kind : Nat) : Nat :=
  (stacking store).total places table.player.slots kind +
    (stacking store).total places table.trader.slots kind

def SameGoods (store : ItemStore) (table after : Table) : Prop :=
  ∀ places, Within places table.player.slots table.trader.slots →
    Within places after.player.slots after.trader.slots →
    ∀ kind, after.total store places kind = table.total store places kind

def Table.gold (table : Table) : Nat := table.player.purse.money + table.trader.purse.money

def Clean (store : ItemStore) (checks : Checks) (table : Table) : Prop :=
  ∀ mine his, table.player.trade = some mine → table.trader.trade = some his →
    table.agreement store checks mine his = .ok () →
    clean store (table.emptied store) (table.pairs store) = true

def BelowLimit (store : ItemStore) (checks : Checks) (table : Table) : Prop :=
  ∀ mine his, table.player.trade = some mine → table.trader.trade = some his →
    table.agreement store checks mine his = .ok () →
    table.player.purse.money - mine.money + his.money ≤ maxMoneyAmount ∧
      table.trader.purse.money - his.money + mine.money ≤ maxMoneyAmount

theorem moved_goods (proper : table.Proper store) {mine his : TradeData}
    (isMine : table.player.trade = some mine) (isHis : table.trader.trade = some his)
    (isClean : clean store (table.emptied store) (table.pairs store) = true) :
    SameGoods store table (table.exchange store mine his) := by
  intro places before after kind
  have perm : (pairItems (table.pairs store)).Perm
      (offeredItems (table.playerItems store) ++ offeredItems (table.traderItems store)) :=
    pairs_perm isMine isHis
  have took := moveItems_took ((emptied_sound proper).perm perm.symm) isClean
  have gained := took.total places after kind
  rw [carried_perm perm, carried_append] at gained
  have mineOut := takeOut_total proper.player (playerItems_offered proper)
    (fun place item present => before place item (Or.inl present)) kind
  have hisOut := takeOut_total proper.trader (traderItems_offered proper)
    (fun place item present => before place item (Or.inr present)) kind
  have isAfter : (table.exchange store mine his).total store places kind =
      (Packs.moveItems store (table.emptied store) (table.pairs store)).total store places kind :=
    rfl
  have isEmptied : (table.emptied store).total store places kind =
      (stacking store).total places (takeOut (table.playerItems store) table.player.slots) kind +
        (stacking store).total places (takeOut (table.traderItems store) table.trader.slots)
          kind := rfl
  rw [isAfter, gained, isEmptied]
  unfold Table.total
  omega

/-! ### Trades that do not take place -/

structure SameBags (table after : Table) : Prop where
  player : after.player.slots = table.player.slots
  trader : after.trader.slots = table.trader.slots
  playerPurse : after.player.purse = table.player.purse
  traderPurse : after.trader.purse = table.trader.purse

theorem SameBags.refl (table : Table) : SameBags table table := ⟨rfl, rfl, rfl, rfl⟩

theorem SameBags.trans {middle after : Table} (first : SameBags table middle)
    (second : SameBags middle after) : SameBags table after where
  player := second.player.trans first.player
  trader := second.trader.trans first.trader
  playerPurse := second.playerPurse.trans first.playerPurse
  traderPurse := second.traderPurse.trans first.traderPurse

theorem SameBags.swap {after : Table} (same : SameBags table.swap after) :
    SameBags table after.swap where
  player := same.trader
  trader := same.player
  playerPurse := same.traderPurse
  traderPurse := same.playerPurse

theorem sameBags_setTrade (table : Table) (trade : TradeData) :
    SameBags table (table.setTrade trade) := ⟨rfl, rfl, rfl, rfl⟩

theorem sameBags_withdraw (table : Table) : SameBags table table.withdraw := ⟨rfl, rfl, rfl, rfl⟩

theorem sameBags_setSpell (table : Table) (spellId castItem : Nat) :
    SameBags table (table.setSpell spellId castItem) := by
  unfold Table.setSpell
  split
  · exact SameBags.refl table
  · split
    · exact SameBags.refl table
    · exact (sameBags_setTrade table _).trans (sameBags_withdraw _)

theorem agreement_error {mine his : TradeData}
    (refused : table.agreement store checks mine his = .error left) : SameBags table left := by
  have accepted := sameBags_setTrade table { mine with accepted := true }
  unfold Table.agreement at refused
  split at refused
  · cases refused
    exact sameBags_setTrade table _
  · split at refused
    · cases refused
      exact accepted.trans (sameBags_setTrade _ _).swap
    · split at refused
      · simp_all
      · split at refused
        · simp_all
        · split at refused
          · cases refused
            exact accepted.trans (sameBags_setSpell _ 0 0)
          · split at refused
            · cases refused
              exact accepted.trans (sameBags_setSpell _ 0 0).swap
            · split at refused
              · cases refused
                exact accepted.trans (sameBags_withdraw _)
              · cases refused

theorem agreement_enough {mine his : TradeData}
    (agreed : table.agreement store checks mine his = .ok ()) :
    mine.money ≤ table.player.purse.money ∧ his.money ≤ table.trader.purse.money := by
  unfold Table.agreement at agreed
  split at agreed
  · cases agreed
  · rename_i mineEnough
    split at agreed
    · cases agreed
    · rename_i hisEnough
      rw [Bool.not_eq_false] at mineEnough hisEnough
      exact ⟨Purse.hasEnoughMoney_iff.mp mineEnough, Purse.hasEnoughMoney_iff.mp hisEnough⟩

theorem SameBags.goods {after : Table} (same : SameBags table after) :
    SameGoods store table after := by
  intro places _ _ kind
  unfold Table.total
  rw [same.player, same.trader]

theorem SameBags.gold {after : Table} (same : SameBags table after) :
    after.gold = table.gold := by
  unfold Table.gold
  rw [same.playerPurse, same.traderPurse]

theorem exchange_gold (proper : table.Proper store) {mine his : TradeData}
    (mineEnough : mine.money ≤ table.player.purse.money)
    (hisEnough : his.money ≤ table.trader.purse.money) :
    (table.exchange store mine his).gold = table.gold ↔
      table.player.purse.money - mine.money + his.money ≤ maxMoneyAmount ∧
        table.trader.purse.money - his.money + mine.money ≤ maxMoneyAmount := by
  have mineLimit := proper.playerLimit
  have hisLimit := proper.traderLimit
  have mineLeft := Purse.modifyMoney_take mineLimit mineEnough
  have hisLeft := Purse.modifyMoney_take hisLimit hisEnough
  have mineLower : (table.player.purse.modifyMoney (-int32 mine.money)).money ≤
      maxMoneyAmount := by omega
  have hisLower : (table.trader.purse.modifyMoney (-int32 his.money)).money ≤
      maxMoneyAmount := by omega
  have isGold : (table.exchange store mine his).gold =
      ((table.player.purse.modifyMoney (-int32 mine.money)).modifyMoney (int32 his.money)).money +
        ((table.trader.purse.modifyMoney (-int32 his.money)).modifyMoney
          (int32 mine.money)).money := rfl
  rw [isGold, Purse.modifyMoney_add mineLower (by omega), Purse.modifyMoney_add hisLower (by omega),
    mineLeft, hisLeft]
  unfold Table.gold
  omega

/-! ### Every answer to an acceptance -/

def Finitely (slots : Place → Option Item) : Prop :=
  ∃ places : Finset Place, ∀ place item, slots place = some item → place ∈ places

theorem Finitely.update {slots : Place → Option Item} (finitely : Finitely slots) (place : Place)
    (content : Option Item) : Finitely (Function.update slots place content) := by
  obtain ⟨places, inside⟩ := finitely
  refine ⟨insert place places, fun other item present => ?_⟩
  by_cases here : other = place
  · exact here ▸ Finset.mem_insert_self place places
  · simp_all

theorem placeItem_finitely {inventory : Inventory} (finitely : Finitely inventory.slots)
    (position : Position) (stored : Item) :
    Finitely (inventory.placeItem position stored).slots := by
  unfold Inventory.placeItem
  dsimp only
  split
  · exact finitely.update _ _
  · split
    · split
      · exact finitely.update _ _
      · exact finitely
    · exact finitely

theorem storeItem_finitely {inventory : Inventory} (finitely : Finitely inventory.slots)
    (dest : List (Position × Nat)) (item : Item) :
    Finitely (storeItem store inventory dest item).slots := by
  unfold storeItem
  induction dest generalizing inventory with
  | nil => exact finitely
  | cons head rest ih =>
    unfold deliver
    refine ih ?_
    unfold storeItemAt
    split
    · exact finitely.update _ _
    · split
      · unfold Inventory.cloneItem
        split
        · rename_i copy left created
          split at created
          · cases created
          · injection created with created
            injection created with _ isLeft
            rw [← isLeft]
            have start : Finitely ({ inventory with nextGuid := inventory.nextGuid + 1 } :
                Inventory).slots := finitely
            exact placeItem_finitely start _ _
        · exact finitely
      · exact placeItem_finitely finitely _ _

def Packs.Finite (packs : Packs) : Prop := Finitely packs.player ∧ Finitely packs.trader

section

variable (finite : packs.Finite) (dest : List (Position × Nat))
include finite dest

theorem storePlayer_finite (item : Item) :
    (packs.storePlayer store dest item).Finite := ⟨storeItem_finitely finite.1 dest item, finite.2⟩

theorem storeTrader_finite (item : Item) :
    (packs.storeTrader store dest item).Finite := ⟨finite.1, storeItem_finitely finite.2 dest item⟩

theorem handTrader_finite (mine : Option Item) : (packs.handTrader store dest mine).Finite := by
  cases mine with
  | none => exact finite
  | some item => exact storeTrader_finite finite dest (handed item)

theorem handPlayer_finite (his : Option Item) : (packs.handPlayer store dest his).Finite := by
  cases his with
  | none => exact finite
  | some item => exact storePlayer_finite finite dest (handed item)

theorem returnPlayer_finite (mine : Option Item) : (packs.returnPlayer store dest mine).Finite := by
  cases mine with
  | none => exact finite
  | some item =>
    unfold Packs.returnPlayer
    dsimp only
    split
    · exact storePlayer_finite finite _ item
    · exact finite

theorem returnTrader_finite (his : Option Item) : (packs.returnTrader store dest his).Finite := by
  cases his with
  | none => exact finite
  | some item =>
    unfold Packs.returnTrader
    dsimp only
    split
    · exact storeTrader_finite finite _ item
    · exact finite

end

theorem moveItems_finite {pairs : List (Option Item × Option Item)} (finite : packs.Finite) :
    (Packs.moveItems store packs pairs).Finite := by
  induction pairs generalizing packs with
  | nil => exact finite
  | cons head rest ih =>
    obtain ⟨mine, his⟩ := head
    unfold Packs.moveItems
    refine ih ?_
    unfold Packs.moveItem
    split
    · exact handPlayer_finite (handTrader_finite finite _ mine) _ his
    · exact returnTrader_finite (returnPlayer_finite finite _ mine) _ his

theorem handleAcceptTrade_finite (mineFinite : Finitely table.player.slots)
    (hisFinite : Finitely table.trader.slots) :
    Finitely (table.handleAcceptTrade store checks).player.slots ∧
      Finitely (table.handleAcceptTrade store checks).trader.slots := by
  unfold Table.handleAcceptTrade
  split
  · split
    · rename_i left refused
      have same := agreement_error refused
      rw [same.player, same.trader]
      exact ⟨mineFinite, hisFinite⟩
    · have emptied : (table.emptied store).Finite := by
        obtain ⟨minePlaces, mineInside⟩ := mineFinite
        obtain ⟨hisPlaces, hisInside⟩ := hisFinite
        exact ⟨⟨minePlaces, fun place item present => mineInside place item (takeOut_sub present).1⟩,
          ⟨hisPlaces, fun place item present => hisInside place item (takeOut_sub present).1⟩⟩
      have after : (Packs.moveItems store (table.emptied store) (table.pairs store)).Finite :=
        moveItems_finite emptied
      exact after
  · exact ⟨mineFinite, hisFinite⟩

/-! ### A trade of a few items -/

def backpack (items : List (Nat × Item)) : Place → Option Item
  | .main slot => (items.find? fun content => decide (content.1 = slot)).map (·.2)
  | .inBag _ _ => none

theorem backpack_eq_some {contents : List (Nat × Item)} {place : Place}
    (present : backpack contents place = some item) :
    ∃ slot, place = .main slot ∧ (slot, item) ∈ contents := by
  cases place with
  | inBag guid slot => cases present
  | main slot =>
    obtain ⟨content, found, isItem⟩ := Option.map_eq_some_iff.mp present
    have here : content.1 = slot := by
      have passes := List.find?_some found
      exact of_decide_eq_true passes
    have member := List.mem_of_find?_eq_some found
    refine ⟨slot, rfl, ?_⟩
    rw [← here, ← isItem]
    exact member

theorem backpack_finitely (contents : List (Nat × Item)) : Finitely (backpack contents) := by
  refine ⟨(contents.map fun content => Place.main content.1).toFinset, ?_⟩
  intro place item present
  obtain ⟨slot, isPlace, member⟩ := backpack_eq_some present
  exact List.mem_toFinset.mpr (List.mem_map.mpr ⟨(slot, item), member, isPlace.symm⟩)

theorem backpack_coherent {contents : List (Nat × Item)} {next : Nat}
    (whole : ∀ content ∈ contents, content.2.count ≤ store.maxStack content.2.entry ∧
      content.2.guid < next)
    (apart : ∀ first ∈ contents, ∀ second ∈ contents, first.2.guid = second.2.guid →
      first.1 = second.1) : Coherent (stacking store) (backpack contents) next := by
  constructor
  · intro place item present
    obtain ⟨slot, _, member⟩ := backpack_eq_some present
    exact (whole _ member).1
  · intro first second left right atFirst atSecond same
    obtain ⟨slot, isFirst, member⟩ := backpack_eq_some atFirst
    obtain ⟨other, isSecond, also⟩ := backpack_eq_some atSecond
    have sameSlot : slot = other := apart _ member _ also same
    rw [isFirst, isSecond, sameSlot]
  · intro place item present
    obtain ⟨slot, _, member⟩ := backpack_eq_some present
    exact (whole _ member).2

def pairStore : ItemStore where
  prototype entry := if entry = 7 then { maxCount := 2 } else {}
  known _ := true
  limitCategory _ := none

def offerOf (accepted : Bool) (money : Nat) (guids : List Nat) : TradeData where
  accepted := accepted
  money := money
  spell := 0
  spellCastItem := 0
  items slot := guids.getD slot 0

def playerContents : List (Nat × Item) :=
  [(23, { guid := 1, entry := 7, count := 1 }), (24, { guid := 2, entry := 7, count := 1 })]

def traderContents : List (Nat × Item) :=
  [(23, { guid := 10, entry := 8, count := 1 }), (24, { guid := 11, entry := 7, count := 1 })]

def smallTable (mine his : List Nat) : Table where
  player :=
    { slots := backpack playerContents
      purse := Purse.setMoney 100
      trade := some (offerOf false 10 mine) }
  trader :=
    { slots := backpack traderContents
      purse := Purse.setMoney 100
      trade := some (offerOf true 0 his) }
  nextGuid := 20

def allowAll : Checks := ⟨fun _ => true, true, true⟩

theorem smallTable_proper {first second : List Nat} (mine : (offerOf false 10 first).Distinct)
    (his : (offerOf true 0 second).Distinct) : (smallTable first second).Proper pairStore := by
  have isPlayer : Coherent (stacking pairStore) (backpack playerContents) 20 :=
    backpack_coherent (by decide) (by decide)
  have isTrader : Coherent (stacking pairStore) (backpack traderContents) 20 :=
    backpack_coherent (by decide) (by decide)
  have apart : ∀ content ∈ playerContents, ∀ other ∈ traderContents,
      content.2.guid ≠ other.2.guid := by decide
  have playerCounts : ∀ content ∈ playerContents,
      0 < content.2.count ∧ content.2.count < 2 ^ 32 := by decide
  have traderCounts : ∀ content ∈ traderContents,
      0 < content.2.count ∧ content.2.count < 2 ^ 32 := by decide
  have limit : (Purse.setMoney 100).money ≤ maxMoneyAmount := by decide
  constructor
  · exact isPlayer
  · exact isTrader
  · intro place other item another present also
    obtain ⟨slot, _, member⟩ := backpack_eq_some present
    obtain ⟨otherSlot, _, inside⟩ := backpack_eq_some also
    exact apart _ member _ inside
  · intro place item present
    obtain ⟨slot, _, member⟩ := backpack_eq_some present
    exact playerCounts _ member
  · intro place item present
    obtain ⟨slot, _, member⟩ := backpack_eq_some present
    exact traderCounts _ member
  · intro trade isTrade
    injection isTrade with isTrade
    exact isTrade ▸ mine
  · intro trade isTrade
    injection isTrade with isTrade
    exact isTrade ▸ his
  · exact limit
  · exact limit

/-- The player cannot have a third item of entry 7: what the trader gets back goes to his own list
and to the one that the other search had found. -/
def crossedTable : Table := smallTable [1, 2] [0, 10]

def fewPlaces : Finset Place := {.main 23, .main 24, .main 25}

end DarkCore.Trades
