/-
Moving items between two positions of the guild bank (`Guild::SwapItems`,
`_MoveItems`, `_DoItemsMove`).

A move is planned on the state before it and then carried out by removals and
stores. The theorems show that the plan still fits the state it is carried out
on, so that no item is lost, doubled or overwritten.
-/

import DarkCore.Guilds.Bank

namespace DarkCore.Guilds

open Items Lib

/-! ### The two sides of a move -/

/-- `BankMoveItemData`: `item` is what `InitItem` found, `clonedItem` the split-off copy. -/
structure BankMoveItemData where
  container : Nat
  slotId : Nat
  item : Option Item
  clonedItem : Option Item

def BankMoveItemData.position (data : BankMoveItemData) : Nat × Nat :=
  (data.container, data.slotId)

def Guild.sendEquipError (guild : Guild) (message : InventoryResult) : Guild :=
  { guild with errors := guild.errors ++ [message] }

/-- `Item::CloneItem`: nothing is created at count zero, and never more than one stack. -/
def Guild.cloneItem (store : ItemStore) (guild : Guild) (item : Item) (count : Nat) :
    Option (Item × Guild) :=
  if count < 1 then none
  else some
    ({ item with guid := guild.nextGuid, count := min count (store.maxStack item.entry) },
      { guild with nextGuid := guild.nextGuid + 1 })

def BankMoveItemData.hasStoreRights (data other : BankMoveItemData) (guild : Guild)
    (player : Nat) : Bool :=
  if other.container = data.container then true
  else guild.memberHasTabRights player data.container guildBankRightDepositItem

def BankMoveItemData.hasWithdrawRights (data other : BankMoveItemData) (guild : Guild)
    (now player : Nat) : Bool × Guild :=
  if other.container = data.container then (true, guild)
  else
    let (remaining, guild) := guild.getMemberRemainingSlots now player data.container
    (remaining != 0, guild)

def BankMoveItemData.removeItem (data other : BankMoveItemData) (guild : Guild)
    (now player splitedAmount : Nat) : Guild :=
  match data.item with
  | none => guild
  | some item =>
    let guild :=
      if splitedAmount ≠ 0 then
        guild.setItem data.position (some { item with count := item.count - splitedAmount })
      else guild.setItem data.position none
    if other.container = data.container then guild
    else guild.decreaseMemberRemainingSlots now player data.container

/-- `BankMoveItemData::_StoreItem` -/
def storeItemAt (store : ItemStore) (container : Nat) (item : Item) (guild : Guild)
    (slotId count : Nat) (clone : Bool) : Guild :=
  match guild.getItem (container, slotId) with
  | some itemDest =>
    guild.setItem (container, slotId)
      (some { itemDest with count := itemDest.count + count })
  | none =>
    if clone then
      match guild.cloneItem store item count with
      | some (copy, guild) => guild.setItem (container, slotId) (some copy)
      | none => guild
    else guild.setItem (container, slotId) (some { item with count := count })

def BankMoveItemData.storeItem (data : BankMoveItemData) (store : ItemStore) (guild : Guild)
    (vec : List (Nat × Nat)) (item : Item) : Guild :=
  if data.container < guild.purchasedTabs then
    deliver (storeItemAt store data.container item) guild vec
  else guild

/-! ### The move -/

def doItemsMove (store : ItemStore) (now player : Nat) (guild : Guild)
    (src dest : BankMoveItemData) (sendError : Bool) (splitedAmount : Nat) : Bool × Guild :=
  match if splitedAmount ≠ 0 then src.clonedItem else src.item with
  | none => (false, guild)
  | some srcItem =>
    match canStore store guild dest.container dest.slotId srcItem dest.item.isSome with
    | (.ok, destVec) =>
      match dest.item with
      | none =>
        let guild := src.removeItem dest guild now player splitedAmount
        (true, dest.storeItem store guild destVec srcItem)
      | some destItem =>
        match canStore store guild src.container src.slotId destItem true with
        | (.ok, srcVec) =>
          let guild := src.removeItem dest guild now player splitedAmount
          let guild := dest.removeItem src guild now player 0
          let guild := dest.storeItem store guild destVec srcItem
          (true, src.storeItem store guild srcVec destItem)
        | (message, _) => (false, guild.sendEquipError message)
    | (message, _) => (false, if sendError then guild.sendEquipError message else guild)

/-- Step 5 of `_MoveItems`: the split-off copy is moved. -/
def moveSplit (store : ItemStore) (now player : Nat) (guild : Guild)
    (src dest : BankMoveItemData) (item : Item) (splitedAmount : Nat) : Bool × Guild :=
  match guild.cloneItem store item splitedAmount with
  | none => (false, guild.sendEquipError .itemNotFound)
  | some (copy, guild) =>
    doItemsMove store now player guild { src with clonedItem := some copy } dest true
      splitedAmount

/-- Step 6 of `_MoveItems`: merge or place the whole stack, else exchange the two items. -/
def moveWhole (store : ItemStore) (now player : Nat) (guild : Guild)
    (src dest : BankMoveItemData) : Bool × Guild :=
  match doItemsMove store now player guild src dest false 0 with
  | (true, guild) => (true, guild)
  | (false, guild) =>
    match guild.getItem dest.position with
    | none => (false, guild)
    | some destItem =>
      let dest := { dest with item := some destItem }
      if src.hasStoreRights dest guild player = false then (false, guild)
      else
        match dest.hasWithdrawRights src guild now player with
        | (false, guild) => (false, guild)
        | (true, guild) => doItemsMove store now player guild src dest true 0

/-- `_MoveItems` answers nothing; the flag says that items were moved. -/
def moveItems (store : ItemStore) (now player : Nat) (guild : Guild)
    (src dest : BankMoveItemData) (splitedAmount : Nat) : Bool × Guild :=
  match guild.getItem src.position with
  | none => (false, guild)
  | some item =>
    let src := { src with item := some item }
    if item.count < splitedAmount then (false, guild)
    else if dest.hasStoreRights src guild player = false then (false, guild)
    else
      match src.hasWithdrawRights dest guild now player with
      | (false, guild) => (false, guild)
      | (true, guild) =>
        -- `CheckItem` turns a split of the whole stack into a plain move.
        if splitedAmount = 0 ∨ splitedAmount = item.count then
          moveWhole store now player guild src dest
        else moveSplit store now player guild src dest item splitedAmount

def bankData (container slotId : Nat) : BankMoveItemData :=
  { container, slotId, item := none, clonedItem := none }

def swapItems (store : ItemStore) (now player : Nat) (guild : Guild)
    (tabId slotId destTabId destSlotId splitedAmount : Nat) : Bool × Guild :=
  if guild.purchasedTabs ≤ tabId ∨ guildBankMaxSlots ≤ slotId ∨
      guild.purchasedTabs ≤ destTabId ∨ guildBankMaxSlots ≤ destSlotId then (false, guild)
  else if tabId = destTabId ∧ slotId = destSlotId then (false, guild)
  else moveItems store now player guild (bankData tabId slotId) (bankData destTabId destSlotId)
    splitedAmount

/-! ### Valid banks -/

def Guild.total (store : ItemStore) (guild : Guild) (entry : Nat) : Nat :=
  (stacking store).total
    (Finset.range guild.purchasedTabs ×ˢ Finset.range guildBankMaxSlots) guild.getItem entry

def Guild.Valid (store : ItemStore) (guild : Guild) : Prop :=
  Coherent (stacking store) guild.getItem guild.nextGuid

theorem Guild.mem_support {guild : Guild} {position : Nat × Nat}
    (inside : guild.HasSlot position) :
    position ∈ Finset.range guild.purchasedTabs ×ˢ Finset.range guildBankMaxSlots :=
  Finset.mem_product.mpr
    ⟨Finset.mem_range.mpr inside.1, Finset.mem_range.mpr inside.2⟩

/-- Nothing that `_GetItem` or the guid generator shows has changed. -/
structure SameBank (before after : Guild) : Prop where
  tabs : after.purchasedTabs = before.purchasedTabs
  content : after.getItem = before.getItem
  guids : before.nextGuid ≤ after.nextGuid

theorem SameBank.refl (guild : Guild) : SameBank guild guild where
  tabs := rfl
  content := rfl
  guids := Nat.le_refl _

theorem SameBank.trans {first second third : Guild} (former : SameBank first second)
    (latter : SameBank second third) : SameBank first third where
  tabs := latter.tabs.trans former.tabs
  content := latter.content.trans former.content
  guids := Nat.le_trans former.guids latter.guids

theorem SameBank.valid {store : ItemStore} {before after : Guild}
    (same : SameBank before after) (valid : before.Valid store) : after.Valid store where
  bounded := by
    rw [same.content]
    exact valid.bounded
  distinct := by
    rw [same.content]
    exact valid.distinct
  fresh := by
    intro position item present
    rw [same.content] at present
    exact Nat.lt_of_lt_of_le (valid.fresh position item present) same.guids

theorem SameBank.total {before after : Guild} (same : SameBank before after)
    (store : ItemStore) (entry : Nat) : after.total store entry = before.total store entry := by
  unfold Guild.total
  rw [same.tabs, same.content]

theorem sendEquipError_same (guild : Guild) (message : InventoryResult) :
    SameBank guild (guild.sendEquipError message) := ⟨rfl, rfl, Nat.le_refl _⟩

theorem setRemaining_same (guild : Guild) (player : Nat) (member : Member) (tabId : Nat)
    (remaining : RemainingValue) :
    SameBank guild (guild.setRemaining player member tabId remaining) :=
  ⟨rfl, rfl, Nat.le_refl _⟩

theorem getMemberRemainingSlots_same (guild : Guild) (now player tabId : Nat) :
    SameBank guild (guild.getMemberRemainingSlots now player tabId).2 := by
  unfold Guild.getMemberRemainingSlots
  cases guild.members player with
  | none => exact SameBank.refl guild
  | some member =>
    dsimp only
    split
    · exact SameBank.refl guild
    · split
      · exact SameBank.refl guild
      · split
        · exact setRemaining_same ..
        · exact SameBank.refl guild

theorem decreaseMemberRemainingSlots_same (guild : Guild) (now player tabId : Nat) :
    SameBank guild (guild.decreaseMemberRemainingSlots now player tabId) := by
  have renewed := getMemberRemainingSlots_same guild now player tabId
  unfold Guild.decreaseMemberRemainingSlots
  dsimp only
  split
  · split
    · exact renewed.trans (setRemaining_same ..)
    · exact renewed
  · exact renewed

theorem hasWithdrawRights_same (data other : BankMoveItemData) (guild : Guild)
    (now player : Nat) :
    SameBank guild (data.hasWithdrawRights other guild now player).2 := by
  unfold BankMoveItemData.hasWithdrawRights
  split
  · exact SameBank.refl guild
  · exact getMemberRemainingSlots_same guild now player data.container

theorem cloneItem_same {store : ItemStore} {guild after : Guild} {item copy : Item}
    {count : Nat} (cloned : guild.cloneItem store item count = some (copy, after)) :
    SameBank guild after ∧ 0 < count ∧
      copy = { item with
        guid := guild.nextGuid, count := min count (store.maxStack item.entry) } ∧
      after.nextGuid = guild.nextGuid + 1 := by
  unfold Guild.cloneItem at cloned
  split at cloned
  · cases cloned
  · rename_i positive
    cases cloned
    exact ⟨⟨rfl, rfl, Nat.le_succ _⟩, Nat.pos_of_ne_zero (fun zero => positive (by omega)),
      rfl, rfl⟩

/-! ### One slot written -/

theorem removeItem_spec {data : BankMoveItemData} (other : BankMoveItemData) {guild : Guild} {item : Item}
    (now player splitedAmount : Nat) (found : data.item = some item)
    (present : guild.getItem data.position = some item) :
    let after := data.removeItem other guild now player splitedAmount
    after.getItem = Function.update guild.getItem data.position
        (if splitedAmount ≠ 0 then some { item with count := item.count - splitedAmount }
          else none) ∧
      after.purchasedTabs = guild.purchasedTabs ∧ guild.nextGuid ≤ after.nextGuid := by
  intro after
  have inside := Guild.getItem_inside present
  have written : ∀ content, (guild.setItem data.position content).getItem =
      Function.update guild.getItem data.position content :=
    fun content => guild.setItem_getItem inside content
  have base : ∀ content, let mid := guild.setItem data.position content
      let final := if other.container = data.container then mid
        else mid.decreaseMemberRemainingSlots now player data.container
      final.getItem = Function.update guild.getItem data.position content ∧
        final.purchasedTabs = guild.purchasedTabs ∧ guild.nextGuid ≤ final.nextGuid := by
    intro content mid final
    have same : SameBank mid final := by
      change SameBank mid (if other.container = data.container then mid
        else mid.decreaseMemberRemainingSlots now player data.container)
      split
      · exact SameBank.refl mid
      · exact decreaseMemberRemainingSlots_same mid now player data.container
    refine ⟨same.content.trans (written content), ?_, ?_⟩
    · rw [same.tabs]
      exact guild.setItem_purchasedTabs data.position content
    · rw [← guild.setItem_nextGuid data.position content]
      exact same.guids
  by_cases whole : splitedAmount ≠ 0
  · rw [if_pos whole]
    have split := base (some { item with count := item.count - splitedAmount })
    change (data.removeItem other guild now player splitedAmount).getItem = _ ∧
      (data.removeItem other guild now player splitedAmount).purchasedTabs = _ ∧ _ ≤
      (data.removeItem other guild now player splitedAmount).nextGuid
    unfold BankMoveItemData.removeItem
    rw [found]
    dsimp only
    rw [if_pos whole]
    exact split
  · rw [if_neg whole]
    have cleared := base none
    change (data.removeItem other guild now player splitedAmount).getItem = _ ∧
      (data.removeItem other guild now player splitedAmount).purchasedTabs = _ ∧ _ ≤
      (data.removeItem other guild now player splitedAmount).nextGuid
    unfold BankMoveItemData.removeItem
    rw [found]
    dsimp only
    rw [if_neg whole]
    exact cleared

theorem storeItemAt_put {store : ItemStore} {container slotId count : Nat} {item : Item}
    {guild : Guild} {clone : Bool} (inside : guild.HasSlot (container, slotId))
    (takes : (stacking store).Accepts item.entry (guild.getItem (container, slotId)) count)
    (positive : clone = true → 0 < count) :
    let after := storeItemAt store container item guild slotId count clone
    after.purchasedTabs = guild.purchasedTabs ∧ ∃ stored,
      Put (stacking store) item (container, slotId) count clone guild.getItem after.getItem
        guild.nextGuid after.nextGuid stored := by
  intro after
  cases content : guild.getItem (container, slotId) with
  | some itemDest =>
    have unfolded : after = guild.setItem (container, slotId)
        (some { itemDest with count := itemDest.count + count }) := by
      grind [storeItemAt]
    rw [content] at takes
    rw [unfolded, Guild.setItem_purchasedTabs, Guild.setItem_nextGuid]
    refine ⟨rfl, { itemDest with count := itemDest.count + count }, ?_⟩
    constructor
    · exact guild.setItem_getItem inside _
    · exact takes.1
    · rw [content]
      rfl
    · exact Nat.le_refl _
    · exact Or.inl ⟨itemDest, content, rfl⟩
  | none =>
    rw [content] at takes
    cases clone with
    | true =>
      have unfolded : after = Guild.setItem { guild with nextGuid := guild.nextGuid + 1 }
          (container, slotId) (some { item with guid := guild.nextGuid, count := count }) := by
        have some_left : ¬ count < 1 := Nat.not_lt.mpr (positive rfl)
        have whole : min count (store.maxStack item.entry) = count := Nat.min_eq_left takes
        change storeItemAt store container item guild slotId count true = _
        unfold storeItemAt Guild.cloneItem
        rw [content, if_neg some_left, whole]
        rfl
      rw [unfolded, Guild.setItem_purchasedTabs, Guild.setItem_nextGuid]
      refine ⟨rfl, { item with guid := guild.nextGuid, count := count }, ?_⟩
      constructor
      · exact Guild.setItem_getItem { guild with nextGuid := guild.nextGuid + 1 } inside _
      · rfl
      · rw [content]
        exact (Nat.zero_add count).symm
      · exact Nat.le_succ _
      · exact Or.inr (Or.inl ⟨content, rfl, rfl, Nat.lt_succ_self _⟩)
    | false =>
      have unfolded : after = guild.setItem (container, slotId)
          (some { item with count := count }) := by
        grind [storeItemAt]
      rw [unfolded, Guild.setItem_purchasedTabs, Guild.setItem_nextGuid]
      refine ⟨rfl, { item with count := count }, ?_⟩
      constructor
      · exact guild.setItem_getItem inside _
      · rfl
      · rw [content]
        exact (Nat.zero_add count).symm
      · exact Nat.le_refl _
      · exact Or.inr (Or.inr ⟨content, rfl, rfl⟩)

/-! ### A planned store -/

/-- `vec` can be carried out on `guild`: its slots are distinct and each takes its amount. -/
structure Storable (store : ItemStore) (guild : Guild) (container : Nat) (item : Item)
    (vec : List (Nat × Nat)) : Prop where
  distinct : (vec.map Prod.fst).Nodup
  inside : ∀ slot amount, (slot, amount) ∈ vec → guild.HasSlot (container, slot)
  takes : ∀ slot amount, (slot, amount) ∈ vec →
    (stacking store).Accepts item.entry (guild.getItem (container, slot)) amount
  positive : 1 < vec.length → ∀ slot amount, (slot, amount) ∈ vec → 0 < amount

theorem storeItem_spec {store : ItemStore} {guild : Guild} (data : BankMoveItemData)
    {item : Item} {vec : List (Nat × Nat)} (valid : guild.Valid store)
    (purchased : data.container < guild.purchasedTabs)
    (storable : Storable store guild data.container item vec)
    (moving : item.guid < guild.nextGuid)
    (absent : Absent (stacking store) guild.getItem item) :
    let after := data.storeItem store guild vec item
    after.Valid store ∧ after.purchasedTabs = guild.purchasedTabs ∧
      (∀ position, Keeps (stacking store) guild.getItem after.getItem position) ∧
      ∀ entry, after.total store entry = guild.total store entry +
        if item.entry = entry then (vec.map Prod.snd).sum else 0 := by
  intro after
  have unfolded : after = deliver (storeItemAt store data.container item) guild vec :=
    if_pos purchased
  have spots : (vec.map (fun entry => (data.container, entry.1))).Nodup := by
    have mapped := storable.distinct.map (f := fun slot => (data.container, slot))
      (fun left right same => congrArg Prod.snd same)
    rw [List.map_map] at mapped
    exact mapped
  obtain ⟨tabs, coherent, _, keeps, received⟩ := deliver_stores (S := stacking store)
    (storeItemAt store data.container item) Guild.getItem Guild.nextGuid
    (fun state => state.purchasedTabs = guild.purchasedTabs)
    (by
      intro state slot amount more tabs _ _ known takes positive
      obtain ⟨count, member⟩ := known
      have inside := storable.inside slot count member
      have spec := storeItemAt_put ⟨tabs ▸ inside.1, inside.2⟩ takes positive
      exact ⟨spec.1.trans tabs, spec.2⟩)
    spots storable.positive guild rfl valid moving (fun _ => absent) storable.takes
  rw [← unfolded] at tabs coherent keeps received
  refine ⟨coherent, tabs, keeps, ?_⟩
  intro entry
  unfold Guild.total
  rw [tabs]
  exact received.total spots
    (fun slot amount member => Guild.mem_support (storable.inside slot amount member))
    storable.takes entry

/-! ### What a move keeps -/

structure Moved (store : ItemStore) (src dest : Nat × Nat) (before after : Guild) : Prop where
  valid : after.Valid store
  tabs : after.purchasedTabs = before.purchasedTabs
  totals : ∀ entry, after.total store entry = before.total store entry
  keeps : ∀ position item, before.getItem position = some item → position ≠ src →
    (∃ left, after.getItem position = some left ∧ left.guid = item.guid ∧
      left.entry = item.entry ∧ item.count ≤ left.count) ∨
    (position = dest ∧ after.getItem src = some item)

theorem SameBank.moved {store : ItemStore} {before after : Guild} (same : SameBank before after)
    (valid : before.Valid store) (src dest : Nat × Nat) : Moved store src dest before after where
  valid := same.valid valid
  tabs := same.tabs
  totals := same.total store
  keeps := by
    intro position item present _
    rw [same.content]
    exact Or.inl ⟨item, present, rfl, rfl, Nat.le_refl _⟩

theorem Moved.after_same {store : ItemStore} {src dest : Nat × Nat} {first second third : Guild}
    (same : SameBank first second) (moved : Moved store src dest second third) :
    Moved store src dest first third where
  valid := moved.valid
  tabs := moved.tabs.trans same.tabs
  totals := fun entry => (moved.totals entry).trans (same.total store entry)
  keeps := by
    rw [← same.content]
    exact moved.keeps

theorem Guild.total_written (store : ItemStore) {before after : Guild} {position : Nat × Nat}
    {content : Option Item} (inside : before.HasSlot position)
    (tabs : after.purchasedTabs = before.purchasedTabs)
    (written : after.getItem = Function.update before.getItem position content) (entry : Nat) :
    after.total store entry + (stacking store).held entry (before.getItem position) =
      before.total store entry + (stacking store).held entry content := by
  unfold Guild.total
  rw [tabs, written]
  exact (stacking store).total_update _ before.getItem (Guild.mem_support inside) content entry

structure TakenOut (store : ItemStore) (guild : Guild) (src : Nat × Nat) (item moving : Item)
    (content : Option Item) : Prop where
  present : guild.getItem src = some item
  entry : moving.entry = item.entry
  amount : moving.count + (stacking store).countAt content = item.count
  leaves : ∀ left, content = some left → left.entry = item.entry ∧ left.guid = item.guid
  guid : moving.guid < guild.nextGuid
  own : (moving.guid = item.guid ∧ content = none) ∨
    ∀ position resident, guild.getItem position = some resident → resident.guid ≠ moving.guid

theorem takenOut_whole {store : ItemStore} {guild : Guild} {src : Nat × Nat} {item : Item}
    (valid : guild.Valid store) (present : guild.getItem src = some item) :
    TakenOut store guild src item item none where
  present := present
  entry := rfl
  amount := rfl
  leaves := by intro left impossible; cases impossible
  guid := valid.fresh src item present
  own := Or.inl ⟨rfl, rfl⟩

theorem takenOut_split {store : ItemStore} {before guild : Guild} {src : Nat × Nat}
    {item copy : Item} {splitedAmount : Nat} (valid : before.Valid store)
    (present : before.getItem src = some item) (part : splitedAmount ≤ item.count)
    (cloned : before.cloneItem store item splitedAmount = some (copy, guild)) :
    TakenOut store guild src item copy
      (some { item with count := item.count - splitedAmount }) := by
  obtain ⟨same, _, rfl, generated⟩ := cloneItem_same cloned
  have fits := valid.bounded src item present
  constructor
  · rw [same.content]
    exact present
  · rfl
  · have whole : min splitedAmount (store.maxStack item.entry) = splitedAmount :=
      Nat.min_eq_left (Nat.le_trans part fits)
    change min splitedAmount (store.maxStack item.entry) + (item.count - splitedAmount) = item.count
    rw [whole]
    exact Nat.add_sub_cancel' part
  · simp
  · simp [generated]
  · right
    intro position resident atPosition
    rw [same.content] at atPosition
    exact Nat.ne_of_lt (valid.fresh position resident atPosition)

section Plain

variable {store : ItemStore} {guild mid : Guild} {src dest : BankMoveItemData}
  {item moving : Item} {content : Option Item} {vec : List (Nat × Nat)}

theorem notSelf_of_ne {content : Option Item}
    (different : ∀ resident, content = some resident → resident.guid ≠ item.guid) :
    notSelf item content = content := by
  cases content with
  | none => rfl
  | some resident =>
    have distinct := different resident rfl
    unfold notSelf
    rw [Option.filter_some, if_pos (bne_iff_ne.mpr distinct)]

theorem notSelf_self {resident : Item} (same : item.guid = resident.guid) :
    notSelf item (some resident) = none := by
  unfold notSelf
  rw [Option.filter_some, same, bne_self_eq_false, if_neg Bool.false_ne_true]

theorem TakenOut.accepts (taken : TakenOut store guild src.position item moving content)
    (valid : guild.Valid store)
    (written : mid.getItem = Function.update guild.getItem src.position content)
    {position : Nat × Nat} {amount : Nat}
    (takes : (stacking store).Accepts moving.entry
      (notSelf moving (guild.getItem position)) amount) :
    (stacking store).Accepts moving.entry (mid.getItem position) amount := by
  rw [written]
  by_cases atSource : position = src.position
  · subst atSource
    rw [Function.update_self]
    rw [taken.present] at takes
    rcases taken.own with ⟨sameGuid, empty⟩ | freshGuid
    · rw [empty]
      rw [notSelf_self sameGuid] at takes
      exact takes
    · rw [notSelf_of_ne (fun resident equal => freshGuid _ resident (taken.present.trans equal))]
        at takes
      cases left : content with
      | none =>
        have room := takes.2
        change item.count + amount ≤ store.maxStack moving.entry at room
        change amount ≤ store.maxStack moving.entry
        omega
      | some remaining =>
        have total := taken.amount
        rw [left] at total
        have room := takes.2
        change item.count + amount ≤ store.maxStack moving.entry at room
        change moving.count + remaining.count = item.count at total
        refine ⟨(taken.leaves remaining left).1.trans taken.entry.symm, ?_⟩
        change remaining.count + amount ≤ store.maxStack moving.entry
        omega
  · rw [Function.update_of_ne atSource]
    have plain : notSelf moving (guild.getItem position) = guild.getItem position := by
      refine notSelf_of_ne ?_
      intro resident present same
      rcases taken.own with ⟨sameGuid, _⟩ | freshGuid
      · exact atSource (valid.distinct position src.position resident item present taken.present
          (same.trans sameGuid))
      · exact freshGuid position resident present same
    rw [plain] at takes
    exact takes

theorem moved_plain (valid : guild.Valid store)
    (named : dest.slotId < guildBankMaxSlots ∨ dest.slotId = nullSlot)
    (answer : canStore store guild dest.container dest.slotId moving false = (.ok, vec))
    (taken : TakenOut store guild src.position item moving content)
    (written : mid.getItem = Function.update guild.getItem src.position content)
    (tabs : mid.purchasedTabs = guild.purchasedTabs) (guids : guild.nextGuid ≤ mid.nextGuid) :
    Moved store src.position dest.position guild (dest.storeItem store mid vec moving) := by
  have planned := canStore_planned named answer
  have purchased := canStore_purchased answer
  have seen_eq : ∀ slot, seen guild dest.container dest.slotId moving false slot =
      notSelf moving (guild.getItem (dest.container, slot)) := by
    simp [seen]
  have storable : Storable store mid dest.container moving vec := by
    constructor
    · exact planned.distinct
    · intro slot amount member
      exact ⟨tabs ▸ purchased, (planned.good slot amount member).1⟩
    · intro slot amount member
      have takes := (planned.good slot amount member).2.1
      rw [seen_eq] at takes
      exact taken.accepts valid written takes
    · intro longer slot amount member
      refine (planned.good slot amount member).2.2 (Nat.pos_of_ne_zero ?_)
      -- A stack of zero is planned with its first slot alone.
      intro nothing
      have short := canStore_zero nothing answer
      omega
  have inside := Guild.getItem_inside taken.present
  have midValid : mid.Valid store := by
    unfold Guild.Valid
    rw [written]
    refine valid.update guids ?_ ?_
    · intro left equal
      have total := taken.amount
      rw [equal] at total
      change moving.count + left.count = item.count at total
      have fits : item.count ≤ store.maxStack item.entry := valid.bounded _ item taken.present
      have leaves := taken.leaves left equal
      change left.count ≤ store.maxStack left.entry ∧ left.guid < mid.nextGuid
      rw [leaves.1, leaves.2]
      exact ⟨by omega, Nat.lt_of_lt_of_le (valid.fresh _ item taken.present) guids⟩
    · intro left other resident equal different present same
      change resident.guid = left.guid at same
      rw [(taken.leaves left equal).2] at same
      exact different (valid.distinct other _ resident item present taken.present same)
  have absent : Absent (stacking store) mid.getItem moving := by
    intro position resident present same
    rw [written] at present
    by_cases atSource : position = src.position
    · subst atSource
      rw [Function.update_self] at present
      rcases taken.own with ⟨_, empty⟩ | freshGuid
      · simp_all
      · exact freshGuid _ item taken.present ((taken.leaves resident present).2.symm.trans same)
    · rw [Function.update_of_ne atSource] at present
      rcases taken.own with ⟨sameGuid, _⟩ | freshGuid
      · exact atSource (valid.distinct position _ resident item present taken.present
          (same.trans sameGuid))
      · exact freshGuid position resident present same
  obtain ⟨afterValid, afterTabs, keeps, totals⟩ := storeItem_spec dest midValid
    (tabs ▸ purchased) storable (Nat.lt_of_lt_of_le taken.guid guids) absent
  refine ⟨afterValid, afterTabs.trans tabs, ?_, ?_⟩
  · intro entry
    have removed := Guild.total_written store inside tabs written entry
    have sum := planned.sum
    have amount := taken.amount
    rw [taken.present, Stacking.held_some] at removed
    change _ + (if item.entry = entry then item.count else 0) = _ at removed
    rw [totals entry, taken.entry]
    cases left : content with
    | none =>
      rw [left] at removed amount
      change moving.count + 0 = item.count at amount
      rw [Stacking.held_none] at removed
      split at removed <;> split <;> omega
    | some remaining =>
      have leaves := taken.leaves remaining left
      rw [left] at removed amount
      change moving.count + remaining.count = item.count at amount
      rw [Stacking.held_some] at removed
      change _ = _ + (if remaining.entry = entry then remaining.count else 0) at removed
      rw [leaves.1] at removed
      split at removed <;> split <;> omega
  · intro position resident present elsewhere
    left
    refine keeps position resident ?_
    rw [written, Function.update_of_ne elsewhere]
    exact present

end Plain

/-! ### Exchanging two items -/

section Exchange

variable {store : ItemStore} {guild : Guild} {src dest : BankMoveItemData}

variable (store guild) in
theorem storeItem_whole (data : BankMoveItemData) (item : Item)
    (inside : guild.HasSlot data.position) (empty : guild.getItem data.position = none) :
    let after := data.storeItem store guild [(data.slotId, item.count)] item
    after.getItem = Function.update guild.getItem data.position (some item) ∧
      after.purchasedTabs = guild.purchasedTabs ∧ after.nextGuid = guild.nextGuid := by
  intro after
  have unfolded : after = guild.setItem data.position (some item) := by
    change data.storeItem store guild [(data.slotId, item.count)] item = _
    unfold BankMoveItemData.storeItem
    have purchased : data.container < guild.purchasedTabs := inside.1
    rw [if_pos purchased]
    unfold BankMoveItemData.position at empty
    simp only [deliver, storeItemAt, empty, List.isEmpty_nil, Bool.not_true, Bool.false_eq_true,
      if_false]
    rfl
  rw [unfolded]
  exact ⟨guild.setItem_getItem inside (some item), guild.setItem_purchasedTabs _ _,
    guild.setItem_nextGuid _ _⟩

theorem moved_exchange (now player : Nat) {srcItem destItem : Item} (valid : guild.Valid store)
    (atSource : guild.getItem src.position = some srcItem)
    (atDest : guild.getItem dest.position = some destItem)
    (srcFound : src.item = some srcItem) (destFound : dest.item = some destItem)
    (different : src.position ≠ dest.position) :
    Moved store src.position dest.position guild
      (src.storeItem store (dest.storeItem store
          (dest.removeItem src (src.removeItem dest guild now player 0) now player 0)
          [(dest.slotId, srcItem.count)] srcItem) [(src.slotId, destItem.count)] destItem) := by
  have srcInside := Guild.getItem_inside atSource
  have destInside := Guild.getItem_inside atDest
  -- The four writes, in the order of the source.
  obtain ⟨written1, tabs1, guids1⟩ := removeItem_spec dest now player 0 srcFound atSource
  rw [if_neg (fun impossible => impossible rfl)] at written1
  generalize src.removeItem dest guild now player 0 = first at *
  have stillDest : first.getItem dest.position = some destItem := by
    rw [written1, Function.update_of_ne different.symm, atDest]
  obtain ⟨written2, tabs2, guids2⟩ := removeItem_spec src now player 0 destFound stillDest
  rw [if_neg (fun impossible => impossible rfl)] at written2
  generalize dest.removeItem src first now player 0 = second at *
  have destEmpty : second.getItem dest.position = none := by
    rw [written2, Function.update_self]
  obtain ⟨written3, tabs3, guids3⟩ := storeItem_whole store second dest srcItem
    ⟨by rw [tabs2, tabs1]; exact destInside.1, destInside.2⟩ destEmpty
  generalize dest.storeItem store second [(dest.slotId, srcItem.count)] srcItem = third at *
  have srcEmpty : third.getItem src.position = none := by
    simp_all
  obtain ⟨written4, tabs4, guids4⟩ := storeItem_whole store third src destItem
    ⟨by rw [tabs3, tabs2, tabs1]; exact srcInside.1, srcInside.2⟩ srcEmpty
  generalize src.storeItem store third [(src.slotId, destItem.count)] destItem = fourth at *
  have step1 := valid.cleared atSource guids1
  rw [← written1] at step1
  obtain ⟨valid1, below1, absent1⟩ := step1
  have step2 := valid1.cleared stillDest guids2
  rw [← written2] at step2
  obtain ⟨valid2, below2, absent2⟩ := step2
  have srcAbsent : Absent (stacking store) second.getItem srcItem := by
    intro other resident present
    rw [written2] at present
    by_cases here : other = dest.position
    · simp_all
    · rw [Function.update_of_ne here] at present
      exact absent1 other resident present
  have step3 := valid2.placed dest.position (valid.bounded _ srcItem atSource)
    (Nat.lt_of_lt_of_le below1 guids2) srcAbsent (Nat.le_of_eq guids3.symm)
  rw [← written3] at step3
  have destAbsent : Absent (stacking store) third.getItem destItem := by
    intro other resident present
    rw [written3] at present
    by_cases here : other = dest.position
    · subst here
      rw [Function.update_self] at present
      cases present
      intro same
      exact different (valid.distinct _ _ srcItem destItem atSource atDest same)
    · rw [Function.update_of_ne here] at present
      exact absent2 other resident present
  have step4 := step3.placed src.position (valid.bounded _ destItem atDest)
    (guids3.symm ▸ below2) destAbsent (Nat.le_of_eq guids4.symm)
  rw [← written4] at step4
  have final : fourth.getItem = Function.update
      (Function.update guild.getItem dest.position (some srcItem)) src.position
        (some destItem) := by
    rw [written4, written3, written2, written1, Function.update_idem]
    funext position
    by_cases source : position = src.position
    · rw [source, Function.update_self, Function.update_self]
    · grind
  have allTabs : fourth.purchasedTabs = guild.purchasedTabs := by
    rw [tabs4, tabs3, tabs2, tabs1]
  refine ⟨step4, allTabs, ?_, ?_⟩
  · intro entry
    have total1 := Guild.total_written store srcInside tabs1 written1 entry
    have total2 := Guild.total_written store
      (Guild.getItem_inside stillDest) tabs2 written2 entry
    have total3 := Guild.total_written store
      (show second.HasSlot dest.position from
        ⟨by rw [tabs2, tabs1]; exact destInside.1, destInside.2⟩) tabs3 written3 entry
    have total4 := Guild.total_written store
      (show third.HasSlot src.position from
        ⟨by rw [tabs3, tabs2, tabs1]; exact srcInside.1, srcInside.2⟩) tabs4 written4 entry
    rw [atSource, Stacking.held_none] at total1
    rw [stillDest, Stacking.held_none] at total2
    rw [destEmpty, Stacking.held_none] at total3
    rw [srcEmpty, Stacking.held_none] at total4
    omega
  · intro position item present elsewhere
    by_cases target : position = dest.position <;> simp_all

end Exchange

/-! ### Whole moves -/

section Moves

variable {store : ItemStore} {now player : Nat} {guild : Guild} {src dest : BankMoveItemData}

theorem doItemsMove_failed {sendError : Bool} {splitedAmount : Nat}
    (failed : (doItemsMove store now player guild src dest sendError splitedAmount).1 = false) :
    SameBank guild (doItemsMove store now player guild src dest sendError splitedAmount).2 := by
  unfold doItemsMove at failed ⊢
  split
  · exact SameBank.refl guild
  · rename_i srcItem moving
    simp only [moving] at failed
    split
    · rename_i destVec answer
      simp only [answer] at failed
      split
      · simp_all
      · rename_i destItem occupied
        simp only [occupied] at failed
        split
        · simp_all
        · exact sendEquipError_same ..
    · dsimp only
      split
      · exact sendEquipError_same ..
      · exact SameBank.refl guild

theorem doItemsMove_store (src dest : BankMoveItemData) {sendError : Bool}
    {splitedAmount : Nat} {item : Item} (moving : Item)
    (valid : guild.Valid store)
    (named : dest.slotId < guildBankMaxSlots ∨ dest.slotId = nullSlot)
    (plain : dest.item = none) (found : src.item = some item)
    (moves : (if splitedAmount ≠ 0 then src.clonedItem else src.item) = some moving)
    (taken : TakenOut store guild src.position item moving
      (if splitedAmount ≠ 0 then some { item with count := item.count - splitedAmount }
        else none)) :
    Moved store src.position dest.position guild
      (doItemsMove store now player guild src dest sendError splitedAmount).2 := by
  cases outcome : (doItemsMove store now player guild src dest sendError splitedAmount).1 with
  | false => exact (doItemsMove_failed outcome).moved valid _ _
  | true =>
    unfold doItemsMove at outcome ⊢
    simp only [moves, plain, Option.isSome_none] at outcome ⊢
    split at outcome
    · rename_i destVec answer
      obtain ⟨written, tabs, guids⟩ :=
        removeItem_spec dest now player splitedAmount found taken.present
      exact moved_plain valid named answer taken written tabs guids
    · cases outcome

theorem doItemsMove_exchange (src dest : BankMoveItemData) {sendError : Bool}
    {srcItem destItem : Item}
    (valid : guild.Valid store)
    (atSource : guild.getItem src.position = some srcItem)
    (atDest : guild.getItem dest.position = some destItem)
    (srcFound : src.item = some srcItem) (destFound : dest.item = some destItem)
    (different : src.position ≠ dest.position) :
    Moved store src.position dest.position guild
      (doItemsMove store now player guild src dest sendError 0).2 := by
  cases outcome : (doItemsMove store now player guild src dest sendError 0).1 with
  | false => exact (doItemsMove_failed outcome).moved valid _ _
  | true =>
    unfold doItemsMove at outcome ⊢
    simp only [ne_eq, not_true_eq_false, if_false, srcFound, destFound, Option.isSome_some]
      at outcome ⊢
    split at outcome
    · rename_i destVec answer
      split at outcome
      · rename_i srcVec back
        have destPlan := canStore_swap (Guild.getItem_inside atDest).2
          (valid.bounded _ srcItem atSource) answer
        have srcPlan := canStore_swap (Guild.getItem_inside atSource).2
          (valid.bounded _ destItem atDest) back
        rw [destPlan, srcPlan]
        exact moved_exchange now player valid atSource atDest srcFound destFound different
      · cases outcome
    · cases outcome

/-- Everything `_MoveItems` can do: return early, move a split-off copy, store the whole stack, or
exchange it after the store has failed. -/
inductive MoveCase (store : ItemStore) (now player : Nat) (guild : Guild)
    (src dest : BankMoveItemData) (splitedAmount : Nat) (result : Bool × Guild) : Prop where
  | early (unmoved : result.1 = false) (same : SameBank guild result.2)
  | split (item : Item) (before : Guild) (copy : Item) (after : Guild)
      (present : guild.getItem src.position = some item) (same : SameBank guild before)
      (nonzero : splitedAmount ≠ 0) (part : splitedAmount ≤ item.count)
      (cloned : before.cloneItem store item splitedAmount = some (copy, after))
      (equal : result = doItemsMove store now player after
        { src with item := some item, clonedItem := some copy } dest true splitedAmount)
  | whole (item : Item) (before : Guild) (present : guild.getItem src.position = some item)
      (same : SameBank guild before)
      (equal : result =
        doItemsMove store now player before { src with item := some item } dest false 0)
  | exchange (item : Item) (before : Guild) (destItem : Item)
      (present : guild.getItem src.position = some item) (same : SameBank guild before)
      (occupied : before.getItem dest.position = some destItem)
      (equal : result = doItemsMove store now player before { src with item := some item }
        { dest with item := some destItem } true 0)

theorem moveSplit_case {before : Guild} {item : Item} {splitedAmount : Nat}
    (present : guild.getItem src.position = some item) (same : SameBank guild before)
    (nonzero : splitedAmount ≠ 0) (part : splitedAmount ≤ item.count) :
    MoveCase store now player guild src dest splitedAmount
      (moveSplit store now player before { src with item := some item } dest item
        splitedAmount) := by
  unfold moveSplit
  cases cloned : before.cloneItem store item splitedAmount with
  | none => exact .early rfl (same.trans (sendEquipError_same ..))
  | some copied =>
    obtain ⟨copy, after⟩ := copied
    exact .split item before copy after present same nonzero part cloned rfl

theorem moveWhole_case {before : Guild} {item : Item} (splitedAmount : Nat)
    (present : guild.getItem src.position = some item) (same : SameBank guild before) :
    MoveCase store now player guild src dest splitedAmount
      (moveWhole store now player before { src with item := some item } dest) := by
  unfold moveWhole
  have attempt := @doItemsMove_failed store now player before { src with item := some item } dest
    false 0
  have direct := @MoveCase.whole store now player guild src dest splitedAmount
    (doItemsMove store now player before { src with item := some item } dest false 0)
    item before present same rfl
  generalize doItemsMove store now player before { src with item := some item } dest false 0 =
    result at attempt direct
  obtain ⟨done, after⟩ := result
  cases done with
  | true => exact direct
  | false =>
    have unchanged := same.trans (attempt rfl)
    dsimp only at unchanged ⊢
    cases occupied : after.getItem dest.position with
    | none => exact .early rfl unchanged
    | some destItem =>
      dsimp only
      split
      · exact .early rfl unchanged
      · have rights := hasWithdrawRights_same { dest with item := some destItem }
          { src with item := some item } after now player
        split
        · rename_i final denied
          rw [denied] at rights
          exact .early rfl (unchanged.trans rights)
        · rename_i final allowed
          rw [allowed] at rights
          refine .exchange item final destItem present (unchanged.trans rights) ?_ rfl
          rw [rights.content]
          exact occupied

theorem moveItems_case (splitedAmount : Nat) :
    MoveCase store now player guild src dest splitedAmount
      (moveItems store now player guild src dest splitedAmount) := by
  unfold moveItems
  cases present : guild.getItem src.position with
  | none => exact .early rfl (SameBank.refl guild)
  | some item =>
    dsimp only
    split
    · exact .early rfl (SameBank.refl guild)
    · rename_i enough
      split
      · exact .early rfl (SameBank.refl guild)
      · have rights := hasWithdrawRights_same { src with item := some item } dest guild now player
        split
        · rename_i before denied
          rw [denied] at rights
          exact .early rfl rights
        · rename_i before allowed
          rw [allowed] at rights
          split
          · exact moveWhole_case splitedAmount present rights
          · rename_i part
            rw [not_or] at part
            exact moveSplit_case present rights part.1 (Nat.le_of_not_lt enough)

theorem moveItems_failed {splitedAmount : Nat}
    (failed : (moveItems store now player guild src dest splitedAmount).1 = false) :
    SameBank guild (moveItems store now player guild src dest splitedAmount).2 := by
  cases moveItems_case splitedAmount with
  | early _ same => exact same
  | split item before copy after present same nonzero part cloned equal =>
    rw [equal] at failed ⊢
    exact same.trans ((cloneItem_same cloned).1.trans (doItemsMove_failed failed))
  | whole item before present same equal =>
    rw [equal] at failed ⊢
    exact same.trans (doItemsMove_failed failed)
  | exchange item before destItem present same occupied equal =>
    rw [equal] at failed ⊢
    exact same.trans (doItemsMove_failed failed)

theorem moveItems_moved (src dest : BankMoveItemData) (valid : guild.Valid store)
    (plain : dest.item = none)
    (named : dest.slotId < guildBankMaxSlots ∨ dest.slotId = nullSlot)
    (different : src.position ≠ dest.position) (splitedAmount : Nat) :
    Moved store src.position dest.position guild
      (moveItems store now player guild src dest splitedAmount).2 := by
  cases moveItems_case splitedAmount with
  | early _ same => exact same.moved valid _ _
  | split item before copy after present same nonzero part cloned equal =>
    rw [equal]
    have renewed := same.trans (cloneItem_same cloned).1
    have taken := takenOut_split (same.valid valid) (same.content ▸ present) part cloned
    refine Moved.after_same renewed (doItemsMove_store
      { src with item := some item, clonedItem := some copy } dest copy (renewed.valid valid)
      named plain rfl ?_ ?_)
    · rw [if_pos nonzero]
    · rw [if_pos nonzero]
      exact taken
  | whole item before present same equal =>
    rw [equal]
    exact Moved.after_same same (doItemsMove_store { src with item := some item } dest item
      (same.valid valid) named plain rfl rfl
      (takenOut_whole (same.valid valid) (same.content ▸ present)))
  | exchange item before destItem present same occupied equal =>
    rw [equal]
    exact Moved.after_same same (doItemsMove_exchange
      { src with item := some item } { dest with item := some destItem }
      (same.valid valid) (same.content ▸ present) occupied rfl rfl different)

end Moves

/-! ### Requests -/

theorem swapItems_moved {store : ItemStore} {guild : Guild} (valid : guild.Valid store)
    (now player tabId slotId destTabId destSlotId splitedAmount : Nat) :
    Moved store (tabId, slotId) (destTabId, destSlotId) guild
      (swapItems store now player guild tabId slotId destTabId destSlotId splitedAmount).2 := by
  unfold swapItems
  split
  · exact (SameBank.refl guild).moved valid _ _
  · rename_i inside
    split
    · exact (SameBank.refl guild).moved valid _ _
    · rename_i different
      have named : destSlotId < guildBankMaxSlots := by
        omega
      refine moveItems_moved (bankData tabId slotId) (bankData destTabId destSlotId) valid rfl
        (Or.inl named) ?_ splitedAmount
      intro same
      exact different (Prod.mk.inj same)

theorem swapItems_failed {store : ItemStore} {guild : Guild}
    {now player tabId slotId destTabId destSlotId splitedAmount : Nat}
    (failed : (swapItems store now player guild tabId slotId destTabId destSlotId
      splitedAmount).1 = false) :
    SameBank guild
      (swapItems store now player guild tabId slotId destTabId destSlotId splitedAmount).2 := by
  unfold swapItems at failed ⊢
  split
  · exact SameBank.refl guild
  · rename_i inside
    rw [if_neg inside] at failed
    split
    · exact SameBank.refl guild
    · rename_i different
      rw [if_neg different] at failed
      exact moveItems_failed failed

/-- A request between two positions of the bank, the automatic slot included. -/
theorem swapItems_conserves (store : ItemStore) (guild : Guild) (valid : guild.Valid store)
    (now player : Nat) :
    (∀ tabId slotId destTabId destSlotId splitedAmount,
      Moved store (tabId, slotId) (destTabId, destSlotId) guild
        (swapItems store now player guild tabId slotId destTabId destSlotId splitedAmount).2 ∧
      ((swapItems store now player guild tabId slotId destTabId destSlotId
          splitedAmount).1 = false →
        (swapItems store now player guild tabId slotId destTabId destSlotId
          splitedAmount).2.getItem = guild.getItem)) ∧
    (∀ tabId slotId destTabId splitedAmount, Moved store (tabId, slotId) (destTabId, nullSlot) guild
        (moveItems store now player guild (bankData tabId slotId) (bankData destTabId nullSlot)
          splitedAmount).2) ∧
    (∀ src dest splitedAmount, (moveItems store now player guild src dest splitedAmount).1 = false →
        (moveItems store now player guild src dest splitedAmount).2.getItem = guild.getItem) ∧
    (∀ src dest sendError splitedAmount,
      (doItemsMove store now player guild src dest sendError splitedAmount).1 = false →
        (doItemsMove store now player guild src dest sendError splitedAmount).2.getItem =
          guild.getItem) := by
  refine ⟨?_, ?_, ?_, ?_⟩
  · intro tabId slotId destTabId destSlotId splitedAmount
    exact ⟨swapItems_moved valid now player tabId slotId destTabId destSlotId splitedAmount,
      fun failed => (swapItems_failed failed).content⟩
  · intro tabId slotId destTabId splitedAmount
    by_cases inside : slotId = nullSlot
    · have outside : guild.getItem (bankData tabId slotId).position = none := by
        unfold Guild.getItem
        refine if_neg ?_
        intro slot
        have below : slotId < guildBankMaxSlots := slot.2
        rw [inside] at below
        exact absurd below (by decide)
      have unmoved : moveItems store now player guild (bankData tabId slotId)
          (bankData destTabId nullSlot) splitedAmount = (false, guild) := by
        unfold moveItems
        rw [outside]
      rw [unmoved]
      exact (SameBank.refl guild).moved valid _ _
    · refine moveItems_moved (bankData tabId slotId) (bankData destTabId nullSlot) valid rfl
        (Or.inr rfl) ?_ splitedAmount
      intro same
      exact inside (congrArg Prod.snd same)
  · intro src dest splitedAmount failed
    exact (moveItems_failed failed).content
  · intro src dest sendError splitedAmount failed
    exact (doItemsMove_failed failed).content

/-- Twenty of one stackable entry: a full stack of 15 in slot 0 and 5 more in slot 1. -/
def potionStore : ItemStore where
  prototype := fun _ => { stackable := 15 }
  known := fun _ => true
  limitCategory := fun _ => none

def potionGuild : Guild where
  purchasedTabs := 1
  bankTabs := fun position =>
    if position = (0, 0) then some { guid := 1, entry := 118, count := 15, soulBound := false }
    else if position = (0, 1) then some { guid := 2, entry := 118, count := 5, soulBound := false }
    else none
  leaderGuid := 7
  members := fun _ => none
  ranks := fun _ => none
  nextGuid := 3
  errors := []

theorem potionGuild_getItem {position : Nat × Nat} {item : Item}
    (present : potionGuild.getItem position = some item) :
    (position = (0, 0) ∧ item = { guid := 1, entry := 118, count := 15, soulBound := false }) ∨
      (position = (0, 1) ∧ item = { guid := 2, entry := 118, count := 5, soulBound := false }) := by
  unfold Guild.getItem at present
  rw [if_pos (Guild.getItem_inside present)] at present
  unfold potionGuild at present
  dsimp only at present
  split at present <;> simp_all

theorem potionGuild_valid : potionGuild.Valid potionStore where
  bounded := by
    intro position item present
    rcases potionGuild_getItem present with ⟨_, rfl⟩ | ⟨_, rfl⟩ <;> decide
  distinct := by
    intro first second left right atFirst atSecond same
    rcases potionGuild_getItem atFirst with ⟨rfl, rfl⟩ | ⟨rfl, rfl⟩ <;>
      rcases potionGuild_getItem atSecond with ⟨rfl, rfl⟩ | ⟨rfl, rfl⟩
    · rfl
    · cases same
    · cases same
    · rfl
  fresh := by
    intro position item present
    rcases potionGuild_getItem present with ⟨_, rfl⟩ | ⟨_, rfl⟩ <;> decide

/-- Splitting 7 off the full stack onto the other one fills that one and conserves the potions. -/
theorem swapItems_conserves_potions :
    (swapItems potionStore 0 7 potionGuild 0 0 0 1 7).2.getItem (0, 1) =
        some { guid := 2, entry := 118, count := 12, soulBound := false } ∧
      (swapItems potionStore 0 7 potionGuild 0 0 0 1 7).2.total potionStore 118 =
        potionGuild.total potionStore 118 :=
  ⟨by decide +kernel,
    ((swapItems_conserves potionStore potionGuild potionGuild_valid 0 7).1 0 0 0 1 7).1.totals 118⟩

end DarkCore.Guilds
