/-
The guild bank (`Guild.cpp`): tabs of 98 slots, the members' rights and daily
withdrawals, and the search for room of `BankMoveItemData`.

Database writes, bank event logs and the packets that show the new content to
the members are left out; none of them is read back by a move.
-/

import DarkCore.Items.Prototype
import DarkCore.Lib.Stacks

namespace DarkCore.Guilds

open Items Lib

def guildBankMaxTabs : Nat := 8
def guildBankMaxSlots : Nat := 98
def guildWithdrawSlotUnlimited : Nat := 0xFFFFFFFF
def guildBankRightViewTab : Nat := 0x01
def guildBankRightDepositItem : Nat := 0x01 ||| 0x02
def grGuildMaster : Nat := 0
def nullSlot : Nat := 255

structure Item where
  guid : Nat
  entry : Nat
  count : Nat
  soulBound : Bool
deriving DecidableEq

structure RemainingValue where
  value : Nat
  resetTime : Nat
deriving DecidableEq

structure Member where
  rankId : Nat
  bankRemaining : Nat → RemainingValue

structure RankInfo where
  tabRights : Nat → Nat
  tabSlots : Nat → Nat

structure Guild where
  purchasedTabs : Nat
  bankTabs : Nat × Nat → Option Item
  leaderGuid : Nat
  members : Nat → Option Member
  ranks : Nat → Option RankInfo
  /-- The next low guid that `sObjectMgr` gives to an item. -/
  nextGuid : Nat
  /-- What `SendEquipError` told the moving player. -/
  errors : List InventoryResult

/-- Where `_GetItem` finds a tab and a slot. -/
def Guild.HasSlot (guild : Guild) (position : Nat × Nat) : Prop :=
  position.1 < guild.purchasedTabs ∧ position.2 < guildBankMaxSlots

instance (guild : Guild) (position : Nat × Nat) : Decidable (guild.HasSlot position) :=
  inferInstanceAs (Decidable (_ ∧ _))

def Guild.getItem (guild : Guild) (position : Nat × Nat) : Option Item :=
  if guild.HasSlot position then guild.bankTabs position else none

/-- `BankTab::SetItem`: a slot beyond the tab is refused. -/
def Guild.setItem (guild : Guild) (position : Nat × Nat) (content : Option Item) : Guild :=
  if guild.HasSlot position then
    { guild with bankTabs := Function.update guild.bankTabs position content }
  else guild

theorem Guild.setItem_getItem (guild : Guild) {position : Nat × Nat}
    (inside : guild.HasSlot position) (content : Option Item) :
    (guild.setItem position content).getItem =
      Function.update guild.getItem position content := by
  funext other
  unfold Guild.getItem Guild.setItem
  rw [if_pos inside]
  by_cases same : other = position
  · subst same
    rw [Function.update_self]
    have still : Guild.HasSlot { guild with
        bankTabs := Function.update guild.bankTabs other content } other := inside
    rw [if_pos still]
    exact Function.update_self ..
  · rw [Function.update_of_ne same]
    by_cases known : guild.HasSlot other
    · rw [if_pos known]
      have still : Guild.HasSlot { guild with
          bankTabs := Function.update guild.bankTabs position content } other := known
      rw [if_pos still]
      exact Function.update_of_ne same ..
    · rw [if_neg known]
      have still : ¬ Guild.HasSlot { guild with
          bankTabs := Function.update guild.bankTabs position content } other := known
      rw [if_neg still]

theorem Guild.getItem_inside {guild : Guild} {position : Nat × Nat} {item : Item}
    (present : guild.getItem position = some item) : guild.HasSlot position := by
  by_contra outside
  unfold Guild.getItem at present
  rw [if_neg outside] at present
  cases present

@[simp] theorem Guild.setItem_purchasedTabs (guild : Guild) (position : Nat × Nat)
    (content : Option Item) :
    (guild.setItem position content).purchasedTabs = guild.purchasedTabs := by
  unfold Guild.setItem
  split <;> rfl

@[simp] theorem Guild.setItem_nextGuid (guild : Guild) (position : Nat × Nat)
    (content : Option Item) :
    (guild.setItem position content).nextGuid = guild.nextGuid := by
  unfold Guild.setItem
  split <;> rfl

def Guild.getRankBankTabRights (guild : Guild) (rankId tabId : Nat) : Nat :=
  match guild.ranks rankId with
  | some rank => if tabId < guildBankMaxTabs then rank.tabRights tabId else 0
  | none => 0

def Guild.getRankBankTabSlotsPerDay (guild : Guild) (rankId tabId : Nat) : Nat :=
  if tabId < guild.purchasedTabs then
    match guild.ranks rankId with
    | some rank =>
      if tabId < guildBankMaxTabs then
        if rankId = grGuildMaster then guildWithdrawSlotUnlimited else rank.tabSlots tabId
      else 0
    | none => 0
  else 0

def Guild.memberHasTabRights (guild : Guild) (player tabId rights : Nat) : Bool :=
  match guild.members player with
  | some member =>
    if member.rankId = grGuildMaster ∨ guild.leaderGuid = player then true
    else guild.getRankBankTabRights member.rankId tabId &&& rights == rights
  | none => false

def Guild.setRemaining (guild : Guild) (player : Nat) (member : Member) (tabId : Nat)
    (remaining : RemainingValue) : Guild :=
  { guild with
    members := Function.update guild.members player
      (some { member with
        bankRemaining := Function.update member.bankRemaining tabId remaining }) }

/-- Reading the allowance renews one that is older than a day; `now` is in minutes. -/
def Guild.getMemberRemainingSlots (guild : Guild) (now player tabId : Nat) : Nat × Guild :=
  match guild.members player with
  | none => (0, guild)
  | some member =>
    if member.rankId = grGuildMaster then (guildWithdrawSlotUnlimited, guild)
    else if guild.getRankBankTabRights member.rankId tabId &&& guildBankRightViewTab ≠
        guildBankRightViewTab then (0, guild)
    else if (member.bankRemaining tabId).resetTime + 24 * 60 < now then
      let renewed : RemainingValue :=
        { value := guild.getRankBankTabSlotsPerDay member.rankId tabId, resetTime := now }
      (renewed.value, guild.setRemaining player member tabId renewed)
    else ((member.bankRemaining tabId).value, guild)

def Guild.decreaseMemberRemainingSlots (guild : Guild) (now player tabId : Nat) : Guild :=
  let (remainingSlots, renewed) := guild.getMemberRemainingSlots now player tabId
  if remainingSlots ≠ 0 ∧ remainingSlots < guildWithdrawSlotUnlimited then
    match renewed.members player with
    | some member =>
      let old := member.bankRemaining tabId
      renewed.setRemaining player member tabId { old with value := old.value - 1 }
    | none => renewed
  else renewed

/-- `_ReserveSpace`; `none` is the answer false. -/
def reserveSpace (store : ItemStore) (slotId : Nat) (item : Item) (itemDest : Option Item)
    (vec : List (Nat × Nat)) (count : Nat) : Option (List (Nat × Nat) × Nat) :=
  match itemDest with
  | none => some (reserve slotId (store.maxStack item.entry) vec count)
  | some dest =>
    if dest.entry ≠ item.entry ∨ store.maxStack item.entry ≤ dest.count then none
    else some (reserve slotId (store.maxStack item.entry - dest.count) vec count)

/-- The content of a slot as the search sees it: the moved item itself does not count. -/
def notSelf (item : Item) (content : Option Item) : Option Item :=
  content.filter (fun dest => dest.guid != item.guid)

/-- `_CanStoreItemInTab` over the slots that are left to visit. -/
def canStoreItemInTab (store : ItemStore) (guild : Guild) (container : Nat) (item : Item)
    (skipSlotId : Nat) (merge : Bool) :
    List Nat → List (Nat × Nat) → Nat → List (Nat × Nat) × Nat
  | [], vec, count => (vec, count)
  | slotId :: rest, vec, count =>
    if count = 0 then (vec, count)
    else if slotId = skipSlotId then
      canStoreItemInTab store guild container item skipSlotId merge rest vec count
    else
      let itemDest := notSelf item (guild.getItem (container, slotId))
      if itemDest.isSome ≠ merge then
        canStoreItemInTab store guild container item skipSlotId merge rest vec count
      else
        let (vec, count) := (reserveSpace store slotId item itemDest vec count).getD (vec, count)
        canStoreItemInTab store guild container item skipSlotId merge rest vec count

/-- The search of `_CanStore` for free slots. -/
def canStoreInFreeSlots (store : ItemStore) (guild : Guild) (container slotId : Nat)
    (item : Item) (vec : List (Nat × Nat)) (count : Nat) :
    InventoryResult × List (Nat × Nat) :=
  let (vec, count) := canStoreItemInTab store guild container item slotId false
    (List.range guildBankMaxSlots) vec count
  if count = 0 then (.ok, vec) else (.bankFull, vec)

/-- The search of `_CanStore` beyond the slot the caller named: first stacks to merge with. -/
def canStoreInTab (store : ItemStore) (guild : Guild) (container slotId : Nat) (item : Item)
    (vec : List (Nat × Nat)) (count : Nat) : InventoryResult × List (Nat × Nat) :=
  if 1 < store.maxStack item.entry then
    let (vec, count) := canStoreItemInTab store guild container item slotId true
      (List.range guildBankMaxSlots) vec count
    if count = 0 then (.ok, vec)
    else canStoreInFreeSlots store guild container slotId item vec count
  else canStoreInFreeSlots store guild container slotId item vec count

/-- `BankMoveItemData::_CanStore`, answered with the reserved slots. -/
def canStore (store : ItemStore) (guild : Guild) (container slotId : Nat) (item : Item)
    (swap : Bool) : InventoryResult × List (Nat × Nat) :=
  if item.soulBound then (.cantDropSoulbound, [])
  else if guild.purchasedTabs ≤ container then (.itemDoesntGoIntoBag, [])
  else if slotId ≠ nullSlot then
    let itemDest :=
      if swap then none else notSelf item (guild.getItem (container, slotId))
    match reserveSpace store slotId item itemDest [] item.count with
    | none => (.itemCantStack, [])
    | some (vec, count) =>
      if count = 0 then (.ok, vec)
      else canStoreInTab store guild container slotId item vec count
  else canStoreInTab store guild container slotId item [] item.count

def stacking (store : ItemStore) : Stacking Item Nat where
  guid := Item.guid
  entry := Item.entry
  count := Item.count
  maxStack := store.maxStack

/-- The slot as `_CanStore` counts it; a swap empties the named slot first. -/
def seen (guild : Guild) (container slotId : Nat) (item : Item) (swap : Bool) (slot : Nat) :
    Option Item :=
  if slot = slotId ∧ swap = true then none else notSelf item (guild.getItem (container, slot))

def Reserved (store : ItemStore) (guild : Guild) (container slotId : Nat) (item : Item)
    (swap : Bool) (slot amount : Nat) : Prop :=
  slot < guildBankMaxSlots ∧
    (stacking store).Accepts item.entry (seen guild container slotId item swap slot) amount ∧
    (0 < item.count → 0 < amount)

section Search

variable {store : ItemStore} {guild : Guild} {container slotId : Nat} {item : Item}
  {swap : Bool} {vec : List (Nat × Nat)} {count : Nat}

theorem reserveSpace_planned {slot : Nat} (inside : slot < guildBankMaxSlots)
    (some_left : 0 < item.count → 0 < count)
    (planned : Planned (Reserved store guild container slotId item swap) item.count vec count)
    {found : List (Nat × Nat) × Nat}
    (reserved : reserveSpace store slot item (seen guild container slotId item swap slot)
      vec count = some found) :
    Planned (Reserved store guild container slotId item swap) item.count found.1 found.2 := by
  have largest := store.maxStack_pos item.entry
  unfold reserveSpace at reserved
  cases content : seen guild container slotId item swap slot with
  | none =>
    rw [content] at reserved
    cases reserved
    refine planned.reserve slot (store.maxStack item.entry) ⟨inside, ?_, ?_⟩
    · rw [content]
      exact Nat.min_le_left _ _
    · intro positive
      have left := some_left positive
      omega
  | some dest =>
    rw [content] at reserved
    dsimp only at reserved
    split at reserved
    · cases reserved
    · rename_i mergeable
      rw [not_or, not_not, Nat.not_le] at mergeable
      cases reserved
      refine planned.reserve slot (store.maxStack item.entry - dest.count) ⟨inside, ?_, ?_⟩
      · rw [content]
        refine ⟨mergeable.1, ?_⟩
        change dest.count + _ ≤ store.maxStack item.entry
        omega
      · intro positive
        have left := some_left positive
        omega

theorem canStoreItemInTab_planned (merge : Bool) (slots : List Nat)
    (inside : ∀ slot ∈ slots, slot < guildBankMaxSlots)
    (planned : Planned (Reserved store guild container slotId item swap) item.count vec count) :
    Planned (Reserved store guild container slotId item swap) item.count
      (canStoreItemInTab store guild container item slotId merge slots vec count).1
      (canStoreItemInTab store guild container item slotId merge slots vec count).2 := by
  induction slots generalizing vec count with
  | nil => exact planned
  | cons slot rest ih =>
    have later := fun other member => inside other (List.mem_cons_of_mem slot member)
    unfold canStoreItemInTab
    split
    · exact planned
    · rename_i left
      split
      · exact ih later planned
      · rename_i other
        have plain : seen guild container slotId item swap slot =
            notSelf item (guild.getItem (container, slot)) := by
          simp_all [seen]
        dsimp only
        split
        · exact ih later planned
        · rw [← plain]
          cases reserved : reserveSpace store slot item
              (seen guild container slotId item swap slot) vec count with
          | none => exact ih later planned
          | some found =>
            exact ih later (reserveSpace_planned (inside slot List.mem_cons_self)
              (fun _ => Nat.pos_of_ne_zero left) planned reserved)

theorem range_inside : ∀ slot ∈ List.range guildBankMaxSlots, slot < guildBankMaxSlots :=
  fun _ member => List.mem_range.mp member

variable {found : List (Nat × Nat)}

theorem canStoreInFreeSlots_planned
    (planned : Planned (Reserved store guild container slotId item swap) item.count vec count)
    (answer : canStoreInFreeSlots store guild container slotId item vec count = (.ok, found)) :
    Planned (Reserved store guild container slotId item swap) item.count found 0 := by
  have spread := canStoreItemInTab_planned false _ range_inside planned
  unfold canStoreInFreeSlots at answer
  dsimp only at answer
  split at answer
  · simp_all
  · cases answer

theorem canStoreInTab_planned
    (planned : Planned (Reserved store guild container slotId item swap) item.count vec count)
    (answer : canStoreInTab store guild container slotId item vec count = (.ok, found)) :
    Planned (Reserved store guild container slotId item swap) item.count found 0 := by
  have merged := canStoreItemInTab_planned true _ range_inside planned
  unfold canStoreInTab at answer
  split at answer
  · dsimp only at answer
    split at answer
    · simp_all
    · exact canStoreInFreeSlots_planned merged answer
  · exact canStoreInFreeSlots_planned planned answer

theorem canStore_planned (named : slotId < guildBankMaxSlots ∨ slotId = nullSlot)
    (answer : canStore store guild container slotId item swap = (.ok, found)) :
    Planned (Reserved store guild container slotId item swap) item.count found 0 := by
  have start := Planned.empty (Reserved store guild container slotId item swap) item.count
  unfold canStore at answer
  split at answer
  · cases answer
  · split at answer
    · cases answer
    · split at answer
      · rename_i explicit
        have content : (if swap = true then none
            else notSelf item (guild.getItem (container, slotId))) =
            seen guild container slotId item swap slotId := by
          simp [seen]
        dsimp only at answer
        rw [content] at answer
        cases reserved : reserveSpace store slotId item
            (seen guild container slotId item swap slotId) [] item.count with
        | none =>
          simp_all
        | some first =>
          obtain ⟨vec, count⟩ := first
          rw [reserved] at answer
          have planned := reserveSpace_planned (named.resolve_right explicit)
            (fun positive => positive) start reserved
          dsimp only at answer planned
          split at answer
          · simp_all
          · exact canStoreInTab_planned planned answer
      · exact canStoreInTab_planned start answer

theorem canStore_purchased
    (answer : canStore store guild container slotId item swap = (.ok, found)) :
    container < guild.purchasedTabs := by
  unfold canStore at answer
  split at answer
  · cases answer
  · grind

theorem reserveSpace_first {slot : Nat} {itemDest : Option Item}
    {found : List (Nat × Nat) × Nat}
    (reserved : reserveSpace store slot item itemDest [] count = some found) :
    ∃ room, found = ([(slot, min room count)], count - min room count) := by
  unfold reserveSpace at reserved
  cases itemDest with
  | none =>
    grind [reserve_first]
  | some dest =>
    grind [reserve_first]

theorem canStoreItemInTab_done (merge : Bool) (slots : List Nat) :
    canStoreItemInTab store guild container item slotId merge slots vec 0 = (vec, 0) := by
  cases slots with
  | nil => rfl
  | cons slot rest =>
    rfl

theorem canStore_zero (nothing : item.count = 0)
    (answer : canStore store guild container slotId item swap = (.ok, found)) :
    found.length ≤ 1 := by
  unfold canStore at answer
  split at answer
  · cases answer
  · split at answer
    · cases answer
    · split at answer
      · dsimp only at answer
        split at answer
        · cases answer
        · rename_i vec count reserved
          obtain ⟨room, first⟩ := reserveSpace_first reserved
          rw [nothing, Nat.zero_sub, Prod.mk.injEq] at first
          rw [if_pos first.2] at answer
          cases answer
          rw [first.1]
          exact Nat.le_refl 1
      · have direct : canStoreInTab store guild container slotId item [] item.count = (.ok, []) := by
          unfold canStoreInTab canStoreInFreeSlots
          rw [nothing, canStoreItemInTab_done, canStoreItemInTab_done]
          simp only [if_true, ite_self]
        rw [direct] at answer
        cases answer
        exact Nat.zero_le 1

theorem canStore_swap (named : slotId < guildBankMaxSlots)
    (fits : item.count ≤ store.maxStack item.entry)
    (answer : canStore store guild container slotId item true = (.ok, found)) :
    found = [(slotId, item.count)] := by
  have explicit : slotId ≠ nullSlot := by
    intro same
    rw [same] at named
    exact absurd named (by decide)
  unfold canStore at answer
  split at answer
  · cases answer
  · split at answer
    · cases answer
    · have reserved : reserveSpace store slotId item none [] item.count =
          some ([(slotId, item.count)], 0) := by
        unfold reserveSpace
        rw [reserve_first, Nat.min_eq_right fits, Nat.sub_self]
      simp only [if_true, reserved] at answer
      exact (congrArg Prod.snd answer).symm

end Search

end DarkCore.Guilds
