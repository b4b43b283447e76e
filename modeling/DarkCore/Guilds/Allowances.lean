/-
The daily allowances of a guild member (`Member::GetBankRemainingValue`,
`DecreaseBankRemainingValue`, `HandleMemberWithdrawMoney`, `_MoveItems`): one
counter for the money and one for the slots of each tab. Beside each counter
stands what was taken since it was renewed. What the searches for items and for
room answer in a move is a parameter.
-/

import DarkCore.Guilds.Roster
import DarkCore.Lib.Runs

namespace DarkCore.Guilds.Allowances

open Lib
open Roster (guildWithdrawMoneyUnlimited)

structure Rank where
  rankId : Nat
  bankMoneyPerDay : Nat
  tabSlotsPerDay : Nat → Nat
  tabRights : Nat → Nat

def Rank.perDay (rank : Rank) (tabId : Nat) : Nat :=
  if tabId = guildBankMaxTabs then rank.bankMoneyPerDay else rank.tabSlotsPerDay tabId

structure Counter where
  remaining : RemainingValue
  withdrawn : Nat

/-- The counters by `tabId`, that of the money under `GUILD_BANK_MAX_TABS` -/
abbrev Account := Nat → Counter

section Operations

variable (rank : Rank) (now : Nat)

/-- `now` is in minutes. -/
def renew (tabId : Nat) (counter : Counter) : Counter :=
  if counter.remaining.resetTime + 24 * 60 < now then ⟨⟨rank.perDay tabId, now⟩, 0⟩ else counter

def getBankRemainingValue (tabId : Nat) (account : Account) : Nat × Account :=
  if rank.rankId = grGuildMaster then
    (if tabId = guildBankMaxTabs then guildWithdrawMoneyUnlimited else guildWithdrawSlotUnlimited,
      account)
  else if tabId ≠ guildBankMaxTabs ∧
      rank.tabRights tabId &&& guildBankRightViewTab ≠ guildBankRightViewTab then (0, account)
  else
    let counter := renew rank now tabId (account tabId)
    (counter.remaining.value, Function.update account tabId counter)

/-- The stored value is a `uint32`. -/
def Counter.decrease (counter : Counter) (amount : Nat) : Counter :=
  { counter with
    remaining.value := (counter.remaining.value + 2 ^ 32 - amount % 2 ^ 32) % 2 ^ 32 }

def Counter.take (counter : Counter) (amount : Nat) : Counter :=
  { counter with withdrawn := counter.withdrawn + amount }

/-- `DecreaseBankRemainingValue` after a withdrawal, which an unlimited allowance is spared; the
two constants for it are the same number. -/
def withdraw (remaining tabId amount : Nat) (account : Account) : Account :=
  let counter := if remaining < guildWithdrawSlotUnlimited then (account tabId).decrease amount else account tabId
  Function.update account tabId (counter.take amount)

def handleMemberWithdrawMoney (purchasedTabs bankMoney : Nat) (hasRankRight : Bool) (amount : Nat)
    (account : Account) : Account :=
  if purchasedTabs = 0 then account
  else if bankMoney < amount then account
  else if hasRankRight = false then account
  else
    let (remainingMoney, account) := getBankRemainingValue rank now guildBankMaxTabs account
    if remainingMoney = 0 then account
    else if remainingMoney < amount then account
    else withdraw remainingMoney guildBankMaxTabs amount account

inductive Side where
  | bank (tabId : Nat)
  | inventory
  deriving DecidableEq

def hasWithdrawRights (side other : Side) (account : Account) : Bool × Account :=
  match side with
  | .inventory => (true, account)
  | .bank tabId =>
    if other = .bank tabId then (true, account)
    else
      let (slots, account) := getBankRemainingValue rank now tabId account
      (slots != 0, account)

/-- `RemoveItem` with `_DecreaseMemberRemainingSlots` -/
def removeItem (side other : Side) (account : Account) : Account :=
  match side with
  | .inventory => account
  | .bank tabId =>
    if other = .bank tabId then account
    else
      let (remainingSlots, account) := getBankRemainingValue rank now tabId account
      if remainingSlots = 0 then
        Function.update account tabId ((account tabId).take 1)
      else withdraw remainingSlots tabId 1 account

/-- What the steps of `_MoveItems` answer: both halves of `CanStore` as one -/
structure Answers where
  initSource : Bool
  checkItem : Bool
  hasStoreRights : Bool
  cloned : Bool
  canStore : Bool
  initDest : Bool
  hasStoreRightsBack : Bool
  canSwap : Bool

def doItemsMove (src dest : Side) (swap canStore : Bool) (account : Account) : Bool × Account :=
  if canStore then
    let account := removeItem rank now src dest account
    (true, if swap then removeItem rank now dest src account else account)
  else (false, account)

def moveItems (src dest : Side) (answers : Answers) (split : Bool) (account : Account) : Account :=
  if (answers.initSource && answers.checkItem && answers.hasStoreRights) = false then account
  else
    match hasWithdrawRights rank now src dest account with
    | (false, account) => account
    | (true, account) =>
      if split then
        if answers.cloned then (doItemsMove rank now src dest false answers.canStore account).2
        else account
      else
        match doItemsMove rank now src dest false answers.canStore account with
        | (true, account) => account
        | (false, account) =>
          if (answers.initDest && answers.hasStoreRightsBack) = false then account
          else
            match hasWithdrawRights rank now dest src account with
            | (false, account) => account
            | (true, account) => (doItemsMove rank now src dest true answers.canSwap account).2

end Operations

/-- What a member does at the bank; looking at it renews the counters too. -/
inductive Request where
  | look (tabId : Nat)
  | money (purchasedTabs bankMoney : Nat) (hasRankRight : Bool) (amount : Nat)
  | move (src dest : Side) (answers : Answers) (split : Bool)

def next (rank : Rank) (account : Account) (request : Nat × Request) : Account :=
  match request.2 with
  | .look tabId => (getBankRemainingValue rank request.1 tabId account).2
  | .money purchasedTabs bankMoney hasRankRight amount =>
    handleMemberWithdrawMoney rank request.1 purchasedTabs bankMoney hasRankRight amount account
  | .move src dest answers split => moveItems rank request.1 src dest answers split account

/-- What is left and what was taken are the allowance, unless that is unlimited. -/
def Kept (limit : Nat) (counter : Counter) : Prop :=
  if limit = guildWithdrawSlotUnlimited then counter.remaining.value = limit
  else counter.remaining.value + counter.withdrawn = limit

section Steps

variable {rank : Rank} {now tabId amount : Nat} {account : Account} {side other : Side}

theorem renew_kept {counter : Counter} (kept : Kept (rank.perDay tabId) counter) :
    Kept (rank.perDay tabId) (renew rank now tabId counter) := by
  unfold renew
  split
  · simp [Kept]
  · exact kept

theorem renew_renew {counter : Counter} :
    renew rank now tabId (renew rank now tabId counter) = renew rank now tabId counter := by
  unfold renew
  split <;> simp_all

theorem remaining_stored (notMaster : rank.rankId ≠ grGuildMaster)
    (left : (getBankRemainingValue rank now tabId account).1 ≠ 0) :
    (getBankRemainingValue rank now tabId account).1 =
      ((getBankRemainingValue rank now tabId account).2 tabId).remaining.value := by
  unfold getBankRemainingValue at *
  split_ifs at * <;> simp_all

theorem getBankRemainingValue_counter (looked : Nat) :
    (getBankRemainingValue rank now tabId account).2 looked = account looked ∨
      looked = tabId ∧ (getBankRemainingValue rank now tabId account).2 looked =
        renew rank now tabId (account tabId) := by
  unfold getBankRemainingValue
  split
  · exact Or.inl rfl
  · split
    · exact Or.inl rfl
    · grind

theorem remaining_again (looked : Nat) :
    (getBankRemainingValue rank now looked (getBankRemainingValue rank now tabId account).2).1 =
      (getBankRemainingValue rank now looked account).1 := by
  unfold getBankRemainingValue
  by_cases same : looked = tabId
  · subst same
    split_ifs <;> simp [*, renew_renew]
  · split_ifs <;> simp [*]

theorem decrease_withdrawn {counter : Counter} :
    (counter.decrease amount).withdrawn = counter.withdrawn := by
  cases counter
  rfl

theorem decrease_value {counter : Counter} (enough : amount ≤ counter.remaining.value)
    (small : counter.remaining.value < 2 ^ 32) :
    (counter.decrease amount).remaining.value = counter.remaining.value - amount := by
  unfold Counter.decrease
  dsimp only
  generalize counter.remaining.value = value at *
  omega

theorem withdraw_kept (counted : Nat) (kept : Kept (rank.perDay counted) (account counted))
    (small : rank.perDay counted ≤ guildWithdrawSlotUnlimited)
    (enough : amount ≤ (account tabId).remaining.value) :
    Kept (rank.perDay counted)
      (withdraw (account tabId).remaining.value tabId amount account counted) := by
  unfold withdraw
  by_cases same : counted = tabId
  · subst same
    rw [Function.update_self]
    unfold Kept at *
    by_cases unlimited : rank.perDay counted = guildWithdrawSlotUnlimited
    · rw [if_pos unlimited] at kept ⊢
      rw [kept, unlimited, if_neg (Nat.lt_irrefl _)]
      exact kept.trans unlimited
    · have bound : guildWithdrawSlotUnlimited < 2 ^ 32 := by decide
      rw [if_neg unlimited] at kept ⊢
      rw [if_pos (by omega)]
      have stored := decrease_value enough (by omega)
      simp only [Counter.take, decrease_withdrawn, stored]
      omega
  · simp_all

theorem getBankRemainingValue_kept (counted : Nat)
    (kept : Kept (rank.perDay counted) (account counted)) :
    Kept (rank.perDay counted) ((getBankRemainingValue rank now tabId account).2 counted) := by
  rcases @getBankRemainingValue_counter rank now tabId account counted with same | ⟨rfl, renewed⟩
  · rwa [same]
  · rw [renewed]
    exact renew_kept kept

theorem handleMemberWithdrawMoney_kept (counted : Nat) {purchasedTabs bankMoney : Nat}
    {hasRankRight : Bool} (notMaster : rank.rankId ≠ grGuildMaster)
    (small : rank.perDay counted ≤ guildWithdrawSlotUnlimited)
    (kept : Kept (rank.perDay counted) (account counted)) :
    Kept (rank.perDay counted)
      (handleMemberWithdrawMoney rank now purchasedTabs bankMoney hasRankRight amount account
        counted) := by
  have looked := @getBankRemainingValue_kept rank now guildBankMaxTabs account counted kept
  have stored := @remaining_stored rank now guildBankMaxTabs account notMaster
  unfold handleMemberWithdrawMoney
  split
  · exact kept
  · split
    · exact kept
    · split
      · exact kept
      · dsimp only
        split
        · exact looked
        · rename_i left
          split
          · exact looked
          · rename_i enough
            rw [stored left] at enough ⊢
            exact withdraw_kept counted looked small (Nat.not_lt.mp enough)

theorem hasWithdrawRights_kept (counted : Nat)
    (kept : Kept (rank.perDay counted) (account counted)) :
    Kept (rank.perDay counted) ((hasWithdrawRights rank now side other account).2 counted) := by
  unfold hasWithdrawRights
  split
  · exact kept
  · split
    · exact kept
    · exact getBankRemainingValue_kept counted kept

theorem hasWithdrawRights_again {side' other' : Side} :
    (hasWithdrawRights rank now side other (hasWithdrawRights rank now side' other' account).2).1 =
      (hasWithdrawRights rank now side other account).1 := by
  unfold hasWithdrawRights
  cases side with
  | inventory => rfl
  | bank tabId =>
    cases side' with
    | inventory => rfl
    | bank tabId' =>
      grind [remaining_again]

theorem removeItem_kept (counted : Nat) (notMaster : rank.rankId ≠ grGuildMaster)
    (small : rank.perDay counted ≤ guildWithdrawSlotUnlimited)
    (kept : Kept (rank.perDay counted) (account counted))
    (allowed : (hasWithdrawRights rank now side other account).1 = true) :
    Kept (rank.perDay counted) (removeItem rank now side other account counted) := by
  unfold removeItem
  cases side with
  | inventory => exact kept
  | bank tabId =>
    have looked := @getBankRemainingValue_kept rank now tabId account counted kept
    have stored := @remaining_stored rank now tabId account notMaster
    unfold hasWithdrawRights at allowed
    dsimp only at allowed ⊢
    split at allowed
    · simp_all
    · rename_i apart
      rw [bne_iff_ne] at allowed
      rw [if_neg apart, if_neg allowed]
      have one := Nat.one_le_iff_ne_zero.mpr allowed
      rw [stored allowed] at one ⊢
      exact withdraw_kept counted looked small one

theorem remaining_congr {later : Account} (same : later tabId = account tabId) :
    (getBankRemainingValue rank now tabId later).1 =
      (getBankRemainingValue rank now tabId account).1 := by
  unfold getBankRemainingValue
  split_ifs <;> simp [same]

theorem removeItem_elsewhere {looked : Nat} (elsewhere : side ≠ .bank looked) :
    removeItem rank now side other account looked = account looked := by
  cases side with
  | inventory => rfl
  | bank tabId =>
    have apart : looked ≠ tabId := fun same => elsewhere (by rw [same])
    have kept := (@getBankRemainingValue_counter rank now tabId account looked).resolve_right
      fun same => apart same.1
    unfold removeItem withdraw
    dsimp only
    split_ifs <;> simp [apart, kept]

theorem hasWithdrawRights_removed
    (back : (hasWithdrawRights rank now other side account).1 = true) :
    (hasWithdrawRights rank now other side (removeItem rank now side other account)).1 = true := by
  cases other with
  | inventory => rfl
  | bank tabId =>
    by_cases same : side = .bank tabId
    · simp [hasWithdrawRights, same]
    · have counter := @removeItem_elsewhere rank now account side (.bank tabId) tabId same
      simp only [hasWithdrawRights, if_neg same] at back ⊢
      rwa [remaining_congr counter]

theorem doItemsMove_kept (counted : Nat) {swap canStore : Bool}
    (notMaster : rank.rankId ≠ grGuildMaster)
    (small : rank.perDay counted ≤ guildWithdrawSlotUnlimited)
    (kept : Kept (rank.perDay counted) (account counted))
    (allowed : (hasWithdrawRights rank now side other account).1 = true)
    (back : swap = true → (hasWithdrawRights rank now other side account).1 = true) :
    Kept (rank.perDay counted)
      ((doItemsMove rank now side other swap canStore account).2 counted) := by
  unfold doItemsMove
  split
  · have removed := removeItem_kept counted notMaster small kept allowed
    split
    · rename_i swapping
      apply removeItem_kept counted notMaster small removed
      exact hasWithdrawRights_removed (back swapping)
    · exact removed
  · exact kept

theorem moveItems_kept (counted : Nat) {answers : Answers} {split : Bool}
    (notMaster : rank.rankId ≠ grGuildMaster)
    (small : rank.perDay counted ≤ guildWithdrawSlotUnlimited)
    (kept : Kept (rank.perDay counted) (account counted)) :
    Kept (rank.perDay counted) (moveItems rank now side other answers split account counted) := by
  have looked := @hasWithdrawRights_kept rank now account side other counted kept
  have again := @hasWithdrawRights_again rank now account side other side other
  unfold moveItems
  split
  · exact kept
  · cases rights : hasWithdrawRights rank now side other account with
    | mk allowed seen =>
      simp only [rights] at looked again
      cases allowed with
      | false => exact looked
      | true =>
        have moved := @doItemsMove_kept rank now seen side other counted false answers.canStore
          notMaster small looked again nofun
        dsimp only
        split
        · grind
        · cases canStore : answers.canStore with
          | true =>
            rw [canStore] at moved
            exact moved
          | false =>
            rw [show doItemsMove rank now side other false false seen = (false, seen) from rfl]
            dsimp only
            split
            · exact looked
            · have back := @hasWithdrawRights_kept rank now seen other side counted looked
              have rights' := @hasWithdrawRights_again rank now seen other side other side
              have stays := @hasWithdrawRights_again rank now seen side other other side
              cases rightsBack : hasWithdrawRights rank now other side seen with
              | mk allowedBack seenBack =>
                simp only [rightsBack] at back rights' stays
                cases allowedBack with
                | false => exact back
                | true =>
                  exact doItemsMove_kept counted notMaster small back
                    (stays.trans again) fun _ => rights'

theorem next_kept (counted : Nat) (request : Nat × Request)
    (notMaster : rank.rankId ≠ grGuildMaster)
    (small : rank.perDay counted ≤ guildWithdrawSlotUnlimited)
    (kept : Kept (rank.perDay counted) (account counted)) :
    Kept (rank.perDay counted) (next rank account request counted) := by
  obtain ⟨time, request⟩ := request
  cases request with
  | look tabId => exact getBankRemainingValue_kept counted kept
  | money purchasedTabs bankMoney hasRankRight amount =>
    exact handleMemberWithdrawMoney_kept counted notMaster small kept
  | move src dest answers split => exact moveItems_kept counted notMaster small kept

end Steps

/-- What an allowance that is not unlimited promises: never more than the limit is taken, and the
stored value is what is left of it. An unlimited one stays as it is. -/
structure WithinLimit (limit : Nat) (counter : Counter) : Prop where
  taken : limit ≠ guildWithdrawSlotUnlimited → counter.withdrawn ≤ limit
  stored : counter.remaining.value =
    if limit = guildWithdrawSlotUnlimited then limit else limit - counter.withdrawn

theorem Kept.withinLimit {limit : Nat} {counter : Counter} (kept : Kept limit counter) :
    WithinLimit limit counter := by
  unfold Kept at kept
  split at kept
  · rename_i unlimited
    exact ⟨fun limited => absurd unlimited limited, by rw [if_pos unlimited, kept]⟩
  · rename_i limited
    exact ⟨fun _ => by omega, by rw [if_neg limited]; omega⟩

/-- After a counter was renewed, all that a member takes until the next time, by gold, by repairs
and by moves, stays within the limit of his rank. -/
theorem withdrawals_withinLimit (rank : Rank) (account : Account) (tabId : Nat)
    (notMaster : rank.rankId ≠ grGuildMaster)
    (small : rank.perDay tabId ≤ guildWithdrawSlotUnlimited)
    (renewed : (account tabId).remaining.value = rank.perDay tabId ∧ (account tabId).withdrawn = 0)
    (requests : List (Nat × Request)) :
    Always (next rank) (fun account => WithinLimit (rank.perDay tabId) (account tabId)) account
      requests := by
  have start : Kept (rank.perDay tabId) (account tabId) := by simp [Kept, renewed.1, renewed.2]
  have always := @always_of_step _ _ (next rank)
    (fun account => Kept (rank.perDay tabId) (account tabId)) (fun _ _ => True)
    (fun _ request kept _ => next_kept tabId request notMaster small kept)
    account requests start (along_true account requests)
  exact always.imp fun _ => Kept.withinLimit

def veteran (bankMoneyPerDay : Nat) : Rank := ⟨2, bankMoneyPerDay, fun _ => 0, fun _ => 0⟩

def renewedAccount (rank : Rank) : Account := fun tabId => ⟨⟨rank.perDay tabId, 1000⟩, 0⟩

theorem withdrawals_withinLimit_twice :
    Always (next (veteran 100))
      (fun account => WithinLimit 100 (account guildBankMaxTabs)) (renewedAccount (veteran 100))
      [(1001, .money 1 500 true 60), (1002, .money 1 440 true 60)] :=
  withdrawals_withinLimit (veteran 100) (renewedAccount (veteran 100)) guildBankMaxTabs (by decide)
    (by decide) ⟨rfl, rfl⟩ _

/-- An unlimited allowance gives out more than the number that stands for it. -/
theorem not_withdrawn_le_perDay :
    ¬ ([(1001, .money 1 10000000000 true 3000000000),
        (1002, .money 1 7000000000 true 3000000000)].foldl (next (veteran 0xFFFFFFFF))
      (renewedAccount (veteran 0xFFFFFFFF)) guildBankMaxTabs).withdrawn ≤ 0xFFFFFFFF := by
  decide

end DarkCore.Guilds.Allowances
