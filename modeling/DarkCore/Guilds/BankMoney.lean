/-
Money of the guild bank (`Guild.cpp`, `GuildHandler.cpp`, `Player.cpp`): the
requests that pay it in and out, with the players' purses. The client sends 64
bits, the guild takes 32 of them, and a purse is changed by a signed difference.
-/

import DarkCore.Guilds.RosterChanges
import DarkCore.Lib.Runs

namespace DarkCore.Guilds.Roster

open Lib

/-! ### Purses -/

def maxMoneyAmount : Nat := 0x7FFFFFFF - 1

def uint32 (value : Int) : Nat := (value % 2 ^ 32).toNat

def int32 (value : Int) : Int :=
  if value % 2 ^ 32 < 2 ^ 31 then value % 2 ^ 32 else value % 2 ^ 32 - 2 ^ 32

/-- What `ModifyMoney` reads of a player. -/
structure Purse where
  money : Nat
  /-- `GetLootGUID()` is not zero. -/
  looting : Bool
  aura83940 : Bool
  aura83941 : Bool

/-- The settings of `SetGuildMoneyModifier`, the last of which counts. -/
def Purse.guildMoneyModifier (purse : Purse) : Nat :=
  if purse.aura83940 then
    if purse.aura83941 then 25 else 15
  else if purse.aura83941 then 1
  else 10

/-- `GuildMoney`; the product with the modifier in hundredths is truncated. -/
def Purse.guildMoney (purse : Purse) (d : Nat) : Nat := max 1 (d * purse.guildMoneyModifier / 100)

structure Treasury where
  realm : Realm
  purses : Nat → Purse

namespace Treasury

def setMoney (guid money : Nat) (treasury : Treasury) : Treasury :=
  { treasury with
    purses := Function.update treasury.purses guid { treasury.purses guid with money := money } }

/-- `Guild::SetGuildMoney` for the guild of a player -/
def setGuildMoney (player : Player) (add : Nat) (treasury : Treasury) : Treasury :=
  match treasury.realm.getPlayerGuild player with
  | none => treasury
  | some guild =>
    { treasury with
      realm := treasury.realm.setGuild
        { guild with bankMoney := (guild.bankMoney + add) % 2 ^ 64 } }

def modifyMoney (actor : Nat) (player : Player) (d : Int) (treasury : Treasury) : Treasury :=
  let purse := treasury.purses actor
  if d < 0 then
    treasury.setMoney actor (if (-d).toNat < purse.money then uint32 (purse.money + d) else 0)
  else if purse.money < uint32 (maxMoneyAmount - d) then
    let shared :=
      if purse.looting then treasury.setGuildMoney player (purse.guildMoney d.toNat) else treasury
    shared.setMoney actor (uint32 (purse.money + d))
  else treasury.setMoney actor maxMoneyAmount

/-! ### Requests -/

/-- `HandleMemberDepositMoney` with the player's side -/
def memberDepositMoney (actor : Nat) (player : Player) (guild : Guild) (amount : Nat)
    (treasury : Treasury) : Treasury :=
  if guild.purchasedTabs = 0 then treasury
  else
    { treasury with
      realm := handleMemberDepositMoney guild treasury.realm amount }.modifyMoney actor player
        (-int32 amount)

/-- The checks of `HandleMemberWithdrawMoney` -/
def withdraws (actor : Nat) (player : Player) (guild : Guild) (now amount : Nat) : Bool :=
  guild.purchasedTabs ≠ 0 && amount ≤ guild.bankMoney &&
    guild.hasRankRight player grRightWithdrawGold &&
    (guild.getMemberRemainingMoney now actor).1 ≠ 0 &&
    amount ≤ (guild.getMemberRemainingMoney now actor).1

/-- `HandleMemberWithdrawMoney` with the player's side -/
def memberWithdrawMoney (actor : Nat) (player : Player) (guild : Guild) (now amount : Nat)
    (treasury : Treasury) : Treasury :=
  let realm := handleMemberWithdrawMoney actor player guild treasury.realm now amount false
  if withdraws actor player guild now amount then
    { treasury with realm := realm }.modifyMoney actor player (int32 amount)
  else { treasury with realm := realm }

/-- `atBank` says that the player can interact with the guild bank he names; `money` has 64 bits,
`now` is the minute of the request. -/
inductive MoneyRequest where
  | deposit (actor : Nat) (atBank : Bool) (money : Nat)
  | withdraw (actor : Nat) (atBank : Bool) (now money : Nat)

def MoneyRequest.actor : MoneyRequest → Nat
  | .deposit actor _ _ => actor
  | .withdraw actor _ _ _ => actor

/-- `HandleGuildBankDepositMoney` and `HandleGuildBankWithdrawMoney` -/
def next (treasury : Treasury) (request : MoneyRequest) : Treasury :=
  match treasury.realm.getPlayer request.actor with
  | none => treasury
  | some player =>
    match treasury.realm.getPlayerGuild player with
    | none => treasury
    | some guild =>
      match request with
      | .deposit actor atBank money =>
        if atBank = true ∧ money ≠ 0 ∧ uint32 money ≤ (treasury.purses actor).money then
          treasury.memberDepositMoney actor player guild (uint32 money)
        else treasury
      | .withdraw actor atBank now money =>
        if money ≠ 0 ∧ atBank = true then
          treasury.memberWithdrawMoney actor player guild now (uint32 money)
        else treasury

/-! ### What a change of money does -/

/-- The money of a purse after `ModifyMoney` -/
def newMoney (purse : Purse) (d : Int) : Nat :=
  if d < 0 then if (-d).toNat < purse.money then uint32 (purse.money + d) else 0
  else if purse.money < uint32 (maxMoneyAmount - d) then uint32 (purse.money + d)
  else maxMoneyAmount

/-- `ModifyMoney` gives the guild its share. -/
def Shares (purse : Purse) (d : Int) : Prop :=
  0 ≤ d ∧ purse.money < uint32 (maxMoneyAmount - d) ∧ purse.looting = true

instance (purse : Purse) (d : Int) : Decidable (Shares purse d) :=
  inferInstanceAs (Decidable (_ ∧ _))

def newBankMoney (purse : Purse) (d : Int) (bankMoney : Nat) : Nat :=
  if Shares purse d then (bankMoney + purse.guildMoney d.toNat) % 2 ^ 64 else bankMoney

structure Changes (actor : Nat) (player : Player) (guild : Guild) (before after : Treasury)
    (money bankMoney : Nat) : Prop where
  players : after.realm.players = before.realm.players
  purse : after.purses actor = { before.purses actor with money := money }
  purses : ∀ other, other ≠ actor → after.purses other = before.purses other
  served : ∃ changed, after.realm.getPlayerGuild player = some changed ∧ changed.id = guild.id ∧
    changed.bankMoney = bankMoney
  guilds : ∀ id, id ≠ guild.id → after.realm.guilds id = before.realm.guilds id

variable {actor : Nat} {player : Player} {guild changed : Guild} {treasury before after : Treasury}
  {money bankMoney : Nat}

theorem getPlayerGuild_setGuild {realm : Realm} (stored : realm.getPlayerGuild player = some guild)
    (named : guild.id = player.guildId) (same : changed.id = guild.id) :
    (realm.setGuild changed).getPlayerGuild player = some changed := by
  unfold Realm.getPlayerGuild at stored ⊢
  split at stored
  · cases stored
  · rename_i inGuild
    rw [if_neg inGuild, ← named, ← same]
    exact Function.update_self _ _ _

theorem changes_setGuild (stored : treasury.realm.getPlayerGuild player = some guild)
    (named : guild.id = player.guildId) (changed : Guild) (same : changed.id = guild.id) :
    Changes actor player guild treasury { treasury with realm := treasury.realm.setGuild changed }
      (treasury.purses actor).money changed.bankMoney where
  players := rfl
  purse := rfl
  purses _ _ := rfl
  served := ⟨changed, getPlayerGuild_setGuild stored named same, same, rfl⟩
  guilds id other := Function.update_of_ne (by rw [same]; exact other) _ _

theorem Changes.setMoney (changes : Changes actor player guild before after money bankMoney)
    (set : Nat) : Changes actor player guild before (after.setMoney actor set) set bankMoney where
  players := changes.players
  purse := by
    simp [Treasury.setMoney, Function.update_self, changes.purse]
  purses other isOther := by
    unfold Treasury.setMoney
    dsimp only
    rw [Function.update_of_ne isOther]
    exact changes.purses other isOther
  served := changes.served
  guilds := changes.guilds

theorem changes_refl (stored : treasury.realm.getPlayerGuild player = some guild) :
    Changes actor player guild treasury treasury (treasury.purses actor).money guild.bankMoney where
  players := rfl
  purse := rfl
  purses _ _ := rfl
  served := ⟨guild, stored, rfl, rfl⟩
  guilds _ _ := rfl

theorem modifyMoney_changes (stored : treasury.realm.getPlayerGuild player = some guild)
    (named : guild.id = player.guildId) (d : Int) :
    Changes actor player guild treasury (treasury.modifyMoney actor player d)
      (newMoney (treasury.purses actor) d)
      (newBankMoney (treasury.purses actor) d guild.bankMoney) := by
  unfold modifyMoney newMoney newBankMoney
  by_cases negative : d < 0
  · have keeps : ¬ Shares (treasury.purses actor) d := fun shares => not_le.mpr negative shares.1
    rw [if_pos negative, if_pos negative, if_neg keeps]
    exact (changes_refl stored).setMoney _
  · rw [if_neg negative, if_neg negative]
    by_cases below : (treasury.purses actor).money < uint32 (maxMoneyAmount - d)
    · rw [if_pos below, if_pos below]
      by_cases looting : (treasury.purses actor).looting = true
      · have shares : Shares (treasury.purses actor) d := ⟨not_lt.mp negative, below, looting⟩
        have given : Changes actor player guild treasury
            (treasury.setGuildMoney player ((treasury.purses actor).guildMoney d.toNat))
            (treasury.purses actor).money
            ((guild.bankMoney + (treasury.purses actor).guildMoney d.toNat) % 2 ^ 64) := by
          unfold setGuildMoney
          rw [stored]
          exact changes_setGuild stored named { guild with
            bankMoney := (guild.bankMoney +
              (treasury.purses actor).guildMoney d.toNat) % 2 ^ 64 } rfl
        rw [if_pos looting, if_pos shares]
        exact given.setMoney _
      · have keeps : ¬ Shares (treasury.purses actor) d := fun shares => looting shares.2.2
        rw [if_neg looting, if_neg keeps]
        exact (changes_refl stored).setMoney _
    · have keeps : ¬ Shares (treasury.purses actor) d := fun shares => below shares.2.1
      rw [if_neg below, if_neg below, if_neg keeps]
      exact (changes_refl stored).setMoney _

theorem Changes.trans {middle : Treasury} {middleGuild : Guild} {middleBankMoney : Nat}
    (first : Changes actor player guild before middle (before.purses actor).money middleBankMoney)
    (same : middleGuild.id = guild.id)
    (second : Changes actor player middleGuild middle after money bankMoney) :
    Changes actor player guild before after money bankMoney where
  players := second.players.trans first.players
  purse := by
    rw [second.purse, first.purse]
  purses other isOther := (second.purses other isOther).trans (first.purses other isOther)
  served := by
    obtain ⟨changed, stored, sameId, sameMoney⟩ := second.served
    exact ⟨changed, stored, sameId.trans same, sameMoney⟩
  guilds id other :=
    (second.guilds id (by rw [same]; exact other)).trans (first.guilds id other)

theorem Changes.modifyMoney {middle : Treasury}
    (first : Changes actor player guild before middle (before.purses actor).money bankMoney)
    (named : guild.id = player.guildId) (d : Int) :
    Changes actor player guild before (middle.modifyMoney actor player d)
      (newMoney (before.purses actor) d) (newBankMoney (before.purses actor) d bankMoney) := by
  obtain ⟨changed, stored, sameId, sameMoney⟩ := first.served
  have takes : Changes actor player changed middle (middle.modifyMoney actor player d) _ _ :=
    modifyMoney_changes stored (sameId.trans named) d
  have samePurse : middle.purses actor = before.purses actor := first.purse
  rw [samePurse, sameMoney] at takes
  exact first.trans sameId takes

/-! ### Requests that move money -/

structure Deposits (treasury : Treasury) (actor : Nat) (atBank : Bool) (money : Nat)
    (player : Player) (guild : Guild) : Prop where
  online : treasury.realm.getPlayer actor = some player
  served : treasury.realm.getPlayerGuild player = some guild
  atBank : atBank = true
  asked : money ≠ 0
  enough : uint32 money ≤ (treasury.purses actor).money
  tabs : guild.purchasedTabs ≠ 0

structure Withdraws (treasury : Treasury) (actor : Nat) (atBank : Bool) (now money : Nat)
    (player : Player) (guild : Guild) : Prop where
  online : treasury.realm.getPlayer actor = some player
  served : treasury.realm.getPlayerGuild player = some guild
  asked : money ≠ 0
  atBank : atBank = true
  allowed : withdraws actor player guild now (uint32 money) = true

variable {amount money : Nat} {atBank : Bool} {purse : Purse}

theorem withdraws_iff {now : Nat} :
    withdraws actor player guild now amount = true ↔
      guild.purchasedTabs ≠ 0 ∧ amount ≤ guild.bankMoney ∧
        guild.hasRankRight player grRightWithdrawGold = true ∧
        (guild.getMemberRemainingMoney now actor).1 ≠ 0 ∧
        amount ≤ (guild.getMemberRemainingMoney now actor).1 := by
  unfold withdraws
  simp only [Bool.and_eq_true, decide_eq_true_eq, and_assoc]

theorem getMemberRemainingMoney_frame (guild : Guild) (now guid : Nat) :
    (guild.getMemberRemainingMoney now guid).2.id = guild.id ∧
      (guild.getMemberRemainingMoney now guid).2.bankMoney = guild.bankMoney := by
  unfold Guild.getMemberRemainingMoney
  split
  · exact ⟨rfl, rfl⟩
  · grind

theorem decreaseMoney_id (guild : Guild) (guid amount : Nat) :
    (guild.decreaseMoney guid amount).id = guild.id := by
  unfold Guild.decreaseMoney
  split <;> rfl

theorem handleMemberWithdrawMoney_changes (actor : Nat)
    (stored : treasury.realm.getPlayerGuild player = some guild)
    (named : guild.id = player.guildId) (now amount : Nat) :
    Changes actor player guild treasury
      { treasury with
        realm := handleMemberWithdrawMoney actor player guild treasury.realm now amount false }
      (treasury.purses actor).money
      (if withdraws actor player guild now amount then guild.bankMoney - amount
        else guild.bankMoney) := by
  obtain ⟨renewedId, renewedMoney⟩ := getMemberRemainingMoney_frame guild now actor
  unfold handleMemberWithdrawMoney
  dsimp only
  by_cases noTabs : guild.purchasedTabs = 0
  · rw [if_pos noTabs, if_neg fun allowed => (withdraws_iff.mp allowed).1 noTabs]
    exact changes_refl stored
  · rw [if_neg noTabs]
    by_cases short : guild.bankMoney < amount
    · rw [if_pos short, if_neg fun allowed => not_le.mpr short (withdraws_iff.mp allowed).2.1]
      exact changes_refl stored
    · rw [if_neg short]
      by_cases permitted : guild.hasRankRight player grRightWithdrawGold = true
      · rw [if_neg Bool.false_ne_true, if_pos permitted]
        by_cases spent : (guild.getMemberRemainingMoney now actor).1 = 0 ∨
            (guild.getMemberRemainingMoney now actor).1 < amount
        · have refused : ¬ withdraws actor player guild now amount = true := by
            intro allowed
            obtain ⟨_, _, _, some, enough⟩ := withdraws_iff.mp allowed
            omega
          rw [if_pos spent, if_neg refused, ← renewedMoney]
          exact changes_setGuild stored named _ renewedId
        · have allowed : withdraws actor player guild now amount = true :=
            withdraws_iff.mpr ⟨noTabs, not_lt.mp short, permitted,
              fun zero => spent (Or.inl zero), not_lt.mp fun less => spent (Or.inr less)⟩
          rw [if_neg spent, if_pos allowed]
          refine changes_setGuild stored named _ ?_
          split
          · exact (decreaseMoney_id _ _ _).trans renewedId
          · exact renewedId
      · rw [if_neg Bool.false_ne_true, if_neg permitted,
          if_neg fun allowed => permitted (withdraws_iff.mp allowed).2.2.1]
        exact changes_refl stored

theorem next_deposit
    (deposits : Deposits treasury actor atBank money player guild)
    (named : guild.id = player.guildId) :
    Changes actor player guild treasury (treasury.next (.deposit actor atBank money))
      (newMoney (treasury.purses actor) (-int32 (uint32 money)))
      (newBankMoney (treasury.purses actor) (-int32 (uint32 money))
        ((guild.bankMoney + uint32 money) % 2 ^ 64)) := by
  have paidIn : Changes actor player guild treasury
      { treasury with realm := handleMemberDepositMoney guild treasury.realm (uint32 money) }
      (treasury.purses actor).money ((guild.bankMoney + uint32 money) % 2 ^ 64) := by
    unfold handleMemberDepositMoney
    rw [if_neg deposits.tabs]
    exact changes_setGuild deposits.served named { guild with
      bankMoney := (guild.bankMoney + uint32 money) % 2 ^ 64 } rfl
  have accepted : treasury.next (.deposit actor atBank money) =
      treasury.memberDepositMoney actor player guild (uint32 money) := by
    unfold next MoneyRequest.actor
    rw [deposits.online]
    dsimp only
    rw [deposits.served]
    exact if_pos ⟨deposits.atBank, deposits.asked, deposits.enough⟩
  rw [accepted]
  unfold memberDepositMoney
  rw [if_neg deposits.tabs]
  exact paidIn.modifyMoney named _

theorem next_withdraw {now : Nat}
    (withdraws : Withdraws treasury actor atBank now money player guild)
    (named : guild.id = player.guildId) :
    Changes actor player guild treasury (treasury.next (.withdraw actor atBank now money))
      (newMoney (treasury.purses actor) (int32 (uint32 money)))
      (newBankMoney (treasury.purses actor) (int32 (uint32 money))
        (guild.bankMoney - uint32 money)) := by
  have paidOut := handleMemberWithdrawMoney_changes actor withdraws.served named now
    (uint32 money)
  rw [if_pos withdraws.allowed] at paidOut
  have accepted : treasury.next (.withdraw actor atBank now money) =
      treasury.memberWithdrawMoney actor player guild now (uint32 money) := by
    unfold next MoneyRequest.actor
    rw [withdraws.online]
    dsimp only
    rw [withdraws.served]
    exact if_pos ⟨withdraws.asked, withdraws.atBank⟩
  rw [accepted]
  unfold memberWithdrawMoney
  rw [if_pos withdraws.allowed]
  exact paidOut.modifyMoney named _

theorem next_deposit_refused
    (refused : ∀ player guild, ¬ Deposits treasury actor atBank money player guild) :
    treasury.next (.deposit actor atBank money) = treasury := by
  unfold next MoneyRequest.actor
  cases online : treasury.realm.getPlayer actor with
  | none => rfl
  | some player =>
    dsimp only
    cases served : treasury.realm.getPlayerGuild player with
    | none => rfl
    | some guild =>
      dsimp only
      split
      · rename_i checks
        unfold memberDepositMoney
        refine if_pos ?_
        by_contra tabs
        exact refused player guild ⟨online, served, checks.1, checks.2.1, checks.2.2, tabs⟩
      · rfl

theorem next_withdraw_refused {now : Nat}
    (refused : ∀ player guild, ¬ Withdraws treasury actor atBank now money player guild) :
    treasury.next (.withdraw actor atBank now money) = treasury ∨
      ∃ player guild, treasury.realm.getPlayer actor = some player ∧
        treasury.realm.getPlayerGuild player = some guild ∧
        (guild.id = player.guildId → Changes actor player guild treasury
          (treasury.next (.withdraw actor atBank now money)) (treasury.purses actor).money
          guild.bankMoney) := by
  unfold next MoneyRequest.actor
  cases online : treasury.realm.getPlayer actor with
  | none => exact Or.inl rfl
  | some player =>
    dsimp only
    cases served : treasury.realm.getPlayerGuild player with
    | none => exact Or.inl rfl
    | some guild =>
      dsimp only
      split
      · rename_i checks
        refine Or.inr ⟨player, guild, rfl, served, fun named => ?_⟩
        have turnedDown : ¬ withdraws actor player guild now (uint32 money) = true :=
          fun allowed =>
            refused player guild ⟨online, served, checks.1, checks.2, allowed⟩
        have stays := handleMemberWithdrawMoney_changes actor served named now
          (uint32 money)
        rw [if_neg turnedDown] at stays
        unfold memberWithdrawMoney
        rw [if_neg turnedDown]
        exact stays
      · exact Or.inl rfl

/-! ### Conservation -/

def bankMoneyOf (treasury : Treasury) (actor : Nat) : Nat :=
  match treasury.realm.getPlayer actor with
  | none => 0
  | some player =>
    match treasury.realm.getPlayerGuild player with
    | none => 0
    | some guild => guild.bankMoney

structure Conserves (treasury : Treasury) (request : MoneyRequest) : Prop where
  total : ((treasury.next request).purses request.actor).money +
      (treasury.next request).bankMoneyOf request.actor =
    (treasury.purses request.actor).money + treasury.bankMoneyOf request.actor
  purses : ∀ other, other ≠ request.actor →
    (treasury.next request).purses other = treasury.purses other
  guilds : ∀ id, (∀ player, treasury.realm.getPlayer request.actor = some player →
      id ≠ player.guildId) →
    (treasury.next request).realm.guilds id = treasury.realm.guilds id

structure Within (treasury : Treasury) : Prop where
  named : ∀ id guild, treasury.realm.guilds id = some guild → guild.id = id
  limited : ∀ guid, (treasury.purses guid).money ≤ maxMoneyAmount
  fits : ∀ id guild, treasury.realm.guilds id = some guild → guild.bankMoney < 2 ^ 64

/-! ### Exact amounts -/

theorem int32_of_small (small : amount < 2 ^ 31) : int32 amount = amount := by
  unfold int32
  split <;> omega

theorem int32_of_large (large : 2 ^ 31 ≤ amount) (fits : amount < 2 ^ 32) :
    int32 amount = amount - 2 ^ 32 := by
  unfold int32
  split <;> omega

theorem uint32_of_nonneg {value : Int} (nonneg : 0 ≤ value) (fits : value < 2 ^ 32) :
    uint32 value = value.toNat := by
  unfold uint32
  omega

theorem guildMoney_bounds (purse : Purse) (d : Nat) :
    1 ≤ purse.guildMoney d ∧ purse.guildMoney d ≤ max 1 d := by
  have share : d * purse.guildMoneyModifier / 100 ≤ d := by
    have most : purse.guildMoneyModifier ≤ 100 := by
      grind [Purse.guildMoneyModifier]
    exact Nat.div_le_of_le_mul (by rw [Nat.mul_comm]; exact Nat.mul_le_mul_right d most)
  unfold Purse.guildMoney
  omega

section

variable (limited : purse.money ≤ maxMoneyAmount) (enough : amount ≤ purse.money)
include limited enough

theorem newMoney_deposit : newMoney purse (-int32 amount) = purse.money - amount := by
  unfold maxMoneyAmount at limited
  unfold newMoney
  rw [int32_of_small (by omega)]
  by_cases nothing : amount = 0
  · rw [nothing, if_neg (by omega)]
    split
    · rw [uint32_of_nonneg (by omega) (by omega)]
      omega
    · rename_i notBelow
      rw [uint32_of_nonneg (by unfold maxMoneyAmount; omega) (by unfold maxMoneyAmount; omega)]
        at notBelow
      unfold maxMoneyAmount at notBelow ⊢
      omega
  · rw [if_pos (by omega)]
    split
    · rw [uint32_of_nonneg (by omega) (by omega)]
      omega
    · omega

theorem shares_deposit :
    Shares purse (-int32 amount) ↔
      amount = 0 ∧ purse.looting = true ∧ purse.money < maxMoneyAmount := by
  unfold maxMoneyAmount at limited
  unfold Shares
  rw [int32_of_small (by omega)]
  constructor
  · rintro ⟨nonneg, below, looting⟩
    have nothing : amount = 0 := by omega
    rw [nothing, uint32_of_nonneg (by unfold maxMoneyAmount; omega)
      (by unfold maxMoneyAmount; omega)] at below
    exact ⟨nothing, looting, by omega⟩
  · rintro ⟨nothing, looting, below⟩
    rw [nothing, uint32_of_nonneg (by unfold maxMoneyAmount; omega)
      (by unfold maxMoneyAmount; omega)]
    exact ⟨by omega, by omega, looting⟩

theorem deposit_exact {bankMoney : Nat} (fits : bankMoney < 2 ^ 64) :
    newMoney purse (-int32 amount) +
        newBankMoney purse (-int32 amount) ((bankMoney + amount) % 2 ^ 64) =
      purse.money + bankMoney ↔
    bankMoney + amount < 2 ^ 64 ∧
      ¬ (amount = 0 ∧ purse.looting = true ∧ purse.money < maxMoneyAmount) := by
  have small : purse.money < 2 ^ 31 := by
    grind [maxMoneyAmount]
  unfold newBankMoney
  rw [newMoney_deposit limited enough]
  by_cases shares : Shares purse (-int32 amount)
  · have shared := (shares_deposit limited enough).mp shares
    have noDifference : (-int32 (amount : Int)).toNat = 0 := by
      rw [shared.1]
      decide
    obtain ⟨atLeast, atMost⟩ := guildMoney_bounds purse 0
    rw [if_pos shares, noDifference, shared.1]
    constructor
    · omega
    · exact fun exact => absurd ⟨rfl, shared.2⟩ exact.2
  · rw [if_neg shares]
    have alone : ¬ (amount = 0 ∧ purse.looting = true ∧ purse.money < maxMoneyAmount) :=
      fun shared => shares ((shares_deposit limited enough).mpr shared)
    constructor
    · grind
    · omega

end

theorem withdraw_large (large : 2 ^ 31 ≤ amount)
    (amountFits : amount < 2 ^ 32) (limited : purse.money ≤ maxMoneyAmount) :
    newMoney purse (int32 amount) ≤ purse.money ∧ ¬ Shares purse (int32 amount) := by
  unfold maxMoneyAmount at limited
  unfold newMoney Shares
  rw [int32_of_large large amountFits, if_pos (by omega)]
  constructor
  · split
    · rw [uint32_of_nonneg (by omega) (by omega)]
      omega
    · exact Nat.zero_le _
  · omega

theorem withdraw_most (limited : purse.money ≤ maxMoneyAmount) :
    maxMoneyAmount < newMoney purse (int32 (0x7FFFFFFF : Nat)) := by
  unfold maxMoneyAmount at limited
  have bound : uint32 ((maxMoneyAmount : Int) - (0x7FFFFFFF : Nat)) = 2 ^ 32 - 1 := by decide
  unfold newMoney
  rw [int32_of_small (by omega), if_neg (by omega), bound, if_pos (by omega),
    uint32_of_nonneg (by omega) (by omega)]
  unfold maxMoneyAmount
  omega

theorem withdraw_small (purse : Purse) (small : amount ≤ maxMoneyAmount) :
    newMoney purse (int32 amount) =
        (if purse.money + amount < maxMoneyAmount then purse.money + amount else maxMoneyAmount) ∧
      (Shares purse (int32 amount) ↔
        purse.looting = true ∧ purse.money + amount < maxMoneyAmount) := by
  have bound : uint32 ((maxMoneyAmount : Int) - amount) = maxMoneyAmount - amount := by
    unfold maxMoneyAmount at small ⊢
    rw [uint32_of_nonneg (by omega) (by omega)]
    omega
  have fits : amount < 2 ^ 31 := by
    grind [maxMoneyAmount]
  unfold newMoney Shares
  rw [int32_of_small fits, if_neg (by omega), bound]
  constructor
  · by_cases below : purse.money + amount < maxMoneyAmount
    · have sumFits : purse.money + amount < 2 ^ 32 := by
        grind [maxMoneyAmount]
      rw [if_pos below, if_pos (by omega), uint32_of_nonneg (by omega) (by omega)]
      omega
    · rw [if_neg below, if_neg (by omega)]
  · grind

theorem withdraw_exact {bankMoney : Nat}
    (limited : purse.money ≤ maxMoneyAmount) (amountFits : amount < 2 ^ 32)
    (enough : amount ≤ bankMoney) (fits : bankMoney < 2 ^ 64) :
    (newMoney purse (int32 amount) + newBankMoney purse (int32 amount) (bankMoney - amount) =
        purse.money + bankMoney ∧ newMoney purse (int32 amount) ≤ maxMoneyAmount) ↔
      purse.money + amount ≤ maxMoneyAmount ∧
        ¬ (purse.looting = true ∧ purse.money + amount < maxMoneyAmount) := by
  have limit : maxMoneyAmount = 0x7FFFFFFF - 1 := rfl
  unfold newBankMoney
  by_cases large : 2 ^ 31 ≤ amount
  · obtain ⟨less, keeps⟩ := withdraw_large large amountFits limited
    rw [if_neg keeps]
    exact iff_of_false (by omega) (by omega)
  · by_cases small : amount ≤ maxMoneyAmount
    · obtain ⟨money, shares⟩ := withdraw_small purse small
      by_cases shared : purse.looting = true ∧ purse.money + amount < maxMoneyAmount
      · obtain ⟨atLeast, atMost⟩ := guildMoney_bounds purse amount
        rw [money, if_pos shared.2, if_pos (shares.mpr shared), int32_of_small (by omega),
          Int.toNat_natCast]
        exact iff_of_false (by omega) fun exact => exact.2 shared
      · rw [money, if_neg fun given => shared (shares.mp given)]
        constructor <;> grind
    · have most : amount = 0x7FFFFFFF := by omega
      have above := withdraw_most limited
      rw [most]
      exact iff_of_false (fun exact => absurd exact.2 (not_le.mpr above)) (by omega)

/-! ### Conditions -/

/-- A deposit that is carried out does not make the bank overflow, and one of nothing comes with
no share; a withdrawal that is carried out fits the purse and comes with no share. -/
def Meets (treasury : Treasury) : MoneyRequest → Prop
  | .deposit actor atBank money => ∀ player guild,
      Deposits treasury actor atBank money player guild →
        guild.bankMoney + uint32 money < 2 ^ 64 ∧
          ¬ (uint32 money = 0 ∧ (treasury.purses actor).looting = true ∧
            (treasury.purses actor).money < maxMoneyAmount)
  | .withdraw actor atBank now money => ∀ player guild,
      Withdraws treasury actor atBank now money player guild →
        (treasury.purses actor).money + uint32 money ≤ maxMoneyAmount ∧
          ¬ ((treasury.purses actor).looting = true ∧
            (treasury.purses actor).money + uint32 money < maxMoneyAmount)

variable {request : MoneyRequest}

theorem Within.player_guild (within : treasury.Within)
    (served : treasury.realm.getPlayerGuild player = some guild) :
    guild.id = player.guildId ∧ guild.bankMoney < 2 ^ 64 := by
  unfold Realm.getPlayerGuild at served
  split at served
  · cases served
  · exact ⟨within.named _ _ served, within.fits _ _ served⟩

theorem conserves_iff (request : MoneyRequest) (within : treasury.Within)
    (online : treasury.realm.getPlayer request.actor = some player)
    (served : treasury.realm.getPlayerGuild player = some guild)
    (changes : Changes request.actor player guild treasury (treasury.next request) money
      bankMoney) :
    Conserves treasury request ↔
      money + bankMoney = (treasury.purses request.actor).money + guild.bankMoney := by
  obtain ⟨changed, servedAfter, _, sameMoney⟩ := changes.served
  have onlineAfter : (treasury.next request).realm.getPlayer request.actor = some player := by
    grind [Realm.getPlayer, changes.players]
  have before : treasury.bankMoneyOf request.actor = guild.bankMoney := by
    simp [bankMoneyOf, online, served]
  have after : (treasury.next request).bankMoneyOf request.actor = bankMoney := by
    simp_all [bankMoneyOf]
  constructor
  · intro conserves
    have total := conserves.total
    rw [before, after, changes.purse] at total
    exact total
  · intro same
    constructor
    · rw [before, after, changes.purse]
      exact same
    · exact changes.purses
    · intro id other
      apply changes.guilds
      rw [(within.player_guild served).1]
      exact other player online

theorem within_iff (within : treasury.Within)
    (served : treasury.realm.getPlayerGuild player = some guild) (fits : bankMoney < 2 ^ 64)
    (changes : Changes actor player guild treasury after money bankMoney) :
    after.Within ↔ money ≤ maxMoneyAmount := by
  have named := (within.player_guild served).1
  constructor
  · intro afterWithin
    have limited := afterWithin.limited actor
    rw [changes.purse] at limited
    exact limited
  · intro limited
    obtain ⟨changed, servedAfter, sameId, sameMoney⟩ := changes.served
    have stored : after.realm.guilds guild.id = some changed := by
      simp_all [Realm.getPlayerGuild]
    constructor
    · intro id other listed
      by_cases same : id = guild.id
      · simp_all
      · rw [changes.guilds id same] at listed
        exact within.named id other listed
    · intro guid
      by_cases same : guid = actor
      · rw [same, changes.purse]
        exact limited
      · rw [changes.purses guid same]
        exact within.limited guid
    · intro id other listed
      by_cases same : id = guild.id
      · simp_all
      · rw [changes.guilds id same] at listed
        exact within.fits id other listed

theorem newBankMoney_lt (purse : Purse) (d : Int) (fits : bankMoney < 2 ^ 64) :
    newBankMoney purse d bankMoney < 2 ^ 64 := by
  unfold newBankMoney
  split
  · exact Nat.mod_lt _ (by decide)
  · exact fits

theorem conserves_of_same (same : treasury.next request = treasury) :
    Conserves treasury request := by
  constructor
  · rw [same]
  · exact fun _ _ => by rw [same]
  · exact fun _ _ => by rw [same]

theorem uint32_lt (value : Int) : uint32 value < 2 ^ 32 := by
  unfold uint32
  omega

theorem conserves_iff_meets (within : treasury.Within) (request : MoneyRequest) :
    (Conserves treasury request ∧ (treasury.next request).Within) ↔ treasury.Meets request := by
  cases request with
  | deposit actor atBank money =>
    by_cases accepted : ∃ player guild, Deposits treasury actor atBank money player guild
    · obtain ⟨player, guild, deposits⟩ := accepted
      obtain ⟨named, fits⟩ := within.player_guild deposits.served
      have changes := next_deposit deposits named
      have paidIn : (guild.bankMoney + uint32 money) % 2 ^ 64 < 2 ^ 64 :=
        Nat.mod_lt _ (by decide)
      have limited := within.limited actor
      have spent := newMoney_deposit limited deposits.enough
      rw [conserves_iff (.deposit actor atBank money) within deposits.online deposits.served changes,
        within_iff within deposits.served (newBankMoney_lt _ _ paidIn) changes]
      have exactly := deposit_exact limited deposits.enough fits
      constructor
      · rintro ⟨same, _⟩ other otherGuild otherDeposits
        cases otherDeposits.online.symm.trans deposits.online
        cases otherDeposits.served.symm.trans deposits.served
        exact exactly.mp same
      · intro meets
        exact ⟨exactly.mpr (meets player guild deposits), by rw [spent]; omega⟩
    · push Not at accepted
      have same := next_deposit_refused accepted
      refine iff_of_true ⟨conserves_of_same same, by rw [same]; exact within⟩ ?_
      exact fun player guild deposits => absurd deposits (accepted player guild)
  | withdraw actor atBank now money =>
    by_cases accepted : ∃ player guild, Withdraws treasury actor atBank now money player guild
    · obtain ⟨player, guild, withdraws⟩ := accepted
      obtain ⟨named, fits⟩ := within.player_guild withdraws.served
      have changes := next_withdraw withdraws named
      have enough := (withdraws_iff.mp withdraws.allowed).2.1
      have paidOut : guild.bankMoney - uint32 money < 2 ^ 64 := by omega
      rw [conserves_iff (.withdraw actor atBank now money) within withdraws.online withdraws.served changes,
        within_iff within withdraws.served (newBankMoney_lt _ _ paidOut) changes]
      refine Iff.trans (withdraw_exact (within.limited actor) (uint32_lt money) enough fits) ?_
      constructor
      · intro meets other otherGuild otherWithdraws
        exact meets
      · intro meets
        exact meets player guild withdraws
    · push Not at accepted
      refine iff_of_true ?_ fun player guild withdraws =>
        absurd withdraws (accepted player guild)
      rcases next_withdraw_refused accepted with same | ⟨player, guild, online, served, stays⟩
      · exact ⟨conserves_of_same same, by rw [same]; exact within⟩
      · obtain ⟨named, fits⟩ := within.player_guild served
        have changes := stays named
        exact ⟨(conserves_iff (.withdraw actor atBank now money) within online served changes).mpr rfl,
          (within_iff within served fits changes).mpr (within.limited actor)⟩

/-- Along every sequence of requests that meet the condition each of them conserves the money. -/
theorem bank_money_conserved (within : treasury.Within) :
    (∀ request, (Conserves treasury request ∧ (treasury.next request).Within) ↔
        treasury.Meets request) ∧
      ∀ requests, Along next Meets treasury requests →
        Along next Conserves treasury requests := by
  refine ⟨conserves_iff_meets within, fun requests meets => ?_⟩
  have kept (state : Treasury) (request : MoneyRequest) (holds : state.Within)
      (meetsRequest : state.Meets request) : (state.next request).Within :=
    ((conserves_iff_meets holds request).mpr meetsRequest).2
  have result (state : Treasury) (request : MoneyRequest) (holds : state.Within)
      (meetsRequest : state.Meets request) : Conserves state request :=
    ((conserves_iff_meets holds request).mpr meetsRequest).1
  exact along_of_step kept result within meets

def soleGuild (bankMoney : Nat) : Guild where
  id := 1
  name := ""
  leaderGuid := 1
  motd := ""
  info := ""
  ranks := []
  members := OrdMap.empty.assign 1 { rankId := grGuildMaster, name := "" }
  bankMoney := bankMoney
  purchasedTabs := 1
  bankItems := fun _ => none

def soleTreasury (money bankMoney : Nat) (looting : Bool) : Treasury where
  realm :=
    { guilds := fun id => if id = 1 then some (soleGuild bankMoney) else none
      players := fun guid =>
        if guid = 1 then
          some { name := "", guildId := 1, rank := 0, guildIdInvited := 0, inWorld := true }
        else none
      guildMember := fun _ => none
      characters := fun _ => none
      nextGuildId := 2
      nextItemGuid := 1
      darkCoreString := fun _ => "" }
  purses := fun _ => ⟨money, looting, false, false⟩

theorem soleTreasury_within {bankMoney : Nat} {looting : Bool}
    (limited : money ≤ maxMoneyAmount) (fits : bankMoney < 2 ^ 64) :
    (soleTreasury money bankMoney looting).Within := by
  constructor
  · intro id guild stored
    unfold soleTreasury at stored
    dsimp only at stored
    split at stored
    · rename_i isOne
      cases stored
      exact isOne.symm
    · cases stored
  · exact fun _ => limited
  · intro id guild stored
    unfold soleTreasury at stored
    dsimp only at stored
    split at stored
    · cases stored
      exact fits
    · cases stored

theorem deposit_and_withdrawal_conserved :
    Along next Conserves (soleTreasury 500 100 false)
      [.deposit 1 true 300, .withdraw 1 true 0 400] := by
  refine (bank_money_conserved (soleTreasury_within (by decide) (by decide))).2 _ ?_
  refine ⟨?_, ?_, trivial⟩
  · intro player guild deposits
    cases deposits.online
    cases deposits.served
    decide
  · intro player guild withdraws
    cases withdraws.online
    cases withdraws.served
    decide

/-- Gold beyond the limit of the purse is lost, a withdrawal of 3000000000 takes from both sides,
and one that is made with a loot window open gives the guild a share of its own money. -/
theorem withdrawals_not_conserved :
    ¬ Conserves (soleTreasury maxMoneyAmount 1000 false) (.withdraw 1 true 0 100) ∧
      ¬ Conserves (soleTreasury 2000000000 3000000000 false) (.withdraw 1 true 0 3000000000) ∧
      ¬ Conserves (soleTreasury 0 1000 true) (.withdraw 1 true 0 100) := by
  refine ⟨fun conserves => ?_, fun conserves => ?_, fun conserves => ?_⟩
  · exact absurd conserves.total (by decide)
  · exact absurd conserves.total (by decide)
  · exact absurd conserves.total (by decide)

end Treasury

end DarkCore.Guilds.Roster
