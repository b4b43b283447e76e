/-
Guilds with their rank tables and members (`Guild.cpp`, `Guild.h`,
`GuildHandler.cpp`, and the turning in of a guild charter).

Membership is kept three times: in a guild's member map, in the fields of a
player who is connected, and in the rows of `guild_member`, which are read at
login. `ObjectMgr::GetPlayer` finds a player only while he is in the world.
Members are keyed by low guid, which for a player is his guid. Packets, logs,
scripts, statistics, emblems, tab names and experience are left out, and a
database write takes effect at once.
-/

import DarkCore.Guilds.BankMove
import DarkCore.Lib.OrdMap

namespace DarkCore.Guilds.Roster

open Lib Items

/-! ### Constants -/

def guildRanksMinCount : Nat := 3
def guildRanksMaxCount : Nat := 10
def guildRankNone : Nat := 0xFF
def guildWithdrawMoneyUnlimited : Nat := 0xFFFFFFFF
def guildBankRightFull : Nat := 0xFF

def grOfficer : Nat := 1

def grRightEmpty : Nat := 0x00000040
def grRightGchatlisten : Nat := grRightEmpty ||| 0x00000001
def grRightGchatspeak : Nat := grRightEmpty ||| 0x00000002
def grRightInvite : Nat := grRightEmpty ||| 0x00000010
def grRightRemove : Nat := grRightEmpty ||| 0x00000020
def grRightPromote : Nat := grRightEmpty ||| 0x00000080
def grRightDemote : Nat := grRightEmpty ||| 0x00000100
def grRightSetmotd : Nat := grRightEmpty ||| 0x00001000
def grRightEpnote : Nat := grRightEmpty ||| 0x00002000
def grRightEoffnote : Nat := grRightEmpty ||| 0x00008000
def grRightModifyGuildInfo : Nat := grRightEmpty ||| 0x00010000
def grRightWithdrawRepair : Nat := 0x00040000
def grRightWithdrawGold : Nat := 0x00080000
def grRightAll : Nat := 0x001FFFBF

/-- `IsGuidHaveEnPart`: items, players, dynamic objects, corpses and groups have none. -/
def isGuidHaveEnPart (guid : Nat) : Bool :=
  !decide (guid / 2 ^ 48 % 2 ^ 16 ∈ [0x4000, 0x0000, 0xF100, 0xF101, 0x1F50])

def guidLopart (guid : Nat) : Nat :=
  if isGuidHaveEnPart guid then guid % 2 ^ 24 else guid % 2 ^ 32

/-! ### Ranks and members -/

structure BankRightsAndSlots where
  rights : Nat
  slots : Nat
deriving DecidableEq

def guildMasterValues : BankRightsAndSlots := ⟨guildBankRightFull, guildWithdrawSlotUnlimited⟩

structure RankInfo where
  rankId : Nat
  name : String
  rights : Nat
  bankMoneyPerDay : Nat
  bankTabRightsAndSlots : Nat → BankRightsAndSlots

def RankInfo.setName (rank : RankInfo) (name : String) : RankInfo := { rank with name := name }

def RankInfo.setRights (rank : RankInfo) (rights : Nat) : RankInfo :=
  { rank with rights := if rank.rankId = grGuildMaster then grRightAll else rights }

def RankInfo.setBankMoneyPerDay (rank : RankInfo) (money : Nat) : RankInfo :=
  { rank with
    bankMoneyPerDay :=
      if rank.rankId = grGuildMaster then guildWithdrawMoneyUnlimited else money }

def RankInfo.setBankTabSlotsAndRights (rank : RankInfo) (tabId : Nat)
    (rightsAndSlots : BankRightsAndSlots) : RankInfo :=
  { rank with
    bankTabRightsAndSlots := Function.update rank.bankTabRightsAndSlots tabId
      (if rank.rankId = grGuildMaster then guildMasterValues else rightsAndSlots) }

def RankInfo.getBankMoneyPerDay (rank : RankInfo) : Nat :=
  if rank.rankId = grGuildMaster then guildWithdrawMoneyUnlimited else rank.bankMoneyPerDay

structure Member where
  rankId : Nat
  name : String
  publicNote : String := ""
  officerNote : String := ""
  /-- The tabs, and the money under `GUILD_BANK_MAX_TABS`. -/
  bankRemaining : Nat → RemainingValue := fun _ => ⟨0, 0⟩

def Member.resetMoneyTime (member : Member) : Member :=
  { member with
    bankRemaining := Function.update member.bankRemaining guildBankMaxTabs
      { member.bankRemaining guildBankMaxTabs with resetTime := 0 } }

def Member.resetTabTimes (member : Member) : Member :=
  { member with
    bankRemaining := fun tabId =>
      if tabId < guildBankMaxTabs then { member.bankRemaining tabId with resetTime := 0 }
      else member.bankRemaining tabId }

/-- The walk over an `unordered_map` visits the members in an order of its own. -/
structure Walk where
  order : List (Nat × Member) → List (Nat × Member)
  perm : ∀ entries, (order entries).Perm entries

structure Guild where
  id : Nat
  name : String
  leaderGuid : Nat
  motd : String
  info : String
  ranks : List RankInfo
  members : OrdMap Nat Member
  bankMoney : Nat
  purchasedTabs : Nat
  bankItems : Nat × Nat → Option Item

structure Player where
  name : String
  guildId : Nat
  rank : Nat
  guildIdInvited : Nat
  inWorld : Bool
deriving DecidableEq

/-- A row of `guild_member`. -/
structure Row where
  guildId : Nat
  rank : Nat
deriving DecidableEq

structure Realm where
  guilds : Nat → Option Guild
  players : Nat → Option Player
  guildMember : Nat → Option Row
  /-- The names in `characters`, of characters whose level and class are sound. -/
  characters : Nat → Option String
  nextGuildId : Nat
  nextItemGuid : Nat
  darkCoreString : Nat → String

/-! ### Lookups -/

def Guild.lowestRankId (guild : Guild) : Nat := (guild.ranks.length + 255) % 256

def Guild.getRankRights (guild : Guild) (rankId : Nat) : Nat :=
  match guild.ranks[rankId]? with
  | some rank => rank.rights
  | none => 0

def Guild.getRankBankMoneyPerDay (guild : Guild) (rankId : Nat) : Nat :=
  match guild.ranks[rankId]? with
  | some rank => rank.getBankMoneyPerDay
  | none => 0

def Guild.hasRankRight (guild : Guild) (player : Player) (right : Nat) : Bool :=
  (guild.getRankRights player.rank &&& right) != grRightEmpty

/-- `GetMember` by guid -/
def Guild.getMember (guild : Guild) (guid : Nat) : Option Member :=
  guild.members.find (guidLopart guid)

/-- `GetMember` by name -/
def Guild.getMemberNamed (walk : Walk) (guild : Guild) (name : String) : Option (Nat × Member) :=
  (walk.order guild.members.entries).find? fun entry => entry.2.name == name

/-- `_IsLeader`, for a player who is connected -/
def Guild.isLeader (guild : Guild) (actor : Nat) : Bool :=
  actor == guild.leaderGuid ||
    match guild.getMember actor with
    | some member => member.rankId == grGuildMaster
    | none => false

def Realm.getPlayer (realm : Realm) (guid : Nat) : Option Player :=
  (realm.players guid).filter Player.inWorld

def Realm.getGuildIdFromDB (realm : Realm) (guid : Nat) : Nat :=
  match realm.guildMember (guidLopart guid) with
  | some row => row.guildId
  | none => 0

def Realm.guildIdOf (realm : Realm) (guid : Nat) : Nat :=
  match realm.getPlayer guid with
  | some player => player.guildId
  | none => realm.getGuildIdFromDB guid

def upper (name : String) : List Char := name.toList.map Char.toUpper

/-- `GuildMgr::GetGuildByName` finds a guild. -/
def Realm.hasGuildNamed (realm : Realm) (name : String) : Bool :=
  (List.range realm.nextGuildId).any fun id =>
    match realm.guilds id with
    | some guild => upper guild.name == upper name
    | none => false

/-! ### Writes -/

def Realm.setGuild (realm : Realm) (guild : Guild) : Realm :=
  { realm with guilds := Function.update realm.guilds guild.id (some guild) }

/-- A change of a player whom `GetPlayer` finds. -/
def Realm.onPlayer (realm : Realm) (guid : Nat) (change : Player → Player) : Realm :=
  match realm.getPlayer guid with
  | some player =>
    { realm with players := Function.update realm.players guid (some (change player)) }
  | none => realm

def Realm.insertRow (realm : Realm) (guid : Nat) (row : Row) : Realm :=
  { realm with
    guildMember := Function.update realm.guildMember guid
      (some ((realm.guildMember guid).getD row)) }

def Realm.deleteRow (realm : Realm) (guid : Nat) : Realm :=
  { realm with guildMember := Function.update realm.guildMember guid none }

def Realm.updateRowRank (realm : Realm) (guid rank : Nat) : Realm :=
  { realm with
    guildMember := Function.update realm.guildMember guid
      ((realm.guildMember guid).map fun row => { row with rank := rank }) }

/-! ### Members joining and leaving -/

def changeRank (guid : Nat) (member : Member) (newRank : Nat) (guild : Guild) (realm : Realm) :
    Guild × Realm :=
  ({ guild with members := guild.members.assign guid { member with rankId := newRank } },
    (realm.onPlayer guid fun player => { player with rank := newRank }).updateRowRank guid newRank)

/-- `Guild::AddMember`; `none` is the answer false. -/
def addMember (guid rankId : Nat) (guild : Guild) (realm : Realm) : Option (Guild × Realm) :=
  let lowguid := guidLopart guid
  let rank := if rankId = guildRankNone then guild.lowestRankId else rankId
  match realm.getPlayer guid with
  | some player =>
    if player.guildId ≠ 0 then none
    else
      some ({ guild with
              members := guild.members.assign lowguid { rankId := rank, name := player.name } },
        (realm.insertRow lowguid ⟨guild.id, rank⟩).onPlayer guid fun player =>
          { player with guildId := guild.id, rank := rank, guildIdInvited := 0 })
  | none =>
    if realm.getGuildIdFromDB guid ≠ 0 then none
    else
      match realm.characters lowguid with
      | none => none
      | some name =>
        some ({ guild with
                members := guild.members.assign lowguid { rankId := rank, name := name } },
          realm.insertRow lowguid ⟨guild.id, rank⟩)

/-- What `DeleteMember` does to the player and the database. -/
def Realm.forget (realm : Realm) (guid : Nat) : Realm :=
  (realm.onPlayer guid fun player => { player with guildId := 0, rank := 0 }).deleteRow
    (guidLopart guid)

def disband (guild : Guild) (realm : Realm) : Realm :=
  let left := (guild.members.entries.map Prod.fst).foldl Realm.forget realm
  { left with guilds := Function.update left.guilds guild.id none }

def findNewLeader (lowguid : Nat) : List (Nat × Member) → Option (Nat × Member) →
    Option (Nat × Member)
  | [], newLeader => newLeader
  | entry :: rest, newLeader =>
    if entry.1 = lowguid then findNewLeader lowguid rest newLeader
    else
      match newLeader with
      | none => findNewLeader lowguid rest (some entry)
      | some best =>
        if entry.2.rankId < best.2.rankId then findNewLeader lowguid rest (some entry)
        else findNewLeader lowguid rest newLeader

def setLeaderGUID (guid : Nat) (member : Member) (guild : Guild) (realm : Realm) :
    Guild × Realm :=
  changeRank guid member grGuildMaster { guild with leaderGuid := guid } realm

/-- `Guild::DeleteMember` outside of a disband; the guild is gone if it was disbanded. -/
def deleteMember (walk : Walk) (guid : Nat) (guild : Guild) (realm : Realm) : Realm :=
  let erase : Guild × Realm → Realm := fun result =>
    (result.2.forget guid).setGuild
      { result.1 with members := result.1.members.erase (guidLopart guid) }
  if guild.leaderGuid = guid then
    match findNewLeader (guidLopart guid) (walk.order guild.members.entries) none with
    | none => disband guild realm
    | some newLeader => erase (setLeaderGUID newLeader.1 newLeader.2 guild realm)
  else erase (guild, realm)

/-! ### Creation -/

def createRank (name : String) (rights : Nat) (ranks : List RankInfo) : List RankInfo :=
  if guildRanksMaxCount ≤ ranks.length then ranks
  else
    ranks ++ [{ rankId := ranks.length, name := name, rights := rights, bankMoneyPerDay := 0,
                bankTabRightsAndSlots := fun _ => ⟨0, 0⟩ }]

/-- `_CreateDefaultGuildRanks`, with the names `LANG_GUILD_MASTER` to `LANG_GUILD_INITIATE` -/
def createDefaultGuildRanks (darkCoreString : Nat → String) : List RankInfo :=
  let chat := grRightGchatlisten ||| grRightGchatspeak
  createRank (darkCoreString 815) chat <| createRank (darkCoreString 814) chat <|
    createRank (darkCoreString 813) chat <| createRank (darkCoreString 812) grRightAll <|
      createRank (darkCoreString 811) grRightAll []

def addSigners (guildId : Nat) : List Nat → Realm → Realm
  | [], realm => realm
  | guid :: rest, realm =>
    match realm.guilds guildId with
    | none => realm
    | some guild =>
      match addMember guid guildRankNone guild realm with
      | none => addSigners guildId rest realm
      | some (guild, realm) => addSigners guildId rest (realm.setGuild guild)

/-- `Guild::Create` with the registration by its callers `HandleGuildCreateOpcode` (no signers)
and `HandleTurnInPetitionOpcode`. -/
def create (actor : Nat) (name : String) (signers : List Nat) (realm : Realm) : Realm :=
  if realm.hasGuildNamed name then realm
  else
    let guild : Guild := {
      id := realm.nextGuildId, name := name, leaderGuid := actor, motd := "No message set.",
      info := "", ranks := createDefaultGuildRanks realm.darkCoreString, members := .empty,
      bankMoney := 0, purchasedTabs := 0, bankItems := fun _ => none }
    let numbered := { realm with nextGuildId := realm.nextGuildId + 1 }
    match addMember actor grGuildMaster guild numbered with
    | none => numbered
    | some (guild, joined) => addSigners guild.id signers (joined.setGuild guild)

/-! ### Rank table -/

/-- The guards of `SwitchRank` in the opcode handler and in `Guild`. -/
def switches (oldID newID : Nat) : Bool :=
  oldID != grGuildMaster && newID != grGuildMaster && oldID != newID &&
    decide (oldID ≤ guildRanksMinCount) && decide (newID ≤ guildRanksMinCount)

/-- The swap in `SwitchRank`; the source has no defined result outside of the table. -/
def switchRank (oldID newID : Nat) (ranks : List RankInfo) : List RankInfo :=
  match ranks[oldID]?, ranks[newID]? with
  | some old, some new => (ranks.set oldID new).set newID old
  | _, _ => ranks

def Guild.onRank (guild : Guild) (rankId : Nat) (change : RankInfo → RankInfo) : Guild :=
  { guild with ranks := guild.ranks.modify rankId change }

def Guild.onMembersOf (guild : Guild) (rankId : Nat) (change : Member → Member) : Guild :=
  { guild with
    members := guild.members.mapValues fun member =>
      if member.rankId = rankId then change member else member }

def Guild.setRankBankMoneyPerDay (guild : Guild) (rankId moneyPerDay : Nat) : Guild :=
  if rankId < guild.ranks.length then
    (guild.onMembersOf rankId Member.resetMoneyTime).onRank rankId fun rank =>
      rank.setBankMoneyPerDay moneyPerDay
  else guild

def Guild.setRankBankTabRightsAndSlots (guild : Guild) (rankId tabId : Nat)
    (rightsAndSlots : BankRightsAndSlots) : Guild :=
  if guild.purchasedTabs ≤ tabId then guild
  else if rankId < guild.ranks.length then
    (guild.onMembersOf rankId Member.resetTabTimes).onRank rankId fun rank =>
      rank.setBankTabSlotsAndRights tabId rightsAndSlots
  else guild

/-- The edit of `HandleSetRankInfo`, of a rank of the table. -/
def Guild.setRankInfo (guild : Guild) (rankId : Nat) (name : String) (rights moneyPerDay : Nat)
    (rightsAndSlots : Nat → BankRightsAndSlots) : Guild :=
  if rankId < guild.ranks.length then
    (List.range guildBankMaxTabs).foldl
      (fun guild tabId => guild.setRankBankTabRightsAndSlots rankId tabId (rightsAndSlots tabId))
      ((guild.onRank rankId fun rank => (rank.setName name).setRights rights).setRankBankMoneyPerDay
        rankId moneyPerDay)
  else guild

def getGuildBankTabPrice : Nat → Nat
  | 0 => 100
  | 1 => 250
  | 2 => 500
  | 3 => 1000
  | 4 => 2500
  | 5 => 5000
  | _ => 0

/-! ### The money allowance -/

/-- `GetBankRemainingValue` for money, which renews an allowance older than a day; `now` is in
minutes. -/
def Guild.getMemberRemainingMoney (guild : Guild) (now guid : Nat) : Nat × Guild :=
  match guild.getMember guid with
  | none => (0, guild)
  | some member =>
    if member.rankId = grGuildMaster then (guildWithdrawMoneyUnlimited, guild)
    else if (member.bankRemaining guildBankMaxTabs).resetTime + 24 * 60 < now then
      let value := guild.getRankBankMoneyPerDay member.rankId
      (value, { guild with
        members := guild.members.assign (guidLopart guid)
          { member with
            bankRemaining :=
              Function.update member.bankRemaining guildBankMaxTabs ⟨value, now⟩ } })
    else ((member.bankRemaining guildBankMaxTabs).value, guild)

def Guild.decreaseMoney (guild : Guild) (guid amount : Nat) : Guild :=
  match guild.getMember guid with
  | none => guild
  | some member =>
    let remaining := member.bankRemaining guildBankMaxTabs
    { guild with
      members := guild.members.assign (guidLopart guid)
        { member with
          bankRemaining := Function.update member.bankRemaining guildBankMaxTabs
            { remaining with value := remaining.value - amount } } }

/-! ### Bank items -/

def Guild.bank (guild : Guild) (nextItemGuid : Nat) : Guilds.Guild where
  purchasedTabs := guild.purchasedTabs
  bankTabs := guild.bankItems
  leaderGuid := guild.leaderGuid
  members := fun guid =>
    (guild.members.find guid).map fun member => ⟨member.rankId, member.bankRemaining⟩
  ranks := fun rankId =>
    guild.ranks[rankId]?.map fun rank =>
      ⟨fun tabId => (rank.bankTabRightsAndSlots tabId).rights,
        fun tabId => (rank.bankTabRightsAndSlots tabId).slots⟩
  nextGuid := nextItemGuid
  errors := []

def Guild.afterMove (guild : Guild) (actor : Nat) (bankItems : Nat × Nat → Option Item)
    (bankRemaining : Nat → RemainingValue) : Guild :=
  { guild with
    bankItems := bankItems
    members :=
      match guild.members.find actor with
      | some member => guild.members.assign actor { member with bankRemaining := bankRemaining }
      | none => guild.members }

/-! ### Handlers of a guild -/

section Handlers

variable (actor : Nat) (player : Player) (guild : Guild) (realm : Realm)

def handleSetMOTD (motd : String) : Realm :=
  if guild.motd = motd then realm
  else if guild.hasRankRight player grRightSetmotd then realm.setGuild { guild with motd := motd }
  else realm

def handleSetInfo (info : String) : Realm :=
  if guild.info = info then realm
  else if guild.hasRankRight player grRightModifyGuildInfo then
    realm.setGuild { guild with info := info }
  else realm

def handleSetMemberNote (guid : Nat) (note : String) (officer : Bool) : Realm :=
  if guild.hasRankRight player (if officer then grRightEoffnote else grRightEpnote) then
    match guild.getMember guid with
    | none => realm
    | some member =>
      realm.setGuild { guild with
        members := guild.members.assign (guidLopart guid)
          (if officer then { member with officerNote := note }
           else { member with publicNote := note }) }
  else realm

/-- Only an invitee in no guild and without an invitation is invited; `agreeable` says that he
does not ignore the player and is of an allowed team. -/
def handleInviteMember (invitee : Nat) (agreeable : Bool) : Realm :=
  match realm.getPlayer invitee with
  | none => realm
  | some invited =>
    if agreeable = false then realm
    else if invited.guildId ≠ 0 then realm
    else if invited.guildIdInvited ≠ 0 then realm
    else if guild.hasRankRight player grRightInvite then
      realm.onPlayer invitee fun invited => { invited with guildIdInvited := guild.id }
    else realm

def handleAcceptMember (allied : Bool) : Realm :=
  if allied then
    match addMember actor guildRankNone guild realm with
    | none => realm
    | some (guild, realm) => realm.setGuild guild
  else realm

def handleLeaveMember (walk : Walk) : Realm :=
  if guild.isLeader actor then
    if 1 < guild.members.entries.length then realm else disband guild realm
  else deleteMember walk actor guild realm

def handleRemoveMember (walk : Walk) (guid : Nat) : Realm :=
  if guild.hasRankRight player grRightRemove then
    match guild.getMember guid with
    | none => realm
    | some member =>
      if member.rankId = grGuildMaster then realm
      else if member.rankId ≤ player.rank then realm
      else deleteMember walk guid guild realm
  else realm

def handleUpdateMemberRank (guid : Nat) (demote : Bool) : Realm :=
  if guild.hasRankRight player (if demote then grRightDemote else grRightPromote) then
    match guild.getMember guid with
    | none => realm
    | some member =>
      if guidLopart guid = actor then realm
      else if (if demote then member.rankId ≤ player.rank ∨ guild.lowestRankId ≤ member.rankId
        else member.rankId ≤ (player.rank + 1) % 256) then realm
      else
        let newRank := if demote then (member.rankId + 1) % 256 else (member.rankId + 255) % 256
        let changed := changeRank (guidLopart guid) member newRank guild realm
        changed.2.setGuild changed.1
  else realm

def handleDisband : Realm :=
  if guild.isLeader actor then disband guild realm else realm

def handleSetLeader (walk : Walk) (name : String) : Realm :=
  if guild.isLeader actor then
    match guild.getMember actor with
    | none => realm
    | some _ =>
      match guild.getMemberNamed walk name with
      | none => realm
      | some (guid, newLeader) =>
        let led := setLeaderGUID guid newLeader guild realm
        match led.1.getMember actor with
        | none => led.2.setGuild led.1
        | some oldLeader =>
          let changed := changeRank (guidLopart actor) oldLeader grOfficer led.1 led.2
          changed.2.setGuild changed.1
  else realm

def handleSetRankInfo (rankId : Nat) (name : String) (rights moneyPerDay : Nat)
    (rightsAndSlots : Nat → BankRightsAndSlots) : Guild :=
  if guild.isLeader actor then guild.setRankInfo rankId name rights moneyPerDay rightsAndSlots
  else guild

def handleAddNewRank (name : String) : Realm :=
  if guildRanksMaxCount ≤ guild.ranks.length then realm
  else if guild.isLeader actor then
    realm.setGuild { guild with
      ranks := createRank name (grRightGchatlisten ||| grRightGchatspeak) guild.ranks }
  else realm

def handleRemoveRank (rankId : Nat) : Realm :=
  if guild.ranks.length ≤ guildRanksMinCount ∨ guild.ranks.length ≤ rankId then realm
  else if guild.isLeader actor then
    realm.setGuild { guild with ranks := guild.ranks.eraseIdx rankId }
  else realm

/-- The buyer's rank gets full rights on the new tab; `affordable` says that he can pay. -/
def handleBuyBankTab (tabId : Nat) (affordable : Bool) : Realm :=
  if tabId ≠ guild.purchasedTabs then realm
  else if getGuildBankTabPrice tabId = 0 then realm
  else if affordable = false then realm
  else if guildBankMaxTabs ≤ guild.purchasedTabs then realm
  else
    realm.setGuild
      ((({ guild with purchasedTabs := guild.purchasedTabs + 1 } : Guild).setRankBankMoneyPerDay
        player.rank guildWithdrawMoneyUnlimited).setRankBankTabRightsAndSlots player.rank tabId
          ⟨guildBankRightFull, guildWithdrawSlotUnlimited⟩)

def handleMemberDepositMoney (amount : Nat) : Realm :=
  if guild.purchasedTabs = 0 then realm
  else realm.setGuild { guild with bankMoney := (guild.bankMoney + amount) % 2 ^ 64 }

def handleMemberWithdrawMoney (now amount : Nat) (repair : Bool) : Realm :=
  if guild.purchasedTabs = 0 then realm
  else if guild.bankMoney < amount then realm
  else if guild.hasRankRight player
      (if repair then grRightWithdrawRepair else grRightWithdrawGold) then
    let (remainingMoney, renewed) := guild.getMemberRemainingMoney now actor
    if remainingMoney = 0 ∨ remainingMoney < amount then realm.setGuild renewed
    else
      let paid :=
        if remainingMoney < guildWithdrawMoneyUnlimited then renewed.decreaseMoney actor amount
        else renewed
      realm.setGuild { paid with bankMoney := guild.bankMoney - amount }
  else realm

/-- `Guild::SwapItems` -/
def swapBankItems (store : ItemStore) (now tabId slotId destTabId destSlotId splitedAmount : Nat) :
    Realm :=
  let moved := (swapItems store now actor (guild.bank realm.nextItemGuid) tabId slotId destTabId
    destSlotId splitedAmount).2
  match moved.members actor with
  | none => realm
  | some member =>
    { realm.setGuild (guild.afterMove actor moved.bankTabs member.bankRemaining) with
      nextItemGuid := moved.nextGuid }

end Handlers

/-! ### Requests -/

/-- The content of `CMSG_GUILD_RANK`. -/
structure RankPacket where
  bankStacks : Nat → Nat
  newRights : Nat
  newRankId : Nat
  oldRankId : Nat
  bankRights : Nat → Nat
  guildGuid : Nat
  money : Nat
  playerGuid : Nat
  rankName : String

/-- A request of a player in the world. Names that find no player or are no names are left out,
and so are the requests that read only. -/
inductive Request where
  | create (name : String) (signers : List Nat)
  | invite (invitee : Nat) (agreeable : Bool)
  | accept (allied : Bool)
  | decline
  | leave
  | remove (guid : Nat)
  | promote (guid : Nat)
  | demote (guid : Nat)
  | disband
  | setLeader (name : String)
  | setMOTD (motd : String)
  | setInfo (info : String)
  | setNote (guid : Nat) (note : String) (officer : Bool)
  | rank (packet : RankPacket)
  | addRank
  | delRank (rankId : Nat)
  | buyTab (tabId : Nat) (affordable : Bool)
  | deposit (amount : Nat)
  | withdraw (now amount : Nat) (repair : Bool)
  | swapItems (store : ItemStore) (now tabId slotId destTabId destSlotId splitedAmount : Nat)
  /-- A move between the bank and the player's bags, with any outcome. -/
  | swapItemsWithInventory (bankItems : Nat × Nat → Option Item)
      (bankRemaining : Nat → RemainingValue)

def Realm.getPlayerGuild (realm : Realm) (player : Player) : Option Guild :=
  if player.guildId = 0 then none else realm.guilds player.guildId

/-- `HandleGuildRankOpcode` -/
def handleGuildRank (actor : Nat) (player : Player) (packet : RankPacket) (realm : Realm) : Realm :=
  if actor ≠ packet.playerGuid then realm
  else if player.guildId ≠ guidLopart packet.guildGuid then realm
  else
    match realm.getPlayerGuild player with
    | none => realm
    | some guild =>
      if packet.oldRankId = grGuildMaster then realm
      else
        let edited := handleSetRankInfo actor guild (packet.newRankId % 256) packet.rankName
          packet.newRights packet.money fun tabId =>
            ⟨packet.bankRights tabId % 256, packet.bankStacks tabId⟩
        if switches packet.oldRankId packet.newRankId then
          realm.setGuild { edited with
            ranks := switchRank packet.oldRankId packet.newRankId edited.ranks }
        else realm.setGuild edited

/-- The requests that `_GetPlayerGuild` hands to the player's guild. -/
def serveGuild (walk : Walk) (actor : Nat) (player : Player) (guild : Guild) (realm : Realm) :
    Request → Realm
  | .invite invitee agreeable => handleInviteMember player guild realm invitee agreeable
  | .leave => handleLeaveMember actor guild realm walk
  | .remove guid => handleRemoveMember player guild realm walk guid
  | .promote guid => handleUpdateMemberRank actor player guild realm guid false
  | .demote guid => handleUpdateMemberRank actor player guild realm guid true
  | .disband => handleDisband actor guild realm
  | .setLeader name => handleSetLeader actor guild realm walk name
  | .setMOTD motd => handleSetMOTD player guild realm motd
  | .setInfo info => handleSetInfo player guild realm info
  | .setNote guid note officer => handleSetMemberNote player guild realm guid note officer
  | .addRank => handleAddNewRank actor guild realm "New Rank"
  | .delRank rankId => handleRemoveRank actor guild realm (rankId % 256)
  | .buyTab tabId affordable => handleBuyBankTab player guild realm tabId affordable
  | .deposit amount => handleMemberDepositMoney guild realm amount
  | .withdraw now amount repair =>
    handleMemberWithdrawMoney actor player guild realm now amount repair
  | .swapItems store now tabId slotId destTabId destSlotId splitedAmount =>
    swapBankItems actor guild realm store now tabId slotId destTabId destSlotId splitedAmount
  | .swapItemsWithInventory bankItems bankRemaining =>
    realm.setGuild (guild.afterMove actor bankItems bankRemaining)
  | _ => realm

def serve (walk : Walk) (actor : Nat) (player : Player) (realm : Realm) : Request → Realm
  | .create name signers =>
    if player.guildId ≠ 0 then realm else create actor name signers realm
  | .accept allied =>
    if player.guildId ≠ 0 then realm
    else
      match realm.guilds player.guildIdInvited with
      | none => realm
      | some guild => handleAcceptMember actor guild realm allied
  | .decline =>
    { realm with
      players := Function.update realm.players actor
        (some { player with guildId := 0, guildIdInvited := 0 }) }
  | .rank packet => handleGuildRank actor player packet realm
  | request =>
    match realm.getPlayerGuild player with
    | none => realm
    | some guild => serveGuild walk actor player guild realm request

/-! ### Events -/

inductive Event where
  | request (actor : Nat) (walk : Walk) (request : Request)
  | login (guid : Nat)
  | logout (guid : Nat)
  | leaveWorld (guid : Nat)
  | enterWorld (guid : Nat)
  /-- The deletion of a character, or the uninvitation by a game master. -/
  | deleteMember (guid : Nat) (walk : Walk)

def login (guid : Nat) (realm : Realm) : Realm :=
  match realm.players guid, realm.characters guid with
  | none, some name =>
    let row := (realm.guildMember guid).getD ⟨0, 0⟩
    let guildId := if (realm.guilds row.guildId).isSome then row.guildId else 0
    { realm with
      players := Function.update realm.players guid
        (some { name := name, guildId := guildId, rank := row.rank, guildIdInvited := 0,
                inWorld := true }) }
  | _, _ => realm

def next (realm : Realm) : Event → Realm
  | .request actor walk request =>
    match realm.getPlayer actor with
    | none => realm
    | some player => serve walk actor player realm request
  | .login guid => login guid realm
  | .logout guid => { realm with players := Function.update realm.players guid none }
  | .leaveWorld guid =>
    { realm with
      players := Function.update realm.players guid
        ((realm.players guid).map fun player => { player with inWorld := false }) }
  | .enterWorld guid =>
    { realm with
      players := Function.update realm.players guid
        ((realm.players guid).map fun player => { player with inWorld := true }) }
  | .deleteMember guid walk =>
    let lowguid := guidLopart guid
    if realm.guildIdOf lowguid = 0 then realm
    else
      match realm.guilds (realm.guildIdOf lowguid) with
      | none => realm
      | some guild => deleteMember walk lowguid guild realm

def Realm.initial (characters : Nat → Option String) (nextItemGuid : Nat)
    (darkCoreString : Nat → String) : Realm where
  guilds := fun _ => none
  players := fun _ => none
  guildMember := fun _ => none
  characters := fun guid => if guid < 2 ^ 32 then characters guid else none
  nextGuildId := 1
  nextItemGuid := nextItemGuid
  darkCoreString := darkCoreString

end DarkCore.Guilds.Roster
