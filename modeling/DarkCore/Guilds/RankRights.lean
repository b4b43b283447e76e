/-
The rights of a rank. `_HasRankRight` masks the rights word of a rank with a
right and compares with the base bit `GR_RIGHT_EMPTY`, which most rights
contain: a word without the base bit is never compared equal, and the rights
to withdraw, which lack the base bit, are never refused.
-/

import DarkCore.Guilds.Membership
import Mathlib.Data.Nat.Bitwise

namespace DarkCore.Guilds.Roster

open Lib Items

/-! ### Rights -/

inductive GuildRankRight where
  | invite
  | remove
  | promote
  | demote
  | setmotd
  | epnote
  | eoffnote
  | withdrawRepair
  | withdrawGold
deriving DecidableEq

def GuildRankRight.value : GuildRankRight → Nat
  | .invite => grRightInvite
  | .remove => grRightRemove
  | .promote => grRightPromote
  | .demote => grRightDemote
  | .setmotd => grRightSetmotd
  | .epnote => grRightEpnote
  | .eoffnote => grRightEoffnote
  | .withdrawRepair => grRightWithdrawRepair
  | .withdrawGold => grRightWithdrawGold

def GuildRankRight.bit : GuildRankRight → Nat
  | .invite => 4
  | .remove => 5
  | .promote => 7
  | .demote => 8
  | .setmotd => 12
  | .epnote => 13
  | .eoffnote => 15
  | .withdrawRepair => 18
  | .withdrawGold => 19

def GuildRankRight.hasBase : GuildRankRight → Bool
  | .withdrawRepair => false
  | .withdrawGold => false
  | _ => true

theorem GuildRankRight.value_eq (right : GuildRankRight) :
    right.value = (if right.hasBase then 2 ^ 6 else 0) ||| 2 ^ right.bit := by
  cases right <;> rfl

def Request.gate : Request → Option GuildRankRight
  | .invite _ _ => some .invite
  | .remove _ => some .remove
  | .promote _ => some .promote
  | .demote _ => some .demote
  | .setMOTD _ => some .setmotd
  | .setNote _ _ officer => some (if officer then .eoffnote else .epnote)
  | .withdraw _ _ repair => some (if repair then .withdrawRepair else .withdrawGold)
  | _ => none

theorem masked_ne_empty (right : GuildRankRight) (rights : Nat) :
    (rights &&& right.value != grRightEmpty) =
      (rights.testBit right.bit || !rights.testBit 6 || !right.hasBase) := by
  have parts : rights &&& right.value =
      (if right.hasBase then (rights.testBit 6).toNat * 2 ^ 6 else 0) |||
        (rights.testBit right.bit).toNat * 2 ^ right.bit := by
    rw [right.value_eq, Nat.and_or_distrib_left, Nat.and_two_pow, apply_ite (rights &&& ·),
      Nat.and_two_pow, Nat.and_zero]
  rw [parts]
  generalize rights.testBit right.bit = own
  generalize rights.testBit 6 = base
  cases right
  all_goals
    revert own base
    decide

/-- What a player may do with a rights word: `Guild.hasRankRight` for that word. -/
def GuildRankRight.Passes (right : GuildRankRight) (rights : Nat) : Prop :=
  rights.testBit right.bit = true ∨ rights.testBit 6 = false ∨ right.hasBase = false

instance (right : GuildRankRight) (rights : Nat) : Decidable (right.Passes rights) :=
  inferInstanceAs (Decidable (_ ∨ _ ∨ _))

theorem hasRankRight_iff {guild : Guild} {player : Player} {right : GuildRankRight} :
    guild.hasRankRight player right.value = true ↔
      right.Passes (guild.getRankRights player.rank) := by
  unfold Guild.hasRankRight GuildRankRight.Passes
  rw [masked_ne_empty, Bool.or_eq_true, Bool.or_eq_true, Bool.not_eq_true', Bool.not_eq_true',
    or_assoc]

/-! ### Gated requests -/

/-- In every realm that is reached, a request gated by a right changes nothing for a member whose
rank lacks the bit of the right. One word is that of the rank the guild has him in, the other that
of the rank in his own field, which is another one if he was given a new rank between two maps. -/
def GuildRankRight.Guards (right : GuildRankRight) (rights fieldRights : BitVec 32) : Prop :=
  ∀ (characters : Nat → Option String) (nextItemGuid : Nat) (darkCoreString : Nat → String)
    (events : List Event) (actor : Nat) (walk : Walk) (request : Request) (player : Player)
    (guild : Guild) (member : Member),
    let realm := events.foldl next (Realm.initial characters nextItemGuid darkCoreString)
    Acting realm actor player guild → guild.getMember actor = some member →
      guild.getRankRights member.rankId = rights.toNat →
      guild.getRankRights player.rank = fieldRights.toNat → request.gate = some right →
      rights.toNat.testBit right.bit = false →
      next realm (.request actor walk request) = realm

section Gates

variable {realm : Realm} {actor : Nat} {player : Player} {guild : Guild} {walk : Walk}
variable {request : Request} {right : GuildRankRight}

theorem next_served (acting : Acting realm actor player guild) (gated : request.gate = some right) :
    next realm (.request actor walk request) =
      serveGuild walk actor player guild realm request := by
  rw [next_request acting.inWorld]
  cases request with
  | create name signers => cases gated
  | accept allied => cases gated
  | decline => cases gated
  | rank packet => cases gated
  | _ =>
    unfold serve
    rw [acting.guild]

theorem serveGuild_refused (gated : request.gate = some right)
    (refused : guild.hasRankRight player right.value = false) :
    serveGuild walk actor player guild realm request = realm := by
  cases request with
  | invite invitee agreeable =>
    cases gated
    have denied : ¬guild.hasRankRight player grRightInvite = true := ne_true_of_eq_false refused
    unfold serveGuild handleInviteMember
    dsimp only
    cases realm.getPlayer invitee with
    | none => rfl
    | some invited =>
      simp_all
  | remove guid =>
    cases gated
    have denied : ¬guild.hasRankRight player grRightRemove = true := ne_true_of_eq_false refused
    unfold serveGuild handleRemoveMember
    dsimp only
    rw [if_neg denied]
  | promote guid =>
    cases gated
    have denied : ¬guild.hasRankRight player grRightPromote = true := ne_true_of_eq_false refused
    unfold serveGuild handleUpdateMemberRank
    dsimp only
    rw [if_neg Bool.false_ne_true, if_neg denied]
  | demote guid =>
    cases gated
    have denied : ¬guild.hasRankRight player grRightDemote = true := ne_true_of_eq_false refused
    unfold serveGuild handleUpdateMemberRank
    dsimp only
    rw [if_pos rfl, if_neg denied]
  | setMOTD motd =>
    cases gated
    have denied : ¬guild.hasRankRight player grRightSetmotd = true := ne_true_of_eq_false refused
    unfold serveGuild handleSetMOTD
    dsimp only
    rw [if_neg denied, ite_self]
  | setNote guid note officer =>
    have denied : ¬guild.hasRankRight player
        (if officer then grRightEoffnote else grRightEpnote) = true := by
      cases officer with
      | true =>
        cases gated
        exact ne_true_of_eq_false refused
      | false =>
        cases gated
        exact ne_true_of_eq_false refused
    unfold serveGuild handleSetMemberNote
    dsimp only
    rw [if_neg denied]
  | withdraw now amount repair =>
    have denied : ¬guild.hasRankRight player
        (if repair then grRightWithdrawRepair else grRightWithdrawGold) = true := by
      cases repair with
      | true | false =>
        cases gated
        exact ne_true_of_eq_false refused
    unfold serveGuild handleMemberWithdrawMoney
    dsimp only
    rw [if_neg denied, ite_self, ite_self]
  | _ => cases gated

end Gates

/-! ### The rank editor -/

def Guild.terms (guild : Guild) : List (Nat × Nat × Nat) :=
  guild.ranks.map fun rank => (rank.rankId, rank.rights, rank.bankMoneyPerDay)

section Terms

variable {guild : Guild} {rankId rights moneyPerDay : Nat} {name : String}
variable {rightsAndSlots : Nat → BankRightsAndSlots}

theorem setRankInfo_kept {β : Type} (view : Guild → β)
    (onRank : ∀ (guild : Guild) change, view (guild.onRank rankId change) = view guild)
    (onMembersOf : ∀ (guild : Guild) change, view (guild.onMembersOf rankId change) = view guild) :
    view (guild.setRankInfo rankId name rights moneyPerDay rightsAndSlots) = view guild := by
  have money : ∀ guild : Guild,
      view (guild.setRankBankMoneyPerDay rankId moneyPerDay) = view guild := by
    grind [Guild.setRankBankMoneyPerDay]
  have tab : ∀ (guild : Guild) (tabId : Nat) (values : BankRightsAndSlots),
      view (guild.setRankBankTabRightsAndSlots rankId tabId values) = view guild := by
    grind [Guild.setRankBankTabRightsAndSlots]
  have tabs : ∀ (tabIds : List Nat) (guild : Guild), view (tabIds.foldl (fun guild tabId =>
      guild.setRankBankTabRightsAndSlots rankId tabId (rightsAndSlots tabId)) guild) =
        view guild := by
    intro tabIds
    induction tabIds with
    | nil =>
      simp
    | cons tabId rest ih =>
      intro guild
      rw [List.foldl_cons, ih, tab]
  unfold Guild.setRankInfo
  split
  · rw [tabs, money, onRank]
  · rfl

theorem map_modify_of_eq {α β : Type} {entries : List α} {index : Nat} {change : α → α}
    {view : α → β} {changed : β → β} (commutes : ∀ entry, view (change entry) = changed (view entry)) :
    (entries.modify index change).map view = (entries.map view).modify index changed := by
  apply List.ext_getElem?
  intro looked
  rw [List.getElem?_map, List.getElem?_modify, List.getElem?_modify, List.getElem?_map]
  cases entries[looked]? with
  | none => rfl
  | some entry =>
    grind

theorem terms_setRankInfo (inTable : rankId < guild.ranks.length) :
    (guild.setRankInfo rankId name rights moneyPerDay rightsAndSlots).terms =
      guild.terms.modify rankId fun term =>
        if term.1 = grGuildMaster then (term.1, grRightAll, guildWithdrawMoneyUnlimited)
        else (term.1, rights, moneyPerDay) := by
  have tab : ∀ (guild : Guild) (tabId : Nat) (values : BankRightsAndSlots),
      (guild.setRankBankTabRightsAndSlots rankId tabId values).terms = guild.terms := by
    intro guild tabId values
    unfold Guild.setRankBankTabRightsAndSlots
    split
    · rfl
    · split
      · unfold Guild.terms Guild.onRank Guild.onMembersOf
        have same := @map_modify_of_eq _ _ guild.ranks rankId
          (fun rank => rank.setBankTabSlotsAndRights tabId values)
          (fun rank => (rank.rankId, rank.rights, rank.bankMoneyPerDay)) id (fun _ => rfl)
        rw [same, List.modify_id]
      · rfl
  have tabs : ∀ (tabIds : List Nat) (guild : Guild), (tabIds.foldl (fun guild tabId =>
      guild.setRankBankTabRightsAndSlots rankId tabId (rightsAndSlots tabId)) guild).terms =
        guild.terms := by
    intro tabIds
    induction tabIds with
    | nil =>
      simp
    | cons tabId rest ih =>
      intro guild
      rw [List.foldl_cons, ih, tab]
  unfold Guild.setRankInfo
  rw [if_pos inTable, tabs]
  unfold Guild.setRankBankMoneyPerDay Guild.terms Guild.onRank Guild.onMembersOf
  rw [List.length_modify, if_pos inTable, List.modify_modify_eq]
  apply map_modify_of_eq
  intro rank
  unfold RankInfo.setBankMoneyPerDay RankInfo.setRights RankInfo.setName Function.comp
  dsimp only
  split <;> rfl

theorem getRankRights_eq (guild : Guild) (rankId : Nat) :
    guild.getRankRights rankId = (guild.terms[rankId]?.map fun term => term.2.1).getD 0 := by
  unfold Guild.getRankRights Guild.terms
  rw [List.getElem?_map]
  cases guild.ranks[rankId]? with
  | none => rfl
  | some rank => rfl

theorem getRankBankMoneyPerDay_eq (guild : Guild) (rankId : Nat) :
    guild.getRankBankMoneyPerDay rankId =
      (guild.terms[rankId]?.map fun term =>
        if term.1 = grGuildMaster then guildWithdrawMoneyUnlimited else term.2.2).getD 0 := by
  unfold Guild.getRankBankMoneyPerDay Guild.terms
  rw [List.getElem?_map]
  cases guild.ranks[rankId]? with
  | none => rfl
  | some rank => rfl

end Terms

theorem next_leaderEdit {realm : Realm} {actor : Nat} {walk : Walk} {player : Player}
    {guild : Guild} {packet : RankPacket} (acting : Acting realm actor player guild)
    (leads : guild.isLeader actor = true) (sender : actor = packet.playerGuid)
    (own : player.guildId = guidLopart packet.guildGuid)
    (notMaster : packet.oldRankId ≠ grGuildMaster)
    (unswitched : switches packet.oldRankId packet.newRankId = false) :
    next realm (.request actor walk (.rank packet)) =
      realm.setGuild (guild.setRankInfo (packet.newRankId % 256) packet.rankName packet.newRights
        packet.money fun tabId => ⟨packet.bankRights tabId % 256, packet.bankStacks tabId⟩) := by
  rw [next_request acting.inWorld]
  unfold serve handleGuildRank
  dsimp only
  rw [if_neg (not_not_intro sender), if_neg (not_not_intro own), acting.guild]
  dsimp only
  rw [if_neg notMaster, unswitched, if_neg Bool.false_ne_true]
  unfold handleSetRankInfo
  rw [if_pos leads]

/-! ### A guild with a member of two ranks -/

def courtNames : Nat → Option String
  | 1 => some "Leader"
  | 2 => some "Member"
  | 3 => some "Target"
  | 4 => some "Stranger"
  | _ => none

def rightsPacket (rankId rights : Nat) : RankPacket :=
  { rankPacket 1 rankId rankId with newRights := rights, money := 10 }

/-- Member 2 is promoted from rank 4 to rank 3 while he is between two maps; member 3 is of rank 6,
and the bank holds money. -/
def court : List Event :=
  [.login 1, .login 2, .login 3, .login 4, .request 1 walkInOrder (.create "Guild" [2, 3]),
    .request 1 walkInOrder .addRank, .request 1 walkInOrder .addRank,
    .request 1 walkInOrder .addRank, .request 1 walkInOrder (.demote 3),
    .request 1 walkInOrder (.demote 3), .request 1 walkInOrder (.buyTab 0 true),
    .request 1 walkInOrder (.deposit 5), .leaveWorld 2, .request 1 walkInOrder (.promote 2),
    .enterWorld 2]

def courtRealm : Realm := court.foldl next (Realm.initial courtNames 1 fun _ => "")

def courtWithRights (rights fieldRights : Nat) : List Event :=
  court ++ [.request 1 walkInOrder (.rank (rightsPacket 3 rights)),
    .request 1 walkInOrder (.rank (rightsPacket 4 fieldRights))]


structure CourtGuild (terms : List (Nat × Nat × Nat)) (guild : Guild) : Prop where
  id : guild.id = 1
  leaderGuid : guild.leaderGuid = 1
  second : guild.rankOf 2 = some 3
  third : guild.rankOf 3 = some 6
  terms : guild.terms = terms
  bankMoney : guild.bankMoney = 5
  purchasedTabs : guild.purchasedTabs = 1

def courtTerms (rights fieldRights : Nat) : List (Nat × Nat × Nat) :=
  [(0, grRightAll, guildWithdrawMoneyUnlimited), (1, grRightAll, 0), (2, 0x43, 0),
    (3, rights, 10), (4, fieldRights, 10), (5, 0x43, 0), (6, 0x43, 0), (7, 0x43, 0)]

theorem courtGuild_setRankInfo {terms : List (Nat × Nat × Nat)} {guild : Guild}
    (known : CourtGuild terms guild) {rankId rights : Nat} (inTable : rankId < terms.length) :
    CourtGuild
      (terms.modify rankId fun term =>
        if term.1 = grGuildMaster then (term.1, grRightAll, guildWithdrawMoneyUnlimited)
        else (term.1, rights, 10))
      (guild.setRankInfo rankId "" rights 10 fun _ => ⟨0, 0⟩) := by
  have edit := setRankInfo_edit guild rankId "" rights 10 fun _ => ⟨0, 0⟩
  have tableLength : guild.ranks.length = terms.length := by
    rw [← known.terms]
    exact (List.length_map _).symm
  refine ⟨edit.id.trans known.id, edit.leaderGuid.trans known.leaderGuid, ?_, ?_, ?_, ?_, ?_⟩
  · rw [edit.roles]
    exact known.second
  · rw [edit.roles]
    exact known.third
  · rw [terms_setRankInfo (tableLength ▸ inTable), known.terms]
  · rw [setRankInfo_kept Guild.bankMoney (fun _ _ => rfl) fun _ _ => rfl]
    exact known.bankMoney
  · rw [setRankInfo_kept Guild.purchasedTabs (fun _ _ => rfl) fun _ _ => rfl]
    exact known.purchasedTabs

theorem courtRealm_known : ∃ guild, courtRealm.guilds 1 = some guild ∧
    CourtGuild [(0, grRightAll, guildWithdrawMoneyUnlimited), (1, grRightAll, 0), (2, 0x43, 0),
      (3, 0x43, 0), (4, 0x43, 0), (5, 0x43, 0), (6, 0x43, 0), (7, 0x43, 0)] guild := by
  obtain ⟨guild, found⟩ : ∃ guild, courtRealm.guilds 1 = some guild :=
    Option.isSome_iff_exists.mp (by decide +kernel)
  have read : ∀ {β : Type} (view : Guild → β) {value : β},
      (courtRealm.guilds 1).map view = some value → view guild = value := by
    simp [found, Option.map_some, Option.some_inj]
  refine ⟨guild, found, ⟨?_, ?_, ?_, ?_, ?_, ?_, ?_⟩⟩
  · exact read Guild.id (by decide +kernel)
  · exact read Guild.leaderGuid (by decide +kernel)
  · exact read (fun guild => guild.rankOf 2) (by decide +kernel)
  · exact read (fun guild => guild.rankOf 3) (by decide +kernel)
  · exact read Guild.terms (by decide +kernel)
  · exact read Guild.bankMoney (by decide +kernel)
  · exact read Guild.purchasedTabs (by decide +kernel)

theorem courtRealm_players : courtRealm.getPlayer 1 = some ⟨"Leader", 1, 0, 0, true⟩ ∧
    courtRealm.getPlayer 2 = some ⟨"Member", 1, 4, 0, true⟩ ∧
    courtRealm.getPlayer 4 = some ⟨"Stranger", 0, 0, 0, true⟩ := by
  decide +kernel

theorem guidLopart_rightsPacket (rankId rights : Nat) :
    guidLopart (rightsPacket rankId rights).guildGuid = 1 := by
  change guidLopart 0x1FF6000000000001 = 1
  decide

theorem court_edit {realm : Realm} {guild : Guild} {terms : List (Nat × Nat × Nat)}
    {rankId rights : Nat} (first : realm.getPlayer 1 = some ⟨"Leader", 1, 0, 0, true⟩)
    (stored : realm.guilds 1 = some guild) (known : CourtGuild terms guild) (low : rankId < 4) :
    next realm (.request 1 walkInOrder (.rank (rightsPacket (rankId + 1) rights))) =
      realm.setGuild (guild.setRankInfo (rankId + 1) "" rights 10 fun _ => ⟨0, 0⟩) := by
  have leads : guild.isLeader 1 = true := by
    simp [Guild.isLeader, known.leaderGuid]
  have unswitched : switches (rankId + 1) (rankId + 1) = false := by
    simp [switches]
  have edited := @next_leaderEdit realm 1 walkInOrder ⟨"Leader", 1, 0, 0, true⟩ guild
    (rightsPacket (rankId + 1) rights) ⟨first, stored⟩ leads rfl
    (guidLopart_rightsPacket _ _).symm (Nat.succ_ne_zero rankId) unswitched
  have same : (rankId + 1) % 256 = rankId + 1 := by omega
  rw [edited]
  change realm.setGuild (guild.setRankInfo ((rankId + 1) % 256) "" rights 10 fun _ => ⟨0, 0⟩) = _
  rw [same]

theorem court_reached (rights fieldRights : Nat) :
    ∃ guild,
      Acting ((courtWithRights rights fieldRights).foldl next
        (Realm.initial courtNames 1 fun _ => "")) 2 ⟨"Member", 1, 4, 0, true⟩ guild ∧
      CourtGuild (courtTerms rights fieldRights) guild ∧
      ((courtWithRights rights fieldRights).foldl next
        (Realm.initial courtNames 1 fun _ => "")).getPlayer 4 =
          some ⟨"Stranger", 0, 0, 0, true⟩ := by
  obtain ⟨guild, stored, known⟩ := courtRealm_known
  obtain ⟨first, second, fourth⟩ := courtRealm_players
  have edited := @courtGuild_setRankInfo _ guild known 3 rights (by decide)
  have editedTwice := @courtGuild_setRankInfo _ _ edited 4 fieldRights (by
    rw [List.length_modify]
    decide)
  have storedEdited : (courtRealm.setGuild (guild.setRankInfo 3 "" rights 10
      fun _ => ⟨0, 0⟩)).guilds 1 = some (guild.setRankInfo 3 "" rights 10 fun _ => ⟨0, 0⟩) := by
    simp [Realm.setGuild, edited.id, Function.update_self]
  have reached : (courtWithRights rights fieldRights).foldl next
      (Realm.initial courtNames 1 fun _ => "") =
      (courtRealm.setGuild (guild.setRankInfo 3 "" rights 10 fun _ => ⟨0, 0⟩)).setGuild
        ((guild.setRankInfo 3 "" rights 10 fun _ => ⟨0, 0⟩).setRankInfo 4 "" fieldRights 10
          fun _ => ⟨0, 0⟩) := by
    have start : court.foldl next (Realm.initial courtNames 1 fun _ => "") = courtRealm := rfl
    have editOne := @court_edit courtRealm guild _ 2 rights first stored known (by decide)
    have editTwo := @court_edit
      (courtRealm.setGuild (guild.setRankInfo 3 "" rights 10 fun _ => ⟨0, 0⟩)) _ _ 3 fieldRights
      first storedEdited edited (by decide)
    unfold courtWithRights
    rw [List.foldl_append, start, List.foldl_cons, List.foldl_cons, List.foldl_nil, editOne,
      editTwo]
  rw [reached]
  refine ⟨_, ⟨second, ?_⟩, editedTwice, fourth⟩
  unfold Realm.getPlayerGuild
  rw [if_neg Nat.one_ne_zero]
  unfold Realm.setGuild
  dsimp only
  rw [editedTwice.id, Function.update_self]

/-! ### What a word that passes lets through -/

section Violations

variable {realm : Realm} {guild : Guild} {rights fieldRights : Nat}

theorem court_stored (acting : Acting realm 2 ⟨"Member", 1, 4, 0, true⟩ guild) :
    realm.guilds 1 = some guild := by
  have served := acting.guild
  unfold Realm.getPlayerGuild at served
  rwa [if_neg Nat.one_ne_zero] at served

theorem next_ne_of_view {β : Type} {request : Request} {right : GuildRankRight} {rest : Realm}
    {edited : Guild} (acting : Acting realm 2 ⟨"Member", 1, 4, 0, true⟩ guild)
    (known : CourtGuild (courtTerms rights fieldRights) guild)
    (gated : request.gate = some right)
    (served : serveGuild walkInOrder 2 ⟨"Member", 1, 4, 0, true⟩ guild realm request =
      rest.setGuild edited)
    (named : edited.id = guild.id) (view : Guild → β) (different : view edited ≠ view guild) :
    next realm (.request 2 walkInOrder request) ≠ realm := by
  intro same
  rw [next_served acting gated, served] at same
  have stored := court_stored acting
  rw [← same] at stored
  unfold Realm.setGuild at stored
  dsimp only at stored
  rw [named, known.id, Function.update_self, Option.some_inj] at stored
  exact different (congrArg view stored)

theorem court_target (known : CourtGuild (courtTerms rights fieldRights) guild) :
    ∃ target, guild.getMember 3 = some target ∧ target.rankId = 6 := rankOf_eq_some.mp known.third

theorem court_lowestRankId (known : CourtGuild (courtTerms rights fieldRights) guild) :
    guild.lowestRankId = 7 := by
  have length : guild.ranks.length = (courtTerms rights fieldRights).length := by
    rw [← known.terms]
    exact (List.length_map _).symm
  have eight : (courtTerms rights fieldRights).length = 8 := rfl
  unfold Guild.lowestRankId
  rw [length, eight]

section

variable (acting : Acting realm 2 ⟨"Member", 1, 4, 0, true⟩ guild)
  (known : CourtGuild (courtTerms rights fieldRights) guild)
include acting known

theorem court_invites
    (stranger : realm.getPlayer 4 = some ⟨"Stranger", 0, 0, 0, true⟩)
    (permitted : guild.hasRankRight ⟨"Member", 1, 4, 0, true⟩ grRightInvite = true) :
    next realm (.request 2 walkInOrder (.invite 4 true)) ≠ realm := by
  intro same
  rw [next_served acting rfl] at same
  unfold serveGuild handleInviteMember at same
  dsimp only at same
  rw [stranger] at same
  dsimp only at same
  rw [if_neg Bool.true_eq_false.mp, if_neg (not_not_intro rfl), if_neg (not_not_intro rfl),
    if_pos permitted] at same
  have invited := congrArg (fun realm => realm.players 4) same
  have connected := (getPlayer_eq_some.mp stranger).1
  rw [onPlayer_eq] at invited
  dsimp only at invited
  rw [Function.update_self, connected, Option.map_some, if_pos rfl, Option.some_inj] at invited
  have impossible := congrArg Player.guildIdInvited invited
  rw [known.id] at impossible
  exact Nat.one_ne_zero impossible

theorem court_removes
    (permitted : guild.hasRankRight ⟨"Member", 1, 4, 0, true⟩ grRightRemove = true) :
    next realm (.request 2 walkInOrder (.remove 3)) ≠ realm := by
  obtain ⟨target, found, isSix⟩ := court_target known
  have served : serveGuild walkInOrder 2 ⟨"Member", 1, 4, 0, true⟩ guild realm (.remove 3) =
      (realm.forget 3).setGuild { guild with members := guild.members.erase (guidLopart 3) } := by
    unfold serveGuild handleRemoveMember
    dsimp only
    rw [if_pos permitted, found]
    dsimp only
    rw [isSix, if_neg (by decide), if_neg (by decide)]
    have follows : ¬guild.leaderGuid = 3 := by
      rw [known.leaderGuid]
      decide
    unfold deleteMember
    rw [if_neg follows]
  refine next_ne_of_view acting known rfl served rfl (fun guild => guild.rankOf 3) ?_
  rw [rankOf_erase, known.third]
  change Function.update guild.rankOf 3 none 3 ≠ some 6
  rw [Function.update_self]
  exact (Option.some_ne_none 6).symm

theorem court_updates
    {demote : Bool}
    (permitted : guild.hasRankRight ⟨"Member", 1, 4, 0, true⟩
      (if demote then grRightDemote else grRightPromote) = true) :
    next realm (.request 2 walkInOrder (if demote then .demote 3 else .promote 3)) ≠ realm := by
  obtain ⟨target, found, isSix⟩ := court_target known
  have lowest := court_lowestRankId known
  have served : serveGuild walkInOrder 2 ⟨"Member", 1, 4, 0, true⟩ guild realm
      (if demote then .demote 3 else .promote 3) =
      (changeRank 3 target (if demote then 7 else 5) guild realm).2.setGuild
        (changeRank 3 target (if demote then 7 else 5) guild realm).1 := by
    cases demote with
    | true =>
      have passed : guild.hasRankRight ⟨"Member", 1, 4, 0, true⟩ grRightDemote = true := permitted
      have within : ¬(target.rankId ≤ 4 ∨ guild.lowestRankId ≤ target.rankId) := by
        omega
      simp only [if_true]
      unfold serveGuild handleUpdateMemberRank
      simp only [if_true]
      rw [if_pos passed, found]
      dsimp only
      rw [if_neg (by decide), if_neg within, isSix]
      rfl
    | false =>
      have passed : guild.hasRankRight ⟨"Member", 1, 4, 0, true⟩ grRightPromote = true :=
        permitted
      have within : ¬target.rankId ≤ (4 + 1) % 256 := by
        omega
      simp only [Bool.false_eq_true, if_false]
      unfold serveGuild handleUpdateMemberRank
      simp only [Bool.false_eq_true, if_false]
      rw [if_pos passed, found]
      dsimp only
      rw [if_neg (by decide), if_neg within, isSix]
      rfl
  have gated : (if demote then Request.demote 3 else Request.promote 3).gate =
      some (if demote then GuildRankRight.demote else GuildRankRight.promote) := by
    cases demote <;> rfl
  refine next_ne_of_view acting known gated served rfl (fun guild => guild.rankOf 3) ?_
  rw [changeRank_rankOf, Function.update_self, known.third]
  cases demote <;> decide

theorem court_setsMOTD
    (permitted : guild.hasRankRight ⟨"Member", 1, 4, 0, true⟩ grRightSetmotd = true) {motd : String}
    (other : guild.motd ≠ motd) :
    next realm (.request 2 walkInOrder (.setMOTD motd)) ≠ realm := by
  have served : serveGuild walkInOrder 2 ⟨"Member", 1, 4, 0, true⟩ guild realm (.setMOTD motd) =
      realm.setGuild { guild with motd := motd } := by
    simp_all [serveGuild, handleSetMOTD]
  exact next_ne_of_view acting known rfl served rfl Guild.motd (Ne.symm other)

theorem court_setsNote
    {officer : Bool}
    (permitted : guild.hasRankRight ⟨"Member", 1, 4, 0, true⟩
      (if officer then grRightEoffnote else grRightEpnote) = true) {note : String}
    (other : ∀ target, guild.getMember 3 = some target →
      (if officer then target.officerNote else target.publicNote) ≠ note) :
    next realm (.request 2 walkInOrder (.setNote 3 note officer)) ≠ realm := by
  obtain ⟨target, found, _⟩ := court_target known
  have different := other target found
  have served : serveGuild walkInOrder 2 ⟨"Member", 1, 4, 0, true⟩ guild realm
      (.setNote 3 note officer) =
      realm.setGuild { guild with
        members := guild.members.assign (guidLopart 3)
          (if officer then { target with officerNote := note }
           else { target with publicNote := note }) } := by
    simp_all [serveGuild, handleSetMemberNote]
  refine next_ne_of_view acting known rfl served rfl (fun guild => guild.members.find 3) ?_
  intro same
  rw [OrdMap.find_assign] at same
  change Function.update guild.members.find 3 _ 3 = guild.getMember 3 at same
  rw [Function.update_self, found, Option.some_inj] at same
  rw [← same] at different
  cases officer <;> exact different rfl

theorem court_withdraws
    {repair : Bool}
    (permitted : guild.hasRankRight ⟨"Member", 1, 4, 0, true⟩
      (if repair then grRightWithdrawRepair else grRightWithdrawGold) = true) :
    ∃ now, next realm (.request 2 walkInOrder (.withdraw now 5 repair)) ≠ realm := by
  obtain ⟨self, isSelf, isThree⟩ := rankOf_eq_some.mp known.second
  have perDay : guild.getRankBankMoneyPerDay 3 = 10 := by
    rw [getRankBankMoneyPerDay_eq, known.terms]
    rfl
  refine ⟨(self.bankRemaining guildBankMaxTabs).resetTime + 24 * 60 + 1, ?_⟩
  generalize nowEq : (self.bankRemaining guildBankMaxTabs).resetTime + 24 * 60 + 1 = now
  have value : (guild.getMemberRemainingMoney now 2).1 = 10 := by
    have notMaster : ¬self.rankId = grGuildMaster := by
      rw [isThree]
      decide
    have isMember : guild.getMember 2 = some self := isSelf
    unfold Guild.getMemberRemainingMoney
    rw [isMember]
    dsimp only
    rw [if_neg notMaster, if_pos (by omega)]
    rw [isThree, perDay]
  have hasTabs : ¬guild.purchasedTabs = 0 := by
    rw [known.purchasedTabs]
    decide
  have enough : ¬guild.bankMoney < 5 := by
    rw [known.bankMoney]
    decide
  have served : serveGuild walkInOrder 2 ⟨"Member", 1, 4, 0, true⟩ guild realm
      (.withdraw now 5 repair) =
      realm.setGuild { (guild.getMemberRemainingMoney now 2).2.decreaseMoney 2 5 with
        bankMoney := guild.bankMoney - 5 } := by
    unfold serveGuild handleMemberWithdrawMoney
    dsimp only
    rw [if_neg hasTabs, if_neg enough, if_pos permitted, value, if_neg (by decide),
      if_pos (by decide)]
  have renewed := (getMemberRemainingMoney_edit guild now 2).1
  have paid := renewed.trans
    (decreaseMoney_edit (guild.getMemberRemainingMoney now 2).2 2 5).1
  have gated : (Request.withdraw now 5 repair).gate =
      some (if repair then .withdrawRepair else .withdrawGold) := rfl
  refine next_ne_of_view acting known gated served paid.id Guild.bankMoney ?_
  dsimp only
  rw [known.bankMoney]
  decide

end

theorem court_violates (right : GuildRankRight)
    (acting : Acting realm 2 ⟨"Member", 1, 4, 0, true⟩ guild)
    (known : CourtGuild (courtTerms rights fieldRights) guild)
    (stranger : realm.getPlayer 4 = some ⟨"Stranger", 0, 0, 0, true⟩)
    (permitted : guild.hasRankRight ⟨"Member", 1, 4, 0, true⟩ right.value = true) :
    ∃ request, request.gate = some right ∧
      next realm (.request 2 walkInOrder request) ≠ realm := by
  have otherThan : ∀ text : String, ∃ other, text ≠ other := by
    intro text
    by_cases empty : text = ""
    · exact ⟨"Hello", empty ▸ by decide⟩
    · exact ⟨"", empty⟩
  obtain ⟨target, found, _⟩ := court_target known
  cases right with
  | invite => exact ⟨.invite 4 true, rfl, court_invites acting known stranger permitted⟩
  | remove => exact ⟨.remove 3, rfl, court_removes acting known permitted⟩
  | promote => exact ⟨.promote 3, rfl, @court_updates _ _ _ _ acting known false permitted⟩
  | demote => exact ⟨.demote 3, rfl, @court_updates _ _ _ _ acting known true permitted⟩
  | setmotd =>
    obtain ⟨motd, other⟩ := otherThan guild.motd
    exact ⟨.setMOTD motd, rfl, court_setsMOTD acting known permitted other⟩
  | epnote =>
    obtain ⟨note, other⟩ := otherThan target.publicNote
    refine ⟨.setNote 3 note false, rfl, @court_setsNote _ _ _ _ acting known false permitted _ ?_⟩
    intro looked isTarget
    rw [found, Option.some_inj] at isTarget
    exact isTarget ▸ other
  | eoffnote =>
    obtain ⟨note, other⟩ := otherThan target.officerNote
    refine ⟨.setNote 3 note true, rfl, @court_setsNote _ _ _ _ acting known true permitted _ ?_⟩
    intro looked isTarget
    rw [found, Option.some_inj] at isTarget
    exact isTarget ▸ other
  | withdrawRepair =>
    obtain ⟨now, changed⟩ := @court_withdraws _ _ _ _ acting known true permitted
    exact ⟨.withdraw now 5 true, rfl, changed⟩
  | withdrawGold =>
    obtain ⟨now, changed⟩ := @court_withdraws _ _ _ _ acting known false permitted
    exact ⟨.withdraw now 5 false, rfl, changed⟩

end Violations

/-- A right guards its requests exactly when the word of the member's rank contains its bit, or
the word of the rank in his own field contains the base bit and not that of the right, and the
right is not one to withdraw. -/
theorem right_guards_iff (right : GuildRankRight) (rights fieldRights : BitVec 32) :
    right.Guards rights fieldRights ↔
      rights.toNat.testBit right.bit = true ∨
        fieldRights.toNat.testBit 6 = true ∧ fieldRights.toNat.testBit right.bit = false ∧
          right.hasBase = true := by
  have refused_iff : ¬right.Passes fieldRights.toNat ↔
      fieldRights.toNat.testBit 6 = true ∧ fieldRights.toNat.testBit right.bit = false ∧
        right.hasBase = true := by
    unfold GuildRankRight.Passes
    rw [not_or, not_or, Bool.not_eq_true, Bool.not_eq_false, Bool.not_eq_false, and_left_comm]
  rw [← refused_iff]
  constructor
  · intro guards
    by_contra neither
    rw [not_or, not_not, Bool.not_eq_true] at neither
    obtain ⟨lacks, passes⟩ := neither
    obtain ⟨guild, acting, known, stranger⟩ := court_reached rights.toNat fieldRights.toNat
    have fieldWord : guild.getRankRights 4 = fieldRights.toNat := by
      rw [getRankRights_eq, known.terms]
      rfl
    have memberWord : guild.getRankRights 3 = rights.toNat := by
      rw [getRankRights_eq, known.terms]
      rfl
    have permitted : guild.hasRankRight ⟨"Member", 1, 4, 0, true⟩ right.value = true := by
      rw [hasRankRight_iff]
      change right.Passes (guild.getRankRights 4)
      rw [fieldWord]
      exact passes
    obtain ⟨request, gated, changed⟩ := court_violates right acting known stranger permitted
    obtain ⟨self, isSelf, isThree⟩ := rankOf_eq_some.mp known.second
    apply changed
    exact guards courtNames 1 (fun _ => "") _ 2 walkInOrder request _ guild self acting isSelf
      (by rw [isThree, memberWord]) fieldWord gated lacks
  · intro condition characters nextItemGuid darkCoreString events actor walk request player guild
      member realm acting found memberWord fieldWord gated lacks
    rcases condition with contains | refused
    · rw [lacks] at contains
      cases contains
    · rw [next_served acting gated]
      apply serveGuild_refused gated
      rw [← Bool.not_eq_true, hasRankRight_iff, fieldWord]
      exact refused

/-- The leader takes all rights from rank 4, and a member of rank 4 sets the message of the day. -/
theorem empty_rights_not_refused :
    ¬∀ (right : GuildRankRight) (rights : BitVec 32), right.Guards rights rights := by
  intro guards
  obtain ⟨history, isHistory⟩ : ∃ history, history =
      founding ++ [Event.request 1 walkInOrder (.rank (rankPacket 1 4 4))] := ⟨_, rfl⟩
  obtain ⟨guild, stored⟩ : ∃ guild, (history.foldl next opening).guilds 1 = some guild := by
    rw [isHistory]
    exact Option.isSome_iff_exists.mp (by decide +kernel)
  have facts : ((history.foldl next opening).guilds 1).map (fun guild : Guild =>
      (guild.rankOf 2, guild.getRankRights 4)) = some (some 4, 0) := by
    rw [isHistory]
    decide +kernel
  rw [stored, Option.map_some, Option.some_inj, Prod.mk.injEq] at facts
  obtain ⟨isRank, noRights⟩ := facts
  obtain ⟨member, found, isFour⟩ := rankOf_eq_some.mp isRank
  have inWorld : (history.foldl next opening).getPlayer 2 =
      some ⟨"Member", 1, 4, 0, true⟩ := by
    rw [isHistory]
    decide +kernel
  have unchanged := guards .setmotd 0 openingNames 1 (fun _ => "") history 2 walkInOrder
    (.setMOTD "Hello") ⟨"Member", 1, 4, 0, true⟩ guild member ⟨inWorld, stored⟩ found
    (isFour.symm ▸ noRights) noRights rfl (by decide)
  have motd := congrArg (fun realm : Realm => (realm.guilds 1).map Guild.motd) unchanged
  rw [isHistory] at motd
  revert motd
  decide +kernel

end DarkCore.Guilds.Roster
