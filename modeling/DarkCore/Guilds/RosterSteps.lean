/-
What one event does to the guilds of a realm: the writes and the parts of the
realm that each leaves alone, and then one list of all the changes of a guild,
with what the code has checked before each.
-/

import DarkCore.Guilds.Roster

namespace DarkCore.Guilds.Roster

open Lib Items

section Writes

variable {realm : Realm} {guid : Nat} {change : Player → Player}

theorem onPlayer_eq :
    realm.onPlayer guid change =
      { realm with
        players := Function.update realm.players guid
          ((realm.players guid).map fun player =>
            if player.inWorld then change player else player) } := by
  unfold Realm.onPlayer Realm.getPlayer
  cases found : realm.players guid with
  | none =>
    have same : Function.update realm.players guid none = realm.players := by
      rw [← found, Function.update_eq_self]
    rw [Option.map_none, Option.filter_none, same]
  | some player =>
    rw [Option.map_some]
    by_cases inWorld : player.inWorld = true
    · rw [Option.filter_some_pos inWorld, if_pos inWorld]
    · have same : Function.update realm.players guid (some player) = realm.players := by
        rw [← found, Function.update_eq_self]
      rw [Option.filter_some_neg (Bool.eq_false_of_not_eq_true inWorld), if_neg inWorld, same]

@[simp] theorem onPlayer_guilds : (realm.onPlayer guid change).guilds = realm.guilds := by
  rw [onPlayer_eq]

@[simp] theorem onPlayer_guildMember :
    (realm.onPlayer guid change).guildMember = realm.guildMember := by
  rw [onPlayer_eq]

@[simp] theorem onPlayer_nextGuildId :
    (realm.onPlayer guid change).nextGuildId = realm.nextGuildId := by
  rw [onPlayer_eq]

@[simp] theorem onPlayer_characters :
    (realm.onPlayer guid change).characters = realm.characters := by
  rw [onPlayer_eq]

theorem getPlayer_eq_some {player : Player} :
    realm.getPlayer guid = some player ↔ realm.players guid = some player ∧ player.inWorld := by
  unfold Realm.getPlayer
  rw [Option.filter_eq_some_iff]

theorem onPlayer_forall {property : Nat → Player → Prop}
    (before : ∀ guid player, realm.players guid = some player → property guid player)
    (kept : ∀ player, realm.players guid = some player → player.inWorld = true →
      property guid (change player)) :
    ∀ looked player, (realm.onPlayer guid change).players looked = some player →
      property looked player := by
  intro looked player found
  rw [onPlayer_eq] at found
  dsimp only at found
  by_cases same : looked = guid
  · subst same
    rw [Function.update_self] at found
    obtain ⟨old, connected, rfl⟩ := Option.map_eq_some_iff.mp found
    by_cases inWorld : old.inWorld = true <;> simp_all
  · simp_all

variable (realm guid) in
@[simp] theorem forget_guilds : (realm.forget guid).guilds = realm.guilds :=
  onPlayer_guilds

theorem forget_guildMember :
    (realm.forget guid).guildMember =
      Function.update realm.guildMember (guidLopart guid) none := by
  unfold Realm.forget Realm.deleteRow
  rw [onPlayer_guildMember]

variable (realm guid) in
@[simp] theorem forget_nextGuildId : (realm.forget guid).nextGuildId = realm.nextGuildId :=
  onPlayer_nextGuildId

variable (realm guid) in
theorem foldl_forget_kept {β : Type} (view : Realm → β)
    (kept : ∀ realm guid, view (realm.forget guid) = view realm) (guids : List Nat)
    (realm : Realm) : view (guids.foldl Realm.forget realm) = view realm := by
  induction guids generalizing realm with
  | nil => rfl
  | cons guid rest ih =>
    rw [List.foldl_cons, ih, kept]

theorem disband_guilds (guild : Guild) :
    (disband guild realm).guilds = Function.update realm.guilds guild.id none := by
  unfold disband
  dsimp only
  rw [foldl_forget_kept Realm.guilds forget_guilds]

end Writes

def Guild.rankOf (guild : Guild) (guid : Nat) : Option Nat :=
  (guild.members.find guid).map Member.rankId

structure Edit (before after : Guild) : Prop where
  id : after.id = before.id
  leaderGuid : after.leaderGuid = before.leaderGuid
  rankIds : after.ranks.map RankInfo.rankId = before.ranks.map RankInfo.rankId
  roles : after.rankOf = before.rankOf

theorem Edit.refl (guild : Guild) : Edit guild guild := ⟨rfl, rfl, rfl, rfl⟩

theorem Edit.trans {first second third : Guild} (one : Edit first second)
    (two : Edit second third) : Edit first third :=
  ⟨two.id.trans one.id, two.leaderGuid.trans one.leaderGuid, two.rankIds.trans one.rankIds,
    two.roles.trans one.roles⟩

theorem Edit.ranks_length {before after : Guild} (edit : Edit before after) :
    after.ranks.length = before.ranks.length := by
  have lengths := congrArg List.length edit.rankIds
  rwa [List.length_map, List.length_map] at lengths

section Roles

variable {guild : Guild} {guid rankId : Nat} {member : Member}

theorem rankOf_eq_some {rank : Nat} :
    guild.rankOf guid = some rank ↔
      ∃ member, guild.members.find guid = some member ∧ member.rankId = rank :=
  Option.map_eq_some_iff

theorem rankOf_assign :
    ({ guild with members := guild.members.assign guid member } : Guild).rankOf =
      Function.update guild.rankOf guid (some member.rankId) := by
  funext looked
  unfold Guild.rankOf
  rw [OrdMap.find_assign]
  by_cases same : looked = guid
  · simp_all
  · rw [Function.update_of_ne same, Function.update_of_ne same]

theorem rankOf_erase :
    ({ guild with members := guild.members.erase guid } : Guild).rankOf =
      Function.update guild.rankOf guid none := by
  funext looked
  unfold Guild.rankOf
  rw [OrdMap.find_erase]
  by_cases same : looked = guid
  · simp_all
  · rw [Function.update_of_ne same, Function.update_of_ne same]

theorem rankOf_assign_same {old : Member} (found : guild.members.find guid = some old)
    (same : member.rankId = old.rankId) :
    ({ guild with members := guild.members.assign guid member } : Guild).rankOf = guild.rankOf := by
  rw [rankOf_assign, Function.update_eq_self_iff]
  unfold Guild.rankOf
  rw [found, Option.map_some, same]

theorem modify_rankIds {change : RankInfo → RankInfo} {ranks : List RankInfo}
    (same : ∀ rank, (change rank).rankId = rank.rankId) :
    (ranks.modify rankId change).map RankInfo.rankId = ranks.map RankInfo.rankId := by
  apply List.ext_getElem
  · rw [List.length_map, List.length_map, List.length_modify]
  · grind

theorem onRank_edit {change : RankInfo → RankInfo}
    (same : ∀ rank, (change rank).rankId = rank.rankId) : Edit guild (guild.onRank rankId change) :=
  ⟨rfl, rfl, modify_rankIds same, rfl⟩

theorem onMembersOf_edit {change : Member → Member}
    (same : ∀ member, (change member).rankId = member.rankId) :
    Edit guild (guild.onMembersOf rankId change) := by
  refine ⟨rfl, rfl, rfl, ?_⟩
  funext guid
  unfold Guild.rankOf Guild.onMembersOf
  rw [OrdMap.find_mapValues, Option.map_map]
  congr 1
  funext member
  rw [Function.comp_apply]
  split
  · exact same member
  · rfl

theorem setRankBankMoneyPerDay_edit (guild : Guild) (rankId moneyPerDay : Nat) :
    Edit guild (guild.setRankBankMoneyPerDay rankId moneyPerDay) := by
  unfold Guild.setRankBankMoneyPerDay
  split
  · have times : Edit guild (guild.onMembersOf rankId Member.resetMoneyTime) :=
      onMembersOf_edit fun _ => rfl
    exact times.trans (onRank_edit fun _ => rfl)
  · exact Edit.refl guild

theorem setRankBankTabRightsAndSlots_edit (guild : Guild) (rankId tabId : Nat)
    (rightsAndSlots : BankRightsAndSlots) :
    Edit guild (guild.setRankBankTabRightsAndSlots rankId tabId rightsAndSlots) := by
  unfold Guild.setRankBankTabRightsAndSlots
  split
  · exact Edit.refl guild
  · split
    · have times : Edit guild (guild.onMembersOf rankId Member.resetTabTimes) :=
        onMembersOf_edit fun _ => rfl
      exact times.trans (onRank_edit fun _ => rfl)
    · exact Edit.refl guild

theorem setRankInfo_edit (guild : Guild) (rankId : Nat) (name : String) (rights moneyPerDay : Nat)
    (rightsAndSlots : Nat → BankRightsAndSlots) :
    Edit guild (guild.setRankInfo rankId name rights moneyPerDay rightsAndSlots) := by
  unfold Guild.setRankInfo
  split
  · have tabs : ∀ (tabIds : List Nat) (edited : Guild), Edit guild edited →
        Edit guild (tabIds.foldl (fun guild tabId =>
          guild.setRankBankTabRightsAndSlots rankId tabId (rightsAndSlots tabId)) edited) := by
      intro tabIds
      induction tabIds with
      | nil =>
        simp
      | cons tabId rest ih =>
        intro edited edit
        apply ih
        exact edit.trans (setRankBankTabRightsAndSlots_edit _ _ _ _)
    apply tabs
    have texts : Edit guild
        (guild.onRank rankId fun rank => (rank.setName name).setRights rights) :=
      onRank_edit fun _ => rfl
    exact texts.trans (setRankBankMoneyPerDay_edit _ _ _)
  · exact Edit.refl guild

end Roles

/-- `AddMember` finds that a player is in no guild. -/
def Realm.Guildless (realm : Realm) (guid : Nat) : Prop := realm.guildIdOf guid = 0

def Guild.joiningRank (guild : Guild) (rankId : Nat) : Nat :=
  if rankId = guildRankNone then guild.lowestRankId else rankId

def Player.join (guildId rank : Nat) (player : Player) : Player :=
  { player with guildId := guildId, rank := rank, guildIdInvited := 0 }

section Membership

variable {realm : Realm} {guild : Guild} {guid rankId : Nat} {walk : Walk}

theorem addMember_case {result : Guild × Realm}
    (joined : addMember guid rankId guild realm = some result) :
    ∃ name, realm.Guildless guid ∧
      result =
        ({ guild with
            members := guild.members.assign (guidLopart guid)
              { rankId := guild.joiningRank rankId, name := name } },
          (realm.insertRow (guidLopart guid) ⟨guild.id, guild.joiningRank rankId⟩).onPlayer guid
            (Player.join guild.id (guild.joiningRank rankId))) := by
  unfold addMember at joined
  unfold Realm.Guildless Realm.guildIdOf
  cases found : realm.getPlayer guid with
  | some player =>
    rw [found] at joined
    dsimp only at joined
    by_cases free : player.guildId = 0
    · rw [if_neg (not_not_intro free), Option.some_inj] at joined
      exact ⟨player.name, free, joined.symm⟩
    · simp_all
  | none =>
    rw [found] at joined
    dsimp only at joined
    by_cases free : realm.getGuildIdFromDB guid = 0
    · rw [if_neg (not_not_intro free)] at joined
      split at joined
      · cases joined
      · rename_i name _
        rw [Option.some_inj] at joined
        refine ⟨name, free, ?_⟩
        rw [← joined]
        congr 1
        have absent : (realm.insertRow (guidLopart guid)
            ⟨guild.id, guild.joiningRank rankId⟩).getPlayer guid = none := found
        unfold Realm.onPlayer
        rw [absent]
        rfl
    · simp_all

theorem findNewLeader_mem {lowguid : Nat} {entries : List (Nat × Member)}
    {best : Option (Nat × Member)} {heir : Nat × Member}
    (found : findNewLeader lowguid entries best = some heir) :
    best = some heir ∨ heir ∈ entries ∧ heir.1 ≠ lowguid := by
  induction entries generalizing best with
  | nil => exact Or.inl found
  | cons entry rest ih =>
    have later : ∀ {best}, findNewLeader lowguid rest best = some heir →
        best = some heir ∨ heir ∈ entry :: rest ∧ heir.1 ≠ lowguid := by
      intro best inRest
      exact (ih inRest).imp_right fun mem => ⟨List.mem_cons_of_mem entry mem.1, mem.2⟩
    unfold findNewLeader at found
    split at found
    · exact later found
    · rename_i other
      have taken : findNewLeader lowguid rest (some entry) = some heir →
          best = some heir ∨ heir ∈ entry :: rest ∧ heir.1 ≠ lowguid := by
        intro inRest
        rcases later inRest with same | mem
        · simp_all
        · exact Or.inr mem
      split at found
      · exact taken found
      · grind

theorem findNewLeader_none {lowguid : Nat} {entries : List (Nat × Member)}
    {best : Option (Nat × Member)} (missing : findNewLeader lowguid entries best = none) :
    best = none ∧ ∀ entry ∈ entries, entry.1 = lowguid := by
  induction entries generalizing best with
  | nil =>
    refine ⟨missing, ?_⟩
    intro entry member
    cases member
  | cons entry rest ih =>
    unfold findNewLeader at missing
    split at missing
    · rename_i same
      obtain ⟨none, others⟩ := ih missing
      exact ⟨none, List.forall_mem_cons.mpr ⟨same, others⟩⟩
    · split at missing
      · cases (ih missing).1
      · split at missing <;> cases (ih missing).1

/-- The ways in which a member leaves: the last one disbands the guild, a leader is succeeded
by another member, and anybody else is taken out. -/
inductive Leaving (guid : Nat) (guild : Guild) (realm : Realm) : Realm → Prop
  | disbanded (leads : guild.leaderGuid = guid)
      (alone : ∀ entry ∈ guild.members.entries, entry.1 = guidLopart guid) :
      Leaving guid guild realm (disband guild realm)
  | succeeded {key : Nat} {heir : Member} (leads : guild.leaderGuid = guid)
      (found : guild.members.find key = some heir) (other : key ≠ guidLopart guid) :
      Leaving guid guild realm
        (((setLeaderGUID key heir guild realm).2.forget guid).setGuild
          { (setLeaderGUID key heir guild realm).1 with
            members := (setLeaderGUID key heir guild realm).1.members.erase (guidLopart guid) })
  | left (follows : guild.leaderGuid ≠ guid) :
      Leaving guid guild realm
        ((realm.forget guid).setGuild
          { guild with members := guild.members.erase (guidLopart guid) })

theorem deleteMember_case : Leaving guid guild realm (deleteMember walk guid guild realm) := by
  unfold deleteMember
  by_cases leads : guild.leaderGuid = guid
  · rw [if_pos leads]
    cases chosen : findNewLeader (guidLopart guid) (walk.order guild.members.entries) none with
    | none =>
      apply Leaving.disbanded leads
      intro entry member
      exact (findNewLeader_none chosen).2 entry
        ((walk.perm guild.members.entries).mem_iff.mpr member)
    | some heir =>
      rcases findNewLeader_mem chosen with impossible | ⟨member, other⟩
      · cases impossible
      · have inMap : heir ∈ guild.members.entries :=
          (walk.perm guild.members.entries).mem_iff.mp member
        exact Leaving.succeeded leads (OrdMap.find_eq_some.mpr inMap) other
  · rw [if_neg leads]
    exact Leaving.left leads

theorem changeRank_rankOf {member : Member} {newRank : Nat} :
    (changeRank guid member newRank guild realm).1.rankOf =
      Function.update guild.rankOf guid (some newRank) :=
  rankOf_assign

@[simp] theorem changeRank_guilds {member : Member} {newRank : Nat} :
    (changeRank guid member newRank guild realm).2.guilds = realm.guilds :=
  onPlayer_guilds

end Membership

theorem guidLopart_of_lt {guid : Nat} (low : guid < 2 ^ 32) : guidLopart guid = guid := by
  have noHigh : guid / 2 ^ 48 % 2 ^ 16 = 0 := by omega
  unfold guidLopart isGuidHaveEnPart
  rw [noHigh]
  exact Nat.mod_eq_of_lt low

theorem guidLopart_lt (guid : Nat) : guidLopart guid < 2 ^ 32 := by
  unfold guidLopart
  split <;> omega

@[simp] theorem guidLopart_guidLopart (guid : Nat) :
    guidLopart (guidLopart guid) = guidLopart guid :=
  guidLopart_of_lt (guidLopart_lt guid)

structure Guild.Sound (guild : Guild) : Prop where
  id : 0 < guild.id
  atLeast : guildRanksMinCount ≤ guild.ranks.length
  atMost : guild.ranks.length ≤ guildRanksMaxCount
  held : ∀ guid rank, guild.rankOf guid = some rank →
    guidLopart guid = guid ∧ rank < guildRanksMaxCount

structure Realm.Records (realm : Realm) : Prop where
  players : ∀ guid player, realm.players guid = some player →
    guidLopart guid = guid ∧ player.rank < guildRanksMaxCount
  rows : ∀ guid row, realm.guildMember guid = some row →
    row.guildId ≠ 0 ∧ row.rank < guildRanksMaxCount
  characters : ∀ guid name, realm.characters guid = some name → guid < 2 ^ 32

structure Realm.Sound (realm : Realm) : Prop where
  records : realm.Records
  guilds : ∀ id guild, realm.guilds id = some guild →
    guild.id = id ∧ id < realm.nextGuildId ∧ guild.Sound
  fresh : 0 < realm.nextGuildId

section Bounds

variable {realm : Realm} {guild : Guild} {guid rank : Nat}

theorem Guild.Sound.lowestRankId_eq (sound : guild.Sound) :
    guild.lowestRankId = guild.ranks.length - 1 := by
  have atLeast : 3 ≤ guild.ranks.length := sound.atLeast
  have atMost : guild.ranks.length ≤ 10 := sound.atMost
  unfold Guild.lowestRankId
  omega

theorem Guild.Sound.lowestRankId_lt (sound : guild.Sound) :
    guild.lowestRankId < guild.ranks.length := by
  have atLeast : 3 ≤ guild.ranks.length := sound.atLeast
  have lowest := sound.lowestRankId_eq
  omega

theorem Guild.Sound.lowestRankId_pos (sound : guild.Sound) : 0 < guild.lowestRankId := by
  have atLeast : 3 ≤ guild.ranks.length := sound.atLeast
  have lowest := sound.lowestRankId_eq
  omega

section

variable (records : realm.Records)
include records

theorem records_onPlayer {change : Player → Player}
    (kept : ∀ player, player.rank < guildRanksMaxCount →
      (change player).rank < guildRanksMaxCount) : (realm.onPlayer guid change).Records where
  players := by
    apply onPlayer_forall records.players
    intro player found _
    obtain ⟨low, bounded⟩ := records.players guid player found
    exact ⟨low, kept player bounded⟩
  rows := by
    intro looked row found
    rw [onPlayer_guildMember] at found
    exact records.rows looked row found
  characters := by
    intro looked name found
    rw [onPlayer_characters] at found
    exact records.characters looked name found

theorem records_rows {rows : Nat → Option Row}
    (bounded : ∀ guid row, rows guid = some row → row.guildId ≠ 0 ∧ row.rank < guildRanksMaxCount) :
    ({ realm with guildMember := rows } : Realm).Records :=
  ⟨records.players, bounded, records.characters⟩

theorem records_deleteRow : (realm.deleteRow guid).Records := by
  apply records_rows records
  intro looked row found
  by_cases same : looked = guid
  · simp_all
  · rw [Function.update_of_ne same] at found
    exact records.rows looked row found

theorem records_insertRow {row : Row} (named : row.guildId ≠ 0)
    (bounded : row.rank < guildRanksMaxCount) : (realm.insertRow guid row).Records := by
  apply records_rows records
  intro looked written found
  by_cases same : looked = guid
  · rw [same, Function.update_self, Option.some_inj] at found
    cases old : realm.guildMember guid with
    | none =>
      simp_all
    | some kept =>
      rw [old, Option.getD_some] at found
      exact found ▸ records.rows guid kept old
  · rw [Function.update_of_ne same] at found
    exact records.rows looked written found

theorem records_updateRowRank (bounded : rank < guildRanksMaxCount) :
    (realm.updateRowRank guid rank).Records := by
  apply records_rows records
  intro looked written found
  by_cases same : looked = guid
  · rw [same, Function.update_self] at found
    obtain ⟨old, inTable, rfl⟩ := Option.map_eq_some_iff.mp found
    exact ⟨(records.rows guid old inTable).1, bounded⟩
  · rw [Function.update_of_ne same] at found
    exact records.rows looked written found

theorem records_forget (guid : Nat) : (realm.forget guid).Records := by
  apply records_deleteRow
  apply records_onPlayer records
  intro player _
  exact Nat.zero_lt_succ 9

theorem records_changeRank {member : Member}
    (bounded : rank < guildRanksMaxCount) :
    (changeRank guid member rank guild realm).2.Records := by
  apply records_updateRowRank _ bounded
  apply records_onPlayer records
  intro player _
  exact bounded

theorem records_guilds {guilds : Nat → Option Guild} :
    ({ realm with guilds := guilds } : Realm).Records :=
  ⟨records.players, records.rows, records.characters⟩

theorem records_disband : (disband guild realm).Records := by
  have left : ∀ (guids : List Nat) (realm : Realm), realm.Records →
      (guids.foldl Realm.forget realm).Records := by
    intro guids
    induction guids with
    | nil =>
      simp
    | cons guid rest ih =>
      intro realm records
      exact ih _ (records_forget records guid)
  exact records_guilds (left _ realm records)

theorem records_addMember {rankId : Nat} {result : Guild × Realm}
    (sound : guild.id ≠ 0) (bounded : guild.joiningRank rankId < guildRanksMaxCount)
    (joined : addMember guid rankId guild realm = some result) : result.2.Records := by
  obtain ⟨name, _, rfl⟩ := addMember_case joined
  apply records_onPlayer (records_insertRow records sound bounded)
  intro player _
  exact bounded

end

end Bounds

end DarkCore.Guilds.Roster
