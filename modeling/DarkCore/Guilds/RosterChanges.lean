/-
All the changes of a guild: how a new guild comes about, and what the handlers
can make of a guild that exists before and after a request.
-/

import DarkCore.Guilds.RosterSteps

namespace DarkCore.Guilds.Roster

open Lib Items

/-! ### New guilds -/

structure Reassigned (before : Guild) (leaderGuid : Nat) (roles : Nat → Option Nat)
    (after : Guild) : Prop where
  id : after.id = before.id
  ranks : after.ranks = before.ranks
  leaderGuid : after.leaderGuid = leaderGuid
  roles : after.rankOf = roles

/-- A guild that a player has founded, with others who signed his charter. -/
inductive Founded (actor : Nat) : Guild → Prop
  | founder {guild : Guild} {darkCoreString : Nat → String} (id : 0 < guild.id)
      (low : guidLopart actor = actor)
      (ranks : guild.ranks = createDefaultGuildRanks darkCoreString)
      (leader : guild.leaderGuid = actor)
      (roles : guild.rankOf = Function.update (fun _ => none) (guidLopart actor)
        (some grGuildMaster)) : Founded actor guild
  | signed {before after : Guild} {guid : Nat} (founded : Founded actor before)
      (other : guidLopart guid ≠ guidLopart actor)
      (joined : Reassigned before before.leaderGuid
        (Function.update before.rankOf (guidLopart guid) (some before.lowestRankId)) after) :
      Founded actor after

theorem createDefaultGuildRanks_length (darkCoreString : Nat → String) :
    (createDefaultGuildRanks darkCoreString).length = 5 := rfl

theorem roles_update {property : Nat → Nat → Prop} {roles : Nat → Option Nat} {guid rank : Nat}
    (before : ∀ guid rank, roles guid = some rank → property guid rank)
    (new : property guid rank) : ∀ looked found,
      Function.update roles guid (some rank) looked = some found → property looked found := by
  intro looked found held
  by_cases same : looked = guid <;> simp_all

theorem roles_remove {property : Nat → Nat → Prop} {roles : Nat → Option Nat} {guid : Nat}
    (before : ∀ guid rank, roles guid = some rank → property guid rank) : ∀ looked found,
      Function.update roles guid none looked = some found → property looked found := by
  intro looked found held
  by_cases same : looked = guid <;> simp_all

theorem Reassigned.sound {before after : Guild} {leaderGuid : Nat} {roles : Nat → Option Nat}
    (reassigned : Reassigned before leaderGuid roles after) (sound : before.Sound)
    (held : ∀ guid rank, roles guid = some rank →
      guidLopart guid = guid ∧ rank < guildRanksMaxCount) : after.Sound where
  id := by
    rw [reassigned.id]
    exact sound.id
  atLeast := by
    rw [reassigned.ranks]
    exact sound.atLeast
  atMost := by
    rw [reassigned.ranks]
    exact sound.atMost
  held := by
    rw [reassigned.roles]
    exact held

theorem Guild.Sound.lowestRankId_lt_max {guild : Guild} (sound : guild.Sound) :
    guild.lowestRankId < guildRanksMaxCount :=
  Nat.lt_of_lt_of_le sound.lowestRankId_lt sound.atMost

theorem Founded.sound {actor : Nat} {guild : Guild} (founded : Founded actor guild) :
    guild.Sound := by
  induction founded with
  | founder id low ranks leader roles =>
    refine ⟨id, ?_, ?_, ?_⟩
    · rw [ranks, createDefaultGuildRanks_length]
      decide
    · rw [ranks, createDefaultGuildRanks_length]
      decide
    · rw [roles]
      apply roles_update
      · intro guid rank impossible
        cases impossible
      · exact ⟨guidLopart_guidLopart actor, Nat.zero_lt_succ 9⟩
  | signed founded other joined ih =>
    apply joined.sound ih
    exact roles_update ih.held ⟨guidLopart_guidLopart _, ih.lowestRankId_lt_max⟩

theorem addMember_reassigned {guid rankId : Nat} {guild : Guild} {realm : Realm}
    {result : Guild × Realm} (joined : addMember guid rankId guild realm = some result) :
    Reassigned guild guild.leaderGuid
      (Function.update guild.rankOf (guidLopart guid) (some (guild.joiningRank rankId)))
      result.1 := by
  obtain ⟨name, _, rfl⟩ := addMember_case joined
  exact ⟨rfl, rfl, rfl, rankOf_assign⟩

/-- The founder is known to be in a guild, so he cannot join once more. -/
structure Realm.Engaged (realm : Realm) (actor : Nat) : Prop where
  low : guidLopart actor = actor
  row : ∃ row, realm.guildMember actor = some row
  player : ∀ player, realm.getPlayer actor = some player → player.guildId ≠ 0

theorem Realm.Engaged.other {realm : Realm} {actor guid : Nat} (engaged : realm.Engaged actor)
    (records : realm.Records) (free : realm.Guildless guid) : guidLopart guid ≠ actor := by
  intro same
  unfold Realm.Guildless Realm.guildIdOf at free
  cases found : realm.getPlayer guid with
  | some player =>
    rw [found] at free
    have low := (records.players guid player (getPlayer_eq_some.mp found).1).1
    rw [low] at same
    rw [same] at found
    exact engaged.player player found free
  | none =>
    rw [found] at free
    obtain ⟨row, written⟩ := engaged.row
    unfold Realm.getGuildIdFromDB at free
    rw [same, written] at free
    exact (records.rows actor row written).1 free

theorem Realm.Engaged.addMember {realm : Realm} {actor guid rankId : Nat} {guild : Guild}
    {result : Guild × Realm} (engaged : realm.Engaged actor) (records : realm.Records)
    (joined : addMember guid rankId guild realm = some result) : result.2.Engaged actor := by
  obtain ⟨name, free, rfl⟩ := addMember_case joined
  have other := engaged.other records free
  have different : actor ≠ guid := by
    intro same
    exact other (same ▸ engaged.low)
  refine ⟨engaged.low, ?_, ?_⟩
  · dsimp only
    rw [onPlayer_guildMember]
    unfold Realm.insertRow
    dsimp only
    rw [Function.update_of_ne (Ne.symm other)]
    exact engaged.row
  · intro player found
    rw [getPlayer_eq_some, onPlayer_eq] at found
    dsimp only at found
    rw [Function.update_of_ne different] at found
    exact engaged.player player (getPlayer_eq_some.mpr found)

theorem Realm.Engaged.setGuild {realm : Realm} {actor : Nat} {guild : Guild}
    (engaged : realm.Engaged actor) : (realm.setGuild guild).Engaged actor :=
  ⟨engaged.low, engaged.row, engaged.player⟩

theorem addMember_engages {realm : Realm} {actor rankId : Nat} {guild : Guild}
    {result : Guild × Realm} (named : guild.id ≠ 0) (low : guidLopart actor = actor)
    (joined : Roster.addMember actor rankId guild realm = some result) :
    result.2.Engaged actor := by
  obtain ⟨name, _, rfl⟩ := addMember_case joined
  refine ⟨low, ?_, ?_⟩
  · dsimp only
    rw [onPlayer_guildMember, low]
    exact ⟨_, Function.update_self _ _ _⟩
  · intro player found
    rw [getPlayer_eq_some, onPlayer_eq] at found
    dsimp only at found
    obtain ⟨connected, entered⟩ := found
    rw [Function.update_self] at connected
    obtain ⟨old, oldConnected, rfl⟩ := Option.map_eq_some_iff.mp connected
    by_cases oldEntered : old.inWorld = true
    · rw [if_pos oldEntered]
      exact named
    · simp_all

structure Founding (actor guildId : Nat) (before after : Realm) : Prop where
  records : after.Records
  nextGuildId : after.nextGuildId = before.nextGuildId
  guilds : ∃ guild, after.guilds = Function.update before.guilds guildId (some guild) ∧
    guild.id = guildId ∧ Founded actor guild

theorem addMember_frame {guid rankId : Nat} {guild : Guild} {realm : Realm}
    {result : Guild × Realm} (joined : addMember guid rankId guild realm = some result) :
    result.2.guilds = realm.guilds ∧ result.2.nextGuildId = realm.nextGuildId := by
  obtain ⟨name, _, rfl⟩ := addMember_case joined
  exact ⟨onPlayer_guilds, onPlayer_nextGuildId⟩

theorem addSigners_founding {actor guildId : Nat} (signers : List Nat) {realm : Realm}
    {guild : Guild} (records : realm.Records) (engaged : realm.Engaged actor)
    (found : realm.guilds guildId = some guild) (named : guild.id = guildId)
    (founded : Founded actor guild) :
    Founding actor guildId realm (addSigners guildId signers realm) := by
  induction signers generalizing realm guild with
  | nil =>
    refine ⟨records, rfl, guild, ?_, named, founded⟩
    rw [← found, Function.update_eq_self]
    rfl
  | cons guid rest ih =>
    unfold addSigners
    rw [found]
    dsimp only
    cases joined : addMember guid guildRankNone guild realm with
    | none => exact ih records engaged found named founded
    | some result =>
      obtain ⟨grown, written⟩ := result
      dsimp only
      obtain ⟨name, free, _⟩ := addMember_case joined
      have reassigned := addMember_reassigned joined
      have sound := founded.sound
      have other := engaged.other records free
      rw [← engaged.low] at other
      have grownFounded : Founded actor grown := Founded.signed founded other reassigned
      have grownNamed : grown.id = guildId := reassigned.id.trans named
      have bounded : guild.joiningRank guildRankNone < guildRanksMaxCount :=
        sound.lowestRankId_lt_max
      have recorded := records_addMember records (Nat.ne_of_gt sound.id) bounded joined
      obtain ⟨sameGuilds, sameNext⟩ := addMember_frame joined
      have stored : (written.setGuild grown).guilds guildId = some grown := by
        simp [Realm.setGuild, grownNamed]
      have engagedStill := engaged.addMember records joined
      obtain ⟨lastRecords, lastNext, last, lastGuilds, lastNamed, lastFounded⟩ :=
        @ih (written.setGuild grown) grown (records_guilds recorded) engagedStill.setGuild
          stored grownNamed grownFounded
      refine ⟨lastRecords, lastNext.trans sameNext, last, ?_, lastNamed, lastFounded⟩
      rw [lastGuilds]
      unfold Realm.setGuild
      rw [sameGuilds, grownNamed, Function.update_idem]

theorem create_founding {actor : Nat} {name : String} {signers : List Nat} {realm : Realm}
    {player : Player} (sound : realm.Sound) (inWorld : realm.getPlayer actor = some player)
    (free : player.guildId = 0) :
    create actor name signers realm = realm ∨
      Founding actor realm.nextGuildId { realm with nextGuildId := realm.nextGuildId + 1 }
        (create actor name signers realm) := by
  unfold create
  split
  · exact Or.inl rfl
  · right
    dsimp only
    have low := (sound.records.players actor player (getPlayer_eq_some.mp inWorld).1).1
    cases joined : addMember actor grGuildMaster _ _ with
    | none =>
      unfold addMember at joined
      have numberedPlayer : ({ realm with nextGuildId := realm.nextGuildId + 1 } :
          Realm).getPlayer actor = some player := inWorld
      rw [numberedPlayer] at joined
      dsimp only at joined
      rw [if_neg (not_not_intro free)] at joined
      cases joined
    | some result =>
      obtain ⟨guild, written⟩ := result
      dsimp only
      have numbered : ({ realm with nextGuildId := realm.nextGuildId + 1 } : Realm).Records :=
        ⟨sound.records.players, sound.records.rows, sound.records.characters⟩
      have reassigned := addMember_reassigned joined
      obtain ⟨sameGuilds, sameNext⟩ := addMember_frame joined
      have named : guild.id = realm.nextGuildId := reassigned.id
      have founded : Founded actor guild := by
        apply Founded.founder
        · rw [named]
          exact sound.fresh
        · exact low
        · exact reassigned.ranks
        · exact reassigned.leaderGuid
        · exact reassigned.roles
      have bounded : ∀ guild : Guild, guild.joiningRank grGuildMaster < guildRanksMaxCount := by
        intro guild
        exact Nat.zero_lt_succ 9
      have recorded := records_addMember numbered (Nat.ne_of_gt sound.fresh) (bounded _) joined
      have stored : (written.setGuild guild).guilds guild.id = some guild :=
        Function.update_self _ _ _
      have engaged : written.Engaged actor :=
        addMember_engages (Nat.ne_of_gt sound.fresh) low joined
      obtain ⟨lastRecords, lastNext, last, lastGuilds, lastNamed, lastFounded⟩ :=
        addSigners_founding signers (records_guilds recorded) engaged.setGuild stored rfl founded
      refine ⟨lastRecords, lastNext.trans sameNext, last, ?_, lastNamed.trans named, lastFounded⟩
      apply lastGuilds.trans
      rw [sameGuilds, named, Function.update_idem]

/-! ### Guilds that exist -/

structure Acting (realm : Realm) (actor : Nat) (player : Player) (guild : Guild) : Prop where
  inWorld : realm.getPlayer actor = some player
  guild : realm.getPlayerGuild player = some guild

/-- What a packet that has passed the checks of `HandleGuildRankOpcode` makes of a guild. -/
def Guild.afterRankPacket (actor : Nat) (packet : RankPacket) (guild : Guild) : Guild :=
  let edited := handleSetRankInfo actor guild (packet.newRankId % 256) packet.rankName
    packet.newRights packet.money fun tabId =>
      ⟨packet.bankRights tabId % 256, packet.bankStacks tabId⟩
  if switches packet.oldRankId packet.newRankId then
    { edited with ranks := switchRank packet.oldRankId packet.newRankId edited.ranks }
  else edited

def Guild.afterPurchase (rankId tabId : Nat) (guild : Guild) : Guild :=
  (({ guild with purchasedTabs := guild.purchasedTabs + 1 } : Guild).setRankBankMoneyPerDay
    rankId guildWithdrawMoneyUnlimited).setRankBankTabRightsAndSlots rankId tabId
      ⟨guildBankRightFull, guildWithdrawSlotUnlimited⟩

theorem handleSetRankInfo_edit (guild : Guild) (actor rankId : Nat) (name : String)
    (rights moneyPerDay : Nat) (rightsAndSlots : Nat → BankRightsAndSlots) :
    Edit guild (handleSetRankInfo actor guild rankId name rights moneyPerDay rightsAndSlots) := by
  unfold handleSetRankInfo
  split
  · exact setRankInfo_edit _ _ _ _ _ _
  · exact Edit.refl guild

section

variable (guild : Guild) (actor : Nat) (packet : RankPacket)
include guild actor packet

theorem afterRankPacket_id :
    (guild.afterRankPacket actor packet).id = guild.id := by
  unfold Guild.afterRankPacket
  split <;> exact (handleSetRankInfo_edit _ _ _ _ _ _ _).id

theorem afterRankPacket_rankOf :
    (guild.afterRankPacket actor packet).rankOf = guild.rankOf := by
  unfold Guild.afterRankPacket
  split <;> exact (handleSetRankInfo_edit _ _ _ _ _ _ _).roles

theorem afterRankPacket_leaderGuid :
    (guild.afterRankPacket actor packet).leaderGuid = guild.leaderGuid := by
  unfold Guild.afterRankPacket
  split <;> exact (handleSetRankInfo_edit _ _ _ _ _ _ _).leaderGuid

end

theorem afterPurchase_edit (guild : Guild) (rankId tabId : Nat) :
    Edit guild (guild.afterPurchase rankId tabId) := by
  have tabs : Edit guild { guild with purchasedTabs := guild.purchasedTabs + 1 } :=
    ⟨rfl, rfl, rfl, rfl⟩
  apply Edit.trans _ (setRankBankTabRightsAndSlots_edit _ _ _ _)
  exact tabs.trans (setRankBankMoneyPerDay_edit _ _ _)

inductive Change (realm : Realm) : Event → Guild → Guild → Prop
  | edited {event : Event} {before after : Guild} (edit : Edit before after)
      (ranks : after.ranks = before.ranks) : Change realm event before after
  | ranked {actor : Nat} {walk : Walk} {player : Player} {packet : RankPacket} {before : Guild}
      (acting : Acting realm actor player before) (sender : actor = packet.playerGuid)
      (own : player.guildId = guidLopart packet.guildGuid)
      (notMaster : packet.oldRankId ≠ grGuildMaster) :
      Change realm (.request actor walk (.rank packet)) before
        (before.afterRankPacket actor packet)
  | bought {actor : Nat} {walk : Walk} {player : Player} {tabId : Nat} {before : Guild}
      (acting : Acting realm actor player before) (following : tabId = before.purchasedTabs)
      (priced : getGuildBankTabPrice tabId ≠ 0) (room : before.purchasedTabs < guildBankMaxTabs) :
      Change realm (.request actor walk (.buyTab tabId true)) before
        (before.afterPurchase player.rank tabId)
  | rankAdded {actor : Nat} {walk : Walk} {player : Player} {before : Guild}
      (acting : Acting realm actor player before) (leads : before.isLeader actor = true)
      (room : before.ranks.length < guildRanksMaxCount) :
      Change realm (.request actor walk .addRank) before
        { before with
          ranks := createRank "New Rank" (grRightGchatlisten ||| grRightGchatspeak) before.ranks }
  | rankRemoved {actor : Nat} {walk : Walk} {player : Player} {rankId : Nat} {before : Guild}
      (acting : Acting realm actor player before) (leads : before.isLeader actor = true)
      (many : guildRanksMinCount < before.ranks.length)
      (inTable : rankId % 256 < before.ranks.length) :
      Change realm (.request actor walk (.delRank rankId)) before
        { before with ranks := before.ranks.eraseIdx (rankId % 256) }
  | joined {actor : Nat} {walk : Walk} {player : Player} {before after : Guild}
      (inWorld : realm.getPlayer actor = some player) (free : player.guildId = 0)
      (invited : realm.guilds player.guildIdInvited = some before)
      (reassigned : Reassigned before before.leaderGuid
        (Function.update before.rankOf (guidLopart actor) (some before.lowestRankId)) after) :
      Change realm (.request actor walk (.accept true)) before after
  | left {event : Event} {lowguid : Nat} {before after : Guild}
      (follows : lowguid = before.leaderGuid → before.rankOf lowguid ≠ some grGuildMaster)
      (reassigned : Reassigned before before.leaderGuid
        (Function.update before.rankOf lowguid none) after) :
      Change realm event before after
  | succeeded {event : Event} {key rank : Nat} {before after : Guild}
      (heir : before.rankOf key = some rank) (other : key ≠ guidLopart before.leaderGuid)
      (reassigned : Reassigned before key
        (Function.update (Function.update before.rankOf key (some grGuildMaster))
          (guidLopart before.leaderGuid) none) after) :
      Change realm event before after
  | promoted {actor : Nat} {walk : Walk} {player : Player} {guid rank : Nat}
      {before after : Guild} (acting : Acting realm actor player before)
      (found : before.rankOf (guidLopart guid) = some rank)
      (below : (player.rank + 1) % 256 < rank)
      (reassigned : Reassigned before before.leaderGuid
        (Function.update before.rankOf (guidLopart guid) (some ((rank + 255) % 256))) after) :
      Change realm (.request actor walk (.promote guid)) before after
  | demoted {actor : Nat} {walk : Walk} {player : Player} {guid rank : Nat}
      {before after : Guild} (acting : Acting realm actor player before)
      (found : before.rankOf (guidLopart guid) = some rank)
      (below : player.rank < rank) (above : rank < before.lowestRankId)
      (reassigned : Reassigned before before.leaderGuid
        (Function.update before.rankOf (guidLopart guid) (some ((rank + 1) % 256))) after) :
      Change realm (.request actor walk (.demote guid)) before after
  | led {actor : Nat} {walk : Walk} {player : Player} {name : String} {guid : Nat}
      {newLeader : Member} {before after : Guild} (acting : Acting realm actor player before)
      (leads : before.isLeader actor = true)
      (named : before.getMemberNamed walk name = some (guid, newLeader))
      (found : before.rankOf guid = some newLeader.rankId)
      (reassigned : Reassigned before guid
        (Function.update (Function.update before.rankOf guid (some grGuildMaster))
          (guidLopart actor) (some grOfficer)) after) :
      Change realm (.request actor walk (.setLeader name)) before after

def Changed (realm : Realm) (event : Event) (id : Nat) (after : Guild) : Prop :=
  ∃ before, realm.guilds id = some before ∧ Change realm event before after

section Changes

variable {realm rest : Realm} {event : Event} {id : Nat} {before after edited : Guild}

theorem Change.id_eq (change : Change realm event before after) : after.id = before.id := by
  cases change with
  | edited edit ranks => exact edit.id
  | ranked acting sender own notMaster => exact afterRankPacket_id _ _ _
  | bought acting following priced room => exact (afterPurchase_edit _ _ _).id
  | rankAdded acting leads room => rfl
  | rankRemoved acting leads many inTable => rfl
  | joined inWorld free invited reassigned => exact reassigned.id
  | left follows reassigned => exact reassigned.id
  | succeeded heir other reassigned => exact reassigned.id
  | promoted acting found below reassigned => exact reassigned.id
  | demoted acting found below above reassigned => exact reassigned.id
  | led acting leads named found reassigned => exact reassigned.id

theorem changed_refl (found : realm.guilds id = some after) : Changed realm event id after :=
  ⟨after, found, Change.edited (Edit.refl after) rfl⟩

theorem changed_setGuild (sameGuilds : rest.guilds = realm.guilds)
    (stored : realm.guilds before.id = some before)
    (found : (rest.setGuild edited).guilds id = some after)
    (change : Change realm event before edited) : Changed realm event id after := by
  unfold Realm.setGuild at found
  dsimp only at found
  rw [sameGuilds, change.id_eq] at found
  by_cases same : id = before.id
  · rw [same, Function.update_self, Option.some_inj] at found
    exact ⟨before, same ▸ stored, found ▸ change⟩
  · rw [Function.update_of_ne same] at found
    exact changed_refl found

theorem changed_disband (sameGuilds : (disband before rest).guilds id = some after)
    (frame : rest.guilds = realm.guilds) : Changed realm event id after := by
  rw [disband_guilds, frame] at sameGuilds
  by_cases same : id = before.id
  · simp_all
  · rw [Function.update_of_ne same] at sameGuilds
    exact changed_refl sameGuilds

end Changes

/-! ### Handlers -/

section Handlers

variable {realm : Realm} {event : Event} {id actor guid : Nat} {player : Player}
variable {guild after : Guild} {walk : Walk}

theorem changed_deleteMember (stored : realm.guilds guild.id = some guild)
    (follows : guidLopart guid = guild.leaderGuid → guild.leaderGuid ≠ guid →
      guild.rankOf (guidLopart guid) ≠ some grGuildMaster)
    (found : (deleteMember walk guid guild realm).guilds id = some after) :
    Changed realm event id after := by
  have leaving := @deleteMember_case realm guild guid walk
  generalize deleteMember walk guid guild realm = result at leaving found
  cases leaving with
  | disbanded leads alone => exact changed_disband found rfl
  | @succeeded key heir leads inMap other =>
    refine changed_setGuild ?_ stored found ?_
    · rw [forget_guilds]
      exact changeRank_guilds
    · have heirRank : guild.rankOf key = some heir.rankId := by
        grind [rankOf_eq_some]
      apply Change.succeeded heirRank
      · simp_all
      · refine ⟨rfl, rfl, rfl, ?_⟩
        rw [rankOf_erase, leads]
        congr 1
        exact rankOf_assign
  | left leader =>
    refine changed_setGuild ?_ stored found ?_
    · exact forget_guilds realm guid
    · apply Change.left
      · intro same
        exact follows same leader
      · exact ⟨rfl, rfl, rfl, rankOf_erase⟩

/-- A handler that writes a guild with its members as they were, or nothing at all. -/
inductive Touched (realm : Realm) (event : Event) (guild : Guild) : Realm → Prop
  | nothing : Touched realm event guild realm
  | written {edited : Guild} {rest : Realm} (change : Change realm event guild edited)
      (roles : edited.rankOf = guild.rankOf)
      (guilds : rest.guilds = (realm.setGuild edited).guilds)
      (players : rest.players = realm.players) (guildMember : rest.guildMember = realm.guildMember)
      (characters : rest.characters = realm.characters)
      (nextGuildId : rest.nextGuildId = realm.nextGuildId) : Touched realm event guild rest

theorem touched_setGuild {edited : Guild} (change : Change realm event guild edited)
    (roles : edited.rankOf = guild.rankOf) :
    Touched realm event guild (realm.setGuild edited) :=
  Touched.written change roles rfl rfl rfl rfl rfl

theorem touched_edit {edited : Guild} (edit : Edit guild edited)
    (ranks : edited.ranks = guild.ranks) : Touched realm event guild (realm.setGuild edited) :=
  touched_setGuild (Change.edited edit ranks) edit.roles

theorem Touched.changed {rest : Realm} (touched : Touched realm event guild rest)
    (stored : realm.guilds guild.id = some guild) (found : rest.guilds id = some after) :
    Changed realm event id after := by
  cases touched with
  | nothing => exact changed_refl found
  | written change roles guilds players guildMember characters nextGuildId =>
    rw [guilds] at found
    exact changed_setGuild rfl stored found change

theorem touched_handleSetMOTD {motd : String} :
    Touched realm event guild (handleSetMOTD player guild realm motd) := by
  unfold handleSetMOTD
  split
  · exact Touched.nothing
  · split
    · exact touched_edit ⟨rfl, rfl, rfl, rfl⟩ rfl
    · exact Touched.nothing

theorem touched_handleSetInfo {info : String} :
    Touched realm event guild (handleSetInfo player guild realm info) := by
  unfold handleSetInfo
  split
  · exact Touched.nothing
  · split
    · exact touched_edit ⟨rfl, rfl, rfl, rfl⟩ rfl
    · exact Touched.nothing

theorem touched_handleSetMemberNote {note : String} {officer : Bool} :
    Touched realm event guild (handleSetMemberNote player guild realm guid note officer) := by
  unfold handleSetMemberNote
  by_cases permitted :
      guild.hasRankRight player (if officer then grRightEoffnote else grRightEpnote) = true
  · rw [if_pos permitted]
    cases inMap : guild.getMember guid with
    | none => exact Touched.nothing
    | some member =>
      have same : (if officer then { member with officerNote := note }
          else { member with publicNote := note } : Member).rankId = member.rankId := by
        grind
      exact touched_edit ⟨rfl, rfl, rfl, rankOf_assign_same inMap same⟩ rfl
  · rw [if_neg permitted]
    exact Touched.nothing

theorem handleInviteMember_guilds {invitee : Nat} {agreeable : Bool} :
    (handleInviteMember player guild realm invitee agreeable).guilds = realm.guilds := by
  unfold handleInviteMember
  repeat' split
  all_goals first
    | rfl
    | exact onPlayer_guilds

theorem changed_handleLeaveMember (stored : realm.guilds guild.id = some guild)
    (low : guidLopart actor = actor)
    (found : (handleLeaveMember actor guild realm walk).guilds id = some after) :
    Changed realm event id after := by
  unfold handleLeaveMember at found
  split at found
  · split at found
    · exact changed_refl found
    · exact changed_disband found rfl
  · apply changed_deleteMember stored _ found
    intro same different
    exact absurd (same.symm.trans low) different

theorem changed_handleRemoveMember (stored : realm.guilds guild.id = some guild)
    (found : (handleRemoveMember player guild realm walk guid).guilds id = some after) :
    Changed realm event id after := by
  unfold handleRemoveMember at found
  split at found
  · split at found
    · exact changed_refl found
    · rename_i member inMap
      split at found
      · exact changed_refl found
      · rename_i notMaster
        split at found
        · exact changed_refl found
        · apply changed_deleteMember stored _ found
          intro _ _ master
          obtain ⟨held, inGuild, zero⟩ := rankOf_eq_some.mp master
          have same := Option.some.inj (inMap.symm.trans inGuild)
          exact notMaster (same ▸ zero)
  · exact changed_refl found

theorem changed_handleDisband (found : (handleDisband actor guild realm).guilds id = some after) :
    Changed realm event id after := by
  unfold handleDisband at found
  split at found
  · exact changed_disband found rfl
  · exact changed_refl found

theorem handleUpdateMemberRank_case {demote : Bool} :
    handleUpdateMemberRank actor player guild realm guid demote = realm ∨
      ∃ member rank, guild.getMember guid = some member ∧
        (if demote then player.rank < member.rankId ∧ member.rankId < guild.lowestRankId ∧
            rank = (member.rankId + 1) % 256
        else (player.rank + 1) % 256 < member.rankId ∧ rank = (member.rankId + 255) % 256) ∧
        handleUpdateMemberRank actor player guild realm guid demote =
          (changeRank (guidLopart guid) member rank guild realm).2.setGuild
            (changeRank (guidLopart guid) member rank guild realm).1 := by
  unfold handleUpdateMemberRank
  by_cases permitted :
      guild.hasRankRight player (if demote then grRightDemote else grRightPromote) = true
  · rw [if_pos permitted]
    cases inMap : guild.getMember guid with
    | none => exact Or.inl rfl
    | some member =>
      dsimp only
      split
      · exact Or.inl rfl
      · cases demote with
        | true =>
          simp only [if_true]
          split
          · exact Or.inl rfl
          · rename_i within
            obtain ⟨below, above⟩ := not_or.mp within
            exact Or.inr ⟨member, _, rfl,
              ⟨Nat.lt_of_not_le below, Nat.lt_of_not_le above, rfl⟩, rfl⟩
        | false =>
          grind
  · simp_all

theorem changed_handlePromote (acting : Acting realm actor player guild)
    (stored : realm.guilds guild.id = some guild)
    (found : (handleUpdateMemberRank actor player guild realm guid false).guilds id = some after) :
    Changed realm (.request actor walk (.promote guid)) id after := by
  rcases @handleUpdateMemberRank_case realm actor guid player guild false with
    refused | ⟨member, rank, inMap, ⟨below, rfl⟩, eq⟩
  · rw [refused] at found
    exact changed_refl found
  · rw [eq] at found
    apply changed_setGuild changeRank_guilds stored found
    apply Change.promoted acting (rankOf_eq_some.mpr ⟨member, inMap, rfl⟩) below
    exact ⟨rfl, rfl, rfl, changeRank_rankOf⟩

theorem changed_handleDemote (acting : Acting realm actor player guild)
    (stored : realm.guilds guild.id = some guild)
    (found : (handleUpdateMemberRank actor player guild realm guid true).guilds id = some after) :
    Changed realm (.request actor walk (.demote guid)) id after := by
  rcases @handleUpdateMemberRank_case realm actor guid player guild true with
    refused | ⟨member, rank, inMap, ⟨below, above, rfl⟩, eq⟩
  · rw [refused] at found
    exact changed_refl found
  · rw [eq] at found
    apply changed_setGuild changeRank_guilds stored found
    apply Change.demoted acting (rankOf_eq_some.mpr ⟨member, inMap, rfl⟩) below above
    exact ⟨rfl, rfl, rfl, changeRank_rankOf⟩

theorem getMemberNamed_find {name : String} {member : Member}
    (named : guild.getMemberNamed walk name = some (guid, member)) :
    guild.members.find guid = some member := by
  have inOrder := List.mem_of_find?_eq_some named
  exact OrdMap.find_eq_some.mpr ((walk.perm guild.members.entries).mem_iff.mp inOrder)

theorem handleSetLeader_case {name : String} :
    handleSetLeader actor guild realm walk name = realm ∨
      ∃ guid newLeader oldLeader, guild.isLeader actor = true ∧
        guild.getMemberNamed walk name = some (guid, newLeader) ∧
        (setLeaderGUID guid newLeader guild realm).1.getMember actor = some oldLeader ∧
        handleSetLeader actor guild realm walk name =
          (changeRank (guidLopart actor) oldLeader grOfficer
            (setLeaderGUID guid newLeader guild realm).1
            (setLeaderGUID guid newLeader guild realm).2).2.setGuild
          (changeRank (guidLopart actor) oldLeader grOfficer
            (setLeaderGUID guid newLeader guild realm).1
            (setLeaderGUID guid newLeader guild realm).2).1 := by
  unfold handleSetLeader
  split
  · rename_i leads
    split
    · exact Or.inl rfl
    · rename_i oldLeader wasMember
      split
      · exact Or.inl rfl
      · rename_i guid newLeader named
        dsimp only
        split
        · rename_i gone
          exfalso
          unfold setLeaderGUID changeRank Guild.getMember at gone
          rw [OrdMap.find_assign] at gone
          by_cases same : guidLopart actor = guid
          · simp_all
          · rw [Function.update_of_ne same] at gone
            exact absurd (wasMember.symm.trans gone) (Option.some_ne_none _)
        · simp_all
  · exact Or.inl rfl

section

variable (acting : Acting realm actor player guild)
include acting

theorem changed_handleSetLeader {name : String} (stored : realm.guilds guild.id = some guild)
    (found : (handleSetLeader actor guild realm walk name).guilds id = some after) :
    Changed realm (.request actor walk (.setLeader name)) id after := by
  rcases @handleSetLeader_case realm actor guild walk name with
    refused | ⟨guid, newLeader, oldLeader, leads, named, still, eq⟩
  · rw [refused] at found
    exact changed_refl found
  · rw [eq] at found
    have inMap := getMemberNamed_find named
    apply changed_setGuild (changeRank_guilds.trans changeRank_guilds) stored found
    apply Change.led acting leads named (rankOf_eq_some.mpr ⟨newLeader, inMap, rfl⟩)
    refine ⟨rfl, rfl, rfl, ?_⟩
    rw [changeRank_rankOf]
    congr 1
    exact changeRank_rankOf

theorem touched_handleAddNewRank :
    Touched realm (.request actor walk .addRank) guild
      (handleAddNewRank actor guild realm "New Rank") := by
  unfold handleAddNewRank
  split
  · exact Touched.nothing
  · rename_i room
    split
    · rename_i leads
      exact touched_setGuild (Change.rankAdded acting leads (Nat.lt_of_not_le room)) rfl
    · exact Touched.nothing

theorem touched_handleRemoveRank {rankId : Nat} :
    Touched realm (.request actor walk (.delRank rankId)) guild
      (handleRemoveRank actor guild realm (rankId % 256)) := by
  unfold handleRemoveRank
  split
  · exact Touched.nothing
  · rename_i within
    obtain ⟨many, inTable⟩ := not_or.mp within
    split
    · rename_i leads
      exact touched_setGuild
        (Change.rankRemoved acting leads (Nat.lt_of_not_le many) (Nat.lt_of_not_le inTable)) rfl
    · exact Touched.nothing

theorem touched_handleBuyBankTab {tabId : Nat} {affordable : Bool} :
    Touched realm (.request actor walk (.buyTab tabId affordable)) guild
      (handleBuyBankTab player guild realm tabId affordable) := by
  unfold handleBuyBankTab
  split
  · exact Touched.nothing
  · rename_i following
    split
    · exact Touched.nothing
    · rename_i priced
      split
      · exact Touched.nothing
      · rename_i paid
        split
        · exact Touched.nothing
        · rename_i room
          have afforded : affordable = true := Bool.eq_true_of_not_eq_false paid
          subst afforded
          exact touched_setGuild (Change.bought acting (Decidable.not_not.mp following) priced
            (Nat.lt_of_not_le room)) (afterPurchase_edit guild player.rank tabId).roles

end

theorem getMemberRemainingMoney_edit (guild : Guild) (now guid : Nat) :
    Edit guild (guild.getMemberRemainingMoney now guid).2 ∧
      (guild.getMemberRemainingMoney now guid).2.ranks = guild.ranks := by
  unfold Guild.getMemberRemainingMoney
  split
  · exact ⟨Edit.refl guild, rfl⟩
  · rename_i member inMap
    split
    · exact ⟨Edit.refl guild, rfl⟩
    · split
      · exact ⟨⟨rfl, rfl, rfl, rankOf_assign_same inMap rfl⟩, rfl⟩
      · exact ⟨Edit.refl guild, rfl⟩

theorem decreaseMoney_edit (guild : Guild) (guid amount : Nat) :
    Edit guild (guild.decreaseMoney guid amount) ∧
      (guild.decreaseMoney guid amount).ranks = guild.ranks := by
  unfold Guild.decreaseMoney
  split
  · exact ⟨Edit.refl guild, rfl⟩
  · rename_i member inMap
    exact ⟨⟨rfl, rfl, rfl, rankOf_assign_same inMap rfl⟩, rfl⟩

theorem afterMove_edit (guild : Guild) (actor : Nat) (bankItems : Nat × Nat → Option Item)
    (bankRemaining : Nat → RemainingValue) :
    Edit guild (guild.afterMove actor bankItems bankRemaining) := by
  refine ⟨rfl, rfl, rfl, ?_⟩
  unfold Guild.afterMove
  cases inMap : guild.members.find actor with
  | none => rfl
  | some member => exact rankOf_assign_same inMap rfl

theorem touched_handleMemberDepositMoney {amount : Nat} :
    Touched realm event guild (handleMemberDepositMoney guild realm amount) := by
  unfold handleMemberDepositMoney
  split
  · exact Touched.nothing
  · exact touched_edit ⟨rfl, rfl, rfl, rfl⟩ rfl

theorem touched_handleMemberWithdrawMoney {now amount : Nat} {repair : Bool} :
    Touched realm event guild
      (handleMemberWithdrawMoney actor player guild realm now amount repair) := by
  obtain ⟨renewedEdit, renewedRanks⟩ := getMemberRemainingMoney_edit guild now actor
  unfold handleMemberWithdrawMoney
  by_cases noTabs : guild.purchasedTabs = 0
  · rw [if_pos noTabs]
    exact Touched.nothing
  · rw [if_neg noTabs]
    by_cases short : guild.bankMoney < amount
    · rw [if_pos short]
      exact Touched.nothing
    · rw [if_neg short]
      by_cases permitted : guild.hasRankRight player
          (if repair then grRightWithdrawRepair else grRightWithdrawGold) = true
      · rw [if_pos permitted]
        dsimp only
        split
        · exact touched_edit renewedEdit renewedRanks
        · have paid : Edit guild (if (guild.getMemberRemainingMoney now actor).1 <
                guildWithdrawMoneyUnlimited then
              (guild.getMemberRemainingMoney now actor).2.decreaseMoney actor amount
            else (guild.getMemberRemainingMoney now actor).2) ∧
              (if (guild.getMemberRemainingMoney now actor).1 < guildWithdrawMoneyUnlimited then
                (guild.getMemberRemainingMoney now actor).2.decreaseMoney actor amount
              else (guild.getMemberRemainingMoney now actor).2).ranks = guild.ranks := by
            split
            · obtain ⟨paidEdit, paidRanks⟩ :=
                decreaseMoney_edit (guild.getMemberRemainingMoney now actor).2 actor amount
              exact ⟨renewedEdit.trans paidEdit, paidRanks.trans renewedRanks⟩
            · exact ⟨renewedEdit, renewedRanks⟩
          exact touched_edit ⟨paid.1.id, paid.1.leaderGuid, paid.1.rankIds, paid.1.roles⟩ paid.2
      · rw [if_neg permitted]
        exact Touched.nothing

theorem touched_swapBankItems {store : ItemStore}
    {now tabId slotId destTabId destSlotId splitedAmount : Nat} :
    Touched realm event guild (swapBankItems actor guild realm store now tabId slotId destTabId
      destSlotId splitedAmount) := by
  unfold swapBankItems
  dsimp only
  split
  · exact Touched.nothing
  · have edit := afterMove_edit guild actor
    exact Touched.written (Change.edited (edit _ _) rfl) (edit _ _).roles rfl rfl rfl rfl rfl

theorem changed_handleAcceptMember {allied : Bool} (inWorld : realm.getPlayer actor = some player)
    (free : player.guildId = 0) (invited : realm.guilds player.guildIdInvited = some guild)
    (stored : realm.guilds guild.id = some guild)
    (found : (handleAcceptMember actor guild realm allied).guilds id = some after) :
    Changed realm (.request actor walk (.accept allied)) id after := by
  unfold handleAcceptMember at found
  split at found
  · rename_i isAllied
    subst isAllied
    split at found
    · exact changed_refl found
    · rename_i grown written joined
      have reassigned := addMember_reassigned joined
      exact changed_setGuild (addMember_frame joined).1 stored found
        (Change.joined inWorld free invited reassigned)
  · exact changed_refl found

theorem Realm.Sound.guild_stored (sound : realm.Sound)
    (served : realm.getPlayerGuild player = some guild) :
    realm.guilds guild.id = some guild ∧ guild.id = player.guildId ∧ guild.Sound := by
  unfold Realm.getPlayerGuild at served
  split at served
  · cases served
  · obtain ⟨named, _, sane⟩ := sound.guilds player.guildId guild served
    exact ⟨named ▸ served, named, sane⟩

theorem handleGuildRank_case {packet : RankPacket} (inWorld : realm.getPlayer actor = some player) :
    handleGuildRank actor player packet realm = realm ∨
      ∃ guild, realm.getPlayerGuild player = some guild ∧
        Touched realm (.request actor walk (.rank packet)) guild
          (handleGuildRank actor player packet realm) := by
  unfold handleGuildRank
  split
  · exact Or.inl rfl
  · rename_i sender
    split
    · exact Or.inl rfl
    · rename_i own
      split
      · exact Or.inl rfl
      · rename_i guild served
        split
        · exact Or.inl rfl
        · rename_i notMaster
          have written := @touched_setGuild realm (.request actor walk (.rank packet)) guild
            (guild.afterRankPacket actor packet)
            (Change.ranked ⟨inWorld, served⟩ (Decidable.not_not.mp sender)
              (Decidable.not_not.mp own) notMaster) (afterRankPacket_rankOf guild actor packet)
          refine Or.inr ⟨guild, served, ?_⟩
          unfold Guild.afterRankPacket at written
          split <;> simp_all

theorem changed_handleGuildRank {packet : RankPacket} (sound : realm.Sound)
    (inWorld : realm.getPlayer actor = some player)
    (found : (handleGuildRank actor player packet realm).guilds id = some after) :
    Changed realm (.request actor walk (.rank packet)) id after := by
  rcases @handleGuildRank_case realm actor player walk packet inWorld with
    refused | ⟨guild, served, touched⟩
  · rw [refused] at found
    exact changed_refl found
  · exact touched.changed (sound.guild_stored served).1 found

def Request.editsGuild : Request → Bool
  | .setMOTD _ => true
  | .setInfo _ => true
  | .setNote _ _ _ => true
  | .addRank => true
  | .delRank _ => true
  | .buyTab _ _ => true
  | .deposit _ => true
  | .withdraw _ _ _ => true
  | .swapItems _ _ _ _ _ _ _ => true
  | .swapItemsWithInventory _ _ => true
  | _ => false

theorem touched_serveGuild {request : Request} (acting : Acting realm actor player guild)
    (edits : request.editsGuild = true) :
    Touched realm (.request actor walk request) guild
      (serveGuild walk actor player guild realm request) := by
  cases request with
  | setMOTD motd => exact touched_handleSetMOTD
  | setInfo info => exact touched_handleSetInfo
  | setNote guid note officer => exact touched_handleSetMemberNote
  | addRank => exact touched_handleAddNewRank acting
  | delRank rankId => exact touched_handleRemoveRank acting
  | buyTab tabId affordable => exact touched_handleBuyBankTab acting
  | deposit amount => exact touched_handleMemberDepositMoney
  | withdraw now amount repair => exact touched_handleMemberWithdrawMoney
  | swapItems store now tabId slotId destTabId destSlotId splitedAmount =>
    exact touched_swapBankItems
  | swapItemsWithInventory bankItems bankRemaining =>
    exact touched_edit (afterMove_edit guild actor bankItems bankRemaining) rfl
  | _ => cases edits

theorem changed_serveGuild {request : Request} (sound : realm.Sound)
    (acting : Acting realm actor player guild)
    (found : (serveGuild walk actor player guild realm request).guilds id = some after) :
    Changed realm (.request actor walk request) id after := by
  obtain ⟨stored, _, _⟩ := sound.guild_stored acting.guild
  have connected := (getPlayer_eq_some.mp acting.inWorld).1
  have low := (sound.records.players actor player connected).1
  cases request with
  | invite invitee agreeable =>
    unfold serveGuild at found
    rw [handleInviteMember_guilds] at found
    exact changed_refl found
  | leave => exact changed_handleLeaveMember stored low found
  | remove guid => exact changed_handleRemoveMember stored found
  | promote guid => exact changed_handlePromote acting stored found
  | demote guid => exact changed_handleDemote acting stored found
  | disband => exact changed_handleDisband found
  | setLeader name => exact changed_handleSetLeader acting stored found
  | create name signers => exact changed_refl found
  | accept allied => exact changed_refl found
  | decline => exact changed_refl found
  | rank packet => exact changed_refl found
  | _ => exact (touched_serveGuild acting rfl).changed stored found

end Handlers

end DarkCore.Guilds.Roster
