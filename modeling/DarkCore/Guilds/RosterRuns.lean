/-
What one event does to the guilds of a realm, and the bounds on ranks, guids
and guild ids, which hold in every realm that is reached.
-/

import DarkCore.Guilds.RosterChanges
import DarkCore.Lib.Runs

namespace DarkCore.Guilds.Roster

open Lib Items

structure Realm.Keeps (realm rest : Realm) : Prop where
  records : rest.Records
  nextGuildId : rest.nextGuildId = realm.nextGuildId

section Records

variable {realm rest : Realm} {actor guid : Nat} {player : Player} {guild edited : Guild}
variable {walk : Walk}

theorem keeps_refl (records : realm.Records) : realm.Keeps realm := ⟨records, rfl⟩

theorem Realm.Keeps.setGuild (keeps : realm.Keeps rest) : realm.Keeps (rest.setGuild edited) :=
  ⟨records_guilds keeps.records, keeps.nextGuildId⟩

theorem changeRank_keeps {member : Member} {rank : Nat} (records : realm.Records)
    (bounded : rank < guildRanksMaxCount) :
    realm.Keeps (changeRank guid member rank guild realm).2 :=
  ⟨records_changeRank records bounded, onPlayer_nextGuildId⟩

theorem disband_keeps (records : realm.Records) : realm.Keeps (disband guild realm) :=
  ⟨records_disband records, foldl_forget_kept Realm.nextGuildId forget_nextGuildId _ realm⟩

theorem deleteMember_keeps (records : realm.Records) :
    realm.Keeps (deleteMember walk guid guild realm) := by
  have leaving := @deleteMember_case realm guild guid walk
  generalize deleteMember walk guid guild realm = result at leaving
  cases leaving with
  | disbanded leads alone => exact disband_keeps records
  | @succeeded key heir leads inMap other =>
    have master : realm.Keeps (setLeaderGUID key heir guild realm).2 :=
      changeRank_keeps records (Nat.zero_lt_succ 9)
    exact ⟨records_guilds (records_forget master.records guid),
      (forget_nextGuildId _ guid).trans master.nextGuildId⟩
  | left follows =>
    exact ⟨records_guilds (records_forget records guid), forget_nextGuildId realm guid⟩

theorem Touched.keeps {event : Event} (touched : Touched realm event guild rest)
    (records : realm.Records) : realm.Keeps rest := by
  cases touched with
  | nothing => exact keeps_refl records
  | written change roles guilds players guildMember characters nextGuildId =>
    refine ⟨⟨?_, ?_, ?_⟩, nextGuildId⟩
    · rw [players]
      exact records.players
    · rw [guildMember]
      exact records.rows
    · rw [characters]
      exact records.characters

theorem handleUpdateMemberRank_keeps {demote : Bool} (records : realm.Records)
    (sound : guild.Sound) :
    realm.Keeps (handleUpdateMemberRank actor player guild realm guid demote) := by
  rcases @handleUpdateMemberRank_case realm actor guid player guild demote with
    refused | ⟨member, rank, inMap, checked, eq⟩
  · rw [refused]
    exact keeps_refl records
  · have held : member.rankId < 10 :=
      (sound.held _ _ (rankOf_eq_some.mpr ⟨member, inMap, rfl⟩)).2
    have lowest : guild.lowestRankId < 10 := sound.lowestRankId_lt_max
    rw [eq]
    apply Realm.Keeps.setGuild
    apply changeRank_keeps records
    change _ < 10
    cases demote with
    | true =>
      obtain ⟨_, above, rfl⟩ := checked
      omega
    | false =>
      obtain ⟨below, rfl⟩ := checked
      omega

theorem handleSetLeader_keeps {name : String} (records : realm.Records) :
    realm.Keeps (handleSetLeader actor guild realm walk name) := by
  rcases @handleSetLeader_case realm actor guild walk name with
    refused | ⟨guid, newLeader, oldLeader, leads, named, still, eq⟩
  · rw [refused]
    exact keeps_refl records
  · rw [eq]
    have master : realm.Keeps (setLeaderGUID guid newLeader guild realm).2 :=
      changeRank_keeps records (Nat.zero_lt_succ 9)
    have officer : (setLeaderGUID guid newLeader guild realm).2.Keeps
        (changeRank (guidLopart actor) oldLeader grOfficer
          (setLeaderGUID guid newLeader guild realm).1
          (setLeaderGUID guid newLeader guild realm).2).2 :=
      changeRank_keeps master.records (by decide)
    exact ⟨records_guilds officer.records, officer.nextGuildId.trans master.nextGuildId⟩

theorem serveGuild_keeps {request : Request} (sound : realm.Sound)
    (acting : Acting realm actor player guild) :
    realm.Keeps (serveGuild walk actor player guild realm request) := by
  have records := sound.records
  obtain ⟨stored, _, sane⟩ := sound.guild_stored acting.guild
  have same := keeps_refl records
  cases request with
  | invite invitee agreeable =>
    unfold serveGuild handleInviteMember
    dsimp only
    split
    · exact same
    · split
      · exact same
      · split
        · exact same
        · split
          · exact same
          · split
            · refine ⟨records_onPlayer records ?_, onPlayer_nextGuildId⟩
              intro invited bounded
              exact bounded
            · exact same
  | leave =>
    unfold serveGuild handleLeaveMember
    dsimp only
    split
    · split
      · exact same
      · exact disband_keeps records
    · exact deleteMember_keeps records
  | remove guid =>
    unfold serveGuild handleRemoveMember
    dsimp only
    split
    · split
      · exact same
      · split
        · exact same
        · split
          · exact same
          · exact deleteMember_keeps records
    · exact same
  | promote guid | demote guid => exact handleUpdateMemberRank_keeps records sane
  | disband =>
    unfold serveGuild handleDisband
    dsimp only
    split
    · exact disband_keeps records
    · exact same
  | setLeader name => exact handleSetLeader_keeps records
  | create name signers => exact same
  | accept allied => exact same
  | decline => exact same
  | rank packet => exact same
  | _ => exact (@touched_serveGuild _ _ _ _ walk _ acting rfl).keeps records

end Records

section Events

variable {realm : Realm} {event : Event} {id actor : Nat} {player : Player} {after : Guild}
variable {walk : Walk}

section

variable (records : realm.Records)
include records

theorem records_connect {guid : Nat} {connected : Option Player}
    (bounded : ∀ player, connected = some player →
      guidLopart guid = guid ∧ player.rank < guildRanksMaxCount) :
    ({ realm with players := Function.update realm.players guid connected } : Realm).Records := by
  refine ⟨?_, records.rows, records.characters⟩
  intro looked player found
  dsimp only at found
  by_cases same : looked = guid
  · simp_all
  · rw [Function.update_of_ne same] at found
    exact records.players looked player found

theorem records_move {guid : Nat} {inWorld : Bool} :
    ({ realm with
        players := Function.update realm.players guid
          ((realm.players guid).map fun player => { player with inWorld := inWorld }) } :
      Realm).Records := by
  apply records_connect records
  intro player found
  obtain ⟨old, connected, rfl⟩ := Option.map_eq_some_iff.mp found
  exact records.players guid old connected

theorem login_records {guid : Nat} : (login guid realm).Records := by
  unfold login
  split
  · rename_i name absent named
    apply records_connect records
    intro player found
    refine ⟨guidLopart_of_lt (records.characters guid name named), ?_⟩
    cases found
    cases row : realm.guildMember guid with
    | none => exact Nat.zero_lt_succ 9
    | some row' => exact (records.rows guid row' row).2
  · exact records

theorem handleAcceptMember_keeps {guild : Guild} {allied : Bool}
    (sound : guild.Sound) : realm.Keeps (handleAcceptMember actor guild realm allied) := by
  unfold handleAcceptMember
  split
  · split
    · exact keeps_refl records
    · rename_i grown written joined
      have bounded : guild.joiningRank guildRankNone < guildRanksMaxCount :=
        sound.lowestRankId_lt_max
      exact ⟨records_guilds (records_addMember records (Nat.ne_of_gt sound.id) bounded joined),
        (addMember_frame joined).2⟩
  · exact keeps_refl records

end

theorem handleGuildRank_keeps (walk : Walk) {packet : RankPacket} (records : realm.Records)
    (inWorld : realm.getPlayer actor = some player) :
    realm.Keeps (handleGuildRank actor player packet realm) := by
  rcases @handleGuildRank_case realm actor player walk packet inWorld with
    refused | ⟨guild, served, touched⟩
  · rw [refused]
    exact keeps_refl records
  · exact touched.keeps records

theorem next_request {request : Request} (inWorld : realm.getPlayer actor = some player) :
    next realm (.request actor walk request) = serve walk actor player realm request := by
  unfold next
  dsimp only
  rw [inWorld]

structure Realm.Grows (realm rest : Realm) : Prop where
  records : rest.Records
  nextGuildId : realm.nextGuildId ≤ rest.nextGuildId

theorem Realm.Keeps.grows {rest : Realm} (keeps : realm.Keeps rest) : realm.Grows rest :=
  ⟨keeps.records, Nat.le_of_eq keeps.nextGuildId.symm⟩

section

variable (sound : realm.Sound)
include sound

theorem serve_grows {request : Request}
    (inWorld : realm.getPlayer actor = some player) :
    realm.Grows (serve walk actor player realm request) := by
  have records := sound.records
  have same := (keeps_refl records).grows
  cases request with
  | create name signers =>
    unfold serve
    dsimp only
    split
    · exact same
    · rename_i free
      rcases create_founding sound inWorld (Decidable.not_not.mp free) with refused | founding
      · rw [refused]
        exact same
      · refine ⟨founding.records, ?_⟩
        rw [founding.nextGuildId]
        exact Nat.le_succ realm.nextGuildId
  | accept allied =>
    unfold serve
    dsimp only
    split
    · exact same
    · split
      · exact same
      · rename_i guild invited
        exact (handleAcceptMember_keeps records (sound.guilds _ guild invited).2.2).grows
  | decline =>
    refine ⟨?_, Nat.le_refl _⟩
    apply records_connect records
    intro declined found
    cases found
    exact records.players actor player (getPlayer_eq_some.mp inWorld).1
  | rank packet => exact (handleGuildRank_keeps walk records inWorld).grows
  | _ =>
    unfold serve
    dsimp only
    split
    · exact same
    · rename_i guild found
      exact (serveGuild_keeps sound ⟨inWorld, found⟩).grows

theorem next_grows : realm.Grows (next realm event) := by
  have records := sound.records
  have same := (keeps_refl records).grows
  cases event with
  | request actor walk request =>
    unfold next
    dsimp only
    split
    · exact same
    · rename_i player inWorld
      exact serve_grows sound inWorld
  | login guid =>
    refine ⟨login_records records, ?_⟩
    unfold next login
    dsimp only
    split <;> exact Nat.le_refl _
  | logout guid =>
    refine ⟨?_, Nat.le_refl _⟩
    apply records_connect records
    intro player impossible
    cases impossible
  | leaveWorld guid | enterWorld guid => exact ⟨records_move records, Nat.le_refl _⟩
  | deleteMember guid walk =>
    unfold next
    dsimp only
    split
    · exact same
    · split
      · exact same
      · exact (deleteMember_keeps records).grows

theorem serve_change {request : Request}
    (inWorld : realm.getPlayer actor = some player)
    (found : (serve walk actor player realm request).guilds id = some after) :
    Changed realm (.request actor walk request) id after ∨
      id = realm.nextGuildId ∧ after.id = id ∧ Founded actor after ∧
        (next realm (.request actor walk request)).nextGuildId = realm.nextGuildId + 1 := by
  cases request with
  | create name signers =>
    unfold serve at found
    dsimp only at found
    split at found
    · exact Or.inl (changed_refl found)
    · rename_i free
      rcases create_founding sound inWorld (Decidable.not_not.mp free) with refused | founding
      · rw [refused] at found
        exact Or.inl (changed_refl found)
      · obtain ⟨guild, guilds, named, founded⟩ := founding.guilds
        rw [guilds] at found
        dsimp only at found
        by_cases same : id = realm.nextGuildId
        · rw [same, Function.update_self, Option.some_inj] at found
          subst found
          refine Or.inr ⟨same, named.trans same.symm, founded, ?_⟩
          rw [next_request inWorld]
          unfold serve
          dsimp only
          rw [if_neg free]
          exact founding.nextGuildId
        · rw [Function.update_of_ne same] at found
          exact Or.inl (changed_refl found)
  | accept allied =>
    left
    unfold serve at found
    dsimp only at found
    split at found
    · exact changed_refl found
    · rename_i free
      split at found
      · exact changed_refl found
      · rename_i guild invited
        have named := (sound.guilds _ guild invited).1
        exact changed_handleAcceptMember inWorld (Decidable.not_not.mp free) invited
          (named.symm ▸ invited) found
  | decline => exact Or.inl (changed_refl found)
  | rank packet => exact Or.inl (changed_handleGuildRank sound inWorld found)
  | _ =>
    unfold serve at found
    dsimp only at found
    split at found
    · exact Or.inl (changed_refl found)
    · rename_i guild isGuild
      exact Or.inl (changed_serveGuild sound ⟨inWorld, isGuild⟩ found)

theorem next_change (found : (next realm event).guilds id = some after) :
    Changed realm event id after ∨
      id = realm.nextGuildId ∧ after.id = id ∧ (∃ actor, Founded actor after) ∧
        (next realm event).nextGuildId = realm.nextGuildId + 1 := by
  cases event with
  | request actor walk request =>
    have inNext := found
    unfold next at found
    dsimp only at found
    split at found
    · exact Or.inl (changed_refl found)
    · rename_i player inWorld
      rcases serve_change sound inWorld found with changed | ⟨new, named, founded, numbered⟩
      · exact Or.inl changed
      · exact Or.inr ⟨new, named, ⟨actor, founded⟩, numbered⟩
  | login guid =>
    left
    unfold next login at found
    dsimp only at found
    split at found <;> exact changed_refl found
  | logout guid | leaveWorld guid | enterWorld guid => exact Or.inl (changed_refl found)
  | deleteMember guid walk =>
    left
    unfold next at found
    dsimp only at found
    split at found
    · exact changed_refl found
    · split at found
      · exact changed_refl found
      · rename_i guild inGuild
        have named := (sound.guilds _ guild inGuild).1
        apply changed_deleteMember (named.symm ▸ inGuild) _ found
        intro same different
        rw [guidLopart_guidLopart] at same
        exact absurd same.symm different

end

end Events

section Runs

variable {realm : Realm} {event : Event} {before after : Guild}

theorem switchRank_length (oldID newID : Nat) (ranks : List RankInfo) :
    (switchRank oldID newID ranks).length = ranks.length := by
  unfold switchRank
  split
  · rw [List.length_set, List.length_set]
  · rfl

theorem afterRankPacket_length (guild : Guild) (actor : Nat) (packet : RankPacket) :
    (guild.afterRankPacket actor packet).ranks.length = guild.ranks.length := by
  unfold Guild.afterRankPacket
  split
  · rw [switchRank_length]
    exact (handleSetRankInfo_edit _ _ _ _ _ _ _).ranks_length
  · exact (handleSetRankInfo_edit _ _ _ _ _ _ _).ranks_length

theorem createRank_length {name : String} {rights : Nat} {ranks : List RankInfo}
    (room : ranks.length < guildRanksMaxCount) :
    (createRank name rights ranks).length = ranks.length + 1 := by
  unfold createRank
  rw [if_neg (Nat.not_le_of_lt room), List.length_append]
  rfl

theorem Guild.Sound.of_roles (sound : before.Sound) (id : after.id = before.id)
    (atLeast : guildRanksMinCount ≤ after.ranks.length)
    (atMost : after.ranks.length ≤ guildRanksMaxCount) (roles : after.rankOf = before.rankOf) :
    after.Sound where
  id := by
    grind [id]
  atLeast := atLeast
  atMost := atMost
  held := by
    rw [roles]
    exact sound.held

theorem Edit.sound (edit : Edit before after) (sound : before.Sound) : after.Sound := by
  apply sound.of_roles edit.id _ _ edit.roles
  · rw [edit.ranks_length]
    exact sound.atLeast
  · rw [edit.ranks_length]
    exact sound.atMost

theorem Change.sound (change : Change realm event before after) (sound : before.Sound) :
    after.Sound := by
  have low : ∀ guid rank, before.rankOf guid = some rank → rank < 10 := by
    intro guid rank held
    exact (sound.held guid rank held).2
  have lowest : before.lowestRankId < 10 := sound.lowestRankId_lt_max
  cases change with
  | edited edit ranks => exact edit.sound sound
  | ranked acting sender own notMaster =>
    apply sound.of_roles (afterRankPacket_id _ _ _) _ _ (afterRankPacket_rankOf _ _ _)
    · rw [afterRankPacket_length]
      exact sound.atLeast
    · rw [afterRankPacket_length]
      exact sound.atMost
  | bought acting following priced room => exact (afterPurchase_edit _ _ _).sound sound
  | rankAdded acting leads room =>
    have grown := @createRank_length "New Rank" (grRightGchatlisten ||| grRightGchatspeak) _ room
    refine sound.of_roles rfl ?_ ?_ rfl
    · rw [grown]
      exact Nat.le_succ_of_le sound.atLeast
    · grind
  | rankRemoved acting leads many inTable =>
    have shrunk := List.length_eraseIdx_of_lt inTable
    refine sound.of_roles rfl ?_ ?_ rfl
    · grind
    · rw [shrunk]
      exact Nat.le_trans (Nat.sub_le _ 1) sound.atMost
  | joined inWorld free invited reassigned =>
    apply reassigned.sound sound
    exact roles_update sound.held ⟨guidLopart_guidLopart _, lowest⟩
  | left follows reassigned => exact reassigned.sound sound (roles_remove sound.held)
  | succeeded heir other reassigned =>
    apply reassigned.sound sound
    apply roles_remove
    exact roles_update sound.held ⟨(sound.held _ _ heir).1, Nat.zero_lt_succ 9⟩
  | promoted acting found below reassigned =>
    apply reassigned.sound sound
    apply roles_update sound.held
    have held := low _ _ found
    refine ⟨guidLopart_guidLopart _, ?_⟩
    change _ < 10
    omega
  | demoted acting found below above reassigned =>
    apply reassigned.sound sound
    apply roles_update sound.held
    refine ⟨guidLopart_guidLopart _, ?_⟩
    change _ < 10
    omega
  | led acting leads named found reassigned =>
    apply reassigned.sound sound
    apply roles_update
    · exact roles_update sound.held ⟨(sound.held _ _ found).1, Nat.zero_lt_succ 9⟩
    · exact ⟨guidLopart_guidLopart _, by decide⟩

theorem next_sound (sound : realm.Sound) (event : Event) : (next realm event).Sound := by
  have grows := @next_grows realm event sound
  refine ⟨grows.records, ?_, Nat.lt_of_lt_of_le sound.fresh grows.nextGuildId⟩
  intro id after found
  rcases next_change sound found with ⟨before, old, change⟩ | ⟨new, named, founded, numbered⟩
  · obtain ⟨beforeNamed, low, beforeSound⟩ := sound.guilds id before old
    exact ⟨change.id_eq.trans beforeNamed,
      Nat.lt_of_lt_of_le low grows.nextGuildId, change.sound beforeSound⟩
  · obtain ⟨actor, founded⟩ := founded
    refine ⟨named, ?_, founded.sound⟩
    rw [numbered, new]
    exact Nat.lt_succ_self _

theorem initial_sound (characters : Nat → Option String) (nextItemGuid : Nat)
    (darkCoreString : Nat → String) :
    (Realm.initial characters nextItemGuid darkCoreString).Sound := by
  refine ⟨⟨?_, ?_, ?_⟩, ?_, Nat.zero_lt_one⟩
  · intro guid player impossible
    cases impossible
  · intro guid row impossible
    cases impossible
  · simp_all [Realm.initial]
  · intro id guild impossible
    cases impossible

theorem reached_sound (characters : Nat → Option String) (nextItemGuid : Nat)
    (darkCoreString : Nat → String) (events : List Event) :
    (events.foldl next (Realm.initial characters nextItemGuid darkCoreString)).Sound := by
  have step : ∀ realm event, realm.Sound → True → (next realm event).Sound := by
    intro realm event sound _
    exact next_sound sound event
  have start := initial_sound characters nextItemGuid darkCoreString
  exact (always_of_step step start (along_true _ events)).last

/-- In every run guilds are found under their own ids, which are not given out twice, and have three
to ten ranks; no rank that is stored of a member is above them. -/
theorem guilds_stay_sound (characters : Nat → Option String) (nextItemGuid : Nat)
    (darkCoreString : Nat → String) (events : List Event) :
    Always next Realm.Sound (Realm.initial characters nextItemGuid darkCoreString) events ∧
      Along next (fun realm event => realm.Grows (next realm event))
        (Realm.initial characters nextItemGuid darkCoreString) events := by
  have start := initial_sound characters nextItemGuid darkCoreString
  have keeps (realm : Realm) (event : Event) (sound : realm.Sound) (_ : True) :=
    next_sound sound event
  exact ⟨always_of_step keeps start (along_true _ events),
    along_of_step keeps (fun _ _ sound _ => next_grows sound) start (along_true _ events)⟩

end Runs

end DarkCore.Guilds.Roster
