/-
Membership in guilds, which is kept in the member maps, in the rows of
`guild_member` and in the fields of the players who are connected. The three
stay in step as long as whoever joins or leaves is found in the world, and
nobody declines an invitation while he is in a guild.
-/

import DarkCore.Guilds.Leadership

namespace DarkCore.Guilds.Roster

open Lib Items

/-! ### The three records -/

def Realm.HasMember (realm : Realm) (id guid : Nat) : Prop :=
  ∃ guild member, realm.guilds id = some guild ∧ guild.members.find guid = some member

def Realm.rowGuildId (realm : Realm) (guid : Nat) : Nat :=
  match realm.guildMember guid with
  | some row => row.guildId
  | none => 0

def Realm.storedGuildId (realm : Realm) (guid : Nat) : Nat :=
  match realm.players guid with
  | some player => player.guildId
  | none => realm.rowGuildId guid

structure Realm.InStep (realm : Realm) : Prop where
  stored : ∀ guid id, id ≠ 0 → (realm.storedGuildId guid = id ↔ realm.HasMember id guid)
  single : ∀ guid first second, realm.HasMember first guid → realm.HasMember second guid →
    first = second

/-- A player who is connected is found by `GetPlayer` under the guid. -/
def Realm.Reachable (realm : Realm) (guid : Nat) : Prop :=
  ∀ player, realm.players (guidLopart guid) = some player →
    guidLopart guid = guid ∧ player.inWorld = true

/-- Nobody declines an invitation while he is in a guild, and whoever is connected and joins by a
charter, is kicked, deleted or disbanded is in the world. -/
def Settled (realm : Realm) : Event → Prop
  | .request actor _ (.create name signers) =>
    ∀ player, realm.getPlayer actor = some player → player.guildId = 0 →
      realm.hasGuildNamed name = false →
      ∀ guid ∈ signers, guidLopart guid ≠ actor → realm.getGuildIdFromDB guid = 0 →
        realm.Reachable guid
  | .request actor _ .decline =>
    ∀ player, realm.getPlayer actor = some player → player.guildId = 0
  | .request actor _ (.remove guid) =>
    ∀ player guild member, Acting realm actor player guild →
      guild.hasRankRight player grRightRemove = true → guild.getMember guid = some member →
      player.rank < member.rankId → realm.Reachable guid
  | .request actor _ .disband =>
    ∀ player guild, Acting realm actor player guild → guild.isLeader actor = true →
      ∀ guid member, guild.members.find guid = some member → realm.Reachable guid
  | .deleteMember guid _ =>
    realm.guildIdOf (guidLopart guid) ≠ 0 → realm.Reachable (guidLopart guid)
  | _ => True

structure Realm.Aligned (realm : Realm) (has : Nat → Nat → Prop) (guid : Nat) : Prop where
  row : ∀ id, id ≠ 0 → (realm.rowGuildId guid = id ↔ has id guid)
  field : ∀ player, realm.players guid = some player → player.guildId = realm.rowGuildId guid

def Realm.Synced (realm : Realm) : Prop := ∀ guid, realm.Aligned realm.HasMember guid

structure Realm.SameIds (realm rest : Realm) : Prop where
  rows : ∀ guid, rest.rowGuildId guid = realm.rowGuildId guid
  players : ∀ guid player, rest.players guid = some player →
    ∃ old, realm.players guid = some old ∧ player.guildId = old.guildId ∧
      player.inWorld = old.inWorld

section Records

variable {realm rest : Realm} {has has' : Nat → Nat → Prop} {guid rank : Nat}
variable {guild edited : Guild}

theorem hasMember_iff {id : Nat} :
    realm.HasMember id guid ↔ ∃ guild, realm.guilds id = some guild ∧ guild.rankOf guid ≠ none := by
  constructor
  · rintro ⟨guild, member, stored, found⟩
    refine ⟨guild, stored, ?_⟩
    rw [rankOf_eq_some.mpr ⟨member, found, rfl⟩]
    exact Option.some_ne_none _
  · rintro ⟨guild, stored, held⟩
    obtain ⟨rank, isRank⟩ := Option.ne_none_iff_exists'.mp held
    obtain ⟨member, found, _⟩ := rankOf_eq_some.mp isRank
    exact ⟨guild, member, stored, found⟩

theorem hasMember_stored (stored : realm.guilds guild.id = some guild) :
    realm.HasMember guild.id guid ↔ guild.rankOf guid ≠ none := by
  rw [hasMember_iff]
  constructor
  · simp [stored, Option.some_inj]
  · simp_all

theorem hasMember_setGuild (frame : rest.guilds = realm.guilds) {id : Nat} :
    (rest.setGuild edited).HasMember id guid ↔
      if id = edited.id then edited.rankOf guid ≠ none else realm.HasMember id guid := by
  rw [hasMember_iff]
  unfold Realm.setGuild
  dsimp only
  rw [frame]
  split
  · simp_all
  · grind [hasMember_iff]

theorem Realm.Aligned.congr (aligned : realm.Aligned has guid) (sameIds : realm.SameIds rest)
    (same : ∀ id, id ≠ 0 → (has' id guid ↔ has id guid)) : rest.Aligned has' guid where
  row := by
    intro id named
    rw [sameIds.rows, same id named]
    exact aligned.row id named
  field := by
    intro player found
    obtain ⟨old, connected, sameId, _⟩ := sameIds.players guid player found
    rw [sameId, sameIds.rows]
    exact aligned.field old connected

theorem sameIds_refl (realm : Realm) : realm.SameIds realm where
  rows := fun _ => rfl
  players := fun _ player found => ⟨player, found, rfl, rfl⟩

theorem Realm.SameIds.trans {last : Realm} (first : realm.SameIds rest)
    (second : rest.SameIds last) : realm.SameIds last where
  rows := fun guid => (second.rows guid).trans (first.rows guid)
  players := by
    intro guid player found
    obtain ⟨middle, inRest, sameId, samePlace⟩ := second.players guid player found
    obtain ⟨old, inRealm, firstId, firstPlace⟩ := first.players guid middle inRest
    exact ⟨old, inRealm, sameId.trans firstId, samePlace.trans firstPlace⟩

theorem sameIds_setGuild : realm.SameIds (realm.setGuild edited) where
  rows := fun _ => rfl
  players := fun _ player found => ⟨player, found, rfl, rfl⟩

theorem sameIds_onPlayer {change : Player → Player}
    (sameId : ∀ player, (change player).guildId = player.guildId)
    (samePlace : ∀ player, (change player).inWorld = player.inWorld) :
    realm.SameIds (realm.onPlayer guid change) where
  rows := by
    simp [Realm.rowGuildId]
  players := by
    refine onPlayer_forall ?_ ?_
    · intro looked player found
      exact ⟨player, found, rfl, rfl⟩
    · intro player found _
      exact ⟨player, found, sameId player, samePlace player⟩

theorem sameIds_updateRowRank : realm.SameIds (realm.updateRowRank guid rank) where
  rows := by
    intro looked
    unfold Realm.rowGuildId Realm.updateRowRank
    dsimp only
    by_cases same : looked = guid
    · grind
    · rw [Function.update_of_ne same]
  players := fun _ player found => ⟨player, found, rfl, rfl⟩

theorem sameIds_changeRank {member : Member} :
    realm.SameIds (changeRank guid member rank guild realm).2 := by
  apply Realm.SameIds.trans _ sameIds_updateRowRank
  exact sameIds_onPlayer (fun _ => rfl) fun _ => rfl

theorem Realm.Reachable.congr (reachable : realm.Reachable guid) (sameIds : realm.SameIds rest) :
    rest.Reachable guid := by
  intro player found
  obtain ⟨old, connected, _, samePlace⟩ := sameIds.players _ player found
  obtain ⟨low, entered⟩ := reachable old connected
  exact ⟨low, samePlace.trans entered⟩

theorem synced_sameIds (synced : realm.Synced) (frame : rest.guilds = realm.guilds)
    (sameIds : realm.SameIds rest) : rest.Synced := by
  intro guid
  apply (synced guid).congr sameIds
  intro id _
  rw [hasMember_iff, hasMember_iff, frame]

theorem rankOf_update_of_member {old looked : Nat} (held : guild.rankOf guid = some old) :
    Function.update guild.rankOf guid (some rank) looked ≠ none ↔ guild.rankOf looked ≠ none := by
  by_cases same : looked = guid
  · simp [same, Function.update_self, held]
  · rw [Function.update_of_ne same]

theorem synced_setGuild (synced : realm.Synced) (stored : realm.guilds guild.id = some guild)
    (frame : rest.guilds = realm.guilds) (sameIds : realm.SameIds rest)
    (named : edited.id = guild.id)
    (roles : ∀ guid, edited.rankOf guid ≠ none ↔ guild.rankOf guid ≠ none) :
    (rest.setGuild edited).Synced := by
  intro guid
  apply (synced guid).congr (sameIds.trans sameIds_setGuild)
  intro id _
  rw [hasMember_setGuild frame, named]
  split
  · rename_i same
    rw [same, hasMember_stored stored]
    exact roles guid
  · exact Iff.rfl

theorem Touched.synced {event : Event} (touched : Touched realm event guild rest)
    (synced : realm.Synced) (stored : realm.guilds guild.id = some guild) : rest.Synced := by
  cases touched with
  | nothing => exact synced
  | @written edited _ change roles guilds players guildMember characters nextGuildId =>
    intro guid
    apply (synced guid).congr
    · constructor
      · simp [Realm.rowGuildId, guildMember]
      · simp_all
    · intro id _
      have written := @hasMember_setGuild realm realm guid edited rfl id
      rw [hasMember_iff] at written ⊢
      rw [guilds, written, change.id_eq, roles]
      split
      · rename_i same
        rw [same, hasMember_stored stored]
      · exact Iff.rfl

theorem Realm.Aligned.single (aligned : realm.Aligned has guid) {first second : Nat}
    (firstNamed : first ≠ 0) (secondNamed : second ≠ 0) (inFirst : has first guid)
    (inSecond : has second guid) : first = second :=
  ((aligned.row first firstNamed).mpr inFirst).symm.trans
    ((aligned.row second secondNamed).mpr inSecond)

/-! ### Leaving -/

theorem aligned_forget (aligned : ∀ guid, realm.Aligned has guid) (records : realm.Records)
    (reachable : realm.Reachable guid) (looked : Nat) :
    (realm.forget guid).Aligned (fun id member => has id member ∧ member ≠ guidLopart guid)
      looked := by
  have field : ∀ looked player, (realm.forget guid).players looked = some player →
      ∃ old, realm.players looked = some old ∧
        (player = old ∨ guid = looked ∧ player.guildId = 0) ∧
        (guid = looked → old.inWorld = true → player.guildId = 0) := by
    intro looked player found
    unfold Realm.forget at found
    change (realm.onPlayer guid _).players looked = some player at found
    rw [onPlayer_eq] at found
    dsimp only at found
    by_cases same : looked = guid
    · rw [same, Function.update_self] at found
      obtain ⟨old, connected, rfl⟩ := Option.map_eq_some_iff.mp found
      refine ⟨old, same ▸ connected, ?_, ?_⟩
      · grind
      · simp_all
    · grind
  have rows : ∀ looked, (realm.forget guid).rowGuildId looked =
      if looked = guidLopart guid then 0 else realm.rowGuildId looked := by
    intro looked
    unfold Realm.rowGuildId
    rw [forget_guildMember]
    by_cases same : looked = guidLopart guid
    · rw [if_pos same, same, Function.update_self]
    · rw [if_neg same, Function.update_of_ne same]
  constructor
  · intro id named
    rw [rows]
    split
    · omega
    · rename_i different
      rw [(aligned looked).row id named]
      exact (and_iff_left different).symm
  · intro player found
    obtain ⟨old, connected, either, cleared⟩ := field looked player found
    rw [rows]
    by_cases same : looked = guidLopart guid
    · rw [if_pos same]
      obtain ⟨low, entered⟩ := reachable old (same ▸ connected)
      exact cleared (low.symm.trans same.symm) entered
    · rw [if_neg same]
      rcases either with unchanged | ⟨isGuid, _⟩
      · rw [unchanged]
        exact (aligned looked).field old connected
      · have low := (records.players looked old connected).1
        rw [← isGuid] at low same
        exact absurd low.symm same

theorem Realm.Reachable.moved {after : Realm} (reachable : realm.Reachable guid)
    (places : ∀ looked player, after.players looked = some player →
      ∃ old, realm.players looked = some old ∧ player.inWorld = old.inWorld) :
    after.Reachable guid := by
  intro player found
  obtain ⟨old, connected, samePlace⟩ := places _ player found
  obtain ⟨low, entered⟩ := reachable old connected
  exact ⟨low, samePlace.trans entered⟩

theorem onPlayer_places {other : Nat} {change : Player → Player}
    (stays : ∀ player, (change player).inWorld = player.inWorld) :
    ∀ looked player, (realm.onPlayer other change).players looked = some player →
      ∃ old, realm.players looked = some old ∧ player.inWorld = old.inWorld := by
  refine onPlayer_forall ?_ ?_ <;> simp_all

theorem Realm.Reachable.forget {other : Nat} (reachable : realm.Reachable guid) :
    (realm.forget other).Reachable guid := by
  exact reachable.moved (onPlayer_places fun _ => rfl)

theorem aligned_forget_all (guids : List Nat) (aligned : ∀ guid, realm.Aligned has guid)
    (records : realm.Records) (low : ∀ guid ∈ guids, guidLopart guid = guid)
    (reachable : ∀ guid ∈ guids, realm.Reachable guid) (looked : Nat) :
    (guids.foldl Realm.forget realm).Aligned
      (fun id member => has id member ∧ member ∉ guids) looked := by
  induction guids generalizing realm has with
  | nil =>
    simp_all
  | cons guid rest ih =>
    have first := aligned_forget aligned records (reachable guid List.mem_cons_self)
    have later := ih first (records_forget records guid)
      (fun other inRest => low other (List.mem_cons_of_mem guid inRest))
      (fun other inRest => (reachable other (List.mem_cons_of_mem guid inRest)).forget)
    apply later.congr (sameIds_refl _)
    intro id _
    rw [List.mem_cons, not_or, low guid List.mem_cons_self, and_assoc]

theorem synced_removal (synced : realm.Synced) (records : realm.Records)
    (stored : realm.guilds guild.id = some guild) (numbered : guild.id ≠ 0)
    (member : guild.rankOf (guidLopart guid) ≠ none) (reachable : realm.Reachable guid)
    (named : edited.id = guild.id)
    (roles : ∀ looked, edited.rankOf looked ≠ none ↔
      guild.rankOf looked ≠ none ∧ looked ≠ guidLopart guid) :
    ((realm.forget guid).setGuild edited).Synced := by
  intro looked
  have forgotten := aligned_forget synced records reachable looked
  apply forgotten.congr sameIds_setGuild
  intro id idNamed
  rw [hasMember_setGuild (forget_guilds realm guid), named]
  split
  · rename_i same
    rw [same, hasMember_stored stored]
    exact roles looked
  · rename_i different
    symm
    apply and_iff_left_of_imp
    intro held isGuid
    rw [isGuid] at held
    have inGuild := (hasMember_stored stored).mpr member
    exact different ((synced _).single idNamed numbered held inGuild)

theorem guilds_disband {id : Nat} :
    (disband guild realm).HasMember id guid ↔ id ≠ guild.id ∧ realm.HasMember id guid := by
  rw [hasMember_iff, disband_guilds, hasMember_iff]
  by_cases same : id = guild.id
  · simp [same, Function.update_self]
  · simp_all

theorem synced_disband (synced : realm.Synced) (records : realm.Records)
    (stored : realm.guilds guild.id = some guild) (sound : guild.Sound)
    (reachable : ∀ guid member, guild.members.find guid = some member → realm.Reachable guid) :
    (disband guild realm).Synced := by
  have inMap : ∀ guid, guid ∈ guild.members.entries.map Prod.fst ↔ guild.rankOf guid ≠ none := by
    intro guid
    constructor
    · intro member
      obtain ⟨entry, inEntries, rfl⟩ := List.mem_map.mp member
      rw [rankOf_eq_some.mpr ⟨entry.2, OrdMap.find_eq_some.mpr inEntries, rfl⟩]
      exact Option.some_ne_none _
    · intro held
      obtain ⟨rank, isRank⟩ := Option.ne_none_iff_exists'.mp held
      obtain ⟨member, found, _⟩ := rankOf_eq_some.mp isRank
      exact List.mem_map.mpr ⟨(guid, member), OrdMap.find_eq_some.mp found, rfl⟩
  have forgotten := aligned_forget_all (guild.members.entries.map Prod.fst) synced records
    (by
      intro guid member
      obtain ⟨rank, isRank⟩ := Option.ne_none_iff_exists'.mp ((inMap guid).mp member)
      exact (sound.held guid rank isRank).1)
    (by
      intro guid member
      obtain ⟨rank, isRank⟩ := Option.ne_none_iff_exists'.mp ((inMap guid).mp member)
      obtain ⟨found, isMember, _⟩ := rankOf_eq_some.mp isRank
      exact reachable guid found isMember)
  have sameIds : Realm.SameIds ((guild.members.entries.map Prod.fst).foldl Realm.forget realm)
      (disband guild realm) := ⟨fun _ => rfl, fun _ player found => ⟨player, found, rfl, rfl⟩⟩
  intro looked
  apply (forgotten looked).congr sameIds
  intro id idNamed
  rw [guilds_disband, inMap looked, not_not, and_comm, and_congr_right_iff]
  intro held
  constructor
  · intro different
    by_contra member
    have inGuild := (hasMember_stored stored).mpr member
    exact different ((synced looked).single idNamed (Nat.ne_of_gt sound.id) held inGuild)
  · intro missing same
    rw [same] at held
    exact (hasMember_stored stored).mp held missing

theorem synced_deleteMember {walk : Walk} (synced : realm.Synced) (records : realm.Records)
    (stored : realm.guilds guild.id = some guild) (sound : guild.Sound)
    (member : guild.rankOf (guidLopart guid) ≠ none) (reachable : realm.Reachable guid) :
    (deleteMember walk guid guild realm).Synced := by
  have numbered := Nat.ne_of_gt sound.id
  have leaving := @deleteMember_case realm guild guid walk
  generalize deleteMember walk guid guild realm = result at leaving
  cases leaving with
  | disbanded leads alone =>
    apply synced_disband synced records stored sound
    intro key found isMember
    have same := alone (key, found) (OrdMap.find_eq_some.mp isMember)
    dsimp only at same
    intro player connected
    rw [same, guidLopart_guidLopart] at connected
    rw [same, guidLopart_guidLopart]
    exact ⟨rfl, (reachable player connected).2⟩
  | @succeeded key heir leads inMap other =>
    have sameIds : realm.SameIds (setLeaderGUID key heir guild realm).2 := sameIds_changeRank
    have frame : (setLeaderGUID key heir guild realm).2.guilds = realm.guilds :=
      changeRank_guilds
    have followed := synced_sameIds synced frame sameIds
    have recorded : (setLeaderGUID key heir guild realm).2.Records :=
      records_changeRank records (Nat.zero_lt_succ 9)
    refine synced_removal followed recorded (frame ▸ stored) numbered member
      (reachable.congr sameIds) rfl ?_
    intro looked
    have led : (setLeaderGUID key heir guild realm).1.rankOf =
        Function.update guild.rankOf key (some grGuildMaster) := changeRank_rankOf
    rw [rankOf_erase, led]
    by_cases isGuid : looked = guidLopart guid
    · simp [isGuid, Function.update_self]
    · rw [Function.update_of_ne isGuid]
      by_cases isKey : looked = key
      · rw [isKey, Function.update_self, rankOf_eq_some.mpr ⟨heir, inMap, rfl⟩]
        exact ⟨fun _ => ⟨Option.some_ne_none _, other⟩, fun _ => Option.some_ne_none _⟩
      · simp_all
  | left follows =>
    refine synced_removal synced records stored numbered member reachable rfl ?_
    intro looked
    rw [rankOf_erase]
    by_cases isGuid : looked = guidLopart guid
    · simp [isGuid, Function.update_self]
    · simp_all

/-! ### Joining -/

theorem Realm.Guildless.row_eq_none (free : realm.Guildless guid) (synced : realm.Synced)
    (records : realm.Records) : realm.guildMember (guidLopart guid) = none := by
  have noRow : realm.rowGuildId (guidLopart guid) = 0 := by
    unfold Realm.Guildless Realm.guildIdOf at free
    cases found : realm.getPlayer guid with
    | some player =>
      rw [found] at free
      have connected := (getPlayer_eq_some.mp found).1
      rw [(records.players guid player connected).1, ← (synced guid).field player connected]
      exact free
    | none =>
      rw [found] at free
      exact free
  unfold Realm.rowGuildId at noRow
  cases row : realm.guildMember (guidLopart guid) with
  | none => rfl
  | some written =>
    rw [row] at noRow
    exact absurd noRow (records.rows _ written row).1

variable {result : Guild × Realm}

theorem synced_addMember {rankId : Nat} (synced : realm.Synced)
    (records : realm.Records)
    (members : ∀ guid, realm.HasMember guild.id guid ↔ guild.rankOf guid ≠ none)
    (joined : addMember guid rankId guild realm = some result)
    (reachable : realm.Reachable guid) : (result.2.setGuild result.1).Synced := by
  have reassigned := addMember_reassigned joined
  obtain ⟨frame, _⟩ := addMember_frame joined
  obtain ⟨name, free, rfl⟩ := addMember_case joined
  have noRow := free.row_eq_none synced records
  have rows : ∀ looked, Realm.rowGuildId
      ((realm.insertRow (guidLopart guid) ⟨guild.id, guild.joiningRank rankId⟩).onPlayer guid
        (Player.join guild.id (guild.joiningRank rankId))) looked =
      if looked = guidLopart guid then guild.id else realm.rowGuildId looked := by
    intro looked
    unfold Realm.rowGuildId
    rw [onPlayer_guildMember]
    unfold Realm.insertRow
    dsimp only
    by_cases same : looked = guidLopart guid
    · simp [same, Function.update_self, noRow]
    · rw [if_neg same, Function.update_of_ne same]
  intro looked
  constructor
  · intro id idNamed
    rw [hasMember_setGuild frame, reassigned.id, reassigned.roles]
    refine Iff.trans (Eq.congr_left (rows looked)) ?_
    by_cases isGuid : looked = guidLopart guid
    · rw [if_pos isGuid, isGuid, Function.update_self]
      have free := (synced (guidLopart guid)).row id idNamed
      unfold Realm.rowGuildId at free
      rw [noRow] at free
      constructor
      · simp_all
      · grind
    · rw [if_neg isGuid, Function.update_of_ne isGuid, (synced looked).row id idNamed]
      split
      · simp_all
      · exact Iff.rfl
  · intro player found
    refine Eq.trans ?_ (rows looked).symm
    change Realm.players (Realm.onPlayer _ guid _) looked = some player at found
    rw [onPlayer_eq] at found
    dsimp only at found
    by_cases isGuid : looked = guidLopart guid
    · rw [if_pos isGuid]
      by_cases same : looked = guid
      · rw [same, Function.update_self] at found
        obtain ⟨old, connected, rfl⟩ := Option.map_eq_some_iff.mp found
        have entered := (reachable old (isGuid ▸ same ▸ connected)).2
        rw [if_pos entered]
        rfl
      · rw [Function.update_of_ne same] at found
        have low := (reachable player (isGuid ▸ found)).1
        exact absurd (isGuid.trans low) same
    · rw [if_neg isGuid]
      have different : looked ≠ guid := by
        intro same
        rw [same, Function.update_self] at found
        obtain ⟨old, connected, _⟩ := Option.map_eq_some_iff.mp found
        have low := (records.players guid old connected).1
        exact isGuid (same.trans low.symm)
      rw [Function.update_of_ne different] at found
      exact (synced looked).field player found

theorem Realm.Reachable.addMember {rankId other : Nat}
    (reachable : realm.Reachable guid)
    (joined : Roster.addMember other rankId guild realm = some result) :
    (result.2.setGuild result.1).Reachable guid := by
  obtain ⟨name, _, rfl⟩ := addMember_case joined
  exact reachable.moved (onPlayer_places fun _ => rfl)

theorem addMember_rowGuildId {rankId other looked : Nat}
    (records : realm.Records) (numbered : guild.id ≠ 0)
    (joined : Roster.addMember other rankId guild realm = some result)
    (free : (result.2.setGuild result.1).rowGuildId looked = 0) :
    realm.rowGuildId looked = 0 ∧ looked ≠ guidLopart other := by
  obtain ⟨name, _, rfl⟩ := addMember_case joined
  unfold Realm.rowGuildId Realm.setGuild at free
  rw [onPlayer_guildMember] at free
  unfold Realm.insertRow at free
  dsimp only at free
  by_cases same : looked = guidLopart other
  · exfalso
    rw [same, Function.update_self] at free
    cases row : realm.guildMember (guidLopart other) with
    | none =>
      simp_all
    | some written =>
      rw [row] at free
      exact (records.rows _ written row).1 free
  · rw [Function.update_of_ne same] at free
    exact ⟨free, same⟩

theorem synced_addSigners {guildId : Nat} (signers : List Nat) (synced : realm.Synced)
    (records : realm.Records) (stored : realm.guilds guildId = some guild)
    (named : guild.id = guildId) (sound : guild.Sound)
    (reachable : ∀ guid ∈ signers, realm.rowGuildId (guidLopart guid) = 0 → realm.Reachable guid) :
    (addSigners guildId signers realm).Synced := by
  induction signers generalizing realm guild with
  | nil => exact synced
  | cons guid rest ih =>
    unfold addSigners
    rw [stored]
    dsimp only
    cases joined : addMember guid guildRankNone guild realm with
    | none =>
      apply ih synced records stored named sound
      intro other inRest
      exact reachable other (List.mem_cons_of_mem guid inRest)
    | some result =>
      obtain ⟨grown, written⟩ := result
      dsimp only
      have numbered := Nat.ne_of_gt sound.id
      have reassigned := addMember_reassigned joined
      have bounded : guild.joiningRank guildRankNone < guildRanksMaxCount :=
        sound.lowestRankId_lt_max
      have recorded := records_addMember records numbered bounded joined
      obtain ⟨name, free, _⟩ := addMember_case joined
      have noRow : realm.rowGuildId (guidLopart guid) = 0 := by
        unfold Realm.rowGuildId
        rw [free.row_eq_none synced records]
      have found := reachable guid List.mem_cons_self noRow
      have joinedSynced := synced_addMember synced records
        (fun looked => hasMember_stored (named ▸ stored)) joined found
      have grownNamed : grown.id = guildId := reassigned.id.trans named
      have grownSound : grown.Sound := by
        apply reassigned.sound sound
        exact roles_update sound.held ⟨guidLopart_guidLopart guid, bounded⟩
      apply ih joinedSynced (records_guilds recorded) _ grownNamed grownSound
      · intro other inRest noRow
        have freeBefore := addMember_rowGuildId records numbered joined noRow
        exact (reachable other (List.mem_cons_of_mem guid inRest) freeBefore.1).addMember joined
      · simp [Realm.setGuild, grownNamed]

end Records

/-! ### Events -/

section Events

variable {realm : Realm} {event : Event} {actor : Nat} {player : Player} {walk : Walk}

theorem synced_create {name : String} {signers : List Nat} (sound : realm.Sound)
    (synced : realm.Synced) (inWorld : realm.getPlayer actor = some player)
    (settled : realm.hasGuildNamed name = false → ∀ guid ∈ signers, guidLopart guid ≠ actor →
      realm.getGuildIdFromDB guid = 0 → realm.Reachable guid) :
    (create actor name signers realm).Synced := by
  unfold create
  split
  · exact synced
  · rename_i unnamed
    have allReachable := settled (Bool.eq_false_of_not_eq_true unnamed)
    obtain ⟨connected, entered⟩ := getPlayer_eq_some.mp inWorld
    have low := (sound.records.players actor player connected).1
    have numberedSynced : ({ realm with nextGuildId := realm.nextGuildId + 1 } : Realm).Synced :=
      synced_sameIds synced rfl ⟨fun _ => rfl, (sameIds_refl realm).players⟩
    have numberedRecords : ({ realm with nextGuildId := realm.nextGuildId + 1 } : Realm).Records :=
      ⟨sound.records.players, sound.records.rows, sound.records.characters⟩
    dsimp only
    cases joined : addMember actor grGuildMaster _ _ with
    | none => exact numberedSynced
    | some result =>
      obtain ⟨guild, written⟩ := result
      dsimp only
      have numbered := Nat.ne_of_gt sound.fresh
      have reassigned := addMember_reassigned joined
      have founderReachable : ({ realm with nextGuildId := realm.nextGuildId + 1 } :
          Realm).Reachable actor := by
        intro found isFound
        rw [low] at isFound
        have same := Option.some.inj (isFound.symm.trans connected)
        exact ⟨low, same ▸ entered⟩
      have joinedSynced := synced_addMember numberedSynced numberedRecords
        (by
          intro guid
          constructor
          · intro held
            obtain ⟨old, stored, _⟩ := hasMember_iff.mp held
            exact absurd (sound.guilds _ old stored).2.1 (Nat.lt_irrefl _)
          · intro impossible
            exact absurd rfl impossible) joined founderReachable
      have bounded : ∀ guild : Guild, guild.joiningRank grGuildMaster < guildRanksMaxCount := by
        intro guild
        exact Nat.zero_lt_succ 9
      have recorded := records_addMember numberedRecords numbered (bounded _) joined
      have founded : Founded actor guild := by
        apply Founded.founder
        · grind [reassigned.id]
        · exact low
        · exact reassigned.ranks
        · exact reassigned.leaderGuid
        · exact reassigned.roles
      have stored : (written.setGuild guild).guilds guild.id = some guild :=
        Function.update_self _ _ _
      apply @synced_addSigners _ guild guild.id signers joinedSynced
        (records_guilds recorded) stored rfl founded.sound
      intro guid member noRow
      obtain ⟨freeBefore, other⟩ := addMember_rowGuildId numberedRecords numbered joined noRow
      rw [low] at other
      have reachable : ({ realm with nextGuildId := realm.nextGuildId + 1 } :
          Realm).Reachable guid := allReachable guid member other freeBefore
      exact reachable.addMember joined

variable {guild : Guild}

theorem Acting.member (acting : Acting realm actor player guild)
    (sound : realm.Sound) (synced : realm.Synced) : guild.rankOf actor ≠ none := by
  obtain ⟨stored, named, sane⟩ := sound.guild_stored acting.guild
  have connected := (getPlayer_eq_some.mp acting.inWorld).1
  have row := (synced actor).field player connected
  rw [← hasMember_stored stored, ← (synced actor).row guild.id (Nat.ne_of_gt sane.id), ← row]
  exact named.symm

theorem Acting.reachable (acting : Acting realm actor player guild)
    (sound : realm.Sound) : realm.Reachable actor := by
  obtain ⟨connected, entered⟩ := getPlayer_eq_some.mp acting.inWorld
  have low := (acting.low sound).1
  intro found isFound
  rw [low] at isFound
  have same := Option.some.inj (isFound.symm.trans connected)
  exact ⟨low, same ▸ entered⟩

theorem eq_of_length_le_one {α : Type} {entries : List α} {first second : α}
    (short : entries.length ≤ 1) (isFirst : first ∈ entries) (isSecond : second ∈ entries) :
    first = second := by
  rcases entries with _ | ⟨head, _ | ⟨another, rest⟩⟩
  · cases isFirst
  · exact (List.mem_singleton.mp isFirst).trans (List.mem_singleton.mp isSecond).symm
  · exact absurd short (Nat.not_le_of_lt (Nat.succ_lt_succ (Nat.succ_pos _)))

theorem synced_handleLeaveMember (sound : realm.Sound) (synced : realm.Synced)
    (acting : Acting realm actor player guild) :
    (handleLeaveMember actor guild realm walk).Synced := by
  obtain ⟨stored, named, sane⟩ := sound.guild_stored acting.guild
  have member := acting.member sound synced
  have reachable := acting.reachable sound
  have low := (acting.low sound).1
  unfold handleLeaveMember
  split
  · split
    · exact synced
    · rename_i alone
      apply synced_disband synced sound.records stored sane
      -- the leader is in the member map, so he is the one entry of it
      intro guid found isMember
      obtain ⟨rank, isRank⟩ := Option.ne_none_iff_exists'.mp member
      obtain ⟨self, isSelf, _⟩ := rankOf_eq_some.mp isRank
      have first := OrdMap.find_eq_some.mp isMember
      have second := OrdMap.find_eq_some.mp isSelf
      have short : guild.members.entries.length ≤ 1 := Nat.le_of_not_lt alone
      have same := eq_of_length_le_one short first second
      rw [Prod.mk.injEq] at same
      exact same.1 ▸ reachable
  · exact synced_deleteMember synced sound.records stored sane (low.symm ▸ member) reachable

theorem synced_handleUpdateMemberRank {guid : Nat} {demote : Bool}
    (synced : realm.Synced) (stored : realm.guilds guild.id = some guild) :
    (handleUpdateMemberRank actor player guild realm guid demote).Synced := by
  rcases @handleUpdateMemberRank_case realm actor guid player guild demote with
    refused | ⟨member, rank, inMap, checked, eq⟩
  · simp_all
  · rw [eq]
    refine synced_setGuild synced stored changeRank_guilds sameIds_changeRank rfl ?_
    intro looked
    rw [changeRank_rankOf]
    exact rankOf_update_of_member (rankOf_eq_some.mpr ⟨member, inMap, rfl⟩)

theorem synced_handleSetLeader {name : String} (synced : realm.Synced)
    (stored : realm.guilds guild.id = some guild) :
    (handleSetLeader actor guild realm walk name).Synced := by
  rcases @handleSetLeader_case realm actor guild walk name with
    refused | ⟨guid, newLeader, oldLeader, leads, found, still, eq⟩
  · simp_all
  · rw [eq]
    have inMap := getMemberNamed_find found
    have led : (setLeaderGUID guid newLeader guild realm).1.rankOf =
        Function.update guild.rankOf guid (some grGuildMaster) := changeRank_rankOf
    refine synced_setGuild synced stored (changeRank_guilds.trans changeRank_guilds)
      (sameIds_changeRank.trans sameIds_changeRank) rfl ?_
    intro looked
    rw [changeRank_rankOf, rankOf_update_of_member (rankOf_eq_some.mpr ⟨oldLeader, still, rfl⟩),
      led]
    exact rankOf_update_of_member (rankOf_eq_some.mpr ⟨newLeader, inMap, rfl⟩)

section

variable (sound : realm.Sound) (synced : realm.Synced)
include sound synced

theorem synced_serveGuild {request : Request}
    (acting : Acting realm actor player guild)
    (settled : Settled realm (.request actor walk request)) :
    (serveGuild walk actor player guild realm request).Synced := by
  obtain ⟨stored, named, sane⟩ := sound.guild_stored acting.guild
  have records := sound.records
  cases request with
  | invite invitee agreeable =>
    unfold serveGuild handleInviteMember
    dsimp only
    repeat' split
    all_goals first
      | exact synced
      | skip
    refine synced_sameIds synced onPlayer_guilds (sameIds_onPlayer ?_ ?_) <;> exact fun _ => rfl
  | leave => exact synced_handleLeaveMember sound synced acting
  | remove guid =>
    unfold serveGuild handleRemoveMember
    dsimp only
    split
    · rename_i permitted
      split
      · exact synced
      · rename_i member inMap
        split
        · exact synced
        · split
          · exact synced
          · rename_i above
            have isMember : guild.rankOf (guidLopart guid) ≠ none := by
              rw [rankOf_eq_some.mpr ⟨member, inMap, rfl⟩]
              exact Option.some_ne_none _
            exact synced_deleteMember synced records stored sane isMember
              (settled player guild member acting permitted inMap (Nat.lt_of_not_le above))
    · exact synced
  | promote guid | demote guid => exact synced_handleUpdateMemberRank synced stored
  | disband =>
    unfold serveGuild handleDisband
    dsimp only
    split
    · rename_i leads
      exact synced_disband synced records stored sane (settled player guild acting leads)
    · exact synced
  | setLeader name => exact synced_handleSetLeader synced stored
  | create name signers => exact synced
  | accept allied => exact synced
  | decline => exact synced
  | rank packet => exact synced
  | _ => exact (@touched_serveGuild _ _ _ _ walk _ acting rfl).synced synced stored

theorem synced_handleAcceptMember {allied : Bool}
    (inWorld : realm.getPlayer actor = some player)
    (stored : realm.guilds guild.id = some guild) :
    (handleAcceptMember actor guild realm allied).Synced := by
  unfold handleAcceptMember
  split
  · split
    · exact synced
    · rename_i grown written joined
      obtain ⟨connected, entered⟩ := getPlayer_eq_some.mp inWorld
      have low := (sound.records.players actor player connected).1
      apply synced_addMember synced sound.records (fun guid => hasMember_stored stored) joined
      intro found isFound
      rw [low] at isFound
      have same := Option.some.inj (isFound.symm.trans connected)
      exact ⟨low, same ▸ entered⟩
  · exact synced

theorem synced_serve {request : Request}
    (inWorld : realm.getPlayer actor = some player)
    (settled : Settled realm (.request actor walk request)) :
    (serve walk actor player realm request).Synced := by
  cases request with
  | create name signers =>
    unfold serve
    dsimp only
    split
    · exact synced
    · rename_i free
      apply synced_create sound synced inWorld
      exact settled player inWorld (Decidable.not_not.mp free)
  | accept allied =>
    unfold serve
    dsimp only
    split
    · exact synced
    · split
      · exact synced
      · rename_i guild invited
        have named := (sound.guilds _ guild invited).1
        exact synced_handleAcceptMember sound synced inWorld (named.symm ▸ invited)
  | decline =>
    have connected := (getPlayer_eq_some.mp inWorld).1
    refine synced_sameIds synced rfl ⟨fun _ => rfl, ?_⟩
    intro looked found isFound
    change Function.update realm.players actor _ looked = some found at isFound
    by_cases same : looked = actor
    · rw [same, Function.update_self, Option.some_inj] at isFound
      subst isFound
      exact ⟨player, same ▸ connected, (settled player inWorld).symm, rfl⟩
    · simp_all
  | rank packet =>
    rcases @handleGuildRank_case realm actor player walk packet inWorld with
      refused | ⟨guild, isGuild, touched⟩
    · have unserved : serve walk actor player realm (.rank packet) = realm := refused
      rw [unserved]
      exact synced
    · exact touched.synced synced (sound.guild_stored isGuild).1
  | _ =>
    unfold serve
    dsimp only
    split
    · exact synced
    · rename_i guild isGuild
      exact synced_serveGuild sound synced ⟨inWorld, isGuild⟩ settled

end

theorem aligned_connect {guid : Nat} {connected : Option Player} (synced : realm.Synced)
    (field : ∀ player, connected = some player → player.guildId = realm.rowGuildId guid) :
    ({ realm with players := Function.update realm.players guid connected } : Realm).Synced := by
  intro looked
  refine ⟨(synced looked).row, ?_⟩
  intro player found
  change Function.update realm.players guid connected looked = some player at found
  by_cases same : looked = guid
  · rw [same, Function.update_self] at found
    exact same ▸ field player found
  · rw [Function.update_of_ne same] at found
    exact (synced looked).field player found

theorem synced_login {guid : Nat} (sound : realm.Sound) (synced : realm.Synced) :
    (login guid realm).Synced := by
  unfold login
  split
  · apply aligned_connect synced
    intro player found
    rw [Option.some_inj] at found
    subst found
    unfold Realm.rowGuildId
    cases row : realm.guildMember guid with
    | none =>
      simp
    | some written =>
      rw [Option.getD_some]
      have numbered := (sound.records.rows guid written row).1
      have named : realm.rowGuildId guid = written.guildId := by
        simp [Realm.rowGuildId, row]
      obtain ⟨guild, _, stored, _⟩ := ((synced guid).row written.guildId numbered).mp named
      rw [stored, Option.isSome_some, if_pos rfl]
  · exact synced

theorem next_synced (realm : Realm) (event : Event) (held : realm.Sound ∧ realm.Synced)
    (settled : Settled realm event) : (next realm event).Sound ∧ (next realm event).Synced := by
  obtain ⟨sound, synced⟩ := held
  refine ⟨next_sound sound event, ?_⟩
  cases event with
  | request actor walk request =>
    cases inWorld : realm.getPlayer actor with
    | none =>
      simp_all [next]
    | some player =>
      rw [next_request inWorld]
      exact synced_serve sound synced inWorld settled
  | login guid => exact synced_login sound synced
  | logout guid =>
    apply aligned_connect synced
    intro player impossible
    cases impossible
  | leaveWorld guid | enterWorld guid =>
    apply aligned_connect synced
    intro player found
    obtain ⟨old, connected, rfl⟩ := Option.map_eq_some_iff.mp found
    exact (synced guid).field old connected
  | deleteMember guid walk =>
    unfold next
    dsimp only
    split
    · exact synced
    · rename_i inGuild
      split
      · exact synced
      · rename_i guild isGuild
        obtain ⟨named, _, sane⟩ := sound.guilds _ guild isGuild
        have stored : realm.guilds guild.id = some guild := named.symm ▸ isGuild
        have row : realm.rowGuildId (guidLopart guid) = guild.id := by
          rw [named]
          unfold Realm.guildIdOf
          cases found : realm.getPlayer (guidLopart guid) with
          | some player =>
            exact ((synced _).field player (getPlayer_eq_some.mp found).1).symm
          | none =>
            unfold Realm.getGuildIdFromDB
            rw [guidLopart_guidLopart]
            rfl
        have member := ((synced _).row guild.id (Nat.ne_of_gt sane.id)).mp row
        apply synced_deleteMember synced sound.records stored sane _ (settled inGuild)
        rw [guidLopart_guidLopart]
        exact (hasMember_stored stored).mp member

theorem Realm.Synced.inStep (synced : realm.Synced) (sound : realm.Sound) : realm.InStep where
  stored := by
    intro guid id named
    rw [← (synced guid).row id named]
    unfold Realm.storedGuildId
    split
    · rename_i player connected
      rw [(synced guid).field player connected]
    · exact Iff.rfl
  single := by
    have named : ∀ guid id, realm.HasMember id guid → id ≠ 0 := by
      rintro guid id ⟨guild, _, stored, _⟩
      obtain ⟨isId, _, sane⟩ := sound.guilds id guild stored
      exact isId ▸ Nat.ne_of_gt sane.id
    intro guid first second inFirst inSecond
    exact (synced guid).single (named guid first inFirst) (named guid second inSecond) inFirst
      inSecond

end Events

theorem initial_synced (characters : Nat → Option String) (nextItemGuid : Nat)
    (darkCoreString : Nat → String) :
    (Realm.initial characters nextItemGuid darkCoreString).Synced := by
  intro guid
  constructor
  · intro id named
    constructor
    · intro impossible
      exact absurd impossible.symm named
    · rintro ⟨_, _, impossible, _⟩
      cases impossible
  · intro player impossible
    cases impossible

/-- Member maps, rows and fields stay in step along every run in which nobody declines an
invitation while he is in a guild, and whoever is connected and is added or removed by others is
in the world. -/
theorem memberships_stay_in_step (characters : Nat → Option String) (nextItemGuid : Nat)
    (darkCoreString : Nat → String) (events : List Event)
    (steps : Along next Settled (Realm.initial characters nextItemGuid darkCoreString) events) :
    Always next Realm.InStep (Realm.initial characters nextItemGuid darkCoreString) events := by
  have start : (Realm.initial characters nextItemGuid darkCoreString).Sound ∧
      (Realm.initial characters nextItemGuid darkCoreString).Synced :=
    ⟨initial_sound characters nextItemGuid darkCoreString,
      initial_synced characters nextItemGuid darkCoreString⟩
  have run := always_of_step next_synced start steps
  exact run.imp fun _ held => held.2.inStep held.1

theorem memberships_stay_in_step_opening :
    Always next Realm.InStep opening
      [.login 1, .login 2, .request 1 walkInOrder (.create "Guild" []),
        .request 1 walkInOrder (.invite 2 true), .request 2 walkInOrder (.accept true),
        .request 2 walkInOrder .leave] := by
  apply memberships_stay_in_step openingNames 1 (fun _ => "")
  refine ⟨trivial, trivial, ?_, trivial, trivial, trivial, trivial⟩
  intro player inWorld free unnamed guid impossible
  cases impossible

/-- A member declines an invitation he does not have. -/
theorem declining_member_out_of_step :
    ¬∀ (characters : Nat → Option String) (nextItemGuid : Nat) (darkCoreString : Nat → String)
      (events : List Event),
      Always next Realm.InStep (Realm.initial characters nextItemGuid darkCoreString) events := by
  intro inStep
  have atEnd := (inStep openingNames 1 (fun _ => "")
    (founding ++ [.request 2 walkInOrder .decline])).last
  have member : Realm.HasMember
      ((founding ++ [Event.request 2 walkInOrder .decline]).foldl next opening) 1 2 :=
    ⟨_, _, rfl, rfl⟩
  have stored := (atEnd.stored 2 1 Nat.one_ne_zero).mpr member
  revert stored
  decide +kernel

end DarkCore.Guilds.Roster
