/-
The rank table of a guild. Rank ids double as indices into the table, so the
table is in order as long as each rank stands at its id, and it is meant to be
altered by the leader of the guild only.
-/

import DarkCore.Guilds.RosterRuns

namespace DarkCore.Guilds.Roster

open Lib Items

structure Guild.Ordered (guild : Guild) : Prop where
  ids : ∀ (index : Nat) (rank : RankInfo), guild.ranks[index]? = some rank → rank.rankId = index
  atLeast : guildRanksMinCount ≤ guild.ranks.length
  atMost : guild.ranks.length ≤ guildRanksMaxCount
  held : ∀ guid member, guild.members.find guid = some member →
    member.rankId < guild.ranks.length

/-- No switch of ranks passes the checks, and a rank that is removed is the last one and held by
nobody. -/
def KeepsOrder (realm : Realm) : Event → Prop
  | .request actor _ (.rank packet) =>
    ∀ player guild, Acting realm actor player guild → actor = packet.playerGuid →
      player.guildId = guidLopart packet.guildGuid →
      switches packet.oldRankId packet.newRankId = false
  | .request actor _ (.delRank rankId) =>
    ∀ player guild, Acting realm actor player guild → guild.isLeader actor = true →
      guildRanksMinCount < guild.ranks.length → rankId % 256 < guild.ranks.length →
      rankId % 256 + 1 = guild.ranks.length ∧
        ∀ guid member, guild.members.find guid = some member → member.rankId ≠ rankId % 256
  | _ => True

section Order

variable {realm : Realm} {event : Event} {before after : Guild}

theorem Guild.Ordered.roles (ordered : before.Ordered) :
    ∀ guid rank, before.rankOf guid = some rank → rank < before.ranks.length := by
  intro guid rank held
  obtain ⟨member, found, rfl⟩ := rankOf_eq_some.mp held
  exact ordered.held guid member found

theorem Guild.Ordered.held_of_roles
    (roles : ∀ guid rank, after.rankOf guid = some rank → rank < after.ranks.length) :
    ∀ guid member, after.members.find guid = some member →
      member.rankId < after.ranks.length := by
  intro guid member found
  exact roles guid member.rankId (rankOf_eq_some.mpr ⟨member, found, rfl⟩)

theorem ids_of_rankIds (ordered : before.Ordered)
    (same : after.ranks.map RankInfo.rankId = before.ranks.map RankInfo.rankId) :
    ∀ (index : Nat) (rank : RankInfo), after.ranks[index]? = some rank → rank.rankId = index := by
  intro index rank found
  have mapped : (before.ranks.map RankInfo.rankId)[index]? = some rank.rankId := by
    rw [← same, List.getElem?_map, found, Option.map_some]
  rw [List.getElem?_map] at mapped
  obtain ⟨old, stored, idEq⟩ := Option.map_eq_some_iff.mp mapped
  exact idEq ▸ ordered.ids index old stored

theorem Edit.ordered (edit : Edit before after) (ordered : before.Ordered) : after.Ordered where
  ids := ids_of_rankIds ordered edit.rankIds
  atLeast := by
    rw [edit.ranks_length]
    exact ordered.atLeast
  atMost := by
    rw [edit.ranks_length]
    exact ordered.atMost
  held := by
    apply Guild.Ordered.held_of_roles
    rw [edit.roles, edit.ranks_length]
    exact ordered.roles

theorem Reassigned.ordered {leaderGuid : Nat} {roles : Nat → Option Nat}
    (reassigned : Reassigned before leaderGuid roles after) (ordered : before.Ordered)
    (held : ∀ guid rank, roles guid = some rank → rank < before.ranks.length) :
    after.Ordered where
  ids := by
    rw [reassigned.ranks]
    exact ordered.ids
  atLeast := by
    rw [reassigned.ranks]
    exact ordered.atLeast
  atMost := by
    rw [reassigned.ranks]
    exact ordered.atMost
  held := by
    apply Guild.Ordered.held_of_roles
    rw [reassigned.roles, reassigned.ranks]
    exact held

theorem createRank_ids {name : String} {rights : Nat} (ordered : before.Ordered)
    (room : before.ranks.length < guildRanksMaxCount) :
    ∀ (index : Nat) (rank : RankInfo), (createRank name rights before.ranks)[index]? = some rank →
      rank.rankId = index := by
  intro index rank found
  unfold createRank at found
  rw [if_neg (Nat.not_le_of_lt room)] at found
  rcases Nat.lt_trichotomy index before.ranks.length with inOld | last | beyond
  · rw [List.getElem?_append_left inOld] at found
    exact ordered.ids index rank found
  · grind
  · grind

theorem eraseIdx_ids {rankId : Nat} (ordered : before.Ordered)
    (last : rankId + 1 = before.ranks.length) :
    ∀ (index : Nat) (rank : RankInfo), (before.ranks.eraseIdx rankId)[index]? = some rank →
      rank.rankId = index := by
  intro index rank found
  have bound : index < rankId := by
    have inTable := (List.getElem?_eq_some_iff.mp found).1
    rw [List.length_eraseIdx_of_lt (by omega)] at inTable
    omega
  rw [List.getElem?_eraseIdx_of_lt bound] at found
  exact ordered.ids index rank found

theorem createDefaultGuildRanks_rankIds (darkCoreString : Nat → String) :
    (createDefaultGuildRanks darkCoreString).map RankInfo.rankId = List.range 5 := rfl

theorem Founded.ordered {actor : Nat} (founded : Founded actor after) : after.Ordered := by
  induction founded with
  | @founder guild darkCoreString id low ranks leader roles =>
    have sound := (Founded.founder id low ranks leader roles).sound
    refine ⟨?_, sound.atLeast, sound.atMost, ?_⟩
    · intro index rank found
      rw [ranks] at found
      have bound : index < 5 := (List.getElem?_eq_some_iff.mp found).1
      have mapped : ((createDefaultGuildRanks darkCoreString).map RankInfo.rankId)[index]? =
          some rank.rankId := by
        rw [List.getElem?_map, found, Option.map_some]
      rw [createDefaultGuildRanks_rankIds, List.getElem?_range bound, Option.some_inj] at mapped
      exact mapped.symm
    · apply Guild.Ordered.held_of_roles
      rw [roles, ranks, createDefaultGuildRanks_length]
      apply roles_update
      · simp
      · decide
  | signed founded other joined ih =>
    apply joined.ordered ih
    exact roles_update ih.roles founded.sound.lowestRankId_lt

theorem Change.ordered (change : Change realm event before after) (sound : before.Sound)
    (ordered : before.Ordered) (keeps : KeepsOrder realm event) : after.Ordered := by
  have lowest := sound.lowestRankId_lt
  have atLeast : 3 ≤ before.ranks.length := ordered.atLeast
  cases change with
  | edited edit ranks => exact edit.ordered ordered
  | ranked acting sender own notMaster =>
    have unswitched := keeps _ _ acting sender own
    unfold Guild.afterRankPacket
    rw [unswitched, if_neg Bool.false_ne_true]
    exact (handleSetRankInfo_edit _ _ _ _ _ _ _).ordered ordered
  | bought acting following priced room => exact (afterPurchase_edit _ _ _).ordered ordered
  | rankAdded acting leads room =>
    have grown := @createRank_length "New Rank" (grRightGchatlisten ||| grRightGchatspeak) _ room
    refine ⟨createRank_ids ordered room, ?_, ?_, ?_⟩
    · rw [grown]
      exact Nat.le_succ_of_le ordered.atLeast
    · grind
    · intro guid member found
      rw [grown]
      exact Nat.lt_succ_of_lt (ordered.held guid member found)
  | rankRemoved acting leads many inTable =>
    obtain ⟨last, unheld⟩ := keeps _ _ acting leads many inTable
    have shrunk := List.length_eraseIdx_of_lt inTable
    refine ⟨eraseIdx_ids ordered last, ?_, ?_, ?_⟩
    · grind
    · rw [shrunk]
      exact Nat.le_trans (Nat.sub_le _ 1) ordered.atMost
    · intro guid member found
      have held := ordered.held guid member found
      have other := unheld guid member found
      rw [shrunk]
      omega
  | joined inWorld free invited reassigned =>
    apply reassigned.ordered ordered
    exact roles_update ordered.roles lowest
  | left follows reassigned => exact reassigned.ordered ordered (roles_remove ordered.roles)
  | succeeded heir other reassigned =>
    apply reassigned.ordered ordered
    apply roles_remove
    apply roles_update ordered.roles
    change 0 < _
    omega
  | promoted acting found below reassigned =>
    have held := ordered.roles _ _ found
    have atMost : before.ranks.length ≤ 10 := ordered.atMost
    apply reassigned.ordered ordered
    apply roles_update ordered.roles
    omega
  | demoted acting found below above reassigned =>
    have lowestEq := sound.lowestRankId_eq
    apply reassigned.ordered ordered
    apply roles_update ordered.roles
    omega
  | led acting leads named found reassigned =>
    apply reassigned.ordered ordered
    apply roles_update
    · apply roles_update ordered.roles
      change 0 < _
      omega
    · change 1 < _
      omega

def AllOrdered (realm : Realm) : Prop :=
  ∀ id guild, realm.guilds id = some guild → guild.Ordered

theorem next_ordered (realm : Realm) (event : Event) (held : realm.Sound ∧ AllOrdered realm)
    (keeps : KeepsOrder realm event) :
    (next realm event).Sound ∧ AllOrdered (next realm event) := by
  obtain ⟨sound, ordered⟩ := held
  refine ⟨next_sound sound event, ?_⟩
  intro id after found
  rcases next_change sound found with ⟨before, old, change⟩ | ⟨_, _, ⟨actor, founded⟩, _⟩
  · exact change.ordered (sound.guilds id before old).2.2 (ordered id before old) keeps
  · exact founded.ordered

end Order

/-- Rank tables are in order all along a run without switches of ranks in which no rank but the
last is removed, and only when nobody holds it. -/
theorem rank_tables_stay_ordered (characters : Nat → Option String) (nextItemGuid : Nat)
    (darkCoreString : Nat → String) (events : List Event)
    (steps : Along next KeepsOrder (Realm.initial characters nextItemGuid darkCoreString) events) :
    Always next AllOrdered (Realm.initial characters nextItemGuid darkCoreString) events := by
  have start : (Realm.initial characters nextItemGuid darkCoreString).Sound ∧
      AllOrdered (Realm.initial characters nextItemGuid darkCoreString) := by
    refine ⟨initial_sound characters nextItemGuid darkCoreString, ?_⟩
    intro id guild impossible
    cases impossible
  have run := always_of_step next_ordered start steps
  exact run.imp fun _ held => held.2

def RankInfo.HasFullAccess (rank : RankInfo) (tabId : Nat) : Prop :=
  rank.bankMoneyPerDay = guildWithdrawMoneyUnlimited ∧
    rank.bankTabRightsAndSlots tabId = guildMasterValues

/-- The two ways in which a request of anybody alters ranks: a switch of two ranks, unless both
are in the table and the same, and the purchase of a tab by a buyer whose rank has less than full
access. -/
def AltersRanks (realm : Realm) (actor id : Nat) : Request → Prop
  | .rank packet =>
    ∃ player guild, Acting realm actor player guild ∧ guild.id = id ∧
      actor = packet.playerGuid ∧ player.guildId = guidLopart packet.guildGuid ∧
      switches packet.oldRankId packet.newRankId = true ∧
      ¬∃ rank, guild.ranks[packet.oldRankId]? = some rank ∧
        guild.ranks[packet.newRankId]? = some rank
  | .buyTab tabId affordable =>
    affordable = true ∧
      ∃ player guild rank, Acting realm actor player guild ∧ guild.id = id ∧
        tabId = guild.purchasedTabs ∧ getGuildBankTabPrice tabId ≠ 0 ∧
        guild.purchasedTabs < guildBankMaxTabs ∧ guild.ranks[player.rank]? = some rank ∧
        ¬rank.HasFullAccess tabId
  | _ => False

section Authority

variable {realm : Realm} {event : Event} {actor id : Nat} {walk : Walk} {request : Request}
variable {before after : Guild}

theorem handleSetRankInfo_outsider {guild : Guild} {rankId rights moneyPerDay : Nat}
    {name : String} {rightsAndSlots : Nat → BankRightsAndSlots}
    (outsider : guild.isLeader actor = false) :
    handleSetRankInfo actor guild rankId name rights moneyPerDay rightsAndSlots = guild := by
  unfold handleSetRankInfo
  rw [outsider, if_neg Bool.false_ne_true]

theorem switchRank_same {oldID newID : Nat} {ranks : List RankInfo} {rank : RankInfo}
    (old : ranks[oldID]? = some rank) (new : ranks[newID]? = some rank) :
    switchRank oldID newID ranks = ranks := by
  obtain ⟨oldBound, oldEq⟩ := List.getElem?_eq_some_iff.mp old
  obtain ⟨newBound, newEq⟩ := List.getElem?_eq_some_iff.mp new
  have setOld : ranks.set oldID rank = ranks := by
    rw [← oldEq, List.set_getElem_self]
  unfold switchRank
  rw [old, new]
  dsimp only
  rw [setOld, ← newEq, List.set_getElem_self]

def RankInfo.grant (tabId : Nat) (rank : RankInfo) : RankInfo :=
  (rank.setBankMoneyPerDay guildWithdrawMoneyUnlimited).setBankTabSlotsAndRights tabId
    guildMasterValues

theorem grant_eq (rank : RankInfo) (tabId : Nat) :
    rank.grant tabId =
      { rank with
        bankMoneyPerDay := guildWithdrawMoneyUnlimited
        bankTabRightsAndSlots :=
          Function.update rank.bankTabRightsAndSlots tabId guildMasterValues } := by
  unfold RankInfo.grant RankInfo.setBankTabSlotsAndRights RankInfo.setBankMoneyPerDay
  rw [ite_self, ite_self]

theorem grant_eq_self {rank : RankInfo} {tabId : Nat} :
    rank.grant tabId = rank ↔ rank.HasFullAccess tabId := by
  rw [grant_eq]
  constructor
  · intro same
    constructor
    · rw [← same]
    · rw [← same]
      exact Function.update_self _ _ _
  · rintro ⟨money, tab⟩
    rw [← money, ← tab, Function.update_eq_self]

theorem afterPurchase_ranks (guild : Guild) (rankId : Nat) :
    (guild.afterPurchase rankId guild.purchasedTabs).ranks =
      guild.ranks.modify rankId (RankInfo.grant guild.purchasedTabs) := by
  unfold Guild.afterPurchase Guild.setRankBankMoneyPerDay
  by_cases inTable : rankId < guild.ranks.length
  · rw [if_pos inTable]
    unfold Guild.setRankBankTabRightsAndSlots Guild.onRank Guild.onMembersOf
    rw [if_neg (Nat.not_le_of_lt (Nat.lt_succ_self _)), List.length_modify, if_pos inTable]
    rw [List.modify_modify_eq]
    rfl
  · rw [if_neg inTable]
    unfold Guild.setRankBankTabRightsAndSlots
    rw [if_neg (Nat.not_le_of_lt (Nat.lt_succ_self _)), if_neg inTable,
      List.modify_eq_self (Nat.le_of_not_lt inTable)]

theorem modify_eq_self_iff {ranks : List RankInfo} {index : Nat} {rank : RankInfo}
    {change : RankInfo → RankInfo} (found : ranks[index]? = some rank) :
    ranks.modify index change = ranks ↔ change rank = rank := by
  have modified : (ranks.modify index change)[index]? = some (change rank) := by
    simp_all
  constructor
  · grind
  · intro fixed
    apply List.ext_getElem?
    intro looked
    by_cases same : index = looked
    · rw [← same, modified, found, fixed]
    · rw [List.getElem?_modify_ne _ _ same]

theorem Change.ranks_eq (change : Change realm event before after)
    (harmless : ∀ actor walk request, event = .request actor walk request →
      before.isLeader actor = false ∧ ¬AltersRanks realm actor before.id request) :
    after.ranks = before.ranks := by
  cases change with
  | edited edit ranks => exact ranks
  | @ranked actor walk player packet _ acting sender own notMaster =>
    obtain ⟨outsider, unaltered⟩ := harmless _ _ _ rfl
    unfold Guild.afterRankPacket
    rw [handleSetRankInfo_outsider outsider]
    split
    · rename_i switched
      have same : ∃ rank, before.ranks[packet.oldRankId]? = some rank ∧
          before.ranks[packet.newRankId]? = some rank := by
        by_contra different
        exact unaltered ⟨player, before, acting, rfl, sender, own, switched, different⟩
      obtain ⟨rank, old, new⟩ := same
      exact switchRank_same old new
    · rfl
  | @bought actor walk player tabId _ acting following priced room =>
    obtain ⟨_, unaltered⟩ := harmless _ _ _ rfl
    rw [following, afterPurchase_ranks]
    cases inTable : before.ranks[player.rank]? with
    | none => exact List.modify_eq_self (List.getElem?_eq_none_iff.mp inTable)
    | some rank =>
      have full : rank.HasFullAccess tabId := by
        by_contra less
        exact unaltered ⟨rfl, player, before, rank, acting, rfl, following, priced, room,
          inTable, less⟩
      rw [modify_eq_self_iff inTable, grant_eq_self, ← following]
      exact full
  | rankAdded acting leads room =>
    obtain ⟨outsider, _⟩ := harmless _ _ _ rfl
    rw [outsider] at leads
    cases leads
  | rankRemoved acting leads many inTable =>
    obtain ⟨outsider, _⟩ := harmless _ _ _ rfl
    rw [outsider] at leads
    cases leads
  | joined inWorld free invited reassigned => exact reassigned.ranks
  | left follows reassigned => exact reassigned.ranks
  | succeeded heir other reassigned => exact reassigned.ranks
  | promoted acting found below reassigned => exact reassigned.ranks
  | demoted acting found below above reassigned => exact reassigned.ranks
  | led acting leads named found reassigned => exact reassigned.ranks

/-- Away from the leader of a guild: his requests are left out, and so are the two ways in which
others alter ranks. -/
def WithoutLeader (id : Nat) (realm : Realm) : Event → Prop
  | .request actor _ request =>
    (∀ guild, realm.guilds id = some guild → guild.isLeader actor = false) ∧
      ¬AltersRanks realm actor id request
  | _ => True

def HasRanks (id : Nat) (ranks : List RankInfo) (realm : Realm) : Prop :=
  ∀ guild, realm.guilds id = some guild → guild.ranks = ranks

theorem next_hasRanks {ranks : List RankInfo} (realm : Realm) (event : Event)
    (held : (realm.Sound ∧ id < realm.nextGuildId) ∧ HasRanks id ranks realm)
    (away : WithoutLeader id realm event) :
    ((next realm event).Sound ∧ id < (next realm event).nextGuildId) ∧
      HasRanks id ranks (next realm event) := by
  obtain ⟨⟨sound, old⟩, same⟩ := held
  have grows := @next_grows realm event sound
  refine ⟨⟨next_sound sound event, Nat.lt_of_lt_of_le old grows.nextGuildId⟩, ?_⟩
  intro after found
  rcases next_change sound found with ⟨before, stored, change⟩ | ⟨new, _⟩
  · rw [← same before stored]
    apply change.ranks_eq
    rintro actor walk request rfl
    have named := (sound.guilds id before stored).1
    exact ⟨away.1 before stored, named ▸ away.2⟩
  · exact absurd old (Nat.not_lt_of_le (Nat.le_of_eq new.symm))

end Authority

/-- Only requests of its leader alter the ranks of a guild, but for switches of ranks and for
purchases of tabs by ranks with less than full access. -/
theorem ranks_altered_by_leader_only (characters : Nat → Option String) (nextItemGuid : Nat)
    (darkCoreString : Nat → String) (history events : List Event) (id : Nat) (guild : Guild)
    (found : (history.foldl next (Realm.initial characters nextItemGuid darkCoreString)).guilds id =
      some guild)
    (steps : Along next (WithoutLeader id)
      (history.foldl next (Realm.initial characters nextItemGuid darkCoreString)) events) :
    Always next (HasRanks id guild.ranks)
      (history.foldl next (Realm.initial characters nextItemGuid darkCoreString)) events := by
  have sound := reached_sound characters nextItemGuid darkCoreString history
  have old := (sound.guilds id guild found).2.1
  have start : HasRanks id guild.ranks
      (history.foldl next (Realm.initial characters nextItemGuid darkCoreString)) := by
    intro same stored
    rw [found, Option.some_inj] at stored
    exact stored ▸ rfl
  have run := always_of_step next_hasRanks ⟨⟨sound, old⟩, start⟩ steps
  exact run.imp fun _ held => held.2

def walkInOrder : Walk := ⟨id, fun _ => List.Perm.refl _⟩

def openingNames : Nat → Option String
  | 1 => some "Leader"
  | 2 => some "Member"
  | _ => none

def opening : Realm := Realm.initial openingNames 1 fun _ => ""

def founding : List Event :=
  [.login 1, .login 2, .request 1 walkInOrder (.create "Guild" [2])]

def rankPacket (playerGuid oldRankId newRankId : Nat) : RankPacket where
  bankStacks := fun _ => 0
  newRights := 0
  newRankId := newRankId
  oldRankId := oldRankId
  bankRights := fun _ => 0
  guildGuid := 0x1FF6000000000001
  money := 0
  playerGuid := playerGuid
  rankName := ""

theorem rank_tables_stay_ordered_opening :
    Always next AllOrdered opening
      (founding ++ [.request 1 walkInOrder .addRank,
        .request 1 walkInOrder (.rank (rankPacket 1 2 2))]) := by
  apply rank_tables_stay_ordered openingNames 1 (fun _ => "")
  exact ⟨trivial, trivial, trivial, trivial, fun _ _ _ _ _ => rfl, trivial⟩

/-- A member of the lowest rank has two ranks switched, and their ids are switched with them. -/
theorem switched_ranks_out_of_order :
    ¬∀ (characters : Nat → Option String) (nextItemGuid : Nat) (darkCoreString : Nat → String)
      (events : List Event),
      Always next AllOrdered (Realm.initial characters nextItemGuid darkCoreString) events := by
  intro ordered
  have atEnd := (ordered openingNames 1 (fun _ => "")
    (founding ++ [.request 2 walkInOrder (.rank (rankPacket 2 1 2))])).last
  have switched : (((founding ++ [Event.request 2 walkInOrder (.rank (rankPacket 2 1 2))]).foldl
      next opening).guilds 1).map (fun guild : Guild => guild.ranks.map RankInfo.rankId) =
      some [0, 2, 1, 3, 4] := by
    decide +kernel
  obtain ⟨guild, found, ids⟩ := Option.map_eq_some_iff.mp switched
  have second : (guild.ranks.map RankInfo.rankId)[1]? = some 2 := by
    rw [ids]
    rfl
  rw [List.getElem?_map] at second
  obtain ⟨rank, atOne, isTwo⟩ := Option.map_eq_some_iff.mp second
  have isOne := (atEnd 1 guild found).ids 1 rank atOne
  omega

theorem ranks_altered_by_leader_only_opening :
    ∃ guild : Guild, (founding.foldl next opening).guilds 1 = some guild ∧
      Always next (HasRanks 1 guild.ranks) (founding.foldl next opening)
        [.request 2 walkInOrder (.setMOTD "Hello"), .logout 2] := by
  refine ⟨_, rfl, ?_⟩
  apply ranks_altered_by_leader_only openingNames 1 (fun _ => "") founding _ 1 _ rfl
  refine ⟨⟨?_, fun impossible => impossible⟩, trivial, trivial⟩
  intro guild found
  cases found
  rfl

/-- Ranks 1 and 2 of a guild, switched by a member of rank 4. -/
theorem member_switches_ranks :
    ¬∀ (characters : Nat → Option String) (nextItemGuid : Nat) (darkCoreString : Nat → String)
      (history events : List Event) (id : Nat) (guild : Guild),
      (history.foldl next (Realm.initial characters nextItemGuid darkCoreString)).guilds id =
          some guild →
        Along next (fun realm event => ∃ actor walk request, event = .request actor walk request ∧
          ∀ guild, realm.guilds id = some guild → guild.isLeader actor = false)
          (history.foldl next (Realm.initial characters nextItemGuid darkCoreString)) events →
        Always next (HasRanks id guild.ranks)
          (history.foldl next (Realm.initial characters nextItemGuid darkCoreString)) events := by
  intro unaltered
  have outsider : ∀ guild, (founding.foldl next opening).guilds 1 = some guild →
      guild.isLeader 2 = false := by
    intro guild found
    cases found
    rfl
  have atEnd := (unaltered openingNames 1 (fun _ => "") founding
    [.request 2 walkInOrder (.rank (rankPacket 2 1 2))] 1 _ rfl
    ⟨⟨2, walkInOrder, _, rfl, outsider⟩, trivial⟩).last
  have ids := congrArg (fun ranks : List RankInfo => ranks.map RankInfo.rankId) (atEnd _ rfl)
  revert ids
  decide +kernel

end DarkCore.Guilds.Roster
