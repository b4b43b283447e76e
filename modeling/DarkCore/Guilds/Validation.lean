/-
The repair of a guild that was read from the database (`Guild::Validate`): the
rank table first, then the ranks of the members, the leader, and the further
members of the rank of a guild master.
-/

import DarkCore.Guilds.RankTable

namespace DarkCore.Guilds.Roster

open Lib

/-- `_GetRanksSize` -/
def Guild.ranksSize (guild : Guild) : Nat := guild.ranks.length % 256

def Guild.brokenRanks (guild : Guild) : Bool :=
  decide (guild.ranksSize < guildRanksMinCount ∨ guildRanksMaxCount < guild.ranksSize ∨
    ∃ rankId < guild.ranksSize, guild.ranks[rankId]?.map RankInfo.rankId ≠ some rankId)

def Guild.repairRanks (guild : Guild) (darkCoreString : Nat → String) : Guild :=
  if guild.brokenRanks then { guild with ranks := createDefaultGuildRanks darkCoreString }
  else guild

def changeRanks (picks : Nat → Nat → Bool) (newRank : Nat) (guild : Guild) (realm : Realm) :
    Guild × Realm :=
  guild.members.entries.foldl
    (fun state entry =>
      if picks entry.1 entry.2.rankId then changeRank entry.1 entry.2 newRank state.1 state.2
      else state)
    (guild, realm)

/-- The last loop of `Validate`, unless `Guild.AllowMultipleGuildMaster` is set -/
def demoteMasters (allowMultiple : Bool) (guild : Guild) (realm : Realm) : Guild × Realm :=
  if allowMultiple then (guild, realm)
  else
    changeRanks (fun guid rank => rank == grGuildMaster && guid != guild.leaderGuid) grOfficer
      guild realm

/-- `Guild::Validate`; `none` is the answer false, which deletes the guild. -/
def validate (walk : Walk) (allowMultiple : Bool) (guild : Guild) (realm : Realm) :
    Option (Guild × Realm) :=
  let repaired := guild.repairRanks realm.darkCoreString
  let (guild, realm) := changeRanks (fun _ rank => decide (repaired.ranksSize < rank))
    repaired.lowestRankId repaired realm
  match guild.getMember guild.leaderGuid with
  | none =>
    let deleted := deleteMember walk guild.leaderGuid guild realm
    match deleted.guilds guild.id with
    | none => none
    | some led =>
      if led.members.entries.isEmpty then none
      else some (demoteMasters allowMultiple led deleted)
  | some leader =>
    if leader.rankId = grGuildMaster then some (demoteMasters allowMultiple guild realm)
    else
      let (led, realm) := setLeaderGUID (guidLopart guild.leaderGuid) leader guild realm
      some (demoteMasters allowMultiple led realm)

structure Guild.Loaded (guild : Guild) : Prop where
  ranks : guild.ranks.length ≤ 256
  leader : guild.leaderGuid < 2 ^ 32
  members : ∀ guid rank, guild.rankOf guid = some rank → guid < 2 ^ 32

structure Guild.Valid (guild : Guild) : Prop where
  ordered : guild.Ordered
  leader : guild.rankOf guild.leaderGuid = some grGuildMaster

section Validation

variable {guild : Guild} {realm : Realm} {walk : Walk} {darkCoreString : Nat → String}

structure Guild.Tabled (guild : Guild) : Prop where
  ids : ∀ (index : Nat) (rank : RankInfo), guild.ranks[index]? = some rank → rank.rankId = index
  atLeast : guildRanksMinCount ≤ guild.ranks.length
  atMost : guild.ranks.length ≤ guildRanksMaxCount

theorem repairRanks_tabled (loaded : guild.Loaded) : (guild.repairRanks darkCoreString).Tabled := by
  unfold Guild.repairRanks
  cases broken : guild.brokenRanks with
  | true =>
    rw [if_pos rfl]
    refine ⟨?_, ?_, ?_⟩
    · intro index rank found
      have inTable : index < 5 := (List.getElem?_eq_some_iff.mp found).1
      have ids := congrArg (·[index]?) (createDefaultGuildRanks_rankIds darkCoreString)
      simp only [List.getElem?_map, found, List.getElem?_range inTable] at ids
      exact Option.some_inj.mp ids
    · simp [createDefaultGuildRanks_length, guildRanksMinCount]
    · simp [createDefaultGuildRanks_length, guildRanksMaxCount]
  | false =>
    rw [if_neg Bool.false_ne_true]
    unfold Guild.brokenRanks at broken
    rw [decide_eq_false_iff_not] at broken
    simp only [not_or, not_exists, not_and, not_lt, ne_eq, not_not] at broken
    obtain ⟨atLeast, atMost, ids⟩ := broken
    have small := loaded.ranks
    have size : guild.ranksSize = guild.ranks.length := by
      grind [Guild.ranksSize, guildRanksMinCount]
    rw [size] at atLeast atMost ids
    refine ⟨?_, atLeast, atMost⟩
    intro index rank found
    simpa [found] using ids index (List.getElem?_eq_some_iff.mp found).1

theorem repairRanks_keeps : (guild.repairRanks darkCoreString).rankOf = guild.rankOf ∧
    (guild.repairRanks darkCoreString).leaderGuid = guild.leaderGuid := by
  unfold Guild.repairRanks
  split <;> exact ⟨rfl, rfl⟩

theorem changeRanks_keeps (picks : Nat → Nat → Bool) (newRank : Nat) :
    let changed := changeRanks picks newRank guild realm
    changed.1.ranks = guild.ranks ∧ changed.1.leaderGuid = guild.leaderGuid ∧
      changed.1.id = guild.id ∧ changed.2.guilds = realm.guilds := by
  unfold changeRanks
  generalize guild.members.entries = entries
  induction entries generalizing guild realm with
  | nil => exact ⟨rfl, rfl, rfl, rfl⟩
  | cons entry rest ih =>
    rw [List.foldl_cons]
    split
    · obtain ⟨ranks, leader, id, guilds⟩ := @ih (changeRank entry.1 entry.2 newRank guild realm).1
        (changeRank entry.1 entry.2 newRank guild realm).2
      exact ⟨ranks, leader, id, guilds.trans changeRank_guilds⟩
    · exact ih

theorem changeRanks_rankOf (picks : Nat → Nat → Bool) (newRank : Nat) (guid : Nat) :
    (changeRanks picks newRank guild realm).1.rankOf guid =
      (guild.rankOf guid).map fun rank => if picks guid rank then newRank else rank := by
  have turns : ∀ (entries : List (Nat × Member)) (state : Guild × Realm),
      (entries.map Prod.fst).Nodup →
      (∀ entry ∈ entries, state.1.rankOf entry.1 = some entry.2.rankId) →
      (entries.foldl (fun state entry =>
          if picks entry.1 entry.2.rankId then changeRank entry.1 entry.2 newRank state.1 state.2
          else state) state).1.rankOf guid =
        if guid ∈ entries.map Prod.fst then
          (state.1.rankOf guid).map fun rank => if picks guid rank then newRank else rank
        else state.1.rankOf guid := by
    intro entries
    induction entries with
    | nil => simp
    | cons entry rest ih =>
      intro state distinct held
      obtain ⟨new, distinct⟩ := List.nodup_cons.mp distinct
      have here := held entry List.mem_cons_self
      rw [List.foldl_cons]
      by_cases picked : picks entry.1 entry.2.rankId = true
      · rw [if_pos picked, ih _ distinct, changeRank_rankOf]
        · by_cases same : guid = entry.1
          · subst same
            simp [new, here, picked]
          · rw [Function.update_of_ne same]
            simp only [List.map_cons, List.mem_cons, same, false_or]
        · intro other member
          have different : other.1 ≠ entry.1 := by
            rintro same
            exact new (same ▸ List.mem_map_of_mem member)
          rw [changeRank_rankOf, Function.update_of_ne different]
          exact held other (List.mem_cons_of_mem _ member)
      · rw [if_neg picked,
          ih _ distinct fun other member => held other (List.mem_cons_of_mem _ member)]
        by_cases same : guid = entry.1
        · subst same
          simp [new, here, picked]
        · simp only [List.map_cons, List.mem_cons, same, false_or]
  rw [changeRanks, turns _ _ guild.members.keys_nodup]
  · split
    · rfl
    · rename_i missing
      have absent : guild.rankOf guid = none := by
        rw [Guild.rankOf, Option.map_eq_none_iff]
        by_contra present
        exact missing (OrdMap.mem_keys.mpr present)
      rw [absent, Option.map_none]
  · intro entry member
    exact rankOf_eq_some.mpr ⟨entry.2, OrdMap.find_eq_some.mpr member, rfl⟩

theorem findNewLeader_le {lowguid : Nat} {entries : List (Nat × Member)}
    {best : Option (Nat × Member)} {heir : Nat × Member}
    (found : findNewLeader lowguid entries best = some heir) :
    (∀ entry ∈ best, heir.2.rankId ≤ entry.2.rankId) ∧
      ∀ entry ∈ entries, entry.1 ≠ lowguid → heir.2.rankId ≤ entry.2.rankId := by
  induction entries generalizing best with
  | nil =>
    simp_all [findNewLeader]
  | cons entry rest ih =>
    unfold findNewLeader at found
    rw [List.forall_mem_cons]
    split at found
    · rename_i same
      obtain ⟨first, others⟩ := ih found
      exact ⟨first, fun other => absurd same other, others⟩
    · split at found
      · obtain ⟨first, others⟩ := ih found
        exact ⟨by simp, fun _ => first entry rfl, others⟩
      · split at found
        · rename_i lower
          obtain ⟨first, others⟩ := ih found
          have least := first entry rfl
          exact ⟨by simp only [Option.mem_some_iff, forall_eq']; omega, fun _ => least, others⟩
        · obtain ⟨first, others⟩ := ih found
          have least := first _ rfl
          exact ⟨first, fun _ => by omega, others⟩

def Guild.clampedRankOf (guild : Guild) (size guid : Nat) : Option Nat :=
  (guild.rankOf guid).map fun rank => if size < rank then size - 1 else rank

structure Leads (guild : Guild) (size key : Nat) : Prop where
  member : guild.rankOf key ≠ none
  chosen : key = guild.leaderGuid ∨ guild.rankOf guild.leaderGuid = none ∧
    ∀ lowest, guild.clampedRankOf size key = some lowest →
      ∀ other rank, guild.clampedRankOf size other = some rank → lowest ≤ rank

theorem validate_led {allowMultiple : Bool} {result : Guild × Realm} (loaded : guild.Loaded)
    (passes : validate walk allowMultiple guild realm = some result) :
    ∃ led realm', result = demoteMasters allowMultiple led realm' ∧
      led.ranks = (guild.repairRanks realm.darkCoreString).ranks ∧
      Leads guild led.ranks.length led.leaderGuid ∧
      led.rankOf = Function.update (guild.clampedRankOf led.ranks.length) led.leaderGuid
        (some grGuildMaster) := by
  have table := @repairRanks_tabled guild realm.darkCoreString loaded
  obtain ⟨sameRanks, sameLeader⟩ := @repairRanks_keeps guild realm.darkCoreString
  unfold validate at passes
  generalize guild.repairRanks realm.darkCoreString = repaired at *
  have size : repaired.ranksSize = repaired.ranks.length ∧
      repaired.lowestRankId = repaired.ranks.length - 1 := by
    have atLeast := table.atLeast
    have atMost := table.atMost
    unfold Guild.ranksSize Guild.lowestRankId guildRanksMinCount guildRanksMaxCount at *
    omega
  have clamped := @changeRanks_rankOf repaired realm
    (fun _ rank => decide (repaired.ranksSize < rank)) repaired.lowestRankId
  obtain ⟨ranks, leader, id, -⟩ := @changeRanks_keeps repaired realm
    (fun _ rank => decide (repaired.ranksSize < rank)) repaired.lowestRankId
  simp only [sameRanks, size, decide_eq_true_eq] at clamped ranks leader id passes
  generalize changeRanks (fun _ rank => decide (repaired.ranks.length < rank))
    (repaired.ranks.length - 1) repaired realm = looped at *
  obtain ⟨looped, realm⟩ := looped
  rw [leader, sameLeader, Guild.getMember, guidLopart_of_lt loaded.leader] at passes
  have clampedEq : looped.rankOf = guild.clampedRankOf repaired.ranks.length := funext clamped
  rw [sameLeader] at leader
  rw [← ranks] at clampedEq
  cases found : looped.members.find guild.leaderGuid with
  | none =>
    have absent : looped.rankOf guild.leaderGuid = none := by simp [Guild.rankOf, found]
    rw [found] at passes
    dsimp only [deleteMember] at passes
    rw [if_pos leader, guidLopart_of_lt loaded.leader] at passes
    cases chosen : findNewLeader guild.leaderGuid (walk.order looped.members.entries) none with
    | none =>
      rw [chosen] at passes
      simp [disband_guilds] at passes
    | some heir =>
      have inWalk := fun entry => (walk.perm looped.members.entries).mem_iff (a := entry)
      obtain ⟨member, other⟩ := (findNewLeader_mem chosen).resolve_left nofun
      have held : looped.rankOf heir.1 = some heir.2.rankId :=
        rankOf_eq_some.mpr ⟨_, OrdMap.find_eq_some.mpr ((inWalk heir).mp member), rfl⟩
      rw [chosen] at passes
      simp [Realm.setGuild, setLeaderGUID, changeRank] at passes
      have missing : guild.rankOf guild.leaderGuid = none := by
        simpa [absent] using clamped guild.leaderGuid
      refine ⟨_, _, passes.2.symm, ranks, ⟨?_, Or.inr ⟨missing, ?_⟩⟩, ?_⟩
      · grind
      · intro lowest isLowest looked rank hasRank
        rw [← clampedEq] at isLowest hasRank
        obtain ⟨held', inMap, rfl⟩ := rankOf_eq_some.mp hasRank
        obtain rfl := Option.some.inj (held.symm.trans isLowest)
        apply (findNewLeader_le chosen).2 (looked, held')
        · exact (inWalk _).mpr (OrdMap.find_eq_some.mp inMap)
        · grind
      · refine (@rankOf_erase (setLeaderGUID heir.1 heir.2 looped realm).1 _).trans ?_
        rw [setLeaderGUID, changeRank_rankOf, Function.update_comm other]
        refine congrArg (Function.update · _ _) ?_
        exact (Function.update_eq_self_iff.mpr absent.symm).trans clampedEq
  | some member =>
    have present : guild.rankOf guild.leaderGuid ≠ none := by
      intro missing
      have rank := clamped guild.leaderGuid
      rw [missing, Guild.rankOf, found] at rank
      cases rank
    rw [found] at passes
    dsimp only at passes
    split at passes
    · rename_i master
      refine ⟨looped, realm, (Option.some.inj passes).symm, ranks, ?_, ?_⟩
      · rw [leader]
        exact ⟨present, Or.inl rfl⟩
      · rw [leader, ← clampedEq, ← master, Eq.comm, Function.update_eq_self_iff]
        simp [Guild.rankOf, found]
    · refine ⟨_, _, (Option.some.inj passes).symm, ranks, ⟨present, Or.inl rfl⟩, ?_⟩
      exact changeRank_rankOf.trans (congrArg (Function.update · _ _) clampedEq)

theorem demoteMasters_spec (allowMultiple : Bool) :
    let demoted := (demoteMasters allowMultiple guild realm).1
    demoted.ranks = guild.ranks ∧ demoted.leaderGuid = guild.leaderGuid ∧
      ∀ guid, demoted.rankOf guid = (guild.rankOf guid).map fun rank =>
        if allowMultiple = false ∧ rank = grGuildMaster ∧ guid ≠ guild.leaderGuid then grOfficer
        else rank := by
  cases allowMultiple with
  | true => exact ⟨rfl, rfl, fun guid => by simp [demoteMasters]⟩
  | false =>
    obtain ⟨ranks, leader, -⟩ := @changeRanks_keeps guild realm
      (fun guid rank => rank == grGuildMaster && guid != guild.leaderGuid) grOfficer
    refine ⟨ranks, leader, fun guid => ?_⟩
    simp [demoteMasters, changeRanks_rankOf]

theorem demoteMasters_valid_iff {allowMultiple : Bool} {roles : Nat → Option Nat}
    (table : guild.Tabled)
    (led : guild.rankOf = Function.update roles guild.leaderGuid (some grGuildMaster)) :
    (demoteMasters allowMultiple guild realm).1.Valid ↔
      ∀ guid rank, roles guid = some rank → guid ≠ guild.leaderGuid →
        rank < guild.ranks.length := by
  obtain ⟨ranks, leader, demoted⟩ := @demoteMasters_spec guild realm allowMultiple
  have atLeast : 3 ≤ guild.ranks.length := table.atLeast
  rw [led] at demoted
  constructor
  · intro valid guid rank held other
    have after := demoted guid
    rw [Function.update_of_ne other, held, Option.map_some] at after
    obtain ⟨member, found, isRank⟩ := rankOf_eq_some.mp after
    have bound := valid.ordered.held guid member found
    rw [isRank, ranks] at bound
    split at bound
    · rename_i master
      rw [master.2.1, grGuildMaster]
      omega
    · exact bound
  · intro below
    refine ⟨⟨ranks ▸ table.ids, ranks ▸ table.atLeast, ranks ▸ table.atMost, ?_⟩, ?_⟩
    · intro guid member found
      have after := demoted guid
      rw [rankOf_eq_some.mpr ⟨member, found, rfl⟩] at after
      rw [ranks]
      by_cases other : guid = guild.leaderGuid
      · subst other
        simp [grGuildMaster] at after
        omega
      · rw [Function.update_of_ne other, Eq.comm, Option.map_eq_some_iff] at after
        obtain ⟨rank, held, isRank⟩ := after
        have bound := below guid rank held other
        rw [← isRank, grOfficer]
        split <;> omega
    · rw [leader, demoted]
      simp

/-- A guild that passes has a table in order, a leader of the first rank, and members whose ranks
are in the table, exactly if no member had the size of the table as his rank id; the leader, and
somebody who is the only member, gets the first rank anyway. -/
theorem validate_valid_iff (walk : Walk) (allowMultiple : Bool) (guild : Guild) (realm : Realm)
    (loaded : guild.Loaded) (result : Guild × Realm)
    (passes : validate walk allowMultiple guild realm = some result) :
    result.1.Valid ↔
      ∀ guid, guild.rankOf guid = some (guild.repairRanks realm.darkCoreString).ranks.length →
        guid = guild.leaderGuid ∨ ∀ other, guild.rankOf other ≠ none → other = guid := by
  obtain ⟨led, realm', rfl, ranks, leads, roles⟩ := validate_led loaded passes
  have table : led.Tabled := by
    have repaired := @repairRanks_tabled guild realm.darkCoreString loaded
    exact ⟨ranks ▸ repaired.ids, ranks ▸ repaired.atLeast, ranks ▸ repaired.atMost⟩
  have atLeast : 3 ≤ led.ranks.length := table.atLeast
  rw [demoteMasters_valid_iff table roles, ← ranks]
  generalize led.ranks.length = size at *
  constructor
  · intro below guid atSize
    have clamped : guild.clampedRankOf size guid = some size := by
      simp [Guild.clampedRankOf, atSize]
    have leader : guid = led.leaderGuid := by
      by_contra other
      exact absurd (below guid size clamped other) (Nat.lt_irrefl size)
    rcases leads.chosen with same | ⟨-, least⟩
    · exact Or.inl (leader.trans same)
    · refine Or.inr fun other present => ?_
      by_contra different
      obtain ⟨rank, held⟩ := Option.ne_none_iff_exists'.mp present
      have hasRank : guild.clampedRankOf size other =
          some (if size < rank then size - 1 else rank) := by
        simp [Guild.clampedRankOf, held]
      have atMost := least size (leader ▸ clamped) other _ hasRank
      exact absurd (below other _ hasRank (leader ▸ different)) (Nat.not_lt.mpr atMost)
  · intro condition guid rank clamped other
    obtain ⟨before, held, rfl⟩ := Option.map_eq_some_iff.mp clamped
    have notSize : before ≠ size := by
      rintro rfl
      rcases condition guid held with leader | only
      · rcases leads.chosen with same | ⟨missing, -⟩
        · exact other (leader.trans same.symm)
        · rw [← leader, held] at missing
          cases missing
      · exact other (only _ leads.member).symm
    split <;> omega

def loadedGuild (rankId : Nat) : Guild where
  id := 1
  name := ""
  leaderGuid := 1
  motd := ""
  info := ""
  ranks := createDefaultGuildRanks fun _ => ""
  members := (OrdMap.empty.assign 1 { rankId := 0, name := "" }).assign 2
    { rankId := rankId, name := "" }
  bankMoney := 0
  purchasedTabs := 0
  bankItems := fun _ => none

def keptOrder : Walk := ⟨id, List.Perm.refl⟩

def emptyRealm : Realm := Realm.initial (fun _ => none) 1 fun _ => ""

theorem loadedGuild_loaded (rankId : Nat) : (loadedGuild rankId).Loaded where
  ranks := by simp [loadedGuild, createDefaultGuildRanks_length]
  leader := by simp [loadedGuild]
  members := by
    intro guid rank held
    simp only [loadedGuild, rankOf_eq_some, OrdMap.find_assign_some] at held
    obtain ⟨_, ⟨rfl, _⟩ | ⟨_, ⟨rfl, _⟩ | ⟨_, found⟩⟩, _⟩ := held
    · decide
    · decide
    · cases found

theorem validate_valid_iff_lowest :
    ((validate keptOrder false (loadedGuild 4) emptyRealm).get rfl).1.Valid := by
  refine (validate_valid_iff keptOrder false (loadedGuild 4) emptyRealm (loadedGuild_loaded 4) _
    (Option.some_get _).symm).mpr ?_
  intro guid atSize
  simp only [loadedGuild, rankOf_eq_some, OrdMap.find_assign_some] at atSize
  obtain ⟨_, ⟨rfl, rfl, _⟩ | ⟨_, ⟨rfl, _⟩ | ⟨_, found⟩⟩, rank⟩ := atSize
  · cases rank
  · exact Or.inl rfl
  · cases found

/-- The rank id 5 stays in a table of five ranks. -/
theorem not_validate_valid :
    ¬ ((validate keptOrder false (loadedGuild 5) emptyRealm).get rfl).1.Valid := by
  intro valid
  exact absurd (valid.ordered.held 2 { rankId := 5, name := "" } rfl) (by decide)

end Validation

end DarkCore.Guilds.Roster
