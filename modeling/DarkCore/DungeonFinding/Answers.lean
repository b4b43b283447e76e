/-
When a compatibility check answers true. For entries whose answer is not known it
does so exactly when they fit: at most five different players, all online, nobody
ignoring another, with roles that can be assigned, at most one LFG group, and a
dungeon that all entries selected and nobody has locked.
-/

import DarkCore.DungeonFinding.Proposals
import DarkCore.Lib.Joined
import Mathlib.Data.List.Flatten

namespace DarkCore.DungeonFinding

open DarkCore.Lib

theorem guidText_clean (guid : Guid) : '|' ∉ guidText guid ∧ guidText guid ≠ [] := by
  constructor
  · intro member
    have isDigit := Nat.isDigit_of_mem_toDigits (by decide) (by decide) member
    revert isDigit
    decide
  · exact Nat.toDigits_ne_nil

theorem concatenateGuids_eq_joined (guids : List Guid) :
    concatenateGuids guids = joined '|' (guids.map guidText) := by
  cases guids with
  | nil => rfl
  | cons first rest =>
    unfold concatenateGuids
    rw [List.map_cons, joined, List.flatMap_map]

theorem guidText_injective : Function.Injective guidText := by
  intro first second same
  apply Guid.raw_injective
  rw [← Nat.ofDigitChars_ten_toDigits (n := first.raw),
    ← Nat.ofDigitChars_ten_toDigits (n := second.raw)]
  exact congrArg (Nat.ofDigitChars 10 · 0) same

theorem concatenateGuids_injective : Function.Injective concatenateGuids := by
  intro first second same
  rw [concatenateGuids_eq_joined, concatenateGuids_eq_joined] at same
  apply List.map_injective_iff.mpr guidText_injective
  apply joined_injective ?_ ?_ same
  · exact List.forall_mem_map.mpr fun guid _ => guidText_clean guid
  · exact List.forall_mem_map.mpr fun guid _ => guidText_clean guid

def infosOf (queueInfoMap : Guid → Option LfgQueueInfo) (check : List Guid) : List LfgQueueInfo :=
  check.filterMap queueInfoMap

def selectionsOf (queueInfoMap : Guid → Option LfgQueueInfo) (check : List Guid) : Selections :=
  playersOf (infosOf queueInfoMap check)

structure Compatible (realm : Realm) (queueInfoMap : Guid → Option LfgQueueInfo)
    (check : List Guid) : Prop where
  distinct : ((selectionsOf queueInfoMap check).map Prod.fst).Nodup
  few : (selectionsOf queueInfoMap check).length ≤ maxGroupSize
  groups : check.countP (isLFGEntry realm) ≤ 1
  online : ∀ player ∈ (selectionsOf queueInfoMap check).map Prod.fst, realm.online player = true
  civil : ((selectionsOf queueInfoMap check).map Prod.fst).Pairwise fun first second =>
    realm.ignores first second = false ∧ realm.ignores second first = false
  roles : Admissible (removeLeaderFlag (selectionsOf queueInfoMap check))
  dungeon : ∃ dungeon, (∀ info ∈ infosOf queueInfoMap check, dungeon ∈ info.dungeons) ∧
    ∀ player ∈ (selectionsOf queueInfoMap check).map Prod.fst,
      ∀ entry ∈ realm.lockedDungeons player, dungeon ≠ entry % 0x1000000

structure Listed (queueInfoMap : Guid → Option LfgQueueInfo) (check : List Guid) : Prop where
  distinct : check.Nodup
  queued : ∀ guid ∈ check, queueInfoMap guid ≠ none
  manned : ∀ guid ∈ check, ∀ info, queueInfoMap guid = some info → info.roles.entries ≠ []

theorem queued_infosOf {mgr : LFGMgr} {check : List Guid}
    (queued : ∀ guid ∈ check, mgr.queueInfoMap guid ≠ none) :
    Queued mgr check (infosOf mgr.queueInfoMap check) := by
  induction check with
  | nil => exact List.Forall₂.nil
  | cons guid rest ih =>
    obtain ⟨info, isInfo⟩ := Option.ne_none_iff_exists'.mp (queued guid List.mem_cons_self)
    unfold infosOf
    rw [List.filterMap_cons_some isInfo]
    exact List.Forall₂.cons isInfo (ih fun other member =>
      queued other (List.mem_cons_of_mem guid member))

theorem Queued.eq_infosOf {mgr : LFGMgr} {check : List Guid} {infos : List LfgQueueInfo}
    (queued : Queued mgr check infos) : infos = infosOf mgr.queueInfoMap check := by
  induction queued with
  | nil => rfl
  | cons isInfo _ ih =>
    unfold infosOf
    rw [List.filterMap_cons_some isInfo, ih]
    rfl

section Gather

variable {realm : Realm} {mgr : LFGMgr} {start : Gathered} {check : List Guid}

theorem gather_few {infos : List LfgQueueInfo} (queued : Queued mgr check infos)
    (groups : start.numLfgGroups + check.countP (isLFGEntry realm) ≤ 1)
    (players : start.numPlayers + (playersOf infos).length ≤ maxGroupSize) :
    ∃ gathered, gather realm mgr check start = .ok gathered ∧ gathered.numLfgGroups ≤ 1 ∧
      gathered.numPlayers ≤ maxGroupSize := by
  induction queued generalizing start with
  | nil =>
    refine ⟨start, rfl, ?_, ?_⟩
    · exact (Nat.le_add_right _ _).trans groups
    · exact (Nat.le_add_right _ _).trans players
  | @cons guid info rest infos isInfo _ ih =>
    rw [List.countP_cons] at groups
    rw [playersOf, List.flatMap_cons, List.length_append] at players
    have goesOn : start.numLfgGroups < 2 ∧ start.numPlayers ≤ maxGroupSize := by
      constructor <;> omega
    have few : start.numPlayers + info.roles.entries.length < 256 := by
      grind [maxGroupSize]
    unfold gather
    rw [if_pos goesOn, isInfo]
    apply ih
    · rw [Gathered.add_numLfgGroups]
      omega
    · grind [Gathered.add_numPlayers, playersOf]

end Gather

section Answer

variable {realm : Realm} {search : Search} {check : List Guid} {gathered : Gathered}

structure Complete (realm : Realm) (queueInfoMap : Guid → Option LfgQueueInfo) (check : List Guid)
    (gathered : Gathered) : Prop where
  infos : (gathered.pqInfoMap.entries.map Prod.snd).Perm (infosOf queueInfoMap check)
  groups : check.countP (isLFGEntry realm) ≤ 1
  few : gathered.numPlayers ≤ maxGroupSize
  count : (∀ info ∈ infosOf queueInfoMap check, info.roles.entries.length ≤ maxGroupSize) →
    gathered.numPlayers = (selectionsOf queueInfoMap check).length

theorem Complete.of_gather (distinct : check.Nodup)
    (found : gather realm search.mgr check Gathered.start = .ok gathered)
    (groups : gathered.numLfgGroups ≤ 1) (players : gathered.numPlayers ≤ maxGroupSize) :
    Complete realm search.mgr.queueInfoMap check gathered := by
  obtain ⟨infos, queued, map, lfgGroups, count⟩ := gather_ok found groups players
  obtain rfl := queued.eq_infosOf
  constructor
  · rw [map]
    have keys : (((check.map Guid.raw).zip
        (infosOf search.mgr.queueInfoMap check)).map Prod.fst).Nodup := by
      rw [queued.map_fst_zip]
      exact distinct.map Guid.raw_injective
    refine ((OrdMap.build_perm keys).map Prod.snd).trans ?_
    rw [List.map_snd_zip]
    rw [List.length_map]
    exact (List.Forall₂.length_eq queued).ge
  · omega
  · exact players
  · intro small
    rw [count small]
    exact Nat.zero_add _

variable {queueInfoMap : Guid → Option LfgQueueInfo} {players : List PlayerGuid}

theorem Complete.rolesMap {rolesMap : LfgRolesMap}
    (complete : Complete realm queueInfoMap check gathered)
    (roles : rolesMap =
      OrdMap.empty.assignAll (playersOf (gathered.pqInfoMap.entries.map Prod.snd)))
    (all : rolesMap.entries.length = gathered.numPlayers) :
    rolesMap.entries.Perm (selectionsOf queueInfoMap check) ∧
      gathered.numPlayers = (selectionsOf queueInfoMap check).length := by
  have listed : (playersOf (gathered.pqInfoMap.entries.map Prod.snd)).Perm
      (selectionsOf queueInfoMap check) := complete.infos.flatMap_right _
  have small : ∀ info ∈ infosOf queueInfoMap check, info.roles.entries.length ≤ maxGroupSize := by
    intro info member
    have inside : info.roles.entries.map Prod.fst ⊆ rolesMap.entries.map Prod.fst := by
      intro player isPlayer
      rw [roles, OrdMap.mem_keys_build, (listed.map Prod.fst).mem_iff, selectionsOf, playersOf,
        List.map_flatMap]
      exact List.mem_flatMap.mpr ⟨info, member, isPlayer⟩
    have fewer := (List.subperm_of_subset info.roles.keys_nodup inside).length_le
    rw [List.length_map, List.length_map, all] at fewer
    exact fewer.trans complete.few
  have count := complete.count small
  refine ⟨?_, count⟩
  have distinct : ((playersOf (gathered.pqInfoMap.entries.map Prod.snd)).map Prod.fst).Nodup := by
    rw [← OrdMap.length_build_eq_iff, ← roles, all, count]
    exact listed.length_eq.symm
  rw [roles]
  exact (OrdMap.build_perm distinct).trans listed

theorem small_of_few
    (few : (selectionsOf queueInfoMap check).length ≤ maxGroupSize) :
    ∀ info ∈ infosOf queueInfoMap check, info.roles.entries.length ≤ maxGroupSize := by
  intro info member
  have inside : info.roles.entries.Sublist (selectionsOf queueInfoMap check) := by
    have one := (List.singleton_sublist.mpr member).flatMap fun info => info.roles.entries
    rwa [List.flatMap_singleton] at one
  exact inside.length_le.trans few

theorem Complete.rolesMap_length
    {rolesMap : LfgRolesMap} (complete : Complete realm queueInfoMap check gathered)
    (roles : rolesMap =
      OrdMap.empty.assignAll (playersOf (gathered.pqInfoMap.entries.map Prod.snd)))
    (distinct : ((selectionsOf queueInfoMap check).map Prod.fst).Nodup)
    (few : (selectionsOf queueInfoMap check).length ≤ maxGroupSize) :
    rolesMap.entries.length = gathered.numPlayers := by
  have listed : (playersOf (gathered.pqInfoMap.entries.map Prod.snd)).Perm
      (selectionsOf queueInfoMap check) := complete.infos.flatMap_right _
  rw [complete.count (small_of_few few), ← listed.length_eq, roles, OrdMap.length_build_eq_iff,
    (listed.map Prod.fst).nodup_iff]
  exact distinct

theorem dungeon_perm {other : List PlayerGuid} (perm : players.Perm other)
    {infos others : List LfgQueueInfo} (same : infos.Perm others) {dungeon : Nat} :
    ((∀ info ∈ infos, dungeon ∈ info.dungeons) ∧
        ∀ player ∈ players, ∀ entry ∈ realm.lockedDungeons player, dungeon ≠ entry % 0x1000000) ↔
      (∀ info ∈ others, dungeon ∈ info.dungeons) ∧
        ∀ player ∈ other, ∀ entry ∈ realm.lockedDungeons player, dungeon ≠ entry % 0x1000000 := by
  simp only [same.mem_iff, perm.mem_iff]

theorem Company.perm {other : List PlayerGuid} (company : Company realm players players)
    (perm : players.Perm other) : Company realm other other where
  listed := List.Sublist.refl other
  online player member := company.online player (perm.mem_iff.mpr member)
  civil := (perm.pairwise_iff fun pair => And.symm pair).mp company.civil

theorem Complete.dungeons
    (complete : Complete realm queueInfoMap check gathered) (some' : infosOf queueInfoMap check ≠ [])
    (same : players.Perm ((selectionsOf queueInfoMap check).map Prod.fst)) :
    getCompatibleDungeons realm (selectedDungeons gathered.pqInfoMap) players ≠ [] ↔
      ∃ dungeon, (∀ info ∈ infosOf queueInfoMap check, dungeon ∈ info.dungeons) ∧
        ∀ player ∈ (selectionsOf queueInfoMap check).map Prod.fst,
          ∀ entry ∈ realm.lockedDungeons player, dungeon ≠ entry % 0x1000000 := by
  have entries : gathered.pqInfoMap.entries ≠ [] := by
    intro empty
    have nothing := complete.infos.length_eq
    rw [empty] at nothing
    exact some' (List.length_eq_zero_iff.mp nothing.symm)
  have nonempty (dungeons : List Nat) : dungeons ≠ [] ↔ ∃ dungeon, dungeon ∈ dungeons :=
    ⟨List.exists_mem_of_ne_nil dungeons, fun ⟨_, member⟩ => List.ne_nil_of_mem member⟩
  rw [nonempty]
  apply exists_congr
  intro dungeon
  rw [mem_getCompatibleDungeons, mem_selectedDungeons entries]
  exact dungeon_perm same complete.infos

theorem checkPlayers_answer (search : Search)
    (complete : Complete realm queueInfoMap check gathered)
    (some' : infosOf queueInfoMap check ≠ [])
    (players : selectionsOf queueInfoMap check ≠ []) :
    (checkPlayers realm check gathered search).2 = true ↔
      Compatible realm queueInfoMap check := by
  unfold checkPlayers
  dsimp only
  have roles := collectRoles_rolesMap gathered.pqInfoMap search.choices
  generalize collectRoles gathered.pqInfoMap search.choices = crew at roles ⊢
  split
  · rename_i fewer
    constructor
    · simp
    · intro compatible
      exact absurd (complete.rolesMap_length roles compatible.distinct compatible.few) fewer
  · rename_i all
    rw [ne_eq, not_not] at all
    obtain ⟨perm, count⟩ := complete.rolesMap roles all
    have keys := perm.map Prod.fst
    have company : Company realm (crew.rolesMap.entries.map Prod.fst) _ :=
      collectPlayers_company _
    split
    · rename_i missing
      constructor
      · simp
      · intro compatible
        have everybody : Company realm (crew.rolesMap.entries.map Prod.fst)
            (crew.rolesMap.entries.map Prod.fst) :=
          Company.perm ⟨List.Sublist.refl _, compatible.online, compatible.civil⟩ keys.symm
        rw [collectPlayers_eq_self everybody, List.length_map] at missing
        exact absurd all missing
    · rename_i everybody
      rw [ne_eq, not_not] at everybody
      have same : collectPlayers realm (crew.rolesMap.entries.map Prod.fst) =
          crew.rolesMap.entries.map Prod.fst := by
        apply company.listed.eq_of_length
        rw [everybody, List.length_map, all]
      rw [same] at company ⊢
      have rolesPlayers : crew.rolesMap.entries ≠ [] := by
        intro empty
        have nobody := perm.length_eq
        rw [empty] at nobody
        exact players (List.length_eq_zero_iff.mp nobody.symm)
      have few : crew.rolesMap.entries.length < 256 := by
        rw [all]
        exact Nat.lt_of_le_of_lt complete.few (by decide)
      have assignable := checkGroupRoles_true_iff rolesPlayers few crew.rolesMap.keys_nodup
      have admissible : Admissible (removeLeaderFlag crew.rolesMap.entries) ↔
          Admissible (removeLeaderFlag (selectionsOf queueInfoMap check)) :=
        admissible_perm (perm.map _)
      rw [admissible] at assignable
      have dungeons := complete.dungeons some' keys
      have fits (roles : Admissible (removeLeaderFlag (selectionsOf queueInfoMap check)))
          (dungeon : getCompatibleDungeons realm (selectedDungeons gathered.pqInfoMap)
            (crew.rolesMap.entries.map Prod.fst) ≠ []) :
          Compatible realm queueInfoMap check := by
        have others := company.perm keys
        exact ⟨keys.nodup_iff.mp crew.rolesMap.keys_nodup, count ▸ complete.few, complete.groups,
          others.online, others.civil, roles, dungeons.mp dungeon⟩
      split
      · rename_i assigned isAssigned
        split
        · rename_i none
          constructor
          · simp
          · intro compatible
            exact absurd none (dungeons.mpr compatible.dungeon)
        · rename_i dungeon
          have yes := fits (assignable.mp ⟨assigned, isAssigned⟩) dungeon
          split <;> exact iff_of_true rfl yes
      · rename_i noRoles
        constructor
        · simp
        · intro compatible
          obtain ⟨assigned, isAssigned⟩ := assignable.mpr compatible.roles
          exact absurd isAssigned (noRoles assigned)

theorem checkPlayers_effect (realm : Realm) (search : Search) (check : List Guid)
    (gathered : Gathered) :
    ((checkPlayers realm check gathered search).1.mgr = search.mgr ∧
        (checkPlayers realm check gathered search).2 = false ∨
      (checkPlayers realm check gathered search).1.mgr =
        search.mgr.setCompatibles (concatenateGuids check)
          (checkPlayers realm check gathered search).2) ∧
    ((checkPlayers realm check gathered search).2 = true →
      ((checkPlayers realm check gathered search).1.pProposal.isSome = true ↔
        search.pProposal.isSome = true ∨ gathered.numPlayers = maxGroupSize)) := by
  unfold checkPlayers
  dsimp only
  split
  · exact ⟨Or.inl ⟨rfl, rfl⟩, fun impossible => nomatch impossible⟩
  · split
    · exact ⟨Or.inr rfl, fun impossible => nomatch impossible⟩
    · split
      · split
        · exact ⟨Or.inr rfl, fun impossible => nomatch impossible⟩
        · split
          · rename_i fewer
            exact ⟨Or.inr rfl, fun _ => (or_iff_left fewer).symm⟩
          · rename_i five
            rw [ne_eq, not_not] at five
            exact ⟨Or.inr rfl, fun _ => iff_of_true rfl (Or.inr five)⟩
      · exact ⟨Or.inr rfl, fun impossible => nomatch impossible⟩

/-- A single entry passes without any check on its players unless it is complete. -/
def Alone (queueInfoMap : Guid → Option LfgQueueInfo) (check : List Guid) : Prop :=
  check.length = 1 ∧ (selectionsOf queueInfoMap check).length % 256 ≠ maxGroupSize

def Fits (realm : Realm) (queueInfoMap : Guid → Option LfgQueueInfo) (check : List Guid) : Prop :=
  Alone queueInfoMap check ∨ Compatible realm queueInfoMap check

theorem Listed.infosOf
    (listed : Listed queueInfoMap check) (some' : check ≠ []) :
    infosOf queueInfoMap check ≠ [] ∧ selectionsOf queueInfoMap check ≠ [] := by
  obtain ⟨guid, member⟩ := List.exists_mem_of_ne_nil check some'
  obtain ⟨info, isInfo⟩ := Option.ne_none_iff_exists'.mp (listed.queued guid member)
  have inInfos : info ∈ DungeonFinding.infosOf queueInfoMap check :=
    List.mem_filterMap.mpr ⟨guid, member, isInfo⟩
  refine ⟨List.ne_nil_of_mem inInfos, ?_⟩
  obtain ⟨entry, isEntry⟩ := List.exists_mem_of_ne_nil _ (listed.manned guid member info isInfo)
  exact List.ne_nil_of_mem (List.mem_flatMap.mpr ⟨info, inInfos, isEntry⟩)

theorem gather_alone {guid : Guid} {mgr : LFGMgr}
    (found : gather realm mgr [guid] Gathered.start = .ok gathered) :
    gathered.numPlayers = (selectionsOf mgr.queueInfoMap [guid]).length % 256 := by
  have goesOn : Gathered.start.numLfgGroups < 2 ∧ Gathered.start.numPlayers ≤ maxGroupSize := by
    decide
  rw [gather, if_pos goesOn] at found
  cases isInfo : mgr.queueInfoMap guid with
  | none => simp [isInfo] at found
  | some info =>
    simp only [isInfo, gather, Except.ok.injEq] at found
    rw [← found, Gathered.add_numPlayers]
    simp [selectionsOf, playersOf, infosOf, isInfo, Gathered.start]

theorem checkEntries_answer (realm : Realm)
    (listed : Listed search.mgr.queueInfoMap check) (some' : check ≠ []) :
    ((checkEntries realm check search).2 = true ↔ Fits realm search.mgr.queueInfoMap check) ∧
    ((checkEntries realm check search).1.mgr = search.mgr ∨
      (checkEntries realm check search).1.mgr =
        search.mgr.setCompatibles (concatenateGuids check) (checkEntries realm check search).2) ∧
    ((checkEntries realm check search).2 = true →
      ((checkEntries realm check search).1.pProposal.isSome = true ↔
        search.pProposal.isSome = true ∨
          (selectionsOf search.mgr.queueInfoMap check).length = maxGroupSize)) := by
  obtain ⟨infos, players⟩ := listed.infosOf some'
  cases found : gather realm search.mgr check Gathered.start with
  | error guid =>
    obtain ⟨member, absent⟩ := gather_error found
    exact absurd absent (listed.queued guid member)
  | ok gathered =>
    have alone : check.length = 1 ∧ gathered.numPlayers ≠ maxGroupSize ↔
        Alone search.mgr.queueInfoMap check := by
      refine and_congr_right fun single => ?_
      obtain ⟨guid, rfl⟩ := List.length_eq_one_iff.mp single
      rw [gather_alone found]
    simp only [checkEntries, found]
    split
    · rename_i single
      have isAlone := alone.mp single
      refine ⟨iff_of_true rfl (Or.inl isAlone), Or.inl rfl, fun _ => (or_iff_left ?_).symm⟩
      intro five
      apply isAlone.2
      rw [five]
      rfl
    · rename_i several
      have notAlone := mt alone.mpr several
      have fits : Fits realm search.mgr.queueInfoMap check ↔
          Compatible realm search.mgr.queueInfoMap check := or_iff_right notAlone
      rw [fits]
      split
      · rename_i tooMany
        refine ⟨iff_of_false Bool.false_ne_true ?_, Or.inr rfl, fun impossible =>
          nomatch impossible⟩
        intro compatible
        have queued := queued_infosOf listed.queued
        have groups : Gathered.start.numLfgGroups + check.countP (isLFGEntry realm) ≤ 1 := by
          rw [Gathered.start, Nat.zero_add]
          exact compatible.groups
        have few : Gathered.start.numPlayers +
            (playersOf (infosOf search.mgr.queueInfoMap check)).length ≤ maxGroupSize := by
          rw [Gathered.start, Nat.zero_add]
          exact compatible.few
        obtain ⟨other, foundToo, oneGroup, fewPlayers⟩ := gather_few queued groups few
        rw [found] at foundToo
        cases foundToo
        omega
      · rename_i notTooMany
        rw [not_or, Nat.not_lt, Nat.not_lt] at notTooMany
        have complete := Complete.of_gather listed.distinct found notTooMany.1 notTooMany.2
        have answer := checkPlayers_answer search complete infos players
        obtain ⟨kept, proposal⟩ := checkPlayers_effect realm search check gathered
        refine ⟨answer, kept.imp And.left id, ?_⟩
        intro yes
        rw [proposal yes, complete.count (small_of_few (answer.mp yes).few)]

end Answer

end DarkCore.DungeonFinding
