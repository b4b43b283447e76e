/-
Every proposal that a check makes stands for five players who fit: all checks
that precede it have passed, on the entries that it lists.
-/

import DarkCore.DungeonFinding.Checks
import Mathlib.Data.List.Pairwise

namespace DarkCore.DungeonFinding

open DarkCore.Lib

structure WellFormed (realm : Realm) (queueInfoMap : Guid → Option LfgQueueInfo)
    (proposal : LfgProposal) : Prop where
  size : proposal.players.entries.length = maxGroupSize
  online : ∀ player ∈ proposal.players.entries.map Prod.fst, realm.online player = true
  queued : ∀ guid ∈ proposal.queues, queueInfoMap guid ≠ none
  members : ∀ player, player ∈ proposal.players.entries.map Prod.fst ↔
    ∃ guid ∈ proposal.queues, ∃ info, queueInfoMap guid = some info ∧
      player ∈ info.roles.entries.map Prod.fst
  civil : ∀ first ∈ proposal.players.entries.map Prod.fst,
    ∀ second ∈ proposal.players.entries.map Prod.fst, first ≠ second →
      realm.ignores first second = false
  roles : ∀ entry ∈ proposal.players.entries, IsSingle entry.2.role ∧
    ∃ guid ∈ proposal.queues, ∃ info, queueInfoMap guid = some info ∧
      ∃ selected, (entry.1, selected) ∈ info.roles.entries ∧
        entry.2.role &&& selected = entry.2.role
  needs : WithinNeeds (proposal.players.entries.map fun entry => (entry.1, entry.2.role))
  groups : proposal.queues.countP (isLFGEntry realm) ≤ 1
  dungeon : ∃ dungeon, proposal.dungeonId = some dungeon ∧
    (∀ guid ∈ proposal.queues, ∀ info, queueInfoMap guid = some info → dungeon ∈ info.dungeons) ∧
    ∀ player ∈ proposal.players.entries.map Prod.fst,
      ∀ entry ∈ realm.lockedDungeons player, dungeon ≠ entry % 0x1000000

def SmallSelections (queueInfoMap : Guid → Option LfgQueueInfo) : Prop :=
  ∀ guid info, queueInfoMap guid = some info → info.dungeons.length ≤ 256

section Form

variable {realm : Realm} {check : List Guid} {gathered : Gathered} {crew : Crew}
  {rolesMap : Selections} {players : List PlayerGuid} {dungeons : List Nat}

theorem formProposal_queues :
    (formProposal realm check gathered crew rolesMap players dungeons).1.queues = check :=
  rfl

theorem formProposal_players (distinct : players.Nodup) :
    (formProposal realm check gathered crew rolesMap players dungeons).1.players.entries.Perm
      (players.map fun guid => (guid, proposalPlayer realm rolesMap guid)) := by
  have built : (formProposal realm check gathered crew rolesMap players dungeons).1.players =
      OrdMap.empty.assignAll
        (players.map fun guid => (guid, proposalPlayer realm rolesMap guid)) := by
    unfold formProposal OrdMap.assignAll
    rw [List.foldl_map]
  rw [built]
  apply OrdMap.build_perm
  rw [List.map_map]
  exact (List.map_id players).symm ▸ distinct

theorem formProposal_dungeonId (some' : dungeons ≠ []) (small : dungeons.length ≤ 256) :
    ∃ dungeon ∈ dungeons,
      (formProposal realm check gathered crew rolesMap players dungeons).1.dungeonId =
        some dungeon := by
  have positive : 0 < dungeons.length := List.length_pos_iff.mpr some'
  have within : (advance (dungeons.length - 1) crew.choices 0 0).1 < dungeons.length := by
    have smaller : dungeons.length - 1 < 256 := by omega
    have bound := advance_le smaller crew.choices (Nat.zero_le _)
    omega
  refine ⟨dungeons[(advance (dungeons.length - 1) crew.choices 0 0).1], List.getElem_mem within, ?_⟩
  exact List.getElem?_eq_getElem within

end Form

section Check

variable {realm : Realm} {check : List Guid} {search : Search} {proposal : LfgProposal}

theorem getCompatibleDungeons_length (dungeons : List Nat) (players : List PlayerGuid) :
    (getCompatibleDungeons realm dungeons players).length ≤ dungeons.length := by
  have unlock (entries dungeons : List Nat) :
      (entries.foldl (fun dungeons entry =>
        dungeons.filter (· ≠ entry % 0x1000000)) dungeons).length ≤ dungeons.length := by
    induction entries generalizing dungeons with
    | nil => exact Nat.le_refl _
    | cons entry rest ih =>
      rw [List.foldl_cons]
      exact (ih _).trans (List.length_filter_le _ dungeons)
  unfold getCompatibleDungeons
  induction players generalizing dungeons with
  | nil => exact Nat.le_refl _
  | cons player rest ih =>
    rw [List.foldl_cons]
    exact (ih _).trans (unlock _ dungeons)

theorem selectedDungeons_length {pqInfoMap : OrdMap Nat LfgQueueInfo}
    (small : ∀ info ∈ pqInfoMap.entries.map Prod.snd, info.dungeons.length ≤ 256) :
    (selectedDungeons pqInfoMap).length ≤ 256 := by
  unfold selectedDungeons
  split
  · exact Nat.zero_le _
  · rename_i first others isEntries
    have firstSmall := small first.2 (by simp [isEntries])
    exact (List.length_filter_le _ _).trans firstSmall

theorem and_of_and_strip {role selected : Roles}
    (isSelected : role &&& (selected &&& ~~~roleLeader) = role) : role &&& selected = role := by
  have inner : (selected &&& ~~~roleLeader) &&& selected = selected &&& ~~~roleLeader := by
    rw [BitVec.and_comm, ← BitVec.and_assoc, BitVec.and_self]
  exact and_eq_trans isSelected inner

variable {gathered : Gathered} {infos : List LfgQueueInfo}

variable {queueInfoMap : Guid → Option LfgQueueInfo} {rolesMap : LfgRolesMap}

theorem mem_players
    (roles : rolesMap =
      OrdMap.empty.assignAll (playersOf (gathered.pqInfoMap.entries.map Prod.snd)))
    (listed : ∀ info, info ∈ gathered.pqInfoMap.entries.map Prod.snd ↔
      ∃ guid ∈ check, queueInfoMap guid = some info) (player : PlayerGuid) :
    player ∈ rolesMap.entries.map Prod.fst ↔
      ∃ guid ∈ check, ∃ info, queueInfoMap guid = some info ∧
        player ∈ info.roles.entries.map Prod.fst := by
  rw [roles, OrdMap.mem_keys_build, playersOf, List.map_flatMap, List.mem_flatMap]
  constructor
  · rintro ⟨info, inMap, isPlayer⟩
    obtain ⟨guid, inCheck, isInfo⟩ := (listed info).mp inMap
    exact ⟨guid, inCheck, info, isInfo, isPlayer⟩
  · grind

theorem mem_selections
    (roles : rolesMap =
      OrdMap.empty.assignAll (playersOf (gathered.pqInfoMap.entries.map Prod.snd)))
    (listed : ∀ info, info ∈ gathered.pqInfoMap.entries.map Prod.snd ↔
      ∃ guid ∈ check, queueInfoMap guid = some info)
    {entry : PlayerGuid × Roles} (member : entry ∈ rolesMap.entries) :
    ∃ guid ∈ check, ∃ info, queueInfoMap guid = some info ∧ entry ∈ info.roles.entries := by
  rw [roles] at member
  have inPlayers := (OrdMap.mem_assignAll member).resolve_right List.not_mem_nil
  obtain ⟨info, inMap, isEntry⟩ := List.mem_flatMap.mp inPlayers
  obtain ⟨guid, inCheck, isInfo⟩ := (listed info).mp inMap
  exact ⟨guid, inCheck, info, isInfo, isEntry⟩

theorem wellFormed_of_checks
    {assigned : Selections} (queued : ∀ guid ∈ check, queueInfoMap guid ≠ none)
    (listed : ∀ info, info ∈ gathered.pqInfoMap.entries.map Prod.snd ↔
      ∃ guid ∈ check, queueInfoMap guid = some info)
    (groups : check.countP (isLFGEntry realm) ≤ 1)
    (roles : rolesMap =
      OrdMap.empty.assignAll (playersOf (gathered.pqInfoMap.entries.map Prod.snd)))
    (five : rolesMap.entries.length = maxGroupSize)
    (company : Company realm (rolesMap.entries.map Prod.fst) (rolesMap.entries.map Prod.fst))
    (isAssigned : Assigned (removeLeaderFlag rolesMap.entries) assigned)
    (queues : proposal.queues = check)
    (players : proposal.players.entries.Perm ((rolesMap.entries.map Prod.fst).map fun guid =>
      (guid, proposalPlayer realm assigned guid)))
    (dungeon : ∃ dungeon ∈ getCompatibleDungeons realm (selectedDungeons gathered.pqInfoMap)
      (rolesMap.entries.map Prod.fst), proposal.dungeonId = some dungeon) :
    WellFormed realm queueInfoMap proposal := by
  have assignment :=
    isAssigned.assignment (keys_removeLeaderFlag rolesMap.entries ▸ rolesMap.keys_nodup)
  have keys (player : PlayerGuid) : player ∈ proposal.players.entries.map Prod.fst ↔
      player ∈ rolesMap.entries.map Prod.fst := by
    grind
  have stripped {entry : PlayerGuid × Roles} (member : entry ∈ rolesMap.entries) :
      (entry.1, entry.2 &&& ~~~roleLeader) ∈ removeLeaderFlag rolesMap.entries :=
    List.mem_map_of_mem (f := fun entry => (entry.1, entry.2 &&& ~~~roleLeader)) member
  constructor
  · rw [players.length_eq, List.length_map, List.length_map, five]
  · intro player member
    exact company.online player ((keys player).mp member)
  · exact queues ▸ queued
  · intro player
    rw [keys, queues]
    exact mem_players roles listed player
  · intro first isFirst second isSecond different
    have symmetric : Std.Symm fun first second : PlayerGuid =>
        realm.ignores first second = false ∧ realm.ignores second first = false :=
      ⟨fun _ _ => And.symm⟩
    exact (company.civil.forall ((keys first).mp isFirst) ((keys second).mp isSecond) different).1
  · intro entry member
    obtain ⟨player, isPlayer, rfl⟩ := List.mem_map.mp (players.mem_iff.mp member)
    obtain ⟨selection, inMap, rfl⟩ := List.mem_map.mp isPlayer
    obtain ⟨guid, inCheck, info, isInfo, inRoles⟩ := mem_selections roles listed inMap
    have single := assignment.single _ (stripped inMap)
    have chosen := assignment.selected _ (stripped inMap)
    refine ⟨single, ?_⟩
    rw [queues]
    exact ⟨guid, inCheck, info, isInfo, selection.2, inRoles, and_of_and_strip chosen⟩
  · have needs := assignment.needs
    rw [removeLeaderFlag, List.map_map] at needs
    have perm := players.map fun entry => (entry.1, entry.2.role)
    rw [List.map_map, List.map_map] at perm
    exact needs.perm perm
  · exact queues ▸ groups
  · obtain ⟨chosen, compatible, isChosen⟩ := dungeon
    rw [mem_getCompatibleDungeons] at compatible
    refine ⟨chosen, isChosen, ?_, ?_⟩
    · intro guid inQueues info isInfo
      have nonempty : gathered.pqInfoMap.entries ≠ [] := by
        intro empty
        have member := (listed info).mpr ⟨guid, queues ▸ inQueues, isInfo⟩
        rw [empty] at member
        cases member
      exact (mem_selectedDungeons nonempty).mp compatible.1 info
        ((listed info).mpr ⟨guid, queues ▸ inQueues, isInfo⟩)
    · grind

theorem checkPlayers_wellFormed (small : SmallSelections search.mgr.queueInfoMap)
    (queued : Queued search.mgr check infos)
    (map : gathered.pqInfoMap = OrdMap.empty.assignAll ((check.map Guid.raw).zip infos))
    (groups : check.countP (isLFGEntry realm) ≤ 1)
    (before : ∀ proposal, search.pProposal = some proposal →
      WellFormed realm search.mgr.queueInfoMap proposal)
    (made : (checkPlayers realm check gathered search).1.pProposal = some proposal) :
    WellFormed realm search.mgr.queueInfoMap proposal := by
  have listed (info : LfgQueueInfo) : info ∈ gathered.pqInfoMap.entries.map Prod.snd ↔
      ∃ guid ∈ check, search.mgr.queueInfoMap guid = some info := by
    rw [map]
    exact mem_gathered_infos queued
  unfold checkPlayers at made
  dsimp only at made
  have roles := collectRoles_rolesMap gathered.pqInfoMap search.choices
  generalize collectRoles gathered.pqInfoMap search.choices = crew at made roles
  split at made
  · exact before proposal made
  · rename_i allPlayers
    rw [ne_eq, not_not] at allPlayers
    split at made
    · exact before proposal made
    · rename_i everybody
      rw [ne_eq, not_not] at everybody
      have company : Company realm (crew.rolesMap.entries.map Prod.fst) _ :=
        collectPlayers_company _
      have all : collectPlayers realm (crew.rolesMap.entries.map Prod.fst) =
          crew.rolesMap.entries.map Prod.fst := by
        apply company.listed.eq_of_length
        rw [everybody, List.length_map, allPlayers]
      rw [all] at made company
      split at made
      · rename_i assigned isAssigned
        split at made
        · exact before proposal made
        · rename_i dungeons
          split at made
          · exact before proposal made
          · rename_i five
            rw [ne_eq, not_not] at five
            have isFive : crew.rolesMap.entries.length = maxGroupSize := allPlayers.trans five
            have few : crew.rolesMap.entries.length < 256 := by
              rw [isFive]
              decide
            have smallSelected := selectedDungeons_length fun info member => by
              obtain ⟨guid, _, isInfo⟩ := (listed info).mp member
              exact small guid info isInfo
            cases made
            exact wellFormed_of_checks (fun guid inCheck => queued.isQueued inCheck) listed
              groups roles isFive company (checkGroupRoles_sound few isAssigned)
              formProposal_queues (formProposal_players crew.rolesMap.keys_nodup)
              (formProposal_dungeonId dungeons ((getCompatibleDungeons_length _ _).trans
                smallSelected))
      · exact before proposal made

theorem checkEntries_wellFormed (small : SmallSelections search.mgr.queueInfoMap)
    (before : ∀ proposal, search.pProposal = some proposal →
      WellFormed realm search.mgr.queueInfoMap proposal)
    (made : (checkEntries realm check search).1.pProposal = some proposal) :
    WellFormed realm search.mgr.queueInfoMap proposal := by
  unfold checkEntries at made
  split at made
  · exact before proposal made
  · rename_i gathered isGathered
    split at made
    · exact before proposal made
    · split at made
      · exact before proposal made
      · rename_i notTooMuch
        obtain ⟨groups, players⟩ := not_or.mp notTooMuch
        obtain ⟨infos, queued, map, lfgGroups, _⟩ :=
          gather_ok isGathered (Nat.not_lt.mp groups) (Nat.not_lt.mp players)
        have few : check.countP (isLFGEntry realm) ≤ 1 := by
          omega
        exact checkPlayers_wellFormed small queued map few before made

end Check

section Kept

variable {realm : Realm} {check : List Guid} {search : Search}

theorem checkPlayers_queueInfoMap (gathered : Gathered) :
    (checkPlayers realm check gathered search).1.mgr.queueInfoMap = search.mgr.queueInfoMap := by
  unfold checkPlayers
  dsimp only
  split
  · rfl
  · split
    · rfl
    · split
      · split
        · rfl
        · split <;> rfl
      · rfl

theorem checkEntries_queueInfoMap :
    (checkEntries realm check search).1.mgr.queueInfoMap = search.mgr.queueInfoMap := by
  unfold checkEntries
  split
  · rename_i guid failed
    exact Function.update_eq_self_iff.mpr (gather_error failed).2.symm
  · split
    · rfl
    · split
      · rfl
      · exact checkPlayers_queueInfoMap _

end Kept

structure Promises (realm : Realm) (queueInfoMap : Guid → Option LfgQueueInfo)
    (search : Search) : Prop where
  same : search.mgr.queueInfoMap = queueInfoMap
  made : ∀ proposal, search.pProposal = some proposal →
    WellFormed realm queueInfoMap proposal

section Searches

variable {realm : Realm} {queueInfoMap : Guid → Option LfgQueueInfo} {search : Search}
  {check all : List Guid}

theorem Promises.forget (promises : Promises realm queueInfoMap search) :
    Promises realm queueInfoMap { search with pProposal := none } where
  same := promises.same
  made _ impossible := nomatch impossible

section

variable (small : SmallSelections queueInfoMap)
include small

theorem Promises.checkEntries
    (promises : Promises realm queueInfoMap search) :
    Promises realm queueInfoMap (checkEntries realm check search).1 := by
  obtain ⟨rfl, made⟩ := promises
  constructor
  · exact checkEntries_queueInfoMap
  · intro proposal new
    exact checkEntries_wellFormed small made new

theorem Promises.checkCompatibility (check : List Guid)
    (promises : Promises realm queueInfoMap search) :
    Promises realm queueInfoMap (checkCompatibility realm check search).1 := by
  induction check generalizing search with
  | nil => exact promises
  | cons front rest ih =>
    unfold DungeonFinding.checkCompatibility
    split
    · exact promises
    · split
      · exact promises
      · split
        · exact promises
        · split
          · exact promises
          · split
            · have inner := ih promises
              split
              · rename_i answered
                rw [answered] at inner
                exact inner.checkEntries small
              · rename_i answered
                rw [answered] at inner
                exact ⟨inner.same, inner.made⟩
            · exact promises.checkEntries small

theorem Promises.findNewGroupsWith {loop : List Guid → List Guid → Search → Search × List Guid}
    (rounds : ∀ check all search, Promises realm queueInfoMap search →
      Promises realm queueInfoMap (loop check all search).1)
    (promises : Promises realm queueInfoMap search) :
    Promises realm queueInfoMap (findNewGroupsWith realm loop check all search).1 := by
  unfold DungeonFinding.findNewGroupsWith
  dsimp only
  have fresh := promises.forget
  split
  · exact fresh
  · have checked := fresh.checkCompatibility small check
    split
    · rename_i answered
      rw [answered] at checked
      exact checked.forget
    · simp_all

theorem Promises.matchQueued {limit : Nat}
    (promises : Promises realm queueInfoMap search) :
    Promises realm queueInfoMap (matchQueued realm limit check all search).1 := by
  induction limit generalizing check all search with
  | zero => exact promises
  | succ limit ih =>
    unfold DungeonFinding.matchQueued
    split
    · exact promises
    · exact promises
    · exact ih (promises.findNewGroupsWith small fun _ _ _ => ih)

end

end Searches

/-- Whatever is queued and whatever the choices are, a proposal that `CheckCompatibility` creates and
one that `FindNewGroups` returns is well formed. -/
theorem proposals_wellFormed (realm : Realm) (mgr : LFGMgr) (choices : List Nat)
    (check all : List Guid) (small : SmallSelections mgr.queueInfoMap) :
    (∀ proposal, (checkCompatibility realm check ⟨mgr, choices, none⟩).1.pProposal = some proposal →
      WellFormed realm mgr.queueInfoMap proposal) ∧
    ∀ proposal, (findNewGroups realm check all ⟨mgr, choices, none⟩).1.pProposal = some proposal →
      WellFormed realm mgr.queueInfoMap proposal := by
  have start : Promises realm mgr.queueInfoMap ⟨mgr, choices, none⟩ :=
    ⟨rfl, fun _ impossible => nomatch impossible⟩
  constructor
  · exact (start.checkCompatibility small check).made
  · exact (start.findNewGroupsWith small fun _ _ _ => Promises.matchQueued small).made

def plainRealm : Realm where
  online _ := true
  ignores _ _ := false
  lockedDungeons player := if player = 1 then [0x01000009] else []
  groupOf _ := none
  isLFGGroup _ := false
  now := 0

def fiveQueued : LFGMgr where
  queueInfoMap
    | .player 1 => some ⟨[7, 8, 9], ⟨[(1, 0x03)], by decide⟩⟩
    | .player 2 => some ⟨[7, 8, 9], ⟨[(2, 0x06)], by decide⟩⟩
    | .player 3 => some ⟨[7, 8, 9], ⟨[(3, 0x08)], by decide⟩⟩
    | .player 4 => some ⟨[7, 8, 9], ⟨[(4, 0x08)], by decide⟩⟩
    | .player 5 => some ⟨[7, 8, 9], ⟨[(5, 0x08)], by decide⟩⟩
    | _ => none
  currentQueue _ := []
  newToQueue _ := []
  compatibleMap _ := none

theorem fiveQueued_small : SmallSelections fiveQueued.queueInfoMap := by
  intro guid info isInfo
  unfold fiveQueued at isInfo
  dsimp only at isInfo
  split at isInfo <;> cases isInfo <;> decide

/-- The proposal for five single players, with two choices for the dungeon -/
theorem proposals_wellFormed_five :
    (findNewGroups plainRealm [.player 1] [.player 2, .player 3, .player 4, .player 5]
      ⟨fiveQueued, [1, 0], none⟩).1.pProposal.isSome = true ∧
    ((∀ proposal, (checkCompatibility plainRealm [.player 1]
        ⟨fiveQueued, [1, 0], none⟩).1.pProposal = some proposal →
      WellFormed plainRealm fiveQueued.queueInfoMap proposal) ∧
    ∀ proposal, (findNewGroups plainRealm [.player 1] [.player 2, .player 3, .player 4, .player 5]
        ⟨fiveQueued, [1, 0], none⟩).1.pProposal = some proposal →
      WellFormed plainRealm fiveQueued.queueInfoMap proposal) :=
  ⟨by decide +kernel, proposals_wellFormed plainRealm fiveQueued [1, 0] [.player 1]
    [.player 2, .player 3, .player 4, .player 5] fiveQueued_small⟩

end DarkCore.DungeonFinding
