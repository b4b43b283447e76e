/-
What the parts of a compatibility check find out: which entries were gathered,
whose roles and which players stand for them, which dungeons are left, and where
the iterator over these stops.
-/

import DarkCore.DungeonFinding.Matching
import DarkCore.DungeonFinding.RoleChecks

namespace DarkCore.DungeonFinding

open DarkCore.Lib

def Queued (mgr : LFGMgr) : List Guid → List LfgQueueInfo → Prop :=
  List.Forall₂ fun guid info => mgr.queueInfoMap guid = some info

def playersOf (infos : List LfgQueueInfo) : Selections :=
  infos.flatMap fun info => info.roles.entries

def isLFGEntry (realm : Realm) : Guid → Bool
  | .player _ => false
  | .group lowGuid => realm.isLFGGroup lowGuid

section Gather

variable {realm : Realm} {mgr : LFGMgr} {gathered start : Gathered} {guid : Guid}
  {info : LfgQueueInfo} {check : List Guid}

theorem Gathered.add_numPlayers : (gathered.add realm guid info).numPlayers =
    (gathered.numPlayers + info.roles.entries.length) % 256 := by
  cases guid with
  | player low => rfl
  | group low =>
    grind [Gathered.add]

theorem Gathered.add_numLfgGroups : (gathered.add realm guid info).numLfgGroups =
    gathered.numLfgGroups + if isLFGEntry realm guid then 1 else 0 := by
  cases guid with
  | player low => rfl
  | group low =>
    grind [Gathered.add, isLFGEntry]

theorem Gathered.add_pqInfoMap : (gathered.add realm guid info).pqInfoMap =
    gathered.pqInfoMap.assign guid.raw info := by
  cases guid with
  | player low => rfl
  | group low =>
    grind [Gathered.add]

theorem gather_ok (found : gather realm mgr check start = .ok gathered)
    (groups : gathered.numLfgGroups ≤ 1) (players : gathered.numPlayers ≤ maxGroupSize) :
    ∃ infos, Queued mgr check infos ∧
      gathered.pqInfoMap = start.pqInfoMap.assignAll ((check.map Guid.raw).zip infos) ∧
      gathered.numLfgGroups = start.numLfgGroups + check.countP (isLFGEntry realm) ∧
      ((∀ info ∈ infos, info.roles.entries.length ≤ maxGroupSize) →
        gathered.numPlayers = start.numPlayers + (playersOf infos).length) := by
  induction check generalizing start with
  | nil =>
    cases found
    exact ⟨[], List.Forall₂.nil, rfl, rfl, fun _ => rfl⟩
  | cons guid rest ih =>
    unfold gather at found
    split at found
    · rename_i goesOn
      split at found
      · cases found
      · rename_i info isInfo
        obtain ⟨infos, queued, map, lfgGroups, count⟩ := ih found
        refine ⟨info :: infos, List.Forall₂.cons isInfo queued, ?_, ?_, ?_⟩
        · rw [map, Gathered.add_pqInfoMap]
          rfl
        · rw [lfgGroups, Gathered.add_numLfgGroups, List.countP_cons, Nat.add_assoc,
            Nat.add_comm (List.countP _ rest)]
        · intro small
          have here := small info List.mem_cons_self
          rw [count fun other member => small other (List.mem_cons_of_mem info member),
            Gathered.add_numPlayers]
          have bound := goesOn.2
          unfold maxGroupSize at bound here
          rw [Nat.mod_eq_of_lt (by omega), Nat.add_assoc]
          simp only [playersOf, List.flatMap_cons, List.length_append]
    · grind

theorem gather_error (failed : gather realm mgr check start = .error guid) :
    guid ∈ check ∧ mgr.queueInfoMap guid = none := by
  induction check generalizing start with
  | nil => cases failed
  | cons first rest ih =>
    unfold gather at failed
    split at failed
    · split at failed
      · simp_all
      · have later := ih failed
        exact ⟨List.mem_cons_of_mem first later.1, later.2⟩
    · cases failed

variable {infos : List LfgQueueInfo}

section

variable (queued : Queued mgr check infos)
include queued

theorem mem_gathered
    {entry : Nat × LfgQueueInfo}
    (member : entry ∈ (OrdMap.empty.assignAll ((check.map Guid.raw).zip infos)).entries) :
    ∃ guid ∈ check, guid.raw = entry.1 ∧ mgr.queueInfoMap guid = some entry.2 := by
  have listed := (OrdMap.mem_assignAll member).resolve_right List.not_mem_nil
  clear member
  induction queued with
  | nil => cases listed
  | cons isInfo _ ih =>
    rw [List.map_cons, List.zip_cons_cons] at listed
    rcases List.mem_cons.mp listed with first | later
    · simp_all
    · obtain ⟨guid, inRest, facts⟩ := ih later
      exact ⟨guid, List.mem_cons_of_mem _ inRest, facts⟩

theorem Queued.isQueued
    (inCheck : guid ∈ check) : mgr.queueInfoMap guid ≠ none := by
  induction queued with
  | nil => cases inCheck
  | cons isInfo _ ih =>
    rcases List.mem_cons.mp inCheck with first | later
    · simp [first, isInfo]
    · exact ih later

theorem Queued.map_fst_zip :
    ((check.map Guid.raw).zip infos).map Prod.fst = check.map Guid.raw := by
  rw [List.map_fst_zip]
  rw [List.length_map]
  exact (List.Forall₂.length_eq queued).le

theorem mem_gathered_infos :
    info ∈ (OrdMap.empty.assignAll ((check.map Guid.raw).zip infos)).entries.map Prod.snd ↔
      ∃ guid ∈ check, mgr.queueInfoMap guid = some info := by
  constructor
  · intro member
    obtain ⟨entry, inMap, rfl⟩ := List.mem_map.mp member
    obtain ⟨guid, inCheck, _, isInfo⟩ := mem_gathered queued inMap
    exact ⟨guid, inCheck, isInfo⟩
  · rintro ⟨guid, inCheck, isInfo⟩
    have key : guid.raw ∈
        (OrdMap.empty.assignAll ((check.map Guid.raw).zip infos)).entries.map Prod.fst := by
      grind [OrdMap.mem_keys_build, queued.map_fst_zip]
    obtain ⟨entry, inMap, sameKey⟩ := List.mem_map.mp key
    obtain ⟨other, _, otherKey, otherInfo⟩ := mem_gathered queued inMap
    have sameGuid : other = guid := Guid.raw_injective (otherKey.trans sameKey)
    rw [sameGuid, isInfo] at otherInfo
    cases otherInfo
    exact List.mem_map_of_mem inMap

end

end Gather

section Players

variable {realm : Realm}

theorem Crew.add_rolesMap (crew : Crew) (entry : PlayerGuid × Roles) :
    (crew.add entry).rolesMap = crew.rolesMap.assign entry.1 entry.2 := by
  unfold Crew.add
  split
  · split <;> rfl
  · rfl

theorem collectRoles_rolesMap (pqInfoMap : OrdMap Nat LfgQueueInfo) (choices : List Nat) :
    (collectRoles pqInfoMap choices).rolesMap =
      OrdMap.empty.assignAll (playersOf (pqInfoMap.entries.map Prod.snd)) := by
  have fold (listed : Selections) (crew : Crew) :
      (listed.foldl Crew.add crew).rolesMap = crew.rolesMap.assignAll listed := by
    induction listed generalizing crew with
    | nil => rfl
    | cons entry rest ih => rw [List.foldl_cons, ih, Crew.add_rolesMap]; rfl
  unfold collectRoles playersOf
  rw [fold, List.flatMap_map]

structure Company (realm : Realm) (guids players : List PlayerGuid) : Prop where
  listed : players.Sublist guids
  online : ∀ player ∈ players, realm.online player = true
  civil : players.Pairwise fun first second =>
    realm.ignores first second = false ∧ realm.ignores second first = false

theorem collectPlayers_company (guids : List PlayerGuid) :
    Company realm guids (collectPlayers realm guids) := by
  have grow (rest done players : List PlayerGuid) (company : Company realm done players) :
      Company realm (done ++ rest) (rest.foldl (fun players guid =>
        if realm.online guid = true ∧ (players.all fun player =>
            !realm.ignores guid player && !realm.ignores player guid) = true
        then players ++ [guid] else players) players) := by
    induction rest generalizing done players with
    | nil => simpa using company
    | cons guid rest ih =>
      rw [List.foldl_cons, List.append_cons]
      apply ih
      split
      · rename_i taken
        refine ⟨company.listed.append_right [guid], ?_, ?_⟩
        · intro player member
          rcases List.mem_append.mp member with early | last
          · exact company.online player early
          · exact List.mem_singleton.mp last ▸ taken.1
        · rw [List.pairwise_append]
          refine ⟨company.civil, List.pairwise_singleton _ _, ?_⟩
          intro player member other isOther
          have civil := List.all_eq_true.mp taken.2 player member
          rw [List.mem_singleton.mp isOther]
          simp only [Bool.and_eq_true, Bool.not_eq_true'] at civil
          exact ⟨civil.2, civil.1⟩
      · exact ⟨company.listed.trans (List.sublist_append_left done [guid]), company.online,
          company.civil⟩
  exact grow guids [] [] ⟨List.Sublist.refl _, List.forall_mem_nil _, List.Pairwise.nil⟩

theorem collectPlayers_eq_self {guids : List PlayerGuid}
    (company : Company realm guids guids) : collectPlayers realm guids = guids := by
  have grow (rest done : List PlayerGuid) (company : Company realm (done ++ rest) (done ++ rest)) :
      rest.foldl (fun players guid => if realm.online guid = true ∧ (players.all fun player =>
            !realm.ignores guid player && !realm.ignores player guid) = true
        then players ++ [guid] else players) done = done ++ rest := by
    induction rest generalizing done with
    | nil => simp
    | cons guid rest ih =>
      have taken : realm.online guid = true ∧ (done.all fun player =>
          !realm.ignores guid player && !realm.ignores player guid) = true := by
        refine ⟨company.online guid (by simp), List.all_eq_true.mpr ?_⟩
        intro player member
        have civil := (List.pairwise_append.mp company.civil).2.2 player member guid
          List.mem_cons_self
        simp [civil.1, civil.2]
      have assoc : done ++ guid :: rest = (done ++ [guid]) ++ rest :=
        List.append_cons done guid rest
      rw [List.foldl_cons, if_pos taken, assoc]
      exact ih (done ++ [guid]) (assoc ▸ company)
  exact grow guids [] company

end Players

section Dungeons

variable {realm : Realm} {dungeon : Nat}

theorem mem_getCompatibleDungeons {dungeons : List Nat} {players : List PlayerGuid} :
    dungeon ∈ getCompatibleDungeons realm dungeons players ↔
      dungeon ∈ dungeons ∧
        ∀ player ∈ players, ∀ entry ∈ realm.lockedDungeons player, dungeon ≠ entry % 0x1000000 := by
  have unlock (entries : List Nat) (dungeons : List Nat) :
      dungeon ∈ entries.foldl (fun dungeons entry =>
          dungeons.filter (· ≠ entry % 0x1000000)) dungeons ↔
        dungeon ∈ dungeons ∧ ∀ entry ∈ entries, dungeon ≠ entry % 0x1000000 := by
    induction entries generalizing dungeons with
    | nil => simp
    | cons entry rest ih =>
      rw [List.foldl_cons, ih, List.mem_filter, List.forall_mem_cons, decide_eq_true_iff, and_assoc]
  unfold getCompatibleDungeons
  induction players generalizing dungeons with
  | nil => simp
  | cons player rest ih =>
    rw [List.foldl_cons]
    refine ih.trans ?_
    rw [unlock, List.forall_mem_cons, and_assoc]

theorem mem_selectedDungeons {pqInfoMap : OrdMap Nat LfgQueueInfo}
    (entries : pqInfoMap.entries ≠ []) :
    dungeon ∈ selectedDungeons pqInfoMap ↔
      ∀ info ∈ pqInfoMap.entries.map Prod.snd, dungeon ∈ info.dungeons := by
  unfold selectedDungeons
  split
  · simp_all
  · grind

theorem advance_le {bound : Nat} (small : bound < 256) (choices : List Nat) {position : Nat}
    (within : position ≤ bound) : (advance bound choices position position).1 ≤ bound := by
  induction choices generalizing position with
  | nil => exact within
  | cons choice rest ih =>
    unfold advance
    split
    · rename_i below
      have drawn : choice % (bound + 1) < bound + 1 := Nat.mod_lt choice (Nat.succ_pos bound)
      have next : position + 1 ≤ bound := by omega
      rw [Nat.mod_eq_of_lt (Nat.lt_of_le_of_lt next small)]
      exact ih next
    · exact within

end Dungeons

end DarkCore.DungeonFinding
