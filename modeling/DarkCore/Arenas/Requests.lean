/-
The requests about arena teams one by one. Members join, are removed and are
promoted without harm, and a team that is disbanded is taken from all its members.
-/

import DarkCore.Arenas.Teams

namespace DarkCore.Arenas

open DarkCore.Lib

variable {world after : ArenaWorld} {team : ArenaTeam} {player guid slot teamId : Nat}

theorem sound_setInvited : Sound (world.setInvited guid teamId) ↔ Sound world := by
  constructor
  · intro sound
    exact ⟨sound.fresh, sound.known, sound.teams, sound.names, sound.stored⟩
  · intro sound
    exact ⟨sound.fresh, sound.known, sound.teams, sound.names, sound.stored⟩

theorem Sound.typed (sound : Sound world) (found : world.arenaTeams.find teamId = some team) :
    hasField team.slot :=
  hasField_iff.mpr (sound.teams teamId team found).typed

theorem Sound.find_self (sound : Sound world) (found : world.arenaTeams.find teamId = some team) :
    world.arenaTeams.find team.teamId = some team := by
  rw [(sound.known teamId team found).1, found]

theorem addArenaTeam_self (found : world.arenaTeams.find team.teamId = some team) :
    world.addArenaTeam team = world := by
  unfold ArenaWorld.addArenaTeam
  rw [OrdMap.assign_self found]

theorem isMember_iff (found : world.arenaTeams.find teamId = some team) :
    world.IsMember teamId slot guid ↔ team.slot = slot ∧ guid ∈ team.guids := by
  unfold ArenaWorld.IsMember
  simp [found]

theorem guids_eraseMember (team : ArenaTeam) (guid : Nat) :
    (team.eraseMember guid).guids = team.guids.erase guid := by
  unfold ArenaTeam.guids ArenaTeam.eraseMember
  rw [List.erase_eq_eraseP, List.eraseP_map]
  simp [Function.comp_def, beq_eq_decide, eq_comm]

theorem getMember_mem {name : String} {member : ArenaTeamMember}
    (found : team.getMember name = some member) : member.guid ∈ team.guids :=
  List.mem_map_of_mem (List.mem_of_find?_eq_some found)

theorem clearSlot_eq (field : hasField slot) :
    world.clearSlot slot guid =
      some (if world.isOnline guid then world.setArenaTeamId guid slot 0 else world) := by
  unfold ArenaWorld.clearSlot
  by_cases online : world.isOnline guid <;> simp [online, field]

def joined (world : ArenaWorld) (team : ArenaTeam) (guid : Nat) : ArenaTeam :=
  { team with members := team.members ++ [⟨guid, world.playerName guid⟩] }

def afterJoin (world : ArenaWorld) (team : ArenaTeam) (guid : Nat) : ArenaWorld :=
  ((world.setArenaTeamId guid team.slot team.teamId).setInvited guid 0).addArenaTeam
    (joined world team guid)

theorem addMember_eq {inDatabase : Bool} (field : hasField team.slot) :
    world.addMember team player inDatabase =
      if team.members.length < team.type * 2 ∧ world.arenaTeamId player team.slot = 0 ∧
          inDatabase = false then
        some (true, joined world team player,
          (world.setArenaTeamId player team.slot team.teamId).setInvited player 0)
      else some (false, team, world) := by
  unfold ArenaWorld.addMember joined
  by_cases full : team.type * 2 ≤ team.members.length
  · rw [if_pos full, if_neg (fun both => absurd both.1 (Nat.not_lt.mpr full))]
  · grind

theorem guids_joined (world : ArenaWorld) (team : ArenaTeam) (player : Nat) :
    (joined world team player).guids = team.guids ++ [player] := by
  unfold joined ArenaTeam.guids
  simp

theorem Sound.join (sound : Sound world) (found : world.arenaTeams.find team.teamId = some team)
    (online : world.isOnline player = true) (free : world.arenaTeamId player team.slot = 0)
    (room : team.members.length < team.type * 2) : Sound (afterJoin world team player) := by
  have soundTeam := sound.teams team.teamId team found
  have positive := (sound.known team.teamId team found).2.1
  have absent : player ∉ team.guids := by
    intro member
    exact positive ((sound.stored_of_mem found online member).symm.trans free)
  have members := guids_joined world team player
  have soundNew : SoundTeam (joined world team player) := by
    refine ⟨soundTeam.typed, ?_, ?_, ?_⟩
    · grind [joined, List.length_append, List.length_singleton]
    · rw [members, ← List.concat_eq_append]
      exact soundTeam.distinct.concat absent
    · rw [members]
      exact List.mem_append_left [player] soundTeam.captain
  refine sound.change found rfl rfl rfl rfl soundNew ?_
  refine stored_join sound (joined world team player) positive ?_ rfl rfl ?_ free ?_
  · intro otherSlot third
    rw [isMember_iff found, members]
    refine and_congr_right fun _ => ?_
    constructor <;> grind
  · simp [members]
  · intro other otherSlot
    exact arenaTeamId_setArenaTeamId player team.slot team.teamId other otherSlot

theorem accept_sound {isAllowed inDatabase : Bool} (sound : Sound world)
    (online : world.isOnline player = true) :
    ∃ after, world.accept player isAllowed inDatabase = some after ∧ Sound after := by
  unfold ArenaWorld.accept
  cases found : world.arenaTeams.find (world.invited player) with
  | none => exact ⟨world, rfl, sound⟩
  | some team =>
    have self := sound.find_self found
    simp only [sound.typed found, not_true_eq_false, if_false]
    by_cases refused : world.arenaTeamId player team.slot ≠ 0 ∨ isAllowed = false
    · simp_all
    · rw [if_neg refused, addMember_eq (sound.typed found)]
      have free : world.arenaTeamId player team.slot = 0 := by
        omega
      by_cases joins : team.members.length < team.type * 2 ∧
          world.arenaTeamId player team.slot = 0 ∧ inDatabase = false
      · rw [if_pos joins]
        exact ⟨afterJoin world team player, rfl, sound.join self online free joins.1⟩
      · rw [if_neg joins]
        exact ⟨world, by simp [addArenaTeam_self self], sound⟩

section

variable (sound : Sound world)
include sound

theorem delMember_sound
    (found : world.arenaTeams.find team.teamId = some team) (member : guid ∈ team.guids)
    (other : team.captainGuid ≠ guid) :
    ∃ after, world.delMember team guid = some after ∧ Sound after := by
  have soundTeam := sound.teams team.teamId team found
  have members := guids_eraseMember team guid
  unfold ArenaWorld.delMember
  rw [clearSlot_eq (sound.typed found), Option.map_some]
  refine ⟨_, rfl, ?_⟩
  generalize cleared : (if world.isOnline guid = true then
    world.setArenaTeamId guid team.slot 0 else world) = between
  have same : between.arenaTeams = world.arenaTeams ∧ between.nextTeamId = world.nextTeamId ∧
      between.isOnline = world.isOnline := by
    subst cleared
    split_ifs <;> exact ⟨rfl, rfl, rfl⟩
  have ids (third thirdSlot : Nat) (online : between.isOnline third = true) :
      between.arenaTeamId third thirdSlot =
        if third = guid ∧ thirdSlot = team.slot then 0 else world.arenaTeamId third thirdSlot := by
    grind [same.2.2, arenaTeamId_setArenaTeamId]
  have soundNew : SoundTeam (team.eraseMember guid) := by
    refine ⟨soundTeam.typed, ?_, ?_, ?_⟩
    · exact (List.eraseP_sublist).length_le.trans soundTeam.small
    · rw [members]
      exact soundTeam.distinct.erase guid
    · rw [members]
      exact (List.mem_erase_of_ne other).mpr soundTeam.captain
  have teams : (between.addArenaTeam (team.eraseMember guid)).arenaTeams =
      world.arenaTeams.assign team.teamId (team.eraseMember guid) := by
    unfold ArenaWorld.addArenaTeam
    rw [same.1]
    rfl
  refine sound.change found teams rfl rfl same.2.1 soundNew ?_
  refine stored_part sound team.teamId guid team.slot ?_ ?_ ?_ same.2.2 ids
  · intro id otherSlot third
    rw [isMember_assign teams]
    by_cases isId : id = team.teamId
    · subst isId
      rw [if_pos rfl, isMember_iff found, members, soundTeam.distinct.mem_erase_iff]
      simp only [true_and]
      tauto
    · simp [isId]
  · exact fun online => sound.stored_of_mem found online member
  · intro otherSlot isMember
    exact ((isMember_iff found).mp isMember).1.symm

theorem remove_sound {name : String} :
    ∃ after, world.remove player teamId name = some after ∧ Sound after := by
  unfold ArenaWorld.remove
  cases found : world.arenaTeams.find teamId with
  | none => exact ⟨world, rfl, sound⟩
  | some team =>
    simp only
    by_cases isCaptain : team.captainGuid ≠ player
    · simp_all
    · rw [if_neg isCaptain]
      cases isNamed : team.getMember name with
      | none => exact ⟨world, rfl, sound⟩
      | some member =>
        simp only
        by_cases self : team.captainGuid = member.guid
        · simp_all
        · rw [if_neg self]
          exact delMember_sound sound (sound.find_self found) (getMember_mem isNamed) self

theorem delMember_absent
    (found : world.arenaTeams.find team.teamId = some team)
    (online : world.isOnline player = true) (absent : player ∉ team.guids) :
    world.delMember team player = some (world.setArenaTeamId player team.slot 0) := by
  have same : team.eraseMember player = team := by
    unfold ArenaTeam.eraseMember
    rw [List.eraseP_of_forall_not]
    intro member isMember
    simp only [decide_eq_true_eq]
    intro isPlayer
    exact absent (isPlayer ▸ List.mem_map_of_mem isMember)
  unfold ArenaWorld.delMember
  rw [clearSlot_eq (sound.typed found), if_pos online, same, Option.map_some]
  congr 1
  exact addArenaTeam_self found

theorem sound_setArenaTeamId_iff (online : world.isOnline player = true)
    (small : slot < 3) :
    Sound (world.setArenaTeamId player slot 0) ↔ world.arenaTeamId player slot = 0 := by
  constructor
  · intro soundAfter
    by_contra member
    have before := (sound.stored player slot _ online small member).mp rfl
    have stored := (soundAfter.stored player slot _ online small member).mpr before
    rw [arenaTeamId_setArenaTeamId, if_pos ⟨rfl, rfl⟩] at stored
    exact member stored.symm
  · intro free
    have same : world.setArenaTeamId player slot 0 = world := by
      unfold ArenaWorld.setArenaTeamId
      rw [← free]
      simp
    rwa [same]

end

theorem foldlM_clearSlot (world : ArenaWorld) (field : hasField slot) (guids : List Nat) :
    ∃ after : ArenaWorld,
      guids.foldlM (fun (world : ArenaWorld) guid => world.clearSlot slot guid) world =
        some after ∧
      after.arenaTeams = world.arenaTeams ∧ after.nextTeamId = world.nextTeamId ∧
      after.isOnline = world.isOnline ∧
      ∀ other otherSlot, world.isOnline other = true → after.arenaTeamId other otherSlot =
        if other ∈ guids ∧ otherSlot = slot then 0 else world.arenaTeamId other otherSlot := by
  induction guids generalizing world with
  | nil => exact ⟨world, rfl, rfl, rfl, rfl, fun other otherSlot _ => by simp⟩
  | cons guid rest ih =>
    rw [List.foldlM_cons, clearSlot_eq field, Option.bind_eq_bind, Option.bind_some]
    by_cases online : world.isOnline guid
    · rw [if_pos online]
      obtain ⟨after, cleared, teams, next, isOnline, ids⟩ :=
        ih (world.setArenaTeamId guid slot 0)
      refine ⟨after, cleared, teams, next, isOnline, fun other otherSlot isOther => ?_⟩
      rw [ids other otherSlot isOther, arenaTeamId_setArenaTeamId]
      by_cases isGuid : other = guid <;> by_cases isSlot : otherSlot = slot <;>
        simp [isGuid, isSlot]
    · rw [if_neg online]
      obtain ⟨after, cleared, teams, next, isOnline, ids⟩ := ih world
      refine ⟨after, cleared, teams, next, isOnline, fun other otherSlot isOther => ?_⟩
      have different : other ≠ guid := by
        grind
      simp [ids other otherSlot isOther, different]

theorem disband_sound (sound : Sound world)
    (found : world.arenaTeams.find team.teamId = some team) :
    ∃ after, world.disband team = some after ∧ Sound after := by
  obtain ⟨between, cleared, teams, next, isOnline, ids⟩ :=
    foldlM_clearSlot world (sound.typed found) team.guids
  unfold ArenaWorld.disband
  rw [cleared, Option.map_some]
  refine ⟨_, rfl, ?_⟩
  have cases (id : Nat) (other : ArenaTeam) :
      (between.arenaTeams.erase team.teamId).find id = some other ↔
        id ≠ team.teamId ∧ world.arenaTeams.find id = some other := by
    rw [teams, OrdMap.find_erase]
    by_cases same : id = team.teamId <;> simp [same]
  refine ⟨next.symm ▸ sound.fresh, ?_, ?_, ?_, ?_⟩
  · intro id other isOther
    rw [show (_ : ArenaWorld).nextTeamId = _ from next]
    exact sound.known id other ((cases id other).mp isOther).2
  · intro id other isOther
    exact sound.teams id other ((cases id other).mp isOther).2
  · intro firstId first secondId second isFirst isSecond
    exact sound.names firstId first secondId second ((cases firstId first).mp isFirst).2
      ((cases secondId second).mp isSecond).2
  · intro guid slot id online small isId
    have onlineBefore : world.isOnline guid = true := by rw [← isOnline]; exact online
    have before := sound.stored guid slot id onlineBefore small isId
    have isMember : ArenaWorld.IsMember
        { between with arenaTeams := between.arenaTeams.erase team.teamId } id slot guid ↔
        id ≠ team.teamId ∧ world.IsMember id slot guid := by
      simp [ArenaWorld.IsMember, cases, and_assoc, exists_and_left]
    rw [isMember, show ArenaWorld.arenaTeamId _ guid slot = _ from ids guid slot onlineBefore]
    by_cases here : guid ∈ team.guids ∧ slot = team.slot
    · rw [if_pos here]
      obtain ⟨member, rfl⟩ := here
      refine iff_of_false isId.symm fun both => both.1 ?_
      rw [← before.mpr both.2, sound.stored_of_mem found onlineBefore member]
    · rw [if_neg here, before]
      refine (and_iff_right_of_imp fun isMember same => ?_).symm
      subst same
      obtain ⟨sameSlot, member⟩ := (isMember_iff found).mp isMember
      exact here ⟨member, sameSlot.symm⟩

theorem handleDisband_sound {isFighting : Bool} (sound : Sound world) :
    ∃ after, world.handleDisband player teamId isFighting = some after ∧ Sound after := by
  unfold ArenaWorld.handleDisband
  cases found : world.arenaTeams.find teamId with
  | none => exact ⟨world, rfl, sound⟩
  | some team =>
    simp only
    by_cases refused : team.captainGuid ≠ player ∨ isFighting = true
    · simp_all
    · rw [if_neg refused]
      exact disband_sound sound (sound.find_self found)

theorem leader_sound {name : String} (sound : Sound world) :
    ∃ after, world.leader player teamId name = some after ∧ Sound after := by
  unfold ArenaWorld.leader
  cases found : world.arenaTeams.find teamId with
  | none => exact ⟨world, rfl, sound⟩
  | some team =>
    simp only
    by_cases isCaptain : team.captainGuid ≠ player
    · simp_all
    · rw [if_neg isCaptain]
      cases isNamed : team.getMember name with
      | none => exact ⟨world, rfl, sound⟩
      | some member =>
        simp only
        by_cases self : team.captainGuid = member.guid
        · simp_all
        · rw [if_neg self]
          unfold ArenaWorld.setCaptain
          rw [if_pos (sound.typed found)]
          refine ⟨_, rfl, ?_⟩
          have known := sound.find_self found
          have soundTeam := sound.teams team.teamId team known
          refine sound.change known rfl rfl rfl rfl
            ⟨soundTeam.typed, soundTeam.small, soundTeam.distinct, getMember_mem isNamed⟩ ?_
          intro guid slot id online small isId
          refine (sound.stored guid slot id online small isId).trans ?_
          have teams :
              (world.addArenaTeam { team with captainGuid := member.guid }).arenaTeams =
                world.arenaTeams.assign team.teamId { team with captainGuid := member.guid } :=
            rfl
          rw [isMember_assign teams]
          by_cases same : id = team.teamId
          · rw [if_pos same, same, isMember_iff known]
            rfl
          · rw [if_neg same]

theorem invite_sound {isAllowed : Bool} (sound : Sound world) :
    ∃ after, world.invite teamId player isAllowed = some after ∧ Sound after := by
  unfold ArenaWorld.invite
  cases found : world.arenaTeams.find teamId with
  | none => exact ⟨world, rfl, sound⟩
  | some team =>
    simp only [sound.typed found, not_true_eq_false, if_false]
    by_cases refused : isAllowed = false
    · simp_all
    · rw [if_neg refused]
      split_ifs
      · exact ⟨world, rfl, sound⟩
      · exact ⟨_, rfl, sound_setInvited.mpr sound⟩

end DarkCore.Arenas
