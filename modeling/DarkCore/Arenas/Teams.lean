/-
Sound arena teams, and which requests keep them so. Joining and being removed are
checked; creating a team and leaving one are not, and for these two the condition
that is missing is found.
-/

import DarkCore.Arenas.ArenaTeam

namespace DarkCore.Arenas

open DarkCore.Lib

def IsType (type : Nat) : Prop := type = 2 ∨ type = 3 ∨ type = 5

structure SoundTeam (team : ArenaTeam) : Prop where
  typed : IsType team.type
  small : team.members.length ≤ 2 * team.type
  distinct : team.guids.Nodup
  captain : team.captainGuid ∈ team.guids

def ArenaWorld.IsMember (world : ArenaWorld) (teamId slot guid : Nat) : Prop :=
  ∃ team, world.arenaTeams.find teamId = some team ∧ team.slot = slot ∧ guid ∈ team.guids

structure Sound (world : ArenaWorld) : Prop where
  fresh : 0 < world.nextTeamId
  known : ∀ teamId team, world.arenaTeams.find teamId = some team →
    team.teamId = teamId ∧ teamId ≠ 0 ∧ teamId < world.nextTeamId
  teams : ∀ teamId team, world.arenaTeams.find teamId = some team → SoundTeam team
  names : ∀ teamId team otherId other, world.arenaTeams.find teamId = some team →
    world.arenaTeams.find otherId = some other → team.teamName = other.teamName → teamId = otherId
  stored : ∀ guid slot teamId, world.isOnline guid = true → slot < 3 → teamId ≠ 0 →
    (world.arenaTeamId guid slot = teamId ↔ world.IsMember teamId slot guid)

section Teams

variable {world after : ArenaWorld} {team new : ArenaTeam} {player guid slot teamId : Nat}

theorem hasField_iff {type : Nat} : hasField (getSlotByType type) ↔ IsType type := by
  unfold hasField getSlotByType IsType
  split_ifs <;> omega

theorem slot_lt (typed : IsType team.type) : team.slot < 3 := by
  unfold ArenaTeam.slot getSlotByType
  rcases typed with type | type | type <;> simp [type]

theorem arenaTeamId_setArenaTeamId (guid slot id other otherSlot : Nat) :
    (world.setArenaTeamId guid slot id).arenaTeamId other otherSlot =
      if other = guid ∧ otherSlot = slot then id else world.arenaTeamId other otherSlot := by
  unfold ArenaWorld.setArenaTeamId
  by_cases same : other = guid
  · subst same
    by_cases sameSlot : otherSlot = slot <;> simp [sameSlot]
  · simp [same]

theorem isMember_assign (teams : after.arenaTeams = world.arenaTeams.assign teamId new)
    (other otherSlot guid : Nat) :
    after.IsMember other otherSlot guid ↔
      if other = teamId then new.slot = otherSlot ∧ guid ∈ new.guids
      else world.IsMember other otherSlot guid := by
  unfold ArenaWorld.IsMember
  rw [teams, OrdMap.find_assign]
  by_cases same : other = teamId
  · grind
  · simp [same]

theorem Sound.stored_of_mem (sound : Sound world) (found : world.arenaTeams.find teamId = some team)
    (isOnline : world.isOnline guid = true) (member : guid ∈ team.guids) :
    world.arenaTeamId guid team.slot = teamId :=
  (sound.stored guid team.slot teamId isOnline (slot_lt (sound.teams teamId team found).typed)
    (sound.known teamId team found).2.1).mpr ⟨team, found, rfl, member⟩

theorem Sound.change (sound : Sound world) (found : world.arenaTeams.find teamId = some team)
    (teams : after.arenaTeams = world.arenaTeams.assign teamId new) (sameId : new.teamId = teamId)
    (sameName : new.teamName = team.teamName) (next : after.nextTeamId = world.nextTeamId)
    (soundNew : SoundTeam new)
    (stored : ∀ guid slot teamId, after.isOnline guid = true → slot < 3 → teamId ≠ 0 →
      (after.arenaTeamId guid slot = teamId ↔ after.IsMember teamId slot guid)) : Sound after := by
  have cases {id : Nat} {other : ArenaTeam} (isOther : after.arenaTeams.find id = some other) :
      id = teamId ∧ other = new ∨ id ≠ teamId ∧ world.arenaTeams.find id = some other := by
    rw [teams] at isOther
    exact OrdMap.find_assign_some.mp isOther
  have named {id : Nat} {other : ArenaTeam} (isOther : after.arenaTeams.find id = some other) :
      ∃ before, world.arenaTeams.find id = some before ∧ before.teamName = other.teamName := by
    rcases cases isOther with ⟨rfl, rfl⟩ | ⟨_, elsewhere⟩
    · exact ⟨team, found, sameName.symm⟩
    · exact ⟨other, elsewhere, rfl⟩
  refine ⟨next.symm ▸ sound.fresh, ?_, ?_, ?_, stored⟩
  · intro id other isOther
    rw [next]
    rcases cases isOther with ⟨rfl, rfl⟩ | ⟨_, elsewhere⟩
    · exact ⟨sameId, (sound.known id team found).2⟩
    · exact sound.known id other elsewhere
  · intro id other isOther
    rcases cases isOther with ⟨_, rfl⟩ | ⟨_, elsewhere⟩
    · exact soundNew
    · exact sound.teams id other elsewhere
  · intro firstId first secondId second isFirst isSecond sameNames
    obtain ⟨before, isBefore, nameBefore⟩ := named isFirst
    obtain ⟨other, isOther, nameOther⟩ := named isSecond
    exact sound.names firstId before secondId other isBefore isOther
      (nameBefore.trans (sameNames.trans nameOther.symm))

theorem stored_join (sound : Sound world) (new : ArenaTeam) (positive : teamId ≠ 0)
    (old : ∀ otherSlot third, world.IsMember teamId otherSlot third ↔
      new.slot = otherSlot ∧ third ∈ new.guids ∧ third ≠ player)
    (teams : after.arenaTeams = world.arenaTeams.assign teamId new)
    (isOnline : after.isOnline = world.isOnline) (member : player ∈ new.guids)
    (free : world.arenaTeamId player new.slot = 0)
    (ids : ∀ other otherSlot, after.arenaTeamId other otherSlot =
      if other = player ∧ otherSlot = new.slot then teamId else world.arenaTeamId other otherSlot)
    (guid slot id : Nat) (online : after.isOnline guid = true) (small : slot < 3) (isId : id ≠ 0) :
    after.arenaTeamId guid slot = id ↔ after.IsMember id slot guid := by
  rw [isOnline] at online
  rw [ids, isMember_assign teams]
  have before := sound.stored guid slot id online small isId
  by_cases here : guid = player ∧ slot = new.slot
  · obtain ⟨rfl, rfl⟩ := here
    rw [if_pos ⟨rfl, rfl⟩]
    by_cases same : id = teamId
    · simp [same, member]
    · grind
  · grind

theorem stored_part (sound : Sound world) (teamId player slot : Nat)
    (new : ∀ id otherSlot third, after.IsMember id otherSlot third ↔
      world.IsMember id otherSlot third ∧ ¬ (id = teamId ∧ third = player))
    (own : world.isOnline player = true → world.arenaTeamId player slot = teamId)
    (only : ∀ otherSlot, world.IsMember teamId otherSlot player → otherSlot = slot)
    (isOnline : after.isOnline = world.isOnline)
    (ids : ∀ other otherSlot, after.isOnline other = true → after.arenaTeamId other otherSlot =
      if other = player ∧ otherSlot = slot then 0 else world.arenaTeamId other otherSlot)
    (guid otherSlot id : Nat) (online : after.isOnline guid = true) (small : otherSlot < 3)
    (isId : id ≠ 0) :
    after.arenaTeamId guid otherSlot = id ↔ after.IsMember id otherSlot guid := by
  rw [ids guid otherSlot online, new]
  rw [isOnline] at online
  have before := sound.stored guid otherSlot id online small isId
  by_cases here : guid = player ∧ otherSlot = slot
  · obtain ⟨rfl, rfl⟩ := here
    rw [if_pos ⟨rfl, rfl⟩, ← before]
    exact iff_of_false isId.symm fun both => both.2 ⟨both.1.symm.trans (own online), rfl⟩
  · rw [if_neg here, before]
    refine (and_iff_left_of_imp fun isMember gone => ?_).symm
    obtain ⟨rfl, rfl⟩ := gone
    exact here ⟨rfl, only otherSlot isMember⟩

end Teams

end DarkCore.Arenas
