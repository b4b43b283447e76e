/-
Which runs of arena team requests keep the teams sound: those in which no request
creates a team against the rules and nobody leaves a team that is not his own.
-/

import DarkCore.Arenas.Requests

namespace DarkCore.Arenas

open DarkCore.Lib

def InOrder (server : Option ArenaWorld) : Prop := ∀ world, server = some world → Sound world

/-- Either nothing is created (a team without a name stops it, an unknown type the server), or the
type is right, the name new and the captain free. -/
def ProperCreate (world : ArenaWorld) (player type : Nat) (name : String) (inDatabase : Bool) :
    Prop :=
  (world.getArenaTeamByName "").isSome ∨ type % 2 ^ 8 ≠ 0 ∧ ¬ IsType (type % 2 ^ 8) ∨
    IsType (type % 2 ^ 8) ∧
      (∀ teamId team, world.arenaTeams.find teamId = some team → team.teamName ≠ name) ∧
      world.arenaTeamId player (getSlotByType (type % 2 ^ 8)) = 0 ∧ inDatabase = false

section Create

variable {world : ArenaWorld} {player : Nat}

theorem registered (new : ArenaTeam) (sound : Sound (world.addArenaTeam new))
    (fresh : world.arenaTeams.find new.teamId = none) :
    SoundTeam new ∧
      ∀ teamId team, world.arenaTeams.find teamId = some team → team.teamName ≠ new.teamName := by
  have isNew : (world.addArenaTeam new).arenaTeams.find new.teamId = some new :=
    OrdMap.find_assign_some.mpr (Or.inl ⟨rfl, rfl⟩)
  refine ⟨sound.teams new.teamId new isNew, fun teamId team found same => ?_⟩
  have different : teamId ≠ new.teamId := by
    grind
  have isOld : (world.addArenaTeam new).arenaTeams.find teamId = some team :=
    OrdMap.find_assign_some.mpr (Or.inr ⟨different, found⟩)
  exact different (sound.names teamId team new.teamId new isOld isNew same)

theorem Sound.find_next (sound : Sound world) :
    world.arenaTeams.find world.nextTeamId = none := by
  cases found : world.arenaTeams.find world.nextTeamId with
  | none => rfl
  | some team => exact absurd (sound.known world.nextTeamId team found).2.2 (Nat.lt_irrefl _)

theorem Sound.found_team (sound : Sound world) {type : Nat} {name : String} (typed : IsType type)
    (newName : ∀ teamId team, world.arenaTeams.find teamId = some team → team.teamName ≠ name)
    (free : world.arenaTeamId player (getSlotByType type) = 0) :
    Sound (afterJoin { world with nextTeamId := world.nextTeamId + 1 }
      ⟨world.nextTeamId, type, name, player, []⟩ player) := by
  have positive : world.nextTeamId ≠ 0 := Nat.ne_of_gt sound.fresh
  have none := sound.find_next
  generalize isNew : joined { world with nextTeamId := world.nextTeamId + 1 }
    ⟨world.nextTeamId, type, name, player, []⟩ player = new
  generalize isAfter : afterJoin { world with nextTeamId := world.nextTeamId + 1 }
    ⟨world.nextTeamId, type, name, player, []⟩ player = after
  have guids : new.guids = [player] := by
    subst isNew
    rfl
  have slot : new.slot = getSlotByType type := by
    subst isNew
    rfl
  have teams : after.arenaTeams = world.arenaTeams.assign world.nextTeamId new := by
    subst isAfter isNew
    rfl
  have next : after.nextTeamId = world.nextTeamId + 1 := by
    subst isAfter
    rfl
  have cases {id : Nat} {other : ArenaTeam} (isOther : after.arenaTeams.find id = some other) :
      id = world.nextTeamId ∧ other = new ∨ world.arenaTeams.find id = some other := by
    rw [teams] at isOther
    exact (OrdMap.find_assign_some.mp isOther).imp_right And.right
  refine ⟨by omega, ?_, ?_, ?_, ?_⟩
  · intro id other isOther
    rw [next]
    rcases cases isOther with ⟨rfl, rfl⟩ | elsewhere
    · exact ⟨by rw [← isNew]; rfl, positive, Nat.lt_succ_self _⟩
    · obtain ⟨own, isId, small⟩ := sound.known id other elsewhere
      exact ⟨own, isId, Nat.lt_succ_of_lt small⟩
  · intro id other isOther
    rcases cases isOther with ⟨_, rfl⟩ | elsewhere
    · subst isNew
      refine ⟨typed, ?_, List.nodup_singleton player, List.mem_singleton_self player⟩
      change 1 ≤ 2 * type
      rcases typed with rfl | rfl | rfl <;> decide
    · exact sound.teams id other elsewhere
  · intro firstId first secondId second isFirst isSecond same
    have isName : new.teamName = name := by
      subst isNew
      rfl
    rcases cases isFirst with ⟨rfl, rfl⟩ | isFirst <;>
      rcases cases isSecond with ⟨rfl, rfl⟩ | isSecond
    · rfl
    · exact absurd (same.symm.trans isName) (newName secondId second isSecond)
    · exact absurd (same.trans isName) (newName firstId first isFirst)
    · exact sound.names firstId first secondId second isFirst isSecond same
  · refine stored_join sound new positive ?_ teams ?_ (guids ▸ List.mem_singleton_self player)
      (slot ▸ free) ?_
    · simp [ArenaWorld.IsMember, none, guids]
    · subst isAfter
      rfl
    · intro other otherSlot
      subst isAfter isNew
      exact arenaTeamId_setArenaTeamId player _ _ other otherSlot

theorem inOrder_some : InOrder (some world) ↔ Sound world := by
  unfold InOrder
  simp

theorem inOrder_none : InOrder none := by
  intro world running
  cases running

theorem create_inOrder_iff {type : Nat} {name : String} {inDatabase : Bool} (sound : Sound world) :
    InOrder (world.create player type name inDatabase) ↔
      ProperCreate world player type name inDatabase := by
  unfold ArenaWorld.create ProperCreate
  generalize type % 2 ^ 8 = kind
  by_cases nameless : (world.getArenaTeamByName "").isSome
  · rw [if_pos nameless]
    exact iff_of_true (inOrder_some.mpr sound) (Or.inl nameless)
  rw [if_neg nameless, or_iff_right nameless]
  dsimp only
  generalize isTeam : (⟨world.nextTeamId, kind, name, player, []⟩ : ArenaTeam) = team
  generalize isBetween : ({ world with nextTeamId := world.nextTeamId + 1 } : ArenaWorld) = between
  have fresh : between.arenaTeams.find team.teamId = none := by
    subst isBetween isTeam
    exact sound.find_next
  by_cases typed : IsType kind
  · have field : hasField team.slot := by
      subst isTeam
      exact hasField_iff.mpr typed
    rw [or_iff_right (fun both => both.2 typed), addMember_eq field]
    by_cases joins : team.members.length < team.type * 2 ∧
        between.arenaTeamId player team.slot = 0 ∧ inDatabase = false
    · rw [if_pos joins]
      refine inOrder_some.trans ?_
      constructor
      · intro soundAfter
        have registered := registered (joined between team player) soundAfter fresh
        subst isBetween isTeam
        exact ⟨typed, registered.2, joins.2⟩
      · rintro ⟨_, newName, free, _⟩
        subst isBetween isTeam
        exact sound.found_team typed newName free
    · rw [if_neg joins]
      refine iff_of_false ?_ ?_
      · intro inOrder
        have captain := (registered team (inOrder_some.mp inOrder) fresh).1.captain
        subst isTeam
        cases captain
      · rintro ⟨_, _, free⟩
        subst isBetween isTeam
        refine joins ⟨?_, free⟩
        change 0 < kind * 2
        rcases typed with rfl | rfl | rfl <;> decide
  · by_cases zero : kind = 0
    · have full : team.type * 2 ≤ team.members.length := by
        grind
      unfold ArenaWorld.addMember
      rw [if_pos full]
      refine iff_of_false ?_ ?_
      · intro inOrder
        have captain := (registered team (inOrder_some.mp inOrder) fresh).1.captain
        subst isTeam
        cases captain
      · simp_all
    · have room : ¬ team.type * 2 ≤ team.members.length := by
        grind
      have noField : ¬ hasField team.slot := by
        subst isTeam
        exact fun field => typed (hasField_iff.mp field)
      unfold ArenaWorld.addMember
      rw [if_neg room, if_pos noField]
      exact iff_of_true inOrder_none (Or.inl ⟨zero, typed⟩)

end Create

/-- The team does not exist or may not be left now, it is the player's own, or he has no team of its
size. -/
def ProperLeave (world : ArenaWorld) (player teamId : Nat) (inArena : Bool) : Prop :=
  ∀ team, world.arenaTeams.find teamId = some team → inArena = false →
    player ∈ team.guids ∨ world.arenaTeamId player team.slot = 0

section Requests

variable {world : ArenaWorld} {player : Nat}

theorem leave_inOrder_iff {teamId : Nat} {inArena : Bool} (sound : Sound world)
    (online : world.isOnline player = true) :
    InOrder (world.leave player teamId inArena) ↔ ProperLeave world player teamId inArena := by
  unfold ArenaWorld.leave ProperLeave
  cases found : world.arenaTeams.find teamId with
  | none => exact iff_of_true (inOrder_some.mpr sound) (by simp)
  | some team =>
    have self := sound.find_self found
    have isTeam (conclusion : ArenaTeam → Prop) :
        (∀ other, some team = some other → conclusion other) ↔ conclusion team := by simp
    rw [isTeam]
    simp only
    by_cases isCaptain : player = team.captainGuid
    · have member : player ∈ team.guids := isCaptain ▸ (sound.teams teamId team found).captain
      refine iff_of_true ?_ (fun _ => Or.inl member)
      by_cases stays : inArena = true ∨ player = team.captainGuid ∧ 1 < team.members.length
      · rw [if_pos stays]
        exact inOrder_some.mpr sound
      · rw [if_neg stays, if_pos isCaptain]
        obtain ⟨after, disbanded, soundAfter⟩ := disband_sound sound self
        rw [disbanded]
        exact inOrder_some.mpr soundAfter
    · cases inArena with
      | true =>
        rw [if_pos (Or.inl rfl)]
        exact iff_of_true (inOrder_some.mpr sound) (by simp)
      | false =>
        rw [if_neg (by simp [isCaptain]), if_neg isCaptain]
        by_cases member : player ∈ team.guids
        · obtain ⟨after, left, soundAfter⟩ :=
            delMember_sound sound self member (Ne.symm isCaptain)
          rw [left]
          exact iff_of_true (inOrder_some.mpr soundAfter) (fun _ => Or.inl member)
        · have small := slot_lt (sound.teams teamId team found).typed
          rw [delMember_absent sound self online member, inOrder_some,
            sound_setArenaTeamId_iff sound online small]
          simp [member]

def Proper (world : ArenaWorld) (player : Nat) : ArenaAction → Prop
  | .create type name inDatabase => ProperCreate world player type name inDatabase
  | .leave teamId inArena => ProperLeave world player teamId inArena
  | _ => True

def ProperNext (server : Option ArenaWorld) (action : Nat × ArenaAction) : Prop :=
  ∀ world, server = some world → world.isOnline action.1 = true → Proper world action.1 action.2

theorem inOrder_of_exists {server : Option ArenaWorld}
    (exists_sound : ∃ after, server = some after ∧ Sound after) : InOrder server := by
  obtain ⟨after, rfl, sound⟩ := exists_sound
  exact inOrder_some.mpr sound

theorem request_inOrder_iff (action : ArenaAction) (sound : Sound world)
    (online : world.isOnline player = true) :
    InOrder (world.request player action) ↔ Proper world player action := by
  cases action with
  | create type name inDatabase => exact create_inOrder_iff sound
  | invite teamId target isAllowed =>
    refine iff_of_true ?_ trivial
    simp only [ArenaWorld.request]
    by_cases targetOnline : world.isOnline target
    · rw [if_pos targetOnline]
      exact inOrder_of_exists (invite_sound sound)
    · rw [if_neg targetOnline]
      exact inOrder_some.mpr sound
  | accept isAllowed inDatabase =>
    exact iff_of_true (inOrder_of_exists (accept_sound sound online)) trivial
  | decline => exact iff_of_true (inOrder_some.mpr (sound_setInvited.mpr sound)) trivial
  | leave teamId inArena => exact leave_inOrder_iff sound online
  | disband teamId isFighting =>
    exact iff_of_true (inOrder_of_exists (handleDisband_sound sound)) trivial
  | remove teamId name => exact iff_of_true (inOrder_of_exists (remove_sound sound)) trivial
  | leader teamId name => exact iff_of_true (inOrder_of_exists (leader_sound sound)) trivial

theorem next_inOrder_iff (server : Option ArenaWorld) (action : Nat × ArenaAction)
    (inOrder : InOrder server) :
    InOrder (ArenaWorld.next server action) ↔ ProperNext server action := by
  unfold ProperNext ArenaWorld.next
  cases server with
  | none => exact iff_of_true inOrder_none (by simp)
  | some world =>
    rw [Option.bind_some]
    by_cases online : world.isOnline action.1
    · rw [if_pos online, request_inOrder_iff action.2 (inOrder world rfl) online]
      simp [online]
    · simp_all

end Requests

/-- From sound teams, the teams stay sound all along a run exactly when each of its requests is
proper. -/
theorem arenaTeams_inOrder_iff {world : ArenaWorld} (sound : Sound world)
    (requests : List (Nat × ArenaAction)) :
    Always ArenaWorld.next InOrder (some world) requests ↔
      Along ArenaWorld.next ProperNext (some world) requests :=
  always_iff_along next_inOrder_iff (inOrder_some.mpr sound)

def newServer : ArenaWorld where
  arenaTeams := OrdMap.empty
  nextTeamId := 1
  arenaTeamId _ _ := 0
  invited _ := 0
  isOnline guid := decide (guid < 4)
  playerName _ := "Player"

theorem newServer_sound : Sound newServer := by
  refine ⟨Nat.one_pos, ?_, ?_, ?_, ?_⟩
  · intro teamId team found
    cases found
  · intro teamId team found
    cases found
  · intro teamId team otherId other found
    cases found
  · intro guid slot teamId online small isId
    refine iff_of_false isId.symm ?_
    rintro ⟨team, found, _⟩
    cases found

theorem arenaTeams_inOrder_iff_newServer :
    Always ArenaWorld.next InOrder (some newServer)
      [(1, .create 2 "Gladiators" false), (1, .invite 1 2 true), (2, .accept true false)] := by
  refine (arenaTeams_inOrder_iff newServer_sound _).mpr ⟨?_, ?_, ?_, trivial⟩
  · rintro world ⟨⟩ online
    refine Or.inr (Or.inr ⟨Or.inl rfl, ?_, rfl, rfl⟩)
    intro teamId team found
    cases found
  · intro world running online
    trivial
  · intro world running online
    trivial

/-- A team of no known type is registered, and its captain is no member. -/
theorem create_unsound :
    Sound newServer ∧
      ¬ Always ArenaWorld.next InOrder (some newServer) [(1, .create 0 "Gladiators" false)] := by
  refine ⟨newServer_sound, fun always => ?_⟩
  have sound := inOrder_some.mp (always.last : InOrder (some _))
  have typed := (sound.teams 1 ⟨1, 0, "Gladiators", 1, []⟩ rfl).typed
  simp [IsType] at typed

end DarkCore.Arenas
