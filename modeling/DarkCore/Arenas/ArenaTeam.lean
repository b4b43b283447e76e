/-
Arena teams (`ArenaTeam.cpp`, `ArenaTeamHandler.cpp`). The members are kept by the
team, and each player keeps one team id for each size of a team. The server has no
further state where an update field is used that a player does not have.
-/

import DarkCore.Lib.OrdMap
import DarkCore.Lib.Runs

namespace DarkCore.Arenas

open DarkCore.Lib

structure ArenaTeamMember where
  guid : Nat
  name : String
  deriving DecidableEq

structure ArenaTeam where
  teamId : Nat
  type : Nat
  teamName : String
  captainGuid : Nat
  members : List ArenaTeamMember
  deriving DecidableEq

def getSlotByType (type : Nat) : Nat :=
  if type = 2 then 0 else if type = 3 then 1 else if type = 5 then 2 else 0xFF

namespace ArenaTeam

variable (team : ArenaTeam)

def slot : Nat := getSlotByType team.type

def guids : List Nat := team.members.map ArenaTeamMember.guid

def getMember (name : String) : Option ArenaTeamMember := team.members.find? (·.name = name)

def eraseMember (guid : Nat) : ArenaTeam :=
  { team with members := team.members.eraseP (·.guid = guid) }

end ArenaTeam

/-- `PLAYER_FIELD_ARENA_TEAM_INFO_1_1 + slot * ARENA_TEAM_END` is less than `PLAYER_END`. -/
def hasField (slot : Nat) : Prop := 0x04A0 + slot * 7 < 0x0504

instance (slot : Nat) : Decidable (hasField slot) := inferInstanceAs (Decidable (_ < _))

/-- The teams, and for each player the stored team ids, the invitation, whether the player is
online, and the name -/
structure ArenaWorld where
  arenaTeams : OrdMap Nat ArenaTeam
  nextTeamId : Nat
  arenaTeamId : Nat → Nat → Nat
  invited : Nat → Nat
  isOnline : Nat → Bool
  playerName : Nat → String

namespace ArenaWorld

variable (world : ArenaWorld)

def getArenaTeamByName (name : String) : Option ArenaTeam :=
  (world.arenaTeams.entries.find? (·.2.teamName.toUpper = name.toUpper)).map Prod.snd

/-- `SetArenaTeamInfoField` for the id of the team -/
def setArenaTeamId (guid slot id : Nat) : ArenaWorld :=
  { world with
    arenaTeamId :=
      Function.update world.arenaTeamId guid (Function.update (world.arenaTeamId guid) slot id) }

def setInvited (guid id : Nat) : ArenaWorld :=
  { world with invited := Function.update world.invited guid id }

def addArenaTeam (team : ArenaTeam) : ArenaWorld :=
  { world with arenaTeams := world.arenaTeams.assign team.teamId team }

/-- `AddMember` for a player who is online; `inDatabase` tells whether the database has the player
in a team of that size. -/
def addMember (team : ArenaTeam) (guid : Nat) (inDatabase : Bool) :
    Option (Bool × ArenaTeam × ArenaWorld) :=
  if team.type * 2 ≤ team.members.length then some (false, team, world)
  else if ¬ hasField team.slot then none
  else if world.arenaTeamId guid team.slot ≠ 0 ∨ inDatabase = true then some (false, team, world)
  else
    some (true, { team with members := team.members ++ [⟨guid, world.playerName guid⟩] },
      (world.setArenaTeamId guid team.slot team.teamId).setInvited guid 0)

def clearSlot (slot guid : Nat) : Option ArenaWorld :=
  if world.isOnline guid then
    if hasField slot then some (world.setArenaTeamId guid slot 0) else none
  else some world

/-- `DelMember`; the player does not have to be a member. -/
def delMember (team : ArenaTeam) (guid : Nat) : Option ArenaWorld :=
  (world.clearSlot team.slot guid).map (·.addArenaTeam (team.eraseMember guid))

def disband (team : ArenaTeam) : Option ArenaWorld :=
  (team.guids.foldlM (fun (world : ArenaWorld) guid => world.clearSlot team.slot guid) world).map
    fun world => { world with arenaTeams := world.arenaTeams.erase team.teamId }

def setCaptain (team : ArenaTeam) (guid : Nat) : Option ArenaWorld :=
  if hasField team.slot then some (world.addArenaTeam { team with captainGuid := guid }) else none

/-- `HandleArenaTeamCreate`. The name that is looked up is the one of the new team, which has none
yet, and the team is registered whether or not the captain has become a member. -/
def create (player type : Nat) (name : String) (inDatabase : Bool) : Option ArenaWorld :=
  if (world.getArenaTeamByName "").isSome then some world
  else do
    let team : ArenaTeam := ⟨world.nextTeamId, type % 2 ^ 8, name, player, []⟩
    let world := { world with nextTeamId := world.nextTeamId + 1 }
    let (_, team, world) ← world.addMember team player inDatabase
    return world.addArenaTeam team

/-- `isAllowed` stands for the level, the list of ignored players and the faction. -/
def invite (teamId player : Nat) (isAllowed : Bool) : Option ArenaWorld :=
  match world.arenaTeams.find teamId with
  | none => some world
  | some team =>
    if isAllowed = false then some world
    else if ¬ hasField team.slot then none
    else if world.arenaTeamId player team.slot ≠ 0 ∨ world.invited player ≠ 0 ∨
        team.type * 2 ≤ team.members.length then some world
    else some (world.setInvited player team.teamId)

/-- `isAllowed` stands for the faction of the captain. -/
def accept (player : Nat) (isAllowed inDatabase : Bool) : Option ArenaWorld :=
  match world.arenaTeams.find (world.invited player) with
  | none => some world
  | some team =>
    if ¬ hasField team.slot then none
    else if world.arenaTeamId player team.slot ≠ 0 ∨ isAllowed = false then some world
    else do
      let (_, team, world) ← world.addMember team player inDatabase
      return world.addArenaTeam team

def leave (player teamId : Nat) (inArena : Bool) : Option ArenaWorld :=
  match world.arenaTeams.find teamId with
  | none => some world
  | some team =>
    if inArena = true ∨ player = team.captainGuid ∧ 1 < team.members.length then some world
    else if player = team.captainGuid then world.disband team
    else world.delMember team player

def handleDisband (player teamId : Nat) (isFighting : Bool) : Option ArenaWorld :=
  match world.arenaTeams.find teamId with
  | none => some world
  | some team =>
    if team.captainGuid ≠ player ∨ isFighting = true then some world else world.disband team

def remove (player teamId : Nat) (name : String) : Option ArenaWorld :=
  match world.arenaTeams.find teamId with
  | none => some world
  | some team =>
    if team.captainGuid ≠ player then some world
    else
      match team.getMember name with
      | none => some world
      | some member =>
        if team.captainGuid = member.guid then some world else world.delMember team member.guid

def leader (player teamId : Nat) (name : String) : Option ArenaWorld :=
  match world.arenaTeams.find teamId with
  | none => some world
  | some team =>
    if team.captainGuid ≠ player then some world
    else
      match team.getMember name with
      | none => some world
      | some member =>
        if team.captainGuid = member.guid then some world else world.setCaptain team member.guid

end ArenaWorld

/-- The requests; what the team does not know comes with them. -/
inductive ArenaAction
  | create (type : Nat) (name : String) (inDatabase : Bool)
  | invite (teamId target : Nat) (isAllowed : Bool)
  | accept (isAllowed inDatabase : Bool)
  | decline
  | leave (teamId : Nat) (inArena : Bool)
  | disband (teamId : Nat) (isFighting : Bool)
  | remove (teamId : Nat) (name : String)
  | leader (teamId : Nat) (name : String)

namespace ArenaWorld

def request (world : ArenaWorld) (player : Nat) : ArenaAction → Option ArenaWorld
  | .create type name inDatabase => world.create player type name inDatabase
  | .invite teamId target isAllowed =>
    if world.isOnline target then world.invite teamId target isAllowed else some world
  | .accept isAllowed inDatabase => world.accept player isAllowed inDatabase
  | .decline => some (world.setInvited player 0)
  | .leave teamId inArena => world.leave player teamId inArena
  | .disband teamId isFighting => world.handleDisband player teamId isFighting
  | .remove teamId name => world.remove player teamId name
  | .leader teamId name => world.leader player teamId name

def next (server : Option ArenaWorld) (action : Nat × ArenaAction) : Option ArenaWorld :=
  server.bind fun world =>
    if world.isOnline action.1 then world.request action.1 action.2 else some world

end ArenaWorld

end DarkCore.Arenas
