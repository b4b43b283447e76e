/-
Invitations to groups (`GroupHandler.cpp`, `Group.cpp`, `Player.cpp`). A group
knows its invitees and a player the group he is invited to. A group that was not
created yet only holds the invitations of its leader and of one player.
-/

import DarkCore.Lib.Runs
import DarkCore.Parties.Subgroups

namespace DarkCore.Parties

open Lib

/-- The players who are online, and the groups that exist by their addresses; an address is not
used again. -/
structure World where
  players : Nat → Option Player
  groups : Nat → Option Group
  nextGroup : Nat

namespace Party

def removeInvite (guid : Nat) (party : Party) : Party where
  group := { party.group with invitees := party.group.invitees.filter fun other => other ≠ guid }
  players := changePlayer guid (fun player => { player with groupInvite := none }) party.players

/-- What `AddInvite` does once its checks are passed -/
def insertInvite (guid : Nat) (party : Party) : Party where
  group :=
    { (party.removeInvite guid).group with
      invitees := guid :: (party.removeInvite guid).group.invitees }
  players := changePlayer guid
    (fun player => { player with groupInvite := some party.group.this })
    (party.removeInvite guid).players

/-- What `HandleGroupAcceptOpcode` does once the invitation is removed: a group without members is
created for its leader first. -/
def welcome (guid : Nat) (party : Party) : Party :=
  let leader := party.group.leaderGuid
  let opened :=
    if party.group.getMembersCount = 0 then
      (if (party.players leader).isSome then party.removeInvite leader else party).create leader
    else party
  (opened.addMember guid).1

end Party

namespace World

def party (group : Group) (world : World) : Party := { group := group, players := world.players }

def put (id : Nat) (group : Option Group) (players : Nat → Option Player) (world : World) : World :=
  { world with players := players, groups := Function.update world.groups id group }

def normalGroup (player : Player) (world : World) : Option Nat :=
  match player.group.target with
  | none => none
  | some id =>
    match world.groups id with
    | none => some id
    | some group => if group.isBGGroup then player.originalGroup.target else some id

def addInvite (id guid : Nat) (world : World) : World × Bool :=
  match world.players guid, world.groups id with
  | some player, some group =>
    if player.groupInvite.isSome then (world, false)
    else if (world.normalGroup player).isSome then (world, false)
    else
      let invited := (world.party group).insertInvite guid
      (world.put id (some invited.group) invited.players, true)
  | _, _ => (world, false)

def addLeaderInvite (id guid : Nat) (world : World) : World × Bool :=
  let (invited, added) := world.addInvite id guid
  if added then
    ({ invited with
      groups := Function.update invited.groups id
        ((invited.groups id).map fun group => { group with leaderGuid := guid }) }, true)
  else (invited, false)

def deleteGroup (id : Nat) (world : World) : World :=
  { world with groups := Function.update world.groups id none }

/-- `new Group` -/
def newGroup (world : World) : World :=
  { world with
    groups := Function.update world.groups world.nextGroup (some { this := world.nextGroup })
    nextGroup := world.nextGroup + 1 }

/-- The new group that `HandleGroupInviteOpcode` starts with two invitations -/
def inviteToNewGroup (inviter invited : Nat) (world : World) : World :=
  let id := world.nextGroup
  let (led, linked) := world.newGroup.addLeaderInvite id inviter
  if linked then
    let (full, added) := led.addInvite id invited
    if added then full else led.deleteGroup id
  else led.deleteGroup id

/-- `HandleGroupInviteOpcode`; `allowed` are the checks on names, factions, instances and ignore
lists. -/
def handleGroupInvite (inviter invited : Nat) (allowed : Bool) (world : World) : World :=
  match world.players inviter, world.players invited with
  | some sender, some player =>
    if !allowed then world
    else if (world.normalGroup player).isSome || player.groupInvite.isSome then world
    else
      match world.normalGroup sender with
      | none => world.inviteToNewGroup inviter invited
      | some id =>
        match world.groups id with
        | none => world
        | some group =>
          if !group.isLeader inviter && !group.isAssistant inviter then world
          else if group.isFull then world
          else (world.addInvite id invited).1
  | _, _ => world

/-- `HandleGroupAcceptOpcode` -/
def handleGroupAccept (guid : Nat) (world : World) : World :=
  match (world.players guid).bind Player.groupInvite with
  | none => world
  | some id =>
    match world.groups id with
    | none => world
    | some group =>
      if group.leaderGuid = guid then world
      else
        let removed := (world.party group).removeInvite guid
        if removed.group.isFull then world.put id (some removed.group) removed.players
        else
          let joined := removed.welcome guid
          world.put id (some joined.group) joined.players

def uninviteFromGroup (guid : Nat) (world : World) : World :=
  match (world.players guid).bind Player.groupInvite with
  | none => world
  | some id =>
    match world.groups id with
    | none => world
    | some group =>
      let removed := (world.party group).removeInvite guid
      if removed.group.getMembersCount ≤ 1 then
        if removed.group.getMembersCount = 0 then
          world.put id none removed.removeAllInvites.players
        else world.put id none removed.disband.players
      else world.put id (some removed.group) removed.players

def removeFromGroup (id guid : Nat) (kicked : Bool) (world : World) : World :=
  match world.groups id with
  | none => world
  | some group =>
    let removed := (world.party group).removeMember guid kicked
    if removed.group.getMembersCount ≤ 1 then world.put id none removed.players
    else world.put id (some removed.group) removed.players

/-- `HandleGroupUninviteGuidOpcode` and `HandleGroupUninviteOpcode`, which names the player and does
not ask whether he is the leader; `inBattleground` and `canBoot` are what `CanUninviteFromGroup`
asks besides. -/
def handleGroupUninvite (sender guid : Nat) (byName inBattleground canBoot : Bool) (world : World) :
    World :=
  if guid = sender then world
  else
    match (world.players sender).bind fun player => player.group.target with
    | none => world
    | some id =>
      match world.groups id with
      | none => world
      | some group =>
        let permitted :=
          if group.isLFGGroup then canBoot
          else (group.isLeader sender || group.isAssistant sender) && !inBattleground
        if !permitted then world
        else if !byName && group.isLeader guid then world
        else if group.isMember guid then world.removeFromGroup id guid true
        else if group.invitees.contains guid then world.uninviteFromGroup guid
        else world

/-- `HandleGroupDisbandOpcode`, by which a player leaves his group -/
def handleGroupDisband (guid : Nat) (inBattleground : Bool) (world : World) : World :=
  match (world.players guid).bind fun player => player.group.target with
  | none => world
  | some id => if inBattleground then world else world.removeFromGroup id guid false

/-- The command that disbands the group of a player and lets it exist (`HandleGroupDisbandCommand`) -/
def handleDisbandCommand (guid : Nat) (world : World) : World :=
  match (world.players guid).bind fun player => player.group.target with
  | none => world
  | some id =>
    match world.groups id with
    | none => world
    | some group =>
      let disbanded := (world.party group).disband
      world.put id (some disbanded.group) disbanded.players

/-- `LogoutPlayer`: who does not lose his connection leaves a group that is no raid. -/
def logout (guid : Nat) (connected : Bool) (world : World) : World :=
  let uninvited := world.uninviteFromGroup guid
  let left :=
    match (uninvited.players guid).bind fun player => player.group.target with
    | none => uninvited
    | some id =>
      match uninvited.groups id with
      | none => uninvited
      | some group =>
        if !group.isRaidGroup && connected then uninvited.removeFromGroup id guid false
        else uninvited
  { left with players := Function.update left.players guid none }

/-- A player who comes online; `reference` is the one that `_LoadGroup` restores. No player has
the guid 0. -/
def login (guid : Nat) (reference : GroupReference) (world : World) : World :=
  match world.players guid with
  | some _ => world
  | none =>
    if guid = 0 then world
    else
      { world with players := Function.update world.players guid (some { group := reference }) }

inductive Request where
  | invite (inviter invited : Nat) (allowed : Bool)
  | accept (guid : Nat)
  | decline (guid : Nat)
  | uninvite (sender guid : Nat) (byName inBattleground canBoot : Bool)
  | leave (guid : Nat) (inBattleground : Bool)
  | disband (guid : Nat)
  | convertToRaid (id : Nat)
  | login (guid : Nat) (reference : GroupReference)
  | logout (guid : Nat) (connected : Bool)

def convertToRaid (id : Nat) (world : World) : World :=
  { world with
    groups := Function.update world.groups id ((world.groups id).map Group.convertToRaid) }

def next (world : World) : Request → World
  | .invite inviter invited allowed => world.handleGroupInvite inviter invited allowed
  | .accept guid => world.handleGroupAccept guid
  | .decline guid => world.uninviteFromGroup guid
  | .uninvite sender guid byName inBattleground canBoot =>
    world.handleGroupUninvite sender guid byName inBattleground canBoot
  | .leave guid inBattleground => world.handleGroupDisband guid inBattleground
  | .disband guid => world.handleDisbandCommand guid
  | .convertToRaid id => world.convertToRaid id
  | .login guid reference => world.login guid reference
  | .logout guid connected => world.logout guid connected

def start : World where
  players _ := none
  groups _ := none
  nextGroup := 0

end World

end DarkCore.Parties
