/-
Groups of players (`Group.h`, `Group.cpp`): the member slots with the counters of
a raid's subgroups, the leader, the invitees, and the references by which the
players who are online know their groups (`GroupReference`, `Player.cpp`).
-/

import Mathlib.Data.List.Basic

namespace DarkCore.Parties

def maxGroupSize : Nat := 5
def maxRaidSize : Nat := 40
def maxRaidSubgroups : Nat := maxRaidSize / maxGroupSize

/-- The subgroup stays when the link is cut. -/
structure GroupReference where
  target : Option Nat := none
  subGroup : Nat := 0
  deriving DecidableEq

def GroupReference.unlink (reference : GroupReference) : GroupReference :=
  { reference with target := none }

/-- The group of a player, the one he left for a battleground raid, and the one he is invited to;
groups are known by their addresses. -/
structure Player where
  group : GroupReference := {}
  originalGroup : GroupReference := {}
  groupInvite : Option Nat := none
  deriving DecidableEq

namespace Player

def setGroup (group subGroup : Nat) (player : Player) : Player :=
  { player with group := ⟨some group, subGroup⟩ }

def setOriginalGroup (group subGroup : Nat) (player : Player) : Player :=
  { player with originalGroup := ⟨some group, subGroup⟩ }

def setBattlegroundRaid (group subGroup : Nat) (player : Player) : Player :=
  { player with
    originalGroup :=
      match player.group.target with
      | none => player.originalGroup.unlink
      | some original => ⟨some original, player.group.subGroup⟩
    group := ⟨some group, subGroup⟩ }

def removeFromBattlegroundRaid (player : Player) : Player :=
  { player with
    group :=
      match player.originalGroup.target with
      | none => player.group.unlink
      | some original => ⟨some original, player.originalGroup.subGroup⟩
    originalGroup := player.originalGroup.unlink }

end Player

structure MemberSlot where
  guid : Nat
  /-- The subgroup -/
  group : Nat
  /-- `MEMBER_FLAG_ASSISTANT` -/
  assistant : Bool := false
  deriving DecidableEq

structure Group where
  /-- The address -/
  this : Nat
  /-- `m_bgGroup` is set. -/
  isBGGroup : Bool := false
  /-- `GROUPTYPE_RAID` -/
  isRaidGroup : Bool := false
  /-- `GROUPTYPE_LFG` -/
  isLFGGroup : Bool := false
  memberSlots : List MemberSlot := []
  leaderGuid : Nat := 0
  subGroupsCounts : Option (Nat → Nat) := none
  invitees : List Nat := []

def modifySlot (guid : Nat) (change : MemberSlot → MemberSlot) : List MemberSlot → List MemberSlot
  | [] => []
  | slot :: rest =>
    if slot.guid = guid then change slot :: rest else slot :: modifySlot guid change rest

namespace Group

def getMembersCount (group : Group) : Nat := group.memberSlots.length

def isFull (group : Group) : Bool :=
  if group.isRaidGroup then maxRaidSize ≤ group.memberSlots.length
  else maxGroupSize ≤ group.memberSlots.length

/-- `_getMemberCSlot` -/
def getMemberSlot (guid : Nat) (group : Group) : Option MemberSlot :=
  group.memberSlots.find? fun slot => slot.guid = guid

def isMember (guid : Nat) (group : Group) : Bool := (group.getMemberSlot guid).isSome

def isLeader (guid : Nat) (group : Group) : Bool := group.leaderGuid = guid

def isAssistant (guid : Nat) (group : Group) : Bool :=
  match group.getMemberSlot guid with
  | none => false
  | some slot => slot.assistant

def getMemberGroup (guid : Nat) (group : Group) : Nat :=
  match group.getMemberSlot guid with
  | none => maxRaidSubgroups + 1
  | some slot => slot.group

def hasFreeSlotSubGroup (subGroup : Nat) (group : Group) : Bool :=
  match group.subGroupsCounts with
  | none => false
  | some counts => counts subGroup < maxGroupSize

/-- A counter is a `uint8`. -/
def subGroupCounterIncrease (subGroup : Nat) (group : Group) : Group :=
  { group with
    subGroupsCounts := group.subGroupsCounts.map fun counts =>
      Function.update counts subGroup ((counts subGroup + 1) % 256) }

def subGroupCounterDecrease (subGroup : Nat) (group : Group) : Group :=
  { group with
    subGroupsCounts := group.subGroupsCounts.map fun counts =>
      Function.update counts subGroup ((counts subGroup + 255) % 256) }

def initRaidSubGroupsCounter (group : Group) : Group :=
  group.memberSlots.foldl (fun counted slot => counted.subGroupCounterIncrease slot.group)
    { group with subGroupsCounts := some fun _ => 0 }

def convertToLFG (group : Group) : Group := { group with isLFGGroup := true }

def convertToRaid (group : Group) : Group :=
  initRaidSubGroupsCounter { group with isRaidGroup := true }

def convertToGroup (group : Group) : Group :=
  if maxGroupSize < group.memberSlots.length then group
  else { group with isRaidGroup := false, isLFGGroup := false, subGroupsCounts := none }

/-- The slot that `_addMember` appends -/
def addSlot (guid subGroup : Nat) (group : Group) : Group :=
  subGroupCounterIncrease subGroup
    { group with memberSlots := group.memberSlots ++ [{ guid := guid, group := subGroup }] }

/-- The slot that `_removeMember` erases -/
def removeSlot (guid : Nat) (group : Group) : Group :=
  match group.getMemberSlot guid with
  | none => group
  | some slot =>
    { group.subGroupCounterDecrease slot.group with
      memberSlots := group.memberSlots.eraseP fun other => other.guid = guid }

def setLeader (guid : Nat) (group : Group) : Group :=
  match group.getMemberSlot guid with
  | none => group
  | some slot =>
    { group with
      leaderGuid := slot.guid
      memberSlots := modifySlot guid (fun other => { other with assistant := false })
        group.memberSlots }

def replaceLeader (guid : Nat) (group : Group) : Group :=
  if group.leaderGuid = guid then
    match group.memberSlots with
    | [] => group
    | first :: _ => group.setLeader first.guid
  else group

/-- `_setMembersGroup`, which leaves the old subgroup to its caller -/
def setMembersGroup (guid subGroup : Nat) (group : Group) : Option Group :=
  if group.isMember guid then
    some (subGroupCounterIncrease subGroup { group with
        memberSlots := modifySlot guid (fun slot => { slot with group := subGroup })
          group.memberSlots })
  else none

def setAssistant (guid : Nat) (apply : Bool) (group : Group) : Group :=
  if group.isRaidGroup then
    { group with
      memberSlots := modifySlot guid (fun slot => { slot with assistant := apply })
        group.memberSlots }
  else group

end Group

structure Party where
  group : Group
  players : Nat → Option Player

def changePlayer (guid : Nat) (change : Player → Player) (players : Nat → Option Player) :
    Nat → Option Player :=
  Function.update players guid ((players guid).map change)

def Player.join (group : Group) (subGroup : Nat) (player : Player) : Player :=
  let joining := { player with groupInvite := none }
  if joining.group.target.isSome then
    if group.isBGGroup then joining.setBattlegroundRaid group.this subGroup
    else joining.setOriginalGroup group.this subGroup
  else joining.setGroup group.this subGroup

def Player.leave (group : Group) (player : Player) : Player :=
  if group.isBGGroup then player.removeFromBattlegroundRaid
  else if player.originalGroup.target = some group.this then
    { player with originalGroup := player.originalGroup.unlink }
  else { player with group := player.group.unlink }

namespace Party

/-- `_addMember` with a subgroup -/
def addMemberTo (guid subGroup : Nat) (party : Party) : Party × Bool :=
  if party.group.isFull then (party, false)
  else if guid = 0 then (party, false)
  else
    ({ group := party.group.addSlot guid subGroup
       players := changePlayer guid (Player.join party.group subGroup) party.players }, true)

def addMember (guid : Nat) (party : Party) : Party × Bool :=
  match party.group.subGroupsCounts with
  | none => party.addMemberTo guid 0
  | some counts =>
    match (List.range maxRaidSubgroups).find? fun subGroup => counts subGroup < maxGroupSize with
    | none => (party, false)
    | some subGroup => party.addMemberTo guid subGroup

/-- `_removeMember` -/
def removeFromSlots (guid : Nat) (party : Party) : Party where
  group := (party.group.removeSlot guid).replaceLeader guid
  players := changePlayer guid (Player.leave party.group) party.players

def removeAllInvites (party : Party) : Party where
  group := { party.group with invitees := [] }
  players := party.group.invitees.foldl
    (fun players guid => changePlayer guid (fun player => { player with groupInvite := none })
      players) party.players

/-- `Disband`; the counters of a raid stay. -/
def disband (party : Party) : Party :=
  let left := removeAllInvites
    { party with
      players := party.group.memberSlots.foldl
        (fun players slot => changePlayer slot.guid (Player.leave party.group) players)
        party.players }
  { left with group := { left.group with memberSlots := [], leaderGuid := 0 } }

/-- `RemoveMember`, which answers the number of members that are left; being kicked is
`GROUP_REMOVEMETHOD_KICK`. -/
def removeMember (guid : Nat) (kicked : Bool) (party : Party) : Party :=
  if party.group.isLFGGroup && kicked then party
  else if (if party.group.isBGGroup then 1 else 2) < party.group.getMembersCount then
    party.removeFromSlots guid
  else party.disband

def changeLeader (guid : Nat) (party : Party) : Party :=
  { party with group := party.group.setLeader guid }

/-- `ChangeMembersGroup` of a player who is online -/
def changePlayersGroup (guid : Nat) (player : Player) (subGroup : Nat) (party : Party) : Party :=
  if player.group.subGroup = subGroup then party
  else
    match party.group.setMembersGroup guid subGroup with
    | none => party
    | some group =>
      if player.group.target = some party.group.this then
        { group := group.subGroupCounterDecrease player.group.subGroup
          players := changePlayer guid
            (fun moved => { moved with group := { moved.group with subGroup := subGroup } })
            party.players }
      else
        { group := group.subGroupCounterDecrease player.originalGroup.subGroup
          players := changePlayer guid
            (fun moved =>
              { moved with originalGroup := { moved.originalGroup with subGroup := subGroup } })
            party.players }

def changeMembersGroup (guid subGroup : Nat) (party : Party) : Party :=
  if party.group.isRaidGroup then
    match party.players guid with
    | none =>
      if party.group.getMemberGroup guid = subGroup then party
      else
        match party.group.setMembersGroup guid subGroup with
        | none => party
        | some group =>
          { party with
            group := group.subGroupCounterDecrease (party.group.getMemberGroup guid) }
    | some player => party.changePlayersGroup guid player subGroup
  else party

/-- `HandleGroupChangeSubGroupOpcode` for the group of the sender -/
def handleGroupChangeSubGroup (sender moved groupNr : Nat) (inCombat : Bool) (party : Party) :
    Party :=
  if maxRaidSubgroups ≤ groupNr then party
  else if !party.group.isLeader sender && !party.group.isAssistant sender then party
  else if !party.group.hasFreeSlotSubGroup groupNr then party
  else if (party.players moved).isSome && inCombat then party
  else party.changeMembersGroup moved groupNr

def create (guid : Nat) (party : Party) : Party :=
  let typed := { party.group with
    leaderGuid := guid, isRaidGroup := party.group.isBGGroup, isLFGGroup := false }
  let counted := if typed.isRaidGroup then typed.initRaidSubGroupsCounter else typed
  ({ party with group := counted }.addMember guid).1

end Party

end DarkCore.Parties
