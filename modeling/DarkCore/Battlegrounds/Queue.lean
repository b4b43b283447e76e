/-
The queue of one kind of battleground (`BattlegroundQueue.cpp`). A group that
joins goes to one of four lists of its level bracket. An update selects groups
for a running battleground or for a new one and invites them; what the selection
does is in the next file.
-/

import DarkCore.Lib.OrdMap
import DarkCore.Lib.Shelves
import Mathlib.Data.List.Sort

namespace DarkCore.Battlegrounds.Queues

open DarkCore.Lib

abbrev maxBattlegroundBrackets : Nat := 16

/-- `INVITE_ACCEPT_WAIT_TIME`, in milliseconds -/
def inviteAcceptWaitTime : Nat := 40000

def battlegroundTypeNone : Nat := 0

/-- `BATTLEGROUND_AA`, all arenas -/
def battlegroundAA : Nat := 6

/-- `BATTLEGROUND_RB`, a random battleground -/
def battlegroundRB : Nat := 32

/-- `ALLIANCE` and `HORDE`, which are also the indices `BG_TEAM_ALLIANCE` and `BG_TEAM_HORDE` -/
inductive Team
  | alliance
  | horde
  deriving DecidableEq

def Team.other : Team → Team
  | .alliance => .horde
  | .horde => .alliance

theorem Team.other_ne (team : Team) : team.other ≠ team := by
  cases team <;> decide

theorem Team.other_other (team : Team) : team.other.other = team := by
  cases team <;> rfl

/-- `BattlegroundQueueGroupTypes`; the value is `BG_QUEUE_PREMADE_ALLIANCE` or
`BG_QUEUE_NORMAL_ALLIANCE` plus the index of the team. -/
inductive GroupType
  | premade (team : Team)
  | normal (team : Team)
  deriving DecidableEq

def GroupType.team : GroupType → Team
  | .premade team => team
  | .normal team => team

/-- The indices of `m_QueuedGroups` -/
abbrev Place := Fin maxBattlegroundBrackets × GroupType

/-- `GroupQueueInfo`. The values of `Players` point to the entries of `m_QueuedPlayers` that have
the same keys, so the keys are kept alone, in their order. -/
structure GroupQueueInfo where
  players : List Nat
  team : Team
  bgTypeId : Nat
  isRated : Bool
  arenaType : Nat
  arenaTeamId : Nat
  joinTime : Nat
  removeInviteTime : Nat
  isInvitedToBGInstanceGUID : Nat
  arenaTeamRating : Nat
  arenaMatchmakerRating : Nat
  opponentsTeamRating : Nat
  opponentsMatchmakerRating : Nat

def GroupQueueInfo.blank : GroupQueueInfo where
  players := []
  team := .alliance
  bgTypeId := 0
  isRated := false
  arenaType := 0
  arenaTeamId := 0
  joinTime := 0
  removeInviteTime := 0
  isInvitedToBGInstanceGUID := 0
  arenaTeamRating := 0
  arenaMatchmakerRating := 0
  opponentsTeamRating := 0
  opponentsMatchmakerRating := 0

/-- A group is named by the address of its info, `groups` is the memory. -/
structure BattlegroundQueue where
  queuedPlayers : OrdMap Nat Nat
  queuedGroups : Place → List Nat
  groups : Nat → Option GroupQueueInfo

inductive Status
  | none
  | waitQueue
  | waitJoin
  | inProgress
  | waitLeave
  deriving DecidableEq

/-- What the queue reads and writes of a `Battleground` -/
structure Battleground where
  instanceId : Nat
  typeId : Nat
  bracketId : Fin maxBattlegroundBrackets
  isArena : Bool
  arenaType : Nat
  status : Status
  minPlayersPerTeam : Nat
  maxPlayersPerTeam : Nat
  invitedCount : Team → Nat
  players : OrdMap Nat Team
  playersCount : Team → Nat
  inBGFreeSlotQueue : Bool

/-- The queue and the battlegrounds of its kind: `m_Battlegrounds` without the templates, and
`BGFreeSlotQueue` -/
structure Site where
  queue : BattlegroundQueue
  battlegrounds : OrdMap Nat Battleground
  freeSlots : List Nat

namespace BattlegroundQueue

variable (queue : BattlegroundQueue)

def info (group : Nat) : GroupQueueInfo := (queue.groups group).getD GroupQueueInfo.blank

def setInfo (group : Nat) (info : GroupQueueInfo) : BattlegroundQueue :=
  { queue with groups := Function.update queue.groups group (some info) }

/-- `Players.size()` -/
def size (group : Nat) : Nat := (queue.info group).players.length

def isInvited (group : Nat) : Bool := (queue.info group).isInvitedToBGInstanceGUID != 0

/-- `push_front` to one list and `erase` from another one. No list holds a group twice, so the
iterator that is erased is the first at which the group stands. -/
def move (group : Nat) (source target : Place) : BattlegroundQueue :=
  { queue with queuedGroups := Apart.move queue.queuedGroups group source target }

/-- `m_QueuedPlayers.erase` -/
def forget (guid : Nat) : BattlegroundQueue :=
  { queue with queuedPlayers := queue.queuedPlayers.erase guid }

def deleteGroup (group : Nat) (place : Place) : BattlegroundQueue :=
  { queue with
    queuedGroups :=
      Function.update queue.queuedGroups place ((queue.queuedGroups place).erase group)
    groups := Function.update queue.groups group none }

@[simp] theorem forget_queuedPlayers (guid : Nat) :
    (queue.forget guid).queuedPlayers = queue.queuedPlayers.erase guid := rfl

@[simp] theorem deleteGroup_queuedPlayers (group : Nat) (place : Place) :
    (queue.deleteGroup group place).queuedPlayers = queue.queuedPlayers := rfl

@[simp] theorem setInfo_queuedGroups (group : Nat) (info : GroupQueueInfo) :
    (queue.setInfo group info).queuedGroups = queue.queuedGroups := rfl

@[simp] theorem setInfo_queuedPlayers (group : Nat) (info : GroupQueueInfo) :
    (queue.setInfo group info).queuedPlayers = queue.queuedPlayers := rfl

theorem info_setInfo (group other : Nat) (info : GroupQueueInfo) :
    (queue.setInfo group info).info other = if other = group then info else queue.info other := by
  unfold setInfo BattlegroundQueue.info
  dsimp only
  by_cases same : other = group
  · rw [same, Function.update_self, if_pos rfl, Option.getD_some]
  · rw [Function.update_of_ne same, if_neg same]

end BattlegroundQueue

/-- The arguments of `AddGroup`. `address` is where `new` puts the group, `members` are the players
of `grp`, or the leader alone where there is none. -/
structure Join where
  address : Nat
  leader : Nat
  team : Team
  members : List Nat
  led : leader ∈ members
  bgTypeId : Nat
  bracketId : Fin maxBattlegroundBrackets
  arenaType : Nat
  isRated : Bool
  isPremade : Bool
  arenaRating : Nat
  matchmakerRating : Nat
  arenaTeamId : Nat
  now : Nat

/-- `Players[guid] = …` -/
def insertPlayer (players : List Nat) (guid : Nat) : List Nat :=
  if guid ∈ players then players else players.orderedInsert (· ≤ ·) guid

def Join.groupType (join : Join) : GroupType :=
  if join.isRated || join.isPremade then .premade join.team else .normal join.team

/-- The new `GroupQueueInfo` with all its players -/
def Join.info (join : Join) : GroupQueueInfo where
  players := join.members.foldl insertPlayer []
  team := join.team
  bgTypeId := join.bgTypeId
  isRated := join.isRated
  arenaType := join.arenaType
  arenaTeamId := join.arenaTeamId
  joinTime := join.now
  removeInviteTime := 0
  isInvitedToBGInstanceGUID := 0
  arenaTeamRating := join.arenaRating
  arenaMatchmakerRating := join.matchmakerRating
  opponentsTeamRating := 0
  opponentsMatchmakerRating := 0

def BattlegroundQueue.addGroup (queue : BattlegroundQueue) (join : Join) : BattlegroundQueue :=
  let place : Place := (join.bracketId, join.groupType)
  { queuedPlayers :=
      join.members.foldl (fun players guid => players.assign guid join.address) queue.queuedPlayers
    queuedGroups :=
      Function.update queue.queuedGroups place (queue.queuedGroups place ++ [join.address])
    groups := Function.update queue.groups join.address (some join.info) }

namespace Battleground

variable (bg : Battleground)

/-- `IncreaseInvitedCount`; the counters are `uint32`. -/
def increaseInvitedCount (team : Team) : Battleground :=
  { bg with
    invitedCount := Function.update bg.invitedCount team ((bg.invitedCount team + 1) % 2 ^ 32) }

def decreaseInvitedCount (team : Team) : Battleground :=
  { bg with
    invitedCount :=
      Function.update bg.invitedCount team ((bg.invitedCount team + (2 ^ 32 - 1)) % 2 ^ 32) }

end Battleground

/-- The list in which `RemovePlayer` finds a group: it looks at the highest bracket first, and in
a bracket at both lists of the team, where a find in the normal list counts more. -/
def BattlegroundQueue.findPlace (queue : BattlegroundQueue) (group : Nat) (team : Team) :
    Option Place :=
  (List.finRange maxBattlegroundBrackets).reverse.findSome? fun bracket =>
    if group ∈ queue.queuedGroups (bracket, .normal team) then some (bracket, .normal team)
    else if group ∈ queue.queuedGroups (bracket, .premade team) then
      some (bracket, .premade team)
    else none

namespace Site

variable (site : Site)

def getBattleground (instanceId bgTypeId : Nat) : Option Battleground :=
  if instanceId = 0 then none
  else
    (site.battlegrounds.find instanceId).filter fun bg =>
      bgTypeId = battlegroundTypeNone || bg.typeId = bgTypeId

/-- The battleground that `RemovePlayer` finds for a group -/
def battlegroundOf (info : GroupQueueInfo) : Option Battleground :=
  site.getBattleground info.isInvitedToBGInstanceGUID
    (if info.bgTypeId = battlegroundAA then battlegroundTypeNone else info.bgTypeId)

/-- The call of `DecreaseInvitedCount` in `RemovePlayer` -/
def decreaseInvited (info : GroupQueueInfo) : Site :=
  match site.battlegroundOf info with
  | none => site
  | some bg =>
    { site with
      battlegrounds :=
        site.battlegrounds.assign info.isInvitedToBGInstanceGUID
          (bg.decreaseInvitedCount info.team) }

/-- What `RemovePlayer` does before it calls itself, and for whom it then does -/
def removeOne (guid : Nat) (decreaseInvitedCount : Bool) : Site × Option Nat :=
  match site.queue.queuedPlayers.find guid with
  | none => (site, none)
  | some group =>
    let info := site.queue.info group
    match site.queue.findPlace group info.team with
    | none => (site, none)
    | some place =>
      let players := info.players.erase guid
      let site :=
        if decreaseInvitedCount && info.isInvitedToBGInstanceGUID != 0 then
          site.decreaseInvited info
        else site
      let queue := site.queue.forget guid
      match players with
      | [] => ({ site with queue := queue.deleteGroup group place }, none)
      | next :: _ =>
        ({ site with queue := queue.setInfo group { info with players := players } },
          if info.isInvitedToBGInstanceGUID == 0 && info.isRated then some next else none)

/-- The calls that are left to make; each takes one entry out of `m_QueuedPlayers`. -/
def removePlayers : Nat → Site → Nat → Bool → Site
  | 0, site, _, _ => site
  | calls + 1, site, guid, decreaseInvitedCount =>
    match site.removeOne guid decreaseInvitedCount with
    | (site, none) => site
    | (site, some next) => removePlayers calls site next decreaseInvitedCount

def removePlayer (guid : Nat) (decreaseInvitedCount : Bool) : Site :=
  removePlayers site.queue.queuedPlayers.entries.length site guid decreaseInvitedCount

end Site

end DarkCore.Battlegrounds.Queues
