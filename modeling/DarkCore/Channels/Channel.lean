/-
Custom chat channels (`Channel.cpp`), their manager (`ChannelMgr.cpp`) and the lists
that the players keep of their channels. The built-in channels, which have an id,
and the announcements, which change nothing else, are left out.
-/

import DarkCore.Lib.OrdMap
import DarkCore.Lib.Runs
import Mathlib.Data.Finset.Basic

namespace DarkCore.Channels

open DarkCore.Lib

def MEMBER_FLAG_NONE : BitVec 8 := 0x00
def MEMBER_FLAG_OWNER : BitVec 8 := 0x01
def MEMBER_FLAG_MODERATOR : BitVec 8 := 0x02
def MEMBER_FLAG_MUTED : BitVec 8 := 0x08

structure PlayerInfo where
  player : Nat
  flags : BitVec 8
  deriving DecidableEq

namespace PlayerInfo

variable (info : PlayerInfo) (state : Bool)

def hasFlag (flag : BitVec 8) : Bool := info.flags &&& flag != 0

def setFlag (flag : BitVec 8) : PlayerInfo :=
  { info with flags := if state then info.flags ||| flag else info.flags &&& ~~~flag }

def isOwner : Bool := info.hasFlag MEMBER_FLAG_OWNER

def setOwner : PlayerInfo := info.setFlag state MEMBER_FLAG_OWNER

def isModerator : Bool := info.hasFlag MEMBER_FLAG_MODERATOR

def setModerator : PlayerInfo := info.setFlag state MEMBER_FLAG_MODERATOR

def isMuted : Bool := info.hasFlag MEMBER_FLAG_MUTED

def setMuted : PlayerInfo := info.setFlag state MEMBER_FLAG_MUTED

end PlayerInfo

/-- `serial` tells channels apart that had one name one after the other. -/
structure Channel where
  name : String
  serial : Nat
  ownership : Bool
  password : String
  players : OrdMap Nat PlayerInfo
  banned : Finset Nat
  ownerGUID : Nat

namespace Channel

variable (channel : Channel)

def isOn (who : Nat) : Prop := (channel.players.find who).isSome

instance (who : Nat) : Decidable (channel.isOn who) := inferInstanceAs (Decidable (_ = true))

/-- `players[guid]`; a guid that was not in the map is added by it. -/
def get (guid : Nat) : PlayerInfo := (channel.players.find guid).getD ⟨0, 0⟩

def update (guid : Nat) (change : PlayerInfo → PlayerInfo) : Channel :=
  { channel with players := channel.players.assign guid (change (channel.get guid)) }

def setOwner (guid : Nat) : Channel :=
  let cleared : Channel :=
    if channel.ownerGUID ≠ 0 ∧ channel.isOn channel.ownerGUID then
      channel.update channel.ownerGUID (·.setOwner false)
    else channel
  let channel : Channel := { cleared with ownerGUID := guid }
  if guid ≠ 0 then (channel.update guid (·.setModerator true)).update guid (·.setOwner true)
  else channel

def join (player : Nat) (pass : String) : Option Channel :=
  if channel.isOn player then none
  else if player ∈ channel.banned then none
  else if 0 < channel.password.length ∧ pass ≠ channel.password then none
  else
    let channel : Channel :=
      { channel with players := channel.players.assign player ⟨player, MEMBER_FLAG_NONE⟩ }
    if channel.ownerGUID = 0 ∧ channel.ownership = true then
      some ((channel.setOwner player).update player (·.setModerator true))
    else some channel

/-- `players.begin()->second.player` -/
def firstPlayer : Nat := ((channel.players.entries.head?).map (·.2.player)).getD 0

def leave (player : Nat) : Channel :=
  if ¬ channel.isOn player then channel
  else
    let changeowner := (channel.get player).isOwner
    let channel : Channel := { channel with players := channel.players.erase player }
    if changeowner = true ∧ channel.ownership = true ∧ channel.players.entries ≠ [] then
      let newowner := channel.firstPlayer
      (channel.update newowner (·.setModerator true)).setOwner newowner
    else channel

def mayModerate (good : Nat) (isGameMaster : Bool) : Prop :=
  channel.isOn good ∧ ((channel.get good).isModerator = true ∨ isGameMaster = true)

instance (good : Nat) (isGameMaster : Bool) : Decidable (channel.mayModerate good isGameMaster) :=
  inferInstanceAs (Decidable (_ ∧ _))

/-- `KickOrBan`: the player who is kicked and the channel without him. The player who kicks
becomes the owner after an owner. -/
def kickOrBan (good : Nat) (target : Option Nat) (isGameMaster ban : Bool) :
    Option (Nat × Channel) :=
  if ¬ channel.mayModerate good isGameMaster then none
  else
    match target with
    | none => none
    | some bad =>
      if ¬ channel.isOn bad then none
      else if isGameMaster = false ∧ bad = channel.ownerGUID ∧ good ≠ channel.ownerGUID then none
      else
        let changeowner := channel.ownerGUID = bad
        let banned := if ban = true ∧ bad ∉ channel.banned then insert bad channel.banned
          else channel.banned
        let channel : Channel :=
          { channel with banned := banned, players := channel.players.erase bad }
        if changeowner ∧ channel.ownership = true ∧ channel.players.entries ≠ [] then
          some (bad, (channel.update good (·.setModerator true)).setOwner good)
        else some (bad, channel)

def unBan (good : Nat) (target : Option Nat) (isGameMaster : Bool) : Channel :=
  if ¬ channel.mayModerate good isGameMaster then channel
  else
    match target with
    | none => channel
    | some bad => { channel with banned := channel.banned.erase bad }

def setPassword (player : Nat) (pass : String) (isGameMaster : Bool) : Channel :=
  if channel.mayModerate player isGameMaster then { channel with password := pass } else channel

def setModerator (guid : Nat) (set : Bool) : Channel :=
  if (channel.get guid).isModerator ≠ set then channel.update guid (·.setModerator set) else channel

def setMute (guid : Nat) (set : Bool) : Channel :=
  if (channel.get guid).isMuted ≠ set then channel.update guid (·.setMuted set) else channel

/-- `isAllowed` stands for the two teams. -/
def setMode (player : Nat) (target : Option Nat) (isGameMaster isAllowed mod set : Bool) :
    Channel :=
  if ¬ channel.mayModerate player isGameMaster then channel
  else
    match target with
    | none => channel
    | some other =>
      if player = channel.ownerGUID ∧ other = channel.ownerGUID ∧ mod = true then channel
      else if ¬ channel.isOn other then channel
      else if isAllowed = false then channel
      else if channel.ownerGUID = other ∧ channel.ownerGUID ≠ player then channel
      else if mod = true then channel.setModerator other set
      else channel.setMute other set

/-- `SetOwner` with the name of the new owner; `isAllowed` stands for the two teams. -/
def passOwner (player : Nat) (target : Option Nat) (isGameMaster isAllowed : Bool) : Channel :=
  if ¬ channel.isOn player then channel
  else if isGameMaster = false ∧ player ≠ channel.ownerGUID then channel
  else
    match target with
    | none => channel
    | some other =>
      if ¬ channel.isOn other then channel
      else if isAllowed = false then channel
      else (channel.update other (·.setModerator true)).setOwner other

end Channel

structure ChannelRef where
  wname : String
  serial : Nat
  deriving DecidableEq

structure StoredChannel where
  ownership : Bool
  password : String
  banned : Finset Nat

structure ChannelWorld where
  channels : String → Option Channel
  joinedChannels : Nat → List ChannelRef
  nextSerial : Nat

/-- The constructor of `Channel` -/
def newChannel (name : String) (serial : Nat) : Option StoredChannel → Channel
  | none => ⟨name, serial, true, "", OrdMap.empty, ∅, 0⟩
  | some stored => ⟨name, serial, stored.ownership, stored.password, OrdMap.empty, stored.banned, 0⟩

namespace ChannelWorld

variable (wstrToLower : String → String) (world : ChannelWorld)

def setChannel (wname : String) (channel : Channel) : ChannelWorld :=
  { world with channels := Function.update world.channels wname (some channel) }

def joinedChannel (player : Nat) (ref : ChannelRef) : ChannelWorld :=
  { world with
    joinedChannels :=
      Function.update world.joinedChannels player (world.joinedChannels player ++ [ref]) }

def leftChannel (player : Nat) (ref : ChannelRef) : ChannelWorld :=
  { world with
    joinedChannels :=
      Function.update world.joinedChannels player
        ((world.joinedChannels player).filter (· ≠ ref)) }

/-- `GetJoinChannel` with no id -/
def getJoinChannel (name : String) (stored : Option StoredChannel) : Channel × ChannelWorld :=
  match world.channels (wstrToLower name) with
  | some channel => (channel, world)
  | none =>
    let channel := newChannel name world.nextSerial stored
    (channel,
      { world.setChannel (wstrToLower name) channel with nextSerial := world.nextSerial + 1 })

/-- `ChannelMgr::LeftChannel`: a channel that is empty is deleted. -/
def dropEmpty (name : String) : ChannelWorld :=
  match world.channels (wstrToLower name) with
  | none => world
  | some channel =>
    if channel.players.entries = [] then
      { world with channels := Function.update world.channels (wstrToLower name) none }
    else world

def deref (ref : ChannelRef) : Option Channel :=
  (world.channels ref.wname).filter (·.serial = ref.serial)

def handleJoin (player : Nat) (name pass : String) (stored : Option StoredChannel) :
    ChannelWorld :=
  if name = "" then world
  else
    let (channel, world) := world.getJoinChannel wstrToLower name stored
    match channel.join player pass with
    | none => world
    | some joined =>
      (world.joinedChannel player ⟨wstrToLower name, channel.serial⟩).setChannel
        (wstrToLower name) joined

def handleLeave (player : Nat) (name : String) : ChannelWorld :=
  if name = "" then world
  else
    let world :=
      match world.channels (wstrToLower name) with
      | none => world
      | some channel =>
        if channel.isOn player then
          (world.leftChannel player ⟨wstrToLower name, channel.serial⟩).setChannel
            (wstrToLower name) (channel.leave player)
        else world
    world.dropEmpty wstrToLower name

def handleKickOrBan (player : Nat) (name : String) (target : Option Nat)
    (isGameMaster ban : Bool) : ChannelWorld :=
  match world.channels (wstrToLower name) with
  | none => world
  | some channel =>
    match channel.kickOrBan player target isGameMaster ban with
    | none => world
    | some (bad, kicked) =>
      (world.leftChannel bad ⟨wstrToLower name, channel.serial⟩).setChannel
        (wstrToLower name) kicked

def handle (name : String) (change : Channel → Channel) : ChannelWorld :=
  match world.channels (wstrToLower name) with
  | none => world
  | some channel => world.setChannel (wstrToLower name) (change channel)

/-- The loop of `CleanupChannels` over what is left of the player's list; the server has no further
state where the pointer points to nothing. -/
def cleanup (player : Nat) : List ChannelRef → ChannelWorld → Option ChannelWorld
  | [], world => some world
  | ref :: rest, world =>
    match world.deref ref with
    | none => none
    | some channel =>
      let world : ChannelWorld :=
        { world with joinedChannels := Function.update world.joinedChannels player rest }
      let world := world.setChannel ref.wname (channel.leave player)
      cleanup player rest (world.dropEmpty wstrToLower channel.name)

def cleanupChannels (player : Nat) : Option ChannelWorld :=
  world.cleanup wstrToLower player (world.joinedChannels player)

end ChannelWorld

/-- The requests of a player. A target is the player in the world with the name that was sent;
`isGameMaster` is about the player who sends the request. -/
inductive ChannelAction
  | join (name pass : String) (stored : Option StoredChannel)
  | leave (name : String)
  | kick (name : String) (target : Option Nat) (isGameMaster : Bool)
  | ban (name : String) (target : Option Nat) (isGameMaster : Bool)
  | unBan (name : String) (target : Option Nat) (isGameMaster : Bool)
  | password (name pass : String) (isGameMaster : Bool)
  | moderator (name : String) (target : Option Nat) (isGameMaster isAllowed set : Bool)
  | mute (name : String) (target : Option Nat) (isGameMaster isAllowed set : Bool)
  | setOwner (name : String) (target : Option Nat) (isGameMaster isAllowed : Bool)
  | disconnect

namespace ChannelWorld

variable (wstrToLower : String → String)

def request (world : ChannelWorld) (player : Nat) : ChannelAction → Option ChannelWorld
  | .join name pass stored => some (world.handleJoin wstrToLower player name pass stored)
  | .leave name => some (world.handleLeave wstrToLower player name)
  | .kick name target isGameMaster =>
    some (world.handleKickOrBan wstrToLower player name target isGameMaster false)
  | .ban name target isGameMaster =>
    some (world.handleKickOrBan wstrToLower player name target isGameMaster true)
  | .unBan name target isGameMaster =>
    some (world.handle wstrToLower name (·.unBan player target isGameMaster))
  | .password name pass isGameMaster =>
    some (world.handle wstrToLower name (·.setPassword player pass isGameMaster))
  | .moderator name target isGameMaster isAllowed set =>
    some (world.handle wstrToLower name fun channel =>
      channel.setMode player target isGameMaster isAllowed true set)
  | .mute name target isGameMaster isAllowed set =>
    some (world.handle wstrToLower name fun channel =>
      channel.setMode player target isGameMaster isAllowed false set)
  | .setOwner name target isGameMaster isAllowed =>
    some (world.handle wstrToLower name (·.passOwner player target isGameMaster isAllowed))
  | .disconnect => world.cleanupChannels wstrToLower player

/-- No player has the guid zero. -/
def next (server : Option ChannelWorld) (action : Nat × ChannelAction) : Option ChannelWorld :=
  server.bind fun world =>
    if action.1 = 0 then some world else world.request wstrToLower action.1 action.2

end ChannelWorld

end DarkCore.Channels
