/-
Votes of the dungeon finder about a kick (`InitBoot`, `UpdateBoot` of `LFGMgr.cpp`).
The votes are kept in a map in which a look-up makes an entry that says no.
-/

import DarkCore.DungeonFinding.Manager
import DarkCore.Lib.Runs

namespace DarkCore.DungeonFinding

open DarkCore.Lib

inductive LfgState
  | none
  | roleCheck
  | queued
  | proposal
  | boot
  | dungeon
  | finishedDungeon
  | raidBrowser
  deriving DecidableEq

structure LfgStates where
  state : LfgState
  oldState : LfgState
  deriving DecidableEq

def LfgStates.setState (states : LfgStates) (state : LfgState) : LfgStates :=
  match state with
  | .none | .dungeon | .finishedDungeon => ⟨state, state⟩
  | _ => { states with state := state }

/-- `LFG_TIME_BOOT`, in seconds -/
def lfgTimeBoot : Nat := 120

/-- `LFG_GROUP_KICK_VOTES_NEEDED`; no group needs another number of votes. -/
def lfgGroupKickVotesNeeded : Nat := 3

structure LfgPlayerBoot where
  cancelTime : Nat
  inProgress : Bool
  votes : OrdMap PlayerGuid LfgAnswer
  victim : PlayerGuid
  votedNeeded : Nat
  reason : String

/-- The votes by the low guid of the group, the states, the kicks that a group has left, and the
players that were removed from a group by a vote -/
structure BootWorld where
  boots : Nat → Option LfgPlayerBoot
  states : Guid → LfgStates
  kicksLeft : Nat → Nat
  removed : List (Nat × PlayerGuid)

namespace BootWorld

variable (world : BootWorld)

def setState (guid : Guid) (state : LfgState) : BootWorld :=
  { world with states := Function.update world.states guid ((world.states guid).setState state) }

end BootWorld

/-- The answer that `InitBoot` gives for a member -/
def firstAnswer (kicker victim guid : PlayerGuid) : LfgAnswer :=
  if guid = victim then .deny else if guid = kicker then .agree else .pending

/-- `InitBoot` for the members of the group who are online -/
def initBoot (world : BootWorld) (now group : Nat) (members : List PlayerGuid)
    (kicker victim : PlayerGuid) (reason : String) : BootWorld :=
  let world := world.setState (.group group) .boot
  let world := members.foldl (fun world guid => world.setState (.player guid) .boot) world
  let votes := members.foldl (fun votes guid => votes.assign guid (firstAnswer kicker victim guid))
    (OrdMap.empty : OrdMap PlayerGuid LfgAnswer)
  let boot : LfgPlayerBoot :=
    ⟨now + lfgTimeBoot, true, votes, victim, lfgGroupKickVotesNeeded, reason⟩
  { world with boots := Function.update world.boots group (some boot) }

/-- `votesNum` and `agreeNum` of `UpdateBoot`, both of the type `uint8`, after one more vote -/
def countVote (counts : Nat × Nat) (vote : PlayerGuid × LfgAnswer) : Nat × Nat :=
  if vote.2 ≠ .pending then
    ((counts.1 + 1) % 256, if vote.2 = .agree then (counts.2 + 1) % 256 else counts.2)
  else counts

def countVotes (votes : List (PlayerGuid × LfgAnswer)) : Nat × Nat := votes.foldl countVote (0, 0)

/-- `votes[guid]`; a player who is not in the map comes into it with the value 0. -/
def voteOf (votes : OrdMap PlayerGuid LfgAnswer) (guid : PlayerGuid) :
    LfgAnswer × OrdMap PlayerGuid LfgAnswer :=
  match votes.find guid with
  | some answer => (answer, votes)
  | none => (.deny, votes.assign guid .deny)

/-- `LfgAnswer(accept)` -/
def LfgAnswer.ofBool (accept : Bool) : LfgAnswer := if accept then .agree else .deny

def endsBoot (votes : OrdMap PlayerGuid LfgAnswer) (votedNeeded : Nat) : Prop :=
  let (votesNum, agreeNum) := countVotes votes.entries
  let size := votes.entries.length
  agreeNum = votedNeeded ∨ votesNum = size ∨ size - votesNum + agreeNum < votedNeeded

instance (votes : OrdMap PlayerGuid LfgAnswer) (votedNeeded : Nat) :
    Decidable (endsBoot votes votedNeeded) :=
  inferInstanceAs (Decidable (_ ∨ _ ∨ _))

/-- The states of all who are in the map and of the group go back; the victim is removed if enough
agreed. -/
def finishBoot (online : PlayerGuid → Bool) (world : BootWorld) (group : Nat)
    (boot : LfgPlayerBoot) : BootWorld :=
  let world := (boot.votes.entries.map Prod.fst).foldl (fun world guid =>
    if guid ≠ boot.victim then world.setState (.player guid) .dungeon else world) world
  let world := world.setState (.group group) .dungeon
  let world :=
    if (countVotes boot.votes.entries).2 = boot.votedNeeded then
      let world := { world with removed := world.removed ++ [(group, boot.victim)] }
      let world := if online boot.victim then world.setState (.player boot.victim) .none else world
      { world with
        kicksLeft := Function.update world.kicksLeft group (world.kicksLeft group - 1) }
    else world
  { world with boots := Function.update world.boots group none }

/-- `UpdateBoot` for a player, with the group that he is in -/
def updateBoot (online : PlayerGuid → Bool) (world : BootWorld) (player : PlayerGuid)
    (group : Option Nat) (accept : Bool) : BootWorld :=
  match group with
  | none => world
  | some group =>
    match world.boots group with
    | none => world
    | some boot =>
      let (answer, votes) := voteOf boot.votes player
      if answer ≠ .pending then
        { world with
          boots := Function.update world.boots group (some { boot with votes := votes }) }
      else
        let boot := { boot with votes := votes.assign player (.ofBool accept) }
        if endsBoot boot.votes boot.votedNeeded then finishBoot online world group boot
        else { world with boots := Function.update world.boots group (some boot) }

end DarkCore.DungeonFinding
