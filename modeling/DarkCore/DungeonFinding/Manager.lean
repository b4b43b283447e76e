/-
The queues of the dungeon finder (`LFGMgr.h`): the queue info of the entries, the
two ordered lists of each queue, and the answers of earlier compatibility checks,
kept under the guids of the checked entries written one after the other.
-/

import DarkCore.DungeonFinding.Roles
import Mathlib.Data.List.Infix

namespace DarkCore.DungeonFinding

open DarkCore.Lib

/-- An entry of a queue is a player or a group. -/
inductive Guid
  | player (low : PlayerGuid)
  | group (low : Nat)
  deriving DecidableEq

/-- The `uint64`: the high part of a group is `HIGHGUID_GROUP`. -/
def Guid.raw : Guid → Nat
  | .player low => low.val
  | .group low => 0x1F50 * 2 ^ 48 + low

theorem Guid.raw_injective : Function.Injective Guid.raw := by
  intro first second same
  cases first with
  | player low =>
    cases second with
    | player other => exact congrArg Guid.player (Fin.ext same)
    | group other =>
      have small := low.isLt
      simp only [Guid.raw] at same
      omega
  | group low =>
    cases second with
    | player other =>
      have small := other.isLt
      simp only [Guid.raw] at same
      omega
    | group other =>
      grind [Guid.raw]

def maxGroupSize : Nat := 5

/-- `LfgQueueInfo`; the dungeons are in the order of the set. -/
structure LfgQueueInfo where
  dungeons : List Nat
  roles : LfgRolesMap

inductive LfgAnswer
  | pending
  | deny
  | agree
  deriving DecidableEq

inductive LfgProposalState
  | initiating
  | failed
  | success
  deriving DecidableEq

/-- `groupLowGuid` is 0 for no group in the source. -/
structure LfgProposalPlayer where
  role : Roles
  accept : LfgAnswer
  groupLowGuid : Option Nat
  deriving DecidableEq

/-- `dungeonId` is what the iterator stands on, `none` once it has left the set. -/
structure LfgProposal where
  dungeonId : Option Nat
  state : LfgProposalState
  groupLowGuid : Option Nat
  leader : Option PlayerGuid
  cancelTime : Nat
  queues : List Guid
  players : OrdMap PlayerGuid LfgProposalPlayer

/-- What the manager asks the rest of the server: who is found by `GetPlayer`, who has whom on his
ignore list, the entries of `m_LockedDungeons`, the group of a player, whether a group exists and
is an LFG group, and the time. -/
structure Realm where
  online : PlayerGuid → Bool
  ignores : PlayerGuid → PlayerGuid → Bool
  lockedDungeons : PlayerGuid → List Nat
  groupOf : PlayerGuid → Option Nat
  isLFGGroup : Nat → Bool
  now : Nat

structure LFGMgr where
  queueInfoMap : Guid → Option LfgQueueInfo
  currentQueue : Nat → List Guid
  newToQueue : Nat → List Guid
  compatibleMap : List Char → Option Bool

def guidText (guid : Guid) : List Char := Nat.toDigits 10 guid.raw

def concatenateGuids : List Guid → List Char
  | [] => []
  | first :: rest => guidText first ++ rest.flatMap fun guid => '|' :: guidText guid

namespace LFGMgr

def getCompatibles (mgr : LFGMgr) (key : List Char) : Option Bool := mgr.compatibleMap key

def setCompatibles (mgr : LFGMgr) (key : List Char) (compatibles : Bool) : LFGMgr :=
  { mgr with compatibleMap := Function.update mgr.compatibleMap key (some compatibles) }

def removeFromCompatibles (mgr : LFGMgr) (guid : Guid) : LFGMgr :=
  { mgr with compatibleMap := fun key =>
      if guidText guid <:+: key then none else mgr.compatibleMap key }

def removeFromQueue (mgr : LFGMgr) (guid : Guid) : LFGMgr :=
  let mgr := { mgr with
    currentQueue := fun queueId => (mgr.currentQueue queueId).filter (· ≠ guid)
    newToQueue := fun queueId => (mgr.newToQueue queueId).filter (· ≠ guid) }
  let mgr := mgr.removeFromCompatibles guid
  { mgr with queueInfoMap := Function.update mgr.queueInfoMap guid none }

end LFGMgr

end DarkCore.DungeonFinding
