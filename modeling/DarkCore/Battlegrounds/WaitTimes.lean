/-
How long the last players had to wait for an invitation: a ring of ten times and
their running sum, for each team and level bracket.
-/

import DarkCore.Battlegrounds.Queue
import Mathlib.Data.List.Induction
import Mathlib.Data.UInt

namespace DarkCore.Battlegrounds.Queues

/-- A wrap of the clock is taken for one millisecond less than it is. -/
def getMSTimeDiff (oldMSTime newMSTime : UInt32) : UInt32 :=
  if newMSTime < oldMSTime then 0xFFFFFFFF - oldMSTime + newMSTime else newMSTime - oldMSTime

/-- `m_WaitTimes`, `m_WaitTimeLastPlayer` and `m_SumOfWaitTimes` of one team and bracket -/
structure WaitTimes where
  waitTimes : Fin 10 → UInt32 := fun _ => 0
  lastPlayer : Fin 10 := 0
  sum : UInt32 := 0

abbrev WaitTable := Team → Fin maxBattlegroundBrackets → WaitTimes

def GroupQueueInfo.teamIndex (ginfo : GroupQueueInfo) : Team :=
  if ginfo.arenaType = 0 then ginfo.team else if ginfo.isRated then .horde else .alliance

/-- A player of the group is invited now. -/
structure Invited where
  ginfo : GroupQueueInfo
  bracket : Fin maxBattlegroundBrackets
  now : UInt32

def WaitTimes.add (times : WaitTimes) (timeInQueue : UInt32) : WaitTimes where
  waitTimes := Function.update times.waitTimes times.lastPlayer timeInQueue
  lastPlayer := times.lastPlayer + 1
  sum := times.sum - times.waitTimes times.lastPlayer + timeInQueue

def playerInvitedToBGUpdateAverageWaitTime (table : WaitTable) (invited : Invited) : WaitTable :=
  fun team bracket =>
    if team = invited.ginfo.teamIndex ∧ bracket = invited.bracket then
      (table team bracket).add (getMSTimeDiff invited.ginfo.joinTime.toUInt32 invited.now)
    else table team bracket

def getAverageQueueWaitTime (table : WaitTable) (ginfo : GroupQueueInfo)
    (bracket : Fin maxBattlegroundBrackets) : UInt32 :=
  let times := table ginfo.teamIndex bracket
  if times.waitTimes 9 ≠ 0 then times.sum / 10 else 0

/-- The ring holds the latest times, which are listed backwards. -/
structure WaitTimes.Records (times : WaitTimes) (recent : List UInt32) : Prop where
  place : times.lastPlayer.val = recent.length % 10
  ring : ∀ k, times.waitTimes k = recent.getD (times.lastPlayer - 1 - k).val 0
  sum : times.sum = (recent.take 10).sum

theorem WaitTimes.Records.add {times : WaitTimes} {recent : List UInt32}
    (records : times.Records recent) (time : UInt32) : (times.add time).Records (time :: recent) := by
  have oldest : ∀ last : Fin 10, last - 1 - last = 9 ∧ last + 1 - 1 - last = 0 := by decide
  have behind : ∀ last k : Fin 10, k ≠ last →
      (last + 1 - 1 - k).val = (last - 1 - k).val + 1 := by decide
  constructor
  · have place := records.place
    simp only [WaitTimes.add, List.length_cons, Fin.val_add]
    omega
  · intro k
    by_cases here : k = times.lastPlayer
    · simp [WaitTimes.add, here, oldest]
    · simp only [WaitTimes.add, Function.update_of_ne here, records.ring, behind _ _ here,
        List.getD_cons_succ]
  · have dropped : (recent.take 10).sum = (recent.take 9).sum + recent.getD 9 0 := by
      rw [List.take_add_one, List.sum_append, List.getD_eq_getElem?_getD]
      cases recent[9]? <;> simp
    have dropping := records.ring times.lastPlayer
    rw [(oldest _).1] at dropping
    simp only [WaitTimes.add, List.take_succ_cons, List.sum_cons, records.sum, dropped, dropping]
    grind

def recentWaits (invites : List Invited) (team : Team) (bracket : Fin maxBattlegroundBrackets) :
    List UInt32 :=
  ((invites.filter fun invited => team = invited.ginfo.teamIndex ∧ bracket = invited.bracket).map
    fun invited => getMSTimeDiff invited.ginfo.joinTime.toUInt32 invited.now).reverse

theorem records_run (invites : List Invited) (team : Team)
    (bracket : Fin maxBattlegroundBrackets) :
    (invites.foldl playerInvitedToBGUpdateAverageWaitTime (fun _ _ => {}) team bracket).Records
      (recentWaits invites team bracket) := by
  induction invites using List.reverseRecOn with
  | nil => exact ⟨rfl, fun _ => rfl, rfl⟩
  | append_singleton earlier invited ih =>
    rw [List.foldl_concat, playerInvitedToBGUpdateAverageWaitTime]
    split
    next here => simpa [here, recentWaits] using ih.add _
    next away => simpa [away, recentWaits] using ih

end DarkCore.Battlegrounds.Queues
