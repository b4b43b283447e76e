/-
The answer of a player to the invitation to a battleground
(`WorldSession::HandleBattleFieldPortOpcode`): who is sent into one. The action byte
is compared with 1 where the checks are made, and shifted by seven bits where the
handler decides what to do.
-/

import DarkCore.Battlegrounds.Queue

namespace DarkCore.Battlegrounds.Queues

open DarkCore.Lib

/-- `BattlegroundQueueTypeId` -/
inductive QueueTypeId
  | none
  | av
  | ws
  | ab
  | ey
  | sa
  | ic
  | tp
  | bg
  | rb
  | arena2v2
  | arena3v3
  | arena5v5
  deriving DecidableEq

/-- `BattlegroundMgr::BGQueueTypeId`; the battleground types are numbers of a client file. -/
def bgQueueTypeId (bgTypeId arenaType : Nat) : QueueTypeId :=
  match bgTypeId with
  | 1 => .av
  | 2 => .ws
  | 3 => .ab
  | 7 => .ey
  | 9 => .sa
  | 30 => .ic
  | 32 => .rb
  | 108 => .tp
  | 120 => .bg
  | 4 | 5 | 6 | 8 | 10 | 11 =>
    match arenaType with
    | 2 => .arena2v2
    | 3 => .arena3v3
    | 5 => .arena5v5
    | _ => .none
  | _ => .none

/-- What is read of a `Battleground`; the first one of a type is its template. -/
structure Field where
  instanceId : Nat
  mapId : Nat
  maxLevel : Nat
  isArena : Bool
  deriving DecidableEq

structure PvPDifficultyEntry where
  mapId : Nat
  bracketId : Nat
  minLevel : Nat
  maxLevel : Nat

structure BattlegroundMgr where
  queues : QueueTypeId → BattlegroundQueue
  battlegrounds : Nat → OrdMap Nat Field
  battlemasterList : Nat → Bool
  pvpDifficulty : List PvPDifficultyEntry

/-- An entry of `m_bgBattlegroundQueueID` -/
structure QueueSlot where
  bgQueueTypeId : QueueTypeId
  invitedToInstance : Nat

/-- `deserter` is for the aura 26013. -/
structure PortPlayer where
  guid : Nat
  level : Nat
  deserter : Bool
  queueSlots : Fin 2 → QueueSlot

structure PortPacket where
  action : Fin 256
  bgTypeId : Nat
  type : Nat

namespace PortPlayer

variable (player : PortPlayer)

def slots : List QueueSlot := (List.finRange 2).map player.queueSlots

def inBattlegroundQueue : Bool := player.slots.any fun slot => slot.bgQueueTypeId ≠ .none

def isInvitedForBattlegroundQueueType (queueTypeId : QueueTypeId) : Bool :=
  match player.slots.find? fun slot => slot.bgQueueTypeId = queueTypeId with
  | some slot => slot.invitedToInstance ≠ 0
  | none => false

def canJoinToBattleground : Bool := !player.deserter

end PortPlayer

def BattlegroundQueue.getPlayerGroupInfoData (queue : BattlegroundQueue) (guid : Nat) :
    Option GroupQueueInfo :=
  (queue.queuedPlayers.find guid).map queue.info

/-- The loop of `GetBattlegroundBracketByLevel`, with the highest bracket so far -/
def bracketByLevel (mapId level : Nat) :
    List PvPDifficultyEntry → Option PvPDifficultyEntry → Option PvPDifficultyEntry
  | [], maxEntry => maxEntry
  | entry :: rest, maxEntry =>
    if entry.mapId ≠ mapId ∨ level < entry.minLevel then bracketByLevel mapId level rest maxEntry
    else if level ≤ entry.maxLevel then some entry
    else
      match maxEntry with
      | none => bracketByLevel mapId level rest (some entry)
      | some highest =>
        bracketByLevel mapId level rest
          (some (if highest.maxLevel < entry.maxLevel then entry else highest))

/-- What the handler does: nothing, or the player leaves the queue, or is sent into a battleground,
which `SendToBattleground` looks up again -/
inductive PortResult
  | ignored
  | leftQueue (queueTypeId : QueueTypeId) (info : GroupQueueInfo) (bracketId : Nat)
  | ported (bg : Field) (info : GroupQueueInfo) (destination : Option Field)

def PortResult.destination : PortResult → Option Field
  | .ported _ _ destination => destination
  | _ => none

namespace BattlegroundMgr

variable (mgr : BattlegroundMgr)

def getBattleground (instanceId bgTypeId : Nat) : Option Field :=
  if instanceId = 0 then none
  else if bgTypeId = battlegroundTypeNone then
    (List.range' 1 542).findSome? fun type => (mgr.battlegrounds type).find instanceId
  else (mgr.battlegrounds bgTypeId).find instanceId

def getBattlegroundTemplate (bgTypeId : Nat) : Option Field :=
  (mgr.battlegrounds bgTypeId).entries.head?.map Prod.snd

def checkedAction (player : PortPlayer) (bg : Field) (info : GroupQueueInfo) (action : Nat) : Nat :=
  if action = 1 ∧ info.arenaType = 0 then
    let action := if player.canJoinToBattleground then action else 0
    if bg.maxLevel < player.level then 0 else action
  else action

def portOrLeave (player : PortPlayer) (packet : PortPacket) (info : GroupQueueInfo) (bg : Field) :
    PortResult :=
  let queueTypeId := bgQueueTypeId packet.bgTypeId (packet.type % 256)
  match bracketByLevel bg.mapId player.level mgr.pvpDifficulty none with
  | none => .ignored
  | some bracketEntry =>
    match checkedAction player bg info packet.action.val >>> 7 with
    | 1 =>
      if player.isInvitedForBattlegroundQueueType queueTypeId then
        .ported bg info (mgr.getBattleground info.isInvitedToBGInstanceGUID packet.bgTypeId)
      else .ignored
    | 0 => .leftQueue queueTypeId info bracketEntry.bracketId
    | _ => .ignored

def answer (player : PortPlayer) (packet : PortPacket) (info : GroupQueueInfo) : PortResult :=
  match (mgr.getBattleground info.isInvitedToBGInstanceGUID packet.bgTypeId).or
      (if packet.action.val = 0 then mgr.getBattlegroundTemplate packet.bgTypeId else none) with
  | none => .ignored
  | some bg => mgr.portOrLeave player packet info bg

/-- `WorldSession::HandleBattleFieldPortOpcode` -/
def handleBattleFieldPort (player : PortPlayer) (packet : PortPacket) : PortResult :=
  if !mgr.battlemasterList packet.bgTypeId then .ignored
  else if !player.inBattlegroundQueue then .ignored
  else
    let queueTypeId := bgQueueTypeId packet.bgTypeId (packet.type % 256)
    match (mgr.queues queueTypeId).getPlayerGroupInfoData player.guid with
    | none => .ignored
    | some info =>
      if info.isInvitedToBGInstanceGUID = 0 ∧ packet.action.val = 1 then .ignored
      else mgr.answer player packet info

end BattlegroundMgr

namespace BattlegroundMgr

variable {mgr : BattlegroundMgr} {player : PortPlayer} {packet : PortPacket} {bg : Field}
  {info : GroupQueueInfo}

theorem getBattleground_invited {instanceId bgTypeId : Nat}
    (found : mgr.getBattleground instanceId bgTypeId = some bg) : instanceId ≠ 0 := by
  intro zero
  simp [getBattleground, zero] at found

theorem checkedAction_port (action : Fin 256) :
    checkedAction player bg info action.val >>> 7 = 1 ↔ 128 ≤ action.val := by
  have range := action.isLt
  unfold checkedAction
  simp only [Nat.shiftRight_eq_div_pow]
  split
  · rename_i one
    have low : (if bg.maxLevel < player.level then 0
        else if player.canJoinToBattleground then action.val else 0) ≤ 1 := by
      grind
    omega
  · omega

/-- What the handler asks for, apart from the action: the type is known, the player is in a queue
and marked as invited for this one, there is a bracket for the level, and the group is invited to a
battleground that exists. -/
structure Admitted (mgr : BattlegroundMgr) (player : PortPlayer) (packet : PortPacket)
    (bg : Field) : Prop where
  known : mgr.battlemasterList packet.bgTypeId = true
  queued : player.inBattlegroundQueue = true
  marked : player.isInvitedForBattlegroundQueueType
    (bgQueueTypeId packet.bgTypeId (packet.type % 256)) = true
  bracket : bracketByLevel bg.mapId player.level mgr.pvpDifficulty none ≠ none
  invited : ∃ info, (mgr.queues (bgQueueTypeId packet.bgTypeId
      (packet.type % 256))).getPlayerGroupInfoData player.guid = some info ∧
    mgr.getBattleground info.isInvitedToBGInstanceGUID packet.bgTypeId = some bg

theorem portOrLeave_destination_iff {found : Field} :
    (mgr.portOrLeave player packet info found).destination = some bg ↔
      128 ≤ packet.action.val ∧
      player.isInvitedForBattlegroundQueueType
        (bgQueueTypeId packet.bgTypeId (packet.type % 256)) = true ∧
      bracketByLevel found.mapId player.level mgr.pvpDifficulty none ≠ none ∧
      mgr.getBattleground info.isInvitedToBGInstanceGUID packet.bgTypeId = some bg := by
  have port : checkedAction player found info packet.action.val >>> 7 = 1 ↔ _ :=
    checkedAction_port packet.action
  unfold portOrLeave
  cases bracketByLevel found.mapId player.level mgr.pvpDifficulty none with
  | none => simp [PortResult.destination]
  | some bracketEntry =>
    dsimp only
    split
    · rename_i one
      by_cases marked : player.isInvitedForBattlegroundQueueType
          (bgQueueTypeId packet.bgTypeId (packet.type % 256)) = true
      · simp [PortResult.destination, marked, port.mp one]
      · simp [PortResult.destination, marked]
    · rename_i zero
      have low : ¬ 128 ≤ packet.action.val := by
        omega
      simp [PortResult.destination, low]
    · rename_i other _
      have low : ¬ 128 ≤ packet.action.val := fun high => other (port.mpr high)
      simp [PortResult.destination, low]

theorem answer_destination_iff :
    (mgr.answer player packet info).destination = some bg ↔
      128 ≤ packet.action.val ∧
      player.isInvitedForBattlegroundQueueType
        (bgQueueTypeId packet.bgTypeId (packet.type % 256)) = true ∧
      bracketByLevel bg.mapId player.level mgr.pvpDifficulty none ≠ none ∧
      mgr.getBattleground info.isInvitedToBGInstanceGUID packet.bgTypeId = some bg := by
  unfold answer
  cases found : mgr.getBattleground info.isInvitedToBGInstanceGUID packet.bgTypeId with
  | none =>
    rw [Option.none_or]
    split
    · simp [PortResult.destination]
    · rw [portOrLeave_destination_iff, found]
      simp
  | some instanced =>
    rw [Option.some_or]
    rw [portOrLeave_destination_iff, found]
    constructor
    · grind
    · simp_all

theorem destination_iff :
    (mgr.handleBattleFieldPort player packet).destination = some bg ↔
      128 ≤ packet.action.val ∧ Admitted mgr player packet bg := by
  unfold handleBattleFieldPort
  constructor
  · intro sent
    split at sent
    · cases sent
    · rename_i known
      split at sent
      · cases sent
      · rename_i queued
        dsimp only at sent
        split at sent
        · cases sent
        · rename_i info found
          split at sent
          · cases sent
          · obtain ⟨port, marked, bracket, same⟩ := answer_destination_iff.mp sent
            exact ⟨port, by simpa using known, by simpa using queued, marked, bracket,
              info, found, same⟩
  · rintro ⟨port, admitted⟩
    obtain ⟨info, found, same⟩ := admitted.invited
    have other : ¬ (info.isInvitedToBGInstanceGUID = 0 ∧ packet.action.val = 1) := by omega
    simp only [admitted.known, admitted.queued, found, other, Bool.not_true, Bool.false_eq_true,
      if_false]
    exact answer_destination_iff.mpr ⟨port, admitted.marked, admitted.bracket, same⟩

/-- Nobody is sent into a battleground without the group being invited, and into one that is no
arena nobody who is a deserter or above its highest level. -/
def PortsRightly (mgr : BattlegroundMgr) (player : PortPlayer) (packet : PortPacket) : Prop :=
  ∀ bg, (mgr.handleBattleFieldPort player packet).destination = some bg →
    (bg.isArena = false → player.deserter = false ∧ player.level ≤ bg.maxLevel) ∧
    ∃ info, (mgr.queues (bgQueueTypeId packet.bgTypeId
        (packet.type % 256))).getPlayerGroupInfoData player.guid = some info ∧
      info.isInvitedToBGInstanceGUID ≠ 0

theorem portsRightly_iff (mgr : BattlegroundMgr) (player : PortPlayer) (packet : PortPacket) :
    PortsRightly mgr player packet ↔
      (packet.action.val < 128 ∨ ∀ bg, Admitted mgr player packet bg → bg.isArena = false →
        player.deserter = false ∧ player.level ≤ bg.maxLevel) := by
  constructor
  · intro rightly
    by_cases low : packet.action.val < 128
    · exact Or.inl low
    · refine Or.inr fun bg admitted => ?_
      exact (rightly bg (destination_iff.mpr ⟨not_lt.mp low, admitted⟩)).1
  · rintro allowed bg sent
    obtain ⟨port, admitted⟩ := destination_iff.mp sent
    obtain ⟨info, found, same⟩ := admitted.invited
    refine ⟨?_, info, found, getBattleground_invited same⟩
    rcases allowed with low | fits
    · omega
    · exact fits bg admitted

/-- A deserter of level 85 whose group is invited to the instance 7 of Warsong Gulch sends the
action that the client uses to enter. -/
theorem port_deserter :
    let field : Field := { instanceId := 7, mapId := 489, maxLevel := 85, isArena := false }
    let queue : BattlegroundQueue :=
      { queuedPlayers := OrdMap.empty.assign 1 100
        queuedGroups := fun _ => []
        groups := fun _ =>
          some { GroupQueueInfo.blank with players := [1], isInvitedToBGInstanceGUID := 7 } }
    let mgr : BattlegroundMgr :=
      { queues := fun _ => queue
        battlegrounds := fun _ => OrdMap.empty.assign 7 field
        battlemasterList := fun _ => true
        pvpDifficulty := [⟨489, 15, 80, 85⟩] }
    let player : PortPlayer :=
      { guid := 1, level := 85, deserter := true, queueSlots := fun _ => ⟨.ws, 7⟩ }
    (mgr.handleBattleFieldPort player ⟨128, 2, 0⟩).destination = some field ∧
    ¬ PortsRightly mgr player ⟨128, 2, 0⟩ := by
  intro field queue mgr player
  have sent : (mgr.handleBattleFieldPort player ⟨128, 2, 0⟩).destination = some field := by
    decide
  refine ⟨sent, fun rightly => ?_⟩
  have wrong := ((rightly field sent).1 rfl).1
  cases wrong

end BattlegroundMgr

end DarkCore.Battlegrounds.Queues
