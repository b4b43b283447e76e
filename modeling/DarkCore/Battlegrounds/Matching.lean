/-
How an update of a battleground queue selects groups and invites them
(`BattlegroundQueue.cpp`): for running battlegrounds with free slots, for a premade
match, for a normal match or a skirmish, and for a rated arena match. On the way
groups go from one list of their bracket to another one.
-/

import DarkCore.Battlegrounds.Queue

namespace DarkCore.Battlegrounds.Queues

open DarkCore.Lib

/-- What is read of the first battleground of a type -/
structure Template where
  isArena : Bool
  minPlayersPerTeam : Nat
  maxPlayersPerTeam : Nat

/-- What `CreateNewBattleground` draws: the type that the selection weights give, if they give one,
and the result of `GenerateInstanceId` -/
structure Creation where
  choice : Option Nat
  instanceId : Nat

/-- The configuration, the clock and the templates at an update, and who is online. `hasBracket`
is the answer of `GetBattlegroundBracketById`. -/
structure Surroundings where
  now : Nat
  invitationType : Nat
  premadeWait : Nat
  testing : Bool
  arenaTesting : Bool
  maxRatingDifference : Nat
  ratingDiscardTimer : Nat
  template : Nat → Option Template
  hasBracket : Bool
  premadeCreation : Creation
  creation : Creation
  online : Nat → Bool

/-- The arguments of `Update` -/
structure UpdateCall where
  bgTypeId : Nat
  bracketId : Fin maxBattlegroundBrackets
  arenaType : Nat
  isRated : Bool
  arenaRating : Nat

structure SelectionPool where
  selectedGroups : List Nat
  playerCount : Nat

namespace SelectionPool

variable (queue : BattlegroundQueue) (pool : SelectionPool)

def init : SelectionPool := ⟨[], 0⟩

def addGroup (group desiredCount : Nat) : SelectionPool × Bool :=
  if !queue.isInvited group && pool.playerCount + queue.size group ≤ desiredCount then
    (⟨pool.selectedGroups ++ [group], pool.playerCount + queue.size group⟩, true)
  else (pool, pool.playerCount < desiredCount)

theorem addGroup_cases (group desiredCount : Nat) :
    (queue.isInvited group = false ∧ pool.playerCount + queue.size group ≤ desiredCount ∧
        pool.addGroup queue group desiredCount =
          (⟨pool.selectedGroups ++ [group], pool.playerCount + queue.size group⟩, true)) ∨
      (pool.addGroup queue group desiredCount).1 = pool := by
  unfold addGroup
  split
  · rename_i fits
    obtain ⟨uninvited, room⟩ := Bool.and_eq_true_iff.mp fits
    refine Or.inl ⟨?_, of_decide_eq_true room, rfl⟩
    rw [← Bool.not_eq_true', uninvited]
  · exact Or.inr rfl

/-- The loop of `KickGroup` over the groups with their positions. `kick` is the group to kick so
far and its size, `found` that this size is close to the wanted one. -/
def groupToKick (size : Nat) : List (Nat × Nat) → Nat × Nat → Bool → Nat
  | [], kick, _ => kick.1
  | (group, position) :: rest, kick, found =>
    if ((queue.size group : Int) - size).natAbs ≤ 1 then
      groupToKick size rest (position, queue.size group) true
    else if !found && kick.2 ≤ queue.size group then
      groupToKick size rest (position, queue.size group) found
    else groupToKick size rest kick found

def kickGroup (size : Nat) : SelectionPool × Bool :=
  if pool.playerCount = 0 then (pool, true)
  else
    let first := (pool.selectedGroups.head?.map queue.size).getD 0
    let kick := groupToKick queue size pool.selectedGroups.zipIdx (0, first) false
    match pool.selectedGroups[kick]? with
    | none => (pool, true)
    | some group =>
      (⟨pool.selectedGroups.eraseIdx kick, pool.playerCount - queue.size group⟩,
        size + 1 < queue.size group)

end SelectionPool

/-- `m_SelectionPools` -/
abbrev Pools := Team → SelectionPool

def Pools.init : Pools := fun _ => SelectionPool.init

namespace Battleground

variable (bg : Battleground)

def getFreeSlotsForTeam (team : Team) : Nat :=
  let invited := bg.invitedCount team
  let otherTeam := bg.invitedCount team.other
  let playersIn := bg.playersCount team
  let otherIn := bg.playersCount team.other
  match bg.status with
  | .waitJoin => if invited < bg.maxPlayersPerTeam then bg.maxPlayersPerTeam - invited else 0
  | .inProgress =>
    let diff :=
      if otherTeam = invited then 1 else if invited < otherTeam then otherTeam - invited else 0
    let diff2 := if invited < bg.maxPlayersPerTeam then bg.maxPlayersPerTeam - invited else 0
    let diff3 :=
      if otherIn = playersIn then 1
      else if playersIn < otherIn then otherIn - playersIn
      else if invited ≤ bg.minPlayersPerTeam then bg.minPlayersPerTeam - invited + 1
      else 0
    min (min diff diff2) diff3
  | _ => 0

/-- `GetMaxPlayers` is twice the number of players of a team. -/
def hasFreeSlots : Bool := bg.players.entries.length < 2 * bg.maxPlayersPerTeam

end Battleground

/-- The pools of `FillPlayersToBG` and the groups its iterators have not passed yet -/
structure Filling where
  pool : Pools
  rest : Team → List Nat

namespace Filling

variable (queue : BattlegroundQueue) (filling : Filling)

def fillList (desiredCount : Nat) : List Nat → SelectionPool → SelectionPool × List Nat
  | [], pool => (pool, [])
  | group :: rest, pool =>
    match pool.addGroup queue group desiredCount with
    | (pool, true) => fillList desiredCount rest pool
    | (pool, false) => (pool, group :: rest)

def fill (team : Team) (desiredCount : Nat) : Filling :=
  let filled := fillList queue desiredCount (filling.rest team) (filling.pool team)
  { pool := Function.update filling.pool team filled.1
    rest := Function.update filling.rest team filled.2 }

def kick (team : Team) (size : Nat) : Filling × Bool :=
  let kicked := (filling.pool team).kickGroup queue size
  ({ filling with pool := Function.update filling.pool team kicked.1 }, kicked.2)

/-- `diffAli` and `diffHorde` -/
def diff (free : Team → Nat) (team : Team) : Int :=
  (free team : Int) - (filling.pool team).playerCount

def balanceTeam (free : Team → Nat) (team : Team) : Filling × Bool :=
  let diffOther := filling.diff free team.other
  let size := (diffOther - filling.diff free team).toNat
  let kicked := filling.kick queue team size
  let filling :=
    if kicked.2 then
      kicked.1.fill queue team
        (if diffOther ≤ free team then ((free team : Int) - diffOther).toNat else 0)
    else kicked.1
  if (filling.pool team).playerCount = 0 then
    if (free team : Int) ≤ diffOther + 1 then (filling, false)
    else ((filling.kick queue team.other size).1, true)
  else (filling, true)

def balance (free : Team → Nat) : Nat → Filling → Filling
  | 0, filling => filling
  | rounds + 1, filling =>
    let diffAli := filling.diff free .alliance
    let diffHorde := filling.diff free .horde
    if 1 < (diffAli - diffHorde).natAbs ∧
        (0 < (filling.pool .horde).playerCount ∨ 0 < (filling.pool .alliance).playerCount) then
      let next :=
        filling.balanceTeam queue free (if diffAli < diffHorde then .alliance else .horde)
      if next.2 then balance free rounds next.1 else next.1
    else filling

end Filling

namespace BattlegroundQueue

variable (queue : BattlegroundQueue)

def normal (bracket : Fin maxBattlegroundBrackets) (team : Team) : List Nat :=
  queue.queuedGroups (bracket, .normal team)

def premade (bracket : Fin maxBattlegroundBrackets) (team : Team) : List Nat :=
  queue.queuedGroups (bracket, .premade team)

def fillPlayersToBG (surroundings : Surroundings) (bg : Battleground)
    (bracket : Fin maxBattlegroundBrackets) : Pools :=
  let free := bg.getFreeSlotsForTeam
  let filling : Filling := { pool := Pools.init, rest := queue.normal bracket }
  let filling :=
    (filling.fill queue .alliance (free .alliance)).fill queue .horde (free .horde)
  if surroundings.invitationType = 0 then filling.pool
  else
    (filling.balance queue free
      ((queue.normal bracket .alliance).length + (queue.normal bracket .horde).length + 1)).pool

def inviteGroupToBG (surroundings : Surroundings) (group : Nat) (bg : Battleground)
    (side : Option Team) : BattlegroundQueue × Battleground :=
  let info := queue.info group
  let info := { info with team := side.getD info.team }
  if info.isInvitedToBGInstanceGUID = 0 then
    (queue.setInfo group { info with
          isInvitedToBGInstanceGUID := bg.instanceId
          removeInviteTime := (surroundings.now + inviteAcceptWaitTime) % 2 ^ 32 },
      (info.players.filter surroundings.online).foldl
        (fun bg _ => bg.increaseInvitedCount info.team) bg)
  else (queue.setInfo group info, bg)

def inviteGroups (surroundings : Surroundings) (groups : List Nat) (bg : Battleground) :
    BattlegroundQueue × Battleground :=
  groups.foldl
    (fun state group =>
      state.1.inviteGroupToBG surroundings group state.2 (some (state.1.info group).team))
    (queue, bg)

def invitePools (surroundings : Surroundings) (pools : Pools) (bg : Battleground) :
    BattlegroundQueue × Battleground :=
  let invited := queue.inviteGroups surroundings (pools .alliance).selectedGroups bg
  invited.1.inviteGroups surroundings (pools .horde).selectedGroups invited.2

/-- The loop of `CheckPremadeMatch` over a normal list -/
def addNormal (maxPlayers : Nat) : List Nat → SelectionPool → SelectionPool
  | [], pool => pool
  | group :: rest, pool =>
    if queue.isInvited group then addNormal maxPlayers rest pool
    else
      match pool.addGroup queue group maxPlayers with
      | (pool, true) => addNormal maxPlayers rest pool
      | (pool, false) => pool

def movePremade (surroundings : Surroundings) (bracket : Fin maxBattlegroundBrackets)
    (minPlayersPerTeam : Nat) (team : Team) : BattlegroundQueue :=
  let timeBefore := (surroundings.now + 2 ^ 32 - surroundings.premadeWait % 2 ^ 32) % 2 ^ 32
  match queue.premade bracket team with
  | [] => queue
  | group :: _ =>
    if !queue.isInvited group &&
        ((queue.info group).joinTime < timeBefore || queue.size group < minPlayersPerTeam) then
      queue.move group (bracket, .premade team) (bracket, .normal team)
    else queue

/-- `BattlegroundQueue::CheckPremadeMatch`; `none` is for `false`, when the pools are not set. -/
def checkPremadeMatch (surroundings : Surroundings) (bracket : Fin maxBattlegroundBrackets)
    (minPlayersPerTeam maxPlayersPerTeam : Nat) : BattlegroundQueue × Option Pools :=
  let aliGroup := (queue.premade bracket .alliance).find? fun group => !queue.isInvited group
  let hordeGroup := (queue.premade bracket .horde).find? fun group => !queue.isInvited group
  match aliGroup, hordeGroup with
  | some aliGroup, some hordeGroup =>
    let ali := (SelectionPool.init.addGroup queue aliGroup maxPlayersPerTeam).1
    let horde := (SelectionPool.init.addGroup queue hordeGroup maxPlayersPerTeam).1
    let maxPlayers := min ali.playerCount horde.playerCount
    (queue, some fun
      | .alliance => queue.addNormal maxPlayers (queue.normal bracket .alliance) ali
      | .horde => queue.addNormal maxPlayers (queue.normal bracket .horde) horde)
  | _, _ =>
    ((queue.movePremade surroundings bracket minPlayersPerTeam .alliance).movePremade
      surroundings bracket minPlayersPerTeam .horde, none)

/-- The first loop of `CheckNormalMatch`, with the groups after the one it stops at -/
def selectNormal (minPlayers maxPlayers : Nat) : List Nat → SelectionPool → SelectionPool × List Nat
  | [], pool => (pool, [])
  | group :: rest, pool =>
    if queue.isInvited group then selectNormal minPlayers maxPlayers rest pool
    else
      let pool := (pool.addGroup queue group maxPlayers).1
      if minPlayers ≤ pool.playerCount then (pool, rest)
      else selectNormal minPlayers maxPlayers rest pool

def checkNormalMatch (surroundings : Surroundings) (template : Template)
    (bracket : Fin maxBattlegroundBrackets) (minPlayers maxPlayers : Nat) : Pools × Bool :=
  let selected := fun team =>
    queue.selectNormal minPlayers maxPlayers (queue.normal bracket team) SelectionPool.init
  let count := fun team => (selected team).1.playerCount
  let fewer : Team := if count .horde < count .alliance then .horde else .alliance
  if surroundings.invitationType ≠ 0 ∧ minPlayers ≤ count .horde ∧ minPlayers ≤ count .alliance then
    let pools : Pools :=
      Function.update (fun team => (selected team).1) fewer
        (queue.addNormal (count fewer.other) (selected fewer).2 (selected fewer).1)
    if 2 < ((((pools .horde).playerCount : Int) - (pools .alliance).playerCount)).natAbs then
      (pools, false)
    else (pools, true)
  else
    (fun team => (selected team).1, if surroundings.testing && !template.isArena &&
          (count .alliance != 0 || count .horde != 0) then true
      else minPlayers ≤ count .alliance && minPlayers ≤ count .horde)

def changeSide (bracket : Fin maxBattlegroundBrackets) (team : Team) (groups : List Nat) :
    BattlegroundQueue :=
  groups.foldl
    (fun queue group => (queue.setInfo group { queue.info group with team := team }).move group
        (bracket, .normal team.other) (bracket, .normal team))
    queue

/-- `BattlegroundQueue::CheckSkirmishForSameFaction`; `none` is for `false`. While arenas are
tested the pool it starts from may be empty, then no group is found. -/
def checkSkirmishForSameFaction (bracket : Fin maxBattlegroundBrackets) (minPlayersPerTeam : Nat)
    (pools : Pools) : Option (BattlegroundQueue × Pools) :=
  if (pools .alliance).playerCount < minPlayersPerTeam ∧
      (pools .horde).playerCount < minPlayersPerTeam then none
  else
    let team : Team :=
      if (pools .horde).playerCount = minPlayersPerTeam then .horde else .alliance
    match (pools team).selectedGroups.getLast? with
    | none => none
    | some group =>
      match (queue.normal bracket team).dropWhile fun other => other != group with
      | [] => none
      | _ :: rest =>
        let pool := queue.addNormal minPlayersPerTeam rest SelectionPool.init
        if pool.playerCount ≠ minPlayersPerTeam then none
        else
          some (queue.changeSide bracket team.other pool.selectedGroups,
            Function.update pools team.other pool)

/-- The rating to search for; `none` is for empty queues. -/
def ratingOf (call : UpdateCall) : Option Nat :=
  if call.arenaRating ≠ 0 then some call.arenaRating
  else
    match queue.premade call.bracketId .alliance, queue.premade call.bracketId .horde with
    | [], [] => none
    | front1 :: _, [] => some (queue.info front1).arenaMatchmakerRating
    | [], front2 :: _ => some (queue.info front2).arenaMatchmakerRating
    | front1 :: _, front2 :: _ =>
      if (queue.info front1).joinTime < (queue.info front2).joinTime then
        some (queue.info front1).arenaMatchmakerRating
      else some (queue.info front2).arenaMatchmakerRating

def suits (surroundings : Surroundings) (arenaRating group : Nat) : Bool :=
  let arenaMinRating :=
    if arenaRating ≤ surroundings.maxRatingDifference then 0
    else arenaRating - surroundings.maxRatingDifference
  let arenaMaxRating := (arenaRating + surroundings.maxRatingDifference) % 2 ^ 32
  let discardTime := (surroundings.now + 2 ^ 32 - surroundings.ratingDiscardTimer % 2 ^ 32) % 2 ^ 32
  let info := queue.info group
  !queue.isInvited group &&
    ((arenaMinRating ≤ info.arenaMatchmakerRating && info.arenaMatchmakerRating ≤ arenaMaxRating) ||
      info.joinTime < discardTime)

/-- A search from an iterator: where it ends, and the pool with the group found added. An iterator
is the list of the groups it has not passed. -/
def searchRated (surroundings : Surroundings) (arenaRating maxPlayersPerTeam : Nat)
    (start : List Nat) (pool : SelectionPool) : List Nat × SelectionPool :=
  match start.dropWhile fun group => !queue.suits surroundings arenaRating group with
  | [] => ([], pool)
  | group :: rest => (group :: rest, (pool.addGroup queue group maxPlayersPerTeam).1)

def findOpponents (surroundings : Surroundings) (bracket : Fin maxBattlegroundBrackets)
    (arenaRating maxPlayersPerTeam : Nat) : Option (Nat × Nat) :=
  let search := queue.searchRated surroundings arenaRating maxPlayersPerTeam
  let ali := search (queue.premade bracket .alliance) SelectionPool.init
  let horde := search (queue.premade bracket .horde) SelectionPool.init
  let ali :=
    if ali.2.playerCount = 0 ∧ horde.2.playerCount ≠ 0 then search horde.1.tail ali.2 else ali
  let horde :=
    if horde.2.playerCount = 0 ∧ ali.2.playerCount ≠ 0 then search ali.1.tail horde.2 else horde
  match ali.1, horde.1 with
  | aliGroup :: _, hordeGroup :: _ =>
    if ali.2.playerCount ≠ 0 ∧ horde.2.playerCount ≠ 0 then some (aliGroup, hordeGroup) else none
  | _, _ => none

def setOpponent (group opponent : Nat) : BattlegroundQueue :=
  queue.setInfo group
    { queue.info group with
      opponentsTeamRating := (queue.info opponent).arenaTeamRating
      opponentsMatchmakerRating := (queue.info opponent).arenaMatchmakerRating }

def swapFaction (bracket : Fin maxBattlegroundBrackets) (group : Nat) (team : Team) :
    BattlegroundQueue :=
  if (queue.info group).team = team then queue
  else queue.move group (bracket, .premade team.other) (bracket, .premade team)

end BattlegroundQueue

/-- `BattlegroundMgr::CreateNewBattleground`; only known types have templates. -/
def Surroundings.createNewBattleground (surroundings : Surroundings) (creation : Creation)
    (bgTypeId : Nat) (bracket : Fin maxBattlegroundBrackets) (arenaType : Nat) :
    Option Battleground := do
  let template ← surroundings.template bgTypeId
  let isRandom : Bool := !template.isArena && bgTypeId == battlegroundRB
  let chosen ← if template.isArena || isRandom then creation.choice else some bgTypeId
  let template ← surroundings.template chosen
  some
    { instanceId := creation.instanceId
      typeId := if isRandom then battlegroundRB else chosen
      bracketId := bracket
      isArena := template.isArena
      arenaType := arenaType
      status := .waitJoin
      minPlayersPerTeam := template.minPlayersPerTeam
      maxPlayersPerTeam := template.maxPlayersPerTeam
      invitedCount := fun _ => 0
      players := OrdMap.empty
      playersCount := fun _ => 0
      inBGFreeSlotQueue := false }

namespace Site

variable (site : Site)

/-- `AddToBGFreeSlotQueue` and `AddBattleground` -/
def addBattleground (bg : Battleground) : Site :=
  if !bg.inBGFreeSlotQueue && !bg.isArena then
    { site with
      battlegrounds := site.battlegrounds.assign bg.instanceId { bg with inBGFreeSlotQueue := true }
      freeSlots := bg.instanceId :: site.freeSlots }
  else { site with battlegrounds := site.battlegrounds.assign bg.instanceId bg }

def startBattleground (invited : BattlegroundQueue × Battleground) : Site :=
  { site with queue := invited.1 }.addBattleground invited.2

/-- The body of the loop of `Update` over the battlegrounds with free slots -/
def fillBattleground (surroundings : Surroundings) (call : UpdateCall) (instanceId : Nat) : Site :=
  match site.battlegrounds.find instanceId with
  | none => site
  | some bg =>
    if !bg.isArena && bg.typeId == call.bgTypeId && bg.bracketId == call.bracketId &&
        (bg.status == .waitJoin || bg.status == .inProgress) then
      let pools := site.queue.fillPlayersToBG surroundings bg call.bracketId
      let invited := site.queue.invitePools surroundings pools bg
      if invited.2.hasFreeSlots then
        { site with
          queue := invited.1
          battlegrounds := site.battlegrounds.assign instanceId invited.2 }
      else
        { queue := invited.1
          battlegrounds :=
            site.battlegrounds.assign instanceId { invited.2 with inBGFreeSlotQueue := false }
          freeSlots := site.freeSlots.erase instanceId }
    else site

/-- A premade match; `none` is for the return where no battleground could be created. -/
def startPremade (surroundings : Surroundings) (call : UpdateCall)
    (minPlayersPerTeam maxPlayersPerTeam : Nat) : Site × Bool :=
  match site.queue.checkPremadeMatch surroundings call.bracketId minPlayersPerTeam
      maxPlayersPerTeam with
  | (queue, none) => ({ site with queue := queue }, true)
  | (queue, some pools) =>
    match surroundings.createNewBattleground surroundings.premadeCreation call.bgTypeId
        call.bracketId 0 with
    | none => (site, false)
    | some bg => (site.startBattleground (queue.invitePools surroundings pools bg), true)

def selectMatch (surroundings : Surroundings) (template : Template) (call : UpdateCall)
    (minPlayersPerTeam maxPlayersPerTeam : Nat) : Option (BattlegroundQueue × Pools) :=
  let normal :=
    site.queue.checkNormalMatch surroundings template call.bracketId minPlayersPerTeam
      maxPlayersPerTeam
  if normal.2 then some (site.queue, normal.1)
  else if template.isArena then
    site.queue.checkSkirmishForSameFaction call.bracketId minPlayersPerTeam normal.1
  else none

def startNormal (surroundings : Surroundings) (template : Template) (call : UpdateCall)
    (minPlayersPerTeam maxPlayersPerTeam : Nat) : Site :=
  match site.selectMatch surroundings template call minPlayersPerTeam maxPlayersPerTeam with
  | none => site
  | some (queue, pools) =>
    match surroundings.createNewBattleground surroundings.creation call.bgTypeId
        call.bracketId call.arenaType with
    | none => { site with queue := queue }
    | some bg => site.startBattleground (queue.invitePools surroundings pools bg)

def startRated (surroundings : Surroundings) (call : UpdateCall) (maxPlayersPerTeam : Nat) : Site :=
  match site.queue.ratingOf call with
  | none => site
  | some arenaRating =>
    match site.queue.findOpponents surroundings call.bracketId arenaRating maxPlayersPerTeam with
    | none => site
    | some (ali, horde) =>
      match surroundings.createNewBattleground surroundings.creation call.bgTypeId
          call.bracketId call.arenaType with
      | none => site
      | some arena =>
        let queue := (site.queue.setOpponent ali horde).setOpponent horde ali
        let queue :=
          (queue.swapFaction call.bracketId ali .alliance).swapFaction call.bracketId horde
            .horde
        let invited := queue.inviteGroupToBG surroundings ali arena (some .alliance)
        site.startBattleground
          (invited.1.inviteGroupToBG surroundings horde invited.2 (some .horde))

/-- `BattlegroundQueue::Update` after the loop over the battlegrounds with free slots -/
def startBattlegrounds (surroundings : Surroundings) (call : UpdateCall) : Site :=
  match surroundings.template call.bgTypeId with
  | none => site
  | some template =>
    if !surroundings.hasBracket then site
    else
      let minPlayersPerTeam :=
        if template.isArena then if surroundings.arenaTesting then 1 else call.arenaType
        else if surroundings.testing then 1
        else template.minPlayersPerTeam
      let maxPlayersPerTeam :=
        if template.isArena then call.arenaType else template.maxPlayersPerTeam
      let premade :=
        if template.isArena then (site, true)
        else site.startPremade surroundings call minPlayersPerTeam maxPlayersPerTeam
      if !premade.2 then premade.1
      else if !call.isRated then
        premade.1.startNormal surroundings template call minPlayersPerTeam maxPlayersPerTeam
      else if template.isArena then premade.1.startRated surroundings call maxPlayersPerTeam
      else premade.1

def update (surroundings : Surroundings) (call : UpdateCall) : Site :=
  if site.queue.premade call.bracketId .alliance = [] ∧
      site.queue.premade call.bracketId .horde = [] ∧
      site.queue.normal call.bracketId .alliance = [] ∧
      site.queue.normal call.bracketId .horde = [] then site
  else
    (site.freeSlots.foldl
      (fun site instanceId => site.fillBattleground surroundings call instanceId)
      site).startBattlegrounds surroundings call

end Site

end DarkCore.Battlegrounds.Queues
