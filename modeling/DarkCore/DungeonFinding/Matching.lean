/-
How the dungeon finder forms groups (`CheckCompatibility` and `FindNewGroups` of
`LFGMgr.cpp`). A check of some entries first asks the answers kept from earlier
checks, then checks all entries but the first, then the whole list; five players
that fit make a proposal.
-/

import DarkCore.DungeonFinding.Manager

namespace DarkCore.DungeonFinding

open DarkCore.Lib

/-- `urand(0, bound)`; no further choices are as good as zeros. -/
def urand (choices : List Nat) (bound : Nat) : Nat × List Nat :=
  match choices with
  | [] => (0, [])
  | choice :: rest => (choice % (bound + 1), rest)

/-- The variables of the loop over the entries; `numPlayers` is a `uint8`. -/
structure Gathered where
  numPlayers : Nat
  numLfgGroups : Nat
  groupLowGuid : Option Nat
  pqInfoMap : OrdMap Nat LfgQueueInfo

def Gathered.start : Gathered := ⟨0, 0, none, OrdMap.empty⟩

def Gathered.add (realm : Realm) (gathered : Gathered) (guid : Guid) (info : LfgQueueInfo) :
    Gathered :=
  let gathered := { gathered with
    pqInfoMap := gathered.pqInfoMap.assign guid.raw info
    numPlayers := (gathered.numPlayers + info.roles.entries.length) % 256 }
  match guid with
  | .player _ => gathered
  | .group lowGuid =>
    if realm.isLFGGroup lowGuid then
      { gathered with
        groupLowGuid := if gathered.numLfgGroups = 0 then some lowGuid else gathered.groupLowGuid
        numLfgGroups := gathered.numLfgGroups + 1 }
    else gathered

/-- The loop stops early at a second LFG group or a sixth player. An `error` is an entry that is
listed without being queued. -/
def gather (realm : Realm) (mgr : LFGMgr) : List Guid → Gathered → Except Guid Gathered
  | [], gathered => .ok gathered
  | guid :: rest, gathered =>
    if gathered.numLfgGroups < 2 ∧ gathered.numPlayers ≤ maxGroupSize then
      match mgr.queueInfoMap guid with
      | none => .error guid
      | some info => gather realm mgr rest (gathered.add realm guid info)
    else .ok gathered

structure Crew where
  leader : Option PlayerGuid
  rolesMap : LfgRolesMap
  choices : List Nat

def Crew.add (crew : Crew) (entry : PlayerGuid × Roles) : Crew :=
  let rolesMap := crew.rolesMap.assign entry.1 entry.2
  if entry.2 &&& roleLeader ≠ 0 then
    match crew.leader with
    | none => { crew with leader := some entry.1, rolesMap := rolesMap }
    | some _ =>
      let (coin, choices) := urand crew.choices 1
      { leader := if coin ≠ 0 then some entry.1 else crew.leader
        rolesMap := rolesMap
        choices := choices }
  else { crew with rolesMap := rolesMap }

def collectRoles (pqInfoMap : OrdMap Nat LfgQueueInfo) (choices : List Nat) : Crew :=
  (pqInfoMap.entries.flatMap fun entry => entry.2.roles.entries).foldl Crew.add
    ⟨none, OrdMap.empty, choices⟩

/-- The players found online of whom nobody ignores another. The set is ordered by the addresses
of the players in the source; here they stand as they were inserted. -/
def collectPlayers (realm : Realm) (guids : List PlayerGuid) : List PlayerGuid :=
  guids.foldl (fun players guid => if realm.online guid = true ∧
        (players.all fun player => !realm.ignores guid player && !realm.ignores player guid) = true
    then players ++ [guid] else players) []

def selectedDungeons (pqInfoMap : OrdMap Nat LfgQueueInfo) : List Nat :=
  match pqInfoMap.entries with
  | [] => []
  | first :: others => first.2.dungeons.filter fun dungeon =>
    others.all fun other => decide (dungeon ∈ other.2.dungeons)

/-- `GetCompatibleDungeons`; a lock is kept under the entry of the dungeon, which has the type in
its highest byte. -/
def getCompatibleDungeons (realm : Realm) (dungeons : List Nat) (players : List PlayerGuid) :
    List Nat :=
  players.foldl (fun dungeons player => (realm.lockedDungeons player).foldl (fun dungeons entry =>
      dungeons.filter (· ≠ entry % 0x1000000)) dungeons) dungeons

/-- `for (uint8 i = 0; i < urand(0, size - 1); ++i) ++itDungeon;` The bound is drawn anew before
every step, and the counter wraps. -/
def advance (bound : Nat) : List Nat → Nat → Nat → Nat × List Nat
  | [], _, position => (position, [])
  | choice :: rest, counter, position =>
    if counter < choice % (bound + 1) then
      advance bound rest ((counter + 1) % 256) (position + 1)
    else (position, rest)

structure Search where
  mgr : LFGMgr
  choices : List Nat
  pProposal : Option LfgProposal

def Search.setCompatibles (search : Search) (key : List Char) (compatibles : Bool) : Search :=
  { search with mgr := search.mgr.setCompatibles key compatibles }

def proposalPlayer (realm : Realm) (rolesMap : Selections) (guid : PlayerGuid) :
    LfgProposalPlayer where
  role := (OrdMap.findEntries guid rolesMap).getD roleNone
  accept :=
    match realm.groupOf guid with
    | some lowGuid => if realm.isLFGGroup lowGuid then .agree else .pending
    | none => .pending
  groupLowGuid := realm.groupOf guid

/-- `GROUP FORMED!` and what follows; the time of a proposal is `LFG_TIME_PROPOSAL`. -/
def formProposal (realm : Realm) (check : List Guid) (gathered : Gathered) (crew : Crew)
    (rolesMap : Selections) (players : List PlayerGuid) (compatibleDungeons : List Nat) :
    LfgProposal × List Nat :=
  let (position, choices) := advance (compatibleDungeons.length - 1) crew.choices 0 0
  let (leader, choices) :=
    match crew.leader with
    | some leader => (some leader, choices)
    | none =>
      let (pos, choices) := urand choices (players.length - 1)
      (players[pos % 256]?, choices)
  let proposalPlayers := players.foldl (fun map guid =>
    map.assign guid (proposalPlayer realm rolesMap guid)) OrdMap.empty
  let numAccept := players.countP fun guid =>
    (proposalPlayer realm rolesMap guid).accept = .agree
  ({ dungeonId := compatibleDungeons[position]?
     state := if numAccept = maxGroupSize then .success else .initiating
     groupLowGuid := gathered.groupLowGuid
     leader := leader
     cancelTime := realm.now + 120
     queues := check
     players := proposalPlayers }, choices)

def checkPlayers (realm : Realm) (check : List Guid) (gathered : Gathered) (search : Search) :
    Search × Bool :=
  let key := concatenateGuids check
  let crew := collectRoles gathered.pqInfoMap search.choices
  let search := { search with choices := crew.choices }
  if crew.rolesMap.entries.length ≠ gathered.numPlayers then (search, false)
  else
    let players := collectPlayers realm (crew.rolesMap.entries.map Prod.fst)
    if players.length ≠ gathered.numPlayers then (search.setCompatibles key false, false)
    else
      match checkGroupRoles crew.rolesMap.entries with
      | some (true, rolesMap) =>
        let compatibleDungeons :=
          getCompatibleDungeons realm (selectedDungeons gathered.pqInfoMap) players
        if compatibleDungeons = [] then (search.setCompatibles key false, false)
        else
          let search := search.setCompatibles key true
          if gathered.numPlayers ≠ maxGroupSize then (search, true)
          else
            let (proposal, choices) :=
              formProposal realm check gathered crew rolesMap players compatibleDungeons
            ({ search with choices := choices, pProposal := some proposal }, true)
      | _ => (search.setCompatibles key false, false)

def checkEntries (realm : Realm) (check : List Guid) (search : Search) : Search × Bool :=
  match gather realm search.mgr check Gathered.start with
  | .error guid => ({ search with mgr := search.mgr.removeFromQueue guid }, false)
  | .ok gathered =>
    if check.length = 1 ∧ gathered.numPlayers ≠ maxGroupSize then (search, true)
    else if 1 < gathered.numLfgGroups ∨ maxGroupSize < gathered.numPlayers then
      (search.setCompatibles (concatenateGuids check) false, false)
    else checkPlayers realm check gathered search

/-- `IS_PLAYER_GUID` -/
def Guid.isPlayer : Guid → Bool
  | .player _ => true
  | .group _ => false

def checkCompatibility (realm : Realm) : List Guid → Search → Search × Bool
  | [], search => (search, false)
  | front :: rest, search =>
    if search.pProposal.isSome = true then (search, false)
    else if maxGroupSize < (front :: rest).length then (search, false)
    else if rest = [] ∧ front.isPlayer = true then (search, true)
    else
      match search.mgr.getCompatibles (concatenateGuids (front :: rest)) with
      | some answer => (search, answer)
      | none =>
        if 2 < (front :: rest).length then
          match checkCompatibility realm rest search with
          | (search, true) => checkEntries realm (front :: rest) search
          | (search, false) =>
            (search.setCompatibles (concatenateGuids (front :: rest)) false, false)
        else checkEntries realm (front :: rest) search

/-- A call of `FindNewGroups`, up to its loop. The list `all` is shared with the caller, who goes on
with what the call leaves of it. -/
def findNewGroupsWith (realm : Realm)
    (loop : List Guid → List Guid → Search → Search × List Guid)
    (check all : List Guid) (search : Search) : Search × List Guid :=
  let search := { search with pProposal := none }
  if check = [] ∨ maxGroupSize < check.length then (search, all)
  else
    match checkCompatibility realm check search with
    | (search, false) => ({ search with pProposal := none }, all)
    | (search, true) => loop check all search

/-- `while (!pProposal && all.size() > 0)`; the limit is the length of `all`, of which every round
takes one entry. -/
def matchQueued (realm : Realm) : Nat → List Guid → List Guid → Search → Search × List Guid
  | 0, _, all, search => (search, all)
  | limit + 1, check, all, search =>
    match search.pProposal, all with
    | some _, all => (search, all)
    | none, [] => (search, [])
    | none, front :: rest =>
      let (search, all) :=
        findNewGroupsWith realm (matchQueued realm limit) (check ++ [front]) rest search
      matchQueued realm limit check all search

/-- `FindNewGroups`; the proposal is the one in the search afterwards. -/
def findNewGroups (realm : Realm) (check all : List Guid) (search : Search) :
    Search × List Guid :=
  findNewGroupsWith realm (matchQueued realm all.length) check all search

end DarkCore.DungeonFinding
