/-
The loot rolls of a group (`Group.cpp`: `GroupLoot`, `NeedBeforeGreed`,
`CountRollVote`, `EndRoll`, `CountTheRoll`, `_removeRolls`).

A roll keeps the votes in a map and, beside it, a tally for each kind of vote in
one byte. The mask of offered roll types is left out: it is only sent to the
clients. A player and an item are their guids, a roll refers to its loot by the
object that is looted and forgets it when that loot is cleared.
-/

import DarkCore.Lib.OrdMap

namespace DarkCore.Groups

open Lib

inductive RollVote where
  | pass
  | need
  | greed
  | disenchant
  | notEmitedYet
  | notValid
deriving DecidableEq

structure LootItem where
  itemid : Nat
  count : Nat
  freeforall : Bool := false
  isLooted : Bool := false
  isBlocked : Bool := false
  isUnderthreshold : Bool := false
deriving DecidableEq

structure Loot where
  items : List LootItem
  /-- The group rules were applied already (`lootForBody`, or `GO_ACTIVATED`). -/
  lootForBody : Bool
deriving DecidableEq

structure Roll where
  itemGUID : Nat
  itemid : Nat
  playerVote : OrdMap Nat RollVote := .empty
  totalPlayersRolling : Nat := 0
  totalNeed : Nat := 0
  totalGreed : Nat := 0
  totalPass : Nat := 0
  itemSlot : Nat
  /-- The link to the loot, cut when the loot is cleared. -/
  loot : Option Nat

def maxGroupSize : Nat := 5
def maxRaidSize : Nat := 40

structure Group where
  memberSlots : List Nat
  rollId : List Roll
  lootThreshold : Nat
  isRaidGroup : Bool
  isBGGroup : Bool

structure State where
  group : Group
  loots : Nat → Option Loot
  /-- The next low guid of `HIGHGUID_ITEM`. -/
  nextItemGuid : Nat

/-- A tally is a `uint8`. -/
def increment (tally : Nat) : Nat := (tally + 1) % 256

def decrement (tally : Nat) : Nat := (tally + 255) % 256

structure Surroundings where
  /-- The quality of an item's prototype. -/
  quality : Nat → Option Nat
  /-- In the world with a session, in range, and `AllowedForPlayer`. -/
  allowed : LootItem → Nat → Bool
  canUseItem : Nat → Nat → Bool
  passOnGroupLoot : Nat → Bool

def Roll.enter (roll : Roll) (guid : Nat) (passes : Bool) : Roll :=
  if passes then
    { roll with
      totalPlayersRolling := increment roll.totalPlayersRolling
      playerVote := roll.playerVote.assign guid .pass
      totalPass := increment roll.totalPass }
  else
    { roll with
      totalPlayersRolling := increment roll.totalPlayersRolling
      playerVote := roll.playerVote.assign guid .notEmitedYet }

def Roll.enterAll (near : Surroundings) (eligible : Nat → Bool) : List Nat → Roll → Roll
  | [], roll => roll
  | guid :: rest, roll =>
    if eligible guid then
      Roll.enterAll near eligible rest (roll.enter guid (near.passOnGroupLoot guid))
    else Roll.enterAll near eligible rest roll

/-- The loop body of `GroupLoot` and `NeedBeforeGreed`: the item, a roll for it if anyone takes
part, and the next item guid. -/
def startRoll (near : Surroundings) (eligible : LootItem → Nat → Bool) (group : Group)
    (object : Nat) (item : LootItem) (itemSlot nextItemGuid : Nat) :
    LootItem × Option Roll × Nat :=
  if item.freeforall then (item, none, nextItemGuid)
  else
    match near.quality item.itemid with
    | none => (item, none, nextItemGuid)
    | some quality =>
      if group.lootThreshold ≤ quality then
        let roll := Roll.enterAll near (eligible item) group.memberSlots
          { itemGUID := nextItemGuid, itemid := item.itemid, itemSlot := itemSlot,
            loot := some object }
        if 0 < roll.totalPlayersRolling then
          ({ item with isBlocked := true }, some roll, nextItemGuid + 1)
        else (item, none, nextItemGuid + 1)
      else ({ item with isUnderthreshold := true }, none, nextItemGuid)

def startRolls (near : Surroundings) (eligible : LootItem → Nat → Bool) (group : Group)
    (object : Nat) : List LootItem → Nat → Nat → List LootItem × List Roll × Nat
  | [], _, nextItemGuid => ([], [], nextItemGuid)
  | item :: rest, itemSlot, nextItemGuid =>
    let first := startRoll near eligible group object item itemSlot nextItemGuid
    let later := startRolls near eligible group object rest (itemSlot + 1) first.2.2
    (first.1 :: later.1, first.2.1.toList ++ later.2.1, later.2.2)

def groupLoot (near : Surroundings) : Group → Nat → List LootItem → Nat → Nat →
    List LootItem × List Roll × Nat :=
  startRolls near near.allowed

/-- `Group::NeedBeforeGreed`: only players who can use an item roll for it. -/
def needBeforeGreed (near : Surroundings) : Group → Nat → List LootItem → Nat → Nat →
    List LootItem × List Roll × Nat :=
  startRolls near fun item guid => near.canUseItem item.itemid guid && near.allowed item guid

/-- The dice of every player for every roll, `urand(1, 100)`. -/
abbrev Dice := Nat → Nat → Nat

def randomN (dice : Dice) (roll : Roll) (guid : Nat) : Nat := 1 + dice roll.itemGUID guid % 100

structure Players where
  /-- `GetPlayer` finds the player, with a session. -/
  online : Nat → Bool
  /-- `CanStoreNewItem` answers OK, for an item and a count. -/
  canStoreNewItem : Nat → Nat → Nat → Bool

inductive Effect where
  | lootRollWon (itemGUID guid number : Nat) (vote : RollVote)
  | allPassed (itemGUID : Nat)
  | stored (guid itemid count : Nat)
  | disenchanted (guid itemid : Nat)
  | equipError (guid itemid : Nat)
deriving DecidableEq

/-- `maxguid`, `maxresul` and `rollvote` of the search for a winner. -/
structure Best where
  maxguid : Nat
  maxresul : Nat
  rollvote : RollVote
deriving DecidableEq

def searchWinner (random : Nat → Nat) (counts : RollVote → Bool) :
    List (Nat × RollVote) → Best → Best
  | [], best => best
  | (guid, vote) :: rest, best =>
    if counts vote then
      if best.maxresul < random guid then
        searchWinner random counts rest ⟨guid, random guid, vote⟩
      else searchWinner random counts rest best
    else searchWinner random counts rest best

def countsAsNeed (vote : RollVote) : Bool := vote == .need

def countsAsGreed (vote : RollVote) : Bool := vote == .greed || vote == .disenchant

def rollWinner (dice : Dice) (roll : Roll) (counts : RollVote → Bool) : Option Best :=
  match roll.playerVote.entries with
  | [] => none
  | first :: rest =>
    some (searchWinner (randomN dice roll) counts (first :: rest) ⟨first.1, 0, .notValid⟩)

def State.setItem (state : State) (object slot : Nat) (change : LootItem → LootItem) : State :=
  { state with
    loots := Function.update state.loots object
      ((state.loots object).map fun loot => { loot with items := loot.items.modify slot change }) }

def State.lootItem (state : State) (object slot : Nat) : Option LootItem :=
  (state.loots object).bind fun loot => loot.items[slot]?

def LootItem.looted (item : LootItem) : LootItem := { item with isLooted := true }

def LootItem.unblocked (item : LootItem) : LootItem := { item with isBlocked := false }

/-- The winner gets the item if it fits; otherwise everybody may take it. -/
def handOut (players : Players) (roll : Roll) (object guid : Nat) (state : State) :
    State × List Effect :=
  let count := ((state.lootItem object roll.itemSlot).map LootItem.count).getD 0
  if players.canStoreNewItem guid roll.itemid count then
    (state.setItem object roll.itemSlot LootItem.looted, [.stored guid roll.itemid count])
  else
    (state.setItem object roll.itemSlot LootItem.unblocked, [.equipError guid roll.itemid])

def settleRoll (players : Players) (dice : Dice) (roll : Roll) (object : Nat) (state : State) :
    State × List Effect :=
  if 0 < roll.totalNeed then
    match rollWinner dice roll countsAsNeed with
    | none => (state, [])
    | some best =>
      let won := Effect.lootRollWon roll.itemGUID best.maxguid best.maxresul .need
      if players.online best.maxguid then
        let result := handOut players roll object best.maxguid state
        (result.1, won :: result.2)
      else (state, [won])
  else if 0 < roll.totalGreed then
    match rollWinner dice roll countsAsGreed with
    | none => (state, [])
    | some best =>
      let won := Effect.lootRollWon roll.itemGUID best.maxguid best.maxresul best.rollvote
      if players.online best.maxguid then
        match best.rollvote with
        | .greed =>
          let result := handOut players roll object best.maxguid state
          (result.1, won :: result.2)
        | .disenchant =>
          (state.setItem object roll.itemSlot LootItem.looted,
            [won, .disenchanted best.maxguid roll.itemid])
        | _ => (state, [won])
      else (state, [won])
  else (state.setItem object roll.itemSlot LootItem.unblocked, [.allPassed roll.itemGUID])

def State.eraseRoll (state : State) (index : Nat) : State :=
  { state with group := { state.group with rollId := state.group.rollId.eraseIdx index } }

/-- `Group::CountTheRoll`, for the roll at a position of `RollId`. -/
def countTheRoll (players : Players) (dice : Dice) (index : Nat) (state : State) :
    State × List Effect :=
  match state.group.rollId[index]? with
  | none => (state, [])
  | some roll =>
    match roll.loot with
    | none => (state.eraseRoll index, [])
    | some object =>
      let result := settleRoll players dice roll object state
      (result.1.eraseRoll index, result.2)

/-- `ROLL_PASS`, `ROLL_NEED`, `ROLL_GREED` and `ROLL_DISENCHANT`; other choices record nothing. -/
def voteOf : Nat → Option RollVote
  | 0 => some .pass
  | 1 => some .need
  | 2 => some .greed
  | 3 => some .disenchant
  | _ => none

def maxRollType : Nat := 4

def Roll.cast (roll : Roll) (guid : Nat) (vote : RollVote) : Roll :=
  let voted := { roll with playerVote := roll.playerVote.assign guid vote }
  match vote with
  | .pass => { voted with totalPass := increment roll.totalPass }
  | .need => { voted with totalNeed := increment roll.totalNeed }
  | .greed => { voted with totalGreed := increment roll.totalGreed }
  | .disenchant => { voted with totalGreed := increment roll.totalGreed }
  | _ => voted

def Roll.choose (roll : Roll) (guid choice : Nat) : Roll :=
  match voteOf choice with
  | some vote => roll.cast guid vote
  | none => roll

def Roll.decided (roll : Roll) : Bool :=
  decide (roll.totalPlayersRolling ≤ roll.totalPass + roll.totalNeed + roll.totalGreed)

/-- `Group::GetRoll`: a position of `RollId`. -/
def getRoll (rolls : List Roll) (itemGUID : Nat) : Option Nat :=
  rolls.findIdx? fun roll => roll.itemGUID == itemGUID && roll.loot.isSome

def State.setRoll (state : State) (index : Nat) (roll : Roll) : State :=
  { state with group := { state.group with rollId := state.group.rollId.set index roll } }

def State.lootIsEmpty (state : State) (object : Option Nat) : Bool :=
  match object.bind state.loots with
  | some loot => loot.items.isEmpty
  | none => false

/-- The roll that `CountRollVote` works on, when it gets past its guards. -/
def votableRoll (state : State) (guid itemGUID : Nat) : Option (Nat × Roll) := do
  let index ← getRoll state.group.rollId itemGUID
  let roll ← state.group.rollId[index]?
  let _ ← roll.playerVote.find guid
  if state.lootIsEmpty roll.loot then none else some (index, roll)

def countRollVote (players : Players) (dice : Dice) (guid itemGUID choice : Nat) (state : State) :
    State × List Effect :=
  match votableRoll state guid itemGUID with
  | none => (state, [])
  | some (index, roll) =>
    let chosen := roll.choose guid choice
    if chosen.decided then countTheRoll players dice index (state.setRoll index chosen)
    else (state.setRoll index chosen, [])

/-- `Group::EndRoll`, the timer of a looted object: it starts over after every roll it ended. -/
def endRollLoop (players : Players) (dice : Dice) (object : Nat) :
    Nat → State → State × List Effect
  | 0, state => (state, [])
  | fuel + 1, state =>
    match state.group.rollId.findIdx? fun roll => roll.loot == some object with
    | none => (state, [])
    | some index =>
      let ended := countTheRoll players dice index state
      let rest := endRollLoop players dice object fuel ended.1
      (rest.1, ended.2 ++ rest.2)

def endRoll (players : Players) (dice : Dice) (object : Nat) (state : State) :
    State × List Effect :=
  endRollLoop players dice object state.group.rollId.length state

/-- A departing member is taken out of the votes and the tallies. -/
def Roll.remove (roll : Roll) (guid : Nat) (vote : RollVote) : Roll :=
  let left := { roll with
    playerVote := roll.playerVote.erase guid
    totalPlayersRolling :=
      if vote = .notValid then roll.totalPlayersRolling
      else decrement roll.totalPlayersRolling }
  match vote with
  | .greed => { left with totalGreed := decrement roll.totalGreed }
  | .disenchant => { left with totalGreed := decrement roll.totalGreed }
  | .need => { left with totalNeed := decrement roll.totalNeed }
  | .pass => { left with totalPass := decrement roll.totalPass }
  | _ => left

/-- One turn of `Group::_removeRolls`. -/
def removeFromRoll (players : Players) (dice : Dice) (guid : Nat)
    (result : State × List Effect) (index : Nat) : State × List Effect :=
  match result.1.group.rollId[index]? with
  | none => result
  | some roll =>
    match roll.playerVote.find guid with
    | none => result
    | some vote =>
      let counted := countRollVote players dice guid roll.itemGUID maxRollType
        (result.1.setRoll index (roll.remove guid vote))
      (counted.1, result.2 ++ counted.2)

def removeRolls (players : Players) (dice : Dice) (guid : Nat) (state : State) :
    State × List Effect :=
  (List.range state.group.rollId.length).foldl (removeFromRoll players dice guid) (state, [])

def disband (state : State) : State :=
  { state with group := { state.group with rollId := [], memberSlots := [] } }

def Group.staysWithout (group : Group) : Bool :=
  decide ((if group.isBGGroup then 1 else 2) < group.memberSlots.length)

def removeMember (players : Players) (dice : Dice) (guid : Nat) (state : State) :
    State × List Effect :=
  if state.group.staysWithout then
    let left := removeRolls players dice guid state
    ({ left.1 with
        group := { left.1.group with memberSlots := left.1.group.memberSlots.erase guid } }, left.2)
  else (disband state, [])

def Group.isFull (group : Group) : Bool :=
  decide ((if group.isRaidGroup then maxRaidSize else maxGroupSize) ≤ group.memberSlots.length)

def addMember (guid : Nat) (state : State) : State :=
  if state.group.isFull ∨ guid ∈ state.group.memberSlots then state
  else { state with group := { state.group with memberSlots := state.group.memberSlots ++ [guid] } }

/-- `Loot::clear`: rolls forget their loot. -/
def clearLoot (object : Nat) (state : State) : State :=
  { state with
    loots := Function.update state.loots object none
    group := { state.group with
      rollId := state.group.rollId.map fun roll =>
        if roll.loot = some object then { roll with loot := none } else roll } }

/-- `Loot::FillLoot` after a clear: fresh items, given by their entries, counts and whether they
are free for all. -/
def fillLoot (object : Nat) (items : List (Nat × Nat × Bool)) (state : State) : State :=
  let cleared := clearLoot object state
  { cleared with
    loots := Function.update cleared.loots object
      (some { items := items.map fun (itemid, count, freeforall) => { itemid, count, freeforall },
              lootForBody := false }) }

/-- `Player::SendLoot`: the first to open the loot has the group rules applied. -/
def sendLoot (object : Nat) (needRules : Bool) (near : Surroundings) (state : State) : State :=
  match state.loots object with
  | none => state
  | some loot =>
    if loot.lootForBody then state
    else
      let (items, rolls, nextItemGuid) :=
        (if needRules then needBeforeGreed else groupLoot) near state.group object loot.items 0
          state.nextItemGuid
      { state with
        loots := Function.update state.loots object (some { items, lootForBody := true })
        group := { state.group with rollId := state.group.rollId ++ rolls }
        nextItemGuid := nextItemGuid }

/-- `Player::StoreLootItem` of an item that fits: a blocked item cannot be taken. -/
def storeLootItem (object slot : Nat) (state : State) : State :=
  match state.lootItem object slot with
  | none => state
  | some item =>
    if item.isBlocked then state
    else if item.freeforall then state
    else state.setItem object slot LootItem.looted

inductive Step where
  | fill (object : Nat) (items : List (Nat × Nat × Bool))
  | clear (object : Nat)
  | open (object : Nat) (needRules : Bool) (near : Surroundings)
  | take (object slot : Nat)
  | vote (guid itemGUID choice : Nat) (players : Players) (dice : Dice)
  | timer (object : Nat) (players : Players) (dice : Dice)
  | join (guid : Nat)
  | leave (guid : Nat) (players : Players) (dice : Dice)
  | disband
  | convertToRaid
  | setLootThreshold (threshold : Nat)

def step (state : State) : Step → State × List Effect
  | .fill object items => (fillLoot object items state, [])
  | .clear object => (clearLoot object state, [])
  | .open object needRules near => (sendLoot object needRules near state, [])
  | .take object slot => (storeLootItem object slot state, [])
  | .vote guid itemGUID choice players dice =>
    -- a player without the group votes on nothing
    if guid ∈ state.group.memberSlots then
      countRollVote players dice guid itemGUID choice state
    else (state, [])
  | .timer object players dice => endRoll players dice object state
  | .join guid => (addMember guid state, [])
  | .leave guid players dice => removeMember players dice guid state
  | .disband => (disband state, [])
  | .convertToRaid => ({ state with group := { state.group with isRaidGroup := true } }, [])
  | .setLootThreshold threshold =>
    ({ state with group := { state.group with lootThreshold := threshold } }, [])

def next (state : State) (action : Step) : State := (step state action).1

def State.initial (lootThreshold : Nat) (isRaidGroup isBGGroup : Bool) (nextItemGuid : Nat) :
    State where
  group := { memberSlots := [], rollId := [], lootThreshold, isRaidGroup, isBGGroup }
  loots := fun _ => none
  nextItemGuid := nextItemGuid

end DarkCore.Groups
