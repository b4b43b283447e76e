/-
Vehicles (`Vehicle.cpp`, with the parts of `Unit.cpp` and `MovementHandler.cpp`
that move passengers). Units are numbers, and a vehicle kit is known by the unit it
belongs to. A request has no result where an `ASSERT` fails, where a null pointer is
followed, or where the calls of `RemoveAllPassengers` are nested too deeply.
-/

import DarkCore.Lib.OrdMap
import DarkCore.Lib.Runs

namespace DarkCore.Vehicles

open DarkCore.Lib

structure VehicleSeatEntry where
  flags : BitVec 32
  flagsB : BitVec 32
  deriving DecidableEq

namespace VehicleSeatEntry

variable (entry : VehicleSeatEntry)

def canEnterOrExit : Bool := decide (entry.flags &&& 0x02000000 ≠ 0)

/-- The flag is one of the second field, and it is looked for in the first. -/
def canSwitchFromSeat : Bool := decide (entry.flags &&& 0x04000000 ≠ 0)

def isUsableByAura : Bool := decide (entry.flagsB &&& (0x00000002 ||| 0x00000040 ||| 0x00000100) ≠ 0)

def isEjectable : Bool := decide (entry.flagsB &&& 0x00000020 ≠ 0)

end VehicleSeatEntry

structure VehicleSeat where
  seatInfo : VehicleSeatEntry
  passenger : Option Nat
  deriving DecidableEq

namespace VehicleSeat

variable (seat : VehicleSeat)

def isUsable : Bool := seat.seatInfo.canEnterOrExit && seat.passenger.isNone

def accepts (byAura : Bool) : Bool :=
  seat.passenger.isNone &&
    if byAura then seat.seatInfo.isUsableByAura else seat.seatInfo.canEnterOrExit

end VehicleSeat

structure Vehicle where
  seats : OrdMap Int VehicleSeat
  usableSeatNum : Nat

namespace Vehicle

def addSeat (vehicle : Vehicle) (seat : Int × VehicleSeatEntry) : Vehicle where
  seats := vehicle.seats.assign seat.1 ⟨seat.2, none⟩
  usableSeatNum := vehicle.usableSeatNum + if seat.2.canEnterOrExit then 1 else 0

/-- The constructor; `m_seatID` has eight places, some of them without a seat. -/
def new (seatID : Fin 8 → Option VehicleSeatEntry) : Vehicle :=
  ((List.finRange 8).filterMap fun i => (seatID i).map fun entry => ((i.val : Int), entry)).foldl
    addSeat ⟨OrdMap.empty, 0⟩

variable (vehicle : Vehicle)

def getPassenger (seatId : Int) : Option Nat := (vehicle.seats.find seatId).bind (·.passenger)

def hasEmptySeat (seatId : Int) : Bool :=
  match vehicle.seats.find seatId with
  | none => false
  | some seat => seat.passenger.isNone

def searchOrder (seatId : Int) (next : Bool) : List (Int × VehicleSeat) :=
  let before := vehicle.seats.entries.takeWhile (·.1 < seatId)
  let fromSeat := vehicle.seats.entries.dropWhile (·.1 < seatId)
  if next then fromSeat ++ before
  else fromSeat.take 1 ++ before.reverse ++ (fromSeat.drop 1).reverse

def getNextEmptySeat (seatId : Int) (next byAura : Bool) : Int :=
  match vehicle.seats.find seatId with
  | none => -1
  | some _ =>
    match (vehicle.searchOrder seatId next).find? (·.2.accepts byAura) with
    | some (seatId, _) => seatId
    | none => -1

def setPassenger (seatId : Int) (seat : VehicleSeat) (passenger : Option Nat) (usableSeatNum : Nat) :
    Vehicle :=
  ⟨vehicle.seats.assign seatId { seat with passenger := passenger }, usableSeatNum⟩

/-- `passenger = passenger` stands where two passengers should be compared. -/
def getSeatForPassenger (passenger : Nat) : Option VehicleSeatEntry × Vehicle :=
  match vehicle.seats.entries with
  | [] => (none, vehicle)
  | (seatId, seat) :: _ =>
    (some seat.seatInfo, vehicle.setPassenger seatId seat (some passenger) vehicle.usableSeatNum)

def seatOf (passenger : Nat) : Option (Int × VehicleSeat) :=
  vehicle.seats.entries.find? fun entry => decide (entry.2.passenger = some passenger)

end Vehicle

/-- The vehicle kits by their units, the vehicle that each unit is on, `t_seat`, and the owners of
the vehicles that are minions -/
structure VehicleWorld where
  kits : OrdMap Nat Vehicle
  vehicle : Nat → Option Nat
  transSeat : Nat → Int
  minionOwner : Nat → Option Nat

structure Boarding where
  isAlive : Bool
  isPlayer : Bool
  refused : Bool
  isMounted : Bool
  inArena : Bool

namespace VehicleWorld

variable (world : VehicleWorld)

def setVehicle (unit : Nat) (base : Option Nat) : VehicleWorld :=
  { world with vehicle := Function.update world.vehicle unit base }

def setTransSeat (unit : Nat) (seatId : Int) : VehicleWorld :=
  { world with transSeat := Function.update world.transSeat unit seatId }

def setKit (base : Nat) (vehicle : Vehicle) : VehicleWorld :=
  { world with kits := world.kits.assign base vehicle }

def removePassenger (base unit : Nat) : Option VehicleWorld :=
  if world.vehicle unit = some base then do
    let vehicle ← world.kits.find base
    let (seatId, seat) ← vehicle.seatOf unit
    let usableSeatNum := vehicle.usableSeatNum + if seat.seatInfo.canEnterOrExit then 1 else 0
    return world.setKit base (vehicle.setPassenger seatId seat none usableSeatNum)
  else some world

/-- `ExitVehicle`; a minion is dismissed when its owner leaves it. -/
def exitWith (removeAllPassengers : VehicleWorld → Nat → Option VehicleWorld) (unit : Nat) :
    Option VehicleWorld :=
  match world.vehicle unit with
  | none => some world
  | some base => do
    let world ← world.removePassenger base unit
    let world := (world.setVehicle unit none).setTransSeat unit 0
    if world.minionOwner base = some unit then removeAllPassengers world base else some world

def clearKit (removeAllPassengers : VehicleWorld → Nat → Option VehicleWorld) (passenger : Nat) :
    Option VehicleWorld :=
  if (world.kits.find passenger).isSome then removeAllPassengers world passenger else some world

/-- One turn of the loop of `RemoveAllPassengers` -/
def clearSeat (removeAllPassengers : VehicleWorld → Nat → Option VehicleWorld) (base : Nat)
    (seatId : Int) : Option VehicleWorld := do
  let vehicle ← world.kits.find base
  match vehicle.getPassenger seatId with
  | none => some world
  | some passenger =>
    let world ← world.clearKit removeAllPassengers passenger
    let world ← world.exitWith removeAllPassengers passenger
    let vehicle ← world.kits.find base
    let seat ← vehicle.seats.find seatId
    if seat.passenger.isSome then
      some (world.setKit base (vehicle.setPassenger seatId seat none vehicle.usableSeatNum))
    else some world

/-- The calls are nested at most `depth` times. -/
def removeAllPassengers : Nat → VehicleWorld → Nat → Option VehicleWorld
  | 0, _, _ => none
  | depth + 1, world, base => do
    let vehicle ← world.kits.find base
    (vehicle.seats.entries.map Prod.fst).foldlM
      (fun world seatId => world.clearSeat (removeAllPassengers depth) base seatId) world

variable (depth : Nat)

def exitVehicle (unit : Nat) : Option VehicleWorld :=
  world.exitWith (removeAllPassengers depth) unit

def placePassenger (base unit : Nat) (seatId : Int) : Option VehicleWorld := do
  let vehicle ← world.kits.find base
  let seat ← vehicle.seats.find seatId
  if seat.passenger.isSome ∨ seat.seatInfo.canEnterOrExit = true ∧ vehicle.usableSeatNum = 0 then none
  else
    let usableSeatNum := vehicle.usableSeatNum - if seat.seatInfo.canEnterOrExit then 1 else 0
    return (world.setKit base (vehicle.setPassenger seatId seat (some unit) usableSeatNum)).setTransSeat
      unit seatId

def clearFor (seat : VehicleSeat) : Option VehicleWorld :=
  match seat.passenger with
  | some other => world.exitVehicle depth other
  | none => some world

def addPassenger (base unit : Nat) (seatId : Int) (byAura inArena : Bool) :
    Option (Bool × VehicleWorld) :=
  if world.vehicle unit ≠ some base ∨ inArena = true then some (false, world)
  else do
    let vehicle ← world.kits.find base
    if seatId < 0 then
      match vehicle.seats.entries.find? (·.2.accepts byAura) with
      | none => some (false, world)
      | some (seatId, _) => return (true, ← world.placePassenger base unit seatId)
    else
      match vehicle.seats.find seatId with
      | none => some (false, world)
      | some seat =>
        let world ← world.clearFor depth seat
        return (true, ← world.placePassenger base unit seatId)

def changeSeat (unit : Nat) (seatId : Int) (next byAura inArena : Bool) : Option VehicleWorld :=
  match world.vehicle unit with
  | none => some world
  | some base => do
    let vehicle ← world.kits.find base
    let seatId :=
      if seatId < 0 then vehicle.getNextEmptySeat (world.transSeat unit) next byAura
      else if seatId = world.transSeat unit ∨ vehicle.hasEmptySeat seatId = false then -1
      else seatId
    if seatId < 0 then some world
    else
      let world ← world.removePassenger base unit
      let (added, world) ← world.addPassenger depth base unit seatId byAura inArena
      if added then some world else none

def removeVehicleKit (unit : Nat) : Option VehicleWorld :=
  match world.kits.find unit with
  | none => some world
  | some _ => do
    let world ← removeAllPassengers depth world unit
    return { world with kits := world.kits.erase unit }

def unmount (unit : Nat) (boarding : Boarding) : Option VehicleWorld :=
  if boarding.isPlayer = true ∧ boarding.isMounted = true then world.removeVehicleKit depth unit
  else some world

/-- `EnterVehicle`. The third argument of `ChangeSeat` is meant, and `byAura` comes to the second. -/
def enterVehicle (unit base : Nat) (seatId : Int) (byAura : Bool) (boarding : Boarding) :
    Option VehicleWorld :=
  if boarding.isAlive = false ∨ unit = base then some world
  else if world.vehicle unit = some base then
    if 0 ≤ seatId ∧ seatId ≠ world.transSeat unit then
      world.changeSeat depth unit seatId byAura false boarding.inArena
    else some world
  else do
    let world ← world.exitVehicle depth unit
    if boarding.isPlayer = true ∧ boarding.refused = true then some world
    else
      let world ← world.unmount depth unit boarding
      if (world.vehicle unit).isSome then none
      else
        let (added, world) ←
          (world.setVehicle unit (some base)).addPassenger depth base unit seatId byAura
            (boarding.isPlayer && boarding.inArena)
        return if added then world else world.setVehicle unit none

def lookUpSeat (base unit : Nat) : Option (Option VehicleSeatEntry × VehicleWorld) := do
  let vehicle ← world.kits.find base
  let (seatInfo, vehicle) := vehicle.getSeatForPassenger unit
  return (seatInfo, world.setKit base vehicle)

end VehicleWorld

/-- The four requests of `HandleChangeSeatsOnControlledVehicle` -/
inductive SeatRequest
  | prev
  | next
  | change (guid : Nat) (movement : Int) (accessory : Nat) (seatId : Int)
  | switch (guid : Nat) (seatId : Int)

/-- The requests; what concerns the world around the units comes with them. -/
inductive VehicleAction
  | enter (unit base : Nat) (seatId : Int) (byAura : Bool) (boarding : Boarding)
  | changeSeat (unit : Nat) (seatId : Int) (next byAura inArena : Bool)
  | exit (unit : Nat)
  | removeAll (base : Nat)
  | move (unit : Nat) (seatId : Int)
  | changeSeatsOnControlledVehicle (player : Nat) (request : SeatRequest) (boarding : Boarding)
  | ejectPassenger (player unit : Nat)
  | requestVehicleExit (player : Nat)

namespace VehicleWorld

variable (depth : Nat) (world : VehicleWorld)

def enterEmptySeat (player base : Nat) (seatId : Int) (boarding : Boarding) : Option VehicleWorld :=
  match world.kits.find base with
  | none => some world
  | some vehicle =>
    if vehicle.hasEmptySeat seatId then world.enterVehicle depth player base seatId false boarding
    else some world

def handleChangeSeats (player : Nat) (request : SeatRequest) (boarding : Boarding) :
    Option VehicleWorld :=
  match world.vehicle player with
  | none => some world
  | some base => do
    let (seat, world) ← world.lookUpSeat base player
    let seat ← seat
    if seat.canSwitchFromSeat = false then some world
    else
      match request with
      | .prev => world.changeSeat depth player (-1) false false boarding.inArena
      | .next => world.changeSeat depth player (-1) true false boarding.inArena
      | .change guid movement accessory seatId =>
        let world := world.setTransSeat base movement
        if base ≠ guid then some world
        else if accessory = 0 then
          world.changeSeat depth player (-1) (decide (0 < seatId)) false boarding.inArena
        else world.enterEmptySeat depth player accessory seatId boarding
      | .switch guid seatId =>
        if base = guid then world.changeSeat depth player seatId true false boarding.inArena
        else world.enterEmptySeat depth player guid seatId boarding

def handleEjectPassenger (player unit : Nat) : Option VehicleWorld :=
  if (world.kits.find player).isSome ∧ world.vehicle unit = some player then do
    let (seat, world) ← world.lookUpSeat player unit
    let seat ← seat
    if seat.isEjectable then world.exitVehicle depth unit else some world
  else some world

def handleRequestVehicleExit (player : Nat) : Option VehicleWorld :=
  match world.vehicle player with
  | none => some world
  | some base => do
    let (seat, world) ← world.lookUpSeat base player
    match seat with
    | none => some world
    | some seat =>
      if seat.canEnterOrExit then world.exitVehicle depth player else some world

/-- `SMSG_*` aside, what a request makes of the world -/
def request : VehicleAction → Option VehicleWorld
  | .enter unit base seatId byAura boarding =>
    world.enterVehicle depth unit base seatId byAura boarding
  | .changeSeat unit seatId next byAura inArena =>
    world.changeSeat depth unit seatId next byAura inArena
  | .exit unit => world.exitVehicle depth unit
  | .removeAll base => removeAllPassengers depth world base
  | .move unit seatId => some (world.setTransSeat unit seatId)
  | .changeSeatsOnControlledVehicle player request boarding =>
    world.handleChangeSeats depth player request boarding
  | .ejectPassenger player unit => world.handleEjectPassenger depth player unit
  | .requestVehicleExit player => world.handleRequestVehicleExit depth player

def next (server : Option VehicleWorld) (action : VehicleAction) : Option VehicleWorld :=
  server.bind fun world => world.request depth action

def start (kits : List (Nat × (Fin 8 → Option VehicleSeatEntry))) (minionOwner : Nat → Option Nat) :
    VehicleWorld where
  kits := OrdMap.empty.assignAll (kits.map fun kit => (kit.1, Vehicle.new kit.2))
  vehicle _ := none
  transSeat _ := 0
  minionOwner := minionOwner

end VehicleWorld

end DarkCore.Vehicles
