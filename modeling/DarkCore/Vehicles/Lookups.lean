/-
The lookup of a passenger's seat, and runs of requests. The lookup answers, and
leaves the seats as they are, exactly for the passenger of the first seat; a run
whose requests look for nobody else keeps the seats in order.
-/

import DarkCore.Vehicles.Seats

namespace DarkCore.Vehicles

open DarkCore.Lib

namespace Vehicle

def Answers (vehicle : Vehicle) (unit : Nat) : Prop :=
  vehicle.getSeatForPassenger unit = ((vehicle.seatOf unit).map (·.2.seatInfo), vehicle)

def IsFirst (vehicle : Vehicle) (unit : Nat) : Prop :=
  ∀ first ∈ vehicle.seats.entries.head?, first.2.passenger = some unit

theorem answers_iff (vehicle : Vehicle) (unit : Nat) :
    vehicle.Answers unit ↔ vehicle.IsFirst unit := by
  unfold Answers IsFirst getSeatForPassenger seatOf
  split
  · simp_all
  · rename_i seatId seat rest isList
    have isSeat : vehicle.seats.find seatId = some seat := by
      simp [OrdMap.find_eq_some, isList]
    rw [isList]
    simp only [List.head?_cons, Option.mem_some_iff, forall_eq']
    constructor
    · intro answers
      have same := (Prod.mk.inj answers).2
      have found : (vehicle.setPassenger seatId seat (some unit) vehicle.usableSeatNum).seats.find
          seatId = some { seat with passenger := some unit } :=
        OrdMap.find_assign_some.mpr (Or.inl ⟨rfl, rfl⟩)
      rw [same, isSeat] at found
      exact congrArg VehicleSeat.passenger (Option.some.inj found)
    · intro passenger
      have unchanged : { seat with passenger := some unit } = seat := by rw [← passenger]
      simp only [setPassenger, unchanged, OrdMap.assign_self isSeat, passenger, decide_true,
        List.find?_cons_of_pos, Option.map_some]

end Vehicle

section Lookups

variable {world after : VehicleWorld} {depth base unit player : Nat} {seatId : Int}
  {boarding : Boarding}

theorem lookUpSeat_first (first : ∀ vehicle, world.kits.find base = some vehicle →
      vehicle.IsFirst unit) {seatInfo : Option VehicleSeatEntry}
    (result : world.lookUpSeat base unit = some (seatInfo, after)) : after = world := by
  unfold VehicleWorld.lookUpSeat at result
  simp only [Option.bind_eq_bind, Option.bind_eq_some_iff, Option.pure_def, Option.some.injEq,
    Prod.mk.injEq] at result
  obtain ⟨vehicle, found, _, rfl⟩ := result
  rw [(vehicle.answers_iff unit).mpr (first vehicle found)]
  unfold VehicleWorld.setKit
  rw [OrdMap.assign_self found]

namespace VehicleWorld

def looksUp (world : VehicleWorld) : VehicleAction → Option (Nat × Nat)
  | .changeSeatsOnControlledVehicle player _ _ => (world.vehicle player).map (·, player)
  | .ejectPassenger player unit =>
    if (world.kits.find player).isSome ∧ world.vehicle unit = some player then some (player, unit)
    else none
  | .requestVehicleExit player => (world.vehicle player).map (·, player)
  | _ => none

end VehicleWorld

def LooksUpFirst (world : VehicleWorld) (action : VehicleAction) : Prop :=
  ∀ base unit, world.looksUp action = some (base, unit) →
    ∀ vehicle, world.kits.find base = some vehicle → vehicle.IsFirst unit

section

variable (seated : Seated world)
include seated

theorem Seated.enterEmptySeat
    (result : world.enterEmptySeat depth player base seatId boarding = some after) :
    Seated after := by
  unfold VehicleWorld.enterEmptySeat at result
  split at result
  · simp_all
  · split at result
    · exact seated.enterVehicle result
    · cases result
      exact seated

theorem Seated.handleChangeSeats {request : SeatRequest}
    (first : LooksUpFirst world (.changeSeatsOnControlledVehicle player request boarding))
    (result : world.handleChangeSeats depth player request boarding = some after) :
    Seated after := by
  unfold VehicleWorld.handleChangeSeats at result
  split at result
  · simp_all
  · rename_i base on
    simp only [Option.bind_eq_bind, Option.bind_eq_some_iff, Prod.exists] at result
    obtain ⟨seatInfo, looked, isLooked, seat, _, result⟩ := result
    cases lookUpSeat_first (first base player (by simp [VehicleWorld.looksUp, on])) isLooked
    split at result
    · simp_all
    · cases request with
      | prev | next => exact seated.changeSeat result
      | change guid movement accessory seatId =>
        have moved : Seated (world.setTransSeat base movement) :=
          ⟨seated.own, seated.once, seated.usable⟩
        dsimp only at result
        split at result
        · simp_all
        · split at result
          · exact moved.changeSeat result
          · exact moved.enterEmptySeat result
      | switch guid seatId =>
        dsimp only at result
        split at result
        · exact seated.changeSeat result
        · exact seated.enterEmptySeat result

theorem Seated.handleEjectPassenger
    (first : LooksUpFirst world (.ejectPassenger player unit))
    (result : world.handleEjectPassenger depth player unit = some after) : Seated after := by
  unfold VehicleWorld.handleEjectPassenger at result
  split at result
  · rename_i onKit
    simp only [Option.bind_eq_bind, Option.bind_eq_some_iff, Prod.exists] at result
    obtain ⟨seatInfo, looked, isLooked, seat, _, result⟩ := result
    cases lookUpSeat_first (first player unit (if_pos onKit)) isLooked
    split at result
    · exact (seated.exitVehicle result).1
    · simp_all
  · simp_all

theorem Seated.handleRequestVehicleExit
    (first : LooksUpFirst world (.requestVehicleExit player))
    (result : world.handleRequestVehicleExit depth player = some after) : Seated after := by
  unfold VehicleWorld.handleRequestVehicleExit at result
  split at result
  · simp_all
  · rename_i base on
    simp only [Option.bind_eq_bind, Option.bind_eq_some_iff, Prod.exists] at result
    obtain ⟨seatInfo, looked, isLooked, result⟩ := result
    cases lookUpSeat_first (first base player (by simp [VehicleWorld.looksUp, on])) isLooked
    split at result
    · simp_all
    · split at result
      · exact (seated.exitVehicle result).1
      · cases result
        exact seated

theorem Seated.request {action : VehicleAction}
    (first : LooksUpFirst world action) (result : world.request depth action = some after) :
    Seated after := by
  cases action with
  | enter unit base seatId byAura boarding => exact seated.enterVehicle result
  | changeSeat unit seatId next byAura inArena => exact seated.changeSeat result
  | exit unit => exact (seated.exitVehicle result).1
  | removeAll base => exact (empties_removeAllPassengers depth world base after seated result).1
  | move unit seatId =>
    cases result
    exact ⟨seated.own, seated.once, seated.usable⟩
  | changeSeatsOnControlledVehicle player request boarding =>
    exact seated.handleChangeSeats first result
  | ejectPassenger player unit => exact seated.handleEjectPassenger first result
  | requestVehicleExit player => exact seated.handleRequestVehicleExit first result

end

end Lookups

structure IsNew (vehicle : Vehicle) : Prop where
  empty : ∀ entry ∈ vehicle.seats.entries, entry.2.passenger = none
  usable : vehicle.usableSeatNum = vehicle.seats.countWhere VehicleSeat.isUsable

theorem IsNew.addSeat {vehicle : Vehicle} (isNew : IsNew vehicle) {seat : Int × VehicleSeatEntry}
    (absent : vehicle.seats.find seat.1 = none) : IsNew (vehicle.addSeat seat) where
  empty entry member := by
    rcases OrdMap.mem_assign member with rfl | old
    · rfl
    · exact isNew.empty entry old
  usable := by
    unfold Vehicle.addSeat
    rw [OrdMap.countWhere_assign_new _ absent, isNew.usable]
    simp [VehicleSeat.isUsable]

theorem isNew_foldl {seats : List (Int × VehicleSeatEntry)} {vehicle : Vehicle}
    (isNew : IsNew vehicle) (distinct : (seats.map Prod.fst).Nodup)
    (absent : ∀ seat ∈ seats, vehicle.seats.find seat.1 = none) :
    IsNew (seats.foldl Vehicle.addSeat vehicle) := by
  induction seats generalizing vehicle with
  | nil => exact isNew
  | cons seat rest ih =>
    obtain ⟨unique, distinctRest⟩ := List.nodup_cons.mp distinct
    apply ih (isNew.addSeat (absent seat List.mem_cons_self)) distinctRest
    intro other member
    have different : other.1 ≠ seat.1 := fun same => unique (same ▸ List.mem_map_of_mem member)
    unfold Vehicle.addSeat
    rw [OrdMap.find_assign, Function.update_of_ne different]
    exact absent other (List.mem_cons_of_mem seat member)

theorem isNew_new (seatID : Fin 8 → Option VehicleSeatEntry) : IsNew (Vehicle.new seatID) := by
  unfold Vehicle.new
  apply isNew_foldl
  · exact ⟨List.forall_mem_nil _, rfl⟩
  · have keys : ((List.finRange 8).filterMap fun i =>
        (seatID i).map fun entry => ((i.val : Int), entry)).map Prod.fst =
        ((List.finRange 8).filter fun i => (seatID i).isSome).map fun i => (i.val : Int) := by
      generalize List.finRange 8 = places
      induction places with
      | nil => rfl
      | cons place rest ih => cases isSeat : seatID place <;> simp [isSeat, ih]
    rw [keys]
    refine ((List.nodup_finRange 8).filter _).map fun first second same => ?_
    exact Fin.ext (Int.ofNat.inj same)
  · intro seat _
    rfl

theorem seated_start (kits : List (Nat × (Fin 8 → Option VehicleSeatEntry)))
    (minionOwner : Nat → Option Nat) : Seated (VehicleWorld.start kits minionOwner) := by
  have isNew {base : Nat} {vehicle : Vehicle}
      (found : (VehicleWorld.start kits minionOwner).kits.find base = some vehicle) :
      IsNew vehicle := by
    rcases OrdMap.mem_assignAll (OrdMap.find_eq_some.mp found) with listed | old
    · obtain ⟨kit, _, same⟩ := List.mem_map.mp listed
      cases same
      exact isNew_new kit.2
    · cases old
  have empty (base : Nat) (seatId : Int) (unit : Nat) :
      (VehicleWorld.start kits minionOwner).passengerAt base seatId ≠ some unit := by
    intro isThere
    obtain ⟨vehicle, seat, found, isSeat, passenger⟩ := passengerAt_some.mp isThere
    have nobody := (isNew found).empty _ (OrdMap.find_eq_some.mp isSeat)
    rw [nobody] at passenger
    cases passenger
  refine ⟨?_, ?_, fun base vehicle found => (isNew found).usable⟩ <;> simp_all

def InOrder (server : Option VehicleWorld) : Prop :=
  ∀ world, server = some world → Seated world ∧
    ∀ base vehicle unit, world.kits.find base = some vehicle →
      (vehicle.Answers unit ↔ vehicle.IsFirst unit)

/-- In a run of requests that look up nobody but the passenger of a first seat, the seats are in
order in every state. -/
theorem seats_inOrder (depth : Nat) (kits : List (Nat × (Fin 8 → Option VehicleSeatEntry)))
    (minionOwner : Nat → Option Nat) (actions : List VehicleAction)
    (first : Along (VehicleWorld.next depth)
      (fun server action => ∀ world, server = some world → LooksUpFirst world action)
      (some (VehicleWorld.start kits minionOwner)) actions) :
    Always (VehicleWorld.next depth) InOrder (some (VehicleWorld.start kits minionOwner))
      actions := by
  apply always_of_step ?_ ?_ first
  · intro server action inOrder first after result
    obtain ⟨world, rfl, result⟩ := Option.bind_eq_some_iff.mp result
    exact ⟨(inOrder world rfl).1.request (first world rfl) result,
      fun _ vehicle unit _ => vehicle.answers_iff unit⟩
  · intro world isStart
    cases isStart
    exact ⟨seated_start kits minionOwner, fun _ vehicle unit _ => vehicle.answers_iff unit⟩

def twoSeats : List (Nat × (Fin 8 → Option VehicleSeatEntry)) :=
  [(1, fun i => if i < 2 then some ⟨0x06000000, 0x20⟩ else none)]

def willing : Boarding := ⟨true, true, false, false, false⟩

/-- The unit in the first seat may ask to leave. -/
theorem seats_inOrder_first :
    Always (VehicleWorld.next 2) InOrder (some (VehicleWorld.start twoSeats fun _ => none))
      [.enter 2 1 0 false willing, .requestVehicleExit 2] := by
  apply seats_inOrder 2 twoSeats fun _ => none
  refine ⟨fun world _ base unit looks => (by cases looks), ?_, trivial⟩
  intro world isWorld base unit looks vehicle found first isHead
  have looksUp : (VehicleWorld.next 2 (some (VehicleWorld.start twoSeats fun _ => none))
      (.enter 2 1 0 false willing)).bind (·.looksUp (.requestVehicleExit 2)) = some (1, 2) := by
    decide +kernel
  have head : ((VehicleWorld.next 2 (some (VehicleWorld.start twoSeats fun _ => none))
      (.enter 2 1 0 false willing)).bind (·.kits.find 1)).bind
        (·.seats.entries.head?.map (·.2.passenger)) = some (some 2) := by
    decide +kernel
  rw [isWorld, Option.bind_some] at looksUp head
  rw [looks] at looksUp
  cases looksUp
  rw [found, Option.bind_some, Option.mem_def.mp isHead] at head
  exact Option.some.inj head

def askedToLeave : List VehicleAction :=
  [.enter 2 1 0 false willing, .enter 3 1 1 false willing, .requestVehicleExit 3]

/-- The first seat is emptied, and the unit that has left still is in the second one. -/
theorem seats_twice : ∃ world, askedToLeave.foldl (VehicleWorld.next 2)
      (some (VehicleWorld.start twoSeats fun _ => none)) = some world ∧ ¬ Seated world := by
  have isUp : (askedToLeave.foldl (VehicleWorld.next 2)
      (some (VehicleWorld.start twoSeats fun _ => none))).isSome = true := by decide +kernel
  obtain ⟨world, isWorld⟩ := Option.isSome_iff_exists.mp isUp
  refine ⟨world, isWorld, fun seated => ?_⟩
  have stays : (askedToLeave.foldl (VehicleWorld.next 2)
      (some (VehicleWorld.start twoSeats fun _ => none))).bind (·.passengerAt 1 1) = some 3 := by
    decide +kernel
  have off : (askedToLeave.foldl (VehicleWorld.next 2)
      (some (VehicleWorld.start twoSeats fun _ => none))).bind (·.vehicle 3) = none := by
    decide +kernel
  rw [isWorld] at stays off
  have on := seated.own 1 1 3 stays
  rw [Option.bind_some, on] at off
  cases off

end DarkCore.Vehicles
