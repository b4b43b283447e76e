/-
Who sits where. Boarding, leaving and changing seats keep every unit in one seat of
its own vehicle and the number of the usable seats right; so do the requests that
look a seat up, as long as they look for the passenger of the first seat.
-/

import DarkCore.Vehicles.Vehicle

namespace DarkCore.Vehicles

open DarkCore.Lib

namespace VehicleWorld

def passengerAt (world : VehicleWorld) (base : Nat) (seatId : Int) : Option Nat :=
  (world.kits.find base).bind (·.getPassenger seatId)

end VehicleWorld

structure Seated (world : VehicleWorld) : Prop where
  own : ∀ base seatId unit, world.passengerAt base seatId = some unit →
    world.vehicle unit = some base
  once : ∀ base first second unit, world.passengerAt base first = some unit →
    world.passengerAt base second = some unit → first = second
  usable : ∀ base vehicle, world.kits.find base = some vehicle →
    vehicle.usableSeatNum = vehicle.seats.countWhere VehicleSeat.isUsable

structure Emptied (before after : VehicleWorld) : Prop where
  passenger : ∀ base seatId unit, after.passengerAt base seatId = some unit →
    before.passengerAt base seatId = some unit
  others : ∀ unit, (∀ base seatId, before.passengerAt base seatId ≠ some unit) →
    after.vehicle unit = before.vehicle unit

theorem emptied_refl (world : VehicleWorld) : Emptied world world :=
  ⟨fun _ _ _ => id, fun _ _ => rfl⟩

theorem Emptied.trans {first second third : VehicleWorld} (one : Emptied first second)
    (two : Emptied second third) : Emptied first third where
  passenger base seatId unit seat := one.passenger base seatId unit (two.passenger base seatId unit seat)
  others unit unseated := by
    rw [two.others unit fun base seatId seat =>
      unseated base seatId (one.passenger base seatId unit seat)]
    exact one.others unit unseated

section Seats

variable {world after : VehicleWorld} {base unit : Nat} {vehicle : Vehicle} {seatId : Int}
  {seat : VehicleSeat}

theorem passengerAt_some :
    world.passengerAt base seatId = some unit ↔ ∃ vehicle seat, world.kits.find base = some vehicle ∧
      vehicle.seats.find seatId = some seat ∧ seat.passenger = some unit := by
  simp only [VehicleWorld.passengerAt, Vehicle.getPassenger, Option.bind_eq_some_iff]
  constructor <;> simp

theorem passengerAt_setPassenger (found : world.kits.find base = some vehicle)
    (passenger : Option Nat) (usableSeatNum : Nat) (other : Nat) (otherSeat : Int) :
    (world.setKit base (vehicle.setPassenger seatId seat passenger usableSeatNum)).passengerAt other
        otherSeat =
      if other = base ∧ otherSeat = seatId then passenger else world.passengerAt other otherSeat := by
  unfold VehicleWorld.passengerAt VehicleWorld.setKit
  rw [OrdMap.find_assign]
  by_cases sameBase : other = base
  · subst sameBase
    rw [Function.update_self, found]
    unfold Vehicle.setPassenger Vehicle.getPassenger
    simp only [Option.bind_some, OrdMap.find_assign, true_and]
    by_cases sameSeat : otherSeat = seatId <;> simp [sameSeat]
  · rw [Function.update_of_ne sameBase, if_neg fun both => sameBase both.1]

theorem isUsable_of_passenger (passenger : seat.passenger = some unit) : seat.isUsable = false := by
  simp [VehicleSeat.isUsable, passenger]

theorem isUsable_of_none (seat : VehicleSeat) :
    VehicleSeat.isUsable { seat with passenger := none } = seat.seatInfo.canEnterOrExit := by
  simp [VehicleSeat.isUsable]

theorem Seated.vacate (seated : Seated world) (found : world.kits.find base = some vehicle)
    (isSeat : vehicle.seats.find seatId = some seat) (passenger : seat.passenger = some unit) :
    Seated (world.setKit base (vehicle.setPassenger seatId seat none
      (vehicle.usableSeatNum + if seat.seatInfo.canEnterOrExit then 1 else 0))) := by
  have before {other : Nat} {otherSeat : Int} {third : Nat}
      (isThere : (world.setKit base (vehicle.setPassenger seatId seat none
        (vehicle.usableSeatNum + if seat.seatInfo.canEnterOrExit then 1 else 0))).passengerAt other
          otherSeat = some third) : world.passengerAt other otherSeat = some third := by
    rw [passengerAt_setPassenger found] at isThere
    split at isThere
    · cases isThere
    · exact isThere
  refine ⟨?_, ?_, ?_⟩
  · intro other otherSeat third isThere
    exact seated.own other otherSeat third (before isThere)
  · intro other first second third isFirst isSecond
    exact seated.once other first second third (before isFirst) (before isSecond)
  · intro other changed isChanged
    rcases OrdMap.find_assign_some.mp isChanged with ⟨_, rfl⟩ | ⟨_, elsewhere⟩
    · have counted : (vehicle.seats.assign seatId { seat with passenger := none }).countWhere
          VehicleSeat.isUsable + OrdMap.weight VehicleSeat.isUsable (vehicle.seats.find seatId) =
          vehicle.seats.countWhere VehicleSeat.isUsable +
            OrdMap.weight VehicleSeat.isUsable (some { seat with passenger := none }) :=
        OrdMap.countWhere_assign VehicleSeat.isUsable
      have usable := seated.usable base vehicle found
      rw [isSeat, OrdMap.weight_some, OrdMap.weight_some, isUsable_of_passenger passenger,
        isUsable_of_none seat] at counted
      simp only [Vehicle.setPassenger, Bool.false_eq_true, if_false] at counted ⊢
      omega
    · exact seated.usable other changed elsewhere

theorem Seated.occupy (seated : Seated world) (found : world.kits.find base = some vehicle)
    (isSeat : vehicle.seats.find seatId = some seat) (empty : seat.passenger = none)
    (unseated : ∀ other otherSeat, world.passengerAt other otherSeat ≠ some unit)
    (on : world.vehicle unit = some base) :
    Seated (world.setKit base (vehicle.setPassenger seatId seat (some unit)
      (vehicle.usableSeatNum - if seat.seatInfo.canEnterOrExit then 1 else 0))) := by
  have same : VehicleSeat.isUsable seat = seat.seatInfo.canEnterOrExit := by
    simp [VehicleSeat.isUsable, empty]
  refine ⟨?_, ?_, ?_⟩
  · intro other otherSeat third isThere
    rw [passengerAt_setPassenger found] at isThere
    split at isThere
    · rename_i here
      cases isThere
      exact here.1 ▸ on
    · exact seated.own other otherSeat third isThere
  · intro other first second third isFirst isSecond
    rw [passengerAt_setPassenger found] at isFirst isSecond
    split at isFirst
    · simp_all
    · split at isSecond
      · cases isSecond
        exact absurd isFirst (unseated other first)
      · exact seated.once other first second third isFirst isSecond
  · intro other changed isChanged
    rcases OrdMap.find_assign_some.mp isChanged with ⟨_, rfl⟩ | ⟨_, elsewhere⟩
    · have counted : (vehicle.seats.assign seatId { seat with passenger := some unit }).countWhere
          VehicleSeat.isUsable + OrdMap.weight VehicleSeat.isUsable (vehicle.seats.find seatId) =
          vehicle.seats.countWhere VehicleSeat.isUsable +
            OrdMap.weight VehicleSeat.isUsable (some { seat with passenger := some unit }) :=
        OrdMap.countWhere_assign VehicleSeat.isUsable
      have usable := seated.usable base vehicle found
      have taken : VehicleSeat.isUsable { seat with passenger := some unit } = false :=
        isUsable_of_passenger rfl
      rw [isSeat, OrdMap.weight_some, OrdMap.weight_some, taken, same] at counted
      simp only [Vehicle.setPassenger, Bool.false_eq_true, if_false] at counted ⊢
      omega
    · exact seated.usable other changed elsewhere

theorem seatOf_some (isSeat : vehicle.seatOf unit = some (seatId, seat)) :
    vehicle.seats.find seatId = some seat ∧ seat.passenger = some unit := by
  constructor
  · exact OrdMap.find_eq_some.mpr (List.mem_of_find?_eq_some isSeat)
  · have passes := List.find?_some isSeat
    exact of_decide_eq_true passes

theorem Seated.removePassenger (seated : Seated world) (on : world.vehicle unit = some base)
    (result : world.removePassenger base unit = some after) :
    Seated after ∧ after.vehicle = world.vehicle ∧
      (∀ other otherSeat third, after.passengerAt other otherSeat = some third ↔
        world.passengerAt other otherSeat = some third ∧ third ≠ unit) ∧
      ∃ seatId, world.passengerAt base seatId = some unit := by
  unfold VehicleWorld.removePassenger at result
  rw [if_pos on] at result
  simp only [Option.bind_eq_bind, Option.bind_eq_some_iff, Option.pure_def, Option.some.injEq,
    Prod.exists] at result
  obtain ⟨vehicle, found, seatId, seat, isOf, rfl⟩ := result
  obtain ⟨isSeat, passenger⟩ := seatOf_some isOf
  have here : world.passengerAt base seatId = some unit := passengerAt_some.mpr
    ⟨vehicle, seat, found, isSeat, passenger⟩
  refine ⟨seated.vacate found isSeat passenger, rfl, ?_, seatId, here⟩
  intro other otherSeat third
  rw [passengerAt_setPassenger found]
  split
  · simp_all
  · rename_i elsewhere
    refine (and_iff_left_of_imp fun isThere => ?_).symm
    rintro rfl
    have sameBase := seated.own other otherSeat third isThere
    rw [on] at sameBase
    cases sameBase
    exact elsewhere ⟨rfl, seated.once base otherSeat seatId third isThere here⟩

def Empties (removeAllPassengers : VehicleWorld → Nat → Option VehicleWorld) : Prop :=
  ∀ world base after, Seated world → removeAllPassengers world base = some after →
    Seated after ∧ Emptied world after

variable {removeAll : VehicleWorld → Nat → Option VehicleWorld}

section

variable (seated : Seated world)
include seated

theorem Seated.exitWith (empties : Empties removeAll)
    (result : world.exitWith removeAll unit = some after) :
    Seated after ∧ Emptied world after ∧ after.vehicle unit = none := by
  unfold VehicleWorld.exitWith at result
  cases on : world.vehicle unit with
  | none =>
    rw [on] at result
    cases result
    exact ⟨seated, emptied_refl world, on⟩
  | some base =>
    rw [on] at result
    simp only [Option.bind_eq_bind, Option.bind_eq_some_iff] at result
    obtain ⟨removed, isRemoved, result⟩ := result
    obtain ⟨seatedNow, sameVehicle, left, seatId, here⟩ := seated.removePassenger on isRemoved
    -- the unit is in no seat any more, and so it can be taken off the vehicle
    have seatedOff : Seated ((removed.setVehicle unit none).setTransSeat unit 0) := by
      refine ⟨?_, seatedNow.once, seatedNow.usable⟩
      intro other otherSeat third isThere
      have different := ((left other otherSeat third).mp isThere).2
      rw [show ((removed.setVehicle unit none).setTransSeat unit 0).vehicle =
        Function.update removed.vehicle unit none from rfl, Function.update_of_ne different]
      exact seatedNow.own other otherSeat third isThere
    have off : ((removed.setVehicle unit none).setTransSeat unit 0).vehicle unit = none :=
      Function.update_self ..
    have emptiedOff : Emptied world ((removed.setVehicle unit none).setTransSeat unit 0) := by
      refine ⟨fun other otherSeat third isThere => ((left other otherSeat third).mp isThere).1, ?_⟩
      intro third unseated
      have different : third ≠ unit := fun same => unseated base seatId (same ▸ here)
      rw [show ((removed.setVehicle unit none).setTransSeat unit 0).vehicle =
        Function.update removed.vehicle unit none from rfl, Function.update_of_ne different,
        sameVehicle]
    split at result
    · obtain ⟨seatedAfter, emptied⟩ := empties _ base after seatedOff result
      refine ⟨seatedAfter, emptiedOff.trans emptied, ?_⟩
      rw [emptied.others unit fun other otherSeat isThere =>
        ((left other otherSeat unit).mp isThere).2 rfl]
      exact off
    · simp_all

theorem Seated.unseated (off : world.vehicle unit = none) (other : Nat)
    (otherSeat : Int) : world.passengerAt other otherSeat ≠ some unit := by
  intro isThere
  rw [seated.own other otherSeat unit isThere] at off
  cases off

theorem Seated.clearSeat (empties : Empties removeAll)
    (result : world.clearSeat removeAll base seatId = some after) :
    Seated after ∧ Emptied world after := by
  unfold VehicleWorld.clearSeat at result
  simp only [Option.bind_eq_bind, Option.bind_eq_some_iff] at result
  obtain ⟨vehicle, found, result⟩ := result
  split at result
  · cases result
    exact ⟨seated, emptied_refl world⟩
  · rename_i passenger isPassenger
    have here : world.passengerAt base seatId = some passenger := by
      rw [VehicleWorld.passengerAt, found]
      exact isPassenger
    simp only [Option.bind_eq_some_iff] at result
    obtain ⟨first, isFirst, second, isSecond, later, foundLater, seat, isSeat, result⟩ := result
    have one : Seated first ∧ Emptied world first := by
      unfold VehicleWorld.clearKit at isFirst
      split at isFirst
      · exact empties world passenger first seated isFirst
      · cases isFirst
        exact ⟨seated, emptied_refl world⟩
    obtain ⟨seatedSecond, emptiedSecond, off⟩ := one.1.exitWith empties isSecond
    have emptied := one.2.trans emptiedSecond
    -- the passenger has left the seat, and nobody else has taken it
    have isEmpty : seat.passenger = none := by
      by_contra occupied
      obtain ⟨other, isOther⟩ := Option.ne_none_iff_exists'.mp occupied
      have there : second.passengerAt base seatId = some other :=
        passengerAt_some.mpr ⟨later, seat, foundLater, isSeat, isOther⟩
      have before := emptied.passenger base seatId other there
      rw [here] at before
      cases before
      exact seatedSecond.unseated off base seatId there
    rw [isEmpty] at result
    cases result
    exact ⟨seatedSecond, emptied⟩

theorem Seated.clearSeats (empties : Empties removeAll)
    {seatIds : List Int}
    (result : seatIds.foldlM (fun world seatId => world.clearSeat removeAll base seatId) world =
      some after) : Seated after ∧ Emptied world after := by
  induction seatIds generalizing world with
  | nil =>
    cases result
    exact ⟨seated, emptied_refl _⟩
  | cons seatId rest ih =>
    rw [List.foldlM_cons, Option.bind_eq_bind, Option.bind_eq_some_iff] at result
    obtain ⟨cleared, isCleared, result⟩ := result
    obtain ⟨seatedCleared, emptied⟩ := seated.clearSeat empties isCleared
    obtain ⟨seatedAfter, emptiedAfter⟩ := ih seatedCleared result
    exact ⟨seatedAfter, emptied.trans emptiedAfter⟩

end

theorem empties_removeAllPassengers (depth : Nat) :
    Empties (VehicleWorld.removeAllPassengers depth) := by
  induction depth with
  | zero =>
    intro world base after seated result
    cases result
  | succ depth ih =>
    intro world base after seated result
    unfold VehicleWorld.removeAllPassengers at result
    simp only [Option.bind_eq_bind, Option.bind_eq_some_iff] at result
    obtain ⟨vehicle, found, result⟩ := result
    exact seated.clearSeats ih result

variable {depth : Nat}

theorem Seated.exitVehicle (seated : Seated world)
    (result : world.exitVehicle depth unit = some after) :
    Seated after ∧ Emptied world after ∧ after.vehicle unit = none :=
  seated.exitWith (empties_removeAllPassengers depth) result

theorem Seated.placePassenger (seated : Seated world)
    (unseated : ∀ other otherSeat, world.passengerAt other otherSeat ≠ some unit)
    (on : world.vehicle unit = some base)
    (result : world.placePassenger base unit seatId = some after) : Seated after := by
  unfold VehicleWorld.placePassenger at result
  simp only [Option.bind_eq_bind, Option.bind_eq_some_iff] at result
  obtain ⟨vehicle, found, seat, isSeat, result⟩ := result
  split at result
  · cases result
  · rename_i free
    rw [not_or, Bool.not_eq_true, Option.isSome_eq_false_iff, Option.isNone_iff_eq_none] at free
    cases result
    have occupied := seated.occupy found isSeat free.1 unseated on
    exact ⟨occupied.own, occupied.once, occupied.usable⟩

theorem Seated.addPassenger (seated : Seated world)
    (unseated : ∀ other otherSeat, world.passengerAt other otherSeat ≠ some unit)
    {byAura inArena added : Bool}
    (result : world.addPassenger depth base unit seatId byAura inArena = some (added, after)) :
    Seated after ∧ (added = false → after = world) := by
  unfold VehicleWorld.addPassenger at result
  split at result
  · simp_all
  · rename_i on
    rw [not_or, ne_eq, not_not] at on
    simp only [Option.bind_eq_bind, Option.bind_eq_some_iff] at result
    obtain ⟨vehicle, found, result⟩ := result
    split at result
    · split at result
      · simp_all
      · simp only [Option.bind_eq_some_iff, Option.pure_def, Option.some.injEq, Prod.mk.injEq] at result
        obtain ⟨placed, isPlaced, rfl, rfl⟩ := result
        exact ⟨seated.placePassenger unseated on.1 isPlaced, fun impossible => by cases impossible⟩
    · split at result
      · simp_all
      · simp only [Option.bind_eq_some_iff, Option.pure_def, Option.some.injEq, Prod.mk.injEq] at result
        obtain ⟨cleared, isCleared, placed, isPlaced, rfl, rfl⟩ := result
        have one : Seated cleared ∧ Emptied world cleared := by
          unfold VehicleWorld.clearFor at isCleared
          split at isCleared
          · obtain ⟨seatedCleared, emptied, _⟩ := seated.exitVehicle isCleared
            exact ⟨seatedCleared, emptied⟩
          · cases isCleared
            exact ⟨seated, emptied_refl world⟩
        refine ⟨one.1.placePassenger ?_ ?_ isPlaced, fun impossible => by cases impossible⟩
        · intro other otherSeat isThere
          exact unseated other otherSeat (one.2.passenger other otherSeat unit isThere)
        · rw [one.2.others unit unseated]
          exact on.1

theorem Seated.changeSeat (seated : Seated world) {next byAura inArena : Bool}
    (result : world.changeSeat depth unit seatId next byAura inArena = some after) :
    Seated after := by
  unfold VehicleWorld.changeSeat at result
  split at result
  · simp_all
  · rename_i base on
    simp only [Option.bind_eq_bind, Option.bind_eq_some_iff] at result
    obtain ⟨vehicle, found, result⟩ := result
    generalize (if seatId < 0 then vehicle.getNextEmptySeat (world.transSeat unit) next byAura
      else if seatId = world.transSeat unit ∨ vehicle.hasEmptySeat seatId = false then -1
      else seatId) = target at result
    split at result
    · simp_all
    · simp only [Option.bind_eq_some_iff, Prod.exists] at result
      obtain ⟨removed, isRemoved, added, placed, isPlaced, result⟩ := result
      obtain ⟨seatedNow, _, left, _⟩ := seated.removePassenger on isRemoved
      obtain ⟨seatedAfter, _⟩ := seatedNow.addPassenger
        (fun other otherSeat isThere => ((left other otherSeat unit).mp isThere).2 rfl) isPlaced
      split at result
      · simp_all
      · cases result

theorem Seated.removeVehicleKit (seated : Seated world)
    (result : world.removeVehicleKit depth unit = some after) : Seated after := by
  unfold VehicleWorld.removeVehicleKit at result
  split at result
  · simp_all
  · simp only [Option.bind_eq_bind, Option.bind_eq_some_iff, Option.pure_def, Option.some.injEq]
      at result
    obtain ⟨cleared, isCleared, rfl⟩ := result
    obtain ⟨seatedNow, _⟩ := empties_removeAllPassengers depth world unit cleared seated isCleared
    have stays {base : Nat} {vehicle : Vehicle}
        (found : (cleared.kits.erase unit).find base = some vehicle) :
        cleared.kits.find base = some vehicle := by
      rw [OrdMap.find_erase, Function.update_apply] at found
      split at found
      · cases found
      · exact found
    have before {base : Nat} {seatId : Int} {third : Nat}
        (isThere : VehicleWorld.passengerAt { cleared with kits := cleared.kits.erase unit } base
          seatId = some third) : cleared.passengerAt base seatId = some third := by
      obtain ⟨vehicle, seat, found, isSeat, passenger⟩ := passengerAt_some.mp isThere
      exact passengerAt_some.mpr ⟨vehicle, seat, stays found, isSeat, passenger⟩
    refine ⟨?_, ?_, fun base vehicle found => seatedNow.usable base vehicle (stays found)⟩
    · intro base seatId third isThere
      exact seatedNow.own base seatId third (before isThere)
    · intro base first second third isFirst isSecond
      exact seatedNow.once base first second third (before isFirst) (before isSecond)

theorem Seated.setVehicle (seated : Seated world)
    (unseated : ∀ other otherSeat, world.passengerAt other otherSeat ≠ some unit)
    (vehicle : Option Nat) : Seated (world.setVehicle unit vehicle) := by
  refine ⟨?_, seated.once, seated.usable⟩
  intro other otherSeat third isThere
  have different : third ≠ unit := by
    rintro rfl
    exact unseated other otherSeat isThere
  rw [show (world.setVehicle unit vehicle).vehicle = Function.update world.vehicle unit vehicle
    from rfl, Function.update_of_ne different]
  exact seated.own other otherSeat third isThere

theorem Seated.enterVehicle (seated : Seated world) {byAura : Bool} {boarding : Boarding}
    (result : world.enterVehicle depth unit base seatId byAura boarding = some after) :
    Seated after := by
  unfold VehicleWorld.enterVehicle at result
  split at result
  · simp_all
  · split at result
    · split at result
      · exact seated.changeSeat result
      · cases result
        exact seated
    · simp only [Option.bind_eq_bind, Option.bind_eq_some_iff] at result
      obtain ⟨left, isLeft, result⟩ := result
      obtain ⟨seatedLeft, _, _⟩ := seated.exitVehicle isLeft
      split at result
      · simp_all
      · simp only [Option.bind_eq_some_iff] at result
        obtain ⟨unmounted, isUnmounted, result⟩ := result
        have seatedNow : Seated unmounted := by
          unfold VehicleWorld.unmount at isUnmounted
          split at isUnmounted
          · exact seatedLeft.removeVehicleKit isUnmounted
          · simp_all
        split at result
        · cases result
        · rename_i off
          rw [Bool.not_eq_true, Option.isSome_eq_false_iff, Option.isNone_iff_eq_none] at off
          simp only [Option.bind_eq_some_iff, Option.pure_def, Option.some.injEq, Prod.exists]
            at result
          obtain ⟨added, boarded, isBoarded, rfl⟩ := result
          have unseated := seatedNow.unseated off
          obtain ⟨seatedAfter, refused⟩ :=
            (seatedNow.setVehicle unseated (some base)).addPassenger unseated isBoarded
          cases added with
          | true => exact seatedAfter
          | false =>
            rw [refused rfl]
            exact (seatedNow.setVehicle unseated (some base)).setVehicle unseated none

end Seats

end DarkCore.Vehicles
