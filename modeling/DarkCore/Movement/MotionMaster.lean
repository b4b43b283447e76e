/-
The movement generators of a unit (`MotionMaster.cpp`). A generator may call its
motion master back from `Update` and from `Finalize`, in the middle of any of the
operations; so the operations are cut into pieces at these calls, and what is left
to do waits on a stack.
-/

import Mathlib.Data.Option.Basic

namespace DarkCore.Movement

def maxMotionSlot : Nat := 3

inductive MovementSlot
  | idle
  | active
  | controlled
  deriving DecidableEq

def MovementSlot.index : MovementSlot → Nat
  | .idle => 0
  | .active => 1
  | .controlled => 2

/-- The types of the generators that are made; the static one is of the type for idleness. -/
inductive MovementGeneratorType
  | random
  | waypoint
  | confused
  | targeted
  | home
  | flight
  | point
  | fleeing
  | distract
  | assistance
  | assistanceDistract
  | timedFleeing
  | rotate
  deriving DecidableEq

/-- A pointer to a generator: to `si_idleMovement`, or to one that `new` has made. -/
inductive Generator
  | idle
  | made (serial : Nat) (type : MovementGeneratorType)
  deriving DecidableEq

/-- The fields of `MotionMaster`. `size` is one more than `i_top`, `update` and `reset` are the bits
of `m_cleanFlag`. -/
structure MotionMaster where
  impl : Nat → Option Generator
  needInit : Nat → Bool
  size : Nat
  expList : Option (List Generator)
  update : Bool
  reset : Bool

inductive Frame
  /-- `DirectDelete` while `Finalize` runs -/
  | finalizing (generator : Generator)
  /-- `UpdateMotion` while `Update` runs -/
  | updating (generator : Generator)
  /-- `Mutate` after the old generator of the slot is gone -/
  | installing (generator : Generator) (slot : MovementSlot)
  /-- `DirectClean`, at the head of its loop -/
  | cleaning (reset : Bool)
  /-- `DirectExpire` after the top has been deleted -/
  | expired (reset : Bool)
  /-- `DelayedExpire` after the top has been taken away -/
  | lowering
  /-- `MoveTargetedHome` after `Clear` -/
  | targetedHome
  /-- `UpdateMotion` after `Update`, at the head of the loop over the expire list -/
  | updated
  deriving DecidableEq

/-- A unit's motion master with the calls that are running, innermost first. `serial` counts the
generators that have been made, `deleted` are those that have been finalized and deleted. -/
structure Machine where
  isPlayer : Bool
  master : MotionMaster
  stack : List Frame
  serial : Nat
  deleted : List Generator

namespace MotionMaster

variable (master : MotionMaster)

def top : Option Generator := master.impl (master.size - 1)

/-- The loop of `removeEmptyTops` on the size; the last element is not removed. -/
def lowerTop (impl : Nat → Option Generator) : Nat → Nat
  | size + 2 => if impl (size + 1) = none then lowerTop impl (size + 1) else size + 2
  | size => size

def removeEmptyTops : MotionMaster :=
  { master with size := lowerTop master.impl master.size }

def clearSlot (index : Nat) : MotionMaster :=
  { master with impl := Function.update master.impl index none }

/-- `pop` and `removeEmptyTops` -/
def popTop : MotionMaster :=
  ({ master.clearSlot (master.size - 1) with size := master.size - 1 } :
    MotionMaster).removeEmptyTops

def delayedDelete (curr : Generator) : MotionMaster :=
  match curr with
  | .idle => master
  | curr => { master with expList := some (master.expList.getD [] ++ [curr]) }

/-- The loop of `DelayedClean`, which takes away one element at a time -/
def delayedClean : Nat → MotionMaster → MotionMaster
  | 0, master => master
  | rounds + 1, master =>
    if 1 < master.size then
      delayedClean rounds
        (match master.top with
        | none => master.popTop
        | some curr => master.popTop.delayedDelete curr)
    else master

/-- `InitTop` if the top needs it, else `Reset` of the top if that is wanted. `none` is for a call
through a null pointer. -/
def initOrResetTop (reset : Bool) : Option MotionMaster :=
  if master.needInit (master.size - 1) then
    if master.top = none then none
    else
      some { master with needInit := Function.update master.needInit (master.size - 1) false }
  else if reset && decide (master.top = none) then none
  else some master

/-- `while (!top()) --i_top`; `none` is for a read before the first slot. -/
def lowerToOccupied (impl : Nat → Option Generator) : Nat → Option Nat
  | 0 => none
  | size + 1 => if impl size = none then lowerToOccupied impl size else some (size + 1)

/-- The end of `Mutate` -/
def install (generator : Generator) (slot : MovementSlot) : MotionMaster :=
  let size := max master.size (slot.index + 1)
  { master with
    impl := Function.update master.impl slot.index (some generator)
    size := size
    needInit := Function.update master.needInit slot.index (decide (slot.index + 1 < size)) }

/-- The constructor and `Initialize` with a default generator -/
def init (default : Generator) : MotionMaster :=
  ({ impl := fun _ => none, needInit := fun _ => true, size := 0, expList := none
     update := false, reset := false } : MotionMaster).install default .idle

end MotionMaster

inductive Request
  | moveIdle (slot : MovementSlot)
  | moveRandom
  | moveTargetedHome
  | moveConfused
  /-- `allowed` is for the checks of the target and of the owner's flags. -/
  | moveChase (allowed : Bool)
  | moveFollow (allowed : Bool) (slot : MovementSlot)
  | movePoint
  | moveKnockbackFrom
  | moveJumpTo
  | moveJump
  | moveCharge
  | moveFall
  | moveSeekAssistance
  | moveSeekAssistanceDistract
  /-- `allowed` is for the checks of the enemy and of the owner's auras. -/
  | moveFleeing (allowed : Bool) (time : Nat)
  /-- `known` tells whether there is such a path. -/
  | moveTaxiFlight (known : Bool)
  | moveDistract
  | movePath (pathId : Nat)
  | moveRotate (time : Nat)
  | clear (reset : Bool)
  | movementExpired (reset : Bool)

/-- A call of `Mutate`; without a type it is the static generator that is to be installed. -/
structure Mutation where
  slot : MovementSlot
  type : Option MovementGeneratorType

namespace Machine

variable (machine : Machine)

def moveIdle (slot : MovementSlot) : Option Mutation :=
  if machine.master.impl slot.index = some .idle then none else some ⟨slot, none⟩

def moveRandom : Option Mutation :=
  if machine.isPlayer then none else some ⟨.idle, some .random⟩

def moveConfused : Option Mutation := some ⟨.controlled, some .confused⟩

def moveChase (allowed : Bool) : Option Mutation :=
  if allowed then some ⟨.active, some .targeted⟩ else none

def moveFollow (allowed : Bool) (slot : MovementSlot) : Option Mutation :=
  if allowed then some ⟨slot, some .targeted⟩ else none

def movePoint : Option Mutation := some ⟨.active, some .point⟩

def moveJump : Option Mutation := some ⟨.controlled, some .point⟩

def moveKnockbackFrom : Option Mutation := if machine.isPlayer then none else moveJump

def moveJumpTo : Option Mutation := if machine.isPlayer then none else moveJump

def moveCharge : Option Mutation :=
  match machine.master.impl MovementSlot.controlled.index with
  | none => some ⟨.controlled, some .point⟩
  | some (.made _ .distract) => some ⟨.controlled, some .point⟩
  | some _ => none

def moveFall : Option Mutation := machine.moveCharge

def moveSeekAssistance : Option Mutation :=
  if machine.isPlayer then none else some ⟨.active, some .assistance⟩

def moveSeekAssistanceDistract : Option Mutation :=
  if machine.isPlayer then none else some ⟨.active, some .assistanceDistract⟩

def moveFleeing (allowed : Bool) (time : Nat) : Option Mutation :=
  if !allowed then none
  else if !machine.isPlayer && time != 0 then some ⟨.controlled, some .timedFleeing⟩
  else some ⟨.controlled, some .fleeing⟩

def moveTaxiFlight (known : Bool) : Option Mutation :=
  if machine.isPlayer && known then some ⟨.controlled, some .flight⟩ else none

def moveDistract : Option Mutation :=
  if machine.master.impl MovementSlot.controlled.index = none then
    some ⟨.controlled, some .distract⟩
  else none

def movePath (pathId : Nat) : Option Mutation :=
  if pathId = 0 then none else some ⟨.idle, some .waypoint⟩

def moveRotate (time : Nat) : Option Mutation :=
  if time = 0 then none else some ⟨.active, some .rotate⟩

/-- The call of `Mutate` that a request makes at once, if it makes one -/
def mutation : Request → Option Mutation
  | .moveIdle slot => machine.moveIdle slot
  | .moveRandom => machine.moveRandom
  | .moveTargetedHome => none
  | .moveConfused => moveConfused
  | .moveChase allowed => moveChase allowed
  | .moveFollow allowed slot => moveFollow allowed slot
  | .movePoint => movePoint
  | .moveKnockbackFrom => machine.moveKnockbackFrom
  | .moveJumpTo => machine.moveJumpTo
  | .moveJump => moveJump
  | .moveCharge => machine.moveCharge
  | .moveFall => machine.moveFall
  | .moveSeekAssistance => machine.moveSeekAssistance
  | .moveSeekAssistanceDistract => machine.moveSeekAssistanceDistract
  | .moveFleeing allowed time => machine.moveFleeing allowed time
  | .moveTaxiFlight known => machine.moveTaxiFlight known
  | .moveDistract => machine.moveDistract
  | .movePath pathId => movePath pathId
  | .moveRotate time => moveRotate time
  | .clear _ => none
  | .movementExpired _ => none

def push (frame : Frame) : Machine := { machine with stack := frame :: machine.stack }

/-- `DirectDelete` up to the call of `Finalize` -/
def directDelete (curr : Generator) : Machine :=
  match curr with
  | .idle => machine
  | curr => machine.push (.finalizing curr)

/-- `Mutate` up to the call of `Finalize` -/
def mutate (generator : Generator) (slot : MovementSlot) : Machine :=
  match machine.master.impl slot.index with
  | none => machine.push (.installing generator slot)
  | some curr =>
    let wasAtTop : Bool := machine.master.size == slot.index + 1
    let master := (machine.master.clearSlot slot.index).removeEmptyTops
    if wasAtTop && machine.master.update then
      { machine with master := master.delayedDelete curr }.push (.installing generator slot)
    else
      ({ machine with master := master }.push (.installing generator slot)).directDelete curr

/-- `Mutate` with the static generator or a new one -/
def mutateTo (mutation : Mutation) : Machine :=
  match mutation.type with
  | none => machine.mutate .idle mutation.slot
  | some type =>
    { machine with serial := machine.serial + 1 }.mutate (.made machine.serial type) mutation.slot

def clear (reset : Bool) : Machine :=
  if machine.master.update then
    { machine with
      master :=
        MotionMaster.delayedClean machine.master.size { machine.master with reset := reset } }
  else machine.push (.cleaning reset)

/-- `DirectExpire` and `DelayedExpire` up to the call of `Finalize` -/
def movementExpired (reset : Bool) : Option Machine :=
  if machine.master.update then
    let machine := { machine with master := { machine.master with reset := reset } }
    if 1 < machine.master.size then
      match machine.master.top with
      | none => none
      | some curr =>
        some ({ machine with master := machine.master.popTop.delayedDelete curr }.push .lowering)
    else some (machine.push .lowering)
  else if 1 < machine.master.size then
    match machine.master.top with
    | none => none
    | some curr =>
      some (({ machine with master := machine.master.popTop }.push (.expired reset)).directDelete
        curr)
  else some (machine.push (.expired reset))

def request : Request → Option Machine
  | .clear reset => some (machine.clear reset)
  | .movementExpired reset => machine.movementExpired reset
  | .moveTargetedHome => some ((machine.push .targetedHome).clear false)
  | request =>
    match machine.mutation request with
    | none => some machine
    | some mutation => some (machine.mutateTo mutation)

/-- `UpdateMotion` up to the call of `Update`. The static generator's `Update` does nothing and
returns `true`. -/
def updateMotion : Option Machine :=
  if machine.master.size = 0 then none
  else
    match machine.master.top with
    | none => none
    | some .idle => some (machine.push .updated)
    | some curr =>
      some (({ machine with master := { machine.master with update := true } }.push
        .updated).push (.updating curr))

/-- What `UpdateMotion` does at the head of its loop. An entry of the expire list is dropped when
its turn comes. There is always an element, so `Initialize` is not called. -/
def flush : Option Machine :=
  match machine.master.expList with
  | none => some machine
  | some (mg :: rest) =>
    some (({ machine with master := { machine.master with expList := some rest } }.push
      .updated).directDelete mg)
  | some [] =>
    ({ machine.master with expList := none }.initOrResetTop machine.master.reset).map
      fun master : MotionMaster => { machine with master := { master with reset := false } }

/-- The innermost call goes on until it calls a generator or comes to the head of a loop. -/
def resume : Frame → Option Machine
  | .finalizing generator => some (machine.push (.finalizing generator))
  | .updating generator => some (machine.push (.updating generator))
  | .installing generator slot =>
    some { machine with master := machine.master.install generator slot }
  | .cleaning reset =>
    if 1 < machine.master.size then
      let popped := { machine with master := machine.master.popTop }.push (.cleaning reset)
      match machine.master.top with
      | none => some popped
      | some curr => some (popped.directDelete curr)
    else
      (machine.master.initOrResetTop reset).map fun master => { machine with master := master }
  | .expired reset =>
    (MotionMaster.lowerToOccupied machine.master.impl machine.master.size).bind fun size =>
      ({ machine.master with size := size }.initOrResetTop reset).map
        fun master => { machine with master := master }
  | .lowering =>
    (MotionMaster.lowerToOccupied machine.master.impl machine.master.size).map
      fun size => { machine with master := { machine.master with size := size } }
  | .targetedHome =>
    if machine.isPlayer then some machine
    else some (machine.mutateTo ⟨.active, some .home⟩)
  | .updated => machine.flush

end Machine

inductive Action
  /-- From outside, or from the generator that is running -/
  | request (request : Request)
  /-- `hindered` tells whether the owner is rooted or stunned. -/
  | updateMotion (hindered : Bool)
  | updateReturns (alive : Bool)
  | finalizeReturns
  /-- The motion master goes on with what it has to do. -/
  | proceed

namespace Machine

variable (machine : Machine)

def isOpen : Bool :=
  match machine.stack with
  | [] => true
  | .finalizing _ :: _ => true
  | .updating _ :: _ => true
  | _ => false

/-- A step of a run; `none` is for undefined behaviour. What cannot happen at a time changes
nothing. -/
def step : Action → Option Machine
  | .request request => if machine.isOpen then machine.request request else some machine
  | .updateMotion hindered =>
    if machine.stack = [] ∧ hindered = false then machine.updateMotion else some machine
  | .updateReturns alive =>
    match machine.stack with
    | .updating _ :: rest =>
      let machine :=
        { machine with master := { machine.master with update := false }, stack := rest }
      if alive then some machine else machine.movementExpired true
    | _ => some machine
  | .finalizeReturns =>
    match machine.stack with
    | .finalizing generator :: rest =>
      some { machine with stack := rest, deleted := machine.deleted ++ [generator] }
    | _ => some machine
  | .proceed =>
    match machine.stack with
    | [] => some machine
    | frame :: rest => { machine with stack := rest }.resume frame

def next (state : Option Machine) (action : Action) : Option Machine :=
  state.bind fun machine => machine.step action

def init (isPlayer : Bool) (type : Option MovementGeneratorType) : Machine :=
  match type with
  | none =>
    { isPlayer := isPlayer, master := MotionMaster.init .idle, stack := [], serial := 0
      deleted := [] }
  | some type =>
    { isPlayer := isPlayer, master := MotionMaster.init (.made 0 type), stack := [], serial := 1
      deleted := [] }

end Machine

end DarkCore.Movement
