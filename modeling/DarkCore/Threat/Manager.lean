/-
The threat manager of a creature (`ThreatManager.cpp`, `ThreatManager.h`) and
the calls of its references by `HostileRefManager`.

A reference lives in one of two lists, for units the creature can attack and
for those it cannot. What the creature sees of a unit at the time of a call is
an argument of the call. Threat is a rational number. A reference is deleted
as soon as its unit has cut the link, so the links of listed references are
intact. Packets and the timer of client updates are left out.
-/

import Mathlib.Algebra.Order.Field.Rat
import Mathlib.Data.List.Sort

namespace DarkCore.Threat

structure HostileReference where
  unitGuid : Nat
  threat : ℚ
  tempThreatModifier : ℚ
  online : Bool
  accessible : Bool

/-- References are numbered in the order in which they are made. -/
structure ThreatManager where
  owner : Nat
  refs : Nat → HostileReference
  nextRef : Nat
  /-- `iThreatContainer` -/
  threatList : List Nat
  /-- `iThreatOfflineContainer` -/
  offlineThreatList : List Nat
  currentVictim : Option Nat
  dirty : Bool

/-- The units as a call finds them. `charmersOrOwners` lists the charmer or owner of a unit, then
his charmer or owner, and so on. -/
structure World where
  isAlive : Nat → Bool
  isPlayer : Nat → Bool
  isGameMaster : Nat → Bool
  isInFlight : Nat → Bool
  isInAccessiblePlace : Nat → Bool
  isWithinCombatRange : Nat → Bool
  charmersOrOwners : Nat → List Nat
  nested : ∀ unit owner above, charmersOrOwners unit = owner :: above →
    charmersOrOwners owner = above
  isImmunedToDamage : Nat → Bool
  hasBreakableAura : Nat → Bool
  canBeAttacked : Nat → Bool
  isWithinMeleeRange : Nat → Bool

namespace ThreatManager

/-- `ThreatManager::ThreatManager` -/
def initial (owner : Nat) : ThreatManager where
  owner := owner
  refs := fun _ => ⟨0, 0, 0, true, true⟩
  nextRef := 0
  threatList := []
  offlineThreatList := []
  currentVictim := none
  dirty := false

def unitOf (manager : ThreatManager) (ref : Nat) : Nat := (manager.refs ref).unitGuid

def threatOf (manager : ThreatManager) (ref : Nat) : ℚ := (manager.refs ref).threat

def setRef (manager : ThreatManager) (ref : Nat) (reference : HostileReference) : ThreatManager :=
  { manager with refs := Function.update manager.refs ref reference }

/-- `ThreatContainer::getReferenceByTarget` -/
def findIn (manager : ThreatManager) (list : List Nat) (unit : Nat) : Option Nat :=
  list.find? fun ref => manager.unitOf ref == unit

def getReference (manager : ThreatManager) (unit : Nat) : Option Nat :=
  (manager.findIn manager.threatList unit).or (manager.findIn manager.offlineThreatList unit)

/-- `UEV_THREAT_REF_THREAT_CHANGE` -/
def onThreatChange (ref : Nat) (value : ℚ) (manager : ThreatManager) : ThreatManager :=
  if (manager.currentVictim = some ref ∧ value < 0) ∨
      (manager.currentVictim ≠ some ref ∧ 0 < value) then
    { manager with dirty := true }
  else manager

/-- `UEV_THREAT_REF_ONLINE_STATUS` -/
def onOnlineStatus (ref : Nat) (manager : ThreatManager) : ThreatManager :=
  if (manager.refs ref).online then
    let marked : Bool :=
      match manager.currentVictim with
      | some victim => decide (11 / 10 * manager.threatOf victim < manager.threatOf ref)
      | none => false
    { manager with
      dirty := manager.dirty || marked
      threatList := manager.threatList ++ [ref]
      offlineThreatList := manager.offlineThreatList.filter (· ≠ ref) }
  else
    let lost : Bool := decide (manager.currentVictim = some ref)
    { manager with
      currentVictim := if lost then none else manager.currentVictim
      dirty := manager.dirty || lost
      threatList := manager.threatList.filter (· ≠ ref)
      offlineThreatList := manager.offlineThreatList ++ [ref] }

/-- `UEV_THREAT_REF_REMOVE_FROM_LIST` -/
def onRemoveFromList (ref : Nat) (manager : ThreatManager) : ThreatManager :=
  let lost : Bool := decide (manager.currentVictim = some ref)
  let left : ThreatManager :=
    { manager with
      currentVictim := if lost then none else manager.currentVictim
      dirty := manager.dirty || lost }
  if (manager.refs ref).online then
    { left with threatList := manager.threatList.filter (· ≠ ref) }
  else { left with offlineThreatList := manager.offlineThreatList.filter (· ≠ ref) }

/-- Nothing is done at `UEV_THREAT_REF_ASSECCIBLE_STATUS`. -/
def setAccessibleState (ref : Nat) (accessible : Bool) (manager : ThreatManager) : ThreatManager :=
  manager.setRef ref { manager.refs ref with accessible := accessible }

def setOnlineOfflineState (ref : Nat) (online : Bool) (manager : ThreatManager) : ThreatManager :=
  if (manager.refs ref).online = online then manager
  else
    (manager.setRef ref { manager.refs ref with
        online := online
        accessible := online && (manager.refs ref).accessible }).onOnlineStatus ref

def updateOnlineStatus (world : World) (ref : Nat) (manager : ThreatManager) : ThreatManager :=
  let unit := manager.unitOf ref
  let checked := !world.isPlayer unit || !world.isGameMaster unit || !world.isInFlight unit
  let accessible := checked && world.isInAccessiblePlace unit
  let online := accessible || checked && world.isWithinCombatRange unit
  (manager.setAccessibleState ref accessible).setOnlineOfflineState ref online

/-- `HostileReference::removeReference`, after which the unit deletes the reference -/
def removeReference (ref : Nat) (manager : ThreatManager) : ThreatManager :=
  (manager.setOnlineOfflineState ref false).onRemoveFromList ref

/-- What `ThreatManager::addThreat` accepts: neither the creature itself nor a game master, and
nobody dead. -/
def accepts (manager : ThreatManager) (world : World) (unit : Nat) : Bool :=
  unit != manager.owner && !(world.isPlayer unit && world.isGameMaster unit) &&
    world.isAlive unit && world.isAlive manager.owner

/-- `HostileReference::addThreat` as far as the unit itself is concerned -/
def changeThreat (world : World) (ref : Nat) (amount : ℚ) (manager : ThreatManager) :
    ThreatManager :=
  let changed := manager.setRef ref
    { manager.refs ref with threat := manager.threatOf ref + amount }
  let checked :=
    if (changed.refs ref).online then changed else changed.updateOnlineStatus world ref
  if amount = 0 then checked else checked.onThreatChange ref amount

/-- A new reference is online and accessible. -/
def create (unit : Nat) (manager : ThreatManager) : ThreatManager :=
  { manager.setRef manager.nextRef ⟨unit, 0, 0, true, true⟩ with
    nextRef := manager.nextRef + 1
    threatList := manager.threatList ++ [manager.nextRef] }

/-- `_addThreat`, given what `HostileReference::addThreat` does to a reference -/
def withReference (world : World) (unit : Nat) (add : Nat → ThreatManager → ThreatManager)
    (manager : ThreatManager) : ThreatManager :=
  match manager.getReference unit with
  | some ref => add ref manager
  | none =>
    let added := add manager.nextRef (manager.create unit)
    if world.isPlayer unit && world.isGameMaster unit then
      added.setOnlineOfflineState manager.nextRef false
    else added

/-- `HostileReference::addThreat`, over the charmers or owners of the unit: the creature begins to
hate the owner of a unit it hates more. -/
def refAddThreat (world : World) : List Nat → Nat → ℚ → ThreatManager → ThreatManager
  | [], ref, amount, manager => manager.changeThreat world ref amount
  | owner :: above, ref, amount, manager =>
    let changed := manager.changeThreat world ref amount
    if 0 ≤ amount ∧ world.isAlive owner ∧ changed.accepts world owner then
      changed.withReference world owner fun ref manager =>
        refAddThreat world above ref 0 manager
    else changed

/-- `HostileReference::addThreat` -/
def addThreatTo (world : World) (ref : Nat) (amount : ℚ) (manager : ThreatManager) :
    ThreatManager :=
  refAddThreat world (world.charmersOrOwners (manager.unitOf ref)) ref amount manager

/-- `_addThreat` -/
def addThreatFor (world : World) (unit : Nat) (amount : ℚ) (manager : ThreatManager) :
    ThreatManager :=
  manager.withReference world unit fun ref manager =>
    refAddThreat world (world.charmersOrOwners unit) ref amount manager

/-- `ThreatManager::addThreat` of the threat that `ThreatCalcHelper::calcThreat` gives. A part of
it goes to the target of a misdirection, or to nobody. -/
def addThreat (world : World) (victim : Nat) (threat : ℚ) (reducedThreatPercent : Nat)
    (misdirectionTarget : Option Nat) (manager : ThreatManager) : ThreatManager :=
  if manager.accepts world victim then
    if 0 < threat ∧ reducedThreatPercent ≠ 0 then
      let reducedThreat := threat * reducedThreatPercent / 100
      let diverted :=
        match misdirectionTarget with
        | some unit => manager.addThreatFor world unit reducedThreat
        | none => manager
      diverted.addThreatFor world victim (threat - reducedThreat)
    else manager.addThreatFor world victim threat
  else manager

def getThreat (victim : Nat) (alsoSearchOfflineList : Bool) (manager : ThreatManager) : ℚ :=
  match manager.findIn manager.threatList victim with
  | some ref => manager.threatOf ref
  | none =>
    if alsoSearchOfflineList then
      match manager.findIn manager.offlineThreatList victim with
      | some ref => manager.threatOf ref
      | none => 0
    else 0

def addThreatPercent (world : World) (ref : Nat) (percent : Int) (manager : ThreatManager) :
    ThreatManager :=
  manager.addThreatTo world ref (manager.threatOf ref * percent / 100)

/-- `ThreatManager::modifyThreatPercent`, for a unit that is online -/
def modifyThreatPercent (world : World) (victim : Nat) (percent : Int) (manager : ThreatManager) :
    ThreatManager :=
  match manager.findIn manager.threatList victim with
  | some ref => manager.addThreatPercent world ref percent
  | none => manager

def setThreat (world : World) (ref : Nat) (threat : ℚ) (manager : ThreatManager) : ThreatManager :=
  manager.addThreatTo world ref (threat - manager.threatOf ref)

def setTempThreatModifier (ref : Nat) (value : ℚ) (manager : ThreatManager) : ThreatManager :=
  manager.setRef ref { manager.refs ref with tempThreatModifier := value }

def addTempThreat (world : World) (ref : Nat) (threat : ℚ) (manager : ThreatManager) :
    ThreatManager :=
  let noted := manager.setTempThreatModifier ref threat
  if threat = 0 then noted else noted.addThreatTo world ref threat

def resetTempThreat (world : World) (ref : Nat) (manager : ThreatManager) : ThreatManager :=
  if (manager.refs ref).tempThreatModifier = 0 then manager
  else
    (manager.addThreatTo world ref (-(manager.refs ref).tempThreatModifier)).setTempThreatModifier
      ref 0

def tauntApply (world : World) (taunter : Nat) (manager : ThreatManager) : ThreatManager :=
  match manager.findIn manager.threatList taunter, manager.currentVictim with
  | some ref, some victim =>
    if manager.threatOf ref < manager.threatOf victim ∧
        (manager.refs ref).tempThreatModifier = 0 then
      manager.addTempThreat world ref (manager.threatOf victim - manager.threatOf ref)
    else manager
  | _, _ => manager

def tauntFadeOut (world : World) (taunter : Nat) (manager : ThreatManager) : ThreatManager :=
  match manager.findIn manager.threatList taunter with
  | some ref => manager.resetTempThreat world ref
  | none => manager

/-- The loop over the online list, which can grow under it by the owners of the units. -/
def resetFrom (world : World) (predicate : Nat → Bool) : Nat → Nat → ThreatManager → ThreatManager
  | 0, _, manager => manager
  | fuel + 1, position, manager =>
    match manager.threatList[position]? with
    | none => manager
    | some ref =>
      resetFrom world predicate fuel (position + 1)
        (if predicate (manager.unitOf ref) then { manager.setThreat world ref 0 with dirty := true }
        else manager)

def resetBound (world : World) (manager : ThreatManager) : Nat :=
  ((manager.threatList ++ manager.offlineThreatList).map fun ref =>
    (world.charmersOrOwners (manager.unitOf ref)).length + 1).sum

/-- `resetAggro`; `resetAllAggro` has no predicate. -/
def resetAggro (world : World) (predicate : Nat → Bool) (manager : ThreatManager) :
    ThreatManager :=
  manager.resetFrom world predicate (manager.resetBound world) 0

def resetAllAggro (world : World) (manager : ThreatManager) : ThreatManager :=
  manager.resetAggro world fun _ => true

def clearReferences (manager : ThreatManager) : ThreatManager :=
  { manager with threatList := [], offlineThreatList := [], currentVictim := none }

def update (manager : ThreatManager) : ThreatManager :=
  { manager with
    threatList :=
      if manager.dirty ∧ 1 < manager.threatList.length then
        manager.threatList.insertionSort fun first second =>
          manager.threatOf second ≤ manager.threatOf first
      else manager.threatList
    dirty := false }

end ThreatManager

def World.isSecondChoice (world : World) (unit : Nat) : Bool :=
  world.isImmunedToDamage unit || world.hasBreakableAura unit

/-- How a walk over the list ends; if its last reference is a second choice too, the list is walked
once more, without preferences and with the victim that is left to compare with. -/
inductive Scan where
  | found (ref : Nat)
  | exhausted
  | again (currentVictim : Option Nat)
deriving DecidableEq

namespace ThreatManager

/-- The loop of `selectNextVictim`; `preferring` is the negation of `noPriorityTargetFound`. -/
def scan (world : World) (manager : ThreatManager) (preferring : Bool) :
    Option Nat → List Nat → Scan
  | _, [] => .exhausted
  | currentVictim, ref :: rest =>
    let unit := manager.unitOf ref
    if preferring && world.isSecondChoice unit then
      if rest = [] then .again currentVictim
      else
        scan world manager preferring
          (if currentVictim = some ref then none else currentVictim) rest
    else if world.canBeAttacked unit then
      match currentVictim with
      | none => .found ref
      | some victim =>
        if victim = ref ∨ manager.threatOf ref ≤ 11 / 10 * manager.threatOf victim then
          .found victim
        else if 13 / 10 * manager.threatOf victim < manager.threatOf ref ∨
            (11 / 10 * manager.threatOf victim < manager.threatOf ref ∧
              world.isWithinMeleeRange unit) then
          .found ref
        else scan world manager preferring currentVictim rest
    else scan world manager preferring currentVictim rest

def selectNextVictim (world : World) (manager : ThreatManager) : Option Nat :=
  match manager.scan world true manager.currentVictim manager.threatList with
  | .found ref => some ref
  | .exhausted => none
  | .again currentVictim =>
    match manager.scan world false currentVictim manager.threatList with
    | .found ref => some ref
    | _ => none

def getHostilTarget (world : World) (manager : ThreatManager) : Option Nat × ThreatManager :=
  let updated := manager.update
  let next := updated.selectNextVictim world
  (next.map updated.unitOf, { updated with currentVictim := next })

/-- The victim is set by `Spell::EffectTaunt`. -/
def forceVictim (unit : Nat) (manager : ThreatManager) : ThreatManager :=
  match manager.findIn manager.threatList unit with
  | some ref => { manager with currentVictim := some ref }
  | none => manager

/-- The calls of a manager, and those of a unit's reference by its `HostileRefManager`. -/
inductive Call where
  | addThreat (victim : Nat) (threat : ℚ) (reducedThreatPercent : Nat)
      (misdirectionTarget : Option Nat)
  | modifyThreatPercent (victim : Nat) (percent : Int)
  | tauntApply (taunter : Nat)
  | tauntFadeOut (taunter : Nat)
  | resetAllAggro
  | resetAggro (predicate : Nat → Bool)
  | clearReferences
  | getHostilTarget
  | forceVictim (unit : Nat)
  | threatAssist (unit : Nat) (threat : ℚ)
  | addThreatPercent (unit : Nat) (percent : Int)
  | addTempThreat (unit : Nat) (threat : ℚ)
  | resetTempThreat (unit : Nat)
  | setOnlineOfflineState (unit : Nat) (online : Bool)
  | updateOnlineStatus (unit : Nat)
  | removeReference (unit : Nat)

def onReference (unit : Nat) (act : Nat → ThreatManager → ThreatManager)
    (manager : ThreatManager) : ThreatManager :=
  match manager.getReference unit with
  | some ref => act ref manager
  | none => manager

def next (manager : ThreatManager) : World × Call → ThreatManager
  | (world, .addThreat victim threat reducedThreatPercent misdirectionTarget) =>
    manager.addThreat world victim threat reducedThreatPercent misdirectionTarget
  | (world, .modifyThreatPercent victim percent) => manager.modifyThreatPercent world victim percent
  | (world, .tauntApply taunter) => manager.tauntApply world taunter
  | (world, .tauntFadeOut taunter) => manager.tauntFadeOut world taunter
  | (world, .resetAllAggro) => manager.resetAllAggro world
  | (world, .resetAggro predicate) => manager.resetAggro world predicate
  | (_, .clearReferences) => manager.clearReferences
  | (world, .getHostilTarget) => (manager.getHostilTarget world).2
  | (_, .forceVictim unit) => manager.forceVictim unit
  | (world, .threatAssist unit threat) =>
    manager.onReference unit fun ref => addThreatTo world ref threat
  | (world, .addThreatPercent unit percent) =>
    manager.onReference unit fun ref => addThreatPercent world ref percent
  | (world, .addTempThreat unit threat) =>
    manager.onReference unit fun ref manager =>
      if (manager.refs ref).tempThreatModifier = 0 then manager.addTempThreat world ref threat
      else manager
  | (world, .resetTempThreat unit) =>
    manager.onReference unit fun ref => resetTempThreat world ref
  | (_, .setOnlineOfflineState unit online) =>
    manager.onReference unit fun ref => setOnlineOfflineState ref online
  | (world, .updateOnlineStatus unit) =>
    manager.onReference unit fun ref => updateOnlineStatus world ref
  | (_, .removeReference unit) => manager.onReference unit removeReference

end ThreatManager

end DarkCore.Threat
