/-
Resistance, shields and damage splits (`DamageInfo` in `Unit.h` and
`Unit::CalcAbsorbResist` in `Unit.cpp`). Floating point numbers are exact
rationals here.
-/

import DarkCore.Player.Money
import Mathlib.Data.Rat.Floor

namespace DarkCore.Combat

open DarkCore.Player (uint32 int32)

def truncate (value : Rat) : Int := if 0 ≤ value then ⌊value⌋ else ⌈value⌉

/-- `CalculatePctF` and `CalculatePctN` -/
def calculatePct (base : Int) (pct : Rat) : Int := truncate (base * pct / 100)

/-- `AddPctF` -/
def addPct (base : Int) (pct : Rat) : Int := base + calculatePct base pct

def roundToInterval (num floor ceil : Int) : Int := min (max num floor) ceil

structure DamageInfo where
  damage : Nat
  absorb : Nat
  resist : Nat
  deriving DecidableEq

namespace DamageInfo

def modifyDamage (info : DamageInfo) (amount : Int) : DamageInfo :=
  { info with damage := uint32 (info.damage + min amount (int32 info.damage)) }

def absorbDamage (info : DamageInfo) (amount : Nat) : DamageInfo :=
  { info with
    absorb := (info.absorb + min amount info.damage) % 2 ^ 32
    damage := info.damage - min amount info.damage }

def resistDamage (info : DamageInfo) (amount : Nat) : DamageInfo :=
  { info with
    resist := (info.resist + min amount info.damage) % 2 ^ 32
    damage := info.damage - min amount info.damage }

end DamageInfo

/-- `resisted` is what the roll against the average comes to. -/
structure Resistance where
  victimResistance : Rat
  level : Nat
  resisted : Nat

/-- `BOSS_RESISTANCE_CONSTANT` at `BOSS_LEVEL` -/
def resistanceConstant (level : Nat) : Rat := if level = 83 then 510 else level * 5

/-- `none` for a division by zero -/
def averageResist (resistance : Resistance) : Option Rat :=
  let divisor := resistance.victimResistance + resistanceConstant resistance.level
  if divisor = 0 then none else some (resistance.victimResistance / divisor)

structure IgnoreAbsorbAura where
  miscValue : Nat
  amount : Int
  isAffectedOnSpell : Bool

/-- A shield, as it is when its turn comes: it may have been removed by then. The script gets the
damage and the amount and returns the amount to be absorbed, and whether it prevents the default. -/
structure AbsorbAura where
  isApplied : Bool
  miscValue : Nat
  amount : Int
  script : Nat → Nat → Nat × Bool

structure ManaShieldAura extends AbsorbAura where
  manaMultiplier : Rat

/-- `hasCaster` when there is a living caster in the world who is not the victim -/
structure SplitDamageAura where
  isApplied : Bool
  miscValue : Nat
  hasCaster : Bool
  amount : Int

def auraAbsorbMod (schoolMask : Nat) (aurasA aurasB : List IgnoreAbsorbAura) : Int :=
  let modA := aurasA.foldl (fun mod aura =>
    if aura.miscValue &&& schoolMask ≠ 0 ∧ mod < aura.amount then aura.amount else mod) 0
  let modB := aurasB.foldl (fun mod aura =>
    if aura.miscValue &&& schoolMask ≠ 0 ∧ mod < aura.amount ∧ aura.isAffectedOnSpell = true
    then aura.amount else mod) modA
  roundToInterval modB 0 100

structure Shielded where
  aura : AbsorbAura
  absorbed : Nat
  amount : Int

/-- `none` when the script prevents the default -/
def currentAbsorb (mod : Int) (info : DamageInfo) (aura : AbsorbAura) : Option Int :=
  let amount := if aura.amount < 0 then 0 else aura.amount
  let (absorb, defaultPrevented) := aura.script info.damage (uint32 amount)
  if defaultPrevented then none
  else some (roundToInterval (addPct (int32 absorb) (-mod)) 0 (int32 info.damage))

def reduceAmount (aura : AbsorbAura) (absorbed : Int) : Int :=
  if 0 ≤ aura.amount then aura.amount - absorbed else aura.amount

def IsConcerned (schoolMask : Nat) (aura : AbsorbAura) : Prop :=
  aura.isApplied = true ∧ aura.miscValue &&& schoolMask ≠ 0

instance (schoolMask : Nat) (aura : AbsorbAura) : Decidable (IsConcerned schoolMask aura) :=
  inferInstanceAs (Decidable (_ ∧ _))

def absorbShield (schoolMask : Nat) (mod : Int) (info : DamageInfo) (aura : AbsorbAura) :
    DamageInfo × Int :=
  if IsConcerned schoolMask aura then
    match currentAbsorb mod info aura with
    | none => (info, aura.amount)
    | some absorb => (info.absorbDamage (uint32 absorb), reduceAmount aura absorb)
  else (info, aura.amount)

def absorbShields (schoolMask : Nat) (mod : Int) :
    List AbsorbAura → DamageInfo → DamageInfo × List Shielded
  | [], info => (info, [])
  | aura :: rest, info =>
    if 0 < info.damage then
      let (next, amount) := absorbShield schoolMask mod info aura
      let (last, others) := absorbShields schoolMask mod rest next
      (last, ⟨aura, next.absorb - info.absorb, amount⟩ :: others)
    else (info, [])

structure Mana where
  power : Int
  maxPower : Int
  positive : 0 ≤ power
  bounded : power ≤ maxPower

/-- `ModifyPower` with the gain that it returns -/
def Mana.modifyPower (mana : Mana) (dVal : Int) : Int × Mana :=
  let val := dVal + mana.power
  if dVal = 0 then (0, mana)
  else if positive : val ≤ 0 then
    (-mana.power, ⟨0, mana.maxPower, le_rfl, mana.positive.trans mana.bounded⟩)
  else if below : val < mana.maxPower then
    (val - mana.power, ⟨val, mana.maxPower, (not_le.mp positive).le, below.le⟩)
  else if mana.power ≠ mana.maxPower then
    (mana.maxPower - mana.power,
      ⟨mana.maxPower, mana.maxPower, mana.positive.trans mana.bounded, le_rfl⟩)
  else (0, mana)

def manaReduction (aura : ManaShieldAura) (absorb : Int) : Int :=
  if aura.manaMultiplier ≠ 0 then truncate (absorb * aura.manaMultiplier) else absorb

/-- What can be absorbed with the mana taken, `none` for a division by zero -/
def paidAbsorb (absorb taken reduction : Int) : Option Int :=
  if absorb = 0 then some 0
  else if reduction = 0 then none
  else some (truncate (absorb * (taken / reduction : Rat)))

def absorbByMana (schoolMask : Nat) (mod : Int) (info : DamageInfo) (mana : Mana)
    (aura : ManaShieldAura) : Option (DamageInfo × Mana × Int) :=
  if IsConcerned schoolMask aura.toAbsorbAura then
    match currentAbsorb mod info aura.toAbsorbAura with
    | none => some (info, mana, aura.amount)
    | some absorb =>
      let reduction := manaReduction aura absorb
      let (gain, mana) := mana.modifyPower (-reduction)
      (paidAbsorb absorb (-gain) reduction).map fun paid =>
        (info.absorbDamage (uint32 paid), mana, reduceAmount aura.toAbsorbAura paid)
  else some (info, mana, aura.amount)

def absorbByManas (schoolMask : Nat) (mod : Int) :
    List ManaShieldAura → DamageInfo → Mana → Option (DamageInfo × List Shielded)
  | [], info, _ => some (info, [])
  | aura :: rest, info, mana =>
    if 0 < info.damage then do
      let (next, mana, amount) ← absorbByMana schoolMask mod info mana aura
      let (last, others) ← absorbByManas schoolMask mod rest next mana
      return (last, ⟨aura.toAbsorbAura, next.absorb - info.absorb, amount⟩ :: others)
    else some (info, [])

def flatShare (_damage : Nat) (amount : Int) : Int := amount

/-- `CalculatePctN` of the damage, a `uint32` -/
def pctShare (damage : Nat) (amount : Int) : Int :=
  int32 (uint32 (calculatePct damage amount))

def IsSplit (schoolMask : Nat) (aura : SplitDamageAura) : Prop :=
  aura.isApplied = true ∧ aura.miscValue &&& schoolMask ≠ 0 ∧ aura.hasCaster = true

instance (schoolMask : Nat) (aura : SplitDamageAura) : Decidable (IsSplit schoolMask aura) :=
  inferInstanceAs (Decidable (_ ∧ _ ∧ _))

def splitDamage (schoolMask : Nat) (share : Nat → Int → Int) :
    List SplitDamageAura → DamageInfo → DamageInfo × Nat
  | [], info => (info, 0)
  | aura :: rest, info =>
    if 0 < info.damage then
      if IsSplit schoolMask aura then
        let split := roundToInterval (share info.damage aura.amount) 0 (int32 info.damage)
        let (last, splitted) := splitDamage schoolMask share rest (info.modifyDamage split)
        (last, uint32 split + splitted)
      else splitDamage schoolMask share rest info
    else (info, 0)

structure Attack where
  damage : Nat
  schoolMask : Nat
  isAlive : Bool
  isSelf : Bool
  resistance : Resistance
  ignoreAbsorbA : List IgnoreAbsorbAura
  ignoreAbsorbB : List IgnoreAbsorbAura
  shields : List AbsorbAura
  mana : Mana
  manaShields : List ManaShieldAura
  splitsFlat : List SplitDamageAura
  splitsPct : List SplitDamageAura

structure Calculated where
  absorb : Nat
  resist : Nat
  shields : List Shielded
  splitted : Nat

/-- The damage after resistance, `none` for a division by zero -/
def resistAttack (attack : Attack) : Option DamageInfo :=
  let info : DamageInfo := ⟨attack.damage, 0, 0⟩
  if attack.schoolMask &&& 1 = 0 then
    (averageResist attack.resistance).map fun _ => info.resistDamage attack.resistance.resisted
  else some info

/-- `SPELL_SCHOOL_MASK_NORMAL` is 1. All callers come with zeros in the results. -/
def calcAbsorbResist (attack : Attack) : Option Calculated :=
  if attack.isAlive = false ∨ attack.damage = 0 then some ⟨0, 0, [], 0⟩
  else do
    let info ← resistAttack attack
    let mod := auraAbsorbMod attack.schoolMask attack.ignoreAbsorbA attack.ignoreAbsorbB
    let (info, shields) := absorbShields attack.schoolMask mod attack.shields info
    let (info, manaShields) ←
      absorbByManas attack.schoolMask mod attack.manaShields info attack.mana
    let (info, splitted) :=
      if attack.isSelf then (info, 0)
      else
        let (info, flat) := splitDamage attack.schoolMask flatShare attack.splitsFlat info
        let (info, pct) := splitDamage attack.schoolMask pctShare attack.splitsPct info
        (info, flat + pct)
    return ⟨info.absorb, info.resist, shields ++ manaShields, splitted⟩

end DarkCore.Combat
