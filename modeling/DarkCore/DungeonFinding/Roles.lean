/-
Roles of the dungeon finder (`LFG.h`) and `CheckGroupRoles` of `LFGMgr.cpp`,
which narrows the selections in the map of its caller until every player has one
role, and puts a role back when the narrower map did not work out.
-/

import DarkCore.Lib.OrdMap
import Mathlib.Order.Fin.Basic

namespace DarkCore.DungeonFinding

open DarkCore.Lib

/-- Flags of `LfgRoles`, a `uint8` -/
abbrev Roles := BitVec 8

def roleNone : Roles := 0x00
def roleLeader : Roles := 0x01
def roleTank : Roles := 0x02
def roleHealer : Roles := 0x04
def roleDamage : Roles := 0x08

def lfgTanksNeeded : Nat := 1
def lfgHealersNeeded : Nat := 1
def lfgDpsNeeded : Nat := 3

/-- The guid of a player: its high part is 0, its low part a `uint32`. -/
abbrev PlayerGuid := Fin 4294967296

instance guids_neZero : NeZero 4294967296 := ⟨by decide⟩

abbrev LfgRolesMap := OrdMap PlayerGuid Roles

/-- The entries of an `LfgRolesMap` -/
abbrev Selections := List (PlayerGuid × Roles)

/-- `it->second` -/
def roleAt (groles : Selections) (position : Nat) : Roles :=
  match groles[position]? with
  | some entry => entry.2
  | none => roleNone

def changeRole (groles : Selections) (position : Nat) (change : Roles → Roles) : Selections :=
  groles.modify position fun entry => (entry.1, change entry.2)

/-- How the block for one of the three roles ends: with a `return` or with the counter -/
inductive Turn
  | stuck
  | answered (found : Bool) (groles : Selections)
  | counted (groles : Selections) (count : Nat)

/-- `call` is the recursive call, which has the whole map and may leave it changed. -/
def takeRole (call : Selections → Option (Bool × Selections)) (flag : Roles) (needed : Nat)
    (position : Nat) (groles : Selections) (count : Nat) : Turn :=
  if roleAt groles position &&& flag = 0 then .counted groles count
  else if roleAt groles position ≠ flag then
    match call (changeRole groles position fun role => role - flag) with
    | none => .stuck
    | some (true, inner) => .answered true inner
    | some (false, inner) => .counted (changeRole inner position fun role => role + flag) count
  else if count = needed then .answered false groles
  else .counted groles (count + 1)

def scanRoles (call : Selections → Option (Bool × Selections)) :
    Nat → Nat → Selections → Nat → Nat → Nat → Option (Bool × Selections)
  | 0, _, groles, tank, healer, damage =>
    some (decide (tank + healer + damage = groles.length % 256), groles)
  | left + 1, position, groles, tank, healer, damage =>
    if roleAt groles position = roleNone then some (false, groles)
    else
      match takeRole call roleTank lfgTanksNeeded position groles tank with
      | .stuck => none
      | .answered found groles => some (found, groles)
      | .counted groles tank =>
        match takeRole call roleHealer lfgHealersNeeded position groles healer with
        | .stuck => none
        | .answered found groles => some (found, groles)
        | .counted groles healer =>
          match takeRole call roleDamage lfgDpsNeeded position groles damage with
          | .stuck => none
          | .answered found groles => some (found, groles)
          | .counted groles damage =>
            scanRoles call left (position + 1) groles tank healer damage

/-- `CheckGroupRoles` without `removeLeaderFlag`: the answer and the map afterwards, `none` when the
depth does not suffice -/
def checkRoles : Nat → Selections → Option (Bool × Selections)
  | 0, _ => none
  | depth + 1, groles =>
    if groles.length = 0 then some (false, groles)
    else scanRoles (checkRoles depth) groles.length 0 groles 0 0 0

def removeLeaderFlag (groles : Selections) : Selections :=
  groles.map fun entry => (entry.1, entry.2 &&& ~~~roleLeader)

def flagsLeft (groles : Selections) : Nat := (groles.map fun entry => entry.2.toNat).sum

def checkGroupRoles (groles : Selections) : Option (Bool × Selections) :=
  checkRoles (flagsLeft (removeLeaderFlag groles) + 1) (removeLeaderFlag groles)

abbrev IsSingle (role : Roles) : Prop := role = roleTank ∨ role = roleHealer ∨ role = roleDamage

abbrev OnlyRoles (role : Roles) : Prop := role &&& (roleTank ||| roleHealer ||| roleDamage) = role

structure WithinNeeds (groles : Selections) : Prop where
  tanks : groles.countP (fun entry => entry.2 = roleTank) ≤ lfgTanksNeeded
  healers : groles.countP (fun entry => entry.2 = roleHealer) ≤ lfgHealersNeeded
  damages : groles.countP (fun entry => entry.2 = roleDamage) ≤ lfgDpsNeeded

def Narrower : Selections → Selections → Prop :=
  List.Forall₂ fun before after => after.1 = before.1 ∧ after.2 &&& before.2 = after.2 ∧
    (OnlyRoles after.2 → OnlyRoles before.2)

structure Assigned (selected assigned : Selections) : Prop where
  narrower : Narrower selected assigned
  single : ∀ entry ∈ assigned, IsSingle entry.2
  needs : WithinNeeds assigned

structure Assignment (groles : Selections) (role : PlayerGuid → Roles) : Prop where
  clean : ∀ entry ∈ groles, OnlyRoles entry.2
  single : ∀ entry ∈ groles, IsSingle (role entry.1)
  selected : ∀ entry ∈ groles, role entry.1 &&& entry.2 = role entry.1
  needs : WithinNeeds (groles.map fun entry => (entry.1, role entry.1))

def Admissible (groles : Selections) : Prop := ∃ role, Assignment groles role

end DarkCore.DungeonFinding
