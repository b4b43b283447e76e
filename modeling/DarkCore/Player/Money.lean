/-
The money of a player (`Player.h`, `Player.cpp`): 32 bits, changed by a signed
difference that stops at nothing and at the gold limit.
-/

import Mathlib.Algebra.Order.Ring.Int

namespace DarkCore.Player

def maxMoneyAmount : Nat := 0x7FFFFFFF - 1

def uint32 (value : Int) : Nat := (value % 2 ^ 32).toNat

def int32 (value : Int) : Int :=
  if value % 2 ^ 32 < 2 ^ 31 then value % 2 ^ 32 else value % 2 ^ 32 - 2 ^ 32

theorem uint32_natCast (value : Nat) : uint32 value = value % 2 ^ 32 := by
  unfold uint32
  omega

theorem uint32_of_lt {value : Nat} (small : value < 2 ^ 32) : uint32 value = value := by
  rw [uint32_natCast, Nat.mod_eq_of_lt small]

theorem uint32_lt (value : Int) : uint32 value < 2 ^ 32 := by
  unfold uint32
  omega

theorem int32_of_lt {value : Nat} (small : value < 2 ^ 31) : int32 value = value := by
  unfold int32
  rw [if_pos (by omega)]
  omega

structure Purse where
  money : Nat
  fits : money < 2 ^ 32
  deriving DecidableEq

namespace Purse

def setMoney (value : Nat) : Purse :=
  ⟨value % 2 ^ 32, Nat.mod_lt value (by decide)⟩

def hasEnoughMoney (purse : Purse) (amount : Nat) : Bool := decide (amount ≤ purse.money)

/-- `Player::ModifyMoney`; `d` is meant to be within 32 bits. -/
def modifyMoney (purse : Purse) (d : Int) : Purse :=
  if d < 0 then setMoney (if (-d).toNat < purse.money then uint32 (purse.money + d) else 0)
  else if purse.money < uint32 (maxMoneyAmount - d) then setMoney (uint32 (purse.money + d))
  else setMoney maxMoneyAmount

variable {purse : Purse} {amount : Nat}

theorem hasEnoughMoney_iff :
    purse.hasEnoughMoney amount = true ↔ amount ≤ purse.money := by
  unfold hasEnoughMoney
  exact decide_eq_true_iff

@[simp] theorem setMoney_money {value : Nat} (small : value < 2 ^ 32) :
    (setMoney value).money = value := Nat.mod_eq_of_lt small

theorem modifyMoney_neg (positive : 0 < amount)
    (small : amount < 2 ^ 31) (enough : amount ≤ purse.money) :
    (purse.modifyMoney (-int32 amount)).money = purse.money - amount := by
  have fits := purse.fits
  rw [int32_of_lt small]
  unfold modifyMoney
  rw [if_pos (by omega)]
  split
  · rw [setMoney_money (uint32_lt _)]
    unfold uint32
    omega
  · simp_all

theorem modifyMoney_pos
    (below : purse.money + amount ≤ maxMoneyAmount) :
    (purse.modifyMoney (int32 amount)).money = purse.money + amount := by
  unfold maxMoneyAmount at below
  rw [int32_of_lt (by omega)]
  unfold modifyMoney
  rw [if_neg (by omega)]
  have limit : uint32 ((maxMoneyAmount : Int) - amount) = maxMoneyAmount - amount := by
    unfold uint32 maxMoneyAmount
    omega
  rw [limit]
  split
  · rw [setMoney_money (uint32_lt _)]
    unfold uint32
    omega
  · rw [setMoney_money (by decide)]
    unfold maxMoneyAmount at *
    omega

theorem modifyMoney_add (limit : purse.money ≤ maxMoneyAmount)
    (small : amount ≤ maxMoneyAmount) :
    (purse.modifyMoney (int32 amount)).money = min (purse.money + amount) maxMoneyAmount := by
  by_cases below : purse.money + amount ≤ maxMoneyAmount
  · rw [modifyMoney_pos below, Nat.min_eq_left below]
  · unfold maxMoneyAmount at limit small below ⊢
    rw [int32_of_lt (by omega)]
    unfold modifyMoney
    have room : uint32 ((maxMoneyAmount : Int) - amount) = maxMoneyAmount - amount := by
      unfold uint32 maxMoneyAmount
      omega
    rw [if_neg (by omega), room, if_neg (by unfold maxMoneyAmount; omega),
      setMoney_money (by decide)]
    unfold maxMoneyAmount
    omega

theorem modifyMoney_take (limit : purse.money ≤ maxMoneyAmount)
    (enough : amount ≤ purse.money) :
    (purse.modifyMoney (-int32 amount)).money = purse.money - amount := by
  have small : purse.money < 2 ^ 31 := by
    grind [maxMoneyAmount]
  rcases Nat.eq_zero_or_pos amount with nothing | positive
  · have noSign : -int32 amount = int32 (0 : Nat) := by
      rw [nothing, int32_of_lt (by decide)]
      rfl
    rw [noSign, modifyMoney_pos (by omega)]
    omega
  · exact modifyMoney_neg positive (by omega) enough

end Purse

end DarkCore.Player
