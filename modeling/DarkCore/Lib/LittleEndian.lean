/-
Fixed-width little-endian byte strings.

The login packets fix the width of every number they carry; the big-number
library underneath stores no width at all.  These are the fixed-width maps that
both sides of such a packet agree on, with the round trips between them.
-/

import Mathlib.Data.Nat.Log
import Mathlib.Tactic.Ring

namespace DarkCore.Lib

/-- The `width` low bytes of `value`, least significant byte first. -/
def leBytes : Nat → Nat → List UInt8
  | 0, _ => []
  | width + 1, value => UInt8.ofNat value :: leBytes width (value / 256)

def ofLeBytes : List UInt8 → Nat
  | [] => 0
  | byte :: rest => byte.toNat + 256 * ofLeBytes rest

@[simp]
theorem leBytes_length (width value : Nat) : (leBytes width value).length = width := by
  induction width generalizing value with
  | zero => rfl
  | succ width ih => simp only [leBytes, List.length_cons, ih]

theorem ofLeBytes_lt (bytes : List UInt8) : ofLeBytes bytes < 256 ^ bytes.length := by
  induction bytes with
  | nil => simp [ofLeBytes]
  | cons byte rest ih =>
    have small : byte.toNat < 256 := byte.toNat_lt
    rw [ofLeBytes, List.length_cons, pow_succ]
    omega

theorem ofLeBytes_leBytes {width value : Nat} (fits : value < 256 ^ width) :
    ofLeBytes (leBytes width value) = value := by
  induction width generalizing value with
  | zero =>
    have valueZero : value = 0 := by
      simpa using fits
    rw [valueZero]
    rfl
  | succ width ih =>
    have restFits : value / 256 < 256 ^ width := by
      omega
    rw [leBytes, ofLeBytes, ih restFits, UInt8.toNat_ofNat']
    omega

theorem leBytes_ofLeBytes (bytes : List UInt8) :
    leBytes bytes.length (ofLeBytes bytes) = bytes := by
  induction bytes with
  | nil => rfl
  | cons byte rest ih =>
    have small : byte.toNat < 256 := byte.toNat_lt
    have tail : (byte.toNat + 256 * ofLeBytes rest) / 256 = ofLeBytes rest := by
      omega
    have head : UInt8.ofNat (byte.toNat + 256 * ofLeBytes rest) = byte := by
      simp
    rw [List.length_cons, ofLeBytes, leBytes, tail, head, ih]

theorem leBytes_ofLeBytes_of_length {bytes : List UInt8} {width : Nat}
    (length : bytes.length = width) : leBytes width (ofLeBytes bytes) = bytes := by
  rw [← length]
  exact leBytes_ofLeBytes bytes

/-- The least number of bytes that holds `value`; zero needs none. -/
def byteWidth (value : Nat) : Nat :=
  if value = 0 then 0 else Nat.log2 value / 8 + 1

theorem byteWidth_le_iff (value width : Nat) :
    byteWidth value ≤ width ↔ value < 256 ^ width := by
  unfold byteWidth
  by_cases isZero : value = 0
  · simp [isZero]
  · have base : (256 : Nat) ^ width = 2 ^ (8 * width) := by
      rw [pow_mul]
      rfl
    rw [if_neg isZero, base, ← Nat.log2_lt isZero]
    omega

theorem byteWidth_eq_of_bounds {value width : Nat}
    (low : 256 ^ width ≤ value) (high : value < 256 ^ (width + 1)) :
    byteWidth value = width + 1 := by
  have atMost : byteWidth value ≤ width + 1 := (byteWidth_le_iff value (width + 1)).mpr high
  have notLess : ¬ byteWidth value ≤ width := by
    intro narrow
    exact absurd ((byteWidth_le_iff value width).mp narrow) (Nat.not_lt.mpr low)
  omega

theorem byteWidth_eq_zero_iff (value : Nat) : byteWidth value = 0 ↔ value = 0 := by
  rw [← Nat.le_zero, byteWidth_le_iff]
  simp

theorem byteWidth_succ {value : Nat} (nonzero : value ≠ 0) :
    byteWidth value = byteWidth (value / 256) + 1 := by
  apply Nat.le_antisymm
  · rw [byteWidth_le_iff, pow_succ]
    have low : value / 256 < 256 ^ byteWidth (value / 256) :=
      (byteWidth_le_iff _ _).mp (le_refl _)
    omega
  · have some : byteWidth value ≠ 0 := fun none => nonzero ((byteWidth_eq_zero_iff value).mp none)
    obtain ⟨width, isSucc⟩ := Nat.exists_eq_succ_of_ne_zero some
    have high : value < 256 ^ (width + 1) :=
      (byteWidth_le_iff value (width + 1)).mp (le_of_eq isSucc)
    have rest : byteWidth (value / 256) ≤ width := by
      rw [byteWidth_le_iff]
      rw [pow_succ] at high
      omega
    omega

theorem leBytes_padded {value width : Nat} (fits : value < 256 ^ width) :
    leBytes (byteWidth value) value ++ List.replicate (width - byteWidth value) 0 =
      leBytes width value := by
  induction width generalizing value with
  | zero =>
    have valueZero : value = 0 := by
      simpa using fits
    rw [valueZero]
    rfl
  | succ width ih =>
    have restFits : value / 256 < 256 ^ width := by
      omega
    have rest := ih restFits
    by_cases isZero : value = 0
    · rw [isZero] at rest ⊢
      have noBytes : byteWidth 0 = 0 := rfl
      rw [noBytes, Nat.sub_zero, List.replicate_succ]
      rw [Nat.zero_div, noBytes, Nat.sub_zero] at rest
      exact congrArg (List.cons 0) rest
    · rw [byteWidth_succ isZero, leBytes, List.cons_append, Nat.add_sub_add_right, rest]
      rfl

end DarkCore.Lib
