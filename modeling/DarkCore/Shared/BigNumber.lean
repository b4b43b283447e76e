/-
The number and hash wrappers of the shared library: `BigNumber` over OpenSSL's
natural numbers, and `SHA1Hash` over a digest with 20-byte results.

A big number carries no width.  `asByteArray` therefore returns as many bytes
as the value needs, and its `minSize` argument pads the big-endian array at the
end before the array is reversed, so the padding lands at the low end.
-/

import DarkCore.Lib.LittleEndian
import DarkCore.Lib.ModularPower
import DarkCore.Lib.Sha1

namespace DarkCore

open Lib

abbrev Bytes := List UInt8

namespace BigNumber

/-- `BN_num_bytes`. -/
def getNumBytes (value : Nat) : Nat := byteWidth value

/-- `BN_bn2bin`: big-endian, without leading zero bytes. -/
def bn2bin (value : Nat) : Bytes := (leBytes (getNumBytes value) value).reverse

def asByteArray (value : Nat) (minSize : Nat) (reverse : Bool) : Bytes :=
  let length := if getNumBytes value ≤ minSize then minSize else getNumBytes value
  let array := bn2bin value ++ List.replicate (length - getNumBytes value) 0
  if reverse then array.reverse else array

/-- `AsByteArray()` with its default arguments. -/
def byteArray (value : Nat) : Bytes := asByteArray value 0 true

def setBinary (bytes : Bytes) : Nat := ofLeBytes bytes

def modExp (base exponent modulus : Nat) : Nat := powMod base exponent modulus

def isZero (value : Nat) : Bool := value == 0

def hexDigit (char : UInt8) : Option Nat :=
  if 48 ≤ char ∧ char ≤ 57 then some (char.toNat - 48)
  else if 65 ≤ char ∧ char ≤ 70 then some (char.toNat - 55)
  else if 97 ≤ char ∧ char ≤ 102 then some (char.toNat - 87)
  else none

/-- The digits `BN_hex2bn` reads: the longest hexadecimal prefix. -/
def hexPrefix : Bytes → List Nat
  | [] => []
  | char :: rest =>
    match hexDigit char with
    | some digit => digit :: hexPrefix rest
    | none => []

def ofHexDigits (digits : List Nat) : Nat :=
  digits.foldl (fun value digit => value * 16 + digit) 0

/-- `SetHexStr`: a string without a leading digit leaves the number as it was. -/
def setHexStr (old : Nat) (str : Bytes) : Nat :=
  match hexPrefix str with
  | [] => old
  | digits => ofHexDigits digits

def hexText : Nat → Nat → Bytes
  | 0, _ => []
  | width + 1, value =>
    let digit := UInt8.ofNat (value % 16)
    hexText width (value / 16) ++ [if digit < 10 then 48 + digit else 55 + digit]

theorem modExp_eq (base exponent modulus : Nat) :
    modExp base exponent modulus = base ^ exponent % modulus :=
  powMod_eq base exponent modulus

theorem byteArray_eq (value : Nat) : byteArray value = leBytes (getNumBytes value) value := by
  unfold byteArray asByteArray bn2bin
  by_cases fits : getNumBytes value ≤ 0
  · have none : getNumBytes value = 0 := by
      omega
    simp [none]
  · simp [fits]

variable {value width : Nat}

theorem asByteArray_of_full {minSize : Nat} (full : getNumBytes value = minSize) :
    asByteArray value minSize true = leBytes minSize value := by
  unfold asByteArray bn2bin
  simp [full]

theorem byteArray_of_full (full : getNumBytes value = width) :
    byteArray value = leBytes width value := by
  rw [byteArray_eq, full]

theorem getNumBytes_of_bounds
    (low : 256 ^ width ≤ value) (high : value < 256 ^ (width + 1)) :
    getNumBytes value = width + 1 :=
  byteWidth_eq_of_bounds low high

theorem setBinary_lt {bytes : Bytes} (length : bytes.length = width) :
    setBinary bytes < 256 ^ width := by
  rw [← length]
  exact ofLeBytes_lt bytes

theorem byteArray_setBinary {bytes : Bytes} (length : bytes.length = width)
    (full : getNumBytes (setBinary bytes) = width) : byteArray (setBinary bytes) = bytes := by
  rw [byteArray_of_full full]
  exact leBytes_ofLeBytes_of_length length

theorem byteArray_padded (fits : value < 256 ^ width) :
    byteArray value ++ List.replicate (width - getNumBytes value) 0 = leBytes width value := by
  rw [byteArray_eq]
  exact leBytes_padded fits

/-- `SetBinary` reverses the bytes in a buffer of 1000; `none` is a write past it. -/
def setBinaryInBuffer (bytes : Bytes) : Option Nat :=
  if bytes.length ≤ 1000 then some (setBinary bytes) else none

theorem asByteArray_padded (fits : value < 256 ^ width) : asByteArray value width true =
    List.replicate (width - getNumBytes value) 0 ++ leBytes (getNumBytes value) value := by
  have narrow : getNumBytes value ≤ width := (byteWidth_le_iff value width).mpr fits
  simp [asByteArray, bn2bin, narrow]

theorem setBinary_asByteArray (fits : value < 256 ^ width) :
    setBinary (asByteArray value width true) = 256 ^ (width - getNumBytes value) * value := by
  have shifted (count : Nat) (bytes : Bytes) :
      ofLeBytes (List.replicate count 0 ++ bytes) = 256 ^ count * ofLeBytes bytes := by
    induction count with
    | zero => simp
    | succ count next =>
      simp [List.replicate_succ, ofLeBytes, next, pow_succ', Nat.mul_assoc]
  have own : value < 256 ^ getNumBytes value := (byteWidth_le_iff value _).mp (Nat.le_refl _)
  rw [asByteArray_padded fits, setBinary, shifted, ofLeBytes_leBytes own]

theorem setBinary_asByteArray_iff (fits : value < 256 ^ width) :
    setBinary (asByteArray value width true) = value ↔ value = 0 ∨ getNumBytes value = width := by
  have narrow : getNumBytes value ≤ width := (byteWidth_le_iff value width).mpr fits
  rw [setBinary_asByteArray fits]
  constructor
  · intro same
    by_cases zero : value = 0
    · exact .inl zero
    · have one : 256 ^ (width - getNumBytes value) = 1 :=
        Nat.eq_of_mul_eq_mul_right (Nat.pos_of_ne_zero zero) (same.trans (Nat.one_mul value).symm)
      have none := (Nat.pow_eq_one.mp one).resolve_left (by decide)
      omega
  · grind

/-- Only numbers of the full width, and 0, come through, in a buffer that holds them. -/
theorem asByteArray_roundTrip_iff (fits : value < 256 ^ width) :
    ((asByteArray value width true = leBytes width value ∧
        setBinaryInBuffer (asByteArray value width true) = some value) ↔
      width ≤ 1000 ∧ (value = 0 ∨ getNumBytes value = width)) ∧
    ∀ bytes : Bytes, bytes.length = width →
      ((setBinaryInBuffer bytes).map (asByteArray · width true) = some bytes ↔
        width ≤ 1000 ∧ (setBinary bytes = 0 ∨ getNumBytes (setBinary bytes) = width)) := by
  have encoded {number : Nat} (small : number < 256 ^ width) :
      asByteArray number width true = leBytes width number ↔
        number = 0 ∨ getNumBytes number = width := by
    rw [← setBinary_asByteArray_iff small]
    constructor
    · intro same
      rw [same]
      exact ofLeBytes_leBytes small
    · intro same
      have narrow : getNumBytes number ≤ width := (byteWidth_le_iff number width).mpr small
      have length : (asByteArray number width true).length = width := by
        simp [asByteArray_padded small, leBytes_length, narrow]
      rw [← leBytes_ofLeBytes_of_length length]
      exact congrArg (leBytes width) same
  constructor
  · rw [encoded fits, ← setBinary_asByteArray_iff fits]
    have length : (asByteArray value width true).length = width := by
      have narrow : getNumBytes value ≤ width := (byteWidth_le_iff value width).mpr fits
      simp [asByteArray_padded fits, leBytes_length, narrow]
    by_cases room : width ≤ 1000 <;> simp [setBinaryInBuffer, length, room]
  · intro bytes length
    have read := encoded (setBinary_lt length)
    have own : leBytes width (setBinary bytes) = bytes := leBytes_ofLeBytes_of_length length
    rw [own] at read
    by_cases room : width ≤ 1000 <;> simp [setBinaryInBuffer, length, room, read]

theorem asByteArray_roundTrip_iff_byte :
    (asByteArray 255 1 true = leBytes 1 255 ∧ setBinaryInBuffer (asByteArray 255 1 true) = some 255) ↔
      1 ≤ 1000 ∧ (255 = 0 ∨ getNumBytes 255 = 1) :=
  (asByteArray_roundTrip_iff (by decide)).1

/-- The number 1 in two bytes is read back as 256. -/
theorem asByteArray_shifts :
    asByteArray 1 2 true = [0, 1] ∧ leBytes 2 1 = [1, 0] ∧
      setBinaryInBuffer (asByteArray 1 2 true) = some 256 := by
  decide +kernel

def hexDigits : Nat → Nat → List Nat
  | 0, _ => []
  | width + 1, value => hexDigits width (value / 16) ++ [value % 16]

theorem hexDigit_of_lt {digit : Nat} (small : digit < 16) :
    hexDigit (if UInt8.ofNat digit < 10 then 48 + UInt8.ofNat digit else 55 + UInt8.ofNat digit) =
      some digit := by
  revert digit
  decide

theorem hexPrefix_hexText (width value : Nat) (tail : Bytes) :
    hexPrefix (hexText width value ++ tail) = hexDigits width value ++ hexPrefix tail := by
  induction width generalizing value tail with
  | zero => rfl
  | succ width ih =>
    have digit := hexDigit_of_lt (Nat.mod_lt value (by decide : 16 > 0))
    rw [hexText, List.append_assoc, ih, hexDigits, List.append_assoc, List.cons_append,
      List.nil_append, hexPrefix]
    simp only [digit, List.cons_append, List.nil_append]

theorem ofHexDigits_hexDigits (fits : value < 16 ^ width) :
    ofHexDigits (hexDigits width value) = value := by
  induction width generalizing value with
  | zero =>
    have valueZero : value = 0 := by
      simpa using fits
    rw [valueZero]
    rfl
  | succ width ih =>
    have restFits : value / 16 < 16 ^ width := by
      omega
    have snoc : ofHexDigits (hexDigits (width + 1) value) =
        ofHexDigits (hexDigits width (value / 16)) * 16 + value % 16 := by
      simp [ofHexDigits, hexDigits, List.foldl_append]
    rw [snoc, ih restFits]
    omega

theorem setHexStr_hexText (old : Nat) (fits : value < 16 ^ (width + 1)) :
    setHexStr old (hexText (width + 1) value) = value := by
  have digits : hexPrefix (hexText (width + 1) value) = hexDigits (width + 1) value := by
    have read := hexPrefix_hexText (width + 1) value []
    rw [List.append_nil] at read
    rw [read]
    exact List.append_nil _
  unfold setHexStr
  rw [digits]
  cases shape : hexDigits (width + 1) value with
  | nil =>
    rw [hexDigits] at shape
    exact absurd shape (by simp)
  | cons first rest =>
    have value := ofHexDigits_hexDigits fits
    rw [shape] at value
    exact value

theorem hexText_length (width value : Nat) : (hexText width value).length = width := by
  induction width generalizing value with
  | zero => rfl
  | succ width ih => rw [hexText, List.length_append, ih, List.length_singleton]

end BigNumber

/-- A digest function with `SHA_DIGEST_LENGTH` byte results; the proofs know
nothing else about it. -/
structure Sha1 where
  digest : Bytes → Bytes
  digest_length : ∀ message, (digest message).length = 20

/-- OpenSSL's function. -/
def sha1 : Sha1 where
  digest := Lib.Sha1.digest
  digest_length := Lib.Sha1.digest_length

namespace Sha1

/-- The bytes `UpdateBigNumbers` feeds: each number at its own width. -/
def updateBigNumbers (numbers : List Nat) : Bytes :=
  (numbers.map BigNumber.byteArray).flatten

end Sha1

end DarkCore
