/-
Wide strings (`Util.cpp`). A valid UTF-8 string is the list of its code points,
which `distance` counts; a wide string has 16-bit units, two of them for a code
point outside the basic plane. There is no result where a string is written past
its end.
-/

import Mathlib.Data.List.Basic

namespace DarkCore.Shared

/-- `utf8to16` of a code point -/
def units (codePoint : Char) : List Nat :=
  if codePoint.toNat < 0x10000 then [codePoint.toNat]
  else [0xD7C0 + codePoint.toNat / 0x400, 0xDC00 + codePoint.toNat % 0x400]

def utf8to16 (utf8str : List Char) : List Nat := utf8str.flatMap units

def isLead (unit : Nat) : Prop := 0xD800 ≤ unit ∧ unit ≤ 0xDBFF

def isTrail (unit : Nat) : Prop := 0xDC00 ≤ unit ∧ unit ≤ 0xDFFF

instance (unit : Nat) : Decidable (isLead unit) := instDecidableAnd

instance (unit : Nat) : Decidable (isTrail unit) := instDecidableAnd

/-- `utf16to8`, which throws at half of a pair -/
def utf16to8 : List Nat → Option (List Char)
  | [] => some []
  | unit :: rest =>
    if isLead unit then
      match rest with
      | trail :: rest =>
        if isTrail trail then
          (utf16to8 rest).map (Char.ofNat ((unit - 0xD7C0) * 0x400 + (trail - 0xDC00)) :: ·)
        else none
      | [] => none
    else if isTrail unit then none
    else (utf16to8 rest).map (Char.ofNat unit :: ·)

/-- `Utf8toWStr` into a buffer: the units of the text, and the place of the terminator -/
def utf8toWStrBuffer (utf8str : List Char) (wsize : Nat) : List Nat × Option Nat :=
  if wsize < utf8str.length then ([], if 0 < wsize then some 0 else none)
  else (utf8to16 utf8str, some utf8str.length)

/-- `Utf8toWStr` into a `std::wstring` that is resized to the code points -/
def utf8toWStr (utf8str : List Char) : Option (List Nat) :=
  if utf8str.length < (utf8to16 utf8str).length then none else some (utf8to16 utf8str)

def wStrToUtf8 (wstr : List Nat) : List Char := (utf16to8 wstr).getD []

def utf8truncate (utf8str : List Char) (len : Nat) : Option (List Char) :=
  if utf8str.length ≤ len then some utf8str
  else (utf8toWStr utf8str).map fun wstr => wStrToUtf8 (wstr.take len)

def pairs (utf8str : List Char) : Nat := utf8str.countP fun codePoint => 0x10000 ≤ codePoint.toNat

theorem length_utf8to16 (utf8str : List Char) :
    (utf8to16 utf8str).length = utf8str.length + pairs utf8str := by
  induction utf8str with
  | nil => rfl
  | cons codePoint rest induction =>
    simp only [utf8to16, pairs, List.flatMap_cons, List.length_append, List.countP_cons,
      List.length_cons] at induction ⊢
    rw [induction, units]
    rcases Nat.lt_or_ge codePoint.toNat 0x10000 with small | large
    · rw [if_pos small, if_neg (by simpa using small), List.length_singleton]
      omega
    · rw [if_neg (Nat.not_lt.mpr large), if_pos (by simpa using large)]
      simp only [List.length_cons, List.length_nil]
      omega

theorem utf8to16_of_basic {utf8str : List Char} (basic : pairs utf8str = 0) :
    utf8to16 utf8str = utf8str.map Char.toNat := by
  induction utf8str with
  | nil => rfl
  | cons codePoint rest induction =>
    simp only [pairs, List.countP_cons, Nat.add_eq_zero_iff] at basic
    have small : codePoint.toNat < 0x10000 := by simpa using basic.2
    rw [utf8to16, List.flatMap_cons, units, if_pos small, List.map_cons]
    exact congrArg _ (induction basic.1)

theorem wStrToUtf8_map (utf8str : List Char) : wStrToUtf8 (utf8str.map Char.toNat) = utf8str := by
  have decoded : utf16to8 (utf8str.map Char.toNat) = some utf8str := by
    induction utf8str with
    | nil => rfl
    | cons codePoint rest induction =>
      have valid : codePoint.toNat < 0xD800 ∨ 0xDFFF < codePoint.toNat := by
        have := codePoint.valid
        simp only [UInt32.isValidChar, Nat.isValidChar] at this
        unfold Char.toNat
        omega
      have noLead : ¬ isLead codePoint.toNat := by
        unfold isLead
        omega
      have noTrail : ¬ isTrail codePoint.toNat := by
        unfold isTrail
        omega
      rw [List.map_cons, utf16to8.eq_def]
      dsimp only
      rw [if_neg noLead, if_neg noTrail, induction, Char.ofNat_toNat]
      rfl
  rw [wStrToUtf8, decoded]
  rfl

/-- When the buffer takes the text, and with its terminator, when a string comes back from a wide
string, and when it is truncated to code points -/
theorem wideStrings_right_iff (utf8str : List Char) (wsize len : Nat) :
    ((utf8toWStrBuffer utf8str wsize).1.length ≤ wsize ↔
      wsize < utf8str.length ∨ utf8str.length + pairs utf8str ≤ wsize) ∧
    ((utf8toWStrBuffer utf8str wsize).1.length ≤ wsize ∧
        (∀ place ∈ (utf8toWStrBuffer utf8str wsize).2, place < wsize) ↔ wsize < utf8str.length ∨
        utf8str.length < wsize ∧ utf8str.length + pairs utf8str ≤ wsize) ∧
    ((utf8toWStr utf8str).map wStrToUtf8 = some utf8str ↔ pairs utf8str = 0) ∧
    (utf8truncate utf8str len = some (utf8str.take (min len utf8str.length)) ↔
      utf8str.length ≤ len ∨ pairs utf8str = 0) := by
  have length := length_utf8to16 utf8str
  have wide : utf8toWStr utf8str =
      if pairs utf8str = 0 then some (utf8str.map Char.toNat) else none := by
    unfold utf8toWStr
    split
    · rw [if_neg (by omega)]
    · have basic : pairs utf8str = 0 := by omega
      rw [if_pos basic, utf8to16_of_basic basic]
  refine ⟨?_, ?_, ?_, ?_⟩
  · unfold utf8toWStrBuffer
    split <;> simp <;> omega
  · unfold utf8toWStrBuffer
    split <;> simp <;> omega
  · rw [wide]
    split <;> simp_all [wStrToUtf8_map]
  · rw [utf8truncate, wide]
    split
    · rename_i short
      simp [short, List.take_of_length_le]
    · rename_i long
      split
      · rename_i basic
        have shorter : min len utf8str.length = len := by omega
        simp [basic, ← List.map_take, wStrToUtf8_map, shorter]
      · simp_all

/-- With a code point outside the basic plane, all three go wrong. -/
theorem wideStrings_pair :
    let utf8str := [Char.ofNat 0x10000, 'a']
    ¬ (utf8toWStrBuffer utf8str 2).1.length ≤ 2 ∧
      (utf8toWStr utf8str).map wStrToUtf8 ≠ some utf8str ∧
      utf8truncate utf8str 1 ≠ some (utf8str.take 1) := by
  decide

end DarkCore.Shared
