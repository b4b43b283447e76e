/-
Packed guids (`ByteBuffer::appendPackGUID`, `readPackGUID`): a mark with one bit for
each of the eight bytes, and those bytes that are not zero.
-/

import DarkCore.Shared.ByteBufferRoundTrip
import Mathlib.Data.Nat.Bitwise

namespace DarkCore.Shared

open Lib

namespace ByteBuffer

/-- The loop of `appendPackGUID` from position `i` on: `packGUID[0]` and the bytes behind it -/
def packLoop (guid i mark : Nat) (packed : List UInt8) : Nat × List UInt8 :=
  if guid = 0 then (mark, packed)
  else if guid &&& 0xFF ≠ 0 then
    packLoop (guid >>> 8) (i + 1) (mark ||| 1 <<< i) (packed ++ [UInt8.ofNat (guid &&& 0xFF)])
  else packLoop (guid >>> 8) (i + 1) mark packed
termination_by guid
decreasing_by all_goals rw [Nat.shiftRight_eq_div_pow]; omega

def packGUID (guid : UInt64) : List UInt8 :=
  let result := packLoop guid.toNat 0 0 []
  UInt8.ofNat result.1 :: result.2

def appendPackGUID (buffer : ByteBuffer) (guid : UInt64) : Option ByteBuffer :=
  buffer.append (packGUID guid)

def readMarked (guidmark : Nat) : List Nat → Nat → Reader Nat
  | [], guid => Reader.yield guid
  | i :: rest, guid =>
    if guidmark.testBit i then
      (readBytes 1).andThen fun bytes =>
        readMarked guidmark rest (guid ||| ofLeBytes bytes <<< (i * 8))
    else readMarked guidmark rest guid

def readPackGUID : Reader UInt64 :=
  (readBytes 1).andThen fun bytes =>
    (readMarked (ofLeBytes bytes) (List.range 8) 0).andThen fun guid =>
      Reader.yield (UInt64.ofNat guid)

def marks : List UInt8 → Nat
  | [] => 0
  | byte :: rest => Nat.bit (byte ≠ 0) (marks rest)

def nonzero (bytes : List UInt8) : List UInt8 := bytes.filter (· ≠ 0)

theorem testBit_marks (bytes : List UInt8) (i : Nat) :
    (marks bytes).testBit i = decide (bytes.getD i 0 ≠ 0) := by
  induction bytes generalizing i with
  | nil => simp [marks]
  | cons byte rest ih =>
    cases i with
    | zero => simp [marks]
    | succ i => simp [marks, Nat.testBit_bit_succ, ih]

theorem marks_lt (bytes : List UInt8) : marks bytes < 2 ^ bytes.length := by
  induction bytes with
  | nil => simp [marks]
  | cons byte rest ih =>
    rw [marks, Nat.bit_val, List.length_cons, pow_succ]
    cases decide (byte ≠ 0) <;> simp <;> omega

theorem marks_zeros (width : Nat) : marks (leBytes width 0) = 0 := by
  induction width with
  | zero => rfl
  | succ width ih => simp [leBytes, marks, ih]

theorem nonzero_zeros (width : Nat) : nonzero (leBytes width 0) = [] := by
  induction width with
  | zero => rfl
  | succ width ih => simpa [leBytes, nonzero] using ih

theorem packLoop_eq (width : Nat) {guid i mark : Nat} (packed : List UInt8) (fits : guid < 256 ^ width)
    (free : mark < 2 ^ i) :
    packLoop guid i mark packed =
      (mark + 2 ^ i * marks (leBytes width guid), packed ++ nonzero (leBytes width guid)) := by
  induction width generalizing guid i mark packed with
  | zero =>
    have none_left : guid = 0 := by simpa using fits
    simp [packLoop, none_left, leBytes, marks, nonzero]
  | succ width ih =>
    by_cases done : guid = 0
    · simp [packLoop, done, marks_zeros, nonzero_zeros]
    · have restFits : guid / 256 < 256 ^ width := by
        omega
      have low : guid &&& 255 = guid % 256 := Nat.and_two_pow_sub_one_eq_mod guid 8
      have set : mark ||| 1 <<< i = mark + 2 ^ i := by
        have sum := Nat.two_pow_add_eq_or_of_lt free 1
        rw [Nat.mul_one] at sum
        rw [Nat.one_shiftLeft, Nat.or_comm, ← sum, Nat.add_comm]
      have wider : 2 ^ (i + 1) = 2 * 2 ^ i := by rw [pow_succ, Nat.mul_comm]
      have byte : UInt8.ofNat guid = 0 ↔ guid % 256 = 0 := by
        rw [← UInt8.toNat_inj, UInt8.toNat_ofNat']
        rfl
      have same : UInt8.ofNat (guid % 256) = UInt8.ofNat guid := by
        rw [← UInt8.toNat_inj, UInt8.toNat_ofNat', UInt8.toNat_ofNat', Nat.mod_mod]
      rw [packLoop, if_neg done, low, set, Nat.shiftRight_eq_div_pow]
      by_cases present : guid % 256 = 0
      · rw [if_neg (not_not.mpr present), ih packed restFits (by omega)]
        simp [leBytes, marks, nonzero, byte.mpr present, Nat.bit_val, wider]
        ring
      · rw [if_pos present, ih _ restFits (by omega)]
        simp [leBytes, marks, nonzero, mt byte.mp present, Nat.bit_val, wider, same]
        ring

theorem packGUID_eq (guid : UInt64) :
    packGUID guid =
      UInt8.ofNat (marks (leBytes 8 guid.toNat)) :: nonzero (leBytes 8 guid.toNat) := by
  have packed : packLoop guid.toNat 0 0 [] = _ := packLoop_eq 8 [] guid.toNat_lt (by decide)
  simp only [packGUID, packed, Nat.zero_add, pow_zero, Nat.one_mul, List.nil_append]

theorem or_byte {guid i : Nat} (byte : UInt8) (low : guid < 256 ^ i) :
    guid ||| byte.toNat <<< (i * 8) = guid + 256 ^ i * byte.toNat := by
  have power : 256 ^ i = 2 ^ (i * 8) := by
    rw [Nat.mul_comm, pow_mul]
    rfl
  rw [power] at low ⊢
  rw [Nat.or_comm, Nat.shiftLeft_eq, Nat.mul_comm, ← Nat.two_pow_add_eq_or_of_lt low, Nat.add_comm]

theorem or_byte_lt {guid i : Nat} (byte : UInt8) (low : guid < 256 ^ i) :
    guid + 256 ^ i * byte.toNat < 256 ^ (i + 1) := by
  have small : byte.toNat + 1 ≤ 256 := byte.toNat_lt
  calc
    guid + 256 ^ i * byte.toNat < 256 ^ i + 256 ^ i * byte.toNat := Nat.add_lt_add_right low _
    _ = 256 ^ i * (byte.toNat + 1) := by rw [Nat.mul_add_one, Nat.add_comm]
    _ ≤ 256 ^ (i + 1) := by
      rw [pow_succ]
      exact Nat.mul_le_mul_left _ small

theorem reads_marked {guidmark : Nat} (bytes : List UInt8) {i guid : Nat} (low : guid < 256 ^ i)
    (marked : ∀ j < bytes.length, guidmark.testBit (i + j) = decide (bytes.getD j 0 ≠ 0)) :
    Reads (nonzero bytes) (readMarked guidmark (List.range' i bytes.length) guid)
      (guid + 256 ^ i * ofLeBytes bytes) := by
  induction bytes generalizing i guid with
  | nil => exact reads_yield _
  | cons byte rest ih =>
    have first : guidmark.testBit i = decide (byte ≠ 0) := marked 0 (Nat.zero_lt_succ _)
    have later : ∀ j < rest.length,
        guidmark.testBit (i + 1 + j) = decide (rest.getD j 0 ≠ 0) := by
      intro j inside
      have shifted := marked (j + 1) (Nat.succ_lt_succ inside)
      rwa [List.getD_cons_succ, ← Nat.add_assoc, Nat.add_right_comm] at shifted
    have value : guid + 256 ^ i * ofLeBytes (byte :: rest) =
        guid + 256 ^ i * byte.toNat + 256 ^ (i + 1) * ofLeBytes rest := by
      rw [ofLeBytes, pow_succ]
      ring
    rw [List.length_cons, List.range'_succ, readMarked, value]
    by_cases zero : byte = 0
    · have wider : guid < 256 ^ (i + 1) := by
        omega
      have plain := ih wider later
      simpa [zero, first, nonzero] using plain
    · have next := ih (or_byte_lt byte low) later
      have one : Reads [byte] (readBytes 1) [byte] := reads_bytes rfl Nat.one_pos
      have both : Reads ([byte] ++ nonzero rest) ((readBytes 1).andThen fun bytes =>
          readMarked guidmark (List.range' (i + 1) rest.length)
            (guid ||| ofLeBytes bytes <<< (i * 8))) _ :=
        one.andThen (by simpa [ofLeBytes, or_byte byte low] using next)
      simpa [zero, first, nonzero] using both

theorem drop_of_append {buffer after : ByteBuffer} {bytes : List UInt8} (notNil : bytes ≠ [])
    (appended : buffer.append bytes = some after) :
    ∃ rest, after.storage.drop buffer.wpos = bytes ++ rest := by
  unfold append at appended
  rw [if_neg notNil] at appended
  split at appended
  · grind [List.append_assoc, size]
  · contradiction

theorem readPackGUID_packGUID (guid : UInt64) : Reads (packGUID guid) readPackGUID guid := by
  have small := marks_lt (leBytes 8 guid.toNat)
  rw [leBytes_length] at small
  have mark : ofLeBytes [UInt8.ofNat (marks (leBytes 8 guid.toNat))] =
      marks (leBytes 8 guid.toNat) := by
    simp [ofLeBytes]
    exact small
  have body := @reads_marked (marks (leBytes 8 guid.toNat)) (leBytes 8 guid.toNat) 0 0 (by decide)
    fun j _ => by rw [Nat.zero_add, testBit_marks]
  rw [ofLeBytes_leBytes guid.toNat_lt, leBytes_length, ← List.range_eq_range'] at body
  have one : Reads [UInt8.ofNat (marks (leBytes 8 guid.toNat))] (readBytes 1) _ :=
    reads_bytes rfl Nat.one_pos
  have read : Reads _ readPackGUID _ := one.andThen (by rw [mark]; exact body.yield UInt64.ofNat)
  simpa [packGUID_eq, readPackGUID] using read

def Took (bytes : List UInt8) (buffer after : ByteBuffer) : Prop :=
  after = { buffer with rpos := buffer.rpos + bytes.length } ∧
    ∃ rest, buffer.storage.drop buffer.rpos = bytes ++ rest

theorem Took.append {first second : List UInt8} {buffer middle after : ByteBuffer}
    (one : Took first buffer middle) (other : Took second middle after) :
    Took (first ++ second) buffer after := by
  obtain ⟨rfl, rest, comes⟩ := one
  obtain ⟨rfl, more, next⟩ := other
  refine ⟨by simp [Nat.add_assoc], more, ?_⟩
  rw [comes, List.append_assoc, ← next]
  exact congrArg (first ++ ·) (drop_after comes).symm

theorem readBytes_one {buffer after : ByteBuffer} {bytes : List UInt8}
    (ran : readBytes 1 buffer = .ok (bytes, after)) :
    ∃ byte, bytes = [byte] ∧ Took [byte] buffer after := by
  unfold readBytes at ran
  split at ran
  · contradiction
  · rename_i fits
    cases ran
    cases remaining : buffer.storage.drop buffer.rpos with
    | nil =>
      have empty := List.drop_eq_nil_iff.mp remaining
      exact absurd (show buffer.rpos + 1 > buffer.storage.length by omega) fits
    | cons byte rest => exact ⟨byte, rfl, rfl, rest, remaining⟩

theorem andThen_ok {α β : Type} {reader : Reader α} {next : α → Reader β} {buffer : ByteBuffer}
    {result : β × ByteBuffer} (ran : (reader.andThen next) buffer = .ok result) :
    ∃ value middle, reader buffer = .ok (value, middle) ∧ next value middle = .ok result := by
  unfold Reader.andThen at ran
  split at ran
  · contradiction
  · simp_all

theorem readMarked_took {guidmark : Nat} (count : Nat) {i guid value : Nat}
    {buffer after : ByteBuffer} (low : guid < 256 ^ i)
    (ran : readMarked guidmark (List.range' i count) guid buffer = .ok (value, after)) :
    ∃ bytes taken : List UInt8, bytes.length = count ∧ Took taken buffer after ∧
      value = guid + 256 ^ i * ofLeBytes bytes ∧
      ((∀ j < count, guidmark.testBit (i + j) → bytes.getD j 0 ≠ 0) → taken = nonzero bytes ∧
          ∀ j < count, guidmark.testBit (i + j) = decide (bytes.getD j 0 ≠ 0)) := by
  induction count generalizing i guid buffer with
  | zero =>
    cases ran
    exact ⟨[], [], rfl, ⟨rfl, _, rfl⟩, by simp [ofLeBytes], fun _ => ⟨rfl, by simp⟩⟩
  | succ count ih =>
    rw [List.range'_succ, readMarked] at ran
    split at ran
    · rename_i set
      obtain ⟨bytes, middle, first, later⟩ := andThen_ok ran
      obtain ⟨byte, rfl, one⟩ := readBytes_one first
      have whole : ofLeBytes [byte] = byte.toNat := by simp [ofLeBytes]
      rw [whole, or_byte byte low] at later
      obtain ⟨rest, taken, length, others, value, exact⟩ := ih (or_byte_lt byte low) later
      refine ⟨byte :: rest, byte :: taken, by simp [length], one.append others, ?_, ?_⟩
      · rw [value, ofLeBytes, pow_succ]
        ring
      · intro filled
        have present : byte ≠ 0 := filled 0 (Nat.zero_lt_succ _) set
        obtain ⟨same, marked⟩ := exact fun j inside bit =>
          filled (j + 1) (Nat.succ_lt_succ inside) (by rwa [← Nat.add_assoc, Nat.add_right_comm])
        refine ⟨by simp [nonzero, present, same], fun j inside => ?_⟩
        cases j with
        | zero => simp [set, present]
        | succ j =>
          have bit := marked j (Nat.lt_of_succ_lt_succ inside)
          rwa [Nat.add_right_comm, Nat.add_assoc] at bit
    · rename_i unset
      obtain ⟨rest, taken, length, others, value, exact⟩ :=
        ih (i := i + 1) (by rw [pow_succ]; omega) ran
      refine ⟨0 :: rest, taken, by simp [length], others, ?_, ?_⟩
      · rw [value, ofLeBytes, pow_succ]
        simp
        ring
      · intro filled
        obtain ⟨same, marked⟩ := exact fun j inside bit =>
          filled (j + 1) (Nat.succ_lt_succ inside) (by rwa [← Nat.add_assoc, Nat.add_right_comm])
        refine ⟨by simp [nonzero, same], fun j inside => ?_⟩
        cases j with
        | zero => simpa using unset
        | succ j =>
          have bit := marked j (Nat.lt_of_succ_lt_succ inside)
          rwa [Nat.add_right_comm, Nat.add_assoc] at bit

theorem packGUID_of_read {buffer after : ByteBuffer} {guid : UInt64} {guidmark : UInt8}
    (ran : readPackGUID buffer = .ok (guid, after))
    (at_mark : buffer.storage[buffer.rpos]? = some guidmark)
    (filled : ∀ i < 8, guidmark.toNat.testBit i → (leBytes 8 guid.toNat).getD i 0 ≠ 0) :
    Took (packGUID guid) buffer after := by
  obtain ⟨mark, middle, first, later⟩ := andThen_ok ran
  obtain ⟨byte, rfl, one⟩ := readBytes_one first
  obtain ⟨value, last, body, yields⟩ := andThen_ok later
  have isMark : byte = guidmark := by
    obtain ⟨rest, comes⟩ := one.2
    have head := congrArg (fun bytes => bytes[0]?) comes
    simpa [at_mark] using head.symm
  subst isMark
  cases yields
  rw [List.range_eq_range'] at body
  obtain ⟨bytes, taken, length, others, equal, exact⟩ := readMarked_took 8 (by decide) body
  have bound : ofLeBytes bytes < 2 ^ 64 := by simpa [length] using ofLeBytes_lt bytes
  have whole : value = ofLeBytes bytes := by simpa using equal
  have digits : leBytes 8 (UInt64.ofNat value).toNat = bytes := by
    rw [UInt64.toNat_ofNat', whole, Nat.mod_eq_of_lt bound, ← length, leBytes_ofLeBytes]
  rw [digits] at filled
  obtain ⟨same, marked⟩ := exact fun j inside bit => filled j inside (by simpa [ofLeBytes] using bit)
  have mark : marks bytes = byte.toNat := by
    apply Nat.eq_of_testBit_eq
    intro j
    rw [testBit_marks]
    by_cases inside : j < 8
    · simpa [ofLeBytes] using (marked j inside).symm
    · have beyond : byte.toNat.testBit j = false :=
        Nat.testBit_lt_two_pow
          (lt_of_lt_of_le byte.toNat_lt (Nat.pow_le_pow_right (by decide) (by omega)))
      simp [beyond, length, Nat.not_lt.mp inside]
  rw [packGUID_eq, digits, mark, ← same, UInt8.ofNat_toNat]
  exact one.append others

/-- Reading undoes writing, and writing gives back what was read, unless a byte that was marked
is zero. -/
theorem packGUID_roundTrip :
    (∀ (guid : UInt64) (buffer after : ByteBuffer), buffer.appendPackGUID guid = some after →
      readPackGUID { after with rpos := buffer.wpos } = .ok (guid, { after with
          rpos := buffer.wpos + (1 + (nonzero (leBytes 8 guid.toNat)).length) })) ∧
      ∀ (buffer after : ByteBuffer) (guid : UInt64) (guidmark : UInt8),
        readPackGUID buffer = .ok (guid, after) →
        buffer.storage[buffer.rpos]? = some guidmark →
        (∀ i < 8, guidmark.toNat.testBit i → (leBytes 8 guid.toNat).getD i 0 ≠ 0) →
          Took (packGUID guid) buffer after := by
  constructor
  · intro guid buffer after appended
    obtain ⟨rest, comes⟩ := drop_of_append (by simp [packGUID]) appended
    have read := readPackGUID_packGUID guid { after with rpos := buffer.wpos } rest comes
    rw [read, packGUID_eq, List.length_cons, Nat.add_comm 1]
  · intro buffer after guid guidmark ran at_mark filled
    exact packGUID_of_read ran at_mark filled

/-- However many packed guids follow each other, their bytes tell them apart. -/
theorem packGUIDs_injective :
    Function.Injective fun guids : List UInt64 => guids.flatMap packGUID := by
  intro guids
  induction guids with
  | nil =>
    rintro (_ | ⟨other, others⟩) same
    · rfl
    · cases same
  | cons guid rest ih =>
    rintro (_ | ⟨other, others⟩) same
    · cases same
    · dsimp only at same
      rw [List.flatMap_cons, List.flatMap_cons] at same
      let buffer : ByteBuffer := { storage := packGUID guid ++ rest.flatMap packGUID }
      have one := readPackGUID_packGUID guid buffer _ rfl
      have equal : guid = other := by
        rw [readPackGUID_packGUID other buffer _ same] at one
        cases one
        rfl
      rw [equal] at same
      rw [equal, ih (List.append_cancel_left same)]

end ByteBuffer

end DarkCore.Shared
