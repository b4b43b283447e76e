/-
SHA-1 as an executable function on byte lists.

Words are natural numbers below `2 ^ 32`, so that the kernel evaluates a digest
with its own arithmetic.  The only law the protocol proofs need is the length of
the result; the function itself serves to run the protocol on real digests.
-/

import Mathlib.Data.List.Basic

namespace DarkCore.Lib.Sha1

def wordSize : Nat := 4294967296

/-- `next value`, with the value computed first: the kernel would otherwise carry
it on as an ever growing expression. -/
def strictly {Result : Type} (value : Nat) (next : Nat → Result) : Result :=
  match value with
  | 0 => next 0
  | previous + 1 => next (previous + 1)

def rotateLeft (amount word : Nat) : Nat :=
  ((word <<< amount) ||| (word >>> (32 - amount))) % wordSize

def words : List UInt8 → List Nat
  | first :: second :: third :: fourth :: rest =>
    strictly (((first.toNat * 256 + second.toNat) * 256 + third.toNat) * 256 + fourth.toNat)
      fun word => word :: words rest
  | _ => []

def wordBytes (word : Nat) : List UInt8 :=
  [UInt8.ofNat (word >>> 24), UInt8.ofNat (word >>> 16), UInt8.ofNat (word >>> 8), UInt8.ofNat word]

def schedule : Nat → List Nat → List Nat
  | count + 1, [w0, w1, w2, w3, w4, w5, w6, w7, w8, w9, w10, w11, w12, w13, w14, w15] =>
    strictly (rotateLeft 1 (w13 ^^^ w8 ^^^ w2 ^^^ w0)) fun next =>
      w0 :: schedule count
        [w1, w2, w3, w4, w5, w6, w7, w8, w9, w10, w11, w12, w13, w14, w15, next]
  | _, _ => []

structure State where
  a : Nat
  b : Nat
  c : Nat
  d : Nat
  e : Nat

def initial : State :=
  { a := 0x67452301, b := 0xEFCDAB89, c := 0x98BADCFE, d := 0x10325476, e := 0xC3D2E1F0 }

def mix (step b c d : Nat) : Nat :=
  if step < 20 then ((b &&& c) ||| ((wordSize - 1 - b) &&& d)) + 0x5A827999
  else if step < 40 then (b ^^^ c ^^^ d) + 0x6ED9EBA1
  else if step < 60 then ((b &&& c) ||| (b &&& d) ||| (c &&& d)) + 0x8F1BBCDC
  else (b ^^^ c ^^^ d) + 0xCA62C1D6

def rounds : Nat → List Nat → State → State
  | step, word :: rest, ⟨a, b, c, d, e⟩ =>
    strictly ((rotateLeft 5 a + mix step b c d + e + word) % wordSize) fun newA =>
      strictly (rotateLeft 30 b) fun newC =>
        rounds (step + 1) rest ⟨newA, a, newC, c, d⟩
  | _, [], state => state

def compress (state : State) (block : List UInt8) : State :=
  match state, rounds 0 (schedule 80 (words block)) state with
  | ⟨a, b, c, d, e⟩, ⟨a', b', c', d', e'⟩ =>
    strictly ((a + a') % wordSize) fun a =>
      strictly ((b + b') % wordSize) fun b =>
        strictly ((c + c') % wordSize) fun c =>
          strictly ((d + d') % wordSize) fun d =>
            strictly ((e + e') % wordSize) fun e => ⟨a, b, c, d, e⟩

def blocks : Nat → List UInt8 → State → State
  | 0, _, state => state
  | count + 1, bytes, state => blocks count (bytes.drop 64) (compress state (bytes.take 64))

def pad (message : List UInt8) : List UInt8 :=
  message ++ (0x80 : UInt8) :: List.replicate ((119 - message.length % 64) % 64) (0 : UInt8) ++
    wordBytes (message.length * 8 >>> 32) ++ wordBytes (message.length * 8)

def digest (message : List UInt8) : List UInt8 :=
  match blocks ((message.length + 72) / 64) (pad message) initial with
  | ⟨a, b, c, d, e⟩ => wordBytes a ++ wordBytes b ++ wordBytes c ++ wordBytes d ++ wordBytes e

theorem digest_length (message : List UInt8) : (digest message).length = 20 := by
  simp only [digest, List.length_append, wordBytes, List.length_cons, List.length_nil]

/-- The digest of `abc`. -/
example : digest [0x61, 0x62, 0x63] =
    [0xA9, 0x99, 0x3E, 0x36, 0x47, 0x06, 0x81, 0x6A, 0xBA, 0x3E,
     0x25, 0x71, 0x78, 0x50, 0xC2, 0x6C, 0x9C, 0xD0, 0xD8, 0x9D] := by
  decide +kernel

end DarkCore.Lib.Sha1
