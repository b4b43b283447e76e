/-
The arithmetic of SRP6 over a modulus and a generator, with multiplier 3: what
each side computes, and that both arrive at the same secret.
-/

import DarkCore.Lib.ModularPower

namespace DarkCore.Lib.Srp6

variable (modulus generator : Nat)

def verifier (x : Nat) : Nat := powMod generator x modulus

def clientPublic (a : Nat) : Nat := powMod generator a modulus

def serverPublic (v b : Nat) : Nat := (v * 3 + powMod generator b modulus) % modulus

def serverSecret (v b A u : Nat) : Nat := powMod (A * powMod v u modulus) b modulus

/-- `(B - 3 g^x) ^ (a + u x)`, the difference taken modulo the modulus. -/
def clientSecret (x a B u : Nat) : Nat :=
  powMod (B + 3 * (modulus - powMod generator x modulus)) (a + u * x) modulus

variable {modulus generator}

theorem cast_powMod (base exponent : Nat) :
    ((powMod base exponent modulus : Nat) : ZMod modulus) = (base : ZMod modulus) ^ exponent := by
  rw [powMod_eq, ZMod.natCast_mod, Nat.cast_pow]

theorem powMod_lt (positive : 0 < modulus) (base exponent : Nat) :
    powMod base exponent modulus < modulus := by
  rw [powMod_eq]
  exact Nat.mod_lt _ positive

theorem cast_unmasked (positive : 0 < modulus) (x b : Nat) :
    ((serverPublic modulus generator (verifier modulus generator x) b +
        3 * (modulus - powMod generator x modulus) : Nat) : ZMod modulus) =
      (generator : ZMod modulus) ^ b := by
  have small : powMod generator x modulus ≤ modulus := (powMod_lt positive generator x).le
  unfold serverPublic verifier
  push_cast [Nat.cast_sub small, ZMod.natCast_mod, cast_powMod, ZMod.natCast_self]
  ring

theorem clientSecret_eq_serverSecret (positive : 0 < modulus) (x a b u : Nat) :
    clientSecret modulus generator x a
        (serverPublic modulus generator (verifier modulus generator x) b) u =
      serverSecret modulus (verifier modulus generator x) b
        (clientPublic modulus generator a) u := by
  unfold clientSecret serverSecret
  rw [powMod_eq, powMod_eq _ b]
  apply (ZMod.natCast_eq_natCast_iff' _ _ modulus).mp
  rw [Nat.cast_pow, cast_unmasked positive, Nat.cast_pow, Nat.cast_mul]
  unfold clientPublic verifier
  rw [cast_powMod, cast_powMod, cast_powMod, ← pow_mul, ← pow_mul, ← pow_add, ← pow_mul]
  congr 1
  ring

end DarkCore.Lib.Srp6
