/-
Modular powers that the kernel can evaluate, and primality from them.

`modPow` is square-and-multiply over a bounded number of exponent bits, so a
256-bit power costs a few hundred multiplications instead of an astronomically
large intermediate value.  The second half turns Lucas's criterion into a test
over explicit factor lists, which is how the group modulus of the login
protocol is certified.
-/

import Mathlib.NumberTheory.LucasPrimality

namespace DarkCore.Lib

/-- `base ^ exponent % modulus`, reading `bits` low bits of the exponent. -/
def modPow (modulus : Nat) : Nat → Nat → Nat → Nat
  | 0, _, _ => 1 % modulus
  | bits + 1, base, exponent =>
    if exponent % 2 = 1 then
      base * modPow modulus bits (base * base % modulus) (exponent / 2) % modulus
    else
      modPow modulus bits (base * base % modulus) (exponent / 2)

theorem sq_mod_pow (modulus base exponent : Nat) :
    (base * base % modulus) ^ exponent % modulus =
      base ^ (2 * exponent) % modulus := by
  rw [← Nat.pow_mod, ← pow_two, ← pow_mul]

theorem modPow_eq (modulus bits base exponent : Nat)
    (fits : exponent < 2 ^ bits) :
    modPow modulus bits base exponent = base ^ exponent % modulus := by
  induction bits generalizing base exponent with
  | zero =>
    have exponentZero : exponent = 0 := by
      simpa using fits
    subst exponent
    rfl
  | succ bits ih =>
    have halfFits : exponent / 2 < 2 ^ bits := by
      omega
    have half :
        modPow modulus bits (base * base % modulus) (exponent / 2) =
          base ^ (2 * (exponent / 2)) % modulus := by
      rw [ih _ _ halfFits, sq_mod_pow]
    unfold modPow
    rw [half]
    by_cases odd : exponent % 2 = 1
    · have split : exponent = 2 * (exponent / 2) + 1 := by
        omega
      rw [if_pos odd, Nat.mul_mod_mod, ← pow_succ', ← split]
    · have split : 2 * (exponent / 2) = exponent := by
        omega
      rw [if_neg odd, split]

/-- `base ^ exponent % modulus`, over as many bits as the exponent has. -/
def powMod (base exponent modulus : Nat) : Nat :=
  modPow modulus (exponent.log2 + 1) base exponent

theorem powMod_eq (base exponent modulus : Nat) :
    powMod base exponent modulus = base ^ exponent % modulus :=
  modPow_eq modulus _ base exponent Nat.lt_log2_self

theorem natCast_pow_eq_one_iff {modulus : Nat} (large : 1 < modulus)
    (base exponent : Nat) :
    ((base : ZMod modulus) ^ exponent = 1) ↔
      base ^ exponent % modulus = 1 := by
  rw [← Nat.cast_pow, ← Nat.cast_one, ZMod.natCast_eq_natCast_iff', Nat.mod_eq_of_lt large]

/-- The certificate test for `candidate`: `factors` multiplies up to
`candidate - 1`, and `base` has no smaller order than that. -/
def lucasTest (bits candidate base : Nat) (factors : List Nat) : Bool :=
  decide (1 < candidate) && decide (candidate ≤ 2 ^ bits) &&
    decide (factors.prod = candidate - 1) &&
    decide (modPow candidate bits base (candidate - 1) = 1) &&
    factors.all fun factor =>
      decide (modPow candidate bits base ((candidate - 1) / factor) ≠ 1)

theorem prime_of_lucasTest (bits base : Nat) (factors : List Nat) {candidate : Nat}
    (factorsPrime : ∀ factor ∈ factors, factor.Prime)
    (passed : lucasTest bits candidate base factors = true) :
    candidate.Prime := by
  simp only [lucasTest, Bool.and_eq_true, decide_eq_true_eq, List.all_eq_true] at passed
  obtain ⟨⟨⟨⟨large, small⟩, product⟩, full⟩, proper⟩ := passed
  have fits (exponent : Nat) (bound : exponent ≤ candidate - 1) :
      exponent < 2 ^ bits := by
    omega
  apply lucas_primality candidate (base : ZMod candidate)
  · rw [natCast_pow_eq_one_iff large, ← modPow_eq _ _ _ _ (fits _ le_rfl)]
    exact full
  · intro divisor divisorPrime divides
    rw [← product] at divides
    obtain ⟨factor, member, divisorDivides⟩ :=
      (Prime.dvd_prod_iff divisorPrime.prime).mp divides
    have same : divisor = factor :=
      (Nat.prime_dvd_prime_iff_eq divisorPrime (factorsPrime factor member)).mp divisorDivides
    subst divisor
    rw [ne_eq, natCast_pow_eq_one_iff large, ← modPow_eq _ _ _ _ (fits _ (Nat.div_le_self _ _))]
    exact proper factor member

end DarkCore.Lib
