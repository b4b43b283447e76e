/-
The group of the login protocol.

The modulus set in the constructor is prime, with a certificate whose largest
links are the Sophie Germain prime below it and the 141-bit factor of that
prime's predecessor.  Over a prime modulus the server's shared secret vanishes
in exactly one way, which the safeguard of the proof handler does not cover.
-/

import Mathlib.Tactic.NormNum.Prime
import DarkCore.Auth.AuthSocket

namespace DarkCore.Auth

open Lib
open BigNumber

private theorem prime_29643608591 : Nat.Prime 29643608591 := by
  have factors : ∀ factor ∈ [2, 5, 73, 40607683], Nat.Prime factor := by
    norm_num
  exact prime_of_lucasTest 40 7 _ factors rfl

private theorem prime_118574434367 : Nat.Prime 118574434367 := by
  have half : Nat.Prime 59287217183 := by
    have factors : ∀ factor ∈ [2, 29643608591], Nat.Prime factor := by
      simp only [List.forall_mem_cons, Nat.prime_two, prime_29643608591, List.not_mem_nil,
        false_implies, implies_true, and_self]
    exact prime_of_lucasTest 40 5 _ factors rfl
  have factors : ∀ factor ∈ [2, 59287217183], Nat.Prime factor := by
    simp only [List.forall_mem_cons, Nat.prime_two, half, List.not_mem_nil,
      false_implies, implies_true, and_self]
  exact prime_of_lucasTest 40 5 _ factors rfl

private theorem prime_3110557453940813197 : Nat.Prime 3110557453940813197 := by
  have cofactor : Nat.Prime 259213121161734433 := by
    have factors : ∀ factor ∈ [2, 2, 2, 2, 2, 3, 7, 11, 571, 226199, 271499],
        Nat.Prime factor := by
      norm_num
    exact prime_of_lucasTest 60 10 _ factors rfl
  have factors : ∀ factor ∈ [2, 2, 3, 259213121161734433], Nat.Prime factor := by
    simp only [List.forall_mem_cons, Nat.prime_two, Nat.prime_three, cofactor,
      List.not_mem_nil, false_implies, implies_true, and_self]
  exact prime_of_lucasTest 64 2 _ factors rfl

private theorem prime_1573682880936379 : Nat.Prime 1573682880936379 := by
  have small : Nat.Prime 2194081313 := by
    have factors : ∀ factor ∈ [2, 2, 2, 2, 2, 6079, 11279], Nat.Prime factor := by
      norm_num
    exact prime_of_lucasTest 32 3 _ factors rfl
  have cofactor : Nat.Prime 6099546050141 := by
    have factors : ∀ factor ∈ [2, 2, 5, 139, 2194081313], Nat.Prime factor := by
      simp only [List.forall_mem_cons, Nat.prime_two, Nat.prime_five, small,
        List.not_mem_nil, false_implies, implies_true, and_true, true_and]
      norm_num
    exact prime_of_lucasTest 44 2 _ factors rfl
  have factors : ∀ factor ∈ [2, 3, 43, 6099546050141], Nat.Prime factor := by
    simp only [List.forall_mem_cons, Nat.prime_two, Nat.prime_three, cofactor,
      List.not_mem_nil, false_implies, implies_true, and_true, true_and]
    norm_num
  exact prime_of_lucasTest 52 2 _ factors rfl

private theorem prime_3345116454683 : Nat.Prime 3345116454683 := by
  have factors : ∀ factor ∈ [2, 311, 769, 6993499], Nat.Prime factor := by
    norm_num
  exact prime_of_lucasTest 44 2 _ factors rfl

private theorem prime_2279079126837977412406933585396045119937459 :
    Nat.Prime 2279079126837977412406933585396045119937459 := by
  have factors : ∀ factor ∈
      [2, 3, 7, 31, 11839, 28086973, 3345116454683, 1573682880936379],
      Nat.Prime factor := by
    simp only [List.forall_mem_cons, Nat.prime_two, Nat.prime_three, prime_3345116454683,
      prime_1573682880936379, List.not_mem_nil, false_implies, implies_true, and_true, true_and]
    norm_num
  exact prime_of_lucasTest 142 3 _ factors (by decide +kernel)

/-- `(N - 1) / 2`, so that `N` is a safe prime. -/
private theorem prime_half_srpN :
    Nat.Prime 31050033254578008671034748070451474931624879168000398464283220585146864324059 := by
  have factors : ∀ factor ∈
      [2, 11, 23, 73, 118574434367, 3110557453940813197,
        2279079126837977412406933585396045119937459], Nat.Prime factor := by
    simp only [List.forall_mem_cons, Nat.prime_two, prime_118574434367,
      prime_3110557453940813197, prime_2279079126837977412406933585396045119937459,
      List.not_mem_nil, false_implies, implies_true, and_true, true_and]
    norm_num
  exact prime_of_lucasTest 256 2 _ factors (by decide +kernel)

theorem srpN_prime : Nat.Prime srpN := by
  have factors : ∀ factor ∈
      [2, 31050033254578008671034748070451474931624879168000398464283220585146864324059],
      Nat.Prime factor := by
    simp only [List.forall_mem_cons, Nat.prime_two, prime_half_srpN, List.not_mem_nil,
      false_implies, implies_true, and_self]
  exact prime_of_lucasTest 256 7 _ factors (by decide +kernel)

theorem srpN_lt : srpN < 256 ^ 32 := by
  decide

theorem dvd_of_lt_iff {A : Nat} (small : A < 256 ^ 32) (nonzero : A ≠ 0) :
    srpN ∣ A ↔ A = srpN := by
  constructor
  · rintro ⟨factor, product⟩
    have twice : 256 ^ 32 < srpN * 2 := by
      decide
    have factorSmall : factor < 2 := by
      by_contra large
      have grows : srpN * 2 ≤ srpN * factor := Nat.mul_le_mul_left srpN (by omega)
      omega
    have factorPos : factor ≠ 0 := by
      simp_all
    have factorOne : factor = 1 := by
      omega
    rw [product, factorOne, Nat.mul_one]
  · simp_all

theorem sharedSecret_eq (auth : AuthSocket) (A u : Nat) :
    sharedSecret auth A u = (A * auth.v ^ u) ^ auth.b % srpN := by
  unfold sharedSecret
  rw [modExp_eq, modExp_eq, Nat.pow_mod, Nat.mul_mod_mod, ← Nat.pow_mod]

theorem sharedSecret_eq_zero_iff (auth : AuthSocket) (A u : Nat)
    (verifier : ¬ srpN ∣ auth.v) :
    sharedSecret auth A u = 0 ↔ srpN ∣ A ∧ auth.b ≠ 0 := by
  rw [sharedSecret_eq, ← Nat.dvd_iff_mod_eq_zero]
  constructor
  · intro divides
    have bNonzero : auth.b ≠ 0 := by
      intro bZero
      rw [bZero, pow_zero] at divides
      exact srpN_prime.one_lt.ne' (Nat.dvd_one.mp divides)
    refine ⟨?_, bNonzero⟩
    rcases srpN_prime.dvd_mul.mp (srpN_prime.dvd_of_dvd_pow divides) with inA | inPower
    · exact inA
    · exact absurd (srpN_prime.dvd_of_dvd_pow inPower) verifier
  · rintro ⟨inA, bNonzero⟩
    exact dvd_pow (Dvd.dvd.mul_right inA _) bNonzero

/-- For a value of `A` that the safeguard lets through, the shared secret is
non-zero unless `A` is the modulus itself (and the server has an exponent). -/
theorem sharedSecret_ne_zero_iff (auth : AuthSocket) (A : Bytes) (u : Nat)
    (verifier : ¬ srpN ∣ auth.v) (width : A.length = 32)
    (notRejected : isZero (setBinary A) = false) :
    sharedSecret auth (setBinary A) u ≠ 0 ↔ setBinary A ≠ srpN ∨ auth.b = 0 := by
  have small : setBinary A < 256 ^ 32 := setBinary_lt width
  have nonzero : setBinary A ≠ 0 := by
    simpa [isZero] using notRejected
  rw [Ne, sharedSecret_eq_zero_iff auth _ u verifier, dvd_of_lt_iff small nonzero]
  tauto

/-- An account with verifier 7, a server exponent 3, and the client value 2. -/
theorem sharedSecret_ne_zero_iff_two :
    sharedSecret { AuthSocket.initial 0 0 false with v := 7, b := 3 }
        (setBinary (leBytes 32 2)) 5 ≠ 0 ↔
      setBinary (leBytes 32 2) ≠ srpN ∨
        ({ AuthSocket.initial 0 0 false with v := 7, b := 3 } : AuthSocket).b = 0 :=
  sharedSecret_ne_zero_iff { AuthSocket.initial 0 0 false with v := 7, b := 3 }
    (leBytes 32 2) 5 (by decide) (leBytes_length 32 2) (by decide)

/-- The client value `N` passes the safeguard and makes the secret zero. -/
theorem sharedSecret_zero_at_modulus :
    ¬ ∀ (auth : AuthSocket) (A : Bytes) (u : Nat),
      ¬ srpN ∣ auth.v → A.length = 32 → isZero (setBinary A) = false →
        sharedSecret auth (setBinary A) u ≠ 0 := by
  intro claimed
  have atModulus := claimed { AuthSocket.initial 0 0 false with v := 7, b := 3 }
    (leBytes 32 srpN) 5 (by decide) (leBytes_length 32 srpN) (by decide)
  exact atModulus (by decide)

end DarkCore.Auth
