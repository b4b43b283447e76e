/-
Loops with a condition and a break. A round is `none` where the condition is
false, otherwise it is the next state with a flag that tells to go on. The loop
as a relation has no bound on its rounds, so it relates a state to another one
only where it ends.
-/

import Mathlib.Init

namespace DarkCore.Lib

section

variable {σ : Type*} (round : σ → Option (σ × Bool))

inductive Loop : σ → σ → Prop
  | done {state : σ} (ended : round state = none) : Loop state state
  | broken {state last : σ} (left : round state = some (last, false)) : Loop state last
  | again {state next last : σ} (more : round state = some (next, true))
      (later : Loop next last) : Loop state last

def loopFor : Nat → σ → σ
  | 0, state => state
  | rounds + 1, state =>
    match round state with
    | none => state
    | some (next, true) => loopFor rounds next
    | some (last, false) => last

end

variable {σ : Type*} {round : σ → Option (σ × Bool)}

theorem Loop.unique {state last other : σ} (ends : Loop round state last)
    (endsToo : Loop round state other) : last = other := by
  induction ends with
  | done ended =>
    cases endsToo with
    | done _ => rfl
    | broken left => simp [ended] at left
    | again more _ => simp [ended] at more
  | broken left =>
    cases endsToo with
    | done ended => simp [ended] at left
    | broken leftToo => simpa [left] using leftToo
    | again more _ => simp [left] at more
  | again more later ih =>
    cases endsToo with
    | done ended => simp [ended] at more
    | broken left => simp [more] at left
    | again moreToo laterToo =>
      have same : _ = _ := more.symm.trans moreToo
      cases same
      exact ih laterToo

/-- The rule for a loop with a variant: where each round that goes on keeps the invariant and
makes the measure smaller, the loop ends, within as many rounds as the measure tells. -/
theorem loop_loopFor {invariant : σ → Prop} {measure : σ → Nat}
    (falls : ∀ state next, invariant state → round state = some (next, true) →
      invariant next ∧ measure next < measure state)
    {rounds : Nat} {state : σ} (start : invariant state) (enough : measure state < rounds) :
    Loop round state (loopFor round rounds state) := by
  induction rounds generalizing state with
  | zero => omega
  | succ rounds ih =>
    unfold loopFor
    split
    · rename_i ended
      exact Loop.done ended
    · rename_i next more
      obtain ⟨kept, smaller⟩ := falls state next start more
      exact Loop.again more (ih kept (by omega))
    · rename_i last left
      exact Loop.broken left

theorem Loop.result {invariant conclusion : σ → Prop}
    (kept : ∀ state next, invariant state → round state = some (next, true) → invariant next)
    (ended : ∀ state, invariant state → round state = none → conclusion state)
    (left : ∀ state last, invariant state → round state = some (last, false) → conclusion last)
    {state last : σ} (start : invariant state) (ends : Loop round state last) :
    conclusion last := by
  induction ends with
  | done isOver => exact ended _ start isOver
  | broken isLeft => exact left _ _ start isLeft
  | again more _ ih => exact ih (kept _ _ start more)

end DarkCore.Lib
