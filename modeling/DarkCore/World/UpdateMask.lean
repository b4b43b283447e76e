/-
The update mask of an object (`UpdateMask.h`): bits of values in blocks of 32.
The operators run over the blocks of the left mask.
-/

import Mathlib.Algebra.Order.Ring.Int
import Mathlib.Data.List.GetD

namespace DarkCore.World

abbrev Block := BitVec 32

/-- `GetBit`, where a block that does not exist reads as 0 -/
def bitAt (blocks : List Block) (index : Nat) : Bool :=
  (blocks.getD (index / 32) 0).getLsbD (index % 32)

/-- No bit is set past the values. -/
structure UpdateMask where
  count : Nat
  blocks : List Block
  sized : blocks.length = (count + 31) % 2 ^ 32 / 32
  clear : ∀ index, count ≤ index → bitAt blocks index = false

namespace UpdateMask

variable (mask : UpdateMask)

def getCount : Nat := mask.count

def getBlockCount : Nat := mask.blocks.length

def getBit (index : Nat) : Bool := bitAt mask.blocks index

theorem bitAt_replicate (size index : Nat) : bitAt (List.replicate size 0) index = false := by
  simp [bitAt, List.getD_eq_getElem?_getD, List.getElem?_replicate]
  split <;> simp

def setCount (valuesCount : Nat) : UpdateMask where
  count := valuesCount
  blocks := List.replicate ((valuesCount + 31) % 2 ^ 32 / 32) 0
  sized := List.length_replicate
  clear index _ := bitAt_replicate _ index

/-- The loop of `&=` and `|=`; `none` is an access to a block of the right mask that does not
exist. -/
def combine (op : Block → Block → Block) : List Block → List Block → Option (List Block)
  | [], _ => some []
  | _ :: _, [] => none
  | left :: lefts, right :: rights => (combine op lefts rights).map (op left right :: ·)

/-- `operator &=` -/
def andAssign (other : UpdateMask) : Option (List Block) :=
  combine (· &&& ·) mask.blocks other.blocks

/-- `operator |=` -/
def orAssign (other : UpdateMask) : Option (List Block) :=
  combine (· ||| ·) mask.blocks other.blocks

/-- The blocks after an operator exist, and hold the bits that the operation on the masks has. -/
def Meets (op : Bool → Bool → Bool) (result : Option (List Block)) (mask other : UpdateMask) : Prop :=
  ∃ blocks, result = some blocks ∧ ∀ index, bitAt blocks index =
    op (mask.getBit index) (decide (index < other.getCount) && other.getBit index)

theorem combine_eq (op : Block → Block → Block) (lefts rights : List Block) :
    combine op lefts rights =
      if lefts.length ≤ rights.length then some (lefts.zipWith op rights) else none := by
  induction lefts generalizing rights with
  | nil => simp [combine]
  | cons left lefts next =>
    cases rights with
    | nil => simp [combine]
    | cons right rights =>
      rw [combine, next]
      by_cases enough : lefts.length ≤ rights.length <;> simp [enough]

theorem bitAt_of_past {blocks : List Block} {index : Nat} (past : 32 * blocks.length ≤ index) :
    bitAt blocks index = false := by
  have outside : blocks.length ≤ index / 32 := (Nat.le_div_iff_mul_le (by decide)).mpr (by omega)
  rw [bitAt, List.getD_eq_default _ _ outside]
  exact BitVec.getLsbD_zero

theorem bitAt_zipWith {op : Block → Block → Block} {bit : Bool → Bool → Bool}
    (bitwise : ∀ left right index, index < 32 →
      (op left right).getLsbD index = bit (left.getLsbD index) (right.getLsbD index))
    {lefts rights : List Block} (enough : lefts.length ≤ rights.length) {index : Nat}
    (inside : index < 32 * lefts.length) :
    bitAt (lefts.zipWith op rights) index = bit (bitAt lefts index) (bitAt rights index) := by
  have here : index / 32 < lefts.length := (Nat.div_lt_iff_lt_mul (by decide)).mpr (by omega)
  have other : index / 32 < rights.length := Nat.lt_of_lt_of_le here enough
  simp only [bitAt, List.getD_eq_getElem?_getD, List.getElem?_zipWith, List.getElem?_eq_getElem here,
    List.getElem?_eq_getElem other, Option.getD_some]
  exact bitwise _ _ _ (Nat.mod_lt _ (by decide))

theorem masked (other : UpdateMask) (index : Nat) :
    (decide (index < other.getCount) && other.getBit index) = bitAt other.blocks index := by
  by_cases inside : index < other.getCount
  · simp [inside, getBit]
  · simp [inside, other.clear index (Nat.le_of_not_lt inside)]

/-- An operator with `bit false right = right` or `bit false right = false` past the left mask -/
theorem meets_iff {op : Block → Block → Block} {bit : Bool → Bool → Bool}
    (bitwise : ∀ left right index, index < 32 →
      (op left right).getLsbD index = bit (left.getLsbD index) (right.getLsbD index))
    (mask other : UpdateMask) :
    Meets bit (combine op mask.blocks other.blocks) mask other ↔
      mask.getBlockCount ≤ other.getBlockCount ∧ ∀ index, 32 * mask.getBlockCount ≤ index →
        bit false (other.getBit index) = false := by
  unfold Meets getBlockCount
  rw [combine_eq]
  have past {index : Nat} (outside : 32 * mask.blocks.length ≤ index) :
      bitAt (mask.blocks.zipWith op other.blocks) index = false :=
    bitAt_of_past (by rw [List.length_zipWith]; omega)
  constructor
  · rintro ⟨blocks, result, bits⟩
    split at result
    · rename_i enough
      cases result
      refine ⟨enough, fun index outside => ?_⟩
      have bit := bits index
      rwa [past outside, masked, getBit, bitAt_of_past outside, eq_comm] at bit
    · cases result
  · rintro ⟨enough, tail⟩
    refine ⟨_, if_pos enough, fun index => ?_⟩
    rw [masked]
    by_cases inside : index < 32 * mask.blocks.length
    · exact bitAt_zipWith bitwise enough inside
    · have outside := Nat.le_of_not_lt inside
      rw [past outside, getBit, bitAt_of_past outside]
      exact (tail index outside).symm

/-- Both operators do what they are for exactly when the right mask has every block of the left one
and no bit past them. -/
theorem assign_meets_iff (mask other : UpdateMask) :
    (Meets and (mask.andAssign other) mask other ∧ Meets or (mask.orAssign other) mask other) ↔
      mask.getBlockCount ≤ other.getBlockCount ∧
        ∀ index, 32 * mask.getBlockCount ≤ index → other.getBit index = false := by
  rw [andAssign, orAssign, meets_iff (fun left right index _ => BitVec.getLsbD_and),
    meets_iff (fun left right index _ => BitVec.getLsbD_or)]
  simp only [Bool.false_and, Bool.false_or, implies_true, and_true]
  exact ⟨And.right, fun enough => ⟨enough.1, enough⟩⟩

/-- A mask of 40 values reads a second block of a mask of 20 values. -/
theorem assign_reads_past :
    (setCount 20).getCount ≤ (setCount 40).getCount ∧ (setCount 40).andAssign (setCount 20) = none ∧
      (setCount 40).orAssign (setCount 20) = none := by
  decide

end UpdateMask

end DarkCore.World
