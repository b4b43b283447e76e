/-
What the pieces of a motion master's operations keep, wherever a generator calls
back between them: the slots are in order up to the top, and each generator that
has been made is in one place.
-/

import DarkCore.Movement.MotionMaster
import Mathlib.Algebra.BigOperators.Group.List.Basic
import Mathlib.Tactic.IntervalCases

namespace DarkCore.Movement

theorem MovementSlot.index_lt (slot : MovementSlot) : slot.index < maxMotionSlot := by
  cases slot <;> decide

namespace MotionMaster

variable {master : MotionMaster}

@[simp] theorem clearSlot_impl (master : MotionMaster) (index : Nat) :
    (master.clearSlot index).impl = Function.update master.impl index none := rfl

@[simp] theorem popTop_impl (master : MotionMaster) :
    master.popTop.impl = Function.update master.impl (master.size - 1) none := rfl

@[simp] theorem popTop_expList (master : MotionMaster) :
    master.popTop.expList = master.expList := rfl

@[simp] theorem popTop_update (master : MotionMaster) :
    master.popTop.update = master.update := rfl

@[simp] theorem delayedDelete_impl (master : MotionMaster) (curr : Generator) :
    (master.delayedDelete curr).impl = master.impl := by
  cases curr <;> rfl

@[simp] theorem delayedDelete_update (master : MotionMaster) (curr : Generator) :
    (master.delayedDelete curr).update = master.update := by
  cases curr <;> rfl

/-- There is a top slot, no slot above it is occupied, and it is itself occupied unless it is the
lowest one. -/
structure Tidy (master : MotionMaster) : Prop where
  positive : 0 < master.size
  valid : master.size ≤ maxMotionSlot
  above : ∀ index, master.size ≤ index → master.impl index = none
  occupied : 1 < master.size → master.top ≠ none

theorem lowerTop_spec (impl : Nat → Option Generator) {size : Nat} (positive : 0 < size) :
    0 < lowerTop impl size ∧ lowerTop impl size ≤ size ∧
      (∀ index, lowerTop impl size ≤ index → index < size → impl index = none) ∧
        (1 < lowerTop impl size → impl (lowerTop impl size - 1) ≠ none) := by
  induction size with
  | zero => cases positive
  | succ size ih =>
    cases size with
    | zero =>
      refine ⟨Nat.one_pos, le_refl _, ?_, fun more => absurd more (lt_irrefl 1)⟩
      intro index above below
      exact absurd (lt_of_lt_of_le below above) (lt_irrefl _)
    | succ size =>
      unfold lowerTop
      split
      · rename_i free
        obtain ⟨still, le, above, occupied⟩ := ih (Nat.succ_pos size)
        refine ⟨still, le.trans (Nat.le_succ _), ?_, occupied⟩
        intro index from_ below
        by_cases last : index = size + 1
        · simp_all
        · exact above index from_ (by omega)
      · rename_i taken
        refine ⟨Nat.succ_pos _, le_refl _, ?_, fun _ => taken⟩
        intro index above below
        exact absurd (lt_of_lt_of_le below above) (lt_irrefl _)

theorem tidy_removeEmptyTops (positive : 0 < master.size) (valid : master.size ≤ maxMotionSlot)
    (above : ∀ index, master.size ≤ index → master.impl index = none) :
    master.removeEmptyTops.Tidy := by
  obtain ⟨still, le, between, occupied⟩ := lowerTop_spec master.impl positive
  refine ⟨still, le.trans valid, ?_, occupied⟩
  intro index from_
  by_cases below : index < master.size
  · exact between index from_ below
  · exact above index (Nat.le_of_not_lt below)

section

variable (tidy : master.Tidy)
include tidy

theorem Tidy.clearSlot (index : Nat) :
    (master.clearSlot index).removeEmptyTops.Tidy := by
  refine tidy_removeEmptyTops ?_ ?_ ?_
  · exact tidy.positive
  · exact tidy.valid
  intro other above
  rw [clearSlot_impl]
  by_cases same : other = index
  · rw [same, Function.update_self]
  · rw [Function.update_of_ne same]
    exact tidy.above other above

theorem Tidy.popTop (more : 1 < master.size) : master.popTop.Tidy := by
  have valid := tidy.valid
  unfold MotionMaster.popTop
  apply tidy_removeEmptyTops
  · simp_all
  · grind
  · intro index above
    change Function.update master.impl (master.size - 1) none index = none
    by_cases same : index = master.size - 1
    · rw [same, Function.update_self]
    · rw [Function.update_of_ne same]
      apply tidy.above
      dsimp only at above
      omega

theorem Tidy.delayedDelete (curr : Generator) :
    (master.delayedDelete curr).Tidy := by
  cases curr with
  | idle => exact tidy
  | made serial type => exact ⟨tidy.positive, tidy.valid, tidy.above, tidy.occupied⟩

theorem Tidy.install (generator : Generator) (slot : MovementSlot) :
    (master.install generator slot).Tidy := by
  have index := slot.index_lt
  have valid := tidy.valid
  refine ⟨?_, ?_, ?_, ?_⟩
  · exact lt_of_lt_of_le tidy.positive (le_max_left _ _)
  · exact max_le valid index
  · intro other above
    have larger : master.size ≤ other := le_trans (le_max_left _ _) above
    have different : other ≠ slot.index := by
      have outside : slot.index + 1 ≤ other := le_trans (le_max_right _ _) above
      omega
    unfold MotionMaster.install
    dsimp only
    rw [Function.update_of_ne different]
    exact tidy.above other larger
  · intro more
    change 1 < max master.size (slot.index + 1) at more
    change Function.update master.impl slot.index (some generator)
      (max master.size (slot.index + 1) - 1) ≠ none
    by_cases same : max master.size (slot.index + 1) - 1 = slot.index
    · simp [same, Function.update_self]
    · rw [Function.update_of_ne same]
      have unchanged : max master.size (slot.index + 1) = master.size := by omega
      rw [unchanged] at more ⊢
      exact tidy.occupied more

theorem Tidy.lowerToOccupied
    (some_ : ∃ index < master.size, master.impl index ≠ none) :
    master.top ≠ none ∧
      MotionMaster.lowerToOccupied master.impl master.size = some master.size := by
  have positive := tidy.positive
  have top : master.top ≠ none := by
    by_cases more : 1 < master.size
    · exact tidy.occupied more
    · obtain ⟨index, below, taken⟩ := some_
      have lowest : index = master.size - 1 := by omega
      unfold MotionMaster.top
      rw [← lowest]
      exact taken
  refine ⟨top, ?_⟩
  unfold MotionMaster.top at top
  obtain ⟨size, eq⟩ := Nat.exists_eq_succ_of_ne_zero (Nat.ne_of_gt positive)
  rw [eq] at top ⊢
  exact if_neg top

end

end MotionMaster

def Generator.is (serial : Nat) : Generator → Nat
  | .idle => 0
  | .made own _ => if own = serial then 1 else 0

def held (serial : Nat) (slot : Option Generator) : Nat := slot.elim 0 (Generator.is serial)

def listed (serial : Nat) (generators : List Generator) : Nat :=
  (generators.map (Generator.is serial)).sum

theorem listed_append (serial : Nat) (first second : List Generator) :
    listed serial (first ++ second) = listed serial first + listed serial second := by
  unfold listed
  rw [List.map_append, List.sum_append]

theorem listed_cons (serial : Nat) (generator : Generator) (rest : List Generator) :
    listed serial (generator :: rest) = generator.is serial + listed serial rest := by
  unfold listed
  rw [List.map_cons, List.sum_cons]

theorem listed_toList (serial : Nat) (slot : Option Generator) :
    listed serial slot.toList = held serial slot := by
  cases slot with
  | none => rfl
  | some generator => exact listed_cons serial generator []

namespace MotionMaster

variable {master : MotionMaster}

def holds (serial : Nat) (master : MotionMaster) : Nat :=
  held serial (master.impl 0) + held serial (master.impl 1) + held serial (master.impl 2) +
    listed serial (master.expList.getD [])

section

variable (serial : Nat)
include serial

theorem holds_update (master : MotionMaster) {index : Nat}
    (valid : index < maxMotionSlot) (slot : Option Generator) :
    ({ master with impl := Function.update master.impl index slot } : MotionMaster).holds serial +
        held serial (master.impl index) = master.holds serial + held serial slot := by
  unfold holds
  dsimp only
  unfold maxMotionSlot at valid
  interval_cases index
  · grind
  · grind
  · grind

theorem holds_clearSlot (master : MotionMaster) {index : Nat}
    (valid : index < maxMotionSlot) :
    (master.clearSlot index).removeEmptyTops.holds serial + held serial (master.impl index) =
      master.holds serial :=
  holds_update serial master valid none

theorem holds_popTop (tidy : master.Tidy) :
    master.popTop.holds serial + held serial master.top = master.holds serial := by
  have positive := tidy.positive
  have valid := tidy.valid
  exact holds_update serial master (by omega) none

theorem holds_delayedDelete (master : MotionMaster) (curr : Generator) :
    (master.delayedDelete curr).holds serial = master.holds serial + curr.is serial := by
  cases curr with
  | idle => rfl
  | made own type =>
    unfold holds MotionMaster.delayedDelete
    rw [Option.getD_some, listed_append, listed_cons]
    exact (Nat.add_assoc _ _ _).symm

theorem holds_expList {mg : Generator} {later : List Generator}
    (list : master.expList = some (mg :: later)) :
    ({ master with expList := some later } : MotionMaster).holds serial + mg.is serial =
      master.holds serial := by
  unfold holds
  rw [list, Option.getD_some, Option.getD_some, listed_cons]
  dsimp only
  omega

theorem holds_install (master : MotionMaster) (generator : Generator)
    (slot : MovementSlot) :
    (master.install generator slot).holds serial + held serial (master.impl slot.index) =
      master.holds serial + generator.is serial :=
  holds_update serial master slot.index_lt (some generator)

end

variable {type : MovementGeneratorType} {generator : Generator}

theorem holds_pos_of_slot {serial : Nat} {index : Nat}
    (valid : index < maxMotionSlot) (stands : master.impl index = some (.made serial type)) :
    0 < master.holds serial := by
  have removed := holds_clearSlot serial master valid
  have one : held serial (master.impl index) = 1 := by
    rw [stands]
    exact if_pos rfl
  omega

theorem holds_pos_of_listed {serial : Nat}
    (waits : Generator.made serial type ∈ master.expList.getD []) : 0 < master.holds serial := by
  obtain ⟨front, back, split⟩ := List.append_of_mem waits
  have one : (Generator.made serial type).is serial = 1 := if_pos rfl
  unfold holds
  rw [split, listed_append, listed_cons, one]
  omega

def Keeps (master : MotionMaster) (generator : Generator) : Prop :=
  (∃ index < maxMotionSlot, master.impl index = some generator) ∨
    generator ∈ master.expList.getD []

theorem Keeps.holds_pos {serial : Nat}
    (keeps : master.Keeps (.made serial type)) : 0 < master.holds serial := by
  rcases keeps with ⟨index, valid, stands⟩ | waits
  · exact holds_pos_of_slot valid stands
  · exact holds_pos_of_listed waits

theorem Keeps.clear (keeps : master.Keeps generator) {after : MotionMaster}
    {index : Nat} (impl : after.impl = Function.update master.impl index none)
    (expList : after.expList = master.expList) :
    after.Keeps generator ∨ master.impl index = some generator := by
  rcases keeps with ⟨other, valid, stands⟩ | waits
  · by_cases same : other = index
    · exact Or.inr (same ▸ stands)
    · refine Or.inl (Or.inl ⟨other, valid, ?_⟩)
      rw [impl, Function.update_of_ne same]
      exact stands
  · refine Or.inl (Or.inr ?_)
    rw [expList]
    exact waits

theorem Keeps.delayedDelete (keeps : master.Keeps generator)
    (curr : Generator) : (master.delayedDelete curr).Keeps generator := by
  cases curr with
  | idle => exact keeps
  | made serial type =>
    rcases keeps with stands | waits
    · exact Or.inl stands
    · exact Or.inr (List.mem_append_left _ waits)

theorem keeps_delayedDelete (isMade : generator ≠ .idle) :
    (master.delayedDelete generator).Keeps generator := by
  cases generator with
  | idle => exact absurd rfl isMade
  | made serial type => exact Or.inr (List.mem_append_right _ (List.mem_singleton.mpr rfl))

/-- The loop of `DelayedClean` puts what it takes away into the expire list. -/
theorem delayedClean_spec (rounds : Nat) {master : MotionMaster} (tidy : master.Tidy) :
    (delayedClean rounds master).Tidy ∧
      (∀ serial, (delayedClean rounds master).holds serial = master.holds serial) ∧
      (∀ generator, generator ≠ .idle → master.Keeps generator →
        (delayedClean rounds master).Keeps generator) ∧
      (delayedClean rounds master).update = master.update ∧
      (delayedClean rounds master).impl 0 = master.impl 0 := by
  induction rounds generalizing master with
  | zero => exact ⟨tidy, fun _ => rfl, fun _ _ keeps => keeps, rfl, rfl⟩
  | succ rounds ih =>
    unfold delayedClean
    split
    · rename_i more
      have popped := tidy.popTop more
      have lowest : master.popTop.impl 0 = master.impl 0 := by
        rw [popTop_impl, Function.update_of_ne]
        omega
      cases found : master.top with
      | none => exact absurd found (tidy.occupied more)
      | some curr =>
        obtain ⟨stays, holds, keeps, update, last⟩ := ih (popped.delayedDelete curr)
        refine ⟨stays, ?_, ?_, ?_, ?_⟩
        · intro serial
          rw [holds, holds_delayedDelete, ← holds_popTop serial tidy, found]
          rfl
        · intro generator isMade kept
          apply keeps generator isMade
          rcases kept.clear (popTop_impl master) (popTop_expList master) with still | was
          · exact still.delayedDelete curr
          · have same : curr = generator :=
              Option.some.inj (found.symm.trans was)
            rw [same]
            exact keeps_delayedDelete isMade
        · rw [update, delayedDelete_update, popTop_update]
        · rw [last, delayedDelete_impl, lowest]
    · exact ⟨tidy, fun _ => rfl, fun _ _ kept => kept, rfl, rfl⟩

end MotionMaster

end DarkCore.Movement
