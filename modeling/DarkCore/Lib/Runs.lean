/-
Runs of a deterministic machine: a step function over a list of actions. A
property of a run is about every state it passes through, a condition on a run
is about the state before each of its steps.
-/

import Mathlib.Algebra.Order.Ring.Int

namespace DarkCore.Lib

variable {σ α : Type*} (next : σ → α → σ)

def Along (condition : σ → α → Prop) : σ → List α → Prop
  | _, [] => True
  | state, action :: rest => condition state action ∧ Along condition (next state action) rest

def Always (property : σ → Prop) : σ → List α → Prop
  | state, [] => property state
  | state, action :: rest => property state ∧ Always property (next state action) rest

variable {next} {invariant property : σ → Prop} {condition conclusion : σ → α → Prop}

theorem Always.imp (weaker : ∀ state, invariant state → property state) {state : σ}
    {actions : List α} (holds : Always next invariant state actions) :
    Always next property state actions := by
  induction actions generalizing state with
  | nil => exact weaker state holds
  | cons action rest ih => exact ⟨weaker state holds.1, ih holds.2⟩

theorem Always.first {state : σ} {actions : List α}
    (holds : Always next property state actions) : property state := by
  cases actions with
  | nil => exact holds
  | cons action rest => exact holds.1

theorem Always.last {state : σ} {actions : List α}
    (holds : Always next property state actions) : property (actions.foldl next state) := by
  induction actions generalizing state with
  | nil => exact holds
  | cons action rest ih => exact ih holds.2

/-- What no step brings back, once it is lost, holds all along a run at whose end it holds. -/
theorem always_of_last (lasting : ∀ state action, property (next state action) → property state)
    {state : σ} {actions : List α} (last : property (actions.foldl next state)) :
    Always next property state actions := by
  induction actions generalizing state with
  | nil => exact last
  | cons action rest ih =>
    have later := ih last
    exact ⟨lasting state action later.first, later⟩

theorem always_of_step
    (kept : ∀ state action, invariant state → condition state action →
      invariant (next state action))
    {state : σ} {actions : List α} (start : invariant state)
    (steps : Along next condition state actions) : Always next invariant state actions := by
  induction actions generalizing state with
  | nil => exact start
  | cons action rest ih => exact ⟨start, ih (kept state action start steps.1) steps.2⟩

theorem along_of_step
    (kept : ∀ state action, invariant state → condition state action →
      invariant (next state action))
    (result : ∀ state action, invariant state → condition state action → conclusion state action)
    {state : σ} {actions : List α} (start : invariant state)
    (steps : Along next condition state actions) : Along next conclusion state actions := by
  induction actions generalizing state with
  | nil => exact trivial
  | cons action rest ih =>
    constructor
    · exact result state action start steps.1
    · exact ih (kept state action start steps.1) steps.2

theorem always_iff_along
    (exact : ∀ state action, invariant state →
      (invariant (next state action) ↔ condition state action))
    {state : σ} {actions : List α} (start : invariant state) :
    Always next invariant state actions ↔ Along next condition state actions := by
  induction actions generalizing state with
  | nil => exact ⟨fun _ => trivial, fun _ => start⟩
  | cons action rest ih =>
    constructor
    · intro always
      have kept := always.2.first
      exact ⟨(exact state action start).mp kept, (ih kept).mp always.2⟩
    · intro along
      have kept := (exact state action start).mpr along.1
      exact ⟨start, (ih kept).mpr along.2⟩

/-- The same for a property that the invariant implies, where a step that comes out with the
property meets the condition and a step that meets the condition keeps the invariant. -/
theorem always_property_iff_along
    (implies : ∀ state, invariant state → property state)
    (needed : ∀ state action, invariant state → property (next state action) →
      condition state action)
    (kept : ∀ state action, invariant state → condition state action →
      invariant (next state action))
    {state : σ} {actions : List α} (start : invariant state) :
    Always next property state actions ↔ Along next condition state actions := by
  induction actions generalizing state with
  | nil => exact ⟨fun _ => trivial, fun _ => implies state start⟩
  | cons action rest ih =>
    constructor
    · intro always
      have met := needed state action start always.2.first
      exact ⟨met, (ih (kept state action start met)).mp always.2⟩
    · intro along
      have after := kept state action start along.1
      exact ⟨implies state start, (ih after).mpr along.2⟩

/-- Where, beside a condition that all steps meet, a step comes out well exactly when it meets a
second one that keeps the invariant, so do the steps of a run. -/
theorem along_iff_along {side : σ → α → Prop}
    (exact : ∀ state action, invariant state → side state action →
      (conclusion state action ↔ condition state action))
    (kept : ∀ state action, invariant state → side state action → condition state action →
      invariant (next state action))
    {state : σ} {actions : List α} (start : invariant state)
    (sides : Along next side state actions) :
    Along next conclusion state actions ↔ Along next condition state actions := by
  induction actions generalizing state with
  | nil => exact Iff.rfl
  | cons action rest ih =>
    have first := exact state action start sides.1
    constructor
    · intro along
      have holds := first.mp along.1
      exact ⟨holds, (ih (kept state action start sides.1 holds) sides.2).mp along.2⟩
    · intro along
      have next := kept state action start sides.1 along.1
      exact ⟨first.mpr along.1, (ih next sides.2).mpr along.2⟩

theorem Along.imp (weaker : ∀ state action, condition state action → conclusion state action)
    {state : σ} {actions : List α} (steps : Along next condition state actions) :
    Along next conclusion state actions := by
  induction actions generalizing state with
  | nil => exact trivial
  | cons action rest ih => exact ⟨weaker state action steps.1, ih steps.2⟩

theorem Along.and_forall {only : α → Prop} {state : σ} {actions : List α}
    (steps : Along next condition state actions) (all : ∀ action ∈ actions, only action) :
    Along next (fun state action => condition state action ∧ only action) state actions := by
  induction actions generalizing state with
  | nil => exact trivial
  | cons action rest ih =>
    constructor
    · exact ⟨steps.1, all action List.mem_cons_self⟩
    · exact ih steps.2 fun other member => all other (List.mem_cons_of_mem _ member)

theorem along_true (state : σ) (actions : List α) : Along next (fun _ _ => True) state actions := by
  induction actions generalizing state with
  | nil => exact trivial
  | cons action rest ih => exact ⟨trivial, ih (next state action)⟩

end DarkCore.Lib
