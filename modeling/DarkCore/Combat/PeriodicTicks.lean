/-
The ticks of a periodic aura effect (`SpellAuras.cpp`, `SpellAuraEffects.cpp`).
The duration of the aura and the timer of the effect are counted down by the same
update, each in its own way. Effects whose script stops them or draws a new
amplitude at a tick are not of a constant amplitude and are left out.
-/

import Mathlib.Algebra.BigOperators.Group.List.Basic
import Mathlib.Algebra.Order.Ring.Int
import Mathlib.Data.List.Induction

namespace DarkCore.Combat

/-- A result that is stored in 32 bits -/
def asInt32 (value : Int) : Int := Int.bmod value (2 ^ 32)

structure AuraEffect where
  isPeriodic : Bool
  amplitude : Int
  periodicTimer : Int
  tickNumber : Nat
  /-- The tick numbers at the rounds of `PeriodicTick` -/
  executed : List Nat

structure Aura where
  duration : Int
  maxDuration : Int
  passive : Bool
  effect : AuraEffect

structure AuraStep where
  diff : Nat
  /-- The caster is there and has `UNIT_STAT_ISOLATED`. -/
  isolated : Bool

/-- `CalculatePeriodic` of a new periodic effect -/
def AuraEffect.create (amplitude : Int) (startPeriodicAtApply : Bool) : AuraEffect where
  isPeriodic := true
  amplitude := amplitude
  periodicTimer :=
    if amplitude ≠ 0 ∧ startPeriodicAtApply = false then asInt32 (0 + amplitude) else 0
  tickNumber := 0
  executed := []

/-- `Aura::Update`, which only counts the duration here -/
def Aura.update (aura : Aura) (diff : Nat) : Aura :=
  if 0 < aura.duration then
    let duration := asInt32 (aura.duration - diff)
    { aura with duration := if duration < 0 then 0 else duration }
  else aura

def AuraEffect.update (effect : AuraEffect) (aura : Aura) (step : AuraStep) : AuraEffect :=
  if effect.isPeriodic ∧ (0 ≤ aura.duration ∨ aura.passive ∨ aura.maxDuration = -1) then
    if asInt32 step.diff < effect.periodicTimer then
      { effect with periodicTimer := asInt32 (effect.periodicTimer - step.diff) }
    else
      -- An isolated caster keeps the tick from the targets, but the tick is counted.
      { effect with
        tickNumber := effect.tickNumber + 1
        periodicTimer := asInt32 (effect.periodicTimer + (effect.amplitude - step.diff))
        executed := if step.isolated then effect.executed
          else effect.executed ++ [effect.tickNumber + 1] }
  else effect

def Aura.updateOwner (aura : Aura) (step : AuraStep) : Aura :=
  let aura := aura.update step.diff
  { aura with effect := aura.effect.update aura step }

/-- A new aura of `ticks` amplitudes that does not start at apply -/
def Aura.apply (amplitude ticks : Nat) (passive : Bool) : Aura where
  duration := ticks * amplitude
  maxDuration := ticks * amplitude
  passive := passive
  effect := AuraEffect.create amplitude false

def Aura.updates (aura : Aura) (steps : List AuraStep) : Aura := steps.foldl Aura.updateOwner aura

def elapsedTime (steps : List AuraStep) : Nat := (steps.map AuraStep.diff).sum

section Ticks

variable {amplitude ticks elapsed : Nat} {aura : Aura} {step : AuraStep}

theorem int32_of_small {value : Int} (low : -2147483648 ≤ value) (high : value < 2147483648) :
    asInt32 value = value :=
  Int.bmod_eq_of_le_mul_two (by omega) (by omega)

structure InStep (amplitude ticks elapsed : Nat) (aura : Aura) : Prop where
  periodic : aura.effect.isPeriodic = true
  constant : aura.effect.amplitude = amplitude
  duration : aura.duration = (ticks * amplitude - elapsed : Nat)
  low : aura.effect.tickNumber * amplitude ≤ elapsed
  high : elapsed < aura.effect.tickNumber * amplitude + amplitude
  timer : aura.effect.periodicTimer + elapsed =
    (aura.effect.tickNumber * amplitude : Nat) + amplitude

theorem InStep.reached_iff (inStep : InStep amplitude ticks elapsed aura) (tick : Nat) :
    tick ≤ aura.effect.tickNumber ↔ tick * amplitude ≤ elapsed := by
  constructor
  · intro counted
    exact Nat.le_trans (Nat.mul_le_mul_right amplitude counted) inStep.low
  · intro reached
    by_contra later
    have next := Nat.mul_le_mul_right amplitude (show aura.effect.tickNumber + 1 ≤ tick by omega)
    have high := inStep.high
    rw [Nat.add_mul, Nat.one_mul] at next
    omega

theorem inStep_apply (positive : 0 < amplitude) (word : amplitude < 2147483648) (passive : Bool) :
    InStep amplitude ticks 0 (Aura.apply amplitude ticks passive) := by
  have timer : asInt32 (0 + amplitude) = amplitude := by
    rw [int32_of_small (by omega) (by omega), Int.zero_add]
  constructor <;> simp_all [Aura.apply, AuraEffect.create, Nat.pos_iff_ne_zero]

section

variable (inStep : InStep amplitude ticks elapsed aura) (word : amplitude < 2147483648)
  (fits : ticks * amplitude < 2147483648) (running : elapsed < ticks * amplitude)
  (bounded : step.diff ≤ amplitude)
include inStep word fits running bounded

theorem InStep.updateOwner :
    aura.updateOwner step =
      { aura with
        duration := (ticks * amplitude - (elapsed + step.diff) : Nat)
        effect := if (step.diff : Int) < aura.effect.periodicTimer then
            { aura.effect with periodicTimer := aura.effect.periodicTimer - step.diff }
          else
            { aura.effect with
              tickNumber := aura.effect.tickNumber + 1
              periodicTimer := aura.effect.periodicTimer + (amplitude - step.diff)
              executed := if step.isolated then aura.effect.executed
                else aura.effect.executed ++ [aura.effect.tickNumber + 1] } } := by
  obtain ⟨periodic, constant, duration, low, high, timer⟩ := inStep
  have counting : 0 < aura.duration := by omega
  have clamped : (if aura.duration - step.diff < 0 then 0 else aura.duration - step.diff) =
      (ticks * amplitude - (elapsed + step.diff) : Nat) := by split <;> omega
  obtain ⟨small, left, waits, again⟩ :
      asInt32 step.diff = step.diff ∧
      asInt32 (aura.duration - step.diff) = aura.duration - step.diff ∧
      asInt32 (aura.effect.periodicTimer - step.diff) = aura.effect.periodicTimer - step.diff ∧
      (¬ (step.diff : Int) < aura.effect.periodicTimer →
        asInt32 (aura.effect.periodicTimer + (amplitude - step.diff)) =
          aura.effect.periodicTimer + (amplitude - step.diff)) := by
    refine ⟨?_, ?_, ?_, ?_⟩ <;> intros <;> exact int32_of_small (by omega) (by omega)
  have counted : aura.update step.diff =
      { aura with duration := (ticks * amplitude - (elapsed + step.diff) : Nat) } := by
    simp only [Aura.update, if_pos counting, left, clamped]
  by_cases wait : (step.diff : Int) < aura.effect.periodicTimer
  · simp [Aura.updateOwner, AuraEffect.update, counted, periodic, small, waits, wait]
  · simp [Aura.updateOwner, AuraEffect.update, counted, periodic, constant, small, again, wait]

theorem InStep.next :
    InStep amplitude ticks (elapsed + step.diff) (aura.updateOwner step) := by
  rw [inStep.updateOwner word fits running bounded]
  obtain ⟨periodic, constant, duration, low, high, timer⟩ := inStep
  have next := Nat.succ_mul aura.effect.tickNumber amplitude
  rw [Nat.succ_eq_add_one] at next
  by_cases waits : (step.diff : Int) < aura.effect.periodicTimer
  · simp only [if_pos waits]
    exact ⟨periodic, constant, rfl, by dsimp only; omega, by dsimp only; omega,
      by dsimp only; omega⟩
  · simp only [if_neg waits]
    exact ⟨periodic, constant, rfl, by dsimp only; omega, by dsimp only; omega,
      by dsimp only; omega⟩

theorem InStep.counts_iff (tick : Nat) :
    aura.effect.tickNumber < tick ∧ tick ≤ (aura.updateOwner step).effect.tickNumber ↔
      elapsed < tick * amplitude ∧ tick * amplitude ≤ elapsed + step.diff := by
  have before := inStep.reached_iff tick
  have after := (inStep.next word fits running bounded).reached_iff tick
  omega

end

theorem updateOwner_counts (aura : Aura) (step : AuraStep) :
    let next := (aura.updateOwner step).effect
    next.tickNumber = aura.effect.tickNumber ∧ next.executed = aura.effect.executed ∨
      next.tickNumber = aura.effect.tickNumber + 1 ∧
        next.executed = if step.isolated then aura.effect.executed
          else aura.effect.executed ++ [aura.effect.tickNumber + 1] := by
  have same : (aura.update step.diff).effect = aura.effect := by
    unfold Aura.update
    split <;> rfl
  simp only [Aura.updateOwner, AuraEffect.update, same]
  split
  · split
    · exact .inl ⟨rfl, rfl⟩
    · exact .inr ⟨rfl, rfl⟩
  · exact .inl ⟨rfl, rfl⟩

theorem mem_executed (aura : Aura) (step : AuraStep) (tick : Nat) :
    tick ∈ (aura.updateOwner step).effect.executed ↔ tick ∈ aura.effect.executed ∨
      (step.isolated = false ∧
        aura.effect.tickNumber < tick ∧ tick ≤ (aura.updateOwner step).effect.tickNumber) := by
  obtain ⟨same, kept⟩ | ⟨counted, executed⟩ := updateOwner_counts aura step
  · rw [same, kept, or_iff_left (by omega)]
  · rw [counted, executed, Nat.lt_iff_add_one_le, ← Nat.le_antisymm_iff,
      @eq_comm Nat (aura.effect.tickNumber + 1)]
    cases step.isolated <;> simp

theorem executed_updateOwner (step : AuraStep) (free : step.isolated = false)
    (numbered : aura.effect.executed = List.range' 1 aura.effect.tickNumber) :
    (aura.updateOwner step).effect.executed =
      List.range' 1 (aura.updateOwner step).effect.tickNumber := by
  obtain ⟨same, kept⟩ | ⟨counted, executed⟩ := updateOwner_counts aura step
  · rw [same, kept, numbered]
  · rw [counted, executed, free, numbered]
    simp [List.range'_1_concat, Nat.add_comm 1]

theorem updates_concat (aura : Aura) (earlier : List AuraStep) (last : AuraStep) :
    aura.updates (earlier ++ [last]) = (aura.updates earlier).updateOwner last := by
  simp [Aura.updates]

theorem elapsedTime_concat (earlier : List AuraStep) (last : AuraStep) :
    elapsedTime (earlier ++ [last]) = elapsedTime earlier + last.diff := by
  simp [elapsedTime]

theorem inStep_updates (word : amplitude < 2147483648) (fits : ticks * amplitude < 2147483648)
    (start : InStep amplitude ticks 0 aura) (steps : List AuraStep) :
    (∀ step ∈ steps, step.diff ≤ amplitude) → elapsedTime steps < ticks * amplitude →
      InStep amplitude ticks (elapsedTime steps) (aura.updates steps) := by
  induction steps using List.reverseRecOn with
  | nil => intro _ _; exact start
  | append_singleton earlier last induction =>
      intro bounded running
      rw [elapsedTime_concat] at running
      rw [updates_concat, elapsedTime_concat]
      exact (induction (fun step member => bounded step (by simp [member])) (by omega)).next word
        fits (by omega) (bounded last (by simp))

theorem executed_updates (numbered : aura.effect.executed = List.range' 1 aura.effect.tickNumber)
    (steps : List AuraStep) (free : ∀ step ∈ steps, step.isolated = false) :
    (aura.updates steps).effect.executed =
      List.range' 1 (aura.updates steps).effect.tickNumber := by
  induction steps generalizing aura with
  | nil => exact numbered
  | cons step rest induction =>
      exact induction (executed_updateOwner step (free step (by simp)) numbered)
        (fun later member => free later (by simp [member]))

/-- The tick of number `k` is counted, and executed unless the caster is isolated, in the first
update at which the time reaches `k` amplitudes; the expiring update counts the last one. -/
theorem periodicTick_on_time (positive : 0 < amplitude) (fits : ticks * amplitude < 2 ^ 31)
    (passive : Bool) (earlier : List AuraStep) (last : AuraStep)
    (bounded : ∀ step ∈ earlier ++ [last], step.diff ≤ amplitude)
    (running : elapsedTime earlier < ticks * amplitude) :
    let before := (Aura.apply amplitude ticks passive).updates earlier
    let after := (Aura.apply amplitude ticks passive).updates (earlier ++ [last])
    let due := fun tick => elapsedTime earlier < tick * amplitude ∧
      tick * amplitude ≤ elapsedTime (earlier ++ [last])
    (∀ tick, before.effect.tickNumber < tick ∧ tick ≤ after.effect.tickNumber ↔ due tick) ∧
      (∀ tick, tick ∈ after.effect.executed ↔
        tick ∈ before.effect.executed ∨ (last.isolated = false ∧ due tick)) ∧
      (after.duration = 0 ↔ ticks * amplitude ≤ elapsedTime (earlier ++ [last])) ∧
      (after.duration = 0 → after.effect.tickNumber = ticks) ∧
      ((∀ step ∈ earlier ++ [last], step.isolated = false) →
        after.effect.executed = List.range' 1 after.effect.tickNumber) := by
  intro before after due
  have fits : ticks * amplitude < 2147483648 := by simpa using fits
  have some : 0 < ticks := by
    by_contra none
    simp [show ticks = 0 by omega] at running
  have word : amplitude < 2147483648 :=
    Nat.lt_of_le_of_lt (Nat.le_mul_of_pos_left amplitude some) fits
  have inStep : InStep amplitude ticks (elapsedTime earlier) before :=
    inStep_updates word fits (inStep_apply positive word passive) earlier
      (fun step member => bounded step (by simp [member])) running
  have shape : after = before.updateOwner last := updates_concat _ earlier last
  have time := elapsedTime_concat earlier last
  have next : InStep amplitude ticks (elapsedTime (earlier ++ [last])) after := by
    rw [shape, time]
    exact inStep.next word fits running (bounded last (by simp))
  have counts := inStep.counts_iff word fits running (bounded last (by simp))
  rw [← shape, ← time] at counts
  have expires : after.duration = 0 ↔ ticks * amplitude ≤ elapsedTime (earlier ++ [last]) := by
    rw [next.duration]
    omega
  refine ⟨counts, fun tick => ?_, expires, fun expired => ?_, fun free => ?_⟩
  · rw [shape, mem_executed, ← shape, counts]
  · have reached := (next.reached_iff ticks).mpr (expires.mp expired)
    -- The last update is at most one amplitude long, so it does not reach the tick after.
    have step := bounded last (by simp)
    have beyond := next.reached_iff (ticks + 1)
    rw [Nat.add_mul, Nat.one_mul] at beyond
    omega
  · exact executed_updates rfl _ free

end Ticks

theorem periodicTick_on_time_two :
    let aura := (Aura.apply 3 2 false).updates [⟨2, false⟩, ⟨3, true⟩, ⟨3, false⟩]
    aura.duration = 0 ∧ aura.effect.tickNumber = 2 ∧ aura.effect.executed = [2] := by
  have expires := @periodicTick_on_time 3 2 (by decide) (by decide) false
    [⟨2, false⟩, ⟨3, true⟩] ⟨3, false⟩ (by decide) (by decide)
  exact ⟨expires.2.2.1.mpr (by decide), expires.2.2.2.1 (expires.2.2.1.mpr (by decide)), by decide⟩

/-- The tick of an isolated caster is counted, but not executed. -/
theorem periodicTick_isolated :
    ¬ ∀ (amplitude ticks : Nat) (passive : Bool) (steps : List AuraStep), 0 < amplitude →
      ticks * amplitude < 2 ^ 31 → (∀ step ∈ steps, step.diff ≤ amplitude) →
      let aura := (Aura.apply amplitude ticks passive).updates steps
      aura.duration = 0 → aura.effect.executed.length = ticks ∧
        aura.effect.tickNumber = aura.effect.executed.length := by
  intro always
  exact absurd (always 3 2 false [⟨3, true⟩, ⟨3, false⟩] (by decide) (by decide) (by decide)
    (by decide)) (by decide)

end DarkCore.Combat
