/-
Reset times with a reset rate. The period of a map is scaled by
`RATE_INSTANCE_RESET_TIME` and need not be a whole number of days any more, for
the quotient by a day is not truncated before it is multiplied by a day again.
-/

import DarkCore.Instances.ResetTimes
import Mathlib.Data.Rat.Floor

namespace DarkCore.Instances

open InstanceSaveManager

/-- `period` of both functions -/
def scaledPeriod (resetTime : Nat) (rate : Rat) : Int :=
  let period := (((resetTime : Rat) * rate / 86400) * 86400).floor % 2 ^ 32
  if period < day then day else period

/-- The time that the row of `instance_reset` gives, 0 without a row -/
def storedTime (tables : Tables) (row : Option Nat) : Int :=
  match row with
  | some old => (old : Int) / day * day + tables.resetHour
  | none => 0

def weekTables (resetTimeHour : Nat) : Tables where
  mapDifficulties := [((249, 0), 604800)]
  instanceable _ := true
  resetTimeHour := resetTimeHour
  instances := []
  respawns := []
  instanceReset := []

/-- The end of a reset in `_ResetOrWarnAll` -/
def followingReset (tables : Tables) (period resetTime : Int) : Int :=
  (resetTime + minute) / day * day + period + tables.resetHour

structure KeepsHour (tables : Tables) (period now : Int) (row : Option Nat) (executed : Int) : Prop where
  toCome : now ≤ nextResetTime tables now period (storedTime tables row)
  loaded : nextResetTime tables now period (storedTime tables row) % day = tables.resetHour
  following : followingReset tables period executed % day = tables.resetHour
  later : executed < followingReset tables period executed

theorem day_le_scaledPeriod (resetTime : Nat) (rate : Rat) : day ≤ scaledPeriod resetTime rate := by
  unfold scaledPeriod
  dsimp only
  split <;> omega

theorem storedTime_hour {tables : Tables} (hour : tables.resetTimeHour < 24) (row : Option Nat) :
    storedTime tables row = 0 ∨ storedTime tables row % day = tables.resetHour := by
  cases row with
  | none => exact .inl rfl
  | some old =>
    right
    simp only [storedTime, Tables.resetHour, hour_eq, day_eq]
    omega

theorem nextResetTime_hour {tables : Tables} (hour : tables.resetTimeHour < 24) {period now old : Int}
    (whole : period % day = 0) (atLeast : day ≤ period) (known : old = 0 ∨ old % day = tables.resetHour) :
    now ≤ nextResetTime tables now period old ∧
      nextResetTime tables now period old % day = tables.resetHour := by
  obtain ⟨days, rfl⟩ := Int.dvd_of_emod_eq_zero whole
  have bounds : 0 ≤ tables.resetHour ∧ tables.resetHour < day := by
    simp only [Tables.resetHour, hour_eq, day_eq]
    omega
  rw [day_eq] at *
  have renewed (time : Int) (first : time % 86400 = tables.resetHour) :
      let next := if time < now then time / 86400 * 86400 +
        (((now / 86400 * 86400 - time / 86400 * 86400) / (86400 * days) + 1) * (86400 * days) +
          tables.resetHour) else time
      now ≤ next ∧ next % 86400 = tables.resetHour := by
    dsimp only
    split
    · -- A multiple of the period, and so of a day, that is more than the days gone by
      have beyond := Int.lt_ediv_add_one_mul_self (now / 86400 * 86400 - time / 86400 * 86400)
        (by omega : 0 < 86400 * days)
      have multiple : ((now / 86400 * 86400 - time / 86400 * 86400) / (86400 * days) + 1) *
          (86400 * days) % 86400 = 0 := by
        rw [Int.mul_left_comm]
        exact Int.mul_emod_right _ _
      generalize ((now / 86400 * 86400 - time / 86400 * 86400) / (86400 * days) + 1) *
        (86400 * days) = advance at beyond multiple ⊢
      omega
    · omega
  simp only [nextResetTime, day_eq]
  refine renewed _ ?_
  split <;> omega

/-- The hour is kept exactly for periods of whole days. -/
theorem keepsHour_iff (tables : Tables) (hour : tables.resetTimeHour < 24) (resetTime : Nat)
    (rate : Rat) (now : Int) (row : Option Nat) (executed : Int) :
    KeepsHour tables (scaledPeriod resetTime rate) now row executed ↔
      scaledPeriod resetTime rate % day = 0 := by
  have bounds : 0 ≤ tables.resetHour ∧ tables.resetHour < day := by
    simp only [Tables.resetHour, hour_eq, day_eq]
    omega
  have atLeast := day_le_scaledPeriod resetTime rate
  generalize scaledPeriod resetTime rate = period at *
  constructor
  · intro keeps
    have hourOf := keeps.following
    simp only [followingReset, minute_eq, day_eq] at hourOf bounds ⊢
    omega
  · intro whole
    obtain ⟨toCome, loaded⟩ := @nextResetTime_hour tables hour period now _ whole atLeast
      (storedTime_hour hour row)
    refine ⟨toCome, loaded, ?_, ?_⟩
    all_goals
      simp only [followingReset, minute_eq, day_eq] at *
      omega

theorem keepsHour_iff_daily : KeepsHour (weekTables 4) (scaledPeriod 86400 1) 1000000 none 1000000 ↔
    scaledPeriod 86400 1 % day = 0 :=
  keepsHour_iff (weekTables 4) (by decide) 86400 1 1000000 none 1000000

/-- A day at the rate one and a half is reset at four in the afternoon after four in the morning,
and a map that has waited for two days is given a time that is over. -/
theorem scaledPeriod_half_day :
    scaledPeriod 86400 (3 / 2) = 129600 ∧
      followingReset (weekTables 4) (scaledPeriod 86400 (3 / 2)) (10 * 86400 + 14400) % day = 57600 ∧
      nextResetTime (weekTables 4) (11 * 86400 + 80000) (scaledPeriod 86400 (3 / 2))
        (storedTime (weekTables 4) (some (10 * 86400))) = 11 * 86400 + 57600 := by
  decide +kernel

end DarkCore.Instances
