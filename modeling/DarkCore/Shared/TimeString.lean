/-
Times as texts (`Util.cpp`): `secsToTimeString` writes days, hours, minutes and
seconds and leaves out what is zero, `TimeStringToSecs` reads such groups in
32-bit arithmetic.
-/

import Mathlib.Data.Nat.Digits.Defs
import Mathlib.Tactic.IntervalCases

namespace DarkCore.Shared

def secsOfMinute : Nat := 60

def secsOfHour : Nat := 3600

def secsOfDay : Nat := 86400

def timeGroup (value : Nat) (unit : List Char) : List Char := Nat.toDigits 10 value ++ unit

def secsToTimeString (timeInSecs : Nat) (shortText hoursOnly : Bool) : List Char :=
  let secs := timeInSecs % secsOfMinute
  let minutes := timeInSecs % secsOfHour / secsOfMinute
  let hours := timeInSecs % secsOfDay / secsOfHour
  let days := timeInSecs / secsOfDay
  let unit (short long : String) := if shortText then short.toList else long.toList
  (if days ≠ 0 then timeGroup days (unit "d" " Day(s) ") else []) ++
    (if hours ≠ 0 ∨ hoursOnly then timeGroup hours (unit "h" " Hour(s) ") else []) ++
    if hoursOnly then []
    else (if minutes ≠ 0 then timeGroup minutes (unit "m" " Minute(s) ") else []) ++
      if secs ≠ 0 ∨ (days = 0 ∧ hours = 0 ∧ minutes = 0) then
        timeGroup secs (unit "s" " Second(s).")
      else []

def unitOf (char : Char) : Option Nat :=
  match char with
  | 'd' => some secsOfDay
  | 'h' => some secsOfHour
  | 'm' => some secsOfMinute
  | 's' => some 1
  | _ => none

/-- A turn of the loop, on `secs` and `buffer`; `none` is the return for a bad format. -/
def readTime (state : Nat × Nat) (char : Char) : Option (Nat × Nat) :=
  if char.isDigit then
    some (state.1, (state.2 * 10 % 2 ^ 32 + (char.toNat - '0'.toNat)) % 2 ^ 32)
  else (unitOf char).map fun multiplier =>
    ((state.1 + state.2 * multiplier % 2 ^ 32) % 2 ^ 32, 0)

def timeStringToSecs (timestring : List Char) : Nat :=
  match timestring.foldlM readTime (0, 0) with
  | some (secs, _) => secs
  | none => 0

inductive TimeGroups : List Char → Prop
  | nil : TimeGroups []
  | cons {digits rest : List Char} {unit : Char} (isDigits : ∀ char ∈ digits, char.isDigit = true)
      (isUnit : (unitOf unit).isSome = true) (groups : TimeGroups rest) :
      TimeGroups (digits ++ unit :: rest)

theorem unit_not_digit {unit : Char} (isUnit : (unitOf unit).isSome = true) :
    unit.isDigit = false := by
  unfold unitOf at isUnit
  split at isUnit <;> simp_all

theorem readTime_digits {digits : List Char} (isDigits : ∀ char ∈ digits, char.isDigit = true)
    (secs : Nat) {buffer : Nat} :
    digits.foldlM readTime (secs, buffer % 2 ^ 32) =
      some (secs, Nat.ofDigitChars 10 digits buffer % 2 ^ 32) := by
  induction digits generalizing buffer with
  | nil => rfl
  | cons char rest next =>
    have here : readTime (secs, buffer % 2 ^ 32) char =
        some (secs, (10 * buffer + (char.toNat - '0'.toNat)) % 2 ^ 32) := by
      simp only [readTime, isDigits char List.mem_cons_self, if_true]
      congr 2
      omega
    rw [List.foldlM_cons, here, Nat.ofDigitChars_cons]
    exact next fun other member => isDigits other (List.mem_cons_of_mem _ member)

theorem readTime_unit {unit : Char} {multiplier : Nat} (isUnit : unitOf unit = some multiplier)
    (secs buffer : Nat) :
    readTime (secs, buffer) unit = some ((secs + buffer * multiplier) % 2 ^ 32, 0) := by
  have notDigit := unit_not_digit (Option.isSome_of_eq_some isUnit)
  simp only [readTime, notDigit, isUnit, Bool.false_eq_true, if_false, Option.map_some]
  congr 2
  omega

theorem TimeGroups.read {groups : List Char} (wellFormed : TimeGroups groups) :
    ∃ value, ∀ secs, groups.foldlM readTime (secs % 2 ^ 32, 0) =
      some ((secs + value) % 2 ^ 32, 0) := by
  induction wellFormed with
  | nil => exact ⟨0, fun secs => rfl⟩
  | @cons digits rest unit isDigits isUnit groups next =>
    obtain ⟨value, reads⟩ := next
    obtain ⟨multiplier, known⟩ := Option.isSome_iff_exists.mp isUnit
    refine ⟨Nat.ofDigitChars 10 digits 0 % 2 ^ 32 * multiplier + value, fun secs => ?_⟩
    have first : digits.foldlM readTime (secs % 2 ^ 32, 0) =
        some (secs % 2 ^ 32, Nat.ofDigitChars 10 digits 0 % 2 ^ 32) :=
      @readTime_digits digits isDigits (secs % 2 ^ 32) 0
    rw [List.foldlM_append, first, Option.bind_eq_bind, Option.bind_some, List.foldlM_cons,
      readTime_unit known, Option.bind_eq_bind, Option.bind_some, reads]
    congr 2
    omega

theorem readTime_group {written : Prop} [Decidable written] {unit : Char} {multiplier value : Nat}
    (isUnit : unitOf unit = some multiplier) (small : value < 2 ^ 32) (nothing : ¬ written → value = 0)
    (secs : Nat) (rest : List Char) :
    ((if written then timeGroup value [unit] else []) ++ rest).foldlM readTime (secs % 2 ^ 32, 0) =
      rest.foldlM readTime ((secs + value * multiplier) % 2 ^ 32, 0) := by
  by_cases here : written
  · have first : (Nat.toDigits 10 value).foldlM readTime (secs % 2 ^ 32, 0) =
        some (secs % 2 ^ 32, Nat.ofDigitChars 10 (Nat.toDigits 10 value) 0 % 2 ^ 32) :=
      @readTime_digits _ (fun char member =>
        Nat.isDigit_of_mem_toDigits (by decide) (by decide) member) (secs % 2 ^ 32) 0
    rw [if_pos here, timeGroup, List.append_assoc, List.foldlM_append, first,
      Nat.ofDigitChars_ten_toDigits, Nat.mod_eq_of_lt small, Option.bind_eq_bind, Option.bind_some,
      List.cons_append, List.foldlM_cons, readTime_unit isUnit, Nat.mod_add_mod]
    rfl
  · simp [here, nothing here]

theorem timeStringToSecs_groups {groups : List Char} {value : Nat}
    (reads : groups.foldlM readTime (0, 0) = some (value % 2 ^ 32, 0)) :
    timeStringToSecs groups = value % 2 ^ 32 := by
  rw [timeStringToSecs, reads]

/-- The short text of a 32-bit time is read as that time, and texts of groups add up. -/
theorem timeStringToSecs_roundTrip :
    (∀ timeInSecs, timeInSecs < 2 ^ 32 →
      timeStringToSecs (secsToTimeString timeInSecs true false) = timeInSecs) ∧
    ∀ first second, TimeGroups first → TimeGroups second →
      timeStringToSecs (first ++ second) =
        (timeStringToSecs first + timeStringToSecs second) % 2 ^ 32 := by
  constructor
  · intro time small
    have reads : (secsToTimeString time true false).foldlM readTime (0 % 2 ^ 32, 0) =
        some (time % 2 ^ 32, 0) := by
      have shape : secsToTimeString time true false =
          (if time / secsOfDay ≠ 0 then timeGroup (time / secsOfDay) ['d'] else []) ++
          ((if time % secsOfDay / secsOfHour ≠ 0 then
            timeGroup (time % secsOfDay / secsOfHour) ['h'] else []) ++
          ((if time % secsOfHour / secsOfMinute ≠ 0 then
            timeGroup (time % secsOfHour / secsOfMinute) ['m'] else []) ++
          ((if time % secsOfMinute ≠ 0 ∨ (time / secsOfDay = 0 ∧ time % secsOfDay / secsOfHour = 0 ∧
              time % secsOfHour / secsOfMinute = 0) then
            timeGroup (time % secsOfMinute) ['s'] else []) ++ []))) := by
        simp [secsToTimeString]
      rw [shape, readTime_group rfl _ not_not.mp, readTime_group rfl _ not_not.mp,
        readTime_group rfl _ not_not.mp, readTime_group rfl _ fun left => by
          simpa using (not_or.mp left).1]
      all_goals simp only [secsOfDay, secsOfHour, secsOfMinute]
      · refine congrArg (fun secs => some (secs % 2 ^ 32, 0)) ?_
        omega
      all_goals omega
    rw [timeStringToSecs_groups reads, Nat.mod_eq_of_lt small]
  · intro first second groups more
    obtain ⟨value, reads⟩ := groups.read
    obtain ⟨other, readsMore⟩ := more.read
    have both : (first ++ second).foldlM readTime (0, 0) = some ((value + other) % 2 ^ 32, 0) := by
      have start := reads 0
      rw [Nat.zero_mod, Nat.zero_add] at start
      rw [List.foldlM_append, start, Option.bind_eq_bind, Option.bind_some, readsMore]
    have start := readsMore 0
    have begin := reads 0
    rw [Nat.zero_mod, Nat.zero_add] at start begin
    rw [timeStringToSecs_groups both, timeStringToSecs_groups begin, timeStringToSecs_groups start]
    exact Nat.add_mod _ _ _

theorem timeStringToSecs_roundTrip_day :
    timeStringToSecs (secsToTimeString 86461 true false) = 86461 :=
  timeStringToSecs_roundTrip.1 86461 (by decide)

end DarkCore.Shared
