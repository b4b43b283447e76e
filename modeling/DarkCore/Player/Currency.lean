/-
The currencies of a player (`Player::ModifyCurrency`): a total and a weekly count with
a cap each, in a mixture of `int32` and `uint32`.
-/

import DarkCore.Lib.Runs

namespace DarkCore.Player

open Lib

structure PlayerCurrency where
  totalCount : Nat
  weekCount : Nat
  deriving DecidableEq

/-- Zero where there is none -/
structure CurrencyCaps where
  total : UInt32
  week : UInt32

namespace PlayerCurrency

def int32 (value : Int) : Int := (value + 2 ^ 31) % 2 ^ 32 - 2 ^ 31

def uint32 (value : Int) : Nat := (value % 2 ^ 32).toNat

def addCount (old count : Int) : Int := max 0 (int32 (old + count))

/-- A count above its cap gives the cap and takes the difference from the other count. -/
def clamp (cap : UInt32) (new other : Int) : Int × Int :=
  if cap ≠ 0 ∧ int32 cap.toNat < new then
    (int32 cap.toNat, int32 (other - int32 (new - cap.toNat)))
  else (new, other)

/-- `Player::ModifyCurrency` on the entry of the currency -/
def modify (caps : CurrencyCaps) (currency : PlayerCurrency) (count : Int32) : PlayerCurrency :=
  let oldTotal := int32 currency.totalCount
  let oldWeek := int32 currency.weekCount
  let byTotal := clamp caps.total (addCount oldTotal count.toInt)
    (addCount oldWeek (max count.toInt 0))
  let byWeek := clamp caps.week byTotal.2 byTotal.1
  if count.toInt ≠ 0 ∧ byWeek.2 ≠ oldTotal then
    { totalCount := uint32 byWeek.2, weekCount := uint32 byWeek.1 }
  else currency

/-- How much of a count a cap lets in; zero is no cap. -/
def room (cap : UInt32) (held count : Nat) : Nat :=
  if cap = 0 then count else min count (cap.toNat - held)

structure Within (caps : CurrencyCaps) (currency : PlayerCurrency) : Prop where
  total : caps.total ≠ 0 → currency.totalCount ≤ caps.total.toNat
  week : caps.week ≠ 0 → currency.weekCount ≤ caps.week.toNat

structure Proper (caps : CurrencyCaps) (currency : PlayerCurrency) (count : Int32) : Prop where
  within : Within caps (modify caps currency count)
  rises : 0 < count.toInt → currency.totalCount ≤ (modify caps currency count).totalCount
  added : 0 < count.toInt → (modify caps currency count).totalCount = currency.totalCount +
    room caps.week currency.weekCount (room caps.total currency.totalCount count.toInt.toNat)

/-- No sum overflows; the weekly one may where the total is at its cap or no week is counted. -/
def Fits (caps : CurrencyCaps) (currency : PlayerCurrency) (count : Int32) : Prop :=
  0 < count.toInt → currency.totalCount + count.toInt < 2 ^ 31 ∧
    (caps.week = 0 ∨ currency.weekCount + count.toInt < 2 ^ 31 ∨
      caps.total ≠ 0 ∧ currency.totalCount = caps.total.toNat)

/-- Caps that are not negative as an `int32` -/
structure Small (caps : CurrencyCaps) : Prop where
  total : caps.total.toNat < 2 ^ 31
  week : caps.week.toNat < 2 ^ 31

structure Sound (caps : CurrencyCaps) (currency : PlayerCurrency) : Prop extends
    Within caps currency where
  total_lt : currency.totalCount < 2 ^ 31
  week_lt : currency.weekCount < 2 ^ 32

variable {caps : CurrencyCaps} {currency : PlayerCurrency} {count : Int32}

theorem eq_zero_iff (cap : UInt32) : cap = 0 ↔ cap.toNat = 0 := UInt32.toNat_inj.symm

theorem int32_of_range {value : Int} (low : -2 ^ 31 ≤ value) (high : value < 2 ^ 31) :
    int32 value = value := by
  unfold int32
  omega

theorem addCount_of_range {old count : Int} (low : 0 ≤ old) (below : old < 2 ^ 31)
    (bound : -2 ^ 31 ≤ count) (fits : old + count < 2 ^ 31) :
    addCount old count = max 0 (old + count) := by
  rw [addCount, int32_of_range (by omega) fits]

theorem addCount_range (old count : Int) : 0 ≤ addCount old count ∧ addCount old count < 2 ^ 31 := by
  unfold addCount int32
  omega

theorem clamp_of_le {cap : UInt32} {new other : Int} (small : cap.toNat < 2 ^ 31)
    (fits : cap ≠ 0 → new ≤ cap.toNat) : clamp cap new other = (new, other) := by
  rw [clamp, int32_of_range (by omega) (by omega)]
  refine if_neg fun above => ?_
  have below := fits above.1
  omega

theorem clamp_of_lt {cap : UInt32} {new other : Int} (small : cap.toNat < 2 ^ 31)
    (capped : cap ≠ 0) (above : cap.toNat < new) (limit : new < 2 ^ 31) :
    clamp cap new other = (↑cap.toNat, int32 (other - (new - cap.toNat))) := by
  have capSame : int32 cap.toNat = cap.toNat := int32_of_range (by omega) (by omega)
  have delta : int32 (new - cap.toNat) = new - cap.toNat := int32_of_range (by omega) (by omega)
  rw [clamp, capSame, if_pos ⟨capped, above⟩, delta]

theorem modify_of_le (small : Small caps) (sound : Sound caps currency) (falls : count.toInt ≤ 0) :
    modify caps currency count = currency ∨
      modify caps currency count =
        ⟨(currency.totalCount + count.toInt).toNat, uint32 (addCount (int32 currency.weekCount) 0)⟩ ∧
          (caps.week ≠ 0 → uint32 (addCount (int32 currency.weekCount) 0) = currency.weekCount) := by
  have low := Int32.le_toInt count
  have totalLt := sound.total_lt
  have week : caps.week ≠ 0 → addCount (int32 currency.weekCount) 0 = currency.weekCount := by
    intro capped
    have within := sound.week capped
    have small := small.week
    rw [int32_of_range (by omega) (by omega), addCount_of_range (by omega) (by omega) (by decide)
      (by omega)]
    omega
  have total : addCount (int32 currency.totalCount) count.toInt =
      max 0 (currency.totalCount + count.toInt) := by
    rw [int32_of_range (by omega) (by omega),
      addCount_of_range (by omega) (by omega) (by omega) (by omega)]
  have byTotal : ∀ other, clamp caps.total (max 0 (currency.totalCount + count.toInt)) other =
      (max 0 (currency.totalCount + count.toInt), other) := fun other =>
    clamp_of_le small.total fun capped => by
      have within := sound.total capped
      omega
  have byWeek : ∀ other, clamp caps.week (addCount (int32 currency.weekCount) 0) other =
      (addCount (int32 currency.weekCount) 0, other) := fun other =>
    clamp_of_le small.week fun capped => by
      rw [week capped]
      have within := sound.week capped
      omega
  unfold modify
  simp only [total, Int.max_eq_right falls, byTotal, byWeek]
  rw [int32_of_range (by omega) (by omega)]
  split
  · refine Or.inr ⟨?_, fun capped => ?_⟩
    · simp only [mk.injEq, and_true, uint32]
      omega
    · rw [week capped, uint32]
      have within := sound.week_lt
      omega
  · exact Or.inl rfl

theorem addCount_bounds (old count : Int) (low : 0 ≤ old) (below : old < 2 ^ 31)
    (rises : 0 < count) (bound : count < 2 ^ 31) :
    0 ≤ addCount old count ∧ addCount old count ≤ old + count ∧
      (old + count < 2 ^ 31 → addCount old count = old + count) := by
  unfold addCount int32
  omega

theorem stored_eq {total week : Int} (rises : 0 < count.toInt) (low : 0 ≤ total)
    (high : total < 2 ^ 31) {after : PlayerCurrency}
    (stored : after = if count.toInt ≠ 0 ∧ total ≠ currency.totalCount then
      ⟨uint32 total, uint32 week⟩ else currency) :
    (after.totalCount : Int) = total ∧
      (total = currency.totalCount → after.weekCount = currency.weekCount) ∧
      (total ≠ currency.totalCount → 0 ≤ week → week < 2 ^ 31 → (after.weekCount : Int) = week) := by
  rw [stored]
  split
  · grind [uint32]
  · omega

theorem room_le (cap : UInt32) (held count : Nat) : room cap held count ≤ count := by
  unfold room
  split <;> omega

theorem clamp_room {cap : UInt32} {held count : Nat} {other : Int} (small : cap.toNat < 2 ^ 31)
    (within : cap ≠ 0 → held ≤ cap.toNat) (fits : held + count < 2 ^ 31)
    (low : -2 ^ 31 ≤ other - (count - room cap held count)) (high : other < 2 ^ 31) :
    clamp cap (held + count) other =
      ((held + room cap held count : Int), other - (count - room cap held count)) := by
  have admitted := room_le cap held count
  by_cases above : cap ≠ 0 ∧ cap.toNat < (held + count : Int)
  · have limit := within above.1
    have full : room cap held count = cap.toNat - held := by
      grind [room]
    rw [clamp_of_lt small above.1 above.2 (by omega), int32_of_range (by omega) (by omega)]
    exact Prod.ext (by dsimp only; omega) (by dsimp only; omega)
  · have all : room cap held count = count := by
      unfold room
      split
      · rfl
      · have below := not_and.mp above ‹_›
        omega
    rw [clamp_of_le small fun capped => by
      have below := not_and.mp above capped
      omega, all]
    exact Prod.ext rfl (by dsimp only; omega)

theorem modify_of_pos (small : Small caps) (sound : Sound caps currency) (rises : 0 < count.toInt)
    (fits : Fits caps currency count) :
    (modify caps currency count).totalCount = currency.totalCount +
        room caps.week currency.weekCount (room caps.total currency.totalCount count.toInt.toNat) ∧
      (caps.week ≠ 0 → (modify caps currency count).weekCount = currency.weekCount +
        room caps.week currency.weekCount
          (room caps.total currency.totalCount count.toInt.toNat)) := by
  obtain ⟨totalFits, weekFits⟩ := fits rises
  have bound := Int32.toInt_lt count
  have totalLt := sound.total_lt
  have oldTotal : int32 currency.totalCount = currency.totalCount :=
    int32_of_range (by omega) (by omega)
  obtain ⟨amount, isAmount⟩ := Int.eq_ofNat_of_zero_le (Int.le_of_lt rises)
  have total : addCount currency.totalCount count.toInt = currency.totalCount + amount := by
    rw [addCount_of_range (by omega) (by omega) (by omega) totalFits]
    omega
  have admitted := room_le caps.total currency.totalCount amount
  generalize isAfter : modify caps currency count = after
  simp only [modify, oldTotal, total, Int.max_eq_left (Int.le_of_lt rises)] at isAfter
  obtain ⟨newLow, newHigh⟩ := addCount_range (int32 currency.weekCount) count.toInt
  rw [clamp_room small.total sound.total (by omega) (by omega) newHigh] at isAfter
  rw [isAmount, Int.toNat_natCast]
  by_cases capped : caps.week = 0
  · have byWeek : ∀ new other, clamp caps.week new other = (new, other) := fun new other =>
      clamp_of_le small.week fun some_cap => absurd capped some_cap
    rw [byWeek] at isAfter
    have stored := (stored_eq rises (by omega) (by omega) isAfter.symm).1
    rw [room, if_pos capped]
    exact ⟨by dsimp only at stored; omega, fun some_cap => absurd capped some_cap⟩
  · have within := sound.week capped
    have smallWeek := small.week
    have oldWeek : int32 currency.weekCount = currency.weekCount :=
      int32_of_range (by omega) (by omega)
    rw [oldWeek] at isAfter
    rcases weekFits with none_week | weekFits | ⟨totalCapped, full⟩
    · exact absurd none_week capped
    · have new : addCount currency.weekCount count.toInt = currency.weekCount + amount := by
        rw [addCount_of_range (by omega) (by omega) (by omega) weekFits]
        omega
      have rest := room_le caps.week currency.weekCount
        (room caps.total currency.totalCount amount)
      have kept : (currency.weekCount + amount : Int) -
          (amount - room caps.total currency.totalCount amount) =
            currency.weekCount + room caps.total currency.totalCount amount := by omega
      rw [new, kept, clamp_room small.week sound.week (by omega) (by omega) (by omega)] at isAfter
      obtain ⟨stored, same, week⟩ := stored_eq rises (by omega) (by omega) isAfter.symm
      omega
    · have nothing : room caps.total currency.totalCount amount = 0 := by
        rw [room, if_neg totalCapped, full, Nat.sub_self, Nat.min_zero]
      have none_left : room caps.week currency.weekCount 0 = 0 :=
        Nat.le_zero.mp (room_le _ _ 0)
      obtain ⟨_, newLe, _⟩ := addCount_bounds currency.weekCount count.toInt (by omega)
        (by omega) rises bound
      rw [clamp_of_le smallWeek fun _ => by omega, nothing] at isAfter
      obtain ⟨stored, same, _⟩ := stored_eq rises (by omega) (by omega) isAfter.symm
      rw [nothing, none_left]
      exact ⟨by omega, fun _ => by rw [same (by simp)]; rfl⟩

theorem addCount_over {old count : Int} (old_lt : old < 2 ^ 31) (bound : count < 2 ^ 31)
    (exceeds : 2 ^ 31 ≤ old + count) : addCount old count = 0 := by
  unfold addCount int32
  omega

theorem not_proper_of_total (small : Small caps) (sound : Sound caps currency)
    (rises : 0 < count.toInt) (exceeds : 2 ^ 31 ≤ currency.totalCount + count.toInt) :
    ¬ Proper caps currency count := by
  intro ⟨_, higher, added⟩
  have higher := higher rises
  have added := added rises
  have bound := Int32.toInt_lt count
  have totalLt := sound.total_lt
  have smallWeek := small.week
  have oldTotal : int32 currency.totalCount = currency.totalCount :=
    int32_of_range (by omega) (by omega)
  generalize isAfter : modify caps currency count = after at *
  simp only [modify] at isAfter
  rw [oldTotal, addCount_over (by omega) bound exceeds,
    clamp_of_le small.total fun _ => by omega, Int.max_eq_left (Int.le_of_lt rises)] at isAfter
  by_cases above : caps.week ≠ 0 ∧ caps.week.toNat < addCount (int32 currency.weekCount) count.toInt
  · have within := sound.week above.1
    have notZero := mt (eq_zero_iff caps.week).mpr above.1
    have oldWeek : int32 currency.weekCount = currency.weekCount :=
      int32_of_range (by omega) (by omega)
    obtain ⟨weekLow, weekHigh, _⟩ := addCount_bounds currency.weekCount count.toInt
      (by omega) (by omega) rises bound
    rw [oldWeek] at above isAfter
    have newWeekLt : addCount currency.weekCount count.toInt < 2 ^ 31 := by
      unfold addCount int32
      omega
    rw [clamp_of_lt smallWeek above.1 above.2 newWeekLt, int32_of_range (by omega) (by omega),
      if_pos ⟨by omega, by omega⟩] at isAfter
    have total : (after.totalCount : Int) =
        (0 - (addCount currency.weekCount count.toInt - caps.week.toNat)) % 2 ^ 32 := by
      rw [← isAfter]
      simp only [uint32]
      omega
    have amount : room caps.week currency.weekCount
        (room caps.total currency.totalCount count.toInt.toNat) ≤
          caps.week.toNat - currency.weekCount := by
      grind [room]
    omega
  · rw [clamp_of_le smallWeek fun capped => by
      have limit := not_and.mp above capped
      omega, if_pos ⟨by omega, by omega⟩] at isAfter
    have total : after.totalCount = 0 := by
      rw [← isAfter]
      rfl
    omega

theorem not_proper_of_week (small : Small caps) (sound : Sound caps currency)
    (rises : 0 < count.toInt) (fits : currency.totalCount + count.toInt < 2 ^ 31)
    (capped : caps.week ≠ 0) (exceeds : 2 ^ 31 ≤ currency.weekCount + count.toInt)
    (open_total : ¬ (caps.total ≠ 0 ∧ currency.totalCount = caps.total.toNat)) :
    ¬ Proper caps currency count := by
  intro ⟨within, _, added⟩
  have added := added rises
  have weekWithin := within.week capped
  have bound := Int32.toInt_lt count
  have totalLt := sound.total_lt
  have smallTotal := small.total
  have smallWeek := small.week
  have withinTotal := sound.total
  have oldWithin := sound.week capped
  have oldTotal : int32 currency.totalCount = currency.totalCount :=
    int32_of_range (by omega) (by omega)
  have oldWeek : int32 currency.weekCount = currency.weekCount :=
    int32_of_range (by omega) (by omega)
  have total : addCount currency.totalCount count.toInt = currency.totalCount + count.toInt := by
    rw [addCount_of_range (by omega) (by omega) (by omega) fits]
    omega
  generalize isAfter : modify caps currency count = after at *
  simp only [modify] at isAfter
  rw [oldTotal, oldWeek, total, Int.max_eq_left (Int.le_of_lt rises),
    addCount_over (by omega) bound exceeds] at isAfter
  by_cases above : caps.total ≠ 0 ∧ caps.total.toNat < currency.totalCount + count.toInt
  · have limit := withinTotal above.1
    have different : currency.totalCount ≠ caps.total.toNat := not_and.mp open_total above.1
    rw [clamp_of_lt smallTotal above.1 above.2 fits, int32_of_range (by omega) (by omega),
      clamp_of_le smallWeek fun _ => by omega, if_pos ⟨by omega, by omega⟩] at isAfter
    rw [← isAfter] at weekWithin
    simp only [uint32] at weekWithin
    omega
  · rw [clamp_of_le smallTotal fun some_cap => by
      have limit := not_and.mp above some_cap
      omega, clamp_of_le smallWeek fun _ => by omega, if_pos ⟨by omega, by omega⟩] at isAfter
    have stored : (after.totalCount : Int) = currency.totalCount + count.toInt := by
      rw [← isAfter]
      simp only [uint32]
      omega
    have amount : room caps.week currency.weekCount
        (room caps.total currency.totalCount count.toInt.toNat) ≤
          caps.week.toNat - currency.weekCount := by
      grind [room]
    omega

theorem modify_week_lt (count : Int32) (sound : Sound caps currency) :
    (modify caps currency count).weekCount < 2 ^ 32 := by
  have weekLt := sound.week_lt
  simp only [modify, uint32]
  split
  · grind
  · exact weekLt

theorem sound_modify (small : Small caps) (sound : Sound caps currency)
    (fits : Fits caps currency count) : Sound caps (modify caps currency count) := by
  have weekLt := modify_week_lt count sound
  rcases Int.lt_or_le 0 count.toInt with rises | falls
  · obtain ⟨total, week⟩ := modify_of_pos small sound rises fits
    have admitted := room_le caps.total currency.totalCount count.toInt.toNat
    have rest := room_le caps.week currency.weekCount
      (room caps.total currency.totalCount count.toInt.toNat)
    have totalFits := (fits rises).1
    refine ⟨⟨fun capped => ?_, fun capped => ?_⟩, by omega, weekLt⟩
    · have within := sound.total capped
      rw [total]
      have limit : room caps.total currency.totalCount count.toInt.toNat ≤
          caps.total.toNat - currency.totalCount := by
        grind [room]
      omega
    · have within := sound.week capped
      rw [week capped, room, if_neg capped]
      omega
  · rcases modify_of_le small sound falls with same | ⟨lower, week⟩
    · simp_all
    · have totalLt := sound.total_lt
      rw [lower] at weekLt ⊢
      refine ⟨⟨fun capped => ?_, fun capped => ?_⟩, by dsimp only; omega, weekLt⟩
      · have within := sound.total capped
        dsimp only
        omega
      · rw [week capped]
        exact sound.week capped

theorem proper_iff_fits (small : Small caps) (sound : Sound caps currency) :
    Proper caps currency count ↔ Fits caps currency count := by
  constructor
  · intro proper rises
    have totalFits : currency.totalCount + count.toInt < 2 ^ 31 :=
      Int.not_le.mp fun exceeds => not_proper_of_total small sound rises exceeds proper
    refine ⟨totalFits, Classical.byContradiction fun missed => ?_⟩
    simp only [not_or] at missed
    exact not_proper_of_week small sound rises totalFits missed.1 (Int.not_lt.mp missed.2.1)
      missed.2.2 proper
  · intro fits
    refine ⟨(sound_modify small sound fits).toWithin, fun rises => ?_, fun rises => ?_⟩
    · have total := (modify_of_pos small sound rises fits).1
      omega
    · exact (modify_of_pos small sound rises fits).1

/-- With caps below `2 ^ 31` every call of a run does what it should exactly when no sum of a call
overflows. -/
theorem modify_run_iff (small : Small caps) (sound : Sound caps currency) (counts : List Int32) :
    Along (modify caps) (Proper caps) currency counts ↔
      Along (modify caps) (Fits caps) currency counts :=
  @along_iff_along _ _ (modify caps) (Sound caps) (Fits caps) (Proper caps) (fun _ _ => True)
    (fun _ _ sound _ => proper_iff_fits small sound)
    (fun _ _ sound _ fits => sound_modify small sound fits) currency counts sound
    (along_true currency counts)

theorem modify_run_iff_honor :
    Along (modify ⟨400000, 0⟩) (Proper ⟨400000, 0⟩) ⟨0, 0⟩ [300000, 200000, -1] ↔
      Along (modify ⟨400000, 0⟩) (Fits ⟨400000, 0⟩) ⟨0, 0⟩ [300000, 200000, -1] :=
  modify_run_iff ⟨by decide, by decide⟩
    ⟨⟨fun _ => Nat.zero_le _, fun _ => Nat.zero_le _⟩, by decide, by decide⟩ _

theorem not_proper_over :
    ¬ Along (modify ⟨0, 0⟩) (Proper ⟨0, 0⟩) ⟨0, 0⟩ [2147483647, 1] := by
  intro proper
  exact absurd (proper.2.1.rises (by decide)) (by decide)

end PlayerCurrency

end DarkCore.Player
