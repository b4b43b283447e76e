/-
The delay until the next update of the game events, for events that are not world
events: whether an event starts or stops within it.
-/

import DarkCore.GameEvents.Schedule

namespace DarkCore.GameEvents.Schedule

structure Periodic (event : GameEventData) : Prop where
  state : event.state = .normal
  span : event.start < event.endtime
  lasts : 0 < event.length
  within : event.length ≤ event.occurence
  small : event.occurence * 60 < 2 ^ 32

def Plain (event : GameEventData) : Prop := Periodic event ∨ event = {}

def Active (event : GameEventData) (time : Int) : Prop :=
  event.start < time ∧ time < event.endtime ∧
    (time - event.start) % (event.occurence * 60) < event.length * 60

def Imminent (now : Int) (event : GameEventData) : Prop :=
  now < event.start ∧ (event.start - now) % 2 ^ 32 ≤ 1 ∨
    event.start ≤ now ∧ now ≤ event.endtime ∧
      (event.endtime ≤ now + 1 ∨
        (now - event.start) % (event.occurence * 60) + 1 = event.length * 60 ∨
        (now - event.start) % (event.occurence * 60) + 1 = event.occurence * 60)

theorem emod_later {start now later period : Int}
    (after : now ≤ later) (early : (now - start) % period + (later - now) < period)
    (positive : 0 < period) :
    (later - start) % period = (now - start) % period + (later - now) := by
  have low := Int.emod_nonneg (now - start) (Int.ne_of_gt positive)
  have split : later - start =
      (now - start) % period + (later - now) + period * ((now - start) / period) := by
    have parts := Int.emod_add_mul_ediv (now - start) period
    omega
  rw [split, Int.add_mul_emod_self_left]
  exact Int.emod_eq_of_lt (by omega) early

section Check

variable {now : Int} {event : GameEventData}

theorem Periodic.phase (periodic : Periodic event) :
    phase now event = some ((now - event.start) % (event.occurence * 60)) := by
  have exact : minutes event.occurence = event.occurence * 60 := Nat.mod_eq_of_lt periodic.small
  have lasts := periodic.lasts
  have within := periodic.within
  simp [Schedule.phase, exact]
  omega

theorem Periodic.minutes_length (periodic : Periodic event) :
    minutes event.length = event.length * 60 := by
  have within := periodic.within
  have small := periodic.small
  exact Nat.mod_eq_of_lt (by omega)

theorem Periodic.bounds (periodic : Periodic event) (now : Int) :
    0 ≤ (now - event.start) % (event.occurence * 60) ∧
      (now - event.start) % (event.occurence * 60) < event.occurence * 60 := by
  have lasts := periodic.lasts
  have within := periodic.within
  exact ⟨Int.emod_nonneg _ (by omega), Int.emod_lt_of_pos _ (by omega)⟩

open Classical in
theorem Plain.checkOneGameEvent {events : GameEventDataMap} {entry : Nat}
    (plain : Plain (events entry)) :
    checkOneGameEvent now events entry = some (decide (Active (events entry) now)) := by
  rcases plain with periodic | gap
  · simp [Schedule.checkOneGameEvent, periodic.state, periodic.phase, periodic.minutes_length,
      Active]
    grind
  · have never : ¬ (1 < now ∧ now < 0) := by omega
    have quiet : ¬ Active (events entry) now := fun active => never (by grind [Active])
    simp [Schedule.checkOneGameEvent, quiet]
    simp [gap, never]

structure Foretells (now : Int) (event : GameEventData) (delay : Nat) : Prop where
  constant : (0 < event.length → event.start ≠ now) → ∀ later, now < later → later < now + delay →
    (Active event later ↔ Active event now)
  soon : delay ≤ 1 ↔ Imminent now event
  starting : event.start = now → 0 < event.length → 1 < delay → Active event (now + 1)

theorem toUint32_of_lt {seconds : Int} (low : 0 ≤ seconds) (high : seconds < 2 ^ 32) :
    (toUint32 seconds : Int) = seconds := by
  unfold toUint32
  omega

def edge (now : Int) (event : GameEventData) : Int :=
  if (now - event.start) % (event.occurence * 60) < (event.length * 60 : Int) then
    event.length * 60
  else event.occurence * 60

/-- In the span of the event the delay is what is left of the window, or of the pause after it,
or of the span. -/
theorem Periodic.foretells (periodic : Periodic event) (begun : event.start ≤ now)
    (ongoing : now ≤ event.endtime) (delay : Nat)
    (counted : (delay : Int) = min (event.endtime - now)
      (edge now event - (now - event.start) % (event.occurence * 60))) :
    Foretells now event delay := by
  obtain ⟨low, high⟩ := periodic.bounds now
  obtain ⟨state, span, lasts, within, small⟩ := periodic
  unfold edge at counted
  have phases : ∀ later : Int, now ≤ later →
      (now - event.start) % (event.occurence * 60) + (later - now) < event.occurence * 60 →
      (later - event.start) % (event.occurence * 60) =
        (now - event.start) % (event.occurence * 60) + (later - now) :=
    fun later after early => emod_later after early (by omega)
  constructor
  · intro different later after early
    have notNow := different lasts
    have moved := phases later (Int.le_of_lt after) (by split at counted <;> omega)
    unfold Active
    rw [moved]
    split at counted <;> omega
  · unfold Imminent
    split at counted <;> omega
  · intro starts _ later
    have moved := phases (now + 1) (by omega)
    have zero : (now - event.start) % (event.occurence * 60) = 0 := by simp [starts]
    rw [zero] at moved counted
    rw [if_pos (by omega)] at counted
    refine ⟨by omega, by omega, ?_⟩
    rw [moved (by omega)]
    omega

theorem Periodic.nextCheck (periodic : Periodic event) (now : Int) :
    ∃ delay, nextCheck now event = some delay ∧ Foretells now event delay := by
  obtain ⟨low, high⟩ := periodic.bounds now
  have exact : minutes event.occurence = event.occurence * 60 := Nat.mod_eq_of_lt periodic.small
  have span := periodic.span
  have within := periodic.within
  have small := periodic.small
  simp only [Schedule.nextCheck, periodic.state, periodic.phase, periodic.minutes_length, exact]
  rcases Int.lt_or_le event.endtime now with outdated | ongoing
  · refine ⟨maxGeCheckDelay, by simp [outdated], fun _ later after early => ?_, ?_, ?_⟩
    · simp [Active]
      omega
    · simp [Imminent, maxGeCheckDelay]
      omega
    · omega
  · rcases Int.lt_or_le now event.start with ahead | begun
    · refine ⟨toUint32 (event.start - now), by simp [ahead, Int.not_lt.mpr ongoing],
        fun _ later after early => ?_, ?_, ?_⟩
      all_goals simp only [toUint32, Active, Imminent] at *; omega
    · have reached := periodic.foretells begun ongoing
      simp only [Int.not_lt.mpr ongoing, Int.not_lt.mpr begun, Option.map_some, if_false,
        reduceCtorEq, or_self, false_and]
      push_cast
      refine ⟨_, rfl, reached _ ?_⟩
      have inPeriod : edge now event ≤ event.occurence * 60 ∧
          (now - event.start) % (event.occurence * 60) ≤ edge now event := by
        grind [edge]
      have whole : (toUint32 (edge now event - (now - event.start) % (event.occurence * 60)) : Int) =
          edge now event - (now - event.start) % (event.occurence * 60) :=
        toUint32_of_lt (by omega) (by omega)
      have left : event.endtime < now + toUint32 (edge now event -
          (now - event.start) % (event.occurence * 60)) → toUint32 (event.endtime - now) =
            event.endtime - now := fun short => toUint32_of_lt (by omega) (by omega)
      change ((if event.endtime < now + toUint32 (edge now event -
        (now - event.start) % (event.occurence * 60)) then _ else toUint32 (edge now event -
          (now - event.start) % (event.occurence * 60)) : Nat) : Int) = _
      split <;> omega

theorem Plain.nextCheck (plain : Plain event) (now : Int) :
    ∃ delay, nextCheck now event = some delay ∧ Foretells now event delay := by
  rcases plain with periodic | gap
  · exact periodic.nextCheck now
  · refine ⟨if 0 < now then maxGeCheckDelay else toUint32 (1 - now), ?_, ?_⟩
    · by_cases past : 0 < now
      · simp [Schedule.nextCheck, gap, past]
      · have before : now < 1 := by omega
        simp [Schedule.nextCheck, gap, past, before]
    · constructor
      · simp [Active, gap]
        omega
      · simp [Imminent, gap, maxGeCheckDelay, toUint32]
        split <;> omega
      · simp [gap]

end Check

section Update

variable (now : Int) (met isActive : Nat → Bool)

structure Surveyed (ids : List Nat) (before after : Pass) : Prop where
  events : after.events = before.events
  least : ∀ bound, after.nextEventDelay ≤ bound ↔ before.nextEventDelay ≤ bound ∨
    ∃ id ∈ ids, ∃ delay, nextCheck now (before.events id) = some delay ∧ delay ≤ bound
  activated : ∀ id ∈ after.activate, id ∈ before.activate ∨ id ∈ ids

theorem Plain.state {event : GameEventData} (plain : Plain event) : event.state = .normal := by
  rcases plain with periodic | gap
  · exact periodic.state
  · rw [gap]

theorem visit_plain {pass : Pass} {id : Nat} (plain : Plain (pass.events id)) :
    ∃ after, visit now met isActive pass id = some after ∧ Surveyed now [id] pass after := by
  obtain ⟨delay, next, _⟩ := plain.nextCheck now
  refine ⟨_, by simp [visit, plain.checkOneGameEvent, plain.state, next]; rfl, ?_⟩
  constructor
  · simp
  · grind
  · grind

theorem foldlM_visit_plain {ids : List Nat} (pass : Pass)
    (plain : ∀ id ∈ ids, Plain (pass.events id)) :
    ∃ after, ids.foldlM (visit now met isActive) pass = some after ∧
      Surveyed now ids pass after := by
  induction ids generalizing pass with
  | nil => exact ⟨pass, rfl, rfl, by simp, by simp⟩
  | cons id rest ih =>
    obtain ⟨middle, ran, first⟩ := visit_plain now met isActive (plain id List.mem_cons_self)
    obtain ⟨after, ranRest, later⟩ := ih middle fun other within => by
      grind [first.events]
    refine ⟨after, by simp [ran, ranRest], later.events.trans first.events, ?_, ?_⟩
    · simp [later.least, first.least, first.events, or_assoc]
    · intro other active
      have split := later.activated other active
      have start := first.activated other
      simp_all
      grind

/-- Between now and the next update no check of an event tells anything else. -/
def Unnoticed (mgr : GameEventMgr) (delay : Nat) : Prop :=
  ∀ id ∈ visited mgr, ∀ later, now < later → later < now + delay →
    checkOneGameEvent later mgr.events id = checkOneGameEvent now mgr.events id

/-- An event that starts in this very second is taken for a running one by the delay but not by
the check; it is missed unless another boundary is at hand. -/
theorem updateDelay_unnoticed_iff (mgr : GameEventMgr)
    (plain : ∀ id ∈ visited mgr, Plain (mgr.events id)) :
    ∃ delay, updateDelay now met isActive mgr = some delay ∧
      (Unnoticed now mgr delay ↔
        (∀ id ∈ visited mgr, 0 < (mgr.events id).length → (mgr.events id).start ≠ now) ∨
          ∃ id ∈ visited mgr, Imminent now (mgr.events id)) := by
  obtain ⟨after, ran, events, least, activated⟩ :=
    foldlM_visit_plain now met isActive { events := mgr.events } plain
  have quiet : ∀ id ∈ after.activate, startEvent met after.events id = false := by
    intro id active
    have within : id ∈ visited mgr := by simpa using activated id active
    simp [startEvent, isWorldEvent, events, (plain id within).state]
  refine ⟨after.nextEventDelay, by simp +contextual [updateDelay, ran, quiet], ?_⟩
  have soon : after.nextEventDelay ≤ 1 ↔ ∃ id ∈ visited mgr, Imminent now (mgr.events id) := by
    rw [least 1]
    simp [maxGeCheckDelay]
    refine exists_congr fun id => and_congr_right fun within => ?_
    obtain ⟨delay, next, foretells⟩ := (plain id within).nextCheck now
    simp [next, foretells.soon]
  constructor
  · intro unnoticed
    by_contra missed
    simp only [not_or, ← soon] at missed
    obtain ⟨some_starts, waits⟩ := missed
    push Not at some_starts
    obtain ⟨id, within, lasts, starts⟩ := some_starts
    obtain ⟨delay, next, foretells⟩ := (plain id within).nextCheck now
    have shorter : after.nextEventDelay ≤ delay :=
      (least delay).mpr (Or.inr ⟨id, within, delay, next, Nat.le_refl delay⟩)
    have same := unnoticed id within (now + 1) (by omega) (by omega)
    have active := foretells.starting starts lasts (by omega)
    simp [(plain id within).checkOneGameEvent, active] at same
    exact absurd same.1 (by omega)
  · rintro (none_starts | imminent) id within later after_now early
    · obtain ⟨delay, next, foretells⟩ := (plain id within).nextCheck now
      have shorter : after.nextEventDelay ≤ delay :=
        (least delay).mpr (Or.inr ⟨id, within, delay, next, Nat.le_refl delay⟩)
      have constant := foretells.constant (none_starts id within) later after_now (by omega)
      simp [(plain id within).checkOneGameEvent, constant]
    · have soon := soon.mpr imminent
      omega

end Update

def hourly : GameEventMgr :=
  { size := 2
    events := fun _ => { start := 1000, endtime := 100000, occurence := 60, length := 30 } }

theorem plain_hourly (id : Nat) : Plain (hourly.events id) :=
  Or.inl ⟨rfl, by simp [hourly], by simp [hourly], by simp [hourly], by simp [hourly]⟩

theorem updateDelay_unnoticed_iff_hourly :
    ∃ delay, updateDelay 1001 (fun _ => true) (fun _ => false) hourly = some delay ∧
      (Unnoticed 1001 hourly delay ↔ (∀ id ∈ visited hourly, 0 < (hourly.events id).length →
          (hourly.events id).start ≠ 1001) ∨
            ∃ id ∈ visited hourly, Imminent 1001 (hourly.events id)) :=
  updateDelay_unnoticed_iff 1001 _ _ hourly fun id _ => plain_hourly id

theorem not_unnoticed_hourly :
    updateDelay 1000 (fun _ => true) (fun _ => false) hourly = some 1800 ∧
      ¬ Unnoticed 1000 hourly 1800 := by
  constructor
  · decide
  · intro unnoticed
    exact absurd (unnoticed 1 (by decide) 1001 (by decide) (by decide)) (by decide)

end DarkCore.GameEvents.Schedule
