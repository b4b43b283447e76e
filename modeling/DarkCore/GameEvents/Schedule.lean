/-
When game events run (`GameEventMgr::LoadFromDB`, `CheckOneGameEvent`, `NextCheck`,
`Update`). Whether the conditions of a world event are met is a parameter, and a
remainder by zero is `none`.
-/

import Mathlib.Algebra.Order.Ring.Int
import Mathlib.Data.List.Basic

namespace DarkCore.GameEvents.Schedule

open Function (update)

inductive GameEventState where
  | normal
  | worldInactive
  | worldConditions
  | worldNextphase
  | worldFinished
  | internal
  | unknown (value : Nat)
  deriving DecidableEq

def GameEventState.ofNat : Nat → GameEventState
  | 0 => .normal
  | 1 => .worldInactive
  | 2 => .worldConditions
  | 3 => .worldNextphase
  | 4 => .worldFinished
  | 5 => .internal
  | value => .unknown value

structure GameEventData where
  start : Int := 1
  endtime : Int := 0
  nextstart : Int := 0
  occurence : Nat := 0
  length : Nat := 0
  state : GameEventState := .normal
  prerequisiteEvents : List Nat := []

abbrev GameEventDataMap := Nat → GameEventData

/-- `* MINUTE` in `uint32` -/
def minutes (count : Nat) : Nat := count * 60 % 2 ^ 32

def toUint32 (seconds : Int) : Nat := (seconds % 2 ^ 32).toNat

/-- `max_ge_check_delay`, a day -/
def maxGeCheckDelay : Nat := 86400

/-- `(currenttime - start) % (occurence * MINUTE)` -/
def phase (now : Int) (event : GameEventData) : Option Int :=
  if minutes event.occurence = 0 then none
  else some ((now - event.start) % minutes event.occurence)

structure EventRow where
  entry : Nat
  start : Int
  endtime : Int
  occurence : Nat
  length : Nat
  worldEvent : Nat

/-- What a row of `game_event_save` or `game_event_prerequisite` may change -/
def isWorldEvent (event : GameEventData) : Bool :=
  event.state ≠ .normal ∧ event.state ≠ .internal

/-- A row without a length is only complained about: it was stored before. -/
def loadEvent (events : GameEventDataMap) (row : EventRow) : GameEventDataMap :=
  if row.entry = 0 then events
  else
    update events row.entry
      { events row.entry with
        start := row.start
        endtime := row.endtime
        occurence := row.occurence
        length := row.length
        state := .ofNat row.worldEvent
        nextstart := 0 }

def loadSave (size : Nat) (events : GameEventDataMap) (row : Nat × Nat × Nat) : GameEventDataMap :=
  if row.1 < size ∧ isWorldEvent (events row.1) then
    update events row.1 { events row.1 with state := .ofNat row.2.1, nextstart := row.2.2 }
  else events

def loadPrerequisite (size : Nat) (events : GameEventDataMap) (row : Nat × Nat) :
    GameEventDataMap :=
  if row.1 < size ∧ isWorldEvent (events row.1) ∧ row.2 < size then
    update events row.1
      { events row.1 with prerequisiteEvents := row.2 :: (events row.1).prerequisiteEvents }
  else events

structure GameEventMgr where
  size : Nat
  events : GameEventDataMap

def loadFromDB (rows : List EventRow) (saves : List (Nat × Nat × Nat))
    (prerequisites : List (Nat × Nat)) : GameEventMgr :=
  let size := if rows = [] then 0 else (rows.map (·.entry)).foldr max 0 + 1
  { size := size
    events := prerequisites.foldl (loadPrerequisite size)
      (saves.foldl (loadSave size) (rows.foldl loadEvent fun _ => {})) }

section Update

variable (now : Int)

def checkOneGameEvent (events : GameEventDataMap) (entry : Nat) : Option Bool :=
  let event := events entry
  match event.state with
  | .normal | .unknown _ =>
    if event.start < now ∧ now < event.endtime then
      (phase now event).map fun passed => decide (passed < (minutes event.length : Int))
    else some false
  | .worldConditions | .worldNextphase => some true
  | .worldFinished | .internal => some false
  | .worldInactive =>
    some (!event.prerequisiteEvents.isEmpty && event.prerequisiteEvents.all fun prerequisite =>
      ((events prerequisite).state = .worldNextphase ∨
        (events prerequisite).state = .worldFinished) ∧ (events prerequisite).nextstart ≤ now)

def nextCheck (event : GameEventData) : Option Nat :=
  if (event.state = .worldNextphase ∨ event.state = .worldFinished) ∧ now ≤ event.nextstart then
    some (toUint32 (event.nextstart - now))
  else if event.state = .worldConditions then
    some (if event.length ≠ 0 then minutes event.length else maxGeCheckDelay)
  else if event.endtime < now then some maxGeCheckDelay
  else if now < event.start then some (toUint32 (event.start - now))
  else
    (phase now event).map fun passed =>
      let delay := toUint32
        ((if passed < (minutes event.length : Int) then (minutes event.length : Int)
          else minutes event.occurence) - passed)
      if event.endtime < now + delay then toUint32 (event.endtime - now) else delay

/-- `CheckOneGameEventConditions`, when the conditions are met -/
def meetConditions (event : GameEventData) : GameEventData :=
  { event with
    state := .worldNextphase
    nextstart :=
      if event.nextstart = 0 then now + minutes event.length else event.nextstart }

structure Pass where
  events : GameEventDataMap
  nextEventDelay : Nat := maxGeCheckDelay
  activate : List Nat := []

variable (met isActive : Nat → Bool)

def visit (pass : Pass) (entry : Nat) : Option Pass := do
  let active ← checkOneGameEvent now pass.events entry
  let event := pass.events entry
  if active ∧ event.state = .worldNextphase ∧ event.nextstart ≤ now then
    some { pass with
      events := update pass.events entry { event with state := .worldFinished, nextstart := 0 } }
  else
    let event :=
      if active ∧ event.state = .worldConditions ∧ met entry then meetConditions now event
      else event
    let calcDelay ← nextCheck now event
    some
      { events := update pass.events entry event
        nextEventDelay := min calcDelay pass.nextEventDelay
        activate := if active ∧ !isActive entry then pass.activate ++ [entry] else pass.activate }

/-- What `StartEvent` answers -/
def startEvent (events : GameEventDataMap) (entry : Nat) : Bool :=
  isWorldEvent (events entry) && met entry

def visited (mgr : GameEventMgr) : List Nat := List.range' 1 (mgr.size - 1)

/-- The delay that `Update` computes, before the second it adds -/
def updateDelay (mgr : GameEventMgr) : Option Nat :=
  ((visited mgr).foldlM (visit now met isActive) { events := mgr.events }).map fun pass =>
    if pass.activate.any (startEvent met pass.events) then 0 else pass.nextEventDelay

/-- A remainder by the occurrence is taken in one of the checks. -/
def Divided (met : Bool) (event : GameEventData) : Prop :=
  event.start ≤ now ∧ now ≤ event.endtime ∧
    match event.state with
    | .worldNextphase => False
    | .worldFinished => event.nextstart < now
    | .worldConditions => met ∧ event.nextstart ≠ 0 ∧ event.nextstart < now
    | _ => True

theorem minutes_eq_zero {count : Nat} : minutes count = 0 ↔ count % 2 ^ 30 = 0 := by
  unfold minutes
  omega

theorem phase_isSome {event : GameEventData} :
    (phase now event).isSome ↔ event.occurence % 2 ^ 30 ≠ 0 := by
  simp [phase, minutes_eq_zero]

theorem nextCheck_isSome (event : GameEventData) :
    (nextCheck now event).isSome ↔
      (event.start ≤ now → now ≤ event.endtime → event.state ≠ .worldConditions →
        ¬ ((event.state = .worldNextphase ∨ event.state = .worldFinished) ∧
          now ≤ event.nextstart) → event.occurence % 2 ^ 30 ≠ 0) := by
  rw [← phase_isSome now]
  unfold nextCheck
  split_ifs <;> simp <;> grind

theorem checkOneGameEvent_isSome (events : GameEventDataMap) (entry : Nat) :
    (checkOneGameEvent now events entry).isSome ↔
      ((events entry).state = .normal ∨ (∃ value, (events entry).state = .unknown value) →
        (events entry).start < now → now < (events entry).endtime →
          (events entry).occurence % 2 ^ 30 ≠ 0) := by
  rw [← phase_isSome now]
  cases state : (events entry).state with
  | normal | unknown =>
    simp only [checkOneGameEvent, state]
    split_ifs <;> simp <;> grind
  | _ => simp [checkOneGameEvent, state]

theorem active_of_worldPhase {events : GameEventDataMap} {entry : Nat} {active : Bool}
    (checked : checkOneGameEvent now events entry = some active)
    (world : (events entry).state = .worldConditions ∨ (events entry).state = .worldNextphase) :
    active = true := by
  rcases world with state | state <;> simp_all [checkOneGameEvent]

theorem visit_isSome (pass : Pass) (entry : Nat) :
    (visit now met isActive pass entry).isSome ↔
      (Divided now (met entry) (pass.events entry) → (pass.events entry).occurence % 2 ^ 30 ≠ 0) := by
  have check := checkOneGameEvent_isSome now pass.events entry
  unfold visit
  cases checked : checkOneGameEvent now pass.events entry with
  | none =>
    rw [checked] at check
    simp [Divided] at check ⊢
    grind
  | some active =>
    have world := active_of_worldPhase now checked
    simp only [Option.bind_eq_bind, Option.bind_some]
    split
    · simp_all [Divided]
    · have bound : ∀ (delay : Option Nat) (rest : Nat → Pass),
          (delay.bind fun found => some (rest found)).isSome = delay.isSome := by
        intro delay rest
        cases delay <;> rfl
      rw [bound, nextCheck_isSome]
      split
      · simp_all [Divided, meetConditions]
        grind
      · simp_all [Divided]
        grind

theorem events_visit {pass after : Pass} {entry other : Nat}
    (ran : visit now met isActive pass entry = some after) (different : other ≠ entry) :
    after.events other = pass.events other := by
  simp only [visit, Option.bind_eq_bind, Option.bind_eq_some_iff] at ran
  obtain ⟨active, _, ran⟩ := ran
  split at ran
  · simp_all [← Option.some.inj ran]
  · simp only [Option.bind_eq_some_iff] at ran
    obtain ⟨delay, _, ran⟩ := ran
    simp_all [← Option.some.inj ran]

theorem foldlM_visit_isSome {ids : List Nat} (distinct : ids.Nodup) (pass : Pass) :
    (ids.foldlM (visit now met isActive) pass).isSome ↔
      ∀ id ∈ ids, Divided now (met id) (pass.events id) →
        (pass.events id).occurence % 2 ^ 30 ≠ 0 := by
  induction ids generalizing pass with
  | nil => simp
  | cons id rest ih =>
    obtain ⟨fresh, distinct⟩ := List.nodup_cons.mp distinct
    have first := visit_isSome now met isActive pass id
    rw [List.foldlM_cons, List.forall_mem_cons, ← first]
    cases ran : visit now met isActive pass id with
    | none => simp
    | some after =>
      have same : ∀ other ∈ rest, after.events other = pass.events other := fun other within =>
        events_visit now met isActive ran (ne_of_mem_of_not_mem within fresh)
      simp only [Option.bind_eq_bind, Option.bind_some, ih distinct, Option.isSome_some, true_and]
      exact forall₂_congr fun other within => by rw [same other within]

/-- An update divides by zero exactly when it comes to a remainder for an event whose occurrence
is a multiple of `2 ^ 30` minutes, zero above all. -/
theorem updateDelay_loadFromDB_isSome (rows : List EventRow) (saves : List (Nat × Nat × Nat))
    (prerequisites : List (Nat × Nat)) :
    (updateDelay now met isActive (loadFromDB rows saves prerequisites)).isSome ↔
      ∀ id ∈ visited (loadFromDB rows saves prerequisites),
        Divided now (met id) ((loadFromDB rows saves prerequisites).events id) →
          ((loadFromDB rows saves prerequisites).events id).occurence % 2 ^ 30 ≠ 0 := by
  rw [updateDelay, Option.isSome_map]
  exact foldlM_visit_isSome now met isActive List.nodup_range' _

end Update

theorem updateDelay_withoutLength :
    updateDelay 50 (fun _ => true) (fun _ => false) (loadFromDB [⟨1, 0, 100, 0, 0, 0⟩] [] []) =
      none := by
  decide

end DarkCore.GameEvents.Schedule
