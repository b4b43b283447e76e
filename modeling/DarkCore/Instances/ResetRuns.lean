/-
Runs of the reset queue. A map and difficulty with a reset time always has one
global event, which goes through the warnings to the reset; each reset moves the
reset time by one period.
-/

import DarkCore.Instances.ResetTimes
import DarkCore.Lib.Runs
import Mathlib.Algebra.BigOperators.Group.List.Basic
import Mathlib.Data.List.Nodup

namespace DarkCore.Instances

open DarkCore.Lib

/-! ### What is loaded -/

def Tables.Resets (tables : Tables) (key : Key) (period : Int) : Prop :=
  ∃ reset, (key, reset) ∈ tables.mapDifficulties ∧ reset ≠ 0 ∧ period = Tables.period reset

/-- The hour is one of a day, periods are whole days, what is reset are instances, and no saved
instance with a reset time of its own belongs to a map and difficulty that has one. -/
structure Tables.Orderly (tables : Tables) : Prop where
  distinct : (tables.mapDifficulties.map Prod.fst).Nodup
  hour : tables.resetTimeHour < 24
  whole : ∀ key period, tables.Resets key period → period % day = 0
  instanceable : ∀ key period, tables.Resets key period → tables.instanceable key.1 = true
  separate : ∀ row ∈ tables.instances, row.resetTime ≠ 0 → ∀ period, ¬tables.Resets row.key period

namespace InstanceSaveManager

def globals (manager : InstanceSaveManager) (key : Key) : List (Int × InstResetEvent) :=
  manager.queue.entries.filter fun entry => decide (entry.2.type ≠ 0 ∧ entry.2.key = key)

def resetsOf (manager : InstanceSaveManager) (key : Key) : List Int :=
  (manager.resets.filter fun entry => decide (entry.1 = key)).map Prod.snd

def Pending (manager : InstanceSaveManager) (key : Key) : Prop :=
  ∃ type, 1 ≤ type ∧ type ≤ 4 ∧
    manager.globals key = [(manager.resetTime key - resetTimeDelay type, ⟨type, key, 0⟩)]

def Periodic (manager : InstanceSaveManager) (key : Key) (first period : Int) : Prop :=
  manager.resetTime key = first + (manager.resetsOf key).length * period ∧
    manager.resetsOf key =
      (List.range (manager.resetsOf key).length).map fun index : Nat =>
        first + (index : Int) * period

/-- What holds at every moment; `first` are the reset times that were loaded. -/
def Regular (tables : Tables) (first : Key → Int) (manager : InstanceSaveManager) : Prop :=
  ∀ key period, tables.Resets key period →
    manager.Pending key ∧ manager.Periodic key (first key) period

structure Scheduled (tables : Tables) (first : Key → Int) (manager : InstanceSaveManager) : Prop where
  regular : Regular tables first manager
  known : ∀ entry ∈ manager.queue.entries, entry.2.type ≠ 0 →
    ∃ period, tables.Resets entry.2.key period
  aligned : ∀ key period, tables.Resets key period →
    manager.resetTime key % day = tables.resetHour

end InstanceSaveManager

variable {tables : Tables} {manager : InstanceSaveManager} {key other : Key} {period : Int}
  {first : Key → Int}

/-! ### Periods -/

theorem Tables.Resets.unique (orderly : tables.Orderly) {another : Int}
    (resets : tables.Resets key period) (also : tables.Resets key another) : period = another := by
  obtain ⟨reset, member, _, isPeriod⟩ := resets
  obtain ⟨twin, inside, _, isAnother⟩ := also
  have same := List.inj_on_of_nodup_map orderly.distinct member inside rfl
  rw [isPeriod, isAnother, (Prod.mk.inj same).2]

theorem Tables.Resets.day_le (resets : tables.Resets key period) : day ≤ period := by
  obtain ⟨reset, _, _, isPeriod⟩ := resets
  rw [isPeriod]
  unfold Tables.period
  split
  · exact Int.le_refl _
  · omega

theorem mapDifficulty_of_mem (orderly : tables.Orderly) {reset : Nat}
    (member : (key, reset) ∈ tables.mapDifficulties) : tables.mapDifficulty key = some reset := by
  unfold Tables.mapDifficulty
  cases found : tables.mapDifficulties.find? fun entry => decide (entry.1 = key) with
  | none =>
    have absent := List.find?_eq_none.mp found (key, reset) member
    exact absurd (decide_eq_true rfl) absent
  | some entry =>
    have isKey : entry.1 = key := by
      have passes := List.find?_some found
      exact of_decide_eq_true passes
    have same := List.inj_on_of_nodup_map orderly.distinct (List.mem_of_find?_eq_some found)
      member isKey
    rw [same]
    rfl

theorem resetHour_bounds (orderly : tables.Orderly) :
    0 ≤ tables.resetHour ∧ tables.resetHour + hour ≤ day := by
  have below := orderly.hour
  unfold Tables.resetHour
  rw [hour_eq, day_eq]
  omega

theorem next_reset (orderly : tables.Orderly) {time : Int}
    (aligned : time % day = tables.resetHour) :
    (time + minute) / day * day + period + tables.resetHour = time + period := by
  have bounds := resetHour_bounds orderly
  rw [hour_eq, day_eq] at bounds
  rw [day_eq] at aligned
  rw [minute_eq, day_eq]
  omega

/-! ### Rounds -/

structure Moved (tables : Tables) (manager after : InstanceSaveManager) (key : Key)
    (rest : List (Int × InstResetEvent)) (time : Int) (type : Nat) : Prop where
  entries : after.queue.entries =
    MultiMap.insertEntry (after.resetTime key - resetTimeDelay type, ⟨type, key, 0⟩) rest
  bounds : 1 ≤ type ∧ type ≤ 4
  later : time < after.resetTime key - resetTimeDelay type
  others : ∀ other, other ≠ key → after.resetTime other = manager.resetTime other
  resets : after.resetTime key = manager.resetTime key ∧ after.resets = manager.resets ∨
    (∀ period, tables.Resets key period → after.resetTime key = manager.resetTime key + period) ∧
        after.resets = manager.resets ++ [(key, manager.resetTime key)]

variable {time now : Int} {event : InstResetEvent} {rest : List (Int × InstResetEvent)}

theorem resetTimeDelay_succ {type : Nat} (first : 1 ≤ type) (last : type < 4) :
    resetTimeDelay (type + 1) < resetTimeDelay type := by
  have cases : type = 1 ∨ type = 2 ∨ type = 3 := by omega
  rcases cases with rfl | rfl | rfl <;> decide

theorem pending_head (pending : manager.Pending key)
    (queue : manager.queue.entries = (time, event) :: rest) (isGlobal : event.type ≠ 0)
    (isKey : event.key = key) :
    ∃ type, 1 ≤ type ∧ type ≤ 4 ∧ event = ⟨type, key, 0⟩ ∧
      time = manager.resetTime key - resetTimeDelay type ∧
        rest.filter (fun entry => decide (entry.2.type ≠ 0 ∧ entry.2.key = key)) = [] := by
  obtain ⟨type, least, most, single⟩ := pending
  unfold InstanceSaveManager.globals at single
  rw [queue, List.filter_cons, if_pos (decide_eq_true ⟨isGlobal, isKey⟩)] at single
  injection single with isHead isRest
  injection isHead with isTime isEvent
  exact ⟨type, least, most, isEvent, isTime, isRest⟩

theorem resetOrWarnAll_warn (manager : InstanceSaveManager) (key : Key) (time : Int) :
    manager.resetOrWarnAll tables key true time = manager := by
  unfold InstanceSaveManager.resetOrWarnAll
  split <;> rfl

theorem resetOrWarnAll_reset (orderly : tables.Orderly) (resets : tables.Resets key period)
    (aligned : time % day = tables.resetHour) :
    manager.resetOrWarnAll tables key false time =
      (({ manager with resets := manager.resets ++ [(key, time)] } :
        InstanceSaveManager).setResetTimeFor key (time + period)).scheduleReset
          (time + period - 3600) ⟨1, key, 0⟩ := by
  have instanceable := orderly.instanceable key period resets
  obtain ⟨reset, member, some_reset, isPeriod⟩ := resets
  unfold InstanceSaveManager.resetOrWarnAll
  rw [instanceable, if_neg (fun wrong => Bool.false_ne_true wrong.symm),
    if_neg Bool.false_ne_true, mapDifficulty_of_mem orderly member]
  cases reset with
  | zero => exact absurd rfl some_reset
  | succ more =>
    have shifted : (time + minute) / day * day + period + tables.resetHour = time + period :=
      next_reset orderly aligned
    rw [← shifted, isPeriod]
    rfl

theorem tick_moved (orderly : tables.Orderly) (scheduled : manager.Scheduled tables first)
    (queue : manager.queue.entries = (time, event) :: rest) (due : time < now)
    (isGlobal : event.type ≠ 0) :
    ∃ type, Moved tables manager (manager.tick tables now) event.key rest time type := by
  have isHead : (time, event) ∈ manager.queue.entries := by
    simp [queue]
  obtain ⟨period, resets⟩ := scheduled.known (time, event) isHead isGlobal
  have pending := (scheduled.regular event.key period resets).1
  obtain ⟨type, least, most, isEvent, isTime, _⟩ := pending_head pending queue isGlobal rfl
  have isType : event.type = type := congrArg InstResetEvent.type isEvent
  have isInstance : event.instanceId = 0 := congrArg InstResetEvent.instanceId isEvent
  unfold InstanceSaveManager.tick
  rw [queue]
  dsimp only
  rw [if_neg (Int.not_le.mpr due), if_neg isGlobal]
  by_cases isReset : event.type = 4
  · have noWarning : decide (event.type ≠ 4) = false := decide_eq_false fun warns => warns isReset
    have aligned := scheduled.aligned event.key period resets
    have long := resets.day_le
    have fourth : resetTimeDelay 4 = 60 := rfl
    have later : time ≤ manager.resetTime event.key + period - 3600 := by
      rw [isTime, ← isType, isReset, fourth]
      rw [day_eq] at long
      omega
    rw [noWarning, resetOrWarnAll_reset orderly resets aligned, if_neg fun warns => warns isReset]
    have stored : Function.update manager.resetTime event.key
        (manager.resetTime event.key + period) event.key =
          manager.resetTime event.key + period := Function.update_self _ _ _
    refine ⟨1, ?_, by decide, ?_, ?_, Or.inr ⟨?_, rfl⟩⟩
    · have inserted : (manager.queue.insert (manager.resetTime event.key + period - 3600)
          (⟨1, event.key, 0⟩ : InstResetEvent)).tail.entries =
            MultiMap.insertEntry (manager.resetTime event.key + period - 3600,
              ⟨1, event.key, 0⟩) rest := MultiMap.tail_insert queue later
      have isStored : manager.resetTime event.key + period - 3600 =
          Function.update manager.resetTime event.key
            (manager.resetTime event.key + period) event.key - 3600 := by
        rw [stored]
      exact inserted.trans (congrArg
        (fun time => MultiMap.insertEntry (time, ⟨1, event.key, 0⟩) rest) isStored)
    · have after : time < Function.update manager.resetTime event.key
          (manager.resetTime event.key + period) event.key - 3600 := by
        rw [stored, isTime, ← isType, isReset, fourth]
        rw [day_eq] at long
        omega
      exact after
    · intro other apart
      exact Function.update_of_ne apart _ _
    · intro another also
      rw [also.unique orderly resets]
      exact stored
  · have warning : decide (event.type ≠ 4) = true := decide_eq_true isReset
    have next : (event.type + 1) % 2 ^ 8 = type + 1 := by omega
    have earlier := resetTimeDelay_succ least (by omega)
    have later : time < manager.resetTime event.key - resetTimeDelay (type + 1) := by omega
    rw [warning, resetOrWarnAll_warn, if_pos isReset, next]
    refine ⟨type + 1, ?_, by omega, later, fun other _ => rfl, Or.inl ⟨rfl, rfl⟩⟩
    obtain ⟨changed, isChanged⟩ : ∃ changed : InstResetEvent, changed = ⟨type + 1, event.key, 0⟩ :=
      ⟨_, rfl⟩
    have head : (manager.queue.modifyHead fun _ => changed).entries = (time, changed) :: rest := by
      have modified : (manager.queue.modifyHead fun _ => changed).entries =
          manager.queue.entries.modifyHead fun entry => (entry.1, changed) := rfl
      rw [modified, queue]
      rfl
    rw [isInstance, ← isChanged]
    have inserted : ((manager.queue.modifyHead fun _ => changed).insert
        (manager.resetTime event.key - resetTimeDelay (type + 1)) changed).tail.entries =
          MultiMap.insertEntry (manager.resetTime event.key - resetTimeDelay (type + 1), changed)
            rest := MultiMap.tail_insert head (Int.le_of_lt later)
    exact inserted

theorem resetsOf_append (resets : List (Key × Int)) (key other : Key) (time : Int) :
    ((resets ++ [(other, time)]).filter fun entry => decide (entry.1 = key)).map Prod.snd =
      (resets.filter fun entry => decide (entry.1 = key)).map Prod.snd ++
        if other = key then [time] else [] := by
  rw [List.filter_append, List.map_append, List.filter_cons, List.filter_nil]
  by_cases here : other = key <;> simp_all

theorem periodic_next {after : InstanceSaveManager} {start : Int}
    (periodic : manager.Periodic key start period)
    (time : after.resetTime key = manager.resetTime key + period)
    (resets : after.resetsOf key = manager.resetsOf key ++ [manager.resetTime key]) :
    after.Periodic key start period := by
  obtain ⟨isTime, isLog⟩ := periodic
  have length : (after.resetsOf key).length = (manager.resetsOf key).length + 1 := by
    rw [resets, List.length_append, List.length_singleton]
  constructor
  · simp [time, isTime, length, Int.add_mul, Int.one_mul, Int.add_assoc]
  · rw [length, List.range_succ, List.map_append, ← isLog, resets, isTime]
    rfl

theorem scheduled_moved (orderly : tables.Orderly) {after : InstanceSaveManager}
    (scheduled : manager.Scheduled tables first) {type : Nat}
    (queue : manager.queue.entries = (time, event) :: rest) (isGlobal : event.type ≠ 0)
    (moved : Moved tables manager after event.key rest time type) :
    after.Scheduled tables first := by
  have isHead : (time, event) ∈ manager.queue.entries := by
    simp [queue]
  obtain ⟨period, resets⟩ := scheduled.known (time, event) isHead isGlobal
  obtain ⟨pending, periodic⟩ := scheduled.regular event.key period resets
  obtain ⟨_, _, _, _, _, noOther⟩ := pending_head pending queue isGlobal rfl
  have perm : after.queue.entries.Perm
      ((after.resetTime event.key - resetTimeDelay type, ⟨type, event.key, 0⟩) :: rest) := by
    rw [moved.entries]
    exact MultiMap.insertEntry_perm _ _
  have log : ∀ key, after.resetsOf key = manager.resetsOf key ∧
      after.resetTime event.key = manager.resetTime event.key ∨
        after.resetsOf key = manager.resetsOf key ++
          (if event.key = key then [manager.resetTime event.key] else []) ∧
            after.resetTime event.key = manager.resetTime event.key + period := by
    intro key
    rcases moved.resets with ⟨same, sameResets⟩ | ⟨later, logged⟩
    · left
      unfold InstanceSaveManager.resetsOf
      exact ⟨by rw [sameResets], same⟩
    · right
      unfold InstanceSaveManager.resetsOf
      rw [logged, resetsOf_append]
      exact ⟨rfl, later period resets⟩
  refine ⟨?_, ?_, ?_⟩
  · intro key another also
    have globals := perm.filter fun entry => decide (entry.2.type ≠ 0 ∧ entry.2.key = key)
    rw [List.filter_cons] at globals
    by_cases here : event.key = key
    · rw [← here] at also globals ⊢
      have some_type : type ≠ 0 := Nat.ne_of_gt moved.bounds.1
      rw [if_pos (decide_eq_true ⟨some_type, rfl⟩), noOther] at globals
      refine ⟨⟨type, moved.bounds.1, moved.bounds.2, List.perm_singleton.mp globals⟩, ?_⟩
      rw [also.unique orderly resets]
      rcases log event.key with ⟨sameLog, sameTime⟩ | ⟨logged, later⟩
      · unfold InstanceSaveManager.Periodic
        rw [sameLog, sameTime]
        exact periodic
      · rw [if_pos rfl] at logged
        exact periodic_next periodic later logged
    · have apart : ¬(type ≠ 0 ∧ event.key = key) := fun both => here both.2
      rw [if_neg fun passes => apart (of_decide_eq_true passes)] at globals
      obtain ⟨⟨otherType, least, most, single⟩, otherPeriodic⟩ := scheduled.regular key another also
      have before : manager.globals key =
          rest.filter fun entry => decide (entry.2.type ≠ 0 ∧ entry.2.key = key) := by
        have skips : ¬(event.type ≠ 0 ∧ event.key = key) := fun both => here both.2
        unfold InstanceSaveManager.globals
        rw [queue, List.filter_cons, if_neg fun passes => skips (of_decide_eq_true passes)]
      rw [← before, single] at globals
      have same := moved.others key fun isKey => here isKey.symm
      constructor
      · refine ⟨otherType, least, most, ?_⟩
        rw [same]
        exact List.perm_singleton.mp globals
      · have sameLog : after.resetsOf key = manager.resetsOf key := by
          rcases log key with ⟨sameLog, _⟩ | ⟨logged, _⟩
          · exact sameLog
          · rw [if_neg here, List.append_nil] at logged
            exact logged
        unfold InstanceSaveManager.Periodic
        rw [same, sameLog]
        exact otherPeriodic
  · intro entry member isGlobalEntry
    rcases List.mem_cons.mp (perm.subset member) with isNew | old
    · rw [isNew]
      exact ⟨period, resets⟩
    · refine scheduled.known entry ?_ isGlobalEntry
      rw [queue]
      exact List.mem_cons_of_mem _ old
  · intro key another also
    by_cases here : key = event.key
    · rw [here] at also ⊢
      have aligned := scheduled.aligned event.key period resets
      have whole := orderly.whole event.key period resets
      rcases log event.key with ⟨_, sameTime⟩ | ⟨_, later⟩
      · rw [sameTime]
        exact aligned
      · rw [later]
        rw [day_eq] at aligned whole ⊢
        omega
    · rw [moved.others key here]
      exact scheduled.aligned key another also

theorem tick_due (queue : manager.queue.entries = (time, event) :: rest) (due : time < now)
    (isInstance : event.type = 0) :
    manager.tick tables now = { manager with queue := manager.queue.tail } := by
  unfold InstanceSaveManager.tick
  rw [queue]
  dsimp only
  rw [if_neg (Int.not_le.mpr due), if_pos isInstance]

theorem scheduled_tail (scheduled : manager.Scheduled tables first)
    (queue : manager.queue.entries = (time, event) :: rest) (isInstance : event.type = 0) :
    InstanceSaveManager.Scheduled tables first { manager with queue := manager.queue.tail } := by
  have tail : manager.queue.tail.entries = rest := congrArg List.tail queue
  refine ⟨?_, ?_, scheduled.aligned⟩
  · intro key period resets
    obtain ⟨⟨type, least, most, single⟩, periodic⟩ := scheduled.regular key period resets
    refine ⟨⟨type, least, most, ?_⟩, periodic⟩
    unfold InstanceSaveManager.globals at single ⊢
    have skips : ¬(event.type ≠ 0 ∧ event.key = key) := fun both => both.1 isInstance
    rw [queue, List.filter_cons, if_neg fun passes => skips (of_decide_eq_true passes)] at single
    rw [tail]
    exact single
  · intro entry member isGlobal
    refine scheduled.known entry ?_ isGlobal
    rw [queue]
    rw [tail] at member
    exact List.mem_cons_of_mem _ member

theorem overdue_cons (queue : manager.queue.entries = (time, event) :: rest) :
    manager.overdue now =
      (now - time).toNat + (rest.map fun entry => (now - entry.1).toNat).sum := by
  unfold InstanceSaveManager.overdue
  rw [queue, List.map_cons, List.sum_cons]

section

variable (orderly : tables.Orderly) (scheduled : manager.Scheduled tables first)
include orderly scheduled

theorem tick_scheduled (now : Int) :
    (manager.tick tables now).Scheduled tables first ∧
      ((manager.tick tables now).overdue now < manager.overdue now ∨
        manager.tick tables now = manager ∧ ∀ entry ∈ manager.queue.entries, now ≤ entry.1) := by
  cases queue : manager.queue.entries with
  | nil =>
    have idle : manager.tick tables now = manager := by
      simp_all [InstanceSaveManager.tick]
    rw [idle]
    exact ⟨scheduled, Or.inr ⟨rfl, fun _ member => absurd member List.not_mem_nil⟩⟩
  | cons head rest =>
    obtain ⟨time, event⟩ := head
    have sum : manager.overdue now = _ := overdue_cons queue
    by_cases due : now ≤ time
    · have idle : manager.tick tables now = manager := by
        simp_all [InstanceSaveManager.tick]
      rw [idle]
      refine ⟨scheduled, Or.inr ⟨rfl, ?_⟩⟩
      have sorted := manager.queue.sorted
      rw [queue] at sorted
      intro entry member
      rcases List.mem_cons.mp member with isHead | later
      · simp_all
      · exact Int.le_trans due ((List.pairwise_cons.mp sorted).1 entry later)
    · have late : time < now := Int.not_le.mp due
      by_cases isInstance : event.type = 0
      · rw [tick_due queue late isInstance]
        refine ⟨scheduled_tail scheduled queue isInstance, Or.inl ?_⟩
        have left : InstanceSaveManager.overdue { manager with queue := manager.queue.tail } now =
            (rest.map fun entry => (now - entry.1).toNat).sum := by
          have tail : manager.queue.tail.entries = rest := congrArg List.tail queue
          unfold InstanceSaveManager.overdue
          rw [tail]
        rw [left, sum]
        omega
      · obtain ⟨type, moved⟩ := tick_moved orderly scheduled queue late isInstance
        refine ⟨scheduled_moved orderly scheduled queue isInstance moved, Or.inl ?_⟩
        have later := moved.later
        have left : (manager.tick tables now).overdue now =
            (now - ((manager.tick tables now).resetTime event.key - resetTimeDelay type)).toNat +
              (rest.map fun entry => (now - entry.1).toNat).sum := by
          unfold InstanceSaveManager.overdue
          rw [moved.entries, ((MultiMap.insertEntry_perm _ rest).map _).sum_eq, List.map_cons,
            List.sum_cons]
        rw [left, sum]
        omega

theorem rounds_scheduled (now : Int) (rounds : Nat) :
    ((fun manager => InstanceSaveManager.tick tables manager now)^[rounds] manager).Scheduled
      tables first := by
  induction rounds generalizing manager with
  | zero => exact scheduled
  | succ rounds ih => exact ih (tick_scheduled orderly scheduled now).1

theorem rounds_done {rounds : Nat} (enough : manager.overdue now ≤ rounds) :
    ∀ entry ∈ ((fun manager => InstanceSaveManager.tick tables manager now)^[rounds]
      manager).queue.entries, now ≤ entry.1 := by
  induction rounds generalizing manager with
  | zero =>
    rcases (tick_scheduled orderly scheduled now).2 with less | ⟨_, done⟩
    · omega
    · exact done
  | succ rounds ih =>
    obtain ⟨kept, less | ⟨idle, done⟩⟩ := tick_scheduled orderly scheduled now
    · exact ih kept (Nat.le_of_lt_succ (Nat.lt_of_lt_of_le less enough))
    · have fixed : ((fun manager => InstanceSaveManager.tick tables manager now)^[rounds + 1]
          manager) = manager := Function.iterate_fixed idle _
      rw [fixed]
      exact done

end

/-! ### Loading -/

namespace InstanceSaveManager

structure Loading (tables : Tables) (remaining : List (Key × Nat))
    (manager : InstanceSaveManager) : Prop where
  known : ∀ entry ∈ manager.queue.entries, entry.2.type ≠ 0 →
    ∃ period, tables.Resets entry.2.key period
  loaded : ∀ key period, tables.Resets key period → key ∉ remaining.map Prod.fst →
    manager.Pending key ∧ manager.resetTime key % day = tables.resetHour
  waits : ∀ key ∈ remaining.map Prod.fst, manager.globals key = []
  times : ∀ key, manager.resetTime key = 0 ∨ manager.resetTime key % day = tables.resetHour
  resets : manager.resets = []

end InstanceSaveManager

theorem nextType_bounds (time now : Int) :
    1 ≤ InstanceSaveManager.nextType time now ∧ InstanceSaveManager.nextType time now ≤ 4 := by
  unfold InstanceSaveManager.nextType
  split
  · decide
  · grind

theorem mul_emod_day (whole : period % day = 0) (count : Int) : count * period % day = 0 :=
  Int.emod_eq_zero_of_dvd (Int.dvd_mul_of_dvd_right (Int.dvd_of_emod_eq_zero whole))

theorem nextResetTime_aligned (orderly : tables.Orderly) (whole : period % day = 0) {old : Int}
    (stored : old = 0 ∨ old % day = tables.resetHour) (now : Int) :
    InstanceSaveManager.nextResetTime tables now period old % day = tables.resetHour := by
  have bounds := resetHour_bounds orderly
  rw [hour_eq, day_eq] at bounds
  have moved : ∀ time : Int, time % day = tables.resetHour →
      (if time < now then
        time / day * day + (((now / day * day - time / day * day) / period + 1) * period +
          tables.resetHour) else time) % day = tables.resetHour := by
    intro time aligned
    split
    · have steps := mul_emod_day whole ((now / day * day - time / day * day) / period + 1)
      generalize ((now / day * day - time / day * day) / period + 1) * period = step at steps
      rw [day_eq] at steps ⊢
      omega
    · exact aligned
  unfold InstanceSaveManager.nextResetTime
  refine moved _ ?_
  split
  · grind [day_eq]
  · omega

theorem mem_scheduleReset {entry : Int × InstResetEvent}
    (member : entry ∈ (manager.scheduleReset time event).queue.entries) :
    entry = (time, event) ∨ entry ∈ manager.queue.entries := MultiMap.mem_insertEntry.mp member

theorem scheduleInstances_types (now : Int) (manager : InstanceSaveManager)
    (none : ∀ entry ∈ manager.queue.entries, entry.2.type = 0) :
    (∀ entry ∈ (manager.scheduleInstances tables now).queue.entries, entry.2.type = 0) ∧
      (manager.scheduleInstances tables now).resetTime = manager.resetTime ∧
      (manager.scheduleInstances tables now).resets = manager.resets := by
  unfold InstanceSaveManager.scheduleInstances
  induction tables.instResetTime generalizing manager with
  | nil => exact ⟨none, rfl, rfl⟩
  | cons row rest ih =>
    rw [List.foldl_cons]
    split
    · refine ih (manager.scheduleReset _ _) fun entry member => ?_
      rcases mem_scheduleReset member with isNew | old
      · rw [isNew]
      · exact none entry old
    · exact ih manager none

theorem loadInstanceReset_times (orderly : tables.Orderly) (manager : InstanceSaveManager)
    (times : ∀ key, manager.resetTime key = 0 ∨ manager.resetTime key % day = tables.resetHour) :
    (manager.loadInstanceReset tables).queue = manager.queue ∧
      (manager.loadInstanceReset tables).resets = manager.resets ∧
      ∀ key, (manager.loadInstanceReset tables).resetTime key = 0 ∨
        (manager.loadInstanceReset tables).resetTime key % day = tables.resetHour := by
  unfold InstanceSaveManager.loadInstanceReset
  induction tables.instanceReset generalizing manager with
  | nil => exact ⟨rfl, rfl, times⟩
  | cons row rest ih =>
    rw [List.foldl_cons]
    split
    · exact ih manager times
    · refine ih (manager.setResetTimeFor row.1 _) fun key => ?_
      unfold InstanceSaveManager.setResetTimeFor
      by_cases here : key = row.1
      · right
        have bounds := resetHour_bounds orderly
        rw [hour_eq, day_eq] at bounds
        rw [here]
        dsimp only
        rw [Function.update_self, day_eq]
        omega
      · simp_all

theorem loadMapDifficulty_loading (orderly : tables.Orderly) {entry : Key × Nat}
    {remaining : List (Key × Nat)} (member : entry ∈ tables.mapDifficulties)
    (once : entry.1 ∉ remaining.map Prod.fst) (now : Int)
    (loading : manager.Loading tables (entry :: remaining)) :
    (manager.loadMapDifficulty tables now entry).Loading tables remaining := by
  obtain ⟨key, reset⟩ := entry
  unfold InstanceSaveManager.loadMapDifficulty
  split
  · rename_i isZero
    refine ⟨loading.known, ?_, ?_, loading.times, loading.resets⟩
    · intro other period resets absent
      refine loading.loaded other period resets ?_
      intro listed
      rcases List.mem_cons.mp listed with isKey | later
      · obtain ⟨another, inside, some_reset, _⟩ := resets
        have same := List.inj_on_of_nodup_map orderly.distinct inside member isKey
        exact some_reset ((Prod.mk.inj same).2.trans isZero)
      · exact absent later
    · exact fun other listed => loading.waits other (List.mem_cons_of_mem _ listed)
  · rename_i some_reset
    have resets : tables.Resets key (Tables.period reset) := ⟨reset, member, some_reset, rfl⟩
    have noInstances : (tables.instances.filter fun row =>
        decide (row.resetTime ≠ 0 ∧ row.key = key)) = [] := by
      refine List.filter_eq_nil_iff.mpr fun row inside passes => ?_
      obtain ⟨some_time, isKey⟩ := of_decide_eq_true passes
      exact orderly.separate row inside some_time (Tables.period reset) (isKey ▸ resets)
    rw [noInstances, List.foldl_nil]
    have aligned := nextResetTime_aligned orderly (orderly.whole key _ resets) (loading.times key)
      now
    generalize InstanceSaveManager.nextResetTime tables now (Tables.period reset)
      (manager.resetTime key) = time at aligned
    have bounds := nextType_bounds time now
    generalize InstanceSaveManager.nextType time now = type at bounds
    have some_type : type ≠ 0 := Nat.ne_of_gt bounds.1
    have perm : (((manager.setResetTimeFor key time).scheduleReset (time - resetTimeDelay type)
        ⟨type, key, 0⟩).queue.entries).Perm
          ((time - resetTimeDelay type, ⟨type, key, 0⟩) :: manager.queue.entries) :=
      MultiMap.insertEntry_perm _ _
    have stored : ∀ other, ((manager.setResetTimeFor key time).scheduleReset
        (time - resetTimeDelay type) ⟨type, key, 0⟩).resetTime other =
          if other = key then time else manager.resetTime other :=
      fun other => Function.update_apply _ _ _ _
    have kept : ∀ other, other ≠ key → ∀ entries, manager.globals other = entries →
        (((manager.setResetTimeFor key time).scheduleReset (time - resetTimeDelay type)
          ⟨type, key, 0⟩).globals other).Perm entries := by
      intro other apart entries same
      have skips : ¬(type ≠ 0 ∧ key = other) := fun both => apart both.2.symm
      have filtered := perm.filter fun entry => decide (entry.2.type ≠ 0 ∧ entry.2.key = other)
      rw [List.filter_cons, if_neg fun passes => skips (of_decide_eq_true passes)] at filtered
      rw [← same]
      exact filtered
    refine ⟨?_, ?_, ?_, ?_, loading.resets⟩
    · intro entry inside isGlobal
      rcases List.mem_cons.mp (perm.subset inside) with isNew | old
      · grind
      · exact loading.known entry old isGlobal
    · intro other period otherResets absent
      by_cases here : other = key
      · rw [here]
        have filtered := perm.filter fun entry => decide (entry.2.type ≠ 0 ∧ entry.2.key = key)
        rw [List.filter_cons, if_pos (decide_eq_true ⟨some_type, rfl⟩)] at filtered
        have empty : manager.queue.entries.filter (fun entry =>
            decide (entry.2.type ≠ 0 ∧ entry.2.key = key)) = [] :=
          loading.waits key List.mem_cons_self
        rw [empty] at filtered
        rw [stored, if_pos rfl]
        refine ⟨⟨type, bounds.1, bounds.2, ?_⟩, aligned⟩
        rw [stored, if_pos rfl]
        exact List.perm_singleton.mp filtered
      · have before : other ∉ ((key, reset) :: remaining).map Prod.fst := by
          intro listed
          rcases List.mem_cons.mp listed with isKey | later
          · exact here isKey
          · exact absent later
        obtain ⟨⟨otherType, least, most, single⟩, otherAligned⟩ :=
          loading.loaded other period otherResets before
        rw [stored, if_neg here]
        refine ⟨⟨otherType, least, most, ?_⟩, otherAligned⟩
        rw [stored, if_neg here]
        exact List.perm_singleton.mp (kept other here _ single)
    · intro other listed
      have apart : other ≠ key := fun isKey => once (isKey ▸ listed)
      exact List.perm_nil.mp (kept other apart [] (loading.waits other
        (List.mem_cons_of_mem _ listed)))
    · intro other
      rw [stored]
      split
      · exact Or.inr aligned
      · exact loading.times other

theorem loadMapDifficulties_loading (orderly : tables.Orderly) (now : Int)
    (remaining : List (Key × Nat)) (inside : ∀ entry ∈ remaining, entry ∈ tables.mapDifficulties)
    (distinct : (remaining.map Prod.fst).Nodup) (loading : manager.Loading tables remaining) :
    (remaining.foldl (fun manager entry => manager.loadMapDifficulty tables now entry)
      manager).Loading tables [] := by
  induction remaining generalizing manager with
  | nil => exact loading
  | cons entry rest ih =>
    rw [List.foldl_cons]
    rw [List.map_cons, List.nodup_cons] at distinct
    exact ih (fun other member => inside other (List.mem_cons_of_mem _ member)) distinct.2
      (loadMapDifficulty_loading orderly (inside entry List.mem_cons_self) distinct.1 now loading)

def loadedTimes (tables : Tables) (now : Int) : Key → Int :=
  (InstanceSaveManager.loadResetTimes tables now).resetTime

theorem loadResetTimes_scheduled (orderly : tables.Orderly) (now : Int) :
    (InstanceSaveManager.loadResetTimes tables now).Scheduled tables (loadedTimes tables now) := by
  obtain ⟨empty, isEmpty⟩ : ∃ empty : InstanceSaveManager,
      empty = { resetTime := fun _ => 0, queue := MultiMap.empty, resets := [] } := ⟨_, rfl⟩
  have noEvents : ∀ entry ∈ empty.queue.entries, entry.2.type = 0 := by
    rw [isEmpty]
    exact fun _ member => absurd member List.not_mem_nil
  have scheduled : (∀ entry ∈ (empty.scheduleInstances tables now).queue.entries,
      entry.2.type = 0) ∧ (empty.scheduleInstances tables now).resetTime = empty.resetTime ∧
        (empty.scheduleInstances tables now).resets = empty.resets :=
    scheduleInstances_types now empty noEvents
  obtain ⟨types, times, resets⟩ := scheduled
  have noTimes : ∀ key, (empty.scheduleInstances tables now).resetTime key = 0 ∨
      (empty.scheduleInstances tables now).resetTime key % day = tables.resetHour := by
    simp_all
  obtain ⟨sameQueue, sameResets, stored⟩ := loadInstanceReset_times orderly _ noTimes
  have start : ((empty.scheduleInstances tables now).loadInstanceReset tables).Loading tables
      tables.mapDifficulties := by
    rw [← sameQueue] at types
    refine ⟨?_, ?_, ?_, stored, ?_⟩
    · grind
    · intro key period known absent
      obtain ⟨reset, member, _⟩ := known
      exact absurd (List.mem_map.mpr ⟨(key, reset), member, rfl⟩) absent
    · intro key _
      refine List.filter_eq_nil_iff.mpr fun entry member passes => ?_
      exact (of_decide_eq_true passes).1 (types entry member)
    · rw [sameResets, resets, isEmpty]
  have loaded := loadMapDifficulties_loading orderly now tables.mapDifficulties
    (fun _ member => member) orderly.distinct start
  have isLoaded : InstanceSaveManager.loadResetTimes tables now =
      tables.mapDifficulties.foldl
        (fun manager entry => manager.loadMapDifficulty tables now entry)
        ((empty.scheduleInstances tables now).loadInstanceReset tables) := by
    rw [isEmpty]
    rfl
  rw [← isLoaded] at loaded
  refine ⟨?_, loaded.known, ?_⟩
  · intro key period known
    refine ⟨(loaded.loaded key period known List.not_mem_nil).1, ?_⟩
    have none : (InstanceSaveManager.loadResetTimes tables now).resetsOf key = [] := by
      simp [InstanceSaveManager.resetsOf, loaded.resets]
    unfold InstanceSaveManager.Periodic
    rw [none]
    refine ⟨?_, rfl⟩
    unfold loadedTimes
    rw [List.length_nil]
    omega
  · intro key period known
    exact (loaded.loaded key period known List.not_mem_nil).2

/-! ### Runs -/

def InstanceSaveManager.Updates (tables : Tables) (first : Key → Int)
    (manager : InstanceSaveManager) (now : Int) : Prop :=
  (∀ rounds, InstanceSaveManager.Regular tables first
    ((fun manager => InstanceSaveManager.tick tables manager now)^[rounds] manager)) ∧
    ∀ entry ∈ (manager.update tables now).queue.entries, now ≤ entry.1

def weeklyTables (instances : List InstanceRow) : Tables where
  mapDifficulties := [((249, 0), 604800)]
  instanceable _ := true
  resetTimeHour := 4
  instances := instances
  respawns := []
  instanceReset := [((249, 0), 864000)]

theorem weeklyTables_orderly : (weeklyTables []).Orderly := by
  have only : ∀ key period, (weeklyTables []).Resets key period → period = 604800 := by
    intro key period resets
    obtain ⟨reset, member, _, isPeriod⟩ := resets
    have isEntry := List.mem_singleton.mp member
    rw [isPeriod, (Prod.mk.inj isEntry).2]
    rfl
  refine ⟨by decide, by decide, ?_, fun _ _ _ => rfl, ?_⟩
  · intro key period resets
    rw [only key period resets]
    rfl
  · intro row member
    cases member

end DarkCore.Instances
