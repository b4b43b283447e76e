/-
Reset times of instances (`InstanceSaveMgr.cpp`). Each map and difficulty with a
reset time has one event in the queue: three warnings and the reset, which
schedules the next first warning. Normal instances have events of their own.
-/

import DarkCore.Lib.MultiMap

namespace DarkCore.Instances

open DarkCore.Lib

/-- `MINUTE`, `HOUR` and `DAY` -/
def minute : Int := 60

def hour : Int := minute * 60

def day : Int := hour * 24

@[simp] theorem minute_eq : minute = 60 := rfl

@[simp] theorem hour_eq : hour = 3600 := rfl

@[simp] theorem day_eq : day = 86400 := rfl

abbrev Key := Nat × Nat

structure InstResetEvent where
  type : Nat
  key : Key
  instanceId : Nat
  deriving DecidableEq

/-- `ResetTimeDelay[type - 1]` -/
def resetTimeDelay (type : Nat) : Int := [3600, 900, 300, 60].getD (type - 1) 60

/-- A row of the table `instance` -/
structure InstanceRow where
  id : Nat
  key : Key
  resetTime : Nat

structure Tables where
  /-- `sMapDifficultyMap`: the reset time of each map and difficulty, 0 for none -/
  mapDifficulties : List (Key × Nat)
  instanceable : Nat → Bool
  /-- `CONFIG_INSTANCE_RESET_TIME_HOUR` -/
  resetTimeHour : Nat
  instances : List InstanceRow
  /-- The last respawn time in an instance, and the instance -/
  respawns : List (Nat × Nat)
  /-- `instance_reset` -/
  instanceReset : List (Key × Nat)

/-- `m_resetTimeByMapDifficulty`, where 0 stands for no time, and `m_resetTimeQueue`; `resets` are
the resets that were executed, each with the reset time that was stored. -/
structure InstanceSaveManager where
  resetTime : Key → Int
  queue : MultiMap Int InstResetEvent
  resets : List (Key × Int)

namespace Tables

variable (tables : Tables)

/-- `diff` in the source -/
def resetHour : Int := tables.resetTimeHour * hour

/-- `GetMapDifficultyData(mapid, difficulty)->resetTime` -/
def mapDifficulty (key : Key) : Option Nat :=
  (tables.mapDifficulties.find? fun entry => decide (entry.1 = key)).map Prod.snd

def period (resetTime : Nat) : Int := if (resetTime : Int) < day then day else resetTime

/-- `instResetTime`: the rows that have a reset time, with the later one of a respawn -/
def instResetTime : List InstanceRow :=
  tables.respawns.foldl
    (fun rows respawn => rows.map fun row =>
        if row.id = respawn.2 then { row with resetTime := (respawn.1 + 7200) % 2 ^ 32 } else row)
    (tables.instances.filter fun row => decide (row.resetTime ≠ 0))

end Tables

namespace InstanceSaveManager

variable (tables : Tables) (manager : InstanceSaveManager)

/-- `ScheduleReset(true, ..)` -/
def scheduleReset (time : Int) (event : InstResetEvent) : InstanceSaveManager :=
  { manager with queue := manager.queue.insert time event }

def setResetTimeFor (key : Key) (time : Int) : InstanceSaveManager :=
  { manager with resetTime := Function.update manager.resetTime key time }

def scheduleInstances (now : Int) : InstanceSaveManager :=
  tables.instResetTime.foldl
    (fun manager row => if now < row.resetTime then
        manager.scheduleReset row.resetTime ⟨0, row.key, row.id % 2 ^ 16⟩ else manager)
    manager

def loadInstanceReset : InstanceSaveManager :=
  tables.instanceReset.foldl
    (fun manager row => match tables.mapDifficulty row.1 with
      | none => manager
      | some _ =>
        manager.setResetTimeFor row.1 ((row.2 : Int) / day * day + tables.resetHour))
    manager

def nextType (time now : Int) : Nat :=
  if now < time - resetTimeDelay 1 then 1
  else if now < time - resetTimeDelay 2 then 2
  else if now < time - resetTimeDelay 3 then 3
  else 4

/-- The next reset time when `old` is stored -/
def nextResetTime (now period old : Int) : Int :=
  let today := now / day * day
  let time := if old = 0 then today + period + tables.resetHour else old
  if time < now then
    let start := time / day * day
    start + (((today - start) / period + 1) * period + tables.resetHour)
  else time

def loadMapDifficulty (now : Int) (entry : Key × Nat) : InstanceSaveManager :=
  if entry.2 = 0 then manager
  else
    let time := nextResetTime tables now (Tables.period entry.2) (manager.resetTime entry.1)
    let type := nextType time now
    let manager := manager.setResetTimeFor entry.1 time
    let manager := manager.scheduleReset (time - resetTimeDelay type) ⟨type, entry.1, 0⟩
    (tables.instances.filter fun row => decide (row.resetTime ≠ 0 ∧ row.key = entry.1)).foldl
      (fun manager row =>
        manager.scheduleReset (time - resetTimeDelay type) ⟨type, entry.1, row.id % 2 ^ 16⟩)
      manager

/-- `LoadResetTimes` of a new manager -/
def loadResetTimes (now : Int) : InstanceSaveManager :=
  let manager : InstanceSaveManager :=
    { resetTime := fun _ => 0, queue := MultiMap.empty, resets := [] }
  let manager := (manager.scheduleInstances tables now).loadInstanceReset tables
  tables.mapDifficulties.foldl (fun manager entry => manager.loadMapDifficulty tables now entry)
    manager

def resetOrWarnAll (key : Key) (warn : Bool) (resetTime : Int) : InstanceSaveManager :=
  if tables.instanceable key.1 = false then manager
  else if warn then manager
  else
    match tables.mapDifficulty key with
    | none | some 0 => manager
    | some reset =>
      let nextReset :=
        (resetTime + minute) / day * day + Tables.period reset + tables.resetHour
      let manager := { manager with resets := manager.resets ++ [(key, resetTime)] }
      (manager.setResetTimeFor key nextReset).scheduleReset (nextReset - 3600) ⟨1, key, 0⟩

/-- A round of the loop of `Update` -/
def tick (now : Int) : InstanceSaveManager :=
  match manager.queue.entries with
  | [] => manager
  | (time, event) :: _ =>
    if now ≤ time then manager
    else if event.type = 0 then { manager with queue := manager.queue.tail }
    else
      let resetTime := manager.resetTime event.key
      let manager := manager.resetOrWarnAll tables event.key (event.type ≠ 4) resetTime
      let manager :=
        if event.type ≠ 4 then
          -- The first event is changed in the queue, and a copy of it is inserted.
          let event := { event with type := (event.type + 1) % 2 ^ 8 }
          let manager := { manager with queue := manager.queue.modifyHead fun _ => event }
          manager.scheduleReset (resetTime - resetTimeDelay event.type) event
        else manager
      { manager with queue := manager.queue.tail }

def overdue (now : Int) : Nat :=
  (manager.queue.entries.map fun entry => (now - entry.1).toNat).sum

/-- `Update`; as many rounds as there are seconds to catch up are enough. -/
def update (now : Int) : InstanceSaveManager :=
  (fun manager => tick tables manager now)^[manager.overdue now] manager

end InstanceSaveManager

end DarkCore.Instances
