/-
The warnings before a reset (`InstanceSaveMgr.cpp`). They go to every loaded
dungeon of the map, whatever its difficulty, with the time that
`_ResetOrWarnAll` takes for the time left.
-/

import DarkCore.Instances.ResetRate

namespace DarkCore.Instances

/-- `SendResetWarnings` of an instance; `resetTime` and `now` are those of the round. -/
structure ResetWarning where
  key : Key
  instanceId : Nat
  timeLeft : Nat
  resetTime : Int
  now : Int

structure InstancedMap where
  instanceId : Nat
  dungeon : Bool

structure ResetUpdate where
  now : Int
  instancedMaps : Nat → List InstancedMap

/-- `timeLeft` of `_ResetOrWarnAll` -/
def timeLeft (now resetTime : Int) : Nat :=
  if now ≤ resetTime then 0 else ((now - resetTime) % 2 ^ 32).toNat

def ResetWarning.Right (warning : ResetWarning) : Prop :=
  (warning.timeLeft : Int) = max 0 (warning.resetTime - warning.now)

instance (warning : ResetWarning) : Decidable warning.Right := by
  unfold ResetWarning.Right
  infer_instance

namespace InstanceSaveManager

variable (tables : Tables)

/-- The warnings of `_ResetOrWarnAll` in a round of `Update` -/
def warnings (manager : InstanceSaveManager) (update : ResetUpdate) : List ResetWarning :=
  match manager.queue.entries with
  | [] => []
  | (time, event) :: _ =>
    if time < update.now ∧ event.type ≠ 0 ∧ event.type ≠ 4 ∧
        tables.instanceable event.key.1 = true then
      let resetTime := manager.resetTime event.key
      ((update.instancedMaps event.key.1).filter InstancedMap.dungeon).map fun map =>
        ⟨event.key, map.instanceId, timeLeft update.now resetTime, resetTime, update.now⟩
    else []

def roundWarnings (update : ResetUpdate) : Nat → InstanceSaveManager → List ResetWarning
  | 0, _ => []
  | rounds + 1, manager =>
    warnings tables manager update ++
      roundWarnings update rounds (manager.tick tables update.now)

def announced : InstanceSaveManager → List ResetUpdate → List ResetWarning
  | _, [] => []
  | manager, update :: rest =>
    roundWarnings tables update (manager.overdue update.now) manager ++
      announced (manager.update tables update.now) rest

variable {tables : Tables} {manager : InstanceSaveManager} {update : ResetUpdate}
  {warning : ResetWarning}

theorem timeLeft_of_mem_warnings (sent : warning ∈ warnings tables manager update) :
    warning.timeLeft = timeLeft warning.now warning.resetTime := by
  unfold warnings at sent
  split at sent
  · cases sent
  · split at sent
    · obtain ⟨map, _, rfl⟩ := List.mem_map.mp sent
      rfl
    · cases sent

theorem timeLeft_of_mem_roundWarnings {rounds : Nat}
    (sent : warning ∈ roundWarnings tables update rounds manager) :
    warning.timeLeft = timeLeft warning.now warning.resetTime := by
  induction rounds generalizing manager with
  | zero => cases sent
  | succ rounds induction =>
      obtain first | later := List.mem_append.mp sent
      · exact timeLeft_of_mem_warnings first
      · exact induction later

theorem timeLeft_of_mem_announced {updates : List ResetUpdate}
    (sent : warning ∈ announced tables manager updates) :
    warning.timeLeft = timeLeft warning.now warning.resetTime := by
  induction updates generalizing manager with
  | nil => cases sent
  | cons update rest induction =>
      obtain first | later := List.mem_append.mp sent
      · exact timeLeft_of_mem_roundWarnings first
      · exact induction later

theorem timeLeft_right_iff (now resetTime : Int) :
    (timeLeft now resetTime : Int) = max 0 (resetTime - now) ↔
      resetTime ≤ now ∧ (now - resetTime) % 2 ^ 32 = 0 := by
  unfold timeLeft
  split <;> omega

/-- The warnings of a run announce the time left, and less with each for a reset, exactly when
each of them is sent at the time of the reset, or a multiple of 2 ^ 32 seconds after it. -/
theorem announced_right_iff (tables : Tables) (manager : InstanceSaveManager)
    (updates : List ResetUpdate) :
    ((∀ warning ∈ announced tables manager updates, warning.Right) ∧
      (announced tables manager updates).Pairwise fun earlier later =>
        earlier.key = later.key → earlier.resetTime = later.resetTime →
          later.timeLeft ≤ earlier.timeLeft) ↔
    ∀ warning ∈ announced tables manager updates,
      warning.resetTime ≤ warning.now ∧ (warning.now - warning.resetTime) % 2 ^ 32 = 0 := by
  have right (warning : ResetWarning) (sent : warning ∈ announced tables manager updates) :
      warning.Right ↔
        warning.resetTime ≤ warning.now ∧ (warning.now - warning.resetTime) % 2 ^ 32 = 0 := by
    rw [ResetWarning.Right, timeLeft_of_mem_announced sent, timeLeft_right_iff]
  constructor
  · intro announces warning sent
    exact (right warning sent).mp (announces.1 warning sent)
  · intro due
    have rights : ∀ warning ∈ announced tables manager updates, warning.Right :=
      fun warning sent => (right warning sent).mpr (due warning sent)
    refine ⟨rights, List.Pairwise.imp_of_mem ?_ (List.pairwise_of_forall fun _ _ => trivial)⟩
    intro earlier later _ sent _ _ _
    -- At the reset and later all of them are zero.
    have none := rights later sent
    have reached := (due later sent).1
    simp only [ResetWarning.Right] at none
    omega

/-- An hour before a reset the instance is told that no time is left. -/
theorem announced_hour_before :
    let manager := loadResetTimes (weekTables 4) 800000
    let maps : Nat → List InstancedMap := fun _ => [⟨7, true⟩]
    let updates := [⟨manager.resetTime (249, 0) - 3599, maps⟩]
    (announced (weekTables 4) manager updates).map (fun warning =>
        (warning.timeLeft, warning.resetTime - warning.now)) = [(0, 3599)] ∧
      ¬ ∀ warning ∈ announced (weekTables 4) manager updates, warning.Right := by
  decide +kernel

end InstanceSaveManager

end DarkCore.Instances
