/-
Raid target icons (`Group::SetTargetIcon`).
-/

import DarkCore.Lib.Runs
import Mathlib.Data.List.FinRange

namespace DarkCore.Groups

open DarkCore.Lib

/-- `m_targetIcons`; 0 stands for no target. -/
abbrev TargetIcons := Fin 8 → Nat

/-- The loop that cleans other icons; each call inside has no target and cleans nothing. -/
def cleanIcons (targetGuid : Nat) (places : List (Fin 8)) (icons : TargetIcons) : TargetIcons :=
  places.foldl (fun icons i => if icons i = targetGuid then Function.update icons i 0 else icons)
    icons

def setTargetIcon (icons : TargetIcons) (request : Nat × Nat) : TargetIcons :=
  if inside : request.1 < 8 then
    Function.update (if request.2 ≠ 0 then cleanIcons request.2 (List.finRange 8) icons else icons)
      ⟨request.1, inside⟩ request.2
  else icons

theorem cleanIcons_apply {targetGuid : Nat} (isTarget : targetGuid ≠ 0) (places : List (Fin 8))
    (icons : TargetIcons) (i : Fin 8) :
    cleanIcons targetGuid places icons i =
      if i ∈ places ∧ icons i = targetGuid then 0 else icons i := by
  induction places generalizing icons with
  | nil => simp [cleanIcons]
  | cons first rest ih =>
    refine (ih _).trans ?_
    by_cases here : i = first <;> grind [Function.update_apply]

/-- An icon is set as asked for and taken off the target's other places, so that no target ever has
two icons. -/
theorem always_oneIcon (requests : List (Nat × Nat)) :
    Always setTargetIcon (fun icons => ∀ i j, icons i = icons j → icons i ≠ 0 → i = j)
        (fun _ => 0) requests ∧
      ∀ (icons : TargetIcons) (id : Fin 8) (targetGuid : Nat) (i : Fin 8),
        setTargetIcon icons (id, targetGuid) i =
          if i = id then targetGuid else if icons i = targetGuid then 0 else icons i := by
  have setIcon (icons : TargetIcons) (id : Fin 8) (targetGuid : Nat) (i : Fin 8) :
      setTargetIcon icons (id, targetGuid) i =
        if i = id then targetGuid else if icons i = targetGuid then 0 else icons i := by
    unfold setTargetIcon
    rw [dif_pos id.isLt, Function.update_apply]
    by_cases isTarget : targetGuid = 0
    · grind
    · simp [isTarget, cleanIcons_apply isTarget]
  refine ⟨always_of_step ?_ (fun _ _ _ => absurd rfl) (along_true _ requests), setIcon⟩
  rintro icons ⟨id, targetGuid⟩ distinct - i j
  by_cases inside : id < 8
  · have := setIcon icons ⟨id, inside⟩ targetGuid
    grind
  · simpa [setTargetIcon, inside] using distinct i j

end DarkCore.Groups
