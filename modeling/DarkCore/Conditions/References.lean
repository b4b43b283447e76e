/-
Conditions and their references (`ConditionMgr.cpp`). A condition refers to a
template of conditions by its reference id, or by its third value. The loader
rejects a row only if it is a template that refers to itself.
-/

import DarkCore.Lib.OrdMap
import DarkCore.Lib.Worklist

namespace DarkCore.Conditions

open DarkCore.Lib Relation

structure Condition where
  elseGroup : Nat
  conditionType : Nat
  conditionValue1 : Nat
  conditionValue2 : Nat
  conditionValue3 : Nat
  referenceId : Nat
  deriving DecidableEq

structure ConditionRow where
  sourceTypeOrReferenceId : Int
  elseGroup : Nat
  conditionTypeOrReference : Int
  conditionValue1 : Nat
  conditionValue2 : Nat
  conditionValue3 : Nat

def ConditionRow.condition (row : ConditionRow) : Condition where
  elseGroup := row.elseGroup
  conditionType := row.conditionTypeOrReference.toNat
  conditionValue1 := row.conditionValue1
  conditionValue2 := row.conditionValue2
  conditionValue3 := row.conditionValue3
  referenceId := if row.conditionTypeOrReference < 0 then row.conditionTypeOrReference.natAbs else 0

def conditionMax : Nat := 31

/-- The row is loaded; `checks` are those of `isConditionTypeValid` for each type. -/
def ConditionRow.accepted (checks : Condition → Bool) (row : ConditionRow) : Bool :=
  if row.conditionTypeOrReference < 0 then
    row.conditionTypeOrReference ≠ row.sourceTypeOrReferenceId
  else
    row.condition.conditionType ≠ 0 ∧ row.condition.conditionType < conditionMax ∧
      checks row.condition = true

/-- `m_ConditionReferenceMap`; a template that is not in the map has no condition. -/
def loadReferences (checks : Condition → Bool) (rows : List ConditionRow) (refId : Nat) :
    List Condition :=
  (rows.filter fun row => row.accepted checks ∧ row.sourceTypeOrReferenceId < 0 ∧
    row.sourceTypeOrReferenceId.natAbs = refId).map ConditionRow.condition

namespace Condition

variable (condition : Condition)

def isLoaded : Prop := 0 < condition.conditionType ∨ condition.referenceId ≠ 0

instance : Decidable condition.isLoaded := instDecidableOr

/-- `refId` of `Meets`: no reference for an aura, the two targets and what is not handled -/
def quickReference : Nat :=
  if condition.conditionType = 1 ∨ condition.conditionType = 18 ∨ condition.conditionType = 24 ∨
      conditionMax ≤ condition.conditionType then 0
  else condition.conditionValue3

def reference : Nat :=
  if condition.referenceId ≠ 0 then condition.referenceId else condition.quickReference

end Condition

structure ConditionPlayer where
  meets : Condition → Bool
  script : Condition → Bool

variable (references : Nat → List Condition) (player : ConditionPlayer)

/-- A condition in the loop of a list, or its `Meets`; `follow` checks a template. -/
def check (follow : Nat → Option Bool) (condition : Condition) : Option Bool :=
  let refMeets := if condition.reference ≠ 0 then follow condition.reference else some true
  if condition.referenceId ≠ 0 then refMeets
  else if player.meets condition then refMeets.map (· && player.script condition)
  else some false

def nextGroup (follow : Nat → Option Bool) (elseGroups : OrdMap Nat Bool) (condition : Condition) :
    Option (OrdMap Nat Bool) :=
  if ¬ condition.isLoaded ∨ elseGroups.find condition.elseGroup = some false then some elseGroups
  else (check player follow condition).map (elseGroups.assign condition.elseGroup)

/-- `IsPlayerMeetToConditionList` -/
def meetsList (follow : Nat → Option Bool) (conditions : List Condition) : Option Bool :=
  (conditions.foldlM (nextGroup player follow) OrdMap.empty).map fun elseGroups =>
    elseGroups.entries.any Prod.snd

/-- `IsPlayerMeetToConditions` with a depth of calls; a template without conditions is met. -/
def isPlayerMeetToConditions : Nat → List Condition → Option Bool
  | _, [] => some true
  | 0, _ :: _ => none
  | depth + 1, condition :: rest =>
    meetsList player (fun template => isPlayerMeetToConditions depth (references template))
      (condition :: rest)

def Refers (id sub : Nat) : Prop := ∃ condition ∈ references id, condition.reference = sub ∧ sub ≠ 0

section Termination

variable {references} {player} {follow : Nat → Option Bool}

theorem isSome_foldlM {conditions : List Condition}
    (followed : ∀ condition ∈ conditions, condition.reference ≠ 0 →
      (follow condition.reference).isSome) (elseGroups : OrdMap Nat Bool) :
    (conditions.foldlM (nextGroup player follow) elseGroups).isSome := by
  induction conditions generalizing elseGroups with
  | nil => rfl
  | cons condition rest induction =>
    have later := induction fun other member => followed other (List.mem_cons_of_mem _ member)
    have checked : (check player follow condition).isSome := by
      have first := followed condition List.mem_cons_self
      unfold check
      grind
    obtain ⟨result, isResult⟩ := Option.isSome_iff_exists.mp checked
    rw [List.foldlM_cons, nextGroup, isResult]
    split <;> exact later _

def Ends (references : Nat → List Condition) (player : ConditionPlayer)
    (conditions : List Condition) : Prop :=
  ∃ depth, ∀ deeper, depth ≤ deeper →
    (isPlayerMeetToConditions references player deeper conditions).isSome

theorem ends_of_templates {conditions : List Condition}
    (templates : ∀ condition ∈ conditions, condition.reference ≠ 0 →
      Ends references player (references condition.reference)) :
    Ends references player conditions := by
  have common : ∃ depth, ∀ deeper, depth ≤ deeper → ∀ condition ∈ conditions,
      condition.reference ≠ 0 → (isPlayerMeetToConditions references player deeper
        (references condition.reference)).isSome := by
    induction conditions with
    | nil => exact ⟨0, by simp⟩
    | cons condition rest induction =>
      obtain ⟨depth, enough⟩ := induction fun other member =>
        templates other (List.mem_cons_of_mem _ member)
      have first := templates condition List.mem_cons_self
      by_cases refers : condition.reference ≠ 0
      · obtain ⟨needed, isEnough⟩ := first refers
        refine ⟨max depth needed, fun deeper reaches other member => ?_⟩
        obtain rfl | later := List.mem_cons.mp member
        · exact fun _ => isEnough deeper (by omega)
        · exact enough deeper (by omega) other later
      · refine ⟨depth, fun deeper reaches other member => ?_⟩
        obtain rfl | later := List.mem_cons.mp member
        · exact fun set => absurd set refers
        · exact enough deeper reaches other later
  obtain ⟨depth, enough⟩ := common
  refine ⟨depth + 1, fun deeper reaches => ?_⟩
  obtain ⟨below, rfl⟩ : ∃ below, deeper = below + 1 := ⟨deeper - 1, by omega⟩
  cases conditions with
  | nil => rfl
  | cons condition rest =>
    rw [isPlayerMeetToConditions, meetsList, Option.isSome_map]
    exact isSome_foldlM (enough below (by omega)) _

def allMet : ConditionPlayer := ⟨fun _ => true, fun _ => true⟩

theorem foldlM_allMet {conditions : List Condition} {elseGroups after : OrdMap Nat Bool}
    (loaded : ∀ condition ∈ conditions, condition.isLoaded)
    (met : ∀ template result, follow template = some result → result = true)
    (before : ∀ entry ∈ elseGroups.entries, entry.2 = true)
    (checked : conditions.foldlM (nextGroup allMet follow) elseGroups = some after) :
    (∀ condition ∈ conditions, condition.reference ≠ 0 → (follow condition.reference).isSome) ∧
      (∀ entry ∈ after.entries, entry.2 = true) ∧
      (conditions ≠ [] ∨ elseGroups.entries ≠ [] → after.entries ≠ []) := by
  induction conditions generalizing elseGroups with
  | nil =>
    obtain rfl := Option.some.inj checked
    exact ⟨by simp, before, by simp⟩
  | cons condition rest induction =>
    rw [List.foldlM_cons] at checked
    obtain ⟨next, isNext, later⟩ := Option.bind_eq_some_iff.mp checked
    have kept : ¬ (¬ condition.isLoaded ∨ elseGroups.find condition.elseGroup = some false) := by
      rintro (unloaded | lost)
      · exact unloaded (loaded condition List.mem_cons_self)
      · exact absurd (before _ (OrdMap.find_eq_some.mp lost)) Bool.false_ne_true
    rw [nextGroup, if_neg kept] at isNext
    obtain ⟨result, isResult, rfl⟩ := Option.map_eq_some_iff.mp isNext
    obtain ⟨rfl, into⟩ : result = true ∧
        (condition.reference ≠ 0 → (follow condition.reference).isSome) := by
      simp only [check, allMet, if_true, Bool.and_true, Option.map_id', ite_self] at isResult
      split at isResult
      · exact ⟨met _ _ isResult, fun _ => isResult ▸ rfl⟩
      · rename_i unset
        exact ⟨(Option.some.inj isResult).symm, fun set => absurd set unset⟩
    have assigned : ∀ entry ∈ (elseGroups.assign condition.elseGroup true).entries,
        entry.2 = true := by
      intro entry member
      obtain rfl | old := OrdMap.mem_assign member
      · rfl
      · exact before entry old
    have filled : (elseGroups.assign condition.elseGroup true).entries ≠ [] :=
      List.ne_nil_of_mem (OrdMap.mem_assignEntries_self condition.elseGroup true _)
    obtain ⟨others, all, some⟩ := induction
      (fun other member => loaded other (List.mem_cons_of_mem _ member)) assigned later
    refine ⟨fun other member => ?_, all, fun _ => some (.inr filled)⟩
    obtain rfl | inRest := List.mem_cons.mp member
    · exact into
    · exact others other inRest

section Circles

variable (loaded : ∀ template, ∀ condition ∈ references template, condition.isLoaded)
include loaded

theorem template_allMet {depth template : Nat} {result : Bool}
    (checked : isPlayerMeetToConditions references allMet depth (references template) =
      some result) :
    result = true ∧ ∀ sub, Refers references template sub → ∃ less < depth,
      (isPlayerMeetToConditions references allMet less (references sub)).isSome := by
  induction depth using Nat.strong_induction_on generalizing template result with
  | h depth induction =>
    cases list : references template with
    | nil =>
      rw [list, isPlayerMeetToConditions] at checked
      exact ⟨(Option.some.inj checked).symm, fun sub refers => by simp [Refers, list] at refers⟩
    | cons condition rest =>
      rw [list] at checked
      cases depth with
      | zero => cases checked
      | succ depth =>
        obtain ⟨after, isAfter, rfl⟩ := Option.map_eq_some_iff.mp checked
        have less := Nat.lt_succ_self depth
        obtain ⟨into, all, some⟩ := foldlM_allMet (fun other member =>
          loaded template other (list ▸ member)) (fun _ _ gone => (induction depth less gone).1)
          (by simp [OrdMap.empty]) isAfter
        constructor
        · obtain ⟨entry, member⟩ := List.exists_mem_of_ne_nil _ (some (.inl (by simp)))
          exact List.any_eq_true.mpr ⟨entry, member, all entry member⟩
        · rintro sub ⟨other, member, rfl, set⟩
          exact ⟨depth, less, into other (list ▸ member) set⟩

theorem endless_of_circle {template : Nat}
    (circle : TransGen (Refers references) template template) (depth : Nat) :
    isPlayerMeetToConditions references allMet depth (references template) = none := by
  have less {sub : Nat} (path : TransGen (Refers references) template sub) {depth : Nat}
      (ends : (isPlayerMeetToConditions references allMet depth (references template)).isSome) :
      ∃ less < depth, (isPlayerMeetToConditions references allMet less
        (references sub)).isSome := by
    obtain ⟨result, isResult⟩ := Option.isSome_iff_exists.mp ends
    induction path with
    | single refers => exact (template_allMet loaded isResult).2 _ refers
    | tail _ refers induction =>
      obtain ⟨first, isLess, ends⟩ := induction
      obtain ⟨result, isResult⟩ := Option.isSome_iff_exists.mp ends
      obtain ⟨second, isLesser, ends⟩ := (template_allMet loaded isResult).2 _ refers
      exact ⟨second, by omega, ends⟩
  induction depth using Nat.strong_induction_on with
  | h depth induction =>
    by_contra ends
    obtain ⟨before, isLess, ends⟩ := less circle (Option.isSome_iff_ne_none.mpr ends)
    rw [induction before isLess] at ends
    cases ends

end Circles

end Termination

theorem isLoaded_of_mem {checks : Condition → Bool} {rows : List ConditionRow} {template : Nat}
    {condition : Condition} (member : condition ∈ loadReferences checks rows template) :
    condition.isLoaded := by
  obtain ⟨row, isRow, rfl⟩ := List.mem_map.mp member
  have accepted := (of_decide_eq_true (List.mem_filter.mp isRow).2).1
  unfold ConditionRow.accepted at accepted
  unfold Condition.isLoaded ConditionRow.condition at *
  dsimp only at accepted ⊢
  split at accepted
  · rename_i refers
    rw [if_pos refers]
    omega
  · have valid := of_decide_eq_true accepted
    omega

/-- The check of every list ends for every player exactly if the accepted templates do not refer to
each other in a circle, by their reference ids or their third values. -/
theorem conditions_terminate_iff (checks : Condition → Bool) (rows : List ConditionRow) :
    (∀ player conditions, ∃ depth, (isPlayerMeetToConditions (loadReferences checks rows) player
        depth conditions).isSome) ↔
      ∀ template, ¬ TransGen (Refers (loadReferences checks rows)) template template := by
  constructor
  · intro terminates template circle
    obtain ⟨depth, ends⟩ := terminates allMet (loadReferences checks rows template)
    rw [endless_of_circle (fun _ _ => isLoaded_of_mem) circle] at ends
    cases ends
  · intro noCircle player conditions
    have finite (start : Nat) : {node | ReflTransGen (Refers (loadReferences checks rows)) start
        node}.Finite := by
      apply ((rows.map fun row => row.condition.reference).toFinset.finite_toSet.insert start).subset
      intro node path
      rcases ReflTransGen.cases_tail path with rfl | ⟨_, _, condition, member, rfl, _⟩
      · exact .inl rfl
      · obtain ⟨row, isRow, rfl⟩ := List.mem_map.mp member
        right
        simp only [List.coe_toFinset, List.mem_map, Set.mem_ofPred_eq]
        exact ⟨row, List.mem_of_mem_filter isRow, rfl⟩
    have each (template : Nat) :
        Ends (loadReferences checks rows) player (loadReferences checks rows template) := by
      have founded := acc_of_no_circle (finite template) fun node _ => noCircle node
      induction founded with
      | intro template _ induction =>
        exact ends_of_templates fun condition member set =>
          induction _ ⟨condition, member, rfl, set⟩
    obtain ⟨depth, enough⟩ := @ends_of_templates (loadReferences checks rows) player conditions
      fun _ _ _ => each _
    exact ⟨depth, enough depth (Nat.le_refl depth)⟩

/-- Two templates that refer to each other are accepted. -/
theorem templates_endless :
    let rows : List ConditionRow := [⟨-1, 0, -2, 0, 0, 0⟩, ⟨-2, 0, -1, 0, 0, 0⟩]
    (∀ row ∈ rows, row.accepted (fun _ => true) = true) ∧
      ¬ ∀ player conditions, ∃ depth, (isPlayerMeetToConditions
        (loadReferences (fun _ => true) rows) player depth conditions).isSome := by
  intro rows
  refine ⟨by decide, fun terminates => ?_⟩
  have circle : TransGen (Refers (loadReferences (fun _ => true) rows)) 1 1 :=
    .head (b := 2) ⟨_, List.mem_cons_self, rfl, by decide⟩
      (.single ⟨_, List.mem_cons_self, rfl, by decide⟩)
  obtain ⟨depth, ends⟩ := terminates allMet (loadReferences (fun _ => true) rows 1)
  rw [endless_of_circle (fun _ _ => isLoaded_of_mem) circle] at ends
  cases ends

end DarkCore.Conditions
