/-
Lists that are changed at one position: what is found in them afterwards, and
how the number of elements with a property changes. At most one element has a
property if no two that have it go together.
-/

import Mathlib.Data.List.Basic

namespace DarkCore.Lib

variable {α : Type*} {items : List α} {change : α → α} {position index : Nat} {value old : α}

theorem getElem?_modify_some (found : (items.modify position change)[index]? = some value) :
    ∃ old, items[index]? = some old ∧
      (index = position ∧ value = change old ∨ index ≠ position ∧ value = old) := by
  by_cases same : position = index
  · subst same
    rw [List.getElem?_modify_eq] at found
    obtain ⟨old, isOld, changed⟩ := Option.map_eq_some_iff.mp found
    exact ⟨old, isOld, Or.inl ⟨rfl, changed.symm⟩⟩
  · grind

theorem getElem?_modify_map {β : Type*} {field : α → β}
    (keeps : ∀ value, field (change value) = field value) (index : Nat) :
    (items.modify position change)[index]?.map field = items[index]?.map field := by
  by_cases same : position = index
  · grind
  · rw [List.getElem?_modify_ne change items same]

theorem mem_modify (member : value ∈ items.modify position change) :
    ∃ old ∈ items, value = change old ∨ value = old := by
  obtain ⟨index, found⟩ := List.mem_iff_getElem?.mp member
  obtain ⟨old, isOld, changed | same⟩ := getElem?_modify_some found
  · exact ⟨old, List.mem_of_getElem? isOld, Or.inl changed.2⟩
  · exact ⟨old, List.mem_of_getElem? isOld, Or.inr same.2⟩

theorem countP_modify (change : α → α) (test : α → Bool) (found : items[position]? = some old) :
    (items.modify position change).countP test + (if test old then 1 else 0) =
      items.countP test + if test (change old) then 1 else 0 := by
  induction items generalizing position with
  | nil => cases found
  | cons head rest ih =>
    cases position with
    | zero =>
      grind
    | succ position =>
      rw [List.getElem?_cons_succ] at found
      have later := ih found
      rw [List.modify_succ_cons, List.countP_cons, List.countP_cons]
      omega

theorem countP_le_one {apart : α → α → Prop} {test : α → Bool} (pairwise : items.Pairwise apart)
    (conflict : ∀ first second, test first = true → test second = true → ¬ apart first second) :
    items.countP test ≤ 1 := by
  induction items with
  | nil => exact Nat.zero_le 1
  | cons head rest ih =>
    obtain ⟨fromHead, inRest⟩ := List.pairwise_cons.mp pairwise
    rw [List.countP_cons]
    cases isHead : test head with
    | false =>
      rw [if_neg Bool.false_ne_true]
      exact ih inRest
    | true =>
      have nobody : rest.countP test = 0 := by
        grind
      exact Nat.le_of_eq (by rw [if_pos rfl, nobody])

end DarkCore.Lib
