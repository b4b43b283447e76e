/-
The first element of a list that passes a test: found, changed and removed. A
list with such an element is, up to order, that element and the others.
-/

import Mathlib.Data.List.Perm.Basic

namespace DarkCore.Lib

variable {α β : Type*} {test : α → Bool} {list : List α} {found : α}

def changeFirst (test : α → Bool) (change : α → α) : List α → List α
  | [] => []
  | head :: rest =>
    if test head = true then change head :: rest else head :: changeFirst test change rest

section

variable (isFound : list.find? test = some found)
include isFound

theorem find?_perm :
    list.Perm (found :: list.eraseP test) := by
  induction list with
  | nil => cases isFound
  | cons head rest ih =>
    cases here : test head with
    | true =>
      simp_all
    | false =>
      have apart : ¬ test head = true := by rw [here]; exact Bool.false_ne_true
      rw [List.find?_cons_of_neg apart] at isFound
      rw [List.eraseP_cons_of_neg apart]
      exact ((ih isFound).cons head).trans (List.Perm.swap found head _)

theorem changeFirst_perm (change : α → α) :
    (changeFirst test change list).Perm (change found :: list.eraseP test) := by
  induction list with
  | nil => cases isFound
  | cons head rest ih =>
    unfold changeFirst
    cases here : test head with
    | true =>
      simp_all
    | false =>
      have apart : ¬ test head = true := by rw [here]; exact Bool.false_ne_true
      rw [List.find?_cons_of_neg apart] at isFound
      rw [if_neg Bool.false_ne_true, List.eraseP_cons_of_neg apart]
      exact ((ih isFound).cons head).trans (List.Perm.swap (change found) head _)

theorem find?_changeFirst {change : α → α}
    (passes : test (change found) = true) :
    (changeFirst test change list).find? test = some (change found) := by
  induction list with
  | nil => cases isFound
  | cons head rest ih =>
    unfold changeFirst
    cases here : test head with
    | true =>
      simp_all
    | false =>
      have apart : ¬ test head = true := by rw [here]; exact Bool.false_ne_true
      rw [List.find?_cons_of_neg apart] at isFound
      rw [if_neg Bool.false_ne_true, List.find?_cons_of_neg apart]
      exact ih isFound

end

theorem map_changeFirst {change : α → α} {view : α → β}
    (kept : ∀ element, view (change element) = view element) (list : List α) :
    (changeFirst test change list).map view = list.map view := by
  induction list with
  | nil => rfl
  | cons head rest ih =>
    unfold changeFirst
    split
    · rw [List.map_cons, List.map_cons, kept head]
    · rw [List.map_cons, List.map_cons, ih]

theorem filter_eraseP {view : α → Bool}
    (apart : ∀ element ∈ list, test element = true → view element = false) :
    (list.eraseP test).filter view = list.filter view := by
  induction list with
  | nil => rfl
  | cons head rest ih =>
    by_cases passes : test head = true
    · have left : ¬ view head = true := by
        simp_all
      rw [List.eraseP_cons_of_pos passes, List.filter_cons_of_neg left]
    · have later := ih fun element member => apart element (List.mem_cons_of_mem _ member)
      rw [List.eraseP_cons_of_neg passes, List.filter_cons, List.filter_cons, later]

theorem mem_changeFirst {change : α → α} {element : α}
    (member : element ∈ changeFirst test change list) :
    element ∈ list ∨ ∃ old ∈ list, test old = true ∧ element = change old := by
  induction list with
  | nil => cases member
  | cons head rest ih =>
    unfold changeFirst at member
    split at member
    · rename_i passes
      rcases List.mem_cons.mp member with here | later
      · exact Or.inr ⟨head, List.mem_cons_self, passes, here⟩
      · exact Or.inl (List.mem_cons_of_mem _ later)
    · rcases List.mem_cons.mp member with here | later
      · exact Or.inl (here ▸ List.mem_cons_self)
      · rcases ih later with same | ⟨old, inside, passes, changed⟩
        · exact Or.inl (List.mem_cons_of_mem _ same)
        · exact Or.inr ⟨old, List.mem_cons_of_mem _ inside, passes, changed⟩

end DarkCore.Lib
