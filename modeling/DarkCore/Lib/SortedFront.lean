/-
Lists that are sorted as far as it matters: the elements with some property
stand in front in order, the others follow in any order. Sorting such a list
moves only the others.
-/

import Mathlib.Data.List.Sort

namespace DarkCore.Lib

variable {α : Type*} {r : α → α → Prop} {high : α → Bool} {list : List α}

theorem filter_append_filter_not
    (front : list.Pairwise fun first second => high second = true → high first = true) :
    list.filter high ++ list.filter (fun element => !high element) = list := by
  induction list with
  | nil => rfl
  | cons first rest ih =>
    obtain ⟨ahead, later⟩ := List.pairwise_cons.mp front
    cases here : high first with
    | true =>
      rw [List.filter_cons_of_pos here, List.filter_cons_of_neg (by rw [here]; decide),
        List.cons_append, ih later]
    | false =>
      have none_high : ∀ second ∈ rest, high second = false := by
        simp_all
      have empty : rest.filter high = [] := by
        simp_all
      have all : rest.filter (fun element => !high element) = rest := by
        simp_all
      rw [List.filter_cons_of_neg (by rw [here]; exact Bool.false_ne_true),
        List.filter_cons_of_pos (by rw [here]; rfl), empty, all]
      rfl

variable [DecidableRel r]

theorem filter_insertionSort
    (ordered : list.Pairwise fun first second => high second = true → r first second) :
    (list.insertionSort r).filter high = list.filter high := by
  have front : (list.filter high).Pairwise r := by
    rw [List.pairwise_filter]
    exact ordered.imp fun before _ there => before there
  have kept : (list.filter high).Sublist (list.insertionSort r) :=
    List.sublist_insertionSort front List.filter_sublist
  have again : (list.filter high).filter high = list.filter high :=
    List.filter_eq_self.mpr fun element member => (List.mem_filter.mp member).2
  have inside := kept.filter high
  rw [again] at inside
  exact (inside.eq_of_length ((List.perm_insertionSort r list).filter high).length_eq.symm).symm

variable [Std.Total r] [IsTrans α r]

theorem insertionSort_eq_append (upward : ∀ first second, r first second → high second = true →
      high first = true)
    (ordered : list.Pairwise fun first second => high second = true → r first second) :
    list.insertionSort r =
      list.filter high ++ (list.insertionSort r).filter (fun element => !high element) := by
  have sorted := (List.pairwise_insertionSort r list).imp (fun {first second} before =>
    upward first second before)
  rw [← filter_insertionSort ordered]
  exact (filter_append_filter_not sorted).symm

end DarkCore.Lib
