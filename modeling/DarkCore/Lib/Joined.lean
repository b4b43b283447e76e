/-
Words written one after the other with a separator between them. Words that do not
contain the separator can be read back.
-/

import Mathlib.Init

namespace DarkCore.Lib

variable {α : Type*}

def joined (separator : α) : List (List α) → List α
  | [] => []
  | first :: rest => first ++ rest.flatMap fun word => separator :: word

variable {separator : α}

theorem takeWhile_word [DecidableEq α] {word : List α} (clean : separator ∉ word)
    (words : List (List α)) :
    (word ++ words.flatMap fun word => separator :: word).takeWhile (· ≠ separator) = word := by
  have passes : ∀ letter ∈ word, decide (letter ≠ separator) = true := by
    grind
  rw [List.takeWhile_append_of_pos passes]
  cases words with
  | nil => simp
  | cons next rest => simp

theorem flatMap_separated_injective [DecidableEq α] {first second : List (List α)}
    (cleanFirst : ∀ word ∈ first, separator ∉ word)
    (cleanSecond : ∀ word ∈ second, separator ∉ word)
    (same : (first.flatMap fun word => separator :: word) =
      second.flatMap fun word => separator :: word) : first = second := by
  induction first generalizing second with
  | nil =>
    cases second with
    | nil => rfl
    | cons word rest => simp at same
  | cons word rest ih =>
    cases second with
    | nil => simp at same
    | cons other others =>
      rw [List.flatMap_cons, List.flatMap_cons, List.cons_append, List.cons_append,
        List.cons_inj_right] at same
      have sameWord : word = other := by
        rw [← takeWhile_word (cleanFirst word List.mem_cons_self) rest, same,
          takeWhile_word (cleanSecond other List.mem_cons_self)]
      rw [sameWord] at same
      rw [sameWord, ih (fun word member => cleanFirst word (List.mem_cons_of_mem _ member))
        (fun word member => cleanSecond word (List.mem_cons_of_mem _ member))
        (List.append_cancel_left same)]

theorem joined_injective [DecidableEq α] {first second : List (List α)}
    (cleanFirst : ∀ word ∈ first, separator ∉ word ∧ word ≠ [])
    (cleanSecond : ∀ word ∈ second, separator ∉ word ∧ word ≠ [])
    (same : joined separator first = joined separator second) : first = second := by
  cases first with
  | nil =>
    cases second with
    | nil => rfl
    | cons other others =>
      have empty := (List.append_eq_nil_iff.mp same.symm).1
      exact absurd empty (cleanSecond other List.mem_cons_self).2
  | cons word rest =>
    cases second with
    | nil =>
      have empty := (List.append_eq_nil_iff.mp same).1
      exact absurd empty (cleanFirst word List.mem_cons_self).2
    | cons other others =>
      rw [joined, joined] at same
      have sameWord : word = other := by
        rw [← takeWhile_word (cleanFirst word List.mem_cons_self).1 rest, same,
          takeWhile_word (cleanSecond other List.mem_cons_self).1]
      rw [sameWord] at same
      rw [sameWord, flatMap_separated_injective
        (fun word member => (cleanFirst word (List.mem_cons_of_mem _ member)).1)
        (fun word member => (cleanSecond word (List.mem_cons_of_mem _ member)).1)
        (List.append_cancel_left same)]

end DarkCore.Lib
