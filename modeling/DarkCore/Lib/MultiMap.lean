/-
Ordered maps with repeated keys, as `std::multimap` has them: a new entry goes
behind all entries whose key is not above its own, so that entries with equal
keys stay in the order of their insertion.
-/

import Mathlib.Algebra.Order.Ring.Int
import Mathlib.Data.List.Perm.Basic

namespace DarkCore.Lib

structure MultiMap (κ ν : Type*) [LinearOrder κ] where
  entries : List (κ × ν)
  sorted : entries.Pairwise fun first second => first.1 ≤ second.1

namespace MultiMap

variable {κ ν : Type*} [LinearOrder κ]

def insertEntry (new : κ × ν) : List (κ × ν) → List (κ × ν)
  | [] => [new]
  | entry :: rest => if new.1 < entry.1 then new :: entry :: rest else entry :: insertEntry new rest

variable {new : κ × ν} {entries front back : List (κ × ν)}

theorem insertEntry_perm (new : κ × ν) (entries : List (κ × ν)) :
    (insertEntry new entries).Perm (new :: entries) := by
  induction entries with
  | nil => exact List.Perm.refl _
  | cons entry rest ih =>
    unfold insertEntry
    split
    · exact List.Perm.refl _
    · exact (ih.cons entry).trans (List.Perm.swap new entry rest)

theorem mem_insertEntry {entry : κ × ν} :
    entry ∈ insertEntry new entries ↔ entry = new ∨ entry ∈ entries := by
  rw [(insertEntry_perm new entries).mem_iff, List.mem_cons]

theorem insertEntry_append (before : ∀ entry ∈ front, entry.1 ≤ new.1) :
    insertEntry new (front ++ back) = front ++ insertEntry new back := by
  induction front with
  | nil => rfl
  | cons entry rest ih =>
    rw [List.cons_append, insertEntry, if_neg (not_lt.mpr (before entry List.mem_cons_self)),
      ih fun other inRest => before other (List.mem_cons_of_mem entry inRest), List.cons_append]

theorem insertEntry_append_of_lt (below : ∀ entry ∈ back.head?, new.1 < entry.1) :
    insertEntry new (front ++ back) = insertEntry new front ++ back := by
  induction front with
  | nil =>
    cases back with
    | nil => rfl
    | cons entry rest =>
      rw [List.nil_append]
      exact if_pos (below entry rfl)
  | cons entry rest ih =>
    rw [List.cons_append]
    unfold insertEntry
    rw [ih]
    split <;> rfl

theorem head?_insertEntry {entry : κ × ν} (first : entries.head? = some entry)
    (upTo : entry.1 ≤ new.1) : (insertEntry new entries).head? = some entry := by
  cases entries with
  | nil => cases first
  | cons other rest =>
    grind [insertEntry]

theorem insertEntry_behind {first : κ × ν}
    (sorted : (front ++ back).Pairwise fun first second => first.1 ≤ second.1)
    (isFirst : first ∈ back.head?) (upTo : first.1 ≤ new.1) :
    insertEntry new (front ++ back) = front ++ insertEntry new back := by
  refine insertEntry_append fun entry listed => le_trans ?_ upTo
  exact (List.pairwise_append.mp sorted).2.2 entry listed first (List.mem_of_mem_head? isFirst)

theorem insertEntry_map {μ : Type*} (change : ν → μ) (entries : List (κ × ν)) :
    (insertEntry new entries).map (fun entry => (entry.1, change entry.2)) =
      insertEntry (new.1, change new.2) (entries.map fun entry => (entry.1, change entry.2)) := by
  induction entries with
  | nil => rfl
  | cons entry rest ih =>
    rw [insertEntry, List.map_cons, insertEntry]
    split
    · rfl
    · rw [List.map_cons, ih]

/-- A relation that holds along a sorted list, from the entries with keys up to that of the new
entry to it and from it to the others, holds along the list with the new entry. -/
theorem insertEntry_pairwise {related : κ × ν → κ × ν → Prop}
    (sorted : entries.Pairwise fun first second => first.1 ≤ second.1)
    (along : entries.Pairwise related)
    (into : ∀ entry ∈ entries, entry.1 ≤ new.1 → related entry new)
    (out : ∀ entry ∈ entries, new.1 < entry.1 → related new entry) :
    (insertEntry new entries).Pairwise related := by
  induction entries with
  | nil => exact List.pairwise_singleton _ _
  | cons entry rest ih =>
    obtain ⟨above, restSorted⟩ := List.pairwise_cons.mp sorted
    obtain ⟨headRelated, restAlong⟩ := List.pairwise_cons.mp along
    unfold insertEntry
    split
    · rename_i below
      refine List.pairwise_cons.mpr ⟨?_, along⟩
      intro other listed
      rcases List.mem_cons.mp listed with rfl | inRest
      · exact out other List.mem_cons_self below
      · exact out other listed (lt_of_lt_of_le below (above other inRest))
    · rename_i notBelow
      refine List.pairwise_cons.mpr ⟨?_, ih restSorted restAlong
        (fun other inRest => into other (List.mem_cons_of_mem entry inRest))
        fun other inRest => out other (List.mem_cons_of_mem entry inRest)⟩
      intro other listed
      rcases mem_insertEntry.mp listed with rfl | inRest
      · exact into entry List.mem_cons_self (not_lt.mp notBelow)
      · exact headRelated other inRest

theorem insertEntry_sorted (new : κ × ν)
    (sorted : entries.Pairwise fun first second => first.1 ≤ second.1) :
    (insertEntry new entries).Pairwise fun first second => first.1 ≤ second.1 :=
  insertEntry_pairwise sorted sorted (fun _ _ upTo => upTo) fun _ _ above => le_of_lt above

theorem eq_upTo_append (sorted : entries.Pairwise fun first second => first.1 ≤ second.1)
    (key : κ) :
    entries = (entries.filter fun entry => entry.1 ≤ key) ++
      entries.filter fun entry => key < entry.1 := by
  induction entries with
  | nil => rfl
  | cons entry rest ih =>
    obtain ⟨above, restSorted⟩ := List.pairwise_cons.mp sorted
    by_cases upTo : entry.1 ≤ key
    · rw [List.filter_cons_of_pos (by simpa using upTo),
        List.filter_cons_of_neg (by simpa using upTo), List.cons_append]
      exact congrArg (entry :: ·) (ih restSorted)
    · have beyond : key < entry.1 := not_le.mp upTo
      have overAll : ∀ other ∈ rest, key < other.1 := fun other inRest =>
        lt_of_lt_of_le beyond (above other inRest)
      have noneUpTo : rest.filter (fun other => decide (other.1 ≤ key)) = [] := by
        rw [List.filter_eq_nil_iff]
        intro other inRest
        simpa using overAll other inRest
      rw [List.filter_cons_of_neg (by simpa using upTo), noneUpTo, List.nil_append,
        List.filter_cons_of_pos (by simpa using beyond)]
      refine congrArg (entry :: ·) (List.filter_eq_self.mpr ?_).symm
      exact fun other inRest => decide_eq_true (overAll other inRest)

def empty : MultiMap κ ν := ⟨[], List.Pairwise.nil⟩

def insert (map : MultiMap κ ν) (key : κ) (value : ν) : MultiMap κ ν :=
  ⟨insertEntry (key, value) map.entries, insertEntry_sorted (key, value) map.sorted⟩

def tail (map : MultiMap κ ν) : MultiMap κ ν := ⟨map.entries.tail, map.sorted.tail⟩

def modifyHead (map : MultiMap κ ν) (change : ν → ν) : MultiMap κ ν where
  entries := map.entries.modifyHead fun entry => (entry.1, change entry.2)
  sorted := by
    obtain ⟨entries, sorted⟩ := map
    cases entries with
    | nil => exact List.Pairwise.nil
    | cons entry rest => exact List.pairwise_cons.mpr (List.pairwise_cons.mp sorted)

theorem tail_insert {map : MultiMap κ ν} {entry : κ × ν} {rest : List (κ × ν)} {key : κ} {value : ν}
    (queue : map.entries = entry :: rest) (upTo : entry.1 ≤ key) :
    (map.insert key value).tail.entries = insertEntry (key, value) rest := by
  have inserted : (map.insert key value).entries = insertEntry (key, value) map.entries := rfl
  have isTail : (map.insert key value).tail.entries = (map.insert key value).entries.tail := rfl
  rw [isTail, inserted, queue, insertEntry, if_neg (not_lt.mpr upTo)]
  rfl

def mapValues (map : MultiMap κ ν) (change : ν → ν) : MultiMap κ ν :=
  ⟨map.entries.map fun entry => (entry.1, change entry.2), List.pairwise_map.mpr map.sorted⟩

def filterValues (map : MultiMap κ ν) (keep : ν → Bool) : MultiMap κ ν :=
  ⟨map.entries.filter fun entry => keep entry.2, map.sorted.filter _⟩

def equalRange (map : MultiMap κ ν) (key : κ) : List (κ × ν) :=
  map.entries.filter fun entry => entry.1 = key

def valuesOf (map : MultiMap κ ν) (key : κ) : List ν := (map.equalRange key).map Prod.snd

def eraseFirst (map : MultiMap κ ν) (key : κ) (test : κ × ν → Bool) : MultiMap κ ν where
  entries := map.entries.eraseP fun entry => entry.1 = key && test entry
  sorted := map.sorted.sublist (List.eraseP_sublist ..)

variable {map : MultiMap κ ν} {key other : κ} {value : ν}

theorem filter_insertEntry (sorted : entries.Pairwise fun first second => first.1 ≤ second.1)
    (other : κ) :
    (insertEntry new entries).filter (fun entry => entry.1 = other) =
      entries.filter (fun entry => entry.1 = other) ++ if new.1 = other then [new] else [] := by
  induction entries with
  | nil =>
    by_cases same : new.1 = other <;> simp [insertEntry, same]
  | cons entry rest ih =>
    obtain ⟨above, restSorted⟩ := List.pairwise_cons.mp sorted
    unfold insertEntry
    split
    · rename_i below
      by_cases same : new.1 = other
      · have absent : (entry :: rest).filter (fun entry => entry.1 = other) = [] := by
          rw [List.filter_eq_nil_iff]
          intro later listed
          have notBelow : new.1 < later.1 := by
            rcases List.mem_cons.mp listed with rfl | inRest
            · exact below
            · exact lt_of_lt_of_le below (above later inRest)
          simpa [← same] using notBelow.ne'
        rw [List.filter_cons_of_pos (by simpa using same), absent, if_pos same]
        rfl
      · rw [List.filter_cons_of_neg (by simpa using same), if_neg same, List.append_nil]
    · rw [List.filter_cons, List.filter_cons, ih restSorted]
      split <;> rfl

theorem valuesOf_insert (map : MultiMap κ ν) (key : κ) (value : ν) (other : κ) :
    (map.insert key value).valuesOf other =
      map.valuesOf other ++ if key = other then [value] else [] := by
  unfold valuesOf equalRange insert
  rw [filter_insertEntry map.sorted, List.map_append]
  congr 1
  split <;> rfl

theorem filter_eraseP (test : κ × ν → Bool) (passes : ∀ entry, entry.1 = key → test entry = true)
    (entries : List (κ × ν)) (other : κ) :
    (entries.eraseP fun entry => entry.1 = key && test entry).filter
        (fun entry => entry.1 = other) =
      if other = key then (entries.filter fun entry => entry.1 = other).tail
      else entries.filter fun entry => entry.1 = other := by
  induction entries with
  | nil => simp
  | cons entry rest ih =>
    by_cases here : entry.1 = key
    · grind
    · rw [List.eraseP_cons_of_neg (by simp [here]), List.filter_cons, List.filter_cons, ih]
      by_cases same : other = key
      · simp [here, same]
      · rw [if_neg same, if_neg same]

theorem valuesOf_eraseFirst (map : MultiMap κ ν) {test : κ × ν → Bool}
    (passes : ∀ entry, entry.1 = key → test entry = true) (other : κ) :
    (map.eraseFirst key test).valuesOf other =
      if other = key then (map.valuesOf other).tail else map.valuesOf other := by
  unfold valuesOf equalRange eraseFirst
  rw [filter_eraseP test passes]
  split
  · rw [List.map_tail]
  · rfl

theorem perm_iff_valuesOf {map map' : MultiMap κ ν} [DecidableEq ν] :
    map.entries.Perm map'.entries ↔ ∀ key, (map.valuesOf key).Perm (map'.valuesOf key) := by
  have count : ∀ (map : MultiMap κ ν) (key : κ) (value : ν),
      (map.valuesOf key).count value = map.entries.count (key, value) := by
    intro map key value
    unfold valuesOf equalRange
    generalize map.entries = entries
    induction entries with
    | nil => rfl
    | cons entry rest ih =>
      obtain ⟨otherKey, otherValue⟩ := entry
      by_cases here : otherKey = key
      · simp [here, List.count_cons, ih]
      · simp [here, ih]
  constructor
  · grind
  · simp [List.perm_iff_count, count]

end MultiMap

end DarkCore.Lib
