/-
Ordered maps with unique keys, as `std::map` has them: the entries are kept in
the order of their keys. The file has lookup, assignment and erasure, and how
a sum over the values and the number of entries with a property change.
-/

import Mathlib.Algebra.Order.Ring.Int
import Mathlib.Data.List.Dedup

namespace DarkCore.Lib

structure OrdMap (κ ν : Type*) [LinearOrder κ] where
  entries : List (κ × ν)
  sorted : entries.Pairwise fun first second => first.1 < second.1

namespace OrdMap

variable {κ ν : Type*} [LinearOrder κ]

def empty : OrdMap κ ν := ⟨[], List.Pairwise.nil⟩

def findEntries (key : κ) : List (κ × ν) → Option ν
  | [] => none
  | entry :: rest => if entry.1 = key then some entry.2 else findEntries key rest

def find (map : OrdMap κ ν) (key : κ) : Option ν := findEntries key map.entries

def assignEntries (key : κ) (value : ν) : List (κ × ν) → List (κ × ν)
  | [] => [(key, value)]
  | entry :: rest =>
    if key < entry.1 then (key, value) :: entry :: rest
    else if key = entry.1 then (key, value) :: rest
    else entry :: assignEntries key value rest

theorem mem_assignEntries {key : κ} {value : ν} {entries : List (κ × ν)} {entry : κ × ν}
    (member : entry ∈ assignEntries key value entries) :
    entry = (key, value) ∨ entry ∈ entries := by
  induction entries with
  | nil => exact Or.inl (List.mem_singleton.mp member)
  | cons head rest ih =>
    unfold assignEntries at member
    split at member
    · exact List.mem_cons.mp member
    · split at member
      · rcases List.mem_cons.mp member with new | old
        · exact Or.inl new
        · exact Or.inr (List.mem_cons_of_mem head old)
      · rcases List.mem_cons.mp member with first | later
        · exact Or.inr (first ▸ List.mem_cons_self)
        · exact (ih later).imp_right (List.mem_cons_of_mem head)

theorem mem_assignEntries_self (key : κ) (value : ν) (entries : List (κ × ν)) :
    (key, value) ∈ assignEntries key value entries := by
  induction entries with
  | nil => exact List.mem_cons_self
  | cons head rest ih =>
    unfold assignEntries
    split
    · exact List.mem_cons_self
    · split
      · exact List.mem_cons_self
      · exact List.mem_cons_of_mem head ih

theorem mem_assignEntries_of_mem {key : κ} {value : ν} {entries : List (κ × ν)} {entry : κ × ν}
    (different : entry.1 ≠ key) (member : entry ∈ entries) :
    entry ∈ assignEntries key value entries := by
  induction entries with
  | nil => cases member
  | cons head rest ih =>
    unfold assignEntries
    split
    · exact List.mem_cons_of_mem _ member
    · split
      · rename_i same
        rcases List.mem_cons.mp member with first | later
        · exact absurd (first ▸ same.symm) different
        · exact List.mem_cons_of_mem _ later
      · rcases List.mem_cons.mp member with first | later
        · exact first ▸ List.mem_cons_self
        · exact List.mem_cons_of_mem head (ih later)

theorem assignEntries_sorted (key : κ) (value : ν) {entries : List (κ × ν)}
    (sorted : entries.Pairwise fun first second => first.1 < second.1) :
    (assignEntries key value entries).Pairwise fun first second => first.1 < second.1 := by
  induction entries with
  | nil => exact List.pairwise_singleton _ _
  | cons head rest ih =>
    obtain ⟨below, restSorted⟩ := List.pairwise_cons.mp sorted
    unfold assignEntries
    split
    · rename_i before
      refine List.pairwise_cons.mpr ⟨?_, sorted⟩
      intro entry member
      rcases List.mem_cons.mp member with first | later
      · exact first ▸ before
      · exact lt_trans before (below entry later)
    · rename_i notBefore
      split
      · rename_i same
        refine List.pairwise_cons.mpr ⟨?_, restSorted⟩
        intro entry member
        exact same ▸ below entry member
      · rename_i different
        refine List.pairwise_cons.mpr ⟨?_, ih restSorted⟩
        intro entry member
        rcases mem_assignEntries member with new | old
        · grind
        · exact below entry old

def assign (map : OrdMap κ ν) (key : κ) (value : ν) : OrdMap κ ν :=
  ⟨assignEntries key value map.entries, assignEntries_sorted key value map.sorted⟩

def erase (map : OrdMap κ ν) (key : κ) : OrdMap κ ν :=
  ⟨map.entries.filter fun entry => entry.1 ≠ key, map.sorted.filter _⟩

def mapValues (map : OrdMap κ ν) (change : ν → ν) : OrdMap κ ν :=
  ⟨map.entries.map fun entry => (entry.1, change entry.2), List.pairwise_map.mpr map.sorted⟩

def countWhere (map : OrdMap κ ν) (test : ν → Bool) : Nat :=
  map.entries.countP fun entry => test entry.2

def total (map : OrdMap κ ν) (measure : ν → Nat) : Nat :=
  (map.entries.map fun entry => measure entry.2).sum

def weight (test : ν → Bool) : Option ν → Nat
  | none => 0
  | some value => if test value then 1 else 0

section Lookup

variable {map : OrdMap κ ν} {key : κ} {value value' : ν}

theorem keys_nodup (map : OrdMap κ ν) : (map.entries.map Prod.fst).Nodup := by
  rw [List.Nodup, List.pairwise_map]
  exact map.sorted.imp ne_of_lt

theorem eq_of_mem_of_mem (first : (key, value) ∈ map.entries)
    (second : (key, value') ∈ map.entries) : value = value' :=
  congrArg Prod.snd (List.inj_on_of_nodup_map map.keys_nodup first second rfl)

theorem findEntries_eq_none {entries : List (κ × ν)} :
    findEntries key entries = none ↔ ∀ entry ∈ entries, entry.1 ≠ key := by
  induction entries with
  | nil =>
    constructor
    · intro _ entry member
      cases member
    · intro _
      rfl
  | cons head rest ih =>
    unfold findEntries
    by_cases same : head.1 = key
    · simp_all
    · rw [if_neg same, ih]
      constructor
      · intro absent entry member
        rcases List.mem_cons.mp member with first | later
        · exact first ▸ same
        · exact absent entry later
      · simp

theorem mem_of_findEntries {entries : List (κ × ν)} (found : findEntries key entries = some value) :
    (key, value) ∈ entries := by
  induction entries with
  | nil => cases found
  | cons head rest ih =>
    unfold findEntries at found
    split at found
    · grind
    · exact List.mem_cons_of_mem head (ih found)

theorem find_eq_none : map.find key = none ↔ ∀ entry ∈ map.entries, entry.1 ≠ key :=
  findEntries_eq_none

theorem find_eq_some : map.find key = some value ↔ (key, value) ∈ map.entries := by
  constructor
  · exact mem_of_findEntries
  · intro member
    cases found : map.find key with
    | none => exact absurd rfl (find_eq_none.mp found (key, value) member)
    | some value' => rw [eq_of_mem_of_mem member (mem_of_findEntries found)]

theorem mem_assign {entry : κ × ν} (member : entry ∈ (map.assign key value).entries) :
    entry = (key, value) ∨ entry ∈ map.entries :=
  mem_assignEntries member

theorem mem_erase {entry : κ × ν} :
    entry ∈ (map.erase key).entries ↔ entry ∈ map.entries ∧ entry.1 ≠ key := by
  unfold erase
  rw [List.mem_filter, decide_eq_true_iff]

theorem find_congr {other : OrdMap κ ν}
    (same : ∀ value, (key, value) ∈ map.entries ↔ (key, value) ∈ other.entries) :
    map.find key = other.find key := by
  apply Option.ext
  intro value
  rw [find_eq_some, find_eq_some]
  exact same value

theorem find_assign (map : OrdMap κ ν) (key : κ) (value : ν) :
    (map.assign key value).find = Function.update map.find key (some value) := by
  funext looked
  by_cases same : looked = key
  · subst same
    rw [Function.update_self, find_eq_some]
    exact mem_assignEntries_self looked value map.entries
  · rw [Function.update_of_ne same]
    apply find_congr
    intro found
    constructor
    · intro member
      rcases mem_assign member with new | old
      · exact absurd (congrArg Prod.fst new) same
      · exact old
    · exact mem_assignEntries_of_mem same

theorem find_assign_some {other : κ} {found : ν} :
    (map.assign key value).find other = some found ↔
      other = key ∧ found = value ∨ other ≠ key ∧ map.find other = some found := by
  rw [find_assign, Function.update_apply]
  by_cases here : other = key
  · simp [here, eq_comm]
  · simp [here]

theorem assignEntries_self {entries : List (κ × ν)}
    (sorted : entries.Pairwise (fun first second => first.1 < second.1))
    (found : findEntries key entries = some value) : assignEntries key value entries = entries := by
  induction entries with
  | nil => cases found
  | cons head rest ih =>
    obtain ⟨below, restSorted⟩ := List.pairwise_cons.mp sorted
    unfold findEntries at found
    unfold assignEntries
    by_cases same : head.1 = key
    · grind
    · rw [if_neg same] at found
      have later := below _ (mem_of_findEntries found)
      rw [if_neg later.not_gt, if_neg (Ne.symm same), ih restSorted found]

theorem assign_self (found : map.find key = some value) : map.assign key value = map := by
  obtain ⟨entries, sorted⟩ := map
  unfold assign
  simp only [mk.injEq]
  exact assignEntries_self sorted found

theorem find_erase (map : OrdMap κ ν) (key : κ) :
    (map.erase key).find = Function.update map.find key none := by
  funext looked
  by_cases same : looked = key
  · subst same
    rw [Function.update_self, find_eq_none]
    intro entry member
    exact (mem_erase.mp member).2
  · rw [Function.update_of_ne same]
    apply find_congr
    intro found
    rw [mem_erase]
    exact and_iff_left same

theorem find_mapValues (map : OrdMap κ ν) (change : ν → ν) (key : κ) :
    (map.mapValues change).find key = (map.find key).map change := by
  cases found : map.find key with
  | none =>
    rw [Option.map_none, find_eq_none]
    intro entry member
    obtain ⟨old, inMap, rfl⟩ := List.mem_map.mp member
    exact find_eq_none.mp found old inMap
  | some value =>
    rw [Option.map_some, find_eq_some]
    exact List.mem_map.mpr ⟨(key, value), find_eq_some.mp found, rfl⟩

theorem eq_of_entries {other : OrdMap κ ν} (same : map.entries = other.entries) : map = other := by
  cases map
  cases other
  congr

end Lookup

section Counting

variable {map : OrdMap κ ν} {key : κ} {value : ν} (test : ν → Bool)

/-- Replacing the value at a key takes the measure of the old value out of a total and puts that of
the new one in. -/
theorem total_assign (measure : ν → Nat) :
    (map.assign key value).total measure + (map.find key).elim 0 measure =
      map.total measure + measure value := by
  obtain ⟨entries, sorted⟩ := map
  unfold total assign find
  dsimp only
  induction entries with
  | nil =>
    simp [assignEntries, findEntries, List.map_cons, List.map_nil, List.sum_cons, List.sum_nil]
  | cons head rest ih =>
    obtain ⟨below, restSorted⟩ := List.pairwise_cons.mp sorted
    have later := ih restSorted
    unfold assignEntries
    by_cases before : key < head.1
    · rw [if_pos before]
      have absent : findEntries key (head :: rest) = none := by
        rw [findEntries_eq_none]
        intro entry member
        rcases List.mem_cons.mp member with first | inRest
        · exact first ▸ ne_of_gt before
        · exact ne_of_gt (lt_trans before (below entry inRest))
      rw [absent, Option.elim_none, Nat.add_zero, List.map_cons, List.sum_cons]
      exact Nat.add_comm _ _
    · rw [if_neg before]
      by_cases same : key = head.1
      · grind [List.map_cons, List.sum_cons, findEntries, Option.elim_some]
      · grind [List.map_cons, List.sum_cons, findEntries]

theorem countWhere_eq_total (map : OrdMap κ ν) :
    map.countWhere test = map.total fun value => if test value then 1 else 0 := by
  unfold countWhere total
  induction map.entries with
  | nil => rfl
  | cons head rest ih =>
    rw [List.countP_cons, List.map_cons, List.sum_cons, ih, Nat.add_comm]

theorem weight_eq_elim (found : Option ν) :
    weight test found = found.elim 0 fun value => if test value then 1 else 0 := by
  cases found with
  | none => rfl
  | some value => rfl

theorem countWhere_assign :
    (map.assign key value).countWhere test + weight test (map.find key) =
      map.countWhere test + weight test (some value) := by
  rw [countWhere_eq_total, countWhere_eq_total, weight_eq_elim, weight_eq_elim]
  exact total_assign _

theorem countWhere_erase :
    (map.erase key).countWhere test + weight test (map.find key) = map.countWhere test := by
  obtain ⟨entries, sorted⟩ := map
  unfold countWhere erase find
  dsimp only
  induction entries with
  | nil => rfl
  | cons head rest ih =>
    obtain ⟨below, restSorted⟩ := List.pairwise_cons.mp sorted
    have later := ih restSorted
    by_cases same : head.1 = key
    · have others : rest.filter (fun entry => decide (entry.1 ≠ key)) = rest := by
        grind [List.filter_eq_self]
      rw [findEntries, if_pos same, List.filter_cons_of_neg (by simpa using same), others,
        List.countP_cons]
      rfl
    · grind [findEntries, List.countP_cons]

theorem weight_some : weight test (some value) = if test value then 1 else 0 := rfl

theorem countWhere_assign_new (absent : map.find key = none) :
    (map.assign key value).countWhere test =
      map.countWhere test + if test value then 1 else 0 := by
  have assigned : (map.assign key value).countWhere test + weight test (map.find key) = _ :=
    countWhere_assign test
  rw [absent] at assigned
  exact assigned

theorem countWhere_erase_some (found : map.find key = some value) :
    (map.erase key).countWhere test + (if test value then 1 else 0) = map.countWhere test := by
  have erased : (map.erase key).countWhere test + weight test (map.find key) = _ :=
    countWhere_erase test
  rw [found] at erased
  exact erased

theorem countWhere_true (map : OrdMap κ ν) :
    map.countWhere (fun _ => true) = map.entries.length :=
  List.countP_eq_length.mpr fun _ _ => rfl

theorem length_assign_none (absent : map.find key = none) :
    (map.assign key value).entries.length = map.entries.length + 1 := by
  have counted : (map.assign key value).countWhere (fun _ => true) = _ :=
    countWhere_assign_new (fun _ => true) absent
  simpa only [countWhere_true, if_true] using counted

theorem length_assign_some {old : ν} (found : map.find key = some old) :
    (map.assign key value).entries.length = map.entries.length := by
  have counted : (map.assign key value).countWhere (fun _ => true) +
      weight (fun _ => true) (map.find key) = _ := countWhere_assign (fun _ => true)
  rw [found] at counted
  simpa only [countWhere_true, weight_some, if_true, Nat.add_right_cancel_iff] using counted

theorem length_erase_some (found : map.find key = some value) :
    (map.erase key).entries.length + 1 = map.entries.length := by
  have counted : (map.erase key).countWhere (fun _ => true) + _ = _ :=
    countWhere_erase_some (fun _ => true) found
  simpa only [countWhere_true, if_true] using counted

theorem countWhere_congr {first second : ν → Bool}
    (same : ∀ key value, map.find key = some value → first value = second value) :
    map.countWhere first = map.countWhere second := by
  apply List.countP_congr
  intro entry inside
  rw [same entry.1 entry.2 (find_eq_some.mpr inside)]

theorem countWhere_mapValues (change : ν → ν) :
    (map.mapValues change).countWhere test = map.countWhere (test ∘ change) := by
  unfold countWhere mapValues
  rw [List.countP_map]
  rfl

theorem countWhere_or {first second : ν → Bool}
    (apart : ∀ value, first value = true → second value = false) :
    map.countWhere (fun value => first value || second value) =
      map.countWhere first + map.countWhere second := by
  unfold countWhere
  induction map.entries with
  | nil => rfl
  | cons entry rest ih =>
    rw [List.countP_cons, List.countP_cons, List.countP_cons, ih]
    by_cases passes : first entry.2 = true
    · have either : (first entry.2 || second entry.2) = true := by rw [passes, Bool.true_or]
      have alone : ¬second entry.2 = true := by
        simp_all
      rw [if_pos either, if_pos passes, if_neg alone]
      omega
    · have same : (first entry.2 || second entry.2) = second entry.2 := by
        rw [(Bool.not_eq_true _).mp passes, Bool.false_or]
      simp only [same, if_neg passes]
      omega

theorem countWhere_pos {test : ν → Bool} (found : map.find key = some value)
    (passes : test value = true) : 0 < map.countWhere test :=
  List.countP_pos_iff.mpr ⟨(key, value), find_eq_some.mp found, passes⟩

theorem countWhere_le_length : map.countWhere test ≤ map.entries.length :=
  List.countP_le_length

end Counting

section Building

variable {map : OrdMap κ ν} {listed : List (κ × ν)}

def assignAll (map : OrdMap κ ν) (listed : List (κ × ν)) : OrdMap κ ν :=
  listed.foldl (fun map entry => map.assign entry.1 entry.2) map

theorem mem_assignAll {entry : κ × ν} (member : entry ∈ (map.assignAll listed).entries) :
    entry ∈ listed ∨ entry ∈ map.entries := by
  induction listed generalizing map with
  | nil => exact Or.inr member
  | cons first rest ih =>
    rcases ih member with later | early
    · exact Or.inl (List.mem_cons_of_mem first later)
    · rcases mem_assign early with new | old
      · exact Or.inl (new ▸ List.mem_cons_self)
      · exact Or.inr old

theorem mem_keys {key : κ} : key ∈ map.entries.map Prod.fst ↔ map.find key ≠ none := by
  constructor
  · intro member
    obtain ⟨entry, inMap, rfl⟩ := List.mem_map.mp member
    intro none
    exact find_eq_none.mp none entry inMap rfl
  · intro found
    obtain ⟨value, isValue⟩ := Option.ne_none_iff_exists'.mp found
    exact List.mem_map.mpr ⟨(key, value), find_eq_some.mp isValue, rfl⟩

theorem mem_keys_assign {key other : κ} {value : ν} :
    other ∈ (map.assign key value).entries.map Prod.fst ↔
      other = key ∨ other ∈ map.entries.map Prod.fst := by
  rw [mem_keys, mem_keys, find_assign]
  by_cases same : other = key <;> simp [same]

theorem mem_keys_assignAll {key : κ} :
    key ∈ (map.assignAll listed).entries.map Prod.fst ↔
      key ∈ listed.map Prod.fst ∨ key ∈ map.entries.map Prod.fst := by
  induction listed generalizing map with
  | nil => simp [assignAll]
  | cons first rest ih =>
    change key ∈ ((map.assign first.1 first.2).assignAll rest).entries.map Prod.fst ↔ _
    rw [ih, mem_keys_assign, List.map_cons, List.mem_cons, or_left_comm, or_assoc]

variable (listed)

theorem mem_keys_build {key : κ} :
    key ∈ ((empty : OrdMap κ ν).assignAll listed).entries.map Prod.fst ↔
      key ∈ listed.map Prod.fst := by
  rw [mem_keys_assignAll]
  exact or_iff_left (List.not_mem_nil (a := key))

theorem keys_build_perm :
    (((empty : OrdMap κ ν).assignAll listed).entries.map Prod.fst).Perm
      (listed.map Prod.fst).dedup := by
  rw [List.perm_ext_iff_of_nodup (keys_nodup _) (List.nodup_dedup _)]
  intro key
  rw [mem_keys_build, List.mem_dedup]

theorem length_build_eq_iff :
    ((empty : OrdMap κ ν).assignAll listed).entries.length = listed.length ↔
      (listed.map Prod.fst).Nodup := by
  have lengths := (keys_build_perm listed).length_eq
  rw [List.length_map] at lengths
  have listedLength : listed.length = (listed.map Prod.fst).length := (List.length_map _).symm
  rw [lengths, listedLength]
  constructor
  · intro same
    rw [← List.dedup_eq_self]
    exact (List.dedup_sublist _).eq_of_length same
  · intro distinct
    rw [distinct.dedup]

variable {listed}

theorem build_perm (distinct : (listed.map Prod.fst).Nodup) :
    ((empty : OrdMap κ ν).assignAll listed).entries.Perm listed := by
  rw [List.perm_ext_iff_of_nodup (keys_nodup _).of_map distinct.of_map]
  intro entry
  have inList {other : κ × ν}
      (member : other ∈ ((empty : OrdMap κ ν).assignAll listed).entries) : other ∈ listed :=
    (mem_assignAll member).resolve_right (List.not_mem_nil)
  constructor
  · exact inList
  · intro member
    have key := (mem_keys_build listed).mpr (List.mem_map_of_mem (f := Prod.fst) member)
    obtain ⟨other, inMap, sameKey⟩ := List.mem_map.mp key
    exact List.inj_on_of_nodup_map distinct (inList inMap) member sameKey ▸ inMap

end Building

end OrdMap

end DarkCore.Lib
