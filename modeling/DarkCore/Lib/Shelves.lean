/-
Families of lists in which every element stands once at most. An element that
stands nowhere can be put in, one can be taken out, and one can be moved from a
list to another.
-/

import Mathlib.Data.List.Nodup

namespace DarkCore.Lib

variable {ι α : Type*}

structure Apart (lists : ι → List α) : Prop where
  nodup : ∀ place, (lists place).Nodup
  unique : ∀ element place other, element ∈ lists place → element ∈ lists other → place = other

variable [DecidableEq ι] {lists : ι → List α} {place source target : ι} {element : α}

theorem mem_update {list : List α} {other : ι} {member : α} :
    member ∈ Function.update lists place list other ↔
      (other = place ∧ member ∈ list) ∨ (other ≠ place ∧ member ∈ lists other) := by
  by_cases same : other = place <;> simp_all

namespace Apart

theorem update (apart : Apart lists) {list : List α} (nodup : list.Nodup)
    (elsewhere : ∀ member ∈ list, ∀ other, member ∈ lists other → other = place) :
    Apart (Function.update lists place list) := by
  constructor
  · intro other
    by_cases same : other = place
    · simp_all
    · rw [Function.update_of_ne same]
      exact apart.nodup other
  · intro member first second inFirst inSecond
    rcases mem_update.mp inFirst with ⟨first_eq, new⟩ | ⟨-, old⟩
    · rcases mem_update.mp inSecond with ⟨second_eq, -⟩ | ⟨different, stands⟩
      · rw [first_eq, second_eq]
      · exact absurd (elsewhere member new second stands) different
    · rcases mem_update.mp inSecond with ⟨second_eq, new⟩ | ⟨-, stands⟩
      · grind
      · exact apart.unique member first second old stands

theorem sublist (apart : Apart lists) {list : List α} (shorter : list.Sublist (lists place)) :
    Apart (Function.update lists place list) := by
  apply apart.update ((apart.nodup place).sublist shorter)
  intro member inside other stands
  exact apart.unique member other place stands (shorter.subset inside)

theorem append (apart : Apart lists) (fresh : ∀ other, element ∉ lists other) :
    Apart (Function.update lists place (lists place ++ [element])) := by
  apply apart.update
  · rw [List.nodup_append_comm]
    exact List.nodup_cons.mpr ⟨fresh place, apart.nodup place⟩
  · intro member inside other stands
    rcases List.mem_append.mp inside with old | new
    · exact apart.unique member other place stands old
    · simp_all

variable [DecidableEq α]

theorem mem_erase_update (apart : Apart lists) {member : α} {other : ι} :
    member ∈ Function.update lists place ((lists place).erase element) other ↔
      member ∈ lists other ∧ ¬(other = place ∧ member = element) := by
  rw [mem_update, (apart.nodup place).mem_erase_iff]
  constructor <;> grind

def move (lists : ι → List α) (element : α) (source target : ι) : ι → List α :=
  let lists := Function.update lists target (element :: lists target)
  Function.update lists source ((lists source).erase element)

theorem mem_move (apart : Apart lists) (stands : element ∈ lists source)
    (different : source ≠ target) {member : α} {other : ι} :
    member ∈ move lists element source target other ↔
      (member = element ∧ other = target) ∨ (member ≠ element ∧ member ∈ lists other) := by
  have notTarget : element ∉ lists target :=
    fun inside => different (apart.unique element source target stands inside)
  unfold move
  rw [Function.update_of_ne different, mem_update, mem_update,
    (apart.nodup source).mem_erase_iff, List.mem_cons]
  constructor
  · rintro (⟨here, apartFrom, inside⟩ | ⟨there, ⟨atTarget, new | inside⟩ | ⟨-, inside⟩⟩)
    · exact Or.inr ⟨apartFrom, here ▸ inside⟩
    · exact Or.inl ⟨new, atTarget⟩
    · grind
    · refine Or.inr ⟨fun equal => there ?_, inside⟩
      rw [equal] at inside
      exact apart.unique element other source inside stands
  · grind

theorem moved (apart : Apart lists) (stands : element ∈ lists source)
    (different : source ≠ target) : Apart (move lists element source target) := by
  have notTarget : element ∉ lists target :=
    fun inside => different (apart.unique element source target stands inside)
  constructor
  · intro other
    unfold move
    rw [Function.update_of_ne different]
    by_cases here : other = source
    · rw [here, Function.update_self]
      exact (apart.nodup source).erase element
    · rw [Function.update_of_ne here]
      by_cases atTarget : other = target
      · rw [atTarget, Function.update_self]
        exact List.nodup_cons.mpr ⟨notTarget, apart.nodup target⟩
      · rw [Function.update_of_ne atTarget]
        exact apart.nodup other
  · intro member first second inFirst inSecond
    rcases (apart.mem_move stands different).mp inFirst with ⟨same, atTarget⟩ | ⟨apartFrom, old⟩
    · rcases (apart.mem_move stands different).mp inSecond with ⟨-, too⟩ | ⟨apartFrom, -⟩
      · rw [atTarget, too]
      · exact absurd same apartFrom
    · rcases (apart.mem_move stands different).mp inSecond with ⟨same, -⟩ | ⟨-, too⟩
      · exact absurd same apartFrom
      · exact apart.unique member first second old too

end Apart

end DarkCore.Lib
