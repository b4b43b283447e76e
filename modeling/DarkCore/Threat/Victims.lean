/-
When the choice of the next victim is a good one. The loop of `selectNextVictim`
ends for every list. It chooses a unit that can be attacked, or nobody where
nobody can be, unless a unit that it has passed over is the only one, or the
victim that it keeps cannot be attacked.
-/

import DarkCore.Lib.Loops
import DarkCore.Threat.Selection

namespace DarkCore.Threat

open DarkCore.Lib

namespace ThreatManager

/-! ### The choice as a search -/

section

variable (world : World) (manager : ThreatManager)

def attackable (ref : Nat) : Prop := world.canBeAttacked (manager.unitOf ref) = true

def secondChoice (ref : Nat) : Bool := world.isSecondChoice (manager.unitOf ref)

/-- What a walk does at a reference that it does not pass over: it keeps the victim, it changes to
the reference, or it goes on. -/
def choose (victim : Option Nat) (ref : Nat) : Option Nat :=
  if world.canBeAttacked (manager.unitOf ref) then
    match victim with
    | none => some ref
    | some victim =>
      if victim = ref ∨ manager.threatOf ref ≤ 11 / 10 * manager.threatOf victim then some victim
      else if 13 / 10 * manager.threatOf victim < manager.threatOf ref ∨
          (11 / 10 * manager.threatOf victim < manager.threatOf ref ∧
            world.isWithinMeleeRange (manager.unitOf ref)) then
        some ref
      else none
  else none

def firstChoices (list : List Nat) : List Nat :=
  list.filter fun ref => !manager.secondChoice world ref

def endsInSecondChoice (list : List Nat) : Bool :=
  (list.getLast?.map (manager.secondChoice world)).getD false

end

variable {world : World} {manager : ThreatManager} {victim : Option Nat} {list : List Nat}

theorem scan_cons_of_considered {preferring : Bool} {ref : Nat} {rest : List Nat}
    (considered : (preferring && manager.secondChoice world ref) = false) :
    manager.scan world preferring victim (ref :: rest) =
      match manager.choose world victim ref with
      | some chosen => .found chosen
      | none => manager.scan world preferring victim rest := by
  rw [scan.eq_def]
  unfold secondChoice at considered
  dsimp only
  rw [considered, if_neg Bool.false_ne_true]
  unfold choose
  by_cases attacked : world.canBeAttacked (manager.unitOf ref) = true
  · grind
  · rw [if_neg attacked, if_neg attacked]

theorem scan_false (victim : Option Nat) (list : List Nat) :
    manager.scan world false victim list =
      match list.findSome? (manager.choose world victim) with
      | some chosen => .found chosen
      | none => .exhausted := by
  induction list with
  | nil => rfl
  | cons ref rest ih =>
    rw [scan_cons_of_considered (Bool.false_and _), List.findSome?_cons, ih]
    cases manager.choose world victim ref with
    | some chosen => rfl
    | none => rfl

theorem firstChoices_cons (ref : Nat) (rest : List Nat) :
    manager.firstChoices world (ref :: rest) =
      if manager.secondChoice world ref = true then manager.firstChoices world rest
      else ref :: manager.firstChoices world rest := by
  unfold firstChoices
  rw [List.filter_cons]
  cases manager.secondChoice world ref with
  | true | false => rfl

theorem endsInSecondChoice_cons {ref : Nat} {rest : List Nat} (more : rest ≠ []) :
    manager.endsInSecondChoice world (ref :: rest) = manager.endsInSecondChoice world rest := by
  unfold endsInSecondChoice
  rw [List.getLast?_cons_of_ne_nil more]

theorem scan_cons_of_passedOver {ref : Nat} {rest : List Nat}
    (second : manager.secondChoice world ref = true) (more : rest ≠ []) :
    manager.scan world true victim (ref :: rest) =
      manager.scan world true (if victim = some ref then none else victim) rest := by
  rw [scan.eq_def]
  unfold secondChoice at second
  dsimp only
  rw [second, Bool.true_and, if_pos rfl, if_neg more]

theorem scan_true (kept : ∀ ref, victim = some ref → manager.secondChoice world ref = true →
    ref ∉ list.dropLast) :
    manager.scan world true victim list =
      match (manager.firstChoices world list).findSome? (manager.choose world victim) with
      | some chosen => .found chosen
      | none => if manager.endsInSecondChoice world list then .again victim else .exhausted := by
  induction list with
  | nil => rfl
  | cons ref rest ih =>
    by_cases more : rest = []
    · subst more
      by_cases second : manager.secondChoice world ref = true
      · have isSecond := second
        unfold secondChoice at isSecond
        simp [scan, firstChoices, endsInSecondChoice, second, isSecond]
      · rw [Bool.not_eq_true] at second
        rw [scan_cons_of_considered (by simp [second])]
        simp only [firstChoices, endsInSecondChoice, List.filter_cons, second, Bool.not_false,
          if_true, List.filter_nil, List.findSome?_cons, List.findSome?_nil, scan,
          List.getLast?_singleton, Option.map_some, Option.getD_some, Bool.false_eq_true, if_false]
        cases manager.choose world victim ref with
        | some chosen => rfl
        | none => rfl
    · have later := ih fun other same second inside =>
        kept other same second (by
          rw [List.dropLast_cons_of_ne_nil more]
          exact List.mem_cons_of_mem _ inside)
      rw [firstChoices_cons, endsInSecondChoice_cons more]
      by_cases second : manager.secondChoice world ref = true
      · have other : victim ≠ some ref := by
          intro same
          apply kept ref same second
          rw [List.dropLast_cons_of_ne_nil more]
          exact List.mem_cons_self
        rw [scan_cons_of_passedOver second more, if_neg other, if_pos second, later]
      · rw [if_neg second, scan_cons_of_considered (by simp [second]), List.findSome?_cons, later]
        cases manager.choose world victim ref with
        | some chosen => rfl
        | none => rfl

theorem scan_true_of_passedOver {passed : Nat} {front back : List Nat} (apart : passed ∉ front)
    (second : manager.secondChoice world passed = true) (more : back ≠ []) :
    manager.scan world true (some passed) (front ++ passed :: back) =
      match (manager.firstChoices world front).findSome? (manager.choose world (some passed)) with
      | some chosen => .found chosen
      | none => manager.scan world true none back := by
  induction front with
  | nil =>
    rw [List.nil_append, scan_cons_of_passedOver second more, if_pos rfl]
    rfl
  | cons ref rest ih =>
    obtain ⟨other, later⟩ := not_or.mp fun inside => apart (List.mem_cons.mpr inside)
    have following : rest ++ passed :: back ≠ [] := by simp
    rw [List.cons_append, firstChoices_cons]
    by_cases isSecond : manager.secondChoice world ref = true
    · have different : some passed ≠ some ref := fun same => other (Option.some.inj same)
      rw [scan_cons_of_passedOver isSecond following, if_neg different, if_pos isSecond, ih later]
    · rw [if_neg isSecond, scan_cons_of_considered (by simp [isSecond]), List.findSome?_cons,
        ih later]
      cases manager.choose world (some passed) ref with
      | some chosen => rfl
      | none => rfl

/-! ### Who is compared with the victim -/

section

variable (world : World) (manager : ThreatManager) (victim : Option Nat) (list : List Nat)

def passesOver : Prop :=
  ∃ passed, victim = some passed ∧ manager.secondChoice world passed = true ∧ passed ∈ list.dropLast

instance : Decidable (manager.passesOver world victim list) :=
  match victim with
  | none => isFalse fun ⟨_, same, _⟩ => by cases same
  | some passed =>
    decidable_of_iff
      (manager.secondChoice world passed = true ∧ passed ∈ list.dropLast)
      ⟨fun both => ⟨passed, rfl, both⟩, fun ⟨_, same, both⟩ => by cases same; exact both⟩

/-- The references that the first walk compares with the victim: those before him where it passes
over him, or else all -/
def compared : List Nat :=
  if manager.passesOver world victim list then list.takeWhile fun ref => victim ≠ some ref else list

def uncompared : List Nat :=
  if manager.passesOver world victim list then (list.dropWhile fun ref => victim ≠ some ref).tail
  else []

def victimLeft : Option Nat := if manager.passesOver world victim list then none else victim

end

theorem cut_of_passesOver (passes : manager.passesOver world victim list) :
    ∃ passed front back, victim = some passed ∧ manager.secondChoice world passed = true ∧
      list = front ++ passed :: back ∧ passed ∉ front ∧ back ≠ [] ∧
      manager.compared world victim list = front ∧ manager.uncompared world victim list = back := by
  have kept := passes
  obtain ⟨passed, rfl, second, inside⟩ := passes
  obtain ⟨front, middle, cut, apart⟩ := List.eq_append_cons_of_mem inside
  have some : list ≠ [] := by
    grind
  have whole : list = front ++ passed :: (middle ++ [list.getLast some]) := by
    rw [← List.cons_append, ← List.append_assoc, ← cut, List.dropLast_append_getLast]
  have others : ∀ ref ∈ front, decide (Option.some passed ≠ Option.some ref) = true := by
    intro ref member
    rw [decide_eq_true_iff]
    rintro same
    cases same
    exact apart member
  refine ⟨passed, front, middle ++ [list.getLast some], rfl, second, whole, apart, by simp, ?_, ?_⟩
  · unfold compared
    rw [if_pos kept]
    generalize list.getLast some = last at whole
    rw [whole, List.takeWhile_append_of_pos others, List.takeWhile_cons_of_neg (by simp),
      List.append_nil]
  · unfold uncompared
    rw [if_pos kept]
    generalize list.getLast some = last at whole ⊢
    rw [whole, List.dropWhile_append_of_pos others, List.dropWhile_cons_of_neg (by simp),
      List.tail_cons]

/-- The choice, as a search through the references compared with the victim, those behind a victim
that is passed over, and at last through all of them where the last one is a second choice -/
theorem selectNextVictim_eq (world : World) (manager : ThreatManager) :
    manager.selectNextVictim world =
      ((manager.firstChoices world
          (manager.compared world manager.currentVictim manager.threatList)).findSome?
        (manager.choose world manager.currentVictim)).or
      (((manager.firstChoices world
          (manager.uncompared world manager.currentVictim manager.threatList)).findSome?
        (manager.choose world none)).or
      (if manager.endsInSecondChoice world manager.threatList = true then
        manager.threatList.findSome? (manager.choose world
          (manager.victimLeft world manager.currentVictim manager.threatList)) else none)) := by
  unfold selectNextVictim
  by_cases passes : manager.passesOver world manager.currentVictim manager.threatList
  · obtain ⟨passed, front, back, victim, second, whole, apart, more, isFront, isBack⟩ :=
      cut_of_passesOver passes
    have ends : manager.endsInSecondChoice world manager.threatList =
        manager.endsInSecondChoice world back := by
      grind [endsInSecondChoice]
    have left : manager.victimLeft world manager.currentVictim manager.threatList = none :=
      if_pos passes
    rw [isFront, isBack, ends, left, victim]
    conv_lhs => rw [whole]
    rw [scan_true_of_passedOver apart second more,
      scan_true (fun ref same => by cases same), ← whole]
    cases (manager.firstChoices world front).findSome? (manager.choose world (some passed)) with
    | some chosen => rfl
    | none =>
      cases (manager.firstChoices world back).findSome? (manager.choose world none) with
      | some chosen => rfl
      | none =>
        cases manager.endsInSecondChoice world back with
        | false => rfl
        | true =>
          simp only [if_true, scan_false, Option.none_or]
          cases manager.threatList.findSome? (manager.choose world none) with
          | some chosen => rfl
          | none => rfl
  · have kept : ∀ ref, manager.currentVictim = some ref →
        manager.secondChoice world ref = true → ref ∉ manager.threatList.dropLast :=
      fun ref same second inside => passes ⟨ref, same, second, inside⟩
    have left : manager.victimLeft world manager.currentVictim manager.threatList =
        manager.currentVictim := if_neg passes
    have all : manager.compared world manager.currentVictim manager.threatList =
        manager.threatList := if_neg passes
    have nobody : manager.uncompared world manager.currentVictim manager.threatList = [] :=
      if_neg passes
    rw [scan_true kept, left, all, nobody]
    cases (manager.firstChoices world manager.threatList).findSome?
        (manager.choose world manager.currentVictim) with
    | some chosen => rfl
    | none =>
      cases manager.endsInSecondChoice world manager.threatList with
      | false => rfl
      | true =>
        simp only [if_true, scan_false, Option.none_or]
        cases manager.threatList.findSome?
            (manager.choose world manager.currentVictim) with
        | some chosen => rfl
        | none => rfl

/-! ### Choices that can be attacked -/

def Serves (world : World) (manager : ThreatManager) (victim : Option Nat) (list : List Nat) :
    Prop :=
  ∃ ref ∈ list, ∃ chosen, manager.choose world victim ref = some chosen ∧
    manager.attackable world chosen

def Silent (world : World) (manager : ThreatManager) (victim : Option Nat) (list : List Nat) :
    Prop :=
  ∀ ref ∈ list, manager.choose world victim ref = none

theorem attackable_of_choose {ref chosen : Nat}
    (chooses : manager.choose world victim ref = some chosen) : manager.attackable world ref := by
  unfold choose at chooses
  split at chooses
  · assumption
  · cases chooses

theorem choose_cases {ref chosen : Nat}
    (chooses : manager.choose world victim ref = some chosen) :
    chosen = ref ∨
      victim = some chosen ∧ manager.threatOf ref ≤ 11 / 10 * manager.threatOf chosen := by
  unfold choose at chooses
  split at chooses
  · split at chooses
    · exact Or.inl (Option.some.inj chooses).symm
    · split at chooses
      · rename_i other keeps
        cases chooses
        rcases keeps with same | low
        · exact Or.inl same
        · exact Or.inr ⟨rfl, low⟩
      · simp_all
  · cases chooses

theorem choose_of_low {ref kept chosen : Nat}
    (low : manager.threatOf ref ≤ 11 / 10 * manager.threatOf kept)
    (chooses : manager.choose world (some kept) ref = some chosen) : chosen = kept := by
  unfold choose at chooses
  split at chooses
  · simp_all
  · cases chooses

/-- In a list in order the first reference that makes the creature choose is a good one if any is:
those that outdo the victim come before those for which he is kept. -/
theorem serves_iff (inOrder : list.Pairwise fun first second =>
      manager.threatOf second ≤ manager.threatOf first) :
    Serves world manager victim list ↔
      ∃ chosen, list.findSome? (manager.choose world victim) = some chosen ∧
        manager.attackable world chosen := by
  induction list with
  | nil => simp [Serves]
  | cons ref rest ih =>
    obtain ⟨ahead, later⟩ := List.pairwise_cons.mp inOrder
    rw [List.findSome?_cons]
    cases first : manager.choose world victim ref with
    | none =>
      rw [← ih later]
      constructor
      · rintro ⟨other, member, chosen, chooses, good⟩
        rcases List.mem_cons.mp member with same | inside
        · simp_all
        · exact ⟨other, inside, chosen, chooses, good⟩
      · rintro ⟨other, member, result⟩
        exact ⟨other, List.mem_cons_of_mem _ member, result⟩
    | some chosen =>
      constructor
      · rintro ⟨other, member, better, chooses, good⟩
        refine ⟨chosen, rfl, ?_⟩
        rcases List.mem_cons.mp member with same | inside
        · simp_all
        · rcases choose_cases first with same | ⟨kept, low⟩
          · rw [same]
            exact attackable_of_choose first
          · rw [kept] at chooses
            rw [← choose_of_low ((ahead other inside).trans low) chooses]
            exact good
      · rintro ⟨same, isSame, good⟩
        cases isSame
        exact ⟨ref, List.mem_cons_self, chosen, first, good⟩

theorem silent_iff :
    Silent world manager victim list ↔ list.findSome? (manager.choose world victim) = none :=
  List.findSome?_eq_none_iff.symm

theorem silent_of_none (none : ∀ ref ∈ list, ¬ manager.attackable world ref) :
    Silent world manager victim list := by
  intro ref member
  cases chooses : manager.choose world victim ref with
  | none => rfl
  | some chosen => exact absurd (attackable_of_choose chooses) (none ref member)

theorem compared_sublist : (manager.compared world victim list).Sublist list := by
  unfold compared
  split
  · exact List.takeWhile_sublist _
  · exact List.Sublist.refl _

theorem uncompared_sublist : (manager.uncompared world victim list).Sublist list := by
  unfold uncompared
  split
  · exact (List.tail_sublist _).trans (List.dropWhile_sublist _)
  · exact List.nil_sublist _

theorem firstChoices_sublist : (manager.firstChoices world list).Sublist list :=
  List.filter_sublist

/-! ### The loop -/

/-- The state of the loop: the references from the iterator on, `noPriorityTargetFound`, the victim
to compare with, and the reference that was found -/
structure Walk where
  rest : List Nat
  noPriorityTargetFound : Bool
  currentVictim : Option Nat
  found : Option Nat

def walkRound (world : World) (manager : ThreatManager) (walk : Walk) : Option (Walk × Bool) :=
  match walk.rest with
  | [] => none
  | ref :: rest =>
    if !walk.noPriorityTargetFound && manager.secondChoice world ref then
      if rest ≠ [] then
        some ({ walk with
          rest := rest
          currentVictim :=
            if walk.currentVictim = some ref then none else walk.currentVictim }, true)
      else
        some ({ walk with rest := manager.threatList, noPriorityTargetFound := true }, true)
    else
      match manager.choose world walk.currentVictim ref with
      | some chosen => some ({ walk with found := some chosen }, false)
      | none => some ({ walk with rest := rest }, true)

/-- The loop of `selectNextVictim` ends with this choice. -/
def Selects (world : World) (manager : ThreatManager) (found : Option Nat) : Prop :=
  ∃ last, Loop (walkRound world manager)
    ⟨manager.threatList, false, manager.currentVictim, none⟩ last ∧ last.found = found

/-- The loop ends as a scan says; one that is to be made again goes on as a walk without
preferences. -/
def EndsAs (world : World) (manager : ThreatManager) (walk : Walk) : Scan → Prop
  | .found ref => ∃ last, Loop (walkRound world manager) walk last ∧ last.found = some ref
  | .exhausted => ∃ last, Loop (walkRound world manager) walk last ∧ last.found = none
  | .again left =>
    ∀ last, Loop (walkRound world manager) ⟨manager.threatList, true, left, none⟩ last →
      Loop (walkRound world manager) walk last

theorem EndsAs.before {walk next : Walk} {result : Scan}
    (more : walkRound world manager walk = some (next, true))
    (ends : EndsAs world manager next result) : EndsAs world manager walk result := by
  cases result with
  | found ref =>
    obtain ⟨last, loop, isFound⟩ := ends
    exact ⟨last, Loop.again more loop, isFound⟩
  | exhausted =>
    obtain ⟨last, loop, isFound⟩ := ends
    exact ⟨last, Loop.again more loop, isFound⟩
  | again left => exact fun last again => Loop.again more (ends last again)

theorem endsAs_scan (noPriority : Bool) (rest : List Nat) (victim : Option Nat) :
    EndsAs world manager ⟨rest, noPriority, victim, none⟩
      (manager.scan world (!noPriority) victim rest) := by
  induction rest generalizing victim with
  | nil => exact ⟨_, Loop.done rfl, rfl⟩
  | cons ref rest ih =>
    by_cases passed : (!noPriority && manager.secondChoice world ref) = true
    · obtain ⟨preferring, second⟩ := Bool.and_eq_true_iff.mp passed
      by_cases more : rest = []
      · have again : manager.scan world (!noPriority) victim (ref :: rest) = .again victim := by
          unfold secondChoice at second
          simp [scan, preferring, second, more]
        rw [again]
        intro last ends
        refine Loop.again ?_ ends
        simp only [walkRound, passed, more, if_true, ne_eq, not_true_eq_false, if_false]
      · have scanned : manager.scan world (!noPriority) victim (ref :: rest) =
            manager.scan world (!noPriority) (if victim = some ref then none else victim) rest := by
          rw [preferring]
          exact scan_cons_of_passedOver second more
        rw [scanned]
        refine (ih _).before ?_
        simp only [walkRound, passed, if_true, ne_eq, more, not_false_eq_true]
    · rw [Bool.not_eq_true] at passed
      have scanned : manager.scan world (!noPriority) victim (ref :: rest) = _ :=
        scan_cons_of_considered passed
      rw [scanned]
      cases chooses : manager.choose world victim ref with
      | some chosen =>
        refine ⟨⟨ref :: rest, noPriority, victim, some chosen⟩, Loop.broken ?_, rfl⟩
        simp only [walkRound, passed, chooses, Bool.false_eq_true, if_false]
      | none =>
        refine (ih victim).before ?_
        simp only [walkRound, passed, chooses, Bool.false_eq_true, if_false]

/-- The loop ends, and `selectNextVictim` is what it ends with. -/
theorem selects_iff (world : World) (manager : ThreatManager) (found : Option Nat) :
    Selects world manager found ↔ found = manager.selectNextVictim world := by
  have ends : Selects world manager (manager.selectNextVictim world) := by
    have first : EndsAs world manager _ (manager.scan world true _ _) :=
      endsAs_scan false manager.threatList manager.currentVictim
    unfold selectNextVictim
    revert first
    cases manager.scan world true manager.currentVictim manager.threatList with
    | found chosen => exact id
    | exhausted => exact id
    | again left =>
      intro first
      have second : EndsAs world manager _ (manager.scan world false _ _) :=
        endsAs_scan true manager.threatList left
      dsimp only
      rw [scan_false] at second ⊢
      revert second
      cases manager.threatList.findSome? (manager.choose world left) with
      | some chosen =>
        rintro ⟨last, again, isFound⟩
        exact ⟨last, first last again, isFound⟩
      | none =>
        rintro ⟨last, again, isFound⟩
        exact ⟨last, first last again, isFound⟩
  constructor
  · rintro ⟨last, loop, rfl⟩
    obtain ⟨other, otherLoop, isFound⟩ := ends
    rw [loop.unique otherLoop]
    exact isFound
  · simp_all

/-! ### When the choice is good -/

/-- The loop ends with nobody exactly where nobody in the list can be attacked, and otherwise with
somebody who can be. -/
def SelectsAttackable (world : World) (manager : ThreatManager) : Prop :=
  ∃ found, (∀ other, Selects world manager other ↔ other = found) ∧
    (found = none ↔ ∀ ref ∈ manager.threatList, ¬ manager.attackable world ref) ∧
    ∀ chosen, found = some chosen → manager.attackable world chosen

/-- Nobody can be attacked; or a first choice compared with the victim serves; or none of these
makes the creature choose, and then a first choice behind a victim that is passed over serves, or
the last reference is a second choice and anybody serves. -/
def Provided (world : World) (manager : ThreatManager) : Prop :=
  let compared := manager.compared world manager.currentVictim manager.threatList
  let uncompared := manager.uncompared world manager.currentVictim manager.threatList
  (∀ ref ∈ manager.threatList, ¬ manager.attackable world ref) ∨
    Serves world manager manager.currentVictim (manager.firstChoices world compared) ∨
    (Silent world manager manager.currentVictim (manager.firstChoices world compared) ∧
      (Serves world manager none (manager.firstChoices world uncompared) ∨
        manager.endsInSecondChoice world manager.threatList = true ∧ Serves world manager
            (manager.victimLeft world manager.currentVictim manager.threatList) manager.threatList))

theorem good_or {first second : Option Nat} :
    (∃ chosen, first.or second = some chosen ∧ manager.attackable world chosen) ↔
      (∃ chosen, first = some chosen ∧ manager.attackable world chosen) ∨
        first = none ∧ ∃ chosen, second = some chosen ∧ manager.attackable world chosen := by
  cases first with
  | some chosen => simp
  | none => simp

theorem good_of_found_none {chosen : Nat}
    (found : list.findSome? (manager.choose world none) = some chosen) :
    manager.attackable world chosen := by
  obtain ⟨ref, -, chooses⟩ := List.exists_of_findSome?_eq_some found
  rcases choose_cases chooses with same | ⟨wrong, -⟩
  · rw [same]
    exact attackable_of_choose chooses
  · cases wrong

theorem selectNextVictim_good_iff (inOrder : manager.Sorted) :
    (∃ chosen, manager.selectNextVictim world = some chosen ∧ manager.attackable world chosen) ↔
      Serves world manager manager.currentVictim (manager.firstChoices world
        (manager.compared world manager.currentVictim manager.threatList)) ∨
      Silent world manager manager.currentVictim (manager.firstChoices world
        (manager.compared world manager.currentVictim manager.threatList)) ∧
        (Serves world manager none (manager.firstChoices world
          (manager.uncompared world manager.currentVictim manager.threatList)) ∨
        manager.endsInSecondChoice world manager.threatList = true ∧ Serves world manager
            (manager.victimLeft world manager.currentVictim manager.threatList)
            manager.threatList) := by
  rw [selectNextVictim_eq, good_or, serves_iff (inOrder.sublist
      (firstChoices_sublist.trans compared_sublist)), silent_iff, good_or,
    serves_iff (inOrder.sublist (firstChoices_sublist.trans uncompared_sublist)),
    serves_iff inOrder]
  refine or_congr_right (and_congr_right fun _ => ?_)
  cases found : (manager.firstChoices world (manager.uncompared world manager.currentVictim
      manager.threatList)).findSome? (manager.choose world none) with
  | some chosen =>
    have good := good_of_found_none found
    simp [good]
  | none =>
    grind

theorem selectNextVictim_eq_none
    (nobody : ∀ ref ∈ manager.threatList, ¬ manager.attackable world ref) :
    manager.selectNextVictim world = none := by
  have silent : ∀ (victim : Option Nat) (list : List Nat), list.Sublist manager.threatList →
      list.findSome? (manager.choose world victim) = none := fun victim list part =>
    silent_iff.mp (silent_of_none fun ref member => nobody ref (part.subset member))
  rw [selectNextVictim_eq, silent _ _ (firstChoices_sublist.trans compared_sublist),
    silent _ _ (firstChoices_sublist.trans uncompared_sublist), silent _ _ (List.Sublist.refl _),
    ite_self]
  rfl

def twoHaters (currentVictim : Option Nat) : ThreatManager where
  owner := 9
  refs := fun ref => ⟨ref, if ref = 0 then 10 else 5, 0, true, true⟩
  nextRef := 2
  threatList := [0, 1]
  offlineThreatList := []
  currentVictim := currentVictim
  dirty := false

theorem twoHaters_sorted (currentVictim : Option Nat) : (twoHaters currentVictim).Sorted := by
  norm_num [Sorted, twoHaters, threatOf]

end ThreatManager

end DarkCore.Threat
