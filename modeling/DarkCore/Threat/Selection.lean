/-
The next victim of a creature. The list is sorted before the choice only if it
is marked, and not every change of its order marks it. The choice is the one
from a sorted list as long as the references that are preferred to the victim
stand in order.
-/

import DarkCore.Lib.SortedFront
import DarkCore.Threat.Lists
import Mathlib.Data.List.Permutation
import Mathlib.Tactic.Linarith

namespace DarkCore.Threat

open DarkCore.Lib

namespace ThreatManager

variable {manager before after : ThreatManager} {world : World}

theorem scan_congr (refs : after.refs = before.refs) (preferring : Bool) (list : List Nat) :
    ∀ currentVictim : Option Nat,
      after.scan world preferring currentVictim list =
        before.scan world preferring currentVictim list := by
  have units (ref : Nat) : after.unitOf ref = before.unitOf ref := by
    grind [unitOf]
  have threats (ref : Nat) : after.threatOf ref = before.threatOf ref := by
    grind [threatOf]
  induction list with
  | nil => exact fun _ => rfl
  | cons head rest ih =>
    intro currentVictim
    unfold scan
    simp only [units, threats, ih]

theorem selectNextVictim_congr (refs : after.refs = before.refs)
    (lists : after.threatList = before.threatList)
    (victims : after.currentVictim = before.currentVictim) :
    after.selectNextVictim world = before.selectNextVictim world := by
  unfold selectNextVictim
  simp only [scan_congr refs, lists, victims]

def sorted (manager : ThreatManager) : ThreatManager :=
  { manager with
    threatList := manager.threatList.insertionSort fun first second =>
      manager.threatOf second ≤ manager.threatOf first }

/-- The list is in the order that `ThreatOrderPred` makes. -/
def Sorted (manager : ThreatManager) : Prop :=
  manager.threatList.Pairwise fun first second => manager.threatOf second ≤ manager.threatOf first

def SortedAboveVictim (manager : ThreatManager) : Prop :=
  manager.threatList.Pairwise fun first second =>
    manager.threatOf second ≤ manager.threatOf first ∨
      ∃ victim, manager.currentVictim = some victim ∧
        manager.threatOf second ≤ 11 / 10 * manager.threatOf victim

def NoSecondChoice (world : World) (manager : ThreatManager) : Prop :=
  ∀ ref ∈ manager.threatList, world.isSecondChoice (manager.unitOf ref) = false

theorem sorted_of_sorted (inOrder : manager.Sorted) : manager.sorted = manager := by
  unfold sorted
  rw [List.Pairwise.insertionSort_eq inOrder]

theorem sorted_perm (manager : ThreatManager) :
    manager.sorted.threatList.Perm manager.threatList :=
  List.perm_insertionSort _ _

variable {currentVictim : Option Nat} {list : List Nat}

theorem scan_cons_of_first_choice {ref : Nat} {rest : List Nat} (preferring : Bool)
    (first : world.isSecondChoice (manager.unitOf ref) = false) :
    manager.scan world preferring currentVictim (ref :: rest) =
      if world.canBeAttacked (manager.unitOf ref) then
        match currentVictim with
        | none => .found ref
        | some victim =>
          if victim = ref ∨ manager.threatOf ref ≤ 11 / 10 * manager.threatOf victim then
            .found victim
          else if 13 / 10 * manager.threatOf victim < manager.threatOf ref ∨
              (11 / 10 * manager.threatOf victim < manager.threatOf ref ∧
                world.isWithinMeleeRange (manager.unitOf ref)) then
            .found ref
          else manager.scan world preferring currentVictim rest
      else manager.scan world preferring currentVictim rest := by
  rw [scan.eq_def]
  dsimp only
  rw [first, Bool.and_false]
  exact if_neg Bool.false_ne_true

theorem scan_ne_again (preferring : Bool)
    (first : ∀ ref ∈ list, world.isSecondChoice (manager.unitOf ref) = false)
    (victim : Option Nat) :
    manager.scan world preferring currentVictim list ≠ .again victim := by
  induction list with
  | nil => exact fun wrong => nomatch wrong
  | cons head rest ih =>
    have later := ih fun ref member => first ref (List.mem_cons_of_mem _ member)
    rw [scan_cons_of_first_choice preferring (first head List.mem_cons_self)]
    split
    · grind
    · exact later

theorem scan_append (preferring : Bool) (front : List Nat)
    (first : ∀ ref ∈ front, world.isSecondChoice (manager.unitOf ref) = false) {back : List Nat}
    (same : manager.scan world preferring currentVictim list =
      manager.scan world preferring currentVictim back) :
    manager.scan world preferring currentVictim (front ++ list) =
      manager.scan world preferring currentVictim (front ++ back) := by
  induction front with
  | nil => exact same
  | cons head rest ih =>
    have later := ih fun ref member => first ref (List.mem_cons_of_mem _ member)
    have choice := first head List.mem_cons_self
    rw [List.cons_append, List.cons_append, scan_cons_of_first_choice preferring choice,
      scan_cons_of_first_choice preferring choice, later]

theorem scan_of_le_victim (preferring : Bool) {victim : Nat}
    (first : ∀ ref ∈ list, world.isSecondChoice (manager.unitOf ref) = false)
    (low : ∀ ref ∈ list, manager.threatOf ref ≤ 11 / 10 * manager.threatOf victim) :
    manager.scan world preferring (some victim) list =
      if ∃ ref ∈ list, world.canBeAttacked (manager.unitOf ref) then .found victim
      else .exhausted := by
  induction list with
  | nil =>
    rfl
  | cons head rest ih =>
    have later := ih (fun ref member => first ref (List.mem_cons_of_mem _ member))
      (fun ref member => low ref (List.mem_cons_of_mem _ member))
    rw [scan_cons_of_first_choice preferring (first head List.mem_cons_self)]
    by_cases attacked : world.canBeAttacked (manager.unitOf head) = true
    · simp_all
    · rw [if_neg attacked, later]
      refine if_congr ?_ rfl rfl
      constructor
      · simp_all
      · rintro ⟨ref, member, here⟩
        rcases List.mem_cons.mp member with same | member
        · simp_all
        · exact ⟨ref, member, here⟩

theorem threat_total (manager : ThreatManager) : Std.Total fun first second =>
    manager.threatOf second ≤ manager.threatOf first :=
  ⟨fun _ _ => le_total _ _⟩

theorem threat_trans (manager : ThreatManager) : IsTrans Nat fun first second =>
    manager.threatOf second ≤ manager.threatOf first :=
  ⟨fun _ _ _ before after => after.trans before⟩

/-- The references above the victim are walked in the same order, and behind them the walk ends
with the victim as soon as anybody can be attacked. -/
theorem scan_sorted {victim : Nat} (chosen : manager.currentVictim = some victim)
    (first : NoSecondChoice world manager) (inOrder : manager.SortedAboveVictim)
    (preferring : Bool) :
    manager.scan world preferring (some victim) manager.threatList =
      manager.scan world preferring (some victim) manager.sorted.threatList := by
  have total := manager.threat_total
  have transitive := manager.threat_trans
  let high (ref : Nat) : Bool := decide (11 / 10 * manager.threatOf victim < manager.threatOf ref)
  have ordered : manager.threatList.Pairwise fun before after =>
      high after = true → manager.threatOf after ≤ manager.threatOf before := by
    refine inOrder.imp ?_
    rintro before after (placed | ⟨other, same, low⟩) above
    · exact placed
    · grind
  have upward (before after : Nat) (placed : manager.threatOf after ≤ manager.threatOf before)
      (above : high after = true) : high before = true :=
    decide_eq_true (lt_of_lt_of_le (of_decide_eq_true above) placed)
  have split := filter_append_filter_not (ordered.imp fun {before after} placed above =>
    upward before after (placed above) above)
  have split_sorted : manager.sorted.threatList = _ := insertionSort_eq_append upward ordered
  have members : ∀ ref, ref ∈ manager.sorted.threatList ↔ ref ∈ manager.threatList :=
    fun ref => manager.sorted_perm.mem_iff
  have low {list : List Nat} :
      ∀ ref ∈ list.filter (fun element => !high element),
        manager.threatOf ref ≤ 11 / 10 * manager.threatOf victim := by
    intro ref member
    have below := (List.mem_filter.mp member).2
    exact not_lt.mp (of_decide_eq_false (Bool.not_eq_true' _ |>.mp below))
  have back : manager.scan world preferring (some victim)
        (manager.threatList.filter fun element => !high element) =
      manager.scan world preferring (some victim)
        (manager.sorted.threatList.filter fun element => !high element) := by
    rw [scan_of_le_victim preferring (fun ref member => first ref (List.mem_filter.mp member).1) low,
      scan_of_le_victim preferring
        (fun ref member => first ref ((members ref).mp (List.mem_filter.mp member).1)) low]
    refine if_congr (exists_congr fun ref => and_congr_left fun _ => ?_) rfl rfl
    rw [List.mem_filter, List.mem_filter, members]
  calc manager.scan world preferring (some victim) manager.threatList
      = manager.scan world preferring (some victim) (manager.threatList.filter high ++
          manager.threatList.filter fun element => !high element) := by rw [split]
    _ = manager.scan world preferring (some victim) (manager.threatList.filter high ++
          manager.sorted.threatList.filter fun element => !high element) :=
        scan_append preferring _ (fun ref member => first ref (List.mem_filter.mp member).1) back
    _ = manager.scan world preferring (some victim) manager.sorted.threatList := by
        simp [split_sorted]

theorem selectNextVictim_sorted (first : NoSecondChoice world manager)
    (inOrder : manager.SortedAboveVictim) :
    manager.selectNextVictim world = manager.sorted.selectNextVictim world := by
  cases chosen : manager.currentVictim with
  | none =>
    have placed : manager.Sorted := by
      refine inOrder.imp ?_
      rintro before after (placed | ⟨other, same, -⟩)
      · exact placed
      · simp_all
    rw [sorted_of_sorted placed]
  | some victim =>
    have same := scan_sorted chosen first inOrder true
    have victims : manager.sorted.currentVictim = some victim := chosen
    have refs : manager.sorted.refs = manager.refs := rfl
    have walks (preferring : Bool) (list : List Nat) (other : Option Nat) :
        manager.sorted.scan world preferring other list =
          manager.scan world preferring other list := scan_congr refs preferring list other
    unfold selectNextVictim
    rw [walks, victims, chosen, ← same]
    cases walked : manager.scan world true (some victim) manager.threatList with
    | found ref => rfl
    | exhausted => rfl
    | again other => exact absurd walked (scan_ne_again true first other)

def SelectsAsSorted (manager : ThreatManager) : World × Call → Prop
  | (world, .getHostilTarget) =>
    (manager.getHostilTarget world).1 =
      (manager.sorted.selectNextVictim world).map manager.unitOf
  | _ => True

/-- The list is sorted by the call, or is in order as far as that matters. Other targets can be
preferred to the victim only in a list that is sorted. -/
def SortedInTime (manager : ThreatManager) : World × Call → Prop
  | (world, .getHostilTarget) =>
    manager.dirty = true ∨ manager.Sorted ∨
      NoSecondChoice world manager ∧ manager.SortedAboveVictim
  | _ => True

theorem update_of_dirty (dirty : manager.dirty = true) :
    manager.update.threatList = manager.sorted.threatList := by
  unfold update sorted
  by_cases many : 1 < manager.threatList.length
  · rw [if_pos ⟨dirty, many⟩]
  · rw [if_neg fun both => many both.2]
    apply (List.Pairwise.insertionSort_eq _).symm
    match rows : manager.threatList with
    | [] => exact List.Pairwise.nil
    | [ref] => exact List.pairwise_singleton _ ref
    | _ :: _ :: rest =>
      simp_all

theorem update_of_clean (clean : manager.dirty = false) :
    manager.update.threatList = manager.threatList := by
  unfold update
  rw [if_neg]
  rintro ⟨dirty, -⟩
  rw [clean] at dirty
  exact Bool.false_ne_true dirty

theorem selectsAsSorted_iff :
    manager.SelectsAsSorted (world, .getHostilTarget) ↔
      (manager.update.selectNextVictim world).map manager.unitOf =
        (manager.sorted.selectNextVictim world).map manager.unitOf := by
  rfl

theorem selectsAsSorted_of_sortedInTime (call : World × Call)
    (inTime : manager.SortedInTime call) : manager.SelectsAsSorted call := by
  obtain ⟨world, call⟩ := call
  cases call with
  | getHostilTarget =>
    apply congrArg (Option.map manager.unitOf)
    rcases inTime with dirty | placed
    · exact selectNextVictim_congr rfl (update_of_dirty dirty) rfl
    · by_cases dirty : manager.dirty = true
      · exact selectNextVictim_congr rfl (update_of_dirty dirty) rfl
      · have clean := update_of_clean (Bool.not_eq_true _ |>.mp dirty)
        have same : manager.update.selectNextVictim world = manager.selectNextVictim world :=
          selectNextVictim_congr rfl clean rfl
        rw [same]
        rcases placed with placed | ⟨first, inOrder⟩
        · rw [sorted_of_sorted placed]
        · exact selectNextVictim_sorted first inOrder
  | _ => exact trivial

def openGround : World where
  isAlive := fun _ => true
  isPlayer := fun _ => true
  isGameMaster := fun _ => false
  isInFlight := fun _ => false
  isInAccessiblePlace := fun _ => true
  isWithinCombatRange := fun _ => true
  charmersOrOwners := fun _ => []
  nested := fun _ _ _ wrong => absurd wrong.symm (List.cons_ne_nil _ _)
  isImmunedToDamage := fun _ => false
  hasBreakableAura := fun _ => false
  canBeAttacked := fun _ => true
  isWithinMeleeRange := fun _ => true

def onlyAttackable (units : List Nat) : World :=
  { openGround with canBeAttacked := fun unit => decide (unit ∈ units) }

/-- As long as the list is sorted in time, the unit returned is always the one from the sorted
list. -/
theorem along_selectsAsSorted (owner : Nat) (calls : List (World × Call))
    (inTime : Along next SortedInTime (initial owner) calls) :
    Along next SelectsAsSorted (initial owner) calls := by
  have kept : ∀ manager call, True → SortedInTime manager call → True := fun _ _ _ _ => trivial
  exact along_of_step kept
    (fun _ call _ inTime => selectsAsSorted_of_sortedInTime call inTime) trivial inTime

theorem along_selectsAsSorted_first :
    Along next SelectsAsSorted (initial 0)
      [(openGround, .addThreat 1 100 0 none), (openGround, .addThreat 2 120 0 none),
        (openGround, .getHostilTarget)] :=
  along_selectsAsSorted 0 _ ⟨trivial, trivial, Or.inl (by decide +kernel), trivial⟩

/-- Two units out of reach hate more than the victim does; the first of them is soothed, and hides
the second from the creature once both come near. -/
theorem not_always_selectsAsSorted :
    ¬ Along next SelectsAsSorted (initial 0)
      [(openGround, .addThreat 1 100 0 none), (openGround, .getHostilTarget),
        (openGround, .addThreat 2 120 0 none), (openGround, .addThreat 3 115 0 none),
        ({ openGround with isWithinMeleeRange := fun _ => false }, .getHostilTarget),
        (openGround, .modifyThreatPercent 2 (-50)), (openGround, .getHostilTarget)] := by
  rintro ⟨-, -, -, -, -, -, last, -⟩
  rw [selectsAsSorted_iff] at last
  revert last
  decide +kernel

end ThreatManager

end DarkCore.Threat
