/-
The two lists of a threat manager. References move between them while threat
is added, and the owner of a hated unit can get a reference at the same time;
the lists stay consistent all the same.
-/

import DarkCore.Lib.Runs
import DarkCore.Threat.Manager
import Mathlib.Data.List.Perm.Basic

namespace DarkCore.Threat

open DarkCore.Lib

namespace ThreatManager

variable {manager before middle after : ThreatManager} {world : World}

def listed (manager : ThreatManager) : List Nat :=
  manager.threatList ++ manager.offlineThreatList

/-- Every unit has one reference, which is in the list that its status tells, and the victim is one
of those online. -/
structure Consistent (manager : ThreatManager) : Prop where
  distinct : (manager.listed.map manager.unitOf).Nodup
  online : ∀ ref ∈ manager.listed, ref ∈ manager.threatList ↔ (manager.refs ref).online = true
  victim : ∀ ref, manager.currentVictim = some ref → ref ∈ manager.threatList
  made : ∀ ref ∈ manager.listed, ref < manager.nextRef

structure Extends (before after : ThreatManager) : Prop where
  consistent : Consistent after
  kept : ∀ ref ∈ before.listed, ref ∈ after.listed
  counted : before.nextRef ≤ after.nextRef
  units : ∀ ref < before.nextRef, after.unitOf ref = before.unitOf ref
  owner : after.owner = before.owner

theorem Extends.keeps (step : Extends before after) :
    Consistent after ∧ after.owner = before.owner := ⟨step.consistent, step.owner⟩

theorem Extends.refl (consistent : Consistent manager) : Extends manager manager where
  consistent := consistent
  kept := fun _ member => member
  counted := le_refl _
  units := fun _ _ => rfl
  owner := rfl

theorem Extends.trans (first : Extends before middle) (second : Extends middle after) :
    Extends before after where
  consistent := second.consistent
  kept := fun ref member => second.kept ref (first.kept ref member)
  counted := first.counted.trans second.counted
  units := by
    intro ref bound
    rw [second.units ref (lt_of_lt_of_le bound first.counted), first.units ref bound]
  owner := second.owner.trans first.owner

/-! ### Lists -/

theorem Consistent.nodup (consistent : Consistent manager) : manager.listed.Nodup :=
  consistent.distinct.of_map _

theorem Consistent.unit_inj (consistent : Consistent manager) {first second : Nat}
    (firstListed : first ∈ manager.listed) (secondListed : second ∈ manager.listed)
    (same : manager.unitOf first = manager.unitOf second) : first = second :=
  List.inj_on_of_nodup_map consistent.distinct firstListed secondListed same

variable {ref unit : Nat} {units : List Nat}

theorem Consistent.offline_of_mem (consistent : Consistent manager)
    (member : ref ∈ manager.offlineThreatList) : (manager.refs ref).online = false := by
  have apart := List.disjoint_of_nodup_append consistent.nodup
  have elsewhere : ref ∉ manager.threatList := fun other => apart other member
  rw [consistent.online ref (List.mem_append_right _ member)] at elsewhere
  exact Bool.eq_false_iff.mpr elsewhere

theorem Consistent.online_of_mem (consistent : Consistent manager)
    (member : ref ∈ manager.threatList) : (manager.refs ref).online = true :=
  (consistent.online ref (List.mem_append_left _ member)).mp member

theorem filter_ne_append_perm {list : List Nat} (nodup : list.Nodup)
    (member : ref ∈ list) : (list.filter (· ≠ ref) ++ [ref]).Perm list := by
  have erased : list.filter (· ≠ ref) = list.erase ref := by
    simp [nodup.erase_eq_filter, bne, beq_eq_decide]
  rw [erased]
  exact List.perm_append_comm.trans (List.perm_cons_erase member).symm

theorem Extends.of_listed (consistent : Consistent before)
    (lists : after.listed.Perm before.listed) (counts : after.nextRef = before.nextRef)
    (owners : after.owner = before.owner) (units : ∀ ref, after.unitOf ref = before.unitOf ref)
    (statuses : ∀ ref ∈ before.listed, ref ∈ after.threatList ↔ (after.refs ref).online = true)
    (victims : ∀ ref, after.currentVictim = some ref → ref ∈ after.threatList) :
    Extends before after := by
  refine ⟨⟨?_, ?_, victims, ?_⟩, fun ref member => lists.mem_iff.mpr member, counts.ge,
    fun ref _ => units ref, owners⟩
  · rw [funext units, (lists.map _).nodup_iff]
    exact consistent.distinct
  · grind
  · intro ref member
    rw [counts]
    exact consistent.made ref (lists.mem_iff.mp member)

theorem Extends.of_perm (consistent : Consistent before)
    (threatLists : after.threatList.Perm before.threatList)
    (offlineLists : after.offlineThreatList.Perm before.offlineThreatList)
    (counts : after.nextRef = before.nextRef) (owners : after.owner = before.owner)
    (units : ∀ ref, after.unitOf ref = before.unitOf ref)
    (statuses : ∀ ref, (after.refs ref).online = (before.refs ref).online)
    (victims : ∀ ref, after.currentVictim = some ref → ref ∈ before.threatList) :
    Extends before after := by
  apply Extends.of_listed consistent (threatLists.append offlineLists) counts owners units
  · intro ref member
    rw [threatLists.mem_iff, statuses]
    exact consistent.online ref member
  · grind

theorem refs_setRef_self (ref : Nat) (reference : HostileReference) :
    (manager.setRef ref reference).refs ref = reference := by
  unfold setRef
  exact Function.update_self ref reference manager.refs

theorem refs_setRef_of_ne {other : Nat} (apart : other ≠ ref) (reference : HostileReference) :
    (manager.setRef ref reference).refs other = manager.refs other := by
  unfold setRef
  exact Function.update_of_ne apart reference manager.refs

theorem field_setRef {β : Type*} (field : HostileReference → β) (ref other : Nat)
    {reference : HostileReference} (same : field reference = field (manager.refs ref)) :
    field ((manager.setRef ref reference).refs other) = field (manager.refs other) := by
  by_cases here : other = ref
  · rw [here, refs_setRef_self, same]
  · rw [refs_setRef_of_ne here]

theorem setRef_extends (consistent : Consistent manager) (ref : Nat)
    {reference : HostileReference} (unit : reference.unitGuid = manager.unitOf ref)
    (status : reference.online = (manager.refs ref).online) :
    Extends manager (manager.setRef ref reference) :=
  Extends.of_perm consistent (List.Perm.refl _) (List.Perm.refl _) rfl rfl
    (fun other => field_setRef HostileReference.unitGuid ref other unit)
    (fun other => field_setRef HostileReference.online ref other status) consistent.victim

theorem setDirty_extends (consistent : Consistent manager) (dirty : Bool) :
    Extends manager { manager with dirty := dirty } :=
  Extends.of_perm consistent (List.Perm.refl _) (List.Perm.refl _) rfl rfl (fun _ => rfl)
    (fun _ => rfl) consistent.victim

theorem onThreatChange_extends (consistent : Consistent manager) (ref : Nat) (value : ℚ) :
    Extends manager (manager.onThreatChange ref value) := by
  unfold onThreatChange
  split
  · exact setDirty_extends consistent true
  · exact Extends.refl consistent

/-! ### Status changes -/

theorem onOnlineStatus_of_offline (offline : (manager.refs ref).online = false) :
    manager.onOnlineStatus ref =
      { manager with
        currentVictim := if manager.currentVictim = some ref then none else manager.currentVictim
        dirty := manager.dirty || decide (manager.currentVictim = some ref)
        threatList := manager.threatList.filter (· ≠ ref)
        offlineThreatList := manager.offlineThreatList ++ [ref] } := by
  unfold onOnlineStatus
  rw [if_neg (by rw [offline]; exact Bool.false_ne_true)]
  by_cases chosen : manager.currentVictim = some ref <;> simp

theorem setOnlineOfflineState_of_online (online : (manager.refs ref).online = true) :
    manager.setOnlineOfflineState ref false =
      { manager.setRef ref { manager.refs ref with online := false, accessible := false } with
        currentVictim := if manager.currentVictim = some ref then none else manager.currentVictim
        dirty := manager.dirty || decide (manager.currentVictim = some ref)
        threatList := manager.threatList.filter (· ≠ ref)
        offlineThreatList := manager.offlineThreatList ++ [ref] } := by
  unfold setOnlineOfflineState
  rw [if_neg (by rw [online]; exact Bool.true_eq_false_eq_False)]
  exact onOnlineStatus_of_offline (by rw [refs_setRef_self])

theorem setOnlineOfflineState_of_offline
    (offline : (manager.refs ref).online = false) :
    manager.setOnlineOfflineState ref true =
      { manager.setRef ref { manager.refs ref with online := true } with
        dirty := manager.dirty ||
          match manager.currentVictim with
          | some victim => decide (11 / 10 * manager.threatOf victim < manager.threatOf ref)
          | none => false
        threatList := manager.threatList ++ [ref]
        offlineThreatList := manager.offlineThreatList.filter (· ≠ ref) } := by
  have threats (other : Nat) : ((manager.setRef ref { manager.refs ref with
        online := true
        accessible := true && (manager.refs ref).accessible }).refs other).threat =
      manager.threatOf other :=
    field_setRef HostileReference.threat ref other rfl
  unfold setOnlineOfflineState
  rw [if_neg (by rw [offline]; exact Bool.false_ne_true)]
  unfold onOnlineStatus
  rw [if_pos (by rw [refs_setRef_self])]
  unfold threatOf at *
  simp only [threats]
  rfl

section

variable (consistent : Consistent manager)
include consistent

theorem goes_offline_extends
    (member : ref ∈ manager.threatList) :
    Extends manager (manager.setOnlineOfflineState ref false) := by
  have nodups := List.nodup_append.mp consistent.nodup
  have moved := filter_ne_append_perm nodups.1 member
  rw [setOnlineOfflineState_of_online (consistent.online_of_mem member)]
  apply Extends.of_listed consistent
  · have swapped : (manager.offlineThreatList ++ [ref]).Perm ([ref] ++ manager.offlineThreatList) :=
      List.perm_append_comm
    have lists := swapped.append_left (manager.threatList.filter (· ≠ ref))
    have placed := moved.append_right manager.offlineThreatList
    rw [List.append_assoc] at placed
    exact lists.trans placed
  · rfl
  · rfl
  · exact fun other => field_setRef HostileReference.unitGuid ref other rfl
  · intro other listed
    rw [List.mem_filter, decide_eq_true_eq]
    by_cases here : other = ref
    · simp [here, refs_setRef_self]
    · rw [refs_setRef_of_ne here, ← consistent.online other listed]
      exact and_iff_left here
  · intro other chosen
    split at chosen
    · cases chosen
    next unchosen =>
      refine List.mem_filter.mpr ⟨consistent.victim other chosen, decide_eq_true ?_⟩
      intro here
      rw [chosen, here] at unchosen
      exact unchosen rfl

theorem comes_online_extends
    (member : ref ∈ manager.offlineThreatList) :
    Extends manager (manager.setOnlineOfflineState ref true) := by
  have nodups := List.nodup_append.mp consistent.nodup
  have moved := filter_ne_append_perm nodups.2.1 member
  rw [setOnlineOfflineState_of_offline (consistent.offline_of_mem member)]
  apply Extends.of_listed consistent
  · have swapped : ([ref] ++ manager.offlineThreatList.filter (· ≠ ref)).Perm
        (manager.offlineThreatList.filter (· ≠ ref) ++ [ref]) := List.perm_append_comm
    have lists := (swapped.trans moved).append_left manager.threatList
    rw [← List.append_assoc] at lists
    exact lists
  · rfl
  · rfl
  · exact fun other => field_setRef HostileReference.unitGuid ref other rfl
  · intro other listed
    rw [List.mem_append, List.mem_singleton]
    by_cases here : other = ref
    · simp [here, refs_setRef_self]
    · rw [refs_setRef_of_ne here, ← consistent.online other listed]
      exact or_iff_left here
  · intro other chosen
    exact List.mem_append_left _ (consistent.victim other chosen)

theorem setOnlineOfflineState_extends
    (member : ref ∈ manager.listed) (online : Bool) :
    Extends manager (manager.setOnlineOfflineState ref online) := by
  by_cases same : (manager.refs ref).online = online
  · unfold setOnlineOfflineState
    rw [if_pos same]
    exact Extends.refl consistent
  · cases online with
    | false =>
      have was : (manager.refs ref).online = true := Bool.not_eq_false _ |>.mp same
      exact goes_offline_extends consistent ((consistent.online ref member).mpr was)
    | true =>
      have elsewhere : ref ∉ manager.threatList :=
        fun there => same ((consistent.online ref member).mp there)
      exact comes_online_extends consistent
        ((List.mem_append.mp member).resolve_left elsewhere)

theorem updateOnlineStatus_extends
    (member : ref ∈ manager.listed) :
    Extends manager (manager.updateOnlineStatus world ref) := by
  unfold updateOnlineStatus setAccessibleState
  have noted (accessible : Bool) : Extends manager
      (manager.setRef ref { manager.refs ref with accessible := accessible }) :=
    setRef_extends consistent ref rfl rfl
  exact (noted _).trans
    (setOnlineOfflineState_extends (noted _).consistent ((noted _).kept ref member) _)

end

/-! ### Threat -/

theorem changeThreat_extends (consistent : Consistent manager)
    (member : ref ∈ manager.listed) (amount : ℚ) :
    Extends manager (manager.changeThreat world ref amount) := by
  have changed : Extends manager
      (manager.setRef ref { manager.refs ref with threat := manager.threatOf ref + amount }) :=
    setRef_extends consistent ref rfl rfl
  have checked : Extends manager
      (if ((manager.setRef ref
          { manager.refs ref with threat := manager.threatOf ref + amount }).refs ref).online then
        manager.setRef ref { manager.refs ref with threat := manager.threatOf ref + amount } else
        (manager.setRef ref
          { manager.refs ref with threat := manager.threatOf ref + amount }).updateOnlineStatus
            world ref) := by
    split
    · exact changed
    · exact changed.trans
        (updateOnlineStatus_extends changed.consistent (changed.kept ref member))
  unfold changeThreat
  split
  · exact checked
  · exact checked.trans (onThreatChange_extends checked.consistent ref amount)

/-! ### New references -/

theorem findIn_eq_some {list : List Nat}
    (found : manager.findIn list unit = some ref) : ref ∈ list ∧ manager.unitOf ref = unit := by
  unfold findIn at found
  have same := List.find?_some found
  exact ⟨List.mem_of_find?_eq_some found, beq_iff_eq.mp same⟩

theorem findIn_eq_none {list : List Nat}
    (unknown : manager.findIn list unit = none) : ∀ ref ∈ list, manager.unitOf ref ≠ unit := by
  intro ref member same
  have other := List.find?_eq_none.mp unknown ref member
  exact other (beq_iff_eq.mpr same)

theorem getReference_eq_some (found : manager.getReference unit = some ref) :
    ref ∈ manager.listed ∧ manager.unitOf ref = unit := by
  rcases Option.or_eq_some_iff.mp found with online | ⟨-, offline⟩
  · obtain ⟨member, same⟩ := findIn_eq_some online
    exact ⟨List.mem_append_left _ member, same⟩
  · obtain ⟨member, same⟩ := findIn_eq_some offline
    exact ⟨List.mem_append_right _ member, same⟩

theorem getReference_eq_none (unknown : manager.getReference unit = none) :
    ∀ ref ∈ manager.listed, manager.unitOf ref ≠ unit := by
  intro ref member
  obtain ⟨online, offline⟩ := Option.or_eq_none_iff.mp unknown
  rcases List.mem_append.mp member with here | here
  · exact findIn_eq_none online ref here
  · exact findIn_eq_none offline ref here

theorem refs_create_of_lt (bound : ref < manager.nextRef) (unit : Nat) :
    (manager.create unit).refs ref = manager.refs ref :=
  refs_setRef_of_ne (Nat.ne_of_lt bound) _

theorem refs_create_self (unit : Nat) :
    (manager.create unit).refs manager.nextRef = ⟨unit, 0, 0, true, true⟩ :=
  refs_setRef_self _ _

theorem listed_create (unit : Nat) :
    (manager.create unit).listed.Perm (manager.nextRef :: manager.listed) := by
  unfold listed create
  rw [List.append_assoc]
  exact List.perm_middle

theorem mem_listed_create (unit : Nat) : manager.nextRef ∈ (manager.create unit).listed :=
  (listed_create unit).mem_iff.mpr List.mem_cons_self

/-- Every number below `nextRef` has been used, no other is listed. -/
theorem create_extends (consistent : Consistent manager)
    (unknown : manager.getReference unit = none) : Extends manager (manager.create unit) := by
  have lists : (manager.create unit).listed.Perm (manager.nextRef :: manager.listed) :=
    listed_create unit
  have units : ∀ ref < manager.nextRef, (manager.create unit).unitOf ref = manager.unitOf ref :=
    fun ref bound => congrArg HostileReference.unitGuid (refs_create_of_lt bound unit)
  refine ⟨⟨?_, ?_, ?_, ?_⟩, ?_, Nat.le_succ _, units, rfl⟩
  · rw [(lists.map _).nodup_iff, List.map_cons, List.nodup_cons]
    have same : manager.listed.map (manager.create unit).unitOf =
        manager.listed.map manager.unitOf :=
      List.map_congr_left fun ref member => units ref (consistent.made ref member)
    rw [same]
    refine ⟨?_, consistent.distinct⟩
    intro taken
    obtain ⟨ref, member, sameUnit⟩ := List.mem_map.mp taken
    unfold unitOf at sameUnit
    rw [refs_create_self] at sameUnit
    exact getReference_eq_none unknown ref member sameUnit
  · intro ref member
    change ref ∈ manager.threatList ++ [manager.nextRef] ↔ _
    rw [List.mem_append, List.mem_singleton]
    rcases List.mem_cons.mp (lists.mem_iff.mp member) with fresh | old
    · simp [fresh, refs_create_self]
    · have bound := consistent.made ref old
      rw [refs_create_of_lt bound, ← consistent.online ref old]
      exact or_iff_left (Nat.ne_of_lt bound)
  · intro ref chosen
    exact List.mem_append_left _ (consistent.victim ref chosen)
  · intro ref member
    rcases List.mem_cons.mp (lists.mem_iff.mp member) with fresh | old
    · rw [fresh]
      exact Nat.lt_succ_self _
    · exact Nat.lt_succ_of_lt (consistent.made ref old)
  · grind

theorem withReference_extends (consistent : Consistent manager) (unit : Nat)
    {add : Nat → ThreatManager → ThreatManager}
    (adds : ∀ manager ref, Consistent manager → ref ∈ manager.listed →
      Extends manager (add ref manager)) :
    Extends manager (manager.withReference world unit add) := by
  unfold withReference
  split
  next ref found => exact adds manager ref consistent (getReference_eq_some found).1
  next unknown =>
    have created := create_extends consistent unknown
    have added := adds _ _ created.consistent (mem_listed_create unit)
    have both := created.trans added
    split
    · exact both.trans (setOnlineOfflineState_extends added.consistent
        (added.kept _ (mem_listed_create unit)) false)
    · exact both

theorem refAddThreat_extends (chain : List Nat) :
    ∀ (amount : ℚ) (manager : ThreatManager) (ref : Nat), Consistent manager →
      ref ∈ manager.listed → Extends manager (refAddThreat world chain ref amount manager) := by
  induction chain with
  | nil =>
    intro amount manager ref consistent member
    exact changeThreat_extends consistent member amount
  | cons owner above ih =>
    intro amount manager ref consistent member
    have changed : Extends manager (manager.changeThreat world ref amount) :=
      changeThreat_extends consistent member amount
    unfold refAddThreat
    dsimp only
    split
    · exact changed.trans (withReference_extends changed.consistent owner
        fun manager ref => ih 0 manager ref)
    · exact changed

theorem addThreatTo_extends (consistent : Consistent manager)
    (member : ref ∈ manager.listed) (amount : ℚ) :
    Extends manager (manager.addThreatTo world ref amount) :=
  refAddThreat_extends _ amount manager ref consistent member

theorem addThreatFor_extends (consistent : Consistent manager) (unit : Nat) (amount : ℚ) :
    Extends manager (manager.addThreatFor world unit amount) :=
  withReference_extends consistent unit fun manager ref =>
    refAddThreat_extends _ amount manager ref

theorem addThreat_extends (consistent : Consistent manager) (victim : Nat) (threat : ℚ)
    (reducedThreatPercent : Nat) (misdirectionTarget : Option Nat) :
    Extends manager
      (manager.addThreat world victim threat reducedThreatPercent misdirectionTarget) := by
  unfold addThreat
  split
  · split
    · dsimp only
      cases misdirectionTarget with
      | none => exact addThreatFor_extends consistent victim _
      | some unit =>
        have diverted : Extends manager
            (manager.addThreatFor world unit (threat * reducedThreatPercent / 100)) :=
          addThreatFor_extends consistent unit _
        exact diverted.trans (addThreatFor_extends diverted.consistent victim _)
    · exact addThreatFor_extends consistent victim threat
  · exact Extends.refl consistent

/-! ### Taunts and resets -/

section

variable (consistent : Consistent manager)
include consistent

theorem addTempThreat_extends
    (member : ref ∈ manager.listed) (threat : ℚ) :
    Extends manager (manager.addTempThreat world ref threat) := by
  have noted : Extends manager (manager.setTempThreatModifier ref threat) :=
    setRef_extends consistent ref rfl rfl
  unfold addTempThreat
  split
  · exact noted
  · exact noted.trans (addThreatTo_extends noted.consistent (noted.kept ref member) threat)

theorem resetTempThreat_extends
    (member : ref ∈ manager.listed) : Extends manager (manager.resetTempThreat world ref) := by
  unfold resetTempThreat
  split
  · exact Extends.refl consistent
  · have lowered : Extends manager
        (manager.addThreatTo world ref (-(manager.refs ref).tempThreatModifier)) :=
      addThreatTo_extends consistent member _
    exact lowered.trans (setRef_extends lowered.consistent ref rfl rfl)

theorem tauntApply_extends (taunter : Nat) :
    Extends manager (manager.tauntApply world taunter) := by
  unfold tauntApply
  split
  next ref victim found chosen =>
    split
    · exact addTempThreat_extends consistent (List.mem_append_left _ (findIn_eq_some found).1) _
    · exact Extends.refl consistent
  · exact Extends.refl consistent

theorem tauntFadeOut_extends (taunter : Nat) :
    Extends manager (manager.tauntFadeOut world taunter) := by
  unfold tauntFadeOut
  split
  next ref found =>
    exact resetTempThreat_extends consistent (List.mem_append_left _ (findIn_eq_some found).1)
  · exact Extends.refl consistent

theorem modifyThreatPercent_extends (victim : Nat)
    (percent : Int) : Extends manager (manager.modifyThreatPercent world victim percent) := by
  unfold modifyThreatPercent
  split
  next ref found =>
    exact addThreatTo_extends consistent (List.mem_append_left _ (findIn_eq_some found).1) _
  · exact Extends.refl consistent

end

theorem resetFrom_extends (predicate : Nat → Bool) (fuel : Nat) :
    ∀ (position : Nat) (manager : ThreatManager), Consistent manager →
      Extends manager (manager.resetFrom world predicate fuel position) := by
  induction fuel with
  | zero => exact fun _ _ consistent => Extends.refl consistent
  | succ fuel ih =>
    intro position manager consistent
    unfold resetFrom
    split
    · exact Extends.refl consistent
    next ref found =>
      have member : ref ∈ manager.listed :=
        List.mem_append_left _ (List.mem_of_getElem? found)
      split
      · have reset : Extends manager (manager.setThreat world ref 0) :=
          addThreatTo_extends consistent member _
        have marked := reset.trans (setDirty_extends reset.consistent true)
        exact marked.trans (ih _ _ marked.consistent)
      · exact ih _ _ consistent

/-! ### The end of the reset loop -/

def Within (units : List Nat) (manager : ThreatManager) : Prop :=
  ∀ ref ∈ manager.listed, manager.unitOf ref ∈ units

theorem Within.of_mem (within : Within units before)
    (lists : ∀ ref ∈ after.listed, ref ∈ before.listed)
    (sameUnits : ∀ ref ∈ before.listed, after.unitOf ref = before.unitOf ref) :
    Within units after := by
  intro ref member
  rw [sameUnits ref (lists ref member)]
  exact within ref (lists ref member)

theorem Within.length_le (within : Within units manager)
    (consistent : Consistent manager) : manager.threatList.length ≤ units.length := by
  have few : (manager.listed.map manager.unitOf).length ≤ units.length :=
    (List.subperm_of_subset consistent.distinct fun unit member => by
      obtain ⟨ref, listed, same⟩ := List.mem_map.mp member
      rw [← same]
      exact within ref listed).length_le
  rw [List.length_map] at few
  unfold listed at few
  rw [List.length_append] at few
  omega

theorem setOnlineOfflineState_listed (manager : ThreatManager)
    (member : ref ∈ manager.listed) (online : Bool) :
    ∀ other ∈ (manager.setOnlineOfflineState ref online).listed, other ∈ manager.listed := by
  intro other listed
  by_cases same : (manager.refs ref).online = online
  · simp_all [setOnlineOfflineState]
  · cases online with
    | false =>
      rw [setOnlineOfflineState_of_online (Bool.not_eq_false _ |>.mp same)] at listed
      rcases List.mem_append.mp listed with stays | goes
      · exact List.mem_append_left _ (List.mem_filter.mp stays).1
      · rcases List.mem_append.mp goes with offline | moved
        · exact List.mem_append_right _ offline
        · simp_all
    | true =>
      rw [setOnlineOfflineState_of_offline (Bool.not_eq_true _ |>.mp same)] at listed
      rcases List.mem_append.mp listed with goes | stays
      · rcases List.mem_append.mp goes with there | moved
        · exact List.mem_append_left _ there
        · simp_all
      · exact List.mem_append_right _ (List.mem_filter.mp stays).1

theorem updateOnlineStatus_listed (manager : ThreatManager)
    (member : ref ∈ manager.listed) :
    ∀ other ∈ (manager.updateOnlineStatus world ref).listed, other ∈ manager.listed := by
  unfold updateOnlineStatus
  exact setOnlineOfflineState_listed (manager.setAccessibleState ref _) member _

theorem changeThreat_listed (member : ref ∈ manager.listed) (amount : ℚ) :
    ∀ other ∈ (manager.changeThreat world ref amount).listed, other ∈ manager.listed := by
  have kept (checked : ThreatManager) :
      (if amount = 0 then checked else checked.onThreatChange ref amount).listed =
        checked.listed := by
    unfold onThreatChange
    split
    · rfl
    · split <;> rfl
  unfold changeThreat
  rw [kept]
  intro other listed
  split at listed
  · exact listed
  · exact updateOnlineStatus_listed (manager.setRef ref _) member other listed

theorem changeThreat_within (consistent : Consistent manager)
    (within : Within units manager) (member : ref ∈ manager.listed) (amount : ℚ) :
    Within units (manager.changeThreat world ref amount) :=
  within.of_mem (changeThreat_listed member amount) fun other listed =>
    (changeThreat_extends consistent member amount).units other (consistent.made other listed)

theorem withReference_within (consistent : Consistent manager)
    (within : Within units manager) (known : unit ∈ units)
    {add : Nat → ThreatManager → ThreatManager}
    (extend : ∀ manager ref, Consistent manager → ref ∈ manager.listed →
      Extends manager (add ref manager))
    (adds : ∀ manager ref, Consistent manager → ref ∈ manager.listed → Within units manager →
      Within units (add ref manager)) :
    Within units (manager.withReference world unit add) := by
  unfold withReference
  split
  next ref found => exact adds manager ref consistent (getReference_eq_some found).1 within
  next unknown =>
    have created := create_extends consistent unknown
    have fresh : Within units (manager.create unit) := by
      intro ref member
      rcases List.mem_cons.mp ((listed_create unit).mem_iff.mp member) with same | old
      · unfold unitOf
        rw [same, refs_create_self]
        exact known
      · rw [created.units ref (consistent.made ref old)]
        exact within ref old
    have member : manager.nextRef ∈ (manager.create unit).listed := mem_listed_create unit
    have added := adds _ _ created.consistent member fresh
    have extended := extend _ _ created.consistent member
    split
    · have listed := extended.kept _ member
      exact added.of_mem (setOnlineOfflineState_listed _ listed false)
        fun other there => (setOnlineOfflineState_extends extended.consistent listed false).units
          other (extended.consistent.made other there)
    · exact added

theorem refAddThreat_within (chain : List Nat)
    (known : ∀ owner ∈ chain, owner ∈ units) :
    ∀ (amount : ℚ) (manager : ThreatManager) (ref : Nat), Consistent manager →
      ref ∈ manager.listed → Within units manager →
      Within units (refAddThreat world chain ref amount manager) := by
  induction chain with
  | nil =>
    intro amount manager ref consistent member within
    exact changeThreat_within consistent within member amount
  | cons owner above ih =>
    intro amount manager ref consistent member within
    have changed : Extends manager (manager.changeThreat world ref amount) :=
      changeThreat_extends consistent member amount
    have units_changed : Within units (manager.changeThreat world ref amount) :=
      changeThreat_within consistent within member amount
    unfold refAddThreat
    dsimp only
    split
    · exact withReference_within changed.consistent units_changed
        (known owner List.mem_cons_self)
        (fun manager ref => refAddThreat_extends above 0 manager ref)
        (fun manager ref => ih (fun other member => known other (List.mem_cons_of_mem _ member))
          0 manager ref)
    · exact units_changed

theorem nested_mem {owner : Nat} (member : owner ∈ world.charmersOrOwners unit) :
    ∀ above ∈ world.charmersOrOwners owner, above ∈ world.charmersOrOwners unit := by
  generalize same : world.charmersOrOwners unit = chain at member
  induction chain generalizing unit with
  | nil => cases member
  | cons first rest ih =>
    have tail := world.nested unit first rest same
    intro above there
    rcases List.mem_cons.mp member with here | later
    · simp_all
    · exact List.mem_cons_of_mem _ (ih tail later above there)

def reachable (world : World) (manager : ThreatManager) : List Nat :=
  manager.listed.flatMap fun ref =>
    manager.unitOf ref :: world.charmersOrOwners (manager.unitOf ref)

theorem length_reachable (world : World) (manager : ThreatManager) :
    (manager.reachable world).length = manager.resetBound world := by
  unfold reachable
  rw [List.length_flatMap]
  rfl

theorem within_reachable (world : World) (manager : ThreatManager) :
    Within (manager.reachable world) manager :=
  fun ref member => List.mem_flatMap.mpr ⟨ref, member, List.mem_cons_self⟩

theorem reachable_closed (world : World) (manager : ThreatManager) :
    ∀ unit ∈ manager.reachable world, ∀ owner ∈ world.charmersOrOwners unit,
      owner ∈ manager.reachable world := by
  intro unit member owner above
  obtain ⟨ref, listed, here⟩ := List.mem_flatMap.mp member
  refine List.mem_flatMap.mpr ⟨ref, listed, List.mem_cons_of_mem _ ?_⟩
  rcases List.mem_cons.mp here with same | higher
  · simp_all
  · exact nested_mem higher owner above

/-! ### Removals -/

theorem Consistent.of_sublist (consistent : Consistent before) (refs : after.refs = before.refs)
    (counts : after.nextRef = before.nextRef)
    (threatLists : after.threatList.Sublist before.threatList)
    (offlineLists : after.offlineThreatList.Sublist before.offlineThreatList)
    (victims : ∀ ref, after.currentVictim = some ref → ref ∈ after.threatList) :
    Consistent after := by
  have lists : after.listed.Sublist before.listed := threatLists.append offlineLists
  have units : after.unitOf = before.unitOf := by
    grind [unitOf]
  refine ⟨?_, ?_, victims, ?_⟩
  · rw [units]
    exact consistent.distinct.sublist (lists.map _)
  · intro ref member
    rw [refs]
    rcases List.mem_append.mp member with online | offline
    · exact iff_of_true online (consistent.online_of_mem (threatLists.subset online))
    · have status := consistent.offline_of_mem (offlineLists.subset offline)
      apply iff_of_false
      · intro online
        rw [consistent.online_of_mem (threatLists.subset online)] at status
        exact Bool.false_ne_true status.symm
      · simp [status]
  · intro ref member
    rw [counts]
    exact consistent.made ref (lists.subset member)

theorem onRemoveFromList_consistent (consistent : Consistent manager) (ref : Nat) :
    Consistent (manager.onRemoveFromList ref) := by
  have victims : ∀ other, (if decide (manager.currentVictim = some ref) = true then none
      else manager.currentVictim) = some other → other ∈ manager.threatList ∧ other ≠ ref := by
    intro other chosen
    split at chosen
    · cases chosen
    next unchosen =>
      refine ⟨consistent.victim other chosen, ?_⟩
      intro here
      rw [chosen, here] at unchosen
      exact unchosen (decide_eq_true rfl)
  unfold onRemoveFromList
  split
  · refine consistent.of_sublist rfl rfl List.filter_sublist (List.Sublist.refl _) ?_
    intro other chosen
    obtain ⟨there, apart⟩ := victims other chosen
    exact List.mem_filter.mpr ⟨there, decide_eq_true apart⟩
  · refine consistent.of_sublist rfl rfl (List.Sublist.refl _) List.filter_sublist ?_
    exact fun other chosen => (victims other chosen).1

theorem removeReference_consistent (consistent : Consistent manager)
    (member : ref ∈ manager.listed) : Consistent (manager.removeReference ref) :=
  onRemoveFromList_consistent (setOnlineOfflineState_extends consistent member false).consistent ref

theorem clearReferences_consistent (consistent : Consistent manager) :
    Consistent manager.clearReferences := by
  refine consistent.of_sublist rfl rfl (List.nil_sublist _) (List.nil_sublist _) ?_
  intro ref chosen
  cases chosen

/-! ### The next victim -/

theorem update_extends (consistent : Consistent manager) : Extends manager manager.update := by
  refine Extends.of_perm consistent ?_ (List.Perm.refl _) rfl rfl (fun _ => rfl) (fun _ => rfl)
    consistent.victim
  unfold update
  split
  · exact List.perm_insertionSort _ _
  · exact List.Perm.refl _

theorem scan_mem (preferring : Bool) (list : List Nat) :
    ∀ (currentVictim : Option Nat) (ref : Nat),
      manager.scan world preferring currentVictim list = .found ref →
        currentVictim = some ref ∨ ref ∈ list := by
  induction list with
  | nil =>
    intro currentVictim ref found
    cases found
  | cons head rest ih =>
    intro currentVictim ref found
    have later (victim : Option Nat) (weaker : victim = some ref → currentVictim = some ref)
        (found : manager.scan world preferring victim rest = .found ref) :
        currentVictim = some ref ∨ ref ∈ head :: rest := by
      rcases ih victim ref found with kept | member
      · exact Or.inl (weaker kept)
      · exact Or.inr (List.mem_cons_of_mem _ member)
    unfold scan at found
    dsimp only at found
    split at found
    · grind
    · split at found
      · grind
      · exact later _ id found

theorem scan_again (preferring : Bool) (list : List Nat) :
    ∀ (currentVictim victim : Option Nat),
      manager.scan world preferring currentVictim list = .again victim →
        ∀ ref, victim = some ref → currentVictim = some ref := by
  induction list with
  | nil =>
    intro currentVictim victim again
    cases again
  | cons head rest ih =>
    intro currentVictim victim again ref kept
    unfold scan at again
    dsimp only at again
    split at again
    · split at again
      · simp_all
      · have earlier := ih _ _ again ref kept
        split at earlier
        · cases earlier
        · exact earlier
    · split at again
      · split at again
        · cases again
        · split at again
          · cases again
          · split at again
            · cases again
            · exact ih _ _ again ref kept
      · exact ih _ _ again ref kept

theorem selectNextVictim_mem
    (victims : ∀ ref, manager.currentVictim = some ref → ref ∈ manager.threatList)
    (chosen : manager.selectNextVictim world = some ref) : ref ∈ manager.threatList := by
  unfold selectNextVictim at chosen
  split at chosen
  next other found =>
    injection chosen with same
    rw [same] at found
    rcases scan_mem true _ _ ref found with kept | member
    · exact victims ref kept
    · exact member
  · cases chosen
  next victim again =>
    split at chosen
    next other found =>
      injection chosen with same
      rw [same] at found
      rcases scan_mem false _ _ ref found with kept | member
      · exact victims ref (scan_again true _ _ _ again ref kept)
      · exact member
    · cases chosen

theorem getHostilTarget_extends (consistent : Consistent manager) :
    Extends manager (manager.getHostilTarget world).2 := by
  have updated := update_extends consistent
  refine updated.trans (Extends.of_perm updated.consistent (List.Perm.refl _) (List.Perm.refl _)
    rfl rfl (fun _ => rfl) (fun _ => rfl) ?_)
  exact fun ref chosen => selectNextVictim_mem updated.consistent.victim chosen

theorem forceVictim_extends (consistent : Consistent manager) (unit : Nat) :
    Extends manager (manager.forceVictim unit) := by
  unfold forceVictim
  split
  next ref found =>
    refine Extends.of_perm consistent (List.Perm.refl _) (List.Perm.refl _) rfl rfl (fun _ => rfl)
      (fun _ => rfl) ?_
    intro other chosen
    injection chosen with same
    rw [← same]
    exact (findIn_eq_some found).1
  · exact Extends.refl consistent

/-! ### Runs -/

theorem initial_consistent (owner : Nat) : Consistent (initial owner) where
  distinct := List.nodup_nil
  online := fun _ member => absurd member List.not_mem_nil
  victim := fun _ chosen => nomatch chosen
  made := fun _ member => absurd member List.not_mem_nil

theorem removeReference_keeps (consistent : Consistent manager) (member : ref ∈ manager.listed) :
    Consistent (manager.removeReference ref) ∧
      (manager.removeReference ref).owner = manager.owner := by
  refine ⟨removeReference_consistent consistent member, ?_⟩
  rw [← (setOnlineOfflineState_extends consistent member false).owner]
  unfold removeReference onRemoveFromList
  split <;> rfl

theorem onReference_keeps (consistent : Consistent manager) (unit : Nat)
    {act : Nat → ThreatManager → ThreatManager}
    (acts : ∀ ref ∈ manager.listed,
      Consistent (act ref manager) ∧ (act ref manager).owner = manager.owner) :
    Consistent (manager.onReference unit act) ∧
      (manager.onReference unit act).owner = manager.owner := by
  unfold onReference
  split
  next ref found => exact acts ref (getReference_eq_some found).1
  · exact ⟨consistent, rfl⟩

theorem next_keeps (consistent : Consistent manager) (call : World × Call) :
    Consistent (manager.next call) ∧ (manager.next call).owner = manager.owner := by
  obtain ⟨world, call⟩ := call
  cases call with
  | addThreat victim threat reducedThreatPercent misdirectionTarget =>
    exact (addThreat_extends consistent victim threat _ _).keeps
  | modifyThreatPercent victim percent =>
    exact (modifyThreatPercent_extends consistent victim percent).keeps
  | tauntApply taunter => exact (tauntApply_extends consistent taunter).keeps
  | tauntFadeOut taunter => exact (tauntFadeOut_extends consistent taunter).keeps
  | resetAllAggro => exact (resetFrom_extends _ _ 0 manager consistent).keeps
  | resetAggro predicate => exact (resetFrom_extends predicate _ 0 manager consistent).keeps
  | clearReferences => exact ⟨clearReferences_consistent consistent, rfl⟩
  | getHostilTarget => exact (getHostilTarget_extends consistent).keeps
  | forceVictim unit => exact (forceVictim_extends consistent unit).keeps
  | threatAssist unit threat =>
    exact onReference_keeps consistent unit fun _ member =>
      (addThreatTo_extends consistent member threat).keeps
  | addThreatPercent unit percent =>
    exact onReference_keeps consistent unit fun _ member =>
      (addThreatTo_extends consistent member _).keeps
  | addTempThreat unit threat =>
    apply onReference_keeps consistent unit
    intro ref member
    split
    · exact (addTempThreat_extends consistent member threat).keeps
    · exact ⟨consistent, rfl⟩
  | resetTempThreat unit =>
    exact onReference_keeps consistent unit fun _ member =>
      (resetTempThreat_extends consistent member).keeps
  | setOnlineOfflineState unit online =>
    exact onReference_keeps consistent unit fun _ member =>
      (setOnlineOfflineState_extends consistent member online).keeps
  | updateOnlineStatus unit =>
    exact onReference_keeps consistent unit fun _ member =>
      (updateOnlineStatus_extends consistent member).keeps
  | removeReference unit =>
    exact onReference_keeps consistent unit fun _ member =>
      removeReference_keeps consistent member

theorem next_consistent (consistent : Consistent manager) (call : World × Call) :
    Consistent (manager.next call) := (next_keeps consistent call).1

/-- The lists are consistent after whatever calls in whatever order, whichever units there are and
however they are related. -/
theorem always_consistent (owner : Nat) (calls : List (World × Call)) :
    Always next Consistent (initial owner) calls :=
  always_of_step (fun _ call consistent _ => next_consistent consistent call)
    (initial_consistent owner) (along_true _ _)

end ThreatManager

end DarkCore.Threat
