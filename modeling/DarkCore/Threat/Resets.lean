/-
What a reset does to the map from units to entries. The loop goes over the
online list while owners of the units come into it, and can go over those as
well; where it ends does not depend on the order of the list.
-/

import DarkCore.Threat.Hate
import Mathlib.Tactic.Linarith

namespace DarkCore.Threat

/-- The unit is met when the threat of these units is reset: it is above one of them that is online
and has no positive threat. -/
def BroughtIn (world : World) (creature : Nat) (predicate : Nat → Bool) (hate : HateMap)
    (units : Nat → Prop) (unit : Nat) : Prop :=
  ∃ other entry, units other ∧ hate other = some entry ∧ entry.online = true ∧
    predicate other = true ∧ entry.threat ≤ 0 ∧ unit ∈ world.drawnIn creature other

open Classical in
noncomputable def Entry.resetIf (condition : Prop) (entry : Entry) : Entry :=
  if condition then { entry with threat := 0 } else entry

open Classical in
noncomputable def Entry.metIf (condition : Prop) (world : World) (unit : Nat)
    (entry : Option Entry) : Option Entry :=
  if condition then some (Entry.met world unit entry) else entry

noncomputable def HateMap.resetTo (world : World) (creature : Nat) (predicate : Nat → Bool)
    (units : Nat → Prop) (hate : HateMap) : HateMap :=
  fun unit =>
    (Entry.metIf (BroughtIn world creature predicate hate units unit) world unit (hate unit)).map
      (Entry.resetIf (units unit ∧ predicate unit = true))

noncomputable def HateMap.reset (world : World) (creature : Nat) (predicate : Nat → Bool)
    (hate : HateMap) : HateMap :=
  fun unit =>
    (Entry.metIf (BroughtIn world creature predicate hate (fun _ => True) unit) world unit
      (hate unit)).map fun entry =>
        entry.resetIf (entry.online = true ∧ predicate unit = true)

namespace ThreatManager

variable {manager before middle after : ThreatManager} {world : World}

theorem setOnlineOfflineState_grows {ref : Nat} (online : Bool)
    (offline : (manager.refs ref).online = false) :
    manager.threatList <+: (manager.setOnlineOfflineState ref online).threatList := by
  cases online with
  | false =>
    have same : manager.setOnlineOfflineState ref false = manager := by
      simp_all [setOnlineOfflineState]
    exact same.symm ▸ List.prefix_refl _
  | true =>
    rw [setOnlineOfflineState_of_offline offline]
    exact List.prefix_append _ _

theorem updateOnlineStatus_grows {ref : Nat} (offline : (manager.refs ref).online = false) :
    manager.threatList <+: (manager.updateOnlineStatus world ref).threatList := by
  obtain ⟨accessible, same⟩ := updateOnlineStatus_eq manager world ref
  have status : ((manager.setAccessibleState ref accessible).refs ref).online = false := by
    grind [setAccessibleState, refs_setRef_self]
  rw [same]
  exact setOnlineOfflineState_grows _ status

theorem changeThreat_grows (ref : Nat) (amount : ℚ) :
    manager.threatList <+: (manager.changeThreat world ref amount).threatList := by
  have kept (checked : ThreatManager) :
      (if amount = 0 then checked else checked.onThreatChange ref amount).threatList =
        checked.threatList := by
    grind [onThreatChange]
  unfold changeThreat
  rw [kept]
  split
  · exact List.prefix_refl _
  next offline => exact updateOnlineStatus_grows (Bool.not_eq_true _ |>.mp offline)

theorem withReference_grows (consistent : Consistent manager) (unit : Nat)
    {add : Nat → ThreatManager → ThreatManager}
    (adds : ∀ manager ref, Consistent manager → ref ∈ manager.listed →
      Extends manager (add ref manager))
    (grows : ∀ manager ref, Consistent manager → ref ∈ manager.listed →
      manager.threatList <+: (add ref manager).threatList) :
    manager.threatList <+: (manager.withReference world unit add).threatList := by
  unfold withReference
  split
  next ref found => exact grows manager ref consistent (getReference_eq_some found).1
  next unknown =>
    have created := create_extends consistent unknown
    have member : manager.nextRef ∈ (manager.create unit).listed := mem_listed_create unit
    have added := adds _ _ created.consistent member
    have longer : manager.threatList <+: (add manager.nextRef (manager.create unit)).threatList :=
      (List.prefix_append _ _).trans (grows _ _ created.consistent member)
    split
    · cases status : ((add manager.nextRef (manager.create unit)).refs manager.nextRef).online with
      | false => exact longer.trans (setOnlineOfflineState_grows false status)
      | true =>
        rw [setOnlineOfflineState_of_online status]
        have without := longer.filter (· ≠ manager.nextRef)
        rw [List.filter_eq_self.mpr] at without
        · exact without
        · intro ref there
          have bound := consistent.made ref (List.mem_append_left _ there)
          exact decide_eq_true (Nat.ne_of_lt bound)
    · exact longer

theorem refAddThreat_grows (chain : List Nat) :
    ∀ (amount : ℚ) (manager : ThreatManager) (ref : Nat), Consistent manager →
      ref ∈ manager.listed →
      manager.threatList <+: (refAddThreat world chain ref amount manager).threatList := by
  induction chain with
  | nil => exact fun amount _ ref _ _ => changeThreat_grows ref amount
  | cons owner above ih =>
    intro amount manager ref consistent member
    have changed : manager.threatList <+: (manager.changeThreat world ref amount).threatList :=
      changeThreat_grows ref amount
    unfold refAddThreat
    dsimp only
    split
    · exact changed.trans (withReference_grows
        (changeThreat_extends consistent member amount).consistent owner
        (fun manager ref => refAddThreat_extends above 0 manager ref)
        fun manager ref => ih 0 manager ref)
    · exact changed

theorem drawnIn_subset {creature unit owner : Nat} (member : owner ∈ world.drawnIn creature unit) :
    ∀ above ∈ world.drawnIn creature owner, above ∈ world.drawnIn creature unit := by
  unfold World.drawnIn at *
  generalize same : world.charmersOrOwners unit = chain at member
  induction chain generalizing unit with
  | nil => cases member
  | cons first rest ih =>
    have tail := world.nested unit first rest same
    rw [List.takeWhile_cons] at member ⊢
    cases accepted : world.acceptedBy creature first with
    | false =>
      simp_all
    | true =>
      rw [accepted, if_pos rfl] at member
      rw [if_pos rfl]
      intro above there
      rcases List.mem_cons.mp member with here | later
      · simp_all
      · exact List.mem_cons_of_mem _ (ih tail later above there)

theorem Entry.resetIf_pos {condition : Prop} (holds : condition) (entry : Entry) :
    entry.resetIf condition = { entry with threat := 0 } :=
  if_pos holds

theorem Entry.resetIf_neg {condition : Prop} (fails : ¬ condition) (entry : Entry) :
    entry.resetIf condition = entry :=
  if_neg fails

theorem Entry.online_resetIf (condition : Prop) (entry : Entry) :
    (entry.resetIf condition).online = entry.online := by
  unfold Entry.resetIf
  split <;> rfl

theorem Entry.metIf_pos {condition : Prop} (holds : condition) (unit : Nat)
    (entry : Option Entry) :
    Entry.metIf condition world unit entry = some (Entry.met world unit entry) :=
  if_pos holds

theorem Entry.metIf_neg {condition : Prop} (fails : ¬ condition) (unit : Nat)
    (entry : Option Entry) : Entry.metIf condition world unit entry = entry :=
  if_neg fails

theorem Entry.met_map_resetIf (unit : Nat) (entry : Option Entry) (condition : Prop) :
    Entry.met world unit (entry.map (Entry.resetIf condition)) =
      (Entry.met world unit entry).resetIf condition := by
  by_cases holds : condition
  · rw [Entry.resetIf_pos holds]
    cases entry with
    | none => rfl
    | some entry =>
      rw [Option.map_some, Entry.resetIf_pos holds]
      unfold Entry.met Entry.add
      dsimp only
      rw [add_zero]
  · rw [Entry.resetIf_neg holds]
    cases entry with
    | none => rfl
    | some entry => rw [Option.map_some, Entry.resetIf_neg holds]

section Step

variable {creature : Nat} {predicate : Nat → Bool} {hate : HateMap} {units others : Nat → Prop}
  {unit : Nat}

theorem resetTo_start (creature : Nat) (predicate : Nat → Bool) (hate : HateMap) :
    hate.resetTo world creature predicate (fun _ => False) = hate := by
  funext unit
  unfold HateMap.resetTo
  rw [Entry.metIf_neg fun ⟨_, _, wrong, _⟩ => wrong]
  cases hate unit with
  | none => rfl
  | some entry => rw [Option.map_some, Entry.resetIf_neg fun both => both.1]

theorem resetTo_of_broughtIn
    (brought : BroughtIn world creature predicate hate units unit) :
    hate.resetTo world creature predicate units unit =
      some ((Entry.met world unit (hate unit)).resetIf (units unit ∧ predicate unit = true)) := by
  unfold HateMap.resetTo
  rw [Entry.metIf_pos brought]
  rfl

theorem resetTo_of_not_broughtIn
    (left : ¬ BroughtIn world creature predicate hate units unit) :
    hate.resetTo world creature predicate units unit =
      (hate unit).map (Entry.resetIf (units unit ∧ predicate unit = true)) := by
  unfold HateMap.resetTo
  rw [Entry.metIf_neg left]

theorem resetTo_congr
    (brought : BroughtIn world creature predicate hate units unit ↔
      BroughtIn world creature predicate hate others unit)
    (done : units unit ∧ predicate unit = true ↔ others unit ∧ predicate unit = true) :
    hate.resetTo world creature predicate units unit =
      hate.resetTo world creature predicate others unit := by
  unfold HateMap.resetTo
  rw [propext brought, propext done]

theorem resetTo_of_fresh (fresh : ¬ units unit)
    (brought : BroughtIn world creature predicate hate others unit ↔
      BroughtIn world creature predicate hate units unit)
    (done : others unit) (hit : predicate unit = true) :
    hate.resetTo world creature predicate others unit =
      (hate.resetTo world creature predicate units unit).map fun entry =>
        { entry with threat := 0 } := by
  unfold HateMap.resetTo
  rw [propext brought, Option.map_map]
  apply congrFun
  apply congrArg
  funext entry
  rw [Function.comp_apply, Entry.resetIf_pos ⟨done, hit⟩, Entry.resetIf_neg fun both => fresh both.1]

theorem same_or_broughtIn {entry : Entry} (fresh : ¬ units unit)
    (known : hate.resetTo world creature predicate units unit = some entry) :
    hate unit = some entry ∨ BroughtIn world creature predicate hate units unit := by
  by_cases brought : BroughtIn world creature predicate hate units unit
  · exact Or.inr brought
  · rw [resetTo_of_not_broughtIn brought] at known
    obtain ⟨old, before, same⟩ := Option.map_eq_some_iff.mp known
    rw [Entry.resetIf_neg fun both => fresh both.1] at same
    exact Or.inl (before.trans (congrArg some same))

theorem threat_of_resetTo {entry old : Entry} (fresh : ¬ units unit)
    (known : hate.resetTo world creature predicate units unit = some entry)
    (before : hate unit = some old) : old.threat = entry.threat := by
  by_cases brought : BroughtIn world creature predicate hate units unit
  · rw [resetTo_of_broughtIn brought, before, Entry.resetIf_neg fun both => fresh both.1] at known
    injection known with same
    rw [← same]
    exact (add_zero old.threat).symm
  · rw [resetTo_of_not_broughtIn brought, before, Option.map_some,
      Entry.resetIf_neg fun both => fresh both.1] at known
    injection known with same
    rw [same]

theorem broughtIn_or {added : Nat} :
    BroughtIn world creature predicate hate (fun other => units other ∨ other = added) unit ↔
      BroughtIn world creature predicate hate units unit ∨
        ∃ entry, hate added = some entry ∧ entry.online = true ∧ predicate added = true ∧
          entry.threat ≤ 0 ∧ unit ∈ world.drawnIn creature added := by
  constructor
  · rintro ⟨other, entry, inside | same, rest⟩
    · exact Or.inl ⟨other, entry, inside, rest⟩
    · rw [same] at rest
      exact Or.inr ⟨entry, rest⟩
  · rintro (⟨other, entry, inside, rest⟩ | ⟨entry, rest⟩)
    · exact ⟨other, entry, Or.inl inside, rest⟩
    · exact ⟨added, entry, Or.inr rfl, rest⟩

theorem resetTo_skip {added : Nat} (spared : predicate added = false) :
    hate.resetTo world creature predicate (fun other => units other ∨ other = added) =
      hate.resetTo world creature predicate units := by
  funext unit
  apply resetTo_congr
  · simp [broughtIn_or, or_iff_left, spared]
  · grind

theorem resetTo_hit {added : Nat} {entry : Entry} (fresh : ¬ units added)
    (known : hate.resetTo world creature predicate units added = some entry)
    (online : entry.online = true) (hit : predicate added = true) :
    hate.resetTo world creature predicate (fun other => units other ∨ other = added) =
      HateMap.meet world (drawnInBy world creature added (0 - entry.threat))
        (Function.update (hate.resetTo world creature predicate units) added
          (some (entry.add world added (0 - entry.threat)))) := by
  funext other
  by_cases here : other = added
  · have zeroed : entry.add world added (0 - entry.threat) = { entry with threat := 0 } := by
      simp_all [Entry.add]
    have same : BroughtIn world creature predicate hate
          (fun other => units other ∨ other = added) added ↔
        BroughtIn world creature predicate hate units added := by
      rw [broughtIn_or, or_iff_left]
      rintro ⟨-, -, -, -, -, above⟩
      exact not_mem_drawnIn world creature added above
    rw [here, meet_update_of_notMem (not_mem_drawnInBy world creature added _),
      Function.update_self, zeroed, resetTo_of_fresh fresh same (Or.inr rfl) hit, known]
    rfl
  · unfold HateMap.meet
    rw [Function.update_of_ne here]
    have done : (units other ∨ other = added) ∧ predicate other = true ↔
        units other ∧ predicate other = true :=
      and_congr_left fun _ => or_iff_left here
    by_cases above : other ∈ drawnInBy world creature added (0 - entry.threat)
    · obtain ⟨low, drawn⟩ : entry.threat ≤ 0 ∧ other ∈ world.drawnIn creature added := by
        simp_all [drawnInBy]
      have brought : BroughtIn world creature predicate hate
          (fun other => units other ∨ other = added) other := by
        rw [broughtIn_or]
        rcases same_or_broughtIn fresh known with before | ⟨lower, old, inside, was, on, struck, few, under⟩
        · exact Or.inr ⟨entry, before, online, hit, low, drawn⟩
        · exact Or.inl ⟨lower, old, inside, was, on, struck, few, drawnIn_subset under other drawn⟩
      rw [if_pos above, resetTo_of_broughtIn brought, propext done]
      apply congrArg some
      by_cases earlier : BroughtIn world creature predicate hate units other
      · rw [resetTo_of_broughtIn earlier, ← Option.map_some, Entry.met_map_resetIf, Entry.met_met]
      · rw [resetTo_of_not_broughtIn earlier, Entry.met_map_resetIf]
    · rw [if_neg above]
      apply resetTo_congr _ done
      rw [broughtIn_or, or_iff_left]
      rintro ⟨old, before, -, -, low, drawn⟩
      rw [threat_of_resetTo fresh known before] at low
      apply above
      unfold drawnInBy
      rw [if_pos (by linarith)]
      exact drawn

end Step

theorem hate_of_resetTo_all (consistent : Consistent manager) {predicate : Nat → Bool}
    {hate : HateMap}
    (progress : manager.hate = hate.resetTo world manager.owner predicate
      (fun unit => unit ∈ manager.threatList.map manager.unitOf)) :
    manager.hate = hate.reset world manager.owner predicate := by
  have listed_of_online {other : Nat} {entry : Entry} (before : hate other = some entry)
      (online : entry.online = true) : other ∈ manager.threatList.map manager.unitOf := by
    by_cases brought : BroughtIn world manager.owner predicate hate
        (fun unit => unit ∈ manager.threatList.map manager.unitOf) other
    · have now := (congrFun progress other).trans (resetTo_of_broughtIn brought)
      refine (online_iff_of_hate consistent now).mp ?_
      rw [Entry.online_resetIf, before]
      unfold Entry.met Entry.add
      dsimp only
      rw [online, Bool.true_or]
    · have now := (congrFun progress other).trans (resetTo_of_not_broughtIn brought)
      rw [before, Option.map_some] at now
      refine (online_iff_of_hate consistent now).mp ?_
      rw [Entry.online_resetIf, online]
  funext unit
  have brought : BroughtIn world manager.owner predicate hate
        (fun unit => unit ∈ manager.threatList.map manager.unitOf) unit ↔
      BroughtIn world manager.owner predicate hate (fun _ => True) unit := by
    constructor
    · rintro ⟨other, entry, -, rest⟩
      exact ⟨other, entry, trivial, rest⟩
    · rintro ⟨other, entry, -, before, online, rest⟩
      exact ⟨other, entry, listed_of_online before online, before, online, rest⟩
  have now := congrFun progress unit
  unfold HateMap.resetTo at now
  unfold HateMap.reset
  rw [propext brought] at now
  cases shown : Entry.metIf (BroughtIn world manager.owner predicate hate (fun _ => True) unit)
      world unit (hate unit) with
  | none =>
    simp_all
  | some entry =>
    rw [shown, Option.map_some] at now
    have status := online_iff_of_hate consistent now
    rw [Entry.online_resetIf] at status
    rw [now, Option.map_some, propext status]

theorem hate_resetFrom {units : List Nat}
    (closed : ∀ unit ∈ units, ∀ owner ∈ world.charmersOrOwners unit, owner ∈ units)
    (predicate : Nat → Bool) (hate : HateMap) (creature : Nat) (fuel : Nat) :
    ∀ (position : Nat) (manager : ThreatManager) (done : List Nat), Consistent manager →
      manager.owner = creature → Within units manager → units.length ≤ position + fuel →
      done <+: manager.threatList → done.length = position →
      manager.hate = hate.resetTo world creature predicate
        (fun unit => unit ∈ done.map manager.unitOf) →
      (manager.resetFrom world predicate fuel position).hate =
        hate.reset world creature predicate := by
  have finish (manager : ThreatManager) (done : List Nat) (consistent : Consistent manager)
      (owner : manager.owner = creature) (front : done <+: manager.threatList)
      (whole : manager.threatList.length ≤ done.length)
      (progress : manager.hate = hate.resetTo world creature predicate
        (fun unit => unit ∈ done.map manager.unitOf)) :
      manager.hate = hate.reset world creature predicate := by
    rw [front.eq_of_length_le whole, ← owner] at progress
    rw [← owner]
    exact hate_of_resetTo_all consistent progress
  induction fuel with
  | zero =>
    intro position manager done consistent owner within bound front size progress
    refine finish manager done consistent owner front ?_ progress
    rw [size]
    exact (within.length_le consistent).trans bound
  | succ fuel ih =>
    intro position manager done consistent owner within bound front size progress
    unfold resetFrom
    split
    next ended =>
      simp_all
    next ref found =>
      obtain ⟨rest, split⟩ := front
      have next : rest[0]? = some ref := by
        grind
      obtain ⟨later, restEq⟩ : ∃ later, rest = ref :: later := by
        cases rest with
        | nil => cases next
        | cons first later =>
          simp_all
      rw [restEq] at split
      have online : ref ∈ manager.threatList := List.mem_of_getElem? found
      have listed : ref ∈ manager.listed := List.mem_append_left _ online
      have known := hate_unitOf consistent listed
      have grown : done ++ [ref] <+: manager.threatList :=
        ⟨later, by rw [← split, List.append_assoc]; rfl⟩
      have size' : (done ++ [ref]).length = position + 1 := by
        simp_all
      have fresh : manager.unitOf ref ∉ done.map manager.unitOf := by
        intro earlier
        obtain ⟨other, before, same⟩ := List.mem_map.mp earlier
        have otherOnline : other ∈ manager.threatList :=
          split ▸ List.mem_append_left _ before
        have isRef := consistent.unit_inj (List.mem_append_left _ otherOnline) listed same
        have nodup := (List.nodup_append.mp consistent.nodup).1
        rw [← split] at nodup
        exact (List.nodup_append.mp nodup).2.2 other before ref List.mem_cons_self isRef
      have enough : units.length ≤ position + 1 + fuel := by omega
      have members : (fun unit => unit ∈ (done ++ [ref]).map manager.unitOf) =
          fun unit => unit ∈ done.map manager.unitOf ∨ unit = manager.unitOf ref := by
        simp
      rw [progress] at known
      cases hit : predicate (manager.unitOf ref) with
      | false =>
        rw [if_neg Bool.false_ne_true]
        refine ih _ manager _ consistent owner within enough grown size' ?_
        rw [members, resetTo_skip hit]
        exact progress
      | true =>
        rw [if_pos rfl]
        have reset : Extends manager (manager.setThreat world ref 0) :=
          addThreatTo_extends consistent listed _
        have marked := setDirty_extends reset.consistent true
        have longer : done ++ [ref] <+: (manager.setThreat world ref 0).threatList :=
          grown.trans (refAddThreat_grows _ _ manager ref consistent listed)
        have within' : Within units (manager.setThreat world ref 0) :=
          refAddThreat_within _ (closed _ (within ref listed)) _ manager ref consistent
            listed within
        refine ih _ _ (done ++ [ref]) marked.consistent (reset.owner.trans owner) within'
          enough longer size' ?_
        have sameUnits : (done ++ [ref]).map (manager.setThreat world ref 0).unitOf =
            (done ++ [ref]).map manager.unitOf :=
          List.map_congr_left fun other member =>
            reset.units other (consistent.made other (List.mem_append_left _ (grown.subset member)))
        change (manager.setThreat world ref 0).hate = hate.resetTo world creature predicate
          (fun unit => unit ∈ (done ++ [ref]).map (manager.setThreat world ref 0).unitOf)
        rw [sameUnits, members, resetTo_hit fresh known (consistent.online_of_mem online) hit]
        unfold setThreat
        rw [hate_addThreatTo consistent listed, owner, progress]
        rfl

theorem hate_resetAggro (consistent : Consistent manager) (predicate : Nat → Bool) :
    (manager.resetAggro world predicate).hate =
      manager.hate.reset world manager.owner predicate := by
  refine hate_resetFrom (reachable_closed world manager) predicate manager.hate manager.owner _ 0
    manager [] consistent rfl (within_reachable world manager)
    (by rw [length_reachable, Nat.zero_add]) (List.nil_prefix) rfl ?_
  have nobody : (fun unit => unit ∈ ([] : List Nat).map manager.unitOf) = fun _ => False := by
    simp
  rw [nobody, resetTo_start]

end ThreatManager

end DarkCore.Threat
