/-
What the calls of a threat manager do to the map from units to entries: each
changes the entry of one unit and lets the creature meet those above it, apart
from the resets.
-/

import DarkCore.Threat.Hate

namespace DarkCore.Threat

def HateMap.change (world : World) (unit : Nat) (result : Option (Option Entry × List Nat))
    (hate : HateMap) : HateMap :=
  match result with
  | some (entry, units) => HateMap.meet world units (Function.update hate unit entry)
  | none => hate

def entryAfter (made : Option Entry → Option (Option Entry × List Nat))
    (entry : Option Entry) : Option Entry :=
  match made entry with
  | some (changed, _) => changed
  | none => entry

namespace ThreatManager

variable {manager before after : ThreatManager} {world : World}

theorem hate_setRef (consistent : Consistent manager) {ref : Nat} (member : ref ∈ manager.listed)
    {reference : HostileReference} (unit : reference.unitGuid = manager.unitOf ref)
    (status : reference.online = (manager.refs ref).online) :
    (manager.setRef ref reference).hate =
      Function.update manager.hate (manager.unitOf ref)
        (some ⟨reference.threat, reference.tempThreatModifier, reference.online⟩) := by
  have entry : (manager.setRef ref reference).entryOf ref =
      ⟨reference.threat, reference.tempThreatModifier, reference.online⟩ := by
    unfold entryOf threatOf
    rw [refs_setRef_self]
  rw [← entry]
  exact hate_update (setRef_extends consistent ref unit status) consistent (fun _ same => same)
    member fun other apart => entryOf_congr (refs_setRef_of_ne apart reference)

theorem offline_of_findIn_eq_none (consistent : Consistent manager) {unit : Nat} {entry : Entry}
    (unknown : manager.findIn manager.threatList unit = none)
    (known : manager.hate unit = some entry) : entry.online = false := by
  rw [← Bool.not_eq_true, online_iff_of_hate consistent known]
  intro there
  obtain ⟨ref, member, same⟩ := List.mem_map.mp there
  exact findIn_eq_none unknown ref member same

theorem hate_of_findIn (consistent : Consistent manager) {unit ref : Nat}
    (found : manager.findIn manager.threatList unit = some ref) :
    ref ∈ manager.listed ∧ manager.unitOf ref = unit ∧
      manager.hate unit = some (manager.entryOf ref) ∧ (manager.entryOf ref).online = true := by
  obtain ⟨member, same⟩ := findIn_eq_some found
  have listed : ref ∈ manager.listed := List.mem_append_left _ member
  refine ⟨listed, same, ?_, consistent.online_of_mem member⟩
  rw [← same]
  exact hate_unitOf consistent listed

/-- Only a unit that is hated already is concerned. -/
def mapMade (changed : Entry → Option Entry) (units : List Nat) (entry : Option Entry) :
    Option (Option Entry × List Nat) :=
  entry.map fun entry => (changed entry, units)

def threatAssistMade (world : World) (creature unit : Nat) (amount : ℚ) :
    Option Entry → Option (Option Entry × List Nat) :=
  mapMade (fun entry => some (entry.add world unit amount)) (drawnInBy world creature unit amount)

def statusMade (online : Bool) : Option Entry → Option (Option Entry × List Nat) :=
  mapMade (fun entry => some { entry with online := online }) []

def removalMade : Option Entry → Option (Option Entry × List Nat) :=
  mapMade (fun _ => none) []

def fadeMade (world : World) (creature unit : Nat) (entry : Option Entry) :
    Option (Option Entry × List Nat) :=
  entry.bind fun entry =>
    if entry.online = true ∧ entry.tempThreatModifier ≠ 0 then
      some (some { entry.add world unit (-entry.tempThreatModifier) with tempThreatModifier := 0 },
        drawnInBy world creature unit (-entry.tempThreatModifier))
    else none

theorem hate_onReference (consistent : Consistent manager) (unit : Nat)
    {act : Nat → ThreatManager → ThreatManager}
    {made : Option Entry → Option (Option Entry × List Nat)} (nothing : made none = none)
    (acts : ∀ ref ∈ manager.listed, manager.unitOf ref = unit → (act ref manager).hate =
        HateMap.change world unit (made (some (manager.entryOf ref))) manager.hate) :
    (manager.onReference unit act).hate =
      HateMap.change world unit (made (manager.hate unit)) manager.hate := by
  unfold onReference
  cases found : manager.getReference unit with
  | none =>
    have known : manager.hate unit = none := by
      simp [hate, found]
    rw [known, nothing]
    rfl
  | some ref =>
    obtain ⟨member, same⟩ := getReference_eq_some found
    have known := hate_unitOf consistent member
    rw [same] at known
    rw [known]
    exact acts ref member same

def addMade (world : World) (creature unit : Nat) (amount : ℚ) (entry : Option Entry) :
    Option (Option Entry × List Nat) :=
  some (some (addedEntry world unit amount entry), drawnInBy world creature unit amount)

section

variable (consistent : Consistent manager)
include consistent

theorem hate_threatAssist (unit : Nat) (threat : ℚ) :
    (manager.next (world, .threatAssist unit threat)).hate =
      HateMap.change world unit
        (threatAssistMade world manager.owner unit threat (manager.hate unit)) manager.hate := by
  refine hate_onReference consistent unit rfl ?_
  intro ref member same
  rw [hate_addThreatTo consistent member, same]
  rfl

theorem hate_setOnline (unit : Nat) (online : Bool) :
    (manager.next (world, .setOnlineOfflineState unit online)).hate =
      HateMap.change world unit (statusMade online (manager.hate unit)) manager.hate := by
  refine hate_onReference consistent unit rfl ?_
  intro ref member same
  rw [hate_setOnlineOfflineState consistent member, same]
  exact (HateMap.meet_nil _).symm

theorem hate_updateStatus (unit : Nat) :
    (manager.next (world, .updateOnlineStatus unit)).hate =
      HateMap.change world unit (statusMade (world.canBeOnline unit) (manager.hate unit))
        manager.hate := by
  refine hate_onReference consistent unit rfl ?_
  intro ref member same
  rw [hate_updateOnlineStatus consistent member, same]
  exact (HateMap.meet_nil _).symm

theorem hate_resetTempThreat {ref : Nat}
    (member : ref ∈ manager.listed) (lent : (manager.refs ref).tempThreatModifier ≠ 0) :
    (manager.resetTempThreat world ref).hate =
      HateMap.change world (manager.unitOf ref)
        (some (some { (manager.entryOf ref).add world (manager.unitOf ref)
            (-(manager.entryOf ref).tempThreatModifier) with tempThreatModifier := 0 },
          drawnInBy world manager.owner (manager.unitOf ref)
            (-(manager.entryOf ref).tempThreatModifier))) manager.hate := by
  let lowered := manager.addThreatTo world ref (-(manager.refs ref).tempThreatModifier)
  have extended : Extends manager lowered := addThreatTo_extends consistent member _
  have unit : lowered.unitOf ref = manager.unitOf ref :=
    extended.units ref (consistent.made ref member)
  have apart := not_mem_drawnInBy world manager.owner (manager.unitOf ref)
    (-(manager.refs ref).tempThreatModifier)
  have added : lowered.hate = _ := hate_addThreatTo consistent member _
  have entry := hate_unitOf extended.consistent (extended.kept ref member)
  rw [unit, added, meet_update_of_notMem apart, Function.update_self] at entry
  injection entry with entry
  have cleared : (lowered.setTempThreatModifier ref 0).hate =
      Function.update lowered.hate (lowered.unitOf ref)
        (some { lowered.entryOf ref with tempThreatModifier := 0 }) :=
    hate_setRef extended.consistent (extended.kept ref member) rfl rfl
  unfold resetTempThreat
  rw [if_neg lent]
  refine cleared.trans ?_
  rw [unit, added, meet_update_of_notMem apart, Function.update_idem, ← entry]
  exact (meet_update_of_notMem apart manager.hate _).symm

theorem hate_tauntFadeOut (unit : Nat) :
    (manager.tauntFadeOut world unit).hate =
      HateMap.change world unit (fadeMade world manager.owner unit (manager.hate unit))
        manager.hate := by
  unfold tauntFadeOut
  cases found : manager.findIn manager.threatList unit with
  | none =>
    have nothing : fadeMade world manager.owner unit (manager.hate unit) = none := by
      cases known : manager.hate unit with
      | none => rfl
      | some entry =>
        have offline := offline_of_findIn_eq_none consistent found known
        unfold fadeMade
        rw [Option.bind_some, if_neg]
        rintro ⟨online, -⟩
        rw [offline] at online
        exact Bool.false_ne_true online
    rw [nothing]
    rfl
  | some ref =>
    obtain ⟨member, same, known, online⟩ := hate_of_findIn consistent found
    unfold fadeMade
    rw [known, Option.bind_some]
    by_cases lent : (manager.refs ref).tempThreatModifier = 0
    · rw [if_neg fun both => both.2 lent]
      dsimp only
      unfold resetTempThreat
      rw [if_pos lent]
      rfl
    · rw [if_pos ⟨online, lent⟩, ← same]
      exact hate_resetTempThreat consistent member lent

theorem hate_tauntApply (unit : Nat) :
    (manager.tauntApply world unit).hate = manager.hate ∨
      ∃ entry bonus, manager.hate unit = some entry ∧ entry.online = true ∧
        entry.tempThreatModifier = 0 ∧ 0 < bonus ∧
        (manager.tauntApply world unit).hate =
          HateMap.change world unit
            (some (some (Entry.add world unit bonus { entry with tempThreatModifier := bonus }),
              drawnInBy world manager.owner unit bonus)) manager.hate := by
  unfold tauntApply
  cases found : manager.findIn manager.threatList unit with
  | none => exact Or.inl rfl
  | some ref =>
    cases chosen : manager.currentVictim with
    | none => exact Or.inl rfl
    | some victim =>
      dsimp only
      split
      next less =>
        obtain ⟨member, same, known, online⟩ := hate_of_findIn consistent found
        have positive : 0 < manager.threatOf victim - manager.threatOf ref :=
          sub_pos.mpr less.1
        refine Or.inr ⟨manager.entryOf ref, manager.threatOf victim - manager.threatOf ref,
          known, online, less.2, positive, ?_⟩
        have noted : Extends manager (manager.setTempThreatModifier ref
            (manager.threatOf victim - manager.threatOf ref)) :=
          setRef_extends consistent ref rfl rfl
        have unitSame := (noted.units ref (consistent.made ref member)).trans same
        have entry : (manager.setTempThreatModifier ref
            (manager.threatOf victim - manager.threatOf ref)).entryOf ref =
            { manager.entryOf ref with
              tempThreatModifier := manager.threatOf victim - manager.threatOf ref } := by
          simp [entryOf, threatOf, setTempThreatModifier, refs_setRef_self]
        have before : (manager.setTempThreatModifier ref
            (manager.threatOf victim - manager.threatOf ref)).hate = _ :=
          hate_setRef consistent member rfl rfl
        unfold addTempThreat
        dsimp only
        rw [if_neg (ne_of_gt positive), hate_addThreatTo noted.consistent (noted.kept ref member),
          noted.owner, unitSame, entry, before, same, Function.update_idem]
        rfl
      · exact Or.inl rfl

end

theorem refs_onRemoveFromList (ref : Nat) :
    (manager.onRemoveFromList ref).refs = manager.refs := by
  unfold onRemoveFromList
  split <;> rfl

theorem listed_onRemoveFromList {ref : Nat} (offline : (manager.refs ref).online = false) :
    (manager.onRemoveFromList ref).listed =
      manager.threatList ++ manager.offlineThreatList.filter (· ≠ ref) := by
  unfold onRemoveFromList listed
  rw [offline, if_neg Bool.false_ne_true]

section

variable (consistent : Consistent manager)
include consistent

theorem mem_listed_removeReference {ref other : Nat}
    (member : ref ∈ manager.listed) :
    other ∈ (manager.removeReference ref).listed ↔ other ∈ manager.listed ∧ other ≠ ref := by
  have left : Extends manager (manager.setOnlineOfflineState ref false) :=
    setOnlineOfflineState_extends consistent member false
  have offline : ((manager.setOnlineOfflineState ref false).refs ref).online = false :=
    congrArg Entry.online (entryOf_setOnlineOfflineState ref false)
  have same : other ∈ (manager.setOnlineOfflineState ref false).listed ↔ other ∈ manager.listed :=
    ⟨setOnlineOfflineState_listed manager member false other, left.kept other⟩
  unfold removeReference
  rw [listed_onRemoveFromList offline, ← same]
  unfold listed
  rw [List.mem_append, List.mem_append, List.mem_filter, decide_eq_true_eq]
  constructor
  · rintro (online | ⟨there, apart⟩)
    · refine ⟨Or.inl online, ?_⟩
      intro here
      rw [here] at online
      rw [left.consistent.online_of_mem online] at offline
      exact Bool.noConfusion offline
    · exact ⟨Or.inr there, apart⟩
  · simp_all

theorem hate_removeReference {ref : Nat}
    (member : ref ∈ manager.listed) :
    (manager.removeReference ref).hate =
      Function.update manager.hate (manager.unitOf ref) none := by
  have left : Extends manager (manager.setOnlineOfflineState ref false) :=
    setOnlineOfflineState_extends consistent member false
  have removed := removeReference_consistent consistent member
  have refs : (manager.removeReference ref).refs =
      (manager.setOnlineOfflineState ref false).refs := refs_onRemoveFromList ref
  have units (other : Nat) (listed : other ∈ manager.listed) :
      (manager.removeReference ref).unitOf other = manager.unitOf other := by
    rw [← left.units other (consistent.made other listed)]
    exact congrArg HostileReference.unitGuid (congrFun refs other)
  funext unit
  by_cases here : unit = manager.unitOf ref
  · rw [here, Function.update_self]
    apply hate_eq_none
    intro other there same
    obtain ⟨listed, apart⟩ := (mem_listed_removeReference consistent member).mp there
    rw [units other listed] at same
    exact apart (consistent.unit_inj listed member same)
  · rw [Function.update_of_ne here]
    cases known : manager.hate unit with
    | none =>
      apply hate_eq_none
      intro other there same
      obtain ⟨listed, -⟩ := (mem_listed_removeReference consistent member).mp there
      rw [units other listed] at same
      rw [← same, hate_unitOf consistent listed] at known
      cases known
    | some entry =>
      obtain ⟨other, listed, same, isEntry⟩ := hate_eq_some known
      have apart : other ≠ ref := by
        grind
      have there := (mem_listed_removeReference consistent member).mpr ⟨listed, apart⟩
      rw [← same, ← units other listed, hate_unitOf removed there, ← isEntry]
      apply congrArg some
      apply entryOf_congr
      rw [refs, refs_setOnlineOfflineState_of_ne apart]

theorem hate_removal (unit : Nat) :
    (manager.next (world, .removeReference unit)).hate =
      HateMap.change world unit (removalMade (manager.hate unit)) manager.hate := by
  refine hate_onReference consistent unit rfl ?_
  intro ref member same
  rw [hate_removeReference consistent member, same]
  exact (HateMap.meet_nil _).symm

theorem hate_addThreat (victim : Nat) (threat : ℚ)
    (reducedThreatPercent : Nat) (misdirectionTarget : Option Nat) :
    (manager.addThreat world victim threat reducedThreatPercent misdirectionTarget).hate =
      if world.acceptedBy manager.owner victim then
        if 0 < threat ∧ reducedThreatPercent ≠ 0 then
          let reducedThreat := threat * reducedThreatPercent / 100
          let diverted :=
            match misdirectionTarget with
            | some unit =>
              HateMap.change world unit
                (addMade world manager.owner unit reducedThreat (manager.hate unit)) manager.hate
            | none => manager.hate
          HateMap.change world victim
            (addMade world manager.owner victim (threat - reducedThreat) (diverted victim)) diverted
        else
          HateMap.change world victim
            (addMade world manager.owner victim threat (manager.hate victim)) manager.hate
      else manager.hate := by
  unfold addThreat
  rw [accepts_eq]
  split
  · split
    · dsimp only
      cases misdirectionTarget with
      | none => exact hate_addThreatFor consistent victim _
      | some unit =>
        have diverted : Extends manager
            (manager.addThreatFor world unit (threat * reducedThreatPercent / 100)) :=
          addThreatFor_extends consistent unit _
        rw [hate_addThreatFor diverted.consistent, diverted.owner,
          hate_addThreatFor consistent unit]
        rfl
    · exact hate_addThreatFor consistent victim threat
  · rfl

theorem hate_getHostilTarget :
    (manager.next (world, .getHostilTarget)).hate = manager.hate := by
  have extended : Extends manager (manager.getHostilTarget world).2 :=
    getHostilTarget_extends consistent
  funext unit
  apply hate_congr extended consistent
  · intro ref member
    have updated : manager.update.listed.Perm manager.listed := by
      apply List.Perm.append _ (List.Perm.refl _)
      unfold update
      split
      · exact List.perm_insertionSort _ _
      · exact List.Perm.refl _
    exact updated.mem_iff.mp member
  · intro ref _ _
    rfl

end

theorem hate_forceVictim (unit : Nat) :
    (manager.next (world, .forceVictim unit)).hate = manager.hate := by
  change (manager.forceVictim unit).hate = manager.hate
  unfold forceVictim
  split <;> rfl

end ThreatManager

end DarkCore.Threat
