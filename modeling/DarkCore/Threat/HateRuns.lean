/-
Runs of a threat manager refine runs of the map from units to entries: a call
makes of the map what the map and the call alone determine. Only what a taunt
lends depends on the victim, which the map leaves out.
-/

import DarkCore.Threat.HateCalls
import DarkCore.Threat.Resets

namespace DarkCore.Threat

open Lib ThreatManager

def percentMade (world : World) (creature unit : Nat) (percent : Int) (entry : Option Entry) :
    Option (Option Entry × List Nat) :=
  entry.bind fun known =>
    addMade world creature unit (known.threat * percent / 100) (some known)

def lendMade (world : World) (creature unit : Nat) (threat : ℚ) (entry : Option Entry) :
    Option (Option Entry × List Nat) :=
  entry.bind fun known =>
    if known.tempThreatModifier = 0 ∧ threat ≠ 0 then
      addMade world creature unit threat (some { known with tempThreatModifier := threat })
    else none

def returnMade (world : World) (creature unit : Nat) (entry : Option Entry) :
    Option (Option Entry × List Nat) :=
  entry.bind fun known =>
    if known.tempThreatModifier = 0 then none
    else
      some (some { known.add world unit (-known.tempThreatModifier) with tempThreatModifier := 0 },
        drawnInBy world creature unit (-known.tempThreatModifier))

def HateMap.gain (world : World) (creature unit : Nat) (threat : ℚ) (hate : HateMap) : HateMap :=
  hate.change world unit (addMade world creature unit threat (hate unit))

/-- What a call can make of the map. `filter` leaves out a unit that is offline. -/
def HateMap.Becomes (world : World) (creature : Nat) (hate after : HateMap) : Call → Prop
  | .addThreat victim threat reducedThreatPercent misdirectionTarget =>
    after =
      if world.acceptedBy creature victim then
        if 0 < threat ∧ reducedThreatPercent ≠ 0 then
          let reducedThreat := threat * reducedThreatPercent / 100
          let diverted :=
            match misdirectionTarget with
            | some unit => hate.gain world creature unit reducedThreat
            | none => hate
          diverted.gain world creature victim (threat - reducedThreat)
        else hate.gain world creature victim threat
      else hate
  | .modifyThreatPercent victim percent =>
    after = hate.change world victim
      (percentMade world creature victim percent ((hate victim).filter Entry.online))
  | .tauntApply taunter =>
    after = hate ∨ ∃ bonus, 0 < bonus ∧ after = hate.change world taunter
      (lendMade world creature taunter bonus ((hate taunter).filter Entry.online))
  | .tauntFadeOut taunter =>
    after = hate.change world taunter
      (returnMade world creature taunter ((hate taunter).filter Entry.online))
  | .resetAllAggro => after = hate.reset world creature fun _ => true
  | .resetAggro predicate => after = hate.reset world creature predicate
  | .clearReferences => after = fun _ => none
  | .getHostilTarget | .forceVictim _ => after = hate
  | .threatAssist unit threat =>
    after = hate.change world unit (threatAssistMade world creature unit threat (hate unit))
  | .addThreatPercent unit percent =>
    after = hate.change world unit (percentMade world creature unit percent (hate unit))
  | .addTempThreat unit threat =>
    after = hate.change world unit (lendMade world creature unit threat (hate unit))
  | .resetTempThreat unit =>
    after = hate.change world unit (returnMade world creature unit (hate unit))
  | .setOnlineOfflineState unit online =>
    after = hate.change world unit (statusMade online (hate unit))
  | .updateOnlineStatus unit =>
    after = hate.change world unit (statusMade (world.canBeOnline unit) (hate unit))
  | .removeReference unit => after = hate.change world unit (removalMade (hate unit))

namespace ThreatManager

variable {manager : ThreatManager} {world : World}

theorem fadeMade_eq (world : World) (creature unit : Nat) (entry : Option Entry) :
    fadeMade world creature unit entry =
      returnMade world creature unit (entry.filter Entry.online) := by
  cases entry with
  | none => rfl
  | some known =>
    unfold fadeMade returnMade
    rw [Option.filter_some, Option.bind_some]
    cases online : known.online <;> simp

section

variable (consistent : Consistent manager)
include consistent

theorem hate_addThreatPercent {ref : Nat} (member : ref ∈ manager.listed) (percent : Int) :
    (manager.addThreatPercent world ref percent).hate =
      HateMap.change world (manager.unitOf ref)
        (percentMade world manager.owner (manager.unitOf ref) percent
          (some (manager.entryOf ref))) manager.hate :=
  hate_addThreatTo consistent member _

theorem hate_addTempThreat {ref : Nat} (member : ref ∈ manager.listed)
    (unlent : (manager.refs ref).tempThreatModifier = 0) (threat : ℚ) :
    (manager.addTempThreat world ref threat).hate =
      HateMap.change world (manager.unitOf ref)
        (lendMade world manager.owner (manager.unitOf ref) threat
          (some (manager.entryOf ref))) manager.hate := by
  have noted : Extends manager (manager.setTempThreatModifier ref threat) :=
    setRef_extends consistent ref rfl rfl
  have unitSame := noted.units ref (consistent.made ref member)
  have entry : (manager.setTempThreatModifier ref threat).entryOf ref =
      { manager.entryOf ref with tempThreatModifier := threat } := by
    simp [entryOf, threatOf, setTempThreatModifier, refs_setRef_self]
  have before : (manager.setTempThreatModifier ref threat).hate = _ :=
    hate_setRef consistent member rfl rfl
  unfold addTempThreat lendMade
  dsimp only
  split
  next nothing =>
    have same : (some { manager.entryOf ref with tempThreatModifier := threat }) =
        manager.hate (manager.unitOf ref) := by
      rw [hate_unitOf consistent member, nothing, ← unlent]
      rfl
    rw [Option.bind_some, if_neg fun both => both.2 nothing, before]
    exact (congrArg _ same).trans (Function.update_eq_self _ _)
  next lent =>
    rw [Option.bind_some, if_pos ⟨unlent, lent⟩,
      hate_addThreatTo noted.consistent (noted.kept ref member), noted.owner, unitSame, entry,
      before, Function.update_idem]
    rfl

theorem hate_onOnline (unit : Nat) {act : Nat → ThreatManager → ThreatManager}
    {made : Option Entry → Option (Option Entry × List Nat)} (nothing : made none = none)
    (acts : ∀ ref ∈ manager.listed, manager.unitOf ref = unit → (act ref manager).hate =
        HateMap.change world unit (made (some (manager.entryOf ref))) manager.hate) :
    (match manager.findIn manager.threatList unit with
      | some ref => act ref manager
      | none => manager).hate =
      HateMap.change world unit (made ((manager.hate unit).filter Entry.online)) manager.hate := by
  cases found : manager.findIn manager.threatList unit with
  | none =>
    have hidden : (manager.hate unit).filter Entry.online = none := by
      cases known : manager.hate unit with
      | none => rfl
      | some entry =>
        rw [Option.filter_some, offline_of_findIn_eq_none consistent found known]
        rfl
    rw [hidden, nothing]
    rfl
  | some ref =>
    obtain ⟨member, same, known, online⟩ := hate_of_findIn consistent found
    rw [known, Option.filter_some, if_pos online]
    exact acts ref member same

theorem hate_returned (unit : Nat) :
    (manager.next (world, .resetTempThreat unit)).hate =
      HateMap.change world unit (returnMade world manager.owner unit (manager.hate unit))
        manager.hate := by
  refine hate_onReference consistent unit rfl ?_
  intro ref member same
  unfold returnMade
  rw [Option.bind_some]
  by_cases unlent : (manager.refs ref).tempThreatModifier = 0
  · dsimp only
    unfold resetTempThreat
    rw [if_pos unlent, if_pos (show (manager.entryOf ref).tempThreatModifier = 0 from unlent)]
    rfl
  · rw [if_neg (show (manager.entryOf ref).tempThreatModifier ≠ 0 from unlent)]
    exact same ▸ hate_resetTempThreat consistent member unlent

theorem hate_lent (unit : Nat) (threat : ℚ) :
    (manager.next (world, .addTempThreat unit threat)).hate =
      HateMap.change world unit (lendMade world manager.owner unit threat (manager.hate unit))
        manager.hate := by
  refine hate_onReference consistent unit rfl ?_
  intro ref member same
  split
  next unlent => exact same ▸ hate_addTempThreat consistent member unlent threat
  next lent =>
    unfold lendMade
    rw [Option.bind_some, if_neg fun both => lent both.1]
    rfl

theorem hate_next (world : World) (call : Call) :
    manager.hate.Becomes world manager.owner (manager.next (world, call)).hate call := by
  cases call with
  | addThreat victim threat reducedThreatPercent misdirectionTarget =>
    exact hate_addThreat consistent victim threat reducedThreatPercent misdirectionTarget
  | modifyThreatPercent victim percent =>
    exact hate_onOnline consistent victim rfl fun ref member same =>
      same ▸ hate_addThreatPercent consistent member percent
  | tauntApply taunter =>
    rcases hate_tauntApply consistent taunter with
      unchanged | ⟨entry, bonus, known, online, unlent, positive, changed⟩
    · exact Or.inl unchanged
    · refine Or.inr ⟨bonus, positive, changed.trans ?_⟩
      unfold lendMade
      rw [known, Option.filter_some, if_pos online, Option.bind_some,
        if_pos ⟨unlent, ne_of_gt positive⟩]
      rfl
  | tauntFadeOut taunter =>
    have faded : (manager.tauntFadeOut world taunter).hate = _ :=
      hate_tauntFadeOut consistent taunter
    rw [fadeMade_eq] at faded
    exact faded
  | resetAllAggro => exact hate_resetAggro consistent fun _ => true
  | resetAggro predicate => exact hate_resetAggro consistent predicate
  | clearReferences => rfl
  | getHostilTarget => exact hate_getHostilTarget consistent
  | forceVictim unit => exact hate_forceVictim unit
  | threatAssist unit threat => exact hate_threatAssist consistent unit threat
  | addThreatPercent unit percent =>
    exact hate_onReference consistent unit rfl fun ref member same =>
      same ▸ hate_addThreatPercent consistent member percent
  | addTempThreat unit threat => exact hate_lent consistent unit threat
  | resetTempThreat unit => exact hate_returned consistent unit
  | setOnlineOfflineState unit online => exact hate_setOnline consistent unit online
  | updateOnlineStatus unit => exact hate_updateStatus consistent unit
  | removeReference unit => exact hate_removal consistent unit

end

/-- Every run of calls is one of the map's. -/
theorem refines_hateMap (creature : Nat) (calls : List (World × Call)) :
    Along next (fun manager call =>
        manager.hate.Becomes call.1 creature (manager.next call).hate call.2)
      (initial creature) calls := by
  have kept : ∀ manager call, Consistent manager ∧ manager.owner = creature → True →
      Consistent (manager.next call) ∧ (manager.next call).owner = creature := by
    rintro manager call ⟨consistent, owner⟩ -
    have keeps := next_keeps consistent call
    exact ⟨keeps.1, keeps.2.trans owner⟩
  refine along_of_step kept ?_ ⟨initial_consistent creature, rfl⟩ (along_true _ calls)
  rintro manager ⟨world, call⟩ ⟨consistent, rfl⟩ -
  exact hate_next consistent world call

end ThreatManager

end DarkCore.Threat
