/-
Taunts. The threat that a taunter is lent is part of his threat until the taunt
fades, so what happens to him in between has to happen to a taunter without a
loan in the same way; and he has to be online when the taunt fades.
-/

import DarkCore.Threat.HateCalls
import DarkCore.Threat.Resets
import DarkCore.Threat.Selection

namespace DarkCore.Threat

open DarkCore.Lib ThreatManager

/-! ### Two managers, one without the loan -/

def Lent (lent plain : Option Entry) : Prop :=
  lent = none ∧ plain = none ∨
    ∃ entry bonus, plain = some entry ∧ entry.tempThreatModifier = 0 ∧
      lent = some { entry with
        threat := entry.threat + bonus
        tempThreatModifier := bonus }

/-- Nothing else differs, unless it is about those above the taunter. -/
structure Alike (taunter : Nat) (above : List Nat) (lent plain : HateMap) : Prop where
  others : ∀ unit, unit ≠ taunter → unit ∉ above → lent unit = plain unit
  taunter : Lent (lent taunter) (plain taunter)

variable {world : World} {taunter : Nat} {above : List Nat} {lent plain : HateMap}

variable {entry first second : Option Entry} {unit creature : Nat} {hate : HateMap}
    {predicate : Nat → Bool} {both : ThreatManager × ThreatManager} {manager : ThreatManager}

theorem Lent.same
    (unlent : ∀ known, entry = some known → known.tempThreatModifier = 0) : Lent entry entry := by
  cases entry with
  | none => exact Or.inl ⟨rfl, rfl⟩
  | some known =>
    refine Or.inr ⟨known, 0, rfl, unlent known rfl, ?_⟩
    rw [add_zero, ← unlent known rfl]

theorem Lent.add {entry : Entry} (unit : Nat) (amount bonus : ℚ)
    (unlent : entry.tempThreatModifier = 0) :
    Lent
      (some (Entry.add world unit amount
        { entry with threat := entry.threat + bonus, tempThreatModifier := bonus }))
      (some (entry.add world unit amount)) := by
  refine Or.inr ⟨entry.add world unit amount, bonus, rfl, unlent, ?_⟩
  unfold Entry.add
  rw [add_right_comm]

theorem Lent.met (related : Lent first second) (unit : Nat) :
    Lent (some (Entry.met world unit first)) (some (Entry.met world unit second)) := by
  rcases related with ⟨firstNone, secondNone⟩ | ⟨entry, bonus, isSecond, unlent, isFirst⟩
  · rw [firstNone, secondNone]
    refine Lent.same fun known same => ?_
    injection same with same
    rw [← same]
    rfl
  · rw [isFirst, isSecond]
    exact Lent.add unit 0 bonus unlent

theorem Lent.added (related : Lent first second) (unit : Nat)
    (amount : ℚ) :
    Lent (some (addedEntry world unit amount first)) (some (addedEntry world unit amount second)) := by
  rcases related with ⟨firstNone, secondNone⟩ | ⟨entry, bonus, isSecond, unlent, isFirst⟩
  · rw [firstNone, secondNone]
    refine Lent.same fun known same => ?_
    injection same with same
    rw [← same]
    rfl
  · rw [isFirst, isSecond]
    exact Lent.add unit amount bonus unlent

theorem Alike.meet (alike : Alike taunter above lent plain) (units : List Nat) :
    Alike taunter above (lent.meet world units) (plain.meet world units) := by
  constructor
  · intro unit apart outside
    unfold HateMap.meet
    rw [alike.others unit apart outside]
  · unfold HateMap.meet
    split
    · exact alike.taunter.met taunter
    · exact alike.taunter

/-! ### Changes of one unit -/

theorem change_of_ne {other : Nat} (apart : other ≠ unit)
    {result : Option (Option Entry × List Nat)}
    (left : ∀ entry units, result = some (entry, units) → other ∉ units) (hate : HateMap) :
    hate.change world unit result other = hate other := by
  unfold HateMap.change
  match shape : result with
  | none => rfl
  | some (entry, units) =>
    simp_all [HateMap.meet]

theorem change_self {made : Option Entry → Option (Option Entry × List Nat)}
    (left : ∀ entry units, made (hate unit) = some (entry, units) → unit ∉ units) :
    hate.change world unit (made (hate unit)) unit = entryAfter made (hate unit) := by
  unfold HateMap.change entryAfter
  match shape : made (hate unit) with
  | none => rfl
  | some (entry, units) =>
    simp_all [HateMap.meet]

theorem Alike.change (alike : Alike taunter above lent plain)
    (belongs : world.charmersOrOwners taunter = above)
    {made : Option Entry → Option (Option Entry × List Nat)}
    (drawn : ∀ old entry units, made old = some (entry, units) →
      ∀ owner ∈ units, owner ∈ world.charmersOrOwners unit)
    (own : unit = taunter →
      Lent (entryAfter made (lent taunter)) (entryAfter made (plain taunter))) :
    Alike taunter above (lent.change world unit (made (lent unit)))
      (plain.change world unit (made (plain unit))) := by
  have notAbove : taunter ∉ above := by
    intro member
    rw [← belongs] at member
    exact Nat.lt_irrefl _ (nested_length member)
  by_cases inside : unit = taunter ∨ unit ∈ above
  · have below : ∀ owner ∈ world.charmersOrOwners unit, owner ∈ above := by
      intro owner member
      rw [← belongs]
      rcases inside with same | higher
      · simp_all
      · rw [← belongs] at higher
        exact nested_mem higher owner member
    constructor
    · intro other apart outside
      have apart' : other ≠ unit := by
        intro same
        rcases inside with here | higher
        · exact apart (same.trans here)
        · simp_all
      rw [change_of_ne apart' fun entry units shape member =>
          outside (below other (drawn _ entry units shape other member)),
        change_of_ne apart' fun entry units shape member =>
          outside (below other (drawn _ entry units shape other member))]
      exact alike.others other apart outside
    · by_cases here : unit = taunter
      · have left (hate : HateMap) : ∀ entry units, made (hate unit) = some (entry, units) →
            unit ∉ units := by
          grind
        have onLent : lent.change world unit (made (lent unit)) unit =
            entryAfter made (lent unit) := change_self (left lent)
        have onPlain : plain.change world unit (made (plain unit)) unit =
            entryAfter made (plain unit) := change_self (left plain)
        rw [here] at onLent onPlain
        rw [here, onLent, onPlain]
        exact own here
      · rw [change_of_ne (Ne.symm here) fun entry units shape member =>
            notAbove (below taunter (drawn _ entry units shape taunter member)),
          change_of_ne (Ne.symm here) fun entry units shape member =>
            notAbove (below taunter (drawn _ entry units shape taunter member))]
        exact alike.taunter
  · obtain ⟨apart, outside⟩ := not_or.mp inside
    rw [alike.others unit apart outside]
    unfold HateMap.change
    match made (plain unit) with
    | none => exact alike
    | some (entry, units) =>
      refine Alike.meet ⟨?_, ?_⟩ units
      · intro other otherApart otherOutside
        by_cases same : other = unit
        · rw [same, Function.update_self, Function.update_self]
        · rw [Function.update_of_ne same, Function.update_of_ne same]
          exact alike.others other otherApart otherOutside
      · rw [Function.update_of_ne (Ne.symm apart), Function.update_of_ne (Ne.symm apart)]
        exact alike.taunter

theorem Alike.change_left (alike : Alike taunter above lent plain)
    (belongs : world.charmersOrOwners taunter = above) {units : List Nat}
    (drawn : ∀ owner ∈ units, owner ∈ world.charmersOrOwners taunter)
    (own : Lent entry (plain taunter)) :
    Alike taunter above (lent.change world taunter (some (entry, units))) plain := by
  rw [belongs] at drawn
  have notAbove : taunter ∉ units := by
    intro member
    have here := drawn taunter member
    rw [← belongs] at here
    exact Nat.lt_irrefl _ (nested_length here)
  constructor
  · intro other apart outside
    rw [change_of_ne apart fun entry units shape member => ?_]
    · exact alike.others other apart outside
    · simp_all
  · unfold HateMap.change
    dsimp only
    rw [meet_update_of_notMem notAbove, Function.update_self]
    exact own

/-! ### Resets on both sides -/

theorem Alike.broughtIn_iff (alike : Alike taunter above lent plain)
    (belongs : world.charmersOrOwners taunter = above) (creature : Nat) (predicate : Nat → Bool)
    (outside : unit ∉ above) :
    BroughtIn world creature predicate lent (fun _ => True) unit ↔
      BroughtIn world creature predicate plain (fun _ => True) unit := by
  have same : ∀ other, unit ∈ world.drawnIn creature other → lent other = plain other := by
    intro other drawn
    have member := mem_drawnIn drawn
    apply alike.others
    · grind
    · intro higher
      rw [← belongs] at higher outside
      exact outside (nested_mem higher unit member)
  constructor
  · rintro ⟨other, entry, -, known, online, hit, low, drawn⟩
    rw [same other drawn] at known
    exact ⟨other, entry, trivial, known, online, hit, low, drawn⟩
  · rintro ⟨other, entry, -, known, online, hit, low, drawn⟩
    rw [← same other drawn] at known
    exact ⟨other, entry, trivial, known, online, hit, low, drawn⟩

def Spares (world : World) (predicate : Nat → Bool) (taunter : Nat) (hate : HateMap) : Prop :=
  ∀ entry, hate taunter = some entry → entry.tempThreatModifier = 0 ∨ predicate taunter = false ∨
    entry.online = false ∧ world.canBeOnline taunter = false

theorem Spares.met
    (spares : Spares world predicate taunter hate) (condition : Prop) {entry : Entry}
    (known : Entry.metIf condition world taunter (hate taunter) = some entry) :
    entry.tempThreatModifier = 0 ∨ ¬ (entry.online = true ∧ predicate taunter = true) := by
  have spared {old : Entry} (before : hate taunter = some old) :
      old.tempThreatModifier = 0 ∨ predicate taunter = false ∨
        old.online = false ∧ world.canBeOnline taunter = false := spares old before
  by_cases holds : condition
  · rw [Entry.metIf_pos holds] at known
    injection known with same
    rw [← same]
    cases before : hate taunter with
    | none => exact Or.inl rfl
    | some old =>
      rcases spared before with unlent | missed | ⟨offline, stays⟩
      · exact Or.inl unlent
      · exact Or.inr fun both => absurd (missed ▸ both.2) Bool.false_ne_true
      · simp [Entry.met, Entry.add, offline, stays]
  · rw [Entry.metIf_neg holds] at known
    rcases spared known with unlent | missed | ⟨offline, -⟩
    · exact Or.inl unlent
    · exact Or.inr fun both => absurd (missed ▸ both.2) Bool.false_ne_true
    · exact Or.inr fun both => absurd (offline ▸ both.1) Bool.false_ne_true

theorem Lent.metIf (related : Lent first second) (condition : Prop)
    (unit : Nat) :
    Lent (Entry.metIf condition world unit first) (Entry.metIf condition world unit second) := by
  by_cases holds : condition
  · rw [Entry.metIf_pos holds, Entry.metIf_pos holds]
    exact related.met unit
  · rw [Entry.metIf_neg holds, Entry.metIf_neg holds]
    exact related

theorem Alike.reset (alike : Alike taunter above lent plain)
    (belongs : world.charmersOrOwners taunter = above) (creature : Nat)
    (spares : Spares world predicate taunter lent) :
    Alike taunter above (lent.reset world creature predicate)
      (plain.reset world creature predicate) := by
  have notAbove : taunter ∉ above := by
    intro member
    rw [← belongs] at member
    exact Nat.lt_irrefl _ (nested_length member)
  constructor
  · intro unit apart outside
    unfold HateMap.reset
    rw [propext (alike.broughtIn_iff belongs creature predicate outside),
      alike.others unit apart outside]
  · unfold HateMap.reset
    rw [propext (alike.broughtIn_iff belongs creature predicate notAbove)]
    have met : Lent
        (Entry.metIf (BroughtIn world creature predicate plain (fun _ => True) taunter) world
          taunter (lent taunter))
        (Entry.metIf (BroughtIn world creature predicate plain (fun _ => True) taunter) world
          taunter (plain taunter)) := alike.taunter.metIf _ taunter
    rcases met with ⟨firstNone, secondNone⟩ | ⟨entry, bonus, isSecond, unlent, isFirst⟩
    · rw [firstNone, secondNone]
      exact Or.inl ⟨rfl, rfl⟩
    · rw [isFirst, isSecond, Option.map_some, Option.map_some]
      by_cases hit : entry.online = true ∧ predicate taunter = true
      · rcases spares.met _ isFirst with noBonus | missed
        · dsimp only at noBonus
          rw [Entry.resetIf_pos hit, Entry.resetIf_pos hit, noBonus]
          refine Or.inr ⟨{ entry with threat := 0 }, 0, rfl, unlent, ?_⟩
          dsimp only
          rw [add_zero]
        · exact absurd hit missed
      · rw [Entry.resetIf_neg hit, Entry.resetIf_neg hit]
        exact Or.inr ⟨entry, bonus, rfl, unlent, rfl⟩

/-! ### Calls on both sides -/

def nextBoth (both : ThreatManager × ThreatManager) (call : World × Call) :
    ThreatManager × ThreatManager :=
  (both.1.next call, match call.2 with
    | .tauntApply _ => both.2
    | _ => both.2.next call)

/-- Only this unit taunts, no reset comes to it while it has a loan, and it is online when the
taunt fades. -/
def KeepsTaunt (taunter : Nat) (manager : ThreatManager) : World × Call → Prop
  | (_, .tauntApply unit) => unit = taunter
  | (_, .tauntFadeOut unit) =>
    unit = taunter → ∀ entry, manager.hate taunter = some entry →
      entry.tempThreatModifier = 0 ∨ entry.online = true
  | (world, .resetAllAggro) => Spares world (fun _ => true) taunter manager.hate
  | (world, .resetAggro predicate) => Spares world predicate taunter manager.hate
  | (_, .modifyThreatPercent ..) | (_, .addThreatPercent ..) => False
  | (_, .addTempThreat ..) | (_, .resetTempThreat ..) => False
  | _ => True

def Undisturbed (taunter : Nat) (above : List Nat) (both : ThreatManager × ThreatManager)
    (call : World × Call) : Prop :=
  call.1.charmersOrOwners taunter = above ∧ KeepsTaunt taunter both.1 call

structure InStep (creature taunter : Nat) (above : List Nat)
    (both : ThreatManager × ThreatManager) : Prop where
  lentConsistent : Consistent both.1
  plainConsistent : Consistent both.2
  lentOwner : both.1.owner = creature
  plainOwner : both.2.owner = creature
  alike : Alike taunter above both.1.hate both.2.hate

theorem drawnInBy_subset {amount : ℚ} :
    ∀ owner ∈ drawnInBy world creature unit amount, owner ∈ world.charmersOrOwners unit := by
  intro owner member
  unfold drawnInBy at member
  split at member
  · exact mem_drawnIn member
  · cases member

theorem Alike.added (alike : Alike taunter above lent plain)
    (belongs : world.charmersOrOwners taunter = above) (creature unit : Nat) (amount : ℚ) :
    Alike taunter above
      (lent.change world unit (addMade world creature unit amount (lent unit)))
      (plain.change world unit (addMade world creature unit amount (plain unit))) := by
  apply alike.change belongs
  · intro old entry units shape
    injection shape with shape
    injection shape with _ same
    rw [← same]
    exact drawnInBy_subset
  · intro same
    rw [← same] at alike ⊢
    exact alike.taunter.added unit amount

theorem Alike.addThreat
    (inStep : InStep creature taunter above both)
    (belongs : world.charmersOrOwners taunter = above) (victim : Nat) (threat : ℚ)
    (reducedThreatPercent : Nat) (misdirectionTarget : Option Nat) :
    Alike taunter above
      (both.1.addThreat world victim threat reducedThreatPercent misdirectionTarget).hate
      (both.2.addThreat world victim threat reducedThreatPercent misdirectionTarget).hate := by
  rw [hate_addThreat inStep.lentConsistent, hate_addThreat inStep.plainConsistent,
    inStep.lentOwner, inStep.plainOwner]
  split
  · split
    · cases misdirectionTarget with
      | none => exact inStep.alike.added belongs creature victim _
      | some unit =>
        have diverted := inStep.alike.added belongs creature unit
          (threat * reducedThreatPercent / 100)
        exact diverted.added belongs creature victim _
    · exact inStep.alike.added belongs creature victim threat
  · exact inStep.alike

theorem Alike.mapped (alike : Alike taunter above lent plain)
    (belongs : world.charmersOrOwners taunter = above) {units : List Nat}
    (drawn : ∀ owner ∈ units, owner ∈ world.charmersOrOwners unit)
    {changed : Entry → Option Entry}
    (own : ∀ entry bonus, entry.tempThreatModifier = 0 → Lent
        (changed { entry with threat := entry.threat + bonus, tempThreatModifier := bonus })
        (changed entry)) :
    Alike taunter above (lent.change world unit (mapMade changed units (lent unit)))
      (plain.change world unit (mapMade changed units (plain unit))) := by
  apply alike.change belongs
  · intro old entry others shape
    obtain ⟨_, _, same⟩ := Option.map_eq_some_iff.mp shape
    injection same with _ same
    rw [← same]
    exact drawn
  · intro same
    rcases alike.taunter with ⟨firstNone, secondNone⟩ | ⟨entry, bonus, isSecond, unlent, isFirst⟩
    · rw [firstNone, secondNone]
      exact Or.inl ⟨rfl, rfl⟩
    · rw [isFirst, isSecond]
      exact own entry bonus unlent

theorem Lent.fade (related : Lent first second) (world : World)
    (creature unit : Nat)
    (online : ∀ entry, first = some entry → entry.tempThreatModifier = 0 ∨ entry.online = true) :
    entryAfter (fadeMade world creature unit) first = second ∧
      entryAfter (fadeMade world creature unit) second = second := by
  rcases related with ⟨firstNone, secondNone⟩ | ⟨entry, bonus, isSecond, unlent, isFirst⟩
  · rw [firstNone, secondNone]
    exact ⟨rfl, rfl⟩
  · have kept : entryAfter (fadeMade world creature unit) second = second := by
      simp_all [entryAfter, fadeMade]
    refine ⟨?_, kept⟩
    rw [isFirst, isSecond]
    by_cases noBonus : bonus = 0
    · unfold entryAfter fadeMade
      rw [Option.bind_some, if_neg fun both => both.2 noBonus, noBonus, add_zero]
      rw [← unlent]
    · have status : entry.online = true := (online _ isFirst).resolve_left noBonus
      unfold entryAfter fadeMade
      rw [Option.bind_some, if_pos ⟨status, noBonus⟩]
      unfold Entry.add
      rw [add_neg_cancel_right, status, Bool.true_or, ← unlent, ← status]

theorem fadeMade_drawn (creature unit : Nat) (old : Option Entry) (entry : Option Entry)
    (units : List Nat) (shape : fadeMade world creature unit old = some (entry, units)) :
    ∀ owner ∈ units, owner ∈ world.charmersOrOwners unit := by
  obtain ⟨known, -, made⟩ := Option.bind_eq_some_iff.mp shape
  split at made
  · injection made with made
    injection made with _ same
    rw [← same]
    exact drawnInBy_subset
  · cases made

theorem Lent.plain_same (related : Lent first second) :
    Lent second second := by
  rcases related with ⟨-, secondNone⟩ | ⟨entry, bonus, isSecond, unlent, -⟩
  · rw [secondNone]
    exact Or.inl ⟨rfl, rfl⟩
  · rw [isSecond]
    refine Lent.same fun known same => ?_
    injection same with same
    rw [← same]
    exact unlent

theorem Lent.taunted {entry : Entry}
    (related : Lent (some entry) second) (online : entry.online = true)
    (unlent : entry.tempThreatModifier = 0) (world : World) (unit : Nat) (bonus : ℚ) :
    Lent (some (Entry.add world unit bonus { entry with tempThreatModifier := bonus }))
      second := by
  rcases related with ⟨firstNone, -⟩ | ⟨known, earlier, isSecond, plainUnlent, isFirst⟩
  · cases firstNone
  · injection isFirst with same
    have noLoan : earlier = 0 := by
      simp_all
    rw [noLoan, add_zero] at same
    have status : known.online = true := by
      simp_all
    refine Or.inr ⟨known, bonus, isSecond, plainUnlent, ?_⟩
    unfold Entry.add
    rw [same]
    rw [status, Bool.true_or]

theorem alike_nextBoth
    (inStep : InStep creature taunter above both) (call : World × Call)
    (undisturbed : Undisturbed taunter above both call) :
    Alike taunter above (nextBoth both call).1.hate (nextBoth both call).2.hate := by
  obtain ⟨lentManager, plainManager⟩ := both
  have ⟨lentConsistent, plainConsistent, lentOwner, plainOwner, alike⟩ := inStep
  obtain ⟨world, call⟩ := call
  obtain ⟨belongs, keeps⟩ := undisturbed
  unfold nextBoth
  cases call with
  | addThreat victim threat reducedThreatPercent misdirectionTarget =>
    change Alike taunter above
      (lentManager.addThreat world victim threat reducedThreatPercent misdirectionTarget).hate
      (plainManager.addThreat world victim threat reducedThreatPercent misdirectionTarget).hate
    exact Alike.addThreat inStep belongs victim threat reducedThreatPercent misdirectionTarget
  | modifyThreatPercent victim percent => exact keeps.elim
  | tauntApply unit =>
    have same : unit = taunter := keeps
    change Alike taunter above (lentManager.tauntApply world unit).hate plainManager.hate
    rcases hate_tauntApply lentConsistent unit with
      unchanged | ⟨entry, bonus, known, online, unlent, -, changed⟩
    · rw [unchanged]
      exact alike
    · rw [changed, same]
      have related := alike.taunter
      rw [← same, known] at related
      have lent := related.taunted online unlent world unit bonus
      rw [same] at lent
      exact alike.change_left belongs drawnInBy_subset lent
  | tauntFadeOut unit =>
    change Alike taunter above (lentManager.tauntFadeOut world unit).hate
      (plainManager.tauntFadeOut world unit).hate
    rw [hate_tauntFadeOut lentConsistent, hate_tauntFadeOut plainConsistent, lentOwner, plainOwner]
    apply alike.change belongs (fadeMade_drawn creature unit)
    intro same
    obtain ⟨first, second⟩ := alike.taunter.fade world creature unit (keeps same)
    rw [first, second]
    exact alike.taunter.plain_same
  | resetAllAggro =>
    change Alike taunter above (lentManager.resetAggro world fun _ => true).hate
      (plainManager.resetAggro world fun _ => true).hate
    rw [hate_resetAggro lentConsistent, hate_resetAggro plainConsistent, lentOwner, plainOwner]
    exact alike.reset belongs creature keeps
  | resetAggro predicate =>
    change Alike taunter above (lentManager.resetAggro world predicate).hate
      (plainManager.resetAggro world predicate).hate
    rw [hate_resetAggro lentConsistent, hate_resetAggro plainConsistent, lentOwner, plainOwner]
    exact alike.reset belongs creature keeps
  | clearReferences =>
    constructor
    · exact fun _ _ _ => rfl
    · exact Or.inl ⟨rfl, rfl⟩
  | getHostilTarget =>
    rw [hate_getHostilTarget lentConsistent, hate_getHostilTarget plainConsistent]
    exact alike
  | forceVictim unit =>
    grind [hate_forceVictim]
  | threatAssist unit threat =>
    rw [hate_threatAssist lentConsistent, hate_threatAssist plainConsistent, lentOwner, plainOwner]
    exact alike.mapped belongs drawnInBy_subset fun entry bonus unlent =>
      Lent.add unit threat bonus unlent
  | addThreatPercent unit percent => exact keeps.elim
  | addTempThreat unit threat => exact keeps.elim
  | resetTempThreat unit => exact keeps.elim
  | setOnlineOfflineState unit online =>
    rw [hate_setOnline lentConsistent, hate_setOnline plainConsistent]
    exact alike.mapped belongs (fun _ wrong => absurd wrong List.not_mem_nil)
      fun entry bonus unlent => Or.inr ⟨{ entry with online := online }, bonus, rfl, unlent, rfl⟩
  | updateOnlineStatus unit =>
    rw [hate_updateStatus lentConsistent, hate_updateStatus plainConsistent]
    exact alike.mapped belongs (fun _ wrong => absurd wrong List.not_mem_nil)
      fun entry bonus unlent =>
        Or.inr ⟨{ entry with online := world.canBeOnline unit }, bonus, rfl, unlent, rfl⟩
  | removeReference unit =>
    rw [hate_removal lentConsistent, hate_removal plainConsistent]
    exact alike.mapped belongs (fun _ wrong => absurd wrong List.not_mem_nil)
      fun _ _ _ => Or.inl ⟨rfl, rfl⟩

theorem inStep_nextBoth
    (inStep : InStep creature taunter above both) (call : World × Call)
    (undisturbed : Undisturbed taunter above both call) :
    InStep creature taunter above (nextBoth both call) where
  lentConsistent := next_consistent inStep.lentConsistent call
  plainConsistent := by
    unfold nextBoth
    split
    · exact inStep.plainConsistent
    · exact next_consistent inStep.plainConsistent call
  lentOwner := (next_keeps inStep.lentConsistent call).2.trans inStep.lentOwner
  plainOwner := by
    unfold nextBoth
    split
    · exact inStep.plainOwner
    · exact (next_keeps inStep.plainConsistent call).2.trans inStep.plainOwner
  alike := alike_nextBoth inStep call undisturbed

/-! ### After the taunt -/

theorem getThreat_eq (manager : ThreatManager) (unit : Nat) :
    manager.getThreat unit true =
      match manager.hate unit with
      | some entry => entry.threat
      | none => 0 := by
  unfold getThreat hate getReference
  cases manager.findIn manager.threatList unit with
  | some ref => rfl
  | none =>
    rw [if_pos rfl, Option.none_or]
    cases manager.findIn manager.offlineThreatList unit with
    | some ref => rfl
    | none => rfl

def FadesToPlain (taunter : Nat) (both : ThreatManager × ThreatManager) (call : World × Call) :
    Prop :=
  call.2 = .tauntFadeOut taunter →
    (nextBoth both call).1.getThreat taunter true = (nextBoth both call).2.getThreat taunter true

theorem fadesToPlain_of_inStep
    (inStep : InStep creature taunter above both) (call : World × Call)
    (undisturbed : Undisturbed taunter above both call) : FadesToPlain taunter both call := by
  obtain ⟨world, call⟩ := call
  intro fades
  subst fades
  obtain ⟨belongs, keeps⟩ := undisturbed
  obtain ⟨first, second⟩ := inStep.alike.taunter.fade world creature taunter (keeps rfl)
  have left (hate : HateMap) : ∀ entry units,
      fadeMade world creature taunter (hate taunter) = some (entry, units) → taunter ∉ units := by
    intro entry units shape member
    exact Nat.lt_irrefl _
      (nested_length (fadeMade_drawn creature taunter _ entry units shape taunter member))
  have lentSide : (both.1.tauntFadeOut world taunter).hate taunter = both.2.hate taunter := by
    rw [hate_tauntFadeOut inStep.lentConsistent, inStep.lentOwner, change_self (left _), first]
  have plainSide : (both.2.tauntFadeOut world taunter).hate taunter = both.2.hate taunter := by
    rw [hate_tauntFadeOut inStep.plainConsistent, inStep.plainOwner, change_self (left _), second]
  change (both.1.tauntFadeOut world taunter).getThreat taunter true =
    (both.2.tauntFadeOut world taunter).getThreat taunter true
  rw [getThreat_eq, getThreat_eq, lentSide, plainSide]

/-! ### No negative threat -/

structure Sound (taunter unit : Nat) (entry : Entry) : Prop where
  lent : 0 ≤ entry.tempThreatModifier
  covered : entry.tempThreatModifier ≤ entry.threat
  unlent : unit ≠ taunter → entry.tempThreatModifier = 0

def AllSound (taunter : Nat) (hate : HateMap) : Prop :=
  ∀ unit entry, hate unit = some entry → Sound taunter unit entry

theorem Sound.add {entry : Entry} (sound : Sound taunter unit entry) {amount : ℚ}
    (nonneg : 0 ≤ amount) : Sound taunter unit (entry.add world unit amount) where
  lent := sound.lent
  covered := sound.covered.trans (le_add_of_nonneg_right nonneg)
  unlent := sound.unlent

theorem Sound.met
    (sound : ∀ known, entry = some known → Sound taunter unit known) :
    Sound taunter unit (Entry.met world unit entry) := by
  cases entry with
  | none => exact ⟨le_refl _, le_refl _, fun _ => rfl⟩
  | some known => exact (sound known rfl).add (le_refl 0)

theorem Sound.added
    (sound : ∀ known, entry = some known → Sound taunter unit known) {amount : ℚ}
    (nonneg : 0 ≤ amount) : Sound taunter unit (addedEntry world unit amount entry) := by
  cases entry with
  | none => exact ⟨le_refl _, nonneg, fun _ => rfl⟩
  | some known => exact (sound known rfl).add nonneg

theorem AllSound.change (sound : AllSound taunter hate)
    {result : Option (Option Entry × List Nat)}
    (made : ∀ entry units, result = some (some entry, units) → Sound taunter unit entry) :
    AllSound taunter (hate.change world unit result) := by
  unfold HateMap.change
  match shape : result with
  | none => exact sound
  | some (changed, units) =>
    have updated : AllSound taunter (Function.update hate unit changed) := by
      intro other entry known
      by_cases here : other = unit
      · simp_all
      · rw [Function.update_of_ne here] at known
        exact sound other entry known
    intro other entry known
    dsimp only at known
    unfold HateMap.meet at known
    split at known
    · injection known with same
      rw [← same]
      exact Sound.met fun old before => updated other old before
    · exact updated other entry known

theorem AllSound.mapped (sound : AllSound taunter hate)
    {units : List Nat} {changed : Entry → Option Entry}
    (keeps : ∀ old new, Sound taunter unit old → changed old = some new → Sound taunter unit new) :
    AllSound taunter (hate.change world unit (mapMade changed units (hate unit))) := by
  apply sound.change
  intro entry others shape
  obtain ⟨old, before, made⟩ := Option.map_eq_some_iff.mp shape
  injection made with made _
  exact keeps old entry (sound unit old before) made

theorem AllSound.reset (sound : AllSound taunter hate) (creature : Nat)
    (spares : Spares world predicate taunter hate) :
    AllSound taunter (hate.reset world creature predicate) := by
  intro unit entry known
  unfold HateMap.reset at known
  obtain ⟨met, before, same⟩ := Option.map_eq_some_iff.mp known
  have metSound : Sound taunter unit met := by
    by_cases brought : BroughtIn world creature predicate hate (fun _ => True) unit
    · rw [Entry.metIf_pos brought] at before
      injection before with isMet
      rw [← isMet]
      exact Sound.met fun old here => sound unit old here
    · rw [Entry.metIf_neg brought] at before
      exact sound unit met before
  rw [← same]
  by_cases hit : met.online = true ∧ predicate unit = true
  · have unlent : met.tempThreatModifier = 0 := by
      by_cases here : unit = taunter
      · rw [here] at before hit
        exact (spares.met _ before).resolve_right fun missed => missed hit
      · exact metSound.unlent here
    rw [Entry.resetIf_pos hit]
    exact ⟨unlent.ge, unlent.le, fun _ => unlent⟩
  · rw [Entry.resetIf_neg hit]
    exact metSound

def AddsNothingNegative : World × Call → Prop
  | (_, .addThreat _ threat reducedThreatPercent _) => 0 ≤ threat ∧ reducedThreatPercent ≤ 100
  | (_, .threatAssist _ threat) => 0 ≤ threat
  | _ => True

theorem AllSound.added (sound : AllSound taunter hate) (creature unit : Nat)
    {amount : ℚ} (nonneg : 0 ≤ amount) :
    AllSound taunter
      (hate.change world unit (addMade world creature unit amount (hate unit))) := by
  apply sound.change
  intro entry units shape
  injection shape with shape
  injection shape with made _
  injection made with made
  rw [← made]
  exact Sound.added (fun old before => sound unit old before) nonneg

section

variable (consistent : Consistent manager) (sound : AllSound taunter manager.hate)
include consistent sound

theorem allSound_addThreat (victim : Nat) {threat : ℚ} (nonneg : 0 ≤ threat)
    {reducedThreatPercent : Nat} (part : reducedThreatPercent ≤ 100)
    (misdirectionTarget : Option Nat) :
    AllSound taunter
      (manager.addThreat world victim threat reducedThreatPercent misdirectionTarget).hate := by
  have percent : (reducedThreatPercent : ℚ) ≤ 100 := by exact_mod_cast part
  have reduced : 0 ≤ threat * reducedThreatPercent / 100 :=
    div_nonneg (mul_nonneg nonneg (Nat.cast_nonneg _)) (by norm_num)
  have left : 0 ≤ threat - threat * reducedThreatPercent / 100 := by
    have most := mul_le_mul_of_nonneg_left percent nonneg
    linarith
  rw [hate_addThreat consistent]
  split
  · split
    · cases misdirectionTarget with
      | none => exact sound.added _ victim left
      | some unit => exact (sound.added _ unit reduced).added _ victim left
    · exact sound.added _ victim nonneg
  · exact sound

theorem allSound_tauntFadeOut (unit : Nat) :
    AllSound taunter (manager.tauntFadeOut world unit).hate := by
  rw [hate_tauntFadeOut consistent]
  apply sound.change
  intro entry units shape
  obtain ⟨old, before, made⟩ := Option.bind_eq_some_iff.mp shape
  have oldSound := sound unit old before
  split at made
  · injection made with made
    injection made with made _
    injection made with made
    rw [← made]
    refine ⟨le_refl _, ?_, fun _ => rfl⟩
    unfold Entry.add
    linarith [oldSound.covered]
  · cases made

theorem allSound_tauntApply :
    AllSound taunter (manager.tauntApply world taunter).hate := by
  rcases hate_tauntApply consistent taunter with
    unchanged | ⟨entry, bonus, known, -, unlent, positive, changed⟩
  · rw [unchanged]
    exact sound
  · rw [changed]
    apply sound.change
    intro new units shape
    have oldSound := sound taunter entry known
    injection shape with shape
    injection shape with made _
    injection made with made
    rw [← made]
    refine ⟨positive.le, ?_, fun wrong => absurd rfl wrong⟩
    unfold Entry.add
    linarith [oldSound.lent, oldSound.covered]

theorem allSound_next (call : World × Call)
    (keeps : KeepsTaunt taunter manager call) (adds : AddsNothingNegative call) :
    AllSound taunter (manager.next call).hate := by
  obtain ⟨world, call⟩ := call
  cases call with
  | addThreat victim threat reducedThreatPercent misdirectionTarget =>
    exact allSound_addThreat consistent sound victim adds.1 adds.2 misdirectionTarget
  | modifyThreatPercent victim percent => exact keeps.elim
  | tauntApply unit =>
    have same : unit = taunter := keeps
    rw [same]
    exact allSound_tauntApply consistent sound
  | tauntFadeOut unit => exact allSound_tauntFadeOut consistent sound unit
  | resetAllAggro =>
    change AllSound taunter (manager.resetAggro world fun _ => true).hate
    rw [hate_resetAggro consistent]
    exact sound.reset manager.owner keeps
  | resetAggro predicate =>
    change AllSound taunter (manager.resetAggro world predicate).hate
    rw [hate_resetAggro consistent]
    exact sound.reset manager.owner keeps
  | clearReferences =>
    intro unit entry known
    cases known
  | getHostilTarget =>
    rw [hate_getHostilTarget consistent]
    exact sound
  | forceVictim unit =>
    grind [hate_forceVictim]
  | threatAssist unit threat =>
    rw [hate_threatAssist consistent]
    refine sound.mapped fun old new oldSound made => ?_
    injection made with made
    rw [← made]
    exact oldSound.add adds
  | addThreatPercent unit percent => exact keeps.elim
  | addTempThreat unit threat => exact keeps.elim
  | resetTempThreat unit => exact keeps.elim
  | setOnlineOfflineState unit online =>
    rw [hate_setOnline consistent]
    refine sound.mapped fun old new oldSound made => ?_
    injection made with made
    rw [← made]
    exact ⟨oldSound.lent, oldSound.covered, oldSound.unlent⟩
  | updateOnlineStatus unit =>
    rw [hate_updateStatus consistent]
    refine sound.mapped fun old new oldSound made => ?_
    injection made with made
    rw [← made]
    exact ⟨oldSound.lent, oldSound.covered, oldSound.unlent⟩
  | removeReference unit =>
    rw [hate_removal consistent]
    exact sound.mapped fun old new _ made => nomatch made

end

def NoNegativeThreat (manager : ThreatManager) : Prop :=
  ∀ ref ∈ manager.listed, 0 ≤ manager.threatOf ref

theorem noNegativeThreat_of_allSound (consistent : Consistent manager)
    (sound : AllSound taunter manager.hate) : NoNegativeThreat manager := by
  intro ref member
  have here := sound _ _ (hate_unitOf consistent member)
  exact here.lent.trans here.covered

/-! ### Runs -/

theorem inStep_initial (owner : Nat) :
    InStep owner taunter above (initial owner, initial owner) where
  lentConsistent := initial_consistent owner
  plainConsistent := initial_consistent owner
  lentOwner := rfl
  plainOwner := rfl
  alike := ⟨fun _ _ _ => rfl, Or.inl ⟨rfl, rfl⟩⟩

/-- Whatever else is done, a taunt that nothing disturbs leaves the taunter with the threat that he
would have without it; and no threat gets negative, as long as no negative amounts are added. -/
theorem taunt_leaves_no_trace (owner taunter : Nat) (above : List Nat)
    (calls : List (World × Call))
    (undisturbed : Along nextBoth (Undisturbed taunter above) (initial owner, initial owner) calls) :
    Along nextBoth (FadesToPlain taunter) (initial owner, initial owner) calls ∧
      ((∀ call ∈ calls, AddsNothingNegative call) →
        Always nextBoth (fun both => NoNegativeThreat both.1) (initial owner, initial owner)
          calls) := by
  constructor
  · exact along_of_step
      (fun both call inStep undisturbed => inStep_nextBoth inStep call undisturbed)
      (fun both call inStep undisturbed => fadesToPlain_of_inStep inStep call undisturbed)
      (inStep_initial owner) undisturbed
  · intro adds
    have sound : Always nextBoth (fun both => Consistent both.1 ∧ AllSound taunter both.1.hate)
        (initial owner, initial owner) calls := by
      apply always_of_step _ _ (undisturbed.and_forall adds)
      · rintro both call ⟨consistent, sound⟩ ⟨⟨-, keeps⟩, adds⟩
        exact ⟨next_consistent consistent call, allSound_next consistent sound call keeps adds⟩
      · exact ⟨initial_consistent owner, fun _ _ known => nomatch known⟩
    exact sound.imp fun both sound => noNegativeThreat_of_allSound sound.1 sound.2

/-- A second unit taunts, gains some threat of its own and is soothed. -/
theorem taunt_leaves_no_trace_once :
    Along nextBoth (FadesToPlain 2) (initial 0, initial 0)
        [(openGround, .addThreat 1 100 0 none), (openGround, .getHostilTarget),
          (openGround, .addThreat 2 10 0 none), (openGround, .tauntApply 2),
          (openGround, .addThreat 2 5 0 none), (openGround, .tauntFadeOut 2)] ∧
      ((∀ call ∈ [(openGround, Call.addThreat 1 100 0 none), (openGround, .getHostilTarget),
          (openGround, .addThreat 2 10 0 none), (openGround, .tauntApply 2),
          (openGround, .addThreat 2 5 0 none), (openGround, .tauntFadeOut 2)],
          AddsNothingNegative call) →
        Always nextBoth (fun both => NoNegativeThreat both.1) (initial 0, initial 0)
          [(openGround, .addThreat 1 100 0 none), (openGround, .getHostilTarget),
            (openGround, .addThreat 2 10 0 none), (openGround, .tauntApply 2),
            (openGround, .addThreat 2 5 0 none), (openGround, .tauntFadeOut 2)]) := by
  apply taunt_leaves_no_trace 0 2 []
  refine ⟨⟨rfl, trivial⟩, ⟨rfl, trivial⟩, ⟨rfl, trivial⟩, ⟨rfl, rfl⟩, ⟨rfl, trivial⟩, ⟨rfl, ?_⟩,
    trivial⟩
  intro _ entry known
  right
  have online := congrArg (Option.map Entry.online) known
  rw [Option.map_some] at online
  have shown : some true = some entry.online := by
    rw [← online]
    decide +kernel
  injection shown with status
  exact status.symm

/-- The reset takes the loan too, and the fade takes it once more. -/
theorem taunt_reset_counterexample :
    ¬ (Along nextBoth (FadesToPlain 2) (initial 0, initial 0)
        [(openGround, .addThreat 1 100 0 none), (openGround, .getHostilTarget),
          (openGround, .addThreat 2 10 0 none), (openGround, .tauntApply 2),
          (openGround, .resetAllAggro), (openGround, .tauntFadeOut 2)]) := by
  rintro ⟨-, -, -, -, -, last, -⟩
  have wrong := last rfl
  revert wrong
  decide +kernel

end DarkCore.Threat
