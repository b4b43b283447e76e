/-
What a threat manager knows of each unit, as a map from units to entries. The
map forgets the order of the lists, the numbers of the references and the
victim; what the calls do to it depends on none of these.
-/

import DarkCore.Threat.Lists

namespace DarkCore.Threat

structure Entry where
  threat : ℚ
  tempThreatModifier : ℚ
  online : Bool
deriving DecidableEq

abbrev HateMap := Nat → Option Entry

/-- The status that `updateOnlineStatus` gives to the reference of a unit. -/
def World.canBeOnline (world : World) (unit : Nat) : Bool :=
  (!world.isPlayer unit || !world.isGameMaster unit || !world.isInFlight unit) &&
    (world.isInAccessiblePlace unit || world.isWithinCombatRange unit)

/-- What `accepts` says for a manager of this creature. -/
def World.acceptedBy (world : World) (creature unit : Nat) : Bool :=
  unit != creature && !(world.isPlayer unit && world.isGameMaster unit) &&
    world.isAlive unit && world.isAlive creature

def World.drawnIn (world : World) (creature unit : Nat) : List Nat :=
  (world.charmersOrOwners unit).takeWhile (world.acceptedBy creature)

def Entry.add (world : World) (unit : Nat) (amount : ℚ) (entry : Entry) : Entry :=
  { entry with
    threat := entry.threat + amount
    online := entry.online || world.canBeOnline unit }

def Entry.met (world : World) (unit : Nat) : Option Entry → Entry
  | some entry => entry.add world unit 0
  | none => ⟨0, 0, true⟩

def HateMap.meet (world : World) (units : List Nat) (hate : HateMap) : HateMap :=
  fun unit => if unit ∈ units then some (Entry.met world unit (hate unit)) else hate unit

namespace ThreatManager

variable {manager before after : ThreatManager} {world : World}

def entryOf (manager : ThreatManager) (ref : Nat) : Entry :=
  ⟨manager.threatOf ref, (manager.refs ref).tempThreatModifier, (manager.refs ref).online⟩

def hate (manager : ThreatManager) : HateMap :=
  fun unit => (manager.getReference unit).map manager.entryOf

variable {ref unit : Nat}

theorem getReference_unitOf (consistent : Consistent manager)
    (member : ref ∈ manager.listed) : manager.getReference (manager.unitOf ref) = some ref := by
  cases found : manager.getReference (manager.unitOf ref) with
  | none => exact absurd rfl (getReference_eq_none found ref member)
  | some other =>
    obtain ⟨listed, same⟩ := getReference_eq_some found
    rw [consistent.unit_inj listed member same]

theorem hate_unitOf (consistent : Consistent manager)
    (member : ref ∈ manager.listed) :
    manager.hate (manager.unitOf ref) = some (manager.entryOf ref) := by
  unfold hate
  rw [getReference_unitOf consistent member]
  rfl

theorem hate_eq_none (unknown : ∀ ref ∈ manager.listed, manager.unitOf ref ≠ unit) :
    manager.hate unit = none := by
  unfold hate
  cases found : manager.getReference unit with
  | none => rfl
  | some ref =>
    obtain ⟨member, same⟩ := getReference_eq_some found
    exact absurd same (unknown ref member)

theorem hate_eq_some {entry : Entry} (known : manager.hate unit = some entry) :
    ∃ ref ∈ manager.listed, manager.unitOf ref = unit ∧ manager.entryOf ref = entry := by
  obtain ⟨ref, found, same⟩ := Option.map_eq_some_iff.mp known
  obtain ⟨member, unitSame⟩ := getReference_eq_some found
  exact ⟨ref, member, unitSame, same⟩

theorem online_iff_of_hate (consistent : Consistent manager) {entry : Entry}
    (known : manager.hate unit = some entry) :
    entry.online = true ↔ unit ∈ manager.threatList.map manager.unitOf := by
  obtain ⟨ref, member, same, here⟩ := hate_eq_some known
  rw [← here]
  constructor
  · intro online
    exact List.mem_map.mpr ⟨ref, (consistent.online ref member).mpr online, same⟩
  · intro there
    obtain ⟨other, online, otherSame⟩ := List.mem_map.mp there
    have listed : other ∈ manager.listed := List.mem_append_left _ online
    rw [← consistent.unit_inj listed member (otherSame.trans same.symm)]
    exact consistent.online_of_mem online

theorem hate_congr (extends_ : Extends before after) (consistent : Consistent before)
    (lists : ∀ ref ∈ after.listed, ref ∈ before.listed)
    (entries : ∀ ref ∈ before.listed, before.unitOf ref = unit →
      after.entryOf ref = before.entryOf ref) : after.hate unit = before.hate unit := by
  have units (ref : Nat) (member : ref ∈ before.listed) : after.unitOf ref = before.unitOf ref :=
    extends_.units ref (consistent.made ref member)
  cases known : before.hate unit with
  | none =>
    apply hate_eq_none
    intro ref member same
    have listed := lists ref member
    rw [units ref listed] at same
    rw [← same, hate_unitOf consistent listed] at known
    cases known
  | some entry =>
    obtain ⟨ref, member, same, here⟩ := hate_eq_some known
    rw [← same, ← units ref member, hate_unitOf extends_.consistent (extends_.kept ref member),
      entries ref member same, here]

theorem hate_update (extends_ : Extends before after) (consistent : Consistent before)
    (lists : ∀ ref ∈ after.listed, ref ∈ before.listed)
    (member : ref ∈ before.listed)
    (others : ∀ other ≠ ref, after.entryOf other = before.entryOf other) :
    after.hate = Function.update before.hate (before.unitOf ref) (some (after.entryOf ref)) := by
  funext unit
  by_cases here : unit = before.unitOf ref
  · rw [here, Function.update_self, ← extends_.units ref (consistent.made ref member)]
    exact hate_unitOf extends_.consistent (extends_.kept ref member)
  · rw [Function.update_of_ne here]
    apply hate_congr extends_ consistent lists
    intro other _ same
    apply others
    intro wrong
    rw [← same, wrong] at here
    exact here rfl

theorem entryOf_congr {other : Nat} (same : after.refs other = before.refs ref) :
    after.entryOf other = before.entryOf ref := by
  unfold entryOf threatOf
  rw [same]

theorem refs_setOnlineOfflineState_of_ne {other : Nat} (apart : other ≠ ref) (online : Bool) :
    (manager.setOnlineOfflineState ref online).refs other = manager.refs other := by
  by_cases same : (manager.refs ref).online = online
  · simp_all [setOnlineOfflineState]
  · cases online with
    | false =>
      rw [setOnlineOfflineState_of_online (Bool.not_eq_false _ |>.mp same)]
      exact refs_setRef_of_ne apart _
    | true =>
      rw [setOnlineOfflineState_of_offline (Bool.not_eq_true _ |>.mp same)]
      exact refs_setRef_of_ne apart _

theorem entryOf_setOnlineOfflineState (ref : Nat) (online : Bool) :
    (manager.setOnlineOfflineState ref online).entryOf ref =
      { manager.entryOf ref with online := online } := by
  by_cases same : (manager.refs ref).online = online
  · unfold setOnlineOfflineState
    rw [if_pos same, ← same]
    rfl
  · cases online with
    | false =>
      rw [setOnlineOfflineState_of_online (Bool.not_eq_false _ |>.mp same)]
      unfold entryOf threatOf
      rw [refs_setRef_self]
    | true =>
      rw [setOnlineOfflineState_of_offline (Bool.not_eq_true _ |>.mp same)]
      unfold entryOf threatOf
      rw [refs_setRef_self]

theorem hate_setOnlineOfflineState (consistent : Consistent manager)
    (member : ref ∈ manager.listed) (online : Bool) :
    (manager.setOnlineOfflineState ref online).hate =
      Function.update manager.hate (manager.unitOf ref)
        (some { manager.entryOf ref with online := online }) := by
  rw [← entryOf_setOnlineOfflineState]
  exact hate_update (setOnlineOfflineState_extends consistent member online) consistent
    (setOnlineOfflineState_listed manager member online) member
    fun other apart => entryOf_congr (refs_setOnlineOfflineState_of_ne apart online)

theorem updateOnlineStatus_eq (manager : ThreatManager) (world : World) (ref : Nat) :
    ∃ accessible, manager.updateOnlineStatus world ref =
      (manager.setAccessibleState ref accessible).setOnlineOfflineState ref
        (world.canBeOnline (manager.unitOf ref)) := by
  let unit := manager.unitOf ref
  refine ⟨(!world.isPlayer unit || !world.isGameMaster unit || !world.isInFlight unit) &&
    world.isInAccessiblePlace unit, ?_⟩
  unfold updateOnlineStatus World.canBeOnline
  rw [Bool.and_or_distrib_left]

theorem refs_updateOnlineStatus_of_ne {other : Nat} (apart : other ≠ ref) :
    (manager.updateOnlineStatus world ref).refs other = manager.refs other := by
  obtain ⟨accessible, same⟩ := updateOnlineStatus_eq manager world ref
  rw [same, refs_setOnlineOfflineState_of_ne apart]
  exact refs_setRef_of_ne apart _

theorem entryOf_updateOnlineStatus (ref : Nat) :
    (manager.updateOnlineStatus world ref).entryOf ref =
      { manager.entryOf ref with online := world.canBeOnline (manager.unitOf ref) } := by
  obtain ⟨accessible, same⟩ := updateOnlineStatus_eq manager world ref
  rw [same, entryOf_setOnlineOfflineState]
  unfold entryOf threatOf setAccessibleState
  rw [refs_setRef_self]

theorem hate_updateOnlineStatus (consistent : Consistent manager)
    (member : ref ∈ manager.listed) :
    (manager.updateOnlineStatus world ref).hate =
      Function.update manager.hate (manager.unitOf ref)
        (some { manager.entryOf ref with online := world.canBeOnline (manager.unitOf ref) }) := by
  rw [← entryOf_updateOnlineStatus]
  exact hate_update (updateOnlineStatus_extends consistent member) consistent
    (updateOnlineStatus_listed manager member) member
    fun other apart => entryOf_congr (refs_updateOnlineStatus_of_ne apart)

theorem refs_onThreatChange (ref : Nat) (value : ℚ) :
    (manager.onThreatChange ref value).refs = manager.refs := by
  unfold onThreatChange
  split <;> rfl

theorem refs_changeThreat (manager : ThreatManager) (world : World) (ref : Nat) (amount : ℚ) :
    (manager.changeThreat world ref amount).refs =
      let changed := manager.setRef ref
        { manager.refs ref with threat := manager.threatOf ref + amount }
      if (manager.refs ref).online then changed.refs
      else (changed.updateOnlineStatus world ref).refs := by
  unfold changeThreat
  dsimp only
  rw [refs_setRef_self]
  have kept (checked : ThreatManager) :
      (if amount = 0 then checked else checked.onThreatChange ref amount).refs = checked.refs := by
    split
    · rfl
    · exact refs_onThreatChange ref amount
  rw [kept]
  split <;> rfl

theorem refs_changeThreat_of_ne {other : Nat} (apart : other ≠ ref) (amount : ℚ) :
    (manager.changeThreat world ref amount).refs other = manager.refs other := by
  rw [refs_changeThreat]
  split
  · exact refs_setRef_of_ne apart _
  · rw [refs_updateOnlineStatus_of_ne apart, refs_setRef_of_ne apart]

theorem entryOf_changeThreat (ref : Nat) (amount : ℚ) :
    (manager.changeThreat world ref amount).entryOf ref =
      (manager.entryOf ref).add world (manager.unitOf ref) amount := by
  let changed := manager.setRef ref
    { manager.refs ref with threat := manager.threatOf ref + amount }
  have entry : changed.entryOf ref =
      { manager.entryOf ref with threat := manager.threatOf ref + amount } := by
    unfold changed entryOf threatOf
    rw [refs_setRef_self]
  have unit : changed.unitOf ref = manager.unitOf ref := by
    unfold changed unitOf
    rw [refs_setRef_self]
  have refs := refs_changeThreat manager world ref amount
  cases online : (manager.refs ref).online with
  | true =>
    rw [online, if_pos rfl] at refs
    rw [entryOf_congr (congrFun refs ref), entry]
    unfold Entry.add entryOf
    rw [online, Bool.true_or]
  | false =>
    rw [online, if_neg Bool.false_ne_true] at refs
    rw [entryOf_congr (congrFun refs ref)]
    rw [entryOf_updateOnlineStatus, unit, entry]
    unfold Entry.add entryOf
    rw [online, Bool.false_or]

theorem hate_changeThreat (consistent : Consistent manager)
    (member : ref ∈ manager.listed) (amount : ℚ) :
    (manager.changeThreat world ref amount).hate =
      Function.update manager.hate (manager.unitOf ref)
        (some ((manager.entryOf ref).add world (manager.unitOf ref) amount)) := by
  rw [← entryOf_changeThreat]
  exact hate_update (changeThreat_extends consistent member amount) consistent
    (changeThreat_listed member amount) member
    fun other apart => entryOf_congr (refs_changeThreat_of_ne apart amount)

theorem Entry.met_met (unit : Nat) (entry : Option Entry) :
    Entry.met world unit (some (Entry.met world unit entry)) = Entry.met world unit entry := by
  cases entry with
  | none =>
    simp [Entry.met, Entry.add]
  | some entry =>
    simp [Entry.met, Entry.add]

theorem HateMap.meet_nil (hate : HateMap) : hate.meet world [] = hate := by
  funext unit
  exact if_neg List.not_mem_nil

theorem HateMap.meet_cons (hate : HateMap) (owner : Nat) (above : List Nat) :
    hate.meet world (owner :: above) =
      HateMap.meet world above
        (Function.update hate owner (some (Entry.met world owner (hate owner)))) := by
  funext unit
  unfold HateMap.meet
  by_cases here : unit = owner
  · simp [here, Function.update_self, Entry.met_met]
  · simp_all

theorem hate_create (consistent : Consistent manager)
    (unknown : manager.getReference unit = none) :
    (manager.create unit).hate = Function.update manager.hate unit (some ⟨0, 0, true⟩) := by
  have created := create_extends consistent unknown
  have entry : (manager.create unit).entryOf manager.nextRef = ⟨0, 0, true⟩ := by
    unfold entryOf threatOf
    rw [refs_create_self]
  have fresh : (manager.create unit).unitOf manager.nextRef = unit := by
    unfold unitOf
    rw [refs_create_self]
  funext other
  by_cases here : other = unit
  · have known := hate_unitOf created.consistent (mem_listed_create unit)
    rw [fresh, entry] at known
    rw [here, Function.update_self, known]
  · rw [Function.update_of_ne here]
    cases known : manager.hate other with
    | none =>
      apply hate_eq_none
      intro ref member same
      rcases List.mem_cons.mp ((listed_create unit).mem_iff.mp member) with isNew | old
      · simp_all
      · rw [created.units ref (consistent.made ref old)] at same
        rw [← same, hate_unitOf consistent old] at known
        cases known
    | some entry =>
      obtain ⟨ref, member, same, isEntry⟩ := hate_eq_some known
      have bound := consistent.made ref member
      rw [← same, ← created.units ref bound,
        hate_unitOf created.consistent (created.kept ref member),
        entryOf_congr (refs_create_of_lt bound unit), isEntry]

theorem accepts_eq (manager : ThreatManager) (unit : Nat) :
    manager.accepts world unit = world.acceptedBy manager.owner unit :=
  rfl

theorem hate_withReference (consistent : Consistent manager) {owner : Nat} (above : List Nat)
    (accepted : world.acceptedBy manager.owner owner = true)
    (added : ∀ (middle : ThreatManager) (ref : Nat), Consistent middle → ref ∈ middle.listed →
      (refAddThreat world above ref 0 middle).hate =
        HateMap.meet world (above.takeWhile (world.acceptedBy middle.owner))
          (Function.update middle.hate (middle.unitOf ref)
            (some ((middle.entryOf ref).add world (middle.unitOf ref) 0)))) :
    (manager.withReference world owner fun ref manager =>
        refAddThreat world above ref 0 manager).hate =
      HateMap.meet world (owner :: above.takeWhile (world.acceptedBy manager.owner))
        manager.hate := by
  rw [HateMap.meet_cons]
  unfold withReference
  split
  next ref found =>
    obtain ⟨member, same⟩ := getReference_eq_some found
    have known := hate_unitOf consistent member
    rw [same] at known
    rw [added manager ref consistent member, same, known]
    rfl
  next unknown =>
    have created := create_extends consistent unknown
    have fresh : (manager.create owner).unitOf manager.nextRef = owner := by
      unfold unitOf
      rw [refs_create_self]
    have entry : (manager.create owner).entryOf manager.nextRef = ⟨0, 0, true⟩ := by
      unfold entryOf threatOf
      rw [refs_create_self]
    have known : manager.hate owner = none := by
      simp [hate, unknown]
    have noGameMaster : (world.isPlayer owner && world.isGameMaster owner) = false := by
      grind [World.acceptedBy]
    rw [noGameMaster, if_neg Bool.false_ne_true,
      added _ _ created.consistent (mem_listed_create owner), fresh, entry,
      hate_create consistent unknown, Function.update_idem, known, created.owner]
    have same : Entry.add world owner 0 ⟨0, 0, true⟩ = Entry.met world owner none := by
      simp [Entry.add, Entry.met]
    rw [same]

theorem hate_refAddThreat (chain : List Nat) :
    ∀ (amount : ℚ) (manager : ThreatManager) (ref : Nat), Consistent manager →
      ref ∈ manager.listed →
      (refAddThreat world chain ref amount manager).hate =
        HateMap.meet world
          (if 0 ≤ amount then chain.takeWhile (world.acceptedBy manager.owner) else [])
          (Function.update manager.hate (manager.unitOf ref)
            (some ((manager.entryOf ref).add world (manager.unitOf ref) amount))) := by
  induction chain with
  | nil =>
    intro amount manager ref consistent member
    rw [List.takeWhile_nil, ite_self, HateMap.meet_nil]
    exact hate_changeThreat consistent member amount
  | cons owner above ih =>
    intro amount manager ref consistent member
    have changed : Extends manager (manager.changeThreat world ref amount) :=
      changeThreat_extends consistent member amount
    rw [← hate_changeThreat consistent member amount]
    unfold refAddThreat
    dsimp only
    rw [accepts_eq, changed.owner, List.takeWhile_cons]
    by_cases positive : 0 ≤ amount
    · rw [if_pos positive]
      cases accepted : world.acceptedBy manager.owner owner with
      | true =>
        have alive : world.isAlive owner = true := by
          simp_all [World.acceptedBy]
        rw [if_pos ⟨positive, alive, rfl⟩, if_pos rfl, ← changed.owner]
        rw [← changed.owner] at accepted
        apply hate_withReference changed.consistent above accepted
        intro middle other middleConsistent otherMember
        rw [ih 0 middle other middleConsistent otherMember, if_pos (le_refl 0)]
      | false =>
        simp [HateMap.meet_nil]
    · rw [if_neg positive, if_neg fun all => positive all.1, HateMap.meet_nil]

theorem nested_length {owner : Nat} (member : owner ∈ world.charmersOrOwners unit) :
    (world.charmersOrOwners owner).length < (world.charmersOrOwners unit).length := by
  generalize same : world.charmersOrOwners unit = chain at member
  induction chain generalizing unit with
  | nil => cases member
  | cons first rest ih =>
    have tail := world.nested unit first rest same
    rw [List.length_cons]
    rcases List.mem_cons.mp member with here | later
    · simp [here, tail]
    · exact Nat.lt_succ_of_lt (ih tail later)

theorem mem_drawnIn {creature owner : Nat} (member : owner ∈ world.drawnIn creature unit) :
    owner ∈ world.charmersOrOwners unit :=
  List.takeWhile_subset _ member

theorem not_mem_drawnIn (world : World) (creature unit : Nat) : unit ∉ world.drawnIn creature unit := by
  intro member
  exact Nat.lt_irrefl _ (nested_length (mem_drawnIn member))

def addedEntry (world : World) (unit : Nat) (amount : ℚ) : Option Entry → Entry
  | some entry => entry.add world unit amount
  | none => ⟨amount, 0, !(world.isPlayer unit && world.isGameMaster unit)⟩

def drawnInBy (world : World) (creature unit : Nat) (amount : ℚ) : List Nat :=
  if 0 ≤ amount then world.drawnIn creature unit else []

theorem not_mem_drawnInBy (world : World) (creature unit : Nat) (amount : ℚ) :
    unit ∉ drawnInBy world creature unit amount := by
  unfold drawnInBy
  split
  · exact not_mem_drawnIn world creature unit
  · exact List.not_mem_nil

theorem hate_addThreatTo (consistent : Consistent manager)
    (member : ref ∈ manager.listed) (amount : ℚ) :
    (manager.addThreatTo world ref amount).hate =
      HateMap.meet world (drawnInBy world manager.owner (manager.unitOf ref) amount)
        (Function.update manager.hate (manager.unitOf ref)
          (some ((manager.entryOf ref).add world (manager.unitOf ref) amount))) :=
  hate_refAddThreat _ amount manager ref consistent member

theorem meet_update_of_notMem {units : List Nat} (apart : unit ∉ units)
    (hate : HateMap) (entry : Option Entry) :
    HateMap.meet world units (Function.update hate unit entry) =
      Function.update (HateMap.meet world units hate) unit entry := by
  funext other
  unfold HateMap.meet
  by_cases here : other = unit
  · rw [here, Function.update_self, Function.update_self, if_neg apart]
  · rw [Function.update_of_ne here, Function.update_of_ne here]

theorem hate_addThreatFor (consistent : Consistent manager) (unit : Nat) (amount : ℚ) :
    (manager.addThreatFor world unit amount).hate =
      HateMap.meet world (drawnInBy world manager.owner unit amount)
        (Function.update manager.hate unit
          (some (addedEntry world unit amount (manager.hate unit)))) := by
  unfold addThreatFor withReference
  split
  next ref found =>
    obtain ⟨member, same⟩ := getReference_eq_some found
    have known := hate_unitOf consistent member
    rw [hate_refAddThreat _ amount manager ref consistent member, same]
    rw [same] at known
    rw [known]
    rfl
  next unknown =>
    have created := create_extends consistent unknown
    have member : manager.nextRef ∈ (manager.create unit).listed := mem_listed_create unit
    have extended : Extends (manager.create unit)
        (refAddThreat world (world.charmersOrOwners unit) manager.nextRef amount
          (manager.create unit)) :=
      refAddThreat_extends _ amount _ _ created.consistent member
    have fresh : (manager.create unit).unitOf manager.nextRef = unit := by
      unfold unitOf
      rw [refs_create_self]
    have entry : (manager.create unit).entryOf manager.nextRef = ⟨0, 0, true⟩ := by
      unfold entryOf threatOf
      rw [refs_create_self]
    have known : manager.hate unit = none := by
      simp [hate, unknown]
    have added : (refAddThreat world (world.charmersOrOwners unit) manager.nextRef amount
        (manager.create unit)).hate = HateMap.meet world (drawnInBy world manager.owner unit amount)
          (Function.update manager.hate unit (some ⟨amount, 0, true⟩)) := by
      rw [hate_refAddThreat _ amount _ _ created.consistent member, fresh, entry,
        hate_create consistent unknown, Function.update_idem, created.owner]
      unfold Entry.add
      rw [zero_add, Bool.true_or]
      rfl
    rw [known]
    unfold addedEntry
    cases world.isPlayer unit && world.isGameMaster unit with
    | false =>
      simp_all
    | true =>
      have listed := extended.kept _ member
      have unitSame : (refAddThreat world (world.charmersOrOwners unit) manager.nextRef amount
          (manager.create unit)).unitOf manager.nextRef = unit :=
        (extended.units _ (Nat.lt_succ_self _)).trans fresh
      have apart := not_mem_drawnInBy world manager.owner unit amount
      have here := hate_unitOf extended.consistent listed
      rw [unitSame, added, meet_update_of_notMem apart, Function.update_self] at here
      injection here with here
      rw [if_pos rfl, hate_setOnlineOfflineState extended.consistent listed false, unitSame,
        ← here, added, meet_update_of_notMem apart, Function.update_idem,
        meet_update_of_notMem apart]
      rfl

end ThreatManager

end DarkCore.Threat
