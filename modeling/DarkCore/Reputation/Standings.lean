/-
The standings stay within their bounds, and the four counters follow the ranks
and flags of the factions. Everything that changes a standing goes through one
function; it is shown to keep the tallies, and so are loading and the setters.
-/

import DarkCore.Reputation.ReputationMgr
import DarkCore.Lib.Runs

namespace DarkCore.Reputation

open DarkCore.Lib
open DarkCore.Player (uint32 int32)

/-! ### Flags -/

section Flags

variable {flags mask test : Flags}

theorem raise_and (apart : mask &&& test = 0) : (flags ||| mask) &&& test = flags &&& test := by
  rw [BitVec.and_or_distrib_right, apart]
  exact BitVec.or_zero

theorem lower_and (apart : mask &&& test = 0) :
    (flags &&& ~~~mask) &&& test = flags &&& test := by
  ext i inside
  have bit : mask[i] = true → test[i] = false := by simpa using congrArg (·[i]) apart
  simp only [BitVec.getElem_and, BitVec.getElem_not]
  cases isSet : mask[i] with
  | false => simp
  | true => simp [bit isSet]

theorem raise_self : (flags ||| mask) &&& mask = mask := by
  ext i inside
  simp only [BitVec.getElem_and, BitVec.getElem_or]
  cases flags[i] <;> cases mask[i] <;> rfl

theorem lower_self : (flags &&& ~~~mask) &&& mask = 0 := by
  ext i inside
  simp

end Flags

/-! ### Setters -/

def FactionState.isVisible (state : FactionState) : Bool := decide (state.flags &&& flagVisible ≠ 0)

structure FactionState.Alike (before after : FactionState) : Prop where
  ID : after.ID = before.ID
  standing : after.standing = before.standing
  visible : after.isVisible = before.isVisible

section Setters

variable {state : FactionState} {counters : Counters}

theorem FactionState.setAtWar_alike (atWar : Bool) : state.Alike (state.setAtWar atWar) := by
  unfold FactionState.setAtWar
  split
  · exact ⟨rfl, rfl, rfl⟩
  · split
    · exact ⟨rfl, rfl, rfl⟩
    · refine ⟨rfl, rfl, ?_⟩
      cases atWar with
      | true => simp only [isVisible, if_true, raise_and (show flagAtWar &&& flagVisible = 0 by decide)]
      | false =>
        simp only [isVisible, Bool.false_eq_true, if_false,
          lower_and (show flagAtWar &&& flagVisible = 0 by decide)]

theorem FactionState.setInactive_alike (inactive : Bool) :
    state.Alike (state.setInactive inactive) := by
  unfold FactionState.setInactive
  split
  · exact ⟨rfl, rfl, rfl⟩
  · split
    · exact ⟨rfl, rfl, rfl⟩
    · refine ⟨rfl, rfl, ?_⟩
      cases inactive with
      | true =>
        simp only [isVisible, if_true, raise_and (show flagInactive &&& flagVisible = 0 by decide)]
      | false =>
        simp only [isVisible, Bool.false_eq_true, if_false,
          lower_and (show flagInactive &&& flagVisible = 0 by decide)]

theorem FactionState.Alike.trans {first second third : FactionState}
    (one : first.Alike second) (two : second.Alike third) : first.Alike third :=
  ⟨two.ID.trans one.ID, two.standing.trans one.standing, two.visible.trans one.visible⟩

structure Shows (counters : Counters) (state : FactionState) (after : Counters)
    (shown : FactionState) : Prop where
  ID : shown.ID = state.ID
  standing : shown.standing = state.standing
  honored : after.honored = counters.honored
  revered : after.revered = counters.revered
  exalted : after.exalted = counters.exalted
  visible : state.isVisible = shown.isVisible ∧ after.visible = counters.visible ∨
    state.isVisible = false ∧ shown.isVisible = true ∧
      after.visible = (counters.visible + 1) % 256

theorem shows_refl : Shows counters state counters state :=
  ⟨rfl, rfl, rfl, rfl, rfl, Or.inl ⟨rfl, rfl⟩⟩

theorem setVisible_shows :
    Shows counters state (setVisible counters state).1 (setVisible counters state).2 := by
  unfold setVisible
  split
  · exact shows_refl
  · split
    · exact shows_refl
    · rename_i hidden
      refine ⟨rfl, rfl, rfl, rfl, rfl, Or.inr ⟨?_, ?_, rfl⟩⟩
      · exact decide_eq_false hidden
      · simp only [FactionState.isVisible, raise_self]
        decide

theorem Shows.alike {after : Counters} {shown alike : FactionState}
    (shows' : Shows counters state after shown) (same : shown.Alike alike) :
    Shows counters state after alike where
  ID := same.ID.trans shows'.ID
  standing := same.standing.trans shows'.standing
  honored := shows'.honored
  revered := shows'.revered
  exalted := shows'.exalted
  visible := by
    rw [same.visible]
    exact shows'.visible

theorem Shows.update {after : Counters} {shown : FactionState}
    (shows' : Shows counters state after shown) (old new : ReputationRank) :
    Shows (counters.updateRankCounters old new) state (after.updateRankCounters old new) shown where
  ID := shows'.ID
  standing := shows'.standing
  honored := by simp only [Counters.updateRankCounters, shows'.honored]
  revered := by simp only [Counters.updateRankCounters, shows'.revered]
  exalted := by simp only [Counters.updateRankCounters, shows'.exalted]
  visible := shows'.visible

theorem FactionState.Alike.ite {condition : Prop} [Decidable condition] {one two : FactionState}
    (first : state.Alike one) (second : state.Alike two) :
    state.Alike (if condition then one else two) := by
  split
  · exact first
  · exact second

theorem FactionState.alike_refl : state.Alike state := ⟨rfl, rfl, rfl⟩

theorem replayFlags_shows (dbFactionFlags : Flags) (rank : ReputationRank) :
    Shows counters state (ReputationMgr.replayFlags counters state dbFactionFlags rank).1
      (ReputationMgr.replayFlags counters state dbFactionFlags rank).2 := by
  unfold ReputationMgr.replayFlags
  have first : Shows counters state
      (if dbFactionFlags &&& flagVisible ≠ 0 then setVisible counters state
        else (counters, state)).1
      (if dbFactionFlags &&& flagVisible ≠ 0 then setVisible counters state
        else (counters, state)).2 := by
    split
    · exact setVisible_shows
    · exact shows_refl
  generalize (if dbFactionFlags &&& flagVisible ≠ 0 then setVisible counters state
    else (counters, state)) = shown at first ⊢
  dsimp only
  apply first.alike
  have activeAlike : shown.2.Alike
      (if dbFactionFlags &&& flagInactive ≠ 0 then shown.2.setInactive true else shown.2) :=
    FactionState.Alike.ite (FactionState.setInactive_alike true) FactionState.alike_refl
  generalize (if dbFactionFlags &&& flagInactive ≠ 0 then shown.2.setInactive true
    else shown.2) = active at activeAlike ⊢
  have warAlike : active.Alike
      (if dbFactionFlags &&& flagAtWar ≠ 0 then active.setAtWar true
        else if active.flags &&& flagVisible ≠ 0 then active.setAtWar false else active) := by
    apply FactionState.Alike.ite
    · exact FactionState.setAtWar_alike true
    · exact FactionState.Alike.ite (FactionState.setAtWar_alike false) FactionState.alike_refl
  generalize (if dbFactionFlags &&& flagAtWar ≠ 0 then active.setAtWar true
    else if active.flags &&& flagVisible ≠ 0 then active.setAtWar false else active) = war
    at warAlike ⊢
  apply (activeAlike.trans warAlike).trans
  exact FactionState.Alike.ite (FactionState.setAtWar_alike true) FactionState.alike_refl

end Setters

/-! ### Tallies -/

namespace FactionStore

/-- Every id and every place of the reputation list is used once, and no base reputation is out of
bounds. -/
structure Sound (store : FactionStore) : Prop where
  ids : (store.entries.map FactionEntry.ID).Nodup
  lists : ((store.entries.filter (0 ≤ ·.reputationListID)).map FactionEntry.repListID).Nodup
  base : ∀ entry ∈ store.entries, ∀ i,
    reputationBottom ≤ entry.baseRepValue i ∧ entry.baseRepValue i ≤ reputationCap

def reputationOf (store : FactionStore) (state : FactionState) : Int :=
  match store.lookupEntry state.ID with
  | some entry => store.getBaseReputation entry + state.standing
  | none => state.standing

def hasRank (store : FactionStore) (least : ReputationRank) (state : FactionState) : Bool :=
  decide (least.index ≤ (reputationToRank (store.reputationOf state)).index)

variable {store : FactionStore} {entry : FactionEntry}

theorem Sound.lookupEntry (sound : store.Sound) (member : entry ∈ store.entries) :
    store.lookupEntry entry.ID = some entry := by
  unfold FactionStore.lookupEntry
  have distinct := sound.ids
  generalize store.entries = entries at member distinct
  induction entries with
  | nil => cases member
  | cons first rest ih =>
    rw [List.map_cons, List.nodup_cons] at distinct
    rcases List.mem_cons.mp member with here | later
    · simp [here]
    · have other : first.ID ≠ entry.ID := by
        grind
      rw [List.find?_cons_of_neg (by simpa using other)]
      exact ih later distinct.2

theorem mem_of_lookupEntry {id : Nat} (found : store.lookupEntry id = some entry) :
    entry ∈ store.entries ∧ entry.ID = id := by
  constructor
  · exact List.mem_of_find?_eq_some found
  · have same := List.find?_some found
    exact of_decide_eq_true same

theorem Sound.getBaseReputation (sound : store.Sound) (member : entry ∈ store.entries) :
    reputationBottom ≤ store.getBaseReputation entry ∧
      store.getBaseReputation entry ≤ reputationCap := by
  unfold FactionStore.getBaseReputation
  split
  · exact sound.base entry member _
  · decide

theorem Sound.repListID_inj (sound : store.Sound) {other : FactionEntry}
    (member : entry ∈ store.entries) (listed : 0 ≤ entry.reputationListID)
    (memberOther : other ∈ store.entries) (same : other.repListID = entry.repListID) :
    0 ≤ other.reputationListID → other = entry := by
  intro listedOther
  apply List.inj_on_of_nodup_map sound.lists
  · exact List.mem_filter.mpr ⟨memberOther, decide_eq_true listedOther⟩
  · exact List.mem_filter.mpr ⟨member, decide_eq_true listed⟩
  · exact same

end FactionStore

structure Tallied (store : FactionStore) (mgr : ReputationMgr) : Prop where
  listed : ∀ key state, mgr.factions.find key = some state → ∃ entry,
    store.lookupEntry state.ID = some entry ∧ 0 ≤ entry.reputationListID ∧ entry.repListID = key
  bounded : ∀ key state, mgr.factions.find key = some state →
    reputationBottom ≤ store.reputationOf state ∧ store.reputationOf state ≤ reputationCap
  visible : mgr.counters.visible = mgr.factions.countWhere FactionState.isVisible % 256
  honored : mgr.counters.honored = mgr.factions.countWhere (store.hasRank .honored) % 256
  revered : mgr.counters.revered = mgr.factions.countWhere (store.hasRank .revered) % 256
  exalted : mgr.counters.exalted = mgr.factions.countWhere (store.hasRank .exalted) % 256

section Tallies

variable {store : FactionStore} {mgr : ReputationMgr} {key : Nat} {state after : FactionState}

theorem adjust_eq {counter : Nat} {least old new : ReputationRank} {test : FactionState → Bool}
    {map : OrdMap Nat FactionState} (counted : counter = map.countWhere test % 256)
    (was : OrdMap.weight test (map.find key) = if least.index ≤ old.index then 1 else 0)
    (is' : test after = decide (least.index ≤ new.index)) :
    adjust counter least old new = (map.assign key after).countWhere test % 256 := by
  have assigned : (map.assign key after).countWhere test + OrdMap.weight test (map.find key) =
      map.countWhere test + OrdMap.weight test (some after) := OrdMap.countWhere_assign test
  rw [was, OrdMap.weight_some, is'] at assigned
  simp only [decide_eq_true_eq] at assigned
  unfold adjust
  dsimp only
  split_ifs at assigned ⊢ <;> omega

theorem weight_hasRank {map : OrdMap Nat FactionState} (found : map.find key = some state)
    (least : ReputationRank) :
    OrdMap.weight (store.hasRank least) (map.find key) =
      if least.index ≤ (reputationToRank (store.reputationOf state)).index then 1 else 0 := by
  rw [found, OrdMap.weight_some]
  simp only [FactionStore.hasRank, decide_eq_true_eq]

theorem Tallied.replace (tallied : Tallied store mgr) (found : mgr.factions.find key = some state)
    {counters : Counters} {raised : FactionState}
    (shows' : Shows (mgr.counters.updateRankCounters (reputationToRank (store.reputationOf state))
      (reputationToRank (store.reputationOf after))) raised counters after)
    (raisedID : raised.ID = state.ID) (raisedVisible : raised.isVisible = state.isVisible)
    (bounded : reputationBottom ≤ store.reputationOf after ∧
      store.reputationOf after ≤ reputationCap) :
    Tallied store ⟨mgr.factions.assign key after, counters⟩ := by
  refine ⟨?_, ?_, ?_, ?_, ?_, ?_⟩
  · intro other found' isFound
    rcases OrdMap.find_assign_some.mp isFound with ⟨here, rfl⟩ | ⟨_, elsewhere⟩
    · rw [shows'.ID, raisedID, here]
      exact tallied.listed key state found
    · exact tallied.listed other found' elsewhere
  · intro other found' isFound
    rcases OrdMap.find_assign_some.mp isFound with ⟨_, rfl⟩ | ⟨_, elsewhere⟩
    · exact bounded
    · exact tallied.bounded other found' elsewhere
  · have assigned : (mgr.factions.assign key after).countWhere FactionState.isVisible +
        OrdMap.weight FactionState.isVisible (mgr.factions.find key) =
        mgr.factions.countWhere FactionState.isVisible +
          OrdMap.weight FactionState.isVisible (some after) :=
      OrdMap.countWhere_assign FactionState.isVisible
    rw [found, OrdMap.weight_some, OrdMap.weight_some, ← raisedVisible] at assigned
    have counted := tallied.visible
    rcases shows'.visible with ⟨same, kept⟩ | ⟨was, is', grown⟩
    · rw [same] at assigned
      simp only [kept, Counters.updateRankCounters]
      omega
    · rw [was, is'] at assigned
      simp only [grown, Counters.updateRankCounters]
      simp only [Bool.false_eq_true, if_false, if_true] at assigned
      omega
  · exact shows'.honored.trans (adjust_eq tallied.honored (weight_hasRank found .honored) rfl)
  · exact shows'.revered.trans (adjust_eq tallied.revered (weight_hasRank found .revered) rfl)
  · exact shows'.exalted.trans (adjust_eq tallied.exalted (weight_hasRank found .exalted) rfl)

theorem FactionEntry.repListID_lt {entry : FactionEntry} :
    entry.repListID < 2 ^ 31 ↔ 0 ≤ entry.reputationListID := by
  have range := entry.isInt32
  unfold FactionEntry.repListID uint32
  omega

theorem Tallied.entry (tallied : Tallied store mgr) (sound : store.Sound) {entry : FactionEntry}
    (member : entry ∈ store.entries) (found : mgr.factions.find entry.repListID = some state) :
    store.lookupEntry state.ID = some entry ∧ 0 ≤ entry.reputationListID := by
  obtain ⟨other, known, listed, same⟩ := tallied.listed _ state found
  have listedEntry : 0 ≤ entry.reputationListID := by
    rw [← FactionEntry.repListID_lt, ← same]
    exact FactionEntry.repListID_lt.mpr listed
  obtain ⟨memberOther, _⟩ := FactionStore.mem_of_lookupEntry known
  rw [← sound.repListID_inj member listedEntry memberOther same listed]
  exact ⟨known, listed⟩

theorem reputationOf_eq {entry : FactionEntry} (known : store.lookupEntry state.ID = some entry) :
    store.reputationOf state = store.getBaseReputation entry + state.standing := by
  unfold FactionStore.reputationOf
  rw [known]

theorem clampStanding_bounds (standing : Int) :
    reputationBottom ≤ ReputationMgr.clampStanding standing ∧
      ReputationMgr.clampStanding standing ≤ reputationCap := by
  unfold ReputationMgr.clampStanding reputationBottom reputationCap
  split_ifs <;> omega

theorem Tallied.setOneFactionReputation (tallied : Tallied store mgr) (sound : store.Sound)
    {entry : FactionEntry} (member : entry ∈ store.entries) (standing : Int) (incremental : Bool) :
    Tallied store (mgr.setOneFactionReputation store entry standing incremental) := by
  unfold ReputationMgr.setOneFactionReputation
  cases found : mgr.factions.find entry.repListID with
  | none => exact tallied
  | some faction =>
    obtain ⟨known, _⟩ := tallied.entry sound member found
    dsimp only
    generalize (if incremental = true then int32 (int32 ⌊standing * store.reputationGain + 1 / 2⌋ +
        (faction.standing + store.getBaseReputation entry)) else standing) = wanted
    obtain ⟨atLeast, atMost⟩ := clampStanding_bounds wanted
    generalize ReputationMgr.clampStanding wanted = reached at atLeast atMost ⊢
    have shows' : Shows mgr.counters
        { faction with standing := reached - store.getBaseReputation entry, needSave := true }
        _ _ := setVisible_shows
    generalize setVisible mgr.counters
      { faction with standing := reached - store.getBaseReputation entry, needSave := true } =
        shown at shows' ⊢
    have warAlike : shown.2.Alike
        (if (reputationToRank reached).index ≤ ReputationRank.hostile.index then
          shown.2.setAtWar true else shown.2) :=
      FactionState.Alike.ite (FactionState.setAtWar_alike true) FactionState.alike_refl
    generalize (if (reputationToRank reached).index ≤ ReputationRank.hostile.index then
      shown.2.setAtWar true else shown.2) = after at warAlike ⊢
    have all := shows'.alike warAlike
    have before : store.reputationOf faction =
        faction.standing + store.getBaseReputation entry := by
      rw [reputationOf_eq known, Int.add_comm]
    have now : store.reputationOf after = reached := by
      rw [reputationOf_eq (all.ID ▸ known), all.standing]
      exact add_sub_cancel _ _
    rw [← before]
    rw [← now]
    exact tallied.replace found (all.update _ _) rfl rfl (now.symm ▸ ⟨atLeast, atMost⟩)

theorem adjust_self {counter : Nat} (small : counter < 256) (least rank : ReputationRank) :
    adjust counter least rank rank = counter := by
  unfold adjust
  dsimp only
  split_ifs <;> omega

section

variable (tallied : Tallied store mgr)
include tallied

theorem Tallied.counters_lt : mgr.counters.honored < 256 ∧
    mgr.counters.revered < 256 ∧ mgr.counters.exalted < 256 := by
  rw [tallied.honored, tallied.revered, tallied.exalted]
  refine ⟨?_, ?_, ?_⟩ <;> exact Nat.mod_lt _ (by decide)

theorem Tallied.show (found : mgr.factions.find key = some state)
    {counters : Counters} (shows' : Shows mgr.counters state counters after) :
    Tallied store ⟨mgr.factions.assign key after, counters⟩ := by
  have same : store.reputationOf after = store.reputationOf state := by
    unfold FactionStore.reputationOf
    rw [shows'.ID, shows'.standing]
  have kept : Shows (mgr.counters.updateRankCounters (reputationToRank (store.reputationOf state))
      (reputationToRank (store.reputationOf after))) state counters after := by
    obtain ⟨honored, revered, exalted⟩ := tallied.counters_lt
    rwa [same, Counters.updateRankCounters, adjust_self honored, adjust_self revered,
      adjust_self exalted]
  exact tallied.replace found kept rfl rfl (same.symm ▸ tallied.bounded key state found)

theorem Tallied.alike (found : mgr.factions.find key = some state)
    (same : state.Alike after) :
    Tallied store { mgr with factions := mgr.factions.assign key after } :=
  tallied.show found (shows_refl.alike same)

theorem Tallied.setVisibleEntry (entry : FactionEntry) :
    Tallied store (mgr.setVisibleEntry entry) := by
  unfold ReputationMgr.setVisibleEntry
  split
  · exact tallied
  · cases found : mgr.factions.find entry.repListID with
    | none => exact tallied
    | some faction => exact tallied.show found setVisible_shows

theorem Tallied.setVisibleTemplate (faction : Nat) :
    Tallied store (mgr.setVisibleTemplate store faction) := by
  unfold ReputationMgr.setVisibleTemplate
  split
  · exact tallied
  · split
    · exact tallied
    · split
      · exact tallied
      · exact tallied.setVisibleEntry _

theorem Tallied.setAtWar (repListID : Nat) (on : Bool) :
    Tallied store (mgr.setAtWar repListID on) := by
  unfold ReputationMgr.setAtWar
  cases found : mgr.factions.find repListID with
  | none => exact tallied
  | some faction =>
    dsimp only
    split
    · exact tallied
    · exact tallied.alike found (FactionState.setAtWar_alike on)

theorem Tallied.setInactive (repListID : Nat) (on : Bool) :
    Tallied store (mgr.setInactive repListID on) := by
  unfold ReputationMgr.setInactive
  cases found : mgr.factions.find repListID with
  | none => exact tallied
  | some faction => exact tallied.alike found (FactionState.setInactive_alike on)

end

end Tallies

/-! ### SetReputation -/

section SetReputation

variable {store : FactionStore} {mgr : ReputationMgr} (property : ReputationMgr → Prop)
  {entry : FactionEntry}

theorem spillOver_induction
    (one : ∀ mgr, ∀ entry ∈ store.entries, ∀ standing incremental, property mgr →
      property (mgr.setOneFactionReputation store entry standing incremental))
    (start : property mgr) (standing : Int) (incremental : Bool) :
    property (mgr.spillOver store entry standing incremental) := by
  have template (mgr : ReputationMgr) (holds : property mgr) (spill : RepSpillover) :
      property (ReputationMgr.spillTemplate store standing incremental mgr spill) := by
    unfold ReputationMgr.spillTemplate ReputationMgr.setOneKnownReputation
    split
    · split
      · rename_i known
        exact one mgr _ (FactionStore.mem_of_lookupEntry known).1 _ _ holds
      · exact holds
    · exact holds
  have templates (list : List RepSpillover) (mgr : ReputationMgr) (holds : property mgr) :
      property (list.foldl (ReputationMgr.spillTemplate store standing incremental) mgr) := by
    induction list generalizing mgr with
    | nil => exact holds
    | cons spill rest ih => exact ih _ (template mgr holds spill)
  have sister (rate : Rat) (mgr : ReputationMgr) (holds : property mgr) (id : Nat) :
      property (ReputationMgr.spillSister store entry rate incremental mgr id) := by
    unfold ReputationMgr.spillSister
    split
    · exact holds
    · rename_i known
      split
      · exact holds
      · dsimp only
        split
        · exact one mgr _ (FactionStore.mem_of_lookupEntry known).1 _ _ holds
        · exact holds
  have sisters (rate : Rat) (flist : List Nat) (mgr : ReputationMgr) (holds : property mgr) :
      property (flist.foldl (ReputationMgr.spillSister store entry rate incremental) mgr) := by
    induction flist generalizing mgr with
    | nil => exact holds
    | cons id rest ih => exact ih _ (sister rate mgr holds id)
  have parent (rate : Rat) : property (mgr.spillParent store entry rate incremental).1 := by
    unfold ReputationMgr.spillParent
    split
    · exact start
    · rename_i known
      split
      · split
        · exact one mgr _ (FactionStore.mem_of_lookupEntry known).1 _ _ start
        · exact start
      · exact start
  unfold ReputationMgr.spillOver
  split
  · exact templates _ mgr start
  · split
    · exact sisters _ _ mgr start
    · split
      · dsimp only
        have spilled := parent (standing * entry.spilloverRateOut)
        split <;> simp_all
      · exact start

theorem setReputation_induction (member : entry ∈ store.entries)
    (one : ∀ mgr, ∀ entry ∈ store.entries, ∀ standing incremental, property mgr →
      property (mgr.setOneFactionReputation store entry standing incremental))
    (start : property mgr) (standing : Int) (incremental : Bool) :
    property (mgr.setReputation store entry standing incremental) :=
  one _ entry member standing incremental (spillOver_induction property one start standing incremental)

end SetReputation

/-! ### The start -/

section Start

variable {store : FactionStore} {mgr : ReputationMgr} {entry : FactionEntry}

theorem reputationOf_newFaction (sound : store.Sound) (member : entry ∈ store.entries) :
    store.reputationOf (ReputationMgr.newFaction store entry) = store.getBaseReputation entry := by
  have known : store.lookupEntry (ReputationMgr.newFaction store entry).ID = some entry :=
    sound.lookupEntry member
  rw [reputationOf_eq known]
  exact Int.add_zero _

theorem Tallied.addFaction (tallied : Tallied store mgr) (sound : store.Sound)
    (member : entry ∈ store.entries) (absent : mgr.factions.find entry.repListID = none) :
    Tallied store (ReputationMgr.addFaction store mgr entry) := by
  unfold ReputationMgr.addFaction
  split
  · rename_i listed
    dsimp only
    have base := reputationOf_newFaction sound member
    have nothing (test : FactionState → Bool) :
        OrdMap.weight test (mgr.factions.find entry.repListID) = 0 := by
      rw [absent]
      rfl
    have ranks (least : ReputationRank) : store.hasRank least (ReputationMgr.newFaction store entry) =
        decide (least.index ≤ (reputationToRank (store.getBaseReputation entry)).index) := by
      rw [FactionStore.hasRank, base]
    generalize shown : (if (ReputationMgr.newFaction store entry).flags &&& flagVisible ≠ 0 then
      { mgr.counters with visible := (mgr.counters.visible + 1) % 256 } else mgr.counters) = counters
    have same : counters.honored = mgr.counters.honored ∧
        counters.revered = mgr.counters.revered ∧ counters.exalted = mgr.counters.exalted := by
      grind
    refine ⟨?_, ?_, ?_, ?_, ?_, ?_⟩
    · intro key state found
      rcases OrdMap.find_assign_some.mp found with ⟨here, rfl⟩ | ⟨_, elsewhere⟩
      · exact ⟨entry, sound.lookupEntry member, listed, here.symm⟩
      · exact tallied.listed key state elsewhere
    · intro key state found
      rcases OrdMap.find_assign_some.mp found with ⟨_, rfl⟩ | ⟨_, elsewhere⟩
      · rw [base]
        exact sound.getBaseReputation member
      · exact tallied.bounded key state elsewhere
    · have counted := tallied.visible
      simp only [Counters.updateRankCounters, OrdMap.countWhere_assign_new _ absent, ← shown,
        FactionState.isVisible, decide_eq_true_eq]
      split
      · simp_all
      · omega
    · exact adjust_eq (same.1 ▸ tallied.honored) (nothing _) (ranks .honored)
    · exact adjust_eq (same.2.1 ▸ tallied.revered) (nothing _) (ranks .revered)
    · exact adjust_eq (same.2.2 ▸ tallied.exalted) (nothing _) (ranks .exalted)
  · exact tallied

theorem find_addFaction {key : Nat} (other : 0 ≤ entry.reputationListID → entry.repListID ≠ key) :
    (ReputationMgr.addFaction store mgr entry).factions.find key = mgr.factions.find key := by
  unfold ReputationMgr.addFaction
  split
  · rename_i listed
    rw [OrdMap.find_assign, Function.update_of_ne (other listed).symm]
  · rfl

theorem foldl_addFaction (sound : store.Sound) {rest : List FactionEntry}
    (tallied : Tallied store mgr) (known : ∀ entry ∈ rest, entry ∈ store.entries)
    (distinct : ((rest.filter (0 ≤ ·.reputationListID)).map FactionEntry.repListID).Nodup)
    (absent : ∀ entry ∈ rest, 0 ≤ entry.reputationListID →
      mgr.factions.find entry.repListID = none) :
    Tallied store (rest.foldl (ReputationMgr.addFaction store) mgr) ∧
    (∀ key, (∀ entry ∈ rest, 0 ≤ entry.reputationListID → entry.repListID ≠ key) →
      (rest.foldl (ReputationMgr.addFaction store) mgr).factions.find key = mgr.factions.find key) ∧
    ∀ entry ∈ rest, 0 ≤ entry.reputationListID →
      (rest.foldl (ReputationMgr.addFaction store) mgr).factions.find entry.repListID =
        some (ReputationMgr.newFaction store entry) := by
  induction rest generalizing mgr with
  | nil => exact ⟨tallied, fun _ _ => rfl, List.forall_mem_nil _⟩
  | cons first rest ih =>
    have others : ∀ entry ∈ rest, 0 ≤ entry.reputationListID → 0 ≤ first.reputationListID →
        first.repListID ≠ entry.repListID := by
      grind
    have talliedFirst : Tallied store (ReputationMgr.addFaction store mgr first) := by
      by_cases listed : 0 ≤ first.reputationListID
      · exact tallied.addFaction sound (known first List.mem_cons_self)
          (absent first List.mem_cons_self listed)
      · grind [ReputationMgr.addFaction]
    have distinctRest :
        ((rest.filter (0 ≤ ·.reputationListID)).map FactionEntry.repListID).Nodup :=
      distinct.sublist (((List.sublist_cons_self first rest).filter _).map _)
    obtain ⟨talliedRest, elsewhere, found⟩ := ih talliedFirst
      (fun entry member => known entry (List.mem_cons_of_mem first member)) distinctRest (by
        intro entry member listed
        rw [find_addFaction (others entry member listed)]
        exact absent entry (List.mem_cons_of_mem first member) listed)
    refine ⟨talliedRest, ?_, ?_⟩
    · intro key different
      rw [List.foldl_cons, elsewhere key fun entry member =>
        different entry (List.mem_cons_of_mem first member)]
      exact find_addFaction (different first List.mem_cons_self)
    · intro entry member listed
      rcases List.mem_cons.mp member with here | later
      · rw [List.foldl_cons, here, elsewhere first.repListID fun other memberOther listedOther =>
          (others other memberOther listedOther (here ▸ listed)).symm]
        unfold ReputationMgr.addFaction
        rw [if_pos (here ▸ listed)]
        exact OrdMap.find_assign_some.mpr (Or.inl ⟨rfl, rfl⟩)
      · exact found entry later listed

theorem initializeFactions_spec (sound : store.Sound) :
    Tallied store (ReputationMgr.initializeFactions store) ∧
    ∀ entry ∈ store.entries, 0 ≤ entry.reputationListID →
      (ReputationMgr.initializeFactions store).factions.find entry.repListID =
        some (ReputationMgr.newFaction store entry) := by
  have empty : Tallied store ⟨OrdMap.empty, ⟨0, 0, 0, 0⟩⟩ := by
    refine ⟨?_, ?_, rfl, rfl, rfl, rfl⟩ <;> intro key state found <;> cases found
  obtain ⟨tallied, _, found⟩ := foldl_addFaction sound empty (fun _ member => member) sound.lists
    (fun _ _ _ => rfl)
  exact ⟨tallied, found⟩

end Start

/-! ### Loading -/

def loadedFaction (store : FactionStore) (entry : FactionEntry) (row : ReputationRow) :
    FactionState :=
  let faction := { ReputationMgr.newFaction store entry with standing := int32 row.standing }
  let rank := reputationToRank (store.getBaseReputation entry + int32 row.standing)
  let (_, faction) :=
    ReputationMgr.replayFlags ⟨0, 0, 0, 0⟩ faction (BitVec.ofNat 8 row.flags) rank
  if faction.flags.toNat = row.flags % 2 ^ 16 then { faction with needSave := false } else faction

section Loading

variable {store : FactionStore} {mgr : ReputationMgr} {entry : FactionEntry} {row : ReputationRow}

theorem setVisible_snd (counters others : Counters) (faction : FactionState) :
    (setVisible counters faction).2 = (setVisible others faction).2 := by
  unfold setVisible
  split
  · rfl
  · split <;> rfl

theorem replayFlags_snd (counters others : Counters) (faction : FactionState)
    (dbFactionFlags : Flags) (rank : ReputationRank) :
    (ReputationMgr.replayFlags counters faction dbFactionFlags rank).2 =
      (ReputationMgr.replayFlags others faction dbFactionFlags rank).2 := by
  have first : (if dbFactionFlags &&& flagVisible ≠ 0 then setVisible counters faction
        else (counters, faction)).2 =
      (if dbFactionFlags &&& flagVisible ≠ 0 then setVisible others faction
        else (others, faction)).2 := by
    split
    · exact setVisible_snd counters others faction
    · rfl
  unfold ReputationMgr.replayFlags
  dsimp only
  rw [first]

theorem loadRow_new (known : store.lookupEntry (row.faction % 2 ^ 16) = some entry)
    (listed : 0 ≤ entry.reputationListID)
    (new : mgr.factions.find entry.repListID = some (ReputationMgr.newFaction store entry)) :
    (ReputationMgr.loadRow store mgr row).factions =
      mgr.factions.assign entry.repListID (loadedFaction store entry row) := by
  unfold ReputationMgr.loadRow loadedFaction
  rw [known]
  dsimp only
  rw [if_pos listed, new]
  rw [replayFlags_snd]

theorem Tallied.loadRow (tallied : Tallied store mgr) (sound : store.Sound)
    (known : store.lookupEntry (row.faction % 2 ^ 16) = some entry)
    (listed : 0 ≤ entry.reputationListID)
    (new : mgr.factions.find entry.repListID = some (ReputationMgr.newFaction store entry))
    (saved : reputationBottom ≤ store.getBaseReputation entry + int32 row.standing ∧
      store.getBaseReputation entry + int32 row.standing ≤ reputationCap) :
    Tallied store (ReputationMgr.loadRow store mgr row) := by
  obtain ⟨member, _⟩ := FactionStore.mem_of_lookupEntry known
  have base := reputationOf_newFaction sound member
  have knownID : store.lookupEntry (ReputationMgr.newFaction store entry).ID = some entry :=
    sound.lookupEntry member
  unfold ReputationMgr.loadRow
  rw [known]
  dsimp only
  rw [if_pos listed, new]
  dsimp only
  have shows' : Shows (mgr.counters.updateRankCounters
        (reputationToRank (store.getBaseReputation entry))
        (reputationToRank (store.getBaseReputation entry + int32 row.standing)))
      { ReputationMgr.newFaction store entry with standing := int32 row.standing } _ _ :=
    replayFlags_shows (BitVec.ofNat 8 row.flags)
      (reputationToRank (store.getBaseReputation entry + int32 row.standing))
  generalize ReputationMgr.replayFlags _ _ _ _ = replayed at shows' ⊢
  have savedAlike : replayed.2.Alike
      (if replayed.2.flags.toNat = row.flags % 2 ^ 16 then { replayed.2 with needSave := false }
        else replayed.2) :=
    FactionState.Alike.ite ⟨rfl, rfl, rfl⟩ FactionState.alike_refl
  generalize (if replayed.2.flags.toNat = row.flags % 2 ^ 16 then
    { replayed.2 with needSave := false } else replayed.2) = after at savedAlike ⊢
  have all := shows'.alike savedAlike
  have now : store.reputationOf after = store.getBaseReputation entry + int32 row.standing := by
    rw [reputationOf_eq (all.ID ▸ knownID), all.standing]
  rw [← now, ← base] at all
  exact tallied.replace new all rfl rfl (now.symm ▸ saved)

theorem loadRow_other (other : ∀ entry, store.lookupEntry (row.faction % 2 ^ 16) = some entry →
    ¬ 0 ≤ entry.reputationListID) : ReputationMgr.loadRow store mgr row = mgr := by
  unfold ReputationMgr.loadRow
  split
  · rfl
  · simp_all

structure Loadable (store : FactionStore) (rows : List ReputationRow) : Prop where
  distinct : (rows.map fun row => row.faction % 2 ^ 16).Nodup
  saved : ∀ row ∈ rows, ∀ entry, store.lookupEntry (row.faction % 2 ^ 16) = some entry →
    0 ≤ entry.reputationListID →
      reputationBottom ≤ store.getBaseReputation entry + int32 row.standing ∧
        store.getBaseReputation entry + int32 row.standing ≤ reputationCap

theorem Loadable.tail {rows : List ReputationRow} (loadable : Loadable store (row :: rows)) :
    Loadable store rows where
  distinct := (List.nodup_cons.mp loadable.distinct).2
  saved other member := loadable.saved other (List.mem_cons_of_mem row member)

theorem foldl_loadRow (sound : store.Sound) {rows : List ReputationRow}
    (loadable : Loadable store rows) (tallied : Tallied store mgr)
    (new : ∀ row ∈ rows, ∀ entry, store.lookupEntry (row.faction % 2 ^ 16) = some entry →
      0 ≤ entry.reputationListID →
        mgr.factions.find entry.repListID = some (ReputationMgr.newFaction store entry)) :
    Tallied store (rows.foldl (ReputationMgr.loadRow store) mgr) ∧
    (∀ entry ∈ store.entries, 0 ≤ entry.reputationListID →
      (∀ row ∈ rows, row.faction % 2 ^ 16 ≠ entry.ID) →
        (rows.foldl (ReputationMgr.loadRow store) mgr).factions.find entry.repListID =
          mgr.factions.find entry.repListID) ∧
    ∀ row ∈ rows, ∀ entry, store.lookupEntry (row.faction % 2 ^ 16) = some entry →
      0 ≤ entry.reputationListID →
        (rows.foldl (ReputationMgr.loadRow store) mgr).factions.find entry.repListID =
          some (loadedFaction store entry row) := by
  induction rows generalizing mgr with
  | nil => exact ⟨tallied, fun _ _ _ _ => rfl, List.forall_mem_nil _⟩
  | cons row rest ih =>
    obtain ⟨unique, _⟩ := List.nodup_cons.mp loadable.distinct
    have elsewhere (entry : FactionEntry) (member : entry ∈ store.entries)
        (listed : 0 ≤ entry.reputationListID) (different : row.faction % 2 ^ 16 ≠ entry.ID) :
        (ReputationMgr.loadRow store mgr row).factions.find entry.repListID =
          mgr.factions.find entry.repListID := by
      by_cases own : ∃ first, store.lookupEntry (row.faction % 2 ^ 16) = some first ∧
          0 ≤ first.reputationListID
      · obtain ⟨first, known, listedFirst⟩ := own
        obtain ⟨memberFirst, sameID⟩ := FactionStore.mem_of_lookupEntry known
        have apart : entry.repListID ≠ first.repListID := by
          intro same
          apply different
          rw [← sameID, sound.repListID_inj memberFirst listedFirst member same listed]
        rw [loadRow_new known listedFirst
          (new row List.mem_cons_self first known listedFirst), OrdMap.find_assign,
          Function.update_of_ne apart]
      · rw [loadRow_other fun first known listedFirst => own ⟨first, known, listedFirst⟩]
    have talliedFirst : Tallied store (ReputationMgr.loadRow store mgr row) := by
      by_cases own : ∃ first, store.lookupEntry (row.faction % 2 ^ 16) = some first ∧
          0 ≤ first.reputationListID
      · obtain ⟨first, known, listedFirst⟩ := own
        exact tallied.loadRow sound known listedFirst
          (new row List.mem_cons_self first known listedFirst)
          (loadable.saved row List.mem_cons_self first known listedFirst)
      · rw [loadRow_other fun first known listedFirst => own ⟨first, known, listedFirst⟩]
        exact tallied
    have apart {other : ReputationRow} (member : other ∈ rest) :
        row.faction % 2 ^ 16 ≠ other.faction % 2 ^ 16 := by
      grind
    obtain ⟨talliedRest, unchanged, loaded⟩ := ih loadable.tail talliedFirst (by
      intro other member entry known listed
      obtain ⟨memberEntry, sameID⟩ := FactionStore.mem_of_lookupEntry known
      rw [elsewhere entry memberEntry listed (sameID.symm ▸ apart member)]
      exact new other (List.mem_cons_of_mem row member) entry known listed)
    refine ⟨talliedRest, ?_, ?_⟩
    · simp_all
    · intro other member entry known listed
      rcases List.mem_cons.mp member with here | later
      · subst here
        obtain ⟨memberEntry, sameID⟩ := FactionStore.mem_of_lookupEntry known
        rw [List.foldl_cons, unchanged entry memberEntry listed fun third memberThird =>
          sameID.symm ▸ (apart memberThird).symm,
          loadRow_new known listed (new other List.mem_cons_self entry known listed)]
        exact OrdMap.find_assign_some.mpr (Or.inl ⟨rfl, rfl⟩)
      · exact loaded other later entry known listed

theorem loadFromDB_spec (sound : store.Sound) {rows : List ReputationRow}
    (loadable : Loadable store rows) :
    Tallied store (ReputationMgr.loadFromDB store rows) ∧
    (∀ entry ∈ store.entries, 0 ≤ entry.reputationListID →
      (∀ row ∈ rows, row.faction % 2 ^ 16 ≠ entry.ID) →
        (ReputationMgr.loadFromDB store rows).factions.find entry.repListID =
          some (ReputationMgr.newFaction store entry)) ∧
    ∀ row ∈ rows, ∀ entry, store.lookupEntry (row.faction % 2 ^ 16) = some entry →
      0 ≤ entry.reputationListID →
        (ReputationMgr.loadFromDB store rows).factions.find entry.repListID =
          some (loadedFaction store entry row) := by
  obtain ⟨tallied, new⟩ := initializeFactions_spec sound
  obtain ⟨talliedAll, unchanged, loaded⟩ := foldl_loadRow sound loadable tallied (by
    intro row _ entry known listed
    exact new entry (FactionStore.mem_of_lookupEntry known).1 listed)
  refine ⟨talliedAll, ?_, loaded⟩
  intro entry member listed different
  exact (unchanged entry member listed different).trans (new entry member listed)

end Loading

/-! ### Runs -/

/-- The requests; a faction that does not exist cannot be asked for. -/
inductive RepAction
  | setReputation (faction : Nat) (standing : Int) (incremental : Bool)
  | setVisible (faction : Nat)
  | setVisibleTemplate (faction : Nat)
  | setAtWar (repListID : Nat) (on : Bool)
  | setInactive (repListID : Nat) (on : Bool)

def ReputationMgr.next (store : FactionStore) (mgr : ReputationMgr) : RepAction → ReputationMgr
  | .setReputation faction standing incremental =>
    match store.lookupEntry faction with
    | some entry => mgr.setReputation store entry standing incremental
    | none => mgr
  | .setVisible faction =>
    match store.lookupEntry faction with
    | some entry => mgr.setVisibleEntry entry
    | none => mgr
  | .setVisibleTemplate faction => mgr.setVisibleTemplate store faction
  | .setAtWar repListID on => mgr.setAtWar repListID on
  | .setInactive repListID on => mgr.setInactive repListID on

theorem Tallied.next {store : FactionStore} {mgr : ReputationMgr} (tallied : Tallied store mgr)
    (sound : store.Sound) (action : RepAction) : Tallied store (mgr.next store action) := by
  cases action with
  | setReputation faction standing incremental =>
    unfold ReputationMgr.next
    dsimp only
    split
    · rename_i known
      apply setReputation_induction (Tallied store) (FactionStore.mem_of_lookupEntry known).1 ?_
        tallied
      intro mgr entry member standing incremental tallied
      exact tallied.setOneFactionReputation sound member standing incremental
    · exact tallied
  | setVisible faction =>
    unfold ReputationMgr.next
    dsimp only
    split
    · exact tallied.setVisibleEntry _
    · exact tallied
  | setVisibleTemplate faction => exact tallied.setVisibleTemplate faction
  | setAtWar repListID on => exact tallied.setAtWar repListID on
  | setInactive repListID on => exact tallied.setInactive repListID on

theorem find_next_ne_none {store : FactionStore} {mgr : ReputationMgr} {key : Nat}
    (present : mgr.factions.find key ≠ none) (action : RepAction) :
    (mgr.next store action).factions.find key ≠ none := by
  have assign {mgr : ReputationMgr} (present : mgr.factions.find key ≠ none) (other : Nat)
      (state : FactionState) : (mgr.factions.assign other state).find key ≠ none := by
    rw [OrdMap.find_assign, Function.update_apply]
    split
    · exact Option.some_ne_none state
    · exact present
  have setVisibleEntry (entry : FactionEntry) :
      (mgr.setVisibleEntry entry).factions.find key ≠ none := by
    grind [ReputationMgr.setVisibleEntry]
  cases action with
  | setReputation faction standing incremental =>
    unfold ReputationMgr.next
    dsimp only
    split
    · rename_i known
      apply setReputation_induction (fun mgr => mgr.factions.find key ≠ none)
        (FactionStore.mem_of_lookupEntry known).1 ?_ present
      intro mgr entry _ standing incremental present
      unfold ReputationMgr.setOneFactionReputation
      split
      · exact present
      · exact assign present _ _
    · exact present
  | setVisible faction =>
    grind [ReputationMgr.next]
  | setVisibleTemplate faction =>
    grind [ReputationMgr.next, ReputationMgr.setVisibleTemplate]
  | setAtWar repListID on =>
    grind [ReputationMgr.next, ReputationMgr.setAtWar]
  | setInactive repListID on =>
    grind [ReputationMgr.next, ReputationMgr.setInactive]

structure Settled (store : FactionStore) (mgr : ReputationMgr) : Prop where
  present : ∀ entry ∈ store.entries, 0 ≤ entry.reputationListID →
    mgr.factions.find entry.repListID ≠ none
  tallied : Tallied store mgr

section Runs

variable {store : FactionStore} {mgr : ReputationMgr}

theorem Settled.next (settled : Settled store mgr) (sound : store.Sound) (action : RepAction) :
    Settled store (mgr.next store action) where
  present entry member listed := find_next_ne_none (settled.present entry member listed) action
  tallied := settled.tallied.next sound action

theorem settled_initializeFactions (sound : store.Sound) :
    Settled store (ReputationMgr.initializeFactions store) := by
  obtain ⟨tallied, new⟩ := initializeFactions_spec sound
  refine ⟨fun entry member listed => ?_, tallied⟩
  rw [new entry member listed]
  exact Option.some_ne_none _

theorem settled_loadFromDB (sound : store.Sound) {rows : List ReputationRow}
    (loadable : Loadable store rows) : Settled store (ReputationMgr.loadFromDB store rows) := by
  obtain ⟨tallied, new, loaded⟩ := loadFromDB_spec sound loadable
  refine ⟨fun entry member listed => ?_, tallied⟩
  by_cases saved : ∃ row ∈ rows, row.faction % 2 ^ 16 = entry.ID
  · obtain ⟨row, memberRow, same⟩ := saved
    rw [loaded row memberRow entry (same.symm ▸ sound.lookupEntry member) listed]
    exact Option.some_ne_none _
  · simp_all

end Runs

/-- After initialising or loading, and all along any run of requests, every reputation is within the
bounds, and the counters are the numbers of the factions modulo 256. -/
theorem reputations_tallied (store : FactionStore) (sound : store.Sound)
    (rows : List ReputationRow) (loadable : Loadable store rows) (actions : List RepAction) :
    Always (ReputationMgr.next store) (Settled store) (ReputationMgr.initializeFactions store)
      actions ∧
    Always (ReputationMgr.next store) (Settled store) (ReputationMgr.loadFromDB store rows)
      actions := by
  have kept : ∀ mgr action, Settled store mgr → True → Settled store (mgr.next store action) :=
    fun _ action settled _ => settled.next sound action
  exact ⟨always_of_step kept (settled_initializeFactions sound) (along_true _ actions),
    always_of_step kept (settled_loadFromDB sound loadable) (along_true _ actions)⟩

/-! ### Many factions -/

def plainEntry (i : Fin 256) : FactionEntry where
  ID := i.val + 1
  reputationListID := i.val
  baseRepRaceMask _ := 1
  baseRepClassMask _ := 0
  baseRepValue _ := 0
  reputationFlags _ := 1
  team := 0
  spilloverRateIn := 0
  spilloverRateOut := 0
  spilloverMaxRankIn := 0
  isUInt16 := by omega
  isInt32 := by omega

def plainStore (places : List (Fin 256)) : FactionStore where
  entries := places.map plainEntry
  raceMask := 1
  classMask := 1
  repSpilloverTemplate _ := none
  factionTeamList _ := none
  reputationGain := 1

theorem plainStore_sound {places : List (Fin 256)} (distinct : places.Nodup) :
    (plainStore places).Sound := by
  refine ⟨?_, ?_, ?_⟩
  · unfold plainStore
    rw [List.map_map]
    refine distinct.map fun first second same => ?_
    simp only [Function.comp_apply, plainEntry, Nat.add_right_cancel_iff] at same
    exact Fin.ext same
  · unfold plainStore
    have all : (places.map plainEntry).filter (0 ≤ ·.reputationListID) = places.map plainEntry := by
      simp [List.filter_eq_self, List.forall_mem_map, plainEntry]
    rw [all, List.map_map]
    refine distinct.map fun first second same => ?_
    simp only [Function.comp_apply, FactionEntry.repListID, plainEntry, uint32] at same
    omega
  · simp [plainStore, List.forall_mem_map, plainEntry, reputationBottom, reputationCap]

/-- With 256 factions that are all visible the counter of the visible ones is 0. -/
theorem reputations_overflow :
    (plainStore (List.finRange 256)).Sound ∧
    (ReputationMgr.initializeFactions (plainStore (List.finRange 256))).factions.countWhere
      FactionState.isVisible = 256 ∧
    (ReputationMgr.initializeFactions (plainStore (List.finRange 256))).counters.visible = 0 :=
  ⟨plainStore_sound (List.nodup_finRange 256), by decide +kernel⟩

/-- Three factions, one of them with a row, and some requests -/
theorem reputations_tallied_three :
    Always (ReputationMgr.next (plainStore [0, 1, 2])) (Settled (plainStore [0, 1, 2]))
      (ReputationMgr.initializeFactions (plainStore [0, 1, 2]))
      [.setReputation 1 50000 true, .setReputation 2 (-43000) false, .setAtWar 1 false] ∧
    Always (ReputationMgr.next (plainStore [0, 1, 2])) (Settled (plainStore [0, 1, 2]))
      (ReputationMgr.loadFromDB (plainStore [0, 1, 2]) [⟨2, 9000, 1⟩])
      [.setReputation 1 50000 true, .setReputation 2 (-43000) false, .setAtWar 1 false] := by
  apply reputations_tallied (plainStore [0, 1, 2]) (plainStore_sound (by decide)) [⟨2, 9000, 1⟩]
  refine ⟨by decide, ?_⟩
  intro row member entry known _
  rw [List.mem_singleton.mp member] at known ⊢
  have isSecond : (plainStore [0, 1, 2]).lookupEntry (2 % 2 ^ 16) = some (plainEntry 1) := rfl
  rw [isSecond] at known
  cases known
  decide

end DarkCore.Reputation
