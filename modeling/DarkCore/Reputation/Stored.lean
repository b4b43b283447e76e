/-
Saving and loading a reputation. The flags of a faction are not written back as
they are: the setters replay them on the flags that the faction starts with. What
the setters let through at run time and the replay does not bring back is lost.
-/

import DarkCore.Reputation.Standings

namespace DarkCore.Reputation

open DarkCore.Lib
open DarkCore.Player (uint32 int32)

section Setters

variable {state : FactionState} {counters : Counters} {test : Flags}

theorem setVisible_and (apart : flagVisible &&& test = 0) :
    (setVisible counters state).2.flags &&& test = state.flags &&& test := by
  unfold setVisible
  split
  · rfl
  · split
    · rfl
    · exact raise_and apart

theorem setVisible_visible : (setVisible counters state).2.flags &&& flagVisible ≠ 0 ↔
    state.flags &&& flagVisible ≠ 0 ∨
      ¬ (state.flags &&& (flagInvisibleForced ||| flagHidden) ≠ 0 ∧
        state.flags &&& flagSpecial = 0) := by
  unfold setVisible
  split
  · simp_all
  · rename_i showable
    split
    · simp_all
    · refine iff_of_true ?_ (Or.inr showable)
      simp only [raise_self]
      decide

theorem FactionState.setAtWar_and (atWar : Bool) (apart : flagAtWar &&& test = 0) :
    (state.setAtWar atWar).flags &&& test = state.flags &&& test := by
  unfold FactionState.setAtWar
  split
  · rfl
  · split
    · rfl
    · cases atWar with
      | true => exact raise_and apart
      | false => exact lower_and apart

theorem FactionState.setAtWar_true : (state.setAtWar true).flags &&& flagAtWar ≠ 0 ↔
    state.flags &&& flagAtWar ≠ 0 ∨ state.flags &&& flagPeaceForced = 0 := by
  unfold FactionState.setAtWar
  simp only [true_and, decide_eq_true_eq, if_true]
  split
  · simp_all
  · rename_i noPeace
    rw [ne_eq, not_not] at noPeace
    split
    · simp_all
    · refine iff_of_true ?_ (Or.inr noPeace)
      simp only [raise_self]
      decide

theorem FactionState.setAtWar_false : (state.setAtWar false).flags &&& flagAtWar = 0 := by
  unfold FactionState.setAtWar
  simp only [Bool.false_eq_true, false_and, if_false, decide_eq_false_iff_not, ne_eq, not_not]
  split
  · assumption
  · exact lower_self

theorem FactionState.setInactive_and (inactive : Bool) (apart : flagInactive &&& test = 0) :
    (state.setInactive inactive).flags &&& test = state.flags &&& test := by
  unfold FactionState.setInactive
  split
  · rfl
  · split
    · rfl
    · cases inactive with
      | true => exact raise_and apart
      | false => exact lower_and apart

theorem FactionState.setInactive_true : (state.setInactive true).flags &&& flagInactive ≠ 0 ↔
    state.flags &&& flagInactive ≠ 0 ∨
      state.flags &&& (flagInvisibleForced ||| flagHidden) = 0 ∧
        state.flags &&& flagVisible ≠ 0 := by
  unfold FactionState.setInactive
  simp only [true_and, decide_eq_true_eq, if_true]
  split
  · grind
  · rename_i allowed
    rw [not_or, ne_eq, not_not] at allowed
    split
    · simp_all
    · refine iff_of_true ?_ (Or.inr allowed)
      simp only [raise_self]
      decide

theorem FactionState.setInactive_false : (state.setInactive false).flags &&& flagInactive = 0 := by
  unfold FactionState.setInactive
  simp only [Bool.false_eq_true, false_and, if_false, decide_eq_false_iff_not, ne_eq, not_not]
  split
  · assumption
  · exact lower_self

theorem setVisible_needSave : (setVisible counters state).2 = state ∨
    (setVisible counters state).2.needSave = true := by
  unfold setVisible
  split
  · exact Or.inl rfl
  · grind

theorem FactionState.setAtWar_needSave (atWar : Bool) :
    state.setAtWar atWar = state ∨ (state.setAtWar atWar).needSave = true := by
  unfold FactionState.setAtWar
  split
  · exact Or.inl rfl
  · grind

theorem FactionState.setInactive_needSave (inactive : Bool) :
    state.setInactive inactive = state ∨ (state.setInactive inactive).needSave = true := by
  unfold FactionState.setInactive
  split
  · exact Or.inl rfl
  · grind

end Setters

def fixedFlags : Flags := ~~~(flagVisible ||| flagAtWar ||| flagInactive)

/-- Flags that the setters make of the ones at the start: what is not visible, at war or inactive at
the start has passed the check of its setter. -/
structure Derived (start flags : Flags) : Prop where
  fixed : flags &&& fixedFlags = start &&& fixedFlags
  visible : start &&& flagVisible ≠ 0 → flags &&& flagVisible ≠ 0
  shown : flags &&& flagVisible ≠ 0 → start &&& flagVisible ≠ 0 ∨
    ¬ (start &&& (flagInvisibleForced ||| flagHidden) ≠ 0 ∧ start &&& flagSpecial = 0)
  atWar : flags &&& flagAtWar ≠ 0 → start &&& flagAtWar ≠ 0 ∨ start &&& flagPeaceForced = 0
  inactive : flags &&& flagInactive ≠ 0 → start &&& flagInactive ≠ 0 ∨
    start &&& (flagInvisibleForced ||| flagHidden) = 0 ∧ flags &&& flagVisible ≠ 0

section Derived

variable {start flags : Flags} {state : FactionState} {counters : Counters}

theorem derived_refl : Derived start start :=
  ⟨rfl, id, Or.inl, Or.inl, Or.inl⟩

section

variable (derived : Derived start flags)
include derived

theorem Derived.and_eq {test : Flags}
    (isFixed : fixedFlags &&& test = test) : flags &&& test = start &&& test := by
  have both := congrArg (· &&& test) derived.fixed
  simpa only [BitVec.and_assoc, isFixed] using both

theorem Derived.hidden :
    flags &&& (flagInvisibleForced ||| flagHidden) =
      start &&& (flagInvisibleForced ||| flagHidden) :=
  derived.and_eq (by decide)

theorem Derived.special :
    flags &&& flagSpecial = start &&& flagSpecial :=
  derived.and_eq (by decide)

theorem Derived.peaceForced :
    flags &&& flagPeaceForced = start &&& flagPeaceForced :=
  derived.and_eq (by decide)

end

section

variable (derived : Derived start state.flags)
include derived

theorem Derived.setVisible :
    Derived start (setVisible counters state).2.flags where
  fixed := (setVisible_and (by decide)).trans derived.fixed
  visible visible := setVisible_visible.mpr (Or.inl (derived.visible visible))
  shown visible := by
    rcases setVisible_visible.mp visible with before | showable
    · exact derived.shown before
    · grind [derived.hidden, derived.special]
  atWar atWar := by
    rw [setVisible_and (by decide)] at atWar
    exact derived.atWar atWar
  inactive inactive := by
    rw [setVisible_and (by decide)] at inactive
    refine (derived.inactive inactive).imp_right fun allowed => ⟨allowed.1, ?_⟩
    exact setVisible_visible.mpr (Or.inl allowed.2)

theorem Derived.setAtWar (atWar : Bool) :
    Derived start (state.setAtWar atWar).flags where
  fixed := (FactionState.setAtWar_and atWar (by decide)).trans derived.fixed
  visible := by
    rw [FactionState.setAtWar_and atWar (by decide)]
    exact derived.visible
  shown := by
    rw [FactionState.setAtWar_and atWar (by decide)]
    exact derived.shown
  atWar isAtWar := by
    cases atWar with
    | true =>
      rcases FactionState.setAtWar_true.mp isAtWar with before | noPeace
      · exact derived.atWar before
      · grind [derived.peaceForced]
    | false => exact absurd FactionState.setAtWar_false isAtWar
  inactive := by
    rw [FactionState.setAtWar_and atWar (by decide), FactionState.setAtWar_and atWar (by decide)]
    exact derived.inactive

theorem Derived.setInactive (inactive : Bool) :
    Derived start (state.setInactive inactive).flags where
  fixed := (FactionState.setInactive_and inactive (by decide)).trans derived.fixed
  visible := by
    rw [FactionState.setInactive_and inactive (by decide)]
    exact derived.visible
  shown := by
    rw [FactionState.setInactive_and inactive (by decide)]
    exact derived.shown
  atWar := by
    rw [FactionState.setInactive_and inactive (by decide)]
    exact derived.atWar
  inactive isInactive := by
    rw [FactionState.setInactive_and inactive (by decide)]
    cases inactive with
    | true =>
      rcases FactionState.setInactive_true.mp isInactive with before | allowed
      · exact derived.inactive before
      · grind [derived.hidden]
    | false => exact absurd FactionState.setInactive_false isInactive

end

end Derived

section Replay

variable {start : Flags} {state new : FactionState} {rank : ReputationRank}

structure Replayed (start flags : Flags) (rank : ReputationRank) (loaded : Flags) : Prop where
  derived : Derived start loaded
  visible : loaded &&& flagVisible ≠ 0 ↔ flags &&& flagVisible ≠ 0
  inactive : loaded &&& flagInactive ≠ 0 ↔
    flags &&& flagInactive ≠ 0 ∨ start &&& flagInactive ≠ 0
  atWar : loaded &&& flagAtWar ≠ 0 ↔
    flags &&& flagAtWar ≠ 0 ∨ flags &&& flagVisible = 0 ∧ start &&& flagAtWar ≠ 0 ∨
      rank.index ≤ ReputationRank.hostile.index ∧ start &&& flagPeaceForced = 0

section Stages

variable {flags : Flags}

theorem replay_visible (counters : Counters) (derived : Derived start flags) (isNew : new.flags = start) :
    (if flags &&& flagVisible ≠ 0 then setVisible counters new
      else (counters, new)).2.flags &&& flagVisible ≠ 0 ↔ flags &&& flagVisible ≠ 0 := by
  split
  · rename_i visible
    refine iff_of_true (setVisible_visible.mpr ?_) visible
    rw [isNew]
    exact derived.shown visible
  · rename_i invisible
    refine iff_of_false (fun visible => ?_) invisible
    rw [isNew] at visible
    exact invisible (derived.visible visible)

theorem replay_inactive (derived : Derived start flags) (derivedNew : Derived start new.flags)
    (visible : new.flags &&& flagVisible ≠ 0 ↔ flags &&& flagVisible ≠ 0)
    (inactive : new.flags &&& flagInactive = start &&& flagInactive) :
    (if flags &&& flagInactive ≠ 0 then new.setInactive true else new).flags &&&
        flagInactive ≠ 0 ↔
      flags &&& flagInactive ≠ 0 ∨ start &&& flagInactive ≠ 0 := by
  split
  · rename_i isInactive
    refine iff_of_true (FactionState.setInactive_true.mpr ?_) (Or.inl isInactive)
    rw [inactive, derivedNew.hidden, visible]
    exact derived.inactive isInactive
  · simp_all

theorem replay_atWar (derived : Derived start flags) (derivedNew : Derived start new.flags)
    (visible : new.flags &&& flagVisible ≠ 0 ↔ flags &&& flagVisible ≠ 0)
    (atWar : new.flags &&& flagAtWar = start &&& flagAtWar) :
    (if flags &&& flagAtWar ≠ 0 then new.setAtWar true
      else if new.flags &&& flagVisible ≠ 0 then new.setAtWar false else new).flags &&&
        flagAtWar ≠ 0 ↔
      flags &&& flagAtWar ≠ 0 ∨ flags &&& flagVisible = 0 ∧ start &&& flagAtWar ≠ 0 := by
  split
  · rename_i isAtWar
    refine iff_of_true (FactionState.setAtWar_true.mpr ?_) (Or.inl isAtWar)
    rw [atWar, derivedNew.peaceForced]
    exact derived.atWar isAtWar
  · rename_i peace
    rw [or_iff_right peace]
    split
    · rename_i isVisible
      refine iff_of_false (not_not.mpr FactionState.setAtWar_false) fun both => ?_
      exact visible.mp isVisible both.1
    · simp_all

theorem Derived.ite {condition : Prop} [Decidable condition] {one two : FactionState}
    (first : Derived start one.flags) (second : Derived start two.flags) :
    Derived start (if condition then one else two).flags := by
  split
  · exact first
  · exact second

theorem ite_and {condition : Prop} [Decidable condition] {one two : FactionState} {test bits : Flags}
    (first : one.flags &&& test = bits) (second : two.flags &&& test = bits) :
    (if condition then one else two).flags &&& test = bits := by
  split
  · exact first
  · exact second

end Stages

theorem replayFlags_replayed (counters : Counters) {flags : Flags} (derived : Derived start flags)
    (isNew : new.flags = start) :
    Replayed start flags rank (ReputationMgr.replayFlags counters new flags rank).2.flags := by
  have derivedNew : Derived start new.flags := isNew.symm ▸ derived_refl
  unfold ReputationMgr.replayFlags
  have visible := replay_visible counters derived isNew
  have derivedShown : Derived start (if flags &&& flagVisible ≠ 0 then setVisible counters new
      else (counters, new)).2.flags := by
    split
    · exact derivedNew.setVisible
    · exact derivedNew
  have same (test : Flags) (apart : flagVisible &&& test = 0) :
      (if flags &&& flagVisible ≠ 0 then setVisible counters new
        else (counters, new)).2.flags &&& test = start &&& test := by
    split
    · rw [setVisible_and apart, isNew]
    · rw [isNew]
  generalize (if flags &&& flagVisible ≠ 0 then setVisible counters new else (counters, new)) =
    shown at visible derivedShown same ⊢
  obtain ⟨_, shown⟩ := shown
  dsimp only at visible derivedShown same ⊢
  have inactive := replay_inactive derived derivedShown visible (same flagInactive (by decide))
  have derivedInactive : Derived start
      (if flags &&& flagInactive ≠ 0 then shown.setInactive true else shown).flags :=
    Derived.ite (derivedShown.setInactive true) derivedShown
  have visibleInactive : (if flags &&& flagInactive ≠ 0 then shown.setInactive true
      else shown).flags &&& flagVisible = shown.flags &&& flagVisible :=
    ite_and (FactionState.setInactive_and true (by decide)) rfl
  have warInactive : (if flags &&& flagInactive ≠ 0 then shown.setInactive true
      else shown).flags &&& flagAtWar = start &&& flagAtWar :=
    ite_and ((FactionState.setInactive_and true (by decide)).trans (same flagAtWar (by decide)))
      (same flagAtWar (by decide))
  generalize (if flags &&& flagInactive ≠ 0 then shown.setInactive true else shown) = active
    at inactive derivedInactive visibleInactive warInactive ⊢
  rw [← visibleInactive] at visible
  have atWar := replay_atWar derived derivedInactive visible warInactive
  have derivedWar : Derived start (if flags &&& flagAtWar ≠ 0 then active.setAtWar true
      else if active.flags &&& flagVisible ≠ 0 then active.setAtWar false else active).flags :=
    Derived.ite (derivedInactive.setAtWar true)
      (Derived.ite (derivedInactive.setAtWar false) derivedInactive)
  have sameWar (test : Flags) (apart : flagAtWar &&& test = 0) :
      (if flags &&& flagAtWar ≠ 0 then active.setAtWar true
        else if active.flags &&& flagVisible ≠ 0 then active.setAtWar false
        else active).flags &&& test = active.flags &&& test :=
    ite_and (FactionState.setAtWar_and true apart)
      (ite_and (FactionState.setAtWar_and false apart) rfl)
  generalize (if flags &&& flagAtWar ≠ 0 then active.setAtWar true
    else if active.flags &&& flagVisible ≠ 0 then active.setAtWar false else active) = war
    at atWar derivedWar sameWar ⊢
  have sameLast (test : Flags) (apart : flagAtWar &&& test = 0) :
      (if rank.index ≤ ReputationRank.hostile.index then war.setAtWar true
        else war).flags &&& test = active.flags &&& test :=
    ite_and ((FactionState.setAtWar_and true apart).trans (sameWar test apart))
      (sameWar test apart)
  refine ⟨Derived.ite (derivedWar.setAtWar true) derivedWar, ?_, ?_, ?_⟩
  · rw [sameLast flagVisible (by decide)]
    exact visible
  · rw [sameLast flagInactive (by decide)]
    exact inactive
  · rw [← or_assoc, ← atWar]
    split
    · grind [FactionState.setAtWar_true, derivedWar.peaceForced]
    · simp_all

end Replay

def Everywhere (property : Nat → FactionState → Prop) (mgr : ReputationMgr) : Prop :=
  ∀ key state, mgr.factions.find key = some state → property key state

structure Stable (property : Nat → FactionState → Prop) : Prop where
  visible : ∀ key counters state, property key state → property key (setVisible counters state).2
  atWar : ∀ key atWar state, property key state → property key (state.setAtWar atWar)
  inactive : ∀ key inactive state, property key state → property key (state.setInactive inactive)
  standing : ∀ key standing state, property key state →
    property key { state with standing := standing, needSave := true }

section Everywhere

variable {store : FactionStore} {mgr : ReputationMgr} {property : Nat → FactionState → Prop}

section

variable (everywhere : Everywhere property mgr)
include everywhere

theorem Everywhere.assign {key : Nat} {state : FactionState}
    (holds : property key state) (counters : Counters) :
    Everywhere property ⟨mgr.factions.assign key state, counters⟩ := by
  intro other found isFound
  rcases OrdMap.find_assign_some.mp isFound with ⟨rfl, rfl⟩ | ⟨_, elsewhere⟩
  · exact holds
  · exact everywhere other found elsewhere

theorem Everywhere.setOneFactionReputation
    (stable : Stable property) (entry : FactionEntry) (standing : Int) (incremental : Bool) :
    Everywhere property (mgr.setOneFactionReputation store entry standing incremental) := by
  unfold ReputationMgr.setOneFactionReputation
  cases found : mgr.factions.find entry.repListID with
  | none => exact everywhere
  | some faction =>
    dsimp only
    apply everywhere.assign
    generalize ReputationMgr.clampStanding (if incremental = true then
      int32 (int32 ⌊standing * store.reputationGain + 1 / 2⌋ +
        (faction.standing + store.getBaseReputation entry)) else standing) = reached
    have changed := stable.visible _ mgr.counters _ (stable.standing _
      (reached - store.getBaseReputation entry) faction (everywhere _ faction found))
    generalize setVisible mgr.counters
      { faction with standing := reached - store.getBaseReputation entry, needSave := true } =
        shown at changed ⊢
    split
    · exact stable.atWar _ true _ changed
    · exact changed

theorem Everywhere.setVisibleEntry
    (stable : Stable property) (entry : FactionEntry) :
    Everywhere property (mgr.setVisibleEntry entry) := by
  unfold ReputationMgr.setVisibleEntry
  split
  · exact everywhere
  · cases found : mgr.factions.find entry.repListID with
    | none => exact everywhere
    | some faction =>
      exact everywhere.assign (stable.visible _ mgr.counters _ (everywhere _ faction found)) _

theorem Everywhere.next (stable : Stable property)
    (action : RepAction) : Everywhere property (mgr.next store action) := by
  cases action with
  | setReputation faction standing incremental =>
    unfold ReputationMgr.next
    dsimp only
    split
    · rename_i known
      apply setReputation_induction (Everywhere property)
        (FactionStore.mem_of_lookupEntry known).1 ?_ everywhere
      intro mgr entry _ standing incremental everywhere
      exact everywhere.setOneFactionReputation stable entry standing incremental
    · exact everywhere
  | setVisible faction =>
    unfold ReputationMgr.next
    dsimp only
    split
    · exact everywhere.setVisibleEntry stable _
    · exact everywhere
  | setVisibleTemplate faction =>
    unfold ReputationMgr.next ReputationMgr.setVisibleTemplate
    dsimp only
    split
    · exact everywhere
    · split
      · exact everywhere
      · split
        · exact everywhere
        · exact everywhere.setVisibleEntry stable _
  | setAtWar repListID on =>
    unfold ReputationMgr.next ReputationMgr.setAtWar
    dsimp only
    split
    · exact everywhere
    · rename_i found
      split
      · exact everywhere
      · exact everywhere.assign (stable.atWar _ on _ (everywhere _ _ found)) _
  | setInactive repListID on =>
    unfold ReputationMgr.next ReputationMgr.setInactive
    dsimp only
    split
    · exact everywhere
    · rename_i found
      exact everywhere.assign (stable.inactive _ on _ (everywhere _ _ found)) _

end

end Everywhere

def rowOf (state : FactionState) : ReputationRow := ⟨state.ID, state.standing, state.flags.toNat⟩

structure SavedRows (states : List FactionState) (before after : List ReputationRow) : Prop where
  distinct : (after.map ReputationRow.faction).Nodup
  written : ∀ state ∈ states, state.needSave = true → rowOf state ∈ after
  kept : ∀ row ∈ before, (∀ state ∈ states, state.needSave = true → state.ID ≠ row.faction) →
    row ∈ after
  only : ∀ row ∈ after, row ∈ before ∨ ∃ state ∈ states, row = rowOf state

theorem saveFaction_rows {rows : List ReputationRow} (state : FactionState)
    (distinct : (rows.map ReputationRow.faction).Nodup) :
    SavedRows [state] rows (ReputationMgr.saveFaction rows state) := by
  unfold ReputationMgr.saveFaction
  split
  · rename_i needSave
    refine ⟨?_, ?_, ?_, ?_⟩
    · rw [List.map_append, List.nodup_append]
      refine ⟨distinct.sublist (List.filter_sublist.map _), List.nodup_singleton _, ?_⟩
      intro faction member other memberOther same
      obtain ⟨row, memberRow, rfl⟩ := List.mem_map.mp member
      rw [List.map_singleton, List.mem_singleton] at memberOther
      have different := (List.mem_filter.mp memberRow).2
      rw [decide_eq_true_iff] at different
      exact different (same.trans memberOther)
    · intro other member _
      rw [List.mem_singleton.mp member]
      exact List.mem_append_right _ List.mem_cons_self
    · intro row member untouched
      apply List.mem_append_left
      have different := untouched state List.mem_cons_self needSave
      exact List.mem_filter.mpr ⟨member, decide_eq_true different.symm⟩
    · intro row member
      rcases List.mem_append.mp member with old | new
      · exact Or.inl (List.mem_filter.mp old).1
      · exact Or.inr ⟨state, List.mem_cons_self, List.mem_singleton.mp new⟩
  · rename_i unchanged
    refine ⟨distinct, ?_, fun row member _ => member, fun row member => Or.inl member⟩
    intro other member needSave
    rw [List.mem_singleton.mp member] at needSave
    exact absurd needSave unchanged

theorem foldl_saveFaction {states : List FactionState} {rows : List ReputationRow}
    (own : (states.map FactionState.ID).Nodup)
    (distinct : (rows.map ReputationRow.faction).Nodup) :
    SavedRows states rows (states.foldl ReputationMgr.saveFaction rows) := by
  induction states generalizing rows with
  | nil =>
    exact ⟨distinct, List.forall_mem_nil _, fun row member _ => member,
      fun row member => Or.inl member⟩
  | cons state rest ih =>
    rw [List.map_cons, List.nodup_cons] at own
    have first := saveFaction_rows state distinct
    have others := ih own.2 first.distinct
    refine ⟨others.distinct, ?_, ?_, ?_⟩
    · intro other member needSave
      rcases List.mem_cons.mp member with here | later
      · rw [here] at needSave ⊢
        apply others.kept _ (first.written state List.mem_cons_self needSave)
        intro third memberThird _ same
        exact own.1 (List.mem_map.mpr ⟨third, memberThird, same⟩)
      · exact others.written other later needSave
    · intro row member untouched
      apply others.kept row
      · apply first.kept row member
        intro other memberOther
        rw [List.mem_singleton.mp memberOther]
        exact untouched state List.mem_cons_self
      · simp_all
    · intro row member
      rcases others.only row member with old | ⟨other, memberOther, same⟩
      · rcases first.only row old with before | ⟨other, memberOther, same⟩
        · exact Or.inl before
        · simp_all
      · exact Or.inr ⟨other, List.mem_cons_of_mem state memberOther, same⟩

end DarkCore.Reputation
