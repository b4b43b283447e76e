/-
Runs of requests, saves and loads. What a later load restores of a reputation is
decided by each faction on its own, from the flags that it starts with and the
ones that it has.
-/

import DarkCore.Reputation.Stored

namespace DarkCore.Reputation

open DarkCore.Lib
open DarkCore.Player (uint32 int32)

structure Restored (state loaded : FactionState) : Prop where
  standing : loaded.standing = state.standing
  visible : loaded.flags &&& flagVisible ≠ 0 ↔ state.flags &&& flagVisible ≠ 0
  atWar : loaded.flags &&& flagAtWar ≠ 0 ↔ state.flags &&& flagAtWar ≠ 0
  inactive : loaded.flags &&& flagInactive ≠ 0 ↔ state.flags &&& flagInactive ≠ 0

/-- A faction that is inactive at the start is still so, and one at peace is not sent to war again:
by its flags at the start while it is not visible, or by the rank of its standing. -/
structure Restorable (store : FactionStore) (entry : FactionEntry) (state : FactionState) : Prop where
  inactive : store.getDefaultStateFlags entry &&& flagInactive ≠ 0 →
    state.flags &&& flagInactive ≠ 0
  shown : store.getDefaultStateFlags entry &&& flagAtWar ≠ 0 → state.flags &&& flagVisible = 0 →
    state.flags &&& flagAtWar ≠ 0
  hostile : (reputationToRank (store.getBaseReputation entry + state.standing)).index ≤
      ReputationRank.hostile.index → store.getDefaultStateFlags entry &&& flagPeaceForced = 0 →
    state.flags &&& flagAtWar ≠ 0

section One

variable {store : FactionStore} {entry : FactionEntry} {state : FactionState} {row : ReputationRow}

theorem loadedFaction_flags : (loadedFaction store entry row).flags =
    (ReputationMgr.replayFlags ⟨0, 0, 0, 0⟩
      { ReputationMgr.newFaction store entry with standing := int32 row.standing }
      (BitVec.ofNat 8 row.flags)
      (reputationToRank (store.getBaseReputation entry + int32 row.standing))).2.flags := by
  unfold loadedFaction
  dsimp only
  split <;> rfl

theorem loadedFaction_alike : (loadedFaction store entry row).ID = entry.ID ∧
    (loadedFaction store entry row).standing = int32 row.standing := by
  have shows' : Shows ⟨0, 0, 0, 0⟩
      { ReputationMgr.newFaction store entry with standing := int32 row.standing } _ _ :=
    replayFlags_shows (BitVec.ofNat 8 row.flags)
      (reputationToRank (store.getBaseReputation entry + int32 row.standing))
  unfold loadedFaction
  dsimp only
  split <;> exact ⟨shows'.ID, shows'.standing⟩

theorem int32_of_bounds {value : Int} (below : -2 ^ 31 ≤ value) (above : value < 2 ^ 31) :
    int32 value = value := by
  unfold int32
  split <;> omega

theorem ofNat_toNat_flags (flags : Flags) : BitVec.ofNat 8 flags.toNat = flags := by simp

theorem loadedFaction_replayed (derived : Derived (store.getDefaultStateFlags entry) state.flags)
    (small : int32 state.standing = state.standing) :
    Replayed (store.getDefaultStateFlags entry) state.flags
      (reputationToRank (store.getBaseReputation entry + state.standing))
      (loadedFaction store entry (rowOf state)).flags := by
  rw [loadedFaction_flags]
  simp only [rowOf, small, ofNat_toNat_flags]
  exact replayFlags_replayed ⟨0, 0, 0, 0⟩ derived rfl

theorem restored_iff (derived : Derived (store.getDefaultStateFlags entry) state.flags)
    (small : int32 state.standing = state.standing) :
    Restored state (loadedFaction store entry (rowOf state)) ↔ Restorable store entry state := by
  have replayed := loadedFaction_replayed derived small
  constructor
  · intro restored
    refine ⟨fun inactive => ?_, fun atWar invisible => ?_, fun hostile noPeace => ?_⟩
    · exact restored.inactive.mp (replayed.inactive.mpr (Or.inr inactive))
    · exact restored.atWar.mp (replayed.atWar.mpr (Or.inr (Or.inl ⟨invisible, atWar⟩)))
    · exact restored.atWar.mp (replayed.atWar.mpr (Or.inr (Or.inr ⟨hostile, noPeace⟩)))
  · intro restorable
    refine ⟨loadedFaction_alike.2.trans small, replayed.visible, ?_, ?_⟩
    · refine ⟨fun atWar => ?_, fun atWar => replayed.atWar.mpr (Or.inl atWar)⟩
      rcases replayed.atWar.mp atWar with same | ⟨invisible, start⟩ | ⟨hostile, noPeace⟩
      · exact same
      · exact restorable.shown start invisible
      · exact restorable.hostile hostile noPeace
    · refine ⟨fun inactive => ?_, fun inactive => replayed.inactive.mpr (Or.inl inactive)⟩
      rcases replayed.inactive.mp inactive with same | start
      · exact same
      · exact restorable.inactive start

theorem replayFlags_needSave {counters : Counters} {faction : FactionState}
    (marked : faction.needSave = true) (dbFactionFlags : Flags) (rank : ReputationRank) :
    (ReputationMgr.replayFlags counters faction dbFactionFlags rank).2.needSave = true := by
  have stays {state after : FactionState} (marked : state.needSave = true)
      (change : after = state ∨ after.needSave = true) : after.needSave = true := by
    rcases change with rfl | marks
    · exact marked
    · exact marks
  have atWar {state : FactionState} (marked : state.needSave = true) (on : Bool) :
      (state.setAtWar on).needSave = true :=
    stays marked (FactionState.setAtWar_needSave on)
  have inactive {state : FactionState} (marked : state.needSave = true) :
      (state.setInactive true).needSave = true :=
    stays marked (FactionState.setInactive_needSave true)
  have ite {condition : Prop} [Decidable condition] {one two : FactionState}
      (first : one.needSave = true) (second : two.needSave = true) :
      (if condition then one else two).needSave = true := by
    grind
  unfold ReputationMgr.replayFlags
  have shown : (if dbFactionFlags &&& flagVisible ≠ 0 then setVisible counters faction
      else (counters, faction)).2.needSave = true := by
    split
    · exact stays marked setVisible_needSave
    · exact marked
  have active : (if dbFactionFlags &&& flagInactive ≠ 0 then _ else _ : FactionState).needSave =
      true := ite (inactive shown) shown
  exact ite (atWar (ite (atWar active true) (ite (atWar active false) active)) true)
    (ite (atWar active true) (ite (atWar active false) active))

theorem loadedFaction_row (isRow : row.faction = entry.ID ∧ row.flags < 2 ^ 8)
    (small : int32 row.standing = row.standing)
    (clean : (loadedFaction store entry row).needSave = false) :
    rowOf (loadedFaction store entry row) = row := by
  obtain ⟨faction, standing, flags⟩ := row
  have alike : (loadedFaction store entry ⟨faction, standing, flags⟩).ID = entry.ID ∧
      (loadedFaction store entry ⟨faction, standing, flags⟩).standing = int32 standing :=
    loadedFaction_alike
  have sameFlags : (loadedFaction store entry ⟨faction, standing, flags⟩).flags.toNat = flags := by
    rw [loadedFaction_flags]
    unfold loadedFaction at clean
    dsimp only at clean isRow ⊢
    split at clean
    · omega
    · exact (Bool.eq_false_iff.mp clean (replayFlags_needSave rfl _ _)).elim
  simp only [rowOf, ReputationRow.mk.injEq]
  exact ⟨alike.1.trans isRow.1.symm, alike.2.trans small, sameFlags⟩

end One

structure Session where
  mgr : ReputationMgr
  rows : List ReputationRow

inductive SessionAction
  | request (action : RepAction)
  | save
  | load

namespace Session

variable (store : FactionStore) (session : Session)

def start : Session := ⟨ReputationMgr.initializeFactions store, []⟩

def next : SessionAction → Session
  | .request action => { session with mgr := session.mgr.next store action }
  | .save => ⟨(session.mgr.saveToDB session.rows).1, (session.mgr.saveToDB session.rows).2⟩
  | .load => { session with mgr := ReputationMgr.loadFromDB store session.rows }

def Restores : Prop :=
  ∀ stored : List ReputationRow, stored.Perm (session.mgr.saveToDB session.rows).2 →
    ∀ entry ∈ store.entries, 0 ≤ entry.reputationListID →
      ∀ state, session.mgr.factions.find entry.repListID = some state →
        ∃ loaded, (ReputationMgr.loadFromDB store stored).factions.find entry.repListID =
          some loaded ∧ Restored state loaded

def IsRestorable : Prop :=
  ∀ entry ∈ store.entries, 0 ≤ entry.reputationListID →
    ∀ state, session.mgr.factions.find entry.repListID = some state →
      Restorable store entry state

end Session

def FlagsDerived (store : FactionStore) (key : Nat) (state : FactionState) : Prop :=
  ∀ entry ∈ store.entries, 0 ≤ entry.reputationListID → entry.repListID = key →
    Derived (store.getDefaultStateFlags entry) state.flags

def Stored (rows : List ReputationRow) (_ : Nat) (state : FactionState) : Prop :=
  state.needSave = false → rowOf state ∈ rows

def Left (store : FactionStore) (row : ReputationRow) : Prop :=
  ∃ entry state, row = rowOf state ∧ store.lookupEntry state.ID = some entry ∧
    0 ≤ entry.reputationListID ∧
    (reputationBottom ≤ store.reputationOf state ∧ store.reputationOf state ≤ reputationCap) ∧
    Derived (store.getDefaultStateFlags entry) state.flags

structure Kept (store : FactionStore) (session : Session) : Prop where
  settled : Settled store session.mgr
  derived : Everywhere (FlagsDerived store) session.mgr
  stored : Everywhere (Stored session.rows) session.mgr
  distinct : (session.rows.map ReputationRow.faction).Nodup
  left : ∀ row ∈ session.rows, Left store row

section Sessions

variable {store : FactionStore} {session : Session}

theorem stable_flagsDerived : Stable (FlagsDerived store) where
  visible _ _ _ holds entry member listed same := (holds entry member listed same).setVisible
  atWar _ on _ holds entry member listed same := (holds entry member listed same).setAtWar on
  inactive _ on _ holds entry member listed same := (holds entry member listed same).setInactive on
  standing _ _ _ holds := holds

theorem Stored.change {rows : List ReputationRow} {key : Nat} {state after : FactionState}
    (holds : Stored rows key state) (change : after = state ∨ after.needSave = true) :
    Stored rows key after := by
  rcases change with rfl | marked
  · exact holds
  · intro clean
    rw [marked] at clean
    cases clean

theorem stable_stored (rows : List ReputationRow) : Stable (Stored rows) where
  visible _ _ _ holds := holds.change setVisible_needSave
  atWar _ on _ holds := holds.change (FactionState.setAtWar_needSave on)
  inactive _ on _ holds := holds.change (FactionState.setInactive_needSave on)
  standing _ _ _ holds := holds.change (Or.inr rfl)

theorem kept_start (sound : store.Sound) : Kept store (Session.start store) := by
  obtain ⟨tallied, new⟩ := initializeFactions_spec sound
  have own (key : Nat) (state : FactionState)
      (found : (ReputationMgr.initializeFactions store).factions.find key = some state) :
      ∃ entry ∈ store.entries, 0 ≤ entry.reputationListID ∧ entry.repListID = key ∧
        state = ReputationMgr.newFaction store entry := by
    obtain ⟨entry, known, listed, rfl⟩ := tallied.listed key state found
    have member := (FactionStore.mem_of_lookupEntry known).1
    rw [new entry member listed] at found
    exact ⟨entry, member, listed, rfl, (Option.some.inj found).symm⟩
  refine ⟨settled_initializeFactions sound, ?_, ?_, List.nodup_nil, List.forall_mem_nil _⟩
  · intro key state found entry member listed same
    obtain ⟨other, memberOther, listedOther, sameOther, rfl⟩ := own key state found
    rw [sound.repListID_inj memberOther listedOther member (same.trans sameOther.symm) listed]
    exact derived_refl
  · intro key state found clean
    obtain ⟨entry, _, _, _, rfl⟩ := own key state found
    cases clean

theorem int32_standing (sound : store.Sound) {entry : FactionEntry} {state : FactionState}
    (known : store.lookupEntry state.ID = some entry)
    (bounds : reputationBottom ≤ store.reputationOf state ∧
      store.reputationOf state ≤ reputationCap) : int32 state.standing = state.standing := by
  have base := sound.getBaseReputation (FactionStore.mem_of_lookupEntry known).1
  rw [reputationOf_eq known] at bounds
  unfold reputationBottom reputationCap at base bounds
  apply int32_of_bounds <;> omega

theorem rowOf_faction {entry : FactionEntry} {state : FactionState}
    (known : store.lookupEntry state.ID = some entry) :
    (rowOf state).faction = entry.ID ∧ (rowOf state).faction % 2 ^ 16 = (rowOf state).faction := by
  have same : (rowOf state).faction = entry.ID :=
    (FactionStore.mem_of_lookupEntry known).2.symm
  refine ⟨same, ?_⟩
  rw [same]
  exact Nat.mod_eq_of_lt entry.isUInt16.2

theorem loadable_of_left (sound : store.Sound) {rows : List ReputationRow}
    (left : ∀ row ∈ rows, Left store row) (distinct : (rows.map ReputationRow.faction).Nodup) :
    Loadable store rows := by
  have small (row : ReputationRow) (member : row ∈ rows) : row.faction % 2 ^ 16 = row.faction := by
    obtain ⟨entry, state, rfl, known, _⟩ := left row member
    exact (rowOf_faction known).2
  constructor
  · rw [List.map_congr_left small]
    exact distinct
  · intro row member entry known _
    rw [small row member] at known
    obtain ⟨other, state, rfl, knownState, _, bounds, _⟩ := left row member
    rw [show (rowOf state).faction = state.ID from rfl, knownState] at known
    cases known
    rw [show (rowOf state).standing = state.standing from rfl, int32_standing sound knownState bounds,
      ← reputationOf_eq knownState]
    exact bounds

theorem Tallied.nodup_IDs {mgr : ReputationMgr} (tallied : Tallied store mgr) :
    ((mgr.factions.entries.map Prod.snd).map FactionState.ID).Nodup := by
  rw [List.map_map]
  apply List.Nodup.map_on _ mgr.factions.keys_nodup.of_map
  rintro ⟨key, state⟩ member ⟨otherKey, other⟩ memberOther same
  obtain ⟨entry, known, _, rfl⟩ := tallied.listed key state (OrdMap.find_eq_some.mpr member)
  obtain ⟨otherEntry, knownOther, _, rfl⟩ :=
    tallied.listed otherKey other (OrdMap.find_eq_some.mpr memberOther)
  simp only [Function.comp_apply] at same
  rw [same, knownOther] at known
  cases known
  rw [mgr.factions.eq_of_mem_of_mem member memberOther]

theorem Kept.saveToDB (kept : Kept store session) :
    (∀ key state, session.mgr.factions.find key = some state →
      rowOf state ∈ (session.mgr.saveToDB session.rows).2) ∧
    (((session.mgr.saveToDB session.rows).2).map ReputationRow.faction).Nodup ∧
    ∀ row ∈ (session.mgr.saveToDB session.rows).2, Left store row := by
  have own := kept.settled.tallied.nodup_IDs
  have saved := foldl_saveFaction own kept.distinct
  have isState {state : FactionState} :
      state ∈ session.mgr.factions.entries.map Prod.snd ↔
        ∃ key, session.mgr.factions.find key = some state := by
    simp only [List.mem_map, Prod.exists, exists_eq_right, OrdMap.find_eq_some]
  refine ⟨?_, saved.distinct, ?_⟩
  · intro key state found
    have member := isState.mpr ⟨key, found⟩
    cases needSave : state.needSave with
    | true => exact saved.written state member needSave
    | false =>
      apply saved.kept _ (kept.stored key state found needSave)
      intro other memberOther marked same
      rw [List.inj_on_of_nodup_map own memberOther member same, needSave] at marked
      cases marked
  · intro row member
    rcases saved.only row member with before | ⟨state, memberState, rfl⟩
    · exact kept.left row before
    · obtain ⟨key, found⟩ := isState.mp memberState
      obtain ⟨entry, known, listed, same⟩ := kept.settled.tallied.listed key state found
      exact ⟨entry, state, rfl, known, listed, kept.settled.tallied.bounded key state found,
        kept.derived key state found entry (FactionStore.mem_of_lookupEntry known).1 listed same⟩

theorem Settled.mapValues {mgr : ReputationMgr} (settled : Settled store mgr)
    {change : FactionState → FactionState} (same : ∀ state, (change state).ID = state.ID ∧
      (change state).standing = state.standing ∧ (change state).flags = state.flags) :
    Settled store ⟨mgr.factions.mapValues change, mgr.counters⟩ := by
  have reputation (state : FactionState) :
      store.reputationOf (change state) = store.reputationOf state := by
    simp_all [FactionStore.reputationOf]
  have rank (least : ReputationRank) :
      (store.hasRank least ∘ change) = store.hasRank least := by
    funext state
    simp only [Function.comp_apply, FactionStore.hasRank, reputation]
  have visible : (FactionState.isVisible ∘ change) = FactionState.isVisible := by
    funext state
    simp only [Function.comp_apply, FactionState.isVisible, (same state).2.2]
  have old {key : Nat} {state : FactionState}
      (found : (mgr.factions.mapValues change).find key = some state) :
      ∃ before, mgr.factions.find key = some before ∧ state = change before := by
    rw [OrdMap.find_mapValues] at found
    obtain ⟨before, isBefore, rfl⟩ := Option.map_eq_some_iff.mp found
    exact ⟨before, isBefore, rfl⟩
  obtain ⟨present, tallied⟩ := settled
  refine ⟨?_, ?_, ?_, ?_, ?_, ?_, ?_⟩
  · intro entry member listed
    rw [OrdMap.find_mapValues]
    simpa using present entry member listed
  · intro key state found
    obtain ⟨before, isBefore, rfl⟩ := old found
    rw [(same before).1]
    exact tallied.listed key before isBefore
  · intro key state found
    obtain ⟨before, isBefore, rfl⟩ := old found
    rw [reputation]
    exact tallied.bounded key before isBefore
  · rw [OrdMap.countWhere_mapValues, visible]
    exact tallied.visible
  · rw [OrdMap.countWhere_mapValues, rank]
    exact tallied.honored
  · rw [OrdMap.countWhere_mapValues, rank]
    exact tallied.revered
  · rw [OrdMap.countWhere_mapValues, rank]
    exact tallied.exalted

theorem Kept.save (kept : Kept store session) : Kept store (session.next store .save) := by
  obtain ⟨written, distinct, left⟩ := kept.saveToDB
  have old {key : Nat} {state : FactionState}
      (found : (session.next store .save).mgr.factions.find key = some state) :
      ∃ before, session.mgr.factions.find key = some before ∧
        state = { before with needSave := false } := by
    simp only [Session.next, ReputationMgr.saveToDB, OrdMap.find_mapValues] at found
    obtain ⟨before, isBefore, rfl⟩ := Option.map_eq_some_iff.mp found
    exact ⟨before, isBefore, rfl⟩
  refine ⟨kept.settled.mapValues fun _ => ⟨rfl, rfl, rfl⟩, ?_, ?_, distinct, left⟩
  · intro key state found
    obtain ⟨before, isBefore, rfl⟩ := old found
    exact kept.derived key before isBefore
  · intro key state found _
    obtain ⟨before, isBefore, rfl⟩ := old found
    exact written key before isBefore

theorem Left.loaded (sound : store.Sound) {row : ReputationRow} (left : Left store row) :
    ∃ entry ∈ store.entries, 0 ≤ entry.reputationListID ∧ row.faction = entry.ID ∧
      store.lookupEntry (row.faction % 2 ^ 16) = some entry ∧
      Derived (store.getDefaultStateFlags entry) (loadedFaction store entry row).flags ∧
      ((loadedFaction store entry row).needSave = false →
        rowOf (loadedFaction store entry row) = row) := by
  obtain ⟨entry, state, rfl, known, listed, bounds, derived⟩ := left
  obtain ⟨sameID, small⟩ := rowOf_faction known
  have standing := int32_standing sound known bounds
  refine ⟨entry, (FactionStore.mem_of_lookupEntry known).1, listed, sameID, ?_, ?_, ?_⟩
  · rw [small]
    exact known
  · exact (loadedFaction_replayed derived standing).derived
  · exact loadedFaction_row ⟨sameID, state.flags.isLt⟩ standing

theorem Kept.load (kept : Kept store session) (sound : store.Sound) :
    Kept store (session.next store .load) := by
  have loadable := loadable_of_left sound kept.left kept.distinct
  obtain ⟨tallied, new, loaded⟩ := loadFromDB_spec sound loadable
  have own {key : Nat} {state : FactionState}
      (found : (ReputationMgr.loadFromDB store session.rows).factions.find key = some state) :
      ∃ entry ∈ store.entries, 0 ≤ entry.reputationListID ∧ entry.repListID = key ∧
        Derived (store.getDefaultStateFlags entry) state.flags ∧
        Stored session.rows key state := by
    obtain ⟨entry, known, listed, rfl⟩ := tallied.listed key state found
    have member := (FactionStore.mem_of_lookupEntry known).1
    by_cases saved : ∃ row ∈ session.rows, row.faction % 2 ^ 16 = entry.ID
    · obtain ⟨row, memberRow, same⟩ := saved
      obtain ⟨other, _, _, _, knownRow, derived, clean⟩ := (kept.left row memberRow).loaded sound
      have isEntry : store.lookupEntry (row.faction % 2 ^ 16) = some entry :=
        same.symm ▸ sound.lookupEntry member
      rw [knownRow] at isEntry
      cases isEntry
      rw [loaded row memberRow entry knownRow listed] at found
      cases found
      exact ⟨entry, member, listed, rfl, derived, fun isClean => (clean isClean).symm ▸ memberRow⟩
    · rw [new entry member listed fun row memberRow same => saved ⟨row, memberRow, same⟩] at found
      cases found
      exact ⟨entry, member, listed, rfl, derived_refl, fun isClean => by cases isClean⟩
  refine ⟨settled_loadFromDB sound loadable, ?_, ?_, kept.distinct, kept.left⟩
  · intro key state found entry member listed same
    obtain ⟨other, memberOther, listedOther, sameOther, derived, _⟩ := own found
    rw [sound.repListID_inj memberOther listedOther member (same.trans sameOther.symm) listed]
    exact derived
  · intro key state found
    obtain ⟨_, _, _, _, _, stored⟩ := own found
    exact stored

theorem Kept.next (kept : Kept store session) (sound : store.Sound) (action : SessionAction) :
    Kept store (session.next store action) := by
  cases action with
  | request action =>
    exact ⟨kept.settled.next sound action, kept.derived.next stable_flagsDerived action,
      kept.stored.next (stable_stored session.rows) action, kept.distinct, kept.left⟩
  | save => exact kept.save
  | load => exact kept.load sound

theorem Kept.restores_iff (kept : Kept store session) (sound : store.Sound) :
    session.Restores store ↔ session.IsRestorable store := by
  obtain ⟨written, distinct, left⟩ := kept.saveToDB
  have each (stored : List ReputationRow)
      (perm : stored.Perm (session.mgr.saveToDB session.rows).2) (entry : FactionEntry)
      (member : entry ∈ store.entries) (listed : 0 ≤ entry.reputationListID) (state : FactionState)
      (found : session.mgr.factions.find entry.repListID = some state) :
      (ReputationMgr.loadFromDB store stored).factions.find entry.repListID =
        some (loadedFaction store entry (rowOf state)) ∧
      (Restored state (loadedFaction store entry (rowOf state)) ↔ Restorable store entry state) := by
    have loadable := loadable_of_left sound (fun row memberRow => left row (perm.mem_iff.mp memberRow))
      ((perm.map ReputationRow.faction).nodup_iff.mpr distinct)
    obtain ⟨_, _, loaded⟩ := loadFromDB_spec sound loadable
    obtain ⟨known, _⟩ := kept.settled.tallied.entry sound member found
    have knownRow : store.lookupEntry ((rowOf state).faction % 2 ^ 16) = some entry := by
      rw [(rowOf_faction known).2]
      exact known
    constructor
    · exact loaded _ (perm.mem_iff.mpr (written _ state found)) entry knownRow listed
    · exact restored_iff (kept.derived _ state found entry member listed rfl)
        (int32_standing sound known (kept.settled.tallied.bounded _ state found))
  constructor
  · intro restores entry member listed state found
    obtain ⟨loaded, isLoaded, restored⟩ :=
      restores _ (List.Perm.refl _) entry member listed state found
    obtain ⟨isFaction, exact⟩ := each _ (List.Perm.refl _) entry member listed state found
    rw [isFaction] at isLoaded
    cases isLoaded
    exact exact.mp restored
  · intro restorable stored perm entry member listed state found
    obtain ⟨isFaction, exact⟩ := each stored perm entry member listed state found
    exact ⟨_, isFaction, exact.mpr (restorable entry member listed state found)⟩

end Sessions

/-- All along every run of requests, saves and loads, a save and a fresh load restore every faction
exactly when each of them is restorable. -/
theorem saveToDB_restores_iff (store : FactionStore) (sound : store.Sound)
    (actions : List SessionAction) :
    Always (Session.next store) (fun session => session.Restores store ↔ session.IsRestorable store)
      (Session.start store) actions := by
  have kept : ∀ session action, Kept store session → True →
      Kept store (session.next store action) := fun _ action kept _ => kept.next sound action
  exact (always_of_step kept (kept_start sound) (along_true _ actions)).imp
    fun _ kept => kept.restores_iff sound

/-- Whatever is earned, asked for, saved and loaded, a faction's flags are derived from those it
starts with, and the table has at most one row for it, with a standing within the bounds. -/
theorem flags_stay_derived (store : FactionStore) (sound : store.Sound)
    (actions : List SessionAction) :
    Always (Session.next store) (fun session => Everywhere (FlagsDerived store) session.mgr ∧
        (session.rows.map ReputationRow.faction).Nodup ∧ ∀ row ∈ session.rows, Left store row)
      (Session.start store) actions := by
  have kept : ∀ session action, Kept store session → True →
      Kept store (session.next store action) := fun _ action kept _ => kept.next sound action
  exact (always_of_step kept (kept_start sound) (along_true _ actions)).imp
    fun _ kept => ⟨kept.derived, kept.distinct, kept.left⟩

def peaceful : List SessionAction :=
  [.request (.setReputation 1 (-42000) false), .request (.setAtWar 0 false)]

/-- A load sends the faction to war again. -/
theorem saveToDB_forgets_peace : (plainStore [0]).Sound ∧
    ¬ Always (Session.next (plainStore [0])) (Session.Restores (plainStore [0]))
      (Session.start (plainStore [0])) peaceful := by
  refine ⟨plainStore_sound (List.nodup_singleton 0), fun always => ?_⟩
  have found : (peaceful.foldl (Session.next (plainStore [0]))
      (Session.start (plainStore [0]))).mgr.factions.find 0 = some ⟨1, 1, -42000, true⟩ := by
    decide +kernel
  obtain ⟨loaded, isLoaded, restored⟩ := always.last _ (List.Perm.refl _) (plainEntry 0)
    List.mem_cons_self (by decide) _ found
  have atWar : some loaded = some ⟨1, 3, -42000, true⟩ := by
    rw [← isLoaded]
    decide +kernel
  rw [Option.some.inj atWar] at restored
  exact absurd restored.atWar (by decide)

/-- The run is one of those that the condition speaks of. -/
theorem saveToDB_restores_iff_peaceful :
    Always (Session.next (plainStore [0]))
      (fun session => session.Restores (plainStore [0]) ↔ session.IsRestorable (plainStore [0]))
      (Session.start (plainStore [0])) peaceful :=
  saveToDB_restores_iff (plainStore [0]) (plainStore_sound (List.nodup_singleton 0)) peaceful

theorem flags_stay_derived_peaceful :
    Always (Session.next (plainStore [0])) (fun session =>
        Everywhere (FlagsDerived (plainStore [0])) session.mgr ∧
          (session.rows.map ReputationRow.faction).Nodup ∧
          ∀ row ∈ session.rows, Left (plainStore [0]) row)
      (Session.start (plainStore [0])) (peaceful ++ [.save, .load]) :=
  flags_stay_derived _ (plainStore_sound (List.nodup_singleton 0)) _

end DarkCore.Reputation
