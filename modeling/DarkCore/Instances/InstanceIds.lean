/-
Instance ids (`MapManager.cpp`, and `LoadResetTimes` of `InstanceSaveMgr.cpp`). A
bitmap holds which ids are in use; it is sized by the loaded ids at the start and
grows when an id beyond it is handed out. A cursor stands on the next id.
-/

import DarkCore.Lib.Runs
import Mathlib.Order.Bounds.Basic

namespace DarkCore.Instances

open DarkCore.Lib

/-- What a `vector<bool>` allocates when it grows, from its size and the new size -/
structure Allocator where
  reallocate : Nat → Nat → Nat
  enough : ∀ size newSize, newSize ≤ reallocate size newSize

/-- A `vector<bool>` -/
structure BoolVector where
  bits : List Bool
  capacity : Nat
  fits : bits.length ≤ capacity

namespace BoolVector

def empty : BoolVector := ⟨[], 0, le_rfl⟩

def size (vector : BoolVector) : Nat := vector.bits.length

def resize (allocator : Allocator) (vector : BoolVector) (newSize : Nat) : BoolVector where
  bits := vector.bits.take newSize ++ List.replicate (newSize - vector.size) false
  capacity :=
    if newSize ≤ vector.capacity then vector.capacity
    else allocator.reallocate vector.size newSize
  fits := by
    have within := vector.fits
    have enough := allocator.enough vector.size newSize
    rw [List.length_append, List.length_take, List.length_replicate]
    unfold size
    unfold size at enough
    split <;> omega

/-- A write through `operator[]`, `none` outside the size -/
def write (vector : BoolVector) (index : Nat) (bit : Bool) : Option BoolVector :=
  if index < vector.size then
    some ⟨vector.bits.set index bit, vector.capacity, by
      rw [List.length_set]
      exact vector.fits⟩
  else none

end BoolVector

/-- `_nextInstanceId` is a `uint32`. -/
structure MapManager where
  nextInstanceId : Nat
  instanceIds : BoolVector

/-- The size with which an id is meant to be covered, as a `uint32` -/
def sizeFor (instanceId : Nat) : Nat :=
  (instanceId / 32 * 32 + if 0 < instanceId % 32 then 32 else 0) % 2 ^ 32

namespace MapManager

/-- The ids of the table `instance`; the vector is empty when the server starts. -/
def initInstanceIds (allocator : Allocator) (ids : List Nat) : MapManager where
  nextInstanceId := 1
  instanceIds :=
    match ids.max? with
    | some maxId => BoolVector.empty.resize allocator (sizeFor maxId)
    | none => BoolVector.empty

def registerInstanceId (manager : MapManager) (instanceId : Nat) : Option MapManager := do
  let instanceIds ← manager.instanceIds.write instanceId true
  return { manager with instanceIds := instanceIds }

/-- The loop over the rows in `LoadResetTimes` -/
def loadResetTimes (manager : MapManager) : List Nat → Option MapManager
  | [] => some manager
  | instanceId :: rest => do
    let manager :=
      if manager.nextInstanceId = instanceId then
        { manager with nextInstanceId := (instanceId + 1) % 2 ^ 32 }
      else manager
    let manager ← manager.registerInstanceId instanceId
    manager.loadResetTimes rest

def load (allocator : Allocator) (ids : List Nat) : Option MapManager :=
  (initInstanceIds allocator ids).loadResetTimes ids

/-- The loop of `GenerateInstanceId` from `i` on; the fuel is one more than the size, at which the
loop ends at the latest. -/
def findFree (bits : List Bool) : Nat → Nat → Option Nat
  | 0, _ => none
  | fuel + 1, i =>
    if i < 0xFFFFFFFF then
      if i < bits.length ∧ bits[i]? = some false ∨ bits.length ≤ i then some i
      else findFree bits fuel (i + 1)
    else none

def allocateSpace (allocator : Allocator) (vector : BoolVector) (newInstanceId : Nat) :
    BoolVector :=
  if vector.size % 2 ^ 32 ≤ newInstanceId then
    if vector.size < vector.capacity then vector.resize allocator vector.capacity
    else vector.resize allocator (sizeFor newInstanceId)
  else vector

/-- The overflow check in between compares the new id with the one after it; it only sets the flag
that stops the server. -/
def generateInstanceId (allocator : Allocator) (manager : MapManager) :
    Option (Nat × MapManager) := do
  let newInstanceId := manager.nextInstanceId
  let i := (newInstanceId + 1) % 2 ^ 32
  let bits := manager.instanceIds.bits
  let nextInstanceId := (findFree bits (bits.length + 1) i).getD i
  let instanceIds ← (allocateSpace allocator manager.instanceIds newInstanceId).write
    newInstanceId true
  return (newInstanceId, ⟨nextInstanceId, instanceIds⟩)

def freeInstanceId (manager : MapManager) (instanceId : Nat) : Option MapManager := do
  let nextInstanceId :=
    if instanceId < manager.nextInstanceId then instanceId else manager.nextInstanceId
  let instanceIds ← manager.instanceIds.write instanceId false
  return ⟨nextInstanceId, instanceIds⟩

end MapManager

inductive IdAction
  | generate
  | free (instanceId : Nat)

structure IdState where
  manager : MapManager
  inUse : List Nat

/-- A step that goes outside the bitmap leaves nothing to go on with. -/
def IdState.next (allocator : Allocator) (state : IdState) : IdAction → IdState
  | .generate =>
    match state.manager.generateInstanceId allocator with
    | some (instanceId, manager) => ⟨manager, instanceId :: state.inUse⟩
    | none => state
  | .free instanceId =>
    match state.manager.freeInstanceId instanceId with
    | some manager => ⟨manager, state.inUse.filter (· ≠ instanceId)⟩
    | none => state

def Served (allocator : Allocator) (state : IdState) : IdAction → Prop
  | .generate => ∃ instanceId manager,
      state.manager.generateInstanceId allocator = some (instanceId, manager) ∧
        IsLeast {id | 1 ≤ id ∧ id ∉ state.inUse} instanceId
  | .free instanceId => (state.manager.freeInstanceId instanceId).isSome = true

structure Tracks (manager : MapManager) (inUse : List Nat) : Prop where
  bits : ∀ id, manager.instanceIds.bits[id]? = some true ↔ id ∈ inUse
  next : IsLeast {id | 1 ≤ id ∧ id ∉ inUse} manager.nextInstanceId

section Steps

variable {allocator : Allocator} {manager : MapManager} {inUse : List Nat} {vector : BoolVector}

@[simp] theorem BoolVector.resize_size (newSize : Nat) :
    (vector.resize allocator newSize).size = newSize := by
  simp only [resize, size, List.length_append, List.length_take, List.length_replicate]
  omega

theorem BoolVector.resize_bits {newSize : Nat} (grows : vector.size ≤ newSize) (id : Nat) :
    (vector.resize allocator newSize).bits[id]? = some true ↔ vector.bits[id]? = some true := by
  simp only [resize, List.take_of_length_le grows, List.getElem?_append]
  split
  · rfl
  · grind

theorem BoolVector.write_bits {index : Nat} {bit : Bool} {after : BoolVector}
    (written : vector.write index bit = some after) (id : Nat) :
    after.bits[id]? = some true ↔
      if id = index then bit = true else vector.bits[id]? = some true := by
  unfold BoolVector.write at written
  split at written
  · rename_i within
    cases written
    rw [List.getElem?_set]
    by_cases here : id = index
    · subst here
      rw [if_pos rfl, if_pos rfl, if_pos (show id < vector.bits.length from within),
        Option.some.injEq]
    · rw [if_neg (Ne.symm here), if_neg here]
  · cases written

theorem BoolVector.write_size {index : Nat} {bit : Bool} {after : BoolVector}
    (written : vector.write index bit = some after) : after.size = vector.size := by
  unfold BoolVector.write at written
  split at written
  · cases written
    exact List.length_set
  · cases written

theorem BoolVector.write_isSome {index : Nat} (bit : Bool) :
    (vector.write index bit).isSome = true ↔ index < vector.size := by
  unfold BoolVector.write
  split <;> simp_all

theorem MapManager.findFree_spec (bits : List Bool) (fuel i : Nat) (positive : 0 < fuel)
    (enough : bits.length < fuel + i) (small : bits.length < 0xFFFFFFFF)
    (start : i < 0xFFFFFFFF) :
    ∃ free, findFree bits fuel i = some free ∧ i ≤ free ∧ bits[free]? ≠ some true ∧
      ∀ id, i ≤ id → id < free → bits[id]? = some true := by
  induction fuel generalizing i with
  | zero => cases positive
  | succ fuel ih =>
    unfold findFree
    rw [if_pos start]
    split
    · rename_i stops
      refine ⟨i, rfl, le_rfl, ?_, fun id above below => by omega⟩
      rcases stops with ⟨_, unused⟩ | beyond
      · simp [unused]
      · simp [List.getElem?_eq_none beyond]
    · rename_i goesOn
      rw [not_or, not_and, Nat.not_le] at goesOn
      have used : bits[i]? = some true := by
        have unused := goesOn.1 goesOn.2
        rw [List.getElem?_eq_getElem goesOn.2, Option.some.injEq] at unused ⊢
        exact Bool.eq_true_of_not_eq_false unused
      obtain ⟨free, found, above, isFree, between⟩ :=
        ih (i + 1) (by omega) (by omega) (by omega)
      refine ⟨free, found, by omega, isFree, fun id atLeast below => ?_⟩
      rcases Nat.eq_or_lt_of_le atLeast with here | later
      · exact here ▸ used
      · exact between id later below

theorem Tracks.mem_lt (tracks : Tracks manager inUse) {id : Nat} (used : id ∈ inUse) :
    id < manager.instanceIds.size := by
  have isSet := (tracks.bits id).mpr used
  by_contra beyond
  rw [List.getElem?_eq_none (Nat.not_lt.mp beyond)] at isSet
  cases isSet

theorem Tracks.next_le (tracks : Tracks manager inUse) :
    manager.nextInstanceId ≤ max 1 manager.instanceIds.size := by
  apply tracks.next.2
  refine ⟨Nat.le_max_left _ _, fun used => ?_⟩
  have within := tracks.mem_lt used
  omega

/-- There is space for the next id: it lies within what is allocated, or everything allocated is
used and it is not the first id of a new block of 32. -/
def Room (manager : MapManager) : Prop :=
  manager.instanceIds.size < 0xFFFFFFE0 ∧
    (manager.nextInstanceId < manager.instanceIds.capacity ∨
      manager.instanceIds.size = manager.instanceIds.capacity ∧ manager.nextInstanceId % 32 ≠ 0)

theorem lt_sizeFor {id : Nat} (small : id < 0xFFFFFFE0) :
    id < sizeFor id ↔ id % 32 ≠ 0 := by
  unfold sizeFor
  split <;> omega

theorem Room.allocateSpace (allocator : Allocator) (room : Room manager)
    (tracks : Tracks manager inUse) :
    manager.nextInstanceId <
        (MapManager.allocateSpace allocator manager.instanceIds manager.nextInstanceId).size ∧
      ∀ id : Nat, (MapManager.allocateSpace allocator manager.instanceIds
          manager.nextInstanceId).bits[id]? = some true ↔
        manager.instanceIds.bits[id]? = some true := by
  obtain ⟨small, room⟩ := room
  have near := tracks.next_le
  have uint32 : manager.instanceIds.size % 2 ^ 32 = manager.instanceIds.size :=
    Nat.mod_eq_of_lt (by omega)
  unfold MapManager.allocateSpace
  rw [uint32]
  split
  · rename_i full
    split
    · rename_i reserve
      rw [BoolVector.resize_size]
      constructor
      · omega
      · exact BoolVector.resize_bits reserve.le
    · rename_i noReserve
      have block := room.resolve_left (by omega)
      have covered := (lt_sizeFor (by omega)).mpr block.2
      rw [BoolVector.resize_size]
      exact ⟨covered, BoolVector.resize_bits (full.trans covered.le)⟩
  · simp_all

theorem Tracks.generate (allocator : Allocator) (tracks : Tracks manager inUse)
    (room : Room manager) :
    ∃ after, manager.generateInstanceId allocator = some (manager.nextInstanceId, after) ∧
      Tracks after (manager.nextInstanceId :: inUse) := by
  obtain ⟨within, sameBits⟩ := Room.allocateSpace allocator room tracks
  have small := room.1
  have near := tracks.next_le
  have noWrap : (manager.nextInstanceId + 1) % 2 ^ 32 = manager.nextInstanceId + 1 :=
    Nat.mod_eq_of_lt (by omega)
  obtain ⟨written, isWritten⟩ := Option.isSome_iff_exists.mp
    ((BoolVector.write_isSome true).mpr within)
  have bits : manager.instanceIds.bits.length = manager.instanceIds.size := rfl
  obtain ⟨free, found, above, isFree, between⟩ :=
    MapManager.findFree_spec manager.instanceIds.bits (manager.instanceIds.bits.length + 1)
      (manager.nextInstanceId + 1) (Nat.succ_pos _) (by omega) (by omega) (by omega)
  refine ⟨⟨free, written⟩, ?_, ?_, ⟨?_, ?_⟩, ?_⟩
  · unfold MapManager.generateInstanceId
    dsimp only
    rw [isWritten, noWrap, found]
    rfl
  · intro id
    rw [BoolVector.write_bits isWritten, sameBits, tracks.bits, List.mem_cons]
    by_cases here : id = manager.nextInstanceId <;> simp [here]
  · exact (Nat.le_add_left 1 _).trans above
  · rw [List.mem_cons, not_or]
    exact ⟨by dsimp only; omega, fun used => isFree ((tracks.bits free).mpr used)⟩
  · intro id other
    obtain ⟨positive, unused⟩ := other
    rw [List.mem_cons, not_or] at unused
    by_contra below
    have atLeast := tracks.next.2 ⟨positive, unused.2⟩
    have different := unused.1
    have used := between id (by omega) (Nat.not_le.mp below)
    exact unused.2 ((tracks.bits id).mp used)

theorem Tracks.free (tracks : Tracks manager inUse) {id : Nat} (used : id ∈ inUse)
    (positive : 1 ≤ id) :
    ∃ after, manager.freeInstanceId id = some after ∧
      Tracks after (inUse.filter (· ≠ id)) := by
  obtain ⟨written, isWritten⟩ := Option.isSome_iff_exists.mp
    ((BoolVector.write_isSome false).mpr (tracks.mem_lt used))
  refine ⟨⟨if id < manager.nextInstanceId then id else manager.nextInstanceId, written⟩, ?_, ?_,
    ⟨?_, ?_⟩, ?_⟩
  · simp [MapManager.freeInstanceId, isWritten]
  · intro other
    rw [BoolVector.write_bits isWritten, tracks.bits, List.mem_filter, decide_eq_true_iff]
    by_cases here : other = id <;> simp [here]
  · dsimp only
    have start := tracks.next.1.1
    split
    · exact positive
    · exact start
  · dsimp only
    rw [List.mem_filter, decide_eq_true_iff]
    split
    · exact fun both => both.2 rfl
    · exact fun both => tracks.next.1.2 both.1
  · rintro other ⟨atLeast, unused⟩
    rw [List.mem_filter, decide_eq_true_iff, not_and] at unused
    dsimp only
    by_cases here : other = id
    · split <;> omega
    · have least := tracks.next.2 ⟨atLeast, fun listed => unused listed here⟩
      split <;> omega

end Steps

section Loading

variable {allocator : Allocator} {manager : MapManager} {inUse ids : List Nat}

theorem Tracks.loadResetTimes (tracks : Tracks manager inUse)
    (sorted : (inUse ++ ids).Pairwise (· < ·))
    (covered : ∀ id ∈ ids, id < manager.instanceIds.size)
    (small : manager.instanceIds.size < 2 ^ 32) :
    ∃ loaded, manager.loadResetTimes ids = some loaded ∧ Tracks loaded (inUse ++ ids) := by
  induction ids generalizing manager inUse with
  | nil => exact ⟨manager, rfl, (List.append_nil inUse).symm ▸ tracks⟩
  | cons id rest ih =>
    have within := covered id List.mem_cons_self
    obtain ⟨written, isWritten⟩ := Option.isSome_iff_exists.mp
      ((BoolVector.write_isSome true).mpr within)
    have noWrap : (id + 1) % 2 ^ 32 = id + 1 := Nat.mod_eq_of_lt (by omega)
    have new : id ∉ inUse := by
      grind
    have registered : Tracks ⟨if manager.nextInstanceId = id then id + 1
        else manager.nextInstanceId, written⟩ (inUse ++ [id]) := by
      refine ⟨?_, ⟨?_, ?_⟩, ?_⟩
      · intro other
        rw [BoolVector.write_bits isWritten, tracks.bits, List.mem_append, List.mem_singleton]
        by_cases here : other = id <;> simp [here]
      · have start := tracks.next.1.1
        dsimp only
        split <;> omega
      · dsimp only
        rw [List.mem_append, List.mem_singleton, not_or]
        split
        · refine ⟨fun early => ?_, by omega⟩
          have less := (List.pairwise_append.mp sorted).2.2 _ early id List.mem_cons_self
          omega
        · rename_i elsewhere
          exact ⟨tracks.next.1.2, elsewhere⟩
      · rintro other ⟨positive, unused⟩
        rw [List.mem_append, List.mem_singleton, not_or] at unused
        have least := tracks.next.2 ⟨positive, unused.1⟩
        have different := unused.2
        dsimp only
        split <;> omega
    rw [List.append_cons] at sorted ⊢
    have sameSize := BoolVector.write_size isWritten
    obtain ⟨loaded, isLoaded, tracksLoaded⟩ := ih registered sorted
      (fun other member => sameSize.symm ▸ covered other (List.mem_cons_of_mem id member))
      (sameSize.symm ▸ small)
    refine ⟨loaded, ?_, tracksLoaded⟩
    rw [← isLoaded, MapManager.loadResetTimes]
    by_cases here : manager.nextInstanceId = id
    · grind [MapManager.registerInstanceId]
    · simp_all [MapManager.registerInstanceId]

theorem lt_of_loadResetTimes {loaded : MapManager}
    (isLoaded : manager.loadResetTimes ids = some loaded) :
    ∀ id ∈ ids, id < manager.instanceIds.size := by
  induction ids generalizing manager with
  | nil => exact List.forall_mem_nil _
  | cons id rest ih =>
    simp only [MapManager.loadResetTimes, MapManager.registerInstanceId, Option.bind_eq_bind,
      Option.bind_eq_some_iff, Option.pure_def, Option.some.injEq] at isLoaded
    obtain ⟨_, ⟨written, isWritten, rfl⟩, isLoaded⟩ := isLoaded
    have sameIds : (if manager.nextInstanceId = id then
        { manager with nextInstanceId := (id + 1) % 2 ^ 32 } else manager).instanceIds =
        manager.instanceIds := by
      split <;> rfl
    rw [sameIds] at isWritten
    rw [List.forall_mem_cons]
    constructor
    · exact (BoolVector.write_isSome true).mp (isWritten ▸ rfl)
    · have later := ih isLoaded
      rwa [BoolVector.write_size isWritten] at later

/-- The largest loaded id is not the first of a block of 32, and the size for it is a `uint32`. -/
def Covered (ids : List Nat) : Prop :=
  ∀ maxId, ids.max? = some maxId → maxId % 32 ≠ 0 ∧ maxId < 0xFFFFFFE0

theorem tracks_init (allocator : Allocator) (ids : List Nat) :
    Tracks (MapManager.initInstanceIds allocator ids) [] := by
  constructor
  · intro id
    rw [iff_false_right List.not_mem_nil]
    unfold MapManager.initInstanceIds
    split
    · rw [BoolVector.resize_bits (Nat.zero_le _)]
      simp [BoolVector.empty]
    · simp [BoolVector.empty]
  · exact ⟨⟨le_rfl, List.not_mem_nil⟩, fun id other => other.1⟩

theorem initInstanceIds_size {maxId : Nat} (isMax : ids.max? = some maxId) :
    (MapManager.initInstanceIds allocator ids).instanceIds.size = sizeFor maxId := by
  simp [MapManager.initInstanceIds, isMax]

theorem load_covered (sorted : ids.Pairwise (· < ·)) (covered : Covered ids) :
    ∃ loaded, MapManager.load allocator ids = some loaded ∧ Tracks loaded ids := by
  apply (tracks_init allocator ids).loadResetTimes sorted
  · intro id member
    obtain ⟨maxId, isMax⟩ :=
      Option.isSome_iff_exists.mp (List.isSome_max?_of_mem member)
    have block := covered maxId isMax
    rw [initInstanceIds_size isMax]
    exact Nat.lt_of_le_of_lt ((List.max?_eq_some_iff.mp isMax).2 id member)
      ((lt_sizeFor block.2).mpr block.1)
  · unfold MapManager.initInstanceIds
    split
    · rw [BoolVector.resize_size]
      exact Nat.mod_lt _ (by decide)
    · decide

theorem covered_of_load {loaded : MapManager} (uint32 : ∀ id ∈ ids, id < 2 ^ 32)
    (isLoaded : MapManager.load allocator ids = some loaded) : Covered ids := by
  intro maxId isMax
  have member := (List.max?_eq_some_iff.mp isMax).1
  have within := lt_of_loadResetTimes isLoaded maxId member
  have small := uint32 maxId member
  rw [initInstanceIds_size isMax, sizeFor] at within
  split at within <;> omega

end Loading

/-- The vector has not come near the end of a `uint32`, and only ids in use are freed, never 0. -/
def Admitted (state : IdState) : IdAction → Prop
  | .generate => state.manager.instanceIds.size < 0xFFFFFFE0
  | .free instanceId => instanceId ∈ state.inUse ∧ 1 ≤ instanceId

def Roomy (state : IdState) : IdAction → Prop
  | .generate => Room state.manager
  | .free _ => True

section Steps

variable {allocator : Allocator} {state : IdState} {action : IdAction}

theorem room_of_generate {manager after : MapManager} {inUse : List Nat} {id : Nat}
    (tracks : Tracks manager inUse) (small : manager.instanceIds.size < 0xFFFFFFE0)
    (generated : manager.generateInstanceId allocator = some (id, after)) : Room manager := by
  refine ⟨small, ?_⟩
  by_contra full
  rw [not_or, not_and, Nat.not_lt, not_not] at full
  simp only [MapManager.generateInstanceId, Option.bind_eq_bind, Option.bind_eq_some_iff] at generated
  obtain ⟨written, isWritten, _⟩ := generated
  have within := (BoolVector.write_isSome true).mp (Option.isSome_iff_exists.mpr ⟨_, isWritten⟩)
  have fits : manager.instanceIds.size ≤ manager.instanceIds.capacity := manager.instanceIds.fits
  have near := tracks.next_le
  have uint32 : manager.instanceIds.size % 2 ^ 32 = manager.instanceIds.size :=
    Nat.mod_eq_of_lt (by omega)
  unfold MapManager.allocateSpace at within
  rw [uint32, if_pos (fits.trans full.1)] at within
  split at within
  · grind [BoolVector.resize_size]
  · rename_i exhausted
    have block := full.2 (by omega)
    rw [BoolVector.resize_size, lt_sizeFor (by omega)] at within
    exact within block

theorem served_iff (tracks : Tracks state.manager state.inUse) (admitted : Admitted state action) :
    Served allocator state action ↔ Roomy state action := by
  cases action with
  | generate =>
    constructor
    · rintro ⟨id, after, generated, _⟩
      exact room_of_generate tracks admitted generated
    · intro room
      obtain ⟨after, generated, _⟩ := tracks.generate allocator room
      exact ⟨_, after, generated, tracks.next⟩
  | free id =>
    obtain ⟨after, freed, _⟩ := tracks.free admitted.1 admitted.2
    exact iff_of_true (Option.isSome_iff_exists.mpr ⟨after, freed⟩) trivial

theorem Tracks.step (tracks : Tracks state.manager state.inUse) (admitted : Admitted state action)
    (room : Roomy state action) :
    Tracks (state.next allocator action).manager (state.next allocator action).inUse := by
  cases action with
  | generate =>
    obtain ⟨after, generated, tracksAfter⟩ := tracks.generate allocator room
    simpa only [IdState.next, generated] using tracksAfter
  | free id =>
    obtain ⟨after, freed, tracksAfter⟩ := tracks.free admitted.1 admitted.2
    simpa only [IdState.next, freed] using tracksAfter

end Steps

/-- Loading stays within the bitmap exactly when the largest id is covered by it, and from then on
the smallest free id is handed out within the bitmap exactly as long as there is space for it. -/
theorem instanceIds_served_iff (allocator : Allocator) (ids : List Nat)
    (sorted : ids.Pairwise (· < ·)) (uint32 : ∀ id ∈ ids, id < 2 ^ 32) :
    ((MapManager.load allocator ids).isSome = true ↔ Covered ids) ∧
    ∀ loaded, MapManager.load allocator ids = some loaded → ∀ actions,
      Along (IdState.next allocator) Admitted ⟨loaded, ids⟩ actions →
      (Along (IdState.next allocator) (Served allocator) ⟨loaded, ids⟩ actions ↔
        Along (IdState.next allocator) Roomy ⟨loaded, ids⟩ actions) := by
  constructor
  · constructor
    · intro isSome
      obtain ⟨loaded, isLoaded⟩ := Option.isSome_iff_exists.mp isSome
      exact covered_of_load uint32 isLoaded
    · intro covered
      obtain ⟨loaded, isLoaded, _⟩ := load_covered sorted covered
      exact Option.isSome_iff_exists.mpr ⟨loaded, isLoaded⟩
  · intro loaded isLoaded actions admitted
    obtain ⟨other, isOther, tracks⟩ :=
      load_covered sorted (covered_of_load uint32 isLoaded)
    rw [isLoaded] at isOther
    cases isOther
    have start : (fun state : IdState => Tracks state.manager state.inUse) ⟨loaded, ids⟩ := tracks
    exact along_iff_along (fun _ _ => served_iff) (fun _ _ => Tracks.step) start admitted

def wordAllocator : Allocator where
  reallocate size newSize := (size + max size (newSize - size) + 63) / 64 * 64
  enough size newSize := by omega

/-- The id 32 cannot be registered, and without any ids at the start the 64th id is written behind
the bitmap. -/
theorem instanceIds_outside_bitmap :
    (MapManager.load wordAllocator [32]).isNone = true ∧
    ((MapManager.load wordAllocator []).any fun manager =>
      (((List.replicate 63 IdAction.generate).foldl (IdState.next wordAllocator)
        ⟨manager, []⟩).manager.generateInstanceId wordAllocator).isNone) = true := by
  decide +kernel

/-- After the ids 1, 2 and 5 come 3 and, when 1 has been freed, 1. -/
theorem instanceIds_served_iff_three :
    ((MapManager.load wordAllocator [1, 2, 5]).isSome = true ↔ Covered [1, 2, 5]) ∧
    ∀ loaded, MapManager.load wordAllocator [1, 2, 5] = some loaded →
      Along (IdState.next wordAllocator) Admitted ⟨loaded, [1, 2, 5]⟩
        [.generate, .free 1, .generate] →
      (Along (IdState.next wordAllocator) (Served wordAllocator) ⟨loaded, [1, 2, 5]⟩
          [.generate, .free 1, .generate] ↔
        Along (IdState.next wordAllocator) Roomy ⟨loaded, [1, 2, 5]⟩
          [.generate, .free 1, .generate]) := by
  have served := instanceIds_served_iff wordAllocator [1, 2, 5] (by decide) (by decide)
  exact ⟨served.1, fun loaded isLoaded => served.2 loaded isLoaded _⟩

end DarkCore.Instances
