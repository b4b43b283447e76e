/-
Carrying a plan out (`Player::StoreItem`, `Player::_StoreItem`), and what a
search with its store does to the amounts that the player holds.
-/

import DarkCore.Player.StorePlan

namespace DarkCore.Player

open Items Lib

/-! ### Storing -/

def bindWhenPickedUp : Nat := 1
def bindWhenEquiped : Nat := 2
def bindQuestItem : Nat := 4

def Item.bindAt (store : ItemStore) (position : Position) (item : Item) : Item :=
  let bonding := (item.proto store).bonding
  if bonding = bindWhenPickedUp ∨ bonding = bindQuestItem ∨
      (bonding = bindWhenEquiped ∧ isBagPos position = true) then
    { item with soulBound := true }
  else item

/-- `Item::CloneItem`: nothing is created at count zero, and never more than one stack. The copy
has the flags of the original, but neither its gems nor its place in a trade. -/
def Inventory.cloneItem (store : ItemStore) (inventory : Inventory) (item : Item)
    (count : Nat) : Option (Item × Inventory) :=
  if count < 1 then none
  else some
    ({ guid := inventory.nextGuid, entry := item.entry,
       count := min count (store.maxStack item.entry), soulBound := item.soulBound,
       shared := item.shared }, { inventory with nextGuid := inventory.nextGuid + 1 })

def Inventory.put (inventory : Inventory) (place : Place) (content : Option Item) : Inventory :=
  { inventory with slots := Function.update inventory.slots place content }

def Inventory.placeItem (inventory : Inventory) (position : Position) (item : Item) :
    Inventory :=
  let item := { item with owned := true }
  if position.1 = inventorySlotBag0 then inventory.put (.main position.2) (some item)
  else
    match inventory.getMain position.1 with
    | some bag =>
      if item.guid ≠ bag.guid then inventory.put (.inBag bag.guid position.2) (some item)
      else inventory
    | none => inventory

/-- Where `GetItemByPos` found an item. -/
def Inventory.placeOf (inventory : Inventory) (position : Position) : Place :=
  (inventory.locate position).getD (.main position.2)

/-- `Player::_StoreItem` -/
def storeItemAt (store : ItemStore) (item : Item) (inventory : Inventory) (position : Position)
    (count : Nat) (clone : Bool) : Inventory :=
  match inventory.getItemByPos store position with
  | some item2 =>
    let bound := item2.bindAt store position
    inventory.put (inventory.placeOf position) (some { bound with count := bound.count + count })
  | none =>
    if clone then
      match inventory.cloneItem store item count with
      | some (copy, inventory) => inventory.placeItem position (copy.bindAt store position)
      | none => inventory
    else
      let whole := { item with count := count }
      inventory.placeItem position (whole.bindAt store position)

def storeItem (store : ItemStore) (inventory : Inventory) (dest : List (Position × Nat))
    (item : Item) : Inventory :=
  deliver (storeItemAt store item) inventory dest

section

variable (store : ItemStore) (position : Position) (item : Item)
include store position item

@[simp] theorem Item.bindAt_guid :
    (item.bindAt store position).guid = item.guid := by
  unfold Item.bindAt
  dsimp only
  split <;> rfl

@[simp] theorem Item.bindAt_entry :
    (item.bindAt store position).entry = item.entry := by
  unfold Item.bindAt
  dsimp only
  split <;> rfl

@[simp] theorem Item.bindAt_count :
    (item.bindAt store position).count = item.count := by
  unfold Item.bindAt
  dsimp only
  split <;> rfl

end

/-! ### Positions -/

/-- A position whose slot `GetItemByPos` reads and `_StoreItem` writes. -/
def Inventory.Holds (store : ItemStore) (inventory : Inventory) (position : Position) : Prop :=
  (position.1 = inventorySlotBag0 ∧ MainSlot position.2) ∨
    (BagSlot position.1 ∧ ∃ bag, inventory.slots (.main position.1) = some bag ∧
      position.2 < bag.getBagSize store)

section Positions

variable {store : ItemStore} {inventory : Inventory} {position : Position}

theorem bagSlot_ne_bag0 {slot : Nat} (bagSlot : BagSlot slot) : slot ≠ inventorySlotBag0 := by
  intro same
  rw [same] at bagSlot
  exact absurd bagSlot (by decide)

theorem Inventory.placeOf_main (slot : Nat) :
    inventory.placeOf (inventorySlotBag0, slot) = .main slot := by
  unfold Inventory.placeOf Inventory.locate
  rw [if_pos rfl]
  rfl

theorem Inventory.placeOf_bag {bag : Item} (bagSlot : BagSlot position.1)
    (present : inventory.slots (.main position.1) = some bag) :
    inventory.placeOf position = .inBag bag.guid position.2 := by
  unfold Inventory.placeOf Inventory.locate
  rw [if_neg (bagSlot_ne_bag0 bagSlot), Inventory.getMain_of_bagSlot bagSlot, present]
  rfl

theorem Inventory.getItemByPos_holds (holds : inventory.Holds store position) :
    inventory.getItemByPos store position = inventory.slots (inventory.placeOf position) := by
  unfold Inventory.getItemByPos
  rcases holds with main | ⟨bagSlot, bag, present, inside⟩
  · rw [if_pos main]
    obtain ⟨bag, slot⟩ := position
    obtain ⟨rfl, _⟩ := main
    rw [Inventory.placeOf_main]
  · rw [if_neg (fun main => bagSlot_ne_bag0 bagSlot main.1), if_pos bagSlot, present]
    dsimp only
    rw [if_pos inside, Inventory.placeOf_bag bagSlot present]

theorem Inventory.Holds.keeps {after : Inventory}
    (keeps : ∀ place, Keeps (stacking store) inventory.slots after.slots place)
    (holds : inventory.Holds store position) :
    after.Holds store position ∧ after.placeOf position = inventory.placeOf position := by
  rcases holds with main | ⟨bagSlot, bag, present, inside⟩
  · refine ⟨Or.inl main, ?_⟩
    obtain ⟨bag, slot⟩ := position
    obtain ⟨rfl, _⟩ := main
    rw [Inventory.placeOf_main, Inventory.placeOf_main]
  · obtain ⟨still, atSlot, guid, entry, _⟩ := keeps (.main position.1) bag present
    have sameSize : still.getBagSize store = bag.getBagSize store := by
      unfold Item.getBagSize Item.proto
      rw [show still.entry = bag.entry from entry]
    refine ⟨Or.inr ⟨bagSlot, still, atSlot, sameSize.symm ▸ inside⟩, ?_⟩
    rw [Inventory.placeOf_bag bagSlot atSlot, Inventory.placeOf_bag bagSlot present,
      show still.guid = bag.guid from guid]

theorem Inventory.placeOf_injective
    (coherent : Coherent (stacking store) inventory.slots inventory.nextGuid) {other : Position}
    (holds : inventory.Holds store position) (otherHolds : inventory.Holds store other)
    (same : inventory.placeOf position = inventory.placeOf other) : position = other := by
  rcases holds with main | ⟨bagSlot, bag, present, inside⟩
  · obtain ⟨bag, slot⟩ := position
    obtain ⟨rfl, _⟩ := main
    rw [Inventory.placeOf_main] at same
    rcases otherHolds with otherMain | ⟨otherSlot, otherBag, otherPresent, _⟩
    · obtain ⟨bag, otherSlot⟩ := other
      obtain ⟨rfl, _⟩ := otherMain
      rw [Inventory.placeOf_main] at same
      cases same
      rfl
    · rw [Inventory.placeOf_bag otherSlot otherPresent] at same
      cases same
  · rw [Inventory.placeOf_bag bagSlot present] at same
    rcases otherHolds with otherMain | ⟨otherSlot, otherBag, otherPresent, _⟩
    · obtain ⟨bag, otherSlot⟩ := other
      obtain ⟨rfl, _⟩ := otherMain
      rw [Inventory.placeOf_main] at same
      cases same
    · rw [Inventory.placeOf_bag otherSlot otherPresent] at same
      injection same with sameGuid sameSlot
      have sameBag := coherent.distinct (.main position.1) (.main other.1) bag otherBag present
        otherPresent sameGuid
      injection sameBag with sameBagSlot
      exact Prod.ext sameBagSlot sameSlot

theorem Inventory.placeItem_slots (item : Item) (holds : inventory.Holds store position)
    (other : ∀ place resident, inventory.slots place = some resident → resident.guid ≠ item.guid) :
    (inventory.placeItem position item).slots =
        Function.update inventory.slots (inventory.placeOf position)
          (some { item with owned := true }) ∧
      (inventory.placeItem position item).nextGuid = inventory.nextGuid := by
  unfold Inventory.placeItem
  rcases holds with main | ⟨bagSlot, bag, present, inside⟩
  · rw [if_pos main.1]
    obtain ⟨bag, slot⟩ := position
    obtain ⟨rfl, _⟩ := main
    rw [Inventory.placeOf_main]
    exact ⟨rfl, rfl⟩
  · rw [if_neg (bagSlot_ne_bag0 bagSlot), Inventory.getMain_of_bagSlot bagSlot, present]
    dsimp only
    rw [if_pos (other _ bag present).symm, Inventory.placeOf_bag bagSlot present]
    exact ⟨rfl, rfl⟩

theorem storeItemAt_put {item : Item} {count : Nat} {clone : Bool}
    (coherent : Coherent (stacking store) inventory.slots inventory.nextGuid)
    (absent : Absent (stacking store) inventory.slots item)
    (holds : inventory.Holds store position)
    (takes : (stacking store).Accepts item.entry (inventory.slots (inventory.placeOf position))
      count)
    (positive : clone = true → 0 < count) :
    let after := storeItemAt store item inventory position count clone
    ∃ stored, Put (stacking store) item (inventory.placeOf position) count clone
      inventory.slots after.slots inventory.nextGuid after.nextGuid stored := by
  intro after
  have found := Inventory.getItemByPos_holds holds
  cases content : inventory.slots (inventory.placeOf position) with
  | some item2 =>
    rw [content] at takes found
    have unfolded : after = inventory.put (inventory.placeOf position)
        (some { item2.bindAt store position with
          count := (item2.bindAt store position).count + count }) := by
      grind [storeItemAt]
    rw [unfolded]
    refine ⟨{ item2.bindAt store position with
      count := (item2.bindAt store position).count + count }, ?_⟩
    constructor
    · rfl
    · exact (Item.bindAt_entry store position item2).trans takes.1
    · rw [content]
      exact congrArg (· + count) (Item.bindAt_count store position item2)
    · exact Nat.le_refl _
    · exact Or.inl ⟨item2, content, Item.bindAt_guid store position item2⟩
  | none =>
    rw [content] at takes found
    cases clone with
    | true =>
      have some_left : ¬ count < 1 := Nat.not_lt.mpr (positive rfl)
      have whole : min count (store.maxStack item.entry) = count := Nat.min_eq_left takes
      let next : Inventory := { inventory with nextGuid := inventory.nextGuid + 1 }
      let copy : Item :=
        { guid := inventory.nextGuid, entry := item.entry, count := count,
          soulBound := item.soulBound, shared := item.shared }
      have unfolded : after = next.placeItem position (copy.bindAt store position) := by
        grind [storeItemAt, Inventory.cloneItem]
      have nextHolds : next.Holds store position := holds
      have placed := Inventory.placeItem_slots (copy.bindAt store position) nextHolds
        (by
          intro place resident present
          rw [Item.bindAt_guid]
          exact Nat.ne_of_lt (coherent.fresh place resident present))
      rw [unfolded]
      refine ⟨{ copy.bindAt store position with owned := true }, ?_⟩
      constructor
      · exact placed.1
      · exact Item.bindAt_entry store position copy
      · rw [content]
        exact (Item.bindAt_count store position copy).trans (Nat.zero_add count).symm
      · grind
      · refine Or.inr (Or.inl ⟨content, rfl, Item.bindAt_guid store position copy, ?_⟩)
        rw [placed.2]
        exact Nat.lt_succ_self _
    | false =>
      let whole : Item := { item with count := count }
      have unfolded : after = inventory.placeItem position (whole.bindAt store position) := by
        grind [storeItemAt]
      have placed := Inventory.placeItem_slots (whole.bindAt store position) holds
        (by
          intro place resident present
          rw [Item.bindAt_guid]
          exact absent place resident present)
      rw [unfolded]
      refine ⟨{ whole.bindAt store position with owned := true }, ?_⟩
      constructor
      · exact placed.1
      · exact Item.bindAt_entry store position whole
      · rw [content]
        exact (Item.bindAt_count store position whole).trans (Nat.zero_add count).symm
      · exact Nat.le_of_eq placed.2.symm
      · exact Or.inr (Or.inr ⟨content, rfl, Item.bindAt_guid store position whole⟩)

end Positions

/-! ### A planned store -/

/-- `dest` can be carried out: its positions are distinct and each takes its amount. -/
structure Storable (store : ItemStore) (inventory : Inventory) (entry : Nat)
    (dest : List (Position × Nat)) : Prop where
  distinct : (dest.map Prod.fst).Nodup
  holds : ∀ position amount, (position, amount) ∈ dest → inventory.Holds store position
  takes : ∀ position amount, (position, amount) ∈ dest →
    (stacking store).Accepts entry (inventory.getItemByPos store position) amount
  positive : ∀ position amount, (position, amount) ∈ dest → 0 < amount

section Store

variable {store : ItemStore} {inventory : Inventory} {entry : Nat}
  {dest : List (Position × Nat)}

theorem Storable.places (storable : Storable store inventory entry dest)
    (coherent : Coherent (stacking store) inventory.slots inventory.nextGuid) :
    (dest.map (fun planned => inventory.placeOf planned.1)).Nodup := by
  have spread : (dest.map (fun planned => inventory.placeOf planned.1)) =
      (dest.map Prod.fst).map inventory.placeOf := by
    simp
  rw [spread]
  refine storable.distinct.map_on ?_
  intro first firstMember second secondMember same
  obtain ⟨⟨_, amount⟩, firstPlanned, rfl⟩ := List.mem_map.mp firstMember
  obtain ⟨⟨_, amount'⟩, secondPlanned, rfl⟩ := List.mem_map.mp secondMember
  exact Inventory.placeOf_injective coherent (storable.holds _ _ firstPlanned)
    (storable.holds _ _ secondPlanned) same

theorem Storable.takes_place (storable : Storable store inventory entry dest)
    {position : Position} {amount : Nat} (planned : (position, amount) ∈ dest) :
    (stacking store).Accepts entry (inventory.slots (inventory.placeOf position)) amount := by
  rw [← Inventory.getItemByPos_holds (storable.holds position amount planned)]
  exact storable.takes position amount planned

structure Stored (store : ItemStore) (before after : Inventory) (entry : Nat)
    (dest : List (Position × Nat)) : Prop where
  coherent : Coherent (stacking store) after.slots after.nextGuid
  later : before.nextGuid ≤ after.nextGuid
  keeps : ∀ place, Keeps (stacking store) before.slots after.slots place
  received : Received (stacking store) entry before.placeOf dest before.slots after.slots

theorem storeItem_stored {item : Item} (storable : Storable store inventory item.entry dest)
    (coherent : Coherent (stacking store) inventory.slots inventory.nextGuid)
    (below : item.guid < inventory.nextGuid)
    (absent : Absent (stacking store) inventory.slots item) :
    Stored store inventory (storeItem store inventory dest item) item.entry dest := by
  obtain ⟨_, final, later, keeps, received⟩ := deliver_stores (S := stacking store)
    (storeItemAt store item) Inventory.slots Inventory.nextGuid
    (fun state => ∀ place, Keeps (stacking store) inventory.slots state.slots place)
    (by
      intro state position amount more keeps stateCoherent stateAbsent known takes positive
      obtain ⟨count, planned⟩ := known
      obtain ⟨holds, samePlace⟩ := (storable.holds position count planned).keeps keeps
      rw [← samePlace] at takes ⊢
      obtain ⟨stored, put⟩ := storeItemAt_put stateCoherent stateAbsent holds takes positive
      exact ⟨fun place => (keeps place).trans (put.keeps takes place), stored, put⟩)
    (storable.places coherent) (fun _ => storable.positive) inventory
    (Keeps.refl _ inventory.slots) coherent below (fun _ => absent)
    (fun _ _ planned => storable.takes_place planned)
  exact ⟨final, later, keeps, received⟩

theorem Stored.bounded {before after : Inventory} (stored : Stored store before after entry dest) :
    (stacking store).Bounded after.slots := stored.coherent.bounded

theorem Stored.total {before after : Inventory} (stored : Stored store before after entry dest)
    (storable : Storable store before entry dest)
    (coherent : Coherent (stacking store) before.slots before.nextGuid) {support : Finset Place}
    (inside : ∀ position amount, (position, amount) ∈ dest → before.placeOf position ∈ support)
    (kind : Nat) :
    (stacking store).total support after.slots kind =
      (stacking store).total support before.slots kind +
        if entry = kind then (dest.map Prod.snd).sum else 0 :=
  stored.received.total (storable.places coherent) inside
    (fun _ _ planned => storable.takes_place planned) kind

end Store

/-! ### Storing what was planned -/

def StoreRequest.vacate (inventory : Inventory) (request : StoreRequest) : Inventory :=
  { inventory with
    slots := fun place =>
      if request.Swaps ∧ inventory.locate request.hint = some place then none
      else request.ignoreSource (inventory.slots place) }

/-- The named bag is one that `GetItemByPos` reads, and it is not the source itself. -/
def StoreRequest.ProperHint (inventory : Inventory) (request : StoreRequest) : Prop :=
  (request.bag = nullBag ∨ request.bag = inventorySlotBag0 ∨ BagSlot request.bag) ∧
    request.OutsideSource inventory request.hint

def StoreRequest.WholeSwap (store : ItemStore) (request : StoreRequest) : Prop :=
  request.Swaps → isBagPos request.hint = true → request.count ≤ store.maxStack request.entry

section Vacated

variable {store : ItemStore} {inventory : Inventory} {request : StoreRequest}

theorem StoreRequest.ignoreSource_some {content : Option Item} {item : Item}
    (kept : request.ignoreSource content = some item) : content = some item :=
  (Option.filter_eq_some_iff.mp kept).1

theorem StoreRequest.ignoreSource_other {item : Item}
    (other : request.source.map Item.guid ≠ some item.guid) :
    request.ignoreSource (some item) = some item := by
  unfold StoreRequest.ignoreSource
  rw [Option.filter_some, if_pos (bne_iff_ne.mpr other)]

theorem vacate_sub (place : Place) (item : Item)
    (present : (request.vacate inventory).slots place = some item) :
    inventory.slots place = some item := by
  unfold StoreRequest.vacate at present
  dsimp only at present
  split at present
  · cases present
  · exact StoreRequest.ignoreSource_some present

theorem vacate_coherent (coherent : Coherent (stacking store) inventory.slots inventory.nextGuid) :
    Coherent (stacking store) (request.vacate inventory).slots
      (request.vacate inventory).nextGuid :=
  coherent.sub vacate_sub

variable {position : Position}

theorem Suitable.holds {amount : Nat}
    (suitable : Suitable store inventory request position amount)
    (proper : request.ProperHint inventory) : inventory.Holds store position := by
  rcases suitable.names with main | ⟨bag, atSlot, inside⟩
  · exact Or.inl main
  · have notMain : position.1 ≠ inventorySlotBag0 := by
      intro same
      rw [same, Inventory.getMain_bag0] at atSlot
      cases atSlot
    have bagSlot : BagSlot position.1 := by
      rcases suitable.slot with main | ⟨named, some_bag⟩ | bagSlot
      · exact absurd main notMain
      · rcases proper.1 with none_named | main | bagSlot
        · exact absurd none_named some_bag
        · exact absurd (named.trans main) notMain
        · exact named ▸ bagSlot
      · exact bagSlot
    rw [Inventory.getMain_of_bagSlot bagSlot] at atSlot
    exact Or.inr ⟨bagSlot, bag, atSlot, inside⟩

theorem Suitable.outsideSource {amount : Nat}
    (suitable : Suitable store inventory request position amount)
    (proper : request.ProperHint inventory) : request.OutsideSource inventory position := by
  rcases suitable.outside with named | outside
  · rw [named]
    exact proper.2
  · exact outside

theorem Inventory.locate_holds (holds : inventory.Holds store position) :
    inventory.locate position = some (inventory.placeOf position) := by
  unfold Inventory.placeOf Inventory.locate
  rcases holds with main | ⟨bagSlot, bag, present, inside⟩
  · simp_all
  · rw [if_neg (bagSlot_ne_bag0 bagSlot), Inventory.getMain_of_bagSlot bagSlot, present]
    rfl

theorem Inventory.locate_injective
    (coherent : Coherent (stacking store) inventory.slots inventory.nextGuid)
    {other : Position} {place : Place} (first : inventory.locate position = some place)
    (second : inventory.locate other = some place) : position = other := by
  unfold Inventory.locate at first second
  by_cases main : position.1 = inventorySlotBag0
  · rw [if_pos main] at first
    cases first
    by_cases otherMain : other.1 = inventorySlotBag0
    · grind
    · rw [if_neg otherMain] at second
      obtain ⟨bag, _, impossible⟩ := Option.map_eq_some_iff.mp second
      cases impossible
  · rw [if_neg main] at first
    obtain ⟨bag, atSlot, rfl⟩ := Option.map_eq_some_iff.mp first
    by_cases otherMain : other.1 = inventorySlotBag0
    · simp_all
    · rw [if_neg otherMain] at second
      obtain ⟨otherBag, atOther, same⟩ := Option.map_eq_some_iff.mp second
      injection same with sameGuid sameSlot
      have sameBag := coherent.distinct _ _ bag otherBag (Inventory.getMain_slots atSlot)
        (Inventory.getMain_slots atOther) sameGuid.symm
      injection sameBag with sameBagSlot
      exact Prod.ext sameBagSlot sameSlot.symm

theorem vacate_holds (holds : inventory.Holds store position)
    (outside : request.OutsideSource inventory position)
    (single : request.Swaps → isBagPos request.hint = true → position = request.hint) :
    (request.vacate inventory).Holds store position ∧
      (request.vacate inventory).placeOf position = inventory.placeOf position := by
  rcases holds with main | ⟨bagSlot, bag, present, inside⟩
  · refine ⟨Or.inl main, ?_⟩
    obtain ⟨bag, slot⟩ := position
    obtain ⟨rfl, _⟩ := main
    rw [Inventory.placeOf_main, Inventory.placeOf_main]
  · have notSource := outside bag ((Inventory.getMain_of_bagSlot bagSlot).trans present)
    have still : (request.vacate inventory).slots (.main position.1) = some bag := by
      unfold StoreRequest.vacate
      dsimp only
      rw [if_neg, present, StoreRequest.ignoreSource_other notSource]
      rintro ⟨swaps, swapped⟩
      unfold Inventory.locate at swapped
      by_cases main : request.hint.1 = inventorySlotBag0
      · rw [if_pos main] at swapped
        injection swapped with same
        injection same with same
        have atBag : isBagPos request.hint = true := by
          simp_all [isBagPos]
        have named := single swaps atBag
        rw [named] at bagSlot
        exact bagSlot_ne_bag0 bagSlot main
      · rw [if_neg main] at swapped
        obtain ⟨_, _, impossible⟩ := Option.map_eq_some_iff.mp swapped
        cases impossible
    exact ⟨Or.inr ⟨bagSlot, bag, still, inside⟩,
      by rw [Inventory.placeOf_bag bagSlot still, Inventory.placeOf_bag bagSlot present]⟩

theorem vacate_getItemByPos
    (coherent : Coherent (stacking store) inventory.slots inventory.nextGuid)
    (holds : inventory.Holds store position)
    (outside : request.OutsideSource inventory position)
    (single : request.Swaps → isBagPos request.hint = true → position = request.hint) :
    (request.vacate inventory).getItemByPos store position =
      request.seen store inventory position := by
  obtain ⟨vacatedHolds, samePlace⟩ := vacate_holds holds outside single
  have located := Inventory.locate_holds holds
  rw [Inventory.getItemByPos_holds vacatedHolds, samePlace]
  unfold StoreRequest.vacate StoreRequest.seen
  dsimp only
  rw [Inventory.getItemByPos_holds holds]
  by_cases swapped :
      request.Swaps ∧ inventory.locate request.hint = some (inventory.placeOf position)
  · rw [if_pos swapped, if_pos ⟨Inventory.locate_injective coherent located swapped.2, swapped.1⟩]
  · grind

theorem canStoreItem_storable
    (coherent : Coherent (stacking store) inventory.slots inventory.nextGuid)
    (positive : 0 < request.count) (small : request.count < 2 ^ 32)
    (proper : request.ProperHint inventory) (wholeSwap : request.WholeSwap store)
    (accepted : (canStoreItem store inventory request).result = .ok) :
    Storable store (request.vacate inventory) request.entry
      (canStoreItem store inventory request).dest := by
  have planned := canStoreItem_ok_planned positive small accepted
  have single : ∀ position amount,
      (position, amount) ∈ (canStoreItem store inventory request).dest →
      request.Swaps → isBagPos request.hint = true → position = request.hint := by
    intro position amount member swaps atBag
    rw [canStoreItem_swap positive small swaps (wholeSwap swaps atBag) accepted,
      List.mem_singleton] at member
    cases member
    rfl
  constructor
  · exact planned.distinct
  · intro position amount member
    have suitable := planned.good position amount member
    exact (vacate_holds (suitable.holds proper) (suitable.outsideSource proper)
      (single position amount member)).1
  · intro position amount member
    have suitable := planned.good position amount member
    rw [vacate_getItemByPos coherent (suitable.holds proper) (suitable.outsideSource proper)
      (single position amount member)]
    exact suitable.takes
  · intro position amount member
    exact (planned.good position amount member).positive

end Vacated

/-! ### Twenty potions -/

def potionStore : ItemStore where
  prototype := fun _ => { stackable := 20 }
  known := fun _ => true
  limitCategory := fun _ => none

def potionPack (count : Nat) : Inventory where
  slots := fun place =>
    if place = .main inventorySlotItemStart then some { guid := 1, entry := 118, count := count }
    else none
  nextGuid := 3

theorem potionPack_coherent {count : Nat} (fits : count ≤ 20) :
    Coherent (stacking potionStore) (potionPack count).slots (potionPack count).nextGuid := by
  have only : ∀ place item, (potionPack count).slots place = some item →
      place = .main inventorySlotItemStart ∧ item = { guid := 1, entry := 118, count := count } := by
    simp [potionPack]
  constructor
  · intro place item present
    obtain ⟨_, rfl⟩ := only place item present
    exact fits
  · grind
  · intro place item present
    obtain ⟨_, rfl⟩ := only place item present
    exact (by decide : 1 < 3)

def tenPotions : StoreRequest :=
  { entry := 118, count := 10, source := none, swap := false, bag := nullBag, slot := nullSlot }

def potionSupport : Finset Place := {.main 23, .main 24}

end DarkCore.Player
