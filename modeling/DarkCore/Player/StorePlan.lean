/-
What a search for room plans. Every pass keeps the same invariant: the planned
positions are distinct, each names a slot that takes its amount, and the amounts
with the count that is left are the count the search began with.
-/

import DarkCore.Player.CanStore

namespace DarkCore.Player

open Items Lib

def Inventory.HasPosition (store : ItemStore) (inventory : Inventory) (position : Position) :
    Prop :=
  (position.1 = inventorySlotBag0 ∧ MainSlot position.2) ∨
    ∃ bag, inventory.getMain position.1 = some bag ∧ position.2 < bag.getBagSize store

variable {inventory : Inventory}

theorem Inventory.getMain_of_bagSlot {slot : Nat}
    (bagSlot : BagSlot slot) : inventory.getMain slot = inventory.slots (.main slot) :=
  if_pos bagSlot.main

theorem Inventory.getMain_slots {slot : Nat} {item : Item}
    (present : inventory.getMain slot = some item) : inventory.slots (.main slot) = some item := by
  unfold Inventory.getMain at present
  split at present
  · exact present
  · cases present

theorem Inventory.getMain_bag0 (inventory : Inventory) :
    inventory.getMain inventorySlotBag0 = none := if_neg (by decide)

theorem Inventory.getItemByPos_names {store : ItemStore}
    {position : Position} {item : Item}
    (present : inventory.getItemByPos store position = some item) :
    inventory.HasPosition store position := by
  unfold Inventory.getItemByPos at present
  split at present
  · rename_i main
    exact Or.inl main
  · split at present
    · rename_i bagSlot
      cases found : inventory.slots (.main position.1) with
      | none =>
        simp_all
      | some bag =>
        rw [found] at present
        dsimp only at present
        split at present
        · rename_i inside
          exact Or.inr ⟨bag, (Inventory.getMain_of_bagSlot bagSlot).trans found, inside⟩
        · cases present
    · cases present

def StoreRequest.Swaps (request : StoreRequest) : Prop :=
  request.swap = true ∧ request.bag ≠ nullBag ∧ request.slot ≠ nullSlot

instance (request : StoreRequest) : Decidable request.Swaps :=
  inferInstanceAs (Decidable (_ ∧ _))

/-- The slot as the search counts it: the source will be gone, and a swap empties the named slot. -/
def StoreRequest.seen (store : ItemStore) (inventory : Inventory) (request : StoreRequest)
    (position : Position) : Option Item :=
  if position = request.hint ∧ request.Swaps then none
  else request.ignoreSource (inventory.getItemByPos store position)

def StoreRequest.OutsideSource (inventory : Inventory) (request : StoreRequest)
    (position : Position) : Prop :=
  ∀ bag, inventory.getMain position.1 = some bag → request.source.map Item.guid ≠ some bag.guid

structure Suitable (store : ItemStore) (inventory : Inventory) (request : StoreRequest)
    (position : Position) (amount : Nat) : Prop where
  names : inventory.HasPosition store position
  takes : (stacking store).Accepts request.entry (request.seen store inventory position) amount
  positive : 0 < amount
  outside : position = request.hint ∨ request.OutsideSource inventory position
  slot : position.1 = inventorySlotBag0 ∨
    (position.1 = request.bag ∧ request.bag ≠ nullBag) ∨ BagSlot position.1

section Passes

variable {store : ItemStore} {inventory : Inventory} {request : StoreRequest} {total : Nat}

theorem canBeMergedPartlyWith_ok {resident : Item}
    (mergeable : request.canBeMergedPartlyWith store resident = .ok) :
    resident.entry = request.entry ∧ resident.count < store.maxStack request.entry := by
  unfold StoreRequest.canBeMergedPartlyWith at mergeable
  split at mergeable
  · cases mergeable
  · grind

theorem accepts_room {content : Option Item} {room amount : Nat}
    (found : content = none ∧ room = store.maxStack request.entry ∨
      ∃ resident, content = some resident ∧ request.canBeMergedPartlyWith store resident = .ok ∧
        room = store.maxStack request.entry - resident.count)
    (within : amount ≤ room) :
    (stacking store).Accepts request.entry content amount ∧ 0 < room := by
  rcases found with ⟨empty, whole⟩ | ⟨resident, occupied, mergeable, rest⟩
  · rw [whole] at within ⊢
    rw [empty]
    exact ⟨within, store.maxStack_pos request.entry⟩
  · obtain ⟨entry, notFull⟩ := canBeMergedPartlyWith_ok mergeable
    rw [occupied, rest]
    refine ⟨⟨entry, ?_⟩, Nat.sub_pos_of_lt notFull⟩
    change resident.count + amount ≤ store.maxStack request.entry
    omega

theorem slotRoom_some {merge : Bool} {position : Position} {room : Nat}
    (found : slotRoom store inventory request merge position = some room) :
    let content := request.ignoreSource (inventory.getItemByPos store position)
    content = none ∧ room = store.maxStack request.entry ∨
      ∃ resident, content = some resident ∧
        request.canBeMergedPartlyWith store resident = .ok ∧
        room = store.maxStack request.entry - resident.count := by
  intro content
  unfold slotRoom at found
  dsimp only at found
  split at found
  · cases found
  · grind

theorem fillSlots_planned (merge : Bool) (positions : List Position) {plan : Plan}
    (names : ∀ position ∈ positions, inventory.HasPosition store position)
    (unnamed : ∀ position ∈ positions, position ≠ request.hint)
    (outside : ∀ position ∈ positions, request.OutsideSource inventory position)
    (slots : ∀ position ∈ positions, position.1 = inventorySlotBag0 ∨
      (position.1 = request.bag ∧ request.bag ≠ nullBag) ∨ BagSlot position.1)
    (left : 0 < plan.2)
    (planned : Planned (Suitable store inventory request) total plan.1 plan.2) :
    Planned (Suitable store inventory request) total
      (fillSlots store inventory request merge positions plan).1
      (fillSlots store inventory request merge positions plan).2 := by
  induction positions generalizing plan with
  | nil => exact planned
  | cons position rest ih =>
    have restNames := fun other member => names other (List.mem_cons_of_mem position member)
    have restUnnamed := fun other member => unnamed other (List.mem_cons_of_mem position member)
    have restOutside := fun other member => outside other (List.mem_cons_of_mem position member)
    have restSlots := fun other member => slots other (List.mem_cons_of_mem position member)
    unfold fillSlots
    cases found : slotRoom store inventory request merge position with
    | none => exact ih restNames restUnnamed restOutside restSlots left planned
    | some room =>
      dsimp only
      split
      · exact ih restNames restUnnamed restOutside restSlots left planned
      · have plain : request.seen store inventory position =
            request.ignoreSource (inventory.getItemByPos store position) := by
          simp_all [StoreRequest.seen]
        have takes := accepts_room (slotRoom_some found) (Nat.min_le_left room plan.2)
        have next := planned.reserve position room
          { names := names position List.mem_cons_self
            takes := by
              simp_all
            positive := Nat.lt_min.mpr ⟨takes.2, left⟩
            outside := Or.inr (outside position List.mem_cons_self)
            slot := slots position List.mem_cons_self }
        split
        · exact next
        · rename_i more
          exact ih restNames restUnnamed restOutside restSlots (Nat.pos_of_ne_zero more) next

theorem canStoreItemInSpecificSlot_planned {plan : Plan}
    (named : request.bag ≠ nullBag ∧ request.slot ≠ nullSlot) (left : 0 < plan.2)
    (planned : Planned (Suitable store inventory request) total plan.1 plan.2) :
    Planned (Suitable store inventory request) total
      (canStoreItemInSpecificSlot store inventory request plan).2.1
      (canStoreItemInSpecificSlot store inventory request plan).2.2 := by
  unfold canStoreItemInSpecificSlot
  dsimp only
  split
  · exact planned
  · split
    · rename_i empty
      split
      · rename_i fits
        have content : request.seen store inventory request.hint = none := by
          unfold StoreRequest.seen
          by_cases swapping : request.swap = true
          · rw [if_pos ⟨rfl, swapping, named⟩]
          · simp_all
        refine planned.reserve request.hint (store.maxStack request.entry)
          ⟨?_, ?_, ?_, Or.inl rfl, Or.inr (Or.inl ⟨rfl, named.1⟩)⟩
        · unfold fitsEmptySlot at fits
          split at fits
          · rename_i main
            left
            refine ⟨main, ?_⟩
            simp only [Bool.and_eq_true, Bool.not_eq_true', decide_eq_false_iff_not, not_or,
              not_and, Nat.not_le, Nat.not_lt] at fits
            obtain ⟨⟨_, _⟩, notBuyback, notPast⟩ := fits
            unfold MainSlot
            unfold buybackSlotStart buybackSlotEnd at notBuyback
            unfold playerSlotEnd at notPast
            unfold bankSlotBagEnd keyringSlotStart currencyTokenSlotEnd
            by_cases below : 74 ≤ request.hint.2
            · exact Or.inr ⟨notBuyback below, notPast⟩
            · exact Or.inl (Nat.lt_of_not_le below)
          · right
            cases found : inventory.getMain request.hint.1 with
            | none =>
              simp_all
            | some bag =>
              simp_all
        · rw [content]
          exact Nat.min_le_left _ _
        · exact Nat.lt_min.mpr ⟨store.maxStack_pos request.entry, left⟩
      · exact planned
    · rename_i resident occupied
      have notSwap : ¬ request.swap = true := by
        simp_all
      rw [if_neg notSwap] at occupied
      split
      · rename_i mergeable
        have takes := accepts_room (Or.inr ⟨resident, occupied, mergeable, rfl⟩)
          (Nat.min_le_left (store.maxStack request.entry - resident.count) plan.2)
        refine planned.reserve request.hint _ ⟨?_, ?_, Nat.lt_min.mpr ⟨takes.2, left⟩,
          Or.inl rfl, Or.inr (Or.inl ⟨rfl, named.1⟩)⟩
        · exact Inventory.getItemByPos_names (Option.filter_eq_some_iff.mp occupied).1
        · unfold StoreRequest.seen
          rw [if_neg (fun both => notSwap both.2.1)]
          exact takes.1
      · exact planned

theorem canStoreItemInBag_planned {bagSlot : Nat}
    (kind : (bagSlot = request.bag ∧ request.bag ≠ nullBag) ∨ BagSlot bagSlot)
    (merge nonSpecialized : Bool) (skipBag : Nat) {plan : Plan} (left : 0 < plan.2)
    (planned : Planned (Suitable store inventory request) total plan.1 plan.2) :
    let outcome := canStoreItemInBag store inventory request bagSlot merge nonSpecialized skipBag
      request.slot plan
    Planned (Suitable store inventory request) total outcome.2.1 outcome.2.2 := by
  intro outcome
  change Planned (Suitable store inventory request) total
    (canStoreItemInBag store inventory request bagSlot merge nonSpecialized skipBag request.slot
      plan).2.1
    (canStoreItemInBag store inventory request bagSlot merge nonSpecialized skipBag request.slot
      plan).2.2
  unfold canStoreItemInBag
  split
  · exact planned
  · cases found : inventory.getMain bagSlot with
    | none => exact planned
    | some bag =>
      dsimp only
      split
      · exact planned
      · rename_i notSource
        split
        · exact planned
        · split
          · exact planned
          · split
            · exact planned
            · refine fillSlots_planned merge _ ?_ ?_ ?_ ?_ left planned
              · intro position member
                obtain ⟨slot, inRange, rfl⟩ := List.mem_map.mp member
                have below := List.mem_range.mp (List.mem_filter.mp inRange).1
                exact Or.inr ⟨bag, found, below⟩
              · intro position member same
                obtain ⟨slot, inRange, rfl⟩ := List.mem_map.mp member
                have other := bne_iff_ne.mp (List.mem_filter.mp inRange).2
                exact other (congrArg Prod.snd same)
              · intro position member other atSlot
                obtain ⟨slot, inRange, rfl⟩ := List.mem_map.mp member
                rw [found] at atSlot
                cases atSlot
                exact notSource
              · intro position member
                obtain ⟨slot, _, rfl⟩ := List.mem_map.mp member
                exact Or.inr kind

theorem canStoreItemInInventorySlots_planned {first past : Nat}
    (main : ∀ slot, first ≤ slot → slot < past → MainSlot slot) (merge : Bool)
    {plan : Plan} (left : 0 < plan.2)
    (planned : Planned (Suitable store inventory request) total plan.1 plan.2) :
    let outcome := canStoreItemInInventorySlots store inventory request first past merge
      request.bag request.slot plan
    Planned (Suitable store inventory request) total outcome.2.1 outcome.2.2 := by
  intro outcome
  change Planned (Suitable store inventory request) total
    (canStoreItemInInventorySlots store inventory request first past merge request.bag
      request.slot plan).2.1
    (canStoreItemInInventorySlots store inventory request first past merge request.bag
      request.slot plan).2.2
  unfold canStoreItemInInventorySlots
  split
  · exact planned
  · refine fillSlots_planned merge _ ?_ ?_ ?_ ?_ left planned
    · intro position member
      obtain ⟨slot, inRange, rfl⟩ := List.mem_map.mp member
      have bounds := mem_slotRange.mp (List.mem_filter.mp inRange).1
      exact Or.inl ⟨rfl, main slot bounds.1 bounds.2⟩
    · intro position member same
      obtain ⟨slot, inRange, rfl⟩ := List.mem_map.mp member
      have kept := (List.mem_filter.mp inRange).2
      have bag : inventorySlotBag0 = request.bag := congrArg Prod.fst same
      have named : slot = request.slot := congrArg Prod.snd same
      rw [← bag, named, beq_self_eq_true, beq_self_eq_true] at kept
      cases kept
    · intro position member bag atSlot
      obtain ⟨slot, _, rfl⟩ := List.mem_map.mp member
      rw [Inventory.getMain_bag0] at atSlot
      cases atSlot
    · intro position member
      obtain ⟨slot, _, rfl⟩ := List.mem_map.mp member
      exact Or.inl rfl

end Passes

/-! ### The whole search -/

structure Accounted (store : ItemStore) (inventory : Inventory) (request : StoreRequest)
    (total noSimilar : Nat) (answer : Answer) : Prop where
  exists_left : ∃ left, Planned (Suitable store inventory request) total answer.dest left ∧
    (answer.result = .ok → left = 0 ∧ noSimilar = 0) ∧
    ∀ amount, answer.noSpace = some amount → amount = (left + noSimilar) % 2 ^ 32

def Sound (store : ItemStore) (inventory : Inventory) (request : StoreRequest)
    (total noSimilar : Nat) : Except Answer Plan → Prop
  | .error answer => Accounted store inventory request total noSimilar answer
  | .ok plan => 0 < plan.2 ∧ Planned (Suitable store inventory request) total plan.1 plan.2

section Search

variable {store : ItemStore} {inventory : Inventory} {request : StoreRequest}
  {total noSimilar : Nat}

theorem Sound.bind {search : Except Answer Plan} {next : Plan → Except Answer Plan}
    (sound : Sound store inventory request total noSimilar search)
    (continues : ∀ plan : Plan, 0 < plan.2 →
      Planned (Suitable store inventory request) total plan.1 plan.2 →
      Sound store inventory request total noSimilar (next plan)) :
    Sound store inventory request total noSimilar (search >>= next) := by
  cases search with
  | error answer => exact sound
  | ok plan => exact continues plan sound.1 sound.2

theorem settle_sound (small : noSimilar < 2 ^ 32) {outcome : InventoryResult × Plan}
    (planned : Planned (Suitable store inventory request) total outcome.2.1 outcome.2.2) :
    Sound store inventory request total noSimilar (settle noSimilar outcome) := by
  unfold settle
  split
  · rename_i failed
    refine ⟨outcome.2.2, planned, fun accepted => absurd accepted failed, ?_⟩
    intro amount written
    exact (Option.some.inj written).symm
  · split
    · rename_i nothing
      rw [nothing] at planned
      split
      · rename_i none_refused
        exact ⟨0, planned, fun _ => ⟨rfl, none_refused⟩, by intro amount impossible; cases impossible⟩
      · refine ⟨0, planned, ?_, ?_⟩
        · simp
        · grind
    · rename_i more
      exact ⟨Nat.pos_of_ne_zero more, planned⟩

variable {plan : Plan}

theorem overBags_sound (small : noSimilar < 2 ^ 32)
    {pass : Nat → Plan → InventoryResult × Plan} (bagSlots : List Nat)
    (keeps : ∀ bagSlot ∈ bagSlots, ∀ plan, 0 < plan.2 →
      Planned (Suitable store inventory request) total plan.1 plan.2 →
      Planned (Suitable store inventory request) total (pass bagSlot plan).2.1
        (pass bagSlot plan).2.2)
    (left : 0 < plan.2)
    (planned : Planned (Suitable store inventory request) total plan.1 plan.2) :
    Sound store inventory request total noSimilar (overBags noSimilar pass bagSlots plan) := by
  induction bagSlots generalizing plan with
  | nil => exact ⟨left, planned⟩
  | cons bagSlot rest ih =>
    have restKeeps := fun other member => keeps other (List.mem_cons_of_mem bagSlot member)
    unfold overBags
    dsimp only
    split
    · exact ih restKeeps left planned
    · exact (settle_sound small (keeps bagSlot List.mem_cons_self plan left planned)).bind
        (fun next more kept => ih restKeeps more kept)

theorem inSlots_sound (small : noSimilar < 2 ^ 32) {first past : Nat}
    (main : ∀ slot, first ≤ slot → slot < past → MainSlot slot) (merge : Bool)
    (left : 0 < plan.2)
    (planned : Planned (Suitable store inventory request) total plan.1 plan.2) :
    Sound store inventory request total noSimilar
      (inSlots store inventory request noSimilar first past merge plan) :=
  settle_sound small (canStoreItemInInventorySlots_planned main merge left planned)

theorem inEquippedBags_sound (small : noSimilar < 2 ^ 32) (merge nonSpecialized : Bool)
    (left : 0 < plan.2)
    (planned : Planned (Suitable store inventory request) total plan.1 plan.2) :
    Sound store inventory request total noSimilar
      (inEquippedBags store inventory request noSimilar merge nonSpecialized plan) :=
  overBags_sound small equippedBags
    (fun _ member _ more kept => canStoreItemInBag_planned
      (Or.inr (Or.inl (mem_slotRange.mp member))) merge nonSpecialized request.bag more kept)
    left planned

theorem inNamedBag_planned (named : request.bag ≠ nullBag) (merge : Bool) (left : 0 < plan.2)
    (planned : Planned (Suitable store inventory request) total plan.1 plan.2) :
    Planned (Suitable store inventory request) total
      (inNamedBag store inventory request merge plan).2.1
      (inNamedBag store inventory request merge plan).2.2 := by
  unfold inNamedBag
  dsimp only
  split
  · exact canStoreItemInBag_planned (Or.inl ⟨rfl, named⟩) merge true nullBag left planned
  · exact canStoreItemInBag_planned (Or.inl ⟨rfl, named⟩) merge false nullBag left planned

theorem mainSlot_keyring_tokens :
    ∀ slot, keyringSlotStart ≤ slot → slot < currencyTokenSlotEnd → MainSlot slot :=
  fun _ first past => Or.inr ⟨first, past⟩

theorem mainSlot_keyring :
    ∀ slot, keyringSlotStart ≤ slot → slot < keyringSlotEnd → MainSlot slot :=
  fun _ first past => Or.inr ⟨first, Nat.lt_trans past (by decide)⟩

theorem mainSlot_tokens :
    ∀ slot, currencyTokenSlotStart ≤ slot → slot < currencyTokenSlotEnd → MainSlot slot :=
  fun _ first past => Or.inr ⟨Nat.le_trans (by decide) first, past⟩

theorem mainSlot_backpack :
    ∀ slot, inventorySlotItemStart ≤ slot → slot < inventorySlotItemEnd → MainSlot slot :=
  fun _ _ past => Or.inl (Nat.lt_trans past (by decide))

theorem passIf_sound {condition : Prop} [Decidable condition] {pass : Plan → Except Answer Plan}
    (keeps : condition → ∀ plan : Plan, 0 < plan.2 →
      Planned (Suitable store inventory request) total plan.1 plan.2 →
      Sound store inventory request total noSimilar (pass plan))
    (left : 0 < plan.2)
    (planned : Planned (Suitable store inventory request) total plan.1 plan.2) :
    Sound store inventory request total noSimilar (passIf condition pass plan) := by
  unfold passIf
  split
  · simp_all
  · exact ⟨left, planned⟩

section

variable (small : noSimilar < 2 ^ 32) (left : 0 < plan.2)
  (planned : Planned (Suitable store inventory request) total plan.1 plan.2)
include small left planned

theorem mergeIntoSlots_sound :
    Sound store inventory request total noSimilar
      (mergeIntoSlots store inventory request noSimilar plan) :=
  (inSlots_sound small mainSlot_keyring_tokens true left planned).bind
    fun _ left planned => inSlots_sound small mainSlot_backpack true left planned

theorem inNamedFamilySlots_sound :
    Sound store inventory request total noSimilar
      (inNamedFamilySlots store inventory request noSimilar plan) := by
  unfold inNamedFamilySlots
  split
  · exact (inSlots_sound small mainSlot_keyring false left planned).bind
      fun _ left planned => inSlots_sound small mainSlot_tokens false left planned
  · exact passIf_sound (fun _ _ => inSlots_sound small mainSlot_tokens false) left planned

theorem searchNamedBag_sound :
    Sound store inventory request total noSimilar
      (searchNamedBag store inventory request noSimilar plan) := by
  unfold searchNamedBag
  split
  · exact ⟨left, planned⟩
  · rename_i named
    split
    · refine (passIf_sound (fun _ _ => mergeIntoSlots_sound small) left planned).bind ?_
      intro plan left planned
      refine (inNamedFamilySlots_sound small left planned).bind ?_
      intro plan left planned
      exact inSlots_sound small mainSlot_backpack false left planned
    · refine (passIf_sound ?_ left planned).bind ?_
      · intro _ plan left planned
        exact settle_sound small (inNamedBag_planned named true left planned)
      · intro plan left planned
        exact settle_sound small (inNamedBag_planned named false left planned)

theorem searchStacks_sound :
    Sound store inventory request total noSimilar
      (searchStacks store inventory request noSimilar plan) := by
  refine passIf_sound ?_ left planned
  intro _ plan left planned
  refine (mergeIntoSlots_sound small left planned).bind ?_
  intro plan left planned
  refine (passIf_sound (fun _ _ => inEquippedBags_sound small true false) left planned).bind ?_
  intro plan left planned
  exact inEquippedBags_sound small true true left planned

theorem searchSpecialSlots_sound :
    Sound store inventory request total noSimilar
      (searchSpecialSlots store inventory request noSimilar plan) := by
  refine passIf_sound ?_ left planned
  intro _ plan left planned
  refine Sound.bind ?_ fun _ left planned => inEquippedBags_sound small false false left planned
  unfold inFamilySlots
  split
  · exact inSlots_sound small mainSlot_keyring false left planned
  · exact passIf_sound (fun _ _ => inSlots_sound small mainSlot_tokens false) left planned

theorem searchFreeSlots_sound :
    Sound store inventory request total noSimilar
      (searchFreeSlots store inventory request noSimilar plan) := by
  unfold searchFreeSlots
  split
  · refine ⟨plan.2, planned, ?_, ?_⟩
    · intro impossible
      cases impossible
    · intro amount impossible
      cases impossible
  · exact (inSlots_sound small mainSlot_backpack false left planned).bind
      fun _ left planned => inEquippedBags_sound small false true left planned

theorem searchRoom_sound :
    Sound store inventory request total noSimilar
      (searchRoom store inventory request noSimilar plan) := by
  refine (passIf_sound ?_ left planned).bind ?_
  · intro named plan left planned
    exact settle_sound small (canStoreItemInSpecificSlot_planned named left planned)
  · intro plan left planned
    refine (searchNamedBag_sound small left planned).bind ?_
    intro plan left planned
    refine (searchStacks_sound small left planned).bind ?_
    intro plan left planned
    refine (searchSpecialSlots_sound small left planned).bind ?_
    intro plan left planned
    exact searchFreeSlots_sound small left planned

end

/-! ### The answer -/

/-- What is carried already does not exceed the limits of the entry, so that the count that cannot
be taken is part of the request. -/
def StoreRequest.WithinLimits (store : ItemStore) (inventory : Inventory)
    (request : StoreRequest) : Prop :=
  (0 < (request.proto store).maxCount → inventory.getItemCount store request.entry request.source ≤
        (request.proto store).maxCount.toNat ∧
      inventory.getItemCount store request.entry request.source + request.count < 2 ^ 32) ∧
  (∀ limit, store.limitCategory (request.proto store).itemLimitCategory = some limit →
    inventory.getItemCountWithLimitCategory store (request.proto store).itemLimitCategory
        request.source ≤ limit.maxCount ∧
      inventory.getItemCountWithLimitCategory store (request.proto store).itemLimitCategory
        request.source + request.count < 2 ^ 32)

variable (store inventory) in
theorem canTakeMoreSimilarItems_refused (small : request.count < 2 ^ 32) :
    let limit := canTakeMoreSimilarItems store inventory request
    limit.2 < 2 ^ 32 ∧
      (request.WithinLimits store inventory → limit.2 ≤ request.count) := by
  intro limit
  change (canTakeMoreSimilarItems store inventory request).2 < 2 ^ 32 ∧
    (request.WithinLimits store inventory →
      (canTakeMoreSimilarItems store inventory request).2 ≤ request.count)
  unfold canTakeMoreSimilarItems
  dsimp only
  split
  · exact ⟨small, fun _ => Nat.le_refl _⟩
  · split
    · exact ⟨by decide, fun _ => Nat.zero_le _⟩
    · split
      · exact ⟨by decide, fun _ => Nat.zero_le _⟩
      · split
        · rename_i exceeded
          refine ⟨Nat.mod_lt _ (by decide), ?_⟩
          intro within
          obtain ⟨carried, noWrap⟩ := within.1 exceeded.1
          have beyond := exceeded.2
          rw [Nat.mod_eq_of_lt noWrap] at beyond
          omega
        · split
          · exact ⟨by decide, fun _ => Nat.zero_le _⟩
          · cases category : store.limitCategory (request.proto store).itemLimitCategory with
            | none => exact ⟨small, fun _ => Nat.le_refl _⟩
            | some limit =>
              dsimp only
              split
              · rename_i exceeded
                refine ⟨Nat.mod_lt _ (by decide), ?_⟩
                intro within
                obtain ⟨carried, noWrap⟩ := within.2 limit category
                have beyond := exceeded.2
                rw [Nat.mod_eq_of_lt noWrap] at beyond
                dsimp only
                omega
              · exact ⟨by decide, fun _ => Nat.zero_le _⟩

/-- Everything `_CanStoreItem` can do: refuse at once, or search for what the limits allow. The
amount searched for and the amount refused make up the request. -/
inductive StoreCase (store : ItemStore) (inventory : Inventory) (request : StoreRequest)
    (answer : Answer) : Prop where
  | early (result : InventoryResult) (failed : result ≠ .ok)
      (equal : answer = ⟨result, [], some request.count⟩)
  | search (total noSimilar : Nat) (left : 0 < total) (bound : total < 2 ^ 32)
      (small : noSimilar < 2 ^ 32) (sum : (total + noSimilar) % 2 ^ 32 = request.count)
      (within : request.WithinLimits store inventory → total + noSimilar = request.count)
      (equal : answer = searchAnswer store inventory request noSimilar total)

variable (store inventory) in
theorem canStoreItem_case (positive : 0 < request.count) (small : request.count < 2 ^ 32) :
    StoreCase store inventory request (canStoreItem store inventory request) := by
  have refused := canTakeMoreSimilarItems_refused store inventory small
  unfold canStoreItem
  split
  · by_cases swapping : request.swap = true
    · rw [if_pos swapping]
      exact .early .itemsCantBeSwapped (by decide) rfl
    · rw [if_neg swapping]
      exact .early .itemNotFound (by decide) rfl
  · split
    · exact .early .alreadyLooted (by decide) rfl
    · split
      · exact .early .dontOwnThatItem (by decide) rfl
      · dsimp only at refused ⊢
        generalize canTakeMoreSimilarItems store inventory request = limit at refused ⊢
        obtain ⟨bound, part⟩ := refused
        split
        · rename_i failed
          rw [← failed.2]
          exact .early limit.1 failed.1 rfl
        · rename_i partly
          split
          · rename_i limited
            have unequal : request.count ≠ limit.2 := fun same => partly ⟨limited, same⟩
            refine .search _ limit.2 ?_ (Nat.mod_lt _ (by decide)) bound ?_ ?_ rfl
            · omega
            · omega
            · intro within
              have allowed := part within
              omega
          · exact .search request.count 0 positive small (by decide)
              (Nat.mod_eq_of_lt small) (fun _ => rfl) rfl

theorem searchAnswer_accounted (small : noSimilar < 2 ^ 32) (left : 0 < total) :
    Accounted store inventory request total noSimilar
      (searchAnswer store inventory request noSimilar total) := by
  have start : Planned (Suitable store inventory request) total
      (([], total) : Plan).1 (([], total) : Plan).2 := Planned.empty _ total
  have sound := searchRoom_sound small left start
  unfold searchAnswer
  cases searched : searchRoom store inventory request noSimilar ([], total) with
  | error answer =>
    rw [searched] at sound
    exact sound
  | ok plan =>
    rw [searched] at sound
    refine ⟨plan.2, sound.2, ?_, ?_⟩ <;> simp

theorem canStoreItem_ok_planned (positive : 0 < request.count) (small : request.count < 2 ^ 32)
    (accepted : (canStoreItem store inventory request).result = .ok) :
    Planned (Suitable store inventory request) request.count
      (canStoreItem store inventory request).dest 0 := by
  cases canStoreItem_case store inventory positive small with
  | early result failed equal =>
    simp_all
  | search total noSimilar some_left bound refused sum within equal =>
    rw [equal] at accepted ⊢
    obtain ⟨left, planned, ended, _⟩ := searchAnswer_accounted refused some_left
    obtain ⟨rfl, rfl⟩ := ended accepted
    rw [Nat.add_zero, Nat.mod_eq_of_lt bound] at sum
    rw [← sum]
    exact planned

/-- A reported `no_space_count` is what the plan leaves out, in 32 bits, and exactly so unless the
limits are exceeded already. -/
theorem canStoreItem_noSpace (positive : 0 < request.count) (small : request.count < 2 ^ 32)
    {amount : Nat} (reported : (canStoreItem store inventory request).noSpace = some amount) :
    let planned := ((canStoreItem store inventory request).dest.map Prod.snd).sum
    (planned + amount) % 2 ^ 32 = request.count ∧
      (request.WithinLimits store inventory → planned + amount = request.count) := by
  dsimp only
  cases canStoreItem_case store inventory positive small with
  | early result failed equal =>
    simp_all
  | search total noSimilar some_left bound refused sum within equal =>
    rw [equal] at reported ⊢
    obtain ⟨left, planned, _, space⟩ := searchAnswer_accounted refused some_left
    have written := space amount reported
    have planned := planned.sum
    constructor
    · omega
    · intro limits
      have exactly := within limits
      omega

variable (inventory noSimilar) in
theorem searchNamedSlot_swap (swaps : request.Swaps)
    (fits : total ≤ store.maxStack request.entry) :
    ∃ answer, searchNamedSlot store inventory request noSimilar ([], total) = .error answer ∧
      (answer.result = .ok → answer.dest = [(request.hint, total)]) := by
  obtain ⟨swapping, named⟩ := swaps
  unfold searchNamedSlot passIf
  rw [if_pos named]
  have fails : ∀ result : InventoryResult, result ≠ .ok → ∃ answer,
      settle noSimilar (result, ([], total)) = .error answer ∧
        (answer.result = .ok → answer.dest = [(request.hint, total)]) := by
    intro result failed
    unfold settle
    rw [if_pos failed]
    exact ⟨_, rfl, fun accepted => absurd accepted failed⟩
  unfold canStoreItemInSpecificSlot
  dsimp only
  rw [if_pos swapping]
  split
  · exact fails _ (by decide)
  · dsimp only
    split
    · rw [reserve_first, Nat.min_eq_right fits, Nat.sub_self]
      unfold settle
      rw [if_neg (not_not.mpr rfl), if_pos rfl]
      split
      · exact ⟨_, rfl, fun _ => rfl⟩
      · exact ⟨_, rfl, fun impossible => by cases impossible⟩
    · exact fails _ (by decide)

theorem canStoreItem_swap (positive : 0 < request.count) (small : request.count < 2 ^ 32)
    (swaps : request.Swaps) (fits : request.count ≤ store.maxStack request.entry)
    (accepted : (canStoreItem store inventory request).result = .ok) :
    (canStoreItem store inventory request).dest = [(request.hint, request.count)] := by
  cases canStoreItem_case store inventory positive small with
  | early result failed equal =>
    simp_all
  | search total noSimilar some_left bound refused sum within equal =>
    rw [equal] at accepted ⊢
    obtain ⟨left, _, ended, _⟩ := searchAnswer_accounted refused some_left
    obtain ⟨_, rfl⟩ := ended accepted
    rw [Nat.add_zero, Nat.mod_eq_of_lt bound] at sum
    subst sum
    obtain ⟨answer, ends, single⟩ := searchNamedSlot_swap inventory 0 swaps fits
    have searched : searchAnswer store inventory request 0 request.count = answer := by
      unfold searchAnswer searchRoom
      rw [ends]
      rfl
    rw [searched] at accepted ⊢
    exact single accepted

end Search

end DarkCore.Player
