/-
Two inventories and items that are in neither of them. Storing an item that
finds room adds its count to one inventory, and takes no other item's place.
-/

import DarkCore.Trades.Trading

namespace DarkCore.Trades

open DarkCore.Lib DarkCore.Items DarkCore.Player

variable {store : ItemStore} {inventory : Inventory} {item : Item}

theorem canStoreItemAfter_nil (store : ItemStore) (inventory : Inventory)
    (request : StoreRequest) :
    canStoreItemAfter store inventory [] request = canStoreItem store inventory request := by
  unfold canStoreItemAfter canStoreItem searchAnswer
  rfl

theorem vacate_absent (absent : Absent (stacking store) inventory.slots item) :
    (requestFor item).vacate inventory = inventory := by
  have same : ((requestFor item).vacate inventory).slots = inventory.slots := by
    funext place
    unfold StoreRequest.vacate
    dsimp only
    rw [if_neg fun swaps => Bool.false_ne_true swaps.1.1]
    cases content : inventory.slots place with
    | none => rfl
    | some resident =>
      refine StoreRequest.ignoreSource_other ?_
      intro isSource
      exact absent place resident content (Option.some.inj isSource).symm
  show (⟨((requestFor item).vacate inventory).slots, inventory.nextGuid⟩ : Inventory) = inventory
  rw [same]

theorem plan_of_accepted (coherent : Coherent (stacking store) inventory.slots inventory.nextGuid)
    (absent : Absent (stacking store) inventory.slots item) (positive : 0 < item.count)
    (small : item.count < 2 ^ 32)
    (accepted : (canStoreItem store inventory (requestFor item)).result = .ok) :
    Storable store inventory item.entry (canStoreItem store inventory (requestFor item)).dest ∧
      ((canStoreItem store inventory (requestFor item)).dest.map Prod.snd).sum = item.count := by
  have proper : (requestFor item).ProperHint inventory := by
    refine ⟨Or.inl rfl, ?_⟩
    intro bag present isSource
    exact absent _ bag (Inventory.getMain_slots present) (Option.some.inj isSource).symm
  have noSwap : (requestFor item).WholeSwap store := fun swaps =>
    absurd swaps.1 Bool.false_ne_true
  have storable := canStoreItem_storable coherent positive small proper noSwap accepted
  rw [vacate_absent absent] at storable
  exact ⟨storable, (canStoreItem_ok_planned positive small accepted).sum⟩

def Explains (inventory : Inventory) (item : Item) (guid : Nat) : Prop :=
  (∃ place old, inventory.slots place = some old ∧ old.guid = guid) ∨ guid = item.guid ∨
    inventory.nextGuid ≤ guid

structure Traced (before after : Inventory) (item : Item) : Prop where
  later : before.nextGuid ≤ after.nextGuid
  guids : ∀ place resident, after.slots place = some resident →
    Explains before item resident.guid

theorem Traced.refl (inventory : Inventory) (item : Item) : Traced inventory inventory item where
  later := Nat.le_refl _
  guids place resident present := Or.inl ⟨place, resident, present, rfl⟩

theorem Traced.trans {before middle after : Inventory} (first : Traced before middle item)
    (second : Traced middle after item) : Traced before after item where
  later := Nat.le_trans first.later second.later
  guids place resident present := by
    rcases second.guids place resident present with ⟨other, old, there, same⟩ | isItem | isNew
    · exact same ▸ first.guids other old there
    · exact Or.inr (Or.inl isItem)
    · exact Or.inr (Or.inr (Nat.le_trans first.later isNew))

theorem traced_put {place : Place} {stored : Item} {next : Nat}
    (later : inventory.nextGuid ≤ next) (explains : Explains inventory item stored.guid) :
    Traced inventory (({ inventory with nextGuid := next } : Inventory).put place (some stored))
      item where
  later := later
  guids other resident present := by
    unfold Inventory.put at present
    dsimp only at present
    by_cases here : other = place
    · simp_all
    · rw [Function.update_of_ne here] at present
      exact Or.inl ⟨other, resident, present, rfl⟩

theorem traced_placeItem {position : Position} {stored : Item} {next : Nat}
    (later : inventory.nextGuid ≤ next) (explains : Explains inventory item stored.guid) :
    Traced inventory
      (({ inventory with nextGuid := next } : Inventory).placeItem position stored) item := by
  unfold Inventory.placeItem
  dsimp only
  split
  · exact traced_put later explains
  · split
    · split
      · exact traced_put later explains
      · exact ⟨later, fun place resident present => Or.inl ⟨place, resident, present, rfl⟩⟩
    · exact ⟨later, fun place resident present => Or.inl ⟨place, resident, present, rfl⟩⟩

theorem getItemByPos_slots {position : Position}
    (found : inventory.getItemByPos store position = some item) :
    inventory.slots (inventory.placeOf position) = some item := by
  have holds : inventory.Holds store position := by
    unfold Inventory.getItemByPos at found
    split at found
    · rename_i main
      exact Or.inl main
    · split at found
      · rename_i bagSlot
        split at found
        · rename_i bag present
          split at found
          · rename_i inside
            exact Or.inr ⟨bagSlot, bag, present, inside⟩
          · cases found
        · cases found
      · cases found
  rw [← Inventory.getItemByPos_holds holds]
  exact found

theorem storeItemAt_traced (item : Item) (inventory : Inventory) (position : Position)
    (count : Nat) (clone : Bool) :
    Traced inventory (storeItemAt store item inventory position count clone) item := by
  unfold storeItemAt
  split
  · rename_i resident found
    refine traced_put (Nat.le_refl _) (Or.inl ⟨_, resident, getItemByPos_slots found, ?_⟩)
    exact (Item.bindAt_guid store position resident).symm
  · split
    · unfold Inventory.cloneItem
      split
      · rename_i copy left created
        split at created
        · cases created
        · injection created with created
          injection created with isCopy isLeft
          rw [← isLeft]
          refine traced_placeItem (Nat.le_succ _) (Or.inr (Or.inr ?_))
          rw [Item.bindAt_guid, ← isCopy]
      · exact Traced.refl inventory item
    · refine traced_placeItem (Nat.le_refl _) (Or.inr (Or.inl ?_))
      exact Item.bindAt_guid store position _

theorem storeItem_traced (item : Item) (inventory : Inventory) (dest : List (Position × Nat)) :
    Traced inventory (storeItem store inventory dest item) item := by
  unfold storeItem
  induction dest generalizing inventory with
  | nil => exact Traced.refl inventory item
  | cons head rest ih =>
    unfold deliver
    exact (storeItemAt_traced item inventory head.1 head.2 _).trans (ih _)

def carried (kind : Nat) (items : List Item) : Nat :=
  (items.map fun item => if item.entry = kind then item.count else 0).sum

theorem carried_append (kind : Nat) (first second : List Item) :
    carried kind (first ++ second) = carried kind first + carried kind second := by
  unfold carried
  rw [List.map_append, List.sum_append]

theorem carried_singleton (kind : Nat) (item : Item) :
    carried kind [item] = if item.entry = kind then item.count else 0 := List.sum_singleton

structure Packs.Sound (store : ItemStore) (packs : Packs) (items : List Item) : Prop where
  player : Coherent (stacking store) packs.player packs.nextGuid
  trader : Coherent (stacking store) packs.trader packs.nextGuid
  below : ∀ item ∈ items, item.guid < packs.nextGuid
  notPlayer : ∀ item ∈ items, Absent (stacking store) packs.player item
  notTrader : ∀ item ∈ items, Absent (stacking store) packs.trader item
  distinct : (items.map (·.guid)).Nodup
  counts : ∀ item ∈ items, 0 < item.count ∧ item.count < 2 ^ 32

def Packs.total (store : ItemStore) (places : Finset Place) (packs : Packs) (kind : Nat) : Nat :=
  (stacking store).total places packs.player kind + (stacking store).total places packs.trader kind

def Within (places : Finset Place) (player trader : Place → Option Item) : Prop :=
  ∀ place item, player place = some item ∨ trader place = some item → place ∈ places

def Grows (before after : Place → Option Item) : Prop :=
  ∀ place item, before place = some item → ∃ left, after place = some left

theorem Grows.refl (slots : Place → Option Item) : Grows slots slots :=
  fun _ item present => ⟨item, present⟩

theorem Grows.trans {before middle after : Place → Option Item} (first : Grows before middle)
    (second : Grows middle after) : Grows before after := by
  intro place item present
  obtain ⟨between, there⟩ := first place item present
  exact second place between there

structure Took (store : ItemStore) (packs after : Packs) (items rest : List Item) : Prop where
  sound : after.Sound store rest
  player : Grows packs.player after.player
  trader : Grows packs.trader after.trader
  total : ∀ places, Within places after.player after.trader → ∀ kind,
    after.total store places kind = packs.total store places kind + carried kind items

variable {packs middle after : Packs} {items others rest : List Item}

theorem Took.nothing (sound : packs.Sound store rest) : Took store packs packs [] rest where
  sound := sound
  player := Grows.refl _
  trader := Grows.refl _
  total _ _ _ := rfl

theorem Took.trans (first : Took store packs middle items (others ++ rest))
    (second : Took store middle after others rest) :
    Took store packs after (items ++ others) rest where
  sound := second.sound
  player := first.player.trans second.player
  trader := first.trader.trans second.trader
  total places within kind := by
    have between : Within places middle.player middle.trader := by
      intro place item present
      rcases present with mine | his
      · obtain ⟨left, there⟩ := second.player place item mine
        exact within place left (Or.inl there)
      · obtain ⟨left, there⟩ := second.trader place item his
        exact within place left (Or.inr there)
    rw [second.total places within kind, first.total places between kind, carried_append,
      Nat.add_assoc]

theorem Packs.Sound.tail (sound : packs.Sound store (item :: rest)) :
    packs.Sound store rest where
  player := sound.player
  trader := sound.trader
  below other member := sound.below other (List.mem_cons_of_mem _ member)
  notPlayer other member := sound.notPlayer other (List.mem_cons_of_mem _ member)
  notTrader other member := sound.notTrader other (List.mem_cons_of_mem _ member)
  distinct := (List.nodup_cons.mp sound.distinct).2
  counts other member := sound.counts other (List.mem_cons_of_mem _ member)

theorem storePlayer_took {dest : List (Position × Nat)} (owned : Bool)
    (sound : packs.Sound store (item :: rest))
    (storable : Storable store packs.playerInventory item.entry dest)
    (whole : (dest.map Prod.snd).sum = item.count) :
    Took store packs (packs.storePlayer store dest { item with owned := owned }) [item] rest := by
  have below := sound.below item List.mem_cons_self
  have absent := sound.notPlayer item List.mem_cons_self
  have stored : Stored store packs.playerInventory
      (storeItem store packs.playerInventory dest { item with owned := owned }) item.entry dest :=
    storeItem_stored storable sound.player below absent
  have traced : Traced packs.playerInventory
      (storeItem store packs.playerInventory dest { item with owned := owned })
      { item with owned := owned } := storeItem_traced _ _ dest
  have apart := (List.nodup_cons.mp sound.distinct).1
  constructor
  · constructor
    · exact stored.coherent
    · refine ⟨sound.trader.bounded, sound.trader.distinct, fun place other present => ?_⟩
      exact Nat.lt_of_lt_of_le (sound.trader.fresh place other present) stored.later
    · intro other member
      exact Nat.lt_of_lt_of_le (sound.below other (List.mem_cons_of_mem _ member)) stored.later
    · intro other member place resident present same
      have known := List.mem_cons_of_mem item member
      rcases traced.guids place resident present with ⟨place, old, there, isOld⟩ | isItem | isNew
      · exact sound.notPlayer other known place old there (isOld.trans same)
      · exact apart (List.mem_map.mpr ⟨other, member, same.symm.trans isItem⟩)
      · have small : other.guid < packs.nextGuid := sound.below other known
        have large : packs.nextGuid ≤ resident.guid := isNew
        have isOther : resident.guid = other.guid := same
        omega
    · exact sound.tail.notTrader
    · exact sound.tail.distinct
    · exact sound.tail.counts
  · intro place resident present
    obtain ⟨left, there, _⟩ := stored.keeps place resident present
    exact ⟨left, there⟩
  · exact Grows.refl _
  · intro places within kind
    have inside : ∀ position amount, (position, amount) ∈ dest →
        packs.playerInventory.placeOf position ∈ places := by
      intro position amount planned
      obtain ⟨left, there, _⟩ := stored.received.planned position amount planned
      exact within _ left (Or.inl there)
    have gained := stored.total storable sound.player inside kind
    rw [whole] at gained
    unfold Packs.total
    rw [carried_singleton]
    have isPlayer : (packs.storePlayer store dest { item with owned := owned }).player =
        (storeItem store packs.playerInventory dest { item with owned := owned }).slots := rfl
    have isBefore : packs.playerInventory.slots = packs.player := rfl
    have isTrader : (packs.storePlayer store dest { item with owned := owned }).trader =
        packs.trader := rfl
    rw [isPlayer, isTrader, gained, isBefore]
    omega

def Packs.swap (packs : Packs) : Packs :=
  { packs with
    player := packs.trader
    trader := packs.player
    toPlayer := packs.toTrader
    toTrader := packs.toPlayer }

theorem Packs.Sound.swap (sound : packs.Sound store items) : packs.swap.Sound store items where
  player := sound.trader
  trader := sound.player
  below := sound.below
  notPlayer := sound.notTrader
  notTrader := sound.notPlayer
  distinct := sound.distinct
  counts := sound.counts

theorem Took.swap (took : Took store packs.swap after.swap items rest) :
    Took store packs after items rest where
  sound := took.sound.swap
  player := took.trader
  trader := took.player
  total places within kind := by
    have swapped : (stacking store).total places after.trader kind +
        (stacking store).total places after.player kind =
        (stacking store).total places packs.trader kind +
          (stacking store).total places packs.player kind + carried kind items :=
      took.total places (fun place item present => within place item present.symm) kind
    unfold Packs.total
    omega

end DarkCore.Trades
