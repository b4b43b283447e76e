/-
The groups of a loot template. A group is to drop one of its entries, however
the dice fall, if one of them takes what chance the others leave. It does where
the number of its entries, which bounds the attempts, is not cut off to zero and
the loot has room. Its entries are tested against the loot mode for a bit in
common, the entries outside the groups for no bit that the mode lacks.
-/

import DarkCore.LootTables.References

namespace DarkCore.LootTables

open Lib
open Looting (Loot LootItem maxNrLootItems maxNrQuestItems)

variable (source : Source)

def dropped (loot : Loot) (itemid : Nat) : Nat :=
  loot.items.countP fun item => item.itemid = itemid

theorem limitReached_eq (proto : ItemPrototype) (counter : Nat) :
    proto.limitReached counter = decide (counter = proto.dropLimit) := by
  apply Bool.eq_iff_iff.mpr
  unfold ItemPrototype.limitReached ItemPrototype.dropLimit
  by_cases plain : proto.inventoryType = 0 <;> simp [plain]

theorem dropLimit_bounds (proto : ItemPrototype) :
    0 < proto.dropLimit ∧ proto.dropLimit < 256 := by
  unfold ItemPrototype.dropLimit
  split <;> decide

theorem findDuplicate_eq (proto : ItemPrototype) (itemid : Nat) (items : List LootItem)
    (before : Nat) :
    findDuplicate proto itemid (before % 256) (decide (proto.dropLimit ≤ before)) items =
      decide (proto.dropLimit ≤ before + items.countP fun item => item.itemid = itemid) := by
  induction items generalizing before with
  | nil => simp [findDuplicate]
  | cons item rest ih =>
    by_cases same : item.itemid = itemid
    · have limit := dropLimit_bounds proto
      have next : (decide (proto.dropLimit ≤ before) ||
          proto.limitReached ((before % 256 + 1) % 256)) =
          decide (proto.dropLimit ≤ before + 1) := by
        grind [limitReached_eq, Bool.decide_or]
      have counted := ih (before + 1)
      simp only [findDuplicate, next, List.countP_cons, same, decide_true, if_true]
      rw [Nat.mod_add_mod, counted]
      apply decide_eq_decide.mpr
      omega
    · simp only [findDuplicate, ih, List.countP_cons, same, decide_false,
        Bool.false_eq_true, if_false, Nat.add_zero]

variable {source}

theorem isDuplicate_iff {loot : Loot} {item : LootStoreItem} :
    source.isDuplicate loot item = true ↔
      ∃ proto, source.prototypes item.itemid = some proto ∧
        proto.dropLimit ≤ dropped loot item.itemid := by
  unfold Source.isDuplicate
  cases known : source.prototypes item.itemid with
  | none => simp
  | some proto =>
    have limit := dropLimit_bounds proto
    have start : decide (proto.dropLimit ≤ 0) = false := decide_eq_false (by omega)
    have counted := findDuplicate_eq proto item.itemid loot.items 0
    rw [start, Nat.zero_mod, Nat.zero_add] at counted
    simp [counted, dropped]

theorem isDuplicate_of_fresh {loot : Loot} {item : LootStoreItem}
    (fresh : ∀ other ∈ loot.items, other.itemid ≠ item.itemid) :
    source.isDuplicate loot item = false := by
  apply Bool.eq_false_iff.mpr
  intro duplicate
  obtain ⟨proto, _, reached⟩ := isDuplicate_iff.mp duplicate
  have none : dropped loot item.itemid = 0 :=
    List.countP_eq_zero.mpr fun other member => by simp [fresh other member]
  have limit := dropLimit_bounds proto
  omega

theorem rollExplicit_suffix (roll : ℚ) (explicit : List LootStoreItem) :
    rollExplicit roll explicit <:+ explicit := by
  induction explicit generalizing roll with
  | nil => exact List.suffix_rfl
  | cons item rest ih =>
    unfold rollExplicit
    split
    · exact List.suffix_rfl
    · split
      · exact List.suffix_rfl
      · exact (ih _).trans (List.suffix_cons item rest)

theorem attempt_cases (dice : Nat → Throw) (left made : Nat) (explicit equal : List LootStoreItem)
    (loot : Loot) :
    source.attempt dice left made explicit equal loot = loot ∨
    ∃ item ∈ explicit ++ equal, item.lootmode &&& source.lootMode ≠ 0 ∧
      source.isDuplicate loot item = false ∧
      ∃ throw, source.attempt dice left made explicit equal loot =
        source.addItem loot item throw := by
  induction left generalizing made explicit equal with
  | zero => exact Or.inl rfl
  | succ left ih =>
    have suffix := rollExplicit_suffix (dice made).chance.value explicit
    have weaken {explicit' equal' : List LootStoreItem} (later : Nat)
        (fewer : ∀ item ∈ explicit' ++ equal', item ∈ explicit ++ equal) :
        source.attempt dice left later explicit' equal' loot = loot ∨
        ∃ item ∈ explicit ++ equal, item.lootmode &&& source.lootMode ≠ 0 ∧
          source.isDuplicate loot item = false ∧
          ∃ throw, source.attempt dice left later explicit' equal' loot =
            source.addItem loot item throw := by
      rcases ih later explicit' equal' with same | ⟨item, member, rest⟩
      · exact Or.inl same
      · exact Or.inr ⟨item, fewer item member, rest⟩
    unfold Source.attempt
    cases drawn : rollExplicit (dice made).chance.value explicit with
    | cons item rest =>
      rw [drawn] at suffix
      have listed : item ∈ explicit ++ equal :=
        List.mem_append_left _ (suffix.subset List.mem_cons_self)
      have fewer : ∀ other ∈ (item :: rest) ++ equal, other ∈ explicit ++ equal := by
        intro other member
        rcases List.mem_append.mp member with left | right
        · exact List.mem_append_left _ (suffix.subset left)
        · exact List.mem_append_right _ right
      dsimp only
      by_cases common : item.lootmode &&& source.lootMode ≠ 0 <;> grind
    | nil =>
      cases chosen : equal[(dice made).place % equal.length]? with
      | none => exact Or.inl rfl
      | some item =>
        have listed : item ∈ explicit ++ equal :=
          List.mem_append_right _ (List.mem_of_getElem? chosen)
        dsimp only
        by_cases common : item.lootmode &&& source.lootMode ≠ 0
        · rw [if_pos common]
          cases duplicate : source.isDuplicate loot item with
          | true =>
            exact weaken (made + 1) fun other member =>
              List.mem_append_right _ (List.mem_of_mem_eraseIdx member)
          | false => exact Or.inr ⟨item, listed, common, duplicate, dice made, rfl⟩
        · simp_all

theorem processGroup_cases (dice : Nat → Throw) (group : LootGroup) (loot : Loot) :
    source.processGroup dice group loot = loot ∨
    ∃ item ∈ group.explicitlyChanced ++ group.equalChanced,
      item.lootmode &&& source.lootMode ≠ 0 ∧ source.isDuplicate loot item = false ∧
      ∃ throw, source.processGroup dice group loot = source.addItem loot item throw :=
  attempt_cases dice _ 0 _ _ loot

def LootGroup.roll (group : LootGroup) (throw : Throw) : Option LootStoreItem :=
  match rollExplicit throw.chance.value group.explicitlyChanced with
  | item :: _ => some item
  | [] => group.equalChanced[throw.place % group.equalChanced.length]?

theorem LootGroup.mem_of_roll {group : LootGroup} {throw : Throw} {item : LootStoreItem}
    (drawn : group.roll throw = some item) :
    item ∈ group.explicitlyChanced ++ group.equalChanced := by
  have suffix := rollExplicit_suffix throw.chance.value group.explicitlyChanced
  unfold LootGroup.roll at drawn
  cases found : rollExplicit throw.chance.value group.explicitlyChanced with
  | cons first rest =>
    rw [found] at drawn suffix
    cases drawn
    exact List.mem_append_left _ (suffix.subset List.mem_cons_self)
  | nil =>
    grind

theorem LootGroup.exists_roll {group : LootGroup} (equal : group.equalChanced ≠ [])
    (throw : Throw) : ∃ item, group.roll throw = some item := by
  unfold LootGroup.roll
  cases rollExplicit throw.chance.value group.explicitlyChanced with
  | cons first rest => exact ⟨first, rfl⟩
  | nil =>
    have inside : throw.place % group.equalChanced.length < group.equalChanced.length :=
      Nat.mod_lt _ (List.length_pos_iff.mpr equal)
    exact ⟨_, List.getElem?_eq_getElem inside⟩

theorem processGroup_first {dice : Nat → Throw} {group : LootGroup} {loot : Loot}
    {item : LootStoreItem}
    (attempts : (group.explicitlyChanced.length + group.equalChanced.length) % 2 ^ 8 ≠ 0)
    (drawn : group.roll (dice 0) = some item)
    (common : item.lootmode &&& source.lootMode ≠ 0)
    (new : source.isDuplicate loot item = false) :
    source.processGroup dice group loot = source.addItem loot item (dice 0) := by
  unfold Source.processGroup
  obtain ⟨left, more⟩ := Nat.exists_eq_succ_of_ne_zero attempts
  rw [more]
  unfold Source.attempt
  unfold LootGroup.roll at drawn
  cases found : rollExplicit (dice 0).chance.value group.explicitlyChanced with
  | cons first rest =>
    simp_all
  | nil =>
    simp_all

theorem processGroup_no_attempt {group : LootGroup}
    (none : (group.explicitlyChanced.length + group.equalChanced.length) % 2 ^ 8 = 0)
    (dice : Nat → Throw) (loot : Loot) : source.processGroup dice group loot = loot := by
  unfold Source.processGroup
  rw [none]
  rfl

/-- `AddItem` does not refuse the item. -/
def HasRoom (loot : Loot) (item : LootStoreItem) : Prop :=
  if item.needsQuest then loot.questItems.length < maxNrQuestItems
  else loot.items.length < maxNrLootItems

instance (loot : Loot) (item : LootStoreItem) : Decidable (HasRoom loot item) :=
  inferInstanceAs (Decidable (if item.needsQuest then loot.questItems.length < maxNrQuestItems
    else loot.items.length < maxNrLootItems))

def AddsOne (before after : Loot) : Prop :=
  ∃ item, (after.items = before.items ++ [item] ∧ after.questItems = before.questItems) ∨
    (after.questItems = before.questItems ++ [item] ∧ after.items = before.items)

theorem not_addsOne_self (loot : Loot) : ¬ AddsOne loot loot := by
  rintro ⟨item, ⟨grown, _⟩ | ⟨grown, _⟩⟩
  · have lengths := congrArg List.length grown
    simp at lengths
  · have lengths := congrArg List.length grown
    simp at lengths

/-- The item that `AddItem` makes of an entry -/
def Source.lootItem (source : Source) (item : LootStoreItem) (throw : Throw) : LootItem :=
  .ofStore source.lootPrototypes (item.counted throw)

theorem addItem_of_room {loot : Loot} {item : LootStoreItem} (throw : Throw)
    (room : HasRoom loot item) :
    (source.addItem loot item throw).items =
        (if item.needsQuest then loot.items else loot.items ++ [source.lootItem item throw]) ∧
      (source.addItem loot item throw).questItems =
        if item.needsQuest then loot.questItems ++ [source.lootItem item throw]
        else loot.questItems := by
  unfold Source.addItem Looting.Loot.addItem
  unfold HasRoom at room
  cases quest : item.needsQuest with
  | true =>
    simp only [quest, if_true] at room
    simp [LootStoreItem.counted, quest, room, Source.lootItem]
  | false =>
    simp only [quest, Bool.false_eq_true, if_false] at room
    simp only [LootStoreItem.counted, quest, room, Source.lootItem, Bool.false_eq_true, if_false,
      if_true]
    split
    · split
      · exact ⟨rfl, rfl⟩
      · split <;> exact ⟨rfl, rfl⟩
    · exact ⟨rfl, rfl⟩

theorem addItem_of_full {loot : Loot} {item : LootStoreItem} (throw : Throw)
    (full : ¬ HasRoom loot item) : source.addItem loot item throw = loot := by
  unfold Source.addItem Looting.Loot.addItem
  unfold HasRoom at full
  cases quest : item.needsQuest with
  | true =>
    simp only [quest, if_true] at full
    simp [LootStoreItem.counted, quest, full]
  | false =>
    simp only [quest, Bool.false_eq_true, if_false] at full
    simp [LootStoreItem.counted, quest, full]

theorem addsOne_addItem_iff {loot : Loot} {item : LootStoreItem} {throw : Throw} :
    AddsOne loot (source.addItem loot item throw) ↔ HasRoom loot item := by
  by_cases room : HasRoom loot item
  · obtain ⟨items, questItems⟩ := @addItem_of_room source loot item throw room
    refine iff_of_true ⟨source.lootItem item throw, ?_⟩ room
    cases quest : item.needsQuest with
    | true => exact Or.inr ⟨by simpa [quest] using questItems, by simpa [quest] using items⟩
    | false => exact Or.inl ⟨by simpa [quest] using items, by simpa [quest] using questItems⟩
  · rw [addItem_of_full throw room]
    exact iff_of_false (not_addsOne_self loot) room

/-- For a group in which one entry or another can be drawn whatever the dice show, all entries
meet the loot mode and none is in the loot yet: one item is added exactly where the attempts,
counted in eight bits, are not none and the loot has room for the entry that the first throw
draws. -/
theorem processGroup_addsOne_iff (source : Source) (dice : Nat → Throw) (group : LootGroup)
    (loot : Loot) (equal : group.equalChanced ≠ [])
    (common : ∀ item ∈ group.explicitlyChanced ++ group.equalChanced,
      item.lootmode &&& source.lootMode ≠ 0)
    (fresh : ∀ item ∈ group.explicitlyChanced ++ group.equalChanced,
      ∀ other ∈ loot.items ++ loot.questItems, other.itemid ≠ item.itemid) :
    AddsOne loot (source.processGroup dice group loot) ↔
      (group.explicitlyChanced.length + group.equalChanced.length) % 2 ^ 8 ≠ 0 ∧
        ∀ item, group.roll (dice 0) = some item → HasRoom loot item := by
  by_cases attempts :
      (group.explicitlyChanced.length + group.equalChanced.length) % 2 ^ 8 = 0
  · rw [processGroup_no_attempt attempts]
    exact iff_of_false (not_addsOne_self loot) fun both => both.1 attempts
  · obtain ⟨item, drawn⟩ := LootGroup.exists_roll equal (dice 0)
    have listed := LootGroup.mem_of_roll drawn
    have new : source.isDuplicate loot item = false :=
      isDuplicate_of_fresh fun other member =>
        fresh item listed other (List.mem_append_left _ member)
    rw [processGroup_first attempts drawn (common item listed) new, addsOne_addItem_iff, drawn]
    constructor
    · intro room
      refine ⟨attempts, fun other same => ?_⟩
      cases same
      exact room
    · intro both
      exact both.2 item rfl

def equalEntry (itemid : Nat) : LootStoreItem where
  itemid := itemid
  chance := 0
  mincountOrRef := 1
  lootmode := 1
  group := 1
  needsQuest := false
  maxcount := 1

def plainSource : Source where
  prototypes := fun _ => some {}
  references := .empty
  lootMode := 1

theorem processGroup_addsOne_iff_two :
    AddsOne {} (plainSource.processGroup (fun _ => lowThrow)
      { equalChanced := [equalEntry 1, equalEntry 2] } {}) := by
  refine (processGroup_addsOne_iff plainSource _ _ {} (by decide) (by decide)
    (fun _ _ other member => absurd member List.not_mem_nil)).mpr ⟨by decide, ?_⟩
  intro item drawn
  unfold HasRoom
  split <;> decide

/-- A group of 256 entries: nothing is drawn. -/
theorem processGroup_of_256 :
    ¬ ∀ (dice : Nat → Throw) (group : LootGroup), group.equalChanced ≠ [] →
      (∀ item ∈ group.explicitlyChanced ++ group.equalChanced,
        item.lootmode &&& plainSource.lootMode ≠ 0) →
      AddsOne {} (plainSource.processGroup dice group {}) := by
  intro adds
  have size : ((List.range 256).map equalEntry).length = 256 := by simp
  have added := adds (fun _ => lowThrow) { equalChanced := (List.range 256).map equalEntry }
    (List.ne_nil_of_length_pos (by rw [size]; decide)) (by
      intro item member
      obtain ⟨itemid, _, same⟩ := List.mem_map.mp member
      rw [← same]
      exact (by decide : (1 : BitVec 16) &&& 1 ≠ 0))
  rw [processGroup_no_attempt (by rw [size]; rfl)] at added
  exact not_addsOne_self {} added

/-- `Process` lets an entry of a group pass. -/
def Source.admitsGrouped (source : Source) (item : LootStoreItem) : Prop :=
  item.lootmode &&& source.lootMode ≠ 0

instance (item : LootStoreItem) : Decidable (source.admitsGrouped item) :=
  inferInstanceAs (Decidable (_ ≠ _))

theorem admits_iff_admitsGrouped_iff (item : LootStoreItem) :
    (source.admits item ↔ source.admitsGrouped item) ↔
      item.lootmode ≠ 0 ∧ (item.lootmode &&& source.lootMode = 0 ∨
        item.lootmode &&& source.lootMode = item.lootmode) := by
  have covered : source.admits item ↔ item.lootmode &&& source.lootMode = item.lootmode := by
    unfold Source.admits
    constructor
    · intro none
      ext bit inside
      have atBit := congrArg (fun mask : BitVec 16 => mask[bit]) none
      simpa using atBit
    · intro same
      ext bit inside
      have atBit := congrArg (fun mask : BitVec 16 => mask[bit]) same
      simpa using atBit
  rw [covered]
  unfold Source.admitsGrouped
  by_cases none : item.lootmode &&& source.lootMode = 0
  · grind
  · constructor
    · intro agree
      have same := agree.mpr none
      exact ⟨fun empty => none (same.trans empty), Or.inr same⟩
    · simp_all

/-- For some dice `Process` puts something into an empty loot. -/
def Source.Drops (source : Source) (template : LootTemplate) : Prop :=
  ∃ inputs : List (Nat → Throw),
    (inputs.foldl source.next (template.filling {})).tasks = [] ∧
      AddsOne {} (inputs.foldl source.next (template.filling {})).state

def LootStoreItem.alone (item : LootStoreItem) : LootTemplate := { entries := [item] }

def LootStoreItem.grouped (item : LootStoreItem) : LootTemplate :=
  { groups := [{ explicitlyChanced := [item] }] }

theorem hasRoom_empty (item : LootStoreItem) : HasRoom {} item := by
  unfold HasRoom
  split <;> decide

theorem drops_alone_iff {item : LootStoreItem} (plain : 0 < item.mincountOrRef)
    (can : source.CanRoll item) : source.Drops item.alone ↔ source.admits item := by
  constructor
  · rintro ⟨inputs, _, adds⟩
    by_contra foreign
    have keeps (dice : Nat → Throw) (task : Task) (loot : Loot)
        (kind : task = .process item.alone 0 ∨ task = .entry item) (empty : loot = {}) :
        (source.perform dice task loot).1 = {} ∧
          ∀ sub ∈ (source.perform dice task loot).2,
            sub = .process item.alone 0 ∨ sub = .entry item := by
      rcases kind with same | same
      · subst same
        exact ⟨empty, fun sub member => Or.inr (List.mem_singleton.mp member)⟩
      · subst same
        change (source.performEntry dice item loot).1 = {} ∧
          ∀ sub ∈ (source.performEntry dice item loot).2, _
        rw [performEntry_passed (Or.inl foreign)]
        exact ⟨empty, fun sub member => absurd member List.not_mem_nil⟩
    have start : ∀ task ∈ (item.alone.filling {}).tasks,
        task = .process item.alone 0 ∨ task = .entry item :=
      fun task member => Or.inl (List.mem_singleton.mp member)
    have kept := foldl_keeps keeps inputs rfl start
    rw [kept.1] at adds
    exact not_addsOne_self {} adds
  · intro admitted
    have drawn : source.performEntry (fun _ => lowThrow) item {} =
        (source.addItem {} item lowThrow, []) :=
      (performEntry_drawn admitted can.roll).trans (if_neg (by omega))
    have run : [fun _ => lowThrow, fun _ => lowThrow].foldl source.next (item.alone.filling {}) =
        ⟨(source.performEntry (fun _ => lowThrow) item {}).1,
          (source.performEntry (fun _ => lowThrow) item {}).2 ++ []⟩ := rfl
    refine ⟨[fun _ => lowThrow, fun _ => lowThrow], ?_⟩
    rw [run, drawn]
    exact ⟨rfl, addsOne_addItem_iff.mpr (hasRoom_empty item)⟩

theorem drops_grouped_iff {item : LootStoreItem} (chance : 0 < item.chance) :
    source.Drops item.grouped ↔ source.admitsGrouped item := by
  constructor
  · rintro ⟨inputs, _, adds⟩
    by_contra foreign
    have keeps (dice : Nat → Throw) (task : Task) (loot : Loot)
        (kind : task = .process item.grouped 0 ∨ task = .group { explicitlyChanced := [item] })
        (empty : loot = {}) :
        (source.perform dice task loot).1 = {} ∧
          ∀ sub ∈ (source.perform dice task loot).2,
            sub = .process item.grouped 0 ∨ sub = .group { explicitlyChanced := [item] } := by
      rcases kind with same | same
      · subst same
        exact ⟨empty, fun sub member => Or.inr (List.mem_singleton.mp member)⟩
      · subst same
        refine ⟨?_, fun sub member => absurd member List.not_mem_nil⟩
        change source.processGroup dice { explicitlyChanced := [item] } loot = {}
        rcases processGroup_cases dice { explicitlyChanced := [item] } loot with
          same | ⟨other, member, common, _⟩
        · rw [same, empty]
        · rw [List.mem_singleton.mp member] at common
          exact absurd common foreign
    have start : ∀ task ∈ (item.grouped.filling {}).tasks,
        task = .process item.grouped 0 ∨ task = .group { explicitlyChanced := [item] } :=
      fun task member => Or.inl (List.mem_singleton.mp member)
    have kept := foldl_keeps keeps inputs rfl start
    rw [kept.1] at adds
    exact not_addsOne_self {} adds
  · intro admitted
    have rolled : LootGroup.roll { explicitlyChanced := [item] } lowThrow = some item := by
      have low : (0 : ℚ) - item.chance < 0 := by linarith
      have first : rollExplicit 0 [item] = [item] := by
        simp_all [rollExplicit]
      simp [LootGroup.roll, lowThrow, first]
    have drawn : source.processGroup (fun _ => lowThrow) { explicitlyChanced := [item] } {} =
        source.addItem {} item lowThrow :=
      processGroup_first (by simp) rolled admitted
        (isDuplicate_of_fresh fun other member => absurd member List.not_mem_nil)
    have run : [fun _ => lowThrow, fun _ => lowThrow].foldl source.next (item.grouped.filling {}) =
        ⟨source.processGroup (fun _ => lowThrow) { explicitlyChanced := [item] } {}, []⟩ := rfl
    refine ⟨[fun _ => lowThrow, fun _ => lowThrow], ?_⟩
    rw [run, drawn]
    exact ⟨rfl, addsOne_addItem_iff.mpr (hasRoom_empty item)⟩

/-- An entry with some chance can drop both outside a group and in one, or in neither place,
exactly where its mask is not empty and the loot mode covers it or does not touch it. -/
theorem drops_alone_iff_grouped (source : Source) (item : LootStoreItem)
    (plain : 0 < item.mincountOrRef) (chance : 0 < item.chance) (can : source.CanRoll item) :
    (source.Drops item.alone ↔ source.Drops item.grouped) ↔
      item.lootmode ≠ 0 ∧ (item.lootmode &&& source.lootMode = 0 ∨
        item.lootmode &&& source.lootMode = item.lootmode) := by
  rw [drops_alone_iff plain can, drops_grouped_iff chance]
  exact admits_iff_admitsGrouped_iff item

def sureEntry (lootmode : BitVec 16) : LootStoreItem where
  itemid := 1
  chance := 100
  mincountOrRef := 1
  lootmode := lootmode
  group := 0
  needsQuest := false
  maxcount := 1

theorem drops_alone_iff_grouped_one :
    plainSource.Drops (sureEntry 1).alone ↔ plainSource.Drops (sureEntry 1).grouped :=
  (drops_alone_iff_grouped plainSource (sureEntry 1) (by decide) (by decide)
    (Or.inl (by decide))).mpr ⟨by decide, by decide⟩

/-- An entry for the modes 1 and 2 drops in mode 1 from a group only. -/
theorem drops_grouped_not_alone :
    ¬ (plainSource.Drops (sureEntry 3).alone ↔ plainSource.Drops (sureEntry 3).grouped) := by
  rw [drops_alone_iff (by decide) (Or.inl (by decide)), drops_grouped_iff (by decide)]
  decide

end DarkCore.LootTables
