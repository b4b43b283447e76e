/-
How often an item may drop. `LootTemplate::Process` counts what has dropped, but
each `continue` of the count goes on with the count itself, so that no entry
outside the groups is ever passed over. A filling keeps within the limits
exactly where no such entry is drawn for an item that has reached its limit.
-/

import DarkCore.LootTables.Groups

namespace DarkCore.LootTables

open Lib
open Looting (Loot LootItem)

variable {source : Source}

def Source.WithinLimits (source : Source) (loot : Loot) : Prop :=
  ∀ itemid proto, source.prototypes itemid = some proto → dropped loot itemid ≤ proto.dropLimit

structure Source.Overfills (source : Source) (work : Worklist Loot Task) (dice : Nat → Throw)
    (item : LootStoreItem) : Prop where
  now : work.tasks.head? = some (.entry item)
  admitted : source.admits item
  rolled : source.roll item (dice 0) = true
  plain : ¬ item.mincountOrRef < 0
  ordinary : item.needsQuest = false
  room : HasRoom work.state item
  reached : source.isDuplicate work.state item = true

theorem dropped_addItem {loot : Loot} {item : LootStoreItem} (throw : Throw) (itemid : Nat) :
    dropped (source.addItem loot item throw) itemid =
      dropped loot itemid +
        if item.needsQuest = false ∧ HasRoom loot item ∧ item.itemid = itemid then 1 else 0 := by
  unfold dropped
  by_cases room : HasRoom loot item
  · rw [(addItem_of_room throw room).1]
    cases quest : item.needsQuest with
    | true => simp
    | false =>
      by_cases same : item.itemid = itemid
      · simp [room, same, Source.lootItem, LootItem.ofStore, LootStoreItem.counted]
      · simp [same, Source.lootItem, LootItem.ofStore, LootStoreItem.counted]
  · rw [addItem_of_full throw room]
    simp [room]

theorem withinLimits_addItem_iff {loot : Loot} {item : LootStoreItem} {throw : Throw}
    (within : source.WithinLimits loot) :
    source.WithinLimits (source.addItem loot item throw) ↔
      ¬ (item.needsQuest = false ∧ HasRoom loot item ∧ source.isDuplicate loot item = true) := by
  constructor
  · rintro after ⟨ordinary, room, duplicate⟩
    obtain ⟨proto, known, reached⟩ := isDuplicate_iff.mp duplicate
    have more := after item.itemid proto known
    rw [dropped_addItem, if_pos ⟨ordinary, room, rfl⟩] at more
    omega
  · intro below itemid proto known
    rw [dropped_addItem]
    split
    · rename_i added
      obtain ⟨ordinary, room, same⟩ := added
      subst same
      have few : ¬ proto.dropLimit ≤ dropped loot item.itemid := fun reached =>
        below ⟨ordinary, room, isDuplicate_iff.mpr ⟨proto, known, reached⟩⟩
      omega
    · exact within itemid proto known

theorem withinLimits_next_iff {work : Worklist Loot Task} {dice : Nat → Throw}
    (within : source.WithinLimits work.state) :
    source.WithinLimits (source.next work dice).state ↔
      ∀ item, ¬ source.Overfills work dice item := by
  cases work with
  | mk loot tasks =>
    cases tasks with
    | nil =>
      refine iff_of_true within fun item overfills => ?_
      cases overfills.now
    | cons task rest =>
      cases task with
      | process template groupId =>
        have same : (source.perform dice (.process template groupId) loot).1 = loot := by
          grind [Source.perform]
        change
          source.WithinLimits (source.perform dice (.process template groupId) loot).1 ↔ _
        rw [same]
        refine iff_of_true within fun item overfills => ?_
        cases overfills.now
      | group group =>
        refine iff_of_true ?_ fun item overfills => ?_
        · change source.WithinLimits (source.processGroup dice group loot)
          rcases processGroup_cases dice group loot with
            same | ⟨item, _, _, new, throw, added⟩
          · rw [same]
            exact within
          · rw [added, withinLimits_addItem_iff within, new]
            rintro ⟨_, _, duplicate⟩
            cases duplicate
        · cases overfills.now
      | entry item =>
        change source.WithinLimits (source.performEntry dice item loot).1 ↔ _
        have here {other : LootStoreItem}
            (overfills : source.Overfills ⟨loot, .entry item :: rest⟩ dice other) :
            other = item := by
          cases overfills.now
          rfl
        by_cases drawn : source.admits item ∧ source.roll item (dice 0) = true
        · rw [performEntry_drawn drawn.1 drawn.2]
          by_cases reference : item.mincountOrRef < 0
          · rw [if_pos reference]
            refine iff_of_true ?_ fun other overfills => ?_
            · split <;> exact within
            · cases here overfills
              exact overfills.plain reference
          · rw [if_neg reference, withinLimits_addItem_iff within]
            constructor
            · intro below other overfills
              cases here overfills
              exact below ⟨overfills.ordinary, overfills.room, overfills.reached⟩
            · rintro none ⟨ordinary, room, duplicate⟩
              exact none item
                ⟨rfl, drawn.1, drawn.2, reference, ordinary, room, duplicate⟩
        · have passed : ¬ source.admits item ∨ source.roll item (dice 0) = false := by
            grind
          rw [performEntry_passed passed]
          refine iff_of_true within fun other overfills => ?_
          cases here overfills
          exact drawn ⟨overfills.admitted, overfills.rolled⟩

theorem dropped_next_le (work : Worklist Loot Task) (dice : Nat → Throw) (itemid : Nat) :
    dropped work.state itemid ≤ dropped (source.next work dice).state itemid := by
  have grows (item : LootStoreItem) (loot : Loot) (throw : Throw) :
      dropped loot itemid ≤ dropped (source.addItem loot item throw) itemid := by
    rw [dropped_addItem]
    omega
  cases work with
  | mk loot tasks =>
    cases tasks with
    | nil => exact Nat.le_refl _
    | cons task rest =>
      change dropped loot itemid ≤ dropped (source.perform dice task loot).1 itemid
      cases task with
      | process template groupId =>
        grind [Source.perform]
      | group group =>
        rcases @processGroup_cases source dice group loot with
          same | ⟨item, _, _, _, throw, added⟩
        · simp only [Source.perform, same, Nat.le_refl]
        · simp only [Source.perform, added]
          exact grows item loot throw
      | entry item =>
        simp only [Source.perform]
        rcases @performEntry_cases source dice item loot with
          passed | ⟨_, _, _, _, _, taken⟩ | ⟨_, _, _, added⟩
        · rw [passed]
        · rw [taken]
        · simp_all

/-- A filling ends within the limits exactly where no entry outside the groups is drawn on its way
for an item that has reached its limit. -/
theorem process_withinLimits_iff (source : Source) (template : LootTemplate) (loot : Loot)
    (within : source.WithinLimits loot) (inputs : List (Nat → Throw)) :
    source.WithinLimits (inputs.foldl source.next (template.filling loot)).state ↔
      Along source.next (fun work dice => ∀ item, ¬ source.Overfills work dice item)
        (template.filling loot) inputs := by
  have stepwise (work : Worklist Loot Task) (dice : Nat → Throw)
      (before : source.WithinLimits work.state) :
      source.WithinLimits (source.next work dice).state ↔
        ∀ item, ¬ source.Overfills work dice item := withinLimits_next_iff before
  have always : Always source.next (fun work => source.WithinLimits work.state)
        (template.filling loot) inputs ↔
      Along source.next (fun work dice => ∀ item, ¬ source.Overfills work dice item)
        (template.filling loot) inputs := always_iff_along stepwise within
  rw [← always]
  constructor
  · intro last
    apply always_of_last _ last
    intro work dice after itemid proto known
    exact (dropped_next_le work dice itemid).trans (after itemid proto known)
  · exact Always.last

def ringRow : Row where
  entry := 1
  item := 7
  chanceOrQuestChance := 100
  lootmode := 1
  groupid := 0
  mincountOrRef := 1
  maxcount := 1

def ringsRow (maxcount : Int) : Row where
  entry := 1
  item := 1
  chanceOrQuestChance := 100
  lootmode := 1
  groupid := 0
  mincountOrRef := -1
  maxcount := maxcount

def ringSource : Source where
  prototypes := fun _ => some { inventoryType := 11 }
  references := loadLootTable (fun _ => some { inventoryType := 11 }) [ringRow]
  lootMode := 1

def lowThrows : List (Nat → Throw) := List.replicate 6 fun _ => lowThrow

def ringFilling (maxcount : Int) : Worklist Loot Task :=
  lowThrows.foldl ringSource.next
    (LootTemplate.filling { entries := [(ringsRow maxcount).storeItem] } {})

theorem process_withinLimits_iff_one :
    Along ringSource.next (fun work dice => ∀ item, ¬ ringSource.Overfills work dice item)
      (LootTemplate.filling { entries := [(ringsRow 1).storeItem] } {}) lowThrows := by
  refine (process_withinLimits_iff ringSource _ {} (fun _ _ _ => Nat.zero_le _) lowThrows).mp ?_
  intro itemid proto _
  have one : (ringFilling 1).state.items.length = 1 := by decide +kernel
  have limit := dropLimit_bounds proto
  have most : dropped (ringFilling 1).state itemid ≤ (ringFilling 1).state.items.length :=
    List.countP_le_length
  change dropped (ringFilling 1).state itemid ≤ proto.dropLimit
  omega

/-- A reference with the multiplicator two gives the ring twice. -/
theorem rings_beyond_limit :
    ¬ ∀ inputs : List (Nat → Throw),
      (inputs.foldl ringSource.next
        (LootTemplate.filling { entries := [(ringsRow 2).storeItem] } {})).tasks = [] →
      ringSource.WithinLimits (inputs.foldl ringSource.next
        (LootTemplate.filling { entries := [(ringsRow 2).storeItem] } {})).state := by
  intro within
  have run : (ringFilling 2).tasks.length = 0 ∧ dropped (ringFilling 2).state 7 = 2 := by
    decide +kernel
  have most := within lowThrows (List.length_eq_zero_iff.mp run.1) 7 _ rfl
  change dropped (ringFilling 2).state 7 ≤ _ at most
  rw [run.2] at most
  exact absurd most (by decide)

end DarkCore.LootTables
