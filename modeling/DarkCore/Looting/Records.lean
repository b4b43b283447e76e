/-
How a loot records that an item was handed out to a player, and that no change
of a loot forgets it: an item that is for all is recorded in the player's own
list, or by the count of nothing that the master looter leaves, any other item
in itself.
-/

import DarkCore.Looting.Outstanding

namespace DarkCore.Looting

open Lib

def EntryLooted (index guid : Nat) (lists : OrdMap Nat (List QuestItem)) : Prop :=
  ∃ entries, lists.find guid = some entries ∧
    ∃ entry ∈ entries, entry.index = index ∧ entry.isLooted = true

def Distinct (lists : OrdMap Nat (List QuestItem)) : Prop :=
  ∀ guid entries, lists.find guid = some entries → (entries.map QuestItem.index).Nodup

section Entries

variable {lists : OrdMap Nat (List QuestItem)} {entries : List QuestItem} {entry : QuestItem}
  {guid index position : Nat}

theorem EntryLooted.markEntry {other : Nat} (looted : EntryLooted index other lists) :
    EntryLooted index other (Loot.markEntry guid position lists) := by
  obtain ⟨entries, isList, entry, listed, atIndex, isLooted⟩ := looted
  unfold Loot.markEntry
  by_cases same : other = guid
  · subst same
    rw [isList]
    refine ⟨entries.modify position QuestItem.markLooted, ?_, ?_⟩
    · rw [OrdMap.find_assign, Function.update_self]
    · obtain ⟨place, isElement⟩ := List.mem_iff_getElem?.mp listed
      by_cases marked : position = place
      · subst marked
        refine ⟨entry.markLooted, List.mem_of_getElem? (i := position) ?_, atIndex, rfl⟩
        rw [List.getElem?_modify_eq, isElement]
        rfl
      · refine ⟨entry, List.mem_of_getElem? (i := place) ?_, atIndex, isLooted⟩
        rw [List.getElem?_modify_ne _ _ marked]
        exact isElement
  · split
    · exact ⟨entries, isList, entry, listed, atIndex, isLooted⟩
    · refine ⟨entries, ?_, entry, listed, atIndex, isLooted⟩
      rw [OrdMap.find_assign, Function.update_of_ne same]
      exact isList

theorem entryLooted_marked (isList : lists.find guid = some entries)
    (isElement : entries[position]? = some entry) (atIndex : entry.index = index) :
    EntryLooted index guid (Loot.markEntry guid position lists) := by
  unfold Loot.markEntry
  rw [isList]
  refine ⟨entries.modify position QuestItem.markLooted, ?_, entry.markLooted, ?_, atIndex, rfl⟩
  · rw [OrdMap.find_assign, Function.update_self]
  · refine List.mem_of_getElem? (i := position) ?_
    rw [List.getElem?_modify_eq, isElement]
    rfl

theorem not_entryLooted (distinct : Distinct lists) (isList : lists.find guid = some entries)
    (isElement : entries[position]? = some entry) (atIndex : entry.index = index)
    (unlooted : entry.isLooted = false) : ¬ EntryLooted index guid lists := by
  rintro ⟨others, isOthers, other, listed, otherIndex, looted⟩
  cases isList.symm.trans isOthers
  have same : other = entry := List.inj_on_of_nodup_map (distinct guid entries isList) listed
    (List.mem_of_getElem? isElement) (otherIndex.trans atIndex.symm)
  rw [same, unlooted] at looted
  cases looted

theorem EntryLooted.assign {other : Nat} (looted : EntryLooted index other lists)
    (missing : lists.find guid = none) : EntryLooted index other (lists.assign guid entries) := by
  obtain ⟨otherEntries, isList, rest⟩ := looted
  have different : other ≠ guid := by
    grind
  refine ⟨otherEntries, ?_, rest⟩
  rw [OrdMap.find_assign, Function.update_of_ne different]
  exact isList

theorem Distinct.assign (distinct : Distinct lists)
    (nodup : (entries.map QuestItem.index).Nodup) : Distinct (lists.assign guid entries) := by
  intro other otherEntries isList
  rw [OrdMap.find_assign] at isList
  by_cases same : other = guid
  · simp_all
  · rw [Function.update_of_ne same] at isList
    exact distinct other otherEntries isList

theorem Distinct.markEntry (distinct : Distinct lists) :
    Distinct (Loot.markEntry guid position lists) := by
  unfold Loot.markEntry
  split
  · exact distinct
  · rename_i entries isList
    apply distinct.assign
    have sameIndices : (entries.modify position QuestItem.markLooted).map QuestItem.index =
        entries.map QuestItem.index := by
      apply List.ext_getElem?
      intro place
      rw [List.getElem?_map, List.getElem?_map]
      have keeps (entry : QuestItem) : entry.markLooted.index = entry.index := rfl
      exact getElem?_modify_map keeps place
    rw [sameIndices]
    exact distinct guid entries isList

end Entries

structure Evolves (before after : List LootItem) : Prop where
  freeforall : ∀ index : Nat, after[index]?.map LootItem.freeforall =
    before[index]?.map LootItem.freeforall
  looted : ∀ index : Nat, before[index]?.map LootItem.isLooted = some true →
    after[index]?.map LootItem.isLooted = some true
  empty : ∀ index : Nat, before[index]?.map LootItem.count = some 0 →
    after[index]?.map LootItem.count = some 0

theorem Evolves.refl (items : List LootItem) : Evolves items items :=
  ⟨fun _ => rfl, fun _ looted => looted, fun _ empty => empty⟩

theorem Evolves.of_fields {before after : List LootItem}
    (freeforall : ∀ index : Nat, after[index]?.map LootItem.freeforall =
      before[index]?.map LootItem.freeforall)
    (looted : ∀ index : Nat, after[index]?.map LootItem.isLooted =
      before[index]?.map LootItem.isLooted)
    (empty : ∀ index : Nat, after[index]?.map LootItem.count =
      before[index]?.map LootItem.count) : Evolves before after :=
  ⟨freeforall, fun index isLooted => (looted index).trans isLooted,
    fun index isEmpty => (empty index).trans isEmpty⟩

theorem Evolves.modify (items : List LootItem) (slot : Nat) (change : LootItem → LootItem)
    (freeforall : ∀ item, (change item).freeforall = item.freeforall)
    (looted : ∀ item, item.isLooted = true → (change item).isLooted = true)
    (empty : ∀ item, item.count = 0 → (change item).count = 0) :
    Evolves items (items.modify slot change) := by
  have monotone {β : Type} (field : LootItem → β) (value : β)
      (keeps : ∀ item, field item = value → field (change item) = value) (index : Nat)
      (before : items[index]?.map field = some value) :
      (items.modify slot change)[index]?.map field = some value := by
    obtain ⟨item, isItem, isValue⟩ := Option.map_eq_some_iff.mp before
    by_cases same : slot = index <;> simp_all
  exact ⟨getElem?_modify_map freeforall, monotone LootItem.isLooted true looted,
    monotone LootItem.count 0 empty⟩

theorem Evolves.markLooted (items : List LootItem) (slot : Nat) :
    Evolves items (items.modify slot LootItem.markLooted) :=
  .modify items slot _ (fun _ => rfl) (fun _ _ => rfl) fun _ empty => empty

namespace Loot

def Shared (loot : Loot) : Good → Prop
  | .item slot => loot.items[slot]?.map LootItem.freeforall = some false
  | .quest index => loot.questItems[index]?.map LootItem.freeforall = some false
  | .currency _ => True

/-- What shows that a player cannot get a good any more; currencies leave no trace. -/
def Recorded (loot : Loot) (guid : Nat) : Good → Prop
  | .item slot =>
    loot.items[slot]?.map LootItem.freeforall = some false ∧
        loot.items[slot]?.map LootItem.isLooted = some true ∨
      loot.items[slot]?.map LootItem.freeforall = some true ∧
        (loot.items[slot]?.map LootItem.count = some 0 ∨ EntryLooted slot guid loot.playerFFAItems)
  | .quest index =>
    loot.questItems[index]?.map LootItem.freeforall = some false ∧
        loot.questItems[index]?.map LootItem.isLooted = some true ∨
      loot.questItems[index]?.map LootItem.freeforall = some true ∧
        EntryLooted index guid loot.playerQuestItems
  | .currency _ => True

structure Extends (before after : Loot) : Prop where
  items : Evolves before.items after.items
  questItems : Evolves before.questItems after.questItems
  ffa : ∀ index guid, EntryLooted index guid before.playerFFAItems →
    EntryLooted index guid after.playerFFAItems
  quest : ∀ index guid, EntryLooted index guid before.playerQuestItems →
    EntryLooted index guid after.playerQuestItems

variable {before after loot : Loot} {good : Good} {guid other : Nat}

theorem Extends.refl (loot : Loot) : loot.Extends loot :=
  ⟨.refl _, .refl _, fun _ _ looted => looted, fun _ _ looted => looted⟩

theorem Extends.shared (grows : before.Extends after) : after.Shared good ↔ before.Shared good := by
  cases good with
  | item slot =>
    simp [Shared, grows.items.freeforall]
  | quest index =>
    simp [Shared, grows.questItems.freeforall]
  | currency row => exact Iff.rfl

theorem Extends.recorded (grows : before.Extends after) (recorded : before.Recorded guid good) :
    after.Recorded guid good := by
  cases good with
  | item slot =>
    unfold Recorded at recorded ⊢
    dsimp only at recorded ⊢
    rw [grows.items.freeforall]
    rcases recorded with ⟨shared, looted⟩ | ⟨freeforall, empty | looted⟩
    · exact Or.inl ⟨shared, grows.items.looted slot looted⟩
    · exact Or.inr ⟨freeforall, Or.inl (grows.items.empty slot empty)⟩
    · exact Or.inr ⟨freeforall, Or.inr (grows.ffa slot guid looted)⟩
  | quest index =>
    unfold Recorded at recorded ⊢
    dsimp only at recorded ⊢
    rw [grows.questItems.freeforall]
    rcases recorded with ⟨shared, looted⟩ | ⟨freeforall, looted⟩
    · exact Or.inl ⟨shared, grows.questItems.looted index looted⟩
    · exact Or.inr ⟨freeforall, grows.quest index guid looted⟩
  | currency row => exact trivial

theorem Recorded.of_shared (shared : loot.Shared good) (recorded : loot.Recorded other good) :
    loot.Recorded guid good := by
  cases good with
  | item slot =>
    rcases recorded with isRecorded | ⟨freeforall, _⟩
    · exact Or.inl isRecorded
    · cases freeforall.symm.trans shared
  | quest index =>
    rcases recorded with isRecorded | ⟨freeforall, _⟩
    · exact Or.inl isRecorded
    · cases freeforall.symm.trans shared
  | currency row => exact trivial

section Changes

variable {items : List LootItem} {allowed : LootItem → Bool} {index shown slot : Nat}
  {looter : Looter} {item : LootItem} {found : Found}

theorem Extends.modify (change : LootItem → LootItem)
    (freeforall : ∀ item, (change item).freeforall = item.freeforall)
    (looted : ∀ item, item.isLooted = true → (change item).isLooted = true)
    (empty : ∀ item, item.count = 0 → (change item).count = 0) :
    loot.Extends { loot with items := loot.items.modify slot change } :=
  ⟨.modify loot.items slot change freeforall looted empty, .refl _, fun _ _ looted => looted,
    fun _ _ looted => looted⟩

theorem extends_markFound : loot.Extends (loot.markFound guid item found) := by
  have items (slot : Nat) : Evolves loot.items
      (if item.freeforall then loot.items else loot.items.modify slot .markLooted) := by
    split
    · exact .refl _
    · exact .markLooted loot.items slot
  cases found with
  | quest position index =>
    refine ⟨.refl _, ?_, fun _ _ looted => looted, fun _ _ looted => looted.markEntry⟩
    dsimp only [markFound]
    split
    · exact .refl _
    · exact .markLooted loot.questItems index
  | ffa slot position =>
    exact ⟨items slot, .refl _, fun _ _ looted => looted.markEntry, fun _ _ looted => looted⟩
  | conditional slot position =>
    exact ⟨items slot, .refl _, fun _ _ looted => looted, fun _ _ looted => looted⟩
  | plain slot =>
    exact ⟨items slot, .refl _, fun _ _ looted => looted, fun _ _ looted => looted⟩

theorem Lists.nodup {change : LootItem → LootItem} {after : List LootItem}
    {entries : List QuestItem} (lists : Lists change index items after entries) :
    (entries.map QuestItem.index).Nodup := by
  induction lists with
  | stop => exact List.nodup_nil
  | pass _ ih => exact ih
  | list later ih =>
    rw [List.map_cons, List.nodup_cons]
    refine ⟨fun listed => ?_, ih⟩
    obtain ⟨entry, member, same⟩ := List.mem_map.mp listed
    obtain ⟨_, offset, _, atIndex, _⟩ := later.changed member
    dsimp only at same
    omega

structure DistinctLists (loot : Loot) : Prop where
  ffa : Distinct loot.playerFFAItems
  quest : Distinct loot.playerQuestItems

theorem DistinctLists.markFound (distinct : loot.DistinctLists) :
    (loot.markFound guid item found).DistinctLists := by
  cases found with
  | quest position index => exact ⟨distinct.ffa, distinct.quest.markEntry⟩
  | ffa slot position => exact ⟨distinct.ffa.markEntry, distinct.quest⟩
  | conditional slot position => exact ⟨distinct.ffa, distinct.quest⟩
  | plain slot => exact ⟨distinct.ffa, distinct.quest⟩

theorem Extends.trans {first second third : Loot} (earlier : first.Extends second)
    (later : second.Extends third) : first.Extends third where
  items :=
    ⟨fun index => (later.items.freeforall index).trans (earlier.items.freeforall index),
      fun index looted => later.items.looted index (earlier.items.looted index looted),
      fun index empty => later.items.empty index (earlier.items.empty index empty)⟩
  questItems :=
    ⟨fun index => (later.questItems.freeforall index).trans (earlier.questItems.freeforall index),
      fun index looted => later.questItems.looted index (earlier.questItems.looted index looted),
      fun index empty => later.questItems.empty index (earlier.questItems.empty index empty)⟩
  ffa index guid looted := later.ffa index guid (earlier.ffa index guid looted)
  quest index guid looted := later.quest index guid (earlier.quest index guid looted)

theorem fillLists_records (looter : Looter) (distinct : loot.DistinctLists) :
    loot.Extends (loot.fillLists looter) ∧ (loot.fillLists looter).DistinctLists := by
  refine fillLists_keeps (fun filled => loot.Extends filled ∧ filled.DistinctLists)
    ⟨.refl loot, distinct⟩ ?_ ?_ ?_
  · rintro before ⟨grows, apart⟩ missing
    unfold fillQuestLoot
    split
    · exact ⟨grows, apart⟩
    · dsimp only
      split
      · exact ⟨grows, apart⟩
      · rename_i entry rest isList
        constructor
        · refine grows.trans ⟨.refl _, ?_, fun _ _ looted => looted,
            fun _ _ looted => looted.assign missing⟩
          exact .of_fields (listQuest_lists.field fun _ => rfl) (listQuest_lists.field fun _ => rfl)
            (listQuest_lists.field fun _ => rfl)
        · refine ⟨apart.ffa, apart.quest.assign ?_⟩
          rw [← isList]
          exact listQuest_lists.nodup
  · rintro before ⟨grows, apart⟩ missing
    unfold fillFFALoot
    split
    · exact ⟨grows, apart⟩
    · rename_i entry rest isList
      constructor
      · exact grows.trans ⟨.refl _, .refl _, fun _ _ looted => looted.assign missing,
          fun _ _ looted => looted⟩
      · refine ⟨apart.ffa.assign ?_, apart.quest⟩
        rw [← isList]
        exact listFFA_lists.nodup
  · rintro before ⟨grows, apart⟩ _
    unfold fillNonQuestNonFFAConditionalLoot
    dsimp only
    split
    · exact ⟨grows, apart⟩
    · constructor
      · refine grows.trans ⟨?_, .refl _, fun _ _ looted => looted, fun _ _ looted => looted⟩
        exact .of_fields (listConditional_lists.field fun _ => rfl) (listConditional_lists.field fun _ => rfl)
          (listConditional_lists.field fun _ => rfl)
      · exact ⟨apart.ffa, apart.quest⟩

end Changes

end Loot

end DarkCore.Looting
