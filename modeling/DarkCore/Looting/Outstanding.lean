/-
What is left of a loot to be handed out, counted from the flags of its items
and of the lists of the players, and how filling the lists and marking an item
changes it.
-/

import DarkCore.Lib.Positions
import DarkCore.Looting.Loot

namespace DarkCore.Looting

open Lib

namespace LootItem

def left (item : LootItem) : Bool :=
  !item.isLooted && !item.freeforall && (item.conditions.isEmpty || item.isCounted)

def questLeft (item : LootItem) : Bool := !item.isLooted && !item.freeforall && item.isBlocked

end LootItem

namespace Loot

variable {loot : Loot} {guid slot position index : Nat} {item : LootItem} {found : Found}

def questFFALeft (questItems : List LootItem) (entry : QuestItem) : Bool :=
  !entry.isLooted &&
    match questItems[entry.index]? with
    | none => false
    | some item => item.freeforall

def entriesLeft (lists : OrdMap Nat (List QuestItem)) (test : QuestItem → Bool) : Nat :=
  lists.total fun entries => entries.countP test

/-- One for each shared item that is left, and one for each player and each item that is free for
all and that he has not looted -/
def outstanding (loot : Loot) : Nat :=
  loot.items.countP LootItem.left + loot.questItems.countP LootItem.questLeft +
    entriesLeft loot.playerFFAItems (fun entry => !entry.isLooted) +
    entriesLeft loot.playerQuestItems (questFFALeft loot.questItems)

def Finds (guid slot : Nat) (item : LootItem) (loot : Loot) : Found → Prop
  | .quest position index =>
    loot.questItems[index]? = some item ∧ ∃ entries entry,
      loot.playerQuestItems.find guid = some entries ∧ entries[position]? = some entry ∧
        entry.index = index ∧ entry.isLooted = false
  | .ffa found position =>
    found = slot ∧ loot.items[slot]? = some item ∧ item.freeforall = true ∧ ∃ entries entry,
      loot.playerFFAItems.find guid = some entries ∧ entries[position]? = some entry ∧
        entry.index = slot ∧ entry.isLooted = false
  | .conditional found position =>
    found = slot ∧ loot.items[slot]? = some item ∧ item.freeforall = false ∧
      item.conditions.isEmpty = false ∧ ∃ entries entry,
        loot.playerNonQuestNonFFAConditionalItems.find guid = some entries ∧
          entries[position]? = some entry ∧ entry.index = slot ∧ entry.isLooted = false
  | .plain found => found = slot ∧ loot.items[slot]? = some item ∧ item.isLooted = false

theorem findEntry_some {lists : OrdMap Nat (List QuestItem)} {entry : QuestItem}
    (isFound : findEntry slot guid lists = some (position, entry)) :
    ∃ entries, lists.find guid = some entries ∧ entries[position]? = some entry ∧
      entry.index = slot := by
  unfold findEntry at isFound
  split at isFound
  · cases isFound
  · rename_i entries isList
    split at isFound
    · cases isFound
    · rename_i place isPlace
      obtain ⟨other, isOther, same⟩ := Option.map_eq_some_iff.mp isFound
      cases same
      obtain ⟨within, test, _⟩ := List.findIdx?_eq_some_iff_getElem.mp isPlace
      rw [List.getElem?_eq_getElem within] at isOther
      cases isOther
      exact ⟨entries, isList, List.getElem?_eq_getElem within, of_decide_eq_true test⟩

theorem free_of_not_refused {isQuest isBlocked : Bool}
    (notRefused : ¬ (!isQuest && isBlocked) = true) : isQuest = true ∨ isBlocked = false := by
  cases isQuest with
  | true => exact Or.inl rfl
  | false => exact Or.inr (by simpa using notRefused)

theorem lootItemInSlot_finds (isFound : loot.lootItemInSlot slot guid = some (item, found)) :
    loot.Finds guid slot item found := by
  unfold lootItemInSlot at isFound
  split at isFound
  · split at isFound
    · cases isFound
    · rename_i entry isEntry
      obtain ⟨entries, isList, isElement⟩ := Option.bind_eq_some_iff.mp isEntry
      split at isFound
      · cases isFound
      · rename_i unlooted
        obtain ⟨other, isOther, same⟩ := Option.map_eq_some_iff.mp isFound
        cases same
        exact ⟨isOther, entries, entry, isList, isElement, rfl, by simpa using unlooted⟩
  · split at isFound
    · cases isFound
    · rename_i other isOther
      split at isFound
      · rename_i freeforall
        split at isFound
        · split at isFound
          · cases isFound
          · rename_i unlooted
            cases isFound
            exact ⟨rfl, isOther, by simpa using unlooted⟩
        · rename_i place entry isEntry
          split at isFound
          · cases isFound
          · rename_i unlooted
            cases isFound
            obtain ⟨entries, isList, isElement, atSlot⟩ := findEntry_some isEntry
            exact ⟨rfl, isOther, freeforall, entries, entry, isList, isElement, atSlot,
              by simpa using unlooted⟩
      · rename_i shared
        split at isFound
        · rename_i conditional
          split at isFound
          · split at isFound
            · cases isFound
            · rename_i unlooted
              cases isFound
              exact ⟨rfl, isOther, by simpa using unlooted⟩
          · rename_i place entry isEntry
            split at isFound
            · cases isFound
            · rename_i unlooted
              cases isFound
              obtain ⟨entries, isList, isElement, atSlot⟩ := findEntry_some isEntry
              exact ⟨rfl, isOther, by simpa using shared, by simpa using conditional, entries,
                entry, isList, isElement, atSlot, by simpa using unlooted⟩
        · split at isFound
          · cases isFound
          · rename_i unlooted
            cases isFound
            exact ⟨rfl, isOther, by simpa using unlooted⟩

theorem entriesLeft_markEntry {lists : OrdMap Nat (List QuestItem)} {entries : List QuestItem}
    {entry : QuestItem} (test : QuestItem → Bool) (isList : lists.find guid = some entries)
    (isElement : entries[position]? = some entry) (marked : test entry.markLooted = false) :
    entriesLeft (markEntry guid position lists) test + (if test entry then 1 else 0) =
      entriesLeft lists test := by
  have assigned := @OrdMap.total_assign _ _ _ lists guid
    (entries.modify position QuestItem.markLooted) fun entries => entries.countP test
  have counted := countP_modify QuestItem.markLooted test isElement
  rw [isList, Option.elim_some] at assigned
  rw [marked, if_neg Bool.false_ne_true, Nat.add_zero] at counted
  unfold entriesLeft markEntry
  rw [isList]
  dsimp only
  omega

theorem questFFALeft_congr {before after : List LootItem}
    (same : ∀ index : Nat, after[index]?.map LootItem.freeforall =
      before[index]?.map LootItem.freeforall) :
    questFFALeft after = questFFALeft before := by
  funext entry
  unfold questFFALeft
  have sameItem := same entry.index
  congr 1
  cases isAfter : after[entry.index]? with
  | none =>
    grind
  | some changed =>
    grind

theorem outstanding_modify (change : LootItem → LootItem) (isItem : loot.items[slot]? = some item) :
    outstanding { loot with items := loot.items.modify slot change } +
        (if item.left then 1 else 0) =
      loot.outstanding + if (change item).left then 1 else 0 := by
  have counted := countP_modify change LootItem.left isItem
  unfold outstanding
  dsimp only
  omega

theorem left_markLooted : item.markLooted.left = false := rfl

theorem questLeft_markLooted : item.markLooted.questLeft = false := rfl

theorem outstanding_markLooted (isItem : loot.items[slot]? = some item) :
    outstanding { loot with items := loot.items.modify slot .markLooted } +
        (if item.left then 1 else 0) = loot.outstanding := by
  have modified := outstanding_modify LootItem.markLooted isItem
  rw [left_markLooted, if_neg Bool.false_ne_true, Nat.add_zero] at modified
  exact modified

/-- What `StoreLootItem` takes out of the outstanding hand-outs -/
def Found.takes (item : LootItem) : Found → Bool
  | .quest _ _ => item.freeforall || item.questLeft
  | .ffa _ _ => true
  | .conditional _ _ => item.left
  | .plain _ => item.left

theorem outstanding_markFound (finds : loot.Finds guid slot item found) :
    (loot.markFound guid item found).outstanding + (if found.takes item then 1 else 0) =
      loot.outstanding := by
  cases found with
  | quest position index =>
    obtain ⟨isItem, entries, entry, isList, isElement, atIndex, unlooted⟩ := finds
    have marked : questFFALeft loot.questItems entry.markLooted = false := rfl
    have taken := entriesLeft_markEntry _ isList isElement marked
    have isFFA : questFFALeft loot.questItems entry = item.freeforall := by
      simp [questFFALeft, unlooted, atIndex, isItem]
    rw [isFFA] at taken
    unfold markFound Found.takes
    cases freeforall : item.freeforall with
    | true =>
      grind [outstanding]
    | false =>
      have counted := countP_modify LootItem.markLooted LootItem.questLeft isItem
      have sameFFA : questFFALeft (loot.questItems.modify index .markLooted) =
          questFFALeft loot.questItems := questFFALeft_congr (getElem?_modify_map fun _ => rfl)
      rw [freeforall, if_neg Bool.false_ne_true, Nat.add_zero] at taken
      rw [questLeft_markLooted, if_neg Bool.false_ne_true, Nat.add_zero] at counted
      unfold outstanding
      dsimp only
      rw [if_neg Bool.false_ne_true, Bool.false_or, sameFFA]
      omega
  | ffa found position =>
    obtain ⟨_, _, freeforall, entries, entry, isList, isElement, _, unlooted⟩ := finds
    have marked : (!entry.markLooted.isLooted) = false := rfl
    have taken := entriesLeft_markEntry (fun entry => !entry.isLooted) isList isElement marked
    rw [unlooted, Bool.not_false, if_pos rfl] at taken
    unfold markFound Found.takes outstanding
    dsimp only
    rw [if_pos freeforall, if_pos rfl]
    omega
  | conditional found position =>
    obtain ⟨atSlot, isItem, shared, _⟩ := finds
    subst atSlot
    unfold markFound Found.takes
    dsimp only
    rw [shared, if_neg Bool.false_ne_true]
    exact outstanding_markLooted isItem
  | plain found =>
    obtain ⟨atSlot, isItem, _⟩ := finds
    subst atSlot
    unfold markFound Found.takes
    dsimp only
    cases freeforall : item.freeforall with
    | true =>
      have notLeft : item.left = false := by
        simp [LootItem.left, freeforall, Bool.not_true, Bool.and_false, Bool.false_and]
      rw [if_pos rfl, notLeft]
      rfl
    | false =>
      rw [if_neg Bool.false_ne_true]
      exact outstanding_markLooted isItem

section Filling

variable {items : List LootItem} {allowed : LootItem → Bool} {shown : Nat} {entry : QuestItem}
  {looter : Looter}

/-- A walk over the items from `index` on that changes the items it lists. -/
inductive Lists (change : LootItem → LootItem) :
    Nat → List LootItem → List LootItem → List QuestItem → Prop
  | stop (index : Nat) (items : List LootItem) : Lists change index items items []
  | pass {index : Nat} {item : LootItem} {rest after : List LootItem} {entries : List QuestItem}
      (later : Lists change (index + 1) rest after entries) :
      Lists change index (item :: rest) (item :: after) entries
  | list {index : Nat} {item : LootItem} {rest after : List LootItem} {entries : List QuestItem}
      (later : Lists change (index + 1) rest after entries) :
      Lists change index (item :: rest) (change item :: after) ({ index := index } :: entries)

section Walks

variable {change : LootItem → LootItem} {after : List LootItem} {entries : List QuestItem}
  (lists : Lists change index items after entries)
include lists

theorem Lists.field {β : Type} {field : LootItem → β}
    (keeps : ∀ item : LootItem, field (change item) = field item) (offset : Nat) :
    after[offset]?.map field = items[offset]?.map field := by
  induction lists generalizing offset with
  | stop => rfl
  | pass _ ih =>
    cases offset with
    | zero => rfl
    | succ offset => exact ih offset
  | list _ ih =>
    cases offset with
    | zero => exact congrArg some (keeps _)
    | succ offset => exact ih offset

theorem Lists.changed (listed : entry ∈ entries) :
    entry.isLooted = false ∧ ∃ offset item, entry.index = index + offset ∧
      after[offset]? = some (change item) := by
  induction lists with
  | stop => cases listed
  | pass _ ih =>
    obtain ⟨unlooted, offset, item, isIndex, isItem⟩ := ih listed
    exact ⟨unlooted, offset + 1, item, by omega, isItem⟩
  | list _ ih =>
    rcases List.mem_cons.mp listed with rfl | inRest
    · exact ⟨rfl, 0, _, rfl, rfl⟩
    · obtain ⟨unlooted, offset, item, isIndex, isItem⟩ := ih inRest
      exact ⟨unlooted, offset + 1, item, by omega, isItem⟩

theorem Lists.marked {test : LootItem → Bool} (tests : ∀ item, test (change item) = true)
    {offset : Nat} (marked : items[offset]?.map test = some true) :
    after[offset]?.map test = some true := by
  induction lists generalizing offset with
  | stop => exact marked
  | pass _ ih =>
    cases offset with
    | zero => exact marked
    | succ offset => exact ih marked
  | list _ ih =>
    cases offset with
    | zero => exact congrArg some (tests _)
    | succ offset => exact ih marked

end Walks

theorem listFFA_lists : Lists id index items items (listFFA allowed items index) := by
  induction items generalizing index with
  | nil => exact .stop index []
  | cons item rest ih =>
    unfold listFFA
    split
    · exact .list ih
    · exact .pass ih

theorem listQuest_lists :
    Lists (fun item => { item with isBlocked := true }) index items
      (listQuest allowed items index shown).1 (listQuest allowed items index shown).2.1 := by
  induction items generalizing index shown with
  | nil => exact .stop index []
  | cons item rest ih =>
    unfold listQuest
    dsimp only
    split
    · split
      · exact .list (.stop _ rest)
      · exact .list ih
    · exact .pass ih

theorem listConditional_lists :
    Lists (fun item => { item with isCounted := true }) index items
      (listConditional allowed items index).1 (listConditional allowed items index).2.1 := by
  induction items generalizing index with
  | nil => exact .stop index []
  | cons item rest ih =>
    unfold listConditional
    split
    · exact .list ih
    · exact .pass ih

theorem listQuest_left {whole : List LootItem}
    (within : ∀ offset, whole[index + offset]?.map LootItem.freeforall =
      items[offset]?.map LootItem.freeforall) :
    (listQuest allowed items index shown).1.countP LootItem.questLeft +
        (listQuest allowed items index shown).2.1.countP (questFFALeft whole) =
      items.countP LootItem.questLeft + (listQuest allowed items index shown).2.2 := by
  induction items generalizing index shown with
  | nil => rfl
  | cons item rest ih =>
    have shifted : ∀ offset, whole[index + 1 + offset]?.map LootItem.freeforall =
        rest[offset]?.map LootItem.freeforall := by
      intro offset
      have moved := within (offset + 1)
      rw [List.getElem?_cons_succ] at moved
      rw [← moved, Nat.add_assoc, Nat.add_comm 1 offset]
    have here : questFFALeft whole { index := index } = item.freeforall := by
      have first := within 0
      rw [Nat.add_zero, List.getElem?_cons_zero, Option.map_some] at first
      obtain ⟨stored, isStored, same⟩ := Option.map_eq_some_iff.mp first
      unfold questFFALeft
      rw [isStored, Bool.not_false, Bool.true_and]
      exact same
    unfold listQuest
    dsimp only
    split
    · rename_i test
      have unlooted : item.isLooted = false := by
        have both := (Bool.and_eq_true _ _).mp test
        simpa using both.1
      -- The item is left now: either it was counted before or it is counted here.
      have counted : (if LootItem.questLeft { item with isBlocked := true } then 1 else 0) +
          (if item.freeforall then 1 else 0) = (if item.questLeft then 1 else 0) +
            if item.freeforall || !item.isBlocked then 1 else 0 := by
        grind [LootItem.questLeft]
      split
      · grind
      · have later := @ih _ (shown + 1) shifted
        dsimp only
        rw [List.countP_cons, List.countP_cons, List.countP_cons, here]
        omega
    · have later := @ih _ shown shifted
      dsimp only
      rw [List.countP_cons, List.countP_cons]
      omega

theorem listConditional_left :
    (listConditional allowed items index).1.countP LootItem.left =
      items.countP LootItem.left + (listConditional allowed items index).2.2 := by
  induction items generalizing index with
  | nil => rfl
  | cons item rest ih =>
    have later := @ih (index + 1)
    unfold listConditional
    split
    · rename_i test
      have counted : (if LootItem.left { item with isCounted := true } then 1 else 0) =
          (if item.left then 1 else 0) + if item.isCounted then 0 else 1 := by
        rw [Bool.and_eq_true, Bool.and_eq_true, Bool.and_eq_true, Bool.not_eq_true',
          Bool.not_eq_true', Bool.not_eq_true'] at test
        obtain ⟨⟨⟨unlooted, shared⟩, _⟩, conditional⟩ := test
        unfold LootItem.left
        rw [unlooted, shared, conditional]
        cases item.isCounted <;> rfl
      dsimp only
      rw [List.countP_cons, List.countP_cons]
      omega
    · grind

def Congruent (loot : Loot) : Prop := loot.unlootedCount = loot.outstanding % 256

section

variable (congruent : loot.Congruent)
include congruent

theorem Congruent.more {changed : Loot} {more : Nat}
    (counts : changed.unlootedCount = (loot.unlootedCount + more) % 256)
    (grows : changed.outstanding = loot.outstanding + more) : changed.Congruent := by
  unfold Congruent at congruent ⊢
  rw [counts, grows, congruent, Nat.mod_add_mod]

theorem fillFFALoot_congruent
    (missing : loot.playerFFAItems.find looter.guid = none) :
    (loot.fillFFALoot looter).Congruent := by
  unfold fillFFALoot
  split
  · exact congruent
  · rename_i entry rest isList
    refine congruent.more rfl ?_
    have unlooted : (entry :: rest).countP (fun entry => !entry.isLooted) =
        (entry :: rest).length := by
      rw [List.countP_eq_length]
      intro other listed
      rw [(listFFA_lists.changed (isList ▸ listed)).1]
      rfl
    have assigned := @OrdMap.total_assign _ _ _ loot.playerFFAItems looter.guid (entry :: rest)
      fun entries => entries.countP fun entry => !entry.isLooted
    rw [missing, Option.elim_none, Nat.add_zero, unlooted] at assigned
    unfold outstanding entriesLeft countMore
    dsimp only
    omega

theorem fillQuestLoot_congruent
    (missing : loot.playerQuestItems.find looter.guid = none) :
    (loot.fillQuestLoot looter).Congruent := by
  unfold fillQuestLoot
  split
  · exact congruent
  · dsimp only
    split
    · exact congruent
    · rename_i entry rest isList
      refine congruent.more rfl ?_
      have sameFFA : questFFALeft
          (listQuest looter.allowed loot.questItems 0 loot.items.length).1 =
            questFFALeft loot.questItems :=
        questFFALeft_congr (listQuest_lists.field fun _ => rfl)
      have counted := @listQuest_left 0 loot.questItems looter.allowed loot.items.length
        loot.questItems fun offset => by rw [Nat.zero_add]
      have assigned := @OrdMap.total_assign _ _ _ loot.playerQuestItems looter.guid (entry :: rest)
        fun entries => entries.countP (questFFALeft loot.questItems)
      rw [missing, Option.elim_none, Nat.add_zero] at assigned
      rw [isList] at counted
      unfold outstanding entriesLeft countMore
      dsimp only
      rw [sameFFA]
      omega

theorem fillConditionalLoot_congruent :
    (loot.fillNonQuestNonFFAConditionalLoot looter).Congruent := by
  unfold fillNonQuestNonFFAConditionalLoot
  dsimp only
  split
  · exact congruent
  · refine congruent.more rfl ?_
    have counted := @listConditional_left 0 loot.items looter.allowed
    unfold outstanding countMore
    dsimp only
    omega

end

theorem fillLists_keeps (property : Loot → Prop) (holds : property loot)
    (quest : ∀ before, property before → before.playerQuestItems.find looter.guid = none →
      property (before.fillQuestLoot looter))
    (ffa : ∀ before, property before → before.playerFFAItems.find looter.guid = none →
      property (before.fillFFALoot looter))
    (conditional : ∀ before, property before →
      before.playerNonQuestNonFFAConditionalItems.find looter.guid = none →
      property (before.fillNonQuestNonFFAConditionalLoot looter)) :
    property (loot.fillLists looter) := by
  have missing {lists : OrdMap Nat (List QuestItem)}
      (absent : ¬ (lists.find looter.guid).isSome = true) : lists.find looter.guid = none := by
    simpa using absent
  have afterQuest : property (if (loot.playerQuestItems.find looter.guid).isSome then loot
      else loot.fillQuestLoot looter) := by
    grind
  unfold fillLists
  generalize (if (loot.playerQuestItems.find looter.guid).isSome then loot
    else loot.fillQuestLoot looter) = second at afterQuest
  have afterFFA : property (if (second.playerFFAItems.find looter.guid).isSome then second
      else second.fillFFALoot looter) := by
    grind
  dsimp only
  generalize (if (second.playerFFAItems.find looter.guid).isSome then second
    else second.fillFFALoot looter) = third at afterFFA
  split
  · exact afterFFA
  · simp_all

theorem fillLists_congruent (congruent : loot.Congruent) : (loot.fillLists looter).Congruent :=
  fillLists_keeps Congruent congruent (fun _ => fillQuestLoot_congruent)
    (fun _ => fillFFALoot_congruent) fun _ before _ => fillConditionalLoot_congruent before

end Filling

end Loot

end DarkCore.Looting
