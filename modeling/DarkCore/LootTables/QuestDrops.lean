/-
Quest drops. `HasQuestDrop` and `HasQuestDropForPlayer` look through a template,
its groups and the templates that it refers to, which they look up in the store
they are asked for, where `Process` looks them up in `LootTemplates_Reference`.
They ask for neither chances nor loot modes: they say whether an entry of the
kind is listed. What `Process` adds is always listed; of what is listed it can
add whatever the dice, the rates and the loot mode let it reach.
-/

import DarkCore.LootTables.Groups

namespace DarkCore.LootTables

open Lib
open Looting (Loot LootItem)

/-! ### The two predicates -/

section Source

variable (wanted : LootStoreItem → Bool)

def LootGroup.anyDrop (group : LootGroup) : Bool :=
  group.explicitlyChanced.any wanted || group.equalChanced.any wanted

/-- The loop over the entries; `recur` is the call for a reference. -/
def anyEntry (recur : LootTemplate → Nat → Option Bool) (store : LootStore) :
    List LootStoreItem → Option Bool
  | [] => some false
  | item :: rest =>
    if item.mincountOrRef < 0 then
      match store.find (-item.mincountOrRef).toNat with
      | none => anyEntry recur store rest
      | some referenced =>
        match recur referenced item.group with
        | none => none
        | some true => some true
        | some false => anyEntry recur store rest
    else if wanted item then some true
    else anyEntry recur store rest

/-- The predicates differ only in the entries that they look for. The first number bounds the
nesting of the calls; beyond it there is no answer. -/
def anyDrop (store : LootStore) : Nat → LootTemplate → Nat → Option Bool
  | 0, _, _ => none
  | depth + 1, template, groupId =>
    if groupId ≠ 0 then
      match template.groups[groupId - 1]? with
      | none => some false
      | some group => some (group.anyDrop wanted)
    else
      match anyEntry wanted (anyDrop store depth) store template.entries with
      | some false => some (template.groups.any fun group => group.anyDrop wanted)
      | answer => answer

end Source

def hasQuestDrop (store : LootStore) (depth : Nat) (template : LootTemplate) (groupId : Nat) :
    Option Bool :=
  anyDrop (fun item => item.needsQuest) store depth template groupId

def hasQuestDropForPlayer (hasQuestForItem : Nat → Bool) (store : LootStore) (depth : Nat)
    (template : LootTemplate) (groupId : Nat) : Option Bool :=
  anyDrop (fun item => hasQuestForItem item.itemid) store depth template groupId

def Returns (answers : Nat → Option Bool) (answer : Bool) : Prop :=
  ∃ depth, ∀ deeper, depth ≤ deeper → answers deeper = some answer

/-! ### Listed entries -/

/-- The entries that can be put into a loot by a task or by what it leads to in the store -/
inductive Lists (store : LootStore) : Task → LootStoreItem → Prop
  | whole {template : LootTemplate} {task : Task} {item : LootStoreItem}
      (listed : task ∈ template.tasks) (lists : Lists store task item) :
      Lists store (.process template 0) item
  | named {template : LootTemplate} {groupId : Nat} {group : LootGroup} {item : LootStoreItem}
      (named : groupId ≠ 0) (found : template.groups[groupId - 1]? = some group)
      (lists : Lists store (.group group) item) : Lists store (.process template groupId) item
  | entry {item : LootStoreItem} (plain : ¬ item.mincountOrRef < 0) : Lists store (.entry item) item
  | reference {item target : LootStoreItem} {next : LootTemplate}
      (reference : item.mincountOrRef < 0)
      (found : store.find (-item.mincountOrRef).toNat = some next)
      (lists : Lists store (.process next item.group) target) : Lists store (.entry item) target
  | group {group : LootGroup} {item : LootStoreItem}
      (member : item ∈ group.explicitlyChanced ++ group.equalChanced) :
      Lists store (.group group) item

def ListsSome (store : LootStore) (wanted : LootStoreItem → Bool) (task : Task) : Prop :=
  ∃ item, Lists store task item ∧ wanted item = true

section Answers

variable {store : LootStore} {wanted : LootStoreItem → Bool}

theorem anyDrop_group_iff (group : LootGroup) :
    group.anyDrop wanted = true ↔ ListsSome store wanted (.group group) := by
  unfold LootGroup.anyDrop
  rw [Bool.or_eq_true, List.any_eq_true, List.any_eq_true]
  constructor
  · rintro (⟨item, member, kind⟩ | ⟨item, member, kind⟩)
    · exact ⟨item, .group (List.mem_append_left _ member), kind⟩
    · exact ⟨item, .group (List.mem_append_right _ member), kind⟩
  · rintro ⟨item, lists, kind⟩
    cases lists with
    | group member =>
      rcases List.mem_append.mp member with left | right
      · exact Or.inl ⟨item, left, kind⟩
      · exact Or.inr ⟨item, right, kind⟩

theorem listsSome_whole_iff {template : LootTemplate} :
    ListsSome store wanted (.process template 0) ↔
      (∃ item ∈ template.entries, ListsSome store wanted (.entry item)) ∨
        ∃ group ∈ template.groups, ListsSome store wanted (.group group) := by
  constructor
  · rintro ⟨item, lists, kind⟩
    cases lists with
    | whole listed lists =>
      rcases List.mem_append.mp listed with entry | group
      · obtain ⟨one, member, same⟩ := List.mem_map.mp entry
        subst same
        exact Or.inl ⟨one, member, item, lists, kind⟩
      · obtain ⟨one, member, same⟩ := List.mem_map.mp group
        subst same
        exact Or.inr ⟨one, member, item, lists, kind⟩
    | named named => exact absurd rfl named
  · rintro (⟨one, member, item, lists, kind⟩ | ⟨one, member, item, lists, kind⟩)
    · exact ⟨item, .whole (List.mem_append_left _ (List.mem_map_of_mem member)) lists, kind⟩
    · exact ⟨item, .whole (List.mem_append_right _ (List.mem_map_of_mem member)) lists, kind⟩

theorem listsSome_named_iff {template : LootTemplate} {groupId : Nat} (named : groupId ≠ 0) :
    ListsSome store wanted (.process template groupId) ↔
      ∃ group, template.groups[groupId - 1]? = some group ∧
        ListsSome store wanted (.group group) := by
  constructor
  · rintro ⟨item, lists, kind⟩
    cases lists with
    | whole => exact absurd rfl named
    | named _ found lists => exact ⟨_, found, item, lists, kind⟩
  · rintro ⟨group, found, item, lists, kind⟩
    exact ⟨item, .named named found lists, kind⟩

theorem listsSome_plain_iff {item : LootStoreItem} (plain : ¬ item.mincountOrRef < 0) :
    ListsSome store wanted (.entry item) ↔ wanted item = true := by
  constructor
  · rintro ⟨target, lists, kind⟩
    cases lists with
    | entry => exact kind
    | reference reference => exact absurd reference plain
  · exact fun kind => ⟨item, .entry plain, kind⟩

theorem listsSome_reference_iff {item : LootStoreItem} (reference : item.mincountOrRef < 0) :
    ListsSome store wanted (.entry item) ↔
      ∃ next, store.find (-item.mincountOrRef).toNat = some next ∧
        ListsSome store wanted (.process next item.group) := by
  constructor
  · rintro ⟨target, lists, kind⟩
    cases lists with
    | entry plain => exact absurd reference plain
    | reference _ found lists => exact ⟨_, found, target, lists, kind⟩
  · rintro ⟨next, found, target, lists, kind⟩
    exact ⟨target, .reference reference found lists, kind⟩

def Tells (answers : Nat → Option Bool) (fact : Prop) : Prop :=
  ∃ answer, Returns answers answer ∧ (answer = true ↔ fact)

theorem anyEntry_tells (entries : List LootStoreItem)
    (calls : ∀ item ∈ entries, item.mincountOrRef < 0 →
      ∀ next, store.find (-item.mincountOrRef).toNat = some next →
        Tells (fun depth => anyDrop wanted store depth next item.group)
          (ListsSome store wanted (.process next item.group))) :
    Tells (fun depth => anyEntry wanted (anyDrop wanted store depth) store entries)
      (∃ item ∈ entries, ListsSome store wanted (.entry item)) := by
  induction entries with
  | nil => exact ⟨false, ⟨0, fun _ _ => rfl⟩, by simp⟩
  | cons item rest ih =>
    obtain ⟨answer, ⟨depth, later⟩, right⟩ :=
      ih fun other member => calls other (List.mem_cons_of_mem item member)
    by_cases reference : item.mincountOrRef < 0
    · have here := @listsSome_reference_iff store wanted item reference
      cases found : store.find (-item.mincountOrRef).toNat with
      | none =>
        refine ⟨answer, ⟨depth, fun deeper more => ?_⟩, by simp [here, found, right]⟩
        simp [anyEntry, reference, found, later deeper more]
      | some next =>
        obtain ⟨inner, ⟨first, called⟩, told⟩ :=
          calls item List.mem_cons_self reference next found
        cases inner with
        | true =>
          refine ⟨true, ⟨first, fun deeper more => ?_⟩, by simp [here, found, ← told]⟩
          simp [anyEntry, reference, found, called deeper more]
        | false =>
          refine ⟨answer, ⟨max first depth, fun deeper more => ?_⟩,
            by simp [here, found, ← told, right]⟩
          simp [anyEntry, reference, found, called deeper (le_of_max_le_left more),
            later deeper (le_of_max_le_right more)]
    · have here := @listsSome_plain_iff store wanted item reference
      cases kind : wanted item with
      | true =>
        exact ⟨true, ⟨0, fun _ _ => by simp [anyEntry, reference, kind]⟩, by simp [here, kind]⟩
      | false =>
        refine ⟨answer, ⟨depth, fun deeper more => ?_⟩, by simp [here, kind, right]⟩
        simp [anyEntry, reference, kind, later deeper more]

theorem anyDrop_named (template : LootTemplate) {groupId : Nat} (named : groupId ≠ 0) :
    Tells (fun depth => anyDrop wanted store depth template groupId)
      (ListsSome store wanted (.process template groupId)) := by
  have listed := @listsSome_named_iff store wanted template groupId named
  cases found : template.groups[groupId - 1]? with
  | none =>
    refine ⟨false, ⟨1, fun deeper more => ?_⟩, by simp [listed, found]⟩
    obtain ⟨depth, rfl⟩ := Nat.exists_eq_add_of_le' more
    simp [anyDrop, named, found]
  | some group =>
    refine ⟨group.anyDrop wanted, ⟨1, fun deeper more => ?_⟩,
      by simp [listed, found, @anyDrop_group_iff store]⟩
    obtain ⟨depth, rfl⟩ := Nat.exists_eq_add_of_le' more
    simp [anyDrop, named, found]

def CallsWhole (item : LootStoreItem) : Prop := item.mincountOrRef < 0 ∧ item.group = 0

theorem anyDrop_tells {template : LootTemplate} (free : CircleFree store CallsWhole template) :
    Tells (fun depth => anyDrop wanted store depth template 0)
      (ListsSome store wanted (.process template 0)) := by
  refine @CircleFree.induction store CallsWhole (fun template =>
    Tells (fun depth => anyDrop wanted store depth template 0)
      (ListsSome store wanted (.process template 0))) ?_ template free
  intro template below
  obtain ⟨answer, ⟨depth, later⟩, right⟩ := @anyEntry_tells store wanted template.entries (by
    intro item member reference next found
    by_cases whole : item.group = 0
    · rw [whole]
      exact below _ ⟨item, member, ⟨reference, whole⟩, rfl, by simp [found]⟩ next found
    · exact anyDrop_named next whole)
  have groups : (template.groups.any fun group => group.anyDrop wanted) = true ↔
      ∃ group ∈ template.groups, ListsSome store wanted (.group group) := by
    rw [List.any_eq_true]
    simp only [@anyDrop_group_iff store]
  refine ⟨answer || template.groups.any fun group => group.anyDrop wanted,
    ⟨depth + 1, fun deeper more => ?_⟩, ?_⟩
  · obtain ⟨more', rfl⟩ := Nat.exists_eq_add_of_le' (Nat.le_of_add_left_le more)
    have answered := later more' (by omega)
    cases answer <;> simp [anyDrop, answered]
  · rw [Bool.or_eq_true, listsSome_whole_iff, groups, right]

end Answers

/-! ### What Process adds is listed -/

section Process

variable {source : Source}

theorem perform_lists {dice : Nat → Throw} {task sub : Task} {loot : Loot} {item : LootStoreItem}
    (spawned : sub ∈ (source.perform dice task loot).2)
    (lists : Lists source.references sub item) : Lists source.references task item := by
  cases task with
  | process template groupId =>
    simp only [Source.perform] at spawned
    by_cases named : groupId ≠ 0
    · rw [if_pos named] at spawned
      cases found : template.groups[groupId - 1]? with
      | none =>
        simp_all
      | some group =>
        rw [found] at spawned
        rw [List.mem_singleton.mp spawned] at lists
        exact .named named found lists
    · rw [if_neg named] at spawned
      rw [not_not.mp named]
      exact .whole spawned lists
  | entry one =>
    simp only [Source.perform] at spawned
    rcases @performEntry_cases source dice one loot with
      passed | ⟨_, _, reference, next, found, taken⟩ | ⟨_, _, _, added⟩
    · simp_all
    · rw [taken] at spawned
      rw [(List.mem_replicate.mp spawned).2] at lists
      exact .reference reference found lists
    · simp_all
  | group group => exact absurd spawned List.not_mem_nil

theorem perform_adds (dice : Nat → Throw) (task : Task) (loot : Loot) :
    (source.perform dice task loot).1 = loot ∨
    ∃ item throw, Lists source.references task item ∧
      (source.perform dice task loot).1 = source.addItem loot item throw := by
  cases task with
  | process template groupId =>
    grind [Source.perform]
  | entry one =>
    simp only [Source.perform]
    rcases @performEntry_cases source dice one loot with
      passed | ⟨_, _, _, _, _, taken⟩ | ⟨_, _, plain, added⟩
    · exact Or.inl (by rw [passed])
    · exact Or.inl (by rw [taken])
    · exact Or.inr ⟨one, dice 0, .entry plain, by rw [added]⟩
  | group group =>
    rcases @processGroup_cases source dice group loot with
      same | ⟨item, member, _, _, throw, added⟩
    · exact Or.inl same
    · exact Or.inr ⟨item, throw, .group member, added⟩

theorem foldl_added {only : LootStoreItem → Prop} {good : Loot → Prop}
    (adds : ∀ loot item throw, only item → good loot → good (source.addItem loot item throw))
    (inputs : List (Nat → Throw)) {work : Worklist Loot Task} (start : good work.state)
    (tasks : ∀ task ∈ work.tasks, ∀ item, Lists source.references task item → only item) :
    good (inputs.foldl source.next work).state := by
  have keeps (dice : Nat → Throw) (task : Task) (loot : Loot)
      (kind : ∀ item, Lists source.references task item → only item) (before : good loot) :
      good (source.perform dice task loot).1 ∧
        ∀ sub ∈ (source.perform dice task loot).2,
          ∀ item, Lists source.references sub item → only item := by
    constructor
    · rcases perform_adds dice task loot with same | ⟨item, throw, lists, added⟩
      · rw [same]
        exact before
      · simp_all
    · intro sub spawned item lists
      exact kind item (perform_lists spawned lists)
  exact (foldl_keeps keeps inputs start tasks).1

/-! ### Two stores -/

/-- The ids that a task refers to, at any depth of the store -/
inductive Refers (store : LootStore) : Task → Nat → Prop
  | whole {template : LootTemplate} {task : Task} {id : Nat} (listed : task ∈ template.tasks)
      (refers : Refers store task id) : Refers store (.process template 0) id
  | here {item : LootStoreItem} (reference : item.mincountOrRef < 0) :
      Refers store (.entry item) (-item.mincountOrRef).toNat
  | there {item : LootStoreItem} {next : LootTemplate} {id : Nat}
      (reference : item.mincountOrRef < 0)
      (found : store.find (-item.mincountOrRef).toNat = some next)
      (refers : Refers store (.process next item.group) id) : Refers store (.entry item) id

theorem Lists.transfer {first second : LootStore} {task : Task} {item : LootStoreItem}
    (lists : Lists first task item)
    (alike : ∀ id, Refers first task id → second.find id = first.find id) :
    Lists second task item := by
  induction lists with
  | whole listed _ ih => exact .whole listed (ih fun id refers => alike id (.whole listed refers))
  | named named found _ ih => exact .named named found (ih fun id refers => by cases refers)
  | entry plain => exact .entry plain
  | reference reference found _ ih =>
    exact .reference reference ((alike _ (.here reference)).trans found)
      (ih fun id refers => alike id (.there reference found refers))
  | group member => exact .group member

/-! ### What is listed and droppable can be added -/

variable (source : Source)

/-- Entries that some dice let a task come to -/
inductive Source.Droppable : Task → LootStoreItem → Prop
  | whole {template : LootTemplate} {task : Task} {item : LootStoreItem}
      (listed : task ∈ template.tasks) (droppable : Source.Droppable task item) :
      Source.Droppable (.process template 0) item
  | named {template : LootTemplate} {groupId : Nat} {group : LootGroup} {item : LootStoreItem}
      (named : groupId ≠ 0) (found : template.groups[groupId - 1]? = some group)
      (droppable : Source.Droppable (.group group) item) :
      Source.Droppable (.process template groupId) item
  | entry {item : LootStoreItem} (plain : ¬ item.mincountOrRef < 0)
      (admitted : source.admits item) (rollable : source.CanRoll item) :
      Source.Droppable (.entry item) item
  | reference {item target : LootStoreItem} {next : LootTemplate}
      (reference : item.mincountOrRef < 0) (admitted : source.admits item)
      (rollable : source.CanRoll item) (repeated : 0 < source.repeats item)
      (found : source.referenced item = some next)
      (droppable : Source.Droppable (.process next item.group) target) :
      Source.Droppable (.entry item) target
  | group {group : LootGroup} {item : LootStoreItem} {throw : Throw}
      (attempts : (group.explicitlyChanced.length + group.equalChanced.length) % 2 ^ 8 ≠ 0)
      (drawn : group.roll throw = some item) (common : source.admitsGrouped item) :
      Source.Droppable (.group group) item

/-- A run of `Process` on an empty loot can end with a quest item in it. -/
def Source.AddsQuestItem (template : LootTemplate) (loot : Loot) : Prop :=
  ∃ inputs : List (Nat → Throw), (inputs.foldl source.next (template.filling loot)).tasks = [] ∧
    (inputs.foldl source.next (template.filling loot)).state.questItems ≠ loot.questItems

variable {source}

theorem questItems_addItem {loot : Loot} {item : LootStoreItem} (throw : Throw)
    (quest : item.needsQuest = true) : (source.addItem loot item throw).questItems ≠ [] := by
  by_cases room : HasRoom loot item
  · simp [(addItem_of_room throw room).2, quest]
  · rw [addItem_of_full throw room]
    intro none
    simp [HasRoom, quest, none, Looting.maxNrQuestItems] at room

theorem questItems_kept {loot : Loot} (item : LootStoreItem) (throw : Throw)
    (some : loot.questItems ≠ []) : (source.addItem loot item throw).questItems ≠ [] := by
  by_cases room : HasRoom loot item
  · rw [(addItem_of_room throw room).2]
    split
    · simp
    · exact some
  · rwa [addItem_of_full throw room]

def Without (itemid : Nat) (loot : Loot) : Prop := ∀ other ∈ loot.items, other.itemid ≠ itemid

theorem Without.addItem {itemid : Nat} {loot : Loot} (without : Without itemid loot)
    (item : LootStoreItem) (throw : Throw) (only : item.needsQuest = false → item.itemid ≠ itemid) :
    Without itemid (source.addItem loot item throw) := by
  by_cases room : HasRoom loot item
  · intro other member
    rw [(addItem_of_room throw room).1] at member
    cases quest : item.needsQuest with
    | true => exact without other (by simpa [quest] using member)
    | false =>
      rcases (by simpa [quest] using member : other ∈ loot.items ∨ _) with old | new
      · exact without other old
      · rw [new]
        exact only quest
  · rwa [addItem_of_full throw room]

def Source.Apart (source : Source) (itemid : Nat) (task : Task) : Prop :=
  ∀ item, Lists source.references task item → item.needsQuest = false → item.itemid ≠ itemid

theorem Source.Droppable.added {task : Task} {target : LootStoreItem}
    (droppable : source.Droppable task target) (quest : target.needsQuest = true)
    (founded : Acc (Spawned source.perform) task)
    (loot : Loot) (without : Without target.itemid loot) (rest : List Task)
    (apart : ∀ sub ∈ task :: rest, source.Apart target.itemid sub) :
    ∃ inputs : List (Nat → Throw),
      (inputs.foldl source.next ⟨loot, task :: rest⟩).state.questItems ≠ [] := by
  induction droppable generalizing loot rest with
  | @whole template task target listed _ ih =>
    obtain ⟨before, after, split⟩ := List.append_of_mem listed
    have spawned (sub : Task) (member : sub ∈ template.tasks) :
        Acc (Spawned source.perform) sub :=
      founded.inv ⟨fun _ => lowThrow, loot, member⟩
    have former : Clears source.perform before := clears_of_forall fun sub member =>
      clears_of_acc (spawned sub (by simp [split, member]))
    obtain ⟨steps, middle, reachedMiddle⟩ :=
      former loot (task :: after ++ rest) fun _ _ => lowThrow
    rw [reached_eq_foldl] at reachedMiddle
    have start : Worklist.next source.perform ⟨loot, .process template 0 :: rest⟩
        (fun _ => lowThrow) = ⟨loot, before ++ (task :: after ++ rest)⟩ := by
      rw [Worklist.next_cons, ← List.append_assoc, ← split]
      rfl
    have all (sub : Task) (member : sub ∈ before ++ (task :: after ++ rest)) :
        source.Apart target.itemid sub := by
      rw [← List.append_assoc, ← split] at member
      rcases List.mem_append.mp member with inside | later
      · exact fun item lists => apart _ List.mem_cons_self item (.whole inside lists)
      · exact apart sub (List.mem_cons_of_mem _ later)
    have kept : Without target.itemid middle := by
      have added := @foldl_added source
        (fun item => item.needsQuest = false → item.itemid ≠ target.itemid)
        (Without target.itemid)
        (fun loot item throw only without => without.addItem item throw only)
        ((List.range steps).map fun _ _ => lowThrow)
        ⟨loot, before ++ (task :: after ++ rest)⟩ without all
      change Without target.itemid (List.foldl (Worklist.next source.perform) _ _).state at added
      rwa [reachedMiddle] at added
    obtain ⟨inputs, done⟩ := ih quest (spawned task listed) middle kept (after ++ rest)
      fun sub member => all sub (List.mem_append_right before member)
    refine ⟨(fun _ => lowThrow) :: ((List.range steps).map fun _ _ => lowThrow) ++ inputs, ?_⟩
    rw [List.cons_append, List.foldl_cons, List.foldl_append]
    change
      (inputs.foldl _ (List.foldl _ (Worklist.next source.perform _ _) _)).state.questItems ≠ []
    rw [start, reachedMiddle]
    exact done
  | @named template groupId group target named found _ ih =>
    have step : Worklist.next source.perform ⟨loot, .process template groupId :: rest⟩
        (fun _ => lowThrow) = ⟨loot, .group group :: rest⟩ := by
      rw [Worklist.next_cons]
      simp [Source.perform, named, found]
    obtain ⟨inputs, done⟩ := ih quest (acc_group group) loot without rest
      (List.forall_mem_cons.mpr
        ⟨fun item lists => apart _ List.mem_cons_self item (.named named found lists),
          fun sub later => apart sub (List.mem_cons_of_mem _ later)⟩)
    exact ⟨(fun _ => lowThrow) :: inputs, by rwa [List.foldl_cons, Source.next, step]⟩
  | @entry item plain admitted rollable =>
    refine ⟨[fun _ => lowThrow], ?_⟩
    have drawn := @performEntry_drawn source (fun _ => lowThrow) item loot admitted rollable.roll
    rw [if_neg plain] at drawn
    simp only [List.foldl_cons, List.foldl_nil, Source.next, Worklist.next_cons, Source.perform,
      drawn]
    exact questItems_addItem lowThrow quest
  | @reference item target next reference admitted rollable repeated found _ ih =>
    have drawn := @performEntry_drawn source (fun _ => lowThrow) item loot admitted rollable.roll
    rw [if_pos reference, found] at drawn
    obtain ⟨more, some⟩ := Nat.exists_eq_succ_of_ne_zero repeated.ne'
    have step : Worklist.next source.perform ⟨loot, .entry item :: rest⟩ (fun _ => lowThrow) =
        ⟨loot, .process next item.group ::
          (List.replicate more (.process next item.group) ++ rest)⟩ := by
      simp [Worklist.next_cons, Source.perform, drawn, some, List.replicate_succ, List.cons_append]
    have spawned : Acc (Spawned source.perform) (.process next item.group) :=
      founded.inv ⟨fun _ => lowThrow, loot, by
        simp only [Source.perform, drawn, some, List.replicate_succ, List.mem_cons_self]⟩
    have below : source.Apart target.itemid (.process next item.group) := fun other lists =>
      apart _ List.mem_cons_self other (.reference reference found lists)
    obtain ⟨inputs, done⟩ := ih quest spawned loot without
      (List.replicate more (.process next item.group) ++ rest) (by
        rw [List.forall_mem_cons, List.forall_mem_append]
        exact ⟨below, fun sub copy => (List.eq_of_mem_replicate copy) ▸ below,
          fun sub later => apart sub (List.mem_cons_of_mem _ later)⟩)
    exact ⟨(fun _ => lowThrow) :: inputs, by rwa [List.foldl_cons, Source.next, step]⟩
  | @group group item throw attempts drawn common =>
    refine ⟨[fun _ => throw], ?_⟩
    have added := @processGroup_first source (fun _ => throw) group loot item attempts drawn
      common (isDuplicate_of_fresh without)
    simp only [List.foldl_cons, List.foldl_nil, Source.next, Worklist.next_cons, Source.perform,
      added]
    exact questItems_addItem throw quest

/-! ### When HasQuestDrop and Process agree -/

theorem listsSome_of_addsQuestItem {template : LootTemplate} {loot : Loot}
    (adds : source.AddsQuestItem template loot) :
    ListsSome source.references (fun item => item.needsQuest) (.process template 0) := by
  by_contra none
  obtain ⟨inputs, _, more⟩ := adds
  apply more
  refine @foldl_added source (fun item => ¬ item.needsQuest = true)
    (fun after => after.questItems = loot.questItems) ?_ inputs (template.filling loot) rfl ?_
  · intro before item throw ordinary same
    by_cases room : HasRoom before item
    · rw [(addItem_of_room throw room).2, if_neg ordinary]
      exact same
    · rwa [addItem_of_full throw room]
  · intro task member item lists quest
    rw [List.mem_singleton.mp member] at lists
    exact none ⟨item, lists, quest⟩

theorem addsQuestItem_of_added {template : LootTemplate} (free : source.CircleFree template)
    {inputs : List (Nat → Throw)}
    (added : (inputs.foldl source.next (template.filling {})).state.questItems ≠ []) :
    source.AddsQuestItem template {} := by
  have founded (task : Task) (member : task ∈ (inputs.foldl source.next
      (template.filling {})).tasks) : Acc (Spawned source.perform) task := by
    refine (@foldl_keeps _ _ _ source.perform (fun _ => True) (Acc (Spawned source.perform))
      ?_ inputs (template.filling {}) trivial ?_).2 task member
    · exact fun dice task loot acc _ =>
        ⟨trivial, fun sub spawned => acc.inv ⟨dice, loot, spawned⟩⟩
    · intro task member
      rw [List.mem_singleton.mp member]
      exact acc_of_circleFree free
  have clears : Clears source.perform (inputs.foldl source.next (template.filling {})).tasks :=
    clears_of_forall fun task member => clears_of_acc (founded task member)
  obtain ⟨steps, done⟩ := clears.ends (inputs.foldl source.next (template.filling {})).state
    fun _ _ => lowThrow
  rw [reached_eq_foldl] at done
  refine ⟨inputs ++ (List.range steps).map fun _ _ => lowThrow, ?_, ?_⟩
  · simp_all
  · rw [List.foldl_append]
    exact @foldl_added source (fun _ => True) (fun loot => loot.questItems ≠ [])
      (fun _ item throw _ some => questItems_kept item throw some) _ _ added
      fun _ _ _ _ => trivial

def questEntry (itemid : Nat) (lootmode : BitVec 16) : LootStoreItem where
  itemid := itemid
  chance := 100
  mincountOrRef := 1
  lootmode := lootmode
  group := 0
  needsQuest := true
  maxcount := 1

def referenceEntry : LootStoreItem :=
  { questEntry 1 1 with mincountOrRef := -1, needsQuest := false }

/-- The template 1 of `LootTemplates_Reference` lists a quest item. -/
def questSource : Source where
  prototypes := fun _ => some {}
  references := .assign .empty 1 { entries := [questEntry 7 1] }
  lootMode := 1

end Process

end DarkCore.LootTables
