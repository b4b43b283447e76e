/-
References between loot templates. `LootTemplate::Process` follows them without
a bound and nothing at loading looks for circles (`Verify`, `CheckLootRefs`), so
it comes to an end exactly where the references that the dice can let it follow
lead into no circle.
-/

import DarkCore.LootTables.Templates

namespace DarkCore.LootTables

open Lib
open Looting (Loot LootItem)
open Relation (ReflTransGen TransGen)

theorem scanDropped_eq_nil (proto : ItemPrototype) (itemid counter : Nat)
    (items : List LootItem) : scanDropped proto itemid counter items = [] := by
  induction items generalizing counter with
  | nil => rfl
  | cons dropped rest ih => simp [scanDropped, ih]

@[simp] theorem isStopped_eq_false (source : Source) (loot : Loot) (item : LootStoreItem) :
    source.isStopped loot item = false := by
  unfold Source.isStopped
  cases source.prototypes item.itemid with
  | none => rfl
  | some proto => simp [scanDropped_eq_nil]

variable (source : Source)

/-- `Process` lets an entry outside the groups pass. -/
def Source.admits (item : LootStoreItem) : Prop := item.lootmode &&& ~~~source.lootMode = 0

instance (item : LootStoreItem) : Decidable (source.admits item) :=
  inferInstanceAs (Decidable (_ = _))

def Source.CanRoll (item : LootStoreItem) : Prop :=
  100 ≤ item.chance ∨ 0 < source.rolledChance item

instance (item : LootStoreItem) : Decidable (source.CanRoll item) :=
  inferInstanceAs (Decidable (_ ∨ _))

def lowThrow : Throw where
  chance := ⟨0, le_refl 0, by decide⟩
  place := 0
  count := 0

variable {source}

theorem Source.CanRoll.roll {item : LootStoreItem} (can : source.CanRoll item) :
    source.roll item lowThrow = true := by
  unfold Source.roll
  split
  · rfl
  · rename_i low
    exact decide_eq_true (can.resolve_left low)

theorem canRoll_of_roll {item : LootStoreItem} {throw : Throw}
    (rolled : source.roll item throw = true) : source.CanRoll item := by
  unfold Source.roll at rolled
  split at rolled
  · rename_i sure
    exact Or.inl sure
  · exact Or.inr (lt_of_le_of_lt throw.chance.nonneg (of_decide_eq_true rolled))

section Rounds

variable {dice : Nat → Throw} {item : LootStoreItem} {loot : Loot}

theorem performEntry_passed (passed : ¬ source.admits item ∨ source.roll item (dice 0) = false) :
    source.performEntry dice item loot = (loot, []) := by
  unfold Source.performEntry
  by_cases admitted : source.admits item
  · have missed := passed.resolve_left (not_not.mpr admitted)
    rw [if_neg (not_not.mpr (show item.lootmode &&& ~~~source.lootMode = 0 from admitted)),
      if_pos missed]
  · exact if_pos admitted

theorem performEntry_drawn (admitted : source.admits item)
    (rolled : source.roll item (dice 0) = true) :
    source.performEntry dice item loot =
      if item.mincountOrRef < 0 then
        match source.referenced item with
        | none => (loot, [])
        | some referenced =>
          (loot, List.replicate (source.repeats item) (.process referenced item.group))
      else (source.addItem loot item (dice 0), []) := by
  unfold Source.performEntry
  rw [if_neg (not_not.mpr (show item.lootmode &&& ~~~source.lootMode = 0 from admitted)),
    if_neg (by rw [rolled]; decide)]
  exact if_neg (by rw [isStopped_eq_false]; decide)

theorem performEntry_cases (dice : Nat → Throw) (item : LootStoreItem) (loot : Loot) :
    source.performEntry dice item loot = (loot, []) ∨
    (source.admits item ∧ source.roll item (dice 0) = true ∧ item.mincountOrRef < 0 ∧
      ∃ referenced, source.referenced item = some referenced ∧ source.performEntry dice item loot =
          (loot, List.replicate (source.repeats item) (.process referenced item.group))) ∨
    (source.admits item ∧ source.roll item (dice 0) = true ∧ ¬ item.mincountOrRef < 0 ∧
      source.performEntry dice item loot = (source.addItem loot item (dice 0), [])) := by
  by_cases admitted : source.admits item
  · cases rolled : source.roll item (dice 0) with
    | false => exact Or.inl (performEntry_passed (Or.inr rolled))
    | true =>
      rw [performEntry_drawn admitted rolled]
      by_cases reference : item.mincountOrRef < 0
      · grind
      · simp_all
  · exact Or.inl (performEntry_passed (Or.inl admitted))

end Rounds

variable (source)

/-- The dice can let `Process` work off the whole template that the entry refers to. -/
structure Source.Follows (item : LootStoreItem) : Prop where
  reference : item.mincountOrRef < 0
  whole : item.group = 0
  admitted : source.admits item
  rollable : source.CanRoll item
  repeated : 0 < source.repeats item

def LeadsTo (store : LootStore) (follows : LootStoreItem → Prop) (template : LootTemplate)
    (id : Nat) : Prop :=
  ∃ item ∈ template.entries, follows item ∧ (-item.mincountOrRef).toNat = id ∧
    store.find id ≠ none

def Leads (store : LootStore) (follows : LootStoreItem → Prop) (first second : Nat) : Prop :=
  ∃ template, store.find first = some template ∧ LeadsTo store follows template second

def CircleFree (store : LootStore) (follows : LootStoreItem → Prop) (template : LootTemplate) :
    Prop :=
  ∀ first id, LeadsTo store follows template first →
    ReflTransGen (Leads store follows) first id → ¬ TransGen (Leads store follows) id id

def Source.LeadsTo (template : LootTemplate) (id : Nat) : Prop :=
  LootTables.LeadsTo source.references source.Follows template id

def Source.Leads (first second : Nat) : Prop :=
  LootTables.Leads source.references source.Follows first second

/-- The references that the dice can let `Process` follow lead from the template into no
circle. -/
def Source.CircleFree (template : LootTemplate) : Prop :=
  LootTables.CircleFree source.references source.Follows template

/-- `Process` comes to its end on every loot, however the dice fall. -/
def Source.Terminates (template : LootTemplate) : Prop :=
  ∀ loot (dice : Nat → Nat → Throw),
    ∃ steps, (reached source.next (template.filling loot) dice steps).tasks = []

variable {source}

theorem reachable_finite (store : LootStore) (follows : LootStoreItem → Prop) (first : Nat) :
    {id | ReflTransGen (Leads store follows) first id}.Finite := by
  have keys : {id | id ∈ first :: store.entries.map Prod.fst}.Finite := List.finite_toSet _
  apply keys.subset
  intro id path
  rcases ReflTransGen.cases_tail path with same | ⟨before, _, link⟩
  · simp_all
  · obtain ⟨_, _, _, _, _, _, known⟩ := link
    exact List.mem_cons_of_mem _ (OrdMap.mem_keys.mpr known)

/-- Induction along the chains of references, which are finite: what holds of a template if it
holds of those it leads to -/
theorem CircleFree.induction {store : LootStore} {follows : LootStoreItem → Prop}
    {holds : LootTemplate → Prop}
    (step : ∀ template, (∀ id, LeadsTo store follows template id →
      ∀ next, store.find id = some next → holds next) → holds template)
    {template : LootTemplate} (free : CircleFree store follows template) : holds template := by
  apply step
  intro first leads
  have founded : Acc (fun sub id => Leads store follows id sub) first :=
    acc_of_no_circle (reachable_finite store follows first) fun id path => free first id leads path
  clear leads
  induction founded with
  | intro id _ ih =>
    intro next found
    apply step
    intro sub leads
    exact ih sub ⟨next, found, leads⟩

theorem acc_group (group : LootGroup) : Acc (Spawned source.perform) (.group group) := by
  constructor
  intro sub spawned
  obtain ⟨dice, loot, member⟩ := spawned
  exact absurd member List.not_mem_nil

theorem acc_groupReference (template : LootTemplate) {groupId : Nat} (named : groupId ≠ 0) :
    Acc (Spawned source.perform) (.process template groupId) := by
  constructor
  intro sub spawned
  obtain ⟨dice, loot, member⟩ := spawned
  simp only [Source.perform, if_pos named] at member
  split at member
  · exact absurd member List.not_mem_nil
  · rw [List.mem_singleton.mp member]
    exact acc_group _

theorem acc_entry {item : LootStoreItem}
    (below : source.Follows item → ∀ template, source.referenced item = some template →
      Acc (Spawned source.perform) (.process template 0)) :
    Acc (Spawned source.perform) (.entry item) := by
  constructor
  intro sub spawned
  obtain ⟨dice, loot, member⟩ := spawned
  change sub ∈ (source.performEntry dice item loot).2 at member
  rcases performEntry_cases dice item loot with
    passed | ⟨admitted, rolled, reference, template, found, taken⟩ | ⟨_, _, _, dropped⟩
  · rw [passed] at member
    exact absurd member List.not_mem_nil
  · rw [taken] at member
    obtain ⟨some, same⟩ := List.mem_replicate.mp member
    rw [same]
    by_cases whole : item.group = 0
    · rw [whole]
      exact below
        ⟨reference, whole, admitted, canRoll_of_roll rolled, Nat.pos_of_ne_zero some⟩
        template found
    · exact acc_groupReference template whole
  · simp_all

theorem acc_process {template : LootTemplate}
    (below : ∀ id, source.LeadsTo template id → ∀ next, source.references.find id = some next →
      Acc (Spawned source.perform) (.process next 0)) :
    Acc (Spawned source.perform) (.process template 0) := by
  constructor
  intro sub spawned
  obtain ⟨dice, loot, member⟩ := spawned
  change sub ∈ template.tasks at member
  rcases List.mem_append.mp member with entry | group
  · obtain ⟨item, listed, same⟩ := List.mem_map.mp entry
    rw [← same]
    apply acc_entry
    intro follows next found
    have known : source.references.find (-item.mincountOrRef).toNat ≠ none := by
      rw [show source.references.find (-item.mincountOrRef).toNat = some next from found]
      simp
    exact below _ ⟨item, listed, follows, rfl, known⟩ next found
  · obtain ⟨one, _, same⟩ := List.mem_map.mp group
    rw [← same]
    exact acc_group one

theorem acc_of_circleFree {template : LootTemplate} (free : source.CircleFree template) :
    Acc (Spawned source.perform) (.process template 0) :=
  CircleFree.induction (fun _ below => acc_process below) free

def Looping (source : Source) (id : Nat) : Prop :=
  ∃ last, ReflTransGen source.Leads id last ∧ TransGen source.Leads last last

theorem Looping.next {id : Nat} (looping : Looping source id) :
    ∃ sub, source.Leads id sub ∧ Looping source sub := by
  obtain ⟨last, path, circle⟩ := looping
  rcases ReflTransGen.cases_head path with same | ⟨sub, link, rest⟩
  · subst same
    obtain ⟨sub, link, rest⟩ := TransGen.head'_iff.mp circle
    exact ⟨sub, link, id, rest, circle⟩
  · exact ⟨sub, link, last, rest, circle⟩

def Endless (source : Source) : Task → Prop
  | .process template groupId =>
    groupId = 0 ∧ ∃ id, source.LeadsTo template id ∧ Looping source id
  | .entry item => source.Follows item ∧ Looping source (-item.mincountOrRef).toNat
  | .group _ => False

theorem endless_spawns (task : Task) (loot : Loot) (endless : Endless source task) :
    ∃ sub ∈ (source.perform (fun _ => lowThrow) task loot).2, Endless source sub := by
  cases task with
  | process template groupId =>
    obtain ⟨whole, id, ⟨item, listed, follows, same, _⟩, looping⟩ := endless
    refine ⟨.entry item, ?_, follows, same ▸ looping⟩
    simp only [Source.perform, whole, ne_eq, not_true_eq_false, if_false]
    exact List.mem_append_left _ (List.mem_map_of_mem listed)
  | entry item =>
    obtain ⟨follows, looping⟩ := endless
    obtain ⟨sub, ⟨template, found, leads⟩, subLooping⟩ := looping.next
    refine ⟨.process template 0, ?_, rfl, sub, leads, subLooping⟩
    have taken : source.performEntry (fun _ => lowThrow) item loot = _ :=
      performEntry_drawn follows.admitted follows.rollable.roll
    rw [if_pos follows.reference, show source.referenced item = some template from found,
      follows.whole] at taken
    change Task.process template 0 ∈ (source.performEntry (fun _ => lowThrow) item loot).2
    rw [taken]
    exact List.mem_replicate.mpr ⟨Nat.pos_iff_ne_zero.mp follows.repeated, rfl⟩
  | group group => exact absurd endless id

theorem not_terminates_of_circle {template : LootTemplate} {first id : Nat}
    (leads : source.LeadsTo template first) (path : ReflTransGen source.Leads first id)
    (circle : TransGen source.Leads id id) : ¬ source.Terminates template := by
  intro terminates
  have looping : Looping source first := ⟨id, path, circle⟩
  obtain ⟨steps, done⟩ := terminates {} fun _ _ => lowThrow
  have start : ∃ task ∈ (template.filling {}).tasks, Endless source task :=
    ⟨.process template 0, List.mem_cons_self, rfl, first, leads, looping⟩
  obtain ⟨task, member, _⟩ := reached_endless endless_spawns start steps
  change task ∈ (reached source.next (template.filling {}) (fun _ _ => lowThrow) steps).tasks
    at member
  rw [done] at member
  exact List.not_mem_nil member

/-- `Process` comes to its end for all dice exactly where the references lead into no circle. -/
theorem process_terminates_iff (source : Source) (template : LootTemplate) :
    source.Terminates template ↔ source.CircleFree template := by
  constructor
  · intro terminates first id leads path circle
    exact not_terminates_of_circle leads path circle terminates
  · intro free loot dice
    exact (clears_of_acc (acc_of_circleFree free)).ends loot dice

/-- A row of `reference_loot_template` that refers to its own template -/
def selfReferenceRow : Row where
  entry := 1
  item := 1
  chanceOrQuestChance := 100
  lootmode := 1
  groupid := 0
  mincountOrRef := -1
  maxcount := 1

def selfReferenceSource : Source where
  prototypes := fun _ => none
  references := loadLootTable (fun _ => none) [selfReferenceRow]
  lootMode := 1

/-- The loader accepts the row, and `Process` never comes back. -/
theorem selfReference_endless :
    ∃ template, selfReferenceSource.references.find 1 = some template ∧
      ¬ selfReferenceSource.Terminates template := by
  have found : selfReferenceSource.references.find 1 =
      some { entries := [selfReferenceRow.storeItem] } := by decide +kernel
  have follows : selfReferenceSource.Follows selfReferenceRow.storeItem := by
    constructor <;> decide +kernel
  have leads : selfReferenceSource.LeadsTo { entries := [selfReferenceRow.storeItem] } 1 := by
    refine ⟨_, List.mem_cons_self, follows, rfl, ?_⟩
    rw [found]
    simp
  have circle : selfReferenceSource.Leads 1 1 := ⟨_, found, leads⟩
  exact ⟨_, found, not_terminates_of_circle leads ReflTransGen.refl (TransGen.single circle)⟩

end DarkCore.LootTables
