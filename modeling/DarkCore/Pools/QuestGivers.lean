/-
The givers of pooled quests. `PoolGroup<Quest>::Spawn1Object` adds a quest behind
the other quests of its givers, `Despawn1Object` takes the first quest of each of
these givers away, whichever it is: the test that looks for the quest compares
the giver with itself.
-/

import DarkCore.GameEvents.QuestRelations
import DarkCore.Pools.PoolMgr

namespace DarkCore.Pools

open Lib GameEvents

/-- `PooledQuestRelation`: the id of a quest and the entry of a giver -/
abbrev PooledQuestRelation := MultiMap Nat Nat

/-- `mQuestCreatureRelation` and `mQuestGORelation` -/
structure PooledQuests where
  creature : PooledQuestRelation
  gameObject : PooledQuestRelation

structure QuestGivers where
  creature : QuestRelations
  gameObject : QuestRelations

/-- One of the two loops of `Spawn1Object` -/
def addQuest (pooled : PooledQuestRelation) (questId : Nat) (questMap : QuestRelations) :
    QuestRelations :=
  (pooled.equalRange questId).foldl (fun questMap entry => questMap.insert entry.2 entry.1)
    questMap

/-- One of the two loops of `Despawn1Object`: in the range of the giver the first relation that
passes the test is erased. -/
def takeQuest (pooled : PooledQuestRelation) (questId : Nat) (questMap : QuestRelations) :
    QuestRelations :=
  (pooled.equalRange questId).foldl
    (fun questMap entry => questMap.eraseFirst entry.2 fun relation => relation.1 == entry.2)
    questMap

/-- `PoolGroup<Quest>::Spawn1Object` -/
def spawn1Quest (pooled : PooledQuests) (questId : Nat) (givers : QuestGivers) : QuestGivers where
  creature := addQuest pooled.creature questId givers.creature
  gameObject := addQuest pooled.gameObject questId givers.gameObject

/-- `PoolGroup<Quest>::Despawn1Object` -/
def despawn1Quest (pooled : PooledQuests) (questId : Nat) (givers : QuestGivers) :
    QuestGivers where
  creature := takeQuest pooled.creature questId givers.creature
  gameObject := takeQuest pooled.gameObject questId givers.gameObject

def QuestGivers.Same (givers before : QuestGivers) : Prop :=
  givers.creature.entries.Perm before.creature.entries ∧
    givers.gameObject.entries.Perm before.gameObject.entries

def timesGiven (pooled : PooledQuestRelation) (questId giver : Nat) : Nat :=
  ((pooled.equalRange questId).filter fun entry => entry.2 = giver).length

/-- As many quests as a giver has from the pools for this quest are the quest itself, from the
first one on. -/
def GivesFirst (pooled : PooledQuestRelation) (questId : Nat) (questMap : QuestRelations) : Prop :=
  ∀ giver, ∀ quest ∈ (questMap.valuesOf giver).take (timesGiven pooled questId giver),
    quest = questId

variable {pooled : PooledQuestRelation} {questId : Nat}

theorem quest_of_mem_equalRange {entry : Nat × Nat} (listed : entry ∈ pooled.equalRange questId) :
    entry.1 = questId :=
  of_decide_eq_true (List.mem_filter.mp listed).2

theorem valuesOf_addQuest (pooled : PooledQuestRelation) (questId : Nat)
    (questMap : QuestRelations) (giver : Nat) :
    (addQuest pooled questId questMap).valuesOf giver =
      questMap.valuesOf giver ++ List.replicate (timesGiven pooled questId giver) questId := by
  have quests : ∀ entry ∈ pooled.equalRange questId, entry.1 = questId :=
    fun _ listed => quest_of_mem_equalRange listed
  unfold addQuest timesGiven
  generalize pooled.equalRange questId = listed at quests ⊢
  induction listed generalizing questMap with
  | nil => simp
  | cons entry rest ih =>
    have first := quests entry List.mem_cons_self
    have later : ∀ other ∈ rest, other.1 = questId :=
      fun other inRest => quests other (List.mem_cons_of_mem entry inRest)
    rw [List.foldl_cons, ih _ later, MultiMap.valuesOf_insert, first]
    by_cases here : entry.2 = giver
    · grind
    · rw [if_neg here, List.filter_cons_of_neg (by simpa using here), List.append_nil]

theorem valuesOf_takeQuest (pooled : PooledQuestRelation) (questId : Nat)
    (questMap : QuestRelations) (giver : Nat) :
    (takeQuest pooled questId questMap).valuesOf giver =
      (questMap.valuesOf giver).drop (timesGiven pooled questId giver) := by
  unfold takeQuest timesGiven
  generalize pooled.equalRange questId = listed
  induction listed generalizing questMap with
  | nil => simp
  | cons entry rest ih =>
    have passes : ∀ relation : Nat × Nat, relation.1 = entry.2 →
        (relation.1 == entry.2) = true := fun _ same => beq_iff_eq.mpr same
    rw [List.foldl_cons, ih, MultiMap.valuesOf_eraseFirst questMap passes]
    by_cases here : entry.2 = giver
    · simp_all
    · rw [if_neg (Ne.symm here), List.filter_cons_of_neg (by simpa using here)]

theorem drop_append_replicate_perm_iff (quests : List Nat) (count questId : Nat) :
    ((quests ++ List.replicate count questId).drop count).Perm quests ↔
      ∀ quest ∈ quests.take count, quest = questId := by
  have left : (quests ++ List.replicate count questId).drop count =
      quests.drop count ++ List.replicate (quests.take count).length questId := by
    grind [List.drop_append, List.drop_replicate, List.length_take]
  have whole : quests.Perm (quests.drop count ++ quests.take count) := by
    conv_lhs => rw [← List.take_append_drop count quests]
    exact List.perm_append_comm
  rw [left, whole.congr_right, List.perm_append_left_iff, List.replicate_perm]
  constructor
  · grind
  · intro copies
    exact (List.eq_replicate_of_mem copies).symm

theorem takeQuest_addQuest_perm_iff (pooled : PooledQuestRelation) (questId : Nat)
    (questMap : QuestRelations) :
    (takeQuest pooled questId (addQuest pooled questId questMap)).entries.Perm questMap.entries ↔
      GivesFirst pooled questId questMap := by
  rw [MultiMap.perm_iff_valuesOf]
  refine forall_congr' fun giver => ?_
  rw [valuesOf_takeQuest, valuesOf_addQuest]
  exact drop_append_replicate_perm_iff _ _ _

/-- A despawned quest leaves the tables as they were before it was spawned exactly if the first
quests of its givers are the quest itself. -/
theorem despawn1Quest_restores_iff (pooled : PooledQuests) (questId : Nat) (givers : QuestGivers) :
    (despawn1Quest pooled questId (spawn1Quest pooled questId givers)).Same givers ↔
      GivesFirst pooled.creature questId givers.creature ∧
        GivesFirst pooled.gameObject questId givers.gameObject :=
  and_congr (takeQuest_addQuest_perm_iff pooled.creature questId givers.creature)
    (takeQuest_addQuest_perm_iff pooled.gameObject questId givers.gameObject)

def oneGiver : QuestGivers where
  creature := MultiMap.empty.insert 5 100
  gameObject := MultiMap.empty

def onePooled : PooledQuests where
  creature := MultiMap.empty.insert 200 5
  gameObject := MultiMap.empty

/-- The creature loses the quest that it always gives and keeps the other one. -/
theorem not_despawn1Quest_restores :
    ¬ ∀ (pooled : PooledQuests) (questId : Nat) (givers : QuestGivers),
      (despawn1Quest pooled questId (spawn1Quest pooled questId givers)).Same givers := by
  intro restores
  have same := (restores onePooled 200 oneGiver).1
  revert same
  decide

end DarkCore.Pools
