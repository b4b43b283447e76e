/-
Quests of game events (`GameEventMgr.cpp`). An event that starts adds its quests to
the relations of creatures and game objects; when it stops they are removed, apart
from quests that another active event has.
-/

import DarkCore.Lib.MultiMap
import DarkCore.Lib.Runs
import Mathlib.Algebra.BigOperators.Group.Finset.Basic

namespace DarkCore.GameEvents

open DarkCore.Lib

/-- `QuestRelations`: the entry of a giver and the id of a quest -/
abbrev QuestRelations := MultiMap Nat Nat

/-- `QuestRelList` for each event -/
abbrev GameEventQuestMap := Nat → List (Nat × Nat)

def erasePair (relations : QuestRelations) (pair : Nat × Nat) : QuestRelations where
  entries := relations.entries.erase pair
  sorted := relations.sorted.sublist List.erase_sublist

/-- `hasCreatureQuestActiveEventExcept`, `hasGameObjectQuestActiveEventExcept` -/
def hasQuestActiveEventExcept (quests : GameEventQuestMap) (active : Finset Nat)
    (questId eventId : Nat) : Bool :=
  decide (∃ other ∈ active, other ≠ eventId ∧ ∃ pair ∈ quests other, pair.2 = questId)

/-- One of the two loops of `UpdateEventQuests` -/
def updateRelations (quests : GameEventQuestMap) (active : Finset Nat) (eventId : Nat)
    (activate : Bool) (relations : QuestRelations) : QuestRelations :=
  (quests eventId).foldl
    (fun relations pair => if activate then relations.insert pair.1 pair.2
      else if hasQuestActiveEventExcept quests active pair.2 eventId then relations
      else erasePair relations pair)
    relations

structure EventQuests where
  creature : GameEventQuestMap
  gameObject : GameEventQuestMap

structure Realm where
  activeEvents : Finset Nat
  creatureQuests : QuestRelations
  gameObjectQuests : QuestRelations

namespace Realm

variable (quests : EventQuests) (realm : Realm)

def updateEventQuests (eventId : Nat) (activate : Bool) : Realm :=
  { realm with
    creatureQuests :=
      updateRelations quests.creature realm.activeEvents eventId activate realm.creatureQuests
    gameObjectQuests :=
      updateRelations quests.gameObject realm.activeEvents eventId activate realm.gameObjectQuests }

def startEvent (eventId : Nat) : Realm :=
  updateEventQuests quests
    { realm with activeEvents := insert eventId realm.activeEvents } eventId true

def stopEvent (eventId : Nat) : Realm :=
  updateEventQuests quests
    { realm with activeEvents := realm.activeEvents.erase eventId } eventId false

end Realm

inductive Action
  | start (eventId : Nat)
  | stop (eventId : Nat)

def Realm.next (quests : EventQuests) (realm : Realm) : Action → Realm
  | .start eventId => realm.startEvent quests eventId
  | .stop eventId => realm.stopEvent quests eventId

def Shows (quests : GameEventQuestMap) (permanent : QuestRelations) (active : Finset Nat)
    (relations : QuestRelations) : Prop :=
  ∀ pair, pair ∈ relations.entries ↔
    pair ∈ permanent.entries ∨ ∃ eventId ∈ active, pair ∈ quests eventId

structure Realm.Faithful (quests : EventQuests) (initial realm : Realm) : Prop where
  creature : Shows quests.creature initial.creatureQuests realm.activeEvents realm.creatureQuests
  gameObject :
    Shows quests.gameObject initial.gameObjectQuests realm.activeEvents realm.gameObjectQuests
  stopped : realm.activeEvents = ∅ →
    realm.creatureQuests.entries.Perm initial.creatureQuests.entries ∧
      realm.gameObjectQuests.entries.Perm initial.gameObjectQuests.entries

def Alone (quests : GameEventQuestMap) (active : Finset Nat) (eventId : Nat) : Prop :=
  ∀ pair ∈ quests eventId, hasQuestActiveEventExcept quests active pair.2 eventId = false

/-- An event starts when it is not active, and stops when no other active event has one of its
quests. -/
def Realm.Separate (quests : EventQuests) (realm : Realm) : Action → Prop
  | .start eventId => eventId ∉ realm.activeEvents
  | .stop eventId =>
    eventId ∈ realm.activeEvents ∧ Alone quests.creature realm.activeEvents eventId ∧
      Alone quests.gameObject realm.activeEvents eventId

variable {quests : GameEventQuestMap} {relations permanent : QuestRelations} {active : Finset Nat}
  {eventId : Nat}

def Balanced (quests : GameEventQuestMap) (permanent : QuestRelations) (active : Finset Nat)
    (relations : QuestRelations) : Prop :=
  (relations.entries : Multiset (Nat × Nat)) =
    permanent.entries + ∑ eventId ∈ active, (quests eventId : Multiset (Nat × Nat))

theorem Balanced.shows (balanced : Balanced quests permanent active relations) :
    Shows quests permanent active relations := by
  intro pair
  rw [← Multiset.mem_coe, balanced, Multiset.mem_add, Multiset.mem_sum]
  rfl

theorem Balanced.stopped (balanced : Balanced quests permanent ∅ relations) :
    relations.entries.Perm permanent.entries := by
  unfold Balanced at balanced
  rw [Finset.sum_empty, add_zero] at balanced
  exact Multiset.coe_eq_coe.mp balanced

theorem insert_entries (relations : QuestRelations) (pair : Nat × Nat) :
    ((relations.insert pair.1 pair.2).entries : Multiset (Nat × Nat)) =
      relations.entries + {pair} := by
  rw [add_comm, Multiset.singleton_add, Multiset.cons_coe]
  exact Multiset.coe_eq_coe.mpr (MultiMap.insertEntry_perm pair relations.entries)

theorem erasePair_entries (relations : QuestRelations) (pair : Nat × Nat) :
    ((erasePair relations pair).entries : Multiset (Nat × Nat)) =
      (relations.entries : Multiset (Nat × Nat)).erase pair := by
  have same : (instBEqProd : BEq (Nat × Nat)) = instBEqOfDecidableEq :=
    lawful_beq_subsingleton _ _
  rw [Multiset.coe_erase, ← same]
  rfl

theorem activate_entries (quests : GameEventQuestMap) (active : Finset Nat) (eventId : Nat)
    (relations : QuestRelations) :
    ((updateRelations quests active eventId true relations).entries : Multiset (Nat × Nat)) =
      relations.entries + (quests eventId : Multiset (Nat × Nat)) := by
  unfold updateRelations
  generalize quests eventId = pairs
  induction pairs generalizing relations with
  | nil => exact (add_zero _).symm
  | cons pair rest ih =>
    rw [List.foldl_cons, ih, if_pos rfl, insert_entries, add_assoc, Multiset.singleton_add,
      Multiset.cons_coe]

theorem deactivate_entries (alone : Alone quests active eventId) (relations : QuestRelations) :
    ((updateRelations quests active eventId false relations).entries : Multiset (Nat × Nat)) =
      relations.entries - (quests eventId : Multiset (Nat × Nat)) := by
  have kept : ∀ pairs : List (Nat × Nat), (∀ pair ∈ pairs, pair ∈ quests eventId) →
      ∀ relations : QuestRelations,
        ((pairs.foldl (fun relations pair => if (false : Bool) then relations.insert pair.1 pair.2
            else if hasQuestActiveEventExcept quests active pair.2 eventId then relations
            else erasePair relations pair) relations).entries : Multiset (Nat × Nat)) =
            relations.entries - (pairs : Multiset (Nat × Nat)) := by
    intro pairs
    induction pairs with
    | nil =>
      intro _ relations
      exact (Multiset.sub_zero _).symm
    | cons pair rest ih =>
      intro members relations
      have removed := alone pair (members pair List.mem_cons_self)
      rw [List.foldl_cons, ih fun other member => members other (List.mem_cons_of_mem _ member),
        if_neg Bool.false_ne_true, removed, if_neg Bool.false_ne_true, ← Multiset.cons_coe,
        Multiset.sub_cons, erasePair_entries]
  exact kept (quests eventId) (fun _ member => member) relations

theorem Balanced.start (balanced : Balanced quests permanent active relations)
    (inactive : eventId ∉ active) :
    Balanced quests permanent (insert eventId active)
      (updateRelations quests (insert eventId active) eventId true relations) := by
  unfold Balanced
  rw [activate_entries, balanced, Finset.sum_insert inactive, add_assoc]
  rw [add_comm (∑ eventId ∈ active, (quests eventId : Multiset (Nat × Nat)))]

theorem Alone.erase (alone : Alone quests active eventId) :
    Alone quests (active.erase eventId) eventId := by
  intro pair member
  have before := of_decide_eq_false (alone pair member)
  refine decide_eq_false fun others => before ?_
  obtain ⟨other, isActive, apart, shared⟩ := others
  exact ⟨other, Finset.mem_of_mem_erase isActive, apart, shared⟩

theorem Balanced.stop (balanced : Balanced quests permanent active relations)
    (isActive : eventId ∈ active) (alone : Alone quests active eventId) :
    Balanced quests permanent (active.erase eventId)
      (updateRelations quests (active.erase eventId) eventId false relations) := by
  unfold Balanced
  rw [deactivate_entries alone.erase, balanced, ← Finset.add_sum_erase active _ isActive,
    add_left_comm, add_tsub_cancel_left]

structure Realm.InBalance (quests : EventQuests) (initial realm : Realm) : Prop where
  creature :
    Balanced quests.creature initial.creatureQuests realm.activeEvents realm.creatureQuests
  gameObject :
    Balanced quests.gameObject initial.gameObjectQuests realm.activeEvents realm.gameObjectQuests

variable {eventQuests : EventQuests} {initial realm : Realm}

theorem Realm.InBalance.faithful (inBalance : Realm.InBalance eventQuests initial realm) :
    Realm.Faithful eventQuests initial realm where
  creature := inBalance.creature.shows
  gameObject := inBalance.gameObject.shows
  stopped none := by
    have creature := inBalance.creature
    have gameObject := inBalance.gameObject
    rw [none] at creature gameObject
    exact ⟨creature.stopped, gameObject.stopped⟩

theorem inBalance_next (inBalance : Realm.InBalance eventQuests initial realm) (action : Action)
    (separate : realm.Separate eventQuests action) :
    Realm.InBalance eventQuests initial (realm.next eventQuests action) := by
  cases action with
  | start eventId =>
    exact ⟨inBalance.creature.start separate, inBalance.gameObject.start separate⟩
  | stop eventId =>
    obtain ⟨isActive, creature, gameObject⟩ := separate
    exact ⟨inBalance.creature.stop isActive creature, inBalance.gameObject.stop isActive gameObject⟩

/-- From relations without active events: if events start when they are inactive, and stop when no
other active event has one of their quests, players always see what they should. -/
theorem Realm.always_shown {actions : List Action} (none : initial.activeEvents = ∅)
    (steps : Along (Realm.next eventQuests) (Realm.Separate eventQuests) initial actions) :
    Always (Realm.next eventQuests) (Realm.Faithful eventQuests initial) initial actions := by
  have start : Realm.InBalance eventQuests initial initial := by
    constructor
    · unfold Balanced
      rw [none, Finset.sum_empty, add_zero]
    · unfold Balanced
      rw [none, Finset.sum_empty, add_zero]
  have balanced : Always (Realm.next eventQuests) (Realm.InBalance eventQuests initial) initial
      actions := by
    refine always_of_step ?_ start steps
    intro realm action inBalance separate
    exact inBalance_next inBalance action separate
  refine balanced.imp ?_
  intro realm inBalance
  exact inBalance.faithful

def sharedQuests : EventQuests where
  creature _ := [(5, 100)]
  gameObject _ := []

def emptyRealm : Realm where
  activeEvents := ∅
  creatureQuests := MultiMap.empty
  gameObjectQuests := MultiMap.empty

/-- One event after the other -/
theorem Realm.always_shown_shared :
    Always (Realm.next sharedQuests) (Realm.Faithful sharedQuests emptyRealm) emptyRealm
      [.start 1, .stop 1, .start 2, .stop 2] := by
  refine Realm.always_shown rfl ⟨?_, ⟨?_, ?_, ?_⟩, ?_, ⟨?_, ?_, ?_⟩, trivial⟩
  · exact Finset.notMem_empty 1
  · decide
  · unfold Alone
    decide
  · unfold Alone
    decide
  · unfold Realm.Separate
    decide
  · decide
  · unfold Alone
    decide
  · unfold Alone
    decide

/-- While both events are active the quest is there twice, and the second stop removes it once. -/
theorem Realm.not_always_shown :
    ¬ ∀ (eventQuests : EventQuests) (initial : Realm) (actions : List Action),
      initial.activeEvents = ∅ →
      Along (Realm.next eventQuests)
        (fun realm action => ∀ eventId, action = .stop eventId → eventId ∈ realm.activeEvents)
        initial actions →
      Always (Realm.next eventQuests) (Realm.Faithful eventQuests initial) initial actions := by
  intro always
  have active : Along (Realm.next sharedQuests)
      (fun realm action => ∀ eventId, action = .stop eventId → eventId ∈ realm.activeEvents)
      emptyRealm [.start 1, .start 2, .stop 1, .stop 2] := by
    refine ⟨?_, ?_, ?_, ?_, trivial⟩
    · intro eventId isStop
      cases isStop
    · intro eventId isStop
      cases isStop
    · intro eventId isStop
      cases isStop
      decide
    · intro eventId isStop
      cases isStop
      decide
  have faithful := always sharedQuests emptyRealm _ rfl active
  have left := (faithful.last.stopped (by decide)).1
  revert left
  decide

end DarkCore.GameEvents
