/-
The record of an event processor: which events it executed, aborted and
deleted, and how these lists fit together with its queue. The calls made on a
processor from outside are the steps of its runs.
-/

import DarkCore.Shared.EventProcessor
import Mathlib.Data.List.Nodup

namespace DarkCore.Shared

open Lib

variable {ε σ : Type}

def Happening.executedNumber : Happening ε → Option Nat
  | .executed number => some number
  | _ => none

def Happening.abortedNumber : Happening ε → Option Nat
  | .aborted number => some number
  | _ => none

def executed (trace : List (Happening ε)) : List Nat := trace.filterMap Happening.executedNumber

def aborted (trace : List (Happening ε)) : List Nat := trace.filterMap Happening.abortedNumber

section

variable (trace : List (Happening ε)) (number : Nat)

@[simp] theorem executed_added (event : ε) (time : Nat) :
    executed (trace ++ [.added number event time]) = executed trace := by
  simp [executed, Happening.executedNumber]

@[simp] theorem executed_executed :
    executed (trace ++ [.executed number]) = executed trace ++ [number] := by
  simp [executed, Happening.executedNumber]

@[simp] theorem executed_aborted : executed (trace ++ [.aborted number]) = executed trace := by
  simp [executed, Happening.executedNumber]

@[simp] theorem executed_deleted : executed (trace ++ [.deleted number]) = executed trace := by
  simp [executed, Happening.executedNumber]

@[simp] theorem aborted_added (event : ε) (time : Nat) :
    aborted (trace ++ [.added number event time]) = aborted trace := by
  simp [aborted, Happening.abortedNumber]

@[simp] theorem aborted_executed : aborted (trace ++ [.executed number]) = aborted trace := by
  simp [aborted, Happening.abortedNumber]

@[simp] theorem aborted_aborted :
    aborted (trace ++ [.aborted number]) = aborted trace ++ [number] := by
  simp [aborted, Happening.abortedNumber]

@[simp] theorem aborted_deleted : aborted (trace ++ [.deleted number]) = aborted trace := by
  simp [aborted, Happening.abortedNumber]

end

def numbers (entries : List (Nat × BasicEvent ε)) : List Nat :=
  entries.map fun entry => entry.2.number

def Holds (entry : Nat × BasicEvent ε) (number : Nat) (event : ε) (time : Nat) : Prop :=
  entry.1 = time ∧ entry.2.number = number ∧ entry.2.event = event

/-- No event is executed or aborted twice, the marks in the queue are those of the aborted events,
and no event was dropped. -/
structure Accounted (entries : List (Nat × BasicEvent ε)) (inserted : Nat)
    (trace : List (Happening ε)) : Prop where
  distinct : (numbers entries).Nodup
  numbered : ∀ entry ∈ entries, entry.2.number < inserted
  executedBefore : ∀ number ∈ executed trace, number < inserted
  abortedBefore : ∀ number ∈ aborted trace, number < inserted
  executedOnce : (executed trace).Nodup
  abortedOnce : (aborted trace).Nodup
  notBoth : ∀ number ∈ aborted trace, number ∉ executed trace
  unexecuted : ∀ entry ∈ entries, entry.2.number ∉ executed trace
  marked : ∀ entry ∈ entries, entry.2.number ∈ aborted trace ↔ entry.2.toAbort = true
  kept : ∀ number event time, Happening.added number event time ∈ trace →
    number ∈ executed trace ∨
      (number ∈ aborted trace ∧ Happening.deleted number ∈ trace) ∨
      ∃ entry ∈ entries, Holds entry number event time

variable {entries rest : List (Nat × BasicEvent ε)} {entry : Nat × BasicEvent ε}
  {inserted number : Nat} {trace : List (Happening ε)}

theorem Accounted.nil : Accounted ([] : List (Nat × BasicEvent ε)) 0 [] where
  distinct := List.nodup_nil
  numbered _ listed := absurd listed List.not_mem_nil
  executedBefore _ listed := absurd listed List.not_mem_nil
  abortedBefore _ listed := absurd listed List.not_mem_nil
  executedOnce := List.nodup_nil
  abortedOnce := List.nodup_nil
  notBoth _ listed := absurd listed List.not_mem_nil
  unexecuted _ listed := absurd listed List.not_mem_nil
  marked _ listed := absurd listed List.not_mem_nil
  kept _ _ _ listed := absurd listed List.not_mem_nil

theorem Accounted.add (accounted : Accounted entries inserted trace)
    {after : List (Nat × BasicEvent ε)} {event : ε} {time : Nat}
    (listed : after.Perm ((time, { event := event, number := inserted }) :: entries)) :
    Accounted after (inserted + 1) (trace ++ [.added inserted event time]) := by
  have fresh : inserted ∉ numbers entries := by
    intro inNumbers
    obtain ⟨entry, inEntries, same⟩ := List.mem_map.mp inNumbers
    exact absurd (accounted.numbered entry inEntries) (by omega)
  have unexecuted : inserted ∉ executed trace := fun inExecuted =>
    absurd (accounted.executedBefore inserted inExecuted) (lt_irrefl inserted)
  have unaborted : inserted ∉ aborted trace := fun inAborted =>
    absurd (accounted.abortedBefore inserted inAborted) (lt_irrefl inserted)
  constructor
  case distinct =>
    have perm : (numbers after).Perm (inserted :: numbers entries) := listed.map _
    rw [perm.nodup_iff, List.nodup_cons]
    exact ⟨fresh, accounted.distinct⟩
  case numbered =>
    intro entry inAfter
    rcases List.mem_cons.mp (listed.mem_iff.mp inAfter) with rfl | inEntries
    · exact Nat.lt_succ_self inserted
    · exact Nat.lt_succ_of_lt (accounted.numbered entry inEntries)
  case executedBefore =>
    intro number inExecuted
    rw [executed_added] at inExecuted
    exact Nat.lt_succ_of_lt (accounted.executedBefore number inExecuted)
  case abortedBefore =>
    intro number inAborted
    rw [aborted_added] at inAborted
    exact Nat.lt_succ_of_lt (accounted.abortedBefore number inAborted)
  case executedOnce => simpa using accounted.executedOnce
  case abortedOnce => simpa using accounted.abortedOnce
  case notBoth => simpa using accounted.notBoth
  case unexecuted =>
    intro entry inAfter
    rw [executed_added]
    rcases List.mem_cons.mp (listed.mem_iff.mp inAfter) with rfl | inEntries
    · exact unexecuted
    · exact accounted.unexecuted entry inEntries
  case marked =>
    intro entry inAfter
    rw [aborted_added]
    rcases List.mem_cons.mp (listed.mem_iff.mp inAfter) with rfl | inEntries
    · exact ⟨fun inAborted => absurd inAborted unaborted, fun isMarked => by cases isMarked⟩
    · exact accounted.marked entry inEntries
  case kept =>
    intro number other otherTime inTrace
    rw [executed_added, aborted_added]
    rcases List.mem_append.mp inTrace with earlier | new
    · rcases accounted.kept number other otherTime earlier with done | ⟨gone, deleted⟩ | queued
      · exact Or.inl done
      · exact Or.inr (Or.inl ⟨gone, List.mem_append_left _ deleted⟩)
      · obtain ⟨entry, inEntries, holds⟩ := queued
        exact Or.inr (Or.inr ⟨entry, listed.mem_iff.mpr (List.mem_cons_of_mem _ inEntries), holds⟩)
    · cases List.mem_singleton.mp new
      exact Or.inr (Or.inr ⟨_, listed.mem_iff.mpr List.mem_cons_self, rfl, rfl, rfl⟩)

theorem Accounted.execute (accounted : Accounted (entry :: rest) inserted trace)
    (unmarked : entry.2.toAbort = false) :
    Accounted rest inserted (trace ++ [.executed entry.2.number]) := by
  have unaborted : entry.2.number ∉ aborted trace := by
    rw [accounted.marked entry List.mem_cons_self, unmarked]
    exact Bool.false_ne_true
  obtain ⟨apart, restDistinct⟩ := List.nodup_cons.mp accounted.distinct
  constructor
  case distinct => exact restDistinct
  case numbered => exact fun other inRest => accounted.numbered other (List.mem_cons_of_mem _ inRest)
  case executedBefore =>
    intro number inExecuted
    rw [executed_executed] at inExecuted
    rcases List.mem_append.mp inExecuted with earlier | now
    · exact accounted.executedBefore number earlier
    · rw [List.mem_singleton.mp now]
      exact accounted.numbered entry List.mem_cons_self
  case abortedBefore => simpa using accounted.abortedBefore
  case executedOnce =>
    rw [executed_executed, ← List.concat_eq_append, List.nodup_concat]
    exact ⟨accounted.unexecuted entry List.mem_cons_self, accounted.executedOnce⟩
  case abortedOnce => simpa using accounted.abortedOnce
  case notBoth =>
    intro number inAborted
    rw [aborted_executed] at inAborted
    rw [executed_executed, List.mem_append, List.mem_singleton]
    rintro (earlier | now)
    · exact accounted.notBoth number inAborted earlier
    · simp_all
  case unexecuted =>
    intro other inRest
    rw [executed_executed, List.mem_append, List.mem_singleton]
    rintro (earlier | now)
    · exact accounted.unexecuted other (List.mem_cons_of_mem _ inRest) earlier
    · exact apart (List.mem_map.mpr ⟨other, inRest, now⟩)
  case marked =>
    intro other inRest
    rw [aborted_executed]
    exact accounted.marked other (List.mem_cons_of_mem _ inRest)
  case kept =>
    intro number event time inTrace
    rw [executed_executed, aborted_executed]
    have earlier : Happening.added number event time ∈ trace := by simpa using inTrace
    rcases accounted.kept number event time earlier with done | ⟨gone, deleted⟩ | queued
    · exact Or.inl (List.mem_append_left _ done)
    · exact Or.inr (Or.inl ⟨gone, List.mem_append_left _ deleted⟩)
    · obtain ⟨other, listed, holds⟩ := queued
      rcases List.mem_cons.mp listed with rfl | inRest
      · refine Or.inl (List.mem_append_right _ (List.mem_singleton.mpr ?_))
        exact holds.2.1.symm
      · exact Or.inr (Or.inr ⟨other, inRest, holds⟩)

theorem Accounted.noteDeleted (accounted : Accounted entries inserted trace) (number : Nat) :
    Accounted entries inserted (trace ++ [.deleted number]) := by
  constructor
  case distinct => exact accounted.distinct
  case numbered => exact accounted.numbered
  case executedBefore => simpa using accounted.executedBefore
  case abortedBefore => simpa using accounted.abortedBefore
  case executedOnce => simpa using accounted.executedOnce
  case abortedOnce => simpa using accounted.abortedOnce
  case notBoth => simpa using accounted.notBoth
  case unexecuted => simpa using accounted.unexecuted
  case marked => simpa using accounted.marked
  case kept =>
    intro other event time inTrace
    rw [executed_deleted, aborted_deleted]
    have earlier : Happening.added other event time ∈ trace := by simpa using inTrace
    rcases accounted.kept other event time earlier with done | ⟨gone, deleted⟩ | queued
    · exact Or.inl done
    · exact Or.inr (Or.inl ⟨gone, List.mem_append_left _ deleted⟩)
    · exact Or.inr (Or.inr queued)

namespace EventProcessor

def Accounted (processor : EventProcessor ε σ) : Prop :=
  Shared.Accounted processor.events.entries processor.inserted processor.trace

variable {processor : EventProcessor ε σ}

theorem Accounted.addEvent (accounted : processor.Accounted) (addition : Addition ε) :
    (processor.addEvent addition).Accounted :=
  Shared.Accounted.add accounted (MultiMap.insertEntry_perm _ _)

theorem Accounted.addEvents (accounted : processor.Accounted) (additions : List (Addition ε)) :
    (processor.addEvents additions).Accounted := by
  induction additions generalizing processor with
  | nil => exact accounted
  | cons addition rest ih => exact ih (accounted.addEvent addition)

theorem Accounted.note_deleted (accounted : processor.Accounted) (number : Nat) :
    (processor.note [.deleted number]).Accounted :=
  Shared.Accounted.noteDeleted accounted number

section

variable (additions : List (Addition ε))
include additions

@[simp] theorem addEvents_time :
    (processor.addEvents additions).time = processor.time := by
  induction additions generalizing processor with
  | nil => rfl
  | cons addition rest ih => exact ih

@[simp] theorem addEvents_world :
    (processor.addEvents additions).world = processor.world := by
  induction additions generalizing processor with
  | nil => rfl
  | cons addition rest ih => exact ih

@[simp] theorem addEvents_executed :
    executed (processor.addEvents additions).trace = executed processor.trace := by
  induction additions generalizing processor with
  | nil => rfl
  | cons addition rest ih =>
    refine ih.trans ?_
    exact executed_added _ _ _ _

@[simp] theorem addEvents_aborted :
    aborted (processor.addEvents additions).trace = aborted processor.trace := by
  induction additions generalizing processor with
  | nil => rfl
  | cons addition rest ih =>
    refine ih.trans ?_
    exact aborted_added _ _ _ _

end

theorem mem_addEvents {additions : List (Addition ε)} {entry : Nat × BasicEvent ε}
    (queued : entry ∈ (processor.addEvents additions).events.entries) :
    entry ∈ processor.events.entries ∨
      entry.2.toAbort = false ∧ ∃ addition ∈ additions, addition.time = entry.1 := by
  induction additions generalizing processor with
  | nil => exact Or.inl queued
  | cons addition rest ih =>
    rcases ih queued with before | ⟨unmarked, other, listed, sameTime⟩
    · rcases MultiMap.mem_insertEntry.mp before with rfl | before
      · exact Or.inr ⟨rfl, addition, List.mem_cons_self, rfl⟩
      · exact Or.inl before
    · exact Or.inr ⟨unmarked, other, List.mem_cons_of_mem _ listed, sameTime⟩

variable (callbacks : Callbacks ε σ) {event : BasicEvent ε} {time diff : Nat}
  {rest : List (Nat × BasicEvent ε)}

def executeFirst (event : BasicEvent ε) (diff : Nat) (processor : EventProcessor ε σ) :
    EventProcessor ε σ :=
  { processor with events := processor.events.tail }.executeEvent callbacks event diff

@[simp] theorem executeFirst_time :
    (processor.executeFirst callbacks event diff).time = processor.time := by
  unfold executeFirst executeEvent
  dsimp only
  split <;> exact addEvents_time _

theorem mem_executeFirst {entry : Nat × BasicEvent ε}
    (listed : entry ∈ (processor.executeFirst callbacks event diff).events.entries) :
    entry ∈ processor.events.entries ∨ entry.2.toAbort = false := by
  unfold executeFirst executeEvent at listed
  dsimp only at listed
  split at listed
  · rcases mem_addEvents listed with before | ⟨unmarked, _⟩
    · exact Or.inl (List.mem_of_mem_tail before)
    · exact Or.inr unmarked
  · rcases mem_addEvents listed with before | ⟨unmarked, _⟩
    · exact Or.inl (List.mem_of_mem_tail before)
    · exact Or.inr unmarked

theorem executeFirst_accounted (accounted : processor.Accounted)
    (queue : processor.events.entries = (time, event) :: rest)
    (unmarked : event.toAbort = false) :
    (processor.executeFirst callbacks event diff).Accounted := by
  have head : Shared.Accounted ((time, event) :: rest) processor.inserted processor.trace := by
    rw [← queue]
    exact accounted
  have tail : processor.events.tail.entries = rest := congrArg List.tail queue
  have popped (world : σ) : EventProcessor.Accounted { processor with
      events := processor.events.tail
      trace := processor.trace ++ [.executed event.number]
      world := world } := by
    unfold EventProcessor.Accounted
    rw [tail]
    exact head.execute unmarked
  unfold executeFirst executeEvent
  dsimp only
  split
  · exact (Accounted.addEvents (popped _) _).note_deleted _
  · exact Accounted.addEvents (popped _) _

inductive Call (ε σ : Type) where
  | add (addition : Addition ε)
  | change (world : σ)
  | update (diff : Nat)
  | kill (force : Bool)

def Performs (processor after : EventProcessor ε σ) : Call ε σ → Prop
  | .add addition => after = processor.addEvent addition
  | .change world => after = { processor with world := world }
  | .update diff => Updates callbacks diff processor after
  | .kill force => Kills callbacks force processor after

inductive Reached (condition : EventProcessor ε σ → Call ε σ → Prop) :
    EventProcessor ε σ → Prop
  | start (world : σ) : Reached condition { world := world }
  | next {processor after : EventProcessor ε σ} (call : Call ε σ)
      (earlier : Reached condition processor) (meets : condition processor call)
      (performed : Performs callbacks processor after call) : Reached condition after

variable {callbacks} {condition : EventProcessor ε σ → Call ε σ → Prop}

theorem Reached.invariant {property : EventProcessor ε σ → Prop}
    (start : ∀ world, property { world := world })
    (kept : ∀ {processor after} call, property processor → condition processor call →
      Performs callbacks processor after call → property after)
    (reached : Reached callbacks condition processor) : property processor := by
  induction reached with
  | start world => exact start world
  | next call _ meets performed ih => exact kept call ih meets performed

end EventProcessor

end DarkCore.Shared
