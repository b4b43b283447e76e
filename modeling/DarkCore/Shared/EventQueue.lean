/-
Updates of an event processor that is not killed. Events that are executed may
add others, all of them later than the current time: then an update ends, and
it executes what was due when it began.
-/

import DarkCore.Shared.EventRecord

namespace DarkCore.Shared.EventProcessor

open Lib

variable {ε σ : Type} {processor after : EventProcessor ε σ} {callbacks : Callbacks ε σ}

def Precedes (first second : Nat × BasicEvent ε) : Prop :=
  first.1 < second.1 ∨ first.1 = second.1 ∧ first.2.number < second.2.number

structure Queued (processor : EventProcessor ε σ) : Prop where
  accounted : processor.Accounted
  ordered : processor.events.entries.Pairwise Precedes
  unmarked : ∀ entry ∈ processor.events.entries, entry.2.toAbort = false
  unaborted : aborted processor.trace = []

theorem Queued.start (world : σ) : Queued ({ world := world } : EventProcessor ε σ) where
  accounted := Shared.Accounted.nil
  ordered := List.Pairwise.nil
  unmarked _ listed := absurd listed List.not_mem_nil
  unaborted := rfl

section

variable (queued : processor.Queued)
include queued

theorem Queued.addEvent (addition : Addition ε) :
    (processor.addEvent addition).Queued where
  accounted := queued.accounted.addEvent addition
  ordered := by
    refine MultiMap.insertEntry_pairwise processor.events.sorted queued.ordered ?_ ?_
    · intro entry listed upTo
      rcases Nat.lt_or_eq_of_le upTo with below | same
      · exact Or.inl below
      · exact Or.inr ⟨same, queued.accounted.numbered entry listed⟩
    · exact fun _ _ above => Or.inl above
  unmarked entry listed := by
    rcases MultiMap.mem_insertEntry.mp listed with rfl | before
    · rfl
    · exact queued.unmarked entry before
  unaborted := (aborted_added _ _ _ _).trans queued.unaborted

theorem Queued.addEvents (additions : List (Addition ε)) :
    (processor.addEvents additions).Queued := by
  induction additions generalizing processor with
  | nil => exact queued
  | cons addition rest ih => exact ih (queued.addEvent addition)

theorem Queued.note_deleted (number : Nat) :
    (processor.note [.deleted number]).Queued where
  accounted := queued.accounted.note_deleted number
  ordered := queued.ordered
  unmarked := queued.unmarked
  unaborted := (aborted_deleted _ _).trans queued.unaborted

theorem Queued.executeFirst {event : BasicEvent ε} {time diff : Nat}
    {rest : List (Nat × BasicEvent ε)}
    (queue : processor.events.entries = (time, event) :: rest) :
    (processor.executeFirst callbacks event diff).Queued := by
  have unmarked : event.toAbort = false := by
    apply queued.unmarked (time, event)
    rw [queue]
    exact List.mem_cons_self
  have head : Shared.Accounted ((time, event) :: rest) processor.inserted processor.trace := by
    rw [← queue]
    exact queued.accounted
  have tail : processor.events.tail.entries = rest := congrArg List.tail queue
  have ordered := queued.ordered
  rw [queue] at ordered
  have popped (world : σ) : Queued { processor with
      events := processor.events.tail
      trace := processor.trace ++ [.executed event.number]
      world := world } := by
    constructor
    case accounted =>
      unfold EventProcessor.Accounted
      rw [tail]
      exact head.execute unmarked
    case ordered =>
      simp_all
    case unmarked =>
      intro entry listed
      exact queued.unmarked entry (List.mem_of_mem_tail listed)
    case unaborted => exact (aborted_executed _ _).trans queued.unaborted
  unfold EventProcessor.executeFirst executeEvent
  dsimp only
  split
  · exact ((popped _).addEvents _).note_deleted _
  · exact (popped _).addEvents _

end

theorem addEvents_behind {due rest : List (Nat × BasicEvent ε)} {now : Nat}
    {additions : List (Addition ε)} (queue : processor.events.entries = due ++ rest)
    (dueNow : ∀ entry ∈ due, entry.1 ≤ now) (later : ∀ entry ∈ rest, now < entry.1)
    (addedLater : ∀ addition ∈ additions, now < addition.time) :
    ∃ behind, (processor.addEvents additions).events.entries = due ++ behind ∧
      rest ⊆ behind ∧ ∀ entry ∈ behind, now < entry.1 := by
  induction additions generalizing processor rest with
  | nil => exact ⟨rest, queue, fun _ listed => listed, later⟩
  | cons addition others ih =>
    have above : now < addition.time := addedLater addition List.mem_cons_self
    let new : Nat × BasicEvent ε :=
      (addition.time, { event := addition.event, number := processor.inserted })
    have added : (processor.addEvent addition).events.entries =
        due ++ MultiMap.insertEntry new rest := by
      rw [← MultiMap.insertEntry_append fun entry listed =>
        le_trans (dueNow entry listed) (le_of_lt above), ← queue]
      rfl
    have laterThen : ∀ entry ∈ MultiMap.insertEntry new rest, now < entry.1 := by
      intro entry listed
      rcases MultiMap.mem_insertEntry.mp listed with rfl | before
      · exact above
      · exact later entry before
    obtain ⟨behind, entries, contains, behindLater⟩ := ih added laterThen
      fun other listed => addedLater other (List.mem_cons_of_mem _ listed)
    refine ⟨behind, entries, fun entry listed => contains ?_, behindLater⟩
    exact MultiMap.mem_insertEntry.mpr (Or.inr listed)

def AddsLater (callbacks : Callbacks ε σ) : Prop :=
  ∀ event now diff world,
    ∀ addition ∈ (callbacks.execute event now diff world).2.1, now < addition.time

variable {event : BasicEvent ε} {diff time : Nat} {due rest : List (Nat × BasicEvent ε)}

theorem executeFirst_executed :
    executed (processor.executeFirst callbacks event diff).trace =
      executed processor.trace ++ [event.number] := by
  unfold executeFirst executeEvent
  dsimp only
  split
  · simp [note]
  · rw [addEvents_executed]
    exact executed_executed _ _

theorem executeFirst_queue (later : AddsLater callbacks) (diff : Nat)
    (queue : processor.events.entries = (time, event) :: (due ++ rest))
    (dueNow : ∀ entry ∈ due, entry.1 ≤ processor.time)
    (restLater : ∀ entry ∈ rest, processor.time < entry.1) :
    ∃ behind, (processor.executeFirst callbacks event diff).events.entries = due ++ behind ∧
      rest ⊆ behind ∧ ∀ entry ∈ behind, processor.time < entry.1 := by
  have tail : processor.events.tail.entries = due ++ rest := congrArg List.tail queue
  unfold executeFirst executeEvent
  dsimp only
  split <;> exact addEvents_behind tail dueNow restLater (later _ _ _ _)

/-- The loop of `Update` takes one round for each due event. -/
theorem updateLoop_due (later : AddsLater callbacks) (queued : processor.Queued)
    (queue : processor.events.entries = due ++ rest)
    (dueNow : ∀ entry ∈ due, entry.1 ≤ processor.time)
    (restLater : ∀ entry ∈ rest, processor.time < entry.1) :
    ∃ after, updateLoop callbacks diff (due.length + 1) processor = some after ∧ after.Queued ∧
      after.time = processor.time ∧
      executed after.trace = executed processor.trace ++ numbers due ∧
      ∀ entry ∈ after.events.entries, after.time < entry.1 := by
  induction due generalizing processor rest with
  | nil =>
    rw [List.nil_append] at queue
    refine ⟨processor, ?_, queued, rfl, (List.append_nil _).symm, ?_⟩
    · unfold updateLoop
      rw [queue]
      cases rest with
      | nil => rfl
      | cons entry others =>
        simp_all
    · grind
  | cons entry others ih =>
    have unmarked : entry.2.toAbort = false := by
      apply queued.unmarked
      rw [queue]
      exact List.mem_cons_self
    have othersNow : ∀ other ∈ others, other.1 ≤ processor.time := fun other listed =>
      dueNow other (List.mem_cons_of_mem _ listed)
    have executedOnce :
        updateLoop callbacks diff ((entry :: others).length + 1) processor =
          updateLoop callbacks diff (others.length + 1)
            (processor.executeFirst callbacks entry.2 diff) := by
      rw [List.length_cons, updateLoop.eq_def]
      dsimp only
      rw [queue, List.cons_append]
      dsimp only
      rw [if_pos (dueNow entry List.mem_cons_self), unmarked, if_neg Bool.false_ne_true]
      rfl
    obtain ⟨behind, behindQueue, _, behindLater⟩ :=
      executeFirst_queue later diff queue othersNow restLater
    obtain ⟨after, ends, afterQueued, sameTime, order, allLater⟩ := ih
      (queued.executeFirst queue) behindQueue
      (by rw [executeFirst_time]; exact othersNow)
      (by rw [executeFirst_time]; exact behindLater)
    refine ⟨after, executedOnce.trans ends, afterQueued, sameTime.trans (executeFirst_time callbacks), ?_,
      allLater⟩
    rw [order, executeFirst_executed, List.append_assoc]
    rfl

theorem updateLoop_succ {fuel : Nat}
    (ends : updateLoop callbacks diff fuel processor = some after) :
    updateLoop callbacks diff (fuel + 1) processor = some after := by
  induction fuel generalizing processor with
  | zero => cases ends
  | succ fuel ih =>
    rw [updateLoop.eq_def] at ends ⊢
    dsimp only at ends ⊢
    split at ends
    · exact ends
    · rename_i entries
      split at ends
      · rename_i dueFirst
        rw [if_pos dueFirst]
        split at ends
        · rename_i isMarked
          rw [if_pos isMarked]
          exact ih ends
        · rename_i isUnmarked
          rw [if_neg isUnmarked]
          exact ih ends
      · simp_all

theorem updateLoop_add {fuel : Nat} (more : Nat)
    (ends : updateLoop callbacks diff fuel processor = some after) :
    updateLoop callbacks diff (fuel + more) processor = some after := by
  induction more with
  | zero => exact ends
  | succ more ih => exact updateLoop_succ ih

theorem Updates.unique {first second : EventProcessor ε σ}
    (one : Updates callbacks diff processor first)
    (other : Updates callbacks diff processor second) : second = first := by
  obtain ⟨oneFuel, oneEnds⟩ := one
  obtain ⟨otherFuel, otherEnds⟩ := other
  have oneEndsToo := updateLoop_add otherFuel oneEnds
  have otherEndsToo := updateLoop_add oneFuel otherEnds
  rw [Nat.add_comm] at otherEndsToo
  exact Option.some.inj (otherEndsToo.symm.trans oneEndsToo)

def dueEvents (processor : EventProcessor ε σ) (now : Nat) : List (Nat × BasicEvent ε) :=
  processor.events.entries.filter fun entry => entry.1 ≤ now

theorem Queued.update (later : AddsLater callbacks) (queued : processor.Queued) (diff : Nat) :
    ∃ after, Updates callbacks diff processor after ∧ after.Queued ∧
      after.time = (processor.time + diff) % 2 ^ 64 ∧
      executed after.trace = executed processor.trace ++ numbers (processor.dueEvents after.time) ∧
      ∀ entry ∈ after.events.entries, after.time < entry.1 := by
  have advanced : (processor.advance diff).Queued :=
    ⟨queued.accounted, queued.ordered, queued.unmarked, queued.unaborted⟩
  obtain ⟨after, ends, afterQueued, sameTime, order, allLater⟩ :=
    updateLoop_due later advanced
      (MultiMap.eq_upTo_append processor.events.sorted (processor.advance diff).time)
      (fun entry listed => of_decide_eq_true (List.mem_filter.mp listed).2)
      (fun entry listed => of_decide_eq_true (List.mem_filter.mp listed).2)
  refine ⟨after, ⟨_, ends⟩, afterQueued, sameTime, ?_, allLater⟩
  rw [sameTime]
  exact order

/-- `KillAllEvents` is not called. -/
def NoKill (_ : EventProcessor ε σ) : Call ε σ → Prop
  | .kill _ => False
  | _ => True

theorem Reached.queued (later : AddsLater callbacks) (reached : Reached callbacks NoKill processor) :
    processor.Queued := by
  refine reached.invariant Queued.start ?_
  intro processor after call queued noKill performed
  cases call with
  | add addition =>
    cases performed
    exact queued.addEvent addition
  | change world =>
    cases performed
    exact ⟨queued.accounted, queued.ordered, queued.unmarked, queued.unaborted⟩
  | update diff =>
    obtain ⟨state, updates, stateQueued, _⟩ := queued.update later diff
    rw [updates.unique performed]
    exact stateQueued
  | kill force => exact noKill.elim

/-- An update ends, executes the events that are due at the new time in their order and no others,
and every event that was ever added has been executed or waits for a later time. -/
theorem update_executes_due (later : AddsLater callbacks)
    (reached : Reached callbacks NoKill processor) (diff : Nat) :
    ∃ after, Updates callbacks diff processor after ∧
      (∀ other, Updates callbacks diff processor other → other = after) ∧
      after.time = (processor.time + diff) % 2 ^ 64 ∧
      executed after.trace = executed processor.trace ++ numbers (processor.dueEvents after.time) ∧
      (processor.dueEvents after.time).Pairwise Precedes ∧
      (executed after.trace).Nodup ∧ aborted after.trace = [] ∧
      ∀ number event time, Happening.added number event time ∈ after.trace →
        number ∈ executed after.trace ∨
          ∃ entry ∈ after.events.entries, after.time < entry.1 ∧ Holds entry number event time := by
  have queued := reached.queued later
  obtain ⟨after, updates, afterQueued, newTime, order, allLater⟩ := queued.update later diff
  refine ⟨after, updates, fun other otherUpdates => updates.unique otherUpdates, newTime, order,
    ?_, afterQueued.accounted.executedOnce, afterQueued.unaborted, ?_⟩
  · exact queued.ordered.sublist List.filter_sublist
  · intro number event time inTrace
    rcases afterQueued.accounted.kept number event time inTrace with done | ⟨gone, _⟩ | waiting
    · exact Or.inl done
    · rw [afterQueued.unaborted] at gone
      exact absurd gone List.not_mem_nil
    · obtain ⟨entry, listed, holds⟩ := waiting
      exact Or.inr ⟨entry, listed, allLater entry listed, holds⟩

def countdown : Callbacks Unit Nat where
  execute event now _ world :=
    (world - 1, if 0 < world then [⟨event, now + 1⟩] else [], true)
  abort _ _ world := (world, [])
  isDeletable _ _ := true

theorem countdown_update_executes_due :
    AddsLater countdown ∧
      ∃ after, Updates countdown 5 (({ world := 3 } : EventProcessor Unit Nat).addEvent ⟨(), 2⟩)
        after ∧ after.time = 5 ∧ executed after.trace = [0] := by
  have later : AddsLater countdown := by
    intro event now diff world addition listed
    by_cases counting : 0 < world
    · have only : addition = ⟨event, now + 1⟩ := by simpa [countdown, counting] using listed
      rw [only]
      exact Nat.lt_succ_self now
    · simp [countdown, counting] at listed
  have reached : Reached countdown NoKill
      (({ world := 3 } : EventProcessor Unit Nat).addEvent ⟨(), 2⟩) :=
    Reached.next (.add ⟨(), 2⟩) (Reached.start 3) trivial rfl
  obtain ⟨after, updates, _, newTime, order, _⟩ := update_executes_due later reached 5
  refine ⟨later, after, updates, newTime, ?_⟩
  rw [order, newTime]
  decide

end DarkCore.Shared.EventProcessor
