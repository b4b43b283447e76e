/-
Kills of an event processor. `KillAllEvents` aborts what it finds in the queue
while its aborts add to it: it marks the events that may not be deleted and
leaves them queued, and with force it clears the queue at its end.
-/

import DarkCore.Shared.EventRecord

namespace DarkCore.Shared

open Lib

variable {ε σ : Type}

/-! ### Marks -/

@[simp] theorem EventProcessor.mark_number (number : Nat) (event : BasicEvent ε) :
    (mark number event).number = event.number := by
  unfold mark
  split <;> rfl

@[simp] theorem EventProcessor.mark_event (number : Nat) (event : BasicEvent ε) :
    (mark number event).event = event.event := by
  unfold mark
  split <;> rfl

theorem numbers_mark (number : Nat) (entries : List (Nat × BasicEvent ε)) :
    numbers (entries.map fun entry => (entry.1, EventProcessor.mark number entry.2)) =
      numbers entries := by
  unfold numbers
  rw [List.map_map]
  exact List.map_congr_left fun entry _ => EventProcessor.mark_number number entry.2

variable {entries : List (Nat × BasicEvent ε)} {inserted number : Nat}
  {trace : List (Happening ε)}

section

variable (accounted : Accounted entries inserted trace)
include accounted

theorem Accounted.abort
    {entry : Nat × BasicEvent ε} (queued : entry ∈ entries) (unmarked : entry.2.toAbort = false) :
    Accounted (entries.map fun other => (other.1, EventProcessor.mark entry.2.number other.2))
      inserted (trace ++ [.aborted entry.2.number]) := by
  have unaborted : entry.2.number ∉ aborted trace := by
    rw [accounted.marked entry queued, unmarked]
    exact Bool.false_ne_true
  constructor
  case distinct =>
    rw [numbers_mark]
    exact accounted.distinct
  case numbered =>
    intro other listed
    obtain ⟨before, inEntries, rfl⟩ := List.mem_map.mp listed
    rw [EventProcessor.mark_number]
    exact accounted.numbered before inEntries
  case executedBefore => simpa using accounted.executedBefore
  case abortedBefore =>
    intro number inAborted
    rw [aborted_aborted] at inAborted
    rcases List.mem_append.mp inAborted with earlier | now
    · exact accounted.abortedBefore number earlier
    · rw [List.mem_singleton.mp now]
      exact accounted.numbered entry queued
  case executedOnce => simpa using accounted.executedOnce
  case abortedOnce =>
    rw [aborted_aborted, ← List.concat_eq_append, List.nodup_concat]
    exact ⟨unaborted, accounted.abortedOnce⟩
  case notBoth =>
    intro number inAborted
    rw [aborted_aborted] at inAborted
    rw [executed_aborted]
    rcases List.mem_append.mp inAborted with earlier | now
    · exact accounted.notBoth number earlier
    · rw [List.mem_singleton.mp now]
      exact accounted.unexecuted entry queued
  case unexecuted =>
    intro other listed
    obtain ⟨before, inEntries, rfl⟩ := List.mem_map.mp listed
    rw [executed_aborted, EventProcessor.mark_number]
    exact accounted.unexecuted before inEntries
  case marked =>
    intro other listed
    obtain ⟨before, inEntries, rfl⟩ := List.mem_map.mp listed
    rw [aborted_aborted, List.mem_append, List.mem_singleton]
    unfold EventProcessor.mark
    split
    · simp_all
    · rename_i another
      rw [accounted.marked before inEntries]
      exact ⟨fun either => either.resolve_right another, Or.inl⟩
  case kept =>
    intro number event time inTrace
    rw [executed_aborted, aborted_aborted]
    have earlier : Happening.added number event time ∈ trace := by simpa using inTrace
    rcases accounted.kept number event time earlier with done | ⟨gone, deleted⟩ | waiting
    · exact Or.inl done
    · simp_all
    · obtain ⟨other, listed, sameTime, sameNumber, sameEvent⟩ := waiting
      exact Or.inr (Or.inr ⟨_, List.mem_map.mpr ⟨other, listed, rfl⟩, sameTime,
        (EventProcessor.mark_number _ _).trans sameNumber,
        (EventProcessor.mark_event _ _).trans sameEvent⟩)

theorem Accounted.delete
    (gone : number ∈ aborted trace) :
    Accounted (entries.filter fun entry => entry.2.number ≠ number) inserted
      (trace ++ [.deleted number]) := by
  have noted := accounted.noteDeleted number
  constructor
  case distinct => exact noted.distinct.sublist (List.filter_sublist.map _)
  case numbered => exact fun entry listed => noted.numbered entry (List.mem_filter.mp listed).1
  case executedBefore => exact noted.executedBefore
  case abortedBefore => exact noted.abortedBefore
  case executedOnce => exact noted.executedOnce
  case abortedOnce => exact noted.abortedOnce
  case notBoth => exact noted.notBoth
  case unexecuted =>
    exact fun entry listed => noted.unexecuted entry (List.mem_filter.mp listed).1
  case marked => exact fun entry listed => noted.marked entry (List.mem_filter.mp listed).1
  case kept =>
    intro other event time inTrace
    rcases noted.kept other event time inTrace with done | finished | waiting
    · exact Or.inl done
    · exact Or.inr (Or.inl finished)
    · obtain ⟨entry, listed, holds⟩ := waiting
      by_cases same : entry.2.number = number
      · refine Or.inr (Or.inl ⟨?_, ?_⟩)
        · rw [← holds.2.1, same, aborted_deleted]
          exact gone
        · rw [← holds.2.1, same]
          exact List.mem_append_right _ (List.mem_singleton.mpr rfl)
      · grind

theorem Accounted.clear
    (gone : ∀ entry ∈ entries,
      entry.2.number ∈ aborted trace ∧ Happening.deleted entry.2.number ∈ trace) :
    Accounted [] inserted trace where
  distinct := List.nodup_nil
  numbered _ listed := absurd listed List.not_mem_nil
  executedBefore := accounted.executedBefore
  abortedBefore := accounted.abortedBefore
  executedOnce := accounted.executedOnce
  abortedOnce := accounted.abortedOnce
  notBoth := accounted.notBoth
  unexecuted _ listed := absurd listed List.not_mem_nil
  marked _ listed := absurd listed List.not_mem_nil
  kept number event time inTrace := by
    rcases accounted.kept number event time inTrace with done | finished | waiting
    · exact Or.inl done
    · exact Or.inr (Or.inl finished)
    · obtain ⟨entry, listed, holds⟩ := waiting
      have both := gone entry listed
      rw [holds.2.1] at both
      exact Or.inr (Or.inl both)

end

namespace EventProcessor

variable {callbacks : Callbacks ε σ} {processor killed : EventProcessor ε σ}
  {entry : Nat × BasicEvent ε} {front back rest : List (Nat × BasicEvent ε)}
  {additions : List (Addition ε)}

/-! ### Additions around an iterator -/

theorem unmarked_of_inserted {new : Nat × BasicEvent ε} {behind : List (Nat × BasicEvent ε)}
    (newUnmarked : new.2.toAbort = false)
    (unmarked : ∀ entry ∈ behind, entry ∈ MultiMap.insertEntry new back ∨ entry.2.toAbort = false) :
    ∀ entry ∈ behind, entry ∈ back ∨ entry.2.toAbort = false := by
  intro entry listed
  rcases unmarked entry listed with inserted | isUnmarked
  · rcases MultiMap.mem_insertEntry.mp inserted with rfl | inBack
    · exact Or.inr newUnmarked
    · exact Or.inl inBack
  · exact Or.inr isUnmarked

theorem addEvents_around (queue : processor.events.entries = front ++ back) :
    ∃ before behind, (processor.addEvents additions).events.entries = before ++ behind ∧
      behind.head? = back.head? ∧
      ∀ entry ∈ behind, entry ∈ back ∨ entry.2.toAbort = false := by
  induction additions generalizing processor front back with
  | nil => exact ⟨front, back, queue, rfl, fun _ listed => Or.inl listed⟩
  | cons addition others ih =>
    let new : Nat × BasicEvent ε :=
      (addition.time, { event := addition.event, number := processor.inserted })
    have added : (processor.addEvent addition).events.entries =
        MultiMap.insertEntry new (front ++ back) := by
      rw [← queue]
      rfl
    by_cases inFront : ∀ entry ∈ back.head?, new.1 < entry.1
    · rw [MultiMap.insertEntry_append_of_lt inFront] at added
      exact ih added
    · push Not at inFront
      obtain ⟨first, isFirst, upTo⟩ := inFront
      have sorted := processor.events.sorted
      rw [queue] at sorted
      rw [MultiMap.insertEntry_behind sorted isFirst upTo] at added
      obtain ⟨before, behind, entries, sameHead, unmarked⟩ := ih added
      refine ⟨before, behind, entries, ?_, ?_⟩
      · rw [sameHead, MultiMap.head?_insertEntry isFirst upTo, isFirst]
      · exact unmarked_of_inserted rfl unmarked

def contents (entries : List (Nat × BasicEvent ε)) : List (Nat × ε) :=
  entries.map fun entry => (entry.1, entry.2.event)

def withAdditions (queue : List (Nat × ε)) (additions : List (Addition ε)) : List (Nat × ε) :=
  additions.foldl
    (fun queue addition => MultiMap.insertEntry (addition.time, addition.event) queue) queue

theorem addEvents_behind_iterator (queue : processor.events.entries = front ++ back)
    (behindIterator : ∀ addition ∈ additions, ∃ first ∈ back.head?, first.1 ≤ addition.time) :
    ∃ behind, (processor.addEvents additions).events.entries = front ++ behind ∧
      behind.head? = back.head? ∧ contents behind = withAdditions (contents back) additions ∧
      ∀ entry ∈ behind, entry ∈ back ∨ entry.2.toAbort = false := by
  induction additions generalizing processor back with
  | nil => exact ⟨back, queue, rfl, rfl, fun _ listed => Or.inl listed⟩
  | cons addition others ih =>
    let new : Nat × BasicEvent ε :=
      (addition.time, { event := addition.event, number := processor.inserted })
    obtain ⟨first, isFirst, upTo⟩ := behindIterator addition List.mem_cons_self
    have sorted := processor.events.sorted
    rw [queue] at sorted
    have added : (processor.addEvent addition).events.entries =
        front ++ MultiMap.insertEntry new back := by
      rw [← MultiMap.insertEntry_behind sorted isFirst upTo, ← queue]
      rfl
    have sameHead : (MultiMap.insertEntry new back).head? = back.head? := by
      rw [MultiMap.head?_insertEntry isFirst upTo, isFirst]
    obtain ⟨behind, entries, head, strip, unmarked⟩ := ih added (by
      rw [sameHead]
      exact fun other listed => behindIterator other (List.mem_cons_of_mem _ listed))
    refine ⟨behind, entries, head.trans sameHead, ?_, ?_⟩
    · rw [strip]
      unfold contents
      rw [MultiMap.insertEntry_map fun event : BasicEvent ε => event.event]
      rfl
    · exact unmarked_of_inserted rfl unmarked

/-! ### Aborts -/

def abortQueued (callbacks : Callbacks ε σ) (event : BasicEvent ε)
    (processor : EventProcessor ε σ) : EventProcessor ε σ :=
  { processor with events := processor.events.mapValues (mark event.number) }.abortEvent
    callbacks event

theorem abortQueued_accounted (callbacks : Callbacks ε σ) (accounted : processor.Accounted)
    (queued : entry ∈ processor.events.entries) (unmarked : entry.2.toAbort = false) :
    (processor.abortQueued callbacks entry.2).Accounted := by
  have noted (world : σ) : EventProcessor.Accounted { processor with
      events := processor.events.mapValues (mark entry.2.number)
      trace := processor.trace ++ [.aborted entry.2.number]
      world := world } := Shared.Accounted.abort accounted queued unmarked
  exact (noted _).addEvents _

theorem abortQueued_aborted {event : BasicEvent ε} :
    aborted (processor.abortQueued callbacks event).trace =
      aborted processor.trace ++ [event.number] := by
  unfold abortQueued abortEvent
  rw [addEvents_aborted]
  exact aborted_aborted _ _

theorem Accounted.erase (accounted : processor.Accounted) {number : Nat}
    (gone : number ∈ aborted processor.trace) :
    EventProcessor.Accounted { processor.note [.deleted number] with
      events := processor.events.filterValues fun other => other.number ≠ number } :=
  Shared.Accounted.delete accounted gone

theorem map_mark_eq_self {entries : List (Nat × BasicEvent ε)} {number : Nat}
    (other : ∀ entry ∈ entries, entry.2.number ≠ number) :
    (entries.map fun entry => (entry.1, mark number entry.2)) = entries := by
  conv_rhs => rw [← List.map_id entries]
  refine List.map_congr_left fun entry listed => ?_
  unfold mark
  rw [if_neg (other entry listed)]
  rfl

theorem Accounted.other_numbers (accounted : processor.Accounted)
    (queue : processor.events.entries = front ++ entry :: rest) :
    (∀ other ∈ front, other.2.number ≠ entry.2.number) ∧
      ∀ other ∈ rest, other.2.number ≠ entry.2.number := by
  have distinct := accounted.distinct
  unfold numbers at distinct
  rw [queue, List.map_append, List.map_cons] at distinct
  obtain ⟨_, backDistinct, apart⟩ := List.nodup_append.mp distinct
  constructor <;> grind

theorem mark_queue (accounted : processor.Accounted)
    (queue : processor.events.entries = front ++ entry :: rest) :
    (processor.events.mapValues (mark entry.2.number)).entries =
      (front ++ [(entry.1, mark entry.2.number entry.2)]) ++ rest := by
  obtain ⟨frontOther, restOther⟩ := accounted.other_numbers queue
  unfold MultiMap.mapValues
  dsimp only
  rw [queue, List.map_append, List.map_cons, map_mark_eq_self frontOther,
    map_mark_eq_self restOther, List.append_assoc]
  rfl

/-! ### Iterators -/

def iterator (entries : List (Nat × BasicEvent ε)) : Option Nat :=
  entries.head?.map fun first => first.2.number

theorem lookUp_append (other : ∀ earlier ∈ front, earlier.2.number ≠ entry.2.number) :
    lookUp entry.2.number (front ++ entry :: rest) = some (entry.2, iterator rest) := by
  induction front with
  | nil => exact if_pos rfl
  | cons earlier others ih =>
    rw [List.cons_append, lookUp, if_neg (other earlier List.mem_cons_self)]
    exact ih fun later listed => other later (List.mem_cons_of_mem _ listed)

/-- One round of the loop of `KillAllEvents` -/
theorem killLoop_succ {force : Bool} {fuel : Nat} (accounted : processor.Accounted)
    (queue : processor.events.entries = front ++ entry :: rest) :
    killLoop callbacks force (fuel + 1) (iterator (entry :: rest)) processor =
      let aborted := processor.abortQueued callbacks entry.2
      if force then
        killLoop callbacks force fuel (iterator rest) (aborted.note [.deleted entry.2.number])
      else if callbacks.isDeletable entry.2.event aborted.world then
        killLoop callbacks force fuel (iterator rest)
          { aborted.note [.deleted entry.2.number] with
            events := aborted.events.filterValues fun other => other.number ≠ entry.2.number }
      else killLoop callbacks force fuel (iterator rest) aborted := by
  have found : lookUp entry.2.number processor.events.entries =
      some (entry.2, iterator rest) := by
    rw [queue]
    exact lookUp_append (accounted.other_numbers queue).1
  unfold iterator at found ⊢
  rw [List.head?_cons, Option.map_some, killLoop, found]
  rfl

/-! ### Kills without force -/

theorem killLoop_accounted {fuel : Nat} (accounted : processor.Accounted)
    (queue : processor.events.entries = front ++ back)
    (unmarked : ∀ entry ∈ back, entry.2.toAbort = false)
    (ends : killLoop callbacks false fuel (iterator back) processor = some killed) :
    killed.Accounted := by
  induction fuel generalizing processor front back with
  | zero => cases ends
  | succ fuel ih =>
    cases back with
    | nil =>
      cases ends
      exact accounted
    | cons entry rest =>
      rw [killLoop_succ accounted queue] at ends
      rw [if_neg Bool.false_ne_true] at ends
      have queued : entry ∈ processor.events.entries := by
        simp [queue]
      have nowAccounted := abortQueued_accounted callbacks accounted queued
        (unmarked entry List.mem_cons_self)
      obtain ⟨before, behind, entries, sameHead, behindUnmarked⟩ :
          ∃ before behind, (processor.abortQueued callbacks entry.2).events.entries =
              before ++ behind ∧ behind.head? = rest.head? ∧
            ∀ other ∈ behind, other ∈ rest ∨ other.2.toAbort = false :=
        addEvents_around (mark_queue accounted queue)
      have allUnmarked : ∀ other ∈ behind, other.2.toAbort = false := by
        intro other listed
        rcases behindUnmarked other listed with inRest | isUnmarked
        · exact unmarked other (List.mem_cons_of_mem _ inRest)
        · exact isUnmarked
      split at ends
      · -- the event is erased, which is never the one behind the iterator
        have gone : entry.2.number ∈
            aborted (processor.abortQueued callbacks entry.2).trace := by
          simp [abortQueued_aborted]
        let keep : Nat × BasicEvent ε → Bool := fun other =>
          other.2.number ≠ entry.2.number
        have erasedHead : (behind.filter keep).head? = rest.head? := by
          cases behind with
          | nil => exact sameHead
          | cons first others =>
            have inRest : first ∈ rest := List.mem_of_mem_head? sameHead.symm
            have kept : keep first = true :=
              decide_eq_true ((accounted.other_numbers queue).2 first inRest)
            rw [List.filter_cons_of_pos kept]
            exact sameHead
        have iteratorKept : iterator rest = iterator (behind.filter keep) := by
          simp [iterator, erasedHead]
        rw [iteratorKept] at ends
        have erased : (processor.abortQueued callbacks entry.2).events.entries.filter keep =
            before.filter keep ++ behind.filter keep := by
          rw [entries, List.filter_append]
        exact ih (nowAccounted.erase gone) erased
          (fun other listed => allUnmarked other (List.mem_filter.mp listed).1) ends
      · have iteratorKept : iterator rest = iterator behind := by
          simp [iterator, sameHead]
        rw [iteratorKept] at ends
        exact ih nowAccounted entries allUnmarked ends

/-! ### Kills with force -/

/-- None of the events that a kill with force adds goes in front of the one it aborts next. -/
inductive NoneSkipped (callbacks : Callbacks ε σ) (time : Nat) : List (Nat × ε) → σ → Prop
  | done (world : σ) : NoneSkipped callbacks time [] world
  | abort (first : Nat × ε) (others : List (Nat × ε)) (world : σ)
      (behind : ∀ addition ∈ (callbacks.abort first.2 time world).2,
        ∃ following ∈ others.head?, following.1 ≤ addition.time)
      (later : NoneSkipped callbacks time
        (withAdditions others (callbacks.abort first.2 time world).2)
        (callbacks.abort first.2 time world).1) :
      NoneSkipped callbacks time (first :: others) world

def Gone (processor : EventProcessor ε σ) (entry : Nat × BasicEvent ε) : Prop :=
  entry.2.number ∈ aborted processor.trace ∧
    Happening.deleted entry.2.number ∈ processor.trace

theorem mem_addEvents_trace {happening : Happening ε} (listed : happening ∈ processor.trace) :
    happening ∈ (processor.addEvents additions).trace := by
  induction additions generalizing processor with
  | nil => exact listed
  | cons addition others ih => exact ih (List.mem_append_left _ listed)

theorem Gone.abortQueued (gone : processor.Gone entry) {event : BasicEvent ε} (number : Nat) :
    ((processor.abortQueued callbacks event).note [.deleted number]).Gone entry := by
  constructor
  · unfold note
    rw [aborted_deleted, abortQueued_aborted]
    exact List.mem_append_left _ gone.1
  · exact List.mem_append_left _ (mem_addEvents_trace (List.mem_append_left _ gone.2))

theorem killLoop_force_accounted {fuel : Nat} (accounted : processor.Accounted)
    (queue : processor.events.entries = front ++ back)
    (gone : ∀ entry ∈ front, processor.Gone entry)
    (unmarked : ∀ entry ∈ back, entry.2.toAbort = false)
    (noneSkipped : NoneSkipped callbacks processor.time (contents back) processor.world)
    (ends : killLoop callbacks true fuel (iterator back) processor = some killed) :
    killed.Accounted ∧ ∀ entry ∈ killed.events.entries, killed.Gone entry := by
  induction fuel generalizing processor front back with
  | zero => cases ends
  | succ fuel ih =>
    cases back with
    | nil =>
      cases ends
      rw [List.append_nil] at queue
      rw [queue]
      exact ⟨accounted, gone⟩
    | cons entry rest =>
      cases noneSkipped with
      | abort _ _ _ behindNext later =>
      rw [killLoop_succ accounted queue] at ends
      rw [if_pos rfl] at ends
      have queued : entry ∈ processor.events.entries := by
        simp [queue]
      have nowAccounted := abortQueued_accounted callbacks accounted queued
        (unmarked entry List.mem_cons_self)
      have behindIterator : ∀ addition ∈
          (callbacks.abort entry.2.event processor.time processor.world).2,
          ∃ first ∈ rest.head?, first.1 ≤ addition.time := by
        intro addition listed
        obtain ⟨following, isFirst, upTo⟩ := behindNext addition listed
        obtain ⟨first, isHead, rfl⟩ := Option.map_eq_some_iff.mp
          (List.head?_map.symm.trans isFirst)
        exact ⟨first, isHead, upTo⟩
      obtain ⟨behind, entries, sameHead, stripped, behindUnmarked⟩ :
          ∃ behind, (processor.abortQueued callbacks entry.2).events.entries =
              (front ++ [(entry.1, mark entry.2.number entry.2)]) ++ behind ∧
            behind.head? = rest.head? ∧
            contents behind = withAdditions (contents rest)
              (callbacks.abort entry.2.event processor.time processor.world).2 ∧
            ∀ other ∈ behind, other ∈ rest ∨ other.2.toAbort = false :=
        addEvents_behind_iterator (mark_queue accounted queue) behindIterator
      have iteratorKept : iterator rest = iterator behind := by
        simp [iterator, sameHead]
      rw [iteratorKept] at ends
      refine ih (nowAccounted.note_deleted _) entries ?_ ?_ ?_ ends
      · intro other listed
        rcases List.mem_append.mp listed with inFront | itself
        · exact (gone other inFront).abortQueued _
        · rw [List.mem_singleton.mp itself]
          constructor
          · simp [note, mark_number, aborted_deleted, abortQueued_aborted]
          · rw [mark_number]
            exact List.mem_append_right _ List.mem_cons_self
      · intro other listed
        rcases behindUnmarked other listed with inRest | isUnmarked
        · exact unmarked other (List.mem_cons_of_mem _ inRest)
        · exact isUnmarked
      · rw [stripped]
        have sameTime : (processor.abortQueued callbacks entry.2).time = processor.time :=
          addEvents_time _
        have newWorld : (processor.abortQueued callbacks entry.2).world =
            (callbacks.abort entry.2.event processor.time processor.world).1 :=
          addEvents_world _
        unfold note
        rw [sameTime, newWorld]
        exact later

/-! ### Updates -/

theorem updateLoop_accounted {diff fuel : Nat} (accounted : processor.Accounted)
    (unmarked : ∀ entry ∈ processor.events.entries,
      entry.1 ≤ processor.time → entry.2.toAbort = false)
    (ends : updateLoop callbacks diff fuel processor = some killed) : killed.Accounted := by
  induction fuel generalizing processor with
  | zero => cases ends
  | succ fuel ih =>
    rw [updateLoop.eq_def] at ends
    dsimp only at ends
    split at ends
    · simp_all
    · rename_i time event rest queue
      split at ends
      · rename_i dueNow
        have isUnmarked : event.toAbort = false := by
          simp_all
        rw [isUnmarked, if_neg Bool.false_ne_true] at ends
        refine ih (executeFirst_accounted callbacks accounted queue isUnmarked) ?_ ends
        intro entry listed upTo
        rw [executeFirst_time] at upTo
        rcases mem_executeFirst callbacks listed with before | new
        · exact unmarked entry before upTo
        · exact new
      · simp_all

/-! ### Runs -/

def MeetsNoMark (callbacks : Callbacks ε σ) (processor : EventProcessor ε σ) : Call ε σ → Prop
  | .update diff => ∀ entry ∈ processor.events.entries,
      entry.1 ≤ (processor.advance diff).time → entry.2.toAbort = false
  | .kill force => (∀ entry ∈ processor.events.entries, entry.2.toAbort = false) ∧
      (force = true →
        NoneSkipped callbacks processor.time (contents processor.events.entries) processor.world)
  | _ => True

/-- No event is aborted twice or both aborted and executed, and every event that was added is
executed, aborted and deleted, or queued. -/
def NoneLost (processor : EventProcessor ε σ) : Prop :=
  (aborted processor.trace).Nodup ∧
    (∀ number ∈ aborted processor.trace, number ∉ executed processor.trace) ∧
    ∀ number event time, Happening.added number event time ∈ processor.trace →
      number ∈ executed processor.trace ∨
        (number ∈ aborted processor.trace ∧ Happening.deleted number ∈ processor.trace) ∨
        ∃ entry ∈ processor.events.entries, Holds entry number event time

theorem Kills.accounted {force : Bool} {after : EventProcessor ε σ}
    (accounted : processor.Accounted) (meets : MeetsNoMark callbacks processor (.kill force))
    (kills : Kills callbacks force processor after) : after.Accounted := by
  obtain ⟨fuel, killed, ends, rfl⟩ := kills
  cases force with
  | false =>
    rw [if_neg Bool.false_ne_true]
    have aborting : EventProcessor.Accounted { processor with aborting := true } := accounted
    exact killLoop_accounted aborting (List.nil_append _).symm meets.1 ends
  | true =>
    rw [if_pos rfl]
    have aborting : EventProcessor.Accounted { processor with aborting := true } := accounted
    obtain ⟨nowAccounted, gone⟩ := killLoop_force_accounted aborting (List.nil_append _).symm
      (fun entry listed => absurd listed List.not_mem_nil) meets.1 (meets.2 rfl) ends
    exact Shared.Accounted.clear nowAccounted gone

/-- Along runs of such calls no event is lost. -/
theorem reached_none_lost (reached : Reached callbacks (MeetsNoMark callbacks) processor) :
    processor.NoneLost := by
  have accounted : processor.Accounted := by
    refine reached.invariant (fun world => Shared.Accounted.nil) ?_
    intro processor after call accounted meets performed
    cases call with
    | add addition =>
      cases performed
      exact accounted.addEvent addition
    | change world =>
      cases performed
      exact accounted
    | update diff =>
      obtain ⟨fuel, ends⟩ := performed
      have advanced : (processor.advance diff).Accounted := accounted
      exact updateLoop_accounted advanced meets ends
    | kill force => exact Kills.accounted accounted meets performed
  exact ⟨accounted.abortedOnce, accounted.notBoth, accounted.kept⟩

def lastWords : Callbacks Unit Nat where
  execute _ _ _ world := (world, [], true)
  abort event _ world := (world - 1, if 0 < world then [⟨event, 9⟩] else [])
  isDeletable _ _ := true

theorem lastWords_none_lost :
    ∃ after, Kills lastWords true
        ((({ world := 1 } : EventProcessor Unit Nat).addEvent ⟨(), 2⟩).addEvent ⟨(), 4⟩) after ∧
      aborted after.trace = [0, 1, 2] ∧ after.NoneLost := by
  let two := (({ world := 1 } : EventProcessor Unit Nat).addEvent ⟨(), 2⟩).addEvent ⟨(), 4⟩
  have reached : Reached lastWords (MeetsNoMark lastWords) two :=
    .next (.add ⟨(), 4⟩) (.next (.add ⟨(), 2⟩) (.start 1) trivial rfl) trivial rfl
  have noneSkipped : NoneSkipped lastWords two.time (contents two.events.entries) two.world := by
    refine .abort (2, ()) [(4, ())] 1 ?_ ?_
    · decide
    · refine .abort (4, ()) [(9, ())] 0 ?_ ?_
      · decide
      · exact .abort (9, ()) [] 0 (by decide) (.done 0)
  have meets : MeetsNoMark lastWords two (.kill true) := ⟨by decide, fun _ => noneSkipped⟩
  have kills : Kills lastWords true two _ := ⟨4, _, rfl, rfl⟩
  exact ⟨_, kills, rfl, reached_none_lost (.next (.kill true) reached meets kills)⟩

def stubborn : Callbacks Unit Unit where
  execute _ _ _ world := (world, [], true)
  abort _ _ world := (world, [])
  isDeletable _ _ := false

/-- An event that stays queued is aborted again by the update that deletes it; and what the last
event adds when a kill with force aborts it is dropped. -/
theorem kill_aborts_again_and_drops :
    (¬ ∀ processor, Reached stubborn (fun _ _ => True) processor → processor.NoneLost) ∧
      ¬ ∀ processor, Reached lastWords (fun _ _ => True) processor → processor.NoneLost := by
  constructor
  · intro always
    have killed : Kills stubborn false (({ world := () } : EventProcessor Unit Unit).addEvent
      ⟨(), 5⟩) _ := ⟨2, _, rfl, rfl⟩
    have lost := always _ (.next (.update 10) (.next (.kill false)
      (.next (.add ⟨(), 5⟩) (.start ()) trivial rfl) trivial killed) trivial ⟨2, rfl⟩)
    exact absurd lost.1 (by decide)
  · intro always
    have killed : Kills lastWords true (({ world := 1 } : EventProcessor Unit Nat).addEvent
      ⟨(), 5⟩) _ := ⟨2, _, rfl, rfl⟩
    have lost := always _ (.next (.kill true)
      (.next (.add ⟨(), 5⟩) (.start 1) trivial rfl) trivial killed)
    rcases lost.2.2 1 () 9 (.tail _ (.tail _ (.head _))) with done | ⟨gone, _⟩ | ⟨entry, queued, _⟩
    · exact absurd done (by decide)
    · exact absurd gone (by decide)
    · exact absurd queued List.not_mem_nil

end EventProcessor

end DarkCore.Shared
