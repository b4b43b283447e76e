/-
Timed events (`EventProcessor.cpp`). The queue is a multimap from times to
events. What an event does when it is executed or aborted is a parameter: it
changes the world around it and adds events to the queue.

An event is known by the number of the `AddEvent` call that queued it, and a
trace keeps what happened to it; the source has neither. The times that
`AddEvent` notes in the event are never read and left out.
-/

import DarkCore.Lib.MultiMap
import Mathlib.Algebra.Order.Ring.Nat

namespace DarkCore.Shared

open Lib

variable {ε σ : Type}

/-- The arguments of one `AddEvent` call. -/
structure Addition (ε : Type) where
  event : ε
  time : Nat

/-- The virtual functions of `BasicEvent`, with the world they change and the events they add. -/
structure Callbacks (ε σ : Type) where
  /-- Answers whether the event may be destroyed. -/
  execute : ε → Nat → Nat → σ → σ × List (Addition ε) × Bool
  abort : ε → Nat → σ → σ × List (Addition ε)
  isDeletable : ε → σ → Bool

structure BasicEvent (ε : Type) where
  event : ε
  number : Nat
  toAbort : Bool := false

inductive Happening (ε : Type) where
  | added (number : Nat) (event : ε) (time : Nat)
  | executed (number : Nat)
  | aborted (number : Nat)
  | deleted (number : Nat)

structure EventProcessor (ε σ : Type) where
  time : Nat := 0
  events : MultiMap Nat (BasicEvent ε) := .empty
  aborting : Bool := false
  world : σ
  inserted : Nat := 0
  trace : List (Happening ε) := []

namespace EventProcessor

def addEvent (processor : EventProcessor ε σ) (addition : Addition ε) : EventProcessor ε σ :=
  { processor with
    events := processor.events.insert addition.time
      { event := addition.event, number := processor.inserted }
    inserted := processor.inserted + 1
    trace := processor.trace ++ [.added processor.inserted addition.event addition.time] }

def addEvents (processor : EventProcessor ε σ) (additions : List (Addition ε)) :
    EventProcessor ε σ :=
  additions.foldl addEvent processor

def note (processor : EventProcessor ε σ) (happened : List (Happening ε)) : EventProcessor ε σ :=
  { processor with trace := processor.trace ++ happened }

variable (callbacks : Callbacks ε σ)

/-- `Event->Execute`, and the event is destroyed if it answers so. -/
def executeEvent (event : BasicEvent ε) (diff : Nat) (processor : EventProcessor ε σ) :
    EventProcessor ε σ :=
  let result := callbacks.execute event.event processor.time diff processor.world
  let executed := addEvents { processor.note [.executed event.number] with world := result.1 }
    result.2.1
  if result.2.2 then executed.note [.deleted event.number] else executed

/-- `Event->Abort` -/
def abortEvent (event : BasicEvent ε) (processor : EventProcessor ε σ) : EventProcessor ε σ :=
  let result := callbacks.abort event.event processor.time processor.world
  addEvents { processor.note [.aborted event.number] with world := result.1 } result.2

/-- The loop of `Update`; there is no result when the fuel does not last. -/
def updateLoop (diff : Nat) : Nat → EventProcessor ε σ → Option (EventProcessor ε σ)
  | 0, _ => none
  | fuel + 1, processor =>
    match processor.events.entries with
    | [] => some processor
    | (time, event) :: _ =>
      if time ≤ processor.time then
        let popped := { processor with events := processor.events.tail }
        if event.toAbort then
          updateLoop diff fuel
            ((popped.abortEvent callbacks event).note [.deleted event.number])
        else updateLoop diff fuel (popped.executeEvent callbacks event diff)
      else some processor

/-- `m_time` is a `uint64`. -/
def advance (diff : Nat) (processor : EventProcessor ε σ) : EventProcessor ε σ :=
  { processor with time := (processor.time + diff) % 2 ^ 64 }

/-- `Update` ends in a state. -/
def Updates (diff : Nat) (processor after : EventProcessor ε σ) : Prop :=
  ∃ fuel, updateLoop callbacks diff fuel (processor.advance diff) = some after

/-- `to_Abort = true` for one event -/
def mark (number : Nat) (event : BasicEvent ε) : BasicEvent ε :=
  if event.number = number then { event with toAbort := true } else event

def lookUp (number : Nat) : List (Nat × BasicEvent ε) → Option (BasicEvent ε × Option Nat)
  | [] => none
  | entry :: rest =>
    if entry.2.number = number then
      some (entry.2, rest.head?.map fun following => following.2.number)
    else lookUp number rest

/-- The loop of `KillAllEvents`. An iterator is the number of the event it points to; it is moved
on before the event is aborted. -/
def killLoop (force : Bool) : Nat → Option Nat → EventProcessor ε σ → Option (EventProcessor ε σ)
  | 0, _, _ => none
  | _ + 1, none, processor => some processor
  | fuel + 1, some number, processor =>
    match lookUp number processor.events.entries with
    | none => some processor
    | some (event, following) =>
      let marked := { processor with events := processor.events.mapValues (mark number) }
      let aborted := marked.abortEvent callbacks event
      if force then killLoop force fuel following (aborted.note [.deleted number])
      else if callbacks.isDeletable event.event aborted.world then
        killLoop force fuel following
          { aborted.note [.deleted number] with
            events := aborted.events.filterValues fun other => other.number ≠ number }
      else killLoop force fuel following aborted

/-- `KillAllEvents` ends in a state. -/
def Kills (force : Bool) (processor after : EventProcessor ε σ) : Prop :=
  ∃ fuel killed, killLoop callbacks force fuel
      (processor.events.entries.head?.map fun first => first.2.number)
      { processor with aborting := true } = some killed ∧
    after = if force then { killed with events := .empty } else killed

end EventProcessor

end DarkCore.Shared
