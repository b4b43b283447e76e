/-
The buy-back slots of a player (`AddItemToBuyBackSlot`, `RemoveItemFromBuyBackSlot`):
twelve slots, a current one, and the search for the slot of the next item.
-/

import DarkCore.Lib.Runs
import Mathlib.Data.List.FinRange

namespace DarkCore.Player

open Lib
open Function (update)

/-- From `BUYBACK_SLOT_START` on -/
abbrev BuyBackSlot := Fin 12

structure SoldItem where
  guid : Nat
  price : Nat
  timestamp : Nat
  deriving DecidableEq

structure BuyBack where
  items : BuyBackSlot → Option SoldItem
  currentBuybackSlot : BuyBackSlot

namespace BuyBack

/-- `PLAYER_FIELD_BUYBACK_TIMESTAMP_1`, zero for a free slot -/
def timestamp (buyBack : BuyBack) (slot : BuyBackSlot) : Nat :=
  match buyBack.items slot with
  | none => 0
  | some item => item.timestamp

/-- `RemoveItemFromBuyBackSlot` -/
def removeItem (buyBack : BuyBack) (slot : BuyBackSlot) : BuyBack :=
  let items := update buyBack.items slot none
  { items := items
    currentBuybackSlot :=
      if (items buyBack.currentBuybackSlot).isSome then slot else buyBack.currentBuybackSlot }

/-- The loop behind the first slot. The free slot that ends it is overwritten with the oldest one
after the loop. -/
def searchOldest (buyBack : BuyBack) : List BuyBackSlot → Nat → BuyBackSlot → BuyBackSlot
  | [], _, oldestSlot => oldestSlot
  | i :: rest, oldestTime, oldestSlot =>
    if buyBack.items i = none then oldestSlot
    else if oldestTime > buyBack.timestamp i then
      buyBack.searchOldest rest (buyBack.timestamp i) i
    else buyBack.searchOldest rest oldestTime oldestSlot

def slotForItem (buyBack : BuyBack) : BuyBackSlot :=
  if (buyBack.items buyBack.currentBuybackSlot).isSome then
    buyBack.searchOldest (List.finRange 12).tail (buyBack.timestamp 0) 0
  else buyBack.currentBuybackSlot

/-- `AddItemToBuyBackSlot` -/
def addItem (buyBack : BuyBack) (item : SoldItem) : BuyBack :=
  let slot := buyBack.slotForItem
  let removed := buyBack.removeItem slot
  { items := update removed.items slot (some item)
    currentBuybackSlot :=
      if removed.currentBuybackSlot.val < 11 then removed.currentBuybackSlot + 1
      else removed.currentBuybackSlot }

/-- The item that `addItem` marks as removed -/
def destroyed (buyBack : BuyBack) : Option SoldItem := buyBack.items buyBack.slotForItem

inductive Action where
  | add (item : SoldItem)
  | remove (slot : BuyBackSlot)

def next (buyBack : BuyBack) : Action → BuyBack
  | .add item => buyBack.addItem item
  | .remove slot => buyBack.removeItem slot

def Full (buyBack : BuyBack) : Prop := ∀ slot, buyBack.items slot ≠ none

/-- Only where every slot is taken a sold item makes way, the oldest one, and an item that was
not in the slots is in one of them afterwards. -/
def Proper (buyBack : BuyBack) : Action → Prop
  | .remove _ => True
  | .add item =>
    (∀ old, buyBack.destroyed = some old →
      buyBack.Full ∧ ∀ slot, old.timestamp ≤ buyBack.timestamp slot) ∧
      ((∀ slot other, buyBack.items slot = some other → other.guid ≠ item.guid) →
        ∃! slot, ∃ held, (buyBack.addItem item).items slot = some held ∧ held.guid = item.guid)

def NoGap (buyBack : BuyBack) : Action → Prop
  | .remove _ => True
  | .add _ => buyBack.items buyBack.currentBuybackSlot = none ∨ buyBack.items 0 = none ∨ buyBack.Full

variable {buyBack : BuyBack}

theorem timestamp_of_free {slot : BuyBackSlot} (free : buyBack.items slot = none) :
    buyBack.timestamp slot = 0 := by
  simp [timestamp, free]

theorem timestamp_of_taken {slot : BuyBackSlot} {item : SoldItem}
    (taken : buyBack.items slot = some item) : buyBack.timestamp slot = item.timestamp := by
  simp [timestamp, taken]

theorem searchOldest_zero (rest : List BuyBackSlot) (slot : BuyBackSlot) :
    buyBack.searchOldest rest 0 slot = slot := by
  induction rest with
  | nil => rfl
  | cons i rest ih => simp [searchOldest, ih]

theorem searchOldest_taken (rest : List BuyBackSlot) {slot : BuyBackSlot} (taken : buyBack.items slot ≠ none) :
    buyBack.items (buyBack.searchOldest rest (buyBack.timestamp slot) slot) ≠ none ∧
      buyBack.timestamp (buyBack.searchOldest rest (buyBack.timestamp slot) slot) ≤
        buyBack.timestamp slot ∧
      (buyBack.Full → ∀ i ∈ rest,
        buyBack.timestamp (buyBack.searchOldest rest (buyBack.timestamp slot) slot) ≤
          buyBack.timestamp i) := by
  induction rest generalizing slot with
  | nil => simp [searchOldest, taken]
  | cons i rest ih =>
    rw [searchOldest]
    split
    · rename_i gap
      exact ⟨taken, Nat.le_refl _, fun full => absurd gap (full i)⟩
    · rename_i present
      split
      · obtain ⟨stays, older, oldest⟩ := ih present
        refine ⟨stays, by omega, fun full => ?_⟩
        simpa [older] using oldest full
      · obtain ⟨stays, older, oldest⟩ := ih taken
        refine ⟨stays, older, fun full => ?_⟩
        rw [List.forall_mem_cons]
        exact ⟨by omega, oldest full⟩

theorem items_addItem (item : SoldItem) :
    (buyBack.addItem item).items = update buyBack.items buyBack.slotForItem (some item) := by
  simp [addItem, removeItem]

theorem addItem_once {item : SoldItem}
    (fresh : ∀ slot other, buyBack.items slot = some other → other.guid ≠ item.guid) :
    ∃! slot, ∃ held, (buyBack.addItem item).items slot = some held ∧ held.guid = item.guid := by
  refine ⟨buyBack.slotForItem, ⟨item, by simp [items_addItem], rfl⟩, ?_⟩
  rintro slot ⟨held, isHeld, same⟩
  by_contra other
  rw [items_addItem, Function.update_of_ne other] at isHeld
  exact fresh slot held isHeld same

theorem slots_eq (slot : BuyBackSlot) : slot = 0 ∨ slot ∈ (List.finRange 12).tail := by
  revert slot
  decide

theorem proper_iff_noGap (buyBack : BuyBack) (action : Action) :
    buyBack.Proper action ↔ buyBack.NoGap action := by
  cases action with
  | remove => exact Iff.rfl
  | add item =>
    simp only [Proper, NoGap, and_iff_left addItem_once]
    cases current : buyBack.items buyBack.currentBuybackSlot with
    | none => simp [destroyed, slotForItem, current]
    | some held =>
      cases first : buyBack.items 0 with
      | none =>
        simp [destroyed, slotForItem, current, timestamp_of_free first, searchOldest_zero, first]
      | some start =>
        have taken : buyBack.items 0 ≠ none := by simp [first]
        obtain ⟨stays, older, oldest⟩ := searchOldest_taken (List.finRange 12).tail taken
        obtain ⟨old, isOld⟩ := Option.ne_none_iff_exists'.mp stays
        have time := timestamp_of_taken isOld
        have goes : buyBack.destroyed = some old := by
          simp [destroyed, slotForItem, current, isOld]
        simp only [goes, Option.some.injEq, forall_eq', reduceCtorEq, false_or]
        constructor
        · exact And.left
        · intro full
          refine ⟨full, fun slot => ?_⟩
          rw [← time]
          rcases slots_eq slot with rfl | behind
          · exact older
          · exact oldest full slot behind

/-- In every run the additions are proper exactly when none of them searches past a gap. -/
theorem proper_run_iff (actions : List Action) :
    Along next Proper buyBack actions ↔ Along next NoGap buyBack actions :=
  @along_iff_along _ _ next (fun _ => True) NoGap Proper (fun _ _ => True)
    (fun state action _ _ => proper_iff_noGap state action) (fun _ _ _ _ _ => trivial) buyBack
    actions trivial (along_true buyBack actions)

def initial : BuyBack := { items := fun _ => none, currentBuybackSlot := 0 }

/-- All slots are filled; the third, the seventh and the fifth item are bought back, and items
take the place of the first two. -/
def gapped : List Action :=
  ((List.range 12).map fun n => .add ⟨n + 1, 100, n + 1⟩) ++
    [.remove 2, .add ⟨13, 100, 13⟩, .remove 6, .remove 4, .add ⟨14, 100, 14⟩]

/-- The fifth slot is free, and yet the oldest item of those before it goes. -/
theorem not_proper_gapped :
    ¬ Proper (gapped.foldl next initial) (.add ⟨15, 100, 15⟩) ∧
      (gapped.foldl next initial).items 4 = none := by
  constructor
  · rw [proper_iff_noGap]
    simp only [NoGap, not_or]
    exact ⟨by decide +kernel, by decide +kernel, fun full => full 4 (by decide +kernel)⟩
  · decide +kernel

end BuyBack

end DarkCore.Player
