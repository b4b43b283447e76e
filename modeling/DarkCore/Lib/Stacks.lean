/-
Stacks of items in slots. A slot is empty or holds one item, an item has an
identity, an entry and a count, and every entry has a largest stack. The file
defines what a set of slots holds of an entry, greedy planning of a delivery
over slots, and the loop that carries a plan out, with the rules that keep
totals exact, stacks within their bound and every item in one slot only.
-/

import Mathlib.Algebra.BigOperators.Group.Finset.Piecewise
import Mathlib.Algebra.Order.Ring.Int

namespace DarkCore.Lib

structure Stacking (ι ε : Type*) where
  guid : ι → Nat
  entry : ι → ε
  count : ι → Nat
  maxStack : ε → Nat

namespace Stacking

variable {ι ε l : Type*} (S : Stacking ι ε)

def held [DecidableEq ε] (e : ε) : Option ι → Nat
  | none => 0
  | some item => if S.entry item = e then S.count item else 0

def countAt : Option ι → Nat
  | none => 0
  | some item => S.count item

def total [DecidableEq ε] (support : Finset l) (slots : l → Option ι) (e : ε) : Nat :=
  ∑ place ∈ support, S.held e (slots place)

def Bounded (slots : l → Option ι) : Prop :=
  ∀ place item, slots place = some item → S.count item ≤ S.maxStack (S.entry item)

def Accepts (e : ε) (slot : Option ι) (amount : Nat) : Prop :=
  match slot with
  | none => amount ≤ S.maxStack e
  | some item => S.entry item = e ∧ S.count item + amount ≤ S.maxStack e

instance [DecidableEq ε] (e : ε) (slot : Option ι) (amount : Nat) :
    Decidable (S.Accepts e slot amount) :=
  match slot with
  | none => inferInstanceAs (Decidable (_ ≤ _))
  | some _ => inferInstanceAs (Decidable (_ ∧ _))

@[simp] theorem held_none [DecidableEq ε] (e : ε) : S.held e none = 0 := rfl

theorem held_some [DecidableEq ε] (e : ε) (item : ι) :
    S.held e (some item) = if S.entry item = e then S.count item else 0 := rfl

variable [DecidableEq l]

theorem total_update [DecidableEq ε] (support : Finset l) (slots : l → Option ι)
    {place : l} (inside : place ∈ support) (content : Option ι) (e : ε) :
    S.total support (Function.update slots place content) e + S.held e (slots place) =
      S.total support slots e + S.held e content := by
  have pointwise : (fun other => S.held e (Function.update slots place content other)) =
      Function.update (fun other => S.held e (slots other)) place (S.held e content) := by
    grind
  unfold total
  rw [pointwise, Finset.sum_update_of_mem inside,
    ← Finset.add_sum_erase support (fun other => S.held e (slots other)) inside,
    Finset.sdiff_singleton_eq_erase]
  omega

theorem Bounded.update {slots : l → Option ι} (bounded : S.Bounded slots) (place : l)
    (content : Option ι)
    (fits : ∀ item, content = some item → S.count item ≤ S.maxStack (S.entry item)) :
    S.Bounded (Function.update slots place content) := by
  intro other item present
  by_cases same : other = place
  · simp_all
  · rw [Function.update_of_ne same] at present
    exact bounded other item present

end Stacking

section Planning

variable {κ : Type*}

/-- Reserve up to `room` of the `count` that is left at `place`, unless it is planned already. -/
def reserve [DecidableEq κ] (place : κ) (room : Nat) (plan : List (κ × Nat)) (count : Nat) : List (κ × Nat) × Nat :=
  if place ∈ plan.map Prod.fst then (plan, count)
  else (plan ++ [(place, min room count)], count - min room count)

theorem reserve_first [DecidableEq κ] (place : κ) (room count : Nat) :
    reserve place room [] count = ([(place, min room count)], count - min room count) := by
  unfold reserve
  rw [List.map_nil, if_neg List.not_mem_nil, List.nil_append]

/-- A plan made so far for `total` items, of which `count` are left to place. -/
structure Planned (good : κ → Nat → Prop) (total : Nat) (plan : List (κ × Nat)) (count : Nat) :
    Prop where
  distinct : (plan.map Prod.fst).Nodup
  good : ∀ place amount, (place, amount) ∈ plan → good place amount
  sum : (plan.map Prod.snd).sum + count = total

variable {good : κ → Nat → Prop} {total count : Nat} {plan : List (κ × Nat)}

theorem Planned.empty (good : κ → Nat → Prop) (total : Nat) : Planned good total [] total where
  distinct := List.nodup_nil
  good := by intro place amount member; cases member
  sum := Nat.zero_add total

theorem Planned.reserve [DecidableEq κ] (planned : Planned good total plan count) (place : κ) (room : Nat)
    (takes : good place (min room count)) :
    Planned good total (reserve place room plan count).1 (reserve place room plan count).2 := by
  unfold Lib.reserve
  by_cases known : place ∈ plan.map Prod.fst
  · simp_all
  · rw [if_neg known]
    constructor
    · rw [List.map_append]
      exact List.Nodup.append planned.distinct (List.nodup_singleton place)
        (List.disjoint_singleton.mpr known)
    · intro other amount member
      rcases List.mem_append.mp member with before | last
      · exact planned.good other amount before
      · simp_all
    · have exact := planned.sum
      rw [List.map_append, List.sum_append, List.map_singleton, List.sum_singleton]
      omega

end Planning

section Delivery

variable {κ σ : Type*}

/-- Carry a plan out; the flag says that more positions follow. -/
def deliver (put : σ → κ → Nat → Bool → σ) : σ → List (κ × Nat) → σ
  | state, [] => state
  | state, (place, amount) :: rest =>
    deliver put (put state place amount (!rest.isEmpty)) rest

end Delivery

section Received

variable {ι ε κ l : Type*}

/-- `after` is `before` with every planned amount of entry `e` added at its place. -/
structure Received (S : Stacking ι ε) (e : ε) (locate : κ → l) (plan : List (κ × Nat))
    (before after : l → Option ι) : Prop where
  other : ∀ spot, (∀ place amount, (place, amount) ∈ plan → locate place ≠ spot) →
    after spot = before spot
  planned : ∀ place amount, (place, amount) ∈ plan → ∃ item,
    after (locate place) = some item ∧ S.entry item = e ∧
      S.count item = S.countAt (before (locate place)) + amount

variable {S : Stacking ι ε} {e : ε} {locate : κ → l} {plan : List (κ × Nat)}
  {before after : l → Option ι}

theorem Received.refl (slots : l → Option ι) : Received S e locate [] slots slots where
  other := fun _ _ => rfl
  planned := by intro place amount member; cases member

theorem Received.tail [DecidableEq l] {place : κ} {amount : Nat} {rest : List (κ × Nat)}
    (distinct : (((place, amount) :: rest).map (fun entry => locate entry.1)).Nodup)
    (received : Received S e locate ((place, amount) :: rest) before after) :
    Received S e locate rest (Function.update before (locate place) (after (locate place)))
      after := by
  rw [List.map_cons, List.nodup_cons] at distinct
  have apart : ∀ other count, (other, count) ∈ rest → locate other ≠ locate place := by
    grind
  constructor
  · intro spot untouched
    by_cases same : spot = locate place
    · rw [same, Function.update_self]
    · rw [Function.update_of_ne same]
      refine received.other spot ?_
      intro other count member
      rcases List.mem_cons.mp member with first | later
      · grind
      · exact untouched other count later
  · intro other count member
    obtain ⟨item, present, entry, sum⟩ :=
      received.planned other count (List.mem_cons_of_mem _ member)
    rw [Function.update_of_ne (apart other count member)]
    exact ⟨item, present, entry, sum⟩

theorem Received.total [DecidableEq ε] [DecidableEq l] {support : Finset l}
    (distinct : (plan.map (fun entry => locate entry.1)).Nodup)
    (inside : ∀ place amount, (place, amount) ∈ plan → locate place ∈ support)
    (takes : ∀ place amount, (place, amount) ∈ plan → S.Accepts e (before (locate place)) amount)
    (received : Received S e locate plan before after) (kind : ε) :
    S.total support after kind =
      S.total support before kind + if e = kind then (plan.map Prod.snd).sum else 0 := by
  induction plan generalizing before with
  | nil =>
    have same : after = before := by
      funext spot
      exact received.other spot (by intro place amount member; cases member)
    rw [same, List.map_nil, List.sum_nil, ite_self, Nat.add_zero]
  | cons head rest ih =>
    obtain ⟨place, amount⟩ := head
    have tail := received.tail distinct
    have apart := (List.nodup_cons.mp (List.map_cons ▸ distinct))
    have later := ih apart.2
      (fun other count member => inside other count (List.mem_cons_of_mem _ member))
      (by
        intro other count member
        rw [Function.update_of_ne]
        · exact takes other count (List.mem_cons_of_mem _ member)
        · intro same
          exact apart.1 (List.mem_map.mpr ⟨(other, count), member, same⟩))
      tail
    obtain ⟨item, present, entry, sum⟩ := received.planned place amount List.mem_cons_self
    have first := S.total_update support before
      (inside place amount List.mem_cons_self) (after (locate place)) kind
    have accepted := takes place amount List.mem_cons_self
    have gain : S.held kind (after (locate place)) =
        S.held kind (before (locate place)) + if e = kind then amount else 0 := by
      rw [present, S.held_some, entry, sum]
      cases old : before (locate place) with
      | none =>
        rw [S.held_none, Stacking.countAt, Nat.zero_add, Nat.zero_add]
      | some resident =>
        rw [old] at accepted
        rw [S.held_some, accepted.1, Stacking.countAt]
        split <;> rfl
    rw [later, List.map_cons, List.sum_cons]
    by_cases same : e = kind
    · rw [if_pos same] at gain ⊢
      rw [if_pos same]
      omega
    · rw [if_neg same] at gain ⊢
      rw [if_neg same]
      omega

end Received

section Identities

variable {ι ε κ l σ : Type*}

/-- Stacks within their bound, identities in one slot only, and identities from `next` on unused. -/
structure Coherent (S : Stacking ι ε) (slots : l → Option ι) (next : Nat) : Prop where
  bounded : S.Bounded slots
  distinct : ∀ first second left right, slots first = some left → slots second = some right →
    S.guid left = S.guid right → first = second
  fresh : ∀ place item, slots place = some item → S.guid item < next

def Absent (S : Stacking ι ε) (slots : l → Option ι) (item : ι) : Prop :=
  ∀ place resident, slots place = some resident → S.guid resident ≠ S.guid item

def Keeps (S : Stacking ι ε) (before after : l → Option ι) (place : l) : Prop :=
  ∀ item, before place = some item → ∃ left, after place = some left ∧
    S.guid left = S.guid item ∧ S.entry left = S.entry item ∧ S.count item ≤ S.count left

variable {S : Stacking ι ε} {before after : l → Option ι}

theorem Keeps.refl (S : Stacking ι ε) (slots : l → Option ι) (place : l) :
    Keeps S slots slots place :=
  fun item present => ⟨item, present, rfl, rfl, Nat.le_refl _⟩

theorem Keeps.trans {middle : l → Option ι} {place : l} (former : Keeps S before middle place)
    (latter : Keeps S middle after place) : Keeps S before after place := by
  intro item present
  obtain ⟨between, atMiddle, guid, entry, count⟩ := former item present
  obtain ⟨left, atLeft, guid', entry', count'⟩ := latter between atMiddle
  exact ⟨left, atLeft, guid'.trans guid, entry'.trans entry, Nat.le_trans count count'⟩

theorem Coherent.sub {next : Nat} (coherent : Coherent S before next)
    (fewer : ∀ place item, after place = some item → before place = some item) :
    Coherent S after next where
  bounded := fun place item present => coherent.bounded place item (fewer place item present)
  distinct := fun first second left right atFirst atSecond same =>
    coherent.distinct first second left right (fewer first left atFirst)
      (fewer second right atSecond) same
  fresh := fun place item present => coherent.fresh place item (fewer place item present)

theorem Coherent.update [DecidableEq l] {next next' : Nat} (coherent : Coherent S before next)
    {place : l} {content : Option ι} (later : next ≤ next')
    (fits : ∀ item, content = some item →
      S.count item ≤ S.maxStack (S.entry item) ∧ S.guid item < next')
    (apart : ∀ item other resident, content = some item → other ≠ place →
      before other = some resident → S.guid resident ≠ S.guid item) :
    Coherent S (Function.update before place content) next' where
  bounded := coherent.bounded.update S place content (fun item present => (fits item present).1)
  distinct := by
    intro first second left right atFirst atSecond same
    by_cases firstHere : first = place
    · grind
    · rw [Function.update_of_ne firstHere] at atFirst
      by_cases secondHere : second = place
      · grind
      · rw [Function.update_of_ne secondHere] at atSecond
        exact coherent.distinct first second left right atFirst atSecond same
  fresh := by
    intro other item present
    by_cases here : other = place
    · simp_all
    · rw [Function.update_of_ne here] at present
      exact Nat.lt_of_lt_of_le (coherent.fresh other item present) later

theorem Coherent.cleared [DecidableEq l] {next next' : Nat} (coherent : Coherent S before next)
    {place : l} {item : ι} (present : before place = some item) (later : next ≤ next') :
    Coherent S (Function.update before place none) next' ∧
      S.guid item < next' ∧ Absent S (Function.update before place none) item := by
  refine ⟨coherent.update later (by intro left impossible; cases impossible)
    (by intro left other resident impossible; cases impossible),
    Nat.lt_of_lt_of_le (coherent.fresh place item present) later, ?_⟩
  intro other resident atOther same
  by_cases here : other = place
  · simp_all
  · rw [Function.update_of_ne here] at atOther
    exact here (coherent.distinct other place resident item atOther present same)

theorem Coherent.placed [DecidableEq l] {next next' : Nat} (coherent : Coherent S before next)
    (place : l) {item : ι} (fits : S.count item ≤ S.maxStack (S.entry item))
    (below : S.guid item < next) (absent : Absent S before item) (later : next ≤ next') :
    Coherent S (Function.update before place (some item)) next' := by
  refine coherent.update later ?_ ?_
  · grind
  · intro placed other resident equal _ present
    cases equal
    exact absent other resident present

/-- One step of a delivery of `item`: the slot is filled up, gets a fresh copy while more positions
follow, or gets the item itself. -/
structure Put [DecidableEq l] (S : Stacking ι ε) (item : ι) (place : l) (amount : Nat)
    (more : Bool) (before after : l → Option ι) (next next' : Nat) (stored : ι) : Prop where
  written : after = Function.update before place (some stored)
  entry : S.entry stored = S.entry item
  count : S.count stored = S.countAt (before place) + amount
  later : next ≤ next'
  guid : (∃ resident, before place = some resident ∧ S.guid stored = S.guid resident) ∨
    (before place = none ∧ more = true ∧ S.guid stored = next ∧ next < next') ∨
    (before place = none ∧ more = false ∧ S.guid stored = S.guid item)

section Step

variable [DecidableEq l] {item stored : ι} {place : l} {amount next next' : Nat} {more : Bool}

theorem Put.keeps (put : Put S item place amount more before after next next' stored)
    (takes : S.Accepts (S.entry item) (before place) amount) (other : l) :
    Keeps S before after other := by
  intro resident present
  rw [put.written]
  by_cases here : other = place
  · subst here
    rw [present] at takes
    refine ⟨stored, Function.update_self .., ?_, put.entry.trans takes.1.symm, ?_⟩
    · rcases put.guid with ⟨old, atPlace, same⟩ | ⟨empty, _⟩ | ⟨empty, _⟩ <;> simp_all
    · rw [put.count, present]
      exact Nat.le_add_right _ _
  · exact ⟨resident, by rw [Function.update_of_ne here, present], rfl, rfl, Nat.le_refl _⟩

theorem Put.coherent (put : Put S item place amount more before after next next' stored)
    (coherent : Coherent S before next) (below : S.guid item < next)
    (absent : Absent S before item)
    (takes : S.Accepts (S.entry item) (before place) amount) : Coherent S after next' := by
  rw [put.written]
  refine coherent.update put.later ?_ ?_
  · intro placed equal
    cases equal
    constructor
    · rw [put.entry, put.count]
      cases content : before place with
      | none =>
        rw [content] at takes
        rw [Stacking.countAt, Nat.zero_add]
        exact takes
      | some resident =>
        rw [content] at takes
        exact takes.2
    · rcases put.guid with ⟨old, atPlace, same⟩ | ⟨_, _, generated, used⟩ | ⟨_, _, own⟩
      · rw [same]
        exact Nat.lt_of_lt_of_le (coherent.fresh place old atPlace) put.later
      · omega
      · rw [own]
        exact Nat.lt_of_lt_of_le below put.later
  · intro placed other resident equal different present same
    cases equal
    rcases put.guid with ⟨old, atPlace, sameGuid⟩ | ⟨_, _, generated, _⟩ | ⟨_, _, own⟩
    · exact different (coherent.distinct other place resident old present atPlace
        (same.trans sameGuid))
    · have unused := coherent.fresh other resident present
      omega
    · exact absent other resident present (same.trans own)

theorem Put.absent (put : Put S item place amount true before after next next' stored)
    (below : S.guid item < next) (absent : Absent S before item) : Absent S after item := by
  intro other resident present
  rw [put.written] at present
  by_cases here : other = place
  · subst here
    rw [Function.update_self] at present
    cases present
    rcases put.guid with ⟨old, atPlace, same⟩ | ⟨_, _, generated, _⟩ | ⟨_, impossible, _⟩
    · rw [same]
      exact absent _ old atPlace
    · omega
    · cases impossible
  · rw [Function.update_of_ne here] at present
    exact absent other resident present

end Step

/-- A loop whose every step puts its amount at its own place delivers the whole plan: exactly the
planned places grow, and every item stays in one slot only. -/
theorem deliver_stores [DecidableEq l] (put : σ → κ → Nat → Bool → σ) (view : σ → l → Option ι)
    (next : σ → Nat) (inv : σ → Prop) {item : ι} {locate : κ → l} {plan : List (κ × Nat)}
    (step : ∀ state place amount more, inv state → Coherent S (view state) (next state) →
      Absent S (view state) item → (∃ count, (place, count) ∈ plan) →
      S.Accepts (S.entry item) (view state (locate place)) amount → (more = true → 0 < amount) →
      inv (put state place amount more) ∧ ∃ stored,
        Put S item (locate place) amount more (view state) (view (put state place amount more))
          (next state) (next (put state place amount more)) stored)
    (distinct : (plan.map (fun entry => locate entry.1)).Nodup)
    (positive : 1 < plan.length → ∀ place amount, (place, amount) ∈ plan → 0 < amount)
    (state : σ) (start : inv state) (coherent : Coherent S (view state) (next state))
    (below : S.guid item < next state)
    (absent : plan ≠ [] → Absent S (view state) item)
    (takes : ∀ place amount, (place, amount) ∈ plan →
      S.Accepts (S.entry item) (view state (locate place)) amount) :
    inv (deliver put state plan) ∧
      Coherent S (view (deliver put state plan)) (next (deliver put state plan)) ∧
      next state ≤ next (deliver put state plan) ∧
      (∀ place, Keeps S (view state) (view (deliver put state plan)) place) ∧
      Received S (S.entry item) locate plan (view state) (view (deliver put state plan)) := by
  induction plan generalizing state with
  | nil => exact ⟨start, coherent, Nat.le_refl _, Keeps.refl S _, Received.refl _⟩
  | cons head rest ih =>
    obtain ⟨place, amount⟩ := head
    have apart := List.nodup_cons.mp (List.map_cons ▸ distinct)
    have elsewhere : ∀ other count, (other, count) ∈ rest → locate other ≠ locate place := by
      grind
    have follows : (!rest.isEmpty) = true → 0 < amount := by
      grind
    have accepted := takes place amount List.mem_cons_self
    have notHere := absent (List.cons_ne_nil _ _)
    obtain ⟨kept, stored, stepped⟩ := step state place amount (!rest.isEmpty) start
      coherent notHere ⟨amount, List.mem_cons_self⟩ accepted follows
    have written := stepped.written
    obtain ⟨final, finalCoherent, later, keeps, received⟩ := ih
      (fun state other count more invariant whole apart known =>
        step state other count more invariant whole apart
          (known.imp fun _ member => List.mem_cons_of_mem _ member))
      apart.2
      (by
        intro longer other count member
        refine positive ?_ other count (List.mem_cons_of_mem _ member)
        rw [List.length_cons]
        exact Nat.lt_succ_of_lt longer)
      (put state place amount (!rest.isEmpty)) kept
      (stepped.coherent coherent below notHere accepted)
      (Nat.lt_of_lt_of_le below stepped.later)
      (by
        intro some_left
        cases rest with
        | nil => exact absurd rfl some_left
        | cons _ _ => exact stepped.absent below notHere)
      (by
        intro other count member
        rw [written, Function.update_of_ne (elsewhere other count member)]
        exact takes other count (List.mem_cons_of_mem _ member))
    refine ⟨final, finalCoherent, Nat.le_trans stepped.later later,
      fun other => (stepped.keeps accepted other).trans (keeps other), ?_, ?_⟩
    · intro spot untouched
      have rested := received.other spot
        (fun other count member => untouched other count (List.mem_cons_of_mem _ member))
      rw [written, Function.update_of_ne (untouched place amount List.mem_cons_self).symm] at rested
      exact rested
    · intro other count member
      rcases List.mem_cons.mp member with first | later
      · cases first
        refine ⟨stored, ?_, stepped.entry, stepped.count⟩
        have rested := received.other (locate place) elsewhere
        rw [written, Function.update_self] at rested
        exact rested
      · obtain ⟨filled, present, kind, amounts⟩ := received.planned other count later
        rw [written, Function.update_of_ne (elsewhere other count later)] at amounts
        exact ⟨filled, present, kind, amounts⟩

end Identities

end DarkCore.Lib
