/-
Runs of a motion master: requests from outside and from the generators themselves,
in any order and nested to any depth. Where no generator overwrites another one,
is deleted behind its own back or is expired for another one, every generator is in
one place until it has been finalized and deleted, once.
-/

import DarkCore.Lib.Runs
import DarkCore.Movement.MotionCalls

namespace DarkCore.Movement

open DarkCore.Lib

/-- The generator whose `Finalize` a call waits for -/
def Frame.finalizes : Frame → Option Generator
  | .finalizing generator => some generator
  | _ => none

namespace Machine

variable {machine : Machine}

/-- The generators whose `Finalize` has been called -/
def finalized (machine : Machine) : List Generator :=
  machine.deleted ++ machine.stack.filterMap Frame.finalizes

/-- Between two calls from outside the top is a valid index, occupied, and the highest slot that is,
and whatever has been made is in one place: in a slot, in the expire list or deleted. At all times,
each generator has been finalized at most once, and none whose `Update` is running. -/
structure Regular (machine : Machine) : Prop where
  valid : machine.stack = [] → 0 < machine.master.size ∧ machine.master.size ≤ maxMotionSlot
  occupied : machine.stack = [] → machine.master.top ≠ none
  above : machine.stack = [] →
    ∀ index, machine.master.size ≤ index → machine.master.impl index = none
  placed : machine.stack = [] → ∀ serial < machine.serial,
    machine.master.holds serial + listed serial machine.deleted = 1
  once : ∀ serial, listed serial machine.finalized ≤ 1
  still : ∀ generator, Frame.updating generator ∈ machine.stack →
    generator ∉ machine.finalized

/-- The generator whose `Update` returns `false` is the only one that may leave its slot for it. -/
def Expires (state : Option Machine) (action : Action) : Prop :=
  ∀ machine after generator rest, state = some machine →
    machine.stack = .updating generator :: rest → action = .updateReturns false →
      next state action = some after →
        ∀ index, after.master.impl index = machine.master.impl index ∨
          machine.master.impl index = some generator

/-- A step that does not reach one of the defects: `Mutate` does not delete a generator that is
updating below the top, nor overwrite one that `Finalize` of the old one has put into the slot; a
generator whose `Update` returns `false` is still the top, or alone; no call reads the top while
all slots are empty. -/
def Sound (machine : Machine) : Action → Prop
  | .request request => machine.isOpen = true → ∀ mutation,
      machine.mutation request = some mutation → machine.MayMutate mutation.slot
  | .updateReturns alive => alive = false → ∀ generator rest,
      machine.stack = .updating generator :: rest →
        machine.master.size ≤ 1 ∨ machine.master.top = some generator
  | .proceed => ∀ frame rest, machine.stack = frame :: rest → machine.MayResume frame
  | _ => True

theorem listed_finalizing_le (serial : Nat) (stack : List Frame) :
    listed serial (stack.filterMap Frame.finalizes) ≤ (stack.map (Frame.holds serial)).sum := by
  induction stack with
  | nil => exact le_refl _
  | cons frame rest ih =>
    rw [List.map_cons, List.sum_cons]
    cases frame with
    | finalizing generator =>
      have head : (Frame.finalizing generator).finalizes = some generator := rfl
      rw [List.filterMap_cons_some head, listed_cons]
      exact Nat.add_le_add_left ih _
    | _ =>
      rw [List.filterMap_cons_none rfl]
      exact le_trans ih (Nat.le_add_left _ _)

theorem listed_pos {serial : Nat} {type : MovementGeneratorType} {generators : List Generator}
    (inside : Generator.made serial type ∈ generators) : 0 < listed serial generators := by
  obtain ⟨front, back, split⟩ := List.append_of_mem inside
  have one : (Generator.made serial type).is serial = 1 := if_pos rfl
  rw [split, listed_append, listed_cons, one]
  omega

theorem Sane.regular (sane : machine.Sane []) : machine.Regular := by
  have finalized : ∀ serial, listed serial machine.finalized ≤
      machine.carried serial + listed serial machine.deleted := by
    intro serial
    have running := listed_finalizing_le serial machine.stack
    unfold Machine.finalized
    rw [listed_append, Nat.add_comm]
    exact Nat.add_le_add_right running _
  refine ⟨?_, ?_, ?_, ?_, ?_, ?_⟩
  · exact fun _ => ⟨sane.tidy.positive, sane.tidy.valid⟩
  · intro outermost
    apply sane.top_occupied
    intro generator slot waits
    rw [outermost] at waits
    cases waits
  · exact fun _ => sane.tidy.above
  · intro outermost serial made
    have places := sane.places serial
    unfold carried at places
    rw [outermost, if_pos made] at places
    exact places
  · intro serial
    have places := sane.places serial
    have le := finalized serial
    split at places <;> omega
  · intro generator runs gone
    cases generator with
    | idle => exact (sane.nested.updating_mem runs).2 rfl
    | made serial type =>
      have keeps := (sane.running _ runs).resolve_right List.not_mem_nil
      have held := keeps.holds_pos
      have places := sane.places serial
      have le := finalized serial
      have positive := listed_pos gone
      split at places <;> omega

/-- `Update` has returned, and nothing else has happened yet. -/
theorem Sane.updateReturns (sane : machine.Sane []) {generator : Generator} {rest : List Frame}
    (stack : machine.stack = .updating generator :: rest) :
    ({ machine with
        master := { machine.master with update := false }
        stack := rest } : Machine).Sane [] := by
  have nested := sane.nested
  rw [stack] at nested
  obtain ⟨-, alone⟩ := nested.updating_inv
  refine ⟨⟨sane.tidy.positive, sane.tidy.valid, sane.tidy.above, sane.tidy.occupied⟩,
    ?_, ?_, ?_, ?_⟩
  · dsimp only
    rw [alone]
    exact Nested.after
  · intro free
    obtain ⟨other, waits⟩ := sane.lowest free
    rw [stack, alone] at waits
    rcases List.mem_cons.mp waits with same | later
    · cases same
    · cases List.mem_singleton.mp later
  · simp [alone]
  · intro serial
    have places := sane.places serial
    unfold carried at places ⊢
    rw [stack, List.map_cons, List.sum_cons,
      show (Frame.updating generator).holds serial = 0 from rfl, zero_add] at places
    exact places

/-- `Finalize` has returned, and the generator is deleted. -/
theorem Sane.finalizeReturns (sane : machine.Sane []) {generator : Generator} {rest : List Frame}
    (stack : machine.stack = .finalizing generator :: rest) :
    ({ machine with stack := rest, deleted := machine.deleted ++ [generator] } :
      Machine).Sane [] := by
  refine ⟨sane.tidy, ?_, ?_, ?_, ?_⟩
  · have nested := sane.nested
    rw [stack] at nested
    exact nested.tail trivial
  · intro free
    obtain ⟨other, waits⟩ := sane.lowest free
    rw [stack] at waits
    rcases List.mem_cons.mp waits with same | later
    · cases same
    · exact ⟨other, later⟩
  · intro other runs
    apply sane.running
    rw [stack]
    exact List.mem_cons_of_mem _ runs
  · intro serial
    have places := sane.places serial
    unfold carried at places ⊢
    rw [stack, List.map_cons, List.sum_cons,
      show (Frame.finalizing generator).holds serial = generator.is serial from rfl] at places
    dsimp only
    rw [listed_append, listed_cons, show listed serial [] = 0 from rfl]
    rw [show listed serial [] = 0 from rfl] at places
    rw [← places]
    omega

theorem Sane.step (sane : machine.Sane []) {action : Action} (sound : machine.Sound action) :
    ∃ after, machine.step action = some after ∧ after.Sane [] := by
  cases action with
  | request request =>
    unfold Machine.step
    dsimp only
    split
    · rename_i isOpen
      exact sane.request (sound isOpen)
    · exact ⟨machine, rfl, sane⟩
  | updateMotion hindered =>
    unfold Machine.step
    dsimp only
    split
    · rename_i may
      exact sane.updateMotion may.1
    · exact ⟨machine, rfl, sane⟩
  | updateReturns alive =>
    unfold Machine.step
    dsimp only
    split
    · rename_i generator rest stack
      have returned := sane.updateReturns stack
      split
      · exact ⟨_, rfl, returned⟩
      · exact returned.movementExpired true
    · exact ⟨machine, rfl, sane⟩
  | finalizeReturns =>
    unfold Machine.step
    dsimp only
    split
    · rename_i generator rest stack
      exact ⟨_, rfl, sane.finalizeReturns stack⟩
    · exact ⟨machine, rfl, sane⟩
  | proceed =>
    unfold Machine.step
    dsimp only
    split
    · exact ⟨machine, rfl, sane⟩
    · rename_i frame rest stack
      exact sane.resume stack (sound frame rest stack)

/-- `DirectExpire` takes nothing but the top, and not the last generator. -/
theorem movementExpired_impl {reset : Bool} (direct : machine.master.update = false)
    {after : Machine} (expired : machine.movementExpired reset = some after) (index : Nat) :
    after.master.impl index = machine.master.impl index ∨
      1 < machine.master.size ∧ index = machine.master.size - 1 := by
  unfold Machine.movementExpired at expired
  rw [direct, if_neg Bool.false_ne_true] at expired
  split at expired
  · rename_i more
    split at expired
    · cases expired
    · rename_i curr found
      cases expired
      by_cases top : index = machine.master.size - 1
      · exact Or.inr ⟨more, top⟩
      · left
        have popped : (Machine.directDelete (Machine.push
            { machine with master := machine.master.popTop } (.expired reset)) curr).master =
              machine.master.popTop := by
          cases curr <;> rfl
        rw [popped, MotionMaster.popTop_impl, Function.update_of_ne top]
  · cases expired
    exact Or.inl rfl

theorem Sound.expires {action : Action} (sound : machine.Sound action) :
    Expires (some machine) action := by
  rintro same after generator rest ⟨⟩ stack rfl stepped index
  unfold next Machine.step at stepped
  rw [Option.bind_some] at stepped
  rw [stack] at stepped
  have expired : Machine.movementExpired
      { machine with
        master := { machine.master with update := false }
        stack := rest } true = some after := stepped
  rcases movementExpired_impl rfl expired index with kept | ⟨more, top⟩
  · exact Or.inl kept
  · rcases sound rfl generator rest stack with few | isTop
    · exact absurd more (Nat.not_lt_of_le few)
    · right
      rw [top]
      exact isTop

theorem init_sane (isPlayer : Bool) (type : Option MovementGeneratorType) :
    (init isPlayer type).Sane [] := by
  have tidy : ∀ default, (MotionMaster.init default).Tidy := by
    intro default
    refine ⟨Nat.one_pos, (show 1 ≤ 3 by decide), ?_, fun more => absurd more (lt_irrefl 1)⟩
    intro index above
    have different : index ≠ MovementSlot.idle.index := Nat.ne_of_gt above
    change Function.update (fun _ => none) MovementSlot.idle.index (some default) index = none
    rw [Function.update_of_ne different]
  cases type with
  | none =>
    refine ⟨tidy .idle, Nested.outside, ?_, fun _ runs => absurd runs List.not_mem_nil, ?_⟩
    · intro free
      cases free
    · intro serial
      rfl
  | some type =>
    refine ⟨tidy (.made 0 type), Nested.outside, ?_, fun _ runs => absurd runs List.not_mem_nil, ?_⟩
    · intro free
      cases free
    · intro serial
      change (if 0 = serial then 1 else 0) + 0 + 0 + 0 + 0 + 0 + 0 = if serial < 1 then 1 else 0
      by_cases first : 0 = serial <;> grind

/-- In a run of sound steps the motion master is regular in every state, whatever is requested from
outside and from the generators, and whatever is expired is what had to be. -/
theorem always_in_place (isPlayer : Bool) (type : Option MovementGeneratorType)
    (actions : List Action)
    (sound : Along next (fun state action => ∀ machine, state = some machine →
      machine.Sound action) (some (init isPlayer type)) actions) :
    Always next (fun state => ∃ machine, state = some machine ∧ machine.Regular)
        (some (init isPlayer type)) actions ∧
      Along next Expires (some (init isPlayer type)) actions := by
  have kept : ∀ state action, (∃ machine, state = some machine ∧ machine.Sane []) →
      (∀ machine, state = some machine → machine.Sound action) →
        ∃ machine, next state action = some machine ∧ machine.Sane [] := by
    rintro state action ⟨machine, rfl, sane⟩ sound
    exact sane.step (sound machine rfl)
  have start : ∃ machine, some (init isPlayer type) = some machine ∧ machine.Sane [] :=
    ⟨_, rfl, init_sane isPlayer type⟩
  constructor
  · have always := always_of_step kept start sound
    refine always.imp ?_
    rintro state ⟨machine, found, sane⟩
    exact ⟨machine, found, sane.regular⟩
  · refine along_of_step kept ?_ start sound
    rintro state action ⟨machine, rfl, sane⟩ sound
    exact (sound machine rfl).expires

/-- A creature goes to a point, arrives there and goes on with its default movement. -/
theorem always_in_place_point :
    let actions : List Action :=
      [.request .movePoint, .proceed, .updateMotion false, .updateReturns false,
        .finalizeReturns, .proceed, .proceed]
    Always next (fun state => ∃ machine, state = some machine ∧ machine.Regular)
        (some (init false (some .random))) actions ∧
      Along next Expires (some (init false (some .random))) actions := by
  refine always_in_place false (some .random) _ ⟨?_, ?_, ?_, ?_, ?_, ?_, ?_, trivial⟩
  · rintro machine found
    cases found
    exact fun _ _ _ _ _ runs => absurd runs List.not_mem_nil
  · rintro machine found
    cases found
    rintro frame rest stack
    cases stack
    exact Or.inl rfl
  · exact fun _ _ => trivial
  · rintro machine found
    cases found
    rintro - generator rest stack
    cases stack
    exact Or.inr rfl
  · exact fun _ _ => trivial
  · rintro machine found
    cases found
    rintro frame rest stack
    cases stack
    exact ⟨0, Nat.one_pos, Option.some_ne_none _⟩
  · rintro machine found
    cases found
    rintro frame rest stack
    cases stack
    exact trivial

/-- Four runs of a creature. A generator for assistance is replaced, its `Finalize` puts another one
into the slot, and this one is overwritten. A generator that updates is covered by another one and
then replaced, so it is deleted. A generator ends while another one has covered it, which is expired
in its place. The default generator is replaced while its `Finalize` calls `MovementExpired`, which
reads before the first slot. -/
theorem not_always_in_place :
    let always := fun actions =>
      Always next (fun state => ∃ machine, state = some machine ∧ machine.Regular)
        (some (init false (some .random))) actions
    ¬always [.request .moveSeekAssistance, .proceed, .request .movePoint,
        .request .moveSeekAssistanceDistract, .proceed, .finalizeReturns, .proceed] ∧
      ¬always [.request .movePoint, .proceed, .updateMotion false, .request .moveConfused,
        .proceed, .request .movePoint, .finalizeReturns] ∧
      ¬Along next Expires (some (init false (some .random)))
        [.request .movePoint, .proceed, .updateMotion false, .request .moveConfused, .proceed,
          .updateReturns false] ∧
      ¬always [.request .moveRandom, .request (.movementExpired true), .proceed] := by
  refine ⟨?_, ?_, ?_, ?_⟩
  · intro always
    obtain ⟨machine, found, regular⟩ := always.last
    cases found
    have placed := regular.placed rfl 3 (by decide)
    revert placed
    decide
  · intro always
    obtain ⟨machine, found, regular⟩ := always.last
    cases found
    exact regular.still (.made 1 .point) (by decide) (by decide)
  · intro along
    obtain ⟨-, -, -, -, -, expires, -⟩ := along
    have kept := expires _ _ _ _ rfl rfl rfl rfl 2
    revert kept
    decide
  · intro always
    obtain ⟨machine, found, -⟩ := always.last
    cases found

end Machine

end DarkCore.Movement
