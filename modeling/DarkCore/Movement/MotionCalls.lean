/-
What holds of a motion master whenever a generator may call it: the calls that are
running are nested as `UpdateMotion` allows, and each generator that has been made
is in a slot, in the expire list, in the hands of one call, or deleted.
-/

import DarkCore.Movement.MotionPieces

namespace DarkCore.Movement

/-! ### The calls that are running -/

/-- A call that may begin inside another one; the direct variants are not taken during an update. -/
def Frame.Fits (update : Bool) : Frame → Prop
  | .updating _ => False
  | .updated => False
  | .cleaning _ => update = false
  | .expired _ => update = false
  | _ => True

/-- `UpdateMotion` is the outermost call, if it is running. -/
inductive Nested : Bool → List Frame → Prop
  | outside : Nested false []
  | after : Nested false [.updated]
  | during (serial : Nat) (type : MovementGeneratorType) :
      Nested true [.updating (.made serial type), .updated]
  | inner {update : Bool} {frame : Frame} {stack : List Frame} (fits : frame.Fits update)
      (nested : Nested update stack) : Nested update (frame :: stack)

def Frame.isOfUpdate : Frame → Prop
  | .updating _ => True
  | .updated => True
  | _ => False

namespace Nested

variable {update : Bool} {frame : Frame} {stack : List Frame} {generator : Generator}

theorem tail (nested : Nested update (frame :: stack)) (fits : frame.Fits update) :
    Nested update stack := by
  cases nested with
  | after => cases fits
  | during serial type => cases fits
  | inner _ nested => exact nested

theorem fits (nested : Nested update (frame :: stack)) (other : ¬frame.isOfUpdate) :
    frame.Fits update := by
  cases nested with
  | after => exact absurd trivial other
  | during serial type => exact absurd trivial other
  | inner fits _ => exact fits

theorem updating_inv (nested : Nested update (.updating generator :: stack)) :
    update = true ∧ stack = [.updated] := by
  cases nested with
  | during serial type => exact ⟨rfl, rfl⟩
  | inner fits _ => cases fits

theorem updated_inv (nested : Nested update (.updated :: stack)) : update = false ∧ stack = [] := by
  cases nested with
  | after => exact ⟨rfl, rfl⟩
  | inner fits _ => cases fits

theorem nil_inv (nested : Nested update []) : update = false := by
  cases nested with
  | outside => rfl

theorem updating_mem (nested : Nested update stack) (runs : Frame.updating generator ∈ stack) :
    update = true ∧ generator ≠ .idle := by
  induction nested with
  | outside => cases runs
  | after =>
    cases List.mem_singleton.mp runs
  | during serial type =>
    rcases List.mem_cons.mp runs with same | later
    · simp_all
    · cases List.mem_singleton.mp later
  | inner fits nested ih =>
    rcases List.mem_cons.mp runs with same | later
    · rw [← same] at fits
      cases fits
    · exact ih later

end Nested

def Frame.holds (serial : Nat) : Frame → Nat
  | .finalizing generator => generator.is serial
  | .installing generator _ => generator.is serial
  | _ => 0

def Machine.carried (serial : Nat) (machine : Machine) : Nat :=
  (machine.stack.map (Frame.holds serial)).sum

structure Machine.Sane (machine : Machine) (hand : List Generator) : Prop where
  tidy : machine.master.Tidy
  nested : Nested machine.master.update machine.stack
  lowest : machine.master.impl 0 = none → ∃ generator,
    Frame.installing generator .idle ∈ machine.stack
  running : ∀ generator, Frame.updating generator ∈ machine.stack →
    machine.master.Keeps generator ∨ generator ∈ hand
  places : ∀ serial, machine.master.holds serial + machine.carried serial +
    listed serial machine.deleted + listed serial hand = if serial < machine.serial then 1 else 0

namespace Machine

variable {machine : Machine} {hand : List Generator} {generator curr : Generator}

theorem carried_push (serial : Nat) (machine : Machine) (frame : Frame) :
    (machine.push frame).carried serial = frame.holds serial + machine.carried serial := by
  unfold carried push
  rw [List.map_cons, List.sum_cons]

theorem Sane.still_of_direct (sane : machine.Sane hand) (direct : machine.master.update = false)
    (curr : Generator) : Frame.updating curr ∉ machine.stack := by
  intro runs
  have set := (sane.nested.updating_mem runs).1
  rw [direct] at set
  cases set

theorem Sane.push (sane : machine.Sane hand) {frame : Frame}
    (fits : frame.Fits machine.master.update) (empty : ∀ serial, frame.holds serial = 0) :
    (machine.push frame).Sane hand where
  tidy := sane.tidy
  nested := Nested.inner fits sane.nested
  lowest := by
    intro free
    obtain ⟨generator, waits⟩ := sane.lowest free
    exact ⟨generator, List.mem_cons_of_mem frame waits⟩
  running := by
    intro generator runs
    rcases List.mem_cons.mp runs with same | later
    · rw [← same] at fits
      cases fits
    · exact sane.running generator later
  places := by
    intro serial
    rw [carried_push, empty, zero_add]
    exact sane.places serial

theorem Sane.pushWith (sane : machine.Sane (generator :: hand)) {frame : Frame}
    (fits : frame.Fits machine.master.update)
    (takes : ∀ serial, frame.holds serial = generator.is serial)
    (still : Frame.updating generator ∉ machine.stack) : (machine.push frame).Sane hand where
  tidy := sane.tidy
  nested := Nested.inner fits sane.nested
  lowest := by
    intro free
    obtain ⟨other, waits⟩ := sane.lowest free
    exact ⟨other, List.mem_cons_of_mem frame waits⟩
  running := by
    intro other runs
    rcases List.mem_cons.mp runs with same | later
    · rw [← same] at fits
      cases fits
    · rcases sane.running other later with keeps | inHand
      · exact Or.inl keeps
      · rcases List.mem_cons.mp inHand with same | inHand
        · exact absurd (same ▸ later) still
        · exact Or.inr inHand
  places := by
    intro serial
    have places := sane.places serial
    rw [listed_cons] at places
    rw [carried_push, takes]
    change machine.master.holds serial + (generator.is serial + machine.carried serial) +
      listed serial machine.deleted + listed serial hand =
        if serial < machine.serial then 1 else 0
    rw [← places]
    omega

theorem Sane.take (sane : machine.Sane hand) {master : MotionMaster} {index : Nat}
    (tidy : master.Tidy)
    (impl : master.impl = Function.update machine.master.impl index none)
    (expList : master.expList = machine.master.expList)
    (update : master.update = machine.master.update)
    (holds : ∀ serial, master.holds serial + held serial (machine.master.impl index) =
      machine.master.holds serial)
    (lowest : index = 0 → ∃ generator, Frame.installing generator .idle ∈ machine.stack) :
    ({ machine with master := master } : Machine).Sane
      ((machine.master.impl index).toList ++ hand) where
  tidy := tidy
  nested := by
    rw [update]
    exact sane.nested
  lowest := by
    intro free
    by_cases same : index = 0
    · exact lowest same
    · rw [impl, Function.update_of_ne (Ne.symm same)] at free
      exact sane.lowest free
  running := by
    intro other runs
    rcases sane.running other runs with keeps | inHand
    · rcases keeps.clear impl expList with still | was
      · exact Or.inl still
      · simp [was]
    · exact Or.inr (List.mem_append_right _ inHand)
  places := by
    intro serial
    have places := sane.places serial
    have taken := holds serial
    rw [listed_append, listed_toList]
    change master.holds serial + machine.carried serial + listed serial machine.deleted + _ =
      if serial < machine.serial then 1 else 0
    rw [← places]
    omega

theorem Sane.delayedDelete (sane : machine.Sane (curr :: hand)) :
    ({ machine with master := machine.master.delayedDelete curr } : Machine).Sane hand where
  tidy := sane.tidy.delayedDelete curr
  nested := by
    rw [MotionMaster.delayedDelete_update]
    exact sane.nested
  lowest := by
    intro free
    rw [MotionMaster.delayedDelete_impl] at free
    exact sane.lowest free
  running := by
    intro other runs
    rcases sane.running other runs with keeps | inHand
    · exact Or.inl (keeps.delayedDelete curr)
    · rcases List.mem_cons.mp inHand with same | inHand
      · rw [same]
        rw [same] at runs
        exact Or.inl (MotionMaster.keeps_delayedDelete (sane.nested.updating_mem runs).2)
      · exact Or.inr inHand
  places := by
    intro serial
    have places := sane.places serial
    rw [listed_cons] at places
    have added := MotionMaster.holds_delayedDelete serial machine.master curr
    change (machine.master.delayedDelete curr).holds serial + machine.carried serial +
      listed serial machine.deleted + listed serial hand =
        if serial < machine.serial then 1 else 0
    rw [← places]
    omega

theorem Sane.directDelete (sane : machine.Sane (curr :: hand))
    (still : Frame.updating curr ∉ machine.stack) : (machine.directDelete curr).Sane hand := by
  cases curr with
  | idle =>
    refine ⟨sane.tidy, sane.nested, sane.lowest, ?_, ?_⟩
    · intro other runs
      rcases sane.running other runs with keeps | inHand
      · exact Or.inl keeps
      · rcases List.mem_cons.mp inHand with same | inHand
        · exact absurd (same ▸ runs) still
        · exact Or.inr inHand
    · intro serial
      have places := sane.places serial
      rw [listed_cons, show Generator.idle.is serial = 0 from rfl, zero_add] at places
      exact places
  | made serial type => exact sane.pushWith trivial (fun _ => rfl) still

/-! ### The operations -/

def MayMutate (machine : Machine) (slot : MovementSlot) : Prop :=
  ∀ curr, machine.master.impl slot.index = some curr → Frame.updating curr ∈ machine.stack →
    machine.master.size = slot.index + 1

theorem Sane.mutate (sane : machine.Sane [generator])
    (still : Frame.updating generator ∉ machine.stack) {slot : MovementSlot}
    (may : machine.MayMutate slot) : (machine.mutate generator slot).Sane [] := by
  have pushed : (machine.push (.installing generator slot)).Sane [] :=
    sane.pushWith trivial (fun _ => rfl) still
  unfold Machine.mutate
  split
  · exact pushed
  · rename_i curr found
    have lowest : slot.index = 0 → ∃ other,
        Frame.installing other .idle ∈ (machine.push (.installing generator slot)).stack := by
      intro first
      cases slot with
      | idle => exact ⟨generator, List.mem_cons_self⟩
      | active | controlled => cases first
    have taken := pushed.take (sane.tidy.clearSlot slot.index) rfl rfl rfl
      (fun serial => MotionMaster.holds_clearSlot serial machine.master slot.index_lt) lowest
    rw [show (machine.push (.installing generator slot)).master.impl slot.index = some curr
      from found] at taken
    dsimp only
    split
    · exact taken.delayedDelete
    · rename_i direct
      apply taken.directDelete
      intro runs
      have old : Frame.updating curr ∈ machine.stack := by
        rcases List.mem_cons.mp runs with same | old
        · cases same
        · exact old
      apply direct
      rw [may curr found old, (sane.nested.updating_mem old).1]
      exact Bool.and_eq_true_iff.mpr ⟨beq_self_eq_true _, rfl⟩

theorem Sane.not_updating (sane : machine.Sane []) (type : MovementGeneratorType) :
    Frame.updating (.made machine.serial type) ∉ machine.stack := by
  intro runs
  rcases sane.running _ runs with keeps | inHand
  · have held := keeps.holds_pos
    have places := sane.places machine.serial
    rw [if_neg (lt_irrefl _)] at places
    omega
  · cases inHand

theorem Sane.mutateTo (sane : machine.Sane []) {mutation : Mutation}
    (may : machine.MayMutate mutation.slot) : (machine.mutateTo mutation).Sane [] := by
  unfold Machine.mutateTo
  split
  · have inHand : machine.Sane [.idle] := by
      refine ⟨sane.tidy, sane.nested, sane.lowest, ?_, sane.places⟩
      intro generator runs
      rcases sane.running generator runs with keeps | none
      · exact Or.inl keeps
      · cases none
    apply inHand.mutate
    · exact fun runs => (sane.nested.updating_mem runs).2 rfl
    · exact may
  · rename_i type _
    have inHand : ({ machine with serial := machine.serial + 1 } : Machine).Sane
        [.made machine.serial type] := by
      refine ⟨sane.tidy, sane.nested, sane.lowest, ?_, ?_⟩
      · intro generator runs
        rcases sane.running generator runs with keeps | none
        · exact Or.inl keeps
        · cases none
      · intro serial
        have places : machine.master.holds serial + machine.carried serial +
          listed serial machine.deleted = if serial < machine.serial then 1 else 0 :=
            sane.places serial
        have one : listed serial [.made machine.serial type] =
            if machine.serial = serial then 1 else 0 := rfl
        change machine.master.holds serial + machine.carried serial +
          listed serial machine.deleted + listed serial [.made machine.serial type] =
            if serial < machine.serial + 1 then 1 else 0
        rw [one, places]
        by_cases new : machine.serial = serial
        · rw [if_pos new, if_neg (by omega), if_pos (by omega)]
        · grind
    exact inHand.mutate (sane.not_updating type) may

theorem Sane.setReset (sane : machine.Sane hand) (reset : Bool) :
    ({ machine with master := { machine.master with reset := reset } } : Machine).Sane hand where
  tidy := ⟨sane.tidy.positive, sane.tidy.valid, sane.tidy.above, sane.tidy.occupied⟩
  nested := sane.nested
  lowest := sane.lowest
  running := sane.running
  places := sane.places

section

variable (sane : machine.Sane [])
include sane

theorem Sane.clear (reset : Bool) : (machine.clear reset).Sane [] := by
  unfold Machine.clear
  split
  · have flagged := sane.setReset reset
    obtain ⟨tidy, holds, keeps, update, lowest⟩ :=
      MotionMaster.delayedClean_spec machine.master.size flagged.tidy
    refine ⟨tidy, ?_, ?_, ?_, ?_⟩
    · dsimp only
      rw [update]
      exact sane.nested
    · grind [lowest]
    · intro generator runs
      rcases sane.running generator runs with kept | none
      · exact Or.inl (keeps generator (sane.nested.updating_mem runs).2 kept)
      · cases none
    · intro serial
      have places := sane.places serial
      rw [holds]
      exact places
  · rename_i direct
    exact sane.push (Bool.eq_false_of_not_eq_true direct) fun _ => rfl

theorem Sane.popTop (more : 1 < machine.master.size)
    (found : machine.master.top = some curr) :
    ({ machine with master := machine.master.popTop } : Machine).Sane [curr] := by
  have taken := sane.take (sane.tidy.popTop more) rfl rfl rfl
    (fun serial => MotionMaster.holds_popTop serial sane.tidy) fun lowest => by omega
  rw [show machine.master.impl (machine.master.size - 1) = some curr from found] at taken
  exact taken

theorem Sane.movementExpired (reset : Bool) :
    ∃ after, machine.movementExpired reset = some after ∧ after.Sane [] := by
  unfold Machine.movementExpired
  split
  · have flagged := sane.setReset reset
    dsimp only
    split
    · rename_i more
      cases found : machine.master.top with
      | none => exact absurd found (sane.tidy.occupied more)
      | some curr =>
        rw [show ({ machine.master with reset := reset } : MotionMaster).top = some curr from found]
        refine ⟨_, rfl, ?_⟩
        have popped := (flagged.popTop more found).delayedDelete
        exact popped.push trivial fun _ => rfl
    · exact ⟨_, rfl, flagged.push trivial fun _ => rfl⟩
  · rename_i direct
    have update : machine.master.update = false := Bool.eq_false_of_not_eq_true direct
    split
    · rename_i more
      cases found : machine.master.top with
      | none => exact absurd found (sane.tidy.occupied more)
      | some curr =>
        refine ⟨_, rfl, ?_⟩
        have popped := sane.popTop more found
        have pushed : (Machine.push { machine with master := machine.master.popTop }
          (.expired reset)).Sane [curr] := popped.push update fun _ => rfl
        exact pushed.directDelete (pushed.still_of_direct update curr)
    · exact ⟨_, rfl, sane.push update fun _ => rfl⟩

theorem Sane.request {request : Request}
    (may : ∀ mutation, machine.mutation request = some mutation → machine.MayMutate mutation.slot) :
    ∃ after, machine.request request = some after ∧ after.Sane [] := by
  unfold Machine.request
  split
  · exact ⟨_, rfl, sane.clear _⟩
  · exact sane.movementExpired _
  · have pushed : (machine.push .targetedHome).Sane [] := sane.push trivial fun _ => rfl
    exact ⟨_, rfl, pushed.clear false⟩
  · split
    · exact ⟨machine, rfl, sane⟩
    · rename_i mutation found
      exact ⟨_, rfl, sane.mutateTo (may mutation found)⟩

end

theorem Sane.top_occupied (sane : machine.Sane hand)
    (quiet : ∀ generator slot, Frame.installing generator slot ∉ machine.stack) :
    machine.master.top ≠ none := by
  intro free
  have one : machine.master.size = 1 := by
    have positive := sane.tidy.positive
    by_contra several
    exact sane.tidy.occupied (by omega) free
  have lowest : machine.master.impl 0 = none := by
    simp_all [MotionMaster.top]
  obtain ⟨generator, waits⟩ := sane.lowest lowest
  exact quiet generator .idle waits

theorem Sane.updateMotion (sane : machine.Sane []) (outermost : machine.stack = []) :
    ∃ after, machine.updateMotion = some after ∧ after.Sane [] := by
  have nothing : ∀ frame : Frame, frame ∉ machine.stack := by
    simp [outermost]
  have top := sane.top_occupied fun _ _ => nothing _
  have nested := sane.nested
  rw [outermost] at nested
  have update := nested.nil_inv
  have unfinished : ∀ serial, (machine.push .updated).carried serial = machine.carried serial := by
    intro serial
    rw [carried_push]
    exact Nat.zero_add _
  unfold Machine.updateMotion
  rw [if_neg (Nat.ne_of_gt sane.tidy.positive)]
  cases found : machine.master.top with
  | none => exact absurd found top
  | some curr =>
    cases curr with
    | idle =>
      refine ⟨_, rfl, sane.tidy, ?_, ?_, ?_, ?_⟩
      · unfold Machine.push
        rw [outermost, update]
        exact Nested.after
      · intro free
        obtain ⟨generator, waits⟩ := sane.lowest free
        exact absurd waits (nothing _)
      · intro generator runs
        rcases List.mem_cons.mp runs with same | later
        · cases same
        · exact absurd later (nothing _)
      · intro serial
        rw [unfinished]
        exact sane.places serial
    | made serial type =>
      refine ⟨_, rfl, ⟨sane.tidy.positive, sane.tidy.valid, sane.tidy.above,
        sane.tidy.occupied⟩, ?_, ?_, ?_, ?_⟩
      · unfold Machine.push
        rw [outermost]
        exact Nested.during serial type
      · intro free
        obtain ⟨generator, waits⟩ := sane.lowest free
        exact absurd waits (nothing _)
      · intro generator runs
        have valid := sane.tidy.valid
        have positive := sane.tidy.positive
        have same : generator = .made serial type := by
          rcases List.mem_cons.mp runs with same | later
          · simp_all
          · rcases List.mem_cons.mp later with same | later
            · cases same
            · exact absurd later (nothing _)
        rw [same]
        exact Or.inl (Or.inl ⟨machine.master.size - 1, by omega, found⟩)
      · intro number
        have places := sane.places number
        rw [← unfinished] at places
        rw [carried_push]
        rw [show Frame.holds number (.updating (.made serial type)) = 0 from rfl, zero_add]
        exact places

theorem initOrResetTop_spec (master : MotionMaster) (reset : Bool)
    (may : master.top ≠ none ∨ master.needInit (master.size - 1) = false ∧ reset = false) :
    ∃ needInit, master.initOrResetTop reset = some { master with needInit := needInit } := by
  unfold MotionMaster.initOrResetTop
  split
  · rename_i needed
    rcases may with top | ⟨none, -⟩ <;> simp_all
  · split
    · rename_i both
      obtain ⟨wanted, free⟩ := Bool.and_eq_true_iff.mp both
      rcases may with top | ⟨-, none⟩
      · exact absurd (of_decide_eq_true free) top
      · simp_all
    · exact ⟨master.needInit, rfl⟩

theorem Sane.setNeedInit (sane : machine.Sane hand) (needInit : Nat → Bool) :
    ({ machine with master := { machine.master with needInit := needInit } } : Machine).Sane
      hand where
  tidy := ⟨sane.tidy.positive, sane.tidy.valid, sane.tidy.above, sane.tidy.occupied⟩
  nested := sane.nested
  lowest := sane.lowest
  running := sane.running
  places := sane.places

/-! ### A call goes on -/

variable {frame : Frame} {rest : List Frame}

theorem Sane.pop (sane : machine.Sane []) (stack : machine.stack = frame :: rest)
    (other : ¬frame.isOfUpdate) (empty : ∀ serial, frame.holds serial = 0)
    (notIdle : ∀ generator, frame ≠ .installing generator .idle) :
    ({ machine with stack := rest } : Machine).Sane [] where
  tidy := sane.tidy
  nested := by
    have nested := sane.nested
    rw [stack] at nested
    exact nested.tail (nested.fits other)
  lowest := by
    intro free
    obtain ⟨generator, waits⟩ := sane.lowest free
    rw [stack] at waits
    rcases List.mem_cons.mp waits with same | later
    · exact absurd same.symm (notIdle generator)
    · exact ⟨generator, later⟩
  running := by
    intro generator runs
    apply sane.running
    rw [stack]
    exact List.mem_cons_of_mem frame runs
  places := by
    intro serial
    have places := sane.places serial
    unfold carried at places ⊢
    rw [stack, List.map_cons, List.sum_cons, empty, zero_add] at places
    exact places

theorem Sane.install (sane : machine.Sane []) {slot : MovementSlot}
    (stack : machine.stack = .installing generator slot :: rest)
    (vacant : machine.master.impl slot.index = none ∨ machine.master.impl slot.index = some .idle) :
    ({ machine with master := machine.master.install generator slot, stack := rest } :
      Machine).Sane [] where
  tidy := sane.tidy.install generator slot
  nested := by
    have nested := sane.nested
    rw [stack] at nested
    exact nested.tail trivial
  lowest := by
    intro free
    change Function.update machine.master.impl slot.index (some generator) 0 = none at free
    by_cases first : 0 = slot.index
    · simp_all
    · rw [Function.update_of_ne first] at free
      obtain ⟨other, waits⟩ := sane.lowest free
      rw [stack] at waits
      rcases List.mem_cons.mp waits with same | later
      · cases same
        exact absurd rfl first
      · exact ⟨other, later⟩
  running := by
    intro other runs
    have before : Frame.updating other ∈ machine.stack := by
      simp_all
    rcases sane.running other before with keeps | none
    · rcases keeps with ⟨index, valid, stands⟩ | waits
      · have different : index ≠ slot.index := by
          rintro rfl
          rw [stands] at vacant
          rcases vacant with vacant | vacant
          · cases vacant
          · exact (sane.nested.updating_mem before).2 (Option.some.inj vacant)
        refine Or.inl (Or.inl ⟨index, valid, ?_⟩)
        change Function.update machine.master.impl slot.index (some generator) index = some other
        rw [Function.update_of_ne different]
        exact stands
      · exact Or.inl (Or.inr waits)
    · cases none
  places := by
    intro serial
    have places := sane.places serial
    have added := MotionMaster.holds_install serial machine.master generator slot
    have nobody : held serial (machine.master.impl slot.index) = 0 := by
      rcases vacant with vacant | vacant
      · rw [vacant]
        rfl
      · rw [vacant]
        rfl
    unfold carried at places ⊢
    rw [stack, List.map_cons, List.sum_cons,
      show (Frame.installing generator slot).holds serial = generator.is serial from rfl] at places
    change (machine.master.install generator slot).holds serial +
      (rest.map (Frame.holds serial)).sum + listed serial machine.deleted + listed serial [] =
        if serial < machine.serial then 1 else 0
    rw [← places]
    omega

theorem Sane.flush (sane : machine.Sane []) (outermost : machine.stack = []) :
    ∃ after, machine.flush = some after ∧ after.Sane [] := by
  have nothing : ∀ frame : Frame, frame ∉ machine.stack := by
    simp [outermost]
  have nested := sane.nested
  rw [outermost] at nested
  have update := nested.nil_inv
  unfold Machine.flush
  split
  · exact ⟨machine, rfl, sane⟩
  · rename_i mg later list
    refine ⟨_, rfl, ?_⟩
    have taken : (Machine.push
        { machine with master := { machine.master with expList := some later } }
        .updated).Sane [mg] := by
      refine ⟨⟨sane.tidy.positive, sane.tidy.valid, sane.tidy.above, sane.tidy.occupied⟩,
        ?_, ?_, ?_, ?_⟩
      · unfold Machine.push
        rw [outermost, update]
        exact Nested.after
      · intro free
        obtain ⟨generator, waits⟩ := sane.lowest free
        exact absurd waits (nothing _)
      · intro generator runs
        rcases List.mem_cons.mp runs with same | later
        · cases same
        · exact absurd later (nothing _)
      · intro serial
        have places := sane.places serial
        have dropped := MotionMaster.holds_expList serial list
        rw [show listed serial [] = 0 from rfl] at places
        have all : ({ machine.master with expList := some later } : MotionMaster).holds serial +
            machine.carried serial + listed serial machine.deleted + (mg.is serial + 0) =
              if serial < machine.serial then 1 else 0 := by
          grind
        rw [carried_push, show Frame.updated.holds serial = 0 from rfl, zero_add, listed_cons,
          show listed serial [] = 0 from rfl]
        exact all
    apply taken.directDelete
    intro runs
    rcases List.mem_cons.mp runs with same | later
    · cases same
    · exact absurd later (nothing _)
  · rename_i list
    have top := sane.top_occupied fun _ _ => nothing _
    obtain ⟨needInit, done⟩ := initOrResetTop_spec { machine.master with expList := none }
      machine.master.reset (Or.inl top)
    rw [done]
    refine ⟨_, rfl, ?_⟩
    have emptied : ({ machine with master := { machine.master with expList := none } } :
        Machine).Sane [] := by
      refine ⟨⟨sane.tidy.positive, sane.tidy.valid, sane.tidy.above, sane.tidy.occupied⟩,
        sane.nested, sane.lowest, ?_, ?_⟩
      · exact fun generator runs => absurd runs (nothing _)
      · intro serial
        have places := sane.places serial
        unfold MotionMaster.holds at places ⊢
        rw [list] at places
        exact places
    exact (emptied.setNeedInit needInit).setReset false

/-- When the innermost call may go on: a generator that has been put into a slot since is not
overwritten, and the top is not read where no slot is occupied. -/
def MayResume (machine : Machine) : Frame → Prop
  | .installing _ slot =>
    machine.master.impl slot.index = none ∨ machine.master.impl slot.index = some .idle
  | .cleaning reset =>
    1 < machine.master.size ∨ machine.master.top ≠ none ∨
      machine.master.needInit (machine.master.size - 1) = false ∧ reset = false
  | .expired _ => ∃ index < machine.master.size, machine.master.impl index ≠ none
  | .lowering => ∃ index < machine.master.size, machine.master.impl index ≠ none
  | .targetedHome => machine.MayMutate .active
  | _ => True

theorem Sane.clean (sane : machine.Sane []) {reset : Bool}
    (stack : machine.stack = .cleaning reset :: rest)
    (may : machine.MayResume (.cleaning reset)) :
    ∃ after, ({ machine with stack := rest } : Machine).resume (.cleaning reset) = some after ∧
      after.Sane [] := by
  have nested := sane.nested
  rw [stack] at nested
  have update : machine.master.update = false := nested.fits id
  have popped := sane.pop stack id (fun _ => rfl) fun _ same => by cases same
  unfold Machine.resume
  dsimp only
  split
  · rename_i more
    cases found : machine.master.top with
    | none => exact absurd found (sane.tidy.occupied more)
    | some curr =>
      refine ⟨_, rfl, ?_⟩
      have inHand := popped.popTop more found
      have pushed : (Machine.push { machine with master := machine.master.popTop, stack := rest }
          (.cleaning reset)).Sane [curr] := inHand.push update fun _ => rfl
      exact pushed.directDelete (pushed.still_of_direct update curr)
  · rename_i last
    obtain ⟨needInit, done⟩ :=
      initOrResetTop_spec machine.master reset (may.resolve_left last)
    rw [done]
    exact ⟨_, rfl, popped.setNeedInit needInit⟩

theorem Sane.resume (sane : machine.Sane []) (stack : machine.stack = frame :: rest)
    (may : machine.MayResume frame) :
    ∃ after, ({ machine with stack := rest } : Machine).resume frame = some after ∧
      after.Sane [] := by
  have same : ({ machine with stack := rest } : Machine).push frame = machine := by
    unfold Machine.push
    rw [← stack]
  cases frame with
  | finalizing generator | updating generator => exact ⟨machine, congrArg some same, sane⟩
  | installing generator slot => exact ⟨_, rfl, sane.install stack may⟩
  | cleaning reset => exact sane.clean stack may
  | expired reset =>
    have popped := sane.pop stack id (fun _ => rfl) fun _ same => by cases same
    obtain ⟨top, found⟩ := sane.tidy.lowerToOccupied may
    obtain ⟨needInit, done⟩ := initOrResetTop_spec machine.master reset (Or.inl top)
    refine ⟨_, ?_, popped.setNeedInit needInit⟩
    unfold Machine.resume
    dsimp only
    rw [found, Option.bind_some, done]
    rfl
  | lowering =>
    have popped := sane.pop stack id (fun _ => rfl) fun _ same => by cases same
    obtain ⟨top, found⟩ := sane.tidy.lowerToOccupied may
    refine ⟨_, ?_, popped⟩
    unfold Machine.resume
    rw [found]
    rfl
  | targetedHome =>
    have popped := sane.pop stack id (fun _ => rfl) fun _ same => by cases same
    by_cases isPlayer : machine.isPlayer = true
    · exact ⟨_, if_pos isPlayer, popped⟩
    · refine ⟨_, if_neg isPlayer, popped.mutateTo ?_⟩
      intro curr found runs
      apply may curr found
      rw [stack]
      exact List.mem_cons_of_mem _ runs
  | updated =>
    have nested := sane.nested
    rw [stack] at nested
    obtain ⟨update, alone⟩ := nested.updated_inv
    have popped : ({ machine with stack := rest } : Machine).Sane [] := by
      refine ⟨sane.tidy, ?_, ?_, ?_, ?_⟩
      · dsimp only
        rw [update, alone]
        exact Nested.outside
      · intro free
        obtain ⟨generator, waits⟩ := sane.lowest free
        rw [stack, alone] at waits
        cases List.mem_singleton.mp waits
      · simp_all
      · intro serial
        have places := sane.places serial
        unfold carried at places ⊢
        rw [stack, List.map_cons, List.sum_cons,
          show Frame.updated.holds serial = 0 from rfl, zero_add] at places
        exact places
    exact popped.flush alone

end Machine

end DarkCore.Movement
