/-
Machines that work off a list of tasks: performing the first task changes the
state and puts the tasks that it spawns in its place. A recursive procedure is
such a machine, the tasks being the calls that are still to be made. What every
run of it comes to is read off the relation of spawning: where no chain of it is
infinite every run ends, and where a chain can be kept going for ever a run
does not.
-/

import DarkCore.Lib.Runs
import Mathlib.Data.Set.Finite.Basic

namespace DarkCore.Lib

universe u v w

section Reached

variable {σ : Type u} {α : Type v} (next : σ → α → σ)

def reached (start : σ) (inputs : Nat → α) : Nat → σ
  | 0 => start
  | steps + 1 => next (reached start inputs steps) (inputs steps)

theorem reached_add (start : σ) (inputs : Nat → α) (first second : Nat) :
    reached next start inputs (first + second) =
      reached next (reached next start inputs first) (fun step => inputs (first + step))
        second := by
  induction second with
  | zero => rfl
  | succ second ih =>
    rw [← Nat.add_assoc]
    simp only [reached, ih]

theorem reached_eq_foldl (start : σ) (inputs : Nat → α) (steps : Nat) :
    reached next start inputs steps = ((List.range steps).map inputs).foldl next start := by
  induction steps with
  | zero => rfl
  | succ steps ih =>
    simp only [reached, ih, List.range_succ, List.map_append, List.foldl_append, List.map_cons,
      List.map_nil, List.foldl_cons, List.foldl_nil]

end Reached

/-- Where only finitely many nodes can be reached and none of them lies on a circle, no chain is
infinite. -/
theorem acc_of_no_circle {κ : Type u} {leads : κ → κ → Prop} {start : κ}
    (finite : {node | Relation.ReflTransGen leads start node}.Finite)
    (noCircle : ∀ node, Relation.ReflTransGen leads start node →
      ¬ Relation.TransGen leads node node) :
    Acc (fun sub node => leads node sub) start := by
  let Reached : Type u := {node // Relation.ReflTransGen leads start node}
  let below : Reached → Reached → Prop := fun sub node => Relation.TransGen leads node.1 sub.1
  have : Finite Reached := finite.to_subtype
  have : IsTrans Reached below := ⟨fun _ _ _ first second => second.trans first⟩
  have : Std.Irrefl below := ⟨fun node circle => noCircle node.1 node.2 circle⟩
  have founded : WellFounded below := Finite.wellFounded_of_trans_of_irrefl below
  have each : ∀ node : Reached, Acc (fun sub node => leads node sub) node.1 := by
    intro node
    induction node using founded.induction with
    | h node ih =>
      constructor
      intro sub link
      exact ih ⟨sub, node.2.tail link⟩ (Relation.TransGen.single link)
  exact each ⟨start, Relation.ReflTransGen.refl⟩

structure Worklist (σ : Type u) (τ : Type w) where
  state : σ
  tasks : List τ

variable {σ : Type u} {α : Type v} {τ : Type w} (perform : α → τ → σ → σ × List τ)

def Worklist.next (work : Worklist σ τ) (input : α) : Worklist σ τ :=
  match work.tasks with
  | [] => work
  | task :: rest =>
    { state := (perform input task work.state).1
      tasks := (perform input task work.state).2 ++ rest }

@[simp] theorem Worklist.next_cons (state : σ) (task : τ) (rest : List τ) (input : α) :
    Worklist.next perform ⟨state, task :: rest⟩ input =
      ⟨(perform input task state).1, (perform input task state).2 ++ rest⟩ := rfl

def Spawned (sub task : τ) : Prop := ∃ input state, sub ∈ (perform input task state).2

def Clears (tasks : List τ) : Prop :=
  ∀ (state : σ) (rest : List τ) (inputs : Nat → α), ∃ steps after,
    reached (Worklist.next perform) ⟨state, tasks ++ rest⟩ inputs steps = ⟨after, rest⟩

variable {perform}

theorem clears_nil : Clears perform [] := fun state _ _ => ⟨0, state, rfl⟩

theorem Clears.append {first second : List τ} (former : Clears perform first)
    (latter : Clears perform second) : Clears perform (first ++ second) := by
  intro state rest inputs
  obtain ⟨steps, middle, reachedMiddle⟩ := former state (second ++ rest) inputs
  obtain ⟨more, after, reachedAfter⟩ :=
    latter middle rest fun step => inputs (steps + step)
  refine ⟨steps + more, after, ?_⟩
  rw [reached_add, List.append_assoc, reachedMiddle]
  exact reachedAfter

theorem clears_of_forall {tasks : List τ} (each : ∀ task ∈ tasks, Clears perform [task]) :
    Clears perform tasks := by
  induction tasks with
  | nil => exact clears_nil
  | cons task rest ih =>
    have first := each task List.mem_cons_self
    exact first.append (ih fun other member => each other (List.mem_cons_of_mem _ member))

theorem clears_singleton {task : τ}
    (spawned : ∀ input state, Clears perform (perform input task state).2) :
    Clears perform [task] := by
  intro state rest inputs
  obtain ⟨steps, after, reachedAfter⟩ :=
    spawned (inputs 0) state (perform (inputs 0) task state).1 rest fun step => inputs (1 + step)
  refine ⟨1 + steps, after, ?_⟩
  rw [reached_add]
  exact reachedAfter

theorem clears_of_acc {task : τ} (founded : Acc (Spawned perform) task) :
    Clears perform [task] := by
  induction founded with
  | intro task _ ih =>
    apply clears_singleton
    intro input state
    exact clears_of_forall fun sub member => ih sub ⟨input, state, member⟩

theorem Clears.ends {tasks : List τ} (clears : Clears perform tasks) (state : σ)
    (inputs : Nat → α) :
    ∃ steps, (reached (Worklist.next perform) ⟨state, tasks⟩ inputs steps).tasks = [] := by
  obtain ⟨steps, after, reachedAfter⟩ := clears state [] inputs
  rw [List.append_nil] at reachedAfter
  exact ⟨steps, by rw [reachedAfter]⟩

theorem reached_endless {endless : τ → Prop} {input : α}
    (spawns : ∀ task state, endless task → ∃ sub ∈ (perform input task state).2, endless sub)
    {work : Worklist σ τ} (start : ∃ task ∈ work.tasks, endless task) (steps : Nat) :
    ∃ task ∈ (reached (Worklist.next perform) work (fun _ => input) steps).tasks,
      endless task := by
  induction steps with
  | zero => exact start
  | succ steps ih =>
    obtain ⟨task, member, kind⟩ := ih
    simp only [reached]
    cases now : reached (Worklist.next perform) work (fun _ => input) steps with
    | mk state tasks =>
      rw [now] at member
      cases tasks with
      | nil => exact absurd member List.not_mem_nil
      | cons head rest =>
        rw [Worklist.next_cons]
        rcases List.mem_cons.mp member with same | later
        · subst same
          obtain ⟨sub, spawned, subKind⟩ := spawns task state kind
          exact ⟨sub, List.mem_append_left _ spawned, subKind⟩
        · exact ⟨task, List.mem_append_right _ later, kind⟩

/-- A property of the state that tasks of a kind keep, where they spawn only tasks of the kind,
holds after every run that starts with it and with such tasks. -/
theorem foldl_keeps {good : σ → Prop} {kind : τ → Prop}
    (keeps : ∀ input task state, kind task → good state →
      good (perform input task state).1 ∧ ∀ sub ∈ (perform input task state).2, kind sub)
    (inputs : List α) {work : Worklist σ τ} (start : good work.state)
    (kinds : ∀ task ∈ work.tasks, kind task) :
    good (inputs.foldl (Worklist.next perform) work).state ∧
      ∀ task ∈ (inputs.foldl (Worklist.next perform) work).tasks, kind task := by
  induction inputs generalizing work with
  | nil => exact ⟨start, kinds⟩
  | cons input inputs ih =>
    cases work with
    | mk state tasks =>
      cases tasks with
      | nil => exact ih start kinds
      | cons head rest =>
        obtain ⟨kept, spawned⟩ :=
          keeps input head state (kinds head List.mem_cons_self) start
        apply ih
        · exact kept
        · intro task member
          rw [Worklist.next_cons] at member
          rcases List.mem_append.mp member with sub | later
          · exact spawned task sub
          · exact kinds task (List.mem_cons_of_mem _ later)

end DarkCore.Lib
