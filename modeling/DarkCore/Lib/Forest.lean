/-
Partial maps from children to their mothers. Where every way up ends there is no
circle, and if the children are finitely many, the mothers have a measure that
is larger than that of their children. A walk that cuts the link which leads back
to where it has been leaves a map in which its way up ends.
-/

import Mathlib.Data.Finset.Max

namespace DarkCore.Lib

section

variable {κ : Type*} (mother : κ → Option κ)

inductive Level : κ → Nat → Prop
  | root {node : κ} (isRoot : mother node = none) : Level node 0
  | child {node above : κ} {level : Nat} (link : mother node = some above)
      (isLevel : Level above level) : Level node (level + 1)

def Ends (node : κ) : Prop := ∃ level, Level mother node level

/-- The way up from the first node to the last one, with the nodes in between, none of them twice;
the latest is the first of the list. -/
inductive Climbs (start : κ) : List κ → κ → Prop
  | here : Climbs start [] start
  | up {visited : List κ} {node above : κ} (way : Climbs start visited node)
      (link : mother node = some above) (new : above ∉ node :: visited) :
      Climbs start (node :: visited) above

def Under (child above : κ) : Prop := mother child = some above

end

section

variable {κ : Type*} {mother other : κ → Option κ} {node above start : κ} {visited : List κ}

theorem Level.unique {level level' : Nat} (isLevel : Level mother node level)
    (isLevel' : Level mother node level') : level = level' := by
  induction isLevel generalizing level' with
  | root isRoot =>
    cases isLevel' with
    | root _ => rfl
    | child link _ => cases isRoot.symm.trans link
  | child link _ ih =>
    cases isLevel' with
    | root isRoot => cases isRoot.symm.trans link
    | child link' isAbove =>
      cases link.symm.trans link'
      rw [ih isAbove]

theorem Level.falls {level : Nat} (isLevel : Level mother node level)
    (way : Relation.TransGen (Under mother) node above) :
    ∃ lower, Level mother above lower ∧ lower < level := by
  have step : ∀ {child parent : κ} {level : Nat}, Level mother child level →
      Under mother child parent → ∃ lower, Level mother parent lower ∧ lower < level := by
    intro child parent level isLevel link
    cases isLevel with
    | root isRoot => cases isRoot.symm.trans link
    | child link' isAbove =>
      cases link'.symm.trans link
      exact ⟨_, isAbove, Nat.lt_succ_self _⟩
  induction way with
  | single link => exact step isLevel link
  | tail _ link ih =>
    obtain ⟨middle, isMiddle, below⟩ := ih
    obtain ⟨lower, isLower, lowest⟩ := step isMiddle link
    exact ⟨lower, isLower, Nat.lt_trans lowest below⟩

theorem Ends.acyclic (ends : Ends mother node) :
    ¬ Relation.TransGen (Under mother) node node := by
  intro circle
  obtain ⟨level, isLevel⟩ := ends
  obtain ⟨lower, isLower, below⟩ := isLevel.falls circle
  exact absurd (isLevel.unique isLower) (Nat.ne_of_gt below)

theorem Ends.under (ends : Ends mother above) (link : mother node = some above) :
    Ends mother node := by
  obtain ⟨level, isLevel⟩ := ends
  exact ⟨level + 1, .child link isLevel⟩

theorem Ends.cut [DecidableEq κ] (ends : Ends mother node) (cut : κ) :
    Ends (Function.update mother cut none) node := by
  obtain ⟨level, isLevel⟩ := ends
  induction isLevel with
  | @root node isRoot =>
    refine ⟨0, .root ?_⟩
    rw [Function.update_apply, isRoot, ite_self]
  | @child node above level link _ ih =>
    by_cases here : node = cut
    · refine ⟨0, .root ?_⟩
      rw [here, Function.update_self]
    · exact ih.under ((Function.update_of_ne here _ _).trans link)

section

variable (way : Climbs mother start visited node)
include way

/-- The way up ends where it ends from the last node that was climbed to, in any map with the same
links on the way. -/
theorem Climbs.ends (same : ∀ step ∈ visited, other step = mother step) (ends : Ends other node) :
    Ends other start := by
  induction way with
  | here => exact ends
  | @up visited node above _ link _ ih =>
    refine ih (fun step member => same step (List.mem_cons_of_mem node member)) ?_
    exact ends.under ((same node List.mem_cons_self).trans link)

theorem Climbs.not_mem : node ∉ visited := by
  cases way with
  | here => exact List.not_mem_nil
  | up _ _ new => exact new

theorem Climbs.nodup : visited.Nodup := by
  induction way with
  | here => exact List.nodup_nil
  | up way _ _ ih => exact List.nodup_cons.mpr ⟨way.not_mem, ih⟩

theorem Climbs.linked {step : κ}
    (member : step ∈ visited) : ∃ above, mother step = some above := by
  induction way with
  | here => cases member
  | up _ link _ ih =>
    rcases List.mem_cons.mp member with rfl | earlier
    · exact ⟨_, link⟩
    · exact ih earlier

theorem Climbs.ends_cut [DecidableEq κ] :
    Ends (Function.update mother node none) start := by
  refine way.ends (fun step member => ?_) ⟨0, .root (Function.update_self ..)⟩
  exact Function.update_of_ne (fun same => way.not_mem (by rw [← same]; exact member)) _ _

end

/-- Where all ways up end and the children are finitely many, there is a measure that falls from
every mother to her children. -/
theorem exists_measure (children : Finset κ) (all : ∀ node, Ends mother node)
    (few : ∀ node above, mother node = some above → node ∈ children) :
    ∃ measure : κ → Nat, ∀ node above, mother node = some above →
      measure node < measure above := by
  choose level isLevel using all
  refine ⟨fun node => children.sup level - level node, fun node above link => ?_⟩
  have most : level node ≤ children.sup level := Finset.le_sup (few node above link)
  have next : level node = level above + 1 :=
    (isLevel node).unique (.child link (isLevel above))
  dsimp only
  omega

end

end DarkCore.Lib
