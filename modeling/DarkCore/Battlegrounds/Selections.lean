/-
What the selection pools of a battleground queue hold: distinct groups of one
team that nobody has invited, with no more players than the bound of the search
allows. Every search, the kicking of groups included, keeps this.
-/

import DarkCore.Battlegrounds.QueuePlaces
import Mathlib.Algebra.BigOperators.Group.List.Basic

namespace DarkCore.Battlegrounds.Queues

open DarkCore.Lib

/-- A pool with at most `bound` players that is drawn from a list; `rest` are groups of the list
that may come later. -/
structure Draws (queue : BattlegroundQueue) (list : List Nat) (bound : Nat) (pool : SelectionPool)
    (rest : List Nat) : Prop where
  count : pool.playerCount = (pool.selectedGroups.map queue.size).sum
  drawn : (pool.selectedGroups ++ rest).Sublist list
  uninvited : ∀ group ∈ pool.selectedGroups, queue.isInvited group = false
  bounded : pool.playerCount ≤ bound

namespace Draws

variable {queue : BattlegroundQueue} {bound desiredCount : Nat}
  {pool : SelectionPool} {rest list : List Nat} {group : Nat}

theorem init : Draws queue list bound SelectionPool.init list where
  count := rfl
  drawn := List.Sublist.refl list
  uninvited := fun _ inside => absurd inside List.not_mem_nil
  bounded := Nat.zero_le bound

theorem sublist {shorter : List Nat} (draws : Draws queue list bound pool rest)
    (inRest : shorter.Sublist rest) : Draws queue list bound pool shorter where
  count := draws.count
  drawn := (inRest.append_left pool.selectedGroups).trans draws.drawn
  uninvited := draws.uninvited
  bounded := draws.bounded

theorem addGroup (draws : Draws queue list bound pool (group :: rest))
    (desired : desiredCount ≤ bound) :
    Draws queue list bound (pool.addGroup queue group desiredCount).1 rest := by
  rcases pool.addGroup_cases queue group desiredCount with ⟨uninvited, room, added⟩ | same
  · rw [added]
    have order : pool.selectedGroups ++ [group] ++ rest = pool.selectedGroups ++ group :: rest := by
      rw [List.append_assoc, List.singleton_append]
    constructor
    · simp [List.map_append, List.sum_append, List.map_singleton, List.sum_singleton, draws.count]
    · dsimp only
      rw [order]
      exact draws.drawn
    · intro member inside
      rcases List.mem_append.mp inside with old | new
      · exact draws.uninvited member old
      · simp_all
    · exact le_trans room desired
  · rw [same]
    exact draws.sublist (List.sublist_cons_self group rest)

theorem kickGroup (draws : Draws queue list bound pool rest) (size : Nat) :
    Draws queue list bound (pool.kickGroup queue size).1 rest := by
  unfold SelectionPool.kickGroup
  split
  · exact draws
  · dsimp only
    generalize SelectionPool.groupToKick queue size pool.selectedGroups.zipIdx
      (0, (pool.selectedGroups.head?.map queue.size).getD 0) false = kick
    split
    · exact draws
    · rename_i kicked found
      obtain ⟨inRange, value⟩ := List.getElem?_eq_some_iff.mp found
      have sum := ((List.getElem_cons_eraseIdx_perm inRange).map queue.size).sum_eq
      have fewer := List.eraseIdx_sublist pool.selectedGroups kick
      rw [List.map_cons, List.sum_cons, value, ← draws.count] at sum
      constructor
      · grind
      · exact (fewer.append_right rest).trans draws.drawn
      · exact fun member inside => draws.uninvited member (fewer.subset inside)
      · exact le_trans (Nat.sub_le _ _) draws.bounded

theorem fillList (draws : Draws queue list bound pool rest) (desired : desiredCount ≤ bound) :
    Draws queue list bound (Filling.fillList queue desiredCount rest pool).1
      (Filling.fillList queue desiredCount rest pool).2 := by
  induction rest generalizing pool with
  | nil => exact draws
  | cons group rest ih =>
    unfold Filling.fillList
    have next := draws.addGroup desired
    rcases pool.addGroup_cases queue group desiredCount with ⟨-, -, added⟩ | same
    · split
      · rename_i pool' result
        rw [result] at next
        exact ih next
      · simp_all
    · split
      · rename_i pool' result
        rw [result] at next
        exact ih next
      · simp_all

end Draws

/-- A pool for a team with at most `bound` players; `rest` are groups that may come later. -/
structure Fits (queue : BattlegroundQueue) (team : Team) (bound : Nat) (pool : SelectionPool)
    (rest : List Nat) : Prop where
  count : pool.playerCount = (pool.selectedGroups.map queue.size).sum
  nodup : (pool.selectedGroups ++ rest).Nodup
  stands : ∀ group ∈ pool.selectedGroups ++ rest,
    ∃ place, group ∈ queue.queuedGroups place ∧ place.2.team = team
  uninvited : ∀ group ∈ pool.selectedGroups, queue.isInvited group = false
  bounded : pool.playerCount ≤ bound

namespace Fits

variable {queue : BattlegroundQueue} {team : Team} {bound desiredCount : Nat}
  {pool next : SelectionPool} {rest left list : List Nat} {group : Nat}

theorem init (nodup : list.Nodup)
    (stands : ∀ group ∈ list, ∃ place, group ∈ queue.queuedGroups place ∧ place.2.team = team) :
    Fits queue team bound SelectionPool.init list where
  count := rfl
  nodup := nodup
  stands := stands
  uninvited := fun _ inside => absurd inside List.not_mem_nil
  bounded := Nat.zero_le bound

section

variable (fits : Fits queue team bound pool rest)
include fits

theorem draws :
    Draws queue (pool.selectedGroups ++ rest) bound pool rest where
  count := fits.count
  drawn := List.Sublist.refl _
  uninvited := fits.uninvited
  bounded := fits.bounded

theorem follow
    (draws : Draws queue (pool.selectedGroups ++ rest) bound next left) :
    Fits queue team bound next left where
  count := draws.count
  nodup := fits.nodup.sublist draws.drawn
  stands := fun group inside => fits.stands group (draws.drawn.subset inside)
  uninvited := draws.uninvited
  bounded := draws.bounded

theorem sublist (shorter : list.Sublist rest) :
    Fits queue team bound pool list :=
  fits.follow (fits.draws.sublist shorter)

end

theorem addGroup (fits : Fits queue team bound pool (group :: rest))
    (desired : desiredCount ≤ bound) :
    Fits queue team bound (pool.addGroup queue group desiredCount).1 rest :=
  fits.follow (fits.draws.addGroup desired)

theorem addNormal (fits : Fits queue team bound pool rest) (desired : desiredCount ≤ bound) :
    Fits queue team bound (queue.addNormal desiredCount rest pool) [] := by
  induction rest generalizing pool with
  | nil => exact fits
  | cons group rest ih =>
    unfold BattlegroundQueue.addNormal
    have next := fits.addGroup desired
    split
    · exact ih (fits.sublist (List.sublist_cons_self group rest))
    · split
      · rename_i added result
        rw [result] at next
        exact ih next
      · rename_i added result
        rw [result] at next
        exact next.sublist (List.nil_sublist rest)

theorem selectNormal (fits : Fits queue team bound pool rest) (minPlayers : Nat)
    (desired : desiredCount ≤ bound) :
    Fits queue team bound (queue.selectNormal minPlayers desiredCount rest pool).1
      (queue.selectNormal minPlayers desiredCount rest pool).2 := by
  induction rest generalizing pool with
  | nil => exact fits
  | cons group rest ih =>
    unfold BattlegroundQueue.selectNormal
    have next := fits.addGroup desired
    split
    · exact ih (fits.sublist (List.sublist_cons_self group rest))
    · dsimp only
      split
      · exact next
      · exact ih next

end Fits

/-! ### Filling a running battleground -/

def Filling.Draw (queue : BattlegroundQueue) (lists : Team → List Nat) (free : Team → Nat)
    (filling : Filling) : Prop :=
  ∀ team, Draws queue (lists team) (free team) (filling.pool team) (filling.rest team)

namespace Filling

variable {queue : BattlegroundQueue} {lists : Team → List Nat} {free : Team → Nat}
  {filling : Filling}

section

variable (draw : filling.Draw queue lists free)
include draw

theorem Draw.fill (team : Team) {desiredCount : Nat}
    (desired : desiredCount ≤ free team) :
    (filling.fill queue team desiredCount).Draw queue lists free := by
  intro other
  unfold Filling.fill
  dsimp only
  by_cases same : other = team
  · rw [same, Function.update_self, Function.update_self]
    exact (draw team).fillList desired
  · rw [Function.update_of_ne same, Function.update_of_ne same]
    exact draw other

theorem Draw.kick (team : Team) (size : Nat) :
    (filling.kick queue team size).1.Draw queue lists free := by
  intro other
  unfold Filling.kick
  dsimp only
  by_cases same : other = team
  · rw [same, Function.update_self]
    exact (draw team).kickGroup size
  · rw [Function.update_of_ne same]
    exact draw other

theorem Draw.balanceTeam (team : Team) :
    (filling.balanceTeam queue free team).1.Draw queue lists free := by
  unfold Filling.balanceTeam
  dsimp only
  have nonneg : 0 ≤ filling.diff free team.other := by
    have bounded := (draw team.other).bounded
    unfold Filling.diff
    omega
  generalize filling.diff free team.other = diffOther at nonneg
  generalize (diffOther - filling.diff free team).toNat = size
  have desired : (if diffOther ≤ free team then ((free team : Int) - diffOther).toNat else 0) ≤
      free team := by
    grind
  have kicked := draw.kick team size
  have filled : (if (filling.kick queue team size).2 then
      (filling.kick queue team size).1.fill queue team
        (if diffOther ≤ free team then ((free team : Int) - diffOther).toNat else 0)
      else (filling.kick queue team size).1).Draw queue lists free := by
    split
    · exact kicked.fill team desired
    · exact kicked
  generalize (if (filling.kick queue team size).2 then
      (filling.kick queue team size).1.fill queue team
        (if diffOther ≤ free team then ((free team : Int) - diffOther).toNat else 0)
      else (filling.kick queue team size).1) = refilled at filled ⊢
  split
  · split
    · exact filled
    · exact filled.kick team.other size
  · exact filled

theorem Draw.balance (rounds : Nat) :
    (balance queue free rounds filling).Draw queue lists free := by
  induction rounds generalizing filling with
  | zero => exact draw
  | succ rounds ih =>
    unfold Filling.balance
    dsimp only
    generalize (if filling.diff free .alliance < filling.diff free .horde then Team.alliance
      else Team.horde) = team
    split
    · have next := draw.balanceTeam team
      split
      · exact ih next
      · exact next
    · exact draw

end

end Filling

/-! ### What is selected -/

/-- Distinct groups of a team that are not invited, with at most `bound` players -/
structure Selected (queue : BattlegroundQueue) (team : Team) (bound : Nat) (groups : List Nat) :
    Prop where
  nodup : groups.Nodup
  stands : ∀ group ∈ groups, ∃ place, group ∈ queue.queuedGroups place ∧ place.2.team = team
  uninvited : ∀ group ∈ groups, queue.isInvited group = false
  bounded : (groups.map queue.size).sum ≤ bound

theorem Fits.selected {queue : BattlegroundQueue} {team : Team} {bound : Nat}
    {pool : SelectionPool} {rest : List Nat} (fits : Fits queue team bound pool rest) :
    Selected queue team bound pool.selectedGroups where
  nodup := (List.nodup_append.mp fits.nodup).1
  stands := fun group inside => fits.stands group (List.mem_append.mpr (Or.inl inside))
  uninvited := fits.uninvited
  bounded := by
    rw [← fits.count]
    exact fits.bounded

theorem Selected.transfer {before after : BattlegroundQueue} {team : Team} {bound : Nat}
    {groups : List Nat} (selected : Selected before team bound groups)
    (lists : after.queuedGroups = before.queuedGroups)
    (same : ∀ group ∈ groups, after.info group = before.info group) :
    Selected after team bound groups ∧ groups.map after.size = groups.map before.size := by
  have sizes : groups.map after.size = groups.map before.size := by
    simp_all [BattlegroundQueue.size]
  refine ⟨⟨selected.nodup, ?_, ?_, ?_⟩, sizes⟩
  · rw [lists]
    exact selected.stands
  · intro group inside
    unfold BattlegroundQueue.isInvited
    rw [same group inside]
    exact selected.uninvited group inside
  · rw [sizes]
    exact selected.bounded

namespace BattlegroundQueue

variable {queue : BattlegroundQueue} {bracket : Fin maxBattlegroundBrackets}

theorem normal_stands {team : Team} :
    ∀ group ∈ queue.normal bracket team,
      ∃ place, group ∈ queue.queuedGroups place ∧ place.2.team = team :=
  fun _ inside => ⟨(bracket, .normal team), inside, rfl⟩

theorem fits_normal (apart : Apart queue.queuedGroups) (team : Team) (bound : Nat) :
    Fits queue team bound SelectionPool.init (queue.normal bracket team) :=
  Fits.init (apart.nodup (bracket, .normal team)) normal_stands

/-- What the first two loops of `FillPlayersToBG` leave -/
def firstFilling (queue : BattlegroundQueue) (bg : Battleground)
    (bracket : Fin maxBattlegroundBrackets) : Filling :=
  let filling : Filling := { pool := Pools.init, rest := queue.normal bracket }
  (filling.fill queue .alliance (bg.getFreeSlotsForTeam .alliance)).fill queue .horde
    (bg.getFreeSlotsForTeam .horde)

theorem firstFilling_draw {bg : Battleground} :
    (queue.firstFilling bg bracket).Draw queue (queue.normal bracket) bg.getFreeSlotsForTeam := by
  have start : ({ pool := Pools.init, rest := queue.normal bracket } : Filling).Draw queue
      (queue.normal bracket) bg.getFreeSlotsForTeam := fun team => Draws.init
  exact (start.fill .alliance (le_refl _)).fill .horde (le_refl _)

theorem fillPlayersToBG_draws (surroundings : Surroundings) (bg : Battleground) (team : Team) :
    ∃ rest, Draws queue (queue.normal bracket team) (bg.getFreeSlotsForTeam team)
      (queue.fillPlayersToBG surroundings bg bracket team) rest := by
  have first : (queue.firstFilling bg bracket).Draw queue _ _ := firstFilling_draw
  unfold fillPlayersToBG
  split
  · exact ⟨_, first team⟩
  · exact ⟨_, first.balance _ team⟩

theorem fillPlayersToBG_selected (apart : Apart queue.queuedGroups) (surroundings : Surroundings)
    (bg : Battleground) (team : Team) :
    Selected queue team (bg.getFreeSlotsForTeam team)
      (queue.fillPlayersToBG surroundings bg bracket team).selectedGroups := by
  obtain ⟨rest, draws⟩ : ∃ rest, Draws queue (queue.normal bracket team) _ _ rest :=
    fillPlayersToBG_draws surroundings bg team
  exact ((fits_normal apart team _).follow draws).selected

theorem fits_premade (apart : Apart queue.queuedGroups) {team : Team} {group : Nat}
    (found : ((queue.premade bracket team).find? fun group => !queue.isInvited group) = some group)
    (maxPlayers : Nat) :
    Fits queue team maxPlayers (SelectionPool.init.addGroup queue group maxPlayers).1
      (queue.normal bracket team) := by
  have stands : group ∈ queue.queuedGroups (bracket, .premade team) := List.mem_of_find?_eq_some found
  have start : Fits queue team maxPlayers SelectionPool.init
      (group :: queue.normal bracket team) := by
    apply Fits.init
    · refine List.nodup_cons.mpr ⟨?_, apart.nodup (bracket, .normal team)⟩
      intro inside
      cases apart.unique group _ (bracket, .normal team) stands inside
    · intro member inside
      rcases List.mem_cons.mp inside with first | later
      · rw [first]
        exact ⟨_, stands, rfl⟩
      · exact normal_stands member later
  exact start.addGroup (le_refl _)

variable {surroundings : Surroundings} {minPlayersPerTeam maxPlayersPerTeam : Nat}
    {after : BattlegroundQueue}

theorem checkPremadeMatch_selected (apart : Apart queue.queuedGroups)
    {pools : Pools}
    (found : queue.checkPremadeMatch surroundings bracket minPlayersPerTeam maxPlayersPerTeam =
      (after, some pools)) :
    after = queue ∧
      ∀ team, Selected queue team maxPlayersPerTeam (pools team).selectedGroups := by
  unfold checkPremadeMatch at found
  dsimp only at found
  split at found
  · rename_i aliGroup hordeGroup aliFound hordeFound
    cases found
    refine ⟨rfl, ?_⟩
    have ali := fits_premade apart aliFound maxPlayersPerTeam
    have horde := fits_premade apart hordeFound maxPlayersPerTeam
    intro team
    cases team with
    | alliance =>
      exact (ali.addNormal (le_trans (Nat.min_le_left _ _) ali.bounded)).selected
    | horde =>
      exact (horde.addNormal (le_trans (Nat.min_le_right _ _) horde.bounded)).selected
  · cases found

theorem checkNormalMatch_fits (apart : Apart queue.queuedGroups) (surroundings : Surroundings)
    (template : Template) (minPlayers maxPlayers : Nat) (team : Team) :
    Fits queue team maxPlayers
      ((queue.checkNormalMatch surroundings template bracket minPlayers maxPlayers).1 team) [] := by
  have fits : ∀ team, Fits queue team maxPlayers
      (queue.selectNormal minPlayers maxPlayers (queue.normal bracket team) SelectionPool.init).1
      (queue.selectNormal minPlayers maxPlayers (queue.normal bracket team) SelectionPool.init).2 :=
    fun team => (fits_normal apart team maxPlayers).selectNormal minPlayers (le_refl _)
  unfold checkNormalMatch
  dsimp only
  generalize (if (queue.selectNormal minPlayers maxPlayers (queue.normal bracket .horde)
      SelectionPool.init).1.playerCount < (queue.selectNormal minPlayers maxPlayers
        (queue.normal bracket .alliance) SelectionPool.init).1.playerCount then Team.horde
    else Team.alliance) = fewer
  split
  · have more := (fits fewer).addNormal (fits fewer.other).bounded
    have both : ∀ team, Fits queue team maxPlayers
        (Function.update (fun team => (queue.selectNormal minPlayers maxPlayers
            (queue.normal bracket team) SelectionPool.init).1) fewer
          (queue.addNormal (queue.selectNormal minPlayers maxPlayers
            (queue.normal bracket fewer.other) SelectionPool.init).1.playerCount
            (queue.selectNormal minPlayers maxPlayers (queue.normal bracket fewer)
              SelectionPool.init).2
            (queue.selectNormal minPlayers maxPlayers (queue.normal bracket fewer)
              SelectionPool.init).1) team) [] := by
      intro team
      by_cases same : team = fewer
      · simp_all
      · rw [Function.update_of_ne same]
        exact (fits team).sublist (List.nil_sublist _)
    split <;> exact both team
  · exact (fits team).sublist (List.nil_sublist _)

/-! ### A skirmish -/

theorem selectNormal_sublist (queue : BattlegroundQueue) (minPlayers maxPlayers : Nat)
    (groups : List Nat) (pool : SelectionPool) :
    ∃ added : List Nat,
      (added ++ (queue.selectNormal minPlayers maxPlayers groups pool).2).Sublist groups ∧
        (queue.selectNormal minPlayers maxPlayers groups pool).1.selectedGroups =
          pool.selectedGroups ++ added := by
  induction groups generalizing pool with
  | nil => exact ⟨[], List.Sublist.refl [], (List.append_nil _).symm⟩
  | cons group rest ih =>
    have one : ∃ added : List Nat, added.Sublist [group] ∧
        (pool.addGroup queue group maxPlayers).1.selectedGroups =
          pool.selectedGroups ++ added := by
      rcases pool.addGroup_cases queue group maxPlayers with ⟨-, -, added⟩ | same
      · exact ⟨[group], List.Sublist.refl _, by rw [added]⟩
      · exact ⟨[], List.nil_sublist _, by rw [same, List.append_nil]⟩
    unfold selectNormal
    split
    · obtain ⟨added, shorter, selected⟩ := ih pool
      exact ⟨added, shorter.cons group, selected⟩
    · obtain ⟨first, within, selectedFirst⟩ := one
      dsimp only
      split
      · exact ⟨first, within.append (List.Sublist.refl rest), selectedFirst⟩
      · obtain ⟨added, shorter, selected⟩ := ih (pool.addGroup queue group maxPlayers).1
        refine ⟨first ++ added, ?_, ?_⟩
        · grind
        · rw [selected, selectedFirst, List.append_assoc]

theorem checkNormalMatch_sublist (surroundings : Surroundings) (template : Template)
    (minPlayers maxPlayers : Nat) (team : Team) :
    ((queue.checkNormalMatch surroundings template bracket minPlayers maxPlayers).1
      team).selectedGroups.Sublist (queue.normal bracket team) := by
  have first : ∀ team, (queue.selectNormal minPlayers maxPlayers (queue.normal bracket team)
      SelectionPool.init).1.selectedGroups.Sublist (queue.normal bracket team) := by
    intro team
    obtain ⟨added, shorter, selected⟩ := selectNormal_sublist queue minPlayers maxPlayers
      (queue.normal bracket team) SelectionPool.init
    rw [selected]
    exact (List.sublist_append_left added _).trans shorter
  have both : ∀ fewer desired team, (Function.update (fun team => (queue.selectNormal minPlayers
        maxPlayers (queue.normal bracket team) SelectionPool.init).1) fewer (queue.addNormal desired
        (queue.selectNormal minPlayers maxPlayers (queue.normal bracket fewer) SelectionPool.init).2
        (queue.selectNormal minPlayers maxPlayers (queue.normal bracket fewer)
          SelectionPool.init).1) team).selectedGroups.Sublist (queue.normal bracket team) := by
    intro fewer desired team
    by_cases same : team = fewer
    · rw [same, Function.update_self]
      obtain ⟨added, shorter, selected⟩ := selectNormal_sublist queue minPlayers maxPlayers
        (queue.normal bracket fewer) SelectionPool.init
      obtain ⟨more, within, result⟩ := addNormal_sublist queue desired
        (queue.selectNormal minPlayers maxPlayers (queue.normal bracket fewer) SelectionPool.init).2
        (queue.selectNormal minPlayers maxPlayers (queue.normal bracket fewer) SelectionPool.init).1
      rw [result, selected]
      exact (within.append_left added).trans shorter
    · simp_all
  unfold checkNormalMatch
  dsimp only
  generalize (if (queue.selectNormal minPlayers maxPlayers (queue.normal bracket .horde)
      SelectionPool.init).1.playerCount < (queue.selectNormal minPlayers maxPlayers
        (queue.normal bracket .alliance) SelectionPool.init).1.playerCount then Team.horde
    else Team.alliance) = fewer
  split
  · split <;> exact both _ _ team
  · exact first team

theorem not_behind_last {selected list rest : List Nat} {last other : Nat}
    (within : selected.Sublist list) (nodup : list.Nodup)
    (isLast : selected.getLast? = some last)
    (behind : list.dropWhile (fun group => group != last) = other :: rest) :
    ∀ group ∈ selected, group ∉ rest := by
  obtain ⟨front, rfl⟩ := List.getLast?_eq_some_iff.mp isLast
  have order : list = list.takeWhile (fun group => group != last) ++ other :: rest := by
    rw [← behind, List.takeWhile_append_dropWhile]
  have same : other = last := by
    have stops := List.head?_dropWhile_not (fun group => group != last) list
    rw [behind] at stops
    simpa using stops
  subst same
  generalize list.takeWhile (fun group => group != other) = before at order
  rw [order] at within nodup
  obtain ⟨-, restNodup, disjoint⟩ := List.nodup_append.mp nodup
  have notRest : other ∉ rest := (List.nodup_cons.mp restNodup).1
  have notBefore : other ∉ before := fun inside =>
    disjoint other inside other List.mem_cons_self rfl
  -- only what stands before the last one comes before it
  have sorted : (before ++ other :: rest).Pairwise fun first second =>
      second = other → first ∉ rest := by
    refine List.pairwise_append.mpr ⟨?_, List.pairwise_cons.mpr ⟨?_, ?_⟩, ?_⟩
    · exact List.pairwise_of_forall_mem_list fun _ _ second inside same =>
        absurd (same ▸ inside) notBefore
    · exact fun second inside same => absurd (same ▸ inside) notRest
    · exact List.pairwise_of_forall_mem_list fun _ _ second inside same =>
        absurd (same ▸ inside) notRest
    · grind
  have selectedSorted := List.pairwise_append.mp (sorted.sublist within)
  intro group inside
  rcases List.mem_append.mp inside with earlier | isOther
  · exact selectedSorted.2.2 group earlier other List.mem_cons_self rfl
  · simp_all

theorem changeSide_info (queue : BattlegroundQueue) (bracket : Fin maxBattlegroundBrackets)
    (team : Team) (groups : List Nat) (group : Nat) :
    ∃ side, (queue.changeSide bracket team groups).info group =
        { queue.info group with team := side } ∧
      (group ∉ groups → side = (queue.info group).team) := by
  unfold changeSide
  induction groups generalizing queue with
  | nil => exact ⟨(queue.info group).team, rfl, fun _ => rfl⟩
  | cons first rest ih =>
    rw [List.foldl_cons]
    obtain ⟨side, result, later⟩ := ih ((queue.setInfo first
      { queue.info first with team := team }).move first (bracket, .normal team.other)
        (bracket, .normal team))
    have info : ((queue.setInfo first { queue.info first with team := team }).move first
        (bracket, .normal team.other) (bracket, .normal team)).info group =
          if group = first then { queue.info first with team := team } else queue.info group :=
      info_setInfo queue first group _
    rw [info] at result later
    refine ⟨side, ?_, ?_⟩
    · grind
    · intro notIn
      have different : group ≠ first := fun same => notIn (same ▸ List.mem_cons_self)
      rw [if_neg different] at later
      exact later fun inRest => notIn (List.mem_cons_of_mem first inRest)

theorem changeSide_eq (team : Team) (groups : List Nat) (group : Nat) :
    ((queue.changeSide bracket team groups).info group).players = (queue.info group).players ∧
      (queue.changeSide bracket team groups).isInvited group = queue.isInvited group := by
  obtain ⟨side, result, -⟩ := changeSide_info queue bracket team groups group
  unfold isInvited
  rw [result]
  exact ⟨rfl, rfl⟩

section

variable (apart : Apart queue.queuedGroups)
include apart

theorem mem_changeSide {team : Team} {groups : List Nat}
    (nodup : groups.Nodup)
    (stand : ∀ group ∈ groups, group ∈ queue.queuedGroups (bracket, .normal team.other))
    {member : Nat} {place : Place} :
    member ∈ (queue.changeSide bracket team groups).queuedGroups place ↔
      (member ∈ groups ∧ place = (bracket, .normal team)) ∨
        (member ∉ groups ∧ member ∈ queue.queuedGroups place) := by
  unfold changeSide
  induction groups generalizing queue with
  | nil =>
    simp
  | cons group rest ih =>
    rw [List.foldl_cons]
    obtain ⟨notLater, restNodup⟩ := List.nodup_cons.mp nodup
    have different : ((bracket, .normal team.other) : Place) ≠ (bracket, .normal team) :=
      fun same => team.other_ne (GroupType.normal.inj (Prod.mk.inj same).2)
    have stands := stand group List.mem_cons_self
    have moved : ∀ {member place}, member ∈ ((queue.setInfo group
        { queue.info group with team := team }).move group (bracket, .normal team.other)
          (bracket, .normal team)).queuedGroups place ↔
            (member = group ∧ place = (bracket, .normal team)) ∨
              (member ≠ group ∧ member ∈ queue.queuedGroups place) :=
      apart.mem_move stands different
    rw [ih (apart.moved stands different) restNodup ?_]
    · rw [List.mem_cons, moved]
      constructor
      · grind
      · rintro (⟨first | later, there⟩ | ⟨neither, inside⟩)
        · exact Or.inr ⟨fun later => notLater (first ▸ later), Or.inl ⟨first, there⟩⟩
        · exact Or.inl ⟨later, there⟩
        · have apartFrom : member ≠ group := fun same => neither (Or.inl same)
          exact Or.inr ⟨fun later => neither (Or.inr later), Or.inr ⟨apartFrom, inside⟩⟩
    · intro other later
      have apartFrom : other ≠ group := fun same => notLater (same ▸ later)
      exact moved.mpr (Or.inr ⟨apartFrom, stand other (List.mem_cons_of_mem group later)⟩)

theorem changeSide_selected {team : Team} {bound : Nat} {groups others : List Nat}
    (stand : ∀ group ∈ groups, group ∈ queue.queuedGroups (bracket, .normal team.other))
    (moving : Selected queue team.other bound groups)
    (staying : Selected queue team.other bound others)
    (disjoint : ∀ group ∈ others, group ∉ groups) :
    Selected (queue.changeSide bracket team groups) team bound groups ∧
      Selected (queue.changeSide bracket team groups) team.other bound others := by
  have mem : ∀ {member place}, member ∈ (queue.changeSide bracket team groups).queuedGroups place ↔
      (member ∈ groups ∧ place = (bracket, .normal team)) ∨
        (member ∉ groups ∧ member ∈ queue.queuedGroups place) :=
    mem_changeSide apart moving.nodup stand
  have sizes : ∀ list : List Nat,
      list.map (queue.changeSide bracket team groups).size = list.map queue.size := by
    intro list
    apply List.map_congr_left
    intro group _
    unfold BattlegroundQueue.size
    rw [(changeSide_eq team groups group).1]
  constructor
  · refine ⟨moving.nodup, ?_, ?_, ?_⟩
    · exact fun group inside => ⟨_, mem.mpr (Or.inl ⟨inside, rfl⟩), rfl⟩
    · intro group inside
      rw [(changeSide_eq team groups group).2]
      exact moving.uninvited group inside
    · rw [sizes]
      exact moving.bounded
  · refine ⟨staying.nodup, ?_, ?_, ?_⟩
    · intro group inside
      obtain ⟨place, stands, side⟩ := staying.stands group inside
      exact ⟨place, mem.mpr (Or.inr ⟨disjoint group inside, stands⟩), side⟩
    · intro group inside
      rw [(changeSide_eq team groups group).2]
      exact staying.uninvited group inside
    · rw [sizes]
      exact staying.bounded

theorem checkSkirmishForSameFaction_selected {template : Template}
    (le : minPlayersPerTeam ≤ maxPlayersPerTeam) {pools : Pools}
    (found : queue.checkSkirmishForSameFaction bracket minPlayersPerTeam
      (queue.checkNormalMatch surroundings template bracket minPlayersPerTeam
        maxPlayersPerTeam).1 = some (after, pools)) :
    ∀ team, Selected after team maxPlayersPerTeam (pools team).selectedGroups := by
  have fits : ∀ team, Fits queue team maxPlayersPerTeam ((queue.checkNormalMatch surroundings
      template bracket minPlayersPerTeam maxPlayersPerTeam).1 team) [] :=
    checkNormalMatch_fits apart surroundings template minPlayersPerTeam maxPlayersPerTeam
  have within : ∀ team, ((queue.checkNormalMatch surroundings template bracket minPlayersPerTeam
      maxPlayersPerTeam).1 team).selectedGroups.Sublist (queue.normal bracket team) :=
    checkNormalMatch_sublist surroundings template minPlayersPerTeam maxPlayersPerTeam
  generalize (queue.checkNormalMatch surroundings template bracket minPlayersPerTeam
    maxPlayersPerTeam).1 = normal at found fits within
  unfold checkSkirmishForSameFaction at found
  split at found
  · cases found
  · dsimp only at found
    generalize (if (normal .horde).playerCount = minPlayersPerTeam then Team.horde
      else Team.alliance) = team at found
    split at found
    · cases found
    · rename_i last isLast
      split at found
      · cases found
      · rename_i other rest behind
        split at found
        · cases found
        · cases found
          have nodup : (queue.normal bracket team).Nodup := apart.nodup (bracket, .normal team)
          have shorter : rest.Sublist (queue.normal bracket team) := by
            refine (List.sublist_cons_self other rest).trans ?_
            rw [← behind]
            exact List.dropWhile_sublist _
          have start : Fits queue team maxPlayersPerTeam SelectionPool.init rest :=
            Fits.init (nodup.sublist shorter) fun group inside =>
              normal_stands group (shorter.subset inside)
          have moving := (start.addNormal le).selected
          obtain ⟨added, addedShorter, selected⟩ :=
            addNormal_sublist queue minPlayersPerTeam rest SelectionPool.init
          have inRest : ∀ group ∈ (queue.addNormal minPlayersPerTeam rest
              SelectionPool.init).selectedGroups, group ∈ rest := by
            intro group inside
            rw [selected] at inside
            exact addedShorter.subset inside
          generalize queue.addNormal minPlayersPerTeam rest SelectionPool.init = pool at *
          have notBehind := not_behind_last (within team) nodup isLast behind
          rw [← team.other_other] at moving
          have staying := (fits team).selected
          nth_rewrite 1 [← team.other_other] at staying
          have stand : ∀ group ∈ pool.selectedGroups,
              group ∈ queue.queuedGroups (bracket, .normal team.other.other) := by
            rw [team.other_other]
            exact fun group inside => shorter.subset (inRest group inside)
          obtain ⟨moved, stayed⟩ := changeSide_selected apart stand moving staying
            fun group inside inPool => notBehind group inside (inRest group inPool)
          intro side
          by_cases same : side = team.other
          · simp_all
          · rw [Function.update_of_ne same]
            have isTeam : side = team.other.other := by
              cases side <;> cases team <;> first | rfl | exact absurd rfl same
            rw [isTeam]
            rw [team.other_other] at stayed ⊢
            exact stayed

theorem checkSkirmishForSameFaction_changes {normal pools : Pools}
    (found : queue.checkSkirmishForSameFaction bracket minPlayersPerTeam normal =
      some (after, pools)) :
    ∃ team groups, after = queue.changeSide bracket team groups ∧
      ∀ group ∈ groups, queue.isInvited group = false := by
  unfold checkSkirmishForSameFaction at found
  split at found
  · cases found
  · dsimp only at found
    generalize (if (normal .horde).playerCount = minPlayersPerTeam then Team.horde
      else Team.alliance) = team at found
    split at found
    · cases found
    · split at found
      · cases found
      · rename_i last _ other rest behind
        split at found
        · cases found
        · cases found
          have shorter : rest.Sublist (queue.normal bracket team) := by
            refine (List.sublist_cons_self other rest).trans ?_
            rw [← behind]
            exact List.dropWhile_sublist _
          have nodup : (queue.normal bracket team).Nodup := apart.nodup (bracket, .normal team)
          have start : Fits queue team minPlayersPerTeam SelectionPool.init rest :=
            Fits.init (nodup.sublist shorter) fun group inside =>
              normal_stands group (shorter.subset inside)
          exact ⟨_, _, rfl, (start.addNormal (le_refl _)).uninvited⟩

end

/-! ### The opponents of a rated match -/

theorem searchRated_added {arenaRating : Nat}
    {start : List Nat} {pool : SelectionPool} (empty : pool.playerCount = 0)
    (added : (queue.searchRated surroundings arenaRating maxPlayersPerTeam start
      pool).2.playerCount ≠ 0) {group : Nat} {rest : List Nat}
    (found : (queue.searchRated surroundings arenaRating maxPlayersPerTeam start pool).1 =
      group :: rest) :
    queue.isInvited group = false ∧ queue.size group ≤ maxPlayersPerTeam := by
  unfold searchRated at found added
  split at found
  · cases found
  · rename_i first later list
    rw [list] at added
    cases found
    rcases pool.addGroup_cases queue group maxPlayersPerTeam with ⟨uninvited, room, -⟩ | same
    · exact ⟨uninvited, le_trans (Nat.le_add_left _ _) room⟩
    · simp_all

theorem opponents_ready {ali horde : List Nat} {ready : Prop} [Decidable ready]
    {opponents : Nat × Nat}
    (found : (match ali, horde with
      | aliGroup :: _, hordeGroup :: _ => if ready then some (aliGroup, hordeGroup) else none
      | _, _ => none) = some opponents) : ready := by
  split at found
  · simp_all
  · cases found

theorem findOpponents_added
    {arenaRating ali horde : Nat}
    (found : queue.findOpponents surroundings bracket arenaRating maxPlayersPerTeam =
      some (ali, horde)) :
    (queue.isInvited ali = false ∧ queue.size ali ≤ maxPlayersPerTeam) ∧
      queue.isInvited horde = false ∧ queue.size horde ≤ maxPlayersPerTeam := by
  unfold findOpponents at found
  dsimp only at found
  generalize searchAli : queue.searchRated surroundings arenaRating maxPlayersPerTeam
    (queue.premade bracket .alliance) SelectionPool.init = first at found
  generalize searchHorde : queue.searchRated surroundings arenaRating maxPlayersPerTeam
    (queue.premade bracket .horde) SelectionPool.init = second at found
  have ofFirst : first.2.playerCount ≠ 0 → ∀ {group rest}, first.1 = group :: rest →
      queue.isInvited group = false ∧ queue.size group ≤ maxPlayersPerTeam := by
    rw [← searchAli]
    exact fun added _ _ list => searchRated_added rfl added list
  have ofSecond : second.2.playerCount ≠ 0 → ∀ {group rest}, second.1 = group :: rest →
      queue.isInvited group = false ∧ queue.size group ≤ maxPlayersPerTeam := by
    rw [← searchHorde]
    exact fun added _ _ list => searchRated_added rfl added list
  by_cases needsAli : first.2.playerCount = 0 ∧ second.2.playerCount ≠ 0
  · have noNeed : ∀ count, ¬(second.2.playerCount = 0 ∧ count ≠ 0) := fun _ both =>
      needsAli.2 both.1
    simp only [if_pos needsAli, if_neg (noNeed _)] at found
    obtain ⟨⟨later, aliFound⟩, rest, hordeFound⟩ := opponents_eq found
    have ready := opponents_ready found
    exact ⟨searchRated_added needsAli.1 ready.1 aliFound, ofSecond ready.2 hordeFound⟩
  · simp only [if_neg needsAli] at found
    by_cases needsHorde : second.2.playerCount = 0 ∧ first.2.playerCount ≠ 0
    · simp only [if_pos needsHorde] at found
      obtain ⟨⟨rest, aliFound⟩, later, hordeFound⟩ := opponents_eq found
      have ready := opponents_ready found
      exact ⟨ofFirst ready.1 aliFound, searchRated_added needsHorde.1 ready.2 hordeFound⟩
    · simp only [if_neg needsHorde] at found
      obtain ⟨⟨rest, aliFound⟩, later, hordeFound⟩ := opponents_eq found
      have ready := opponents_ready found
      exact ⟨ofFirst ready.1 aliFound, ofSecond ready.2 hordeFound⟩

end BattlegroundQueue

theorem Site.selectMatch_selected {site : Site} {surroundings : Surroundings} {template : Template}
    {call : UpdateCall} {minPlayersPerTeam maxPlayersPerTeam : Nat}
    (apart : Apart site.queue.queuedGroups)
    (le : template.isArena = true → minPlayersPerTeam ≤ maxPlayersPerTeam)
    {after : BattlegroundQueue} {pools : Pools}
    (found : site.selectMatch surroundings template call minPlayersPerTeam maxPlayersPerTeam =
      some (after, pools)) :
    ∀ team, Selected after team maxPlayersPerTeam (pools team).selectedGroups := by
  unfold Site.selectMatch at found
  dsimp only at found
  split at found
  · cases found
    intro team
    exact (BattlegroundQueue.checkNormalMatch_fits apart surroundings template minPlayersPerTeam
      maxPlayersPerTeam team).selected
  · split at found
    · rename_i isArena
      exact BattlegroundQueue.checkSkirmishForSameFaction_selected apart (le isArena) found
    · cases found

end DarkCore.Battlegrounds.Queues
