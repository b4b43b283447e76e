/-
How a running battleground is filled up (`BattlegroundQueue::FillPlayersToBG`):
the loop that balances the two teams ends, and what the selection pools hold
then. A round that goes on kicks a group which does not come back.
-/

import DarkCore.Battlegrounds.Selections
import DarkCore.Lib.Loops

namespace DarkCore.Battlegrounds.Queues

open DarkCore.Lib

namespace SelectionPool

variable (queue : BattlegroundQueue)

theorem groupToKick_mem (size : Nat) (groups : List (Nat × Nat)) (kick : Nat × Nat)
    (found : Bool) :
    groupToKick queue size groups kick found = kick.1 ∨
      groupToKick queue size groups kick found ∈ groups.map Prod.snd := by
  induction groups generalizing kick found with
  | nil => exact Or.inl rfl
  | cons entry rest ih =>
    obtain ⟨group, position⟩ := entry
    have later : ∀ kick' found',
        (kick'.1 = kick.1 ∨ kick'.1 = position) →
        groupToKick queue size rest kick' found' = kick.1 ∨
          groupToKick queue size rest kick' found' ∈ position :: rest.map Prod.snd := by
      intro kick' found' first
      rcases ih kick' found' with same | inside
      · grind
      · exact Or.inr (List.mem_cons_of_mem _ inside)
    unfold groupToKick
    rw [List.map_cons]
    split
    · exact later _ _ (Or.inr rfl)
    · grind

theorem length_kickGroup {pool : SelectionPool} (size : Nat) (players : pool.playerCount ≠ 0)
    (groups : pool.selectedGroups ≠ []) :
    (pool.kickGroup queue size).1.selectedGroups.length + 1 = pool.selectedGroups.length := by
  have some : 0 < pool.selectedGroups.length := List.length_pos_of_ne_nil groups
  unfold kickGroup
  rw [if_neg players]
  dsimp only
  have inRange : groupToKick queue size pool.selectedGroups.zipIdx
      (0, (pool.selectedGroups.head?.map queue.size).getD 0) false <
      pool.selectedGroups.length := by
    rcases groupToKick_mem queue size pool.selectedGroups.zipIdx
      (0, (pool.selectedGroups.head?.map queue.size).getD 0) false with first | inside
    · omega
    · simp_all
  rw [List.getElem?_eq_getElem inRange]
  rw [List.length_eraseIdx_of_lt inRange]
  omega

theorem length_kickGroup_le (pool : SelectionPool) (size : Nat) :
    (pool.kickGroup queue size).1.selectedGroups.length ≤ pool.selectedGroups.length := by
  unfold kickGroup
  split
  · exact le_refl _
  · grind

end SelectionPool

namespace Filling

variable (queue : BattlegroundQueue) (free : Team → Nat) (filling : Filling)

def held (team : Team) : Nat :=
  (filling.pool team).selectedGroups.length + (filling.rest team).length

def remaining : Nat := filling.held .alliance + filling.held .horde

theorem remaining_eq (team : Team) : filling.remaining = filling.held team + filling.held team.other := by
  cases team with
  | alliance => rfl
  | horde => exact Nat.add_comm _ _

theorem fillList_length_le (desiredCount : Nat) (rest : List Nat) (pool : SelectionPool) :
    (fillList queue desiredCount rest pool).1.selectedGroups.length +
        (fillList queue desiredCount rest pool).2.length ≤
      pool.selectedGroups.length + rest.length := by
  induction rest generalizing pool with
  | nil => exact le_refl _
  | cons group rest ih =>
    unfold fillList
    have length : (pool.addGroup queue group desiredCount).1.selectedGroups.length ≤
        pool.selectedGroups.length + 1 := by
      rcases pool.addGroup_cases queue group desiredCount with ⟨-, -, added⟩ | same
      · simp [added]
      · simp [same]
    split
    · rename_i next result
      rw [result] at length
      have later := ih next
      simp only [List.length_cons] at length ⊢
      omega
    · rename_i next result
      rcases pool.addGroup_cases queue group desiredCount with ⟨-, -, added⟩ | same <;> simp_all

theorem fillList_zero {pool : SelectionPool} (empty : pool.playerCount = 0) {rest : List Nat}
    (sizes : ∀ group ∈ rest, 1 ≤ queue.size group) :
    fillList queue 0 rest pool = (pool, rest) := by
  cases rest with
  | nil => rfl
  | cons group rest =>
    have large := sizes group List.mem_cons_self
    have refused : pool.addGroup queue group 0 = (pool, false) := by
      unfold SelectionPool.addGroup
      have some : queue.size group ≠ 0 := by omega
      simp [some, empty]
    simp only [fillList, refused]

theorem held_fill_le (team other : Team) (desiredCount : Nat) :
    (filling.fill queue team desiredCount).held other ≤ filling.held other := by
  unfold held fill
  by_cases same : other = team
  · simp only [same, Function.update_self]
    exact fillList_length_le queue desiredCount _ _
  · simp only [Function.update_of_ne same, le_refl]

theorem held_kick_le (team other : Team) (size : Nat) :
    (filling.kick queue team size).1.held other ≤ filling.held other := by
  unfold held kick
  by_cases same : other = team
  · simp only [same, Function.update_self]
    exact Nat.add_le_add_right (SelectionPool.length_kickGroup_le queue _ size) _
  · simp only [Function.update_of_ne same, le_refl]

theorem held_kick_lt {team : Team} (size : Nat) (players : (filling.pool team).playerCount ≠ 0)
    (groups : (filling.pool team).selectedGroups ≠ []) :
    (filling.kick queue team size).1.held team < filling.held team := by
  have fewer := SelectionPool.length_kickGroup queue size players groups
  unfold held kick
  simp only [Function.update_self]
  omega

def behind : Team :=
  if filling.diff free .alliance < filling.diff free .horde then .alliance else .horde

/-- The loop of `FillPlayersToBG` round by round -/
def round : Option (Filling × Bool) :=
  if 1 < (filling.diff free .alliance - filling.diff free .horde).natAbs ∧
      (0 < (filling.pool .horde).playerCount ∨ 0 < (filling.pool .alliance).playerCount) then
    some (filling.balanceTeam queue free (filling.behind free))
  else none

theorem balance_eq (rounds : Nat) :
    filling.balance queue free rounds = loopFor (round queue free) rounds filling := by
  induction rounds generalizing filling with
  | zero => rfl
  | succ rounds ih =>
    unfold balance loopFor round
    by_cases unbalanced : 1 < (filling.diff free .alliance - filling.diff free .horde).natAbs ∧
        (0 < (filling.pool .horde).playerCount ∨ 0 < (filling.pool .alliance).playerCount)
    · rw [if_pos unbalanced, if_pos unbalanced]
      unfold behind
      generalize filling.balanceTeam queue free _ = next
      obtain ⟨next, more⟩ := next
      cases more with
      | true => exact ih next
      | false => rfl
    · rw [if_neg unbalanced, if_neg unbalanced]

def refill (team : Team) : Filling :=
  let diffOther := filling.diff free team.other
  let kicked := filling.kick queue team (diffOther - filling.diff free team).toNat
  if kicked.2 then
    kicked.1.fill queue team
      (if diffOther ≤ free team then ((free team : Int) - diffOther).toNat else 0)
  else kicked.1

theorem held_refill_le (team other : Team) :
    (filling.refill queue free team).held other ≤
      (filling.kick queue team
        (filling.diff free team.other - filling.diff free team).toNat).1.held other := by
  unfold refill
  dsimp only
  split
  · exact held_fill_le queue _ team other _
  · exact le_refl _

variable {queue free filling}

theorem diff_behind
    (unbalanced : 1 < (filling.diff free .alliance - filling.diff free .horde).natAbs) :
    filling.diff free (filling.behind free) + 2 ≤
      filling.diff free (filling.behind free).other := by
  unfold behind
  split <;> grind [Team.other]

theorem balanceTeam_eq (team : Team) :
    filling.balanceTeam queue free team =
      if ((filling.refill queue free team).pool team).playerCount = 0 then
        if (free team : Int) ≤ filling.diff free team.other + 1 then
          (filling.refill queue free team, false)
        else
          (((filling.refill queue free team).kick queue team.other
            (filling.diff free team.other - filling.diff free team).toNat).1, true)
      else (filling.refill queue free team, true) :=
  rfl

theorem balanceTeam_left {team : Team} {last : Filling}
    (left : filling.balanceTeam queue free team = (last, false)) :
    (last.pool team).playerCount = 0 := by
  rw [balanceTeam_eq] at left
  split at left
  · grind
  · cases left

theorem remaining_balanceTeam_lt {team : Team} (players : (filling.pool team).playerCount ≠ 0)
    (groups : (filling.pool team).selectedGroups ≠ []) :
    (filling.balanceTeam queue free team).1.remaining < filling.remaining := by
  have fewer := held_kick_lt queue filling
    (filling.diff free team.other - filling.diff free team).toNat players groups
  have otherKick := held_kick_le queue filling team team.other
    (filling.diff free team.other - filling.diff free team).toNat
  have own := held_refill_le queue free filling team team
  have other := held_refill_le queue free filling team team.other
  rw [balanceTeam_eq]
  split
  · split
    · rw [remaining_eq _ team, remaining_eq _ team]
      dsimp only
      omega
    · have ownLast := held_kick_le queue (filling.refill queue free team) team.other team
        (filling.diff free team.other - filling.diff free team).toNat
      have otherLast := held_kick_le queue (filling.refill queue free team) team.other team.other
        (filling.diff free team.other - filling.diff free team).toNat
      rw [remaining_eq _ team, remaining_eq _ team]
      dsimp only
      omega
  · rw [remaining_eq _ team, remaining_eq _ team]
    dsimp only
    omega

theorem refill_empty {team : Team} (empty : (filling.pool team).playerCount = 0)
    (less : (free team : Int) < filling.diff free team.other)
    (sizes : ∀ group ∈ filling.rest team, 1 ≤ queue.size group) :
    ((filling.refill queue free team).pool team).playerCount = 0 := by
  have kept : ∀ size, (filling.pool team).kickGroup queue size = (filling.pool team, true) := by
    simp_all [SelectionPool.kickGroup]
  have same : ∀ size, (filling.kick queue team size) = (filling, true) := by
    simp [kick, kept, Function.update_eq_self]
  unfold refill
  simp only [same, if_pos, if_neg (not_le.mpr less), fill, Function.update_self,
    fillList_zero queue empty sizes]
  exact empty

theorem players_of_again {team : Team} {next : Filling}
    (less : filling.diff free team + 2 ≤ filling.diff free team.other)
    (sizes : ∀ group ∈ filling.rest team, 1 ≤ queue.size group)
    (again : filling.balanceTeam queue free team = (next, true)) :
    (filling.pool team).playerCount ≠ 0 := by
  intro empty
  have own : filling.diff free team = free team := by
    simp_all [diff]
  have refilled : ((filling.refill queue free team).pool team).playerCount = 0 :=
    refill_empty empty (by omega) sizes
  rw [balanceTeam_eq, if_pos refilled, if_pos (by omega)] at again
  cases again

variable {lists : Team → List Nat}

theorem Draw.sizes_rest (draw : filling.Draw queue lists free)
    (sizes : ∀ team, ∀ group ∈ lists team, 1 ≤ queue.size group) (team : Team) :
    ∀ group ∈ filling.rest team, 1 ≤ queue.size group :=
  fun group inside =>
    sizes team group ((draw team).drawn.subset (List.mem_append.mpr (Or.inr inside)))

theorem Draw.again (draw : filling.Draw queue lists free)
    (sizes : ∀ team, ∀ group ∈ lists team, 1 ≤ queue.size group) {next : Filling}
    (again : filling.round queue free = some (next, true)) :
    next.Draw queue lists free ∧ next.remaining < filling.remaining := by
  unfold round at again
  split at again
  · rename_i unbalanced
    have result := Option.some.inj again
    have players := players_of_again (diff_behind unbalanced.1)
      (draw.sizes_rest sizes (filling.behind free)) result
    have groups : (filling.pool (filling.behind free)).selectedGroups ≠ [] := by
      intro empty
      apply players
      rw [(draw _).count, empty, List.map_nil, List.sum_nil]
    have kept := draw.balanceTeam (filling.behind free)
    have fewer : (filling.balanceTeam queue free _).1.remaining < filling.remaining :=
      remaining_balanceTeam_lt players groups
    rw [result] at kept fewer
    exact ⟨kept, fewer⟩
  · cases again

def Balanced (free : Team → Nat) (filling : Filling) : Prop :=
  (filling.diff free .alliance - filling.diff free .horde).natAbs ≤ 1 ∨
    ∃ team, (filling.pool team).playerCount = 0

theorem balanced_of_over (atEnd : filling.round queue free = none) : filling.Balanced free := by
  unfold round at atEnd
  split at atEnd
  · cases atEnd
  · rename_i balanced
    by_cases even : (filling.diff free .alliance - filling.diff free .horde).natAbs ≤ 1
    · exact Or.inl even
    · refine Or.inr ⟨.horde, ?_⟩
      by_contra players
      exact balanced ⟨by omega, Or.inl (by omega)⟩

theorem balanced_of_left {last : Filling}
    (left : filling.round queue free = some (last, false)) : last.Balanced free := by
  unfold round at left
  split at left
  · exact Or.inr ⟨_, balanceTeam_left (Option.some.inj left)⟩
  · cases left

section

variable (draw : filling.Draw queue lists free)
include draw

theorem Draw.loop
    (sizes : ∀ team, ∀ group ∈ lists team, 1 ≤ queue.size group) {rounds : Nat}
    (enough : filling.remaining < rounds) :
    Loop (round queue free) filling (filling.balance queue free rounds) := by
  rw [balance_eq]
  exact loop_loopFor (fun _ _ holds more => Draw.again holds sizes more) draw enough

theorem Draw.balanced {last : Filling}
    (sizes : ∀ team, ∀ group ∈ lists team, 1 ≤ queue.size group)
    (ends : Loop (round queue free) filling last) : last.Balanced free :=
  ends.result (fun _ _ holds more => (Draw.again holds sizes more).1)
    (fun _ _ atEnd => balanced_of_over atEnd) (fun _ _ _ left => balanced_of_left left) draw

theorem Draw.remaining_le :
    filling.remaining ≤ (lists .alliance).length + (lists .horde).length := by
  have ali := (draw .alliance).drawn.length_le
  have horde := (draw .horde).drawn.length_le
  rw [List.length_append] at ali horde
  exact Nat.add_le_add ali horde

end

end Filling

namespace BattlegroundQueue

variable (queue : BattlegroundQueue) (surroundings : Surroundings) (bg : Battleground)
  (bracket : Fin maxBattlegroundBrackets)

/-- `BattlegroundQueue::FillPlayersToBG` returns and leaves these pools; here its loop has no
bound on the rounds. -/
def FillsPlayersToBG (pools : Pools) : Prop :=
  if surroundings.invitationType = 0 then pools = (queue.firstFilling bg bracket).pool
  else
    ∃ last, Loop (Filling.round queue bg.getFreeSlotsForTeam) (queue.firstFilling bg bracket) last ∧
      pools = last.pool

variable {queue bg bracket}

/-- The loop of `FillPlayersToBG` ends, and `fillPlayersToBG` gives its pools. -/
theorem fillsPlayersToBG_iff
    (sizes : ∀ team, ∀ group ∈ queue.normal bracket team, 1 ≤ queue.size group) (pools : Pools) :
    queue.FillsPlayersToBG surroundings bg bracket pools ↔
      pools = queue.fillPlayersToBG surroundings bg bracket := by
  have draw : (queue.firstFilling bg bracket).Draw queue _ _ := firstFilling_draw
  have loop := draw.loop sizes (Nat.lt_succ_of_le draw.remaining_le)
  unfold FillsPlayersToBG fillPlayersToBG
  split
  · rfl
  · constructor
    · rintro ⟨last, ends, rfl⟩
      rw [ends.unique loop]
      rfl
    · intro same
      exact ⟨_, loop, same⟩

theorem fillPlayersToBG_balanced
    (sizes : ∀ team, ∀ group ∈ queue.normal bracket team, 1 ≤ queue.size group)
    (balancing : surroundings.invitationType ≠ 0) :
    ∃ rest, ({ pool := queue.fillPlayersToBG surroundings bg bracket, rest := rest } :
      Filling).Balanced bg.getFreeSlotsForTeam := by
  have draw : (queue.firstFilling bg bracket).Draw queue _ _ := firstFilling_draw
  have ends : queue.FillsPlayersToBG surroundings bg bracket _ :=
    (fillsPlayersToBG_iff surroundings sizes _).mpr rfl
  unfold FillsPlayersToBG at ends
  rw [if_neg balancing] at ends
  obtain ⟨last, loop, same⟩ := ends
  refine ⟨last.rest, ?_⟩
  rw [same]
  exact draw.balanced sizes loop

/-- `FillPlayersToBG` returns. Then each pool counts the players of its groups, who are no more than
the free slots of the team, its groups come from the queue of the team, each place of the queue
gives one group at most, and nobody has invited them. With the balancing mode the free slots that
remain for the teams differ by one at most, unless a pool is empty. -/
theorem fillPlayersToBG_ends (surroundings : Surroundings) (queue : BattlegroundQueue)
    (bg : Battleground) (bracket : Fin maxBattlegroundBrackets)
    (sizes : ∀ team, ∀ group ∈ queue.normal bracket team, 1 ≤ queue.size group) :
    ∃ pools : Pools,
      (∀ left, queue.FillsPlayersToBG surroundings bg bracket left ↔ left = pools) ∧
      pools = queue.fillPlayersToBG surroundings bg bracket ∧
      (∀ team, (pools team).playerCount = ((pools team).selectedGroups.map queue.size).sum ∧
        (pools team).playerCount ≤ bg.getFreeSlotsForTeam team ∧
        (pools team).selectedGroups.Sublist (queue.normal bracket team) ∧
        ∀ group ∈ (pools team).selectedGroups, queue.isInvited group = false) ∧
      ((queue.normal bracket .alliance ++ queue.normal bracket .horde).Nodup →
        ((pools .alliance).selectedGroups ++ (pools .horde).selectedGroups).Nodup) ∧
      (surroundings.invitationType ≠ 0 → (pools .alliance).selectedGroups ≠ [] →
        (pools .horde).selectedGroups ≠ [] →
        (((bg.getFreeSlotsForTeam .alliance : Int) - (pools .alliance).playerCount) -
          ((bg.getFreeSlotsForTeam .horde : Int) - (pools .horde).playerCount)).natAbs ≤ 1) := by
  have drawn : ∀ team, (queue.fillPlayersToBG surroundings bg bracket team).selectedGroups.Sublist
      (queue.normal bracket team) := by
    intro team
    obtain ⟨rest, draws⟩ := fillPlayersToBG_draws surroundings bg team
    exact (List.sublist_append_left _ rest).trans draws.drawn
  refine ⟨_, fillsPlayersToBG_iff surroundings sizes, rfl, ?_, ?_, ?_⟩
  · intro team
    obtain ⟨rest, draws⟩ := fillPlayersToBG_draws surroundings bg team
    exact ⟨draws.count, draws.bounded, drawn team, draws.uninvited⟩
  · exact fun distinct => distinct.sublist ((drawn .alliance).append (drawn .horde))
  · intro balancing aliGroups hordeGroups
    have players : ∀ team, (queue.fillPlayersToBG surroundings bg bracket team).selectedGroups ≠ [] →
        (queue.fillPlayersToBG surroundings bg bracket team).playerCount ≠ 0 := by
      intro team groups none
      obtain ⟨rest, draws⟩ := fillPlayersToBG_draws surroundings bg team
      obtain ⟨group, inside⟩ := List.exists_mem_of_ne_nil _ groups
      have large := sizes team group ((drawn team).subset inside)
      rw [draws.count, List.sum_eq_zero_iff_forall_eq_nat] at none
      have size := none (queue.size group) (List.mem_map_of_mem inside)
      omega
    obtain ⟨rest, even | ⟨team, empty⟩⟩ := fillPlayersToBG_balanced surroundings sizes balancing
    · exact even
    · cases team with
      | alliance => exact absurd empty (players .alliance aliGroups)
      | horde => exact absurd empty (players .horde hordeGroups)

def threeGroups : BattlegroundQueue where
  queuedPlayers := OrdMap.empty
  queuedGroups := fun place =>
    if place = (0, .normal .alliance) then [1, 2] else if place = (0, .normal .horde) then [3] else []
  groups := fun group =>
    match group with
    | 1 => some { GroupQueueInfo.blank with players := [11, 12, 13] }
    | 2 => some { GroupQueueInfo.blank with players := [21] }
    | 3 => some { GroupQueueInfo.blank with players := [31], team := .horde }
    | _ => none

def emptyBattleground : Battleground where
  instanceId := 1
  typeId := 2
  bracketId := 0
  isArena := false
  arenaType := 0
  status := .waitJoin
  minPlayersPerTeam := 5
  maxPlayersPerTeam := 10
  invitedCount := fun _ => 0
  players := OrdMap.empty
  playersCount := fun _ => 0
  inBGFreeSlotQueue := true

/-- The group of three is kicked, so that one player remains on each side. -/
theorem fillPlayersToBG_ends_three :
    let surroundings : Surroundings :=
      { now := 10, invitationType := 1, premadeWait := 1800000, testing := false
        arenaTesting := false, maxRatingDifference := 150, ratingDiscardTimer := 600000
        template := fun _ => none, hasBracket := true, premadeCreation := ⟨none, 0⟩
        creation := ⟨none, 0⟩, online := fun _ => true }
    (∀ team, ∀ group ∈ threeGroups.normal 0 team, 1 ≤ threeGroups.size group) ∧
    (threeGroups.fillPlayersToBG surroundings emptyBattleground 0 .alliance).selectedGroups = [2] ∧
    (threeGroups.fillPlayersToBG surroundings emptyBattleground 0 .horde).selectedGroups = [3] ∧
    ∃ pools : Pools,
      (∀ left, threeGroups.FillsPlayersToBG surroundings emptyBattleground 0 left ↔ left = pools) ∧
      (surroundings.invitationType ≠ 0 → (pools .alliance).selectedGroups ≠ [] →
        (pools .horde).selectedGroups ≠ [] → (((10 : Int) - (pools .alliance).playerCount) -
          ((10 : Int) - (pools .horde).playerCount)).natAbs ≤ 1) := by
  intro surroundings
  have sizes : ∀ team, ∀ group ∈ threeGroups.normal 0 team, 1 ≤ threeGroups.size group := by
    intro team
    cases team with
    | alliance | horde => decide
  obtain ⟨pools, ends, -, -, -, balanced⟩ :=
    fillPlayersToBG_ends surroundings threeGroups emptyBattleground 0 sizes
  exact ⟨sizes, by decide, by decide, pools, ends, balanced⟩

end BattlegroundQueue

end DarkCore.Battlegrounds.Queues
