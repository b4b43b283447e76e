/-
Where the groups of a battleground queue stand. A group that is queued stands once
in one list, in one of the team it plays for; joining, leaving and every way in
which an update moves a group keep this.
-/

import DarkCore.Battlegrounds.Matching
import DarkCore.Lib.Runs

namespace DarkCore.Battlegrounds.Queues

open DarkCore.Lib

namespace BattlegroundQueue

variable {queue before after : BattlegroundQueue}

/-! ### The invariant -/

def teamOf (queue : BattlegroundQueue) (group : Nat) : Team := (queue.info group).team

structure Sided (queue : BattlegroundQueue) (team : Nat → Team) : Prop where
  apart : Apart queue.queuedGroups
  side : ∀ group place, group ∈ queue.queuedGroups place → place.2.team = team group

structure Manned (queue : BattlegroundQueue) : Prop where
  filled : ∀ group place, group ∈ queue.queuedGroups place → (queue.info group).players ≠ []
  nodup : ∀ group place, group ∈ queue.queuedGroups place → (queue.info group).players.Nodup
  queued : ∀ group place, group ∈ queue.queuedGroups place →
    ∀ guid ∈ (queue.info group).players, queue.queuedPlayers.find guid = some group
  recorded : ∀ guid group, queue.queuedPlayers.find guid = some group →
    guid ∈ (queue.info group).players ∧ ∃ place, group ∈ queue.queuedGroups place

/-- Every queued player's group stands once in exactly one list, whose side is the group's team,
and has the player among its own; every group in a list has a player, and all its players are
queued with it. -/
structure Regular (queue : BattlegroundQueue) : Prop where
  player : ∀ guid group, queue.queuedPlayers.find guid = some group →
    guid ∈ (queue.info group).players ∧
      ∃ place, (queue.queuedGroups place).count group = 1 ∧
        (∀ other, group ∈ queue.queuedGroups other → other = place) ∧
        place.2.team = (queue.info group).team
  group : ∀ place, ∀ group ∈ queue.queuedGroups place,
    (queue.info group).players ≠ [] ∧
      ∀ guid ∈ (queue.info group).players, queue.queuedPlayers.find guid = some group

theorem Sided.regular (sided : queue.Sided queue.teamOf) (manned : queue.Manned) :
    queue.Regular := by
  constructor
  · intro guid group found
    obtain ⟨inside, place, stands⟩ := manned.recorded guid group found
    refine ⟨inside, place, ?_, ?_, sided.side group place stands⟩
    · exact List.count_eq_one_of_mem (sided.apart.nodup place) stands
    · intro other standsThere
      exact sided.apart.unique group other place standsThere stands
  · intro place group stands
    exact ⟨manned.filled group place stands, manned.queued group place stands⟩

/-- A change that moves groups and writes to them, but leaves alone who is queued with whom. -/
structure Rearranged (before after : BattlegroundQueue) : Prop where
  queued : after.queuedPlayers = before.queuedPlayers
  players : ∀ group, (after.info group).players = (before.info group).players
  listed : ∀ group, (∃ place, group ∈ after.queuedGroups place) ↔
    ∃ place, group ∈ before.queuedGroups place

theorem Rearranged.refl (queue : BattlegroundQueue) : queue.Rearranged queue :=
  ⟨rfl, fun _ => rfl, fun _ => Iff.rfl⟩

theorem Rearranged.trans {middle : BattlegroundQueue} (first : before.Rearranged middle)
    (second : middle.Rearranged after) : before.Rearranged after := by
  constructor
  · rw [second.queued, first.queued]
  · simp [second.players, first.players]
  · simp [second.listed, first.listed]

theorem Manned.rearranged (manned : before.Manned) (changed : before.Rearranged after) :
    after.Manned := by
  have listed : ∀ group place, group ∈ after.queuedGroups place →
      ∃ place, group ∈ before.queuedGroups place :=
    fun group place stands => (changed.listed group).mp ⟨place, stands⟩
  constructor
  · intro group place stands
    obtain ⟨old, stood⟩ := listed group place stands
    rw [changed.players]
    exact manned.filled group old stood
  · intro group place stands
    obtain ⟨old, stood⟩ := listed group place stands
    rw [changed.players]
    exact manned.nodup group old stood
  · intro group place stands
    obtain ⟨old, stood⟩ := listed group place stands
    rw [changed.players, changed.queued]
    exact manned.queued group old stood
  · intro guid group found
    rw [changed.queued] at found
    rw [changed.players, changed.listed]
    exact manned.recorded guid group found

/-! ### Writing to a group and moving it -/

variable {group : Nat} {team : Nat → Team} {bracket : Fin maxBattlegroundBrackets}

theorem setInfo_rearranged {info : GroupQueueInfo}
    (players : info.players = (queue.info group).players) :
    queue.Rearranged (queue.setInfo group info) := by
  refine ⟨rfl, ?_, fun _ => Iff.rfl⟩
  intro other
  rw [info_setInfo]
  split
  · simp_all
  · rfl

theorem move_rearranged (apart : Apart queue.queuedGroups) {source target : Place}
    (stands : group ∈ queue.queuedGroups source) (different : source ≠ target) :
    queue.Rearranged (queue.move group source target) := by
  refine ⟨rfl, fun _ => rfl, ?_⟩
  intro other
  have lists : ∀ place, other ∈ Apart.move queue.queuedGroups group source target place ↔
      (other = group ∧ place = target) ∨ (other ≠ group ∧ other ∈ queue.queuedGroups place) :=
    fun _ => apart.mem_move stands different
  constructor
  · rintro ⟨place, inside⟩
    rcases (lists place).mp inside with ⟨same, -⟩ | ⟨-, old⟩
    · exact ⟨source, same ▸ stands⟩
    · exact ⟨place, old⟩
  · rintro ⟨place, old⟩
    by_cases same : other = group
    · exact ⟨target, (lists target).mpr (Or.inl ⟨same, rfl⟩)⟩
    · exact ⟨place, (lists place).mpr (Or.inr ⟨same, old⟩)⟩

theorem Sided.move (sided : queue.Sided team)
    {source target : Place} (stands : group ∈ queue.queuedGroups source)
    (different : source ≠ target) :
    (queue.move group source target).Sided (Function.update team group target.2.team) := by
  refine ⟨sided.apart.moved stands different, ?_⟩
  intro other place inside
  rcases (sided.apart.mem_move stands different).mp inside with ⟨same, there⟩ | ⟨apartFrom, old⟩
  · rw [same, there, Function.update_self]
  · rw [Function.update_of_ne apartFrom]
    exact sided.side other place old

theorem setInfo_sided (sided : queue.Sided team) (group : Nat)
    (info : GroupQueueInfo) : (queue.setInfo group info).Sided team :=
  ⟨sided.apart, sided.side⟩

theorem teamOf_setInfo (group : Nat) (info : GroupQueueInfo) :
    (queue.setInfo group info).teamOf = Function.update queue.teamOf group info.team := by
  funext other
  unfold teamOf
  rw [info_setInfo]
  by_cases same : other = group
  · rw [if_pos same, same, Function.update_self]
  · rw [if_neg same, Function.update_of_ne same]

/-- What the steps of an update keep, while they move groups one by one. -/
structure Kept (before after : BattlegroundQueue) : Prop where
  rearranged : before.Rearranged after
  sided : after.Sided after.teamOf

theorem Kept.trans {middle : BattlegroundQueue} (first : before.Kept middle)
    (second : middle.Kept after) : before.Kept after :=
  ⟨first.rearranged.trans second.rearranged, second.sided⟩

theorem Sided.kept (sided : queue.Sided queue.teamOf) : queue.Kept queue :=
  ⟨Rearranged.refl queue, sided⟩

/-! ### Invitations -/

theorem inviteGroupToBG_queue (queue : BattlegroundQueue) (surroundings : Surroundings)
    (group : Nat) (bg : Battleground) (side : Option Team) :
    ∃ info : GroupQueueInfo,
      (queue.inviteGroupToBG surroundings group bg side).1 = queue.setInfo group info ∧
        info.players = (queue.info group).players ∧
        info.team = side.getD (queue.teamOf group) := by
  unfold inviteGroupToBG
  dsimp only
  split <;> exact ⟨_, rfl, rfl, rfl⟩

theorem inviteGroupToBG_rearranged (surroundings : Surroundings) (group : Nat) (bg : Battleground)
    (side : Option Team) :
    queue.Rearranged (queue.inviteGroupToBG surroundings group bg side).1 := by
  obtain ⟨info, result, players, -⟩ :=
    inviteGroupToBG_queue queue surroundings group bg side
  rw [result]
  exact setInfo_rearranged players

theorem teamOf_inviteGroupToBG (surroundings : Surroundings) (group : Nat) (bg : Battleground)
    (side : Option Team) :
    (queue.inviteGroupToBG surroundings group bg side).1.teamOf =
      Function.update queue.teamOf group (side.getD (queue.teamOf group)) := by
  obtain ⟨info, result, -, team⟩ :=
    inviteGroupToBG_queue queue surroundings group bg side
  rw [result, teamOf_setInfo, team]

theorem inviteGroupToBG_sided (sided : queue.Sided team)
    (surroundings : Surroundings) (group : Nat) (bg : Battleground) (side : Option Team) :
    (queue.inviteGroupToBG surroundings group bg side).1.Sided team := by
  obtain ⟨info, result, -, -⟩ :=
    inviteGroupToBG_queue queue surroundings group bg side
  rw [result]
  exact setInfo_sided sided group info

theorem inviteGroups_kept (surroundings : Surroundings) (groups : List Nat) (bg : Battleground)
    (sided : queue.Sided queue.teamOf) :
    queue.Kept (queue.inviteGroups surroundings groups bg).1 := by
  unfold inviteGroups
  induction groups generalizing queue bg with
  | nil => exact sided.kept
  | cons group rest ih =>
    rw [List.foldl_cons]
    have same : (queue.inviteGroupToBG surroundings group bg
        (some (queue.info group).team)).1.teamOf = queue.teamOf := by
      rw [teamOf_inviteGroupToBG]
      exact Function.update_eq_self group queue.teamOf
    have next := inviteGroupToBG_sided sided surroundings group bg
      (some (queue.info group).team)
    have step : queue.Kept
        (queue.inviteGroupToBG surroundings group bg (some (queue.info group).team)).1 :=
      ⟨inviteGroupToBG_rearranged surroundings group bg _, same.symm ▸ next⟩
    exact step.trans (ih _ step.sided)

theorem invitePools_kept (surroundings : Surroundings) (pools : Pools) (bg : Battleground)
    (sided : queue.Sided queue.teamOf) :
    queue.Kept (queue.invitePools surroundings pools bg).1 := by
  have first := inviteGroups_kept surroundings (pools .alliance).selectedGroups bg sided
  exact first.trans (inviteGroups_kept surroundings (pools .horde).selectedGroups _ first.sided)

/-! ### The premade group that goes to the normal list -/

theorem movePremade_kept (surroundings : Surroundings) (bracket : Fin maxBattlegroundBrackets)
    (minPlayersPerTeam : Nat) (team : Team) (sided : queue.Sided queue.teamOf) :
    queue.Kept (queue.movePremade surroundings bracket minPlayersPerTeam team) := by
  unfold movePremade
  dsimp only
  split
  · exact sided.kept
  · rename_i group rest front
    split
    · have stands : group ∈ queue.queuedGroups (bracket, .premade team) := by
        have list : queue.queuedGroups (bracket, .premade team) = group :: rest := front
        rw [list]
        exact List.mem_cons_self
      have different : ((bracket, .premade team) : Place) ≠ (bracket, .normal team) := by
        simp
      refine ⟨move_rearranged sided.apart stands different, ?_⟩
      have moved := sided.move stands different
      have own : team = queue.teamOf group := sided.side group _ stands
      rw [show ((bracket, GroupType.normal team) : Place).2.team = queue.teamOf group from own,
        Function.update_eq_self] at moved
      exact moved
    · exact sided.kept

theorem checkPremadeMatch_kept (surroundings : Surroundings)
    (bracket : Fin maxBattlegroundBrackets) (minPlayersPerTeam maxPlayersPerTeam : Nat)
    (sided : queue.Sided queue.teamOf) :
    queue.Kept
      (queue.checkPremadeMatch surroundings bracket minPlayersPerTeam maxPlayersPerTeam).1 := by
  unfold checkPremadeMatch
  dsimp only
  split
  · exact sided.kept
  · have first := movePremade_kept surroundings bracket minPlayersPerTeam .alliance sided
    exact first.trans
      (movePremade_kept surroundings bracket minPlayersPerTeam .horde first.sided)

/-! ### The groups of a skirmish that change the side -/

theorem addNormal_sublist (queue : BattlegroundQueue) (maxPlayers : Nat) (groups : List Nat)
    (pool : SelectionPool) :
    ∃ added, added.Sublist groups ∧
      (queue.addNormal maxPlayers groups pool).selectedGroups = pool.selectedGroups ++ added := by
  induction groups generalizing pool with
  | nil => exact ⟨[], List.Sublist.refl [], (List.append_nil _).symm⟩
  | cons group rest ih =>
    unfold addNormal
    split
    · obtain ⟨added, shorter, result⟩ := ih pool
      exact ⟨added, shorter.cons group, result⟩
    · split
      · rename_i pool' added
        obtain ⟨later, shorter, result⟩ := ih pool'
        rcases pool.addGroup_cases queue group maxPlayers with ⟨-, -, new⟩ | same
        · grind
        · simp_all
      · rename_i pool' refused
        rcases pool.addGroup_cases queue group maxPlayers with ⟨-, -, new⟩ | same <;> simp_all

theorem changeSide_kept (bracket : Fin maxBattlegroundBrackets) (team : Team) (groups : List Nat)
    (sided : queue.Sided queue.teamOf) (nodup : groups.Nodup)
    (stand : ∀ group ∈ groups, group ∈ queue.queuedGroups (bracket, .normal team.other)) :
    queue.Kept (queue.changeSide bracket team groups) := by
  unfold changeSide
  induction groups generalizing queue with
  | nil => exact sided.kept
  | cons group rest ih =>
    rw [List.foldl_cons]
    have different : ((bracket, .normal team.other) : Place) ≠ (bracket, .normal team) :=
      fun same => team.other_ne (GroupType.normal.inj (Prod.mk.inj same).2)
    have stands := stand group List.mem_cons_self
    have written : (queue.setInfo group { queue.info group with team := team }).Sided
        queue.teamOf := setInfo_sided sided group _
    have moved := written.move stands different
    have teams : ((queue.setInfo group { queue.info group with team := team }).move group
        (bracket, .normal team.other) (bracket, .normal team)).teamOf =
          Function.update queue.teamOf group team :=
      teamOf_setInfo group { queue.info group with team := team }
    have step : queue.Kept
        ((queue.setInfo group { queue.info group with team := team }).move group
          (bracket, .normal team.other) (bracket, .normal team)) := by
      constructor
      · have rewritten : queue.Rearranged
            (queue.setInfo group { queue.info group with team := team }) :=
          setInfo_rearranged rfl
        exact rewritten.trans (move_rearranged written.apart stands different)
      · rw [teams]
        exact moved
    refine step.trans (ih step.sided (List.nodup_cons.mp nodup).2 ?_)
    intro other later
    apply (written.apart.mem_move stands different).mpr
    have apartFrom : other ≠ group :=
      fun same => (List.nodup_cons.mp nodup).1 (same ▸ later)
    exact Or.inr ⟨apartFrom, stand other (List.mem_cons_of_mem group later)⟩

theorem checkSkirmishForSameFaction_kept (bracket : Fin maxBattlegroundBrackets)
    (minPlayersPerTeam : Nat) (pools : Pools) (sided : queue.Sided queue.teamOf)
    {result : BattlegroundQueue × Pools}
    (found : queue.checkSkirmishForSameFaction bracket minPlayersPerTeam pools = some result) :
    queue.Kept result.1 := by
  unfold checkSkirmishForSameFaction at found
  split at found
  · cases found
  · dsimp only at found
    split at found
    · cases found
    · split at found
      · cases found
      · rename_i group last other rest tail
        split at found
        · cases found
        · cases found
          generalize side : (if (pools .horde).playerCount = minPlayersPerTeam then Team.horde
            else Team.alliance) = team at tail last
          obtain ⟨added, shorter, selected⟩ :=
            addNormal_sublist queue minPlayersPerTeam rest SelectionPool.init
          have within : added.Sublist (queue.queuedGroups (bracket, .normal team)) := by
            refine (shorter.trans (List.sublist_cons_self other rest)).trans ?_
            rw [← tail]
            exact List.dropWhile_sublist _
          have groups : (queue.addNormal minPlayersPerTeam rest SelectionPool.init).selectedGroups
              = added := selected
          rw [groups]
          apply changeSide_kept bracket team.other added sided
          · exact (sided.apart.nodup _).sublist within
          · grind [team.other_other]

/-! ### The two groups of a rated match -/

theorem searchRated_sublist (queue : BattlegroundQueue) (surroundings : Surroundings)
    (arenaRating maxPlayersPerTeam : Nat) (start : List Nat) (pool : SelectionPool) :
    (queue.searchRated surroundings arenaRating maxPlayersPerTeam start pool).1.Sublist start := by
  unfold searchRated
  split
  · exact List.nil_sublist start
  · grind

theorem opponents_eq {ali horde : List Nat} {ready : Prop} [Decidable ready]
    {opponents : Nat × Nat}
    (found : (match ali, horde with
      | aliGroup :: _, hordeGroup :: _ => if ready then some (aliGroup, hordeGroup) else none
      | _, _ => none) = some opponents) :
    (∃ rest, ali = opponents.1 :: rest) ∧ ∃ rest, horde = opponents.2 :: rest := by
  split at found
  · split at found
    · cases found
      exact ⟨⟨_, rfl⟩, ⟨_, rfl⟩⟩
    · cases found
  · cases found

theorem found_behind {list found rest later : List Nat} {front : Nat}
    (nodup : list.Nodup) (within : found.Sublist list) (start : found = front :: rest)
    (behind : (group :: later).Sublist found.tail) :
    group ≠ front ∧ front ∈ list ∧ group ∈ list := by
  rw [start, List.tail_cons] at behind
  rw [start] at within
  have inRest : group ∈ rest := behind.subset List.mem_cons_self
  have apartFrom := (List.nodup_cons.mp (nodup.sublist within)).1
  refine ⟨fun same => apartFrom (same ▸ inRest), within.subset List.mem_cons_self, ?_⟩
  exact within.subset (List.mem_cons_of_mem front inRest)

theorem findOpponents_stand {surroundings : Surroundings}
    {arenaRating maxPlayersPerTeam ali horde : Nat}
    (apart : Apart queue.queuedGroups)
    (found : queue.findOpponents surroundings bracket arenaRating maxPlayersPerTeam =
      some (ali, horde)) :
    ali ≠ horde ∧ (∃ team, ali ∈ queue.queuedGroups (bracket, .premade team)) ∧
      ∃ team, horde ∈ queue.queuedGroups (bracket, .premade team) := by
  unfold findOpponents at found
  dsimp only at found
  generalize searchAli : queue.searchRated surroundings arenaRating maxPlayersPerTeam
    (queue.premade bracket .alliance) SelectionPool.init = first at found
  generalize searchHorde : queue.searchRated surroundings arenaRating maxPlayersPerTeam
    (queue.premade bracket .horde) SelectionPool.init = second at found
  have inAli : first.1.Sublist (queue.queuedGroups (bracket, .premade .alliance)) := by
    rw [← searchAli]
    exact searchRated_sublist queue surroundings arenaRating maxPlayersPerTeam _ _
  have inHorde : second.1.Sublist (queue.queuedGroups (bracket, .premade .horde)) := by
    rw [← searchHorde]
    exact searchRated_sublist queue surroundings arenaRating maxPlayersPerTeam _ _
  by_cases needsAli : first.2.playerCount = 0 ∧ second.2.playerCount ≠ 0
  · have noNeed : ∀ count, ¬(second.2.playerCount = 0 ∧ count ≠ 0) := fun _ both =>
      needsAli.2 both.1
    simp only [if_pos needsAli, if_neg (noNeed _)] at found
    obtain ⟨⟨later, aliFound⟩, rest, hordeFound⟩ := opponents_eq found
    have behind := searchRated_sublist queue surroundings arenaRating maxPlayersPerTeam
      second.1.tail first.2
    rw [aliFound] at behind
    obtain ⟨different, hordeStands, aliStands⟩ :=
      found_behind (apart.nodup _) inHorde hordeFound behind
    exact ⟨different, ⟨_, aliStands⟩, ⟨_, hordeStands⟩⟩
  · simp only [if_neg needsAli] at found
    by_cases needsHorde : second.2.playerCount = 0 ∧ first.2.playerCount ≠ 0
    · simp only [if_pos needsHorde] at found
      obtain ⟨⟨rest, aliFound⟩, later, hordeFound⟩ := opponents_eq found
      have behind := searchRated_sublist queue surroundings arenaRating
        maxPlayersPerTeam first.1.tail second.2
      rw [hordeFound] at behind
      obtain ⟨different, aliStands, hordeStands⟩ :=
        found_behind (apart.nodup _) inAli aliFound behind
      exact ⟨different.symm, ⟨_, aliStands⟩, ⟨_, hordeStands⟩⟩
    · simp only [if_neg needsHorde] at found
      obtain ⟨⟨rest, aliFound⟩, later, hordeFound⟩ := opponents_eq found
      have aliStands : ali ∈ queue.queuedGroups (bracket, .premade .alliance) := by
        grind
      have hordeStands : horde ∈ queue.queuedGroups (bracket, .premade .horde) := by
        grind
      refine ⟨?_, ⟨_, aliStands⟩, ⟨_, hordeStands⟩⟩
      intro same
      rw [same] at aliStands
      cases apart.unique horde _ _ aliStands hordeStands

theorem setOpponent_rearranged (group opponent : Nat) :
    queue.Rearranged (queue.setOpponent group opponent) :=
  setInfo_rearranged rfl

theorem teamOf_setOpponent (group opponent : Nat) :
    (queue.setOpponent group opponent).teamOf = queue.teamOf := by
  unfold setOpponent
  rw [teamOf_setInfo]
  exact Function.update_eq_self group queue.teamOf

theorem swapFaction_sided (sided : queue.Sided team)
    (side : Team)
    (stands : ∃ side, group ∈ queue.queuedGroups (bracket, .premade side))
    (own : queue.teamOf group = team group) :
    queue.Rearranged (queue.swapFaction bracket group side) ∧
      (queue.swapFaction bracket group side).Sided (Function.update team group side) ∧
      (queue.swapFaction bracket group side).teamOf = queue.teamOf ∧
      ∀ other, (∃ side, other ∈ queue.queuedGroups (bracket, .premade side)) →
        ∃ place, other ∈
          (queue.swapFaction bracket group side).queuedGroups (bracket, .premade place) := by
  obtain ⟨old, stands⟩ := stands
  have oldTeam : old = team group := sided.side group _ stands
  unfold swapFaction
  split
  · rename_i same
    have already : team group = side := own.symm.trans same
    refine ⟨Rearranged.refl queue, ?_, rfl, fun _ inside => inside⟩
    rw [← already, Function.update_eq_self]
    exact sided
  · rename_i differs
    have away : old = side.other := by
      have notSide : old ≠ side := fun same => differs (own.trans (oldTeam.symm.trans same))
      cases old <;> cases side <;> first | rfl | exact absurd rfl notSide
    rw [away] at stands
    have different : ((bracket, .premade side.other) : Place) ≠ (bracket, .premade side) :=
      fun same => side.other_ne (GroupType.premade.inj (Prod.mk.inj same).2)
    refine ⟨move_rearranged sided.apart stands different, sided.move stands different, rfl, ?_⟩
    rintro other ⟨place, inside⟩
    by_cases same : other = group
    · exact ⟨side, (sided.apart.mem_move stands different).mpr (Or.inl ⟨same, rfl⟩)⟩
    · exact ⟨place, (sided.apart.mem_move stands different).mpr (Or.inr ⟨same, inside⟩)⟩

theorem swapOpponents_sided {ali horde : Nat}
    (sided : queue.Sided queue.teamOf) (different : ali ≠ horde)
    (aliStands : ∃ team, ali ∈ queue.queuedGroups (bracket, .premade team))
    (hordeStands : ∃ team, horde ∈ queue.queuedGroups (bracket, .premade team)) :
    let named := (queue.setOpponent ali horde).setOpponent horde ali
    let swapped := (named.swapFaction bracket ali .alliance).swapFaction bracket horde .horde
    queue.Rearranged swapped ∧
      swapped.Sided (Function.update (Function.update queue.teamOf ali .alliance) horde .horde) ∧
        swapped.teamOf = queue.teamOf := by
  intro named swapped
  have named_rearranged : queue.Rearranged named :=
    (setOpponent_rearranged ali horde).trans (setOpponent_rearranged horde ali)
  have named_teams : named.teamOf = queue.teamOf := by
    rw [teamOf_setOpponent, teamOf_setOpponent]
  have named_sided : named.Sided queue.teamOf := ⟨sided.apart, sided.side⟩
  obtain ⟨first_rearranged, first_sided, first_teams, first_stand⟩ :=
    swapFaction_sided named_sided .alliance aliStands (congrFun named_teams ali)
  have own : (named.swapFaction bracket ali .alliance).teamOf horde =
      Function.update queue.teamOf ali .alliance horde := by
    rw [first_teams, named_teams, Function.update_of_ne different.symm]
  obtain ⟨second_rearranged, second_sided, second_teams, -⟩ :=
    swapFaction_sided first_sided .horde (first_stand horde hordeStands) own
  refine ⟨named_rearranged.trans (first_rearranged.trans second_rearranged), second_sided, ?_⟩
  rw [second_teams, first_teams, named_teams]

theorem inviteOpponents_kept (surroundings : Surroundings)
    {ali horde : Nat} (arena : Battleground) (sided : queue.Sided queue.teamOf)
    (different : ali ≠ horde)
    (aliStands : ∃ team, ali ∈ queue.queuedGroups (bracket, .premade team))
    (hordeStands : ∃ team, horde ∈ queue.queuedGroups (bracket, .premade team)) :
    let named := (queue.setOpponent ali horde).setOpponent horde ali
    let swapped := (named.swapFaction bracket ali .alliance).swapFaction bracket horde .horde
    let invited := swapped.inviteGroupToBG surroundings ali arena (some .alliance)
    queue.Kept (invited.1.inviteGroupToBG surroundings horde invited.2 (some .horde)).1 := by
  intro named swapped invited
  obtain ⟨rearranged, swappedSided, swappedTeams⟩ :=
    swapOpponents_sided sided different aliStands hordeStands
  refine ⟨rearranged.trans
    ((inviteGroupToBG_rearranged surroundings ali arena (some .alliance)).trans
      (inviteGroupToBG_rearranged surroundings horde invited.2 (some .horde))), ?_⟩
  have teams : (invited.1.inviteGroupToBG surroundings horde invited.2 (some .horde)).1.teamOf =
      Function.update (Function.update queue.teamOf ali .alliance) horde .horde := by
    rw [teamOf_inviteGroupToBG, teamOf_inviteGroupToBG, swappedTeams]
    rfl
  rw [teams]
  exact inviteGroupToBG_sided
    (inviteGroupToBG_sided swappedSided surroundings ali arena (some .alliance)) surroundings
    horde invited.2 (some .horde)

end BattlegroundQueue

/-! ### An update -/

namespace Site

open BattlegroundQueue

variable {site : Site}

@[simp] theorem addBattleground_queue (site : Site) (bg : Battleground) :
    (site.addBattleground bg).queue = site.queue := by
  unfold addBattleground
  split <;> rfl

theorem startBattleground_queue (site : Site) (invited : BattlegroundQueue × Battleground) :
    (site.startBattleground invited).queue = invited.1 := by
  unfold startBattleground
  rw [addBattleground_queue]

section

variable (surroundings : Surroundings) (call : UpdateCall)
include surroundings call

theorem fillBattleground_kept (instanceId : Nat)
    (sided : site.queue.Sided site.queue.teamOf) :
    site.queue.Kept (site.fillBattleground surroundings call instanceId).queue := by
  unfold fillBattleground
  split
  · exact sided.kept
  · split
    · dsimp only
      split <;> exact invitePools_kept surroundings _ _ sided
    · exact sided.kept

theorem fillBattlegrounds_kept
    (freeSlots : List Nat) (sided : site.queue.Sided site.queue.teamOf) :
    site.queue.Kept
      (freeSlots.foldl (fun site instanceId => site.fillBattleground surroundings call instanceId)
        site).queue := by
  induction freeSlots generalizing site with
  | nil => exact sided.kept
  | cons instanceId rest ih =>
    have step := fillBattleground_kept surroundings call instanceId sided
    exact step.trans (ih step.sided)

theorem startPremade_kept
    (minPlayersPerTeam maxPlayersPerTeam : Nat) (sided : site.queue.Sided site.queue.teamOf) :
    site.queue.Kept
      (site.startPremade surroundings call minPlayersPerTeam maxPlayersPerTeam).1.queue := by
  have checked := checkPremadeMatch_kept surroundings call.bracketId minPlayersPerTeam
    maxPlayersPerTeam sided
  unfold startPremade
  split
  · simp_all
  · rename_i queue pools found
    rw [found] at checked
    split
    · exact sided.kept
    · rw [startBattleground_queue]
      exact checked.trans (invitePools_kept surroundings pools _ checked.sided)

end

theorem selectMatch_kept {surroundings : Surroundings} {template : Template} {call : UpdateCall}
    {minPlayersPerTeam maxPlayersPerTeam : Nat} (sided : site.queue.Sided site.queue.teamOf)
    {result : BattlegroundQueue × Pools}
    (found : site.selectMatch surroundings template call minPlayersPerTeam maxPlayersPerTeam =
      some result) :
    site.queue.Kept result.1 := by
  unfold selectMatch at found
  dsimp only at found
  split at found
  · cases found
    exact sided.kept
  · split at found
    · exact checkSkirmishForSameFaction_kept call.bracketId minPlayersPerTeam _ sided found
    · cases found

section

variable (surroundings : Surroundings)
include surroundings

theorem startNormal_kept (template : Template) (call : UpdateCall)
    (minPlayersPerTeam maxPlayersPerTeam : Nat) (sided : site.queue.Sided site.queue.teamOf) :
    site.queue.Kept
      (site.startNormal surroundings template call minPlayersPerTeam maxPlayersPerTeam).queue := by
  unfold startNormal
  split
  · exact sided.kept
  · rename_i queue pools found
    have selected := selectMatch_kept sided found
    split
    · exact selected
    · rw [startBattleground_queue]
      exact selected.trans (invitePools_kept surroundings pools _ selected.sided)

theorem startRated_kept (call : UpdateCall)
    (maxPlayersPerTeam : Nat) (sided : site.queue.Sided site.queue.teamOf) :
    site.queue.Kept (site.startRated surroundings call maxPlayersPerTeam).queue := by
  unfold startRated
  split
  · exact sided.kept
  · split
    · exact sided.kept
    · rename_i arenaRating _ ali horde found
      obtain ⟨different, aliStands, hordeStands⟩ := findOpponents_stand sided.apart found
      split
      · exact sided.kept
      · dsimp only
        rw [startBattleground_queue]
        exact inviteOpponents_kept surroundings _ sided different aliStands hordeStands

theorem startBattlegrounds_kept (call : UpdateCall)
    (sided : site.queue.Sided site.queue.teamOf) :
    site.queue.Kept (site.startBattlegrounds surroundings call).queue := by
  unfold startBattlegrounds
  split
  · exact sided.kept
  · rename_i template _
    split
    · exact sided.kept
    · dsimp only
      generalize (if template.isArena then if surroundings.arenaTesting then 1 else call.arenaType
        else if surroundings.testing then 1 else template.minPlayersPerTeam) = minPlayers
      generalize (if template.isArena then call.arenaType else template.maxPlayersPerTeam)
        = maxPlayers
      have premade : site.queue.Kept
          (if template.isArena then (site, true)
            else site.startPremade surroundings call minPlayers maxPlayers).1.queue := by
        split
        · exact sided.kept
        · exact startPremade_kept surroundings call minPlayers maxPlayers sided
      generalize (if template.isArena then (site, true)
        else site.startPremade surroundings call minPlayers maxPlayers) = started at premade ⊢
      split
      · exact premade
      · split
        · exact premade.trans
            (startNormal_kept surroundings template call minPlayers maxPlayers premade.sided)
        · split
          · exact premade.trans (startRated_kept surroundings call maxPlayers premade.sided)
          · exact premade

theorem update_kept (call : UpdateCall)
    (sided : site.queue.Sided site.queue.teamOf) :
    site.queue.Kept (site.update surroundings call).queue := by
  unfold update
  split
  · exact sided.kept
  · have filled := fillBattlegrounds_kept surroundings call site.freeSlots sided
    exact filled.trans (startBattlegrounds_kept surroundings call filled.sided)

end

end Site

end DarkCore.Battlegrounds.Queues
