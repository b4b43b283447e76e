/-
Invitations to battlegrounds and the counters of `Battleground`. Inviting the
groups of a selection adds their players to the counter of their team, and as many
queued players become invited ones.
-/

import DarkCore.Battlegrounds.QueueRuns
import DarkCore.Battlegrounds.Selections

namespace DarkCore.Battlegrounds.Queues

open DarkCore.Lib

namespace BattlegroundQueue

variable {queue before after : BattlegroundQueue}

def asked (queue : BattlegroundQueue) (instanceId : Nat) (team : Team) (group : Nat) : Bool :=
  (queue.info group).isInvitedToBGInstanceGUID = instanceId ∧ queue.teamOf group = team

def pending (queue : BattlegroundQueue) (instanceId : Nat) (team : Team) : Nat :=
  queue.queuedPlayers.countWhere (queue.asked instanceId team)

theorem Manned.countWhere_group (manned : queue.Manned) {group : Nat} {place : Place}
    (stands : group ∈ queue.queuedGroups place) :
    queue.queuedPlayers.countWhere (fun other => decide (other = group)) = queue.size group := by
  unfold OrdMap.countWhere BattlegroundQueue.size
  rw [List.countP_eq_length_filter, ← List.length_map (f := Prod.fst)]
  apply List.Perm.length_eq
  rw [List.perm_ext_iff_of_nodup]
  · intro guid
    rw [List.mem_map]
    constructor
    · rintro ⟨entry, inside, rfl⟩
      obtain ⟨member, same⟩ := List.mem_filter.mp inside
      have found := OrdMap.find_eq_some.mpr member
      rw [of_decide_eq_true same] at found
      exact (manned.recorded entry.1 group found).1
    · intro inside
      have found := manned.queued group place stands guid inside
      refine ⟨(guid, group), List.mem_filter.mpr ⟨OrdMap.find_eq_some.mp found, ?_⟩, rfl⟩
      exact decide_eq_true rfl
  · exact queue.queuedPlayers.keys_nodup.sublist (List.filter_sublist.map Prod.fst)
  · exact manned.nodup group place stands

theorem pending_congr (queued : after.queuedPlayers = before.queuedPlayers)
    (invited : ∀ group, (after.info group).isInvitedToBGInstanceGUID =
      (before.info group).isInvitedToBGInstanceGUID)
    (team : ∀ group, (before.info group).isInvitedToBGInstanceGUID ≠ 0 →
      after.teamOf group = before.teamOf group) {instanceId : Nat} (some : instanceId ≠ 0)
    (side : Team) : after.pending instanceId side = before.pending instanceId side := by
  unfold pending
  rw [queued]
  apply OrdMap.countWhere_congr
  intro guid group _
  unfold asked
  rw [invited]
  by_cases same : (before.info group).isInvitedToBGInstanceGUID = instanceId
  · rw [team group (same ▸ some)]
  · rw [decide_eq_false (fun both => same both.1), decide_eq_false (fun both => same both.1)]

theorem Manned.pending_setInfo (manned : queue.Manned) {group : Nat} {place : Place}
    (stands : group ∈ queue.queuedGroups place)
    (uninvited : (queue.info group).isInvitedToBGInstanceGUID = 0) (info : GroupQueueInfo)
    {instanceId : Nat} (some : instanceId ≠ 0) (side : Team) :
    (queue.setInfo group info).pending instanceId side =
      queue.pending instanceId side +
        if instanceId = info.isInvitedToBGInstanceGUID ∧ side = info.team then queue.size group
        else 0 := by
  have other : ∀ member, member ≠ group →
      (queue.setInfo group info).asked instanceId side member =
        queue.asked instanceId side member := by
    grind [asked, teamOf, info_setInfo]
  have notAsked : queue.asked instanceId side group = false := by
    apply decide_eq_false
    rintro ⟨same, -⟩
    exact some (same ▸ uninvited)
  unfold pending
  rw [setInfo_queuedPlayers]
  by_cases now : instanceId = info.isInvitedToBGInstanceGUID ∧ side = info.team
  · rw [if_pos now, ← manned.countWhere_group stands, ← OrdMap.countWhere_or]
    · apply OrdMap.countWhere_congr
      intro guid member _
      by_cases same : member = group
      · rw [same, notAsked, Bool.false_or, decide_eq_true rfl]
        apply decide_eq_true
        unfold teamOf
        rw [info_setInfo, if_pos rfl]
        exact ⟨now.1.symm, now.2.symm⟩
      · rw [other member same, decide_eq_false same, Bool.or_false]
    · grind
  · rw [if_neg now, add_zero]
    apply OrdMap.countWhere_congr
    intro guid member _
    by_cases same : member = group
    · rw [same, notAsked]
      apply decide_eq_false
      unfold teamOf
      rw [info_setInfo, if_pos rfl]
      exact fun both => now ⟨both.1.symm, both.2.symm⟩
    · exact other member same

end BattlegroundQueue

theorem Battleground.foldl_increase (bg : Battleground) (team : Team) (players : List Nat)
    (room : bg.invitedCount team + players.length < 2 ^ 32) :
    players.foldl (fun bg _ => bg.increaseInvitedCount team) bg =
      { bg with
        invitedCount :=
          Function.update bg.invitedCount team (bg.invitedCount team + players.length) } := by
  induction players generalizing bg with
  | nil => rw [List.foldl_nil, List.length_nil, add_zero, Function.update_eq_self]
  | cons guid rest ih =>
    rw [List.length_cons] at room
    have first : bg.increaseInvitedCount team =
        { bg with
          invitedCount :=
            Function.update bg.invitedCount team (bg.invitedCount team + 1) } := by
      grind [Battleground.increaseInvitedCount]
    rw [List.foldl_cons, first, ih]
    · grind [Function.update_self, Function.update_idem, List.length_cons, Nat.add_assoc]
    · grind

/-- From a queue and a battleground to those after some invitations; `asked` is how many players of
a team are invited. -/
structure Asks (before after : BattlegroundQueue × Battleground) (asked : Team → Nat) : Prop where
  bg : after.2 =
    { before.2 with invitedCount := fun team => before.2.invitedCount team + asked team }
  pending : ∀ instanceId, instanceId ≠ 0 → ∀ team,
    after.1.pending instanceId team =
      before.1.pending instanceId team + if instanceId = before.2.instanceId then asked team else 0
  bgTypeId : ∀ group, (after.1.info group).bgTypeId = (before.1.info group).bgTypeId

namespace Asks

variable {before middle after : BattlegroundQueue × Battleground} {asked more : Team → Nat}

theorem refl (before : BattlegroundQueue × Battleground) : Asks before before fun _ => 0 where
  bg := rfl
  pending := by
    simp
  bgTypeId := fun _ => rfl

theorem trans (first : Asks before middle asked) (second : Asks middle after more) :
    Asks before after fun team => asked team + more team := by
  have same : middle.2.instanceId = before.2.instanceId := by rw [first.bg]
  constructor
  · rw [second.bg, first.bg]
    dsimp only
    congr 1
    funext team
    exact Nat.add_assoc _ _ _
  · intro instanceId some team
    rw [second.pending instanceId some, first.pending instanceId some, same]
    split
    · exact Nat.add_assoc _ _ _
    · rfl
  · simp [second.bgTypeId, first.bgTypeId]

end Asks

namespace BattlegroundQueue

variable {queue : BattlegroundQueue}

def Online (queue : BattlegroundQueue) (surroundings : Surroundings) : Prop :=
  ∀ guid group, queue.queuedPlayers.find guid = some group → surroundings.online guid = true

theorem inviteGroupToBG_asks {surroundings : Surroundings} {group : Nat} {bg : Battleground}
    {place : Place} (manned : queue.Manned) (online : queue.Online surroundings)
    (stands : group ∈ queue.queuedGroups place) (uninvited : queue.isInvited group = false)
    (side : Option Team)
    (room : bg.invitedCount (side.getD (queue.teamOf group)) + queue.size group < 2 ^ 32) :
    Asks (queue, bg) (queue.inviteGroupToBG surroundings group bg side) fun team =>
      if team = side.getD (queue.teamOf group) then queue.size group else 0 := by
  have none : (queue.info group).isInvitedToBGInstanceGUID = 0 := by
    simp_all [isInvited]
  have all : (queue.info group).players.filter surroundings.online = (queue.info group).players := by
    rw [List.filter_eq_self]
    intro guid inside
    exact online guid group (manned.queued group place stands guid inside)
  unfold inviteGroupToBG
  rw [if_pos none, all]
  have counted := bg.foldl_increase (side.getD (queue.teamOf group)) (queue.info group).players room
  constructor
  · dsimp only
    rw [show (fun (bg : Battleground) (_ : Nat) =>
      bg.increaseInvitedCount (side.getD (queue.info group).team)) = fun bg _ =>
        bg.increaseInvitedCount (side.getD (queue.teamOf group)) from rfl, counted]
    congr 1
    funext team
    by_cases same : team = side.getD (queue.teamOf group)
    · rw [same, Function.update_self, if_pos rfl]
      rfl
    · rw [Function.update_of_ne same, if_neg same, add_zero]
  · intro instanceId some team
    rw [manned.pending_setInfo stands none _ some team]
    by_cases same : instanceId = bg.instanceId
    · rw [if_pos same]
      by_cases own : team = side.getD (queue.teamOf group)
      · rw [if_pos own, if_pos ⟨same, own⟩]
      · rw [if_neg own, if_neg fun both => own both.2]
    · rw [if_neg same, if_neg fun both => same both.1]
  · intro other
    rw [info_setInfo]
    split
    · rename_i same
      rw [same]
    · rfl

theorem Sided.teamOf_eq (sided : queue.Sided queue.teamOf) {group : Nat} {team : Team}
    (stands : ∃ place, group ∈ queue.queuedGroups place ∧ place.2.team = team) :
    queue.teamOf group = team := by
  obtain ⟨place, inside, side⟩ := stands
  rw [← sided.side group place inside, side]

theorem info_inviteGroupToBG (surroundings : Surroundings) {group other : Nat} (bg : Battleground)
    (side : Option Team) (different : other ≠ group) :
    (queue.inviteGroupToBG surroundings group bg side).1.info other = queue.info other := by
  obtain ⟨info, result, -, -⟩ := inviteGroupToBG_queue queue surroundings group bg side
  rw [result, info_setInfo, if_neg different]

theorem inviteGroupToBG_queuedPlayers (queue : BattlegroundQueue) (surroundings : Surroundings)
    (group : Nat) (bg : Battleground) (side : Option Team) :
    (queue.inviteGroupToBG surroundings group bg side).1.queuedPlayers = queue.queuedPlayers := by
  obtain ⟨info, result, -, -⟩ := inviteGroupToBG_queue queue surroundings group bg side
  rw [result, setInfo_queuedPlayers]

theorem inviteGroupToBG_queuedGroups (queue : BattlegroundQueue) (surroundings : Surroundings)
    (group : Nat) (bg : Battleground) (side : Option Team) :
    (queue.inviteGroupToBG surroundings group bg side).1.queuedGroups = queue.queuedGroups := by
  obtain ⟨info, result, -, -⟩ := inviteGroupToBG_queue queue surroundings group bg side
  rw [result, setInfo_queuedGroups]

theorem inviteGroups_asks {surroundings : Surroundings} {groups : List Nat} {bg : Battleground}
    {team : Team} {bound : Nat} (orderly : queue.Orderly) (online : queue.Online surroundings)
    (selected : Selected queue team bound groups)
    (room : bg.invitedCount team + (groups.map queue.size).sum < 2 ^ 32) :
    Asks (queue, bg) (queue.inviteGroups surroundings groups bg)
        (fun side => if side = team then (groups.map queue.size).sum else 0) ∧
      (queue.inviteGroups surroundings groups bg).1.queuedGroups = queue.queuedGroups ∧
      ∀ group ∉ groups, (queue.inviteGroups surroundings groups bg).1.info group =
        queue.info group := by
  induction groups generalizing queue bg bound with
  | nil =>
    refine ⟨?_, rfl, fun _ _ => rfl⟩
    have none := Asks.refl (queue, bg)
    rw [show (fun side => if side = team then (([] : List Nat).map queue.size).sum else 0) =
      fun _ => 0 from funext fun side => ite_self 0]
    exact none
  | cons group rest ih =>
    have stands := selected.stands group List.mem_cons_self
    have own := orderly.sided.teamOf_eq stands
    obtain ⟨place, inside, -⟩ := stands
    obtain ⟨notRest, restNodup⟩ := List.nodup_cons.mp selected.nodup
    rw [List.map_cons, List.sum_cons] at room
    have asks : Asks (queue, bg)
        (queue.inviteGroupToBG surroundings group bg (some (queue.teamOf group)))
        (fun side => if side = team then queue.size group else 0) := by
      have one := inviteGroupToBG_asks orderly.manned online inside
        (selected.uninvited group List.mem_cons_self) (some (queue.teamOf group))
        (show bg.invitedCount (queue.teamOf group) + queue.size group < 2 ^ 32 by
          rw [own]
          omega)
      rw [Option.getD_some, own] at one
      rw [own]
      exact one
    have kept : queue.Kept
        (queue.inviteGroupToBG surroundings group bg (some (queue.teamOf group))).1 :=
      inviteGroups_kept surroundings [group] bg orderly.sided
    have lists := inviteGroupToBG_queuedGroups queue surroundings group bg
      (some (queue.teamOf group))
    have infos : ∀ other, other ≠ group → (queue.inviteGroupToBG surroundings group bg
        (some (queue.teamOf group))).1.info other = queue.info other :=
      fun other different =>
        info_inviteGroupToBG surroundings bg (some (queue.teamOf group)) different
    have players := inviteGroupToBG_queuedPlayers queue surroundings group bg
      (some (queue.teamOf group))
    have result : queue.inviteGroups surroundings (group :: rest) bg =
        (queue.inviteGroupToBG surroundings group bg (some (queue.teamOf group))).1.inviteGroups
          surroundings rest
          (queue.inviteGroupToBG surroundings group bg (some (queue.teamOf group))).2 := rfl
    generalize queue.inviteGroupToBG surroundings group bg (some (queue.teamOf group)) = step
      at asks kept lists infos players result
    have restSelected : Selected queue team bound rest :=
      ⟨restNodup, fun other later => selected.stands other (List.mem_cons_of_mem group later),
        fun other later => selected.uninvited other (List.mem_cons_of_mem group later), by
          have all := selected.bounded
          rw [List.map_cons, List.sum_cons] at all
          omega⟩
    obtain ⟨next, sizes⟩ := restSelected.transfer lists fun other later =>
      infos other fun same => notRest (same ▸ later)
    have nextOnline : step.1.Online surroundings := by
      intro guid other found
      rw [players] at found
      exact online guid other found
    have nextRoom : step.2.invitedCount team + (rest.map step.1.size).sum < 2 ^ 32 := by
      rw [asks.bg, sizes]
      dsimp only
      rw [if_pos rfl]
      omega
    obtain ⟨later, laterLists, laterInfos⟩ :=
      ih (orderly.kept kept) nextOnline next nextRoom
    rw [result]
    refine ⟨?_, laterLists.trans lists, ?_⟩
    · have both := asks.trans later
      rw [show (fun side => if side = team then ((group :: rest).map queue.size).sum else 0) =
        fun side => (if side = team then queue.size group else 0) +
          if side = team then (rest.map step.1.size).sum else 0 by
            funext side
            rw [sizes, List.map_cons, List.sum_cons]
            split
            · rfl
            · rfl]
      exact both
    · simp_all

theorem invitePools_asks {surroundings : Surroundings} {pools : Pools} {bg : Battleground}
    {bound : Team → Nat} (orderly : queue.Orderly) (online : queue.Online surroundings)
    (selected : ∀ team, Selected queue team (bound team) (pools team).selectedGroups)
    (room : ∀ team,
      bg.invitedCount team + ((pools team).selectedGroups.map queue.size).sum < 2 ^ 32) :
    Asks (queue, bg) (queue.invitePools surroundings pools bg) fun team =>
      ((pools team).selectedGroups.map queue.size).sum := by
  obtain ⟨first, lists, infos⟩ :=
    inviteGroups_asks orderly online (selected .alliance) (room .alliance)
  have kept := inviteGroups_kept surroundings (pools .alliance).selectedGroups bg orderly.sided
  have disjoint : ∀ group ∈ (pools .horde).selectedGroups,
      group ∉ (pools .alliance).selectedGroups := by
    intro group inHorde inAlliance
    have horde := orderly.sided.teamOf_eq ((selected .horde).stands group inHorde)
    rw [orderly.sided.teamOf_eq ((selected .alliance).stands group inAlliance)] at horde
    cases horde
  unfold invitePools
  generalize queue.inviteGroups surroundings (pools .alliance).selectedGroups bg = step
    at first lists infos kept
  obtain ⟨next, sizes⟩ := (selected .horde).transfer lists fun group inside =>
    infos group (disjoint group inside)
  have nextOnline : step.1.Online surroundings := by
    intro guid group found
    rw [kept.rearranged.queued] at found
    exact online guid group found
  have nextRoom : step.2.invitedCount .horde +
      ((pools .horde).selectedGroups.map step.1.size).sum < 2 ^ 32 := by
    rw [first.bg, sizes]
    exact room .horde
  obtain ⟨second, -, -⟩ := inviteGroups_asks (orderly.kept kept) nextOnline next nextRoom
  have both := first.trans second
  rw [sizes] at both
  rw [show (fun team => ((pools team).selectedGroups.map queue.size).sum) = fun side =>
    (if side = .alliance then ((pools .alliance).selectedGroups.map queue.size).sum else 0) +
      if side = .horde then ((pools .horde).selectedGroups.map queue.size).sum else 0 by
        funext side
        cases side with
        | alliance => rw [if_pos rfl, if_neg (by decide), add_zero]
        | horde => rw [if_pos rfl, if_neg (by decide), zero_add]]
  exact both

end BattlegroundQueue

end DarkCore.Battlegrounds.Queues
