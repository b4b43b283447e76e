/-
Runs of a battleground queue with its battlegrounds and players. Whatever joins,
updates, answers and leaves follow each other, the counter of invited players of a
team is the number of those who are invited or inside, and it stays within bounds.
-/

import DarkCore.Battlegrounds.InvitedMoves
import DarkCore.Battlegrounds.InvitedUpdates

namespace DarkCore.Battlegrounds.Queues

open DarkCore.Lib

theorem countWhere_foldl_assign {test : Nat → Bool} {address : Nat}
    (notCounted : test address = false) (members : List Nat) (players : OrdMap Nat Nat)
    (new : ∀ guid ∈ members, OrdMap.weight test (players.find guid) = 0) :
    (members.foldl (fun players guid => players.assign guid address) players).countWhere test =
      players.countWhere test := by
  induction members generalizing players with
  | nil => rfl
  | cons member rest ih =>
    have assigned : (players.assign member address).countWhere test +
        OrdMap.weight test (players.find member) =
          players.countWhere test + OrdMap.weight test (some address) :=
      OrdMap.countWhere_assign test
    have none : OrdMap.weight test (some address) = 0 := by
      rw [OrdMap.weight_some, notCounted]
      rfl
    rw [none, new member List.mem_cons_self, add_zero, add_zero] at assigned
    rw [List.foldl_cons, ih, assigned]
    intro guid later
    rw [OrdMap.find_assign]
    by_cases same : guid = member
    · rw [same, Function.update_self, none]
    · simp_all

namespace BattlegroundQueue

variable {queue : BattlegroundQueue}

theorem Orderly.not_fresh (orderly : queue.Orderly) {join : Join} (joinable : queue.Joinable join)
    {guid group : Nat} (queued : queue.queuedPlayers.find guid = some group) :
    group ≠ join.address := by
  rintro rfl
  obtain ⟨-, place, stands⟩ := orderly.manned.recorded guid _ queued
  exact orderly.manned.fresh joinable.2 place stands

theorem Orderly.pending_addGroup (orderly : queue.Orderly) {join : Join}
    (joinable : queue.Joinable join) {instanceId : Nat} (named : instanceId ≠ 0) (team : Team) :
    (queue.addGroup join).pending instanceId team = queue.pending instanceId team := by
  have notAsked : (queue.addGroup join).asked instanceId team join.address = false := by
    apply decide_eq_false
    rintro ⟨same, -⟩
    rw [info_addGroup, if_pos rfl] at same
    exact named same.symm
  have players : (queue.addGroup join).queuedPlayers = join.members.foldl
      (fun players guid => players.assign guid join.address) queue.queuedPlayers := rfl
  unfold pending
  rw [players, countWhere_foldl_assign notAsked]
  · apply OrdMap.countWhere_congr
    intro guid group queued
    unfold asked teamOf
    rw [info_addGroup, if_neg (orderly.not_fresh joinable queued)]
  · intro guid joins
    rw [joinable.1 guid joins]
    rfl

end BattlegroundQueue

namespace World

variable {world : World} {kind : Kind}

structure Joins (kind : Kind) (world : World) (join : Join) : Prop where
  joinable : world.site.queue.Joinable join
  type : join.bgTypeId = kind.bgTypeId
  arrived : ∀ guid ∈ join.members, world.travelling.find guid = none
  outside : ∀ guid ∈ join.members, ∀ instanceId bg,
    world.site.battlegrounds.find instanceId = some bg → bg.players.find guid = none

theorem Balanced.join (balanced : world.Balanced kind) {join : Join} (joins : world.Joins kind join) :
    (world.next (.join join)).Balanced kind := by
  have invited : ∀ instanceId, instanceId ≠ 0 → ∀ team,
      (world.next (.join join)).invited instanceId team = world.invited instanceId team := by
    intro instanceId named team
    have pending := balanced.orderly.pending_addGroup joins.joinable named team
    exact congrArg (· + _) pending
  apply balanced.of_move
  · exact balanced.orderly.addGroup joins.joinable
  · intro instanceId bg found
    exact Or.inr ⟨found, invited instanceId (balanced.holds instanceId bg found).named⟩
  · intro instanceId named absent team
    rw [invited instanceId named]
    exact balanced.absent instanceId named absent team
  · intro guid group queued
    unfold World.next at queued ⊢
    rw [BattlegroundQueue.find_addGroup] at queued
    rw [BattlegroundQueue.info_addGroup]
    split at queued
    · rename_i isMember
      cases queued
      rw [if_pos rfl]
      exact ⟨joins.type, joins.arrived guid isMember, joins.outside guid isMember⟩
    · rw [if_neg (balanced.orderly.not_fresh joins.joinable queued)]
      exact ⟨balanced.bgTypeId guid group queued, balanced.apart guid group queued,
        balanced.queued_outside queued⟩
  · intro guid place travels
    exact ⟨balanced.named guid place travels, balanced.travelling_outside travels⟩

def empty : World where
  site := Site.start OrdMap.empty []
  travelling := OrdMap.empty

theorem empty_balanced (kind : Kind) : empty.Balanced kind where
  orderly := Site.start_orderly OrdMap.empty []
  holds := by
    intro instanceId bg found
    cases found
  absent := fun _ _ _ _ => rfl
  bgTypeId := by
    intro guid group queued
    cases queued
  apart := by
    intro guid group queued
    cases queued
  named := by
    intro guid place travels
    cases travels

def Admits (kind : Kind) (world : World) : Move → Prop
  | .join join => world.Joins kind join
  | .update surroundings call => Called kind world.site surroundings call
  | _ => True

theorem next_balanced (kind : Kind) (world : World) (move : Move) (balanced : world.Balanced kind)
    (admits : world.Admits kind move) : (world.next move).Balanced kind := by
  cases move with
  | join join => exact balanced.join admits
  | update surroundings call => exact balanced.update admits
  | accept guid bgTypeId mayPort => exact balanced.accept guid bgTypeId mayPort
  | decline guid => exact balanced.removeFromQueue guid
  | expire guid instanceId removeTime => exact balanced.expire guid instanceId removeTime
  | arrive guid => exact balanced.arrive guid
  | leave instanceId guid => exact balanced.leave instanceId guid
  | setStatus instanceId status => exact balanced.setStatus instanceId status
  | delete instanceId => exact balanced.delete instanceId

/-- In every state of every run the counters are right, and within the bounds of the match: for an
arena what its type says, not what its template says. -/
theorem always_counted (kind : Kind) (moves : List Move)
    (admitted : Along next (Admits kind) empty moves) :
    Always next (fun world => world.Counted kind) empty moves := by
  have balanced := always_of_step (next_balanced kind) (empty_balanced kind) admitted
  exact balanced.imp fun _ holds => holds.counted

/-- Two players meet for a battleground of one player each. One goes there and leaves, the other one
lets the invitation expire. -/
theorem always_counted_one_each :
    let template : Template := ⟨false, 1, 1⟩
    let kind : Kind :=
      { bgTypeId := 2, arenaType := 0, template := fun _ => some template
        small := fun _ _ found => by cases found; decide
        arenas := fun _ found isArena => by cases found; cases isArena }
    let join := fun (address leader : Nat) (team : Team) =>
      ({ address := address, leader := leader, team := team, members := [leader]
         led := List.mem_cons_self, bgTypeId := 2, bracketId := 3, arenaType := 0
         isRated := false, isPremade := false, arenaRating := 0, matchmakerRating := 0
         arenaTeamId := 0, now := 5 } : Join)
    let surroundings : Surroundings :=
      { now := 10, invitationType := 0, premadeWait := 1800000, testing := false
        arenaTesting := false, maxRatingDifference := 150, ratingDiscardTimer := 600000
        template := fun _ => some template, hasBracket := true, premadeCreation := ⟨none, 8⟩
        creation := ⟨none, 7⟩, online := fun _ => true }
    let moves : List Move :=
      [.join (join 100 1 .alliance), .join (join 101 2 .horde),
        .update surroundings ⟨2, 3, 0, false, 0⟩, .accept 1 2 true, .arrive 1,
        .expire 2 7 40010, .leave 7 1, .delete 7]
    Always next (fun world => world.Counted kind) empty moves := by
  intro template kind join surroundings moves
  have nobody : ∀ (guid : Nat) (instanceId : Nat) (bg : Battleground),
      (OrdMap.empty : OrdMap Nat Battleground).find instanceId = some bg →
        bg.players.find guid = none := by
    intro guid instanceId bg found
    cases found
  have draws : ∀ choice instanceId, instanceId ≠ 0 →
      ∀ site : Site, site.battlegrounds = OrdMap.empty →
        Sound kind site ⟨choice, instanceId⟩ := by
    intro choice instanceId named site new
    refine ⟨named, ?_, ?_⟩
    · rw [new]
      rfl
    · intro own chosen other known _ isOther
      cases known
      cases isOther
      rfl
  refine always_counted kind moves ⟨⟨⟨by decide, rfl⟩, rfl, by decide, ?_⟩,
    ⟨⟨by decide, rfl⟩, rfl, by decide, ?_⟩, ⟨rfl, rfl, rfl, fun _ _ _ => rfl, ?_, ?_, by decide⟩,
    trivial, trivial, trivial, trivial, trivial, trivial⟩
  · exact fun guid _ => nobody guid
  · exact fun guid _ => nobody guid
  · exact draws none 8 (by decide) _ rfl
  · exact draws none 7 (by decide) _ rfl

/-- A template does not bound what an arena or a random battleground counts: three players a team go
to an arena, and to a random battleground, whose own templates are for two. -/
theorem counted_beyond_template :
    let moves := fun (kind : Kind) (choice : Nat) =>
      let join := fun (address leader : Nat) (team : Team) =>
        ({ address := address, leader := leader, team := team
           members := [leader, leader + 1, leader + 2], led := List.mem_cons_self
           bgTypeId := kind.bgTypeId, bracketId := 3, arenaType := kind.arenaType
           isRated := false, isPremade := false, arenaRating := 0, matchmakerRating := 0
           arenaTeamId := 0, now := 5 } : Join)
      let surroundings : Surroundings :=
        { now := 10, invitationType := 0, premadeWait := 1800000, testing := false
          arenaTesting := false, maxRatingDifference := 150, ratingDiscardTimer := 600000
          template := kind.template, hasBracket := true, premadeCreation := ⟨none, 8⟩
          creation := ⟨some choice, 7⟩, online := fun _ => true }
      [Move.join (join 100 1 .alliance), Move.join (join 101 4 .horde),
        Move.update surroundings ⟨kind.bgTypeId, 3, kind.arenaType, false, 0⟩]
    ∃ arena random : Kind, arena.bgTypeId = battlegroundAA ∧ random.bgTypeId = battlegroundRB ∧
      ∀ run ∈ [(arena, 4), (random, 2)],
        Along next (Admits run.1) empty (moves run.1 run.2) ∧
          ¬Always next
            (fun world => ∀ instanceId bg, world.site.battlegrounds.find instanceId = some bg →
              ∀ team, bg.invitedCount team ≤ bg.maxPlayersPerTeam)
            empty (moves run.1 run.2) := by
  intro moves
  have nobody : ∀ (guid : Nat) (instanceId : Nat) (bg : Battleground),
      (OrdMap.empty : OrdMap Nat Battleground).find instanceId = some bg →
        bg.players.find guid = none := by
    intro guid instanceId bg found
    cases found
  have admitted : ∀ (kind : Kind) choice,
      (∀ own other, kind.template kind.bgTypeId = some own →
        kind.template choice = some other → other.isArena = own.isArena) →
      Along next (Admits kind) empty (moves kind choice) := by
    intro kind choice sort
    refine ⟨⟨⟨fun _ _ => rfl, rfl⟩, rfl, fun _ _ => rfl, fun guid _ => nobody guid⟩,
      ⟨⟨?_, rfl⟩, rfl, fun _ _ => rfl, fun guid _ => nobody guid⟩,
      ⟨rfl, rfl, rfl, fun _ _ _ => rfl, ⟨Nat.succ_ne_zero 7, rfl, ?_⟩, ⟨Nat.succ_ne_zero 6, rfl, ?_⟩,
        (show 7 ≠ 8 by decide)⟩, trivial⟩
    · intro guid inside
      rcases List.mem_cons.mp inside with rfl | inside
      · rfl
      · rcases List.mem_cons.mp inside with rfl | inside
        · rfl
        · rw [List.mem_singleton.mp inside]
          rfl
    · intro own chosen other _ draws
      cases draws
    · intro own chosen other known draws isOther
      cases draws
      exact sort own other known isOther
  have beyond : ∀ (kind : Kind) choice,
      (((moves kind choice).foldl next empty).site.battlegrounds.find 7).any
        (fun bg => decide (bg.maxPlayersPerTeam < bg.invitedCount .alliance)) = true →
      ¬Always next
        (fun world => ∀ instanceId bg, world.site.battlegrounds.find instanceId = some bg →
          ∀ team, bg.invitedCount team ≤ bg.maxPlayersPerTeam)
        empty (moves kind choice) := by
    intro kind choice more always
    obtain ⟨bg, found, above⟩ := (Option.any_eq_true _ _).mp more
    exact absurd (always.last 7 bg found .alliance) (Nat.not_le_of_lt (of_decide_eq_true above))
  refine ⟨{ bgTypeId := 6, arenaType := 3, template := fun _ => some ⟨true, 2, 2⟩
            small := fun _ _ found => by cases found; decide
            arenas := fun _ _ _ => ⟨rfl, by decide, by decide⟩ },
    { bgTypeId := 32, arenaType := 0
      template := fun id => some (if id = 32 then ⟨false, 2, 3⟩ else ⟨false, 1, 2⟩)
      small := fun id _ found => by cases found; split <;> decide
      arenas := fun _ found isArena => by cases found; cases isArena }, rfl, rfl, ?_⟩
  intro run inside
  rcases List.mem_cons.mp inside with rfl | inside
  · exact ⟨admitted _ 4 fun _ _ own other => by cases own; cases other; rfl,
      beyond _ 4 (by decide +kernel)⟩
  · rw [List.mem_singleton.mp inside]
    exact ⟨admitted _ 2 fun _ _ own other => by cases own; cases other; rfl,
      beyond _ 2 (by decide +kernel)⟩

end World

end DarkCore.Battlegrounds.Queues
