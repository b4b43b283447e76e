/-
A battleground queue with its battlegrounds and players: joins, updates, answers
to invitations, arrivals and leaves. What is to hold is that a battleground's
counter of invited players is the number of those who are invited to it or inside.
-/

import DarkCore.Battlegrounds.InvitedCounts

namespace DarkCore.Battlegrounds.Queues

open DarkCore.Lib

namespace Battleground

variable (bg : Battleground)

def addPlayer (guid : Nat) (team : Team) : Battleground :=
  { bg with
    players := bg.players.assign guid team
    playersCount := Function.update bg.playersCount team ((bg.playersCount team + 1) % 2 ^ 32) }

/-- What `Battleground::RemovePlayerAtLeave` does to the counters and the list of players -/
def removePlayer (guid : Nat) (team : Team) : Battleground :=
  ({ bg with
      players := bg.players.erase guid
      playersCount :=
        Function.update bg.playersCount team ((bg.playersCount team + (2 ^ 32 - 1)) % 2 ^ 32) } :
    Battleground).decreaseInvitedCount team

end Battleground

structure World where
  site : Site
  travelling : OrdMap Nat (Nat × Team)

inductive Move
  | join (join : Join)
  | update (surroundings : Surroundings) (call : UpdateCall)
  /-- `HandleBattleFieldPortOpcode` with the answer to go; `mayPort` is for its other checks. -/
  | accept (guid bgTypeId : Nat) (mayPort : Bool)
  /-- The same with the answer to leave the queue, or a logout -/
  | decline (guid : Nat)
  /-- `BGQueueRemoveEvent::Execute` -/
  | expire (guid instanceId removeTime : Nat)
  | arrive (guid : Nat)
  | leave (instanceId guid : Nat)
  | setStatus (instanceId : Nat) (status : Status)
  /-- The manager deletes a battleground where nobody is and nobody is invited. -/
  | delete (instanceId : Nat)

namespace World

variable (world : World)

/-- `RemovePlayer` -/
def removeFromQueue (guid : Nat) (decreaseInvitedCount : Bool) : World :=
  { world with site := world.site.removePlayer guid decreaseInvitedCount }

def accept (guid bgTypeId : Nat) (mayPort : Bool) : World :=
  match world.site.queue.queuedPlayers.find guid with
  | none => world
  | some group =>
    let info := world.site.queue.info group
    match world.site.getBattleground info.isInvitedToBGInstanceGUID bgTypeId with
    | none => world
    | some bg =>
      if mayPort then
        { world.removeFromQueue guid false with
          travelling := world.travelling.assign guid (bg.instanceId, info.team) }
      else world

def expire (guid instanceId removeTime : Nat) : World :=
  match world.site.queue.queuedPlayers.find guid with
  | none => world
  | some group =>
    let info := world.site.queue.info group
    if info.isInvitedToBGInstanceGUID = instanceId ∧ info.removeInviteTime = removeTime then
      world.removeFromQueue guid true
    else world

def setBattleground (instanceId : Nat) (bg : Battleground) : World :=
  { world with
    site :=
      { world.site with battlegrounds := world.site.battlegrounds.assign instanceId bg } }

def arrive (guid : Nat) : World :=
  match world.travelling.find guid with
  | none => world
  | some (instanceId, team) =>
    let world := { world with travelling := world.travelling.erase guid }
    match world.site.battlegrounds.find instanceId with
    | none => world
    | some bg => world.setBattleground instanceId (bg.addPlayer guid team)

/-- `Battleground::RemovePlayerAtLeave` -/
def leave (instanceId guid : Nat) : World :=
  match world.site.battlegrounds.find instanceId with
  | none => world
  | some bg =>
    match bg.players.find guid with
    | none => world
    | some team =>
      if !bg.isArena && bg.status != .waitLeave then
        { world with site := world.site.addBattleground (bg.removePlayer guid team) }
      else world.setBattleground instanceId (bg.removePlayer guid team)

def setStatus (instanceId : Nat) (status : Status) : World :=
  match world.site.battlegrounds.find instanceId with
  | none => world
  | some bg => world.setBattleground instanceId { bg with status := status }

def delete (instanceId : Nat) : World :=
  match world.site.battlegrounds.find instanceId with
  | none => world
  | some bg =>
    if bg.players.entries = [] ∧ bg.invitedCount .alliance = 0 ∧ bg.invitedCount .horde = 0 then
      { world with
        site :=
          { world.site with
            battlegrounds := world.site.battlegrounds.erase instanceId
            freeSlots := world.site.freeSlots.erase instanceId } }
    else world

def next (world : World) : Move → World
  | .join join => { world with site := { world.site with queue := world.site.queue.addGroup join } }
  | .update surroundings call => { world with site := world.site.update surroundings call }
  | .accept guid bgTypeId mayPort => world.accept guid bgTypeId mayPort
  | .decline guid => world.removeFromQueue guid true
  | .expire guid instanceId removeTime => world.expire guid instanceId removeTime
  | .arrive guid => world.arrive guid
  | .leave instanceId guid => world.leave instanceId guid
  | .setStatus instanceId status => world.setStatus instanceId status
  | .delete instanceId => world.delete instanceId

end World

structure Kind where
  bgTypeId : Nat
  arenaType : Nat
  template : Nat → Option Template
  small : ∀ id template', template id = some template' → template'.maxPlayersPerTeam < 2 ^ 32
  arenas : ∀ template', template bgTypeId = some template' → template'.isArena = true →
    bgTypeId = battlegroundAA ∧ 0 < arenaType ∧ arenaType < 2 ^ 32

/-- How many players of a team a battleground may have: as many as the arena type says, or as its
own template says; a random one may get as many as the template of random battlegrounds says. -/
def Kind.limit (kind : Kind) (bg : Battleground) : Nat :=
  if bg.isArena then bg.arenaType
  else if bg.typeId = battlegroundRB then
    max bg.maxPlayersPerTeam
      ((kind.template battlegroundRB).elim 0 Template.maxPlayersPerTeam)
  else bg.maxPlayersPerTeam

namespace World

variable (world : World)

def invited (instanceId : Nat) (team : Team) : Nat :=
  world.site.queue.pending instanceId team +
    world.travelling.countWhere fun place => decide (place = (instanceId, team))

def present (instanceId : Nat) (bg : Battleground) (team : Team) : Nat :=
  world.invited instanceId team + bg.players.countWhere fun other => decide (other = team)

/-- The counters are right, within their bounds, and above zero wherever they may be decreased: for
who is queued with an invitation and for who is inside. -/
structure Counted (kind : Kind) : Prop where
  count : ∀ instanceId bg, world.site.battlegrounds.find instanceId = some bg →
    ∀ team, bg.invitedCount team = world.present instanceId bg team
  bounded : ∀ instanceId bg, world.site.battlegrounds.find instanceId = some bg →
    ∀ team, bg.invitedCount team ≤ kind.limit bg
  queued : ∀ guid group, world.site.queue.queuedPlayers.find guid = some group →
    (world.site.queue.info group).isInvitedToBGInstanceGUID ≠ 0 →
      ∃ bg, world.site.battlegroundOf (world.site.queue.info group) = some bg ∧
        0 < bg.invitedCount (world.site.queue.teamOf group)
  inside : ∀ instanceId bg guid team, world.site.battlegrounds.find instanceId = some bg →
    bg.players.find guid = some team → 0 < bg.invitedCount team

structure Holds (kind : Kind) (instanceId : Nat) (bg : Battleground) : Prop where
  key : bg.instanceId = instanceId
  named : instanceId ≠ 0
  typed : kind.bgTypeId = battlegroundAA ∨ bg.typeId = kind.bgTypeId
  small : kind.limit bg < 2 ^ 32
  count : ∀ team, bg.invitedCount team = world.present instanceId bg team
  bounded : ∀ team, bg.invitedCount team ≤ kind.limit bg
  apartQueued : ∀ guid group, world.site.queue.queuedPlayers.find guid = some group →
    bg.players.find guid = none
  apartTravelling : ∀ guid place, world.travelling.find guid = some place →
    bg.players.find guid = none

/-- What holds between two moves: the counters are right, whoever is invited is invited to a
battleground that exists, and nobody is queued, travelling and inside at once. -/
structure Balanced (kind : Kind) : Prop where
  orderly : world.site.queue.Orderly
  holds : ∀ instanceId bg, world.site.battlegrounds.find instanceId = some bg →
    world.Holds kind instanceId bg
  absent : ∀ instanceId, instanceId ≠ 0 → world.site.battlegrounds.find instanceId = none →
    ∀ team, world.invited instanceId team = 0
  bgTypeId : ∀ guid group, world.site.queue.queuedPlayers.find guid = some group →
    (world.site.queue.info group).bgTypeId = kind.bgTypeId
  apart : ∀ guid group, world.site.queue.queuedPlayers.find guid = some group →
    world.travelling.find guid = none
  named : ∀ guid place, world.travelling.find guid = some place → place.1 ≠ 0

end World

namespace World

variable {world after : World} {kind : Kind}

section

variable (balanced : world.Balanced kind)
include balanced

/-- Who is queued with an invitation is counted by a battleground that `RemovePlayer` finds. -/
theorem Balanced.battlegroundOf {guid group : Nat}
    (queued : world.site.queue.queuedPlayers.find guid = some group)
    (isInvited : (world.site.queue.info group).isInvitedToBGInstanceGUID ≠ 0) :
    ∃ bg, world.site.battlegrounds.find
        (world.site.queue.info group).isInvitedToBGInstanceGUID = some bg ∧
      world.site.battlegroundOf (world.site.queue.info group) = some bg ∧
        0 < bg.invitedCount (world.site.queue.teamOf group) := by
  have one : 0 < world.site.queue.pending (world.site.queue.info group).isInvitedToBGInstanceGUID
      (world.site.queue.teamOf group) :=
    OrdMap.countWhere_pos queued (decide_eq_true ⟨rfl, rfl⟩)
  have invited : 0 < world.invited (world.site.queue.info group).isInvitedToBGInstanceGUID
      (world.site.queue.teamOf group) := Nat.lt_of_lt_of_le one (Nat.le_add_right _ _)
  cases found : world.site.battlegrounds.find
      (world.site.queue.info group).isInvitedToBGInstanceGUID with
  | none =>
    rw [balanced.absent _ isInvited found] at invited
    exact absurd invited (Nat.lt_irrefl 0)
  | some bg =>
    have holds := balanced.holds _ bg found
    refine ⟨bg, rfl, ?_, ?_⟩
    · unfold Site.battlegroundOf Site.getBattleground
      rw [if_neg isInvited, found, balanced.bgTypeId guid group queued]
      apply Option.filter_eq_some_iff.mpr
      refine ⟨rfl, ?_⟩
      rcases holds.typed with all | same
      · simp_all
      · grind
    · rw [holds.count]
      exact Nat.lt_of_lt_of_le invited (Nat.le_add_right _ _)

theorem Balanced.inside_pos {instanceId guid : Nat}
    {bg : Battleground} {team : Team}
    (found : world.site.battlegrounds.find instanceId = some bg)
    (isInside : bg.players.find guid = some team) : 0 < bg.invitedCount team := by
  rw [(balanced.holds instanceId bg found).count]
  have one : 0 < bg.players.countWhere fun other => decide (other = team) :=
    OrdMap.countWhere_pos isInside (decide_eq_true rfl)
  exact Nat.lt_of_lt_of_le one (Nat.le_add_left _ _)

theorem Balanced.counted : world.Counted kind := by
  refine ⟨?_, ?_, ?_, ?_⟩
  · exact fun instanceId bg found => (balanced.holds instanceId bg found).count
  · exact fun instanceId bg found => (balanced.holds instanceId bg found).bounded
  · intro guid group queued isInvited
    obtain ⟨bg, -, found, positive⟩ := balanced.battlegroundOf queued isInvited
    exact ⟨bg, found, positive⟩
  · exact fun instanceId bg guid team found isInside => balanced.inside_pos found isInside

theorem Balanced.of_move (orderly : after.site.queue.Orderly)
    (holds : ∀ instanceId bg, after.site.battlegrounds.find instanceId = some bg →
      after.Holds kind instanceId bg ∨ world.site.battlegrounds.find instanceId = some bg ∧
          ∀ team, after.invited instanceId team = world.invited instanceId team)
    (absent : ∀ instanceId, instanceId ≠ 0 → after.site.battlegrounds.find instanceId = none →
      ∀ team, after.invited instanceId team = 0)
    (queued : ∀ guid group, after.site.queue.queuedPlayers.find guid = some group →
      (after.site.queue.info group).bgTypeId = kind.bgTypeId ∧ after.travelling.find guid = none ∧
          ∀ instanceId bg, world.site.battlegrounds.find instanceId = some bg →
            bg.players.find guid = none)
    (travelling : ∀ guid place, after.travelling.find guid = some place → place.1 ≠ 0 ∧
        ∀ instanceId bg, world.site.battlegrounds.find instanceId = some bg →
          bg.players.find guid = none) : after.Balanced kind where
  orderly := orderly
  holds := by
    intro instanceId bg found
    rcases holds instanceId bg found with now | ⟨before, invited⟩
    · exact now
    · have old := balanced.holds instanceId bg before
      refine ⟨old.key, old.named, old.typed, old.small, ?_, old.bounded, ?_, ?_⟩
      · simp [present, old.count, invited]
      · exact fun guid group isQueued => (queued guid group isQueued).2.2 instanceId bg before
      · exact fun guid place travels => (travelling guid place travels).2 instanceId bg before
  absent := absent
  bgTypeId := fun guid group isQueued => (queued guid group isQueued).1
  apart := fun guid group isQueued => (queued guid group isQueued).2.1
  named := fun guid place travels => (travelling guid place travels).1

theorem Balanced.queued_outside {guid group : Nat}
    (queued : world.site.queue.queuedPlayers.find guid = some group) (instanceId : Nat)
    (bg : Battleground) (found : world.site.battlegrounds.find instanceId = some bg) :
    bg.players.find guid = none :=
  (balanced.holds instanceId bg found).apartQueued guid group queued

theorem Balanced.travelling_outside {guid : Nat}
    {place : Nat × Team} (travels : world.travelling.find guid = some place) (instanceId : Nat)
    (bg : Battleground) (found : world.site.battlegrounds.find instanceId = some bg) :
    bg.players.find guid = none :=
  (balanced.holds instanceId bg found).apartTravelling guid place travels

theorem Balanced.put (instanceId : Nat) (bg : Battleground)
    (orderly : after.site.queue.Orderly)
    (find : after.site.battlegrounds.find =
      Function.update world.site.battlegrounds.find instanceId (some bg))
    (holds : after.Holds kind instanceId bg)
    (invited : ∀ other, other ≠ instanceId → other ≠ 0 → ∀ team,
      after.invited other team = world.invited other team)
    (queued : ∀ guid group, after.site.queue.queuedPlayers.find guid = some group →
      world.site.queue.queuedPlayers.find guid = some group ∧
        (after.site.queue.info group).bgTypeId = (world.site.queue.info group).bgTypeId ∧
          after.travelling.find guid = none)
    (travelling : ∀ guid place, after.travelling.find guid = some place →
      world.travelling.find guid = some place ∨
        place.1 ≠ 0 ∧ ∃ group, world.site.queue.queuedPlayers.find guid = some group) :
    after.Balanced kind := by
  apply balanced.of_move orderly
  · intro other found bgFound
    by_cases same : other = instanceId
    · simp_all
    · rw [find, Function.update_of_ne same] at bgFound
      have named := (balanced.holds other found bgFound).named
      exact Or.inr ⟨bgFound, invited other same named⟩
  · intro other named isNone team
    have different : other ≠ instanceId := by
      rintro rfl
      rw [find, Function.update_self] at isNone
      cases isNone
    rw [find, Function.update_of_ne different] at isNone
    rw [invited other different named]
    exact balanced.absent other named isNone team
  · intro guid group isQueued
    obtain ⟨before, same, apart⟩ := queued guid group isQueued
    refine ⟨?_, apart, balanced.queued_outside before⟩
    rw [same]
    exact balanced.bgTypeId guid group before
  · intro guid place travels
    rcases travelling guid place travels with before | ⟨named, group, before⟩
    · exact ⟨balanced.named guid place before, balanced.travelling_outside before⟩
    · exact ⟨named, balanced.queued_outside before⟩

theorem Balanced.keep (orderly : after.site.queue.Orderly)
    (find : after.site.battlegrounds.find = world.site.battlegrounds.find)
    (invited : ∀ other, other ≠ 0 → ∀ team, after.invited other team = world.invited other team)
    (queued : ∀ guid group, after.site.queue.queuedPlayers.find guid = some group →
      world.site.queue.queuedPlayers.find guid = some group ∧
        (after.site.queue.info group).bgTypeId = (world.site.queue.info group).bgTypeId)
    (travelling : after.travelling = world.travelling) : after.Balanced kind := by
  apply balanced.of_move orderly
  · intro instanceId bg found
    rw [find] at found
    exact Or.inr ⟨found, invited instanceId (balanced.holds instanceId bg found).named⟩
  · intro instanceId named isNone team
    rw [find] at isNone
    rw [invited instanceId named]
    exact balanced.absent instanceId named isNone team
  · intro guid group isQueued
    obtain ⟨before, same⟩ := queued guid group isQueued
    rw [same, travelling]
    exact ⟨balanced.bgTypeId guid group before, balanced.apart guid group before,
      balanced.queued_outside before⟩
  · intro guid place travels
    rw [travelling] at travels
    exact ⟨balanced.named guid place travels, balanced.travelling_outside travels⟩

end

end World

end DarkCore.Battlegrounds.Queues
