/-
Joining and leaving a battleground queue, and runs of a queue: whatever joins,
leaves and updates follow each other, every queued player's group stands in one
list of its side, and nobody else stands there.
-/

import DarkCore.Battlegrounds.QueuePlaces

namespace DarkCore.Battlegrounds.Queues

open DarkCore.Lib

namespace BattlegroundQueue

variable {queue : BattlegroundQueue}

/-- What holds between two calls -/
structure Orderly (queue : BattlegroundQueue) : Prop where
  sided : queue.Sided queue.teamOf
  manned : queue.Manned

theorem Orderly.kept {after : BattlegroundQueue} (orderly : queue.Orderly)
    (kept : queue.Kept after) : after.Orderly :=
  ⟨kept.sided, orderly.manned.rearranged kept.rearranged⟩

theorem insertPlayer_perm {players : List Nat} {guid : Nat} (new : guid ∉ players) :
    (insertPlayer players guid).Perm (guid :: players) := by
  unfold insertPlayer
  rw [if_neg new]
  exact List.perm_orderedInsert (· ≤ ·) guid players

theorem mem_insertPlayer {players : List Nat} {guid other : Nat} :
    other ∈ insertPlayer players guid ↔ other = guid ∨ other ∈ players := by
  by_cases present : guid ∈ players
  · simp_all [insertPlayer]
  · rw [(insertPlayer_perm present).mem_iff, List.mem_cons]

theorem insertPlayer_nodup {players : List Nat} (nodup : players.Nodup) (guid : Nat) :
    (insertPlayer players guid).Nodup := by
  by_cases present : guid ∈ players
  · simp_all [insertPlayer]
  · rw [(insertPlayer_perm present).nodup_iff]
    exact List.nodup_cons.mpr ⟨present, nodup⟩

theorem foldl_insertPlayer (members players : List Nat) (nodup : players.Nodup) :
    (members.foldl insertPlayer players).Nodup ∧
      ∀ guid, guid ∈ members.foldl insertPlayer players ↔ guid ∈ members ∨ guid ∈ players := by
  induction members generalizing players with
  | nil => exact ⟨nodup, fun guid => ⟨Or.inr, fun either => either.resolve_left List.not_mem_nil⟩⟩
  | cons member rest ih =>
    obtain ⟨distinct, mem⟩ := ih (insertPlayer players member) (insertPlayer_nodup nodup member)
    refine ⟨distinct, fun guid => ?_⟩
    rw [List.foldl_cons, mem, mem_insertPlayer, List.mem_cons]
    constructor <;> grind

theorem find_foldl_assign (members : List Nat) (address : Nat) (map : OrdMap Nat Nat) (guid : Nat) :
    (members.foldl (fun players guid => players.assign guid address) map).find guid =
      if guid ∈ members then some address else map.find guid := by
  induction members generalizing map with
  | nil => rw [List.foldl_nil, if_neg List.not_mem_nil]
  | cons member rest ih =>
    rw [List.foldl_cons, ih, OrdMap.find_assign]
    by_cases later : guid ∈ rest
    · rw [if_pos later, if_pos (List.mem_cons_of_mem member later)]
    · rw [if_neg later]
      by_cases first : guid = member
      · rw [first, Function.update_self, if_pos List.mem_cons_self]
      · rw [Function.update_of_ne first, if_neg]
        intro inside
        rcases List.mem_cons.mp inside with same | inRest
        · exact first same
        · exact later inRest

def Joinable (queue : BattlegroundQueue) (join : Join) : Prop :=
  (∀ guid ∈ join.members, queue.queuedPlayers.find guid = none) ∧ queue.groups join.address = none

theorem Manned.fresh (manned : queue.Manned) {address : Nat} (free : queue.groups address = none)
    (place : Place) : address ∉ queue.queuedGroups place := by
  intro stands
  apply manned.filled address place stands
  unfold BattlegroundQueue.info
  rw [free]
  rfl

theorem info_addGroup (join : Join) (group : Nat) :
    (queue.addGroup join).info group =
      if group = join.address then join.info else queue.info group :=
  info_setInfo queue join.address group join.info

variable {group : Nat} {place : Place}

theorem mem_addGroup {join : Join} :
    group ∈ (queue.addGroup join).queuedGroups place ↔
      group ∈ queue.queuedGroups place ∨
        (group = join.address ∧ place = (join.bracketId, join.groupType)) := by
  unfold addGroup
  rw [mem_update]
  constructor
  · rintro (⟨here, inside⟩ | ⟨-, inside⟩)
    · rcases List.mem_append.mp inside with old | new
      · exact Or.inl (here ▸ old)
      · exact Or.inr ⟨List.mem_singleton.mp new, here⟩
    · exact Or.inl inside
  · grind

theorem find_addGroup (join : Join) (guid : Nat) :
    (queue.addGroup join).queuedPlayers.find guid =
      if guid ∈ join.members then some join.address else queue.queuedPlayers.find guid :=
  find_foldl_assign join.members join.address queue.queuedPlayers guid

theorem mem_info_players (join : Join) (guid : Nat) :
    guid ∈ join.info.players ↔ guid ∈ join.members := by
  have mem := (foldl_insertPlayer join.members [] List.nodup_nil).2 guid
  rw [show join.info.players = join.members.foldl insertPlayer [] from rfl, mem]
  exact ⟨fun either => either.resolve_right List.not_mem_nil, Or.inl⟩

theorem Orderly.addGroup (orderly : queue.Orderly) {join : Join} (joinable : queue.Joinable join) :
    (queue.addGroup join).Orderly := by
  have fresh := orderly.manned.fresh joinable.2
  have old : ∀ {group place}, group ∈ queue.queuedGroups place → group ≠ join.address :=
    fun stands same => fresh _ (same ▸ stands)
  have team : (queue.addGroup join).teamOf = Function.update queue.teamOf join.address join.team :=
    teamOf_setInfo join.address join.info
  refine ⟨⟨orderly.sided.apart.append fresh, ?_⟩, ⟨?_, ?_, ?_, ?_⟩⟩
  · intro group place stands
    rw [team]
    rcases mem_addGroup.mp stands with stood | ⟨new, here⟩
    · rw [Function.update_of_ne (old stood)]
      exact orderly.sided.side group place stood
    · rw [new, Function.update_self, here]
      unfold Join.groupType
      split <;> rfl
  · intro group place stands
    rw [info_addGroup]
    rcases mem_addGroup.mp stands with stood | ⟨new, -⟩
    · rw [if_neg (old stood)]
      exact orderly.manned.filled group place stood
    · rw [if_pos new]
      exact List.ne_nil_of_mem ((mem_info_players join join.leader).mpr join.led)
  · intro group place stands
    rw [info_addGroup]
    rcases mem_addGroup.mp stands with stood | ⟨new, -⟩
    · rw [if_neg (old stood)]
      exact orderly.manned.nodup group place stood
    · rw [if_pos new]
      exact (foldl_insertPlayer join.members [] List.nodup_nil).1
  · intro group place stands guid inside
    rw [info_addGroup] at inside
    rw [find_addGroup]
    rcases mem_addGroup.mp stands with stood | ⟨new, -⟩
    · rw [if_neg (old stood)] at inside
      have found := orderly.manned.queued group place stood guid inside
      rw [if_neg, found]
      intro joins
      rw [joinable.1 guid joins] at found
      cases found
    · rw [if_pos new] at inside
      rw [if_pos ((mem_info_players join guid).mp inside), new]
  · intro guid group found
    rw [find_addGroup] at found
    rw [info_addGroup]
    split at found
    · rename_i joins
      cases found
      rw [if_pos rfl]
      exact ⟨(mem_info_players join guid).mpr joins, _, mem_addGroup.mpr (Or.inr ⟨rfl, rfl⟩)⟩
    · obtain ⟨inside, place, stood⟩ := orderly.manned.recorded guid group found
      rw [if_neg (old stood)]
      exact ⟨inside, place, mem_addGroup.mpr (Or.inl stood)⟩

theorem findPlace_some {team : Team}
    (found : queue.findPlace group team = some place) : group ∈ queue.queuedGroups place := by
  unfold findPlace at found
  obtain ⟨bracket, -, result⟩ := List.exists_of_findSome?_eq_some found
  split at result
  · simp_all
  · grind

theorem findPlace_eq_none {team : Team} (none : queue.findPlace group team = none)
    (bracket : Fin maxBattlegroundBrackets) :
    group ∉ queue.queuedGroups (bracket, .normal team) ∧
      group ∉ queue.queuedGroups (bracket, .premade team) := by
  unfold findPlace at none
  rw [List.findSome?_eq_none_iff] at none
  have here := none bracket (List.mem_reverse.mpr (List.mem_finRange bracket))
  split at here
  · cases here
  · simp_all

theorem findPlace_of_mem (stands : group ∈ queue.queuedGroups place) :
    ∃ found, queue.findPlace group place.2.team = some found := by
  apply Option.ne_none_iff_exists'.mp
  obtain ⟨bracket, type⟩ := place
  intro none
  cases type with
  | premade team => exact (findPlace_eq_none none bracket).2 stands
  | normal team => exact (findPlace_eq_none none bracket).1 stands

theorem Orderly.removeGroup (orderly : queue.Orderly) {guid : Nat}
    (found : queue.queuedPlayers.find guid = some group)
    (stands : group ∈ queue.queuedGroups place)
    (last : (queue.info group).players.erase guid = []) :
    ((queue.forget guid).deleteGroup group place).Orderly := by
  have mem : ∀ {other there},
      other ∈ ((queue.forget guid).deleteGroup group place).queuedGroups there →
        other ∈ queue.queuedGroups there ∧ other ≠ group := by
    intro other there inside
    obtain ⟨stood, notBoth⟩ := orderly.sided.apart.mem_erase_update.mp inside
    refine ⟨stood, fun same => notBoth ⟨?_, same⟩⟩
    rw [same] at stood
    exact orderly.sided.apart.unique group there place stood stands
  have info : ∀ {other}, other ≠ group →
      ((queue.forget guid).deleteGroup group place).info other = queue.info other := by
    simp_all [BattlegroundQueue.info, deleteGroup, forget]
  have only : ∀ other ∈ (queue.info group).players, other = guid := by
    intro other inside
    by_contra different
    have left := (orderly.manned.nodup group place stands).mem_erase_iff.mpr ⟨different, inside⟩
    rw [last] at left
    exact absurd left List.not_mem_nil
  refine ⟨⟨orderly.sided.apart.sublist List.erase_sublist, ?_⟩, ⟨?_, ?_, ?_, ?_⟩⟩
  · intro other there inside
    obtain ⟨stood, different⟩ := mem inside
    unfold teamOf
    rw [info different]
    exact orderly.sided.side other there stood
  · intro other there inside
    obtain ⟨stood, different⟩ := mem inside
    rw [info different]
    exact orderly.manned.filled other there stood
  · intro other there inside
    obtain ⟨stood, different⟩ := mem inside
    rw [info different]
    exact orderly.manned.nodup other there stood
  · intro other there inside player has
    obtain ⟨stood, different⟩ := mem inside
    rw [info different] at has
    have queued := orderly.manned.queued other there stood player has
    rw [deleteGroup_queuedPlayers, forget_queuedPlayers, OrdMap.find_erase, Function.update_of_ne,
      queued]
    rintro rfl
    rw [found] at queued
    exact different (Option.some.inj queued).symm
  · intro player other queued
    rw [deleteGroup_queuedPlayers, forget_queuedPlayers, OrdMap.find_erase] at queued
    have apartFrom : player ≠ guid := by
      grind
    rw [Function.update_of_ne apartFrom] at queued
    obtain ⟨inside, there, stood⟩ := orderly.manned.recorded player other queued
    have different : other ≠ group := by
      grind
    rw [info different]
    refine ⟨inside, there, orderly.sided.apart.mem_erase_update.mpr ⟨stood, ?_⟩⟩
    exact fun both => different both.2

theorem Orderly.removeMember (orderly : queue.Orderly) {guid : Nat} {info : GroupQueueInfo}
    (found : queue.queuedPlayers.find guid = some group)
    (team : info.team = (queue.info group).team)
    (players : info.players = (queue.info group).players.erase guid) (stay : info.players ≠ []) :
    ((queue.forget guid).setInfo group info).Orderly := by
  obtain ⟨-, place, stands⟩ := orderly.manned.recorded guid group found
  have nodup := orderly.manned.nodup group place stands
  have infos : ∀ other,
      ((queue.forget guid).setInfo group info).info
        other = if other = group then info else queue.info other :=
    fun other => info_setInfo _ group other info
  have teams :
      ((queue.forget guid).setInfo group info).teamOf =
        queue.teamOf := by
    rw [teamOf_setInfo, team]
    exact Function.update_eq_self group queue.teamOf
  refine ⟨⟨orderly.sided.apart, ?_⟩, ⟨?_, ?_, ?_, ?_⟩⟩
  · rw [teams]
    exact orderly.sided.side
  · intro other there stood
    rw [infos]
    split
    · exact stay
    · exact orderly.manned.filled other there stood
  · intro other there stood
    rw [infos]
    split
    · grind
    · exact orderly.manned.nodup other there stood
  · intro other there stood player has
    have before : player ∈ (queue.info other).players ∧ player ≠ guid := by
      rw [infos] at has
      split at has
      · grind
      · rename_i different
        refine ⟨has, ?_⟩
        rintro rfl
        have queued := orderly.manned.queued other there stood player has
        rw [found] at queued
        exact different (Option.some.inj queued).symm
    rw [setInfo_queuedPlayers, forget_queuedPlayers, OrdMap.find_erase,
      Function.update_of_ne before.2]
    exact orderly.manned.queued other there stood player before.1
  · intro player other queued
    rw [setInfo_queuedPlayers, forget_queuedPlayers, OrdMap.find_erase] at queued
    have apartFrom : player ≠ guid := by
      grind
    rw [Function.update_of_ne apartFrom] at queued
    obtain ⟨inside, listed⟩ := orderly.manned.recorded player other queued
    rw [infos]
    refine ⟨?_, listed⟩
    split
    · simp_all
    · exact inside

end BattlegroundQueue

namespace Site

open BattlegroundQueue

variable {site : Site}

@[simp] theorem decreaseInvited_queue (site : Site) (info : GroupQueueInfo) :
    (site.decreaseInvited info).queue = site.queue := by
  unfold decreaseInvited
  split <;> rfl

section

variable (orderly : site.queue.Orderly)
include orderly

/-- What one call of `RemovePlayer` does to the queue. -/
theorem removeOne_cases (guid : Nat) (decreaseInvitedCount : Bool) :
    (site.queue.queuedPlayers.find guid = none ∧
        site.removeOne guid decreaseInvitedCount = (site, none)) ∨
      ∃ group place, site.queue.queuedPlayers.find guid = some group ∧
        group ∈ site.queue.queuedGroups place ∧
        (((site.queue.info group).players.erase guid = [] ∧
            (site.removeOne guid decreaseInvitedCount).1.queue =
              (site.queue.forget guid).deleteGroup group place ∧
            (site.removeOne guid decreaseInvitedCount).2 = none) ∨
          ((site.queue.info group).players.erase guid ≠ [] ∧
            (site.removeOne guid decreaseInvitedCount).1.queue =
              (site.queue.forget guid).setInfo group { site.queue.info group with
                  players := (site.queue.info group).players.erase guid })) := by
  cases found : site.queue.queuedPlayers.find guid with
  | none =>
    simp [removeOne, found]
  | some group =>
    obtain ⟨-, stood, stands⟩ := orderly.manned.recorded guid group found
    have side := orderly.sided.side group stood stands
    obtain ⟨place, there⟩ := findPlace_of_mem stands
    rw [side] at there
    refine Or.inr ⟨group, place, rfl, findPlace_some there, ?_⟩
    have queue : (if decreaseInvitedCount &&
        (site.queue.info group).isInvitedToBGInstanceGUID != 0 then
          site.decreaseInvited (site.queue.info group) else site).queue = site.queue := by
      split
      · exact decreaseInvited_queue site _
      · rfl
    unfold removeOne
    rw [found]
    dsimp only
    rw [show site.queue.findPlace group (site.queue.info group).team = some place from there]
    cases players : (site.queue.info group).players.erase guid with
    | nil =>
      simp_all
    | cons next rest =>
      simp_all

theorem removeOne_orderly (guid : Nat)
    (decreaseInvitedCount : Bool) : (site.removeOne guid decreaseInvitedCount).1.queue.Orderly := by
  rcases removeOne_cases orderly guid decreaseInvitedCount with ⟨-, idle⟩ |
    ⟨group, place, found, stands, ⟨last, result, -⟩ | ⟨stay, result⟩⟩
  · simp_all
  · rw [result]
    exact orderly.removeGroup found stands last
  · rw [result]
    exact orderly.removeMember found rfl rfl stay

theorem removeOne_next {guid next : Nat} {decreaseInvitedCount : Bool} {left : Site}
    (again : site.removeOne guid decreaseInvitedCount = (left, some next)) :
    left.queue.queuedPlayers.entries.length + 1 = site.queue.queuedPlayers.entries.length := by
  rcases removeOne_cases orderly guid decreaseInvitedCount with ⟨-, idle⟩ |
    ⟨group, place, found, -, ⟨-, -, done⟩ | ⟨-, result⟩⟩
  · simp_all
  · simp_all
  · rw [again] at result
    rw [show left.queue = _ from result, setInfo_queuedPlayers, forget_queuedPlayers]
    have erased : (site.queue.queuedPlayers.erase guid).countWhere (fun _ => true) +
        OrdMap.weight (fun _ => true) (site.queue.queuedPlayers.find guid) =
          site.queue.queuedPlayers.countWhere fun _ => true := OrdMap.countWhere_erase _
    rw [found, OrdMap.countWhere_true, OrdMap.countWhere_true] at erased
    exact erased

/-- `RemovePlayer` calls itself as long as there is somebody to call it for. -/
theorem removePlayer_eq (guid : Nat) (decreaseInvitedCount : Bool) :
    site.removePlayer guid decreaseInvitedCount =
      match site.removeOne guid decreaseInvitedCount with
      | (left, none) => left
      | (left, some next) => left.removePlayer next decreaseInvitedCount := by
  unfold removePlayer
  cases entries : site.queue.queuedPlayers.entries with
  | nil =>
    have absent : site.queue.queuedPlayers.find guid = none := by
      simp [OrdMap.find_eq_none, entries]
    have idle : site.removeOne guid decreaseInvitedCount = (site, none) := by
      simp_all [removeOne]
    rw [idle]
    rfl
  | cons entry rest =>
    rw [List.length_cons, removePlayers]
    cases result : site.removeOne guid decreaseInvitedCount with
    | mk left again =>
      cases again with
      | none => rfl
      | some next =>
        have shorter := removeOne_next orderly result
        rw [entries, List.length_cons] at shorter
        rw [← Nat.add_right_cancel shorter]

end

theorem removePlayers_orderly (calls : Nat) (guid : Nat) (decreaseInvitedCount : Bool)
    (orderly : site.queue.Orderly) :
    (removePlayers calls site guid decreaseInvitedCount).queue.Orderly := by
  induction calls generalizing site guid with
  | zero => exact orderly
  | succ calls ih =>
    have step := removeOne_orderly orderly guid decreaseInvitedCount
    unfold removePlayers
    split
    · simp_all
    · rename_i next other result
      rw [result] at step
      exact ih other step

end Site

/-- What happens to a queue; `others` is what happens to the battlegrounds between the calls. -/
inductive Action
  | addGroup (join : Join)
  | removePlayer (guid : Nat) (decreaseInvitedCount : Bool)
  | update (surroundings : Surroundings) (call : UpdateCall)
  | others (battlegrounds : OrdMap Nat Battleground) (freeSlots : List Nat)

namespace Site

open BattlegroundQueue

def next (site : Site) : Action → Site
  | .addGroup join => { site with queue := site.queue.addGroup join }
  | .removePlayer guid decreaseInvitedCount => site.removePlayer guid decreaseInvitedCount
  | .update surroundings call => site.update surroundings call
  | .others battlegrounds freeSlots =>
    { site with battlegrounds := battlegrounds, freeSlots := freeSlots }

def Admits (site : Site) : Action → Prop
  | .addGroup join => site.queue.Joinable join
  | _ => True

/-- `BattlegroundQueue::BattlegroundQueue`, with any battlegrounds -/
def start (battlegrounds : OrdMap Nat Battleground) (freeSlots : List Nat) : Site where
  queue := { queuedPlayers := OrdMap.empty, queuedGroups := fun _ => [], groups := fun _ => none }
  battlegrounds := battlegrounds
  freeSlots := freeSlots

theorem start_orderly (battlegrounds : OrdMap Nat Battleground) (freeSlots : List Nat) :
    (start battlegrounds freeSlots).queue.Orderly := by
  have nowhere : ∀ (group : Nat) (place : Place),
      group ∉ (start battlegrounds freeSlots).queue.queuedGroups place :=
    fun _ _ => List.not_mem_nil
  refine ⟨⟨⟨fun _ => List.nodup_nil, ?_⟩, ?_⟩, ⟨?_, ?_, ?_, ?_⟩⟩
  · exact fun group place _ stands => absurd stands (nowhere group place)
  · exact fun group place stands => absurd stands (nowhere group place)
  · exact fun group place stands => absurd stands (nowhere group place)
  · exact fun group place stands => absurd stands (nowhere group place)
  · exact fun group place stands => absurd stands (nowhere group place)
  · intro guid group found
    cases found

theorem next_orderly (site : Site) (action : Action) (orderly : site.queue.Orderly)
    (admits : site.Admits action) : (site.next action).queue.Orderly := by
  cases action with
  | addGroup join => exact orderly.addGroup admits
  | removePlayer guid decreaseInvitedCount =>
    exact removePlayers_orderly _ guid decreaseInvitedCount orderly
  | update surroundings call => exact orderly.kept (update_kept surroundings call orderly.sided)
  | others battlegrounds freeSlots => exact orderly

/-- In every state of every run each queued player's group stands once in one list of its side, and
each group in a list has players, all of them queued with it. -/
theorem always_placed (battlegrounds : OrdMap Nat Battleground) (freeSlots : List Nat)
    (actions : List Action) (admitted : Along next Admits (start battlegrounds freeSlots) actions) :
    Always next (fun site => site.queue.Regular) (start battlegrounds freeSlots) actions := by
  have orderly := always_of_step next_orderly (start_orderly battlegrounds freeSlots) admitted
  exact orderly.imp fun _ holds => holds.sided.regular holds.manned

/-- Two groups of the alliance join a skirmish and are matched, one of them for the horde; then one
of their players leaves. -/
theorem always_placed_skirmish :
    let join := fun address leader : Nat =>
      ({ address := address, leader := leader, team := .alliance, members := [leader, leader + 1]
         led := List.mem_cons_self, bgTypeId := battlegroundAA, bracketId := 3, arenaType := 2
         isRated := false, isPremade := false, arenaRating := 0, matchmakerRating := 0
         arenaTeamId := 0, now := 5 } : Join)
    let surroundings : Surroundings :=
      { now := 10, invitationType := 1, premadeWait := 1800000, testing := false
        arenaTesting := false, maxRatingDifference := 150, ratingDiscardTimer := 600000
        template := fun _ => some ⟨true, 0, 2⟩, hasBracket := true, premadeCreation := ⟨none, 0⟩
        creation := ⟨some 4, 7⟩, online := fun _ => true }
    let actions : List Action :=
      [.addGroup (join 100 1), .addGroup (join 101 3),
        .update surroundings ⟨battlegroundAA, 3, 2, false, 0⟩, .removePlayer 3 true]
    Always next (fun site => site.queue.Regular) (start OrdMap.empty []) actions :=
  always_placed OrdMap.empty [] _ ⟨⟨by decide, rfl⟩, ⟨by decide, rfl⟩, trivial, trivial, trivial⟩

end Site

end DarkCore.Battlegrounds.Queues
