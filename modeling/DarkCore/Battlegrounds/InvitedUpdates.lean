/-
An update of a battleground queue and the counters of its battlegrounds: whoever
is invited is counted, and no selection is larger than what the battleground may
still take.
-/

import DarkCore.Battlegrounds.InvitedWorld

namespace DarkCore.Battlegrounds.Queues

open DarkCore.Lib

/-! ### Changes of the queue without an invitation -/

/-- Groups are moved and rewritten, but whoever is invited stays invited where he was. -/
structure Uninviting (before after : BattlegroundQueue) : Prop where
  queued : after.queuedPlayers = before.queuedPlayers
  invited : ∀ group, (after.info group).isInvitedToBGInstanceGUID =
    (before.info group).isInvitedToBGInstanceGUID
  bgTypeId : ∀ group, (after.info group).bgTypeId = (before.info group).bgTypeId
  team : ∀ group, (before.info group).isInvitedToBGInstanceGUID ≠ 0 →
    after.teamOf group = before.teamOf group

namespace Uninviting

variable {before middle after : BattlegroundQueue}

theorem refl (queue : BattlegroundQueue) : Uninviting queue queue :=
  ⟨rfl, fun _ => rfl, fun _ => rfl, fun _ _ => rfl⟩

theorem trans (first : Uninviting before middle) (second : Uninviting middle after) :
    Uninviting before after where
  queued := second.queued.trans first.queued
  invited := fun group => (second.invited group).trans (first.invited group)
  bgTypeId := fun group => (second.bgTypeId group).trans (first.bgTypeId group)
  team := by
    intro group isInvited
    rw [second.team group ((first.invited group).symm ▸ isInvited)]
    exact first.team group isInvited

section

variable (same : Uninviting before after)
include same

theorem pending {instanceId : Nat} (named : instanceId ≠ 0)
    (team : Team) : after.pending instanceId team = before.pending instanceId team :=
  BattlegroundQueue.pending_congr same.queued same.invited same.team named team

theorem online {surroundings : Surroundings}
    (online : before.Online surroundings) : after.Online surroundings := by
  intro guid group queued
  rw [same.queued] at queued
  exact online guid group queued

theorem asks (bg : Battleground) :
    Asks (before, bg) (after, bg) fun _ => 0 where
  bg := rfl
  pending := by
    intro instanceId named team
    rw [ite_self, add_zero]
    exact same.pending named team
  bgTypeId := same.bgTypeId

end

end Uninviting

namespace BattlegroundQueue

variable {queue : BattlegroundQueue}

theorem move_uninviting (queue : BattlegroundQueue) (group : Nat) (source target : Place) :
    Uninviting queue (queue.move group source target) :=
  ⟨rfl, fun _ => rfl, fun _ => rfl, fun _ _ => rfl⟩

theorem movePremade_uninviting (queue : BattlegroundQueue) (surroundings : Surroundings)
    (bracket : Fin maxBattlegroundBrackets) (minPlayersPerTeam : Nat) (team : Team) :
    Uninviting queue (queue.movePremade surroundings bracket minPlayersPerTeam team) := by
  unfold movePremade
  dsimp only
  split
  · exact Uninviting.refl queue
  · split
    · exact move_uninviting queue _ _ _
    · exact Uninviting.refl queue

theorem checkPremadeMatch_uninviting (queue : BattlegroundQueue) (surroundings : Surroundings)
    (bracket : Fin maxBattlegroundBrackets) (minPlayersPerTeam maxPlayersPerTeam : Nat) :
    Uninviting queue
      (queue.checkPremadeMatch surroundings bracket minPlayersPerTeam maxPlayersPerTeam).1 := by
  unfold checkPremadeMatch
  dsimp only
  split
  · exact Uninviting.refl queue
  · exact (movePremade_uninviting queue surroundings bracket minPlayersPerTeam .alliance).trans
      (movePremade_uninviting _ surroundings bracket minPlayersPerTeam .horde)

theorem changeSide_queuedPlayers (queue : BattlegroundQueue)
    (bracket : Fin maxBattlegroundBrackets) (team : Team) (groups : List Nat) :
    (queue.changeSide bracket team groups).queuedPlayers = queue.queuedPlayers := by
  unfold changeSide
  induction groups generalizing queue with
  | nil => rfl
  | cons group rest ih =>
    rw [List.foldl_cons, ih]
    rfl

theorem changeSide_uninviting (queue : BattlegroundQueue) (bracket : Fin maxBattlegroundBrackets)
    (team : Team) {groups : List Nat}
    (uninvited : ∀ group ∈ groups, queue.isInvited group = false) :
    Uninviting queue (queue.changeSide bracket team groups) := by
  have info := changeSide_info queue bracket team groups
  refine ⟨changeSide_queuedPlayers queue bracket team groups, ?_, ?_, ?_⟩
  · intro group
    obtain ⟨side, result, -⟩ := info group
    rw [result]
  · intro group
    obtain ⟨side, result, -⟩ := info group
    rw [result]
  · intro group isInvited
    obtain ⟨side, result, other⟩ := info group
    have notIn : group ∉ groups := by
      intro inside
      have none := uninvited group inside
      unfold BattlegroundQueue.isInvited at none
      exact isInvited (by simpa using none)
    unfold teamOf
    rw [result]
    exact other notIn

theorem setOpponent_uninviting (queue : BattlegroundQueue) (group opponent : Nat) :
    Uninviting queue (queue.setOpponent group opponent) := by
  have info : ∀ other, (queue.setOpponent group opponent).info other =
      if other = group then
        { queue.info group with
          opponentsTeamRating := (queue.info opponent).arenaTeamRating
          opponentsMatchmakerRating := (queue.info opponent).arenaMatchmakerRating }
      else queue.info other := fun other => info_setInfo queue group other _
  refine ⟨rfl, ?_, ?_, ?_⟩
  · grind
  · grind
  · intro other _
    exact congrFun (teamOf_setOpponent group opponent) other

theorem swapFaction_uninviting (queue : BattlegroundQueue) (bracket : Fin maxBattlegroundBrackets)
    (group : Nat) (team : Team) : Uninviting queue (queue.swapFaction bracket group team) := by
  unfold swapFaction
  split
  · exact Uninviting.refl queue
  · exact move_uninviting queue _ _ _

theorem inviteOpponents_asks {surroundings : Surroundings}
    {bracket : Fin maxBattlegroundBrackets} {ali horde : Nat} (arena : Battleground)
    (orderly : queue.Orderly) (online : queue.Online surroundings) (different : ali ≠ horde)
    (aliStands : ∃ team, ali ∈ queue.queuedGroups (bracket, .premade team))
    (hordeStands : ∃ team, horde ∈ queue.queuedGroups (bracket, .premade team))
    (aliUninvited : queue.isInvited ali = false) (hordeUninvited : queue.isInvited horde = false)
    (room : arena.invitedCount .alliance + queue.size ali < 2 ^ 32 ∧
      arena.invitedCount .horde + queue.size horde < 2 ^ 32) :
    let named := (queue.setOpponent ali horde).setOpponent horde ali
    let swapped := (named.swapFaction bracket ali .alliance).swapFaction bracket horde .horde
    let invited := swapped.inviteGroupToBG surroundings ali arena (some .alliance)
    Asks (queue, arena) (invited.1.inviteGroupToBG surroundings horde invited.2 (some .horde))
      fun team => (if team = .alliance then queue.size ali else 0) +
        if team = .horde then queue.size horde else 0 := by
  intro named swapped invited
  obtain ⟨rearranged, -, -⟩ := swapOpponents_sided orderly.sided different aliStands hordeStands
  have same : Uninviting queue swapped :=
    ((setOpponent_uninviting queue ali horde).trans (setOpponent_uninviting _ horde ali)).trans
      ((swapFaction_uninviting named bracket ali .alliance).trans
        (swapFaction_uninviting _ bracket horde .horde))
  have manned : swapped.Manned := orderly.manned.rearranged rearranged
  have size : ∀ group, swapped.size group = queue.size group := by
    grind [BattlegroundQueue.size, rearranged.players]
  have uninvited : ∀ group, swapped.isInvited group = queue.isInvited group := by
    simp [BattlegroundQueue.isInvited, same.invited]
  obtain ⟨aliPlace, aliThere⟩ := (rearranged.listed ali).mpr ⟨_, aliStands.choose_spec⟩
  obtain ⟨hordePlace, hordeThere⟩ := (rearranged.listed horde).mpr ⟨_, hordeStands.choose_spec⟩
  have first : Asks (swapped, arena) invited fun team =>
      if team = .alliance then swapped.size ali else 0 :=
    inviteGroupToBG_asks manned (same.online online) aliThere
      ((uninvited ali).trans aliUninvited) (some .alliance) (by
        rw [size]
        exact room.1)
  have untouched : invited.1.info horde = swapped.info horde :=
    info_inviteGroupToBG surroundings arena (some .alliance) different.symm
  have hordeSize : invited.1.size horde = queue.size horde := by
    simp_all [BattlegroundQueue.size]
  have invitedOnline : invited.1.Online surroundings := by
    intro guid group queued
    rw [show invited.1.queuedPlayers = swapped.queuedPlayers from
      inviteGroupToBG_queuedPlayers swapped surroundings ali arena (some .alliance)] at queued
    exact same.online online guid group queued
  have invitedManned : invited.1.Manned :=
    manned.rearranged (inviteGroupToBG_rearranged surroundings ali arena (some .alliance))
  have stillThere : horde ∈ invited.1.queuedGroups hordePlace := by
    rw [show invited.1.queuedGroups = swapped.queuedGroups from
      inviteGroupToBG_queuedGroups swapped surroundings ali arena (some .alliance)]
    exact hordeThere
  have stillUninvited : invited.1.isInvited horde = false := by
    have none := (uninvited horde).trans hordeUninvited
    unfold BattlegroundQueue.isInvited at none ⊢
    rw [untouched]
    exact none
  have hordeRoom : invited.2.invitedCount .horde + invited.1.size horde < 2 ^ 32 := by
    rw [hordeSize, first.bg]
    dsimp only
    rw [if_neg (by decide), add_zero]
    exact room.2
  have second : Asks invited
      (invited.1.inviteGroupToBG surroundings horde invited.2 (some .horde)) fun team =>
        if team = .horde then invited.1.size horde else 0 :=
    inviteGroupToBG_asks invitedManned invitedOnline stillThere stillUninvited (some .horde)
      hordeRoom
  rw [hordeSize] at second
  rw [size] at first
  have all := ((same.asks arena).trans first).trans second
  simpa only [zero_add] using all

end BattlegroundQueue

theorem selectMatch_uninviting {site : Site} {surroundings : Surroundings} {template : Template}
    {call : UpdateCall} {minPlayersPerTeam maxPlayersPerTeam : Nat}
    (apart : Apart site.queue.queuedGroups) {after : BattlegroundQueue} {pools : Pools}
    (found : site.selectMatch surroundings template call minPlayersPerTeam maxPlayersPerTeam =
      some (after, pools)) : Uninviting site.queue after := by
  unfold Site.selectMatch at found
  dsimp only at found
  split at found
  · cases found
    exact Uninviting.refl site.queue
  · split at found
    · obtain ⟨team, groups, rfl, uninvited⟩ :=
        BattlegroundQueue.checkSkirmishForSameFaction_changes apart found
      exact BattlegroundQueue.changeSide_uninviting site.queue call.bracketId team uninvited
    · cases found

/-! ### One battleground invites -/

namespace World

variable {world after : World} {kind : Kind}

theorem Balanced.uninviting (balanced : world.Balanced kind) {queue : BattlegroundQueue}
    (kept : world.site.queue.Kept queue) (same : Uninviting world.site.queue queue) :
    ({ world with site := { world.site with queue := queue } } : World).Balanced kind := by
  have orderly := balanced.orderly.kept kept
  refine balanced.keep orderly rfl ?_ ?_ rfl
  · intro instanceId named team
    unfold World.invited
    rw [same.pending named]
  · intro guid group queued
    rw [same.queued] at queued
    exact ⟨queued, same.bgTypeId group⟩

variable {bg : Battleground} {invited : BattlegroundQueue × Battleground}
    {surroundings : Surroundings} {call : UpdateCall} {template : Template}

theorem Balanced.asks (balanced : world.Balanced kind) {instanceId : Nat}
    (holds : world.Holds kind instanceId bg) {asked : Team → Nat}
    (kept : world.site.queue.Kept invited.1)
    (asks : Asks (world.site.queue, bg) invited asked)
    (room : ∀ team, bg.invitedCount team + asked team ≤ kind.limit bg) (flag : Bool)
    (queue : after.site.queue = invited.1)
    (battlegrounds : after.site.battlegrounds =
      world.site.battlegrounds.assign instanceId { invited.2 with inBGFreeSlotQueue := flag })
    (travelling : after.travelling = world.travelling) : after.Balanced kind := by
  have queued : after.site.queue.queuedPlayers = world.site.queue.queuedPlayers := by
    rw [queue]
    exact kept.rearranged.queued
  have counter := asks.bg
  have limit : kind.limit { invited.2 with inBGFreeSlotQueue := flag } = kind.limit bg := by
    rw [counter]
    rfl
  have pending : ∀ other, other ≠ 0 → ∀ team, after.invited other team =
      world.invited other team + if other = bg.instanceId then asked team else 0 := by
    intro other named team
    unfold World.invited
    rw [queue, travelling, asks.pending other named team, Nat.add_right_comm]
  apply balanced.put instanceId { invited.2 with inBGFreeSlotQueue := flag }
  · rw [queue]
    exact balanced.orderly.kept kept
  · rw [battlegrounds, OrdMap.find_assign]
  · refine ⟨?_, holds.named, ?_, ?_, ?_, ?_, ?_, ?_⟩
    · rw [counter]
      exact holds.key
    · rw [counter]
      exact holds.typed
    · rw [limit]
      exact holds.small
    · intro team
      unfold World.present
      rw [pending instanceId holds.named, if_pos holds.key.symm, counter]
      dsimp only
      rw [holds.count, World.present, Nat.add_right_comm]
    · simp_all
    · intro guid group isQueued
      rw [queued] at isQueued
      rw [counter]
      exact holds.apartQueued guid group isQueued
    · intro guid place travels
      rw [travelling] at travels
      rw [counter]
      exact holds.apartTravelling guid place travels
  · grind [add_zero, holds.key]
  · intro guid group isQueued
    rw [queued] at isQueued
    rw [queue, travelling, asks.bgTypeId]
    exact ⟨isQueued, rfl, balanced.apart guid group isQueued⟩
  · simp_all

/-! ### Battlegrounds with free slots -/

theorem getFreeSlotsForTeam_le (bg : Battleground) (team : Team) :
    bg.getFreeSlotsForTeam team = 0 ∨
      bg.invitedCount team + bg.getFreeSlotsForTeam team ≤ bg.maxPlayersPerTeam := by
  have room : ∀ free, free ≤ (if bg.invitedCount team < bg.maxPlayersPerTeam then
      bg.maxPlayersPerTeam - bg.invitedCount team else 0) →
        free = 0 ∨ bg.invitedCount team + free ≤ bg.maxPlayersPerTeam := by
    grind
  unfold Battleground.getFreeSlotsForTeam
  split
  · exact room _ (le_refl _)
  · exact room _ ((min_le_left _ _).trans (min_le_right _ _))
  · exact Or.inl rfl

theorem Balanced.room_of_free (balanced : world.Balanced kind) {instanceId : Nat}
    (found : world.site.battlegrounds.find instanceId = some bg)
    (notArena : bg.isArena = false) {team : Team} {asked : Nat}
    (le : asked ≤ bg.getFreeSlotsForTeam team) : bg.invitedCount team + asked ≤ kind.limit bg := by
  have bounded := (balanced.holds instanceId bg found).bounded team
  have own : bg.maxPlayersPerTeam ≤ kind.limit bg := by
    grind [Kind.limit]
  rcases getFreeSlotsForTeam_le bg team with none | room <;> omega

theorem Balanced.fillBattleground (balanced : world.Balanced kind)
    (online : world.site.queue.Online surroundings) (call : UpdateCall) (instanceId : Nat) :
    ({ world with site := world.site.fillBattleground surroundings call instanceId } :
      World).Balanced kind := by
  unfold Site.fillBattleground
  split
  · exact balanced
  · rename_i bg found
    split
    · rename_i fits
      have notArena : bg.isArena = false := by
        simp_all
      have holds := balanced.holds instanceId bg found
      have selected : ∀ team, Selected world.site.queue team (bg.getFreeSlotsForTeam team)
          (world.site.queue.fillPlayersToBG surroundings bg call.bracketId team).selectedGroups :=
        BattlegroundQueue.fillPlayersToBG_selected balanced.orderly.sided.apart surroundings bg
      have room : ∀ team, bg.invitedCount team +
          (((world.site.queue.fillPlayersToBG surroundings bg call.bracketId
            team).selectedGroups.map world.site.queue.size).sum) ≤ kind.limit bg :=
        fun team => balanced.room_of_free found notArena (selected team).bounded
      have asks := BattlegroundQueue.invitePools_asks balanced.orderly online selected
        fun team => lt_of_le_of_lt (room team) holds.small
      have kept := BattlegroundQueue.invitePools_kept surroundings
        (world.site.queue.fillPlayersToBG surroundings bg call.bracketId) bg
        balanced.orderly.sided
      dsimp only
      generalize world.site.queue.invitePools surroundings
        (world.site.queue.fillPlayersToBG surroundings bg call.bracketId) bg = invited
        at asks kept
      split
      · exact balanced.asks holds kept asks room invited.2.inBGFreeSlotQueue rfl rfl rfl
      · exact balanced.asks holds kept asks room false rfl rfl rfl
    · exact balanced

theorem find_fillBattleground {site : Site}
    {instanceId other : Nat} (absent : site.battlegrounds.find other = none) :
    (site.fillBattleground surroundings call instanceId).battlegrounds.find other = none := by
  unfold Site.fillBattleground
  split
  · exact absent
  · rename_i bg found
    have different : other ≠ instanceId := by
      grind
    split
    · dsimp only
      split
      · dsimp only
        rw [OrdMap.find_assign, Function.update_of_ne different]
        exact absent
      · dsimp only
        rw [OrdMap.find_assign, Function.update_of_ne different]
        exact absent
    · exact absent

theorem Balanced.fillBattlegrounds (call : UpdateCall)
    (freeSlots : List Nat) {site : Site} {travelling : OrdMap Nat (Nat × Team)}
    (balanced : ({ site := site, travelling := travelling } : World).Balanced kind)
    (online : site.queue.Online surroundings) :
    let filled := freeSlots.foldl
      (fun site instanceId => site.fillBattleground surroundings call instanceId) site
    ({ site := filled, travelling := travelling } : World).Balanced kind ∧
      filled.queue.Online surroundings ∧
        ∀ other, site.battlegrounds.find other = none →
          filled.battlegrounds.find other = none := by
  induction freeSlots generalizing site with
  | nil => exact ⟨balanced, online, fun _ absent => absent⟩
  | cons instanceId rest ih =>
    have kept := Site.fillBattleground_kept surroundings call instanceId balanced.orderly.sided
    have next := balanced.fillBattleground online call instanceId
    have nextOnline :
        (site.fillBattleground surroundings call instanceId).queue.Online surroundings := by
      intro guid group queued
      rw [kept.rearranged.queued] at queued
      exact online guid group queued
    obtain ⟨all, allOnline, absent⟩ := ih next nextOnline
    exact ⟨all, allOnline, fun other none => absent other (find_fillBattleground none)⟩

/-! ### New battlegrounds -/

/-- What is drawn for a new battleground: an id that no battleground has, and if a type is drawn,
one that is an arena like the type that was asked for. -/
structure Sound (kind : Kind) (site : Site) (creation : Creation) : Prop where
  named : creation.instanceId ≠ 0
  unused : site.battlegrounds.find creation.instanceId = none
  sort : ∀ template chosen other, kind.template kind.bgTypeId = some template →
    creation.choice = some chosen → kind.template chosen = some other →
      other.isArena = template.isArena

theorem createNewBattleground_eq {creation : Creation}
    {bgTypeId : Nat} {bracket : Fin maxBattlegroundBrackets} {arenaType : Nat}
    (known : surroundings.template bgTypeId = some template)
    (created : surroundings.createNewBattleground creation bgTypeId bracket arenaType = some bg) :
    ∃ chosen other, surroundings.template chosen = some other ∧
      (template.isArena = true ∧ creation.choice = some chosen ∨
        template.isArena = false ∧ bgTypeId = battlegroundRB ∧ creation.choice = some chosen ∧
          bg.typeId = bgTypeId ∨
        template.isArena = false ∧ bgTypeId ≠ battlegroundRB ∧ chosen = bgTypeId ∧
          bg.typeId = bgTypeId) ∧
      bg.instanceId = creation.instanceId ∧ bg.isArena = other.isArena ∧
      bg.arenaType = arenaType ∧ bg.maxPlayersPerTeam = other.maxPlayersPerTeam ∧
      bg.invitedCount = (fun _ => 0) ∧ bg.players = OrdMap.empty := by
  unfold Surroundings.createNewBattleground at created
  rw [known] at created
  dsimp only [Option.bind_eq_bind, Option.bind_some] at created
  split at created
  · rename_i drawn
    obtain ⟨chosen, draws, rest⟩ := Option.bind_eq_some_iff.mp created
    obtain ⟨other, isOther, made⟩ := Option.bind_eq_some_iff.mp rest
    cases made
    refine ⟨chosen, other, isOther, ?_, rfl, rfl, rfl, rfl, rfl, rfl⟩
    cases isArena : template.isArena with
    | true => exact Or.inl ⟨rfl, draws⟩
    | false =>
      rw [isArena] at drawn
      have random : bgTypeId = battlegroundRB := by simpa using drawn
      refine Or.inr (Or.inl ⟨rfl, random, draws, ?_⟩)
      rw [random]
      rfl
  · rename_i fixed
    obtain ⟨other, isOther, made⟩ := Option.bind_eq_some_iff.mp created
    cases made
    refine ⟨bgTypeId, other, isOther, Or.inr (Or.inr ?_), rfl, rfl, rfl, rfl, rfl, rfl⟩
    cases isArena : template.isArena with
    | true =>
      simp_all
    | false =>
      rw [isArena] at fixed
      have notRandom : bgTypeId ≠ battlegroundRB := by
        simp_all
      refine ⟨rfl, notRandom, rfl, ?_⟩
      rw [if_neg]
      simpa using notRandom

theorem Balanced.created (balanced : world.Balanced kind)
    {creation : Creation} (sound : Sound kind world.site creation)
    (templates : surroundings.template = kind.template)
    (known : kind.template kind.bgTypeId = some template)
    {bracket : Fin maxBattlegroundBrackets} {arenaType : Nat}
    (arena : template.isArena = true → arenaType = kind.arenaType)
    (created : surroundings.createNewBattleground creation kind.bgTypeId bracket arenaType =
      some bg) :
    bg.instanceId = creation.instanceId ∧ world.Holds kind bg.instanceId bg ∧
      (∀ team, bg.invitedCount team = 0) ∧
        (if template.isArena then kind.arenaType else template.maxPlayersPerTeam) ≤
          kind.limit bg := by
  obtain ⟨chosen, other, isOther, draws, key, isArena, type, size, zero, empty⟩ :=
    createNewBattleground_eq (templates.symm ▸ known) created
  rw [templates] at isOther
  have chosenSmall := kind.small chosen other isOther
  have ownSmall := kind.small kind.bgTypeId template known
  have invited := balanced.absent creation.instanceId sound.named sound.unused
  have outside : ∀ guid, (OrdMap.empty : OrdMap Nat Team).find guid = none := fun _ => rfl
  have typed : kind.bgTypeId = battlegroundAA ∨ bg.typeId = kind.bgTypeId := by
    rcases draws with ⟨arenas, -⟩ | ⟨-, -, -, typeId⟩ | ⟨-, -, -, typeId⟩
    · exact Or.inl (kind.arenas template known arenas).1
    · exact Or.inr typeId
    · exact Or.inr typeId
  have limits : kind.limit bg < 2 ^ 32 ∧
      (if template.isArena then kind.arenaType else template.maxPlayersPerTeam) ≤
        kind.limit bg := by
    unfold Kind.limit
    rcases draws with ⟨arenas, draws⟩ | ⟨notArena, random, draws, typeId⟩ |
      ⟨notArena, fixed, rfl, typeId⟩
    · have sort := sound.sort template chosen other known draws isOther
      rw [isArena, sort, if_pos arenas, if_pos arenas, type, arena arenas]
      exact ⟨(kind.arenas template known arenas).2.2, le_refl _⟩
    · have sort := sound.sort template chosen other known draws isOther
      rw [isArena, sort, notArena, if_neg Bool.false_ne_true, if_neg Bool.false_ne_true,
        typeId, if_pos random, ← random, known, size]
      exact ⟨max_lt chosenSmall ownSmall, le_max_right _ _⟩
    · simp_all
  refine ⟨key, ⟨rfl, ?_, typed, limits.1, ?_, ?_, ?_, ?_⟩, ?_, limits.2⟩
  · rw [key]
    exact sound.named
  · intro team
    unfold World.present
    rw [key, invited, zero, empty]
    rfl
  · simp [zero]
  · simp_all
  · simp_all
  · simp [zero]

/-! ### Matches -/

theorem Balanced.startBattleground (balanced : world.Balanced kind)
    (holds : world.Holds kind bg.instanceId bg) {asked : Team → Nat}
    (kept : world.site.queue.Kept invited.1)
    (asks : Asks (world.site.queue, bg) invited asked)
    (room : ∀ team, bg.invitedCount team + asked team ≤ kind.limit bg) :
    ({ world with site := world.site.startBattleground invited } : World).Balanced kind := by
  have key : invited.2.instanceId = bg.instanceId := by rw [asks.bg]
  unfold Site.startBattleground Site.addBattleground
  dsimp only
  split
  · refine balanced.asks holds kept asks room true rfl ?_ rfl
    dsimp only
    rw [key]
  · refine balanced.asks holds kept asks room invited.2.inBGFreeSlotQueue rfl ?_ rfl
    rw [← key]

theorem find_startBattleground {site : Site} {queue : BattlegroundQueue}
    {asked : Team → Nat}
    (asks : Asks (queue, bg) invited asked) {other : Nat} (different : other ≠ bg.instanceId) :
    (site.startBattleground invited).battlegrounds.find other = site.battlegrounds.find other := by
  have key : invited.2.instanceId = bg.instanceId := by rw [asks.bg]
  unfold Site.startBattleground Site.addBattleground
  split
  · dsimp only
    rw [OrdMap.find_assign, key, Function.update_of_ne different]
  · dsimp only
    rw [OrdMap.find_assign, key, Function.update_of_ne different]

theorem Balanced.startPools (balanced : world.Balanced kind)
    (online : world.site.queue.Online surroundings)
    (holds : world.Holds kind bg.instanceId bg) (zero : ∀ team, bg.invitedCount team = 0)
    {pools : Pools} {bound : Nat}
    (selected : ∀ team, Selected world.site.queue team bound (pools team).selectedGroups)
    (le : bound ≤ kind.limit bg) :
    let started := world.site.startBattleground
      (world.site.queue.invitePools surroundings pools bg)
    ({ world with site := started } : World).Balanced kind ∧
      ∀ other, other ≠ bg.instanceId →
        started.battlegrounds.find other = world.site.battlegrounds.find other := by
  have room : ∀ team, bg.invitedCount team +
      ((pools team).selectedGroups.map world.site.queue.size).sum ≤ kind.limit bg := by
    intro team
    rw [zero, zero_add]
    exact (selected team).bounded.trans le
  have asks := BattlegroundQueue.invitePools_asks balanced.orderly online selected
    fun team => lt_of_le_of_lt (room team) holds.small
  have kept := BattlegroundQueue.invitePools_kept surroundings pools bg balanced.orderly.sided
  exact ⟨balanced.startBattleground holds kept asks room,
    fun other different => find_startBattleground asks different⟩

theorem Balanced.startPremade (balanced : world.Balanced kind)
    (online : world.site.queue.Online surroundings)
    (type : call.bgTypeId = kind.bgTypeId) (templates : surroundings.template = kind.template)
    (sound : Sound kind world.site surroundings.premadeCreation)
    (known : kind.template kind.bgTypeId = some template) (notArena : template.isArena = false)
    (minPlayersPerTeam : Nat) :
    let started := (world.site.startPremade surroundings call minPlayersPerTeam
      template.maxPlayersPerTeam).1
    ({ world with site := started } : World).Balanced kind ∧
      ∀ other, other ≠ surroundings.premadeCreation.instanceId →
        started.battlegrounds.find other = world.site.battlegrounds.find other := by
  have apart := balanced.orderly.sided.apart
  have kept := BattlegroundQueue.checkPremadeMatch_kept surroundings call.bracketId
    minPlayersPerTeam template.maxPlayersPerTeam balanced.orderly.sided
  have same := BattlegroundQueue.checkPremadeMatch_uninviting world.site.queue surroundings
    call.bracketId minPlayersPerTeam template.maxPlayersPerTeam
  unfold Site.startPremade
  split
  · rename_i queue none
    rw [none] at kept same
    exact ⟨balanced.uninviting kept same, fun _ _ => rfl⟩
  · rename_i queue pools found
    obtain ⟨rfl, selected⟩ := BattlegroundQueue.checkPremadeMatch_selected apart found
    split
    · exact ⟨balanced, fun _ _ => rfl⟩
    · rename_i bg created
      rw [type] at created
      obtain ⟨key, holds, zero, le⟩ := balanced.created sound templates known
        (fun isArena => absurd isArena (notArena ▸ Bool.false_ne_true)) created
      rw [notArena, if_neg Bool.false_ne_true] at le
      rw [← key]
      exact balanced.startPools online holds zero selected le

theorem Balanced.startNormal (balanced : world.Balanced kind)
    (online : world.site.queue.Online surroundings)
    (type : call.bgTypeId = kind.bgTypeId) (templates : surroundings.template = kind.template)
    (sound : Sound kind world.site surroundings.creation)
    (known : kind.template kind.bgTypeId = some template)
    (arena : template.isArena = true → call.arenaType = kind.arenaType)
    {minPlayersPerTeam maxPlayersPerTeam : Nat}
    (ordered : template.isArena = true → minPlayersPerTeam ≤ maxPlayersPerTeam)
    (max : maxPlayersPerTeam =
      if template.isArena then kind.arenaType else template.maxPlayersPerTeam) :
    ({ world with
        site :=
          world.site.startNormal surroundings template call minPlayersPerTeam
            maxPlayersPerTeam } : World).Balanced kind := by
  unfold Site.startNormal
  split
  · exact balanced
  · rename_i queue pools found
    have selected := Site.selectMatch_selected balanced.orderly.sided.apart ordered found
    have kept := Site.selectMatch_kept balanced.orderly.sided found
    have same := selectMatch_uninviting balanced.orderly.sided.apart found
    have next := balanced.uninviting kept same
    split
    · exact next
    · rename_i bg created
      rw [type] at created
      obtain ⟨-, holds, zero, le⟩ := next.created ⟨sound.named, sound.unused, sound.sort⟩ templates
        known arena created
      exact (next.startPools (same.online online) holds zero selected (max ▸ le)).1

theorem Balanced.startRated (balanced : world.Balanced kind)
    (online : world.site.queue.Online surroundings)
    (type : call.bgTypeId = kind.bgTypeId) (templates : surroundings.template = kind.template)
    (sound : Sound kind world.site surroundings.creation)
    (known : kind.template kind.bgTypeId = some template) (isArena : template.isArena = true)
    (arena : call.arenaType = kind.arenaType) :
    ({ world with site := world.site.startRated surroundings call kind.arenaType } :
      World).Balanced kind := by
  unfold Site.startRated
  split
  · exact balanced
  · split
    · exact balanced
    · rename_i arenaRating _ ali horde found
      obtain ⟨different, aliStands, hordeStands⟩ :=
        BattlegroundQueue.findOpponents_stand balanced.orderly.sided.apart found
      obtain ⟨⟨aliUninvited, aliSize⟩, hordeUninvited, hordeSize⟩ :=
        BattlegroundQueue.findOpponents_added found
      split
      · exact balanced
      · rename_i bg created
        rw [type] at created
        obtain ⟨-, holds, zero, le⟩ := balanced.created sound templates known (fun _ => arena) created
        rw [isArena, if_pos rfl] at le
        have kept := BattlegroundQueue.inviteOpponents_kept surroundings bg
          balanced.orderly.sided different aliStands hordeStands
        have room : ∀ team, bg.invitedCount team +
            ((if team = .alliance then world.site.queue.size ali else 0) +
              if team = .horde then world.site.queue.size horde else 0) ≤ kind.limit bg := by
          grind
        have small := holds.small
        have asks := BattlegroundQueue.inviteOpponents_asks bg balanced.orderly online
          different aliStands hordeStands aliUninvited hordeUninvited ⟨by
            rw [zero, zero_add]
            exact lt_of_le_of_lt (aliSize.trans le) small, by
            rw [zero, zero_add]
            exact lt_of_le_of_lt (hordeSize.trans le) small⟩
        exact balanced.startBattleground holds kept asks room

/-! ### The update -/

/-- A call of `Update` for a queue of this kind, while everybody who is queued is online. The two
battlegrounds that it may make get ids of their own. -/
structure Called (kind : Kind) (site : Site) (surroundings : Surroundings) (call : UpdateCall) :
    Prop where
  type : call.bgTypeId = kind.bgTypeId
  arena : call.arenaType = kind.arenaType
  templates : surroundings.template = kind.template
  online : site.queue.Online surroundings
  premade : Sound kind site surroundings.premadeCreation
  normal : Sound kind site surroundings.creation
  distinct : surroundings.creation.instanceId ≠ surroundings.premadeCreation.instanceId

theorem Balanced.startBattlegrounds (balanced : world.Balanced kind)
    (called : Called kind world.site surroundings call) :
    ({ world with site := world.site.startBattlegrounds surroundings call } :
      World).Balanced kind := by
  unfold Site.startBattlegrounds
  split
  · exact balanced
  · rename_i template known
    rw [called.type, called.templates] at known
    split
    · exact balanced
    · dsimp only
      have ordered : template.isArena = true →
          (if template.isArena then if surroundings.arenaTesting then 1 else call.arenaType
            else if surroundings.testing then 1 else template.minPlayersPerTeam) ≤
          (if template.isArena then call.arenaType else template.maxPlayersPerTeam) := by
        intro isArena
        have positive := (kind.arenas template known isArena).2.1
        rw [if_pos isArena, if_pos isArena, called.arena]
        split
        · exact positive
        · exact le_refl _
      have max : (if template.isArena then call.arenaType else template.maxPlayersPerTeam) =
          if template.isArena then kind.arenaType else template.maxPlayersPerTeam := by
        rw [called.arena]
      generalize (if template.isArena then if surroundings.arenaTesting then 1 else call.arenaType
        else if surroundings.testing then 1 else template.minPlayersPerTeam) = minPlayers at ordered
      generalize (if template.isArena then call.arenaType else template.maxPlayersPerTeam)
        = maxPlayers at ordered max
      have premade : ∀ started, started = (if template.isArena then (world.site, true)
            else world.site.startPremade surroundings call minPlayers maxPlayers) →
          ({ world with site := started.1 } : World).Balanced kind ∧
            started.1.queue.Online surroundings ∧
              Sound kind started.1 surroundings.creation := by
        rintro started rfl
        cases isArena : template.isArena with
        | true =>
          rw [if_pos rfl]
          exact ⟨balanced, called.online, called.normal⟩
        | false =>
          rw [if_neg Bool.false_ne_true]
          rw [isArena, if_neg Bool.false_ne_true] at max
          rw [max]
          obtain ⟨next, others⟩ := balanced.startPremade called.online called.type
            called.templates called.premade known isArena minPlayers
          have kept := Site.startPremade_kept surroundings call minPlayers
            template.maxPlayersPerTeam balanced.orderly.sided
          refine ⟨next, ?_, called.normal.named, ?_, called.normal.sort⟩
          · intro guid group queued
            rw [kept.rearranged.queued] at queued
            exact called.online guid group queued
          · rw [others _ called.distinct]
            exact called.normal.unused
      obtain ⟨next, online, sound⟩ := premade _ rfl
      generalize (if template.isArena then (world.site, true)
        else world.site.startPremade surroundings call minPlayers maxPlayers) = started
        at next online sound ⊢
      split
      · exact next
      · split
        · exact next.startNormal online called.type called.templates sound known
            (fun _ => called.arena) ordered max
        · split
          · rename_i isArena
            rw [max, if_pos isArena]
            exact next.startRated online called.type called.templates sound known isArena
              called.arena
          · exact next

theorem Balanced.update (balanced : world.Balanced kind)
    (called : Called kind world.site surroundings call) :
    ({ world with site := world.site.update surroundings call } : World).Balanced kind := by
  unfold Site.update
  split
  · exact balanced
  · obtain ⟨filled, online, absent⟩ :=
      Balanced.fillBattlegrounds call world.site.freeSlots balanced called.online
    exact filled.startBattlegrounds
      ⟨called.type, called.arena, called.templates, online,
        ⟨called.premade.named, absent _ called.premade.unused, called.premade.sort⟩,
        ⟨called.normal.named, absent _ called.normal.unused, called.normal.sort⟩, called.distinct⟩

end World

end DarkCore.Battlegrounds.Queues
