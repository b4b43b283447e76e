/-
Who leaves a battleground queue, goes to a battleground or leaves it: the counter
of invited players goes down exactly where one player less is invited or inside.
-/

import DarkCore.Battlegrounds.InvitedWorld

namespace DarkCore.Battlegrounds.Queues

open DarkCore.Lib

structure Departs (before after : BattlegroundQueue) (guid : Nat) : Prop where
  orderly : after.Orderly
  queued : after.queuedPlayers = before.queuedPlayers.erase guid
  same : ∀ other group, after.queuedPlayers.find other = some group →
    (after.info group).isInvitedToBGInstanceGUID =
        (before.info group).isInvitedToBGInstanceGUID ∧
      after.teamOf group = before.teamOf group ∧
        (after.info group).bgTypeId = (before.info group).bgTypeId

namespace Departs

variable {before after : BattlegroundQueue} {guid group other : Nat}

theorem find (departs : Departs before after guid)
    (queued : after.queuedPlayers.find other = some group) :
    other ≠ guid ∧ before.queuedPlayers.find other = some group := by
  rw [departs.queued, OrdMap.find_erase] at queued
  have different : other ≠ guid := by
    grind
  rw [Function.update_of_ne different] at queued
  exact ⟨different, queued⟩

theorem pending (departs : Departs before after guid)
    (found : before.queuedPlayers.find guid = some group) (instanceId : Nat) (team : Team) :
    after.pending instanceId team + (if before.asked instanceId team group then 1 else 0) =
      before.pending instanceId team := by
  have erased := OrdMap.countWhere_erase_some (before.asked instanceId team) found
  rw [← departs.queued] at erased
  unfold BattlegroundQueue.pending
  rw [← erased]
  congr 1
  apply OrdMap.countWhere_congr
  intro other member queued
  obtain ⟨invited, team, -⟩ := departs.same other member queued
  unfold BattlegroundQueue.asked
  rw [invited, team]

end Departs

namespace Site

open BattlegroundQueue

variable {site : Site}

theorem removeOne_departs (orderly : site.queue.Orderly) {guid group : Nat}
    (found : site.queue.queuedPlayers.find guid = some group) (decreaseInvitedCount : Bool) :
    Departs site.queue (site.removeOne guid decreaseInvitedCount).1.queue guid := by
  have kept := removeOne_orderly orderly guid decreaseInvitedCount
  rcases removeOne_cases orderly guid decreaseInvitedCount with ⟨absent, -⟩ |
    ⟨own, place, foundOwn, stands, ⟨last, result, -⟩ | ⟨stay, result⟩⟩
  · simp_all
  · rw [result] at kept ⊢
    rw [found] at foundOwn
    cases foundOwn
    refine ⟨kept, rfl, ?_⟩
    intro other member queued
    -- the group that is deleted had no other player
    have different : member ≠ group := by
      rintro rfl
      rw [deleteGroup_queuedPlayers, forget_queuedPlayers, OrdMap.find_erase] at queued
      have apart : other ≠ guid := by
        grind
      rw [Function.update_of_ne apart] at queued
      have inside := (orderly.manned.recorded other member queued).1
      have left := (orderly.manned.nodup member place stands).mem_erase_iff.mpr ⟨apart, inside⟩
      rw [last] at left
      exact absurd left List.not_mem_nil
    have info : ((site.queue.forget guid).deleteGroup group place).info member =
        site.queue.info member := by
      simp_all [BattlegroundQueue.info, deleteGroup, forget]
    unfold teamOf
    rw [info]
    exact ⟨rfl, rfl, rfl⟩
  · rw [result] at kept ⊢
    rw [found] at foundOwn
    cases foundOwn
    refine ⟨kept, rfl, ?_⟩
    intro other member _
    unfold teamOf
    rw [info_setInfo]
    split
    · simp_all
    · exact ⟨rfl, rfl, rfl⟩

/-- What a call of `RemovePlayer` does to the battlegrounds, and when it makes another call -/
theorem removeOne_effects (orderly : site.queue.Orderly) {guid group : Nat}
    (found : site.queue.queuedPlayers.find guid = some group) (decreaseInvitedCount : Bool) :
    (site.removeOne guid decreaseInvitedCount).1.battlegrounds =
        (if decreaseInvitedCount && (site.queue.info group).isInvitedToBGInstanceGUID != 0 then
          (site.decreaseInvited (site.queue.info group)).battlegrounds else site.battlegrounds) ∧
      ∀ other, (site.removeOne guid decreaseInvitedCount).2 = some other →
        (site.queue.info group).isInvitedToBGInstanceGUID = 0 ∧
          other ∈ (site.queue.info group).players.erase guid := by
  obtain ⟨-, stood, stands⟩ := orderly.manned.recorded guid group found
  obtain ⟨place, there⟩ := findPlace_of_mem stands
  rw [orderly.sided.side group stood stands] at there
  unfold removeOne
  rw [found]
  dsimp only
  rw [show site.queue.findPlace group (site.queue.info group).team = some place from there]
  cases players : (site.queue.info group).players.erase guid with
  | nil =>
    grind
  | cons next rest =>
    grind

structure Leaves (before after : Site) : Prop where
  orderly : after.queue.Orderly
  battlegrounds : after.battlegrounds = before.battlegrounds
  queued : ∀ other group, after.queue.queuedPlayers.find other = some group →
    before.queue.queuedPlayers.find other = some group ∧
      (after.queue.info group).bgTypeId = (before.queue.info group).bgTypeId
  pending : ∀ instanceId, instanceId ≠ 0 → ∀ team,
    after.queue.pending instanceId team = before.queue.pending instanceId team

theorem Leaves.refl (orderly : site.queue.Orderly) : site.Leaves site :=
  ⟨orderly, rfl, fun _ _ queued => ⟨queued, rfl⟩, fun _ _ _ => rfl⟩

theorem Leaves.trans {before middle after : Site} (first : before.Leaves middle)
    (second : middle.Leaves after) : before.Leaves after := by
  refine ⟨second.orderly, second.battlegrounds.trans first.battlegrounds, ?_, ?_⟩
  · intro other group queued
    obtain ⟨inMiddle, same⟩ := second.queued other group queued
    obtain ⟨inBefore, sameBefore⟩ := first.queued other group inMiddle
    exact ⟨inBefore, same.trans sameBefore⟩
  · intro instanceId named team
    rw [second.pending instanceId named, first.pending instanceId named]

theorem removePlayers_leaves (calls : Nat) {guid group : Nat} (decreaseInvitedCount : Bool)
    (orderly : site.queue.Orderly) (found : site.queue.queuedPlayers.find guid = some group)
    (uninvited : (site.queue.info group).isInvitedToBGInstanceGUID = 0) :
    site.Leaves (removePlayers calls site guid decreaseInvitedCount) := by
  induction calls generalizing site guid with
  | zero => exact Leaves.refl orderly
  | succ calls ih =>
    have departs := removeOne_departs orderly found decreaseInvitedCount
    obtain ⟨battlegrounds, again⟩ := removeOne_effects orderly found decreaseInvitedCount
    rw [uninvited, if_neg (by simp)] at battlegrounds
    have step : site.Leaves (site.removeOne guid decreaseInvitedCount).1 := by
      refine ⟨departs.orderly, battlegrounds, ?_, ?_⟩
      · intro other member queued
        exact ⟨(departs.find queued).2, (departs.same other member queued).2.2⟩
      · intro instanceId named team
        rw [← departs.pending found instanceId team, if_neg, add_zero]
        intro isAsked
        exact named ((of_decide_eq_true isAsked).1.symm.trans uninvited)
    unfold removePlayers
    split
    · simp_all
    · rename_i left other result
      rw [result] at step departs again
      have stays := (again other rfl).2
      obtain ⟨-, place, stands⟩ := orderly.manned.recorded guid group found
      have member := (orderly.manned.nodup group place stands).mem_erase_iff.mp stays
      have queued : left.queue.queuedPlayers.find other = some group := by
        rw [show left.queue.queuedPlayers = _ from departs.queued, OrdMap.find_erase,
          Function.update_of_ne member.1]
        exact orderly.manned.queued group place stands other member.2
      have still := (departs.same other group queued).1
      exact step.trans (ih step.orderly queued (still.trans uninvited))

theorem removePlayer_invited (orderly : site.queue.Orderly) {guid group : Nat}
    (found : site.queue.queuedPlayers.find guid = some group)
    (invited : (site.queue.info group).isInvitedToBGInstanceGUID ≠ 0)
    (decreaseInvitedCount : Bool) :
    site.removePlayer guid decreaseInvitedCount =
      (site.removeOne guid decreaseInvitedCount).1 := by
  rw [removePlayer_eq orderly]
  split
  · simp_all
  · rename_i left other result
    obtain ⟨-, again⟩ := removeOne_effects orderly found decreaseInvitedCount
    rw [result] at again
    exact absurd (again other rfl).1 invited

theorem removePlayer_absent (orderly : site.queue.Orderly) {guid : Nat}
    (absent : site.queue.queuedPlayers.find guid = none) (decreaseInvitedCount : Bool) :
    site.removePlayer guid decreaseInvitedCount = site := by
  have idle : site.removeOne guid decreaseInvitedCount = (site, none) := by
    simp_all [removeOne]
  rw [removePlayer_eq orderly, idle]

end Site

theorem Battleground.decreaseInvitedCount_eq {bg : Battleground} {team : Team}
    (positive : 0 < bg.invitedCount team) (small : bg.invitedCount team < 2 ^ 32) :
    bg.decreaseInvitedCount team =
      { bg with
        invitedCount := Function.update bg.invitedCount team (bg.invitedCount team - 1) } := by
  unfold Battleground.decreaseInvitedCount
  have less : (bg.invitedCount team + (2 ^ 32 - 1)) % 2 ^ 32 = bg.invitedCount team - 1 := by
    omega
  rw [less]

namespace World

variable {world : World} {kind : Kind}

/-- `RemovePlayer` with a decrease takes the player out of the count. -/
theorem Balanced.removeFromQueue (balanced : world.Balanced kind) (guid : Nat) :
    (world.removeFromQueue guid true).Balanced kind := by
  have orderly := balanced.orderly
  unfold World.removeFromQueue
  cases found : world.site.queue.queuedPlayers.find guid with
  | none =>
    rw [Site.removePlayer_absent orderly found]
    exact balanced
  | some group =>
    by_cases uninvited : (world.site.queue.info group).isInvitedToBGInstanceGUID = 0
    · have leaves := Site.removePlayers_leaves world.site.queue.queuedPlayers.entries.length true
        orderly found uninvited
      apply balanced.keep leaves.orderly
      · exact congrArg OrdMap.find leaves.battlegrounds
      · intro other named team
        unfold World.invited
        rw [show ({ world with site := world.site.removePlayer guid true } :
          World).site.queue.pending other team = _ from leaves.pending other named team]
      · exact leaves.queued
      · rfl
    · rw [Site.removePlayer_invited orderly found uninvited]
      have departs := Site.removeOne_departs orderly found true
      obtain ⟨battlegrounds, -⟩ := Site.removeOne_effects orderly found true
      obtain ⟨bg, bgFound, isOf, positive⟩ := balanced.battlegroundOf found uninvited
      have holds := balanced.holds _ bg bgFound
      rw [Bool.true_and, if_pos (by simpa using uninvited)] at battlegrounds
      unfold Site.decreaseInvited at battlegrounds
      rw [isOf] at battlegrounds
      dsimp only at battlegrounds
      rw [show (world.site.queue.info group).team = world.site.queue.teamOf group from rfl,
        Battleground.decreaseInvitedCount_eq positive
          (lt_of_le_of_lt (holds.bounded _) holds.small)] at battlegrounds
      have asked : ∀ instanceId team, world.site.queue.asked instanceId team group = true ↔
          instanceId = (world.site.queue.info group).isInvitedToBGInstanceGUID ∧
            team = world.site.queue.teamOf group := by
        grind [BattlegroundQueue.asked]
      have pending := departs.pending found
      refine balanced.put _
        { bg with
          invitedCount :=
            Function.update bg.invitedCount (world.site.queue.teamOf group)
              (bg.invitedCount (world.site.queue.teamOf group) - 1) }
        departs.orderly ?_ ⟨holds.key, holds.named, holds.typed, holds.small, ?_, ?_, ?_,
          holds.apartTravelling⟩ ?_ ?_ fun _ _ travels => Or.inl travels
      · rw [battlegrounds, OrdMap.find_assign]
      · intro team
        have counted := holds.count team
        have less := pending (world.site.queue.info group).isInvitedToBGInstanceGUID team
        unfold present World.invited at counted ⊢
        dsimp only
        by_cases own : team = world.site.queue.teamOf group
        · grind
        · simp_all
      · intro team
        have bounded := holds.bounded team
        change Function.update bg.invitedCount _ _ team ≤ kind.limit bg
        by_cases own : team = world.site.queue.teamOf group
        · grind
        · simp_all
      · intro other member queued
        exact holds.apartQueued other member (departs.find queued).2
      · intro other different _ team
        unfold World.invited
        have same := pending other team
        rw [if_neg fun isAsked => different ((asked other team).mp isAsked).1, add_zero] at same
        rw [same]
      · intro other member queued
        obtain ⟨-, before⟩ := departs.find queued
        exact ⟨before, (departs.same other member queued).2.2, balanced.apart other member before⟩

theorem getBattleground_eq {site : Site} {instanceId bgTypeId : Nat} {bg : Battleground}
    (found : site.getBattleground instanceId bgTypeId = some bg) :
    instanceId ≠ 0 ∧ site.battlegrounds.find instanceId = some bg := by
  unfold Site.getBattleground at found
  split at found
  · cases found
  · simp_all

theorem Balanced.accept (balanced : world.Balanced kind) (guid bgTypeId : Nat) (mayPort : Bool) :
    (world.accept guid bgTypeId mayPort).Balanced kind := by
  have orderly := balanced.orderly
  unfold World.accept
  split
  · exact balanced
  · rename_i group found
    dsimp only
    split
    · exact balanced
    · rename_i bg isOf
      split
      · obtain ⟨invited, bgFound⟩ := getBattleground_eq isOf
        have holds := balanced.holds _ bg bgFound
        have departs := Site.removeOne_departs orderly found false
        obtain ⟨battlegrounds, -⟩ := Site.removeOne_effects orderly found false
        rw [Bool.false_and, if_neg Bool.false_ne_true] at battlegrounds
        have pending := departs.pending found
        have travels : ∀ instanceId team,
            (world.travelling.assign guid (bg.instanceId, world.site.queue.teamOf group)).countWhere
                (fun place => decide (place = (instanceId, team))) =
              (world.travelling.countWhere fun place => decide (place = (instanceId, team))) +
                if world.site.queue.asked instanceId team group then 1 else 0 := by
          intro instanceId team
          rw [OrdMap.countWhere_assign_new _ (balanced.apart guid group found)]
          congr 1
          have same : decide ((bg.instanceId, world.site.queue.teamOf group) = (instanceId, team)) =
              world.site.queue.asked instanceId team group := by
            simp [BattlegroundQueue.asked, holds.key, decide_eq_decide, Prod.mk.injEq]
          rw [same]
        have same : ∀ instanceId team,
            (World.mk (world.site.removeOne guid false).1 (world.travelling.assign guid
              (bg.instanceId, world.site.queue.teamOf group))).invited instanceId team =
                world.invited instanceId team := by
          grind [World.invited]
        unfold World.removeFromQueue
        rw [Site.removePlayer_invited orderly found invited]
        refine balanced.put _ bg departs.orderly ?_ ⟨holds.key, holds.named, holds.typed,
          holds.small, ?_, holds.bounded, ?_, ?_⟩ ?_ ?_ ?_
        · rw [battlegrounds, ← bgFound, Function.update_eq_self]
        · intro team
          rw [holds.count]
          unfold present
          rw [← same]
          rfl
        · intro other member queued
          exact holds.apartQueued other member (departs.find queued).2
        · intro other place isOn
          rw [OrdMap.find_assign] at isOn
          by_cases own : other = guid
          · rw [own]
            exact holds.apartQueued guid group found
          · rw [Function.update_of_ne own] at isOn
            exact holds.apartTravelling other place isOn
        · exact fun other _ _ team => same other team
        · intro other member queued
          obtain ⟨different, before⟩ := departs.find queued
          refine ⟨before, (departs.same other member queued).2.2, ?_⟩
          rw [OrdMap.find_assign, Function.update_of_ne different]
          exact balanced.apart other member before
        · intro other place isOn
          rw [OrdMap.find_assign] at isOn
          by_cases own : other = guid
          · rw [own, Function.update_self] at isOn
            cases isOn
            refine Or.inr ⟨?_, group, own ▸ found⟩
            rw [holds.key]
            exact invited
          · simp_all
      · exact balanced

theorem Balanced.expire (balanced : world.Balanced kind) (guid instanceId removeTime : Nat) :
    (world.expire guid instanceId removeTime).Balanced kind := by
  unfold World.expire
  split
  · exact balanced
  · dsimp only
    split
    · exact balanced.removeFromQueue guid
    · exact balanced

theorem Balanced.setBattleground {after : World} (balanced : world.Balanced kind)
    {instanceId : Nat} {bg changed : Battleground}
    (found : world.site.battlegrounds.find instanceId = some bg)
    (queue : after.site.queue = world.site.queue)
    (battlegrounds : after.site.battlegrounds = world.site.battlegrounds.assign instanceId changed)
    (travelling : ∀ guid place, after.travelling.find guid = some place →
      world.travelling.find guid = some place)
    (key : changed.instanceId = bg.instanceId) (typed : changed.typeId = bg.typeId)
    (limit : kind.limit changed = kind.limit bg)
    (count : ∀ team, changed.invitedCount team = after.present instanceId changed team)
    (bounded : ∀ team, changed.invitedCount team ≤ bg.invitedCount team)
    (others : ∀ other, other ≠ instanceId → ∀ team,
      after.invited other team = world.invited other team)
    (players : ∀ guid, bg.players.find guid = none → after.travelling.find guid ≠ none ∨
      (∃ group, world.site.queue.queuedPlayers.find guid = some group) →
        changed.players.find guid = none) : after.Balanced kind := by
  have holds := balanced.holds instanceId bg found
  apply balanced.put instanceId changed
  · rw [queue]
    exact balanced.orderly
  · rw [battlegrounds, OrdMap.find_assign]
  · refine ⟨key.trans holds.key, holds.named, ?_, ?_, count, ?_, ?_, ?_⟩
    · rw [typed]
      exact holds.typed
    · rw [limit]
      exact holds.small
    · intro team
      rw [limit]
      exact le_trans (bounded team) (holds.bounded team)
    · intro guid group queued
      rw [queue] at queued
      exact players guid (holds.apartQueued guid group queued) (Or.inr ⟨group, queued⟩)
    · intro guid place travels
      have before := travelling guid place travels
      refine players guid (holds.apartTravelling guid place before) (Or.inl ?_)
      rw [travels]
      exact Option.some_ne_none place
  · exact fun other different _ team => others other different team
  · intro guid group queued
    rw [queue] at queued ⊢
    refine ⟨queued, rfl, ?_⟩
    cases travels : after.travelling.find guid with
    | none => rfl
    | some place =>
      have before := travelling guid place travels
      rw [balanced.apart guid group queued] at before
      cases before
  · exact fun guid place travels => Or.inl (travelling guid place travels)

theorem Balanced.setStatus (balanced : world.Balanced kind) (instanceId : Nat) (status : Status) :
    (world.setStatus instanceId status).Balanced kind := by
  unfold World.setStatus
  split
  · exact balanced
  · rename_i bg found
    have holds := balanced.holds instanceId bg found
    exact balanced.setBattleground found rfl rfl (fun _ _ travels => travels) rfl rfl rfl
      holds.count (fun _ => le_refl _) (fun _ _ _ => rfl) fun _ none _ => none

theorem Balanced.arrive (balanced : world.Balanced kind) (guid : Nat) :
    (world.arrive guid).Balanced kind := by
  unfold World.arrive
  split
  · exact balanced
  · rename_i instanceId team travels
    dsimp only
    have erased : ∀ other side,
        (world.travelling.erase guid).countWhere (fun place => decide (place = (other, side))) +
          (if decide ((instanceId, team) = (other, side)) then 1 else 0) =
            world.travelling.countWhere fun place => decide (place = (other, side)) :=
      fun other side => OrdMap.countWhere_erase_some _ travels
    split
    · rename_i absent
      -- nobody travels to a battleground that does not exist
      have named := balanced.named guid (instanceId, team) travels
      have none := balanced.absent instanceId named absent team
      have one : 0 < world.travelling.countWhere fun place =>
          decide (place = (instanceId, team)) :=
        OrdMap.countWhere_pos travels (decide_eq_true rfl)
      unfold World.invited at none
      omega
    · rename_i bg found
      have holds := balanced.holds instanceId bg found
      have outside := holds.apartTravelling guid _ travels
      unfold World.setBattleground
      refine balanced.setBattleground found rfl rfl ?_ rfl rfl rfl ?_ (fun _ => le_refl _) ?_ ?_
      · intro other place isOn
        rw [OrdMap.find_erase] at isOn
        by_cases own : other = guid <;> simp_all
      · intro side
        have counted := holds.count side
        have less := erased instanceId side
        unfold present World.invited at counted ⊢
        unfold Battleground.addPlayer
        dsimp only
        rw [OrdMap.countWhere_assign_new _ outside]
        by_cases own : team = side
        · grind
        · simp_all
      · intro other different side
        have same := erased other side
        rw [if_neg fun equal => different (Prod.mk.inj (of_decide_eq_true equal)).1.symm,
          add_zero] at same
        unfold World.invited
        rw [same]
      · intro other absent busy
        unfold Battleground.addPlayer
        rw [OrdMap.find_assign, Function.update_of_ne]
        · exact absent
        · rintro rfl
          rcases busy with stays | ⟨group, queued⟩
          · apply stays
            rw [OrdMap.find_erase, Function.update_self]
          · rw [balanced.apart other group queued] at travels
            cases travels

theorem Balanced.leave (balanced : world.Balanced kind) (instanceId guid : Nat) :
    (world.leave instanceId guid).Balanced kind := by
  unfold World.leave
  split
  · exact balanced
  · rename_i bg found
    split
    · exact balanced
    · rename_i team isInside
      have holds := balanced.holds instanceId bg found
      have positive := balanced.inside_pos found isInside
      have erased : ∀ side,
          (bg.players.erase guid).countWhere (fun other => decide (other = side)) +
            (if decide (team = side) then 1 else 0) =
              bg.players.countWhere fun other => decide (other = side) :=
        fun side => OrdMap.countWhere_erase_some _ isInside
      have removed : (bg.removePlayer guid team).invitedCount =
          Function.update bg.invitedCount team (bg.invitedCount team - 1) := by
        have less := Battleground.decreaseInvitedCount_eq positive
          (lt_of_le_of_lt (holds.bounded team) holds.small)
        exact congrArg Battleground.invitedCount less
      have result : ∀ changed : Battleground, changed.instanceId = bg.instanceId →
          changed.typeId = bg.typeId → kind.limit changed = kind.limit bg →
            changed.players = bg.players.erase guid →
              changed.invitedCount = (bg.removePlayer guid team).invitedCount →
                ∀ freeSlots, (World.mk { world.site with
                    battlegrounds := world.site.battlegrounds.assign instanceId changed
                    freeSlots := freeSlots } world.travelling).Balanced kind := by
        intro changed key typed limit players count freeSlots
        refine balanced.setBattleground found rfl rfl (fun _ _ travels => travels) key typed limit
          ?_ ?_ (fun _ _ _ => rfl) ?_
        · intro side
          have counted := holds.count side
          have less := erased side
          unfold present World.invited at counted ⊢
          dsimp only
          rw [count, removed, players]
          by_cases own : team = side <;> grind
        · intro side
          rw [count, removed]
          by_cases own : side = team
          · simp [own, Function.update_self]
          · rw [Function.update_of_ne own]
        · intro other absent _
          rw [players, OrdMap.find_erase]
          by_cases own : other = guid
          · rw [own, Function.update_self]
          · simp_all
      split
      · obtain rfl : bg.instanceId = instanceId := holds.key
        unfold Site.addBattleground
        split
        · exact result { bg.removePlayer guid team with inBGFreeSlotQueue := true } rfl rfl rfl rfl rfl _
        · exact result (bg.removePlayer guid team) rfl rfl rfl rfl rfl _
      · exact result (bg.removePlayer guid team) rfl rfl rfl rfl rfl _

theorem Balanced.delete (balanced : world.Balanced kind) (instanceId : Nat) :
    (world.delete instanceId).Balanced kind := by
  unfold World.delete
  split
  · exact balanced
  · rename_i bg found
    split
    · rename_i empty
      have holds := balanced.holds instanceId bg found
      have erased : (world.site.battlegrounds.erase instanceId).find =
          Function.update world.site.battlegrounds.find instanceId none := OrdMap.find_erase _ _
      apply balanced.of_move
      · exact balanced.orderly
      · intro other otherBg otherFound
        rw [erased] at otherFound
        by_cases same : other = instanceId
        · simp_all
        · rw [Function.update_of_ne same] at otherFound
          exact Or.inr ⟨otherFound, fun _ => rfl⟩
      · intro other named absent team
        rw [erased] at absent
        by_cases same : other = instanceId
        · have counted := holds.count team
          have none : bg.invitedCount team = 0 := by
            cases team with
            | alliance => exact empty.2.1
            | horde => exact empty.2.2
          unfold present at counted
          rw [none] at counted
          rw [same]
          exact Nat.eq_zero_of_add_eq_zero_right counted.symm
        · rw [Function.update_of_ne same] at absent
          exact balanced.absent other named absent team
      · intro guid group queued
        exact ⟨balanced.bgTypeId guid group queued, balanced.apart guid group queued,
          balanced.queued_outside queued⟩
      · intro guid place travels
        exact ⟨balanced.named guid place travels, balanced.travelling_outside travels⟩
    · exact balanced

end World

end DarkCore.Battlegrounds.Queues
