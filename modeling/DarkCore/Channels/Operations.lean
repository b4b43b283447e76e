/-
What every operation of a channel keeps, and who is on the channel after it. A member
who leaves or is kicked is gone from it, unless he is an owner who kicks himself.
-/

import DarkCore.Channels.Members

namespace DarkCore.Channels

open DarkCore.Lib

/-- A channel by itself: every member under his own guid, none of them banned, and with ownership
an owner as long as there are members -/
structure Kept (channel : Channel) : Prop where
  keyed : ∀ guid info, channel.players.find guid = some info → info.player = guid
  noZero : ¬ channel.isOn 0
  unbanned : ∀ guid ∈ channel.banned, ¬ channel.isOn guid
  owned : channel.ownership = true → channel.players.entries ≠ [] →
    channel.OwnedBy channel.ownerGUID

section Channel

variable {channel after : Channel} {player guid : Nat} {target : Option Nat}
  {isGameMaster isAllowed : Bool}

theorem Channel.isOn.entries (isOn : channel.isOn guid) : channel.players.entries ≠ [] := by
  obtain ⟨info, found⟩ := isOn_iff.mp isOn
  intro empty
  have member := OrdMap.find_eq_some.mp found
  rw [empty] at member
  cases member

theorem SameMembers.keyed (same : SameMembers channel after)
    (keyed : ∀ guid info, channel.players.find guid = some info → info.player = guid) (guid : Nat)
    (info : PlayerInfo) (found : after.players.find guid = some info) : info.player = guid := by
  have before := same.players guid
  rw [found, Option.map_some] at before
  obtain ⟨old, foundOld, samePlayer⟩ := Option.map_eq_some_iff.mp before.symm
  exact samePlayer.symm.trans (keyed guid old foundOld)

theorem Kept.same (kept : Kept channel) (same : SameMembers channel after)
    (owned : channel.ownership = true → channel.OwnedBy channel.ownerGUID →
      after.OwnedBy after.ownerGUID) : Kept after := by
  refine ⟨same.keyed kept.keyed, ?_, ?_, ?_⟩
  · rw [same.isOn]
    exact kept.noZero
  · intro guid isBanned
    rw [same.banned] at isBanned
    rw [same.isOn]
    exact kept.unbanned guid isBanned
  · intro ownership someone
    rw [same.ownership] at ownership
    refine owned ownership (kept.owned ownership ?_)
    obtain ⟨entry, member⟩ := List.exists_mem_of_ne_nil _ someone
    have isOn : after.isOn entry.1 :=
      isOn_iff.mpr ⟨entry.2, OrdMap.find_eq_some.mpr member⟩
    exact ((same.isOn entry.1).mp isOn).entries

def promote (channel : Channel) (guid : Nat) : Channel :=
  (channel.update guid (·.setModerator true)).setOwner guid

theorem promote_sameMembers (isOn : channel.isOn guid) :
    SameMembers channel (promote channel guid) := by
  have raised : SameMembers channel (channel.update guid (·.setModerator true)) :=
    update_sameMembers isOn fun _ => rfl
  exact raised.trans (setOwner_sameMembers ((raised.isOn guid).mpr isOn))

theorem promote_ownedBy (isOn : channel.isOn guid) (noZero : ¬ channel.isOn 0)
    (ownerFlags : channel.OwnerFlags) : (promote channel guid).OwnedBy guid := by
  have raised : SameMembers channel (channel.update guid (·.setModerator true)) :=
    update_sameMembers isOn fun _ => rfl
  refine setOwner_ownedBy (fun zero => noZero (zero ▸ isOn)) ?_ ?_
  · rwa [raised.isOn]
  · intro other info found isOwner
    rw [find_update] at found
    by_cases here : other = guid
    · obtain ⟨before, foundBefore⟩ := isOn_iff.mp isOn
      rw [if_pos here, get_eq foundBefore] at found
      rw [← Option.some.inj found, PlayerInfo.isOwner_setModerator] at isOwner
      rw [here]
      exact ownerFlags guid before foundBefore isOwner
    · rw [if_neg here] at found
      exact ownerFlags other info found isOwner

theorem ownerGUID_promote (channel : Channel) (guid : Nat) :
    (promote channel guid).ownerGUID = guid :=
  ownerGUID_setOwner _ guid

structure Removed (channel : Channel) (guid : Nat) (after : Channel) : Prop where
  name : after.name = channel.name
  serial : after.serial = channel.serial
  ownership : after.ownership = channel.ownership
  ownerGUID : after.ownerGUID = channel.ownerGUID
  players : after.players = channel.players.erase guid
  banned : ∀ other ∈ after.banned, other = guid ∨ other ∈ channel.banned

section

variable (removed : Removed channel guid after)
include removed

theorem Removed.find (other : Nat) :
    after.players.find other = if other = guid then none else channel.players.find other := by
  rw [removed.players, OrdMap.find_erase, Function.update_apply]

theorem Removed.isOn (other : Nat) :
    after.isOn other ↔ channel.isOn other ∧ other ≠ guid := by
  unfold Channel.isOn
  rw [removed.find]
  by_cases here : other = guid <;> simp [here]

theorem Removed.keyed (kept : Kept channel) (other : Nat)
    (info : PlayerInfo) (found : after.players.find other = some info) : info.player = other := by
  rw [removed.find] at found
  by_cases here : other = guid
  · simp_all
  · rw [if_neg here] at found
    exact kept.keyed other info found

theorem Removed.unbanned (kept : Kept channel) (other : Nat)
    (isBanned : other ∈ after.banned) : ¬ after.isOn other := by
  rw [removed.isOn]
  rintro ⟨isOn, different⟩
  rcases removed.banned other isBanned with same | isOld
  · exact different same
  · exact kept.unbanned other isOld isOn

theorem Removed.kept (kept : Kept channel)
    (other : channel.ownerGUID ≠ guid ∨ after.ownership = false ∨ after.players.entries = []) :
    Kept after := by
  refine ⟨removed.keyed kept, ?_, removed.unbanned kept, ?_⟩
  · rw [removed.isOn]
    exact fun both => kept.noZero both.1
  · intro ownership someone
    have different : channel.ownerGUID ≠ guid := by
      rcases other with different | noOwner | empty
      · exact different
      · simp_all
      · exact absurd empty someone
    rw [removed.ownership] at ownership
    have before : channel.players.entries ≠ [] := by
      intro empty
      refine someone (List.eq_nil_iff_forall_not_mem.mpr fun entry member => ?_)
      rw [removed.players, OrdMap.mem_erase, empty] at member
      cases member.1
    obtain ⟨info, found, moderator, flags⟩ := kept.owned ownership before
    rw [removed.ownerGUID]
    refine ⟨info, ?_, moderator, ?_⟩
    · rw [removed.find, if_neg different, found]
    · grind [removed.find]

theorem Removed.kept_promote (kept : Kept channel)
    (ownership : channel.ownership = true) (isOn : after.isOn player) :
    Kept (promote after player) := by
  have noZero : ¬ after.isOn 0 := by
    rw [removed.isOn]
    exact fun both => kept.noZero both.1
  have same := promote_sameMembers isOn
  have flags : after.OwnerFlags := by
    intro other info found isOwner
    have onBefore := ((removed.isOn other).mp (isOn_iff.mpr ⟨info, found⟩)).1
    rw [removed.find] at found
    by_cases here : other = guid
    · simp_all
    · rw [if_neg here] at found
      rw [removed.ownerGUID]
      exact (kept.owned ownership onBefore.entries).flags other info found isOwner
  refine ⟨same.keyed (removed.keyed kept), ?_, ?_, ?_⟩
  · rwa [same.isOn]
  · intro other isBanned
    rw [same.banned] at isBanned
    rw [same.isOn]
    exact removed.unbanned kept other isBanned
  · intro _ _
    rw [ownerGUID_promote]
    exact promote_ownedBy isOn noZero flags

end

theorem firstPlayer_isOn (keyed : ∀ guid info, channel.players.find guid = some info →
    info.player = guid) (someone : channel.players.entries ≠ []) :
    channel.isOn channel.firstPlayer := by
  unfold Channel.firstPlayer
  cases isEntries : channel.players.entries with
  | nil => exact absurd isEntries someone
  | cons entry rest =>
    have found : channel.players.find entry.1 = some entry.2 := by
      simp [OrdMap.find_eq_some, isEntries]
    change channel.isOn entry.2.player
    rw [keyed entry.1 entry.2 found]
    exact isOn_iff.mpr ⟨entry.2, found⟩

structure Parted (channel : Channel) (guid : Nat) (after : Channel) : Prop where
  name : after.name = channel.name
  serial : after.serial = channel.serial
  kept : Kept after
  isOn : ∀ other, after.isOn other ↔ channel.isOn other ∧ other ≠ guid

theorem Removed.parted (removed : Removed channel guid after) (kept : Kept after) :
    Parted channel guid after :=
  ⟨removed.name, removed.serial, kept, removed.isOn⟩

theorem Removed.parted_promote (removed : Removed channel guid after) (kept : Kept channel)
    (ownership : channel.ownership = true) (isOn : after.isOn player) :
    Parted channel guid (promote after player) := by
  have same := promote_sameMembers isOn
  refine ⟨same.name.trans removed.name, same.serial.trans removed.serial,
    removed.kept_promote kept ownership isOn, fun other => ?_⟩
  rw [same.isOn, removed.isOn]

theorem leave_parted (kept : Kept channel) (isOn : channel.isOn player) :
    Parted channel player (channel.leave player) := by
  unfold Channel.leave
  rw [if_neg (not_not_intro isOn)]
  generalize isErased :
    ({ channel with players := channel.players.erase player } : Channel) = erased
  have removed : Removed channel player erased := by
    subst isErased
    exact ⟨rfl, rfl, rfl, rfl, rfl, fun other isBanned => Or.inr isBanned⟩
  simp only
  by_cases followed : (channel.get player).isOwner = true ∧ erased.ownership = true ∧
      erased.players.entries ≠ []
  · rw [if_pos followed]
    exact removed.parted_promote kept (removed.ownership ▸ followed.2.1)
      (firstPlayer_isOn (removed.keyed kept) followed.2.2)
  · rw [if_neg followed]
    refine removed.parted (removed.kept kept ?_)
    by_cases someone : erased.players.entries = []
    · exact Or.inr (Or.inr someone)
    · cases ownership : erased.ownership with
      | false => exact Or.inr (Or.inl rfl)
      | true =>
        left
        intro isOwner
        obtain ⟨info, found⟩ := isOn_iff.mp isOn
        obtain ⟨_, _, _, flags⟩ := kept.owned (removed.ownership ▸ ownership) isOn.entries
        have flag := (flags player info found).mpr isOwner.symm
        rw [← get_eq found] at flag
        exact followed ⟨flag, ownership, someone⟩

def KicksOwner (channel : Channel) (good : Nat) (target : Option Nat) : Prop :=
  target = some good ∧ channel.ownership = true ∧ good = channel.ownerGUID ∧ channel.isOn good ∧
    (channel.players.erase good).entries ≠ []

theorem kickOrBan_cases {good bad : Nat} {ban : Bool}
    (kicked : channel.kickOrBan good target isGameMaster ban = some (bad, after)) :
    target = some bad ∧ channel.isOn good ∧ channel.isOn bad ∧
      ∃ removed, Removed channel bad removed ∧
        (after = promote removed good ∧ channel.ownerGUID = bad ∧ channel.ownership = true ∧
            removed.players.entries ≠ [] ∨
          after = removed ∧ (channel.ownerGUID ≠ bad ∨ removed.ownership = false ∨
            removed.players.entries = [])) := by
  unfold Channel.kickOrBan at kicked
  by_cases may : channel.mayModerate good isGameMaster
  · rw [if_neg (not_not_intro may)] at kicked
    cases target with
    | none => cases kicked
    | some other =>
      simp only at kicked
      by_cases isOn : channel.isOn other
      · rw [if_neg (not_not_intro isOn)] at kicked
        by_cases refused : isGameMaster = false ∧ other = channel.ownerGUID ∧
            good ≠ channel.ownerGUID
        · simp_all
        · rw [if_neg refused] at kicked
          generalize isBanned : (if ban = true ∧ other ∉ channel.banned then
            insert other channel.banned else channel.banned) = banned at kicked
          have isRemoval : Removed channel other
              { channel with banned := banned, players := channel.players.erase other } := by
            refine ⟨rfl, rfl, rfl, rfl, rfl, fun third member => ?_⟩
            subst isBanned
            by_cases new : ban = true ∧ other ∉ channel.banned <;> simp_all
          by_cases followed : channel.ownerGUID = other ∧ channel.ownership = true ∧
              (channel.players.erase other).entries ≠ []
          · rw [if_pos followed] at kicked
            obtain ⟨rfl, rfl⟩ := Prod.mk.inj (Option.some.inj kicked)
            exact ⟨rfl, may.1, isOn, _, isRemoval, Or.inl ⟨rfl, followed⟩⟩
          · rw [if_neg followed] at kicked
            obtain ⟨rfl, rfl⟩ := Prod.mk.inj (Option.some.inj kicked)
            refine ⟨rfl, may.1, isOn, _, isRemoval, Or.inr ⟨rfl, ?_⟩⟩
            by_contra none
            simp only [not_or, not_not, Bool.not_eq_false] at none
            exact followed none
      · simp_all
  · simp_all

theorem kickOrBan_parted {good bad : Nat} {ban : Bool} (kept : Kept channel)
    (proper : ¬ KicksOwner channel good target)
    (kicked : channel.kickOrBan good target isGameMaster ban = some (bad, after)) :
    Parted channel bad after := by
  obtain ⟨isTarget, onGood, onBad, removed, isRemoval, result⟩ := kickOrBan_cases kicked
  rcases result with ⟨rfl, isOwner, ownership, someone⟩ | ⟨rfl, other⟩
  · refine isRemoval.parted_promote kept ownership ((isRemoval.isOn good).mpr ⟨onGood, ?_⟩)
    rintro rfl
    exact proper ⟨isTarget, ownership, isOwner.symm, onGood, isRemoval.players ▸ someone⟩
  · exact isRemoval.parted (isRemoval.kept kept other)

theorem kickOrBan_owner {good : Nat} (isGameMaster ban : Bool) (kept : Kept channel)
    (kicks : KicksOwner channel good target) :
    ∃ after, channel.kickOrBan good target isGameMaster ban = some (good, after) ∧
      after.serial = channel.serial ∧ after.isOn good := by
  obtain ⟨rfl, ownership, isOwner, onGood, someone⟩ := kicks
  have owned := kept.owned ownership onGood.entries
  have may : channel.mayModerate good isGameMaster := by
    obtain ⟨info, found, moderator, _⟩ := owned
    rw [← isOwner] at found
    exact ⟨onGood, Or.inl (get_eq found ▸ moderator)⟩
  unfold Channel.kickOrBan
  rw [if_neg (not_not_intro may)]
  simp only
  rw [if_neg (not_not_intro onGood), if_neg (fun refused => refused.2.2 isOwner),
    if_pos ⟨isOwner.symm, ownership, someone⟩]
  exact ⟨_, rfl, serial_setOwner _ good, isOn_setOwner _ fun zero => kept.noZero (zero ▸ onGood)⟩

def MayJoin (channel : Channel) (player : Nat) (pass : String) : Prop :=
  ¬ channel.isOn player ∧ player ∉ channel.banned ∧
    ¬ (0 < channel.password.length ∧ pass ≠ channel.password)

def Stale (channel : Channel) : Prop :=
  channel.ownership = true ∧ channel.players.entries = [] ∧ channel.ownerGUID ≠ 0

structure Joined (channel : Channel) (guid : Nat) (after : Channel) : Prop where
  name : after.name = channel.name
  serial : after.serial = channel.serial
  kept : Kept after
  isOn : ∀ other, after.isOn other ↔ channel.isOn other ∨ other = guid

def added (channel : Channel) (player : Nat) : Channel :=
  { channel with players := channel.players.assign player ⟨player, MEMBER_FLAG_NONE⟩ }

theorem find_added (channel : Channel) (player other : Nat) :
    (added channel player).players.find other =
      if other = player then some ⟨player, MEMBER_FLAG_NONE⟩ else channel.players.find other := by
  unfold added
  rw [OrdMap.find_assign, Function.update_apply]

theorem isOn_added (channel : Channel) (player other : Nat) :
    (added channel player).isOn other ↔ channel.isOn other ∨ other = player := by
  unfold Channel.isOn
  rw [find_added]
  by_cases here : other = player <;> simp [here]

theorem join_eq {pass : String} (may : MayJoin channel player pass) :
    channel.join player pass =
      some (if channel.ownerGUID = 0 ∧ channel.ownership = true then
        ((added channel player).setOwner player).update player (·.setModerator true)
      else added channel player) := by
  unfold Channel.join
  rw [if_neg may.1, if_neg may.2.1, if_neg may.2.2]
  exact (apply_ite some _ _ _).symm

theorem join_eq_none {pass : String} (may : ¬ MayJoin channel player pass) :
    channel.join player pass = none := by
  unfold Channel.join
  unfold MayJoin at may
  by_cases isOn : channel.isOn player
  · rw [if_pos isOn]
  · simp_all

theorem added_keyed (kept : Kept channel) (player guid : Nat) (info : PlayerInfo)
    (found : (added channel player).players.find guid = some info) : info.player = guid := by
  rw [find_added] at found
  by_cases here : guid = player
  · grind
  · rw [if_neg here] at found
    exact kept.keyed guid info found

theorem join_joined {pass : String} (kept : Kept channel) (isPlayer : player ≠ 0)
    (proper : ¬ Stale channel) (may : MayJoin channel player pass) :
    ∃ after, channel.join player pass = some after ∧ Joined channel player after := by
  refine ⟨_, join_eq may, ?_⟩
  have noZero : ¬ (added channel player).isOn 0 := by
    rw [isOn_added]
    rintro (zero | zero)
    · exact kept.noZero zero
    · exact isPlayer zero.symm
  have isOnPlayer : (added channel player).isOn player :=
    (isOn_added channel player player).mpr (Or.inr rfl)
  have unbanned : ∀ guid ∈ channel.banned, ¬ (added channel player).isOn guid := by
    intro guid isBanned
    rw [isOn_added]
    rintro (isOn | rfl)
    · exact kept.unbanned guid isBanned isOn
    · exact may.2.1 isBanned
  have noFlag : PlayerInfo.isOwner ⟨player, MEMBER_FLAG_NONE⟩ = false :=
    PlayerInfo.hasFlag_none player
  by_cases first : channel.ownerGUID = 0 ∧ channel.ownership = true
  · rw [if_pos first]
    have empty : channel.players.entries = [] := by
      by_contra someone
      have owned := kept.owned first.2 someone
      rw [first.1] at owned
      exact kept.noZero owned.isOn
    have flags : (added channel player).OwnerFlags := by
      intro other info found isOwner
      rw [find_added] at found
      by_cases here : other = player
      · simp_all
      · rw [if_neg here] at found
        exact absurd empty (isOn_iff.mpr ⟨info, found⟩ : channel.isOn other).entries
    have sameOwner := setOwner_sameMembers isOnPlayer
    have isOnAfter := (sameOwner.isOn player).mpr isOnPlayer
    have same := sameOwner.trans (update_sameMembers isOnAfter
      (fun _ => rfl : ∀ info : PlayerInfo, (info.setModerator true).player = info.player))
    refine ⟨same.name, same.serial, ⟨same.keyed (added_keyed kept player), ?_, ?_, ?_⟩, ?_⟩
    · rwa [same.isOn]
    · intro guid isBanned
      rw [same.banned] at isBanned
      rw [same.isOn]
      exact unbanned guid isBanned
    · intro _ _
      have owned := setOwner_ownedBy isPlayer noZero flags
      rw [show (Channel.update _ player _).ownerGUID = player from ownerGUID_setOwner _ player]
      exact owned.update isOnAfter (fun info => info.isOwner_setModerator true)
        (fun _ info _ => info.isModerator_setModerator true)
    · simp [same.isOn, isOn_added]
  · rw [if_neg first]
    refine ⟨rfl, rfl, ⟨added_keyed kept player, noZero, unbanned, ?_⟩, isOn_added channel player⟩
    intro ownership _
    have someone : channel.players.entries ≠ [] := fun empty =>
      proper ⟨ownership, empty, fun zero => first ⟨zero, ownership⟩⟩
    have owned := kept.owned ownership someone
    have different : channel.ownerGUID ≠ player := fun same => may.1 (same ▸ owned.isOn)
    obtain ⟨info, found, moderator, flags⟩ := owned
    refine ⟨info, (find_added _ _ _).trans ((if_neg different).trans found), moderator, ?_⟩
    intro other otherInfo foundOther
    rw [find_added] at foundOther
    by_cases here : other = player
    · rw [if_pos here] at foundOther
      rw [← Option.some.inj foundOther, noFlag, here]
      exact iff_of_false Bool.false_ne_true (Ne.symm different)
    · rw [if_neg here] at foundOther
      exact flags other otherInfo foundOther

theorem join_stale {pass : String} (stale : Stale channel) (may : MayJoin channel player pass) :
    ∃ after, channel.join player pass = some after ∧ after.ownership = true ∧
      after.isOn player ∧ ¬ after.OwnedBy after.ownerGUID := by
  refine ⟨_, join_eq may, ?_⟩
  rw [if_neg (fun first => stale.2.2 first.1)]
  refine ⟨stale.1, (isOn_added channel player player).mpr (Or.inr rfl), ?_⟩
  rintro ⟨info, found, moderator, _⟩
  rw [find_added] at found
  by_cases here : (added channel player).ownerGUID = player
  · rw [if_pos here] at found
    rw [← Option.some.inj found] at moderator
    exact absurd (moderator.symm.trans (PlayerInfo.hasFlag_none player)) (by decide)
  · rw [if_neg here] at found
    exact (isOn_iff.mpr ⟨info, found⟩ : channel.isOn _).entries stale.2.1

structure Stays (channel after : Channel) : Prop where
  name : after.name = channel.name
  serial : after.serial = channel.serial
  kept : Kept after
  isOn : ∀ guid, after.isOn guid ↔ channel.isOn guid

section

variable (kept : Kept channel)
include kept

theorem Kept.stays : Stays channel channel :=
  ⟨rfl, rfl, kept, fun _ => Iff.rfl⟩

theorem Kept.stays_of_same (same : SameMembers channel after)
    (owned : channel.ownership = true → channel.OwnedBy channel.ownerGUID →
      after.OwnedBy after.ownerGUID) : Stays channel after :=
  ⟨same.name, same.serial, kept.same same owned, same.isOn⟩

theorem unBan_stays :
    Stays channel (channel.unBan player target isGameMaster) := by
  unfold Channel.unBan
  by_cases may : channel.mayModerate player isGameMaster
  · rw [if_neg (not_not_intro may)]
    cases target with
    | none => exact kept.stays
    | some bad =>
      exact ⟨rfl, rfl, ⟨kept.keyed, kept.noZero,
        fun guid isBanned => kept.unbanned guid (Finset.mem_of_mem_erase isBanned), kept.owned⟩,
        fun _ => Iff.rfl⟩
  · rw [if_pos may]
    exact kept.stays

theorem setPassword_stays {pass : String} :
    Stays channel (channel.setPassword player pass isGameMaster) := by
  unfold Channel.setPassword
  by_cases may : channel.mayModerate player isGameMaster
  · rw [if_pos may]
    exact ⟨rfl, rfl, ⟨kept.keyed, kept.noZero, kept.unbanned, kept.owned⟩, fun _ => Iff.rfl⟩
  · rw [if_neg may]
    exact kept.stays

theorem update_stays {change : PlayerInfo → PlayerInfo}
    (isOn : channel.isOn guid) (keepsPlayer : ∀ info, (change info).player = info.player)
    (keepsOwner : ∀ info, (change info).isOwner = info.isOwner)
    (keepsModerator : guid = channel.ownerGUID → ∀ info, info.isModerator = true →
      (change info).isModerator = true) : Stays channel (channel.update guid change) :=
  kept.stays_of_same (update_sameMembers isOn keepsPlayer) fun _ owned =>
    owned.update isOn keepsOwner keepsModerator

theorem setMode_stays {mod set : Bool} :
    Stays channel (channel.setMode player target isGameMaster isAllowed mod set) := by
  unfold Channel.setMode
  by_cases may : channel.mayModerate player isGameMaster
  · rw [if_neg (not_not_intro may)]
    cases target with
    | none => exact kept.stays
    | some other =>
      simp only
      by_cases own : player = channel.ownerGUID ∧ other = channel.ownerGUID ∧ mod = true
      · rw [if_pos own]
        exact kept.stays
      by_cases isOn : channel.isOn other
      · rw [if_neg own, if_neg (not_not_intro isOn)]
        by_cases allowed : isAllowed = false
        · rw [if_pos allowed]
          exact kept.stays
        by_cases isOwner : channel.ownerGUID = other ∧ channel.ownerGUID ≠ player
        · rw [if_neg allowed, if_pos isOwner]
          exact kept.stays
        rw [if_neg allowed, if_neg isOwner]
        by_cases isMod : mod = true
        · have different : other ≠ channel.ownerGUID := by
            grind
          rw [if_pos isMod]
          unfold Channel.setModerator
          by_cases changes : (channel.get other).isModerator ≠ set
          · rw [if_pos changes]
            exact update_stays kept isOn (fun _ => rfl)
              (fun info => info.isOwner_setModerator set) (fun same => absurd same different)
          · rw [if_neg changes]
            exact kept.stays
        · rw [if_neg isMod]
          unfold Channel.setMute
          by_cases changes : (channel.get other).isMuted ≠ set
          · rw [if_pos changes]
            exact update_stays kept isOn (fun _ => rfl) (fun info => info.isOwner_setMuted set)
              (fun _ info moderator => (info.isModerator_setMuted set).trans moderator)
          · rw [if_neg changes]
            exact kept.stays
      · rw [if_neg own, if_pos isOn]
        exact kept.stays
  · rw [if_pos may]
    exact kept.stays

theorem passOwner_stays :
    Stays channel (channel.passOwner player target isGameMaster isAllowed) := by
  unfold Channel.passOwner
  by_cases isOnPlayer : channel.isOn player
  · rw [if_neg (not_not_intro isOnPlayer)]
    by_cases refused : isGameMaster = false ∧ player ≠ channel.ownerGUID
    · rw [if_pos refused]
      exact kept.stays
    · rw [if_neg refused]
      cases target with
      | none => exact kept.stays
      | some other =>
        simp only
        by_cases isOn : channel.isOn other
        · rw [if_neg (not_not_intro isOn)]
          by_cases allowed : isAllowed = false
          · rw [if_pos allowed]
            exact kept.stays
          · rw [if_neg allowed]
            refine kept.stays_of_same (promote_sameMembers isOn) fun _ owned => ?_
            change (promote channel other).OwnedBy (promote channel other).ownerGUID
            rw [ownerGUID_promote]
            exact promote_ownedBy isOn kept.noZero owned.flags
        · rw [if_pos isOn]
          exact kept.stays
  · rw [if_pos isOnPlayer]
    exact kept.stays

end

end Channel

end DarkCore.Channels
