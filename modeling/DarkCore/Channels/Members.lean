/-
One channel by itself: who is on it after each operation, and which member has the
owner's flag.
-/

import DarkCore.Channels.Channel

namespace DarkCore.Channels

open DarkCore.Lib

namespace PlayerInfo

variable (info : PlayerInfo) (state : Bool) {flag other : BitVec 8}

theorem hasFlag_setFlag_self (isFlag : flag ≠ 0#8) :
    (info.setFlag state flag).hasFlag flag = state := by
  unfold hasFlag setFlag
  cases state with
  | false =>
    have cleared : info.flags &&& ~~~flag &&& flag = 0 := by
      grind
    simp [cleared]
  | true =>
    have set : (info.flags ||| flag) &&& flag = flag := by
      grind
    simp [set, isFlag]

theorem hasFlag_setFlag (apart : flag &&& other = 0#8) :
    (info.setFlag state flag).hasFlag other = info.hasFlag other := by
  unfold hasFlag setFlag
  congr 1
  cases state with
  | false =>
    ext index bound
    have bit := congrArg (fun flags => flags[index]) apart
    simp only [BitVec.getElem_and, BitVec.getElem_zero] at bit
    simp only [Bool.false_eq_true, if_false, BitVec.getElem_and, BitVec.getElem_not]
    cases here : flag[index]
    · simp
    · simp_all
  | true =>
    simp [if_true, BitVec.and_or_distrib_right, apart, BitVec.or_zero]

theorem hasFlag_none (player : Nat) :
    (⟨player, MEMBER_FLAG_NONE⟩ : PlayerInfo).hasFlag flag = false := by
  simp [hasFlag, MEMBER_FLAG_NONE]

@[simp] theorem isOwner_setOwner : (info.setOwner state).isOwner = state :=
  info.hasFlag_setFlag_self state (by decide)

@[simp] theorem isModerator_setOwner : (info.setOwner state).isModerator = info.isModerator :=
  info.hasFlag_setFlag state (by decide)

@[simp] theorem isOwner_setModerator : (info.setModerator state).isOwner = info.isOwner :=
  info.hasFlag_setFlag state (by decide)

@[simp] theorem isModerator_setModerator : (info.setModerator state).isModerator = state :=
  info.hasFlag_setFlag_self state (by decide)

@[simp] theorem isOwner_setMuted : (info.setMuted state).isOwner = info.isOwner :=
  info.hasFlag_setFlag state (by decide)

@[simp] theorem isModerator_setMuted : (info.setMuted state).isModerator = info.isModerator :=
  info.hasFlag_setFlag state (by decide)

end PlayerInfo

/-- Two states of a channel that differ in flags, owner and password only -/
structure SameMembers (channel after : Channel) : Prop where
  name : after.name = channel.name
  serial : after.serial = channel.serial
  ownership : after.ownership = channel.ownership
  banned : after.banned = channel.banned
  players : ∀ guid, (after.players.find guid).map PlayerInfo.player =
    (channel.players.find guid).map PlayerInfo.player

section Same

variable {channel after last : Channel} {guid other : Nat} {change : PlayerInfo → PlayerInfo}

theorem SameMembers.refl (channel : Channel) : SameMembers channel channel :=
  ⟨rfl, rfl, rfl, rfl, fun _ => rfl⟩

theorem SameMembers.trans (first : SameMembers channel after) (second : SameMembers after last) :
    SameMembers channel last where
  name := second.name.trans first.name
  serial := second.serial.trans first.serial
  ownership := second.ownership.trans first.ownership
  banned := second.banned.trans first.banned
  players guid := (second.players guid).trans (first.players guid)

theorem SameMembers.isOn (same : SameMembers channel after) (guid : Nat) :
    after.isOn guid ↔ channel.isOn guid := by
  have isSome := congrArg Option.isSome (same.players guid)
  rw [Option.isSome_map, Option.isSome_map] at isSome
  unfold Channel.isOn
  rw [isSome]

theorem isOn_iff : channel.isOn guid ↔ ∃ info, channel.players.find guid = some info := by
  unfold Channel.isOn
  exact Option.isSome_iff_exists

theorem get_eq {info : PlayerInfo} (found : channel.players.find guid = some info) :
    channel.get guid = info := by
  unfold Channel.get
  rw [found, Option.getD_some]

theorem find_update (channel : Channel) (guid other : Nat) (change : PlayerInfo → PlayerInfo) :
    (channel.update guid change).players.find other =
      if other = guid then some (change (channel.get guid)) else channel.players.find other := by
  unfold Channel.update
  rw [OrdMap.find_assign, Function.update_apply]

theorem update_sameMembers (isOn : channel.isOn guid)
    (samePlayer : ∀ info, (change info).player = info.player) :
    SameMembers channel (channel.update guid change) := by
  refine ⟨rfl, rfl, rfl, rfl, fun other => ?_⟩
  rw [find_update]
  by_cases here : other = guid
  · obtain ⟨info, found⟩ := isOn_iff.mp isOn
    rw [if_pos here, here, found, get_eq found, Option.map_some, Option.map_some, samePlayer]
  · rw [if_neg here]

theorem setOwner_sameMembers (isOn : channel.isOn guid) :
    SameMembers channel (channel.setOwner guid) := by
  unfold Channel.setOwner
  generalize isCleared : (if channel.ownerGUID ≠ 0 ∧ channel.isOn channel.ownerGUID then
    channel.update channel.ownerGUID (·.setOwner false) else channel) = cleared
  have same : SameMembers channel cleared := by
    subst isCleared
    by_cases owned : channel.ownerGUID ≠ 0 ∧ channel.isOn channel.ownerGUID
    · rw [if_pos owned]
      exact update_sameMembers owned.2 fun _ => rfl
    · rw [if_neg owned]
      exact SameMembers.refl channel
  have sameNew : SameMembers channel { cleared with ownerGUID := guid } :=
    ⟨same.name, same.serial, same.ownership, same.banned, same.players⟩
  by_cases isGuid : guid ≠ 0
  · simp only [if_pos isGuid]
    have raised : SameMembers { cleared with ownerGUID := guid }
        (Channel.update { cleared with ownerGUID := guid } guid (·.setModerator true)) :=
      update_sameMembers ((sameNew.isOn guid).mpr isOn) fun _ => rfl
    have first := sameNew.trans raised
    exact first.trans (update_sameMembers ((first.isOn guid).mpr isOn) fun _ => rfl)
  · simp_all

end Same

def Channel.OwnedBy (channel : Channel) (owner : Nat) : Prop :=
  ∃ info, channel.players.find owner = some info ∧ info.isModerator = true ∧
    ∀ guid other, channel.players.find guid = some other → (other.isOwner = true ↔ guid = owner)

def Channel.OwnerFlags (channel : Channel) : Prop :=
  ∀ guid info, channel.players.find guid = some info → info.isOwner = true →
    guid = channel.ownerGUID

section Owner

variable {channel : Channel} {guid owner : Nat} {change : PlayerInfo → PlayerInfo}

theorem Channel.OwnedBy.isOn (owned : channel.OwnedBy owner) : channel.isOn owner := by
  obtain ⟨info, found, _⟩ := owned
  exact isOn_iff.mpr ⟨info, found⟩

theorem Channel.OwnedBy.flags (owned : channel.OwnedBy channel.ownerGUID) :
    channel.OwnerFlags := by
  obtain ⟨_, _, _, flags⟩ := owned
  exact fun guid info found isOwner => (flags guid info found).mp isOwner

theorem Channel.OwnedBy.update (owned : channel.OwnedBy owner) (isOn : channel.isOn guid)
    (keepsOwner : ∀ info, (change info).isOwner = info.isOwner)
    (keepsModerator : guid = owner → ∀ info, info.isModerator = true →
      (change info).isModerator = true) : (channel.update guid change).OwnedBy owner := by
  obtain ⟨info, found, moderator, flags⟩ := owned
  obtain ⟨before, foundBefore⟩ := isOn_iff.mp isOn
  refine ⟨if owner = guid then change before else info, ?_, ?_, ?_⟩
  · rw [find_update, get_eq foundBefore]
    by_cases here : owner = guid <;> simp [here, found]
  · grind
  · intro other otherInfo foundOther
    rw [find_update, get_eq foundBefore] at foundOther
    by_cases here : other = guid <;> grind

theorem setOwner_ownedBy (isGuid : guid ≠ 0) (noZero : ¬ channel.isOn 0)
    (ownerFlags : channel.OwnerFlags) : (channel.setOwner guid).OwnedBy guid := by
  unfold Channel.setOwner
  generalize isCleared : (if channel.ownerGUID ≠ 0 ∧ channel.isOn channel.ownerGUID then
    channel.update channel.ownerGUID (·.setOwner false) else channel) = cleared
  have noFlags (other : Nat) (info : PlayerInfo) (found : cleared.players.find other = some info) :
      info.isOwner = false := by
    subst isCleared
    by_cases owned : channel.ownerGUID ≠ 0 ∧ channel.isOn channel.ownerGUID
    · rw [if_pos owned, find_update] at found
      by_cases here : other = channel.ownerGUID
      · grind [PlayerInfo.isOwner_setOwner]
      · rw [if_neg here] at found
        exact Bool.eq_false_iff.mpr fun flag => here (ownerFlags other info found flag)
    · rw [if_neg owned] at found
      refine Bool.eq_false_iff.mpr fun flag => owned ?_
      have isOnOther := isOn_iff.mpr ⟨info, found⟩
      rw [ownerFlags other info found flag] at isOnOther
      exact ⟨fun zero => noZero (zero ▸ isOnOther), isOnOther⟩
  simp only [if_pos isGuid]
  generalize isRaised : ({ cleared with ownerGUID := guid } : Channel).update guid
    (·.setModerator true) = raised
  have self := (find_update raised guid guid (·.setOwner true)).trans (if_pos rfl)
  refine ⟨_, self, ?_, ?_⟩
  · subst isRaised
    rw [PlayerInfo.isModerator_setOwner, get_eq ((find_update _ guid guid _).trans (if_pos rfl)),
      PlayerInfo.isModerator_setModerator]
  · intro other info found
    rw [find_update] at found
    by_cases here : other = guid
    · grind [PlayerInfo.isOwner_setOwner]
    · rw [if_neg here, ← isRaised, find_update, if_neg here] at found
      rw [noFlags other info found]
      exact iff_of_false Bool.false_ne_true here

theorem ownerGUID_setOwner (channel : Channel) (guid : Nat) :
    (channel.setOwner guid).ownerGUID = guid := by
  unfold Channel.setOwner
  by_cases isGuid : guid ≠ 0
  · simp only [if_pos isGuid]
    rfl
  · simp only [if_neg isGuid]

theorem serial_setOwner (channel : Channel) (guid : Nat) :
    (channel.setOwner guid).serial = channel.serial := by
  unfold Channel.setOwner
  split_ifs <;> rfl

theorem isOn_setOwner (channel : Channel) (isGuid : guid ≠ 0) :
    (channel.setOwner guid).isOn guid := by
  unfold Channel.setOwner
  simp only [if_pos isGuid]
  exact isOn_iff.mpr ⟨_, (find_update _ guid guid _).trans (if_pos rfl)⟩

end Owner

end DarkCore.Channels
