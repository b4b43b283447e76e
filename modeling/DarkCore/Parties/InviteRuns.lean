/-
Every player who is invited to a group is among its invitees, and the other way
round, in every run of the requests; only an invitation of oneself leaves one
side behind.
-/

import DarkCore.Parties.Invites

namespace DarkCore.Parties

open Lib

/-! ### Invitations of the players -/

def invitedTo (players : Nat → Option Player) (guid : Nat) : Option Nat :=
  (players guid).bind Player.groupInvite

section Invited

variable {players : Nat → Option Player} {guid other subGroup : Nat} {party : Party}
  {change : Player → Player}

theorem invitedTo_keep (keeps : ∀ player, (change player).groupInvite = player.groupInvite) :
    invitedTo (changePlayer guid change players) other = invitedTo players other := by
  unfold invitedTo changePlayer
  by_cases same : other = guid
  · subst same
    rw [Function.update_self]
    cases players other with
    | none => rfl
    | some player => exact keeps player
  · rw [Function.update_of_ne same]

theorem invitedTo_set (invite : Option Nat)
    (sets : ∀ player, (change player).groupInvite = invite) :
    invitedTo (changePlayer guid change players) other =
      if other = guid then (players guid).bind fun _ => invite else invitedTo players other := by
  unfold invitedTo changePlayer
  by_cases same : other = guid
  · subst same
    rw [Function.update_self, if_pos rfl]
    cases players other with
    | none => rfl
    | some player => exact sets player
  · rw [Function.update_of_ne same, if_neg same]

theorem invitedTo_clear (clears : ∀ player, (change player).groupInvite = none) :
    invitedTo (changePlayer guid change players) other =
      if other = guid then none else invitedTo players other := by
  rw [invitedTo_set none clears]
  cases players guid <;> rfl

theorem groupInvite_leave (group : Group) (player : Player) :
    (player.leave group).groupInvite = player.groupInvite := by
  unfold Player.leave Player.removeFromBattlegroundRaid
  split
  · rfl
  · split <;> rfl

theorem groupInvite_join (group : Group) (player : Player) :
    (player.join group subGroup).groupInvite = none := by
  unfold Player.join Player.setBattlegroundRaid Player.setOriginalGroup Player.setGroup
  dsimp only
  split
  · split <;> rfl
  · rfl

theorem invitedTo_foldl {guids : List Nat} :
    invitedTo (guids.foldl (fun players guid =>
        changePlayer guid (fun player => { player with groupInvite := none }) players) players)
        other =
      if other ∈ guids then none else invitedTo players other := by
  induction guids generalizing players with
  | nil =>
    rw [List.foldl_nil, if_neg List.not_mem_nil]
  | cons first rest ih =>
    rw [List.foldl_cons, ih, invitedTo_clear fun _ => rfl]
    by_cases inRest : other ∈ rest
    · rw [if_pos inRest, if_pos (List.mem_cons_of_mem first inRest)]
    · simp_all

theorem invitedTo_leaveAll {slots : List MemberSlot} (group : Group) :
    invitedTo (slots.foldl (fun players slot =>
        changePlayer slot.guid (Player.leave group) players) players) other =
      invitedTo players other := by
  induction slots generalizing players with
  | nil => rfl
  | cons first rest ih =>
    rw [List.foldl_cons, ih]
    exact invitedTo_keep (groupInvite_leave group)

theorem invitedTo_removeInvite :
    invitedTo (party.removeInvite guid).players other =
      if other = guid then none else invitedTo party.players other :=
  invitedTo_clear fun _ => rfl

theorem invitedTo_removeAllInvites :
    invitedTo party.removeAllInvites.players other =
      if other ∈ party.group.invitees then none else invitedTo party.players other :=
  invitedTo_foldl

theorem invitedTo_disband :
    invitedTo party.disband.players other =
      if other ∈ party.group.invitees then none else invitedTo party.players other := by
  unfold Party.disband
  rw [invitedTo_removeAllInvites, invitedTo_leaveAll]

theorem invitedTo_addMember (uninvited : invitedTo party.players guid = none) :
    invitedTo (party.addMember guid).1.players other = invitedTo party.players other := by
  have added (subGroup : Nat) : invitedTo (party.addMemberTo guid subGroup).1.players other =
      invitedTo party.players other := by
    unfold Party.addMemberTo
    split
    · rfl
    · split
      · rfl
      · dsimp only
        rw [invitedTo_clear (groupInvite_join party.group)]
        split
        · simp_all
        · rfl
  unfold Party.addMember
  split
  · exact added 0
  · grind

end Invited

/-! ### What members do not change -/

structure Group.Keeps (before after : Group) : Prop where
  this : after.this = before.this
  isBGGroup : after.isBGGroup = before.isBGGroup
  isLFGGroup : before.isLFGGroup = false → after.isLFGGroup = false
  invitees : after.invitees = before.invitees

section Keeps

variable {first second third group : Group} {guid subGroup : Nat} {party : Party}

theorem Group.Keeps.refl : group.Keeps group := ⟨rfl, rfl, id, rfl⟩

theorem Group.Keeps.trans (before : first.Keeps second) (after : second.Keeps third) :
    first.Keeps third where
  this := after.this.trans before.this
  isBGGroup := after.isBGGroup.trans before.isBGGroup
  isLFGGroup plain := after.isLFGGroup (before.isLFGGroup plain)
  invitees := after.invitees.trans before.invitees

theorem keeps_setLeader : group.Keeps (group.setLeader guid) := by
  unfold Group.setLeader
  split <;> exact ⟨rfl, rfl, id, rfl⟩

theorem keeps_replaceLeader : group.Keeps (group.replaceLeader guid) := by
  unfold Group.replaceLeader
  split
  · split
    · exact Group.Keeps.refl
    · exact keeps_setLeader
  · exact Group.Keeps.refl

theorem memberSlots_replaceLeader_length :
    (group.replaceLeader guid).memberSlots.length = group.memberSlots.length := by
  have sameLength {leader : Nat} : (group.setLeader leader).memberSlots.length =
      group.memberSlots.length := by
    unfold Group.setLeader
    split
    · rfl
    · dsimp only
      rw [← List.length_map MemberSlot.guid, guids_modifySlot, List.length_map]
      exact fun _ => rfl
  unfold Group.replaceLeader
  split
  · grind
  · rfl

theorem keeps_removeSlot : group.Keeps (group.removeSlot guid) := by
  unfold Group.removeSlot
  split <;> exact ⟨rfl, rfl, id, rfl⟩

theorem keeps_removeFromSlots : party.group.Keeps (party.removeFromSlots guid).group :=
  keeps_removeSlot.trans keeps_replaceLeader

theorem keeps_addMemberTo : party.group.Keeps (party.addMemberTo guid subGroup).1.group := by
  unfold Party.addMemberTo
  split
  · exact Group.Keeps.refl
  · split
    · exact Group.Keeps.refl
    · exact ⟨rfl, rfl, id, rfl⟩

theorem keeps_addMember : party.group.Keeps (party.addMember guid).1.group := by
  unfold Party.addMember
  split
  · exact keeps_addMemberTo
  · split
    · exact Group.Keeps.refl
    · exact keeps_addMemberTo

theorem keeps_foldl_increase {slots : List MemberSlot} : group.Keeps (slots.foldl
    (fun counted slot => counted.subGroupCounterIncrease slot.group) group) := by
  induction slots generalizing group with
  | nil => exact Group.Keeps.refl
  | cons slot rest ih =>
    have counted : group.Keeps (group.subGroupCounterIncrease slot.group) := ⟨rfl, rfl, id, rfl⟩
    exact counted.trans ih

theorem keeps_init : group.Keeps group.initRaidSubGroupsCounter := by
  have zeros : group.Keeps { group with subGroupsCounts := some fun _ => 0 } := ⟨rfl, rfl, id, rfl⟩
  exact zeros.trans keeps_foldl_increase

theorem keeps_create : party.group.Keeps (party.create guid).group := by
  have typed : party.group.Keeps { party.group with
      leaderGuid := guid, isRaidGroup := party.group.isBGGroup, isLFGGroup := false } :=
    ⟨rfl, rfl, fun _ => rfl, rfl⟩
  unfold Party.create
  dsimp only
  split
  · refine Group.Keeps.trans ?_ keeps_addMember
    exact typed.trans keeps_init
  · refine Group.Keeps.trans ?_ keeps_addMember
    exact typed

theorem invitedTo_create {other : Nat} (uninvited : invitedTo party.players guid = none) :
    invitedTo (party.create guid).players other = invitedTo party.players other := by
  unfold Party.create
  exact invitedTo_addMember uninvited

theorem addMember_slots (listed : party.group.memberSlots ≠ []) :
    (party.addMember guid).1.group.memberSlots ≠ [] := by
  have added (subGroup : Nat) : (party.addMemberTo guid subGroup).1.group.memberSlots ≠ [] := by
    unfold Party.addMemberTo
    split
    · exact listed
    · split
      · exact listed
      · exact List.append_ne_nil_of_right_ne_nil _ (List.cons_ne_nil _ _)
  unfold Party.addMember
  split
  · exact added 0
  · grind

def Group.Open (group : Group) : Prop :=
  ∀ counts, group.subGroupsCounts = some counts → counts 0 = 0

theorem addMember_joined (named : guid ≠ 0) (room : party.group.isFull = false)
    (isOpen : party.group.Open) : (party.addMember guid).1.group.memberSlots ≠ [] := by
  have added (subGroup : Nat) : (party.addMemberTo guid subGroup).1.group.memberSlots ≠ [] := by
    unfold Party.addMemberTo
    rw [room, if_neg Bool.false_ne_true, if_neg named]
    exact List.append_ne_nil_of_right_ne_nil _ (List.cons_ne_nil _ _)
  unfold Party.addMember
  split
  · exact added 0
  · rename_i counts hasCounts
    have first : (List.range maxRaidSubgroups).find?
        (fun subGroup => counts subGroup < maxGroupSize) = some 0 := by
      have zero := isOpen counts hasCounts
      change (0 :: List.map Nat.succ (List.range 7)).find? _ = some 0
      rw [List.find?_cons_of_pos (by rw [zero]; rfl)]
    rw [first]
    exact added 0

theorem create_slots (named : guid ≠ 0) (isBGGroup : party.group.isBGGroup = false)
    (isEmpty : party.group.memberSlots = []) (isOpen : party.group.Open) :
    (party.create guid).group.memberSlots ≠ [] := by
  unfold Party.create
  dsimp only
  rw [isBGGroup, if_neg Bool.false_ne_true]
  refine addMember_joined named ?_ isOpen
  unfold Group.isFull
  rw [if_neg Bool.false_ne_true, isEmpty]
  rfl

end Keeps

/-! ### Who is offline -/

section Offline

variable {players : Nat → Option Player} {guid other : Nat} {party : Party}

theorem changePlayer_none {change : Player → Player} (offline : players other = none) :
    changePlayer guid change players other = none := by
  unfold changePlayer
  by_cases same : other = guid <;> simp_all

theorem foldl_changePlayer_none {α : Type} {items : List α} {key : α → Nat}
    {change : Player → Player} (offline : players other = none) :
    items.foldl (fun players item => changePlayer (key item) change players) players other =
      none := by
  induction items generalizing players with
  | nil => exact offline
  | cons first rest ih => exact ih (changePlayer_none offline)

theorem addMember_none (offline : party.players other = none) :
    (party.addMember guid).1.players other = none := by
  have added (subGroup : Nat) : (party.addMemberTo guid subGroup).1.players other = none := by
    unfold Party.addMemberTo
    split
    · exact offline
    · split
      · exact offline
      · exact changePlayer_none offline
  unfold Party.addMember
  split
  · exact added 0
  · grind

theorem disband_none (offline : party.players other = none) :
    party.disband.players other = none :=
  foldl_changePlayer_none (foldl_changePlayer_none offline)

end Offline

/-! ### Invitations on both sides -/

structure Group.Holder (id : Nat) (group : Group) : Prop where
  this : group.this = id
  isBGGroup : group.isBGGroup = false
  isLFGGroup : group.isLFGGroup = false
  waiting : group.memberSlots = [] →
    group.invitees = [] ∧ group.leaderGuid = 0 ∨ group.leaderGuid ∈ group.invitees ∧ group.Open

namespace World

variable {world : World} {id guid : Nat}

def Mutual (world : World) : Prop :=
  ∀ guid id, invitedTo world.players guid = some id ↔
    ∃ group, world.groups id = some group ∧ guid ∈ group.invitees

structure Settled (world : World) : Prop where
  agreed : world.Mutual
  holders : ∀ id group, world.groups id = some group → group.Holder id
  fresh : ∀ id, world.nextGroup ≤ id → world.groups id = none
  named : world.players 0 = none

theorem start_settled : start.Settled where
  agreed guid id := by
    constructor
    · exact nofun
    · rintro ⟨group, stored, _⟩
      cases stored
  holders _ _ stored := nomatch stored
  fresh _ _ := rfl
  named := rfl

variable {group : Group} {players : Nat → Option Player} {party : Party} {player : Player}

section

variable (settled : world.Settled)
include settled

theorem Settled.known
    (stored : world.groups id = some group) : id < world.nextGroup := by
  by_contra beyond
  rw [settled.fresh id (Nat.le_of_not_lt beyond)] at stored
  cases stored

theorem Settled.put (known : id < world.nextGroup)
    {group : Option Group}
    (holder : ∀ changed, group = some changed → changed.Holder id) (named : players 0 = none)
    (here : ∀ guid, invitedTo players guid = some id ↔
      ∃ changed, group = some changed ∧ guid ∈ changed.invitees)
    (elsewhere : ∀ guid other, other ≠ id →
      (invitedTo players guid = some other ↔ invitedTo world.players guid = some other)) :
    (world.put id group players).Settled where
  agreed guid other := by
    unfold World.put
    dsimp only
    by_cases same : other = id
    · simp_all
    · rw [Function.update_of_ne same, elsewhere guid other same]
      exact settled.agreed guid other
  holders other stored isStored := by
    unfold World.put at isStored
    dsimp only at isStored
    by_cases same : other = id
    · simp_all
    · rw [Function.update_of_ne same] at isStored
      exact settled.holders other stored isStored
  fresh other beyond := by
    unfold World.put at beyond ⊢
    dsimp only at beyond ⊢
    have different : other ≠ id := by omega
    rw [Function.update_of_ne different]
    exact settled.fresh other beyond
  named := named

theorem Settled.putSame {changed : Group}
    (stored : world.groups id = some group)
    (holder : changed.Holder id) (named : players 0 = none)
    (sameInvitees : changed.invitees = group.invitees)
    (same : ∀ guid, invitedTo players guid = invitedTo world.players guid) :
    (world.put id (some changed) players).Settled := by
  refine settled.put (settled.known stored) ?_ named ?_ ?_
  · simp_all
  · intro guid
    rw [same, settled.agreed]
    constructor <;> simp_all
  · simp [same]

theorem Settled.putWithout
    (stored : world.groups id = some group) {changed : Option Group}
    (gone : Nat → Prop) [DecidablePred gone]
    (holder : ∀ other, changed = some other → other.Holder id) (named : players 0 = none)
    (invitees : ∀ guid, (∃ other, changed = some other ∧ guid ∈ other.invitees) ↔
      guid ∈ group.invitees ∧ ¬ gone guid)
    (listed : ∀ guid, gone guid → guid ∈ group.invitees)
    (withdrawn : ∀ guid, invitedTo players guid =
      if gone guid then none else invitedTo world.players guid) :
    (world.put id changed players).Settled := by
  have member (guid : Nat) : invitedTo world.players guid = some id ↔ guid ∈ group.invitees := by
    rw [settled.agreed]
    constructor <;> simp_all
  refine settled.put (settled.known stored) holder named ?_ ?_ <;> grind

end

/-! ### Withdrawn invitations -/

section

variable (settled : world.Settled)
include settled

theorem Settled.invitee
    (stored : world.groups id = some group) :
    invitedTo world.players guid = some id ↔ guid ∈ group.invitees := by
  rw [settled.agreed]
  constructor <;> simp_all

theorem Settled.deleted
    (stored : world.groups id = some group)
    (named : players 0 = none)
    (withdrawn : ∀ guid, invitedTo players guid =
      if guid ∈ group.invitees then none else invitedTo world.players guid) :
    (world.put id none players).Settled := by
  refine settled.putWithout stored (fun guid => guid ∈ group.invitees) nofun named ?_
    (fun _ listed => listed) withdrawn
  intro guid
  exact iff_of_false (fun ⟨_, isChanged, _⟩ => nomatch isChanged) fun both => both.2 both.1

theorem uninviteFromGroup_settled :
    (world.uninviteFromGroup guid).Settled := by
  unfold uninviteFromGroup
  split
  · exact settled
  · rename_i id invited
    split
    · exact settled
    · rename_i group stored
      have listed : guid ∈ group.invitees := (settled.invitee stored).mp invited
      have removedOnly (other : Nat) (isListed : ¬ other ∈ group.invitees) : other ≠ guid :=
        fun same => isListed (same ▸ listed)
      have offline : ((world.party group).removeInvite guid).players 0 = none :=
        changePlayer_none settled.named
      -- Whoever is invited is the one who leaves or is still in the list.
      have cleared (other : Nat) (rest : Option Nat)
          (isRest : rest = if other = guid then none else invitedTo world.players other) :
          (if other ∈ group.invitees.filter (fun invitee => invitee ≠ guid) then none else rest) =
            if other ∈ group.invitees then none else invitedTo world.players other := by
        grind
      dsimp only
      split
      · split
        · refine settled.deleted stored (foldl_changePlayer_none offline) fun other => ?_
          rw [invitedTo_removeAllInvites]
          exact cleared other _ invitedTo_removeInvite
        · refine settled.deleted stored (disband_none offline) fun other => ?_
          rw [invitedTo_disband]
          exact cleared other _ invitedTo_removeInvite
      · rename_i many
        have holder := settled.holders id group stored
        refine settled.putWithout stored (fun other => other = guid) ?_ offline ?_ ?_
          fun other => invitedTo_removeInvite
        · intro other isOther
          cases isOther
          refine ⟨holder.this, holder.isBGGroup, holder.isLFGGroup, fun isEmpty => ?_⟩
          unfold Group.getMembersCount at many
          rw [isEmpty] at many
          exact absurd (Nat.zero_le 1) many
        · intro other
          constructor
          · rintro ⟨changed, isChanged, isInvited⟩
            cases isChanged
            have kept := List.mem_filter.mp isInvited
            exact ⟨kept.1, of_decide_eq_true kept.2⟩
          · intro both
            exact ⟨_, rfl, List.mem_filter.mpr ⟨both.1, decide_eq_true both.2⟩⟩
        · simp_all

theorem removeFromGroup_settled (kicked : Bool) :
    (world.removeFromGroup id guid kicked).Settled := by
  unfold removeFromGroup
  split
  · exact settled
  · rename_i group stored
    have holder := settled.holders id group stored
    unfold Party.removeMember World.party
    rw [holder.isLFGGroup, holder.isBGGroup, Bool.false_and, if_neg Bool.false_ne_true,
      if_neg Bool.false_ne_true]
    by_cases enough : 2 < group.getMembersCount
    · have keeps : (world.party group).group.Keeps
          (Party.removeFromSlots guid (world.party group)).group := keeps_removeFromSlots
      have remain : 2 ≤ (Party.removeFromSlots guid (world.party group)).group.getMembersCount := by
        unfold Group.getMembersCount at enough ⊢
        unfold Party.removeFromSlots
        rw [memberSlots_replaceLeader_length, Group.memberSlots_removeSlot, List.length_eraseP]
        split
        · exact Nat.le_sub_one_of_lt enough
        · exact Nat.le_of_lt enough
      rw [if_pos enough]
      unfold World.party at keeps remain
      rw [if_neg (by omega)]
      refine settled.putSame stored ?_ (changePlayer_none settled.named) keeps.invitees
        fun other => invitedTo_keep (groupInvite_leave group)
      refine ⟨keeps.this.trans holder.this, keeps.isBGGroup.trans holder.isBGGroup,
        keeps.isLFGGroup holder.isLFGGroup, fun isEmpty => ?_⟩
      unfold Group.getMembersCount at remain
      rw [isEmpty] at remain
      exact absurd remain (by decide)
    · have alone :
    (Party.disband { group := group, players := world.players }).group.getMembersCount
          ≤ 1 := Nat.zero_le 1
      rw [if_neg enough, if_pos alone]
      exact settled.deleted stored (disband_none settled.named) fun other => invitedTo_disband

end

/-! ### Accepted invitations -/

theorem online_of_invitedTo {group : Nat}
    (invited : invitedTo players guid = some group) : ∃ player, players guid = some player := by
  unfold invitedTo at invited
  obtain ⟨player, online, _⟩ := Option.bind_eq_some_iff.mp invited
  exact ⟨player, online⟩

theorem welcome_members (members : party.group.memberSlots ≠ []) :
    party.welcome guid = (party.addMember guid).1 := by
  unfold Party.welcome Group.getMembersCount
  dsimp only
  rw [if_neg fun none => members (List.length_eq_zero_iff.mp none)]

theorem welcome_empty (isEmpty : party.group.memberSlots = [])
    (online : (party.players party.group.leaderGuid).isSome = true) :
    party.welcome guid = (((party.removeInvite party.group.leaderGuid).create
      party.group.leaderGuid).addMember guid).1 := by
  unfold Party.welcome
  dsimp only
  rw [if_pos online]
  unfold Group.getMembersCount
  rw [if_pos (by rw [isEmpty]; rfl)]

theorem create_none {leader other : Nat} (offline : party.players other = none) :
    (party.create leader).players other = none := by
  unfold Party.create
  exact addMember_none offline

theorem Settled.accept_empty (settled : world.Settled)
    (stored : world.groups id = some group) (listed : guid ∈ group.invitees)
    (notLeader : group.leaderGuid ≠ guid) (isEmpty : group.memberSlots = []) :
    (world.put id (some (((world.party group).removeInvite guid).welcome guid).group)
      (((world.party group).removeInvite guid).welcome guid).players).Settled := by
  have holder := settled.holders id group stored
  have waiting : group.leaderGuid ∈ group.invitees ∧ group.Open := by
    rcases holder.waiting isEmpty with ⟨noInvitees, _⟩ | waits
    · simp_all
    · exact waits
  obtain ⟨leader, online⟩ := online_of_invitedTo ((settled.invitee stored).mpr waiting.1)
  have named : group.leaderGuid ≠ 0 := by
    intro isZero
    rw [isZero, settled.named] at online
    cases online
  have stillOnline : (((world.party group).removeInvite guid).players
      group.leaderGuid).isSome = true := by
    simp_all [Party.removeInvite, changePlayer, World.party]
  have welcomed : ((world.party group).removeInvite guid).welcome guid =
      (((((world.party group).removeInvite guid).removeInvite group.leaderGuid).create
        group.leaderGuid).addMember guid).1 := welcome_empty isEmpty stillOnline
  rw [welcomed]
  have withoutBoth (other : Nat) : invitedTo (((world.party group).removeInvite guid).removeInvite
      group.leaderGuid).players other =
        if other = guid ∨ other = group.leaderGuid then none
        else invitedTo world.players other := by
    rw [invitedTo_removeInvite, invitedTo_removeInvite]
    by_cases isLeader : other = group.leaderGuid
    · rw [if_pos isLeader, if_pos (Or.inr isLeader)]
    · rw [if_neg isLeader]
      by_cases isGuid : other = guid
      · rw [if_pos isGuid, if_pos (Or.inl isGuid)]
      · rw [if_neg isGuid, if_neg fun either => either.elim isGuid isLeader]
        rfl
  have created (other : Nat) : invitedTo ((((world.party group).removeInvite guid).removeInvite
      group.leaderGuid).create group.leaderGuid).players other =
        if other = guid ∨ other = group.leaderGuid then none
        else invitedTo world.players other := by
    simp [invitedTo_create, withoutBoth]
  have keeps : (((world.party group).removeInvite guid).removeInvite group.leaderGuid).group.Keeps
      (((((world.party group).removeInvite guid).removeInvite group.leaderGuid).create
        group.leaderGuid).addMember guid).1.group := keeps_create.trans keeps_addMember
  refine settled.putWithout stored (fun other => other = guid ∨ other = group.leaderGuid) ?_
    (addMember_none (create_none (changePlayer_none (changePlayer_none settled.named)))) ?_ ?_ ?_
  · intro other isOther
    cases isOther
    exact ⟨keeps.this.trans holder.this, keeps.isBGGroup.trans holder.isBGGroup,
      keeps.isLFGGroup holder.isLFGGroup, fun noMembers => absurd noMembers
        (addMember_slots (create_slots named holder.isBGGroup isEmpty waiting.2))⟩
  · intro other
    constructor
    · rintro ⟨now, isChanged, isInvited⟩
      cases isChanged
      rw [keeps.invitees] at isInvited
      have notLeading := List.mem_filter.mp isInvited
      have notJoining := List.mem_filter.mp notLeading.1
      have isOther : other ≠ guid := by simpa using notJoining.2
      have isMember : other ≠ group.leaderGuid := by simpa using notLeading.2
      exact ⟨notJoining.1, fun either => either.elim isOther isMember⟩
    · rintro ⟨isInvited, neither⟩
      refine ⟨_, rfl, ?_⟩
      rw [keeps.invitees]
      have isOther : other ≠ guid := fun isGuid => neither (Or.inl isGuid)
      have isMember : other ≠ group.leaderGuid := fun isLeader => neither (Or.inr isLeader)
      refine List.mem_filter.mpr ⟨List.mem_filter.mpr ⟨isInvited, ?_⟩, ?_⟩
      · simpa using isOther
      · simpa using isMember
  · simp_all
  · simp [invitedTo_addMember, created]

theorem handleGroupAccept_settled (settled : world.Settled) :
    (world.handleGroupAccept guid).Settled := by
  unfold handleGroupAccept
  split
  · exact settled
  · rename_i id invited
    split
    · exact settled
    · rename_i group stored
      have holder := settled.holders id group stored
      have listed : guid ∈ group.invitees := (settled.invitee stored).mp invited
      have offline : ((world.party group).removeInvite guid).players 0 = none :=
        changePlayer_none settled.named
      split
      · exact settled
      · rename_i notLeader
        -- The invitees who are left
        have left {changed : Group} (gone : Nat → Prop) [DecidablePred gone]
            (isLeft : changed.invitees =
              group.invitees.filter fun other => ¬ gone other) (other : Nat) :
            (∃ now, some changed = some now ∧ other ∈ now.invitees) ↔
              other ∈ group.invitees ∧ ¬ gone other := by
          simp [isLeft, List.mem_filter, decide_eq_true_eq]
        dsimp only
        split
        · rename_i full
          refine settled.putWithout stored (fun other => other = guid) ?_ offline
            (left _ rfl) ?_ fun other => invitedTo_removeInvite
          · intro other isOther
            cases isOther
            refine ⟨holder.this, holder.isBGGroup, holder.isLFGGroup, fun isEmpty => ?_⟩
            unfold Group.isFull at full
            rw [isEmpty] at full
            split at full <;> exact absurd full (by decide)
          · simp_all
        · by_cases isEmpty : group.memberSlots = []
          · exact settled.accept_empty stored listed notLeader isEmpty
          · rw [welcome_members isEmpty]
            have keeps : ((world.party group).removeInvite guid).group.Keeps
                (((world.party group).removeInvite guid).addMember guid).1.group :=
              keeps_addMember
            have uninvited : invitedTo ((world.party group).removeInvite guid).players guid =
                none := by
              rw [invitedTo_removeInvite, if_pos rfl]
            refine settled.putWithout stored (fun other => other = guid) ?_
              (addMember_none offline) (left _ keeps.invitees) ?_ ?_
            · intro other isOther
              cases isOther
              exact ⟨keeps.this.trans holder.this, keeps.isBGGroup.trans holder.isBGGroup,
                keeps.isLFGGroup holder.isLFGGroup,
                fun noMembers => absurd noMembers (addMember_slots isEmpty)⟩
            · simp_all
            · intro other
              rw [invitedTo_addMember uninvited]
              exact invitedTo_removeInvite

/-! ### New invitations -/

theorem invitedTo_insertInvite {other : Nat}
    (online : party.players guid = some player) :
    invitedTo (party.insertInvite guid).players other =
      if other = guid then some party.group.this else invitedTo party.players other := by
  have stillOnline : (party.removeInvite guid).players guid =
      some { player with groupInvite := none } := by
    simp [Party.removeInvite, changePlayer, Function.update_self, online]
  unfold Party.insertInvite
  rw [invitedTo_set (some party.group.this), stillOnline, invitedTo_removeInvite]
  · simp_all
  · exact fun _ => rfl

theorem mem_insertInvite {other : Nat} :
    other ∈ (party.insertInvite guid).group.invitees ↔
      other = guid ∨ other ∈ party.group.invitees := by
  unfold Party.insertInvite Party.removeInvite
  rw [List.mem_cons, List.mem_filter, decide_eq_true_eq]
  by_cases same : other = guid
  · exact iff_of_true (Or.inl same) (Or.inl same)
  · exact or_congr_right (and_iff_left same)

theorem Settled.putWith (settled : world.Settled) (known : id < world.nextGroup)
    (invited : Nat → Prop) [DecidablePred invited]
    (holder : group.Holder id) (named : players 0 = none)
    (invitees : ∀ guid, guid ∈ group.invitees ↔
      invited guid ∨ invitedTo world.players guid = some id)
    (uninvited : ∀ guid, invited guid → invitedTo world.players guid = none)
    (added : ∀ guid, invitedTo players guid =
      if invited guid then some id else invitedTo world.players guid) :
    (world.put id (some group) players).Settled := by
  refine settled.put known ?_ named ?_ ?_
  · simp_all
  · intro guid
    have listed : (∃ other, some group = some other ∧ guid ∈ other.invitees) ↔
        guid ∈ group.invitees := by
      simp
    rw [added, listed, invitees]
    by_cases isInvited : invited guid <;> simp_all
  · grind

theorem addInvite_settled (settled : world.Settled)
    (stored : world.groups id = some group)
    (led : group.memberSlots = [] → group.leaderGuid ≠ 0) :
    (world.addInvite id guid).1.Settled := by
  have holder := settled.holders id group stored
  unfold addInvite
  rw [stored]
  split
  · rename_i player other online isOther
    cases isOther
    split
    · exact settled
    · rename_i notInvited
      split
      · exact settled
      · have uninvited : invitedTo world.players guid = none := by
          simp_all [invitedTo]
        have this_eq : (world.party group).group.this = id := holder.this
        refine settled.putWith (settled.known stored) (fun other => other = guid) ?_
          (changePlayer_none (changePlayer_none settled.named)) ?_ ?_ ?_
        · refine ⟨holder.this, holder.isBGGroup, holder.isLFGGroup, fun isEmpty => ?_⟩
          rcases holder.waiting isEmpty with ⟨_, noLeader⟩ | waits
          · exact absurd noLeader (led isEmpty)
          · exact Or.inr ⟨mem_insertInvite.mpr (Or.inr waits.1), waits.2⟩
        · intro other
          rw [mem_insertInvite, settled.invitee stored]
          exact Iff.rfl
        · simp_all
        · intro other
          rw [invitedTo_insertInvite online, this_eq]
          rfl
  · exact settled

theorem addInvite_refused (world : World) {invite : Nat}
    (online : world.players guid = some player) (isInvited : player.groupInvite = some invite) :
    world.addInvite id guid = (world, false) := by
  unfold addInvite
  rw [online]
  split
  · simp_all
  · rfl

theorem addInvite_done (world : World)
    (online : world.players guid = some player) (stored : world.groups id = some group)
    (uninvited : player.groupInvite = none) (alone : player.group.target = none) :
    world.addInvite id guid = (world.put id (some ((world.party group).insertInvite guid).group)
      ((world.party group).insertInvite guid).players, true) := by
  have noGroup : world.normalGroup player = none := by
    grind [normalGroup]
  unfold addInvite
  rw [online, stored]
  dsimp only
  rw [uninvited, noGroup, if_neg nofun, if_neg nofun]

theorem Settled.alone (settled : world.Settled)
    (noGroup : world.normalGroup player = none) : player.group.target = none := by
  unfold normalGroup at noGroup
  split at noGroup
  · assumption
  · split at noGroup
    · cases noGroup
    · rename_i group stored
      rw [(settled.holders _ group stored).isBGGroup, if_neg Bool.false_ne_true] at noGroup
      cases noGroup

theorem Settled.grown (settled : world.Settled) :
    Settled { world with nextGroup := world.nextGroup + 1 } where
  agreed := settled.agreed
  holders := settled.holders
  fresh id beyond := settled.fresh id (Nat.le_of_succ_le beyond)
  named := settled.named

section NewGroup

variable {inviter invited : Nat} {sender player : Player}

def ledParty (world : World) (inviter : Nat) : Party :=
  Party.insertInvite inviter
    { group := { this := world.nextGroup }, players := world.players }

section

variable (online : world.players inviter = some sender)
include online

theorem newGroup_refused {invite : Nat}
    (isInvited : sender.groupInvite = some invite) :
    world.inviteToNewGroup inviter invited =
      World.put world.nextGroup none world.players
        { world with nextGroup := world.nextGroup + 1 } := by
  have refused : world.newGroup.addInvite world.nextGroup inviter = (world.newGroup, false) :=
    addInvite_refused world.newGroup online isInvited
  unfold inviteToNewGroup addLeaderInvite
  dsimp only
  rw [refused]
  rw [if_neg Bool.false_ne_true, if_neg Bool.false_ne_true]
  unfold deleteGroup newGroup put
  rw [Function.update_idem]

theorem addLeaderInvite_done
    (uninvited : sender.groupInvite = none) (alone : sender.group.target = none) :
    world.newGroup.addLeaderInvite world.nextGroup inviter =
      (World.put world.nextGroup
        (some { (world.ledParty inviter).group with leaderGuid := inviter })
        (world.ledParty inviter).players
        { world with nextGroup := world.nextGroup + 1 }, true) := by
  have stored : world.newGroup.groups world.nextGroup = some { this := world.nextGroup } :=
    Function.update_self _ _ _
  unfold addLeaderInvite
  rw [addInvite_done world.newGroup online stored uninvited alone]
  dsimp only
  rw [if_pos rfl]
  unfold put newGroup ledParty World.party
  dsimp only
  rw [Function.update_self, Option.map_some, Function.update_idem, Function.update_idem]

theorem ledParty_self :
    (world.ledParty inviter).players inviter =
      some { sender with groupInvite := some world.nextGroup } := by
  unfold ledParty Party.insertInvite Party.removeInvite changePlayer
  dsimp only
  rw [Function.update_self, Function.update_self, online]
  rfl

end

theorem ledParty_other (different : invited ≠ inviter) :
    (world.ledParty inviter).players invited = world.players invited := by
  unfold ledParty Party.insertInvite Party.removeInvite changePlayer
  dsimp only
  rw [Function.update_of_ne different, Function.update_of_ne different]

theorem newGroup_self (online : world.players inviter = some sender)
    (uninvited : sender.groupInvite = none) (alone : sender.group.target = none) :
    world.inviteToNewGroup inviter inviter =
      World.put world.nextGroup none (world.ledParty inviter).players
        { world with nextGroup := world.nextGroup + 1 } := by
  unfold inviteToNewGroup
  dsimp only
  rw [addLeaderInvite_done online uninvited alone]
  rw [if_pos rfl, addInvite_refused _ (ledParty_self online) rfl]
  rw [if_neg Bool.false_ne_true]
  unfold deleteGroup put
  rw [Function.update_idem]

theorem newGroup_done (online : world.players inviter = some sender)
    (uninvited : sender.groupInvite = none) (alone : sender.group.target = none)
    (otherOnline : world.players invited = some player) (otherUninvited : player.groupInvite = none)
    (otherAlone : player.group.target = none) (different : invited ≠ inviter) :
    world.inviteToNewGroup inviter invited =
      World.put world.nextGroup
        (some (Party.insertInvite invited
          { group := { (world.ledParty inviter).group with leaderGuid := inviter }
            players := (world.ledParty inviter).players }).group)
        (Party.insertInvite invited
          { group := { (world.ledParty inviter).group with leaderGuid := inviter }
            players := (world.ledParty inviter).players }).players
        { world with nextGroup := world.nextGroup + 1 } := by
  have stillOnline : (world.ledParty inviter).players invited = some player :=
    (ledParty_other different).trans otherOnline
  have stored : (World.put world.nextGroup
      (some { (world.ledParty inviter).group with leaderGuid := inviter })
      (world.ledParty inviter).players
      { world with nextGroup := world.nextGroup + 1 }).groups world.nextGroup =
        some { (world.ledParty inviter).group with leaderGuid := inviter } :=
    Function.update_self _ _ _
  unfold inviteToNewGroup
  dsimp only
  rw [addLeaderInvite_done online uninvited alone]
  rw [if_pos rfl, addInvite_done _ stillOnline stored otherUninvited otherAlone]
  rw [if_pos rfl]
  unfold put World.party
  rw [Function.update_idem]

theorem Settled.put_refused (settled : world.Settled) :
    (World.put world.nextGroup none world.players
      { world with nextGroup := world.nextGroup + 1 }).Settled := by
  refine settled.grown.put (Nat.lt_succ_self _) nofun settled.named ?_ fun _ _ _ => Iff.rfl
  intro guid
  refine iff_of_false ?_ fun ⟨_, isNone, _⟩ => nomatch isNone
  intro invited
  obtain ⟨group, stored, _⟩ := (settled.agreed guid world.nextGroup).mp invited
  rw [settled.fresh _ (Nat.le_refl _)] at stored
  cases stored

theorem inviteToNewGroup_settled (settled : world.Settled)
    (online : world.players inviter = some sender) (noGroup : world.normalGroup sender = none)
    (otherOnline : world.players invited = some player) (otherUninvited : player.groupInvite = none)
    (otherNoGroup : world.normalGroup player = none)
    (different : sender.groupInvite = none → invited ≠ inviter) :
    (world.inviteToNewGroup inviter invited).Settled := by
  cases isInvited : sender.groupInvite with
  | some invite =>
    rw [newGroup_refused online isInvited]
    exact settled.put_refused
  | none =>
    have apart := different isInvited
    have alone := settled.alone noGroup
    have unknown (guid : Nat) : invitedTo world.players guid ≠ some world.nextGroup := by
      intro known
      obtain ⟨group, stored, _⟩ := (settled.agreed guid world.nextGroup).mp known
      rw [settled.fresh _ (Nat.le_refl _)] at stored
      cases stored
    have uninvited {guid : Nat} {one : Player} (isOnline : world.players guid = some one)
        (noInvite : one.groupInvite = none) : invitedTo world.players guid = none := by
      simp_all [invitedTo]
    have stillOnline : (world.ledParty inviter).players invited = some player :=
      (ledParty_other apart).trans otherOnline
    rw [newGroup_done online isInvited alone otherOnline otherUninvited
      (settled.alone otherNoGroup) apart]
    refine settled.grown.putWith (Nat.lt_succ_self _)
      (fun guid => guid = invited ∨ guid = inviter) ?_ ?_ ?_ ?_ ?_
    · refine ⟨rfl, rfl, rfl, fun _ => Or.inr ⟨?_, nofun⟩⟩
      exact mem_insertInvite.mpr (Or.inr (mem_insertInvite.mpr (Or.inl rfl)))
    · exact changePlayer_none (changePlayer_none
        (changePlayer_none (changePlayer_none settled.named)))
    · intro guid
      rw [mem_insertInvite, or_iff_left (unknown guid)]
      refine or_congr_right (mem_insertInvite.trans (or_iff_left ?_))
      exact List.not_mem_nil
    · simp_all
    · intro guid
      have led : invitedTo (world.ledParty inviter).players guid =
          if guid = inviter then some world.nextGroup else invitedTo world.players guid :=
        invitedTo_insertInvite online
      refine (invitedTo_insertInvite stillOnline).trans ?_
      rw [led]
      by_cases isPlayer : guid = invited
      · rw [if_pos isPlayer, if_pos (Or.inl isPlayer)]
        rfl
      · simp_all

end NewGroup

/-! ### Requests -/

def SelfInvite (world : World) : Request → Prop
  | .invite inviter invited allowed =>
    invited = inviter ∧ allowed = true ∧ ∃ player, world.players inviter = some player ∧
      player.groupInvite = none ∧ world.normalGroup player = none
  | _ => False

section

variable (settled : world.Settled)
include settled

theorem handleGroupInvite_settled {inviter invited : Nat} {allowed : Bool}
    (notSelf : ¬ world.SelfInvite (.invite inviter invited allowed)) :
    (world.handleGroupInvite inviter invited allowed).Settled := by
  unfold handleGroupInvite
  split
  · rename_i sender player online otherOnline
    split
    · exact settled
    · rename_i isAllowed
      split
      · exact settled
      · rename_i free
        rw [Bool.or_eq_true, not_or, Bool.not_eq_true, Bool.not_eq_true,
          Option.isSome_eq_false_iff, Option.isNone_iff_eq_none, Option.isSome_eq_false_iff,
          Option.isNone_iff_eq_none] at free
        split
        · rename_i noGroup
          refine inviteToNewGroup_settled settled online noGroup otherOnline free.2 free.1 ?_
          intro uninvited same
          exact notSelf ⟨same, by simpa using isAllowed, sender, online, uninvited, noGroup⟩
        · split
          · exact settled
          · rename_i id _ group stored
            split
            · exact settled
            · rename_i entitled
              split
              · exact settled
              · refine addInvite_settled settled stored fun isEmpty => ?_
                -- A group without members has no assistants.
                have noAssistant : group.isAssistant inviter = false := by
                  simp [Group.isAssistant, Group.getMemberSlot, isEmpty]
                rw [noAssistant, Bool.not_false, Bool.and_true, Bool.not_eq_true,
                  Bool.not_eq_false'] at entitled
                have leads : group.leaderGuid = inviter := of_decide_eq_true entitled
                rw [leads]
                intro isZero
                rw [isZero, settled.named] at online
                cases online
  · exact settled

theorem handleGroupUninvite_settled {sender : Nat} {byName inBattleground canBoot : Bool} :
    (world.handleGroupUninvite sender guid byName inBattleground canBoot).Settled := by
  unfold handleGroupUninvite
  split
  · exact settled
  · split
    · exact settled
    · split
      · exact settled
      · rename_i group _
        dsimp only
        generalize (if group.isLFGGroup then canBoot
          else (group.isLeader sender || group.isAssistant sender) && !inBattleground) = permitted
        split
        · exact settled
        · split
          · exact settled
          · split
            · exact removeFromGroup_settled settled true
            · split
              · exact uninviteFromGroup_settled settled
              · exact settled

theorem handleGroupDisband_settled {inBattleground : Bool} :
    (world.handleGroupDisband guid inBattleground).Settled := by
  unfold handleGroupDisband
  split
  · exact settled
  · split
    · exact settled
    · exact removeFromGroup_settled settled false

theorem handleDisbandCommand_settled :
    (world.handleDisbandCommand guid).Settled := by
  unfold handleDisbandCommand
  split
  · exact settled
  · rename_i id _
    split
    · exact settled
    · rename_i group stored
      have holder := settled.holders id group stored
      refine settled.putWithout stored (fun other => other ∈ group.invitees) ?_
        (disband_none settled.named) ?_ (fun _ listed => listed) fun other => invitedTo_disband
      · intro other isOther
        cases isOther
        exact ⟨holder.this, holder.isBGGroup, holder.isLFGGroup, fun _ => Or.inl ⟨rfl, rfl⟩⟩
      · intro other
        refine iff_of_false ?_ fun both => both.2 both.1
        rintro ⟨now, isChanged, isInvited⟩
        cases isChanged
        cases isInvited

end

theorem convertToRaid_members {group : Group} :
    group.convertToRaid.memberSlots = group.memberSlots ∧
      group.convertToRaid.leaderGuid = group.leaderGuid := by
  have counted {slots : List MemberSlot} {start : Group} :
      (slots.foldl (fun counted slot => counted.subGroupCounterIncrease slot.group)
        start).memberSlots = start.memberSlots ∧
      (slots.foldl (fun counted slot => counted.subGroupCounterIncrease slot.group)
        start).leaderGuid = start.leaderGuid := by
    induction slots generalizing start with
    | nil => exact ⟨rfl, rfl⟩
    | cons first rest ih => exact ih
  exact counted

theorem open_convertToRaid {group : Group} (isEmpty : group.memberSlots = []) :
    group.convertToRaid.Open := by
  intro counts hasCounts
  unfold Group.convertToRaid Group.initRaidSubGroupsCounter at hasCounts
  rw [isEmpty, List.foldl_nil] at hasCounts
  cases hasCounts
  rfl

theorem convertToRaid_settled (settled : world.Settled) : (world.convertToRaid id).Settled := by
  unfold convertToRaid
  cases stored : world.groups id with
  | none =>
    rw [Option.map_none, ← stored, Function.update_eq_self]
    exact settled
  | some group =>
    rw [Option.map_some]
    have holder := settled.holders id group stored
    have typed : group.Keeps { group with isRaidGroup := true } :=
      ⟨rfl, rfl, fun plain => plain, rfl⟩
    have keeps : group.Keeps group.convertToRaid := typed.trans keeps_init
    refine settled.putSame stored ?_ settled.named keeps.invitees fun _ => rfl
    refine ⟨keeps.this.trans holder.this, keeps.isBGGroup.trans holder.isBGGroup,
      keeps.isLFGGroup holder.isLFGGroup, fun noMembers => ?_⟩
    rw [convertToRaid_members.1] at noMembers
    rw [keeps.invitees, convertToRaid_members.2]
    exact (holder.waiting noMembers).imp_right
      fun waits => ⟨waits.1, open_convertToRaid noMembers⟩

/-! ### Players who come and go -/

theorem Settled.samePlayers (settled : world.Settled) {players : Nat → Option Player}
    (named : players 0 = none)
    (same : ∀ guid, invitedTo players guid = invitedTo world.players guid) :
    Settled { world with players := players } where
  agreed guid id := by
    rw [same]
    exact settled.agreed guid id
  holders := settled.holders
  fresh := settled.fresh
  named := named

theorem login_settled {reference : GroupReference} (settled : world.Settled) :
    (world.login guid reference).Settled := by
  unfold login
  split
  · exact settled
  · rename_i offline
    split
    · exact settled
    · rename_i named
      refine settled.samePlayers ?_ fun other => ?_
      · rw [Function.update_of_ne (Ne.symm named)]
        exact settled.named
      · grind [invitedTo]

theorem uninviteFromGroup_uninvited (settled : world.Settled) :
    invitedTo (world.uninviteFromGroup guid).players guid = none := by
  unfold uninviteFromGroup
  split
  · rename_i uninvited
    exact uninvited
  · rename_i id invited
    split
    · rename_i unknown
      obtain ⟨group, stored, _⟩ := (settled.agreed guid id).mp invited
      rw [unknown] at stored
      cases stored
    · rename_i group _
      have removed : invitedTo ((world.party group).removeInvite guid).players guid = none := by
        rw [invitedTo_removeInvite, if_pos rfl]
      dsimp only
      split
      · split
        · refine invitedTo_removeAllInvites.trans ?_
          rw [removed, ite_self]
        · refine invitedTo_disband.trans ?_
          rw [removed, ite_self]
      · exact removed

theorem removeFromGroup_uninvited {kicked : Bool} {other : Nat}
    (uninvited : invitedTo world.players other = none) :
    invitedTo (world.removeFromGroup id guid kicked).players other = none := by
  have removed (group : Group) :
      invitedTo ((world.party group).removeMember guid kicked).players other = none := by
    unfold Party.removeMember
    generalize (if (world.party group).group.isBGGroup then 1 else 2) = bound
    split
    · exact uninvited
    · split
      · exact (invitedTo_keep (groupInvite_leave _)).trans uninvited
      · refine invitedTo_disband.trans ?_
        split
        · rfl
        · exact uninvited
  unfold removeFromGroup
  split
  · exact uninvited
  · rename_i group _
    dsimp only
    split <;> exact removed group

theorem logout_settled {connected : Bool} (settled : world.Settled) :
    (world.logout guid connected).Settled := by
  have gone {left : World} (leftSettled : left.Settled)
      (uninvited : invitedTo left.players guid = none) :
      Settled { left with players := Function.update left.players guid none } := by
    refine leftSettled.samePlayers ?_ fun other => ?_
    · by_cases isZero : 0 = guid
      · rw [isZero, Function.update_self]
      · rw [Function.update_of_ne isZero]
        exact leftSettled.named
    · by_cases same : other = guid
      · grind [invitedTo]
      · simp_all [invitedTo]
  have withdrawn : (world.uninviteFromGroup guid).Settled := uninviteFromGroup_settled settled
  have uninvited : invitedTo (world.uninviteFromGroup guid).players guid = none :=
    uninviteFromGroup_uninvited settled
  unfold logout
  dsimp only
  split
  · exact gone withdrawn uninvited
  · split
    · exact gone withdrawn uninvited
    · split
      · exact gone (removeFromGroup_settled withdrawn false) (removeFromGroup_uninvited uninvited)
      · exact gone withdrawn uninvited

/-! ### Runs -/

theorem next_settled {request : Request} (settled : world.Settled)
    (notSelf : ¬ world.SelfInvite request) : (world.next request).Settled := by
  cases request with
  | invite inviter invited allowed => exact handleGroupInvite_settled settled notSelf
  | accept guid => exact handleGroupAccept_settled settled
  | decline guid => exact uninviteFromGroup_settled settled
  | uninvite sender guid byName inBattleground canBoot => exact handleGroupUninvite_settled settled
  | leave guid inBattleground => exact handleGroupDisband_settled settled
  | disband guid => exact handleDisbandCommand_settled settled
  | convertToRaid id => exact convertToRaid_settled settled
  | login guid reference => exact login_settled settled
  | logout guid connected => exact logout_settled settled

theorem next_selfInvite {request : Request} (settled : world.Settled)
    (isSelf : world.SelfInvite request) : ¬ (world.next request).Mutual := by
  cases request with
  | invite inviter invited allowed =>
    obtain ⟨same, isAllowed, player, online, uninvited, noGroup⟩ := isSelf
    subst same
    have requested : world.next (.invite invited invited allowed) =
        World.put world.nextGroup none (world.ledParty invited).players
          { world with nextGroup := world.nextGroup + 1 } := by
      unfold next handleGroupInvite
      dsimp only
      rw [online]
      dsimp only
      rw [isAllowed, uninvited, noGroup, if_neg nofun, if_neg nofun]
      exact newGroup_self online uninvited (settled.alone noGroup)
    intro agreed
    have refers : invitedTo (world.next (.invite invited invited allowed)).players invited =
        some world.nextGroup := by
      rw [requested]
      unfold invitedTo put
      dsimp only
      rw [ledParty_self online]
      rfl
    obtain ⟨group, stored, _⟩ := (agreed invited world.nextGroup).mp refers
    rw [requested] at stored
    unfold put at stored
    dsimp only at stored
    rw [Function.update_self] at stored
    cases stored
  | _ => exact absurd isSelf id

theorem Settled.run (settled : world.Settled) {requests : List Request} :
    Always next Mutual world requests ↔
      Along next (fun before request => ¬ before.SelfInvite request) world requests := by
  induction requests generalizing world with
  | nil => exact iff_of_true settled.agreed trivial
  | cons request rest ih =>
    constructor
    · rintro ⟨_, later⟩
      have notSelf : ¬ world.SelfInvite request := fun isSelf =>
        next_selfInvite settled isSelf later.first
      exact ⟨notSelf, (ih (next_settled settled notSelf)).mp later⟩
    · rintro ⟨notSelf, later⟩
      exact ⟨settled.agreed, (ih (next_settled settled notSelf)).mpr later⟩

/-- In all states of a run the invitations of the players and of the groups agree if and only if
nobody without a group and without an invitation invites himself. -/
theorem invitations_mutual (requests : List Request) :
    Always next Mutual start requests ↔
      Along next (fun world request => ¬ world.SelfInvite request) start requests :=
  start_settled.run

/-- The player keeps his invitation to a group that was deleted. -/
theorem invited_oneself : ¬ Always next Mutual start [.login 1 {}, .invite 1 1 true] := by
  intro agreed
  have invited : invitedTo ((start.next (.login 1 {})).next (.invite 1 1 true)).players 1 =
      some 0 := by decide
  have deleted : ((start.next (.login 1 {})).next (.invite 1 1 true)).groups 0 = none := by rfl
  obtain ⟨group, stored, _⟩ := (agreed.last 1 0).mp invited
  rw [List.foldl_cons, List.foldl_cons, List.foldl_nil, deleted] at stored
  cases stored

end World

end DarkCore.Parties
