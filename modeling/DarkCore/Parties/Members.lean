/-
Runs of a group: its members come, go and are moved while the players around it
log in and out and enter battlegrounds. The slots, the counters and the players'
references stay in step until the group is disbanded.
-/

import DarkCore.Lib.Runs
import DarkCore.Parties.Subgroups

namespace DarkCore.Parties

open Lib

/-! ### Runs -/

/-- What happens to a group. The last five leave it alone: a player who is not a member has other
references, a player enters a battleground raid that is not this group (`SetBattlegroundRaid`,
from no such raid), is moved in it, leaves it (`RemoveFromBattlegroundRaid`), or his original group
changes. -/
inductive Action where
  | addMember (guid : Nat)
  | removeMember (guid : Nat) (kicked : Bool)
  | changeLeader (guid : Nat)
  | changeSubGroup (sender moved groupNr : Nat) (inCombat : Bool)
  | setAssistant (guid : Nat) (apply : Bool)
  | convertToRaid
  | convertToGroup
  | convertToLFG
  | disband
  | login (guid : Nat) (elsewhere : GroupReference)
  | logout (guid : Nat)
  | stranger (guid : Nat) (player : Player)
  | enterBattleground (guid raid subGroup : Nat)
  | moveInBattleground (guid subGroup : Nat)
  | leaveBattleground (guid : Nat)
  | changeOriginal (guid : Nat) (reference : GroupReference)

/-- The references of a player who logs in (`_LoadGroup`, and `SetBattlegroundRaid` for the raid of
the battleground he comes back to) -/
def Player.load (group : Group) (guid : Nat) (elsewhere : GroupReference) : Player :=
  if group.isMember guid then
    if group.isBGGroup then
      setBattlegroundRaid group.this (group.getMemberGroup guid) { group := elsewhere }
    else setGroup group.this (group.getMemberGroup guid) {}
  else { group := elsewhere }

namespace Party

def elsewhere (guid : Nat) (allowed : Player → Prop) [DecidablePred allowed]
    (change : Player → Player) (party : Party) : Party :=
  match party.players guid with
  | none => party
  | some player =>
    if allowed player then
      { party with players := Function.update party.players guid (some (change player)) }
    else party

def next (party : Party) : Action → Party
  | .addMember guid => (party.addMember guid).1
  | .removeMember guid kicked => party.removeMember guid kicked
  | .changeLeader guid => party.changeLeader guid
  | .changeSubGroup sender moved groupNr inCombat =>
    party.handleGroupChangeSubGroup sender moved groupNr inCombat
  | .setAssistant guid apply => { party with group := party.group.setAssistant guid apply }
  | .convertToRaid => { party with group := party.group.convertToRaid }
  | .convertToGroup => { party with group := party.group.convertToGroup }
  | .convertToLFG => { party with group := party.group.convertToLFG }
  | .disband => party.disband
  | .login guid elsewhere =>
    if elsewhere.target = some party.group.this then party
    else
      { party with
        players := Function.update party.players guid
          (some (Player.load party.group guid elsewhere)) }
  | .logout guid => { party with players := Function.update party.players guid none }
  | .stranger guid player =>
    party.elsewhere guid
      (fun _ => party.group.isMember guid = false ∧ player.group.target ≠ some party.group.this ∧
        player.originalGroup.target ≠ some party.group.this) fun _ => player
  | .enterBattleground guid raid subGroup =>
    party.elsewhere guid
      (fun player => party.group.isBGGroup = false ∧ raid ≠ party.group.this ∧
        player.originalGroup.target = none) (Player.setBattlegroundRaid raid subGroup)
  | .moveInBattleground guid subGroup =>
    party.elsewhere guid (fun player => player.group.target ≠ some party.group.this)
      fun player => { player with group := { player.group with subGroup := subGroup } }
  | .leaveBattleground guid =>
    party.elsewhere guid (fun player => player.group.target ≠ some party.group.this)
      Player.removeFromBattlegroundRaid
  | .changeOriginal guid reference =>
    party.elsewhere guid
      (fun player => player.originalGroup.target ≠ some party.group.this ∧
        reference.target ≠ some party.group.this)
      fun player => { player with originalGroup := reference }

def created (this leader : Nat) (isBGGroup : Bool) (players : Nat → Option Player) : Party :=
  create leader { group := { this := this, isBGGroup := isBGGroup }, players := players }

/-! ### The group as a whole -/

structure Orderly (party : Party) : Prop where
  distinct : (party.group.memberSlots.map MemberSlot.guid).Nodup
  size : party.group.memberSlots.length ≤
    if party.group.isRaidGroup then maxRaidSize else maxGroupSize
  leader : party.group.memberSlots ≠ [] →
    party.group.leaderGuid ∈ party.group.memberSlots.map MemberSlot.guid

def Counted (party : Party) : Prop :=
  party.group.isRaidGroup = true → ∀ subGroup < maxRaidSubgroups,
    party.group.subGroupsCounts.map (fun counts => counts subGroup) =
        some (tally party.group.memberSlots subGroup) ∧
      tally party.group.memberSlots subGroup ≤ maxGroupSize

def Sound (party : Party) : Prop :=
  party.Orderly ∧ (party.group.memberSlots ≠ [] → party.Counted)

end Party

/-! ### References -/

def Group.kind (group : Group) : Nat × Bool := (group.this, group.isBGGroup)

def Group.subGroupOf (guid : Nat) (group : Group) : Option Nat :=
  (group.getMemberSlot guid).map MemberSlot.group

def Group.Unlinked (group : Group) (player : Player) : Prop :=
  player.group.target ≠ some group.this ∧ player.originalGroup.target ≠ some group.this

def Group.Links (group : Group) (subGroup : Nat) (player : Player) : Prop :=
  player.group = ⟨some group.this, subGroup⟩ ∧ player.originalGroup.target ≠ some group.this ∨
    group.isBGGroup = false ∧ player.group.target ≠ some group.this ∧
      player.originalGroup = ⟨some group.this, subGroup⟩

def Group.Linked (group : Group) (guid : Nat) (player : Player) : Prop :=
  match group.subGroupOf guid with
  | none => group.Unlinked player
  | some subGroup => group.Links subGroup player

section References

variable {group : Group} {player : Player} {guid other subGroup : Nat}

theorem subGroupOf_none : group.subGroupOf guid = none ↔ group.isMember guid = false := by
  unfold Group.subGroupOf Group.isMember
  rw [Option.map_eq_none_iff, Option.isSome_eq_false_iff, Option.isNone_iff_eq_none]

theorem getMemberGroup_eq (inGroup : group.subGroupOf guid = some subGroup) :
    group.getMemberGroup guid = subGroup := by
  unfold Group.subGroupOf at inGroup
  unfold Group.getMemberGroup
  obtain ⟨slot, found, isGroup⟩ := Option.map_eq_some_iff.mp inGroup
  rw [found]
  exact isGroup

theorem linked_congr {changed : Group} (sameKind : changed.kind = group.kind)
    (samePlace : changed.subGroupOf guid = group.subGroupOf guid) :
    changed.Linked guid player ↔ group.Linked guid player := by
  have sameThis : changed.this = group.this := congrArg Prod.fst sameKind
  have sameBG : changed.isBGGroup = group.isBGGroup := congrArg Prod.snd sameKind
  unfold Group.Linked Group.Links Group.Unlinked
  rw [samePlace, sameThis, sameBG]

theorem linked_none (missing : group.subGroupOf guid = none) :
    group.Linked guid player ↔ group.Unlinked player := by
  unfold Group.Linked
  rw [missing]

theorem linked_some (inGroup : group.subGroupOf guid = some subGroup) :
    group.Linked guid player ↔ group.Links subGroup player := by
  unfold Group.Linked
  rw [inGroup]

theorem join_links (unlinked : group.Unlinked player) :
    group.Links subGroup (player.join group subGroup) := by
  unfold Player.join
  dsimp only
  split
  · split
    · refine Or.inl ⟨rfl, ?_⟩
      unfold Player.setBattlegroundRaid
      dsimp only
      split
      · exact nofun
      · rename_i original isOriginal
        exact isOriginal ▸ unlinked.1
    · rename_i notBG
      exact Or.inr ⟨Bool.not_eq_true _ ▸ notBG, unlinked.1, rfl⟩
  · exact Or.inl ⟨rfl, unlinked.2⟩

theorem leave_unlinked (linked : group.Linked guid player) :
    group.Unlinked (player.leave group) := by
  have cases : group.Unlinked player ∨ ∃ subGroup, group.Links subGroup player := by
    grind [Group.Linked]
  unfold Player.leave
  split
  · rename_i isBG
    have original : player.originalGroup.target ≠ some group.this := by
      rcases cases with unlinked | ⟨subGroup, direct | ⟨notBG, _⟩⟩
      · exact unlinked.2
      · exact direct.2
      · simp_all
    refine ⟨?_, (Option.some_ne_none _).symm⟩
    unfold Player.removeFromBattlegroundRaid
    split
    · exact (Option.some_ne_none _).symm
    · simp_all
  · split
    · rename_i isOriginal
      refine ⟨?_, (Option.some_ne_none _).symm⟩
      rcases cases with unlinked | ⟨subGroup, direct | ⟨_, notGroup, _⟩⟩
      · exact unlinked.1
      · exact absurd isOriginal direct.2
      · exact notGroup
    · rename_i notOriginal
      exact ⟨(Option.some_ne_none _).symm, notOriginal⟩

theorem load_linked {elsewhere : GroupReference} (other : elsewhere.target ≠ some group.this) :
    group.Linked guid (Player.load group guid elsewhere) := by
  unfold Player.load
  cases isSub : group.subGroupOf guid with
  | none =>
    rw [if_neg (by rw [subGroupOf_none.mp isSub]; exact Bool.false_ne_true), linked_none isSub]
    exact ⟨other, nofun⟩
  | some subGroup =>
    have isMember : group.isMember guid = true := by
      rw [← Bool.not_eq_false, ← subGroupOf_none, isSub]
      exact nofun
    rw [if_pos isMember, linked_some isSub, getMemberGroup_eq isSub]
    split
    · refine Or.inl ⟨rfl, ?_⟩
      unfold Player.setBattlegroundRaid
      split
      · exact nofun
      · simp_all
    · exact Or.inl ⟨rfl, nofun⟩

/-! ### Subgroups after a change -/

theorem subGroupOf_addSlot (new : group.isMember guid = false) :
    (group.addSlot guid subGroup).subGroupOf other =
      if other = guid then some subGroup else group.subGroupOf other := by
  unfold Group.subGroupOf Group.getMemberSlot Group.addSlot Group.subGroupCounterIncrease
  rw [List.find?_append]
  by_cases same : other = guid
  · subst same
    have missing := subGroupOf_none.mpr new
    unfold Group.subGroupOf Group.getMemberSlot at missing
    rw [Option.map_eq_none_iff] at missing
    rw [if_pos rfl, missing, Option.none_or, List.find?_cons_of_pos (by simp)]
    rfl
  · grind

theorem subGroupOf_removeSlot (formed : group.Formed) :
    (group.removeSlot guid).subGroupOf other =
      if other = guid then none else group.subGroupOf other := by
  unfold Group.subGroupOf Group.getMemberSlot
  rw [Group.memberSlots_removeSlot, find?_eraseP formed.distinct]
  split <;> rfl

theorem subGroupOf_modifySlot {change : MemberSlot → MemberSlot} {leader : Nat}
    (keepsGuid : ∀ slot, (change slot).guid = slot.guid)
    (keepsGroup : ∀ slot, (change slot).group = slot.group) :
    Group.subGroupOf other
        { group with
          leaderGuid := leader
          memberSlots := modifySlot guid change group.memberSlots } =
      group.subGroupOf other := by
  unfold Group.subGroupOf Group.getMemberSlot
  rw [find?_modifySlot keepsGuid]
  split
  · rw [Option.map_map]
    congr 1
    funext slot
    exact keepsGroup slot
  · rfl

theorem subGroupOf_setLeader :
    (group.setLeader guid).subGroupOf other = group.subGroupOf other := by
  unfold Group.setLeader
  split
  · rfl
  · refine subGroupOf_modifySlot ?_ ?_ <;> exact fun _ => rfl

theorem subGroupOf_replaceLeader :
    (group.replaceLeader guid).subGroupOf other = group.subGroupOf other := by
  unfold Group.replaceLeader
  split
  · split
    · rfl
    · exact subGroupOf_setLeader
  · rfl

theorem setMembersGroup_of_subGroupOf {slot : MemberSlot}
    (found : group.getMemberSlot guid = some slot) :
    group.setMembersGroup guid subGroup = some (Group.subGroupCounterIncrease subGroup { group with
        memberSlots := modifySlot guid (fun slot => { slot with group := subGroup })
          group.memberSlots }) := by
  unfold Group.setMembersGroup Group.isMember
  rw [found]
  rfl

theorem subGroupOf_moved {slot : MemberSlot} {moving : Group} {previous : Nat}
    (found : group.getMemberSlot guid = some slot)
    (moves : group.setMembersGroup guid subGroup = some moving) :
    (moving.subGroupCounterDecrease previous).subGroupOf other =
      if other = guid then some subGroup else group.subGroupOf other := by
  rw [setMembersGroup_of_subGroupOf found] at moves
  cases moves
  unfold Group.subGroupOf Group.getMemberSlot Group.subGroupCounterDecrease
    Group.subGroupCounterIncrease
  rw [find?_modifySlot]
  · by_cases same : other = guid
    · simp_all [Group.getMemberSlot]
    · rw [if_neg same, if_neg same]
  · exact fun _ => rfl

end References

/-! ### Leaders -/

namespace Group

variable {group : Group} {guid other : Nat}

theorem kind_setLeader : (group.setLeader guid).kind = group.kind := by
  unfold Group.setLeader
  split <;> rfl

theorem kind_replaceLeader : (group.replaceLeader guid).kind = group.kind := by
  unfold Group.replaceLeader
  split
  · split
    · rfl
    · exact kind_setLeader
  · rfl

theorem kind_removeSlot : (group.removeSlot guid).kind = group.kind := by
  unfold Group.removeSlot
  split <;> rfl

def Led (group : Group) : Prop := group.leaderGuid ∈ group.memberSlots.map MemberSlot.guid

theorem setLeader_led (isMember : group.isMember guid = true) : (group.setLeader guid).Led := by
  unfold Group.setLeader
  split
  · simp_all [Group.isMember]
  · rename_i slot found
    unfold Led
    rw [guids_modifySlot]
    · exact List.mem_map_of_mem (List.mem_of_find?_eq_some found)
    · exact fun _ => rfl

theorem Led.setLeader (led : group.Led) : (group.setLeader guid).Led := by
  cases listed : group.isMember guid with
  | false =>
    have missing : group.getMemberSlot guid = none := by
      simp_all [isMember]
    unfold Group.setLeader
    rw [missing]
    exact led
  | true => exact setLeader_led listed

theorem Led.addSlot (led : group.Led) (subGroup : Nat) : (group.addSlot guid subGroup).Led := by
  unfold Led Group.addSlot subGroupCounterIncrease
  rw [List.map_append]
  exact List.mem_append.mpr (Or.inl led)

theorem removeSlot_leaderGuid : (group.removeSlot guid).leaderGuid = group.leaderGuid := by
  unfold Group.removeSlot
  split <;> rfl

theorem Led.replaceLeader (led : group.Led) (formed : group.Formed)
    (remains : (group.removeSlot guid).memberSlots ≠ []) :
    ((group.removeSlot guid).replaceLeader guid).Led := by
  unfold Group.replaceLeader
  rw [removeSlot_leaderGuid]
  split
  · split
    · simp_all
    · rename_i first rest isFirst
      apply setLeader_led
      rw [isMember_iff, isFirst]
      exact List.mem_map_of_mem List.mem_cons_self
  · grind [Led, removeSlot_leaderGuid, memberSlots_removeSlot]

end Group

/-! ### What is kept -/

namespace Party

structure Kept (party : Party) : Prop where
  formed : party.group.Formed
  led : party.group.Led
  linked : ∀ guid player, party.players guid = some player → party.group.Linked guid player

def Holds (party : Party) : Prop := party.group.memberSlots = [] ∨ party.Kept

variable {party : Party} {guid subGroup : Nat}

theorem Kept.sound (kept : party.Kept) : party.Sound := by
  refine ⟨⟨kept.formed.distinct, kept.formed.size, fun _ => kept.led⟩, fun _ isRaid subGroup _ => ?_⟩
  refine ⟨?_, kept.formed.small subGroup⟩
  rw [kept.formed.counted, if_pos isRaid]
  rfl

theorem Holds.sound (holds : party.Holds) : party.Sound := by
  rcases holds with isEmpty | kept
  · refine ⟨⟨?_, ?_, fun isNonempty => absurd isEmpty isNonempty⟩,
      fun isNonempty => absurd isEmpty isNonempty⟩
    · simp [isEmpty]
    · simp [isEmpty]
  · exact kept.sound

variable {group : Group} {change : Player → Player}

section

variable (kept : party.Kept)
include kept

theorem Kept.of_group (formed : group.Formed) (led : group.Led)
    (sameKind : group.kind = party.group.kind)
    (samePlaces : ∀ guid, group.subGroupOf guid = party.group.subGroupOf guid) :
    Kept { party with group := group } where
  formed := formed
  led := led
  linked guid player online :=
    (linked_congr sameKind (samePlaces guid)).mpr (kept.linked guid player online)

theorem Kept.of_place {players : Nat → Option Player}
    (formed : group.Formed) (led : group.Led) (sameKind : group.kind = party.group.kind)
    (places : ∀ other, other ≠ guid → group.subGroupOf other = party.group.subGroupOf other)
    (others : ∀ other, other ≠ guid → players other = party.players other)
    (linked : ∀ player, players guid = some player → group.Linked guid player) :
    Kept { group := group, players := players } where
  formed := formed
  led := led
  linked other player online := by
    by_cases same : other = guid
    · simp_all
    · refine (linked_congr sameKind (places other same)).mpr (kept.linked other player ?_)
      rw [← others other same]
      exact online

theorem Kept.of_player {player : Option Player}
    (linked : ∀ changed, player = some changed → party.group.Linked guid changed) :
    Kept { party with players := Function.update party.players guid player } := by
  refine kept.of_place kept.formed kept.led rfl (fun _ _ => rfl)
    (fun other different => Function.update_of_ne different _ _) fun changed online => ?_
  rw [Function.update_self] at online
  exact linked changed online

theorem Kept.elsewhere {allowed : Player → Prop} [DecidablePred allowed]
    (linked : ∀ player, party.group.Linked guid player → allowed player →
      party.group.Linked guid (change player)) :
    (party.elsewhere guid allowed change).Kept := by
  unfold Party.elsewhere
  split
  · exact kept
  · rename_i player online
    split
    · rename_i isAllowed
      refine kept.of_player fun changed isChanged => ?_
      rw [← Option.some.inj isChanged]
      exact linked player (kept.linked guid player online) isAllowed
    · exact kept

theorem Kept.of_member
    (formed : group.Formed) (led : group.Led) (sameKind : group.kind = party.group.kind)
    (places : ∀ other, other ≠ guid → group.subGroupOf other = party.group.subGroupOf other)
    (linked : ∀ player, party.players guid = some player → party.group.Linked guid player →
      group.Linked guid (change player)) :
    Kept { group := group, players := changePlayer guid change party.players } := by
  refine kept.of_place formed led sameKind places
    (fun other different => Function.update_of_ne different _ _) fun changed online => ?_
  unfold changePlayer at online
  rw [Function.update_self] at online
  obtain ⟨before, wasOnline, isChanged⟩ := Option.map_eq_some_iff.mp online
  rw [← isChanged]
  exact linked before wasOnline (kept.linked guid before wasOnline)

end

/-! ### Steps -/

theorem Kept.addMemberTo (kept : party.Kept) (new : party.group.isMember guid = false)
    (inRange : subGroup < maxRaidSubgroups)
    (free : party.group.isFull = false → tally party.group.memberSlots subGroup < maxGroupSize) :
    (party.addMemberTo guid subGroup).1.Kept := by
  unfold Party.addMemberTo
  split
  · exact kept
  · rename_i notFull
    have room := Bool.not_eq_true _ ▸ notFull
    split
    · exact kept
    · refine kept.of_member (kept.formed.addSlot room new inRange (free room))
        (kept.led.addSlot subGroup) rfl
        (fun other different => (subGroupOf_addSlot new).trans (if_neg different)) ?_
      intro player _ linked
      rw [linked_none (subGroupOf_none.mpr new)] at linked
      have links : party.group.Links subGroup (player.join party.group subGroup) :=
        join_links linked
      have place : (party.group.addSlot guid subGroup).subGroupOf guid = some subGroup :=
        (subGroupOf_addSlot new).trans (if_pos rfl)
      rw [linked_some place]
      exact links

theorem Kept.addMember (kept : party.Kept) (new : party.group.isMember guid = false) :
    (party.addMember guid).1.Kept := by
  unfold Party.addMember
  have counted := kept.formed.counted
  split
  · rename_i noCounts
    rw [noCounts] at counted
    refine kept.addMemberTo new (by decide) fun room => ?_
    have isParty : ¬ party.group.isRaidGroup = true := fun isRaid => by
      simp_all
    unfold Group.isFull at room
    rw [if_neg isParty, decide_eq_false_iff_not] at room
    exact Nat.lt_of_le_of_lt tally_le_length (Nat.lt_of_not_le room)
  · rename_i counts hasCounts
    split
    · exact kept
    · rename_i subGroup found
      have inRange := List.mem_range.mp (List.mem_of_find?_eq_some found)
      have free : counts subGroup < maxGroupSize := by
        have holds := List.find?_some found
        exact of_decide_eq_true holds
      refine kept.addMemberTo new inRange fun _ => ?_
      rw [hasCounts] at counted
      split at counted
      · simp_all
      · cases counted

theorem Kept.removeFromSlots (kept : party.Kept)
    (remains : (party.group.removeSlot guid).memberSlots ≠ []) :
    (party.removeFromSlots guid).Kept := by
  have sameKind : ((party.group.removeSlot guid).replaceLeader guid).kind = party.group.kind :=
    Group.kind_replaceLeader.trans Group.kind_removeSlot
  have places (other : Nat) : ((party.group.removeSlot guid).replaceLeader guid).subGroupOf other =
      if other = guid then none else party.group.subGroupOf other := by
    rw [subGroupOf_replaceLeader, subGroupOf_removeSlot kept.formed]
  refine kept.of_member kept.formed.removeSlot.replaceLeader
    (kept.led.replaceLeader kept.formed remains) sameKind
    (fun other different => (places other).trans (if_neg different)) ?_
  intro player _ linked
  rw [linked_none (by rw [places, if_pos rfl])]
  have unlinked := leave_unlinked linked
  have sameThis : ((party.group.removeSlot guid).replaceLeader guid).this = party.group.this :=
    congrArg Prod.fst sameKind
  unfold Group.Unlinked at unlinked ⊢
  rw [sameThis]
  exact unlinked

theorem disband_memberSlots : party.disband.group.memberSlots = [] := rfl

section

variable (kept : party.Kept)
include kept

theorem Kept.removeMember (kicked : Bool) :
    (party.removeMember guid kicked).Holds := by
  unfold Party.removeMember
  by_cases voted : (party.group.isLFGGroup && kicked) = true
  · rw [if_pos voted]
    exact Or.inr kept
  · rw [if_neg voted]
    by_cases enough : (if party.group.isBGGroup then 1 else 2) < party.group.getMembersCount
    · rw [if_pos enough]
      refine Or.inr (kept.removeFromSlots fun isEmpty => ?_)
      have length := congrArg List.length isEmpty
      rw [Group.memberSlots_removeSlot, List.length_eraseP, List.length_nil] at length
      unfold Group.getMembersCount at enough
      split at enough <;> split at length <;> omega
    · rw [if_neg enough]
      exact Or.inl disband_memberSlots

theorem Kept.changeLeader : (party.changeLeader guid).Kept :=
  kept.of_group kept.formed.setLeader kept.led.setLeader Group.kind_setLeader
    fun _ => subGroupOf_setLeader

theorem Kept.moves (subGroup : Nat) {slot : MemberSlot}
    (found : party.group.getMemberSlot guid = some slot) :
    ∃ moving, party.group.setMembersGroup guid subGroup = some moving ∧
      (moving.subGroupCounterDecrease slot.group).Led ∧
      (moving.subGroupCounterDecrease slot.group).kind = party.group.kind := by
  refine ⟨_, setMembersGroup_of_subGroupOf found, ?_, rfl⟩
  have led := kept.led
  unfold Group.Led at led ⊢
  unfold Group.subGroupCounterDecrease Group.subGroupCounterIncrease
  rw [guids_modifySlot]
  · exact led
  · exact fun _ => rfl

theorem Kept.changeMembersGroup (inRange : subGroup < maxRaidSubgroups)
    (free : tally party.group.memberSlots subGroup < maxGroupSize) :
    (party.changeMembersGroup guid subGroup).Kept := by
  unfold Party.changeMembersGroup Party.changePlayersGroup
  split
  · cases found : party.group.getMemberSlot guid with
    | none =>
      have stays : party.group.setMembersGroup guid subGroup = none := by
        simp [Group.setMembersGroup, Group.isMember, found]
      rw [stays]
      split
      · split <;> exact kept
      · split <;> exact kept
    | some slot =>
      have place : party.group.subGroupOf guid = some slot.group := by
        simp [Group.subGroupOf, found]
      obtain ⟨moving, moves, led, sameKind⟩ := kept.moves subGroup found
      have formed := kept.formed.moved found inRange free moves
      have places (other : Nat) (different : other ≠ guid) :
          (moving.subGroupCounterDecrease slot.group).subGroupOf other =
            party.group.subGroupOf other :=
        (subGroupOf_moved found moves).trans (if_neg different)
      have here : (moving.subGroupCounterDecrease slot.group).subGroupOf guid = some subGroup :=
        (subGroupOf_moved found moves).trans (if_pos rfl)
      have sameThis : (moving.subGroupCounterDecrease slot.group).this = party.group.this :=
        congrArg Prod.fst sameKind
      have sameBG : (moving.subGroupCounterDecrease slot.group).isBGGroup =
          party.group.isBGGroup := congrArg Prod.snd sameKind
      rw [getMemberGroup_eq place, moves]
      split
      · rename_i offline
        split
        · exact kept
        · refine kept.of_place formed led sameKind places (fun _ _ => rfl) ?_
          intro player online
          rw [offline] at online
          cases online
      · rename_i player online
        split
        · exact kept
        · have linked := kept.linked guid player online
          rw [linked_some place] at linked
          dsimp only
          split
          · rename_i isGroup
            rcases linked with ⟨direct, notOriginal⟩ | ⟨_, notGroup, _⟩
            · rw [direct]
              refine kept.of_member formed led sameKind places fun other isOnline _ => ?_
              cases online.symm.trans isOnline
              rw [linked_some here]
              unfold Group.Links
              rw [sameThis, direct]
              exact Or.inl ⟨rfl, notOriginal⟩
            · exact absurd isGroup notGroup
          · rename_i notGroup
            rcases linked with ⟨direct, _⟩ | ⟨notBG, _, original⟩
            · exact absurd (congrArg GroupReference.target direct) notGroup
            · rw [original]
              refine kept.of_member formed led sameKind places fun other isOnline _ => ?_
              cases online.symm.trans isOnline
              rw [linked_some here]
              unfold Group.Links
              rw [sameThis, sameBG, original]
              exact Or.inr ⟨notBG, notGroup, rfl⟩
  · exact kept

theorem Kept.handleGroupChangeSubGroup (sender moved groupNr : Nat)
    (inCombat : Bool) :
    (party.handleGroupChangeSubGroup sender moved groupNr inCombat).Kept := by
  unfold Party.handleGroupChangeSubGroup
  by_cases outside : maxRaidSubgroups ≤ groupNr
  · simp_all
  · rw [if_neg outside]
    split
    · exact kept
    · split
      · exact kept
      · rename_i hasFreeSlot
        split
        · exact kept
        · refine kept.changeMembersGroup (Nat.lt_of_not_le outside) ?_
          rw [Bool.not_eq_true, Bool.not_eq_false'] at hasFreeSlot
          have counted := kept.formed.counted
          unfold Group.hasFreeSlotSubGroup at hasFreeSlot
          split at hasFreeSlot
          · cases hasFreeSlot
          · simp_all

theorem Kept.setAssistant (apply : Bool) :
    Kept { party with group := party.group.setAssistant guid apply } := by
  refine kept.of_group (kept.formed.setAssistant apply) ?_ ?_ fun other => ?_
  · unfold Group.setAssistant
    split
    · have led := kept.led
      unfold Group.Led at led ⊢
      rw [guids_modifySlot]
      · exact led
      · exact fun _ => rfl
    · exact kept.led
  · unfold Group.setAssistant
    split <;> rfl
  · unfold Group.setAssistant
    split
    · refine subGroupOf_modifySlot ?_ ?_ <;> exact fun _ => rfl
    · rfl

theorem Kept.convert (formed : group.Formed)
    (sameSlots : group.memberSlots = party.group.memberSlots)
    (sameLeader : group.leaderGuid = party.group.leaderGuid)
    (sameKind : group.kind = party.group.kind) : Kept { party with group := group } := by
  refine kept.of_group formed ?_ sameKind fun other => ?_
  · have led := kept.led
    unfold Group.Led at led ⊢
    rw [sameSlots, sameLeader]
    exact led
  · simp_all [Group.subGroupOf, Group.getMemberSlot]

theorem Kept.convertToRaid :
    Kept { party with group := party.group.convertToRaid } := by
  have counted : party.group.convertToRaid = { party.group with
      isRaidGroup := true, subGroupsCounts := some (tally party.group.memberSlots) } :=
    Group.initRaidSubGroupsCounter_eq { party.group with isRaidGroup := true } kept.formed.small
  refine kept.convert kept.formed.convertToRaid ?_ ?_ ?_
  · rw [counted]
  · rw [counted]
  · rw [counted]
    rfl

theorem Kept.convertToGroup :
    Kept { party with group := party.group.convertToGroup } := by
  refine kept.convert kept.formed.convertToGroup ?_ ?_ ?_
  · grind [Group.convertToGroup]
  · grind [Group.convertToGroup]
  · unfold Group.convertToGroup
    split <;> rfl

theorem Kept.enterBattleground (raid : Nat) :
    (party.next (.enterBattleground guid raid subGroup)).Kept := by
  refine kept.elsewhere fun player linked allowed => ?_
  obtain ⟨notBG, other, noOriginal⟩ := allowed
  cases place : party.group.subGroupOf guid with
  | none =>
    rw [linked_none place] at linked ⊢
    refine ⟨fun same => other (Option.some.inj same), ?_⟩
    unfold Player.setBattlegroundRaid
    split
    · exact nofun
    · rename_i original isOriginal
      exact isOriginal ▸ linked.1
  | some subGroup =>
    rw [linked_some place] at linked ⊢
    rcases linked with ⟨direct, _⟩ | ⟨_, _, original⟩
    · refine Or.inr ⟨notBG, fun same => other (Option.some.inj same), ?_⟩
      unfold Player.setBattlegroundRaid
      rw [direct]
    · simp_all

theorem Kept.leaveBattleground :
    (party.next (.leaveBattleground guid)).Kept := by
  refine kept.elsewhere fun player linked allowed => ?_
  cases place : party.group.subGroupOf guid with
  | none =>
    rw [linked_none place] at linked ⊢
    refine ⟨?_, nofun⟩
    unfold Player.removeFromBattlegroundRaid
    split
    · exact nofun
    · rename_i original isOriginal
      exact isOriginal ▸ linked.2
  | some subGroup =>
    rw [linked_some place] at linked ⊢
    rcases linked with ⟨direct, _⟩ | ⟨_, _, original⟩
    · exact absurd (congrArg GroupReference.target direct) allowed
    · refine Or.inl ⟨?_, nofun⟩
      unfold Player.removeFromBattlegroundRaid
      rw [original]

theorem Kept.moveInBattleground :
    (party.next (.moveInBattleground guid subGroup)).Kept := by
  refine kept.elsewhere fun player linked allowed => ?_
  cases place : party.group.subGroupOf guid with
  | none =>
    rw [linked_none place] at linked ⊢
    exact linked
  | some subGroup =>
    rw [linked_some place] at linked ⊢
    rcases linked with ⟨direct, _⟩ | indirect
    · exact absurd (congrArg GroupReference.target direct) allowed
    · exact Or.inr indirect

theorem Kept.changeOriginal (reference : GroupReference) :
    (party.next (.changeOriginal guid reference)).Kept := by
  refine kept.elsewhere fun player linked allowed => ?_
  cases place : party.group.subGroupOf guid with
  | none =>
    rw [linked_none place] at linked ⊢
    exact ⟨linked.1, allowed.2⟩
  | some subGroup =>
    rw [linked_some place] at linked ⊢
    rcases linked with ⟨direct, _⟩ | ⟨_, _, original⟩
    · exact Or.inl ⟨direct, allowed.2⟩
    · exact absurd (congrArg GroupReference.target original) allowed.1

theorem Kept.stranger (player : Player) :
    (party.next (.stranger guid player)).Kept := by
  refine kept.elsewhere fun _ _ allowed => ?_
  rw [linked_none (subGroupOf_none.mpr allowed.1)]
  exact allowed.2

theorem Kept.login (elsewhere : GroupReference) :
    (party.next (.login guid elsewhere)).Kept := by
  unfold next
  dsimp only
  split
  · exact kept
  · rename_i other
    refine kept.of_player fun changed isChanged => ?_
    rw [← Option.some.inj isChanged]
    exact load_linked other

end

/-! ### Groups without members -/

theorem elsewhere_group {allowed : Player → Prop} [DecidablePred allowed] :
    (party.elsewhere guid allowed change).group = party.group := by
  unfold Party.elsewhere
  split
  · rfl
  · split <;> rfl

theorem getMemberSlot_of_empty (isEmpty : party.group.memberSlots = []) :
    party.group.getMemberSlot guid = none := by
  unfold Group.getMemberSlot
  rw [isEmpty]
  rfl

theorem changeMembersGroup_of_empty (isEmpty : party.group.memberSlots = []) :
    party.changeMembersGroup guid subGroup = party := by
  have stays : party.group.setMembersGroup guid subGroup = none := by
    unfold Group.setMembersGroup Group.isMember
    rw [getMemberSlot_of_empty isEmpty]
    rfl
  unfold Party.changeMembersGroup Party.changePlayersGroup
  rw [stays]
  split
  · grind
  · rfl

/-! ### Runs -/

def Proper (party : Party) (action : Action) : Prop :=
  ∀ guid, action = .addMember guid →
    party.group.memberSlots ≠ [] ∧ party.group.isMember guid = false

theorem empty_next (isEmpty : party.group.memberSlots = []) {action : Action}
    (proper : party.Proper action) : (party.next action).group.memberSlots = [] := by
  cases action with
  | addMember guid => exact absurd isEmpty (proper guid rfl).1
  | removeMember guid kicked =>
    unfold next removeMember Group.getMembersCount
    dsimp only
    split
    · exact isEmpty
    · rw [isEmpty, if_neg (by split <;> decide)]
      rfl
  | changeLeader guid =>
    unfold next changeLeader Group.setLeader
    dsimp only
    rw [getMemberSlot_of_empty isEmpty]
    exact isEmpty
  | changeSubGroup sender moved groupNr inCombat =>
    unfold next handleGroupChangeSubGroup
    dsimp only
    rw [changeMembersGroup_of_empty isEmpty]
    split
    · exact isEmpty
    · simp_all
  | setAssistant guid apply =>
    unfold next Group.setAssistant
    dsimp only
    split
    · dsimp only
      rw [isEmpty]
      rfl
    · exact isEmpty
  | convertToRaid =>
    simp [next, Group.convertToRaid, Group.initRaidSubGroupsCounter, isEmpty]
  | convertToGroup =>
    simp_all [next, Group.convertToGroup]
  | convertToLFG => exact isEmpty
  | disband => rfl
  | login guid elsewhere =>
    grind [next]
  | logout guid => exact isEmpty
  | stranger guid player => exact (congrArg Group.memberSlots elsewhere_group).trans isEmpty
  | enterBattleground guid raid subGroup =>
    exact (congrArg Group.memberSlots elsewhere_group).trans isEmpty
  | moveInBattleground guid subGroup =>
    exact (congrArg Group.memberSlots elsewhere_group).trans isEmpty
  | leaveBattleground guid => exact (congrArg Group.memberSlots elsewhere_group).trans isEmpty
  | changeOriginal guid reference =>
    exact (congrArg Group.memberSlots elsewhere_group).trans isEmpty

theorem Kept.next (kept : party.Kept) {action : Action} (proper : party.Proper action) :
    (party.next action).Holds := by
  cases action with
  | addMember guid => exact Or.inr (kept.addMember (proper guid rfl).2)
  | removeMember guid kicked => exact kept.removeMember kicked
  | changeLeader guid => exact Or.inr kept.changeLeader
  | changeSubGroup sender moved groupNr inCombat =>
    exact Or.inr (kept.handleGroupChangeSubGroup sender moved groupNr inCombat)
  | setAssistant guid apply => exact Or.inr (kept.setAssistant apply)
  | convertToRaid => exact Or.inr kept.convertToRaid
  | convertToGroup => exact Or.inr kept.convertToGroup
  | convertToLFG => exact Or.inr (kept.convert kept.formed.convertToLFG rfl rfl rfl)
  | disband => exact Or.inl disband_memberSlots
  | login guid elsewhere => exact Or.inr (kept.login elsewhere)
  | logout guid => exact Or.inr (kept.of_player nofun)
  | stranger guid player => exact Or.inr (kept.stranger player)
  | enterBattleground guid raid subGroup => exact Or.inr (kept.enterBattleground raid)
  | moveInBattleground guid subGroup => exact Or.inr kept.moveInBattleground
  | leaveBattleground guid => exact Or.inr kept.leaveBattleground
  | changeOriginal guid reference => exact Or.inr (kept.changeOriginal reference)

theorem Holds.next (holds : party.Holds) {action : Action} (proper : party.Proper action) :
    (party.next action).Holds := by
  rcases holds with isEmpty | kept
  · exact Or.inl (empty_next isEmpty proper)
  · exact kept.next proper

def Fresh (this : Nat) (players : Nat → Option Player) : Prop :=
  ∀ guid player, players guid = some player →
    player.group.target ≠ some this ∧ player.originalGroup.target ≠ some this

/-- The group to which `Create` adds the leader -/
def opened (this leader : Nat) (isBGGroup : Bool) : Group where
  this := this
  isBGGroup := isBGGroup
  isRaidGroup := isBGGroup
  leaderGuid := leader
  subGroupsCounts := if isBGGroup then some fun _ => 0 else none

theorem opened_formed (this leader : Nat) (isBGGroup : Bool) :
    (opened this leader isBGGroup).Formed where
  distinct := List.Pairwise.nil
  size := Nat.zero_le _
  inRange _ listed := absurd listed List.not_mem_nil
  small _ := Nat.zero_le _
  counted := by
    rfl

theorem created_eq (this leader : Nat) (isBGGroup : Bool) (players : Nat → Option Player) :
    created this leader isBGGroup players =
      (addMemberTo leader 0 { group := opened this leader isBGGroup, players := players }).1 := by
  cases isBGGroup <;> rfl

theorem created_holds {this leader : Nat} {isBGGroup : Bool} {players : Nat → Option Player}
    (fresh : Fresh this players) : (created this leader isBGGroup players).Holds := by
  have room : (opened this leader isBGGroup).isFull = false := by
    cases isBGGroup <;> rfl
  have new : (opened this leader isBGGroup).isMember leader = false := rfl
  rw [created_eq]
  unfold addMemberTo
  rw [room, if_neg Bool.false_ne_true]
  split
  · exact Or.inl rfl
  · refine Or.inr ⟨(opened_formed this leader isBGGroup).addSlot room new (by decide)
        (Nat.zero_lt_succ 4),
      List.mem_map_of_mem List.mem_cons_self, fun guid player online => ?_⟩
    unfold changePlayer at online
    dsimp only at online ⊢
    by_cases isLeader : guid = leader
    · subst isLeader
      rw [Function.update_self] at online
      obtain ⟨before, wasOnline, isJoined⟩ := Option.map_eq_some_iff.mp online
      have links : (opened this guid isBGGroup).Links 0
          (before.join (opened this guid isBGGroup) 0) := join_links (fresh guid before wasOnline)
      have place : ((opened this guid isBGGroup).addSlot guid 0).subGroupOf guid = some 0 :=
        (subGroupOf_addSlot new).trans (if_pos rfl)
      rw [linked_some place, ← isJoined]
      exact links
    · rw [Function.update_of_ne isLeader] at online
      rw [linked_none]
      · exact fresh guid player online
      · rw [subGroupOf_addSlot new, if_neg isLeader]
        rfl

/-- In every run of a group its members are in order. -/
theorem members_sound {this leader : Nat} {isBGGroup : Bool} {players : Nat → Option Player}
    (fresh : Fresh this players) {actions : List Action}
    (proper : Along next Proper (created this leader isBGGroup players) actions) :
    Always next Sound (created this leader isBGGroup players) actions := by
  have step (state : Party) (action : Action) (before : state.Holds)
      (isProper : state.Proper action) : (state.next action).Holds := before.next isProper
  have holds : Always next Holds (created this leader isBGGroup players) actions :=
    always_of_step step (created_holds fresh) proper
  exact holds.imp fun _ => Holds.sound

def somePlayers (guid : Nat) : Option Player :=
  if guid = 2 then some { group := ⟨some 9, 3⟩ }
  else if guid = 1 ∨ guid = 3 ∨ guid = 4 then some {}
  else none

theorem somePlayers_fresh : Fresh 7 somePlayers := by
  intro guid player online
  unfold somePlayers at online
  split at online <;> grind

def someRun : List Action :=
  [.addMember 2, .addMember 3, .addMember 5, .convertToRaid, .changeSubGroup 1 2 4 false,
    .leaveBattleground 2, .changeSubGroup 1 2 6 false, .changeSubGroup 1 5 4 false, .login 5 {},
    .changeSubGroup 1 5 2 true, .enterBattleground 3 9 1, .changeSubGroup 1 3 1 false,
    .removeMember 1 false, .convertToGroup, .addMember 4, .convertToRaid, .disband]

theorem someRun_sound : Always next Sound (created 7 1 false somePlayers) someRun := by
  refine members_sound somePlayers_fresh ?_
  have other {party : Party} {action : Action} (notAdded : ∀ guid, action ≠ .addMember guid) :
      party.Proper action := fun guid isAdded => absurd isAdded (notAdded guid)
  have adds {party : Party} {guid : Nat}
      (new : party.group.memberSlots ≠ [] ∧ party.group.isMember guid = false) :
      party.Proper (.addMember guid) := by
    intro other isAdded
    cases isAdded
    exact new
  refine ⟨adds (by decide), adds (by decide), adds (by decide), other nofun, other nofun,
    other nofun, other nofun, other nofun, other nofun, other nofun, other nofun, other nofun,
    other nofun, other nofun, adds (by decide +kernel), other nofun, other nofun, trivial⟩

/-- Adding a member again gives him two slots. The counters of a raid outlive its end, and whoever
joins after it has no leader among the members. -/
theorem added_twice_or_after_the_end :
    ¬ (([Action.addMember 2, .addMember 2].foldl next (created 7 1 false somePlayers)).Orderly) ∧
      ¬ (([Action.convertToRaid, .disband].foldl next (created 7 1 false somePlayers)).Counted) ∧
      ¬ (([Action.disband, .addMember 2].foldl next (created 7 1 false somePlayers)).Orderly) := by
  refine ⟨fun orderly => ?_, fun counted => ?_, fun orderly => ?_⟩
  · exact absurd orderly.distinct (by decide)
  · exact absurd (counted rfl 0 (by decide)).1 (by decide)
  · exact absurd (orderly.leader (by decide)) (by decide)

end Party

end DarkCore.Parties
