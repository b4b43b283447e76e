/-
All channels of a manager together with the lists of the players, over runs of
requests: the two sides agree unless an owner kicks himself, and every channel has
its owner unless somebody joins one that the last member left by kicking himself.
-/

import DarkCore.Channels.Operations

namespace DarkCore.Channels

open DarkCore.Lib

variable {wstrToLower : String → String} {world after : ChannelWorld} {channel : Channel}
  {player : Nat} {name wname : String}

/-- The members are those whose own list has the channel, each under his own guid, none is banned,
and an owner is there, as a moderator and with the only owner's flag. -/
structure Orderly (world : ChannelWorld) (wname : String) (channel : Channel) : Prop where
  keyed : ∀ guid info, channel.players.find guid = some info → info.player = guid
  joined : ∀ guid,
    channel.isOn guid ↔ (⟨wname, channel.serial⟩ : ChannelRef) ∈ world.joinedChannels guid
  unbanned : ∀ guid ∈ channel.banned, ¬ channel.isOn guid
  owned : channel.ownership = true → channel.players.entries ≠ [] →
    channel.OwnedBy channel.ownerGUID

def InOrder (world : ChannelWorld) : Prop :=
  ∀ wname channel, world.channels wname = some channel → Orderly world wname channel

/-- In addition the pointers in the lists are good, and each of them is there once. -/
structure Sound (wstrToLower : String → String) (world : ChannelWorld) : Prop where
  kept : ∀ wname channel, world.channels wname = some channel → Kept channel
  joined : ∀ wname channel guid, world.channels wname = some channel →
    (channel.isOn guid ↔ (⟨wname, channel.serial⟩ : ChannelRef) ∈ world.joinedChannels guid)
  named : ∀ wname channel, world.channels wname = some channel →
    wstrToLower channel.name = wname ∧ channel.serial < world.nextSerial
  live : ∀ guid ref, ref ∈ world.joinedChannels guid →
    ∃ channel, world.channels ref.wname = some channel ∧ channel.serial = ref.serial
  distinct : ∀ guid, (world.joinedChannels guid).Nodup

theorem Sound.inOrder (sound : Sound wstrToLower world) : InOrder world := by
  intro wname channel found
  have kept := sound.kept wname channel found
  exact ⟨kept.keyed, fun guid => sound.joined wname channel guid found, kept.unbanned, kept.owned⟩

theorem Sound.replace (sound : Sound wstrToLower world)
    (found : world.channels wname = some channel) (new : Channel)
    (lists : Nat → List ChannelRef) (kept : Kept new) (sameName : new.name = channel.name)
    (sameSerial : new.serial = channel.serial)
    (others : ∀ guid ref, ref ≠ ⟨wname, channel.serial⟩ →
      (ref ∈ lists guid ↔ ref ∈ world.joinedChannels guid))
    (members : ∀ guid, new.isOn guid ↔ (⟨wname, channel.serial⟩ : ChannelRef) ∈ lists guid)
    (distinct : ∀ guid, (lists guid).Nodup) :
    Sound wstrToLower ⟨Function.update world.channels wname (some new), lists,
      world.nextSerial⟩ := by
  have cases {other : String} {otherChannel : Channel}
      (isOther : Function.update world.channels wname (some new) other = some otherChannel) :
      other = wname ∧ otherChannel = new ∨
        other ≠ wname ∧ world.channels other = some otherChannel := by
    grind
  refine ⟨?_, ?_, ?_, ?_, distinct⟩
  · intro other otherChannel isOther
    rcases cases isOther with ⟨rfl, rfl⟩ | ⟨_, elsewhere⟩
    · exact kept
    · exact sound.kept other otherChannel elsewhere
  · intro other otherChannel guid isOther
    rcases cases isOther with ⟨rfl, rfl⟩ | ⟨different, elsewhere⟩
    · simp_all
    · rw [sound.joined other otherChannel guid elsewhere]
      exact (others guid _ fun same => different (congrArg ChannelRef.wname same)).symm
  · intro other otherChannel isOther
    rcases cases isOther with ⟨rfl, rfl⟩ | ⟨_, elsewhere⟩
    · rw [sameName, sameSerial]
      exact sound.named other channel found
    · exact sound.named other otherChannel elsewhere
  · intro guid ref member
    change ∃ channel, Function.update world.channels wname (some new) ref.wname = some channel ∧ _
    by_cases here : ref = ⟨wname, channel.serial⟩
    · simp_all
    · obtain ⟨live, isLive, serial⟩ := sound.live guid ref ((others guid ref here).mp member)
      have different : ref.wname ≠ wname := by
        intro same
        rw [same, found] at isLive
        refine here ?_
        rw [← Option.some.inj isLive] at serial
        rw [serial, ← same]
      exact ⟨live, (Function.update_of_ne different ..).trans isLive, serial⟩

theorem joinedChannels_leftChannel (world : ChannelWorld) (player guid : Nat) (ref : ChannelRef) :
    (world.leftChannel player ref).joinedChannels guid =
      if guid = player then (world.joinedChannels player).filter (· ≠ ref)
      else world.joinedChannels guid := by
  unfold ChannelWorld.leftChannel
  exact Function.update_apply ..

theorem joinedChannels_joinedChannel (world : ChannelWorld) (player guid : Nat)
    (ref : ChannelRef) :
    (world.joinedChannel player ref).joinedChannels guid =
      if guid = player then world.joinedChannels player ++ [ref]
      else world.joinedChannels guid := by
  unfold ChannelWorld.joinedChannel
  exact Function.update_apply ..

section

variable (sound : Sound wstrToLower world) (found : world.channels wname = some channel)
include sound found

theorem Sound.stays {new : Channel} (stays : Stays channel new) :
    Sound wstrToLower (world.setChannel wname new) := by
  refine sound.replace found new world.joinedChannels stays.kept stays.name stays.serial
    (fun _ _ _ => Iff.rfl) (fun guid => ?_) sound.distinct
  rw [stays.isOn, sound.joined wname channel guid found]

theorem Sound.parted {new : Channel} (parted : Parted channel player new) :
    Sound wstrToLower
      ((world.leftChannel player ⟨wname, channel.serial⟩).setChannel wname new) := by
  refine sound.replace found new _ parted.kept parted.name parted.serial ?_ ?_ ?_
  · intro guid ref different
    rw [joinedChannels_leftChannel]
    by_cases here : guid = player
    · simp [here, different]
    · rw [if_neg here]
  · intro guid
    rw [parted.isOn, sound.joined wname channel guid found, joinedChannels_leftChannel]
    by_cases here : guid = player <;> simp [here]
  · intro guid
    rw [joinedChannels_leftChannel]
    by_cases here : guid = player
    · rw [if_pos here]
      exact (sound.distinct player).filter _
    · rw [if_neg here]
      exact sound.distinct guid

theorem Sound.joins {new : Channel} (isNew : ¬ channel.isOn player)
    (joined : Joined channel player new) :
    Sound wstrToLower
      ((world.joinedChannel player ⟨wname, channel.serial⟩).setChannel wname new) := by
  have absent := (sound.joined wname channel player found).not.mp isNew
  refine sound.replace found new _ joined.kept joined.name joined.serial ?_ ?_ ?_
  · intro guid ref different
    rw [joinedChannels_joinedChannel]
    by_cases here : guid = player
    · simp [here, different]
    · rw [if_neg here]
  · intro guid
    rw [joined.isOn, sound.joined wname channel guid found, joinedChannels_joinedChannel]
    by_cases here : guid = player <;> simp [here]
  · intro guid
    rw [joinedChannels_joinedChannel]
    by_cases here : guid = player
    · rw [if_pos here, ← List.concat_eq_append]
      exact (sound.distinct player).concat absent
    · rw [if_neg here]
      exact sound.distinct guid

end

section

variable (sound : Sound wstrToLower world)
include sound

theorem Sound.create (name : String)
    (absent : world.channels (wstrToLower name) = none) (stored : Option StoredChannel) :
    Sound wstrToLower
      { world.setChannel (wstrToLower name) (newChannel name world.nextSerial stored) with
        nextSerial := world.nextSerial + 1 } := by
  generalize isNew : newChannel name world.nextSerial stored = new
  have newName : new.name = name ∧ new.serial = world.nextSerial ∧
      new.players = OrdMap.empty := by
    subst isNew
    cases stored <;> exact ⟨rfl, rfl, rfl⟩
  have nobody (guid : Nat) : ¬ new.isOn guid := by
    unfold Channel.isOn
    rw [newName.2.2]
    exact Bool.false_ne_true
  have keptNew : Kept new := by
    refine ⟨?_, nobody 0, fun guid _ => nobody guid, ?_⟩
    · intro guid info found
      exact absurd (isOn_iff.mpr ⟨info, found⟩) (nobody guid)
    · intro _ someone
      rw [newName.2.2] at someone
      exact absurd rfl someone
  have cases {other : String} {otherChannel : Channel}
      (isOther : Function.update world.channels (wstrToLower name) (some new) other =
        some otherChannel) :
      other = wstrToLower name ∧ otherChannel = new ∨ world.channels other = some otherChannel := by
    grind
  refine ⟨?_, ?_, ?_, ?_, sound.distinct⟩
  · intro other otherChannel isOther
    rcases cases isOther with ⟨_, rfl⟩ | elsewhere
    · exact keptNew
    · exact sound.kept other otherChannel elsewhere
  · intro other otherChannel guid isOther
    rcases cases isOther with ⟨rfl, rfl⟩ | elsewhere
    · refine iff_of_false (nobody guid) fun member => ?_
      obtain ⟨live, isLive, _⟩ := sound.live guid _ member
      rw [absent] at isLive
      cases isLive
    · exact sound.joined other otherChannel guid elsewhere
  · intro other otherChannel isOther
    rcases cases isOther with ⟨rfl, rfl⟩ | elsewhere
    · simp [newName.1, newName.2.1]
    · obtain ⟨isName, serial⟩ := sound.named other otherChannel elsewhere
      exact ⟨isName, Nat.lt_succ_of_lt serial⟩
  · intro guid ref member
    obtain ⟨live, isLive, serial⟩ := sound.live guid ref member
    have different : ref.wname ≠ wstrToLower name := by
      grind
    exact ⟨live, (Function.update_of_ne different ..).trans isLive, serial⟩

theorem Sound.dropEmpty (name : String) :
    Sound wstrToLower (world.dropEmpty wstrToLower name) := by
  unfold ChannelWorld.dropEmpty
  cases found : world.channels (wstrToLower name) with
  | none => exact sound
  | some channel =>
    simp only
    by_cases empty : channel.players.entries = []
    · rw [if_pos empty]
      have cases {other : String} {otherChannel : Channel}
          (isOther : Function.update world.channels (wstrToLower name) none other =
            some otherChannel) : world.channels other = some otherChannel := by
        grind
      refine ⟨?_, ?_, ?_, ?_, sound.distinct⟩
      · exact fun other otherChannel isOther => sound.kept other otherChannel (cases isOther)
      · exact fun other otherChannel guid isOther =>
          sound.joined other otherChannel guid (cases isOther)
      · exact fun other otherChannel isOther => sound.named other otherChannel (cases isOther)
      · intro guid ref member
        obtain ⟨live, isLive, serial⟩ := sound.live guid ref member
        have different : ref.wname ≠ wstrToLower name := by
          intro same
          rw [same, found] at isLive
          cases isLive
          refine ((sound.joined _ channel guid found).mpr ?_).entries empty
          rwa [serial, ← same]
        exact ⟨live, (Function.update_of_ne different ..).trans isLive, serial⟩
    · simp_all

theorem Sound.handle {change : Channel → Channel}
    (stays : ∀ channel, Kept channel → Stays channel (change channel)) :
    Sound wstrToLower (world.handle wstrToLower name change) := by
  unfold ChannelWorld.handle
  cases found : world.channels (wstrToLower name) with
  | none => exact sound
  | some channel => exact sound.stays found (stays channel (sound.kept _ channel found))

end

def ProperJoin (wstrToLower : String → String) (world : ChannelWorld) (player : Nat)
    (name pass : String) : Prop :=
  name = "" ∨ ∀ channel, world.channels (wstrToLower name) = some channel → Stale channel →
    player ∈ channel.banned ∨ 0 < channel.password.length ∧ pass ≠ channel.password

section

variable (sound : Sound wstrToLower world)
include sound

theorem Sound.getJoinChannel (name : String)
    (stored : Option StoredChannel) :
    ∃ channel after, world.getJoinChannel wstrToLower name stored = (channel, after) ∧
      Sound wstrToLower after ∧ after.channels (wstrToLower name) = some channel ∧
      (Stale channel → world.channels (wstrToLower name) = some channel) := by
  unfold ChannelWorld.getJoinChannel
  cases found : world.channels (wstrToLower name) with
  | some channel => exact ⟨channel, world, rfl, sound, found, fun _ => rfl⟩
  | none =>
    refine ⟨_, _, rfl, sound.create name found stored, Function.update_self .., fun stale => ?_⟩
    cases stored <;> exact absurd rfl stale.2.2

theorem handleJoin_iff {pass : String} {stored : Option StoredChannel}
    (isPlayer : player ≠ 0) :
    (InOrder (world.handleJoin wstrToLower player name pass stored) →
      ProperJoin wstrToLower world player name pass) ∧
    (ProperJoin wstrToLower world player name pass →
      Sound wstrToLower (world.handleJoin wstrToLower player name pass stored)) := by
  unfold ChannelWorld.handleJoin ProperJoin
  by_cases empty : name = ""
  · simp_all
  rw [if_neg empty]
  obtain ⟨channel, between, isJoined, soundBetween, found, old⟩ := sound.getJoinChannel name stored
  rw [isJoined]
  simp only
  have kept := soundBetween.kept _ channel found
  by_cases may : MayJoin channel player pass
  · by_cases stale : Stale channel
    · obtain ⟨joined, isAfter, ownership, isOn, notOwned⟩ := join_stale stale may
      rw [isAfter]
      constructor
      · intro inOrder
        have orderly := inOrder (wstrToLower name) joined (Function.update_self ..)
        exact absurd (orderly.owned ownership isOn.entries) notOwned
      · rintro (isEmpty | proper)
        · exact absurd isEmpty empty
        · rcases proper channel (old stale) stale with isBanned | wrong
          · exact absurd isBanned may.2.1
          · exact absurd wrong may.2.2
    · obtain ⟨joined, isAfter, isJoin⟩ := join_joined kept isPlayer stale may
      rw [isAfter]
      refine ⟨fun _ => Or.inr fun other isOther isStale => ?_, fun _ =>
        soundBetween.joins found may.1 isJoin⟩
      have same : between.channels (wstrToLower name) = some other := by
        simp_all [ChannelWorld.getJoinChannel]
      rw [found] at same
      exact absurd (Option.some.inj same ▸ isStale) stale
  · rw [join_eq_none may]
    refine ⟨fun _ => Or.inr fun other isOther isStale => ?_, fun _ => soundBetween⟩
    have same : channel = other := by
      simp_all [ChannelWorld.getJoinChannel]
    subst same
    unfold MayJoin at may
    have notOn : ¬ channel.isOn player := fun isOn => isOn.entries isStale.2.1
    by_contra both
    exact may ⟨notOn, fun isBanned => both (Or.inl isBanned), fun wrong => both (Or.inr wrong)⟩

theorem handleLeave_sound :
    Sound wstrToLower (world.handleLeave wstrToLower player name) := by
  unfold ChannelWorld.handleLeave
  by_cases empty : name = ""
  · simp_all
  rw [if_neg empty]
  refine Sound.dropEmpty ?_ name
  cases found : world.channels (wstrToLower name) with
  | none => exact sound
  | some channel =>
    simp only
    by_cases isOn : channel.isOn player
    · rw [if_pos isOn]
      exact sound.parted found (leave_parted (sound.kept _ channel found) isOn)
    · simp_all

end

def ProperKick (wstrToLower : String → String) (world : ChannelWorld) (player : Nat)
    (name : String) (target : Option Nat) : Prop :=
  ∀ channel, world.channels (wstrToLower name) = some channel → ¬ KicksOwner channel player target

theorem handleKickOrBan_iff {target : Option Nat} {isGameMaster ban : Bool}
    (sound : Sound wstrToLower world) :
    (InOrder (world.handleKickOrBan wstrToLower player name target isGameMaster ban) →
      ProperKick wstrToLower world player name target) ∧
    (ProperKick wstrToLower world player name target → Sound wstrToLower
        (world.handleKickOrBan wstrToLower player name target isGameMaster ban)) := by
  unfold ChannelWorld.handleKickOrBan ProperKick
  cases found : world.channels (wstrToLower name) with
  | none => exact ⟨fun _ channel isChannel => (by cases isChannel), fun _ => sound⟩
  | some channel =>
    simp only
    have kept := sound.kept _ channel found
    by_cases kicks : KicksOwner channel player target
    · obtain ⟨kicked, isKicked, serial, isOn⟩ :=
        kickOrBan_owner isGameMaster ban kept kicks
      rw [isKicked]
      refine ⟨fun inOrder => ?_, fun proper => absurd kicks (proper channel rfl)⟩
      have orderly := inOrder (wstrToLower name) kicked (Function.update_self ..)
      have member := (orderly.joined player).mp isOn
      rw [serial] at member
      change _ ∈ Function.update world.joinedChannels player _ player at member
      rw [Function.update_self, List.mem_filter] at member
      exact absurd rfl (of_decide_eq_true member.2)
    · refine ⟨fun _ other isOther => Option.some.inj isOther ▸ kicks, fun _ => ?_⟩
      cases isKicked : channel.kickOrBan player target isGameMaster ban with
      | none => exact sound
      | some result => exact sound.parted found (kickOrBan_parted kept kicks isKicked)

theorem cleanup_sound (refs : List ChannelRef) (sound : Sound wstrToLower world)
    (own : world.joinedChannels player = refs) :
    ∃ after, world.cleanup wstrToLower player refs = some after ∧ Sound wstrToLower after := by
  induction refs generalizing world with
  | nil => exact ⟨world, rfl, sound⟩
  | cons ref rest ih =>
    have member : ref ∈ world.joinedChannels player := own ▸ List.mem_cons_self
    obtain ⟨channel, found, serial⟩ := sound.live player ref member
    have isRef : (⟨ref.wname, channel.serial⟩ : ChannelRef) = ref := by rw [serial]
    have isOn : channel.isOn player := by
      rw [sound.joined ref.wname channel player found, isRef]
      exact member
    have parted := leave_parted (sound.kept _ channel found) isOn
    have distinct := sound.distinct player
    rw [own, List.nodup_cons] at distinct
    have isDeref : world.deref ref = some channel := by
      simp_all [ChannelWorld.deref]
    unfold ChannelWorld.cleanup
    rw [isDeref]
    refine ih ((Sound.replace sound found (channel.leave player)
      (Function.update world.joinedChannels player rest) parted.kept parted.name parted.serial
      ?_ ?_ ?_).dropEmpty channel.name) ?_
    · grind
    · intro guid
      rw [parted.isOn, sound.joined ref.wname channel guid found, isRef, Function.update_apply]
      by_cases here : guid = player
      · simp [here, distinct.1]
      · simp [here]
    · intro guid
      rw [Function.update_apply]
      by_cases here : guid = player
      · simp_all
      · rw [if_neg here]
        exact sound.distinct guid
    · unfold ChannelWorld.dropEmpty
      split
      · exact Function.update_self ..
      · split_ifs <;> exact Function.update_self ..

def Proper (wstrToLower : String → String) (world : ChannelWorld) (player : Nat) :
    ChannelAction → Prop
  | .join name pass _ => ProperJoin wstrToLower world player name pass
  | .kick name target _ => ProperKick wstrToLower world player name target
  | .ban name target _ => ProperKick wstrToLower world player name target
  | _ => True

theorem request_iff (action : ChannelAction) (sound : Sound wstrToLower world)
    (isPlayer : player ≠ 0) :
    ((∀ after, world.request wstrToLower player action = some after → InOrder after) →
      Proper wstrToLower world player action) ∧
    (Proper wstrToLower world player action →
      ∃ after, world.request wstrToLower player action = some after ∧ Sound wstrToLower after) := by
  cases action with
  | join name pass stored =>
    exact ⟨fun inOrder => (handleJoin_iff sound isPlayer).1 (inOrder _ rfl),
      fun proper => ⟨_, rfl, (handleJoin_iff sound isPlayer).2 proper⟩⟩
  | leave name => exact ⟨fun _ => trivial, fun _ => ⟨_, rfl, handleLeave_sound sound⟩⟩
  | kick name target isGameMaster | ban name target isGameMaster =>
    exact ⟨fun inOrder => (handleKickOrBan_iff sound).1 (inOrder _ rfl),
      fun proper => ⟨_, rfl, (handleKickOrBan_iff sound).2 proper⟩⟩
  | unBan name target isGameMaster =>
    exact ⟨fun _ => trivial, fun _ => ⟨_, rfl, sound.handle fun _ kept => unBan_stays kept⟩⟩
  | password name pass isGameMaster =>
    exact ⟨fun _ => trivial, fun _ => ⟨_, rfl, sound.handle fun _ kept => setPassword_stays kept⟩⟩
  | moderator name target isGameMaster isAllowed set
  | mute name target isGameMaster isAllowed set =>
    exact ⟨fun _ => trivial, fun _ => ⟨_, rfl, sound.handle fun _ kept => setMode_stays kept⟩⟩
  | setOwner name target isGameMaster isAllowed =>
    exact ⟨fun _ => trivial, fun _ => ⟨_, rfl, sound.handle fun _ kept => passOwner_stays kept⟩⟩
  | disconnect =>
    exact ⟨fun _ => trivial, fun _ => cleanup_sound (world.joinedChannels player) sound rfl⟩

def SoundServer (wstrToLower : String → String) (server : Option ChannelWorld) : Prop :=
  ∃ world, server = some world ∧ Sound wstrToLower world

def ServerInOrder (server : Option ChannelWorld) : Prop :=
  ∀ world, server = some world → InOrder world

def ProperNext (wstrToLower : String → String) (server : Option ChannelWorld)
    (action : Nat × ChannelAction) : Prop :=
  ∀ world, server = some world → action.1 ≠ 0 → Proper wstrToLower world action.1 action.2

/-- From sound channels, the channels stay in order all along a run exactly when each of its
requests is proper. -/
theorem channels_inOrder_iff (sound : Sound wstrToLower world)
    (requests : List (Nat × ChannelAction)) :
    Always (ChannelWorld.next wstrToLower) ServerInOrder (some world) requests ↔
      Along (ChannelWorld.next wstrToLower) (ProperNext wstrToLower) (some world) requests := by
  have implies (server : Option ChannelWorld) (isSound : SoundServer wstrToLower server) :
      ServerInOrder server := by
    obtain ⟨world, rfl, sound⟩ := isSound
    intro other isOther
    exact Option.some.inj isOther ▸ sound.inOrder
  have needed (server : Option ChannelWorld) (action : Nat × ChannelAction)
      (isSound : SoundServer wstrToLower server)
      (inOrder : ServerInOrder (ChannelWorld.next wstrToLower server action)) :
      ProperNext wstrToLower server action := by
    obtain ⟨world, rfl, sound⟩ := isSound
    intro other isOther isPlayer
    obtain rfl := Option.some.inj isOther
    unfold ChannelWorld.next at inOrder
    rw [Option.bind_some, if_neg isPlayer] at inOrder
    exact (request_iff action.2 sound isPlayer).1 inOrder
  have kept (server : Option ChannelWorld) (action : Nat × ChannelAction)
      (isSound : SoundServer wstrToLower server) (proper : ProperNext wstrToLower server action) :
      SoundServer wstrToLower (ChannelWorld.next wstrToLower server action) := by
    obtain ⟨world, rfl, sound⟩ := isSound
    unfold ChannelWorld.next
    rw [Option.bind_some]
    by_cases isZero : action.1 = 0
    · rw [if_pos isZero]
      exact ⟨world, rfl, sound⟩
    · rw [if_neg isZero]
      exact (request_iff action.2 sound isZero).2 (proper world rfl isZero)
  exact always_property_iff_along implies needed kept ⟨world, rfl, sound⟩

def newServer : ChannelWorld := ⟨fun _ => none, fun _ => [], 0⟩

theorem newServer_sound : Sound wstrToLower newServer := by
  refine ⟨?_, ?_, ?_, ?_, fun guid => List.nodup_nil⟩
  · intro wname channel found
    cases found
  · intro wname channel guid found
    cases found
  · intro wname channel found
    cases found
  · intro guid ref member
    cases member

/-- The owner kicks the other member and leaves. -/
theorem channels_inOrder_iff_newServer :
    Always (ChannelWorld.next id) ServerInOrder (some newServer)
      [(1, .join "world" "" none), (2, .join "world" "" none),
        (1, .kick "world" (some 2) false), (1, .leave "world")] := by
  refine (channels_inOrder_iff newServer_sound _).mpr ⟨?_, ?_, ?_, ?_, trivial⟩
  · rintro world ⟨⟩ isPlayer
    right
    intro channel found
    cases found
  · rintro world ⟨⟩ isPlayer
    right
    rintro channel ⟨⟩ stale
    cases stale.2.1
  · rintro world running isPlayer channel found ⟨isOwner, _⟩
    cases isOwner
  · intro world running isPlayer
    trivial

/-- Two players on a channel, and its owner kicks himself: he is on the channel and does not have
it in his list. -/
theorem kick_ghost :
    Sound id newServer ∧
      ¬ Always (ChannelWorld.next id) ServerInOrder (some newServer)
        [(1, .join "world" "" none), (2, .join "world" "" none),
          (1, .kick "world" (some 1) false)] := by
  refine ⟨newServer_sound, fun always => ?_⟩
  have ghost : (([(1, .join "world" "" none), (2, .join "world" "" none),
      (1, .kick "world" (some 1) false)].foldl (ChannelWorld.next id) (some newServer)).bind
        fun world => (world.channels "world").map fun channel =>
          decide (channel.isOn 1 ∧ ⟨"world", channel.serial⟩ ∉ world.joinedChannels 1)) =
      some true := by
    decide +kernel
  obtain ⟨world, running, isGhost⟩ := Option.bind_eq_some_iff.mp ghost
  obtain ⟨channel, found, isGhost⟩ := Option.map_eq_some_iff.mp isGhost
  obtain ⟨isOn, absent⟩ := of_decide_eq_true isGhost
  have inOrder : InOrder world := always.last world running
  exact absent (((inOrder "world" channel found).joined 1).mp isOn)

end DarkCore.Channels
