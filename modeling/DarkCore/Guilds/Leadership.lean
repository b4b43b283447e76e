/-
The leader of a guild, who is kept as a guid and as the one member of rank
`GR_GUILDMASTER`: he hands the guild over, or is succeeded when he is taken out.
-/

import DarkCore.Guilds.RankTable

namespace DarkCore.Guilds.Roster

open Lib Items

structure Guild.Led (guild : Guild) : Prop where
  leader : ∃ member, guild.members.find guild.leaderGuid = some member ∧
    member.rankId = grGuildMaster
  only : ∀ guid member, guild.members.find guid = some member →
    member.rankId = grGuildMaster → guid = guild.leaderGuid

def KeepsLeader (realm : Realm) : Event → Prop
  | .request actor walk (.setLeader name) =>
    ∀ player guild guid newLeader, Acting realm actor player guild →
      guild.isLeader actor = true →
      guild.getMemberNamed walk name = some (guid, newLeader) → guid ≠ guidLopart actor
  | .request actor _ (.accept true) =>
    ∀ player guild, realm.getPlayer actor = some player → player.guildId = 0 →
      realm.guilds player.guildIdInvited = some guild → guild.leaderGuid ≠ actor
  | _ => True

section Leader

variable {realm : Realm} {event : Event} {before after guild : Guild} {actor : Nat}

theorem led_iff :
    guild.Led ↔ guild.rankOf guild.leaderGuid = some grGuildMaster ∧
      ∀ guid, guild.rankOf guid = some grGuildMaster → guid = guild.leaderGuid := by
  constructor
  · intro led
    refine ⟨rankOf_eq_some.mpr led.leader, ?_⟩
    intro guid master
    obtain ⟨member, found, isMaster⟩ := rankOf_eq_some.mp master
    exact led.only guid member found isMaster
  · rintro ⟨leader, only⟩
    refine ⟨rankOf_eq_some.mp leader, ?_⟩
    intro guid member found isMaster
    exact only guid (rankOf_eq_some.mpr ⟨member, found, isMaster⟩)

theorem Guild.Led.of_roles (led : before.Led) (leaderGuid : after.leaderGuid = before.leaderGuid)
    (roles : after.rankOf = before.rankOf) : after.Led := by
  rw [led_iff, leaderGuid, roles]
  exact led_iff.mp led

theorem Edit.led (edit : Edit before after) (led : before.Led) : after.Led :=
  led.of_roles edit.leaderGuid edit.roles

theorem Reassigned.led_of_other {guid rank : Nat}
    (reassigned : Reassigned before before.leaderGuid
      (Function.update before.rankOf guid (some rank)) after)
    (led : before.Led) (other : guid ≠ before.leaderGuid) (lower : rank ≠ grGuildMaster) :
    after.Led := by
  obtain ⟨leader, only⟩ := led_iff.mp led
  rw [led_iff, reassigned.leaderGuid, reassigned.roles]
  constructor <;> grind

theorem Reassigned.led_of_left {guid : Nat}
    (reassigned : Reassigned before before.leaderGuid
      (Function.update before.rankOf guid none) after)
    (led : before.Led) (other : guid ≠ before.leaderGuid) : after.Led := by
  obtain ⟨leader, only⟩ := led_iff.mp led
  rw [led_iff, reassigned.leaderGuid, reassigned.roles]
  constructor <;> grind

theorem Reassigned.led_of_heir {key : Nat} {old : Option Nat}
    (reassigned : Reassigned before key
      (Function.update (Function.update before.rankOf key (some grGuildMaster))
        before.leaderGuid old) after)
    (led : before.Led) (other : key ≠ before.leaderGuid) (lower : old ≠ some grGuildMaster) :
    after.Led := by
  obtain ⟨_, only⟩ := led_iff.mp led
  rw [led_iff, reassigned.leaderGuid, reassigned.roles]
  constructor
  · rw [Function.update_of_ne other, Function.update_self]
  · grind

theorem Guild.Led.leaderGuid_low (led : guild.Led) (sound : guild.Sound) :
    guidLopart guild.leaderGuid = guild.leaderGuid :=
  (sound.held _ _ (led_iff.mp led).1).1

theorem Guild.Led.eq_leaderGuid (led : guild.Led) (low : guidLopart actor = actor)
    (leads : guild.isLeader actor = true) : actor = guild.leaderGuid := by
  unfold Guild.isLeader Guild.getMember at leads
  rw [low, Bool.or_eq_true] at leads
  rcases leads with same | master
  · exact eq_of_beq same
  · split at master
    · rename_i member found
      exact led.only actor member found (eq_of_beq master)
    · cases master

theorem Acting.low {player : Player} (acting : Acting realm actor player guild)
    (sound : realm.Sound) : guidLopart actor = actor ∧ player.rank < guildRanksMaxCount :=
  sound.records.players actor player (getPlayer_eq_some.mp acting.inWorld).1

theorem Founded.led (founded : Founded actor after) : after.Led ∧ after.leaderGuid = actor ∧
    guidLopart actor = actor := by
  induction founded with
  | founder id low ranks leader roles =>
    refine ⟨?_, leader, low⟩
    rw [led_iff, roles, leader, low]
    refine ⟨Function.update_self _ _ _, ?_⟩
    intro guid master
    by_contra other
    rw [Function.update_of_ne other] at master
    cases master
  | signed founded other joined ih =>
    obtain ⟨led, leader, low⟩ := ih
    refine ⟨?_, joined.leaderGuid.trans leader, low⟩
    apply joined.led_of_other led
    · omega
    · exact Nat.ne_of_gt founded.sound.lowestRankId_pos

theorem Change.keeps_led (change : Change realm event before after) (sound : realm.Sound)
    (stored : realm.guilds before.id = some before) (led : before.Led)
    (keeps : KeepsLeader realm event) : after.Led := by
  have sane := (sound.guilds _ before stored).2.2
  have leaderLow := led.leaderGuid_low sane
  obtain ⟨leader, only⟩ := led_iff.mp led
  have lowest := sane.lowestRankId_pos
  have notLeader : ∀ guid rank, before.rankOf guid = some rank → 0 < rank →
      guid ≠ before.leaderGuid := by
    intro guid rank held lower same
    rw [same, leader, Option.some_inj] at held
    exact absurd held (Nat.ne_of_lt lower)
  cases change with
  | edited edit ranks => exact edit.led led
  | ranked acting sender own notMaster =>
    apply led.of_roles _ (afterRankPacket_rankOf _ _ _)
    exact afterRankPacket_leaderGuid _ _ _
  | bought acting following priced room => exact (afterPurchase_edit _ _ _).led led
  | rankAdded acting leads room => exact led.of_roles rfl rfl
  | rankRemoved acting leads many inTable => exact led.of_roles rfl rfl
  | @joined actor walk player _ _ inWorld free invited reassigned =>
    have connected := (getPlayer_eq_some.mp inWorld).1
    have low := (sound.records.players actor player connected).1
    rw [low] at reassigned
    apply reassigned.led_of_other led
    · exact Ne.symm (keeps player before inWorld free invited)
    · exact Nat.ne_of_gt lowest
  | left follows reassigned =>
    apply reassigned.led_of_left led
    intro same
    exact follows same (same ▸ leader)
  | succeeded heir other reassigned =>
    rw [leaderLow] at reassigned other
    exact reassigned.led_of_heir led other (Option.some_ne_none _).symm
  | @promoted actor walk player guid rank _ _ acting found below reassigned =>
    have bounded : player.rank < 10 := (acting.low sound).2
    have held : rank < 10 := (sane.held _ _ found).2
    apply reassigned.led_of_other led
    · exact notLeader _ _ found (by omega)
    · grind
  | @demoted actor walk player guid rank _ _ acting found below above reassigned =>
    have held : rank < 10 := (sane.held _ _ found).2
    apply reassigned.led_of_other led
    · exact notLeader _ _ found (by omega)
    · grind
  | @led actor walk player name guid newLeader _ _ acting leads named found reassigned =>
    have low := (acting.low sound).1
    have isLeader := led.eq_leaderGuid low leads
    have other := keeps player before guid newLeader acting leads named
    rw [low, isLeader] at reassigned other
    exact reassigned.led_of_heir led other (by decide)

def AllLed (realm : Realm) : Prop :=
  ∀ id guild, realm.guilds id = some guild → guild.Led

theorem next_led (realm : Realm) (event : Event) (held : realm.Sound ∧ AllLed realm)
    (keeps : KeepsLeader realm event) : (next realm event).Sound ∧ AllLed (next realm event) := by
  obtain ⟨sound, led⟩ := held
  refine ⟨next_sound sound event, ?_⟩
  intro id after found
  rcases next_change sound found with ⟨before, old, change⟩ | ⟨_, _, ⟨actor, founded⟩, _⟩
  · have named := (sound.guilds id before old).1
    exact change.keeps_led sound (named.symm ▸ old) (led id before old) keeps
  · exact founded.led.1

end Leader

/-- Every guild has its leader and no second one, all along a run in which no leader hands his
guild to himself or joins it once more. -/
theorem guilds_stay_led (characters : Nat → Option String) (nextItemGuid : Nat)
    (darkCoreString : Nat → String) (events : List Event)
    (steps : Along next KeepsLeader (Realm.initial characters nextItemGuid darkCoreString) events) :
    Always next AllLed (Realm.initial characters nextItemGuid darkCoreString) events := by
  have start : (Realm.initial characters nextItemGuid darkCoreString).Sound ∧
      AllLed (Realm.initial characters nextItemGuid darkCoreString) := by
    refine ⟨initial_sound characters nextItemGuid darkCoreString, ?_⟩
    intro id guild impossible
    cases impossible
  have run := always_of_step next_led start steps
  exact run.imp fun _ held => held.2

theorem guilds_stay_led_opening :
    Always next AllLed opening
      (founding ++ [.request 1 walkInOrder (.setLeader "Member"),
        .request 2 walkInOrder (.remove 1)]) := by
  apply guilds_stay_led openingNames 1 (fun _ => "")
  refine ⟨trivial, trivial, trivial, ?_, trivial, trivial⟩
  intro player guild guid newLeader acting leads named
  have served := acting.guild
  have connected : player = ⟨"Leader", 1, 0, 0, true⟩ :=
    Option.some.inj (acting.inWorld.symm.trans rfl)
  subst connected
  cases served
  cases named
  decide

/-- The leader names himself, and is an officer in the end. -/
theorem leader_demotes_himself :
    ¬∀ (characters : Nat → Option String) (nextItemGuid : Nat) (darkCoreString : Nat → String)
      (events : List Event),
      Always next AllLed (Realm.initial characters nextItemGuid darkCoreString) events := by
  intro led
  have atEnd := (led openingNames 1 (fun _ => "")
    (founding ++ [.request 1 walkInOrder (.setLeader "Leader")])).last
  obtain ⟨member, found, master⟩ := (atEnd 1 _ rfl).leader
  cases found
  cases master

end DarkCore.Guilds.Roster
