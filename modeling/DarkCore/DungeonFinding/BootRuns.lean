/-
Runs of votes about a kick. A vote ends as soon as its outcome is settled, except
where the narrow counters have run over, and where it was settled from the start.
-/

import DarkCore.DungeonFinding.BootVotes

namespace DarkCore.DungeonFinding

open DarkCore.Lib

section Ending

variable {votes : Votes}

theorem given_add_hopeful (votes : Votes) :
    votes.countWhere isGiven + votes.countWhere isHopeful =
      votes.entries.length + votes.countWhere isAgree := by
  unfold OrdMap.countWhere
  induction votes.entries with
  | nil => rfl
  | cons entry rest ih =>
    simp only [List.countP_cons, List.length_cons]
    cases answer : entry.2 <;> simp [isGiven, isHopeful, isAgree] at ih ⊢ <;> omega

theorem endsBoot_iff (few : votes.countWhere isAgree ≤ lfgGroupKickVotesNeeded) :
    endsBoot votes lfgGroupKickVotesNeeded ↔
      votes.countWhere isAgree = lfgGroupKickVotesNeeded ∨
        votes.countWhere isHopeful < lfgGroupKickVotesNeeded ∧ votes.countWhere isGiven < 256 := by
  have sum := given_add_hopeful votes
  have within : votes.countWhere isGiven ≤ votes.entries.length := OrdMap.countWhere_le_length _
  unfold endsBoot
  rw [countVotes_eq]
  change votes.countWhere isAgree % 256 = _ ∨ votes.countWhere isGiven % 256 = _ ∨
    _ - votes.countWhere isGiven % 256 + votes.countWhere isAgree % 256 < _ ↔ _
  unfold lfgGroupKickVotesNeeded at few ⊢
  omega

end Ending

section World

variable {group : Nat}

theorem boots_setStates (guids : List PlayerGuid) (world : BootWorld)
    (change : BootWorld → PlayerGuid → BootWorld)
    (keeps : ∀ world guid, (change world guid).boots = world.boots ∧
      (change world guid).removed = world.removed) :
    (guids.foldl change world).boots = world.boots ∧
      (guids.foldl change world).removed = world.removed := by
  induction guids generalizing world with
  | nil => exact ⟨rfl, rfl⟩
  | cons guid rest ih =>
    obtain ⟨boots, removed⟩ := ih (change world guid)
    obtain ⟨first, second⟩ := keeps world guid
    exact ⟨boots.trans first, removed.trans second⟩

theorem finishBoot_spec (online : PlayerGuid → Bool) (world : BootWorld) (group : Nat)
    (boot : LfgPlayerBoot) :
    (finishBoot online world group boot).boots = Function.update world.boots group none ∧
      (finishBoot online world group boot).removed =
        if (countVotes boot.votes.entries).2 = boot.votedNeeded then
          world.removed ++ [(group, boot.victim)]
        else world.removed := by
  have same := boots_setStates (boot.votes.entries.map Prod.fst) world
    (fun world guid => if guid ≠ boot.victim then world.setState (.player guid) .dungeon else world)
    (fun world guid => by split_ifs <;> exact ⟨rfl, rfl⟩)
  unfold finishBoot
  by_cases passed : (countVotes boot.votes.entries).2 = boot.votedNeeded
  · simp only [if_pos passed]
    constructor
    · rw [← same.1]
      split_ifs <;> rfl
    · rw [← same.2]
      split_ifs <;> rfl
  · simp only [if_neg passed]
    exact ⟨same.1 ▸ rfl, same.2⟩

theorem updateBoot_other (online : PlayerGuid → Bool) (world : BootWorld) (player : PlayerGuid)
    (accept : Bool) {other : Option Nat} (different : other ≠ some group) (victim : PlayerGuid) :
    (updateBoot online world player other accept).boots group = world.boots group ∧
      ((group, victim) ∈ (updateBoot online world player other accept).removed ↔
        (group, victim) ∈ world.removed) := by
  unfold updateBoot
  cases other with
  | none => exact ⟨rfl, Iff.rfl⟩
  | some other =>
    have apart : group ≠ other := fun same => different (congrArg some same.symm)
    cases found : world.boots other with
    | none => simp [found]
    | some boot =>
      simp only [found]
      split_ifs
      · simp [apart]
      · obtain ⟨boots, removed⟩ := finishBoot_spec online world other { boot with
          votes := (voteOf boot.votes player).2.assign player (.ofBool accept) }
        rw [boots, removed]
        refine ⟨Function.update_of_ne apart .., ?_⟩
        split_ifs <;> simp [apart]
      · simp [apart]

end World

abbrev BootVote := PlayerGuid × Option Nat × Bool

def castNext (online : PlayerGuid → Bool) (group : Nat)
    (state : BootWorld × List (PlayerGuid × Bool)) (vote : BootVote) :
    BootWorld × List (PlayerGuid × Bool) :=
  (updateBoot online state.1 vote.1 vote.2.1 vote.2.2,
    if vote.2.1 = some group then state.2 ++ [(vote.1, vote.2.2)] else state.2)

/-- Every listed member's first vote counts and no other, the victim is removed if and only if
enough agreed, and the vote is over if and only if its outcome is settled after some vote. -/
structure Right (first : Votes) (group : Nat) (victim : PlayerGuid)
    (state : BootWorld × List (PlayerGuid × Bool)) : Prop where
  counted : ∀ boot, state.1.boots group = some boot → ∀ guid, (first.find guid).isSome →
    boot.votes.find guid = some (answerAfter first state.2 guid)
  removed : (group, victim) ∈ state.1.removed ↔
    lfgGroupKickVotesNeeded ≤ countAfter isAgree first state.2
  ended : state.1.boots group = none ↔ state.2 ≠ [] ∧ Settled first state.2

structure Tracked (first : Votes) (group : Nat) (victim : PlayerGuid)
    (state : BootWorld × List (PlayerGuid × Bool)) : Prop where
  right : Right first group victim state
  recorded : ∀ boot, state.1.boots group = some boot → Recorded first state.2 boot.votes
  settings : ∀ boot, state.1.boots group = some boot →
    boot.votedNeeded = lfgGroupKickVotesNeeded ∧ boot.victim = victim
  unfinished : ∀ boot, state.1.boots group = some boot →
    countAfter isAgree first state.2 < lfgGroupKickVotesNeeded

/-- A vote that counts comes while less than 255 players have answered, or leaves enough who may
agree; for any other vote the outcome is not settled. -/
def ProperVote (group : Nat) (state : BootWorld × List (PlayerGuid × Bool)) (vote : BootVote) :
    Prop :=
  vote.2.1 = some group → ∀ boot, state.1.boots group = some boot →
    if boot.votes.find vote.1 = some .pending then
      boot.votes.countWhere isGiven < 255 ∨
        lfgGroupKickVotesNeeded + (if vote.2.2 then 0 else 1) ≤ boot.votes.countWhere isHopeful
    else lfgGroupKickVotesNeeded ≤ boot.votes.countWhere isHopeful

section Step

variable {first : Votes} {group : Nat} {victim : PlayerGuid} {world : BootWorld}
  {cast : List (PlayerGuid × Bool)} {online : PlayerGuid → Bool} {boot : LfgPlayerBoot}
  {player : PlayerGuid} {accept : Bool}

theorem Tracked.closed (noBoot : world.boots group = none) (nonempty : cast ≠ [])
    (settled : Settled first cast)
    (removed : (group, victim) ∈ world.removed ↔
      lfgGroupKickVotesNeeded ≤ countAfter isAgree first cast) :
    Tracked first group victim (world, cast) := by
  have none (boot : LfgPlayerBoot) : world.boots group ≠ some boot := by simp [noBoot]
  exact ⟨⟨fun boot found => (none boot found).elim, removed,
    iff_of_true noBoot ⟨nonempty, settled⟩⟩, fun boot found => (none boot found).elim,
    fun boot found => (none boot found).elim, fun boot found => (none boot found).elim⟩

theorem Tracked.ofOpen (isOpen : world.boots group = some boot)
    (recorded : Recorded first cast boot.votes)
    (settings : boot.votedNeeded = lfgGroupKickVotesNeeded ∧ boot.victim = victim)
    (unfinished : countAfter isAgree first cast < lfgGroupKickVotesNeeded)
    (notRemoved : (group, victim) ∉ world.removed)
    (unsettled : cast = [] ∨ ¬ Settled first cast) : Tracked first group victim (world, cast) := by
  have only {conclusion : LfgPlayerBoot → Prop} (holds : conclusion boot) (other : LfgPlayerBoot)
      (found : world.boots group = some other) : conclusion other :=
    Option.some.inj (isOpen.symm.trans found) ▸ holds
  refine ⟨⟨only recorded.listed, ?_, ?_⟩, only recorded, only settings, fun _ _ => unfinished⟩
  · exact iff_of_false notRemoved (Nat.not_le.mpr unfinished)
  · refine iff_of_false (by simp [isOpen]) ?_
    rintro ⟨nonempty, settled⟩
    rcases unsettled with empty | unsettled
    · exact nonempty empty
    · exact unsettled settled

theorem counts_vote {votes : Votes} (pending : votes.find player = some .pending) (accept : Bool) :
    (votes.assign player (.ofBool accept)).countWhere isAgree =
        votes.countWhere isAgree + (if accept then 1 else 0) ∧
      (votes.assign player (.ofBool accept)).countWhere isHopeful + (if accept then 0 else 1) =
        votes.countWhere isHopeful ∧
      (votes.assign player (.ofBool accept)).countWhere isGiven = votes.countWhere isGiven + 1 := by
  have agree : (votes.assign player (.ofBool accept)).countWhere isAgree + _ = _ :=
    OrdMap.countWhere_assign isAgree
  have hopeful : (votes.assign player (.ofBool accept)).countWhere isHopeful + _ = _ :=
    OrdMap.countWhere_assign isHopeful
  have given : (votes.assign player (.ofBool accept)).countWhere isGiven + _ = _ :=
    OrdMap.countWhere_assign isGiven
  rw [pending, OrdMap.weight_some] at agree hopeful given
  cases accept with
  | false | true => simp_all [LfgAnswer.ofBool, OrdMap.weight_some, isAgree, isHopeful, isGiven]

theorem updateBoot_counted (tracked : Tracked first group victim (world, cast))
    (isOpen : world.boots group = some boot) (pending : boot.votes.find player = some .pending) :
    (Right first group victim (castNext online group (world, cast) (player, some group, accept)) →
      ProperVote group (world, cast) (player, some group, accept)) ∧
    (ProperVote group (world, cast) (player, some group, accept) → Tracked first group victim
        (castNext online group (world, cast) (player, some group, accept))) := by
  have recorded := tracked.recorded boot isOpen
  obtain ⟨isNeeded, isVictim⟩ := tracked.settings boot isOpen
  have unfinished := tracked.unfinished boot isOpen
  have notRemoved : (group, victim) ∉ world.removed := fun member =>
    absurd (tracked.right.removed.mp member) (Nat.not_le.mpr unfinished)
  have after : Recorded first (cast ++ [(player, accept)])
      (boot.votes.assign player (.ofBool accept)) := recorded.vote pending
  obtain ⟨agree, hopeful, given⟩ := counts_vote pending accept
  have agreeBefore := recorded.count isAgree rfl
  have agreeAfter := after.count isAgree rfl
  have hopefulAfter := after.count isHopeful rfl
  have within := countAfter_agree_le_hopeful first (cast ++ [(player, accept)])
  have few : (boot.votes.assign player (.ofBool accept)).countWhere isAgree ≤
      lfgGroupKickVotesNeeded := by
    split_ifs at agree <;> omega
  have settled : Settled first (cast ++ [(player, accept)]) ↔
      (boot.votes.assign player (.ofBool accept)).countWhere isAgree = lfgGroupKickVotesNeeded ∨
        (boot.votes.assign player (.ofBool accept)).countWhere isHopeful <
          lfgGroupKickVotesNeeded := by
    grind [Settled]
  have proper : ProperVote group (world, cast) (player, some group, accept) ↔
      (boot.votes.assign player (.ofBool accept)).countWhere isGiven < 256 ∨
        lfgGroupKickVotesNeeded ≤
          (boot.votes.assign player (.ofBool accept)).countWhere isHopeful := by
    unfold ProperVote
    constructor
    · intro holds
      have here := holds rfl boot isOpen
      rw [if_pos pending] at here
      change _ ∨ lfgGroupKickVotesNeeded + (if accept = true then 0 else 1) ≤ _ at here
      omega
    · rintro holds - other isOther
      obtain rfl : boot = other := Option.some.inj (isOpen.symm.trans isOther)
      rw [if_pos pending]
      change _ ∨ lfgGroupKickVotesNeeded + (if accept = true then 0 else 1) ≤ _
      omega
  have nonempty : cast ++ [(player, accept)] ≠ [] := by simp
  rw [proper]
  generalize isVotes : boot.votes.assign player (.ofBool accept) = votes at *
  have turn : castNext online group (world, cast) (player, some group, accept) =
      (if endsBoot votes lfgGroupKickVotesNeeded then
          finishBoot online world group { boot with votes := votes } else { world with
          boots := Function.update world.boots group (some { boot with votes := votes }) },
        cast ++ [(player, accept)]) := by
    simp_all [castNext, updateBoot, voteOf]
  rw [turn]
  obtain ⟨finishedBoots, finishedRemoved⟩ :=
    finishBoot_spec online world group { boot with votes := votes }
  by_cases ends : endsBoot votes lfgGroupKickVotesNeeded
  · rw [if_pos ends]
    rw [endsBoot_iff few] at ends
    have isOver : Settled first (cast ++ [(player, accept)]) := settled.mpr (ends.imp_right And.left)
    have noBoot : (finishBoot online world group { boot with votes := votes }).boots group = none := by
      rw [finishedBoots, Function.update_self]
    refine ⟨fun _ => by omega, fun _ => Tracked.closed noBoot nonempty isOver ?_⟩
    have agreeNum : (countVotes votes.entries).2 = votes.countWhere isAgree := by
      rw [countVotes_eq]
      change votes.countWhere isAgree % 256 = _
      unfold lfgGroupKickVotesNeeded at few
      omega
    rw [finishedRemoved, agreeNum, isNeeded, ← agreeAfter]
    by_cases passed : votes.countWhere isAgree = lfgGroupKickVotesNeeded
    · simp_all
    · grind
  · rw [if_neg ends]
    rw [endsBoot_iff few, not_or] at ends
    have found : (Function.update world.boots group (some { boot with votes := votes })) group =
        some { boot with votes := votes } := Function.update_self ..
    constructor
    · intro right
      have unsettled : ¬ Settled first (cast ++ [(player, accept)]) := by
        intro isOver
        exact absurd (found.symm.trans (right.ended.mpr ⟨nonempty, isOver⟩)) (by simp)
      rw [settled, not_or] at unsettled
      omega
    · intro holds
      have unsettled : ¬ Settled first (cast ++ [(player, accept)]) := by
        grind
      have unfinishedAfter : countAfter isAgree first (cast ++ [(player, accept)]) <
          lfgGroupKickVotesNeeded := by
        omega
      exact Tracked.ofOpen found after ⟨isNeeded, isVictim⟩ unfinishedAfter notRemoved
        (Or.inr unsettled)

theorem updateBoot_ignored (tracked : Tracked first group victim (world, cast))
    (isOpen : world.boots group = some boot) (given : boot.votes.find player ≠ some .pending) :
    (Right first group victim (castNext online group (world, cast) (player, some group, accept)) →
      ProperVote group (world, cast) (player, some group, accept)) ∧
    (ProperVote group (world, cast) (player, some group, accept) → Tracked first group victim
        (castNext online group (world, cast) (player, some group, accept))) := by
  have recorded := tracked.recorded boot isOpen
  have unfinished : countAfter isAgree first cast < lfgGroupKickVotesNeeded :=
    tracked.unfinished boot isOpen
  have notRemoved : (group, victim) ∉ world.removed := fun member =>
    absurd (tracked.right.removed.mp member) (Nat.not_le.mpr unfinished)
  have hopeful := recorded.count isHopeful rfl
  obtain ⟨answered, after⟩ := recorded.ignore given accept
  have same (test : LfgAnswer → Bool) :
      countAfter test first (cast ++ [(player, accept)]) = countAfter test first cast := by
    unfold countAfter
    simp only [recorded.answerAfter_ignored given]
  have settled : Settled first (cast ++ [(player, accept)]) ↔
      countAfter isHopeful first cast < lfgGroupKickVotesNeeded := by
    simp_all [Settled]
  have proper : ProperVote group (world, cast) (player, some group, accept) ↔
      lfgGroupKickVotesNeeded ≤ countAfter isHopeful first cast := by
    unfold ProperVote
    rw [← show _ = countAfter isHopeful first cast from hopeful]
    constructor
    · intro holds
      have here := holds rfl boot isOpen
      rwa [if_neg given] at here
    · rintro holds - other isOther
      obtain rfl : boot = other := Option.some.inj (isOpen.symm.trans isOther)
      rwa [if_neg given]
  have turn : castNext online group (world, cast) (player, some group, accept) =
      ({ world with
          boots := Function.update world.boots group
            (some { boot with votes := (voteOf boot.votes player).2 }) },
        cast ++ [(player, accept)]) := by
    simp_all [castNext, updateBoot]
  have found : (Function.update world.boots group
      (some { boot with votes := (voteOf boot.votes player).2 })) group =
      some { boot with votes := (voteOf boot.votes player).2 } := Function.update_self ..
  rw [turn, proper]
  constructor
  · intro right
    by_contra few
    have isOver := right.ended.mpr ⟨by simp, settled.mpr (Nat.not_le.mp few)⟩
    exact absurd (found.symm.trans isOver) (by simp)
  · intro holds
    refine Tracked.ofOpen found after (tracked.settings boot isOpen) ?_ notRemoved (Or.inr ?_)
    · rwa [same]
    · rw [settled]
      exact Nat.not_lt.mpr holds

theorem updateBoot_closed (online : PlayerGuid → Bool) (player : PlayerGuid) (accept : Bool)
    (tracked : Tracked first group victim (world, cast)) (noBoot : world.boots group = none) :
    Tracked first group victim
      (castNext online group (world, cast) (player, some group, accept)) := by
  have turn : castNext online group (world, cast) (player, some group, accept) =
      (world, cast ++ [(player, accept)]) := by
    simp_all [castNext, updateBoot]
  obtain ⟨_, settled⟩ := tracked.right.ended.mp noBoot
  rw [turn]
  refine Tracked.closed noBoot (by simp) (settled.append _) ?_
  exact tracked.right.removed.trans (settled.agreed_iff _).symm

theorem castNext_iff (tracked : Tracked first group victim (world, cast)) (vote : BootVote) :
    (Right first group victim (castNext online group (world, cast) vote) →
      ProperVote group (world, cast) vote) ∧
    (ProperVote group (world, cast) vote →
      Tracked first group victim (castNext online group (world, cast) vote)) := by
  obtain ⟨player, place, accept⟩ := vote
  by_cases here : place = some group
  · subst here
    cases isOpen : world.boots group with
    | none =>
      have kept := updateBoot_closed online player accept tracked isOpen
      exact ⟨fun _ _ boot found => absurd (isOpen.symm.trans found) (by simp), fun _ => kept⟩
    | some boot =>
      by_cases pending : boot.votes.find player = some .pending
      · exact updateBoot_counted tracked isOpen pending
      · exact updateBoot_ignored tracked isOpen pending
  · refine ⟨fun _ inGroup => absurd inGroup here, fun _ => ?_⟩
    obtain ⟨boots, removed⟩ :=
      updateBoot_other online world player accept here victim
    have turn : castNext online group (world, cast) (player, place, accept) =
        (updateBoot online world player place accept, cast) := by
      simp [castNext, here]
    rw [turn]
    refine ⟨⟨?_, ?_, ?_⟩, ?_, ?_, ?_⟩
    · simp only [boots]
      exact tracked.right.counted
    · exact removed.trans tracked.right.removed
    · simp only [boots]
      exact tracked.right.ended
    · simp only [boots]
      exact tracked.recorded
    · simp only [boots]
      exact tracked.settings
    · simp only [boots]
      exact tracked.unfinished

end Step

def firstVotes (members : List PlayerGuid) (kicker victim : PlayerGuid) : Votes :=
  members.foldl (fun votes guid => votes.assign guid (firstAnswer kicker victim guid)) OrdMap.empty

section Start

variable {members : List PlayerGuid} {kicker victim guid : PlayerGuid}

theorem find_firstVotes : (firstVotes members kicker victim).find guid =
    if guid ∈ members then some (firstAnswer kicker victim guid) else none := by
  have found (votes : Votes) :
      (members.foldl (fun votes guid => votes.assign guid (firstAnswer kicker victim guid))
        votes).find guid =
      if guid ∈ members then some (firstAnswer kicker victim guid) else votes.find guid := by
    induction members generalizing votes with
    | nil => simp
    | cons first rest ih =>
      rw [List.foldl_cons, ih, OrdMap.find_assign, Function.update_apply]
      by_cases later : guid ∈ rest
      · simp [later]
      · by_cases here : guid = first <;> simp [later, here]
  exact found OrdMap.empty

theorem firstVotes_recorded :
    Recorded (firstVotes members kicker victim) [] (firstVotes members kicker victim) := by
  constructor
  · intro guid listed
    obtain ⟨answer, found⟩ := Option.isSome_iff_exists.mp listed
    rw [answerAfter_nil, found, Option.getD_some]
  · simp_all

theorem agree_firstVotes :
    countAfter isAgree (firstVotes members kicker victim) [] < lfgGroupKickVotesNeeded := by
  have atMostKicker : countAfter isAgree (firstVotes members kicker victim) [] ≤
      ((firstVotes members kicker victim).entries.map Prod.fst).count kicker := by
    refine List.countP_mono_left fun guid listed agreed => ?_
    have isMember := OrdMap.mem_keys.mp listed
    simp only [isAgree, answerAfter_nil, find_firstVotes, decide_eq_true_eq] at agreed isMember
    by_cases member : guid ∈ members
    · grind [firstAnswer]
    · exact absurd (if_neg member) isMember
  have once := List.nodup_iff_count_le_one.mp
    (firstVotes members kicker victim).keys_nodup kicker
  unfold lfgGroupKickVotesNeeded
  omega

end Start

/-- From the beginning of a vote about a kick, all is right after each vote exactly when the votes
are proper: no vote that counts comes with too many answers for the counters while it settles the
outcome against the kick, and no other vote comes when the outcome was settled from the start. -/
theorem kickVotes_right_iff (online : PlayerGuid → Bool) (world : BootWorld) (now group : Nat)
    (members : List PlayerGuid) (kicker victim : PlayerGuid) (reason : String)
    (absent : (group, victim) ∉ world.removed) (votes : List BootVote) :
    Always (castNext online group) (Right (firstVotes members kicker victim) group victim)
        (initBoot world now group members kicker victim reason, []) votes ↔
      Along (castNext online group) (ProperVote group)
        (initBoot world now group members kicker victim reason, []) votes := by
  have start : Tracked (firstVotes members kicker victim) group victim
      (initBoot world now group members kicker victim reason, []) := by
    have same := boots_setStates members (world.setState (.group group) .boot)
      (fun world guid => world.setState (.player guid) .boot) (fun _ _ => ⟨rfl, rfl⟩)
    refine Tracked.ofOpen (Function.update_self ..) firstVotes_recorded ⟨rfl, rfl⟩
      agree_firstVotes ?_ (Or.inl rfl)
    unfold initBoot
    rwa [same.2]
  exact always_property_iff_along (fun state tracked => Tracked.right tracked)
    (fun state vote tracked => (castNext_iff tracked vote).1)
    (fun state vote tracked => (castNext_iff tracked vote).2) start

def quietBoots : BootWorld := ⟨fun _ => none, fun _ => ⟨.none, .none⟩, fun _ => 3, []⟩

/-- Of five members, two agree with the kicker; one of them says so twice, and a stranger votes. -/
theorem kickVotes_right_iff_five :
    Always (castNext (fun _ => true) 7) (Right (firstVotes [0, 1, 2, 3, 4] 1 0) 7 0)
      (initBoot quietBoots 0 7 [0, 1, 2, 3, 4] 1 0 "afk", [])
      [(2, some 7, true), (2, some 7, true), (9, some 7, false), (3, some 7, true)] := by
  refine (kickVotes_right_iff _ quietBoots 0 7 [0, 1, 2, 3, 4] 1 0 "afk" (by simp [quietBoots])
    _).mpr ⟨?_, ?_, ?_, ?_, trivial⟩
  all_goals
    rintro - boot ⟨⟩
    decide +kernel

def crowd : List BootVote :=
  (List.range 252).map (fun index => (Fin.ofNat _ (index + 5), some 7, false)) ++
    [(2, some 7, false), (3, some 7, false)]

theorem not_right_of_open {first : Votes} {group : Nat} {victim : PlayerGuid}
    {state : BootWorld × List (PlayerGuid × Bool)}
    (goesOn : (state.1.boots group).isSome = true ∧ state.2 ≠ [] ∧
      countAfter isHopeful first state.2 < lfgGroupKickVotesNeeded) :
    ¬ Right first group victim state := by
  obtain ⟨isOpen, nonempty, few⟩ := goesOn
  intro right
  have noBoot := right.ended.mpr ⟨nonempty, Or.inr few⟩
  rw [noBoot] at isOpen
  cases isOpen

/-- The vote goes on after 252 strangers have looked in and only two are left who may agree; and it
goes on with the kicker and the victim alone, when the kicker says yes again. -/
theorem kickVotes_go_on :
    ¬ Always (castNext (fun _ => true) 7) (Right (firstVotes [0, 1, 2, 3, 4] 1 0) 7 0)
        (initBoot quietBoots 0 7 [0, 1, 2, 3, 4] 1 0 "afk", []) crowd ∧
      ¬ Always (castNext (fun _ => true) 7) (Right (firstVotes [0, 1] 1 0) 7 0)
        (initBoot quietBoots 0 7 [0, 1] 1 0 "afk", []) [(1, some 7, true)] := by
  constructor
  · intro always
    exact not_right_of_open (by decide +kernel) always.last
  · intro always
    exact not_right_of_open (by decide +kernel) always.last

end DarkCore.DungeonFinding
