/-
The tallies of a roll against its recorded votes. A vote raises its tally and
overwrites the recorded vote; a departure takes the recorded vote out of its
tally. The two agree as long as no player votes a second time on a roll.
-/

import DarkCore.Groups.Rolls

namespace DarkCore.Groups

open Lib

def countsAsPass (vote : RollVote) : Bool := vote == .pass

structure Roll.Tallied (roll : Roll) : Prop where
  need : roll.totalNeed = roll.playerVote.countWhere countsAsNeed
  greed : roll.totalGreed = roll.playerVote.countWhere countsAsGreed
  pass : roll.totalPass = roll.playerVote.countWhere countsAsPass
  rolling : roll.totalPlayersRolling = roll.playerVote.entries.length

def Roll.AllVoted (roll : Roll) : Prop :=
  ∀ entry ∈ roll.playerVote.entries, entry.2 ≠ .notEmitedYet

def FirstVote (state : State) : Step → Prop
  | .vote guid itemGUID choice _ _ =>
    ∀ index roll, guid ∈ state.group.memberSlots →
      votableRoll state guid itemGUID = some (index, roll) → (voteOf choice).isSome →
        roll.playerVote.find guid = some .notEmitedYet
  | _ => True

def ResolvedByAll (state : State) : Step → Prop
  | .vote guid itemGUID choice _ _ =>
    ∀ index roll, guid ∈ state.group.memberSlots →
      votableRoll state guid itemGUID = some (index, roll) →
        (roll.choose guid choice).decided = true → (roll.choose guid choice).AllVoted
  | _ => True

section Counting

theorem increment_eq {tally : Nat} (small : tally < 255) : increment tally = tally + 1 :=
  Nat.mod_eq_of_lt (Nat.succ_lt_succ small)

theorem decrement_eq {tally : Nat} (small : tally < 256) (positive : 0 < tally) :
    decrement tally = tally - 1 := by
  unfold decrement
  omega

theorem classes_le (entries : List (Nat × RollVote)) :
    (entries.countP fun entry => countsAsNeed entry.2) +
        (entries.countP fun entry => countsAsGreed entry.2) +
        (entries.countP fun entry => countsAsPass entry.2) +
        (entries.countP fun entry => entry.2 == .notEmitedYet) ≤ entries.length := by
  induction entries with
  | nil => exact Nat.le_refl 0
  | cons entry rest ih =>
    obtain ⟨guid, vote⟩ := entry
    have single : (if countsAsNeed vote then 1 else 0) + (if countsAsGreed vote then 1 else 0) +
        (if countsAsPass vote then 1 else 0) + (if vote == .notEmitedYet then 1 else 0) ≤ 1 := by
      cases vote <;> decide
    rw [List.countP_cons, List.countP_cons, List.countP_cons, List.countP_cons, List.length_cons]
    dsimp only
    omega

variable {roll : Roll}

theorem Roll.Tallied.allVoted (tallied : roll.Tallied) (decided : roll.decided = true) :
    roll.AllVoted := by
  intro entry member pending
  have counted : 0 < roll.playerVote.entries.countP fun entry => entry.2 == .notEmitedYet := by
    grind
  have all := classes_le roll.playerVote.entries
  have reached := of_decide_eq_true decided
  rw [tallied.need, tallied.greed, tallied.pass, tallied.rolling] at reached
  unfold OrdMap.countWhere at reached
  omega

end Counting

section Changes

variable {roll : Roll} {guid : Nat}

theorem tally_assign {map : OrdMap Nat RollVote} {key tally : Nat} {vote : RollVote}
    {test : RollVote → Bool} (counted : tally = map.countWhere test)
    (small : map.entries.length < 255) (before : OrdMap.weight test (map.find key) = 0) :
    (if test vote then increment tally else tally) =
      (map.assign key vote).countWhere test := by
  have assigned := @OrdMap.countWhere_assign _ _ _ map key vote test
  have bounded : map.countWhere test ≤ map.entries.length := OrdMap.countWhere_le_length test
  rw [before, OrdMap.weight_some] at assigned
  split
  · rename_i counts
    rw [increment_eq (by omega), counted]
    rw [if_pos counts] at assigned
    omega
  · simp_all

theorem Roll.Tallied.cast (tallied : roll.Tallied) (small : roll.playerVote.entries.length < 255)
    (pending : roll.playerVote.find guid = some .notEmitedYet) (vote : RollVote) :
    (roll.cast guid vote).Tallied := by
  have length : (roll.playerVote.assign guid vote).entries.length = _ :=
    OrdMap.length_assign_some pending
  have need := @tally_assign _ guid _ vote _ tallied.need small (by rw [pending]; rfl)
  have greed := @tally_assign _ guid _ vote _ tallied.greed small (by rw [pending]; rfl)
  have pass := @tally_assign _ guid _ vote _ tallied.pass small (by rw [pending]; rfl)
  have rolling : roll.totalPlayersRolling = (roll.playerVote.assign guid vote).entries.length :=
    tallied.rolling.trans length.symm
  unfold Roll.cast
  cases vote with
  | pass | need | greed | disenchant | notEmitedYet | notValid => exact ⟨need, greed, pass, rolling⟩

theorem tally_erase {map : OrdMap Nat RollVote} {key tally : Nat} {vote : RollVote}
    {test : RollVote → Bool} (counted : tally = map.countWhere test)
    (small : map.entries.length < 255) (recorded : map.find key = some vote) :
    (if test vote then decrement tally else tally) = (map.erase key).countWhere test := by
  have erased := @OrdMap.countWhere_erase _ _ _ map key test
  have bounded : map.countWhere test ≤ map.entries.length := OrdMap.countWhere_le_length test
  rw [recorded, OrdMap.weight_some] at erased
  split
  · rename_i counts
    rw [if_pos counts] at erased
    rw [decrement_eq (by omega) (by omega), counted]
    omega
  · simp_all

theorem Roll.Tallied.remove (tallied : roll.Tallied)
    (small : roll.playerVote.entries.length < 255) {vote : RollVote}
    (recorded : roll.playerVote.find guid = some vote) (valid : vote ≠ .notValid) :
    (roll.remove guid vote).Tallied := by
  have length := OrdMap.length_erase_some recorded
  have need := tally_erase tallied.need small recorded
  have greed := tally_erase tallied.greed small recorded
  have pass := tally_erase tallied.pass small recorded
  have rolling : (if vote = .notValid then roll.totalPlayersRolling
      else decrement roll.totalPlayersRolling) = (roll.playerVote.erase guid).entries.length := by
    rw [if_neg valid, tallied.rolling, ← length, decrement_eq (by omega) (Nat.succ_pos _)]
    rfl
  unfold Roll.remove
  cases vote with
  | pass | need | greed | disenchant | notEmitedYet => exact ⟨need, greed, pass, rolling⟩
  | notValid => exact absurd rfl valid

end Changes

structure Roll.Sound (roll : Roll) : Prop where
  tallied : roll.Tallied
  small : roll.playerVote.entries.length ≤ maxRaidSize
  valid : ∀ entry ∈ roll.playerVote.entries, entry.2 ≠ .notValid

structure State.Sound (state : State) : Prop where
  numbered : state.Numbered
  rolls : ∀ roll ∈ state.group.rollId, roll.Sound

section Runs

variable {roll : Roll} {guid : Nat}

theorem empty_sound (itemGUID itemid itemSlot object : Nat) :
    (Roll.empty itemGUID itemid itemSlot object).Sound where
  tallied := ⟨rfl, rfl, rfl, rfl⟩
  small := Nat.zero_le _
  valid := by
    intro entry member
    cases member

theorem enter_tallied (tallied : roll.Tallied) (small : roll.playerVote.entries.length < 255)
    (absent : roll.playerVote.find guid = none) (passes : Bool) :
    (roll.enter guid passes).Tallied := by
  have none_counted : ∀ test, OrdMap.weight test (roll.playerVote.find guid) = 0 := by
    intro test
    rw [absent]
    rfl
  have rolling : ∀ vote, increment roll.totalPlayersRolling =
      (roll.playerVote.assign guid vote).entries.length := by
    intro vote
    rw [OrdMap.length_assign_none absent, tallied.rolling, increment_eq small]
  have need := fun vote => @tally_assign _ _ _ vote _ tallied.need small (none_counted _)
  have greed := fun vote => @tally_assign _ _ _ vote _ tallied.greed small (none_counted _)
  have pass := fun vote => @tally_assign _ _ _ vote _ tallied.pass small (none_counted _)
  unfold Roll.enter
  split
  · exact ⟨need .pass, greed .pass, pass .pass, rolling .pass⟩
  · exact ⟨need .notEmitedYet, greed .notEmitedYet, pass .notEmitedYet, rolling .notEmitedYet⟩

theorem enter_votes (passes : Bool) :
    ∃ vote, (vote = .pass ∨ vote = .notEmitedYet) ∧
      (roll.enter guid passes).playerVote = roll.playerVote.assign guid vote := by
  unfold Roll.enter
  split
  · exact ⟨.pass, Or.inl rfl, rfl⟩
  · exact ⟨.notEmitedYet, Or.inr rfl, rfl⟩

theorem enterAll_sound {near : Surroundings} {takesPart : Nat → Bool} {guids : List Nat}
    (distinct : guids.Nodup) (absent : ∀ guid ∈ guids, roll.playerVote.find guid = none)
    (room : roll.playerVote.entries.length + guids.length ≤ maxRaidSize) (sound : roll.Sound) :
    (Roll.enterAll near takesPart guids roll).Sound := by
  induction guids generalizing roll with
  | nil => exact sound
  | cons guid rest ih =>
    obtain ⟨fresh, restDistinct⟩ := List.nodup_cons.mp distinct
    have away := absent guid List.mem_cons_self
    rw [List.length_cons] at room
    unfold Roll.enterAll
    split
    · obtain ⟨vote, shown, votes⟩ := @enter_votes roll guid (near.passOnGroupLoot guid)
      have length : (roll.enter guid (near.passOnGroupLoot guid)).playerVote.entries.length =
          roll.playerVote.entries.length + 1 := by
        rw [votes]
        exact OrdMap.length_assign_none away
      have room' : roll.playerVote.entries.length + 1 + rest.length ≤ maxRaidSize := by omega
      apply ih restDistinct
      · intro other member
        rw [votes, OrdMap.find_eq_none]
        intro entry inMap
        rcases OrdMap.mem_assign inMap with new | old
        · grind
        · exact OrdMap.find_eq_none.mp (absent other (List.mem_cons_of_mem guid member)) entry old
      · omega
      · constructor
        · have bound : maxRaidSize = 40 := rfl
          exact enter_tallied sound.tallied (by omega) away _
        · omega
        · intro entry member
          rw [votes] at member
          rcases OrdMap.mem_assign member with new | old
          · rw [new]
            rintro invalid
            rcases shown with pass | pending
            · cases pass.symm.trans invalid
            · cases pending.symm.trans invalid
          · exact sound.valid entry old
    · apply ih restDistinct
      · simp_all
      · omega
      · exact sound

theorem Roll.Sound.short (sound : roll.Sound) : roll.playerVote.entries.length < 255 := by
  have small := sound.small
  have bound : maxRaidSize = 40 := rfl
  omega

theorem voteOf_emitted {choice : Nat} {vote : RollVote} (chosen : voteOf choice = some vote) :
    vote ≠ .notEmitedYet ∧ vote ≠ .notValid := by
  unfold voteOf at chosen
  split at chosen
  all_goals cases chosen
  all_goals
    constructor <;> rintro ⟨⟩

theorem Roll.Sound.choose (sound : roll.Sound) {choice : Nat}
    (first : (voteOf choice).isSome → roll.playerVote.find guid = some .notEmitedYet) :
    (roll.choose guid choice).Sound := by
  unfold Roll.choose
  split
  · rename_i vote chosen
    have pending := first (by rw [chosen]; rfl)
    have votes : (roll.cast guid vote).playerVote = roll.playerVote.assign guid vote := by
      unfold Roll.cast
      cases vote <;> rfl
    constructor
    · exact sound.tallied.cast sound.short pending vote
    · rw [votes, OrdMap.length_assign_some pending]
      exact sound.small
    · intro entry member
      rw [votes] at member
      rcases OrdMap.mem_assign member with new | old
      · rw [new]
        exact (voteOf_emitted chosen).2
      · exact sound.valid entry old
  · exact sound

theorem Roll.Sound.without (sound : roll.Sound) (guid : Nat) : (roll.without guid).Sound := by
  unfold Roll.without
  split
  · exact sound
  · rename_i vote recorded
    have votes := (remove_keeps roll guid vote).2.2.2
    have length := OrdMap.length_erase_some recorded
    constructor
    · exact sound.tallied.remove sound.short recorded
        (sound.valid _ (OrdMap.find_eq_some.mp recorded))
    · rw [votes]
      exact Nat.le_trans (Nat.le_of_add_right_le (Nat.le_of_eq length)) sound.small
    · intro entry member
      rw [votes] at member
      exact sound.valid entry (OrdMap.mem_erase.mp member).1

theorem initial_sound (lootThreshold : Nat) (isRaidGroup isBGGroup : Bool) (nextItemGuid : Nat) :
    (State.initial lootThreshold isRaidGroup isBGGroup nextItemGuid).Sound where
  numbered := initial_numbered lootThreshold isRaidGroup isBGGroup nextItemGuid
  rolls := by
    intro roll member
    cases member

theorem next_sound (state : State) (action : Step) (sound : state.Sound)
    (first : FirstVote state action) : (next state action).Sound where
  numbered := next_numbered action sound.numbered
  rolls := by
    intro roll member
    cases next_origin sound.numbered member with
    | kept member => exact sound.rolls roll member
    | cut old member same =>
      obtain ⟨tallied, small, valid⟩ := sound.rolls old member
      rw [same]
      exact ⟨⟨tallied.need, tallied.greed, tallied.pass, tallied.rolling⟩, small, valid⟩
    | voted guid itemGUID choice players dice index old byVote voter votable same =>
      rw [byVote] at first
      rw [same]
      obtain ⟨there, _⟩ := votableRoll_some votable
      exact (sound.rolls old (List.mem_of_getElem? there)).choose
        (first index old voter votable)
    | left guid old member same =>
      rw [same]
      exact (sound.rolls old member).without guid
    | entered near takesPart itemGUID itemid itemSlot object same =>
      rw [same]
      apply enterAll_sound sound.numbered.distinct
      · intro guid _
        rfl
      · exact (Nat.zero_add _).symm ▸ sound.numbered.members
      · exact empty_sound itemGUID itemid itemSlot object

theorem resolved_by_all (state : State) (action : Step) (sound : state.Sound)
    (first : FirstVote state action) : ResolvedByAll state action := by
  cases action with
  | vote guid itemGUID choice players dice =>
    intro index roll voter votable decided
    obtain ⟨there, _⟩ := votableRoll_some votable
    have voted := (sound.rolls roll (List.mem_of_getElem? there)).choose
      (first index roll voter votable)
    exact voted.tallied.allVoted decided
  | _ => exact trivial

/-- Without a repeated vote the tallies agree with the recorded votes in every state, and a vote
resolves a roll only when all its participants have voted. -/
theorem rolls_stay_tallied (lootThreshold : Nat) (isRaidGroup isBGGroup : Bool)
    (nextItemGuid : Nat) (actions : List Step)
    (firstVotes : Along next FirstVote
      (State.initial lootThreshold isRaidGroup isBGGroup nextItemGuid) actions) :
    Always next (fun state => ∀ roll ∈ state.group.rollId, roll.Tallied)
        (State.initial lootThreshold isRaidGroup isBGGroup nextItemGuid) actions ∧
      Along next ResolvedByAll
        (State.initial lootThreshold isRaidGroup isBGGroup nextItemGuid) actions := by
  have start := initial_sound lootThreshold isRaidGroup isBGGroup nextItemGuid
  constructor
  · apply (always_of_step next_sound start firstVotes).imp
    intro state sound roll member
    exact (sound.rolls roll member).tallied
  · exact along_of_step next_sound resolved_by_all start firstVotes

end Runs

section Example

def everyone : Surroundings where
  quality := fun _ => some 3
  allowed := fun _ _ => true
  canUseItem := fun _ _ => true
  passOnGroupLoot := fun _ => false

def allOnline : Players where
  online := fun _ => true
  canStoreNewItem := fun _ _ _ => true

def lowDice : Dice := fun _ _ => 0

def opening : List Step :=
  [.join 1, .join 2, .join 3, .fill 7 [(50, 1, false)], .open 7 false everyone]

/-- Two players vote once, the third leaves. -/
theorem rolls_stay_tallied_opening :
    Always next (fun state => ∀ roll ∈ state.group.rollId, roll.Tallied)
        (State.initial 2 false false 100)
        (opening ++ [.vote 1 100 1 allOnline lowDice, .leave 3 allOnline lowDice,
          .vote 2 100 0 allOnline lowDice]) ∧
      Along next ResolvedByAll (State.initial 2 false false 100)
        (opening ++ [.vote 1 100 1 allOnline lowDice, .leave 3 allOnline lowDice,
          .vote 2 100 0 allOnline lowDice]) := by
  apply rolls_stay_tallied
  refine ⟨trivial, trivial, trivial, trivial, trivial, ?_, trivial, ?_, trivial⟩
  · intro index roll _ votable _
    cases votable
    rfl
  · intro index roll _ votable _
    cases votable
    rfl

/-- Player 1 votes NEED three times: the tally counts each vote, and the roll is resolved
without the other two. -/
theorem repeated_vote_resolves :
    ¬ Always next (fun state => ∀ roll ∈ state.group.rollId, roll.Tallied)
        (State.initial 2 false false 100)
        (opening ++ [.vote 1 100 1 allOnline lowDice, .vote 1 100 1 allOnline lowDice,
          .vote 1 100 1 allOnline lowDice]) ∧
      ¬ Along next ResolvedByAll (State.initial 2 false false 100)
        (opening ++ [.vote 1 100 1 allOnline lowDice, .vote 1 100 1 allOnline lowDice,
          .vote 1 100 1 allOnline lowDice]) := by
  constructor
  · rintro ⟨_, _, _, _, _, _, _, tallied, _⟩
    exact absurd (tallied _ List.mem_cons_self).need (by decide)
  · rintro ⟨_, _, _, _, _, _, _, resolved, _⟩
    exact resolved 0 _ (by decide) rfl rfl (2, .notEmitedYet) (by decide) rfl

end Example

end DarkCore.Groups
