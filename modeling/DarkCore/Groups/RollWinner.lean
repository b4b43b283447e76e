/-
Who wins a roll. The search takes the highest dice of one kind of vote, but it
is the tallies that choose the kind, and the search falls back on the first
participant when nobody voted that way. So the right player wins exactly when
the tallies and the recorded votes agree on which kinds of vote there are.
-/

import DarkCore.Groups.RollTallies

namespace DarkCore.Groups

open Lib

/-! ### The rightful winner -/

def Roll.eligible (roll : Roll) : RollVote → Bool :=
  if 0 < roll.playerVote.countWhere countsAsNeed then countsAsNeed else countsAsGreed

structure Roll.Leads (dice : Dice) (counts : RollVote → Bool) (roll : Roll) (guid : Nat)
    (vote : RollVote) : Prop where
  voted : (guid, vote) ∈ roll.playerVote.entries
  counted : counts vote = true
  highest : ∀ entry ∈ roll.playerVote.entries, counts entry.2 = true →
    randomN dice roll entry.1 ≤ randomN dice roll guid
  first : ∀ entry ∈ roll.playerVote.entries, counts entry.2 = true →
    randomN dice roll entry.1 = randomN dice roll guid → guid ≤ entry.1

def Effect.recipient : Effect → Option Nat
  | .lootRollWon _ guid _ _ => some guid
  | .allPassed _ => none
  | .stored guid _ _ => some guid
  | .disenchanted guid _ => some guid
  | .equipError guid _ => some guid

/-- The item goes to the rightful winner, who gets it when he is there and has room for it. -/
structure Roll.Awarded (players : Players) (dice : Dice) (count : Nat) (roll : Roll)
    (effects : List Effect) : Prop where
  announced : (∃ entry ∈ roll.playerVote.entries, roll.eligible entry.2 = true) →
    ∃ guid vote, roll.Leads dice roll.eligible guid vote ∧
      Effect.lootRollWon roll.itemGUID guid (randomN dice roll guid) vote ∈ effects ∧
      (players.online guid = true → players.canStoreNewItem guid roll.itemid count = true →
        Effect.stored guid roll.itemid count ∈ effects ∨
          Effect.disenchanted guid roll.itemid ∈ effects)
  onlyWinner : ∀ effect ∈ effects, ∀ guid, effect.recipient = some guid →
    ∃ vote, roll.Leads dice roll.eligible guid vote

/-- The tallies agree with the recorded votes on whether anybody needs and, if nobody does, on
whether anybody is greedy; or nobody is left. -/
def Roll.Consistent (roll : Roll) : Prop :=
  roll.playerVote.entries = [] ∨
    ((0 < roll.totalNeed ↔ 0 < roll.playerVote.countWhere countsAsNeed) ∧
      (roll.playerVote.countWhere countsAsNeed = 0 →
        (0 < roll.totalGreed ↔ 0 < roll.playerVote.countWhere countsAsGreed)))

/-! ### The search -/

section Search

variable {random : Nat → Nat} {counts : RollVote → Bool} {entries : List (Nat × RollVote)}
  {best : Best}

theorem searchWinner_kept
    (lower : ∀ entry ∈ entries, counts entry.2 = true → random entry.1 ≤ best.maxresul) :
    searchWinner random counts entries best = best := by
  induction entries with
  | nil => rfl
  | cons entry rest ih =>
    have later := ih fun other member => lower other (List.mem_cons_of_mem entry member)
    unfold searchWinner
    split
    · simp_all
    · exact later

theorem searchWinner_found
    (sorted : entries.Pairwise fun first second => first.1 < second.1)
    (higher : ∃ entry ∈ entries, counts entry.2 = true ∧ best.maxresul < random entry.1) :
    ∃ winner ∈ entries, counts winner.2 = true ∧ best.maxresul < random winner.1 ∧
      searchWinner random counts entries best = ⟨winner.1, random winner.1, winner.2⟩ ∧
      ∀ entry ∈ entries, counts entry.2 = true → random entry.1 ≤ random winner.1 ∧
        (random entry.1 = random winner.1 → winner.1 ≤ entry.1) := by
  induction entries generalizing best with
  | nil =>
    obtain ⟨entry, member, _⟩ := higher
    cases member
  | cons head rest ih =>
    obtain ⟨below, restSorted⟩ := List.pairwise_cons.mp sorted
    by_cases better : counts head.2 = true ∧ best.maxresul < random head.1
    · obtain ⟨counted, above⟩ := better
      unfold searchWinner
      rw [if_pos counted, if_pos above]
      by_cases later : ∃ entry ∈ rest, counts entry.2 = true ∧ random head.1 < random entry.1
      · obtain ⟨winner, member, winnerCounted, aboveHead, found, wins⟩ :=
          @ih ⟨head.1, random head.1, head.2⟩ restSorted later
        refine ⟨winner, List.mem_cons_of_mem head member, winnerCounted,
          Nat.lt_trans above aboveHead, found, ?_⟩
        intro entry inList entryCounted
        rcases List.mem_cons.mp inList with rfl | inRest
        · exact ⟨Nat.le_of_lt aboveHead, fun same => absurd same (Nat.ne_of_lt aboveHead)⟩
        · exact wins entry inRest entryCounted
      · have lower : ∀ entry ∈ rest, counts entry.2 = true → random entry.1 ≤ random head.1 := by
          grind
        refine ⟨head, List.mem_cons_self, counted, above, searchWinner_kept lower, ?_⟩
        intro entry inList entryCounted
        rcases List.mem_cons.mp inList with rfl | inRest
        · exact ⟨Nat.le_refl _, fun _ => Nat.le_refl _⟩
        · exact ⟨lower entry inRest entryCounted, fun _ => Nat.le_of_lt (below entry inRest)⟩
    · have skipped : searchWinner random counts (head :: rest) best =
          searchWinner random counts rest best := by
        grind [searchWinner]
      have later : ∃ entry ∈ rest, counts entry.2 = true ∧ best.maxresul < random entry.1 := by
        obtain ⟨entry, member, entryBetter⟩ := higher
        rcases List.mem_cons.mp member with rfl | inRest
        · exact absurd entryBetter better
        · exact ⟨entry, inRest, entryBetter⟩
      obtain ⟨winner, member, winnerCounted, aboveBest, found, wins⟩ := ih restSorted later
      refine ⟨winner, List.mem_cons_of_mem head member, winnerCounted, aboveBest,
        skipped.trans found, ?_⟩
      intro entry inList entryCounted
      rcases List.mem_cons.mp inList with rfl | inRest
      · have notAbove : random entry.1 ≤ best.maxresul :=
          Nat.not_lt.mp fun more => better ⟨entryCounted, more⟩
        have under := Nat.lt_of_le_of_lt notAbove aboveBest
        exact ⟨Nat.le_of_lt under, fun same => absurd same (Nat.ne_of_lt under)⟩
      · exact wins entry inRest entryCounted

variable {dice : Dice} {roll : Roll}

theorem randomN_pos (dice : Dice) (roll : Roll) (guid : Nat) : 0 < randomN dice roll guid :=
  Nat.lt_of_lt_of_le Nat.one_pos (Nat.le_add_right 1 _)

theorem countWhere_pos :
    0 < roll.playerVote.countWhere counts ↔
      ∃ entry ∈ roll.playerVote.entries, counts entry.2 = true := by
  unfold OrdMap.countWhere
  rw [List.countP_pos_iff]

theorem rollWinner_leads (voters : 0 < roll.playerVote.countWhere counts) :
    ∃ guid vote, roll.Leads dice counts guid vote ∧
      rollWinner dice roll counts = some ⟨guid, randomN dice roll guid, vote⟩ := by
  obtain ⟨entry, member, counted⟩ := countWhere_pos.mp voters
  unfold rollWinner
  cases listed : roll.playerVote.entries with
  | nil =>
    simp_all
  | cons first rest =>
    rw [listed] at member
    have sorted := roll.playerVote.sorted
    rw [listed] at sorted
    obtain ⟨winner, winnerMember, winnerCounted, _, found, wins⟩ :=
      @searchWinner_found (randomN dice roll) counts (first :: rest) ⟨first.1, 0, .notValid⟩
        sorted ⟨entry, member, counted, randomN_pos dice roll entry.1⟩
    refine ⟨winner.1, winner.2, ⟨?_, winnerCounted, ?_, ?_⟩, congrArg some found⟩
    · simp_all
    · grind
    · grind

theorem rollWinner_guess (noVoters : roll.playerVote.countWhere counts = 0)
    (participants : roll.playerVote.entries ≠ []) :
    ∃ guid, roll.playerVote.entries.head?.map Prod.fst = some guid ∧
      rollWinner dice roll counts = some ⟨guid, 0, .notValid⟩ := by
  unfold rollWinner
  cases listed : roll.playerVote.entries with
  | nil => exact absurd listed participants
  | cons first rest =>
    refine ⟨first.1, rfl, congrArg some ?_⟩
    apply searchWinner_kept
    intro entry member counted
    rw [← listed] at member
    have voters := countWhere_pos.mpr ⟨entry, member, counted⟩
    exact absurd noVoters (Nat.ne_of_gt voters)

theorem rollWinner_nobody (nobody : roll.playerVote.entries = []) :
    rollWinner dice roll counts = none := by
  unfold rollWinner
  rw [nobody]

end Search

/-! ### What the end of a roll announces -/

section Settling

variable {players : Players} {dice : Dice} {roll : Roll} {object : Nat} {state : State}

def rolledCount (state : State) (object : Nat) (roll : Roll) : Nat :=
  ((state.lootItem object roll.itemSlot).map LootItem.count).getD 0

theorem handOut_effects (players : Players) (roll : Roll) (object guid : Nat) (state : State) :
    (handOut players roll object guid state).2 =
      if players.canStoreNewItem guid roll.itemid (rolledCount state object roll) then
        [.stored guid roll.itemid (rolledCount state object roll)]
      else [.equipError guid roll.itemid] := by
  unfold handOut rolledCount
  dsimp only
  split <;> rfl

/-- The effects after the announcement: the item for its winner, or the news that it does not
fit. -/
inductive Handed (players : Players) (count : Nat) (roll : Roll) (guid : Nat) :
    List Effect → Prop where
  | nothing : Handed players count roll guid []
  | stored : Handed players count roll guid [.stored guid roll.itemid count]
  | full (noRoom : players.canStoreNewItem guid roll.itemid count = false) :
      Handed players count roll guid [.equipError guid roll.itemid]
  | disenchanted : Handed players count roll guid [.disenchanted guid roll.itemid]

theorem handOut_handed (guid : Nat) :
    Handed players (rolledCount state object roll) roll guid
      (handOut players roll object guid state).2 := by
  rw [handOut_effects]
  split
  · exact .stored
  · rename_i noRoom
    exact .full (Bool.eq_false_iff.mpr noRoom)

theorem settleRoll_need (needed : 0 < roll.totalNeed) {best : Best}
    (found : rollWinner dice roll countsAsNeed = some best) :
    ∃ rest, (settleRoll players dice roll object state).2 =
        .lootRollWon roll.itemGUID best.maxguid best.maxresul .need :: rest ∧
      Handed players (rolledCount state object roll) roll best.maxguid rest ∧
      (players.online best.maxguid = true → rest ≠ []) := by
  unfold settleRoll
  rw [if_pos needed, found]
  dsimp only
  split
  · refine ⟨_, rfl, handOut_handed best.maxguid, ?_⟩
    intro _
    rw [handOut_effects]
    split <;> exact List.cons_ne_nil _ _
  · rename_i offline
    exact ⟨[], rfl, .nothing, fun online => absurd online offline⟩

theorem settleRoll_greed (noNeed : ¬ 0 < roll.totalNeed) (greedy : 0 < roll.totalGreed)
    {best : Best} (found : rollWinner dice roll countsAsGreed = some best) :
    ∃ rest, (settleRoll players dice roll object state).2 =
        .lootRollWon roll.itemGUID best.maxguid best.maxresul best.rollvote :: rest ∧
      Handed players (rolledCount state object roll) roll best.maxguid rest ∧
      (players.online best.maxguid = true → countsAsGreed best.rollvote = true → rest ≠ []) := by
  unfold settleRoll
  rw [if_neg noNeed, if_pos greedy, found]
  dsimp only
  split
  · split
    · refine ⟨_, rfl, handOut_handed best.maxguid, ?_⟩
      intro _ _
      rw [handOut_effects]
      split <;> exact List.cons_ne_nil _ _
    · exact ⟨_, rfl, .disenchanted, fun _ _ => List.cons_ne_nil _ _⟩
    · rename_i notGreed notDisenchant
      refine ⟨[], rfl, .nothing, ?_⟩
      intro _ counted
      unfold countsAsGreed at counted
      rw [Bool.or_eq_true, beq_iff_eq, beq_iff_eq] at counted
      exact absurd counted (not_or.mpr ⟨notGreed, notDisenchant⟩)
  · rename_i offline
    exact ⟨[], rfl, .nothing, fun online => absurd online offline⟩

theorem settleRoll_passed (noNeed : ¬ 0 < roll.totalNeed) (noGreed : ¬ 0 < roll.totalGreed) :
    (settleRoll players dice roll object state).2 = [.allPassed roll.itemGUID] := by
  unfold settleRoll
  rw [if_neg noNeed, if_neg noGreed]

variable {count : Nat} {rest : List Effect} {guid : Nat}

section

variable (handed : Handed players count roll guid rest)
include handed

theorem Handed.recipient {effect : Effect}
    (member : effect ∈ rest) : effect.recipient = some guid := by
  cases handed with
  | nothing => cases member
  | stored | disenchanted => exact List.mem_singleton.mp member ▸ rfl
  | full noRoom => exact List.mem_singleton.mp member ▸ rfl

theorem Handed.not_won
    {itemGUID winner number : Nat} {vote : RollVote} :
    Effect.lootRollWon itemGUID winner number vote ∉ rest := by
  intro member
  cases handed with
  | nothing => cases member
  | stored | disenchanted => cases List.mem_singleton.mp member
  | full noRoom => cases List.mem_singleton.mp member

theorem Handed.gets (something : rest ≠ [])
    (room : players.canStoreNewItem guid roll.itemid count = true) :
    Effect.stored guid roll.itemid count ∈ rest ∨
      Effect.disenchanted guid roll.itemid ∈ rest := by
  cases handed with
  | nothing => exact absurd rfl something
  | stored => exact Or.inl List.mem_cons_self
  | full noRoom => cases noRoom.symm.trans room
  | disenchanted => exact Or.inr List.mem_cons_self

end

theorem awarded_of_leads {vote : RollVote} (leads : roll.Leads dice roll.eligible guid vote)
    (handed : Handed players count roll guid rest)
    (something : players.online guid = true → rest ≠ []) :
    roll.Awarded players dice count
      (.lootRollWon roll.itemGUID guid (randomN dice roll guid) vote :: rest) where
  announced := by
    intro _
    refine ⟨guid, vote, leads, List.mem_cons_self, ?_⟩
    intro online room
    exact (handed.gets (something online) room).imp (List.mem_cons_of_mem _)
      (List.mem_cons_of_mem _)
  onlyWinner := by
    intro effect member winner received
    rcases List.mem_cons.mp member with first | later
    · rw [first] at received
      cases received
      exact ⟨vote, leads⟩
    · rw [handed.recipient later] at received
      cases received
      exact ⟨vote, leads⟩

theorem not_awarded_of_guess {vote : RollVote} (handed : Handed players count roll guid rest) :
    ¬ roll.Awarded players dice count (.lootRollWon roll.itemGUID guid 0 vote :: rest) := by
  intro awarded
  obtain ⟨guessed, leads⟩ := awarded.onlyWinner _ List.mem_cons_self guid rfl
  obtain ⟨winner, winnerVote, _, won, _⟩ := awarded.announced ⟨_, leads.voted, leads.counted⟩
  rcases List.mem_cons.mp won with same | later
  · injection same with _ _ number _
    exact absurd number (Nat.ne_of_gt (randomN_pos dice roll winner))
  · exact handed.not_won later

theorem eligible_of_need (needed : 0 < roll.playerVote.countWhere countsAsNeed) :
    roll.eligible = countsAsNeed :=
  if_pos needed

theorem eligible_of_greed (noNeed : roll.playerVote.countWhere countsAsNeed = 0) :
    roll.eligible = countsAsGreed :=
  if_neg (Nat.not_lt.mpr (Nat.le_of_eq noNeed))

theorem awarded_nobody (nobody : ∀ entry ∈ roll.playerVote.entries, roll.eligible entry.2 ≠ true)
    {effects : List Effect} (silent : ∀ effect ∈ effects, effect.recipient = none) :
    roll.Awarded players dice count effects where
  announced := by
    grind
  onlyWinner := by
    simp_all

theorem settleRoll_empty (nobody : roll.playerVote.entries = []) :
    ∀ effect ∈ (settleRoll players dice roll object state).2, effect.recipient = none := by
  unfold settleRoll
  rw [rollWinner_nobody nobody, rollWinner_nobody nobody]
  intro effect member
  split at member
  · cases member
  · split at member
    · cases member
    · exact List.mem_singleton.mp member ▸ rfl

theorem settleRoll_awards (consistent : roll.Consistent) :
    roll.Awarded players dice (rolledCount state object roll)
      (settleRoll players dice roll object state).2 := by
  rcases consistent with nobody | ⟨needs, greeds⟩
  · apply awarded_nobody _ (settleRoll_empty nobody)
    rw [nobody]
    intro entry member
    cases member
  · rcases Nat.eq_zero_or_pos (roll.playerVote.countWhere countsAsNeed) with noNeed | needed
    · have noTally : ¬ 0 < roll.totalNeed := fun tally => absurd noNeed (needs.mp tally).ne'
      rcases Nat.eq_zero_or_pos (roll.playerVote.countWhere countsAsGreed) with noGreed | greedy
      · have noGreedTally : ¬ 0 < roll.totalGreed :=
          fun tally => absurd noGreed ((greeds noNeed).mp tally).ne'
        rw [settleRoll_passed noTally noGreedTally]
        apply awarded_nobody
        · rw [eligible_of_greed noNeed]
          intro entry member counted
          exact absurd noGreed (countWhere_pos.mpr ⟨entry, member, counted⟩).ne'
        · intro effect member
          exact List.mem_singleton.mp member ▸ rfl
      · obtain ⟨guid, vote, leads, found⟩ := @rollWinner_leads countsAsGreed dice roll greedy
        obtain ⟨rest, effects, handed, something⟩ :=
          @settleRoll_greed players dice roll object state noTally ((greeds noNeed).mpr greedy) _
            found
        rw [effects]
        rw [← eligible_of_greed noNeed] at leads
        apply awarded_of_leads leads handed
        intro online
        exact something online (eligible_of_greed noNeed ▸ leads.counted)
    · obtain ⟨guid, vote, leads, found⟩ := @rollWinner_leads countsAsNeed dice roll needed
      obtain ⟨rest, effects, handed, something⟩ :=
        @settleRoll_need players dice roll object state (needs.mpr needed) _ found
      have voteIsNeed : vote = .need := beq_iff_eq.mp leads.counted
      rw [effects]
      rw [← eligible_of_need needed, voteIsNeed] at leads
      exact awarded_of_leads leads handed something

theorem settleRoll_consistent
    (awarded : roll.Awarded players dice (rolledCount state object roll)
      (settleRoll players dice roll object state).2) : roll.Consistent := by
  by_cases nobody : roll.playerVote.entries = []
  · exact Or.inl nobody
  · refine Or.inr ?_
    -- somebody eligible is announced, so all cannot have passed
    have notPassed : (∃ entry ∈ roll.playerVote.entries, roll.eligible entry.2 = true) →
        0 < roll.totalNeed ∨ 0 < roll.totalGreed := by
      intro someone
      by_contra neither
      obtain ⟨noNeed, noGreed⟩ := not_or.mp neither
      obtain ⟨winner, vote, _, won, _⟩ := awarded.announced someone
      rw [settleRoll_passed noNeed noGreed] at won
      cases List.mem_singleton.mp won
    have greedTally : ¬ 0 < roll.totalNeed → 0 < roll.totalGreed →
        roll.playerVote.countWhere countsAsNeed = 0 ∧
          0 < roll.playerVote.countWhere countsAsGreed := by
      intro noNeed greedy
      rcases Nat.eq_zero_or_pos (roll.playerVote.countWhere countsAsGreed) with none | voters
      · obtain ⟨guid, _, found⟩ := @rollWinner_guess countsAsGreed dice roll none nobody
        obtain ⟨rest, effects, handed, _⟩ :=
          @settleRoll_greed players dice roll object state noNeed greedy _ found
        rw [effects] at awarded
        exact absurd awarded (not_awarded_of_guess handed)
      · refine ⟨?_, voters⟩
        obtain ⟨guid, vote, leads, found⟩ := @rollWinner_leads countsAsGreed dice roll voters
        obtain ⟨rest, effects, _, _⟩ :=
          @settleRoll_greed players dice roll object state noNeed greedy _ found
        by_contra needed
        obtain ⟨other, rightful⟩ := awarded.onlyWinner _ (effects ▸ List.mem_cons_self) guid rfl
        rw [eligible_of_need (Nat.pos_of_ne_zero needed)] at rightful
        have same := OrdMap.eq_of_mem_of_mem rightful.voted leads.voted
        have isNeed : other = .need := beq_iff_eq.mp rightful.counted
        have isGreed := leads.counted
        rw [← same, isNeed] at isGreed
        cases isGreed
    have needTally : 0 < roll.totalNeed → 0 < roll.playerVote.countWhere countsAsNeed := by
      intro needed
      rcases Nat.eq_zero_or_pos (roll.playerVote.countWhere countsAsNeed) with none | voters
      · obtain ⟨guid, _, found⟩ := @rollWinner_guess countsAsNeed dice roll none nobody
        obtain ⟨rest, effects, handed, _⟩ :=
          @settleRoll_need players dice roll object state needed _ found
        rw [effects] at awarded
        exact absurd awarded (not_awarded_of_guess handed)
      · exact voters
    refine ⟨⟨needTally, ?_⟩, ?_⟩
    · intro needed
      by_contra noTally
      have someone := countWhere_pos.mp needed
      rw [← eligible_of_need needed] at someone
      have greedy := (notPassed someone).resolve_left noTally
      exact absurd (greedTally noTally greedy).1 needed.ne'
    · intro noNeed
      have noTally : ¬ 0 < roll.totalNeed := fun tally => absurd noNeed (needTally tally).ne'
      constructor
      · omega
      · intro voters
        have someone := countWhere_pos.mp voters
        rw [← eligible_of_greed noNeed] at someone
        exact (notPassed someone).resolve_left noTally

end Settling

/-! ### The rolls counted in a step -/

/-- A call of `CountTheRoll`. -/
structure Call where
  players : Players
  dice : Dice
  state : State
  index : Nat

def Call.effects (call : Call) : List Effect :=
  (countTheRoll call.players call.dice call.index call.state).2

def timerCalls (players : Players) (dice : Dice) (object : Nat) : Nat → State → List Call
  | 0, _ => []
  | fuel + 1, state =>
    match state.group.rollId.findIdx? fun roll => roll.loot == some object with
    | none => []
    | some index =>
      ⟨players, dice, state, index⟩ ::
        timerCalls players dice object fuel (countTheRoll players dice index state).1

def calls (state : State) : Step → List Call
  | .vote guid itemGUID choice players dice =>
    if guid ∈ state.group.memberSlots then
      match votableRoll state guid itemGUID with
      | none => []
      | some (index, roll) =>
        if (roll.choose guid choice).decided then
          [⟨players, dice, state.setRoll index (roll.choose guid choice), index⟩]
        else []
    else []
  | .timer object players dice =>
    timerCalls players dice object state.group.rollId.length state
  | _ => []

def Call.Right (call : Call) : Prop :=
  ∀ roll object, call.state.group.rollId[call.index]? = some roll → roll.loot = some object →
    roll.Awarded call.players call.dice (rolledCount call.state object roll) call.effects

def AwardsRight (state : State) (action : Step) : Prop :=
  ∀ call ∈ calls state action, call.Right

section Calls

variable {state : State}

theorem timerCalls_roll {players : Players} {dice : Dice} {object fuel : Nat} {call : Call}
    {roll : Roll} (member : call ∈ timerCalls players dice object fuel state)
    (there : call.state.group.rollId[call.index]? = some roll) :
    roll ∈ state.group.rollId := by
  induction fuel generalizing state with
  | zero => cases member
  | succ fuel ih =>
    unfold timerCalls at member
    cases search : state.group.rollId.findIdx? fun roll => roll.loot == some object with
    | none =>
      simp_all
    | some index =>
      rw [search] at member
      rcases List.mem_cons.mp member with first | later
      · grind
      · obtain ⟨inside, _⟩ := List.findIdx?_eq_some_iff_getElem.mp search
        exact countTheRoll_mem (List.getElem?_eq_getElem inside) (ih later)

theorem calls_sound {action : Step} (sound : state.Sound) (first : FirstVote state action)
    {call : Call} (member : call ∈ calls state action) {roll : Roll}
    (there : call.state.group.rollId[call.index]? = some roll) : roll.Sound := by
  cases action with
  | vote guid itemGUID choice players dice =>
    unfold calls at member
    dsimp only at member
    split at member
    · rename_i voter
      cases votable : votableRoll state guid itemGUID with
      | none =>
        simp_all
      | some found =>
        obtain ⟨index, old⟩ := found
        rw [votable] at member
        dsimp only at member
        split at member
        · rw [List.mem_singleton.mp member] at there
          obtain ⟨oldThere, _⟩ := votableRoll_some votable
          rw [setRoll_there oldThere, Option.some_inj] at there
          rw [← there]
          exact (sound.rolls old (List.mem_of_getElem? oldThere)).choose
            (first index old voter votable)
        · cases member
    · cases member
  | timer object players dice => exact sound.rolls roll (timerCalls_roll member there)
  | _ => cases member

theorem Roll.Tallied.consistent {roll : Roll} (tallied : roll.Tallied) : roll.Consistent := by
  refine Or.inr ⟨?_, ?_⟩
  · rw [tallied.need]
  · intro _
    rw [tallied.greed]

theorem countTheRoll_effects {players : Players} {dice : Dice} {index object : Nat} {roll : Roll}
    (there : state.group.rollId[index]? = some roll) (linked : roll.loot = some object) :
    (countTheRoll players dice index state).2 =
      (settleRoll players dice roll object state).2 := by
  rcases countTheRoll_case there with ⟨unlinked, _⟩ | ⟨other, otherLinked, settled⟩
  · cases unlinked.symm.trans linked
  · rw [settled, Option.some_inj.mp (otherLinked.symm.trans linked)]

end Calls

/-- A counted roll goes to the right player exactly when its tallies agree with its votes about
which kinds of vote there are, and in a run without repeated votes they always do. -/
theorem countTheRoll_awards (players : Players) (dice : Dice) :
    (∀ (index : Nat) (state : State) (roll : Roll) (object : Nat),
      state.group.rollId[index]? = some roll → roll.loot = some object →
      (roll.Awarded players dice (rolledCount state object roll)
        (countTheRoll players dice index state).2 ↔ roll.Consistent)) ∧
    ∀ (lootThreshold : Nat) (isRaidGroup isBGGroup : Bool) (nextItemGuid : Nat)
        (actions : List Step),
      Along next FirstVote (State.initial lootThreshold isRaidGroup isBGGroup nextItemGuid)
        actions →
      Along next AwardsRight (State.initial lootThreshold isRaidGroup isBGGroup nextItemGuid)
        actions := by
  constructor
  · intro index state roll object there linked
    rw [countTheRoll_effects there linked]
    exact ⟨settleRoll_consistent, settleRoll_awards⟩
  · intro lootThreshold isRaidGroup isBGGroup nextItemGuid actions firstVotes
    refine along_of_step next_sound ?_ (initial_sound lootThreshold isRaidGroup isBGGroup
      nextItemGuid) firstVotes
    intro state action sound first call member roll object there linked
    unfold Call.effects
    rw [countTheRoll_effects there linked]
    exact settleRoll_awards (calls_sound sound first member there).tallied.consistent

/-- A roll of player 1 alone, who needs, and a run in which one player needs,
one is greedy and one passes. -/
theorem countTheRoll_awards_opening :
    (Roll.Awarded allOnline lowDice 0
        { itemGUID := 100, itemid := 50, itemSlot := 0, loot := some 7, totalNeed := 1,
          playerVote := OrdMap.empty.assign 1 .need } [.lootRollWon 100 1 1 .need, .stored 1 50 0] ↔
      Roll.Consistent
        { itemGUID := 100, itemid := 50, itemSlot := 0, loot := some 7, totalNeed := 1,
          playerVote := OrdMap.empty.assign 1 .need }) ∧
    Along next AwardsRight (State.initial 2 false false 100)
      (opening ++ [.vote 1 100 2 allOnline lowDice, .vote 2 100 1 allOnline lowDice,
        .vote 3 100 0 allOnline lowDice]) := by
  constructor
  · exact (countTheRoll_awards allOnline lowDice).1 0
      { State.initial 2 false false 100 with
        group := {
          memberSlots := [1], lootThreshold := 2, isRaidGroup := false, isBGGroup := false
          rollId := [{ itemGUID := 100, itemid := 50, itemSlot := 0, loot := some 7,
                       totalNeed := 1, playerVote := OrdMap.empty.assign 1 .need }] } }
      _ 7 rfl rfl
  · apply (countTheRoll_awards allOnline lowDice).2
    refine ⟨trivial, trivial, trivial, trivial, trivial, ?_, ?_, ?_, trivial⟩
    · intro index roll _ votable _
      cases votable
      rfl
    · intro index roll _ votable _
      cases votable
      rfl
    · intro index roll _ votable _
      cases votable
      rfl

/-- The only player who needs changes his mind, and the item is his although he passed. -/
theorem passed_vote_wins :
    ¬ Along next AwardsRight (State.initial 2 false false 100)
      (opening ++ [.vote 1 100 1 allOnline lowDice, .vote 1 100 0 allOnline lowDice,
        .vote 2 100 0 allOnline lowDice]) := by
  rintro ⟨_, _, _, _, _, _, _, right, _⟩
  have awarded := right _ List.mem_cons_self _ 7 rfl rfl
  obtain ⟨vote, leads⟩ := awarded.onlyWinner (.stored 1 50 1) (by decide) 1 rfl
  have recorded := OrdMap.find_eq_some.mpr leads.voted
  cases recorded
  cases leads.counted

end DarkCore.Groups
