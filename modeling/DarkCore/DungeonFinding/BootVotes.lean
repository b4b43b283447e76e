/-
The votes about a kick, counted: what the counters of `UpdateBoot` say, and what they
have to say by the answers that the listed members gave first.
-/

import DarkCore.DungeonFinding.Boots

namespace DarkCore.DungeonFinding

open DarkCore.Lib

abbrev Votes := OrdMap PlayerGuid LfgAnswer

def answerAfter (first : Votes) (cast : List (PlayerGuid × Bool)) (guid : PlayerGuid) : LfgAnswer :=
  match first.find guid with
  | none => .deny
  | some .pending =>
    match cast.find? (·.1 = guid) with
    | none => .pending
    | some vote => .ofBool vote.2
  | some answer => answer

def countAfter (test : LfgAnswer → Bool) (first : Votes) (cast : List (PlayerGuid × Bool)) : Nat :=
  (first.entries.map Prod.fst).countP fun guid => test (answerAfter first cast guid)

def isAgree (answer : LfgAnswer) : Bool := answer = .agree

def isHopeful (answer : LfgAnswer) : Bool := answer ≠ .deny

def isGiven (answer : LfgAnswer) : Bool := answer ≠ .pending

def Settled (first : Votes) (cast : List (PlayerGuid × Bool)) : Prop :=
  lfgGroupKickVotesNeeded ≤ countAfter isAgree first cast ∨
    countAfter isHopeful first cast < lfgGroupKickVotesNeeded

section Answers

variable {first votes : Votes} {cast : List (PlayerGuid × Bool)} {guid other : PlayerGuid}
  {accept : Bool}

theorem answerAfter_nil : answerAfter first [] guid = (first.find guid).getD .deny := by
  unfold answerAfter
  cases first.find guid with
  | none => rfl
  | some answer => cases answer <;> rfl

theorem answerAfter_append :
    answerAfter first (cast ++ [(guid, accept)]) other =
      if other = guid ∧ answerAfter first cast guid = .pending then .ofBool accept
      else answerAfter first cast other := by
  unfold answerAfter
  by_cases here : other = guid
  · subst here
    cases first.find other with
    | none => simp
    | some answer =>
      cases answer with
      | deny | agree => simp
      | pending =>
        rw [List.find?_append]
        cases cast.find? (·.1 = other) with
        | none => simp
        | some vote => cases accepts : vote.2 <;> simp [LfgAnswer.ofBool, accepts]
  · have different : guid ≠ other := Ne.symm here
    cases first.find other with
    | none => simp [here]
    | some answer => cases answer <;> simp [here, different, List.find?_append]

theorem answerAfter_agree (agreed : answerAfter first cast other = .agree) :
    answerAfter first (cast ++ [(guid, accept)]) other = .agree := by
  rw [answerAfter_append, if_neg, agreed]
  rintro ⟨rfl, pending⟩
  rw [agreed] at pending
  cases pending

theorem answerAfter_deny (denied : answerAfter first cast other = .deny) :
    answerAfter first (cast ++ [(guid, accept)]) other = .deny := by
  rw [answerAfter_append, if_neg, denied]
  rintro ⟨rfl, pending⟩
  rw [denied] at pending
  cases pending

theorem countAfter_agree_le (first : Votes) (cast : List (PlayerGuid × Bool))
    (vote : PlayerGuid × Bool) :
    countAfter isAgree first cast ≤ countAfter isAgree first (cast ++ [vote]) := by
  refine List.countP_mono_left fun other _ agreed => ?_
  simp only [isAgree, decide_eq_true_eq] at agreed ⊢
  exact answerAfter_agree agreed

theorem countAfter_hopeful_le (first : Votes) (cast : List (PlayerGuid × Bool))
    (vote : PlayerGuid × Bool) :
    countAfter isHopeful first (cast ++ [vote]) ≤ countAfter isHopeful first cast := by
  refine List.countP_mono_left fun other _ hopeful => ?_
  simp only [isHopeful, ne_eq, decide_eq_true_eq] at hopeful ⊢
  exact fun denied => hopeful (answerAfter_deny denied)

theorem countAfter_agree_le_hopeful (first : Votes) (cast : List (PlayerGuid × Bool)) :
    countAfter isAgree first cast ≤ countAfter isHopeful first cast := by
  refine List.countP_mono_left fun other _ agreed => ?_
  simp only [isAgree, isHopeful, decide_eq_true_eq, ne_eq] at agreed ⊢
  simp [agreed]

theorem Settled.append (settled : Settled first cast) (vote : PlayerGuid × Bool) :
    Settled first (cast ++ [vote]) := by
  rcases settled with passed | failed
  · exact Or.inl (passed.trans (countAfter_agree_le first cast vote))
  · exact Or.inr ((countAfter_hopeful_le first cast vote).trans_lt failed)

theorem Settled.agreed_iff (settled : Settled first cast) (vote : PlayerGuid × Bool) :
    lfgGroupKickVotesNeeded ≤ countAfter isAgree first (cast ++ [vote]) ↔
      lfgGroupKickVotesNeeded ≤ countAfter isAgree first cast := by
  have more := countAfter_agree_le first cast vote
  have less := countAfter_hopeful_le first cast vote
  have within := countAfter_agree_le_hopeful first (cast ++ [vote])
  rcases settled with passed | failed
  · exact iff_of_true (passed.trans more) passed
  · have before := countAfter_agree_le_hopeful first cast
    omega

structure Recorded (first : Votes) (cast : List (PlayerGuid × Bool)) (votes : Votes) : Prop where
  listed : ∀ guid, (first.find guid).isSome →
    votes.find guid = some (answerAfter first cast guid)
  strangers : ∀ guid, first.find guid = none → votes.find guid = none ∨
    votes.find guid = some .deny

section

variable (recorded : Recorded first cast votes)
include recorded

theorem Recorded.count (test : LfgAnswer → Bool)
    (noDeny : test .deny = false) :
    votes.countWhere test = countAfter test first cast := by
  have voters : ((votes.entries.filter fun entry => test entry.2).map Prod.fst).Perm
      ((first.entries.map Prod.fst).filter fun guid => test (answerAfter first cast guid)) := by
    refine (List.perm_ext_iff_of_nodup ?_ ?_).mpr fun guid => ?_
    · exact votes.keys_nodup.sublist (List.filter_sublist.map Prod.fst)
    · exact first.keys_nodup.sublist List.filter_sublist
    · rw [List.mem_filter, OrdMap.mem_keys, List.mem_map]
      constructor
      · rintro ⟨⟨other, answer⟩, member, rfl⟩
        obtain ⟨inVotes, tested⟩ := List.mem_filter.mp member
        have found := OrdMap.find_eq_some.mpr inVotes
        cases isListed : first.find other with
        | none =>
          rcases recorded.strangers other isListed with absent | denied <;> simp_all
        | some before =>
          have same := recorded.listed other (by simp [isListed])
          rw [found] at same
          exact ⟨by simp, by rw [← Option.some.inj same]; exact tested⟩
      · rintro ⟨isListed, tested⟩
        have found := recorded.listed guid (Option.isSome_iff_ne_none.mpr isListed)
        exact ⟨(guid, _), List.mem_filter.mpr ⟨OrdMap.find_eq_some.mp found, tested⟩, rfl⟩
  have lengths := voters.length_eq
  rw [List.length_map, ← List.countP_eq_length_filter, ← List.countP_eq_length_filter] at lengths
  exact lengths

theorem Recorded.vote
    (pending : votes.find guid = some .pending) :
    Recorded first (cast ++ [(guid, accept)]) (votes.assign guid (.ofBool accept)) := by
  have isListed : (first.find guid).isSome := by
    by_contra absent
    rw [Option.not_isSome_iff_eq_none] at absent
    rcases recorded.strangers guid absent with none | denied <;> simp_all
  have isPending : answerAfter first cast guid = .pending := by
    have found := recorded.listed guid isListed
    rw [pending] at found
    exact (Option.some.inj found).symm
  constructor
  · intro other otherListed
    rw [OrdMap.find_assign, Function.update_apply, answerAfter_append]
    by_cases here : other = guid
    · simp [here, isPending]
    · simp [here, recorded.listed other otherListed]
  · intro other stranger
    have different : other ≠ guid := by
      grind
    rw [OrdMap.find_assign, Function.update_of_ne different]
    exact recorded.strangers other stranger

theorem Recorded.answerAfter_ignored
    (given : votes.find guid ≠ some .pending) (accept : Bool) (other : PlayerGuid) :
    answerAfter first (cast ++ [(guid, accept)]) other = answerAfter first cast other := by
  rw [answerAfter_append]
  by_cases here : other = guid ∧ answerAfter first cast guid = .pending
  · have isListed : (first.find guid).isSome := by
      by_contra absent
      have denied : answerAfter first cast guid = .deny := by
        simp_all [answerAfter]
      rw [denied] at here
      cases here.2
    have found := recorded.listed guid isListed
    rw [here.2] at found
    exact absurd found given
  · rw [if_neg here]

theorem Recorded.ignore
    (given : votes.find guid ≠ some .pending) (accept : Bool) :
    (voteOf votes guid).1 ≠ .pending ∧
      Recorded first (cast ++ [(guid, accept)]) (voteOf votes guid).2 := by
  have same := recorded.answerAfter_ignored given accept
  unfold voteOf
  cases found : votes.find guid with
  | some answer =>
    refine ⟨fun pending => given (found.trans (congrArg some pending)), ?_, recorded.strangers⟩
    intro other otherListed
    rw [same]
    exact recorded.listed other otherListed
  | none =>
    refine ⟨by simp, ?_, ?_⟩
    · intro other otherListed
      have different : other ≠ guid := by
        rintro rfl
        rw [recorded.listed other otherListed] at found
        cases found
      rw [OrdMap.find_assign, Function.update_of_ne different, same]
      exact recorded.listed other otherListed
    · intro other stranger
      rw [OrdMap.find_assign, Function.update_apply]
      by_cases here : other = guid
      · simp_all
      · rw [if_neg here]
        exact recorded.strangers other stranger

end

end Answers

theorem countVote_eq (voted agreed : Nat) (vote : PlayerGuid × LfgAnswer) :
    countVote (voted % 256, agreed % 256) vote =
      ((voted + if isGiven vote.2 then 1 else 0) % 256,
        (agreed + if isAgree vote.2 then 1 else 0) % 256) := by
  unfold countVote
  cases answer : vote.2 <;> simp [isGiven, isAgree]

theorem countVotes_eq (entries : List (PlayerGuid × LfgAnswer)) :
    countVotes entries = (entries.countP (fun entry => isGiven entry.2) % 256,
      entries.countP (fun entry => isAgree entry.2) % 256) := by
  have counted (voted agreed : Nat) :
      entries.foldl countVote (voted % 256, agreed % 256) =
        ((voted + entries.countP (fun entry => isGiven entry.2)) % 256,
          (agreed + entries.countP (fun entry => isAgree entry.2)) % 256) := by
    induction entries generalizing voted agreed with
    | nil => rfl
    | cons entry rest ih =>
      rw [List.foldl_cons, countVote_eq, ih, List.countP_cons, List.countP_cons]
      simp only [Nat.add_assoc, Nat.add_comm]
  have result := counted 0 0
  simpa [countVotes] using result

end DarkCore.DungeonFinding
