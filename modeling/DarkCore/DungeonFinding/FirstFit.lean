/-
What `FindNewGroups` finds. The list of queued entries is shared by all its calls,
so an inner call leaves nothing for the outer ones to try: the search is one pass
over the queue which keeps every entry that fits those kept before.
-/

import DarkCore.DungeonFinding.Answers

namespace DarkCore.DungeonFinding

open DarkCore.Lib

/-- What `CheckCompatibility` answers for a list, from the answers kept and the queue infos -/
def Judged (realm : Realm) (mgr : LFGMgr) : List Guid → Prop
  | [] => False
  | front :: rest =>
    (front :: rest).length ≤ maxGroupSize ∧
      (rest = [] ∧ front.isPlayer = true ∨
        mgr.getCompatibles (concatenateGuids (front :: rest)) = some true ∨
        mgr.getCompatibles (concatenateGuids (front :: rest)) = none ∧
          (2 < (front :: rest).length → Judged realm mgr rest) ∧
          Fits realm mgr.queueInfoMap (front :: rest))

/-- A list that makes a proposal when it is judged to be compatible: five players, and more than an
answer kept from before -/
structure Fresh (mgr : LFGMgr) (check : List Guid) : Prop where
  five : (selectionsOf mgr.queueInfoMap check).length = maxGroupSize
  unknown : mgr.getCompatibles (concatenateGuids check) = none
  several : ¬ (check.length = 1 ∧ ∀ guid ∈ check, guid.isPlayer = true)

/-- What a search does to the manager: new answers are what the lists were judged before, and they
are about lists of the entries seen. -/
structure Extends (realm : Realm) (seen : List Guid) (before after : LFGMgr) : Prop where
  queueInfoMap : after.queueInfoMap = before.queueInfoMap
  answers : ∀ check,
    after.getCompatibles (concatenateGuids check) =
        before.getCompatibles (concatenateGuids check) ∨
      before.getCompatibles (concatenateGuids check) = none ∧ check ⊆ seen ∧
        ∃ answer, after.getCompatibles (concatenateGuids check) = some answer ∧
          (answer = true ↔ Judged realm before check)

theorem Judged.length_le {realm : Realm} {mgr : LFGMgr} {check : List Guid}
    (judged : Judged realm mgr check) : check.length ≤ maxGroupSize := by
  cases check with
  | nil => cases judged
  | cons front rest => exact judged.1

section Extends

variable {realm : Realm} {seen : List Guid} {before between after : LFGMgr} {check : List Guid}

theorem Extends.refl : Extends realm seen before before :=
  ⟨rfl, fun _ => Or.inl rfl⟩

section

variable (step : Extends realm seen before after)
include step

theorem Extends.mono {more : List Guid}
    (wider : seen ⊆ more) : Extends realm more before after where
  queueInfoMap := step.queueInfoMap
  answers check := (step.answers check).imp_right fun new =>
    ⟨new.1, List.Subset.trans new.2.1 wider, new.2.2⟩

theorem Extends.judged_iff (check : List Guid) :
    Judged realm after check ↔ Judged realm before check := by
  induction check with
  | nil => exact Iff.rfl
  | cons front rest ih =>
    rcases step.answers (front :: rest) with same | ⟨unknown, _, answer, kept, judged⟩
    · simp only [Judged, same, step.queueInfoMap, ih]
    · simp only [Judged, kept, Option.some.injEq, reduceCtorEq, false_and, or_false, judged,
        unknown, false_or]
      tauto

theorem Extends.unknown_iff (unseen : ¬ check ⊆ seen) :
    after.getCompatibles (concatenateGuids check) =
      before.getCompatibles (concatenateGuids check) :=
  (step.answers check).resolve_right fun new => unseen new.2.1

theorem Extends.fresh_iff (unseen : ¬ check ⊆ seen) :
    Fresh after check ↔ Fresh before check := by
  constructor <;> intro fresh
  · exact ⟨step.queueInfoMap ▸ fresh.five, step.unknown_iff unseen ▸ fresh.unknown, fresh.several⟩
  · exact ⟨step.queueInfoMap ▸ fresh.five, (step.unknown_iff unseen).trans fresh.unknown,
      fresh.several⟩

end

theorem Extends.trans (first : Extends realm seen before between)
    (second : Extends realm seen between after) : Extends realm seen before after where
  queueInfoMap := second.queueInfoMap.trans first.queueInfoMap
  answers check := by
    rcases second.answers check with same | ⟨unknown, inSeen, answer, kept, judged⟩
    · rw [same]
      exact first.answers check
    · refine Or.inr ⟨?_, inSeen, answer, kept, judged.trans (first.judged_iff check)⟩
      rcases first.answers check with same | ⟨_, _, other, isKept, _⟩
      · exact same ▸ unknown
      · omega

theorem LFGMgr.getCompatibles_setCompatibles (mgr : LFGMgr) (other : List Guid) (answer : Bool) :
    (mgr.setCompatibles (concatenateGuids check) answer).getCompatibles (concatenateGuids other) =
      if other = check then some answer else mgr.getCompatibles (concatenateGuids other) := by
  unfold LFGMgr.setCompatibles LFGMgr.getCompatibles
  dsimp only
  split
  · simp_all
  · rename_i different
    exact Function.update_of_ne (fun same => different (concatenateGuids_injective same)) _ _

theorem Extends.record {answer : Bool} (step : Extends realm seen before between)
    (inSeen : check ⊆ seen)
    (unknown : before.getCompatibles (concatenateGuids check) = none)
    (judged : answer = true ↔ Judged realm before check) :
    Extends realm seen before (between.setCompatibles (concatenateGuids check) answer) where
  queueInfoMap := step.queueInfoMap
  answers other := by
    rw [LFGMgr.getCompatibles_setCompatibles]
    split
    · simp_all
    · exact step.answers other

end Extends

theorem Listed.tail {queueInfoMap : Guid → Option LfgQueueInfo} {front : Guid} {rest : List Guid}
    (listed : Listed queueInfoMap (front :: rest)) : Listed queueInfoMap rest where
  distinct := (List.nodup_cons.mp listed.distinct).2
  queued guid member := listed.queued guid (List.mem_cons_of_mem front member)
  manned guid member := listed.manned guid (List.mem_cons_of_mem front member)

theorem Listed.length_lt {queueInfoMap : Guid → Option LfgQueueInfo} {front : Guid}
    {rest : List Guid} (listed : Listed queueInfoMap (front :: rest)) :
    (selectionsOf queueInfoMap rest).length <
      (selectionsOf queueInfoMap (front :: rest)).length := by
  obtain ⟨info, isInfo⟩ :=
    Option.ne_none_iff_exists'.mp (listed.queued front List.mem_cons_self)
  have manned := List.length_pos_iff.mpr (listed.manned front List.mem_cons_self info isInfo)
  unfold selectionsOf DungeonFinding.infosOf playersOf
  rw [List.filterMap_cons_some isInfo, List.flatMap_cons, List.length_append]
  omega

section Check

structure Checked (realm : Realm) (check : List Guid) (before : LFGMgr)
    (result : Search × Bool) : Prop where
  answer : result.2 = true ↔ Judged realm before check
  keeps : Extends realm check before result.1.mgr
  proposal : result.2 = true → (result.1.pProposal.isSome = true ↔ Fresh before check)

theorem checkEntries_checked {realm : Realm} {check : List Guid} {before : LFGMgr} {search : Search}
    (listed : Listed before.queueInfoMap check) (some' : check ≠ [])
    (step : Extends realm check before search.mgr)
    (unknown : before.getCompatibles (concatenateGuids check) = none)
    (judged : Fits realm before.queueInfoMap check ↔ Judged realm before check)
    (several : ¬ (check.length = 1 ∧ ∀ guid ∈ check, guid.isPlayer = true))
    (inner : Fits realm before.queueInfoMap check → search.pProposal = none) :
    Checked realm check before (checkEntries realm check search) := by
  rw [← step.queueInfoMap] at listed
  obtain ⟨answer, keeps, proposal⟩ := checkEntries_answer realm listed some'
  rw [step.queueInfoMap] at answer proposal
  constructor
  · exact answer.trans judged
  · rcases keeps with same | kept
    · simp_all
    · rw [kept]
      exact step.record (List.Subset.refl check) unknown (answer.trans judged)
  · intro yes
    rw [proposal yes, inner (answer.mp yes)]
    constructor
    · intro found
      exact ⟨found.resolve_left Bool.false_ne_true, unknown, several⟩
    · intro fresh
      exact Or.inr fresh.five

theorem checkCompatibility_checked (realm : Realm) {check : List Guid} (search : Search)
    (some' : check ≠ [])
    (listed : Listed search.mgr.queueInfoMap check) (nothing : search.pProposal = none) :
    Checked realm check search.mgr (checkCompatibility realm check search) := by
  induction check with
  | nil => exact absurd rfl some'
  | cons front rest ih =>
    unfold checkCompatibility
    simp only [nothing, Option.isSome_none, Bool.false_eq_true, if_false]
    split
    · rename_i long
      refine ⟨iff_of_false Bool.false_ne_true ?_, Extends.refl, fun impossible =>
        absurd impossible Bool.false_ne_true⟩
      intro judged
      exact absurd judged.1 (Nat.not_le.mpr long)
    · rename_i short
      rw [Nat.not_lt] at short
      split
      · rename_i single
        refine ⟨iff_of_true rfl ⟨short, Or.inl single⟩, Extends.refl, fun _ => ?_⟩
        rw [nothing]
        refine iff_of_false Bool.false_ne_true fun fresh => fresh.several ?_
        simp [single]
      · rename_i several
        have manySeveral : ¬ ((front :: rest).length = 1 ∧
            ∀ guid ∈ front :: rest, guid.isPlayer = true) := by
          simp_all
        cases known : search.mgr.getCompatibles (concatenateGuids (front :: rest)) with
        | some answer =>
          refine ⟨?_, Extends.refl, fun _ => ?_⟩
          · simp only [Judged, known, short, several, true_and, false_or, Option.some.injEq,
              reduceCtorEq, false_and, or_false]
          · rw [nothing]
            refine iff_of_false Bool.false_ne_true fun fresh => ?_
            rw [fresh.unknown] at known
            cases known
        | none =>
          have judged : Judged realm search.mgr (front :: rest) ↔
              (2 < (front :: rest).length → Judged realm search.mgr rest) ∧
                Fits realm search.mgr.queueInfoMap (front :: rest) := by
            simp only [Judged, known, short, several, true_and, false_or, reduceCtorEq]
          dsimp only
          split
          · rename_i long
            have restSome : rest ≠ [] := by
              grind
            have inner := ih restSome listed.tail
            have wider := List.subset_cons_self front rest
            cases checked : checkCompatibility realm rest search with
            | mk search' answer =>
              rw [checked] at inner
              obtain ⟨innerAnswer, keeps, proposal⟩ := inner
              cases answer with
              | true =>
                have restJudged := innerAnswer.mp rfl
                apply checkEntries_checked listed some' (keeps.mono wider) known
                · simp [judged, restJudged]
                · exact manySeveral
                · intro fits
                  rw [← Option.not_isSome_iff_eq_none, proposal rfl]
                  intro fresh
                  have more := listed.length_lt
                  rw [fresh.five] at more
                  rcases fits with alone | compatible
                  · have one := alone.1
                    omega
                  · exact absurd compatible.few (Nat.not_le.mpr more)
              | false =>
                have restRefused : ¬ Judged realm search.mgr rest := by
                  simp_all
                have refused : ¬ Judged realm search.mgr (front :: rest) := by
                  grind
                refine ⟨iff_of_false Bool.false_ne_true refused, ?_, fun impossible =>
                  absurd impossible Bool.false_ne_true⟩
                exact (keeps.mono wider).record (List.Subset.refl _) known
                  (iff_of_false Bool.false_ne_true refused)
          · rename_i two
            apply checkEntries_checked listed some' Extends.refl known
            · simp only [judged, two, false_implies, true_and]
            · exact manySeveral
            · exact fun _ => nothing

end Check

/-- One pass over the queue comes to a complete list: every entry is kept with which the list taken
so far is accepted. -/
inductive FirstFit (accepts complete : List Guid → Prop) : List Guid → List Guid → Prop
  | found {taken queue} (isComplete : complete taken) : FirstFit accepts complete taken queue
  | take {taken front rest} (fits : accepts (taken ++ [front]))
      (further : FirstFit accepts complete (taken ++ [front]) rest) :
      FirstFit accepts complete taken (front :: rest)
  | skip {taken front rest} (refused : ¬ accepts (taken ++ [front]))
      (further : FirstFit accepts complete taken rest) :
      FirstFit accepts complete taken (front :: rest)

section Find

variable {accepts complete : List Guid → Prop} {taken : List Guid} {front : Guid}
  {rest : List Guid}

theorem firstFit_nil : FirstFit accepts complete taken [] ↔ complete taken := by
  constructor
  · intro fit
    cases fit with
    | found isComplete => exact isComplete
  · exact FirstFit.found

theorem firstFit_take (incomplete : ¬ complete taken) (fits : accepts (taken ++ [front])) :
    FirstFit accepts complete taken (front :: rest) ↔
      FirstFit accepts complete (taken ++ [front]) rest := by
  constructor
  · intro fit
    cases fit with
    | found isComplete => exact absurd isComplete incomplete
    | take _ further => exact further
    | skip refused _ => exact absurd fits refused
  · exact FirstFit.take fits

theorem firstFit_skip (incomplete : ¬ complete taken) (refused : ¬ accepts (taken ++ [front])) :
    FirstFit accepts complete taken (front :: rest) ↔ FirstFit accepts complete taken rest := by
  constructor
  · intro fit
    cases fit with
    | found isComplete => exact absurd isComplete incomplete
    | take fits _ => exact absurd fits refused
    | skip _ further => exact further
  · exact FirstFit.skip refused

variable {realm : Realm} {mgr : LFGMgr} {check all seen : List Guid} {search : Search}

theorem matchQueued_done (limit : Nat) (atEnd : search.pProposal.isSome = true ∨ all = []) :
    matchQueued realm limit check all search = (search, all) := by
  cases limit with
  | zero => rfl
  | succ limit =>
    unfold matchQueued
    cases proposal : search.pProposal with
    | some proposal => rfl
    | none =>
      simp_all

structure Looped (realm : Realm) (mgr : LFGMgr) (check all : List Guid)
    (result : Search × List Guid) : Prop where
  atEnd : result.1.pProposal.isSome = true ∨ result.2 = []
  finds : result.1.pProposal.isSome = true ↔
    FirstFit (Judged realm mgr) (Fresh mgr) check all

theorem Listed.sublist {queueInfoMap : Guid → Option LfgQueueInfo} {part : List Guid}
    (listed : Listed queueInfoMap all) (sub : part.Sublist all) : Listed queueInfoMap part where
  distinct := listed.distinct.sublist sub
  queued guid member := listed.queued guid (sub.subset member)
  manned guid member := listed.manned guid (sub.subset member)

theorem matchQueued_looped {limit : Nat} (enough : all.length ≤ limit) (some' : check ≠ [])
    (listed : Listed mgr.queueInfoMap (check ++ all)) (inSeen : check ⊆ seen)
    (unseen : ∀ guid ∈ all, guid ∉ seen) (step : Extends realm seen mgr search.mgr)
    (now : search.pProposal.isSome = true ↔ Fresh mgr check) :
    Looped realm mgr check all (matchQueued realm limit check all search) := by
  induction limit generalizing check all seen search with
  | zero =>
    have nothing : all = [] := List.length_eq_zero_iff.mp (Nat.le_zero.mp enough)
    rw [matchQueued_done 0 (Or.inr nothing), nothing]
    exact ⟨Or.inr rfl, now.trans firstFit_nil.symm⟩
  | succ limit ih =>
    cases proposal : search.pProposal with
    | some found =>
      have isSome : search.pProposal.isSome = true := by rw [proposal]; rfl
      rw [matchQueued_done _ (Or.inl isSome)]
      exact ⟨Or.inl isSome, iff_of_true isSome (FirstFit.found (now.mp isSome))⟩
    | none =>
      have incomplete : ¬ Fresh mgr check := by
        simp_all
      cases all with
      | nil =>
        rw [matchQueued_done _ (Or.inr rfl)]
        exact ⟨Or.inr rfl, now.trans firstFit_nil.symm⟩
      | cons front rest =>
        have fewer : rest.length ≤ limit := Nat.le_of_succ_le_succ enough
        have listedNext : Listed mgr.queueInfoMap ((check ++ [front]) ++ rest) :=
          List.append_cons check front rest ▸ listed
        have notEmpty : check ++ [front] ≠ [] := List.append_ne_nil_of_left_ne_nil some' _
        have distinct := List.nodup_append.mp listedNext.distinct
        have seenNext : check ++ [front] ⊆ seen ++ [front] :=
          List.append_subset.mpr
            ⟨List.Subset.trans inSeen (List.subset_append_left seen [front]),
              List.subset_append_right seen [front]⟩
        have unseenNext : ∀ guid ∈ rest, guid ∉ seen ++ [front] := by
          intro guid member inside
          rcases List.mem_append.mp inside with early | last
          · exact unseen guid (List.mem_cons_of_mem front member) early
          · exact distinct.2.2 guid (List.mem_append_right check last) guid member rfl
        have new : ¬ check ++ [front] ⊆ seen := by
          simp_all
        have wider : seen ⊆ seen ++ [front] := List.subset_append_left seen [front]
        have shorter : Listed mgr.queueInfoMap (check ++ rest) := by
          apply listed.sublist
          exact (List.sublist_cons_self front rest).append_left check
        -- what is refused is passed over with the queue as it stands
        have passOver (refused : ¬ Judged realm mgr (check ++ [front])) (mgr' : LFGMgr)
            (choices : List Nat) (kept : Extends realm (seen ++ [front]) mgr mgr') :
            Looped realm mgr check (front :: rest)
              (matchQueued realm limit check rest ⟨mgr', choices, none⟩) := by
          have nothing : (none : Option LfgProposal).isSome = true ↔ Fresh mgr check :=
            iff_of_false Bool.false_ne_true incomplete
          have looped : Looped realm mgr check rest
              (matchQueued realm limit check rest ⟨mgr', choices, none⟩) :=
            ih fewer some' shorter (List.Subset.trans inSeen wider) unseenNext kept nothing
          exact ⟨looped.atEnd, looped.finds.trans (firstFit_skip incomplete refused).symm⟩
        unfold matchQueued
        rw [proposal]
        dsimp only
        unfold findNewGroupsWith
        dsimp only
        split
        · rename_i long
          have refused : ¬ Judged realm mgr (check ++ [front]) := by
            intro judged
            exact absurd judged.length_le (Nat.not_le.mpr (long.resolve_left notEmpty))
          exact passOver refused search.mgr search.choices (step.mono wider)
        · have listedCheck : Listed search.mgr.queueInfoMap (check ++ [front]) := by
            rw [step.queueInfoMap]
            exact listedNext.sublist (List.sublist_append_left _ rest)
          have checked := checkCompatibility_checked realm
            { search with pProposal := none } notEmpty listedCheck rfl
          generalize checkCompatibility realm (check ++ [front])
            { search with pProposal := none } = result at checked ⊢
          obtain ⟨search', answer⟩ := result
          obtain ⟨isAnswer, keeps, finds⟩ := checked
          rw [step.judged_iff] at isAnswer
          rw [step.fresh_iff new] at finds
          have kept := (step.mono wider).trans (keeps.mono seenNext)
          cases answer with
          | false =>
            simp_all
          | true =>
            have looped := ih fewer notEmpty listedNext seenNext unseenNext kept
              (finds rfl)
            dsimp only
            rw [matchQueued_done limit looped.atEnd]
            exact ⟨looped.atEnd,
              looped.finds.trans (firstFit_take incomplete (isAnswer.mp rfl)).symm⟩

end Find

theorem findNewGroups_isSome (realm : Realm) {search : Search} {new : Guid} {all : List Guid}
    (listed : Listed search.mgr.queueInfoMap (new :: all)) :
    (findNewGroups realm [new] all search).1.pProposal.isSome = true ↔
      Judged realm search.mgr [new] ∧
        FirstFit (Judged realm search.mgr) (Fresh search.mgr) [new] all := by
  have alone : Listed search.mgr.queueInfoMap [new] :=
    listed.sublist (List.singleton_sublist.mpr List.mem_cons_self)
  have checked := checkCompatibility_checked realm { search with pProposal := none }
    (List.cons_ne_nil new []) alone rfl
  have inBounds : ¬ ([new] = [] ∨ maxGroupSize < [new].length) := by simp [maxGroupSize]
  unfold findNewGroups findNewGroupsWith
  rw [if_neg inBounds]
  generalize checkCompatibility realm [new] { search with pProposal := none } = result
    at checked ⊢
  obtain ⟨search', answer⟩ := result
  obtain ⟨isAnswer, keeps, finds⟩ := checked
  cases answer with
  | false =>
    simp_all
  | true =>
    have unseen : ∀ guid ∈ all, guid ∉ [new] := by
      intro guid member inside
      rw [List.mem_singleton.mp inside] at member
      exact (List.nodup_cons.mp listed.distinct).1 member
    have looped := matchQueued_looped le_rfl (List.cons_ne_nil new []) listed
      (List.Subset.refl [new]) unseen keeps (finds rfl)
    exact looped.finds.trans (and_iff_right (isAnswer.mp rfl)).symm

def HasMatch (realm : Realm) (queueInfoMap : Guid → Option LfgQueueInfo) (new : Guid)
    (all : List Guid) : Prop :=
  ∃ others, others.Sublist all ∧ Compatible realm queueInfoMap (new :: others) ∧
    (selectionsOf queueInfoMap (new :: others)).length = maxGroupSize

/-- An existing match is not missed exactly when there is none or when the pass, which never takes
back what it has kept, comes to five players on a list without a kept answer. -/
theorem findNewGroups_misses_nothing_iff (realm : Realm) (search : Search) (new : Guid)
    (all : List Guid) (listed : Listed search.mgr.queueInfoMap (new :: all)) :
    (HasMatch realm search.mgr.queueInfoMap new all →
        (findNewGroups realm [new] all search).1.pProposal.isSome = true) ↔
      ¬ HasMatch realm search.mgr.queueInfoMap new all ∨
        Judged realm search.mgr [new] ∧
          FirstFit (Judged realm search.mgr) (Fresh search.mgr) [new] all := by
  rw [findNewGroups_isSome realm listed]
  exact imp_iff_not_or

theorem fourth_sorted : ([(4, 0x08)] : Selections).Pairwise (·.1 < ·.1) := by decide

theorem fifth_sorted : ([(5, 0x08)] : Selections).Pairwise (·.1 < ·.1) := by decide

/-- The tank 1 is new; the healer 2 asks for the dungeon 7, the healer 3 and the damage dealers
4 to 6 for the dungeon 8, and the tank for both. -/
def twoHealers : LFGMgr where
  queueInfoMap
    | .player 1 => some ⟨[7, 8], ⟨[(1, 0x02)], by decide⟩⟩
    | .player 2 => some ⟨[7], ⟨[(2, 0x04)], by decide⟩⟩
    | .player 3 => some ⟨[8], ⟨[(3, 0x04)], by decide⟩⟩
    | .player 4 => some ⟨[8], ⟨[(4, 0x08)], fourth_sorted⟩⟩
    | .player 5 => some ⟨[8], ⟨[(5, 0x08)], fifth_sorted⟩⟩
    | .player 6 => some ⟨[8], ⟨[(6, 0x08)], by decide⟩⟩
    | _ => none
  currentQueue _ := []
  newToQueue _ := []
  compatibleMap _ := none

def queuedAfterTank : List Guid := [.player 2, .player 3, .player 4, .player 5, .player 6]

theorem twoHealers_listed : Listed twoHealers.queueInfoMap (.player 1 :: queuedAfterTank) := by
  refine ⟨by decide, ?_, ?_⟩ <;> simp [queuedAfterTank, twoHealers]

theorem twoHealers_hasMatch :
    HasMatch plainRealm twoHealers.queueInfoMap (.player 1) queuedAfterTank := by
  refine ⟨[.player 3, .player 4, .player 5, .player 6], by decide, ?_, by decide⟩
  have roles : Admissible (removeLeaderFlag (selectionsOf twoHealers.queueInfoMap
      [.player 1, .player 3, .player 4, .player 5, .player 6])) := by
    rw [← checkGroupRoles_true_iff (by decide) (by decide) (by decide)]
    exact ⟨_, rfl⟩
  refine ⟨by decide, by decide, by decide, fun _ _ => rfl, ?_, roles, 8, ?_, ?_⟩
  · exact List.pairwise_of_forall fun _ _ => ⟨rfl, rfl⟩
  · simp [infosOf, twoHealers]
  · simp [selectionsOf, playersOf, infosOf, twoHealers, plainRealm]

/-- The first healer is kept, and with him nobody else fits. -/
theorem findNewGroups_misses_match :
    Listed twoHealers.queueInfoMap (.player 1 :: queuedAfterTank) ∧
    HasMatch plainRealm twoHealers.queueInfoMap (.player 1) queuedAfterTank ∧
    (findNewGroups plainRealm [.player 1] queuedAfterTank
      ⟨twoHealers, [], none⟩).1.pProposal = none :=
  ⟨twoHealers_listed, twoHealers_hasMatch, by decide +kernel⟩

/-- Without the first healer in front of him, the second one is found. -/
theorem findNewGroups_misses_nothing_iff_twoHealers :
    (findNewGroups plainRealm [.player 1] queuedAfterTank.tail
      ⟨twoHealers, [], none⟩).1.pProposal.isSome = true ∧
    ((HasMatch plainRealm twoHealers.queueInfoMap (.player 1) queuedAfterTank →
        (findNewGroups plainRealm [.player 1] queuedAfterTank
          ⟨twoHealers, [], none⟩).1.pProposal.isSome = true) ↔
      ¬ HasMatch plainRealm twoHealers.queueInfoMap (.player 1) queuedAfterTank ∨
        Judged plainRealm twoHealers [.player 1] ∧
          FirstFit (Judged plainRealm twoHealers) (Fresh twoHealers) [.player 1] queuedAfterTank) :=
  ⟨by decide +kernel, findNewGroups_misses_nothing_iff plainRealm ⟨twoHealers, [], none⟩
    (.player 1) queuedAfterTank twoHealers_listed⟩

end DarkCore.DungeonFinding
