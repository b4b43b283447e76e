/-
The search behind `CheckGroupRoles`, without its writes to the map: one role for
each player within one tank, one healer and three damage dealers. It narrows the
first selection it can and starts again. What it finds is an assignment, and it
finds one whenever there is one.
-/

import DarkCore.DungeonFinding.Roles
import Mathlib.Data.List.Count

namespace DarkCore.DungeonFinding

open DarkCore.Lib

/-- What the loop does for one of the three roles: narrow the selection and start again, give up
because the role is taken, or count the player. An `error` ends the search. -/
def tryRole (flag : Roles) (needed : Nat) (role : Roles) (count : Nat)
    (narrowed : Roles → Option Selections) : Except (Option Selections) Nat :=
  if role &&& flag = 0 then .ok count
  else if role ≠ flag then
    match narrowed (role - flag) with
    | some assigned => .error (some assigned)
    | none => .ok count
  else if count = needed then .error none
  else .ok (count + 1)

def searchRest (retry : Selections → Option Selections) (done : Selections) :
    Selections → Nat → Nat → Nat → Option Selections
  | [], tank, healer, damage =>
    if tank + healer + damage = done.length % 256 then some done else none
  | entry :: rest, tank, healer, damage =>
    if entry.2 = roleNone then none
    else
      let narrowed := fun less => retry (done ++ (entry.1, less) :: rest)
      match tryRole roleTank lfgTanksNeeded entry.2 tank narrowed with
      | .error answer => answer
      | .ok tank =>
        match tryRole roleHealer lfgHealersNeeded entry.2 healer narrowed with
        | .error answer => answer
        | .ok healer =>
          match tryRole roleDamage lfgDpsNeeded entry.2 damage narrowed with
          | .error answer => answer
          | .ok damage => searchRest retry (done ++ [entry]) rest tank healer damage

def searchRoles : Nat → Selections → Option Selections
  | 0, _ => none
  | fuel + 1, groles => if groles = [] then none else searchRest (searchRoles fuel) [] groles 0 0 0

theorem and_self_ne_zero {flag : Roles} (isRole : IsSingle flag) : flag &&& flag ≠ 0 := by
  rcases isRole with rfl | rfl | rfl <;> decide

theorem narrowing {flag : Roles} (isRole : IsSingle flag) :
    ∀ role : Roles, role &&& flag ≠ 0 →
      (role - flag).toNat < role.toNat ∧ (role - flag) &&& role = role - flag ∧
        (OnlyRoles (role - flag) ↔ OnlyRoles role) := by
  rcases isRole with rfl | rfl | rfl <;> decide +kernel

theorem selected_of_narrowing {flag chosen : Roles} (isRole : IsSingle flag)
    (isSingle : IsSingle chosen) :
    ∀ role : Roles, role &&& flag ≠ 0 → chosen &&& role = chosen → chosen ≠ flag →
      chosen &&& (role - flag) = chosen := by
  rcases isRole with rfl | rfl | rfl <;> rcases isSingle with rfl | rfl | rfl <;> decide +kernel

theorem eq_of_selected {chosen : Roles} (isSingle : IsSingle chosen) :
    ∀ role : Roles, OnlyRoles role → chosen &&& role = chosen →
      (role &&& roleTank = 0 ∨ chosen = roleTank) →
      (role &&& roleHealer = 0 ∨ chosen = roleHealer) →
      (role &&& roleDamage = 0 ∨ chosen = roleDamage) → role = chosen := by
  rcases isSingle with rfl | rfl | rfl <;> decide +kernel

theorem ne_none_of_selected {chosen : Roles} (isSingle : IsSingle chosen) :
    ∀ role : Roles, chosen &&& role = chosen → role ≠ roleNone := by
  rcases isSingle with rfl | rfl | rfl <;> decide +kernel

theorem and_eq_trans {first second third : Roles} (inner : first &&& second = first)
    (outer : second &&& third = second) : first &&& third = first := by
  rw [← inner, BitVec.and_assoc, outer]

section OneRole

variable {flag role : Roles} {needed count count' : Nat} {narrowed : Roles → Option Selections}
  {answer : Option Selections}

theorem tryRole_ok (isRole : IsSingle flag)
    (taken : tryRole flag needed role count narrowed = .ok count') :
    (role = flag ∧ count ≠ needed ∧ count' = count + 1) ∨
      (role ≠ flag ∧ count' = count ∧ (role &&& flag = 0 ∨ narrowed (role - flag) = none)) := by
  unfold tryRole at taken
  split at taken
  · rename_i absent
    cases taken
    have different : role ≠ flag := by
      intro same
      exact and_self_ne_zero isRole (same ▸ absent)
    exact Or.inr ⟨different, rfl, Or.inl absent⟩
  · split at taken <;> grind

theorem tryRole_error (taken : tryRole flag needed role count narrowed = .error answer) :
    (role = flag ∧ count = needed ∧ answer = none) ∨
      (role &&& flag ≠ 0 ∧ ∃ assigned, answer = some assigned ∧
        narrowed (role - flag) = some assigned) := by
  unfold tryRole at taken
  split at taken
  · cases taken
  · grind

theorem tryRole_of_several (needed count : Nat) (narrowed : Roles → Option Selections)
    (several : role ≠ flag) :
    (∃ assigned, tryRole flag needed role count narrowed = .error (some assigned)) ∨
      (tryRole flag needed role count narrowed = .ok count ∧
        (role &&& flag = 0 ∨ narrowed (role - flag) = none)) := by
  unfold tryRole
  split
  · simp_all
  · grind

theorem tryRole_of_alone (narrowed : Roles → Option Selections) (isRole : IsSingle flag)
    (free : count < needed) :
    tryRole flag needed flag count narrowed = .ok (count + 1) := by
  unfold tryRole
  rw [if_neg (and_self_ne_zero isRole), if_neg (not_not.mpr rfl), if_neg (Nat.ne_of_lt free)]

theorem tryRole_of_absent (needed count : Nat) (narrowed : Roles → Option Selections)
    (absent : role &&& flag = 0) :
    tryRole flag needed role count narrowed = .ok count := by
  unfold tryRole
  rw [if_pos absent]

end OneRole

structure Counted (done : Selections) (tank healer damage : Nat) : Prop where
  tanks : done.countP (fun entry => entry.2 = roleTank) = tank
  healers : done.countP (fun entry => entry.2 = roleHealer) = healer
  damages : done.countP (fun entry => entry.2 = roleDamage) = damage
  tankNeeds : tank ≤ lfgTanksNeeded
  healerNeeds : healer ≤ lfgHealersNeeded
  damageNeeds : damage ≤ lfgDpsNeeded

variable {done groles selected assigned rest : Selections} {tank healer damage : Nat}
    {entry : PlayerGuid × Roles} {flag : Roles} {retry : Selections → Option Selections}
    {role : PlayerGuid → Roles}

theorem Counted.needs
    (counted : Counted done tank healer damage) : WithinNeeds done where
  tanks := counted.tanks ▸ counted.tankNeeds
  healers := counted.healers ▸ counted.healerNeeds
  damages := counted.damages ▸ counted.damageNeeds

theorem counts_eq_countP_single (groles : Selections) :
    groles.countP (fun entry => entry.2 = roleTank) +
        groles.countP (fun entry => entry.2 = roleHealer) +
        groles.countP (fun entry => entry.2 = roleDamage) =
      groles.countP fun entry => IsSingle entry.2 := by
  induction groles with
  | nil => rfl
  | cons entry rest ih =>
    rw [List.countP_cons, List.countP_cons, List.countP_cons, List.countP_cons, ← ih]
    have one : ∀ role : Roles,
        (if decide (role = roleTank) = true then 1 else 0) +
          (if decide (role = roleHealer) = true then 1 else 0) +
          (if decide (role = roleDamage) = true then 1 else 0) =
        if decide (IsSingle role) = true then 1 else 0 := by
      decide +kernel
    have here := one entry.2
    omega

theorem counts_eq_length :
    groles.countP (fun entry => entry.2 = roleTank) +
        groles.countP (fun entry => entry.2 = roleHealer) +
        groles.countP (fun entry => entry.2 = roleDamage) = groles.length ↔
      ∀ entry ∈ groles, IsSingle entry.2 := by
  rw [counts_eq_countP_single, List.countP_eq_length]
  exact forall₂_congr fun _ _ => decide_eq_true_iff

theorem Narrower.refl (groles : Selections) : Narrower groles groles := by
  induction groles with
  | nil => exact List.Forall₂.nil
  | cons entry rest ih => exact List.Forall₂.cons ⟨rfl, BitVec.and_self, id⟩ ih

theorem Narrower.trans {first second third : Selections} (inner : Narrower second third)
    (outer : Narrower first second) : Narrower first third := by
  induction outer generalizing third with
  | nil => exact inner
  | cons here _ ih =>
    cases inner with
    | cons there later =>
      exact List.Forall₂.cons ⟨there.1.trans here.1, and_eq_trans there.2.1 here.2.1,
        fun clean => here.2.2 (there.2.2 clean)⟩ (ih later)

theorem Narrower.narrow (isRole : IsSingle flag)
    (present : entry.2 &&& flag ≠ 0) (front back : Selections) :
    Narrower (front ++ entry :: back) (front ++ (entry.1, entry.2 - flag) :: back) := by
  obtain ⟨_, less, clean⟩ := narrowing isRole entry.2 present
  induction front with
  | nil => exact List.Forall₂.cons ⟨rfl, less, clean.mp⟩ (Narrower.refl back)
  | cons first rest ih => exact List.Forall₂.cons ⟨rfl, BitVec.and_self, id⟩ ih

theorem Narrower.map_fst (narrower : Narrower selected assigned) :
    assigned.map Prod.fst = selected.map Prod.fst := by
  induction narrower with
  | nil => rfl
  | cons here _ ih => rw [List.map_cons, List.map_cons, here.1, ih]

theorem tryRole_sound
    {needed count : Nat} {answer : Option Selections}
    (sound : ∀ groles assigned, groles.length < 256 → retry groles = some assigned →
      Assigned groles assigned)
    (few : (done ++ entry :: rest).length < 256) (isRole : IsSingle flag)
    (taken : tryRole flag needed entry.2 count
      (fun less => retry (done ++ (entry.1, less) :: rest)) = .error answer)
    (found : answer = some assigned) : Assigned (done ++ entry :: rest) assigned := by
  rcases tryRole_error taken with ⟨_, _, none⟩ | ⟨present, other, isAnswer, retried⟩
  · simp_all
  · rw [isAnswer] at found
    cases found
    have sameLength : (done ++ (entry.1, entry.2 - flag) :: rest).length < 256 := by
      rwa [List.length_append, List.length_cons] at few ⊢
    have inner := sound _ _ sameLength retried
    exact ⟨inner.narrower.trans (Narrower.narrow isRole present done rest), inner.single,
      inner.needs⟩

theorem count_append {needed count count' : Nat}
    {narrowed : Roles → Option Selections} (isRole : IsSingle flag)
    (taken : tryRole flag needed entry.2 count narrowed = .ok count')
    (counted : done.countP (fun entry => entry.2 = flag) = count) (needs : count ≤ needed) :
    (done ++ [entry]).countP (fun entry => entry.2 = flag) = count' ∧ count' ≤ needed := by
  rw [List.countP_append, List.countP_singleton, counted]
  rcases tryRole_ok isRole taken with ⟨same, free, next⟩ | ⟨different, next, _⟩
  · grind
  · simp_all

theorem searchRest_sound
    (sound : ∀ groles assigned, groles.length < 256 → retry groles = some assigned →
      Assigned groles assigned)
    (few : (done ++ rest).length < 256) (counted : Counted done tank healer damage)
    (found : searchRest retry done rest tank healer damage = some assigned) :
    Assigned (done ++ rest) assigned := by
  induction rest generalizing done tank healer damage with
  | nil =>
    unfold searchRest at found
    split at found
    · rename_i all
      cases found
      rw [List.append_nil] at few ⊢
      rw [Nat.mod_eq_of_lt few, ← counted.tanks, ← counted.healers, ← counted.damages] at all
      exact ⟨Narrower.refl _, counts_eq_length.mp all, counted.needs⟩
    · cases found
  | cons entry rest ih =>
    unfold searchRest at found
    split at found
    · cases found
    · dsimp only at found
      split at found
      · rename_i taken
        exact tryRole_sound sound few (Or.inl rfl) taken found
      · rename_i tankTaken
        split at found
        · rename_i taken
          exact tryRole_sound sound few (Or.inr (Or.inl rfl)) taken found
        · rename_i healerTaken
          split at found
          · rename_i taken
            exact tryRole_sound sound few (Or.inr (Or.inr rfl)) taken found
          · rename_i damageTaken
            have tanks := count_append (Or.inl rfl) tankTaken counted.tanks counted.tankNeeds
            have healers :=
              count_append (Or.inr (Or.inl rfl)) healerTaken counted.healers counted.healerNeeds
            have damages :=
              count_append (Or.inr (Or.inr rfl)) damageTaken counted.damages counted.damageNeeds
            have assoc : done ++ entry :: rest = (done ++ [entry]) ++ rest :=
              List.append_cons done entry rest
            rw [assoc] at few ⊢
            exact ih few ⟨tanks.1, healers.1, damages.1, tanks.2, healers.2, damages.2⟩ found

theorem searchRoles_sound {fuel : Nat} (few : groles.length < 256)
    (found : searchRoles fuel groles = some assigned) : Assigned groles assigned := by
  induction fuel generalizing groles assigned with
  | zero => cases found
  | succ fuel ih =>
    unfold searchRoles at found
    split at found
    · cases found
    · have start : Counted [] 0 0 0 :=
        ⟨rfl, rfl, rfl, Nat.zero_le _, Nat.zero_le _, Nat.zero_le _⟩
      have few : ([] ++ groles : Selections).length < 256 := few
      exact searchRest_sound (fun _ _ few found => ih few found) few start found

theorem flagsLeft_narrow (isRole : IsSingle flag)
    (present : entry.2 &&& flag ≠ 0) (front back : Selections) :
    flagsLeft (front ++ (entry.1, entry.2 - flag) :: back) <
      flagsLeft (front ++ entry :: back) := by
  have less := (narrowing isRole entry.2 present).1
  unfold flagsLeft
  rw [List.map_append, List.map_append, List.map_cons, List.map_cons, List.sum_append,
    List.sum_append, List.sum_cons, List.sum_cons]
  dsimp only
  omega

theorem Assignment.narrow {front back : Selections}
    (assignment : Assignment (front ++ entry :: back) role)
    (isRole : IsSingle flag) (present : entry.2 &&& flag ≠ 0) (other : role entry.1 ≠ flag) :
    Assignment (front ++ (entry.1, entry.2 - flag) :: back) role := by
  have here : entry ∈ front ++ entry :: back := List.mem_append_right _ List.mem_cons_self
  have everywhere (property : PlayerGuid × Roles → Prop)
      (all : ∀ old ∈ front ++ entry :: back, property old)
      (new : property (entry.1, entry.2 - flag)) :
      ∀ other ∈ front ++ (entry.1, entry.2 - flag) :: back, property other := by
    intro other member
    rcases List.mem_append.mp member with early | late
    · exact all other (List.mem_append_left _ early)
    · rcases List.mem_cons.mp late with isNew | old
      · exact isNew ▸ new
      · exact all other (List.mem_append_right _ (List.mem_cons_of_mem _ old))
  have less := narrowing isRole entry.2 present
  constructor
  · exact everywhere (fun entry => OnlyRoles entry.2) assignment.clean
      (less.2.2.mpr (assignment.clean entry here))
  · exact everywhere (fun entry => IsSingle (role entry.1)) assignment.single
      (assignment.single entry here)
  · exact everywhere (fun entry => role entry.1 &&& entry.2 = role entry.1) assignment.selected
      (selected_of_narrowing isRole (assignment.single entry here) entry.2 present
        (assignment.selected entry here) other)
  · have needs := assignment.needs
    rw [List.map_append, List.map_cons] at needs ⊢
    exact needs

theorem count_lt {front back : Selections}
    {needed : Nat} (settled : ∀ entry ∈ front, entry.2 = role entry.1)
    (same : role entry.1 = flag)
    (needs : ((front ++ entry :: back).map fun entry => (entry.1, role entry.1)).countP
      (fun entry => entry.2 = flag) ≤ needed) :
    front.countP (fun entry => entry.2 = flag) < needed := by
  rw [List.map_append, List.map_cons, List.countP_append, List.countP_cons,
    if_pos (decide_eq_true same), List.countP_map] at needs
  have counted : front.countP (fun entry => entry.2 = flag) =
      front.countP ((fun entry => decide (entry.2 = flag)) ∘ fun entry =>
        (entry.1, role entry.1)) := by
    apply List.countP_congr
    intro entry member
    rw [Function.comp_apply, settled entry member]
  omega

theorem searchRest_of_several
    (complete : ∀ groles, flagsLeft groles < flagsLeft (done ++ entry :: rest) → groles ≠ [] →
      Assignment groles role → (retry groles).isSome)
    (assignment : Assignment (done ++ entry :: rest) role)
    (several : entry.2 ≠ role entry.1) :
    (searchRest retry done (entry :: rest) tank healer damage).isSome := by
  have here : entry ∈ done ++ entry :: rest := List.mem_append_right _ List.mem_cons_self
  have isSingle := assignment.single entry here
  have selected := assignment.selected entry here
  have notAlone : ¬ IsSingle entry.2 := by
    intro alone
    rcases isSingle with chosen | chosen | chosen <;>
      rcases alone with left | left | left <;>
      rw [chosen, left] at selected several <;>
      revert selected several <;> decide
  have untaken (flag : Roles) (isRole : IsSingle flag)
      (failed : entry.2 &&& flag = 0 ∨ retry (done ++ (entry.1, entry.2 - flag) :: rest) = none) :
      entry.2 &&& flag = 0 ∨ role entry.1 = flag := by
    by_contra neither
    obtain ⟨present, other⟩ := not_or.mp neither
    have players : done ++ (entry.1, entry.2 - flag) :: rest ≠ [] :=
      List.append_ne_nil_of_right_ne_nil done (List.cons_ne_nil _ _)
    have found := complete _ (flagsLeft_narrow isRole present done rest) players
      (assignment.narrow isRole present other)
    rw [failed.resolve_left present] at found
    cases found
  unfold searchRest
  rw [if_neg (ne_none_of_selected isSingle entry.2 selected)]
  dsimp only
  obtain ⟨assigned, taken⟩ | ⟨taken, tankFailed⟩ := tryRole_of_several lfgTanksNeeded tank
    (fun less => retry (done ++ (entry.1, less) :: rest)) fun same => notAlone (Or.inl same)
  · grind
  rw [taken]
  obtain ⟨assigned, taken⟩ | ⟨taken, healerFailed⟩ := tryRole_of_several lfgHealersNeeded healer
    (fun less => retry (done ++ (entry.1, less) :: rest)) fun same =>
      notAlone (Or.inr (Or.inl same))
  · grind
  rw [taken]
  obtain ⟨assigned, taken⟩ | ⟨taken, damageFailed⟩ := tryRole_of_several lfgDpsNeeded damage
    (fun less => retry (done ++ (entry.1, less) :: rest)) fun same =>
      notAlone (Or.inr (Or.inr same))
  · grind
  have only := eq_of_selected isSingle entry.2 (assignment.clean entry here) selected
    (untaken roleTank (Or.inl rfl) tankFailed)
    (untaken roleHealer (Or.inr (Or.inl rfl)) healerFailed)
    (untaken roleDamage (Or.inr (Or.inr rfl)) damageFailed)
  exact absurd only several

theorem searchRest_of_alone
    (assignment : Assignment (done ++ entry :: rest) role)
    (settled : ∀ entry ∈ done, entry.2 = role entry.1) (alone : entry.2 = role entry.1)
    (counted : Counted done tank healer damage) :
    ∃ tank' healer' damage', Counted (done ++ [entry]) tank' healer' damage' ∧
      searchRest retry done (entry :: rest) tank healer damage =
        searchRest retry (done ++ [entry]) rest tank' healer' damage' := by
  have here : entry ∈ done ++ entry :: rest := List.mem_append_right _ List.mem_cons_self
  have isSingle := alone ▸ assignment.single entry here
  have selected := assignment.selected entry here
  have room (flag : Roles) (needed : Nat) (same : entry.2 = flag)
      (needs : ((done ++ entry :: rest).map fun entry => (entry.1, role entry.1)).countP
        (fun entry => entry.2 = flag) ≤ needed) :
      done.countP (fun entry => entry.2 = flag) < needed :=
    count_lt settled (alone ▸ same) needs
  obtain ⟨guid, selection⟩ := entry
  rw [searchRest, if_neg (ne_none_of_selected (assignment.single _ here) selection selected)]
  dsimp only at isSingle alone ⊢
  have step (flag : Roles) : (done ++ [(guid, selection)]).countP (fun entry => entry.2 = flag) =
      done.countP (fun entry => entry.2 = flag) + if decide (selection = flag) = true then 1 else 0 := by
    rw [List.countP_append, List.countP_singleton]
  rcases isSingle with isTank | isHealer | isDamage
  · have free := room roleTank lfgTanksNeeded isTank assignment.needs.tanks
    rw [counted.tanks] at free
    subst isTank
    refine ⟨tank + 1, healer, damage, ?_, ?_⟩
    · exact ⟨counted.tanks ▸ step roleTank, counted.healers ▸ step roleHealer,
        counted.damages ▸ step roleDamage, free, counted.healerNeeds, counted.damageNeeds⟩
    · rw [tryRole_of_alone _ (Or.inl rfl) free]
      rw [tryRole_of_absent _ _ _ (by decide)]
      dsimp only
      rw [tryRole_of_absent _ _ _ (by decide)]
  · have free := room roleHealer lfgHealersNeeded isHealer assignment.needs.healers
    rw [counted.healers] at free
    subst isHealer
    refine ⟨tank, healer + 1, damage, ?_, ?_⟩
    · exact ⟨counted.tanks ▸ step roleTank, counted.healers ▸ step roleHealer,
        counted.damages ▸ step roleDamage, counted.tankNeeds, free, counted.damageNeeds⟩
    · rw [tryRole_of_absent _ _ _ (by decide)]
      rw [tryRole_of_alone _ (Or.inr (Or.inl rfl)) free]
      dsimp only
      rw [tryRole_of_absent _ _ _ (by decide)]
  · have free := room roleDamage lfgDpsNeeded isDamage assignment.needs.damages
    rw [counted.damages] at free
    subst isDamage
    refine ⟨tank, healer, damage + 1, ?_, ?_⟩
    · exact ⟨counted.tanks ▸ step roleTank, counted.healers ▸ step roleHealer,
        counted.damages ▸ step roleDamage, counted.tankNeeds, counted.healerNeeds, free⟩
    · rw [tryRole_of_absent _ _ _ (by decide)]
      rw [tryRole_of_absent _ _ _ (by decide)]
      rw [tryRole_of_alone _ (Or.inr (Or.inr rfl)) free]

theorem searchRest_complete
    (complete : ∀ groles, flagsLeft groles < flagsLeft (done ++ rest) → groles ≠ [] →
      Assignment groles role → (retry groles).isSome)
    (assignment : Assignment (done ++ rest) role)
    (settled : ∀ entry ∈ done, entry.2 = role entry.1)
    (counted : Counted done tank healer damage) :
    (searchRest retry done rest tank healer damage).isSome := by
  induction rest generalizing done tank healer damage with
  | nil =>
    have allSingle : ∀ entry ∈ done, IsSingle entry.2 := by
      intro entry member
      rw [settled entry member]
      exact assignment.single entry (List.mem_append_left _ member)
    have all := counts_eq_length.mpr allSingle
    rw [counted.tanks, counted.healers, counted.damages] at all
    have bounded : done.length < 256 := by
      have tankNeeds := counted.tankNeeds
      have healerNeeds := counted.healerNeeds
      have damageNeeds := counted.damageNeeds
      unfold lfgTanksNeeded lfgHealersNeeded lfgDpsNeeded at *
      omega
    rw [searchRest, Nat.mod_eq_of_lt bounded, if_pos all]
    rfl
  | cons entry rest ih =>
    by_cases alone : entry.2 = role entry.1
    · obtain ⟨tank', healer', damage', counted', step⟩ :=
        searchRest_of_alone assignment settled alone counted
      have assoc : done ++ entry :: rest = (done ++ [entry]) ++ rest :=
        List.append_cons done entry rest
      rw [assoc] at complete assignment
      rw [step]
      apply ih complete assignment ?_ counted'
      intro other member
      rcases List.mem_append.mp member with early | last
      · exact settled other early
      · exact (List.mem_singleton.mp last).symm ▸ alone
    · exact searchRest_of_several complete assignment alone

theorem searchRoles_complete {fuel : Nat}
    (enough : flagsLeft groles < fuel) (players : groles ≠ [])
    (assignment : Assignment groles role) : (searchRoles fuel groles).isSome := by
  induction fuel generalizing groles with
  | zero => exact absurd enough (Nat.not_lt_zero _)
  | succ fuel ih =>
    rw [searchRoles, if_neg players]
    have start : Counted [] 0 0 0 :=
      ⟨rfl, rfl, rfl, Nat.zero_le _, Nat.zero_le _, Nat.zero_le _⟩
    have assignment : Assignment ([] ++ groles) role := assignment
    apply searchRest_complete ?_ assignment (fun _ member => nomatch member) start
    intro narrowed fewer players inner
    exact ih (Nat.lt_of_lt_of_le fewer (Nat.le_of_lt_succ enough)) players inner

theorem findEntries_of_nodup {entries : Selections}
    (distinct : (entries.map Prod.fst).Nodup) (member : entry ∈ entries) :
    OrdMap.findEntries entry.1 entries = some entry.2 := by
  induction entries with
  | nil => cases member
  | cons head rest ih =>
    rw [List.map_cons, List.nodup_cons] at distinct
    unfold OrdMap.findEntries
    rcases List.mem_cons.mp member with first | later
    · rw [if_pos (congrArg Prod.fst first.symm), first]
    · have other : head.1 ≠ entry.1 := by
        grind
      rw [if_neg other]
      exact ih distinct.2 later

theorem Narrower.exists_after (narrower : Narrower selected assigned)
    (member : entry ∈ selected) :
    ∃ after ∈ assigned, after.1 = entry.1 ∧ after.2 &&& entry.2 = after.2 ∧
      (OnlyRoles after.2 → OnlyRoles entry.2) := by
  induction narrower with
  | nil => cases member
  | cons here _ ih =>
    rcases List.mem_cons.mp member with first | later
    · grind
    · obtain ⟨after, inRest, facts⟩ := ih later
      exact ⟨after, List.mem_cons_of_mem _ inRest, facts⟩

/-- The role of a player after `CheckGroupRoles` (`rolesMap[guid]`, which is 0 for nobody) -/
def roleOf (assigned : Selections) (guid : PlayerGuid) : Roles :=
  (OrdMap.findEntries guid assigned).getD roleNone

theorem Assigned.map_roleOf (found : Assigned selected assigned)
    (distinct : (selected.map Prod.fst).Nodup) :
    selected.map (fun entry => (entry.1, roleOf assigned entry.1)) = assigned := by
  have keys := found.narrower.map_fst
  calc selected.map (fun entry => (entry.1, roleOf assigned entry.1))
      = (selected.map Prod.fst).map fun guid => (guid, roleOf assigned guid) := by
        simp
    _ = (assigned.map Prod.fst).map fun guid => (guid, roleOf assigned guid) := by rw [keys]
    _ = assigned.map fun entry => (entry.1, roleOf assigned entry.1) := by
        simp
    _ = assigned.map id := by
        apply List.map_congr_left
        intro entry member
        rw [roleOf, findEntries_of_nodup (keys ▸ distinct) member]
        rfl
    _ = assigned := List.map_id assigned

theorem Assigned.assignment (found : Assigned selected assigned)
    (distinct : (selected.map Prod.fst).Nodup) : Assignment selected (roleOf assigned) := by
  have role {entry : PlayerGuid × Roles} (member : entry ∈ selected) :
      ∃ after ∈ assigned, roleOf assigned entry.1 = after.2 ∧ after.2 &&& entry.2 = after.2 ∧
        (OnlyRoles after.2 → OnlyRoles entry.2) := by
    obtain ⟨after, inside, sameKey, facts⟩ := found.narrower.exists_after member
    refine ⟨after, inside, ?_, facts⟩
    have keys := found.narrower.map_fst
    rw [← sameKey, roleOf, findEntries_of_nodup (keys ▸ distinct) inside]
    rfl
  constructor
  · intro entry member
    obtain ⟨after, inside, _, _, clean⟩ := role member
    apply clean
    rcases found.single after inside with single | single | single <;> rw [single] <;> decide
  · intro entry member
    obtain ⟨after, inside, same, _⟩ := role member
    exact same ▸ found.single after inside
  · intro entry member
    obtain ⟨after, _, same, selected, _⟩ := role member
    exact same ▸ selected
  · rw [found.map_roleOf distinct]
    exact found.needs

theorem searchRoles_isSome_iff {fuel : Nat}
    (enough : flagsLeft groles < fuel) (players : groles ≠ []) (few : groles.length < 256)
    (distinct : (groles.map Prod.fst).Nodup) :
    (searchRoles fuel groles).isSome ↔ Admissible groles := by
  constructor
  · intro found
    obtain ⟨assigned, isAssigned⟩ := Option.isSome_iff_exists.mp found
    exact ⟨_, (searchRoles_sound few isAssigned).assignment distinct⟩
  · rintro ⟨role, assignment⟩
    exact searchRoles_complete enough players assignment

theorem WithinNeeds.perm {other : Selections} (needs : WithinNeeds groles)
    (perm : other.Perm groles) : WithinNeeds other where
  tanks := (perm.countP_eq _).le.trans needs.tanks
  healers := (perm.countP_eq _).le.trans needs.healers
  damages := (perm.countP_eq _).le.trans needs.damages

theorem Assignment.perm {other : Selections}
    (assignment : Assignment groles role) (perm : other.Perm groles) : Assignment other role where
  clean entry member := assignment.clean entry (perm.mem_iff.mp member)
  single entry member := assignment.single entry (perm.mem_iff.mp member)
  selected entry member := assignment.selected entry (perm.mem_iff.mp member)
  needs := assignment.needs.perm (perm.map _)

theorem admissible_perm {other : Selections} (perm : groles.Perm other) :
    Admissible groles ↔ Admissible other := by
  constructor
  · rintro ⟨role, assignment⟩
    exact ⟨role, assignment.perm perm.symm⟩
  · rintro ⟨role, assignment⟩
    exact ⟨role, assignment.perm perm⟩

end DarkCore.DungeonFinding
