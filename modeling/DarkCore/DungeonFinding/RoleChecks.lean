/-
`CheckGroupRoles` follows the search: it answers true with what the search finds
in the map, and false with the map as it was given. A failed inner call has put
everything back, so the role that was taken away fits again.
-/

import DarkCore.DungeonFinding.RoleSearch

namespace DarkCore.DungeonFinding

open DarkCore.Lib

def answerOf (found : Option Selections) (groles : Selections) : Bool × Selections :=
  match found with
  | some assigned => (true, assigned)
  | none => (false, groles)

def turnOf (groles : Selections) : Except (Option Selections) Nat → Turn
  | .error answer => .answered (answerOf answer groles).1 (answerOf answer groles).2
  | .ok count => .counted groles count

section Position

variable (done rest : Selections) (entry : PlayerGuid × Roles)

theorem roleAt_append : roleAt (done ++ entry :: rest) done.length = entry.2 := by
  unfold roleAt
  rw [List.getElem?_append_right (Nat.le_refl _), Nat.sub_self, List.getElem?_cons_zero]

theorem changeRole_append (change : Roles → Roles) :
    changeRole (done ++ entry :: rest) done.length change =
      done ++ (entry.1, change entry.2) :: rest := by
  unfold changeRole
  induction done with
  | nil => rfl
  | cons first later ih =>
    rw [List.cons_append, List.length_cons, List.modify_succ_cons, ih]
    rfl

end Position

variable {retry : Selections → Option Selections} {done rest groles : Selections}

theorem takeRole_eq {call : Selections → Option (Bool × Selections)}
    {entry : PlayerGuid × Roles} {flag : Roles} {needed count : Nat}
    (follows : ∀ groles, flagsLeft groles < flagsLeft (done ++ entry :: rest) →
      call groles = some (answerOf (retry groles) groles))
    (isRole : IsSingle flag) :
    takeRole call flag needed done.length (done ++ entry :: rest) count =
      turnOf (done ++ entry :: rest) (tryRole flag needed entry.2 count fun less =>
        retry (done ++ (entry.1, less) :: rest)) := by
  unfold takeRole tryRole
  rw [roleAt_append]
  split
  · rfl
  · rename_i present
    split
    · rw [changeRole_append, follows _ (flagsLeft_narrow isRole present done rest)]
      dsimp only
      cases retried : retry (done ++ (entry.1, entry.2 - flag) :: rest) with
      | some assigned => rfl
      | none =>
        have back := changeRole_append done rest (entry.1, entry.2 - flag) fun role => role + flag
        rw [BitVec.sub_add_cancel] at back
        dsimp only [answerOf, turnOf]
        rw [back]
    · split <;> rfl

theorem scanRoles_eq {call : Selections → Option (Bool × Selections)}
    {tank healer damage : Nat}
    (follows : ∀ groles, flagsLeft groles < flagsLeft (done ++ rest) →
      call groles = some (answerOf (retry groles) groles)) :
    scanRoles call rest.length done.length (done ++ rest) tank healer damage =
      some (answerOf (searchRest retry done rest tank healer damage) (done ++ rest)) := by
  induction rest generalizing done tank healer damage with
  | nil =>
    rw [List.append_nil, List.length_nil, scanRoles, searchRest]
    split
    · rename_i all
      rw [decide_eq_true all]
      rfl
    · rename_i missing
      rw [decide_eq_false missing]
      rfl
  | cons entry rest ih =>
    rw [List.length_cons, scanRoles, searchRest, roleAt_append]
    split
    · rfl
    · dsimp only
      rw [takeRole_eq follows (Or.inl rfl)]
      cases tryRole roleTank lfgTanksNeeded entry.2 tank fun less =>
          retry (done ++ (entry.1, less) :: rest) with
      | error answer => rfl
      | ok tank =>
        dsimp only [turnOf]
        rw [takeRole_eq follows (Or.inr (Or.inl rfl))]
        cases tryRole roleHealer lfgHealersNeeded entry.2 healer fun less =>
            retry (done ++ (entry.1, less) :: rest) with
        | error answer => rfl
        | ok healer =>
          dsimp only [turnOf]
          rw [takeRole_eq follows (Or.inr (Or.inr rfl))]
          cases tryRole roleDamage lfgDpsNeeded entry.2 damage fun less =>
              retry (done ++ (entry.1, less) :: rest) with
          | error answer => rfl
          | ok damage =>
            dsimp only [turnOf]
            have assoc : done ++ entry :: rest = (done ++ [entry]) ++ rest :=
              List.append_cons done entry rest
            have next : done.length + 1 = (done ++ [entry]).length := by
              rw [List.length_append, List.length_singleton]
            rw [assoc] at follows ⊢
            rw [next]
            exact ih follows

theorem checkRoles_eq {fuel : Nat} (enough : flagsLeft groles < fuel) :
    checkRoles fuel groles = some (answerOf (searchRoles fuel groles) groles) := by
  induction fuel generalizing groles with
  | zero => exact absurd enough (Nat.not_lt_zero _)
  | succ fuel ih =>
    rw [checkRoles, searchRoles]
    split
    · rename_i empty
      rw [if_pos (List.length_eq_zero_iff.mp empty)]
      rfl
    · rename_i players
      rw [if_neg fun empty => players (List.length_eq_zero_iff.mpr empty)]
      have follows : ∀ inner, flagsLeft inner < flagsLeft ([] ++ groles) →
          checkRoles fuel inner = some (answerOf (searchRoles fuel inner) inner) := by
        intro inner fewer
        exact ih (Nat.lt_of_lt_of_le fewer (Nat.le_of_lt_succ enough))
      exact scanRoles_eq follows

theorem tryRole_congr {retry' : Selections → Option Selections}
    {entry : PlayerGuid × Roles} {flag : Roles} {needed count : Nat}
    (same : ∀ groles, flagsLeft groles < flagsLeft (done ++ entry :: rest) →
      retry groles = retry' groles)
    (isRole : IsSingle flag) :
    (tryRole flag needed entry.2 count fun less => retry (done ++ (entry.1, less) :: rest)) =
      tryRole flag needed entry.2 count fun less => retry' (done ++ (entry.1, less) :: rest) := by
  unfold tryRole
  split
  · rfl
  · rename_i present
    split
    · dsimp only
      rw [same _ (flagsLeft_narrow isRole present done rest)]
    · rfl

theorem searchRest_congr {retry' : Selections → Option Selections}
    {tank healer damage : Nat}
    (same : ∀ groles, flagsLeft groles < flagsLeft (done ++ rest) → retry groles = retry' groles) :
    searchRest retry done rest tank healer damage =
      searchRest retry' done rest tank healer damage := by
  induction rest generalizing done tank healer damage with
  | nil => rfl
  | cons entry rest ih =>
    rw [searchRest, searchRest]
    dsimp only
    rw [tryRole_congr same (Or.inl rfl)]
    split
    · rfl
    · split
      · rfl
      · rw [tryRole_congr same (Or.inr (Or.inl rfl))]
        split
        · rfl
        · rw [tryRole_congr same (Or.inr (Or.inr rfl))]
          split
          · rfl
          · have assoc : done ++ entry :: rest = (done ++ [entry]) ++ rest :=
              List.append_cons done entry rest
            exact ih (assoc ▸ same)

theorem searchRoles_congr {fuel fuel' : Nat}
    (enough : flagsLeft groles < fuel) (enough' : flagsLeft groles < fuel') :
    searchRoles fuel groles = searchRoles fuel' groles := by
  induction fuel generalizing fuel' groles with
  | zero => exact absurd enough (Nat.not_lt_zero _)
  | succ fuel ih =>
    cases fuel' with
    | zero => exact absurd enough' (Nat.not_lt_zero _)
    | succ fuel' =>
      rw [searchRoles, searchRoles]
      split
      · rfl
      · apply searchRest_congr
        intro inner fewer
        apply ih
        · exact Nat.lt_of_lt_of_le fewer (Nat.le_of_lt_succ enough)
        · exact Nat.lt_of_lt_of_le fewer (Nat.le_of_lt_succ enough')

theorem checkRoles_of_depth {depth : Nat}
    (enough : flagsLeft (removeLeaderFlag groles) < depth) :
    checkRoles depth (removeLeaderFlag groles) = checkGroupRoles groles := by
  unfold checkGroupRoles
  rw [checkRoles_eq enough, checkRoles_eq (Nat.lt_add_one _),
    searchRoles_congr enough (Nat.lt_add_one _)]

/-- `tanks`, `healers` and `dps` of an `LfgQueueInfo`. They are `uint8` in the source; as integers
they show a wrap as a value below zero. -/
structure RolesNeeded where
  tanks : Int
  healers : Int
  dps : Int
  deriving DecidableEq

def RolesNeeded.full : RolesNeeded where
  tanks := lfgTanksNeeded
  healers := lfgHealersNeeded
  dps := lfgDpsNeeded

def RolesNeeded.take (needed : RolesNeeded) (roles : Roles) : RolesNeeded :=
  if roles &&& roleTank ≠ 0 then { needed with tanks := needed.tanks - 1 }
  else if roles &&& roleHealer ≠ 0 then { needed with healers := needed.healers - 1 }
  else { needed with dps := needed.dps - 1 }

/-- The loop of `UpdateRoleCheck` over `check_roles` -/
def rolesNeeded (checkRoles : Selections) : RolesNeeded :=
  checkRoles.foldl (fun needed entry => needed.take entry.2) RolesNeeded.full

structure RolesNeeded.NonNegative (needed : RolesNeeded) : Prop where
  tanks : 0 ≤ needed.tanks
  healers : 0 ≤ needed.healers
  dps : 0 ≤ needed.dps

theorem RolesNeeded.foldl_take (single : ∀ entry ∈ groles, IsSingle entry.2)
    (needed : RolesNeeded) :
    groles.foldl (fun needed entry => needed.take entry.2) needed =
      { tanks := needed.tanks - groles.countP (fun entry => entry.2 = roleTank)
        healers := needed.healers - groles.countP (fun entry => entry.2 = roleHealer)
        dps := needed.dps - groles.countP (fun entry => entry.2 = roleDamage) } := by
  induction groles generalizing needed with
  | nil =>
    simp
  | cons entry rest ih =>
    obtain ⟨guid, role⟩ := entry
    rw [List.foldl_cons, ih fun other member => single other (List.mem_cons_of_mem _ member),
      List.countP_cons, List.countP_cons, List.countP_cons]
    have here : IsSingle role := single (guid, role) List.mem_cons_self
    have tankHealer : ¬ decide (roleTank = roleHealer) = true := by decide
    have tankDamage : ¬ decide (roleTank = roleDamage) = true := by decide
    have healerTank : ¬ decide (roleHealer = roleTank) = true := by decide
    have healerDamage : ¬ decide (roleHealer = roleDamage) = true := by decide
    have damageTank : ¬ decide (roleDamage = roleTank) = true := by decide
    have damageHealer : ¬ decide (roleDamage = roleHealer) = true := by decide
    rcases here with rfl | rfl | rfl
    · have taken : needed.take roleTank = { needed with tanks := needed.tanks - 1 } := rfl
      rw [taken, if_pos (decide_eq_true rfl), if_neg tankHealer, if_neg tankDamage, Nat.cast_add,
        sub_sub, add_comm (1 : Int)]
      rfl
    · have taken : needed.take roleHealer = { needed with healers := needed.healers - 1 } := rfl
      rw [taken, if_neg healerTank, if_pos (decide_eq_true rfl), if_neg healerDamage,
        Nat.cast_add, sub_sub, add_comm (1 : Int)]
      rfl
    · have taken : needed.take roleDamage = { needed with dps := needed.dps - 1 } := rfl
      rw [taken, if_neg damageTank, if_neg damageHealer, if_pos (decide_eq_true rfl),
        Nat.cast_add, sub_sub, add_comm (1 : Int)]
      rfl

theorem Assigned.rolesNeeded {selected assigned passed : Selections}
    (found : Assigned selected assigned) (isPrefix : passed <+: assigned) :
    (rolesNeeded passed).NonNegative := by
  have single : ∀ entry ∈ passed, IsSingle entry.2 := by
    intro entry member
    exact found.single entry (isPrefix.subset member)
  have tanks := (isPrefix.sublist.countP_le).trans found.needs.tanks
  have healers := (isPrefix.sublist.countP_le).trans found.needs.healers
  have damages := (isPrefix.sublist.countP_le).trans found.needs.damages
  unfold DungeonFinding.rolesNeeded
  rw [RolesNeeded.foldl_take single]
  constructor
  · exact sub_nonneg.mpr (Int.ofNat_le.mpr tanks)
  · exact sub_nonneg.mpr (Int.ofNat_le.mpr healers)
  · exact sub_nonneg.mpr (Int.ofNat_le.mpr damages)

theorem keys_removeLeaderFlag (groles : Selections) :
    (removeLeaderFlag groles).map Prod.fst = groles.map Prod.fst := by
  unfold removeLeaderFlag
  rw [List.map_map]
  rfl

theorem checkGroupRoles_eq (groles : Selections) :
    checkGroupRoles groles = some (answerOf
      (searchRoles (flagsLeft (removeLeaderFlag groles) + 1) (removeLeaderFlag groles))
      (removeLeaderFlag groles)) :=
  checkRoles_eq (Nat.lt_add_one _)

theorem checkGroupRoles_sound {assigned : Selections} (few : groles.length < 256)
    (found : checkGroupRoles groles = some (true, assigned)) :
    Assigned (removeLeaderFlag groles) assigned := by
  rw [checkGroupRoles_eq] at found
  cases searched : searchRoles (flagsLeft (removeLeaderFlag groles) + 1)
      (removeLeaderFlag groles) with
  | none =>
    rw [searched] at found
    cases found
  | some answer =>
    rw [searched] at found
    cases found
    apply searchRoles_sound ?_ searched
    rwa [removeLeaderFlag, List.length_map]

theorem checkGroupRoles_true_iff (players : groles ≠ [])
    (few : groles.length < 256) (distinct : (groles.map Prod.fst).Nodup) :
    (∃ assigned, checkGroupRoles groles = some (true, assigned)) ↔
      Admissible (removeLeaderFlag groles) := by
  have strippedPlayers : removeLeaderFlag groles ≠ [] := by
    intro empty
    exact players (List.map_eq_nil_iff.mp empty)
  have strippedFew : (removeLeaderFlag groles).length < 256 := by
    rwa [removeLeaderFlag, List.length_map]
  rw [← searchRoles_isSome_iff (Nat.lt_add_one _) strippedPlayers strippedFew
    (keys_removeLeaderFlag groles ▸ distinct), checkGroupRoles_eq]
  cases searchRoles (flagsLeft (removeLeaderFlag groles) + 1) (removeLeaderFlag groles) with
  | none => simp [answerOf]
  | some assigned => simp [answerOf]

/-- `CheckGroupRoles` on a non-empty map: it comes to an end, it answers true exactly when the
players can be given roles, and then these are in the map; otherwise the map is as it was. -/
theorem checkGroupRoles_decides (groles : LfgRolesMap) (players : groles.entries ≠ [])
    (few : groles.entries.length < 256) :
    ∃ found result,
      (∀ depth, flagsLeft (removeLeaderFlag groles.entries) < depth →
        checkRoles depth (removeLeaderFlag groles.entries) = some (found, result)) ∧
      (found = true ↔ Admissible (removeLeaderFlag groles.entries)) ∧
      (found = true → Assigned (removeLeaderFlag groles.entries) result ∧
        ∀ passed, passed <+: result → (rolesNeeded passed).NonNegative) ∧
      (found = false → result = removeLeaderFlag groles.entries) := by
  have sameLength : (removeLeaderFlag groles.entries).length = groles.entries.length :=
    List.length_map _
  have strippedPlayers : removeLeaderFlag groles.entries ≠ [] := by
    intro empty
    exact players (List.map_eq_nil_iff.mp empty)
  have decides := searchRoles_isSome_iff (Nat.lt_add_one _) strippedPlayers (sameLength ▸ few)
    (keys_removeLeaderFlag groles.entries ▸ groles.keys_nodup)
  have answer := checkGroupRoles_eq groles.entries
  cases searched : searchRoles (flagsLeft (removeLeaderFlag groles.entries) + 1)
      (removeLeaderFlag groles.entries) with
  | some assigned =>
    rw [searched] at decides answer
    have found := searchRoles_sound (sameLength ▸ few) searched
    refine ⟨true, assigned, ?_, ?_, ?_, ?_⟩
    · intro depth enough
      rw [checkRoles_of_depth enough, answer]
      rfl
    · exact ⟨fun _ => decides.mp rfl, fun _ => rfl⟩
    · intro _
      exact ⟨found, fun passed isPrefix => found.rolesNeeded isPrefix⟩
    · intro impossible
      cases impossible
  | none =>
    rw [searched] at decides answer
    refine ⟨false, removeLeaderFlag groles.entries, ?_, ?_, ?_, ?_⟩
    · intro depth enough
      rw [checkRoles_of_depth enough, answer]
      rfl
    · constructor
      · intro impossible
        cases impossible
      · intro admissible
        cases decides.mpr admissible
    · intro impossible
      cases impossible
    · intro _
      rfl

/-- A tank or healer with a healer, both of them leaders: the first gives up the healer's place. -/
theorem checkGroupRoles_decides_two :
    ∃ found result,
      (∀ depth, flagsLeft (removeLeaderFlag [(1, 0x07), (2, 0x05)]) < depth →
        checkRoles depth (removeLeaderFlag [(1, 0x07), (2, 0x05)]) = some (found, result)) ∧
      (found = true ↔ Admissible (removeLeaderFlag [(1, 0x07), (2, 0x05)])) ∧
      (found = true → Assigned (removeLeaderFlag [(1, 0x07), (2, 0x05)]) result ∧
        ∀ passed, passed <+: result → (rolesNeeded passed).NonNegative) ∧
      (found = false → result = removeLeaderFlag [(1, 0x07), (2, 0x05)]) :=
  checkGroupRoles_decides ⟨[(1, 0x07), (2, 0x05)], by decide⟩ (List.cons_ne_nil _ _) (by decide)

example : checkGroupRoles [(1, 0x07), (2, 0x05)] = some (true, [(1, 0x02), (2, 0x04)]) := by
  decide +kernel

def Assignable (groles : Selections) : Prop :=
  ∃ role : PlayerGuid → Roles,
    (∀ entry ∈ groles, IsSingle (role entry.1) ∧ role entry.1 &&& entry.2 = role entry.1) ∧
      WithinNeeds (groles.map fun entry => (entry.1, role entry.1))

/-- An empty map is refused, and a flag that is no role stays in the way of the roles. -/
theorem checkGroupRoles_refuses :
    (Assignable (removeLeaderFlag []) ∧ checkGroupRoles [] = some (false, [])) ∧
      (Assignable (removeLeaderFlag [(1, 0x12)]) ∧
        checkGroupRoles [(1, 0x12)] = some (false, [(1, 0x12)])) := by
  refine ⟨⟨⟨fun _ => roleTank, ?_, ?_⟩, by decide +kernel⟩,
    ⟨fun _ => roleTank, ?_, ?_⟩, by decide +kernel⟩
  · intro entry member
    cases member
  · exact ⟨by decide, by decide, by decide⟩
  · intro entry member
    rw [List.mem_singleton.mp member]
    exact ⟨Or.inl rfl, rfl⟩
  · exact ⟨by decide, by decide, by decide⟩

end DarkCore.DungeonFinding
