/-
Friends and ignored players (`SocialMgr.cpp`): the flags that are in memory and
those in the rows of `character_social`. No character is deleted meanwhile.
-/

import DarkCore.Lib.OrdMap
import DarkCore.Lib.Runs

namespace DarkCore.Social

open DarkCore.Lib

abbrev PlayerSocialMap := OrdMap Nat (BitVec 32)

structure PlayerSocial where
  playerSocialMap : PlayerSocialMap := OrdMap.empty
  rows : PlayerSocialMap := OrdMap.empty

/-- `SOCIAL_FLAG_IGNORED` and `SOCIAL_FLAG_FRIEND` -/
def socialFlag (ignore : Bool) : BitVec 32 := if ignore then 2 else 1

def hasFlag (ignore : Bool) (flags : BitVec 32) : Bool := flags &&& socialFlag ignore ≠ 0

/-- `SOCIALMGR_FRIEND_LIMIT` and `SOCIALMGR_IGNORE_LIMIT` -/
def listLimit : Nat := 50

/-- `UPDATE character_social` -/
def update (friend : Nat) (change : BitVec 32 → BitVec 32) (rows : PlayerSocialMap) :
    PlayerSocialMap :=
  match rows.find friend with
  | some flags => rows.assign friend (change flags)
  | none => rows

namespace PlayerSocial

def addToSocialList (social : PlayerSocial) (friend : Nat) (ignore : Bool) : PlayerSocial :=
  if listLimit ≤ social.playerSocialMap.countWhere (hasFlag ignore) then social
  else match social.playerSocialMap.find friend with
    | some flags =>
      ⟨social.playerSocialMap.assign friend (flags ||| socialFlag ignore),
        update friend (· ||| socialFlag ignore) social.rows⟩
    | none =>
      ⟨social.playerSocialMap.assign friend (socialFlag ignore),
        social.rows.assign friend (socialFlag ignore)⟩

def removeFromSocialList (social : PlayerSocial) (friend : Nat) (ignore : Bool) : PlayerSocial :=
  match social.playerSocialMap.find friend with
  | none => social
  | some flags =>
    if flags &&& ~~~socialFlag ignore = 0 then
      ⟨social.playerSocialMap.erase friend, social.rows.erase friend⟩
    else
      ⟨social.playerSocialMap.assign friend (flags &&& ~~~socialFlag ignore),
        update friend (· &&& ~~~socialFlag ignore) social.rows⟩

def loadFromDB : List (Nat × BitVec 32) → PlayerSocialMap → PlayerSocialMap
  | [], map => map
  | row :: rest, map =>
    let map := map.assign row.1 row.2
    if listLimit + listLimit ≤ map.entries.length then map else loadFromDB rest map

inductive Action where
  | add (friend : Nat) (ignore : Bool)
  | remove (friend : Nat) (ignore : Bool)
  | login (result : List (Nat × BitVec 32))

def next (social : PlayerSocial) : Action → PlayerSocial
  | .add friend ignore => social.addToSocialList friend ignore
  | .remove friend ignore => social.removeFromSocialList friend ignore
  | .login result => ⟨loadFromDB result OrdMap.empty, social.rows⟩

/-- The query returns all rows, in any order. -/
def Answers (social : PlayerSocial) : Action → Prop
  | .login result => result.Perm social.rows.entries
  | _ => True

/-- The rows are what is in memory, nobody is without a flag, and no list is too long. -/
structure InStep (social : PlayerSocial) : Prop where
  same : social.rows = social.playerSocialMap
  flags : ∀ friend flags, social.playerSocialMap.find friend = some flags →
    flags = 1 ∨ flags = 2 ∨ flags = 3
  limit : ∀ ignore, social.playerSocialMap.countWhere (hasFlag ignore) ≤ listLimit

variable {social : PlayerSocial} {friend : Nat} {flags : BitVec 32}

theorem InStep.assign (inStep : InStep social) (known : flags = 1 ∨ flags = 2 ∨ flags = 3)
    (room : ∀ ignore, hasFlag ignore flags = true →
      social.playerSocialMap.countWhere (hasFlag ignore) < listLimit ∨
        ∃ old, social.playerSocialMap.find friend = some old ∧ hasFlag ignore old = true) :
    InStep ⟨social.playerSocialMap.assign friend flags, social.playerSocialMap.assign friend flags⟩ where
  same := rfl
  flags other found := by
    rw [OrdMap.find_assign, Function.update_apply]
    split
    · rintro ⟨⟩
      exact known
    · exact inStep.flags other found
  limit ignore := by
    have counted := @OrdMap.countWhere_assign _ _ _ social.playerSocialMap friend flags
      (hasFlag ignore)
    have before := inStep.limit ignore
    rw [OrdMap.weight_some] at counted
    dsimp only
    by_cases has : hasFlag ignore flags = true
    · rcases room ignore has with less | ⟨old, found, held⟩
      · grind
      · rw [found, OrdMap.weight_some, if_pos held, if_pos has] at counted
        omega
    · grind

theorem loadFromDB_eq (rows : List (Nat × BitVec 32)) (map : PlayerSocialMap)
    (few : map.entries.length + rows.length ≤ listLimit + listLimit) :
    loadFromDB rows map = map.assignAll rows := by
  induction rows generalizing map with
  | nil => rfl
  | cons row rest ih =>
    have grown : (map.assign row.1 row.2).entries.length ≤ map.entries.length + 1 := by
      cases found : map.find row.1 with
      | none => rw [OrdMap.length_assign_none found]
      | some old => exact OrdMap.length_assign_some found ▸ Nat.le_succ _
    rw [List.length_cons] at few
    unfold loadFromDB
    dsimp only
    split
    · rw [List.eq_nil_of_length_eq_zero (l := rest) (by omega)]
      rfl
    · exact ih _ (by omega)

theorem InStep.loadFromDB_rows (inStep : InStep social) {result : List (Nat × BitVec 32)}
    (answers : result.Perm social.rows.entries) :
    loadFromDB result OrdMap.empty = social.rows := by
  have few : social.rows.entries.length ≤ listLimit + listLimit := by
    have split := List.length_eq_countP_add_countP (l := social.rows.entries)
      fun entry => hasFlag true entry.2
    have friends : social.rows.entries.countP (fun entry => ¬ hasFlag true entry.2) ≤
        social.rows.countWhere (hasFlag false) := by
      apply List.countP_mono_left
      intro entry member
      rw [inStep.same] at member
      rcases inStep.flags entry.1 entry.2 (OrdMap.find_eq_some.mpr member) with is | is | is <;>
        rw [is] <;> decide
    have first := inStep.limit true
    have second := inStep.limit false
    rw [← inStep.same] at first second
    unfold OrdMap.countWhere at first second friends
    omega
  have distinct : (result.map Prod.fst).Nodup :=
    (answers.map Prod.fst).nodup_iff.mpr social.rows.keys_nodup
  rw [loadFromDB_eq _ _ (by simpa [OrdMap.empty, answers.length_eq] using few)]
  apply OrdMap.eq_of_entries
  exact ((OrdMap.build_perm distinct).trans answers).eq_of_pairwise
    (fun _ _ _ _ less more => (lt_asymm less more).elim) (OrdMap.sorted _) social.rows.sorted

theorem InStep.next (inStep : InStep social) {action : Action} (answers : social.Answers action) :
    InStep (social.next action) := by
  cases action with
  | add friend ignore =>
    simp only [PlayerSocial.next, addToSocialList, update, inStep.same]
    split
    · exact inStep
    next open_ =>
      have room : social.playerSocialMap.countWhere (hasFlag ignore) < listLimit := by omega
      cases found : social.playerSocialMap.find friend with
      | none =>
        refine inStep.assign (by cases ignore <;> decide) fun other has => Or.inl ?_
        have same : other = ignore := by
          revert has
          cases other <;> cases ignore <;> decide
        exact same ▸ room
      | some flags =>
        have known := inStep.flags friend flags found
        refine inStep.assign ?_ fun other has => ?_
        · rcases known with rfl | rfl | rfl <;> cases ignore <;> decide
        · by_cases same : other = ignore
          · exact Or.inl (same ▸ room)
          · refine Or.inr ⟨flags, found, ?_⟩
            revert has same
            rcases known with rfl | rfl | rfl <;> cases ignore <;> cases other <;> decide
  | remove friend ignore =>
    simp only [PlayerSocial.next, removeFromSocialList, update, inStep.same]
    cases found : social.playerSocialMap.find friend with
    | none => exact inStep
    | some flags =>
      have known := inStep.flags friend flags found
      dsimp only
      split
      · refine ⟨rfl, fun other old => ?_, fun other => ?_⟩
        · rw [OrdMap.find_erase, Function.update_apply]
          split
          · rintro ⟨⟩
          · exact inStep.flags other old
        · exact le_trans (Nat.le.intro (OrdMap.countWhere_erase (hasFlag other))) (inStep.limit other)
      next left =>
        refine inStep.assign ?_ fun other has => Or.inr ⟨flags, found, ?_⟩
        · revert left
          rcases known with rfl | rfl | rfl <;> cases ignore <;> decide
        · revert has
          rcases known with rfl | rfl | rfl <;> cases ignore <;> cases other <;> decide
  | login result =>
    rw [PlayerSocial.next, inStep.loadFromDB_rows answers]
    exact ⟨rfl, inStep.same ▸ inStep.flags, inStep.same ▸ inStep.limit⟩

/-- The lists stay in step with their rows and within their limits, whatever is added and removed,
and a login brings all rows back. -/
theorem always_inStep (actions : List Action) (answers : Along next Answers {} actions) :
    Always next InStep {} actions ∧ ∀ result : List (Nat × BitVec 32),
      result.Perm (actions.foldl next {}).rows.entries →
        loadFromDB result OrdMap.empty = (actions.foldl next {}).rows := by
  have start : InStep {} := ⟨rfl, fun _ _ => nofun, fun _ => Nat.zero_le _⟩
  have always := always_of_step (fun _ _ inStep answers => inStep.next answers) start answers
  exact ⟨always, fun _ => always.last.loadFromDB_rows⟩

/-- A friend is ignored as well, and is back with both flags after a login. -/
theorem always_inStep_both : Always next InStep {} [.add 7 false, .add 7 true, .login [(7, 3)]] :=
  (always_inStep [.add 7 false, .add 7 true, .login [(7, 3)]]
    ⟨trivial, trivial, List.Perm.refl _, trivial⟩).1

end PlayerSocial

end DarkCore.Social
