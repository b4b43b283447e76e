/-
Where the damage of an attack goes. Resistance and shields take from the damage
what they add to the totals, and every shield loses what it absorbed; what is
split off is dealt to others on top.
-/

import DarkCore.Combat.AbsorbResist

namespace DarkCore.Combat

open DarkCore.Player (uint32 int32 int32_of_lt uint32_of_lt)

def amountAfter (amount : Int) (absorbed : Nat) : Int :=
  if 0 ≤ amount then amount - absorbed else amount

/-- The damage is shared out among the victim, the casters of the splits, the shields and the
resistance, and the shields lose what they absorbed. -/
structure Conserved (attack : Attack) (result : Calculated) : Prop where
  bounded : result.absorb + result.resist ≤ attack.damage
  total : attack.damage - result.absorb - result.resist + result.splitted + result.absorb +
    result.resist = attack.damage
  absorbed : (result.shields.map Shielded.absorbed).sum = result.absorb
  exact : ∀ shielded ∈ result.shields,
    shielded.amount = amountAfter shielded.aura.amount shielded.absorbed

/-- The damage and the totals add up to the damage of the attack, an `int32`. -/
structure Shared (damage : Nat) (info : DamageInfo) : Prop where
  total : info.damage + info.absorb + info.resist = damage
  small : damage < 2 ^ 31

section Shields

variable {damage : Nat} {info : DamageInfo} {schoolMask : Nat} {mod : Int}

section

variable (shared : Shared damage info)
include shared

theorem Shared.int32_damage : int32 info.damage = info.damage := by
  have total := shared.total
  have small := shared.small
  exact int32_of_lt (by omega)

theorem Shared.resistDamage (amount : Nat) :
    Shared damage (info.resistDamage amount) := by
  have total := shared.total
  have small := shared.small
  refine ⟨?_, small⟩
  simp only [DamageInfo.resistDamage]
  rw [Nat.mod_eq_of_lt] <;> omega

theorem Shared.absorbDamage {absorb : Int} (positive : 0 ≤ absorb)
    (within : absorb ≤ info.damage) :
    Shared damage (info.absorbDamage (uint32 absorb)) ∧
      (info.absorbDamage (uint32 absorb)).absorb = info.absorb + absorb.toNat := by
  have total := shared.total
  have small := shared.small
  have same : uint32 absorb = absorb.toNat := by
    grind [uint32]
  have added : (info.absorbDamage (uint32 absorb)).absorb = info.absorb + absorb.toNat := by
    simp only [DamageInfo.absorbDamage]
    rw [same, Nat.mod_eq_of_lt] <;> omega
  refine ⟨⟨?_, small⟩, added⟩
  rw [added]
  simp only [DamageInfo.absorbDamage]
  rw [same]
  omega

theorem Shared.currentAbsorb {aura : AbsorbAura} {absorb : Int}
    (current : currentAbsorb mod info aura = some absorb) :
    0 ≤ absorb ∧ absorb ≤ info.damage := by
  simp only [Combat.currentAbsorb, shared.int32_damage, roundToInterval,
    Option.ite_none_left_eq_some, Option.some.injEq] at current
  obtain ⟨_, rfl⟩ := current
  omega

end

/-- What a step of the loops over the shields does -/
structure Absorbs (damage : Nat) (info : DamageInfo) (aura : AbsorbAura) (next : DamageInfo)
    (amount : Int) : Prop where
  shared : Shared damage next
  grows : info.absorb ≤ next.absorb
  exact : amount = amountAfter aura.amount (next.absorb - info.absorb)

section

variable (shared : Shared damage info) (aura : AbsorbAura)
include shared aura

theorem Shared.unabsorbed :
    Absorbs damage info aura info aura.amount := by
  refine ⟨shared, le_rfl, ?_⟩
  rw [Nat.sub_self, amountAfter]
  split <;> simp

theorem Shared.absorbed {absorb : Int}
    (positive : 0 ≤ absorb) (within : absorb ≤ info.damage) :
    Absorbs damage info aura (info.absorbDamage (uint32 absorb)) (reduceAmount aura absorb) := by
  obtain ⟨sharedNext, added⟩ := shared.absorbDamage positive within
  refine ⟨sharedNext, ?_, ?_⟩
  · omega
  · rw [added, Nat.add_sub_cancel_left, reduceAmount, amountAfter, Int.toNat_of_nonneg positive]

theorem Shared.absorbShield :
    Absorbs damage info aura (absorbShield schoolMask mod info aura).1
      (absorbShield schoolMask mod info aura).2 := by
  unfold Combat.absorbShield
  split
  · cases current : Combat.currentAbsorb mod info aura with
    | none => exact shared.unabsorbed aura
    | some absorb =>
      obtain ⟨positive, within⟩ := shared.currentAbsorb current
      exact shared.absorbed aura positive within
  · exact shared.unabsorbed aura

end

structure AllAbsorb (damage : Nat) (info last : DamageInfo) (shields : List Shielded) : Prop where
  shared : Shared damage last
  sum : info.absorb + (shields.map Shielded.absorbed).sum = last.absorb
  exact : ∀ shielded ∈ shields,
    shielded.amount = amountAfter shielded.aura.amount shielded.absorbed

theorem Shared.allAbsorb_nil (shared : Shared damage info) : AllAbsorb damage info info [] :=
  ⟨shared, rfl, List.forall_mem_nil _⟩

theorem Absorbs.allAbsorb {aura : AbsorbAura} {next last : DamageInfo} {amount : Int}
    {others : List Shielded} (absorbs : Absorbs damage info aura next amount)
    (all : AllAbsorb damage next last others) :
    AllAbsorb damage info last (⟨aura, next.absorb - info.absorb, amount⟩ :: others) := by
  refine ⟨all.shared, ?_, ?_⟩
  · have grows := absorbs.grows
    have sum := all.sum
    simp only [List.map_cons, List.sum_cons]
    omega
  · rw [List.forall_mem_cons]
    exact ⟨absorbs.exact, all.exact⟩

theorem Shared.absorbShields (shared : Shared damage info) (schoolMask : Nat) (mod : Int)
    (auras : List AbsorbAura) :
    AllAbsorb damage info (absorbShields schoolMask mod auras info).1
      (absorbShields schoolMask mod auras info).2 := by
  induction auras generalizing info with
  | nil => exact shared.allAbsorb_nil
  | cons aura rest ih =>
    unfold Combat.absorbShields
    split
    · have absorbs : Absorbs damage info aura (Combat.absorbShield schoolMask mod info aura).1
        (Combat.absorbShield schoolMask mod info aura).2 := shared.absorbShield aura
      exact absorbs.allAbsorb (ih absorbs.shared)
    · exact shared.allAbsorb_nil

theorem truncate_bounds {value : Rat} {bound : Int} (positive : 0 ≤ value)
    (below : value ≤ bound) : 0 ≤ truncate value ∧ truncate value ≤ bound := by
  unfold truncate
  rw [if_pos positive]
  exact ⟨Int.floor_nonneg.mpr positive, Int.cast_le.mp ((Int.floor_le value).trans below)⟩

theorem Mana.modifyPower_part (mana : Mana) {reduction : Int} (some' : reduction ≠ 0) :
    0 ≤ ((-(mana.modifyPower (-reduction)).1 : Int) / reduction : Rat) ∧
      ((-(mana.modifyPower (-reduction)).1 : Int) / reduction : Rat) ≤ 1 := by
  have positive := mana.positive
  have bounded := mana.bounded
  rcases lt_or_gt_of_ne some' with negative | asked
  · have taken : reduction ≤ -(mana.modifyPower (-reduction)).1 ∧
        -(mana.modifyPower (-reduction)).1 ≤ 0 := by
      grind [Mana.modifyPower]
    have below : (reduction : Rat) < 0 := Int.cast_lt_zero.mpr negative
    constructor
    · exact div_nonneg_of_nonpos (Int.cast_nonpos.mpr taken.2) below.le
    · rw [div_le_one_of_neg below]
      exact Int.cast_le.mpr taken.1
  · have taken : 0 ≤ -(mana.modifyPower (-reduction)).1 ∧
        -(mana.modifyPower (-reduction)).1 ≤ reduction := by
      grind [Mana.modifyPower]
    have above : (0 : Rat) < reduction := Int.cast_pos.mpr asked
    constructor
    · exact div_nonneg (Int.cast_nonneg taken.1) above.le
    · rw [div_le_one above]
      exact Int.cast_le.mpr taken.2

theorem paidAbsorb_bounds (mana : Mana) {absorb reduction paid : Int} (positive : 0 ≤ absorb)
    (isPaid : paidAbsorb absorb (-(mana.modifyPower (-reduction)).1) reduction = some paid) :
    0 ≤ paid ∧ paid ≤ absorb := by
  unfold paidAbsorb at isPaid
  split at isPaid
  · simp_all
  · split at isPaid
    · cases isPaid
    · rename_i some'
      cases isPaid
      obtain ⟨nonneg, atMost⟩ := mana.modifyPower_part some'
      have cast : (0 : Rat) ≤ absorb := Int.cast_nonneg positive
      exact truncate_bounds (mul_nonneg cast nonneg) (mul_le_of_le_one_right cast atMost)

theorem Shared.absorbByMana (shared : Shared damage info) {mana manaNext : Mana}
    {aura : ManaShieldAura} {next : DamageInfo} {amount : Int}
    (step : absorbByMana schoolMask mod info mana aura = some (next, manaNext, amount)) :
    Absorbs damage info aura.toAbsorbAura next amount := by
  unfold Combat.absorbByMana at step
  split at step
  · cases current : Combat.currentAbsorb mod info aura.toAbsorbAura with
    | none =>
      rw [current] at step
      cases step
      exact shared.unabsorbed aura.toAbsorbAura
    | some absorb =>
      obtain ⟨positive, within⟩ := shared.currentAbsorb current
      simp only [current, Option.map_eq_some_iff, Prod.mk.injEq] at step
      obtain ⟨paid, isPaid, rfl, rfl, rfl⟩ := step
      obtain ⟨paidPositive, fewer⟩ := paidAbsorb_bounds mana positive isPaid
      exact shared.absorbed aura.toAbsorbAura paidPositive (fewer.trans within)
  · cases step
    exact shared.unabsorbed aura.toAbsorbAura

theorem Shared.absorbByManas (shared : Shared damage info) {mana : Mana}
    {auras : List ManaShieldAura} {last : DamageInfo} {shields : List Shielded}
    (steps : absorbByManas schoolMask mod auras info mana = some (last, shields)) :
    AllAbsorb damage info last shields := by
  induction auras generalizing info mana shields with
  | nil =>
    cases steps
    exact shared.allAbsorb_nil
  | cons aura rest ih =>
    unfold Combat.absorbByManas at steps
    split at steps
    · simp only [Option.bind_eq_bind, Option.bind_eq_some_iff, Option.pure_def,
        Option.some.injEq, Prod.mk.injEq, Prod.exists] at steps
      obtain ⟨next, manaNext, amount, step, final, others, further, rfl, rfl⟩ := steps
      have absorbs := shared.absorbByMana step
      exact absorbs.allAbsorb (ih absorbs.shared further)
    · cases steps
      exact shared.allAbsorb_nil

end Shields

def Payable (schoolMask : Nat) (mod : Int) : List ManaShieldAura → DamageInfo → Mana → Prop
  | [], _, _ => True
  | aura :: rest, info, mana => 0 < info.damage →
      (IsConcerned schoolMask aura.toAbsorbAura → ∀ absorb,
        currentAbsorb mod info aura.toAbsorbAura = some absorb → absorb ≠ 0 →
          manaReduction aura absorb ≠ 0) ∧
      ∀ next manaNext amount,
        absorbByMana schoolMask mod info mana aura = some (next, manaNext, amount) →
          Payable schoolMask mod rest next manaNext

section Divisions

variable {schoolMask : Nat} {mod : Int} {info : DamageInfo} {mana : Mana}

theorem paidAbsorb_isSome {absorb taken reduction : Int} :
    (paidAbsorb absorb taken reduction).isSome = true ↔ (absorb ≠ 0 → reduction ≠ 0) := by
  unfold paidAbsorb
  split_ifs <;> simp [*]

theorem absorbByMana_isSome {aura : ManaShieldAura} :
    (absorbByMana schoolMask mod info mana aura).isSome = true ↔
      (IsConcerned schoolMask aura.toAbsorbAura → ∀ absorb,
        currentAbsorb mod info aura.toAbsorbAura = some absorb → absorb ≠ 0 →
          manaReduction aura absorb ≠ 0) := by
  unfold absorbByMana
  split
  · rename_i concerned
    cases current : currentAbsorb mod info aura.toAbsorbAura with
    | none => simp
    | some absorb =>
      simp only [Option.isSome_map, paidAbsorb_isSome, concerned, true_imp_iff,
        Option.some.injEq, forall_eq']
  · simp_all

theorem absorbByManas_isSome {auras : List ManaShieldAura} :
    (absorbByManas schoolMask mod auras info mana).isSome = true ↔
      Payable schoolMask mod auras info mana := by
  induction auras generalizing info mana with
  | nil => exact iff_of_true rfl trivial
  | cons aura rest ih =>
    unfold absorbByManas Payable
    split
    · rename_i left
      rw [← absorbByMana_isSome]
      cases step : absorbByMana schoolMask mod info mana aura with
      | none => simp [left]
      | some result =>
        obtain ⟨next, manaNext, amount⟩ := result
        have further : (absorbByManas schoolMask mod rest next manaNext).isSome = true ↔
            Payable schoolMask mod rest next manaNext := ih
        simp only [Option.bind_eq_bind, Option.bind_some, Option.pure_def, left, true_imp_iff,
          Option.some.injEq, Prod.mk.injEq, Option.isSome_some, true_and]
        constructor
        · rintro isSome _ _ _ ⟨rfl, rfl, rfl⟩
          cases rests : absorbByManas schoolMask mod rest next manaNext with
          | none => simp [rests] at isSome
          | some result => exact further.mp (rests ▸ rfl)
        · intro payable
          obtain ⟨result, rests⟩ := Option.isSome_iff_exists.mp
            (further.mpr (payable next manaNext amount ⟨rfl, rfl, rfl⟩))
          rw [rests]
          rfl
    · simp_all

end Divisions

section Splits

variable {info : DamageInfo}

theorem DamageInfo.modifyDamage_zero (small : info.damage < 2 ^ 31) :
    info.modifyDamage 0 = info := by
  have same : uint32 (info.damage + min 0 (int32 info.damage)) = info.damage := by
    rw [int32_of_lt small, min_eq_left (Int.natCast_nonneg _), add_zero]
    exact uint32_of_lt (by omega)
  unfold DamageInfo.modifyDamage
  rw [same]

theorem splitDamage_eq_zero (schoolMask : Nat) (share : Nat → Int → Int)
    (small : info.damage < 2 ^ 31) (auras : List SplitDamageAura) :
    ((splitDamage schoolMask share auras info).2 = 0 ↔
      (0 < info.damage → ∀ aura ∈ auras, IsSplit schoolMask aura →
        share info.damage aura.amount ≤ 0)) ∧
    ((splitDamage schoolMask share auras info).2 = 0 →
      (splitDamage schoolMask share auras info).1 = info) := by
  induction auras with
  | nil => simp [splitDamage]
  | cons aura rest ih =>
    unfold splitDamage
    split
    · rename_i left
      split
      · rename_i isSplit
        dsimp only
        rw [int32_of_lt small]
        by_cases positive : share info.damage aura.amount ≤ 0
        · have none : roundToInterval (share info.damage aura.amount) 0 info.damage = 0 := by
            simp_all [roundToInterval]
          rw [none, DamageInfo.modifyDamage_zero small]
          have zero : uint32 0 = 0 := rfl
          simp only [zero, Nat.zero_add, List.forall_mem_cons, positive, implies_true, true_and]
          exact ih
        · have some' : 0 < uint32 (roundToInterval (share info.damage aura.amount) 0
              info.damage) := by
            grind [roundToInterval, uint32]
          constructor
          · grind
          · omega
      · rename_i whole
        simp only [List.forall_mem_cons, whole, false_implies, true_and]
        exact ih
    · simp_all

end Splits

def Attack.absorbMod (attack : Attack) : Int :=
  auraAbsorbMod attack.schoolMask attack.ignoreAbsorbA attack.ignoreAbsorbB

/-- No divisor is 0, and nothing is split off the damage that resistance and shields leave. -/
structure Flawless (attack : Attack) : Prop where
  resistance : attack.schoolMask &&& 1 = 0 →
    attack.resistance.victimResistance + resistanceConstant attack.resistance.level ≠ 0
  payable : ∀ info, resistAttack attack = some info →
    Payable attack.schoolMask attack.absorbMod attack.manaShields
      (absorbShields attack.schoolMask attack.absorbMod attack.shields info).1 attack.mana
  whole : attack.isSelf = false → ∀ info left shields, resistAttack attack = some info →
    absorbByManas attack.schoolMask attack.absorbMod attack.manaShields
      (absorbShields attack.schoolMask attack.absorbMod attack.shields info).1 attack.mana =
        some (left, shields) → 0 < left.damage →
    (∀ aura ∈ attack.splitsFlat, IsSplit attack.schoolMask aura →
      flatShare left.damage aura.amount ≤ 0) ∧
    ∀ aura ∈ attack.splitsPct, IsSplit attack.schoolMask aura →
      pctShare left.damage aura.amount ≤ 0

section Attacks

variable {attack : Attack} {info left : DamageInfo}

theorem resistAttack_isSome : (resistAttack attack).isSome = true ↔
    (attack.schoolMask &&& 1 = 0 →
      attack.resistance.victimResistance + resistanceConstant attack.resistance.level ≠ 0) := by
  unfold resistAttack averageResist
  split <;> simp_all

theorem resistAttack_shared (small : attack.damage < 2 ^ 31)
    (resisted : resistAttack attack = some info) :
    Shared attack.damage info ∧ info.absorb = 0 := by
  have start : Shared attack.damage ⟨attack.damage, 0, 0⟩ := ⟨rfl, small⟩
  unfold resistAttack at resisted
  split at resisted
  · obtain ⟨_, _, rfl⟩ := Option.map_eq_some_iff.mp resisted
    exact ⟨start.resistDamage attack.resistance.resisted, rfl⟩
  · grind

def Attack.splitOff (attack : Attack) (left : DamageInfo) : DamageInfo × Nat :=
  if attack.isSelf then (left, 0)
  else
    let (info, flat) := splitDamage attack.schoolMask flatShare attack.splitsFlat left
    let (info, pct) := splitDamage attack.schoolMask pctShare attack.splitsPct info
    (info, flat + pct)

theorem modifyDamage_totals (amount : Int) :
    (info.modifyDamage amount).absorb = info.absorb ∧
      (info.modifyDamage amount).resist = info.resist := by
  rw [DamageInfo.modifyDamage]
  exact ⟨rfl, rfl⟩

theorem splitDamage_totals (info : DamageInfo) (schoolMask : Nat) (share : Nat → Int → Int)
    (auras : List SplitDamageAura) :
    (splitDamage schoolMask share auras info).1.absorb = info.absorb ∧
      (splitDamage schoolMask share auras info).1.resist = info.resist := by
  induction auras generalizing info with
  | nil => exact ⟨rfl, rfl⟩
  | cons aura rest ih =>
    unfold splitDamage
    split
    · split
      · have further := ih (info.modifyDamage
          (roundToInterval (share info.damage aura.amount) 0 (int32 info.damage)))
        rw [(modifyDamage_totals _).1, (modifyDamage_totals _).2] at further
        dsimp only
        generalize splitDamage schoolMask share rest _ = result at further ⊢
        exact further
      · exact ih info
    · exact ⟨rfl, rfl⟩

theorem Attack.splitOff_totals : (attack.splitOff left).1.absorb = left.absorb ∧
    (attack.splitOff left).1.resist = left.resist := by
  unfold Attack.splitOff
  split
  · exact ⟨rfl, rfl⟩
  · have flat := splitDamage_totals left attack.schoolMask flatShare attack.splitsFlat
    have pct := splitDamage_totals (splitDamage attack.schoolMask flatShare attack.splitsFlat left).1
      attack.schoolMask pctShare attack.splitsPct
    rwa [flat.1, flat.2] at pct

theorem Attack.splitOff_eq_zero (small : left.damage < 2 ^ 31) :
    (attack.splitOff left).2 = 0 ↔
      (attack.isSelf = false → 0 < left.damage →
        (∀ aura ∈ attack.splitsFlat, IsSplit attack.schoolMask aura →
          flatShare left.damage aura.amount ≤ 0) ∧
        ∀ aura ∈ attack.splitsPct, IsSplit attack.schoolMask aura →
          pctShare left.damage aura.amount ≤ 0) := by
  unfold Attack.splitOff
  split
  · simp_all
  · rename_i other
    obtain ⟨flat, same⟩ :=
      splitDamage_eq_zero attack.schoolMask flatShare small attack.splitsFlat
    obtain ⟨pct, _⟩ := splitDamage_eq_zero attack.schoolMask pctShare small attack.splitsPct
    rw [Nat.add_eq_zero_iff]
    constructor
    · simp_all
    · intro nothing
      have noFlat := flat.mpr fun positive => (nothing (by simpa using other) positive).1
      refine ⟨noFlat, ?_⟩
      rw [same noFlat]
      exact pct.mpr fun positive => (nothing (by simpa using other) positive).2

theorem calcAbsorbResist_eq (alive : attack.isAlive = true) (some' : attack.damage ≠ 0) :
    calcAbsorbResist attack = do
      let info ← resistAttack attack
      let (left, manaShields) ← absorbByManas attack.schoolMask attack.absorbMod
        attack.manaShields
        (absorbShields attack.schoolMask attack.absorbMod attack.shields info).1 attack.mana
      return ⟨(attack.splitOff left).1.absorb, (attack.splitOff left).1.resist,
        (absorbShields attack.schoolMask attack.absorbMod attack.shields info).2 ++ manaShields,
        (attack.splitOff left).2⟩ := by
  have goesOn : ¬ (attack.isAlive = false ∨ attack.damage = 0) := by simp [alive, some']
  unfold calcAbsorbResist Attack.splitOff Attack.absorbMod
  rw [if_neg goesOn]

theorem conserved_iff (small : attack.damage < 2 ^ 31) (resisted : resistAttack attack = some info)
    {shields : List Shielded}
    (absorbed : absorbByManas attack.schoolMask attack.absorbMod attack.manaShields
      (absorbShields attack.schoolMask attack.absorbMod attack.shields info).1 attack.mana =
        some (left, shields)) :
    Conserved attack ⟨(attack.splitOff left).1.absorb, (attack.splitOff left).1.resist,
        (absorbShields attack.schoolMask attack.absorbMod attack.shields info).2 ++ shields,
        (attack.splitOff left).2⟩ ↔ (attack.splitOff left).2 = 0 := by
  obtain ⟨shared, zero⟩ := resistAttack_shared small resisted
  have first := shared.absorbShields attack.schoolMask attack.absorbMod attack.shields
  have second := first.shared.absorbByManas absorbed
  have total := second.shared.total
  rw [Attack.splitOff_totals.1, Attack.splitOff_totals.2]
  constructor
  · intro conserved
    have together := conserved.total
    dsimp only at together
    omega
  · intro nothing
    refine ⟨?_, ?_, ?_, ?_⟩
    · grind
    · grind
    · have sumFirst := first.sum
      have sumSecond := second.sum
      simp only [List.map_append, List.sum_append]
      omega
    · intro shielded member
      rcases List.mem_append.mp member with early | late
      · exact first.exact shielded early
      · exact second.exact shielded late

end Attacks

/-- All damage is accounted for, the shields lose what they absorb and no divisor is 0 exactly when
the resistance and the costs of the mana shields leave no zero divisor and nothing is split off. -/
theorem calcAbsorbResist_conserved_iff (attack : Attack) (small : attack.damage < 2 ^ 31) :
    (∃ result, calcAbsorbResist attack = some result ∧ Conserved attack result) ↔
      attack.isAlive = false ∨ attack.damage = 0 ∨ Flawless attack := by
  by_cases nothingLeft : attack.isAlive = false ∨ attack.damage = 0
  · have nothing : calcAbsorbResist attack = some ⟨0, 0, [], 0⟩ := by
      unfold calcAbsorbResist
      rw [if_pos nothingLeft]
    refine iff_of_true ⟨_, nothing, ?_⟩ (or_assoc.mp (Or.inl nothingLeft))
    exact ⟨Nat.zero_le _, rfl, rfl, List.forall_mem_nil _⟩
  · rw [← or_assoc, or_iff_right nothingLeft]
    rw [not_or, Bool.not_eq_false] at nothingLeft
    rw [calcAbsorbResist_eq nothingLeft.1 nothingLeft.2]
    constructor
    · rintro ⟨result, calculated, conserved⟩
      simp only [Option.bind_eq_bind, Option.bind_eq_some_iff, Option.pure_def, Option.some.injEq,
        Prod.exists] at calculated
      obtain ⟨info, resisted, left, shields, absorbed, rfl⟩ := calculated
      have whole := (conserved_iff small resisted absorbed).mp conserved
      obtain ⟨shared, _⟩ := resistAttack_shared small resisted
      have first := shared.absorbShields attack.schoolMask attack.absorbMod attack.shields
      have second := first.shared.absorbByManas absorbed
      have total := second.shared.total
      refine ⟨resistAttack_isSome.mp (resisted ▸ rfl), ?_, ?_⟩
      · intro other isOther
        rw [resisted] at isOther
        cases isOther
        exact absorbByManas_isSome.mp (absorbed ▸ rfl)
      · intro notSelf other otherLeft otherShields isOther otherAbsorbed
        rw [resisted] at isOther
        cases isOther
        rw [absorbed] at otherAbsorbed
        cases otherAbsorbed
        exact (Attack.splitOff_eq_zero (by omega)).mp whole notSelf
    · intro flawless
      obtain ⟨info, resisted⟩ :=
        Option.isSome_iff_exists.mp (resistAttack_isSome.mpr flawless.resistance)
      obtain ⟨⟨left, shields⟩, absorbed⟩ := Option.isSome_iff_exists.mp
        (absorbByManas_isSome.mpr (flawless.payable info resisted))
      obtain ⟨shared, _⟩ := resistAttack_shared small resisted
      have first := shared.absorbShields attack.schoolMask attack.absorbMod attack.shields
      have total := (first.shared.absorbByManas absorbed).shared.total
      refine ⟨_, ?_, (conserved_iff small resisted absorbed).mpr ?_⟩
      · simp only [resisted, absorbed, Option.bind_eq_bind, Option.bind_some, Option.pure_def]
      · rw [Attack.splitOff_eq_zero (by omega)]
        intro notSelf positive
        exact flawless.whole notSelf info left shields resisted absorbed positive

def plainAttack (splitsFlat : List SplitDamageAura) (manaShields : List ManaShieldAura) :
    Attack where
  damage := 100
  schoolMask := 1
  isAlive := true
  isSelf := false
  resistance := ⟨0, 80, 0⟩
  ignoreAbsorbA := []
  ignoreAbsorbB := []
  shields := [⟨true, 127, 20, fun _ absorb => (absorb, false)⟩]
  mana := ⟨50, 1000, by decide, by decide⟩
  manaShields := manaShields
  splitsFlat := splitsFlat
  splitsPct := []

/-- 30 of the 80 points that the shield leaves are dealt to the paladin, and the victim gets all 80;
a shield of 1 that takes half as much mana divides by zero. -/
theorem calcAbsorbResist_loses_split :
    (¬ ∃ result, calcAbsorbResist (plainAttack [⟨true, 127, true, 30⟩] []) = some result ∧
      Conserved (plainAttack [⟨true, 127, true, 30⟩] []) result) ∧
    calcAbsorbResist (plainAttack [] [⟨⟨true, 127, 1, fun _ absorb => (absorb, false)⟩, 1 / 2⟩]) =
      none := by
  constructor
  · rintro ⟨result, calculated, conserved⟩
    have totals : (calcAbsorbResist (plainAttack [⟨true, 127, true, 30⟩] [])).map
        (fun result => (result.absorb, result.resist, result.splitted)) = some (20, 0, 30) := by
      decide +kernel
    simp only [calculated, Option.map_some, Option.some.injEq, Prod.mk.injEq] at totals
    have total := conserved.total
    rw [totals.1, totals.2.1, totals.2.2] at total
    exact absurd total (by decide)
  · have nothing : (calcAbsorbResist (plainAttack []
        [⟨⟨true, 127, 1, fun _ absorb => (absorb, false)⟩, 1 / 2⟩])).isNone = true := by
      decide +kernel
    exact Option.isNone_iff_eq_none.mp nothing

/-- Without splits and mana shields, 20 points are absorbed. -/
theorem calcAbsorbResist_conserved_iff_plain :
    (∃ result, calcAbsorbResist (plainAttack [] []) = some result ∧
      Conserved (plainAttack [] []) result) ↔
        (plainAttack [] []).isAlive = false ∨ (plainAttack [] []).damage = 0 ∨
          Flawless (plainAttack [] []) :=
  calcAbsorbResist_conserved_iff (plainAttack [] []) (by decide)

end DarkCore.Combat
