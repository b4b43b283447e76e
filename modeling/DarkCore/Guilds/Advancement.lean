/-
The experience of a guild (`Guild::GainXP`, `LevelUp`, `GenerateXPCap`). The
daily cap is a bound of the counter `m_xp`, from which every level-up takes the
requirement of the level: what it takes can be gained again on the same day.
-/

import DarkCore.Lib.Runs
import Mathlib.Algebra.BigOperators.Intervals
import Mathlib.Tactic.Linarith

namespace DarkCore.Guilds

open Lib

/-- The configuration, and `mGuildXPperLevel` with an entry for each level below the maximum -/
structure Advancement where
  enabled : Bool
  maxLevel : Nat
  maxLevel_le : maxLevel ≤ 255
  mGuildXPperLevel : List Nat

structure GuildXP where
  m_level : Nat
  m_xp : Nat
  m_nextLevelXP : Nat
  m_today_xp : Nat
  m_xp_cap : Nat

namespace Advancement

variable (config : Advancement)

/-- A level outside the table requires 0; the result is a `uint32`. -/
def getXPForGuildLevel (level : Nat) : Nat := config.mGuildXPperLevel.getD level 0 % 2 ^ 32

def generateXPCap (guild : GuildXP) : GuildXP :=
  let baseXP := config.getXPForGuildLevel guild.m_level
  let diff := baseXP * 15 / 100
  { guild with m_xp_cap := if diff < baseXP then (diff + guild.m_xp) % 2 ^ 64 else baseXP }

def levelUp (guild : GuildXP) : GuildXP :=
  if config.enabled then
    let level := (guild.m_level + 1) % 256
    { guild with m_level := level, m_nextLevelXP := config.getXPForGuildLevel level }
  else guild

/-- The loop of `GainXP`, with its counter `new_xp` -/
def levelUps (new_xp level : Nat) (guild : GuildXP) : Nat × GuildXP :=
  if guild.m_nextLevelXP ≤ new_xp ∧ level < config.maxLevel then
    levelUps (new_xp - guild.m_nextLevelXP) ((level + 1) % 256) (config.levelUp guild)
  else (new_xp, guild)
termination_by config.maxLevel - level
decreasing_by
  have bound := config.maxLevel_le
  omega

/-- None of the early returns of `GainXP` is taken. -/
def accepts (guild : GuildXP) (xp : Nat) : Bool :=
  xp ≠ 0 && config.enabled && guild.m_level < config.maxLevel &&
    (guild.m_xp + xp) % 2 ^ 64 ≤ guild.m_xp_cap

def gainXP (guild : GuildXP) (xp : Nat) : GuildXP :=
  if config.accepts guild xp then
    let (new_xp, levelled) := config.levelUps ((guild.m_xp + xp) % 2 ^ 64) guild.m_level guild
    { levelled with m_xp := new_xp, m_today_xp := (guild.m_today_xp + xp) % 2 ^ 64 }
  else guild

def passed (first : Nat) (guild : GuildXP) : Nat :=
  ∑ level ∈ Finset.Ico first guild.m_level, config.getXPForGuildLevel level

structure Waits (guild : GuildXP) : Prop where
  next : guild.m_nextLevelXP = config.getXPForGuildLevel guild.m_level
  below : config.maxLevel ≤ guild.m_level ∨ guild.m_xp < guild.m_nextLevelXP

variable {config} {guild : GuildXP} {xp first : Nat}

theorem levelUps_spec {new_xp level left : Nat} {levelled : GuildXP}
    (done : config.levelUps new_xp level guild = (left, levelled))
    (enabled : config.enabled = true) (same : guild.m_level = level)
    (next : guild.m_nextLevelXP = config.getXPForGuildLevel guild.m_level) :
    level ≤ levelled.m_level ∧ left + config.passed level levelled = new_xp ∧
      config.Waits { levelled with m_xp := left } ∧ levelled.m_xp_cap = guild.m_xp_cap := by
  fun_induction levelUps config new_xp level guild with
  | case1 new_xp level guild due ih =>
    have bound := config.maxLevel_le
    have small : (level + 1) % 256 = level + 1 := Nat.mod_eq_of_lt (by omega)
    have up := ih done (by simp [levelUp, enabled, same]) (by simp [levelUp, enabled])
    rw [small] at up
    obtain ⟨higher, taken, waits, cap⟩ := up
    refine ⟨by omega, ?_, waits, by simpa [levelUp, enabled] using cap⟩
    rw [passed, Finset.sum_eq_sum_Ico_succ_bot (by omega), ← same, ← next, same]
    rw [passed] at taken
    omega
  | case2 new_xp level guild waits =>
    obtain ⟨rfl, rfl⟩ := Prod.mk.injEq .. ▸ done
    refine ⟨same.ge, by simp [passed, same], ⟨next, ?_⟩, rfl⟩
    dsimp only
    omega

theorem gainXP_refused (refused : config.accepts guild xp = false) :
    config.gainXP guild xp = guild := by
  simp [gainXP, refused]

theorem gainXP_accepted (accepted : config.accepts guild xp = true) (waits : config.Waits guild)
    (fits : guild.m_xp + xp < 2 ^ 64) (past : first ≤ guild.m_level) :
    first ≤ (config.gainXP guild xp).m_level ∧ config.Waits (config.gainXP guild xp) ∧
      (config.gainXP guild xp).m_xp_cap = guild.m_xp_cap ∧
      (config.gainXP guild xp).m_xp + config.passed first (config.gainXP guild xp) =
        guild.m_xp + config.passed first guild + xp := by
  have enabled : config.enabled = true := by
    simp only [accepts, Bool.and_eq_true] at accepted
    exact accepted.1.1.2
  rw [gainXP, if_pos accepted, Nat.mod_eq_of_lt fits]
  cases done : config.levelUps (guild.m_xp + xp) guild.m_level guild with
  | mk left levelled =>
    obtain ⟨higher, taken, after, cap⟩ := levelUps_spec done enabled rfl waits.next
    refine ⟨by dsimp only; omega, ⟨after.next, after.below⟩, cap, ?_⟩
    have parts := Finset.sum_Ico_consecutive config.getXPForGuildLevel past higher
    simp only [passed] at taken ⊢
    omega

structure Day where
  guild : GuildXP
  granted : Nat

variable (config) in
def gain (day : Day) (xp : Nat) : Day where
  guild := config.gainXP day.guild xp
  granted := day.granted + if config.accepts day.guild xp then xp else 0

variable (config) in
def morning (guild : GuildXP) : Day := ⟨config.generateXPCap guild, 0⟩

variable (config) in
def dailyCap (guild : GuildXP) : Nat := config.getXPForGuildLevel guild.m_level * 15 / 100

variable (config) in
structure Sound (start : GuildXP) (day : Day) : Prop where
  below : config.maxLevel ≤ day.guild.m_level ∨ day.guild.m_xp < day.guild.m_nextLevelXP
  conserved : start.m_xp + day.granted =
    day.guild.m_xp + config.passed start.m_level day.guild
  within : day.granted ≤ config.dailyCap start

variable (config) in
/-- The amount still fits under the cap when the requirements of the levels passed since it was
generated are put back. -/
def Fits (start : GuildXP) (day : Day) (xp : Nat) : Prop :=
  config.accepts day.guild xp = true →
    day.guild.m_xp + config.passed start.m_level day.guild + xp ≤ day.guild.m_xp_cap

variable (config) in
structure InDay (start : GuildXP) (day : Day) : Prop where
  sound : config.Sound start day
  waits : config.Waits day.guild
  past : start.m_level ≤ day.guild.m_level
  cap : start.m_level < config.maxLevel →
    day.guild.m_xp_cap = start.m_xp + config.dailyCap start ∧ day.guild.m_xp_cap < 2 ^ 64

variable {start : GuildXP} {day : Day}

theorem morning_inDay (waits : config.Waits start) : config.InDay start (config.morning start) where
  sound := ⟨waits.below, by simp [morning, generateXPCap, passed], Nat.zero_le _⟩
  waits := ⟨waits.next, waits.below⟩
  past := Nat.le_refl _
  cap := by
    intro under
    have below := waits.below
    rw [waits.next] at below
    have small : config.getXPForGuildLevel start.m_level < 2 ^ 32 := Nat.mod_lt _ (by decide)
    have less : config.getXPForGuildLevel start.m_level * 15 / 100 <
        config.getXPForGuildLevel start.m_level := by omega
    simp only [morning, generateXPCap, if_pos less, dailyCap]
    omega

theorem accepts_cap (accepted : config.accepts day.guild xp = true) :
    day.guild.m_level < config.maxLevel ∧ (day.guild.m_xp + xp) % 2 ^ 64 ≤ day.guild.m_xp_cap := by
  simp only [accepts, Bool.and_eq_true, decide_eq_true_eq] at accepted
  exact ⟨accepted.1.2, accepted.2⟩

theorem fits_of_sound (inDay : config.InDay start day)
    (sound : config.Sound start (config.gain day xp)) : config.Fits start day xp := by
  intro accepted
  have under := Nat.lt_of_le_of_lt inDay.past (accepts_cap accepted).1
  have within := sound.within
  simp only [gain, if_pos accepted] at within
  rw [(inDay.cap under).1, ← inDay.sound.conserved]
  omega

theorem gain_inDay (inDay : config.InDay start day) (fits : config.Fits start day xp) :
    config.InDay start (config.gain day xp) := by
  cases accepted : config.accepts day.guild xp with
  | false =>
    have same : config.gain day xp = day := by simp [gain, gainXP_refused accepted, accepted]
    rwa [same]
  | true =>
    have under := Nat.lt_of_le_of_lt inDay.past (accepts_cap accepted).1
    obtain ⟨cap, small⟩ := inDay.cap under
    have room := fits accepted
    have conserved := inDay.sound.conserved
    obtain ⟨past, waits, sameCap, sum⟩ :=
      gainXP_accepted accepted inDay.waits (by omega) inDay.past
    refine ⟨⟨waits.below, ?_, ?_⟩, waits, past, fun _ => sameCap ▸ ⟨cap, small⟩⟩
    · simp only [gain, if_pos accepted, sum]
      omega
    · grind [gain]

/-- All through a day the guild waits for its next level and has what it was granted, at most the
cap, exactly if no accepted amount makes use of what an earlier level-up took from the counter. -/
theorem gainXP_day_sound (config : Advancement) (start : GuildXP) (waits : config.Waits start)
    (amounts : List Nat) :
    Always config.gain (config.Sound start) (config.morning start) amounts ↔
      Along config.gain (config.Fits start) (config.morning start) amounts :=
  always_property_iff_along (fun _ => InDay.sound) (fun _ _ => fits_of_sound)
    (fun _ _ => gain_inDay) (morning_inDay waits)

def hundreds : Advancement := ⟨true, 25, by decide, List.replicate 25 100⟩

def almostSecond : GuildXP := ⟨1, 95, 100, 0, 0⟩

theorem almostSecond_waits : hundreds.Waits almostSecond := ⟨by decide, by decide⟩

theorem gainXP_day_sound_once :
    Always hundreds.gain (hundreds.Sound almostSecond) (hundreds.morning almostSecond) [15] :=
  (gainXP_day_sound hundreds almostSecond almostSecond_waits [15]).mpr
    ⟨fun _ => by decide, trivial⟩

theorem hundreds_evening : [15, 100].foldl hundreds.gain (hundreds.morning almostSecond) =
    ⟨⟨3, 10, 100, 115, 110⟩, 115⟩ := by
  simp [morning, generateXPCap, gain, gainXP, accepts, levelUps, levelUp, hundreds, almostSecond,
    getXPForGuildLevel]

/-- The first call reaches the cap and the second level, the next one grants 100 more. -/
theorem not_gainXP_day_sound :
    ¬ Always hundreds.gain (hundreds.Sound almostSecond) (hundreds.morning almostSecond)
      [15, 100] := by
  intro sound
  have within := sound.last.within
  rw [hundreds_evening] at within
  exact absurd within (by decide)

end Advancement

end DarkCore.Guilds
