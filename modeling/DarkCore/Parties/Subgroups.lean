/-
The member slots of a group and the counters of its subgroups: what adding,
removing and moving a member does to both.
-/

import DarkCore.Parties.Group

namespace DarkCore.Parties

def tally (slots : List MemberSlot) (subGroup : Nat) : Nat :=
  slots.countP fun slot => slot.group = subGroup

section Slots

variable {slots rest : List MemberSlot} {slot : MemberSlot} {guid other subGroup : Nat}
  {change : MemberSlot → MemberSlot}

theorem tally_cons : tally (slot :: rest) subGroup =
    tally rest subGroup + if slot.group = subGroup then 1 else 0 := by
  unfold tally
  rw [List.countP_cons]
  simp only [decide_eq_true_eq]

theorem tally_concat : tally (slots ++ [slot]) subGroup =
    tally slots subGroup + if slot.group = subGroup then 1 else 0 := by
  unfold tally
  rw [List.countP_append, List.countP_singleton]
  simp only [decide_eq_true_eq]

theorem tally_le_length : tally slots subGroup ≤ slots.length := List.countP_le_length

theorem tally_eraseP (found : slots.find? (fun other => other.guid = guid) = some slot) :
    tally (slots.eraseP fun other => other.guid = guid) subGroup +
      (if slot.group = subGroup then 1 else 0) = tally slots subGroup := by
  induction slots with
  | nil => cases found
  | cons first rest ih =>
    by_cases same : first.guid = guid
    · grind [tally_cons]
    · rw [List.find?_cons_of_neg (by simpa using same)] at found
      rw [List.eraseP_cons_of_neg (by simpa using same), tally_cons, tally_cons, ← ih found]
      omega

theorem tally_modifySlot (found : slots.find? (fun other => other.guid = guid) = some slot) :
    tally (modifySlot guid change slots) subGroup + (if slot.group = subGroup then 1 else 0) =
      tally slots subGroup + if (change slot).group = subGroup then 1 else 0 := by
  induction slots with
  | nil => cases found
  | cons first rest ih =>
    unfold modifySlot
    by_cases same : first.guid = guid
    · grind [tally_cons]
    · rw [List.find?_cons_of_neg (by simpa using same)] at found
      have counted := ih found
      rw [if_neg same, tally_cons, tally_cons]
      omega

theorem tally_modifySlot_same (keeps : ∀ slot, (change slot).group = slot.group) :
    tally (modifySlot guid change slots) subGroup = tally slots subGroup := by
  induction slots with
  | nil => rfl
  | cons first rest ih =>
    unfold modifySlot
    split
    · rw [tally_cons, tally_cons, keeps]
    · rw [tally_cons, tally_cons, ih]

theorem guids_modifySlot (keeps : ∀ slot, (change slot).guid = slot.guid) :
    (modifySlot guid change slots).map MemberSlot.guid = slots.map MemberSlot.guid := by
  induction slots with
  | nil => rfl
  | cons first rest ih =>
    unfold modifySlot
    split
    · rw [List.map_cons, List.map_cons, keeps]
    · rw [List.map_cons, List.map_cons, ih]

theorem mem_modifySlot {changed : MemberSlot} (listed : changed ∈ modifySlot guid change slots) :
    changed ∈ slots ∨ ∃ slot ∈ slots, changed = change slot := by
  induction slots with
  | nil => cases listed
  | cons first rest ih =>
    unfold modifySlot at listed
    split at listed
    · rcases List.mem_cons.mp listed with isFirst | inRest
      · exact Or.inr ⟨first, List.mem_cons_self, isFirst⟩
      · exact Or.inl (List.mem_cons_of_mem first inRest)
    · rcases List.mem_cons.mp listed with isFirst | inRest
      · exact Or.inl (List.mem_cons.mpr (Or.inl isFirst))
      · rcases ih inRest with old | ⟨slot, inRest', isChanged⟩
        · exact Or.inl (List.mem_cons_of_mem first old)
        · exact Or.inr ⟨slot, List.mem_cons_of_mem first inRest', isChanged⟩

theorem find?_modifySlot (keeps : ∀ slot, (change slot).guid = slot.guid) :
    (modifySlot guid change slots).find? (fun slot => slot.guid = other) =
      if other = guid then (slots.find? fun slot => slot.guid = other).map change
      else slots.find? fun slot => slot.guid = other := by
  induction slots with
  | nil => split <;> rfl
  | cons first rest ih =>
    unfold modifySlot
    by_cases same : first.guid = guid
    · grind
    · rw [if_neg same]
      by_cases wanted : first.guid = other
      · simp_all
      · rw [List.find?_cons_of_neg (by simpa using wanted),
          List.find?_cons_of_neg (by simpa using wanted), ih]

theorem find?_guid_isSome : (slots.find? fun slot => slot.guid = guid).isSome = true ↔
    guid ∈ slots.map MemberSlot.guid := by
  rw [List.find?_isSome, List.mem_map]
  simp only [decide_eq_true_eq]

theorem find?_guid_none : (slots.find? fun slot => slot.guid = guid) = none ↔
    guid ∉ slots.map MemberSlot.guid := by
  rw [← find?_guid_isSome, Bool.not_eq_true, Option.isSome_eq_false_iff, Option.isNone_iff_eq_none]

theorem find?_eraseP (distinct : (slots.map MemberSlot.guid).Nodup) :
    (slots.eraseP fun slot => slot.guid = guid).find? (fun slot => slot.guid = other) =
      if other = guid then none else slots.find? fun slot => slot.guid = other := by
  induction slots with
  | nil => split <;> rfl
  | cons first rest ih =>
    rw [List.map_cons, List.nodup_cons] at distinct
    by_cases same : first.guid = guid
    · grind
    · rw [List.eraseP_cons_of_neg (by simpa using same)]
      by_cases wanted : first.guid = other
      · simp_all
      · rw [List.find?_cons_of_neg (by simpa using wanted),
          List.find?_cons_of_neg (by simpa using wanted), ih distinct.2]

end Slots

namespace Group

def maxSize (group : Group) : Nat := if group.isRaidGroup then maxRaidSize else maxGroupSize

/-- The slots have different guids, fit, and fill no subgroup with more than five; the counters of
a raid count them, and a party has none. -/
structure Formed (group : Group) : Prop where
  distinct : (group.memberSlots.map MemberSlot.guid).Nodup
  size : group.memberSlots.length ≤ group.maxSize
  inRange : ∀ slot ∈ group.memberSlots, slot.group < maxRaidSubgroups
  small : ∀ subGroup, tally group.memberSlots subGroup ≤ maxGroupSize
  counted : group.subGroupsCounts =
    if group.isRaidGroup then some (tally group.memberSlots) else none

variable {group : Group} {slot : MemberSlot} {guid subGroup : Nat}

theorem isFull_iff : group.isFull = true ↔ group.maxSize ≤ group.memberSlots.length := by
  unfold isFull maxSize
  split <;> exact decide_eq_true_iff

theorem maxSize_le : group.maxSize ≤ maxRaidSize := by
  unfold maxSize
  split
  · exact Nat.le_refl _
  · decide

theorem isMember_iff :
    group.isMember guid = true ↔ guid ∈ group.memberSlots.map MemberSlot.guid :=
  find?_guid_isSome

theorem increased {counts more : Nat → Nat} (small : ∀ subGroup, counts subGroup ≤ maxGroupSize)
    (counted : ∀ other, more other = counts other + if subGroup = other then 1 else 0) :
    Function.update counts subGroup ((counts subGroup + 1) % 256) = more := by
  funext other
  have limited := small subGroup
  unfold maxGroupSize at limited
  rw [counted other]
  by_cases same : other = subGroup
  · grind
  · rw [Function.update_of_ne same, if_neg (Ne.symm same), Nat.add_zero]

theorem decreased {counts less : Nat → Nat}
    (small : ∀ subGroup, counts subGroup ≤ maxGroupSize + 1)
    (counted : ∀ other, less other + (if subGroup = other then 1 else 0) = counts other) :
    Function.update counts subGroup ((counts subGroup + 255) % 256) = less := by
  funext other
  have limited := small subGroup
  unfold maxGroupSize at limited
  have here := counted other
  by_cases same : other = subGroup <;> grind

theorem Formed.addSlot (formed : group.Formed) (room : group.isFull = false)
    (new : group.isMember guid = false) (inRange : subGroup < maxRaidSubgroups)
    (free : tally group.memberSlots subGroup < maxGroupSize) :
    (group.addSlot guid subGroup).Formed := by
  have counts (other : Nat) : tally (group.memberSlots ++ [⟨guid, subGroup, false⟩]) other =
      tally group.memberSlots other + if subGroup = other then 1 else 0 := tally_concat
  constructor
  case distinct =>
    unfold Group.addSlot subGroupCounterIncrease
    rw [List.map_append, List.map_singleton, List.nodup_append]
    refine ⟨formed.distinct, List.pairwise_singleton _ _, ?_⟩
    intro member listed added isAdded same
    rw [List.mem_singleton.mp isAdded] at same
    have isMember := isMember_iff.mpr (same ▸ listed)
    rw [new] at isMember
    cases isMember
  case size =>
    have fits : ¬ group.maxSize ≤ group.memberSlots.length := fun full => by
      rw [isFull_iff.mpr full] at room
      cases room
    unfold Group.addSlot subGroupCounterIncrease
    rw [List.length_append, List.length_singleton]
    exact Nat.lt_of_not_le fits
  case inRange =>
    intro slot listed
    rcases List.mem_append.mp listed with old | added
    · exact formed.inRange slot old
    · simp_all
  case small =>
    intro other
    change tally (group.memberSlots ++ _) other ≤ maxGroupSize
    rw [counts]
    have before := formed.small other
    split
    · grind
    · exact before
  case counted =>
    unfold Group.addSlot subGroupCounterIncrease
    rw [formed.counted]
    split
    · rw [Option.map_some, increased formed.small counts]
    · rfl

theorem removeSlot_isRaidGroup : (group.removeSlot guid).isRaidGroup = group.isRaidGroup := by
  unfold removeSlot
  split <;> rfl

theorem memberSlots_removeSlot :
    (group.removeSlot guid).memberSlots = group.memberSlots.eraseP fun slot => slot.guid = guid := by
  unfold removeSlot getMemberSlot
  split
  · rename_i missing
    rw [find?_guid_none] at missing
    refine (List.eraseP_of_forall_not fun slot listed => ?_).symm
    have other : slot.guid ≠ guid := fun isGuid =>
      missing (isGuid ▸ List.mem_map_of_mem listed)
    simpa using other
  · rfl

theorem Formed.removeSlot (formed : group.Formed) : (group.removeSlot guid).Formed := by
  have slots : (group.removeSlot guid).memberSlots =
      group.memberSlots.eraseP fun slot => slot.guid = guid := memberSlots_removeSlot
  constructor
  case distinct =>
    rw [slots]
    exact formed.distinct.sublist (List.eraseP_sublist.map _)
  case size =>
    unfold maxSize
    rw [slots, removeSlot_isRaidGroup]
    exact Nat.le_trans List.length_eraseP_le formed.size
  case inRange =>
    rw [slots]
    exact fun slot listed => formed.inRange slot (List.mem_of_mem_eraseP listed)
  case small =>
    rw [slots]
    exact fun other => Nat.le_trans (List.eraseP_sublist.countP_le) (formed.small other)
  case counted =>
    unfold Group.removeSlot
    split
    · exact formed.counted
    · rename_i slot found
      have counts (other : Nat) :
          tally (group.memberSlots.eraseP fun slot => slot.guid = guid) other +
            (if slot.group = other then 1 else 0) = tally group.memberSlots other :=
        tally_eraseP found
      unfold subGroupCounterDecrease
      rw [formed.counted]
      split
      · rw [Option.map_some, decreased (fun other => Nat.le_succ_of_le (formed.small other)) counts]
      · rfl

section

variable (formed : group.Formed)
include formed

theorem Formed.modifySlot {change : MemberSlot → MemberSlot}
    (keepsGuid : ∀ slot, (change slot).guid = slot.guid)
    (keepsGroup : ∀ slot, (change slot).group = slot.group) (leader : Nat) :
    Formed { group with
      leaderGuid := leader
      memberSlots := Parties.modifySlot guid change group.memberSlots } := by
  have sameTally : tally (Parties.modifySlot guid change group.memberSlots) =
      tally group.memberSlots := funext fun _ => tally_modifySlot_same keepsGroup
  have sameGuids : (Parties.modifySlot guid change group.memberSlots).map MemberSlot.guid =
      group.memberSlots.map MemberSlot.guid := guids_modifySlot keepsGuid
  constructor
  case distinct =>
    rw [sameGuids]
    exact formed.distinct
  case size =>
    have sameLength := congrArg List.length sameGuids
    rw [List.length_map, List.length_map] at sameLength
    rw [sameLength]
    exact formed.size
  case inRange =>
    intro slot listed
    rcases mem_modifySlot listed with old | ⟨changed, old, rfl⟩
    · exact formed.inRange slot old
    · rw [keepsGroup]
      exact formed.inRange changed old
  case small =>
    rw [sameTally]
    exact formed.small
  case counted =>
    rw [sameTally]
    exact formed.counted

theorem Formed.setLeader : (group.setLeader guid).Formed := by
  unfold Group.setLeader
  split
  · exact formed
  · refine formed.modifySlot ?_ ?_ _ <;> exact fun _ => rfl

theorem Formed.replaceLeader : (group.replaceLeader guid).Formed := by
  unfold Group.replaceLeader
  split
  · split
    · exact formed
    · exact formed.setLeader
  · exact formed

theorem Formed.setAssistant (apply : Bool) :
    (group.setAssistant guid apply).Formed := by
  unfold Group.setAssistant
  split
  · refine formed.modifySlot ?_ ?_ _ <;> exact fun _ => rfl
  · exact formed

theorem Formed.convertToLFG : group.convertToLFG.Formed where
  distinct := formed.distinct
  size := formed.size
  inRange := formed.inRange
  small := formed.small
  counted := formed.counted

end

theorem foldl_increase {slots : List MemberSlot} {counts : Nat → Nat}
    (byte : ∀ subGroup, counts subGroup < 256) :
    slots.foldl (fun counted slot => counted.subGroupCounterIncrease slot.group)
        { group with subGroupsCounts := some counts } =
      { group with
        subGroupsCounts := some fun subGroup => (counts subGroup + tally slots subGroup) % 256 } := by
  induction slots generalizing counts with
  | nil =>
    rw [List.foldl_nil]
    congr 2
    funext subGroup
    exact (Nat.mod_eq_of_lt (byte subGroup)).symm
  | cons first rest ih =>
    have next : ∀ subGroup, Function.update counts first.group
        ((counts first.group + 1) % 256) subGroup < 256 := by
      grind
    rw [List.foldl_cons]
    refine (ih next).trans ?_
    congr 2
    funext subGroup
    rw [tally_cons]
    by_cases same : subGroup = first.group
    · grind
    · rw [Function.update_of_ne same, if_neg (Ne.symm same), Nat.add_zero]

theorem initRaidSubGroupsCounter_eq (group : Group)
    (small : ∀ subGroup, tally group.memberSlots subGroup ≤ maxGroupSize) :
    group.initRaidSubGroupsCounter =
      { group with subGroupsCounts := some (tally group.memberSlots) } := by
  unfold initRaidSubGroupsCounter
  rw [foldl_increase fun _ => by decide]
  congr 2
  funext subGroup
  have limited := small subGroup
  unfold maxGroupSize at limited
  rw [Nat.zero_add, Nat.mod_eq_of_lt (by omega)]

theorem Formed.convertToRaid (formed : group.Formed) : group.convertToRaid.Formed := by
  unfold Group.convertToRaid
  rw [initRaidSubGroupsCounter_eq { group with isRaidGroup := true } formed.small]
  constructor
  case distinct => exact formed.distinct
  case size => exact Nat.le_trans formed.size maxSize_le
  case inRange => exact formed.inRange
  case small => exact formed.small
  case counted => rfl

theorem Formed.convertToGroup (formed : group.Formed) : group.convertToGroup.Formed := by
  unfold Group.convertToGroup
  split
  · exact formed
  · rename_i fits
    constructor
    case distinct => exact formed.distinct
    case size => exact Nat.le_of_not_lt fits
    case inRange => exact formed.inRange
    case small => exact formed.small
    case counted => rfl

theorem Formed.moved (formed : group.Formed) (found : group.getMemberSlot guid = some slot)
    (inRange : subGroup < maxRaidSubgroups)
    (free : tally group.memberSlots subGroup < maxGroupSize) {moving : Group}
    (moves : group.setMembersGroup guid subGroup = some moving) :
    (moving.subGroupCounterDecrease slot.group).Formed := by
  unfold setMembersGroup at moves
  split at moves
  · cases moves
    let moveTo (slot : MemberSlot) : MemberSlot := { slot with group := subGroup }
    have counts (other : Nat) :
        tally (Parties.modifySlot guid moveTo group.memberSlots) other +
            (if slot.group = other then 1 else 0) =
          tally group.memberSlots other + if subGroup = other then 1 else 0 :=
      tally_modifySlot found
    have sameGuids : (Parties.modifySlot guid moveTo group.memberSlots).map MemberSlot.guid =
        group.memberSlots.map MemberSlot.guid := guids_modifySlot fun _ => rfl
    unfold subGroupCounterDecrease subGroupCounterIncrease
    constructor
    case distinct =>
      rw [sameGuids]
      exact formed.distinct
    case size =>
      have sameLength := congrArg List.length sameGuids
      rw [List.length_map, List.length_map] at sameLength
      rw [sameLength]
      exact formed.size
    case inRange =>
      intro other listed
      rcases mem_modifySlot listed with old | ⟨changed, old, rfl⟩
      · exact formed.inRange other old
      · exact inRange
    case small =>
      intro other
      have counted := counts other
      have before := formed.small other
      change tally (Parties.modifySlot guid moveTo group.memberSlots) other ≤ maxGroupSize
      by_cases isNew : subGroup = other <;> grind
    case counted =>
      rw [formed.counted]
      split
      · rw [Option.map_some, Option.map_some,
          increased formed.small fun other => rfl, decreased (fun other => ?_) counts]
        have before := formed.small other
        split <;> omega
      · rfl
  · cases moves

end Group

end DarkCore.Parties
