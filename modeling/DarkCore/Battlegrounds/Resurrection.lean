/-
Spirit healers of a battleground (`Battleground.cpp`). Whoever asks one waits in
the revive queue; every thirty seconds all who wait go to the resurrect queue, and
half a second later they are resurrected. One who leaves is taken out of the
revive queue at its first place.
-/

import DarkCore.Lib.OrdMap
import DarkCore.Lib.Runs
import Mathlib.Data.Finset.Card

namespace DarkCore.Battlegrounds

open DarkCore.Lib

/-! ### The queues -/

/-- `RESURRECTION_INTERVAL`, in milliseconds -/
def resurrectionInterval : Nat := 30000

def eraseFirst (guid : Nat) : List (Nat × List Nat) → List (Nat × List Nat)
  | [] => []
  | (npc, waiting) :: rest =>
    if guid ∈ waiting then (npc, waiting.erase guid) :: rest
    else (npc, waiting) :: eraseFirst guid rest

theorem eraseFirst_keys (guid : Nat) (entries : List (Nat × List Nat)) :
    (eraseFirst guid entries).map Prod.fst = entries.map Prod.fst := by
  induction entries with
  | nil => rfl
  | cons head rest ih =>
    obtain ⟨npc, waiting⟩ := head
    unfold eraseFirst
    split
    · rfl
    · rw [List.map_cons, ih, List.map_cons]

/-- What `Battleground` knows of those who want to be resurrected -/
structure Battleground where
  players : Finset Nat
  reviveQueue : OrdMap Nat (List Nat)
  resurrectQueue : List Nat
  lastResurrectTime : Nat

/-- `inWorld` is for `sObjectMgr->GetPlayer`, `waiting` for the aura
`SPELL_WAITING_FOR_RESURRECT`, and `inBattleground` for a `GetBattleground` that is this one. -/
structure Player where
  inWorld : Bool
  waiting : Bool
  inBattleground : Bool

structure Field where
  bg : Battleground
  player : Nat → Player

def waitingList (entries : List (Nat × List Nat)) : List Nat := entries.flatMap Prod.snd

namespace Field

variable (field : Field)

def setPlayer (guid : Nat) (player : Player) : Field :=
  { field with player := Function.update field.player guid player }

def revive : List Nat := waitingList field.bg.reviveQueue.entries

def eraseWaiting (guid : Nat) : Field :=
  { field with
    bg :=
      { field.bg with
        reviveQueue :=
          { entries := eraseFirst guid field.bg.reviveQueue.entries
            sorted := by
              have sorted := List.pairwise_map.mpr field.bg.reviveQueue.sorted
              rw [← eraseFirst_keys guid] at sorted
              exact List.pairwise_map.mp sorted } } }

/-- `Battleground::AddPlayerToResurrectQueue`; `casts` tells whether the spell succeeds. -/
def addPlayerToResurrectQueue (npc guid : Nat) (casts : Bool) : Field :=
  let waits := (field.bg.reviveQueue.find npc).getD []
  let field :=
    { field with
      bg :=
        { field.bg with reviveQueue := field.bg.reviveQueue.assign npc (waits ++ [guid]) } }
  let player := field.player guid
  if player.inWorld && casts then field.setPlayer guid { player with waiting := true } else field

/-- The handler of an aura that has just been removed calls
`Battleground::RemovePlayerFromResurrectQueue`, with no aura left. -/
def auraRemoved (guid : Nat) : Field :=
  let player := field.player guid
  let field := field.setPlayer guid { player with waiting := false }
  if player.inBattleground then field.eraseWaiting guid else field

def removePlayerFromResurrectQueue (guid : Nat) : Field :=
  if guid ∈ field.revive then
    let field := field.eraseWaiting guid
    let player := field.player guid
    if player.inWorld && player.waiting then field.auraRemoved guid else field
  else field

def removePlayerAtLeave (guid : Nat) : Field :=
  let field := { field with bg := { field.bg with players := field.bg.players.erase guid } }
  let field := field.removePlayerFromResurrectQueue guid
  let player := field.player guid
  if player.inWorld then field.setPlayer guid { player with inBattleground := false } else field

def processRessurect (diff : Nat) : Field :=
  let bg := { field.bg with lastResurrectTime := (field.bg.lastResurrectTime + diff) % 2 ^ 32 }
  if resurrectionInterval ≤ bg.lastResurrectTime then
    { field with
      bg :=
        { bg with
          reviveQueue := OrdMap.empty
          resurrectQueue :=
            bg.resurrectQueue ++ field.revive.filter fun guid => (field.player guid).inWorld
          lastResurrectTime := 0 } }
  else if 500 < bg.lastResurrectTime then { field with bg := { bg with resurrectQueue := [] } }
  else { field with bg := bg }

/-- Whom `_ProcessRessurect` resurrects -/
def resurrected (diff : Nat) : List Nat :=
  let time := (field.bg.lastResurrectTime + diff) % 2 ^ 32
  if resurrectionInterval ≤ time then []
  else if 500 < time then
    field.bg.resurrectQueue.filter fun guid => (field.player guid).inWorld
  else []

end Field

/-! ### Steps -/

inductive Action
  /-- `HandleAreaSpiritHealerQueueOpcode`, or a word with a spirit guide -/
  | queue (npc guid : Nat) (casts : Bool)
  | enter (guid : Nat)
  /-- `SetBattlegroundId` of one who takes no part -/
  | visit (guid : Nat)
  | leave (guid : Nat)
  | logout (guid : Nat)
  /-- A player goes into the world or out of it, as at a teleport. -/
  | move (guid : Nat) (inWorld : Bool)
  /-- The aura ends by itself or is cancelled. -/
  | auraEnds (guid : Nat)
  /-- A spirit guide loses those who wait for him, as in the Alterac Valley. -/
  | clear (npc : Nat)
  | update (diff : Nat)

namespace Field

variable (field : Field)

def enter (guid : Nat) : Field :=
  { field with bg := { field.bg with players := insert guid field.bg.players } }.setPlayer guid
    { field.player guid with inBattleground := true }

/-- `WorldSession::LogoutPlayer`, which first waits for the end of a teleport -/
def logout (guid : Nat) : Field :=
  if (field.player guid).inWorld then
    let field :=
      if (field.player guid).inBattleground then field.removePlayerAtLeave guid else field
    field.setPlayer guid { inWorld := false, waiting := false, inBattleground := false }
  else field

def update (diff : Nat) : Field :=
  if field.bg.players.card = 0 then field else field.processRessurect diff

def next : Action → Field
  | .queue npc guid casts =>
    if (field.player guid).inBattleground then field.addPlayerToResurrectQueue npc guid casts
    else field
  | .enter guid => field.enter guid
  | .visit guid => field.setPlayer guid { field.player guid with inBattleground := true }
  | .leave guid => field.removePlayerAtLeave guid
  | .logout guid => field.logout guid
  | .move guid inWorld => field.setPlayer guid { field.player guid with inWorld := inWorld }
  | .auraEnds guid => if (field.player guid).waiting then field.auraRemoved guid else field
  | .clear npc =>
    { field with bg := { field.bg with reviveQueue := field.bg.reviveQueue.assign npc [] } }
  | .update diff => field.update diff

/-! ### Who is in the battleground -/

def Inside (guid : Nat) : Prop := guid ∈ field.bg.players ∨ (field.player guid).inBattleground = true

def Queued (guid : Nat) : Prop := guid ∈ field.revive ∨ guid ∈ field.bg.resurrectQueue

def Gathered : Prop := ∀ guid, field.Queued guid → field.Inside guid

def NoneOutside : Action → Prop
  | .update diff => ∀ guid ∈ field.resurrected diff, field.Inside guid
  | _ => True

/-- A player has no more places in the queues than are erased when he leaves; with the aura, whose
end erases a place as well, these are two. -/
def Erasable (guid : Nat) : Prop :=
  guid ∉ field.bg.resurrectQueue ∧
    field.revive.count guid ≤
      if (field.player guid).inWorld && (field.player guid).waiting &&
        (field.player guid).inBattleground then 2 else 1

def Leaves : Action → Prop
  | .leave guid =>
    (field.player guid).inWorld = true ∨ (field.player guid).inBattleground = false →
      field.Erasable guid
  | .logout guid =>
    (field.player guid).inWorld = true → (field.player guid).inBattleground = true →
      field.Erasable guid
  | _ => True

end Field

variable {field after : Field} {guid other npc : Nat}

/-! ### Places in the revive queue -/

theorem waitingList_eraseFirst (guid : Nat) (entries : List (Nat × List Nat)) :
    waitingList (eraseFirst guid entries) = (waitingList entries).erase guid := by
  unfold waitingList
  induction entries with
  | nil => rfl
  | cons head rest ih =>
    obtain ⟨npc, waiting⟩ := head
    unfold eraseFirst
    rw [List.flatMap_cons]
    split
    · grind
    · rename_i absent
      rw [List.flatMap_cons, ih, List.erase_append_right _ absent]

theorem mem_waitingList_assign {queue : OrdMap Nat (List Nat)} {waits : List Nat}
    (member : guid ∈ waitingList (queue.assign npc waits).entries) :
    guid ∈ waits ∨ guid ∈ waitingList queue.entries := by
  obtain ⟨entry, inside, isGuid⟩ := List.mem_flatMap.mp member
  rcases OrdMap.mem_assign inside with isNew | old
  · simp_all
  · exact Or.inr (List.mem_flatMap.mpr ⟨entry, old, isGuid⟩)

theorem mem_waitingList_find {queue : OrdMap Nat (List Nat)}
    (member : guid ∈ (queue.find npc).getD []) : guid ∈ waitingList queue.entries := by
  cases found : queue.find npc with
  | none =>
    simp_all
  | some waits =>
    rw [found] at member
    exact List.mem_flatMap.mpr ⟨(npc, waits), OrdMap.find_eq_some.mp found, member⟩

namespace Field

@[simp] theorem eraseWaiting_revive (guid : Nat) :
    (field.eraseWaiting guid).revive = field.revive.erase guid :=
  waitingList_eraseFirst guid field.bg.reviveQueue.entries

@[simp] theorem eraseWaiting_player (guid : Nat) :
    (field.eraseWaiting guid).player = field.player := rfl

@[simp] theorem setPlayer_revive (player : Player) :
    (field.setPlayer guid player).revive = field.revive := rfl

@[simp] theorem setPlayer_self (player : Player) :
    (field.setPlayer guid player).player guid = player := Function.update_self _ _ _

theorem setPlayer_of_ne (apart : other ≠ guid) (player : Player) :
    (field.setPlayer guid player).player other = field.player other :=
  Function.update_of_ne apart _ _

/-! ### Steps at which nobody leaves -/

theorem Gathered.shrink (gathered : field.Gathered)
    (queued : ∀ guid, after.Queued guid → field.Queued guid)
    (inside : ∀ guid, field.Inside guid → after.Inside guid) : after.Gathered :=
  fun guid waits => inside guid (gathered guid (queued guid waits))

theorem inside_setPlayer {player : Player}
    (stays : (field.player guid).inBattleground = true → player.inBattleground = true)
    (inside : field.Inside other) : (field.setPlayer guid player).Inside other := by
  rcases inside with member | here
  · exact Or.inl member
  · right
    by_cases same : other = guid
    · simp_all
    · rw [setPlayer_of_ne same]
      exact here

theorem gathered_queue (gathered : field.Gathered) (casts : Bool)
    (here : (field.player guid).inBattleground = true) :
    (field.addPlayerToResurrectQueue npc guid casts).Gathered := by
  have queued : ∀ other,
      (field.addPlayerToResurrectQueue npc guid casts).Queued other →
        field.Inside other := by
    intro other waits
    have cases : other ∈ waitingList (field.bg.reviveQueue.assign npc
        ((field.bg.reviveQueue.find npc).getD [] ++ [guid])).entries ∨
          other ∈ field.bg.resurrectQueue := by
      unfold addPlayerToResurrectQueue at waits
      dsimp only at waits
      split at waits <;> exact waits
    rcases cases with revives | resurrects
    · rcases mem_waitingList_assign revives with isNew | old
      · rcases List.mem_append.mp isNew with before | isGuid
        · exact gathered other (Or.inl (mem_waitingList_find before))
        · rw [List.mem_singleton.mp isGuid]
          exact Or.inr here
      · exact gathered other (Or.inl old)
    · exact gathered other (Or.inr resurrects)
  intro other waits
  have inside := queued other waits
  unfold addPlayerToResurrectQueue
  dsimp only
  split
  · exact inside_setPlayer (fun stays => stays) inside
  · exact inside

theorem gathered_auraRemoved (gathered : field.Gathered) :
    (field.auraRemoved guid).Gathered := by
  unfold auraRemoved
  dsimp only
  have kept : (field.setPlayer guid { field.player guid with waiting := false }).Gathered :=
    gathered.shrink (fun other waits => waits) fun other inside =>
      inside_setPlayer (fun stays => stays) inside
  split
  · refine kept.shrink ?_ fun other inside => inside
    intro other waits
    rcases waits with revives | resurrects
    · rw [eraseWaiting_revive] at revives
      exact Or.inl (List.mem_of_mem_erase revives)
    · exact Or.inr resurrects
  · exact kept

theorem gathered_processRessurect (gathered : field.Gathered) (diff : Nat) :
    (field.processRessurect diff).Gathered := by
  unfold processRessurect
  dsimp only
  split
  · refine gathered.shrink ?_ fun other inside => inside
    intro other waits
    rcases waits with revives | resurrects
    · cases revives
    · rcases List.mem_append.mp resurrects with old | isNew
      · exact Or.inr old
      · exact Or.inl (List.mem_filter.mp isNew).1
  · split
    · refine gathered.shrink ?_ fun other inside => inside
      intro other waits
      rcases waits with revives | resurrects
      · exact Or.inl revives
      · cases resurrects
    · exact gathered

/-! ### Leaving -/

@[simp] theorem auraRemoved_inBattleground (guid other : Nat) :
    ((field.auraRemoved guid).player other).inBattleground =
      (field.player other).inBattleground := by
  have same : ((field.setPlayer guid
      { field.player guid with waiting := false }).player other).inBattleground =
        (field.player other).inBattleground := by
    by_cases here : other = guid
    · rw [here, setPlayer_self]
    · rw [setPlayer_of_ne here]
  unfold auraRemoved
  dsimp only
  split <;> exact same

@[simp] theorem auraRemoved_inWorld (guid : Nat) :
    ((field.auraRemoved guid).player guid).inWorld = (field.player guid).inWorld := by
  have same : ((field.setPlayer guid
      { field.player guid with waiting := false }).player guid).inWorld =
        (field.player guid).inWorld := by
    rw [setPlayer_self]
  unfold auraRemoved
  dsimp only
  split <;> exact same

@[simp] theorem auraRemoved_players (guid : Nat) :
    (field.auraRemoved guid).bg.players = field.bg.players := by
  unfold auraRemoved
  dsimp only
  split <;> rfl

@[simp] theorem auraRemoved_resurrectQueue (guid : Nat) :
    (field.auraRemoved guid).bg.resurrectQueue = field.bg.resurrectQueue := by
  unfold auraRemoved
  dsimp only
  split <;> rfl

theorem auraRemoved_revive (guid : Nat) :
    (field.auraRemoved guid).revive =
      if (field.player guid).inBattleground = true then field.revive.erase guid
      else field.revive := by
  unfold auraRemoved
  dsimp only
  split
  · rw [eraseWaiting_revive, setPlayer_revive]
  · rfl

/-- What one who leaves keeps and loses -/
structure Removed (field after : Field) (guid : Nat) : Prop where
  players : after.bg.players = field.bg.players
  resurrectQueue : after.bg.resurrectQueue = field.bg.resurrectQueue
  inWorld : (after.player guid).inWorld = (field.player guid).inWorld
  inBattleground : ∀ other,
    (after.player other).inBattleground = (field.player other).inBattleground
  revive : after.revive =
    if (field.player guid).inWorld && (field.player guid).waiting &&
        (field.player guid).inBattleground then (field.revive.erase guid).erase guid
    else field.revive.erase guid

theorem removePlayerFromResurrectQueue_removed (field : Field) (guid : Nat) :
    Removed field (field.removePlayerFromResurrectQueue guid) guid := by
  unfold removePlayerFromResurrectQueue
  split
  · dsimp only
    split
    · rename_i aura
      refine ⟨?_, ?_, ?_, ?_, ?_⟩
      · rw [auraRemoved_players]
        rfl
      · rw [auraRemoved_resurrectQueue]
        rfl
      · rw [auraRemoved_inWorld, eraseWaiting_player]
      · simp
      · rw [auraRemoved_revive, eraseWaiting_revive, eraseWaiting_player]
        rw [eraseWaiting_player] at aura
        rw [aura, Bool.true_and]
    · rename_i noAura
      refine ⟨rfl, rfl, rfl, fun _ => rfl, ?_⟩
      rw [eraseWaiting_player, Bool.not_eq_true] at noAura
      rw [eraseWaiting_revive, noAura, Bool.false_and]
      rfl
  · rename_i absent
    refine ⟨rfl, rfl, rfl, fun _ => rfl, ?_⟩
    rw [List.erase_of_not_mem absent, List.erase_of_not_mem absent, ite_self]

theorem gathered_leave_iff (gathered : field.Gathered) (guid : Nat) :
    (field.removePlayerAtLeave guid).Gathered ↔ field.Leaves (.leave guid) := by
  obtain ⟨middle, isMiddle⟩ : ∃ middle, middle = Field.removePlayerFromResurrectQueue
      { field with bg := { field.bg with players := field.bg.players.erase guid } } guid :=
    ⟨_, rfl⟩
  have removed : Removed { field with bg := { field.bg with players := field.bg.players.erase guid } }
      middle guid := isMiddle ▸ removePlayerFromResurrectQueue_removed _ guid
  have isAfter : field.removePlayerAtLeave guid =
      if (middle.player guid).inWorld = true then
        middle.setPlayer guid { middle.player guid with inBattleground := false }
      else middle := by
    rw [isMiddle]
    rfl
  generalize field.removePlayerAtLeave guid = after at isAfter
  have revive : after.revive = middle.revive := by
    rw [isAfter]
    split <;> rfl
  have bg : after.bg = middle.bg := by
    rw [isAfter]
    split <;> rfl
  have others : ∀ other, other ≠ guid →
      (after.player other).inBattleground = (field.player other).inBattleground := by
    intro other apart
    rw [isAfter]
    split
    · rw [setPlayer_of_ne apart]
      exact removed.inBattleground other
    · exact removed.inBattleground other
  have insideIff : after.Inside guid ↔
      ¬((field.player guid).inWorld = true ∨ (field.player guid).inBattleground = false) := by
    have gone : guid ∉ after.bg.players := by
      simp [bg, removed.players]
    have isInside : after.Inside guid ↔ (after.player guid).inBattleground = true := by
      simp_all [Inside]
    have inWorld : (middle.player guid).inWorld = (field.player guid).inWorld := removed.inWorld
    have inBattleground : (middle.player guid).inBattleground =
        (field.player guid).inBattleground := removed.inBattleground guid
    rw [isInside, isAfter, inWorld]
    cases here : (field.player guid).inWorld with
    | true =>
      simp
    | false =>
      simp [inBattleground]
  have queuedIff : ¬after.Queued guid ↔ field.Erasable guid := by
    have count : guid ∉ after.revive ↔ field.revive.count guid ≤
        if (field.player guid).inWorld && (field.player guid).waiting &&
          (field.player guid).inBattleground then 2 else 1 := by
      have left : after.revive =
          if (field.player guid).inWorld && (field.player guid).waiting &&
              (field.player guid).inBattleground then (field.revive.erase guid).erase guid
          else field.revive.erase guid := revive.trans removed.revive
      rw [← List.count_eq_zero, left]
      split <;> grind
    have resurrectQueue : after.bg.resurrectQueue = field.bg.resurrectQueue := by
      rw [bg]
      exact removed.resurrectQueue
    unfold Queued Erasable
    rw [not_or, count, resurrectQueue]
    exact and_comm
  constructor
  · intro stillGathered outside
    refine queuedIff.mp fun waits => ?_
    exact insideIff.mp (stillGathered guid waits) outside
  · intro leaves other waits
    by_cases here : other = guid
    · rw [here] at waits ⊢
      refine insideIff.mpr fun outside => ?_
      exact queuedIff.mpr (leaves outside) waits
    · have before : field.Queued other := by
        rcases waits with revives | resurrects
        · left
          rw [revive, removed.revive] at revives
          split at revives
          · exact List.mem_of_mem_erase (List.mem_of_mem_erase revives)
          · exact List.mem_of_mem_erase revives
        · right
          rw [bg, removed.resurrectQueue] at resurrects
          exact resurrects
      rcases gathered other before with member | stays
      · left
        rw [bg, removed.players]
        exact Finset.mem_erase.mpr ⟨here, member⟩
      · right
        rw [others other here]
        exact stays

theorem gathered_forget {player : Player} (gone : (field.player guid).inBattleground = false)
    (nowhere : player.inBattleground = false) :
    (field.setPlayer guid player).Gathered ↔ field.Gathered := by
  have same : ∀ other, (field.setPlayer guid player).Inside other ↔ field.Inside other := by
    intro other
    have flag : ((field.setPlayer guid player).player other).inBattleground =
        (field.player other).inBattleground := by
      by_cases here : other = guid
      · rw [here, setPlayer_self, gone, nowhere]
      · rw [setPlayer_of_ne here]
    unfold Inside
    rw [flag]
    rfl
  constructor
  · intro gathered other waits
    exact (same other).mp (gathered other waits)
  · intro gathered other waits
    exact (same other).mpr (gathered other waits)

theorem gathered_logout_iff (gathered : field.Gathered) (guid : Nat) :
    (field.logout guid).Gathered ↔ field.Leaves (.logout guid) := by
  unfold logout Leaves
  split
  · rename_i inWorld
    split
    · rename_i here
      have gone : ((field.removePlayerAtLeave guid).player guid).inBattleground = false := by
        have removed := removePlayerFromResurrectQueue_removed
          { field with bg := { field.bg with players := field.bg.players.erase guid } } guid
        have stays : ((Field.removePlayerFromResurrectQueue
            { field with bg := { field.bg with players := field.bg.players.erase guid } }
            guid).player guid).inWorld = true := removed.inWorld.trans inWorld
        unfold removePlayerAtLeave
        rw [if_pos stays, setPlayer_self]
      rw [gathered_forget gone rfl, gathered_leave_iff gathered guid]
      constructor
      · intro leaves _ _
        exact leaves (Or.inl inWorld)
      · intro leaves _
        exact leaves inWorld here
    · rename_i elsewhere
      rw [Bool.not_eq_true] at elsewhere
      rw [gathered_forget elsewhere rfl]
      constructor
      · simp [elsewhere]
      · simp_all
  · simp_all

/-! ### Runs -/

theorem gathered_next_iff (gathered : field.Gathered) (action : Action) :
    (field.next action).Gathered ↔ field.Leaves action := by
  cases action with
  | leave guid => exact gathered_leave_iff gathered guid
  | logout guid => exact gathered_logout_iff gathered guid
  | queue npc guid casts =>
    refine iff_of_true ?_ trivial
    unfold next
    dsimp only
    split
    · rename_i here
      exact gathered_queue gathered casts here
    · exact gathered
  | enter guid =>
    refine iff_of_true ?_ trivial
    refine gathered.shrink (fun other waits => waits) fun other inside => ?_
    refine inside_setPlayer (fun _ => rfl) ?_
    exact inside.imp (fun member => Finset.mem_insert_of_mem member) id
  | visit guid =>
    refine iff_of_true ?_ trivial
    exact gathered.shrink (fun other waits => waits) fun other inside =>
      inside_setPlayer (fun _ => rfl) inside
  | move guid inWorld =>
    refine iff_of_true ?_ trivial
    exact gathered.shrink (fun other waits => waits) fun other inside =>
      inside_setPlayer (fun stays => stays) inside
  | auraEnds guid =>
    refine iff_of_true ?_ trivial
    unfold next
    dsimp only
    split
    · exact gathered_auraRemoved gathered
    · exact gathered
  | clear npc =>
    refine iff_of_true ?_ trivial
    refine gathered.shrink ?_ fun other inside => inside
    intro other waits
    rcases waits with revives | resurrects
    · rcases mem_waitingList_assign revives with none | old
      · cases none
      · exact Or.inl old
    · exact Or.inr resurrects
  | update diff =>
    refine iff_of_true ?_ trivial
    unfold next update
    dsimp only
    split
    · exact gathered
    · exact gathered_processRessurect gathered diff

theorem noneOutside_of_gathered (gathered : field.Gathered) (action : Action) :
    field.NoneOutside action := by
  cases action with
  | update diff =>
    intro guid isResurrected
    refine gathered guid (Or.inr ?_)
    unfold resurrected at isResurrected
    dsimp only at isResurrected
    split at isResurrected
    · cases isResurrected
    · simp_all
  | _ => exact trivial

/-- In a run from empty queues, or from queues of players who are in the battleground, nobody
waits or is resurrected who has left, exactly if whoever leaves has no more places than are
erased. -/
theorem always_gathered_iff {actions : List Action} (start : field.Gathered) :
    Always next Gathered field actions ∧ Along next NoneOutside field actions ↔
      Along next Leaves field actions := by
  have exact : ∀ (state : Field) (action : Action), state.Gathered →
      ((state.next action).Gathered ↔ state.Leaves action) :=
    fun state action gathered => gathered_next_iff gathered action
  rw [and_iff_left_of_imp, always_iff_along exact start]
  intro always
  have leaves := (always_iff_along exact start).mp always
  exact along_of_step (fun state action gathered meets => (exact state action gathered).mpr meets)
    (fun state action gathered _ => noneOutside_of_gathered gathered action) start leaves

def quiet : Field where
  bg := { players := ∅, reviveQueue := OrdMap.empty, resurrectQueue := [], lastResurrectTime := 0 }
  player _ := { inWorld := true, waiting := false, inBattleground := false }

theorem quiet_gathered : quiet.Gathered := by
  intro guid waits
  rcases waits with revives | resurrects
  · cases revives
  · cases resurrects

/-- Player 1 asks two healers and leaves; the end of his aura takes out his second place. -/
theorem always_gathered_iff_quiet :
    Always next Gathered quiet [.enter 1, .queue 7 1 true, .queue 8 1 true, .leave 1] ∧
        Along next NoneOutside quiet [.enter 1, .queue 7 1 true, .queue 8 1 true, .leave 1] ↔
      Along next Leaves quiet [.enter 1, .queue 7 1 true, .queue 8 1 true, .leave 1] :=
  always_gathered_iff quiet_gathered

/-- Player 1 asks a healer and goes to the resurrect queue; when he has left, he is resurrected
with player 2, who has stayed. -/
def lateRun : List Action :=
  [.enter 1, .enter 2, .queue 7 1 true, .update 30000, .leave 1, .update 501]

theorem not_always_gathered :
    ¬ ∀ (field : Field) (actions : List Action), field.Gathered →
      Always next Gathered field actions ∧ Along next NoneOutside field actions := by
  intro always
  obtain ⟨_, _, _, _, _, _, outside, _⟩ := always quiet lateRun quiet_gathered
  rcases outside 1 (by decide +kernel) with member | stays
  · revert member
    decide +kernel
  · revert stays
    decide +kernel

end Field

end DarkCore.Battlegrounds
