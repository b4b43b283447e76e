/-
The reputation of a player (`ReputationMgr.cpp`). Each faction of the reputation
list has a standing, to which the base reputation of the player's race and class
is added, and eight flags; four counters tell how many factions are visible,
honored, revered and exalted.
-/

import DarkCore.Lib.OrdMap
import DarkCore.Player.Money
import Mathlib.Data.Rat.Floor

namespace DarkCore.Reputation

open DarkCore.Lib
open DarkCore.Player (uint32 int32)

inductive ReputationRank
  | hated
  | hostile
  | unfriendly
  | neutral
  | friendly
  | honored
  | revered
  | exalted
  deriving DecidableEq

def ReputationRank.index (rank : ReputationRank) : Nat := rank.ctorIdx

def reputationCap : Int := 42999

def reputationBottom : Int := -42000

def pointsInRank : ReputationRank → Int
  | .hated => 36000
  | .hostile => 3000
  | .unfriendly => 3000
  | .neutral => 3000
  | .friendly => 6000
  | .honored => 12000
  | .revered => 21000
  | .exalted => 1000

def rankFrom (standing : Int) : List ReputationRank → Int → ReputationRank
  | [], _ => .hated
  | rank :: rest, limit =>
    if limit - pointsInRank rank ≤ standing then rank
    else rankFrom standing rest (limit - pointsInRank rank)

def reputationToRank (standing : Int) : ReputationRank :=
  rankFrom standing [.exalted, .revered, .honored, .friendly, .neutral, .unfriendly, .hostile, .hated]
    (reputationCap + 1)

/-- `FactionFlags` in a `uint8` -/
abbrev Flags := BitVec 8

def flagVisible : Flags := 0x01

def flagAtWar : Flags := 0x02

def flagHidden : Flags := 0x04

def flagInvisibleForced : Flags := 0x08

def flagPeaceForced : Flags := 0x10

def flagInactive : Flags := 0x20

def flagSpecial : Flags := 0x80

/-- A faction of `Faction.dbc`. The database keeps ids in a `smallint`; the id 0 stands for no
faction. `reputationListID` is negative for a faction without a standing. -/
structure FactionEntry where
  ID : Nat
  reputationListID : Int
  baseRepRaceMask : Fin 4 → Nat
  baseRepClassMask : Fin 4 → Nat
  baseRepValue : Fin 4 → Int
  reputationFlags : Fin 4 → Nat
  team : Nat
  spilloverRateIn : Rat
  spilloverRateOut : Rat
  spilloverMaxRankIn : Nat
  isUInt16 : 0 < ID ∧ ID < 2 ^ 16
  isInt32 : -2 ^ 31 ≤ reputationListID ∧ reputationListID < 2 ^ 31

/-- The key of a faction in the list, a `uint32` -/
def FactionEntry.repListID (entry : FactionEntry) : Nat := uint32 entry.reputationListID

structure FactionState where
  ID : Nat
  flags : Flags
  standing : Int
  needSave : Bool
  deriving DecidableEq

/-- One of the up to five factions of a `RepSpilloverTemplate` -/
structure RepSpillover where
  faction : Nat
  rate : Rat
  rank : Nat

structure FactionStore where
  entries : List FactionEntry
  raceMask : Nat
  classMask : Nat
  repSpilloverTemplate : Nat → Option (List RepSpillover)
  factionTeamList : Nat → Option (List Nat)
  reputationGain : Rat

namespace FactionStore

variable (store : FactionStore)

def lookupEntry (id : Nat) : Option FactionEntry := store.entries.find? (·.ID = id)

def baseIndex (entry : FactionEntry) : Option (Fin 4) :=
  [0, 1, 2, 3].find? fun i =>
    (entry.baseRepRaceMask i &&& store.raceMask ≠ 0 ∨
      entry.baseRepRaceMask i = 0 ∧ entry.baseRepClassMask i ≠ 0) ∧
    (entry.baseRepClassMask i &&& store.classMask ≠ 0 ∨ entry.baseRepClassMask i = 0)

def getBaseReputation (entry : FactionEntry) : Int :=
  match store.baseIndex entry with
  | some i => entry.baseRepValue i
  | none => 0

def getDefaultStateFlags (entry : FactionEntry) : Flags :=
  match store.baseIndex entry with
  | some i => BitVec.ofNat 8 (entry.reputationFlags i)
  | none => 0

end FactionStore

structure Counters where
  visible : Nat
  honored : Nat
  revered : Nat
  exalted : Nat

def adjust (counter : Nat) (least old new : ReputationRank) : Nat :=
  let counter := if least.index ≤ old.index then (counter + 255) % 256 else counter
  if least.index ≤ new.index then (counter + 1) % 256 else counter

def Counters.updateRankCounters (counters : Counters) (old new : ReputationRank) : Counters where
  visible := counters.visible
  honored := adjust counters.honored .honored old new
  revered := adjust counters.revered .revered old new
  exalted := adjust counters.exalted .exalted old new

def setVisible (counters : Counters) (faction : FactionState) : Counters × FactionState :=
  if faction.flags &&& (flagInvisibleForced ||| flagHidden) ≠ 0 ∧ faction.flags &&& flagSpecial = 0
  then (counters, faction)
  else if faction.flags &&& flagVisible ≠ 0 then (counters, faction)
  else ({ counters with visible := (counters.visible + 1) % 256 },
    { faction with flags := faction.flags ||| flagVisible, needSave := true })

namespace FactionState

def setAtWar (faction : FactionState) (atWar : Bool) : FactionState :=
  if atWar = true ∧ faction.flags &&& flagPeaceForced ≠ 0 then faction
  else if decide (faction.flags &&& flagAtWar ≠ 0) = atWar then faction
  else { faction with
    flags := if atWar then faction.flags ||| flagAtWar else faction.flags &&& ~~~flagAtWar
    needSave := true }

def setInactive (faction : FactionState) (inactive : Bool) : FactionState :=
  if inactive = true ∧ (faction.flags &&& (flagInvisibleForced ||| flagHidden) ≠ 0 ∨
      faction.flags &&& flagVisible = 0) then faction
  else if decide (faction.flags &&& flagInactive ≠ 0) = inactive then faction
  else { faction with
    flags := if inactive then faction.flags ||| flagInactive else faction.flags &&& ~~~flagInactive
    needSave := true }

end FactionState

structure ReputationMgr where
  factions : OrdMap Nat FactionState
  counters : Counters

/-- A row of `character_reputation` -/
structure ReputationRow where
  faction : Nat
  standing : Int
  flags : Nat

/-- A cast of a `float` to an `int32` -/
def castFloat (value : Rat) : Int := int32 (if 0 ≤ value then ⌊value⌋ else ⌈value⌉)

namespace ReputationMgr

def newFaction (store : FactionStore) (entry : FactionEntry) : FactionState where
  ID := entry.ID
  flags := store.getDefaultStateFlags entry
  standing := 0
  needSave := true

def addFaction (store : FactionStore) (mgr : ReputationMgr) (entry : FactionEntry) :
    ReputationMgr :=
  if 0 ≤ entry.reputationListID then
    let faction := newFaction store entry
    let counters :=
      if faction.flags &&& flagVisible ≠ 0 then
        { mgr.counters with visible := (mgr.counters.visible + 1) % 256 }
      else mgr.counters
    ⟨mgr.factions.assign entry.repListID faction,
      counters.updateRankCounters .hostile (reputationToRank (store.getBaseReputation entry))⟩
  else mgr

def initializeFactions (store : FactionStore) : ReputationMgr :=
  store.entries.foldl (addFaction store) ⟨OrdMap.empty, ⟨0, 0, 0, 0⟩⟩

/-- `GetReputation`, 0 for an unknown faction and for one without a state -/
def getReputation (store : FactionStore) (mgr : ReputationMgr) (entry : Option FactionEntry) : Int :=
  match entry with
  | none => 0
  | some entry =>
    if 0 ≤ entry.reputationListID then
      match mgr.factions.find entry.repListID with
      | some state => store.getBaseReputation entry + state.standing
      | none => 0
    else 0

def getRank (store : FactionStore) (mgr : ReputationMgr) (entry : Option FactionEntry) :
    ReputationRank :=
  reputationToRank (mgr.getReputation store entry)

def clampStanding (standing : Int) : Int :=
  if reputationCap < standing then reputationCap
  else if standing < reputationBottom then reputationBottom
  else standing

def setOneFactionReputation (store : FactionStore) (mgr : ReputationMgr) (entry : FactionEntry)
    (standing : Int) (incremental : Bool) : ReputationMgr :=
  match mgr.factions.find entry.repListID with
  | none => mgr
  | some faction =>
    let baseRep := store.getBaseReputation entry
    let standing :=
      if incremental then
        int32 (int32 ⌊standing * store.reputationGain + 1 / 2⌋ + (faction.standing + baseRep))
      else standing
    let standing := clampStanding standing
    let oldRank := reputationToRank (faction.standing + baseRep)
    let newRank := reputationToRank standing
    let faction := { faction with standing := standing - baseRep, needSave := true }
    let (counters, faction) := setVisible mgr.counters faction
    let faction :=
      if newRank.index ≤ ReputationRank.hostile.index then faction.setAtWar true else faction
    ⟨mgr.factions.assign entry.repListID faction, counters.updateRankCounters oldRank newRank⟩

def setOneKnownReputation (store : FactionStore) (mgr : ReputationMgr)
    (entry : Option FactionEntry) (standing : Int) (incremental : Bool) : ReputationMgr :=
  match entry with
  | some entry => mgr.setOneFactionReputation store entry standing incremental
  | none => mgr

def spillTemplate (store : FactionStore) (standing : Int) (incremental : Bool)
    (mgr : ReputationMgr) (spill : RepSpillover) : ReputationMgr :=
  if spill.faction ≠ 0 ∧
      (mgr.getRank store (store.lookupEntry spill.faction)).index ≤ spill.rank then
    mgr.setOneKnownReputation store (store.lookupEntry spill.faction)
      (castFloat (standing * spill.rate)) incremental
  else mgr

def spillSister (store : FactionStore) (entry : FactionEntry) (spillOverRepOut : Rat)
    (incremental : Bool) (mgr : ReputationMgr) (id : Nat) : ReputationMgr :=
  match store.lookupEntry id with
  | none => mgr
  | some sister =>
    if sister.ID = entry.ID ∨
        sister.spilloverMaxRankIn < (mgr.getRank store (some sister)).index then mgr
    else
      let spilloverRep := castFloat (spillOverRepOut * sister.spilloverRateIn)
      if spilloverRep ≠ 0 ∨ incremental = false then
        mgr.setOneFactionReputation store sister spilloverRep incremental
      else mgr

/-- The spill-over to the parent of a faction without sub-factions; the list that is returned is the
one of its sister factions. -/
def spillParent (store : FactionStore) (mgr : ReputationMgr) (entry : FactionEntry)
    (spillOverRepOut : Rat) (incremental : Bool) : ReputationMgr × Option (List Nat) :=
  match store.lookupEntry entry.team with
  | none => (mgr, none)
  | some parent =>
    match mgr.factions.find parent.repListID with
    | some state =>
      if state.flags &&& flagSpecial ≠ 0 then
        (mgr.setOneFactionReputation store parent (castFloat spillOverRepOut) incremental, none)
      else (mgr, store.factionTeamList entry.team)
    | none => (mgr, store.factionTeamList entry.team)

def spillOver (store : FactionStore) (mgr : ReputationMgr) (entry : FactionEntry) (standing : Int)
    (incremental : Bool) : ReputationMgr :=
  match store.repSpilloverTemplate entry.ID with
  | some template => template.foldl (spillTemplate store standing incremental) mgr
  | none =>
    match store.factionTeamList entry.ID with
    | some flist => flist.foldl (spillSister store entry standing incremental) mgr
    | none =>
      if entry.team ≠ 0 ∧ entry.spilloverRateOut ≠ 0 then
        let spillOverRepOut := standing * entry.spilloverRateOut
        match mgr.spillParent store entry spillOverRepOut incremental with
        | (mgr, some flist) =>
          flist.foldl (spillSister store entry spillOverRepOut incremental) mgr
        | (mgr, none) => mgr
      else mgr

def setReputation (store : FactionStore) (mgr : ReputationMgr) (entry : FactionEntry)
    (standing : Int) (incremental : Bool) : ReputationMgr :=
  (mgr.spillOver store entry standing incremental).setOneFactionReputation store entry standing
    incremental

def setVisibleEntry (mgr : ReputationMgr) (entry : FactionEntry) : ReputationMgr :=
  if entry.reputationListID < 0 then mgr
  else
    match mgr.factions.find entry.repListID with
    | none => mgr
    | some faction =>
      let (counters, faction) := setVisible mgr.counters faction
      ⟨mgr.factions.assign entry.repListID faction, counters⟩

/-- `SetVisible` for a faction template: factions of the opposing team are never shown. -/
def setVisibleTemplate (store : FactionStore) (mgr : ReputationMgr) (faction : Nat) :
    ReputationMgr :=
  if faction = 0 then mgr
  else
    match store.lookupEntry faction with
    | none => mgr
    | some entry =>
      if entry.baseRepRaceMask 1 &&& store.raceMask ≠ 0 ∧
          entry.baseRepValue 1 = reputationBottom then mgr
      else mgr.setVisibleEntry entry

def setAtWar (mgr : ReputationMgr) (repListID : Nat) (on : Bool) : ReputationMgr :=
  match mgr.factions.find repListID with
  | none => mgr
  | some faction =>
    if faction.flags &&& (flagInvisibleForced ||| flagHidden) ≠ 0 then mgr
    else { mgr with factions := mgr.factions.assign repListID (faction.setAtWar on) }

def setInactive (mgr : ReputationMgr) (repListID : Nat) (on : Bool) : ReputationMgr :=
  match mgr.factions.find repListID with
  | none => mgr
  | some faction =>
    { mgr with factions := mgr.factions.assign repListID (faction.setInactive on) }

def replayFlags (counters : Counters) (faction : FactionState) (dbFactionFlags : Flags)
    (rank : ReputationRank) : Counters × FactionState :=
  let (counters, faction) :=
    if dbFactionFlags &&& flagVisible ≠ 0 then setVisible counters faction else (counters, faction)
  let faction :=
    if dbFactionFlags &&& flagInactive ≠ 0 then faction.setInactive true else faction
  let faction :=
    if dbFactionFlags &&& flagAtWar ≠ 0 then faction.setAtWar true
    else if faction.flags &&& flagVisible ≠ 0 then faction.setAtWar false
    else faction
  let faction :=
    if rank.index ≤ ReputationRank.hostile.index then faction.setAtWar true else faction
  (counters, faction)

/-- One row; every faction of the list has a state by then. The `uint16` flags are compared as they
are, and of what is tested only the lower eight bits matter. -/
def loadRow (store : FactionStore) (mgr : ReputationMgr) (row : ReputationRow) : ReputationMgr :=
  match store.lookupEntry (row.faction % 2 ^ 16) with
  | none => mgr
  | some entry =>
    if 0 ≤ entry.reputationListID then
      match mgr.factions.find entry.repListID with
      | none => mgr
      | some faction =>
        let faction := { faction with standing := int32 row.standing }
        let baseRep := store.getBaseReputation entry
        let oldRank := reputationToRank baseRep
        let newRank := reputationToRank (baseRep + faction.standing)
        let counters := mgr.counters.updateRankCounters oldRank newRank
        let (counters, faction) :=
          replayFlags counters faction (BitVec.ofNat 8 row.flags) newRank
        let faction :=
          if faction.flags.toNat = row.flags % 2 ^ 16 then { faction with needSave := false }
          else faction
        ⟨mgr.factions.assign entry.repListID faction, counters⟩
    else mgr

def loadFromDB (store : FactionStore) (rows : List ReputationRow) : ReputationMgr :=
  rows.foldl (loadRow store) (initializeFactions store)

def saveFaction (rows : List ReputationRow) (state : FactionState) : List ReputationRow :=
  if state.needSave then
    rows.filter (·.faction ≠ state.ID) ++ [⟨state.ID, state.standing, state.flags.toNat⟩]
  else rows

def saveToDB (mgr : ReputationMgr) (rows : List ReputationRow) :
    ReputationMgr × List ReputationRow :=
  (⟨mgr.factions.mapValues fun state => { state with needSave := false }, mgr.counters⟩,
    (mgr.factions.entries.map Prod.snd).foldl saveFaction rows)

end ReputationMgr

end DarkCore.Reputation
