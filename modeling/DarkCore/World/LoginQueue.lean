/-
The login queue of `World`. The sessions that wait are in the map of the sessions
and in the queue; the active ones are counted as the difference of the two sizes,
also while a session that leaves is still in the map.
-/

import DarkCore.Lib.OrdMap
import DarkCore.Lib.Runs

namespace DarkCore.World

open DarkCore.Lib

/-! ### Sessions -/

def secPlayer : Nat := 0

structure LoginSession where
  number : Nat
  accountId : Nat
  security : Nat
  deriving DecidableEq

structure LoginWorld where
  sessions : OrdMap Nat LoginSession
  queuedPlayer : List LoginSession
  inQueue : LoginSession → Bool
  arrived : Nat

namespace LoginWorld

variable (playerLimit : Nat) (world : LoginWorld)

def start : LoginWorld := ⟨OrdMap.empty, [], fun _ => false, 0⟩

def activeAndQueuedSessionCount : Nat := world.sessions.entries.length

def activeSessionCount : Nat := world.activeAndQueuedSessionCount - world.queuedPlayer.length

def addQueuedPlayer (sess : LoginSession) : LoginWorld :=
  { world with
    queuedPlayer := world.queuedPlayer ++ [sess]
    inQueue := Function.update world.inQueue sess true }

def acceptFirst : LoginWorld :=
  match world.queuedPlayer with
  | [] => world
  | first :: rest =>
    { world with queuedPlayer := rest, inQueue := Function.update world.inQueue first false }

/-- A session leaves the queue or, if it is not there, counts as active no more. The active sessions
are counted before that. -/
def removeQueuedPlayer (sess : LoginSession) : Bool × LoginWorld :=
  let sessions := world.activeSessionCount
  let found := decide (sess ∈ world.queuedPlayer)
  let world :=
    if found then
      { world with
        queuedPlayer := world.queuedPlayer.erase sess
        inQueue := Function.update world.inQueue sess false }
    else world
  let sessions := if found = false ∧ sessions ≠ 0 then sessions - 1 else sessions
  (found, if playerLimit = 0 ∨ sessions < playerLimit then world.acceptFirst else world)

/-- The end of `AddSession_`: from here on the session is in the map. -/
def insertSession (s : LoginSession) (decreaseSession recentlyDisconnected : Bool) : LoginWorld :=
  let world := { world with sessions := world.sessions.assign s.accountId s }
  let sessions := world.activeAndQueuedSessionCount
  let sessions := if decreaseSession then sessions - 1 else sessions
  if 0 < playerLimit ∧ playerLimit ≤ sessions ∧ s.security = secPlayer ∧
      recentlyDisconnected = false then
    world.addQueuedPlayer s
  else world

def arrive (s : LoginSession) : LoginWorld :=
  { world with arrived := world.arrived + 1, inQueue := Function.update world.inQueue s false }

/-- `AddSession_`: `playerLoading` tells whether the session of the same account is loading a
player, `recentlyDisconnected` whether the account has just been online. -/
def addSession (s : LoginSession) (playerLoading recentlyDisconnected : Bool) : LoginWorld :=
  match world.sessions.find s.accountId with
  | some old =>
    if playerLoading then world
    else
      let (found, world) := world.removeQueuedPlayer playerLimit old
      world.insertSession playerLimit s (!found) recentlyDisconnected
  | none => world.insertSession playerLimit s true recentlyDisconnected

/-- What `UpdateSessions` does with a session whose update failed; the routine is run once more than
is needed. -/
def removeSession (sess : LoginSession) : LoginWorld :=
  let (_, world) := world.removeQueuedPlayer playerLimit sess
  let (_, world) := world.removeQueuedPlayer playerLimit sess
  { world with sessions := world.sessions.erase sess.accountId }

end LoginWorld

/-- A session of `addSessQueue`, with what is found when its turn comes -/
structure NewSession where
  accountId : Nat
  security : Nat
  playerLoading : Bool
  recentlyDisconnected : Bool

inductive LoginAction
  | add (new : NewSession)
  | remove (accountId : Nat)

namespace LoginWorld

variable (playerLimit : Nat) (world : LoginWorld)

def next : LoginAction → LoginWorld
  | .add new =>
    let s := ⟨world.arrived, new.accountId, new.security⟩
    (world.arrive s).addSession playerLimit s new.playerLoading new.recentlyDisconnected
  | .remove accountId =>
    match world.sessions.find accountId with
    | some sess => world.removeSession playerLimit sess
    | none => world

def updateSessions (added : List NewSession) (update : LoginSession → Bool) : LoginWorld :=
  let world := added.foldl (fun world new => world.next playerLimit (.add new)) world
  world.sessions.entries.foldl (fun world entry =>
    if update entry.2 then world else world.removeSession playerLimit entry.2) world

end LoginWorld

/-! ### The queue -/

structure Queued (world : LoginWorld) : Prop where
  own : ∀ accountId sess, world.sessions.find accountId = some sess →
    sess.accountId = accountId ∧ sess.number < world.arrived
  members : ∀ sess ∈ world.queuedPlayer, world.sessions.find sess.accountId = some sess
  arrival : world.queuedPlayer.Pairwise (·.number < ·.number)
  flagged : ∀ accountId sess, world.sessions.find accountId = some sess →
    (world.inQueue sess = true ↔ sess ∈ world.queuedPlayer)

structure Ordered (playerLimit : Nat) (world : LoginWorld) : Prop where
  queued : Queued world
  full : world.queuedPlayer ≠ [] → playerLimit ≤ world.activeSessionCount

structure Leaving (playerLimit : Nat) (sess : LoginSession) (world : LoginWorld) : Prop where
  queued : Queued world
  present : world.sessions.find sess.accountId = some sess
  active : sess ∉ world.queuedPlayer
  full : world.queuedPlayer ≠ [] → playerLimit < world.activeSessionCount

section Queue

variable {playerLimit : Nat} {world : LoginWorld} {sess : LoginSession}

theorem Queued.nodup (queued : Queued world) : world.queuedPlayer.Nodup :=
  queued.arrival.imp fun {_ _} before same => (same ▸ before).false

theorem Queued.shorten (queued : Queued world) {rest : List LoginSession}
    (shorter : rest.Sublist world.queuedPlayer) {inQueue : LoginSession → Bool}
    (flagged : ∀ sess, inQueue sess = true ↔ world.inQueue sess = true ∧
      (sess ∈ world.queuedPlayer → sess ∈ rest)) :
    Queued { world with queuedPlayer := rest, inQueue := inQueue } where
  own := queued.own
  members sess member := queued.members sess (shorter.subset member)
  arrival := queued.arrival.sublist shorter
  flagged accountId sess found := by
    grind [flagged]

theorem update_false {inQueue : LoginSession → Bool} {gone : LoginSession} (sess : LoginSession) :
    Function.update inQueue gone false sess = true ↔ inQueue sess = true ∧ sess ≠ gone := by
  by_cases same : sess = gone <;> simp [same]

theorem Queued.acceptFirst (queued : Queued world) : Queued world.acceptFirst := by
  have distinct := queued.nodup
  unfold LoginWorld.acceptFirst
  split
  · exact queued
  · rename_i first rest isQueue
    apply queued.shorten
    · simp [isQueue]
    · intro sess
      rw [isQueue, List.nodup_cons] at distinct
      rw [update_false, isQueue, List.mem_cons]
      refine and_congr_right fun _ => ?_
      constructor
      · simp_all
      · grind

theorem Queued.erase (queued : Queued world) (member : sess ∈ world.queuedPlayer) :
    Queued { world with
      queuedPlayer := world.queuedPlayer.erase sess
      inQueue := Function.update world.inQueue sess false } := by
  apply queued.shorten List.erase_sublist
  intro other
  rw [update_false, queued.nodup.mem_erase_iff]
  refine and_congr_right fun _ => ?_
  constructor
  · exact fun different isQueued => ⟨different, isQueued⟩
  · grind

theorem Queued.addQueuedPlayer (queued : Queued world)
    (present : world.sessions.find sess.accountId = some sess)
    (last : ∀ other ∈ world.queuedPlayer, other.number < sess.number) :
    Queued (world.addQueuedPlayer sess) where
  own := queued.own
  members other member := by
    rcases List.mem_append.mp member with before | here
    · exact queued.members other before
    · rw [List.mem_singleton.mp here]
      exact present
  arrival := by
    refine List.pairwise_append.mpr ⟨queued.arrival, List.pairwise_singleton _ _, ?_⟩
    intro other member new isNew
    rw [List.mem_singleton.mp isNew]
    exact last other member
  flagged accountId other found := by
    unfold LoginWorld.addQueuedPlayer
    rw [List.mem_append, List.mem_singleton, ← queued.flagged accountId other found]
    by_cases same : other = sess <;> simp [same]

/-! ### Leaving -/

structure FromHead (sess : LoginSession) (before after : LoginWorld) : Prop where
  sessions : after.sessions = before.sessions
  arrived : after.arrived = before.arrived
  flags : ∀ other, after.inQueue other = true → before.inQueue other = true
  queue : ∃ admitted, before.queuedPlayer.erase sess = admitted ++ after.queuedPlayer

theorem fromHead_acceptFirst (world : LoginWorld) : world.acceptFirst.sessions = world.sessions ∧
    world.acceptFirst.arrived = world.arrived ∧
    (∀ other, world.acceptFirst.inQueue other = true → world.inQueue other = true) ∧
    ∃ admitted, world.queuedPlayer = admitted ++ world.acceptFirst.queuedPlayer := by
  unfold LoginWorld.acceptFirst
  split
  · exact ⟨rfl, rfl, fun _ => id, [], rfl⟩
  · rename_i first rest isQueue
    exact ⟨rfl, rfl, fun other flag => ((update_false other).mp flag).1, [first], isQueue⟩

theorem acceptFirst_length :
    world.acceptFirst.queuedPlayer.length = world.queuedPlayer.length - 1 := by
  unfold LoginWorld.acceptFirst
  split <;> simp_all

theorem length_pos_of_find (present : world.sessions.find sess.accountId = some sess) :
    0 < world.sessions.entries.length :=
  List.length_pos_of_mem (OrdMap.find_eq_some.mp present)

theorem Ordered.removeQueuedPlayer (ordered : Ordered playerLimit world)
    (positive : 0 < playerLimit) (present : world.sessions.find sess.accountId = some sess) :
    Leaving playerLimit sess (world.removeQueuedPlayer playerLimit sess).2 ∧
      FromHead sess world (world.removeQueuedPlayer playerLimit sess).2 := by
  obtain ⟨queued, full⟩ := ordered
  have atLeastOne := length_pos_of_find present
  unfold LoginWorld.removeQueuedPlayer
  by_cases member : sess ∈ world.queuedPlayer
  · have waiting : world.queuedPlayer ≠ [] := List.ne_nil_of_mem member
    have enough := full waiting
    have notFree : ¬ (playerLimit = 0 ∨ world.activeSessionCount < playerLimit) := by omega
    simp only [member, decide_true, if_true, Bool.true_eq_false, false_and, if_false, notFree]
    refine ⟨⟨queued.erase member, present, queued.nodup.not_mem_erase, fun _ => ?_⟩, rfl, rfl,
      fun other flag => ((update_false other).mp flag).1, [], rfl⟩
    unfold LoginWorld.activeSessionCount LoginWorld.activeAndQueuedSessionCount at enough ⊢
    simp only [List.length_erase_of_mem member]
    have pos := List.length_pos_of_mem member
    omega
  · simp only [member, decide_false, Bool.false_eq_true, if_false, true_and]
    have same : world.queuedPlayer.erase sess = world.queuedPlayer := List.erase_of_not_mem member
    by_cases waiting : world.queuedPlayer = []
    · have unchanged : world.acceptFirst = world := by simp [LoginWorld.acceptFirst, waiting]
      rw [unchanged, ite_self]
      exact ⟨⟨queued, present, member, absurd waiting⟩, rfl, rfl, fun _ => id, [], same⟩
    · have enough := full waiting
      have pos := List.length_pos_iff.mpr waiting
      rw [if_pos (show world.activeSessionCount ≠ 0 by omega)]
      split
      · obtain ⟨sessions, arrived, flags, admitted, split⟩ := fromHead_acceptFirst world
        refine ⟨⟨queued.acceptFirst, sessions ▸ present, ?_, fun _ => ?_⟩, sessions, arrived, flags,
          admitted, same.trans split⟩
        · simp_all
        · unfold LoginWorld.activeSessionCount LoginWorld.activeAndQueuedSessionCount at enough ⊢
          rw [acceptFirst_length, sessions]
          omega
      · refine ⟨⟨queued, present, member, fun _ => ?_⟩, rfl, rfl, fun _ => id, [], same⟩
        omega

theorem Leaving.removeQueuedPlayer (leaving : Leaving playerLimit sess world)
    (positive : 0 < playerLimit) : world.removeQueuedPlayer playerLimit sess = (false, world) := by
  unfold LoginWorld.removeQueuedPlayer
  simp only [leaving.active, decide_false, Bool.false_eq_true, if_false, true_and, Prod.mk.injEq]
  by_cases waiting : world.queuedPlayer = []
  · have unchanged : world.acceptFirst = world := by simp [LoginWorld.acceptFirst, waiting]
    rw [unchanged, ite_self]
  · have enough := leaving.full waiting
    rw [if_neg]
    rw [if_pos (show world.activeSessionCount ≠ 0 by omega)]
    omega

/-! ### Steps -/

/-- The queued sessions that stay in the world are admitted from the head, and who is new comes
last. -/
def AdmitsHead (before after : LoginWorld) : Prop :=
  ∃ admitted kept joined,
    before.queuedPlayer.filter (fun sess => decide (after.sessions.find sess.accountId = some sess)) =
      admitted ++ kept ∧
    after.queuedPlayer = kept ++ joined ∧ ∀ sess ∈ joined, before.arrived ≤ sess.number

structure Direct (world after : LoginWorld) (new : NewSession) : Prop where
  present : after.sessions.find new.accountId = some ⟨world.arrived, new.accountId, new.security⟩
  active : ⟨world.arrived, new.accountId, new.security⟩ ∉ after.queuedPlayer

/-- A player who has not just been online is admitted at once only into a free place. -/
def Fair (playerLimit : Nat) (world : LoginWorld) : LoginAction → Prop
  | .add new =>
    new.security = secPlayer → new.recentlyDisconnected = false →
      Direct world (world.next playerLimit (.add new)) new →
        ((world.next playerLimit (.add new)).sessions.erase new.accountId).entries.length <
          playerLimit
  | .remove _ => True

structure Ready (sess : LoginSession) (world : LoginWorld) : Prop where
  queued : Queued world
  born : sess.number < world.arrived
  last : ∀ accountId other, world.sessions.find accountId = some other → other.number < sess.number
  apart : ∀ other ∈ world.queuedPlayer, other.accountId ≠ sess.accountId
  unflagged : world.inQueue sess = false

theorem Leaving.ready {before : LoginWorld} {old : LoginSession}
    (leaving : Leaving playerLimit old world) (fromHead : FromHead old before world)
    (found : before.sessions.find old.accountId = some old) (same : old.accountId = sess.accountId)
    (born : sess.number < before.arrived)
    (last : ∀ accountId other, before.sessions.find accountId = some other →
      other.number < sess.number)
    (unflagged : before.inQueue sess = false) : Ready sess world := by
  refine ⟨leaving.queued, fromHead.arrived ▸ born, fromHead.sessions ▸ last, ?_, ?_⟩
  · intro other member sameAccount
    apply leaving.active
    have isThere := leaving.queued.members other member
    rw [sameAccount, ← same, fromHead.sessions, found] at isThere
    rw [Option.some.inj isThere]
    exact member
  · by_contra flag
    have earlier := fromHead.flags sess ((Bool.not_eq_false _).mp flag)
    rw [unflagged] at earlier
    cases earlier

theorem Ready.assign (ready : Ready sess world) :
    Queued { world with sessions := world.sessions.assign sess.accountId sess } where
  own accountId other found := by
    rcases OrdMap.find_assign_some.mp found with ⟨rfl, rfl⟩ | ⟨_, elsewhere⟩
    · exact ⟨rfl, ready.born⟩
    · exact ready.queued.own accountId other elsewhere
  members other member :=
    OrdMap.find_assign_some.mpr (Or.inr ⟨ready.apart other member, ready.queued.members other member⟩)
  arrival := ready.queued.arrival
  flagged accountId other found := by
    rcases OrdMap.find_assign_some.mp found with ⟨_, rfl⟩ | ⟨_, elsewhere⟩
    · refine iff_of_false (by simp [ready.unflagged]) fun member => ?_
      exact ready.apart other member rfl
    · exact ready.queued.flagged accountId other elsewhere

def Waits (playerLimit sessions security : Nat) (recentlyDisconnected : Bool) : Prop :=
  playerLimit ≤ sessions ∧ security = secPlayer ∧ recentlyDisconnected = false

theorem Ready.insertSession (ready : Ready sess world) (positive : 0 < playerLimit)
    (decreaseSession recentlyDisconnected : Bool) {sessions : Nat}
    (counted : sessions = (world.sessions.assign sess.accountId sess).entries.length -
      if decreaseSession then 1 else 0) :
    Queued (world.insertSession playerLimit sess decreaseSession recentlyDisconnected) ∧
    (world.insertSession playerLimit sess decreaseSession recentlyDisconnected).sessions =
      world.sessions.assign sess.accountId sess ∧
    (Waits playerLimit sessions sess.security recentlyDisconnected ∧
      (world.insertSession playerLimit sess decreaseSession recentlyDisconnected).queuedPlayer =
        world.queuedPlayer ++ [sess] ∨
    ¬ Waits playerLimit sessions sess.security recentlyDisconnected ∧
      (world.insertSession playerLimit sess decreaseSession recentlyDisconnected).queuedPlayer =
        world.queuedPlayer) := by
  have same : (if decreaseSession = true then
      (world.sessions.assign sess.accountId sess).entries.length - 1
      else (world.sessions.assign sess.accountId sess).entries.length) = sessions := by
    grind
  unfold LoginWorld.insertSession LoginWorld.activeAndQueuedSessionCount
  dsimp only
  rw [same]
  split
  · rename_i waits
    refine ⟨ready.assign.addQueuedPlayer ?_ ?_, rfl, Or.inl ⟨waits.2, rfl⟩⟩
    · exact OrdMap.find_assign_some.mpr (Or.inl ⟨rfl, rfl⟩)
    · intro other member
      exact ready.last _ other (ready.queued.members other member)
  · rename_i enters
    exact ⟨ready.assign, rfl, Or.inr ⟨fun waits => enters ⟨positive, waits⟩, rfl⟩⟩

theorem Queued.arrive (queued : Queued world) {accountId security : Nat} :
    Queued (world.arrive ⟨world.arrived, accountId, security⟩) where
  own key other found := by
    obtain ⟨own, born⟩ := queued.own key other found
    exact ⟨own, Nat.lt_succ_of_lt born⟩
  members := queued.members
  arrival := queued.arrival
  flagged key other found := by
    have old : other ≠ ⟨world.arrived, accountId, security⟩ := by
      rintro rfl
      exact (queued.own key _ found).2.false
    unfold LoginWorld.arrive
    rw [update_false, ← queued.flagged key other found]
    exact and_iff_left old

theorem Ready.ordered (ready : Ready sess world) (positive : 0 < playerLimit)
    (decreaseSession recentlyDisconnected : Bool) {sessions : Nat}
    (counted : sessions = (world.sessions.assign sess.accountId sess).entries.length -
      if decreaseSession then 1 else 0)
    (waits : playerLimit ≤ sessions →
      playerLimit < (world.sessions.assign sess.accountId sess).entries.length)
    (full : world.queuedPlayer ≠ [] → playerLimit + (world.queuedPlayer.length + 1) ≤
        (world.sessions.assign sess.accountId sess).entries.length) :
    Ordered playerLimit
      (world.insertSession playerLimit sess decreaseSession recentlyDisconnected) := by
  obtain ⟨queued, inserted, queue⟩ :=
    ready.insertSession positive decreaseSession recentlyDisconnected counted
  refine ⟨queued, fun nonempty => ?_⟩
  unfold LoginWorld.activeSessionCount LoginWorld.activeAndQueuedSessionCount
  rw [inserted]
  rcases queue with ⟨enough, isQueue⟩ | ⟨_, isQueue⟩
  · have more := waits enough.1
    rw [isQueue, List.length_append, List.length_singleton]
    by_cases waiting : world.queuedPlayer = []
    · grind
    · have room := full waiting
      omega
  · rw [isQueue] at nonempty ⊢
    have room := full nonempty
    omega

theorem stays_iff (queued : Queued world) (new : sess.number = world.arrived)
    {other : LoginSession} (member : other ∈ world.queuedPlayer) :
    (world.sessions.assign sess.accountId sess).find other.accountId = some other ↔
      other.accountId ≠ sess.accountId := by
  have found := queued.members other member
  rw [OrdMap.find_assign_some]
  constructor
  · rintro (⟨_, rfl⟩ | ⟨different, _⟩)
    · have born := (queued.own _ other found).2
      omega
    · exact different
  · exact fun different => Or.inr ⟨different, found⟩

structure Added (playerLimit : Nat) (new : NewSession) (world after : LoginWorld) : Prop where
  ordered : Ordered playerLimit after
  head : AdmitsHead world after
  fair : new.security = secPlayer → new.recentlyDisconnected = false →
    Direct world after new →
      (after.sessions.erase new.accountId).entries.length < playerLimit

theorem Ready.added {new : NewSession} {before : LoginWorld} (queuedBefore : Queued before)
    (isNew : sess = ⟨before.arrived, new.accountId, new.security⟩)
    (same : world.sessions = before.sessions) (ready : Ready sess world) (positive : 0 < playerLimit)
    (decreaseSession : Bool) {sessions : Nat}
    (counted : sessions = (world.sessions.assign sess.accountId sess).entries.length -
      if decreaseSession then 1 else 0)
    (waits : playerLimit ≤ sessions →
      playerLimit < (world.sessions.assign sess.accountId sess).entries.length)
    (full : world.queuedPlayer ≠ [] → playerLimit + (world.queuedPlayer.length + 1) ≤
        (world.sessions.assign sess.accountId sess).entries.length)
    {admitted : List LoginSession}
    (queue : before.queuedPlayer.filter (fun other => decide (other.accountId ≠ sess.accountId)) =
      admitted ++ world.queuedPlayer) :
    Added playerLimit new before
      (world.insertSession playerLimit sess decreaseSession new.recentlyDisconnected) := by
  have number : sess.number = before.arrived := by rw [isNew]
  obtain ⟨_, inserted, cases⟩ :=
    ready.insertSession positive decreaseSession new.recentlyDisconnected counted
  refine ⟨ready.ordered positive decreaseSession new.recentlyDisconnected counted waits full,
    ?_, ?_⟩
  · have stays : before.queuedPlayer.filter (fun other => decide
        ((world.insertSession playerLimit sess decreaseSession
          new.recentlyDisconnected).sessions.find other.accountId = some other)) =
        admitted ++ world.queuedPlayer := by
      rw [← queue]
      apply List.filter_congr
      intro other member
      rw [inserted, same, decide_eq_decide]
      exact stays_iff queuedBefore number member
    rcases cases with ⟨_, isQueue⟩ | ⟨_, isQueue⟩
    · refine ⟨admitted, world.queuedPlayer, [sess], stays, isQueue, ?_⟩
      intro other member
      rw [List.mem_singleton.mp member, number]
    · exact ⟨admitted, world.queuedPlayer, [], stays, by rw [isQueue, List.append_nil],
        List.forall_mem_nil _⟩
  · intro isPlayer notRecent direct
    rcases cases with ⟨_, isQueue⟩ | ⟨enters, _⟩
    · have queuedSelf : sess ∈ (world.insertSession playerLimit sess decreaseSession
          new.recentlyDisconnected).queuedPlayer := by
        simp [isQueue]
      rw [isNew] at queuedSelf
      exact absurd queuedSelf (isNew ▸ direct.active)
    · have less : sessions < playerLimit := by
        by_contra enough
        exact enters ⟨not_lt.mp enough, by rw [isNew]; exact isPlayer, notRecent⟩
      have erased := OrdMap.length_erase_some direct.present
      rw [inserted] at erased ⊢
      split at counted <;> omega

theorem admitsHead_of_sessions (kept : ∀ sess ∈ world.queuedPlayer,
    world.sessions.find sess.accountId = some sess) {after : LoginWorld}
    (sessions : after.sessions = world.sessions)
    (queue : after.queuedPlayer = world.queuedPlayer) : AdmitsHead world after := by
  refine ⟨[], world.queuedPlayer, [], ?_, by rw [queue, List.append_nil], List.forall_mem_nil _⟩
  rw [List.nil_append, List.filter_eq_self, sessions]
  exact fun sess member => decide_eq_true (kept sess member)

theorem Ordered.added (ordered : Ordered playerLimit world) (positive : 0 < playerLimit)
    (new : NewSession) : Added playerLimit new world (world.next playerLimit (.add new)) := by
  obtain ⟨queued, full⟩ := ordered
  have arrived : Queued (world.arrive ⟨world.arrived, new.accountId, new.security⟩) := queued.arrive
  have isAddition : world.next playerLimit (.add new) =
      (world.arrive ⟨world.arrived, new.accountId, new.security⟩).addSession playerLimit
        ⟨world.arrived, new.accountId, new.security⟩ new.playerLoading new.recentlyDisconnected := rfl
  rw [isAddition]
  generalize isNew : (⟨world.arrived, new.accountId, new.security⟩ : LoginSession) = sess at arrived ⊢
  unfold LoginWorld.addSession
  have account : sess.accountId = new.accountId := by rw [← isNew]
  have number : sess.number = world.arrived := by rw [← isNew]
  have before (key : Nat) (other : LoginSession) (found : world.sessions.find key = some other) :
      other.number < sess.number := number ▸ (queued.own key other found).2
  have unflagged : (world.arrive sess).inQueue sess = false := by simp [LoginWorld.arrive]
  have born : sess.number < (world.arrive sess).arrived := number ▸ Nat.lt_succ_self _
  cases found : (world.arrive sess).sessions.find sess.accountId with
  | none =>
    have assigned : ((world.arrive sess).sessions.assign sess.accountId sess).entries.length =
        (world.arrive sess).sessions.entries.length + 1 := OrdMap.length_assign_none found
    have apart : ∀ other ∈ world.queuedPlayer, other.accountId ≠ sess.accountId := by
      intro other member same
      have isThere := queued.members other member
      rw [same] at isThere
      exact absurd (found.symm.trans isThere) (Option.some_ne_none other).symm
    have ready : Ready sess (world.arrive sess) := ⟨arrived, born, before, apart, unflagged⟩
    have sameSessions : (world.arrive sess).sessions = world.sessions := rfl
    apply ready.added queued isNew.symm sameSessions positive true rfl
    · grind
    · intro waiting
      have enough := full waiting
      have pos := List.length_pos_iff.mpr waiting
      unfold LoginWorld.activeSessionCount LoginWorld.activeAndQueuedSessionCount at enough
      rw [assigned]
      unfold LoginWorld.arrive
      dsimp only
      omega
    · rw [List.filter_eq_self.mpr fun other member => decide_eq_true (apart other member)]
      exact (List.nil_append _).symm
  | some old =>
    have foundOld : world.sessions.find sess.accountId = some old := found
    have same : old.accountId = sess.accountId := (queued.own _ old foundOld).1
    have presentOld : (world.arrive sess).sessions.find old.accountId = some old := same ▸ found
    have assigned : (world.sessions.assign sess.accountId sess).entries.length =
        world.sessions.entries.length := OrdMap.length_assign_some foundOld
    dsimp only
    split
    · have notNew {after : LoginWorld} (sessions : after.sessions = world.sessions) :
          ¬ Direct world after new := by
        rintro ⟨present, _⟩
        rw [isNew, sessions] at present
        exact (before _ sess present).false
      exact ⟨⟨arrived, full⟩, admitsHead_of_sessions queued.members rfl rfl,
        fun _ _ direct => absurd direct (notNew rfl)⟩
    · have orderedNow : Ordered playerLimit (world.arrive sess) := ⟨arrived, full⟩
      obtain ⟨leaving, fromHead⟩ := orderedNow.removeQueuedPlayer positive presentOld
      have isFound : (LoginWorld.removeQueuedPlayer playerLimit (world.arrive sess) old).1 =
          decide (old ∈ world.queuedPlayer) := rfl
      generalize LoginWorld.removeQueuedPlayer playerLimit (world.arrive sess) old = removed
        at leaving fromHead isFound ⊢
      obtain ⟨found', after⟩ := removed
      dsimp only at leaving fromHead isFound ⊢
      have sameSessions : after.sessions = world.sessions := fromHead.sessions
      obtain ⟨admitted, queue⟩ := fromHead.queue
      have isOld (other : LoginSession) (member : other ∈ world.queuedPlayer) :
          other.accountId = sess.accountId ↔ other = old := by
        constructor
        · intro sameAccount
          have isThere := queued.members other member
          rw [sameAccount, foundOld] at isThere
          exact (Option.some.inj isThere).symm
        · simp_all
      have ready : Ready sess after :=
        leaving.ready fromHead presentOld same born before unflagged
      apply ready.added queued isNew.symm sameSessions positive (!found') rfl
      · rw [sameSessions, assigned, isFound]
        by_cases member : old ∈ world.queuedPlayer
        · have enough := full (List.ne_nil_of_mem member)
          have pos := List.length_pos_of_mem member
          unfold LoginWorld.activeSessionCount LoginWorld.activeAndQueuedSessionCount at enough
          intro _
          omega
        · grind
      · intro waiting
        have enough := leaving.full waiting
        have pos := List.length_pos_iff.mpr waiting
        unfold LoginWorld.activeSessionCount LoginWorld.activeAndQueuedSessionCount at enough
        rw [sameSessions] at enough ⊢
        rw [assigned]
        omega
      · rw [← queue, show (world.arrive sess).queuedPlayer = world.queuedPlayer from rfl,
          queued.nodup.erase_eq_filter]
        apply List.filter_congr
        intro other member
        by_cases isThat : other = old
        · simp [isThat, same]
        · simp [isThat, mt (isOld other member).mp isThat]

theorem Leaving.erase (leaving : Leaving playerLimit sess world) :
    Ordered playerLimit { world with sessions := world.sessions.erase sess.accountId } := by
  obtain ⟨queued, present, active, full⟩ := leaving
  have others (other : LoginSession) (member : other ∈ world.queuedPlayer) :
      other.accountId ≠ sess.accountId := by
    intro same
    have isThere := queued.members other member
    rw [same, present] at isThere
    exact active (Option.some.inj isThere ▸ member)
  have stays {accountId : Nat} {other : LoginSession}
      (found : (world.sessions.erase sess.accountId).find accountId = some other) :
      world.sessions.find accountId = some other := by
    rw [OrdMap.find_erase] at found
    by_cases same : accountId = sess.accountId
    · rw [same, Function.update_self] at found
      cases found
    · rwa [Function.update_of_ne same] at found
  refine ⟨⟨fun accountId other found => queued.own accountId other (stays found), ?_,
    queued.arrival, fun accountId other found => queued.flagged accountId other (stays found)⟩, ?_⟩
  · intro other member
    rw [OrdMap.find_erase, Function.update_of_ne (others other member)]
    exact queued.members other member
  · intro waiting
    have enough := full waiting
    have erased := OrdMap.length_erase_some present
    unfold LoginWorld.activeSessionCount LoginWorld.activeAndQueuedSessionCount at enough ⊢
    dsimp only
    omega

theorem Ordered.removed (ordered : Ordered playerLimit world) (positive : 0 < playerLimit)
    (present : world.sessions.find sess.accountId = some sess) :
    Ordered playerLimit (world.removeSession playerLimit sess) ∧
      AdmitsHead world (world.removeSession playerLimit sess) ∧
      (world.removeSession playerLimit sess).sessions = world.sessions.erase sess.accountId := by
  obtain ⟨leaving, fromHead⟩ := ordered.removeQueuedPlayer positive present
  have twice : world.removeSession playerLimit sess =
      { (world.removeQueuedPlayer playerLimit sess).2 with
        sessions := (world.removeQueuedPlayer playerLimit sess).2.sessions.erase sess.accountId } := by
    unfold LoginWorld.removeSession
    dsimp only
    rw [leaving.removeQueuedPlayer positive]
  rw [twice]
  refine ⟨leaving.erase, ?_, congrArg (OrdMap.erase · sess.accountId) fromHead.sessions⟩
  obtain ⟨admitted, queue⟩ := fromHead.queue
  refine ⟨admitted, _, [], ?_, (List.append_nil _).symm, List.forall_mem_nil _⟩
  rw [← queue, ordered.queued.nodup.erase_eq_filter, fromHead.sessions]
  apply List.filter_congr
  intro other member
  have found := ordered.queued.members other member
  rw [OrdMap.find_erase]
  by_cases same : other.accountId = sess.accountId
  · have isSame : other = sess := by
      simp_all
    simp [isSame]
  · have different : other ≠ sess := fun isSame => same (isSame ▸ rfl)
    rw [Function.update_of_ne same, found]
    simp [different]

theorem Ordered.next (ordered : Ordered playerLimit world) (positive : 0 < playerLimit)
    (action : LoginAction) : Ordered playerLimit (world.next playerLimit action) ∧
      AdmitsHead world (world.next playerLimit action) ∧ Fair playerLimit world action := by
  cases action with
  | add new =>
    have added := ordered.added positive new
    exact ⟨added.ordered, added.head, added.fair⟩
  | remove accountId =>
    unfold LoginWorld.next
    dsimp only
    cases found : world.sessions.find accountId with
    | none =>
      exact ⟨ordered, admitsHead_of_sessions ordered.queued.members rfl rfl, trivial⟩
    | some sess =>
      have own := (ordered.queued.own accountId sess found).1
      obtain ⟨orderedNow, head, _⟩ := ordered.removed positive (own.symm ▸ found)
      exact ⟨orderedNow, head, trivial⟩

theorem ordered_start : Ordered playerLimit LoginWorld.start := by
  refine ⟨⟨?_, List.forall_mem_nil _, List.Pairwise.nil, ?_⟩, absurd rfl⟩ <;>
    intro accountId sess found <;> cases found

theorem updateEach_run (positive : 0 < playerLimit) (update : LoginSession → Bool)
    {entries : List (Nat × LoginSession)} (ordered : Ordered playerLimit world)
    (distinct : (entries.map Prod.fst).Nodup)
    (found : ∀ entry ∈ entries, world.sessions.find entry.1 = some entry.2) :
    ∃ actions : List LoginAction,
      entries.foldl (fun world entry =>
        if update entry.2 then world else world.removeSession playerLimit entry.2) world =
      actions.foldl (LoginWorld.next playerLimit) world := by
  induction entries generalizing world with
  | nil => exact ⟨[], rfl⟩
  | cons entry rest ih =>
    obtain ⟨unique, distinctRest⟩ := List.nodup_cons.mp distinct
    have here := found entry List.mem_cons_self
    rw [List.foldl_cons]
    split
    · exact ih ordered distinctRest fun other member =>
        found other (List.mem_cons_of_mem entry member)
    · have own := (ordered.queued.own entry.1 entry.2 here).1
      obtain ⟨orderedNow, _, sessions⟩ := ordered.removed positive (own.symm ▸ here)
      obtain ⟨actions, same⟩ := ih orderedNow distinctRest (by
        intro other member
        have different : other.1 ≠ entry.2.accountId := by
          grind
        rw [sessions, OrdMap.find_erase, Function.update_of_ne different]
        exact found other (List.mem_cons_of_mem entry member))
      refine ⟨.remove entry.1 :: actions, ?_⟩
      rw [same, List.foldl_cons]
      congr 1
      unfold LoginWorld.next
      dsimp only
      rw [here]

theorem updateSessions_run (ordered : Ordered playerLimit world) (positive : 0 < playerLimit)
    (added : List NewSession) (update : LoginSession → Bool) :
    ∃ actions : List LoginAction, world.updateSessions playerLimit added update =
      actions.foldl (LoginWorld.next playerLimit) world := by
  have additions : added.foldl (fun world new => world.next playerLimit (.add new)) world =
      (added.map LoginAction.add).foldl (LoginWorld.next playerLimit) world := by
    rw [List.foldl_map]
  have kept : ∀ world action, Ordered playerLimit world → True →
      Ordered playerLimit (LoginWorld.next playerLimit world action) :=
    fun _ action ordered _ => (ordered.next positive action).1
  have always := always_of_step kept ordered (along_true world (added.map LoginAction.add))
  have orderedNow := always.last
  unfold LoginWorld.updateSessions
  rw [additions]
  obtain ⟨actions, same⟩ := updateEach_run positive update orderedNow (OrdMap.keys_nodup _)
    fun entry member => OrdMap.find_eq_some.mpr member
  rw [same, ← List.foldl_append]
  exact ⟨_, rfl⟩

end Queue

/-- All along every run the queue is in order and nobody waits while there is a free place; each
step admits from the head, and a player is admitted at once only into a free place. -/
theorem loginQueue_ordered (playerLimit : Nat) (positive : 0 < playerLimit)
    (actions : List LoginAction) :
    Always (LoginWorld.next playerLimit) (Ordered playerLimit) LoginWorld.start actions ∧
    Along (LoginWorld.next playerLimit)
      (fun world action => AdmitsHead world (world.next playerLimit action) ∧
        Fair playerLimit world action) LoginWorld.start actions := by
  have kept : ∀ world action, Ordered playerLimit world → True →
      Ordered playerLimit (world.next playerLimit action) :=
    fun _ action ordered _ => (ordered.next positive action).1
  exact ⟨always_of_step kept ordered_start (along_true _ actions),
    along_of_step kept (fun _ action ordered _ => (ordered.next positive action).2) ordered_start
      (along_true _ actions)⟩

/-- One place, a player in it, two who wait, and the first of them comes again -/
theorem loginQueue_ordered_one :
    Always (LoginWorld.next 1) (Ordered 1) LoginWorld.start
      [.add ⟨7, 0, false, false⟩, .add ⟨8, 0, false, false⟩, .add ⟨9, 0, false, false⟩,
        .add ⟨8, 0, false, false⟩, .remove 7] ∧
    Along (LoginWorld.next 1)
      (fun world action => AdmitsHead world (world.next 1 action) ∧ Fair 1 world action)
      LoginWorld.start
      [.add ⟨7, 0, false, false⟩, .add ⟨8, 0, false, false⟩, .add ⟨9, 0, false, false⟩,
        .add ⟨8, 0, false, false⟩, .remove 7] :=
  loginQueue_ordered 1 Nat.one_pos _

end DarkCore.World
