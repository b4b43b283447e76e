/-
The disconnect tolerance of the login queue (`World.cpp`). The times of the
disconnects are kept by account in a hash map, whose order is a parameter.
-/

import DarkCore.World.LoginQueue

namespace DarkCore.World

open DarkCore.Lib

/-- `recorded` are the disconnects that were recorded, the newest first. -/
structure ToleranceWorld where
  login : LoginWorld
  disconnects : OrdMap Nat Int
  recorded : List (Nat × Int)

inductive SessionEvent
  | login (accountId security : Nat) (playerLoading : Bool)
  | disconnect (accountId : Nat)

/-- The loop of `HasRecentlyDisconnected`; it cannot go on from an erased entry. -/
def searchDisconnects (tolerance : Nat) (now : Int) (accountId : Nat) :
    List (Nat × Int) → Option Bool
  | [] => some false
  | entry :: rest =>
    -- `difftime` of the recorded time and now
    if entry.2 - now < tolerance then
      if entry.1 = accountId then some true else searchDisconnects tolerance now accountId rest
    else none

def hasRecentlyDisconnected (tolerance : Nat) (now : Int) (accountId : Nat)
    (disconnects : List (Nat × Int)) : Option Bool :=
  if tolerance = 0 then some false else searchDisconnects tolerance now accountId disconnects

namespace ToleranceWorld

def start : ToleranceWorld := ⟨LoginWorld.start, OrdMap.empty, []⟩

def lastDisconnect (world : ToleranceWorld) (accountId : Nat) : Option Int :=
  OrdMap.findEntries accountId world.recorded

variable (playerLimit tolerance : Nat) (order : List (Nat × Int) → List (Nat × Int))

/-- An event at a time: `AddSession_`, or the update of a session that fails -/
def next (world : ToleranceWorld) : Int × SessionEvent → Option ToleranceWorld
  | (now, .login accountId security playerLoading) =>
    (hasRecentlyDisconnected tolerance now accountId (order world.disconnects.entries)).map
      fun recently =>
        { world with login :=
            world.login.next playerLimit (.add ⟨accountId, security, playerLoading, recently⟩) }
  | (now, .disconnect accountId) =>
    match world.login.sessions.find accountId with
    | none => some world
    | some sess =>
      let login := world.login.next playerLimit (.remove accountId)
      if (world.login.removeQueuedPlayer playerLimit sess).1 = false ∧ tolerance ≠ 0 then
        some ⟨login, world.disconnects.assign accountId now, (accountId, now) :: world.recorded⟩
      else some { world with login := login }

def run (events : List (Int × SessionEvent)) : Option ToleranceWorld :=
  events.foldlM (next playerLimit tolerance order) start

end ToleranceWorld

section Tolerance

variable {playerLimit tolerance : Nat} {order : List (Nat × Int) → List (Nat × Int)}

theorem searchDisconnects_past (positive : 0 < tolerance) {now : Int} (accountId : Nat)
    {entries : List (Nat × Int)} (past : ∀ entry ∈ entries, entry.2 ≤ now) :
    searchDisconnects tolerance now accountId entries =
      some (decide (∃ entry ∈ entries, entry.1 = accountId)) := by
  induction entries with
  | nil => simp [searchDisconnects]
  | cons entry rest induction =>
      have first := past entry List.mem_cons_self
      rw [searchDisconnects, if_pos (by omega),
        induction fun other member => past other (List.mem_cons_of_mem entry member)]
      by_cases own : entry.1 = accountId <;> simp [own]

theorem Ordered.direct_iff {world : LoginWorld} (ordered : Ordered playerLimit world)
    (positive : 0 < playerLimit) (accountId : Nat) (recently : Bool)
    (full : playerLimit < (world.sessions.assign accountId
      ⟨world.arrived, accountId, secPlayer⟩).entries.length) :
    Direct world (world.next playerLimit (.add ⟨accountId, secPlayer, false, recently⟩))
      ⟨accountId, secPlayer, false, recently⟩ ↔ recently = true := by
  let sess : LoginSession := ⟨world.arrived, accountId, secPlayer⟩
  have before (key : Nat) (other : LoginSession) (found : world.sessions.find key = some other) :
      other.number < sess.number := (ordered.queued.own key other found).2
  have arrived : Queued (world.arrive sess) := ordered.queued.arrive
  have unflagged : (world.arrive sess).inQueue sess = false := by simp [LoginWorld.arrive]
  -- Without the old session of the account, the new one is ready to be inserted.
  obtain ⟨place, decrease, ready, sessions, inserts⟩ : ∃ place decrease, Ready sess place ∧
      place.sessions = world.sessions ∧
      world.next playerLimit (.add ⟨accountId, secPlayer, false, recently⟩) =
        place.insertSession playerLimit sess decrease recently := by
    simp only [LoginWorld.next, LoginWorld.addSession]
    cases found : world.sessions.find accountId with
    | none =>
        refine ⟨world.arrive sess, true, ⟨arrived, Nat.lt_succ_self _, before, ?_, unflagged⟩,
          rfl, ?_⟩
        · intro other member same
          have isThere := ordered.queued.members other member
          rw [same, found] at isThere
          cases isThere
        · simp [LoginWorld.arrive, found, sess]
    | some old =>
        have same : old.accountId = sess.accountId := (ordered.queued.own _ old found).1
        have presentOld : (world.arrive sess).sessions.find old.accountId = some old := same ▸ found
        have orderedNow : Ordered playerLimit (world.arrive sess) := ⟨arrived, ordered.full⟩
        obtain ⟨leaving, fromHead⟩ := orderedNow.removeQueuedPlayer positive presentOld
        refine ⟨_, !((world.arrive sess).removeQueuedPlayer playerLimit old).1,
          leaving.ready fromHead presentOld same (Nat.lt_succ_self _) before unflagged,
          fromHead.sessions, ?_⟩
        simp only [LoginWorld.arrive, found]
        rfl
  rw [inserts]
  obtain ⟨_, isIn, queue⟩ := ready.insertSession positive decrease recently rfl
  have present : (place.insertSession playerLimit sess decrease recently).sessions.find accountId =
      some sess := by
    rw [isIn]
    exact OrdMap.find_assign_some.mpr (.inl ⟨rfl, rfl⟩)
  have counted : playerLimit ≤ (place.sessions.assign sess.accountId sess).entries.length -
      if decrease then 1 else 0 := by
    grind
  obtain ⟨waits, isQueue⟩ | ⟨enters, isQueue⟩ := queue
  · have isQueued : sess ∈ (place.insertSession playerLimit sess decrease recently).queuedPlayer := by
      simp [isQueue]
    exact iff_of_false (fun direct => direct.active isQueued) (by simp [waits.2.2])
  · have isRecent : recently = true := by
      by_contra notRecent
      exact enters ⟨counted, rfl, by simpa using notRecent⟩
    refine iff_of_true ⟨present, ?_⟩ isRecent
    rw [isQueue]
    exact fun member => ready.apart sess member rfl

structure Recording (playerLimit : Nat) (now : Int) (world : ToleranceWorld) : Prop where
  ordered : Ordered playerLimit world.login
  latest : ∀ accountId, world.disconnects.find accountId = world.lastDisconnect accountId
  past : ∀ entry ∈ world.disconnects.entries, entry.2 ≤ now

theorem Recording.recently {now : Int} {world : ToleranceWorld}
    (recording : Recording playerLimit now world) (tolerates : 0 < tolerance)
    (arranged : ∀ entries, (order entries).Perm entries) (accountId : Nat) :
    hasRecentlyDisconnected tolerance now accountId (order world.disconnects.entries) =
      some (world.lastDisconnect accountId).isSome := by
  have arrangement := arranged world.disconnects.entries
  rw [hasRecentlyDisconnected, if_neg (by omega), searchDisconnects_past tolerates accountId
    fun entry member => recording.past entry (arrangement.mem_iff.mp member), ← recording.latest]
  cases found : world.disconnects.find accountId with
  | none =>
      have absent := OrdMap.find_eq_none.mp found
      simp only [arrangement.mem_iff, Option.isSome_none, Option.some.injEq, decide_eq_false_iff_not]
      rintro ⟨entry, member, own⟩
      exact absent entry member own
  | some time =>
      have member := OrdMap.find_eq_some.mp found
      simp only [arrangement.mem_iff, Option.isSome_some]
      exact congrArg some (decide_eq_true ⟨_, member, rfl⟩)

theorem Recording.next {before now : Int} {world : ToleranceWorld}
    (recording : Recording playerLimit before world) (positive : 0 < playerLimit)
    (tolerates : 0 < tolerance) (arranged : ∀ entries, (order entries).Perm entries)
    (event : SessionEvent) (later : before ≤ now) :
    ∃ after, world.next playerLimit tolerance order (now, event) = some after ∧
      Recording playerLimit now after := by
  have past : ∀ entry ∈ world.disconnects.entries, entry.2 ≤ now := fun entry member =>
    Int.le_trans (recording.past entry member) later
  have still : Recording playerLimit now world := ⟨recording.ordered, recording.latest, past⟩
  cases event with
  | login accountId security playerLoading =>
      rw [ToleranceWorld.next, still.recently tolerates arranged, Option.map_some]
      have ordered := recording.ordered.next positive (.add ⟨accountId, security, playerLoading,
        (world.lastDisconnect accountId).isSome⟩)
      exact ⟨_, rfl, ordered.1, recording.latest, past⟩
  | disconnect accountId =>
      have ordered := (recording.ordered.next positive (.remove accountId)).1
      unfold ToleranceWorld.next
      dsimp only
      split
      · exact ⟨_, rfl, still⟩
      · split
        · refine ⟨_, rfl, ordered, fun other => ?_, fun entry member => ?_⟩
          · simp only [ToleranceWorld.lastDisconnect, OrdMap.findEntries, OrdMap.find_assign,
              Function.update_apply, @eq_comm Nat accountId]
            split
            · rfl
            · exact recording.latest other
          · obtain rfl | old := OrdMap.mem_assign member
            · exact Int.le_refl now
            · exact past entry old
        · exact ⟨_, rfl, ordered, recording.latest, past⟩

theorem Recording.run {before now : Int} {world : ToleranceWorld}
    (recording : Recording playerLimit before world) (positive : 0 < playerLimit)
    (tolerates : 0 < tolerance) (arranged : ∀ entries, (order entries).Perm entries)
    (events : List (Int × SessionEvent))
    (times : (before :: (events.map Prod.fst ++ [now])).Pairwise (· ≤ ·)) :
    ∃ after, events.foldlM (ToleranceWorld.next playerLimit tolerance order) world = some after ∧
      Recording playerLimit now after := by
  induction events generalizing before world with
  | nil =>
      have later := List.rel_of_pairwise_cons times (List.mem_singleton_self now)
      exact ⟨world, rfl, recording.ordered, recording.latest, fun entry member =>
        Int.le_trans (recording.past entry member) later⟩
  | cons event rest induction =>
      obtain ⟨after, result, still⟩ := recording.next positive tolerates arranged event.2
        (List.rel_of_pairwise_cons times List.mem_cons_self)
      obtain ⟨last, results, holds⟩ := induction still times.tail
      exact ⟨last, by rw [List.foldlM_cons, result]; exact results, holds⟩

def Bypasses (world after : ToleranceWorld) (accountId : Nat) : Prop :=
  Direct world.login after.login ⟨accountId, secPlayer, false, true⟩

/-- A player bypasses the queue of a full server by a disconnect within the tolerance exactly when
the last disconnect of the account, if there is one, is within it. -/
theorem bypasses_iff (positive : 0 < playerLimit) (tolerates : 0 < tolerance)
    (arranged : ∀ entries, (order entries).Perm entries) (events : List (Int × SessionEvent))
    (now : Int) (times : (events.map Prod.fst ++ [now]).Pairwise (· ≤ ·)) (accountId : Nat) :
    ∃ world, ToleranceWorld.run playerLimit tolerance order events = some world ∧
      (playerLimit < (world.login.sessions.assign accountId
          ⟨world.login.arrived, accountId, secPlayer⟩).entries.length →
        ∃ after, world.next playerLimit tolerance order (now, .login accountId secPlayer false) =
          some after ∧ ((Bypasses world after accountId ↔
            ∃ time, world.lastDisconnect accountId = some time ∧ now - time < tolerance) ↔
          ∀ time, world.lastDisconnect accountId = some time → now - time < tolerance)) := by
  obtain ⟨first, isFirst⟩ : ∃ first, ∀ time ∈ events.map Prod.fst ++ [now], first ≤ time := by
    cases events with
    | nil => exact ⟨now, by simp⟩
    | cons event rest =>
        refine ⟨event.1, fun time member => ?_⟩
        obtain rfl | later := List.mem_cons.mp member
        · exact Int.le_refl _
        · exact List.rel_of_pairwise_cons times later
  have start : Recording playerLimit first ToleranceWorld.start :=
    ⟨ordered_start, fun _ => rfl, List.forall_mem_nil _⟩
  obtain ⟨world, result, recording⟩ := start.run positive tolerates arranged events
    (List.pairwise_cons.mpr ⟨isFirst, times⟩)
  refine ⟨world, result, fun full => ?_⟩
  rw [ToleranceWorld.next, recording.recently tolerates arranged, Option.map_some]
  refine ⟨_, rfl, ?_⟩
  have direct := recording.ordered.direct_iff positive accountId
    (world.lastDisconnect accountId).isSome full
  have bypasses {after : ToleranceWorld} (inserted : after.login = world.login.next playerLimit
      (.add ⟨accountId, secPlayer, false, (world.lastDisconnect accountId).isSome⟩)) :
      Bypasses world after accountId ↔ (world.lastDisconnect accountId).isSome = true := by
    rw [← direct, ← inserted]
    exact ⟨fun admitted => ⟨admitted.present, admitted.active⟩,
      fun recent => ⟨recent.present, recent.active⟩⟩
  rw [bypasses rfl]
  cases world.lastDisconnect accountId <;> simp

end Tolerance

/-- A disconnect counts after any time: here it is 999 seconds old at a tolerance of a minute. -/
theorem bypasses_after_long : ∃ world after,
    ToleranceWorld.run 1 60 id
      [(0, .login 1 0 false), (1, .disconnect 1), (2, .login 2 0 false)] = some world ∧
    world.next 1 60 id (1000, .login 1 secPlayer false) = some after ∧
    world.lastDisconnect 1 = some 1 ∧ ¬ ((1000 : Int) - 1 < 60) ∧ Bypasses world after 1 :=
  ⟨_, _, rfl, rfl, rfl, by decide, rfl, by decide⟩

theorem bypasses_iff_reversed : ∃ world,
    ToleranceWorld.run 1 60 List.reverse
      [(0, .login 1 0 false), (1, .disconnect 1), (2, .login 2 0 false)] = some world ∧
    ∃ after, world.next 1 60 List.reverse (30, .login 1 secPlayer false) = some after ∧
      Bypasses world after 1 := by
  obtain ⟨world, result, bypasses⟩ := @bypasses_iff 1 60 List.reverse (by decide) (by decide)
    List.reverse_perm [(0, .login 1 0 false), (1, .disconnect 1), (2, .login 2 0 false)] 30
    (by decide) 1
  cases result
  obtain ⟨after, result, bypasses⟩ := bypasses (by decide)
  exact ⟨_, rfl, after, result, (bypasses.mpr (by decide)).mpr ⟨1, rfl, by decide⟩⟩

end DarkCore.World
