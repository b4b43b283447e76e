/-
Logs of a guild (`Guild::LogHolder` in `Guild.h` and `Guild.cpp`). In memory a
log is a bounded list; in the database it is a ring of rows that are numbered
modulo the capacity, and a restart reads the rows in the order of their times
and numbers.
-/

import Mathlib.Data.List.DropRight
import Mathlib.Data.List.Sort
import Mathlib.Data.Nat.ModEq

namespace DarkCore.Guilds

/-- `GUILD_EVENT_LOG_GUID_UNDEFINED` -/
def guidUndefined : Nat := 0xFFFFFFFF

structure LogEntry (α : Type) where
  guid : Nat
  timestamp : Nat
  content : α
  deriving DecidableEq

structure LogHolder (α : Type) where
  maxRecords : Nat
  log : List (LogEntry α) := []
  nextGUID : Nat := guidUndefined

namespace LogHolder

variable {α : Type}

def canInsert (holder : LogHolder α) : Bool := holder.log.length < holder.maxRecords

def loadEvent (holder : LogHolder α) (entry : LogEntry α) : LogHolder α :=
  { holder with
    nextGUID := if holder.nextGUID = guidUndefined then entry.guid else holder.nextGUID
    log := entry :: holder.log }

/-- `GetNextGUID` answers the value it leaves. -/
def getNextGUID (holder : LogHolder α) : LogHolder α :=
  { holder with
    nextGUID :=
      if holder.nextGUID = guidUndefined then 0 else (holder.nextGUID + 1) % holder.maxRecords }

/-- `AddEvent` but for the database -/
def addEvent (holder : LogHolder α) (entry : LogEntry α) : LogHolder α :=
  { holder with
    log := (if holder.maxRecords ≤ holder.log.length then holder.log.tail else holder.log) ++
      [entry] }

def newEntry (holder : LogHolder α) (timestamp : Nat) (content : α) : LogEntry α :=
  { guid := holder.getNextGUID.nextGUID, timestamp := timestamp, content := content }

def loadRow (holder : LogHolder α) (row : LogEntry α) : LogHolder α :=
  if holder.canInsert then holder.loadEvent row else holder

end LogHolder

/-- `SaveToDB`: the row with the guid is deleted and written anew. -/
def saveToDB {α : Type} (rows : List (LogEntry α)) (entry : LogEntry α) : List (LogEntry α) :=
  rows.filter (fun row => row.guid ≠ entry.guid) ++ [entry]

/-- `ORDER BY TimeStamp DESC, LogGuid DESC` -/
def newerOrSame {α : Type} (first second : LogEntry α) : Bool :=
  decide (second.timestamp < first.timestamp) ||
    (decide (first.timestamp = second.timestamp) && decide (second.guid ≤ first.guid))

section Order

variable {α : Type}

theorem newerOrSame_iff {first second : LogEntry α} :
    newerOrSame first second = true ↔
      second.timestamp < first.timestamp ∨
        first.timestamp = second.timestamp ∧ second.guid ≤ first.guid := by
  unfold newerOrSame
  rw [Bool.or_eq_true, Bool.and_eq_true, decide_eq_true_eq, decide_eq_true_eq, decide_eq_true_eq]

instance : Std.Total fun first second : LogEntry α => newerOrSame first second = true where
  total first second := by
    rw [newerOrSame_iff, newerOrSame_iff]
    omega

instance : IsTrans (LogEntry α) fun first second => newerOrSame first second = true where
  trans first second third newer older := by
    rw [newerOrSame_iff] at newer older ⊢
    omega

end Order

section Retained

variable {α : Type} {capacity : Nat} {history : List (LogEntry α)} {entry : LogEntry α}

structure History (capacity : Nat) (history : List (LogEntry α)) : Prop where
  numbered : ∀ index (inside : index < history.length), history[index].guid = index % capacity
  ordered : history.Pairwise fun first second => first.timestamp ≤ second.timestamp

theorem History.nil : History capacity ([] : List (LogEntry α)) where
  numbered _ inside := absurd inside (Nat.not_lt_zero _)
  ordered := List.Pairwise.nil

theorem History.append (sound : History capacity history)
    (next : entry.guid = history.length % capacity)
    (latest : ∀ earlier ∈ history, earlier.timestamp ≤ entry.timestamp) :
    History capacity (history ++ [entry]) where
  numbered index inside := by
    rw [List.length_append, List.length_singleton] at inside
    by_cases old : index < history.length
    · rw [List.getElem_append_left old]
      exact sound.numbered index old
    · have last : index = history.length := by omega
      subst last
      rw [List.getElem_append_right (Nat.le_refl _)]
      simpa using next
  ordered := by
    refine List.pairwise_append.mpr ⟨sound.ordered, List.pairwise_singleton _ _, ?_⟩
    intro earlier listed new isNew
    rw [List.mem_singleton.mp isNew]
    exact latest earlier listed

theorem mod_ne_of_near {first second : Nat} (before : first < second)
    (near : second < first + capacity) : first % capacity ≠ second % capacity := by
  intro same
  have divides : capacity ∣ second - first := (Nat.modEq_iff_dvd' (le_of_lt before)).mp same
  have small := Nat.le_of_dvd (by omega) divides
  omega

theorem mod_lt_succ_mod {index : Nat} (inRing : (index + 1) % capacity ≠ 0) :
    index % capacity < (index + 1) % capacity := by
  rw [← Nat.mod_add_mod] at inRing ⊢
  rcases Nat.eq_zero_or_pos capacity with isZero | positive
  · simp [isZero, Nat.mod_zero]
  · have below := Nat.mod_lt index positive
    rcases Nat.lt_or_eq_of_le (Nat.succ_le_of_lt below) with inside | wraps
    · rw [Nat.mod_eq_of_lt inside]
      exact Nat.lt_succ_self _
    · have full : index % capacity + 1 = capacity := wraps
      exact absurd (by rw [full, Nat.mod_self]) inRing

theorem mem_rtake {count : Nat} (listed : entry ∈ history.rtake count) :
    ∃ index, ∃ inside : index < history.length,
      history.length < index + count + 1 ∧ history[index] = entry := by
  unfold List.rtake at listed
  obtain ⟨offset, inside, rfl⟩ := List.getElem_of_mem listed
  rw [List.length_drop] at inside
  refine ⟨history.length - count + offset, by omega, by omega, ?_⟩
  rw [List.getElem_drop]

theorem History.guids_nodup (sound : History capacity history) :
    ((history.rtake capacity).map LogEntry.guid).Nodup := by
  unfold List.Nodup
  rw [List.pairwise_map, List.pairwise_iff_getElem]
  intro first second firstInside secondInside before
  unfold List.rtake at firstInside secondInside ⊢
  rw [List.length_drop] at firstInside secondInside
  rw [List.getElem_drop, List.getElem_drop, sound.numbered _ (by omega),
    sound.numbered _ (by omega)]
  exact mod_ne_of_near (by omega) (by omega)

theorem rtake_length (count : Nat) : (history.rtake count).length = min count history.length := by
  unfold List.rtake
  rw [List.length_drop]
  omega

theorem rtake_pred (count : Nat) :
    (if count + 1 ≤ (history.rtake (count + 1)).length then (history.rtake (count + 1)).tail
      else history.rtake (count + 1)) = history.rtake count := by
  rw [rtake_length]
  unfold List.rtake
  split
  · grind [List.tail_drop]
  · grind

theorem History.filter_next (sound : History (capacity + 1) history) :
    (history.rtake (capacity + 1)).filter
        (fun row => row.guid ≠ history.length % (capacity + 1)) = history.rtake capacity := by
  have others : ∀ row ∈ history.rtake capacity,
      decide (row.guid ≠ history.length % (capacity + 1)) = true := by
    intro row listed
    obtain ⟨index, inside, near, rfl⟩ := mem_rtake listed
    rw [sound.numbered index inside]
    exact decide_eq_true (mod_ne_of_near inside (by omega))
  by_cases full : capacity + 1 ≤ history.length
  · have oldest : history.rtake (capacity + 1) =
        history[history.length - (capacity + 1)] :: history.rtake capacity := by
      unfold List.rtake
      rw [List.drop_eq_getElem_cons (by omega)]
      congr 2
      omega
    have replaced : history[history.length - (capacity + 1)].guid =
        history.length % (capacity + 1) := by
      rw [sound.numbered _ (by omega)]
      conv_rhs => rw [show history.length = history.length - (capacity + 1) + (capacity + 1) by
        omega]
      exact (Nat.add_mod_right _ _).symm
    rw [oldest, List.filter_cons_of_neg (by simpa using replaced)]
    exact List.filter_eq_self.mpr others
  · have all : history.rtake (capacity + 1) = history.rtake capacity := by
      grind [List.rtake]
    rw [all]
    exact List.filter_eq_self.mpr others

end Retained

section Consistent

variable {α : Type} {capacity : Nat} {holder : LogHolder α}
  {rows order history : List (LogEntry α)} {entry : LogEntry α}

structure Consistent (capacity : Nat) (holder : LogHolder α) (rows history : List (LogEntry α)) :
    Prop where
  sound : History capacity history
  maxRecords : holder.maxRecords = capacity
  log : holder.log = history.rtake capacity
  rows : rows.Perm (history.rtake capacity)
  next : holder.nextGUID = (history.getLast?.map LogEntry.guid).getD guidUndefined

theorem Consistent.start (capacity : Nat) :
    Consistent capacity ({ maxRecords := capacity } : LogHolder α) [] [] where
  sound := History.nil
  maxRecords := rfl
  log := (List.rtake_nil capacity).symm
  rows := by
    rw [List.rtake_nil]
  next := rfl

theorem Consistent.next_guid (consistent : Consistent (capacity + 1) holder rows history)
    (small : capacity < guidUndefined) :
    holder.getNextGUID.nextGUID = history.length % (capacity + 1) := by
  unfold LogHolder.getNextGUID
  dsimp only
  rw [consistent.next, consistent.maxRecords]
  rcases List.eq_nil_or_concat' history with isNil | ⟨earlier, last, isConcat⟩
  · simp [isNil]
  · have lastGuid : last.guid = earlier.length % (capacity + 1) := by
      have numbered := consistent.sound.numbered earlier.length (by rw [isConcat]; simp)
      simpa [isConcat] using numbered
    have below : last.guid < capacity + 1 := by
      rw [lastGuid]
      exact Nat.mod_lt _ (Nat.succ_pos capacity)
    rw [isConcat, List.getLast?_concat, Option.map_some, Option.getD_some, if_neg (by omega),
      List.length_append, List.length_singleton, lastGuid, Nat.mod_add_mod]

theorem Consistent.add (consistent : Consistent (capacity + 1) holder rows history)
    (small : capacity < guidUndefined) (timestamp : Nat) (content : α)
    (latest : ∀ earlier ∈ history, earlier.timestamp ≤ timestamp) :
    Consistent (capacity + 1) (holder.getNextGUID.addEvent (holder.newEntry timestamp content))
      (saveToDB rows (holder.newEntry timestamp content))
      (history ++ [holder.newEntry timestamp content]) := by
  have guid : (holder.newEntry timestamp content).guid = history.length % (capacity + 1) :=
    consistent.next_guid small
  constructor
  case sound => exact consistent.sound.append guid latest
  case maxRecords => exact consistent.maxRecords
  case log =>
    unfold LogHolder.addEvent LogHolder.getNextGUID
    rw [consistent.maxRecords, consistent.log, rtake_pred, List.rtake_concat_succ]
  case rows =>
    unfold saveToDB
    rw [List.rtake_concat_succ, ← consistent.sound.filter_next, guid]
    exact (consistent.rows.filter _).append_right _
  case next =>
    rw [List.getLast?_append]
    rfl

def Unambiguous (log : List (LogEntry α)) : Prop :=
  log.IsChain fun first second => second.guid = 0 → first.timestamp < second.timestamp

def Older (first second : LogEntry α) : Prop :=
  first.timestamp < second.timestamp ∨
    first.timestamp = second.timestamp ∧ first.guid < second.guid

instance : Trans (@Older α) (@Older α) (@Older α) where
  trans first second := by
    unfold Older at *
    omega

theorem History.older (sound : History capacity history)
    (unambiguous : Unambiguous (history.rtake capacity)) :
    (history.rtake capacity).Pairwise Older := by
  rw [← List.isChain_iff_pairwise, List.isChain_iff_getElem]
  intro index inside
  have distinct := List.isChain_iff_getElem.mp unambiguous index inside
  have ordered := List.pairwise_iff_getElem.mp sound.ordered
  unfold List.rtake at inside distinct ⊢
  rw [List.length_drop] at inside
  simp only [List.getElem_drop] at distinct ⊢
  have later := ordered (history.length - capacity + index)
    (history.length - capacity + (index + 1)) (by omega) (by omega) (by omega)
  rw [sound.numbered (history.length - capacity + (index + 1)) (by omega)] at distinct
  by_cases wraps : (history.length - capacity + (index + 1)) % capacity = 0
  · exact Or.inl (distinct wraps)
  · rcases Nat.lt_or_eq_of_le later with earlier | same
    · exact Or.inl earlier
    · refine Or.inr ⟨same, ?_⟩
      rw [sound.numbered _ (by omega), sound.numbered _ (by omega)]
      exact mod_lt_succ_mod wraps

theorem foldl_loadRow (room : holder.log.length + order.length ≤ holder.maxRecords)
    (known : ∀ row ∈ order, row.guid ≠ guidUndefined) :
    order.foldl LogHolder.loadRow holder =
      { maxRecords := holder.maxRecords
        log := order.reverse ++ holder.log
        nextGUID :=
          if holder.nextGUID = guidUndefined then
            (order.head?.map LogEntry.guid).getD guidUndefined
          else holder.nextGUID } := by
  induction order generalizing holder with
  | nil =>
    rw [List.foldl_nil, List.reverse_nil, List.nil_append]
    cases holder
    congr 1
    split
    · assumption
    · rfl
  | cons row rest ih =>
    rw [List.length_cons] at room
    have taken : holder.loadRow row = holder.loadEvent row :=
      if_pos (decide_eq_true (by omega))
    have rowKnown := known row List.mem_cons_self
    have loaded : (holder.loadEvent row).nextGUID ≠ guidUndefined := by
      grind [LogHolder.loadEvent]
    have roomAfter : (holder.loadEvent row).log.length + rest.length ≤
        (holder.loadEvent row).maxRecords := by
      grind [LogHolder.loadEvent]
    rw [List.foldl_cons, taken,
      ih roomAfter fun other listed => known other (List.mem_cons_of_mem row listed)]
    rw [if_neg loaded, List.reverse_cons, List.append_assoc]
    rfl

section

variable (consistent : Consistent (capacity + 1) holder rows history)
include consistent

theorem Consistent.guid_lt :
    ∀ row ∈ rows, row.guid < capacity + 1 := by
  intro row listed
  obtain ⟨index, inside, _, rfl⟩ := mem_rtake (consistent.rows.mem_iff.mp listed)
  rw [consistent.sound.numbered index inside]
  exact Nat.mod_lt index (Nat.succ_pos capacity)

section

variable (small : capacity < guidUndefined)
include small

theorem Consistent.loaded (sameRows : order.Perm rows) :
    order.foldl LogHolder.loadRow { maxRecords := capacity + 1 } =
      { maxRecords := capacity + 1
        log := order.reverse
        nextGUID := (order.head?.map LogEntry.guid).getD guidUndefined } := by
  have known : ∀ row ∈ order, row.guid ≠ guidUndefined := by
    intro row listed
    have below := consistent.guid_lt row (sameRows.mem_iff.mp listed)
    omega
  have fits : order.length ≤ capacity + 1 := by
    rw [(sameRows.trans consistent.rows).length_eq, rtake_length]
    exact Nat.min_le_left _ _
  rw [foldl_loadRow (by simpa using fits) known]
  rw [if_pos rfl, List.append_nil]

theorem Consistent.reload (unambiguous : Unambiguous holder.log)
    (sameRows : order.Perm rows)
    (ordered : order.Pairwise fun first second => newerOrSame first second = true) :
    Consistent (capacity + 1)
      (order.foldl LogHolder.loadRow { maxRecords := capacity + 1 }) rows history := by
  have retained : order.Perm (history.rtake (capacity + 1)) := sameRows.trans consistent.rows
  rw [consistent.log] at unambiguous
  have older := consistent.sound.older unambiguous
  have newest : order = (history.rtake (capacity + 1)).reverse := by
    refine List.Perm.eq_of_pairwise ?_ ordered ?_ (retained.trans (List.reverse_perm _).symm)
    · intro first second inOrder inReverse oneWay otherWay
      have inFirst := retained.mem_iff.mp inOrder
      have inSecond := List.mem_reverse.mp inReverse
      apply List.inj_on_of_nodup_map consistent.sound.guids_nodup inFirst inSecond
      rw [newerOrSame_iff] at oneWay otherWay
      omega
    · grind [Older, List.pairwise_reverse, newerOrSame_iff]
  rw [consistent.loaded small sameRows]
  constructor
  case sound => exact consistent.sound
  case maxRecords => rfl
  case log =>
    rw [newest, List.reverse_reverse]
  case rows => exact consistent.rows
  case next =>
    rw [newest, List.head?_reverse]
    congr 2
    unfold List.rtake
    rcases List.eq_nil_or_concat' history with isNil | ⟨earlier, last, isConcat⟩
    · rw [isNil, List.drop_nil]
    · grind

theorem Consistent.unambiguous (sameRows : order.Perm rows)
    (ordered : order.Pairwise fun first second => newerOrSame first second = true)
    (restored : (order.foldl LogHolder.loadRow { maxRecords := capacity + 1 }).log =
      history.rtake (capacity + 1)) : Unambiguous holder.log := by
  rw [consistent.loaded small sameRows] at restored
  dsimp only at restored
  rw [← List.reverse_reverse order, List.pairwise_reverse, restored] at ordered
  have distinct := consistent.sound.guids_nodup
  unfold List.Nodup at distinct
  rw [List.pairwise_map] at distinct
  rw [consistent.log]
  unfold Unambiguous
  refine (ordered.and distinct).isChain.imp fun first second both wraps => ?_
  have newer := newerOrSame_iff.mp both.1
  have differ := both.2
  omega

end

end

/-- The rows are the last events, with guids that differ modulo the capacity, and the log lists
them in the order of their insertion. -/
structure ExactLog (capacity : Nat) (holder : LogHolder α) (rows history : List (LogEntry α)) :
    Prop where
  retained : rows.Perm (history.rtake capacity)
  distinct : (rows.map fun row => row.guid % capacity).Nodup
  log : holder.log = history.rtake capacity

theorem Consistent.exactLog (consistent : Consistent (capacity + 1) holder rows history) :
    ExactLog (capacity + 1) holder rows history where
  retained := consistent.rows
  distinct := by
    have reduced : rows.map (fun row => row.guid % (capacity + 1)) = rows.map LogEntry.guid :=
      List.map_congr_left fun row listed => Nat.mod_eq_of_lt (consistent.guid_lt row listed)
    rw [reduced, (consistent.rows.map LogEntry.guid).nodup_iff]
    exact consistent.sound.guids_nodup
  log := consistent.log

end Consistent

end DarkCore.Guilds
