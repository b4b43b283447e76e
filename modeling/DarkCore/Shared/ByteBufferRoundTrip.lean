/-
What is written to a byte buffer is read back. The bytes of a value are said
once, by `encode`; writing appends them, and reading takes them off again.
-/

import DarkCore.Shared.ByteBuffer

namespace DarkCore.Shared

open Lib

/-! ### Bytes of values -/

def encodeMany {α : Type} (encodeItem : α → List UInt8) (items : List α) : List UInt8 :=
  leBytes 4 items.length ++ items.flatMap encodeItem

def encode : (type : Ty) → Val type → List UInt8
  | .scalar kind => fun value => leBytes kind.size value.toNat
  | .string => fun value => value ++ [0]
  | .vector item => encodeMany (encode item)
  | .list item => encodeMany (encode item)
  | .map key value => encodeMany fun entry => encode key entry.1 ++ encode value entry.2

/-- Strings have no NUL in them, and the keys of maps are in their order. -/
def Formed : (type : Ty) → Val type → Prop
  | .scalar _ => fun _ => True
  | .string => fun value => ∀ char ∈ value, char ≠ 0
  | .vector item => fun items => ∀ value ∈ items, Formed item value
  | .list item => fun items => ∀ value ∈ items, Formed item value
  | .map key value => fun entries =>
    (entries.Pairwise fun first second => less key first.1 second.1 = true) ∧
      ∀ entry ∈ entries, Formed key entry.1 ∧ Formed value entry.2

theorem encodeMany_ne_nil {α : Type} (encodeItem : α → List UInt8) (items : List α) :
    encodeMany encodeItem items ≠ [] := by
  intro isNil
  have lengths := congrArg List.length isNil
  rw [encodeMany, List.length_append, leBytes_length, List.length_nil] at lengths
  omega

theorem Scalar.size_pos (kind : Scalar) : 0 < kind.size := by
  cases kind
  all_goals decide

theorem encode_ne_nil (type : Ty) (value : Val type) : encode type value ≠ [] := by
  cases type with
  | scalar kind =>
    intro isNil
    have lengths := congrArg List.length isNil
    rw [encode, leBytes_length, List.length_nil] at lengths
    exact absurd lengths (Nat.ne_of_gt kind.size_pos)
  | string => exact List.append_ne_nil_of_right_ne_nil _ (List.cons_ne_nil 0 [])
  | vector item | list item => exact encodeMany_ne_nil _ _
  | map key value => exact encodeMany_ne_nil _ _

namespace ByteBuffer

variable {α β : Type} {bytes first second : List UInt8}

/-! ### Writers -/

def extend (buffer : ByteBuffer) (bytes : List UInt8) : ByteBuffer :=
  { buffer with
    storage := buffer.storage ++ bytes
    wpos := buffer.wpos + bytes.length }

def AtEnd (buffer : ByteBuffer) : Prop := buffer.wpos = buffer.size

theorem extend_nil (buffer : ByteBuffer) : buffer.extend [] = buffer := by
  unfold extend
  rw [List.append_nil]
  rfl

theorem extend_extend (buffer : ByteBuffer) (first second : List UInt8) :
    (buffer.extend first).extend second = buffer.extend (first ++ second) := by
  unfold extend
  rw [List.append_assoc, List.length_append, Nat.add_assoc]

theorem size_extend (buffer : ByteBuffer) (bytes : List UInt8) :
    (buffer.extend bytes).size = buffer.size + bytes.length := List.length_append

variable {buffer after : ByteBuffer} {next : α → Reader β}
    {writeItem : ByteBuffer → α → Option ByteBuffer} {encodeItem : α → List UInt8}
    {items : List α} {reader : Reader α} {value : α} {less : α → α → Bool}
    {entries : List (α × β)} {readValue : Reader β} {readItems : Nat → Reader α}

theorem AtEnd.extend (atEnd : buffer.AtEnd) (bytes : List UInt8) :
    (buffer.extend bytes).AtEnd := by
  unfold AtEnd at atEnd ⊢
  rw [size_extend, ← atEnd]
  rfl

structure Writes (bytes : List UInt8) (writer : ByteBuffer → Option ByteBuffer) : Prop where
  appends : ∀ {buffer after}, buffer.AtEnd → writer buffer = some after →
    after = buffer.extend bytes
  succeeds : ∀ {buffer : ByteBuffer}, buffer.AtEnd → buffer.size + bytes.length ≤ sizeLimit →
    ∃ after, writer buffer = some after
  bounded : ∀ {buffer after : ByteBuffer}, buffer.AtEnd → bytes ≠ [] →
    writer buffer = some after → buffer.size < sizeLimit

theorem writes_append (bytes : List UInt8) : Writes bytes fun buffer => buffer.append bytes := by
  constructor
  · intro buffer after atEnd writes
    unfold append at writes
    split at writes
    · rename_i isNil
      cases writes
      rw [isNil, extend_nil]
    · split at writes
      · cases writes
        unfold AtEnd at atEnd
        unfold extend
        have grown : buffer.wpos + bytes.length - buffer.size = bytes.length := by omega
        have whole : buffer.storage.length = buffer.wpos := atEnd.symm
        rw [grown, List.take_append_of_le_length (le_of_eq whole.symm),
          List.take_of_length_le (le_of_eq whole), List.drop_eq_nil_of_le, List.append_nil]
        rw [List.length_append, List.length_replicate, whole]
      · cases writes
  · intro buffer atEnd fits
    unfold append
    split
    · exact ⟨_, rfl⟩
    · rename_i notNil
      have positive : 0 < bytes.length := List.length_pos_iff.mpr notNil
      rw [if_pos (by omega)]
      exact ⟨_, rfl⟩
  · simp_all [append]

theorem Writes.bind {writer next : ByteBuffer → Option ByteBuffer} (one : Writes first writer)
    (other : Writes second next) :
    Writes (first ++ second) fun buffer => (writer buffer).bind next := by
  constructor
  · intro buffer after atEnd writes
    obtain ⟨middle, oneWrites, otherWrites⟩ := Option.bind_eq_some_iff.mp writes
    have middleIs := one.appends atEnd oneWrites
    rw [middleIs] at otherWrites
    rw [other.appends (atEnd.extend first) otherWrites, extend_extend]
  · intro buffer atEnd fits
    rw [List.length_append] at fits
    obtain ⟨middle, oneWrites⟩ := one.succeeds atEnd (by omega)
    have middleIs := one.appends atEnd oneWrites
    obtain ⟨after, otherWrites⟩ := other.succeeds (atEnd.extend first)
      (by rw [size_extend]; omega)
    refine ⟨after, ?_⟩
    rw [oneWrites, middleIs]
    exact otherWrites
  · intro buffer after atEnd notNil writes
    obtain ⟨middle, oneWrites, otherWrites⟩ := Option.bind_eq_some_iff.mp writes
    by_cases firstNil : first = []
    · have middleIs := one.appends atEnd oneWrites
      rw [firstNil, extend_nil] at middleIs
      rw [middleIs] at otherWrites
      rw [firstNil, List.nil_append] at notNil
      exact other.bounded atEnd notNil otherWrites
    · exact one.bounded atEnd firstNil oneWrites

theorem writes_many
    (writesItem : ∀ item, Writes (encodeItem item) fun buffer => writeItem buffer item)
    (items : List α) :
    Writes (items.flatMap encodeItem) fun buffer => writeMany writeItem buffer items := by
  induction items with
  | nil =>
    constructor
    · intro buffer after _ writes
      cases writes
      exact (extend_nil _).symm
    · exact fun _ _ => ⟨_, rfl⟩
    · exact fun _ notNil => absurd rfl notNil
  | cons item rest ih =>
    rw [List.flatMap_cons]
    exact (writesItem item).bind ih

theorem writes_counted
    (writesItem : ∀ item, Writes (encodeItem item) fun buffer => writeItem buffer item)
    (items : List α) :
    Writes (encodeMany encodeItem items) fun buffer => writeCounted writeItem buffer items :=
  (writes_append _).bind (writes_many writesItem items)

theorem writes_value (type : Ty) (value : Val type) :
    Writes (encode type value) fun buffer => write type buffer value := by
  induction type with
  | scalar kind => exact writes_append _
  | string => exact (writes_append _).bind (writes_append _)
  | vector item ih | list item ih => exact writes_counted ih _
  | map key mapped ihKey ihMapped =>
    exact writes_counted
      (fun entry : Val key × Val mapped => (ihKey entry.1).bind (ihMapped entry.2)) _

theorem length_of_writeMany
    (writesItem : ∀ item, Writes (encodeItem item) fun buffer => writeItem buffer item)
    (notNil : ∀ item, encodeItem item ≠ [])
    (atEnd : buffer.AtEnd) (writes : writeMany writeItem buffer items = some after) :
    items = [] ∨ items.length + buffer.size ≤ sizeLimit := by
  induction items generalizing buffer with
  | nil => exact Or.inl rfl
  | cons item rest ih =>
    obtain ⟨middle, itemWrites, restWrites⟩ := Option.bind_eq_some_iff.mp writes
    have below := (writesItem item).bounded atEnd (notNil item) itemWrites
    have middleIs := (writesItem item).appends atEnd itemWrites
    rw [middleIs] at restWrites
    have grown := size_extend buffer (encodeItem item)
    have positive : 0 < (encodeItem item).length := List.length_pos_iff.mpr (notNil item)
    refine Or.inr ?_
    rw [List.length_cons]
    rcases ih (atEnd.extend _) restWrites with restNil | few
    · grind
    · omega

/-! ### Readers -/

def Reads (bytes : List UInt8) (reader : Reader α) (value : α) : Prop :=
  ∀ (buffer : ByteBuffer) (rest : List UInt8), buffer.storage.drop buffer.rpos = bytes ++ rest →
    reader buffer = .ok (value, { buffer with rpos := buffer.rpos + bytes.length })

theorem drop_after {storage rest : List UInt8} {rpos : Nat}
    (next : storage.drop rpos = first ++ rest) : storage.drop (rpos + first.length) = rest := by
  rw [← List.drop_drop, next, List.drop_left]

theorem reads_bytes {width : Nat} (length : bytes.length = width) (positive : 0 < width) :
    Reads bytes (readBytes width) bytes := by
  intro buffer rest next
  have lengths := congrArg List.length next
  rw [List.length_drop, List.length_append] at lengths
  unfold readBytes size
  rw [if_neg (by omega), next, ← length, List.take_left]

theorem reads_yield (value : α) : Reads [] (Reader.yield value) value := fun _ _ _ => rfl

theorem Reads.andThen {result : β}
    (one : Reads first reader value) (other : Reads second (next value) result) :
    Reads (first ++ second) (reader.andThen next) result := by
  intro buffer rest comes
  rw [List.append_assoc] at comes
  have otherRead := other { buffer with rpos := buffer.rpos + first.length } rest
    (drop_after comes)
  unfold Reader.andThen
  rw [one buffer _ comes]
  dsimp only
  rw [otherRead, List.length_append, Nat.add_assoc]

theorem Reads.yield (one : Reads first reader value)
    (change : α → β) :
    Reads first (reader.andThen fun value => Reader.yield (change value)) (change value) := by
  have both : Reads (first ++ []) (reader.andThen fun value => Reader.yield (change value))
    (change value) := one.andThen (reads_yield (change value))
  rw [List.append_nil] at both
  exact both

theorem reads_count {count : Nat} (fits : count < 2 ^ 32) :
    Reads (leBytes 4 count) readCount count := by
  have counted := (reads_bytes (leBytes_length 4 count) (by decide)).yield ofLeBytes
  rw [ofLeBytes_leBytes (by omega)] at counted
  exact counted

theorem readChars_append {value : List UInt8} (noNul : ∀ char ∈ value, char ≠ 0)
    (rest : List UInt8) : readChars (value ++ 0 :: rest) = (value, value.length + 1) := by
  induction value with
  | nil => rfl
  | cons char others ih =>
    rw [List.cons_append, readChars, if_neg (noNul char List.mem_cons_self),
      ih fun other listed => noNul other (List.mem_cons_of_mem char listed)]
    rfl

theorem reads_string {value : List UInt8} (noNul : ∀ char ∈ value, char ≠ 0) :
    Reads (value ++ [0]) (read .string) value := by
  intro buffer rest next
  rw [List.append_assoc, List.singleton_append] at next
  unfold read readString
  rw [next, readChars_append noNul, List.length_append]
  rfl

theorem reads_many {readItem : Reader α}
    (readsItem : ∀ item ∈ items, Reads (encodeItem item) readItem item) :
    Reads (items.flatMap encodeItem) (readMany readItem items.length) items := by
  induction items with
  | nil => exact reads_yield []
  | cons item others ih =>
    have othersRead := ih fun other listed => readsItem other (List.mem_cons_of_mem item listed)
    rw [List.flatMap_cons]
    exact (readsItem item List.mem_cons_self).andThen (othersRead.yield (item :: ·))

theorem insertKey_last {new : α × β}
    (last : ∀ entry ∈ entries, less entry.1 new.1 = true) :
    insertKey less new entries = entries ++ [new] := by
  induction entries with
  | nil => rfl
  | cons entry others ih =>
    rw [insertKey, if_pos (last entry List.mem_cons_self),
      ih fun other listed => last other (List.mem_cons_of_mem entry listed), List.cons_append]

theorem reads_entries {readKey : Reader α}
    {encodeKey : α → List UInt8} {encodeValue : β → List UInt8} {earlier : List (α × β)}
    (sorted : (earlier ++ entries).Pairwise fun first second => less first.1 second.1 = true)
    (readsKey : ∀ entry ∈ entries, Reads (encodeKey entry.1) readKey entry.1)
    (readsValue : ∀ entry ∈ entries, Reads (encodeValue entry.2) readValue entry.2) :
    Reads (entries.flatMap fun entry => encodeKey entry.1 ++ encodeValue entry.2)
      (readEntries less readKey readValue entries.length earlier) (earlier ++ entries) := by
  induction entries generalizing earlier with
  | nil =>
    rw [List.append_nil]
    exact reads_yield earlier
  | cons entry others ih =>
    have last : ∀ other ∈ earlier, less other.1 entry.1 = true := fun other listed =>
      (List.pairwise_append.mp sorted).2.2 other listed entry List.mem_cons_self
    have regrouped : earlier ++ entry :: others = insertKey less entry earlier ++ others := by
      rw [insertKey_last last, List.append_assoc, List.singleton_append]
    rw [regrouped] at sorted ⊢
    have othersRead := ih sorted
      (fun other listed => readsKey other (List.mem_cons_of_mem entry listed))
      (fun other listed => readsValue other (List.mem_cons_of_mem entry listed))
    rw [List.flatMap_cons, List.append_assoc]
    exact (readsKey entry List.mem_cons_self).andThen
      ((readsValue entry List.mem_cons_self).andThen othersRead)

theorem reads_counted {count : Nat}
    (fits : count < 2 ^ 32) (readsItems : Reads bytes (readItems count) value) :
    Reads (leBytes 4 count ++ bytes) (readCounted readItems) value :=
  (reads_count fits).andThen readsItems

/-! ### Round trips -/

theorem mem_writeMany
    (writesItem : ∀ item, Writes (encodeItem item) fun buffer => writeItem buffer item)
    (atEnd : buffer.AtEnd)
    (writes : writeMany writeItem buffer items = some after) :
    ∀ item ∈ items, ∃ before middle, AtEnd before ∧ writeItem before item = some middle := by
  induction items generalizing buffer with
  | nil => exact fun _ listed => absurd listed List.not_mem_nil
  | cons item rest ih =>
    obtain ⟨middle, itemWrites, restWrites⟩ := Option.bind_eq_some_iff.mp writes
    intro other listed
    rcases List.mem_cons.mp listed with rfl | inRest
    · exact ⟨buffer, middle, atEnd, itemWrites⟩
    · rw [(writesItem item).appends atEnd itemWrites] at restWrites
      exact ih (atEnd.extend _) restWrites other inRest

theorem items_writeCounted
    (writesItem : ∀ item, Writes (encodeItem item) fun buffer => writeItem buffer item)
    (notNil : ∀ item, encodeItem item ≠ [])
    (atEnd : buffer.AtEnd) (writes : writeCounted writeItem buffer items = some after) :
    items.length < 2 ^ 32 ∧
      ∀ item ∈ items, ∃ before middle, AtEnd before ∧ writeItem before item = some middle := by
  obtain ⟨counted, countWrites, itemsWrite⟩ := Option.bind_eq_some_iff.mp writes
  rw [(writes_append _).appends atEnd countWrites] at itemsWrite
  refine ⟨?_, mem_writeMany writesItem (atEnd.extend _) itemsWrite⟩
  have few := length_of_writeMany writesItem notNil (atEnd.extend _) itemsWrite
  unfold sizeLimit at few
  rcases few with isNil | few
  · simp_all
  · omega

theorem items_vector {item : Ty} {items : List (Val item)}
    (atEnd : buffer.AtEnd) (writes : writeCounted (write item) buffer items = some after) :
    items.length < 2 ^ 32 ∧
      ∀ one ∈ items, ∃ before middle, AtEnd before ∧ write item before one = some middle :=
  items_writeCounted (writes_value item) (encode_ne_nil item) atEnd writes

theorem entries_map {key mapped : Ty} {entries : List (Val key × Val mapped)}
    (atEnd : buffer.AtEnd)
    (writes : write (.map key mapped) buffer entries = some after) :
    entries.length < 2 ^ 32 ∧ ∀ entry ∈ entries,
      (∃ before middle, AtEnd before ∧ write key before entry.1 = some middle) ∧
        ∃ before middle, AtEnd before ∧ write mapped before entry.2 = some middle := by
  have writesEntry (entry : Val key × Val mapped) :=
    (writes_value key entry.1).bind (writes_value mapped entry.2)
  have notNil (entry : Val key × Val mapped) :
      encode key entry.1 ++ encode mapped entry.2 ≠ [] :=
    List.append_ne_nil_of_left_ne_nil (encode_ne_nil key entry.1) _
  obtain ⟨fits, written⟩ := items_writeCounted writesEntry notNil atEnd writes
  refine ⟨fits, fun entry listed => ?_⟩
  obtain ⟨before, middle, beforeEnd, entryWrites⟩ := written entry listed
  obtain ⟨between, keyWrites, mappedWrites⟩ := Option.bind_eq_some_iff.mp entryWrites
  have betweenEnd : between.AtEnd := by
    rw [(writes_value key entry.1).appends beforeEnd keyWrites]
    exact beforeEnd.extend _
  exact ⟨⟨before, between, beforeEnd, keyWrites⟩, ⟨between, middle, betweenEnd, mappedWrites⟩⟩

theorem reads_written {type : Ty} {value : Val type} (formed : Formed type value)
    (atEnd : buffer.AtEnd)
    (writes : write type buffer value = some after) :
    Reads (encode type value) (read type) value := by
  induction type generalizing buffer after with
  | scalar kind =>
    have fits : value.toNat < 256 ^ kind.size := by
      have bound := value.isLt
      rw [Nat.pow_mul] at bound
      exact bound
    have numberRead := (reads_bytes (leBytes_length kind.size value.toNat) kind.size_pos).yield
      (fun bytes => BitVec.ofNat (8 * kind.size) (ofLeBytes bytes))
    rw [ofLeBytes_leBytes fits, BitVec.ofNat_toNat, BitVec.setWidth_eq] at numberRead
    exact numberRead
  | string => exact reads_string formed
  | vector item ih | list item ih =>
    obtain ⟨fits, written⟩ := items_vector atEnd writes
    refine reads_counted fits (reads_many fun one listed => ?_)
    obtain ⟨before, middle, beforeEnd, oneWrites⟩ := written one listed
    exact ih (formed one listed) beforeEnd oneWrites
  | map key mapped ihKey ihMapped =>
    obtain ⟨fits, written⟩ := entries_map atEnd writes
    have sorted : ([] ++ value).Pairwise fun first second : Val key × Val mapped =>
        less key first.1 second.1 = true := formed.1
    refine reads_counted fits (reads_entries sorted ?_ ?_)
    · intro entry listed
      obtain ⟨before, middle, beforeEnd, keyWrites⟩ := (written entry listed).1
      exact ihKey (formed.2 entry listed).1 beforeEnd keyWrites
    · intro entry listed
      obtain ⟨before, middle, beforeEnd, mappedWrites⟩ := (written entry listed).2
      exact ihMapped (formed.2 entry listed).2 beforeEnd mappedWrites

/-! ### Missing bytes -/

def Refuses (bytes : List UInt8) (reader : Reader α) : Prop :=
  ∀ buffer : ByteBuffer, buffer.storage.drop buffer.rpos <+: bytes →
    buffer.storage.drop buffer.rpos ≠ bytes → ∃ exception, reader buffer = .error exception

theorem refuses_bytes {width : Nat} (length : bytes.length = width) :
    Refuses bytes (readBytes width) := by
  intro buffer isPrefix different
  have shorter : (buffer.storage.drop buffer.rpos).length < bytes.length := by
    refine Nat.lt_of_le_of_ne isPrefix.length_le fun same => ?_
    exact different (isPrefix.eq_of_length same)
  rw [List.length_drop] at shorter
  unfold readBytes size
  rw [if_pos (by omega)]
  exact ⟨_, rfl⟩

theorem refuses_yield (value : α) : Refuses [] (Reader.yield value) := by
  intro buffer isPrefix different
  exact absurd (List.prefix_nil.mp isPrefix) different

theorem andThen_throws
    {exception : ByteBufferException} (throws : reader buffer = .error exception) :
    reader.andThen next buffer = .error exception := by
  unfold Reader.andThen
  rw [throws]

theorem Refuses.andThen
    (one : Refuses first reader) (reads : Reads first reader value)
    (other : Refuses second (next value)) : Refuses (first ++ second) (reader.andThen next) := by
  intro buffer isPrefix different
  rcases List.prefix_or_prefix_of_prefix isPrefix (List.prefix_append first second) with
    inFirst | ⟨rest, comes⟩
  · by_cases whole : buffer.storage.drop buffer.rpos = first
    · -- the first reader finds its bytes, and nothing is left for the second
      rw [whole] at different
      have comes : buffer.storage.drop buffer.rpos = first ++ [] := by
        rw [whole, List.append_nil]
      have left := drop_after comes
      obtain ⟨exception, throws⟩ := other { buffer with rpos := buffer.rpos + first.length }
        (by rw [left]; exact List.nil_prefix)
        (by
          rw [left]
          rintro rfl
          exact different (List.append_nil first).symm)
      refine ⟨exception, ?_⟩
      unfold Reader.andThen
      rw [reads buffer [] comes]
      exact throws
    · obtain ⟨exception, throws⟩ := one buffer inFirst whole
      exact ⟨exception, andThen_throws throws⟩
  · have left := drop_after comes.symm
    rw [← comes] at isPrefix different
    obtain ⟨exception, throws⟩ := other { buffer with rpos := buffer.rpos + first.length }
      (by rw [left]; exact (List.prefix_append_right_inj first).mp isPrefix)
      (by rw [left]; exact fun same => different (congrArg (first ++ ·) same))
    refine ⟨exception, ?_⟩
    unfold Reader.andThen
    rw [reads buffer rest comes.symm]
    exact throws

theorem Refuses.yield (one : Refuses first reader)
    (reads : Reads first reader value) (change : α → β) :
    Refuses first (reader.andThen fun value => Reader.yield (change value)) := by
  have both : Refuses (first ++ []) (reader.andThen fun value => Reader.yield (change value)) :=
    one.andThen reads (refuses_yield (change value))
  rw [List.append_nil] at both
  exact both

theorem refuses_many {readItem : Reader α}
    (readsItem : ∀ item ∈ items, Reads (encodeItem item) readItem item)
    (refusesItem : ∀ item ∈ items, Refuses (encodeItem item) readItem) :
    Refuses (items.flatMap encodeItem) (readMany readItem items.length) := by
  induction items with
  | nil => exact refuses_yield []
  | cons item others ih =>
    have othersRead := reads_many fun other listed =>
      readsItem other (List.mem_cons_of_mem item listed)
    have othersRefused := ih
      (fun other listed => readsItem other (List.mem_cons_of_mem item listed))
      (fun other listed => refusesItem other (List.mem_cons_of_mem item listed))
    rw [List.flatMap_cons]
    exact (refusesItem item List.mem_cons_self).andThen (readsItem item List.mem_cons_self)
      (othersRefused.yield othersRead (item :: ·))

theorem refuses_entries {readKey : Reader α}
    {encodeKey : α → List UInt8} {encodeValue : β → List UInt8} {earlier : List (α × β)}
    (readsKey : ∀ entry ∈ entries, Reads (encodeKey entry.1) readKey entry.1)
    (readsValue : ∀ entry ∈ entries, Reads (encodeValue entry.2) readValue entry.2)
    (refusesKey : ∀ entry ∈ entries, Refuses (encodeKey entry.1) readKey)
    (refusesValue : ∀ entry ∈ entries, Refuses (encodeValue entry.2) readValue) :
    Refuses (entries.flatMap fun entry => encodeKey entry.1 ++ encodeValue entry.2)
      (readEntries less readKey readValue entries.length earlier) := by
  induction entries generalizing earlier with
  | nil => exact refuses_yield earlier
  | cons entry others ih =>
    have othersRefused : ∀ before, Refuses
        (others.flatMap fun entry => encodeKey entry.1 ++ encodeValue entry.2)
        (readEntries less readKey readValue others.length before) := fun before => ih
      (fun other listed => readsKey other (List.mem_cons_of_mem entry listed))
      (fun other listed => readsValue other (List.mem_cons_of_mem entry listed))
      (fun other listed => refusesKey other (List.mem_cons_of_mem entry listed))
      (fun other listed => refusesValue other (List.mem_cons_of_mem entry listed))
    rw [List.flatMap_cons, List.append_assoc]
    exact (refusesKey entry List.mem_cons_self).andThen (readsKey entry List.mem_cons_self)
      ((refusesValue entry List.mem_cons_self).andThen (readsValue entry List.mem_cons_self)
        (othersRefused _))

theorem refuses_counted {count : Nat} (fits : count < 2 ^ 32)
    (refusesItems : Refuses bytes (readItems count)) :
    Refuses (leBytes 4 count ++ bytes) (readCounted readItems) := by
  have countRefused := (refuses_bytes (leBytes_length 4 count)).yield
    (reads_bytes (leBytes_length 4 count) (by decide)) ofLeBytes
  exact countRefused.andThen (reads_count fits) refusesItems

def NoString : Ty → Prop
  | .scalar _ => True
  | .string => False
  | .vector item => NoString item
  | .list item => NoString item
  | .map key mapped => NoString key ∧ NoString mapped

theorem refuses_written {type : Ty} (noString : NoString type) {value : Val type}
    (formed : Formed type value) (atEnd : buffer.AtEnd)
    (writes : write type buffer value = some after) : Refuses (encode type value) (read type) := by
  induction type generalizing buffer after with
  | scalar kind =>
    exact (refuses_bytes (leBytes_length kind.size value.toNat)).yield
      (reads_bytes (leBytes_length kind.size value.toNat) kind.size_pos) _
  | string => exact noString.elim
  | vector item ih | list item ih =>
    obtain ⟨fits, written⟩ := items_vector atEnd writes
    refine refuses_counted fits (refuses_many ?_ ?_)
    · intro one listed
      obtain ⟨before, middle, beforeEnd, oneWrites⟩ := written one listed
      exact reads_written (formed one listed) beforeEnd oneWrites
    · intro one listed
      obtain ⟨before, middle, beforeEnd, oneWrites⟩ := written one listed
      exact ih noString (formed one listed) beforeEnd oneWrites
  | map key mapped ihKey ihMapped =>
    obtain ⟨fits, written⟩ := entries_map atEnd writes
    refine refuses_counted fits (refuses_entries ?_ ?_ ?_ ?_)
    · intro entry listed
      obtain ⟨before, middle, beforeEnd, keyWrites⟩ := (written entry listed).1
      exact reads_written (formed.2 entry listed).1 beforeEnd keyWrites
    · intro entry listed
      obtain ⟨before, middle, beforeEnd, mappedWrites⟩ := (written entry listed).2
      exact reads_written (formed.2 entry listed).2 beforeEnd mappedWrites
    · intro entry listed
      obtain ⟨before, middle, beforeEnd, keyWrites⟩ := (written entry listed).1
      exact ihKey noString.1 (formed.2 entry listed).1 beforeEnd keyWrites
    · intro entry listed
      obtain ⟨before, middle, beforeEnd, mappedWrites⟩ := (written entry listed).2
      exact ihMapped noString.2 (formed.2 entry listed).2 beforeEnd mappedWrites

/-! ### Bounds of reads -/

/-- A reader moves `rpos`, and not beyond the data. -/
def StaysWithin (reader : Reader α) : Prop :=
  ∀ (buffer after : ByteBuffer) (value : α), buffer.rpos ≤ buffer.size →
    reader buffer = .ok (value, after) →
    after.rpos ≤ after.size ∧ after.storage = buffer.storage ∧ after.wpos = buffer.wpos

theorem readBytes_within (width : Nat) : StaysWithin (readBytes width) := by
  intro buffer after value _ reads
  unfold readBytes at reads
  split at reads
  · cases reads
  · grind [size]

theorem readChars_le (chars : List UInt8) : (readChars chars).2 ≤ chars.length := by
  induction chars with
  | nil => exact Nat.le_refl 0
  | cons char rest ih =>
    unfold readChars
    split
    · exact Nat.succ_le_succ (Nat.zero_le _)
    · exact Nat.succ_le_succ ih

theorem StaysWithin.andThen (one : StaysWithin reader)
    (other : ∀ value, StaysWithin (next value)) : StaysWithin (reader.andThen next) := by
  intro buffer after value within reads
  unfold Reader.andThen at reads
  split at reads
  · cases reads
  · rename_i item middle readerReads
    obtain ⟨middleWithin, middleStorage, middleWpos⟩ := one _ _ _ within readerReads
    obtain ⟨afterWithin, afterStorage, afterWpos⟩ := other item _ _ _ middleWithin reads
    exact ⟨afterWithin, afterStorage.trans middleStorage, afterWpos.trans middleWpos⟩

theorem within_yield (value : α) : StaysWithin (Reader.yield value) := by
  intro buffer after _ within reads
  cases reads
  exact ⟨within, rfl, rfl⟩

theorem readMany_within {readItem : Reader α} (within : StaysWithin readItem) (count : Nat) :
    StaysWithin (readMany readItem count) := by
  induction count with
  | zero => exact within_yield []
  | succ count ih => exact within.andThen fun item => ih.andThen fun items => within_yield (item :: items)

theorem readEntries_within {readKey : Reader α}
    (keyWithin : StaysWithin readKey) (valueWithin : StaysWithin readValue) (count : Nat)
    (entries : List (α × β)) :
    StaysWithin (readEntries less readKey readValue count entries) := by
  induction count generalizing entries with
  | zero => exact within_yield entries
  | succ count ih => exact keyWithin.andThen fun key => valueWithin.andThen fun value => ih _

theorem readCounted_within
    (within : ∀ count, StaysWithin (readItems count)) : StaysWithin (readCounted readItems) :=
  ((readBytes_within 4).andThen fun bytes => within_yield (ofLeBytes bytes)).andThen within

theorem read_within (type : Ty) : StaysWithin (read type) := by
  induction type with
  | scalar kind => exact (readBytes_within kind.size).andThen fun bytes => within_yield _
  | string =>
    intro buffer after value within reads
    cases reads
    have length := readChars_le (buffer.storage.drop buffer.rpos)
    rw [List.length_drop] at length
    exact ⟨by unfold size at *; dsimp only; omega, rfl, rfl⟩
  | vector item ih | list item ih => exact readCounted_within fun count => readMany_within ih count
  | map key mapped ihKey ihMapped =>
    exact readCounted_within fun count => readEntries_within ihKey ihMapped count []

theorem readBytes_throws {width : Nat}
    (short : buffer.size < buffer.rpos + width) :
    buffer.readBytes width = .error ⟨false, buffer.rpos, width, buffer.size⟩ := if_pos short

theorem readCounted_throws
    (short : buffer.size < buffer.rpos + 4) :
    readCounted readItems buffer = .error ⟨false, buffer.rpos, 4, buffer.size⟩ :=
  andThen_throws (andThen_throws (readBytes_throws short))

/-- `sizeof` of what a read starts with: the value itself, or the count of a container. -/
def headSize : Ty → Nat
  | .scalar kind => kind.size
  | .string => 0
  | _ => 4

theorem read_throws {type : Ty} (notString : type ≠ .string)
    (short : buffer.size < buffer.rpos + headSize type) :
    read type buffer = .error ⟨false, buffer.rpos, headSize type, buffer.size⟩ := by
  cases type with
  | scalar kind => exact andThen_throws (readBytes_throws short)
  | string => exact absurd rfl notString
  | vector item | list item => exact readCounted_throws short
  | map key mapped => exact readCounted_throws short

/-! ### Sequences -/

def encodeAll (values : List Typed) : List UInt8 := values.flatMap fun value => encode value.1 value.2

theorem writes_all (values : List Typed) :
    Writes (encodeAll values) fun buffer => writeAll buffer values :=
  writes_many (fun value : Typed => writes_value value.1 value.2) values

theorem reads_all {values : List Typed}
    (reads : ∀ value ∈ values, Reads (encode value.1 value.2) (read value.1) value.2) :
    Reads (encodeAll values) (readAll (values.map Sigma.fst)) values := by
  induction values with
  | nil => exact reads_yield []
  | cons value others ih =>
    have othersRead := ih fun other listed => reads other (List.mem_cons_of_mem value listed)
    exact (reads value List.mem_cons_self).andThen (othersRead.yield (value :: ·))

theorem refuses_all {values : List Typed}
    (reads : ∀ value ∈ values, Reads (encode value.1 value.2) (read value.1) value.2)
    (refuses : ∀ value ∈ values, Refuses (encode value.1 value.2) (read value.1)) :
    Refuses (encodeAll values) (readAll (values.map Sigma.fst)) := by
  induction values with
  | nil => exact refuses_yield []
  | cons value others ih =>
    have othersReads := fun other listed => reads other (List.mem_cons_of_mem value listed)
    have othersRefused := ih othersReads
      fun other listed => refuses other (List.mem_cons_of_mem value listed)
    exact (refuses value List.mem_cons_self).andThen (reads value List.mem_cons_self)
      (othersRefused.yield (reads_all othersReads) (value :: ·))

def sampleValues : List Typed :=
  [⟨.vector .string, [[72, 105], []]⟩, ⟨.map (.scalar .int8) (.scalar .uint16), [(-1, 7), (0, 300)]⟩,
    ⟨.scalar .float, 0x3F800000⟩]

theorem writeAll_long_string {chars : List UInt8} (long : sizeLimit ≤ chars.length) :
    writeAll {} [⟨.string, chars⟩] = none := by
  rw [Option.eq_none_iff_forall_ne_some]
  intro after writes
  have atEnd : AtEnd {} := rfl
  obtain ⟨last, stringWrites, _⟩ := Option.bind_eq_some_iff.mp writes
  obtain ⟨middle, charsWrite, nulWrites⟩ := Option.bind_eq_some_iff.mp stringWrites
  have middleIs : middle = extend {} chars := (writes_append chars).appends atEnd charsWrite
  have below := (writes_append [0]).bounded (by rw [middleIs]; exact atEnd.extend _)
    (List.cons_ne_nil 0 []) nulWrites
  rw [middleIs, size_extend] at below
  omega

end ByteBuffer

end DarkCore.Shared
