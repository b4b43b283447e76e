/-
The list of mails that a client asks for (`WorldSession::HandleGetMailList`).
The size that is announced for a mail is a formula of its own beside the code
that writes the mail.
-/

import DarkCore.Lib.Runs
import DarkCore.Mails.Mail
import DarkCore.Shared.ByteBufferRoundTrip

namespace DarkCore.Mails

open Lib Shared Shared.ByteBuffer

structure MailedItem where
  guidLow : Nat
  entry : Nat
  /-- The id, the duration and the charges of the enchantment in a slot -/
  enchantment : Nat → Nat × Nat × Nat
  randomPropertyId : Int
  suffixFactor : Nat
  count : Nat
  spellCharges : Nat
  maxDurability : Nat
  durability : Nat

structure ListedMail where
  messageID : Nat
  /-- A `uint8`, as the row has it -/
  messageType : Nat
  stationery : Nat
  mailTemplateId : Nat
  sender : Nat
  subject : List UInt8
  body : List UInt8
  /-- The guids of the attached items -/
  items : List Nat
  expireTime : Int
  deliverTime : Int
  money : Nat
  cod : Nat
  checked : Nat
  /-- `MAIL_STATE_DELETED` -/
  deleted : Bool

/-- The time of a request, the bits of a `float` with a number of days, and `GetMItem` -/
structure Mailbox where
  curTime : Int
  days : Int → BitVec 32
  getMItem : Nat → Option MailedItem

def mailNormal : Nat := 0
def mailAuction : Nat := 2
def mailCreature : Nat := 3
def mailGameobject : Nat := 4
def mailItem : Nat := 5

def MailMessageType.code : MailMessageType → Nat
  | .normal => mailNormal
  | .auction => mailAuction
  | .creature => mailCreature
  | .gameobject => mailGameobject
  | .item => mailItem

def maxInspectedEnchantmentSlot : Nat := 7

namespace ListedMail

variable (mail : ListedMail)

def itemCount : Nat := mail.items.length % 256

def nextMailSize : Nat :=
  2 + 4 + 1 + (if mail.messageType = mailNormal then 8 else 4) + 4 * 8 +
    (mail.subject.length + 1) + (mail.body.length + 1) + 1 +
    mail.itemCount *
      (1 + 4 + 4 + 7 * 3 * 4 + 4 + 4 + 4 + 4 + 4 + 4 + 4 + 1)

def senderValues : List Typed :=
  if mail.messageType = mailNormal then [.uint64 mail.sender]
  else if mail.messageType = mailCreature ∨ mail.messageType = mailGameobject ∨
      mail.messageType = mailAuction then
    [.uint32 mail.sender]
  else if mail.messageType = mailItem then [.uint32 0]
  else []

end ListedMail

def enchantmentValues (item : Option MailedItem) (slot : Nat) : List Typed :=
  let enchantment := (item.map fun item => item.enchantment slot).getD (0, 0, 0)
  [.uint32 enchantment.1, .uint32 enchantment.2.1, .uint32 enchantment.2.2]

def itemValues (item : Option MailedItem) (index : Nat) : List Typed :=
  let field (read : MailedItem → Nat) : Typed := .uint32 ((item.map read).getD 0)
  [.uint8 index, field MailedItem.guidLow, field MailedItem.entry] ++
    ((List.range maxInspectedEnchantmentSlot).flatMap (enchantmentValues item) ++
      (List.replicate (2 * 3) (.uint32 0) ++
        [.int32 ((item.map MailedItem.randomPropertyId).getD 0), field MailedItem.suffixFactor,
          field MailedItem.count, field MailedItem.spellCharges, field MailedItem.maxDurability,
          field MailedItem.durability, .uint8 0]))

def mailValues (box : Mailbox) (mail : ListedMail) : List Typed :=
  [.uint16 mail.nextMailSize, .uint32 mail.messageID, .uint8 mail.messageType] ++
    (mail.senderValues ++
      ([.uint64 mail.cod, .uint32 0, .uint32 mail.stationery, .uint64 mail.money,
          .uint32 mail.checked, ⟨.scalar .float, box.days (mail.expireTime - box.curTime)⟩,
          .uint32 mail.mailTemplateId, ⟨.string, mail.subject⟩, ⟨.string, mail.body⟩,
          .uint8 mail.itemCount] ++ (List.range mail.itemCount).flatMap fun index =>
          itemValues (mail.items[index]?.bind box.getMItem) index))

structure MailListing where
  data : ByteBuffer
  blocks : List (List UInt8) := []
  mailsCount : Nat := 0
  realCount : Nat := 0

def writeMail (box : Mailbox) (listing : MailListing) (mail : ListedMail) : Option MailListing :=
  if 254 ≤ listing.mailsCount then some { listing with realCount := listing.realCount + 1 }
  else if mail.deleted = true ∨ box.curTime < mail.deliverTime then some listing
  else if maxPacketSize < listing.data.wpos + mail.nextMailSize then
    some { listing with realCount := listing.realCount + 1 }
  else
    (writeAll listing.data (mailValues box mail)).map fun data =>
      { data := data
        blocks := listing.blocks ++ [data.storage.drop listing.data.size]
        mailsCount := listing.mailsCount + 1
        realCount := listing.realCount + 1 }

def writeMails (box : Mailbox) : MailListing → List ListedMail → Option MailListing
  | listing, [] => some listing
  | listing, mail :: rest => (writeMail box listing mail).bind fun next => writeMails box next rest

/-- The packet that `HandleGetMailList` sends, and the blocks of the mails in it -/
def mailListPacket (box : Mailbox) (mails : List ListedMail) :
    Option (ByteBuffer × List (List UInt8)) := do
  let data ← writeAll {} [.uint32 0, .uint8 0]
  let listing ← writeMails box { data := data } mails
  let counted ← listing.data.put 0 (leBytes 4 listing.realCount)
  let packet ← counted.put 4 (leBytes 1 listing.mailsCount)
  return (packet, listing.blocks)

def Announced (block : List UInt8) : Prop := ofLeBytes (block.take 2) = block.length

structure Readable (packet : ByteBuffer) (blocks : List (List UInt8)) : Prop where
  whole : packet.storage.drop 5 = blocks.flatten
  announced : ∀ block ∈ blocks, Announced block
  limit : packet.size ≤ maxPacketSize
  count : ofLeBytes ((packet.storage.drop 4).take 1) = blocks.length

def ListsReadably (box : Mailbox) (mails : List ListedMail) : Prop :=
  ∃ packet blocks, mailListPacket box mails = some (packet, blocks) ∧ Readable packet blocks

def Sends (box : Mailbox) (listing : MailListing) (mail : ListedMail) : Prop :=
  listing.mailsCount < 254 ∧ mail.deleted = false ∧ mail.deliverTime ≤ box.curTime ∧
    listing.data.wpos + mail.nextMailSize ≤ maxPacketSize

def knownTypes : List Nat := [mailNormal, mailAuction, mailCreature, mailGameobject, mailItem]

def ListedMail.Bare (mail : ListedMail) : Prop :=
  mail.messageType ∉ knownTypes ∧ mail.itemCount = 0

def nextListing (box : Mailbox) (listing : MailListing) (mail : ListedMail) : MailListing :=
  (writeMail box listing mail).getD listing

def emptyListing : MailListing where
  data := { storage := [0, 0, 0, 0, 0], wpos := 5 }

def width (value : Typed) : Nat := (encode value.1 value.2).length

@[simp] theorem width_uint8 (value : Nat) : width (.uint8 value) = 1 := leBytes_length _ _
@[simp] theorem width_uint16 (value : Nat) : width (.uint16 value) = 2 := leBytes_length _ _
@[simp] theorem width_uint32 (value : Nat) : width (.uint32 value) = 4 := leBytes_length _ _
@[simp] theorem width_uint64 (value : Nat) : width (.uint64 value) = 8 := leBytes_length _ _
@[simp] theorem width_int32 (value : Int) : width (.int32 value) = 4 := leBytes_length _ _
@[simp] theorem width_float (bits : BitVec 32) : width ⟨.scalar .float, bits⟩ = 4 :=
  leBytes_length _ _
@[simp] theorem width_string (value : List UInt8) :
    width ⟨.string, value⟩ = value.length + 1 := List.length_append

@[simp] theorem length_encodeAll_nil : (encodeAll []).length = 0 := rfl

@[simp] theorem length_encodeAll_cons (value : Typed) (rest : List Typed) :
    (encodeAll (value :: rest)).length = width value + (encodeAll rest).length := by
  simp only [encodeAll, List.flatMap_cons, List.length_append, width]

@[simp] theorem length_encodeAll_append (first second : List Typed) :
    (encodeAll (first ++ second)).length =
      (encodeAll first).length + (encodeAll second).length := by
  simp only [encodeAll, List.flatMap_append, List.length_append]

theorem length_encodeAll_flatMap {α : Type} {values : α → List Typed} {length : Nat}
    (each : ∀ element, (encodeAll (values element)).length = length) (elements : List α) :
    (encodeAll (elements.flatMap values)).length = elements.length * length := by
  induction elements with
  | nil => simp only [List.flatMap_nil, length_encodeAll_nil, List.length_nil, Nat.zero_mul]
  | cons element rest ih =>
    rw [List.flatMap_cons, length_encodeAll_append, each, ih, List.length_cons, Nat.succ_mul,
      Nat.add_comm]

theorem length_itemValues (item : Option MailedItem) (index : Nat) :
    (encodeAll (itemValues item index)).length = 142 := by
  have enchantments (slot : Nat) : (encodeAll (enchantmentValues item slot)).length = 12 := by
    simp [enchantmentValues]
  simp [itemValues, length_encodeAll_flatMap enchantments, List.replicate,
    maxInspectedEnchantmentSlot]

theorem length_senderValues (mail : ListedMail) :
    (encodeAll mail.senderValues).length =
      if mail.messageType = mailNormal then 8
      else if mail.messageType ∈ knownTypes then 4 else 0 := by
  simp only [ListedMail.senderValues, knownTypes, List.mem_cons, List.not_mem_nil, or_false]
  by_cases normal : mail.messageType = mailNormal
  · simp [normal]
  · by_cases sent : mail.messageType = mailCreature ∨ mail.messageType = mailGameobject ∨
        mail.messageType = mailAuction
    · rw [if_neg normal, if_pos sent, if_neg normal, if_pos (by tauto)]
      simp
    · by_cases item : mail.messageType = mailItem
      · rw [if_neg normal, if_neg sent, if_pos item, if_neg normal, if_pos (by tauto)]
        simp
      · rw [if_neg normal, if_neg sent, if_neg item, if_neg normal, if_neg (by tauto)]
        simp

/-- A mail is four bytes longer than announced, and each item twenty; only the sender of an unknown
type is left out. -/
theorem length_mailValues (box : Mailbox) (mail : ListedMail) :
    (encodeAll (mailValues box mail)).length + (if mail.messageType ∈ knownTypes then 0 else 4) =
      mail.nextMailSize + 4 + 20 * mail.itemCount := by
  have items : (encodeAll ((List.range mail.itemCount).flatMap fun index =>
      itemValues (mail.items[index]?.bind box.getMItem) index)).length = mail.itemCount * 142 := by
    rw [length_encodeAll_flatMap fun index => length_itemValues _ index, List.length_range]
  have normal : mailNormal ∈ knownTypes := by decide
  simp only [mailValues, length_encodeAll_append, length_encodeAll_cons, length_encodeAll_nil,
    items, length_senderValues, ListedMail.nextMailSize, width_uint8, width_uint16, width_uint32,
    width_uint64, width_float, width_string]
  split <;> grind

theorem announced_mailValues_iff (box : Mailbox) (mail : ListedMail)
    (small : mail.nextMailSize ≤ maxPacketSize) :
    Announced (encodeAll (mailValues box mail)) ↔ mail.Bare := by
  have length := length_mailValues box mail
  have head : (encodeAll (mailValues box mail)).take 2 = leBytes 2 mail.nextMailSize := by
    have fits : (BitVec.ofNat 16 mail.nextMailSize).toNat = mail.nextMailSize := by
      rw [BitVec.toNat_ofNat]
      exact Nat.mod_eq_of_lt (Nat.lt_of_le_of_lt small (by decide))
    have split : encodeAll (mailValues box mail) =
        leBytes 2 (BitVec.ofNat 16 mail.nextMailSize).toNat ++
          encodeAll ((mailValues box mail).drop 1) := rfl
    rw [split, fits, List.take_left' (leBytes_length _ _)]
  have read : ofLeBytes (leBytes 2 mail.nextMailSize) = mail.nextMailSize :=
    ofLeBytes_leBytes (Nat.lt_of_le_of_lt small (by decide))
  unfold Announced ListedMail.Bare
  rw [head, read]
  split at length <;> grind

/-- The packet has a head of five bytes and the blocks, and is within the limit as long as these
are announced; in any case it is far from the bound of a buffer. -/
structure Lists (listing : MailListing) : Prop where
  atEnd : listing.data.AtEnd
  storage : ∃ head : List UInt8, head.length = 5 ∧
    listing.data.storage = head ++ listing.blocks.flatten
  count : listing.mailsCount = listing.blocks.length
  few : listing.mailsCount ≤ 254
  bound : listing.data.size ≤ 40000
  limit : (∀ block ∈ listing.blocks, Announced block) → listing.data.size ≤ maxPacketSize

theorem emptyListing_lists : Lists emptyListing where
  atEnd := rfl
  storage := ⟨[0, 0, 0, 0, 0], rfl, rfl⟩
  count := rfl
  few := by decide
  bound := by decide
  limit _ := by decide

/-- What a mail does to the list: it is passed by, or its bytes are appended. -/
inductive Adds (box : Mailbox) (listing : MailListing) (mail : ListedMail) : MailListing → Prop
  | passed (realCount : Nat) (outside : ¬ Sends box listing mail) :
      Adds box listing mail { listing with realCount := realCount }
  | sent (sends : Sends box listing mail) :
      Adds box listing mail
        { data := listing.data.extend (encodeAll (mailValues box mail))
          blocks := listing.blocks ++ [encodeAll (mailValues box mail)]
          mailsCount := listing.mailsCount + 1
          realCount := listing.realCount + 1 }

theorem writeMail_adds (box : Mailbox) {listing : MailListing} (lists : Lists listing)
    (mail : ListedMail) :
    ∃ next, writeMail box listing mail = some next ∧ Adds box listing mail next := by
  unfold writeMail
  split
  · rename_i full
    exact ⟨_, rfl, .passed _ fun sends => Nat.not_lt_of_le full sends.1⟩
  · rename_i room
    split
    · rename_i hidden
      refine ⟨_, rfl, .passed listing.realCount fun sends => ?_⟩
      rcases hidden with deleted | later
      · exact absurd (deleted.symm.trans sends.2.1) (by decide)
      · exact absurd sends.2.2.1 (by omega)
    · rename_i shown
      split
      · rename_i large
        exact ⟨_, rfl, .passed _ fun sends => Nat.not_lt_of_le sends.2.2.2 large⟩
      · rename_i fits
        have sends : Sends box listing mail := by
          refine ⟨Nat.lt_of_not_le room, ?_, ?_, Nat.le_of_not_lt fits⟩
          · exact Bool.eq_false_iff.mpr fun deleted => shown (Or.inl deleted)
          · exact Int.not_lt.mp fun later => shown (Or.inr later)
        have length := length_mailValues box mail
        have items : mail.itemCount < 256 := Nat.mod_lt _ (by decide)
        have size := sends.2.2.2
        have bound := lists.bound
        unfold maxPacketSize at size
        obtain ⟨data, writes⟩ := (writes_all (mailValues box mail)).succeeds lists.atEnd (by
          unfold sizeLimit
          omega)
        have isData := (writes_all (mailValues box mail)).appends lists.atEnd writes
        have block : data.storage.drop listing.data.size = encodeAll (mailValues box mail) := by
          rw [isData]
          exact List.drop_left
        rw [writes, Option.map_some, block, isData]
        exact ⟨_, rfl, .sent sends⟩

theorem Adds.lists {box : Mailbox} {listing next : MailListing} {mail : ListedMail}
    (lists : Lists listing) (adds : Adds box listing mail next) :
    Lists next ∧
      ((∀ block ∈ next.blocks, Announced block) ↔
        (∀ block ∈ listing.blocks, Announced block) ∧ (Sends box listing mail → mail.Bare)) := by
  cases adds with
  | passed realCount outside =>
    refine ⟨⟨lists.atEnd, lists.storage, lists.count, lists.few, lists.bound, lists.limit⟩, ?_⟩
    simp only [outside, false_implies, and_true]
  | sent sends =>
    have size := sends.2.2.2
    have atEnd : listing.data.wpos = listing.data.size := lists.atEnd
    have announced := announced_mailValues_iff box mail (by omega)
    have length := length_mailValues box mail
    have items : mail.itemCount < 256 := Nat.mod_lt _ (by decide)
    have blocks : (∀ block ∈ listing.blocks ++ [encodeAll (mailValues box mail)],
        Announced block) ↔ (∀ block ∈ listing.blocks, Announced block) ∧ mail.Bare := by
      simp only [List.mem_append, List.mem_singleton, or_imp, forall_and, forall_eq, announced]
    constructor
    · constructor
      · exact lists.atEnd.extend _
      · obtain ⟨head, isFive, storage⟩ := lists.storage
        refine ⟨head, isFive, ?_⟩
        simp only [extend, storage, List.flatten_append, List.flatten_singleton, List.append_assoc]
      · simp only [lists.count, List.length_append, List.length_singleton]
      · exact sends.1
      · grind [maxPacketSize, size_extend]
      · intro all
        have bare := (blocks.mp all).2
        rw [if_neg bare.1, bare.2] at length
        rw [size_extend]
        omega
    · simp only [blocks, sends, true_implies]

theorem writeMails_lists (box : Mailbox) {listing : MailListing} (lists : Lists listing)
    (mails : List ListedMail) :
    ∃ last, writeMails box listing mails = some last ∧ Lists last ∧
      ((∀ block ∈ last.blocks, Announced block) ↔ (∀ block ∈ listing.blocks, Announced block) ∧
          Along (nextListing box) (fun listing mail => Sends box listing mail → mail.Bare)
            listing mails) := by
  induction mails generalizing listing with
  | nil => exact ⟨listing, rfl, lists, by simp only [Along, and_true]⟩
  | cons mail rest ih =>
    obtain ⟨next, isNext, adds⟩ := writeMail_adds box lists mail
    obtain ⟨nextLists, blocks⟩ := adds.lists lists
    obtain ⟨last, isLast, lastLists, along⟩ := ih nextLists
    refine ⟨last, ?_, lastLists, ?_⟩
    · simp only [writeMails, isNext, Option.bind_some, isLast]
    · have same : nextListing box listing mail = next := by
        simp only [nextListing, isNext, Option.getD_some]
      simp only [Along, same, along, blocks, and_assoc]

theorem put_eq {buffer : ByteBuffer} {head bytes rest : List UInt8} {pos : Nat}
    (storage : buffer.storage = head ++ rest) (isPos : head.length = pos)
    (room : bytes.length ≤ rest.length) :
    buffer.put pos bytes =
      some { buffer with storage := head ++ (bytes ++ rest.drop bytes.length) } := by
  have fits : ¬ buffer.size < pos + bytes.length := by
    simp_all [size]
  unfold put
  rw [if_neg fits, storage, List.take_left' isPos, List.append_assoc, ← isPos,
    List.drop_length_add_append]

theorem mailListPacket_eq (box : Mailbox) {mails : List ListedMail} {last : MailListing}
    (lists : Lists last) (isLast : writeMails box emptyListing mails = some last) :
    ∃ packet, mailListPacket box mails = some (packet, last.blocks) ∧
      packet.storage = leBytes 4 last.realCount ++ (leBytes 1 last.mailsCount ++
        last.blocks.flatten) ∧
      packet.size = last.data.size := by
  obtain ⟨head, five, storage⟩ := lists.storage
  have first := @put_eq last.data [] (leBytes 4 last.realCount) (head ++ last.blocks.flatten) 0
    storage rfl (by
      rw [leBytes_length, List.length_append]
      omega)
  have tail : (head ++ last.blocks.flatten).drop (leBytes 4 last.realCount).length =
      head.drop 4 ++ last.blocks.flatten := by
    rw [leBytes_length, List.drop_append_of_le_length (by omega)]
  rw [tail, List.nil_append] at first
  have second := @put_eq
    { last.data with
      storage := leBytes 4 last.realCount ++ (head.drop 4 ++ last.blocks.flatten) }
    (leBytes 4 last.realCount) (leBytes 1 last.mailsCount) (head.drop 4 ++ last.blocks.flatten) 4
    rfl (leBytes_length _ _) (by
      rw [leBytes_length, List.length_append, List.length_drop]
      omega)
  have one : (head.drop 4).length = 1 := by
    simp_all
  rw [leBytes_length, List.drop_left' one] at second
  refine ⟨{ last.data with
    storage := leBytes 4 last.realCount ++ (leBytes 1 last.mailsCount ++ last.blocks.flatten) },
    ?_, rfl, ?_⟩
  · have start : writeAll {} [.uint32 0, .uint8 0] = some emptyListing.data := by decide
    simp only [mailListPacket, start, Option.bind_eq_bind, Option.bind_some]
    have same : ({ data := emptyListing.data } : MailListing) = emptyListing := rfl
    rw [same, isLast, Option.bind_some, first, Option.bind_some, second, Option.bind_some]
    rfl
  · simp only [size, storage, List.length_append, leBytes_length, five]
    omega

/-- The packet can be read as it is meant exactly when every mail that comes into it is of a type
that is not known, and carries no items. -/
theorem listsReadably_iff (box : Mailbox) (mails : List ListedMail) :
    ListsReadably box mails ↔
      Along (nextListing box) (fun listing mail => Sends box listing mail → mail.Bare)
        emptyListing mails := by
  obtain ⟨last, isLast, lists, along⟩ := writeMails_lists box emptyListing_lists mails
  have none : ∀ block ∈ emptyListing.blocks, Announced block := fun _ member => by cases member
  rw [and_iff_right none] at along
  obtain ⟨packet, handled, storage, size⟩ := mailListPacket_eq box lists isLast
  constructor
  · rintro ⟨other, blocks, isOther, readable⟩
    rw [handled, Option.some.injEq, Prod.mk.injEq] at isOther
    exact along.mp (isOther.2 ▸ readable.announced)
  · intro bare
    have announced := along.mpr bare
    have few := lists.few
    refine ⟨packet, last.blocks, handled, ⟨?_, announced, ?_, ?_⟩⟩
    · rw [storage, ← List.append_assoc]
      exact List.drop_left' (by rw [List.length_append, leBytes_length, leBytes_length])
    · rw [size]
      exact lists.limit announced
    · rw [storage, List.drop_left' (leBytes_length _ _), List.take_left' (leBytes_length _ _),
        ofLeBytes_leBytes (by omega), lists.count]

def emptyMailbox : Mailbox where
  curTime := 100
  days _ := 0
  getMItem _ := none

def plainLetter : ListedMail where
  messageID := 1
  messageType := mailNormal
  stationery := 41
  mailTemplateId := 0
  sender := 7
  subject := []
  body := []
  items := []
  expireTime := 200
  deliverTime := 100
  money := 0
  cod := 0
  checked := 0
  deleted := false

/-- It has 54 bytes and announces 50. -/
theorem not_listsReadably_plain : ¬ ListsReadably emptyMailbox [plainLetter] := by
  rintro ⟨packet, blocks, handled, readable⟩
  have sizes : (mailListPacket emptyMailbox [plainLetter]).map
      (fun result => result.2.map fun block => (ofLeBytes (block.take 2), block.length)) =
        some [(50, 54)] := by
    decide +kernel
  rw [handled, Option.map_some, Option.some.injEq] at sizes
  obtain ⟨block, rest, same, isBlock, -⟩ := List.map_eq_cons_iff.mp sizes
  have isBlocks : blocks = block :: rest := same
  have announced := readable.announced block (isBlocks ▸ List.mem_cons_self)
  rw [Prod.mk.injEq] at isBlock
  unfold Announced at announced
  omega

end DarkCore.Mails
