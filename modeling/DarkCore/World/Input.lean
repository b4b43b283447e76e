/-
The receiving side of `WorldSocket`: header, payload and chunk, as
`handle_input_missing_data` moves bytes between them.

`stepByte` is the same machine fed one byte at a time.  The loop over a chunk is
shown to be its fold, so a stream may be cut anywhere.
-/

import DarkCore.Shared.BigNumber

namespace DarkCore.World

open Lib

/-! ### Packets -/

structure Packet where
  opcode : Nat
  payload : Bytes
  deriving DecidableEq, Repr

def cmsgPing : Nat := 0x064E
def cmsgAuthSession : Nat := 0x0E0E
def cmsgKeepAlive : Nat := 0x2CE0

structure ClientPktHeader where
  size : Nat
  cmd : Nat
  deriving DecidableEq, Repr

/-- `sizeof(ClientPktHeader)`, packed. -/
def sizeofClientPktHeader : Nat := 6

/-- The size is big-endian on the wire, the command little-endian. -/
def ClientPktHeader.ofBytes (bytes : Bytes) : ClientPktHeader :=
  { size := ofLeBytes (bytes.take 2).reverse
    cmd := ofLeBytes ((bytes.drop 2).take 4) }

/-! ### The socket -/

/-- What `HandleAuthSession` answers; a cipher is there once `m_Crypt.Init` ran. -/
structure AuthAnswer (World Cipher : Type) where
  ok : Bool
  world : World
  cipher : Option Cipher

/-- The handlers that `ProcessIncoming` calls, and the client cipher, which
encrypts in place. -/
structure Handlers (World Cipher : Type) where
  updateData : Cipher → Bytes → Cipher × Bytes
  updateData_length : ∀ cipher data, (updateData cipher data).2.length = data.length
  handlePing : World → Bool → Bytes → Bool × World
  handleAuthSession : World → Bytes → AuthAnswer World Cipher
  queuePacket : World → Packet → World

/-- `m_RecvWPct`: a packet whose payload has its size but not yet its bytes. -/
structure PendingPacket where
  opcode : Nat
  size : Nat
  deriving DecidableEq, Repr

structure WorldSocket (World Cipher : Type) where
  header : Bytes
  recvWPct : Option PendingPacket
  recvPct : Bytes
  crypt : Option Cipher
  hasSession : Bool
  world : World
  closing : Bool
  /-- Packets handed to `ProcessIncoming`. -/
  processed : List Packet
  /-- Bytes taken from the stream, and their number at a malformed header. -/
  taken : Nat
  rejectedAt : Option Nat

variable {World Cipher : Type}

namespace WorldSocket

def initial (world : World) : WorldSocket World Cipher :=
  { header := []
    recvWPct := none
    recvPct := []
    crypt := none
    hasSession := false
    world := world
    closing := false
    processed := []
    taken := 0
    rejectedAt := none }

/-- `m_Header.space()`. -/
def headerSpace (socket : WorldSocket World Cipher) : Nat :=
  sizeofClientPktHeader - socket.header.length

/-- `m_RecvPct.space()`. -/
def recvPctSpace (socket : WorldSocket World Cipher) : Nat :=
  match socket.recvWPct with
  | none => 0
  | some pending => pending.size - socket.recvPct.length

def decryptRecv (handlers : Handlers World Cipher) (crypt : Option Cipher) (data : Bytes) :
    Option Cipher × Bytes :=
  match crypt with
  | none => (none, data)
  | some cipher =>
    let (cipher, data) := handlers.updateData cipher data
    (some cipher, data)

def handleInputHeader (handlers : Handlers World Cipher) (socket : WorldSocket World Cipher) :
    Bool × WorldSocket World Cipher :=
  let (crypt, data) := decryptRecv handlers socket.crypt socket.header
  let socket := { socket with crypt := crypt, header := data }
  let header := ClientPktHeader.ofBytes data
  if header.size < 4 ∨ header.size > 10240 then
    (false, { socket with rejectedAt := some socket.taken })
  else
    (true, { socket with recvWPct := some ⟨header.cmd % 65536, header.size - 4⟩ })

def processIncoming (handlers : Handlers World Cipher) (packet : Packet)
    (socket : WorldSocket World Cipher) : Bool × WorldSocket World Cipher :=
  if socket.closing then (false, socket)
  else if packet.opcode = cmsgPing then
    let (ok, world) := handlers.handlePing socket.world socket.hasSession packet.payload
    (ok, { socket with world := world })
  else if packet.opcode = cmsgAuthSession then
    if socket.hasSession then (false, socket)
    else
      let answer := handlers.handleAuthSession socket.world packet.payload
      match answer.cipher with
      | none => (answer.ok, { socket with world := answer.world })
      | some cipher =>
        (answer.ok, { socket with world := answer.world, hasSession := true, crypt := some cipher })
  else if packet.opcode = cmsgKeepAlive then (true, socket)
  else if socket.hasSession then
    (true, { socket with world := handlers.queuePacket socket.world packet })
  else (false, socket)

def handleInputPayload (handlers : Handlers World Cipher) (pending : PendingPacket)
    (socket : WorldSocket World Cipher) : Bool × WorldSocket World Cipher :=
  let packet : Packet := ⟨pending.opcode, socket.recvPct⟩
  let (ok, socket) := processIncoming handlers packet
    { socket with processed := socket.processed ++ [packet] }
  (ok, { socket with recvPct := [], recvWPct := none, header := [] })

/-! ### One chunk -/

/-- `m_Header.copy` from the chunk. -/
def takeHeaderBytes (bytes : Bytes) (socket : WorldSocket World Cipher) :
    WorldSocket World Cipher :=
  { socket with header := socket.header ++ bytes, taken := socket.taken + bytes.length }

/-- `m_RecvPct.copy` from the chunk. -/
def takePayloadBytes (bytes : Bytes) (socket : WorldSocket World Cipher) :
    WorldSocket World Cipher :=
  { socket with recvPct := socket.recvPct ++ bytes, taken := socket.taken + bytes.length }

/-- How the loop over a chunk ends, or that it goes on. -/
inductive Progress where
  | more
  | wouldBlock
  | failed
  deriving DecidableEq, Repr

def receiveHeader (handlers : Handlers World Cipher) (block : Bytes)
    (socket : WorldSocket World Cipher) : Progress × Bytes × WorldSocket World Cipher :=
  if 0 < socket.headerSpace then
    let toHeader := min block.length socket.headerSpace
    let socket := takeHeaderBytes (block.take toHeader) socket
    let block := block.drop toHeader
    if 0 < socket.headerSpace then (.wouldBlock, block, socket)
    else
      match handleInputHeader handlers socket with
      | (false, socket) => (.failed, block, socket)
      | (true, socket) => (.more, block, socket)
  else (.more, block, socket)

def receivePayload (handlers : Handlers World Cipher) (block : Bytes)
    (socket : WorldSocket World Cipher) : Progress × Bytes × WorldSocket World Cipher :=
  match socket.recvWPct with
  | none => (.failed, block, socket)
  | some pending =>
    -- Without space left this copies nothing.
    let toData := min block.length socket.recvPctSpace
    let socket := takePayloadBytes (block.take toData) socket
    let block := block.drop toData
    if 0 < socket.recvPctSpace then (.wouldBlock, block, socket)
    else
      match handleInputPayload handlers pending socket with
      | (false, socket) => (.failed, block, socket)
      | (true, socket) => (.more, block, socket)

/-- The loop of `handle_input_missing_data`; every turn takes a byte, so the fuel
that `handleInput` gives is enough. -/
def missingDataLoop (handlers : Handlers World Cipher) : Nat → Bytes →
    WorldSocket World Cipher → Progress × WorldSocket World Cipher
  | 0, _, socket => (.more, socket)
  | fuel + 1, block, socket =>
    if block.isEmpty then (.more, socket)
    else
      match receiveHeader handlers block socket with
      | (.more, block, socket) =>
        match receivePayload handlers block socket with
        | (.more, block, socket) => missingDataLoop handlers fuel block socket
        | (progress, _, socket) => (progress, socket)
      | (progress, _, socket) => (progress, socket)

def close (socket : WorldSocket World Cipher) : WorldSocket World Cipher :=
  { socket with closing := true }

def closeFailed : Progress × WorldSocket World Cipher → WorldSocket World Cipher
  | (.failed, socket) => close socket
  | (_, socket) => socket

/-- `handle_input` with what `recv` returned. -/
def handleInput (handlers : Handlers World Cipher) (socket : WorldSocket World Cipher)
    (chunk : Bytes) : WorldSocket World Cipher :=
  if socket.closing then socket
  else closeFailed (missingDataLoop handlers chunk.length chunk socket)

/-! ### The same machine, byte by byte -/

def closeUnless (answer : Bool × WorldSocket World Cipher) : WorldSocket World Cipher :=
  if answer.1 then answer.2 else close answer.2

def finishPacket (handlers : Handlers World Cipher) (socket : WorldSocket World Cipher) :
    WorldSocket World Cipher :=
  match socket.recvWPct with
  | none => socket
  | some pending =>
    if 0 < socket.recvPctSpace then socket
    else closeUnless (handleInputPayload handlers pending socket)

def finishHeader (handlers : Handlers World Cipher) (socket : WorldSocket World Cipher) :
    WorldSocket World Cipher :=
  match handleInputHeader handlers socket with
  | (false, socket) => close socket
  | (true, socket) => finishPacket handlers socket

def stepByte (handlers : Handlers World Cipher) (socket : WorldSocket World Cipher)
    (byte : UInt8) : WorldSocket World Cipher :=
  if socket.closing then socket
  else
    match socket.recvWPct with
    | none =>
      let socket := takeHeaderBytes [byte] socket
      if 0 < socket.headerSpace then socket else finishHeader handlers socket
    | some _ => finishPacket handlers (takePayloadBytes [byte] socket)

/-- Between two bytes: inside a header, or inside a payload. -/
inductive Ready (socket : WorldSocket World Cipher) : Prop where
  | header (noPacket : socket.recvWPct = none) (space : 0 < socket.headerSpace)
      (fresh : socket.recvPct = [])
  | payload (full : socket.headerSpace = 0) (space : 0 < socket.recvPctSpace)

section Steps

variable (handlers : Handlers World Cipher)

variable {socket : WorldSocket World Cipher} {pending : PendingPacket} {block : Bytes}

theorem stepByte_closing (closing : socket.closing = true)
    (bytes : Bytes) : bytes.foldl (stepByte handlers) socket = socket := by
  induction bytes with
  | nil => rfl
  | cons byte rest ih =>
    have stays : stepByte handlers socket byte = socket := by
      simp_all [stepByte]
    rw [List.foldl_cons, stays, ih]

theorem takeHeaderBytes_append (first second : Bytes) (socket : WorldSocket World Cipher) :
    takeHeaderBytes second (takeHeaderBytes first socket) =
      takeHeaderBytes (first ++ second) socket := by
  unfold takeHeaderBytes
  simp only [List.append_assoc, List.length_append, Nat.add_assoc]

theorem takePayloadBytes_append (first second : Bytes) (socket : WorldSocket World Cipher) :
    takePayloadBytes second (takePayloadBytes first socket) =
      takePayloadBytes (first ++ second) socket := by
  unfold takePayloadBytes
  simp only [List.append_assoc, List.length_append, Nat.add_assoc]

theorem headerSpace_take (bytes : Bytes) (socket : WorldSocket World Cipher) :
    (takeHeaderBytes bytes socket).headerSpace = socket.headerSpace - bytes.length := by
  unfold headerSpace takeHeaderBytes
  simp only [List.length_append]
  omega

theorem recvPctSpace_take (bytes : Bytes) (socket : WorldSocket World Cipher) :
    (takePayloadBytes bytes socket).recvPctSpace = socket.recvPctSpace - bytes.length := by
  unfold recvPctSpace takePayloadBytes
  cases socket.recvWPct with
  | none => simp
  | some pending =>
    grind

theorem foldl_header (alive : socket.closing = false)
    (noPacket : socket.recvWPct = none) (bytes : Bytes) (nonempty : bytes ≠ [])
    (within : bytes.length ≤ socket.headerSpace) :
    bytes.foldl (stepByte handlers) socket =
      if bytes.length < socket.headerSpace then takeHeaderBytes bytes socket
      else finishHeader handlers (takeHeaderBytes bytes socket) := by
  induction bytes generalizing socket with
  | nil => exact absurd rfl nonempty
  | cons byte rest ih =>
    have space := headerSpace_take [byte] socket
    have one : stepByte handlers socket byte =
        if 0 < (takeHeaderBytes [byte] socket).headerSpace then takeHeaderBytes [byte] socket
        else finishHeader handlers (takeHeaderBytes [byte] socket) := by
      simp_all [stepByte]
    simp only [List.length_cons, List.length_nil] at space within ⊢
    rw [List.foldl_cons, one]
    cases rest with
    | nil =>
      simp [space, List.length_nil, List.foldl_nil, zero_add]
    | cons next others =>
      have stillOpen : 0 < (takeHeaderBytes [byte] socket).headerSpace := by
        grind
      have rest := @ih (takeHeaderBytes [byte] socket) alive noPacket
        (List.cons_ne_nil next others) (by simp only [List.length_cons] at within ⊢; omega)
      rw [if_pos stillOpen, rest, takeHeaderBytes_append, space]
      simp only [List.length_cons, List.cons_append, List.nil_append]
      by_cases more : others.length + 1 + 1 < socket.headerSpace
      · rw [if_pos (by omega), if_pos more]
      · rw [if_neg (by omega), if_neg more]

theorem finishPacket_open
    (space : 0 < socket.recvPctSpace) : finishPacket handlers socket = socket := by
  unfold finishPacket
  split
  · rfl
  · rw [if_pos space]

theorem foldl_payload (alive : socket.closing = false)
    (bytes : Bytes) (nonempty : bytes ≠ []) (within : bytes.length ≤ socket.recvPctSpace) :
    bytes.foldl (stepByte handlers) socket =
      finishPacket handlers (takePayloadBytes bytes socket) := by
  induction bytes generalizing socket with
  | nil => exact absurd rfl nonempty
  | cons byte rest ih =>
    have space := recvPctSpace_take [byte] socket
    have one : stepByte handlers socket byte =
        finishPacket handlers (takePayloadBytes [byte] socket) := by
      unfold stepByte
      rw [if_neg (by simp [alive])]
      cases pending : socket.recvWPct with
      | none =>
        simp_all [recvPctSpace]
      | some packet => rfl
    simp only [List.length_cons, List.length_nil] at space within
    rw [List.foldl_cons, one]
    cases rest with
    | nil => rfl
    | cons next others =>
      have stillOpen : 0 < (takePayloadBytes [byte] socket).recvPctSpace := by
        grind
      have rest := @ih (takePayloadBytes [byte] socket) alive (List.cons_ne_nil next others)
        (by simp only [List.length_cons] at within ⊢; omega)
      rw [finishPacket_open handlers stillOpen, rest, takePayloadBytes_append]
      rfl

/-! ### The loop is the fold -/

def settle : Progress × Bytes × WorldSocket World Cipher → WorldSocket World Cipher
  | (.more, rest, socket) => rest.foldl (stepByte handlers) socket
  | (.wouldBlock, _, socket) => socket
  | (.failed, _, socket) => close socket

theorem processIncoming_closing (packet : Packet) (socket : WorldSocket World Cipher) :
    (processIncoming handlers packet socket).2.closing = socket.closing := by
  unfold processIncoming
  split
  · rfl
  · grind

theorem foldl_closeUnless (answer : Bool × WorldSocket World Cipher) (rest : Bytes) :
    rest.foldl (stepByte handlers) (closeUnless answer) =
      settle handlers (if answer.1 then .more else .failed, rest, answer.2) := by
  unfold closeUnless
  cases answer.1 with
  | true => rfl
  | false =>
    rw [if_neg (by decide), if_neg (by decide)]
    exact stepByte_closing handlers rfl rest

theorem takePayloadBytes_nil (socket : WorldSocket World Cipher) :
    takePayloadBytes [] socket = socket := by
  unfold takePayloadBytes
  simp only [List.append_nil, List.length_nil, Nat.add_zero]

theorem receivePayload_eq
    (packet : socket.recvWPct = some pending) (block : Bytes) :
    receivePayload handlers block socket =
      let toData := min block.length socket.recvPctSpace
      let got := takePayloadBytes (block.take toData) socket
      let answer := handleInputPayload handlers pending got
      if 0 < got.recvPctSpace then (.wouldBlock, block.drop toData, got)
      else (if answer.1 then .more else .failed, block.drop toData, answer.2) := by
  unfold receivePayload
  simp only [packet]
  split
  · rfl
  · rcases handleInputPayload handlers pending _ with ⟨_ | _, after⟩ <;> rfl

theorem finishPacket_full
    (packet : socket.recvWPct = some pending) (full : ¬ 0 < socket.recvPctSpace) :
    finishPacket handlers socket = closeUnless (handleInputPayload handlers pending socket) := by
  unfold finishPacket
  simp only [packet]
  rw [if_neg full]

theorem foldl_finishPacket
    (alive : socket.closing = false) (packet : socket.recvWPct = some pending) (block : Bytes) :
    block.foldl (stepByte handlers) (finishPacket handlers socket) =
      settle handlers (receivePayload handlers block socket) := by
  have space := recvPctSpace_take (block.take (min block.length socket.recvPctSpace)) socket
  rw [List.length_take, Nat.min_eq_left (Nat.min_le_left _ _)] at space
  rw [receivePayload_eq handlers packet]
  by_cases full : 0 < socket.recvPctSpace
  · rw [finishPacket_open handlers full]
    by_cases short : block.length < socket.recvPctSpace
    · -- The chunk ends inside the payload.
      rw [if_pos (by omega), Nat.min_eq_left (by omega), List.take_length]
      unfold settle
      cases block with
      | nil => rw [takePayloadBytes_nil, List.foldl_nil]
      | cons byte rest =>
        rw [foldl_payload handlers alive _ (List.cons_ne_nil byte rest) (by omega)]
        apply finishPacket_open
        rw [recvPctSpace_take]
        omega
    · rw [if_neg (by omega), Nat.min_eq_right (by omega), ← foldl_closeUnless]
      have complete : (block.take socket.recvPctSpace).foldl (stepByte handlers) socket =
          closeUnless (handleInputPayload handlers pending
            (takePayloadBytes (block.take socket.recvPctSpace) socket)) := by
        have length : (block.take socket.recvPctSpace).length = socket.recvPctSpace := by
          simp_all
        have nonempty : block.take socket.recvPctSpace ≠ [] := by
          grind
        have samePacket : (takePayloadBytes (block.take socket.recvPctSpace) socket).recvWPct =
            some pending := packet
        rw [foldl_payload handlers alive _ nonempty (by omega)]
        apply finishPacket_full handlers samePacket
        rw [recvPctSpace_take]
        omega
      rw [← complete, ← List.foldl_append, List.take_append_drop]
  · -- An empty payload is complete as soon as its header is.
    have none : socket.recvPctSpace = 0 := by
      omega
    rw [finishPacket_full handlers packet full]
    rw [none] at space ⊢
    rw [if_neg (by rw [Nat.min_zero] at space ⊢; omega), ← foldl_closeUnless, Nat.min_zero,
      List.take_zero, List.drop_zero, takePayloadBytes_nil]

theorem handleInputHeader_spec (socket : WorldSocket World Cipher) :
    (handleInputHeader handlers socket).2.closing = socket.closing ∧
      (handleInputHeader handlers socket).2.headerSpace = socket.headerSpace ∧
      ((handleInputHeader handlers socket).1 = true →
        ∃ pending, (handleInputHeader handlers socket).2.recvWPct = some pending) := by
  have length : (decryptRecv handlers socket.crypt socket.header).2.length =
      socket.header.length := by
    unfold decryptRecv
    cases socket.crypt with
    | none => rfl
    | some cipher => exact handlers.updateData_length cipher socket.header
  have sameSpace : sizeofClientPktHeader -
      (decryptRecv handlers socket.crypt socket.header).2.length = socket.headerSpace := by
    rw [length]
    rfl
  unfold handleInputHeader
  dsimp only
  split
  · refine ⟨rfl, sameSpace, ?_⟩
    intro accepted
    cases accepted
  · exact ⟨rfl, sameSpace, fun _ => ⟨_, rfl⟩⟩

theorem foldl_finishHeader (socket : WorldSocket World Cipher) (rest : Bytes)
    (alive : socket.closing = false) :
    rest.foldl (stepByte handlers) (finishHeader handlers socket) =
      if (handleInputHeader handlers socket).1 then
        settle handlers (receivePayload handlers rest (handleInputHeader handlers socket).2)
      else close (handleInputHeader handlers socket).2 := by
  obtain ⟨sameClosing, _, packet⟩ := handleInputHeader_spec handlers socket
  unfold finishHeader
  rcases answer : handleInputHeader handlers socket with ⟨_ | _, after⟩
  · exact stepByte_closing handlers rfl rest
  · rw [answer] at sameClosing packet
    obtain ⟨pending, isPending⟩ := packet rfl
    rw [if_pos rfl]
    exact foldl_finishPacket handlers (sameClosing.trans alive) isPending rest

def loopBody (block : Bytes) (socket : WorldSocket World Cipher) :
    Progress × Bytes × WorldSocket World Cipher :=
  match receiveHeader handlers block socket with
  | (.more, block, socket) => receivePayload handlers block socket
  | stopped => stopped

theorem loopBody_settle
    (alive : socket.closing = false) (ready : Ready socket) (nonempty : block ≠ []) :
    block.foldl (stepByte handlers) socket = settle handlers (loopBody handlers block socket) := by
  cases ready with
  | payload full space =>
    have packet : ∃ pending, socket.recvWPct = some pending := by
      cases pending : socket.recvWPct with
      | none =>
        simp_all [recvPctSpace]
      | some packet => exact ⟨packet, rfl⟩
    obtain ⟨pending, isPending⟩ := packet
    have skipped : receiveHeader handlers block socket = (.more, block, socket) := by
      simp_all [receiveHeader]
    unfold loopBody
    rw [skipped]
    have whole := foldl_finishPacket handlers alive isPending block
    rw [finishPacket_open handlers space] at whole
    exact whole
  | header noPacket space fresh =>
    have lengthPos : 0 < block.length := List.length_pos_iff.mpr nonempty
    unfold loopBody receiveHeader
    rw [if_pos space]
    dsimp only
    rw [headerSpace_take, List.length_take, Nat.min_eq_left (Nat.min_le_left _ _)]
    by_cases short : block.length < socket.headerSpace
    · -- The chunk ends inside the header.
      rw [if_pos (by omega), Nat.min_eq_left (by omega), List.take_length,
        foldl_header handlers alive noPacket block nonempty (by omega), if_pos short]
      rfl
    · rw [if_neg (by omega), Nat.min_eq_right (by omega)]
      have length : (block.take socket.headerSpace).length = socket.headerSpace := by
        simp_all
      have first : (block.take socket.headerSpace).foldl (stepByte handlers) socket =
          finishHeader handlers (takeHeaderBytes (block.take socket.headerSpace) socket) := by
        have some : block.take socket.headerSpace ≠ [] := by
          grind
        rw [foldl_header handlers alive noPacket _ some (by omega), if_neg (by omega)]
      have split : block.foldl (stepByte handlers) socket =
          (block.drop socket.headerSpace).foldl (stepByte handlers)
            (finishHeader handlers (takeHeaderBytes (block.take socket.headerSpace) socket)) := by
        rw [← first, ← List.foldl_append, List.take_append_drop]
      rw [split, foldl_finishHeader handlers
        (takeHeaderBytes (block.take socket.headerSpace) socket) _ alive]
      rcases handleInputHeader handlers (takeHeaderBytes (block.take socket.headerSpace) socket)
        with ⟨_ | _, after⟩
      · rfl
      · rfl

theorem handleInputPayload_ready (pending : PendingPacket) (socket : WorldSocket World Cipher) :
    (handleInputPayload handlers pending socket).2.closing = socket.closing ∧
      Ready (handleInputPayload handlers pending socket).2 := by
  constructor
  · unfold handleInputPayload
    exact processIncoming_closing handlers _ _
  · exact Ready.header rfl (Nat.zero_lt_succ 5) rfl

theorem receivePayload_more {rest : Bytes} {after : WorldSocket World Cipher}
    (alive : socket.closing = false)
    (goesOn : receivePayload handlers block socket = (.more, rest, after)) :
    rest = block.drop (min block.length socket.recvPctSpace) ∧ after.closing = false ∧
      Ready after := by
  cases packet : socket.recvWPct with
  | none =>
    simp_all [receivePayload]
  | some pending =>
    rw [receivePayload_eq handlers packet] at goesOn
    dsimp only at goesOn
    obtain ⟨sameClosing, ready⟩ := handleInputPayload_ready handlers pending
      (takePayloadBytes (block.take (min block.length socket.recvPctSpace)) socket)
    split at goesOn
    · cases goesOn
    · rw [Prod.mk.injEq, Prod.mk.injEq] at goesOn
      obtain ⟨_, rfl, rfl⟩ := goesOn
      exact ⟨rfl, sameClosing.trans alive, ready⟩

theorem loopBody_more {rest : Bytes} {after : WorldSocket World Cipher}
    (alive : socket.closing = false) (ready : Ready socket) (nonempty : block ≠ [])
    (goesOn : loopBody handlers block socket = (.more, rest, after)) :
    rest.length < block.length ∧ after.closing = false ∧ Ready after := by
  have lengthPos : 0 < block.length := List.length_pos_iff.mpr nonempty
  unfold loopBody at goesOn
  cases ready with
  | payload full space =>
    have skipped : receiveHeader handlers block socket = (.more, block, socket) := by
      simp_all [receiveHeader]
    rw [skipped] at goesOn
    obtain ⟨rfl, stillAlive, next⟩ := receivePayload_more handlers alive goesOn
    refine ⟨?_, stillAlive, next⟩
    rw [List.length_drop]
    omega
  | header noPacket space fresh =>
    unfold receiveHeader at goesOn
    rw [if_pos space] at goesOn
    dsimp only at goesOn
    split at goesOn
    · next block' socket' received =>
        split at received
        · cases received
        · split at received
          · cases received
          · next headed answer =>
              rw [Prod.mk.injEq, Prod.mk.injEq] at received
              obtain ⟨_, rfl, rfl⟩ := received
              obtain ⟨sameClosing, _, _⟩ := handleInputHeader_spec handlers
                (takeHeaderBytes (block.take (min block.length socket.headerSpace)) socket)
              rw [answer] at sameClosing
              obtain ⟨rfl, stillAlive, next⟩ :=
                receivePayload_more handlers (sameClosing.trans alive) goesOn
              refine ⟨?_, stillAlive, next⟩
              rw [List.length_drop, List.length_drop]
              omega
    · simp_all

theorem missingDataLoop_succ (nonempty : block ≠ []) (fuel : Nat)
    (socket : WorldSocket World Cipher) :
    missingDataLoop handlers (fuel + 1) block socket =
      match loopBody handlers block socket with
      | (.more, rest, socket) => missingDataLoop handlers fuel rest socket
      | (progress, _, socket) => (progress, socket) := by
  rw [missingDataLoop, if_neg (by simpa using nonempty)]
  unfold loopBody
  rcases receiveHeader handlers block socket with ⟨_ | _ | _, rest, headed⟩
  · rcases receivePayload handlers rest headed with ⟨_ | _ | _, others, after⟩ <;> rfl
  · rfl
  · rfl

theorem missingDataLoop_foldl (fuel : Nat) (block : Bytes) (socket : WorldSocket World Cipher)
    (enough : block.length ≤ fuel) (alive : socket.closing = false) (ready : Ready socket) :
    closeFailed (missingDataLoop handlers fuel block socket) =
      block.foldl (stepByte handlers) socket := by
  induction fuel generalizing block socket with
  | zero =>
    have empty : block = [] := List.length_eq_zero_iff.mp (Nat.le_zero.mp enough)
    rw [empty]
    rfl
  | succ fuel ih =>
    by_cases nonempty : block = []
    · rw [nonempty]
      rfl
    · rw [missingDataLoop_succ handlers nonempty, loopBody_settle handlers alive ready nonempty]
      rcases turn : loopBody handlers block socket with ⟨_ | _ | _, rest, after⟩
      · obtain ⟨shorter, stillAlive, stillReady⟩ :=
          loopBody_more handlers alive ready nonempty turn
        exact ih rest after (by omega) stillAlive stillReady
      · rfl
      · rfl

/-! ### Streams in chunks -/

theorem closeUnless_ready (pending : PendingPacket) (socket : WorldSocket World Cipher) :
    (closeUnless (handleInputPayload handlers pending socket)).closing = true ∨
      Ready (closeUnless (handleInputPayload handlers pending socket)) := by
  unfold closeUnless
  split
  · exact Or.inr (handleInputPayload_ready handlers pending socket).2
  · exact Or.inl rfl

theorem finishPacket_ready
    (packet : socket.recvWPct = some pending) (full : socket.headerSpace = 0) :
    (finishPacket handlers socket).closing = true ∨ Ready (finishPacket handlers socket) := by
  by_cases space : 0 < socket.recvPctSpace
  · rw [finishPacket_open handlers space]
    exact Or.inr (Ready.payload full space)
  · rw [finishPacket_full handlers packet space]
    exact closeUnless_ready handlers pending socket

theorem stepByte_ready (byte : UInt8)
    (alive : socket.closing = false) (ready : Ready socket) :
    (stepByte handlers socket byte).closing = true ∨ Ready (stepByte handlers socket byte) := by
  unfold stepByte
  rw [if_neg (by simp [alive])]
  cases ready with
  | header noPacket space fresh =>
    simp only [noPacket]
    by_cases more : 0 < (takeHeaderBytes [byte] socket).headerSpace
    · rw [if_pos more]
      exact Or.inr (Ready.header noPacket more fresh)
    · rw [if_neg more]
      obtain ⟨_, sameSpace, packet⟩ :=
        handleInputHeader_spec handlers (takeHeaderBytes [byte] socket)
      unfold finishHeader
      rcases answer : handleInputHeader handlers (takeHeaderBytes [byte] socket)
        with ⟨_ | _, after⟩
      · exact Or.inl rfl
      · rw [answer] at sameSpace packet
        obtain ⟨pending, isPending⟩ := packet rfl
        have full : after.headerSpace = 0 := by
          simp_all
        exact finishPacket_ready handlers isPending full
  | payload full space =>
    cases packet : socket.recvWPct with
    | none =>
      simp_all [recvPctSpace]
    | some pending =>
      exact finishPacket_ready handlers
        (show (takePayloadBytes [byte] socket).recvWPct = some pending from packet) full

theorem foldl_ready (bytes : Bytes) (socket : WorldSocket World Cipher)
    (ready : socket.closing = true ∨ Ready socket) :
    (bytes.foldl (stepByte handlers) socket).closing = true ∨
      Ready (bytes.foldl (stepByte handlers) socket) := by
  induction bytes generalizing socket with
  | nil => exact ready
  | cons byte rest ih =>
    apply ih
    by_cases closing : socket.closing = true
    · simp_all [stepByte]
    · rcases ready with already | inside
      · exact absurd already closing
      · exact stepByte_ready handlers byte (Bool.eq_false_of_not_eq_true closing) inside

theorem handleInput_foldl (chunk : Bytes) (socket : WorldSocket World Cipher)
    (ready : socket.closing = true ∨ Ready socket) :
    handleInput handlers socket chunk = chunk.foldl (stepByte handlers) socket := by
  unfold handleInput
  by_cases closing : socket.closing = true
  · rw [if_pos closing, stepByte_closing handlers closing]
  · rw [if_neg closing]
    rcases ready with already | inside
    · exact absurd already closing
    · exact missingDataLoop_foldl handlers _ chunk socket le_rfl
        (Bool.eq_false_of_not_eq_true closing) inside

theorem handleInputs_foldl (chunks : List Bytes) (socket : WorldSocket World Cipher)
    (ready : socket.closing = true ∨ Ready socket) :
    chunks.foldl (handleInput handlers) socket =
      chunks.flatten.foldl (stepByte handlers) socket := by
  induction chunks generalizing socket with
  | nil => rfl
  | cons chunk rest ih =>
    rw [List.foldl_cons, List.flatten_cons, List.foldl_append,
      handleInput_foldl handlers chunk socket ready]
    exact ih _ (foldl_ready handlers chunk socket ready)

end Steps

/-- However a stream is cut into chunks, the socket ends as if it had come in one:
with the same packets handed to `ProcessIncoming`, the same position of a malformed
header, the same cipher and the same partial header and payload. -/
theorem handleInput_chunked_eq_whole (handlers : Handlers World Cipher) (world : World)
    (chunks : List Bytes) :
    chunks.foldl (handleInput handlers) (initial world) =
      handleInput handlers (initial world) chunks.flatten := by
  have ready : (initial world : WorldSocket World Cipher).closing = true ∨
      Ready (initial world : WorldSocket World Cipher) :=
    Or.inr (Ready.header rfl (Nat.zero_lt_succ 5) rfl)
  rw [handleInputs_foldl handlers chunks _ ready, handleInput_foldl handlers chunks.flatten _ ready]

end WorldSocket

end DarkCore.World
