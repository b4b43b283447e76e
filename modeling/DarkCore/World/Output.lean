/-
The sending side of `WorldSocket`: the fixed output buffer, the message queue
behind it, and the writes that drain them.

A run is any sequence of `SendPacket` calls, `handle_output` calls and key
installations.  The bytes delivered, buffered and queued are those of the packets
sent, as long as a block that goes back to the head of the queue finds room.
-/

import DarkCore.World.Input

namespace DarkCore.World

open Lib

def opcodeNotFound : Nat := 0x10000

/-- `ServerPktHeader`: three size bytes for a large packet, else two, and the low
half of the opcode. -/
def serverPktHeader (size cmd : Nat) : Bytes :=
  (if size > 0x7FFF then [(0x80 : UInt8) ||| UInt8.ofNat (size >>> 16)] else []) ++
    [UInt8.ofNat (size >>> 8), UInt8.ofNat size, UInt8.ofNat cmd, UInt8.ofNat (cmd >>> 8)]

/-- A queued block; its allocated size counts towards the high-water mark, also
after a part of it is sent. -/
structure MessageBlock where
  size : Nat
  data : Bytes
  deriving DecidableEq, Repr

/-- `msg_queue()->high_water_mark`. -/
def highWaterMark : Nat := 8 * 1024 * 1024

/-- One call of `SendPacket`: the packet with its encrypted header, and the answer. -/
structure SendCall where
  packet : Packet
  wire : Bytes
  answer : Int
  deriving DecidableEq, Repr

structure OutSocket (Cipher : Type) where
  outBuffer : Bytes
  msgQueue : List MessageBlock
  crypt : Option Cipher
  closing : Bool
  outActive : Bool
  delivered : Bytes
  calls : List SendCall

namespace OutSocket

variable {Cipher : Type}

def initial : OutSocket Cipher :=
  { outBuffer := []
    msgQueue := []
    crypt := none
    closing := false
    outActive := true
    delivered := []
    calls := [] }

def queueBytes (queue : List MessageBlock) : Nat := (queue.map (·.size)).sum

def isFull (queue : List MessageBlock) : Bool := highWaterMark ≤ queueBytes queue

def encryptSend (updateData : Cipher → Bytes → Cipher × Bytes) (crypt : Option Cipher)
    (data : Bytes) : Option Cipher × Bytes :=
  match crypt with
  | none => (none, data)
  | some cipher =>
    let (cipher, data) := updateData cipher data
    (some cipher, data)

def wireBytes (updateData : Cipher → Bytes → Cipher × Bytes) (packet : Packet)
    (socket : OutSocket Cipher) : Bytes :=
  (encryptSend updateData socket.crypt
    (serverPktHeader (packet.payload.length + 2) packet.opcode)).2 ++ packet.payload

section Operations

variable (updateData : Cipher → Bytes → Cipher × Bytes) (outBufferSize : Nat)

def sendPacket (packet : Packet) (socket : OutSocket Cipher) : Int × OutSocket Cipher :=
  if socket.closing then (-1, socket)
  else if packet.opcode > opcodeNotFound then (0, socket)
  else
    let wire := wireBytes updateData packet socket
    let crypt := (encryptSend updateData socket.crypt
      (serverPktHeader (packet.payload.length + 2) packet.opcode)).1
    let socket := { socket with crypt := crypt }
    if wire.length ≤ outBufferSize - socket.outBuffer.length ∧ socket.msgQueue.isEmpty then
      (0, { socket with outBuffer := socket.outBuffer ++ wire })
    else if isFull socket.msgQueue then (-1, socket)
    else (0, { socket with msgQueue := socket.msgQueue ++ [⟨wire.length, wire⟩] })

inductive Write where
  | accept (count : Nat)
  | again
  | error
  deriving DecidableEq, Repr

def cancelWakeupOutput (socket : OutSocket Cipher) : Int × OutSocket Cipher :=
  (0, { socket with outActive := false })

def scheduleWakeupOutput (socket : OutSocket Cipher) : Int × OutSocket Cipher :=
  (0, { socket with outActive := true })

def writeMask : Int := 2

def deliver (bytes : Bytes) (socket : OutSocket Cipher) : OutSocket Cipher :=
  { socket with delivered := socket.delivered ++ bytes }

def handleOutputQueue (write : Write) (socket : OutSocket Cipher) : Int × OutSocket Cipher :=
  match socket.msgQueue with
  | [] => cancelWakeupOutput socket
  | block :: queue =>
    let socket := { socket with msgQueue := queue }
    match write with
    | .error => (-1, socket)
    | .again =>
      -- The answer of `enqueue_head` is not looked at here.
      if isFull queue then scheduleWakeupOutput socket
      else scheduleWakeupOutput { socket with msgQueue := block :: queue }
    | .accept count =>
      let n := min count block.data.length
      if n = 0 then (-1, socket)
      else
        let socket := deliver (block.data.take n) socket
        if n < block.data.length then
          if isFull queue then (-1, socket)
          else
            scheduleWakeupOutput
              { socket with msgQueue := ⟨block.size, block.data.drop n⟩ :: queue }
        else if queue.isEmpty then cancelWakeupOutput socket
        else (writeMask, socket)

def handleOutput (bufferWrite queueWrite : Write) (socket : OutSocket Cipher) :
    Int × OutSocket Cipher :=
  if socket.closing then (-1, socket)
  else if socket.outBuffer.isEmpty then handleOutputQueue queueWrite socket
  else
    match bufferWrite with
    | .error => (-1, socket)
    | .again => scheduleWakeupOutput socket
    | .accept count =>
      let n := min count socket.outBuffer.length
      if n = 0 then (-1, socket)
      else
        let sent := deliver (socket.outBuffer.take n) socket
        if n < socket.outBuffer.length then
          scheduleWakeupOutput { sent with outBuffer := socket.outBuffer.drop n }
        else handleOutputQueue queueWrite { sent with outBuffer := [] }

inductive Op (Cipher : Type) where
  | send (packet : Packet)
  | output (bufferWrite queueWrite : Write)
  | install (cipher : Cipher)

def record (call : SendCall) (socket : OutSocket Cipher) : OutSocket Cipher :=
  { socket with calls := socket.calls ++ [call] }

def close (socket : OutSocket Cipher) : OutSocket Cipher := { socket with closing := true }

def step (socket : OutSocket Cipher) : Op Cipher → OutSocket Cipher
  | .send packet =>
    let (answer, after) := sendPacket updateData outBufferSize packet socket
    record ⟨packet, wireBytes updateData packet socket, answer⟩ after
  | .output bufferWrite queueWrite =>
    let (answer, after) := handleOutput bufferWrite queueWrite socket
    if answer = -1 then close after else after
  | .install cipher => { socket with crypt := some cipher }

def run (ops : List (Op Cipher)) (socket : OutSocket Cipher) : OutSocket Cipher :=
  ops.foldl (step updateData outBufferSize) socket

end Operations

def held (socket : OutSocket Cipher) : Bytes :=
  socket.outBuffer ++ (socket.msgQueue.map (·.data)).flatten

def acceptedBytes (calls : List SendCall) : Bytes :=
  ((calls.filter fun call => call.answer = 0).map (·.wire)).flatten

def sentBytes (calls : List SendCall) : Bytes :=
  ((calls.filter fun call => call.answer = 0 ∧ call.packet.opcode ≤ opcodeNotFound).map
    (·.wire)).flatten

def Write.usual : Write → Bool
  | .accept count => 0 < count
  | .again => true
  | .error => false

def Op.usual : Op Cipher → Bool
  | .output bufferWrite queueWrite => bufferWrite.usual && queueWrite.usual
  | _ => true

def Write.takesAll (data : Bytes) : Write → Bool
  | .accept count => data.length ≤ count
  | _ => false

/-- If the operation puts a block back at the head, the rest of the queue is below
the high-water mark. -/
def requeueFits (socket : OutSocket Cipher) : Op Cipher → Bool
  | .output bufferWrite queueWrite =>
    match socket.msgQueue with
    | [] => true
    | block :: queue =>
      !isFull queue || queueWrite.takesAll block.data ||
        !(socket.outBuffer.isEmpty || bufferWrite.takesAll socket.outBuffer)
  | _ => true

section Run

variable (updateData : Cipher → Bytes → Cipher × Bytes) (outBufferSize : Nat)

def requeuesFit : List (Op Cipher) → OutSocket Cipher → Bool
  | [], _ => true
  | op :: rest, socket =>
    requeueFits socket op && requeuesFit rest (step updateData outBufferSize socket op)

/-- Nothing is lost, doubled or out of order. -/
def Balanced (socket : OutSocket Cipher) : Prop :=
  socket.delivered ++ held socket = sentBytes socket.calls

variable {socket : OutSocket Cipher}

theorem balanced_record {call : SendCall} :
    Balanced (record call socket) ↔
      socket.delivered ++ held socket = sentBytes (socket.calls ++ [call]) :=
  Iff.rfl

theorem sentBytes_snoc (calls : List SendCall) (call : SendCall) :
    sentBytes (calls ++ [call]) =
      sentBytes calls ++
        if call.answer = 0 ∧ call.packet.opcode ≤ opcodeNotFound then call.wire else [] := by
  unfold sentBytes
  rw [List.filter_append, List.map_append, List.flatten_append]
  by_cases counted : call.answer = 0 ∧ call.packet.opcode ≤ opcodeNotFound <;> simp [counted]

theorem sendPacket_held (packet : Packet) (socket : OutSocket Cipher) :
    (sendPacket updateData outBufferSize packet socket).2.calls = socket.calls ∧
      (sendPacket updateData outBufferSize packet socket).2.delivered = socket.delivered ∧
      held (sendPacket updateData outBufferSize packet socket).2 =
        held socket ++
          if (sendPacket updateData outBufferSize packet socket).1 = 0 ∧
            packet.opcode ≤ opcodeNotFound then wireBytes updateData packet socket else [] := by
  unfold sendPacket
  split
  · simp [held]
  · split
    · next unsent =>
        have notSent : ¬ packet.opcode ≤ opcodeNotFound := Nat.not_le.mpr unsent
        simp [held, notSent]
    · next sendable =>
        have sent : packet.opcode ≤ opcodeNotFound := Nat.not_lt.mp sendable
        dsimp only
        split
        · next room =>
            have empty : socket.msgQueue = [] := List.isEmpty_iff.mp room.2
            simp [held, sent, empty]
        · split
          · simp [held]
          · simp [held, sent]

theorem step_send_balanced (packet : Packet)
    (balanced : Balanced socket) :
    Balanced (step updateData outBufferSize socket (.send packet)) := by
  obtain ⟨calls, delivered, heldAfter⟩ :=
    sendPacket_held updateData outBufferSize packet socket
  unfold step
  rw [balanced_record, sentBytes_snoc, calls, delivered, heldAfter, ← balanced, List.append_assoc]

structure Moves (before after : OutSocket Cipher) : Prop where
  calls : after.calls = before.calls
  bytes : after.delivered ++ held after = before.delivered ++ held before

theorem Moves.balanced {before after : OutSocket Cipher} (moves : Moves before after)
    (balanced : Balanced before) : Balanced after := by
  unfold Balanced
  rw [moves.bytes, moves.calls]
  exact balanced

/-- With the buffer drained, the queue half of an output call moves bytes from the
head of the queue to the peer, if what is left of the head finds room again. -/
theorem handleOutputQueue_moves {write : Write}
    (drained : socket.outBuffer = []) (usual : write.usual = true)
    (fits : ∀ block queue, socket.msgQueue = block :: queue →
      isFull queue = false ∨ write.takesAll block.data = true) :
    Moves socket (handleOutputQueue write socket).2 := by
  unfold handleOutputQueue
  cases queued : socket.msgQueue with
  | nil => exact ⟨rfl, rfl⟩
  | cons block queue =>
    have heldBefore : held socket = block.data ++ (queue.map (·.data)).flatten := by
      simp [held, drained, queued]
    cases write with
    | error => cases usual
    | again =>
      have room : isFull queue = false := by
        rcases fits block queue queued with room | all
        · exact room
        · cases all
      simp only [room, Bool.false_eq_true, if_false]
      exact ⟨rfl, by rw [heldBefore]; simp [scheduleWakeupOutput, held, drained]⟩
    | accept count =>
      dsimp only
      split
      · next none =>
          -- Only a block without bytes is dropped here.
          have positive : 0 < count := by simpa [Write.usual] using usual
          have empty : block.data = [] := by
            grind
          exact ⟨rfl, by rw [heldBefore, empty]; simp [held, drained]⟩
      · split
        · next short =>
            have room : isFull queue = false := by
              rcases fits block queue queued with room | all
              · exact room
              · simp only [Write.takesAll, decide_eq_true_eq] at all
                omega
            simp only [room, Bool.false_eq_true, if_false]
            refine ⟨rfl, ?_⟩
            rw [heldBefore]
            simp only [scheduleWakeupOutput, deliver, held, drained, List.map_cons,
              List.flatten_cons, List.nil_append, List.append_assoc]
            rw [← List.append_assoc (List.take _ _), List.take_append_drop]
        · next whole =>
            have all : block.data.take (min count block.data.length) = block.data := by
              simp_all
            rw [all]
            split
            · exact ⟨rfl, by rw [heldBefore]; simp [cancelWakeupOutput, deliver, held, drained]⟩
            · exact ⟨rfl, by rw [heldBefore]; simp [deliver, held, drained]⟩

theorem Moves.trans {first second third : OutSocket Cipher} (left : Moves first second)
    (right : Moves second third) : Moves first third :=
  ⟨right.calls.trans left.calls, right.bytes.trans left.bytes⟩

theorem handleOutput_moves {bufferWrite queueWrite : Write}
    (usual : Op.usual (.output bufferWrite queueWrite : Op Cipher) = true)
    (fits : requeueFits socket (.output bufferWrite queueWrite) = true) :
    Moves socket (handleOutput bufferWrite queueWrite socket).2 := by
  obtain ⟨bufferUsual, queueUsual⟩ := Bool.and_eq_true_iff.mp usual
  have room (reached : (socket.outBuffer.isEmpty || bufferWrite.takesAll socket.outBuffer) = true)
      (block : MessageBlock) (queue : List MessageBlock)
      (queued : socket.msgQueue = block :: queue) :
      isFull queue = false ∨ queueWrite.takesAll block.data = true := by
    simp only [requeueFits, queued, reached] at fits
    simpa using fits
  unfold handleOutput
  split
  · exact ⟨rfl, rfl⟩
  · split
    · next empty =>
        exact handleOutputQueue_moves (List.isEmpty_iff.mp empty) queueUsual
          (room (by rw [empty]; rfl))
    · next nonempty =>
        cases bufferWrite with
        | error => cases bufferUsual
        | again => exact ⟨rfl, rfl⟩
        | accept count =>
          dsimp only
          split
          · exact ⟨rfl, rfl⟩
          · split
            · refine ⟨rfl, ?_⟩
              simp only [scheduleWakeupOutput, deliver, held, List.append_assoc]
              rw [← List.append_assoc (List.take _ _), List.take_append_drop]
            · next whole =>
                have all : socket.outBuffer.take (min count socket.outBuffer.length) =
                    socket.outBuffer := by
                  simp_all
                rw [all]
                have reached : (socket.outBuffer.isEmpty ||
                    (Write.accept count).takesAll socket.outBuffer) = true := by
                  simp only [Write.takesAll, Bool.or_eq_true, decide_eq_true_eq]
                  omega
                have buffered : Moves socket
                    { deliver socket.outBuffer socket with outBuffer := [] } :=
                  ⟨rfl, by simp [deliver, held]⟩
                exact buffered.trans (handleOutputQueue_moves rfl queueUsual (room reached))

theorem step_balanced {op : Op Cipher} (balanced : Balanced socket)
    (usual : op.usual = true) (fits : requeueFits socket op = true) :
    Balanced (step updateData outBufferSize socket op) := by
  cases op with
  | send packet => exact step_send_balanced updateData outBufferSize packet balanced
  | output bufferWrite queueWrite =>
    have moved := (handleOutput_moves usual fits).balanced balanced
    unfold step
    dsimp only
    split <;> exact moved
  | install cipher => exact balanced

theorem run_balanced (ops : List (Op Cipher))
    (balanced : Balanced socket) (usual : ∀ op ∈ ops, op.usual = true)
    (fits : requeuesFit updateData outBufferSize ops socket = true) :
    Balanced (run updateData outBufferSize ops socket) := by
  induction ops generalizing socket with
  | nil => exact balanced
  | cons op rest ih =>
    obtain ⟨first, others⟩ := Bool.and_eq_true_iff.mp fits
    have stepped := step_balanced updateData outBufferSize balanced
      (usual op List.mem_cons_self) first
    exact ih stepped (fun other member => usual other (List.mem_cons_of_mem op member)) others

end Run

/-- Over every run whose writes take a prefix or nothing, and in which a block put
back at the head of the queue finds room, the bytes delivered and then those still
held are the packets that were sent, in order. -/
theorem delivered_held_eq_sent (updateData : Cipher → Bytes → Cipher × Bytes)
    (outBufferSize : Nat) (ops : List (Op Cipher)) (usual : ∀ op ∈ ops, op.usual = true)
    (fits : requeuesFit updateData outBufferSize ops initial = true) :
    (run updateData outBufferSize ops initial).delivered ++
        held (run updateData outBufferSize ops initial) =
      sentBytes (run updateData outBufferSize ops initial).calls :=
  run_balanced updateData outBufferSize ops rfl usual fits

/-- Two packets, the second too large for a buffer of eight bytes, written in
pieces while a key is installed between them. -/
def piecewiseOps : List (Op Unit) :=
  [.send ⟨0x064E, [1, 2]⟩, .output (.accept 4) .again, .install (), .send ⟨0x2CE0, [3, 4, 5]⟩,
    .output (.accept 9) (.accept 3), .output .again .again, .output .again (.accept 9)]

theorem delivered_held_eq_sent_piecewise :
    (run (fun cipher data => (cipher, data.map (· ^^^ 0x55))) 8 piecewiseOps initial).delivered ++
        held (run (fun cipher data => (cipher, data.map (· ^^^ 0x55))) 8 piecewiseOps initial) =
      sentBytes
        (run (fun cipher data => (cipher, data.map (· ^^^ 0x55))) 8 piecewiseOps initial).calls :=
  delivered_held_eq_sent _ 8 piecewiseOps (by decide) (by decide)

/-- A packet with an opcode beyond the table is answered with 0 and never sent. -/
theorem unsent_opcode_accepted :
    ¬ ∀ (Cipher : Type) (updateData : Cipher → Bytes → Cipher × Bytes) (outBufferSize : Nat)
      (ops : List (Op Cipher)), (∀ op ∈ ops, op.usual = true) →
        (run updateData outBufferSize ops initial).delivered ++
            held (run updateData outBufferSize ops initial) =
          acceptedBytes (run updateData outBufferSize ops initial).calls := by
  intro claimed
  have atUnsent := claimed Unit (fun cipher data => (cipher, data)) 65536
    [.send ⟨0x10001, []⟩] (by decide)
  revert atUnsent
  decide

end OutSocket

end DarkCore.World
