/-
The header in front of every packet to the client (`ServerPktHeader`): how the
client reads it, and what a refused packet leaves behind in the cipher of the
headers.
-/

import DarkCore.Shared.ByteBuffer
import DarkCore.World.Output

namespace DarkCore.World

/-- The client's side: the top bit of the first byte tells how many size bytes there are. -/
def decodeHeader : Bytes → Option (Nat × Nat × Bytes)
  | [] => none
  | first :: rest =>
    if first.toNat < 0x80 then
      match rest with
      | low :: cmdLow :: cmdHigh :: rest =>
        some (first.toNat * 0x100 + low.toNat, cmdLow.toNat + cmdHigh.toNat * 0x100, rest)
      | _ => none
    else
      match rest with
      | middle :: low :: cmdLow :: cmdHigh :: rest =>
        some (first.toNat % 0x80 * 0x10000 + middle.toNat * 0x100 + low.toNat,
          cmdLow.toNat + cmdHigh.toNat * 0x100, rest)
      | _ => none

theorem decodeHeader_size_lt {bytes rest : Bytes} {size cmd : Nat}
    (decoded : decodeHeader bytes = some (size, cmd, rest)) : size < 2 ^ 23 := by
  unfold decodeHeader at decoded
  split at decoded
  · contradiction
  · rename_i first more
    have firstSmall := first.toNat_lt
    split at decoded
    all_goals
      split at decoded
      · rename_i low _ _ _
        have lowSmall := low.toNat_lt
        simp only [Option.some.injEq, Prod.mk.injEq] at decoded
        grind [UInt8.toNat_lt]
      · contradiction

theorem flag_or_toNat (high : Nat) (small : high < 0x80) :
    ((0x80 : UInt8) ||| UInt8.ofNat high).toNat = 0x80 + high := by
  have wide : high % 2 ^ 8 = high := Nat.mod_eq_of_lt (by omega)
  rw [UInt8.toNat_or, UInt8.toNat_ofNat', wide]
  have shifted := Nat.two_pow_add_eq_or_of_lt (i := 7) small 1
  exact shifted.symm

/-- The size that `SendPacket` passes on, as a `uint32` -/
def packetSize (payload : Nat) : Nat := (payload + 2) % 2 ^ 32

/-- The header of a packet with a payload of this size tells the size and the opcode, and is the
only one that does. -/
def Decodes (payload : Nat) (opcode : UInt16) : Prop :=
  let header := serverPktHeader (packetSize payload) opcode.toNat
  (∀ rest, decodeHeader (header ++ rest) = some (payload + 2, opcode.toNat, rest)) ∧
    (header.length = 5 ↔ ∃ first more, header = first :: more ∧ 0x80 ≤ first.toNat)

theorem opcode_halves (opcode : UInt16) :
    opcode.toNat % 256 + opcode.toNat / 256 % 256 * 256 = opcode.toNat := by
  have small := opcode.toNat_lt
  omega

theorem decodes_small {payload : Nat} (opcode : UInt16) (small : payload + 2 ≤ 0x7FFF) :
    Decodes payload opcode := by
  have same : packetSize payload = payload + 2 := Nat.mod_eq_of_lt (by omega)
  have top : (payload + 2) / 256 % 256 < 128 := by omega
  have size : (payload + 2) / 256 % 256 * 256 + (payload + 2) % 256 = payload + 2 := by omega
  simp [Decodes, same, serverPktHeader, decodeHeader, Nat.not_lt.mpr small,
    Nat.shiftRight_eq_div_pow, top, size, opcode_halves]

theorem decodes_large {payload : Nat} (opcode : UInt16) (large : 0x7FFF < payload + 2)
    (fits : payload + 2 < 2 ^ 23) : Decodes payload opcode := by
  have same : packetSize payload = payload + 2 := Nat.mod_eq_of_lt (by omega)
  have flag := flag_or_toNat ((payload + 2) / 65536) (by omega)
  rw [UInt8.toNat_or, UInt8.toNat_ofNat'] at flag
  have size : (payload + 2) / 65536 % 128 * 65536 + (payload + 2) / 256 % 256 * 256 +
      (payload + 2) % 256 = payload + 2 := by omega
  simp at flag
  simp [Decodes, same, serverPktHeader, decodeHeader, large, Nat.shiftRight_eq_div_pow, flag, size,
    opcode_halves]

/-- The three size bytes hold 23 bits, the limit of the buffer is above that. -/
theorem decodes_iff (payload : Nat) (opcode : UInt16) :
    Decodes payload opcode ↔ payload + 2 < 2 ^ 23 := by
  constructor
  · intro decodes
    exact decodeHeader_size_lt (decodes.1 [])
  · intro fits
    rcases Nat.lt_or_ge 0x7FFF (payload + 2) with large | small
    · exact decodes_large opcode large fits
    · exact decodes_small opcode small

theorem not_decodes_held :
    (Shared.ByteBuffer.append {} (List.replicate 8388606 0)).isSome ∧ ¬ Decodes 8388606 0x1234 := by
  constructor
  · rfl
  · intro decodes
    exact absurd (decodes.1 []) (by decide)

namespace OutSocket

variable {Cipher : Type} (updateData : Cipher → Bytes → Cipher × Bytes) (outBufferSize : Nat)

/-- Nothing of what the peer receives later shows that a call was made in between, and the
keystream is where it was. -/
def Unnoticed (position : Cipher → Nat) (before after : OutSocket Cipher) : Prop :=
  after.crypt.map position = before.crypt.map position ∧
    ∀ ops, (run updateData outBufferSize ops after).delivered =
      (run updateData outBufferSize ops before).delivered

theorem sendPacket_refused {packet : Packet} {socket : OutSocket Cipher}
    (refused : (sendPacket updateData outBufferSize packet socket).1 = -1) :
    (sendPacket updateData outBufferSize packet socket).2 =
      if socket.closing then socket
      else { socket with
        crypt := (encryptSend updateData socket.crypt
          (serverPktHeader (packet.payload.length + 2) packet.opcode)).1 } := by
  unfold sendPacket at refused ⊢
  split
  · rfl
  · grind

theorem serverPktHeader_ne_nil (size cmd : Nat) : serverPktHeader size cmd ≠ [] := by
  simp [serverPktHeader]

/-- A refused packet goes unnoticed only where there was no cipher to advance. -/
theorem unnoticed_iff_of_refused (position : Cipher → Nat)
    (advances : ∀ cipher data, position (updateData cipher data).1 = position cipher + data.length)
    (packet : Packet) (socket : OutSocket Cipher)
    (refused : (sendPacket updateData outBufferSize packet socket).1 = -1) :
    Unnoticed updateData outBufferSize position socket
        (sendPacket updateData outBufferSize packet socket).2 ↔
      socket.closing ∨ socket.crypt = none := by
  rw [sendPacket_refused updateData outBufferSize refused]
  obtain ⟨_, _, crypt, closing, _⟩ := socket
  cases closing with
  | true => simp [Unnoticed]
  | false =>
    cases crypt with
    | none => simp [Unnoticed, encryptSend]
    | some cipher =>
      have sent := serverPktHeader_ne_nil (packet.payload.length + 2) packet.opcode
      simp [Unnoticed, encryptSend, advances, sent]

def counting (position : Nat) (data : Bytes) : Nat × Bytes :=
  (position + data.length, data.mapIdx fun i byte => byte + UInt8.ofNat (position + i))

def backedUp : OutSocket Nat :=
  { (initial : OutSocket Nat) with msgQueue := [⟨highWaterMark, [7]⟩], crypt := some 0 }

theorem unnoticed_iff_of_refused_backedUp :
    Unnoticed counting 65536 id backedUp (sendPacket counting 65536 ⟨1, []⟩ backedUp).2 ↔
      backedUp.closing ∨ backedUp.crypt = none :=
  unnoticed_iff_of_refused counting 65536 id (fun _ _ => rfl) ⟨1, []⟩ backedUp (by decide)

/-- The packet after the refused one arrives with a header that the peer cannot read. -/
theorem not_unnoticed_backedUp :
    (sendPacket counting 65536 ⟨1, []⟩ backedUp).1 = -1 ∧
      ¬ Unnoticed counting 65536 id backedUp (sendPacket counting 65536 ⟨1, []⟩ backedUp).2 := by
  constructor
  · decide
  · intro unnoticed
    have later := unnoticed.2
      [.output .again (.accept 1), .send ⟨2, []⟩, .output (.accept 4) .again]
    exact absurd later (by decide)

end OutSocket

end DarkCore.World
