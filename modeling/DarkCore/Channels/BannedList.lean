/-
The rows of custom channels that are preserved (`Channel::UpdateChannelInDB` and
the constructor of `Channel`).
-/

import DarkCore.Channels.Channel
import DarkCore.Shared.Tokens
import Mathlib.Data.Finset.Sort

namespace DarkCore.Channels

open DarkCore.Lib DarkCore.Shared

structure ChannelRow where
  ownership : Bool
  password : String
  bannedList : List Char

def Channel.updateChannelInDB (channel : Channel) : ChannelRow :=
  ⟨channel.ownership, channel.password, numbersText (channel.banned.sort (· ≤ ·))⟩

def ChannelRow.load (row : ChannelRow) : StoredChannel :=
  ⟨row.ownership, row.password,
    (((tokens row.bannedList ' ').map atol).filter (· ≠ 0)).toFinset⟩

/-- A channel that is made anew from its row lets the same players in. -/
theorem updateChannelInDB_load (channel : Channel) (serial : Nat)
    (guids : ∀ guid ∈ channel.banned, 0 < guid ∧ guid < 2 ^ 63) :
    newChannel channel.name serial (some channel.updateChannelInDB.load) =
      ⟨channel.name, serial, channel.ownership, channel.password, OrdMap.empty, channel.banned,
        0⟩ := by
  have listed (guid : Nat) : guid ∈ channel.banned.sort (· ≤ ·) ↔ guid ∈ channel.banned :=
    Finset.mem_sort _
  have read := map_atol_tokens fun guid member => (guids guid ((listed guid).mp member)).2
  have same : channel.updateChannelInDB.load.banned = channel.banned := by
    unfold Channel.updateChannelInDB ChannelRow.load
    ext guid
    rw [read, List.mem_toFinset, List.mem_filter, listed]
    constructor
    · exact And.left
    · exact fun member => ⟨member, by simpa using (guids guid member).1.ne'⟩
  unfold newChannel
  dsimp only
  rw [same]
  rfl

theorem updateChannelInDB_load_two :
    newChannel "world" 1 (some (Channel.updateChannelInDB
        ⟨"world", 0, true, "key", OrdMap.empty, {30, 7}, 5⟩).load) =
      ⟨"world", 1, true, "key", OrdMap.empty, {30, 7}, 0⟩ :=
  updateChannelInDB_load ⟨"world", 0, true, "key", OrdMap.empty, {30, 7}, 5⟩ 1 (by decide)

end DarkCore.Channels
