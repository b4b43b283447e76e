/-
The rows of the auctions (`AuctionEntry::SaveToDB`, `LoadFromDB`, and the
statements of the requests): prices of 64 bits are written through signed and
unsigned 32 bit parameters into unsigned columns.

The auctioneer and what is looked up by it are left out.
-/

import DarkCore.Auctions.Passes

namespace DarkCore.Auctions

open DarkCore.Lib DarkCore.Mails
open DarkCore.Player (uint32 int32 int32_of_lt uint32_of_lt uint32_lt)

/-! ### Rows -/

/-- A row of `auctionhouse` -/
structure AuctionRow where
  itemguid : Nat
  itemowner : Nat
  buyoutprice : Nat
  time : Nat
  buyguid : Nat
  lastbid : Nat
  startbid : Nat
  deposit : Nat
  deriving DecidableEq

structure Terms where
  owner : Nat
  bidder : Nat
  startbid : Nat
  bid : Nat
  buyout : Nat
  deposit : Nat
  expireTime : Nat
  deriving DecidableEq

def Auction.terms (auction : Auction) : Terms where
  owner := auction.owner
  bidder := auction.bidder
  startbid := auction.startbid
  bid := auction.bid
  buyout := auction.buyout
  deposit := auction.deposit
  expireTime := auction.expireTime

/-- What an `int unsigned` column takes: a value out of its range is an error in the strict mode of
the database, and is set to the closest end of the range else. -/
def column (strict : Bool) (value : Int) : Option Nat :=
  if 0 ≤ value ∧ value < 2 ^ 32 then some value.toNat
  else if strict then none
  else some (if value < 0 then 0 else 2 ^ 32 - 1)

/-- `SaveToDB`: the insertion fails as a whole. -/
def Auction.saveToDB (strict : Bool) (auction : Auction) : Option AuctionRow := do
  let itemguid ← column strict (uint32 auction.item)
  let itemowner ← column strict (uint32 auction.owner)
  let buyoutprice ← column strict (int32 auction.buyout)
  let time ← column strict auction.expireTime
  let buyguid ← column strict (uint32 auction.bidder)
  let lastbid ← column strict (int32 auction.bid)
  let startbid ← column strict (int32 auction.startbid)
  let deposit ← column strict (int32 auction.deposit)
  return { itemguid, itemowner, buyoutprice, time, buyguid, lastbid, startbid, deposit }

/-- `LoadFromDB`, with the guid of the item -/
def AuctionRow.loadFromDB (row : AuctionRow) : Nat × Terms :=
  (uint32 row.itemguid,
    { owner := uint32 row.itemowner
      buyout := uint32 row.buyoutprice
      expireTime := uint32 row.time
      bidder := uint32 row.buyguid
      bid := uint32 row.lastbid
      startbid := uint32 row.startbid
      deposit := uint32 row.deposit })

/-- The statement of a bid: of an argument of 64 bits `%u` prints the lower half. -/
def AuctionRow.updateBid (guid price : Nat) (row : AuctionRow) : AuctionRow :=
  { row with buyguid := uint32 guid, lastbid := uint32 price }

/-! ### Tables -/

structure Archive where
  house : House
  rows : Nat → Option AuctionRow

def insertRow (rows : Nat → Option AuctionRow) (id : Nat) (row : Option AuctionRow) :
    Nat → Option AuctionRow :=
  match rows id with
  | some _ => rows
  | none => Function.update rows id row

def deleteRow (rows : Nat → Option AuctionRow) (id : Nat) : Nat → Option AuctionRow :=
  Function.update rows id none

def written (strict : Bool) (config : Config) (house : House) (rows : Nat → Option AuctionRow) :
    Action → Nat → Option AuctionRow
  | .sellItem guid packet allowed =>
    match house.realm.getPlayer guid with
    | none => rows
    | some player =>
      if house.sells player packet allowed = true then
        insertRow rows house.nextAuctionId ((house.newAuction guid packet).saveToDB strict)
      else rows
  | .placeBid guid side id price =>
    match bidding config house guid side id price with
    | none => rows
    | some auction =>
      if auction.takesBid price = true then
        Function.update rows auction.id ((rows auction.id).map (.updateBid guid price))
      else deleteRow rows auction.id
  | .removeItem guid side id =>
    match cancelling config house guid side id with
    | none => rows
    | some auction => deleteRow rows auction.id
  | .update => ((expiring house).map (·.id)).foldl deleteRow rows
  | .wait _ => rows
  | .log _ _ => rows

def Archive.next (strict : Bool) (config : Config) (archive : Archive) (action : Action) :
    Archive where
  house := archive.house.next config action
  rows := written strict config archive.house archive.rows action

def LoadsBack (archive : Archive) : Prop :=
  ∀ auction ∈ archive.house.auctions,
    (archive.rows auction.id).map (fun row => row.loadFromDB.2) = some auction.terms

/-- What is sold and bid fits into the columns: 31 bits of a price that is sold for, and 32 of one
that is bid. -/
def FitsColumns (config : Config) (archive : Archive) : Action → Prop
  | .sellItem guid packet allowed =>
    ∀ player, archive.house.realm.getPlayer guid = some player →
      archive.house.sells player packet allowed = true →
        packet.bid < 2 ^ 31 ∧ uint32 packet.buyout < 2 ^ 31 ∧ packet.deposit < 2 ^ 31 ∧
          archive.house.realm.time + packet.duration < 2 ^ 32
  | .placeBid guid side id price =>
    ∀ auction, bidding config archive.house guid side id price = some auction →
      auction.takesBid price = true → price < 2 ^ 32
  | _ => True

structure Archived (archive : Archive) : Prop where
  sound : Sound archive.house
  low : ∀ guid, (archive.house.realm.player guid).isSome = true → guid < 2 ^ 32
  unused : ∀ id, archive.house.nextAuctionId ≤ id → archive.rows id = none

/-! ### Columns -/

section

variable {strict : Bool}

theorem column_of_range {value : Nat} (range : value < 2 ^ 32) :
    column strict value = some value := by
  unfold column
  rw [if_pos ⟨by omega, by omega⟩]
  rfl

theorem column_lt {value : Int} {stored : Nat} (isStored : column strict value = some stored) :
    stored < 2 ^ 32 := by
  unfold column at isStored
  split at isStored
  · grind
  · grind

theorem column_int32_iff {value : Nat} :
    column strict (int32 value) = some value ↔ value < 2 ^ 31 := by
  constructor
  · intro same
    unfold column at same
    split at same
    · rename_i range
      injection same with same
      unfold int32 at range same
      split at same
      · omega
      · omega
    · rename_i outside
      have negative : int32 value < 0 := by
        unfold int32 at outside ⊢
        split
        · omega
        · omega
      split at same
      · cases same
      · grind
  · intro small
    rw [int32_of_lt small]
    exact column_of_range (by omega)

theorem column_natCast_iff {value : Nat} :
    column strict (value : Int) = some value ↔ value < 2 ^ 32 :=
  ⟨column_lt, column_of_range⟩

theorem uint32_column {value : Int} {stored read : Nat}
    (isStored : column strict value = some stored) (isRead : uint32 stored = read) :
    column strict value = some read := by
  rw [isStored, ← isRead, uint32_of_lt (column_lt isStored)]

theorem saveToDB_terms_iff {auction : Auction} (owner : auction.owner < 2 ^ 32)
    (bidder : auction.bidder < 2 ^ 32) :
    (auction.saveToDB strict).map (fun row => row.loadFromDB.2) = some auction.terms ↔
      auction.buyout < 2 ^ 31 ∧ auction.expireTime < 2 ^ 32 ∧ auction.bid < 2 ^ 31 ∧
        auction.startbid < 2 ^ 31 ∧ auction.deposit < 2 ^ 31 := by
  constructor
  · intro loads
    obtain ⟨row, saved, same⟩ := Option.map_eq_some_iff.mp loads
    simp only [Auction.saveToDB, Option.bind_eq_bind, Option.bind_eq_some_iff,
      Option.pure_def, Option.some.injEq] at saved
    obtain ⟨itemguid, -, itemowner, -, buyoutprice, buyout, time, expireTime, buyguid, -, lastbid,
      bid, startbid, start, deposit, paid, rfl⟩ := saved
    simp only [AuctionRow.loadFromDB, Auction.terms, Terms.mk.injEq] at same
    obtain ⟨-, -, isStart, isBid, isBuyout, isDeposit, isTime⟩ := same
    exact ⟨column_int32_iff.mp (uint32_column buyout isBuyout),
      column_natCast_iff.mp (uint32_column expireTime isTime),
      column_int32_iff.mp (uint32_column bid isBid),
      column_int32_iff.mp (uint32_column start isStart),
      column_int32_iff.mp (uint32_column paid isDeposit)⟩
  · rintro ⟨buyout, expireTime, bid, startbid, deposit⟩
    have halves : ∀ {value : Nat}, value < 2 ^ 31 → uint32 value = value :=
      fun small => uint32_of_lt (by omega)
    simp only [Auction.saveToDB, column_int32_iff.mpr buyout, column_natCast_iff.mpr expireTime,
      column_int32_iff.mpr bid, column_int32_iff.mpr startbid, column_int32_iff.mpr deposit,
      column_of_range (uint32_lt _), column_of_range owner, column_of_range bidder,
      Option.bind_eq_bind, Option.bind_some, Option.pure_def,
      Option.map_some, AuctionRow.loadFromDB, Auction.terms, uint32_of_lt owner,
      uint32_of_lt bidder, uint32_of_lt expireTime, halves buyout, halves bid, halves startbid,
      halves deposit]

theorem updateBid_terms_iff {auction : Auction} {row : AuctionRow} {guid price : Nat}
    (loads : row.loadFromDB.2 = auction.terms) (low : guid < 2 ^ 32) :
    (row.updateBid guid price).loadFromDB.2 =
        ({ auction with bidder := guid, bid := price } : Auction).terms ↔
      price < 2 ^ 32 := by
  simp only [AuctionRow.loadFromDB, Auction.terms, Terms.mk.injEq] at loads
  obtain ⟨owner, -, startbid, -, buyout, deposit, time⟩ := loads
  simp only [AuctionRow.updateBid, AuctionRow.loadFromDB, Auction.terms, Terms.mk.injEq, owner,
    startbid, buyout, deposit, time, uint32_of_lt low, uint32_of_lt (uint32_lt _), true_and,
    and_true]
  constructor
  · intro same
    rw [← same]
    exact uint32_lt _
  · exact uint32_of_lt

end

/-! ### Tables after a step -/

section

variable {strict : Bool} {config : Config} {archive : Archive} {rows : Nat → Option AuctionRow}
  {guid : Nat}

theorem insertRow_of_ne {id other : Nat} (apart : other ≠ id) (row : Option AuctionRow) :
    insertRow rows id row other = rows other := by
  cases taken : rows id with
  | some old => simp only [insertRow, taken]
  | none => simp only [insertRow, taken, Function.update_of_ne apart]

theorem insertRow_self {id : Nat} (unused : rows id = none) (row : Option AuctionRow) :
    insertRow rows id row id = row := by
  simp only [insertRow, unused, Function.update_self]

theorem deleteRows_of_not_mem {ids : List Nat} {id : Nat} (apart : id ∉ ids) :
    ids.foldl deleteRow rows id = rows id := by
  induction ids generalizing rows with
  | nil => rfl
  | cons first rest ih =>
    obtain ⟨here, later⟩ := List.ne_and_not_mem_of_not_mem_cons apart
    rw [List.foldl_cons, ih later]
    exact Function.update_of_ne here _ _

theorem deleteRows_none {ids : List Nat} {id : Nat} (nothing : rows id = none) :
    ids.foldl deleteRow rows id = none := by
  induction ids generalizing rows with
  | nil => exact nothing
  | cons first rest ih =>
    refine ih ?_
    unfold deleteRow
    rw [Function.update_apply, nothing, ite_self]

theorem LoadsBack.of_left (loads : LoadsBack archive) {after : Archive}
    (left : ∀ auction ∈ after.house.auctions,
      auction ∈ archive.house.auctions ∧ after.rows auction.id = archive.rows auction.id) :
    LoadsBack after := by
  intro auction member
  obtain ⟨old, same⟩ := left auction member
  rw [same]
  exact loads auction old

theorem LoadsBack.of_removed (loads : LoadsBack archive) (sound : Sound archive.house)
    {auction : Auction} (member : auction ∈ archive.house.auctions) {paid : House}
    (same : Same archive.house paid) :
    LoadsBack ⟨paid.removeAuction auction, deleteRow archive.rows auction.id⟩ := by
  have kept := sound.of_same same
  have there : auction ∈ paid.auctions := same.auctions.symm ▸ member
  refine loads.of_left fun other left => ⟨?_, ?_⟩
  · exact same.auctions ▸ removed_mem kept there left
  · exact Function.update_of_ne (removed_id kept there left) _ _

section

variable (archived : Archived archive) (loads : LoadsBack archive)
include archived loads

theorem loadsBack_sellItem {packet : House.SellItem} {allowed : Bool} {player : Player}
    (found : archive.house.realm.getPlayer guid = some player)
    (sells : archive.house.sells player packet allowed = true) :
    LoadsBack (archive.next strict config (.sellItem guid packet allowed)) ↔
      packet.bid < 2 ^ 31 ∧ uint32 packet.buyout < 2 ^ 31 ∧ packet.deposit < 2 ^ 31 ∧
        archive.house.realm.time + packet.duration < 2 ^ 32 := by
  have low : guid < 2 ^ 32 := archived.low guid (by
    rw [Realm.player_of_getPlayer found]
    rfl)
  let new := archive.house.newAuction guid packet
  have auctions : (archive.next strict config (.sellItem guid packet allowed)).house.auctions =
      archive.house.auctions ++ [new] := by
    simp only [Archive.next, House.next, found, House.handleAuctionSellItem, sells, if_true]
    rfl
  have rows : (archive.next strict config (.sellItem guid packet allowed)).rows =
      insertRow archive.rows archive.house.nextAuctionId (new.saveToDB strict) := by
    simp only [Archive.next, written, found, sells, if_true]
    rfl
  have unused := archived.unused archive.house.nextAuctionId (Nat.le_refl _)
  have terms : (new.saveToDB strict).map (fun row => row.loadFromDB.2) = some new.terms ↔
      uint32 packet.buyout < 2 ^ 31 ∧ archive.house.realm.time + packet.duration < 2 ^ 32 ∧
        0 < 2 ^ 31 ∧ packet.bid < 2 ^ 31 ∧ packet.deposit < 2 ^ 31 :=
    saveToDB_terms_iff low (by decide : 0 < 2 ^ 32)
  unfold LoadsBack
  rw [auctions, rows]
  constructor
  · intro all
    have loaded := all new (List.mem_append_right _ (List.mem_singleton_self new))
    rw [show new.id = archive.house.nextAuctionId from rfl, insertRow_self unused] at loaded
    obtain ⟨buyout, time, -, bid, deposit⟩ := terms.mp loaded
    exact ⟨bid, buyout, deposit, time⟩
  · rintro ⟨bid, buyout, deposit, time⟩ auction member
    rcases List.mem_append.mp member with old | isNew
    · have fresh := archived.sound.fresh auction old
      rw [insertRow_of_ne (Nat.ne_of_lt fresh)]
      exact loads auction old
    · rw [List.mem_singleton.mp isNew, show new.id = archive.house.nextAuctionId from rfl,
        insertRow_self unused]
      exact terms.mpr ⟨buyout, time, by decide, bid, deposit⟩

theorem loadsBack_placeBid {side : Side} {id price : Nat} {auction : Auction}
    (isBid : bidding config archive.house guid side id price = some auction) :
    LoadsBack (archive.next strict config (.placeBid guid side id price)) ↔
      (auction.takesBid price = true → price < 2 ^ 32) := by
  obtain ⟨player, found, accepted, next⟩ := bidding_eq_some isBid
  have isAuction := (bidOn_eq_some accepted).1
  have member := getAuction_mem isAuction
  have low : guid < 2 ^ 32 := archived.low guid (by
    rw [Realm.player_of_getPlayer found]
    rfl)
  by_cases takes : auction.takesBid price = true
  · rw [if_pos takes] at next
    let bid : Auction := { auction with bidder := guid, bid := price }
    have paid := payBid_sends (archived.sound.bidders auction member) guid price
    have auctions : (archive.next strict config (.placeBid guid side id price)).house.auctions.Perm
        (bid :: (archive.house.removeAuction auction).auctions) := by
      have changed := changeFirst_perm (archived.sound.getAuction member)
        fun auction : Auction => { auction with bidder := guid, bid := price }
      rw [← paid.same.auctions] at changed
      simp only [Archive.next, next]
      refine changed.trans ?_
      rw [paid.same.auctions]
      exact List.Perm.refl _
    have rows : (archive.next strict config (.placeBid guid side id price)).rows =
        Function.update archive.rows auction.id
          ((archive.rows auction.id).map (.updateBid guid price)) := by
      simp only [Archive.next, written, isBid, takes, if_true]
    obtain ⟨row, stored, terms⟩ := Option.map_eq_some_iff.mp (loads auction member)
    have updated : (row.updateBid guid price).loadFromDB.2 = bid.terms ↔ price < 2 ^ 32 :=
      updateBid_terms_iff terms low
    unfold LoadsBack
    rw [rows]
    constructor
    · intro all _
      have loaded := all bid (auctions.symm.subset List.mem_cons_self)
      rw [show bid.id = auction.id from rfl, Function.update_self, stored, Option.map_some,
        Option.map_some, Option.some.injEq] at loaded
      exact updated.mp loaded
    · intro small other inside
      rcases List.mem_cons.mp (auctions.subset inside) with same | left
      · grind
      · rw [Function.update_of_ne (removed_id archived.sound member left)]
        exact loads other (removed_mem archived.sound member left)
  · rw [if_neg takes] at next
    obtain ⟨paid, sends, -, same⟩ := buyOut_eq archived.sound config found member
    have isNext : archive.next strict config (.placeBid guid side id price) =
        ⟨paid.removeAuction auction, deleteRow archive.rows auction.id⟩ := by
      simp only [Archive.next, next, same, written, isBid, takes, Bool.false_eq_true, if_false]
    rw [isNext]
    exact ⟨fun _ takesBid => absurd takesBid takes,
      fun _ => loads.of_removed archived.sound member sends.same⟩

theorem loadsBack_update :
    LoadsBack (archive.next strict config .update) := by
  have pass := update_pass config archived.sound
  have ids := (pass.auctions.map fun auction : Auction => auction.id).nodup_iff.mp
    archived.sound.ids
  rw [List.map_append] at ids
  refine loads.of_left fun auction left => ⟨?_, ?_⟩
  · exact pass.auctions.symm.subset (List.mem_append_right _ left)
  · refine deleteRows_of_not_mem fun closed => ?_
    exact (List.nodup_append.mp ids).2.2 _ closed _ (List.mem_map_of_mem left) rfl

theorem loadsBack_next_iff
    (action : Action) :
    LoadsBack (archive.next strict config action) ↔ FitsColumns config archive action := by
  cases action with
  | sellItem guid packet allowed =>
    have idle (rows : (archive.next strict config (.sellItem guid packet allowed)).rows =
          archive.rows)
        (house : (archive.next strict config (.sellItem guid packet allowed)).house =
          archive.house) :
        LoadsBack (archive.next strict config (.sellItem guid packet allowed)) :=
      loads.of_left fun auction member => ⟨house ▸ member, congrFun rows _⟩
    cases found : archive.house.realm.getPlayer guid with
    | none =>
      simp only [FitsColumns, found, reduceCtorEq, false_implies, implies_true, iff_true]
      refine idle ?_ ?_
      · simp only [Archive.next, written, found]
      · simp only [Archive.next, House.next, found]
    | some player =>
      simp only [FitsColumns, found, Option.some.injEq, forall_eq']
      cases sells : archive.house.sells player packet allowed with
      | true =>
        simp only [true_implies]
        exact loadsBack_sellItem archived loads found sells
      | false =>
        simp only [Bool.false_eq_true, false_implies, iff_true]
        refine idle ?_ ?_
        · simp only [Archive.next, written, found, sells, Bool.false_eq_true, if_false]
        · simp only [Archive.next, House.next, found, House.handleAuctionSellItem, sells,
            Bool.false_eq_true, if_false]
  | placeBid guid side id price =>
    cases isBid : bidding config archive.house guid side id price with
    | none =>
      simp only [FitsColumns, isBid, reduceCtorEq, false_implies, implies_true, iff_true]
      have same : archive.next strict config (.placeBid guid side id price) = archive := by
        simp only [Archive.next, bidding_eq_none isBid, written, isBid]
      rw [same]
      exact loads
    | some auction =>
      simp only [FitsColumns, isBid, Option.some.injEq, forall_eq']
      exact loadsBack_placeBid archived loads isBid
  | removeItem guid side id =>
    refine iff_of_true ?_ trivial
    cases isCancelled : cancelling config archive.house guid side id with
    | none =>
      have same : archive.next strict config (.removeItem guid side id) = archive := by
        simp only [Archive.next, cancelling_eq_none isCancelled, written, isCancelled]
      rw [same]
      exact loads
    | some auction =>
      obtain ⟨player, found, accepted, next⟩ := cancelling_eq_some isCancelled
      have member := getAuction_mem (cancelOf_eq_some accepted).1
      obtain ⟨paid, sends, -, same⟩ := cancel_eq archived.sound config found member
      have isNext : archive.next strict config (.removeItem guid side id) =
          ⟨paid.removeAuction auction, deleteRow archive.rows auction.id⟩ := by
        simp only [Archive.next, next, same, written, isCancelled]
      rw [isNext]
      exact loads.of_removed archived.sound member sends.same
  | update => exact iff_of_true (loadsBack_update archived loads) trivial
  | wait seconds => exact iff_of_true loads trivial
  | log guid online =>
    refine iff_of_true (loads.of_left fun auction member => ⟨?_, rfl⟩) trivial
    unfold Archive.next House.next at member
    dsimp only at member
    split at member
    · exact member
    · exact member

end

/-! ### Ids -/

theorem closeAuction_nextAuctionId (config : Config) (house : House) (auction : Auction) :
    (house.closeAuction config auction).nextAuctionId = house.nextAuctionId := by
  have sold : (house.sendSale config auction).nextAuctionId = house.nextAuctionId := by
    have paid : (house.sendAuctionSuccessfulMail config auction).nextAuctionId =
        house.nextAuctionId := (sendMail_same ..).nextAuctionId
    unfold House.sendSale House.sendAuctionWonMail
    split
    · exact paid
    · split
      · exact (sendMail_same ..).nextAuctionId.trans paid
      · exact paid
  have ended : (house.sendEnd config auction).nextAuctionId = house.nextAuctionId := by
    unfold House.sendEnd House.sendAuctionExpiredMail
    split
    · split
      · rfl
      · exact (sendMail_same ..).nextAuctionId
    · exact sold
  exact ended

theorem update_nextAuctionId (config : Config) (house : House) :
    (house.update config).nextAuctionId = house.nextAuctionId := by
  have side (house : House) (side : Side) :
      (house.updateSide config side).nextAuctionId = house.nextAuctionId := by
    unfold House.updateSide
    generalize house.expired side = closing
    induction closing generalizing house with
    | nil => rfl
    | cons auction rest ih =>
      rw [List.foldl_cons, ih, closeAuction_nextAuctionId]
  unfold House.update
  rw [side, side, side]

theorem Archived.next (archived : Archived archive) (action : Action) :
    Archived (archive.next strict config action) where
  sound := sound_next config action archived.sound
  low guid known := archived.low guid
    ((known_next config action archived.sound guid).symm.trans known)
  unused := by
    have deleted {auction : Auction} {id : Nat} (unused : archive.rows id = none) :
        deleteRow archive.rows auction.id id = none := by
      unfold deleteRow
      rw [Function.update_apply, unused, ite_self]
    intro id
    unfold Archive.next
    dsimp only
    cases action with
    | sellItem guid packet allowed =>
      cases found : archive.house.realm.getPlayer guid with
      | none =>
        simp only [House.next, written, found]
        exact archived.unused id
      | some player =>
        simp only [House.next, written, found, House.handleAuctionSellItem]
        split
        · intro later
          rw [insertRow_of_ne (Nat.ne_of_gt later)]
          exact archived.unused id (Nat.le_of_succ_le later)
        · exact archived.unused id
    | placeBid guid side id' price =>
      cases isBid : bidding config archive.house guid side id' price with
      | none =>
        simp only [bidding_eq_none isBid, written, isBid]
        exact archived.unused id
      | some auction =>
        obtain ⟨player, found, accepted, next⟩ := bidding_eq_some isBid
        have member := getAuction_mem (bidOn_eq_some accepted).1
        simp only [next, written, isBid]
        split
        · have paid := payBid_sends (archived.sound.bidders auction member) guid price
          intro later
          have unused := archived.unused id (paid.same.nextAuctionId.symm.trans_le later)
          rw [Function.update_apply, unused]
          split
          · simp_all
          · rfl
        · obtain ⟨paid, sends, -, same⟩ := buyOut_eq archived.sound config found member
          rw [same]
          intro later
          exact deleted (archived.unused id (sends.same.nextAuctionId.symm.trans_le later))
    | removeItem guid side id' =>
      cases isCancelled : cancelling config archive.house guid side id' with
      | none =>
        simp only [cancelling_eq_none isCancelled, written, isCancelled]
        exact archived.unused id
      | some auction =>
        obtain ⟨player, found, accepted, next⟩ := cancelling_eq_some isCancelled
        have member := getAuction_mem (cancelOf_eq_some accepted).1
        obtain ⟨paid, sends, -, same⟩ := cancel_eq archived.sound config found member
        simp only [next, same, written, isCancelled]
        intro later
        exact deleted (archived.unused id (sends.same.nextAuctionId.symm.trans_le later))
    | update =>
      intro later
      have before := (update_nextAuctionId config archive.house).symm.trans_le later
      exact deleteRows_none (archived.unused id before)
    | wait seconds => exact archived.unused id
    | log guid online =>
      unfold House.next
      dsimp only
      split
      · exact archived.unused id
      · exact archived.unused id

end

/-! ### Runs -/

/-- At every moment a restart finds all auctions as they are, exactly when all that is sold and bid
fits into the columns. -/
theorem Archive.always_loadsBack_iff (strict : Bool) (config : Config) (archive : Archive)
    (actions : List Action) (archived : Archived archive) (loads : LoadsBack archive) :
    Always (Archive.next strict config) LoadsBack archive actions ↔
      Along (Archive.next strict config) (FitsColumns config) archive actions := by
  have start : Archived archive ∧ LoadsBack archive := ⟨archived, loads⟩
  refine always_property_iff_along (fun _ => And.right) ?_ ?_ start
  · intro archive action before after
    exact (loadsBack_next_iff before.1 before.2 action).mp after
  · intro archive action before fits
    exact ⟨before.1.next action, (loadsBack_next_iff before.1 before.2 action).mpr fits⟩

def bazaarArchive : Archive where
  house := bazaar
  rows id := if id = 9 then lot.saveToDB true else none

theorem bazaarArchive_archived : Archived bazaarArchive where
  sound := bazaar_sound
  low guid known := by
    obtain ⟨player, found⟩ := Option.isSome_iff_exists.mp known
    have few := (bazaar_player found).1
    simp only [List.mem_cons, List.not_mem_nil, or_false] at few
    omega
  unused id later := by
    change 10 ≤ id at later
    exact if_neg (by omega)

theorem bazaarArchive_loadsBack : LoadsBack bazaarArchive := by
  intro auction member
  rw [List.mem_singleton.mp member]
  decide

/-- The player 3 bids 30. -/
theorem Archive.always_loadsBack_iff_thirty :
    Always (Archive.next true (rates false)) LoadsBack bazaarArchive
      [.placeBid 3 .neutral 9 30] := by
  refine (Archive.always_loadsBack_iff true (rates false) bazaarArchive
    [.placeBid 3 .neutral 9 30] bazaarArchive_archived bazaarArchive_loadsBack).mpr ?_
  exact ⟨fun _ _ _ => by decide, trivial⟩

def openLot : Auction := { lot with buyout := 0 }

def openArchive : Archive where
  house := { bazaar with auctions := [openLot] }
  rows id := if id = 9 then openLot.saveToDB true else none

/-- Without a buyout the player 3 bids 2^32 + 30: his purse is asked for 30, and this is what the
row gets. -/
theorem Archive.not_always_loadsBack :
    ¬ Always (Archive.next true (rates false)) LoadsBack openArchive
      [.placeBid 3 .neutral 9 (2 ^ 32 + 30)] := by
  intro always
  let outbid : Auction := { openLot with bidder := 3, bid := 2 ^ 32 + 30 }
  have member : outbid ∈
      (openArchive.next true (rates false) (.placeBid 3 .neutral 9 (2 ^ 32 + 30))).house.auctions := by
    decide +kernel
  have loaded := always.2 outbid member
  revert loaded
  decide +kernel

end DarkCore.Auctions
