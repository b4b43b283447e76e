/-
The auctions of all houses: each has an id and an item of its own, and its
owner and its bidder exist. A pass ends those that expire one after the other;
what it sends is what each of them would send alone.
-/

import DarkCore.Auctions.Effects

namespace DarkCore.Auctions

open DarkCore.Lib DarkCore.Mails
open DarkCore.Player (Purse uint32)

variable {house middle after : House} {config : Config} {auction : Auction} {guid : Nat}

/-! ### Sound houses -/

structure Sound (house : House) : Prop where
  ids : (house.auctions.map (·.id)).Nodup
  fresh : ∀ auction ∈ house.auctions, auction.id < house.nextAuctionId
  stock : house.items.Perm (house.auctions.map (·.item))
  single : house.items.Nodup
  owners : ∀ auction ∈ house.auctions, (house.realm.player auction.owner).isSome = true
  bidders : ∀ auction ∈ house.auctions, Known house auction

theorem getAuction_mem {side : Side} {id : Nat} (found : house.getAuction side id = some auction) :
    auction ∈ house.auctions := List.mem_of_find?_eq_some found

theorem getAuction_key {side : Side} {id : Nat} (found : house.getAuction side id = some auction) :
    auction.id = id ∧ auction.side = side := by
  have passes := List.find?_some found
  unfold House.isAuction at passes
  rw [Bool.and_eq_true, decide_eq_true_iff, decide_eq_true_iff] at passes
  exact passes

section

variable (sound : Sound house) (member : auction ∈ house.auctions)
include sound member

theorem Sound.getAuction :
    house.getAuction auction.side auction.id = some auction := by
  cases found : house.getAuction auction.side auction.id with
  | none =>
    have fails := List.find?_eq_none.mp found auction member
    unfold House.isAuction at fails
    rw [decide_eq_true rfl, decide_eq_true rfl] at fails
    exact absurd rfl fails
  | some other =>
    have sameId := (getAuction_key found).1
    rw [List.inj_on_of_nodup_map sound.ids (getAuction_mem found) member sameId]

theorem removeAuction_perm :
    house.auctions.Perm (auction :: (house.removeAuction auction).auctions) :=
  find?_perm (sound.getAuction member)

theorem removed_mem {other : Auction}
    (left : other ∈ (house.removeAuction auction).auctions) : other ∈ house.auctions :=
  (removeAuction_perm sound member).symm.subset (List.mem_cons_of_mem _ left)

theorem removed_id {other : Auction}
    (left : other ∈ (house.removeAuction auction).auctions) : other.id ≠ auction.id := by
  have perm := (removeAuction_perm sound member).map fun auction : Auction => auction.id
  have apart := (List.nodup_cons.mp (perm.nodup_iff.mp sound.ids)).1
  intro same
  exact apart (List.mem_map.mpr ⟨other, left, same⟩)

end

namespace Sound

theorem of_same (sound : Sound house) (same : Same house after) : Sound after where
  ids := same.auctions.symm ▸ sound.ids
  fresh auction member := by
    rw [same.nextAuctionId]
    exact sound.fresh auction (same.auctions ▸ member)
  stock := by
    rw [same.items, same.auctions]
    exact sound.stock
  single := same.items.symm ▸ sound.single
  owners auction member := by
    rw [same.faces.known]
    exact sound.owners auction (same.auctions ▸ member)
  bidders auction member isBid := by
    rw [same.faces.known]
    exact sound.bidders auction (same.auctions ▸ member) isBid

theorem stocked (sound : Sound house) (member : auction ∈ house.auctions) :
    auction.item ∈ house.items :=
  sound.stock.symm.subset (List.mem_map_of_mem member)

theorem remove (sound : Sound house) (member : auction ∈ house.auctions) :
    Sound (house.removeAuction auction) := by
  have perm := removeAuction_perm sound member
  have ids : (auction.id :: (house.removeAuction auction).auctions.map (·.id)).Nodup :=
    (perm.map fun auction : Auction => auction.id).nodup_iff.mp sound.ids
  have stock : house.items.Perm
      (auction.item :: (house.removeAuction auction).auctions.map (·.item)) :=
    sound.stock.trans (perm.map (·.item))
  have items : (house.removeAuction auction).items = house.items.erase auction.item := by
    rw [sound.single.erase_eq_filter]
    exact List.filter_congr fun item _ => by
      rw [Bool.eq_iff_iff, decide_eq_true_iff, bne_iff_ne]
  constructor
  · exact (List.nodup_cons.mp ids).2
  · exact fun other left => sound.fresh other (removed_mem sound member left)
  · grind
  · rw [items]
    exact sound.single.erase _
  · exact fun other left => sound.owners other (removed_mem sound member left)
  · exact fun other left => sound.bidders other (removed_mem sound member left)

end Sound

/-! ### Passes -/

structure Pass (config : Config) (house after : House) (closing : List Auction) : Prop where
  faces : SameFaces house after
  time : after.realm.time = house.realm.time
  free : Free house after
  auctions : house.auctions.Perm (closing ++ after.auctions)
  others : ∀ view : Auction → Bool, (∀ auction ∈ closing, view auction = false) →
    after.auctions.filter view = house.auctions.filter view
  posts : Posts house after (closing.flatMap (ending config house))
  sound : Sound after

namespace Pass

theorem nothing (sound : Sound house) : Pass config house house [] where
  faces _ := rfl
  time := rfl
  free := rfl
  auctions := List.Perm.refl _
  others _ _ := rfl
  posts := Posts.nothing rfl
  sound := sound

theorem trans {first second : List Auction} (pass : Pass config house middle first)
    (further : Pass config middle after second) : Pass config house after (first ++ second) where
  faces := pass.faces.trans further.faces
  time := further.time.trans pass.time
  free := further.free.trans pass.free
  auctions := by
    rw [List.append_assoc]
    exact pass.auctions.trans (further.auctions.append_left first)
  others view apart := by
    rw [further.others view fun auction member => apart auction (List.mem_append_right _ member),
      pass.others view fun auction member => apart auction (List.mem_append_left _ member)]
  posts := by
    rw [List.flatMap_append]
    have same : ending config middle = ending config house :=
      funext fun auction => ending_same pass.faces config auction
    exact pass.posts.trans (same ▸ further.posts)
  sound := further.sound

end Pass

theorem closeAuction_pass (config : Config) (sound : Sound house)
    (member : auction ∈ house.auctions) :
    Pass config house (house.closeAuction config auction) [auction] := by
  have sends := sendEnd_sends config (sound.stocked member) (sound.owners auction member)
    (sound.bidders auction member)
  have paid := sound.of_same sends.same
  have there : auction ∈ (house.sendEnd config auction).auctions :=
    sends.same.auctions.symm ▸ member
  constructor
  · exact sends.same.faces
  · exact sends.same.time
  · exact sendEnd_free config auction
  · have perm := removeAuction_perm paid there
    rw [sends.same.auctions] at perm
    exact perm
  · intro view apart
    unfold House.closeAuction House.removeAuction
    rw [sends.same.auctions]
    have single : ∀ other ∈ house.auctions, House.isAuction auction.side auction.id other = true →
        view other = false := by
      intro other inside passes
      unfold House.isAuction at passes
      rw [Bool.and_eq_true, decide_eq_true_iff, decide_eq_true_iff] at passes
      rw [List.inj_on_of_nodup_map sound.ids inside member passes.1]
      exact apart auction (List.mem_singleton_self _)
    exact filter_eraseP single
  · rw [List.flatMap_singleton]
    exact sends.posts
  · exact paid.remove there

theorem closeAll_pass (config : Config) {closing : List Auction} (sound : Sound house)
    (distinct : closing.Nodup) (inside : closing ⊆ house.auctions) :
    Pass config house
      (closing.foldl (fun house auction => house.closeAuction config auction) house) closing := by
  induction closing generalizing house with
  | nil => exact Pass.nothing sound
  | cons auction rest ih =>
    have pass := closeAuction_pass config sound (inside List.mem_cons_self)
    have apart := List.nodup_cons.mp distinct
    have later : rest ⊆ (house.closeAuction config auction).auctions := by
      intro other member
      rcases List.mem_cons.mp (pass.auctions.subset (inside (List.mem_cons_of_mem _ member))) with
        same | left
      · exact absurd (same ▸ member) apart.1
      · exact left
    exact pass.trans (ih pass.sound apart.2 later)

theorem updateSide_pass (config : Config) (sound : Sound house) (side : Side) :
    Pass config house (house.updateSide config side) (house.expired side) := by
  have perm := List.perm_insertionSort
    (fun auction other : Auction => auction.expireTime ≤ other.expireTime)
    (house.auctions.filter fun auction =>
      decide (auction.side = side) && decide (auction.expireTime ≤ house.realm.time + 60))
  refine closeAll_pass config sound ?_ ?_
  · exact perm.nodup_iff.mpr (sound.ids.of_map.filter _)
  · exact fun auction member => List.mem_of_mem_filter (perm.subset member)

theorem expired_side {side : Side} (member : auction ∈ house.expired side) :
    auction.side = side := by
  have filtered := List.mem_filter.mp ((List.perm_insertionSort _ _).subset member)
  rw [Bool.and_eq_true, decide_eq_true_iff] at filtered
  exact filtered.2.1

theorem expired_other (config : Config) (sound : Sound house) {side other : Side}
    (apart : side ≠ other) :
    (house.updateSide config side).expired other = house.expired other := by
  have pass := updateSide_pass config sound side
  unfold House.expired
  rw [pass.time, pass.others]
  intro auction member
  rw [expired_side member, decide_eq_false apart, Bool.false_and]

def expiring (house : House) : List Auction :=
  house.expired .horde ++ (house.expired .alliance ++ house.expired .neutral)

theorem update_pass (config : Config) (sound : Sound house) :
    Pass config house (house.update config) (expiring house) := by
  have horde := updateSide_pass config sound .horde
  have alliance := updateSide_pass config horde.sound .alliance
  have neutral := updateSide_pass config alliance.sound .neutral
  rw [expired_other config horde.sound (by decide), expired_other config sound (by decide)]
    at neutral
  rw [expired_other config sound (by decide)] at alliance
  exact horde.trans (alliance.trans neutral)

/-! ### Steps of a sound house -/

theorem bidOn_eq_some {player : Player} {side : Side} {id price : Nat}
    (found : house.bidOn config guid player side id price = some auction) :
    house.getAuction side id = some auction ∧ auction.owner ≠ guid ∧ auction.bid < price ∧
      player.purse.hasEnoughMoney (uint32 price) = true := by
  unfold House.bidOn at found
  split at found
  · cases found
  · obtain ⟨isAuction, passes⟩ := Option.filter_eq_some_iff.mp found
    rw [Bool.and_eq_true, Bool.and_eq_true, Bool.and_eq_true, Bool.and_eq_true,
      decide_eq_true_iff] at passes
    obtain ⟨⟨⟨⟨apart, _⟩, high⟩, _⟩, enough⟩ := passes
    rw [Bool.not_eq_true', Bool.or_eq_false_iff, decide_eq_false_iff_not] at high
    exact ⟨isAuction, apart, Nat.lt_of_not_le high.1, enough⟩

theorem cancelOf_eq_some {player : Player} {side : Side} {id : Nat}
    (found : house.cancelOf config guid player side id = some auction) :
    house.getAuction side id = some auction ∧ auction.owner = guid ∧
      (auction.bidder ≠ 0 → auction.cut config ≤ player.purse.money) := by
  obtain ⟨isAuction, passes⟩ := Option.filter_eq_some_iff.mp found
  rw [Bool.and_eq_true, Bool.and_eq_true, Bool.or_eq_true, decide_eq_true_iff,
    decide_eq_true_iff, decide_eq_true_iff, Purse.hasEnoughMoney_iff] at passes
  refine ⟨isAuction, passes.1.1, fun isBid => ?_⟩
  rcases passes.2 with unbid | enough
  · exact absurd unbid isBid
  · exact enough

namespace Sound

variable {player : Player}

theorem placeBid (sound : Sound house) (found : house.realm.getPlayer guid = some player)
    (member : auction ∈ house.auctions) (price : Nat) :
    Sound (house.placeBid guid auction price) := by
  have sends := payBid_sends (sound.bidders auction member) guid price
  have paid := sound.of_same sends.same
  let bid : Auction → Auction := fun auction => { auction with bidder := guid, bid := price }
  have sameIds : (house.placeBid guid auction price).auctions.map (·.id) =
      (house.payBid guid auction price).auctions.map (·.id) :=
    map_changeFirst (fun other => show (bid other).id = other.id from rfl) _
  have sameItems : (house.placeBid guid auction price).auctions.map (·.item) =
      (house.payBid guid auction price).auctions.map (·.item) :=
    map_changeFirst (fun other => show (bid other).item = other.item from rfl) _
  constructor
  · rw [sameIds]
    exact paid.ids
  · intro other there
    rcases mem_changeFirst there with old | ⟨old, inside, _, changed⟩
    · exact paid.fresh other old
    · rw [changed]
      exact paid.fresh old inside
  · rw [sameItems]
    exact paid.stock
  · exact paid.single
  · intro other there
    rcases mem_changeFirst there with old | ⟨old, inside, _, changed⟩
    · exact paid.owners other old
    · rw [changed]
      exact paid.owners old inside
  · intro other there isBid
    rcases mem_changeFirst there with old | ⟨old, inside, _, changed⟩
    · exact paid.bidders other old isBid
    · rw [changed]
      have known : (house.realm.player guid).isSome = true := by
        rw [Realm.player_of_getPlayer found]
        rfl
      exact (sends.same.faces.known guid).trans known

end Sound

def bought (config : Config) (guid : Nat) (auction : Auction) : List Parcel :=
  outbidden guid auction ++
    [⟨auction.owner, 0, []⟩,
      ⟨auction.owner, uint32 ((House.boughtOut guid auction).profit config), []⟩,
      ⟨guid, 0, [auction.item]⟩]

theorem buyOut_eq {player : Player} (sound : Sound house) (config : Config)
    (found : house.realm.getPlayer guid = some player) (member : auction ∈ house.auctions) :
    ∃ paid, Sends house paid (bought config guid auction) ∧
      Free (house.payBuyOut guid auction) paid ∧
      house.buyOut config guid auction = paid.removeAuction auction := by
  have known : (house.realm.player guid).isSome = true := by
    rw [Realm.player_of_getPlayer found]
    rfl
  have owner := sound.owners auction member
  have pays := payBuyOut_sends (sound.bidders auction member) guid
  have pending : Sends (house.payBuyOut guid auction)
      ((house.payBuyOut guid auction).sendAuctionSalePendingMail (House.boughtOut guid auction))
      [⟨auction.owner, 0, []⟩] :=
    sendMail_sends {} _ 0 ((pays.same.faces.known _).trans owner)
  have same := pays.same.trans pending.same
  have stocked : (House.boughtOut guid auction).item ∈
      ((house.payBuyOut guid auction).sendAuctionSalePendingMail
        (House.boughtOut guid auction)).items := by
    rw [same.items]
    show auction.item ∈ house.items
    exact sound.stocked member
  have sold := sendSale_sends config stocked ((same.faces.known _).trans owner)
    ((same.faces.known _).trans known)
  have online : (house.realm.getPlayer (House.boughtOut guid auction).bidder).isSome = true := by
    show (house.realm.getPlayer guid).isSome = true
    rw [found]
    rfl
  unfold sale at sold
  rw [won_same same.faces] at sold
  unfold won at sold
  rw [if_pos (Or.inl online)] at sold
  refine ⟨_, pays.trans (pending.trans sold), ?_, rfl⟩
  exact (sendSale_free config _).trans (sendMail_free ..)

def cancelled (guid : Nat) (auction : Auction) : List Parcel :=
  repaid auction ++ [⟨guid, 0, [auction.item]⟩]

theorem cancel_eq {player : Player} (sound : Sound house) (config : Config)
    (found : house.realm.getPlayer guid = some player) (member : auction ∈ house.auctions) :
    ∃ paid, Sends house paid (cancelled guid auction) ∧
      Free (house.repayBid config guid auction) paid ∧
      ((house.repayBid config guid auction).sendMail guid { items := [auction.item] } auction
        0).removeAuction auction = paid.removeAuction auction := by
  have known : (house.realm.player guid).isSome = true := by
    rw [Realm.player_of_getPlayer found]
    rfl
  have pays := repayBid_sends config (sound.bidders auction member) guid
  have returned := sendMail_sends { items := [auction.item] } auction 0
    ((pays.same.faces.known _).trans known)
  exact ⟨_, pays.trans returned, sendMail_free .., rfl⟩

theorem sells_eq_true {player : Player} {packet : House.SellItem} {allowed : Bool}
    (sells : house.sells player packet allowed = true) :
    packet.item ∉ house.items ∧ packet.item ∈ player.inventory ∧
      packet.deposit ≤ player.purse.money := by
  unfold House.sells at sells
  rw [Bool.and_eq_true, Bool.and_eq_true, Bool.and_eq_true, Bool.and_eq_true,
    decide_eq_true_iff, decide_eq_true_iff, Purse.hasEnoughMoney_iff] at sells
  obtain ⟨⟨⟨⟨_, unstocked⟩, owned⟩, _⟩, enough⟩ := sells
  exact ⟨unstocked, owned, enough⟩

theorem setPlayer_known {player : Player} (found : house.realm.player guid = some player)
    (left : Player) (other : Nat) :
    ((house.realm.setPlayer guid left).player other).isSome =
      (house.realm.player other).isSome := by
  by_cases here : other = guid
  · simp_all
  · rw [Realm.setPlayer_player_of_ne here]

namespace Sound

variable {player : Player}

theorem sell (sound : Sound house) (found : house.realm.getPlayer guid = some player)
    (packet : House.SellItem) (allowed : Bool) :
    Sound (house.handleAuctionSellItem guid player packet allowed) := by
  unfold House.handleAuctionSellItem
  split
  · rename_i sells
    obtain ⟨unstocked, owned, enough⟩ := sells_eq_true sells
    have known := setPlayer_known (Realm.player_of_getPlayer found)
    constructor
    · dsimp only
      rw [List.map_append, List.map_singleton]
      refine List.nodup_append.mpr ⟨sound.ids, List.nodup_singleton _, ?_⟩
      intro id member other isNew same
      obtain ⟨auction, inside, isId⟩ := List.mem_map.mp member
      have fresh := sound.fresh auction inside
      have new : other = house.nextAuctionId := List.mem_singleton.mp isNew
      omega
    · intro auction member
      rcases List.mem_append.mp member with old | new
      · exact Nat.lt_succ_of_lt (sound.fresh auction old)
      · rw [List.mem_singleton.mp new]
        exact Nat.lt_succ_self _
    · dsimp only
      rw [List.map_append, List.map_singleton]
      exact sound.stock.append_right _
    · refine List.nodup_append.mpr ⟨sound.single, List.nodup_singleton _, ?_⟩
      intro item member other isNew same
      rw [List.mem_singleton.mp isNew] at same
      exact unstocked (same ▸ member)
    · intro auction member
      rw [known]
      rcases List.mem_append.mp member with old | new
      · exact sound.owners auction old
      · rw [List.mem_singleton.mp new]
        show (house.realm.player guid).isSome = true
        rw [Realm.player_of_getPlayer found]
        rfl
    · intro auction member isBid
      rw [known]
      rcases List.mem_append.mp member with old | new
      · exact sound.bidders auction old isBid
      · rw [List.mem_singleton.mp new] at isBid
        exact absurd rfl isBid
  · exact sound

end Sound

theorem sound_next (config : Config) (action : Action) (sound : Sound house) :
    Sound (house.next config action) := by
  cases action with
  | sellItem guid packet allowed =>
    unfold House.next
    dsimp only
    split
    · exact sound
    · rename_i player found
      exact sound.sell found packet allowed
  | placeBid guid side id price =>
    unfold House.next House.handleAuctionPlaceBid
    dsimp only
    split
    · exact sound
    · rename_i player found
      split
      · exact sound
      · rename_i auction isBid
        have member := getAuction_mem (bidOn_eq_some isBid).1
        split
        · exact sound.placeBid found member price
        · obtain ⟨paid, sends, _, same⟩ := buyOut_eq sound config found member
          rw [same]
          exact (sound.of_same sends.same).remove (sends.same.auctions.symm ▸ member)
  | removeItem guid side id =>
    unfold House.next House.handleAuctionRemoveItem
    dsimp only
    split
    · exact sound
    · rename_i player found
      split
      · exact sound
      · rename_i auction isCancelled
        have member := getAuction_mem (cancelOf_eq_some isCancelled).1
        obtain ⟨paid, sends, _, same⟩ := cancel_eq sound config found member
        rw [same]
        exact (sound.of_same sends.same).remove (sends.same.auctions.symm ▸ member)
  | update => exact (update_pass config sound).sound
  | wait seconds =>
    exact ⟨sound.ids, sound.fresh, sound.stock, sound.single, sound.owners, sound.bidders⟩
  | log guid online =>
    unfold House.next
    dsimp only
    split
    · exact sound
    · rename_i player found
      have known : ∀ (left : Player) (other : Nat),
          ((house.realm.setPlayer guid left).player other).isSome =
            (house.realm.player other).isSome := setPlayer_known found
      constructor
      · exact sound.ids
      · exact sound.fresh
      · exact sound.stock
      · exact sound.single
      · intro auction member
        rw [known]
        exact sound.owners auction member
      · intro auction member isBid
        rw [known]
        exact sound.bidders auction member isBid

theorem known_next (config : Config) (action : Action) (sound : Sound house) (other : Nat) :
    ((house.next config action).realm.player other).isSome =
      (house.realm.player other).isSome := by
  cases action with
  | sellItem guid packet allowed =>
    unfold House.next House.handleAuctionSellItem
    dsimp only
    split
    · rfl
    · rename_i player found
      split
      · exact setPlayer_known (Realm.player_of_getPlayer found) _ other
      · rfl
  | placeBid guid side id price =>
    unfold House.next House.handleAuctionPlaceBid
    dsimp only
    split
    · rfl
    · rename_i player found
      split
      · rfl
      · rename_i auction isBid
        have member := getAuction_mem (bidOn_eq_some isBid).1
        split
        · have sends := payBid_sends (sound.bidders auction member) guid price
          exact sends.same.faces.known other
        · obtain ⟨paid, sends, _, same⟩ := buyOut_eq sound config found member
          rw [same]
          exact sends.same.faces.known other
  | removeItem guid side id =>
    unfold House.next House.handleAuctionRemoveItem
    dsimp only
    split
    · rfl
    · rename_i player found
      split
      · rfl
      · rename_i auction isCancelled
        have member := getAuction_mem (cancelOf_eq_some isCancelled).1
        obtain ⟨paid, sends, _, same⟩ := cancel_eq sound config found member
        rw [same]
        exact sends.same.faces.known other
  | update => exact (update_pass config sound).faces.known other
  | wait seconds => rfl
  | log guid online =>
    unfold House.next
    dsimp only
    split
    · rfl
    · rename_i player found
      exact setPlayer_known found _ other

/-! ### Requests -/

def bidding (config : Config) (house : House) (guid : Nat) (side : Side) (id price : Nat) :
    Option Auction :=
  (house.realm.getPlayer guid).bind fun player => house.bidOn config guid player side id price

def cancelling (config : Config) (house : House) (guid : Nat) (side : Side) (id : Nat) :
    Option Auction :=
  (house.realm.getPlayer guid).bind fun player => house.cancelOf config guid player side id

theorem bidding_eq_some {side : Side} {id price : Nat}
    (isBid : bidding config house guid side id price = some auction) :
    ∃ player, house.realm.getPlayer guid = some player ∧
      house.bidOn config guid player side id price = some auction ∧
      house.next config (.placeBid guid side id price) =
        if auction.takesBid price = true then house.placeBid guid auction price
        else house.buyOut config guid auction := by
  obtain ⟨player, found, isBid⟩ := Option.bind_eq_some_iff.mp isBid
  refine ⟨player, found, isBid, ?_⟩
  unfold House.next House.handleAuctionPlaceBid
  dsimp only
  rw [found]
  dsimp only
  rw [isBid]

theorem bidding_eq_none {side : Side} {id price : Nat}
    (refused : bidding config house guid side id price = none) :
    house.next config (.placeBid guid side id price) = house := by
  unfold House.next House.handleAuctionPlaceBid
  dsimp only
  split
  · rfl
  · simp_all [bidding]

theorem cancelling_eq_some {side : Side} {id : Nat}
    (isCancelled : cancelling config house guid side id = some auction) :
    ∃ player, house.realm.getPlayer guid = some player ∧
      house.cancelOf config guid player side id = some auction ∧
      house.next config (.removeItem guid side id) =
        ((house.repayBid config guid auction).sendMail guid { items := [auction.item] } auction
          0).removeAuction auction := by
  obtain ⟨player, found, isCancelled⟩ := Option.bind_eq_some_iff.mp isCancelled
  refine ⟨player, found, isCancelled, ?_⟩
  unfold House.next House.handleAuctionRemoveItem
  dsimp only
  rw [found]
  dsimp only
  rw [isCancelled]

theorem cancelling_eq_none {side : Side} {id : Nat}
    (refused : cancelling config house guid side id = none) :
    house.next config (.removeItem guid side id) = house := by
  unfold House.next House.handleAuctionRemoveItem
  dsimp only
  split
  · rfl
  · simp_all [cancelling]

def rates (gmLogTrade : Bool) : Config where
  gmLogTrade := gmLogTrade
  cutFactor := 0
  fivePercent bid := bid / 20

def trader (account money : Nat) (isOnline : Bool) : Player where
  account := account
  purse := Purse.setMoney money
  inventory := []
  isOnline := isOnline
  mailsLoaded := false
  mailsUpdated := false
  mails := []
  mailedItems := []
  unReadMails := 0
  nextMailDelivereTime := 0

def lot : Auction where
  id := 9
  side := .neutral
  houseId := 7
  item := 70
  owner := 1
  startbid := 10
  bid := 20
  buyout := 100
  expireTime := 500
  bidder := 2
  deposit := 5

def bazaar : House where
  realm :=
    { player := fun guid =>
        if guid = 1 then some (trader 11 0 true)
        else if guid = 2 then some (trader 12 30 false)
        else if guid = 3 then some (trader 13 50 true)
        else none
      rows := []
      nextMailId := 1
      nextItem := 100
      time := 1000
      mailDeliveryDelay := 3600 }
  auctions := [lot]
  items := [70]
  nextAuctionId := 10

theorem bazaar_player {guid : Nat} {player : Player}
    (found : bazaar.realm.player guid = some player) :
    guid ∈ [1, 2, 3] ∧ player.purse.money ≤ 50 ∧ player.inventory = [] := by
  unfold bazaar at found
  dsimp only at found
  split at found
  · rename_i first
    injection found with isPlayer
    rw [first, ← isPlayer]
    decide
  · split at found
    · rename_i second
      injection found with isPlayer
      rw [second, ← isPlayer]
      decide
    · split at found
      · rename_i third
        injection found with isPlayer
        rw [third, ← isPlayer]
        decide
      · cases found

theorem bazaar_sound : Sound bazaar := by
  have single : ∀ auction ∈ bazaar.auctions, auction = lot := fun _ => List.mem_singleton.mp
  constructor
  · exact List.nodup_singleton _
  · intro auction member
    rw [single auction member]
    decide
  · exact List.Perm.refl _
  · exact List.nodup_singleton _
  · intro auction member
    rw [single auction member]
    rfl
  · intro auction member _
    rw [single auction member]
    rfl

end DarkCore.Auctions
