/-
The items of the auction houses. One that is put up for sale is the item of an
auction or attached to a mail ever after, as long as every winner of an auction
that expires is online or the trades of game masters are logged.
-/

import DarkCore.Auctions.Passes

namespace DarkCore.Auctions

open DarkCore.Lib DarkCore.Mails

def goods (house : House) : List Nat :=
  house.auctions.map (·.item) ++ house.realm.rows.flatMap (·.items)

def held (house : House) (guid : Nat) : List Nat :=
  ((house.realm.player guid).map (·.inventory)).getD []

structure Depot where
  house : House
  entered : List Nat

def entering (house : House) : Action → List Nat
  | .sellItem guid packet allowed =>
    match house.realm.getPlayer guid with
    | none => []
    | some player => if house.sells player packet allowed = true then [packet.item] else []
  | _ => []

def Depot.next (config : Config) (depot : Depot) (action : Action) : Depot where
  house := depot.house.next config action
  entered := depot.entered ++ entering depot.house action

def heir (auction : Auction) : Nat × Nat :=
  (if auction.bidder = 0 then auction.owner else auction.bidder, auction.item)

def deliveries (config : Config) (house : House) : Action → List (Nat × Nat)
  | .placeBid guid side id price =>
    match bidding config house guid side id price with
    | none => []
    | some auction => if auction.takesBid price = true then [] else [(guid, auction.item)]
  | .removeItem guid side id =>
    match cancelling config house guid side id with
    | none => []
    | some auction => [(auction.owner, auction.item)]
  | .update => (expiring house).map heir
  | _ => []

def KeptOnce (depot : Depot) : Prop :=
  ∀ item ∈ depot.entered, (goods depot.house).count item = 1

def Delivers (config : Config) (depot : Depot) (action : Action) : Prop :=
  ∃ rows, (depot.house.next config action).realm.rows = depot.house.realm.rows ++ rows ∧
    (rows.flatMap fun row => row.items.map fun item => (row.receiver, item)) =
      deliveries config depot.house action

def LookedUp (config : Config) (depot : Depot) : Action → Prop
  | .update =>
    ∀ auction ∈ expiring depot.house, auction.bidder ≠ 0 →
      (depot.house.realm.getPlayer auction.bidder).isSome = true ∨ config.gmLogTrade = true
  | _ => True

structure Stored (depot : Depot) : Prop where
  sound : Sound depot.house
  distinct : (goods depot.house).Nodup
  inside : depot.entered ⊆ goods depot.house
  apart : ∀ guid, ∀ item ∈ held depot.house guid, item ∉ goods depot.house
  single : ∀ guid other, guid ≠ other →
    ∀ item ∈ held depot.house guid, item ∉ held depot.house other

variable {config : Config} {house after : House} {auction : Auction} {guid price : Nat}
  {depot : Depot}

theorem Stored.keptOnce (stored : Stored depot) : KeptOnce depot := by
  intro item member
  exact List.count_eq_one_of_mem stored.distinct (stored.inside member)

theorem SameFaces.held (same : SameFaces house after) (guid : Nat) :
    held after guid = held house guid := by
  have faces := congrArg (Option.map fun face : Nat × List Nat × Bool => face.2.1) (same guid)
  rw [Option.map_map, Option.map_map] at faces
  unfold Auctions.held
  exact congrArg (·.getD []) faces

def cargo (parcels : List Parcel) : List (Nat × Nat) :=
  parcels.flatMap fun parcel => parcel.items.map fun item => (parcel.receiver, item)

theorem cargo_append (first second : List Parcel) :
    cargo (first ++ second) = cargo first ++ cargo second := List.flatMap_append

variable {parcels : List Parcel}

theorem cargo_of_posts (posts : Posts house after parcels) :
    ∃ rows, after.realm.rows = house.realm.rows ++ rows ∧
      (rows.flatMap fun row => row.items.map fun item => (row.receiver, item)) =
        cargo parcels := by
  obtain ⟨rows, isRows, isParcels⟩ := posts
  refine ⟨rows, isRows, ?_⟩
  unfold cargo
  rw [← isParcels, List.flatMap_map]
  rfl

theorem items_of_posts (posts : Posts house after parcels) :
    after.realm.rows.flatMap (·.items) =
      house.realm.rows.flatMap (·.items) ++ (cargo parcels).map (·.2) := by
  obtain ⟨rows, isRows, isParcels⟩ := posts
  have isItems : ∀ row : Mail, row.items =
      (((parcel row).items.map fun item => ((parcel row).receiver, item)).map (·.2)) := by
    intro row
    rw [List.map_map]
    exact (List.map_id row.items).symm
  unfold cargo
  rw [isRows, List.flatMap_append, ← isParcels, List.flatMap_map, List.map_flatMap]
  exact congrArg _ (congrArg (List.flatMap · rows) (funext isItems))

theorem cargo_outbidden (guid : Nat) (auction : Auction) : cargo (outbidden guid auction) = [] := by
  unfold outbidden
  split <;> rfl

theorem cargo_bought (config : Config) (guid : Nat) (auction : Auction) :
    cargo (bought config guid auction) = [(guid, auction.item)] := by
  unfold bought
  rw [cargo_append, cargo_outbidden]
  rfl

theorem cargo_cancelled (guid : Nat) (auction : Auction) :
    cargo (cancelled guid auction) = [(guid, auction.item)] := by
  unfold cancelled repaid
  rw [cargo_append]
  split <;> rfl

theorem cargo_endings {closing : List Auction}
    (lookedUp : ∀ auction ∈ closing, auction.bidder ≠ 0 →
      (house.realm.getPlayer auction.bidder).isSome = true ∨ config.gmLogTrade = true) :
    cargo (closing.flatMap (ending config house)) = closing.map heir := by
  induction closing with
  | nil => rfl
  | cons auction rest ih =>
    have later := ih fun other member => lookedUp other (List.mem_cons_of_mem _ member)
    rw [List.flatMap_cons, cargo_append, later, List.map_cons]
    have here : cargo (ending config house auction) = [heir auction] := by
      unfold ending heir
      split
      · rfl
      · rename_i isBid
        unfold sale won
        rw [if_pos (lookedUp auction List.mem_cons_self isBid)]
        rfl
    rw [here, List.singleton_append]

theorem goods_perm {moved : List Nat}
    (auctions : (house.auctions.map (·.item)).Perm (moved ++ after.auctions.map (·.item)))
    (posts : Posts house after parcels) (isCargo : (cargo parcels).map (·.2) = moved) :
    (goods after).Perm (goods house) := by
  unfold goods
  rw [items_of_posts posts, isCargo]
  have rotate : (after.auctions.map (·.item) ++ (house.realm.rows.flatMap (·.items) ++ moved)).Perm
      (moved ++ after.auctions.map (·.item) ++ house.realm.rows.flatMap (·.items)) := by
    grind
  exact rotate.trans (auctions.symm.append_right _)

structure Hands (config : Config) (depot : Depot) (action : Action) : Prop where
  stored : Stored (depot.next config action)
  delivers : Delivers config depot action

theorem hands_of_perm {action : Action} (stored : Stored depot)
    (perm : (goods (depot.house.next config action)).Perm (goods depot.house))
    (isHeld : ∀ guid, held (depot.house.next config action) guid = held depot.house guid)
    (nothing : entering depot.house action = [])
    (posts : Posts depot.house (depot.house.next config action) parcels)
    (isCargo : cargo parcels = deliveries config depot.house action) :
    Hands config depot action where
  stored := by
    constructor
    · exact sound_next config action stored.sound
    · exact perm.nodup_iff.mpr stored.distinct
    · unfold Depot.next
      rw [nothing, List.append_nil]
      exact fun item member => perm.symm.subset (stored.inside member)
    · intro guid item member inside
      rw [Depot.next, isHeld] at member
      exact stored.apart guid item member (perm.subset inside)
    · intro guid other apart item member
      rw [Depot.next, isHeld] at member
      rw [Depot.next, isHeld]
      exact stored.single guid other apart item member
  delivers := by
    obtain ⟨rows, isRows, carries⟩ := cargo_of_posts posts
    exact ⟨rows, isRows, carries.trans isCargo⟩

theorem hands_idle {action : Action} (stored : Stored depot)
    (same : depot.house.next config action = depot.house)
    (nothing : entering depot.house action = [])
    (noDeliveries : deliveries config depot.house action = []) : Hands config depot action := by
  refine hands_of_perm stored ?_ ?_ nothing (Posts.nothing ?_) noDeliveries.symm
  · rw [same]
  · simp [same]
  · rw [same]

theorem goods_removed {paid : House} (sound : Sound house)
    (member : auction ∈ house.auctions) (sends : Sends house paid parcels)
    (isCargo : (cargo parcels).map (·.2) = [auction.item]) :
    (goods (paid.removeAuction auction)).Perm (goods house) := by
  have there : auction ∈ paid.auctions := sends.same.auctions.symm ▸ member
  have perm := (removeAuction_perm (sound.of_same sends.same) there).map
    fun auction : Auction => auction.item
  rw [sends.same.auctions] at perm
  exact goods_perm perm sends.posts isCargo

theorem hands_placeBid {side : Side} {id : Nat} (stored : Stored depot)
    (isBid : bidding config depot.house guid side id price = some auction) :
    Hands config depot (.placeBid guid side id price) := by
  obtain ⟨player, found, accepted, same⟩ := bidding_eq_some isBid
  have member := getAuction_mem (bidOn_eq_some accepted).1
  have isDeliveries : deliveries config depot.house (.placeBid guid side id price) =
      if auction.takesBid price = true then [] else [(guid, auction.item)] := by
    simp [deliveries, isBid]
  by_cases takes : auction.takesBid price = true
  · rw [if_pos takes] at same isDeliveries
    have sends := payBid_sends (stored.sound.bidders auction member) guid price
    let bid : Auction → Auction := fun auction => { auction with bidder := guid, bid := price }
    have items : (depot.house.placeBid guid auction price).auctions.map (·.item) =
        depot.house.auctions.map (·.item) := by
      rw [← sends.same.auctions]
      exact map_changeFirst (fun other => show (bid other).item = other.item from rfl) _
    have carries := cargo_outbidden guid auction
    have posts : Posts depot.house (depot.house.placeBid guid auction price)
        (outbidden guid auction) := sends.posts
    refine hands_of_perm stored ?_ ?_ rfl (same.symm ▸ posts) (carries.trans isDeliveries.symm)
    · rw [same]
      have stays : (depot.house.auctions.map (·.item)).Perm
          ([] ++ (depot.house.placeBid guid auction price).auctions.map (·.item)) := by
        rw [items, List.nil_append]
      refine goods_perm stays posts ?_
      rw [carries]
      rfl
    · intro guid
      rw [same]
      exact sends.same.faces.held guid
  · rw [if_neg takes] at same isDeliveries
    obtain ⟨paid, sends, _, isNext⟩ := buyOut_eq stored.sound config found member
    rw [isNext] at same
    have carries := cargo_bought config guid auction
    have posts : Posts depot.house (paid.removeAuction auction) (bought config guid auction) :=
      sends.posts
    refine hands_of_perm stored ?_ ?_ rfl (same.symm ▸ posts) (carries.trans isDeliveries.symm)
    · rw [same]
      refine goods_removed stored.sound member sends ?_
      rw [carries]
      rfl
    · intro guid
      rw [same]
      exact sends.same.faces.held guid

theorem hands_removeItem {side : Side} {id : Nat} (stored : Stored depot)
    (isCancelled : cancelling config depot.house guid side id = some auction) :
    Hands config depot (.removeItem guid side id) := by
  obtain ⟨player, found, accepted, same⟩ := cancelling_eq_some isCancelled
  obtain ⟨isAuction, isOwner, _⟩ := cancelOf_eq_some accepted
  have member := getAuction_mem isAuction
  have isDeliveries : deliveries config depot.house (.removeItem guid side id) =
      [(guid, auction.item)] := by
    simp [deliveries, isCancelled, isOwner]
  obtain ⟨paid, sends, _, isNext⟩ := cancel_eq stored.sound config found member
  rw [isNext] at same
  have carries := cargo_cancelled guid auction
  have posts : Posts depot.house (paid.removeAuction auction) (cancelled guid auction) :=
    sends.posts
  refine hands_of_perm stored ?_ ?_ rfl (same.symm ▸ posts) (carries.trans isDeliveries.symm)
  · rw [same]
    refine goods_removed stored.sound member sends ?_
    rw [carries]
    rfl
  · intro guid
    rw [same]
    exact sends.same.faces.held guid

theorem hands_update (stored : Stored depot)
    (lookedUp : ∀ auction ∈ expiring depot.house, auction.bidder ≠ 0 →
      (depot.house.realm.getPlayer auction.bidder).isSome = true ∨ config.gmLogTrade = true) :
    Hands config depot .update := by
  have pass := update_pass config stored.sound
  have carries := cargo_endings lookedUp
  refine hands_of_perm stored ?_ pass.faces.held rfl pass.posts carries
  have auctions := pass.auctions.map fun auction : Auction => auction.item
  rw [List.map_append] at auctions
  refine goods_perm auctions pass.posts ?_
  rw [carries, List.map_map]
  rfl

theorem held_of_ne {other : Nat} (apart : other ≠ guid) {player : Player}
    (isRealm : after.realm = house.realm.setPlayer guid player) :
    held after other = held house other := by
  unfold held
  rw [isRealm, Realm.setPlayer_player_of_ne apart]

theorem held_self {player : Player}
    (isRealm : after.realm = house.realm.setPlayer guid player) :
    held after guid = player.inventory := by
  unfold held
  rw [isRealm, Realm.setPlayer_player_self]
  rfl

theorem hands_sellItem {packet : House.SellItem} {allowed : Bool} {player : Player}
    (stored : Stored depot) (found : depot.house.realm.getPlayer guid = some player)
    (sells : depot.house.sells player packet allowed = true) :
    Hands config depot (.sellItem guid packet allowed) := by
  obtain ⟨_, owned, _⟩ := sells_eq_true sells
  have there := Realm.player_of_getPlayer found
  have isHeld : held depot.house guid = player.inventory := by
    simp [held, there]
  have isEntering : entering depot.house (.sellItem guid packet allowed) = [packet.item] := by
    simp_all [entering]
  have isNext : depot.house.next config (.sellItem guid packet allowed) =
      depot.house.handleAuctionSellItem guid player packet allowed := by
    simp [House.next, found]
  unfold House.handleAuctionSellItem at isNext
  rw [if_pos sells] at isNext
  have isGoods : goods (depot.house.next config (.sellItem guid packet allowed)) =
      depot.house.auctions.map (·.item) ++ [packet.item] ++
        depot.house.realm.rows.flatMap (·.items) := by
    rw [isNext]
    unfold goods
    rw [List.map_append]
    rfl
  have perm : (goods (depot.house.next config (.sellItem guid packet allowed))).Perm
      (packet.item :: goods depot.house) := by
    rw [isGoods, List.append_assoc, List.singleton_append]
    exact List.perm_middle
  have seller : held (depot.house.next config (.sellItem guid packet allowed)) guid =
      player.inventory.filter fun item => decide (item ≠ packet.item) := by
    exact held_self (congrArg House.realm isNext)
  have others : ∀ other, other ≠ guid →
      held (depot.house.next config (.sellItem guid packet allowed)) other =
        held depot.house other := by
    intro other apart
    exact held_of_ne apart (congrArg House.realm isNext)
  -- what is held was held before, and is not the item that is sold
  have fewer : ∀ other, ∀ item ∈ held (depot.house.next config (.sellItem guid packet allowed))
      other, item ∈ held depot.house other ∧ item ≠ packet.item := by
    intro other item member
    by_cases here : other = guid
    · rw [here, seller] at member
      have filtered := List.mem_filter.mp member
      rw [here, isHeld]
      exact ⟨filtered.1, of_decide_eq_true filtered.2⟩
    · rw [others other here] at member
      refine ⟨member, fun same => stored.single guid other (Ne.symm here) packet.item ?_ ?_⟩
      · rw [isHeld]
        exact owned
      · exact same ▸ member
  constructor
  · constructor
    · exact sound_next config (.sellItem guid packet allowed) stored.sound
    · refine perm.nodup_iff.mpr (List.nodup_cons.mpr ⟨?_, stored.distinct⟩)
      exact stored.apart guid packet.item (isHeld.symm ▸ owned)
    · unfold Depot.next
      rw [isEntering]
      intro item member
      rcases List.mem_append.mp member with old | new
      · exact perm.symm.subset (List.mem_cons_of_mem _ (stored.inside old))
      · simp_all
    · intro other item member inside
      obtain ⟨had, apart⟩ := fewer other item member
      rcases List.mem_cons.mp (perm.subset inside) with same | old
      · exact apart same
      · exact stored.apart other item had old
    · intro first second apart item member other
      exact stored.single first second apart item (fewer first item member).1
        (fewer second item other).1
  · refine ⟨[], ?_, rfl⟩
    rw [isNext, List.append_nil]
    rfl

theorem log_held (config : Config) (guid : Nat) (online : Bool) (other : Nat) :
    held (house.next config (.log guid online)) other = held house other := by
  unfold House.next
  dsimp only
  split
  · rfl
  · rename_i player found
    by_cases here : other = guid
    · simp [held, here, Realm.setPlayer_player_self, found]
    · exact held_of_ne here rfl

theorem hands_next {action : Action} (stored : Stored depot)
    (lookedUp : LookedUp config depot action) : Hands config depot action := by
  cases action with
  | sellItem guid packet allowed =>
    cases found : depot.house.realm.getPlayer guid with
    | none =>
      refine hands_idle stored ?_ ?_ rfl
      · simp [House.next, found]
      · simp [entering, found]
    | some player =>
      by_cases sells : depot.house.sells player packet allowed = true
      · exact hands_sellItem stored found sells
      · refine hands_idle stored ?_ ?_ rfl
        · simp_all [House.next, House.handleAuctionSellItem]
        · simp_all [entering]
  | placeBid guid side id price =>
    cases isBid : bidding config depot.house guid side id price with
    | none =>
      refine hands_idle stored (bidding_eq_none isBid) rfl ?_
      unfold deliveries
      dsimp only
      rw [isBid]
    | some auction => exact hands_placeBid stored isBid
  | removeItem guid side id =>
    cases isCancelled : cancelling config depot.house guid side id with
    | none =>
      refine hands_idle stored (cancelling_eq_none isCancelled) rfl ?_
      unfold deliveries
      dsimp only
      rw [isCancelled]
    | some auction => exact hands_removeItem stored isCancelled
  | update => exact hands_update stored lookedUp
  | wait seconds =>
    exact hands_of_perm stored (List.Perm.refl _) (fun _ => rfl) rfl (Posts.nothing rfl) rfl
  | log guid online =>
    have posts : Posts depot.house (depot.house.next config (.log guid online)) [] := by
      refine Posts.nothing ?_
      unfold House.next
      dsimp only
      split <;> rfl
    refine hands_of_perm stored ?_ (log_held config guid online) rfl posts rfl
    refine goods_perm ?_ posts rfl
    unfold House.next
    dsimp only
    split <;> exact List.Perm.refl _

/-- As long as winners are looked up, every item is kept in one place, and goes with the mail to
the one who is to get it. -/
theorem Depot.always_kept {actions : List Action} (stored : Stored depot)
    (lookedUp : Along (Depot.next config) (LookedUp config) depot actions) :
    Always (Depot.next config) KeptOnce depot actions ∧
      Along (Depot.next config) (Delivers config) depot actions := by
  have kept : ∀ depot action, Stored depot → LookedUp config depot action →
      Stored (depot.next config action) :=
    fun _ _ stored lookedUp => (hands_next stored lookedUp).stored
  constructor
  · exact (always_of_step kept stored lookedUp).imp fun _ stored => stored.keptOnce
  · exact along_of_step kept (fun _ _ stored lookedUp => (hands_next stored lookedUp).delivers)
      stored lookedUp

def bazaarDepot : Depot where
  house := bazaar
  entered := [70]

theorem bazaarDepot_stored : Stored bazaarDepot := by
  have nothing : ∀ guid, held bazaar guid = [] := by
    intro guid
    unfold held
    cases found : bazaar.realm.player guid with
    | none => rfl
    | some player => exact (bazaar_player found).2.2
  constructor
  · exact bazaar_sound
  · exact List.nodup_singleton 70
  · exact List.Subset.refl _
  · intro guid item member
    have absurdity : item ∈ held bazaar guid := member
    rw [nothing] at absurdity
    cases absurdity
  · intro guid other _ item member
    have absurdity : item ∈ held bazaar guid := member
    rw [nothing] at absurdity
    cases absurdity

/-- With the log the account of the player 2 is looked up, and he gets what he won. -/
theorem Depot.always_kept_logged :
    Always (Depot.next (rates true)) KeptOnce bazaarDepot [.update] ∧
      Along (Depot.next (rates true)) (Delivers (rates true)) bazaarDepot [.update] :=
  Depot.always_kept bazaarDepot_stored ⟨fun _ _ _ => Or.inr rfl, trivial⟩

/-- Without the log his item is gone. -/
theorem Depot.not_always_kept :
    ¬ ∀ (config : Config) (depot : Depot) (actions : List Action), Stored depot →
      Always (Depot.next config) KeptOnce depot actions ∧
        Along (Depot.next config) (Delivers config) depot actions := by
  intro all
  obtain ⟨⟨_, after⟩, _⟩ := all (rates false) bazaarDepot [.update] bazaarDepot_stored
  have entered : 70 ∈ (bazaarDepot.next (rates false) .update).entered := by decide +kernel
  have gone : (goods (bazaarDepot.next (rates false) .update).house).count 70 = 0 := by
    decide +kernel
  have once := after 70 entered
  rw [gone] at once
  exact absurd once (by decide)

end DarkCore.Auctions
