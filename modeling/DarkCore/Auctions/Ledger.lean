/-
The money of the auction houses. What the bidder of an auction has been charged
is its bid, whoever is outbid gets it back, and purses, bids, deposits, mailed
money and what the houses keep are the same sum, as long as nobody bids more
than he has.
-/

import Mathlib.Algebra.BigOperators.Group.Finset.Basic
import DarkCore.Auctions.Passes

namespace DarkCore.Auctions

open DarkCore.Lib DarkCore.Mails
open DarkCore.Player (Purse uint32 uint32_of_lt maxMoneyAmount)

/-! ### Books -/

/-- The houses, with what was taken from the present bidder of each auction for it, and what
the houses kept of those that ended -/
structure Books where
  house : House
  paid : Nat → Nat
  kept : Nat

def taken (house after : House) (guid : Nat) : Nat :=
  (balance house.realm guid).getD 0 - (balance after.realm guid).getD 0

def keepOf (config : Config) (auction : Auction) : Nat :=
  if auction.bidder = 0 then auction.deposit else auction.cut config

def keeps (config : Config) (house : House) : Action → Nat
  | .placeBid guid side id price =>
    match bidding config house guid side id price with
    | none => 0
    | some auction =>
      if auction.takesBid price = true then 0
      else (House.boughtOut guid auction).cut config
  | .removeItem guid side id =>
    match cancelling config house guid side id with
    | none => 0
    | some auction =>
      auction.deposit + if auction.bidder = 0 then 0 else auction.cut config
  | .update => ((expiring house).map (keepOf config)).sum
  | _ => 0

def Books.next (config : Config) (books : Books) (action : Action) : Books where
  house := books.house.next config action
  paid :=
    match action with
    | .placeBid guid side id price =>
      match bidding config books.house guid side id price with
      | none => books.paid
      | some auction =>
        Function.update books.paid id
          ((if auction.bidder = guid then books.paid id else 0) +
            taken books.house (books.house.next config action) guid)
    | _ => books.paid
  kept := books.kept + keeps config books.house action

def proceeds (config : Config) (auction : Auction) : Nat × Nat :=
  (auction.owner, auction.bid + auction.deposit - auction.cut config)

/-- Whom a step is to send how much: who is outbid what he paid, who sold his due -/
def dues (config : Config) (books : Books) : Action → List (Nat × Nat)
  | .placeBid guid side id price =>
    match bidding config books.house guid side id price with
    | none => []
    | some auction =>
      (if auction.bidder = 0 ∨ auction.bidder = guid then []
        else [(auction.bidder, books.paid id)]) ++
      (if auction.takesBid price = true then []
        else [proceeds config (House.boughtOut guid auction)])
  | .removeItem guid side id =>
    match cancelling config books.house guid side id with
    | none => []
    | some auction =>
      if auction.bidder = 0 then [] else [(auction.bidder, books.paid auction.id)]
  | .update =>
    ((expiring books.house).filter fun auction => decide (auction.bidder ≠ 0)).map
      (proceeds config)
  | _ => []

def nonzero (amounts : List (Nat × Nat)) : List (Nat × Nat) :=
  amounts.filter fun amount => decide (amount.2 ≠ 0)

def total (people : Finset Nat) (books : Books) : Nat :=
  (∑ guid ∈ people, (balance books.house.realm guid).getD 0) +
    (books.house.auctions.map fun auction => auction.bid + auction.deposit).sum +
    books.kept + (books.house.realm.rows.map (·.money)).sum

def Agrees (books : Books) : Prop :=
  ∀ auction ∈ books.house.auctions, auction.bidder ≠ 0 → books.paid auction.id = auction.bid

/-- A step mails what is due, each amount once, and no money is made or lost. -/
structure Settles (config : Config) (people : Finset Nat) (books : Books) (action : Action) :
    Prop where
  mailed : ∃ rows, (books.house.next config action).realm.rows = books.house.realm.rows ++ rows ∧
    nonzero (rows.map fun row => (row.receiver, row.money)) = nonzero (dues config books action)
  total : total people (books.next config action) = total people books

def Covered (config : Config) (books : Books) : Action → Prop
  | .placeBid guid side id price =>
    ∀ player auction, books.house.realm.getPlayer guid = some player →
      books.house.bidOn config guid player side id price = some auction →
      if auction.takesBid price = true then price ≤ player.purse.money
      else auction.buyout ≤ player.purse.money ∧
        (House.boughtOut guid auction).cut config ≤ auction.buyout + auction.deposit
  | .update =>
    ∀ auction ∈ expiring books.house, auction.bidder ≠ 0 →
      auction.cut config ≤ auction.bid + auction.deposit
  | _ => True

/-! ### Amounts of mails -/

variable {config : Config} {house after : House} {auction : Auction} {guid price amount : Nat}
  {people : Finset Nat} {books : Books}

def owned (people : Finset Nat) (house : House) : Nat :=
  ∑ guid ∈ people, (balance house.realm guid).getD 0

def staked (auctions : List Auction) : Nat :=
  (auctions.map fun auction => auction.bid + auction.deposit).sum

def mailed (house : House) : Nat := (house.realm.rows.map (·.money)).sum

def amounts (parcels : List Parcel) : List (Nat × Nat) :=
  parcels.map fun parcel => (parcel.receiver, parcel.money)

theorem nonzero_append (first second : List (Nat × Nat)) :
    nonzero (first ++ second) = nonzero first ++ nonzero second := List.filter_append ..

theorem amounts_append (first second : List Parcel) :
    amounts (first ++ second) = amounts first ++ amounts second := List.map_append

theorem mailed_of_posts {parcels : List Parcel} (posts : Posts house after parcels) :
    mailed after = mailed house + ((amounts parcels).map (·.2)).sum := by
  obtain ⟨rows, isRows, isParcels⟩ := posts
  unfold mailed amounts
  rw [isRows, List.map_append, List.sum_append, ← isParcels, List.map_map, List.map_map]
  rfl

theorem rows_of_posts {parcels : List Parcel} (posts : Posts house after parcels) :
    ∃ rows, after.realm.rows = house.realm.rows ++ rows ∧
      (rows.map fun row => (row.receiver, row.money)) = amounts parcels := by
  obtain ⟨rows, isRows, isParcels⟩ := posts
  refine ⟨rows, isRows, ?_⟩
  unfold amounts
  rw [← isParcels, List.map_map]
  rfl

theorem owned_of_free (free : Free house after) : owned people after = owned people house := by
  unfold owned
  rw [free]

theorem owned_of_charges (charges : Charges house after guid amount) (member : guid ∈ people) :
    owned people after + amount = owned people house := by
  obtain ⟨left, isLeft, before⟩ := charges.payer
  unfold owned
  rw [← Finset.add_sum_erase people _ member, ← Finset.add_sum_erase people _ member, isLeft,
    before, Option.getD_some, Option.getD_some]
  have others : ∑ other ∈ people.erase guid, (balance after.realm other).getD 0 =
      ∑ other ∈ people.erase guid, (balance house.realm other).getD 0 := by
    refine Finset.sum_congr rfl fun other member => ?_
    rw [charges.others other (Finset.ne_of_mem_erase member)]
  rw [others]
  omega

theorem taken_of_charges (charges : Charges house after guid amount) :
    taken house after guid = amount := by
  obtain ⟨left, isLeft, before⟩ := charges.payer
  unfold taken
  rw [isLeft, before, Option.getD_some, Option.getD_some, Nat.add_sub_cancel_left]

/-! ### Houses that can pay -/

structure Fair (auction : Auction) : Prop where
  bid : auction.bid ≤ maxMoneyAmount
  deposit : auction.deposit ≤ maxMoneyAmount
  unbid : auction.bidder = 0 → auction.bid = 0
  buyout : auction.buyout ≠ 0 → auction.bid < auction.buyout

structure Solvent (house : House) : Prop where
  sound : Sound house
  nobody : (house.realm.player 0).isSome = false
  limits : ∀ guid money, balance house.realm guid = some money → money ≤ maxMoneyAmount
  fair : ∀ auction ∈ house.auctions, Fair auction

def Poorer (house after : House) : Prop :=
  ∀ guid money, balance after.realm guid = some money →
    ∃ before, balance house.realm guid = some before ∧ money ≤ before

theorem Free.poorer (free : Free house after) : Poorer house after := by
  intro guid money isMoney
  exact ⟨money, (congrFun free guid).symm.trans isMoney, Nat.le_refl money⟩

theorem Charges.poorer (charges : Charges house after guid amount) : Poorer house after := by
  intro other money isMoney
  by_cases here : other = guid
  · obtain ⟨left, isLeft, before⟩ := charges.payer
    rw [here, isLeft] at isMoney
    injection isMoney with isMoney
    rw [here]
    exact ⟨_, before, by omega⟩
  · exact ⟨money, (charges.others other here).symm.trans isMoney, Nat.le_refl money⟩

theorem Solvent.keep (solvent : Solvent house) (sound : Sound after)
    (known : ∀ other, (after.realm.player other).isSome = (house.realm.player other).isSome)
    (poorer : Poorer house after) (fair : ∀ auction ∈ after.auctions, Fair auction) :
    Solvent after where
  sound := sound
  nobody := (known 0).trans solvent.nobody
  limits other money isMoney := by
    obtain ⟨before, isBefore, less⟩ := poorer other money isMoney
    exact Nat.le_trans less (solvent.limits other before isBefore)
  fair := fair

theorem Solvent.removed (solvent : Solvent house) (sound : Sound after)
    (inside : auction ∈ house.auctions)
    (isAuctions : after.auctions = (house.removeAuction auction).auctions)
    (known : ∀ other, (after.realm.player other).isSome = (house.realm.player other).isSome)
    (poorer : Poorer house after) : Solvent after := by
  refine solvent.keep sound known poorer ?_
  intro other left
  rw [isAuctions] at left
  exact solvent.fair other (removed_mem solvent.sound inside left)

theorem profit_eq (bid : auction.bid ≤ maxMoneyAmount) (deposit : auction.deposit ≤ maxMoneyAmount)
    (enough : auction.cut config ≤ auction.bid + auction.deposit) :
    uint32 (auction.profit config) = auction.bid + auction.deposit - auction.cut config := by
  unfold maxMoneyAmount at bid deposit
  have isProfit : auction.profit config =
      auction.bid + auction.deposit - auction.cut config := by
    unfold Auction.profit
    omega
  rw [isProfit, uint32_of_lt (by omega)]

theorem Fair.small (fair : Fair auction) : auction.bid < 2 ^ 32 := by
  have bid := fair.bid
  unfold maxMoneyAmount at bid
  omega

theorem charge_outbidden (guid : Nat) (fair : Fair auction) (above : auction.bid ≤ price) :
    charge guid auction price + auction.bid =
      price + ((amounts (outbidden guid auction)).map (·.2)).sum := by
  unfold charge outbidden
  by_cases unbid : auction.bidder = 0
  · rw [if_pos (Or.inl unbid), fair.unbid unbid, Nat.sub_zero, ite_self]
    rfl
  · by_cases again : auction.bidder = guid
    · rw [if_pos again, if_pos (Or.inr again), Nat.sub_add_cancel above]
      rfl
    · rw [if_neg again, if_neg (by rintro (is | is) <;> contradiction), uint32_of_lt fair.small]
      rfl

theorem paid_charge (above : auction.bid ≤ price) :
    (if auction.bidder = guid then auction.bid else 0) + charge guid auction price = price := by
  unfold charge
  split
  · exact Nat.add_sub_cancel' above
  · exact Nat.zero_add price

theorem outbidden_amounts (fair : Fair auction) (agrees : Agrees books)
    (member : auction ∈ books.house.auctions) :
    amounts (outbidden guid auction) =
      if auction.bidder = 0 ∨ auction.bidder = guid then []
      else [(auction.bidder, books.paid auction.id)] := by
  unfold outbidden
  split
  · rfl
  · rename_i other
    rw [agrees auction member fun unbid => other (Or.inl unbid), uint32_of_lt fair.small]
    rfl

theorem staked_perm {auctions others : List Auction} (perm : auctions.Perm others) :
    staked auctions = staked others := (perm.map _).sum_eq

theorem staked_cons (auction : Auction) (rest : List Auction) :
    staked (auction :: rest) = auction.bid + auction.deposit + staked rest := List.sum_cons

variable {player : Player}

theorem nonzero_guid (solvent : Solvent house)
    (found : house.realm.getPlayer guid = some player) : guid ≠ 0 := by
  intro isZero
  have nobody := solvent.nobody
  rw [← isZero, Realm.player_of_getPlayer found] at nobody
  cases nobody

theorem Fair.outbid (fair : Fair auction) (takes : auction.takesBid price = true)
    (limit : price ≤ maxMoneyAmount) (somebody : guid ≠ 0) :
    Fair { auction with bidder := guid, bid := price } where
  bid := limit
  deposit := fair.deposit
  unbid := fun nobody => absurd nobody somebody
  buyout := by
    unfold Auction.takesBid at takes
    rw [Bool.or_eq_true, decide_eq_true_iff, decide_eq_true_iff] at takes
    intro isBuyout
    rcases takes with below | noBuyout
    · exact below
    · exact absurd noBuyout isBuyout

/-! ### Steps -/

structure Step (config : Config) (people : Finset Nat) (books : Books) (action : Action) :
    Prop where
  settles : Settles config people books action
  agrees : Agrees (books.next config action)
  solvent : Solvent (books.house.next config action)

theorem total_eq (people : Finset Nat) (books : Books) :
    total people books =
      owned people books.house + staked books.house.auctions + books.kept + mailed books.house :=
  rfl

theorem step_idle {action : Action} (solvent : Solvent books.house) (agrees : Agrees books)
    (free : Free books.house (books.house.next config action))
    (rows : (books.house.next config action).realm.rows = books.house.realm.rows)
    (auctions : (books.house.next config action).auctions = books.house.auctions)
    (known : ∀ other, ((books.house.next config action).realm.player other).isSome =
      (books.house.realm.player other).isSome)
    (noKeeps : keeps config books.house action = 0) (noDues : dues config books action = [])
    (paid : (books.next config action).paid = books.paid) : Step config people books action where
  settles := by
    constructor
    · exact ⟨[], by rw [rows, List.append_nil], by rw [noDues]; rfl⟩
    · rw [total_eq, total_eq]
      have kept : (books.next config action).kept = books.kept := by
        simp [Books.next, noKeeps, Nat.add_zero]
      have isOwned : owned people (books.house.next config action) = owned people books.house :=
        owned_of_free free
      have isMailed : mailed (books.house.next config action) = mailed books.house := by
        simp [mailed, rows]
      unfold Books.next at kept ⊢
      rw [kept, isOwned, isMailed, auctions]
  agrees := by
    intro auction member isBid
    rw [paid]
    exact agrees auction (auctions ▸ member) isBid
  solvent := by
    refine solvent.keep (sound_next config action solvent.sound) known free.poorer ?_
    intro auction member
    exact solvent.fair auction (auctions ▸ member)

theorem step_placeBid {side : Side} {id : Nat} (solvent : Solvent books.house)
    (agrees : Agrees books) (member : guid ∈ people)
    (isBid : bidding config books.house guid side id price = some auction)
    (found : books.house.realm.getPlayer guid = some player)
    (takes : auction.takesBid price = true) (above : auction.bid < price)
    (isAuction : books.house.getAuction side id = some auction)
    (covered : price ≤ player.purse.money)
    (same : books.house.next config (.placeBid guid side id price) =
      books.house.placeBid guid auction price) :
    Step config people books (.placeBid guid side id price) := by
  have inside := getAuction_mem isAuction
  have fair := solvent.fair auction inside
  have isMoney := balance_of_getPlayer found
  have limit := solvent.limits guid _ isMoney
  have sends := payBid_sends (solvent.sound.bidders auction inside) guid price
  have charges := payBid_charges isMoney limit covered above.le fair.unbid
  have isId := (getAuction_key isAuction).1
  let bid : Auction → Auction := fun auction => { auction with bidder := guid, bid := price }
  have isAuctions : (books.house.next config (.placeBid guid side id price)).auctions =
      changeFirst (House.isAuction auction.side auction.id) bid books.house.auctions := by
    rw [same, ← sends.same.auctions]
    rfl
  have isRealm : (books.house.next config (.placeBid guid side id price)).realm =
      (books.house.payBid guid auction price).realm := by
    rw [same]
    rfl
  have perm := removeAuction_perm solvent.sound inside
  have afterPerm : (books.house.next config (.placeBid guid side id price)).auctions.Perm
      (bid auction :: (books.house.removeAuction auction).auctions) := by
    rw [isAuctions]
    exact changeFirst_perm (solvent.sound.getAuction inside) bid
  have chargesNext : Charges books.house (books.house.next config (.placeBid guid side id price))
      guid (charge guid auction price) :=
    ⟨fun other apart => isRealm ▸ charges.others other apart, isRealm ▸ charges.payer⟩
  have postsNext : Posts books.house (books.house.next config (.placeBid guid side id price))
      (outbidden guid auction) := by
    unfold Posts
    rw [isRealm]
    exact sends.posts
  constructor
  · constructor
    · obtain ⟨rows, isRows, isAmounts⟩ := rows_of_posts postsNext
      refine ⟨rows, isRows, ?_⟩
      unfold dues
      dsimp only
      rw [isAmounts, outbidden_amounts fair agrees inside, isBid]
      dsimp only
      rw [if_pos takes, List.append_nil, isId]
    · have noKeeps : keeps config books.house (.placeBid guid side id price) = 0 := by
        simp_all [keeps]
      have isOwned := owned_of_charges chargesNext member
      have isMailed := mailed_of_posts postsNext
      have balanced := charge_outbidden guid fair above.le
      have isStaked := (staked_perm perm).trans (staked_cons ..)
      have staysStaked := (staked_perm afterPerm).trans (staked_cons ..)
      have isBidOf : (bid auction).bid + (bid auction).deposit = price + auction.deposit := rfl
      rw [total_eq, total_eq]
      unfold Books.next
      dsimp only
      rw [noKeeps, staysStaked, isMailed, isStaked]
      omega
  · intro other left isBidden
    unfold Books.next
    dsimp only
    rw [isBid]
    dsimp only
    rw [taken_of_charges chargesNext]
    rcases List.mem_cons.mp (afterPerm.subset left) with new | old
    · rw [new]
      show Function.update books.paid id _ auction.id = price
      have before : (if auction.bidder = guid then books.paid id else 0) =
          if auction.bidder = guid then auction.bid else 0 := by
        split
        · rename_i again
          rw [← isId, agrees auction inside (again ▸ nonzero_guid solvent found)]
        · rfl
      rw [isId, Function.update_self, before, paid_charge above.le]
    · rw [Function.update_of_ne (isId ▸ removed_id solvent.sound inside old)]
      exact agrees other (removed_mem solvent.sound inside old) isBidden
  · refine solvent.keep (sound_next config _ solvent.sound) ?_ chargesNext.poorer ?_
    · rw [isRealm]
      exact sends.same.faces.known
    · intro other left
      rcases List.mem_cons.mp (afterPerm.subset left) with new | old
      · rw [new]
        exact fair.outbid takes (Nat.le_trans covered limit) (nonzero_guid solvent found)
      · exact solvent.fair other (removed_mem solvent.sound inside old)

theorem amounts_sale (owner profit winner item : Nat) :
    amounts [⟨owner, 0, []⟩, ⟨owner, profit, []⟩, ⟨winner, 0, [item]⟩] =
      [(owner, 0), (owner, profit), (winner, 0)] := rfl

theorem nonzero_cons_zero (receiver : Nat) (rest : List (Nat × Nat)) :
    nonzero ((receiver, 0) :: rest) = nonzero rest :=
  List.filter_cons_of_neg (by rw [decide_eq_true_iff]; exact not_not_intro rfl)

theorem nonzero_sale (owner profit winner : Nat) :
    nonzero [(owner, 0), (owner, profit), (winner, 0)] = nonzero [(owner, profit)] := by
  have last : [(owner, profit), (winner, 0)] = [(owner, profit)] ++ [(winner, 0)] := rfl
  rw [nonzero_cons_zero, last, nonzero_append, nonzero_cons_zero]
  exact List.append_nil _

theorem agrees_removed {paid : Nat → Nat} (sound : Sound house) (agrees : Agrees books)
    (isHouse : books.house = house) (member : auction ∈ house.auctions)
    (same : after.auctions = (house.removeAuction auction).auctions)
    (kept : ∀ id, id ≠ auction.id → paid id = books.paid id) :
    ∀ other ∈ after.auctions, other.bidder ≠ 0 → paid other.id = other.bid := by
  intro other left isBid
  rw [same] at left
  rw [kept other.id (removed_id sound member left)]
  exact agrees other (isHouse ▸ removed_mem sound member left) isBid

theorem step_buyOut {side : Side} {id : Nat} (solvent : Solvent books.house)
    (agrees : Agrees books) (member : guid ∈ people)
    (isBid : bidding config books.house guid side id price = some auction)
    (found : books.house.realm.getPlayer guid = some player)
    (buysOut : auction.takesBid price = false)
    (isAuction : books.house.getAuction side id = some auction)
    (covered : auction.buyout ≤ player.purse.money)
    (enough : (House.boughtOut guid auction).cut config ≤ auction.buyout + auction.deposit)
    (same : books.house.next config (.placeBid guid side id price) =
      books.house.buyOut config guid auction) :
    Step config people books (.placeBid guid side id price) := by
  have inside := getAuction_mem isAuction
  have fair := solvent.fair auction inside
  have isMoney := balance_of_getPlayer found
  have limit := solvent.limits guid _ isMoney
  have isId := (getAuction_key isAuction).1
  have notBid : ¬ auction.takesBid price = true := by
    simp [buysOut]
  have above : auction.bid ≤ auction.buyout := by
    unfold Auction.takesBid at buysOut
    rw [Bool.or_eq_false_iff, decide_eq_false_iff_not, decide_eq_false_iff_not] at buysOut
    exact (fair.buyout buysOut.2).le
  obtain ⟨paid, sends, free, isNext⟩ := buyOut_eq solvent.sound config found inside
  rw [isNext] at same
  have chargesPaid := (payBuyOut_charges isMoney limit covered above).then_free free
  have isAuctions : (books.house.next config (.placeBid guid side id price)).auctions =
      (books.house.removeAuction auction).auctions := by
    simp [House.removeAuction, same, sends.same.auctions]
  have isRealm : (books.house.next config (.placeBid guid side id price)).realm = paid.realm := by
    rw [same]
    rfl
  have charges : Charges books.house (books.house.next config (.placeBid guid side id price))
      guid (charge guid auction auction.buyout) :=
    ⟨fun other apart => isRealm ▸ chargesPaid.others other apart, isRealm ▸ chargesPaid.payer⟩
  have posts : Posts books.house (books.house.next config (.placeBid guid side id price))
      (bought config guid auction) := by
    unfold Posts
    rw [isRealm]
    exact sends.posts
  have profit : uint32 ((House.boughtOut guid auction).profit config) =
      auction.buyout + auction.deposit - (House.boughtOut guid auction).cut config :=
    profit_eq (Nat.le_trans covered limit) fair.deposit enough
  constructor
  · constructor
    · obtain ⟨rows, isRows, isAmounts⟩ := rows_of_posts posts
      refine ⟨rows, isRows, ?_⟩
      unfold dues
      dsimp only
      unfold bought at isAmounts
      rw [isAmounts, amounts_append, outbidden_amounts fair agrees inside, profit, amounts_sale,
        isBid]
      dsimp only
      have isProceeds : proceeds config (House.boughtOut guid auction) = (auction.owner,
          auction.buyout + auction.deposit - (House.boughtOut guid auction).cut config) := rfl
      rw [if_neg notBid, isId, nonzero_append, nonzero_append, nonzero_sale, isProceeds]
    · have noKeeps : keeps config books.house (.placeBid guid side id price) =
          (House.boughtOut guid auction).cut config := by
        unfold keeps
        dsimp only
        rw [isBid]
        exact if_neg notBid
      have isOwned := owned_of_charges charges member
      have isMailed := mailed_of_posts posts
      have balanced := charge_outbidden guid fair above
      have isStaked := (staked_perm (removeAuction_perm solvent.sound inside)).trans
        (staked_cons ..)
      unfold bought at isMailed
      rw [profit, amounts_append, amounts_sale, List.map_append, List.sum_append] at isMailed
      rw [List.map_cons, List.map_cons, List.map_singleton, List.sum_cons, List.sum_cons,
        List.sum_singleton] at isMailed
      rw [total_eq, total_eq]
      unfold Books.next
      dsimp only
      rw [noKeeps, isAuctions, isMailed, isStaked]
      omega
  · refine agrees_removed solvent.sound agrees rfl inside isAuctions ?_
    intro other apart
    unfold Books.next
    dsimp only
    rw [isBid]
    exact Function.update_of_ne (isId ▸ apart) ..
  · exact solvent.removed (sound_next config _ solvent.sound) inside isAuctions
      (isRealm ▸ sends.same.faces.known) charges.poorer

theorem step_cancel {side : Side} {id : Nat} (solvent : Solvent books.house)
    (agrees : Agrees books) (member : guid ∈ people)
    (isCancelled : cancelling config books.house guid side id = some auction)
    (found : books.house.realm.getPlayer guid = some player)
    (isAuction : books.house.getAuction side id = some auction)
    (enough : auction.bidder ≠ 0 → auction.cut config ≤ player.purse.money)
    (same : books.house.next config (.removeItem guid side id) =
      ((books.house.repayBid config guid auction).sendMail guid { items := [auction.item] } auction
          0).removeAuction auction) :
    Step config people books (.removeItem guid side id) := by
  have inside := getAuction_mem isAuction
  have fair := solvent.fair auction inside
  have isMoney := balance_of_getPlayer found
  have limit := solvent.limits guid _ isMoney
  obtain ⟨paid, sends, free, isNext⟩ := cancel_eq solvent.sound config found inside
  rw [isNext] at same
  have chargesPaid := (repayBid_charges config isMoney limit enough).then_free free
  have isAuctions : (books.house.next config (.removeItem guid side id)).auctions =
      (books.house.removeAuction auction).auctions := by
    simp [House.removeAuction, same, sends.same.auctions]
  have isRealm : (books.house.next config (.removeItem guid side id)).realm = paid.realm := by
    rw [same]
    rfl
  have charges : Charges books.house (books.house.next config (.removeItem guid side id)) guid
      (if auction.bidder = 0 then 0 else auction.cut config) :=
    ⟨fun other apart => isRealm ▸ chargesPaid.others other apart, isRealm ▸ chargesPaid.payer⟩
  have posts : Posts books.house (books.house.next config (.removeItem guid side id))
      (cancelled guid auction) := by
    unfold Posts
    rw [isRealm]
    exact sends.posts
  have bidBack : amounts (repaid auction) =
      if auction.bidder = 0 then [] else [(auction.bidder, books.paid auction.id)] := by
    unfold repaid
    split
    · rfl
    · rename_i isBid
      rw [agrees auction inside isBid, uint32_of_lt fair.small]
      rfl
  have itemBack : amounts [⟨guid, 0, [auction.item]⟩] = [(guid, 0)] := rfl
  unfold cancelled at posts
  constructor
  · constructor
    · obtain ⟨rows, isRows, isAmounts⟩ := rows_of_posts posts
      refine ⟨rows, isRows, ?_⟩
      unfold dues
      dsimp only
      rw [isAmounts, amounts_append, bidBack, itemBack, nonzero_append, nonzero_cons_zero,
        isCancelled]
      exact List.append_nil _
    · have noKeeps : keeps config books.house (.removeItem guid side id) =
          auction.deposit + if auction.bidder = 0 then 0 else auction.cut config := by
        simp [keeps, isCancelled]
      have isOwned := owned_of_charges charges member
      have isMailed := mailed_of_posts posts
      have isStaked := (staked_perm (removeAuction_perm solvent.sound inside)).trans
        (staked_cons ..)
      have back : ((amounts (repaid auction)).map (·.2)).sum = auction.bid := by
        rw [bidBack]
        split
        · rename_i unbid
          exact (fair.unbid unbid).symm
        · rename_i isBid
          rw [List.map_singleton, List.sum_singleton]
          exact agrees auction inside isBid
      rw [amounts_append, itemBack, List.map_append, List.sum_append, back, List.map_singleton,
        List.sum_singleton] at isMailed
      rw [total_eq, total_eq]
      unfold Books.next
      dsimp only
      rw [noKeeps, isAuctions, isMailed, isStaked]
      omega
  · exact agrees_removed solvent.sound agrees rfl inside isAuctions fun _ _ => rfl
  · exact solvent.removed (sound_next config _ solvent.sound) inside isAuctions
      (isRealm ▸ sends.same.faces.known) charges.poorer

/-! ### Passes -/

theorem ending_amounts (config : Config) (house : House) (fair : Fair auction)
    (enough : auction.bidder ≠ 0 → auction.cut config ≤ auction.bid + auction.deposit) :
    nonzero (amounts (ending config house auction)) =
      if auction.bidder = 0 then [] else nonzero [proceeds config auction] := by
  unfold ending
  split
  · exact nonzero_cons_zero ..
  · rename_i isBid
    unfold sale won
    rw [profit_eq fair.bid fair.deposit (enough isBid)]
    have first : ∀ rest : List Parcel,
        amounts (⟨auction.owner, auction.bid + auction.deposit - auction.cut config, []⟩ :: rest) =
          [proceeds config auction] ++ amounts rest := fun _ => rfl
    rw [first, nonzero_append]
    split
    · have item : amounts [⟨auction.bidder, 0, [auction.item]⟩] = [(auction.bidder, 0)] := rfl
      rw [item, nonzero_cons_zero]
      exact List.append_nil _
    · exact List.append_nil _

theorem sum_nonzero (amounts : List (Nat × Nat)) :
    ((nonzero amounts).map (·.2)).sum = (amounts.map (·.2)).sum := by
  induction amounts with
  | nil => rfl
  | cons amount rest ih =>
    unfold nonzero at ih ⊢
    rw [List.filter_cons]
    split
    · rw [List.map_cons, List.map_cons, List.sum_cons, List.sum_cons, ih]
    · rename_i isZero
      rw [decide_eq_true_iff, not_not] at isZero
      rw [List.map_cons, List.sum_cons, isZero, Nat.zero_add, ih]

theorem endings_amounts (config : Config) (house : House) {closing : List Auction}
    (fair : ∀ auction ∈ closing, Fair auction)
    (enough : ∀ auction ∈ closing, auction.bidder ≠ 0 →
      auction.cut config ≤ auction.bid + auction.deposit) :
    nonzero (amounts (closing.flatMap (ending config house))) =
      nonzero ((closing.filter fun auction => decide (auction.bidder ≠ 0)).map
        (proceeds config)) := by
  induction closing with
  | nil => rfl
  | cons auction rest ih =>
    have later := ih (fun other member => fair other (List.mem_cons_of_mem _ member))
      fun other member => enough other (List.mem_cons_of_mem _ member)
    have here := ending_amounts config house (fair auction List.mem_cons_self)
      (enough auction List.mem_cons_self)
    rw [List.flatMap_cons, amounts_append, nonzero_append, later, here]
    by_cases unbid : auction.bidder = 0
    · have skipped : ¬ decide (auction.bidder ≠ 0) = true := by
        simp_all
      rw [if_pos unbid, List.filter_cons, if_neg skipped, List.nil_append]
    · rw [if_neg unbid, List.filter_cons, if_pos (decide_eq_true unbid), List.map_cons,
        ← nonzero_append, List.singleton_append]

theorem endings_staked (config : Config) (house : House) {closing : List Auction}
    (fair : ∀ auction ∈ closing, Fair auction)
    (enough : ∀ auction ∈ closing, auction.bidder ≠ 0 →
      auction.cut config ≤ auction.bid + auction.deposit) :
    ((amounts (closing.flatMap (ending config house))).map (·.2)).sum +
      (closing.map (keepOf config)).sum = staked closing := by
  induction closing with
  | nil => rfl
  | cons auction rest ih =>
    have later := ih (fun other member => fair other (List.mem_cons_of_mem _ member))
      fun other member => enough other (List.mem_cons_of_mem _ member)
    have isFair := fair auction List.mem_cons_self
    have isEnough := enough auction List.mem_cons_self
    have here := ending_amounts config house isFair isEnough
    rw [List.flatMap_cons, amounts_append, List.map_append, List.sum_append, List.map_cons,
      List.sum_cons, staked_cons, ← later, ← sum_nonzero (amounts (ending config house auction)),
      here]
    unfold keepOf
    by_cases unbid : auction.bidder = 0
    · rw [if_pos unbid, if_pos unbid, isFair.unbid unbid, List.map_nil, List.sum_nil]
      omega
    · have single : [proceeds config auction].map (·.2) =
          [auction.bid + auction.deposit - auction.cut config] := rfl
      have covers := isEnough unbid
      rw [if_neg unbid, if_neg unbid, sum_nonzero, single, List.sum_singleton]
      omega

theorem step_update (solvent : Solvent books.house) (agrees : Agrees books)
    (enough : ∀ auction ∈ expiring books.house, auction.bidder ≠ 0 →
      auction.cut config ≤ auction.bid + auction.deposit) :
    Step config people books .update := by
  have pass := update_pass config solvent.sound
  have isNext : books.house.next config .update = books.house.update config := rfl
  have left : ∀ auction ∈ (books.house.update config).auctions, auction ∈ books.house.auctions :=
    fun auction member => pass.auctions.symm.subset (List.mem_append_right _ member)
  have fair : ∀ auction ∈ expiring books.house, Fair auction := fun auction member =>
    solvent.fair auction (pass.auctions.symm.subset (List.mem_append_left _ member))
  constructor
  · constructor
    · obtain ⟨rows, isRows, isAmounts⟩ := rows_of_posts pass.posts
      refine ⟨rows, isRows, ?_⟩
      unfold dues
      rw [isAmounts, endings_amounts config _ fair enough]
    · have isMailed := mailed_of_posts pass.posts
      have isOwned : owned people (books.house.update config) = owned people books.house :=
        owned_of_free pass.free
      have isStaked : staked books.house.auctions =
          staked (expiring books.house) + staked (books.house.update config).auctions := by
        rw [staked_perm pass.auctions]
        unfold staked
        rw [List.map_append, List.sum_append]
      have ended := endings_staked config books.house fair enough
      have isKept : keeps config books.house .update =
          ((expiring books.house).map (keepOf config)).sum := rfl
      rw [total_eq, total_eq]
      unfold Books.next
      dsimp only
      rw [isNext, isKept, isOwned, isMailed, isStaked]
      omega
  · intro auction member isBid
    exact agrees auction (left auction member) isBid
  · refine solvent.keep pass.sound pass.faces.known pass.free.poorer ?_
    exact fun auction member => solvent.fair auction (left auction member)

theorem step_sellItem (solvent : Solvent books.house) (agrees : Agrees books)
    (member : guid ∈ people) (found : books.house.realm.getPlayer guid = some player)
    (packet : House.SellItem) (allowed : Bool)
    (sells : books.house.sells player packet allowed = true) :
    Step config people books (.sellItem guid packet allowed) := by
  have isMoney := balance_of_getPlayer found
  have limit := solvent.limits guid _ isMoney
  have there := Realm.player_of_getPlayer found
  obtain ⟨_, _, enough⟩ := sells_eq_true sells
  have isNext : books.house.next config (.sellItem guid packet allowed) =
      books.house.handleAuctionSellItem guid player packet allowed := by
    simp [House.next, found]
  have sound := sound_next config (.sellItem guid packet allowed) solvent.sound
  unfold House.handleAuctionSellItem at isNext
  rw [if_pos sells] at isNext
  have isAuctions : (books.house.next config (.sellItem guid packet allowed)).auctions =
      books.house.auctions ++ [books.house.newAuction guid packet] := by
    rw [isNext]
  have rows : (books.house.next config (.sellItem guid packet allowed)).realm.rows =
      books.house.realm.rows := by
    rw [isNext]
    rfl
  have charges : Charges books.house (books.house.next config (.sellItem guid packet allowed))
      guid packet.deposit := by
    rw [isNext]
    have left := Purse.modifyMoney_take limit enough
    generalize player.purse.modifyMoney _ = purse at left
    constructor
    · intro other apart
      exact balance_setPlayer_of_ne apart _
    · simp_all
  have fair : Fair (books.house.newAuction guid packet) := by
    constructor
    · exact Nat.zero_le _
    · exact Nat.le_trans enough limit
    · exact fun _ => rfl
    · exact Nat.pos_of_ne_zero
  constructor
  · constructor
    · exact ⟨[], by rw [rows, List.append_nil], rfl⟩
    · have isOwned := owned_of_charges charges member
      have isMailed : mailed (books.house.next config (.sellItem guid packet allowed)) =
          mailed books.house := by
        simp [mailed, rows]
      have isStaked : staked (books.house.auctions ++ [books.house.newAuction guid packet]) =
          staked books.house.auctions + packet.deposit := by
        rw [staked_perm List.perm_append_comm, List.singleton_append, staked_cons, Nat.add_comm]
        have new : (books.house.newAuction guid packet).bid +
            (books.house.newAuction guid packet).deposit = packet.deposit := Nat.zero_add _
        rw [new]
      have isKept : keeps config books.house (.sellItem guid packet allowed) = 0 := rfl
      rw [total_eq, total_eq]
      unfold Books.next
      dsimp only
      rw [isKept, isAuctions, isMailed, isStaked]
      omega
  · intro auction inside isBid
    have somewhere : auction ∈ books.house.auctions ++ [books.house.newAuction guid packet] :=
      isAuctions ▸ inside
    rcases List.mem_append.mp somewhere with old | new
    · exact agrees auction old isBid
    · rw [List.mem_singleton.mp new] at isBid
      exact absurd rfl isBid
  · refine solvent.keep sound ?_ charges.poorer ?_
    · rw [isNext]
      exact setPlayer_known there _
    · intro auction inside
      rw [isAuctions] at inside
      rcases List.mem_append.mp inside with old | new
      · exact solvent.fair auction old
      · exact List.mem_singleton.mp new ▸ fair

theorem log_free (config : Config) (guid : Nat) (online : Bool) :
    Free house (house.next config (.log guid online)) := by
  unfold House.next Free
  dsimp only
  split
  · rfl
  · rename_i player found
    funext other
    by_cases here : other = guid
    · simp [balance, here, balance_setPlayer_self, found, Option.map_some]
    · exact balance_setPlayer_of_ne here _

theorem step_next {action : Action} (solvent : Solvent books.house) (agrees : Agrees books)
    (everybody : ∀ guid, (books.house.realm.player guid).isSome = true → guid ∈ people)
    (covered : Covered config books action) : Step config people books action := by
  have known := known_next config action solvent.sound
  have member : ∀ guid player, books.house.realm.getPlayer guid = some player →
      guid ∈ people := by
    intro guid player found
    refine everybody guid ?_
    rw [Realm.player_of_getPlayer found]
    rfl
  cases action with
  | sellItem guid packet allowed =>
    by_cases refused : books.house.next config (.sellItem guid packet allowed) = books.house
    · refine step_idle solvent agrees ?_ ?_ ?_ known rfl rfl rfl
      · rw [refused]
        exact rfl
      · rw [refused]
      · rw [refused]
    · unfold House.next House.handleAuctionSellItem at refused
      dsimp only at refused
      split at refused
      · exact absurd rfl refused
      · rename_i player found
        split at refused
        · rename_i sells
          exact step_sellItem solvent agrees (member guid player found) found packet allowed sells
        · exact absurd rfl refused
  | placeBid guid side id price =>
    cases isBid : bidding config books.house guid side id price with
    | none =>
      have refused := bidding_eq_none isBid
      refine step_idle solvent agrees ?_ ?_ ?_ known ?_ ?_ ?_
      · rw [refused]
        exact rfl
      · rw [refused]
      · rw [refused]
      · simp [keeps, isBid]
      · simp [dues, isBid]
      · simp [Books.next, isBid]
    | some auction =>
      obtain ⟨player, found, accepted, same⟩ := bidding_eq_some isBid
      obtain ⟨isAuction, _, above, _⟩ := bidOn_eq_some accepted
      have covers := covered player auction found accepted
      cases takes : auction.takesBid price with
      | true =>
        rw [if_pos takes] at covers same
        exact step_placeBid solvent agrees (member guid player found) isBid found takes above
          isAuction covers same
      | false =>
        have notBid : ¬ auction.takesBid price = true := by
          simp [takes]
        rw [if_neg notBid] at covers same
        exact step_buyOut solvent agrees (member guid player found) isBid found takes
          isAuction covers.1 covers.2 same
  | removeItem guid side id =>
    cases isCancelled : cancelling config books.house guid side id with
    | none =>
      have refused := cancelling_eq_none isCancelled
      refine step_idle solvent agrees ?_ ?_ ?_ known ?_ ?_ rfl
      · rw [refused]
        exact rfl
      · rw [refused]
      · rw [refused]
      · simp [keeps, isCancelled]
      · simp [dues, isCancelled]
    | some auction =>
      obtain ⟨player, found, accepted, same⟩ := cancelling_eq_some isCancelled
      obtain ⟨isAuction, _, enough⟩ := cancelOf_eq_some accepted
      exact step_cancel solvent agrees (member guid player found) isCancelled found isAuction
        enough same
  | update => exact step_update solvent agrees covered
  | wait seconds => exact step_idle solvent agrees rfl rfl rfl known rfl rfl rfl
  | log guid online =>
    refine step_idle solvent agrees (log_free config guid online) ?_ ?_ known rfl rfl rfl
    · unfold House.next
      dsimp only
      split <;> rfl
    · grind [House.next]

/-! ### Runs -/

/-- As long as bids are covered, each is what its bidder paid, whoever is outbid or sells is
mailed what he is due, and no money is made or lost. -/
theorem Books.always_settled {actions : List Action} (solvent : Solvent books.house)
    (agrees : Agrees books)
    (everybody : ∀ guid, (books.house.realm.player guid).isSome = true → guid ∈ people)
    (covered : Along (Books.next config) (Covered config) books actions) :
    Always (Books.next config) Agrees books actions ∧
      Along (Books.next config) (Settles config people) books actions := by
  have kept : ∀ (books : Books) (action : Action),
      (Solvent books.house ∧ Agrees books ∧
        ∀ guid, (books.house.realm.player guid).isSome = true → guid ∈ people) →
      Covered config books action →
      Solvent (books.next config action).house ∧ Agrees (books.next config action) ∧
        ∀ guid, ((books.next config action).house.realm.player guid).isSome = true →
          guid ∈ people := by
    rintro books action ⟨solvent, agrees, everybody⟩ covered
    have step := step_next solvent agrees everybody covered
    refine ⟨step.solvent, step.agrees, fun guid known => everybody guid ?_⟩
    exact (known_next config action solvent.sound guid).symm.trans known
  constructor
  · exact (always_of_step kept ⟨solvent, agrees, everybody⟩ covered).imp fun _ holds => holds.2.1
  · refine along_of_step kept ?_ ⟨solvent, agrees, everybody⟩ covered
    rintro books action ⟨solvent, agrees, everybody⟩ covered
    exact (step_next solvent agrees everybody covered).settles

/-! ### Prices of 32 bits and beyond -/

def smallPrice : Action → Bool
  | .placeBid _ _ _ price => decide (price < 2 ^ 32)
  | _ => true

theorem covered_of_small {action : Action} (noCut : config.cutFactor = 0)
    (small : smallPrice action = true) : Covered config books action := by
  have cut : ∀ auction : Auction, auction.cut config = 0 := by
    intro auction
    unfold Auction.cut
    rw [noCut, Nat.zero_mul]
    rfl
  unfold Covered
  split
  · rename_i guid side id price
    intro player auction found accepted
    obtain ⟨_, _, _, enough⟩ := bidOn_eq_some accepted
    have isSmall : price < 2 ^ 32 := of_decide_eq_true small
    rw [Purse.hasEnoughMoney_iff, uint32_of_lt isSmall] at enough
    split
    · exact enough
    · rename_i buysOut
      unfold Auction.takesBid at buysOut
      rw [Bool.or_eq_true, decide_eq_true_iff, decide_eq_true_iff] at buysOut
      refine ⟨by omega, ?_⟩
      rw [cut]
      exact Nat.zero_le _
  · simp [cut]
  · trivial

theorem along_covered {actions : List Action} (noCut : config.cutFactor = 0)
    (small : ∀ action ∈ actions, smallPrice action = true) :
    Along (Books.next config) (Covered config) books actions :=
  ((along_true books actions).and_forall small).imp fun _ _ holds =>
    covered_of_small noCut holds.2

def bazaarBooks : Books where
  house := bazaar
  paid _ := 20
  kept := 0

theorem bazaar_solvent : Solvent bazaar := by
  have single : ∀ auction ∈ bazaar.auctions, auction = lot := fun _ => List.mem_singleton.mp
  constructor
  · exact bazaar_sound
  · rfl
  · intro guid money isMoney
    obtain ⟨player, found, isPurse⟩ := Option.map_eq_some_iff.mp isMoney
    have small := (bazaar_player found).2.1
    unfold maxMoneyAmount
    omega
  · intro auction member
    rw [single auction member]
    constructor <;> decide

theorem bazaarBooks_agrees : Agrees bazaarBooks := by
  intro auction member _
  rw [List.mem_singleton.mp member]
  rfl

theorem bazaar_everybody (guid : Nat)
    (known : (bazaarBooks.house.realm.player guid).isSome = true) :
    guid ∈ ({1, 2, 3} : Finset Nat) := by
  obtain ⟨player, found⟩ := Option.isSome_iff_exists.mp known
  have member := (bazaar_player found).1
  rw [List.mem_cons, List.mem_cons, List.mem_singleton] at member
  rw [Finset.mem_insert, Finset.mem_insert, Finset.mem_singleton]
  exact member

/-- The player 2 is outbid, and what the player 3 bids goes to the player 1. -/
theorem Books.always_settled_bazaar :
    Always (Books.next (rates false)) Agrees bazaarBooks [.placeBid 3 .neutral 9 40, .update] ∧
      Along (Books.next (rates false)) (Settles (rates false) {1, 2, 3}) bazaarBooks
        [.placeBid 3 .neutral 9 40, .update] :=
  Books.always_settled bazaar_solvent bazaarBooks_agrees bazaar_everybody
    (along_covered rfl (by decide))

/-- A price of 2 ^ 32 is nothing for the check of the purse, so that the player 3 buys for a
hundred out of a purse of fifty. -/
theorem Books.not_always_settled :
    ¬ ∀ (config : Config) (people : Finset Nat) (books : Books) (actions : List Action),
      Solvent books.house → Agrees books →
      (∀ guid, (books.house.realm.player guid).isSome = true → guid ∈ people) →
      Always (Books.next config) Agrees books actions ∧
        Along (Books.next config) (Settles config people) books actions := by
  intro all
  obtain ⟨_, ⟨settles, _⟩⟩ := all (rates false) {1, 2, 3} bazaarBooks
    [.placeBid 3 .neutral 9 (2 ^ 32)] bazaar_solvent bazaarBooks_agrees bazaar_everybody
  have before : total {1, 2, 3} bazaarBooks = 105 := by decide +kernel
  have after : total {1, 2, 3}
      (bazaarBooks.next (rates false) (.placeBid 3 .neutral 9 (2 ^ 32))) = 155 := by
    decide +kernel
  have same := settles.total
  rw [before, after] at same
  exact absurd same (by decide)

end DarkCore.Auctions
