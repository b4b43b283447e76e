/-
What the requests and the passes of an auction house do: whom they charge, what
they mail to whom, and which auctions they leave.
-/

import DarkCore.Auctions.House
import DarkCore.Mails.Amounts

namespace DarkCore.Auctions

open DarkCore.Lib DarkCore.Mails
open DarkCore.Player (Purse uint32 int32 maxMoneyAmount)

/-- What of a player is neither money nor mail -/
def face (player : Player) : Nat × List Nat × Bool :=
  (player.account, player.inventory, player.isOnline)

def SameFaces (house after : House) : Prop :=
  ∀ guid, (after.realm.player guid).map face = (house.realm.player guid).map face

structure Same (house after : House) : Prop where
  faces : SameFaces house after
  auctions : after.auctions = house.auctions
  items : after.items = house.items
  nextAuctionId : after.nextAuctionId = house.nextAuctionId
  time : after.realm.time = house.realm.time

variable {house middle after : House} {config : Config}

namespace SameFaces

theorem trans (first : SameFaces house middle) (second : SameFaces middle after) :
    SameFaces house after :=
  fun guid => (second guid).trans (first guid)

theorem known (same : SameFaces house after) (guid : Nat) :
    (after.realm.player guid).isSome = (house.realm.player guid).isSome := by
  have faces := congrArg Option.isSome (same guid)
  rw [Option.isSome_map, Option.isSome_map] at faces
  exact faces

theorem online (same : SameFaces house after) (guid : Nat) :
    (after.realm.getPlayer guid).isSome = (house.realm.getPlayer guid).isSome := by
  have faces := congrArg (Option.map fun face : Nat × List Nat × Bool => face.2.2) (same guid)
  rw [Option.map_map, Option.map_map] at faces
  unfold Realm.getPlayer
  cases before : house.realm.player guid with
  | none =>
    simp_all
  | some player =>
    rw [before, Option.map_some] at faces
    obtain ⟨other, found, isOnline⟩ := Option.map_eq_some_iff.mp faces
    have same : other.isOnline = player.isOnline := isOnline
    rw [found, Option.filter_some, Option.filter_some, same]
    split <;> rfl

end SameFaces

namespace Same

theorem refl (house : House) : Same house house := ⟨fun _ => rfl, rfl, rfl, rfl, rfl⟩

theorem trans (first : Same house middle) (second : Same middle after) : Same house after where
  faces := first.faces.trans second.faces
  auctions := second.auctions.trans first.auctions
  items := second.items.trans first.items
  nextAuctionId := second.nextAuctionId.trans first.nextAuctionId
  time := second.time.trans first.time

end Same

theorem face_setPlayer {realm : Realm} {guid : Nat} {player left : Player}
    (found : realm.player guid = some player) (same : face left = face player) (other : Nat) :
    ((realm.setPlayer guid left).player other).map face = (realm.player other).map face := by
  by_cases here : other = guid
  · rw [here, Realm.setPlayer_player_self, found, Option.map_some, Option.map_some, same]
  · rw [Realm.setPlayer_player_of_ne here]

theorem face_sendMailTo {realm : Realm} {draft : MailDraft} {receiver : Nat} {sender : MailSender}
    {checked : MailCheckMask} {deliverDelay : Nat} (other : Nat) :
    ((realm.sendMailTo draft receiver sender checked deliverDelay).player other).map face =
      (realm.player other).map face := by
  unfold Realm.sendMailTo
  dsimp only
  split
  · rfl
  · rename_i player found
    have there := Realm.player_of_getPlayer found
    refine face_setPlayer there ?_ other
    rw [Player.receiveMail_eq, Player.addNewMailDeliverTime_eq]
    rfl

theorem sendMail_same (guid : Nat) (draft : MailDraft) (auction : Auction) (deliverDelay : Nat) :
    Same house (house.sendMail guid draft auction deliverDelay) := by
  unfold House.sendMail
  split
  · exact ⟨face_sendMailTo, rfl, rfl, rfl, Realm.sendMailTo_time⟩
  · exact Same.refl house

theorem modifyMoney_same (guid : Nat) (d : Int) : Same house (house.modifyMoney guid d) := by
  unfold House.modifyMoney
  split
  · exact Same.refl house
  · rename_i player found
    exact ⟨face_setPlayer found rfl, rfl, rfl, rfl, rfl⟩

structure Parcel where
  receiver : Nat
  money : Nat
  items : List Nat
  deriving DecidableEq

def parcel (row : Mail) : Parcel := ⟨row.receiver, row.money, row.items⟩

def Posts (house after : House) (parcels : List Parcel) : Prop :=
  ∃ rows, after.realm.rows = house.realm.rows ++ rows ∧ rows.map parcel = parcels

namespace Posts

theorem nothing (same : after.realm.rows = house.realm.rows) : Posts house after [] :=
  ⟨[], by rw [same, List.append_nil], rfl⟩

theorem trans {first second : List Parcel} (posts : Posts house middle first)
    (further : Posts middle after second) : Posts house after (first ++ second) := by
  obtain ⟨rows, isRows, isFirst⟩ := posts
  obtain ⟨others, isOthers, isSecond⟩ := further
  refine ⟨rows ++ others, ?_, ?_⟩
  · rw [isOthers, isRows, List.append_assoc]
  · rw [List.map_append, isFirst, isSecond]

end Posts

structure Sends (house after : House) (parcels : List Parcel) : Prop where
  same : Same house after
  posts : Posts house after parcels

namespace Sends

theorem nothing (house : House) : Sends house house [] := ⟨Same.refl house, Posts.nothing rfl⟩

theorem trans {first second : List Parcel} (sends : Sends house middle first)
    (further : Sends middle after second) : Sends house after (first ++ second) :=
  ⟨sends.same.trans further.same, sends.posts.trans further.posts⟩

end Sends

theorem sendMail_sends {guid : Nat} (draft : MailDraft) (auction : Auction) (deliverDelay : Nat)
    (known : (house.realm.player guid).isSome = true) :
    Sends house (house.sendMail guid draft auction deliverDelay)
      [⟨guid, uint32 draft.money, draft.items⟩] := by
  refine ⟨sendMail_same guid draft auction deliverDelay, ?_⟩
  unfold House.sendMail
  rw [if_pos known]
  exact ⟨_, Realm.sendMailTo_rows, List.map_singleton⟩

theorem modifyMoney_sends (guid : Nat) (d : Int) : Sends house (house.modifyMoney guid d) [] := by
  refine ⟨modifyMoney_same guid d, ?_⟩
  unfold House.modifyMoney
  split <;> exact Posts.nothing rfl

structure Charges (house after : House) (guid amount : Nat) : Prop where
  others : ∀ other, other ≠ guid → balance after.realm other = balance house.realm other
  payer : ∃ left, balance after.realm guid = some left ∧
    balance house.realm guid = some (left + amount)

def Free (house after : House) : Prop := balance after.realm = balance house.realm

theorem sendMail_free (guid : Nat) (draft : MailDraft) (auction : Auction) (deliverDelay : Nat) :
    Free house (house.sendMail guid draft auction deliverDelay) := by
  unfold House.sendMail
  split
  · exact balance_sendMailTo ..
  · exact rfl

namespace Charges

theorem after_free {guid amount : Nat} (free : Free house middle)
    (charges : Charges middle after guid amount) : Charges house after guid amount where
  others other apart := (charges.others other apart).trans (congrFun free other)
  payer := by
    obtain ⟨left, isLeft, before⟩ := charges.payer
    exact ⟨left, isLeft, (congrFun free guid).symm.trans before⟩

theorem then_free {guid amount : Nat} (charges : Charges house middle guid amount)
    (free : Free middle after) : Charges house after guid amount where
  others other apart := (congrFun free other).trans (charges.others other apart)
  payer := by
    obtain ⟨left, isLeft, before⟩ := charges.payer
    exact ⟨left, (congrFun free guid).trans isLeft, before⟩

end Charges

theorem modifyMoney_charges {guid amount before : Nat}
    (isBefore : balance house.realm guid = some before)
    (limit : before ≤ maxMoneyAmount) (enough : amount ≤ before) :
    Charges house (house.modifyMoney guid (-int32 amount)) guid amount := by
  unfold balance at isBefore
  obtain ⟨player, found, isMoney⟩ := Option.map_eq_some_iff.mp isBefore
  unfold House.modifyMoney
  rw [found]
  constructor
  · intro other apart
    exact balance_setPlayer_of_ne apart _
  · refine ⟨before - amount, ?_, ?_⟩
    · rw [balance_setPlayer_self, ← isMoney]
      rw [← isMoney] at limit enough
      rw [Purse.modifyMoney_take limit enough]
    · simp_all [balance]

theorem Free.charges {guid money : Nat} (free : Free house after)
    (isMoney : balance house.realm guid = some money) : Charges house after guid 0 where
  others other _ := congrFun free other
  payer := ⟨money, (congrFun free guid).trans isMoney, isMoney⟩

def charge (guid : Nat) (auction : Auction) (price : Nat) : Nat :=
  if auction.bidder = guid then price - auction.bid else price

def outbidden (guid : Nat) (auction : Auction) : List Parcel :=
  if auction.bidder = 0 ∨ auction.bidder = guid then []
  else [⟨auction.bidder, uint32 auction.bid, []⟩]

def Known (house : House) (auction : Auction) : Prop :=
  auction.bidder ≠ 0 → (house.realm.player auction.bidder).isSome = true

variable {guid price money : Nat} {auction : Auction}

theorem payBid_sends (known : Known house auction) (guid price : Nat) :
    Sends house (house.payBid guid auction price) (outbidden guid auction) := by
  unfold House.payBid outbidden
  by_cases unbid : auction.bidder = 0
  · rw [if_neg (by omega), if_pos (Or.inl unbid)]
    exact modifyMoney_sends ..
  · rw [if_pos (by omega)]
    by_cases again : auction.bidder = guid
    · rw [if_pos again, if_pos (Or.inr again)]
      exact modifyMoney_sends ..
    · rw [if_neg again, if_neg (by rintro (is | is) <;> contradiction)]
      exact (sendMail_sends _ _ _ (known unbid)).trans (modifyMoney_sends ..)

theorem payBuyOut_sends (known : Known house auction) (guid : Nat) :
    Sends house (house.payBuyOut guid auction) (outbidden guid auction) := by
  unfold House.payBuyOut outbidden
  by_cases again : auction.bidder = guid
  · rw [if_pos again.symm, if_pos (Or.inr again)]
    exact modifyMoney_sends ..
  · rw [if_neg fun same => again same.symm]
    by_cases unbid : auction.bidder = 0
    · rw [if_neg (not_not_intro unbid), if_pos (Or.inl unbid)]
      exact modifyMoney_sends ..
    · rw [if_pos unbid, if_neg (by rintro (is | is) <;> contradiction)]
      have paid : Sends house (house.modifyMoney guid (-int32 auction.buyout)) [] :=
        modifyMoney_sends ..
      refine paid.trans (sendMail_sends _ _ _ ?_)
      rw [paid.same.faces.known]
      exact known unbid

theorem int32_sub {larger smaller : Nat} (below : smaller ≤ larger) :
    int32 ((larger : Int) - smaller) = int32 ((larger - smaller : Nat) : Int) := by
  rw [Int.ofNat_sub below]

theorem payBid_charges (isMoney : balance house.realm guid = some money)
    (limit : money ≤ maxMoneyAmount) (enough : price ≤ money) (above : auction.bid ≤ price)
    (unbid : auction.bidder = 0 → auction.bid = 0) :
    Charges house (house.payBid guid auction price) guid (charge guid auction price) := by
  unfold House.payBid charge
  by_cases first : auction.bidder = 0
  · rw [if_neg (by omega), unbid first, Nat.sub_zero, ite_self]
    exact modifyMoney_charges isMoney limit enough
  · rw [if_pos (by omega)]
    by_cases again : auction.bidder = guid
    · rw [if_pos again, if_pos again, int32_sub above]
      exact modifyMoney_charges isMoney limit (by omega)
    · rw [if_neg again, if_neg again]
      have free : Free house (house.sendAuctionOutbiddedMail auction) := sendMail_free ..
      refine Charges.after_free free (modifyMoney_charges ?_ limit enough)
      exact (congrFun free guid).trans isMoney

theorem payBuyOut_charges (isMoney : balance house.realm guid = some money)
    (limit : money ≤ maxMoneyAmount) (enough : auction.buyout ≤ money)
    (above : auction.bid ≤ auction.buyout) :
    Charges house (house.payBuyOut guid auction) guid (charge guid auction auction.buyout) := by
  unfold House.payBuyOut charge
  by_cases again : auction.bidder = guid
  · rw [if_pos again.symm, if_pos again, int32_sub above]
    exact modifyMoney_charges isMoney limit (by omega)
  · rw [if_neg fun same => again same.symm, if_neg again]
    have paid := modifyMoney_charges isMoney limit enough
    split
    · exact paid.then_free (sendMail_free ..)
    · exact paid

def won (config : Config) (house : House) (auction : Auction) : List Parcel :=
  if (house.realm.getPlayer auction.bidder).isSome = true ∨ config.gmLogTrade = true then
    [⟨auction.bidder, 0, [auction.item]⟩]
  else []

def sale (config : Config) (house : House) (auction : Auction) : List Parcel :=
  ⟨auction.owner, uint32 (auction.profit config), []⟩ :: won config house auction

def ending (config : Config) (house : House) (auction : Auction) : List Parcel :=
  if auction.bidder = 0 then [⟨auction.owner, 0, [auction.item]⟩] else sale config house auction

def repaid (auction : Auction) : List Parcel :=
  if auction.bidder = 0 then [] else [⟨auction.bidder, uint32 auction.bid, []⟩]

theorem won_same (same : SameFaces house after) (config : Config) (auction : Auction) :
    won config after auction = won config house auction := by
  unfold won
  rw [same.online]

theorem ending_same (same : SameFaces house after) (config : Config) (auction : Auction) :
    ending config after auction = ending config house auction := by
  unfold ending sale
  rw [won_same same]

theorem sendSale_sends (config : Config) (stocked : auction.item ∈ house.items)
    (owner : (house.realm.player auction.owner).isSome = true)
    (bidder : (house.realm.player auction.bidder).isSome = true) :
    Sends house (house.sendSale config auction) (sale config house auction) := by
  have paid : Sends house (house.sendAuctionSuccessfulMail config auction)
      [⟨auction.owner, uint32 (auction.profit config), []⟩] := sendMail_sends _ _ _ owner
  have delivered : Sends (house.sendAuctionSuccessfulMail config auction)
      (house.sendSale config auction) (won config house auction) := by
    unfold House.sendSale House.sendAuctionWonMail won
    rw [if_neg (not_not_intro (paid.same.items.symm ▸ stocked)), paid.same.faces.online]
    split
    · exact sendMail_sends _ _ _ ((paid.same.faces.known _).trans bidder)
    · exact Sends.nothing _
  exact paid.trans delivered

theorem sendEnd_sends (config : Config) (stocked : auction.item ∈ house.items)
    (owner : (house.realm.player auction.owner).isSome = true) (known : Known house auction) :
    Sends house (house.sendEnd config auction) (ending config house auction) := by
  unfold House.sendEnd ending
  split
  · unfold House.sendAuctionExpiredMail
    rw [if_neg (not_not_intro stocked)]
    exact sendMail_sends _ _ _ owner
  · rename_i isBid
    exact sendSale_sends config stocked owner (known isBid)

theorem sendSale_free (config : Config) (auction : Auction) :
    Free house (house.sendSale config auction) := by
  unfold House.sendSale House.sendAuctionWonMail
  have paid : Free house (house.sendAuctionSuccessfulMail config auction) := sendMail_free ..
  split
  · exact paid
  · split
    · exact (sendMail_free ..).trans paid
    · exact paid

theorem sendEnd_free (config : Config) (auction : Auction) :
    Free house (house.sendEnd config auction) := by
  unfold House.sendEnd House.sendAuctionExpiredMail
  split
  · split
    · exact rfl
    · exact sendMail_free ..
  · exact sendSale_free ..

theorem repayBid_sends (config : Config) (known : Known house auction) (guid : Nat) :
    Sends house (house.repayBid config guid auction) (repaid auction) := by
  unfold House.repayBid repaid
  by_cases unbid : auction.bidder = 0
  · rw [if_neg (by omega), if_pos unbid]
    exact Sends.nothing house
  · rw [if_pos (by omega), if_neg unbid]
    exact (sendMail_sends _ _ _ (known unbid)).trans (modifyMoney_sends ..)

theorem repayBid_charges (config : Config) (isMoney : balance house.realm guid = some money)
    (limit : money ≤ maxMoneyAmount) (enough : auction.bidder ≠ 0 → auction.cut config ≤ money) :
    Charges house (house.repayBid config guid auction) guid
      (if auction.bidder = 0 then 0 else auction.cut config) := by
  unfold House.repayBid
  by_cases unbid : auction.bidder = 0
  · rw [if_neg (by omega), if_pos unbid]
    exact Free.charges rfl isMoney
  · rw [if_pos (by omega), if_neg unbid]
    have free : Free house (house.sendAuctionCancelledToBidderMail auction) := sendMail_free ..
    refine Charges.after_free free (modifyMoney_charges ?_ limit (enough unbid))
    exact (congrFun free guid).trans isMoney

end DarkCore.Auctions
