/-
Auctions (`AuctionHouseMgr.cpp`, `AuctionHouseHandler.cpp`): items are sold for
64 bit prices, purses are asked and charged in 32 bits, and everything that an
auction gives is sent by mail.
-/

import DarkCore.Lib.FirstMatch
import DarkCore.Mails.Mail

namespace DarkCore.Auctions

open DarkCore.Lib DarkCore.Mails
open DarkCore.Player (Purse uint32 int32)

/-- The three `AuctionHouseObject`s of the manager, in the order of its updates -/
inductive Side where
  | horde
  | alliance
  | neutral
  deriving DecidableEq

/-- `AuctionEntry`; 0 stands for no bidder, and for no buyout. -/
structure Auction where
  id : Nat
  side : Side
  /-- `GetHouseId` -/
  houseId : Nat
  item : Nat
  owner : Nat
  startbid : Nat
  bid : Nat
  buyout : Nat
  expireTime : Nat
  bidder : Nat
  deposit : Nat
  deriving DecidableEq

/-- What the settings say. Products with floating point numbers are given by their results. -/
structure Config where
  /-- `CONFIG_GM_LOG_TRADE` -/
  gmLogTrade : Bool
  /-- The rate of the cut times its percentage, cut off to a whole number -/
  cutFactor : Nat
  /-- `CalculatePctN(bid, 5)` -/
  fivePercent : Nat → Nat

namespace Auction

variable (config : Config) (auction : Auction)

/-- `AuctionEntry::GetAuctionCut` -/
def cut : Nat := (int32 ((config.cutFactor * auction.bid : Nat) : Int)).toNat

/-- `AuctionEntry::GetAuctionOutBid` -/
def outBid : Nat := if config.fivePercent auction.bid ≠ 0 then config.fivePercent auction.bid else 1

def takesBid (price : Nat) : Bool := decide (price < auction.buyout) || decide (auction.buyout = 0)

/-- What the owner gets, in unsigned 64 bits -/
def profit : Nat := (auction.bid + auction.deposit + 2 ^ 64 - auction.cut config) % 2 ^ 64

end Auction

structure House where
  realm : Realm
  auctions : List Auction
  /-- `mAitems` -/
  items : List Nat
  nextAuctionId : Nat

namespace House

variable (config : Config) (house : House)

def isAuction (side : Side) (id : Nat) (auction : Auction) : Bool :=
  decide (auction.id = id) && decide (auction.side = side)

def getAuction (side : Side) (id : Nat) : Option Auction :=
  house.auctions.find? (isAuction side id)

/-- `RemoveAItem` and `RemoveAuction` -/
def removeAuction (auction : Auction) : House :=
  { house with
    auctions := house.auctions.eraseP (isAuction auction.side auction.id)
    items := house.items.filter fun item => decide (item ≠ auction.item) }

def modifyMoney (guid : Nat) (d : Int) : House :=
  match house.realm.player guid with
  | none => house
  | some player =>
    { house with
      realm := house.realm.setPlayer guid { player with purse := player.purse.modifyMoney d } }

def sendMail (guid : Nat) (draft : MailDraft) (auction : Auction) (deliverDelay : Nat) : House :=
  if (house.realm.player guid).isSome = true then
    { house with
      realm := house.realm.sendMailTo draft guid ⟨.auction, auction.houseId⟩ { copied := true }
        deliverDelay }
  else house

/-- `SendAuctionWonMail`: the account of a bidder who is offline is only looked up for the log. -/
def sendAuctionWonMail (auction : Auction) : House :=
  if auction.item ∉ house.items then house
  else if (house.realm.getPlayer auction.bidder).isSome = true ∨ config.gmLogTrade = true then
    house.sendMail auction.bidder { items := [auction.item] } auction 0
  else house

def sendAuctionSalePendingMail (auction : Auction) : House :=
  house.sendMail auction.owner {} auction 0

def sendAuctionSuccessfulMail (auction : Auction) : House :=
  house.sendMail auction.owner { money := auction.profit config } auction
    house.realm.mailDeliveryDelay

def sendAuctionExpiredMail (auction : Auction) : House :=
  if auction.item ∉ house.items then house
  else house.sendMail auction.owner { items := [auction.item] } auction 0

def sendAuctionOutbiddedMail (auction : Auction) : House :=
  house.sendMail auction.bidder { money := auction.bid } auction 0

def sendAuctionCancelledToBidderMail (auction : Auction) : House :=
  house.sendMail auction.bidder { money := auction.bid } auction 0

structure SellItem where
  side : Side
  houseId : Nat
  item : Nat
  bid : Nat
  buyout : Nat
  /-- In minutes -/
  etime : Nat
  /-- `GetAuctionDeposit` -/
  deposit : Nat
  /-- The time of the auction, by the rate of the server -/
  duration : Nat

def minAuctionTime : Nat := 12 * 3600

/-- The checks of `HandleAuctionSellItem`; `allowed` stands for those of the kind of the item. -/
def sells (player : Player) (packet : SellItem) (allowed : Bool) : Bool :=
  decide (packet.item ≠ 0 ∧ packet.bid ≠ 0 ∧ packet.etime ≠ 0) &&
    decide (packet.etime * 60 % 2 ^ 32 ∈
      [1 * minAuctionTime, 2 * minAuctionTime, 4 * minAuctionTime]) &&
    decide (packet.item ∉ house.items) && decide (packet.item ∈ player.inventory) && allowed &&
    player.purse.hasEnoughMoney packet.deposit

def newAuction (guid : Nat) (packet : SellItem) : Auction where
  id := house.nextAuctionId
  side := packet.side
  houseId := packet.houseId
  item := packet.item
  owner := guid
  startbid := packet.bid
  bid := 0
  buyout := uint32 packet.buyout
  expireTime := house.realm.time + packet.duration
  bidder := 0
  deposit := packet.deposit

def handleAuctionSellItem (guid : Nat) (player : Player) (packet : SellItem) (allowed : Bool) :
    House :=
  if house.sells player packet allowed = true then
    { realm := house.realm.setPlayer guid
        { player with
          purse := player.purse.modifyMoney (-int32 packet.deposit)
          inventory := player.inventory.filter fun item => decide (item ≠ packet.item) }
      auctions := house.auctions ++ [house.newAuction guid packet]
      items := house.items ++ [packet.item]
      nextAuctionId := house.nextAuctionId + 1 }
  else house

/-- The auction that `HandleAuctionPlaceBid` finds, if its checks let the price through -/
def bidOn (guid : Nat) (player : Player) (side : Side) (id price : Nat) : Option Auction :=
  if id = 0 ∨ price = 0 then none
  else
    (house.getAuction side id).filter fun auction =>
      decide (auction.owner ≠ guid) &&
        !((house.realm.getPlayer auction.owner).isNone &&
          decide (((house.realm.player auction.owner).map (·.account)).getD 0 = player.account)) &&
        !(decide (price ≤ auction.bid) || decide (price < auction.startbid)) &&
        !(auction.takesBid price &&
          decide (price < (auction.bid + auction.outBid config) % 2 ^ 64)) &&
        player.purse.hasEnoughMoney (uint32 price)

def payBid (guid : Nat) (auction : Auction) (price : Nat) : House :=
  if 0 < auction.bidder then
    if auction.bidder = guid then house.modifyMoney guid (-int32 ((price : Int) - auction.bid))
    else (house.sendAuctionOutbiddedMail auction).modifyMoney guid (-int32 price)
  else house.modifyMoney guid (-int32 price)

def placeBid (guid : Nat) (auction : Auction) (price : Nat) : House :=
  let paid := house.payBid guid auction price
  { paid with
    auctions := changeFirst (isAuction auction.side auction.id)
      (fun auction => { auction with bidder := guid, bid := price }) paid.auctions }

def boughtOut (guid : Nat) (auction : Auction) : Auction :=
  { auction with bidder := guid, bid := auction.buyout }

def payBuyOut (guid : Nat) (auction : Auction) : House :=
  if guid = auction.bidder then
    house.modifyMoney guid (-int32 ((auction.buyout : Int) - auction.bid))
  else
    let paid := house.modifyMoney guid (-int32 auction.buyout)
    if auction.bidder ≠ 0 then paid.sendAuctionOutbiddedMail auction else paid

def sendSale (auction : Auction) : House :=
  (house.sendAuctionSuccessfulMail config auction).sendAuctionWonMail config auction

def buyOut (guid : Nat) (auction : Auction) : House :=
  let sold := boughtOut guid auction
  (((house.payBuyOut guid auction).sendAuctionSalePendingMail sold).sendSale config
    sold).removeAuction sold

def handleAuctionPlaceBid (guid : Nat) (player : Player) (side : Side) (id price : Nat) : House :=
  match house.bidOn config guid player side id price with
  | none => house
  | some auction =>
    if auction.takesBid price = true then house.placeBid guid auction price
    else house.buyOut config guid auction

/-- The auction that `HandleAuctionRemoveItem` finds, if its owner can pay the cut of a bid -/
def cancelOf (guid : Nat) (player : Player) (side : Side) (id : Nat) : Option Auction :=
  (house.getAuction side id).filter fun auction =>
    decide (auction.owner = guid) && decide (auction.item ∈ house.items) &&
      (decide (auction.bidder = 0) || player.purse.hasEnoughMoney (auction.cut config))

def repayBid (guid : Nat) (auction : Auction) : House :=
  if 0 < auction.bidder then
    (house.sendAuctionCancelledToBidderMail auction).modifyMoney guid (-int32 (auction.cut config))
  else house

def handleAuctionRemoveItem (guid : Nat) (player : Player) (side : Side) (id : Nat) : House :=
  match house.cancelOf config guid player side id with
  | none => house
  | some auction =>
    ((house.repayBid config guid auction).sendMail guid { items := [auction.item] } auction
      0).removeAuction auction

def sendEnd (auction : Auction) : House :=
  if auction.bidder = 0 then house.sendAuctionExpiredMail auction else house.sendSale config auction

/-- One auction of `AuctionHouseObject::Update` -/
def closeAuction (auction : Auction) : House :=
  (house.sendEnd config auction).removeAuction auction

def expired (side : Side) : List Auction :=
  (house.auctions.filter fun auction =>
    decide (auction.side = side) && decide (auction.expireTime ≤ house.realm.time + 60)).insertionSort
      fun auction other => auction.expireTime ≤ other.expireTime

/-- `AuctionHouseObject::Update` -/
def updateSide (side : Side) : House :=
  (house.expired side).foldl (fun house auction => house.closeAuction config auction) house

def update : House :=
  ((house.updateSide config .horde).updateSide config .alliance).updateSide config .neutral

end House

inductive Action where
  | sellItem (guid : Nat) (packet : House.SellItem) (allowed : Bool)
  | placeBid (guid : Nat) (side : Side) (id price : Nat)
  | removeItem (guid : Nat) (side : Side) (id : Nat)
  | update
  | wait (seconds : Nat)
  /-- A player logs in or out; his mails in memory are forgotten. -/
  | log (guid : Nat) (online : Bool)

namespace House

def next (config : Config) (house : House) : Action → House
  | .sellItem guid packet allowed =>
    match house.realm.getPlayer guid with
    | none => house
    | some player => house.handleAuctionSellItem guid player packet allowed
  | .placeBid guid side id price =>
    match house.realm.getPlayer guid with
    | none => house
    | some player => house.handleAuctionPlaceBid config guid player side id price
  | .removeItem guid side id =>
    match house.realm.getPlayer guid with
    | none => house
    | some player => house.handleAuctionRemoveItem config guid player side id
  | .update => house.update config
  | .wait seconds => { house with realm := { house.realm with time := house.realm.time + seconds } }
  | .log guid online =>
    match house.realm.player guid with
    | none => house
    | some player =>
      { house with
        realm := house.realm.setPlayer guid
          { player with
            isOnline := online
            mailsLoaded := false
            mailsUpdated := false
            mails := []
            mailedItems := [] } }

end House

end DarkCore.Auctions
