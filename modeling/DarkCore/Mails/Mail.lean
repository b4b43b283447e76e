/-
Mail (`Mail.h`, `Mail.cpp`, `Player.cpp`, `MailHandler.cpp`). Sent mail is
written to the database, with amounts of 32 bits, and is added to the mails of
a player who is online and has his mails loaded. All mailed items of a player
are in one map, by their low guid.
-/

import Mathlib.Data.List.Dedup
import Mathlib.Data.List.Sort
import DarkCore.Player.Money

namespace DarkCore.Mails

open DarkCore.Player (Purse uint32 int32)

inductive MailMessageType where
  | normal
  | auction
  | creature
  | gameobject
  | item
  deriving DecidableEq

/-- The bits of `MailCheckMask` -/
structure MailCheckMask where
  read : Bool := false
  returned : Bool := false
  copied : Bool := false
  codPayment : Bool := false
  hasBody : Bool := false
  deriving DecidableEq

inductive MailState where
  | unchanged
  | changed
  | deleted
  deriving DecidableEq

structure Mail where
  messageID : Nat
  messageType : MailMessageType
  mailTemplateId : Nat := 0
  sender : Nat
  receiver : Nat
  subject : String := ""
  body : String := ""
  /-- The low guids of the attached items -/
  items : List Nat := []
  removedItems : List Nat := []
  deliverTime : Nat
  money : Nat := 0
  cod : Nat := 0
  checked : MailCheckMask := {}
  state : MailState := .unchanged
  deriving DecidableEq

structure MailDraft where
  mailTemplateId : Nat := 0
  subject : String := ""
  body : String := ""
  items : List Nat := []
  money : Nat := 0
  cod : Nat := 0
  deriving DecidableEq

structure MailSender where
  messageType : MailMessageType
  senderId : Nat
  deriving DecidableEq

structure Player where
  account : Nat
  purse : Purse
  /-- The guids of the items that he has, merged into a stack or not -/
  inventory : List Nat
  isOnline : Bool
  mailsLoaded : Bool
  mailsUpdated : Bool
  mails : List Mail
  /-- `mMitems` -/
  mailedItems : List Nat
  unReadMails : Nat
  nextMailDelivereTime : Nat
  deriving DecidableEq

structure Realm where
  player : Nat → Option Player
  /-- The table `mail`, each row with its rows of `mail_items` -/
  rows : List Mail
  nextMailId : Nat
  nextItem : Nat
  time : Nat
  /-- `CONFIG_MAIL_DELIVERY_DELAY` -/
  mailDeliveryDelay : Nat

def Mail.delivered (time : Nat) (mail : Mail) : Bool := decide (mail.deliverTime ≤ time)

namespace Realm

/-- `ObjectMgr::GetPlayer` finds those who are online. -/
def getPlayer (realm : Realm) (guid : Nat) : Option Player :=
  (realm.player guid).filter (·.isOnline)

def setPlayer (realm : Realm) (guid : Nat) (player : Player) : Realm :=
  { realm with player := Function.update realm.player guid (some player) }

end Realm

def getMail (mails : List Mail) (id : Nat) : Option Mail :=
  mails.find? fun mail => decide (mail.messageID = id)

/-- What is written through the pointer that `GetMail` returns -/
def changeMail (change : Mail → Mail) (id : Nat) : List Mail → List Mail
  | [] => []
  | mail :: rest =>
    if mail.messageID = id then change mail :: rest else mail :: changeMail change id rest

def removeMail (mails : List Mail) (id : Nat) : List Mail :=
  mails.eraseP fun mail => decide (mail.messageID = id)

/-- What the client sends with `CMSG_SEND_MAIL` -/
structure SendMail where
  receiver : Nat
  subject : String
  body : String
  items : List Nat
  money : Nat
  cod : Nat

def maxMailItems : Nat := 12

/-- `30 * items_count` or 30 -/
def SendMail.cost (packet : SendMail) : Nat :=
  if packet.items ≠ [] then 30 * packet.items.length else 30

/-- A sum of unsigned 64 bits -/
def SendMail.reqmoney (packet : SendMail) : Nat := (packet.cost + packet.money) % 2 ^ 64

/-- `MailDraft::m_items` is a map from the low guid. -/
def itemMap (items : List Nat) : List Nat := items.dedup.insertionSort (· ≤ ·)

namespace Player

/-- `unReadMails` has eight bits. -/
def addUnread (player : Player) : Player :=
  { player with unReadMails := (player.unReadMails + 1) % 2 ^ 8 }

def addNewMailDeliverTime (time deliverTime : Nat) (player : Player) : Player :=
  if deliverTime ≤ time then player.addUnread
  else if player.nextMailDelivereTime = 0 ∨ deliverTime < player.nextMailDelivereTime then
    { player with nextMailDelivereTime := deliverTime }
  else player

/-- What `SendMailTo` does for a receiver who is online -/
def receiveMail (time : Nat) (mail : Mail) (player : Player) : Player :=
  let player := player.addNewMailDeliverTime time mail.deliverTime
  if player.mailsLoaded = true then
    { player with
      mails := mail :: player.mails
      mailedItems := player.mailedItems ++ mail.items }
  else player

/-- The recount skips neither the deleted mails nor, with eight bits, a wrap. -/
def updateNextMailTimeAndUnreads (time : Nat) (player : Player) : Player :=
  { player with
    nextMailDelivereTime :=
      ((player.mails.filter fun mail => !mail.delivered time).map (·.deliverTime)).min?.getD 0
    unReadMails :=
      (player.mails.countP fun mail => mail.delivered time && !mail.checked.read) % 2 ^ 8 }

end Player

def maxPacketSize : Nat := 32767

def Mail.nextMailSize (mail : Mail) : Nat :=
  2 + 4 + 1 + (if mail.messageType = .normal then 8 else 4) + 4 * 8 +
    (mail.subject.utf8ByteSize + 1) + (mail.body.utf8ByteSize + 1) + 1 +
    mail.items.length % 2 ^ 8 * (1 + 4 + 4 + 7 * 3 * 4 + 4 + 4 + 4 + 4 + 4 + 4 + 4 + 1)

/-- The bytes that it writes, with `MAX_INSPECTED_ENCHANTMENT_SLOT` enchantments for an item -/
def Mail.writtenSize (mail : Mail) : Nat :=
  2 + 4 + 1 + (if mail.messageType = .normal then 8 else 4) + (8 + 4 + 4 + 8 + 4 + 4 + 4) +
    (mail.subject.utf8ByteSize + 1) + (mail.body.utf8ByteSize + 1) + 1 +
    mail.items.length % 2 ^ 8 *
      (1 + 4 + 4 + 7 * 3 * 4 + 2 * 3 * 4 + 4 + 4 + 4 + 4 + 4 + 4 + 1)

def listMails (time : Nat) : List Mail → (wpos mailsCount : Nat) → List Mail × Nat
  | [], _, _ => ([], 0)
  | mail :: rest, wpos, mailsCount =>
    if 254 ≤ mailsCount then
      let (shown, realCount) := listMails time rest wpos mailsCount
      (shown, realCount + 1)
    else if mail.state = .deleted ∨ mail.delivered time = false then
      listMails time rest wpos mailsCount
    else if maxPacketSize < wpos + mail.nextMailSize then
      let (shown, realCount) := listMails time rest wpos mailsCount
      (shown, realCount + 1)
    else
      let (shown, realCount) :=
        listMails time rest (wpos + mail.writtenSize) (mailsCount + 1)
      (mail :: shown, realCount + 1)

namespace Realm

variable (realm : Realm)

def newMail (draft : MailDraft) (receiver : Nat) (sender : MailSender) (checked : MailCheckMask)
    (deliverDelay : Nat) : Mail :=
  { messageID := realm.nextMailId
    messageType := sender.messageType
    mailTemplateId := draft.mailTemplateId
    sender := sender.senderId
    receiver := receiver
    subject := draft.subject
    body := draft.body
    items := draft.items
    deliverTime := realm.time + deliverDelay
    money := draft.money
    cod := draft.cod
    checked := checked }

/-- `CHAR_ADD_MAIL` takes 32 bits of both amounts. -/
def addRow (mail : Mail) : Realm :=
  { realm with
    rows := realm.rows ++ [{ mail with money := uint32 mail.money, cod := uint32 mail.cod }]
    nextMailId := realm.nextMailId + 1 }

def sendMailTo (draft : MailDraft) (receiver : Nat) (sender : MailSender)
    (checked : MailCheckMask) (deliverDelay : Nat) : Realm :=
  let mail := realm.newMail draft receiver sender checked deliverDelay
  let realm := realm.addRow mail
  match realm.getPlayer receiver with
  | none => realm
  | some player => realm.setPlayer receiver (player.receiveMail realm.time mail)

/-- `MailDraft::SendReturnToSender`: the account of a receiver who is online is not looked up
and differs from that of the sender. -/
def sendReturnToSender (draft : MailDraft) (senderAccount sender receiver : Nat) : Realm :=
  match realm.player receiver with
  | none => realm
  | some player =>
    let receiverAccount := if player.isOnline = true then 0 else player.account
    let needItemDelay := draft.items ≠ [] ∧ senderAccount ≠ receiverAccount
    realm.sendMailTo draft receiver ⟨.normal, sender⟩ { returned := true }
      (if needItemDelay then realm.mailDeliveryDelay else 0)

/-- `Player::_LoadMail`: the newest first -/
def loadMail (guid : Nat) (player : Player) : Player :=
  let rows := (realm.rows.filter fun row => decide (row.receiver = guid)).insertionSort
    fun row other => other.messageID ≤ row.messageID
  let mails := rows.map fun row => { row with removedItems := [], state := .unchanged }
  { player with
    mails := mails
    mailedItems := player.mailedItems ++ mails.flatMap (·.items)
    mailsLoaded := true }

/-- One mail of `_SaveMail`; the removed items are no longer attached to any mail. -/
def saveRow (rows : List Mail) (mail : Mail) : List Mail :=
  match mail.state with
  | .unchanged => rows
  | .changed =>
    (rows.map fun row => if row.messageID = mail.messageID then { row with
          deliverTime := mail.deliverTime
          money := uint32 mail.money
          cod := uint32 mail.cod
          checked := mail.checked } else row).map fun row =>
        { row with items := row.items.filter fun item => decide (item ∉ mail.removedItems) }
  | .deleted => rows.filter fun row => decide (row.messageID ≠ mail.messageID)

/-- What `_SaveMail` leaves of a mail in memory -/
def savedMail (mail : Mail) : Mail :=
  match mail.state with
  | .changed => { mail with removedItems := [], state := .unchanged }
  | _ => mail

def saveMail (guid : Nat) (player : Player) : Realm :=
  if player.mailsLoaded = true then
    { realm with rows := player.mails.foldl saveRow realm.rows }.setPlayer guid
      { player with
        mails :=
          (player.mails.filter fun mail : Mail =>
            decide (mail.state ≠ MailState.deleted)).map savedMail
        mailsUpdated := false }
  else realm.setPlayer guid player

/-- The part of `Player::SaveToDB` that is about mails -/
def saveToDB (guid : Nat) (player : Player) : Realm :=
  if player.mailsUpdated = true then realm.saveMail guid player else realm

def mailsCount (guid : Nat) (receiver : Player) : Nat :=
  if receiver.isOnline = true then receiver.mails.length % 2 ^ 8
  else (realm.rows.countP fun row => decide (row.receiver = guid)) % 2 ^ 8

/-- `WorldSession::HandleSendMail`; `allowed` stands for the checks of the levels, the faction
and the kind of the items. -/
def handleSendMail (guid : Nat) (player : Player) (packet : SendMail) (allowed : Bool) : Realm :=
  if maxMailItems < packet.items.length then realm
  else
    match realm.player packet.receiver with
    | none => realm
    | some receiver =>
      if packet.receiver = guid then realm
      else if player.purse.hasEnoughMoney (uint32 packet.reqmoney) = false then realm
      else if 100 < realm.mailsCount packet.receiver receiver then realm
      else if allowed = false ∨ ¬ packet.items ⊆ player.inventory then realm
      else
        let paid : Player :=
          { player with
            purse := player.purse.modifyMoney (-int32 packet.reqmoney)
            inventory := player.inventory.filter fun item => decide (item ∉ packet.items) }
        let draft : MailDraft :=
          { subject := packet.subject
            body := packet.body
            items := itemMap packet.items
            money := packet.money
            cod := packet.cod }
        let needItemDelay := packet.items ≠ [] ∧ player.account ≠ receiver.account
        (realm.setPlayer guid paid).sendMailTo draft packet.receiver ⟨.normal, guid⟩
          (if packet.body = "" then { copied := true } else { hasBody := true })
          (if needItemDelay then realm.mailDeliveryDelay else 0)

/-- `WorldSession::HandleMailMarkAsRead` looks neither at the state nor at the mask. -/
def handleMailMarkAsRead (guid : Nat) (player : Player) (mailId : Nat) : Realm :=
  match getMail player.mails mailId with
  | none => realm
  | some _ =>
    realm.setPlayer guid
      { player with
        unReadMails := if player.unReadMails ≠ 0 then player.unReadMails - 1 else 0
        mails := changeMail (fun mail : Mail =>
          { mail with checked := { mail.checked with read := true }, state := .changed })
          mailId player.mails
        mailsUpdated := true }

def handleMailDelete (guid : Nat) (player : Player) (mailId : Nat) : Realm :=
  let player := { player with mailsUpdated := true }
  match getMail player.mails mailId with
  | none => realm.setPlayer guid player
  | some mail =>
    if mail.cod ≠ 0 then realm.setPlayer guid player
    else
      realm.setPlayer guid
        { player with
          mails := changeMail (fun mail : Mail => { mail with state := .deleted }) mailId
            player.mails }

def usableMail (player : Player) (mailId : Nat) : Option Mail :=
  (getMail player.mails mailId).filter fun mail : Mail =>
    decide (mail.state ≠ MailState.deleted) && mail.delivered realm.time

/-- The draft of `HandleMailReturnToSender`; what is not among the mailed items is left out. -/
def returnDraft (player : Player) (mail : Mail) : MailDraft :=
  { mailTemplateId := mail.mailTemplateId
    subject := if mail.mailTemplateId ≠ 0 then "" else mail.subject
    body := if mail.mailTemplateId ≠ 0 then "" else mail.body
    items := itemMap (mail.items.filter fun item => decide (item ∈ player.mailedItems))
    money := mail.money }

def handleMailReturnToSender (guid : Nat) (player : Player) (mailId : Nat) : Realm :=
  match realm.usableMail player mailId with
  | none => realm
  | some mail =>
    let realm : Realm :=
      { realm with rows := realm.rows.filter fun row => decide (row.messageID ≠ mailId) }
    let left := { player with mails := removeMail player.mails mailId }
    if mail.messageType = .normal ∧ mail.sender ≠ 0 then
      (realm.setPlayer guid { left with
          mailedItems := player.mailedItems.filter fun item => decide (item ∉ mail.items) }
        ).sendReturnToSender (returnDraft player mail) player.account mail.receiver mail.sender
    else realm.setPlayer guid left

def sendCOD (mail : Mail) : Realm :=
  match realm.player mail.sender with
  | none => realm
  | some _ =>
    realm.sendMailTo { subject := mail.subject, money := mail.cod } mail.sender
      ⟨.normal, mail.receiver⟩ { codPayment := true } 0

def tookItem (player : Player) (mail : Mail) (mailId itemId : Nat) : Player :=
  { player with
    purse := if 0 < mail.cod then player.purse.modifyMoney (-int32 mail.cod) else player.purse
    mails := changeMail (fun mail : Mail =>
      { mail with
        items := mail.items.erase itemId
        removedItems := mail.removedItems ++ [itemId]
        cod := 0
        state := .changed }) mailId player.mails
    mailsUpdated := true
    mailedItems := player.mailedItems.filter fun item => decide (item ≠ itemId)
    inventory := player.inventory ++ [itemId] }

/-- `WorldSession::HandleMailTakeItem`; `storable` is what `CanStoreItem` says of an item. It is
asked about one that `GetMItem` did not find, too, and refuses. The mail to the sender is sent
when the rest is done, of which it depends on nothing. -/
def handleMailTakeItem (guid : Nat) (player : Player) (mailId itemId : Nat) (storable : Bool) :
    Realm :=
  match realm.usableMail player mailId with
  | none => realm
  | some mail =>
    if player.purse.hasEnoughMoney (uint32 mail.cod) = false then realm
    else if itemId ∉ player.mailedItems ∨ storable = false then realm
    else
      let taken := realm.setPlayer guid (tookItem player mail mailId itemId)
      let paid := if 0 < mail.cod then taken.sendCOD mail else taken
      match paid.getPlayer guid with
      | none => paid
      | some player => paid.saveMail guid player

def handleMailTakeMoney (guid : Nat) (player : Player) (mailId : Nat) : Realm :=
  match realm.usableMail player mailId with
  | none => realm
  | some mail =>
    realm.saveMail guid
      { player with
        purse := player.purse.modifyMoney (int32 mail.money)
        mails := changeMail (fun mail : Mail => { mail with money := 0, state := .changed })
          mailId player.mails
        mailsUpdated := true }

def loaded (guid : Nat) (player : Player) : Player :=
  if player.mailsLoaded = true then player else realm.loadMail guid player

/-- The packet of `HandleGetMailList`; five bytes are written before the first mail. -/
def mailListResult (guid : Nat) (player : Player) : List Mail × Nat :=
  listMails realm.time (realm.loaded guid player).mails 5 0

def handleGetMailList (guid : Nat) (player : Player) : Realm :=
  realm.setPlayer guid ((realm.loaded guid player).updateNextMailTimeAndUnreads realm.time)

/-- `WorldSession::HandleMailCreateTextItem`; `storable` is that the text is found and the letter
finds a place. -/
def handleMailCreateTextItem (guid : Nat) (player : Player) (mailId : Nat) (storable : Bool) :
    Realm :=
  match realm.usableMail player mailId with
  | none => realm
  | some mail =>
    if mail.body = "" ∧ mail.mailTemplateId = 0 then realm
    else
      let made := { realm with nextItem := realm.nextItem + 1 }
      if storable = false then made
      else
        made.setPlayer guid
          { player with
            mails := changeMail (fun mail : Mail =>
              { mail with checked := { mail.checked with copied := true }, state := .changed })
              mailId player.mails
            mailsUpdated := true
            inventory := player.inventory ++ [realm.nextItem] }

def handleQueryNextMailTime (guid : Nat) (player : Player) : Realm :=
  realm.setPlayer guid (realm.loaded guid player)

/-- The part of `Player::Update` that is about mails -/
def updatePlayer (guid : Nat) (player : Player) : Realm :=
  if player.nextMailDelivereTime ≠ 0 ∧ player.nextMailDelivereTime ≤ realm.time then
    realm.setPlayer guid { player.addUnread with nextMailDelivereTime := 0 }
  else realm

end Realm

inductive Request where
  | sendMail (packet : SendMail) (allowed : Bool)
  | markAsRead (mailId : Nat)
  | delete (mailId : Nat)
  | returnToSender (mailId : Nat)
  | takeItem (mailId itemId : Nat) (storable : Bool)
  | takeMoney (mailId : Nat)
  | getMailList
  | createTextItem (mailId : Nat) (storable : Bool)
  | queryNextMailTime

inductive Action where
  | request (guid : Nat) (request : Request)
  /-- A mail of the server: of a quest, an auction, a game master -/
  | systemMail (draft : MailDraft) (receiver : Nat) (sender : MailSender)
      (checked : MailCheckMask) (deliverDelay : Nat)
  | update (guid : Nat)
  | save (guid : Nat)
  | wait (seconds : Nat)

namespace Realm

def handle (realm : Realm) (guid : Nat) (player : Player) : Request → Realm
  | .sendMail packet allowed => realm.handleSendMail guid player packet allowed
  | .markAsRead mailId => realm.handleMailMarkAsRead guid player mailId
  | .delete mailId => realm.handleMailDelete guid player mailId
  | .returnToSender mailId => realm.handleMailReturnToSender guid player mailId
  | .takeItem mailId itemId storable => realm.handleMailTakeItem guid player mailId itemId storable
  | .takeMoney mailId => realm.handleMailTakeMoney guid player mailId
  | .getMailList => realm.handleGetMailList guid player
  | .createTextItem mailId storable => realm.handleMailCreateTextItem guid player mailId storable
  | .queryNextMailTime => realm.handleQueryNextMailTime guid player

def next (realm : Realm) : Action → Realm
  | .request guid request =>
    match realm.getPlayer guid with
    | none => realm
    | some player => realm.handle guid player request
  | .systemMail draft receiver sender checked deliverDelay =>
    realm.sendMailTo draft receiver sender checked deliverDelay
  | .update guid =>
    match realm.getPlayer guid with
    | none => realm
    | some player => realm.updatePlayer guid player
  | .save guid =>
    match realm.getPlayer guid with
    | none => realm
    | some player => realm.saveToDB guid player
  | .wait seconds => { realm with time := realm.time + seconds }

def mailbox (realm : Realm) (guid : Nat) : List Mail :=
  match realm.getPlayer guid with
  | some player =>
    if player.mailsLoaded = true then player.mails
    else realm.rows.filter fun row => decide (row.receiver = guid)
  | none => realm.rows.filter fun row => decide (row.receiver = guid)

end Realm

end DarkCore.Mails
