/-
Money in the mail. A packet and a mail hold 64 bits, a row of the database and a
purse 32, and a purse is changed by 31 of them and a sign. Within these bounds
every request moves money to the copper.
-/

import DarkCore.Mails.Takes

namespace DarkCore.Mails

open DarkCore.Lib
open DarkCore.Player (Purse uint32 int32 uint32_of_lt maxMoneyAmount)

def balance (realm : Realm) (guid : Nat) : Option Nat :=
  (realm.player guid).map (·.purse.money)

variable {realm after : Realm} {guid other : Nat} {player : Player}

theorem balance_of_getPlayer (found : realm.getPlayer guid = some player) :
    balance realm guid = some player.purse.money := by
  unfold balance
  rw [Realm.player_of_getPlayer found, Option.map_some]

@[simp] theorem balance_setPlayer_self (player : Player) :
    balance (realm.setPlayer guid player) guid = some player.purse.money := by
  unfold balance
  rw [Realm.setPlayer_player_self, Option.map_some]

theorem balance_setPlayer_of_ne (apart : other ≠ guid) (player : Player) :
    balance (realm.setPlayer guid player) other = balance realm other := by
  unfold balance
  rw [Realm.setPlayer_player_of_ne apart]

theorem balance_setPlayer_same {old : Player} (found : realm.getPlayer guid = some old)
    (same : player.purse = old.purse) :
    balance (realm.setPlayer guid player) = balance realm := by
  funext other
  by_cases here : other = guid
  · rw [here, balance_setPlayer_self, same, balance_of_getPlayer found]
  · exact balance_setPlayer_of_ne here player

@[simp] theorem balance_saveMail_self (player : Player) :
    balance (realm.saveMail guid player) guid = some player.purse.money := by
  unfold balance
  rw [Realm.saveMail_player_self, Option.map_some]
  split <;> rfl

theorem balance_saveMail_of_ne (apart : other ≠ guid) (player : Player) :
    balance (realm.saveMail guid player) other = balance realm other := by
  unfold balance
  rw [Realm.saveMail_player_of_ne apart]

theorem balance_saveMail_same {old : Player} (found : realm.getPlayer guid = some old)
    (same : player.purse = old.purse) :
    balance (realm.saveMail guid player) = balance realm := by
  funext other
  by_cases here : other = guid
  · rw [here, balance_saveMail_self, same, balance_of_getPlayer found]
  · exact balance_saveMail_of_ne here player

@[simp] theorem balance_sendMailTo (draft : MailDraft) (receiver : Nat) (sender : MailSender)
    (checked : MailCheckMask) (deliverDelay : Nat) :
    balance (realm.sendMailTo draft receiver sender checked deliverDelay) = balance realm := by
  unfold Realm.sendMailTo
  dsimp only
  split
  · rfl
  · rename_i player found
    refine balance_setPlayer_same found ?_
    rw [Player.receiveMail_eq, Player.addNewMailDeliverTime_eq]

@[simp] theorem balance_sendCOD (mail : Mail) : balance (realm.sendCOD mail) = balance realm := by
  rcases realm.sendCOD_cases mail with ⟨_, same⟩ | ⟨_, same⟩
  · rw [same]
  · rw [same, balance_sendMailTo]

def Paid (realm after : Realm) (guid amount : Nat) : Prop :=
  ∃ before left, balance realm guid = some before ∧ balance after guid = some left ∧
    left + amount = before

def Gained (realm after : Realm) (guid amount : Nat) : Prop :=
  ∃ before, balance realm guid = some before ∧ balance after guid = some (before + amount)

def Brought (realm after : Realm) (receiver money cod : Nat) : Prop :=
  ∃ mail ∈ after.mailbox receiver,
    mail.messageID = realm.nextMailId ∧ mail.money = money ∧ mail.cod = cod

def Named (realm : Realm) (guid mailId : Nat) (mail : Mail) : Prop :=
  ∃ player, realm.getPlayer guid = some player ∧ realm.usableMail player mailId = some mail

def ExactRequest (realm after : Realm) (guid : Nat) : Request → Prop
  | .sendMail packet _ =>
    after = realm ∨
      Paid realm after guid (packet.money + packet.cost) ∧
        Brought realm after packet.receiver packet.money packet.cod
  | .takeMoney mailId =>
    after = realm ∨
      ∃ mail, Named realm guid mailId mail ∧ Gained realm after guid mail.money ∧
        ∃ player empty, after.getPlayer guid = some player ∧
          getMail player.mails mailId = some empty ∧ empty.money = 0
  | .returnToSender mailId =>
    balance after guid = balance realm guid ∧
      (after.nextMailId ≠ realm.nextMailId →
        ∃ mail, Named realm guid mailId mail ∧ Brought realm after mail.sender mail.money 0)
  | .takeItem mailId _ _ =>
    after = realm ∨ ∃ mail, Named realm guid mailId mail ∧ Paid realm after guid mail.cod
  | _ => balance after guid = balance realm guid

def ExactMoney (realm : Realm) : Action → Prop
  | .request guid request =>
    ExactRequest realm (realm.next (.request guid request)) guid request ∧
      ∀ other, other ≠ guid →
        balance (realm.next (.request guid request)) other = balance realm other
  | action => balance (realm.next action) = balance realm

def AmountsFit (realm : Realm) : Action → Prop
  | .request guid (.sendMail packet _) =>
    ∀ player, realm.getPlayer guid = some player →
      uint32 packet.reqmoney ≤ player.purse.money →
      packet.money + packet.cost < 2 ^ 31 ∧ packet.cod < 2 ^ 32
  | .request guid (.takeMoney mailId) =>
    ∀ player mail, realm.getPlayer guid = some player →
      realm.usableMail player mailId = some mail →
      player.purse.money + mail.money ≤ maxMoneyAmount
  | .request guid (.returnToSender mailId) =>
    ∀ mail, Named realm guid mailId mail → mail.money < 2 ^ 32
  | .request guid (.takeItem mailId _ _) =>
    ∀ player mail, realm.getPlayer guid = some player →
      realm.usableMail player mailId = some mail → uint32 mail.cod ≤ player.purse.money →
      mail.cod < 2 ^ 31
  | _ => True

theorem paid_of {mailed : Realm} {amount : Nat} (found : realm.getPlayer guid = some player)
    (positive : 0 < amount) (small : amount < 2 ^ 31) (enough : amount ≤ player.purse.money)
    (left : balance mailed guid = some (player.purse.modifyMoney (-int32 amount)).money) :
    Paid realm mailed guid amount := by
  refine ⟨_, _, balance_of_getPlayer found, left, ?_⟩
  rw [Purse.modifyMoney_neg positive small enough]
  exact Nat.sub_add_cancel enough

theorem exact_sendMail (found : realm.getPlayer guid = some player) (packet : SendMail)
    (allowed : Bool)
    (small : uint32 packet.reqmoney ≤ player.purse.money →
      packet.money + packet.cost < 2 ^ 31 ∧ packet.cod < 2 ^ 32) :
    (realm.handleSendMail guid player packet allowed = realm ∨
      Paid realm (realm.handleSendMail guid player packet allowed) guid
          (packet.money + packet.cost) ∧
        Brought realm (realm.handleSendMail guid player packet allowed) packet.receiver packet.money
          packet.cod) ∧
    ∀ other, other ≠ guid →
      balance (realm.handleSendMail guid player packet allowed) other = balance realm other := by
  rcases realm.sendMail_cases player packet allowed with same |
    ⟨enough, _, inventory, draft, checked, deliverDelay, isMoney, isCod, _, same⟩
  · exact ⟨Or.inl same, fun other _ => by rw [same]⟩
  · obtain ⟨fits, fitsCod⟩ := small enough
    have isAmount : packet.reqmoney = packet.money + packet.cost := by
      grind [SendMail.reqmoney]
    have positive : 0 < packet.money + packet.cost := by
      unfold SendMail.cost
      split
      · rename_i some
        have := List.length_pos_iff.mpr some
        omega
      · omega
    rw [isAmount, uint32_of_lt (by omega)] at enough
    rw [same]
    constructor
    · refine Or.inr ⟨?_, ?_⟩
      · refine paid_of found positive fits enough ?_
        rw [balance_sendMailTo, balance_setPlayer_self, isAmount]
      · rw [← isMoney, ← isCod]
        refine ⟨_, Realm.mem_mailbox_sendMailTo ?_ ?_, rfl, rfl, rfl⟩ <;> omega
    · intro other apart
      rw [balance_sendMailTo, balance_setPlayer_of_ne apart]

theorem getMail_saved {mails : List Mail} {id : Nat} {mail : Mail}
    (found : getMail mails id = some mail) (stays : mail.state ≠ .deleted) :
    getMail ((mails.filter fun mail : Mail =>
      decide (mail.state ≠ MailState.deleted)).map Realm.savedMail) id =
      some (Realm.savedMail mail) := by
  induction mails with
  | nil => cases found
  | cons head rest ih =>
    by_cases here : head.messageID = id
    · rw [getMail_cons_self here] at found
      injection found with found
      rw [found, List.filter_cons, if_pos (decide_eq_true stays), List.map_cons]
      rw [found] at here
      exact getMail_cons_self ((savedMail_messageID mail).trans here)
    · rw [getMail_cons_of_ne here] at found
      rw [List.filter_cons]
      split
      · rw [List.map_cons, getMail_cons_of_ne (by rw [savedMail_messageID]; exact here)]
        exact ih found
      · exact ih found

theorem saveMail_getMail (online : player.isOnline = true) {id : Nat} {mail : Mail}
    (found : getMail player.mails id = some mail) (stays : mail.state ≠ .deleted) :
    ∃ owner kept, (realm.saveMail guid player).getPlayer guid = some owner ∧
      getMail owner.mails id = some kept ∧ kept.money = mail.money := by
  have saved : (realm.saveMail guid player).player guid = some _ :=
    Realm.saveMail_player_self player
  cases isLoaded : player.mailsLoaded with
  | true =>
    rw [if_pos isLoaded] at saved
    refine ⟨_, _, Realm.getPlayer_eq_some.mpr ⟨saved, online⟩, getMail_saved found stays, ?_⟩
    unfold Realm.savedMail
    split <;> rfl
  | false =>
    rw [if_neg (by rw [isLoaded]; exact Bool.false_ne_true)] at saved
    exact ⟨_, _, Realm.getPlayer_eq_some.mpr ⟨saved, online⟩, found, rfl⟩

section

variable (found : realm.getPlayer guid = some player)
include found

theorem exact_takeMoney (mailId : Nat)
    (fits : ∀ mail, realm.usableMail player mailId = some mail →
      player.purse.money + mail.money ≤ maxMoneyAmount) :
    (realm.handleMailTakeMoney guid player mailId = realm ∨ ∃ mail, Named realm guid mailId mail ∧
        Gained realm (realm.handleMailTakeMoney guid player mailId) guid mail.money ∧ ∃ taker empty,
          (realm.handleMailTakeMoney guid player mailId).getPlayer guid = some taker ∧
          getMail taker.mails mailId = some empty ∧ empty.money = 0) ∧
    ∀ other, other ≠ guid →
      balance (realm.handleMailTakeMoney guid player mailId) other = balance realm other := by
  unfold Realm.handleMailTakeMoney
  cases usable : realm.usableMail player mailId with
  | none => exact ⟨Or.inl rfl, fun other _ => rfl⟩
  | some mail =>
    have exist := (Realm.usableMail_eq_some.mp usable).1
    have sameId := getMail_messageID exist
    have online := Realm.isOnline_of_getPlayer found
    have gained := Purse.modifyMoney_pos (fits mail usable)
    have empty : getMail (changeMail (fun mail => { mail with money := 0, state := .changed })
        mailId player.mails) mailId = some { mail with money := 0, state := .changed } :=
      getMail_changeMail exist sameId
    dsimp only
    generalize placed : ({ player with
      purse := player.purse.modifyMoney (int32 mail.money)
      mails := changeMail (fun mail => { mail with money := 0, state := .changed }) mailId
        player.mails
      mailsUpdated := true } : Player) = taker
    have takerOnline : taker.isOnline = true := by rw [← placed]; exact online
    have takerMoney : taker.purse.money = player.purse.money + mail.money := by
      rw [← placed]
      exact gained
    have takerMail : getMail taker.mails mailId =
        some { mail with money := 0, state := .changed } := by rw [← placed]; exact empty
    constructor
    · refine Or.inr ⟨mail, ⟨player, found, usable⟩, ?_, ?_⟩
      · refine ⟨_, balance_of_getPlayer found, ?_⟩
        rw [balance_saveMail_self, takerMoney]
      · exact saveMail_getMail takerOnline takerMail MailState.noConfusion
    · intro other apart
      exact balance_saveMail_of_ne apart _

theorem exact_return (mailId : Nat)
    (fits : ∀ mail, Named realm guid mailId mail → mail.money < 2 ^ 32) :
    balance (realm.handleMailReturnToSender guid player mailId) = balance realm ∧
    ((realm.handleMailReturnToSender guid player mailId).nextMailId ≠ realm.nextMailId →
      ∃ mail, Named realm guid mailId mail ∧
        Brought realm (realm.handleMailReturnToSender guid player mailId) mail.sender mail.money
          0) := by
  have kept (rows : List Mail) (left : Player) (same : left.purse = player.purse) :
      balance (({ realm with rows := rows } : Realm).setPlayer guid left) = balance realm := by
    have there : ({ realm with rows := rows } : Realm).getPlayer guid = some player := found
    exact balance_setPlayer_same there same
  rcases realm.return_cases player mailId with
    same | ⟨mail, rows, mailedItems, usable, _, same | ⟨deliverDelay, same⟩⟩
  · rw [same]
    exact ⟨rfl, fun changed => absurd rfl changed⟩
  · rw [same]
    exact ⟨kept rows _ rfl, fun changed => absurd rfl changed⟩
  · rw [same]
    constructor
    · simp_all
    · intro _
      have named : Named realm guid mailId mail := ⟨player, found, usable⟩
      refine ⟨mail, named, _, Realm.mem_mailbox_sendMailTo ?_ ?_, rfl, rfl, rfl⟩
      · exact fits mail named
      · exact Nat.two_pow_pos 32

theorem exact_takeItem (mailId itemId : Nat)
    (storable : Bool)
    (fits : ∀ mail, realm.usableMail player mailId = some mail →
      uint32 mail.cod ≤ player.purse.money → mail.cod < 2 ^ 31) :
    (realm.handleMailTakeItem guid player mailId itemId storable = realm ∨
      ∃ mail, Named realm guid mailId mail ∧
        Paid realm (realm.handleMailTakeItem guid player mailId itemId storable) guid mail.cod) ∧
    ∀ other, other ≠ guid →
      balance (realm.handleMailTakeItem guid player mailId itemId storable) other =
        balance realm other := by
  have online := Realm.isOnline_of_getPlayer found
  rcases Realm.takeItem_cases found mailId itemId storable with same |
    ⟨mail, taken, usable, enough, _, _, isTaken, result⟩
  · exact ⟨Or.inl same, fun other _ => by rw [same]⟩
  · have small := fits mail usable enough
    rw [uint32_of_lt (by omega)] at enough
    have named : Named realm guid mailId mail := ⟨player, found, usable⟩
    rcases result with ⟨free, same⟩ | ⟨positive, paid, paidFound, same⟩
    · rw [same, isTaken]
      refine ⟨Or.inr ⟨mail, named, _, _, balance_of_getPlayer found, balance_saveMail_self _, ?_⟩,
        ?_⟩
      · simp [Realm.tookItem, free, Nat.add_zero]
      · intro other apart
        rw [balance_saveMail_of_ne apart, balance_setPlayer_of_ne apart]
    · have there : balance (taken.sendCOD mail) guid =
          some (player.purse.modifyMoney (-int32 mail.cod)).money := by
        simp_all [Realm.tookItem]
      rw [same]
      constructor
      · refine Or.inr ⟨mail, named, paid_of found positive small enough ?_⟩
        rw [balance_saveMail_self, ← there]
        exact (balance_of_getPlayer paidFound).symm
      · intro other apart
        rw [balance_saveMail_of_ne apart, balance_sendCOD, isTaken, balance_setPlayer_of_ne apart]

end

theorem loaded_purse (guid : Nat) (player : Player) :
    (realm.loaded guid player).purse = player.purse := by
  unfold Realm.loaded
  split <;> rfl

section

variable (found : realm.getPlayer guid = some player)
include found

theorem balance_delete (mailId : Nat) :
    balance (realm.handleMailDelete guid player mailId) = balance realm := by
  unfold Realm.handleMailDelete
  dsimp only
  split
  · exact balance_setPlayer_same found rfl
  · split <;> exact balance_setPlayer_same found rfl

theorem balance_markAsRead (mailId : Nat) :
    balance (realm.handleMailMarkAsRead guid player mailId) = balance realm := by
  unfold Realm.handleMailMarkAsRead
  split
  · rfl
  · exact balance_setPlayer_same found rfl

theorem balance_createTextItem (mailId : Nat)
    (storable : Bool) :
    balance (realm.handleMailCreateTextItem guid player mailId storable) = balance realm := by
  unfold Realm.handleMailCreateTextItem
  split
  · rfl
  · split
    · rfl
    · dsimp only
      split
      · rfl
      · have there : ({ realm with nextItem := realm.nextItem + 1 } : Realm).getPlayer guid =
          some player := found
        exact balance_setPlayer_same there rfl

theorem balance_getMailList :
    balance (realm.handleGetMailList guid player) = balance realm :=
  balance_setPlayer_same found (loaded_purse guid player)

theorem balance_queryNextMailTime :
    balance (realm.handleQueryNextMailTime guid player) = balance realm :=
  balance_setPlayer_same found (loaded_purse guid player)

theorem balance_updatePlayer :
    balance (realm.updatePlayer guid player) = balance realm := by
  unfold Realm.updatePlayer
  split
  · exact balance_setPlayer_same found rfl
  · rfl

theorem balance_saveToDB :
    balance (realm.saveToDB guid player) = balance realm := by
  unfold Realm.saveToDB
  split
  · exact balance_saveMail_same found rfl
  · rfl

end

theorem exactRequest_refl (request : Request) : ExactRequest realm realm guid request := by
  cases request with
  | sendMail _ _ => exact Or.inl rfl
  | takeMoney _ => exact Or.inl rfl
  | takeItem _ _ _ => exact Or.inl rfl
  | returnToSender _ => exact ⟨rfl, fun changed => absurd rfl changed⟩
  | markAsRead _ | delete _ => exact rfl
  | getMailList | queryNextMailTime => exact rfl
  | createTextItem _ _ => exact rfl

theorem exactMoney_request {request : Request} (fit : AmountsFit realm (.request guid request)) :
    ExactMoney realm (.request guid request) := by
  unfold ExactMoney
  dsimp only
  cases found : realm.getPlayer guid with
  | none =>
    have same : realm.next (.request guid request) = realm := ask_offline found request
    rw [same]
    exact ⟨exactRequest_refl request, fun other _ => rfl⟩
  | some player =>
    have result : realm.next (.request guid request) = realm.handle guid player request :=
      ask_online found request
    rw [result]
    cases request with
    | sendMail packet allowed => exact exact_sendMail found packet allowed (fit player found)
    | takeMoney mailId => exact exact_takeMoney found mailId fun mail => fit player mail found
    | takeItem mailId itemId storable =>
      exact exact_takeItem found mailId itemId storable fun mail => fit player mail found
    | returnToSender mailId =>
      obtain ⟨same, brought⟩ := exact_return found mailId fit
      exact ⟨⟨congrFun same guid, brought⟩, fun other _ => congrFun same other⟩
    | markAsRead mailId =>
      have same := balance_markAsRead found mailId
      exact ⟨congrFun same guid, fun other _ => congrFun same other⟩
    | delete mailId =>
      have same := balance_delete found mailId
      exact ⟨congrFun same guid, fun other _ => congrFun same other⟩
    | getMailList =>
      have same := balance_getMailList found
      exact ⟨congrFun same guid, fun other _ => congrFun same other⟩
    | createTextItem mailId storable =>
      have same := balance_createTextItem found mailId storable
      exact ⟨congrFun same guid, fun other _ => congrFun same other⟩
    | queryNextMailTime =>
      have same := balance_queryNextMailTime found
      exact ⟨congrFun same guid, fun other _ => congrFun same other⟩

theorem exactMoney_next {action : Action} (fit : AmountsFit realm action) :
    ExactMoney realm action := by
  cases action with
  | request guid request => exact exactMoney_request fit
  | systemMail draft receiver sender checked deliverDelay => exact balance_sendMailTo ..
  | update guid =>
    unfold ExactMoney Realm.next
    dsimp only
    split
    · rfl
    · rename_i found
      exact balance_updatePlayer found
  | save guid =>
    unfold ExactMoney Realm.next
    dsimp only
    split
    · rfl
    · rename_i found
      exact balance_saveToDB found
  | wait seconds => exact rfl

/-- In a run in which the amounts fit, every step is exact. -/
theorem along_exactMoney {actions : List Action}
    (fit : Along Realm.next AmountsFit realm actions) :
    Along Realm.next ExactMoney realm actions :=
  fit.imp fun _ _ fits => exactMoney_next fits

def letter (money : Nat) : SendMail where
  receiver := 2
  subject := ""
  body := ""
  items := []
  money := money
  cod := 0

theorem along_exactMoney_letter :
    Along Realm.next ExactMoney collection [.request 1 (.sendMail (letter 70) true)] := by
  refine along_exactMoney ⟨?_, trivial⟩
  intro player found enough
  exact ⟨by decide, by decide⟩

/-- The sum of the money and the postage is nothing in 32 bits. -/
theorem not_always_exactMoney :
    ¬ ∀ (realm : Realm) (actions : List Action), Along Realm.next ExactMoney realm actions := by
  intro all
  obtain ⟨⟨sent, _⟩, _⟩ :=
    all collection [.request 1 (.sendMail (letter (2 ^ 32 - 30)) true)]
  have unpaid : balance
      (collection.next (.request 1 (.sendMail (letter (2 ^ 32 - 30)) true))) 1 = some 100 := by
    decide +kernel
  rcases sent with refused | ⟨⟨before, left, isBefore, isLeft, paid⟩, _⟩
  · have next : (collection.next
        (.request 1 (.sendMail (letter (2 ^ 32 - 30)) true))).nextMailId = 13 := by
      decide +kernel
    rw [refused] at next
    exact absurd next (by decide)
  · rw [unpaid] at isLeft
    injection isLeft with isLeft
    have had : balance collection 1 = some 100 := rfl
    rw [had] at isBefore
    injection isBefore with isBefore
    rw [← isLeft, ← isBefore] at paid
    exact absurd paid (by decide)

end DarkCore.Mails
