/-
What the pieces of the mail code do: to the list of mails, to the player whose
request it is, and to those who are sent something.
-/

import DarkCore.Lib.FirstMatch
import DarkCore.Mails.Mail

namespace DarkCore.Mails

open DarkCore.Lib
open DarkCore.Player (Purse uint32 int32 uint32_of_lt)

variable {id : Nat} {mails : List Mail} {mail : Mail}

theorem getMail_cons_self {head : Mail} {rest : List Mail}
    (here : head.messageID = id) : getMail (head :: rest) id = some head := by
  unfold getMail
  rw [List.find?_cons, decide_eq_true here]

theorem getMail_cons_of_ne {head : Mail} {rest : List Mail}
    (apart : head.messageID ≠ id) : getMail (head :: rest) id = getMail rest id := by
  unfold getMail
  rw [List.find?_cons, decide_eq_false apart]

section

variable (found : getMail mails id = some mail)
include found

theorem getMail_mem : mail ∈ mails := List.mem_of_find?_eq_some found

theorem getMail_messageID : mail.messageID = id := by
  unfold getMail at found
  exact of_decide_eq_true (List.find?_eq_some_iff_append.mp found).1

theorem getMail_perm : mails.Perm (mail :: removeMail mails id) :=
  find?_perm found

end

theorem changeMail_eq (change : Mail → Mail) (id : Nat) (mails : List Mail) :
    changeMail change id mails = changeFirst (fun mail => decide (mail.messageID = id)) change mails := by
  induction mails with
  | nil => rfl
  | cons mail rest ih =>
    unfold changeMail changeFirst
    rw [ih]
    simp only [decide_eq_true_iff]

theorem changeMail_perm
    (found : getMail mails id = some mail) (change : Mail → Mail) :
    (changeMail change id mails).Perm (change mail :: removeMail mails id) := by
  rw [changeMail_eq]
  exact changeFirst_perm found change

theorem mem_removeMail
    (member : mail ∈ removeMail mails id) : mail ∈ mails := List.mem_of_mem_eraseP member

theorem getMail_changeMail
    (found : getMail mails id = some mail) {change : Mail → Mail}
    (same : (change mail).messageID = id) :
    getMail (changeMail change id mails) id = some (change mail) := by
  rw [changeMail_eq]
  exact find?_changeFirst found (decide_eq_true same)

theorem itemMap_nodup (items : List Nat) : (itemMap items).Nodup :=
  (List.perm_insertionSort _ _).nodup_iff.mpr (List.nodup_dedup items)

theorem mem_itemMap {items : List Nat} {item : Nat} : item ∈ itemMap items ↔ item ∈ items := by
  unfold itemMap
  rw [List.mem_insertionSort, List.mem_dedup]

theorem savedMail_items (mail : Mail) : (Realm.savedMail mail).items = mail.items := by
  unfold Realm.savedMail
  split <;> rfl

theorem savedMail_messageID (mail : Mail) :
    (Realm.savedMail mail).messageID = mail.messageID := by
  unfold Realm.savedMail
  split <;> rfl

namespace Player

variable (time : Nat) (mail : Mail) (player : Player)

theorem addNewMailDeliverTime_eq (deliverTime : Nat) :
    player.addNewMailDeliverTime time deliverTime =
      { player with
        unReadMails := (player.addNewMailDeliverTime time deliverTime).unReadMails
        nextMailDelivereTime :=
          (player.addNewMailDeliverTime time deliverTime).nextMailDelivereTime } := by
  unfold addNewMailDeliverTime addUnread
  split
  · rfl
  · split <;> rfl

theorem receiveMail_loaded (isLoaded : player.mailsLoaded = true) :
    player.receiveMail time mail =
      { player.addNewMailDeliverTime time mail.deliverTime with
        mails := mail :: player.mails
        mailedItems := player.mailedItems ++ mail.items } := by
  have same : (player.addNewMailDeliverTime time mail.deliverTime).mailsLoaded = true := by
    rw [addNewMailDeliverTime_eq]
    exact isLoaded
  unfold receiveMail
  rw [if_pos same]
  rw [addNewMailDeliverTime_eq]

theorem receiveMail_unloaded (unloaded : player.mailsLoaded = false) :
    player.receiveMail time mail = player.addNewMailDeliverTime time mail.deliverTime := by
  have same : (player.addNewMailDeliverTime time mail.deliverTime).mailsLoaded = false := by
    rw [addNewMailDeliverTime_eq]
    exact unloaded
  unfold receiveMail
  rw [if_neg (by rw [same]; exact Bool.false_ne_true)]

theorem receiveMail_eq :
    player.receiveMail time mail =
      { player.addNewMailDeliverTime time mail.deliverTime with
        mails := if player.mailsLoaded = true then mail :: player.mails else player.mails
        mailedItems :=
          if player.mailsLoaded = true then player.mailedItems ++ mail.items
          else player.mailedItems } := by
  cases isLoaded : player.mailsLoaded with
  | true => exact player.receiveMail_loaded time mail isLoaded
  | false =>
    rw [player.receiveMail_unloaded time mail isLoaded, addNewMailDeliverTime_eq]
    rfl

end Player

namespace Realm

variable {realm : Realm} {guid : Nat}

variable {player : Player}

theorem getPlayer_eq_some :
    realm.getPlayer guid = some player ↔
      realm.player guid = some player ∧ player.isOnline = true := by
  unfold getPlayer
  rw [Option.filter_eq_some_iff]

theorem player_of_getPlayer (found : realm.getPlayer guid = some player) :
    realm.player guid = some player := (getPlayer_eq_some.mp found).1

theorem isOnline_of_getPlayer (found : realm.getPlayer guid = some player) :
    player.isOnline = true := (getPlayer_eq_some.mp found).2

@[simp] theorem setPlayer_player_self (player : Player) :
    (realm.setPlayer guid player).player guid = some player := Function.update_self _ _ _

theorem setPlayer_player_of_ne {other : Nat} (apart : other ≠ guid) (player : Player) :
    (realm.setPlayer guid player).player other = realm.player other :=
  Function.update_of_ne apart _ _

theorem setPlayer_getPlayer_self (online : player.isOnline = true) :
    (realm.setPlayer guid player).getPlayer guid = some player :=
  getPlayer_eq_some.mpr ⟨setPlayer_player_self player, online⟩

theorem setPlayer_getPlayer_of_ne {other : Nat} (apart : other ≠ guid) (player : Player) :
    (realm.setPlayer guid player).getPlayer other = realm.getPlayer other := by
  unfold getPlayer
  rw [setPlayer_player_of_ne apart]

theorem usableMail_eq_some {id : Nat} {mail : Mail} :
    realm.usableMail player id = some mail ↔
      getMail player.mails id = some mail ∧ mail.state ≠ .deleted ∧
        mail.delivered realm.time = true := by
  unfold usableMail
  rw [Option.filter_eq_some_iff, Bool.and_eq_true, decide_eq_true_iff]

section

variable {draft : MailDraft} {receiver : Nat} {sender : MailSender} {checked : MailCheckMask}
  {deliverDelay : Nat}

theorem sendMailTo_rows :
    (realm.sendMailTo draft receiver sender checked deliverDelay).rows =
      (realm.addRow (realm.newMail draft receiver sender checked deliverDelay)).rows := by
  unfold sendMailTo
  dsimp only
  split <;> rfl

theorem sendMailTo_nextMailId :
    (realm.sendMailTo draft receiver sender checked deliverDelay).nextMailId =
      realm.nextMailId + 1 := by
  unfold sendMailTo
  dsimp only
  split <;> rfl

theorem sendMailTo_time :
    (realm.sendMailTo draft receiver sender checked deliverDelay).time = realm.time := by
  unfold sendMailTo
  dsimp only
  split <;> rfl

theorem sendMailTo_player_of_ne {other : Nat} (apart : other ≠ receiver) :
    (realm.sendMailTo draft receiver sender checked deliverDelay).player other =
      realm.player other := by
  unfold sendMailTo
  dsimp only
  split
  · rfl
  · exact setPlayer_player_of_ne apart _

theorem sendMailTo_getPlayer_of_ne {other : Nat} (apart : other ≠ receiver) :
    (realm.sendMailTo draft receiver sender checked deliverDelay).getPlayer other =
      realm.getPlayer other := by
  unfold getPlayer
  rw [sendMailTo_player_of_ne apart]

theorem sendMailTo_getPlayer_self {player : Player}
    (found : realm.getPlayer receiver = some player) :
    (realm.sendMailTo draft receiver sender checked deliverDelay).getPlayer receiver =
      some (player.receiveMail realm.time
        (realm.newMail draft receiver sender checked deliverDelay)) := by
  have online := isOnline_of_getPlayer found
  unfold sendMailTo
  dsimp only
  rw [show (realm.addRow (realm.newMail draft receiver sender checked deliverDelay)).getPlayer
    receiver = some player from found]
  refine setPlayer_getPlayer_self ?_
  rw [Player.receiveMail_eq, Player.addNewMailDeliverTime_eq]
  exact online

theorem sendMailTo_getPlayer_none (absent : realm.getPlayer receiver = none) :
    (realm.sendMailTo draft receiver sender checked deliverDelay).getPlayer receiver = none := by
  unfold sendMailTo
  dsimp only
  rw [show (realm.addRow (realm.newMail draft receiver sender checked deliverDelay)).getPlayer
    receiver = none from absent]
  exact absent

end

theorem sendReturnToSender_cases (draft : MailDraft) (senderAccount sender receiver : Nat) :
    (realm.player receiver = none ∧
      realm.sendReturnToSender draft senderAccount sender receiver = realm) ∨
    ((realm.player receiver).isSome = true ∧ ∃ deliverDelay,
      realm.sendReturnToSender draft senderAccount sender receiver =
        realm.sendMailTo draft receiver ⟨.normal, sender⟩ { returned := true } deliverDelay) := by
  unfold sendReturnToSender
  cases known : realm.player receiver with
  | none => exact Or.inl ⟨rfl, rfl⟩
  | some player => exact Or.inr ⟨rfl, _, rfl⟩

theorem sendCOD_cases (mail : Mail) :
    (realm.player mail.sender = none ∧ realm.sendCOD mail = realm) ∨
    ((realm.player mail.sender).isSome = true ∧ realm.sendCOD mail =
        realm.sendMailTo { subject := mail.subject, money := mail.cod } mail.sender
          ⟨.normal, mail.receiver⟩ { codPayment := true } 0) := by
  unfold sendCOD
  cases known : realm.player mail.sender with
  | none => exact Or.inl ⟨rfl, rfl⟩
  | some player => exact Or.inr ⟨rfl, rfl⟩

theorem saveMail_player_self (player : Player) :
    (realm.saveMail guid player).player guid = some
      (if player.mailsLoaded = true then { player with
          mails :=
            (player.mails.filter fun mail : Mail =>
              decide (mail.state ≠ MailState.deleted)).map savedMail
          mailsUpdated := false } else player) := by
  unfold saveMail
  split <;> exact setPlayer_player_self _

theorem saveMail_player_of_ne {other : Nat} (apart : other ≠ guid) (player : Player) :
    (realm.saveMail guid player).player other = realm.player other := by
  unfold saveMail
  split <;> exact setPlayer_player_of_ne apart _

theorem saveMail_nextMailId (player : Player) :
    (realm.saveMail guid player).nextMailId = realm.nextMailId := by
  unfold saveMail
  split <;> rfl

theorem saveMail_time (player : Player) : (realm.saveMail guid player).time = realm.time := by
  unfold saveMail
  split <;> rfl

theorem mem_saveRow {rows : List Mail} {row mail : Mail} (member : row ∈ rows)
    (apart : row.messageID ≠ mail.messageID) (empty : row.items = []) :
    row ∈ saveRow rows mail := by
  unfold saveRow
  split
  · exact member
  · refine List.mem_map.mpr ⟨row, List.mem_map.mpr ⟨row, member, if_neg apart⟩, ?_⟩
    rw [empty, List.filter_nil, ← empty]
  · exact List.mem_filter.mpr ⟨member, decide_eq_true apart⟩

theorem mem_foldl_saveRow {mails rows : List Mail} {row : Mail} (member : row ∈ rows)
    (apart : ∀ mail ∈ mails, row.messageID ≠ mail.messageID) (empty : row.items = []) :
    row ∈ mails.foldl saveRow rows := by
  induction mails generalizing rows with
  | nil => exact member
  | cons mail rest ih =>
    rw [List.foldl_cons]
    refine ih (mem_saveRow member (apart mail List.mem_cons_self) empty) ?_
    exact fun other inside => apart other (List.mem_cons_of_mem _ inside)

theorem sendMail_cases (player : Player) (packet : SendMail) (allowed : Bool) :
    realm.handleSendMail guid player packet allowed = realm ∨
    uint32 packet.reqmoney ≤ player.purse.money ∧ packet.receiver ≠ guid ∧
    ∃ inventory draft checked deliverDelay,
      draft.money = packet.money ∧ draft.cod = packet.cod ∧ checked.read = false ∧
      realm.handleSendMail guid player packet allowed =
        (realm.setPlayer guid { player with
            purse := player.purse.modifyMoney (-int32 packet.reqmoney)
            inventory := inventory }).sendMailTo draft packet.receiver ⟨.normal, guid⟩ checked
          deliverDelay := by
  unfold handleSendMail
  split
  · exact Or.inl rfl
  · split
    · exact Or.inl rfl
    · split
      · exact Or.inl rfl
      · rename_i apart
        split
        · exact Or.inl rfl
        · rename_i enough
          split
          · exact Or.inl rfl
          · split
            · exact Or.inl rfl
            · refine Or.inr ⟨?_, apart, _, _, _, _, ?_, ?_, ?_, rfl⟩
              · exact Purse.hasEnoughMoney_iff.mp (Bool.eq_true_of_not_eq_false enough)
              · rfl
              · rfl
              · grind

theorem return_cases (player : Player) (mailId : Nat) :
    realm.handleMailReturnToSender guid player mailId = realm ∨
    ∃ mail rows mailedItems, realm.usableMail player mailId = some mail ∧
      rows.Sublist realm.rows ∧
      ((realm.handleMailReturnToSender guid player mailId =
          ({ realm with rows := rows } : Realm).setPlayer guid { player with
              mails := removeMail player.mails mailId
              mailedItems := mailedItems }) ∨ ∃ deliverDelay,
          realm.handleMailReturnToSender guid player mailId =
            (({ realm with rows := rows } : Realm).setPlayer guid { player with
                mails := removeMail player.mails mailId
                mailedItems := mailedItems }).sendMailTo (returnDraft player mail) mail.sender
                  ⟨.normal, mail.receiver⟩ { returned := true } deliverDelay) := by
  unfold handleMailReturnToSender
  cases usable : realm.usableMail player mailId with
  | none => exact Or.inl rfl
  | some mail =>
    dsimp only
    split
    · refine Or.inr ⟨mail, realm.rows.filter fun row => decide (row.messageID ≠ mailId),
        player.mailedItems.filter fun item => decide (item ∉ mail.items), rfl,
        List.filter_sublist, ?_⟩
      rcases sendReturnToSender_cases (returnDraft player mail) player.account mail.receiver
        mail.sender with ⟨_, same⟩ | ⟨_, deliverDelay, same⟩
      · exact Or.inl same
      · exact Or.inr ⟨deliverDelay, same⟩
    · exact Or.inr ⟨mail, _, player.mailedItems, rfl, List.filter_sublist, Or.inl rfl⟩

theorem sendCOD_getPlayer {player : Player} (found : realm.getPlayer guid = some player)
    (mail : Mail) : ∃ paid, (realm.sendCOD mail).getPlayer guid = some paid := by
  rcases realm.sendCOD_cases mail with ⟨_, same⟩ | ⟨_, same⟩
  · exact ⟨player, same.symm ▸ found⟩
  · rw [same]
    by_cases here : guid = mail.sender
    · rw [← here]
      exact ⟨_, sendMailTo_getPlayer_self found⟩
    · exact ⟨player, (sendMailTo_getPlayer_of_ne here).trans found⟩

theorem takeItem_cases {player : Player} (found : realm.getPlayer guid = some player)
    (mailId itemId : Nat) (storable : Bool) :
    realm.handleMailTakeItem guid player mailId itemId storable = realm ∨
    ∃ mail taken,
      realm.usableMail player mailId = some mail ∧ uint32 mail.cod ≤ player.purse.money ∧
      itemId ∈ player.mailedItems ∧ storable = true ∧
      taken = realm.setPlayer guid (tookItem player mail mailId itemId) ∧
      (mail.cod = 0 ∧ realm.handleMailTakeItem guid player mailId itemId storable =
          taken.saveMail guid (tookItem player mail mailId itemId) ∨
        0 < mail.cod ∧ ∃ paid, (taken.sendCOD mail).getPlayer guid = some paid ∧
          realm.handleMailTakeItem guid player mailId itemId storable =
            (taken.sendCOD mail).saveMail guid paid) := by
  have online := isOnline_of_getPlayer found
  unfold handleMailTakeItem
  cases usable : realm.usableMail player mailId with
  | none => exact Or.inl rfl
  | some mail =>
    dsimp only
    split
    · exact Or.inl rfl
    · rename_i enough
      split
      · exact Or.inl rfl
      · rename_i there
        rw [not_or, Decidable.not_not] at there
        refine Or.inr ⟨mail, _, rfl, ?_, there.1, Bool.eq_true_of_not_eq_false there.2, rfl, ?_⟩
        · exact Purse.hasEnoughMoney_iff.mp (Bool.eq_true_of_not_eq_false enough)
        · have took : (realm.setPlayer guid (tookItem player mail mailId itemId)).getPlayer guid =
              some (tookItem player mail mailId itemId) :=
            setPlayer_getPlayer_self (by exact online)
          rcases Nat.eq_zero_or_pos mail.cod with free | costs
          · simp_all
          · obtain ⟨paid, paidFound⟩ := sendCOD_getPlayer took mail
            refine Or.inr ⟨costs, paid, paidFound, ?_⟩
            rw [if_pos costs, paidFound]

end Realm

end DarkCore.Mails
