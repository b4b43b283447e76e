/-
Mailed items. A request to take an item names the mail and the item, and the
code looks for the item among those of all mails. A player who names the mail
that carries the item pays what it costs.
-/

import Mathlib.Data.List.Flatten
import DarkCore.Lib.Runs
import DarkCore.Mails.Post

namespace DarkCore.Mails

open DarkCore.Lib
open DarkCore.Player (Purse uint32 int32 uint32_of_lt)

/-! ### Attached items -/

def attachments (mails : List Mail) : List Nat := mails.flatMap (·.items)

variable {mails : List Mail}

theorem attachments_perm {others : List Mail} (perm : mails.Perm others) :
    (attachments mails).Perm (attachments others) := perm.flatMap_right _

theorem attachments_cons (mail : Mail) (mails : List Mail) :
    attachments (mail :: mails) = mail.items ++ attachments mails := List.flatMap_cons

theorem attachments_getMail {id : Nat} {mail : Mail}
    (found : getMail mails id = some mail) :
    (attachments mails).Perm (mail.items ++ attachments (removeMail mails id)) := by
  rw [← attachments_cons]
  exact attachments_perm (getMail_perm found)

theorem attachments_changeMail {id : Nat} {mail : Mail}
    (found : getMail mails id = some mail) (change : Mail → Mail) :
    (attachments (changeMail change id mails)).Perm
      ((change mail).items ++ attachments (removeMail mails id)) := by
  rw [← attachments_cons]
  exact attachments_perm (changeMail_perm found change)

theorem attachments_changeMail_same {id : Nat} {mail : Mail}
    (found : getMail mails id = some mail) {change : Mail → Mail}
    (same : (change mail).items = mail.items) :
    (attachments (changeMail change id mails)).Perm (attachments mails) := by
  have changed := attachments_changeMail found change
  rw [same] at changed
  exact changed.trans (attachments_getMail found).symm

theorem attachments_saved (mails : List Mail) (keep : Mail → Bool) :
    (attachments ((mails.filter keep).map Realm.savedMail)).Sublist (attachments mails) := by
  have same : attachments ((mails.filter keep).map Realm.savedMail) =
      attachments (mails.filter keep) := by
    unfold attachments
    rw [List.flatMap_map]
    congr 1
    funext mail
    exact savedMail_items mail
  rw [same]
  exact List.Sublist.flatMap List.filter_sublist _

/-! ### What a run keeps -/

structure Separate (player : Player) (nextMailId : Nat) : Prop where
  fresh : ∀ mail ∈ player.mails, mail.messageID < nextMailId
  apart : (player.inventory ++ attachments player.mails).Nodup

variable {guid : Nat} {realm : Realm} {player : Player}

theorem Separate.save {nextMailId : Nat} (separate : Separate player nextMailId) :
    Separate
      (if player.mailsLoaded = true then { player with
          mails :=
            (player.mails.filter fun mail : Mail =>
              decide (mail.state ≠ MailState.deleted)).map Realm.savedMail
          mailsUpdated := false } else player) nextMailId := by
  split
  · constructor
    · intro mail member
      obtain ⟨saved, inside, same⟩ := List.mem_map.mp member
      rw [← same, savedMail_messageID]
      exact separate.fresh saved (List.mem_of_mem_filter inside)
    · exact separate.apart.sublist ((attachments_saved _ _).append_left _)
  · exact separate

theorem Separate.receive {nextMailId time : Nat} {mail : Mail} (separate : Separate player nextMailId)
    (newest : mail.messageID = nextMailId)
    (disjoint : (player.inventory ++ (mail.items ++ attachments player.mails)).Nodup) :
    Separate (player.receiveMail time mail) (nextMailId + 1) := by
  rw [Player.receiveMail_eq, Player.addNewMailDeliverTime_eq]
  constructor
  · dsimp only
    intro other member
    split at member
    · rcases List.mem_cons.mp member with here | before
      · simp [here, newest]
      · exact Nat.lt_succ_of_lt (separate.fresh other before)
    · exact Nat.lt_succ_of_lt (separate.fresh other member)
  · grind [attachments_cons]

theorem Separate.later {nextMailId : Nat} (separate : Separate player nextMailId) :
    Separate player (nextMailId + 1) :=
  ⟨fun mail member => Nat.lt_succ_of_lt (separate.fresh mail member), separate.apart⟩

def KeptApart (guid : Nat) (realm : Realm) : Prop :=
  ∀ player, realm.getPlayer guid = some player → Separate player realm.nextMailId

def Keeps (guid : Nat) (purse : Purse) (inventory : List Nat) (realm : Realm) : Prop :=
  ∃ player, realm.getPlayer guid = some player ∧ player.purse = purse ∧
    player.inventory = inventory ∧ Separate player realm.nextMailId

theorem Keeps.keptApart {purse : Purse} {inventory : List Nat}
    (keeps : Keeps guid purse inventory realm) : KeptApart guid realm := by
  obtain ⟨player, found, _, _, separate⟩ := keeps
  intro other same
  rw [found] at same
  injection same with same
  rw [← same]
  exact separate

theorem keeps_sendMailTo {draft : MailDraft} {receiver : Nat} {sender : MailSender}
    {checked : MailCheckMask} {deliverDelay : Nat} (found : realm.getPlayer guid = some player)
    (separate : Separate player realm.nextMailId)
    (disjoint : (player.inventory ++ (draft.items ++ attachments player.mails)).Nodup) :
    ∃ after,
      (realm.sendMailTo draft receiver sender checked deliverDelay).getPlayer guid = some after ∧
      after.purse = player.purse ∧ after.inventory = player.inventory ∧
      Separate after (realm.sendMailTo draft receiver sender checked deliverDelay).nextMailId := by
  rw [Realm.sendMailTo_nextMailId]
  by_cases here : guid = receiver
  · subst here
    refine ⟨_, Realm.sendMailTo_getPlayer_self found, ?_, ?_, separate.receive rfl disjoint⟩
    · rw [Player.receiveMail_eq, Player.addNewMailDeliverTime_eq]
    · rw [Player.receiveMail_eq, Player.addNewMailDeliverTime_eq]
  · exact ⟨player, (Realm.sendMailTo_getPlayer_of_ne here).trans found, rfl, rfl, separate.later⟩

/-! ### Mailboxes -/

namespace Realm

theorem mem_mailbox_sendMailTo {draft : MailDraft} {receiver : Nat} {sender : MailSender}
    {checked : MailCheckMask} {deliverDelay : Nat} (smallMoney : draft.money < 2 ^ 32)
    (smallCod : draft.cod < 2 ^ 32) :
    realm.newMail draft receiver sender checked deliverDelay ∈
      (realm.sendMailTo draft receiver sender checked deliverDelay).mailbox receiver := by
  have row : realm.newMail draft receiver sender checked deliverDelay ∈
      (realm.sendMailTo draft receiver sender checked deliverDelay).rows.filter
        fun row => decide (row.receiver = receiver) := by
    refine List.mem_filter.mpr ⟨?_, decide_eq_true rfl⟩
    rw [sendMailTo_rows]
    refine List.mem_append_right _ (List.mem_singleton.mpr ?_)
    unfold newMail
    rw [uint32_of_lt smallMoney, uint32_of_lt smallCod]
  unfold mailbox
  cases found : realm.getPlayer receiver with
  | none =>
    rw [sendMailTo_getPlayer_none found]
    exact row
  | some player =>
    rw [sendMailTo_getPlayer_self found]
    dsimp only
    split
    · rename_i isLoaded
      rw [Player.receiveMail_eq] at isLoaded ⊢
      rw [Player.addNewMailDeliverTime_eq] at isLoaded
      rw [if_pos isLoaded]
      exact List.mem_cons_self
    · exact row

theorem mem_mailbox_saveMail {other : Nat} {mail : Mail} (found : realm.getPlayer guid = some player)
    (member : mail ∈ realm.mailbox other) (unchanged : mail.state = .unchanged)
    (empty : mail.items = [])
    (newer : other ≠ guid → ∀ older ∈ player.mails, mail.messageID ≠ older.messageID) :
    mail ∈ (realm.saveMail guid player).mailbox other := by
  have online := isOnline_of_getPlayer found
  by_cases here : other = guid
  · subst here
    unfold mailbox at member ⊢
    rw [found] at member
    dsimp only at member
    by_cases isLoaded : player.mailsLoaded = true
    · rw [if_pos isLoaded] at member
      unfold saveMail
      rw [if_pos isLoaded, setPlayer_getPlayer_self (by exact online)]
      dsimp only
      rw [if_pos isLoaded]
      refine List.mem_map.mpr ⟨mail, List.mem_filter.mpr ⟨member, ?_⟩, ?_⟩
      · simp_all
      · simp [savedMail, unchanged]
    · rw [if_neg isLoaded] at member
      unfold saveMail
      rw [if_neg isLoaded, setPlayer_getPlayer_self online]
      dsimp only
      rw [if_neg isLoaded]
      exact member
  · have stays : mail ∈ realm.rows.filter (fun row => decide (row.receiver = other)) →
        mail ∈ (realm.saveMail guid player).rows.filter
          (fun row => decide (row.receiver = other)) := by
      intro before
      obtain ⟨inside, mine⟩ := List.mem_filter.mp before
      refine List.mem_filter.mpr ⟨?_, mine⟩
      unfold saveMail
      split
      · exact mem_foldl_saveRow inside (newer here) empty
      · exact inside
    have same : (realm.saveMail guid player).getPlayer other = realm.getPlayer other := by
      unfold getPlayer
      rw [saveMail_player_of_ne here]
    unfold mailbox at member ⊢
    rw [same]
    cases absent : realm.getPlayer other with
    | none =>
      simp_all
    | some holder =>
      grind

end Realm

/-! ### The requests -/

def ask (guid : Nat) (realm : Realm) (request : Request) : Realm :=
  realm.next (.request guid request)

theorem ask_online (found : realm.getPlayer guid = some player) (request : Request) :
    ask guid realm request = realm.handle guid player request := by
  unfold ask Realm.next
  dsimp only
  rw [found]

theorem ask_offline (absent : realm.getPlayer guid = none) (request : Request) :
    ask guid realm request = realm := by
  unfold ask Realm.next
  dsimp only
  rw [absent]

theorem keeps_saveMail (online : player.isOnline = true)
    (separate : Separate player realm.nextMailId) :
    Keeps guid player.purse player.inventory (realm.saveMail guid player) := by
  refine ⟨_, Realm.getPlayer_eq_some.mpr ⟨Realm.saveMail_player_self player, ?_⟩, ?_, ?_, ?_⟩
  · grind
  · grind
  · grind
  · rw [Realm.saveMail_nextMailId]
    exact separate.save

theorem keeps_setPlayer (online : player.isOnline = true)
    (separate : Separate player realm.nextMailId) :
    Keeps guid player.purse player.inventory (realm.setPlayer guid player) :=
  ⟨player, Realm.setPlayer_getPlayer_self online, rfl, rfl, separate⟩

variable {mailId : Nat} {mail : Mail}

theorem Separate.change {nextMailId : Nat} (change : Mail → Mail)
    (separate : Separate player nextMailId) (found : getMail player.mails mailId = some mail)
    (sameId : (change mail).messageID = mail.messageID)
    (sameItems : (change mail).items = mail.items) :
    Separate { player with mails := changeMail change mailId player.mails } nextMailId := by
  constructor
  · intro other member
    rcases List.mem_cons.mp ((changeMail_perm found change).mem_iff.mp member) with here | before
    · rw [here, sameId]
      exact separate.fresh mail (getMail_mem found)
    · exact separate.fresh other (mem_removeMail before)
  · exact ((attachments_changeMail_same found sameItems).append_left _).nodup_iff.mpr separate.apart

theorem Separate.remove {nextMailId : Nat}
    (separate : Separate player nextMailId) (found : getMail player.mails mailId = some mail) :
    Separate { player with mails := removeMail player.mails mailId } nextMailId := by
  constructor
  · intro other member
    exact separate.fresh other (mem_removeMail member)
  · have all := ((attachments_getMail found).append_left player.inventory).nodup_iff.mp separate.apart
    exact all.sublist ((List.sublist_append_right _ _).append_left _)

theorem keeps_delete (online : player.isOnline = true)
    (separate : Separate player realm.nextMailId) (mailId : Nat) :
    Keeps guid player.purse player.inventory (realm.handleMailDelete guid player mailId) := by
  have updated : Separate { player with mailsUpdated := true } realm.nextMailId :=
    ⟨separate.fresh, separate.apart⟩
  unfold Realm.handleMailDelete
  dsimp only
  cases found : getMail player.mails mailId with
  | none => exact keeps_setPlayer online updated
  | some mail =>
    dsimp only
    split
    · exact keeps_setPlayer online updated
    · refine keeps_setPlayer online ?_
      exact updated.change (fun mail => { mail with state := .deleted }) found rfl rfl

theorem keeps_takeMoney (found : realm.getPlayer guid = some player)
    (separate : Separate player realm.nextMailId) (mailId : Nat) :
    ∃ purse, Keeps guid purse player.inventory (realm.handleMailTakeMoney guid player mailId) := by
  unfold Realm.handleMailTakeMoney
  cases usable : realm.usableMail player mailId with
  | none => exact ⟨player.purse, player, found, rfl, rfl, separate⟩
  | some mail =>
    have exist := (Realm.usableMail_eq_some.mp usable).1
    have changed :=
      separate.change (fun mail => { mail with money := 0, state := .changed }) exist rfl rfl
    dsimp only
    generalize player.purse.modifyMoney (int32 mail.money) = purse
    have online := Realm.isOnline_of_getPlayer found
    exact ⟨purse, keeps_saveMail online ⟨changed.fresh, changed.apart⟩⟩

theorem keeps_return (found : realm.getPlayer guid = some player)
    (separate : Separate player realm.nextMailId) (mailId : Nat) :
    Keeps guid player.purse player.inventory
      (realm.handleMailReturnToSender guid player mailId) := by
  have online := Realm.isOnline_of_getPlayer found
  rcases realm.return_cases player mailId with
    same | ⟨mail, rows, mailedItems, usable, _, same | ⟨deliverDelay, same⟩⟩
  · rw [same]
    exact ⟨player, found, rfl, rfl, separate⟩
  · have left := separate.remove (Realm.usableMail_eq_some.mp usable).1
    rw [same]
    exact ⟨_, Realm.setPlayer_getPlayer_self (by exact online), rfl, rfl, left.fresh, left.apart⟩
  · have exist := (Realm.usableMail_eq_some.mp usable).1
    have left := separate.remove exist
    rw [same]
    generalize placed : ({ player with
      mails := removeMail player.mails mailId
      mailedItems := mailedItems } : Player) = leftPlayer
    have samePurse : leftPlayer.purse = player.purse := by rw [← placed]
    have sameInventory : leftPlayer.inventory = player.inventory := by rw [← placed]
    have sameMails : leftPlayer.mails = removeMail player.mails mailId := by rw [← placed]
    have leftOnline : leftPlayer.isOnline = true := by rw [← placed]; exact online
    rw [← samePurse, ← sameInventory]
    refine keeps_sendMailTo (Realm.setPlayer_getPlayer_self leftOnline) ⟨?_, ?_⟩ ?_
    · rw [sameMails]
      exact left.fresh
    · rw [sameMails, sameInventory]
      exact left.apart
    · rw [sameMails, sameInventory]
      have all := ((attachments_getMail exist).append_left player.inventory).nodup_iff.mp
        separate.apart
      obtain ⟨ordered, perm, part⟩ : (Realm.returnDraft player mail).items.Subperm mail.items := by
        refine List.subperm_of_subset (itemMap_nodup _) fun item member => ?_
        exact List.mem_of_mem_filter (mem_itemMap.mp member)
      refine ((perm.append_right _).append_left _).nodup_iff.mp (all.sublist ?_)
      exact (part.append_right _).append_left _

/-! ### Taking an item -/

theorem tookItem_separate {nextMailId itemId : Nat}
    (separate : Separate player nextMailId) (found : getMail player.mails mailId = some mail)
    (carries : itemId ∈ mail.items) :
    Separate (Realm.tookItem player mail mailId itemId) nextMailId := by
  unfold Realm.tookItem
  constructor
  · intro other member
    rcases List.mem_cons.mp ((changeMail_perm found _).mem_iff.mp member) with here | before
    · rw [here]
      exact separate.fresh mail (getMail_mem found)
    · exact separate.fresh other (mem_removeMail before)
  · dsimp only
    have before := ((attachments_getMail found).append_left player.inventory).nodup_iff.mp
      separate.apart
    have all : (player.inventory ++ (mail.items ++ attachments (removeMail player.mails mailId))).Perm
        (player.inventory ++ [itemId] ++
          (mail.items.erase itemId ++ attachments (removeMail player.mails mailId))) := by
      grind
    refine (List.Perm.append_left _ ?_).nodup_iff.mpr (all.nodup_iff.mp before)
    exact attachments_changeMail found _

theorem sendCOD_keeps {taken : Realm} {took : Player} (mail : Mail)
    (there : taken.getPlayer guid = some took) (separate : Separate took taken.nextMailId) :
    Keeps guid took.purse took.inventory (taken.sendCOD mail) := by
  rcases taken.sendCOD_cases mail with ⟨_, same⟩ | ⟨_, same⟩
  · rw [same]
    exact ⟨took, there, rfl, rfl, separate⟩
  · rw [same]
    exact keeps_sendMailTo there separate separate.apart

theorem sendCOD_mails {taken : Realm} {took paid : Player}
    (there : taken.getPlayer guid = some took) (apart : mail.sender ≠ guid)
    (paidFound : (taken.sendCOD mail).getPlayer guid = some paid) : paid = took := by
  have same : (taken.sendCOD mail).getPlayer guid = taken.getPlayer guid := by
    rcases taken.sendCOD_cases mail with ⟨_, same⟩ | ⟨_, same⟩
    · rw [same]
    · rw [same]
      exact Realm.sendMailTo_getPlayer_of_ne apart.symm
  rw [same, there] at paidFound
  exact (Option.some.inj paidFound).symm

/-- The condition: if the request is granted, the mail that is named carries the item; and if it
costs anything, that is within 31 bits and there is somebody to get it. -/
def Fair (guid : Nat) (realm : Realm) : Request → Prop
  | .takeItem mailId itemId storable =>
    ∀ player mail, realm.getPlayer guid = some player →
      realm.usableMail player mailId = some mail → uint32 mail.cod ≤ player.purse.money →
      itemId ∈ player.mailedItems → storable = true →
      itemId ∈ mail.items ∧
        (0 < mail.cod → mail.cod < 2 ^ 31 ∧ (realm.player mail.sender).isSome = true)
  | _ => True

def Request.ofMailbox : Request → Bool
  | .takeItem .. | .takeMoney _ | .returnToSender _ | .delete _ => true
  | _ => false

def Payment (realm after : Realm) (mail : Mail) : Prop :=
  ∃ payment ∈ after.mailbox mail.sender,
    payment.messageID = realm.nextMailId ∧ payment.receiver = mail.sender ∧
      payment.money = mail.cod ∧ payment.checked.codPayment = true

/-- An item comes into the inventory only out of the mail that was named and carried it, for
what it cost; and it is then attached to no mail. -/
def TakenRightly (guid : Nat) (realm : Realm) (request : Request) : Prop :=
  ∀ before after, realm.getPlayer guid = some before →
    (ask guid realm request).getPlayer guid = some after →
    ∀ item ∈ after.inventory, item ∉ before.inventory →
      item ∉ attachments after.mails ∧
      ∃ mail ∈ before.mails, item ∈ mail.items ∧
        (∃ storable, request = .takeItem mail.messageID item storable) ∧
        (0 < mail.cod → after.purse.money + mail.cod = before.purse.money ∧
          Payment realm (ask guid realm request) mail)

section

variable (found : realm.getPlayer guid = some player) (separate : Separate player realm.nextMailId)
include found separate

theorem took_payment {itemId : Nat} {taken : Realm}
    (usable : realm.usableMail player mailId = some mail)
    (isTaken : taken = realm.setPlayer guid (Realm.tookItem player mail mailId itemId))
    (small : mail.cod < 2 ^ 31) (known : (realm.player mail.sender).isSome = true) {paid : Player}
    (paidFound : (taken.sendCOD mail).getPlayer guid = some paid) :
    Payment realm ((taken.sendCOD mail).saveMail guid paid) mail := by
  have sameId : taken.nextMailId = realm.nextMailId := by rw [isTaken]; rfl
  have exist := (Realm.usableMail_eq_some.mp usable).1
  have stillKnown : taken.player mail.sender ≠ none := by
    rw [isTaken]
    by_cases here : mail.sender = guid
    · simp [here, Realm.setPlayer_player_self]
    · rw [Realm.setPlayer_player_of_ne here]
      exact Option.ne_none_iff_isSome.mpr known
  rcases taken.sendCOD_cases mail with ⟨unknown, _⟩ | ⟨_, same⟩
  · exact absurd unknown stillKnown
  · rw [same] at paidFound ⊢
    refine ⟨_, Realm.mem_mailbox_saveMail paidFound (Realm.mem_mailbox_sendMailTo ?_ ?_) rfl rfl ?_,
      sameId, rfl, rfl, rfl⟩
    · exact Nat.lt_trans small (by decide)
    · exact Nat.two_pow_pos 32
    · intro apart older member
      have isPaid : paid = Realm.tookItem player mail mailId itemId := by
        have online := Realm.isOnline_of_getPlayer found
        refine sendCOD_mails ?_ apart (same.symm ▸ paidFound)
        rw [isTaken]
        exact Realm.setPlayer_getPlayer_self (by exact online)
      rw [isPaid] at member
      have earlier : older.messageID < realm.nextMailId := by
        rcases List.mem_cons.mp ((changeMail_perm exist _).mem_iff.mp member) with here | before
        · rw [here]
          exact separate.fresh mail (getMail_mem exist)
        · exact separate.fresh older (mem_removeMail before)
      change taken.nextMailId ≠ older.messageID
      omega

theorem takeItem_fair
    {itemId : Nat} {storable : Bool}
    (fair : Fair guid realm (.takeItem mailId itemId storable)) :
    realm.handleMailTakeItem guid player mailId itemId storable = realm ∨
    ∃ mail ∈ player.mails, mail.messageID = mailId ∧ itemId ∈ mail.items ∧
      ∃ purse, Keeps guid purse (player.inventory ++ [itemId])
        (realm.handleMailTakeItem guid player mailId itemId storable) ∧
      (0 < mail.cod → purse.money + mail.cod = player.purse.money ∧
        Payment realm (realm.handleMailTakeItem guid player mailId itemId storable) mail) := by
  have online := Realm.isOnline_of_getPlayer found
  rcases Realm.takeItem_cases found mailId itemId storable with same |
    ⟨mail, taken, usable, enough, mailed, canStore, isTaken, result⟩
  · exact Or.inl same
  · have exist := (Realm.usableMail_eq_some.mp usable).1
    obtain ⟨carries, costs⟩ := fair player mail found usable enough mailed canStore
    have there : taken.getPlayer guid = some (Realm.tookItem player mail mailId itemId) := by
      rw [isTaken]
      exact Realm.setPlayer_getPlayer_self (by exact online)
    have here : Separate (Realm.tookItem player mail mailId itemId) taken.nextMailId := by
      rw [isTaken]
      exact tookItem_separate separate exist carries
    refine Or.inr ⟨mail, getMail_mem exist, getMail_messageID exist, carries,
      (Realm.tookItem player mail mailId itemId).purse, ?_⟩
    rcases result with ⟨free, same⟩ | ⟨positive, payer, payerFound, same⟩
    · rw [same]
      refine ⟨keeps_saveMail (by exact online) here, fun positive => ?_⟩
      exact absurd free positive.ne'
    · obtain ⟨small, known⟩ := costs positive
      obtain ⟨paid, paidFound, samePurse, sameInventory, paidSeparate⟩ :=
        sendCOD_keeps mail there here
      have isPaid : payer = paid := Option.some.inj (payerFound.symm.trans paidFound)
      rw [same, isPaid]
      refine ⟨?_, fun _ => ⟨?_, ?_⟩⟩
      · have saved : Keeps guid paid.purse paid.inventory
            ((taken.sendCOD mail).saveMail guid paid) :=
          keeps_saveMail (Realm.isOnline_of_getPlayer paidFound) paidSeparate
        rw [samePurse, sameInventory] at saved
        exact saved
      · unfold Realm.tookItem
        rw [uint32_of_lt (by omega)] at enough
        rw [if_pos positive, Purse.modifyMoney_neg positive small enough]
        exact Nat.sub_add_cancel enough
      · exact took_payment found separate usable isTaken small known paidFound

theorem ofMailbox_keeps
    {request : Request}
    (ofMailbox : request.ofMailbox = true)
    (other : ∀ mailId itemId storable, request ≠ .takeItem mailId itemId storable) :
    ∃ purse, Keeps guid purse player.inventory (realm.handle guid player request) := by
  have online := Realm.isOnline_of_getPlayer found
  cases request with
  | delete mailId => exact ⟨_, keeps_delete online separate mailId⟩
  | takeMoney mailId => exact keeps_takeMoney found separate mailId
  | returnToSender mailId => exact ⟨_, keeps_return found separate mailId⟩
  | takeItem mailId itemId storable => exact absurd rfl (other mailId itemId storable)
  | sendMail _ _ | createTextItem _ _ => cases ofMailbox
  | markAsRead _ => cases ofMailbox
  | getMailList | queryNextMailTime => cases ofMailbox

end

theorem keptApart_ask {request : Request} (kept : KeptApart guid realm)
    (ofMailbox : request.ofMailbox = true) (fair : Fair guid realm request) :
    KeptApart guid (ask guid realm request) := by
  cases found : realm.getPlayer guid with
  | none =>
    rw [ask_offline found]
    exact kept
  | some player =>
    have separate := kept player found
    rw [ask_online found]
    by_cases take : ∃ mailId itemId storable, request = .takeItem mailId itemId storable
    · obtain ⟨mailId, itemId, storable, same⟩ := take
      subst same
      rcases takeItem_fair found separate fair with nothing | ⟨_, _, _, _, _, keeps, _⟩
      · simp_all [Realm.handle]
      · exact keeps.keptApart
    · obtain ⟨_, keeps⟩ := ofMailbox_keeps found separate ofMailbox
        fun mailId itemId storable same => take ⟨mailId, itemId, storable, same⟩
      exact keeps.keptApart

theorem takenRightly_ask {request : Request} (kept : KeptApart guid realm)
    (ofMailbox : request.ofMailbox = true) (fair : Fair guid realm request) :
    TakenRightly guid realm request := by
  intro player after found afterFound item inside outside
  have separate := kept player found
  have keptAfter := keptApart_ask kept ofMailbox fair after afterFound
  refine ⟨fun attached => ?_, ?_⟩
  · exact List.disjoint_of_nodup_append keptAfter.apart inside attached
  · rw [ask_online found] at afterFound ⊢
    by_cases take : ∃ mailId itemId storable, request = .takeItem mailId itemId storable
    · obtain ⟨mailId, itemId, storable, same⟩ := take
      subst same
      rcases takeItem_fair found separate fair with
        nothing | ⟨mail, member, same, carries, purse, keeps, pays⟩
      · simp_all [Realm.handle]
      · obtain ⟨last, lastFound, samePurse, sameInventory, _⟩ := keeps
        have isLast : last = after := Option.some.inj (lastFound.symm.trans afterFound)
        rw [← isLast, sameInventory] at inside
        rw [← isLast, samePurse]
        have isItem : item = itemId := by
          rcases List.mem_append.mp inside with before | new
          · exact absurd before outside
          · exact List.mem_singleton.mp new
        rw [isItem]
        exact ⟨mail, member, carries, ⟨storable, by rw [same]⟩, pays⟩
    · obtain ⟨_, last, lastFound, _, sameInventory, _⟩ := ofMailbox_keeps found separate ofMailbox
        fun mailId itemId storable same => take ⟨mailId, itemId, storable, same⟩
      have isLast : last = after := Option.some.inj (lastFound.symm.trans afterFound)
      rw [← isLast, sameInventory] at inside
      exact absurd inside outside

/-- In a run of fair requests items are taken rightly, and stay apart. -/
theorem along_takenRightly {requests : List Request} (start : KeptApart guid realm)
    (ofMailbox : ∀ request ∈ requests, request.ofMailbox = true)
    (fair : Along (ask guid) (Fair guid) realm requests) :
    Along (ask guid) (TakenRightly guid) realm requests ∧
      Always (ask guid) (KeptApart guid) realm requests := by
  have steps := fair.and_forall ofMailbox
  constructor
  · exact along_of_step (fun _ _ kept both => keptApart_ask kept both.2 both.1)
      (fun _ _ kept both => takenRightly_ask kept both.2 both.1) start steps
  · exact always_of_step (fun _ _ kept both => keptApart_ask kept both.2 both.1) start steps

def collector : Player where
  account := 1
  purse := ⟨100, by decide⟩
  inventory := []
  isOnline := true
  mailsLoaded := true
  mailsUpdated := false
  mails :=
    [{ messageID := 10, messageType := .normal, sender := 2, receiver := 1, deliverTime := 0 },
      { messageID := 11, messageType := .normal, sender := 2, receiver := 1, deliverTime := 0,
        items := [500], cod := 50 }]
  mailedItems := [500]
  unReadMails := 2
  nextMailDelivereTime := 0

def stranger : Player where
  account := 2
  purse := ⟨0, by decide⟩
  inventory := []
  isOnline := false
  mailsLoaded := false
  mailsUpdated := false
  mails := []
  mailedItems := []
  unReadMails := 0
  nextMailDelivereTime := 0

def twoPlayers (first : Player) (rows : List Mail) : Realm where
  player guid := if guid = 1 then some first else if guid = 2 then some stranger else none
  rows := rows
  nextMailId := 12
  nextItem := 600
  time := 1000
  mailDeliveryDelay := 3600

def collection : Realm := twoPlayers collector collector.mails

theorem collection_keptApart : KeptApart 1 collection := by
  intro player found
  have isCollector : collector = player := Option.some.inj found
  rw [← isCollector]
  constructor <;> decide

theorem along_takenRightly_paid :
    Along (ask 1) (TakenRightly 1) collection [.takeItem 11 500 true] ∧
      Always (ask 1) (KeptApart 1) collection [.takeItem 11 500 true] := by
  refine along_takenRightly collection_keptApart (by decide) ⟨?_, trivial⟩
  intro player mail found usable _ _ _
  have isCollector : collector = player := Option.some.inj found
  rw [← isCollector] at usable
  have isMail : collector.mails[1] = mail := Option.some.inj usable
  rw [← isMail]
  decide

/-- The item of the second mail is taken through the first one, for nothing. -/
theorem not_always_takenRightly :
    ¬ ∀ (guid : Nat) (realm : Realm) (requests : List Request), KeptApart guid realm →
      (∀ request ∈ requests, request.ofMailbox = true) →
      Along (ask guid) (TakenRightly guid) realm requests ∧
        Always (ask guid) (KeptApart guid) realm requests := by
  intro all
  obtain ⟨⟨right, _⟩, _⟩ :=
    all 1 collection [.takeItem 10 500 true] collection_keptApart (by decide)
  have result : ((ask 1 collection (.takeItem 10 500 true)).getPlayer 1).map (·.inventory) =
      some [500] := by decide +kernel
  obtain ⟨after, found, inventory⟩ := Option.map_eq_some_iff.mp result
  obtain ⟨_, mail, member, carries, ⟨_, same⟩, _⟩ :=
    right collector after rfl found 500 (by rw [inventory]; decide) (by decide)
  injection same with sameId
  have noneCarries : ∀ mail ∈ collector.mails, 10 = mail.messageID → 500 ∉ mail.items := by decide
  exact noneCarries mail member sameId carries

end DarkCore.Mails
