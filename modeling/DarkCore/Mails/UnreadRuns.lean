/-
Runs of mail operations, watched from the mailbox of one player: the mails that
were deleted in it stay deleted and are listed no more, and from the first time
its unread mails are counted the counter is their number. Other players, the
server and the clock act in between.
-/

import DarkCore.Mails.Takes
import DarkCore.Mails.Unread

namespace DarkCore.Mails

open DarkCore.Lib
open DarkCore.Player (Purse uint32 int32)

/-! ### Rows of the database -/

structure RowsFine (realm : Realm) : Prop where
  below : ∀ row ∈ realm.rows, row.messageID < realm.nextMailId
  distinct : (ids realm.rows).Nodup

variable {realm : Realm} {guid : Nat} {player : Player}

theorem ids_saveRow (rows : List Mail) (mail : Mail) :
    (ids (Realm.saveRow rows mail)).Sublist (ids rows) := by
  unfold Realm.saveRow
  split
  · exact List.Sublist.refl _
  · have same : ∀ row ∈ rows, (if row.messageID = mail.messageID then { row with
            deliverTime := mail.deliverTime
            money := uint32 mail.money
            cod := uint32 mail.cod
            checked := mail.checked } else row).messageID = row.messageID := by
      grind
    unfold ids
    rw [List.map_map, List.map_map, ← List.map_congr_left same]
    exact List.Sublist.refl _
  · exact List.filter_sublist.map _

theorem ids_foldl_saveRow (mails rows : List Mail) :
    (ids (mails.foldl Realm.saveRow rows)).Sublist (ids rows) := by
  induction mails generalizing rows with
  | nil => exact List.Sublist.refl _
  | cons mail rest ih => exact (ih _).trans (ids_saveRow rows mail)

theorem RowsFine.of_sublist {after : Realm} (fine : RowsFine realm)
    (part : (ids after.rows).Sublist (ids realm.rows)) (more : realm.nextMailId ≤ after.nextMailId) :
    RowsFine after where
  below row member := by
    have inside : row.messageID ∈ ids realm.rows :=
      part.subset (mem_ids.mpr ⟨row, member, rfl⟩)
    obtain ⟨other, otherMember, same⟩ := mem_ids.mp inside
    rw [← same]
    exact Nat.lt_of_lt_of_le (fine.below other otherMember) more
  distinct := fine.distinct.sublist part

theorem RowsFine.saveMail (fine : RowsFine realm) (guid : Nat) (player : Player) :
    RowsFine (realm.saveMail guid player) := by
  unfold Realm.saveMail
  split
  · exact fine.of_sublist (ids_foldl_saveRow _ _) (Nat.le_refl _)
  · exact fine.of_sublist (List.Sublist.refl _) (Nat.le_refl _)

theorem RowsFine.sendMailTo (fine : RowsFine realm) (draft : MailDraft) (receiver : Nat)
    (sender : MailSender) (checked : MailCheckMask) (deliverDelay : Nat) :
    RowsFine (realm.sendMailTo draft receiver sender checked deliverDelay) where
  below row member := by
    rw [Realm.sendMailTo_nextMailId]
    rw [Realm.sendMailTo_rows] at member
    rcases List.mem_append.mp member with before | new
    · exact Nat.lt_succ_of_lt (fine.below row before)
    · rw [List.mem_singleton.mp new]
      exact Nat.lt_succ_self _
  distinct := by
    rw [Realm.sendMailTo_rows]
    unfold Realm.addRow ids
    rw [List.map_append]
    refine List.nodup_append'.mpr ⟨fine.distinct, List.nodup_singleton _, ?_⟩
    intro id inside new
    obtain ⟨row, member, same⟩ := mem_ids.mp inside
    have earlier := fine.below row member
    rw [List.mem_singleton.mp new] at same
    exact absurd same (Nat.ne_of_lt earlier)

/-! ### The watched mailbox -/

structure Watched (guid : Nat) (gone : List Nat) (counted : Bool) (realm : Realm) : Prop where
  rows : RowsFine realm
  tidy : ∀ player, realm.getPlayer guid = some player →
    Tidy player.mailsLoaded player.mails player.unReadMails realm.nextMailId realm.time gone counted

variable {gone : List Nat} {counted : Bool}

namespace Watched

theorem setPlayer_self (rows : RowsFine realm)
    (tidy : Tidy player.mailsLoaded player.mails player.unReadMails realm.nextMailId realm.time gone
      counted) : Watched guid gone counted (realm.setPlayer guid player) where
  rows := rows.of_sublist (List.Sublist.refl _) (Nat.le_refl _)
  tidy other found := by
    have same := Realm.player_of_getPlayer found
    rw [Realm.setPlayer_player_self] at same
    injection same with same
    rw [← same]
    exact tidy

theorem setPlayer_of_ne (watched : Watched guid gone counted realm) {other : Nat}
    (apart : other ≠ guid) (player : Player) :
    Watched guid gone counted (realm.setPlayer other player) where
  rows := watched.rows.of_sublist (List.Sublist.refl _) (Nat.le_refl _)
  tidy holder found := by
    rw [Realm.setPlayer_getPlayer_of_ne apart.symm] at found
    exact watched.tidy holder found

theorem saveMail_self (rows : RowsFine realm)
    (tidy : Tidy player.mailsLoaded player.mails player.unReadMails realm.nextMailId realm.time gone
      counted) : Watched guid gone counted (realm.saveMail guid player) where
  rows := rows.saveMail guid player
  tidy other found := by
    have same := Realm.player_of_getPlayer found
    rw [Realm.saveMail_player_self] at same
    injection same with same
    rw [← same, Realm.saveMail_nextMailId, Realm.saveMail_time]
    cases isLoaded : player.mailsLoaded with
    | true =>
      rw [isLoaded] at tidy
      rw [if_pos rfl]
      exact isLoaded ▸ tidy.save
    | false =>
      simp_all

theorem saveMail_of_ne (watched : Watched guid gone counted realm) {other : Nat}
    (apart : other ≠ guid) (player : Player) :
    Watched guid gone counted (realm.saveMail other player) where
  rows := watched.rows.saveMail other player
  tidy holder found := by
    have same : (realm.saveMail other player).getPlayer guid = realm.getPlayer guid := by
      unfold Realm.getPlayer
      rw [Realm.saveMail_player_of_ne apart.symm]
    rw [same] at found
    rw [Realm.saveMail_nextMailId, Realm.saveMail_time]
    exact watched.tidy holder found

end Watched

theorem addNewMailDeliverTime_unReadMails (time deliverTime : Nat) (player : Player) :
    (player.addNewMailDeliverTime time deliverTime).unReadMails =
      if deliverTime ≤ time then (player.unReadMails + 1) % 2 ^ 8 else player.unReadMails := by
  unfold Player.addNewMailDeliverTime
  split
  · rfl
  · grind

theorem Tidy.receive {nextMailId time : Nat} {mail : Mail}
    (tidy : Tidy player.mailsLoaded player.mails player.unReadMails nextMailId time gone counted)
    (room : player.unReadMails < 255) (newest : mail.messageID = nextMailId)
    (unseen : mail.checked.read = false) (undeleted : mail.state = .unchanged) :
    Tidy (player.receiveMail time mail).mailsLoaded (player.receiveMail time mail).mails
      (player.receiveMail time mail).unReadMails (nextMailId + 1) time gone counted := by
  have counter : (player.addNewMailDeliverTime time mail.deliverTime).unReadMails =
      player.unReadMails + if mail.delivered time = true then 1 else 0 := by
    grind [Mail.delivered, addNewMailDeliverTime_unReadMails]
  rw [Player.receiveMail_eq, Player.addNewMailDeliverTime_eq]
  rw [counter]
  cases isLoaded : player.mailsLoaded with
  | true =>
    rw [isLoaded] at tidy
    rw [if_pos rfl]
    exact tidy.arrive newest unseen undeleted
  | false =>
    rw [isLoaded] at tidy
    rw [if_neg Bool.false_ne_true]
    obtain ⟨_, _, notYet⟩ := tidy.empty rfl
    refine { tidy.later (Nat.le_succ _) with count := fun isCounted => ?_ }
    rw [notYet] at isCounted
    cases isCounted

theorem Watched.sendMailTo (watched : Watched guid gone counted realm)
    (room : ∀ player, realm.getPlayer guid = some player → player.unReadMails < 255)
    (draft : MailDraft) (receiver : Nat) (sender : MailSender) {checked : MailCheckMask}
    (unseen : checked.read = false) (deliverDelay : Nat) :
    Watched guid gone counted (realm.sendMailTo draft receiver sender checked deliverDelay) where
  rows := watched.rows.sendMailTo draft receiver sender checked deliverDelay
  tidy holder found := by
    rw [Realm.sendMailTo_nextMailId, Realm.sendMailTo_time]
    by_cases here : guid = receiver
    · rw [← here] at found
      cases absent : realm.getPlayer guid with
      | none =>
        rw [Realm.sendMailTo_getPlayer_none absent] at found
        cases found
      | some player =>
        rw [Realm.sendMailTo_getPlayer_self absent] at found
        injection found with found
        rw [← found]
        exact (watched.tidy player absent).receive (room player absent) rfl unseen rfl
    · rw [Realm.sendMailTo_getPlayer_of_ne here] at found
      exact (watched.tidy holder found).later (Nat.le_succ _)

theorem Watched.sendCOD (watched : Watched guid gone counted realm)
    (room : ∀ player, realm.getPlayer guid = some player → player.unReadMails < 255) (mail : Mail) :
    Watched guid gone counted (realm.sendCOD mail) := by
  rcases realm.sendCOD_cases mail with ⟨_, same⟩ | ⟨_, same⟩
  · simp_all
  · rw [same]
    exact watched.sendMailTo room _ _ _ rfl _

/-! ### The requests of others -/

theorem Watched.ask_of_ne (watched : Watched guid gone counted realm)
    (room : ∀ player, realm.getPlayer guid = some player → player.unReadMails < 255) {other : Nat}
    (apart : other ≠ guid) (player : Player) (found : realm.getPlayer other = some player)
    (request : Request) : Watched guid gone counted (realm.handle other player request) := by
  have online := Realm.isOnline_of_getPlayer found
  have stays (base : Realm) (rows : RowsFine base) (holders : base.player = realm.player)
      (times : base.time = realm.time) (next : base.nextMailId = realm.nextMailId) (left : Player) :
      Watched guid gone counted (base.setPlayer other left) ∧
        ∀ player, (base.setPlayer other left).getPlayer guid = some player →
          player.unReadMails < 255 := by
    have same : base.getPlayer guid = realm.getPlayer guid := by
      simp_all [Realm.getPlayer]
    constructor
    · refine Watched.setPlayer_of_ne ⟨rows, fun holder there => ?_⟩ apart left
      rw [same] at there
      rw [times, next]
      exact watched.tidy holder there
    · intro holder there
      rw [Realm.setPlayer_getPlayer_of_ne apart.symm, same] at there
      exact room holder there
  have here (left : Player) := stays realm watched.rows rfl rfl rfl left
  cases request with
  | sendMail packet allowed =>
    change Watched guid gone counted (realm.handleSendMail other player packet allowed)
    rcases realm.sendMail_cases player packet allowed with same |
      ⟨_, _, inventory, draft, checked, deliverDelay, _, _, unseen, same⟩
    · rw [same]
      exact watched
    · rw [same]
      exact (here _).1.sendMailTo (here _).2 draft _ _ unseen deliverDelay
  | markAsRead mailId =>
    grind [Realm.handle, Realm.handleMailMarkAsRead]
  | delete mailId =>
    grind [Realm.handle, Realm.handleMailDelete]
  | returnToSender mailId =>
    change Watched guid gone counted (realm.handleMailReturnToSender other player mailId)
    rcases realm.return_cases player mailId with
      same | ⟨mail, rows, mailedItems, usable, part, same | ⟨deliverDelay, same⟩⟩
    · rw [same]
      exact watched
    · have fine : RowsFine { realm with rows := rows } :=
        watched.rows.of_sublist (part.map _) (Nat.le_refl _)
      rw [same]
      exact (stays _ fine rfl rfl rfl _).1
    · have fine : RowsFine { realm with rows := rows } :=
        watched.rows.of_sublist (part.map _) (Nat.le_refl _)
      rw [same]
      exact (stays _ fine rfl rfl rfl _).1.sendMailTo (stays _ fine rfl rfl rfl _).2 _ _ _ rfl _
  | takeItem mailId itemId storable =>
    change Watched guid gone counted
      (realm.handleMailTakeItem other player mailId itemId storable)
    rcases Realm.takeItem_cases found mailId itemId storable with same |
      ⟨mail, taken, _, _, _, _, isTaken, ⟨_, same⟩ | ⟨_, paid, _, same⟩⟩
    · simp_all
    · rw [same, isTaken]
      exact (here _).1.saveMail_of_ne apart _
    · rw [same, isTaken]
      exact ((here _).1.sendCOD (here _).2 mail).saveMail_of_ne apart _
  | takeMoney mailId =>
    unfold Realm.handle Realm.handleMailTakeMoney
    dsimp only
    split
    · exact watched
    · exact watched.saveMail_of_ne apart _
  | getMailList | queryNextMailTime => exact (here _).1
  | createTextItem mailId storable =>
    unfold Realm.handle Realm.handleMailCreateTextItem
    dsimp only
    split
    · exact watched
    · split
      · exact watched
      · split
        · exact ⟨⟨watched.rows.below, watched.rows.distinct⟩, watched.tidy⟩
        · exact (stays { realm with nextItem := realm.nextItem + 1 } ⟨watched.rows.below,
            watched.rows.distinct⟩ rfl rfl rfl _).1

/-! ### His own requests -/

/-- What a player has to keep to: he marks no deleted mail as read, and once his unread mails are
counted, he marks and deletes and returns only what the counter is right about. -/
def OwnOrderly (guid : Nat) (realm : Realm) (counted : Bool) : Request → Prop
  | .markAsRead mailId =>
    ∀ player mail, realm.getPlayer guid = some player →
      getMail player.mails mailId = some mail →
      mail.state ≠ .deleted ∧
        (counted = true → mail.counts realm.time = true ∨ player.unReadMails = 0)
  | .delete mailId =>
    ∀ player mail, realm.getPlayer guid = some player →
      getMail player.mails mailId = some mail → mail.cod = 0 → counted = true →
      mail.counts realm.time = false
  | .returnToSender mailId =>
    ∀ player mail, realm.getPlayer guid = some player →
      realm.usableMail player mailId = some mail → counted = true →
      mail.counts realm.time = false
  | .getMailList =>
    ∀ player, realm.getPlayer guid = some player →
      (∀ mail ∈ player.mails, mail.state = .deleted → mail.delivered realm.time = true →
        mail.checked.read = true) ∧
      unread realm.time (realm.loaded guid player).mails < 2 ^ 8
  | _ => True

def Request.recounts : Request → Bool
  | .getMailList => true
  | _ => false

theorem tidy_loaded (watched : Watched guid gone counted realm)
    (found : realm.getPlayer guid = some player) :
    Tidy (realm.loaded guid player).mailsLoaded (realm.loaded guid player).mails
      (realm.loaded guid player).unReadMails realm.nextMailId realm.time gone counted := by
  have tidy := watched.tidy player found
  unfold Realm.loaded
  cases isLoaded : player.mailsLoaded with
  | true =>
    simp_all
  | false =>
    rw [if_neg Bool.false_ne_true]
    obtain ⟨_, noneGone, notYet⟩ := tidy.empty isLoaded
    have sameIds : (ids (realm.loadMail guid player).mails).Perm
        (ids (realm.rows.filter fun row => decide (row.receiver = guid))) := by
      unfold Realm.loadMail ids
      rw [List.map_map]
      exact (List.perm_insertionSort _ _).map _
    rw [noneGone, notYet]
    constructor
    · intro unloaded
      cases unloaded
    · intro mail member
      obtain ⟨row, inside, same⟩ :=
        mem_ids.mp (sameIds.mem_iff.mp (mem_ids.mpr ⟨mail, member, rfl⟩))
      rw [← same]
      exact watched.rows.below row (List.mem_of_mem_filter inside)
    · simp
    · exact sameIds.nodup_iff.mpr (watched.rows.distinct.sublist (List.filter_sublist.map _))
    · simp
    · simp

theorem loaded_mailsLoaded : (realm.loaded guid player).mailsLoaded = true := by
  unfold Realm.loaded
  split
  · assumption
  · rfl

theorem loaded_noneDeleted
    (noneDeleted : ∀ mail ∈ player.mails, mail.state = .deleted →
      mail.delivered realm.time = true → mail.checked.read = true) :
    ∀ mail ∈ (realm.loaded guid player).mails, mail.state = .deleted →
      mail.delivered realm.time = true → mail.checked.read = true := by
  intro mail member deleted
  unfold Realm.loaded at member
  split at member
  · exact noneDeleted mail member deleted
  · unfold Realm.loadMail at member
    obtain ⟨row, _, same⟩ := List.mem_map.mp member
    rw [← same] at deleted
    cases deleted

def Room (guid : Nat) (realm : Realm) : Prop :=
  ∀ player, realm.getPlayer guid = some player → player.unReadMails < 255

theorem room_setPlayer {left : Player} (few : left.unReadMails < 255) :
    Room guid (realm.setPlayer guid left) := by
  intro holder there
  have same := Realm.player_of_getPlayer there
  rw [Realm.setPlayer_player_self] at same
  injection same with same
  rw [← same]
  exact few

section

variable (watched : Watched guid gone counted realm) (room : Room guid realm)
  (found : realm.getPlayer guid = some player)
include watched found

theorem watched_markAsRead {mailId : Nat}
    (orderly : OwnOrderly guid realm counted (.markAsRead mailId)) :
    Watched guid gone counted (realm.handleMailMarkAsRead guid player mailId) := by
  unfold Realm.handleMailMarkAsRead
  cases exist : getMail player.mails mailId with
  | none => exact watched
  | some mail =>
    obtain ⟨stays, right⟩ := orderly player mail found exist
    have tidy := watched.tidy player found
    refine Watched.setPlayer_self watched.rows (tidy.change exist _ rfl ?_ ?_)
    · simp_all
    · intro isCounted
      have share : ({ mail with
          checked := { mail.checked with read := true }
          state := .changed } : Mail).share realm.time = 0 := by
        simp [Mail.share, Mail.counts]
      have counter := tidy.count isCounted
      rw [unread_getMail exist] at counter
      dsimp only
      rw [share]
      unfold Mail.share at counter ⊢
      rcases right isCounted with counts | nothing
      · grind
      · rw [nothing] at counter ⊢
        rw [if_neg (fun different => different rfl)]
        omega

theorem watched_delete {mailId : Nat} (orderly : OwnOrderly guid realm counted (.delete mailId)) :
    Watched guid gone counted (realm.handleMailDelete guid player mailId) := by
  have tidy := watched.tidy player found
  unfold Realm.handleMailDelete
  dsimp only
  cases exist : getMail player.mails mailId with
  | none => exact Watched.setPlayer_self watched.rows tidy
  | some mail =>
    dsimp only
    split
    · exact Watched.setPlayer_self watched.rows tidy
    · rename_i free
      refine Watched.setPlayer_self watched.rows (tidy.change exist _ rfl (fun _ => rfl) ?_)
      intro isCounted
      unfold Mail.share
      rw [orderly player mail found exist (Decidable.not_not.mp free) isCounted]
      unfold Mail.counts
      simp

theorem watched_createTextItem (mailId : Nat) (storable : Bool) :
    Watched guid gone counted (realm.handleMailCreateTextItem guid player mailId storable) := by
  unfold Realm.handleMailCreateTextItem
  cases usable : realm.usableMail player mailId with
  | none => exact watched
  | some mail =>
    obtain ⟨exist, stays, _⟩ := Realm.usableMail_eq_some.mp usable
    have rows : RowsFine { realm with nextItem := realm.nextItem + 1 } :=
      ⟨watched.rows.below, watched.rows.distinct⟩
    dsimp only
    split
    · exact watched
    · split
      · exact ⟨rows, watched.tidy⟩
      · refine Watched.setPlayer_self rows ?_
        exact (watched.tidy player found).write exist stays _ rfl rfl rfl MailState.noConfusion

theorem watched_takeMoney (mailId : Nat) :
    Watched guid gone counted (realm.handleMailTakeMoney guid player mailId) := by
  unfold Realm.handleMailTakeMoney
  cases usable : realm.usableMail player mailId with
  | none => exact watched
  | some mail =>
    obtain ⟨exist, stays, _⟩ := Realm.usableMail_eq_some.mp usable
    generalize player.purse.modifyMoney (int32 mail.money) = purse
    refine Watched.saveMail_self watched.rows ?_
    exact (watched.tidy player found).write exist stays _ rfl rfl rfl MailState.noConfusion

theorem watched_getMailList (orderly : OwnOrderly guid realm counted .getMailList) :
    Watched guid gone true (realm.handleGetMailList guid player) := by
  obtain ⟨noneDeleted, few⟩ := orderly player found
  have tidy := tidy_loaded watched found
  have isLoaded : (realm.loaded guid player).mailsLoaded = true := loaded_mailsLoaded
  rw [isLoaded] at tidy
  refine Watched.setPlayer_self watched.rows ?_
  unfold Player.updateNextMailTimeAndUnreads
  rw [isLoaded]
  exact tidy.recount (loaded_noneDeleted noneDeleted) few

include room

theorem watched_sendMail (packet : SendMail) (allowed : Bool) :
    Watched guid gone counted (realm.handleSendMail guid player packet allowed) := by
  rcases realm.sendMail_cases player packet allowed with same |
    ⟨_, _, inventory, draft, checked, deliverDelay, _, _, unseen, same⟩
  · rw [same]
    exact watched
  · rw [same]
    generalize player.purse.modifyMoney (-int32 packet.reqmoney) = purse
    have tidy := watched.tidy player found
    have few := room player found
    refine Watched.sendMailTo ?_ ?_ draft _ _ unseen deliverDelay
    · exact Watched.setPlayer_self watched.rows tidy
    · exact room_setPlayer few

theorem watched_returnToSender {mailId : Nat}
    (orderly : OwnOrderly guid realm counted (.returnToSender mailId)) :
    Watched guid gone counted (realm.handleMailReturnToSender guid player mailId) := by
  rcases realm.return_cases player mailId with
    same | ⟨mail, rows, mailedItems, usable, part, result⟩
  · rw [same]
    exact watched
  · have fine : RowsFine { realm with rows := rows } :=
      watched.rows.of_sublist (part.map _) (Nat.le_refl _)
    have tidy := (watched.tidy player found).remove (Realm.usableMail_eq_some.mp usable).1
      (orderly player mail found usable)
    have few := room player found
    rcases result with same | ⟨deliverDelay, same⟩
    · rw [same]
      exact Watched.setPlayer_self fine tidy
    · rw [same]
      refine Watched.sendMailTo ?_ ?_ _ _ _ rfl _
      · exact Watched.setPlayer_self fine tidy
      · exact room_setPlayer few

theorem watched_takeItem (mailId itemId : Nat) (storable : Bool) :
    Watched guid gone counted (realm.handleMailTakeItem guid player mailId itemId storable) := by
  rcases Realm.takeItem_cases found mailId itemId storable with same |
    ⟨mail, taken, usable, _, _, _, isTaken, result⟩
  · simp_all
  · obtain ⟨exist, stays, _⟩ := Realm.usableMail_eq_some.mp usable
    have tidy : Tidy (Realm.tookItem player mail mailId itemId).mailsLoaded
        (Realm.tookItem player mail mailId itemId).mails
        (Realm.tookItem player mail mailId itemId).unReadMails realm.nextMailId realm.time gone
        counted :=
      (watched.tidy player found).write exist stays _ rfl rfl rfl MailState.noConfusion
    rcases result with ⟨_, same⟩ | ⟨_, paid, paidFound, same⟩
    · rw [same, isTaken]
      exact Watched.saveMail_self
        (watched.rows.of_sublist (List.Sublist.refl _) (Nat.le_refl _)) tidy
    · have paidWatched : Watched guid gone counted (taken.sendCOD mail) := by
        rw [isTaken]
        exact (Watched.setPlayer_self watched.rows tidy).sendCOD
          (room_setPlayer (room player found)) mail
      rw [same]
      exact Watched.saveMail_self paidWatched.rows (paidWatched.tidy paid paidFound)

theorem Watched.ask_self {request : Request} (orderly : OwnOrderly guid realm counted request) :
    Watched guid gone (counted || request.recounts) (realm.handle guid player request) := by
  cases request with
  | getMailList =>
    rw [show (counted || Request.getMailList.recounts) = true from Bool.or_true _]
    exact watched_getMailList watched found orderly
  | sendMail packet allowed =>
    exact (Bool.or_false counted).symm ▸ watched_sendMail watched room found packet allowed
  | markAsRead mailId =>
    exact (Bool.or_false counted).symm ▸ watched_markAsRead watched found orderly
  | delete mailId => exact (Bool.or_false counted).symm ▸ watched_delete watched found orderly
  | returnToSender mailId =>
    exact (Bool.or_false counted).symm ▸ watched_returnToSender watched room found orderly
  | takeItem mailId itemId storable =>
    exact (Bool.or_false counted).symm ▸ watched_takeItem watched room found mailId itemId storable
  | takeMoney mailId => exact (Bool.or_false counted).symm ▸ watched_takeMoney watched found mailId
  | createTextItem mailId storable =>
    exact (Bool.or_false counted).symm ▸ watched_createTextItem watched found mailId storable
  | queryNextMailTime =>
    exact (Bool.or_false counted).symm ▸
      Watched.setPlayer_self watched.rows (tidy_loaded watched found)

end

/-! ### Runs -/

def memory (guid : Nat) (realm : Realm) : List Mail :=
  match realm.getPlayer guid with
  | none => []
  | some player => player.mails

structure Watch where
  realm : Realm
  gone : List Nat
  counted : Bool

def Action.recounts (guid : Nat) (realm : Realm) : Action → Bool
  | .request other asked =>
    decide (other = guid) && (realm.getPlayer guid).isSome && asked.recounts
  | _ => false

def Watch.next (guid : Nat) (watch : Watch) (action : Action) : Watch where
  realm := watch.realm.next action
  gone := watch.gone ++ deletedIds (memory guid (watch.realm.next action))
  counted := watch.counted || action.recounts guid watch.realm

def Watch.start (guid : Nat) (realm : Realm) : Watch where
  realm := realm
  gone := deletedIds (memory guid realm)
  counted := false

/-- The condition on a step: the counter has room, the player keeps to his requests, no mail
comes already read, no delivery is due, and no unread mail becomes one that counts. -/
def Orderly (guid : Nat) (watch : Watch) (action : Action) : Prop :=
  Room guid watch.realm ∧
    match action with
    | .request other request =>
      other = guid → OwnOrderly guid watch.realm watch.counted request
    | .systemMail _ _ _ checked _ => checked.read = false
    | .update other =>
      other = guid → ∀ player, watch.realm.getPlayer guid = some player →
        player.nextMailDelivereTime = 0 ∨ watch.realm.time < player.nextMailDelivereTime
    | .save _ => True
    | .wait seconds =>
      watch.counted = true → ∀ mail ∈ memory guid watch.realm,
        mail.counts (watch.realm.time + seconds) = mail.counts watch.realm.time

structure Faithful (guid : Nat) (watch : Watch) : Prop where
  deleted : ∀ mail ∈ memory guid watch.realm, mail.messageID ∈ watch.gone → mail.state = .deleted
  unlisted : ∀ player, watch.realm.getPlayer guid = some player →
    ∀ shown ∈ (watch.realm.mailListResult guid player).1, shown.messageID ∉ watch.gone
  counter : watch.counted = true → ∀ player, watch.realm.getPlayer guid = some player →
    player.unReadMails = unread watch.realm.time (memory guid watch.realm)

theorem memory_eq (found : realm.getPlayer guid = some player) : memory guid realm = player.mails := by
  unfold memory
  rw [found]

theorem mem_listMails {time : Nat} {mails : List Mail} {wpos mailsCount : Nat} {shown : Mail}
    (member : shown ∈ (listMails time mails wpos mailsCount).1) :
    shown ∈ mails ∧ shown.state ≠ .deleted := by
  induction mails generalizing wpos mailsCount with
  | nil => cases member
  | cons mail rest ih =>
    have further {wpos mailsCount : Nat} (later : shown ∈ (listMails time rest wpos mailsCount).1) :
        shown ∈ mail :: rest ∧ shown.state ≠ .deleted :=
      ⟨List.mem_cons_of_mem _ (ih later).1, (ih later).2⟩
    unfold listMails at member
    split at member
    · exact further member
    · split at member
      · exact further member
      · rename_i visible
        split at member
        · exact further member
        · rcases List.mem_cons.mp member with here | later
          · simp_all
          · exact further later

theorem Watched.collect (watched : Watched guid gone counted realm) :
    Watched guid (gone ++ deletedIds (memory guid realm)) counted realm where
  rows := watched.rows
  tidy player found := by
    rw [memory_eq found]
    exact (watched.tidy player found).collect

theorem Watched.faithful {watch : Watch}
    (watched : Watched guid watch.gone watch.counted watch.realm) : Faithful guid watch where
  deleted mail member := by
    unfold memory at member
    split at member
    · cases member
    · rename_i player found
      exact (watched.tidy player found).dead mail member
  unlisted player found shown member inside := by
    obtain ⟨there, stays⟩ := mem_listMails member
    exact stays ((tidy_loaded watched found).dead shown there inside)
  counter isCounted player found := by
    rw [memory_eq found]
    exact (watched.tidy player found).count isCounted

theorem Watched.next {watch : Watch} {action : Action}
    (watched : Watched guid watch.gone watch.counted watch.realm)
    (orderly : Orderly guid watch action) :
    Watched guid watch.gone (watch.next guid action).counted (watch.realm.next action) := by
  obtain ⟨room, rest⟩ := orderly
  unfold Watch.next
  cases action with
  | request other request =>
    unfold Realm.next
    dsimp only at rest ⊢
    cases found : watch.realm.getPlayer other with
    | none =>
      have nothing : (watch.counted || (Action.request other request).recounts guid watch.realm) =
          watch.counted := by
        grind [Action.recounts]
      rw [nothing]
      exact watched
    | some player =>
      by_cases here : other = guid
      · subst here
        have same : (Action.request other request).recounts other watch.realm =
            request.recounts := by
          simp [Action.recounts, found]
        rw [same]
        exact Watched.ask_self watched room found (rest rfl)
      · have same : (Action.request other request).recounts guid watch.realm = false := by
          simp [Action.recounts, here]
        rw [same, Bool.or_false]
        exact watched.ask_of_ne room here player found request
  | systemMail draft receiver sender checked deliverDelay =>
    change Watched guid watch.gone (watch.counted || false) _
    rw [Bool.or_false]
    exact watched.sendMailTo room draft receiver sender rest deliverDelay
  | update other =>
    change Watched guid watch.gone (watch.counted || false) _
    rw [Bool.or_false]
    unfold Realm.next
    dsimp only at rest ⊢
    cases found : watch.realm.getPlayer other with
    | none => exact watched
    | some player =>
      dsimp only
      unfold Realm.updatePlayer
      split
      · rename_i due
        by_cases here : other = guid
        · subst here
          rcases rest rfl player found with never | later
          · exact absurd never due.1
          · exact absurd due.2 (Nat.not_le.mpr later)
        · exact watched.setPlayer_of_ne here _
      · exact watched
  | save other =>
    change Watched guid watch.gone (watch.counted || false) _
    rw [Bool.or_false]
    unfold Realm.next
    dsimp only
    cases found : watch.realm.getPlayer other with
    | none => exact watched
    | some player =>
      dsimp only
      unfold Realm.saveToDB
      split
      · by_cases here : other = guid
        · subst here
          exact Watched.saveMail_self watched.rows (watched.tidy player found)
        · exact watched.saveMail_of_ne here player
      · exact watched
  | wait seconds =>
    change Watched guid watch.gone (watch.counted || false) _
    rw [Bool.or_false]
    refine ⟨⟨watched.rows.below, watched.rows.distinct⟩, fun player found => ?_⟩
    have there : watch.realm.getPlayer guid = some player := found
    refine (watched.tidy player there).wait fun isCounted => ?_
    have nothing := rest isCounted
    rw [memory_eq there] at nothing
    exact nothing

/-- In an orderly run deleted mails stay deleted and are listed no more, and the counter is right
from the first time the unread mails are counted. -/
theorem always_faithful {actions : List Action}
    (start : Watched guid [] false realm)
    (orderly : Along (Watch.next guid) (Orderly guid) (Watch.start guid realm) actions) :
    Always (Watch.next guid) (Faithful guid) (Watch.start guid realm) actions := by
  have kept : ∀ (watch : Watch) (action : Action),
      Watched guid watch.gone watch.counted watch.realm → Orderly guid watch action →
      Watched guid (watch.next guid action).gone (watch.next guid action).counted
        (watch.next guid action).realm :=
    fun watch action watched step => (watched.next step).collect
  exact (always_of_step kept start.collect orderly).imp fun _ watched => watched.faithful

/-! ### Two runs -/

theorem collection_watched : Watched 1 [] false collection where
  rows := ⟨by decide, by decide⟩
  tidy player found := by
    have isCollector : collector = player := Option.some.inj found
    rw [← isCollector]
    constructor
    · intro unloaded
      cases unloaded
    · decide
    · decide
    · decide
    · decide
    · simp

theorem always_faithful_read :
    Always (Watch.next 1) (Faithful 1) (Watch.start 1 collection)
      [.request 1 .getMailList, .request 1 (.markAsRead 10)] := by
  refine always_faithful collection_watched ⟨⟨?_, ?_⟩, ⟨?_, ?_⟩, trivial⟩
  · intro player found
    have isCollector : collector = player := Option.some.inj found
    rw [← isCollector]
    decide
  · intro _ player found
    have isCollector : collector = player := Option.some.inj found
    rw [← isCollector]
    decide +kernel
  · intro player found
    have counter : ((collection.next (.request 1 .getMailList)).getPlayer 1).map (·.unReadMails) =
        some 2 := by decide +kernel
    change (collection.next (.request 1 .getMailList)).getPlayer 1 = some player at found
    rw [found] at counter
    have isTwo : player.unReadMails = 2 := Option.some.inj counter
    omega
  · intro _ player mail found exist
    have first : ((collection.next (.request 1 .getMailList)).getPlayer 1).bind
        (fun player => getMail player.mails 10) = some collector.mails[0] := by decide +kernel
    change (collection.next (.request 1 .getMailList)).getPlayer 1 = some player at found
    rw [found] at first
    have isFirst : mail = collector.mails[0] := Option.some.inj (exist.symm.trans first)
    rw [isFirst]
    exact ⟨by decide, fun _ => Or.inl (by decide)⟩

/-- A deleted mail is marked as read, and is back. -/
theorem not_always_faithful :
    ¬ ∀ (guid : Nat) (realm : Realm) (actions : List Action), Watched guid [] false realm →
      Always (Watch.next guid) (Faithful guid) (Watch.start guid realm) actions := by
  intro all
  have last := (all 1 collection
    [.request 1 .getMailList, .request 1 (.delete 10), .request 1 (.markAsRead 10)]
    collection_watched).last
  have back : ∃ mail ∈ memory 1 (List.foldl (Watch.next 1) (Watch.start 1 collection)
      [.request 1 .getMailList, .request 1 (.delete 10), .request 1 (.markAsRead 10)]).realm,
      mail.messageID ∈ (List.foldl (Watch.next 1) (Watch.start 1 collection)
        [.request 1 .getMailList, .request 1 (.delete 10), .request 1 (.markAsRead 10)]).gone ∧
      mail.state ≠ .deleted := by decide +kernel
  obtain ⟨mail, member, inside, stays⟩ := back
  exact stays (last.deleted mail member inside)

end DarkCore.Mails
