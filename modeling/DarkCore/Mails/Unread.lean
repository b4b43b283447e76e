/-
Deleted and unread mails of one player. A deleted mail stays in memory until it
is saved, and the counter of unread mails is changed request by request. What a
step may do to both is said here about the list of mails; the runs follow.
-/

import DarkCore.Mails.Post

namespace DarkCore.Mails

open DarkCore.Player (uint32)

def ids (mails : List Mail) : List Nat := mails.map (·.messageID)

def Mail.counts (time : Nat) (mail : Mail) : Bool :=
  mail.delivered time && decide (mail.state ≠ MailState.deleted) && !mail.checked.read

def unread (time : Nat) (mails : List Mail) : Nat := mails.countP (·.counts time)

def deletedIds (mails : List Mail) : List Nat :=
  ids (mails.filter fun mail : Mail => decide (mail.state = MailState.deleted))

variable {time id : Nat} {mails : List Mail} {mail : Mail}

def Mail.share (time : Nat) (mail : Mail) : Nat := if mail.counts time = true then 1 else 0

theorem unread_cons : unread time (mail :: mails) = mail.share time + unread time mails := by
  unfold unread Mail.share
  rw [List.countP_cons, Nat.add_comm]

theorem unread_perm {others : List Mail} (perm : mails.Perm others) :
    unread time mails = unread time others := perm.countP_eq _

theorem unread_getMail (found : getMail mails id = some mail) :
    unread time mails = mail.share time + unread time (removeMail mails id) := by
  rw [← unread_cons]
  exact unread_perm (getMail_perm found)

theorem unread_changeMail (found : getMail mails id = some mail) (change : Mail → Mail) :
    unread time (changeMail change id mails) =
      (change mail).share time + unread time (removeMail mails id) := by
  rw [← unread_cons]
  exact unread_perm (changeMail_perm found change)

theorem share_eq {other : Mail} (sameTime : other.deliverTime = mail.deliverTime)
    (sameRead : other.checked.read = mail.checked.read) (stays : mail.state ≠ .deleted)
    (otherStays : other.state ≠ .deleted) : other.share time = mail.share time := by
  unfold Mail.share Mail.counts Mail.delivered
  rw [sameTime, sameRead, decide_eq_true stays, decide_eq_true otherStays]

theorem counts_savedMail (stays : mail.state ≠ .deleted) :
    (Realm.savedMail mail).counts time = mail.counts time := by
  unfold Realm.savedMail
  split
  · rename_i changed
    unfold Mail.counts
    rw [changed]
    rfl
  · rfl

theorem unread_saved :
    unread time ((mails.filter fun mail : Mail =>
      decide (mail.state ≠ MailState.deleted)).map Realm.savedMail) = unread time mails := by
  induction mails with
  | nil => rfl
  | cons head rest ih =>
    rw [List.filter_cons]
    by_cases gone : head.state = .deleted
    · rw [if_neg (by rw [gone]; decide), ih, unread_cons]
      unfold Mail.share Mail.counts
      rw [gone]
      simp
    · rw [if_pos (decide_eq_true gone), List.map_cons, unread_cons, unread_cons, ih]
      unfold Mail.share
      rw [counts_savedMail gone]

theorem ids_perm {others : List Mail} (perm : mails.Perm others) : (ids mails).Perm (ids others) :=
  perm.map _

theorem mem_ids {id : Nat} : id ∈ ids mails ↔ ∃ mail ∈ mails, mail.messageID = id := List.mem_map

/-- What is known of the mailbox of a player: whether it is loaded, its mails and its counter,
with the id of the next mail, the ids of the mails that were deleted, and whether the unread
mails were counted since it was loaded. -/
structure Tidy (isLoaded : Bool) (mails : List Mail) (unReadMails nextMailId time : Nat)
    (gone : List Nat) (counted : Bool) : Prop where
  empty : isLoaded = false → mails = [] ∧ gone = [] ∧ counted = false
  fresh : ∀ mail ∈ mails, mail.messageID < nextMailId
  old : ∀ id ∈ gone, id < nextMailId
  distinct : (ids mails).Nodup
  dead : ∀ mail ∈ mails, mail.messageID ∈ gone → mail.state = .deleted
  count : counted = true → unReadMails = unread time mails

variable {isLoaded counted : Bool} {unReadMails nextMailId : Nat} {gone : List Nat}

namespace Tidy

theorem later (tidy : Tidy isLoaded mails unReadMails nextMailId time gone counted) {next : Nat}
    (more : nextMailId ≤ next) : Tidy isLoaded mails unReadMails next time gone counted :=
  { tidy with
    fresh := fun mail member => Nat.lt_of_lt_of_le (tidy.fresh mail member) more
    old := fun id member => Nat.lt_of_lt_of_le (tidy.old id member) more }

theorem collect (tidy : Tidy isLoaded mails unReadMails nextMailId time gone counted) :
    Tidy isLoaded mails unReadMails nextMailId time (gone ++ deletedIds mails) counted where
  empty unloaded := by
    obtain ⟨none, noneGone, notYet⟩ := tidy.empty unloaded
    rw [none, noneGone]
    exact ⟨rfl, rfl, notYet⟩
  fresh := tidy.fresh
  old id member := by
    rcases List.mem_append.mp member with before | now
    · exact tidy.old id before
    · obtain ⟨mail, inside, same⟩ := mem_ids.mp now
      rw [← same]
      exact tidy.fresh mail (List.mem_of_mem_filter inside)
  distinct := tidy.distinct
  dead mail member inside := by
    rcases List.mem_append.mp inside with before | now
    · exact tidy.dead mail member before
    · obtain ⟨other, otherInside, same⟩ := mem_ids.mp now
      obtain ⟨otherMember, deleted⟩ := List.mem_filter.mp otherInside
      have isMail : other = mail :=
        List.inj_on_of_nodup_map tidy.distinct otherMember member same
      rw [← isMail]
      exact of_decide_eq_true deleted
  count := tidy.count

theorem arrive (tidy : Tidy true mails unReadMails nextMailId time gone counted)
    (newest : mail.messageID = nextMailId) (unseen : mail.checked.read = false)
    (undeleted : mail.state = .unchanged) :
    Tidy true (mail :: mails) (unReadMails + if mail.delivered time = true then 1 else 0)
      (nextMailId + 1) time gone counted where
  empty unloaded := by cases unloaded
  fresh other member := by
    rcases List.mem_cons.mp member with here | before
    · simp [here, newest]
    · exact Nat.lt_succ_of_lt (tidy.fresh other before)
  old id member := Nat.lt_succ_of_lt (tidy.old id member)
  distinct := by
    unfold ids
    rw [List.map_cons]
    refine List.nodup_cons.mpr ⟨fun inside => ?_, tidy.distinct⟩
    obtain ⟨other, member, same⟩ := mem_ids.mp inside
    have earlier := tidy.fresh other member
    omega
  dead other member inside := by
    rcases List.mem_cons.mp member with here | before
    · have earlier := tidy.old other.messageID inside
      rw [here] at earlier
      omega
    · exact tidy.dead other before inside
  count isCounted := by
    rw [unread_cons, tidy.count isCounted, Nat.add_comm]
    congr 1
    unfold Mail.share Mail.counts
    rw [unseen, undeleted]
    simp

section

variable (tidy : Tidy isLoaded mails unReadMails nextMailId time gone counted)
  (found : getMail mails id = some mail)
include tidy found

theorem change (change : Mail → Mail)
    (sameId : (change mail).messageID = mail.messageID)
    (stays : mail.state = .deleted → (change mail).state = .deleted) {left : Nat}
    (balanced : counted = true → left + mail.share time = unReadMails + (change mail).share time) :
    Tidy isLoaded (changeMail change id mails) left nextMailId time gone counted where
  empty unloaded := by
    rw [(tidy.empty unloaded).1] at found
    cases found
  fresh other member := by
    rcases List.mem_cons.mp ((changeMail_perm found change).mem_iff.mp member) with here | before
    · rw [here, sameId]
      exact tidy.fresh mail (getMail_mem found)
    · exact tidy.fresh other (mem_removeMail before)
  old := tidy.old
  distinct := by
    have sameIds : (ids (changeMail change id mails)).Perm (ids mails) := by
      refine (ids_perm (changeMail_perm found change)).trans ?_
      refine List.Perm.trans ?_ (ids_perm (getMail_perm found)).symm
      unfold ids
      rw [List.map_cons, List.map_cons, sameId]
    exact sameIds.nodup_iff.mpr tidy.distinct
  dead other member inside := by
    rcases List.mem_cons.mp ((changeMail_perm found change).mem_iff.mp member) with here | before
    · rw [here]
      rw [here, sameId] at inside
      exact stays (tidy.dead mail (getMail_mem found) inside)
    · exact tidy.dead other (mem_removeMail before) inside
  count isCounted := by
    have before := tidy.count isCounted
    have both := balanced isCounted
    rw [unread_getMail found] at before
    rw [unread_changeMail found]
    omega

theorem write (stays : mail.state ≠ .deleted) (change : Mail → Mail)
    (sameId : (change mail).messageID = mail.messageID)
    (sameTime : (change mail).deliverTime = mail.deliverTime)
    (sameRead : (change mail).checked.read = mail.checked.read)
    (changeStays : (change mail).state ≠ .deleted) :
    Tidy isLoaded (changeMail change id mails) unReadMails nextMailId time gone counted := by
  refine tidy.change found change sameId (fun deleted => absurd deleted stays) ?_
  intro _
  rw [share_eq sameTime sameRead stays changeStays]

theorem remove (uncounted : counted = true → mail.counts time = false) :
    Tidy isLoaded (removeMail mails id) unReadMails nextMailId time gone counted where
  empty unloaded := by
    rw [(tidy.empty unloaded).1] at found
    cases found
  fresh other member := tidy.fresh other (mem_removeMail member)
  old := tidy.old
  distinct := tidy.distinct.sublist (List.eraseP_sublist.map _)
  dead other member := tidy.dead other (mem_removeMail member)
  count isCounted := by
    rw [tidy.count isCounted, unread_getMail found]
    unfold Mail.share
    rw [uncounted isCounted]
    exact Nat.zero_add _

end

theorem save (tidy : Tidy true mails unReadMails nextMailId time gone counted) :
    Tidy true ((mails.filter fun mail : Mail =>
      decide (mail.state ≠ MailState.deleted)).map Realm.savedMail) unReadMails nextMailId time gone
      counted where
  empty unloaded := by cases unloaded
  fresh other member := by
    obtain ⟨saved, inside, same⟩ := List.mem_map.mp member
    rw [← same, savedMail_messageID]
    exact tidy.fresh saved (List.mem_of_mem_filter inside)
  old := tidy.old
  distinct := by
    have sameIds : ids ((mails.filter fun mail : Mail =>
        decide (mail.state ≠ MailState.deleted)).map Realm.savedMail) =
        ids (mails.filter fun mail : Mail => decide (mail.state ≠ MailState.deleted)) := by
      unfold ids
      rw [List.map_map]
      congr 1
      funext saved
      exact savedMail_messageID saved
    rw [sameIds]
    exact tidy.distinct.sublist (List.filter_sublist.map _)
  dead other member inside := by
    obtain ⟨saved, savedInside, same⟩ := List.mem_map.mp member
    obtain ⟨savedMember, stays⟩ := List.mem_filter.mp savedInside
    rw [← same, savedMail_messageID] at inside
    exact absurd (tidy.dead saved savedMember inside) (of_decide_eq_true stays)
  count isCounted := by
    rw [unread_saved]
    exact tidy.count isCounted

theorem wait (tidy : Tidy isLoaded mails unReadMails nextMailId time gone counted) {now : Nat}
    (nothing : counted = true → ∀ mail ∈ mails, mail.counts now = mail.counts time) :
    Tidy isLoaded mails unReadMails nextMailId now gone counted :=
  { tidy with
    count := fun isCounted => by
      rw [tidy.count isCounted]
      exact List.countP_congr fun mail member => by rw [nothing isCounted mail member] }

theorem recount (tidy : Tidy true mails unReadMails nextMailId time gone counted)
    (noneDeleted : ∀ mail ∈ mails, mail.state = .deleted →
      mail.delivered time = true → mail.checked.read = true)
    (few : unread time mails < 2 ^ 8) :
    Tidy true mails
      ((mails.countP fun mail => mail.delivered time && !mail.checked.read) % 2 ^ 8) nextMailId
      time gone true where
  empty unloaded := by cases unloaded
  fresh := tidy.fresh
  old := tidy.old
  distinct := tidy.distinct
  dead := tidy.dead
  count _ := by
    have same : (mails.countP fun mail => mail.delivered time && !mail.checked.read) =
        unread time mails := by
      refine List.countP_congr fun mail member => ?_
      unfold Mail.counts
      by_cases gone : mail.state = .deleted
      · simp_all
      · simp [gone]
    rw [same, Nat.mod_eq_of_lt few]

end Tidy

end DarkCore.Mails
