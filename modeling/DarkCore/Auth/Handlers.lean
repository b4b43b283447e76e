/-
What each command handler does to the input buffer.

A command is `Complete` when the handler finds all of it in the buffer.  Then the
handler takes exactly `commandLength` bytes and does not notice what lies behind
them.  Otherwise it leaves the connection as it was, except that a challenge cut
short behind its first 35 bytes loses its header.
-/

import DarkCore.Auth.AuthSocket

namespace DarkCore.Auth

open Lib
open BigNumber

def challengeSize (buf : Bytes) : Nat := uint16At (buf.take 4) 2

/-- A challenge whose first 35 bytes are there but whose declared body is too
short, or not there yet. -/
def challengeCut (buf : Bytes) : Prop :=
  sizeofLogonChallenge ≤ buf.length ∧
    (challengeSize buf < sizeofLogonChallenge - 4 ∨ buf.length < 4 + challengeSize buf)

instance (buf : Bytes) : Decidable (challengeCut buf) :=
  inferInstanceAs (Decidable (_ ≤ buf.length ∧ (_ < _ ∨ buf.length < _)))

def challengeAt (buf : Bytes) : LogonChallenge :=
  .ofBuffer (buf.take (4 + challengeSize buf) ++ [0])

variable {conn : Connection}

theorem recvChallenge_short
    (short : conn.inputBuffer.length < sizeofLogonChallenge) :
    recvChallenge conn = (none, conn) := by
  unfold recvChallenge Connection.recvLen
  rw [if_pos short]

theorem recvChallenge_cut (cut : challengeCut conn.inputBuffer) :
    recvChallenge conn = (none, conn.recvSkip 4) := by
  obtain ⟨long, incomplete⟩ := cut
  unfold sizeofLogonChallenge at long
  have dropped : (conn.inputBuffer.drop 4).length = conn.inputBuffer.length - 4 :=
    List.length_drop
  unfold recvChallenge
  simp only [Connection.recvLen, Connection.recvSkip, dropped, sizeofLogonChallenge]
  rw [if_neg (by omega), if_pos]
  rcases incomplete with small | missing
  · exact Or.inl small
  · grind [challengeSize]

theorem recvChallenge_full
    (long : sizeofLogonChallenge ≤ conn.inputBuffer.length)
    (whole : ¬ challengeCut conn.inputBuffer) :
    recvChallenge conn =
      (some (challengeAt conn.inputBuffer),
        conn.recvSkip (4 + challengeSize conn.inputBuffer)) := by
  have dropped : (conn.inputBuffer.drop 4).length = conn.inputBuffer.length - 4 :=
    List.length_drop
  have sizeDef : challengeSize conn.inputBuffer = uint16At (conn.inputBuffer.take 4) 2 := rfl
  have complete : ¬ (uint16At (conn.inputBuffer.take 4) 2 < 35 - 4 ∨
      conn.inputBuffer.length - 4 < uint16At (conn.inputBuffer.take 4) 2) := by
    intro incomplete
    apply whole
    refine ⟨long, ?_⟩
    unfold sizeofLogonChallenge at *
    rw [sizeDef]
    omega
  have joined : conn.inputBuffer.take 4 ++
        (conn.inputBuffer.drop 4).take (uint16At (conn.inputBuffer.take 4) 2) =
      conn.inputBuffer.take (4 + challengeSize conn.inputBuffer) := by
    rw [sizeDef, List.take_add]
  unfold sizeofLogonChallenge at long
  unfold recvChallenge
  simp only [Connection.recvLen, Connection.recvSkip, dropped, sizeofLogonChallenge]
  rw [if_neg (by omega), if_neg complete, joined, List.drop_drop]
  rfl

theorem recvChallenge_cases (conn : Connection) :
    (conn.inputBuffer.length < sizeofLogonChallenge ∧ recvChallenge conn = (none, conn)) ∨
    (challengeCut conn.inputBuffer ∧ recvChallenge conn = (none, conn.recvSkip 4)) ∨
    (sizeofLogonChallenge ≤ conn.inputBuffer.length ∧ ¬ challengeCut conn.inputBuffer ∧
      recvChallenge conn = (some (challengeAt conn.inputBuffer),
          conn.recvSkip (4 + challengeSize conn.inputBuffer))) := by
  by_cases short : conn.inputBuffer.length < sizeofLogonChallenge
  · exact Or.inl ⟨short, recvChallenge_short short⟩
  · have long : sizeofLogonChallenge ≤ conn.inputBuffer.length := Nat.not_lt.mp short
    by_cases cut : challengeCut conn.inputBuffer
    · exact Or.inr (Or.inl ⟨cut, recvChallenge_cut cut⟩)
    · exact Or.inr (Or.inr ⟨long, cut, recvChallenge_full long cut⟩)

theorem challengeSize_append {buf : Bytes} (extra : Bytes) (long : 4 ≤ buf.length) :
    challengeSize (buf ++ extra) = challengeSize buf := by
  unfold challengeSize
  rw [List.take_append_of_le_length long]

theorem recvChallenge_append {after : Connection} {ch : LogonChallenge} (extra : Bytes)
    (received : recvChallenge conn = (some ch, after)) :
    recvChallenge (conn.append extra) = (some ch, after.append extra) := by
  rcases recvChallenge_cases conn with ⟨_, none⟩ | ⟨_, none⟩ | ⟨long, whole, some⟩
  · simp_all
  · simp_all
  · rw [some] at received
    cases received
    have four : 4 ≤ conn.inputBuffer.length := le_trans (by decide) long
    have sameSize := challengeSize_append extra four
    have fits : 4 + challengeSize conn.inputBuffer ≤ conn.inputBuffer.length := by
      by_contra beyond
      exact whole ⟨long, Or.inr (by omega)⟩
    have longer : sizeofLogonChallenge ≤ (conn.append extra).inputBuffer.length := by
      grind [Connection.append, List.length_append]
    have stillWhole : ¬ challengeCut (conn.append extra).inputBuffer := by
      rintro ⟨_, incomplete⟩
      apply whole
      refine ⟨long, ?_⟩
      simp only [Connection.append, sameSize, List.length_append] at incomplete
      omega
    rw [recvChallenge_full longer stillWhole]
    simp only [Connection.append, Connection.recvSkip, challengeAt, sameSize,
      List.take_append_of_le_length fits, List.drop_append_of_le_length fits]

theorem recv_append {after : Connection} {buf : Bytes} {len : Nat} (extra : Bytes)
    (received : conn.recv len = some (buf, after)) :
    (conn.append extra).recv len = some (buf, after.append extra) := by
  unfold Connection.recv at received ⊢
  by_cases short : conn.recvLen < len
  · simp_all
  · rw [if_neg short] at received
    cases received
    have enough : len ≤ conn.inputBuffer.length := Nat.not_lt.mp short
    have still : ¬ (conn.append extra).recvLen < len := by
      grind [Connection.append, Connection.recvLen, List.length_append]
    rw [if_neg still]
    simp only [Connection.append, Connection.recvSkip, List.take_append_of_le_length enough,
      List.drop_append_of_le_length enough]

namespace Connection

@[simp]
theorem append_auth (extra : Bytes) (conn : Connection) : (conn.append extra).auth = conn.auth := by
  unfold append
  rfl

@[simp]
theorem append_perform (extra : Bytes) (effect : Effect) (conn : Connection) :
    (conn.append extra).perform effect = (conn.perform effect).append extra :=
  rfl

@[simp]
theorem append_setAuth (extra : Bytes) (auth : AuthSocket) (conn : Connection) :
    (conn.append extra).setAuth auth = (conn.setAuth auth).append extra :=
  rfl

@[simp]
theorem append_shutdown (extra : Bytes) (conn : Connection) :
    (conn.append extra).shutdown = conn.shutdown.append extra :=
  rfl

theorem append_recvSkip {extra : Bytes} {len : Nat} {conn : Connection}
    (enough : len ≤ conn.inputBuffer.length) :
    (conn.append extra).recvSkip len = (conn.recvSkip len).append extra := by
  unfold append recvSkip
  rw [List.drop_append_of_le_length enough]

@[simp]
theorem append_performs (extra : Bytes) (effects : List Effect) (conn : Connection) :
    effects.foldl (fun conn effect => conn.perform effect) (conn.append extra) =
      (effects.foldl (fun conn effect => conn.perform effect) conn).append extra := by
  induction effects generalizing conn with
  | nil => rfl
  | cons effect rest ih =>
    rw [List.foldl_cons, List.foldl_cons, append_perform, ih]

end Connection

def commandLength (cmd : AuthCmd) (buf : Bytes) : Nat :=
  match cmd with
  | .logonChallenge => 4 + challengeSize buf
  | .logonProof => sizeofLogonProof
  | .reconnectChallenge => 4 + challengeSize buf
  | .reconnectProof => sizeofReconnectProof
  | .realmList => 5
  | .xferAccept => 1
  | .xferResume => 9
  | .xferCancel => 1

def Complete (cmd : AuthCmd) (conn : Connection) : Prop :=
  commandLength cmd conn.inputBuffer ≤ conn.inputBuffer.length ∧
    match cmd with
    | .logonChallenge => sizeofLogonChallenge - 4 ≤ challengeSize conn.inputBuffer
    | .reconnectChallenge => sizeofLogonChallenge - 4 ≤ challengeSize conn.inputBuffer
    | .xferAccept => conn.auth.pPatch = true
    | .xferResume => conn.auth.pPatch = true
    | _ => True

instance (cmd : AuthCmd) (conn : Connection) : Decidable (Complete cmd conn) :=
  match cmd with
  | .logonChallenge => inferInstanceAs (Decidable (_ ≤ _ ∧ _ ≤ _))
  | .logonProof => inferInstanceAs (Decidable (_ ≤ _ ∧ True))
  | .reconnectChallenge => inferInstanceAs (Decidable (_ ≤ _ ∧ _ ≤ _))
  | .reconnectProof => inferInstanceAs (Decidable (_ ≤ _ ∧ True))
  | .realmList => inferInstanceAs (Decidable (_ ≤ _ ∧ True))
  | .xferAccept => inferInstanceAs (Decidable (_ ≤ _ ∧ conn.auth.pPatch = true))
  | .xferResume => inferInstanceAs (Decidable (_ ≤ _ ∧ conn.auth.pPatch = true))
  | .xferCancel => inferInstanceAs (Decidable (_ ≤ _ ∧ True))

variable {conn after : Connection}

theorem recvChallenge_complete
    (fits : 4 + challengeSize conn.inputBuffer ≤ conn.inputBuffer.length)
    (wide : sizeofLogonChallenge - 4 ≤ challengeSize conn.inputBuffer) :
    recvChallenge conn =
      (some (challengeAt conn.inputBuffer),
        conn.recvSkip (4 + challengeSize conn.inputBuffer)) := by
  unfold sizeofLogonChallenge at wide
  apply recvChallenge_full
  · unfold sizeofLogonChallenge
    omega
  · rintro ⟨_, incomplete⟩
    unfold sizeofLogonChallenge at incomplete
    omega

theorem recv_complete {len : Nat} (enough : len ≤ conn.inputBuffer.length) :
    conn.recv len = some (conn.inputBuffer.take len, conn.recvSkip len) := by
  unfold Connection.recv
  rw [if_neg (show ¬ conn.recvLen < len from Nat.not_lt.mpr enough)]

theorem wrongPassword_append (env : LoginEnv) (extra : Bytes) (conn : Connection) :
    wrongPassword env (conn.append extra) = (wrongPassword env conn).append extra := by
  unfold wrongPassword
  simp only [Connection.append_auth, Connection.append_perform]
  by_cases off : env.wrongPassMaxCount = 0
  · rw [if_pos off, if_pos off]
  · rw [if_neg off, if_neg off]
    split
    · rfl
    · grind

def appendAnswer (extra : Bytes) (answer : Bool × Connection) : Bool × Connection :=
  (answer.1, answer.2.append extra)

theorem handleLogonChallenge_append (sha : Sha1) (env : LoginEnv)
    {ch : LogonChallenge} (extra : Bytes) (received : recvChallenge conn = (some ch, after)) :
    handleLogonChallenge sha env (conn.append extra) =
      appendAnswer extra (handleLogonChallenge sha env conn) := by
  unfold handleLogonChallenge
  rw [recvChallenge_append extra received, received]
  simp only [Connection.append_auth, Connection.append_setAuth, Connection.append_perform,
    Connection.append_performs]
  cases logonVerdict env ch.I with
  | refused code => rfl
  | accepted row => rfl

theorem handleLogonProof_append (sha : Sha1) (env : LoginEnv)
    {buf : Bytes} (extra : Bytes) (received : conn.recv sizeofLogonProof = some (buf, after)) :
    handleLogonProof sha env (conn.append extra) =
      appendAnswer extra (handleLogonProof sha env conn) := by
  unfold handleLogonProof
  rw [recv_append extra received, received]
  simp only [Connection.append_auth, Connection.append_setAuth, Connection.append_perform,
    Connection.append_shutdown, wrongPassword_append]
  split
  · rfl
  · split
    · rfl
    · split <;> rfl

theorem handleReconnectChallenge_append (env : LoginEnv)
    {ch : LogonChallenge} (extra : Bytes) (received : recvChallenge conn = (some ch, after)) :
    handleReconnectChallenge env (conn.append extra) =
      appendAnswer extra (handleReconnectChallenge env conn) := by
  unfold handleReconnectChallenge
  rw [recvChallenge_append extra received, received]
  simp only [Connection.append_auth, Connection.append_setAuth, Connection.append_perform,
    Connection.append_shutdown]
  cases env.sessionKey ch.I with
  | none => rfl
  | some row => rfl

theorem handleReconnectProof_append (sha : Sha1) {buf : Bytes}
    (extra : Bytes) (received : conn.recv sizeofReconnectProof = some (buf, after)) :
    handleReconnectProof sha (conn.append extra) =
      appendAnswer extra (handleReconnectProof sha conn) := by
  unfold handleReconnectProof
  rw [recv_append extra received, received]
  simp only [Connection.append_auth]
  split
  · rfl
  · split <;> rfl

theorem handler_append (sha : Sha1) (env : LoginEnv) (cmd : AuthCmd)
    (extra : Bytes) (complete : Complete cmd conn) :
    handler sha env cmd (conn.append extra) = appendAnswer extra (handler sha env cmd conn) := by
  obtain ⟨fits, present⟩ := complete
  cases cmd with
  | logonChallenge =>
    exact handleLogonChallenge_append sha env extra (recvChallenge_complete fits present)
  | logonProof => exact handleLogonProof_append sha env extra (recv_complete fits)
  | reconnectChallenge =>
    exact handleReconnectChallenge_append env extra (recvChallenge_complete fits present)
  | reconnectProof => exact handleReconnectProof_append sha extra (recv_complete fits)
  | realmList =>
    have five : 5 ≤ conn.inputBuffer.length := fits
    have longer : ¬ (conn.append extra).recvLen < 5 := by
      grind [Connection.recvLen, Connection.append, List.length_append]
    simp only [handler, handleRealmList]
    rw [if_neg longer, if_neg (show ¬ conn.recvLen < 5 from Nat.not_lt.mpr five),
      Connection.append_recvSkip five]
    simp only [Connection.append_auth, Connection.append_shutdown, Connection.append_perform]
    split <;> rfl
  | xferAccept =>
    have one : 1 ≤ conn.inputBuffer.length := fits
    have patch : ¬ conn.auth.pPatch = false := by simp [present]
    simp only [handler, handleXferAccept, Connection.append_auth]
    rw [if_neg patch, if_neg patch, Connection.append_recvSkip one]
    rfl
  | xferResume =>
    have nine : 9 ≤ conn.inputBuffer.length := fits
    have patch : ¬ conn.auth.pPatch = false := by simp [present]
    have ready : ¬ (conn.recvLen < 9 ∨ conn.auth.pPatch = false) :=
      not_or.mpr ⟨Nat.not_lt.mpr nine, patch⟩
    have stillReady : ¬ ((conn.append extra).recvLen < 9 ∨ conn.auth.pPatch = false) := by
      grind [Connection.recvLen, Connection.append, List.length_append]
    simp only [handler, handleXferResume, Connection.append_auth]
    rw [if_neg ready, if_neg stillReady, Connection.append_recvSkip (by omega),
      Connection.append_recvSkip (by simp only [Connection.recvSkip, List.length_drop]; omega)]
    rfl
  | xferCancel =>
    have one : 1 ≤ conn.inputBuffer.length := fits
    simp only [handler, handleXferCancel]
    rw [Connection.append_recvSkip one, Connection.append_shutdown]
    rfl

theorem performs_eq (effects : List Effect) (conn : Connection) :
    effects.foldl (fun conn effect => conn.perform effect) conn =
      { conn with effects := conn.effects ++ effects } := by
  induction effects generalizing conn with
  | nil => simp
  | cons effect rest ih =>
    rw [List.foldl_cons, ih]
    simp [Connection.perform]

theorem wrongPassword_eq (env : LoginEnv) (conn : Connection) :
    ∃ effects, wrongPassword env conn = { conn with effects := conn.effects ++ effects } := by
  unfold wrongPassword
  split
  · exact ⟨[], by simp⟩
  · dsimp only
    split
    · exact ⟨_, rfl⟩
    · grind [Connection.perform, List.append_assoc]

theorem challengeCut_or_short
    (incomplete : ¬ (4 + challengeSize conn.inputBuffer ≤ conn.inputBuffer.length ∧
      sizeofLogonChallenge - 4 ≤ challengeSize conn.inputBuffer)) :
    recvChallenge conn = (none, conn) ∨
      (challengeCut conn.inputBuffer ∧ recvChallenge conn = (none, conn.recvSkip 4)) := by
  rcases recvChallenge_cases conn with ⟨_, waits⟩ | ⟨cut, taken⟩ | ⟨long, whole, _⟩
  · exact Or.inl waits
  · exact Or.inr ⟨cut, taken⟩
  · exfalso
    apply whole
    refine ⟨long, ?_⟩
    omega

theorem recv_incomplete {len : Nat}
    (missing : ¬ len ≤ conn.inputBuffer.length) : conn.recv len = none := by
  unfold Connection.recv
  rw [if_pos (show conn.recvLen < len from Nat.not_le.mp missing)]

theorem handler_incomplete (sha : Sha1) (env : LoginEnv) (cmd : AuthCmd)
    (nonempty : conn.inputBuffer ≠ []) (incomplete : ¬ Complete cmd conn) :
    handler sha env cmd conn = (false, conn) ∨
      ((cmd = .logonChallenge ∨ cmd = .reconnectChallenge) ∧ challengeCut conn.inputBuffer ∧
        handler sha env cmd conn = (false, conn.recvSkip 4)) := by
  have one : 1 ≤ conn.inputBuffer.length := List.length_pos_iff.mpr nonempty
  cases cmd with
  | logonChallenge =>
    rcases challengeCut_or_short incomplete with waits | ⟨cut, taken⟩
    · exact Or.inl (by simp only [handler, handleLogonChallenge, waits])
    · exact Or.inr ⟨Or.inl rfl, cut, by simp only [handler, handleLogonChallenge, taken]⟩
  | logonProof =>
    have missing : conn.recv sizeofLogonProof = none :=
      recv_incomplete fun enough => incomplete ⟨enough, trivial⟩
    exact Or.inl (by simp only [handler, handleLogonProof, missing])
  | reconnectChallenge =>
    rcases challengeCut_or_short incomplete with waits | ⟨cut, taken⟩
    · exact Or.inl (by simp only [handler, handleReconnectChallenge, waits])
    · exact Or.inr ⟨Or.inr rfl, cut, by simp only [handler, handleReconnectChallenge, taken]⟩
  | reconnectProof =>
    have missing : conn.recv sizeofReconnectProof = none :=
      recv_incomplete fun enough => incomplete ⟨enough, trivial⟩
    exact Or.inl (by simp only [handler, handleReconnectProof, missing])
  | realmList =>
    have short : conn.recvLen < 5 := by
      by_contra enough
      exact incomplete ⟨Nat.not_lt.mp enough, trivial⟩
    exact Or.inl (by simp only [handler, handleRealmList, if_pos short])
  | xferAccept =>
    have noPatch : conn.auth.pPatch = false := by
      by_contra patch
      exact incomplete ⟨one, Bool.eq_true_of_not_eq_false patch⟩
    exact Or.inl (by simp only [handler, handleXferAccept, if_pos noPatch])
  | xferResume =>
    have waiting : conn.recvLen < 9 ∨ conn.auth.pPatch = false := by
      by_contra ready
      rw [not_or] at ready
      exact incomplete ⟨Nat.not_lt.mp ready.1, Bool.eq_true_of_not_eq_false ready.2⟩
    exact Or.inl (by simp only [handler, handleXferResume, if_pos waiting])
  | xferCancel => exact absurd ⟨one, trivial⟩ incomplete

/-- The header of a cut challenge is lost; a proof or a cancelled transfer shuts
the connection down although the handler answers true; a reconnect proof without
a challenge is consumed although the handler answers false. -/
def Disturbs (cmd : AuthCmd) (conn : Connection) : Prop :=
  match cmd with
  | .logonChallenge => challengeCut conn.inputBuffer
  | .reconnectChallenge => challengeCut conn.inputBuffer
  | .logonProof =>
    sizeofLogonProof ≤ conn.inputBuffer.length ∧
      (conn.auth.expversion = noValidExpFlag ∨
        isZero (setBinary (LogonProof.ofBuffer (conn.inputBuffer.take sizeofLogonProof)).A))
  | .reconnectProof =>
    sizeofReconnectProof ≤ conn.inputBuffer.length ∧ noReconnectData conn.auth
  | .realmList => False
  | .xferAccept => False
  | .xferResume => False
  | .xferCancel => True

instance : ∀ (cmd : AuthCmd) (conn : Connection), Decidable (Disturbs cmd conn)
  | .logonChallenge, conn => inferInstanceAs (Decidable (challengeCut conn.inputBuffer))
  | .reconnectChallenge, conn => inferInstanceAs (Decidable (challengeCut conn.inputBuffer))
  | .logonProof, conn => inferInstanceAs (Decidable (_ ∧ (conn.auth.expversion = _ ∨ _)))
  | .reconnectProof, conn => inferInstanceAs (Decidable (_ ∧ noReconnectData conn.auth))
  | .realmList, _ => inferInstanceAs (Decidable False)
  | .xferAccept, _ => inferInstanceAs (Decidable False)
  | .xferResume, _ => inferInstanceAs (Decidable False)
  | .xferCancel, _ => inferInstanceAs (Decidable True)

theorem handler_waits (sha : Sha1) (env : LoginEnv) {cmd : AuthCmd}
    (nonempty : conn.inputBuffer ≠ []) (calm : ¬ Disturbs cmd conn)
    (incomplete : ¬ Complete cmd conn) : handler sha env cmd conn = (false, conn) := by
  rcases handler_incomplete sha env cmd nonempty incomplete with waits | ⟨challenge, cut, _⟩
  · exact waits
  · rcases challenge with rfl | rfl <;> exact absurd cut calm

theorem handler_complete (sha : Sha1) (env : LoginEnv) {cmd : AuthCmd}
    (complete : Complete cmd conn) :
    (handler sha env cmd conn).2.inputBuffer =
        conn.inputBuffer.drop (commandLength cmd conn.inputBuffer) ∧
      (¬ Disturbs cmd conn →
        (handler sha env cmd conn).2.reading =
          ((handler sha env cmd conn).1 && conn.reading)) := by
  obtain ⟨fits, present⟩ := complete
  cases cmd with
  | logonChallenge =>
    simp only [handler, handleLogonChallenge, recvChallenge_complete fits present]
    split
    · exact ⟨rfl, fun _ => rfl⟩
    · rw [performs_eq]
      exact ⟨rfl, fun _ => rfl⟩
  | logonProof =>
    have received : conn.recv sizeofLogonProof = some (_, conn.recvSkip sizeofLogonProof) :=
      recv_complete fits
    simp only [handler, handleLogonProof, received]
    split
    · rename_i invalid
      exact ⟨rfl, fun calm => absurd ⟨fits, Or.inl invalid⟩ calm⟩
    · split
      · rename_i zero
        exact ⟨rfl, fun calm => absurd ⟨fits, Or.inr zero⟩ calm⟩
      · split
        · exact ⟨rfl, fun _ => rfl⟩
        · obtain ⟨effects, same⟩ := wrongPassword_eq env
            (((conn.recvSkip sizeofLogonProof).setAuth _).perform _)
          rw [same]
          exact ⟨rfl, fun _ => rfl⟩
  | reconnectChallenge =>
    simp only [handler, handleReconnectChallenge, recvChallenge_complete fits present]
    split <;> exact ⟨rfl, fun _ => rfl⟩
  | reconnectProof =>
    have received : conn.recv sizeofReconnectProof = some (_, conn.recvSkip sizeofReconnectProof) :=
      recv_complete fits
    simp only [handler, handleReconnectProof, received]
    split
    · rename_i empty
      exact ⟨rfl, fun calm => absurd ⟨fits, empty⟩ calm⟩
    · split <;> exact ⟨rfl, fun _ => rfl⟩
  | realmList =>
    simp only [handler, handleRealmList]
    rw [if_neg (show ¬ conn.recvLen < 5 from Nat.not_lt.mpr fits)]
    split <;> exact ⟨rfl, fun _ => rfl⟩
  | xferAccept =>
    simp only [handler, handleXferAccept]
    rw [if_neg (by simp [present])]
    exact ⟨rfl, fun _ => rfl⟩
  | xferResume =>
    have patch : ¬ conn.auth.pPatch = false := by simp [present]
    have ready : ¬ (conn.recvLen < 9 ∨ conn.auth.pPatch = false) :=
      not_or.mpr ⟨Nat.not_lt.mpr fits, patch⟩
    simp only [handler, handleXferResume]
    rw [if_neg ready]
    simp only [Connection.recvSkip, List.drop_drop]
    exact ⟨rfl, fun _ => rfl⟩
  | xferCancel => exact ⟨rfl, fun calm => absurd trivial calm⟩

theorem commandLength_pos (cmd : AuthCmd) (buf : Bytes) : 0 < commandLength cmd buf := by
  cases cmd <;> simp only [commandLength, sizeofLogonProof, sizeofReconnectProof] <;> omega

theorem handler_shorter (sha : Sha1) (env : LoginEnv) {cmd : AuthCmd}
    (complete : Complete cmd conn) :
    (handler sha env cmd conn).2.inputBuffer.length < conn.inputBuffer.length := by
  have positive := commandLength_pos cmd conn.inputBuffer
  have fits := complete.1
  rw [(handler_complete sha env complete).1, List.length_drop]
  omega

theorem handler_stuck (sha : Sha1) (env : LoginEnv) {cmd : AuthCmd} {buffered : Connection}
    (long : sizeofLogonProof ≤ conn.inputBuffer.length) (calm : ¬ Disturbs cmd conn)
    (incomplete : ¬ Complete cmd conn) (sameAuth : buffered.auth = conn.auth) :
    handler sha env cmd buffered = (false, buffered) := by
  unfold sizeofLogonProof at long
  have fits (len : Nat) (small : len ≤ 75) : len ≤ conn.inputBuffer.length :=
    le_trans small long
  have noChallenge (whole : ¬ challengeCut conn.inputBuffer) :
      4 + challengeSize conn.inputBuffer ≤ conn.inputBuffer.length ∧
        sizeofLogonChallenge - 4 ≤ challengeSize conn.inputBuffer := by
    by_contra missing
    apply whole
    refine ⟨?_, ?_⟩
    · unfold sizeofLogonChallenge
      omega
    · omega
  cases cmd with
  | logonChallenge | reconnectChallenge => exact absurd (noChallenge calm) incomplete
  | logonProof => exact absurd ⟨long, trivial⟩ incomplete
  | reconnectProof => exact absurd ⟨fits 58 (by decide), trivial⟩ incomplete
  | realmList => exact absurd ⟨fits 5 (by decide), trivial⟩ incomplete
  | xferAccept =>
    have noPatch : conn.auth.pPatch = false := by
      by_contra patch
      exact incomplete ⟨fits 1 (by decide), Bool.eq_true_of_not_eq_false patch⟩
    simp only [handler, handleXferAccept, sameAuth, if_pos noPatch]
  | xferResume =>
    have noPatch : conn.auth.pPatch = false := by
      by_contra patch
      exact incomplete ⟨fits 9 (by decide), Bool.eq_true_of_not_eq_false patch⟩
    simp only [handler, handleXferResume, sameAuth, if_pos (Or.inr noPatch)]
  | xferCancel => exact absurd trivial calm

end DarkCore.Auth
