/-
Which challenge a successful proof answers.

The handlers share the session's fields and keep no protocol state, so nothing
stops a proof from meeting what another challenge left behind.  `Orderly` says
when none does: every challenge handled was one to be answered with success, and
every proof comes while the latest challenge is of its kind.
-/

import DarkCore.Auth.Dispatch

namespace DarkCore.Auth

open Lib
open BigNumber

def isChallenge (cmd : AuthCmd) : Bool := cmd == .logonChallenge || cmd == .reconnectChallenge

def handledChallenge (call : Call) : Bool :=
  isChallenge call.cmd && decide (Complete call.cmd call.before)

def lastChallenge (calls : List Call) : Option Call :=
  calls.foldl (fun last call => if handledChallenge call then some call else last) none

def challengeName (challenge : Call) : Bytes := (challengeAt challenge.before.inputBuffer).I

def accepts (env : LoginEnv) (login : Bytes) : Bool :=
  match logonVerdict env login with
  | .refused _ => false
  | .accepted _ => true

def challengeFor : AuthCmd → AuthCmd
  | .reconnectProof => .reconnectChallenge
  | _ => .logonChallenge

def secrets : AuthCmd → AuthSocket → List Nat
  | .logonChallenge, auth => [auth.b, auth.B, auth.v, auth.s]
  | .reconnectChallenge, auth => [auth.reconnectProof, auth.K]
  | _, _ => []

def sessionAfter (sha : Sha1) (challenge : Call) (auth : AuthSocket) : AuthSocket :=
  (handler sha challenge.env challenge.cmd (challenge.before.setAuth auth)).2.auth

/-- The session belongs to the account named in the challenge and holds the
secrets that the challenge sets up, whatever the session held before. -/
structure SetUpBy (sha : Sha1) (challenge : Call) (auth : AuthSocket) : Prop where
  login : auth.login = challengeName challenge
  secrets : ∀ other,
    secrets challenge.cmd auth = secrets challenge.cmd (sessionAfter sha challenge other)

def isProof (cmd : AuthCmd) : Bool := cmd == .logonProof || cmd == .reconnectProof

def clearAuthed (conn : Connection) : Connection :=
  conn.setAuth { conn.auth with authed := false }

/-- The call is a proof that sets `_authed`, also where it was set before. -/
def setsAuthed (sha : Sha1) (call : Call) : Bool :=
  isProof call.cmd && (handler sha call.env call.cmd (clearAuthed call.before)).2.auth.authed

def AnswersOwnChallenge (sha : Sha1) (earlier : List Call) (call : Call) : Prop :=
  ∃ challenge, lastChallenge earlier = some challenge ∧
    challenge.cmd = challengeFor call.cmd ∧
    accepts challenge.env (challengeName challenge) = true ∧
    SetUpBy sha challenge call.before.auth

def readableKeys (row : AccountRow) : Bool :=
  row.v.length != sByteSize * 2 || row.s.length != sByteSize * 2 ||
    (!(hexPrefix row.v).isEmpty && !(hexPrefix row.s).isEmpty)

def soundChallenge (call : Call) : Bool :=
  match call.cmd with
  | .reconnectChallenge =>
    accepts call.env (challengeName call) &&
      match call.env.sessionKey (challengeName call) with
      | none => false
      | some row => !(hexPrefix row.sessionkey).isEmpty
  | _ =>
    match logonVerdict call.env (challengeName call) with
    | .refused _ => false
    | .accepted row => readableKeys row

def orderlyCall (last : Option Call) (call : Call) : Bool :=
  (!handledChallenge call || soundChallenge call) &&
    (!(isProof call.cmd && decide (Complete call.cmd call.before)) ||
      last.map (·.cmd) == some (challengeFor call.cmd))

def orderlyFrom : Option Call → List Call → Bool
  | _, [] => true
  | last, call :: rest =>
    orderlyCall last call &&
      orderlyFrom (if handledChallenge call then some call else last) rest

def orderly (calls : List Call) : Bool := orderlyFrom none calls

theorem setHexStr_of_digits {str : Bytes} (digits : (hexPrefix str).isEmpty = false)
    (old other : Nat) : setHexStr old str = setHexStr other str := by
  unfold setHexStr
  cases read : hexPrefix str with
  | nil =>
    simp_all
  | cons digit rest => rfl

theorem loadVSFields_keys (sha : Sha1) (env : LoginEnv) {row : AccountRow}
    (readable : readableKeys row = true) (auth other : AuthSocket) :
    (loadVSFields sha env row auth).1.v = (loadVSFields sha env row other).1.v ∧
      (loadVSFields sha env row auth).1.s = (loadVSFields sha env row other).1.s := by
  unfold loadVSFields
  split
  · exact ⟨rfl, rfl⟩
  · next stored =>
      rw [not_or, not_not, not_not] at stored
      have digits : (hexPrefix row.v).isEmpty = false ∧ (hexPrefix row.s).isEmpty = false := by
        simpa [readableKeys, stored] using readable
      exact ⟨setHexStr_of_digits digits.1 _ _, setHexStr_of_digits digits.2 _ _⟩

theorem secrets_chooseB (sha : Sha1) (env : LoginEnv) {row : AccountRow}
    (readable : readableKeys row = true) (auth other : AuthSocket) :
    secrets .logonChallenge (chooseB env (loadVSFields sha env row auth).1) =
      secrets .logonChallenge (chooseB env (loadVSFields sha env row other).1) := by
  obtain ⟨sameV, sameS⟩ := loadVSFields_keys sha env readable auth other
  simp only [secrets, chooseB, sameV, sameS]

theorem loadVSFields_login (sha : Sha1) (env : LoginEnv) (row : AccountRow) (auth : AuthSocket) :
    (loadVSFields sha env row auth).1.login = auth.login := by
  unfold loadVSFields
  split <;> rfl

def namedSession (conn : Connection) : AuthSocket :=
  { conn.auth with
    login := (challengeAt conn.inputBuffer).I
    build := (challengeAt conn.inputBuffer).build
    expversion := logonExpversion (challengeAt conn.inputBuffer).build }

def acceptedSession (sha : Sha1) (env : LoginEnv) (row : AccountRow) (conn : Connection) :
    AuthSocket :=
  { chooseB env (loadVSFields sha env row (namedSession conn)).1 with
    accountSecurityLevel := min row.gmlevel secAdministrator
    localizationName := (challengeAt conn.inputBuffer).country.reverse }

variable {conn : Connection} {call : Call} {last : Option Call}

theorem handleLogonChallenge_accepted (sha : Sha1) {env : LoginEnv}
    {row : AccountRow} (complete : Complete .logonChallenge conn)
    (verdict : logonVerdict env (challengeAt conn.inputBuffer).I = .accepted row) :
    handleLogonChallenge sha env conn =
      (true, { conn with
          auth := acceptedSession sha env row conn
          inputBuffer := conn.inputBuffer.drop (4 + challengeSize conn.inputBuffer)
          effects := conn.effects ++ (loadVSFields sha env row (namedSession conn)).2 ++
            [.send (challengeResponse env (acceptedSession sha env row conn))] }) := by
  obtain ⟨fits, wide⟩ := complete
  simp only [handleLogonChallenge, recvChallenge_complete fits wide, verdict, performs_eq]
  rfl

theorem handleReconnectChallenge_known {env : LoginEnv}
    {row : SessionKeyRow} (complete : Complete .reconnectChallenge conn)
    (known : env.sessionKey (challengeAt conn.inputBuffer).I = some row) :
    (handleReconnectChallenge env conn).2.auth.login = (challengeAt conn.inputBuffer).I ∧
      secrets .reconnectChallenge (handleReconnectChallenge env conn).2.auth =
        [env.randReconnect, setHexStr conn.auth.K row.sessionkey] := by
  obtain ⟨fits, wide⟩ := complete
  simp only [handleReconnectChallenge, recvChallenge_complete fits wide, known]
  exact ⟨rfl, rfl⟩

theorem complete_setAuth {cmd : AuthCmd} (challenge : isChallenge cmd = true)
    (auth : AuthSocket) (complete : Complete cmd conn) : Complete cmd (conn.setAuth auth) := by
  cases cmd with
  | logonChallenge | reconnectChallenge => exact complete
  | _ => cases challenge

theorem soundChallenge_setUp {sha : Sha1} (faithful : call.Faithful sha)
    (handled : handledChallenge call = true) (sound : soundChallenge call = true) :
    SetUpBy sha call call.after.auth := by
  obtain ⟨cmd, env, conn, ok, after⟩ := call
  obtain ⟨nonempty, answer⟩ := faithful
  simp only [handledChallenge, Bool.and_eq_true, decide_eq_true_eq] at handled
  obtain ⟨challenge, complete⟩ := handled
  have afterEq : after = (handler sha env cmd conn).2 := (congrArg Prod.snd answer).symm
  have completeFrom (other : AuthSocket) := complete_setAuth challenge other complete
  subst afterEq
  cases cmd with
  | logonChallenge =>
    cases verdict : logonVerdict env (challengeAt conn.inputBuffer).I with
    | refused code => simp [soundChallenge, challengeName, verdict] at sound
    | accepted row =>
      have readable : readableKeys row = true := by
        simpa [soundChallenge, challengeName, verdict] using sound
      have answered := handleLogonChallenge_accepted sha complete verdict
      refine ⟨?_, ?_⟩
      · simp only [handler, answered]
        exact loadVSFields_login sha env row (namedSession conn)
      · intro other
        have otherAnswered := handleLogonChallenge_accepted sha (completeFrom other) verdict
        simp only [sessionAfter, handler, answered, otherAnswered]
        exact secrets_chooseB sha env readable _ _
  | reconnectChallenge =>
    simp only [soundChallenge, challengeName, Bool.and_eq_true] at sound
    cases known : env.sessionKey (challengeAt conn.inputBuffer).I with
    | none => simp [known] at sound
    | some row =>
      have digits : (hexPrefix row.sessionkey).isEmpty = false := by
        simpa [known] using sound.2
      obtain ⟨login, own⟩ := handleReconnectChallenge_known complete known
      refine ⟨login, ?_⟩
      intro other
      obtain ⟨_, otherSecrets⟩ := handleReconnectChallenge_known (completeFrom other) known
      refine own.trans (Eq.trans ?_ otherSecrets.symm)
      rw [setHexStr_of_digits digits]
  | _ => cases challenge

/-- Outside a handled challenge the name and the logon secrets stay, and the
reconnect secrets stay too unless a logon proof replaces the session key. -/
theorem handler_frame (sha : Sha1) (env : LoginEnv) (cmd : AuthCmd)
    (nonempty : conn.inputBuffer ≠ []) (other : ¬ (isChallenge cmd = true ∧ Complete cmd conn)) :
    (handler sha env cmd conn).2.auth.login = conn.auth.login ∧
      secrets .logonChallenge (handler sha env cmd conn).2.auth =
        secrets .logonChallenge conn.auth ∧
      ((cmd = .logonProof ∧ Complete cmd conn) ∨
        secrets .reconnectChallenge (handler sha env cmd conn).2.auth =
          secrets .reconnectChallenge conn.auth) := by
  by_cases complete : Complete cmd conn
  · have fits := complete.1
    cases cmd with
    | logonChallenge | reconnectChallenge => exact absurd ⟨rfl, complete⟩ other
    | logonProof =>
      have received : conn.recv sizeofLogonProof = some (_, conn.recvSkip sizeofLogonProof) :=
        recv_complete fits
      refine and_assoc.mp ⟨?_, Or.inl ⟨rfl, complete⟩⟩
      simp only [handler, handleLogonProof, received]
      split
      · exact ⟨rfl, rfl⟩
      · split
        · exact ⟨rfl, rfl⟩
        · split
          · exact ⟨rfl, rfl⟩
          · obtain ⟨effects, same⟩ := wrongPassword_eq env
              (((conn.recvSkip sizeofLogonProof).setAuth _).perform _)
            rw [same]
            exact ⟨rfl, rfl⟩
    | reconnectProof =>
      have received : conn.recv sizeofReconnectProof =
          some (_, conn.recvSkip sizeofReconnectProof) := recv_complete fits
      simp only [handler, handleReconnectProof, received]
      split
      · exact ⟨rfl, rfl, Or.inr rfl⟩
      · split <;> exact ⟨rfl, rfl, Or.inr rfl⟩
    | realmList =>
      simp only [handler, handleRealmList]
      rw [if_neg (show ¬ conn.recvLen < 5 from Nat.not_lt.mpr fits)]
      split <;> exact ⟨rfl, rfl, Or.inr rfl⟩
    | xferAccept =>
      simp only [handler, handleXferAccept]
      split <;> exact ⟨rfl, rfl, Or.inr rfl⟩
    | xferResume =>
      simp only [handler, handleXferResume]
      split <;> exact ⟨rfl, rfl, Or.inr rfl⟩
    | xferCancel => exact ⟨rfl, rfl, Or.inr rfl⟩
  · rcases handler_incomplete sha env cmd nonempty complete with waits | ⟨_, _, cut⟩
    · simp [waits]
    · rw [cut]
      exact ⟨rfl, rfl, Or.inr rfl⟩

def Current (sha : Sha1) (last : Option Call) (auth : AuthSocket) : Prop :=
  ∀ challenge, last = some challenge →
    handledChallenge challenge = true ∧ soundChallenge challenge = true ∧
      SetUpBy sha challenge auth

theorem orderlyCall_sound
    (ordered : orderlyCall last call = true) (handled : handledChallenge call = true) :
    soundChallenge call = true := by
  simp only [orderlyCall, handled, Bool.not_true, Bool.false_or, Bool.and_eq_true] at ordered
  exact ordered.1

theorem orderlyCall_proof
    (ordered : orderlyCall last call = true) (proof : isProof call.cmd = true)
    (complete : Complete call.cmd call.before) :
    ∃ challenge, last = some challenge ∧ challenge.cmd = challengeFor call.cmd := by
  simp only [orderlyCall, proof, complete, decide_true, Bool.and_self, Bool.not_true,
    Bool.false_or, Bool.and_eq_true, beq_iff_eq, Option.map_eq_some_iff] at ordered
  exact ordered.2

theorem soundChallenge_accepts (sound : soundChallenge call = true) :
    accepts call.env (challengeName call) = true := by
  unfold soundChallenge at sound
  split at sound
  · exact (Bool.and_eq_true_iff.mp sound).1
  · grind [accepts]

theorem Current.step {sha : Sha1}
    (current : Current sha last call.before.auth) (faithful : call.Faithful sha)
    (ordered : orderlyCall last call = true) :
    Current sha (if handledChallenge call then some call else last) call.after.auth := by
  by_cases handled : handledChallenge call = true
  · have sound := orderlyCall_sound ordered handled
    rw [if_pos handled]
    intro challenge this
    cases this
    exact ⟨handled, sound, soundChallenge_setUp faithful handled sound⟩
  · rw [if_neg handled]
    intro challenge isLast
    obtain ⟨wasHandled, wasSound, setUp⟩ := current challenge isLast
    have notChallenge : ¬ (isChallenge call.cmd = true ∧ Complete call.cmd call.before) := by
      simpa [handledChallenge] using handled
    obtain ⟨login, logonSame, reconnectSame⟩ :=
      handler_frame sha call.env call.cmd faithful.1 notChallenge
    rw [faithful.2] at login logonSame reconnectSame
    refine ⟨wasHandled, wasSound, login.trans setUp.login, ?_⟩
    have sameSecrets : secrets challenge.cmd call.after.auth =
        secrets challenge.cmd call.before.auth := by
      cases kind : challenge.cmd with
      | logonChallenge => exact logonSame
      | reconnectChallenge =>
        rcases reconnectSame with ⟨proof, complete⟩ | same
        · -- A logon proof would have to find a logon challenge before it.
          obtain ⟨found, lastFound, foundKind⟩ :=
            orderlyCall_proof ordered (by rw [proof]; rfl) (proof ▸ complete)
          rw [isLast] at lastFound
          cases lastFound
          rw [proof, kind] at foundKind
          cases foundKind
        · exact same
      | _ => rfl
    intro other
    rw [sameSecrets]
    exact setUp.secrets other

theorem orderlyFrom_current {sha : Sha1} {auth final : AuthSocket}
    {earlier later : List Call} (current : Current sha last auth)
    (chained : Chained sha auth (earlier ++ call :: later) final)
    (ordered : orderlyFrom last (earlier ++ [call]) = true) :
    ∃ latest, latest = earlier.foldl
        (fun last call => if handledChallenge call then some call else last) last ∧
      Current sha latest call.before.auth ∧ orderlyCall latest call = true := by
  induction earlier generalizing last auth with
  | nil =>
    obtain ⟨start, _, _⟩ := chained
    rw [← start] at current
    simp only [List.nil_append, orderlyFrom, Bool.and_true] at ordered
    exact ⟨last, rfl, current, ordered⟩
  | cons first rest ih =>
    obtain ⟨start, faithful, more⟩ := chained
    rw [← start] at current
    simp only [List.cons_append, orderlyFrom, Bool.and_eq_true] at ordered
    exact ih (current.step faithful ordered.1) more ordered.2

theorem setsAuthed_complete {sha : Sha1} (nonempty : call.before.inputBuffer ≠ [])
    (sets : setsAuthed sha call = true) :
    isProof call.cmd = true ∧ Complete call.cmd call.before := by
  simp only [setsAuthed, Bool.and_eq_true] at sets
  refine ⟨sets.1, ?_⟩
  by_contra incomplete
  have cleared : ¬ Complete call.cmd (clearAuthed call.before) := by
    unfold Complete at incomplete ⊢
    cases kind : call.cmd <;> simp only [kind] at incomplete ⊢ <;> exact incomplete
  have stillThere : (clearAuthed call.before).inputBuffer ≠ [] := nonempty
  rcases handler_incomplete sha call.env call.cmd stillThere cleared with waits | ⟨_, _, cut⟩
  · rw [waits] at sets
    cases sets.2
  · rw [cut] at sets
    cases sets.2

/-- In every run that is orderly up to a call that sets `_authed`, the last
challenge before the call is of the call's kind, was accepted for the account
whose name the session holds, and set up the secrets of the session. -/
theorem proof_answers_own_challenge (sha : Sha1) (envs : Nat → LoginEnv) (auth : AuthSocket)
    (chunks : List Bytes) (earlier later : List Call) (call : Call)
    (record : (runInput sha envs chunks (Server.initial auth)).calls = earlier ++ call :: later)
    (ordered : orderly (earlier ++ [call]) = true) (sets : setsAuthed sha call = true) :
    AnswersOwnChallenge sha earlier call := by
  have chained := runInput_chained sha envs auth chunks
  rw [record] at chained
  have fresh : Current sha none auth := by
    intro challenge none
    cases none
  obtain ⟨latest, isLatest, current, inOrder⟩ := orderlyFrom_current fresh chained ordered
  have member : call ∈ earlier ++ call :: later :=
    List.mem_append_right _ List.mem_cons_self
  obtain ⟨proof, complete⟩ := setsAuthed_complete (chained.faithful call member).1 sets
  obtain ⟨challenge, last, kind⟩ := orderlyCall_proof inOrder proof complete
  obtain ⟨_, sound, setUp⟩ := current challenge last
  exact ⟨challenge, isLatest.symm.trans last, kind, soundChallenge_accepts sound, setUp⟩

/-- The account `AB`, and the same keys under the banned name `CD`. -/
def accountRow (id : Nat) : AccountRow where
  shaPassHash := hexText 40 0xBD48CA21782ADD54EB5A310116FE01732D0D35D9
  id := id
  locked := 0
  lastIp := []
  gmlevel := 0
  v := hexText 64 0x5FDCF085B4F09304F6D6E113E4A3CF3D8A8A49CDA1E64DFFE7436DC506F190FF
  s := hexText 64 0xD23F0824128B2F330C5C7FD0A6A3A4506513270E269E0D37F2A74DE452E6B438

def accountEnv : LoginEnv :=
  { bannedEnv with
    ipBanned := false
    logonChallenge := fun login =>
      if login = [0x41, 0x42] then some (accountRow 1)
      else if login = [0x43, 0x44] then some (accountRow 2)
      else none
    accBanned := fun id => if id = 2 then some (0, 1) else none
    randB := 0x1600A3099950D836F675CC81E74EF5E8E25D94 }

def challengeCD : Bytes := challengeAB.take 34 ++ [0x43, 0x44]

/-- A proof message with the client value of `AB`. -/
def proofMessage (M1 : Nat) : Bytes :=
  [AuthCmd.logonProof.code] ++
    leBytes 32 0x37B70BC0010147DC59AA274BC8CC90E59AA54A41D313986E2A99902C980C3243 ++
    leBytes 20 M1 ++ List.replicate 22 0

def loginStream : Bytes := challengeAB ++ proofMessage 0xE4D7DC3ADC52723555DB0131AE35200FA7C35CE

/-- The challenge for `AB`, one for `CD`, and the proof made out to `CD`. -/
def otherNameStream : Bytes :=
  challengeAB ++ challengeCD ++ proofMessage 0xD51E438D7D04275BE837168E6B8FD98A64C11738

def callsOf (stream : Bytes) : List Call :=
  (runInput sha1 (fun _ => accountEnv) [stream]
    (Server.initial (AuthSocket.initial 0 0 false))).calls

theorem proof_answers_own_challenge_AB :
    ∃ challenge proof, callsOf loginStream = [challenge, proof] ∧
      setsAuthed sha1 proof = true ∧ AnswersOwnChallenge sha1 [challenge] proof := by
  have run : (callsOf loginStream).map (setsAuthed sha1) = [false, true] ∧
      orderly (callsOf loginStream) = true := by
    decide +kernel
  obtain ⟨flags, ordered⟩ := run
  have two : (callsOf loginStream).length = 2 := by
    simpa using congrArg List.length flags
  obtain ⟨challenge, proof, record⟩ := List.length_eq_two.mp two
  rw [record] at flags ordered
  have sets : setsAuthed sha1 proof = true := by
    simpa using congrArg List.getLast? flags
  exact ⟨challenge, proof, record, sets,
    proof_answers_own_challenge sha1 (fun _ => accountEnv) (AuthSocket.initial 0 0 false)
      [loginStream] [challenge] [] proof record ordered sets⟩

/-- The refused challenge for the banned account leaves the keys of the first one,
and the proof is accepted under the banned name. -/
theorem proof_accepted_for_refused_account :
    ¬ ∀ (sha : Sha1) (envs : Nat → LoginEnv) (auth : AuthSocket) (chunks : List Bytes)
      (earlier later : List Call) (call : Call),
      (runInput sha envs chunks (Server.initial auth)).calls = earlier ++ call :: later →
        setsAuthed sha call = true → AnswersOwnChallenge sha earlier call := by
  intro claimed
  have run : (callsOf otherNameStream).map (setsAuthed sha1) = [false, false, true] ∧
      (lastChallenge ((callsOf otherNameStream).take 2)).map
        (fun challenge => accepts challenge.env (challengeName challenge)) = some false := by
    decide +kernel
  obtain ⟨flags, refused⟩ := run
  have three : (callsOf otherNameStream).length = 3 := by
    simpa using congrArg List.length flags
  obtain ⟨first, second, proof, record⟩ := List.length_eq_three.mp three
  rw [record] at flags refused
  have sets : setsAuthed sha1 proof = true := by
    simpa using congrArg List.getLast? flags
  obtain ⟨challenge, last, _, accepted, _⟩ := claimed sha1 (fun _ => accountEnv)
    (AuthSocket.initial 0 0 false) [otherNameStream] [first, second] [] proof record sets
  have taken : List.take 2 [first, second, proof] = [first, second] := rfl
  rw [taken, last, Option.map_some, accepted] at refused
  cases refused

end DarkCore.Auth
