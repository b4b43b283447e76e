/-
A client that knows the password, against the server's two logon handlers.

The client follows SRP6 with the widths that the packets fix.  The server keeps
every quantity as a big number and loses the zero bytes at its high end, so the
two agree when none of the quantities has such a byte (`FullWidths`).
-/

import DarkCore.Auth.Session
import DarkCore.Auth.SrpGroup
import DarkCore.Lib.Srp6

namespace DarkCore.Auth

open Lib
open BigNumber

/-! ### The client -/

structure Hello where
  gameAndVersion : Bytes
  build : Nat
  platformToAddress : Bytes
  login : Bytes
  gameAndVersion_length : gameAndVersion.length = 7
  build_lt : build < 65536
  platformToAddress_length : platformToAddress.length = 20
  login_nonempty : login ≠ []
  login_length : login.length ≤ 65505
  login_noNul : ∀ byte ∈ login, byte ≠ 0

def Hello.packet (hello : Hello) : Bytes :=
  [AuthCmd.logonChallenge.code, 0x08] ++ leBytes 2 (30 + hello.login.length) ++
    hello.gameAndVersion ++ leBytes 2 hello.build ++ hello.platformToAddress ++
    [UInt8.ofNat hello.login.length] ++ hello.login

structure ServerChallenge where
  B : Nat
  g : Nat
  N : Nat
  s : Nat
  deriving DecidableEq, Repr

def ServerChallenge.ofReply (reply : Bytes) : ServerChallenge :=
  { B := ofLeBytes ((reply.drop 3).take 32)
    g := ofLeBytes ((reply.drop 36).take 1)
    N := ofLeBytes ((reply.drop 38).take 32)
    s := ofLeBytes ((reply.drop 70).take 32) }

structure ClientProof where
  A : Nat
  S : Nat
  K : Bytes
  M1 : Bytes
  deriving DecidableEq, Repr

/-- `x` from the salt as 32 bytes and the password digest. -/
def clientX (sha : Sha1) (passwordHash : Bytes) (s : Nat) : Nat :=
  ofLeBytes (sha.digest (leBytes 32 s ++ passwordHash))

/-- `H(N) ⊕ H(g)`. -/
def groupDigest (sha : Sha1) (N g : Nat) : Bytes :=
  xorBytes (sha.digest (leBytes 32 N)) (sha.digest (leBytes 1 g))

def clientProof (sha : Sha1) (login passwordHash : Bytes) (a : Nat) (ch : ServerChallenge) :
    ClientProof :=
  let x := clientX sha passwordHash ch.s
  let A := Srp6.clientPublic ch.N ch.g a
  let u := ofLeBytes (sha.digest (leBytes 32 A ++ leBytes 32 ch.B))
  let S := Srp6.clientSecret ch.N ch.g x a ch.B u
  let K := sessionKeyBytes sha (leBytes 32 S)
  { A := A
    S := S
    K := K
    M1 := sha.digest (groupDigest sha ch.N ch.g ++ sha.digest login ++ leBytes 32 ch.s ++
      leBytes 32 A ++ leBytes 32 ch.B ++ K) }

def ClientProof.packet (proof : ClientProof) : Bytes :=
  [AuthCmd.logonProof.code] ++ leBytes 32 proof.A ++ proof.M1 ++ List.replicate 22 0

/-! ### The run that is to be expected -/

def srpChallenge (sha : Sha1) (passwordHash : Bytes) (s b : Nat) : ServerChallenge :=
  let v := Srp6.verifier srpN srpG (clientX sha passwordHash s)
  { B := Srp6.serverPublic srpN srpG v b, g := srpG, N := srpN, s := s }

structure FullWidths (sha : Sha1) (login passwordHash : Bytes) (s a b : Nat) : Prop where
  salt : 256 ^ 31 ≤ s
  A : 256 ^ 31 ≤ (clientProof sha login passwordHash a (srpChallenge sha passwordHash s b)).A
  B : 256 ^ 31 ≤ (srpChallenge sha passwordHash s b).B
  S : 256 ^ 31 ≤ (clientProof sha login passwordHash a (srpChallenge sha passwordHash s b)).S
  K : 256 ^ 39 ≤
    ofLeBytes (clientProof sha login passwordHash a (srpChallenge sha passwordHash s b)).K
  M1 : 256 ^ 19 ≤
    ofLeBytes (clientProof sha login passwordHash a (srpChallenge sha passwordHash s b)).M1
  group : 256 ^ 19 ≤ ofLeBytes (groupDigest sha srpN srpG)

/-- The account's row: the password digest, and either no usable keys, so that
new ones are made, or the stored salt with its verifier. -/
structure Enrolled (sha : Sha1) (env : LoginEnv) (row : AccountRow) (passwordHash : Bytes)
    (s : Nat) : Prop where
  hash_length : passwordHash.length = 20
  salt_lt : s < 256 ^ 32
  hash : row.shaPassHash = hexText 40 (ofLeBytes passwordHash.reverse)
  keys : ((row.v.length ≠ sByteSize * 2 ∨ row.s.length ≠ sByteSize * 2) ∧ env.randSalt = s) ∨
    (row.s = hexText 64 s ∧
      row.v = hexText 64 (Srp6.verifier srpN srpG (clientX sha passwordHash s)))

/-! ### Reading the client's challenge -/

theorem slice_of_split {whole front middle back : Bytes} {offset width : Nat}
    (split : whole = front ++ (middle ++ back)) (frontLength : front.length = offset)
    (middleLength : middle.length = width) : (whole.drop offset).take width = middle := by
  rw [split, List.drop_left' frontLength, List.take_left' middleLength]

namespace Hello

variable (hello : Hello)

def front : Bytes :=
  [AuthCmd.logonChallenge.code, 0x08] ++ leBytes 2 (30 + hello.login.length) ++
    hello.gameAndVersion ++ leBytes 2 hello.build ++ hello.platformToAddress ++
    [UInt8.ofNat hello.login.length]

theorem front_length : hello.front.length = 34 := by
  simp only [front, List.length_append, List.length_cons, List.length_nil, leBytes_length,
    hello.gameAndVersion_length, hello.platformToAddress_length]

theorem packet_length : hello.packet.length = 34 + hello.login.length := by
  have split : hello.packet = hello.front ++ hello.login := rfl
  rw [split, List.length_append, hello.front_length]

theorem login_positive : 0 < hello.login.length := List.length_pos_iff.mpr hello.login_nonempty

theorem packet_size : challengeSize hello.packet = 30 + hello.login.length := by
  have short := hello.login_length
  have small : 30 + hello.login.length < 256 ^ 2 := by
    omega
  have declared : ((hello.packet.take 4).drop 2).take 2 =
      leBytes 2 (30 + hello.login.length) := rfl
  unfold challengeSize uint16At
  rw [declared, ofLeBytes_leBytes small]

theorem packet_complete {conn : Connection} (buffered : conn.inputBuffer = hello.packet) :
    Complete .logonChallenge conn := by
  have positive := hello.login_positive
  constructor
  · rw [buffered, commandLength, hello.packet_size, hello.packet_length]
    omega
  · rw [buffered]
    simp only [hello.packet_size, sizeofLogonChallenge]
    omega

theorem packet_name : (challengeAt hello.packet).I = hello.login := by
  have whole : hello.packet.take (4 + challengeSize hello.packet) = hello.packet := by
    grind [hello.packet_size, hello.packet_length]
  have name : (hello.packet ++ [0]).drop 34 = hello.login ++ [0] := by
    have split : hello.packet ++ [0] = hello.front ++ (hello.login ++ [0]) := by
      rw [← List.append_assoc]
      rfl
    rw [split]
    exact List.drop_left' hello.front_length
  unfold challengeAt LogonChallenge.ofBuffer cString
  simp only [whole, name]
  rw [List.takeWhile_append_of_pos]
  · simp
  · intro byte member
    simpa using hello.login_noNul byte member

theorem packet_build : (challengeAt hello.packet).build = hello.build := by
  have whole : hello.packet.take (4 + challengeSize hello.packet) = hello.packet := by
    grind [hello.packet_size, hello.packet_length]
  have small : hello.build < 256 ^ 2 := hello.build_lt
  have split : hello.packet ++ [0] =
      ([AuthCmd.logonChallenge.code, 0x08] ++ leBytes 2 (30 + hello.login.length) ++
        hello.gameAndVersion) ++ (leBytes 2 hello.build ++ (hello.platformToAddress ++
          [UInt8.ofNat hello.login.length] ++ hello.login ++ [0])) := by
    simp only [packet, List.append_assoc]
  have elevenBytes : ([AuthCmd.logonChallenge.code, 0x08] ++
      leBytes 2 (30 + hello.login.length) ++ hello.gameAndVersion).length = 11 := by
    simp only [List.length_append, List.length_cons, List.length_nil, leBytes_length,
      hello.gameAndVersion_length]
  unfold challengeAt LogonChallenge.ofBuffer uint16At
  simp only [whole]
  rw [split, List.drop_left' elevenBytes, List.take_left' (leBytes_length 2 _),
    ofLeBytes_leBytes small]

end Hello

/-! ### The account's keys -/

theorem passwordDigest_hexText {passwordHash : Bytes} (length : passwordHash.length = 20) :
    passwordDigest (hexText 40 (ofLeBytes passwordHash.reverse)) = passwordHash := by
  have reversed : passwordHash.reverse.length = 20 := by
    rw [List.length_reverse, length]
  have small : ofLeBytes passwordHash.reverse < 256 ^ 20 := by
    rw [← reversed]
    exact ofLeBytes_lt _
  have read : setHexStr 0 (hexText 40 (ofLeBytes passwordHash.reverse)) =
      ofLeBytes passwordHash.reverse :=
    setHexStr_hexText 0 (lt_of_lt_of_le small (by norm_num))
  have narrow : getNumBytes (ofLeBytes passwordHash.reverse) ≤ 20 :=
    (byteWidth_le_iff _ 20).mpr small
  unfold passwordDigest
  simp only [read, if_pos narrow]
  rw [byteArray_padded small, leBytes_ofLeBytes_of_length reversed, List.reverse_reverse]

theorem getNumBytes_of_full {value : Nat} (full : 256 ^ 31 ≤ value) (fits : value < 256 ^ 32) :
    getNumBytes value = 32 :=
  getNumBytes_of_bounds full fits

theorem srpN_pos : 0 < srpN := by
  decide

theorem powMod_srpN_lt (base exponent : Nat) : powMod base exponent srpN < 256 ^ 32 :=
  lt_trans (Srp6.powMod_lt srpN_pos base exponent) srpN_lt

theorem loadVSFields_enrolled {sha : Sha1} {env : LoginEnv} {row : AccountRow}
    {passwordHash : Bytes} {s : Nat} (enrolled : Enrolled sha env row passwordHash s)
    (full : 256 ^ 31 ≤ s) (auth : AuthSocket) :
    (loadVSFields sha env row auth).1.s = s ∧
      (loadVSFields sha env row auth).1.v =
        Srp6.verifier srpN srpG (clientX sha passwordHash s) := by
  have saltBytes : byteArray s = leBytes 32 s :=
    byteArray_of_full (getNumBytes_of_full full enrolled.salt_lt)
  rcases enrolled.keys with ⟨unusable, fresh⟩ | ⟨storedS, storedV⟩
  · unfold loadVSFields
    rw [if_pos unusable]
    refine ⟨fresh, ?_⟩
    simp only [setVSFields, enrolled.hash, passwordDigest_hexText enrolled.hash_length, fresh,
      saltBytes]
    rfl
  · have usable : ¬ (row.v.length ≠ sByteSize * 2 ∨ row.s.length ≠ sByteSize * 2) := by
      rw [storedS, storedV, hexText_length, hexText_length]
      decide
    have saltFits : s < 16 ^ 64 := lt_of_lt_of_le enrolled.salt_lt (by norm_num)
    have verifierFits : Srp6.verifier srpN srpG (clientX sha passwordHash s) < 16 ^ 64 :=
      lt_of_lt_of_le (powMod_srpN_lt _ _) (by norm_num)
    unfold loadVSFields
    rw [if_neg usable]
    simp only [storedS, storedV]
    exact ⟨setHexStr_hexText _ saltFits, setHexStr_hexText _ verifierFits⟩

/-! ### The server's answer, and what it holds -/

def lastSent (conn : Connection) : Bytes :=
  match conn.effects.getLast? with
  | some (.send bytes) => bytes
  | _ => []

theorem ofReply_challengeResponse (env : LoginEnv) {auth : AuthSocket}
    (fullB : getNumBytes auth.B = 32) (fullS : getNumBytes auth.s = 32) :
    ServerChallenge.ofReply (challengeResponse env auth) =
      { B := auth.B, g := srpG, N := srpN, s := auth.s } := by
  have fits {value : Nat} (full : getNumBytes value = 32) : value < 256 ^ 32 :=
    (byteWidth_le_iff value 32).mp (le_of_eq full)
  have takeAll (value : Nat) : (leBytes 32 value).take 32 = leBytes 32 value :=
    List.take_of_length_le (by rw [leBytes_length])
  have bytesB : (asByteArray auth.B 32 true).take 32 = leBytes 32 auth.B := by
    rw [asByteArray_of_full fullB, takeAll]
  have fullN : getNumBytes srpN = 32 := by
    decide
  have bytesN : (asByteArray srpN 32 true).take 32 = leBytes 32 srpN := by
    rw [asByteArray_of_full fullN, takeAll]
  have bytesG : (byteArray srpG).take 1 = leBytes 1 srpG := by
    decide
  have bytesS : byteArray auth.s = leBytes 32 auth.s := byteArray_of_full fullS
  let zeros : Bytes := [AuthCmd.logonChallenge.code, 0x00, wowSuccess]
  let unk3 : Bytes := (asByteArray env.randUnk3 16 true).take 16
  have reply : challengeResponse env auth =
      zeros ++ leBytes 32 auth.B ++ [1] ++ leBytes 1 srpG ++ [32] ++ leBytes 32 srpN ++
        leBytes 32 auth.s ++ unk3 ++ [0] := by
    grind [challengeResponse]
  have sliceB : ((challengeResponse env auth).drop 3).take 32 = leBytes 32 auth.B := by
    have split : challengeResponse env auth = zeros ++ (leBytes 32 auth.B ++
        ([1] ++ leBytes 1 srpG ++ [32] ++ leBytes 32 srpN ++ leBytes 32 auth.s ++
          unk3 ++ [0])) := by
      simp [reply, List.append_assoc]
    exact slice_of_split split rfl (leBytes_length 32 _)
  have sliceG : ((challengeResponse env auth).drop 36).take 1 = leBytes 1 srpG := by
    have split : challengeResponse env auth = (zeros ++ leBytes 32 auth.B ++ [1]) ++
        (leBytes 1 srpG ++ ([32] ++ leBytes 32 srpN ++ leBytes 32 auth.s ++ unk3 ++ [0])) := by
      simp [reply, List.append_assoc]
    exact slice_of_split split (by simp [zeros]) (leBytes_length 1 _)
  have sliceN : ((challengeResponse env auth).drop 38).take 32 = leBytes 32 srpN := by
    have split : challengeResponse env auth =
        (zeros ++ leBytes 32 auth.B ++ [1] ++ leBytes 1 srpG ++ [32]) ++
          (leBytes 32 srpN ++ (leBytes 32 auth.s ++ unk3 ++ [0])) := by
      simp [reply, List.append_assoc]
    exact slice_of_split split (by simp [zeros]) (leBytes_length 32 _)
  have sliceS : ((challengeResponse env auth).drop 70).take 32 = leBytes 32 auth.s := by
    have split : challengeResponse env auth =
        (zeros ++ leBytes 32 auth.B ++ [1] ++ leBytes 1 srpG ++ [32] ++ leBytes 32 srpN) ++
          (leBytes 32 auth.s ++ (unk3 ++ [0])) := by
      simp [reply, List.append_assoc]
    exact slice_of_split split (by simp [zeros]) (leBytes_length 32 _)
  unfold ServerChallenge.ofReply
  rw [sliceB, sliceG, sliceN, sliceS, ofLeBytes_leBytes (fits fullB),
    ofLeBytes_leBytes (fits fullS), ofLeBytes_leBytes srpN_lt]
  rfl

/-! ### The server's half of the proof -/

section Proof

variable {sha : Sha1} {login passwordHash : Bytes} {s a b : Nat}

structure HoldsRun (sha : Sha1) (login passwordHash : Bytes) (s b : Nat) (auth : AuthSocket) :
    Prop where
  login : auth.login = login
  salt : auth.s = s
  verifier : auth.v = Srp6.verifier srpN srpG (clientX sha passwordHash s)
  secret : auth.b = b
  announced : auth.B = (srpChallenge sha passwordHash s b).B

theorem sessionKeyBytes_length (sha : Sha1) (t : Bytes) : (sessionKeyBytes sha t).length = 40 := by
  have interleaved (left right : Bytes) (same : left.length = right.length) :
      (interleave left right).length = 2 * left.length := by
    induction left generalizing right with
    | nil => rfl
    | cons first rest ih =>
      cases right with
      | nil => cases same
      | cons second others =>
        have tails : rest.length = others.length := Nat.succ.inj same
        simp only [interleave, List.length_cons, ih others tails]
        omega
  unfold sessionKeyBytes
  rw [interleaved _ _ (by rw [sha.digest_length, sha.digest_length]), sha.digest_length]

theorem clientProof_fits (sha : Sha1) (login passwordHash : Bytes) (a s b : Nat) :
    (clientProof sha login passwordHash a (srpChallenge sha passwordHash s b)).A < 256 ^ 32 ∧
      (srpChallenge sha passwordHash s b).B < 256 ^ 32 ∧
      (clientProof sha login passwordHash a (srpChallenge sha passwordHash s b)).S < 256 ^ 32 :=
  ⟨powMod_srpN_lt _ _, lt_trans (Nat.mod_lt _ srpN_pos) srpN_lt, powMod_srpN_lt _ _⟩

section

variable (full : FullWidths sha login passwordHash s a b)
include full

theorem byteArray_A :
    byteArray (clientProof sha login passwordHash a (srpChallenge sha passwordHash s b)).A =
      leBytes 32 (clientProof sha login passwordHash a (srpChallenge sha passwordHash s b)).A :=
  byteArray_of_full
    (getNumBytes_of_full full.A (clientProof_fits sha login passwordHash a s b).1)

theorem byteArray_B :
    byteArray (srpChallenge sha passwordHash s b).B =
      leBytes 32 (srpChallenge sha passwordHash s b).B :=
  byteArray_of_full
    (getNumBytes_of_full full.B (clientProof_fits sha login passwordHash a s b).2.1)

theorem sharedSecret_eq_clientSecret
    {auth : AuthSocket} (holds : HoldsRun sha login passwordHash s b auth) :
    sharedSecret auth (clientProof sha login passwordHash a (srpChallenge sha passwordHash s b)).A
        (scrambler sha
          (clientProof sha login passwordHash a (srpChallenge sha passwordHash s b)).A auth.B) =
      (clientProof sha login passwordHash a (srpChallenge sha passwordHash s b)).S := by
  have scrambled : scrambler sha
      (clientProof sha login passwordHash a (srpChallenge sha passwordHash s b)).A auth.B =
      ofLeBytes (sha.digest
        (leBytes 32 (clientProof sha login passwordHash a (srpChallenge sha passwordHash s b)).A ++
          leBytes 32 (srpChallenge sha passwordHash s b).B)) := by
    unfold scrambler Sha1.updateBigNumbers
    rw [holds.announced, List.map_cons, List.map_cons, List.map_nil, byteArray_A full,
      byteArray_B full, List.flatten_cons, List.flatten_cons, List.flatten_nil, List.append_nil]
    rfl
  rw [scrambled]
  unfold sharedSecret
  rw [holds.verifier, holds.secret]
  exact (Srp6.clientSecret_eq_serverSecret srpN_pos _ a b _).symm

theorem logonSessionKey_eq {auth : AuthSocket}
    (holds : HoldsRun sha login passwordHash s b auth) :
    logonSessionKey sha auth
        (clientProof sha login passwordHash a (srpChallenge sha passwordHash s b)).A =
      ofLeBytes (clientProof sha login passwordHash a (srpChallenge sha passwordHash s b)).K := by
  have bytesS := asByteArray_of_full
    (getNumBytes_of_full full.S (clientProof_fits sha login passwordHash a s b).2.2)
  unfold logonSessionKey
  simp only [sharedSecret_eq_clientSecret full holds, bytesS]
  rw [List.take_of_length_le (by rw [leBytes_length])]
  rfl

theorem logonProofM_eq {auth : AuthSocket}
    (fits : s < 256 ^ 32) (holds : HoldsRun sha login passwordHash s b auth)
    (key : auth.K =
      ofLeBytes (clientProof sha login passwordHash a (srpChallenge sha passwordHash s b)).K) :
    logonProofM sha auth
        (clientProof sha login passwordHash a (srpChallenge sha passwordHash s b)).A =
      ofLeBytes (clientProof sha login passwordHash a (srpChallenge sha passwordHash s b)).M1 := by
  have keyLength : (clientProof sha login passwordHash a
      (srpChallenge sha passwordHash s b)).K.length = 40 := sessionKeyBytes_length sha _
  have keyBytes : byteArray auth.K =
      (clientProof sha login passwordHash a (srpChallenge sha passwordHash s b)).K := by
    rw [key]
    exact byteArray_setBinary keyLength
      (getNumBytes_of_bounds full.K (setBinary_lt keyLength))
  have groupLength : (groupDigest sha srpN srpG).length = 20 := by
    simp [groupDigest, xorBytes, List.length_zipWith, sha.digest_length]
  have groupBytes : byteArray (setBinary (groupDigest sha srpN srpG)) =
      groupDigest sha srpN srpG :=
    byteArray_setBinary groupLength
      (getNumBytes_of_bounds full.group (setBinary_lt groupLength))
  have modulusBytes : byteArray srpN = leBytes 32 srpN :=
    byteArray_of_full (by decide)
  have generatorBytes : byteArray srpG = leBytes 1 srpG := by
    decide
  have saltBytes : byteArray auth.s = leBytes 32 s := by
    rw [holds.salt]
    exact byteArray_of_full (getNumBytes_of_full full.salt fits)
  have announcedBytes : byteArray auth.B = leBytes 32 (srpChallenge sha passwordHash s b).B := by
    rw [holds.announced]
    exact byteArray_B full
  have group : setBinary (xorBytes (sha.digest (Sha1.updateBigNumbers [srpN]))
      (sha.digest (Sha1.updateBigNumbers [srpG]))) = setBinary (groupDigest sha srpN srpG) := by
    rfl
  unfold logonProofM
  simp only [group]
  simp only [Sha1.updateBigNumbers, List.map_cons, List.map_nil, List.flatten_cons,
    List.flatten_nil, List.append_nil, groupBytes, saltBytes, byteArray_A full, announcedBytes,
    keyBytes, holds.login]
  simp only [← List.append_assoc]
  rfl

end

end Proof

theorem ClientProof.packet_length (proof : ClientProof) (length : proof.M1.length = 20) :
    proof.packet.length = sizeofLogonProof := by
  simp only [packet, List.length_append, List.length_cons, List.length_nil, leBytes_length,
    length, List.length_replicate, sizeofLogonProof]

theorem ClientProof.ofBuffer_packet (proof : ClientProof) (length : proof.M1.length = 20) :
    LogonProof.ofBuffer proof.packet = { A := leBytes 32 proof.A, M1 := proof.M1 } := by
  have splitA : proof.packet = [AuthCmd.logonProof.code] ++
      (leBytes 32 proof.A ++ (proof.M1 ++ List.replicate 22 0)) := by
    simp only [packet, List.append_assoc]
  have splitM : proof.packet = ([AuthCmd.logonProof.code] ++ leBytes 32 proof.A) ++
      (proof.M1 ++ List.replicate 22 0) := by
    simp only [packet, List.append_assoc]
  have sliceA : (proof.packet.drop 1).take 32 = leBytes 32 proof.A :=
    slice_of_split splitA rfl (leBytes_length 32 _)
  have sliceM : (proof.packet.drop 33).take 20 = proof.M1 :=
    slice_of_split splitM (by simp) length
  unfold LogonProof.ofBuffer
  rw [sliceA, sliceM]

theorem handleLogonProof_matching {sha : Sha1} {env : LoginEnv} {conn : Connection}
    {proof : ClientProof} (buffered : conn.inputBuffer = proof.packet)
    (length : proof.M1.length = 20) (fits : proof.A < 256 ^ 32) (nonzero : proof.A ≠ 0)
    (supported : conn.auth.expversion ≠ noValidExpFlag)
    (matching : proofMatches env
      (logonProofM sha { conn.auth with K := logonSessionKey sha conn.auth proof.A } proof.A)
      proof.M1 = true) :
    (handleLogonProof sha env conn).1 = true ∧
      (handleLogonProof sha env conn).2.auth.authed = true ∧
      (handleLogonProof sha env conn).2.auth.K = logonSessionKey sha conn.auth proof.A := by
  have received : conn.recv sizeofLogonProof =
      some (proof.packet, conn.recvSkip sizeofLogonProof) := by
    rw [recv_complete (by rw [buffered, proof.packet_length length]), buffered,
      List.take_of_length_le (le_of_eq (proof.packet_length length))]
  have readA : setBinary (leBytes 32 proof.A) = proof.A := ofLeBytes_leBytes fits
  have valid : ¬ (conn.recvSkip sizeofLogonProof).auth.expversion = noValidExpFlag := supported
  have notZero : ¬ isZero proof.A = true := by
    simpa [isZero] using nonzero
  have sameAuth : (conn.recvSkip sizeofLogonProof).auth = conn.auth := rfl
  simp only [handleLogonProof, received, proof.ofBuffer_packet length, readA]
  rw [if_neg valid, if_neg notZero]
  simp only [sameAuth]
  rw [if_pos matching]
  exact ⟨rfl, rfl, rfl⟩

theorem proofMatches_full (env : LoginEnv) {M1 : Bytes} (length : M1.length = 20)
    (full : 256 ^ 19 ≤ ofLeBytes M1) : proofMatches env (ofLeBytes M1) M1 = true := by
  have bytes : byteArray (ofLeBytes M1) = M1 :=
    byteArray_setBinary length (getNumBytes_of_bounds full (setBinary_lt length))
  unfold proofMatches
  rw [bytes, List.take_left' length, beq_self_eq_true]

theorem HoldsRun.withK {sha : Sha1} {login passwordHash : Bytes} {s b : Nat} {auth : AuthSocket}
    (holds : HoldsRun sha login passwordHash s b auth) (K : Nat) :
    HoldsRun sha login passwordHash s b { auth with K := K } :=
  ⟨holds.login, holds.salt, holds.verifier, holds.secret, holds.announced⟩

/-! ### The whole login -/

theorem loadVSFields_expversion (sha : Sha1) (env : LoginEnv) (row : AccountRow)
    (auth : AuthSocket) : (loadVSFields sha env row auth).1.expversion = auth.expversion := by
  unfold loadVSFields
  split <;> rfl

theorem acceptedSession_holds {sha : Sha1} {env : LoginEnv} {row : AccountRow}
    {passwordHash login : Bytes} {s : Nat} {conn : Connection}
    (enrolled : Enrolled sha env row passwordHash s) (full : 256 ^ 31 ≤ s)
    (named : (challengeAt conn.inputBuffer).I = login) :
    HoldsRun sha login passwordHash s env.randB (acceptedSession sha env row conn) := by
  obtain ⟨salt, verifier⟩ := loadVSFields_enrolled enrolled full (namedSession conn)
  refine ⟨?_, salt, verifier, rfl, ?_⟩
  · exact (loadVSFields_login sha env row (namedSession conn)).trans named
  · simp only [acceptedSession, chooseB, verifier]
    rfl

structure LoginRun where
  challenged : Bool × Connection
  client : ClientProof
  proved : Bool × Connection

def loginRun (sha : Sha1) (challengeEnv proofEnv : LoginEnv) (conn : Connection) (hello : Hello)
    (passwordHash : Bytes) (a : Nat) : LoginRun :=
  let challenged := handleLogonChallenge sha challengeEnv (conn.append hello.packet)
  let client := clientProof sha hello.login passwordHash a (.ofReply (lastSent challenged.2))
  { challenged := challenged
    client := client
    proved := handleLogonProof sha proofEnv (challenged.2.append client.packet) }

/-- A client with the right password is accepted, and both sides hold the same
session key, whenever no quantity of the run is short. -/
theorem loginRun_accepted (sha : Sha1) (challengeEnv proofEnv : LoginEnv) (conn : Connection)
    (hello : Hello) (row : AccountRow) (passwordHash : Bytes) (s a : Nat)
    (drained : conn.inputBuffer = [])
    (supported : logonExpversion hello.build ≠ noValidExpFlag)
    (accepted : logonVerdict challengeEnv hello.login = .accepted row)
    (enrolled : Enrolled sha challengeEnv row passwordHash s)
    (full : FullWidths sha hello.login passwordHash s a challengeEnv.randB) :
    (loginRun sha challengeEnv proofEnv conn hello passwordHash a).challenged.1 = true ∧
      (loginRun sha challengeEnv proofEnv conn hello passwordHash a).proved.1 = true ∧
      (loginRun sha challengeEnv proofEnv conn hello passwordHash a).proved.2.auth.authed = true ∧
      (loginRun sha challengeEnv proofEnv conn hello passwordHash a).proved.2.auth.K =
        ofLeBytes (loginRun sha challengeEnv proofEnv conn hello passwordHash a).client.K := by
  have buffered : (conn.append hello.packet).inputBuffer = hello.packet := by
    unfold Connection.append
    rw [drained, List.nil_append]
  have complete := hello.packet_complete buffered
  have named : (challengeAt (conn.append hello.packet).inputBuffer).I = hello.login := by
    rw [buffered, hello.packet_name]
  have answered := handleLogonChallenge_accepted sha complete (named ▸ accepted)
  have holds := acceptedSession_holds enrolled full.salt named
  have consumed : (conn.append hello.packet).inputBuffer.drop
      (4 + challengeSize (conn.append hello.packet).inputBuffer) = [] := by
    apply List.drop_eq_nil_of_le
    rw [buffered, hello.packet_size, hello.packet_length]
    omega
  have build : (acceptedSession sha challengeEnv row (conn.append hello.packet)).expversion =
      logonExpversion hello.build := by
    have kept := loadVSFields_expversion sha challengeEnv row
      (namedSession (conn.append hello.packet))
    have atBuild : (namedSession (conn.append hello.packet)).expversion =
        logonExpversion hello.build := by
      unfold namedSession
      rw [buffered, hello.packet_build]
    exact kept.trans atBuild
  have bounds := clientProof_fits sha hello.login passwordHash a s challengeEnv.randB
  have read : ServerChallenge.ofReply (challengeResponse challengeEnv
      (acceptedSession sha challengeEnv row (conn.append hello.packet))) =
      srpChallenge sha passwordHash s challengeEnv.randB := by
    rw [ofReply_challengeResponse challengeEnv
      (by rw [holds.announced]; exact getNumBytes_of_full full.B bounds.2.1)
      (by rw [holds.salt]; exact getNumBytes_of_full full.salt enrolled.salt_lt),
      holds.announced, holds.salt]
    rfl
  unfold loginRun
  simp only [answered, lastSent, List.getLast?_append, List.getLast?_singleton, Option.some_or,
    read, consumed]
  have key := logonSessionKey_eq full holds
  have length : (clientProof sha hello.login passwordHash a
      (srpChallenge sha passwordHash s challengeEnv.randB)).M1.length = 20 := sha.digest_length _
  have nonzero : (clientProof sha hello.login passwordHash a
      (srpChallenge sha passwordHash s challengeEnv.randB)).A ≠ 0 := by
    have large := full.A
    omega
  refine ⟨trivial, ?_⟩
  rw [← key]
  apply handleLogonProof_matching rfl length bounds.1 nonzero
  · intro unsupported
    exact supported (build.symm.trans unsupported)
  · have expected := logonProofM_eq full enrolled.salt_lt
      (holds.withK (logonSessionKey sha _ _)) key
    have matching := proofMatches_full proofEnv length full.M1
    rw [← expected] at matching
    exact matching

/-- The client of the account `AB`. -/
def helloAB : Hello where
  gameAndVersion := [0x57, 0x6F, 0x57, 0x00, 3, 3, 5]
  build := 12340
  platformToAddress := (challengeAB.drop 13).take 20
  login := [0x41, 0x42]
  gameAndVersion_length := rfl
  build_lt := by decide
  platformToAddress_length := by decide
  login_nonempty := by decide
  login_length := by decide
  login_noNul := by simp

def passwordHashAB : Bytes :=
  [0xBD, 0x48, 0xCA, 0x21, 0x78, 0x2A, 0xDD, 0x54, 0xEB, 0x5A,
   0x31, 0x01, 0x16, 0xFE, 0x01, 0x73, 0x2D, 0x0D, 0x35, 0xD9]

def saltAB : Nat := 0xD23F0824128B2F330C5C7FD0A6A3A4506513270E269E0D37F2A74DE452E6B438

theorem enrolled_AB : Enrolled sha1 accountEnv (accountRow 1) passwordHashAB saltAB where
  hash_length := rfl
  salt_lt := by decide
  hash := by decide +kernel
  keys := Or.inr ⟨rfl, by decide +kernel⟩

/-- What the client computes from the challenge for `AB` -/
def proofAB : ClientProof :=
  clientProof sha1 helloAB.login passwordHashAB 0xED9049531985D5D9DC9F81818E811892F902B
    (srpChallenge sha1 passwordHashAB saltAB accountEnv.randB)

theorem fullWidths_AB : FullWidths sha1 helloAB.login passwordHashAB saltAB
    0xED9049531985D5D9DC9F81818E811892F902B accountEnv.randB := by
  have widths : (256 ^ 31 ≤ saltAB ∧ 256 ^ 31 ≤ proofAB.A ∧
      256 ^ 31 ≤ (srpChallenge sha1 passwordHashAB saltAB accountEnv.randB).B) ∧
      256 ^ 31 ≤ proofAB.S ∧ 256 ^ 39 ≤ ofLeBytes proofAB.K ∧ 256 ^ 19 ≤ ofLeBytes proofAB.M1 ∧
      256 ^ 19 ≤ ofLeBytes (groupDigest sha1 srpN srpG) := by
    decide +kernel
  obtain ⟨⟨salt, A, B⟩, S, K, M1, group⟩ := widths
  exact ⟨salt, A, B, S, K, M1, group⟩

theorem loginRun_accepted_AB :
    (loginRun sha1 accountEnv accountEnv (.initial (AuthSocket.initial 0 0 false)) helloAB
      passwordHashAB 0xED9049531985D5D9DC9F81818E811892F902B).proved.2.auth.authed = true :=
  (loginRun_accepted sha1 accountEnv accountEnv (.initial (AuthSocket.initial 0 0 false)) helloAB
    (accountRow 1) passwordHashAB saltAB 0xED9049531985D5D9DC9F81818E811892F902B rfl
    (by decide) rfl enrolled_AB fullWidths_AB).2.2.1

/-- A client secret whose public value has a zero byte at its high end. -/
theorem loginRun_refused_short_A :
    ¬ ∀ (sha : Sha1) (challengeEnv proofEnv : LoginEnv) (conn : Connection) (hello : Hello)
      (row : AccountRow) (passwordHash : Bytes) (s a : Nat),
      conn.inputBuffer = [] → logonExpversion hello.build ≠ noValidExpFlag →
        logonVerdict challengeEnv hello.login = .accepted row →
        Enrolled sha challengeEnv row passwordHash s →
        (loginRun sha challengeEnv proofEnv conn hello passwordHash a).proved.2.auth.authed =
          true := by
  intro claimed
  have atShort := claimed sha1 accountEnv accountEnv (.initial (AuthSocket.initial 0 0 false))
    helloAB (accountRow 1) passwordHashAB saltAB 321 rfl (by decide) (by decide +kernel)
    enrolled_AB
  have refused : (loginRun sha1 accountEnv accountEnv (.initial (AuthSocket.initial 0 0 false))
      helloAB passwordHashAB 321).proved.2.auth.authed = false := by
    decide +kernel
  rw [refused] at atShort
  cases atShort

end DarkCore.Auth
