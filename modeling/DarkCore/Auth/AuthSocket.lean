/-
The authentication server's connection: `RealmSocket` with its input buffer,
and `AuthSocket` with the eight command handlers and the dispatch loop.

Every handler is a function of the connection, of the digest, and of what the
outside world answers while it runs (`LoginEnv`: database rows, random numbers,
configuration).  `onRead` keeps a record of each handler call it makes; the
record is only written, never read.
-/

import DarkCore.Shared.BigNumber

namespace DarkCore.Auth

open Lib
open BigNumber

/-- The group modulus `N` set in the constructor. -/
def srpN : Nat := 0x894B645E89E1535BBDAD5B8B290650530801B18EBFBF5E8FAB3C82872A3E9BB7

/-- The generator `g` set in the constructor. -/
def srpG : Nat := 7

def sByteSize : Nat := 32

inductive AuthCmd where
  | logonChallenge
  | logonProof
  | reconnectChallenge
  | reconnectProof
  | realmList
  | xferAccept
  | xferResume
  | xferCancel
  deriving DecidableEq, Repr

def AuthCmd.code : AuthCmd → UInt8
  | .logonChallenge => 0x00
  | .logonProof => 0x01
  | .reconnectChallenge => 0x02
  | .reconnectProof => 0x03
  | .realmList => 0x10
  | .xferAccept => 0x32
  | .xferResume => 0x33
  | .xferCancel => 0x34

inductive AuthStatus where
  | connected
  | authed
  deriving DecidableEq, Repr

def table : List (AuthCmd × AuthStatus) :=
  [(.logonChallenge, .connected), (.logonProof, .connected), (.reconnectChallenge, .connected),
   (.reconnectProof, .connected), (.realmList, .authed), (.xferAccept, .connected),
   (.xferResume, .connected), (.xferCancel, .connected)]

def wowSuccess : UInt8 := 0x00
def wowFailBanned : UInt8 := 0x03
def wowFailUnknownAccount : UInt8 := 0x04
def wowFailSuspended : UInt8 := 0x0C

/-- `sizeof(sAuthLogonChallenge_C)`, packed. -/
def sizeofLogonChallenge : Nat := 35

/-- `sizeof(sAuthLogonProof_C)`, packed. -/
def sizeofLogonProof : Nat := 75

/-- `sizeof(sAuthReconnectProof_C)`, packed. -/
def sizeofReconnectProof : Nat := 58

def isPostWotLKAcceptedClientBuild (build : Nat) : Bool :=
  [13623, 13596, 13329].contains build

def isPostBCAcceptedClientBuild (build : Nat) : Bool :=
  [13205, 13164, 12340, 11723, 11403, 11159, 10571, 10505, 10146, 9947, 8606].contains build

def isPreBCAcceptedClientBuild (build : Nat) : Bool :=
  [5875, 6005].contains build

def postWotLKExpFlag : Nat := 0x4
def postBCExpFlag : Nat := 0x2
def preBCExpFlag : Nat := 0x1
def noValidExpFlag : Nat := 0x0

/-- `_expversion` as the logon challenge computes it. -/
def logonExpversion (build : Nat) : Nat :=
  (if isPostWotLKAcceptedClientBuild build then postWotLKExpFlag else noValidExpFlag) |||
  (if isPostBCAcceptedClientBuild build then postBCExpFlag else noValidExpFlag) |||
  (if isPreBCAcceptedClientBuild build then preBCExpFlag else noValidExpFlag)

/-- `_expversion` as the reconnect challenge computes it: without the newest flag. -/
def reconnectExpversion (build : Nat) : Nat :=
  (if isPostBCAcceptedClientBuild build then postBCExpFlag else noValidExpFlag) |||
  (if isPreBCAcceptedClientBuild build then preBCExpFlag else noValidExpFlag)

/-- `(_expversion & POST_BC_EXP_FLAG) || (_expversion & POST_WOTLK_EXP_FLAG)`. -/
def isPostBC (expversion : Nat) : Bool :=
  expversion &&& postBCExpFlag != 0 || expversion &&& postWotLKExpFlag != 0

def secAdministrator : Nat := 3

/-- `localeNames`, as bytes. -/
def localeNames : List Bytes :=
  ["enUS", "koKR", "frFR", "deDE", "zhCN", "zhTW", "esES", "esMX", "ruRU"].map
    fun name => name.toList.map fun char => UInt8.ofNat char.toNat

def getLocaleByName (name : Bytes) : Nat :=
  match localeNames.idxOf? name with
  | some index => index
  | none => 0

/-- The row of `LOGIN_GET_LOGONCHALLENGE`. -/
structure AccountRow where
  shaPassHash : Bytes
  id : Nat
  locked : Nat
  lastIp : Bytes
  gmlevel : Nat
  v : Bytes
  s : Bytes
  deriving DecidableEq, Repr

/-- The row of `LOGIN_GET_SESSIONKEY`, without the unread id. -/
structure SessionKeyRow where
  sessionkey : Bytes
  gmlevel : Nat
  deriving DecidableEq, Repr

structure Realm where
  name : Bytes
  address : Bytes
  icon : UInt8
  color : UInt8
  timezone : UInt8
  realmId : Nat
  allowedSecurityLevel : Nat
  populationLevel : UInt32
  gamebuild : Nat
  deriving DecidableEq, Repr

/-- Database answers, random numbers and configuration during one handler call. -/
structure LoginEnv where
  remoteAddress : Bytes
  ipBanned : Bool
  logonChallenge : Bytes → Option AccountRow
  accBanned : Nat → Option (Nat × Nat)
  sessionKey : Bytes → Option SessionKeyRow
  accIdByName : Bytes → Option Nat
  failedLogins : Bytes → Option (Nat × Nat)
  numCharsOnRealm : Nat → Nat → Option UInt8
  realms : List Realm
  randSalt : Nat
  randB : Nat
  randUnk3 : Nat
  randReconnect : Nat
  wrongPassMaxCount : Nat
  wrongPassBanTime : Nat
  wrongPassBanType : Bool
  /-- What lies behind a heap array that is read past its end. -/
  heapTail : Bytes

inductive Effect where
  | send (bytes : Bytes)
  | setVS (v s : Nat) (login : Bytes)
  | setLogonProof (sessionKey : Nat) (address : Bytes) (locale : Nat) (login : Bytes)
  | setFailedLogins (login : Bytes)
  | setAccAutoBanned (id banTime : Nat)
  | setIpAutoBanned (address : Bytes) (banTime : Nat)
  deriving DecidableEq, Repr

/-- The members of `AuthSocket` that change. -/
structure AuthSocket where
  s : Nat
  v : Nat
  b : Nat
  B : Nat
  K : Nat
  reconnectProof : Nat
  authed : Bool
  login : Bytes
  localizationName : Bytes
  build : Nat
  expversion : Nat
  accountSecurityLevel : Nat
  pPatch : Bool
  deriving DecidableEq, Repr

/-- A new connection.  The constructor leaves `_build`, `_expversion` and
`pPatch` uninitialised, so their first values are arbitrary. -/
def AuthSocket.initial (build expversion : Nat) (pPatch : Bool) : AuthSocket :=
  { s := 0, v := 0, b := 0, B := 0, K := 0, reconnectProof := 0
    authed := false
    login := []
    localizationName := []
    build := build
    expversion := expversion
    accountSecurityLevel := 0
    pPatch := pPatch }

structure Connection where
  auth : AuthSocket
  inputBuffer : Bytes
  /-- Registered with the reactor; `shutdown()` ends that. -/
  reading : Bool
  effects : List Effect
  deriving DecidableEq, Repr

def Connection.initial (auth : AuthSocket) : Connection :=
  { auth := auth, inputBuffer := [], reading := true, effects := [] }

namespace Connection

def recvLen (conn : Connection) : Nat := conn.inputBuffer.length

def recvSkip (len : Nat) (conn : Connection) : Connection :=
  { conn with inputBuffer := conn.inputBuffer.drop len }

def recv (len : Nat) (conn : Connection) : Option (Bytes × Connection) :=
  if conn.recvLen < len then none
  else some (conn.inputBuffer.take len, conn.recvSkip len)

def shutdown (conn : Connection) : Connection := { conn with reading := false }

def perform (effect : Effect) (conn : Connection) : Connection :=
  { conn with effects := conn.effects ++ [effect] }

def setAuth (auth : AuthSocket) (conn : Connection) : Connection :=
  { conn with auth := auth }

def append (received : Bytes) (conn : Connection) : Connection :=
  { conn with inputBuffer := conn.inputBuffer ++ received }

end Connection

/-- The fields of `sAuthLogonChallenge_C` that a handler reads. -/
structure LogonChallenge where
  build : Nat
  country : Bytes
  I : Bytes
  deriving DecidableEq, Repr

def uint16At (buf : Bytes) (offset : Nat) : Nat := ofLeBytes ((buf.drop offset).take 2)

def cString (bytes : Bytes) : Bytes := bytes.takeWhile fun byte => byte != 0

def LogonChallenge.ofBuffer (buf : Bytes) : LogonChallenge :=
  { build := uint16At buf 11
    country := (buf.drop 21).take 4
    I := cString (buf.drop 34) }

/-- The receiving half that both challenge handlers share: the header is taken
off the buffer before the body is known to be there. -/
def recvChallenge (conn : Connection) : Option LogonChallenge × Connection :=
  if conn.recvLen < sizeofLogonChallenge then (none, conn)
  else
    let header := conn.inputBuffer.take 4
    let conn := conn.recvSkip 4
    let remaining := uint16At header 2
    if remaining < sizeofLogonChallenge - 4 ∨ conn.recvLen < remaining then (none, conn)
    else
      let buf := header ++ conn.inputBuffer.take remaining ++ [0]
      (some (.ofBuffer buf), conn.recvSkip remaining)

/-- The big-endian password digest: the hexadecimal column with its leading
zero bytes restored. -/
def passwordDigest (rI : Bytes) : Bytes :=
  let I := setHexStr 0 rI
  let mDigest :=
    if getNumBytes I ≤ 20 then byteArray I ++ List.replicate (20 - getNumBytes I) 0
    else List.replicate 20 0
  mDigest.reverse

def setVSFields (sha : Sha1) (env : LoginEnv) (rI : Bytes) (auth : AuthSocket) : AuthSocket :=
  let s := env.randSalt
  let x := setBinary (sha.digest (byteArray s ++ passwordDigest rI))
  { auth with s := s, v := modExp srpG x srpN }

/-- Key material of a challenge: stored with the account, or made anew. -/
def loadVSFields (sha : Sha1) (env : LoginEnv) (row : AccountRow) (auth : AuthSocket) :
    AuthSocket × List Effect :=
  if row.v.length ≠ sByteSize * 2 ∨ row.s.length ≠ sByteSize * 2 then
    let auth := setVSFields sha env row.shaPassHash auth
    (auth, [.setVS auth.v auth.s auth.login])
  else ({ auth with s := setHexStr auth.s row.s, v := setHexStr auth.v row.v }, [])

def chooseB (env : LoginEnv) (auth : AuthSocket) : AuthSocket :=
  let gmod := modExp srpG env.randB srpN
  { auth with b := env.randB, B := (auth.v * 3 + gmod) % srpN }

def challengeResponse (env : LoginEnv) (auth : AuthSocket) : Bytes :=
  [AuthCmd.logonChallenge.code, 0x00, wowSuccess] ++
    (asByteArray auth.B 32 true).take 32 ++ [1] ++
    (byteArray srpG).take 1 ++ [32] ++
    (asByteArray srpN 32 true).take 32 ++
    byteArray auth.s ++
    (asByteArray env.randUnk3 16 true).take 16 ++ [0]

def everySecond : Bytes → Bytes
  | [] => []
  | [byte] => [byte]
  | byte :: _ :: rest => byte :: everySecond rest

def interleave : Bytes → Bytes → Bytes
  | first :: firsts, second :: seconds => first :: second :: interleave firsts seconds
  | _, _ => []

/-- `vK` from the 32 bytes of `S`. -/
def sessionKeyBytes (sha : Sha1) (t : Bytes) : Bytes :=
  interleave (sha.digest (everySecond t)) (sha.digest (everySecond (t.drop 1)))

def xorBytes (left right : Bytes) : Bytes := List.zipWith (· ^^^ ·) left right

/-- The client's half of `sAuthLogonProof_C` that the handler reads. -/
structure LogonProof where
  A : Bytes
  M1 : Bytes
  deriving DecidableEq, Repr

def LogonProof.ofBuffer (buf : Bytes) : LogonProof :=
  { A := (buf.drop 1).take 32, M1 := (buf.drop 33).take 20 }

/-- `S`, the server's shared secret. -/
def sharedSecret (auth : AuthSocket) (A u : Nat) : Nat :=
  modExp (A * modExp auth.v u srpN) auth.b srpN

def scrambler (sha : Sha1) (A B : Nat) : Nat :=
  setBinary (sha.digest (Sha1.updateBigNumbers [A, B]))

/-- `K` as the proof handler derives it from a client's `A`. -/
def logonSessionKey (sha : Sha1) (auth : AuthSocket) (A : Nat) : Nat :=
  let S := sharedSecret auth A (scrambler sha A auth.B)
  setBinary (sessionKeyBytes sha ((asByteArray S 32 true).take 32))

/-- `M`, the proof the server expects, once `K` is set. -/
def logonProofM (sha : Sha1) (auth : AuthSocket) (A : Nat) : Nat :=
  let hash := xorBytes (sha.digest (Sha1.updateBigNumbers [srpN]))
    (sha.digest (Sha1.updateBigNumbers [srpG]))
  let t3 := setBinary hash
  let t4 := sha.digest auth.login
  setBinary (sha.digest (Sha1.updateBigNumbers [t3] ++ t4 ++
    Sha1.updateBigNumbers [auth.s, A, auth.B, auth.K]))

/-- `!memcmp(M.AsByteArray(), lp.M1, 20)`: a short `M` makes it read whatever
follows the array on the heap. -/
def proofMatches (env : LoginEnv) (M : Nat) (M1 : Bytes) : Bool :=
  (byteArray M ++ env.heapTail).take 20 == M1

def logonProofReply (sha : Sha1) (auth : AuthSocket) (A M : Nat) : Bytes :=
  let M2 := sha.digest (Sha1.updateBigNumbers [A, M, auth.K])
  if isPostBC auth.expversion then
    [AuthCmd.logonProof.code, 0] ++ M2 ++ leBytes 4 0x00800000 ++ leBytes 4 0 ++ leBytes 2 0
  else [AuthCmd.logonProof.code, 0] ++ M2 ++ leBytes 4 0

inductive LogonVerdict where
  | refused (code : UInt8)
  | accepted (row : AccountRow)
  deriving DecidableEq, Repr

def logonVerdict (env : LoginEnv) (login : Bytes) : LogonVerdict :=
  if env.ipBanned then .refused wowFailBanned
  else
    match env.logonChallenge login with
    | none => .refused wowFailUnknownAccount
    | some row =>
      if row.locked = 1 ∧ row.lastIp ≠ env.remoteAddress then .refused wowFailSuspended
      else
        match env.accBanned row.id with
        | some (bandate, unbandate) =>
          if bandate = unbandate then .refused wowFailBanned else .refused wowFailSuspended
        | none => .accepted row

def handleLogonChallenge (sha : Sha1) (env : LoginEnv) (conn : Connection) :
    Bool × Connection :=
  match recvChallenge conn with
  | (none, conn) => (false, conn)
  | (some ch, conn) =>
    let auth :=
      { conn.auth with
        login := ch.I
        build := ch.build
        expversion := logonExpversion ch.build }
    match logonVerdict env ch.I with
    | .refused code =>
      (true, (conn.setAuth auth).perform (.send [AuthCmd.logonChallenge.code, 0x00, code]))
    | .accepted row =>
      let (auth, writes) := loadVSFields sha env row auth
      let auth := chooseB env auth
      let auth :=
        { auth with
          accountSecurityLevel := min row.gmlevel secAdministrator
          localizationName := ch.country.reverse }
      let conn := writes.foldl (fun conn effect => conn.perform effect) (conn.setAuth auth)
      (true, conn.perform (.send (challengeResponse env auth)))

def wrongPassword (env : LoginEnv) (conn : Connection) : Connection :=
  if env.wrongPassMaxCount = 0 then conn
  else
    let conn := conn.perform (.setFailedLogins conn.auth.login)
    match env.failedLogins conn.auth.login with
    | none => conn
    | some (id, failedLogins) =>
      if failedLogins < env.wrongPassMaxCount then conn
      else if env.wrongPassBanType then
        conn.perform (.setAccAutoBanned id env.wrongPassBanTime)
      else conn.perform (.setIpAutoBanned env.remoteAddress env.wrongPassBanTime)

def handleLogonProof (sha : Sha1) (env : LoginEnv) (conn : Connection) : Bool × Connection :=
  match conn.recv sizeofLogonProof with
  | none => (false, conn)
  | some (buf, conn) =>
    let lp := LogonProof.ofBuffer buf
    let A := setBinary lp.A
    if conn.auth.expversion = noValidExpFlag then (true, conn.shutdown)
    else if isZero A then (true, conn.shutdown)
    else
      -- `K` is a member: it changes whether or not the proof turns out right.
      let auth := { conn.auth with K := logonSessionKey sha conn.auth A }
      let conn := conn.setAuth auth
      let M := logonProofM sha auth A
      if proofMatches env M lp.M1 then
        let conn := conn.perform (.setLogonProof auth.K env.remoteAddress
          (getLocaleByName auth.localizationName) auth.login)
        let conn := conn.perform (.send (logonProofReply sha auth A M))
        (true, conn.setAuth { auth with authed := true })
      else
        let conn := conn.perform
          (.send [AuthCmd.logonProof.code, wowFailUnknownAccount, 3, 0])
        (true, wrongPassword env conn)

def handleReconnectChallenge (env : LoginEnv) (conn : Connection) : Bool × Connection :=
  match recvChallenge conn with
  | (none, conn) => (false, conn)
  | (some ch, conn) =>
    let auth := { conn.auth with login := ch.I }
    match env.sessionKey ch.I with
    | none => (false, (conn.setAuth auth).shutdown)
    | some row =>
      let auth :=
        { auth with
          build := ch.build
          expversion := reconnectExpversion ch.build
          accountSecurityLevel := min row.gmlevel secAdministrator
          K := setHexStr auth.K row.sessionkey
          reconnectProof := env.randReconnect }
      (true, (conn.setAuth auth).perform (.send ([AuthCmd.reconnectChallenge.code, 0x00] ++
          (asByteArray env.randReconnect 16 true).take 16 ++ List.replicate 16 0)))

/-- The client's half of `sAuthReconnectProof_C` that the handler reads. -/
structure ReconnectProof where
  R1 : Bytes
  R2 : Bytes
  deriving DecidableEq, Repr

def ReconnectProof.ofBuffer (buf : Bytes) : ReconnectProof :=
  { R1 := (buf.drop 1).take 16, R2 := (buf.drop 17).take 20 }

def reconnectDigest (sha : Sha1) (auth : AuthSocket) (R1 : Bytes) : Bytes :=
  sha.digest (auth.login ++ Sha1.updateBigNumbers [setBinary R1, auth.reconnectProof, auth.K])

/-- The guard `_login.empty() || !_reconnectProof.GetNumBytes() || !K.GetNumBytes()`. -/
def noReconnectData (auth : AuthSocket) : Bool :=
  auth.login.isEmpty || getNumBytes auth.reconnectProof == 0 || getNumBytes auth.K == 0

def handleReconnectProof (sha : Sha1) (conn : Connection) : Bool × Connection :=
  match conn.recv sizeofReconnectProof with
  | none => (false, conn)
  | some (buf, conn) =>
    let lp := ReconnectProof.ofBuffer buf
    if noReconnectData conn.auth then (false, conn)
    else if reconnectDigest sha conn.auth lp.R1 == lp.R2 then
      (true, (conn.perform (.send [AuthCmd.reconnectProof.code, 0x00, 0, 0])).setAuth
        { conn.auth with authed := true })
    else (false, conn.shutdown)

def realmEntry (env : LoginEnv) (auth : AuthSocket) (id : Nat) (realm : Realm) : Bytes :=
  let amountOfCharacters := (env.numCharsOnRealm realm.realmId id).getD 0
  let lock : UInt8 := if auth.accountSecurityLevel < realm.allowedSecurityLevel then 1 else 0
  [realm.icon] ++ (if isPostBC auth.expversion then [lock] else []) ++
    [realm.color] ++ realm.name ++ [0] ++ realm.address ++ [0] ++
    leBytes 4 realm.populationLevel.toNat ++ [amountOfCharacters, realm.timezone] ++
    [if isPostBC auth.expversion then 0x2C else 0x0]

def realmCompatible (auth : AuthSocket) (realm : Realm) : Bool :=
  if isPostBC auth.expversion then realm.gamebuild == auth.build
  else if auth.expversion &&& preBCExpFlag != 0 then isPreBCAcceptedClientBuild realm.gamebuild
  else true

def realmListReply (env : LoginEnv) (auth : AuthSocket) (id : Nat) : Bytes :=
  let shown := env.realms.filter (realmCompatible auth)
  let pkt := (shown.map (realmEntry env auth id)).flatten ++
    (if isPostBC auth.expversion then [0x10, 0x00] else [0x00, 0x02])
  let sizeBuffer := leBytes 4 0 ++
    leBytes (if isPostBC auth.expversion then 2 else 4) shown.length
  [AuthCmd.realmList.code] ++ leBytes 2 (pkt.length + sizeBuffer.length) ++ sizeBuffer ++ pkt

def handleRealmList (env : LoginEnv) (conn : Connection) : Bool × Connection :=
  if conn.recvLen < 5 then (false, conn)
  else
    let conn := conn.recvSkip 5
    match env.accIdByName conn.auth.login with
    | none => (false, conn.shutdown)
    | some id => (true, conn.perform (.send (realmListReply env conn.auth id)))

def handleXferResume (conn : Connection) : Bool × Connection :=
  if conn.recvLen < 9 ∨ conn.auth.pPatch = false then (false, conn)
  else (true, (conn.recvSkip 1).recvSkip 8)

def handleXferCancel (conn : Connection) : Bool × Connection :=
  (true, (conn.recvSkip 1).shutdown)

def handleXferAccept (conn : Connection) : Bool × Connection :=
  if conn.auth.pPatch = false then (false, conn) else (true, conn.recvSkip 1)

def handler (sha : Sha1) (env : LoginEnv) : AuthCmd → Connection → Bool × Connection
  | .logonChallenge => handleLogonChallenge sha env
  | .logonProof => handleLogonProof sha env
  | .reconnectChallenge => handleReconnectChallenge env
  | .reconnectProof => handleReconnectProof sha
  | .realmList => handleRealmList env
  | .xferAccept => handleXferAccept
  | .xferResume => handleXferResume
  | .xferCancel => handleXferCancel

/-- The table entry `OnRead` finds for a command byte. -/
def findCommand (authed : Bool) (code : UInt8) : Option AuthCmd :=
  (table.find? fun entry =>
    entry.1.code == code && (entry.2 == .connected || (authed && entry.2 == .authed))).map (·.1)

/-- One handler call, as `OnRead` made it. -/
structure Call where
  cmd : AuthCmd
  env : LoginEnv
  before : Connection
  ok : Bool
  after : Connection

def Call.consumed (call : Call) : Bytes :=
  call.before.inputBuffer.take
    (call.before.inputBuffer.length - call.after.inputBuffer.length)

structure Server where
  conn : Connection
  calls : List Call

def completedCalls (calls : List Call) : List Call := calls.filter (·.ok)

/-- The loop of `OnRead`; a completed call always consumes a byte, so the fuel
that `onRead` gives never runs out.  The n-th completed command meets the n-th
environment. -/
def onReadLoop (sha : Sha1) (envs : Nat → LoginEnv) : Nat → Server → Server
  | 0, server => server
  | fuel + 1, server =>
    match server.conn.inputBuffer with
    | [] => server
    | code :: _ =>
      match findCommand server.conn.auth.authed code with
      | none => { server with conn := server.conn.shutdown }
      | some cmd =>
        let env := envs (completedCalls server.calls).length
        let (ok, after) := handler sha env cmd server.conn
        let call : Call :=
          { cmd := cmd, env := env, before := server.conn, ok := ok, after := after }
        let server : Server := { conn := after, calls := server.calls ++ [call] }
        if ok then onReadLoop sha envs fuel server else server

def onRead (sha : Sha1) (envs : Nat → LoginEnv) (server : Server) : Server :=
  onReadLoop sha envs (server.conn.inputBuffer.length + 1) server

/-- The size of `input_buffer_`. -/
def inputBufferSize : Nat := 4096

/-- `handle_input` with what the peer sent.  A full buffer leaves `recv` no space,
and its answer of zero bytes reads as the end of the stream; a socket that was
shut down gets no more input events. -/
def handleInput (sha : Sha1) (envs : Nat → LoginEnv) (received : Bytes) (server : Server) :
    Server :=
  if server.conn.reading then
    if inputBufferSize ≤ server.conn.recvLen then { server with conn := server.conn.shutdown }
    else onRead sha envs { server with conn := server.conn.append received }
  else server

def runInput (sha : Sha1) (envs : Nat → LoginEnv) (chunks : List Bytes) (server : Server) :
    Server :=
  chunks.foldl (fun server chunk => handleInput sha envs chunk server) server

end DarkCore.Auth
