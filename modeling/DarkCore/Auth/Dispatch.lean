/-
The dispatch loop against a network that cuts the stream anywhere.

`onRead` on a longer buffer does what it did on the shorter one and then goes on,
provided that no call on the way is a `Disturbs` case.  Run over the chunks, this
makes the commands of a chunked stream those of the whole stream.
-/

import DarkCore.Auth.Handlers

namespace DarkCore.Auth

open Lib
open BigNumber

/-! ### What is compared -/

def Server.initial (auth : AuthSocket) : Server := { conn := .initial auth, calls := [] }

def Server.append (received : Bytes) (server : Server) : Server :=
  { server with conn := server.conn.append received }

def commands (server : Server) : List (AuthCmd × Bytes) :=
  (completedCalls server.calls).map fun call => (call.cmd, call.consumed)

def observed (server : Server) : List (AuthCmd × Bytes) × AuthSocket × List Effect :=
  (commands server, server.conn.auth, server.conn.effects)

/-! ### The loop, one call at a time -/

section Loop

variable (sha : Sha1) (envs : Nat → LoginEnv)

def nextCall (cmd : AuthCmd) (server : Server) : Call :=
  let env := envs (completedCalls server.calls).length
  let answer := handler sha env cmd server.conn
  { cmd := cmd, env := env, before := server.conn, ok := answer.1, after := answer.2 }

def serve (cmd : AuthCmd) (server : Server) : Server :=
  { conn := (nextCall sha envs cmd server).after
    calls := server.calls ++ [nextCall sha envs cmd server] }

variable {sha envs}

variable {server : Server} {code : UInt8} {rest received : Bytes}

theorem nextCall_ok_complete {cmd : AuthCmd}
    (nonempty : server.conn.inputBuffer ≠ [])
    (completed : (nextCall sha envs cmd server).ok = true) : Complete cmd server.conn := by
  by_contra incomplete
  have answer : (handler sha (envs (completedCalls server.calls).length) cmd
      server.conn).1 = false := by
    rcases handler_incomplete sha (envs (completedCalls server.calls).length) cmd nonempty
      incomplete with waits | ⟨_, _, cut⟩
    · rw [waits]
    · rw [cut]
  have refused : (nextCall sha envs cmd server).ok = false := answer
  rw [refused] at completed
  cases completed

theorem onReadLoop_nil (drained : server.conn.inputBuffer = [])
    (fuel : Nat) : onReadLoop sha envs fuel server = server := by
  cases fuel with
  | zero => rfl
  | succ fuel => rw [onReadLoop, drained]

theorem onReadLoop_unknown
    (head : server.conn.inputBuffer = code :: rest)
    (unknown : findCommand server.conn.auth.authed code = none) (fuel : Nat) :
    onReadLoop sha envs (fuel + 1) server = { server with conn := server.conn.shutdown } := by
  rw [onReadLoop, head]
  simp only [unknown]

theorem onReadLoop_known {cmd : AuthCmd}
    (head : server.conn.inputBuffer = code :: rest)
    (known : findCommand server.conn.auth.authed code = some cmd) (fuel : Nat) :
    onReadLoop sha envs (fuel + 1) server =
      if (nextCall sha envs cmd server).ok then
        onReadLoop sha envs fuel (serve sha envs cmd server)
      else serve sha envs cmd server := by
  rw [onReadLoop, head]
  simp only [known]
  rfl

theorem onReadLoop_fuel (fuel more : Nat) (server : Server)
    (enough : server.conn.inputBuffer.length < fuel) :
    onReadLoop sha envs (fuel + more) server = onReadLoop sha envs fuel server := by
  induction fuel generalizing server with
  | zero => exact absurd enough (Nat.not_lt_zero _)
  | succ fuel ih =>
    rw [Nat.add_right_comm]
    cases head : server.conn.inputBuffer with
    | nil => rw [onReadLoop_nil head, onReadLoop_nil head]
    | cons code rest =>
      cases found : findCommand server.conn.auth.authed code with
      | none => rw [onReadLoop_unknown head found, onReadLoop_unknown head found]
      | some cmd =>
        rw [onReadLoop_known head found, onReadLoop_known head found]
        split
        · next completed =>
            have nonempty : server.conn.inputBuffer ≠ [] := by
              simp [head]
            have shorter : (serve sha envs cmd server).conn.inputBuffer.length <
                server.conn.inputBuffer.length :=
              handler_shorter sha _ (nextCall_ok_complete nonempty completed)
            exact ih _ (by omega)
        · rfl

theorem onRead_nil (drained : server.conn.inputBuffer = []) :
    onRead sha envs server = server :=
  onReadLoop_nil drained _

section

variable (head : server.conn.inputBuffer = code :: rest)
include head

theorem onRead_unknown
    (unknown : findCommand server.conn.auth.authed code = none) :
    onRead sha envs server = { server with conn := server.conn.shutdown } :=
  onReadLoop_unknown head unknown _

theorem onRead_completed {cmd : AuthCmd}
    (known : findCommand server.conn.auth.authed code = some cmd)
    (completed : (nextCall sha envs cmd server).ok = true) :
    onRead sha envs server = onRead sha envs (serve sha envs cmd server) := by
  have nonempty : server.conn.inputBuffer ≠ [] := by
    simp [head]
  have shorter : (serve sha envs cmd server).conn.inputBuffer.length <
      server.conn.inputBuffer.length :=
    handler_shorter sha _ (nextCall_ok_complete nonempty completed)
  unfold onRead
  rw [onReadLoop_known head known, if_pos completed]
  obtain ⟨more, same⟩ := Nat.exists_eq_add_of_le (Nat.succ_le_of_lt shorter)
  rw [same]
  exact onReadLoop_fuel _ more _ (Nat.lt_succ_self _)

theorem onRead_failed {cmd : AuthCmd}
    (known : findCommand server.conn.auth.authed code = some cmd)
    (failed : (nextCall sha envs cmd server).ok = false) :
    onRead sha envs server = serve sha envs cmd server := by
  unfold onRead
  rw [onReadLoop_known head known, if_neg (by simp [failed])]

end

variable (sha envs) in
theorem onRead_induction {motive : Server → Prop}
    (drained : ∀ server, server.conn.inputBuffer = [] → motive server)
    (unknown : ∀ server code rest, server.conn.inputBuffer = code :: rest →
      findCommand server.conn.auth.authed code = none → motive server)
    (failed : ∀ server code rest cmd, server.conn.inputBuffer = code :: rest →
      findCommand server.conn.auth.authed code = some cmd →
      (nextCall sha envs cmd server).ok = false → motive server)
    (completed : ∀ server code rest cmd, server.conn.inputBuffer = code :: rest →
      findCommand server.conn.auth.authed code = some cmd →
      (nextCall sha envs cmd server).ok = true → Complete cmd server.conn →
      motive (serve sha envs cmd server) → motive server)
    (server : Server) : motive server := by
  induction size : server.conn.inputBuffer.length using Nat.strong_induction_on
    generalizing server with
  | _ bound ih =>
    cases head : server.conn.inputBuffer with
    | nil => exact drained server head
    | cons code rest =>
      cases found : findCommand server.conn.auth.authed code with
      | none => exact unknown server code rest head found
      | some cmd =>
        cases answer : (nextCall sha envs cmd server).ok with
        | false => exact failed server code rest cmd head found answer
        | true =>
          have nonempty : server.conn.inputBuffer ≠ [] := by
            simp [head]
          have complete := nextCall_ok_complete nonempty answer
          have shorter : (serve sha envs cmd server).conn.inputBuffer.length < bound := by
            rw [← size]
            exact handler_shorter sha _ complete
          exact completed server code rest cmd head found answer complete
            (ih _ shorter _ rfl)

/-! ### The loop does not look at its record -/

theorem commands_length (server : Server) :
    (commands server).length = (completedCalls server.calls).length :=
  List.length_map _

theorem commands_serve (cmd : AuthCmd) (server : Server) :
    commands (serve sha envs cmd server) =
      if (nextCall sha envs cmd server).ok then
        commands server ++ [(cmd, (nextCall sha envs cmd server).consumed)]
      else commands server := by
  unfold commands serve completedCalls
  rw [List.filter_append]
  cases answer : (nextCall sha envs cmd server).ok with
  | true =>
    have recorded : (nextCall sha envs cmd server).cmd = cmd := rfl
    simp [answer, recorded]
  | false => simp [answer]

structure SameRecord (left right : Server) : Prop where
  conn : left.conn = right.conn
  commands : commands left = commands right

theorem SameRecord.trans {first second third : Server} (left : SameRecord first second)
    (right : SameRecord second third) : SameRecord first third :=
  ⟨left.conn.trans right.conn, left.commands.trans right.commands⟩

theorem SameRecord.observed {left right : Server} (same : SameRecord left right) :
    observed left = observed right := by
  unfold Auth.observed
  rw [same.commands, same.conn]

theorem SameRecord.nextCall {left right : Server} (same : SameRecord left right)
    (cmd : AuthCmd) : nextCall sha envs cmd left = nextCall sha envs cmd right := by
  have count := congrArg List.length same.commands
  rw [commands_length, commands_length] at count
  unfold Auth.nextCall
  rw [same.conn, count]

theorem SameRecord.serve {left right : Server} (same : SameRecord left right) (cmd : AuthCmd) :
    SameRecord (serve sha envs cmd left) (serve sha envs cmd right) where
  conn := congrArg Call.after (same.nextCall cmd)
  commands := by
    rw [commands_serve, commands_serve, same.nextCall, same.commands]

theorem onRead_sameRecord (left right : Server) (same : SameRecord left right) :
    SameRecord (onRead sha envs left) (onRead sha envs right) := by
  induction left using onRead_induction sha envs generalizing right with
  | drained left drained =>
    rw [onRead_nil drained, onRead_nil (same.conn ▸ drained)]
    exact same
  | unknown left code rest head found =>
    rw [onRead_unknown head found, onRead_unknown (same.conn ▸ head) (same.conn ▸ found)]
    exact ⟨congrArg Connection.shutdown same.conn, same.commands⟩
  | failed left code rest cmd head found answer =>
    rw [onRead_failed head found answer,
      onRead_failed (same.conn ▸ head) (same.conn ▸ found) (same.nextCall cmd ▸ answer)]
    exact same.serve cmd
  | completed left code rest cmd head found answer complete ih =>
    have rightStep : onRead sha envs right = onRead sha envs (Auth.serve sha envs cmd right) :=
      onRead_completed (same.conn ▸ head) (same.conn ▸ found) (same.nextCall cmd ▸ answer)
    rw [onRead_completed head found answer, rightStep]
    exact ih _ (same.serve cmd)

/-! ### Bytes that arrive behind the buffer -/

variable (sha envs) in
theorem nextCall_append {cmd : AuthCmd} {server : Server} (extra : Bytes)
    (complete : Complete cmd server.conn) :
    (nextCall sha envs cmd (server.append extra)).ok = (nextCall sha envs cmd server).ok ∧
      (nextCall sha envs cmd (server.append extra)).after =
        (nextCall sha envs cmd server).after.append extra ∧
      (nextCall sha envs cmd (server.append extra)).consumed =
        (nextCall sha envs cmd server).consumed := by
  have answer := handler_append sha (envs (completedCalls server.calls).length) cmd extra complete
  have ok : (nextCall sha envs cmd (server.append extra)).ok =
      (nextCall sha envs cmd server).ok :=
    (congrArg Prod.fst answer).trans rfl
  have after : (nextCall sha envs cmd (server.append extra)).after =
      (nextCall sha envs cmd server).after.append extra :=
    (congrArg Prod.snd answer).trans rfl
  refine ⟨ok, after, ?_⟩
  unfold Call.consumed
  rw [after]
  have beforeAppended : (nextCall sha envs cmd (server.append extra)).before.inputBuffer =
      (nextCall sha envs cmd server).before.inputBuffer ++ extra := rfl
  rw [beforeAppended]
  simp only [Connection.append, List.length_append, Nat.add_sub_add_right]
  exact List.take_append_of_le_length (Nat.sub_le _ _)

variable (sha envs) in
theorem serve_append {cmd : AuthCmd} {server : Server} (extra : Bytes)
    (complete : Complete cmd server.conn) :
    SameRecord (serve sha envs cmd (server.append extra))
      ((serve sha envs cmd server).append extra) := by
  obtain ⟨ok, after, consumed⟩ := nextCall_append sha envs extra complete
  have recorded : commands ((serve sha envs cmd server).append extra) =
      commands (serve sha envs cmd server) := rfl
  have sameCommands : commands (server.append extra) = commands server := rfl
  refine ⟨after, ?_⟩
  rw [recorded, commands_serve, commands_serve, ok, consumed, sameCommands]

theorem append_head (extra : Bytes)
    (head : server.conn.inputBuffer = code :: rest) :
    (server.append extra).conn.inputBuffer = code :: (rest ++ extra) := by
  unfold Server.append Connection.append
  rw [head, List.cons_append]

def AtRest (server : Server) : Prop :=
  server.conn.inputBuffer = [] ∨
    ∃ code rest cmd, server.conn.inputBuffer = code :: rest ∧
      findCommand server.conn.auth.authed code = some cmd ∧
      ¬ Complete cmd server.conn ∧ ¬ Disturbs cmd server.conn

def Calm (server : Server) : Prop := ∀ call ∈ server.calls, ¬ Disturbs call.cmd call.before

variable (sha envs) in
theorem onRead_calls (server : Server) :
    ∃ new, (onRead sha envs server).calls = server.calls ++ new := by
  induction server using onRead_induction sha envs with
  | drained server drained =>
    rw [onRead_nil drained]
    exact ⟨[], (List.append_nil _).symm⟩
  | unknown server code rest head found =>
    rw [onRead_unknown head found]
    exact ⟨[], (List.append_nil _).symm⟩
  | failed server code rest cmd head found answer =>
    rw [onRead_failed head found answer]
    exact ⟨_, rfl⟩
  | completed server code rest cmd head found answer complete ih =>
    obtain ⟨new, more⟩ := ih
    rw [onRead_completed head found answer, more]
    exact ⟨nextCall sha envs cmd server :: new, by simp [serve]⟩

theorem Calm.of_onRead (calm : Calm (onRead sha envs server)) : Calm server := by
  obtain ⟨new, calls⟩ := onRead_calls sha envs server
  intro call member
  apply calm
  rw [calls]
  exact List.mem_append_left new member

/-- What the loop leaves behind: either it waits, and more bytes find it where the
longer buffer would have brought it, or the connection is closed for good. -/
theorem onRead_extend (server : Server) (calm : Calm (onRead sha envs server)) :
    ((onRead sha envs server).conn.reading = server.conn.reading ∧ AtRest (onRead sha envs server) ∧
      ∀ extra, SameRecord (onRead sha envs (server.append extra))
        (onRead sha envs ((onRead sha envs server).append extra))) ∨
    ((onRead sha envs server).conn.reading = false ∧
      ∀ extra, observed (onRead sha envs (server.append extra)) =
        observed (onRead sha envs server)) := by
  induction server using onRead_induction sha envs with
  | drained server drained =>
    left
    rw [onRead_nil drained]
    exact ⟨rfl, Or.inl drained, fun extra => ⟨rfl, rfl⟩⟩
  | unknown server code rest head found =>
    right
    rw [onRead_unknown head found]
    refine ⟨rfl, ?_⟩
    intro extra
    rw [onRead_unknown (append_head extra head) found]
    rfl
  | failed server code rest cmd head found answer =>
    have nonempty : server.conn.inputBuffer ≠ [] := by
      simp [head]
    have failedStep := onRead_failed head found answer
    have quiet : ¬ Disturbs cmd server.conn := by
      apply calm (nextCall sha envs cmd server)
      rw [failedStep]
      exact List.mem_append_right _ (List.mem_singleton.mpr rfl)
    rw [failedStep]
    by_cases complete : Complete cmd server.conn
    · -- A refused command: the handler has shut the connection down.
      right
      have closed := (handler_complete sha (envs (completedCalls server.calls).length)
        complete).2 quiet
      have refused : (handler sha (envs (completedCalls server.calls).length) cmd
          server.conn).1 = false := answer
      rw [refused, Bool.false_and] at closed
      refine ⟨closed, ?_⟩
      intro extra
      obtain ⟨ok, after, _⟩ := nextCall_append sha envs extra complete
      rw [onRead_failed (append_head extra head) found (ok.trans answer)]
      have same := serve_append sha envs extra complete
      rw [same.observed]
      rfl
    · left
      have waits := handler_waits sha (envs (completedCalls server.calls).length) nonempty
        quiet complete
      have unchanged : (serve sha envs cmd server).conn = server.conn :=
        congrArg Prod.snd waits
      have sameCommands : commands (serve sha envs cmd server) = commands server := by
        rw [commands_serve, if_neg (by simp [answer])]
      refine ⟨by rw [unchanged], ?_, ?_⟩
      · right
        rw [unchanged]
        exact ⟨code, rest, cmd, head, found, complete, quiet⟩
      · intro extra
        apply onRead_sameRecord
        refine ⟨?_, sameCommands.symm⟩
        unfold Server.append
        rw [unchanged]
  | completed server code rest cmd head found answer complete ih =>
    have step := onRead_completed head found answer
    have servedCalm : Calm (onRead sha envs (serve sha envs cmd server)) := by
      simp_all
    have quiet : ¬ Disturbs cmd server.conn := by
      apply servedCalm.of_onRead (nextCall sha envs cmd server)
      exact List.mem_append_right _ (List.mem_singleton.mpr rfl)
    have stillOpen := (handler_complete sha (envs (completedCalls server.calls).length)
      complete).2 quiet
    have accepted : (handler sha (envs (completedCalls server.calls).length) cmd
        server.conn).1 = true := answer
    rw [accepted, Bool.true_and] at stillOpen
    have longer (extra : Bytes) : SameRecord (onRead sha envs (server.append extra))
        (onRead sha envs ((serve sha envs cmd server).append extra)) := by
      obtain ⟨ok, _, _⟩ := nextCall_append sha envs extra complete
      have appendedStep : onRead sha envs (server.append extra) =
          onRead sha envs (serve sha envs cmd (server.append extra)) :=
        onRead_completed (append_head extra head) found (ok.trans answer)
      rw [appendedStep]
      exact onRead_sameRecord _ _ (serve_append sha envs extra complete)
    rw [step]
    rcases ih servedCalm with ⟨reading, rest, same⟩ | ⟨closed, same⟩
    · left
      refine ⟨reading.trans stillOpen, rest, ?_⟩
      intro extra
      exact (longer extra).trans (same extra)
    · right
      refine ⟨closed, ?_⟩
      intro extra
      rw [(longer extra).observed, same extra]

/-! ### Runs over chunks -/

def Call.Faithful (sha : Sha1) (call : Call) : Prop :=
  call.before.inputBuffer ≠ [] ∧
    handler sha call.env call.cmd call.before = (call.ok, call.after)

def Chained (sha : Sha1) : AuthSocket → List Call → AuthSocket → Prop
  | auth, [], final => auth = final
  | auth, call :: rest, final =>
    call.before.auth = auth ∧ call.Faithful sha ∧ Chained sha call.after.auth rest final

theorem Chained.snoc {auth final : AuthSocket} {calls : List Call} {call : Call}
    (chained : Chained sha auth calls final) (before : call.before.auth = final)
    (faithful : call.Faithful sha) : Chained sha auth (calls ++ [call]) call.after.auth := by
  induction calls generalizing auth with
  | nil => exact ⟨before.trans chained.symm, faithful, rfl⟩
  | cons first rest ih =>
    obtain ⟨start, firstFaithful, more⟩ := chained
    exact ⟨start, firstFaithful, ih more⟩

theorem Chained.faithful {auth final : AuthSocket} {calls : List Call}
    (chained : Chained sha auth calls final) : ∀ call ∈ calls, call.Faithful sha := by
  induction calls generalizing auth with
  | nil =>
    simp
  | cons first rest ih =>
    obtain ⟨_, firstFaithful, more⟩ := chained
    intro call member
    rcases List.mem_cons.mp member with rfl | later
    · exact firstFaithful
    · exact ih more call later

theorem onRead_invariant {motive : Server → Prop}
    (shut : ∀ server, motive server → motive { server with conn := server.conn.shutdown })
    (served : ∀ server cmd, server.conn.inputBuffer ≠ [] → motive server →
      motive (serve sha envs cmd server))
    (server : Server) (start : motive server) : motive (onRead sha envs server) := by
  have nonempty {server : Server} {code : UInt8} {rest : Bytes}
      (head : server.conn.inputBuffer = code :: rest) : server.conn.inputBuffer ≠ [] := by
    simp [head]
  induction server using onRead_induction sha envs with
  | drained server drained =>
    rw [onRead_nil drained]
    exact start
  | unknown server code rest head found =>
    rw [onRead_unknown head found]
    exact shut server start
  | failed server code rest cmd head found answer =>
    rw [onRead_failed head found answer]
    exact served server cmd (nonempty head) start
  | completed server code rest cmd head found answer complete ih =>
    rw [onRead_completed head found answer]
    exact ih (served server cmd (nonempty head) start)

variable (sha envs) in
theorem handleInput_cases (received : Bytes) (server : Server) :
    (server.conn.reading = false ∧ handleInput sha envs received server = server) ∨
    (server.conn.reading = true ∧ inputBufferSize ≤ server.conn.inputBuffer.length ∧
      handleInput sha envs received server = { server with conn := server.conn.shutdown }) ∨
    (server.conn.reading = true ∧
      handleInput sha envs received server = onRead sha envs (server.append received)) := by
  unfold handleInput
  cases reading : server.conn.reading with
  | false => exact Or.inl ⟨rfl, rfl⟩
  | true =>
    right
    by_cases full : inputBufferSize ≤ server.conn.recvLen
    · exact Or.inl ⟨rfl, full, by rw [if_pos rfl, if_pos full]⟩
    · exact Or.inr ⟨rfl, by rw [if_pos rfl, if_neg full]; rfl⟩

theorem runInput_invariant {motive : Server → Prop}
    (appended : ∀ server received, motive server → motive (server.append received))
    (shut : ∀ server, motive server → motive { server with conn := server.conn.shutdown })
    (served : ∀ server cmd, server.conn.inputBuffer ≠ [] → motive server →
      motive (serve sha envs cmd server))
    (chunks : List Bytes) (server : Server) (start : motive server) :
    motive (runInput sha envs chunks server) := by
  induction chunks generalizing server with
  | nil => exact start
  | cons chunk rest ih =>
    refine ih (handleInput sha envs chunk server) ?_
    rcases handleInput_cases sha envs chunk server with ⟨_, same⟩ | ⟨_, _, closed⟩ | ⟨_, read⟩
    · simp_all
    · simp_all
    · rw [read]
      exact onRead_invariant shut served _ (appended server chunk start)

variable (sha envs) in
theorem runInput_chained (auth : AuthSocket) (chunks : List Bytes) :
    Chained sha auth (runInput sha envs chunks (Server.initial auth)).calls
      (runInput sha envs chunks (Server.initial auth)).conn.auth := by
  refine runInput_invariant (motive := fun server =>
    Chained sha auth server.calls server.conn.auth) ?_ ?_ ?_ chunks _ ?_
  · intro server received chained
    exact chained
  · intro server chained
    exact chained
  · intro server cmd nonempty chained
    exact Chained.snoc chained rfl ⟨nonempty, rfl⟩
  · rfl

theorem Calm.of_handleInput
    (calm : Calm (handleInput sha envs received server)) : Calm server := by
  rcases handleInput_cases sha envs received server with
    ⟨_, same⟩ | ⟨_, _, closed⟩ | ⟨_, read⟩
  · simp_all
  · rw [closed] at calm
    exact calm
  · rw [read] at calm
    exact calm.of_onRead

theorem Calm.of_runInput {chunks : List Bytes}
    (calm : Calm (runInput sha envs chunks server)) : Calm server := by
  induction chunks generalizing server with
  | nil => exact calm
  | cons chunk rest ih => exact (ih calm).of_handleInput

def Tracks (sha : Sha1) (envs : Nat → LoginEnv) (start server : Server) (received : Bytes) :
    Prop :=
  (server.conn.reading = true ∧ AtRest server ∧
    ∀ extra, observed (onRead sha envs (start.append (received ++ extra))) =
      observed (onRead sha envs (server.append extra))) ∨
  (server.conn.reading = false ∧
    ∀ extra, observed (onRead sha envs (start.append (received ++ extra))) = observed server)

/-- A buffer that is full although nothing disturbed it holds a patch command
that waits for ever. -/
theorem atRest_full (rest : AtRest server)
    (full : inputBufferSize ≤ server.conn.inputBuffer.length) (extra : Bytes) :
    observed (onRead sha envs (server.append extra)) = observed server := by
  rcases rest with drained | ⟨code, tail, cmd, head, found, incomplete, quiet⟩
  · rw [drained] at full
    exact absurd full (by decide)
  · have stuck : handler sha (envs (completedCalls server.calls).length) cmd
        (server.append extra).conn = (false, (server.append extra).conn) :=
      handler_stuck sha _ (le_trans (by decide) full) quiet incomplete
        (Connection.append_auth extra server.conn)
    have answer : (nextCall sha envs cmd (server.append extra)).ok = false :=
      congrArg Prod.fst stuck
    have unchanged : (serve sha envs cmd (server.append extra)).conn =
        (server.append extra).conn := congrArg Prod.snd stuck
    rw [onRead_failed (append_head extra head) found answer]
    unfold observed
    rw [commands_serve, if_neg (by simp [answer]), unchanged]
    rfl

theorem Tracks.observed {start : Server} (last : Bytes)
    (tracks : Tracks sha envs start server received) :
    observed (handleInput sha envs last server) =
      observed (onRead sha envs (start.append (received ++ last))) := by
  rcases tracks with ⟨reading, rest, same⟩ | ⟨closed, same⟩
  · rcases handleInput_cases sha envs last server with
      ⟨notReading, _⟩ | ⟨_, full, shut⟩ | ⟨_, read⟩
    · simp_all
    · rw [same, atRest_full rest full, shut]
      rfl
    · rw [same, read]
  · rcases handleInput_cases sha envs last server with
      ⟨_, unchanged⟩ | ⟨reading, _, _⟩ | ⟨reading, _⟩
    · rw [same, unchanged]
    · simp_all
    · simp_all

theorem Tracks.step {start : Server} (chunk : Bytes)
    (tracks : Tracks sha envs start server received)
    (calm : Calm (handleInput sha envs chunk server)) :
    Tracks sha envs start (handleInput sha envs chunk server) (received ++ chunk) := by
  rcases tracks with ⟨reading, rest, same⟩ | ⟨closed, same⟩
  · rcases handleInput_cases sha envs chunk server with
      ⟨notReading, _⟩ | ⟨_, full, shut⟩ | ⟨_, read⟩
    · simp_all
    · right
      rw [shut]
      refine ⟨rfl, ?_⟩
      intro extra
      rw [List.append_assoc, same, atRest_full rest full]
      rfl
    · have assembled (extra : Bytes) :
          (server.append chunk).append extra = server.append (chunk ++ extra) := by
        simp [Server.append, Connection.append]
      rw [read] at calm ⊢
      rcases onRead_extend (server.append chunk) calm with
        ⟨stillOpen, atRest, extended⟩ | ⟨closed, final⟩
      · left
        refine ⟨stillOpen.trans reading, atRest, ?_⟩
        intro extra
        rw [List.append_assoc, same, ← assembled]
        exact (extended extra).observed
      · right
        refine ⟨closed, ?_⟩
        intro extra
        rw [List.append_assoc, same, ← assembled]
        exact final extra
  · rcases handleInput_cases sha envs chunk server with
      ⟨_, unchanged⟩ | ⟨reading, _, _⟩ | ⟨reading, _⟩
    · right
      rw [unchanged]
      refine ⟨closed, ?_⟩
      intro extra
      rw [List.append_assoc, same]
    · simp_all
    · simp_all

theorem Tracks.run {start : Server} (chunks : List Bytes)
    (tracks : Tracks sha envs start server received)
    (calm : Calm (runInput sha envs chunks server)) :
    Tracks sha envs start (runInput sha envs chunks server) (received ++ chunks.flatten) := by
  induction chunks generalizing server received with
  | nil =>
    rw [List.flatten_nil, List.append_nil]
    exact tracks
  | cons chunk rest ih =>
    have first := tracks.step chunk (Calm.of_runInput calm)
    rw [List.flatten_cons, ← List.append_assoc]
    exact ih first calm

theorem Tracks.initial (auth : AuthSocket) :
    Tracks sha envs (Server.initial auth) (Server.initial auth) [] :=
  Or.inl ⟨rfl, Or.inl rfl, fun _ => rfl⟩

end Loop

/-- In every run whose calls so far were not disturbing, the next chunk leaves the
server with the commands, the session and the effects that the whole stream in one
buffer gives; and a command of which bytes were missing consumed none. -/
theorem observed_chunked_eq_whole (sha : Sha1) (envs : Nat → LoginEnv) (auth : AuthSocket)
    (chunks : List Bytes) (last : Bytes)
    (calm : Calm (runInput sha envs chunks (Server.initial auth))) :
    observed (handleInput sha envs last (runInput sha envs chunks (Server.initial auth))) =
        observed (onRead sha envs ((Server.initial auth).append (chunks.flatten ++ last))) ∧
      ∀ call ∈ (runInput sha envs chunks (Server.initial auth)).calls,
        ¬ Complete call.cmd call.before → call.ok = false ∧ call.after = call.before := by
  constructor
  · exact ((Tracks.initial auth).run chunks calm).observed last
  · intro call member incomplete
    obtain ⟨nonempty, answer⟩ := (runInput_chained sha envs auth chunks).faithful call member
    rw [handler_waits sha call.env nonempty (calm call member) incomplete] at answer
    exact ⟨(congrArg Prod.fst answer).symm, (congrArg Prod.snd answer).symm⟩

def bannedEnv : LoginEnv where
  remoteAddress := []
  ipBanned := true
  logonChallenge _ := none
  accBanned _ := none
  sessionKey _ := none
  accIdByName _ := none
  failedLogins _ := none
  numCharsOnRealm _ _ := none
  realms := []
  randSalt := 0
  randB := 0
  randUnk3 := 0
  randReconnect := 0
  wrongPassMaxCount := 0
  wrongPassBanTime := 0
  wrongPassBanType := false
  heapTail := []

/-- The logon challenge of a client of build 12340 for the account name `AB`. -/
def challengeAB : Bytes :=
  [0x00, 0x08, 0x20, 0x00] ++ [0x57, 0x6F, 0x57, 0x00] ++ [3, 3, 5] ++ [0x34, 0x30] ++
    [0x36, 0x38, 0x78, 0x00] ++ [0x6E, 0x69, 0x57, 0x00] ++ [0x53, 0x55, 0x6E, 0x65] ++
    [0, 0, 0, 0] ++ [127, 0, 0, 1] ++ [2, 0x41, 0x42]

/-- A challenge in one piece, then a second one of which 20 bytes arrive first. -/
theorem observed_chunked_eq_whole_challenges :
    Calm (runInput sha1 (fun _ => bannedEnv) [challengeAB, challengeAB.take 20]
        (Server.initial (AuthSocket.initial 0 0 false))) ∧
      observed (handleInput sha1 (fun _ => bannedEnv) (challengeAB.drop 20)
          (runInput sha1 (fun _ => bannedEnv) [challengeAB, challengeAB.take 20]
            (Server.initial (AuthSocket.initial 0 0 false)))) =
        observed (onRead sha1 (fun _ => bannedEnv)
          ((Server.initial (AuthSocket.initial 0 0 false)).append
            ([challengeAB, challengeAB.take 20].flatten ++ challengeAB.drop 20))) := by
  have calm : Calm (runInput sha1 (fun _ => bannedEnv)
      [challengeAB, challengeAB.take 20] (Server.initial (AuthSocket.initial 0 0 false))) := by
    unfold Calm
    decide +kernel
  exact ⟨calm, (observed_chunked_eq_whole sha1 (fun _ => bannedEnv)
    (AuthSocket.initial 0 0 false) [challengeAB, challengeAB.take 20] (challengeAB.drop 20) calm).1⟩

/-- The last byte of a challenge comes in a chunk of its own: the header is lost,
and what is left starts with an unknown command. -/
theorem commands_lose_split_challenge :
    ¬ ∀ (sha : Sha1) (envs : Nat → LoginEnv) (auth : AuthSocket) (chunks : List Bytes),
      commands (runInput sha envs chunks (Server.initial auth)) =
        commands (onRead sha envs ((Server.initial auth).append chunks.flatten)) := by
  intro claimed
  have atBoundary := claimed sha1 (fun _ => bannedEnv) (AuthSocket.initial 0 0 false)
    [challengeAB.take 35, challengeAB.drop 35]
  revert atBoundary
  decide +kernel

end DarkCore.Auth
