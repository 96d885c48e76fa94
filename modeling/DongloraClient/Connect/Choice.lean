import DongloraClient.Connect.Selection

/-! # What a connect call chooses

A handler that executes the entry points in surroundings that change only while a
call sleeps, and the choice each entry point makes there: a pure function of the
sticky flag, the options and the surroundings. The entry points carry out exactly
their choices.
-/

namespace DongloraClient.Connect

open Foundation

variable {types : WireTypes}

structure Surroundings where
  var : Variable → Option String
  pathExists : String → Bool
  tcp : (host : String) → (port : UInt16) → (timeout : Duration) → TcpOutcome
  unix : (path : String) → Option String
  serial : (path : String) → Option String
  ports : Option (List PortInfo)

namespace Surroundings

def tcpAddress (surroundings : Surroundings) : Option (String × UInt16) :=
  (surroundings.var .muxTcp).bind parseTcpEndpoint

def reachableTcp (surroundings : Surroundings) (timeout : Duration) : Option String :=
  match surroundings.tcpAddress with
  | none => none
  | some (host, port) =>
      if surroundings.tcp host port timeout = .connected then some (endpoint host port)
      else none

def defaultSocketPath (surroundings : Surroundings) : String :=
  match surroundings.var .mux with
  | some path => path
  | none =>
      match surroundings.var .xdgRuntimeDir with
      | some directory => xdgSocket directory
      | none => tmpSocket

def socketAt (surroundings : Surroundings) (path : String) : Option String :=
  if surroundings.pathExists path then some path else none

def findMuxSocket (surroundings : Surroundings) : Option String :=
  match surroundings.var .mux with
  | some path => surroundings.socketAt path
  | none =>
      match surroundings.var .xdgRuntimeDir with
      | some directory =>
          (surroundings.socketAt (xdgSocket directory)).or (surroundings.socketAt tmpSocket)
      | none => surroundings.socketAt tmpSocket

def findPort (surroundings : Surroundings) : Option String :=
  surroundings.ports.bind choosePort

def TcpUnavailable (surroundings : Surroundings) (timeout : Duration) : Prop :=
  surroundings.var .muxTcp = none ∨
    (∃ address, surroundings.var .muxTcp = some address ∧ parseTcpEndpoint address = none) ∨
    ∃ address host port, surroundings.var .muxTcp = some address ∧
      parseTcpEndpoint address = some (host, port) ∧
      surroundings.tcp host port timeout ≠ .connected

theorem reachableTcp_eq_none_iff {surroundings : Surroundings} {timeout : Duration} :
    surroundings.reachableTcp timeout = none ↔ surroundings.TcpUnavailable timeout := by
  rw [reachableTcp, TcpUnavailable, tcpAddress]
  cases surroundings.var .muxTcp with
  | none => simp
  | some address =>
      cases parsed : parseTcpEndpoint address with
      | none => simp [parsed]
      | some target =>
          rcases target with ⟨host, port⟩
          simp [parsed]

theorem socketAt_eq_some {surroundings : Surroundings} {candidate path : String}
    (found : surroundings.socketAt candidate = some path) :
    surroundings.pathExists path = true := by
  rw [socketAt] at found
  split at found
  · next present =>
    cases found
    exact present
  · cases found

theorem findMuxSocket_exists {surroundings : Surroundings} {path : String}
    (found : surroundings.findMuxSocket = some path) :
    surroundings.pathExists path = true := by
  rw [findMuxSocket] at found
  split at found
  · exact socketAt_eq_some found
  · split at found
    · rcases Option.or_eq_some_iff.mp found with xdg | ⟨_, tmp⟩
      · exact socketAt_eq_some xdg
      · exact socketAt_eq_some tmp
    · exact socketAt_eq_some found

theorem findMuxSocket_defaultSocketPath {surroundings : Surroundings}
    (present : surroundings.pathExists surroundings.defaultSocketPath = true) :
    surroundings.findMuxSocket = some surroundings.defaultSocketPath := by
  rw [defaultSocketPath] at present ⊢
  rw [findMuxSocket]
  cases muxSet : surroundings.var .mux with
  | some path =>
      simp only [muxSet] at present
      simp [socketAt, present]
  | none =>
      cases xdgSet : surroundings.var .xdgRuntimeDir <;>
        · simp only [muxSet, xdgSet] at present
          simp [socketAt, present]

theorem defaultSocketPath_absent {surroundings : Surroundings}
    (absent : surroundings.findMuxSocket = none) :
    surroundings.pathExists surroundings.defaultSocketPath = false := by
  cases present : surroundings.pathExists surroundings.defaultSocketPath with
  | false => rfl
  | true =>
      rw [findMuxSocket_defaultSocketPath present] at absent
      cases absent

end Surroundings

/-! ## Execution -/

/-- What one call meets: its surroundings after each number of sleeps, and the
outcome of the handshake, `none` where it never ends. -/
structure Environment (types : WireTypes) where
  surroundings : Nat → Surroundings
  handshake : TransportKind → ConnectOptions types → Duration → Option (ClientResult Unit)

def Environment.fixed (surroundings : Surroundings)
    (handshake : TransportKind → ConnectOptions types → Duration →
      Option (ClientResult Unit)) : Environment types :=
  ⟨fun _ => surroundings, handshake⟩

structure Attempt where
  kind : TransportKind
  opened : Bool
  deriving DecidableEq, Repr

/-- `attempts` lists those of the call, newest first. -/
structure Progress where
  usedMux : Bool
  attempts : List Attempt
  sleeps : Nat
  deriving DecidableEq, Repr

namespace Progress

def attempt (progress : Progress) (kind : TransportKind) (opened : Bool) : Progress :=
  { progress with attempts := ⟨kind, opened⟩ :: progress.attempts }

def remember (progress : Progress) : Progress := { progress with usedMux := true }

def wakeAfter (progress : Progress) (sleeps : Nat) : Progress :=
  { progress with sleeps := sleeps }

def start (usedMux : Bool) : Progress := ⟨usedMux, [], 0⟩

def tryTcp (progress : Progress) (surroundings : Surroundings) (timeout : Duration) :
    Progress :=
  match surroundings.tcpAddress with
  | none => progress
  | some (host, port) =>
      progress.attempt (.muxTcp (endpoint host port))
        (surroundings.tcp host port timeout = .connected)

theorem remember_of_usedMux {progress : Progress} (used : progress.usedMux = true) :
    progress.remember = progress := by
  cases progress
  cases used
  rfl

@[simp] theorem tryTcp_usedMux (progress : Progress) (surroundings : Surroundings)
    (timeout : Duration) :
    (progress.tryTcp surroundings timeout).usedMux = progress.usedMux := by
  rw [tryTcp]
  split <;> rfl

@[simp] theorem tryTcp_sleeps (progress : Progress) (surroundings : Surroundings)
    (timeout : Duration) :
    (progress.tryTcp surroundings timeout).sleeps = progress.sleeps := by
  rw [tryTcp]
  split <;> rfl

@[simp] theorem start_usedMux (usedMux : Bool) : (start usedMux).usedMux = usedMux := rfl

@[simp] theorem start_sleeps (usedMux : Bool) : (start usedMux).sleeps = 0 := rfl

@[simp] theorem start_wakeAfter_zero (usedMux : Bool) :
    (start usedMux).wakeAfter 0 = start usedMux := rfl

@[simp] theorem wakeAfter_sleeps (progress : Progress) :
    progress.wakeAfter progress.sleeps = progress := rfl

end Progress

def handler (environment : Environment types) :
    (effect : ConnectEffect types) → Progress → Option (ConnectAnswer effect × Progress)
  | .loadUsedMux, progress => some (progress.usedMux, progress)
  | .storeUsedMux value, progress => some ((), { progress with usedMux := value })
  | .var name, progress =>
      some ((environment.surroundings progress.sleeps).var name, progress)
  | .pathExists path, progress =>
      some ((environment.surroundings progress.sleeps).pathExists path, progress)
  | .tcpStream host port timeout, progress =>
      let outcome := (environment.surroundings progress.sleeps).tcp host port timeout
      some (outcome, progress.attempt (.muxTcp (endpoint host port)) (outcome = .connected))
  | .unixStream path, progress =>
      let failure := (environment.surroundings progress.sleeps).unix path
      some (failure, progress.attempt (.muxUnix path) failure.isNone)
  | .serialStream path, progress =>
      let failure := (environment.surroundings progress.sleeps).serial path
      some (failure, progress.attempt (.serial path) failure.isNone)
  | .availablePorts, progress =>
      some ((environment.surroundings progress.sleeps).ports, progress)
  | .sleep _, progress => some ((), progress.wakeAfter (progress.sleeps + 1))
  | .finalize kind options timeout, progress =>
      (environment.handshake kind options timeout).map fun result => (result, progress)
  | .stillWaiting, _ => none

def execute {Result : Type} (environment : Environment types)
    (program : Connecting types Result) (progress : Progress) :
    Option Result × Progress :=
  program.run (handler environment) progress

section Execution

variable (environment : Environment types) (progress : Progress)

theorem execute_bind {First Second : Type} (program : Connecting types First)
    (next : First → Connecting types Second) :
    execute environment (program >>= next) progress =
      Program.andThen (execute environment program progress) fun value reached =>
        execute environment (next value) reached :=
  Program.run_bind (handler environment) program next progress

@[simp] theorem execute_done {Result : Type} (value : Result) :
    execute environment (.done value) progress = (some value, progress) := rfl

@[simp] theorem execute_loadUsedMux :
    execute environment loadUsedMux progress = (some progress.usedMux, progress) := rfl

@[simp] theorem execute_setUsedMux :
    execute environment setUsedMux progress = (some (), progress.remember) := rfl

@[simp] theorem execute_var (name : Variable) :
    execute environment (var name) progress =
      (some ((environment.surroundings progress.sleeps).var name), progress) := rfl

@[simp] theorem execute_pathExists (path : String) :
    execute environment (pathExists path) progress =
      (some ((environment.surroundings progress.sleeps).pathExists path), progress) := rfl

@[simp] theorem execute_sleep (duration : Duration) :
    execute environment (sleep duration) progress =
      (some (), progress.wakeAfter (progress.sleeps + 1)) := rfl

@[simp] theorem execute_stillWaiting {Result : Type} :
    execute environment (stillWaiting : Connecting types Result) progress =
      (none, progress) := rfl

@[simp] theorem execute_finalize (kind : TransportKind) (options : ConnectOptions types)
    (timeout : Duration) :
    execute environment (finalize kind options timeout) progress =
      (environment.handshake kind options timeout, progress) := by
  have handled : handler environment (.finalize kind options timeout) progress =
      (environment.handshake kind options timeout).map fun result => (result, progress) := rfl
  apply (Program.run_perform (handler environment) _ _ progress).trans
  rw [handled]
  cases environment.handshake kind options timeout <;> rfl

@[simp] theorem execute_tcpConnect (host : String) (port : UInt16) (timeout : Duration) :
    execute environment (tcpConnect host port timeout) progress =
      (some (tcpResult host port
          ((environment.surroundings progress.sleeps).tcp host port timeout)),
        progress.attempt (.muxTcp (endpoint host port))
          ((environment.surroundings progress.sleeps).tcp host port timeout =
            .connected)) := rfl

@[simp] theorem execute_unixConnect (path : String) :
    execute environment (unixConnect path) progress =
      (some (streamResult "failed to connect to mux socket " path
          ((environment.surroundings progress.sleeps).unix path)),
        progress.attempt (.muxUnix path)
          ((environment.surroundings progress.sleeps).unix path).isNone) := rfl

@[simp] theorem execute_serialOpen (path : String) :
    execute environment (serialOpen path) progress =
      (some (streamResult "failed to open serial port " path
          ((environment.surroundings progress.sleeps).serial path)),
        progress.attempt (.serial path)
          ((environment.surroundings progress.sleeps).serial path).isNone) := rfl

@[simp] theorem execute_findPort :
    execute environment findPort progress =
      (some (environment.surroundings progress.sleeps).findPort, progress) := rfl

theorem execute_defaultSocketPath :
    execute environment defaultSocketPath progress =
      (some (environment.surroundings progress.sleeps).defaultSocketPath, progress) := by
  rw [defaultSocketPath, Surroundings.defaultSocketPath]
  simp only [execute_bind, execute_var, Program.andThen_some]
  cases (environment.surroundings progress.sleeps).var .mux with
  | some path => rfl
  | none =>
      simp only [execute_bind, execute_var, Program.andThen_some]
      cases (environment.surroundings progress.sleeps).var .xdgRuntimeDir <;> rfl

theorem execute_findTmpSocket :
    execute environment findTmpSocket progress =
      (some ((environment.surroundings progress.sleeps).socketAt tmpSocket), progress) := by
  rw [findTmpSocket, Surroundings.socketAt]
  simp only [execute_bind, execute_pathExists, Program.andThen_some]
  cases (environment.surroundings progress.sleeps).pathExists tmpSocket <;> rfl

theorem execute_findMuxSocket :
    execute environment findMuxSocket progress =
      (some (environment.surroundings progress.sleeps).findMuxSocket, progress) := by
  rw [findMuxSocket, Surroundings.findMuxSocket]
  simp only [execute_bind, execute_var, Program.andThen_some]
  cases (environment.surroundings progress.sleeps).var .mux with
  | some path =>
      simp only [execute_bind, execute_pathExists, Program.andThen_some,
        Surroundings.socketAt]
      cases (environment.surroundings progress.sleeps).pathExists path <;> rfl
  | none =>
      simp only [execute_bind, execute_var, Program.andThen_some]
      cases (environment.surroundings progress.sleeps).var .xdgRuntimeDir with
      | none => exact execute_findTmpSocket environment progress
      | some directory =>
          simp only [execute_bind, execute_pathExists, Program.andThen_some]
          cases present :
              (environment.surroundings progress.sleeps).pathExists (xdgSocket directory) with
          | true => simp [Surroundings.socketAt, present]
          | false => simp [execute_findTmpSocket, Surroundings.socketAt, present]

theorem execute_tryTcpEnv (timeout : Duration) :
    execute environment (tryTcpEnv timeout) progress =
      (some ((environment.surroundings progress.sleeps).reachableTcp timeout),
        progress.tryTcp (environment.surroundings progress.sleeps) timeout) := by
  rw [tryTcpEnv, Surroundings.reachableTcp, Progress.tryTcp, Surroundings.tcpAddress]
  simp only [execute_bind, execute_var, Program.andThen_some]
  cases (environment.surroundings progress.sleeps).var .muxTcp with
  | none => rfl
  | some address =>
      cases parsed : parseTcpEndpoint address with
      | none => simp [parsed]
      | some target =>
          simp only [parsed, execute_bind, execute_tcpConnect, Program.andThen_some,
            Option.bind_some]
          cases (environment.surroundings progress.sleeps).tcp target.1 target.2 timeout <;>
            simp [tcpResult]

end Execution

/-! ## Choices -/

/-- The transport a call settles on; `openedTcp` is one that `try_tcp_env` has
already opened. -/
inductive Choice
  | openedTcp (endpoint : String)
  | tcp (host : String) (port : UInt16)
  | unix (path : String)
  | serial (port : String)
  | unavailable (error : ClientError)
  | waiting

structure Decision where
  triesTcp : Bool
  sleeps : Nat
  choice : Choice

def awaitSocket (timeline : Nat → Surroundings) (path : String) :
    (polls sleeps : Nat) → Decision
  | 0, sleeps =>
      if (timeline sleeps).pathExists path then ⟨true, sleeps, .unix path⟩
      else ⟨true, sleeps + 1, .waiting⟩
  | polls + 1, sleeps =>
      if (timeline sleeps).pathExists path then ⟨true, sleeps, .unix path⟩
      else awaitSocket timeline path polls (sleeps + 1)

/-- A device found while waiting is used after one more sleep. -/
def awaitDevice (timeline : Nat → Surroundings) : (polls sleeps : Nat) → Decision
  | 0, sleeps =>
      match (timeline sleeps).findPort with
      | some port => ⟨true, sleeps + 1, .serial port⟩
      | none => ⟨true, sleeps + 1, .waiting⟩
  | polls + 1, sleeps =>
      match (timeline sleeps).findPort with
      | some port => ⟨true, sleeps + 1, .serial port⟩
      | none => awaitDevice timeline polls (sleeps + 1)

def muxOr (surroundings : Surroundings) (timeout : Duration) (otherwise : Decision) :
    Decision :=
  match surroundings.reachableTcp timeout with
  | some endpoint => ⟨true, 0, .openedTcp endpoint⟩
  | none =>
      match surroundings.findMuxSocket with
      | some path => ⟨true, 0, .unix path⟩
      | none => otherwise

def decideConnect (timeline : Nat → Surroundings) (usedMux : Bool)
    (options : ConnectOptions types) (polls : Nat) : Decision :=
  let timeout := options.timeout.getD defaultTimeout
  match options.port with
  | some port => ⟨false, 0, .serial port⟩
  | none =>
      if usedMux then
        match (timeline 0).reachableTcp timeout with
        | some endpoint => ⟨true, 0, .openedTcp endpoint⟩
        | none => awaitSocket timeline (timeline 0).defaultSocketPath polls 0
      else
        muxOr (timeline 0) timeout
          (match (timeline 0).findPort with
          | some port => ⟨true, 0, .serial port⟩
          | none => awaitDevice timeline polls 0)

def decideTryConnect (surroundings : Surroundings) (usedMux : Bool)
    (options : ConnectOptions types) : Decision :=
  let timeout := options.timeout.getD defaultTimeout
  match options.port with
  | some port => ⟨false, 0, .serial port⟩
  | none =>
      if usedMux then
        match surroundings.findMuxSocket with
        | some path => ⟨false, 0, .unix path⟩
        | none => ⟨false, 0, .unavailable muxNotAvailable⟩
      else
        muxOr surroundings timeout
          (match surroundings.findPort with
          | some port => ⟨true, 0, .serial port⟩
          | none => ⟨true, 0, .unavailable noDeviceFound⟩)

section Equations

variable {timeline : Nat → Surroundings} {surroundings : Surroundings} {usedMux : Bool}
  {options : ConnectOptions types} {polls : Nat}

theorem decideConnect_port {port : String} (explicit : options.port = some port) :
    decideConnect timeline usedMux options polls = ⟨false, 0, .serial port⟩ := by
  simp only [decideConnect, explicit]

theorem decideConnect_sticky (noPort : options.port = none) :
    decideConnect timeline true options polls =
      match (timeline 0).reachableTcp (options.timeout.getD defaultTimeout) with
      | some endpoint => ⟨true, 0, .openedTcp endpoint⟩
      | none => awaitSocket timeline (timeline 0).defaultSocketPath polls 0 := by
  simp only [decideConnect, noPort, if_true]

theorem decideConnect_fresh (noPort : options.port = none) :
    decideConnect timeline false options polls =
      muxOr (timeline 0) (options.timeout.getD defaultTimeout)
        (match (timeline 0).findPort with
        | some port => ⟨true, 0, .serial port⟩
        | none => awaitDevice timeline polls 0) := by
  simp only [decideConnect, noPort, Bool.false_eq_true, if_false]

theorem decideTryConnect_port {port : String} (explicit : options.port = some port) :
    decideTryConnect surroundings usedMux options = ⟨false, 0, .serial port⟩ := by
  simp only [decideTryConnect, explicit]

theorem decideTryConnect_sticky (noPort : options.port = none) :
    decideTryConnect surroundings true options =
      match surroundings.findMuxSocket with
      | some path => ⟨false, 0, .unix path⟩
      | none => ⟨false, 0, .unavailable muxNotAvailable⟩ := by
  simp only [decideTryConnect, noPort, if_true]

theorem decideTryConnect_fresh (noPort : options.port = none) :
    decideTryConnect surroundings false options =
      muxOr surroundings (options.timeout.getD defaultTimeout)
        (match surroundings.findPort with
        | some port => ⟨true, 0, .serial port⟩
        | none => ⟨true, 0, .unavailable noDeviceFound⟩) := by
  simp only [decideTryConnect, noPort, Bool.false_eq_true, if_false]

end Equations

def decideMuxAuto (surroundings : Surroundings) (options : ConnectOptions types) :
    Decision :=
  muxOr surroundings (options.timeout.getD defaultTimeout)
    ⟨true, 0, .unavailable noMuxSocketFound⟩

def carryOut (environment : Environment types) (options : ConnectOptions types)
    (timeout : Duration) (progress : Progress) :
    Choice → Option (ClientResult Unit) × Progress
  | .openedTcp endpoint =>
      (environment.handshake (.muxTcp endpoint) options timeout, progress.remember)
  | .tcp host port =>
      let kind := TransportKind.muxTcp (endpoint host port)
      match tcpResult host port
          ((environment.surroundings progress.sleeps).tcp host port timeout) with
      | .error error => (some (.error error), progress.attempt kind false)
      | .ok () =>
          (environment.handshake kind options timeout, (progress.attempt kind true).remember)
  | .unix path =>
      match (environment.surroundings progress.sleeps).unix path with
      | some text =>
          (some (streamResult "failed to connect to mux socket " path (some text)),
            progress.attempt (.muxUnix path) false)
      | none =>
          (environment.handshake (.muxUnix path) options timeout,
            (progress.attempt (.muxUnix path) true).remember)
  | .serial port =>
      match (environment.surroundings progress.sleeps).serial port with
      | some text =>
          (some (streamResult "failed to open serial port " port (some text)),
            progress.attempt (.serial port) false)
      | none =>
          (environment.handshake (.serial port) options timeout,
            progress.attempt (.serial port) true)
  | .unavailable error => (some (.error error), progress)
  | .waiting => (none, progress)

/-- A whole call: the attempt of `try_tcp_env` if there is one, then the choice. -/
def Decision.outcome (decision : Decision) (environment : Environment types)
    (options : ConnectOptions types) (progress : Progress) :
    Option (ClientResult Unit) × Progress :=
  let timeout := options.timeout.getD defaultTimeout
  let tried := if decision.triesTcp then
      progress.tryTcp (environment.surroundings progress.sleeps) timeout
    else progress
  carryOut environment options timeout (tried.wakeAfter decision.sleeps) decision.choice

/-! ## The entry points carry out their decisions -/

section Decisions

variable (environment : Environment types) (options : ConnectOptions types)
  (timeout : Duration) (progress : Progress)

theorem execute_openSerial (port : String) :
    execute environment (openSerial port options timeout) progress =
      carryOut environment options timeout progress (.serial port) := by
  rw [openSerial, carryOut]
  simp only [execute_bind, execute_serialOpen, Program.andThen_some]
  cases (environment.surroundings progress.sleeps).serial port <;> simp [streamResult]

theorem execute_openUnix_remember (path : String) :
    execute environment (openUnix path true options timeout) progress =
      carryOut environment options timeout progress (.unix path) := by
  rw [openUnix, carryOut]
  simp only [execute_bind, execute_unixConnect, Program.andThen_some]
  cases (environment.surroundings progress.sleeps).unix path <;>
    simp [streamResult, execute_bind]

/-- In the sticky branches the flag is already set. -/
theorem execute_openUnix_used (used : progress.usedMux = true) (path : String) :
    execute environment (openUnix path false options timeout) progress =
      carryOut environment options timeout progress (.unix path) := by
  rw [openUnix, carryOut]
  simp only [execute_bind, execute_unixConnect, Program.andThen_some]
  cases (environment.surroundings progress.sleeps).unix path with
  | some text => simp [streamResult]
  | none =>
      have remembered : (progress.attempt (.muxUnix path) true).remember =
          progress.attempt (.muxUnix path) true := Progress.remember_of_usedMux used
      simp [streamResult, remembered]

theorem execute_pollMux (used : progress.usedMux = true) (path : String)
    (otherwise : Connecting types (ClientResult Unit)) :
    execute environment (pollMux path options timeout otherwise) progress =
      if (environment.surroundings progress.sleeps).pathExists path then
        carryOut environment options timeout progress (.unix path)
      else
        execute environment otherwise (progress.wakeAfter (progress.sleeps + 1)) := by
  rw [pollMux]
  simp only [execute_bind, execute_pathExists, Program.andThen_some]
  cases (environment.surroundings progress.sleeps).pathExists path with
  | true => exact execute_openUnix_used environment options timeout progress used path
  | false => simp [execute_bind]

theorem execute_waitForMux (used : progress.usedMux = true) (path : String) (polls : Nat) :
    execute environment (waitForMux path options timeout polls) progress =
      carryOut environment options timeout
        (progress.wakeAfter
          (awaitSocket environment.surroundings path polls progress.sleeps).sleeps)
        (awaitSocket environment.surroundings path polls progress.sleeps).choice := by
  induction polls generalizing progress with
  | zero =>
      rw [waitForMux, execute_pollMux environment options timeout progress used, awaitSocket]
      split <;> simp [carryOut]
  | succ polls induction =>
      rw [waitForMux, execute_pollMux environment options timeout progress used, awaitSocket]
      split
      · simp
      · exact induction _ used

theorem execute_waitForDevice (polls : Nat) :
    execute environment
        (waitForDevice polls >>= fun port => openSerial port options timeout) progress =
      carryOut environment options timeout
        (progress.wakeAfter
          (awaitDevice environment.surroundings polls progress.sleeps).sleeps)
        (awaitDevice environment.surroundings polls progress.sleeps).choice := by
  induction polls generalizing progress with
  | zero =>
      rw [waitForDevice, pollDevice, awaitDevice]
      simp only [execute_bind, execute_findPort, Program.andThen_some]
      cases (environment.surroundings progress.sleeps).findPort <;>
        simp [execute_bind, execute_openSerial, carryOut]
  | succ polls induction =>
      rw [waitForDevice, pollDevice, awaitDevice]
      simp only [execute_bind, execute_findPort, Program.andThen_some]
      cases (environment.surroundings progress.sleeps).findPort with
      | some port => simp [execute_bind, execute_openSerial]
      | none =>
          simp only [execute_bind, execute_sleep, Program.andThen_some]
          rw [← execute_bind]
          exact induction _

theorem execute_connectMuxSticky (used : progress.usedMux = true) (polls : Nat) :
    execute environment (connectMuxSticky options timeout polls) progress =
      match (environment.surroundings progress.sleeps).reachableTcp timeout with
      | some endpoint =>
          carryOut environment options timeout
            (progress.tryTcp (environment.surroundings progress.sleeps) timeout)
            (.openedTcp endpoint)
      | none =>
          let decision := awaitSocket environment.surroundings
            (environment.surroundings progress.sleeps).defaultSocketPath polls progress.sleeps
          carryOut environment options timeout
            ((progress.tryTcp (environment.surroundings progress.sleeps) timeout).wakeAfter
              decision.sleeps)
            decision.choice := by
  have stillUsed :
      (progress.tryTcp (environment.surroundings progress.sleeps) timeout).usedMux = true := by
    rw [Progress.tryTcp_usedMux, used]
  rw [connectMuxSticky]
  simp only [execute_bind, execute_tryTcpEnv, Program.andThen_some]
  cases (environment.surroundings progress.sleeps).reachableTcp timeout with
  | some endpoint => simp [carryOut, Progress.remember_of_usedMux stillUsed]
  | none =>
      simp only [execute_bind, execute_defaultSocketPath, Program.andThen_some,
        Progress.tryTcp_sleeps]
      rw [execute_waitForMux environment options timeout _ stillUsed]
      simp only [Progress.tryTcp_sleeps]

end Decisions

theorem awaitSocket_triesTcp (timeline : Nat → Surroundings) (path : String)
    (polls sleeps : Nat) : (awaitSocket timeline path polls sleeps).triesTcp = true := by
  induction polls generalizing sleeps with
  | zero =>
      rw [awaitSocket]
      split <;> rfl
  | succ polls induction =>
      rw [awaitSocket]
      split
      · rfl
      · exact induction _

theorem awaitSocket_present {timeline : Nat → Surroundings} {path : String} {sleeps : Nat}
    (polls : Nat) (present : (timeline sleeps).pathExists path = true) :
    awaitSocket timeline path polls sleeps = ⟨true, sleeps, .unix path⟩ := by
  cases polls <;> exact if_pos present

theorem awaitDevice_triesTcp (timeline : Nat → Surroundings) (polls sleeps : Nat) :
    (awaitDevice timeline polls sleeps).triesTcp = true := by
  induction polls generalizing sleeps with
  | zero =>
      rw [awaitDevice]
      split <;> rfl
  | succ polls induction =>
      rw [awaitDevice]
      split
      · rfl
      · exact induction _

section Entries

variable (environment : Environment types) (options : ConnectOptions types) (usedMux : Bool)

def triedTcp : Progress :=
  (Progress.start usedMux).tryTcp (environment.surroundings 0)
    (options.timeout.getD defaultTimeout)

theorem Decision.outcome_of_triesTcp {decision : Decision}
    (tries : decision.triesTcp = true) :
    decision.outcome environment options (.start usedMux) =
      carryOut environment options (options.timeout.getD defaultTimeout)
        ((triedTcp environment options usedMux).wakeAfter decision.sleeps)
        decision.choice := by
  simp only [Decision.outcome, tries, if_true]
  rfl

theorem Decision.outcome_at_once (choice : Choice) :
    (⟨true, 0, choice⟩ : Decision).outcome environment options (.start usedMux) =
      carryOut environment options (options.timeout.getD defaultTimeout)
        (triedTcp environment options usedMux) choice := by
  have awake : (triedTcp environment options usedMux).sleeps = 0 := by
    rw [triedTcp, Progress.tryTcp_sleeps, Progress.start_sleeps]
  rw [Decision.outcome_of_triesTcp _ _ _ rfl, ← awake, Progress.wakeAfter_sleeps]

theorem execute_muxChain {otherwise : Connecting types (ClientResult Unit)}
    {decision : Decision}
    (continues : execute environment otherwise (triedTcp environment options usedMux) =
      decision.outcome environment options (.start usedMux)) :
    execute environment (do
        match ← tryTcpEnv (options.timeout.getD defaultTimeout) with
        | some endpoint =>
            setUsedMux
            finalize (.muxTcp endpoint) options (options.timeout.getD defaultTimeout)
        | none =>
            match ← findMuxSocket with
            | some path =>
                openUnix path true options (options.timeout.getD defaultTimeout)
            | none => otherwise) (.start usedMux) =
      (muxOr (environment.surroundings 0) (options.timeout.getD defaultTimeout)
        decision).outcome environment options (.start usedMux) := by
  rw [muxOr]
  simp only [execute_bind, execute_tryTcpEnv, Program.andThen_some, Progress.start_sleeps]
  cases (environment.surroundings 0).reachableTcp (options.timeout.getD defaultTimeout) with
  | some endpoint =>
      simp only [execute_bind, execute_setUsedMux, Program.andThen_some, execute_finalize]
      exact (Decision.outcome_at_once environment options usedMux (.openedTcp endpoint)).symm
  | none =>
      simp only [execute_bind, execute_findMuxSocket, Program.andThen_some,
        Progress.tryTcp_sleeps, Progress.start_sleeps]
      cases (environment.surroundings 0).findMuxSocket with
      | some path =>
          simp only [Decision.outcome_at_once]
          exact execute_openUnix_remember environment options _ _ path
      | none => exact continues

theorem execute_connectWith (polls : Nat) :
    execute environment (connectWith options polls) (.start usedMux) =
      (decideConnect environment.surroundings usedMux options polls).outcome
        environment options (.start usedMux) := by
  rw [connectWith, decideConnect]
  cases options.port with
  | some port => exact execute_openSerial environment options _ _ port
  | none =>
      simp only [execute_bind, execute_loadUsedMux, Program.andThen_some,
        Progress.start_usedMux]
      cases usedMux with
      | true =>
          simp only [if_true]
          rw [execute_connectMuxSticky environment options _ _ rfl, Progress.start_sleeps]
          cases (environment.surroundings 0).reachableTcp
              (options.timeout.getD defaultTimeout) with
          | some endpoint =>
              exact (Decision.outcome_at_once environment options true _).symm
          | none =>
              rw [Decision.outcome_of_triesTcp _ _ _ (awaitSocket_triesTcp ..)]
              rfl
      | false =>
          rw [if_neg Bool.false_ne_true, if_neg Bool.false_ne_true]
          apply execute_muxChain
          simp only [execute_bind, execute_findPort, Program.andThen_some]
          rw [triedTcp, Progress.tryTcp_sleeps, Progress.start_sleeps]
          cases (environment.surroundings 0).findPort with
          | some port =>
              simp only [Decision.outcome_at_once]
              exact execute_openSerial environment options _ _ port
          | none =>
              rw [Decision.outcome_of_triesTcp _ _ _ (awaitDevice_triesTcp ..)]
              simp only
              rw [execute_waitForDevice, Progress.tryTcp_sleeps]
              rfl

theorem execute_tryConnectWith :
    execute environment (tryConnectWith options) (.start usedMux) =
      (decideTryConnect (environment.surroundings 0) usedMux options).outcome
        environment options (.start usedMux) := by
  rw [tryConnectWith, decideTryConnect]
  cases options.port with
  | some port => exact execute_openSerial environment options _ _ port
  | none =>
      simp only [execute_bind, execute_loadUsedMux, Program.andThen_some,
        Progress.start_usedMux]
      cases usedMux with
      | true =>
          simp only [if_true, execute_bind, execute_findMuxSocket, Program.andThen_some,
            Progress.start_sleeps]
          cases (environment.surroundings 0).findMuxSocket with
          | some path => exact execute_openUnix_used environment options _ _ rfl path
          | none => rfl
      | false =>
          rw [if_neg Bool.false_ne_true, if_neg Bool.false_ne_true]
          apply execute_muxChain
          simp only [execute_bind, execute_findPort, Program.andThen_some]
          rw [triedTcp, Progress.tryTcp_sleeps, Progress.start_sleeps]
          cases (environment.surroundings 0).findPort with
          | some port =>
              simp only [Decision.outcome_at_once]
              exact execute_openSerial environment options _ _ port
          | none =>
              simp only [Decision.outcome_at_once]
              rfl

theorem execute_connectMuxAutoWith :
    execute environment (connectMuxAutoWith options) (.start usedMux) =
      (decideMuxAuto (environment.surroundings 0) options).outcome
        environment options (.start usedMux) := by
  apply execute_muxChain
  rw [Decision.outcome_at_once]
  rfl

theorem ConnectOptions.new_timeout :
    (ConnectOptions.new : ConnectOptions types).timeout.getD defaultTimeout =
      defaultTimeout :=
  Option.getD_none

theorem execute_muxUnixConnect (path : String) :
    execute environment (muxUnixConnect path) (.start usedMux) =
      (⟨false, 0, .unix path⟩ : Decision).outcome environment .new (.start usedMux) := by
  rw [Decision.outcome, ConnectOptions.new_timeout]
  exact execute_openUnix_remember environment .new defaultTimeout _ path

theorem execute_muxTcpConnect (host : String) (port : UInt16) :
    execute environment (muxTcpConnect host port) (.start usedMux) =
      (⟨false, 0, .tcp host port⟩ : Decision).outcome environment .new (.start usedMux) := by
  rw [Decision.outcome, ConnectOptions.new_timeout, muxTcpConnect, carryOut]
  simp only [execute_bind, execute_tcpConnect, Program.andThen_some]
  cases outcome : (environment.surroundings 0).tcp host port defaultTimeout <;>
    simp [tcpResult, outcome, execute_bind]

end Entries

end DongloraClient.Connect
