import DongloraClient.Connect.Stickiness

/-! # Connecting with and without waiting

`try_connect_with` is meant to be `connect_with` without the waiting. Both repeat the
selection chain by hand; they are compared here in surroundings that stay as they are.
-/

namespace DongloraClient.Connect

open Foundation

variable {types : WireTypes}

/-! ## What is compared -/

def SameDecision (left right : Option (ClientResult Unit) × Progress) : Prop :=
  left.1 = right.1 ∧ left.2.attempts.head? = right.2.attempts.head? ∧
    left.2.usedMux = right.2.usedMux

def ReportsUnavailable (outcome : Option (ClientResult Unit) × Progress) : Prop :=
  (outcome.1 = some (.error muxNotAvailable) ∨ outcome.1 = some (.error noDeviceFound)) ∧
    ∀ attempt ∈ outcome.2.attempts, attempt.opened = false

section Comparison

variable (surroundings : Surroundings)
  (handshake : TransportKind → ConnectOptions types → Duration → Option (ClientResult Unit))
  (options : ConnectOptions types) (usedMux : Bool)

def connectOutcome (polls : Nat) : Option (ClientResult Unit) × Progress :=
  execute (.fixed surroundings handshake) (connectWith options polls) (.start usedMux)

def tryConnectOutcome : Option (ClientResult Unit) × Progress :=
  execute (.fixed surroundings handshake) (tryConnectWith options) (.start usedMux)

/-- What `connect_with` decides without waiting, `try_connect_with` decides too; where
that reports nothing available, `connect_with` waits. -/
def Agrees : Prop :=
  (∀ polls, (connectOutcome surroundings handshake options usedMux polls).2.sleeps = 0 →
    SameDecision (tryConnectOutcome surroundings handshake options usedMux)
      (connectOutcome surroundings handshake options usedMux polls)) ∧
  (ReportsUnavailable (tryConnectOutcome surroundings handshake options usedMux) →
    ∀ polls, 0 < (connectOutcome surroundings handshake options usedMux polls).2.sleeps)

theorem connectOutcome_eq (polls : Nat) :
    connectOutcome surroundings handshake options usedMux polls =
      (decideConnect (fun _ => surroundings) usedMux options polls).outcome
        (.fixed surroundings handshake) options (.start usedMux) :=
  execute_connectWith _ options usedMux polls

theorem tryConnectOutcome_eq :
    tryConnectOutcome surroundings handshake options usedMux =
      (decideTryConnect surroundings usedMux options).outcome
        (.fixed surroundings handshake) options (.start usedMux) :=
  execute_tryConnectWith _ options usedMux

end Comparison

/-! ## Waiting -/

theorem carryOut_sleeps (environment : Environment types) (options : ConnectOptions types)
    (timeout : Duration) (progress : Progress) (choice : Choice) :
    (carryOut environment options timeout progress choice).2.sleeps = progress.sleeps := by
  rcases carryOut_cases environment options timeout progress choice with
    ⟨_, _, _, after⟩ | ⟨_, _, _, _, after⟩ | ⟨_, after⟩ | ⟨_, _, after⟩
  all_goals simp only [after, Progress.attempt, Progress.remember]

theorem Decision.outcome_sleeps {environment : Environment types}
    {options : ConnectOptions types} {usedMux : Bool} {decision : Decision} :
    (decision.outcome environment options (.start usedMux)).2.sleeps = decision.sleeps := by
  rw [Decision.outcome_eq, carryOut_sleeps]
  rfl

theorem awaitDevice_waits (timeline : Nat → Surroundings) (polls sleeps : Nat) :
    sleeps < (awaitDevice timeline polls sleeps).sleeps := by
  induction polls generalizing sleeps with
  | zero =>
      rw [awaitDevice]
      split <;> exact Nat.lt_succ_self sleeps
  | succ polls induction =>
      rw [awaitDevice]
      split
      · exact Nat.lt_succ_self sleeps
      · have later := induction (sleeps + 1)
        omega

theorem awaitSocket_sleeps (timeline : Nat → Surroundings) (path : String)
    (polls sleeps : Nat) : sleeps ≤ (awaitSocket timeline path polls sleeps).sleeps := by
  induction polls generalizing sleeps with
  | zero =>
      rw [awaitSocket]
      split
      · exact Nat.le_refl sleeps
      · exact Nat.le_succ sleeps
  | succ polls induction =>
      rw [awaitSocket]
      split
      · exact Nat.le_refl sleeps
      · have later := induction (sleeps + 1)
        omega

theorem awaitSocket_waits {timeline : Nat → Surroundings} {path : String} {sleeps : Nat}
    (polls : Nat) (absent : (timeline sleeps).pathExists path = false) :
    sleeps < (awaitSocket timeline path polls sleeps).sleeps := by
  cases polls with
  | zero => simp [awaitSocket, absent]
  | succ polls =>
      have later := awaitSocket_sleeps timeline path polls (sleeps + 1)
      simp only [awaitSocket, absent, Bool.false_eq_true, if_false]
      omega

/-! ## Reports -/

theorem Progress.tryTcp_reachable {progress : Progress} {surroundings : Surroundings}
    {timeout : Duration} {endpoint : String}
    (reachable : surroundings.reachableTcp timeout = some endpoint) :
    progress.tryTcp surroundings timeout = progress.attempt (.muxTcp endpoint) true := by
  rw [Surroundings.reachableTcp] at reachable
  rw [Progress.tryTcp]
  cases address : surroundings.tcpAddress with
  | none =>
      rw [address] at reachable
      cases reachable
  | some target =>
      simp only [address] at reachable
      split at reachable
      · next connected =>
        cases reachable
        simp [connected]
      · cases reachable

theorem streamResult_ne_report {failure path text : String} {error : ClientError}
    (worded : ∃ rest, failure.toList = 'f' :: rest)
    (report : error = muxNotAvailable ∨ error = noDeviceFound) :
    streamResult failure path (some text) ≠ .error error := by
  intro equal
  rcases worded with ⟨rest, worded⟩
  have named := Except.error.inj equal
  rcases report with mux | device
  · rw [mux] at named
    have characters := congrArg String.toList (ClientError.other.inj named)
    simp [worded] at characters
  · rw [device] at named
    have characters := congrArg String.toList (ClientError.other.inj named)
    simp [worded] at characters

section Reports

variable {environment : Environment types} {options : ConnectOptions types}
  {timeout : Duration} {progress : Progress}

theorem opened_not_reports {outcome : Option (ClientResult Unit) × Progress}
    {kind : TransportKind} (opened : ⟨kind, true⟩ ∈ outcome.2.attempts) :
    ¬ ReportsUnavailable outcome := by
  intro reports
  have closed := reports.2 _ opened
  cases closed

theorem failed_not_reports {outcome : Option (ClientResult Unit) × Progress}
    {failure path text : String}
    (ended : outcome.1 = some (streamResult failure path (some text)))
    (worded : ∃ rest, failure.toList = 'f' :: rest) : ¬ ReportsUnavailable outcome := by
  intro reports
  rw [ReportsUnavailable, ended, Option.some.injEq, Option.some.injEq] at reports
  rcases reports.1 with mux | device
  · exact streamResult_ne_report worded (.inl rfl) mux
  · exact streamResult_ne_report worded (.inr rfl) device

theorem serial_not_reports {port : String} :
    ¬ ReportsUnavailable (carryOut environment options timeout progress (.serial port)) := by
  cases failure : (environment.surroundings progress.sleeps).serial port with
  | none =>
      apply opened_not_reports
      simp only [carryOut, failure]
      exact List.mem_cons_self
  | some text =>
      have ended : (carryOut environment options timeout progress (.serial port)).1 =
          some (streamResult "failed to open serial port " port (some text)) := by
        simp only [carryOut, failure]
      exact failed_not_reports ended ⟨_, rfl⟩

theorem unix_not_reports {path : String} :
    ¬ ReportsUnavailable (carryOut environment options timeout progress (.unix path)) := by
  cases failure : (environment.surroundings progress.sleeps).unix path with
  | none =>
      apply opened_not_reports
      simp only [carryOut, failure]
      exact List.mem_cons_self
  | some text =>
      have ended : (carryOut environment options timeout progress (.unix path)).1 =
          some (streamResult "failed to connect to mux socket " path (some text)) := by
        simp only [carryOut, failure]
      exact failed_not_reports ended ⟨_, rfl⟩

end Reports

section Agreement

variable {surroundings : Surroundings}
  {handshake : TransportKind → ConnectOptions types → Duration → Option (ClientResult Unit)}
  {options : ConnectOptions types} {usedMux : Bool}

variable (handshake usedMux) in
theorem openedTcp_outcome {endpoint : String}
    (reachable : surroundings.reachableTcp (options.timeout.getD defaultTimeout) =
      some endpoint) :
    ((⟨true, 0, .openedTcp endpoint⟩ : Decision).outcome (.fixed surroundings handshake)
        options (.start usedMux)).2 =
      ((Progress.start usedMux).attempt (.muxTcp endpoint) true).remember := by
  rw [Decision.outcome_at_once, triedTcp, Environment.fixed, Progress.tryTcp_reachable reachable]
  rfl

theorem muxOr_reports {otherwise : Decision}
    (reports : ReportsUnavailable
      ((muxOr surroundings (options.timeout.getD defaultTimeout) otherwise).outcome
        (.fixed surroundings handshake) options (.start usedMux))) :
    surroundings.reachableTcp (options.timeout.getD defaultTimeout) = none ∧
      surroundings.findMuxSocket = none ∧
      ReportsUnavailable
        (otherwise.outcome (.fixed surroundings handshake) options (.start usedMux)) := by
  rw [muxOr] at reports
  cases reachable : surroundings.reachableTcp (options.timeout.getD defaultTimeout) with
  | some endpoint =>
      simp only [reachable] at reports
      have opened : ⟨.muxTcp endpoint, true⟩ ∈
          ((Progress.start usedMux).attempt (.muxTcp endpoint) true).remember.attempts :=
        List.mem_cons_self
      rw [← openedTcp_outcome handshake usedMux reachable] at opened
      exact absurd reports (opened_not_reports opened)
  | none =>
      cases found : surroundings.findMuxSocket with
      | some path =>
          simp only [reachable, found] at reports
          exact absurd reports unix_not_reports
      | none =>
          simp only [reachable, found] at reports
          exact ⟨rfl, rfl, reports⟩

theorem connect_waits
    (unreachable : options.port = none → usedMux = true →
      surroundings.reachableTcp (options.timeout.getD defaultTimeout) = none)
    (reports : ReportsUnavailable (tryConnectOutcome surroundings handshake options usedMux))
    (polls : Nat) :
    0 < (connectOutcome surroundings handshake options usedMux polls).2.sleeps := by
  rw [tryConnectOutcome_eq] at reports
  rw [connectOutcome_eq, Decision.outcome_sleeps]
  cases explicit : options.port with
  | some port =>
      rw [decideTryConnect_port explicit] at reports
      exact absurd reports serial_not_reports
  | none =>
      cases usedMux with
      | true =>
          rw [decideTryConnect_sticky explicit] at reports
          rw [decideConnect_sticky explicit, unreachable explicit rfl]
          cases found : surroundings.findMuxSocket with
          | some path =>
              rw [found] at reports
              exact absurd reports unix_not_reports
          | none => exact awaitSocket_waits polls (Surroundings.defaultSocketPath_absent found)
      | false =>
          rw [decideTryConnect_fresh explicit] at reports
          rcases muxOr_reports reports with ⟨refused, absent, noDevice⟩
          rw [decideConnect_fresh explicit]
          simp only [muxOr, refused, absent]
          cases found : surroundings.findPort with
          | some port =>
              rw [found] at noDevice
              exact absurd noDevice serial_not_reports
          | none => exact awaitDevice_waits _ polls 0

theorem carryOut_unix_sameDecision {environment : Environment types} {timeout : Duration}
    {left right : Progress} {path : String} (sleeps : left.sleeps = right.sleeps)
    (flag : left.usedMux = right.usedMux) :
    SameDecision (carryOut environment options timeout left (.unix path))
      (carryOut environment options timeout right (.unix path)) := by
  simp only [SameDecision, carryOut, sleeps]
  cases (environment.surroundings right.sleeps).unix path with
  | none => exact ⟨rfl, rfl, rfl⟩
  | some text => exact ⟨rfl, rfl, flag⟩

/-- What `connect_with` decides at once, `try_connect_with` decides in the same way. -/
theorem tryConnect_sameDecision {polls : Nat}
    (unreachable : options.port = none → usedMux = true →
      surroundings.reachableTcp (options.timeout.getD defaultTimeout) = none)
    (decides : (connectOutcome surroundings handshake options usedMux polls).2.sleeps = 0) :
    SameDecision (tryConnectOutcome surroundings handshake options usedMux)
      (connectOutcome surroundings handshake options usedMux polls) := by
  rw [connectOutcome_eq, Decision.outcome_sleeps] at decides
  rw [connectOutcome_eq, tryConnectOutcome_eq]
  cases explicit : options.port with
  | some port =>
      rw [decideTryConnect_port explicit, decideConnect_port explicit]
      exact ⟨rfl, rfl, rfl⟩
  | none =>
      cases usedMux with
      | true =>
          rw [decideConnect_sticky explicit, unreachable explicit rfl] at decides ⊢
          rw [decideTryConnect_sticky explicit]
          cases present : surroundings.pathExists surroundings.defaultSocketPath with
          | false =>
              have waits : 0 < (awaitSocket (fun _ => surroundings)
                  surroundings.defaultSocketPath polls 0).sleeps :=
                awaitSocket_waits polls present
              exact absurd decides (Nat.ne_of_gt waits)
          | true =>
              rw [Surroundings.findMuxSocket_defaultSocketPath present]
              simp only
              rw [awaitSocket_present polls present, Decision.outcome_eq, Decision.outcome_eq]
              apply carryOut_unix_sameDecision
              · rfl
              · rw [Decision.before_usedMux, Decision.before_usedMux]
      | false =>
          rw [decideConnect_fresh explicit] at decides ⊢
          rw [decideTryConnect_fresh explicit]
          unfold muxOr at decides ⊢
          cases reachable :
              surroundings.reachableTcp (options.timeout.getD defaultTimeout) with
          | some endpoint => exact ⟨rfl, rfl, rfl⟩
          | none =>
              cases socket : surroundings.findMuxSocket with
              | some path => exact ⟨rfl, rfl, rfl⟩
              | none =>
                  cases device : surroundings.findPort with
                  | some port => exact ⟨rfl, rfl, rfl⟩
                  | none =>
                      simp only [reachable, socket, device] at decides
                      have waits := awaitDevice_waits (fun _ => surroundings) polls 0
                      exact absurd decides (Nat.ne_of_gt waits)

/-- The TCP mux is the one place only `connect_with` looks at once the flag is set. -/
theorem sticky_disagrees (noPort : options.port = none) {endpoint : String}
    (reachable : surroundings.reachableTcp (options.timeout.getD defaultTimeout) =
      some endpoint) :
    ¬ Agrees surroundings handshake options true := by
  intro agrees
  have decided : connectOutcome surroundings handshake options true 0 =
      (⟨true, 0, .openedTcp endpoint⟩ : Decision).outcome (.fixed surroundings handshake)
        options (.start true) := by
    rw [connectOutcome_eq, decideConnect_sticky noPort, reachable]
  have same := agrees.1 0 (by rw [decided, Decision.outcome_sleeps])
  have lastAttempt : (tryConnectOutcome surroundings handshake options true).2.attempts.head? =
      some ⟨.muxTcp endpoint, true⟩ := by
    rw [same.2.1, decided, openedTcp_outcome handshake true reachable]
    rfl
  have member := List.mem_of_head? lastAttempt
  rw [tryConnectOutcome_eq, decideTryConnect_sticky noPort, Decision.outcome_eq] at member
  rcases mem_carryOut_attempts _ _ _ _ member with earlier | chosen
  · rcases Decision.mem_before earlier with ⟨tries, _⟩
    split at tries <;> cases tries
  · split at chosen <;> cases chosen

/-- The two calls agree exactly where a port is given, the flag is clear, or the TCP
mux cannot be connected. -/
theorem tryConnect_agrees_iff (surroundings : Surroundings)
    (handshake : TransportKind → ConnectOptions types → Duration →
      Option (ClientResult Unit)) (options : ConnectOptions types) (usedMux : Bool) :
    Agrees surroundings handshake options usedMux ↔
      options.port ≠ none ∨ usedMux = false ∨
        surroundings.TcpUnavailable (options.timeout.getD defaultTimeout) := by
  constructor
  · intro agrees
    rw [← Surroundings.reachableTcp_eq_none_iff]
    cases explicit : options.port with
    | some port => exact .inl (Option.some_ne_none port)
    | none =>
        cases usedMux with
        | false => exact .inr (.inl rfl)
        | true =>
            cases reachable :
                surroundings.reachableTcp (options.timeout.getD defaultTimeout) with
            | none => exact .inr (.inr rfl)
            | some endpoint => exact absurd agrees (sticky_disagrees explicit reachable)
  · intro condition
    have unreachable : options.port = none → usedMux = true →
        surroundings.reachableTcp (options.timeout.getD defaultTimeout) = none := by
      intro noPort used
      rcases condition with given | clear | unavailable
      · exact absurd noPort given
      · rw [used] at clear
        cases clear
      · exact Surroundings.reachableTcp_eq_none_iff.mpr unavailable
    constructor
    · intro polls decides
      exact tryConnect_sameDecision unreachable decides
    · intro reports polls
      exact connect_waits unreachable reports polls

end Agreement

def Surroundings.tcpMux : Surroundings where
  var name := if name = .muxTcp then some "localhost:5000" else none
  pathExists _ := false
  tcp _ _ _ := .connected
  unix _ := some "No such file or directory"
  serial _ := some "No such file or directory"
  ports := some []

def handshakeSucceeds : TransportKind → ConnectOptions WireTypes.sample → Duration →
    Option (ClientResult Unit) := fun _ _ _ => some (.ok ())

/-- With the flag set, `connect_with` connects to the TCP mux at once and
`try_connect_with` says that the mux is not available. -/
theorem sticky_tryConnect_misses_tcp :
    connectOutcome .tcpMux handshakeSucceeds .new true 0 =
      (some (.ok ()), ⟨true, [⟨.muxTcp "localhost:5000", true⟩], 0⟩) ∧
    tryConnectOutcome .tcpMux handshakeSucceeds .new true =
      (some (.error muxNotAvailable), ⟨true, [], 0⟩) ∧
    ¬ Agrees .tcpMux handshakeSucceeds .new true := by
  have connects : connectOutcome .tcpMux handshakeSucceeds .new true 0 =
      (some (.ok ()), ⟨true, [⟨.muxTcp "localhost:5000", true⟩], 0⟩) := by
    rfl
  have refuses : tryConnectOutcome .tcpMux handshakeSucceeds .new true =
      (some (.error muxNotAvailable), ⟨true, [], 0⟩) := rfl
  refine ⟨connects, refuses, ?_⟩
  intro agrees
  have same := agrees.1 0 (by rw [connects])
  rw [connects, refuses] at same
  cases same.1

end DongloraClient.Connect
