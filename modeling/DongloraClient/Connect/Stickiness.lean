import DongloraClient.Foundation.Machine
import DongloraClient.Connect.Choice

/-! # Staying on the mux

Sequences of connect calls that share the sticky flag, each in surroundings of its
own. What one call does to the flag and where it looks follows from its decision;
what a later call may do follows from the flag.
-/

namespace DongloraClient.Connect

open Foundation

variable {types : WireTypes}

/-! ## Calls -/

inductive Entry (types : WireTypes)
  | connectWith (options : ConnectOptions types) (polls : Nat)
  | tryConnectWith (options : ConnectOptions types)
  | connectMuxAutoWith (options : ConnectOptions types)
  | muxUnixConnect (path : String)
  | muxTcpConnect (host : String) (port : UInt16)

namespace Entry

def program : Entry types → Connecting types (ClientResult Unit)
  | .connectWith options polls => Connect.connectWith options polls
  | .tryConnectWith options => Connect.tryConnectWith options
  | .connectMuxAutoWith options => Connect.connectMuxAutoWith options
  | .muxUnixConnect path => Connect.muxUnixConnect path
  | .muxTcpConnect host port => Connect.muxTcpConnect host port

def options : Entry types → ConnectOptions types
  | .connectWith options _ => options
  | .tryConnectWith options => options
  | .connectMuxAutoWith options => options
  | .muxUnixConnect _ => .new
  | .muxTcpConnect _ _ => .new

def explicitPort (entry : Entry types) : Option String := entry.options.port

def timeout (entry : Entry types) : Duration := entry.options.timeout.getD defaultTimeout

def Discovers : Entry types → Prop
  | .connectWith options _ => options.port = none
  | .tryConnectWith options => options.port = none
  | .connectMuxAutoWith _ => True
  | .muxUnixConnect _ => False
  | .muxTcpConnect _ _ => False

def decide (timeline : Nat → Surroundings) (usedMux : Bool) : Entry types → Decision
  | .connectWith options polls => decideConnect timeline usedMux options polls
  | .tryConnectWith options => decideTryConnect (timeline 0) usedMux options
  | .connectMuxAutoWith options => decideMuxAuto (timeline 0) options
  | .muxUnixConnect path => ⟨false, 0, .unix path⟩
  | .muxTcpConnect host port => ⟨false, 0, .tcp host port⟩

theorem execute_program (entry : Entry types) (environment : Environment types)
    (usedMux : Bool) :
    execute environment entry.program (.start usedMux) =
      (entry.decide environment.surroundings usedMux).outcome environment entry.options
        (.start usedMux) := by
  cases entry with
  | connectWith options polls =>
      exact execute_connectWith environment options usedMux polls
  | tryConnectWith options => exact execute_tryConnectWith environment options usedMux
  | connectMuxAutoWith options =>
      exact execute_connectMuxAutoWith environment options usedMux
  | muxUnixConnect path => exact execute_muxUnixConnect environment usedMux path
  | muxTcpConnect host port => exact execute_muxTcpConnect environment usedMux host port

end Entry

structure Call (types : WireTypes) where
  entry : Entry types
  environment : Environment types

/-- A call that has run: the flag it found, its result, and how far it got. -/
structure Record (types : WireTypes) where
  call : Call types
  usedMux : Bool
  result : Option (ClientResult Unit)
  reached : Progress

namespace Record

def OpensMux (record : Record types) : Prop :=
  ∃ attempt ∈ record.reached.attempts, attempt.kind.isMux = true ∧ attempt.opened = true

/-- An attempt counts even where it fails. -/
def TriesSerial (record : Record types) : Prop :=
  ∃ attempt ∈ record.reached.attempts, attempt.kind.isMux = false

def EndsAtSocket (record : Record types) (path : String) : Prop :=
  (∃ text, record.result =
    some (.error (.other ("failed to connect to mux socket " ++ path ++ ": " ++ text)))) ∧
    ¬ record.TriesSerial

def surroundings (record : Record types) : Surroundings :=
  record.call.environment.surroundings 0

end Record

def Call.record (call : Call types) (usedMux : Bool) : Record types :=
  let outcome := execute call.environment call.entry.program (.start usedMux)
  ⟨call, usedMux, outcome.1, outcome.2⟩

structure Process (types : WireTypes) where
  usedMux : Bool
  calls : List (Record types)

def machine : Machine (Process types) (Call types) where
  initial := ⟨false, []⟩
  step process call :=
    let record := call.record process.usedMux
    some ⟨record.reached.usedMux, record :: process.calls⟩

/-! ## What a choice leaves behind -/

def Choice.kind : Choice → Option TransportKind
  | .tcp host port => some (.muxTcp (endpoint host port))
  | .unix path => some (.muxUnix path)
  | .serial port => some (.serial port)
  | _ => none

theorem Choice.serial_of_kind {choice : Choice} {kind : TransportKind}
    (chosen : choice.kind = some kind) (direct : kind.isMux = false) :
    ∃ port, choice = .serial port := by
  cases choice with
  | serial port => exact ⟨port, rfl⟩
  | tcp host port =>
      cases chosen
      cases direct
  | unix path =>
      cases chosen
      cases direct
  | openedTcp _ | unavailable _ | waiting => cases chosen

theorem Choice.unix_of_kind {choice : Choice} {path : String}
    (chosen : choice.kind = some (.muxUnix path)) : choice = .unix path := by
  cases choice <;> cases chosen
  rfl

section Choices

variable (environment : Environment types) (options : ConnectOptions types)
  (timeout : Duration) (progress : Progress)

/-- Whatever is chosen, the call makes at most one more attempt, and remembers every
mux transport it opens. -/
theorem carryOut_cases (choice : Choice) :
    (∃ kind, choice.kind = some kind ∧ kind.isMux = true ∧
      (carryOut environment options timeout progress choice).2 =
        (progress.attempt kind true).remember) ∨
    (∃ kind opened, choice.kind = some kind ∧ (kind.isMux = true → opened = false) ∧
      (carryOut environment options timeout progress choice).2 =
        progress.attempt kind opened) ∨
    ((∃ endpoint, choice = .openedTcp endpoint) ∧
      (carryOut environment options timeout progress choice).2 = progress.remember) ∨
    ((∀ endpoint, choice ≠ .openedTcp endpoint) ∧ choice.kind = none ∧
      (carryOut environment options timeout progress choice).2 = progress) := by
  cases choice with
  | openedTcp endpoint => exact .inr (.inr (.inl ⟨⟨endpoint, rfl⟩, rfl⟩))
  | tcp host port =>
      cases outcome : tcpResult host port
          ((environment.surroundings progress.sleeps).tcp host port timeout) with
      | ok _ => exact .inl ⟨_, rfl, rfl, by simp [carryOut, outcome]⟩
      | error error =>
          exact .inr (.inl ⟨_, false, rfl, fun _ => rfl, by simp [carryOut, outcome]⟩)
  | unix path =>
      cases failure : (environment.surroundings progress.sleeps).unix path with
      | none => exact .inl ⟨_, rfl, rfl, by simp [carryOut, failure]⟩
      | some text =>
          exact .inr (.inl ⟨_, false, rfl, fun _ => rfl, by simp [carryOut, failure]⟩)
  | serial port =>
      have direct : (TransportKind.serial port).isMux = true → true = false := by
        simp [TransportKind.isMux]
      cases failure : (environment.surroundings progress.sleeps).serial port with
      | none => exact .inr (.inl ⟨_, true, rfl, direct, by simp [carryOut, failure]⟩)
      | some text =>
          exact .inr (.inl ⟨_, false, rfl, fun _ => rfl, by simp [carryOut, failure]⟩)
  | unavailable error => exact .inr (.inr (.inr ⟨by simp, rfl, rfl⟩))
  | waiting => exact .inr (.inr (.inr ⟨by simp, rfl, rfl⟩))

theorem carryOut_keeps (choice : Choice) (used : progress.usedMux = true) :
    (carryOut environment options timeout progress choice).2.usedMux = true := by
  rcases carryOut_cases environment options timeout progress choice with
    ⟨_, _, _, after⟩ | ⟨_, _, _, _, after⟩ | ⟨_, after⟩ | ⟨_, _, after⟩
  · rw [after]
    rfl
  · rw [after]
    exact used
  · rw [after]
    rfl
  · rw [after]
    exact used

theorem mem_carryOut_attempts {choice : Choice} {attempt : Attempt}
    (member : attempt ∈ (carryOut environment options timeout progress choice).2.attempts) :
    attempt ∈ progress.attempts ∨ choice.kind = some attempt.kind := by
  rcases carryOut_cases environment options timeout progress choice with
    ⟨kind, chosen, _, after⟩ | ⟨kind, opened, chosen, _, after⟩ | ⟨_, after⟩ | ⟨_, _, after⟩
  · rw [after] at member
    rcases List.mem_cons.mp member with equal | earlier
    · exact .inr (equal ▸ chosen)
    · exact .inl earlier
  · rw [after] at member
    rcases List.mem_cons.mp member with equal | earlier
    · exact .inr (equal ▸ chosen)
    · exact .inl earlier
  · rw [after] at member
    exact .inl member
  · rw [after] at member
    exact .inl member

theorem carryOut_remembers {choice : Choice} {attempt : Attempt}
    (member : attempt ∈ (carryOut environment options timeout progress choice).2.attempts)
    (mux : attempt.kind.isMux = true) (opened : attempt.opened = true) :
    (carryOut environment options timeout progress choice).2.usedMux = true ∨
      attempt ∈ progress.attempts ∧ ∀ endpoint, choice ≠ .openedTcp endpoint := by
  rcases carryOut_cases environment options timeout progress choice with
    ⟨_, _, _, after⟩ | ⟨kind, failed, chosen, refused, after⟩ | ⟨_, after⟩ | ⟨other, _, after⟩
  · rw [after]
    exact .inl rfl
  · rw [after] at member
    rcases List.mem_cons.mp member with equal | earlier
    · subst equal
      rw [refused mux] at opened
      cases opened
    · refine .inr ⟨earlier, ?_⟩
      intro endpoint equal
      rw [equal] at chosen
      cases chosen
  · rw [after]
    exact .inl rfl
  · rw [after] at member
    exact .inr ⟨member, other⟩

end Choices

/-! ## What a decision leaves behind -/

theorem mem_tryTcp_start {usedMux : Bool} {surroundings : Surroundings}
    {timeout : Duration} {attempt : Attempt}
    (member : attempt ∈ ((Progress.start usedMux).tryTcp surroundings timeout).attempts) :
    ∃ endpoint, attempt.kind = .muxTcp endpoint ∧
      (attempt.opened = true → surroundings.reachableTcp timeout = some endpoint) := by
  rw [Progress.tryTcp] at member
  rw [Surroundings.reachableTcp]
  cases address : surroundings.tcpAddress with
  | none =>
      rw [address] at member
      cases member
  | some target =>
      rw [address] at member
      rcases List.mem_singleton.mp member with equal
      subst equal
      refine ⟨endpoint target.1 target.2, rfl, ?_⟩
      intro opened
      exact if_pos (of_decide_eq_true opened)

section Decisions

variable {environment : Environment types} {options : ConnectOptions types}
  {usedMux : Bool} {decision : Decision} {attempt : Attempt}

def Decision.before (decision : Decision) (environment : Environment types)
    (options : ConnectOptions types) (usedMux : Bool) : Progress :=
  (if decision.triesTcp then triedTcp environment options usedMux
    else .start usedMux).wakeAfter decision.sleeps

theorem Decision.outcome_eq :
    decision.outcome environment options (.start usedMux) =
      carryOut environment options (options.timeout.getD defaultTimeout)
        (decision.before environment options usedMux) decision.choice := rfl

theorem Decision.before_usedMux :
    (decision.before environment options usedMux).usedMux = usedMux := by
  rw [Decision.before]
  split
  · exact Progress.tryTcp_usedMux _ _ _
  · rfl

theorem Decision.before_sleeps :
    (decision.before environment options usedMux).sleeps = decision.sleeps := rfl

theorem Decision.mem_before
    (member : attempt ∈ (decision.before environment options usedMux).attempts) :
    decision.triesTcp = true ∧ ∃ endpoint, attempt.kind = .muxTcp endpoint ∧
      (attempt.opened = true →
        (environment.surroundings 0).reachableTcp (options.timeout.getD defaultTimeout) =
          some endpoint) := by
  rw [Decision.before] at member
  split at member
  · next tries => exact ⟨tries, mem_tryTcp_start member⟩
  · cases member

theorem Decision.outcome_keeps (used : usedMux = true) :
    (decision.outcome environment options (.start usedMux)).2.usedMux = true := by
  rw [Decision.outcome_eq]
  apply carryOut_keeps
  rw [Decision.before_usedMux, used]

def Decision.TakesTcp (decision : Decision) (surroundings : Surroundings)
    (timeout : Duration) : Prop :=
  decision.triesTcp = true → ∀ endpoint, surroundings.reachableTcp timeout = some endpoint →
    decision.choice = .openedTcp endpoint

theorem Decision.outcome_remembers
    (takes : decision.TakesTcp (environment.surroundings 0)
      (options.timeout.getD defaultTimeout))
    (member : attempt ∈
      (decision.outcome environment options (.start usedMux)).2.attempts)
    (mux : attempt.kind.isMux = true) (opened : attempt.opened = true) :
    (decision.outcome environment options (.start usedMux)).2.usedMux = true := by
  rw [Decision.outcome_eq] at member ⊢
  rcases carryOut_remembers _ _ _ _ member mux opened with remembered | ⟨earlier, other⟩
  · exact remembered
  · rcases Decision.mem_before earlier with ⟨tries, endpoint, _, reachable⟩
    exact absurd (takes tries endpoint (reachable opened)) (other endpoint)

theorem Decision.serial_chosen
    (member : attempt ∈
      (decision.outcome environment options (.start usedMux)).2.attempts)
    (direct : attempt.kind.isMux = false) :
    ∃ port, decision.choice = .serial port := by
  rw [Decision.outcome_eq] at member
  rcases mem_carryOut_attempts _ _ _ _ member with earlier | chosen
  · rcases Decision.mem_before earlier with ⟨_, endpoint, kind, _⟩
    rw [kind] at direct
    cases direct
  · exact Choice.serial_of_kind chosen direct

theorem Decision.unix_failed {path : String}
    (member : ⟨.muxUnix path, false⟩ ∈
      (decision.outcome environment options (.start usedMux)).2.attempts) :
    decision.choice = .unix path ∧ ∃ text,
      (decision.outcome environment options (.start usedMux)).1 =
        some (.error (.other ("failed to connect to mux socket " ++ path ++ ": " ++ text))) := by
  rw [Decision.outcome_eq] at member ⊢
  have elsewhere :
      ⟨.muxUnix path, false⟩ ∉ (decision.before environment options usedMux).attempts := by
    intro earlier
    rcases Decision.mem_before earlier with ⟨_, _, kind, _⟩
    cases kind
  rcases mem_carryOut_attempts _ _ _ _ member with earlier | chosen
  · exact absurd earlier elsewhere
  · have choice := Choice.unix_of_kind chosen
    rw [choice] at member ⊢
    refine ⟨rfl, ?_⟩
    cases failure : (environment.surroundings
        (decision.before environment options usedMux).sleeps).unix path with
    | some text => exact ⟨text, by simp [carryOut, failure, streamResult]⟩
    | none =>
        simp only [carryOut, failure] at member
        rcases List.mem_cons.mp member with equal | earlier
        · cases equal
        · exact absurd earlier elsewhere

end Decisions

/-! ## What the entry points decide -/

theorem awaitSocket_choice (timeline : Nat → Surroundings) (path : String)
    (polls sleeps : Nat) :
    (awaitSocket timeline path polls sleeps).choice = .unix path ∨
      (awaitSocket timeline path polls sleeps).choice = .waiting := by
  induction polls generalizing sleeps with
  | zero =>
      rw [awaitSocket]
      split
      · exact .inl rfl
      · exact .inr rfl
  | succ polls induction =>
      rw [awaitSocket]
      split
      · exact .inl rfl
      · exact induction _

theorem muxOr_takesTcp (surroundings : Surroundings) (timeout : Duration)
    (otherwise : Decision) :
    (muxOr surroundings timeout otherwise).TakesTcp surroundings timeout := by
  intro _ endpoint reachable
  simp only [muxOr, reachable]

theorem muxOr_serial {surroundings : Surroundings} {timeout : Duration}
    {otherwise : Decision} {port : String}
    (chosen : (muxOr surroundings timeout otherwise).choice = .serial port) :
    surroundings.reachableTcp timeout = none ∧ surroundings.findMuxSocket = none := by
  rw [muxOr] at chosen
  split at chosen
  · cases chosen
  · next unreachable =>
    split at chosen
    · cases chosen
    · next absent => exact ⟨unreachable, absent⟩

section Entries

variable {timeline : Nat → Surroundings} {surroundings : Surroundings} {usedMux : Bool}
  {options : ConnectOptions types} {polls : Nat} {port : String}

theorem decideConnect_takesTcp :
    (decideConnect timeline usedMux options polls).TakesTcp (timeline 0)
      (options.timeout.getD defaultTimeout) := by
  cases explicit : options.port with
  | some port =>
      rw [decideConnect_port explicit]
      intro tries
      cases tries
  | none =>
      cases usedMux with
      | true =>
          rw [decideConnect_sticky explicit]
          intro _ endpoint reachable
          rw [reachable]
      | false =>
          rw [decideConnect_fresh explicit]
          exact muxOr_takesTcp _ _ _

theorem decideTryConnect_takesTcp :
    (decideTryConnect surroundings usedMux options).TakesTcp surroundings
      (options.timeout.getD defaultTimeout) := by
  cases explicit : options.port with
  | some port =>
      rw [decideTryConnect_port explicit]
      intro tries
      cases tries
  | none =>
      cases usedMux with
      | true =>
          rw [decideTryConnect_sticky explicit]
          intro tries
          split at tries <;> cases tries
      | false =>
          rw [decideTryConnect_fresh explicit]
          exact muxOr_takesTcp _ _ _

theorem decideConnect_serial (noPort : options.port = none)
    (chosen : (decideConnect timeline usedMux options polls).choice = .serial port) :
    usedMux = false ∧
      (timeline 0).reachableTcp (options.timeout.getD defaultTimeout) = none ∧
      (timeline 0).findMuxSocket = none := by
  cases usedMux with
  | true =>
      rw [decideConnect_sticky noPort] at chosen
      split at chosen
      · cases chosen
      · rcases awaitSocket_choice timeline (timeline 0).defaultSocketPath polls 0 with
          socket | waiting
        · rw [socket] at chosen
          cases chosen
        · rw [waiting] at chosen
          cases chosen
  | false =>
      rw [decideConnect_fresh noPort] at chosen
      exact ⟨rfl, muxOr_serial chosen⟩

theorem decideTryConnect_serial (noPort : options.port = none)
    (chosen : (decideTryConnect surroundings usedMux options).choice = .serial port) :
    usedMux = false ∧
      surroundings.reachableTcp (options.timeout.getD defaultTimeout) = none ∧
      surroundings.findMuxSocket = none := by
  cases usedMux with
  | true =>
      rw [decideTryConnect_sticky noPort] at chosen
      split at chosen <;> cases chosen
  | false =>
      rw [decideTryConnect_fresh noPort] at chosen
      exact ⟨rfl, muxOr_serial chosen⟩

theorem decideMuxAuto_not_serial :
    (decideMuxAuto surroundings options).choice ≠ .serial port := by
  intro chosen
  have nothingFound := muxOr_serial chosen
  simp only [decideMuxAuto, muxOr, nothingFound] at chosen
  cases chosen

theorem muxOr_unix {timeout : Duration} {otherwise : Decision} {path : String}
    (unreachable : surroundings.reachableTcp timeout = none)
    (found : surroundings.findMuxSocket = some path) :
    muxOr surroundings timeout otherwise = ⟨true, 0, .unix path⟩ := by
  simp only [muxOr, unreachable, found]

theorem decideConnect_unix {path : String} (noPort : options.port = none)
    (unreachable :
      (timeline 0).reachableTcp (options.timeout.getD defaultTimeout) = none)
    (found : (timeline 0).findMuxSocket = some path)
    (standard : usedMux = false ∨ (timeline 0).defaultSocketPath = path) :
    decideConnect timeline usedMux options polls = ⟨true, 0, .unix path⟩ := by
  cases usedMux with
  | true =>
      have same : (timeline 0).defaultSocketPath = path :=
        standard.resolve_left (by decide)
      have present := Surroundings.findMuxSocket_exists found
      rw [decideConnect_sticky noPort, unreachable, same]
      exact awaitSocket_present polls present
  | false => rw [decideConnect_fresh noPort, muxOr_unix unreachable found]

theorem decideTryConnect_unix {path : String} (noPort : options.port = none)
    (unreachable :
      surroundings.reachableTcp (options.timeout.getD defaultTimeout) = none)
    (found : surroundings.findMuxSocket = some path) :
    decideTryConnect surroundings usedMux options = ⟨!usedMux, 0, .unix path⟩ := by
  cases usedMux with
  | true =>
      rw [decideTryConnect_sticky noPort, found]
      rfl
  | false =>
      rw [decideTryConnect_fresh noPort, muxOr_unix unreachable found]
      rfl

end Entries

namespace Entry

variable {timeline : Nat → Surroundings} {usedMux : Bool} {entry : Entry types}

theorem decide_takesTcp :
    (entry.decide timeline usedMux).TakesTcp (timeline 0) entry.timeout := by
  cases entry with
  | connectWith options polls => exact decideConnect_takesTcp
  | tryConnectWith options => exact decideTryConnect_takesTcp
  | connectMuxAutoWith options => exact muxOr_takesTcp _ _ _
  | muxUnixConnect path =>
      intro tries
      cases tries
  | muxTcpConnect host port =>
      intro tries
      cases tries

/-- A serial port is chosen only where the mux is neither remembered nor found. -/
theorem decide_serial {port : String} (noPort : entry.explicitPort = none)
    (chosen : (entry.decide timeline usedMux).choice = .serial port) :
    usedMux = false ∧ (timeline 0).reachableTcp entry.timeout = none ∧
      (timeline 0).findMuxSocket = none := by
  cases entry with
  | connectWith options polls => exact decideConnect_serial noPort chosen
  | tryConnectWith options => exact decideTryConnect_serial noPort chosen
  | connectMuxAutoWith options => exact absurd chosen decideMuxAuto_not_serial
  | muxUnixConnect path => cases chosen
  | muxTcpConnect host port => cases chosen

theorem decide_unix {path : String} (discovers : entry.Discovers)
    (unreachable : (timeline 0).reachableTcp entry.timeout = none)
    (found : (timeline 0).findMuxSocket = some path)
    (standard : usedMux = false ∨ (timeline 0).defaultSocketPath = path) :
    ∃ tries, entry.decide timeline usedMux = ⟨tries, 0, .unix path⟩ := by
  cases entry with
  | connectWith options polls =>
      exact ⟨true, decideConnect_unix discovers unreachable found standard⟩
  | tryConnectWith options =>
      exact ⟨!usedMux, decideTryConnect_unix discovers unreachable found⟩
  | connectMuxAutoWith options => exact ⟨true, muxOr_unix unreachable found⟩
  | muxUnixConnect path => cases discovers
  | muxTcpConnect host port => cases discovers

end Entry

/-! ## What one call does -/

namespace Call

variable {call : Call types} {usedMux : Bool}

theorem record_keeps (used : usedMux = true) :
    (call.record usedMux).reached.usedMux = true := by
  simp only [record, Entry.execute_program]
  exact Decision.outcome_keeps used

theorem record_remembers (opens : (call.record usedMux).OpensMux) :
    (call.record usedMux).reached.usedMux = true := by
  rcases opens with ⟨attempt, member, mux, opened⟩
  simp only [record, Entry.execute_program] at member ⊢
  exact Decision.outcome_remembers Entry.decide_takesTcp member mux opened

theorem record_serial (noPort : call.entry.explicitPort = none)
    (tries : (call.record usedMux).TriesSerial) :
    usedMux = false ∧
      (call.record usedMux).surroundings.TcpUnavailable call.entry.timeout ∧
      (call.record usedMux).surroundings.findMuxSocket = none := by
  rcases tries with ⟨attempt, member, direct⟩
  simp only [record, Entry.execute_program] at member
  rcases Decision.serial_chosen member direct with ⟨port, chosen⟩
  rcases Entry.decide_serial noPort chosen with ⟨clear, unreachable, absent⟩
  exact ⟨clear, Surroundings.reachableTcp_eq_none_iff.mp unreachable, absent⟩

theorem record_unix_failed {path : String}
    (failed : ⟨.muxUnix path, false⟩ ∈ (call.record usedMux).reached.attempts) :
    (call.record usedMux).EndsAtSocket path := by
  simp only [record, Entry.execute_program] at failed
  rcases Decision.unix_failed failed with ⟨chosen, text, ended⟩
  constructor
  · exact ⟨text, by simpa only [record, Entry.execute_program] using ended⟩
  · intro tries
    rcases tries with ⟨attempt, member, direct⟩
    simp only [record, Entry.execute_program] at member
    rcases Decision.serial_chosen member direct with ⟨port, serial⟩
    rw [chosen] at serial
    cases serial

/-- A socket that is found and refuses is tried, so the call ends there. -/
theorem record_socket_refuses {path text : String} (discovers : call.entry.Discovers)
    (unavailable : (call.record usedMux).surroundings.TcpUnavailable call.entry.timeout)
    (found : (call.record usedMux).surroundings.findMuxSocket = some path)
    (standard : usedMux = false ∨
      (call.record usedMux).surroundings.defaultSocketPath = path)
    (refuses : (call.record usedMux).surroundings.unix path = some text) :
    (call.record usedMux).EndsAtSocket path := by
  apply record_unix_failed
  have unreachable := Surroundings.reachableTcp_eq_none_iff.mpr unavailable
  have decided : ∃ tries, call.entry.decide call.environment.surroundings usedMux =
      ⟨tries, 0, .unix path⟩ := Entry.decide_unix discovers unreachable found standard
  rcases decided with ⟨tries, decision⟩
  have failure : (call.environment.surroundings 0).unix path = some text := refuses
  simp only [record, Entry.execute_program, decision, Decision.outcome_eq, carryOut]
  rw [Decision.before_sleeps, failure]
  exact List.mem_cons_self

end Call

/-! ## Runs -/

/-- Every record is the run of its call, and a call finds the flag set once an
earlier one has left it so. -/
structure Process.Consistent (process : Process types) : Prop where
  recorded : ∀ record ∈ process.calls, record = record.call.record record.usedMux
  sticky : ∀ later record earlier, process.calls = later ++ record :: earlier →
    record.reached.usedMux = true →
    process.usedMux = true ∧ ∀ call ∈ later, call.usedMux = true

theorem Process.Consistent.step {process next : Process types} {call : Call types}
    (consistent : process.Consistent) (stepped : machine.step process call = some next) :
    next.Consistent := by
  cases stepped
  constructor
  · intro record member
    rcases List.mem_cons.mp member with equal | earlier
    · subst equal
      rfl
    · exact consistent.recorded record earlier
  · intro later record earlier split used
    cases later with
    | nil =>
        cases split
        exact ⟨used, by simp⟩
    | cons newest later =>
        rcases List.cons_eq_cons.mp split with ⟨equal, rest⟩
        rcases consistent.sticky later record earlier rest used with ⟨flag, found⟩
        refine ⟨Call.record_keeps flag, ?_⟩
        intro call member
        rcases List.mem_cons.mp member with same | before
        · rw [same, ← equal]
          exact flag
        · exact found call before

theorem consistent_of_reachable {process : Process types}
    (reached : machine.Reachable process) : process.Consistent := by
  apply reached.invariant
  · constructor
    · intro record member
      cases member
    · intro later record earlier split
      cases later <;> cases split
  · intro current call next consistent _ stepped
    exact consistent.step stepped

/-- In every sequence of calls, once the flag is set or a mux transport was open, the
flag stays set and later calls without an explicit port leave serial ports alone. A
call without an explicit port turns to a serial port only where the flag was clear,
the TCP mux was out of reach and no socket was found; a socket that cannot be
connected is an error. -/
theorem mux_is_sticky {process : Process types} (reached : machine.Reachable process) :
    (∀ later record earlier, process.calls = later ++ record :: earlier →
      record.usedMux = true ∨ record.OpensMux →
      record.reached.usedMux = true ∧ process.usedMux = true ∧
      ∀ call ∈ later, call.usedMux = true ∧ call.reached.usedMux = true ∧
        (call.call.entry.explicitPort = none → ¬ call.TriesSerial)) ∧
    ∀ record ∈ process.calls,
      (record.call.entry.explicitPort = none → record.TriesSerial →
        record.usedMux = false ∧
        record.surroundings.TcpUnavailable record.call.entry.timeout ∧
        record.surroundings.findMuxSocket = none) ∧
      (∀ path, ⟨.muxUnix path, false⟩ ∈ record.reached.attempts →
        record.EndsAtSocket path) ∧
      (∀ path text, record.call.entry.Discovers →
        record.surroundings.TcpUnavailable record.call.entry.timeout →
        record.surroundings.findMuxSocket = some path →
        record.usedMux = false ∨ record.surroundings.defaultSocketPath = path →
        record.surroundings.unix path = some text → record.EndsAtSocket path) := by
  have consistent := consistent_of_reachable reached
  have serial : ∀ record ∈ process.calls, record.call.entry.explicitPort = none →
      record.TriesSerial → record.usedMux = false ∧
        record.surroundings.TcpUnavailable record.call.entry.timeout ∧
        record.surroundings.findMuxSocket = none := by
    intro record member noPort tries
    rw [consistent.recorded record member] at tries ⊢
    exact Call.record_serial noPort tries
  constructor
  · intro later record earlier split mux
    have member : record ∈ process.calls := by simp [split]
    have remembered : record.reached.usedMux = true := by
      rw [consistent.recorded record member] at mux ⊢
      rcases mux with used | opens
      · exact Call.record_keeps used
      · exact Call.record_remembers opens
    rcases consistent.sticky later record earlier split remembered with ⟨flag, found⟩
    refine ⟨remembered, flag, ?_⟩
    intro call laterCall
    have callMember : call ∈ process.calls := by simp [split, laterCall]
    have used := found call laterCall
    refine ⟨used, ?_, ?_⟩
    · rw [consistent.recorded call callMember]
      exact Call.record_keeps used
    · intro noPort tries
      have clear := (serial call callMember noPort tries).1
      rw [used] at clear
      cases clear
  · intro record member
    refine ⟨serial record member, ?_, ?_⟩
    · intro path failed
      rw [consistent.recorded record member] at failed ⊢
      exact Call.record_unix_failed failed
    · intro path text discovers unavailable found standard refuses
      rw [consistent.recorded record member] at unavailable found standard refuses ⊢
      exact Call.record_socket_refuses discovers unavailable found standard refuses

def Surroundings.withSockets (sockets : List String) : Surroundings where
  var _ := none
  pathExists path := sockets.contains path
  tcp _ _ _ := .failed "Connection refused"
  unix path := if sockets.contains path then none else some "No such file or directory"
  serial _ := none
  ports := some [⟨"/dev/ttyACM0", some (usbVid, usbPid)⟩]

def whileMuxRuns : Call WireTypes.sample :=
  ⟨.connectWith .new 0, .fixed (.withSockets [tmpSocket]) fun _ _ _ => some (.ok ())⟩

def whileMuxRestarts : Call WireTypes.sample :=
  ⟨.connectWith .new 3, .fixed (.withSockets []) fun _ _ _ => some (.ok ())⟩

theorem mux_is_sticky_restart :
    (whileMuxRuns.record false).OpensMux ∧
      (whileMuxRestarts.record true).surroundings.findPort = some "/dev/ttyACM0" ∧
      ¬ (whileMuxRestarts.record true).TriesSerial := by
  have opens : (whileMuxRuns.record false).OpensMux :=
    ⟨⟨.muxUnix tmpSocket, true⟩, by decide, rfl, rfl⟩
  have ran : machine.run machine.initial [whileMuxRuns, whileMuxRestarts] =
      some ⟨true, [whileMuxRestarts.record true] ++ whileMuxRuns.record false :: []⟩ := rfl
  have later := ((mux_is_sticky (.run .initial ran)).1 _ _ _ rfl (.inr opens)).2.2 _
    (List.mem_singleton.mpr rfl)
  exact ⟨opens, by decide, later.2.2 rfl⟩

end DongloraClient.Connect
