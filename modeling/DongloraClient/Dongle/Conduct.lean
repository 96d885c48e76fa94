import DongloraClient.Dongle.CommandLog
import DongloraClient.Dongle.Concurrent

/-! # How calls conduct themselves

Followed on its own and under arbitrary answers, a call holds at most one lock at a
time, and with a lock held it does nothing that might wait, `rx_start`'s first
`RX_START` apart. It sets the closed flag only where, under the same lock, it found the
flag clear, and only a call that has set the flag goes on to close the session.
-/

namespace DongloraClient.Dongle

open Foundation Session

variable {types : WireTypes}

/-! ## Conduct -/

/-- How far a call has come with closing the dongle. With the place `vacant` it has
found the flag clear and still holds its lock. -/
inductive Claim
  | unclaimed
  | vacant
  | claimed
  | spent
  deriving DecidableEq, Repr

structure Conduct where
  held : Option Cell
  claim : Claim
  deriving DecidableEq, Repr

namespace Conduct

def rest : Conduct := ⟨none, .unclaimed⟩

/-- What was seen under a lock is forgotten with it. -/
def unlocked (conduct : Conduct) : Conduct :=
  ⟨none, if conduct.claim = .vacant then .unclaimed else conduct.claim⟩

def after (conduct : Conduct) : (effect : Effect types) → Answer effect → Conduct
  | .acquire cell, _ => { conduct with held := some cell }
  | .release _, _ => conduct.unlocked
  | .load .closed, false => { conduct with claim := .vacant }
  | .store .closed _, _ => { conduct with claim := .claimed }
  | .closeSession, _ => { conduct with claim := .spent }
  | _, _ => conduct

def Permits (stalls : Bool) (conduct : Conduct) : Effect types → Prop
  | .acquire _ => conduct.held = none
  | .release cell => conduct.held = some cell
  | .load .closed => conduct = ⟨some .closed, .unclaimed⟩
  | .load cell => conduct.held = some cell
  | .store .closed value => conduct = ⟨some .closed, .vacant⟩ ∧ value = true
  | .store cell _ => conduct.held = some cell
  | .sendCommand _ _ => conduct.held = none ∨ conduct.held = some .rxStarted
  | .abortKeepalive => conduct = ⟨none, .claimed⟩
  | .closeSession => conduct = ⟨none, .claimed⟩
  | .nextRx => stalls = true ∧ conduct.held = none
  | .panic => stalls = true ∧ conduct.held = none
  | _ => conduct.held = none

end Conduct

def Conducts (conduct : Conduct) (effect : Effect types) (answer : Answer effect)
    (reached : Conduct) : Prop :=
  reached = conduct.after effect answer

def Conducted {Result : Type} (stalls : Bool) (returns : Conduct → Result → Prop)
    (conduct : Conduct) (operation : Operation types Result) : Prop :=
  operation.Satisfies Conducts (Conduct.Permits stalls) returns conduct

def Resting {Result : Type} (stalls : Bool) (operation : Operation types Result) : Prop :=
  Conducted stalls (fun reached _ => reached = .rest) .rest operation

/-! ## Rules -/

section Rules

variable {First Second : Type} {conduct : Conduct} {stalls : Bool}

theorem Resting.bind {operation : Operation types First}
    {next : First → Operation types Second} (first : Resting stalls operation)
    (second : ∀ value, Resting stalls (next value)) : Resting stalls (operation >>= next) := by
  apply Program.Satisfies.bind first
  intro reached value same
  rw [same]
  exact second value

theorem conducted_then {effect : Effect types} {next : Answer effect → Operation types Second}
    {returns : Conduct → Second → Prop} (permitted : conduct.Permits stalls effect)
    (continues : ∀ answer, Conducted stalls returns (conduct.after effect answer) (next answer)) :
    Conducted stalls returns conduct (.perform effect next) := by
  refine ⟨permitted, ?_⟩
  intro answer reached same
  rw [same]
  exact continues answer

theorem resting_read (cell : Cell) : Resting stalls (read cell : Operation types _) := by
  refine conducted_then rfl fun _ => ?_
  cases cell with
  | closed =>
      refine conducted_then rfl fun closed => ?_
      cases closed <;> exact conducted_then rfl fun _ => rfl
  | _ =>
      refine conducted_then rfl fun _ => ?_
      exact conducted_then rfl fun _ => rfl

theorem resting_write (cell : Cell) (value : cell.Value types) (notClosed : cell ≠ .closed) :
    Resting stalls (write cell value) := by
  refine conducted_then rfl fun _ => ?_
  cases cell with
  | closed => exact absurd rfl notClosed
  | _ =>
      refine conducted_then rfl fun _ => ?_
      exact conducted_then rfl fun _ => rfl

theorem resting_now : Resting stalls (now : Operation types Instant) :=
  conducted_then rfl fun _ => rfl

theorem resting_sleep (duration : Duration) :
    Resting stalls (sleep duration : Operation types Unit) :=
  conducted_then rfl fun _ => rfl

theorem resting_sendCommand (typeId : UInt8) (payload : List UInt8) (timeout : Duration) :
    Resting stalls (sendCommand typeId payload timeout : Operation types _) :=
  conducted_then (.inl rfl) fun _ => rfl

theorem resting_checkOpen : Resting stalls (checkOpen : Operation types (ClientResult Unit)) := by
  apply Resting.bind (resting_read .closed)
  intro closed
  cases closed <;> rfl

theorem resting_markWrite : Resting stalls (markWrite : Operation types Unit) := by
  apply Resting.bind resting_now
  intro instant
  exact resting_write .lastWriteAt instant (by simp)

theorem resting_ifOpen {next : ClientResult Unit → Operation types Second}
    (refuses : ∀ error, ∃ value, next (.error error) = .done value)
    (goesOn : Resting stalls (next (.ok ()))) : Resting stalls (checkOpen >>= next) := by
  apply Resting.bind resting_checkOpen
  intro result
  cases result with
  | error error =>
      rcases refuses error with ⟨value, refused⟩
      rw [refused]
      rfl
  | ok => exact goesOn

theorem resting_jitterMs (policy : RetryPolicy) :
    Resting stalls (policy.jitterMs : Operation types UInt32) := by
  rw [RetryPolicy.jitterMs]
  split
  · rfl
  · exact conducted_then rfl fun _ => rfl

variable (protocol : Protocol types)

theorem resting_emptyResult (name : String) (typeId : UInt8) (timeout : Duration) :
    Resting stalls (do
      return emptyResult protocol name (← sendCommand typeId [] timeout) : Operation types _) :=
  (resting_sendCommand _ _ _).bind fun _ => rfl

theorem resting_session_setConfig (config : Modulation types) (timeout : Duration) :
    Resting stalls (Session.setConfig protocol config timeout) := by
  rw [Session.setConfig]
  split
  · rfl
  · exact (resting_sendCommand _ _ _).bind fun _ => rfl

def Fits (stalls : Bool) (data : List UInt8) : Prop :=
  stalls = false → data.length < protocol.maxPayloadField

theorem resting_session_transmit {data : List UInt8} (fits : Fits protocol stalls data)
    (skipCad : Bool) (timeout : Duration) :
    Resting stalls (Session.transmit protocol data skipCad timeout) := by
  rw [Session.transmit]
  split
  · rfl
  · split
    · next oversize =>
      refine conducted_then ⟨?_, rfl⟩ ?_
      · cases tolerated : stalls with
        | true => rfl
        | false =>
            have small := fits tolerated
            omega
      · intro impossible
        cases impossible
    · exact (resting_sendCommand _ _ _).bind fun _ => rfl

end Rules

/-! ## Operations -/

section Operations

variable (protocol : Protocol types) {stalls : Bool}

theorem resting_reapplyConfig : Resting stalls (reapplyConfig protocol) := by
  apply Resting.bind (resting_read .appliedConfig)
  intro cached
  cases cached with
  | none => rfl
  | some config =>
      apply Resting.bind (resting_session_setConfig protocol config (fromSecs 2))
      intro result
      cases result with
      | error => rfl
      | ok result =>
          apply Resting.bind (resting_write .appliedConfig _ (by simp))
          intro
          rfl

theorem resting_txWithTimeout {data : List UInt8} (fits : Fits protocol stalls data)
    (skipCad : Bool) (timeout : Duration) :
    Resting stalls (txWithTimeout protocol data skipCad timeout) := by
  refine resting_ifOpen (fun _ => ⟨_, rfl⟩) ?_
  apply Resting.bind resting_markWrite
  intro
  apply Resting.bind (resting_session_transmit protocol fits skipCad timeout)
  intro result
  split
  · apply Resting.bind (resting_reapplyConfig protocol)
    intro reapplied
    cases reapplied with
    | error => rfl
    | ok => exact resting_session_transmit protocol fits skipCad timeout
  · rfl

theorem resting_txAttempts {data : List UInt8} (fits : Fits protocol stalls data)
    (policy : RetryPolicy) (numbers : List UInt8) (attempts : List TxAttempt)
    (delayMs : UInt32) :
    Resting stalls (txAttempts protocol data policy numbers attempts delayMs) := by
  induction numbers generalizing attempts delayMs with
  | nil => rfl
  | cons attemptNum later induction =>
      apply Resting.bind resting_markWrite
      intro
      apply Resting.bind resting_now
      intro started
      apply Resting.bind (resting_session_transmit protocol fits _ _)
      intro result
      apply Resting.bind resting_now
      intro ended
      cases result with
      | ok done => rfl
      | error error =>
          change Resting stalls (if _ then _ else _)
          split
          · rfl
          · apply Resting.bind (resting_jitterMs policy)
            intro jitter
            apply Resting.bind (resting_sleep _)
            intro
            exact induction _ _

theorem resting_txWithRetry {data : List UInt8} (fits : Fits protocol stalls data)
    (policy : RetryPolicy) :
    Resting stalls (txWithRetry protocol data policy) :=
  resting_ifOpen (fun _ => ⟨_, rfl⟩) (resting_txAttempts protocol fits policy _ _ _)

/-- The one operation that waits for the session with a lock held. -/
theorem resting_rxStart : Resting stalls (rxStart protocol) := by
  refine resting_ifOpen (fun _ => ⟨_, rfl⟩) ?_
  apply Resting.bind resting_markWrite
  intro
  refine conducted_then rfl fun _ => ?_
  refine conducted_then rfl fun started => ?_
  cases started with
  | true => exact conducted_then rfl fun _ => rfl
  | false =>
      have starting : Conducted stalls
          (fun reached _ => reached = ⟨some .rxStarted, .unclaimed⟩)
          ⟨some .rxStarted, .unclaimed⟩ (Session.rxStart protocol (fromSecs 2)) :=
        conducted_then (.inr rfl) fun _ => rfl
      apply Program.Satisfies.bind starting
      intro reached result same
      subst same
      split
      · refine conducted_then rfl fun _ => ?_
        apply Resting.bind (resting_reapplyConfig protocol)
        intro reapplied
        cases reapplied with
        | error => rfl
        | ok =>
            apply Resting.bind (resting_emptyResult protocol _ _ _)
            intro result
            cases result with
            | error => rfl
            | ok =>
                apply Resting.bind (resting_write .rxStarted true (by simp))
                intro
                rfl
      · exact conducted_then rfl fun _ => rfl
      · refine conducted_then rfl fun _ => ?_
        exact conducted_then rfl fun _ => rfl

theorem resting_rxStop : Resting stalls (rxStop protocol) := by
  refine resting_ifOpen (fun _ => ⟨_, rfl⟩) ?_
  apply Resting.bind resting_markWrite
  intro
  apply Resting.bind (resting_emptyResult protocol _ _ _)
  intro result
  cases result with
  | error => rfl
  | ok =>
      apply Resting.bind (resting_write .rxStarted false (by simp))
      intro
      rfl

theorem resting_ensureReceiving : Resting stalls (ensureReceiving protocol) := by
  refine resting_ifOpen (fun _ => ⟨_, rfl⟩) ?_
  apply Resting.bind (resting_read .rxStarted)
  intro started
  cases started with
  | true => rfl
  | false =>
      apply Resting.bind (resting_rxStart protocol)
      intro result
      cases result <;> rfl

theorem resting_setConfig (modulation : Modulation types) :
    Resting stalls (setConfig protocol modulation) := by
  refine resting_ifOpen (fun _ => ⟨_, rfl⟩) ?_
  apply Resting.bind resting_markWrite
  intro
  apply Resting.bind (resting_session_setConfig protocol modulation (fromSecs 2))
  intro result
  cases result with
  | error => rfl
  | ok result =>
      apply Resting.bind (resting_write .appliedConfig _ (by simp))
      intro
      apply Resting.bind (resting_write .rxStarted false (by simp))
      intro
      rfl

theorem resting_ping : Resting stalls (ping protocol) := by
  refine resting_ifOpen (fun _ => ⟨_, rfl⟩) ?_
  apply Resting.bind resting_markWrite
  intro
  exact resting_emptyResult protocol _ _ _

theorem resting_keepaliveTick : Resting stalls (keepaliveTick protocol) := by
  apply Resting.bind (resting_sleep _)
  intro
  apply Resting.bind (resting_read .closed)
  intro closed
  cases closed with
  | true => rfl
  | false =>
      apply Resting.bind (resting_read .lastWriteAt)
      intro last
      apply Resting.bind resting_now
      intro instant
      change Resting stalls (if _ then _ else _)
      split
      · rfl
      · apply Resting.bind (resting_emptyResult protocol _ _ _)
        intro result
        split
        · apply Resting.bind resting_markWrite
          intro
          rfl
        · apply Resting.bind (resting_read .appliedConfig)
          intro cached
          cases cached with
          | none => rfl
          | some config =>
              apply Resting.bind (resting_session_setConfig protocol config (fromSecs 2))
              intro result
              cases result with
              | error => rfl
              | ok =>
                  apply Resting.bind resting_markWrite
                  intro
                  rfl
        · rfl

/-- `close` claims the flag under its lock, or leaves at once. -/
theorem conducted_close :
    Conducted stalls (fun reached _ => reached.held = none) .rest
      (close : Operation types Unit) := by
  refine conducted_then rfl fun _ => ?_
  refine conducted_then rfl fun closed => ?_
  cases closed with
  | true => exact conducted_then rfl fun _ => rfl
  | false =>
      refine conducted_then ⟨rfl, rfl⟩ fun _ => ?_
      refine conducted_then rfl fun _ => ?_
      refine conducted_then rfl fun _ => ?_
      exact conducted_then rfl fun _ => rfl

theorem resting_receive {wait : Operation types (Option types.RxPayload)}
    (waits : Resting stalls wait) :
    Resting stalls (do if ← ensureReceiving protocol then wait else return none) := by
  apply Resting.bind (resting_ensureReceiving protocol)
  intro receiving
  cases receiving with
  | true => exact waits
  | false => rfl

theorem Resting.finally {First Second : Type} {operation : Operation types First}
    (resting : Resting stalls operation) (last : First → Second) :
    Conducted stalls (fun reached _ => reached.held = none) .rest
      (operation >>= fun value => .done (last value)) := by
  apply Program.Satisfies.bind resting
  intro reached value same
  rw [same]
  rfl

/-- Calls that may wait for a packet for ever, or panic over a payload that does not
fit its buffer. -/
def Call.mayStall : Call types → Bool
  | .nextRx => true
  | .txWithTimeout data _ _ => protocol.maxPayloadField ≤ data.length
  | .txWithRetry data _ => protocol.maxPayloadField ≤ data.length
  | _ => false

def Behaves (call : Call types) (conduct : Conduct)
    (operation : Operation types (Outcome types)) : Prop :=
  Conducted (Call.mayStall protocol call) (fun reached _ => reached.held = none) conduct operation

theorem behaves_operationOf (call : Call types) :
    Behaves protocol call .rest (operationOf protocol call) := by
  have fits : ∀ data : List UInt8,
      Fits protocol (decide (protocol.maxPayloadField ≤ data.length)) data := by
    intro data small
    exact Nat.lt_of_not_le (of_decide_eq_false small)
  cases call with
  | txWithTimeout data skipCad timeout =>
      exact (resting_txWithTimeout protocol (fits data) skipCad timeout).finally _
  | txWithRetry data policy =>
      exact (resting_txWithRetry protocol (fits data) policy).finally _
  | rxStart => exact (resting_rxStart protocol).finally _
  | rxStop => exact (resting_rxStop protocol).finally _
  | recv timeout =>
      have waits : Resting false (recvRx timeout : Operation types _) :=
        conducted_then rfl fun _ => rfl
      exact (resting_receive protocol waits).finally _
  | nextRx =>
      have waits : Resting true (nextRxEvent : Operation types _) :=
        conducted_then ⟨rfl, rfl⟩ fun _ => rfl
      exact (resting_receive protocol waits).finally _
  | setConfig modulation => exact (resting_setConfig protocol modulation).finally _
  | ping => exact (resting_ping protocol).finally _
  | drainAsyncErrors => exact conducted_then rfl fun _ => rfl
  | config => exact (resting_read .appliedConfig).finally _
  | close =>
      apply Program.Satisfies.bind conducted_close
      intro reached value unheld
      exact unheld
  | keepaliveTick => exact (resting_keepaliveTick protocol).finally _

end Operations

end DongloraClient.Dongle
