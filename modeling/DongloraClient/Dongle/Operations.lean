import DongloraClient.Session.Commands

/-! # The operations of a dongle

`Dongle`'s methods and one turn of its keepalive task, as programs over the cells
of `Inner` and the commands of the session.
-/

namespace DongloraClient.Dongle

open Foundation Session

variable {types : WireTypes}

def keepaliveInterval : Duration := fromMillis 500

structure Command (types : WireTypes) where
  request : Request
  result : ClientResult (SessionResponse types)

/-! ## Retry policy -/

structure RetryPolicy where
  maxAttempts : UInt8
  backoffMsMin : UInt32
  backoffMsMax : UInt32
  backoffMultiplier : Float32
  backoffCapMs : UInt32
  perAttemptTimeout : Duration
  skipCad : Bool

namespace RetryPolicy

def default : RetryPolicy where
  maxAttempts := 3
  backoffMsMin := 20
  backoffMsMax := 100
  backoffMultiplier := 2.0
  backoffCapMs := 500
  perAttemptTimeout := fromSecs 5
  skipCad := false

def spread (policy : RetryPolicy) : UInt32 :=
  if policy.backoffMsMax < policy.backoffMsMin then 0
  else policy.backoffMsMax - policy.backoffMsMin

def jitterMs (policy : RetryPolicy) : Operation types UInt32 :=
  if policy.spread = 0 then
    return 0
  else
    .perform (.random policy.spread) fun sample => .done sample.val

/-- `(delay_ms as f32 * backoff_multiplier) as u32`, capped. -/
def nextDelay (policy : RetryPolicy) (delayMs : UInt32) : UInt32 :=
  min (delayMs.toFloat32 * policy.backoffMultiplier).toUInt32 policy.backoffCapMs

def attemptNumbers (policy : RetryPolicy) : List UInt8 :=
  (List.range' 1 policy.maxAttempts.toNat).map UInt8.ofNat

end RetryPolicy

structure TxAttempt where
  attempt : UInt8
  result : ClientResult TxDonePayload
  elapsed : Duration

structure TxOutcome where
  finalAirtimeUs : UInt32
  attempts : List TxAttempt

def TxOutcome.attemptsUsed (outcome : TxOutcome) : UInt8 :=
  UInt8.ofNat outcome.attempts.length

def TxOutcome.hadRetries (outcome : TxOutcome) : Bool :=
  1 < outcome.attempts.length

/-! ## Operations -/

variable (protocol : Protocol types)

def checkOpen : Operation types (ClientResult Unit) := do
  let closed ← readClosed
  if closed then
    return .error (.transportClosed "dongle closed")
  else
    return .ok ()

def markWrite : Operation types Unit := do
  let instant ← now
  write .lastWriteAt instant

def reapplyConfig : Operation types (ClientResult Unit) := do
  let cached ← readAppliedConfig
  match cached with
  | none => return .error .notConfigured
  | some config =>
      match ← Session.setConfig protocol config (fromSecs 2) with
      | .error error => return .error error
      | .ok result =>
          write .appliedConfig (some result.current)
          return .ok ()

def recoverAndRetryTx (data : List UInt8) (skipCad : Bool) (timeout : Duration) :
    Operation types (ClientResult TxDonePayload) := do
  match ← reapplyConfig protocol with
  | .error error => return .error error
  | .ok () => Session.transmit protocol data skipCad timeout

def txWithTimeout (data : List UInt8) (skipCad : Bool) (timeout : Duration) :
    Operation types (ClientResult TxDonePayload) := do
  match ← checkOpen with
  | .error error => return .error error
  | .ok () =>
      markWrite
      match ← Session.transmit protocol data skipCad timeout with
      | .error .notConfigured => recoverAndRetryTx protocol data skipCad timeout
      | other => return other

def tx (data : List UInt8) : Operation types (ClientResult TxDonePayload) :=
  txWithTimeout protocol data false (fromSecs 10)

def txAttempts (data : List UInt8) (policy : RetryPolicy) :
    List UInt8 → List TxAttempt → UInt32 → Operation types (ClientResult TxOutcome)
  | [], _, _ => return .error (.other "tx_with_retry exited without result")
  | attemptNum :: later, attempts, delayMs => do
      markWrite
      let started ← now
      let result ← Session.transmit protocol data policy.skipCad policy.perAttemptTimeout
      let elapsed := (← now) - started
      match result with
      | .ok done =>
          return .ok ⟨done.airtimeUs, attempts ++ [⟨attemptNum, .ok done, elapsed⟩]⟩
      | .error error =>
          if !error.isRetryable || attemptNum == policy.maxAttempts then
            return .error error
          else
            let jitter ← policy.jitterMs
            sleep (fromMillis (delayMs.toNat + jitter.toNat))
            txAttempts data policy later
              (attempts ++ [⟨attemptNum, .error error.cloneKind, elapsed⟩])
              (policy.nextDelay delayMs)

def txWithRetry (data : List UInt8) (policy : RetryPolicy) :
    Operation types (ClientResult TxOutcome) := do
  match ← checkOpen with
  | .error error => return .error error
  | .ok () => txAttempts protocol data policy policy.attemptNumbers [] policy.backoffMsMin

/-- The guard on `rx_started` is held over the first `RX_START`, and given up
before a recovery. -/
def rxStart : Operation types (ClientResult Unit) := do
  match ← checkOpen with
  | .error error => return .error error
  | .ok () =>
      markWrite
      acquire .rxStarted
      let started ← loadRxStarted
      if started then
        release .rxStarted
        return .ok ()
      else
        match ← Session.rxStart protocol (fromSecs 2) with
        | .error .notConfigured =>
            release .rxStarted
            match ← reapplyConfig protocol with
            | .error error => return .error error
            | .ok () =>
                match ← Session.rxStart protocol (fromSecs 2) with
                | .error error => return .error error
                | .ok () =>
                    write .rxStarted true
                    return .ok ()
        | .error error =>
            release .rxStarted
            return .error error
        | .ok () =>
            store .rxStarted true
            release .rxStarted
            return .ok ()

def rxStop : Operation types (ClientResult Unit) := do
  match ← checkOpen with
  | .error error => return .error error
  | .ok () =>
      markWrite
      match ← Session.rxStop protocol (fromSecs 2) with
      | .error error => return .error error
      | .ok () =>
          write .rxStarted false
          return .ok ()

/-- The common part of `recv` and `next_rx`; `false` where they return `None`. -/
def ensureReceiving : Operation types Bool := do
  match ← checkOpen with
  | .error _ => return false
  | .ok () =>
      let started ← readRxStarted
      if started then
        return true
      else
        match ← rxStart protocol with
        | .error _ => return false
        | .ok () => return true

def recv (timeout : Duration) : Operation types (Option types.RxPayload) := do
  if ← ensureReceiving protocol then
    recvRx timeout
  else
    return none

def nextRx : Operation types (Option types.RxPayload) := do
  if ← ensureReceiving protocol then
    nextRxEvent
  else
    return none

def setConfig (modulation : Modulation types) : Operation types (ClientResult Unit) := do
  match ← checkOpen with
  | .error error => return .error error
  | .ok () =>
      markWrite
      match ← Session.setConfig protocol modulation (fromSecs 2) with
      | .error error => return .error error
      | .ok result =>
          write .appliedConfig (some result.current)
          write .rxStarted false
          return .ok ()

def ping : Operation types (ClientResult Unit) := do
  match ← checkOpen with
  | .error error => return .error error
  | .ok () =>
      markWrite
      Session.ping protocol (fromSecs 2)

def drainAsyncErrors : Operation types (List ClientError) :=
  .perform .drainAsyncErrors .done

def config : Operation types (Option (Modulation types)) := readAppliedConfig

def close : Operation types Unit := do
  acquire .closed
  let closed ← loadClosed
  if closed then
    release .closed
  else
    store .closed true
    release .closed
    abortKeepalive
    closeSession

/-- One turn of the keepalive loop; `false` where the task ends. -/
def keepaliveTick : Operation types Bool := do
  sleep keepaliveInterval
  let closed ← readClosed
  if closed then
    return false
  else
    let last ← readLastWriteAt
    let elapsed := (← now) - last
    if elapsed < keepaliveInterval then
      return true
    else
      match ← Session.ping protocol (fromSecs 2) with
      | .ok () =>
          markWrite
          return true
      | .error .notConfigured =>
          let cached ← readAppliedConfig
          match cached with
          | none => return true
          | some config =>
              match ← Session.setConfig protocol config (fromSecs 2) with
              | .ok _ =>
                  markWrite
                  return true
              | .error _ => return true
      | .error _ => return true

end DongloraClient.Dongle
