import DongloraClient.Dongle.CommandLog

/-! # The commands of a transmission

The logs that `tx_with_timeout` and `tx_with_retry` go through: when each issues
another `TX` command, and what its result says about the one issued last.
-/

namespace DongloraClient.Dongle

open Foundation Session

variable {types : WireTypes} (protocol : Protocol types)

/-! ## The log of `tx_with_timeout` -/

namespace Command

def IsTx (command : Command types) : Prop :=
  command.request.typeId = protocol.typeTx

def IsSetConfig (command : Command types) : Prop :=
  command.request.typeId = protocol.typeSetConfig

def Unconfigured (command : Command types) : Prop :=
  transmitResult protocol command.result = .error .notConfigured

def Reconfigures (command : Command types) : Prop :=
  ∃ applied, setConfigResult protocol command.result = .ok applied

def Retryable (command : Command types) : Prop :=
  ∃ error, transmitResult protocol command.result = .error error ∧
    error.isRetryable = true

def Transmits (command : Command types) (done : TxDonePayload) : Prop :=
  transmitResult protocol command.result = .ok done

end Command

def Recovered (log : List (Command types)) : Prop :=
  ∃ config first, log = [config, first] ∧ first.IsTx protocol ∧
    first.Unconfigured protocol ∧ config.IsSetConfig protocol ∧
    config.Reconfigures protocol

inductive TimeoutLog : List (Command types) → Prop
  | none : TimeoutLog []
  | first {first : Command types} (isTx : first.IsTx protocol) : TimeoutLog [first]
  | recovering {first config : Command types} (isTx : first.IsTx protocol)
      (unconfigured : first.Unconfigured protocol)
      (isSetConfig : config.IsSetConfig protocol) : TimeoutLog [config, first]
  | second {log : List (Command types)} {second : Command types}
      (recovered : Recovered protocol log) (isTx : second.IsTx protocol) :
      TimeoutLog (second :: log)

def TimeoutMay (log : List (Command types)) (request : Request) : Prop :=
  request.typeId = protocol.typeTx → log = [] ∨ Recovered protocol log

/-- Success is reported only for the command issued last. -/
def Succeeds {Result : Type} (airtime : Result → UInt32) (log : List (Command types))
    (result : ClientResult Result) : Prop :=
  ∀ value, result = .ok value → ∃ last older done, log = last :: older ∧
    last.IsTx protocol ∧ last.Transmits protocol done ∧ airtime value = done.airtimeUs

section Logs

variable {protocol}

theorem setConfig_ne_tx : protocol.typeSetConfig ≠ protocol.typeTx := by
  have distinct := protocol.commandTypes_nodup
  simp only [List.nodup_cons, List.mem_cons, not_or] at distinct
  exact distinct.2.2.1.1

theorem succeeds_error {Result : Type} {airtime : Result → UInt32}
    {log : List (Command types)} {error : ClientError} :
    Succeeds protocol airtime log (.error error) := by
  intro value same
  cases same

theorem succeeds_transmit {log : List (Command types)} {payload : List UInt8}
    {result : ClientResult (SessionResponse types)} :
    Succeeds protocol TxDonePayload.airtimeUs (⟨⟨protocol.typeTx, payload⟩, result⟩ :: log)
      (transmitResult protocol result) := by
  intro done transmitted
  exact ⟨_, _, done, rfl, rfl, transmitted, rfl⟩

theorem recoverAndRetryTx_log {data : List UInt8} {skipCad : Bool} {timeout : Duration}
    {first : Command types} (isTx : first.IsTx protocol)
    (unconfigured : first.Unconfigured protocol) :
    Commands (TimeoutLog protocol) (TimeoutMay protocol)
      (fun log result => TimeoutLog protocol log ∧
        Succeeds protocol TxDonePayload.airtimeUs log result) [first]
      (recoverAndRetryTx protocol data skipCad timeout) := by
  have reapplying : Commands (TimeoutLog protocol) (TimeoutMay protocol)
      (fun log result => TimeoutLog protocol log ∧
        (result = .ok () → Recovered protocol log)) [first]
      (reapplyConfig protocol) := by
    apply commands_after_quiet (quiet_read .appliedConfig) (.first isTx)
    intro cached
    cases cached with
    | none => exact ⟨.first isTx, nofun⟩
    | some config =>
        have applying : Commands (TimeoutLog protocol) (TimeoutMay protocol)
            (fun log result => TimeoutLog protocol log ∧
              ∀ applied, result = .ok applied → Recovered protocol log) [first]
            (Session.setConfig protocol config (fromSecs 2)) := by
          apply commands_of_setConfig (.first isTx)
          · exact fun _ => ⟨.first isTx, nofun⟩
          · exact fun _ isTx => absurd isTx setConfig_ne_tx
          · intro payload result
            refine ⟨.recovering isTx unconfigured rfl, ?_⟩
            intro applied accepted
            exact ⟨_, first, rfl, isTx, unconfigured, rfl, applied, accepted⟩
        apply Commands.bind applying
        intro log result applied
        cases result with
        | error error => exact ⟨applied.1, nofun⟩
        | ok result =>
            apply commands_after_quiet (quiet_write _ _) applied.1
            exact fun _ => ⟨applied.1, fun _ => applied.2 result rfl⟩
  apply Commands.bind reapplying
  intro log result recovers
  cases result with
  | error error => exact ⟨recovers.1, succeeds_error⟩
  | ok _ =>
      have recovered := recovers.2 rfl
      apply commands_of_transmit recovers.1 ⟨recovers.1, succeeds_error⟩
      · exact fun _ _ => .inr recovered
      · exact fun _ _ => ⟨.second recovered rfl, succeeds_transmit⟩

theorem txWithTimeout_log (data : List UInt8) (skipCad : Bool) (timeout : Duration) :
    Commands (TimeoutLog protocol) (TimeoutMay protocol)
      (fun log result => TimeoutLog protocol log ∧
        Succeeds protocol TxDonePayload.airtimeUs log result) []
      (txWithTimeout protocol data skipCad timeout) := by
  apply commands_after_quiet quiet_checkOpen .none
  intro opened
  cases opened with
  | error error => exact ⟨.none, succeeds_error⟩
  | ok _ =>
      apply commands_after_quiet quiet_markWrite .none
      intro _
      have transmitting : Commands (TimeoutLog protocol) (TimeoutMay protocol)
          (fun log result => (TimeoutLog protocol log ∧
              Succeeds protocol TxDonePayload.airtimeUs log result) ∧
            (result = .error .notConfigured → ∃ first : Command types, log = [first] ∧
              first.IsTx protocol ∧ first.Unconfigured protocol)) []
          (Session.transmit protocol data skipCad timeout) := by
        apply commands_of_transmit .none
        · exact ⟨⟨.none, succeeds_error⟩, nofun⟩
        · exact fun _ _ => .inl rfl
        · intro payload result
          refine ⟨⟨.first rfl, succeeds_transmit⟩, ?_⟩
          intro unconfigured
          exact ⟨_, rfl, rfl, unconfigured⟩
      apply Commands.bind transmitting
      intro log result transmitted
      split
      · rcases transmitted.2 rfl with ⟨first, rfl, isTx, unconfigured⟩
        exact recoverAndRetryTx_log isTx unconfigured
      · exact transmitted.1

end Logs

/-! ## The log of `tx_with_retry` -/

structure RetryLog (limit : Nat) (log : List (Command types)) : Prop where
  allTx : ∀ command ∈ log, command.IsTx protocol
  older : ∀ command ∈ log.tail, command.Retryable protocol
  bounded : log.length ≤ limit

def RetryMay (limit : Nat) (log : List (Command types)) (request : Request) : Prop :=
  request.typeId = protocol.typeTx →
    (∀ command ∈ log, command.Retryable protocol) ∧ log.length < limit

section Logs

variable {protocol}

structure Retrying (protocol : Protocol types) (log : List (Command types)) : Prop where
  allTx : ∀ command ∈ log, command.IsTx protocol
  retryable : ∀ command ∈ log, command.Retryable protocol

namespace Retrying

variable {log : List (Command types)} {limit : Nat}

theorem nil : Retrying protocol [] := by
  constructor <;> simp

theorem cons {last : Command types} (retrying : Retrying protocol log)
    (isTx : last.IsTx protocol) (retryable : last.Retryable protocol) :
    Retrying protocol (last :: log) where
  allTx := List.forall_mem_cons.mpr ⟨isTx, retrying.allTx⟩
  retryable := List.forall_mem_cons.mpr ⟨retryable, retrying.retryable⟩

theorem retryLog (retrying : Retrying protocol log) (bounded : log.length ≤ limit) :
    RetryLog protocol limit log where
  allTx := retrying.allTx
  older command member := retrying.retryable command (List.mem_of_mem_tail member)
  bounded := bounded

theorem attempted {last : Command types} (retrying : Retrying protocol log)
    (isTx : last.IsTx protocol) (room : log.length < limit) :
    RetryLog protocol limit (last :: log) where
  allTx := List.forall_mem_cons.mpr ⟨isTx, retrying.allTx⟩
  older := retrying.retryable
  bounded := room

end Retrying

/-- One attempt: a retryable error comes from a `TX` that asked for another one. -/
theorem attempt_log {limit : Nat} (data : List UInt8) (skipCad : Bool) (timeout : Duration)
    {log : List (Command types)} (retrying : Retrying protocol log)
    (room : log.length < limit) :
    Commands (RetryLog protocol limit) (RetryMay protocol limit)
      (fun reached result => (RetryLog protocol limit reached ∧
          Succeeds protocol TxDonePayload.airtimeUs reached result) ∧
        ∀ error, result = .error error → error.isRetryable = true →
          ∃ last : Command types, reached = last :: log ∧
            last.IsTx protocol ∧ last.Retryable protocol) log
      (Session.transmit protocol data skipCad timeout) := by
  have holds := retrying.retryLog (Nat.le_of_lt room)
  apply commands_of_transmit holds
  · refine ⟨⟨holds, succeeds_error⟩, ?_⟩
    intro error same
    cases same
    exact nofun
  · exact fun _ _ => ⟨retrying.retryable, room⟩
  · intro payload result
    refine ⟨⟨retrying.attempted rfl room, succeeds_transmit⟩, ?_⟩
    intro error failed retry
    exact ⟨_, rfl, rfl, error, failed, retry⟩

/-- The loop, from a log of attempts that all asked for another one. -/
theorem txAttempts_log {limit : Nat} (data : List UInt8) (policy : RetryPolicy)
    (numbers : List UInt8) (attempts : List TxAttempt) (delayMs : UInt32)
    {log : List (Command types)} (retrying : Retrying protocol log)
    (bounded : log.length + numbers.length ≤ limit) :
    Commands (RetryLog protocol limit) (RetryMay protocol limit)
      (fun log result => RetryLog protocol limit log ∧
        Succeeds protocol TxOutcome.finalAirtimeUs log result) log
      (txAttempts protocol data policy numbers attempts delayMs) := by
  have holds : RetryLog protocol limit log := retrying.retryLog (by omega)
  induction numbers generalizing log attempts delayMs with
  | nil => exact ⟨holds, succeeds_error⟩
  | cons number numbers induction =>
      simp only [List.length_cons] at bounded
      rw [txAttempts]
      apply commands_after_quiet quiet_markWrite holds
      intro _
      apply commands_after_quiet (quiet_perform rfl) holds
      intro started
      apply Commands.bind
        (attempt_log data policy.skipCad policy.perAttemptTimeout retrying (by omega))
      intro reached result transmitted
      apply commands_after_quiet (quiet_perform rfl) transmitted.1.1
      intro ended
      cases result with
      | ok done =>
          refine ⟨transmitted.1.1, ?_⟩
          intro outcome same
          cases same
          exact transmitted.1.2 done rfl
      | error error =>
          dsimp only
          split
          · exact ⟨transmitted.1.1, succeeds_error⟩
          · next again =>
            have retry : error.isRetryable = true := by
              by_contra notRetryable
              simp [notRetryable] at again
            rcases transmitted.2 error rfl retry with ⟨last, rfl, isTx, lastRetryable⟩
            apply commands_after_quiet (quiet_jitterMs policy) transmitted.1.1
            intro jitter
            apply commands_after_quiet (quiet_perform rfl) transmitted.1.1
            intro _
            apply induction _ _ (retrying.cons isTx lastRetryable) _ transmitted.1.1
            simp only [List.length_cons]
            omega

theorem attemptNumbers_length (policy : RetryPolicy) :
    policy.attemptNumbers.length = policy.maxAttempts.toNat := by
  simp [RetryPolicy.attemptNumbers]

theorem txWithRetry_log (data : List UInt8) (policy : RetryPolicy) :
    Commands (RetryLog protocol policy.maxAttempts.toNat)
      (RetryMay protocol policy.maxAttempts.toNat)
      (fun log result => RetryLog protocol policy.maxAttempts.toNat log ∧
        Succeeds protocol TxOutcome.finalAirtimeUs log result) []
      (txWithRetry protocol data policy) := by
  have empty : RetryLog protocol policy.maxAttempts.toNat ([] : List (Command types)) :=
    Retrying.nil.retryLog (Nat.zero_le _)
  apply commands_after_quiet quiet_checkOpen empty
  intro opened
  cases opened with
  | error error => exact ⟨empty, succeeds_error⟩
  | ok _ =>
      apply txAttempts_log data policy policy.attemptNumbers [] policy.backoffMsMin .nil
      simp [attemptNumbers_length]

end Logs

end DongloraClient.Dongle
