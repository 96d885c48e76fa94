import DongloraClient.Dongle.Sequential

/-! # Transmitting with retries

The loop of `tx_with_retry` seen from the calls it makes: which results of
`Session::transmit` end it, what it writes into its log, and how long it waits in
between. The program of the dongle is this loop with every call carried out, and
executed on an open dongle it returns what the loop returns.
-/

namespace DongloraClient.Dongle

open Foundation Session

variable {types : WireTypes}

/-! ## The calls of the loop -/

/-- What the loop calls. The product of the delay and the multiplier is among the
calls, so that the loop can be studied under any value of it. -/
inductive RetryEffect
  | markWrite
  | now
  | transmit
  | jitter
  | backOff (delayMs jitterMs : UInt32)
  | product (delayMs : UInt32)
  deriving DecidableEq, Repr

def RetryAnswer (policy : RetryPolicy) : RetryEffect → Type
  | .markWrite => Unit
  | .now => Instant
  | .transmit => ClientResult TxDonePayload
  | .jitter => { value : UInt32 // value ≤ policy.spread }
  | .backOff _ _ => Unit
  | .product _ => UInt32

abbrev RetryProgram (policy : RetryPolicy) := Program RetryEffect (RetryAnswer policy)

def exitedWithoutResult : ClientError := .other "tx_with_retry exited without result"

def retryAttempts (policy : RetryPolicy) :
    List UInt8 → List TxAttempt → UInt32 → RetryProgram policy (ClientResult TxOutcome)
  | [], _, _ => .done (.error exitedWithoutResult)
  | attemptNum :: later, attempts, delayMs =>
      .perform .markWrite fun _ =>
      .perform .now fun (started : Instant) =>
      .perform .transmit fun (result : ClientResult TxDonePayload) =>
      .perform .now fun (finished : Instant) =>
        match result with
        | .ok done =>
            .done (.ok ⟨done.airtimeUs,
              attempts ++ [⟨attemptNum, .ok done, finished - started⟩]⟩)
        | .error error =>
            if !error.isRetryable || attemptNum == policy.maxAttempts then
              .done (.error error)
            else
              .perform .jitter fun (jitter : { value : UInt32 // value ≤ policy.spread }) =>
              .perform (.backOff delayMs jitter.val) fun _ =>
              .perform (.product delayMs) fun (product : UInt32) =>
                retryAttempts policy later
                  (attempts ++ [⟨attemptNum, .error error.cloneKind, finished - started⟩])
                  (min product policy.backoffCapMs)

def retry (policy : RetryPolicy) : RetryProgram policy (ClientResult TxOutcome) :=
  retryAttempts policy policy.attemptNumbers [] policy.backoffMsMin

def carryOut (protocol : Protocol types) (data : List UInt8) (policy : RetryPolicy) :
    (effect : RetryEffect) → Operation types (RetryAnswer policy effect)
  | .markWrite => markWrite
  | .now => now
  | .transmit => Session.transmit protocol data policy.skipCad policy.perAttemptTimeout
  | .jitter =>
      if policy.spread = 0 then .done ⟨0, UInt32.zero_le⟩
      else .perform (.random policy.spread) .done
  | .backOff delayMs jitterMs => sleep (fromMillis (delayMs.toNat + jitterMs.toNat))
  | .product delayMs => .done (delayMs.toFloat32 * policy.backoffMultiplier).toUInt32

theorem carryOut_jitter (protocol : Protocol types) (data : List UInt8)
    (policy : RetryPolicy) {Result : Type} (next : UInt32 → Operation types Result) :
    (carryOut protocol data policy .jitter >>=
        fun (jitter : { value : UInt32 // value ≤ policy.spread }) => next jitter.val) =
      policy.jitterMs >>= next := by
  rw [carryOut, RetryPolicy.jitterMs]
  by_cases zero : policy.spread = 0
  · rw [if_pos zero, if_pos zero]
    rfl
  · rw [if_neg zero, if_neg zero]
    rfl

theorem txAttempts_eq_expand (protocol : Protocol types) (data : List UInt8)
    (policy : RetryPolicy) (numbers : List UInt8) (attempts : List TxAttempt)
    (delayMs : UInt32) :
    txAttempts protocol data policy numbers attempts delayMs =
      (retryAttempts policy numbers attempts delayMs).expand
        (carryOut protocol data policy) := by
  induction numbers generalizing attempts delayMs with
  | nil => rfl
  | cons attemptNum later induction =>
      rw [txAttempts, retryAttempts]
      apply bind_congr
      intro _
      apply bind_congr
      intro started
      apply bind_congr
      intro result
      apply bind_congr
      intro finished
      cases result with
      | ok done => rfl
      | error error =>
          dsimp only
          split
          · rfl
          · rw [← carryOut_jitter protocol data policy]
            apply bind_congr
            intro jitter
            apply bind_congr
            intro _
            exact induction _ _

theorem txWithRetry_eq_expand (protocol : Protocol types) (data : List UInt8)
    (policy : RetryPolicy) :
    txWithRetry protocol data policy = (do
      match ← checkOpen with
      | .error error => return .error error
      | .ok () => (retry policy).expand (carryOut protocol data policy)) := by
  rw [txWithRetry, txAttempts_eq_expand]
  rfl

/-! ## Running the loop -/

/-- What the calls come back with. The results of `transmit` are counted from 1, the
readings of the clock and the samples of the jitter from 0. -/
structure RetryEnvironment where
  results : Nat → ClientResult TxDonePayload
  clock : Nat → Instant
  samples : Nat → (spread : UInt32) → { value : UInt32 // value ≤ spread }
  products : Nat → UInt32 → UInt32

structure Backoff where
  delayMs : UInt32
  jitterMs : UInt32
  deriving DecidableEq, Repr

structure RetryProgress where
  transmits : Nat
  readings : Nat
  draws : Nat
  waits : List Backoff
  deriving DecidableEq, Repr

def RetryProgress.start : RetryProgress := ⟨0, 0, 0, []⟩

variable (environment : RetryEnvironment)

def retryHandler (policy : RetryPolicy) : (effect : RetryEffect) → RetryProgress →
    Option (RetryAnswer policy effect × RetryProgress)
  | .markWrite, progress => some ((), { progress with readings := progress.readings + 1 })
  | .now, progress =>
      some (environment.clock progress.readings,
        { progress with readings := progress.readings + 1 })
  | .transmit, progress =>
      some (environment.results (progress.transmits + 1),
        { progress with transmits := progress.transmits + 1 })
  | .jitter, progress =>
      some (environment.samples progress.draws policy.spread,
        { progress with draws := progress.draws + 1 })
  | .backOff delayMs jitterMs, progress =>
      some ((), { progress with waits := progress.waits ++ [⟨delayMs, jitterMs⟩] })
  | .product delayMs, progress =>
      some (environment.products progress.transmits delayMs, progress)

abbrev runRetry (policy : RetryPolicy) : Option (ClientResult TxOutcome) × RetryProgress :=
  (retry policy).run (retryHandler environment policy) .start

def settles : ClientResult TxDonePayload → Bool
  | .ok _ => true
  | .error error => !error.isRetryable

/-- The first attempt that settles, else the last one allowed. -/
def attemptCount (results : Nat → ClientResult TxDonePayload) (maxAttempts : Nat) : Nat :=
  ((List.range' 1 maxAttempts).find? fun attempt => settles (results attempt)).getD maxAttempts

section AttemptCount

variable {results : Nat → ClientResult TxDonePayload} {maxAttempts attempt : Nat}

theorem attemptCount_of_settles (positive : 1 ≤ attempt) (allowed : attempt ≤ maxAttempts)
    (settled : settles (results attempt) = true)
    (earlier : ∀ other, 1 ≤ other → other < attempt → settles (results other) = false) :
    attemptCount results maxAttempts = attempt := by
  have found : (List.range' 1 maxAttempts).find? (fun other => settles (results other)) =
      some attempt := by
    rw [List.find?_range'_eq_some, List.mem_range'_1]
    refine ⟨settled, ⟨positive, by omega⟩, ?_⟩
    intro other otherPositive before
    rw [earlier other otherPositive before]
    rfl
  rw [attemptCount, found]
  rfl

theorem attemptCount_of_unsettled
    (unsettled : ∀ other, 1 ≤ other → other ≤ maxAttempts → settles (results other) = false) :
    attemptCount results maxAttempts = maxAttempts := by
  have absent : (List.range' 1 maxAttempts).find? (fun other => settles (results other)) =
      none := by
    rw [List.find?_range'_eq_none]
    intro other positive allowed
    rw [unsettled other positive (by omega)]
    rfl
  rw [attemptCount, absent]
  rfl

end AttemptCount

/-! ## One attempt -/

def RetryProgress.attempted (progress : RetryProgress) : RetryProgress :=
  { progress with
    transmits := progress.transmits + 1
    readings := progress.readings + 3 }

def RetryProgress.waited (progress : RetryProgress) (wait : Backoff) : RetryProgress :=
  { progress with
    draws := progress.draws + 1
    waits := progress.waits ++ [wait] }

def elapsedAt (progress : RetryProgress) : Duration :=
  environment.clock (progress.readings + 2) - environment.clock (progress.readings + 1)

def backoffAt (policy : RetryPolicy) (delayMs : UInt32) (progress : RetryProgress) : Backoff :=
  ⟨delayMs, environment.samples progress.draws policy.spread⟩

def delayAfter (policy : RetryPolicy) (delayMs : UInt32) (progress : RetryProgress) : UInt32 :=
  min (environment.products (progress.transmits + 1) delayMs) policy.backoffCapMs

variable {environment} {policy : RetryPolicy} {attemptNum : UInt8} {later : List UInt8}
  {attempts : List TxAttempt} {delayMs : UInt32} {progress : RetryProgress}

theorem run_attempt :
    (retryAttempts policy (attemptNum :: later) attempts delayMs).run
        (retryHandler environment policy) progress =
      match environment.results (progress.transmits + 1) with
      | .ok done =>
          (some (.ok ⟨done.airtimeUs,
            attempts ++ [⟨attemptNum, .ok done, elapsedAt environment progress⟩]⟩),
            progress.attempted)
      | .error error =>
          if !error.isRetryable || attemptNum == policy.maxAttempts then
            (some (.error error), progress.attempted)
          else
            (retryAttempts policy later
              (attempts ++
                [⟨attemptNum, .error error.cloneKind, elapsedAt environment progress⟩])
              (delayAfter environment policy delayMs progress)).run
              (retryHandler environment policy)
              (progress.attempted.waited (backoffAt environment policy delayMs progress)) := by
  rw [retryAttempts]
  change Program.run _ (match environment.results (progress.transmits + 1) with
    | .ok _ => _
    | .error _ => _) progress.attempted = _
  cases environment.results (progress.transmits + 1) with
  | ok done => rfl
  | error error =>
      dsimp only
      split <;> rfl

/-! ## The whole loop -/

def TxAttempt.entry (attempt : TxAttempt) : Nat × ClientResult TxDonePayload :=
  (attempt.attempt.toNat, attempt.result)

def loggedResults (results : Nat → ClientResult TxDonePayload) (made : Nat) :
    List (Nat × ClientResult TxDonePayload) :=
  (List.range' 1 made).map fun attempt => (attempt, results attempt)

theorem loggedResults_succ (results : Nat → ClientResult TxDonePayload) (made : Nat) :
    loggedResults results (made + 1) =
      loggedResults results made ++ [(made + 1, results (made + 1))] := by
  rw [loggedResults, List.range'_1_concat, List.map_append, loggedResults, Nat.add_comm 1 made]
  rfl

/-- The loop before an attempt: `made` attempts have been made, none of which settles,
and each has been logged and waited for. -/
structure Retried (environment : RetryEnvironment) (made : Nat) (attempts : List TxAttempt)
    (progress : RetryProgress) : Prop where
  transmits : progress.transmits = made
  waits : progress.waits.length = made
  log : attempts.map TxAttempt.entry = loggedResults environment.results made
  unsettled : ∀ attempt, 1 ≤ attempt → attempt ≤ made →
    settles (environment.results attempt) = false

def WaitsFrom (policy : RetryPolicy) : UInt32 → List Backoff → Prop
  | _, [] => True
  | delayMs, wait :: later =>
      wait.delayMs = delayMs ∧ wait.jitterMs ≤ policy.spread ∧
        ∃ product, WaitsFrom policy (min product policy.backoffCapMs) later

structure Concluded (environment : RetryEnvironment) (policy : RetryPolicy)
    (value : ClientResult TxOutcome) (reached : RetryProgress) (last : Nat) : Prop where
  counted : attemptCount environment.results policy.maxAttempts.toNat = last
  allowed : last ≤ policy.maxAttempts.toNat
  transmits : reached.transmits = last
  waits : reached.waits.length + 1 = last
  earlier : ∀ attempt, 1 ≤ attempt → attempt < last →
    settles (environment.results attempt) = false
  returned : match environment.results last with
    | .ok done => ∃ log, value = .ok ⟨done.airtimeUs, log⟩ ∧
        log.map TxAttempt.entry = loggedResults environment.results last
    | .error error => value = .error error

theorem number_toNat {number : Nat} (allowed : number ≤ policy.maxAttempts.toNat) :
    (UInt8.ofNat number).toNat = number := by
  rw [UInt8.toNat_ofNat']
  exact Nat.mod_eq_of_lt (Nat.lt_of_le_of_lt allowed policy.maxAttempts.toNat_lt)

theorem number_eq_max {number : Nat} (allowed : number ≤ policy.maxAttempts.toNat) :
    (UInt8.ofNat number == policy.maxAttempts) = decide (number = policy.maxAttempts.toNat) := by
  rw [Bool.eq_iff_iff, beq_iff_eq, decide_eq_true_iff, ← UInt8.toNat_inj, number_toNat allowed]

namespace Retried

variable {made : Nat} (retried : Retried environment made attempts progress)
include retried

theorem before {attempt : Nat} (positive : 1 ≤ attempt) (earlier : attempt < made + 1) :
    settles (environment.results attempt) = false :=
  retried.unsettled attempt positive (Nat.le_of_lt_succ earlier)

theorem logged {number : UInt8} {result : ClientResult TxDonePayload} {elapsed : Duration}
    (numbered : number.toNat = made + 1) (same : environment.results (made + 1) = result) :
    (attempts ++ [TxAttempt.mk number result elapsed]).map TxAttempt.entry =
      loggedResults environment.results (made + 1) := by
  rw [List.map_append, retried.log, loggedResults_succ, same]
  simp [TxAttempt.entry, numbered]

theorem succeeds {done : TxDonePayload} (allowed : made + 1 ≤ policy.maxAttempts.toNat)
    (result : environment.results (made + 1) = .ok done) :
    Concluded environment policy
      (.ok ⟨done.airtimeUs, attempts ++
        [⟨UInt8.ofNat (made + 1), .ok done, elapsedAt environment progress⟩]⟩)
      progress.attempted (made + 1) where
  counted := by
    apply attemptCount_of_settles (Nat.le_add_left 1 made) allowed
    · rw [result]
      rfl
    · exact fun attempt => retried.before
  allowed := allowed
  transmits := congrArg Nat.succ retried.transmits
  waits := congrArg Nat.succ retried.waits
  earlier := fun attempt => retried.before
  returned := by
    rw [result]
    exact ⟨_, rfl, retried.logged (number_toNat allowed) result⟩

theorem fails {error : ClientError} (allowed : made + 1 ≤ policy.maxAttempts.toNat)
    (result : environment.results (made + 1) = .error error)
    (last : error.isRetryable = false ∨ made + 1 = policy.maxAttempts.toNat) :
    Concluded environment policy (.error error) progress.attempted (made + 1) where
  counted := by
    cases retryable : error.isRetryable with
    | false =>
        apply attemptCount_of_settles (Nat.le_add_left 1 made) allowed
        · rw [result, settles, retryable]
          rfl
        · exact fun attempt => retried.before
    | true =>
        have exhausted : made + 1 = policy.maxAttempts.toNat := by
          rcases last with settled | exhausted
          · rw [settled] at retryable
            cases retryable
          · exact exhausted
        rw [← exhausted]
        apply attemptCount_of_unsettled
        intro attempt positive within
        rcases Nat.lt_or_eq_of_le within with earlier | rfl
        · exact retried.before positive earlier
        · rw [result, settles, retryable]
          rfl
  allowed := allowed
  transmits := congrArg Nat.succ retried.transmits
  waits := congrArg Nat.succ retried.waits
  earlier := fun attempt => retried.before
  returned := by rw [result]

theorem again {error : ClientError} {wait : Backoff}
    (allowed : made + 1 ≤ policy.maxAttempts.toNat)
    (result : environment.results (made + 1) = .error error)
    (retryable : error.isRetryable = true) :
    Retried environment (made + 1)
      (attempts ++ [⟨UInt8.ofNat (made + 1), .error error.cloneKind,
        elapsedAt environment progress⟩])
      (progress.attempted.waited wait) where
  transmits := congrArg Nat.succ retried.transmits
  waits := by
    rw [RetryProgress.waited, List.length_append]
    exact congrArg Nat.succ retried.waits
  log := by
    rw [ClientError.cloneKind_of_retryable retryable]
    exact retried.logged (number_toNat allowed) result
  unsettled := by
    intro attempt positive within
    rcases Nat.lt_or_eq_of_le within with earlier | rfl
    · exact retried.before positive earlier
    · rw [result, settles, retryable]
      rfl

end Retried

/-- One attempt ends the loop there, or waits once and leaves it before the next. -/
theorem Retried.step {made : Nat} (retried : Retried environment made attempts progress)
    (allowed : made + 1 ≤ policy.maxAttempts.toNat) :
    (∃ value, (retryAttempts policy (UInt8.ofNat (made + 1) :: later) attempts delayMs).run
        (retryHandler environment policy) progress = (some value, progress.attempted) ∧
      Concluded environment policy value progress.attempted (made + 1)) ∨
    (made + 1 < policy.maxAttempts.toNat ∧ ∃ log jitterMs product,
      jitterMs ≤ policy.spread ∧
      (retryAttempts policy (UInt8.ofNat (made + 1) :: later) attempts delayMs).run
          (retryHandler environment policy) progress =
        (retryAttempts policy later log (min product policy.backoffCapMs)).run
          (retryHandler environment policy) (progress.attempted.waited ⟨delayMs, jitterMs⟩) ∧
      Retried environment (made + 1) log (progress.attempted.waited ⟨delayMs, jitterMs⟩)) := by
  rw [run_attempt, retried.transmits, number_eq_max allowed]
  cases result : environment.results (made + 1) with
  | ok done => exact .inl ⟨_, rfl, retried.succeeds allowed result⟩
  | error error =>
      dsimp only
      split
      · next last =>
        refine .inl ⟨_, rfl, retried.fails allowed result ?_⟩
        simpa using last
      · next continues =>
        simp only [Bool.or_eq_true, Bool.not_eq_true', decide_eq_true_eq, not_or,
          Bool.not_eq_false] at continues
        have bounded := (environment.samples progress.draws policy.spread).property
        refine .inr ⟨Nat.lt_of_le_of_ne allowed continues.2, _, _, _, bounded, rfl, ?_⟩
        exact retried.again allowed result continues.1

theorem Retried.concludes {made remaining : Nat}
    (retried : Retried environment made attempts progress)
    (total : made + (remaining + 1) = policy.maxAttempts.toNat) :
    ∃ value reached last waits,
      (retryAttempts policy ((List.range' (made + 1) (remaining + 1)).map UInt8.ofNat) attempts
        delayMs).run (retryHandler environment policy) progress = (some value, reached) ∧
      Concluded environment policy value reached last ∧
      reached.waits = progress.waits ++ waits ∧ WaitsFrom policy delayMs waits := by
  induction remaining generalizing made attempts delayMs progress with
  | zero =>
      have allowed : made + 1 ≤ policy.maxAttempts.toNat := by omega
      rcases retried.step allowed with ⟨value, ran, concluded⟩ | ⟨continues, _⟩
      · exact ⟨value, _, _, [], ran, concluded, (List.append_nil _).symm, trivial⟩
      · omega
  | succ remaining induction =>
      have allowed : made + 1 ≤ policy.maxAttempts.toNat := by omega
      rw [List.range'_succ, List.map_cons]
      rcases retried.step allowed with
        ⟨value, ran, concluded⟩ | ⟨_, log, jitterMs, product, bounded, ran, next⟩
      · exact ⟨value, _, _, [], ran, concluded, (List.append_nil _).symm, trivial⟩
      · rcases induction next (by omega) with
          ⟨value, reached, last, waits, rest, concluded, extended, capped⟩
        refine ⟨value, reached, last, ⟨delayMs, jitterMs⟩ :: waits, ran.trans rest, concluded,
          ?_, rfl, bounded, product, capped⟩
        rw [extended, RetryProgress.waited, List.append_assoc]
        rfl

theorem retried_start : Retried environment 0 [] .start where
  transmits := rfl
  waits := rfl
  log := rfl
  unsettled := by
    intro attempt positive none
    omega

theorem runRetry_concludes (environment : RetryEnvironment)
    (allowed : policy.maxAttempts ≠ 0) :
    ∃ value reached last, runRetry environment policy = (some value, reached) ∧
      Concluded environment policy value reached last ∧
      WaitsFrom policy policy.backoffMsMin reached.waits := by
  have positive : policy.maxAttempts.toNat ≠ 0 := by
    intro zero
    exact allowed (UInt8.toNat_inj.mp zero)
  rcases Nat.exists_eq_succ_of_ne_zero positive with ⟨remaining, total⟩
  have start : Retried environment 0 [] .start := retried_start
  have count : 0 + (remaining + 1) = policy.maxAttempts.toNat := by omega
  rcases @Retried.concludes environment policy [] policy.backoffMsMin .start 0 remaining start
      count with
    ⟨value, reached, last, waits, ran, concluded, extended, capped⟩
  refine ⟨value, reached, last, ?_, concluded, ?_⟩
  · rw [runRetry, retry, RetryPolicy.attemptNumbers, total]
    exact ran
  · rw [extended]
    exact capped

theorem runRetry_none (environment : RetryEnvironment) (none : policy.maxAttempts = 0) :
    runRetry environment policy = (some (.error exitedWithoutResult), .start) := by
  rw [runRetry, retry, RetryPolicy.attemptNumbers, none]
  rfl

/-! ## The loop on a dongle -/

theorem runRetry_returns (environment : RetryEnvironment) (policy : RetryPolicy) :
    ∃ value reached, runRetry environment policy = (some value, reached) := by
  by_cases none : policy.maxAttempts = 0
  · exact ⟨_, _, runRetry_none environment none⟩
  · rcases runRetry_concludes environment none with ⟨value, reached, _, ran, _⟩
    exact ⟨value, reached, ran⟩

theorem eq_of_spread_zero (zero : policy.spread = 0)
    (first second : { value : UInt32 // value ≤ policy.spread }) : first = second := by
  have none : policy.spread.toNat = 0 := by
    rw [zero]
    rfl
  have firstBound := UInt32.le_iff_toNat_le.mp first.property
  have secondBound := UInt32.le_iff_toNat_le.mp second.property
  apply Subtype.ext
  apply UInt32.toNat_inj.mp
  omega

section Dongle

variable (protocol : Protocol types) (dongle : Environment types) (data : List UInt8)
  (policy : RetryPolicy) (start : World types)

def retryEnvironment : RetryEnvironment where
  results attempt :=
    if data.isEmpty then .error .length
    else transmitResult protocol (dongle.reply (start.issued + (attempt - 1)))
  clock reading := dongle.clock (start.readings + reading)
  samples draw := dongle.jitter (start.samples + draw)
  products _ delayMs := (delayMs.toFloat32 * policy.backoffMultiplier).toUInt32

structure Mirrors (progress : RetryProgress) (world : World types) : Prop where
  issued : world.issued = start.issued + if data.isEmpty then 0 else progress.transmits
  readings : world.readings = start.readings + progress.readings
  samples : world.samples = start.samples + if policy.spread = 0 then 0 else progress.draws

variable {protocol dongle data policy start}

theorem Mirrors.carryOut (fits : data.length < protocol.maxPayloadField)
    (effect : RetryEffect) (progress : RetryProgress) (world : World types)
    (answer : RetryAnswer policy effect) (reached : RetryProgress)
    (mirrors : Mirrors data policy start progress world)
    (handled : retryHandler (retryEnvironment protocol dongle data policy start) policy effect
      progress = some (answer, reached)) :
    ∃ after, execute dongle (carryOut protocol data policy effect) world =
        (some answer, after) ∧
      Mirrors data policy start reached after := by
  cases effect with
  | markWrite =>
      cases handled
      exact ⟨_, rfl, mirrors.issued, congrArg Nat.succ mirrors.readings, mirrors.samples⟩
  | now =>
      cases handled
      refine ⟨world.tick, ?_, mirrors.issued, congrArg Nat.succ mirrors.readings,
        mirrors.samples⟩
      change _ = (some (dongle.clock (start.readings + progress.readings)), world.tick)
      rw [← mirrors.readings]
      rfl
  | transmit =>
      cases handled
      have issued := mirrors.issued
      have executed := execute_session_transmit dongle world protocol data policy.skipCad
        policy.perAttemptTimeout
      by_cases empty : data.isEmpty = true
      · have result : (retryEnvironment protocol dongle data policy start).results
            (progress.transmits + 1) = .error .length := if_pos empty
        rw [if_pos empty] at issued executed
        rw [← result] at executed
        refine ⟨world, executed, ?_, mirrors.readings, mirrors.samples⟩
        rw [if_pos empty]
        exact issued
      · have result : (retryEnvironment protocol dongle data policy start).results
            (progress.transmits + 1) =
              transmitResult protocol (dongle.reply (start.issued + progress.transmits)) :=
          if_neg empty
        rw [if_neg empty] at issued executed
        rw [if_neg (by omega), issued, ← result] at executed
        refine ⟨_, executed, ?_, mirrors.readings, mirrors.samples⟩
        rw [if_neg empty]
        exact congrArg Nat.succ issued
  | jitter =>
      cases handled
      have samples := mirrors.samples
      by_cases zero : policy.spread = 0
      · rw [if_pos zero] at samples
        refine ⟨world, ?_, mirrors.issued, mirrors.readings, ?_⟩
        · rw [Dongle.carryOut, if_pos zero]
          exact congrArg (fun drawn => (some drawn, world)) (eq_of_spread_zero zero _ _)
        · rw [if_pos zero]
          exact samples
      · rw [if_neg zero] at samples
        refine ⟨{ world with samples := world.samples + 1 }, ?_, mirrors.issued,
          mirrors.readings, ?_⟩
        · rw [Dongle.carryOut, if_neg zero]
          change (some (dongle.jitter world.samples policy.spread), _) =
            (some (dongle.jitter (start.samples + progress.draws) policy.spread), _)
          rw [samples]
        · rw [if_neg zero]
          exact congrArg Nat.succ samples
  | backOff delayMs jitterMs =>
      cases handled
      exact ⟨_, rfl, mirrors.issued, mirrors.readings, mirrors.samples⟩
  | product delayMs =>
      cases handled
      exact ⟨_, rfl, mirrors.issued, mirrors.readings, mirrors.samples⟩

/-- On an open dongle `tx_with_retry` returns what the loop returns for the results of
its own calls, having issued one command for each `transmit` that issues any. -/
theorem execute_txWithRetry (opened : start.inner.closed = false)
    (fits : data.length < protocol.maxPayloadField) :
    ∃ value progress reached,
      runRetry (retryEnvironment protocol dongle data policy start) policy =
        (some value, progress) ∧
      execute dongle (txWithRetry protocol data policy) start = (some value, reached) ∧
      Mirrors data policy start progress reached := by
  rcases runRetry_returns (retryEnvironment protocol dongle data policy start) policy with
    ⟨value, progress, ran⟩
  have mirrors : Mirrors data policy start .start start := by
    constructor <;> simp [RetryProgress.start]
  rcases Program.run_expand_simulates (Mirrors.carryOut fits) mirrors ran with
    ⟨reached, executed, mirrored⟩
  refine ⟨value, progress, reached, ran, ?_, mirrored⟩
  rw [txWithRetry_eq_expand, execute_bind, execute_checkOpen, opened]
  exact executed

end Dongle

/-! ## The log -/

/-- A log of `last` attempts, of which all but the last failed and could be retried. -/
structure FaithfulLog (results : Nat → ClientResult TxDonePayload) (last : Nat)
    (done : TxDonePayload) (outcome : TxOutcome) : Prop where
  length : outcome.attempts.length = last
  numbered : outcome.attempts.map (fun attempt => attempt.attempt.toNat) = List.range' 1 last
  failures : ∀ attempt, 1 ≤ attempt → attempt < last →
    ∃ error, results attempt = .error error ∧ error.isRetryable = true ∧
      outcome.attempts[attempt - 1]?.map TxAttempt.result = some (.error error)
  success : outcome.attempts[last - 1]?.map TxAttempt.result = some (.ok done)
  airtime : outcome.finalAirtimeUs = done.airtimeUs
  attemptsUsed : outcome.attemptsUsed.toNat = last
  hadRetries : outcome.hadRetries = true ↔ 1 < last

theorem loggedResults_getElem? {results : Nat → ClientResult TxDonePayload}
    {attempt made : Nat} (positive : 1 ≤ attempt) (allowed : attempt ≤ made) :
    (loggedResults results made)[attempt - 1]? = some (attempt, results attempt) := by
  rw [loggedResults, List.getElem?_map, List.getElem?_range' (by omega)]
  have position : 1 + 1 * (attempt - 1) = attempt := by omega
  rw [Option.map_some, position]

section Log

variable {results : Nat → ClientResult TxDonePayload} {made : Nat} {log : List TxAttempt}
  (same : log.map TxAttempt.entry = loggedResults results made)
include same

theorem length_of_log : log.length = made := by
  have lengths := congrArg List.length same
  rw [List.length_map, loggedResults, List.length_map, List.length_range'] at lengths
  exact lengths

theorem numbers_of_log :
    log.map (fun attempt => attempt.attempt.toNat) = List.range' 1 made := by
  have numbers := congrArg (List.map Prod.fst) same
  rw [List.map_map, loggedResults, List.map_map] at numbers
  rw [← List.map_id (List.range' 1 made)]
  exact numbers

theorem result_of_log {attempt : Nat} (positive : 1 ≤ attempt) (allowed : attempt ≤ made) :
    log[attempt - 1]?.map TxAttempt.result = some (results attempt) := by
  have entry := congrArg (fun entries => entries[attempt - 1]?) same
  simp only [List.getElem?_map, loggedResults_getElem? positive allowed] at entry
  rcases Option.map_eq_some_iff.mp entry with ⟨found, present, agrees⟩
  rw [present, Option.map_some]
  exact congrArg (fun pair => some pair.2) agrees

end Log

theorem error_of_unsettled {result : ClientResult TxDonePayload}
    (unsettled : settles result = false) :
    ∃ error, result = .error error ∧ error.isRetryable = true := by
  cases result with
  | ok done => cases unsettled
  | error error =>
      refine ⟨error, rfl, ?_⟩
      simpa [settles] using unsettled

theorem Concluded.faithful {value : ClientResult TxOutcome} {reached : RetryProgress}
    {last : Nat} {done : TxDonePayload}
    (concluded : Concluded environment policy value reached last)
    (result : environment.results last = .ok done) :
    ∃ outcome, value = .ok outcome ∧ FaithfulLog environment.results last done outcome := by
  have returned := concluded.returned
  rw [result] at returned
  rcases returned with ⟨log, rfl, same⟩
  have positive : 1 ≤ last := by
    rw [← concluded.waits]
    omega
  have length := length_of_log same
  refine ⟨_, rfl, ?_⟩
  constructor
  · exact length
  · exact numbers_of_log same
  · intro attempt attemptPositive earlier
    rcases error_of_unsettled (concluded.earlier attempt attemptPositive earlier) with
      ⟨error, failed, retryable⟩
    refine ⟨error, failed, retryable, ?_⟩
    rw [result_of_log same attemptPositive (Nat.le_of_lt earlier), failed]
  · rw [result_of_log same positive (Nat.le_refl last), result]
  · rfl
  · rw [TxOutcome.attemptsUsed, length]
    exact number_toNat concluded.allowed
  · rw [TxOutcome.hadRetries, length, decide_eq_true_iff]

theorem txWithRetry_logs_attempts (protocol : Protocol types) (data : List UInt8)
    (policy : RetryPolicy) (environment : RetryEnvironment) :
    txWithRetry protocol data policy = (do
      match ← checkOpen with
      | .error error => return .error error
      | .ok () => (retry policy).expand (carryOut protocol data policy)) ∧
    ∃ value reached n, runRetry environment policy = (some value, reached) ∧
      n = attemptCount environment.results policy.maxAttempts.toNat ∧
      reached.transmits = n ∧ reached.waits.length = n - 1 ∧
      (∀ done, 1 ≤ n → environment.results n = .ok done →
        ∃ outcome, value = .ok outcome ∧ FaithfulLog environment.results n done outcome) ∧
      (∀ error, 1 ≤ n → environment.results n = .error error → value = .error error) ∧
      ((value = .error exitedWithoutResult ∧ reached.transmits = 0) ↔
        policy.maxAttempts = 0) := by
  refine ⟨txWithRetry_eq_expand protocol data policy, ?_⟩
  by_cases none : policy.maxAttempts = 0
  · refine ⟨_, _, 0, runRetry_none environment none, ?_, rfl, rfl, ?_, ?_, ?_⟩
    · rw [none]
      rfl
    · intro done positive
      omega
    · intro error positive
      omega
    · exact ⟨fun _ => none, fun _ => ⟨rfl, rfl⟩⟩
  · rcases runRetry_concludes environment none with ⟨value, reached, last, ran, concluded, _⟩
    have counted := concluded.waits
    refine ⟨value, reached, last, ran, concluded.counted.symm, concluded.transmits, by omega,
      ?_, ?_, ?_⟩
    · intro done _ result
      exact concluded.faithful result
    · intro error _ result
      have returned := concluded.returned
      rw [result] at returned
      exact returned
    · constructor
      · rintro ⟨_, nothing⟩
        rw [concluded.transmits] at nothing
        omega
      · intro zero
        exact absurd zero none

def busyUntil (success : Nat) : RetryEnvironment where
  results attempt := if attempt < success then .error .channelBusy else .ok ⟨.transmitted, 4242⟩
  clock reading := reading
  samples _ _ := ⟨0, UInt32.zero_le⟩
  products _ delayMs := delayMs

theorem txWithRetry_logs_attempts_busy :
    ∃ outcome, (runRetry (busyUntil 2) .default).1 = some (.ok outcome) ∧
      outcome.attemptsUsed = 2 ∧
      FaithfulLog (busyUntil 2).results 2 ⟨.transmitted, 4242⟩ outcome := by
  rcases (txWithRetry_logs_attempts Protocol.sample [7] .default (busyUntil 2)).2 with
    ⟨value, reached, n, ran, counted, _, _, succeeds, _⟩
  have two : n = 2 := counted.trans rfl
  subst two
  rcases succeeds ⟨.transmitted, 4242⟩ (by decide) rfl with ⟨outcome, rfl, faithful⟩
  refine ⟨outcome, by rw [ran], ?_, faithful⟩
  exact UInt8.toNat_inj.mp faithful.attemptsUsed

/-! ## The ceiling of the backoff -/

def Backoff.totalMs (wait : Backoff) : UInt64 :=
  wait.delayMs.toUInt64 + wait.jitterMs.toUInt64

/-- A wait whose floor keeps to the ceiling and whose sum is exact and within the
spread of the floor. -/
structure Backoff.Bounded (policy : RetryPolicy) (wait : Backoff) : Prop where
  ceiling : wait.delayMs ≤ policy.backoffCapMs
  exact : wait.totalMs.toNat = wait.delayMs.toNat + wait.jitterMs.toNat
  floor : wait.delayMs.toNat ≤ wait.totalMs.toNat
  spread : wait.totalMs.toNat ≤ wait.delayMs.toNat + policy.spread.toNat

theorem Backoff.totalMs_toNat (wait : Backoff) :
    wait.totalMs.toNat = wait.delayMs.toNat + wait.jitterMs.toNat := by
  have delayBound := wait.delayMs.toNat_lt
  have jitterBound := wait.jitterMs.toNat_lt
  rw [totalMs, UInt64.toNat_add, UInt32.toNat_toUInt64, UInt32.toNat_toUInt64]
  omega

theorem Backoff.bounded {wait : Backoff} (ceiling : wait.delayMs ≤ policy.backoffCapMs)
    (jitter : wait.jitterMs ≤ policy.spread) : wait.Bounded policy where
  ceiling := ceiling
  exact := wait.totalMs_toNat
  floor := by
    rw [wait.totalMs_toNat]
    omega
  spread := by
    have sampled : wait.jitterMs.toNat ≤ policy.spread.toNat := UInt32.le_iff_toNat_le.mp jitter
    rw [wait.totalMs_toNat]
    omega

theorem min_le_cap (product cap : UInt32) : min product cap ≤ cap := by
  change (if product ≤ cap then product else cap) ≤ cap
  split
  · next below => exact below
  · exact UInt32.le_refl cap

/-- Every floor but the first has been cut to the ceiling. -/
theorem WaitsFrom.bounded {waits : List Backoff} (follows : WaitsFrom policy delayMs waits)
    (start : delayMs ≤ policy.backoffCapMs) : ∀ wait ∈ waits, wait.Bounded policy := by
  induction waits generalizing delayMs with
  | nil =>
      intro wait member
      cases member
  | cons first later induction =>
      rcases follows with ⟨rfl, jitter, product, rest⟩
      intro wait member
      rcases List.mem_cons.mp member with rfl | member
      · exact Backoff.bounded start jitter
      · exact induction rest (min_le_cap product _) wait member

theorem attemptCount_busy (policy : RetryPolicy) :
    attemptCount (busyUntil 256).results policy.maxAttempts.toNat =
      policy.maxAttempts.toNat := by
  apply attemptCount_of_unsettled
  intro attempt _ allowed
  have small : attempt < 256 := Nat.lt_of_le_of_lt allowed policy.maxAttempts.toNat_lt
  simp [busyUntil, small, settles, ClientError.isRetryable]

theorem first_wait_uncut (policy : RetryPolicy) (retries : 1 < policy.maxAttempts) :
    ∃ wait ∈ (runRetry (busyUntil 256) policy).2.waits, wait.delayMs = policy.backoffMsMin := by
  have several : 1 < policy.maxAttempts.toNat := UInt8.lt_iff_toNat_lt.mp retries
  have allowed : policy.maxAttempts ≠ 0 := by
    intro zero
    rw [zero] at several
    exact absurd several (by decide)
  rcases runRetry_concludes (busyUntil 256) allowed with
    ⟨value, reached, last, ran, concluded, follows⟩
  have counted := concluded.counted
  have waited := concluded.waits
  rw [attemptCount_busy] at counted
  rw [ran]
  cases found : reached.waits with
  | nil =>
      rw [found, List.length_nil] at waited
      omega
  | cons wait later =>
      rw [found] at follows
      exact ⟨wait, List.mem_cons_self, follows.1⟩

/-- The ceiling holds from the second wait on; the first one is at `backoff_ms_min`. -/
theorem backoff_bounded_iff (policy : RetryPolicy) :
    (∀ environment, ∀ wait ∈ (runRetry environment policy).2.waits, wait.Bounded policy) ↔
      policy.backoffMsMin ≤ policy.backoffCapMs ∨ policy.maxAttempts ≤ 1 := by
  constructor
  · intro bounded
    rcases UInt8.le_or_lt policy.maxAttempts 1 with single | retries
    · exact .inr single
    · rcases first_wait_uncut policy retries with ⟨wait, member, uncut⟩
      rw [← uncut]
      exact .inl (bounded _ wait member).ceiling
  · intro condition environment wait member
    by_cases none : policy.maxAttempts = 0
    · rw [runRetry_none environment none] at member
      cases member
    · rcases runRetry_concludes environment none with
        ⟨value, reached, last, ran, concluded, follows⟩
      rw [ran] at member
      rcases condition with capped | single
      · exact follows.bounded capped wait member
      · have atMost := UInt8.le_iff_toNat_le.mp single
        have counted := concluded.waits
        have allowed := concluded.allowed
        have empty : reached.waits = [] := by
          rw [← List.length_eq_zero_iff]
          change _ ≤ 1 at atMost
          omega
        rw [empty] at member
        cases member

def highStart : RetryPolicy :=
  { RetryPolicy.default with maxAttempts := 2, backoffMsMin := 1000, backoffMsMax := 1000 }

theorem highStart_exceeds_cap :
    ¬ ∀ policy environment, ∀ wait ∈ (runRetry environment policy).2.waits,
      wait.Bounded policy := by
  intro bounded
  have waits : (runRetry (busyUntil 2) highStart).2.waits = [⟨1000, 0⟩] := rfl
  have ceiling := (bounded highStart (busyUntil 2) ⟨1000, 0⟩
    (by rw [waits]; exact List.mem_singleton_self _)).ceiling
  exact absurd ceiling (by decide)

end DongloraClient.Dongle
