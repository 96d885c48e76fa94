import DongloraClient.Dongle.Concurrent
import DongloraClient.Dongle.ReceiveMode

/-! # What a call does for the cached receive mode

Followed on its own, as long as no command of it is answered `NotConfigured`: a call
sends `RX_START` only with the lock of `rx_started` held and sets the flag only
where, under that same lock, one was accepted; having had an `RX_STOP` or a
`SET_CONFIG` accepted, it clears the flag before it returns. Calls that are not
about the mode send none of the three and leave the flag alone.
-/

namespace DongloraClient.Dongle

open Foundation Session

variable {types : WireTypes} (protocol : Protocol types)

/-! ## Progress -/

def Unconfigured (result : ClientResult (SessionResponse types)) : Prop :=
  result = .error .notConfigured ∨ result = .ok (.err .notConfigured)

def Call.changesMode : Call types → Bool
  | .rxStart => true
  | .rxStop => true
  | .recv _ => true
  | .nextRx => true
  | .setConfig _ => true
  | _ => false

/-- `locked`: the call holds the lock of `rx_started`; `ready`: an `RX_START` was
accepted since it acquired the lock; `owes`: an `RX_STOP` or a `SET_CONFIG` was
accepted, and the flag is still to be cleared. -/
structure Progress where
  modal : Bool
  locked : Bool
  ready : Bool
  owes : Bool

def Progress.start (call : Call types) : Progress := ⟨call.changesMode, false, false, false⟩

def Progress.accept (progress : Progress) : Option ModeCommand → Progress
  | some .rxStart => { progress with ready := true }
  | some _ => { progress with owes := true }
  | none => progress

def Progress.after (progress : Progress) :
    (effect : Effect types) → Answer effect → Progress
  | .acquire .rxStarted, _ => { progress with locked := true, ready := false }
  | .release .rxStarted, _ => { progress with locked := false, ready := false }
  | .store .rxStarted false, _ => { progress with owes := false, ready := false }
  | .sendCommand request _, result =>
      progress.accept (Command.acceptedMode protocol ⟨request, result⟩)
  | _, _ => progress

def Progress.Permits (progress : Progress) : Effect types → Prop
  | .acquire .rxStarted => progress.locked = false
  | .release .rxStarted => progress.locked = true
  | .store .rxStarted true => progress.locked = true ∧ progress.ready = true
  | .store .rxStarted false => progress.locked = true
  | .sendCommand request _ =>
      (request.typeId = protocol.typeRxStart → progress.locked = true) ∧
        (request.typeId = protocol.typeRxStart ∨ request.typeId = protocol.typeRxStop ∨
          request.typeId = protocol.typeSetConfig → progress.modal = true)
  | _ => True

def Configured : (effect : Effect types) → Answer effect → Prop
  | .sendCommand _ _, result => ¬ Unconfigured result
  | _, _ => True

def Proceeds (progress : Progress) (effect : Effect types) (answer : Answer effect)
    (reached : Progress) : Prop :=
  Configured effect answer ∧ reached = progress.after protocol effect answer

def Follows {Result : Type} (returns : Progress → Result → Prop) (progress : Progress)
    (operation : Operation types Result) : Prop :=
  operation.Satisfies (Proceeds protocol) (Progress.Permits protocol) returns progress

def PaidUp {Result : Type} (progress : Progress) (_value : Result) : Prop :=
  progress.owes = false ∧ progress.locked = false

/-! ## Rules -/

section Rules

variable {protocol} {First Second : Type} {progress : Progress}
  {returns : Progress → Second → Prop}

theorem Follows.bind {between : Progress → First → Prop} {operation : Operation types First}
    {next : First → Operation types Second} (first : Follows protocol between progress operation)
    (second : ∀ reached value, between reached value →
      Follows protocol returns reached (next value)) :
    Follows protocol returns progress (operation >>= next) :=
  Program.Satisfies.bind first second

theorem follows_then {effect : Effect types} {next : Answer effect → Operation types Second}
    (permitted : progress.Permits protocol effect)
    (continues : ∀ answer, Configured effect answer →
      Follows protocol returns (progress.after protocol effect answer) (next answer)) :
    Follows protocol returns progress (.perform effect next) := by
  refine ⟨permitted, ?_⟩
  intro answer reached proceeds
  rw [proceeds.2]
  exact continues answer proceeds.1

def Effect.isAside : Effect types → Bool
  | .acquire .rxStarted => false
  | .release .rxStarted => false
  | .store .rxStarted _ => false
  | .sendCommand _ _ => false
  | _ => true

def Aside {Result : Type} : Operation types Result → Prop
  | .done _ => True
  | .perform effect next => Effect.isAside effect = true ∧ ∀ answer, Aside (next answer)

theorem Aside.bind {operation : Operation types First} {next : First → Operation types Second}
    (first : Aside operation) (second : ∀ value, Aside (next value)) :
    Aside (operation >>= next) := by
  induction operation with
  | done value => exact second value
  | perform effect rest induction =>
      exact ⟨first.1, fun answer => induction answer (first.2 answer)⟩

theorem aside_effect {effect : Effect types} (aside : Effect.isAside effect = true) :
    Aside (.perform effect .done) :=
  ⟨aside, fun _ => trivial⟩

theorem permits_of_aside {effect : Effect types} (aside : Effect.isAside effect = true) :
    progress.Permits protocol effect := by
  cases effect with
  | acquire cell | release cell | store cell value =>
      cases cell with
      | rxStarted => cases aside
      | _ => trivial
  | sendCommand => cases aside
  | _ => trivial

theorem after_of_aside {effect : Effect types} {answer : Answer effect}
    (aside : Effect.isAside effect = true) : progress.after protocol effect answer = progress := by
  cases effect with
  | acquire cell | release cell | store cell value =>
      cases cell with
      | rxStarted => cases aside
      | _ => rfl
  | sendCommand => cases aside
  | _ => rfl

theorem follows_after {operation : Operation types First}
    {next : First → Operation types Second} (aside : Aside operation)
    (continues : ∀ value, Follows protocol returns progress (next value)) :
    Follows protocol returns progress (operation >>= next) := by
  induction operation with
  | done value => exact continues value
  | perform effect rest induction =>
      refine follows_then (permits_of_aside aside.1) ?_
      intro answer _
      rw [after_of_aside aside.1]
      exact induction answer (aside.2 answer)

theorem aside_read {cell : Cell} (other : cell ≠ .rxStarted) :
    Aside (read cell : Operation types _) := by
  cases cell with
  | rxStarted => exact absurd rfl other
  | _ =>
      exact (aside_effect rfl).bind fun _ => (aside_effect rfl).bind fun _ =>
        (aside_effect rfl).bind fun _ => trivial

theorem aside_write {cell : Cell} (other : cell ≠ .rxStarted) (value : cell.Value types) :
    Aside (write cell value) := by
  cases cell with
  | rxStarted => exact absurd rfl other
  | _ =>
      exact (aside_effect rfl).bind fun _ => (aside_effect rfl).bind fun _ => aside_effect rfl

theorem aside_markWrite : Aside (markWrite : Operation types Unit) :=
  (aside_effect rfl).bind fun _ => aside_write (by simp) _

theorem aside_checkOpen : Aside (checkOpen : Operation types (ClientResult Unit)) := by
  apply Aside.bind (aside_read (by simp))
  intro closed
  cases closed <;> trivial

theorem aside_jitterMs (policy : RetryPolicy) :
    Aside (policy.jitterMs : Operation types UInt32) := by
  rw [RetryPolicy.jitterMs]
  split
  · trivial
  · exact ⟨rfl, fun _ => trivial⟩

theorem follows_ifOpen {next : ClientResult Unit → Operation types Second}
    (refuses : ∀ error, ∃ value, next (.error error) = .done value ∧ returns progress value)
    (goesOn : Follows protocol returns progress (next (.ok ()))) :
    Follows protocol returns progress (checkOpen >>= next) := by
  apply follows_after aside_checkOpen
  intro result
  cases result with
  | error error =>
      rcases refuses error with ⟨value, refused, returning⟩
      rw [refused]
      exact returning
  | ok => exact goesOn

/-! ## Commands -/

theorem follows_sendCommand {typeId : UInt8} {payload : List UInt8} {timeout : Duration}
    (permitted : progress.Permits protocol (.sendCommand ⟨typeId, payload⟩ timeout)) :
    Follows protocol (fun reached result => ¬ Unconfigured result ∧
        reached = progress.accept (Command.acceptedMode protocol ⟨⟨typeId, payload⟩, result⟩))
      progress (sendCommand typeId payload timeout) :=
  follows_then permitted fun _ configured => ⟨configured, rfl⟩

theorem emptyResult_configured {name : String} {result : ClientResult (SessionResponse types)}
    (configured : ¬ Unconfigured result) :
    emptyResult protocol name result ≠ .error .notConfigured := by
  intro failed
  apply configured
  unfold emptyResult at failed
  split at failed
  · cases failed
    exact .inl rfl
  · cases failed
  · cases failed
    exact .inr rfl
  · cases failed

theorem setConfigResult_configured {result : ClientResult (SessionResponse types)}
    (configured : ¬ Unconfigured result) :
    setConfigResult protocol result ≠ .error .notConfigured := by
  intro failed
  apply configured
  unfold setConfigResult at failed
  split at failed
  · cases failed
    exact .inl rfl
  · cases failed
  · cases failed
    exact .inr rfl
  · cases failed

theorem transmitResult_configured {result : ClientResult (SessionResponse types)}
    (configured : ¬ Unconfigured result) :
    transmitResult protocol result ≠ .error .notConfigured := by
  intro failed
  apply configured
  rcases transmitResult_eq_error failed with same | same | ⟨_, _, ⟨_, same⟩ | ⟨_, same⟩⟩ | ⟨_, same⟩
  · exact .inl same
  · exact .inr same
  · cases same
  · cases same
  · cases same

/-- The progress when `result` came back from a command that, accepted, leads to
`accepted`. -/
def Progress.advance {Value : Type} (progress accepted : Progress) (result : ClientResult Value) :
    Progress :=
  match result with
  | .ok _ => accepted
  | .error _ => progress

def Leaves {Value : Type} (progress reached : Progress) (result : ClientResult Value) : Prop :=
  result ≠ .error .notConfigured ∧ reached = progress

def Takes {Value : Type} (progress accepted reached : Progress) (result : ClientResult Value) :
    Prop :=
  result ≠ .error .notConfigured ∧ reached = progress.advance accepted result

theorem follows_session_ping (timeout : Duration) :
    Follows protocol (Leaves progress) progress (Session.ping protocol timeout) := by
  rcases @typeIds_ne _ protocol with ⟨notRxStart, notRxStop, notSetConfig, _⟩
  apply Follows.bind (follows_sendCommand _)
  · intro reached result sent
    refine ⟨emptyResult_configured sent.1, ?_⟩
    rw [sent.2]
    simp [Command.acceptedMode, notRxStart, notRxStop, notSetConfig, Progress.accept]
  · simp [Progress.Permits, notRxStart, notRxStop, notSetConfig]

theorem follows_session_transmit (data : List UInt8) (skipCad : Bool) (timeout : Duration) :
    Follows protocol (Leaves progress) progress
      (Session.transmit protocol data skipCad timeout) := by
  rcases @typeIds_ne _ protocol with ⟨_, _, _, notRxStart, notRxStop, notSetConfig, _⟩
  rw [Session.transmit]
  split
  · exact ⟨by simp, rfl⟩
  · split
    · refine ⟨trivial, ?_⟩
      intro impossible
      cases impossible
    · apply Follows.bind (follows_sendCommand _)
      · intro reached result sent
        refine ⟨transmitResult_configured sent.1, ?_⟩
        rw [sent.2]
        simp [Command.acceptedMode, notRxStart, notRxStop, notSetConfig, Progress.accept]
      · simp [Progress.Permits, notRxStart, notRxStop, notSetConfig]

theorem follows_session_rxStart (timeout : Duration) (modal : progress.modal = true)
    (locked : progress.locked = true) :
    Follows protocol (Takes progress { progress with ready := true }) progress
      (Session.rxStart protocol timeout) := by
  apply Follows.bind (follows_sendCommand _)
  · intro reached result sent
    refine ⟨emptyResult_configured sent.1, ?_⟩
    rw [sent.2, Command.acceptedMode, if_pos rfl]
    cases emptyResult protocol "RX_START" result <;> rfl
  · exact ⟨fun _ => locked, fun _ => modal⟩

theorem follows_session_rxStop (timeout : Duration) (modal : progress.modal = true) :
    Follows protocol (Takes progress { progress with owes := true }) progress
      (Session.rxStop protocol timeout) := by
  rcases @typeIds_ne _ protocol with ⟨_, _, _, _, _, _, notRxStart, _⟩
  apply Follows.bind (follows_sendCommand _)
  · intro reached result sent
    refine ⟨emptyResult_configured sent.1, ?_⟩
    rw [sent.2, Command.acceptedMode, if_neg notRxStart, if_pos rfl]
    cases emptyResult protocol "RX_STOP" result <;> rfl
  · exact ⟨fun same => absurd same notRxStart, fun _ => modal⟩

theorem follows_session_setConfig (config : Modulation types) (timeout : Duration)
    (modal : progress.modal = true) :
    Follows protocol (Takes progress { progress with owes := true }) progress
      (Session.setConfig protocol config timeout) := by
  rcases @typeIds_ne _ protocol with ⟨_, _, _, _, _, _, _, notRxStart, notRxStop⟩
  rw [Session.setConfig]
  split
  · exact ⟨by simp, rfl⟩
  · apply Follows.bind (follows_sendCommand _)
    · intro reached result sent
      refine ⟨setConfigResult_configured sent.1, ?_⟩
      rw [sent.2, Command.acceptedMode, if_neg notRxStart, if_neg notRxStop, if_pos rfl]
      cases setConfigResult protocol result <;> rfl
    · exact ⟨fun same => absurd same notRxStart, fun _ => modal⟩

end Rules

/-! ## Operations -/

section Operations

variable {protocol} {progress : Progress}

structure Progress.Free (progress : Progress) : Prop where
  unlocked : progress.locked = false
  unready : progress.ready = false
  paid : progress.owes = false

theorem Progress.Free.paidUp (free : progress.Free) :
    progress.owes = false ∧ progress.locked = false :=
  ⟨free.paid, free.unlocked⟩

/-- The flag is cleared under its lock. -/
theorem follows_clear {Second : Type} {next : Unit → Operation types Second}
    {returns : Progress → Second → Prop} (unlocked : progress.locked = false)
    (continues : Follows protocol returns
      { progress with locked := false, ready := false, owes := false } (next ())) :
    Follows protocol returns progress (write .rxStarted false >>= next) := by
  refine follows_then unlocked fun _ _ => ?_
  refine follows_then rfl fun _ _ => ?_
  exact follows_then rfl fun _ _ => continues

theorem follows_txWithTimeout (free : progress.Free) (data : List UInt8) (skipCad : Bool)
    (timeout : Duration) :
    Follows protocol PaidUp progress (txWithTimeout protocol data skipCad timeout) := by
  refine follows_ifOpen (fun _ => ⟨_, rfl, free.paidUp⟩) ?_
  apply follows_after aside_markWrite
  intro
  apply Follows.bind (follows_session_transmit data skipCad timeout)
  intro reached result leaves
  rcases leaves with ⟨configured, rfl⟩
  split
  · exact absurd rfl configured
  · exact free.paidUp

theorem follows_txAttempts (free : progress.Free) (data : List UInt8) (policy : RetryPolicy)
    (numbers : List UInt8) (attempts : List TxAttempt) (delayMs : UInt32) :
    Follows protocol PaidUp progress
      (txAttempts protocol data policy numbers attempts delayMs) := by
  induction numbers generalizing attempts delayMs with
  | nil => exact free.paidUp
  | cons attemptNum later induction =>
      apply follows_after aside_markWrite
      intro
      apply follows_after (aside_effect rfl)
      intro started
      apply Follows.bind (follows_session_transmit data _ _)
      intro reached result leaves
      rcases leaves with ⟨_, rfl⟩
      apply follows_after (aside_effect rfl)
      intro ended
      cases result with
      | ok done => exact free.paidUp
      | error error =>
          change Follows protocol PaidUp _ (if _ then _ else _)
          split
          · exact free.paidUp
          · apply follows_after (aside_jitterMs policy)
            intro jitter
            apply follows_after (aside_effect rfl)
            intro
            exact induction _ _

theorem follows_rxStart (free : progress.Free) (modal : progress.modal = true) :
    Follows protocol (fun reached _ => reached.Free ∧ reached.modal = true) progress
      (rxStart protocol) := by
  have stillFree : Progress.Free ⟨progress.modal, false, false, progress.owes⟩ :=
    ⟨rfl, rfl, free.paid⟩
  refine follows_ifOpen (fun _ => ⟨_, rfl, free, modal⟩) ?_
  apply follows_after aside_markWrite
  intro
  refine follows_then free.unlocked fun _ _ => ?_
  refine follows_then trivial fun started _ => ?_
  cases started with
  | true => exact follows_then rfl fun _ _ => ⟨stillFree, modal⟩
  | false =>
      have starting := @follows_session_rxStart _ protocol
        ⟨progress.modal, true, false, progress.owes⟩ (fromSecs 2) modal rfl
      apply Program.Satisfies.bind starting
      intro reached result takes
      rcases takes with ⟨configured, rfl⟩
      split
      · exact absurd rfl configured
      · exact follows_then rfl fun _ _ => ⟨stillFree, modal⟩
      · refine follows_then ⟨rfl, rfl⟩ fun _ _ => ?_
        exact follows_then rfl fun _ _ => ⟨stillFree, modal⟩

theorem follows_rxStop (free : progress.Free) (modal : progress.modal = true) :
    Follows protocol PaidUp progress (rxStop protocol) := by
  refine follows_ifOpen (fun _ => ⟨_, rfl, free.paidUp⟩) ?_
  apply follows_after aside_markWrite
  intro
  apply Follows.bind (follows_session_rxStop (fromSecs 2) modal)
  intro reached result takes
  rcases takes with ⟨_, rfl⟩
  cases result with
  | error => exact free.paidUp
  | ok => exact follows_clear free.unlocked ⟨rfl, rfl⟩

theorem follows_setConfig (free : progress.Free) (modal : progress.modal = true)
    (modulation : Modulation types) :
    Follows protocol PaidUp progress (setConfig protocol modulation) := by
  refine follows_ifOpen (fun _ => ⟨_, rfl, free.paidUp⟩) ?_
  apply follows_after aside_markWrite
  intro
  apply Follows.bind (follows_session_setConfig modulation (fromSecs 2) modal)
  intro reached result takes
  rcases takes with ⟨_, rfl⟩
  cases result with
  | error => exact free.paidUp
  | ok result =>
      apply follows_after (aside_write (by simp) _)
      intro
      exact follows_clear free.unlocked ⟨rfl, rfl⟩

theorem follows_ensureReceiving (free : progress.Free) (modal : progress.modal = true) :
    Follows protocol PaidUp progress (ensureReceiving protocol) := by
  refine follows_ifOpen (fun _ => ⟨_, rfl, free.paidUp⟩) ?_
  refine follows_then free.unlocked fun _ _ => ?_
  refine follows_then trivial fun started _ => ?_
  refine follows_then rfl fun _ _ => ?_
  cases started with
  | true => exact ⟨free.paid, rfl⟩
  | false =>
      have stillFree : Progress.Free ⟨progress.modal, false, false, progress.owes⟩ :=
        ⟨rfl, rfl, free.paid⟩
      apply Follows.bind (follows_rxStart stillFree modal)
      intro reached result after
      cases result <;> exact after.1.paidUp

theorem follows_keepaliveTick (free : progress.Free) :
    Follows protocol PaidUp progress (keepaliveTick protocol) := by
  apply follows_after (aside_effect rfl)
  intro
  apply follows_after (aside_read (by simp))
  intro closed
  cases closed with
  | true => exact free.paidUp
  | false =>
      apply follows_after (aside_read (by simp))
      intro last
      apply follows_after (aside_effect rfl)
      intro instant
      change Follows protocol PaidUp progress (if _ then _ else _)
      split
      · exact free.paidUp
      · apply Follows.bind (follows_session_ping (fromSecs 2))
        intro reached result leaves
        rcases leaves with ⟨configured, rfl⟩
        split
        · apply follows_after aside_markWrite
          intro
          exact free.paidUp
        · exact absurd rfl configured
        · exact free.paidUp

theorem aside_close : Aside (close : Operation types Unit) := by
  refine (aside_effect rfl).bind fun _ => (aside_effect rfl).bind fun closed => ?_
  cases closed with
  | true => exact aside_effect rfl
  | false =>
      exact (aside_effect rfl).bind fun _ => (aside_effect rfl).bind fun _ =>
        (aside_effect rfl).bind fun _ => aside_effect rfl

theorem follows_receive (free : progress.Free) (modal : progress.modal = true)
    {wait : Operation types (Option types.RxPayload)}
    (waits : ∀ reached : Progress, PaidUp reached () → Follows protocol PaidUp reached wait) :
    Follows protocol PaidUp progress (do
      if ← ensureReceiving protocol then wait else return none) := by
  apply Follows.bind (follows_ensureReceiving free modal)
  intro reached receiving paid
  cases receiving with
  | true => exact waits reached paid
  | false => exact paid

variable (protocol) in
theorem follows_operationOf (call : Call types) :
    Follows protocol PaidUp (Progress.start call) (operationOf protocol call) := by
  have free : (Progress.start call).Free := ⟨rfl, rfl, rfl⟩
  cases call with
  | txWithTimeout data skipCad timeout =>
      exact (follows_txWithTimeout free data skipCad timeout).bind fun _ _ paid => paid
  | txWithRetry data policy =>
      refine Follows.bind (follows_ifOpen (fun _ => ⟨_, rfl, free.paidUp⟩)
        (follows_txAttempts free data policy _ _ _)) ?_
      intro reached result paid
      exact paid
  | rxStart => exact (follows_rxStart free rfl).bind fun _ _ after => after.1.paidUp
  | rxStop => exact (follows_rxStop free rfl).bind fun _ _ paid => paid
  | recv timeout =>
      refine Follows.bind (follows_receive free rfl ?_) fun _ _ paid => paid
      intro reached paid
      exact follows_then trivial fun _ _ => paid
  | nextRx =>
      refine Follows.bind (follows_receive free rfl ?_) fun _ _ paid => paid
      intro reached paid
      exact follows_then trivial fun _ _ => paid
  | setConfig modulation =>
      exact (follows_setConfig free rfl modulation).bind fun _ _ paid => paid
  | ping =>
      refine Follows.bind (follows_ifOpen (fun _ => ⟨_, rfl, free.paidUp⟩) ?_)
        fun _ _ paid => paid
      apply follows_after aside_markWrite
      intro
      apply Program.Satisfies.weaken (follows_session_ping (fromSecs 2))
      intro reached result leaves
      rcases leaves with ⟨_, rfl⟩
      exact free.paidUp
  | drainAsyncErrors =>
      exact follows_after (aside_effect rfl) fun _ => free.paidUp
  | config => exact follows_after (aside_read (by simp)) fun _ => free.paidUp
  | close => exact follows_after aside_close fun _ => free.paidUp
  | keepaliveTick => exact (follows_keepaliveTick free).bind fun _ _ paid => paid

end Operations

end DongloraClient.Dongle
