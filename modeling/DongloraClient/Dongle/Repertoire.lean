import DongloraClient.Dongle.Concurrent

/-! # What the calls perform at all

Whatever its effects are answered, an operation issues only the commands that the helpers
of the session make; a packet is waited for by `recv` and `next_rx` alone, and a panic
takes a payload that does not fit its buffer.
-/

namespace DongloraClient.Dongle

open Foundation Session

variable {types : WireTypes} (protocol : Protocol types)

/-- A command as the helpers of the session issue it. -/
def Sensible (request : Request) : Prop :=
  request.typeId = protocol.typePing ∨ request.typeId = protocol.typeRxStart ∨
    request.typeId = protocol.typeRxStop ∨ request.typeId = protocol.typeTx ∨
    (request.typeId = protocol.typeSetConfig ∧
      ∃ config, protocol.encodeSetConfig config = .ok request.payload)

def Call.oversize : Call types → Prop
  | .txWithTimeout data _ _ => protocol.maxPayloadField ≤ data.length
  | .txWithRetry data _ => protocol.maxPayloadField ≤ data.length
  | _ => False

def Call.mayPerform (call : Call types) : Effect types → Prop
  | .sendCommand request _ => Sensible protocol request
  | .recvRx _ => ∃ timeout, call = .recv timeout
  | .nextRx => call = .nextRx
  | .panic => call.oversize protocol
  | _ => True

variable {protocol} {call : Call types} {First Second : Type}

abbrev Confined (protocol : Protocol types) (call : Call types)
    (operation : Operation types First) : Prop :=
  operation.Performs (call.mayPerform protocol)

/-! ## Helpers -/

theorem confined_done (value : First) : Confined protocol call (.done value) := trivial

theorem confined_effect {effect : Effect types} (may : call.mayPerform protocol effect) :
    Confined protocol call (.perform effect .done : Operation types _) :=
  Program.performs_effect may

theorem Confined.bind {operation : Operation types First} {next : First → Operation types Second}
    (first : Confined protocol call operation)
    (second : ∀ value, Confined protocol call (next value)) :
    Confined protocol call (operation >>= next) :=
  Program.Performs.bind first second

theorem confined_read (cell : Cell) : Confined protocol call (read cell : Operation types _) :=
  (confined_effect (by trivial)).bind fun _ => (confined_effect (by trivial)).bind fun _ =>
    (confined_effect (by trivial)).bind fun _ => confined_done _

theorem confined_write (cell : Cell) (value : cell.Value types) :
    Confined protocol call (write cell value) :=
  (confined_effect (by trivial)).bind fun _ => (confined_effect (by trivial)).bind fun _ =>
    confined_effect (by trivial)

theorem confined_ifOpen {next : ClientResult Unit → Operation types First}
    (refuses : ∀ error, ∃ value, next (.error error) = .done value)
    (goesOn : Confined protocol call (next (.ok ()))) :
    Confined protocol call (checkOpen >>= next) := by
  have checks : Confined protocol call (checkOpen : Operation types (ClientResult Unit)) := by
    apply (confined_read .closed).bind
    intro closed
    cases closed <;> exact confined_done _
  apply checks.bind
  intro result
  cases result with
  | error error =>
      rcases refuses error with ⟨value, refused⟩
      rw [refused]
      exact confined_done value
  | ok => exact goesOn

theorem confined_markWrite : Confined protocol call (markWrite : Operation types Unit) :=
  (confined_effect (by trivial)).bind fun _ => confined_write .lastWriteAt _

theorem confined_command {typeId : UInt8} {payload : List UInt8} {timeout : Duration}
    (sensible : Sensible protocol ⟨typeId, payload⟩)
    (finish : ClientResult (SessionResponse types) → First) :
    Confined protocol call
      (sendCommand typeId payload timeout >>= fun response => .done (finish response)) :=
  Confined.bind (confined_effect sensible) fun _ => confined_done _

theorem confined_session_ping (timeout : Duration) :
    Confined protocol call (Session.ping protocol timeout) :=
  confined_command (.inl rfl) _

theorem confined_session_rxStart (timeout : Duration) :
    Confined protocol call (Session.rxStart protocol timeout) :=
  confined_command (.inr (.inl rfl)) _

theorem confined_session_setConfig (config : Modulation types) (timeout : Duration) :
    Confined protocol call (Session.setConfig protocol config timeout) := by
  rw [Session.setConfig]
  split
  · exact confined_done _
  · next payload encoded =>
    exact confined_command (.inr (.inr (.inr (.inr ⟨rfl, config, encoded⟩)))) _

theorem confined_session_transmit {data : List UInt8}
    (fits : data.length < protocol.maxPayloadField ∨ call.oversize protocol) (skipCad : Bool)
    (timeout : Duration) :
    Confined protocol call (Session.transmit protocol data skipCad timeout) := by
  rw [Session.transmit]
  split
  · exact confined_done _
  · split
    · next oversize =>
      refine ⟨?_, fun impossible => impossible.elim⟩
      exact fits.resolve_left (by omega)
    · exact confined_command (.inr (.inr (.inr (.inl rfl)))) _

theorem confined_jitterMs (policy : RetryPolicy) :
    Confined protocol call (policy.jitterMs : Operation types UInt32) := by
  rw [RetryPolicy.jitterMs]
  split
  · exact confined_done _
  · exact ⟨by trivial, fun _ => confined_done _⟩

/-! ## Operations -/

theorem confined_reapplyConfig : Confined protocol call (reapplyConfig protocol) := by
  apply (confined_read .appliedConfig).bind
  intro cached
  cases cached with
  | none => exact confined_done _
  | some config =>
      apply (confined_session_setConfig config (fromSecs 2)).bind
      intro result
      cases result with
      | error error => exact confined_done _
      | ok result => exact (confined_write .appliedConfig _).bind fun _ => confined_done _

theorem confined_txWithTimeout {data : List UInt8}
    (fits : data.length < protocol.maxPayloadField ∨ call.oversize protocol) (skipCad : Bool)
    (timeout : Duration) :
    Confined protocol call (txWithTimeout protocol data skipCad timeout) := by
  refine confined_ifOpen (fun _ => ⟨_, rfl⟩) ?_
  apply confined_markWrite.bind
  intro _
  apply (confined_session_transmit fits skipCad timeout).bind
  intro result
  split
  · apply confined_reapplyConfig.bind
    intro recovered
    cases recovered with
    | error error => exact confined_done _
    | ok _ => exact confined_session_transmit fits skipCad timeout
  · exact confined_done _

theorem confined_txAttempts {data : List UInt8}
    (fits : data.length < protocol.maxPayloadField ∨ call.oversize protocol)
    (policy : RetryPolicy) (numbers : List UInt8) (attempts : List TxAttempt)
    (delayMs : UInt32) :
    Confined protocol call (txAttempts protocol data policy numbers attempts delayMs) := by
  induction numbers generalizing attempts delayMs with
  | nil => exact confined_done _
  | cons attemptNum later induction =>
      apply confined_markWrite.bind
      intro _
      apply Confined.bind (confined_effect (by trivial))
      intro started
      apply (confined_session_transmit fits _ _).bind
      intro result
      apply Confined.bind (confined_effect (by trivial))
      intro ended
      cases result with
      | ok done => exact confined_done _
      | error error =>
          change Confined protocol call (if _ then _ else _)
          split
          · exact confined_done _
          · apply (confined_jitterMs policy).bind
            intro jitter
            apply Confined.bind (confined_effect (by trivial))
            intro _
            exact induction _ _

theorem confined_txWithRetry {data : List UInt8}
    (fits : data.length < protocol.maxPayloadField ∨ call.oversize protocol)
    (policy : RetryPolicy) : Confined protocol call (txWithRetry protocol data policy) :=
  confined_ifOpen (fun _ => ⟨_, rfl⟩) (confined_txAttempts fits policy _ _ _)

theorem confined_rxStart : Confined protocol call (rxStart protocol) := by
  refine confined_ifOpen (fun _ => ⟨_, rfl⟩) ?_
  apply confined_markWrite.bind
  intro _
  apply Confined.bind (confined_effect (by trivial))
  intro _
  apply Confined.bind (confined_effect (by trivial))
  intro started
  have releases : ∀ result : ClientResult Unit, Confined protocol call
      (release .rxStarted >>= fun _ => .done result) :=
    fun _ => Confined.bind (confined_effect (by trivial)) fun _ => confined_done _
  cases started with
  | true => exact releases _
  | false =>
      apply (confined_session_rxStart (fromSecs 2)).bind
      intro result
      split
      · apply Confined.bind (confined_effect (by trivial))
        intro _
        apply confined_reapplyConfig.bind
        intro recovered
        cases recovered with
        | error error => exact confined_done _
        | ok _ =>
            apply (confined_session_rxStart (fromSecs 2)).bind
            intro restarted
            cases restarted with
            | error error => exact confined_done _
            | ok _ => exact (confined_write .rxStarted _).bind fun _ => confined_done _
      · exact releases _
      · exact Confined.bind (confined_effect (by trivial)) fun _ => releases _

theorem confined_rxStop : Confined protocol call (rxStop protocol) := by
  refine confined_ifOpen (fun _ => ⟨_, rfl⟩) ?_
  apply confined_markWrite.bind
  intro _
  apply Confined.bind (confined_command (.inr (.inr (.inl rfl))) _)
  intro result
  cases result with
  | error error => exact confined_done _
  | ok _ => exact (confined_write .rxStarted _).bind fun _ => confined_done _

theorem confined_receive {wait : Operation types (Option types.RxPayload)}
    (waits : Confined protocol call wait) :
    Confined protocol call (do if ← ensureReceiving protocol then wait else return none) := by
  have ensures : Confined protocol call (ensureReceiving protocol) := by
    refine confined_ifOpen (fun _ => ⟨_, rfl⟩) ?_
    apply (confined_read .rxStarted).bind
    intro started
    cases started with
    | true => exact confined_done _
    | false =>
        apply confined_rxStart.bind
        intro result
        cases result <;> exact confined_done _
  apply ensures.bind
  intro receiving
  cases receiving with
  | true => exact waits
  | false => exact confined_done _

theorem confined_setConfig (modulation : Modulation types) :
    Confined protocol call (setConfig protocol modulation) := by
  refine confined_ifOpen (fun _ => ⟨_, rfl⟩) ?_
  apply confined_markWrite.bind
  intro _
  apply (confined_session_setConfig modulation (fromSecs 2)).bind
  intro result
  cases result with
  | error error => exact confined_done _
  | ok result =>
      exact (confined_write .appliedConfig _).bind fun _ =>
        (confined_write .rxStarted _).bind fun _ => confined_done _

theorem confined_ping : Confined protocol call (ping protocol) :=
  confined_ifOpen (fun _ => ⟨_, rfl⟩)
    (confined_markWrite.bind fun _ => confined_session_ping (fromSecs 2))

theorem confined_close : Confined protocol call (close : Operation types Unit) := by
  apply Confined.bind (confined_effect (by trivial))
  intro _
  apply Confined.bind (confined_effect (by trivial))
  intro closed
  cases closed with
  | true => exact confined_effect (by trivial)
  | false =>
      exact Confined.bind (confined_effect (by trivial)) fun _ =>
        Confined.bind (confined_effect (by trivial)) fun _ =>
        Confined.bind (confined_effect (by trivial)) fun _ => confined_effect (by trivial)

theorem confined_keepaliveTick : Confined protocol call (keepaliveTick protocol) := by
  apply Confined.bind (confined_effect (by trivial))
  intro _
  apply (confined_read .closed).bind
  intro closed
  cases closed with
  | true => exact confined_done _
  | false =>
      apply (confined_read .lastWriteAt).bind
      intro last
      apply Confined.bind (confined_effect (by trivial))
      intro instant
      change Confined protocol call (if _ then _ else _)
      split
      · exact confined_done _
      · apply (confined_session_ping (fromSecs 2)).bind
        intro result
        split
        · exact confined_markWrite.bind fun _ => confined_done _
        · apply (confined_read .appliedConfig).bind
          intro cached
          cases cached with
          | none => exact confined_done _
          | some config =>
              apply (confined_session_setConfig config (fromSecs 2)).bind
              intro result
              cases result with
              | error error => exact confined_done _
              | ok _ => exact confined_markWrite.bind fun _ => confined_done _
        · exact confined_done _

theorem confined_operationOf (call : Call types) :
    Confined protocol call (operationOf protocol call) := by
  have fits : ∀ data : List UInt8, data.length < protocol.maxPayloadField ∨
      protocol.maxPayloadField ≤ data.length := fun data => Nat.lt_or_ge _ _
  cases call with
  | txWithTimeout data skipCad timeout =>
      exact (confined_txWithTimeout (fits data) skipCad timeout).bind fun _ => confined_done _
  | txWithRetry data policy =>
      exact (confined_txWithRetry (fits data) policy).bind fun _ => confined_done _
  | rxStart => exact confined_rxStart.bind fun _ => confined_done _
  | rxStop => exact confined_rxStop.bind fun _ => confined_done _
  | recv timeout =>
      have waits : Confined protocol (.recv timeout) (recvRx timeout : Operation types _) :=
        confined_effect ⟨timeout, rfl⟩
      exact (confined_receive waits).bind fun _ => confined_done _
  | nextRx =>
      have waits : Confined protocol .nextRx (nextRxEvent : Operation types _) :=
        confined_effect rfl
      exact (confined_receive waits).bind fun _ => confined_done _
  | setConfig modulation => exact (confined_setConfig modulation).bind fun _ => confined_done _
  | ping => exact confined_ping.bind fun _ => confined_done _
  | drainAsyncErrors =>
      have drains : Confined protocol .drainAsyncErrors (drainAsyncErrors : Operation types _) :=
        confined_effect trivial
      exact drains.bind fun _ => confined_done _
  | config => exact (confined_read .appliedConfig).bind fun _ => confined_done _
  | close => exact confined_close.bind fun _ => confined_done _
  | keepaliveTick => exact confined_keepaliveTick.bind fun _ => confined_done _

end DongloraClient.Dongle
