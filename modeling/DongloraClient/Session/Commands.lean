import DongloraClient.Effects

/-! # Typed command helpers

Each sends one command and turns the response into the result its caller expects.
What becomes of a response is a function of its own, so that it can be inverted
without the effect around it.
-/

namespace DongloraClient.Session

variable {types : WireTypes} (protocol : Protocol types)

/-- The `{:?}` text of a response. An `Err` is matched before the text is made. -/
def debugResponse : SessionResponse types → String
  | .empty => "Empty"
  | .info info => "Info(" ++ protocol.debugInfo info ++ ")"
  | .setConfig result => "SetConfig(" ++ protocol.debugSetConfig result ++ ")"
  | .txDone payload => "TxDone(" ++ protocol.debugTxDone payload ++ ")"
  | .err _ => "Err"

def unexpected {Value : Type} (command : String) (response : SessionResponse types) :
    ClientResult Value :=
  .error (.other ("unexpected " ++ command ++ " response: " ++
    debugResponse protocol response))

def emptyResult (command : String) :
    ClientResult (SessionResponse types) → ClientResult Unit
  | .error error => .error error
  | .ok .empty => .ok ()
  | .ok (.err error) => .error error
  | .ok other => unexpected protocol command other

def infoResult : ClientResult (SessionResponse types) → ClientResult Info
  | .error error => .error error
  | .ok (.info info) => .ok info
  | .ok (.err error) => .error error
  | .ok other => unexpected protocol "GET_INFO" other

def setConfigResult :
    ClientResult (SessionResponse types) → ClientResult (SetConfigResult types)
  | .error error => .error error
  | .ok (.setConfig result) => .ok result
  | .ok (.err error) => .error error
  | .ok other => unexpected protocol "SET_CONFIG" other

def transmitResult :
    ClientResult (SessionResponse types) → ClientResult TxDonePayload
  | .error error => .error error
  | .ok (.txDone done) =>
      match done.result with
      | .transmitted => .ok done
      | .channelBusy => .error .channelBusy
      | .cancelled => .error .cancelled
  | .ok (.err error) => .error error
  | .ok other => unexpected protocol "TX" other

def ping (timeout : Duration) : Operation types (ClientResult Unit) := do
  return emptyResult protocol "PING" (← sendCommand protocol.typePing [] timeout)

def getInfo (timeout : Duration) : Operation types (ClientResult Info) := do
  return infoResult protocol (← sendCommand protocol.typeGetInfo [] timeout)

def setConfig (modulation : Modulation types) (timeout : Duration) :
    Operation types (ClientResult (SetConfigResult types)) :=
  match protocol.encodeSetConfig modulation with
  | .error reason => return .error (.encodeFailed reason)
  | .ok payload => do
      return setConfigResult protocol
        (← sendCommand protocol.typeSetConfig payload timeout)

def rxStart (timeout : Duration) : Operation types (ClientResult Unit) := do
  return emptyResult protocol "RX_START" (← sendCommand protocol.typeRxStart [] timeout)

def rxStop (timeout : Duration) : Operation types (ClientResult Unit) := do
  return emptyResult protocol "RX_STOP" (← sendCommand protocol.typeRxStop [] timeout)

/-- The payload is assembled in a buffer of `MAX_PAYLOAD_FIELD` bytes, and slicing
that buffer panics when the flags byte and `data` do not fit. -/
def transmit (data : List UInt8) (skipCad : Bool) (timeout : Duration) :
    Operation types (ClientResult TxDonePayload) :=
  if data.isEmpty then
    return .error .length
  else if protocol.maxPayloadField < 1 + data.length then
    panic
  else do
    return transmitResult protocol
      (← sendCommand protocol.typeTx (protocol.txFlagsAsByte skipCad :: data) timeout)

/-! ## What a result of `transmit` says about the response -/

variable {protocol}

theorem transmitResult_eq_ok {result : ClientResult (SessionResponse types)}
    {done : TxDonePayload} (transmitted : transmitResult protocol result = .ok done) :
    result = .ok (.txDone done) ∧ done.result = .transmitted := by
  unfold transmitResult at transmitted
  split at transmitted
  · cases transmitted
  · next reported =>
    split at transmitted
    · next outcome =>
      cases transmitted
      exact ⟨rfl, outcome⟩
    · cases transmitted
    · cases transmitted
  · cases transmitted
  · cases transmitted

theorem transmitResult_eq_error {result : ClientResult (SessionResponse types)}
    {error : ClientError} (failed : transmitResult protocol result = .error error) :
    result = .error error ∨ result = .ok (.err error) ∨
      (∃ done, result = .ok (.txDone done) ∧
        (done.result = .channelBusy ∧ error = .channelBusy ∨
          done.result = .cancelled ∧ error = .cancelled)) ∨
      ∃ text, error = .other text := by
  unfold transmitResult at failed
  split at failed
  · cases failed
    exact .inl rfl
  · next done =>
    split at failed
    · cases failed
    · next outcome =>
      cases failed
      exact .inr (.inr (.inl ⟨done, rfl, .inl ⟨outcome, rfl⟩⟩))
    · next outcome =>
      cases failed
      exact .inr (.inr (.inl ⟨done, rfl, .inr ⟨outcome, rfl⟩⟩))
  · cases failed
    exact .inr (.inl rfl)
  · cases failed
    exact .inr (.inr (.inr ⟨_, rfl⟩))

/-! ## The sizes `transmit` can handle -/

def IssuesOnce {Result : Type} (request : Request) : Operation types Result → Prop
  | .perform (.sendCommand issued _) next =>
      issued = request ∧ ∀ response, ∃ result, next response = .done result
  | _ => False

/-- The operation returns an error before it has any effect: no command is begun,
so no tag is allocated, no slot registered and no byte written. -/
def FailsUnsent {Value : Type} : Operation types (ClientResult Value) → Prop
  | .done (.error _) => True
  | _ => False

variable (protocol)

def TransmitsOrFails (data : List UInt8) (skipCad : Bool) (timeout : Duration) : Prop :=
  IssuesOnce ⟨protocol.typeTx, protocol.txFlagsAsByte skipCad :: data⟩
      (transmit protocol data skipCad timeout) ∨
    FailsUnsent (transmit protocol data skipCad timeout)

theorem transmit_oversize {data : List UInt8} (oversize : protocol.maxPayloadField ≤ data.length)
    (skipCad : Bool) (timeout : Duration) :
    transmit protocol data skipCad timeout = panic := by
  have positive := protocol.maxPayloadField_pos
  have nonempty : data.isEmpty = false := by
    cases data with
    | nil => exact absurd oversize (Nat.not_le_of_lt positive)
    | cons byte bytes => rfl
  rw [transmit, nonempty, if_neg (by simp), if_pos (by omega)]

theorem transmit_fitting {data : List UInt8} (nonempty : data.isEmpty = false)
    (fits : data.length < protocol.maxPayloadField) (skipCad : Bool) (timeout : Duration) :
    transmit protocol data skipCad timeout =
      .perform (.sendCommand ⟨protocol.typeTx, protocol.txFlagsAsByte skipCad :: data⟩ timeout)
        fun response => .done (transmitResult protocol response) := by
  rw [transmit, nonempty, if_neg (by simp), if_neg (by omega)]
  rfl

theorem issues_transmit_iff (data : List UInt8) (skipCad : Bool) (timeout : Duration) :
    IssuesOnce ⟨protocol.typeTx, protocol.txFlagsAsByte skipCad :: data⟩
        (transmit protocol data skipCad timeout) ↔
      data ≠ [] ∧ data.length < protocol.maxPayloadField := by
  constructor
  · intro issues
    constructor
    · rintro rfl
      exact issues
    · by_contra oversize
      rw [transmit_oversize protocol (Nat.le_of_not_lt oversize)] at issues
      exact issues
  · rintro ⟨nonempty, fits⟩
    rw [transmit_fitting protocol (by simpa using nonempty) fits]
    exact ⟨rfl, fun response => ⟨transmitResult protocol response, rfl⟩⟩

/-- The buffer holds the flags byte and one byte less than its size of data. An empty
payload is the one that fails with nothing sent. -/
theorem transmit_total_iff (data : List UInt8) (skipCad : Bool) (timeout : Duration) :
    (TransmitsOrFails protocol data skipCad timeout ↔
      data.length < protocol.maxPayloadField) ∧
    (IssuesOnce ⟨protocol.typeTx, protocol.txFlagsAsByte skipCad :: data⟩
        (transmit protocol data skipCad timeout) ↔
      data ≠ [] ∧ data.length < protocol.maxPayloadField) ∧
    transmit protocol [] skipCad timeout = .done (.error .length) := by
  have issuesIff := issues_transmit_iff protocol data skipCad timeout
  refine ⟨⟨?_, ?_⟩, issuesIff, rfl⟩
  · rintro (issues | fails)
    · exact (issuesIff.mp issues).2
    · by_contra oversize
      rw [transmit_oversize protocol (Nat.le_of_not_lt oversize)] at fails
      exact fails
  · intro fits
    by_cases empty : data = []
    · rw [empty]
      exact .inr trivial
    · exact .inl (issuesIff.mpr ⟨empty, fits⟩)

/-- A payload as long as the field itself leaves no room for the flags byte. -/
theorem transmit_of_full_field_panics :
    transmit Protocol.sample (List.replicate 275 0) false (fromSecs 10) = panic ∧
      ¬ TransmitsOrFails Protocol.sample (List.replicate 275 0) false (fromSecs 10) := by
  have oversize : Protocol.sample.maxPayloadField ≤ (List.replicate 275 (0 : UInt8)).length := by
    rw [List.length_replicate]
    exact Nat.le_refl 275
  refine ⟨transmit_oversize Protocol.sample oversize false (fromSecs 10), ?_⟩
  rw [TransmitsOrFails, transmit_oversize Protocol.sample oversize false (fromSecs 10)]
  intro transmits
  rcases transmits with issues | fails
  · exact issues
  · exact fails

end DongloraClient.Session
