import Mathlib.Data.List.AList
import DongloraClient.Errors

/-! # Dispatching inbound frames

The reader's `dispatch` and the data it works on: the map of outstanding
commands, the two event queues and the completion channels. Everything here is
sequential; the interleaving with other tasks is added by the session machine.
-/

namespace DongloraClient.Session

/-- Names one `send_command` call, and with it the oneshot channel on which that
call waits. -/
abbrev CallId := Nat

inductive SessionResponse (types : WireTypes)
  | empty
  | info (info : Info)
  | setConfig (result : SetConfigResult types)
  | txDone (payload : TxDonePayload)
  | err (error : ClientError)

/-- An outstanding command. The `waker` is the sending half of the channel of
the call it names. -/
structure Pending where
  cmdType : UInt8
  waker : CallId
  deriving DecidableEq, Repr

abbrev PendingMap := AList fun _ : UInt16 => Pending

structure Frame where
  typeId : UInt8
  tag : UInt16
  payload : List UInt8
  deriving DecidableEq, Repr

inductive FrameWork
  | ok (frame : Frame)
  | frame
  deriving DecidableEq, Repr

def FrameWork.ofResult : FrameResult → FrameWork
  | .ok typeId tag payload => .ok ⟨typeId, tag, payload⟩
  | .err => .frame

structure EventQueues (types : WireTypes) where
  rx : List types.RxPayload
  asyncErrors : List ClientError

namespace EventQueues

variable {types : WireTypes}

def sendRx (queues : EventQueues types) (payload : types.RxPayload) :
    EventQueues types :=
  { queues with rx := queues.rx ++ [payload] }

def sendAsyncError (queues : EventQueues types) (error : ClientError) :
    EventQueues types :=
  { queues with asyncErrors := queues.asyncErrors ++ [error] }

end EventQueues

def hexDigit (digit : Nat) : Char :=
  "0123456789ABCDEF".toList.getD digit '?'

def hexByte (byte : UInt8) : String :=
  String.ofList [hexDigit (byte.toNat / 16), hexDigit (byte.toNat % 16)]

variable {types : WireTypes} (protocol : Protocol types)

def dispatchAsync (typeId : UInt8) (payload : List UInt8)
    (queues : EventQueues types) : EventQueues types :=
  if typeId = protocol.typeRx then
    match protocol.decodeRx payload with
    | some rx => queues.sendRx rx
    | none => queues.sendAsyncError (.badFrame "bad RX payload")
  else if typeId = protocol.typeErr then
    match protocol.decodeErrPayload payload with
    | some code => queues.sendAsyncError (.fromWire code)
    | none => queues.sendAsyncError (.badFrame "bad async ERR payload")
  else
    queues

/-- The intermediate `OK` of a two-phase `TX`, which leaves the slot in place. -/
def absorbs (cmdType typeId : UInt8) : Bool :=
  cmdType == protocol.typeTx && typeId == protocol.typeOk

def resolve (cmdType typeId : UInt8) (payload : List UInt8) :
    SessionResponse types :=
  if typeId = protocol.typeOk then
    match protocol.parseFor cmdType payload with
    | some .empty => .empty
    | some (.info info) => .info info
    | some (.setConfig result) => .setConfig result
    | none => .err (.badFrame "OK payload did not parse for command context")
  else if typeId = protocol.typeErr then
    match protocol.decodeErrPayload payload with
    | some code => .err (.fromWire code)
    | none => .err (.badFrame "bad ERR payload")
  else if typeId = protocol.typeTxDone then
    match protocol.decodeTxDone payload with
    | some done => .txDone done
    | none => .err (.badFrame "bad TX_DONE payload")
  else
    .err (.badFrame ("unexpected tagged frame type 0x" ++ hexByte typeId))

structure Completion (types : WireTypes) where
  tag : UInt16
  waker : CallId
  response : SessionResponse types

/-- Everything the reader's dispatching changes. `completions` lists what was
sent on completion channels, oldest first. -/
structure Inbound (types : WireTypes) where
  pending : PendingMap
  queues : EventQueues types
  completions : List (Completion types)

/-- `dispatch`, run without any other task touching the map in between. -/
def dispatch (frame : Frame) (inbound : Inbound types) : Inbound types :=
  if frame.tag = 0 then
    { inbound with queues := dispatchAsync protocol frame.typeId frame.payload inbound.queues }
  else
    match inbound.pending.lookup frame.tag with
    | none => inbound
    | some slot =>
        let removed := inbound.pending.erase frame.tag
        if absorbs protocol slot.cmdType frame.typeId then
          { inbound with pending := removed.insert frame.tag slot }
        else
          { inbound with
            pending := removed
            completions := inbound.completions ++
              [⟨frame.tag, slot.waker, resolve protocol slot.cmdType frame.typeId frame.payload⟩] }

def dispatchWork (work : FrameWork) (inbound : Inbound types) : Inbound types :=
  match work with
  | .ok frame => dispatch protocol frame inbound
  | .frame =>
      { inbound with
        queues := inbound.queues.sendAsyncError (.badFrame "inbound frame failed CRC or COBS") }

def dispatchAll (works : List FrameWork) (inbound : Inbound types) : Inbound types :=
  works.foldl (fun current work => dispatchWork protocol work current) inbound

/-! ## What a response says about the frame it came from -/

theorem fromWire_ne_badFrame (code : ErrorCode) (reason : String) :
    ClientError.fromWire code ≠ .badFrame reason := by
  cases code <;> simp [ClientError.fromWire]

theorem resolve_eq_err {cmdType typeId : UInt8} {payload : List UInt8}
    {error : ClientError}
    (resolved : resolve protocol cmdType typeId payload = .err error) :
    (∃ reason, error = .badFrame reason) ∨
      ∃ code, error = .fromWire code ∧ typeId = protocol.typeErr ∧
        protocol.decodeErrPayload payload = some code := by
  rw [resolve] at resolved
  split at resolved
  · split at resolved
    · cases resolved
    · cases resolved
    · cases resolved
    · injection resolved with equal
      exact .inl ⟨_, equal.symm⟩
  · split at resolved
    · next isErr =>
      split at resolved
      · next code decoded =>
        injection resolved with equal
        exact .inr ⟨code, equal.symm, isErr, decoded⟩
      · injection resolved with equal
        exact .inl ⟨_, equal.symm⟩
    · split at resolved
      · split at resolved
        · cases resolved
        · injection resolved with equal
          exact .inl ⟨_, equal.symm⟩
      · injection resolved with equal
        exact .inl ⟨_, equal.symm⟩

/-- A waiter sees a wire error only when an `ERR` frame carried its code. -/
theorem resolve_eq_fromWire {cmdType typeId : UInt8} {payload : List UInt8}
    {code : ErrorCode}
    (resolved : resolve protocol cmdType typeId payload = .err (.fromWire code)) :
    typeId = protocol.typeErr ∧ protocol.decodeErrPayload payload = some code := by
  rcases resolve_eq_err protocol resolved with ⟨reason, malformed⟩ | ⟨other, same, isErr, decoded⟩
  · exact absurd malformed (fromWire_ne_badFrame code reason)
  · rw [ClientError.fromWire_injective same]
    exact ⟨isErr, decoded⟩

theorem resolve_eq_txDone {cmdType typeId : UInt8} {payload : List UInt8}
    {done : TxDonePayload}
    (resolved : resolve protocol cmdType typeId payload = .txDone done) :
    typeId = protocol.typeTxDone ∧ protocol.decodeTxDone payload = some done := by
  rw [resolve] at resolved
  split at resolved
  · split at resolved <;> cases resolved
  · split at resolved
    · split at resolved <;> cases resolved
    · split at resolved
      · next isTxDone =>
        split at resolved
        · next found decoded =>
          injection resolved with equal
          exact ⟨isTxDone, equal ▸ decoded⟩
        · cases resolved
      · cases resolved

end DongloraClient.Session
