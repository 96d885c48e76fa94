import DongloraClient.Foundation.Program
import DongloraClient.Session.Machine

/-! # Effects of the client's operations

An access to one of the cells of `Inner` is a lock acquisition, the access and a
release; a command is one effect, answered by whatever `send_command` returned.
Durations and instants are in nanoseconds.
-/

namespace DongloraClient

open Foundation Session

abbrev Duration := Nat
abbrev Instant := Nat

def fromSecs (seconds : Nat) : Duration := seconds * 1000000000
def fromMillis (millis : Nat) : Duration := millis * 1000000

inductive Cell
  | appliedConfig
  | rxStarted
  | lastWriteAt
  | closed
  deriving DecidableEq, Repr

@[reducible] def Cell.Value (types : WireTypes) : Cell → Type
  | .appliedConfig => Option (Modulation types)
  | .rxStarted => Bool
  | .lastWriteAt => Instant
  | .closed => Bool

inductive Effect (types : WireTypes)
  | acquire (cell : Cell)
  | release (cell : Cell)
  | load (cell : Cell)
  | store (cell : Cell) (value : cell.Value types)
  | now
  | sleep (duration : Duration)
  | random (upTo : UInt32)
  | sendCommand (request : Request) (timeout : Duration)
  | recvRx (timeout : Duration)
  | nextRx
  | drainAsyncErrors
  | abortKeepalive
  | closeSession
  | panic

/-- A panic is never answered. -/
def Answer {types : WireTypes} : Effect types → Type
  | .load cell => cell.Value types
  | .now => Instant
  | .random upTo => { value : UInt32 // value ≤ upTo }
  | .sendCommand _ _ => ClientResult (SessionResponse types)
  | .recvRx _ => Option types.RxPayload
  | .nextRx => Option types.RxPayload
  | .drainAsyncErrors => List ClientError
  | .panic => Empty
  | _ => Unit

abbrev Operation (types : WireTypes) := Program (Effect types) Answer

variable {types : WireTypes}

/-! ## Primitive operations -/

def acquire (cell : Cell) : Operation types Unit := .perform (.acquire cell) .done
def release (cell : Cell) : Operation types Unit := .perform (.release cell) .done
def load (cell : Cell) : Operation types (cell.Value types) := .perform (.load cell) .done
def loadRxStarted : Operation types Bool := load .rxStarted
def loadClosed : Operation types Bool := load .closed
def store (cell : Cell) (value : cell.Value types) : Operation types Unit :=
  .perform (.store cell value) .done
def now : Operation types Instant := .perform .now .done
def sleep (duration : Duration) : Operation types Unit := .perform (.sleep duration) .done
def recvRx (timeout : Duration) : Operation types (Option types.RxPayload) :=
  .perform (.recvRx timeout) .done
def nextRxEvent : Operation types (Option types.RxPayload) := .perform .nextRx .done
def abortKeepalive : Operation types Unit := .perform .abortKeepalive .done
def closeSession : Operation types Unit := .perform .closeSession .done

def read (cell : Cell) : Operation types (cell.Value types) := do
  acquire cell
  let value ← load cell
  release cell
  return value

def readAppliedConfig : Operation types (Option (Modulation types)) := read .appliedConfig
def readRxStarted : Operation types Bool := read .rxStarted
def readLastWriteAt : Operation types Instant := read .lastWriteAt
def readClosed : Operation types Bool := read .closed

def write (cell : Cell) (value : cell.Value types) : Operation types Unit := do
  acquire cell
  store cell value
  release cell

def panic {Result : Type} : Operation types Result :=
  .perform .panic fun impossible => nomatch impossible

def sendCommand (typeId : UInt8) (payload : List UInt8) (timeout : Duration) :
    Operation types (ClientResult (SessionResponse types)) :=
  .perform (.sendCommand ⟨typeId, payload⟩ timeout) .done

end DongloraClient
