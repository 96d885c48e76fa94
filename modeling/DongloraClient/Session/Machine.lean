import DongloraClient.Foundation.Machine
import DongloraClient.Session.Dispatch

/-! # The session as an interleaving machine

Any number of `send_command` calls, the reader task and `close` share the
pending map, the closed flag and the tag counter. One action is one atomic step
of one task: an access to the closed flag, a tag allocation, or one acquisition
of the pending lock together with what follows it up to the next await point.
Timeouts, write results and inbound frames are chosen by the action, so a run is
one interleaving under one behaviour of the device and the transport.
-/

namespace DongloraClient.Session

open Foundation

/-! ## Shared data -/

inductive Oneshot (Value : Type)
  | empty
  | filled (value : Value)
  | senderDropped

namespace Oneshot

def send {Value : Type} (value : Value) : Oneshot Value → Oneshot Value
  | .empty => .filled value
  | channel => channel

def dropSender {Value : Type} : Oneshot Value → Oneshot Value
  | .empty => .senderDropped
  | channel => channel

end Oneshot

structure Request where
  typeId : UInt8
  payload : List UInt8
  deriving DecidableEq, Repr

/-- How far a `send_command` call has come. A returned call remembers the tag it
had, if it got that far. -/
inductive Phase (types : WireTypes)
  | idle
  | opened (request : Request)
  | tagged (request : Request) (tag : UInt16)
  | writing (request : Request) (tag : UInt16)
  | waiting (request : Request) (tag : UInt16)
  | cleaning (request : Request) (tag : UInt16) (error : ClientError)
  | returned (request : Request) (tag : Option UInt16)
      (result : ClientResult (SessionResponse types))

/-- Where the reader task stands. In `reinserting` it has taken the slot of a
`TX` out of the map and is about to lock the map again to put it back. -/
inductive ReaderPhase
  | checking
  | reading
  | dispatching (works : List FrameWork)
  | reinserting (tag : UInt16) (slot : Pending) (works : List FrameWork)
  | leaving
  | exited
  | stopped
  deriving DecidableEq, Repr

inductive ClosePhase
  | idle
  | stored
  | drained
  | done
  deriving DecidableEq, Repr

inductive Source
  | frame (serial : Nat)
  | drain
  deriving DecidableEq, Repr

/-- The history that the correlation properties speak about. Each dispatched
frame has a serial number and is recorded with the slot it found. -/
inductive Event (types : WireTypes)
  | registered (call : CallId) (tag : UInt16) (cmdType : UInt8)
  | dispatched (serial : Nat) (frame : Frame) (slot : Option Pending)
  | delivered (call : CallId) (response : SessionResponse types) (source : Source)

/-- The whole state; `serial` counts the dispatched frames and `history` is kept
newest first. -/
structure State (types : WireTypes) where
  nextTag : UInt16
  pending : PendingMap
  closed : Bool
  queues : EventQueues types
  calls : CallId → Phase types
  channels : CallId → Oneshot (SessionResponse types)
  reader : ReaderPhase
  aborted : Bool
  closer : ClosePhase
  serial : Nat
  history : List (Event types)

inductive Action
  | begin (call : CallId) (request : Request)
  | allocTag (call : CallId)
  | register (call : CallId)
  | write (call : CallId) (failure : Option String)
  | receive (call : CallId)
  | senderGone (call : CallId)
  | timeout (call : CallId)
  | cleanup (call : CallId)
  | readerCheck
  | readerRead (works : List FrameWork)
  | readerLeave
  | readerDispatch
  | readerReinsert
  | readerDrain
  | readerStop
  | closeStore
  | closeDrain
  | closeAbort
  deriving DecidableEq, Repr

/-! ## Atomic operations -/

/-- `alloc_tag`'s update of the counter: a wrapping increment that skips 0. -/
def advanceTag (tag : UInt16) : UInt16 :=
  if tag + 1 = 0 then 1 else tag + 1

variable {types : WireTypes} (protocol : Protocol types)

def describeCmd (typeId : UInt8) : String :=
  if typeId = protocol.typePing then "PING"
  else if typeId = protocol.typeGetInfo then "GET_INFO"
  else if typeId = protocol.typeSetConfig then "SET_CONFIG"
  else if typeId = protocol.typeTx then "TX"
  else if typeId = protocol.typeRxStart then "RX_START"
  else if typeId = protocol.typeRxStop then "RX_STOP"
  else "command"

namespace State

def setPhase (state : State types) (call : CallId) (phase : Phase types) : State types :=
  { state with calls := Function.update state.calls call phase }

/-- Drop the waker of a slot that is thrown away without an answer. -/
def dropWaker (state : State types) (slot : Option Pending) : State types :=
  match slot with
  | none => state
  | some slot =>
      { state with
        channels := Function.update state.channels slot.waker
          (state.channels slot.waker).dropSender }

def insertSlot (state : State types) (tag : UInt16) (slot : Pending) : State types :=
  { state.dropWaker (state.pending.lookup tag) with
    pending := state.pending.insert tag slot }

def removeSlot (state : State types) (tag : UInt16) : State types :=
  { state.dropWaker (state.pending.lookup tag) with
    pending := state.pending.erase tag }

def deliver (state : State types) (call : CallId) (response : SessionResponse types)
    (source : Source) : State types :=
  { state with
    channels := Function.update state.channels call ((state.channels call).send response)
    history := .delivered call response source :: state.history }

def drain (state : State types) (reason : String) : State types :=
  { state with
    pending := ∅
    channels := fun call =>
      if state.pending.entries.any fun entry => entry.2.waker == call then
        (state.channels call).send (.err (.transportClosed reason))
      else state.channels call
    history := (state.pending.entries.map fun entry =>
      .delivered entry.2.waker (.err (.transportClosed reason)) .drain) ++ state.history }

def record (state : State types) (event : Event types) : State types :=
  { state with history := event :: state.history }

def recordFrame (state : State types) (frame : Frame) (slot : Option Pending) :
    State types :=
  { state with
    serial := state.serial + 1
    history := .dispatched state.serial frame slot :: state.history }

end State

/-- The places where an aborted reader can stop: before its first poll, the read,
and every acquisition of the pending lock. -/
def ReaderPhase.atAwait : ReaderPhase → Bool
  | .checking => true
  | .reading => true
  | .dispatching (.ok frame :: _) => frame.tag != 0
  | .reinserting _ _ _ => true
  | .leaving => true
  | _ => false

def ReaderPhase.inLoop : ReaderPhase → Bool
  | .checking => true
  | .reading => true
  | .dispatching _ => true
  | .reinserting _ _ _ => true
  | _ => false

/-- The slot an in-flight re-insert holds outside the map. -/
def ReaderPhase.hand : ReaderPhase → Option (UInt16 × Pending)
  | .reinserting tag slot _ => some (tag, slot)
  | _ => none

/-- One frame, up to the point where dispatch next needs the pending lock. -/
def dispatchFrame (state : State types) (frame : Frame) (works : List FrameWork) :
    State types :=
  if frame.tag = 0 then
    { state.recordFrame frame none with
      queues := dispatchAsync protocol frame.typeId frame.payload state.queues
      reader := .dispatching works }
  else
    match state.pending.lookup frame.tag with
    | none => { state.recordFrame frame none with reader := .dispatching works }
    | some slot =>
        let taken := { state.recordFrame frame (some slot) with
          pending := state.pending.erase frame.tag }
        if absorbs protocol slot.cmdType frame.typeId then
          { taken with reader := .reinserting frame.tag slot works }
        else
          { taken.deliver slot.waker
              (resolve protocol slot.cmdType frame.typeId frame.payload)
              (.frame state.serial) with
            reader := .dispatching works }

/-! ## Steps -/

def stepCall (state : State types) : Action → Option (State types)
  | .begin call request =>
      match state.calls call with
      | .idle =>
          if state.closed then
            some (state.setPhase call
              (.returned request none (.error (.transportClosed "session closed"))))
          else
            some (state.setPhase call (.opened request))
      | _ => none
  | .allocTag call =>
      match state.calls call with
      | .opened request =>
          some { state.setPhase call (.tagged request state.nextTag) with
            nextTag := advanceTag state.nextTag }
      | _ => none
  | .register call =>
      match state.calls call with
      | .tagged request tag =>
          some (((state.insertSlot tag ⟨request.typeId, call⟩).setPhase call
            (.writing request tag)).record (.registered call tag request.typeId))
      | _ => none
  | .write call failure =>
      match state.calls call with
      | .writing request tag =>
          match protocol.encodeFrame request.typeId tag request.payload, failure with
          | .error reason, _ =>
              some (state.setPhase call (.cleaning request tag (.encodeFailed reason)))
          | .ok _, some text =>
              some (state.setPhase call (.cleaning request tag (.io text)))
          | .ok _, none => some (state.setPhase call (.waiting request tag))
      | _ => none
  | .receive call =>
      match state.calls call, state.channels call with
      | .waiting request tag, .filled response =>
          some (state.setPhase call (.returned request (some tag) (.ok response)))
      | _, _ => none
  | .senderGone call =>
      match state.calls call, state.channels call with
      | .waiting request tag, .senderDropped =>
          some (state.setPhase call (.cleaning request tag .readerExited))
      | _, _ => none
  -- `tokio::time::timeout` polls the receiver before it looks at the deadline.
  | .timeout call =>
      match state.calls call, state.channels call with
      | .waiting request tag, .empty =>
          some (state.setPhase call
            (.cleaning request tag (.timeout (describeCmd protocol request.typeId))))
      | _, _ => none
  | .cleanup call =>
      match state.calls call with
      | .cleaning request tag error =>
          some ((state.removeSlot tag).setPhase call
            (.returned request (some tag) (.error error)))
      | _ => none
  | _ => none

def stepReader (state : State types) : Action → Option (State types)
  | .readerCheck =>
      match state.reader with
      | .checking =>
          some { state with reader := if state.closed then .leaving else .reading }
      | _ => none
  | .readerRead works =>
      match state.reader with
      | .reading => some { state with reader := .dispatching works }
      | _ => none
  | .readerLeave =>
      match state.reader with
      | .reading => some { state with reader := .leaving }
      | _ => none
  | .readerDispatch =>
      match state.reader with
      | .dispatching [] => some { state with reader := .checking }
      | .dispatching (.frame :: works) =>
          some { state with
            queues := state.queues.sendAsyncError
              (.badFrame "inbound frame failed CRC or COBS")
            reader := .dispatching works }
      | .dispatching (.ok frame :: works) =>
          some (dispatchFrame protocol state frame works)
      | _ => none
  | .readerReinsert =>
      match state.reader with
      | .reinserting tag slot works =>
          some { state.insertSlot tag slot with reader := .dispatching works }
      | _ => none
  | .readerDrain =>
      match state.reader with
      | .leaving => some { state.drain "reader exited" with reader := .exited }
      | _ => none
  | .readerStop =>
      if state.aborted && state.reader.atAwait then
        some { state.dropWaker (state.reader.hand.map Prod.snd) with reader := .stopped }
      else none
  | _ => none

def stepClose (state : State types) : Action → Option (State types)
  | .closeStore =>
      match state.closer with
      | .idle => some { state with closed := true, closer := .stored }
      | _ => none
  | .closeDrain =>
      match state.closer with
      | .stored => some { state.drain "session closed" with closer := .drained }
      | _ => none
  | .closeAbort =>
      match state.closer with
      | .drained => some { state with aborted := true, closer := .done }
      | _ => none
  | _ => none

inductive Task
  | call (call : CallId)
  | reader
  | close
  deriving DecidableEq, Repr

def Action.task : Action → Task
  | .begin call _ | .allocTag call | .register call | .write call _
  | .receive call | .senderGone call | .timeout call | .cleanup call => .call call
  | .readerCheck | .readerRead _ | .readerLeave | .readerDispatch
  | .readerReinsert | .readerDrain | .readerStop => .reader
  | .closeStore | .closeDrain | .closeAbort => .close

def step (state : State types) (action : Action) : Option (State types) :=
  match action.task with
  | .call _ => stepCall protocol state action
  | .reader => stepReader protocol state action
  | .close => stepClose state action

def spawn : State types where
  nextTag := 1
  pending := ∅
  closed := false
  queues := ⟨[], []⟩
  calls _ := .idle
  channels _ := .empty
  reader := .checking
  aborted := false
  closer := .idle
  serial := 0
  history := []

def machine : Machine (State types) Action where
  initial := spawn
  step := step protocol

end DongloraClient.Session
