import DongloraClient.Foundation.Machine
import DongloraClient.Dongle.Operations

/-! # Dongle operations one at a time

A handler that executes operations on the cells of `Inner` and takes everything
that comes from outside from an environment: the results of the operation's
commands in order, the readings of the clock, the samples of the jitter. A
sequential run is a list of calls, each in an environment of its own.
-/

namespace DongloraClient.Dongle

open Foundation Session

variable {types : WireTypes}

structure Inner (types : WireTypes) where
  appliedConfig : Option (Modulation types)
  rxStarted : Bool
  lastWriteAt : Instant
  closed : Bool

namespace Inner

def get (inner : Inner types) : (cell : Cell) → cell.Value types
  | .appliedConfig => inner.appliedConfig
  | .rxStarted => inner.rxStarted
  | .lastWriteAt => inner.lastWriteAt
  | .closed => inner.closed

def set (inner : Inner types) : (cell : Cell) → cell.Value types → Inner types
  | .appliedConfig, value => { inner with appliedConfig := value }
  | .rxStarted, value => { inner with rxStarted := value }
  | .lastWriteAt, value => { inner with lastWriteAt := value }
  | .closed, value => { inner with closed := value }

end Inner

/-- What one call meets: `reply n` is the result of its `n`-th command and
`clock n` its `n`-th reading of the clock, both from 0. -/
structure Environment (types : WireTypes) where
  reply : Nat → ClientResult (SessionResponse types)
  clock : Nat → Instant
  jitter : Nat → (upTo : UInt32) → { value : UInt32 // value ≤ upTo }
  received : Option types.RxPayload
  asyncErrors : List ClientError

/-- `commands` lists the commands of the whole run, newest first; the counters are
those of the call in progress. -/
structure World (types : WireTypes) where
  inner : Inner types
  commands : List (Command types)
  issued : Nat
  readings : Nat
  samples : Nat

namespace World

def setCell (world : World types) (cell : Cell) (value : cell.Value types) :
    World types :=
  { world with inner := world.inner.set cell value }

def tick (world : World types) : World types :=
  { world with readings := world.readings + 1 }

def marked (world : World types) (environment : Environment types) : World types :=
  world.tick.setCell .lastWriteAt (environment.clock world.readings)

def sent (world : World types) (request : Request)
    (result : ClientResult (SessionResponse types)) : World types :=
  { world with
    commands := ⟨request, result⟩ :: world.commands
    issued := world.issued + 1 }

end World

def handler (environment : Environment types) :
    (effect : Effect types) → World types → Option (Answer effect × World types)
  | .acquire _, world => some ((), world)
  | .release _, world => some ((), world)
  | .load cell, world => some (world.inner.get cell, world)
  | .store cell value, world => some ((), world.setCell cell value)
  | .now, world => some (environment.clock world.readings, world.tick)
  | .sleep _, world => some ((), world)
  | .random upTo, world =>
      some (environment.jitter world.samples upTo, { world with samples := world.samples + 1 })
  | .sendCommand request _, world =>
      some (environment.reply world.issued, world.sent request (environment.reply world.issued))
  | .recvRx _, world => some (environment.received, world)
  | .nextRx, world => some (environment.received, world)
  | .drainAsyncErrors, world => some (environment.asyncErrors, world)
  | .abortKeepalive, world => some ((), world)
  | .closeSession, world => some ((), world)
  | .panic, _ => none

def execute {Result : Type} (environment : Environment types)
    (operation : Operation types Result) (world : World types) :
    Option Result × World types :=
  operation.run (handler environment) world

/-! ## What the helpers do -/

section Execution

variable (environment : Environment types) (world : World types)

theorem execute_bind {First Second : Type} (operation : Operation types First)
    (next : First → Operation types Second) :
    execute environment (operation >>= next) world =
      Program.andThen (execute environment operation world) fun value reached =>
        execute environment (next value) reached :=
  Program.run_bind (handler environment) operation next world

@[simp] theorem execute_done {Result : Type} (value : Result) :
    execute environment (.done value) world = (some value, world) := rfl

@[simp] theorem execute_acquire (cell : Cell) :
    execute environment (acquire cell) world = (some (), world) := rfl

@[simp] theorem execute_release (cell : Cell) :
    execute environment (release cell) world = (some (), world) := rfl

@[simp] theorem execute_store (cell : Cell) (value : cell.Value types) :
    execute environment (store cell value) world =
      (some (), world.setCell cell value) := rfl

@[simp] theorem execute_loadRxStarted :
    execute environment loadRxStarted world = (some world.inner.rxStarted, world) := rfl

@[simp] theorem execute_loadClosed :
    execute environment loadClosed world = (some world.inner.closed, world) := rfl

@[simp] theorem execute_readAppliedConfig :
    execute environment readAppliedConfig world =
      (some world.inner.appliedConfig, world) := rfl

@[simp] theorem execute_readRxStarted :
    execute environment readRxStarted world = (some world.inner.rxStarted, world) := rfl

@[simp] theorem execute_readLastWriteAt :
    execute environment readLastWriteAt world =
      (some world.inner.lastWriteAt, world) := rfl

@[simp] theorem execute_readClosed :
    execute environment readClosed world = (some world.inner.closed, world) := rfl

@[simp] theorem execute_write (cell : Cell) (value : cell.Value types) :
    execute environment (write cell value) world =
      (some (), world.setCell cell value) := rfl

@[simp] theorem execute_now :
    execute environment now world =
      (some (environment.clock world.readings), world.tick) := rfl

@[simp] theorem execute_sleep (duration : Duration) :
    execute environment (sleep duration) world = (some (), world) := rfl

@[simp] theorem execute_sendCommand (typeId : UInt8) (payload : List UInt8)
    (timeout : Duration) :
    execute environment (sendCommand typeId payload timeout) world =
      (some (environment.reply world.issued),
        world.sent ⟨typeId, payload⟩ (environment.reply world.issued)) := rfl

@[simp] theorem execute_markWrite :
    execute environment markWrite world = (some (), world.marked environment) := rfl

theorem handler_extends {effect : Effect types} {answer : Answer effect}
    {reached : World types}
    (handled : handler environment effect world = some (answer, reached)) :
    ∃ newer, reached.commands = newer ++ world.commands := by
  cases effect with
  | sendCommand request timeout =>
      cases handled
      exact ⟨[_], rfl⟩
  | panic => cases handled
  | _ =>
      cases handled
      exact ⟨[], rfl⟩

theorem execute_extends {Result : Type} (operation : Operation types Result) :
    ∃ newer, (execute environment operation world).2.commands =
      newer ++ world.commands := by
  rw [execute]
  induction operation generalizing world with
  | done value => exact ⟨[], rfl⟩
  | perform effect next induction =>
      rw [Program.run_perform]
      cases handled : handler environment effect world with
      | none => exact ⟨[], rfl⟩
      | some outcome =>
          rcases handler_extends environment world handled with ⟨first, extended⟩
          rcases induction outcome.1 outcome.2 with ⟨later, grown⟩
          exact ⟨later ++ first, by rw [List.append_assoc, ← extended]; exact grown⟩

theorem execute_checkOpen :
    execute environment checkOpen world =
      (some (if world.inner.closed then .error (.transportClosed "dongle closed")
        else .ok ()), world) := by
  cases closed : world.inner.closed <;>
    simp [checkOpen, execute_bind, closed]

variable (protocol : Protocol types)

@[simp] theorem execute_session_ping (timeout : Duration) :
    execute environment (Session.ping protocol timeout) world =
      (some (emptyResult protocol "PING" (environment.reply world.issued)),
        world.sent ⟨protocol.typePing, []⟩ (environment.reply world.issued)) := rfl

@[simp] theorem execute_session_rxStart (timeout : Duration) :
    execute environment (Session.rxStart protocol timeout) world =
      (some (emptyResult protocol "RX_START" (environment.reply world.issued)),
        world.sent ⟨protocol.typeRxStart, []⟩ (environment.reply world.issued)) := rfl

@[simp] theorem execute_session_rxStop (timeout : Duration) :
    execute environment (Session.rxStop protocol timeout) world =
      (some (emptyResult protocol "RX_STOP" (environment.reply world.issued)),
        world.sent ⟨protocol.typeRxStop, []⟩ (environment.reply world.issued)) := rfl

theorem execute_session_setConfig (config : Modulation types) (timeout : Duration) :
    execute environment (Session.setConfig protocol config timeout) world =
      match protocol.encodeSetConfig config with
      | .error reason => (some (.error (.encodeFailed reason)), world)
      | .ok payload =>
          (some (setConfigResult protocol (environment.reply world.issued)),
            world.sent ⟨protocol.typeSetConfig, payload⟩
              (environment.reply world.issued)) := by
  cases encoded : protocol.encodeSetConfig config <;>
    simp [Session.setConfig, encoded, execute_bind]

theorem execute_session_transmit (data : List UInt8) (skipCad : Bool)
    (timeout : Duration) :
    execute environment (Session.transmit protocol data skipCad timeout) world =
      if data.isEmpty then (some (.error .length), world)
      else if protocol.maxPayloadField < 1 + data.length then (none, world)
      else
        (some (transmitResult protocol (environment.reply world.issued)),
          world.sent ⟨protocol.typeTx, protocol.txFlagsAsByte skipCad :: data⟩
            (environment.reply world.issued)) := by
  rw [Session.transmit]
  split
  · rfl
  · split <;> rfl

end Execution

/-! ## Sequential runs -/

inductive Call (types : WireTypes)
  | txWithTimeout (data : List UInt8) (skipCad : Bool) (timeout : Duration)
  | txWithRetry (data : List UInt8) (policy : RetryPolicy)
  | rxStart
  | rxStop
  | recv (timeout : Duration)
  | nextRx
  | setConfig (modulation : Modulation types)
  | ping
  | drainAsyncErrors
  | config
  | close
  | keepaliveTick

section Runs

variable (protocol : Protocol types)

def executeCall (environment : Environment types) (world : World types) :
    Call types → World types
  | .txWithTimeout data skipCad timeout =>
      (execute environment (txWithTimeout protocol data skipCad timeout) world).2
  | .txWithRetry data policy =>
      (execute environment (txWithRetry protocol data policy) world).2
  | .rxStart => (execute environment (rxStart protocol) world).2
  | .rxStop => (execute environment (rxStop protocol) world).2
  | .recv timeout => (execute environment (recv protocol timeout) world).2
  | .nextRx => (execute environment (nextRx protocol) world).2
  | .setConfig modulation =>
      (execute environment (setConfig protocol modulation) world).2
  | .ping => (execute environment (ping protocol) world).2
  | .drainAsyncErrors => (execute environment drainAsyncErrors world).2
  | .config => (execute environment config world).2
  | .close => (execute environment close world).2
  | .keepaliveTick => (execute environment (keepaliveTick protocol) world).2

structure Turn (types : WireTypes) where
  call : Call types
  environment : Environment types

def World.start (world : World types) : World types :=
  { world with issued := 0, readings := 0, samples := 0 }

def machine (applied : Option (Modulation types)) (openedAt : Instant) :
    Machine (World types) (Turn types) where
  initial := ⟨⟨applied, false, openedAt, false⟩, [], 0, 0, 0⟩
  step world turn := some (executeCall protocol turn.environment world.start turn.call)

end Runs

end DongloraClient.Dongle
