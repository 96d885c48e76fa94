import DongloraClient.Dongle.Sequential

/-! # The cached receive mode

`rx_started` is meant to mirror the device: on after an accepted `RX_START`, off
after an accepted `RX_STOP` or `SET_CONFIG`, since the device aborts continuous
reception when it accepts a configuration. A recovery re-applies the
configuration without touching `rx_started`; outside `rx_start`, which only
recovers while the flag is off, that makes the cache lie.
-/

namespace DongloraClient.Dongle

open Foundation Session

variable {types : WireTypes} (protocol : Protocol types)

/-! ## The mode the device was last put into -/

inductive ModeCommand
  | rxStart
  | rxStop
  | setConfig
  deriving DecidableEq, Repr

def Command.acceptedMode (command : Command types) : Option ModeCommand :=
  if command.request.typeId = protocol.typeRxStart then
    match emptyResult protocol "RX_START" command.result with
    | .ok () => some .rxStart
    | .error _ => none
  else if command.request.typeId = protocol.typeRxStop then
    match emptyResult protocol "RX_STOP" command.result with
    | .ok () => some .rxStop
    | .error _ => none
  else if command.request.typeId = protocol.typeSetConfig then
    match setConfigResult protocol command.result with
    | .ok _ => some .setConfig
    | .error _ => none
  else none

def World.lastMode (world : World types) : Option ModeCommand :=
  world.commands.findSome? (Command.acceptedMode protocol)

def World.Follows (world : World types) : Prop :=
  world.inner.rxStarted = true ↔ world.lastMode protocol = some .rxStart

/-! ## Views of a world -/

section Views

variable {protocol} (world : World types)

@[simp] theorem setCell_lastMode (cell : Cell) (value : cell.Value types) :
    (world.setCell cell value).lastMode protocol = world.lastMode protocol := rfl

@[simp] theorem marked_lastMode (environment : Environment types) :
    (world.marked environment).lastMode protocol = world.lastMode protocol := rfl

theorem sent_lastMode (request : Request)
    (result : ClientResult (SessionResponse types)) :
    (world.sent request result).lastMode protocol =
      (Command.acceptedMode protocol ⟨request, result⟩).or (world.lastMode protocol) := by
  simp only [World.lastMode, World.sent, List.findSome?_cons]
  cases Command.acceptedMode protocol ⟨request, result⟩ <;> rfl

end Views

/-! ## Commands and modes -/

section Modes

variable {protocol} {world : World types} {payload : List UInt8}
  {result : ClientResult (SessionResponse types)}

theorem typeIds_ne :
    protocol.typePing ≠ protocol.typeRxStart ∧ protocol.typePing ≠ protocol.typeRxStop ∧
    protocol.typePing ≠ protocol.typeSetConfig ∧
    protocol.typeTx ≠ protocol.typeRxStart ∧ protocol.typeTx ≠ protocol.typeRxStop ∧
    protocol.typeTx ≠ protocol.typeSetConfig ∧
    protocol.typeRxStop ≠ protocol.typeRxStart ∧
    protocol.typeSetConfig ≠ protocol.typeRxStart ∧
    protocol.typeSetConfig ≠ protocol.typeRxStop := by
  have distinct := protocol.commandTypes_nodup
  simp only [List.nodup_cons, List.mem_cons, not_or] at distinct
  rcases distinct with ⟨ping, _, setConfig, tx, rxStart, _⟩
  exact ⟨ping.2.2.2.1, ping.2.2.2.2.1, ping.2.1, tx.1, tx.2.1, Ne.symm setConfig.1,
    Ne.symm rxStart.1, setConfig.2.1, setConfig.2.2.1⟩

@[simp] theorem sent_ping_lastMode :
    (world.sent ⟨protocol.typePing, payload⟩ result).lastMode protocol =
      world.lastMode protocol := by
  rcases @typeIds_ne _ protocol with ⟨notRxStart, notRxStop, notSetConfig, _⟩
  simp [sent_lastMode, Command.acceptedMode, notRxStart, notRxStop, notSetConfig]

@[simp] theorem sent_tx_lastMode :
    (world.sent ⟨protocol.typeTx, payload⟩ result).lastMode protocol =
      world.lastMode protocol := by
  rcases @typeIds_ne _ protocol with ⟨_, _, _, notRxStart, notRxStop, notSetConfig, _⟩
  simp [sent_lastMode, Command.acceptedMode, notRxStart, notRxStop, notSetConfig]

theorem sent_rxStart_lastMode :
    (world.sent ⟨protocol.typeRxStart, payload⟩ result).lastMode protocol =
      match emptyResult protocol "RX_START" result with
      | .ok () => some .rxStart
      | .error _ => world.lastMode protocol := by
  rw [sent_lastMode, Command.acceptedMode, if_pos rfl]
  cases emptyResult protocol "RX_START" result <;> rfl

theorem sent_rxStop_lastMode :
    (world.sent ⟨protocol.typeRxStop, payload⟩ result).lastMode protocol =
      match emptyResult protocol "RX_STOP" result with
      | .ok () => some .rxStop
      | .error _ => world.lastMode protocol := by
  rcases @typeIds_ne _ protocol with ⟨_, _, _, _, _, _, notRxStart, _⟩
  rw [sent_lastMode, Command.acceptedMode, if_neg notRxStart, if_pos rfl]
  cases emptyResult protocol "RX_STOP" result <;> rfl

theorem sent_setConfig_lastMode :
    (world.sent ⟨protocol.typeSetConfig, payload⟩ result).lastMode protocol =
      match setConfigResult protocol result with
      | .ok _ => some .setConfig
      | .error _ => world.lastMode protocol := by
  rcases @typeIds_ne _ protocol with ⟨_, _, _, _, _, _, _, notRxStart, notRxStop⟩
  rw [sent_lastMode, Command.acceptedMode, if_neg notRxStart, if_neg notRxStop, if_pos rfl]
  cases setConfigResult protocol result <;> rfl

theorem sent_setConfig_accepted {applied : SetConfigResult types}
    (accepted : setConfigResult protocol result = .ok applied) :
    (world.sent ⟨protocol.typeSetConfig, payload⟩ result).lastMode protocol =
      some .setConfig := by
  rw [sent_setConfig_lastMode, accepted]

end Modes

/-! ## What each call does to the mode -/

def SameMode (before after : World types) : Prop :=
  after.inner.rxStarted = before.inner.rxStarted ∧
    after.lastMode protocol = before.lastMode protocol

variable {protocol} in
theorem SameMode.trans {before middle after : World types}
    (second : SameMode protocol middle after) (first : SameMode protocol before middle) :
    SameMode protocol before after :=
  ⟨second.1.trans first.1, second.2.trans first.2⟩

def Reconfigured (before after : World types) : Prop :=
  after.inner.rxStarted = before.inner.rxStarted ∧
    after.lastMode protocol = some .setConfig

def Reapplies (environment : Environment types) (world : World types) : Prop :=
  ∃ config payload result, world.inner.appliedConfig = some config ∧
    protocol.encodeSetConfig config = .ok payload ∧
    setConfigResult protocol (environment.reply world.issued) = .ok result

section Calls

variable {protocol} (environment : Environment types) (world : World types)

theorem session_setConfig_mode (config : Modulation types) (timeout : Duration) :
    (∃ payload result, protocol.encodeSetConfig config = .ok payload ∧
      setConfigResult protocol (environment.reply world.issued) = .ok result ∧
      execute environment (Session.setConfig protocol config timeout) world =
        (some (.ok result), world.sent ⟨protocol.typeSetConfig, payload⟩
          (environment.reply world.issued))) ∨
    ((∀ payload result, protocol.encodeSetConfig config = .ok payload →
      setConfigResult protocol (environment.reply world.issued) ≠ .ok result) ∧
      ∃ error reached,
        execute environment (Session.setConfig protocol config timeout) world =
          (some (.error error), reached) ∧ SameMode protocol world reached) := by
  rw [execute_session_setConfig]
  cases encoded : protocol.encodeSetConfig config with
  | error reason => exact .inr ⟨by simp, _, _, rfl, rfl, rfl⟩
  | ok payload =>
      cases accepted : setConfigResult protocol (environment.reply world.issued) with
      | error error =>
          refine .inr ⟨by simp, _, _, rfl, rfl, ?_⟩
          rw [sent_setConfig_lastMode, accepted]
      | ok result => exact .inl ⟨payload, result, rfl, rfl, rfl⟩

theorem reapplyConfig_mode :
    (Reapplies protocol environment world ∧ ∃ reached,
      execute environment (reapplyConfig protocol) world = (some (.ok ()), reached) ∧
      Reconfigured protocol world reached ∧ reached.issued = world.issued + 1) ∨
    (¬ Reapplies protocol environment world ∧ ∃ error reached,
      execute environment (reapplyConfig protocol) world =
        (some (.error error), reached) ∧ SameMode protocol world reached) := by
  rw [reapplyConfig, execute_bind, execute_readAppliedConfig, Program.andThen_some]
  cases cached : world.inner.appliedConfig with
  | none =>
      refine .inr ⟨?_, _, _, rfl, rfl, rfl⟩
      simp [Reapplies, cached]
  | some config =>
      simp only [execute_bind]
      rcases session_setConfig_mode environment world config (fromSecs 2) with
        ⟨payload, result, encoded, accepted, executed⟩ | ⟨refused, error, reached, executed, same⟩
      · rw [executed]
        exact .inl ⟨⟨config, payload, result, cached, encoded, accepted⟩, _, rfl,
          ⟨rfl, sent_setConfig_accepted accepted⟩, rfl⟩
      · rw [executed]
        refine .inr ⟨?_, _, _, rfl, same⟩
        rintro ⟨other, payload, result, alsoCached, encoded, accepted⟩
        rw [cached] at alsoCached
        cases alsoCached
        exact refused payload result encoded accepted

def TxUnconfigured (protocol : Protocol types) (data : List UInt8)
    (reply : ClientResult (SessionResponse types)) : Prop :=
  data.isEmpty = false ∧ 1 + data.length ≤ protocol.maxPayloadField ∧
    transmitResult protocol reply = .error .notConfigured

theorem session_transmit_mode (data : List UInt8) (skipCad : Bool) (timeout : Duration) :
    ∃ outcome reached,
      execute environment (Session.transmit protocol data skipCad timeout) world =
        (outcome, reached) ∧
      reached.inner = world.inner ∧ reached.lastMode protocol = world.lastMode protocol ∧
      (outcome = some (.error .notConfigured) ↔
        TxUnconfigured protocol data (environment.reply world.issued)) ∧
      (outcome = some (.error .notConfigured) → reached.issued = world.issued + 1) := by
  rw [execute_session_transmit]
  by_cases empty : data.isEmpty = true
  · rw [if_pos empty]
    exact ⟨_, _, rfl, rfl, rfl, by simp [TxUnconfigured, empty], by simp⟩
  · rw [if_neg empty]
    by_cases long : protocol.maxPayloadField < 1 + data.length
    · rw [if_pos long]
      refine ⟨_, _, rfl, rfl, rfl, ?_, by simp⟩
      simp only [TxUnconfigured, reduceCtorEq, false_iff]
      omega
    · rw [if_neg long]
      refine ⟨_, _, rfl, rfl, sent_tx_lastMode, ?_, fun _ => rfl⟩
      simp only [TxUnconfigured, Option.some.injEq]
      constructor
      · intro unconfigured
        exact ⟨by simpa using empty, by omega, unconfigured⟩
      · intro unconfigured
        exact unconfigured.2.2

theorem recoverAndRetryTx_mode (data : List UInt8) (skipCad : Bool) (timeout : Duration) :
    (Reapplies protocol environment world ∧ Reconfigured protocol world
      (execute environment (recoverAndRetryTx protocol data skipCad timeout) world).2) ∨
    (¬ Reapplies protocol environment world ∧ SameMode protocol world
      (execute environment (recoverAndRetryTx protocol data skipCad timeout) world).2) := by
  rw [recoverAndRetryTx, execute_bind]
  rcases reapplyConfig_mode environment world with
    ⟨reapplies, reached, executed, reconfigured, _⟩ | ⟨refused, error, reached, executed, same⟩
  · rw [executed, Program.andThen_some]
    rcases session_transmit_mode environment reached data skipCad timeout with
      ⟨outcome, final, transmitted, inner, mode, _⟩
    refine .inl ⟨reapplies, ?_⟩
    rw [transmitted]
    exact ⟨by rw [inner]; exact reconfigured.1, mode.trans reconfigured.2⟩
  · rw [executed]
    exact .inr ⟨refused, same⟩

def TxRecovers (protocol : Protocol types) (environment : Environment types)
    (world : World types) (data : List UInt8) : Prop :=
  world.inner.closed = false ∧
    TxUnconfigured protocol data (environment.reply world.issued) ∧
    ∃ config payload result, world.inner.appliedConfig = some config ∧
      protocol.encodeSetConfig config = .ok payload ∧
      setConfigResult protocol (environment.reply (world.issued + 1)) = .ok result

theorem txWithTimeout_mode (data : List UInt8) (skipCad : Bool) (timeout : Duration) :
    (TxRecovers protocol environment world data ∧ Reconfigured protocol world
      (execute environment (txWithTimeout protocol data skipCad timeout) world).2) ∨
    (¬ TxRecovers protocol environment world data ∧ SameMode protocol world
      (execute environment (txWithTimeout protocol data skipCad timeout) world).2) := by
  rw [txWithTimeout, execute_bind, execute_checkOpen]
  cases closed : world.inner.closed with
  | true => exact .inr ⟨by simp [TxRecovers, closed], rfl, rfl⟩
  | false =>
      simp only [Bool.false_eq_true, if_false, Program.andThen_some, execute_bind,
        execute_markWrite]
      rcases session_transmit_mode environment (world.marked environment) data skipCad
        timeout with ⟨outcome, reached, executed, inner, mode, unconfigured, issued⟩
      rw [executed]
      have sameMode : SameMode protocol world reached := ⟨by rw [inner]; rfl, mode⟩
      by_cases recovers : outcome = some (.error .notConfigured)
      · subst recovers
        rw [Program.andThen_some]
        have reapplies_iff : Reapplies protocol environment reached ↔
            ∃ config payload result, world.inner.appliedConfig = some config ∧
              protocol.encodeSetConfig config = .ok payload ∧
              setConfigResult protocol (environment.reply (world.issued + 1)) =
                .ok result := by
          rw [Reapplies, inner, issued rfl]
          rfl
        rcases recoverAndRetryTx_mode environment reached data skipCad timeout with
          ⟨reapplies, reconfigured⟩ | ⟨refused, same⟩
        · refine .inl ⟨⟨closed, unconfigured.mp rfl, reapplies_iff.mp reapplies⟩, ?_⟩
          exact ⟨reconfigured.1.trans sameMode.1, reconfigured.2⟩
        · refine .inr ⟨?_, same.trans sameMode⟩
          intro recovered
          exact refused (reapplies_iff.mpr recovered.2.2)
      · have notRecovers : ¬ TxRecovers protocol environment world data := by
          intro recovered
          exact recovers (unconfigured.mpr recovered.2.1)
        refine .inr ⟨notRecovers, ?_⟩
        cases outcome with
        | none => exact sameMode
        | some result =>
            cases result with
            | ok done => exact sameMode
            | error error =>
                cases error with
                | notConfigured => exact absurd rfl recovers
                | _ => exact sameMode

theorem execute_jitterMs (policy : RetryPolicy) :
    ∃ jitter samples, execute environment policy.jitterMs world =
      (some jitter, { world with samples := samples }) := by
  rw [RetryPolicy.jitterMs]
  split
  · exact ⟨_, _, rfl⟩
  · exact ⟨_, _, rfl⟩

theorem txAttempts_mode (data : List UInt8) (policy : RetryPolicy) (numbers : List UInt8)
    (attempts : List TxAttempt) (delayMs : UInt32) :
    SameMode protocol world
      (execute environment (txAttempts protocol data policy numbers attempts delayMs)
        world).2 := by
  induction numbers generalizing world attempts delayMs with
  | nil => exact ⟨rfl, rfl⟩
  | cons number numbers induction =>
      simp only [txAttempts, execute_bind, execute_markWrite, execute_now,
        Program.andThen_some]
      rcases session_transmit_mode environment (world.marked environment).tick data
        policy.skipCad policy.perAttemptTimeout with ⟨outcome, reached, executed, inner, mode, _⟩
      have same : SameMode protocol world reached := ⟨by rw [inner]; rfl, mode⟩
      rw [executed]
      cases outcome with
      | none => exact same
      | some result =>
          simp only [Program.andThen_some]
          cases result with
          | ok done => exact same
          | error error =>
              dsimp only
              split
              · exact same
              · rcases execute_jitterMs environment reached.tick policy with
                  ⟨jitter, sampled, drawn⟩
                simp only [execute_bind, drawn, execute_sleep, Program.andThen_some]
                exact (induction _ _ _).trans same

theorem txWithRetry_mode (data : List UInt8) (policy : RetryPolicy) :
    SameMode protocol world
      (execute environment (txWithRetry protocol data policy) world).2 := by
  rw [txWithRetry, execute_bind, execute_checkOpen]
  cases closed : world.inner.closed with
  | true => exact ⟨rfl, rfl⟩
  | false => exact txAttempts_mode environment world _ _ _ _ _

theorem ping_mode :
    SameMode protocol world (execute environment (ping protocol) world).2 := by
  rw [ping, execute_bind, execute_checkOpen]
  cases closed : world.inner.closed with
  | true => exact ⟨rfl, rfl⟩
  | false => exact ⟨rfl, sent_ping_lastMode⟩

theorem close_mode :
    SameMode protocol world (execute environment close world).2 := by
  rw [close]
  simp only [execute_bind, execute_acquire, execute_loadClosed, Program.andThen_some]
  cases world.inner.closed <;> exact ⟨rfl, rfl⟩

def Settled (protocol : Protocol types) (after : World types) (started : Bool)
    (mode : ModeCommand) : Prop :=
  after.inner.rxStarted = started ∧ after.lastMode protocol = some mode

theorem rxStop_mode :
    SameMode protocol world (execute environment (rxStop protocol) world).2 ∨
      Settled protocol (execute environment (rxStop protocol) world).2 false .rxStop := by
  rw [rxStop, execute_bind, execute_checkOpen]
  cases closed : world.inner.closed with
  | true => exact .inl ⟨rfl, rfl⟩
  | false =>
      simp only [Bool.false_eq_true, if_false, Program.andThen_some, execute_bind,
        execute_markWrite, execute_session_rxStop]
      have mode := @sent_rxStop_lastMode _ protocol (world.marked environment) []
        (environment.reply (world.marked environment).issued)
      cases accepted : emptyResult protocol "RX_STOP"
          (environment.reply (world.marked environment).issued) with
      | error error =>
          rw [accepted] at mode
          exact .inl ⟨rfl, mode⟩
      | ok _ =>
          rw [accepted] at mode
          exact .inr ⟨rfl, mode⟩

theorem setConfig_mode (modulation : Modulation types) :
    SameMode protocol world (execute environment (setConfig protocol modulation) world).2 ∨
      Settled protocol (execute environment (setConfig protocol modulation) world).2
        false .setConfig := by
  rw [setConfig, execute_bind, execute_checkOpen]
  cases closed : world.inner.closed with
  | true => exact .inl ⟨rfl, rfl⟩
  | false =>
      simp only [Bool.false_eq_true, if_false, Program.andThen_some, execute_bind,
        execute_markWrite]
      rcases session_setConfig_mode environment (world.marked environment) modulation
          (fromSecs 2) with
        ⟨payload, result, encoded, accepted, executed⟩ | ⟨_, error, reached, executed, same⟩
      · rw [executed]
        exact .inr ⟨rfl, sent_setConfig_accepted accepted⟩
      · rw [executed]
        exact .inl same

/-- What `rx_start` may leave: its recovery runs only while the flag is off. -/
def StartOutcome (protocol : Protocol types) (before after : World types) : Prop :=
  SameMode protocol before after ∨ Settled protocol after true .rxStart ∨
    Settled protocol after false .setConfig

theorem rxStart_mode :
    StartOutcome protocol world (execute environment (rxStart protocol) world).2 := by
  rw [rxStart, execute_bind, execute_checkOpen]
  cases closed : world.inner.closed with
  | true => exact .inl ⟨rfl, rfl⟩
  | false =>
      simp only [Bool.false_eq_true, if_false, Program.andThen_some, execute_bind,
        execute_markWrite, execute_acquire, execute_loadRxStarted]
      cases started : (world.marked environment).inner.rxStarted with
      | true => exact .inl ⟨rfl, rfl⟩
      | false =>
          simp only [Bool.false_eq_true, if_false, execute_bind, execute_session_rxStart,
            Program.andThen_some]
          have mode := @sent_rxStart_lastMode _ protocol (world.marked environment) []
            (environment.reply (world.marked environment).issued)
          cases accepted : emptyResult protocol "RX_START"
              (environment.reply (world.marked environment).issued) with
          | ok _ =>
              rw [accepted] at mode
              exact .inr (.inl ⟨rfl, mode⟩)
          | error error =>
              rw [accepted] at mode
              cases error with
              | notConfigured =>
                  simp only [execute_bind, execute_release, Program.andThen_some]
                  rcases reapplyConfig_mode environment ((world.marked environment).sent
                      ⟨protocol.typeRxStart, []⟩
                      (environment.reply (world.marked environment).issued)) with
                    ⟨_, reached, executed, reconfigured, _⟩ | ⟨_, error, reached, executed, same⟩
                  · have unstarted : reached.inner.rxStarted = false :=
                      reconfigured.1.trans started
                    have second := @sent_rxStart_lastMode _ protocol reached []
                      (environment.reply reached.issued)
                    rw [executed]
                    simp only [Program.andThen_some, execute_bind, execute_session_rxStart]
                    cases again : emptyResult protocol "RX_START"
                        (environment.reply reached.issued) with
                    | error error =>
                        rw [again] at second
                        exact .inr (.inr ⟨unstarted, second.trans reconfigured.2⟩)
                    | ok _ =>
                        rw [again] at second
                        exact .inr (.inl ⟨rfl, second⟩)
                  · rw [executed]
                    exact .inl (same.trans ⟨rfl, mode⟩)
              | _ => exact .inl ⟨rfl, mode⟩

theorem ensureReceiving_world :
    (execute environment (ensureReceiving protocol) world).2 =
      if world.inner.closed || world.inner.rxStarted then world
      else (execute environment (rxStart protocol) world).2 := by
  rw [ensureReceiving, execute_bind, execute_checkOpen]
  cases closed : world.inner.closed with
  | true => rfl
  | false =>
      simp only [Bool.false_eq_true, if_false, Program.andThen_some, execute_bind,
        execute_readRxStarted, Bool.false_or]
      cases started : world.inner.rxStarted with
      | true => rfl
      | false =>
          simp only [Bool.false_eq_true, if_false, execute_bind]
          rcases execute environment (rxStart protocol) world with ⟨_ | _ | _, reached⟩ <;> rfl

theorem recv_world (timeout : Duration) :
    (execute environment (recv protocol timeout) world).2 =
      (execute environment (ensureReceiving protocol) world).2 := by
  rw [recv, execute_bind]
  rcases execute environment (ensureReceiving protocol) world with ⟨_ | _ | _, reached⟩ <;> rfl

theorem nextRx_world :
    (execute environment (nextRx protocol) world).2 =
      (execute environment (ensureReceiving protocol) world).2 := by
  rw [nextRx, execute_bind]
  rcases execute environment (ensureReceiving protocol) world with ⟨_ | _ | _, reached⟩ <;> rfl

theorem ensureReceiving_mode :
    StartOutcome protocol world (execute environment (ensureReceiving protocol) world).2 := by
  rw [ensureReceiving_world]
  split
  · exact .inl ⟨rfl, rfl⟩
  · exact rxStart_mode environment world

def TickRecovers (protocol : Protocol types) (environment : Environment types)
    (world : World types) : Prop :=
  world.inner.closed = false ∧
    keepaliveInterval ≤ environment.clock world.readings - world.inner.lastWriteAt ∧
    emptyResult protocol "PING" (environment.reply world.issued) = .error .notConfigured ∧
    ∃ config payload result, world.inner.appliedConfig = some config ∧
      protocol.encodeSetConfig config = .ok payload ∧
      setConfigResult protocol (environment.reply (world.issued + 1)) = .ok result

theorem keepaliveTick_mode :
    (TickRecovers protocol environment world ∧ Reconfigured protocol world
      (execute environment (keepaliveTick protocol) world).2) ∨
    (¬ TickRecovers protocol environment world ∧ SameMode protocol world
      (execute environment (keepaliveTick protocol) world).2) := by
  rw [keepaliveTick]
  simp only [execute_bind, execute_sleep, execute_readClosed, Program.andThen_some]
  cases closed : world.inner.closed with
  | true => exact .inr ⟨by simp [TickRecovers, closed], rfl, rfl⟩
  | false =>
      simp only [Bool.false_eq_true, if_false, execute_bind, execute_readLastWriteAt,
        execute_now, Program.andThen_some]
      by_cases recent :
          environment.clock world.readings - world.inner.lastWriteAt < keepaliveInterval
      · rw [if_pos recent]
        refine .inr ⟨?_, rfl, rfl⟩
        intro recovers
        exact Nat.not_le_of_lt recent recovers.2.1
      · rw [if_neg recent]
        simp only [execute_bind, execute_session_ping, Program.andThen_some]
        have pinged : SameMode protocol world (world.tick.sent ⟨protocol.typePing, []⟩
          (environment.reply world.tick.issued)) := ⟨rfl, sent_ping_lastMode⟩
        cases answered : emptyResult protocol "PING" (environment.reply world.tick.issued) with
        | ok _ =>
            refine .inr ⟨?_, pinged⟩
            intro recovers
            cases answered.symm.trans recovers.2.2.1
        | error error =>
            cases error with
            | notConfigured =>
                simp only [execute_bind, execute_readAppliedConfig, Program.andThen_some]
                cases cached : (world.tick.sent ⟨protocol.typePing, []⟩
                    (environment.reply world.tick.issued)).inner.appliedConfig with
                | none =>
                    refine .inr ⟨?_, pinged⟩
                    rintro ⟨_, _, _, config, payload, result, present, _⟩
                    cases cached.symm.trans present
                | some config =>
                    simp only [execute_bind]
                    rcases session_setConfig_mode environment
                        (world.tick.sent ⟨protocol.typePing, []⟩
                          (environment.reply world.tick.issued)) config (fromSecs 2) with
                      ⟨payload, result, encoded, accepted, executed⟩ |
                      ⟨refused, error, reached, executed, same⟩
                    · rw [executed]
                      exact .inl ⟨⟨closed, Nat.le_of_not_lt recent, answered, config, payload,
                        result, cached, encoded, accepted⟩, rfl, sent_setConfig_accepted accepted⟩
                    · rw [executed]
                      refine .inr ⟨?_, same.trans pinged⟩
                      rintro ⟨_, _, _, other, payload, result, present, encoded, accepted⟩
                      cases cached.symm.trans present
                      exact refused payload result encoded accepted
            | _ =>
                refine .inr ⟨?_, pinged⟩
                intro recovers
                cases answered.symm.trans recovers.2.2.1

end Calls

/-! ## Following the device -/

/-- A recovery outside `rx_start` re-configures the device while the cache says
that it is receiving. -/
def SilentlyReconfigures (world : World types) (turn : Turn types) : Prop :=
  world.inner.rxStarted = true ∧
    match turn.call with
    | .txWithTimeout data _ _ => TxRecovers protocol turn.environment world.start data
    | .keepaliveTick => TickRecovers protocol turn.environment world.start
    | _ => False

section Following

variable {protocol} {before after : World types}

theorem SameMode.follows_iff (same : SameMode protocol before after) :
    after.Follows protocol ↔ before.Follows protocol := by
  rw [World.Follows, World.Follows, same.1, same.2]

theorem Reconfigured.follows_iff (reconfigured : Reconfigured protocol before after) :
    after.Follows protocol ↔ before.inner.rxStarted = false := by
  rw [World.Follows, reconfigured.1, reconfigured.2]
  simp

theorem Settled.follows_rxStart (settled : Settled protocol after true .rxStart) :
    after.Follows protocol := by
  simp [World.Follows, settled.1, settled.2]

theorem Settled.follows_other {mode : ModeCommand} (settled : Settled protocol after false mode)
    (other : mode ≠ .rxStart) : after.Follows protocol := by
  rw [World.Follows, settled.1, settled.2]
  simp [other]

theorem StartOutcome.follows (outcome : StartOutcome protocol before after)
    (follows : before.Follows protocol) : after.Follows protocol := by
  rcases outcome with same | started | reconfigured
  · exact same.follows_iff.mpr follows
  · exact started.follows_rxStart
  · exact reconfigured.follows_other (by decide)

/-- A call breaks the correspondence exactly when it silently re-configures. -/
theorem executeCall_follows {world : World types} (turn : Turn types)
    (follows : world.Follows protocol) :
    (executeCall protocol turn.environment world.start turn.call).Follows protocol ↔
      ¬ SilentlyReconfigures protocol world turn := by
  have starts : world.start.Follows protocol := follows
  have started : world.start.inner.rxStarted = world.inner.rxStarted := rfl
  rcases turn with ⟨call, environment⟩
  cases call with
  | txWithTimeout data skipCad timeout =>
      rcases @txWithTimeout_mode _ protocol environment world.start data skipCad timeout with
        ⟨recovers, reconfigured⟩ | ⟨refused, same⟩
      · simp only [executeCall, reconfigured.follows_iff, SilentlyReconfigures, recovers,
          and_true, started, Bool.not_eq_true]
      · simp only [executeCall, same.follows_iff, starts, SilentlyReconfigures, refused,
          and_false, not_false_eq_true]
  | keepaliveTick =>
      rcases @keepaliveTick_mode _ protocol environment world.start with
        ⟨recovers, reconfigured⟩ | ⟨refused, same⟩
      · simp only [executeCall, reconfigured.follows_iff, SilentlyReconfigures, recovers,
          and_true, started, Bool.not_eq_true]
      · simp only [executeCall, same.follows_iff, starts, SilentlyReconfigures, refused,
          and_false, not_false_eq_true]
  | txWithRetry data policy =>
      simp only [SilentlyReconfigures, and_false, not_false_eq_true, iff_true]
      exact (txWithRetry_mode environment world.start data policy).follows_iff.mpr starts
  | rxStart =>
      simp only [SilentlyReconfigures, and_false, not_false_eq_true, iff_true]
      exact (rxStart_mode environment world.start).follows starts
  | rxStop =>
      simp only [SilentlyReconfigures, and_false, not_false_eq_true, iff_true]
      rcases @rxStop_mode _ protocol environment world.start with same | stopped
      · exact same.follows_iff.mpr starts
      · exact stopped.follows_other (by decide)
  | recv timeout =>
      simp only [SilentlyReconfigures, and_false, not_false_eq_true, iff_true]
      rw [executeCall, recv_world]
      exact (ensureReceiving_mode environment world.start).follows starts
  | nextRx =>
      simp only [SilentlyReconfigures, and_false, not_false_eq_true, iff_true]
      rw [executeCall, nextRx_world]
      exact (ensureReceiving_mode environment world.start).follows starts
  | setConfig modulation =>
      simp only [SilentlyReconfigures, and_false, not_false_eq_true, iff_true]
      rcases @setConfig_mode _ protocol environment world.start modulation with same | settled
      · exact same.follows_iff.mpr starts
      · exact settled.follows_other (by decide)
  | ping =>
      simp only [SilentlyReconfigures, and_false, not_false_eq_true, iff_true]
      exact (ping_mode environment world.start).follows_iff.mpr starts
  | close =>
      simp only [SilentlyReconfigures, and_false, not_false_eq_true, iff_true]
      exact (close_mode environment world.start).follows_iff.mpr starts
  | drainAsyncErrors | config =>
      simp only [SilentlyReconfigures, and_false, not_false_eq_true, iff_true]
      exact starts

def Call.startsReceiving : Call types → Bool
  | .rxStart | .recv _ | .nextRx => true
  | _ => false

/-- The first command of the call is an `RX_START`. -/
def SendsRxStart (protocol : Protocol types) (environment : Environment types)
    (world after : World types) : Prop :=
  ∃ newer, after.commands = newer ++
    ⟨⟨protocol.typeRxStart, []⟩, environment.reply world.issued⟩ :: world.commands

variable (environment : Environment types) {world : World types}

theorem rxStart_sends (opened : world.inner.closed = false)
    (unstarted : world.inner.rxStarted = false) :
    SendsRxStart protocol environment world
      (execute environment (rxStart protocol) world).2 := by
  have unstarted' : (world.marked environment).inner.rxStarted = false := unstarted
  rw [rxStart, execute_bind, execute_checkOpen]
  simp only [opened, Bool.false_eq_true, if_false, Program.andThen_some, execute_bind,
    execute_markWrite, execute_acquire, execute_loadRxStarted, unstarted',
    execute_session_rxStart]
  exact execute_extends environment ((world.marked environment).sent
    ⟨protocol.typeRxStart, []⟩ (environment.reply (world.marked environment).issued)) _

theorem ensureReceiving_sends (opened : world.inner.closed = false)
    (unstarted : world.inner.rxStarted = false) :
    SendsRxStart protocol environment world
      (execute environment (ensureReceiving protocol) world).2 := by
  rw [ensureReceiving_world, opened, unstarted]
  exact rxStart_sends environment opened unstarted

theorem executeCall_sends {call : Call types} (starting : call.startsReceiving = true)
    (opened : world.inner.closed = false) (unstarted : world.inner.rxStarted = false) :
    SendsRxStart protocol environment world.start
      (executeCall protocol environment world.start call) := by
  cases call with
  | rxStart => exact rxStart_sends environment opened unstarted
  | recv timeout =>
      rw [executeCall, recv_world]
      exact ensureReceiving_sends environment opened unstarted
  | nextRx =>
      rw [executeCall, nextRx_world]
      exact ensureReceiving_sends environment opened unstarted
  | _ => cases starting

end Following

/-- In every sequential run without silent re-configurations the cached receive
mode follows the device after every call, and a call that wants to receive sends
`RX_START` whenever a `SET_CONFIG` was accepted last. Every silent
re-configuration breaks the correspondence. -/
theorem rxStarted_follows_device (applied : Option (Modulation types)) (openedAt : Instant) :
    (∀ world, (machine protocol applied openedAt).ReachableBy
        (fun current turn => ¬ SilentlyReconfigures protocol current turn) world →
      world.Follows protocol ∧
      ∀ environment call, call.startsReceiving = true → world.inner.closed = false →
        world.lastMode protocol = some .setConfig →
        SendsRxStart protocol environment world.start
          (executeCall protocol environment world.start call)) ∧
    (∀ world turn next, (machine protocol applied openedAt).ReachableBy
        (fun current turn => ¬ SilentlyReconfigures protocol current turn) world →
      (machine protocol applied openedAt).step world turn = some next →
      SilentlyReconfigures protocol world turn → ¬ next.Follows protocol) := by
  have follows : ∀ world, (machine protocol applied openedAt).ReachableBy
      (fun current turn => ¬ SilentlyReconfigures protocol current turn) world →
      world.Follows protocol := by
    intro world reached
    apply reached.invariant
    · simp [World.Follows, World.lastMode, machine]
    · intro current turn next before permitted stepped
      cases stepped
      exact (executeCall_follows turn before).mpr permitted
  constructor
  · intro world reached
    refine ⟨follows world reached, ?_⟩
    intro environment call starting opened last
    apply executeCall_sends environment starting opened
    have cached := follows world reached
    rw [World.Follows, last] at cached
    simpa using cached
  · intro world turn next reached stepped silent still
    cases stepped
    exact (executeCall_follows turn (follows world reached)).mp still silent

def Environment.answering (replies : List (ClientResult (SessionResponse types))) :
    Environment types where
  reply n := replies.getD n (.error (.timeout "command"))
  clock _ := 0
  jitter _ upTo := ⟨0, Nat.zero_le upTo.toNat⟩
  received := none
  asyncErrors := []

def reconfiguredByUser : List (Turn WireTypes.sample) :=
  [⟨.rxStart, .answering [.ok .empty]⟩,
    ⟨.setConfig (.other ()), .answering [.ok (.setConfig ⟨(), (), .other ()⟩)]⟩]

theorem rxStarted_follows_device_reconfigured :
    ∃ world, (machine Protocol.sample (some (.other ())) 0).run
        (machine Protocol.sample (some (.other ())) 0).initial reconfiguredByUser =
          some world ∧
      world.lastMode Protocol.sample = some .setConfig ∧
      world.Follows Protocol.sample := by
  have permitted : (machine Protocol.sample (some (.other ())) 0).Allows
      (fun current turn => ¬ SilentlyReconfigures Protocol.sample current turn)
      (machine Protocol.sample (some (.other ())) 0).initial reconfiguredByUser :=
    And.intro (fun silent => silent.2) (And.intro (fun silent => silent.2) trivial)
  exact ⟨_, rfl, rfl,
    ((rxStarted_follows_device Protocol.sample (some (.other ())) 0).1 _
      (.run .initial permitted rfl)).1⟩

/-- Receiving is started; then a `TX` is answered `NotConfigured`, the recovery
re-applies the cached configuration and the second `TX` goes out. -/
def recoveredWhileReceiving : List (Turn WireTypes.sample) :=
  [⟨.rxStart, .answering [.ok .empty]⟩,
    ⟨.txWithTimeout [7] false (fromSecs 10),
      .answering [.ok (.err .notConfigured), .ok (.setConfig ⟨(), (), .other ()⟩),
        .ok (.txDone ⟨.transmitted, 9⟩)]⟩]

theorem recovery_leaves_rxStarted :
    ¬ ∀ world, (machine Protocol.sample (some (.other ())) 0).Reachable world →
      world.Follows Protocol.sample := by
  intro always
  have ran : ∃ world, (machine Protocol.sample (some (.other ())) 0).run
        (machine Protocol.sample (some (.other ())) 0).initial recoveredWhileReceiving =
          some world ∧
      world.inner.rxStarted = true ∧ world.lastMode Protocol.sample = some .setConfig :=
    ⟨_, rfl, rfl, rfl⟩
  rcases ran with ⟨world, ran, started, last⟩
  have follows := always world (.run .initial ran)
  rw [World.Follows, started, last] at follows
  simp at follows

end DongloraClient.Dongle
