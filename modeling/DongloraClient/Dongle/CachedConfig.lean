import DongloraClient.Connect.Handshake
import DongloraClient.Dongle.ReceiveMode

/-! # The cached configuration

`applied_config` is meant to be the configuration the device reported last. Every
path that has a `SET_CONFIG` accepted records what the device echoed, except the
recovery of the keepalive, which throws the answer away.
-/

namespace DongloraClient.Dongle

open Foundation Session Connect

variable {types : WireTypes} (protocol : Protocol types)

/-! ## The configuration reported last -/

def Command.reported (command : Command types) : Option (Modulation types) :=
  if command.request.typeId = protocol.typeSetConfig then
    match command.result with
    | .ok (.setConfig result) => some result.current
    | _ => none
  else none

def World.reported (world : World types) : Option (Modulation types) :=
  world.commands.findSome? (Command.reported protocol)

def World.Cached (world : World types) : Prop :=
  world.inner.appliedConfig = world.reported protocol

section Reports

variable {protocol} {world : World types} {payload : List UInt8}
  {result : ClientResult (SessionResponse types)}

theorem sent_reported (request : Request) :
    (world.sent request result).reported protocol =
      (Command.reported protocol ⟨request, result⟩).or (world.reported protocol) := by
  simp only [World.reported, World.sent, List.findSome?_cons]
  cases Command.reported protocol ⟨request, result⟩ <;> rfl

theorem sent_other_reported {request : Request}
    (other : request.typeId ≠ protocol.typeSetConfig) :
    (world.sent request result).reported protocol = world.reported protocol := by
  rw [sent_reported, Command.reported, if_neg other]
  rfl

theorem reported_setConfig :
    Command.reported protocol ⟨⟨protocol.typeSetConfig, payload⟩, result⟩ =
      match setConfigResult protocol result with
      | .ok reported => some reported.current
      | .error _ => none := by
  rw [Command.reported, if_pos rfl]
  cases result with
  | error error => rfl
  | ok response => cases response <;> rfl

theorem sent_accepted_reported {accepted : SetConfigResult types}
    (answered : setConfigResult protocol result = .ok accepted) :
    (world.sent ⟨protocol.typeSetConfig, payload⟩ result).reported protocol =
      some accepted.current := by
  rw [sent_reported, reported_setConfig, answered]
  rfl

theorem sent_refused_reported {error : ClientError}
    (answered : setConfigResult protocol result = .error error) :
    (world.sent ⟨protocol.typeSetConfig, payload⟩ result).reported protocol =
      world.reported protocol := by
  rw [sent_reported, reported_setConfig, answered]
  rfl

theorem commandTypes_ne_setConfig :
    protocol.typePing ≠ protocol.typeSetConfig ∧ protocol.typeTx ≠ protocol.typeSetConfig ∧
    protocol.typeRxStart ≠ protocol.typeSetConfig ∧
    protocol.typeRxStop ≠ protocol.typeSetConfig ∧
    protocol.typeGetInfo ≠ protocol.typeSetConfig := by
  have distinct := protocol.commandTypes_nodup
  simp only [List.nodup_cons, List.mem_cons, not_or] at distinct
  rcases distinct with ⟨ping, getInfo, setConfig, _⟩
  exact ⟨ping.2.1, Ne.symm setConfig.1, Ne.symm setConfig.2.1, Ne.symm setConfig.2.2.1,
    getInfo.1⟩

end Reports

/-! ## Operations that keep the cache true -/

/-- Executed where the cache is true, the operation leaves it true, whether it
returns or panics. -/
def Keeps {Result : Type} (operation : Operation types Result) : Prop :=
  ∀ environment world, world.Cached protocol →
    (execute environment operation world).2.Cached protocol

def Effect.leavesConfig : Effect types → Bool
  | .store .appliedConfig _ => false
  | .sendCommand _ _ => false
  | _ => true

section Rules

variable {protocol} {First Second : Type}

theorem Keeps.bind {operation : Operation types First}
    {next : First → Operation types Second} (first : Keeps protocol operation)
    (second : ∀ value, Keeps protocol (next value)) :
    Keeps protocol (operation >>= next) := by
  intro environment world
  apply @Program.run_bind_relates _ _ _ (handler environment)
    (fun before after => before.Cached protocol → after.Cached protocol)
  · intro before middle after firstKept secondKept cached
    exact secondKept (firstKept cached)
  · exact first environment world
  · exact fun value reached => second value environment reached

theorem keeps_done (value : First) : Keeps protocol (.done value) :=
  fun _ _ cached => cached

theorem handler_keeps {environment : Environment types} {world reached : World types}
    {effect : Effect types} {answer : Answer effect}
    (leaves : Effect.leavesConfig effect = true)
    (handled : handler environment effect world = some (answer, reached))
    (cached : world.Cached protocol) : reached.Cached protocol := by
  cases effect with
  | store cell value =>
      cases handled
      cases cell with
      | appliedConfig => cases leaves
      | _ => exact cached
  | sendCommand => cases leaves
  | panic => cases handled
  | _ =>
      cases handled
      exact cached

theorem keeps_perform {effect : Effect types} (leaves : Effect.leavesConfig effect = true)
    {next : Answer effect → Operation types First}
    (rest : ∀ answer, Keeps protocol (next answer)) :
    Keeps protocol (.perform effect next) := by
  intro environment world
  apply @Program.run_perform_relates _ _ _ (handler environment)
    (fun before after => before.Cached protocol → after.Cached protocol)
  · exact id
  · intro answer reached handled cached
    exact rest answer environment reached (handler_keeps leaves handled cached)

theorem keeps_effect {effect : Effect types} (leaves : Effect.leavesConfig effect = true) :
    Keeps protocol (.perform effect .done) :=
  keeps_perform leaves keeps_done

theorem keeps_command {typeId : UInt8} (other : typeId ≠ protocol.typeSetConfig)
    (payload : List UInt8) (timeout : Duration) :
    Keeps protocol (sendCommand typeId payload timeout) := by
  intro environment world cached
  rw [execute_sendCommand]
  exact cached.trans (sent_other_reported other).symm

theorem keeps_setConfig {config : Modulation types} {timeout : Duration}
    {next : ClientResult (SetConfigResult types) → Operation types First}
    (failed : ∀ error, Keeps protocol (next (.error error)))
    (stored : ∀ result, ∃ rest : Operation types First, Keeps protocol rest ∧
      next (.ok result) = write .appliedConfig (some result.current) >>= fun _ => rest) :
    Keeps protocol (Session.setConfig protocol config timeout >>= next) := by
  intro environment world cached
  rw [execute_bind, execute_session_setConfig]
  cases protocol.encodeSetConfig config with
  | error reason => exact failed _ environment world cached
  | ok payload =>
      simp only [Program.andThen_some]
      cases answered : setConfigResult protocol (environment.reply world.issued) with
      | error error =>
          apply failed
          exact cached.trans (sent_refused_reported answered).symm
      | ok result =>
          rcases stored result with ⟨rest, keeps, same⟩
          rw [same, execute_bind, execute_write, Program.andThen_some]
          apply keeps
          exact (sent_accepted_reported answered).symm

end Rules

/-! ## The operations -/

section Operations

variable {protocol}

theorem keeps_read (cell : Cell) : Keeps protocol (read cell) :=
  (keeps_effect rfl).bind fun _ => (keeps_effect rfl).bind fun _ =>
    (keeps_effect rfl).bind fun _ => keeps_done _

theorem keeps_write_rxStarted (value : Bool) : Keeps protocol (write .rxStarted value) :=
  (keeps_effect rfl).bind fun _ => (keeps_effect rfl).bind fun _ =>
    keeps_effect rfl

theorem keeps_markWrite : Keeps protocol (markWrite : Operation types Unit) :=
  (keeps_effect rfl).bind fun _ => (keeps_effect rfl).bind fun _ =>
    (keeps_effect rfl).bind fun _ => keeps_effect rfl

theorem keeps_checkOpen : Keeps protocol (checkOpen : Operation types (ClientResult Unit)) := by
  apply (keeps_read .closed).bind
  intro closed
  cases closed <;> exact keeps_done _

theorem keeps_ifOpen {Result : Type} {next : ClientResult Unit → Operation types Result}
    (refused : ∀ error, Keeps protocol (next (.error error)))
    (opened : Keeps protocol (next (.ok ()))) :
    Keeps protocol (checkOpen >>= next) := by
  apply keeps_checkOpen.bind
  intro result
  cases result with
  | error error => exact refused error
  | ok _ => exact opened

theorem keeps_session_ping (timeout : Duration) :
    Keeps protocol (Session.ping protocol timeout) :=
  (keeps_command commandTypes_ne_setConfig.1 _ _).bind fun _ => keeps_done _

theorem keeps_session_rxStart (timeout : Duration) :
    Keeps protocol (Session.rxStart protocol timeout) :=
  (keeps_command commandTypes_ne_setConfig.2.2.1 _ _).bind fun _ => keeps_done _

theorem keeps_session_rxStop (timeout : Duration) :
    Keeps protocol (Session.rxStop protocol timeout) :=
  (keeps_command commandTypes_ne_setConfig.2.2.2.1 _ _).bind fun _ => keeps_done _

theorem keeps_session_transmit (data : List UInt8) (skipCad : Bool) (timeout : Duration) :
    Keeps protocol (Session.transmit protocol data skipCad timeout) := by
  rw [Session.transmit]
  split
  · exact keeps_done _
  · split
    · apply keeps_perform rfl
      intro answer
      cases answer
    · exact (keeps_command commandTypes_ne_setConfig.2.1 _ _).bind fun _ => keeps_done _

theorem keeps_reapplyConfig : Keeps protocol (reapplyConfig protocol) := by
  apply (keeps_read .appliedConfig).bind
  intro cached
  cases cached with
  | none => exact keeps_done _
  | some config =>
      apply keeps_setConfig
      · intro error
        exact keeps_done _
      · intro result
        exact ⟨_, keeps_done _, rfl⟩

theorem keeps_txWithTimeout (data : List UInt8) (skipCad : Bool) (timeout : Duration) :
    Keeps protocol (txWithTimeout protocol data skipCad timeout) := by
  apply keeps_ifOpen
  · intro error
    exact keeps_done _
  · apply keeps_markWrite.bind
    intro _
    apply (keeps_session_transmit data skipCad timeout).bind
    intro result
    split
    · apply keeps_reapplyConfig.bind
      intro recovered
      cases recovered with
      | error error => exact keeps_done _
      | ok _ => exact keeps_session_transmit data skipCad timeout
    · exact keeps_done _

theorem keeps_jitterMs (policy : RetryPolicy) :
    Keeps protocol (policy.jitterMs : Operation types UInt32) := by
  rw [RetryPolicy.jitterMs]
  split
  · exact keeps_done _
  · exact keeps_perform rfl fun _ => keeps_done _

theorem keeps_txAttempts (data : List UInt8) (policy : RetryPolicy) (numbers : List UInt8)
    (attempts : List TxAttempt) (delayMs : UInt32) :
    Keeps protocol (txAttempts protocol data policy numbers attempts delayMs) := by
  induction numbers generalizing attempts delayMs with
  | nil => exact keeps_done _
  | cons number later induction =>
      apply keeps_markWrite.bind
      intro _
      apply (keeps_effect rfl).bind
      intro started
      apply (keeps_session_transmit data _ _).bind
      intro result
      apply (keeps_effect rfl).bind
      intro finished
      cases result with
      | ok done => exact keeps_done _
      | error error =>
          simp only
          split
          · exact keeps_done _
          · apply (keeps_jitterMs policy).bind
            intro jitter
            apply (keeps_effect rfl).bind
            intro _
            exact induction _ _

theorem keeps_txWithRetry (data : List UInt8) (policy : RetryPolicy) :
    Keeps protocol (txWithRetry protocol data policy) :=
  keeps_ifOpen (fun _ => keeps_done _) (keeps_txAttempts data policy _ _ _)

theorem keeps_rxStart : Keeps protocol (rxStart protocol) := by
  apply keeps_ifOpen
  · intro error
    exact keeps_done _
  · apply keeps_markWrite.bind
    intro _
    apply (keeps_effect rfl).bind
    intro _
    apply (keeps_effect rfl).bind
    intro started
    cases started with
    | true => exact (keeps_effect rfl).bind fun _ => keeps_done _
    | false =>
        apply (keeps_session_rxStart _).bind
        intro result
        split
        · apply (keeps_effect rfl).bind
          intro _
          apply keeps_reapplyConfig.bind
          intro recovered
          cases recovered with
          | error error => exact keeps_done _
          | ok _ =>
              apply (keeps_session_rxStart _).bind
              intro again
              cases again with
              | error error => exact keeps_done _
              | ok _ => exact (keeps_write_rxStarted true).bind fun _ => keeps_done _
        · exact (keeps_effect rfl).bind fun _ => keeps_done _
        · exact (keeps_effect rfl).bind fun _ =>
            (keeps_effect rfl).bind fun _ => keeps_done _

theorem keeps_rxStop : Keeps protocol (rxStop protocol) := by
  apply keeps_ifOpen
  · intro error
    exact keeps_done _
  · apply keeps_markWrite.bind
    intro _
    apply (keeps_session_rxStop _).bind
    intro result
    cases result with
    | error error => exact keeps_done _
    | ok _ => exact (keeps_write_rxStarted false).bind fun _ => keeps_done _

theorem keeps_ensureReceiving : Keeps protocol (ensureReceiving protocol) := by
  apply keeps_ifOpen
  · intro error
    exact keeps_done _
  · apply (keeps_read .rxStarted).bind
    intro started
    cases started with
    | true => exact keeps_done _
    | false =>
        apply keeps_rxStart.bind
        intro result
        cases result <;> exact keeps_done _

theorem keeps_recv (timeout : Duration) : Keeps protocol (recv protocol timeout) := by
  apply keeps_ensureReceiving.bind
  intro receiving
  cases receiving with
  | true => exact keeps_effect rfl
  | false => exact keeps_done _

theorem keeps_nextRx : Keeps protocol (nextRx protocol) := by
  apply keeps_ensureReceiving.bind
  intro receiving
  cases receiving with
  | true => exact keeps_effect rfl
  | false => exact keeps_done _

theorem keeps_dongle_setConfig (modulation : Modulation types) :
    Keeps protocol (setConfig protocol modulation) := by
  apply keeps_ifOpen
  · intro error
    exact keeps_done _
  · apply keeps_markWrite.bind
    intro _
    apply keeps_setConfig
    · intro error
      exact keeps_done _
    · intro result
      exact ⟨_, (keeps_write_rxStarted false).bind fun _ => keeps_done _, rfl⟩

theorem keeps_dongle_ping : Keeps protocol (ping protocol) := by
  apply keeps_ifOpen
  · intro error
    exact keeps_done _
  · exact keeps_markWrite.bind fun _ => keeps_session_ping _

theorem keeps_close : Keeps protocol (close : Operation types Unit) := by
  apply (keeps_effect rfl).bind
  intro _
  apply (keeps_effect rfl).bind
  intro closed
  cases closed with
  | true => exact keeps_effect rfl
  | false =>
      exact (keeps_effect rfl).bind fun _ => (keeps_effect rfl).bind fun _ =>
        (keeps_effect rfl).bind fun _ => keeps_effect rfl

end Operations

/-! ## The keepalive -/

/-- The keepalive runs into its recovery, and the device accepts the cached
configuration as another one. -/
def TickDiverges (environment : Environment types) (world : World types) : Prop :=
  world.inner.closed = false ∧
    keepaliveInterval ≤ environment.clock world.readings - world.inner.lastWriteAt ∧
    emptyResult protocol "PING" (environment.reply world.issued) = .error .notConfigured ∧
    ∃ config payload result, world.inner.appliedConfig = some config ∧
      protocol.encodeSetConfig config = .ok payload ∧
      setConfigResult protocol (environment.reply (world.issued + 1)) = .ok result ∧
      result.current ≠ config

section Keepalive

variable {protocol} {environment : Environment types} {world : World types}

theorem recovery_cached_iff {config : Modulation types}
    (cached : world.Cached protocol) (applied : world.inner.appliedConfig = some config)
    {next : ClientResult (SetConfigResult types) → Operation types Bool}
    (keeps : ∀ result, Keeps protocol (next result))
    (stays : ∀ result world, (execute environment (next result) world).2.inner.appliedConfig =
      world.inner.appliedConfig ∧
      (execute environment (next result) world).2.commands = world.commands) :
    (execute environment (Session.setConfig protocol config (fromSecs 2) >>= next)
        world).2.Cached protocol ↔
      ¬ ∃ payload result, protocol.encodeSetConfig config = .ok payload ∧
        setConfigResult protocol (environment.reply world.issued) = .ok result ∧
        result.current ≠ config := by
  rw [execute_bind, execute_session_setConfig]
  cases protocol.encodeSetConfig config with
  | error reason =>
      refine iff_of_true (keeps _ environment world cached) ?_
      rintro ⟨payload, result, impossible, _⟩
      cases impossible
  | ok payload =>
      simp only [Program.andThen_some]
      cases answered : setConfigResult protocol (environment.reply world.issued) with
      | error error =>
          refine iff_of_true (keeps _ environment _ ?_) ?_
          · exact cached.trans (sent_refused_reported answered).symm
          · rintro ⟨_, result, _, impossible, _⟩
            cases impossible
      | ok result =>
          have after := stays (.ok result)
            (world.sent ⟨protocol.typeSetConfig, payload⟩ (environment.reply world.issued))
          rw [World.Cached, World.reported, after.1, after.2]
          have reported := @sent_accepted_reported _ protocol world payload _ _ answered
          rw [World.reported] at reported
          rw [reported]
          change world.inner.appliedConfig = some result.current ↔ _
          rw [applied, Option.some.injEq]
          constructor
          · rintro same ⟨_, _, _, accepted, differs⟩
            cases accepted
            exact differs same.symm
          · intro agrees
            by_contra differs
            exact agrees ⟨payload, result, rfl, rfl, fun same => differs same.symm⟩

/-- A tick keeps the cache true unless its recovery diverges. -/
theorem keepaliveTick_cached_iff (cached : world.Cached protocol) :
    (execute environment (keepaliveTick protocol) world).2.Cached protocol ↔
      ¬ TickDiverges protocol environment world := by
  rw [keepaliveTick]
  simp only [execute_bind, execute_sleep, execute_readClosed, Program.andThen_some]
  cases closed : world.inner.closed with
  | true => exact iff_of_true cached (by simp [TickDiverges, closed])
  | false =>
      simp only [Bool.false_eq_true, if_false, execute_bind, execute_readLastWriteAt,
        execute_now, Program.andThen_some]
      by_cases recent :
          environment.clock world.readings - world.inner.lastWriteAt < keepaliveInterval
      · rw [if_pos recent]
        refine iff_of_true cached ?_
        intro diverges
        exact Nat.not_le_of_lt recent diverges.2.1
      · rw [if_neg recent]
        simp only [execute_bind, execute_session_ping, Program.andThen_some]
        have pinged : (world.tick.sent ⟨protocol.typePing, []⟩
            (environment.reply world.tick.issued)).Cached protocol :=
          cached.trans (sent_other_reported commandTypes_ne_setConfig.1).symm
        cases answered : emptyResult protocol "PING" (environment.reply world.tick.issued) with
        | ok _ =>
            refine iff_of_true pinged ?_
            intro diverges
            cases answered.symm.trans diverges.2.2.1
        | error error =>
            cases error with
            | notConfigured =>
                simp only [execute_bind, execute_readAppliedConfig, Program.andThen_some]
                cases applied : (world.tick.sent ⟨protocol.typePing, []⟩
                    (environment.reply world.tick.issued)).inner.appliedConfig with
                | none =>
                    refine iff_of_true pinged ?_
                    rintro ⟨_, _, _, config, payload, result, present, _⟩
                    cases applied.symm.trans present
                | some config =>
                    refine (recovery_cached_iff pinged applied ?_ ?_).trans ?_
                    · intro result
                      cases result with
                      | ok _ => exact keeps_markWrite.bind fun _ => keeps_done _
                      | error _ => exact keeps_done _
                    · intro result reached
                      cases result <;> exact ⟨rfl, rfl⟩
                    · apply not_congr
                      constructor
                      · rintro ⟨payload, result, encoded, accepted, differs⟩
                        exact ⟨closed, Nat.le_of_not_lt recent, answered, config, payload,
                          result, applied, encoded, accepted, differs⟩
                      · rintro ⟨_, _, _, other, payload, result, present, encoded, accepted,
                          differs⟩
                        cases applied.symm.trans present
                        exact ⟨payload, result, encoded, accepted, differs⟩
            | _ =>
                refine iff_of_true pinged ?_
                intro diverges
                cases answered.symm.trans diverges.2.2.1

end Keepalive

/-! ## Dongles built by `finalize` -/

def World.spawned : World types := ⟨⟨none, false, 0, false⟩, [], 0, 0, 0⟩

/-- `Dongle::new` on the session that `finalize` has used. -/
def World.built (world : World types) (established : Handshake.Established types)
    (openedAt : Instant) : World types :=
  { world with inner := ⟨established.applied, false, openedAt, false⟩ }

def machineFrom (initial : World types) : Machine (World types) (Turn types) :=
  { machine protocol none 0 with initial := initial }

def Diverges (world : World types) (turn : Turn types) : Prop :=
  turn.call = .keepaliveTick ∧ TickDiverges protocol turn.environment world.start

section Built

variable {protocol} {debugBandwidth : types.LoRaBandwidth → String} {build : Build}
  {environment : Environment types} {world : World types}

theorem execute_session_getInfo (timeout : Duration) :
    execute environment (Session.getInfo protocol timeout) world =
      (some (infoResult protocol (environment.reply world.issued)),
        world.sent ⟨protocol.typeGetInfo, []⟩ (environment.reply world.issued)) := rfl

theorem autoConfigure_reported {info : Info} {options : ConnectOptions types}
    {timeout : Duration} {applied : Option (Modulation types)} {reached : World types}
    (fresh : world.reported protocol = none)
    (executed : execute environment
      (Handshake.autoConfigure protocol debugBandwidth build info options timeout) world =
        (some (.ok applied), reached)) :
    applied = reached.reported protocol := by
  rw [Handshake.autoConfigure] at executed
  split at executed
  · split at executed
    · rw [execute_bind, Handshake.prepare] at executed
      split at executed
      · cases executed
      · next prepared _ =>
        simp only [Program.pure_eq, execute_done, Program.andThen_some] at executed
        cases prepared with
        | error error => cases executed
        | ok config =>
            simp only [execute_bind, execute_session_setConfig] at executed
            cases encoded : protocol.encodeSetConfig config with
            | error reason =>
                rw [encoded] at executed
                cases executed
            | ok payload =>
                simp only [encoded, Program.andThen_some] at executed
                cases answered : setConfigResult protocol (environment.reply world.issued) with
                | error error =>
                    rw [answered] at executed
                    cases executed
                | ok result =>
                    rw [answered] at executed
                    cases executed
                    exact (sent_accepted_reported answered).symm
    · cases executed
      exact fresh.symm
  · cases executed
    exact fresh.symm

theorem finalize_reported {kind : TransportKind} {options : ConnectOptions types}
    {timeout : Duration} {established : Handshake.Established types} {reached : World types}
    (fresh : world.reported protocol = none)
    (executed : execute environment
      (Handshake.finalize protocol debugBandwidth build kind options timeout) world =
        (some (.ok established), reached)) :
    established.applied = reached.reported protocol := by
  rw [Handshake.finalize, execute_bind, execute_session_ping, Program.andThen_some] at executed
  cases pinged : emptyResult protocol "PING" (environment.reply world.issued) with
  | error error =>
      rw [pinged] at executed
      cases executed
  | ok _ =>
      simp only [pinged] at executed
      rw [execute_bind, execute_session_getInfo, Program.andThen_some] at executed
      cases informed : infoResult protocol (environment.reply
          (world.sent ⟨protocol.typePing, []⟩ (environment.reply world.issued)).issued) with
      | error error =>
          rw [informed] at executed
          cases executed
      | ok info =>
          simp only [informed] at executed
          rw [execute_bind] at executed
          rcases Program.andThen_eq_some executed with ⟨result, after, configured, returned⟩
          cases result with
          | error error => cases returned
          | ok applied =>
              cases returned
              apply autoConfigure_reported _ configured
              rw [sent_other_reported commandTypes_ne_setConfig.2.2.2.2,
                sent_other_reported commandTypes_ne_setConfig.1, fresh]

theorem executeCall_cached_iff (turn : Turn types) (cached : world.Cached protocol) :
    (executeCall protocol turn.environment world.start turn.call).Cached protocol ↔
      ¬ Diverges protocol world turn := by
  rcases turn with ⟨call, environment⟩
  have started : world.start.Cached protocol := cached
  cases call with
  | keepaliveTick =>
      refine (keepaliveTick_cached_iff started).trans (not_congr ?_)
      exact ⟨fun diverges => ⟨rfl, diverges⟩, fun diverges => diverges.2⟩
  | txWithTimeout data skipCad timeout =>
      exact iff_of_true (keeps_txWithTimeout data skipCad timeout _ _ started) (by simp [Diverges])
  | txWithRetry data policy =>
      exact iff_of_true (keeps_txWithRetry data policy _ _ started) (by simp [Diverges])
  | rxStart => exact iff_of_true (keeps_rxStart _ _ started) (by simp [Diverges])
  | rxStop => exact iff_of_true (keeps_rxStop _ _ started) (by simp [Diverges])
  | recv timeout => exact iff_of_true (keeps_recv timeout _ _ started) (by simp [Diverges])
  | nextRx => exact iff_of_true (keeps_nextRx _ _ started) (by simp [Diverges])
  | setConfig modulation =>
      exact iff_of_true (keeps_dongle_setConfig modulation _ _ started) (by simp [Diverges])
  | ping => exact iff_of_true (keeps_dongle_ping _ _ started) (by simp [Diverges])
  | drainAsyncErrors => exact iff_of_true (keeps_effect rfl _ _ started) (by simp [Diverges])
  | config => exact iff_of_true (keeps_read _ _ _ started) (by simp [Diverges])
  | close => exact iff_of_true (keeps_close _ _ started) (by simp [Diverges])

theorem built_cached {established : Handshake.Established types} {openedAt : Instant}
    {state : World types} (initially : (world.built established openedAt).Cached protocol)
    (reached : (machineFrom protocol (world.built established openedAt)).ReachableBy
      (fun current turn => ¬ Diverges protocol current turn) state) :
    state.Cached protocol := by
  apply reached.invariant initially
  intro current turn next cached permitted stepped
  cases stepped
  exact (executeCall_cached_iff turn cached).mpr permitted

end Built

/-- In every run of a dongle that `finalize` built, `config()` is what the device
reported last, as long as no keepalive tick diverges; every tick that does makes
`config()` wrong. -/
theorem config_is_reported (debugBandwidth : types.LoRaBandwidth → String) (build : Build)
    (connecting : Environment types) (kind : TransportKind) (options : ConnectOptions types)
    (timeout : Duration) (openedAt : Instant) (established : Handshake.Established types)
    (world : World types)
    (finalized : execute connecting
      (Handshake.finalize protocol debugBandwidth build kind options timeout) .spawned =
        (some (.ok established), world)) :
    (∀ state, (machineFrom protocol (world.built established openedAt)).ReachableBy
        (fun current turn => ¬ Diverges protocol current turn) state →
      ∀ environment, (execute environment config state).1 = some (state.reported protocol)) ∧
    (∀ state turn next, (machineFrom protocol (world.built established openedAt)).ReachableBy
        (fun current turn => ¬ Diverges protocol current turn) state →
      (machineFrom protocol (world.built established openedAt)).step state turn = some next →
      Diverges protocol state turn →
      ∀ environment, (execute environment config next).1 ≠ some (next.reported protocol)) := by
  have reports : established.applied = world.reported protocol := finalize_reported rfl finalized
  have initially : (world.built established openedAt).Cached protocol := reports
  constructor
  · intro state reached environment
    exact congrArg some (built_cached initially reached)
  · intro state turn next reached stepped diverges environment same
    cases stepped
    exact (executeCall_cached_iff turn (built_cached initially reached)).mp
      (Option.some.inj same) diverges

def Environment.idle (replies : List (ClientResult (SessionResponse types))) :
    Environment types :=
  { Environment.answering replies with clock := fun _ => fromSecs 1 }

def configuredHandshake : Environment WireTypes.sample :=
  .answering [.ok .empty, .ok (.info sampleInfo), .ok (.setConfig ⟨(), (), .other ()⟩)]

def configuringOptions : ConnectOptions WireTypes.sample where
  port := some "/dev/ttyACM0"
  timeout := none
  config := some (.other ())
  autoConfigure := true
  keepalive := true

def configuredDongle : Handshake.Established WireTypes.sample :=
  ⟨sampleInfo, .serial "/dev/ttyACM0", some (.other ()), true⟩

def configuredSession : World WireTypes.sample :=
  (execute configuredHandshake (Handshake.finalize Protocol.sample (fun _ => "BW") .checked
    (.serial "/dev/ttyACM0") configuringOptions (fromSecs 2)) .spawned).2

theorem configuredSession_finalized :
    execute configuredHandshake (Handshake.finalize Protocol.sample (fun _ => "BW") .checked
      (.serial "/dev/ttyACM0") configuringOptions (fromSecs 2)) .spawned =
        (some (.ok configuredDongle), configuredSession) := rfl

def recoveredByKeepalive (current : Modulation WireTypes.sample) : Turn WireTypes.sample :=
  ⟨.keepaliveTick,
    .idle [.ok (.err .notConfigured), .ok (.setConfig ⟨(), (), current⟩)]⟩

theorem config_is_reported_echoed :
    ∃ state, (machineFrom Protocol.sample (configuredSession.built configuredDongle 0)).run
        (configuredSession.built configuredDongle 0) [recoveredByKeepalive (.other ())] =
          some state ∧
      (execute (.answering []) config state).1 = some (state.reported Protocol.sample) := by
  have permitted : ¬ Diverges Protocol.sample (configuredSession.built configuredDongle 0)
      (recoveredByKeepalive (.other ())) := by
    rintro ⟨_, _, _, _, config, payload, result, _, _, accepted, differs⟩
    cases accepted
    cases config with
    | other _ => exact differs rfl
    | loRa _ => simp_all [World.built, World.start, configuredDongle]
  exact ⟨_, rfl, (config_is_reported Protocol.sample (fun _ => "BW") .checked
    configuredHandshake (.serial "/dev/ttyACM0") configuringOptions (fromSecs 2) 0
    configuredDongle configuredSession configuredSession_finalized).1 _
      (.step .initial permitted rfl) (.answering [])⟩

/-- The device accepts the recovery's configuration as another one, and `config()`
still returns the one that was sent. -/
theorem keepalive_recovery_leaves_config :
    execute configuredHandshake (Handshake.finalize Protocol.sample (fun _ => "BW") .checked
      (.serial "/dev/ttyACM0") configuringOptions (fromSecs 2)) .spawned =
        (some (.ok configuredDongle), configuredSession) ∧
    ¬ ∀ state, (machineFrom Protocol.sample
        (configuredSession.built configuredDongle 0)).Reachable state →
      ∀ environment, (execute environment config state).1 =
        some (state.reported Protocol.sample) := by
  refine ⟨configuredSession_finalized, ?_⟩
  intro always
  have ran : ∃ state, (machineFrom Protocol.sample
        (configuredSession.built configuredDongle 0)).run
          (configuredSession.built configuredDongle 0)
          [recoveredByKeepalive (.loRa (sampleConfig 7))] = some state ∧
      (execute (.answering []) config state).1 = some (some (.other ())) ∧
      state.reported Protocol.sample = some (.loRa (sampleConfig 7)) :=
    ⟨_, rfl, rfl, rfl⟩
  rcases ran with ⟨state, ran, cached, reported⟩
  have follows := always state (.run .initial ran) (.answering [])
  rw [cached, reported] at follows
  cases follows

end DongloraClient.Dongle
