import DongloraClient.Dongle.CachedConfig

/-! # Bounded recovery and failed calls

A command answered `NotConfigured` is recovered from at most once: the cached
configuration is sent again and then the command. A call that fails leaves
`rx_started` as it was, and `applied_config` too unless the device accepted a
configuration meanwhile.
-/

namespace DongloraClient.Dongle

open Foundation Session

variable {types : WireTypes} (protocol : Protocol types)

/-! ## What a failed call leaves -/

/-- `rx_started` is as before, and `applied_config` is as before or what the device
reported since. -/
structure Intact (before after : World types) : Prop where
  rxStarted : after.inner.rxStarted = before.inner.rxStarted
  appliedConfig : ∃ newer, after.commands = newer ++ before.commands ∧
    (after.inner.appliedConfig = before.inner.appliedConfig ∨
      ∃ command ∈ newer, ∃ current, command.reported protocol = some current ∧
        after.inner.appliedConfig = some current)

def LeavesIntact {Result : Type} (operation : Operation types Result) : Prop :=
  ∀ environment world, Intact protocol world (execute environment operation world).2

def FailsIntact {Value : Type} (operation : Operation types (ClientResult Value)) : Prop :=
  ∀ environment world error, (execute environment operation world).1 = some (.error error) →
    Intact protocol world (execute environment operation world).2

section Rules

variable {protocol} {First Second Value : Type}

theorem Intact.unchanged {before after : World types} (inner : after.inner = before.inner)
    (commands : after.commands = before.commands) : Intact protocol before after where
  rxStarted := congrArg Inner.rxStarted inner
  appliedConfig := ⟨[], commands, .inl (congrArg Inner.appliedConfig inner)⟩

theorem Intact.trans {before middle after : World types} (first : Intact protocol before middle)
    (second : Intact protocol middle after) : Intact protocol before after := by
  rcases first with ⟨started, newer, extended, applied⟩
  rcases second with ⟨startedAfter, newest, extendedAfter, appliedAfter⟩
  refine ⟨startedAfter.trans started, newest ++ newer, ?_, ?_⟩
  · rw [extendedAfter, extended, List.append_assoc]
  · rcases appliedAfter with same | ⟨command, member, current, reported, stored⟩
    · rw [same]
      rcases applied with same | ⟨command, member, current, reported, stored⟩
      · exact .inl same
      · exact .inr ⟨command, List.mem_append_right _ member, current, reported, stored⟩
    · exact .inr ⟨command, List.mem_append_left _ member, current, reported, stored⟩

def Effect.leavesCaches : Effect types → Bool
  | .store .appliedConfig _ => false
  | .store .rxStarted _ => false
  | _ => true

theorem handler_intact {environment : Environment types} {world reached : World types}
    {effect : Effect types} {answer : Answer effect}
    (leaves : Effect.leavesCaches effect = true)
    (handled : handler environment effect world = some (answer, reached)) :
    Intact protocol world reached := by
  cases effect with
  | store cell value =>
      cases handled
      cases cell with
      | appliedConfig | rxStarted => cases leaves
      | lastWriteAt | closed => exact ⟨rfl, [], rfl, .inl rfl⟩
  | sendCommand request timeout =>
      cases handled
      exact ⟨rfl, [_], rfl, .inl rfl⟩
  | panic => cases handled
  | _ =>
      cases handled
      exact .unchanged rfl rfl

namespace LeavesIntact

theorem done (value : First) : LeavesIntact protocol (.done value) :=
  fun _ _ => .unchanged rfl rfl

theorem bind {operation : Operation types First} {next : First → Operation types Second}
    (first : LeavesIntact protocol operation)
    (second : ∀ value, LeavesIntact protocol (next value)) :
    LeavesIntact protocol (operation >>= next) := by
  intro environment world
  apply Program.run_bind_relates
  · exact fun _ _ _ => Intact.trans
  · exact first environment world
  · exact fun value reached => second value environment reached

theorem perform {effect : Effect types} (leaves : Effect.leavesCaches effect = true)
    {next : Answer effect → Operation types First}
    (rest : ∀ answer, LeavesIntact protocol (next answer)) :
    LeavesIntact protocol (.perform effect next) := by
  intro environment world
  apply Program.run_perform_relates
  · exact .unchanged rfl rfl
  · intro answer reached handled
    exact (handler_intact leaves handled).trans (rest answer environment reached)

theorem effect {effect : Effect types} (leaves : Effect.leavesCaches effect = true) :
    LeavesIntact protocol (.perform effect .done) :=
  perform leaves done

theorem failsIntact {operation : Operation types (ClientResult Value)}
    (leaves : LeavesIntact protocol operation) : FailsIntact protocol operation :=
  fun environment world _ _ => leaves environment world

end LeavesIntact

namespace FailsIntact

theorem bind {operation : Operation types First}
    {next : First → Operation types (ClientResult Value)}
    (first : LeavesIntact protocol operation)
    (second : ∀ value, FailsIntact protocol (next value)) :
    FailsIntact protocol (operation >>= next) := by
  intro environment world error failed
  have left := first environment world
  rw [execute_bind] at failed ⊢
  rcases executed : execute environment operation world with ⟨value, reached⟩
  rw [executed] at left failed
  cases value with
  | none => cases failed
  | some value => exact left.trans (second value environment reached error failed)

theorem of_ok {operation : Operation types (ClientResult Value)}
    (succeeds : ∀ environment world,
      ∃ value, (execute environment operation world).1 = some (.ok value)) :
    FailsIntact protocol operation := by
  intro environment world error failed
  rcases succeeds environment world with ⟨value, returned⟩
  rw [returned] at failed
  cases failed

end FailsIntact

end Rules

/-! ## Re-applying the configuration -/

section Reapply

variable {protocol} (environment : Environment types) (world : World types)

theorem execute_reapplyConfig :
    execute environment (reapplyConfig protocol) world =
      match world.inner.appliedConfig with
      | none => (some (.error .notConfigured), world)
      | some config =>
          match protocol.encodeSetConfig config with
          | .error reason => (some (.error (.encodeFailed reason)), world)
          | .ok payload =>
              match setConfigResult protocol (environment.reply world.issued) with
              | .error error =>
                  (some (.error error), world.sent ⟨protocol.typeSetConfig, payload⟩
                    (environment.reply world.issued))
              | .ok result =>
                  (some (.ok ()), (world.sent ⟨protocol.typeSetConfig, payload⟩
                    (environment.reply world.issued)).setCell .appliedConfig
                      (some result.current)) := by
  rw [reapplyConfig, execute_bind, execute_readAppliedConfig, Program.andThen_some]
  cases world.inner.appliedConfig with
  | none => rfl
  | some config =>
      simp only [execute_bind, execute_session_setConfig]
      cases protocol.encodeSetConfig config with
      | error reason => rfl
      | ok payload =>
          cases setConfigResult protocol (environment.reply world.issued) <;>
            simp [execute_bind]

theorem LeavesIntact.reapplyConfig : LeavesIntact protocol (reapplyConfig protocol) := by
  intro environment world
  rw [execute_reapplyConfig]
  split
  · exact .unchanged rfl rfl
  · split
    · exact .unchanged rfl rfl
    · split
      · exact ⟨rfl, [_], rfl, .inl rfl⟩
      · next result accepted =>
        refine ⟨rfl, [_], rfl, .inr ⟨_, List.mem_singleton_self _, result.current, ?_, rfl⟩⟩
        rw [reported_setConfig, accepted]

end Reapply

/-! ## The operations that leave the caches alone -/

section Operations

variable {protocol}

namespace LeavesIntact

theorem read (cell : Cell) : LeavesIntact protocol (read cell) :=
  (effect rfl).bind fun _ => (effect rfl).bind fun _ => (effect rfl).bind fun _ => done _

theorem markWrite : LeavesIntact protocol (markWrite : Operation types Unit) :=
  (effect rfl).bind fun _ => (effect rfl).bind fun _ => (effect rfl).bind fun _ => effect rfl

theorem checkOpen :
    LeavesIntact protocol (checkOpen : Operation types (ClientResult Unit)) := by
  apply (read .closed).bind
  intro closed
  cases closed <;> exact done _

theorem ifOpen {Result : Type} {next : ClientResult Unit → Operation types Result}
    (refused : ∀ error, LeavesIntact protocol (next (.error error)))
    (opened : LeavesIntact protocol (next (.ok ()))) :
    LeavesIntact protocol (Dongle.checkOpen >>= next) := by
  apply checkOpen.bind
  intro result
  cases result with
  | error error => exact refused error
  | ok _ => exact opened

theorem jitterMs (policy : RetryPolicy) :
    LeavesIntact protocol (policy.jitterMs : Operation types UInt32) := by
  rw [RetryPolicy.jitterMs]
  split
  · exact done _
  · exact perform rfl fun _ => done _

theorem sendCommand (typeId : UInt8) (payload : List UInt8) (timeout : Duration) :
    LeavesIntact protocol (sendCommand typeId payload timeout) :=
  effect rfl

theorem command {Result : Type} {typeId : UInt8} {payload : List UInt8} {timeout : Duration}
    {read : ClientResult (SessionResponse types) → Result} :
    LeavesIntact protocol (do return read (← DongloraClient.sendCommand typeId payload timeout)) :=
  (sendCommand typeId payload timeout).bind fun _ => done _

theorem session_setConfig (modulation : Modulation types) (timeout : Duration) :
    LeavesIntact protocol (Session.setConfig protocol modulation timeout) := by
  rw [Session.setConfig]
  split
  · exact done _
  · exact command

theorem session_transmit (data : List UInt8) (skipCad : Bool) (timeout : Duration) :
    LeavesIntact protocol (Session.transmit protocol data skipCad timeout) := by
  rw [Session.transmit]
  split
  · exact done _
  · split
    · apply perform rfl
      intro impossible
      cases impossible
    · exact command

theorem txWithTimeout (data : List UInt8) (skipCad : Bool) (timeout : Duration) :
    LeavesIntact protocol (txWithTimeout protocol data skipCad timeout) := by
  apply ifOpen
  · exact fun _ => done _
  · apply markWrite.bind
    intro _
    apply (session_transmit data skipCad timeout).bind
    intro transmitted
    split
    · apply LeavesIntact.reapplyConfig.bind
      intro reapplied
      cases reapplied with
      | error error => exact done _
      | ok _ => exact session_transmit data skipCad timeout
    · exact done _

theorem txAttempts (data : List UInt8) (policy : RetryPolicy) (numbers : List UInt8)
    (attempts : List TxAttempt) (delayMs : UInt32) :
    LeavesIntact protocol (txAttempts protocol data policy numbers attempts delayMs) := by
  induction numbers generalizing attempts delayMs with
  | nil => exact done _
  | cons attemptNum later induction =>
      apply markWrite.bind
      intro _
      apply (effect rfl).bind
      intro started
      apply (session_transmit data policy.skipCad policy.perAttemptTimeout).bind
      intro result
      apply (effect rfl).bind
      intro finished
      cases result with
      | ok done => exact LeavesIntact.done _
      | error error =>
          dsimp only
          split
          · exact done _
          · apply (jitterMs policy).bind
            intro jitter
            apply (effect rfl).bind
            intro _
            exact induction _ _

theorem txWithRetry (data : List UInt8) (policy : RetryPolicy) :
    LeavesIntact protocol (txWithRetry protocol data policy) := by
  apply ifOpen
  · exact fun _ => done _
  · exact txAttempts data policy policy.attemptNumbers [] policy.backoffMsMin

theorem ping : LeavesIntact protocol (ping protocol) := by
  apply ifOpen
  · exact fun _ => done _
  · apply markWrite.bind
    intro _
    exact command

end LeavesIntact

/-! ## The operations that set a cache on success -/

namespace FailsIntact

theorem done (value : ClientResult Unit) : FailsIntact protocol (.done value) :=
  (LeavesIntact.done value).failsIntact

theorem ifOpen {next : ClientResult Unit → Operation types (ClientResult Unit)}
    (refused : ∀ error, FailsIntact protocol (next (.error error)))
    (opened : FailsIntact protocol (next (.ok ()))) :
    FailsIntact protocol (checkOpen >>= next) := by
  apply bind LeavesIntact.checkOpen
  intro result
  cases result with
  | error error => exact refused error
  | ok _ => exact opened

theorem rxStart : FailsIntact protocol (rxStart protocol) := by
  apply ifOpen
  · exact fun _ => done _
  · apply bind LeavesIntact.markWrite
    intro _
    apply bind (LeavesIntact.effect rfl)
    intro _
    apply bind (LeavesIntact.effect rfl)
    intro started
    cases started with
    | true => exact bind (LeavesIntact.effect rfl) fun _ => done _
    | false =>
        apply bind LeavesIntact.command
        intro first
        split
        · apply bind (LeavesIntact.effect rfl)
          intro _
          apply bind LeavesIntact.reapplyConfig
          intro reapplied
          cases reapplied with
          | error error => exact done _
          | ok _ =>
              apply bind LeavesIntact.command
              intro second
              cases second with
              | error error => exact done _
              | ok _ => exact of_ok fun _ _ => ⟨(), rfl⟩
        · exact bind (LeavesIntact.effect rfl) fun _ => done _
        · exact of_ok fun _ _ => ⟨(), rfl⟩

theorem rxStop : FailsIntact protocol (rxStop protocol) := by
  apply ifOpen
  · exact fun _ => done _
  · apply bind LeavesIntact.markWrite
    intro _
    apply bind LeavesIntact.command
    intro stopped
    cases stopped with
    | error error => exact done _
    | ok _ => exact of_ok fun _ _ => ⟨(), rfl⟩

theorem setConfig (modulation : Modulation types) :
    FailsIntact protocol (setConfig protocol modulation) := by
  apply ifOpen
  · exact fun _ => done _
  · apply bind LeavesIntact.markWrite
    intro _
    apply bind (LeavesIntact.session_setConfig modulation (fromSecs 2))
    intro applied
    cases applied with
    | error error => exact done _
    | ok result => exact of_ok fun _ _ => ⟨(), rfl⟩

end FailsIntact

section Receive

variable {environment : Environment types} {world : World types}

theorem ensureReceiving_fails
    (failed : (execute environment (ensureReceiving protocol) world).1 = some false) :
    world.inner.closed = true ∨
      ∃ error, (execute environment (rxStart protocol) world).1 = some (.error error) := by
  rw [ensureReceiving, execute_bind, execute_checkOpen] at failed
  cases closed : world.inner.closed with
  | true => exact .inl rfl
  | false =>
      simp only [closed, Bool.false_eq_true, if_false, Program.andThen_some, execute_bind,
        execute_readRxStarted] at failed
      cases started : world.inner.rxStarted with
      | true =>
          rw [started] at failed
          cases failed
      | false =>
          simp only [started, Bool.false_eq_true, if_false, execute_bind] at failed
          rcases executed : execute environment (rxStart protocol) world with
            ⟨_ | error | value, reached⟩
          · rw [executed] at failed
            cases failed
          · exact .inr ⟨error, rfl⟩
          · rw [executed] at failed
            cases failed

theorem ensureReceiving_intact
    (failed : (execute environment (ensureReceiving protocol) world).1 = some false) :
    Intact protocol world (execute environment (ensureReceiving protocol) world).2 := by
  rw [ensureReceiving_world]
  split
  · exact .unchanged rfl rfl
  · next unready =>
    rcases ensureReceiving_fails failed with closed | ⟨error, notStarted⟩
    · rw [closed] at unready
      exact absurd rfl unready
    · exact FailsIntact.rxStart environment world error notStarted

end Receive

end Operations

/-! ## The commands of a recovery -/

def recoveryRequests (cached : Option (Modulation types)) (first : Request) : List Request :=
  match cached.map protocol.encodeSetConfig with
  | some (.ok payload) => [first, ⟨protocol.typeSetConfig, payload⟩, first]
  | _ => [first]

section Recovery

variable {Value : Type} (cached : Option (Modulation types)) (first : Request)
  (read : ClientResult (SessionResponse types) → ClientResult Value)

/-- The commands a call issued, in order, and what it returned. `read` is what the call
makes of the reply to its own command. -/
inductive Recovery : List (Command types) → Option (ClientResult Value) → Prop
  | unsent {outcome : Option (ClientResult Value)} : Recovery [] outcome
  | attempted {reply : ClientResult (SessionResponse types)}
      {outcome : Option (ClientResult Value)} : Recovery [⟨first, reply⟩] outcome
  | refused {reply answer : ClientResult (SessionResponse types)} {config : Modulation types}
      {payload : List UInt8} {error : ClientError}
      (unconfigured : read reply = .error .notConfigured) (present : cached = some config)
      (encodes : protocol.encodeSetConfig config = .ok payload)
      (failed : setConfigResult protocol answer = .error error) :
      Recovery [⟨first, reply⟩, ⟨⟨protocol.typeSetConfig, payload⟩, answer⟩]
        (some (.error error))
  | repeated {reply answer again : ClientResult (SessionResponse types)}
      {config : Modulation types} {payload : List UInt8} {applied : SetConfigResult types}
      (unconfigured : read reply = .error .notConfigured) (present : cached = some config)
      (encodes : protocol.encodeSetConfig config = .ok payload)
      (accepted : setConfigResult protocol answer = .ok applied) :
      Recovery [⟨first, reply⟩, ⟨⟨protocol.typeSetConfig, payload⟩, answer⟩, ⟨first, again⟩]
        (some (read again))

structure BoundedRecovery (commands : List (Command types))
    (outcome : Option (ClientResult Value)) : Prop where
  requests : commands.map Command.request <+: recoveryRequests protocol cached first
  second : ∀ command, commands[1]? = some command → (∃ config, cached = some config) ∧
    ∃ earlier, commands[0]? = some earlier ∧ read earlier.result = .error .notConfigured
  third : ∀ command, commands[2]? = some command → ∃ earlier applied,
    commands[1]? = some earlier ∧ setConfigResult protocol earlier.result = .ok applied
  secondReturned : ∀ command, commands[1]? = some command →
    setConfigResult protocol command.result = .error .notConfigured →
    commands.length = 2 ∧ outcome = some (.error .notConfigured)
  thirdReturned : ∀ command, commands[2]? = some command →
    read command.result = .error .notConfigured → outcome = some (.error .notConfigured)

variable {protocol cached first read}

theorem recoveryRequests_of_cached {config : Modulation types} {payload : List UInt8}
    (present : cached = some config)
    (encodes : protocol.encodeSetConfig config = .ok payload) :
    recoveryRequests protocol cached first =
      [first, ⟨protocol.typeSetConfig, payload⟩, first] := by
  rw [recoveryRequests, present, Option.map_some, encodes]

theorem first_prefix_recoveryRequests : [first] <+: recoveryRequests protocol cached first := by
  rw [recoveryRequests]
  split
  · exact ⟨_, rfl⟩
  · exact List.prefix_rfl

theorem Recovery.bounded {commands : List (Command types)}
    {outcome : Option (ClientResult Value)}
    (recovery : Recovery protocol cached first read commands outcome) :
    BoundedRecovery protocol cached first read commands outcome := by
  cases recovery with
  | unsent =>
      constructor
      · exact List.nil_prefix
      all_goals
        intro command issued
        cases issued
  | attempted =>
      constructor
      · exact first_prefix_recoveryRequests
      all_goals
        intro command issued
        cases issued
  | refused unconfigured present encodes failed =>
      constructor
      · rw [recoveryRequests_of_cached present encodes]
        exact ⟨[first], rfl⟩
      · intro command issued
        exact ⟨⟨_, present⟩, _, rfl, unconfigured⟩
      · intro command issued
        cases issued
      · intro command issued notConfigured
        cases issued
        rw [failed] at notConfigured
        cases notConfigured
        exact ⟨rfl, rfl⟩
      · intro command issued
        cases issued
  | repeated unconfigured present encodes accepted =>
      constructor
      · rw [recoveryRequests_of_cached present encodes]
        exact List.prefix_rfl
      · intro command issued
        exact ⟨⟨_, present⟩, _, rfl, unconfigured⟩
      · intro command issued
        exact ⟨_, _, rfl, accepted⟩
      · intro command issued notConfigured
        cases issued
        rw [accepted] at notConfigured
        cases notConfigured
      · intro command issued notConfigured
        cases issued
        rw [notConfigured]

def Sends (environment : Environment types) (first : Request)
    (read : ClientResult (SessionResponse types) → ClientResult Value)
    (operation : Operation types (ClientResult Value)) : Prop :=
  ∀ world, ∃ reached, execute environment operation world =
      (some (read (environment.reply world.issued)), reached) ∧
    reached.commands = ⟨first, environment.reply world.issued⟩ :: world.commands

/-- What follows a first command answered `NotConfigured`. -/
theorem recovery_after_unconfigured {environment : Environment types}
    {operation : Operation types (ClientResult Value)} {before world : World types}
    {reply : ClientResult (SessionResponse types)}
    (sends : Sends environment first read operation)
    (unconfigured : read reply = .error .notConfigured)
    (issued : world.commands = ⟨first, reply⟩ :: before.commands) :
    ∃ outcome reached commands,
      execute environment (do
        match ← reapplyConfig protocol with
        | .error error => return .error error
        | .ok () => operation) world = (outcome, reached) ∧
      reached.commands = commands.reverse ++ before.commands ∧
      Recovery protocol world.inner.appliedConfig first read commands outcome := by
  rw [execute_bind, execute_reapplyConfig]
  cases cached : world.inner.appliedConfig with
  | none => exact ⟨_, _, [_], rfl, issued, .attempted⟩
  | some config =>
      dsimp only
      cases encodes : protocol.encodeSetConfig config with
      | error reason => exact ⟨_, _, [_], rfl, issued, .attempted⟩
      | ok payload =>
          dsimp only
          cases answered : setConfigResult protocol (environment.reply world.issued) with
          | error error =>
              refine ⟨_, _, [_, _], rfl, ?_, .refused unconfigured rfl encodes answered⟩
              exact congrArg (List.cons _) issued
          | ok result =>
              dsimp only
              rw [Program.andThen_some]
              rcases sends ((world.sent ⟨protocol.typeSetConfig, payload⟩
                  (environment.reply world.issued)).setCell .appliedConfig
                    (some result.current)) with ⟨reached, executed, extended⟩
              refine ⟨_, reached, [_, _, _], executed, ?_,
                .repeated unconfigured rfl encodes answered⟩
              rw [extended]
              exact congrArg (fun older => _ :: _ :: older) issued

end Recovery

section Calls

variable {protocol} (environment : Environment types) (world : World types)

theorem txWithTimeout_recovery (data : List UInt8) (skipCad : Bool) (timeout : Duration) :
    ∃ outcome reached commands,
      execute environment (txWithTimeout protocol data skipCad timeout) world =
        (outcome, reached) ∧
      reached.commands = commands.reverse ++ world.commands ∧
      Recovery protocol world.inner.appliedConfig
        ⟨protocol.typeTx, protocol.txFlagsAsByte skipCad :: data⟩ (transmitResult protocol)
        commands outcome := by
  rw [txWithTimeout, execute_bind, execute_checkOpen]
  cases closed : world.inner.closed with
  | true => exact ⟨_, _, [], rfl, rfl, .unsent⟩
  | false =>
      simp only [Bool.false_eq_true, if_false, Program.andThen_some, execute_bind,
        execute_markWrite, execute_session_transmit]
      split
      · exact ⟨_, _, [], rfl, rfl, .unsent⟩
      · next nonempty =>
        split
        · exact ⟨_, _, [], rfl, rfl, .unsent⟩
        · next fits =>
          have sends : Sends environment
              ⟨protocol.typeTx, protocol.txFlagsAsByte skipCad :: data⟩
              (transmitResult protocol) (Session.transmit protocol data skipCad timeout) := by
            intro current
            rw [execute_session_transmit, if_neg nonempty, if_neg fits]
            exact ⟨_, rfl, rfl⟩
          rw [Program.andThen_some]
          split
          · next unconfigured =>
            exact recovery_after_unconfigured sends unconfigured rfl
          · exact ⟨_, _, [_], rfl, rfl, .attempted⟩

theorem rxStart_recovery :
    ∃ outcome reached commands,
      execute environment (rxStart protocol) world = (outcome, reached) ∧
      reached.commands = commands.reverse ++ world.commands ∧
      Recovery protocol world.inner.appliedConfig ⟨protocol.typeRxStart, []⟩
        (emptyResult protocol "RX_START") commands outcome ∧
      (world.inner.rxStarted = true → commands = []) := by
  rw [rxStart, execute_bind, execute_checkOpen]
  cases closed : world.inner.closed with
  | true => exact ⟨_, _, [], rfl, rfl, .unsent, fun _ => rfl⟩
  | false =>
      simp only [Bool.false_eq_true, if_false, Program.andThen_some, execute_bind,
        execute_markWrite, execute_acquire, execute_loadRxStarted]
      cases started : (world.marked environment).inner.rxStarted with
      | true => exact ⟨_, _, [], rfl, rfl, .unsent, fun _ => rfl⟩
      | false =>
          have unstarted : world.inner.rxStarted = true → ∀ commands : List (Command types),
              commands = [] := by
            intro alsoStarted
            cases alsoStarted.symm.trans started
          simp only [Bool.false_eq_true, if_false, execute_bind, execute_session_rxStart,
            Program.andThen_some]
          split
          · next unconfigured =>
            have sends : Sends environment ⟨protocol.typeRxStart, []⟩
                (emptyResult protocol "RX_START") (do
                  match ← Session.rxStart protocol (fromSecs 2) with
                  | .error error => return .error error
                  | .ok () =>
                      write .rxStarted true
                      return .ok ()) := by
              intro current
              rw [execute_bind, execute_session_rxStart, Program.andThen_some]
              cases emptyResult protocol "RX_START" (environment.reply current.issued) <;>
                exact ⟨_, rfl, rfl⟩
            rw [execute_bind, execute_release, Program.andThen_some]
            rcases @recovery_after_unconfigured _ protocol _ _ _ environment _ world
                ((world.marked environment).sent ⟨protocol.typeRxStart, []⟩
                  (environment.reply (world.marked environment).issued)) _ sends
                unconfigured rfl with
              ⟨outcome, reached, commands, executed, extended, recovery⟩
            exact ⟨outcome, reached, commands, executed, extended, recovery,
              fun already => unstarted already commands⟩
          · exact ⟨_, _, [_], rfl, rfl, .attempted, fun already => unstarted already _⟩
          · exact ⟨_, _, [_], rfl, rfl, .attempted, fun already => unstarted already _⟩

end Calls

/-! ## Every call -/

/-- The call issues its command at most twice, around one re-applied configuration. -/
def RecoversOnce {Value : Type} (environment : Environment types) (world : World types)
    (first : Request) (read : ClientResult (SessionResponse types) → ClientResult Value)
    (operation : Operation types (ClientResult Value)) : Prop :=
  ∃ outcome reached commands, execute environment operation world = (outcome, reached) ∧
    reached.commands = commands.reverse ++ world.commands ∧
    BoundedRecovery protocol world.inner.appliedConfig first read commands outcome

def ReturnsErr {Value : Type} (environment : Environment types) (world : World types)
    (operation : Operation types (ClientResult Value)) : Prop :=
  ∃ error, (execute environment operation world).1 = some (.error error)

/-- The call returns `Err`, or it returns `None` since it could not start receiving. -/
def CallFails (environment : Environment types) (world : World types) : Call types → Prop
  | .txWithTimeout data skipCad timeout =>
      ReturnsErr environment world (txWithTimeout protocol data skipCad timeout)
  | .txWithRetry data policy =>
      ReturnsErr environment world (txWithRetry protocol data policy)
  | .rxStart => ReturnsErr environment world (rxStart protocol)
  | .rxStop => ReturnsErr environment world (rxStop protocol)
  | .recv timeout =>
      (execute environment (recv protocol timeout) world).1 = some none ∧
        (execute environment (ensureReceiving protocol) world).1 = some false
  | .nextRx =>
      (execute environment (nextRx protocol) world).1 = some none ∧
        (execute environment (ensureReceiving protocol) world).1 = some false
  | .setConfig modulation => ReturnsErr environment world (setConfig protocol modulation)
  | .ping => ReturnsErr environment world (ping protocol)
  | _ => False

variable {protocol} in
theorem FailsIntact.of_returnsErr {Value : Type} {environment : Environment types}
    {world : World types} {operation : Operation types (ClientResult Value)}
    (intact : FailsIntact protocol operation) (failed : ReturnsErr environment world operation) :
    Intact protocol world (execute environment operation world).2 := by
  rcases failed with ⟨error, returned⟩
  exact intact environment world error returned

variable {protocol} in
theorem failed_call_intact {environment : Environment types} {world : World types}
    {call : Call types} (failed : CallFails protocol environment world call) :
    Intact protocol world (executeCall protocol environment world call) := by
  cases call with
  | txWithTimeout data skipCad timeout =>
      exact LeavesIntact.txWithTimeout data skipCad timeout environment world
  | txWithRetry data policy => exact LeavesIntact.txWithRetry data policy environment world
  | rxStart => exact FailsIntact.rxStart.of_returnsErr failed
  | rxStop => exact FailsIntact.rxStop.of_returnsErr failed
  | recv timeout =>
      rw [executeCall, recv_world]
      exact ensureReceiving_intact failed.2
  | nextRx =>
      rw [executeCall, nextRx_world]
      exact ensureReceiving_intact failed.2
  | setConfig modulation => exact (FailsIntact.setConfig modulation).of_returnsErr failed
  | ping => exact LeavesIntact.ping environment world
  | drainAsyncErrors | config | close | keepaliveTick => cases failed

theorem recovery_bounded (environment : Environment types) (world : World types) :
    (∀ data skipCad timeout, RecoversOnce protocol environment world
      ⟨protocol.typeTx, protocol.txFlagsAsByte skipCad :: data⟩ (transmitResult protocol)
      (txWithTimeout protocol data skipCad timeout)) ∧
    RecoversOnce protocol environment world ⟨protocol.typeRxStart, []⟩
      (emptyResult protocol "RX_START") (rxStart protocol) ∧
    (world.inner.rxStarted = true →
      (execute environment (rxStart protocol) world).2.commands = world.commands) ∧
    ∀ call, CallFails protocol environment world call →
      Intact protocol world (executeCall protocol environment world call) := by
  rcases @rxStart_recovery _ protocol environment world with
    ⟨outcome, reached, commands, executed, extended, recovery, already⟩
  refine ⟨?_, ⟨outcome, reached, commands, executed, extended, recovery.bounded⟩, ?_, ?_⟩
  · intro data skipCad timeout
    rcases @txWithTimeout_recovery _ protocol environment world data skipCad timeout with
      ⟨outcome, reached, commands, executed, extended, recovery⟩
    exact ⟨outcome, reached, commands, executed, extended, recovery.bounded⟩
  · intro started
    rw [executed, extended, already started]
    rfl
  · exact fun call failed => failed_call_intact failed

def recoveredThenBusy : Environment WireTypes.sample :=
  .answering [.ok (.err .notConfigured), .ok (.setConfig ⟨(), (), .other ()⟩), .ok (.err .busy)]

theorem recovery_bounded_busy :
    ∃ reached, execute recoveredThenBusy (rxStart Protocol.sample)
        ⟨⟨some (.other ()), false, 0, false⟩, [], 0, 0, 0⟩ =
      (some (.error .busy), reached) ∧
      reached.commands.length = 3 ∧
      Intact Protocol.sample ⟨⟨some (.other ()), false, 0, false⟩, [], 0, 0, 0⟩ reached := by
  refine ⟨_, rfl, rfl, ?_⟩
  exact (recovery_bounded Protocol.sample recoveredThenBusy
    ⟨⟨some (.other ()), false, 0, false⟩, [], 0, 0, 0⟩).2.2.2 .rxStart ⟨.busy, rfl⟩

end DongloraClient.Dongle
