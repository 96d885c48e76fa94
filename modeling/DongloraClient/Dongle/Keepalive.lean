import DongloraClient.Dongle.ReceiveMode

/-! # Keeping the device awake

The device drops its configuration when it has heard nothing for 1000 ms. The keepalive
task wakes every 500 ms and sends a `PING` unless a write was marked less than 500 ms ago.
A call takes no time here: what it marks it marks when it is made, just before it sends.
The time the task waits for the answer to its own `PING` makes its next turn late.
-/

namespace DongloraClient.Dongle

open Foundation Session

variable {types : WireTypes} (protocol : Protocol types)

/-! ## A dongle and the time -/

/-- `heardAt` is when a command was last written to the device, `wakesAt` when the sleep of the
keepalive task is over. -/
structure Timed (types : WireTypes) where
  world : World types
  time : Instant
  heardAt : Instant
  wakesAt : Instant

inductive Moment (types : WireTypes)
  | call (instant : Instant) (turn : Turn types)
  | wake (instant : Instant) (environment : Environment types)

def Environment.frozen (environment : Environment types) (instant : Instant) :
    Environment types :=
  { environment with clock := fun _ => instant }

/-- These are the results that `send_command` has for a command only after its frame was
written and flushed. -/
def written : ClientResult (SessionResponse types) → Bool
  | .ok _ => true
  | .error (.timeout _) => true
  | .error .readerExited => true
  | _ => false

def World.heard (before after : World types) : Bool :=
  (after.commands.take (after.commands.length - before.commands.length)).any fun command =>
    written command.result

/-- The call is made at `instant`, and the device hears at once what is written. -/
def Timed.performs (timed : Timed types) (instant : Instant) (environment : Environment types)
    (call : Call types) : Timed types :=
  let world := executeCall protocol (environment.frozen instant) timed.world.start call
  { timed with
    world := world
    time := instant
    heardAt := if timed.world.heard world then instant else timed.heardAt }

/-- The dongle is never closed. `late` is how much longer than `keepaliveInterval` the
keepalive task may take from one turn to the next. -/
def timedMachine (late : Duration) (applied : Option (Modulation types)) (openedAt : Instant) :
    Machine (Timed types) (Moment types) where
  initial :=
    ⟨(machine protocol applied openedAt).initial, openedAt, openedAt,
      openedAt + keepaliveInterval⟩
  step timed
    | .call instant turn =>
        if timed.time ≤ instant ∧ instant ≤ timed.wakesAt + late then
          match turn.call with
          | .keepaliveTick | .close => none
          | call => some (timed.performs protocol instant turn.environment call)
        else none
    | .wake instant environment =>
        if timed.time ≤ instant ∧ timed.wakesAt ≤ instant ∧ instant ≤ timed.wakesAt + late then
          some { timed.performs protocol instant environment .keepaliveTick with
            wakesAt := instant + keepaliveInterval }
        else none

/-- The call marks a write on an open dongle but sends nothing. -/
def Call.marksOnly (world : World types) : Call types → Bool
  | .txWithTimeout data _ _ => data.isEmpty || protocol.maxPayloadField ≤ data.length
  | .txWithRetry data policy =>
      policy.maxAttempts ≠ 0 && (data.isEmpty || protocol.maxPayloadField ≤ data.length)
  | .rxStart => world.inner.rxStarted
  | .setConfig modulation => !(protocol.encodeSetConfig modulation).isOk
  | _ => false

def Moment.MarksOnly (timed : Timed types) : Moment types → Prop
  | .call _ turn => turn.call.marksOnly protocol timed.world = true
  | .wake _ _ => False

def Moment.Delivers : Moment types → Prop
  | .call _ turn => ∀ index, written (turn.environment.reply index) = true
  | .wake _ environment => ∀ index, written (environment.reply index) = true

/-! ## Marks -/

structure Stamped (instant : Instant) (before after : World types) : Prop where
  closed : after.inner.closed = before.inner.closed
  mark : after.inner.lastWriteAt = before.inner.lastWriteAt ∨ after.inner.lastWriteAt = instant

theorem Stamped.trans {instant : Instant} {before middle after : World types}
    (first : Stamped instant before middle) (second : Stamped instant middle after) :
    Stamped instant before after := by
  refine ⟨second.closed.trans first.closed, ?_⟩
  rcases second.mark with same | stamped
  · rw [same]
    exact first.mark
  · exact .inr stamped

def Stamps {Result : Type} (instant : Instant) (operation : Operation types Result) : Prop :=
  ∀ (environment : Environment types) (world : World types),
    Stamped instant world (execute (environment.frozen instant) operation world).2

section Stamping

variable {protocol} {instant : Instant} {First Second : Type}

theorem Stamps.bind {operation : Operation types First}
    {next : First → Operation types Second} (first : Stamps instant operation)
    (second : ∀ value, Stamps instant (next value)) : Stamps instant (operation >>= next) := by
  intro environment world
  apply Program.run_bind_relates
  · exact fun _ _ _ => Stamped.trans
  · exact first environment world
  · exact fun value reached => second value environment reached

theorem stamps_done (value : First) :
    Stamps instant (.done value : Operation types First) :=
  fun _ _ => ⟨rfl, .inl rfl⟩

def Effect.leavesMark : Effect types → Bool
  | .store .lastWriteAt _ => false
  | .store .closed _ => false
  | _ => true

theorem handler_stamped {environment : Environment types} {world reached : World types}
    {effect : Effect types} {answer : Answer effect} (leaves : Effect.leavesMark effect = true)
    (handled : handler environment effect world = some (answer, reached)) :
    Stamped instant world reached := by
  cases effect with
  | store cell value =>
      cases handled
      cases cell with
      | lastWriteAt | closed => cases leaves
      | _ => exact ⟨rfl, .inl rfl⟩
  | panic => cases handled
  | _ =>
      cases handled
      exact ⟨rfl, .inl rfl⟩

theorem stamps_perform {effect : Effect types} (leaves : Effect.leavesMark effect = true)
    {next : Answer effect → Operation types First}
    (rest : ∀ answer, Stamps instant (next answer)) :
    Stamps instant (.perform effect next) := by
  intro environment world
  apply Program.run_perform_relates
  · exact ⟨rfl, .inl rfl⟩
  · intro answer reached handled
    exact (handler_stamped leaves handled).trans (rest answer environment reached)

theorem stamps_effect {effect : Effect types} (leaves : Effect.leavesMark effect = true) :
    Stamps instant (.perform effect .done) :=
  stamps_perform leaves stamps_done

theorem stamps_markWrite : Stamps instant (markWrite : Operation types Unit) :=
  fun _ _ => ⟨rfl, .inr rfl⟩

theorem stamps_read (cell : Cell) : Stamps instant (read cell : Operation types _) :=
  (stamps_effect rfl).bind fun _ => (stamps_effect rfl).bind fun _ =>
    (stamps_effect rfl).bind fun _ => stamps_done _

theorem stamps_write {cell : Cell} {value : cell.Value types}
    (leaves : Effect.leavesMark (.store cell value) = true) : Stamps instant (write cell value) :=
  (stamps_effect rfl).bind fun _ => (stamps_effect leaves).bind fun _ => stamps_effect rfl

theorem stamps_ifOpen {next : ClientResult Unit → Operation types First}
    (continues : ∀ result, Stamps instant (next result)) :
    Stamps instant (checkOpen >>= next) := by
  refine Stamps.bind ((stamps_read .closed).bind ?_) continues
  intro closed
  cases closed <;> exact stamps_done _

theorem stamps_command {typeId : UInt8} {payload : List UInt8} {timeout : Duration}
    (finish : ClientResult (SessionResponse types) → First) :
    Stamps instant
      (sendCommand typeId payload timeout >>= fun response => .done (finish response)) :=
  (stamps_effect rfl).bind fun _ => stamps_done _

theorem stamps_session_setConfig (config : Modulation types) (timeout : Duration) :
    Stamps instant (Session.setConfig protocol config timeout) := by
  rw [Session.setConfig]
  split
  · exact stamps_done _
  · exact stamps_command _

theorem stamps_session_transmit (data : List UInt8) (skipCad : Bool) (timeout : Duration) :
    Stamps instant (Session.transmit protocol data skipCad timeout) := by
  rw [Session.transmit]
  split
  · exact stamps_done _
  · split
    · apply stamps_perform rfl
      intro answer
      cases answer
    · exact stamps_command _

theorem stamps_reapplyConfig : Stamps instant (reapplyConfig protocol) := by
  apply (stamps_read .appliedConfig).bind
  intro cached
  cases cached with
  | none => exact stamps_done _
  | some config =>
      apply (stamps_session_setConfig config _).bind
      intro result
      cases result with
      | error error => exact stamps_done _
      | ok result => exact (stamps_write rfl).bind fun _ => stamps_done _

theorem stamps_txWithTimeout (data : List UInt8) (skipCad : Bool) (timeout : Duration) :
    Stamps instant (txWithTimeout protocol data skipCad timeout) := by
  apply stamps_ifOpen
  intro opened
  cases opened with
  | error error => exact stamps_done _
  | ok _ =>
      apply stamps_markWrite.bind
      intro _
      apply (stamps_session_transmit data skipCad timeout).bind
      intro result
      split
      · apply stamps_reapplyConfig.bind
        intro recovered
        cases recovered with
        | error error => exact stamps_done _
        | ok _ => exact stamps_session_transmit data skipCad timeout
      · exact stamps_done _

theorem stamps_jitterMs (policy : RetryPolicy) :
    Stamps instant (policy.jitterMs : Operation types UInt32) := by
  rw [RetryPolicy.jitterMs]
  split
  · exact stamps_done _
  · exact stamps_perform rfl fun _ => stamps_done _

theorem stamps_txAttempts (data : List UInt8) (policy : RetryPolicy) (numbers : List UInt8)
    (attempts : List TxAttempt) (delayMs : UInt32) :
    Stamps instant (txAttempts protocol data policy numbers attempts delayMs) := by
  induction numbers generalizing attempts delayMs with
  | nil => exact stamps_done _
  | cons number later induction =>
      apply stamps_markWrite.bind
      intro _
      apply (stamps_effect rfl).bind
      intro started
      apply (stamps_session_transmit data _ _).bind
      intro result
      apply (stamps_effect rfl).bind
      intro finished
      cases result with
      | ok done => exact stamps_done _
      | error error =>
          simp only
          split
          · exact stamps_done _
          · apply (stamps_jitterMs policy).bind
            intro jitter
            apply (stamps_effect rfl).bind
            intro _
            exact induction _ _

theorem stamps_txWithRetry (data : List UInt8) (policy : RetryPolicy) :
    Stamps instant (txWithRetry protocol data policy) := by
  apply stamps_ifOpen
  intro opened
  cases opened with
  | error error => exact stamps_done _
  | ok _ => exact stamps_txAttempts data policy _ _ _

theorem stamps_rxStart : Stamps instant (rxStart protocol) := by
  apply stamps_ifOpen
  intro opened
  cases opened with
  | error error => exact stamps_done _
  | ok _ =>
      apply stamps_markWrite.bind
      intro _
      apply (stamps_effect rfl).bind
      intro _
      apply (stamps_effect rfl).bind
      intro started
      cases started with
      | true => exact (stamps_effect rfl).bind fun _ => stamps_done _
      | false =>
          apply Stamps.bind (stamps_command _)
          intro result
          split
          · apply (stamps_effect rfl).bind
            intro _
            apply stamps_reapplyConfig.bind
            intro recovered
            cases recovered with
            | error error => exact stamps_done _
            | ok _ =>
                apply Stamps.bind (stamps_command _)
                intro restarted
                cases restarted with
                | error error => exact stamps_done _
                | ok _ => exact (stamps_write rfl).bind fun _ => stamps_done _
          · exact (stamps_effect rfl).bind fun _ => stamps_done _
          · exact (stamps_effect rfl).bind fun _ => (stamps_effect rfl).bind fun _ =>
              stamps_done _

theorem stamps_rxStop : Stamps instant (rxStop protocol) := by
  apply stamps_ifOpen
  intro opened
  cases opened with
  | error error => exact stamps_done _
  | ok _ =>
      apply stamps_markWrite.bind
      intro _
      apply Stamps.bind (stamps_command _)
      intro result
      cases result with
      | error error => exact stamps_done _
      | ok _ => exact (stamps_write rfl).bind fun _ => stamps_done _

theorem stamps_setConfig (modulation : Modulation types) :
    Stamps instant (setConfig protocol modulation) := by
  apply stamps_ifOpen
  intro opened
  cases opened with
  | error error => exact stamps_done _
  | ok _ =>
      apply stamps_markWrite.bind
      intro _
      apply (stamps_session_setConfig modulation _).bind
      intro result
      cases result with
      | error error => exact stamps_done _
      | ok result =>
          exact (stamps_write rfl).bind fun _ => (stamps_write rfl).bind fun _ =>
            stamps_done _

theorem stamps_ping : Stamps instant (ping protocol) := by
  apply stamps_ifOpen
  intro opened
  cases opened with
  | error error => exact stamps_done _
  | ok _ => exact stamps_markWrite.bind fun _ => stamps_command _

end Stamping

/-! ## Commands -/

structure Spoken (instant : Instant) (before after : World types) : Prop where
  closed : after.inner.closed = before.inner.closed
  mark : after.inner.lastWriteAt = before.inner.lastWriteAt ∨
    (after.inner.lastWriteAt = instant ∧ before.commands.length < after.commands.length)

section Speaking

variable {protocol} {environment : Environment types} {world : World types} {instant : Instant}

theorem commands_grow {Result : Type} (operation : Operation types Result) (request : Request)
    (result : ClientResult (SessionResponse types)) :
    world.commands.length <
      (execute environment operation (world.sent request result)).2.commands.length := by
  rcases execute_extends environment (world.sent request result) operation with ⟨newer, extended⟩
  rw [extended, List.length_append]
  simp only [World.sent, List.length_cons]
  omega

theorem Stamps.spoken {Result : Type} {operation : Operation types Result}
    (stamps : Stamps instant operation)
    (grown : world.commands.length <
      (execute (environment.frozen instant) operation world).2.commands.length) :
    Spoken instant world (execute (environment.frozen instant) operation world).2 := by
  have stamped := stamps environment world
  refine ⟨stamped.closed, ?_⟩
  rcases stamped.mark with same | marked
  · exact .inl same
  · exact .inr ⟨marked, grown⟩

theorem Spoken.refl : Spoken instant world world := ⟨rfl, .inl rfl⟩

theorem spoken_ifOpen {Result : Type} {next : ClientResult Unit → Operation types Result}
    {rest : Unit → Operation types Result} {value : Result}
    (stamps : Stamps instant (checkOpen >>= next))
    (refuses : next (.error (.transportClosed "dongle closed")) = .done value)
    (marks : next (.ok ()) = markWrite >>= rest)
    (grown : ∀ marked : World types, marked.inner.rxStarted = world.inner.rxStarted →
      marked.commands.length <
        (execute (environment.frozen instant) (rest ()) marked).2.commands.length) :
    Spoken instant world (execute (environment.frozen instant) (checkOpen >>= next) world).2 := by
  cases closed : world.inner.closed with
  | true =>
      rw [execute_bind, execute_checkOpen, closed, if_pos rfl, Program.andThen_some, refuses]
      exact .refl
  | false =>
      apply stamps.spoken
      rw [execute_bind, execute_checkOpen, closed, if_neg (by simp), Program.andThen_some, marks,
        execute_bind, execute_markWrite, Program.andThen_some]
      exact grown (world.marked (environment.frozen instant)) rfl

theorem session_transmit_grows {Result : Type} {data : List UInt8} {skipCad : Bool}
    {timeout : Duration} {next : ClientResult TxDonePayload → Operation types Result}
    (sends : (data.isEmpty || protocol.maxPayloadField ≤ data.length) = false) :
    world.commands.length <
      (execute environment (Session.transmit protocol data skipCad timeout >>= next)
        world).2.commands.length := by
  rw [Bool.or_eq_false_iff, decide_eq_false_iff_not] at sends
  rw [execute_bind, transmit_fitting protocol sends.1 (by omega)]
  exact commands_grow _ _ _

theorem spoken_txWithTimeout {data : List UInt8} {skipCad : Bool} {timeout : Duration}
    (sends : (data.isEmpty || protocol.maxPayloadField ≤ data.length) = false) :
    Spoken instant world (execute (environment.frozen instant)
      (txWithTimeout protocol data skipCad timeout) world).2 :=
  spoken_ifOpen (stamps_txWithTimeout data skipCad timeout) rfl rfl fun _ _ =>
    session_transmit_grows sends

theorem spoken_txWithRetry {data : List UInt8} {policy : RetryPolicy}
    (sends : (Call.txWithRetry data policy).marksOnly protocol world = false) :
    Spoken instant world (execute (environment.frozen instant)
      (txWithRetry protocol data policy) world).2 := by
  by_cases never : policy.maxAttempts = 0
  · have nothing : policy.attemptNumbers = [] := by simp [RetryPolicy.attemptNumbers, never]
    rw [txWithRetry, nothing, execute_bind, execute_checkOpen]
    cases world.inner.closed <;> exact .refl
  · have transmits : (data.isEmpty || protocol.maxPayloadField ≤ data.length) = false := by
      simpa [Call.marksOnly, never] using sends
    cases numbers : policy.attemptNumbers with
    | nil =>
        simp only [RetryPolicy.attemptNumbers, List.map_eq_nil_iff, List.range'_eq_nil_iff]
          at numbers
        exact absurd (UInt8.toNat_inj.mp numbers) never
    | cons number later =>
        have stamps := @stamps_txWithRetry _ protocol instant data policy
        rw [txWithRetry, numbers] at stamps ⊢
        refine spoken_ifOpen stamps rfl rfl fun marked _ => ?_
        rw [execute_bind, execute_now, Program.andThen_some]
        change marked.tick.commands.length < _
        exact session_transmit_grows transmits

theorem spoken_rxStart (unstarted : world.inner.rxStarted = false) :
    Spoken instant world (execute (environment.frozen instant) (rxStart protocol) world).2 := by
  refine spoken_ifOpen stamps_rxStart rfl rfl fun marked same => ?_
  rw [execute_bind, execute_acquire, Program.andThen_some, execute_bind, execute_loadRxStarted,
    Program.andThen_some, same, unstarted, if_neg (by simp), execute_bind,
    execute_session_rxStart, Program.andThen_some]
  exact commands_grow _ _ _

theorem spoken_ensureReceiving :
    Spoken instant world
      (execute (environment.frozen instant) (ensureReceiving protocol) world).2 := by
  rw [ensureReceiving_world]
  split
  · exact .refl
  · next receives =>
    rw [Bool.or_eq_true, not_or, Bool.not_eq_true, Bool.not_eq_true] at receives
    exact spoken_rxStart receives.2

theorem spoken_rxStop :
    Spoken instant world (execute (environment.frozen instant) (rxStop protocol) world).2 := by
  refine spoken_ifOpen stamps_rxStop rfl rfl fun marked _ => ?_
  rw [execute_bind, execute_session_rxStop, Program.andThen_some]
  exact commands_grow _ _ _

theorem spoken_ping :
    Spoken instant world (execute (environment.frozen instant) (ping protocol) world).2 := by
  refine spoken_ifOpen stamps_ping rfl rfl fun marked _ => ?_
  rw [execute_session_ping]
  exact Nat.lt_succ_self _

theorem spoken_setConfig {modulation : Modulation types}
    (encodes : (protocol.encodeSetConfig modulation).isOk = true) :
    Spoken instant world (execute (environment.frozen instant)
      (setConfig protocol modulation) world).2 := by
  refine spoken_ifOpen (stamps_setConfig modulation) rfl rfl fun marked _ => ?_
  rw [execute_bind, execute_session_setConfig]
  cases encoded : protocol.encodeSetConfig modulation with
  | error reason =>
      rw [encoded] at encodes
      cases encodes
  | ok payload =>
      simp only [Program.andThen_some]
      exact commands_grow _ _ _

theorem executeCall_spoken {call : Call types} (other : call ≠ .keepaliveTick)
    (opened : call ≠ .close) (sends : call.marksOnly protocol world = false) :
    Spoken instant world (executeCall protocol (environment.frozen instant) world call) := by
  cases call with
  | txWithTimeout data skipCad timeout => exact spoken_txWithTimeout sends
  | txWithRetry data policy => exact spoken_txWithRetry sends
  | rxStart => exact spoken_rxStart sends
  | rxStop => exact spoken_rxStop
  | recv timeout =>
      rw [executeCall, recv_world]
      exact spoken_ensureReceiving
  | nextRx =>
      rw [executeCall, nextRx_world]
      exact spoken_ensureReceiving
  | setConfig modulation =>
      rw [Call.marksOnly, Bool.not_eq_false'] at sends
      exact spoken_setConfig sends
  | ping => exact spoken_ping
  | drainAsyncErrors | config => exact .refl
  | close => exact absurd rfl opened
  | keepaliveTick => exact absurd rfl other

/-! ## Turns of the keepalive task -/

theorem stamps_keepaliveTick : Stamps instant (keepaliveTick protocol) := by
  apply (stamps_effect rfl).bind
  intro _
  apply (stamps_read .closed).bind
  intro closed
  cases closed with
  | true => exact stamps_done _
  | false =>
      apply (stamps_read .lastWriteAt).bind
      intro last
      apply (stamps_effect rfl).bind
      intro reading
      simp only
      split
      · exact stamps_done _
      · apply Stamps.bind (stamps_command _)
        intro result
        split
        · exact stamps_markWrite.bind fun _ => stamps_done _
        · apply (stamps_read .appliedConfig).bind
          intro cached
          cases cached with
          | none => exact stamps_done _
          | some config =>
              apply (stamps_session_setConfig config _).bind
              intro applied
              cases applied with
              | ok _ => exact stamps_markWrite.bind fun _ => stamps_done _
              | error _ => exact stamps_done _
        · exact stamps_done _

theorem keepaliveTick_skips (opened : world.inner.closed = false)
    (recent : instant - world.inner.lastWriteAt < keepaliveInterval) :
    (execute (environment.frozen instant) (keepaliveTick protocol) world).2 = world.tick := by
  have reads : (environment.frozen instant).clock world.readings - world.inner.lastWriteAt <
      keepaliveInterval := recent
  simp [keepaliveTick, execute_bind, opened, reads]

theorem keepaliveTick_speaks (opened : world.inner.closed = false)
    (quiet : ¬instant - world.inner.lastWriteAt < keepaliveInterval) :
    world.commands.length <
      (execute (environment.frozen instant) (keepaliveTick protocol) world).2.commands.length := by
  have reads : ¬(environment.frozen instant).clock world.readings - world.inner.lastWriteAt <
      keepaliveInterval := quiet
  simp only [keepaliveTick, execute_bind, execute_sleep, execute_readClosed, opened,
    execute_readLastWriteAt, execute_now, Program.andThen_some, Bool.false_eq_true, if_false,
    reads, execute_session_ping]
  change world.tick.commands.length < _
  exact commands_grow _ _ _

end Speaking

/-! ## What the device hears -/

section Hearing

variable {protocol} {environment : Environment types}

theorem handler_delivers {world reached : World types} {effect : Effect types}
    {answer : Answer effect}
    (delivers : ∀ index, written (environment.reply index) = true)
    (handled : handler environment effect world = some (answer, reached)) :
    ∃ newer, reached.commands = newer ++ world.commands ∧
      ∀ command ∈ newer, written command.result = true := by
  cases effect with
  | sendCommand request timeout =>
      cases handled
      exact ⟨[_], rfl, by simp [delivers]⟩
  | panic => cases handled
  | _ =>
      cases handled
      exact ⟨[], rfl, by simp⟩

theorem execute_delivers {Result : Type} {world : World types}
    (delivers : ∀ index, written (environment.reply index) = true)
    (operation : Operation types Result) :
    ∃ newer, (execute environment operation world).2.commands = newer ++ world.commands ∧
      ∀ command ∈ newer, written command.result = true := by
  apply @Program.run_relates _ _ _ (handler environment) fun before after : World types =>
    ∃ newer, after.commands = newer ++ before.commands ∧
      ∀ command ∈ newer, written command.result = true
  · exact fun _ => ⟨[], rfl, by simp⟩
  · rintro before middle after ⟨first, added, firstWritten⟩ ⟨second, further, secondWritten⟩
    refine ⟨second ++ first, by rw [further, added, List.append_assoc], ?_⟩
    intro command member
    rcases List.mem_append.mp member with member | member
    · exact secondWritten command member
    · exact firstWritten command member
  · exact fun _ _ _ _ handled => handler_delivers delivers handled

theorem executeCall_delivers {world : World types} {call : Call types}
    (delivers : ∀ index, written (environment.reply index) = true) :
    ∃ newer, (executeCall protocol environment world call).commands = newer ++ world.commands ∧
      ∀ command ∈ newer, written command.result = true := by
  cases call <;> exact execute_delivers delivers _

theorem heard_of_grown {before after : World types} {newer : List (Command types)}
    (added : after.commands = newer ++ before.commands)
    (allWritten : ∀ command ∈ newer, written command.result = true)
    (grown : before.commands.length < after.commands.length) : before.heard after = true := by
  rw [World.heard, added, List.length_append, Nat.add_sub_cancel, List.take_left]
  cases newer with
  | nil =>
      rw [added] at grown
      exact absurd grown (Nat.lt_irrefl _)
  | cons command older => simp [allWritten command List.mem_cons_self]

theorem not_heard {before after : World types} (same : after.commands = before.commands) :
    before.heard after = false := by
  simp [World.heard, same]

end Hearing

/-! ## Runs -/

structure Timed.Attended (late : Duration) (timed : Timed types) : Prop where
  opened : timed.world.inner.closed = false
  marked : timed.world.inner.lastWriteAt ≤ timed.heardAt
  heard : timed.heardAt ≤ timed.time
  awaited : timed.time ≤ timed.wakesAt + late
  waking : timed.wakesAt < timed.heardAt + 2 * keepaliveInterval

section Attending

variable {protocol} {timed : Timed types} {late : Duration} {instant : Instant}
  {environment : Environment types} {call : Call types}

theorem heardAt_performs (heard : timed.heardAt ≤ instant) :
    timed.heardAt ≤ (timed.performs protocol instant environment call).heardAt ∧
      (timed.performs protocol instant environment call).heardAt ≤ instant := by
  rw [Timed.performs]
  dsimp only
  split
  · exact ⟨heard, Nat.le_refl _⟩
  · exact ⟨Nat.le_refl _, heard⟩

theorem performs_quietly
    (quiet : (executeCall protocol (environment.frozen instant) timed.world.start call).commands =
      timed.world.commands) :
    timed.performs protocol instant environment call =
      { timed with
        world := executeCall protocol (environment.frozen instant) timed.world.start call
        time := instant } := by
  have silent := not_heard quiet
  simp [Timed.performs, silent]

theorem heardAt_of_grown (delivers : ∀ index, written (environment.reply index) = true)
    (grown : timed.world.commands.length <
      (timed.performs protocol instant environment call).world.commands.length) :
    (timed.performs protocol instant environment call).heardAt = instant := by
  rcases @executeCall_delivers _ protocol (environment.frozen instant) timed.world.start call
    delivers with ⟨newer, added, allWritten⟩
  exact if_pos (heard_of_grown added allWritten grown)

theorem Timed.Attended.performs (attended : timed.Attended late) (later : timed.time ≤ instant)
    (early : instant ≤ timed.wakesAt + late)
    (delivers : ∀ index, written (environment.reply index) = true)
    (spoken : Spoken instant timed.world.start
      (executeCall protocol (environment.frozen instant) timed.world.start call)) :
    (timed.performs protocol instant environment call).Attended late := by
  have hears := @heardAt_performs _ protocol timed instant environment call
    (Nat.le_trans attended.heard later)
  refine ⟨spoken.closed.trans attended.opened, ?_, hears.2, early, ?_⟩
  · rcases spoken.mark with same | ⟨stamped, grown⟩
    · exact Nat.le_trans (Nat.le_of_eq same) (Nat.le_trans attended.marked hears.1)
    · rw [heardAt_of_grown delivers grown]
      exact Nat.le_of_eq stamped
  · exact Nat.lt_of_lt_of_le attended.waking (Nat.add_le_add_right hears.1 _)

theorem Timed.Attended.wake (attended : timed.Attended late) (later : timed.time ≤ instant)
    (delivers : ∀ index, written (environment.reply index) = true) :
    Timed.Attended late { timed.performs protocol instant environment .keepaliveTick with
      wakesAt := instant + keepaliveInterval } := by
  have marked := attended.marked
  have heard := attended.heard
  have interval : 0 < keepaliveInterval := by decide
  by_cases recent : instant - timed.world.inner.lastWriteAt < keepaliveInterval
  · -- A skipped turn: the mark is that recent only if the device was heard that recently.
    have skips := @keepaliveTick_skips _ protocol environment timed.world.start instant
      attended.opened recent
    have same : (timed.performs protocol instant environment .keepaliveTick).world =
        timed.world.start.tick := skips
    have quiet : (timed.performs protocol instant environment .keepaliveTick).heardAt =
        timed.heardAt := by
      rw [performs_quietly (by rw [executeCall, skips]; rfl)]
    refine ⟨?_, ?_, ?_, Nat.le_add_right_of_le (Nat.le_add_right _ _), ?_⟩
    · rw [same]
      exact attended.opened
    · rw [same, quiet]
      exact marked
    · rw [quiet]
      exact Nat.le_trans heard later
    · rw [quiet]
      change instant + keepaliveInterval < _
      grind
  · have grown := @keepaliveTick_speaks _ protocol environment timed.world.start instant
      attended.opened recent
    have stamped := @stamps_keepaliveTick _ protocol instant environment timed.world.start
    have hears : (timed.performs protocol instant environment .keepaliveTick).heardAt =
        instant := heardAt_of_grown delivers grown
    refine ⟨stamped.closed.trans attended.opened, ?_, ?_,
      Nat.le_add_right_of_le (Nat.le_add_right _ _), ?_⟩
    · rw [hears]
      rcases stamped.mark with same | now
      · exact Nat.le_trans (Nat.le_of_eq same) (Nat.le_trans marked (Nat.le_trans heard later))
      · exact Nat.le_of_eq now
    · rw [hears]
      exact Nat.le_refl _
    · rw [hears]
      change instant + keepaliveInterval < _
      grind

variable {applied : Option (Modulation types)} {openedAt : Instant}

theorem attended_step {moment : Moment types} {next : Timed types}
    (attended : timed.Attended late) (sends : ¬moment.MarksOnly protocol timed)
    (delivers : moment.Delivers)
    (stepped : (timedMachine protocol late applied openedAt).step timed moment = some next) :
    next.Attended late := by
  cases moment with
  | call instant turn =>
      rcases turn with ⟨call, environment⟩
      simp only [timedMachine] at stepped
      split at stepped
      · next between =>
        have sending : call.marksOnly protocol timed.world.start = false := by
          rw [Moment.MarksOnly, Bool.not_eq_true] at sends
          cases call <;> exact sends
        split at stepped
        · cases stepped
        · cases stepped
        · next other opened =>
          cases stepped
          exact attended.performs between.1 between.2 delivers
            (executeCall_spoken other opened sending)
      · cases stepped
  | wake instant environment =>
      simp only [timedMachine] at stepped
      split at stepped
      · next between =>
        cases stepped
        exact attended.wake between.1 delivers
      · cases stepped

theorem attended_of_reachable
    (reached : (timedMachine protocol late applied openedAt).ReachableBy
      (fun current moment => ¬moment.MarksOnly protocol current ∧ moment.Delivers) timed) :
    timed.Attended late := by
  refine reached.invariant ?_ fun _ _ _ attended allowed =>
    attended_step attended allowed.1 allowed.2
  have interval : 0 < keepaliveInterval := by decide
  refine ⟨rfl, Nat.le_refl _, Nat.le_refl _, ?_, ?_⟩
  · exact Nat.le_add_right_of_le (Nat.le_add_right _ _)
  · change openedAt + keepaliveInterval < openedAt + 2 * keepaliveInterval
    grind

end Attending

/-! ## Silence -/

section Silence

variable {protocol} {late : Duration} {applied : Option (Modulation types)}
  {openedAt instant : Instant}

def accepting : Environment types :=
  ⟨fun _ => .ok .empty, fun _ => 0, fun _ _ => ⟨0, UInt32.zero_le⟩, none, []⟩

theorem accepting_delivers (index : Nat) :
    written ((accepting : Environment types).reply index) = true := rfl

/-- A turn that finds a mark of less than an interval ago only puts off the next turn. -/
theorem skipped_wake {timed : Timed types} (opened : timed.world.inner.closed = false)
    (later : timed.time ≤ timed.wakesAt)
    (recent : timed.wakesAt - timed.world.inner.lastWriteAt < keepaliveInterval) :
    (timedMachine protocol late applied openedAt).step timed (.wake timed.wakesAt accepting) =
      some { timed with
        world := timed.world.start.tick
        time := timed.wakesAt
        wakesAt := timed.wakesAt + keepaliveInterval } := by
  have skips := @keepaliveTick_skips _ protocol accepting timed.world.start timed.wakesAt
    opened recent
  rw [timedMachine]
  simp only [later, Nat.le_refl, Nat.le_add_right, and_self, if_true]
  rw [performs_quietly (by rw [executeCall, skips]; rfl), executeCall, skips]

theorem time_passes {allowed : Timed types → Moment types → Prop} {timed : Timed types}
    (reached : (timedMachine protocol late applied openedAt).ReachableBy allowed timed)
    (permitted : allowed timed (.call instant ⟨.config, accepting⟩))
    (later : timed.time ≤ instant) (early : instant ≤ timed.wakesAt + late) :
    (timedMachine protocol late applied openedAt).ReachableBy allowed
      { timed with world := timed.world.start, time := instant } := by
  refine .step reached permitted ((if_pos ⟨later, early⟩).trans ?_)
  exact congrArg some (performs_quietly rfl)

/-- A `PING` just after the dongle was opened makes the first turn of the task a skipped
one. -/
theorem longest_silence :
    ∃ timed : Timed types,
      (timedMachine protocol late applied openedAt).ReachableBy
        (fun current moment => ¬moment.MarksOnly protocol current ∧ moment.Delivers) timed ∧
      timed.time + 1 = timed.heardAt + fromMillis 1000 + late := by
  have interval : 1 ≤ keepaliveInterval := by decide
  have doubled : fromMillis 1000 = keepaliveInterval + keepaliveInterval := by decide
  let opened : Timed types := (timedMachine protocol late applied openedAt).initial
  let pinged : Timed types := opened.performs protocol (openedAt + 1) accepting .ping
  have pings : (timedMachine protocol late applied openedAt).step opened
      (.call (openedAt + 1) ⟨.ping, accepting⟩) = some pinged := by
    refine if_pos ⟨Nat.le_add_right _ _, ?_⟩
    exact Nat.le_add_right_of_le (Nat.add_le_add_left interval _)
  have skips := @skipped_wake _ protocol late applied openedAt pinged rfl
    (Nat.add_le_add_left interval _) (by
      change openedAt + keepaliveInterval - (openedAt + 1) < keepaliveInterval
      grind)
  refine ⟨_, time_passes (.step (.step .initial ?_ pings) ?_ skips) ?_ ?_ (Nat.le_refl _), ?_⟩
  · exact ⟨by simp [Moment.MarksOnly, Call.marksOnly], accepting_delivers⟩
  · exact ⟨by simp [Moment.MarksOnly], accepting_delivers⟩
  · exact ⟨by simp [Moment.MarksOnly, Call.marksOnly], accepting_delivers⟩
  · change openedAt + keepaliveInterval ≤ openedAt + keepaliveInterval + keepaliveInterval + late
    grind
  · change openedAt + keepaliveInterval + keepaliveInterval + late + 1 =
      openedAt + 1 + fromMillis 1000 + late
    grind

structure Timed.Unattended (silence : Duration) (timed : Timed types) : Prop where
  opened : timed.world.inner.closed = false
  started : timed.world.inner.rxStarted = true
  waking : timed.wakesAt = timed.time + keepaliveInterval
  silent : timed.heardAt + silence ≤ timed.time

/-- `rx_start` marks the write before it looks whether there is anything to send. -/
theorem rxStart_marks {environment : Environment types} {world : World types}
    (opened : world.inner.closed = false) (started : world.inner.rxStarted = true) :
    (execute environment (rxStart protocol) world).2 = world.marked environment := by
  have same : (world.marked environment).inner.rxStarted = true := started
  simp [rxStart, execute_bind, execute_checkOpen, opened, same]

/-- `rx_start` when the task is about to wake, and the turn of the task that it wastes. -/
theorem silence_lasts {silence : Duration} {timed : Timed types}
    (reached : (timedMachine protocol late applied openedAt).ReachableBy
      (fun _ moment => moment.Delivers) timed)
    (unattended : timed.Unattended silence) :
    ∃ next : Timed types, (timedMachine protocol late applied openedAt).ReachableBy
        (fun _ moment => moment.Delivers) next ∧
      next.Unattended (silence + keepaliveInterval) := by
  let called : Timed types :=
    { timed with
      world := timed.world.start.marked (accepting.frozen timed.wakesAt)
      time := timed.wakesAt }
  have later : timed.time ≤ timed.wakesAt := by
    rw [unattended.waking]
    exact Nat.le_add_right _ _
  have marks : (timedMachine protocol late applied openedAt).step timed
      (.call timed.wakesAt ⟨.rxStart, accepting⟩) = some called := by
    have world := @rxStart_marks _ protocol (accepting.frozen timed.wakesAt) timed.world.start
      unattended.opened unattended.started
    refine (if_pos ⟨later, Nat.le_add_right _ _⟩).trans (congrArg some ?_)
    rw [performs_quietly (by rw [executeCall, world]; rfl), executeCall, world]
  have skips := @skipped_wake _ protocol late applied openedAt called unattended.opened
    (Nat.le_refl _) (by
      change timed.wakesAt - timed.wakesAt < keepaliveInterval
      rw [Nat.sub_self]
      decide)
  refine ⟨_, .step (.step reached ?_ marks) ?_ skips, unattended.opened, unattended.started,
    rfl, ?_⟩
  · exact accepting_delivers
  · exact accepting_delivers
  change timed.heardAt + (silence + keepaliveInterval) ≤ timed.wakesAt
  rw [unattended.waking, ← Nat.add_assoc]
  exact Nat.add_le_add_right unattended.silent _

theorem unattended_reachable (rounds : Nat) :
    ∃ timed : Timed types, (timedMachine protocol late applied openedAt).ReachableBy
        (fun _ moment => moment.Delivers) timed ∧
      timed.Unattended (rounds * keepaliveInterval) := by
  induction rounds with
  | zero =>
      have starts : (timedMachine protocol late applied openedAt).step
          (timedMachine protocol late applied openedAt).initial
          (.call openedAt ⟨.rxStart, accepting⟩) =
          some ((timedMachine protocol late applied openedAt).initial.performs protocol openedAt
            accepting .rxStart) :=
        if_pos ⟨Nat.le_refl _, Nat.le_add_right_of_le (Nat.le_add_right _ _)⟩
      refine ⟨_, .step .initial ?_ starts, rfl, rfl, rfl, ?_⟩
      · exact accepting_delivers
      rw [Nat.zero_mul]
      exact Nat.le_refl _
  | succ rounds induction =>
      rcases induction with ⟨timed, reached, unattended⟩
      rw [Nat.succ_mul]
      exact silence_lasts reached unattended

end Silence

/-- On a transport that takes every frame: where every call that marks a write sends
something, the device waits for its next command less than 1000 ms and `late` together, but
a nanosecond less than that it may have to wait. Where `rx_start` is called again and again
in receive mode, it waits for any time. -/
theorem keepalive_has_no_margin (late : Duration) (applied : Option (Modulation types))
    (openedAt : Instant) :
    (∀ timed,
      (timedMachine protocol late applied openedAt).ReachableBy
        (fun current moment => ¬moment.MarksOnly protocol current ∧ moment.Delivers) timed →
      timed.time < timed.heardAt + fromMillis 1000 + late) ∧
    (∃ timed,
      (timedMachine protocol late applied openedAt).ReachableBy
        (fun current moment => ¬moment.MarksOnly protocol current ∧ moment.Delivers) timed ∧
      timed.time + 1 = timed.heardAt + fromMillis 1000 + late) ∧
    ∀ silence, ∃ timed,
      (timedMachine protocol late applied openedAt).ReachableBy
        (fun _ moment => moment.Delivers) timed ∧
      timed.heardAt + silence ≤ timed.time := by
  refine ⟨fun timed reached => ?_, longest_silence, fun silence => ?_⟩
  · have attended := attended_of_reachable reached
    have doubled : fromMillis 1000 = 2 * keepaliveInterval := by decide
    calc timed.time
      _ ≤ timed.wakesAt + late := attended.awaited
      _ < timed.heardAt + 2 * keepaliveInterval + late := Nat.add_lt_add_right attended.waking _
      _ = timed.heardAt + fromMillis 1000 + late := by rw [doubled]
  · obtain ⟨timed, reached, unattended⟩ :=
      @unattended_reachable _ protocol late applied openedAt silence
    refine ⟨timed, reached, ?_⟩
    calc timed.heardAt + silence
      _ ≤ timed.heardAt + silence * keepaliveInterval :=
          Nat.add_le_add_left (Nat.le_mul_of_pos_right _ (by decide)) _
      _ ≤ timed.time := unattended.silent

end DongloraClient.Dongle
