import DongloraClient.Dongle.CommandLog
import DongloraClient.Dongle.LockOrder
import DongloraClient.Session.Correlation

/-! # After close

There are two flags. `Session.closed` is looked at by every `send_command` when it
begins, `Dongle.closed` by every operation when it begins; `close` sets the second
before the first. What was under way when a flag was set goes on, and these are the
limits within which it does.
-/

namespace DongloraClient.Dongle

open Foundation Session

variable {types : WireTypes} {protocol : Protocol types}

/-! ## A closed session -/

def Unsent (phase : Phase types) : Prop :=
  phase = .idle ∨
    ∃ request, phase = .returned request none (.error (.transportClosed "session closed"))

section Sessions

variable {state next : State types} {action : Action} {id : CallId}

theorem closed_of_transition (transition : Transition protocol state action next)
    (closed : state.closed = true) : next.closed = true := by
  cases transition with
  | closeStore => rfl
  | register | cleanup | reinsert | readerStop =>
      simpa [State.record, State.setPhase, State.insertSlot, State.removeSlot] using closed
  | _ => exact closed

theorem unsent_of_advance {before after : Phase types}
    (advances : Advance protocol state id action before after) (closed : state.closed = true)
    (unsent : Unsent before) : Unsent after := by
  cases advances with
  | refuse request => exact .inr ⟨request, rfl⟩
  | accept request opened => rw [closed] at opened; cases opened
  | _ => simp [Unsent] at unsent

theorem unsent_of_transition (transition : Transition protocol state action next)
    (closed : state.closed = true) (unsent : Unsent (state.calls id)) :
    Unsent (next.calls id) := by
  cases transition.callStep id with
  | keeps same =>
      rw [same]
      exact unsent
  | advance current reached advances =>
      rw [current] at unsent
      rw [reached]
      exact unsent_of_advance advances closed unsent
  | allocTag current _ | register current _ _ _ | cleanup current _ =>
      rw [current] at unsent
      simp [Unsent] at unsent

theorem refused_of_begin {request : Request}
    (begins : Transition protocol state (.begin id request) next)
    (closed : state.closed = true) :
    next = state.setPhase id
      (.returned request none (.error (.transportClosed "session closed"))) := by
  cases begins with
  | advance other current advances =>
      cases advances with
      | refuse => rfl
      | accept _ opened => rw [closed] at opened; cases opened
  | readerMoves current moves => cases moves

theorem closed_of_shifts (shifts : Shifts protocol state next) (closed : state.closed = true) :
    next.closed = true := by
  cases shifts with
  | queues => exact closed
  | steps transition => exact closed_of_transition transition closed

theorem unsent_of_shifts (shifts : Shifts protocol state next) (closed : state.closed = true)
    (unsent : Unsent (state.calls id)) : Unsent (next.calls id) := by
  cases shifts with
  | queues => exact unsent
  | steps transition => exact unsent_of_transition transition closed unsent

end Sessions

/-! ## Operations that learn of it -/

def Command.sawClosed (command : Command types) : Bool :=
  match command.result with
  | .error (.transportClosed _) => true
  | .ok (.err (.transportClosed _)) => true
  | _ => false

def Clean (log : List (Command types)) : Prop :=
  ∀ command ∈ log, command.sawClosed = false

/-- The operation issues no command after one that came back with
`TransportClosed`. -/
def Ceases {Result : Type} (returns : List (Command types) → Result → Prop)
    (log : List (Command types)) (operation : Operation types Result) : Prop :=
  Commands (fun _ => True) (fun log _ => Clean log) returns log operation

def Passes {Value : Type} (log : List (Command types)) (result : ClientResult Value) : Prop :=
  Clean log ∨ ∃ reason, result = .error (.transportClosed reason)

section Ceasing

variable {log : List (Command types)} {Value : Type}

theorem result_of_sawClosed {command : Command types} (saw : command.sawClosed = true) :
    ∃ reason, command.result = .error (.transportClosed reason) ∨
      command.result = .ok (.err (.transportClosed reason)) := by
  rw [Command.sawClosed] at saw
  split at saw
  · next reason same => exact ⟨reason, .inl same⟩
  · next reason same => exact ⟨reason, .inr same⟩
  · cases saw

def PassesErrors (read : ClientResult (SessionResponse types) → ClientResult Value) : Prop :=
  ∀ error, read (.error error) = .error error ∧ read (.ok (.err error)) = .error error

theorem passes_command {request : Request} {result : ClientResult (SessionResponse types)}
    {read : ClientResult (SessionResponse types) → ClientResult Value}
    (passesErrors : PassesErrors read) (clean : Clean log) :
    Passes (⟨request, result⟩ :: log) (read result) := by
  cases saw : Command.sawClosed ⟨request, result⟩ with
  | false =>
      left
      intro command member
      rcases List.mem_cons.mp member with rfl | earlier
      · exact saw
      · exact clean command earlier
  | true =>
      right
      rcases result_of_sawClosed saw with ⟨reason, same | same⟩
      · cases same
        exact ⟨reason, (passesErrors _).1⟩
      · cases same
        exact ⟨reason, (passesErrors _).2⟩

theorem Passes.recast {Other : Type} {error : ClientError}
    (passes : Passes log (.error error : ClientResult Value)) :
    Passes log (.error error : ClientResult Other) := by
  rcases passes with clean | ⟨reason, same⟩
  · exact .inl clean
  · cases same
    exact .inr ⟨reason, rfl⟩

theorem Passes.clean {result : ClientResult Value} (passes : Passes log result)
    (other : ∀ reason, result ≠ .error (.transportClosed reason)) : Clean log := by
  rcases passes with clean | ⟨reason, same⟩
  · exact clean
  · exact absurd same (other reason)

theorem ceases_emptyResult {name : String} {typeId : UInt8} {payload : List UInt8}
    {timeout : Duration} (clean : Clean log) :
    Ceases Passes log (do
      return emptyResult protocol name (← sendCommand typeId payload timeout)) := by
  have sending : Ceases (fun reached result =>
      reached = ⟨⟨typeId, payload⟩, result⟩ :: log) log (sendCommand typeId payload timeout) :=
    commands_of_sendCommand trivial clean fun _ => rfl
  apply Commands.bind sending
  intro reached result logged
  rw [logged]
  exact passes_command (fun _ => ⟨rfl, rfl⟩) clean

theorem ceases_session_setConfig {config : Modulation types} {timeout : Duration}
    (clean : Clean log) : Ceases Passes log (Session.setConfig protocol config timeout) := by
  apply commands_of_setConfig trivial
  · intro reason
    exact .inl clean
  · intro payload
    exact clean
  · intro payload result
    exact passes_command (fun _ => ⟨rfl, rfl⟩) clean

theorem ceases_session_transmit {data : List UInt8} {skipCad : Bool} {timeout : Duration}
    (clean : Clean log) : Ceases Passes log (Session.transmit protocol data skipCad timeout) := by
  apply commands_of_transmit trivial
  · exact .inl clean
  · intro payload
    exact clean
  · intro payload result
    exact passes_command (fun _ => ⟨rfl, rfl⟩) clean

/-! ### Operations -/

def Anything {Result : Type} (_log : List (Command types)) (_value : Result) : Prop := True

theorem ceases_quiet {Result : Type} {operation : Operation types Result}
    (quiet : Quiet operation) : Ceases Anything log operation :=
  commands_of_quiet quiet trivial fun _ => trivial

theorem ceases_ifOpen {Result : Type} {next : ClientResult Unit → Operation types Result}
    (refuses : ∀ error, ∃ value, next (.error error) = .done value)
    (goesOn : Ceases Anything log (next (.ok ()))) :
    Ceases Anything log (checkOpen >>= next) := by
  apply commands_after_quiet quiet_checkOpen trivial
  intro result
  cases result with
  | error error =>
      rcases refuses error with ⟨value, refused⟩
      rw [refused]
      trivial
  | ok => exact goesOn

theorem ceases_reapplyConfig (clean : Clean log) :
    Ceases Passes log (reapplyConfig protocol) := by
  apply commands_after_quiet (quiet_read .appliedConfig) trivial
  intro cached
  cases cached with
  | none => exact .inl clean
  | some config =>
      apply Commands.bind (ceases_session_setConfig clean)
      intro reached result passes
      cases result with
      | error error => exact passes.recast
      | ok result =>
          apply commands_after_quiet (quiet_write .appliedConfig _) trivial
          intro
          exact .inl (passes.clean (by simp))

theorem ceases_recoverAndRetryTx {data : List UInt8} {skipCad : Bool} {timeout : Duration}
    (clean : Clean log) :
    Ceases Passes log (recoverAndRetryTx protocol data skipCad timeout) := by
  apply Commands.bind (ceases_reapplyConfig clean)
  intro reached result passes
  cases result with
  | error error => exact passes.recast
  | ok => exact ceases_session_transmit (passes.clean (by simp))

theorem Ceases.finally {Result : Type} {returns : List (Command types) → Result → Prop}
    {operation : Operation types Result} (ceases : Ceases returns log operation) :
    Ceases Anything log operation :=
  Program.Satisfies.weaken ceases fun _ _ _ => trivial

theorem ceases_txWithTimeout (data : List UInt8) (skipCad : Bool) (timeout : Duration)
    (clean : Clean log) :
    Ceases Anything log (txWithTimeout protocol data skipCad timeout) := by
  refine ceases_ifOpen (fun _ => ⟨_, rfl⟩) ?_
  apply commands_after_quiet quiet_markWrite trivial
  intro
  apply Commands.bind (ceases_session_transmit clean)
  intro reached result passes
  split
  · exact (ceases_recoverAndRetryTx (passes.clean (by simp))).finally
  · trivial

theorem ceases_txAttempts (data : List UInt8) (policy : RetryPolicy) (numbers : List UInt8)
    (attempts : List TxAttempt) (delayMs : UInt32) (clean : Clean log) :
    Ceases Anything log (txAttempts protocol data policy numbers attempts delayMs) := by
  induction numbers generalizing log attempts delayMs with
  | nil => trivial
  | cons attemptNum later induction =>
      apply commands_after_quiet quiet_markWrite trivial
      intro
      apply commands_after_quiet (quiet_perform rfl) trivial
      intro started
      apply Commands.bind (ceases_session_transmit clean)
      intro reached result passes
      apply commands_after_quiet (quiet_perform rfl) trivial
      intro ended
      cases result with
      | ok done => trivial
      | error error =>
          change Ceases Anything reached (if _ then _ else _)
          split
          · trivial
          · next retryable =>
            have other : ∀ reason, error ≠ .transportClosed reason := by
              intro reason same
              subst same
              simp [ClientError.isRetryable] at retryable
            apply commands_after_quiet (quiet_jitterMs policy) trivial
            intro jitter
            apply commands_after_quiet (quiet_perform rfl) trivial
            intro
            exact induction _ _ (passes.clean (by simpa using other))

theorem ceases_rxStart (clean : Clean log) : Ceases Anything log (rxStart protocol) := by
  refine ceases_ifOpen (fun _ => ⟨_, rfl⟩) ?_
  apply commands_after_quiet quiet_markWrite trivial
  intro
  apply commands_after_quiet (quiet_perform rfl) trivial
  intro
  apply commands_after_quiet (quiet_perform rfl) trivial
  intro started
  cases started with
  | true => exact ceases_quiet ((quiet_perform rfl).bind fun _ => trivial)
  | false =>
      apply Commands.bind (ceases_emptyResult clean)
      intro reached result passes
      split
      · apply commands_after_quiet (quiet_perform rfl) trivial
        intro
        apply Commands.bind (ceases_reapplyConfig (passes.clean (by simp)))
        intro reapplied result passes
        cases result with
        | error => trivial
        | ok =>
            apply Commands.bind (ceases_emptyResult (passes.clean (by simp)))
            intro restarted result passes
            cases result with
            | error => trivial
            | ok => exact ceases_quiet ((quiet_write .rxStarted true).bind fun _ => trivial)
      · exact ceases_quiet ((quiet_perform rfl).bind fun _ => trivial)
      · exact ceases_quiet ((quiet_perform rfl).bind fun _ =>
          (quiet_perform rfl).bind fun _ => trivial)

theorem ceases_rxStop (clean : Clean log) : Ceases Anything log (rxStop protocol) := by
  refine ceases_ifOpen (fun _ => ⟨_, rfl⟩) ?_
  apply commands_after_quiet quiet_markWrite trivial
  intro
  apply Commands.bind (ceases_emptyResult clean)
  intro reached result passes
  cases result with
  | error => trivial
  | ok => exact ceases_quiet ((quiet_write .rxStarted false).bind fun _ => trivial)

theorem ceases_ensureReceiving (clean : Clean log) :
    Ceases Anything log (ensureReceiving protocol) := by
  refine ceases_ifOpen (fun _ => ⟨_, rfl⟩) ?_
  apply commands_after_quiet (quiet_read .rxStarted) trivial
  intro started
  cases started with
  | true => trivial
  | false =>
      apply Commands.bind (ceases_rxStart clean)
      intro reached result _
      cases result <;> trivial

theorem ceases_setConfig (modulation : Modulation types) (clean : Clean log) :
    Ceases Anything log (setConfig protocol modulation) := by
  refine ceases_ifOpen (fun _ => ⟨_, rfl⟩) ?_
  apply commands_after_quiet quiet_markWrite trivial
  intro
  apply Commands.bind (ceases_session_setConfig clean)
  intro reached result passes
  cases result with
  | error => trivial
  | ok result =>
      exact ceases_quiet ((quiet_write .appliedConfig _).bind fun _ =>
        (quiet_write .rxStarted false).bind fun _ => trivial)

theorem ceases_keepaliveTick (clean : Clean log) :
    Ceases Anything log (keepaliveTick protocol) := by
  apply commands_after_quiet (quiet_perform rfl) trivial
  intro
  apply commands_after_quiet (quiet_read .closed) trivial
  intro closed
  cases closed with
  | true => trivial
  | false =>
      apply commands_after_quiet (quiet_read .lastWriteAt) trivial
      intro last
      apply commands_after_quiet (quiet_perform rfl) trivial
      intro instant
      change Ceases Anything log (if _ then _ else _)
      split
      · trivial
      · apply Commands.bind (ceases_emptyResult clean)
        intro reached result passes
        split
        · exact ceases_quiet (quiet_markWrite.bind fun _ => trivial)
        · apply commands_after_quiet (quiet_read .appliedConfig) trivial
          intro cached
          cases cached with
          | none => trivial
          | some config =>
              apply Commands.bind (ceases_session_setConfig (passes.clean (by simp)))
              intro configured result passes
              cases result with
              | error => trivial
              | ok => exact ceases_quiet (quiet_markWrite.bind fun _ => trivial)
        · trivial

theorem quiet_close : Quiet (close : Operation types Unit) := by
  refine (quiet_perform rfl).bind fun _ => (quiet_perform rfl).bind fun closed => ?_
  cases closed with
  | true => exact quiet_perform rfl
  | false =>
      exact (quiet_perform rfl).bind fun _ => (quiet_perform rfl).bind fun _ =>
        (quiet_perform rfl).bind fun _ => quiet_perform rfl

/-- No operation issues a command after one that came back with
`TransportClosed`. -/
theorem ceases_operationOf (call : Call types) :
    Ceases Anything [] (operationOf protocol call) := by
  have clean : Clean ([] : List (Command types)) := by simp [Clean]
  have wrap : ∀ {Result : Type} {operation : Operation types Result}
      {outcome : Result → Outcome types}, Ceases Anything [] operation →
      Ceases Anything [] (do return outcome (← operation)) := by
    intro Result operation outcome ceases
    exact Commands.bind ceases fun _ _ _ => trivial
  cases call with
  | txWithTimeout data skipCad timeout => exact wrap (ceases_txWithTimeout _ _ _ clean)
  | txWithRetry data policy =>
      exact wrap (ceases_ifOpen (fun _ => ⟨_, rfl⟩) (ceases_txAttempts _ _ _ _ _ clean))
  | rxStart => exact wrap (ceases_rxStart clean)
  | rxStop => exact wrap (ceases_rxStop clean)
  | recv timeout =>
      refine wrap (Commands.bind (ceases_ensureReceiving clean) ?_)
      intro reached receiving _
      cases receiving with
      | true => exact ceases_quiet (quiet_perform rfl)
      | false => trivial
  | nextRx =>
      refine wrap (Commands.bind (ceases_ensureReceiving clean) ?_)
      intro reached receiving _
      cases receiving with
      | true => exact ceases_quiet (quiet_perform rfl)
      | false => trivial
  | setConfig modulation => exact wrap (ceases_setConfig modulation clean)
  | ping =>
      refine wrap (ceases_ifOpen (fun _ => ⟨_, rfl⟩) ?_)
      apply commands_after_quiet quiet_markWrite trivial
      intro
      exact (ceases_emptyResult clean).finally
  | drainAsyncErrors => exact ceases_quiet ((quiet_perform rfl).bind fun _ => trivial)
  | config => exact ceases_quiet ((quiet_read .appliedConfig).bind fun _ => trivial)
  | close => exact ceases_quiet (quiet_close.bind fun _ => trivial)
  | keepaliveTick => exact wrap (ceases_keepaliveTick clean)

end Ceasing

theorem notCommand_of_plain {effect : Effect types} (isPlain : Effect.isPlain effect = true) :
    Effect.isCommand effect = false := by
  cases effect with
  | sendCommand => cases isPlain
  | _ => rfl

section Pools

variable {session : State types} {applied : Option (Modulation types)} {openedAt : Instant}
  {pool next : Pool types} {task : TaskId}

theorem ceases_of_pool
    (reached : (poolMachine protocol session applied openedAt).Reachable pool)
    {call : Call types} {operation : Operation types (Outcome types)}
    {inFlight : Option CallId} {log : List (Command types)}
    (running : pool.tasks task = .running call operation inFlight log) :
    Ceases Anything log operation := by
  have all : ∀ task call operation inFlight log,
      pool.tasks task = .running call operation inFlight log → Ceases Anything log operation := by
    apply reached.invariant
    · intro task call operation inFlight log running
      cases running
    · intro current action next before _ stepped task call operation inFlight log running
      have step := (poolTransition_of_step stepped).taskStep task
      rw [running] at step
      generalize after : PoolTask.running call operation inFlight log = reached at step
      cases step with
      | same => exact before task call operation inFlight log after.symm
      | starts =>
          cases after
          exact ceases_operationOf call
      | issues id current =>
          cases after
          exact before task _ _ _ _ current
      | performs current answers =>
          cases after
          refine (before task _ _ _ _ current).2 _ _ (.other _ _ ?_)
          cases answers with
          | plain _ _ isPlain => exact notCommand_of_plain isPlain
          | _ => rfl
      | collects result current =>
          cases after
          exact (before task _ _ _ _ current).2 _ _ (.command _ _ _ _)
      | closes current =>
          cases after
          exact (before task _ _ _ _ current).2 _ _ (.other _ _ rfl)
  exact all task call operation inFlight log running

def Command.Refused (command : Command types) : Prop :=
  command.result = .error (.transportClosed "session closed")

/-- Since a task waited for `begun` and its log was `before`, what came back to it was
the answer to `begun` or was refused, and so will be what it waits for now. -/
def Ending (pool : Pool types) (task : TaskId) (begun : Option CallId)
    (before : List (Command types)) : Prop :=
  ∃ call operation inFlight newer,
    pool.tasks task = .running call operation inFlight (newer ++ before) ∧
    (∀ command ∈ newer, command.Refused ∨ ∃ id request tag, begun = some id ∧
      pool.session.calls id = .returned request tag command.result) ∧
    ∀ id, inFlight = some id → begun = some id ∨ Unsent (pool.session.calls id)

theorem returned_of_shifts {state after : State types} (shifts : Shifts protocol state after)
    {id : CallId} {request : Request} {tag : Option UInt16}
    {result : ClientResult (SessionResponse types)}
    (returned : state.calls id = .returned request tag result) :
    after.calls id = .returned request tag result := by
  cases shifts with
  | queues => exact returned
  | steps transition => exact transition.stays_returned returned

theorem Ending.keeps {begun : Option CallId} {before log : List (Command types)}
    {call : Call types} {operation : Operation types (Outcome types)}
    {inFlight : Option CallId} (ending : Ending pool task begun before)
    (shifts : Shifts protocol pool.session next.session) (closed : pool.session.closed = true)
    (current : ∃ call operation, pool.tasks task = .running call operation inFlight log)
    (after : next.tasks task = .running call operation inFlight log) :
    Ending next task begun before := by
  rcases ending with ⟨oldCall, oldOperation, oldInFlight, newer, running, answered, waiting⟩
  rcases current with ⟨_, _, current⟩
  rw [running] at current
  cases current
  refine ⟨call, operation, inFlight, newer, after, ?_, ?_⟩
  · intro command member
    rcases answered command member with refused | ⟨id, request, tag, own, returned⟩
    · exact .inl refused
    · exact .inr ⟨id, request, tag, own, returned_of_shifts shifts returned⟩
  · intro id waits
    rcases waiting id waits with own | unsent
    · exact .inl own
    · exact .inr (unsent_of_shifts shifts closed unsent)

theorem Ending.step {begun : Option CallId} {before : List (Command types)}
    {action : PoolAction types} (ending : Ending pool task begun before)
    (closed : pool.session.closed = true)
    (transition : PoolTransition protocol pool action next) :
    Ending next task begun before := by
  have shifts := transition.shifts
  have parts := ending
  rcases parts with ⟨call, operation, inFlight, newer, running, answered, waiting⟩
  by_cases own : action.task = some task
  · cases transition with
    | starts actor call idle =>
        cases own
        rw [running] at idle
        cases idle
    | performs actor choice current answers =>
        cases own
        exact ending.keeps shifts closed ⟨_, _, current⟩ (Pool.setTask_self _ _ _)
    | issues actor id current begins =>
        cases own
        rw [running] at current
        cases current
        refine ⟨_, _, some id, newer, Pool.setTask_self _ _ _, ?_, ?_⟩
        · intro command member
          rcases answered command member with refused | ⟨id, request, tag, own, returned⟩
          · exact .inl refused
          · exact .inr ⟨id, request, tag, own, returned_of_shifts shifts returned⟩
        · intro other waits
          cases waits
          right
          rw [refused_of_begin begins closed]
          exact .inr ⟨_, by simp [State.setPhase]; rfl⟩
    | @collects actor id call request begun timeout tag rest log result current returned =>
        cases own
        rw [running] at current
        cases current
        refine ⟨_, _, none, ⟨request, result⟩ :: newer, Pool.setTask_self _ _ _, ?_, by simp⟩
        intro command member
        rcases List.mem_cons.mp member with rfl | earlier
        · rcases waiting id rfl with same | idle | ⟨other, refused⟩
          · exact .inr ⟨id, _, _, same, returned⟩
          · rw [returned] at idle
            cases idle
          · rw [returned] at refused
            cases refused
            exact .inl rfl
        · exact answered command earlier
    | closes actor current closing steps goesOn =>
        cases own
        rcases goesOn with same | continues
        · rw [same] at shifts ⊢
          exact ending.keeps shifts closed ⟨_, _, running⟩ ((Pool.setTask_self _ _ _).trans running)
        · rw [continues] at shifts ⊢
          exact ending.keeps shifts closed ⟨_, _, current⟩ (Pool.setTask_self _ _ _)
    | background => cases own
  · exact ending.keeps shifts closed ⟨_, _, running⟩ ((transition.elsewhere own).trans running)

end Pools

/-! ## A closed dongle -/

def refusal : Call types → Option (Outcome types)
  | .txWithTimeout _ _ _ => some (.transmitted (.error (.transportClosed "dongle closed")))
  | .txWithRetry _ _ => some (.retried (.error (.transportClosed "dongle closed")))
  | .rxStart => some (.finished (.error (.transportClosed "dongle closed")))
  | .rxStop => some (.finished (.error (.transportClosed "dongle closed")))
  | .recv _ => some (.received none)
  | .nextRx => some (.received none)
  | .setConfig _ => some (.finished (.error (.transportClosed "dongle closed")))
  | .ping => some (.finished (.error (.transportClosed "dongle closed")))
  | .close => some .closed
  | .drainAsyncErrors => none
  | .config => none
  | .keepaliveTick => none

/-- Finding the flag set, the operation looks at nothing else and returns `outcome`;
the number counts its effects until then. -/
inductive Refuses (outcome : Outcome types) : Nat → Operation types (Outcome types) → Prop
  | returns : Refuses outcome 0 (.done outcome)
  | releases {next : Unit → Operation types (Outcome types)}
      (rest : Refuses outcome 0 (next ())) :
      Refuses outcome 1 (.perform (.release .closed) next)
  | loads {next : Bool → Operation types (Outcome types)}
      (rest : Refuses outcome 1 (next true)) :
      Refuses outcome 2 (.perform (.load .closed) next)
  | acquires {next : Unit → Operation types (Outcome types)}
      (rest : Refuses outcome 2 (next ())) :
      Refuses outcome 3 (.perform (.acquire .closed) next)

theorem refuses_operationOf {call : Call types} {outcome : Outcome types}
    (refused : refusal call = some outcome) : Refuses outcome 3 (operationOf protocol call) := by
  cases call with
  | drainAsyncErrors | config | keepaliveTick => cases refused
  | _ =>
      cases refused
      exact .acquires (.loads (.releases .returns))

section Declining

variable {pool next : Pool types} {task : TaskId} {call : Call types}
  {outcome : Outcome types}

theorem closed_of_poolTransition {action : PoolAction types}
    (keeping : ∀ task, ∃ held, Locks.Keeping effectUse Orderly pool.crew task held)
    (transition : PoolTransition protocol pool action next) (closed : pool.inner.closed = true) :
    next.inner.closed = true := by
  cases transition with
  | performs task choice current answers =>
      cases answers with
      | store cell value =>
          rcases keeping task with ⟨held, keeps⟩
          have orderly := (keeps.disciplined _ (crew_tasks current)).1
          cases cell with
          | closed => exact orderly.2
          | _ => exact closed
      | _ => exact closed
  | _ => exact closed

def Declining (pool : Pool types) (task : TaskId) (call : Call types)
    (outcome : Outcome types) (left : Nat) : Prop :=
  ∃ operation, pool.tasks task = .running call operation none [] ∧
    Refuses outcome left operation

theorem declining_step {left : Nat} (closed : pool.inner.closed = true)
    (declining : Declining pool task call outcome left)
    (step : TaskStep protocol pool task (next.tasks task)) :
    ∃ left, Declining next task call outcome left := by
  rcases declining with ⟨operation, running, refuses⟩
  generalize after : next.tasks task = reached at step
  cases step with
  | same => exact ⟨left, operation, after.trans running, refuses⟩
  | starts _ idle =>
      rw [running] at idle
      cases idle
  | issues _ current =>
      rw [running] at current
      cases current
      cases refuses
  | performs current answers =>
      rw [running] at current
      cases current
      cases refuses with
      | releases rest => exact ⟨0, _, after, rest⟩
      | acquires rest => exact ⟨2, _, after, rest⟩
      | loads rest =>
          cases answers with
          | load =>
              have flag : pool.inner.get .closed = true := closed
              rw [flag] at after
              exact ⟨1, _, after, rest⟩
          | plain _ _ isPlain => cases isPlain
  | collects _ current =>
      rw [running] at current
      cases current
  | closes current =>
      rw [running] at current
      cases current
      cases refuses

theorem declining_harmless {left : Nat} {action : PoolAction types}
    (declining : Declining pool task call outcome left)
    (transition : PoolTransition protocol pool action next) (own : action.task = some task) :
    next.inner = pool.inner ∧ next.session = pool.session := by
  rcases declining with ⟨operation, running, refuses⟩
  cases transition with
  | starts actor call idle =>
      cases own
      rw [running] at idle
      cases idle
  | performs actor choice current answers =>
      cases own
      rw [running] at current
      cases current
      cases answers with
      | acquire | release | load => exact ⟨rfl, rfl⟩
      | store => cases refuses
      | plain _ _ isPlain =>
          cases refuses <;> cases isPlain
  | issues actor id current begins =>
      cases own
      rw [running] at current
      cases current
      cases refuses
  | collects actor current returned => exact ⟨rfl, rfl⟩
  | closes actor current closing steps goesOn =>
      cases own
      rw [running] at current
      cases current
      cases refuses
  | background => cases own

/-! ### It does return -/

variable {session : State types} {applied : Option (Modulation types)} {openedAt : Instant}

theorem run_perform {effect : Effect types}
    {rest : Answer effect → Operation types (Outcome types)} {log : List (Command types)}
    {answer : Answer effect} {reached final : Pool types} {actions : List (PoolAction types)}
    (current : pool.tasks task = .running call (.perform effect rest) none log)
    (answered : answerEffect .any task pool effect = some (answer, reached))
    (ran : (poolMachine protocol session applied openedAt).run
      (reached.setTask task (.running call (rest answer) none log)) actions = some final) :
    (poolMachine protocol session applied openedAt).run pool
      (.perform task .any :: actions) = some final := by
  have stepped : (poolMachine protocol session applied openedAt).step pool
      (.perform task .any) = some (reached.setTask task (.running call (rest answer) none log)) :=
    stepPool_perform protocol current answered
  rw [Machine.run_cons, stepped]
  exact ran

theorem run_declining {left : Nat} (declining : Declining pool task call outcome left)
    (closed : pool.inner.closed = true) (free : left = 3 → pool.holders .closed = none) :
    ∃ actions final, (∀ action ∈ actions, action = .perform task .any) ∧
      (poolMachine protocol session applied openedAt).run pool actions = some final ∧
      final.tasks task = .running call (.done outcome) none [] := by
  rcases declining with ⟨operation, running, refuses⟩
  induction refuses generalizing pool with
  | returns => exact ⟨[], pool, by simp, rfl, running⟩
  | releases rest induction =>
      rcases @induction ((pool.setHolder .closed none).setTask task _) closed (by simp)
        (Pool.setTask_self _ _ _) with ⟨actions, final, own, ran, returned⟩
      exact ⟨.perform task .any :: actions, final, by simpa using own,
        run_perform running rfl ran, returned⟩
  | loads rest induction =>
      have answered : answerEffect .any task pool (.load .closed) = some (true, pool) := by
        have flag : pool.inner.get .closed = true := closed
        rw [answerEffect, flag]
        rfl
      rcases @induction (pool.setTask task _) closed (by simp) (Pool.setTask_self _ _ _) with
        ⟨actions, final, own, ran, returned⟩
      exact ⟨.perform task .any :: actions, final, by simpa using own,
        run_perform running answered ran, returned⟩
  | acquires rest induction =>
      have answered : answerEffect .any task pool (.acquire .closed) =
          some ((), pool.setHolder .closed (some task)) := by
        simp only [answerEffect, free rfl]
        rfl
      rcases @induction ((pool.setHolder .closed (some task)).setTask task _) closed (by simp)
        (Pool.setTask_self _ _ _) with ⟨actions, final, own, ran, returned⟩
      exact ⟨.perform task .any :: actions, final, by simpa using own,
        run_perform running answered ran, returned⟩

/-- Whoever holds the lock of the flag can go on until it gives the lock up, since
nothing it does until then has to wait. -/
theorem run_release {holder : TaskId} {operation : Operation types (Outcome types)}
    {held : List Cell} {log : List (Command types)}
    (running : pool.tasks holder = .running call operation none log)
    (disciplined : Locks.Disciplined effectUse Orderly held operation)
    (holds : .closed ∈ held) (closed : pool.inner.closed = true) :
    ∃ actions final, (∀ action ∈ actions, action = .perform holder .any) ∧
      (poolMachine protocol session applied openedAt).run pool actions = some final ∧
      final.holders .closed = none ∧ final.inner.closed = true ∧
      ∀ task ≠ holder, final.tasks task = pool.tasks task := by
  induction operation generalizing pool held with
  | done value =>
      have nothing : held = [] := disciplined
      rw [nothing] at holds
      cases holds
  | perform effect rest induction =>
      have orderly := disciplined.1
      have goesOn : ∀ {answer reached},
          answerEffect .any holder pool effect = some (answer, reached) →
          reached.tasks = pool.tasks → reached.inner.closed = true →
          .closed ∈ Locks.after effectUse held effect →
          ∃ actions final, (∀ action ∈ actions, action = .perform holder .any) ∧
            (poolMachine protocol session applied openedAt).run pool actions = some final ∧
            final.holders .closed = none ∧ final.inner.closed = true ∧
            ∀ task ≠ holder, final.tasks task = pool.tasks task := by
        intro answer reached answered sameTasks stillClosed stillHolds
        rcases @induction answer (reached.setTask holder _) _ (Pool.setTask_self _ _ _)
          (disciplined.2 answer _ rfl) stillHolds stillClosed with
          ⟨actions, final, own, ran, released, flag, others⟩
        refine ⟨.perform holder .any :: actions, final, by simpa using own,
          run_perform running answered ran, released, flag, ?_⟩
        intro other different
        rw [others other different, Pool.setTask_ne _ _ _ different, sameTasks]
      cases effect with
      | acquire cell =>
          have below := orderly .closed holds
          cases cell <;> simp [cellRank] at below
      | release cell =>
          by_cases own : cell = .closed
          · subst own
            refine ⟨[.perform holder .any], (pool.setHolder .closed none).setTask holder _,
              by simp, run_perform running rfl rfl, ?_, closed, ?_⟩
            · simp [Pool.setHolder]
            · intro other different
              exact Pool.setTask_ne _ _ _ different
          · rcases List.head?_eq_some_iff.mp orderly with ⟨older, rfl⟩
            refine goesOn rfl rfl closed ?_
            rcases List.mem_cons.mp holds with same | older
            · exact absurd same.symm own
            · exact older
      | load cell => exact goesOn rfl rfl closed holds
      | store cell value =>
          refine goesOn rfl rfl ?_ holds
          cases cell with
          | closed => exact orderly.2
          | _ => exact closed
      | recvRx | nextRx | panic =>
          have nothing : held = [] := orderly
          rw [nothing] at holds
          cases holds
      | _ =>
          have outer := orderly .closed holds
          cases outer

/-- A task waits for a `send_command` call only where its next effect is a command. -/
theorem inFlight_of_pool
    (reached : (poolMachine protocol session applied openedAt).Reachable pool)
    {operation : Operation types (Outcome types)} {id : CallId} {log : List (Command types)}
    (running : pool.tasks task = .running call operation (some id) log) :
    ∃ request timeout next, operation = .perform (.sendCommand request timeout) next := by
  have all : ∀ task call operation id log,
      pool.tasks task = .running call operation (some id) log →
      ∃ request timeout next, operation = .perform (.sendCommand request timeout) next := by
    apply reached.invariant
    · intro task call operation id log running
      cases running
    · intro current action next before _ stepped task call operation id log running
      have step := (poolTransition_of_step stepped).taskStep task
      rw [running] at step
      generalize after : PoolTask.running call operation (some id) log = reached at step
      cases step with
      | same => exact before task call operation id log after.symm
      | issues =>
          cases after
          exact ⟨_, _, _, rfl⟩
      | _ => cases after
  exact all task call operation id log running

theorem declining_returns {left : Nat}
    (reached : (poolMachine protocol session applied openedAt).Reachable pool)
    (declining : Declining pool task call outcome left) (closed : pool.inner.closed = true) :
    ∃ actions final, (∀ action ∈ actions, ∃ actor, action = .perform actor .any ∧
        (actor = task ∨ pool.holders .closed = some actor)) ∧
      (poolMachine protocol session applied openedAt).run pool actions = some final ∧
      final.tasks task = .running call (.done outcome) none [] := by
  by_cases waits : left = 3 ∧ pool.holders .closed ≠ none
  · rcases Option.ne_none_iff_exists'.mp waits.2 with ⟨holder, holds⟩
    rcases keeping_of_pool reached holder with ⟨held, keeps⟩
    have member : .closed ∈ held := (keeps.holds .closed).mp holds
    have own : task ≠ holder := by
      intro same
      subst same
      rcases declining with ⟨operation, running, refuses⟩
      rw [waits.1] at refuses
      cases refuses
      have orderly := (keeps.disciplined _ (crew_tasks running)).1
      exact Nat.lt_irrefl _ (orderly .closed member)
    cases current : pool.tasks holder with
    | idle =>
        have nothing := keeps.idle (by simp only [Pool.crew, current])
        rw [nothing] at member
        cases member
    | running other operation inFlight log =>
        have disciplined := keeps.disciplined _ (crew_tasks current)
        cases inFlight with
        | some id =>
            rcases inFlight_of_pool reached current with ⟨request, timeout, next, rfl⟩
            have outer := disciplined.1 .closed member
            cases outer
        | none =>
            rcases @run_release _ protocol pool other session applied openedAt holder operation
              held log current disciplined member closed with
              ⟨actions, middle, performed, ran, released, flag, others⟩
            have stillDeclining : Declining middle task call outcome left := by
              rcases declining with ⟨rest, running, refuses⟩
              exact ⟨rest, (others task own).trans running, refuses⟩
            rcases @run_declining _ protocol middle task call outcome session applied openedAt
              left stillDeclining flag (fun _ => released) with
              ⟨later, final, alsoPerformed, alsoRan, returned⟩
            refine ⟨actions ++ later, final, ?_, Machine.run_append ran alsoRan, returned⟩
            intro action member
            rcases List.mem_append.mp member with first | second
            · exact ⟨holder, performed action first, .inr holds⟩
            · exact ⟨task, alsoPerformed action second, .inl rfl⟩
  · have free : left = 3 → pool.holders .closed = none := by
      intro first
      by_contra held
      exact waits ⟨first, held⟩
    rcases @run_declining _ protocol pool task call outcome session applied openedAt left
      declining closed free with ⟨actions, final, performed, ran, returned⟩
    refine ⟨actions, final, ?_, ran, returned⟩
    intro action member
    exact ⟨task, performed action member, .inl rfl⟩

end Declining

/-! ## Nothing new starts -/

/-- The call of `task` was declined: it has issued no command, no step of it changes a
cell or the session, it returns nothing but `outcome`, and it does return, for which
it needs only its own steps and those of the task that holds the lock of the flag. -/
structure Declined (machine : Machine (Pool types) (PoolAction types)) (pool : Pool types)
    (task : TaskId) (call : Call types) (outcome : Outcome types) : Prop where
  silent : ∃ operation, pool.tasks task = .running call operation none [] ∧
    ∀ value, operation = .done value → value = outcome
  harmless : ∀ action next, action.task = some task → machine.step pool action = some next →
    next.inner = pool.inner ∧ next.session = pool.session
  returns : ∃ actions final, (∀ action ∈ actions, ∃ actor, action = .perform actor .any ∧
      (actor = task ∨ pool.holders .closed = some actor)) ∧
    machine.run pool actions = some final ∧
    final.tasks task = .running call (.done outcome) none []

section Closing

variable {session : State types} {applied : Option (Modulation types)} {openedAt : Instant}
  {pool final : Pool types} {actions : List (PoolAction types)}

theorem session_after_close (closed : pool.session.closed = true)
    (ran : (poolMachine protocol session applied openedAt).run pool actions = some final) :
    final.session.closed = true ∧
    (∀ id, pool.session.calls id = .idle → Unsent (final.session.calls id)) ∧
    ∀ task call operation inFlight log,
      pool.tasks task = .running call operation inFlight log → Ending final task inFlight log := by
  have all : final.session.closed = true ∧
      (∀ id, Unsent (pool.session.calls id) → Unsent (final.session.calls id)) ∧
      ∀ task inFlight log, Ending pool task inFlight log → Ending final task inFlight log := by
    apply Machine.run_preserves _ _ ran
    · intro current action next holds stepped
      have transition := poolTransition_of_step stepped
      refine ⟨closed_of_shifts transition.shifts holds.1, ?_, ?_⟩
      · intro id unsent
        exact unsent_of_shifts transition.shifts holds.1 (holds.2.1 id unsent)
      · intro task inFlight log ending
        exact (holds.2.2 task inFlight log ending).step holds.1 transition
    · exact ⟨closed, fun _ unsent => unsent, fun _ _ _ ending => ending⟩
  refine ⟨all.1, ?_, ?_⟩
  · intro id idle
    exact all.2.1 id (.inl idle)
  · intro task call operation inFlight log running
    exact all.2.2 task inFlight log
      ⟨call, operation, inFlight, [], running, by simp, fun _ own => .inl own⟩

theorem declining_after_close
    (reached : (poolMachine protocol session applied openedAt).Reachable pool)
    (closed : pool.inner.closed = true)
    (ran : (poolMachine protocol session applied openedAt).run pool actions = some final) :
    (poolMachine protocol session applied openedAt).Reachable final ∧
    final.inner.closed = true ∧
    ∀ task call operation inFlight log outcome, pool.tasks task = .idle →
      final.tasks task = .running call operation inFlight log → refusal call = some outcome →
      ∃ left, Declining final task call outcome left := by
  apply Machine.run_preserves _ _ ran
  · intro current action next holds stepped
    rcases holds with ⟨reached, closed, declining⟩
    have transition := poolTransition_of_step stepped
    refine ⟨.step reached trivial stepped,
      closed_of_poolTransition (keeping_of_pool reached) transition closed, ?_⟩
    intro task call operation inFlight log outcome idle running refused
    have step := transition.taskStep task
    have started := step
    rw [running] at started
    rcases started.running with ⟨_, rfl, rfl, rfl⟩ | ⟨_, _, _, before⟩
    · exact ⟨3, _, running, refuses_operationOf refused⟩
    · rcases declining task _ _ _ _ outcome idle before refused with ⟨left, declines⟩
      exact declining_step closed declines step
  · refine ⟨reached, closed, ?_⟩
    intro task call operation inFlight log outcome idle running
    rw [idle] at running
    cases running

theorem declined_of_declining {task : TaskId} {call : Call types} {outcome : Outcome types}
    {left : Nat} (reached : (poolMachine protocol session applied openedAt).Reachable pool)
    (closed : pool.inner.closed = true) (declining : Declining pool task call outcome left) :
    Declined (poolMachine protocol session applied openedAt) pool task call outcome where
  silent := by
    rcases declining with ⟨operation, running, refuses⟩
    refine ⟨operation, running, ?_⟩
    intro value returned
    subst returned
    cases refuses
    rfl
  harmless action next own stepped :=
    declining_harmless declining (poolTransition_of_step stepped) own
  returns := declining_returns reached declining closed

/-- In every interleaving of operations, keepalive turns and `close`. Once
`Session.closed` is set it stays set, every `send_command` that begins is refused
with nothing but its own result changed, so that no call that has not begun gets a
tag, and an operation under way gets back no answer but that of the command it had
begun. No operation issues a command after one that came back with
`TransportClosed`. Once `Dongle.closed` is set it stays set, and every call that
begins is declined, `close` among them. -/
theorem nothing_starts_after_close
    (reached : (poolMachine protocol session applied openedAt).Reachable pool) :
    (pool.session.closed = true → ∀ actions final,
      (poolMachine protocol session applied openedAt).run pool actions = some final →
      final.session.closed = true ∧
      (∀ id, pool.session.calls id = .idle → Unsent (final.session.calls id)) ∧
      (∀ task id next, stepPool protocol final (.issue task id) = some next →
        ∃ request, next.session = final.session.setPhase id
          (.returned request none (.error (.transportClosed "session closed")))) ∧
      ∀ task call operation inFlight log,
        pool.tasks task = .running call operation inFlight log →
        Ending final task inFlight log) ∧
    (∀ task call request timeout next inFlight log, pool.tasks task =
        .running call (.perform (.sendCommand request timeout) next) inFlight log →
      Clean log) ∧
    (pool.inner.closed = true → ∀ actions final,
      (poolMachine protocol session applied openedAt).run pool actions = some final →
      final.inner.closed = true ∧
      ∀ task call operation inFlight log outcome, pool.tasks task = .idle →
        final.tasks task = .running call operation inFlight log →
        refusal call = some outcome →
        Declined (poolMachine protocol session applied openedAt) final task call outcome) := by
  refine ⟨?_, ?_, ?_⟩
  · intro closed actions final ran
    have after := session_after_close closed ran
    refine ⟨after.1, after.2.1, ?_, after.2.2⟩
    intro task id next stepped
    cases poolTransition_of_step stepped with
    | issues _ _ current begins => exact ⟨_, refused_of_begin begins after.1⟩
  · intro task call request timeout next inFlight log running
    exact (ceases_of_pool reached running).1.2 request timeout rfl
  · intro closed actions final ran
    have after := declining_after_close reached closed ran
    refine ⟨after.2.1, ?_⟩
    intro task call operation inFlight log outcome idle running refused
    rcases after.2.2 task call operation inFlight log outcome idle running refused with
      ⟨left, declining⟩
    exact declined_of_declining after.1 after.2.1 declining

end Closing

def closing : List (PoolAction WireTypes.sample) :=
  [.start 0 .close, .perform 0 .any, .perform 0 .any, .perform 0 .any, .perform 0 .any,
    .perform 0 .any, .close 0 .closeStore, .close 0 .closeDrain, .close 0 .closeAbort]

theorem nothing_starts_after_close_ping :
    ∃ pool final, (poolMachine Protocol.sample spawn none 0).run
        (poolMachine Protocol.sample spawn none 0).initial closing = some pool ∧
      pool.session.closed = true ∧
      (poolMachine Protocol.sample spawn none 0).run pool
        [.start 1 .ping, .start 2 .close] = some final ∧
      Declined (poolMachine Protocol.sample spawn none 0) final 1 .ping
        (.finished (.error (.transportClosed "dongle closed"))) ∧
      Declined (poolMachine Protocol.sample spawn none 0) final 2 .close .closed := by
  have ran : ∃ pool final, (poolMachine Protocol.sample spawn none 0).run
        (poolMachine Protocol.sample spawn none 0).initial closing = some pool ∧
      pool.session.closed = true ∧ pool.inner.closed = true ∧
      (poolMachine Protocol.sample spawn none 0).run pool
        [.start 1 .ping, .start 2 .close] = some final ∧
      pool.tasks 1 = .idle ∧ pool.tasks 2 = .idle ∧
      final.tasks 1 = .running .ping (operationOf Protocol.sample .ping) none [] ∧
      final.tasks 2 = .running .close (operationOf Protocol.sample .close) none [] :=
    ⟨_, _, rfl, rfl, rfl, rfl, rfl, rfl, rfl, rfl⟩
  rcases ran with ⟨pool, final, ran, sessionClosed, closed, began, pingIdle, closeIdle,
    pinging, closingAgain⟩
  have declined := (nothing_starts_after_close (.run .initial ran)).2.2 closed _ _ began
  exact ⟨pool, final, ran, sessionClosed, began,
    declined.2 1 _ _ _ _ _ pingIdle pinging rfl,
    declined.2 2 _ _ _ _ _ closeIdle closingAgain rfl⟩

end DongloraClient.Dongle
