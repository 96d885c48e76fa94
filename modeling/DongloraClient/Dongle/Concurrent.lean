import DongloraClient.Dongle.Sequential
import DongloraClient.Session.Events

/-! # Dongle operations at the same time

Any number of calls of a dongle's operations, turns of its keepalive task included,
share the cells of `Inner` and one session. A step performs one effect of one call,
starts or completes one of its commands, or is a step of the session itself: of a
command that has begun, or of the reader. The lock of a cell is held by one call at
a time. An aborted keepalive task is one that no step belongs to any more.
-/

namespace DongloraClient.Dongle

open Foundation Session

variable {types : WireTypes}

/-! ## Calls -/

inductive Outcome (types : WireTypes)
  | transmitted (result : ClientResult TxDonePayload)
  | retried (result : ClientResult TxOutcome)
  | finished (result : ClientResult Unit)
  | received (payload : Option types.RxPayload)
  | drained (errors : List ClientError)
  | applied (config : Option (Modulation types))
  | closed
  | ticked (goesOn : Bool)

def operationOf (protocol : Protocol types) : Call types → Operation types (Outcome types)
  | .txWithTimeout data skipCad timeout => do
      return .transmitted (← txWithTimeout protocol data skipCad timeout)
  | .txWithRetry data policy => do return .retried (← txWithRetry protocol data policy)
  | .rxStart => do return .finished (← rxStart protocol)
  | .rxStop => do return .finished (← rxStop protocol)
  | .recv timeout => do return .received (← recv protocol timeout)
  | .nextRx => do return .received (← nextRx protocol)
  | .setConfig modulation => do return .finished (← setConfig protocol modulation)
  | .ping => do return .finished (← ping protocol)
  | .drainAsyncErrors => do return .drained (← drainAsyncErrors)
  | .config => do return .applied (← config)
  | .close => do
      close
      return .closed
  | .keepaliveTick => do return .ticked (← keepaliveTick protocol)

abbrev TaskId := Nat

/-- One call. `operation` is what is left of it, `inFlight` the `send_command` call
it waits for, and `log` lists the commands that have come back to it, newest
first. -/
inductive PoolTask (types : WireTypes)
  | idle
  | running (call : Call types) (operation : Operation types (Outcome types))
      (inFlight : Option CallId) (log : List (Command types))

/-! ## Shared state -/

structure Pool (types : WireTypes) where
  inner : Inner types
  holders : Cell → Option TaskId
  session : State types
  tasks : TaskId → PoolTask types

structure Choice where
  instant : Instant
  sample : UInt32
  elapsed : Bool
  deriving DecidableEq, Repr

def Choice.any : Choice := ⟨0, 0, false⟩

inductive PoolAction (types : WireTypes)
  | start (task : TaskId) (call : Call types)
  | perform (task : TaskId) (choice : Choice)
  | issue (task : TaskId) (call : CallId)
  | collect (task : TaskId)
  | close (task : TaskId) (action : Action)
  | session (action : Action)

def PoolAction.task : PoolAction types → Option TaskId
  | .start task _ => some task
  | .perform task _ => some task
  | .issue task _ => some task
  | .collect task => some task
  | .close task _ => some task
  | .session _ => none

namespace Pool

def setTask (pool : Pool types) (task : TaskId) (after : PoolTask types) : Pool types :=
  { pool with tasks := Function.update pool.tasks task after }

def setHolder (pool : Pool types) (cell : Cell) (holder : Option TaskId) : Pool types :=
  { pool with holders := Function.update pool.holders cell holder }

def setCell (pool : Pool types) (cell : Cell) (value : cell.Value types) : Pool types :=
  { pool with inner := pool.inner.set cell value }

def setSession (pool : Pool types) (session : State types) : Pool types :=
  { pool with session := session }

def setQueues (pool : Pool types) (queues : EventQueues types) : Pool types :=
  pool.setSession { pool.session with queues := queues }

/-- What `recv_rx` and `next_rx` return: the oldest packet, or `None` when there is
none and `gone` says that they stop waiting for one. -/
def receive (pool : Pool types) (gone : Bool) :
    Option (Option types.RxPayload × Pool types) :=
  match pool.session.queues.rx with
  | payload :: rest => some (some payload, pool.setQueues { pool.session.queues with rx := rest })
  | [] => if gone then some (none, pool) else none

section Fields

variable (pool : Pool types) (task : TaskId) (after : PoolTask types)

@[simp] theorem setTask_self : (pool.setTask task after).tasks task = after :=
  Function.update_self _ _ _

theorem setTask_ne {other : TaskId} (different : other ≠ task) :
    (pool.setTask task after).tasks other = pool.tasks other :=
  Function.update_of_ne different _ _

@[simp] theorem setTask_inner : (pool.setTask task after).inner = pool.inner := rfl

@[simp] theorem setTask_holders : (pool.setTask task after).holders = pool.holders := rfl

@[simp] theorem setTask_session : (pool.setTask task after).session = pool.session := rfl

@[simp] theorem setSession_inner (session : State types) :
    (pool.setSession session).inner = pool.inner := rfl

@[simp] theorem setSession_tasks (session : State types) :
    (pool.setSession session).tasks = pool.tasks := rfl

@[simp] theorem setSession_session (session : State types) :
    (pool.setSession session).session = session := rfl

end Fields

end Pool

def Choice.jitter (choice : Choice) (upTo : UInt32) : { value : UInt32 // value ≤ upTo } :=
  if inside : choice.sample ≤ upTo then ⟨choice.sample, inside⟩ else ⟨upTo, UInt32.le_refl upTo⟩

def answerEffect (choice : Choice) (task : TaskId) (pool : Pool types) :
    (effect : Effect types) → Option (Answer effect × Pool types)
  | .acquire cell =>
      match pool.holders cell with
      | none => some ((), pool.setHolder cell (some task))
      | some _ => none
  | .release cell => some ((), pool.setHolder cell none)
  | .load cell => some (pool.inner.get cell, pool)
  | .store cell value => some ((), pool.setCell cell value)
  | .now => some (choice.instant, pool)
  | .sleep _ => some ((), pool)
  | .random upTo => some (choice.jitter upTo, pool)
  | .recvRx _ => pool.receive (choice.elapsed || pool.session.reader.isGone)
  | .nextRx => pool.receive pool.session.reader.isGone
  | .drainAsyncErrors =>
      some (pool.session.queues.asyncErrors,
        pool.setQueues { pool.session.queues with asyncErrors := [] })
  | .abortKeepalive => some ((), pool)
  | .sendCommand _ _ => none
  | .closeSession => none
  | .panic => none

def isBackground : Action → Bool
  | .begin _ _ => false
  | .closeStore => false
  | .closeDrain => false
  | .closeAbort => false
  | _ => true

variable (protocol : Protocol types)

def stepPool (pool : Pool types) : PoolAction types → Option (Pool types)
  | .start task call =>
      match pool.tasks task with
      | .idle => some (pool.setTask task (.running call (operationOf protocol call) none []))
      | _ => none
  | .perform task choice =>
      match pool.tasks task with
      | .running call (.perform effect next) none log =>
          (answerEffect choice task pool effect).map fun outcome =>
            outcome.2.setTask task (.running call (next outcome.1) none log)
      | _ => none
  | .issue task id =>
      match pool.tasks task with
      | .running call (.perform (.sendCommand request timeout) next) none log =>
          (Session.step protocol pool.session (.begin id request)).map fun session =>
            (pool.setSession session).setTask task
              (.running call (.perform (.sendCommand request timeout) next) (some id) log)
      | _ => none
  | .collect task =>
      match pool.tasks task with
      | .running call (.perform (.sendCommand request _) next) (some id) log =>
          match pool.session.calls id with
          | .returned _ _ result =>
              some (pool.setTask task
                (.running call (next result) none (⟨request, result⟩ :: log)))
          | _ => none
      | _ => none
  | .close task action =>
      match pool.tasks task with
      | .running call (.perform .closeSession next) none log =>
          if action.task = .close then
            (Session.step protocol pool.session action).map fun session =>
              (pool.setSession session).setTask task
                (if action = .closeAbort then .running call (next ()) none log
                else pool.tasks task)
          else none
      | _ => none
  | .session action =>
      if isBackground action then
        (Session.step protocol pool.session action).map pool.setSession
      else none

theorem stepPool_perform {pool reached : Pool types} {task : TaskId} {choice : Choice}
    {call : Call types} {effect : Effect types}
    {next : Answer effect → Operation types (Outcome types)} {log : List (Command types)}
    {answer : Answer effect}
    (current : pool.tasks task = .running call (.perform effect next) none log)
    (answered : answerEffect choice task pool effect = some (answer, reached)) :
    stepPool protocol pool (.perform task choice) =
      some (reached.setTask task (.running call (next answer) none log)) := by
  simp only [stepPool, current, answered, Option.map_some]

/-- The runs of a dongle as `Dongle::new` leaves it, on a session that has been used
before. -/
def poolMachine (session : State types) (applied : Option (Modulation types))
    (openedAt : Instant) : Machine (Pool types) (PoolAction types) where
  initial := ⟨⟨applied, false, openedAt, false⟩, fun _ => none, session, fun _ => .idle⟩
  step := stepPool protocol

/-! ## What a step can do -/

def Effect.isPlain : Effect types → Bool
  | .now => true
  | .sleep _ => true
  | .random _ => true
  | .recvRx _ => true
  | .nextRx => true
  | .drainAsyncErrors => true
  | .abortKeepalive => true
  | _ => false

inductive Answers (task : TaskId) (pool : Pool types) :
    (effect : Effect types) → Answer effect → Pool types → Prop
  | acquire (cell : Cell) (free : pool.holders cell = none) :
      Answers task pool (.acquire cell) () (pool.setHolder cell (some task))
  | release (cell : Cell) :
      Answers task pool (.release cell) () (pool.setHolder cell none)
  | load (cell : Cell) : Answers task pool (.load cell) (pool.inner.get cell) pool
  | store (cell : Cell) (value : cell.Value types) :
      Answers task pool (.store cell value) () (pool.setCell cell value)
  | plain {effect : Effect types} (answer : Answer effect) (queues : EventQueues types)
      (isPlain : Effect.isPlain effect = true) :
      Answers task pool effect answer (pool.setQueues queues)

inductive PoolTransition (pool : Pool types) : PoolAction types → Pool types → Prop
  | starts (task : TaskId) (call : Call types) (idle : pool.tasks task = .idle) :
      PoolTransition pool (.start task call)
        (pool.setTask task (.running call (operationOf protocol call) none []))
  | performs (task : TaskId) (choice : Choice) {call : Call types} {effect : Effect types}
      {next : Answer effect → Operation types (Outcome types)} {log : List (Command types)}
      {answer : Answer effect} {reached : Pool types}
      (current : pool.tasks task = .running call (.perform effect next) none log)
      (answers : Answers task pool effect answer reached) :
      PoolTransition pool (.perform task choice)
        (reached.setTask task (.running call (next answer) none log))
  | issues (task : TaskId) (id : CallId) {call : Call types} {request : Request}
      {timeout : Duration}
      {next : ClientResult (SessionResponse types) → Operation types (Outcome types)}
      {log : List (Command types)} {session : State types}
      (current : pool.tasks task =
        .running call (.perform (.sendCommand request timeout) next) none log)
      (begins : Transition protocol pool.session (.begin id request) session) :
      PoolTransition pool (.issue task id) ((pool.setSession session).setTask task
        (.running call (.perform (.sendCommand request timeout) next) (some id) log))
  | collects (task : TaskId) {id : CallId} {call : Call types} {request begun : Request}
      {timeout : Duration} {tag : Option UInt16}
      {next : ClientResult (SessionResponse types) → Operation types (Outcome types)}
      {log : List (Command types)} {result : ClientResult (SessionResponse types)}
      (current : pool.tasks task =
        .running call (.perform (.sendCommand request timeout) next) (some id) log)
      (returned : pool.session.calls id = .returned begun tag result) :
      PoolTransition pool (.collect task) (pool.setTask task
        (.running call (next result) none (⟨request, result⟩ :: log)))
  | closes (task : TaskId) {action : Action} {call : Call types}
      {next : Unit → Operation types (Outcome types)} {log : List (Command types)}
      {session : State types} {after : PoolTask types}
      (current : pool.tasks task = .running call (.perform .closeSession next) none log)
      (closing : action.task = .close)
      (steps : Transition protocol pool.session action session)
      (goesOn : after = pool.tasks task ∨ after = .running call (next ()) none log) :
      PoolTransition pool (.close task action) ((pool.setSession session).setTask task after)
  | background {action : Action} {session : State types}
      (isBackground : isBackground action = true)
      (steps : Transition protocol pool.session action session) :
      PoolTransition pool (.session action) (pool.setSession session)

/-- What a step of the pool does to the session: at most one step of it, or a change
of its queues. -/
inductive Shifts (before : State types) : State types → Prop
  | queues (queues : EventQueues types) : Shifts before { before with queues := queues }
  | steps {action : Action} {after : State types}
      (transition : Transition protocol before action after) : Shifts before after

inductive TaskStep (pool : Pool types) (task : TaskId) : PoolTask types → Prop
  | same : TaskStep pool task (pool.tasks task)
  | starts (call : Call types) (idle : pool.tasks task = .idle) :
      TaskStep pool task (.running call (operationOf protocol call) none [])
  | issues (id : CallId) {call : Call types} {request : Request} {timeout : Duration}
      {next : ClientResult (SessionResponse types) → Operation types (Outcome types)}
      {log : List (Command types)}
      (current : pool.tasks task =
        .running call (.perform (.sendCommand request timeout) next) none log) :
      TaskStep pool task
        (.running call (.perform (.sendCommand request timeout) next) (some id) log)
  | performs {call : Call types} {effect : Effect types}
      {next : Answer effect → Operation types (Outcome types)} {log : List (Command types)}
      {answer : Answer effect} {reached : Pool types}
      (current : pool.tasks task = .running call (.perform effect next) none log)
      (answers : Answers task pool effect answer reached) :
      TaskStep pool task (.running call (next answer) none log)
  | collects {id : CallId} {call : Call types} {request : Request} {timeout : Duration}
      {next : ClientResult (SessionResponse types) → Operation types (Outcome types)}
      {log : List (Command types)} (result : ClientResult (SessionResponse types))
      (current : pool.tasks task =
        .running call (.perform (.sendCommand request timeout) next) (some id) log) :
      TaskStep pool task (.running call (next result) none (⟨request, result⟩ :: log))
  | closes {call : Call types} {next : Unit → Operation types (Outcome types)}
      {log : List (Command types)}
      (current : pool.tasks task = .running call (.perform .closeSession next) none log) :
      TaskStep pool task (.running call (next ()) none log)

section Inversion

variable {protocol} {pool reached : Pool types} {task : TaskId}

theorem receive_queues {gone : Bool} {payload : Option types.RxPayload}
    (received : pool.receive gone = some (payload, reached)) :
    ∃ queues, reached = pool.setQueues queues := by
  rw [Pool.receive] at received
  split at received
  · cases received
    exact ⟨_, rfl⟩
  · split at received
    · cases received
      exact ⟨pool.session.queues, rfl⟩
    · cases received

theorem answers_of_answerEffect {choice : Choice} {effect : Effect types}
    {answer : Answer effect}
    (answered : answerEffect choice task pool effect = some (answer, reached)) :
    Answers task pool effect answer reached := by
  cases effect with
  | acquire cell =>
      simp only [answerEffect] at answered
      split at answered
      · next free =>
        cases answered
        exact .acquire cell free
      · cases answered
  | release cell =>
      cases answered
      exact .release cell
  | load cell =>
      cases answered
      exact .load cell
  | store cell value =>
      cases answered
      exact .store cell value
  | recvRx timeout =>
      rcases receive_queues answered with ⟨queues, rfl⟩
      exact .plain _ queues rfl
  | nextRx =>
      rcases receive_queues answered with ⟨queues, rfl⟩
      exact .plain _ queues rfl
  | sendCommand | closeSession | panic => cases answered
  | _ =>
      cases answered
      exact .plain _ _ rfl

theorem poolTransition_of_step {action : PoolAction types} {next : Pool types}
    (stepped : stepPool protocol pool action = some next) :
    PoolTransition protocol pool action next := by
  cases action with
  | start task call =>
      simp only [stepPool] at stepped
      split at stepped
      · next idle =>
        cases stepped
        exact .starts task call idle
      · cases stepped
  | perform task choice =>
      simp only [stepPool] at stepped
      split at stepped
      · next current =>
        rw [Option.map_eq_some_iff] at stepped
        rcases stepped with ⟨⟨answer, reached⟩, answered, rfl⟩
        exact .performs task choice current (answers_of_answerEffect answered)
      · cases stepped
  | issue task id =>
      simp only [stepPool] at stepped
      split at stepped
      · next current =>
        rw [Option.map_eq_some_iff] at stepped
        rcases stepped with ⟨session, begun, rfl⟩
        exact .issues task id current (transition_of_step protocol begun)
      · cases stepped
  | collect task =>
      simp only [stepPool] at stepped
      split at stepped
      · next current =>
        split at stepped
        · next returned =>
          cases stepped
          exact .collects task current returned
        · cases stepped
      · cases stepped
  | close task action =>
      simp only [stepPool] at stepped
      split at stepped
      · next current =>
        split at stepped
        · next closing =>
          rw [Option.map_eq_some_iff] at stepped
          rcases stepped with ⟨session, steps, rfl⟩
          refine .closes task current closing (transition_of_step protocol steps) ?_
          split
          · exact .inr rfl
          · exact .inl rfl
        · cases stepped
      · cases stepped
  | session action =>
      simp only [stepPool] at stepped
      split at stepped
      · next isBackground =>
        rw [Option.map_eq_some_iff] at stepped
        rcases stepped with ⟨session, steps, rfl⟩
        exact .background isBackground (transition_of_step protocol steps)
      · cases stepped

theorem Answers.shifts {effect : Effect types} {answer : Answer effect}
    (answers : Answers task pool effect answer reached) :
    Shifts protocol pool.session reached.session := by
  cases answers with
  | plain _ queues _ => exact .queues queues
  | _ => exact .queues pool.session.queues

theorem PoolTransition.shifts {action : PoolAction types} {next : Pool types}
    (transition : PoolTransition protocol pool action next) :
    Shifts protocol pool.session next.session := by
  cases transition with
  | starts => exact .queues pool.session.queues
  | performs _ _ _ answers => exact answers.shifts
  | issues _ _ _ begins => exact .steps begins
  | collects => exact .queues pool.session.queues
  | closes _ _ _ steps _ => exact .steps steps
  | background _ steps => exact .steps steps

theorem PoolTransition.elsewhere {action : PoolAction types} {next : Pool types}
    (transition : PoolTransition protocol pool action next) (other : action.task ≠ some task) :
    next.tasks task = pool.tasks task := by
  have untouched : ∀ {actor : TaskId}, some actor ≠ some task → task ≠ actor := by
    intro actor different same
    exact different (same ▸ rfl)
  cases transition with
  | starts | issues | collects | closes =>
      exact Function.update_of_ne (untouched other) _ _
  | performs actor choice current answers =>
      refine (Function.update_of_ne (untouched other) _ _).trans ?_
      cases answers <;> rfl
  | background => rfl

theorem tasks_of_run {session : State types} {applied : Option (Modulation types)}
    {openedAt : Instant} {final : Pool types} {actions : List (PoolAction types)}
    (others : ∀ action ∈ actions, action.task ≠ some task)
    (ran : (poolMachine protocol session applied openedAt).run pool actions = some final) :
    final.tasks task = pool.tasks task := by
  apply Machine.run_keeps _ ran
  intro action member current next stepped
  exact (poolTransition_of_step stepped).elsewhere (others action member)

theorem PoolTransition.taskStep {action : PoolAction types} {next : Pool types}
    (transition : PoolTransition protocol pool action next) (task : TaskId) :
    TaskStep protocol pool task (next.tasks task) := by
  by_cases own : action.task = some task
  · cases transition with
    | starts actor call idle =>
        cases own
        rw [Pool.setTask_self]
        exact .starts call idle
    | performs actor choice current answers =>
        cases own
        rw [Pool.setTask_self]
        exact .performs current answers
    | issues actor id current begins =>
        cases own
        rw [Pool.setTask_self]
        exact .issues id current
    | collects actor current returned =>
        cases own
        rw [Pool.setTask_self]
        exact .collects _ current
    | closes actor current closing steps goesOn =>
        cases own
        rw [Pool.setTask_self]
        rcases goesOn with same | continues
        · rw [same]
          exact .same
        · rw [continues]
          exact .closes current
    | background => cases own
  · rw [transition.elsewhere own]
    exact .same

/-- A running task has started in this step, or goes on with the call it ran before. -/
theorem TaskStep.running {call : Call types} {operation : Operation types (Outcome types)}
    {inFlight : Option CallId} {log : List (Command types)}
    (step : TaskStep protocol pool task (.running call operation inFlight log)) :
    (pool.tasks task = .idle ∧ operation = operationOf protocol call ∧ inFlight = none ∧
      log = []) ∨
      ∃ before waited earlier, pool.tasks task = .running call before waited earlier := by
  generalize after : PoolTask.running call operation inFlight log = reached at step
  cases step with
  | same => exact .inr ⟨_, _, _, after.symm⟩
  | starts _ idle =>
      cases after
      exact .inl ⟨idle, rfl, rfl, rfl⟩
  | issues _ current | performs current _ | collects _ current | closes current =>
      cases after
      exact .inr ⟨_, _, _, current⟩

end Inversion

end DongloraClient.Dongle
