import DongloraClient.Dongle.Concurrent

/-! # Calls that are dropped

The future of a call may be dropped wherever it waits, and the keepalive task is aborted
the same way. Its guards give their locks up, and nothing else is put right: a command it
has begun keeps its slot, and what it was about to store is not stored. The name of a
dropped call is free for another one. The session may go on with an abandoned command,
which allows it more than it can do.
-/

namespace DongloraClient.Dongle

open Foundation Session

variable {types : WireTypes}

namespace Pool

/-- Whether the task stands at an `await`. Up to its first one a command runs without
waiting, and so does `Session::close`. -/
def atAwait (pool : Pool types) (inFlight : Option CallId) : Effect types → Bool
  | .acquire _ => true
  | .sleep _ => true
  | .sendCommand _ _ => inFlight.isSome
  | .recvRx _ => true
  | .nextRx => true
  | .drainAsyncErrors => true
  | .closeSession => pool.session.closer ≠ .idle
  | _ => false

def dropTask (pool : Pool types) (task : TaskId) : Pool types :=
  { pool with
    holders := fun cell => if pool.holders cell = some task then none else pool.holders cell
    tasks := Function.update pool.tasks task .idle }

section Fields

variable (pool : Pool types) (task : TaskId)

@[simp] theorem dropTask_self : (pool.dropTask task).tasks task = .idle :=
  Function.update_self _ _ _

theorem dropTask_ne {other : TaskId} (different : other ≠ task) :
    (pool.dropTask task).tasks other = pool.tasks other :=
  Function.update_of_ne different _ _

@[simp] theorem dropTask_inner : (pool.dropTask task).inner = pool.inner := rfl

@[simp] theorem dropTask_session : (pool.dropTask task).session = pool.session := rfl

theorem dropTask_holders {cell : Cell} {holder : TaskId} :
    (pool.dropTask task).holders cell = some holder ↔
      pool.holders cell = some holder ∧ holder ≠ task := by
  by_cases held : pool.holders cell = some task
  · simp only [dropTask, held, if_true]
    constructor
    · intro impossible
      cases impossible
    · rintro ⟨same, different⟩
      exact absurd (Option.some.inj same).symm different
  · simp only [dropTask, held, if_false]
    constructor
    · intro holds
      refine ⟨holds, ?_⟩
      intro same
      exact held (same ▸ holds)
    · exact And.left

end Fields

end Pool

inductive DropAction (types : WireTypes)
  | act (action : PoolAction types)
  | drop (task : TaskId)

variable (protocol : Protocol types)

def stepDropping (pool : Pool types) : DropAction types → Option (Pool types)
  | .act action => stepPool protocol pool action
  | .drop task =>
      match pool.tasks task with
      | .running _ (.perform effect _) inFlight _ =>
          if pool.atAwait inFlight effect then some (pool.dropTask task) else none
      | _ => none

def droppingMachine (session : State types) (applied : Option (Modulation types))
    (openedAt : Instant) : Machine (Pool types) (DropAction types) where
  initial := (poolMachine protocol session applied openedAt).initial
  step := stepDropping protocol

inductive DropTransition (pool : Pool types) : DropAction types → Pool types → Prop
  | acts {action : PoolAction types} {next : Pool types}
      (stepped : stepPool protocol pool action = some next) :
      DropTransition pool (.act action) next
  | drops (task : TaskId) {call : Call types} {effect : Effect types}
      {rest : Answer effect → Operation types (Outcome types)} {inFlight : Option CallId}
      {log : List (Command types)}
      (current : pool.tasks task = .running call (.perform effect rest) inFlight log)
      (waits : pool.atAwait inFlight effect = true) :
      DropTransition pool (.drop task) (pool.dropTask task)

variable {protocol}

theorem dropTransition_of_step {pool next : Pool types} {action : DropAction types}
    (stepped : stepDropping protocol pool action = some next) :
    DropTransition protocol pool action next := by
  cases action with
  | act action => exact .acts stepped
  | drop task =>
      simp only [stepDropping] at stepped
      split at stepped
      · next current =>
        split at stepped
        · next waits =>
          cases stepped
          exact .drops task current waits
        · cases stepped
      · cases stepped

theorem DropTransition.shifts {pool next : Pool types} {action : DropAction types}
    (transition : DropTransition protocol pool action next) :
    Shifts protocol pool.session next.session := by
  cases transition with
  | acts stepped => exact (poolTransition_of_step stepped).shifts
  | drops => exact .queues pool.session.queues

end DongloraClient.Dongle
