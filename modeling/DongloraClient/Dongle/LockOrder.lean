import DongloraClient.Dongle.Concurrent
import DongloraClient.Foundation.Locks

/-! # How the operations use the cells

Every operation reads and writes a cell under the cell's own lock, waits for the
session with at most the lock of `rx_started` held, acquires that one before any
other, and holds nothing when it returns. Nothing ever clears the closed flag. All
this holds whatever the answers to the effects are.
-/

namespace DongloraClient.Dongle

open Foundation Session

variable {types : WireTypes}

/-! ## The order -/

/-- Only `rx_started` is ever held over something else. -/
def cellRank : Cell → Nat
  | .rxStarted => 0
  | _ => 1

def effectUse : Effect types → Locks.Use Cell
  | .acquire cell => .acquire cell
  | .release cell => .release cell
  | _ => .neither

def Orderly (held : List Cell) : Effect types → Prop
  | .acquire cell => ∀ other ∈ held, cellRank other < cellRank cell
  | .release cell => held.head? = some cell
  | .load cell => held.head? = some cell
  | .store .closed value => held.head? = some .closed ∧ value = true
  | .store cell _ => held.head? = some cell
  | .recvRx _ => held = []
  | .nextRx => held = []
  | .panic => held = []
  | _ => ∀ other ∈ held, cellRank other = 0

def Balanced {Result : Type} (held : List Cell) (operation : Operation types Result) : Prop :=
  operation.Satisfies (Locks.Holding effectUse) Orderly (fun reached _ => reached = held) held

/-! ## Rules -/

section Rules

variable {First Second : Type} {held : List Cell}

theorem Balanced.bind {operation : Operation types First}
    {next : First → Operation types Second} (first : Balanced held operation)
    (second : ∀ value, Balanced held (next value)) : Balanced held (operation >>= next) :=
  Locks.Restoring.bind first second

theorem orderly_then {effect : Effect types} {next : Answer effect → Operation types Second}
    {returns : List Cell → Second → Prop} (orderly : Orderly held effect)
    (continues : ∀ answer, (next answer).Satisfies (Locks.Holding effectUse) Orderly returns
      (Locks.after effectUse held effect)) :
    (Program.perform effect next).Satisfies (Locks.Holding effectUse) Orderly returns held := by
  refine ⟨orderly, ?_⟩
  intro answer reached same
  rw [same]
  exact continues answer

theorem balanced_effect {effect : Effect types} (orderly : Orderly held effect)
    (neither : effectUse effect = .neither) : Balanced held (.perform effect .done) :=
  Locks.restoring_effect orderly neither

theorem balanced_read (cell : Cell) (above : ∀ other ∈ held, cellRank other < cellRank cell) :
    Balanced held (read cell : Operation types _) := by
  refine orderly_then above fun _ => ?_
  refine orderly_then rfl fun value => ?_
  refine orderly_then rfl fun _ => ?_
  rfl

theorem balanced_write (cell : Cell) (value : cell.Value types) (notClosed : cell ≠ .closed)
    (above : ∀ other ∈ held, cellRank other < cellRank cell) :
    Balanced held (write cell value) := by
  refine orderly_then above fun _ => ?_
  refine orderly_then ?_ fun _ => ?_
  · cases cell with
    | closed => exact absurd rfl notClosed
    | _ => rfl
  · exact orderly_then rfl fun _ => rfl

/-! ## Helpers -/

variable (outer : ∀ other ∈ held, cellRank other = 0)

include outer in
theorem balanced_now : Balanced held (now : Operation types Instant) :=
  balanced_effect outer rfl

include outer in
theorem balanced_sleep (duration : Duration) :
    Balanced held (sleep duration : Operation types Unit) :=
  balanced_effect outer rfl

include outer in
theorem balanced_sendCommand (typeId : UInt8) (payload : List UInt8) (timeout : Duration) :
    Balanced held (sendCommand typeId payload timeout : Operation types _) :=
  balanced_effect outer rfl

theorem balanced_checkOpen : Balanced [] (checkOpen : Operation types (ClientResult Unit)) := by
  apply Balanced.bind (balanced_read .closed (by simp))
  intro closed
  cases closed <;> rfl

theorem balanced_markWrite : Balanced [] (markWrite : Operation types Unit) := by
  apply Balanced.bind (balanced_now (by simp))
  intro instant
  exact balanced_write .lastWriteAt instant (by simp) (by simp)

theorem balanced_ifOpen {next : ClientResult Unit → Operation types Second}
    (refuses : ∀ error, ∃ value, next (.error error) = .done value)
    (goesOn : Balanced [] (next (.ok ()))) : Balanced [] (checkOpen >>= next) := by
  apply Balanced.bind balanced_checkOpen
  intro result
  cases result with
  | error error =>
      rcases refuses error with ⟨value, refused⟩
      rw [refused]
      rfl
  | ok => exact goesOn

theorem balanced_jitterMs (policy : RetryPolicy) :
    Balanced [] (policy.jitterMs : Operation types UInt32) := by
  rw [RetryPolicy.jitterMs]
  split
  · rfl
  · exact orderly_then (by simp [Orderly]) fun _ => rfl

variable (protocol : Protocol types)

include outer in
theorem balanced_session_ping (timeout : Duration) :
    Balanced held (Session.ping protocol timeout) :=
  (balanced_sendCommand outer _ _ _).bind fun _ => rfl

include outer in
theorem balanced_session_rxStart (timeout : Duration) :
    Balanced held (Session.rxStart protocol timeout) :=
  (balanced_sendCommand outer _ _ _).bind fun _ => rfl

include outer in
theorem balanced_session_rxStop (timeout : Duration) :
    Balanced held (Session.rxStop protocol timeout) :=
  (balanced_sendCommand outer _ _ _).bind fun _ => rfl

include outer in
theorem balanced_session_setConfig (config : Modulation types) (timeout : Duration) :
    Balanced held (Session.setConfig protocol config timeout) := by
  rw [Session.setConfig]
  split
  · rfl
  · exact (balanced_sendCommand outer _ _ _).bind fun _ => rfl

theorem balanced_session_transmit (data : List UInt8) (skipCad : Bool) (timeout : Duration) :
    Balanced [] (Session.transmit protocol data skipCad timeout) := by
  rw [Session.transmit]
  split
  · rfl
  · split
    · refine orderly_then rfl ?_
      intro impossible
      cases impossible
    · exact (balanced_sendCommand (by simp) _ _ _).bind fun _ => rfl

end Rules

/-! ## Operations -/

section Operations

variable (protocol : Protocol types)

theorem balanced_reapplyConfig : Balanced [] (reapplyConfig protocol) := by
  apply Balanced.bind (balanced_read .appliedConfig (by simp))
  intro cached
  cases cached with
  | none => rfl
  | some config =>
      apply Balanced.bind (balanced_session_setConfig (by simp) protocol config (fromSecs 2))
      intro result
      cases result with
      | error => rfl
      | ok result =>
          apply Balanced.bind (balanced_write .appliedConfig _ (by simp) (by simp))
          intro
          rfl

theorem balanced_txWithTimeout (data : List UInt8) (skipCad : Bool) (timeout : Duration) :
    Balanced [] (txWithTimeout protocol data skipCad timeout) := by
  refine balanced_ifOpen (fun _ => ⟨_, rfl⟩) ?_
  apply Balanced.bind balanced_markWrite
  intro
  apply Balanced.bind (balanced_session_transmit protocol data skipCad timeout)
  intro result
  split
  · apply Balanced.bind (balanced_reapplyConfig protocol)
    intro reapplied
    cases reapplied with
    | error => rfl
    | ok => exact balanced_session_transmit protocol data skipCad timeout
  · rfl

theorem balanced_txAttempts (data : List UInt8) (policy : RetryPolicy) (numbers : List UInt8)
    (attempts : List TxAttempt) (delayMs : UInt32) :
    Balanced [] (txAttempts protocol data policy numbers attempts delayMs) := by
  induction numbers generalizing attempts delayMs with
  | nil => rfl
  | cons attemptNum later induction =>
      apply Balanced.bind balanced_markWrite
      intro
      apply Balanced.bind (balanced_now (by simp))
      intro started
      apply Balanced.bind (balanced_session_transmit protocol data _ _)
      intro result
      apply Balanced.bind (balanced_now (by simp))
      intro ended
      cases result with
      | ok done => rfl
      | error error =>
          change Balanced [] (if _ then _ else _)
          split
          · rfl
          · apply Balanced.bind (balanced_jitterMs policy)
            intro jitter
            apply Balanced.bind (balanced_sleep (by simp) _)
            intro
            exact induction _ _

theorem balanced_txWithRetry (data : List UInt8) (policy : RetryPolicy) :
    Balanced [] (txWithRetry protocol data policy) :=
  balanced_ifOpen (fun _ => ⟨_, rfl⟩) (balanced_txAttempts protocol data policy _ _ _)

/-- The one operation that waits for the session with a lock held. -/
theorem balanced_rxStart : Balanced [] (rxStart protocol) := by
  refine balanced_ifOpen (fun _ => ⟨_, rfl⟩) ?_
  apply Balanced.bind balanced_markWrite
  intro
  refine orderly_then (by simp [Orderly]) fun _ => ?_
  refine orderly_then rfl fun started => ?_
  cases started with
  | true => exact orderly_then rfl fun _ => rfl
  | false =>
      have starting : Balanced [.rxStarted] (Session.rxStart protocol (fromSecs 2)) :=
        balanced_session_rxStart (by simp [cellRank]) protocol (fromSecs 2)
      apply Program.Satisfies.bind starting
      intro reached result same
      subst same
      split
      · refine orderly_then rfl fun _ => ?_
        apply Balanced.bind (balanced_reapplyConfig protocol)
        intro reapplied
        cases reapplied with
        | error => rfl
        | ok =>
            apply Balanced.bind (balanced_session_rxStart (by simp) protocol (fromSecs 2))
            intro result
            cases result with
            | error => rfl
            | ok =>
                apply Balanced.bind (balanced_write .rxStarted true (by simp) (by simp))
                intro
                rfl
      · exact orderly_then rfl fun _ => rfl
      · refine orderly_then rfl fun _ => ?_
        exact orderly_then rfl fun _ => rfl

theorem balanced_rxStop : Balanced [] (rxStop protocol) := by
  refine balanced_ifOpen (fun _ => ⟨_, rfl⟩) ?_
  apply Balanced.bind balanced_markWrite
  intro
  apply Balanced.bind (balanced_session_rxStop (by simp) protocol (fromSecs 2))
  intro result
  cases result with
  | error => rfl
  | ok =>
      apply Balanced.bind (balanced_write .rxStarted false (by simp) (by simp))
      intro
      rfl

theorem balanced_ensureReceiving : Balanced [] (ensureReceiving protocol) := by
  refine balanced_ifOpen (fun _ => ⟨_, rfl⟩) ?_
  apply Balanced.bind (balanced_read .rxStarted (by simp))
  intro started
  cases started with
  | true => rfl
  | false =>
      apply Balanced.bind (balanced_rxStart protocol)
      intro result
      cases result <;> rfl

theorem balanced_recv (timeout : Duration) : Balanced [] (recv protocol timeout) := by
  apply Balanced.bind (balanced_ensureReceiving protocol)
  intro receiving
  cases receiving with
  | true => exact balanced_effect (by simp [Orderly]) rfl
  | false => rfl

theorem balanced_nextRx : Balanced [] (nextRx protocol) := by
  apply Balanced.bind (balanced_ensureReceiving protocol)
  intro receiving
  cases receiving with
  | true => exact balanced_effect (by simp [Orderly]) rfl
  | false => rfl

theorem balanced_setConfig (modulation : Modulation types) :
    Balanced [] (setConfig protocol modulation) := by
  refine balanced_ifOpen (fun _ => ⟨_, rfl⟩) ?_
  apply Balanced.bind balanced_markWrite
  intro
  apply Balanced.bind (balanced_session_setConfig (by simp) protocol modulation (fromSecs 2))
  intro result
  cases result with
  | error => rfl
  | ok result =>
      apply Balanced.bind (balanced_write .appliedConfig _ (by simp) (by simp))
      intro
      apply Balanced.bind (balanced_write .rxStarted false (by simp) (by simp))
      intro
      rfl

theorem balanced_ping : Balanced [] (ping protocol) := by
  refine balanced_ifOpen (fun _ => ⟨_, rfl⟩) ?_
  apply Balanced.bind balanced_markWrite
  intro
  exact balanced_session_ping (by simp) protocol (fromSecs 2)

theorem balanced_close : Balanced [] (close : Operation types Unit) := by
  refine orderly_then (by simp [Orderly]) fun _ => ?_
  refine orderly_then rfl fun closed => ?_
  cases closed with
  | true => exact orderly_then rfl fun _ => rfl
  | false =>
      refine orderly_then ⟨rfl, rfl⟩ fun _ => ?_
      refine orderly_then rfl fun _ => ?_
      refine orderly_then (by simp [Orderly, Locks.after, effectUse]) fun _ => ?_
      exact orderly_then (by simp [Orderly, Locks.after, effectUse]) fun _ => rfl

theorem balanced_keepaliveTick : Balanced [] (keepaliveTick protocol) := by
  apply Balanced.bind (balanced_sleep (by simp) _)
  intro
  apply Balanced.bind (balanced_read .closed (by simp))
  intro closed
  cases closed with
  | true => rfl
  | false =>
      apply Balanced.bind (balanced_read .lastWriteAt (by simp))
      intro last
      apply Balanced.bind (balanced_now (by simp))
      intro instant
      change Balanced [] (if _ then _ else _)
      split
      · rfl
      · apply Balanced.bind (balanced_session_ping (by simp) protocol (fromSecs 2))
        intro result
        split
        · apply Balanced.bind balanced_markWrite
          intro
          rfl
        · apply Balanced.bind (balanced_read .appliedConfig (by simp))
          intro cached
          cases cached with
          | none => rfl
          | some config =>
              apply Balanced.bind
                (balanced_session_setConfig (by simp) protocol config (fromSecs 2))
              intro result
              cases result with
              | error => rfl
              | ok =>
                  apply Balanced.bind balanced_markWrite
                  intro
                  rfl
        · rfl

theorem balanced_operationOf (call : Call types) : Balanced [] (operationOf protocol call) := by
  cases call with
  | txWithTimeout data skipCad timeout =>
      exact (balanced_txWithTimeout protocol data skipCad timeout).bind fun _ => rfl
  | txWithRetry data policy => exact (balanced_txWithRetry protocol data policy).bind fun _ => rfl
  | rxStart => exact (balanced_rxStart protocol).bind fun _ => rfl
  | rxStop => exact (balanced_rxStop protocol).bind fun _ => rfl
  | recv timeout => exact (balanced_recv protocol timeout).bind fun _ => rfl
  | nextRx => exact (balanced_nextRx protocol).bind fun _ => rfl
  | setConfig modulation => exact (balanced_setConfig protocol modulation).bind fun _ => rfl
  | ping => exact (balanced_ping protocol).bind fun _ => rfl
  | drainAsyncErrors => exact orderly_then (by simp [Orderly]) fun _ => rfl
  | config => exact (balanced_read .appliedConfig (by simp)).bind fun _ => rfl
  | close => exact balanced_close.bind fun _ => rfl
  | keepaliveTick => exact (balanced_keepaliveTick protocol).bind fun _ => rfl

end Operations

/-! ## The locks of a pool -/

def Pool.crew (pool : Pool types) : Locks.Crew (Effect types) Answer (Outcome types) Cell where
  tasks task :=
    match pool.tasks task with
    | .idle => none
    | .running _ operation _ _ => some operation
  holders := pool.holders

theorem orderly_inOrder (held : List Cell) (effect : Effect types) (orderly : Orderly held effect) :
    Locks.InOrder effectUse cellRank held effect := by
  cases effect with
  | acquire cell => exact orderly
  | release cell => exact orderly
  | _ => trivial

section Crews

variable {protocol : Protocol types} {pool next : Pool types} {task : TaskId}

theorem crew_tasks {call : Call types} {operation : Operation types (Outcome types)}
    {inFlight : Option CallId} {log : List (Command types)}
    (running : pool.tasks task = .running call operation inFlight log) :
    pool.crew.tasks task = some operation := by
  simp only [Pool.crew, running]

theorem crew_setTask (call : Call types) (operation : Operation types (Outcome types))
    (inFlight : Option CallId) (log : List (Command types)) :
    (pool.setTask task (.running call operation inFlight log)).crew =
      pool.crew.setTask task (some operation) := by
  simp only [Pool.crew, Pool.setTask, Locks.Crew.setTask, Locks.Crew.mk.injEq, and_true]
  funext other
  by_cases own : other = task
  · subst own
    simp
  · simp [own]

theorem crew_setTask_same {call : Call types} {operation : Operation types (Outcome types)}
    {inFlight : Option CallId} {log : List (Command types)} {reached : Pool types}
    (same : reached.crew = pool.crew) (running : pool.crew.tasks task = some operation) :
    (reached.setTask task (.running call operation inFlight log)).crew = pool.crew := by
  rw [crew_setTask, same, Locks.Crew.setTask, ← running, Function.update_eq_self]

/-- The locks of the pool are those of its crew, as long as a task releases only what
it holds. -/
theorem useLocks_of_answers {effect : Effect types} {answer : Answer effect}
    (answers : Answers task pool effect answer next)
    (holds : ∀ cell, effect = .release cell → pool.holders cell = some task) :
    pool.crew.useLocks effectUse task effect = some next.crew := by
  cases answers with
  | acquire cell free =>
      have unheld : pool.crew.holders cell = none := free
      simp only [Locks.Crew.useLocks, effectUse, unheld]
      rfl
  | release cell =>
      have own : pool.crew.holders cell = some task := holds cell rfl
      simp only [Locks.Crew.useLocks, effectUse, own, if_pos]
      rfl
  | load cell => rfl
  | store cell value => rfl
  | plain _ queues isPlain =>
      have neither : effectUse effect = .neither := by
        cases effect <;> first | rfl | cases isPlain
      rw [Locks.Crew.useLocks, neither]
      rfl

theorem crew_performs {effect : Effect types}
    {rest : Answer effect → Operation types (Outcome types)} {answer : Answer effect}
    {reached : Pool types} {call : Call types} {log : List (Command types)}
    (running : pool.crew.tasks task = some (.perform effect rest))
    (used : pool.crew.useLocks effectUse task effect = some reached.crew) :
    ∃ action, Locks.stepCrew effectUse (operationOf protocol) pool.crew action =
      some (reached.setTask task (.running call (rest answer) none log)).crew := by
  rcases Locks.stepCrew_perform answer running used with ⟨reply, stepped⟩
  exact ⟨.perform task reply, by rw [crew_setTask]; exact stepped⟩

/-- A step of the pool is a step of its crew, or none of the crew's concern. -/
theorem crew_step {action : PoolAction types}
    (keeping : ∀ task, ∃ held, Locks.Keeping effectUse Orderly pool.crew task held)
    (transition : PoolTransition protocol pool action next) :
    next.crew = pool.crew ∨ ∃ action,
      Locks.stepCrew effectUse (operationOf protocol) pool.crew action = some next.crew := by
  cases transition with
  | starts task call idle =>
      refine .inr ⟨.start task call, ?_⟩
      have none : pool.crew.tasks task = none := by simp only [Pool.crew, idle]
      simp only [Locks.stepCrew, none, crew_setTask]
  | performs task choice current answers =>
      have running := crew_tasks current
      refine .inr (crew_performs running (useLocks_of_answers answers ?_))
      intro cell releases
      subst releases
      rcases keeping task with ⟨held, keeps⟩
      have newest : held.head? = some cell := (keeps.disciplined _ running).1
      exact (keeps.holds cell).mpr (List.mem_of_mem_head? newest)
  | issues task id current begins => exact .inl (crew_setTask_same rfl (crew_tasks current))
  | collects task current returned => exact .inr (crew_performs (crew_tasks current) rfl)
  | closes task current closing steps goesOn =>
      rcases goesOn with same | continues
      · rw [same, current]
        exact .inl (crew_setTask_same rfl (crew_tasks current))
      · rw [continues]
        exact .inr (crew_performs (crew_tasks current) rfl)
  | background => exact .inl rfl

theorem keeping_of_pool {session : State types} {applied : Option (Modulation types)}
    {openedAt : Instant} {allowed : Pool types → PoolAction types → Prop}
    (reached : (poolMachine protocol session applied openedAt).ReachableBy allowed pool)
    (task : TaskId) : ∃ held, Locks.Keeping effectUse Orderly pool.crew task held := by
  have crewReached :
      (Locks.crewMachine effectUse (operationOf protocol)).Reachable pool.crew := by
    apply reached.invariant
    · exact .initial
    · intro current action next crewReached _ stepped
      have keeping := Locks.keeping_of_reachable orderly_inOrder
        (balanced_operationOf protocol) crewReached
      rcases crew_step keeping (poolTransition_of_step stepped) with same | ⟨action, steps⟩
      · rw [same]
        exact crewReached
      · exact .step crewReached trivial steps
  exact Locks.keeping_of_reachable orderly_inOrder (balanced_operationOf protocol)
    crewReached task

end Crews

end DongloraClient.Dongle
