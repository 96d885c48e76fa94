import DongloraClient.Dongle.LockOrder
import DongloraClient.Dongle.Repertoire
import DongloraClient.Session.Routines

/-! # No deadlock

The operations of a dongle with every effect on the session carried out lock by
lock, next to the turns of the reader. `rx_started` is the only mutex ever held over
another one, so that ranking it below the rest is a lock order that everything
respects, whatever the device answers.
-/

namespace DongloraClient.Dongle

open Foundation Session Routines

variable {types : WireTypes}

/-! ## The order -/

def cellMutex : Cell → Mutex
  | .appliedConfig => .appliedConfig
  | .rxStarted => .rxStarted
  | .lastWriteAt => .lastWriteAt
  | .closed => .dongleClosed

def mutexRank : Mutex → Nat
  | .rxStarted => 0
  | _ => 1

theorem mutexRank_cellMutex (cell : Cell) : mutexRank (cellMutex cell) = cellRank cell := by
  cases cell <;> rfl

def accessUse : Access types → Locks.Use Mutex
  | .lock mutex => .acquire mutex
  | .unlock mutex => .release mutex
  | _ => .neither

inductive Job (types : WireTypes)
  | operation (call : Call types)
  | readerTurn

/-- Who comes to the accesses that may hold a task up for ever, and with which mutexes. -/
def Job.Suits (protocol : Protocol types) (job : Job types) (held : List Mutex) :
    Access types → Prop
  | .lock .rxRx => (job = .operation .nextRx ∨ ∃ timeout, job = .operation (.recv timeout)) ∧
      held = []
  | .recv none => job = .operation .nextRx ∧ held = [.rxRx]
  | .read => job = .readerTurn ∧ held = []
  | .own .panic => (∃ call, job = .operation call ∧ call.oversize protocol) ∧ held = []
  | _ => True

def Job.Permits (protocol : Protocol types) (job : Job types) (held : List Mutex)
    (access : Access types) : Prop :=
  Locks.InOrder accessUse mutexRank held access ∧ job.Suits protocol held access

def Tidy {Result : Type} (protocol : Protocol types) (job : Job types) (held : List Mutex)
    (routine : Routine types Result) : Prop :=
  Locks.Restoring accessUse (job.Permits protocol) held routine

section Rules

variable {First Second : Type} {held : List Mutex} {protocol : Protocol types}
  {job : Job types}

theorem Tidy.bind {routine : Routine types First} {next : First → Routine types Second}
    (first : Tidy protocol job held routine)
    (second : ∀ value, Tidy protocol job held (next value)) :
    Tidy protocol job held (routine >>= next) :=
  Locks.Restoring.bind first second

theorem tidy_access {access : Access types} (neither : accessUse access = .neither)
    (suits : job.Suits protocol held access) :
    Tidy protocol job held (.perform access .done) := by
  apply Locks.restoring_effect _ neither
  refine ⟨?_, suits⟩
  rw [Locks.InOrder, neither]
  trivial

def isPlain : Access types → Bool
  | .lock _ => false
  | .unlock _ => false
  | .recv none => false
  | .read => false
  | .own .panic => false
  | _ => true

theorem tidy_plain {access : Access types} (plain : isPlain access = true) :
    Tidy protocol job held (.perform access .done) := by
  refine tidy_access ?_ ?_
  · cases access <;> first | rfl | cases plain
  · rw [Job.Suits.eq_def]
    split <;> trivial

theorem tidy_guarded {mutex : Mutex} {block : Routine types First}
    (above : ∀ other ∈ held, mutexRank other < mutexRank mutex)
    (suits : job.Suits protocol held (.lock mutex))
    (tidy : Tidy protocol job (mutex :: held) block) :
    Tidy protocol job held (guarded mutex block) := by
  refine ⟨⟨above, suits⟩, ?_⟩
  intro _ reached same
  rw [same]
  apply Program.Satisfies.bind tidy
  intro inside result still
  rw [still]
  refine ⟨⟨rfl, trivial⟩, ?_⟩
  intro _ after freed
  rw [freed]
  rfl

end Rules

/-! ## Session -/

section Session

variable {protocol : Protocol types} {job : Job types} {held : List Mutex}
  (outer : ∀ other ∈ held, mutexRank other = 0)

/-- A mutex of the session that is given up after at most one write. -/
def isInner : Mutex → Bool
  | .pending => true
  | .writer => true
  | .asyncErrRx => true
  | .readerHandle => true
  | _ => false

include outer in
/-- A mutex of the session, which may be taken under `rx_started`. -/
theorem tidy_inner {Result : Type} {mutex : Mutex} {block : Routine types Result}
    (inner : isInner mutex = true) (tidy : Tidy protocol job (mutex :: held) block) :
    Tidy protocol job held (guarded mutex block) := by
  refine tidy_guarded ?_ ?_ tidy
  · intro other member
    rw [outer other member]
    cases mutex with
    | rxStarted => cases inner
    | _ => exact Nat.zero_lt_one
  · cases mutex with
    | rxRx => cases inner
    | _ => trivial

include outer in
theorem tidy_writeFrame (typeId : UInt8) (tag : UInt16) (payload : List UInt8) :
    Tidy protocol job held (writeFrame protocol typeId tag payload) := by
  rw [writeFrame]
  split
  · rfl
  · apply tidy_inner outer rfl
    apply Tidy.bind (tidy_plain rfl)
    intro written
    cases written with
    | error text => rfl
    | ok =>
        apply Tidy.bind (tidy_plain rfl)
        intro flushed
        cases flushed <;> rfl

include outer in
theorem tidy_giveUp (tag : UInt16) (error : ClientError) :
    Tidy protocol job held (giveUp tag error : Routine types _) :=
  (tidy_inner outer rfl (tidy_plain rfl)).bind fun _ => rfl

include outer in
theorem tidy_sendCommand (request : Request) (timeout : Duration) :
    Tidy protocol job held (Routines.sendCommand protocol request timeout) := by
  apply Tidy.bind (tidy_plain rfl)
  intro closed
  cases closed with
  | true => rfl
  | false =>
      apply Tidy.bind (tidy_plain rfl)
      intro tag
      apply Tidy.bind (tidy_plain rfl)
      intro call
      apply Tidy.bind (tidy_inner outer rfl (tidy_plain rfl))
      intro
      apply Tidy.bind (tidy_writeFrame outer _ _ _)
      intro written
      cases written with
      | error error => exact tidy_giveUp outer tag error
      | ok =>
          apply Tidy.bind (tidy_plain rfl)
          intro awaited
          cases awaited with
          | answered response => rfl
          | senderGone => exact tidy_giveUp outer tag _
          | elapsed => exact tidy_giveUp outer tag _

theorem tidy_wakeAll (reason : String) (slots : List Pending) :
    Tidy protocol job held (wakeAll reason slots : Routine types Unit) := by
  induction slots with
  | nil => rfl
  | cons slot slots induction => exact (tidy_plain rfl).bind fun _ => induction

include outer in
theorem tidy_wakePending (reason : String) :
    Tidy protocol job held (wakePending reason : Routine types Unit) :=
  (tidy_inner outer rfl (tidy_plain rfl)).bind fun slots => tidy_wakeAll reason slots

include outer in
theorem tidy_close : Tidy protocol job held (Routines.close : Routine types Unit) := by
  apply Tidy.bind (tidy_plain rfl)
  intro
  apply Tidy.bind (tidy_wakePending outer "session closed")
  intro
  apply tidy_inner outer rfl
  apply Tidy.bind (tidy_plain rfl)
  intro found
  cases found with
  | true => exact tidy_plain rfl
  | false => rfl

theorem tidy_dispatch (frame : Frame) :
    Tidy protocol job [] (Routines.dispatch protocol frame) := by
  rw [Routines.dispatch]
  split
  · exact tidy_plain rfl
  · apply Tidy.bind (tidy_inner (by simp) rfl (tidy_plain rfl))
    intro removed
    cases removed with
    | none => rfl
    | some slot =>
        change Tidy protocol job [] (if _ then _ else _)
        split
        · exact tidy_inner (by simp) rfl (tidy_plain rfl)
        · exact tidy_plain rfl

theorem tidy_dispatchWorks (works : List FrameWork) :
    Tidy protocol job [] (dispatchWorks protocol works) := by
  induction works with
  | nil => rfl
  | cons work works induction =>
      cases work with
      | ok frame => exact (tidy_dispatch frame).bind fun _ => induction
      | frame => exact (tidy_plain rfl).bind fun _ => induction

theorem tidy_read : Tidy protocol .readerTurn [] (Routines.read : Routine types _) :=
  tidy_access rfl ⟨rfl, rfl⟩

theorem tidy_readerTurn : Tidy protocol .readerTurn [] (readerTurn protocol) := by
  apply Tidy.bind (tidy_plain rfl)
  intro closed
  cases closed with
  | true => exact tidy_wakePending (by simp) _
  | false =>
      apply tidy_read.bind
      intro found
      cases found with
      | none => exact tidy_wakePending (by simp) _
      | some works => exact tidy_dispatchWorks works

end Session

/-! ## Operations -/

section Operations

variable (protocol : Protocol types)

def lower : (effect : Effect types) → Routine types (Answer effect)
  | .acquire cell => lock (cellMutex cell)
  | .release cell => unlock (cellMutex cell)
  | .sendCommand request timeout => Routines.sendCommand protocol request timeout
  | .recvRx timeout => Routines.recvRx timeout
  | .nextRx => Routines.nextRx
  | .drainAsyncErrors => Routines.drainAsyncErrors
  | .closeSession => Routines.close
  | effect => .perform (.own effect) .done

theorem outer_map {held : List Cell} (outer : ∀ other ∈ held, cellRank other = 0) :
    ∀ other ∈ held.map cellMutex, mutexRank other = 0 := by
  intro other member
  rcases List.mem_map.mp member with ⟨cell, among, rfl⟩
  rw [mutexRank_cellMutex]
  exact outer cell among

abbrev Lowers (call : Call types) (held : List Cell) (effect : Effect types)
    (routine : Routine types (Answer effect)) : Prop :=
  routine.Satisfies (Locks.Holding accessUse) (Job.Permits protocol (.operation call))
    (fun reached answer => ∃ next, Locks.Holding effectUse held effect answer next ∧
      reached = next.map cellMutex) (held.map cellMutex)

variable {protocol} {call : Call types}

theorem lowers_of_tidy {held : List Cell} {effect : Effect types}
    {routine : Routine types (Answer effect)} (neither : effectUse effect = .neither)
    (tidy : Tidy protocol (.operation call) (held.map cellMutex) routine) :
    Lowers protocol call held effect routine := by
  apply Program.Satisfies.weaken tidy
  intro reached answer same
  refine ⟨held, ?_, same⟩
  rw [Locks.Holding, Locks.after, neither]

theorem lowers_lower (held : List Cell) (effect : Effect types)
    (may : Orderly held effect ∧ call.mayPerform protocol effect) :
    Lowers protocol call held effect (lower protocol effect) := by
  rcases may with ⟨orderly, may⟩
  cases effect with
  | acquire cell =>
      refine ⟨⟨?_, by cases cell <;> trivial⟩, ?_⟩
      · intro other member
        rcases List.mem_map.mp member with ⟨earlier, among, rfl⟩
        rw [mutexRank_cellMutex, mutexRank_cellMutex]
        exact orderly earlier among
      · intro answer reached same
        exact ⟨_, rfl, same⟩
  | release cell =>
      rcases List.head?_eq_some_iff.mp orderly with ⟨older, rfl⟩
      refine ⟨⟨rfl, trivial⟩, ?_⟩
      intro answer reached same
      exact ⟨_, rfl, same⟩
  | sendCommand request timeout =>
      exact lowers_of_tidy rfl (tidy_sendCommand (outer_map orderly) request timeout)
  | recvRx timeout =>
      rcases may with ⟨_, rfl⟩
      cases orderly
      exact lowers_of_tidy rfl
        (tidy_guarded (by simp) ⟨.inr ⟨_, rfl⟩, rfl⟩ (tidy_plain rfl))
  | nextRx =>
      cases may
      cases orderly
      exact lowers_of_tidy rfl
        (tidy_guarded (by simp) ⟨.inl rfl, rfl⟩ (tidy_access rfl ⟨rfl, rfl⟩))
  | panic =>
      cases orderly
      exact lowers_of_tidy rfl (tidy_access rfl ⟨⟨call, rfl, may⟩, rfl⟩)
  | drainAsyncErrors =>
      exact lowers_of_tidy rfl (tidy_inner (outer_map orderly) rfl (tidy_plain rfl))
  | closeSession => exact lowers_of_tidy rfl (tidy_close (outer_map orderly))
  | _ => exact lowers_of_tidy rfl (tidy_plain rfl)

theorem tidy_expand {Result : Type} {operation : Operation types Result}
    (balanced : Balanced [] operation) (confined : Confined protocol call operation) :
    Tidy protocol (.operation call) [] (operation.expand (lower protocol)) := by
  have lowered := Program.Satisfies.expand lowers_lower (balanced.performs confined)
  apply Program.Satisfies.weaken lowered
  intro reached value ends
  rcases ends with ⟨next, rfl, rfl⟩
  rfl

end Operations

/-! ## Runs -/

section Runs

variable (protocol : Protocol types)

def Job.routine : Job types → Routine types Unit
  | .operation call => do
      let _ ← (operationOf protocol call).expand (lower protocol)
      return ()
  | .readerTurn => Routines.readerTurn protocol

theorem tidy_routine (job : Job types) : Tidy protocol job [] (job.routine protocol) := by
  cases job with
  | operation call =>
      exact (tidy_expand (balanced_operationOf protocol call) (confined_operationOf call)).bind
        fun _ => rfl
  | readerTurn => exact tidy_readerTurn

theorem disciplined_routine (job : Job types) :
    Locks.Disciplined accessUse (Locks.InOrder accessUse mutexRank) [] (job.routine protocol) :=
  (tidy_routine protocol job).permits fun _ _ permitted => permitted.1

/-- Any number of tasks, with accesses answered in any way. A task can be dropped
wherever it stands. -/
def clientMachine : Machine (Locks.Crew (Access types) Access.Answer Unit Mutex)
    (Locks.CrewAction (Access types) Access.Answer (Job types)) :=
  Locks.crewMachine accessUse (Job.routine protocol)

variable {protocol} {crew : Locks.Crew (Access types) Access.Answer Unit Mutex}

/-- In every interleaving of operations, keepalive turns and reader turns: no tasks
wait in a cycle for mutexes held by the next, and none for a mutex of its own. -/
theorem no_deadlock (reached : (clientMachine protocol).Reachable crew) :
    (∀ task, ¬ Relation.TransGen (crew.WaitsFor accessUse) task task) ∧
      ∀ task, ¬ crew.WaitsFor accessUse task task := by
  have inOrder : ∀ held (access : Access types), Locks.InOrder accessUse mutexRank held access →
      Locks.InOrder accessUse mutexRank held access := fun _ _ ordered => ordered
  have acyclic := Locks.no_wait_cycle inOrder (disciplined_routine protocol) reached
  refine ⟨acyclic, ?_⟩
  intro task waits
  exact acyclic task (.single waits)

end Runs

def quietAnswer : (effect : Effect types) → Option (Answer effect)
  | .load .closed => some false
  | .load .rxStarted => some false
  | .now => some (0 : Instant)
  | .store _ _ => some ()
  | _ => none

def quietReply : (access : Access types) → Option access.Answer
  | .lock _ => some ()
  | .unlock _ => some ()
  | .own effect => quietAnswer effect
  | .loadClosed => some false
  | .allocTag => some (1 : UInt16)
  | .channel => some (0 : CallId)
  | .read => some (some [.ok ⟨128, 1, []⟩])
  | _ => none

/-- A `recv` waits for the `rx_start` that has the lock of `rx_started`, which waits
for the reader, which has the pending map. -/
def waitingChain : List (Locks.CrewAction (Access WireTypes.sample) Access.Answer
    (Job WireTypes.sample)) :=
  .start 0 (.operation .rxStart) :: List.replicate 12 (.perform 0 quietReply) ++
    .start 1 (.operation (.recv 0)) :: List.replicate 3 (.perform 1 quietReply) ++
    .start 2 .readerTurn :: List.replicate 3 (.perform 2 quietReply)

theorem no_deadlock_waitingChain :
    ∃ crew, (clientMachine Protocol.sample).run (clientMachine Protocol.sample).initial
        waitingChain = some crew ∧
      crew.WaitsFor accessUse 1 0 ∧ crew.WaitsFor accessUse 0 2 ∧
      ∀ task, ¬ Relation.TransGen (crew.WaitsFor accessUse) task task := by
  have ran : ∃ crew, (clientMachine Protocol.sample).run
        (clientMachine Protocol.sample).initial waitingChain = some crew ∧
      crew.WaitsFor accessUse 1 0 ∧ crew.WaitsFor accessUse 0 2 :=
    ⟨_, rfl, ⟨_, _, .rxStarted, rfl, rfl, rfl⟩, ⟨_, _, .pending, rfl, rfl, rfl⟩⟩
  rcases ran with ⟨crew, ran, receiving, starting⟩
  exact ⟨crew, ran, receiving, starting, (no_deadlock (.run .initial ran)).1⟩

end DongloraClient.Dongle
