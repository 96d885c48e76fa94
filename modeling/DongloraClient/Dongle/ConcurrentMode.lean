import DongloraClient.Connect.FailedHandshake
import DongloraClient.Dongle.ModeProgress
import DongloraClient.Session.Correlation

/-! # The cached receive mode under concurrency

`rx_start` holds the lock of `rx_started` over its command, while `rx_stop` and
`set_config` take it only to clear the flag after theirs. What makes the cache safe
is that an accepted `RX_STOP` or `SET_CONFIG` always has its clearing store ahead of
it or behind it, and that the store does not fall between an `RX_START` and the
store that belongs to it.
-/

namespace DongloraClient.Dongle

open Foundation Session

variable {types : WireTypes} (protocol : Protocol types)

/-! ## The last accepted command -/

/-- The mode that an answer put the device into: an answer from a frame, to a command
whose session call has returned `Ok`. -/
def deliveredMode (session : State types) : Event types → Option ModeCommand
  | .delivered id _ (.frame _) =>
      match session.calls id with
      | .returned request _ result => Command.acceptedMode protocol ⟨request, result⟩
      | _ => none
  | _ => none

def lastAccepted (session : State types) : Option ModeCommand :=
  session.history.findSome? (deliveredMode protocol session)

/-! ## Calls and commands -/

section Phases

variable {protocol} {state next : State types} {action : Action} {id : CallId}

def requestOf : Phase types → Option Request
  | .idle => none
  | .opened request => some request
  | .tagged request _ => some request
  | .writing request _ => some request
  | .waiting request _ => some request
  | .cleaning request _ _ => some request
  | .returned request _ _ => some request

def Busy : Phase types → Prop
  | .idle => False
  | .returned _ _ _ => False
  | _ => True

theorem requestOf_of_transition (transition : Transition protocol state action next)
    {request : Request} (known : requestOf (state.calls id) = some request) :
    requestOf (next.calls id) = some request := by
  cases transition.callStep id with
  | keeps same =>
      rw [same]
      exact known
  | advance current reached advances =>
      rw [current] at known
      rw [reached]
      cases advances with
      | refuse | accept => cases known
      | _ => exact known
  | allocTag current reached | register current reached _ _ | cleanup current reached =>
      rw [current] at known
      rw [reached]
      exact known

theorem busy_of_transition (transition : Transition protocol state action next)
    (busy : Busy (next.calls id)) :
    Busy (state.calls id) ∨ ∃ request, action = .begin id request := by
  cases transition.callStep id with
  | keeps same =>
      rw [same] at busy
      exact .inl busy
  | advance current _ advances =>
      rw [current]
      cases advances with
      | refuse request | accept request => exact .inr ⟨request, rfl⟩
      | _ => exact .inl trivial
  | allocTag current _ | register current _ _ _ | cleanup current _ =>
      rw [current]
      exact .inl trivial

theorem requestOf_of_begin {request : Request}
    (begins : Transition protocol state (.begin id request) next) :
    state.calls id = .idle ∧ requestOf (next.calls id) = some request := by
  cases begins with
  | advance other current advances =>
      cases advances with
      | refuse => exact ⟨current, by simp [State.setPhase, requestOf]⟩
      | accept => exact ⟨current, by simp [State.setPhase, requestOf]⟩
  | readerMoves current moves => cases moves

end Phases

/-! ## Sessions whose queues are consumed -/

section Sound

variable {protocol} {state next : State types} {id : CallId}

/-- What the correlation of answers rests on, none of which looks at the queues. -/
structure Sound (protocol : Protocol types) (session : State types) : Prop where
  owned : Owned session
  recorded : Recorded protocol session

theorem Sound.shifts (sound : Sound protocol state) (shifts : Shifts protocol state next) :
    Sound protocol next := by
  have owned := sound.owned
  have recorded := sound.recorded
  cases shifts with
  | queues queues =>
      exact ⟨⟨owned.owner, owned.apart, owned.settled, owned.spent, owned.once⟩,
        ⟨recorded.registered, recorded.truthful, recorded.numbered, recorded.distinct,
          recorded.explained, recorded.filled, recorded.answered⟩⟩
  | steps transition => exact ⟨owned.step transition, recorded.step owned transition⟩

theorem history_of_shifts (shifts : Shifts protocol state next) :
    ∃ fresh, next.history = fresh ++ state.history := by
  cases shifts with
  | queues => exact ⟨[], rfl⟩
  | steps transition => exact transition.history_grows

theorem mem_deliveredCalls {history : List (Event types)} {response : SessionResponse types}
    {source : Source} (member : .delivered id response source ∈ history) :
    id ∈ deliveredCalls history :=
  List.mem_filterMap.mpr ⟨_, member, rfl⟩

theorem Sound.once (sound : Sound protocol state) {fresh older : List (Event types)}
    (split : state.history = fresh ++ older) {response again : SessionResponse types}
    {source second : Source} (first : .delivered id response source ∈ older)
    (newer : .delivered id again second ∈ fresh) : False := by
  have once := sound.owned.once
  rw [split, deliveredCalls, List.filterMap_append, List.nodup_append] at once
  exact once.2.2 id (mem_deliveredCalls newer) id (mem_deliveredCalls first) rfl

theorem Sound.unanswered (sound : Sound protocol state) (idle : state.calls id = .idle)
    {response : SessionResponse types} {source : Source} :
    .delivered id response source ∉ state.history := by
  intro member
  apply sound.owned.settled id (mem_deliveredCalls member)
  rw [idle]
  rfl

theorem Sound.delivered (sound : Sound protocol state) {request : Request}
    {tag : Option UInt16} {result : ClientResult (SessionResponse types)} {mode : ModeCommand}
    (returned : state.calls id = .returned request tag result)
    (accepted : Command.acceptedMode protocol ⟨request, result⟩ = some mode) :
    ∃ response serial, .delivered id response (.frame serial) ∈ state.history := by
  cases result with
  | error error =>
      rw [Command.acceptedMode] at accepted
      simp [emptyResult, setConfigResult] at accepted
  | ok response =>
      rcases sound.recorded.answered id request tag response returned with ⟨source, delivered⟩
      cases source with
      | frame serial => exact ⟨response, serial, delivered⟩
      | drain =>
          rcases sound.recorded.explained id response .drain delivered with ⟨reason, same⟩
          subst same
          rw [Command.acceptedMode] at accepted
          simp [emptyResult, setConfigResult] at accepted

end Sound

/-! ## Which task waits for which command -/

def WaitsOn (pool : Pool types) (task : TaskId) (id : CallId) : Prop :=
  ∃ call operation log, pool.tasks task = .running call operation (some id) log

structure Linked (pool : Pool types) : Prop where
  busy : ∀ id, Busy (pool.session.calls id) → ∃ task, WaitsOn pool task id
  request : ∀ task call operation id log,
    pool.tasks task = .running call operation (some id) log →
    ∃ request timeout next, operation = .perform (.sendCommand request timeout) next ∧
      requestOf (pool.session.calls id) = some request

section Linked

variable {protocol} {pool next : Pool types} {task : TaskId}

theorem requestOf_of_shifts {state after : State types} (shifts : Shifts protocol state after)
    {id : CallId} {request : Request} (known : requestOf (state.calls id) = some request) :
    requestOf (after.calls id) = some request := by
  cases shifts with
  | queues => exact known
  | steps transition => exact requestOf_of_transition transition known

/-- Only the tasks' own `issue` steps begin calls. -/
theorem busy_of_poolTransition {action : PoolAction types}
    (transition : PoolTransition protocol pool action next) {id : CallId}
    (busy : Busy (next.session.calls id)) :
    Busy (pool.session.calls id) ∨ ∃ task, action = .issue task id := by
  cases transition with
  | starts | collects => exact .inl busy
  | performs _ _ _ answers =>
      cases answers with
      | _ => exact .inl busy
  | issues task begun current begins =>
      rcases busy_of_transition begins busy with before | ⟨request, same⟩
      · exact .inl before
      · cases same
        exact .inr ⟨task, rfl⟩
  | closes _ _ closing steps _ =>
      rcases busy_of_transition steps busy with before | ⟨request, rfl⟩
      · exact .inl before
      · cases closing
  | background isBackground steps =>
      rcases busy_of_transition steps busy with before | ⟨request, rfl⟩
      · exact .inl before
      · cases isBackground

theorem WaitsOn.step {action : PoolAction types} {id : CallId} (waits : WaitsOn pool task id)
    (transition : PoolTransition protocol pool action next) :
    WaitsOn next task id ∨ action = .collect task := by
  rcases waits with ⟨call, operation, log, waiting⟩
  by_cases own : action.task = some task
  · cases transition with
    | collects actor current returned =>
        cases own
        exact .inr rfl
    | background => cases own
    | starts actor _ current | performs actor _ current _ | issues actor _ current _
    | closes actor current _ _ _ =>
        cases own
        rw [waiting] at current
        cases current
  · exact .inl ⟨call, operation, log, (transition.elsewhere own).trans waiting⟩

theorem Linked.busy_step {action : PoolAction types} (linked : Linked pool)
    (transition : PoolTransition protocol pool action next) (id : CallId)
    (busy : Busy (next.session.calls id)) : ∃ task, WaitsOn next task id := by
  rcases busy_of_poolTransition transition busy with before | ⟨task, rfl⟩
  · rcases linked.busy id before with ⟨task, waits⟩
    rcases waits.step transition with still | rfl
    · exact ⟨task, still⟩
    · rcases waits with ⟨call, operation, log, waiting⟩
      cases transition with
      | collects _ current returned =>
          rw [waiting] at current
          cases current
          rw [returned] at before
          cases before
  · cases transition with
    | issues _ _ current _ => exact ⟨task, _, _, _, Pool.setTask_self _ _ _⟩

theorem Linked.request_step {action : PoolAction types} (linked : Linked pool)
    (transition : PoolTransition protocol pool action next) {call : Call types}
    {operation : Operation types (Outcome types)} {id : CallId} {log : List (Command types)}
    (running : next.tasks task = .running call operation (some id) log) :
    ∃ request timeout rest, operation = .perform (.sendCommand request timeout) rest ∧
      requestOf (next.session.calls id) = some request := by
  by_cases own : action.task = some task
  · cases transition with
    | issues actor begun current begins =>
        cases own
        rw [Pool.setTask_self] at running
        cases running
        exact ⟨_, _, _, rfl, (requestOf_of_begin begins).2⟩
    | starts actor _ _ | performs actor _ _ _ | collects actor _ _ =>
        cases own
        rw [Pool.setTask_self] at running
        cases running
    | closes actor current closing steps goesOn =>
        cases own
        rw [Pool.setTask_self] at running
        rcases goesOn with same | continues
        · rw [same, current] at running
          cases running
        · rw [continues] at running
          cases running
    | background => cases own
  · rw [transition.elsewhere own] at running
    rcases linked.request task call operation id log running with
      ⟨request, timeout, rest, same, known⟩
    exact ⟨request, timeout, rest, same, requestOf_of_shifts transition.shifts known⟩

theorem Linked.step {action : PoolAction types} (linked : Linked pool)
    (transition : PoolTransition protocol pool action next) : Linked next where
  busy := linked.busy_step transition
  request _ _ _ _ _ running := linked.request_step transition running

end Linked

/-! ## The invariant -/

def StartedIn (session : State types) (events : List (Event types)) : Prop :=
  ∃ event ∈ events, deliveredMode protocol session event = some .rxStart

/-- The task has still to clear the flag because of `event`: it owes the store, or
will when it collects the answer. -/
def Liable (pool : Pool types) (progress : TaskId → Progress) (event : Event types)
    (task : TaskId) : Prop :=
  (progress task).owes = true ∨
    ∃ id response source, event = .delivered id response source ∧ WaitsOn pool task id

/-- A task and its progress, `recent` being the history since the flag was last
cleared. -/
structure Tracked (pool : Pool types) (recent cleared : List (Event types)) (task : TaskId)
    (progress : Progress) : Prop where
  follows : ∀ call operation inFlight log,
    pool.tasks task = .running call operation inFlight log →
    Follows protocol PaidUp progress operation ∧ progress.modal = call.changesMode
  idle : pool.tasks task = .idle → progress.Free
  locks : progress.locked = true ↔ pool.holders .rxStarted = some task
  modal : progress.owes = true → progress.modal = true
  ready : progress.ready = true →
    progress.locked = true ∧ StartedIn protocol pool.session recent
  fresh : ∀ id, WaitsOn pool task id → progress.locked = true →
    ∀ response source, .delivered id response source ∉ cleared

structure Tracks (pool : Pool types) (progress : TaskId → Progress)
    (recent cleared : List (Event types)) : Prop where
  split : pool.session.history = recent ++ cleared
  tracked : ∀ task, Tracked protocol pool recent cleared task (progress task)
  cached : pool.inner.rxStarted = true → StartedIn protocol pool.session recent
  stops : ∀ event ∈ recent, ∀ mode, deliveredMode protocol pool.session event = some mode →
    mode ≠ .rxStart → ∃ task, Liable pool progress event task

section Tracking

variable {protocol} {pool next : Pool types} {progress : TaskId → Progress}
  {recent cleared : List (Event types)}

theorem deliveredMode_eq_some {session : State types} {event : Event types}
    {mode : ModeCommand} (delivered : deliveredMode protocol session event = some mode) :
    ∃ id response serial request tag result, event = .delivered id response (.frame serial) ∧
      session.calls id = .returned request tag result ∧
      Command.acceptedMode protocol ⟨request, result⟩ = some mode := by
  unfold deliveredMode at delivered
  split at delivered
  · next id response serial =>
    split at delivered
    · next request tag result returned =>
      exact ⟨id, response, serial, request, tag, result, rfl, returned, delivered⟩
    · cases delivered
  · cases delivered

theorem acceptedMode_ok {request : Request} {result : ClientResult (SessionResponse types)}
    {mode : ModeCommand} (accepted : Command.acceptedMode protocol ⟨request, result⟩ = some mode) :
    ∃ response, result = .ok response := by
  cases result with
  | ok response => exact ⟨response, rfl⟩
  | error error =>
      rw [Command.acceptedMode] at accepted
      simp [emptyResult, setConfigResult] at accepted

theorem deliveredMode_of_shifts {state after : State types} (shifts : Shifts protocol state after)
    {event : Event types} {mode : ModeCommand}
    (delivered : deliveredMode protocol state event = some mode) :
    deliveredMode protocol after event = some mode := by
  cases shifts with
  | queues => exact delivered
  | steps transition =>
      rcases deliveredMode_eq_some delivered with
        ⟨id, response, serial, request, tag, result, rfl, returned, accepted⟩
      simp only [deliveredMode, transition.stays_returned returned]
      exact accepted

theorem StartedIn.shifts {state after : State types} (shifts : Shifts protocol state after)
    {events : List (Event types)} (started : StartedIn protocol state events)
    (newer : List (Event types)) : StartedIn protocol after (newer ++ events) := by
  rcases started with ⟨event, member, delivered⟩
  exact ⟨event, List.mem_append_right _ member, deliveredMode_of_shifts shifts delivered⟩

/-- A command that a step shows accepted was accepted before, or was still waiting. -/
theorem accepted_before {state after : State types} (sound : Sound protocol state)
    (shifts : Shifts protocol state after) {id : CallId} {request : Request}
    {tag : Option UInt16} {response : SessionResponse types}
    (returned : after.calls id = .returned request tag (.ok response)) :
    state.calls id = .returned request tag (.ok response) ∨ Busy (state.calls id) := by
  cases shifts with
  | queues => exact .inl returned
  | steps transition =>
      cases before : state.calls id with
      | idle =>
          rcases transition.answered returned with already | filled
          · rw [before] at already
            cases already
          · rcases sound.recorded.filled id response filled with ⟨source, delivered⟩
            exact absurd delivered (sound.unanswered before)
      | returned other otherTag result =>
          rw [transition.stays_returned before] at returned
          exact .inl returned
      | _ => exact .inr trivial

theorem Tracks.shifts (tracks : Tracks protocol pool progress recent cleared)
    (linked : Linked pool) (sound : Sound protocol pool.session) {session : State types}
    (shifts : Shifts protocol pool.session session) :
    ∃ newer, Tracks protocol (pool.setSession session) progress (newer ++ recent) cleared := by
  rcases history_of_shifts shifts with ⟨newer, grown⟩
  refine ⟨newer, ?_, ?_, ?_, ?_⟩
  · rw [Pool.setSession_session, grown, tracks.split, List.append_assoc]
  · intro task
    have tracked := tracks.tracked task
    refine ⟨tracked.follows, tracked.idle, tracked.locks, tracked.modal, ?_, tracked.fresh⟩
    intro ready
    exact ⟨(tracked.ready ready).1, (tracked.ready ready).2.shifts shifts newer⟩
  · intro started
    exact (tracks.cached started).shifts shifts newer
  · intro event member mode delivered stops
    rcases deliveredMode_eq_some delivered with
      ⟨id, response, serial, request, tag, result, rfl, returned, accepted⟩
    rcases acceptedMode_ok accepted with ⟨answer, rfl⟩
    rcases accepted_before sound shifts returned with already | busy
    · -- The answer of a call that has returned is not among the new events.
      rcases sound.delivered already accepted with ⟨first, earlier, old⟩
      rcases List.mem_append.mp member with fresh | before
      · exact absurd fresh ((sound.shifts shifts).once grown old)
      · refine tracks.stops _ before mode ?_ stops
        simp only [deliveredMode, already]
        exact accepted
    · rcases linked.busy id busy with ⟨task, waits⟩
      exact ⟨task, .inr ⟨id, response, _, rfl, waits⟩⟩

theorem Tracked.elsewhere {task : TaskId} {current : Progress}
    (tracked : Tracked protocol pool recent cleared task current)
    (session : next.session = pool.session) (sameTask : next.tasks task = pool.tasks task)
    (sameLock : next.holders .rxStarted = some task ↔ pool.holders .rxStarted = some task) :
    Tracked protocol next recent cleared task current where
  follows := by
    rw [sameTask]
    exact tracked.follows
  idle := by
    rw [sameTask]
    exact tracked.idle
  locks := tracked.locks.trans sameLock.symm
  modal := tracked.modal
  ready := by
    rw [session]
    exact tracked.ready
  fresh := by
    intro id waits
    rw [WaitsOn, sameTask] at waits
    exact tracked.fresh id waits

theorem Liable.elsewhere {event : Event types} {task actor : TaskId} {after : Progress}
    (liable : Liable pool progress event task) (different : task ≠ actor)
    (sameTask : next.tasks task = pool.tasks task) :
    Liable next (Function.update progress actor after) event task := by
  rcases liable with owes | ⟨id, response, source, same, call, operation, log, waiting⟩
  · left
    rw [Function.update_of_ne different]
    exact owes
  · exact .inr ⟨id, response, source, same, call, operation, log, sameTask.trans waiting⟩

theorem Tracks.task (tracks : Tracks protocol pool progress recent cleared) {task : TaskId}
    {after : Progress} (session : next.session = pool.session)
    (elsewhere : ∀ other ≠ task, next.tasks other = pool.tasks other ∧
      (next.holders .rxStarted = some other ↔ pool.holders .rxStarted = some other))
    (tracked : Tracked protocol next recent cleared task after)
    (cached : next.inner.rxStarted = true → StartedIn protocol pool.session recent)
    (liable : ∀ event ∈ recent, ∀ mode, deliveredMode protocol pool.session event = some mode →
      mode ≠ .rxStart → Liable pool progress event task →
      Liable next (Function.update progress task after) event task) :
    Tracks protocol next (Function.update progress task after) recent cleared where
  split := by
    rw [session]
    exact tracks.split
  tracked other := by
    by_cases own : other = task
    · subst own
      rw [Function.update_self]
      exact tracked
    · rw [Function.update_of_ne own]
      exact (tracks.tracked other).elsewhere session (elsewhere other own).1
        (elsewhere other own).2
  cached := by
    rw [session]
    exact cached
  stops event member mode delivered stops := by
    rw [session] at delivered
    rcases tracks.stops event member mode delivered stops with ⟨other, responsible⟩
    refine ⟨other, ?_⟩
    by_cases own : other = task
    · subst own
      exact liable event member mode delivered stops responsible
    · exact responsible.elsewhere own (elsewhere other own).1

/-- The clearing of the flag, by the holder of its lock. -/
theorem Tracks.clears (tracks : Tracks protocol pool progress recent cleared) {task : TaskId}
    {after : Progress} (holds : pool.holders .rxStarted = some task)
    (session : next.session = pool.session) (holders : next.holders = pool.holders)
    (elsewhere : ∀ other ≠ task, next.tasks other = pool.tasks other)
    (tracked : Tracked protocol next [] pool.session.history task after)
    (off : next.inner.rxStarted = false) :
    Tracks protocol next (Function.update progress task after) [] pool.session.history where
  split := by
    rw [session]
    rfl
  tracked other := by
    by_cases own : other = task
    · subst own
      rw [Function.update_self]
      exact tracked
    · rw [Function.update_of_ne own]
      -- Nobody else has the lock, so what is said of its holder says nothing here.
      have before := tracks.tracked other
      have unlocked : (progress other).locked ≠ true := by
        intro locked
        have alsoHolds := before.locks.mp locked
        rw [holds] at alsoHolds
        cases alsoHolds
        exact own rfl
      refine ⟨?_, ?_, ?_, before.modal, ?_, ?_⟩
      · rw [elsewhere other own]
        exact before.follows
      · rw [elsewhere other own]
        exact before.idle
      · rw [holders]
        exact before.locks
      · intro ready
        exact absurd (before.ready ready).1 unlocked
      · intro id _ locked
        exact absurd locked unlocked
  cached started := by
    rw [off] at started
    cases started
  stops event member := by cases member

/-! ### Effects -/

theorem after_modal (current : Progress) (effect : Effect types) (answer : Answer effect) :
    (current.after protocol effect answer).modal = current.modal := by
  cases effect with
  | acquire cell | release cell => cases cell <;> rfl
  | store cell value =>
      cases cell with
      | rxStarted => cases value <;> rfl
      | _ => rfl
  | sendCommand request timeout =>
      rw [Progress.after]
      cases Command.acceptedMode protocol ⟨request, answer⟩ with
      | none => rfl
      | some mode => cases mode <;> rfl
  | _ => rfl

theorem aside_of_plain {effect : Effect types} (isPlain : Effect.isPlain effect = true) :
    Effect.isAside effect = true := by
  cases effect with
  | acquire | release | load | store | sendCommand | closeSession | panic => cases isPlain
  | _ => rfl

theorem Tracked.performs {task : TaskId} {current : Progress} {call : Call types}
    {effect : Effect types} {rest : Answer effect → Operation types (Outcome types)}
    {inFlight : Option CallId} {log later : List (Command types)} {answer : Answer effect}
    {events older : List (Event types)}
    (tracked : Tracked protocol pool recent cleared task current)
    (running : pool.tasks task = .running call (.perform effect rest) inFlight log)
    (configured : Configured effect answer)
    (tasks : next.tasks task = .running call (rest answer) none later)
    (locks : (current.after protocol effect answer).locked = true ↔
      next.holders .rxStarted = some task)
    (modal : (current.after protocol effect answer).owes = true → current.modal = true)
    (ready : (current.after protocol effect answer).ready = true →
      (current.after protocol effect answer).locked = true ∧
        StartedIn protocol next.session events) :
    Tracked protocol next events older task (current.after protocol effect answer) where
  follows otherCall operation waits commands now := by
    rw [tasks] at now
    cases now
    have spec := tracked.follows _ _ _ _ running
    exact ⟨spec.1.2 answer _ ⟨configured, rfl⟩, (after_modal _ _ _).trans spec.2⟩
  idle unstarted := by
    rw [tasks] at unstarted
    cases unstarted
  locks := locks
  modal owes := (after_modal _ _ _).trans (modal owes)
  ready := ready
  fresh id waits := by
    rcases waits with ⟨_, _, _, waiting⟩
    rw [tasks] at waiting
    cases waiting

theorem owes_of_liable {task : TaskId} {event : Event types} {call : Call types}
    {operation : Operation types (Outcome types)} {log : List (Command types)}
    (running : pool.tasks task = .running call operation none log)
    (liable : Liable pool progress event task) : (progress task).owes = true := by
  rcases liable with owes | ⟨id, _, _, _, _, _, _, waiting⟩
  · exact owes
  · rw [running] at waiting
    cases waiting

/-- A step of a task that is not waiting, and owes afterwards what it owed before. -/
theorem Tracks.acts (tracks : Tracks protocol pool progress recent cleared) {task : TaskId}
    {after : Progress} {call : Call types} {operation : Operation types (Outcome types)}
    {log : List (Command types)}
    (running : pool.tasks task = .running call operation none log)
    (session : next.session = pool.session)
    (elsewhere : ∀ other ≠ task, next.tasks other = pool.tasks other ∧
      (next.holders .rxStarted = some other ↔ pool.holders .rxStarted = some other))
    (tracked : Tracked protocol next recent cleared task after)
    (cached : next.inner.rxStarted = true → StartedIn protocol pool.session recent)
    (owing : (progress task).owes = true → after.owes = true) :
    Tracks protocol next (Function.update progress task after) recent cleared := by
  apply tracks.task session elsewhere tracked cached
  intro event _ mode _ _ liable
  left
  rw [Function.update_self]
  exact owing (owes_of_liable running liable)

theorem Tracks.aside (tracks : Tracks protocol pool progress recent cleared) {task : TaskId}
    {call : Call types} {effect : Effect types}
    {rest : Answer effect → Operation types (Outcome types)} {log : List (Command types)}
    {answer : Answer effect}
    (running : pool.tasks task = .running call (.perform effect rest) none log)
    (isAside : Effect.isAside effect = true) (session : next.session = pool.session)
    (tasks : next.tasks =
      Function.update pool.tasks task (.running call (rest answer) none log))
    (holders : next.holders .rxStarted = pool.holders .rxStarted)
    (flag : next.inner.rxStarted = pool.inner.rxStarted) :
    ∃ progress recent cleared, Tracks protocol next progress recent cleared := by
  have tracked := tracks.tracked task
  have configured : Configured effect answer := by
    cases effect with
    | sendCommand => cases isAside
    | _ => trivial
  have same : (progress task).after protocol effect answer = progress task :=
    after_of_aside isAside
  have now : next.tasks task = .running call (rest answer) none log := by
    rw [tasks, Function.update_self]
  refine ⟨_, _, _, tracks.acts running session ?_
    (tracked.performs running configured now ?_ ?_ ?_) ?_ ?_⟩
  · intro other different
    rw [tasks, Function.update_of_ne different, holders]
    exact ⟨rfl, Iff.rfl⟩
  · rw [same, holders]
    exact tracked.locks
  · rw [same]
    exact tracked.modal
  · rw [same, session]
    exact tracked.ready
  · rw [flag]
    exact tracks.cached
  · rw [same]
    exact id

theorem Tracks.performs (tracks : Tracks protocol pool progress recent cleared) {task : TaskId}
    {call : Call types} {effect : Effect types}
    {rest : Answer effect → Operation types (Outcome types)} {log : List (Command types)}
    {answer : Answer effect}
    (running : pool.tasks task = .running call (.perform effect rest) none log)
    (answers : Answers task pool effect answer next) (isAside : Effect.isAside effect = false) :
    ∃ progress recent cleared, Tracks protocol
      (next.setTask task (.running call (rest answer) none log)) progress recent cleared := by
  have tracked := tracks.tracked task
  have permits := (tracked.follows _ _ _ _ running).1.1
  cases answers with
  | acquire cell free =>
      cases cell with
      | rxStarted =>
          refine ⟨_, _, _, tracks.acts running rfl ?_
            (tracked.performs running trivial (Pool.setTask_self _ _ _) ?_ ?_ ?_)
            tracks.cached id⟩
          · intro other different
            refine ⟨Pool.setTask_ne _ _ _ different, ?_⟩
            simp [Pool.setHolder, free, Ne.symm different]
          · simp [Progress.after, Pool.setHolder]
          · exact tracked.modal
          · intro ready
            cases ready
      | _ => cases isAside
  | release cell =>
      cases cell with
      | rxStarted =>
          have holds := tracked.locks.mp permits
          refine ⟨_, _, _, tracks.acts running rfl ?_
            (tracked.performs running trivial (Pool.setTask_self _ _ _) ?_ ?_ ?_)
            tracks.cached id⟩
          · intro other different
            refine ⟨Pool.setTask_ne _ _ _ different, ?_⟩
            simp [Pool.setHolder, holds, Ne.symm different]
          · simp [Progress.after, Pool.setHolder]
          · exact tracked.modal
          · intro ready
            cases ready
      | _ => cases isAside
  | load => cases isAside
  | store cell value =>
      cases cell with
      | rxStarted =>
          cases value with
          | true =>
              refine ⟨_, _, _, tracks.acts running rfl ?_
                (tracked.performs running trivial (Pool.setTask_self _ _ _) tracked.locks
                  tracked.modal tracked.ready) ?_ id⟩
              · intro other different
                exact ⟨Pool.setTask_ne _ _ _ different, Iff.rfl⟩
              · intro _
                exact (tracked.ready permits.2).2
          | false =>
              have holds := tracked.locks.mp permits
              refine ⟨_, _, _, tracks.clears holds rfl rfl ?_
                (tracked.performs running trivial (Pool.setTask_self _ _ _) tracked.locks
                  ?_ ?_) rfl⟩
              · intro other different
                exact Pool.setTask_ne _ _ _ different
              · intro owes
                cases owes
              · intro ready
                cases ready
      | _ => cases isAside
  | plain _ _ isPlain =>
      rw [aside_of_plain isPlain] at isAside
      cases isAside

/-! ### Steps -/

def StaysConfigured (pool : Pool types) : PoolAction types → Prop
  | .collect task => ∀ call operation id log request tag result,
      pool.tasks task = .running call operation (some id) log →
      pool.session.calls id = .returned request tag result → ¬ Unconfigured result
  | _ => True

theorem Tracks.starts (tracks : Tracks protocol pool progress recent cleared) {task : TaskId}
    {call : Call types} (unstarted : pool.tasks task = .idle) :
    ∃ progress recent cleared, Tracks protocol
      (pool.setTask task (.running call (operationOf protocol call) none [])) progress
      recent cleared := by
  have tracked := tracks.tracked task
  have free := tracked.idle unstarted
  have now := Pool.setTask_self pool task (.running call (operationOf protocol call) none [])
  refine ⟨_, _, _, @Tracks.task _ _ _ _ _ _ _ tracks task (Progress.start call) rfl ?_
    ⟨?_, ?_, ?_, ?_, ?_, ?_⟩ tracks.cached ?_⟩
  · intro other different
    exact ⟨Pool.setTask_ne _ _ _ different, Iff.rfl⟩
  · intro otherCall operation inFlight log running
    rw [now] at running
    cases running
    exact ⟨follows_operationOf protocol call, rfl⟩
  · intro idle
    rw [now] at idle
    cases idle
  · have unlocked := free.unlocked
    constructor
    · intro locked
      cases locked
    · intro holds
      rw [tracked.locks.mpr holds] at unlocked
      cases unlocked
  · intro owes
    cases owes
  · intro ready
    cases ready
  · intro id waits
    rcases waits with ⟨_, _, _, waiting⟩
    rw [now] at waiting
    cases waiting
  · intro event _ mode _ _ liable
    rcases liable with owes | ⟨id, _, _, _, _, _, _, waiting⟩
    · rw [free.paid] at owes
      cases owes
    · rw [unstarted] at waiting
      cases waiting

theorem Tracks.issues (tracks : Tracks protocol pool progress recent cleared) {task : TaskId}
    {call : Call types} {operation : Operation types (Outcome types)} {id : CallId}
    {log : List (Command types)}
    (running : pool.tasks task = .running call operation none log)
    (unanswered : ∀ response source, .delivered id response source ∉ cleared) :
    ∃ progress recent cleared, Tracks protocol
      (pool.setTask task (.running call operation (some id) log)) progress recent cleared := by
  have tracked := tracks.tracked task
  have now := Pool.setTask_self pool task (.running call operation (some id) log)
  refine ⟨_, _, _, tracks.acts running rfl ?_
    ⟨?_, ?_, tracked.locks, tracked.modal, tracked.ready, ?_⟩ tracks.cached fun owes => owes⟩
  · intro other different
    exact ⟨Pool.setTask_ne _ _ _ different, Iff.rfl⟩
  · intro otherCall otherOperation inFlight commands same
    rw [now] at same
    cases same
    exact tracked.follows _ _ _ _ running
  · intro idle
    rw [now] at idle
    cases idle
  · intro other waits _
    rcases waits with ⟨_, _, _, waiting⟩
    rw [now] at waiting
    cases waiting
    exact unanswered

theorem acceptedMode_typeId {command : Command types} {mode : ModeCommand}
    (accepted : command.acceptedMode protocol = some mode) :
    command.request.typeId = protocol.typeRxStart ∧ mode = .rxStart ∨
      command.request.typeId = protocol.typeRxStop ∧ mode = .rxStop ∨
      command.request.typeId = protocol.typeSetConfig ∧ mode = .setConfig := by
  rw [Command.acceptedMode] at accepted
  split at accepted
  · next rxStart =>
    split at accepted
    · cases accepted
      exact .inl ⟨rxStart, rfl⟩
    · cases accepted
  · split at accepted
    · next rxStop =>
      split at accepted
      · cases accepted
        exact .inr (.inl ⟨rxStop, rfl⟩)
      · cases accepted
    · split at accepted
      · next setConfig =>
        split at accepted
        · cases accepted
          exact .inr (.inr ⟨setConfig, rfl⟩)
        · cases accepted
      · cases accepted

theorem after_sendCommand (current : Progress) (request : Request) (timeout : Duration)
    (result : ClientResult (SessionResponse types)) :
    current.after protocol (.sendCommand request timeout) result =
      current.accept (Command.acceptedMode protocol ⟨request, result⟩) := rfl

theorem accept_owes {current : Progress} {mode : Option ModeCommand} :
    (current.accept mode).owes = true ↔
      current.owes = true ∨ ∃ stop, mode = some stop ∧ stop ≠ .rxStart := by
  cases mode with
  | none => simp [Progress.accept]
  | some mode => cases mode <;> simp [Progress.accept]

theorem accept_ready {current : Progress} {mode : Option ModeCommand} :
    (current.accept mode).ready = true ↔ current.ready = true ∨ mode = some .rxStart := by
  cases mode with
  | none => simp [Progress.accept]
  | some mode => cases mode <;> simp [Progress.accept]

theorem accept_locked (current : Progress) (mode : Option ModeCommand) :
    (current.accept mode).locked = current.locked := by
  cases mode with
  | none => rfl
  | some mode => cases mode <;> rfl

/-- The answer of a command that a task with the lock waits for is recent. -/
theorem Tracks.started (tracks : Tracks protocol pool progress recent cleared)
    (sound : Sound protocol pool.session) {task : TaskId} {id : CallId} {request : Request}
    {tag : Option UInt16} {result : ClientResult (SessionResponse types)}
    (waits : WaitsOn pool task id) (locked : (progress task).locked = true)
    (returned : pool.session.calls id = .returned request tag result)
    (accepted : Command.acceptedMode protocol ⟨request, result⟩ = some .rxStart) :
    StartedIn protocol pool.session recent := by
  rcases sound.delivered returned accepted with ⟨response, serial, delivered⟩
  rw [tracks.split] at delivered
  rcases List.mem_append.mp delivered with member | old
  · refine ⟨_, member, ?_⟩
    simp only [deliveredMode, returned]
    exact accepted
  · exact absurd old ((tracks.tracked task).fresh id waits locked response (.frame serial))

theorem Tracks.collects (tracks : Tracks protocol pool progress recent cleared)
    (linked : Linked pool) (sound : Sound protocol pool.session) {task : TaskId}
    {call : Call types} {request begun : Request} {timeout : Duration}
    {rest : ClientResult (SessionResponse types) → Operation types (Outcome types)}
    {id : CallId} {log : List (Command types)} {tag : Option UInt16}
    {result : ClientResult (SessionResponse types)}
    (running : pool.tasks task =
      .running call (.perform (.sendCommand request timeout) rest) (some id) log)
    (returned : pool.session.calls id = .returned begun tag result)
    (configured : ¬ Unconfigured result) :
    ∃ progress recent cleared, Tracks protocol (pool.setTask task
      (.running call (rest result) none (⟨request, result⟩ :: log))) progress recent cleared := by
  have tracked := tracks.tracked task
  have permits := (tracked.follows _ _ _ _ running).1.1
  have waits : WaitsOn pool task id := ⟨_, _, _, running⟩
  have sameRequest : begun = request := by
    rcases linked.request task _ _ _ _ running with ⟨_, _, _, same, known⟩
    cases same
    rw [returned] at known
    cases known
    rfl
  subst sameRequest
  refine ⟨_, _, _, tracks.task rfl ?_ (tracked.performs running configured (Pool.setTask_self _ _ _)
    ?_ ?_ ?_) tracks.cached ?_⟩
  · intro other different
    exact ⟨Pool.setTask_ne _ _ _ different, Iff.rfl⟩
  · rw [after_sendCommand, accept_locked]
    exact tracked.locks
  · rw [after_sendCommand, accept_owes]
    intro owes
    rcases owes with before | ⟨stop, accepted, _⟩
    · exact tracked.modal before
    · rcases acceptedMode_typeId accepted with ⟨same, _⟩ | ⟨same, _⟩ | ⟨same, _⟩
      · exact permits.2 (.inl same)
      · exact permits.2 (.inr (.inl same))
      · exact permits.2 (.inr (.inr same))
  · rw [after_sendCommand, accept_ready, accept_locked]
    intro ready
    rcases ready with before | accepted
    · exact tracked.ready before
    · have locked : (progress task).locked = true := by
        rcases acceptedMode_typeId accepted with ⟨same, _⟩ | ⟨_, other⟩ | ⟨_, other⟩
        · exact permits.1 same
        · cases other
        · cases other
      exact ⟨locked, tracks.started sound waits locked returned accepted⟩
  · intro event _ mode delivered stops liable
    left
    rw [Function.update_self, after_sendCommand, accept_owes]
    rcases liable with owes | ⟨other, response, source, rfl, _, _, _, waiting⟩
    · exact .inl owes
    · rw [running] at waiting
      cases waiting
      rcases deliveredMode_eq_some delivered with ⟨_, _, _, _, _, _, same, alsoReturned, accepted⟩
      cases same
      rw [returned] at alsoReturned
      cases alsoReturned
      exact .inr ⟨mode, accepted, stops⟩

theorem Tracks.step (tracks : Tracks protocol pool progress recent cleared)
    (linked : Linked pool) (sound : Sound protocol pool.session) {action : PoolAction types}
    (transition : PoolTransition protocol pool action next)
    (configured : StaysConfigured pool action) :
    ∃ progress recent cleared, Tracks protocol next progress recent cleared := by
  cases transition with
  | starts task call unstarted => exact tracks.starts unstarted
  | @performs task choice call effect rest log answer reached running answers =>
      cases isAside : Effect.isAside effect with
      | false => exact tracks.performs running answers isAside
      | true =>
          cases answers with
          | acquire cell free | release cell =>
              cases cell with
              | rxStarted => cases isAside
              | _ => exact tracks.aside running isAside rfl rfl rfl rfl
          | load cell => exact tracks.aside running isAside rfl rfl rfl rfl
          | store cell value =>
              cases cell with
              | rxStarted => cases isAside
              | _ => exact tracks.aside running isAside rfl rfl rfl rfl
          | plain _ queues _ =>
              rcases tracks.shifts linked sound (.queues queues) with ⟨newer, shifted⟩
              exact shifted.aside running isAside rfl rfl rfl rfl
  | @issues task id call request timeout rest log session running begins =>
      rcases tracks.shifts linked sound (.steps begins) with ⟨newer, shifted⟩
      apply shifted.issues running
      intro response source member
      apply sound.unanswered (requestOf_of_begin begins).1
      rw [tracks.split]
      exact List.mem_append_right _ member
  | collects task running returned =>
      have answered := configured _ _ _ _ _ _ _ running returned
      exact tracks.collects linked sound running returned answered
  | @closes task action call rest log session after running closing steps goesOn =>
      rcases tracks.shifts linked sound (.steps steps) with ⟨newer, shifted⟩
      rcases goesOn with same | continues
      · have unchanged :
            (pool.setSession session).setTask task after = pool.setSession session := by
          rw [same, Pool.setTask, ← Pool.setSession_tasks pool session, Function.update_eq_self]
        rw [unchanged]
        exact ⟨_, _, _, shifted⟩
      · rw [continues]
        exact shifted.aside running rfl rfl rfl rfl rfl
  | background isBackground steps =>
      rcases tracks.shifts linked sound (.steps steps) with ⟨newer, shifted⟩
      exact ⟨_, _, _, shifted⟩

/-! ## Runs -/

variable {session : State types} {applied : Option (Modulation types)} {openedAt : Instant}

structure Consistent (protocol : Protocol types) (pool : Pool types) : Prop where
  sound : Sound protocol pool.session
  linked : Linked pool
  tracks : ∃ progress recent cleared, Tracks protocol pool progress recent cleared

theorem consistent_initial (opened : (Session.machine protocol).Reachable session)
    (rested : ∀ id, ¬ Busy (session.calls id)) :
    Consistent protocol (poolMachine protocol session applied openedAt).initial where
  sound := ⟨owned_of_reachable opened, recorded_of_reachable opened⟩
  linked := by
    refine ⟨fun id busy => absurd busy (rested id), ?_⟩
    intro task call operation id log running
    cases running
  tracks := by
    refine ⟨fun _ => ⟨false, false, false, false⟩, [], session.history, rfl, ?_, ?_, ?_⟩
    · intro task
      refine ⟨?_, fun _ => ⟨rfl, rfl, rfl⟩, ?_, ?_, ?_, ?_⟩
      · intro call operation inFlight log running
        cases running
      · constructor
        · intro locked
          cases locked
        · intro holds
          cases holds
      · intro owes
        cases owes
      · intro ready
        cases ready
      · intro id waits locked
        cases locked
    · intro started
      cases started
    · intro event member
      cases member

theorem consistent_of_reachable (opened : (Session.machine protocol).Reachable session)
    (rested : ∀ id, ¬ Busy (session.calls id))
    (reached :
      (poolMachine protocol session applied openedAt).ReachableBy StaysConfigured pool) :
    Consistent protocol pool := by
  apply reached.invariant (consistent_initial opened rested)
  intro current action next consistent configured stepped
  have transition := poolTransition_of_step stepped
  refine ⟨consistent.sound.shifts transition.shifts, consistent.linked.step transition, ?_⟩
  rcases consistent.tracks with ⟨progress, recent, cleared, tracks⟩
  exact tracks.step consistent.linked consistent.sound transition configured

def Quiescent (pool : Pool types) : Prop :=
  ∀ task call operation inFlight log, pool.tasks task = .running call operation inFlight log →
    call.changesMode = true → ∃ outcome, operation = .done outcome

theorem Tracks.not_liable (tracks : Tracks protocol pool progress recent cleared)
    (linked : Linked pool) (quiescent : Quiescent pool) {event : Event types}
    {mode : ModeCommand} (delivered : deliveredMode protocol pool.session event = some mode)
    {task : TaskId} : ¬ Liable pool progress event task := by
  have tracked := tracks.tracked task
  intro liable
  rcases liable with owes | ⟨id, response, source, rfl, call, operation, log, waiting⟩
  · cases current : pool.tasks task with
    | idle =>
        rw [(tracked.idle current).paid] at owes
        cases owes
    | running call operation inFlight log =>
        rcases tracked.follows _ _ _ _ current with ⟨follows, modal⟩
        rw [tracked.modal owes] at modal
        rcases quiescent task _ _ _ _ current modal.symm with ⟨outcome, rfl⟩
        rw [follows.1] at owes
        cases owes
  · rcases linked.request task _ _ _ _ waiting with ⟨request, timeout, next, rfl, known⟩
    rcases tracked.follows _ _ _ _ waiting with ⟨follows, modal⟩
    rcases deliveredMode_eq_some delivered with
      ⟨_, _, _, _, tag, result, same, returned, accepted⟩
    cases same
    rw [returned] at known
    cases known
    have modeCommand : request.typeId = protocol.typeRxStart ∨
        request.typeId = protocol.typeRxStop ∨ request.typeId = protocol.typeSetConfig :=
      (acceptedMode_typeId accepted).imp And.left (Or.imp And.left And.left)
    rw [follows.1.2 modeCommand] at modal
    rcases quiescent task _ _ _ _ waiting modal.symm with ⟨outcome, same⟩
    cases same

/-- On a session at rest, in every interleaving of operations in which no command is
answered `NotConfigured`: when none of the calls that can change the receive mode is
in progress and the flag is set, the last of their commands to be accepted is an
`RX_START`. -/
theorem cached_mode_is_last_accepted (opened : (Session.machine protocol).Reachable session)
    (rested : ∀ id, ¬ Busy (session.calls id))
    (reached :
      (poolMachine protocol session applied openedAt).ReachableBy StaysConfigured pool)
    (quiescent : Quiescent pool) (started : pool.inner.rxStarted = true) :
    lastAccepted protocol pool.session = some .rxStart := by
  have consistent := consistent_of_reachable opened rested reached
  rcases consistent.tracks with ⟨progress, recent, cleared, tracks⟩
  have onlyStarts : ∀ event ∈ recent, ∀ mode,
      deliveredMode protocol pool.session event = some mode → mode = .rxStart := by
    intro event member mode delivered
    by_contra stops
    rcases tracks.stops event member mode delivered stops with ⟨task, liable⟩
    exact tracks.not_liable consistent.linked quiescent delivered liable
  rw [lastAccepted, tracks.split, List.findSome?_append]
  cases found : recent.findSome? (deliveredMode protocol pool.session) with
  | none =>
      rcases tracks.cached started with ⟨event, member, delivered⟩
      rw [List.findSome?_eq_none_iff.mp found event member] at delivered
      cases delivered
  | some mode =>
      rcases List.exists_of_findSome?_eq_some found with ⟨event, member, delivered⟩
      rw [onlyStarts event member mode delivered]
      rfl

end Tracking

/-- The session that `finalize` hands over is at rest: every command of the handshake
has returned. -/
theorem rested_of_handshake {Result : Type} {setup : Connect.Handshake.Setup types}
    {program rest : Operation types Result}
    (ran : Program.Runs (Connect.Handshake.Conducts protocol) .spawned program setup rest) :
    (Session.machine protocol).Reachable setup.session ∧
      ∀ id, ¬ Busy (setup.session.calls id) := by
  apply ran.invariant ⟨.initial, fun _ busy => busy⟩
  intro current effect answer next before conducts
  have untouched : ∀ {actions final id}, (∀ action ∈ actions, action.task ≠ .call id) →
      (Session.machine protocol).run current.session actions = some final →
      final.calls id = current.session.calls id := by
    intro actions final id others stepped
    apply Machine.run_keeps _ stepped
    intro action member state after moved
    exact (transition_of_step protocol moved).keeps_call (others action member)
  cases conducts with
  | command call actions unused own stepped returned =>
      refine ⟨.run before.1 stepped, ?_⟩
      intro id busy
      by_cases same : id = call
      · subst same
        rw [returned] at busy
        cases busy
      · -- The steps of a command are its own and those of the reader.
        have others : ∀ action ∈ actions, action.task ≠ .call id := by
          intro action member
          rcases own action member with isOwn | isReader
          · simp [isOwn, Ne.symm same]
          · simp [isReader]
        rw [untouched others stepped] at busy
        exact before.2 id busy
  | close actions own stepped =>
      refine ⟨.run before.1 stepped, ?_⟩
      intro id busy
      have others : ∀ action ∈ actions, action.task ≠ .call id := by
        intro action member
        rcases own action member with isOwn | isReader
        · simp [isOwn]
        · simp [isReader]
      rw [untouched others stepped] at busy
      exact before.2 id busy

def PoolAction.isCollect : PoolAction types → Bool
  | .collect _ => true
  | _ => false

theorem allows_staysConfigured {session : State types} {applied : Option (Modulation types)}
    {openedAt : Instant} (pool : Pool types) {actions : List (PoolAction types)}
    (others : ∀ action ∈ actions, action.isCollect = false) :
    (poolMachine protocol session applied openedAt).Allows StaysConfigured pool actions := by
  apply Machine.allows_of_always
  intro action member current
  cases action with
  | collect => cases others _ member
  | _ => trivial

theorem staysConfigured_collect {pool : Pool types} {task : TaskId} {call : Call types}
    {operation : Operation types (Outcome types)} {id : CallId} {log : List (Command types)}
    {request : Request} {tag : Option UInt16}
    (waiting : pool.tasks task = .running call operation (some id) log)
    (returned : pool.session.calls id = .returned request tag (.ok .empty)) :
    StaysConfigured pool (.collect task) := by
  intro _ _ _ _ _ _ _ running answered
  cases waiting.symm.trans running
  cases returned.symm.trans answered
  rintro (error | refused)
  · cases error
  · cases refused

def stoppingReceive : List (PoolAction WireTypes.sample) :=
  .start 0 .rxStart :: .start 1 .rxStop :: List.replicate 7 (.perform 1 .any) ++
    .issue 1 0 :: List.replicate 7 (.perform 0 .any) ++
    [.session (.allocTag 0), .session (.register 0), .session (.write 0 none),
      .session .readerCheck, .session (.readerRead [.ok ⟨128, 1, []⟩]),
      .session .readerDispatch, .session (.receive 0)]

def restartingReceive : List (PoolAction WireTypes.sample) :=
  List.replicate 3 (.perform 1 .any) ++ List.replicate 2 (.perform 0 .any) ++
    [.issue 0 1, .session (.allocTag 1), .session (.register 1), .session (.write 1 none),
      .session .readerDispatch, .session .readerCheck,
      .session (.readerRead [.ok ⟨128, 2, []⟩]), .session .readerDispatch,
      .session (.receive 1)]

def overlappingCalls : List (PoolAction WireTypes.sample) :=
  stoppingReceive ++ .collect 1 :: restartingReceive ++
    [.collect 0, .perform 0 .any, .perform 0 .any]

theorem cached_mode_is_last_accepted_overlapping :
    ∃ pool, (poolMachine Protocol.sample spawn none 0).run
        (poolMachine Protocol.sample spawn none 0).initial overlappingCalls = some pool ∧
      pool.inner.rxStarted = true ∧
      lastAccepted Protocol.sample pool.session = some .rxStart := by
  have ran : ∃ stopping stopped restarting restarted pool,
      (poolMachine Protocol.sample spawn none 0).run
        (poolMachine Protocol.sample spawn none 0).initial stoppingReceive = some stopping ∧
      StaysConfigured stopping (.collect 1) ∧
      (poolMachine Protocol.sample spawn none 0).step stopping (.collect 1) = some stopped ∧
      (poolMachine Protocol.sample spawn none 0).run stopped restartingReceive =
        some restarting ∧
      StaysConfigured restarting (.collect 0) ∧
      (poolMachine Protocol.sample spawn none 0).step restarting (.collect 0) =
        some restarted ∧
      (poolMachine Protocol.sample spawn none 0).run restarted
        [.perform 0 .any, .perform 0 .any] = some pool ∧
      (poolMachine Protocol.sample spawn none 0).run
        (poolMachine Protocol.sample spawn none 0).initial overlappingCalls = some pool ∧
      pool.inner.rxStarted = true ∧
      (∃ outcome log, pool.tasks 0 = .running .rxStart (.done outcome) none log) ∧
      ∃ outcome log, pool.tasks 1 = .running .rxStop (.done outcome) none log :=
    ⟨_, _, _, _, _, rfl, staysConfigured_collect rfl rfl, rfl, rfl,
      staysConfigured_collect rfl rfl, rfl, rfl, rfl, rfl, ⟨_, _, rfl⟩, _, _, rfl⟩
  rcases ran with ⟨stopping, stopped, restarting, restarted, pool, stops, configured, collects,
    restarts, stillConfigured, collectsAgain, finishes, whole, started,
    ⟨startOutcome, _, startDone⟩, stopOutcome, _, stopDone⟩
  have quiescent : Quiescent pool := by
    intro task call operation inFlight log running _
    by_cases isStart : task = 0
    · subst isStart
      cases startDone.symm.trans running
      exact ⟨startOutcome, rfl⟩
    · by_cases isStop : task = 1
      · subst isStop
        cases stopDone.symm.trans running
        exact ⟨stopOutcome, rfl⟩
      · have twoTasks : ∀ action ∈ overlappingCalls,
            action.task = some 0 ∨ action.task = some 1 ∨ action.task = none := by decide
        have idle : pool.tasks task = .idle := by
          apply tasks_of_run _ whole
          intro action member same
          rcases twoTasks action member with zero | one | none
          · exact isStart (Option.some.inj (same.symm.trans zero))
          · exact isStop (Option.some.inj (same.symm.trans one))
          · cases same.symm.trans none
        cases idle.symm.trans running
  have quiet : ∀ pool actions, (∀ action ∈ actions, action.isCollect = false) →
      (poolMachine Protocol.sample spawn none 0).Allows StaysConfigured pool actions :=
    fun pool _ others => allows_staysConfigured Protocol.sample pool others
  have first : (poolMachine Protocol.sample spawn none 0).ReachableBy StaysConfigured stopped :=
    .step (.run .initial (quiet _ _ (by decide)) stops) configured collects
  have second : (poolMachine Protocol.sample spawn none 0).ReachableBy StaysConfigured
      restarted :=
    .step (first.run (quiet _ _ (by decide)) restarts) stillConfigured collectsAgain
  exact ⟨pool, whole, started, cached_mode_is_last_accepted .initial (fun _ busy => busy)
    (second.run (quiet _ _ (by decide)) finishes) quiescent started⟩

end DongloraClient.Dongle
