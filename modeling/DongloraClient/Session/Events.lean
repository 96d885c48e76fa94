import DongloraClient.Session.ReaderLoop
import DongloraClient.Session.Transitions

/-! # Consuming events

The session machine together with any number of `recv_rx`, `next_rx` and
`drain_async_errors` calls. A receiver is used under its lock; an item that
`recv` takes is returned in the same poll, so that taking and returning are one
step, while `drain_async_errors` takes its items one by one and the reader may
push more between them. What the reader has read and dispatched is kept on the
side, oldest first.
-/

namespace DongloraClient.Session

open Foundation

variable {types : WireTypes}

/-! ## Consumers -/

inductive ListenerKind
  | recvRx
  | nextRx
  deriving DecidableEq, Repr

inductive Listener (types : WireTypes)
  | idle
  | locking (kind : ListenerKind)
  | receiving (kind : ListenerKind)
  | returned (kind : ListenerKind) (result : Option types.RxPayload)
  | dropped

inductive Drainer
  | idle
  | locking
  | collecting (errors : List ClientError)
  | returned (errors : List ClientError)
  | dropped

def Drainer.collected : Drainer → List ClientError
  | .collecting errors => errors
  | _ => []

/-- `obtained` lists the payloads that were returned and `drains` the results of
the completed drains, each with its caller and in the order in which the callers
held the lock. -/
structure EventState (types : WireTypes) where
  session : State types
  arrived : List FrameWork
  handled : List FrameWork
  listeners : Nat → Listener types
  rxHolder : Option Nat
  obtained : List (Nat × types.RxPayload)
  drainers : Nat → Drainer
  errHolder : Option Nat
  drains : List (Nat × List ClientError)

inductive EventAction
  | session (action : Action)
  | listen (listener : Nat) (kind : ListenerKind)
  | lockRx (listener : Nat)
  | take (listener : Nat)
  | disconnected (listener : Nat)
  | elapsed (listener : Nat)
  | dropListener (listener : Nat)
  | drain (drainer : Nat)
  | lockErrors (drainer : Nat)
  | tryRecv (drainer : Nat)
  | dropDrainer (drainer : Nat)
  deriving DecidableEq, Repr

def ReaderPhase.isGone : ReaderPhase → Bool
  | .exited => true
  | .stopped => true
  | _ => false

def ReaderPhase.works : ReaderPhase → List FrameWork
  | .dispatching works => works
  | .reinserting _ _ works => works
  | _ => []

def ReaderPhase.dispatches (reader : ReaderPhase) (action : Action) : List FrameWork :=
  match reader, action with
  | .dispatching (work :: _), .readerDispatch => [work]
  | _, _ => []

def Action.reads : Action → List FrameWork
  | .readerRead works => works
  | _ => []

namespace EventState

def setListener (state : EventState types) (listener : Nat) (phase : Listener types)
    (holder : Option Nat) : EventState types :=
  { state with
    listeners := Function.update state.listeners listener phase
    rxHolder := holder }

def setDrainer (state : EventState types) (drainer : Nat) (phase : Drainer)
    (holder : Option Nat) : EventState types :=
  { state with
    drainers := Function.update state.drainers drainer phase
    errHolder := holder }

def setRx (state : EventState types) (rx : List types.RxPayload) : EventState types :=
  { state with
    session := { state.session with queues := { state.session.queues with rx := rx } } }

def setAsyncErrors (state : EventState types) (errors : List ClientError) :
    EventState types :=
  { state with
    session := { state.session with
      queues := { state.session.queues with asyncErrors := errors } } }

/-- What drains have taken: the results of those that are complete, and what the one
that holds the lock has so far. -/
def collected (state : EventState types) : List ClientError :=
  state.drains.flatMap Prod.snd ++
    (state.errHolder.elim [] fun drainer => (state.drainers drainer).collected)

section Fields

variable (state : EventState types) (id : Nat)

@[simp] theorem setListener_self (phase : Listener types) (holder : Option Nat) :
    (state.setListener id phase holder).listeners id = phase :=
  Function.update_self _ _ _

theorem setListener_ne {other : Nat} (different : other ≠ id) (phase : Listener types)
    (holder : Option Nat) :
    (state.setListener id phase holder).listeners other = state.listeners other :=
  Function.update_of_ne different _ _

@[simp] theorem setListener_obtained (phase : Listener types) (holder : Option Nat) :
    (state.setListener id phase holder).obtained = state.obtained := rfl

@[simp] theorem setListener_session (phase : Listener types) (holder : Option Nat) :
    (state.setListener id phase holder).session = state.session := rfl

@[simp] theorem setDrainer_self (phase : Drainer) (holder : Option Nat) :
    (state.setDrainer id phase holder).drainers id = phase :=
  Function.update_self _ _ _

theorem setDrainer_ne {other : Nat} (different : other ≠ id) (phase : Drainer)
    (holder : Option Nat) :
    (state.setDrainer id phase holder).drainers other = state.drainers other :=
  Function.update_of_ne different _ _

@[simp] theorem setDrainer_errHolder (phase : Drainer) (holder : Option Nat) :
    (state.setDrainer id phase holder).errHolder = holder := rfl

@[simp] theorem setDrainer_drains (phase : Drainer) (holder : Option Nat) :
    (state.setDrainer id phase holder).drains = state.drains := rfl

end Fields

end EventState

/-! ## Steps -/

/-- The steps of `recv_rx` and `next_rx`. The timeout of `recv_rx` starts with the
lock held, and either call can be dropped at both of its awaits. -/
def stepListener (state : EventState types) : EventAction → Option (EventState types)
  | .listen listener kind =>
      match state.listeners listener with
      | .idle => some (state.setListener listener (.locking kind) state.rxHolder)
      | _ => none
  | .lockRx listener =>
      match state.listeners listener, state.rxHolder with
      | .locking kind, none =>
          some (state.setListener listener (.receiving kind) (some listener))
      | _, _ => none
  | .take listener =>
      match state.listeners listener, state.session.queues.rx with
      | .receiving kind, payload :: rest =>
          some { (state.setRx rest).setListener listener (.returned kind (some payload)) none with
            obtained := state.obtained ++ [(listener, payload)] }
      | _, _ => none
  | .disconnected listener =>
      match state.listeners listener, state.session.queues.rx with
      | .receiving kind, [] =>
          if state.session.reader.isGone then
            some (state.setListener listener (.returned kind none) none)
          else none
      | _, _ => none
  | .elapsed listener =>
      match state.listeners listener with
      | .receiving .recvRx =>
          some (state.setListener listener (.returned .recvRx none) none)
      | _ => none
  | .dropListener listener =>
      match state.listeners listener with
      | .locking _ => some (state.setListener listener .dropped state.rxHolder)
      | .receiving _ => some (state.setListener listener .dropped none)
      | _ => none
  | _ => none

/-- The steps of `drain_async_errors`, whose only await is the lock. -/
def stepDrainer (state : EventState types) : EventAction → Option (EventState types)
  | .drain drainer =>
      match state.drainers drainer with
      | .idle => some (state.setDrainer drainer .locking state.errHolder)
      | _ => none
  | .lockErrors drainer =>
      match state.drainers drainer, state.errHolder with
      | .locking, none => some (state.setDrainer drainer (.collecting []) (some drainer))
      | _, _ => none
  | .tryRecv drainer =>
      match state.drainers drainer, state.session.queues.asyncErrors with
      | .collecting errors, error :: rest =>
          some ((state.setAsyncErrors rest).setDrainer drainer
            (.collecting (errors ++ [error])) state.errHolder)
      | .collecting errors, [] =>
          some { state.setDrainer drainer (.returned errors) none with
            drains := state.drains ++ [(drainer, errors)] }
      | _, _ => none
  | .dropDrainer drainer =>
      match state.drainers drainer with
      | .locking => some (state.setDrainer drainer .dropped state.errHolder)
      | _ => none
  | _ => none

variable (protocol : Protocol types)

def stepEvents (state : EventState types) (action : EventAction) :
    Option (EventState types) :=
  match action with
  | .session action =>
      ((machine protocol).step state.session action).map fun next =>
        { state with
          session := next
          arrived := state.arrived ++ action.reads
          handled := state.handled ++ state.session.reader.dispatches action }
  | .drain _ | .lockErrors _ | .tryRecv _ | .dropDrainer _ => stepDrainer state action
  | _ => stepListener state action

def eventMachine : Machine (EventState types) EventAction where
  initial := ⟨spawn, [], [], fun _ => .idle, none, [], fun _ => .idle, none, []⟩
  step := stepEvents protocol

/-! ## What a session step does to the events -/

theorem Reference.rxPayloads_append (first second : List FrameWork) :
    Reference.rxPayloads protocol (first ++ second) =
      Reference.rxPayloads protocol first ++ Reference.rxPayloads protocol second :=
  List.filterMap_append

theorem Reference.asyncErrors_append (first second : List FrameWork) :
    Reference.asyncErrors protocol (first ++ second) =
      Reference.asyncErrors protocol first ++ Reference.asyncErrors protocol second :=
  List.filterMap_append

section SessionSteps

variable {protocol} {state next : State types} {action : Action}

theorem dispatchAsync_events {frame : Frame} (untagged : frame.tag = 0)
    (queues : EventQueues types) :
    dispatchAsync protocol frame.typeId frame.payload queues =
      ⟨queues.rx ++ Reference.rxPayloads protocol [.ok frame],
        queues.asyncErrors ++ Reference.asyncErrors protocol [.ok frame]⟩ := by
  have whole := queues_dispatchAll protocol [.ok frame] ⟨∅, queues, []⟩
  rw [← whole]
  simp [dispatchAll, dispatchWork, dispatch, untagged]

theorem tagged_events {frame : Frame} (tagged : frame.tag ≠ 0) :
    Reference.rxPayloads protocol [.ok frame] = [] ∧
      Reference.asyncErrors protocol [.ok frame] = [] := by
  simp [Reference.rxPayloads, Reference.asyncErrors, tagged]

theorem nothing_elsewhere (reader : ReaderPhase) (other : action.task ≠ .reader) :
    reader.dispatches action = [] ∧ action.reads = [] := by
  cases action <;> first | exact absurd rfl other | simp [ReaderPhase.dispatches, Action.reads]

theorem Transition.queues (transition : Transition protocol state action next) :
    next.queues =
      ⟨state.queues.rx ++ Reference.rxPayloads protocol (state.reader.dispatches action),
        state.queues.asyncErrors ++
          Reference.asyncErrors protocol (state.reader.dispatches action)⟩ := by
  have quiet : ∀ other : State types, other.queues = state.queues →
      state.reader.dispatches action = [] → other.queues =
        ⟨state.queues.rx ++ Reference.rxPayloads protocol (state.reader.dispatches action),
          state.queues.asyncErrors ++
            Reference.asyncErrors protocol (state.reader.dispatches action)⟩ := by
    intro other same nothing
    rw [same, nothing]
    simp [Reference.rxPayloads, Reference.asyncErrors]
  by_cases own : action.task = .reader
  · cases transition with
    | advance call current advances => cases advances <;> cases own
    | readerMoves current moves =>
        apply quiet _ rfl
        cases moves <;> simp [current, ReaderPhase.dispatches]
    | corrupt current =>
        simp [current, ReaderPhase.dispatches, Reference.rxPayloads, Reference.asyncErrors,
          EventQueues.sendAsyncError]
    | @unanswered frame works current nobody =>
        rw [current, ReaderPhase.dispatches]
        by_cases untagged : frame.tag = 0
        · simp only [untagged, if_true]
          exact dispatchAsync_events untagged state.queues
        · rcases @tagged_events _ protocol _ untagged with ⟨noRx, noErrors⟩
          simp [untagged, noRx, noErrors]
    | absorbed current nonzero =>
        rcases @tagged_events _ protocol _ nonzero with ⟨noRx, noErrors⟩
        simp [current, ReaderPhase.dispatches, noRx, noErrors, State.recordFrame]
    | resolved current nonzero =>
        rcases @tagged_events _ protocol _ nonzero with ⟨noRx, noErrors⟩
        simp [current, ReaderPhase.dispatches, noRx, noErrors, State.recordFrame, State.deliver]
    | reinsert | readerStop =>
        exact quiet _ (by simp [State.insertSlot]) (by simp [ReaderPhase.dispatches])
    | readerDrain => exact quiet _ rfl (by simp [ReaderPhase.dispatches])
    | _ => cases own
  · exact quiet _ (transition.keeps_reader own).2 (nothing_elsewhere _ own).1

/-- Works are dispatched in the order in which they were read. -/
theorem Transition.works (transition : Transition protocol state action next) :
    next.reader = .stopped ∧ state.reader.dispatches action = [] ∧ action.reads = [] ∨
      next.reader ≠ .stopped ∧ state.reader ≠ .stopped ∧
        state.reader.works ++ action.reads =
          state.reader.dispatches action ++ next.reader.works := by
  by_cases own : action.task = .reader
  · cases transition with
    | advance call current advances => cases advances <;> cases own
    | readerMoves current moves =>
        apply Or.inr
        cases moves with
        | check =>
            rw [current]
            cases state.closed <;>
              simp [ReaderPhase.works, ReaderPhase.dispatches, Action.reads]
        | _ => simp [current, ReaderPhase.works, ReaderPhase.dispatches, Action.reads]
    | corrupt current | unanswered current | absorbed current | resolved current
    | reinsert current | readerDrain current =>
        simp [current, ReaderPhase.works, ReaderPhase.dispatches, Action.reads]
    | readerStop => exact .inl ⟨rfl, by simp [ReaderPhase.dispatches], rfl⟩
    | _ => cases own
  · rcases @nothing_elsewhere action state.reader own with ⟨nothing, noRead⟩
    rw [(transition.keeps_reader own).1, nothing, noRead]
    by_cases stopped : state.reader = .stopped
    · exact .inl ⟨stopped, rfl, rfl⟩
    · exact .inr ⟨stopped, stopped, by simp⟩

theorem Transition.gone (transition : Transition protocol state action next)
    (gone : state.reader.isGone = true) :
    next.reader.isGone = true ∧ state.reader.dispatches action = [] := by
  have noWork : state.reader.dispatches action = [] := by
    cases reader : state.reader <;> simp_all [ReaderPhase.isGone, ReaderPhase.dispatches]
  refine ⟨?_, noWork⟩
  by_cases own : action.task = .reader
  · cases transition with
    | advance call current advances => cases advances <;> cases own
    | readerMoves current moves =>
        rw [current] at gone
        cases moves <;> cases gone
    | corrupt current | unanswered current | absorbed current | resolved current
    | reinsert current =>
        rw [current] at gone
        cases gone
    | readerDrain | readerStop => rfl
    | _ => cases own
  · rw [(transition.keeps_reader own).1]
    exact gone

end SessionSteps

/-! ## What a consumer step can do -/

inductive ListenerTransition (state : EventState types) : EventState types → Prop
  | moves (listener : Nat) (phase : Listener types) (holder : Option Nat)
      (running : ∀ kind result, state.listeners listener ≠ .returned kind result)
      (nothing : ∀ kind payload, phase ≠ .returned kind (some payload))
      (ends : phase = .returned .nextRx none →
        state.session.reader.isGone = true ∧ state.session.queues.rx = []) :
      ListenerTransition state (state.setListener listener phase holder)
  | takes (listener : Nat) (kind : ListenerKind) (payload : types.RxPayload)
      (rest : List types.RxPayload)
      (receiving : state.listeners listener = .receiving kind)
      (oldest : state.session.queues.rx = payload :: rest) :
      ListenerTransition state
        { (state.setRx rest).setListener listener (.returned kind (some payload)) none with
          obtained := state.obtained ++ [(listener, payload)] }

inductive DrainerTransition (state : EventState types) : EventState types → Prop
  | moves (drainer : Nat) (phase : Drainer)
      (before : state.drainers drainer = .idle ∨ state.drainers drainer = .locking)
      (after : phase = .locking ∨ phase = .dropped) :
      DrainerTransition state (state.setDrainer drainer phase state.errHolder)
  | locks (drainer : Nat) (locking : state.drainers drainer = .locking)
      (free : state.errHolder = none) :
      DrainerTransition state (state.setDrainer drainer (.collecting []) (some drainer))
  | takes (drainer : Nat) (errors : List ClientError) (error : ClientError)
      (rest : List ClientError) (collecting : state.drainers drainer = .collecting errors)
      (oldest : state.session.queues.asyncErrors = error :: rest) :
      DrainerTransition state
        ((state.setAsyncErrors rest).setDrainer drainer (.collecting (errors ++ [error]))
          state.errHolder)
  | returns (drainer : Nat) (errors : List ClientError)
      (collecting : state.drainers drainer = .collecting errors)
      (empty : state.session.queues.asyncErrors = []) :
      DrainerTransition state
        { state.setDrainer drainer (.returned errors) none with
          drains := state.drains ++ [(drainer, errors)] }

section Consumers

variable {state next : EventState types} {action : EventAction}

theorem listenerTransition_of_step (stepped : stepListener state action = some next) :
    ListenerTransition state next := by
  cases action with
  | listen listener kind =>
      simp only [stepListener] at stepped
      split at stepped
      · next current =>
        cases stepped
        exact .moves _ _ _ (by simp [current]) (by simp) (by simp)
      · cases stepped
  | lockRx listener =>
      simp only [stepListener] at stepped
      split at stepped
      · next current _ =>
        cases stepped
        exact .moves _ _ _ (by simp [current]) (by simp) (by simp)
      · cases stepped
  | take listener =>
      simp only [stepListener] at stepped
      split at stepped
      · next current oldest =>
        cases stepped
        exact .takes _ _ _ _ current oldest
      · cases stepped
  | disconnected listener =>
      simp only [stepListener] at stepped
      split at stepped
      · next current empty =>
        split at stepped
        · next gone =>
          cases stepped
          exact .moves _ _ _ (by simp [current]) (by simp) (fun _ => ⟨gone, empty⟩)
        · cases stepped
      · cases stepped
  | elapsed listener =>
      simp only [stepListener] at stepped
      split at stepped
      · next current =>
        cases stepped
        exact .moves _ _ _ (by simp [current]) (by simp) (by simp)
      · cases stepped
  | dropListener listener =>
      simp only [stepListener] at stepped
      split at stepped
      · next current =>
        cases stepped
        exact .moves _ _ _ (by simp [current]) (by simp) (by simp)
      · next current =>
        cases stepped
        exact .moves _ _ _ (by simp [current]) (by simp) (by simp)
      · cases stepped
  | _ => cases stepped

theorem drainerTransition_of_step (stepped : stepDrainer state action = some next) :
    DrainerTransition state next := by
  cases action with
  | drain drainer =>
      simp only [stepDrainer] at stepped
      split at stepped
      · next current =>
        cases stepped
        exact .moves _ _ (.inl current) (.inl rfl)
      · cases stepped
  | lockErrors drainer =>
      simp only [stepDrainer] at stepped
      split at stepped
      · next current free =>
        cases stepped
        exact .locks _ current free
      · cases stepped
  | tryRecv drainer =>
      simp only [stepDrainer] at stepped
      split at stepped
      · next current oldest =>
        cases stepped
        exact .takes _ _ _ _ current oldest
      · next current empty =>
        cases stepped
        exact .returns _ _ current empty
      · cases stepped
  | dropDrainer drainer =>
      simp only [stepDrainer] at stepped
      split at stepped
      · next current =>
        cases stepped
        exact .moves _ _ (.inr current) (.inr rfl)
      · cases stepped
  | _ => cases stepped

end Consumers

/-! ## Accounting for every event -/

structure ListenersAccounted (state : EventState types) : Prop where
  conserved : state.obtained.map Prod.snd ++ state.session.queues.rx =
    Reference.rxPayloads protocol state.handled
  returned : ∀ listener payload, (listener, payload) ∈ state.obtained ↔
    ∃ kind, state.listeners listener = .returned kind (some payload)
  once : (state.obtained.map Prod.fst).Nodup
  ended : ∀ listener, state.listeners listener = .returned .nextRx none →
    state.session.reader.isGone = true ∧ state.session.queues.rx = []

structure DrainersAccounted (state : EventState types) : Prop where
  conserved : state.collected ++ state.session.queues.asyncErrors =
    Reference.asyncErrors protocol state.handled
  holds : ∀ drainer errors, state.drainers drainer = .collecting errors →
    state.errHolder = some drainer
  holder : ∀ drainer, state.errHolder = some drainer →
    ∃ errors, state.drainers drainer = .collecting errors
  returned : ∀ drainer errors, (drainer, errors) ∈ state.drains ↔
    state.drainers drainer = .returned errors
  once : (state.drains.map Prod.fst).Nodup

structure InOrder (state : EventState types) : Prop where
  running : state.session.reader ≠ .stopped →
    state.arrived = state.handled ++ state.session.reader.works
  dispatched : state.handled <+: state.arrived

section Listeners

variable {protocol} {state next : EventState types}

theorem ListenersAccounted.moves (accounted : ListenersAccounted protocol state)
    (transition : ListenerTransition state next) : ListenersAccounted protocol next := by
  cases transition with
  | moves listener phase holder running nothing ends =>
      refine ⟨accounted.conserved, ?_, accounted.once, ?_⟩
      · intro other payload
        rw [EventState.setListener_obtained, accounted.returned]
        by_cases same : other = listener
        · subst same
          simp [running, nothing]
        · rw [EventState.setListener_ne _ _ same]
      · intro other ended
        by_cases same : other = listener
        · subst same
          rw [EventState.setListener_self] at ended
          exact ends ended
        · rw [EventState.setListener_ne _ _ same] at ended
          exact accounted.ended other ended
  | takes listener kind payload rest receiving oldest =>
      refine ⟨?_, ?_, ?_, ?_⟩
      · change (state.obtained ++ [(listener, payload)]).map Prod.snd ++ rest =
          Reference.rxPayloads protocol state.handled
        rw [← accounted.conserved, oldest, List.map_append, List.append_assoc]
        rfl
      · intro other earlier
        rw [List.mem_append, List.mem_singleton, Prod.mk.injEq, accounted.returned]
        by_cases same : other = listener
        · subst same
          simp [receiving, eq_comm]
        · simp only [EventState.setListener_ne _ _ same, same, false_and, or_false]
          rfl
      · rw [List.map_append, List.map_singleton, ← List.concat_eq_append]
        apply List.Nodup.concat _ accounted.once
        intro member
        rcases List.mem_map.mp member with ⟨⟨other, earlier⟩, obtained, same⟩
        cases same
        rcases (accounted.returned listener earlier).mp obtained with ⟨_, returned⟩
        rw [receiving] at returned
        cases returned
      · intro other ended
        by_cases same : other = listener
        · subst same
          rw [EventState.setListener_self] at ended
          cases ended
        · rw [EventState.setListener_ne _ _ same] at ended
          have empty := (accounted.ended other ended).2
          rw [oldest] at empty
          cases empty

theorem ListenersAccounted.drains (accounted : ListenersAccounted protocol state)
    (transition : DrainerTransition state next) : ListenersAccounted protocol next := by
  cases transition with
  | moves => exact ⟨accounted.conserved, accounted.returned, accounted.once, accounted.ended⟩
  | locks => exact ⟨accounted.conserved, accounted.returned, accounted.once, accounted.ended⟩
  | takes => exact ⟨accounted.conserved, accounted.returned, accounted.once, accounted.ended⟩
  | returns => exact ⟨accounted.conserved, accounted.returned, accounted.once, accounted.ended⟩

end Listeners

section Drainers

variable {protocol} {state next : EventState types}

theorem DrainersAccounted.listens (accounted : DrainersAccounted protocol state)
    (transition : ListenerTransition state next) : DrainersAccounted protocol next := by
  cases transition with
  | moves =>
      exact ⟨accounted.conserved, accounted.holds, accounted.holder, accounted.returned,
        accounted.once⟩
  | takes =>
      exact ⟨accounted.conserved, accounted.holds, accounted.holder, accounted.returned,
        accounted.once⟩

theorem DrainersAccounted.collected_eq (accounted : DrainersAccounted protocol state)
    {drainer : Nat} {errors : List ClientError}
    (collecting : state.drainers drainer = .collecting errors) :
    state.collected = state.drains.flatMap Prod.snd ++ errors := by
  rw [EventState.collected, accounted.holds drainer errors collecting]
  simp [collecting, Drainer.collected]

theorem DrainersAccounted.moves (accounted : DrainersAccounted protocol state)
    {drainer : Nat} {phase : Drainer}
    (before : state.drainers drainer = .idle ∨ state.drainers drainer = .locking)
    (after : phase = .locking ∨ phase = .dropped) :
    DrainersAccounted protocol (state.setDrainer drainer phase state.errHolder) := by
  have notHolder : ∀ other, state.errHolder = some other → other ≠ drainer := by
    intro other held same
    rcases accounted.holder other held with ⟨errors, collecting⟩
    rw [same] at collecting
    rcases before with idle | locking
    · rw [idle] at collecting
      cases collecting
    · rw [locking] at collecting
      cases collecting
  have sameCollected : (state.setDrainer drainer phase state.errHolder).collected =
      state.collected := by
    rw [EventState.collected, EventState.collected, EventState.setDrainer_errHolder]
    cases held : state.errHolder with
    | none => rfl
    | some other =>
        simp [EventState.setDrainer_ne _ _ (notHolder other held)]
  refine ⟨?_, ?_, ?_, ?_, accounted.once⟩
  · rw [sameCollected]
    exact accounted.conserved
  · intro other errors collecting
    by_cases same : other = drainer
    · subst same
      rw [EventState.setDrainer_self] at collecting
      rcases after with locking | dropped
      · rw [locking] at collecting
        cases collecting
      · rw [dropped] at collecting
        cases collecting
    · rw [EventState.setDrainer_ne _ _ same] at collecting
      exact accounted.holds other errors collecting
  · intro other held
    rw [EventState.setDrainer_ne _ _ (notHolder other held)]
    exact accounted.holder other held
  · intro other errors
    rw [EventState.setDrainer_drains, accounted.returned]
    by_cases same : other = drainer
    · subst same
      rcases before with idle | locking <;> rcases after with relocking | dropped <;>
        simp_all
    · rw [EventState.setDrainer_ne _ _ same]

theorem DrainersAccounted.locks (accounted : DrainersAccounted protocol state)
    {drainer : Nat} (locking : state.drainers drainer = .locking)
    (free : state.errHolder = none) :
    DrainersAccounted protocol (state.setDrainer drainer (.collecting []) (some drainer)) := by
  refine ⟨?_, ?_, ?_, ?_, accounted.once⟩
  · have conserved := accounted.conserved
    rw [EventState.collected, free] at conserved
    rw [EventState.collected, EventState.setDrainer_errHolder, Option.elim_some,
      EventState.setDrainer_self]
    exact conserved
  · intro other errors collecting
    by_cases same : other = drainer
    · rw [same]
      rfl
    · rw [EventState.setDrainer_ne _ _ same] at collecting
      rw [accounted.holds other errors collecting] at free
      cases free
  · intro other held
    cases held
    exact ⟨[], EventState.setDrainer_self _ _ _ _⟩
  · intro other errors
    rw [EventState.setDrainer_drains, accounted.returned]
    by_cases same : other = drainer
    · subst same
      simp [locking]
    · rw [EventState.setDrainer_ne _ _ same]

theorem DrainersAccounted.takes (accounted : DrainersAccounted protocol state)
    {drainer : Nat} {errors : List ClientError} {error : ClientError}
    {rest : List ClientError} (collecting : state.drainers drainer = .collecting errors)
    (oldest : state.session.queues.asyncErrors = error :: rest) :
    DrainersAccounted protocol ((state.setAsyncErrors rest).setDrainer drainer
      (.collecting (errors ++ [error])) state.errHolder) := by
  have held := accounted.holds drainer errors collecting
  refine ⟨?_, ?_, ?_, ?_, accounted.once⟩
  · have conserved := accounted.conserved
    rw [accounted.collected_eq collecting, oldest] at conserved
    rw [EventState.collected, EventState.setDrainer_errHolder, held, Option.elim_some,
      EventState.setDrainer_self]
    refine Eq.trans ?_ conserved
    simp [Drainer.collected, EventState.setDrainer, EventState.setAsyncErrors]
  · intro other others collectingToo
    by_cases same : other = drainer
    · rw [same]
      exact held
    · rw [EventState.setDrainer_ne _ _ same] at collectingToo
      exact accounted.holds other others collectingToo
  · intro other heldToo
    rw [EventState.setDrainer_errHolder, held] at heldToo
    cases heldToo
    exact ⟨_, EventState.setDrainer_self _ _ _ _⟩
  · intro other others
    rw [EventState.setDrainer_drains]
    by_cases same : other = drainer
    · subst same
      rw [EventState.setDrainer_self]
      refine (accounted.returned other others).trans ?_
      simp [collecting]
    · rw [EventState.setDrainer_ne _ _ same]
      exact accounted.returned other others

theorem DrainersAccounted.returns (accounted : DrainersAccounted protocol state)
    {drainer : Nat} {errors : List ClientError}
    (collecting : state.drainers drainer = .collecting errors) :
    DrainersAccounted protocol
      { state.setDrainer drainer (.returned errors) none with
        drains := state.drains ++ [(drainer, errors)] } := by
  have held := accounted.holds drainer errors collecting
  refine ⟨?_, ?_, ?_, ?_, ?_⟩
  · have conserved := accounted.conserved
    rw [accounted.collected_eq collecting] at conserved
    refine Eq.trans ?_ conserved
    simp [EventState.collected, EventState.setDrainer]
  · intro other others collectingToo
    by_cases same : other = drainer
    · subst same
      rw [EventState.setDrainer_self] at collectingToo
      cases collectingToo
    · rw [EventState.setDrainer_ne _ _ same] at collectingToo
      have heldToo := accounted.holds other others collectingToo
      rw [held] at heldToo
      cases heldToo
      exact absurd rfl same
  · intro other heldToo
    cases heldToo
  · intro other others
    rw [List.mem_append, List.mem_singleton, Prod.mk.injEq, accounted.returned]
    by_cases same : other = drainer
    · subst same
      simp [collecting, eq_comm]
    · simp only [EventState.setDrainer_ne _ _ same, same, false_and, or_false]
  · rw [List.map_append, List.map_singleton, ← List.concat_eq_append]
    apply List.Nodup.concat _ accounted.once
    intro member
    rcases List.mem_map.mp member with ⟨⟨other, earlier⟩, drained, same⟩
    cases same
    rw [(accounted.returned drainer earlier).mp drained] at collecting
    cases collecting

theorem DrainersAccounted.drains (accounted : DrainersAccounted protocol state)
    (transition : DrainerTransition state next) : DrainersAccounted protocol next := by
  cases transition with
  | moves drainer phase before after => exact accounted.moves before after
  | locks drainer locking free => exact accounted.locks locking free
  | takes drainer errors error rest collecting oldest =>
      exact accounted.takes collecting oldest
  | returns drainer errors collecting _ => exact accounted.returns collecting

end Drainers

/-! ## Every reachable state -/

section Steps

variable {protocol} {state : EventState types} {session : State types} {action : Action}

def EventState.advance (state : EventState types) (action : Action) (session : State types) :
    EventState types :=
  { state with
    session := session
    arrived := state.arrived ++ action.reads
    handled := state.handled ++ state.session.reader.dispatches action }

theorem ListenersAccounted.advances (accounted : ListenersAccounted protocol state)
    (transition : Transition protocol state.session action session) :
    ListenersAccounted protocol (state.advance action session) := by
  refine ⟨?_, accounted.returned, accounted.once, ?_⟩
  · change state.obtained.map Prod.snd ++ session.queues.rx =
      Reference.rxPayloads protocol (state.handled ++ state.session.reader.dispatches action)
    rw [transition.queues, Reference.rxPayloads_append, ← accounted.conserved,
      List.append_assoc]
  · intro listener ended
    rcases accounted.ended listener ended with ⟨gone, empty⟩
    rcases transition.gone gone with ⟨stillGone, nothing⟩
    refine ⟨stillGone, ?_⟩
    change session.queues.rx = []
    rw [transition.queues, nothing, empty]
    rfl

theorem DrainersAccounted.advances (accounted : DrainersAccounted protocol state)
    (transition : Transition protocol state.session action session) :
    DrainersAccounted protocol (state.advance action session) := by
  refine ⟨?_, accounted.holds, accounted.holder, accounted.returned, accounted.once⟩
  change state.collected ++ session.queues.asyncErrors =
    Reference.asyncErrors protocol (state.handled ++ state.session.reader.dispatches action)
  rw [transition.queues, Reference.asyncErrors_append, ← accounted.conserved,
    List.append_assoc]

theorem InOrder.advances (inOrder : InOrder state)
    (transition : Transition protocol state.session action session) :
    InOrder (state.advance action session) := by
  rcases transition.works with ⟨stopped, nothing, noRead⟩ | ⟨_, running, works⟩
  · refine ⟨fun notStopped => absurd stopped notStopped, ?_⟩
    change state.handled ++ state.session.reader.dispatches action <+:
      state.arrived ++ action.reads
    rw [nothing, noRead, List.append_nil, List.append_nil]
    exact inOrder.dispatched
  · have whole : state.arrived ++ action.reads =
        state.handled ++ state.session.reader.dispatches action ++ session.reader.works := by
      rw [inOrder.running running, List.append_assoc, works, List.append_assoc]
    exact ⟨fun _ => whole, ⟨_, whole.symm⟩⟩

theorem InOrder.consumes {next : EventState types} (inOrder : InOrder state)
    (reader : next.session.reader = state.session.reader)
    (arrived : next.arrived = state.arrived) (handled : next.handled = state.handled) :
    InOrder next := by
  refine ⟨?_, ?_⟩
  · rw [reader, arrived, handled]
    exact inOrder.running
  · rw [arrived, handled]
    exact inOrder.dispatched

theorem eventStep_cases {next : EventState types} {action : EventAction}
    (stepped : (eventMachine protocol).step state action = some next) :
    (∃ action session, Transition protocol state.session action session ∧
      next = state.advance action session) ∨
    ListenerTransition state next ∨ DrainerTransition state next := by
  change stepEvents protocol state action = some next at stepped
  cases action with
  | session action =>
      rcases Option.map_eq_some_iff.mp stepped with ⟨session, sessionStep, same⟩
      exact .inl ⟨action, session, transition_of_step protocol sessionStep, same.symm⟩
  | drain drainer =>
      simp only [stepEvents] at stepped
      exact .inr (.inr (drainerTransition_of_step stepped))
  | lockErrors drainer =>
      simp only [stepEvents] at stepped
      exact .inr (.inr (drainerTransition_of_step stepped))
  | tryRecv drainer =>
      simp only [stepEvents] at stepped
      exact .inr (.inr (drainerTransition_of_step stepped))
  | dropDrainer drainer =>
      simp only [stepEvents] at stepped
      exact .inr (.inr (drainerTransition_of_step stepped))
  | _ =>
      simp only [stepEvents] at stepped
      exact .inr (.inl (listenerTransition_of_step stepped))

end Steps

section Reachable

variable {protocol} {state : EventState types}
  (reached : (eventMachine protocol).Reachable state)
include reached

theorem listenersAccounted : ListenersAccounted protocol state := by
  apply reached.invariant
  · exact ⟨rfl, by simp [eventMachine], List.nodup_nil, by simp [eventMachine]⟩
  · intro current action next accounted _ stepped
    rcases eventStep_cases stepped with ⟨action, session, transition, same⟩ | listens | drains
    · rw [same]
      exact accounted.advances transition
    · exact accounted.moves listens
    · exact accounted.drains drains

theorem drainersAccounted : DrainersAccounted protocol state := by
  apply reached.invariant
  · exact ⟨rfl, by simp [eventMachine], by simp [eventMachine], by simp [eventMachine],
      List.nodup_nil⟩
  · intro current action next accounted _ stepped
    rcases eventStep_cases stepped with ⟨action, session, transition, same⟩ | listens | drains
    · rw [same]
      exact accounted.advances transition
    · exact accounted.listens listens
    · exact accounted.drains drains

theorem inOrder : InOrder state := by
  apply reached.invariant
  · exact ⟨fun _ => rfl, List.prefix_rfl⟩
  · intro current action next inOrder _ stepped
    rcases eventStep_cases stepped with ⟨action, session, transition, same⟩ | listens | drains
    · rw [same]
      exact inOrder.advances transition
    · cases listens <;> exact inOrder.consumes rfl rfl rfl
    · cases drains <;> exact inOrder.consumes rfl rfl rfl

end Reachable

/-- Events are neither lost, duplicated nor reordered, whoever consumes them and
whichever call times out or is dropped. -/
theorem events_conserved {state : EventState types}
    (reached : (eventMachine protocol).Reachable state) :
    state.handled <+: state.arrived ∧
    (state.obtained.map Prod.snd ++ state.session.queues.rx =
        Reference.rxPayloads protocol state.handled ∧
      (state.obtained.map Prod.fst).Nodup ∧
      ∀ listener payload, (listener, payload) ∈ state.obtained ↔
        ∃ kind, state.listeners listener = .returned kind (some payload)) ∧
    (state.collected ++ state.session.queues.asyncErrors =
        Reference.asyncErrors protocol state.handled ∧
      (state.errHolder = none →
        state.drains.flatMap Prod.snd ++ state.session.queues.asyncErrors =
          Reference.asyncErrors protocol state.handled) ∧
      (state.drains.map Prod.fst).Nodup ∧
      ∀ drainer errors, (drainer, errors) ∈ state.drains ↔
        state.drainers drainer = .returned errors) ∧
    (∀ listener, state.listeners listener = .returned .nextRx none →
      state.session.reader.isGone = true ∧
        state.obtained.map Prod.snd = Reference.rxPayloads protocol state.handled) := by
  have listeners := listenersAccounted reached
  have drainers := drainersAccounted reached
  refine ⟨(inOrder reached).dispatched, ⟨listeners.conserved, listeners.once, listeners.returned⟩,
    ⟨drainers.conserved, ?_, drainers.once, drainers.returned⟩, ?_⟩
  · intro free
    have conserved := drainers.conserved
    rw [EventState.collected, free, Option.elim_none, List.append_nil] at conserved
    exact conserved
  · intro listener ended
    rcases listeners.ended listener ended with ⟨gone, empty⟩
    have conserved := listeners.conserved
    rw [empty, List.append_nil] at conserved
    exact ⟨gone, conserved⟩

def twoPackets : List EventAction :=
  [.listen 0 .recvRx, .listen 1 .nextRx, .listen 2 .nextRx, .lockRx 0,
    .session .readerCheck,
    .session (.readerRead [.ok ⟨192, 0, [7]⟩, .frame, .ok ⟨192, 0, [8]⟩]),
    .elapsed 0, .dropListener 1, .lockRx 2, .drain 3, .lockErrors 3,
    .session .readerDispatch, .take 2, .session .readerDispatch, .tryRecv 3, .tryRecv 3,
    .session .readerDispatch]

theorem events_conserved_twoPackets :
    ∃ state, (eventMachine Protocol.sample).run (eventMachine Protocol.sample).initial
        twoPackets = some state ∧
      state.obtained = [(2, [7])] ∧ state.session.queues.rx = [[8]] ∧
      state.drains = [(3, [.badFrame "inbound frame failed CRC or COBS"])] ∧
      state.obtained.map Prod.snd ++ state.session.queues.rx =
        Reference.rxPayloads Protocol.sample state.handled := by
  have ran : ∃ state, (eventMachine Protocol.sample).run
        (eventMachine Protocol.sample).initial twoPackets = some state ∧
      state.obtained = [(2, [7])] ∧ state.session.queues.rx = [[8]] ∧
      state.drains = [(3, [.badFrame "inbound frame failed CRC or COBS"])] :=
    ⟨_, rfl, rfl, rfl, rfl⟩
  rcases ran with ⟨state, ran, obtained, queued, drained⟩
  exact ⟨state, ran, obtained, queued, drained,
    (events_conserved Protocol.sample (.run .initial ran)).2.1.1⟩

end DongloraClient.Session
