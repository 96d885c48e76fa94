import DongloraClient.Foundation.Progress
import DongloraClient.Session.ReaderLoop
import DongloraClient.Session.Shutdown
import DongloraClient.Session.TagSequence

/-! # Sessions make progress

No session wedges: whatever has happened to it, and whichever of its calls were dropped, as
long as it is open and its reader is in its loop a new command gets the answer that the
device sends to it. Frames are written under a mutex which is passed on in the order in
which it was asked for, so that the calls that came first have to write theirs before.
-/

namespace DongloraClient.Session

open Foundation

variable {types : WireTypes} {protocol : Protocol types}

/-! ## The mutex of the writer -/

/-- `queue` are the calls at the mutex, in the order in which they came; the first one has
it. The calls in `dropped` were cancelled where they stood. -/
structure Wired (types : WireTypes) where
  session : State types
  queue : List CallId
  dropped : List CallId

inductive WiredAction
  | lock (call : CallId)
  | step (action : Action)
  | drop (call : CallId)
  deriving DecidableEq, Repr

def State.atWriter (protocol : Protocol types) (state : State types) (call : CallId) : Bool :=
  match state.calls call with
  | .writing request tag => (protocol.encodeFrame request.typeId tag request.payload).isOk
  | _ => false

/-- A dropped call takes no more steps, and only the first one at the mutex writes. A frame
that cannot be encoded never gets to the mutex. -/
def Wired.admits (protocol : Protocol types) (wired : Wired types) (action : Action) : Bool :=
  match action with
  | .write call _ => call ∉ wired.dropped &&
      (!wired.session.atWriter protocol call || wired.queue.head? == some call)
  | action =>
      match action.task with
      | .call call => call ∉ wired.dropped
      | _ => true

/-- The mutex is passed on after the write, whether it failed or not. -/
def Wired.queueAfter (wired : Wired types) : Action → List CallId
  | .write call _ => wired.queue.erase call
  | _ => wired.queue

variable (protocol) in
def stepWired (wired : Wired types) : WiredAction → Option (Wired types)
  | .lock call =>
      if wired.session.atWriter protocol call ∧ call ∉ wired.queue ∧ call ∉ wired.dropped then
        some { wired with queue := wired.queue ++ [call] }
      else none
  | .step action =>
      if wired.admits protocol action then
        (step protocol wired.session action).map fun session =>
          { wired with session := session, queue := wired.queueAfter action }
      else none
  | .drop call =>
      match wired.session.calls call with
      | .idle => none
      | _ => some
          { wired with queue := wired.queue.erase call, dropped := call :: wired.dropped }

variable (protocol) in
def wiredMachine : Machine (Wired types) WiredAction where
  initial := ⟨spawn, [], []⟩
  step := stepWired protocol

inductive WiredStep (protocol : Protocol types) (wired : Wired types) :
    WiredAction → Wired types → Prop
  | locks {call : CallId} (arrived : wired.session.atWriter protocol call = true)
      (fresh : call ∉ wired.queue) (alive : call ∉ wired.dropped) :
      WiredStep protocol wired (.lock call) { wired with queue := wired.queue ++ [call] }
  | steps {action : Action} {session : State types}
      (stepped : (machine protocol).step wired.session action = some session) :
      WiredStep protocol wired (.step action)
        { wired with session := session, queue := wired.queueAfter action }
  | drops {call : CallId} (begun : wired.session.calls call ≠ .idle) :
      WiredStep protocol wired (.drop call)
        { wired with queue := wired.queue.erase call, dropped := call :: wired.dropped }

section Wired

variable {wired next : Wired types} {call : CallId}

theorem wiredStep_of_step {action : WiredAction}
    (stepped : (wiredMachine protocol).step wired action = some next) :
    WiredStep protocol wired action next := by
  change stepWired protocol wired action = some next at stepped
  cases action with
  | lock call =>
      simp only [stepWired] at stepped
      split at stepped
      · next may =>
        cases stepped
        exact .locks may.1 may.2.1 may.2.2
      · cases stepped
  | step action =>
      simp only [stepWired] at stepped
      split at stepped
      · rw [Option.map_eq_some_iff] at stepped
        rcases stepped with ⟨session, performed, rfl⟩
        exact .steps performed
      · cases stepped
  | drop call =>
      simp only [stepWired] at stepped
      split at stepped
      · cases stepped
      · next begun =>
        cases stepped
        exact .drops begun

structure Ordered (protocol : Protocol types) (wired : Wired types) : Prop where
  queued : ∀ call ∈ wired.queue, wired.session.atWriter protocol call = true ∧
    call ∉ wired.dropped
  once : wired.queue.Nodup
  begun : ∀ call ∈ wired.dropped, wired.session.calls call ≠ .idle

theorem atWriter_iff {state : State types} :
    state.atWriter protocol call = true ↔ ∃ request tag wire,
      state.calls call = .writing request tag ∧
        protocol.encodeFrame request.typeId tag request.payload = .ok wire := by
  rw [State.atWriter]
  constructor
  · intro arrived
    split at arrived
    · next request tag current =>
      cases encoded : protocol.encodeFrame request.typeId tag request.payload with
      | error reason =>
          rw [encoded] at arrived
          cases arrived
      | ok wire => exact ⟨request, tag, wire, current, encoded⟩
    · cases arrived
  · rintro ⟨request, tag, wire, current, encoded⟩
    simp only [current, encoded]
    rfl

theorem atWriter_of_step {state after : State types} {action : Action}
    (stepped : (machine protocol).step state action = some after)
    (arrived : state.atWriter protocol call = true)
    (other : ∀ failure, action ≠ .write call failure) :
    after.atWriter protocol call = true := by
  rcases atWriter_iff.mp arrived with ⟨request, tag, wire, current, encoded⟩
  cases (transition_of_step protocol stepped).callStep call with
  | keeps same =>
      rw [atWriter_iff]
      exact ⟨request, tag, wire, same.trans current, encoded⟩
  | advance before _ advances =>
      rw [before] at current
      subst current
      cases advances <;> exact absurd rfl (other _)
  | allocTag before | register before | cleanup before =>
      rw [before] at current
      cases current

theorem Transition.stays_begun {state after : State types} {action : Action}
    (transition : Transition protocol state action after)
    (begun : state.calls call ≠ .idle) : after.calls call ≠ .idle := by
  cases transition.callStep call with
  | keeps same =>
      rw [same]
      exact begun
  | advance current reached advances =>
      rw [reached]
      cases advances <;> simp
  | allocTag _ reached | register _ reached _ _ | cleanup _ reached =>
      rw [reached]
      simp

theorem Ordered.step {action : WiredAction} (ordered : Ordered protocol wired)
    (step : WiredStep protocol wired action next) : Ordered protocol next := by
  cases step with
  | locks arrived fresh alive =>
      refine ⟨?_, ?_, ordered.begun⟩
      · intro other member
        rcases List.mem_append.mp member with earlier | last
        · exact ordered.queued other earlier
        · cases List.mem_singleton.mp last
          exact ⟨arrived, alive⟩
      · exact List.nodup_append'.mpr ⟨ordered.once, by simp, by simpa using fresh⟩
  | @steps action session stepped =>
      refine ⟨?_, ?_, ?_⟩
      · intro other member
        have before : other ∈ wired.queue ∧ ∀ failure, action ≠ .write other failure := by
          cases action with
          | write writer failure =>
              have among := (List.Nodup.mem_erase_iff ordered.once).mp member
              refine ⟨among.2, ?_⟩
              rintro _ same
              cases same
              exact among.1 rfl
          | _ => exact ⟨member, by simp⟩
        rcases ordered.queued other before.1 with ⟨arrived, alive⟩
        exact ⟨atWriter_of_step stepped arrived before.2, alive⟩
      · cases action with
        | write => exact ordered.once.erase _
        | _ => exact ordered.once
      · intro other member
        exact (transition_of_step protocol stepped).stays_begun (ordered.begun other member)
  | drops begun =>
      refine ⟨?_, ordered.once.erase _, ?_⟩
      · intro other member
        rcases (List.Nodup.mem_erase_iff ordered.once).mp member with ⟨different, among⟩
        rcases ordered.queued other among with ⟨arrived, alive⟩
        exact ⟨arrived, by simp [different, alive]⟩
      · intro other member
        rcases List.mem_cons.mp member with rfl | earlier
        · exact begun
        · exact ordered.begun other earlier

theorem ordered_of_reachable (reached : (wiredMachine protocol).Reachable wired) :
    Ordered protocol wired := by
  apply reached.invariant
  · exact ⟨by simp [wiredMachine], List.nodup_nil, by simp [wiredMachine]⟩
  · intro current action next ordered _ stepped
    exact ordered.step (wiredStep_of_step stepped)

theorem reachable_of_wired (reached : (wiredMachine protocol).Reachable wired) :
    (machine protocol).Reachable wired.session := by
  apply reached.invariant
  · exact .initial
  · intro current action next before _ stepped
    cases wiredStep_of_step stepped with
    | locks | drops => exact before
    | steps performed => exact .step before trivial performed

/-! ## Driving a session -/

/-- The steps that help a call: its own, the reader's, and the writes of whoever is at the
mutex before it. -/
def Helps (queue : List CallId) (call : CallId) : WiredAction → Prop
  | .lock other => other = call
  | .step (.write other failure) => other = call ∨ (other ∈ queue ∧ failure = none)
  | .step action => action.task = .call call ∨ action.task = .reader
  | .drop _ => False

def Action.Passes (call : CallId) (action : Action) : Prop :=
  (action.task = .call call ∨ action.task = .reader) ∧
    ∀ other failure, action ≠ .write other failure

theorem Action.Passes.of_reader {action : Action} (reads : action.task = .reader) :
    action.Passes call := by
  refine ⟨.inr reads, ?_⟩
  rintro _ _ rfl
  cases reads

theorem step_of_passes {action : Action} {session : State types} (alive : call ∉ wired.dropped)
    (passes : action.Passes call)
    (stepped : (machine protocol).step wired.session action = some session) :
    (wiredMachine protocol).step wired (.step action) =
      some { wired with session := session } := by
  change Session.step protocol wired.session action = some session at stepped
  rcases passes with ⟨own, notWrite⟩
  cases action with
  | write other failure => exact absurd rfl (notWrite other failure)
  | closeStore | closeDrain | closeAbort => rcases own with own | own <;> cases own
  | begin | allocTag | register | receive | senderGone | timeout | cleanup =>
      rcases own with own | own <;> cases own
      simp [wiredMachine, stepWired, Wired.admits, Wired.queueAfter, Action.task, alive, stepped]
  | _ => simp [wiredMachine, stepWired, Wired.admits, Wired.queueAfter, Action.task, stepped]

theorem Action.Passes.helps {queue : List CallId} {action : Action}
    (passes : action.Passes call) : Helps queue call (.step action) := by
  cases action with
  | write other failure => exact absurd rfl (passes.2 other failure)
  | _ => exact passes.1

theorem canReach_wired (wired : Wired types) {queue : List CallId} {goal : State types → Prop}
    (alive : call ∉ wired.dropped)
    (reach : (machine protocol).CanReach (Action.Passes call) wired.session goal) :
    (wiredMachine protocol).CanReach (Helps queue call) wired fun final =>
      ∃ session, final = { wired with session := session } ∧ goal session := by
  have lifts : (wiredMachine protocol).CanReach
      (fun taken => ∃ action, Action.Passes call action ∧ taken = .step action)
      { wired with session := wired.session }
      fun final => ∃ session, final = { wired with session := session } ∧ goal session := by
    refine reach.lift (fun session => { wired with session := session }) WiredAction.step ?_
    intro current action next passes stepped
    have aliveStill : call ∉ ({ wired with session := current } : Wired types).dropped := alive
    exact step_of_passes aliveStill passes stepped
  apply lifts.weaken _ fun _ holds => holds
  rintro _ ⟨action, passes, rfl⟩
  exact passes.helps

/-! ## The calls at the mutex -/

def Phase.written : Phase types → Phase types
  | .writing request tag => .waiting request tag
  | phase => phase

def Wired.flushed (wired : Wired types) : Wired types where
  session :=
    { wired.session with
      calls := fun call =>
        if call ∈ wired.queue then (wired.session.calls call).written
        else wired.session.calls call }
  queue := []
  dropped := wired.dropped

theorem step_write {later : List CallId} (ordered : Ordered protocol wired)
    (first : wired.queue = call :: later) :
    (wiredMachine protocol).step wired (.step (.write call none)) =
      some { wired with
        session := wired.session.setPhase call (wired.session.calls call).written
        queue := later } := by
  rcases ordered.queued call (by simp [first]) with ⟨arrived, alive⟩
  rcases atWriter_iff.mp arrived with ⟨request, tag, wire, current, encoded⟩
  simp [wiredMachine, stepWired, Wired.admits, Wired.queueAfter, alive, first, Session.step,
    Action.task, stepCall, current, encoded, Phase.written]

theorem flushed_step {later : List CallId} (fresh : call ∉ later)
    (first : wired.queue = call :: later) :
    Wired.flushed { wired with
      session := wired.session.setPhase call (wired.session.calls call).written
      queue := later } = wired.flushed := by
  simp only [Wired.flushed, State.setPhase, Wired.mk.injEq, and_true]
  congr 1
  funext other
  by_cases own : other = call
  · subst own
    simp [first, fresh]
  · simp [first, own]

theorem run_flush (ordered : Ordered protocol wired) :
    (wiredMachine protocol).run wired (wired.queue.map fun call => .step (.write call none)) =
      some wired.flushed := by
  generalize waiting : wired.queue = queue
  induction queue generalizing wired with
  | nil =>
      rcases wired with ⟨session, queue, dropped⟩
      cases waiting
      simp [Wired.flushed]
  | cons call later induction =>
      have stepped := step_write ordered waiting
      have once := ordered.once
      rw [waiting] at once
      rw [List.map_cons, Machine.run_cons, stepped, Option.bind_some,
        induction (ordered.step (wiredStep_of_step stepped)) rfl,
        flushed_step (List.nodup_cons.mp once).1 waiting]

end Wired

/-! ## The reader finishes what it has read -/

def ReaderPhase.remaining : ReaderPhase → Nat
  | .checking => 1
  | .dispatching works => 2 * works.length + 2
  | .reinserting _ _ works => 2 * works.length + 3
  | _ => 0

theorem dispatchFrame_reader (state : State types) (frame : Frame) (works : List FrameWork) :
    (dispatchFrame protocol state frame works).reader = .dispatching works ∨
      ∃ slot, (dispatchFrame protocol state frame works).reader =
        .reinserting frame.tag slot works := by
  rw [dispatchFrame]
  split
  · exact .inl rfl
  · split
    · exact .inl rfl
    · next slot found =>
      dsimp only
      split
      · exact .inr ⟨slot, rfl⟩
      · exact .inl rfl

/-- In an open session the reader gets from anywhere in its loop to its next read. -/
theorem reader_settles {state : State types} (opened : state.closed = false)
    (looping : state.reader.inLoop = true) :
    (machine protocol).CanReach (fun action => action.task = .reader) state
      fun final => final.reader = .reading := by
  apply Machine.canReach_of_rank
    (fun current => current.closed = false ∧ current.reader.inLoop = true)
    wellFounded_lt (fun current => current.reader.remaining) _ ⟨opened, looping⟩
  rintro current ⟨opened, looping⟩
  cases phase : current.reader with
  | reading => exact .inl rfl
  | checking =>
      refine .inr ⟨.readerCheck, { current with reader := .reading }, rfl, ?_, ⟨opened, rfl⟩, ?_⟩
      · simp [machine, step, Action.task, stepReader, phase, opened]
      · simp [ReaderPhase.remaining]
  | dispatching works =>
      cases works with
      | nil =>
          refine .inr ⟨.readerDispatch, { current with reader := .checking }, rfl, ?_,
            ⟨opened, rfl⟩, ?_⟩
          · simp [machine, step, Action.task, stepReader, phase]
          · simp [ReaderPhase.remaining]
      | cons work works =>
          cases work with
          | frame =>
              let queued : State types :=
                { current with
                  queues := current.queues.sendAsyncError
                    (.badFrame "inbound frame failed CRC or COBS")
                  reader := .dispatching works }
              refine .inr ⟨.readerDispatch, queued, rfl, ?_, ⟨opened, rfl⟩, ?_⟩
              · simp [machine, step, Action.task, stepReader, phase, queued]
              · simp [ReaderPhase.remaining, queued]
          | ok frame =>
              have stepped : (machine protocol).step current .readerDispatch =
                  some (dispatchFrame protocol current frame works) := by
                simp [machine, step, Action.task, stepReader, phase]
              have stillOpen : (dispatchFrame protocol current frame works).closed = false := by
                rw [((transition_of_step protocol stepped).keeps_flags (by simp [Action.task])).1]
                exact opened
              refine .inr ⟨.readerDispatch, _, rfl, stepped, ⟨stillOpen, ?_⟩, ?_⟩
              · rcases @dispatchFrame_reader _ protocol current frame works with
                  same | ⟨slot, same⟩ <;> rw [same] <;> rfl
              · rcases @dispatchFrame_reader _ protocol current frame works with
                  same | ⟨slot, same⟩ <;> rw [same] <;> simp [ReaderPhase.remaining]; omega
  | reinserting tag slot works =>
      refine .inr ⟨.readerReinsert,
        { current.insertSlot tag slot with reader := .dispatching works }, rfl, ?_, ⟨?_, rfl⟩, ?_⟩
      · simp [machine, step, Action.task, stepReader, phase]
      · simp [State.insertSlot, opened]
      · simp [ReaderPhase.remaining]
  | leaving | exited | stopped =>
      rw [phase] at looping
      cases looping

theorem reader_keeps_calls {state next : State types} {action : Action}
    (reads : action.task = .reader) (stepped : (machine protocol).step state action = some next) :
    next.calls = state.calls := by
  funext call
  apply (transition_of_step protocol stepped).keeps_call
  rw [reads]
  simp

/-! ## A command and its answer -/

def registration (call : CallId) (request : Request) : List Action :=
  [.begin call request, .allocTag call, .register call]

structure Registered (state : State types) (call : CallId) (request : Request)
    (next : State types) : Prop where
  writing : next.calls call = .writing request state.nextTag
  entry : next.pending.lookup state.nextTag = some ⟨request.typeId, call⟩
  reader : next.reader = state.reader
  others : ∀ other, other ≠ call → next.calls other = state.calls other

theorem run_registration {state : State types} {call : CallId} {request : Request}
    (idle : state.calls call = .idle) (opened : state.closed = false) :
    ∃ next, (machine protocol).run state (registration call request) = some next ∧
      Registered state call request next := by
  let admitted := state.setPhase call (.opened request)
  let given : State types :=
    { admitted.setPhase call (.tagged request state.nextTag) with
      nextTag := advanceTag state.nextTag }
  let registered := ((given.insertSlot state.nextTag ⟨request.typeId, call⟩).setPhase call
    (.writing request state.nextTag)).record (.registered call state.nextTag request.typeId)
  have begins : (machine protocol).step state (.begin call request) = some admitted := by
    simp [machine, step, Action.task, stepCall, idle, opened, admitted]
  have allocates : (machine protocol).step admitted (.allocTag call) = some given := by
    simp [machine, step, Action.task, stepCall, given, admitted, State.setPhase]
  have registers : (machine protocol).step given (.register call) = some registered := by
    simp [machine, step, Action.task, stepCall, registered, given, State.setPhase]
  refine ⟨registered, ?_, ?_, ?_, ?_, ?_⟩
  · simp only [registration, Machine.run_cons, Machine.run_nil, begins, allocates, registers,
      Option.bind_some]
  · simp [registered, State.setPhase, State.record]
  · simp [registered, given, State.setPhase, State.record, State.insertSlot]
  · simp [registered, given, admitted, State.setPhase, State.record, State.insertSlot]
  · intro other different
    simp [registered, given, admitted, State.setPhase, State.record, State.insertSlot,
      different]

theorem registration_passes {call : CallId} {request : Request} :
    ∀ action ∈ registration call request, action.Passes call := by
  simp [registration, Action.Passes, Action.task]

theorem run_write {wired : Wired types} {call : CallId} {request : Request} {tag : UInt16}
    {wire : List UInt8} (free : wired.queue = []) (alive : call ∉ wired.dropped)
    (writing : wired.session.calls call = .writing request tag)
    (encodes : protocol.encodeFrame request.typeId tag request.payload = .ok wire) :
    (wiredMachine protocol).run wired [.lock call, .step (.write call none)] =
      some { wired with session := wired.session.setPhase call (.waiting request tag) } := by
  have arrived : wired.session.atWriter protocol call = true :=
    atWriter_iff.mpr ⟨request, tag, wire, writing, encodes⟩
  let locked : Wired types := { wired with queue := [call] }
  have locks : (wiredMachine protocol).step wired (.lock call) = some locked := by
    simp [wiredMachine, stepWired, arrived, alive, free, locked]
  have writes : (wiredMachine protocol).step locked (.step (.write call none)) =
      some { wired with session := wired.session.setPhase call (.waiting request tag) } := by
    simp [wiredMachine, stepWired, Wired.admits, Wired.queueAfter, locked, alive, free,
      Session.step, Action.task, stepCall, writing, encodes]
  simp only [Machine.run_cons, Machine.run_nil, locks, writes, Option.bind_some]

/-- The reader goes through the frames of one tag until it finds the decisive one. The
induction is over the frames; an absorbed one leaves the slot where it was. -/
theorem reader_answers {state : State types} {call : CallId} {cmdType : UInt8} {tag : UInt16}
    {frames : List Frame} {frame : Frame} (nonzero : tag ≠ 0)
    (tagged : ∀ other ∈ frames, other.tag = tag)
    (decides : Reference.decisive protocol cmdType frames = some frame)
    (current : state.reader = .dispatching (frames.map .ok))
    (entry : state.pending.lookup tag = some ⟨cmdType, call⟩)
    (empty : state.channels call = .empty) :
    (machine protocol).CanReach (fun action => action.task = .reader) state fun final =>
      final.channels call = .filled (Reference.answer protocol cmdType frame) := by
  induction frames generalizing state with
  | nil => simp [Reference.decisive] at decides
  | cons first later induction =>
      have same : first.tag = tag := tagged first List.mem_cons_self
      have dispatches : (machine protocol).step state .readerDispatch =
          some (dispatchFrame protocol state first (later.map .ok)) := by
        simp [machine, step, Action.task, stepReader, current]
      have found : state.pending.lookup first.tag = some ⟨cmdType, call⟩ := by
        rw [same]
        exact entry
      rw [Reference.decisive_cons] at decides
      by_cases absorbed : absorbs protocol cmdType first.typeId = true
      · rw [if_pos absorbed] at decides
        let taken : State types :=
          { state.recordFrame first (some ⟨cmdType, call⟩) with
            pending := state.pending.erase first.tag
            reader := .reinserting first.tag ⟨cmdType, call⟩ (later.map .ok) }
        have takes : dispatchFrame protocol state first (later.map .ok) = taken := by
          rw [dispatchFrame, if_neg (same ▸ nonzero), found]
          exact if_pos absorbed
        let putBack : State types :=
          { taken.insertSlot first.tag ⟨cmdType, call⟩ with
            reader := .dispatching (later.map .ok) }
        have reinserts : (machine protocol).step taken .readerReinsert = some putBack := by
          simp [machine, step, Action.task, stepReader, taken, putBack]
        rw [takes] at dispatches
        refine .step rfl dispatches (.step rfl reinserts ?_)
        apply induction
        · exact fun other member => tagged other (List.mem_cons_of_mem first member)
        · exact decides
        · rfl
        · simp [putBack, State.insertSlot, same]
        · simp [putBack, taken, State.insertSlot, State.dropWaker, State.recordFrame, empty]
      · rw [if_neg absorbed] at decides
        cases decides
        refine .step rfl dispatches (.here ?_)
        rw [dispatchFrame, if_neg (same ▸ nonzero), found]
        simp [absorbed, State.deliver, State.recordFrame, empty, Oneshot.send,
          Reference.answer_eq_resolve]

theorem written_returns {state registered written : State types} {call : CallId}
    {request : Request} {frames : List Frame} {frame : Frame}
    (reached : (machine protocol).Reachable written)
    (registers : Registered state call request registered)
    (writes : written = registered.setPhase call (.waiting request state.nextTag))
    (reading : state.reader = .reading)
    (tagged : ∀ other ∈ frames, other.tag = state.nextTag)
    (decides : Reference.decisive protocol request.typeId frames = some frame) :
    (machine protocol).CanReach (Action.Passes call) written fun final =>
      final.calls call = .returned request (some state.nextTag)
        (.ok (Reference.answer protocol request.typeId frame)) ∧
      ∀ other, other ≠ call → final.calls other = state.calls other := by
  have entry : written.pending.lookup state.nextTag = some ⟨request.typeId, call⟩ := by
    rw [writes]
    exact registers.entry
  have empty : written.channels call = .empty :=
    (channeled_of_reachable reached).unsent _ _ (.inl entry)
  have nonzero : state.nextTag ≠ 0 := by
    intro zero
    rw [zero] at entry
    exact not_holds_zero reached _ (.inl entry)
  let fed : State types := { written with reader := .dispatching (frames.map .ok) }
  have reads : (machine protocol).step written (.readerRead (frames.map .ok)) = some fed := by
    have same : written.reader = .reading := by
      rw [writes]
      exact registers.reader.trans reading
    simp [machine, step, Action.task, stepReader, same, fed]
  have current : fed.reader = .dispatching (frames.map .ok) := rfl
  have answers := (reader_answers nonzero tagged decides current entry empty).keeping
    (fun current => current.calls = written.calls) rfl
    fun current action next isReader same stepped =>
      (reader_keeps_calls isReader stepped).trans same
  apply Machine.CanReach.step (.of_reader rfl) reads
  apply (answers.weaken (fun _ isReader => .of_reader isReader) fun _ holds => holds).bind
  rintro answered ⟨filled, sameCalls⟩
  have waiting : answered.calls call = .waiting request state.nextTag := by
    rw [sameCalls, writes]
    exact Function.update_self _ _ _
  have receives : (machine protocol).step answered (.receive call) =
      some (answered.setPhase call (.returned request (some state.nextTag)
        (.ok (Reference.answer protocol request.typeId frame)))) := by
    simp [machine, step, Action.task, stepCall, waiting, filled]
  have passes : (Action.receive call).Passes call := ⟨.inl rfl, by simp⟩
  refine .step passes receives (.here ⟨Function.update_self _ _ _, ?_⟩)
  intro other different
  rw [← registers.others other different]
  simp [State.setPhase, different, sameCalls, writes]

theorem reader_settles_quietly {state : State types} (call : CallId)
    (reached : (machine protocol).Reachable state) (opened : state.closed = false)
    (looping : state.reader.inLoop = true) :
    (machine protocol).CanReach (Action.Passes call) state fun settled =>
      settled.reader = .reading ∧ (machine protocol).Reachable settled ∧
        settled.closed = false ∧ settled.nextTag = state.nextTag ∧
        settled.calls = state.calls := by
  have settles := (@reader_settles _ protocol state opened looping).keeping
    (fun current => (machine protocol).Reachable current ∧ current.closed = false ∧
      current.nextTag = state.nextTag ∧ current.calls = state.calls)
    ⟨reached, opened, rfl, rfl⟩ ?_
  · exact settles.weaken (fun _ isReader => .of_reader isReader) fun _ holds => holds
  · rintro current action next isReader ⟨reachedCurrent, flag, tag, calls⟩ stepped
    have transition := transition_of_step protocol stepped
    have untouched : action.task ≠ .close := by
      rw [isReader]
      simp
    refine ⟨.step reachedCurrent trivial stepped,
      (transition.keeps_flags untouched).1.trans flag, ?_,
      (reader_keeps_calls isReader stepped).trans calls⟩
    rcases transition.counter with ⟨_, _, unmoved⟩ | ⟨allocates, _, _⟩
    · exact unmoved.trans tag
    · cases action with
      | allocTag => cases isReader
      | _ => cases allocates

/-- With nobody at the mutex, nobody else has to move. -/
theorem answered_when_free {wired : Wired types} {call : CallId} {request : Request}
    {wire : List UInt8} {frames : List Frame} {frame : Frame} (queue : List CallId)
    (free : wired.queue = []) (alive : call ∉ wired.dropped)
    (reached : (machine protocol).Reachable wired.session)
    (opened : wired.session.closed = false)
    (looping : wired.session.reader.inLoop = true) (idle : wired.session.calls call = .idle)
    (encodes : protocol.encodeFrame request.typeId wired.session.nextTag request.payload =
      .ok wire)
    (tagged : ∀ other ∈ frames, other.tag = wired.session.nextTag)
    (decides : Reference.decisive protocol request.typeId frames = some frame) :
    (wiredMachine protocol).CanReach (Helps queue call) wired fun final =>
      final.session.calls call = .returned request (some wired.session.nextTag)
        (.ok (Reference.answer protocol request.typeId frame)) ∧
      ∀ other, other ≠ call → final.session.calls other = wired.session.calls other := by
  -- Frames the reader has already read may carry the tag the command is about to get, so
  -- they are dispatched before the command registers.
  apply (canReach_wired wired alive (reader_settles_quietly call reached opened looping)).bind
  rintro _ ⟨settled, rfl, reading, reachedSettled, settledOpen, sameTag, sameCalls⟩
  rw [← sameTag] at encodes tagged ⊢
  rw [← sameCalls] at idle ⊢
  rcases @run_registration _ protocol _ _ request idle settledOpen with ⟨next, ran, registers⟩
  have registration : (machine protocol).CanReach (Action.Passes call) settled
      (fun current => current = next) := ⟨_, next, registration_passes, ran, rfl⟩
  apply (canReach_wired { wired with session := settled } alive registration).bind
  rintro _ ⟨registered, rfl, rfl⟩
  let locking : Wired types := { wired with session := registered }
  let written := registered.setPhase call (.waiting request settled.nextTag)
  have writes : (wiredMachine protocol).run locking [.lock call, .step (.write call none)] =
      some { locking with session := written } :=
    run_write free alive registers.writing encodes
  have wrote : (machine protocol).step registered (.write call none) = some written := by
    simp [machine, step, Action.task, stepCall, registers.writing, encodes, written]
  have reachedWritten : (machine protocol).Reachable written :=
    .step (reachedSettled.run ran) trivial wrote
  have write : (wiredMachine protocol).CanReach (Helps queue call) locking
      (fun current => current = { locking with session := written }) :=
    ⟨_, _, by simp [Helps], writes, rfl⟩
  apply write.bind
  rintro _ rfl
  have returns := written_returns reachedWritten registers rfl reading tagged decides
  apply (canReach_wired { locking with session := written } alive returns).weaken
    (fun _ helps => helps)
  rintro _ ⟨final, rfl, answered, others⟩
  exact ⟨answered, others⟩

/-- A session never wedges. Whatever has happened to it and whichever calls were dropped,
while it is open and its reader is in its loop, a new command whose frame encodes is
answered with what the device's decisive frame says. Of all other calls only those at the
mutex of the writer have to move, and they only write their frames. -/
theorem session_never_wedges {wired : Wired types} {call : CallId} {request : Request}
    {wire : List UInt8} {frames : List Frame} {frame : Frame}
    (reached : (wiredMachine protocol).Reachable wired) (opened : wired.session.closed = false)
    (looping : wired.session.reader.inLoop = true) (idle : wired.session.calls call = .idle)
    (encodes : protocol.encodeFrame request.typeId wired.session.nextTag request.payload =
      .ok wire)
    (tagged : ∀ other ∈ frames, other.tag = wired.session.nextTag)
    (decides : Reference.decisive protocol request.typeId frames = some frame) :
    (wiredMachine protocol).CanReach (Helps wired.queue call) wired fun final =>
      final.session.calls call = .returned request (some wired.session.nextTag)
        (.ok (Reference.answer protocol request.typeId frame)) ∧
      (∀ other ∈ wired.queue, ∃ begun tag,
        wired.session.calls other = .writing begun tag ∧
          final.session.calls other = .waiting begun tag) ∧
      ∀ other, other ∉ wired.queue → other ≠ call →
        final.session.calls other = wired.session.calls other := by
  have ordered := ordered_of_reachable reached
  have flushes := run_flush ordered
  have alive : call ∉ wired.dropped := fun dropped => ordered.begun call dropped idle
  have outside : call ∉ wired.queue := by
    intro member
    rcases atWriter_iff.mp (ordered.queued call member).1 with ⟨_, _, _, writing, _⟩
    cases idle.symm.trans writing
  have flush : (wiredMachine protocol).CanReach (Helps wired.queue call) wired
      fun current => current = wired.flushed := by
    refine ⟨_, wired.flushed, ?_, flushes, rfl⟩
    intro action member
    rcases List.mem_map.mp member with ⟨other, among, rfl⟩
    exact .inr ⟨among, rfl⟩
  apply flush.bind
  rintro _ rfl
  have still : wired.flushed.session.calls call = .idle := by
    simp [Wired.flushed, outside, idle]
  have answers := answered_when_free wired.queue (rfl : wired.flushed.queue = []) alive
    (reachable_of_wired (reached.run flushes)) opened looping still encodes tagged decides
  apply answers.weaken (fun _ helps => helps)
  rintro final ⟨answered, others⟩
  refine ⟨answered, ?_, ?_⟩
  · intro other member
    rcases atWriter_iff.mp (ordered.queued other member).1 with ⟨begun, tag, _, writing, _⟩
    have different : other ≠ call := by
      rintro rfl
      exact outside member
    refine ⟨begun, tag, writing, ?_⟩
    rw [others other different]
    simp [Wired.flushed, member, writing, Phase.written]
  · intro other absent different
    rw [others other different]
    simp [Wired.flushed, absent]

def queuedBehind : List WiredAction :=
  (registration 0 ⟨1, []⟩).map .step ++ .lock 0 :: (registration 1 ⟨1, []⟩).map .step ++
    [.lock 1, .drop 0]

theorem session_never_wedges_queuedBehind :
    ∃ wired, (wiredMachine Protocol.sample).run (wiredMachine Protocol.sample).initial
        queuedBehind = some wired ∧ wired.queue = [1] ∧ wired.dropped = [0] ∧
      (wiredMachine Protocol.sample).CanReach (Helps [1] 2) wired fun final =>
        final.session.calls 2 =
          .returned ⟨4, [0, 7]⟩ (some 3) (.ok (.txDone ⟨.transmitted, 9⟩)) ∧
        final.session.calls 1 = .waiting ⟨1, []⟩ 2 ∧
        final.session.calls 0 = .writing ⟨1, []⟩ 1 := by
  have ran : ∃ wired, (wiredMachine Protocol.sample).run
      (wiredMachine Protocol.sample).initial queuedBehind = some wired ∧
      wired.queue = [1] ∧ wired.dropped = [0] ∧
      wired.session.closed = false ∧ wired.session.reader.inLoop = true ∧
      wired.session.calls 2 = .idle ∧ wired.session.nextTag = 3 ∧
      wired.session.calls 0 = .writing ⟨1, []⟩ 1 ∧
      wired.session.calls 1 = .writing ⟨1, []⟩ 2 :=
    ⟨_, rfl, rfl, rfl, rfl, rfl, rfl, rfl, rfl, rfl⟩
  rcases ran with ⟨wired, ran, queue, dropped, opened, looping, idle, three, zeroth, first⟩
  refine ⟨wired, ran, queue, dropped, ?_⟩
  have wire : Protocol.sample.encodeFrame 4 3 [0, 7] = .ok [4, 3, 0, 0, 7, 0] := rfl
  have decides : Reference.decisive Protocol.sample 4
      [⟨128, 3, []⟩, ⟨193, 3, [0, 9, 0, 0, 0]⟩] = some ⟨193, 3, [0, 9, 0, 0, 0]⟩ := rfl
  have reaches := @session_never_wedges _ Protocol.sample wired 2 ⟨4, [0, 7]⟩ _ _ _
    (.run .initial ran) opened looping idle (three ▸ wire) (by simp [three]) decides
  rw [three, queue] at reaches
  apply reaches.weaken (fun _ helps => helps)
  rintro final ⟨answered, written, others⟩
  refine ⟨answered, ?_, ?_⟩
  · rcases written 1 (by simp) with ⟨begun, tag, before, after⟩
    cases first.symm.trans before
    exact after
  · rw [others 0 (by simp) (by simp)]
    exact zeroth

end DongloraClient.Session
