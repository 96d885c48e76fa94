import DongloraClient.Session.Machine

/-! # Everything a session step can do

The step function inverted once: `Transition` lists the possible effects of an
action, and the invariants are proved against it. Steps that only move one call
from one phase to the next are gathered in `Advance`.
-/

namespace DongloraClient.Session

variable {types : WireTypes}

/-! ## Channels -/

theorem Oneshot.dropSender_eq_filled {Value : Type} {channel : Oneshot Value}
    {value : Value} : channel.dropSender = .filled value ↔ channel = .filled value := by
  cases channel <;> simp [Oneshot.dropSender]

theorem Oneshot.dropSender_ne_empty {Value : Type} (channel : Oneshot Value) :
    channel.dropSender ≠ .empty := by
  cases channel <;> simp [Oneshot.dropSender]

theorem Oneshot.send_eq_filled {Value : Type} {channel : Oneshot Value}
    {sent value : Value} : channel.send sent = .filled value ↔
      channel = .filled value ∨ (channel = .empty ∧ sent = value) := by
  cases channel <;> simp [Oneshot.send]

theorem Oneshot.send_ne_empty {Value : Type} (channel : Oneshot Value) (sent : Value) :
    channel.send sent ≠ .empty := by
  cases channel <;> simp [Oneshot.send]

/-! ## Lookups in updated maps -/

theorem lookup_insert_eq_some {map : PendingMap} {key tag : UInt16} {value slot : Pending} :
    (map.insert key value).lookup tag = some slot ↔
      (tag = key ∧ slot = value) ∨ (tag ≠ key ∧ map.lookup tag = some slot) := by
  by_cases same : tag = key
  · subst same
    simp [AList.lookup_insert, eq_comm]
  · simp [AList.lookup_insert_ne same, same]

theorem lookup_erase_eq_some {map : PendingMap} {key tag : UInt16} {slot : Pending} :
    (map.erase key).lookup tag = some slot ↔
      tag ≠ key ∧ map.lookup tag = some slot := by
  by_cases same : tag = key
  · subst same
    simp
  · simp [AList.lookup_erase_ne same, same]

/-! ## Fields of updated states -/

namespace State

variable (state : State types)

@[simp] theorem dropWaker_pending (slot : Option Pending) :
    (state.dropWaker slot).pending = state.pending := by cases slot <;> rfl

@[simp] theorem dropWaker_calls (slot : Option Pending) :
    (state.dropWaker slot).calls = state.calls := by cases slot <;> rfl

@[simp] theorem dropWaker_closed (slot : Option Pending) :
    (state.dropWaker slot).closed = state.closed := by cases slot <;> rfl

@[simp] theorem dropWaker_reader (slot : Option Pending) :
    (state.dropWaker slot).reader = state.reader := by cases slot <;> rfl

@[simp] theorem dropWaker_aborted (slot : Option Pending) :
    (state.dropWaker slot).aborted = state.aborted := by cases slot <;> rfl

@[simp] theorem dropWaker_queues (slot : Option Pending) :
    (state.dropWaker slot).queues = state.queues := by cases slot <;> rfl

@[simp] theorem dropWaker_closer (slot : Option Pending) :
    (state.dropWaker slot).closer = state.closer := by cases slot <;> rfl

@[simp] theorem dropWaker_nextTag (slot : Option Pending) :
    (state.dropWaker slot).nextTag = state.nextTag := by cases slot <;> rfl

@[simp] theorem dropWaker_serial (slot : Option Pending) :
    (state.dropWaker slot).serial = state.serial := by cases slot <;> rfl

@[simp] theorem dropWaker_history (slot : Option Pending) :
    (state.dropWaker slot).history = state.history := by cases slot <;> rfl

theorem dropWaker_channels (slot : Option Pending) (call : CallId) :
    (state.dropWaker slot).channels call =
      if slot.map Pending.waker = some call then (state.channels call).dropSender
      else state.channels call := by
  cases slot with
  | none => rfl
  | some slot =>
      by_cases own : slot.waker = call
      · subst own
        simp [dropWaker]
      · simp [dropWaker, own, Function.update_of_ne (Ne.symm own)]

end State

/-! ## Transitions -/

variable (protocol : Protocol types)

/-- A step that changes nothing but the phase of one call. -/
inductive Advance (state : State types) (call : CallId) :
    Action → Phase types → Phase types → Prop
  | refuse (request : Request) (closed : state.closed = true) :
      Advance state call (.begin call request) .idle
        (.returned request none (.error (.transportClosed "session closed")))
  | accept (request : Request) (opened : state.closed = false) :
      Advance state call (.begin call request) .idle (.opened request)
  | encodeFails {request : Request} {tag : UInt16} {failure : Option String}
      {reason : String}
      (encoded : protocol.encodeFrame request.typeId tag request.payload = .error reason) :
      Advance state call (.write call failure) (.writing request tag)
        (.cleaning request tag (.encodeFailed reason))
  | writeFails {request : Request} {tag : UInt16} {wire : List UInt8} {text : String}
      (encoded : protocol.encodeFrame request.typeId tag request.payload = .ok wire) :
      Advance state call (.write call (some text)) (.writing request tag)
        (.cleaning request tag (.io text))
  | written {request : Request} {tag : UInt16} {wire : List UInt8}
      (encoded : protocol.encodeFrame request.typeId tag request.payload = .ok wire) :
      Advance state call (.write call none) (.writing request tag)
        (.waiting request tag)
  | received {request : Request} {tag : UInt16} (response : SessionResponse types)
      (filled : state.channels call = .filled response) :
      Advance state call (.receive call) (.waiting request tag)
        (.returned request (some tag) (.ok response))
  | abandoned {request : Request} {tag : UInt16}
      (dropped : state.channels call = .senderDropped) :
      Advance state call (.senderGone call) (.waiting request tag)
        (.cleaning request tag .readerExited)
  | expired {request : Request} {tag : UInt16}
      (empty : state.channels call = .empty) :
      Advance state call (.timeout call) (.waiting request tag)
        (.cleaning request tag (.timeout (describeCmd protocol request.typeId)))

/-- A step that changes nothing but where the reader stands. -/
inductive ReaderMove (state : State types) : Action → ReaderPhase → ReaderPhase → Prop
  | check :
      ReaderMove state .readerCheck .checking
        (if state.closed then .leaving else .reading)
  | read (works : List FrameWork) :
      ReaderMove state (.readerRead works) .reading (.dispatching works)
  | leave : ReaderMove state .readerLeave .reading .leaving
  | turn : ReaderMove state .readerDispatch (.dispatching []) .checking

inductive Transition (state : State types) : Action → State types → Prop
  | advance {action : Action} (call : CallId) {before after : Phase types}
      (current : state.calls call = before)
      (advances : Advance protocol state call action before after) :
      Transition state action (state.setPhase call after)
  | allocTag (call : CallId) {request : Request}
      (current : state.calls call = .opened request) :
      Transition state (.allocTag call)
        { state.setPhase call (.tagged request state.nextTag) with
          nextTag := advanceTag state.nextTag }
  | register (call : CallId) {request : Request} {tag : UInt16}
      (current : state.calls call = .tagged request tag) :
      Transition state (.register call)
        (((state.insertSlot tag ⟨request.typeId, call⟩).setPhase call
          (.writing request tag)).record (.registered call tag request.typeId))
  | cleanup (call : CallId) {request : Request} {tag : UInt16} {error : ClientError}
      (current : state.calls call = .cleaning request tag error) :
      Transition state (.cleanup call)
        ((state.removeSlot tag).setPhase call
          (.returned request (some tag) (.error error)))
  | readerMoves {action : Action} {before after : ReaderPhase}
      (current : state.reader = before)
      (moves : ReaderMove state action before after) :
      Transition state action { state with reader := after }
  | corrupt {works : List FrameWork}
      (current : state.reader = .dispatching (.frame :: works)) :
      Transition state .readerDispatch
        { state with
          queues := state.queues.sendAsyncError
            (.badFrame "inbound frame failed CRC or COBS")
          reader := .dispatching works }
  | unanswered {frame : Frame} {works : List FrameWork}
      (current : state.reader = .dispatching (.ok frame :: works))
      (nobody : frame.tag = 0 ∨ state.pending.lookup frame.tag = none) :
      Transition state .readerDispatch
        { state.recordFrame frame none with
          queues := if frame.tag = 0 then
              dispatchAsync protocol frame.typeId frame.payload state.queues
            else state.queues
          reader := .dispatching works }
  | absorbed {frame : Frame} {works : List FrameWork} {slot : Pending}
      (current : state.reader = .dispatching (.ok frame :: works))
      (nonzero : frame.tag ≠ 0)
      (found : state.pending.lookup frame.tag = some slot)
      (absorbs : absorbs protocol slot.cmdType frame.typeId = true) :
      Transition state .readerDispatch
        { state.recordFrame frame (some slot) with
          pending := state.pending.erase frame.tag
          reader := .reinserting frame.tag slot works }
  | resolved {frame : Frame} {works : List FrameWork} {slot : Pending}
      (current : state.reader = .dispatching (.ok frame :: works))
      (nonzero : frame.tag ≠ 0)
      (found : state.pending.lookup frame.tag = some slot)
      (resolves : Session.absorbs protocol slot.cmdType frame.typeId = false) :
      Transition state .readerDispatch
        { State.deliver { state.recordFrame frame (some slot) with
              pending := state.pending.erase frame.tag }
            slot.waker (resolve protocol slot.cmdType frame.typeId frame.payload)
            (.frame state.serial) with
          reader := .dispatching works }
  | reinsert {tag : UInt16} {slot : Pending} {works : List FrameWork}
      (current : state.reader = .reinserting tag slot works) :
      Transition state .readerReinsert
        { state.insertSlot tag slot with reader := .dispatching works }
  | readerDrain (current : state.reader = .leaving) :
      Transition state .readerDrain
        { state.drain "reader exited" with reader := .exited }
  | readerStop (aborted : state.aborted = true)
      (running : state.reader ≠ .exited ∧ state.reader ≠ .stopped) :
      Transition state .readerStop
        { state.dropWaker (state.reader.hand.map Prod.snd) with reader := .stopped }
  | closeStore (current : state.closer = .idle) :
      Transition state .closeStore { state with closed := true, closer := .stored }
  | closeDrain (current : state.closer = .stored) :
      Transition state .closeDrain
        { state.drain "session closed" with closer := .drained }
  | closeAbort (current : state.closer = .drained) :
      Transition state .closeAbort { state with aborted := true, closer := .done }

theorem transition_of_stepCall {state next : State types} {action : Action}
    (stepped : stepCall protocol state action = some next) :
    Transition protocol state action next := by
  cases action with
  | begin call request =>
      simp only [stepCall] at stepped
      split at stepped
      · next current =>
        split at stepped
        · next closed =>
          cases stepped
          exact .advance call current (.refuse request closed)
        · next opened =>
          cases stepped
          exact .advance call current (.accept request (by simpa using opened))
      · cases stepped
  | allocTag call =>
      simp only [stepCall] at stepped
      split at stepped
      · next current =>
        cases stepped
        exact .allocTag call current
      · cases stepped
  | register call =>
      simp only [stepCall] at stepped
      split at stepped
      · next current =>
        cases stepped
        exact .register call current
      · cases stepped
  | write call failure =>
      simp only [stepCall] at stepped
      split at stepped
      · next current =>
        split at stepped
        · next encoded =>
          cases stepped
          exact .advance call current (.encodeFails encoded)
        · next encoded =>
          cases stepped
          exact .advance call current (.writeFails encoded)
        · next encoded =>
          cases stepped
          exact .advance call current (.written encoded)
      · cases stepped
  | receive call =>
      simp only [stepCall] at stepped
      split at stepped
      · next current filled =>
        cases stepped
        exact .advance call current (.received _ filled)
      · cases stepped
  | senderGone call =>
      simp only [stepCall] at stepped
      split at stepped
      · next current dropped =>
        cases stepped
        exact .advance call current (.abandoned dropped)
      · cases stepped
  | timeout call =>
      simp only [stepCall] at stepped
      split at stepped
      · next current empty =>
        cases stepped
        exact .advance call current (.expired empty)
      · cases stepped
  | cleanup call =>
      simp only [stepCall] at stepped
      split at stepped
      · next current =>
        cases stepped
        exact .cleanup call current
      · cases stepped
  | _ => cases stepped

theorem transition_of_dispatchFrame {state : State types} {frame : Frame}
    {works : List FrameWork}
    (current : state.reader = .dispatching (.ok frame :: works)) :
    Transition protocol state .readerDispatch
      (dispatchFrame protocol state frame works) := by
  rw [dispatchFrame]
  split
  · next zero =>
    have unanswered := @Transition.unanswered _ protocol _ _ _ current (.inl zero)
    rw [if_pos zero] at unanswered
    exact unanswered
  · next nonzero =>
    split
    · next absent =>
      have unanswered := @Transition.unanswered _ protocol _ _ _ current (.inr absent)
      rw [if_neg nonzero] at unanswered
      exact unanswered
    · next slot found =>
      cases absorbed : absorbs protocol slot.cmdType frame.typeId with
      | true => exact .absorbed current nonzero found absorbed
      | false => exact .resolved current nonzero found absorbed

theorem transition_of_stepReader {state next : State types} {action : Action}
    (stepped : stepReader protocol state action = some next) :
    Transition protocol state action next := by
  cases action with
  | readerCheck =>
      simp only [stepReader] at stepped
      split at stepped
      · next current =>
        cases stepped
        exact .readerMoves current .check
      · cases stepped
  | readerRead works =>
      simp only [stepReader] at stepped
      split at stepped
      · next current =>
        cases stepped
        exact .readerMoves current (.read works)
      · cases stepped
  | readerLeave =>
      simp only [stepReader] at stepped
      split at stepped
      · next current =>
        cases stepped
        exact .readerMoves current .leave
      · cases stepped
  | readerDispatch =>
      simp only [stepReader] at stepped
      split at stepped
      · next current =>
        cases stepped
        exact .readerMoves current .turn
      · next current =>
        cases stepped
        exact .corrupt current
      · next current =>
        cases stepped
        exact transition_of_dispatchFrame protocol current
      · cases stepped
  | readerReinsert =>
      simp only [stepReader] at stepped
      split at stepped
      · next current =>
        cases stepped
        exact .reinsert current
      · cases stepped
  | readerDrain =>
      simp only [stepReader] at stepped
      split at stepped
      · next current =>
        cases stepped
        exact .readerDrain current
      · cases stepped
  | readerStop =>
      simp only [stepReader] at stepped
      split at stepped
      · next stops =>
        cases stepped
        rw [Bool.and_eq_true] at stops
        refine .readerStop stops.1 ⟨?_, ?_⟩ <;> intro gone <;>
          simp [gone, ReaderPhase.atAwait] at stops
      · cases stepped
  | _ => cases stepped

theorem transition_of_stepClose {state next : State types} {action : Action}
    (stepped : stepClose state action = some next) :
    Transition protocol state action next := by
  cases action with
  | closeStore =>
      simp only [stepClose] at stepped
      split at stepped
      · next current =>
        cases stepped
        exact .closeStore current
      · cases stepped
  | closeDrain =>
      simp only [stepClose] at stepped
      split at stepped
      · next current =>
        cases stepped
        exact .closeDrain current
      · cases stepped
  | closeAbort =>
      simp only [stepClose] at stepped
      split at stepped
      · next current =>
        cases stepped
        exact .closeAbort current
      · cases stepped
  | _ => cases stepped

/-- Every enabled step is one of the listed transitions. -/
theorem transition_of_step {state next : State types} {action : Action}
    (stepped : (machine protocol).step state action = some next) :
    Transition protocol state action next := by
  change step protocol state action = some next at stepped
  rw [step] at stepped
  split at stepped
  · exact transition_of_stepCall protocol stepped
  · exact transition_of_stepReader protocol stepped
  · exact transition_of_stepClose protocol stepped

/-! ## One call -/

inductive CallStep (state next : State types) (call : CallId) : Action → Prop
  | keeps {action : Action} (same : next.calls call = state.calls call) :
      CallStep state next call action
  | advance {action : Action} {before after : Phase types}
      (current : state.calls call = before) (reached : next.calls call = after)
      (advances : Advance protocol state call action before after) :
      CallStep state next call action
  | allocTag {request : Request} (current : state.calls call = .opened request)
      (reached : next.calls call = .tagged request state.nextTag) :
      CallStep state next call (.allocTag call)
  | register {request : Request} {tag : UInt16}
      (current : state.calls call = .tagged request tag)
      (reached : next.calls call = .writing request tag)
      (inserted : next.pending.lookup tag = some ⟨request.typeId, call⟩)
      (recorded : .registered call tag request.typeId ∈ next.history) :
      CallStep state next call (.register call)
  | cleanup {request : Request} {tag : UInt16} {error : ClientError}
      (current : state.calls call = .cleaning request tag error)
      (reached : next.calls call = .returned request (some tag) (.error error)) :
      CallStep state next call (.cleanup call)

variable {protocol}

theorem Transition.callStep {state next : State types} {action : Action}
    (transition : Transition protocol state action next) (call : CallId) :
    CallStep protocol state next call action := by
  cases transition with
  | advance other current advances =>
      by_cases own : call = other
      · subst own
        exact .advance current (Function.update_self _ _ _) advances
      · exact .keeps (Function.update_of_ne own _ _)
  | allocTag other current =>
      by_cases own : call = other
      · subst own
        exact .allocTag current (Function.update_self _ _ _)
      · exact .keeps (Function.update_of_ne own _ _)
  | register other current =>
      by_cases own : call = other
      · subst own
        exact .register current (Function.update_self _ _ _) (AList.lookup_insert _)
          List.mem_cons_self
      · exact .keeps (by simp [State.record, State.setPhase, State.insertSlot, own])
  | cleanup other current =>
      by_cases own : call = other
      · subst own
        exact .cleanup current (Function.update_self _ _ _)
      · exact .keeps (by simp [State.setPhase, State.removeSlot, own])
  | reinsert | readerStop => exact .keeps (by simp [State.insertSlot])
  | _ => exact .keeps rfl

/-! ## What other tasks leave alone -/

theorem Transition.keeps_call {state next : State types} {action : Action} {call : CallId}
    (transition : Transition protocol state action next) (other : action.task ≠ .call call) :
    next.calls call = state.calls call := by
  cases transition.callStep call with
  | keeps same => exact same
  | advance _ _ advances => cases advances <;> exact absurd rfl other
  | allocTag | register | cleanup => exact absurd rfl other

theorem Transition.keeps_reader {state next : State types} {action : Action}
    (transition : Transition protocol state action next) (other : action.task ≠ .reader) :
    next.reader = state.reader ∧ next.queues = state.queues := by
  cases transition with
  | readerMoves _ moves => cases moves <;> exact absurd rfl other
  | corrupt | unanswered | absorbed | resolved | reinsert | readerDrain | readerStop =>
      exact absurd rfl other
  | register => simp [State.record, State.setPhase, State.insertSlot]
  | cleanup => simp [State.setPhase, State.removeSlot]
  | _ => exact ⟨rfl, rfl⟩

theorem Transition.keeps_flags {state next : State types} {action : Action}
    (transition : Transition protocol state action next) (other : action.task ≠ .close) :
    next.closed = state.closed ∧ next.aborted = state.aborted := by
  cases transition with
  | closeStore | closeDrain | closeAbort => exact absurd rfl other
  | register | reinsert => simp [State.record, State.setPhase, State.insertSlot]
  | cleanup => simp [State.setPhase, State.removeSlot]
  | readerStop => simp
  | _ => exact ⟨rfl, rfl⟩

theorem Transition.keeps_closer {state next : State types} {action : Action}
    (transition : Transition protocol state action next) (other : action.task ≠ .close) :
    next.closer = state.closer := by
  cases transition with
  | closeStore | closeDrain | closeAbort => exact absurd rfl other
  | register | reinsert => simp [State.record, State.setPhase, State.insertSlot]
  | cleanup => simp [State.setPhase, State.removeSlot]
  | readerStop => simp
  | _ => rfl

end DongloraClient.Session
