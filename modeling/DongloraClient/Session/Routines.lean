import DongloraClient.Effects
import DongloraClient.Session.Transitions

/-! # The session lock by lock

The same tasks as in the session machine, with every acquisition and release of a
mutex as an access of its own. The guard of a mutex lives as long as the block that
the lock is taken for, so that it is given up on every way out of the block.
-/

namespace DongloraClient.Routines

open Foundation Session

/-! ## Accesses -/

inductive Mutex
  | rxStarted
  | appliedConfig
  | lastWriteAt
  | dongleClosed
  | pending
  | writer
  | rxRx
  | asyncErrRx
  | readerHandle
  deriving DecidableEq, Repr

inductive Awaited (types : WireTypes)
  | answered (response : SessionResponse types)
  | senderGone
  | elapsed

/-- What a task does between two steps of other tasks. `own` is an effect that has
nothing to do with the session. -/
inductive Access (types : WireTypes)
  | lock (mutex : Mutex)
  | unlock (mutex : Mutex)
  | own (effect : Effect types)
  | loadClosed
  | storeClosed
  | allocTag
  | channel
  | insertSlot (tag : UInt16) (slot : Pending)
  | removeSlot (tag : UInt16)
  | takeSlots
  | writeAll (wire : List UInt8)
  | flush
  | await (call : CallId) (timeout : Duration)
  | wake (call : CallId) (response : SessionResponse types)
  | recv (timeout : Option Duration)
  | tryRecvAll
  | takeHandle
  | abortReader
  | read
  | sendEvent (typeId : UInt8) (payload : List UInt8)
  | sendAsyncError (error : ClientError)

def Access.Answer {types : WireTypes} : Access types → Type
  | .own effect => DongloraClient.Answer effect
  | .loadClosed => Bool
  | .allocTag => UInt16
  | .channel => CallId
  | .removeSlot _ => Option Pending
  | .takeSlots => List Pending
  | .writeAll _ => Except String Unit
  | .flush => Except String Unit
  | .await _ _ => Awaited types
  | .recv _ => Option types.RxPayload
  | .tryRecvAll => List ClientError
  | .takeHandle => Bool
  | .read => Option (List FrameWork)
  | _ => Unit

abbrev Routine (types : WireTypes) := Program (Access types) Access.Answer

variable {types : WireTypes}

def lock (mutex : Mutex) : Routine types Unit := .perform (.lock mutex) .done
def unlock (mutex : Mutex) : Routine types Unit := .perform (.unlock mutex) .done
def loadClosed : Routine types Bool := .perform .loadClosed .done
def storeClosed : Routine types Unit := .perform .storeClosed .done
def allocTag : Routine types UInt16 := .perform .allocTag .done
def channel : Routine types CallId := .perform .channel .done
def insertSlot (tag : UInt16) (slot : Pending) : Routine types Unit :=
  .perform (.insertSlot tag slot) .done
def removeSlot (tag : UInt16) : Routine types (Option Pending) :=
  .perform (.removeSlot tag) .done
def takeSlots : Routine types (List Pending) := .perform .takeSlots .done
def writeAll (wire : List UInt8) : Routine types (Except String Unit) :=
  .perform (.writeAll wire) .done
def flush : Routine types (Except String Unit) := .perform .flush .done
def await (call : CallId) (timeout : Duration) : Routine types (Awaited types) :=
  .perform (.await call timeout) .done
def wake (call : CallId) (response : SessionResponse types) : Routine types Unit :=
  .perform (.wake call response) .done
def recv (timeout : Option Duration) : Routine types (Option types.RxPayload) :=
  .perform (.recv timeout) .done
def tryRecvAll : Routine types (List ClientError) := .perform .tryRecvAll .done
def takeHandle : Routine types Bool := .perform .takeHandle .done
def abortReader : Routine types Unit := .perform .abortReader .done
def read : Routine types (Option (List FrameWork)) := .perform .read .done
def sendEvent (typeId : UInt8) (payload : List UInt8) : Routine types Unit :=
  .perform (.sendEvent typeId payload) .done
def sendAsyncError (error : ClientError) : Routine types Unit :=
  .perform (.sendAsyncError error) .done

def guarded {Result : Type} (mutex : Mutex) (block : Routine types Result) :
    Routine types Result := do
  lock mutex
  let result ← block
  unlock mutex
  return result

/-! ## Commands -/

variable (protocol : Protocol types)

/-- A frame that cannot be encoded never gets to the lock. -/
def writeFrame (typeId : UInt8) (tag : UInt16) (payload : List UInt8) :
    Routine types (ClientResult Unit) :=
  match protocol.encodeFrame typeId tag payload with
  | .error reason => return .error (.encodeFailed reason)
  | .ok wire => guarded .writer do
      match ← writeAll wire with
      | .error text => return .error (.io text)
      | .ok () =>
          match ← flush with
          | .error text => return .error (.io text)
          | .ok () => return .ok ()

/-- The three ways in which `send_command` takes its slot out again. -/
def giveUp (tag : UInt16) (error : ClientError) :
    Routine types (ClientResult (SessionResponse types)) := do
  let _ ← guarded .pending (removeSlot tag)
  return .error error

def awaitAnswer (request : Request) (timeout : Duration) (tag : UInt16) (call : CallId) :
    Routine types (ClientResult (SessionResponse types)) := do
  match ← await call timeout with
  | .answered response => return .ok response
  | .senderGone => giveUp tag .readerExited
  | .elapsed => giveUp tag (.timeout (describeCmd protocol request.typeId))

def writeAndAwait (request : Request) (timeout : Duration) (tag : UInt16) (call : CallId) :
    Routine types (ClientResult (SessionResponse types)) := do
  match ← writeFrame protocol request.typeId tag request.payload with
  | .error error => giveUp tag error
  | .ok () => awaitAnswer protocol request timeout tag call

def sendTagged (request : Request) (timeout : Duration) (tag : UInt16) :
    Routine types (ClientResult (SessionResponse types)) := do
  let call ← channel
  guarded .pending (insertSlot tag ⟨request.typeId, call⟩)
  writeAndAwait protocol request timeout tag call

def sendOpened (request : Request) (timeout : Duration) :
    Routine types (ClientResult (SessionResponse types)) := do
  let tag ← allocTag
  sendTagged protocol request timeout tag

def sendCommand (request : Request) (timeout : Duration) :
    Routine types (ClientResult (SessionResponse types)) := do
  let closed ← loadClosed
  if closed then
    return .error (.transportClosed "session closed")
  else
    sendOpened protocol request timeout

/-! ## Events -/

def recvRx (timeout : Duration) : Routine types (Option types.RxPayload) :=
  guarded .rxRx (recv (some timeout))

def nextRx : Routine types (Option types.RxPayload) := guarded .rxRx (recv none)

def drainAsyncErrors : Routine types (List ClientError) := guarded .asyncErrRx tryRecvAll

/-! ## Close -/

def wakeAll (reason : String) : List Pending → Routine types Unit
  | [] => return ()
  | slot :: slots => do
      wake slot.waker (.err (.transportClosed reason))
      wakeAll reason slots

def stopReader : Routine types Unit := guarded .readerHandle do
  let found ← takeHandle
  if found then
    abortReader
  else
    return ()

def wakePending (reason : String) : Routine types Unit := do
  let slots ← guarded .pending takeSlots
  wakeAll reason slots

def close : Routine types Unit := do
  storeClosed
  wakePending "session closed"
  stopReader

/-! ## The reader -/

/-- The guard of the first access to the map is gone before the second. -/
def dispatch (frame : Frame) : Routine types Unit :=
  if frame.tag = 0 then
    sendEvent frame.typeId frame.payload
  else do
    match ← guarded .pending (removeSlot frame.tag) with
    | none => return ()
    | some slot =>
        if absorbs protocol slot.cmdType frame.typeId then
          guarded .pending (insertSlot frame.tag slot)
        else
          wake slot.waker (resolve protocol slot.cmdType frame.typeId frame.payload)

def dispatchWork : FrameWork → Routine types Unit
  | .ok frame => dispatch protocol frame
  | .frame => sendAsyncError (.badFrame "inbound frame failed CRC or COBS")

def dispatchWorks : List FrameWork → Routine types Unit
  | [] => return ()
  | work :: works => do
      dispatchWork protocol work
      dispatchWorks works

/-- One turn of `reader_loop`, with what follows the loop when the turn ends it. -/
def readerTurn : Routine types Unit := do
  let closed ← loadClosed
  if closed then
    wakePending "reader exited"
  else
    match ← read with
    | none => wakePending "reader exited"
    | some works => dispatchWorks protocol works

/-! ## The session machine

A step of the machine is what one task does up to its next await point. -/

/-- Some accesses, whatever their answers, lead from one routine to what is left of it. -/
abbrev Leads {Result : Type} (routine rest : Routine types Result) : Prop :=
  Program.Runs (fun (_ : Unit) _ _ _ => True) () routine () rest

def remaining (timeout : Duration) (id : CallId) :
    Phase types → Option (Routine types (ClientResult (SessionResponse types)))
  | .idle => none
  | .opened request => some (sendOpened protocol request timeout)
  | .tagged request tag => some (sendTagged protocol request timeout tag)
  | .writing request tag => some (writeAndAwait protocol request timeout tag id)
  | .waiting request tag => some (awaitAnswer protocol request timeout tag id)
  | .cleaning _ tag error => some (giveUp tag error)
  | .returned _ _ result => some (.done result)

def readerRemaining : ReaderPhase → Option (Routine types Unit)
  | .checking => some (readerTurn protocol)
  | .reading => some do
      match ← read with
      | none => wakePending "reader exited"
      | some works => dispatchWorks protocol works
  | .dispatching works => some (dispatchWorks protocol works)
  | .reinserting tag slot works => some do
      guarded .pending (insertSlot tag slot)
      dispatchWorks protocol works
  | .leaving => some (wakePending "reader exited")
  | .exited => some (return ())
  | .stopped => none

section Machine

variable {protocol} {state next : State types} {action : Action} {id : CallId}

theorem leads_perform {Result : Type} {access : Access types}
    {rest : access.Answer → Routine types Result} {last : Routine types Result}
    (answer : access.Answer) (leads : Leads (rest answer) last) :
    Leads (.perform access rest) last :=
  .step trivial leads

abbrev LeadsTo (protocol : Protocol types) (timeout : Duration) (id : CallId)
    (routine : Routine types (ClientResult (SessionResponse types))) (phase : Phase types) :
    Prop :=
  ∃ rest, remaining protocol timeout id phase = some rest ∧ Leads routine rest

theorem leads_begin {timeout : Duration} {request : Request} {before after : Phase types}
    (advances : Advance protocol state id (.begin id request) before after) :
    LeadsTo protocol timeout id (sendCommand protocol request timeout) after := by
  cases advances with
  | refuse _ closed => exact ⟨_, rfl, leads_perform true (.refl _ _)⟩
  | accept _ opened => exact ⟨_, rfl, leads_perform false (.refl _ _)⟩

theorem leads_advance {timeout : Duration} {before after : Phase types}
    {routine : Routine types (ClientResult (SessionResponse types))}
    (advances : Advance protocol state id action before after)
    (known : remaining protocol timeout id before = some routine) :
    LeadsTo protocol timeout id routine after := by
  cases advances with
  | refuse | accept => cases known
  | encodeFails encoded =>
      cases known
      refine ⟨_, rfl, ?_⟩
      rw [writeAndAwait, writeFrame, encoded]
      exact .refl _ _
  | writeFails encoded =>
      cases known
      refine ⟨_, rfl, ?_⟩
      rw [writeAndAwait, writeFrame, encoded]
      exact leads_perform () (leads_perform (.error _) (leads_perform () (.refl _ _)))
  | written encoded =>
      cases known
      refine ⟨_, rfl, ?_⟩
      rw [writeAndAwait, writeFrame, encoded]
      exact leads_perform () (leads_perform (.ok ())
        (leads_perform (.ok ()) (leads_perform () (.refl _ _))))
  | received response filled =>
      cases known
      exact ⟨_, rfl, leads_perform (.answered response) (.refl _ _)⟩
  | abandoned dropped =>
      cases known
      exact ⟨_, rfl, leads_perform .senderGone (.refl _ _)⟩
  | expired empty =>
      cases known
      exact ⟨_, rfl, leads_perform .elapsed (.refl _ _)⟩

/-- A step of the session machine is, for a call, a run of accesses of its routine. -/
theorem leads_call {timeout : Duration}
    {routine : Routine types (ClientResult (SessionResponse types))}
    (transition : Transition protocol state action next)
    (known : remaining protocol timeout id (state.calls id) = some routine) :
    LeadsTo protocol timeout id routine (next.calls id) := by
  cases transition.callStep id with
  | keeps same =>
      rw [same]
      exact ⟨routine, known, .refl _ _⟩
  | advance current reached advances =>
      rw [current] at known
      rw [reached]
      exact leads_advance advances known
  | allocTag current reached =>
      rw [current] at known
      cases known
      rw [reached]
      exact ⟨_, rfl, leads_perform state.nextTag (.refl _ _)⟩
  | register current reached _ _ =>
      rw [current] at known
      cases known
      rw [reached]
      exact ⟨_, rfl, leads_perform id (leads_perform () (leads_perform () (leads_perform ()
        (.refl _ _))))⟩
  | cleanup current reached =>
      rw [current] at known
      cases known
      rw [reached]
      exact ⟨_, rfl, leads_perform () (leads_perform none (leads_perform () (.refl _ _)))⟩

theorem leads_of_run {timeout : Duration}
    {routine : Routine types (ClientResult (SessionResponse types))} {actions : List Action}
    (known : remaining protocol timeout id (state.calls id) = some routine)
    (ran : (machine protocol).run state actions = some next) :
    LeadsTo protocol timeout id routine (next.calls id) := by
  induction actions generalizing state routine with
  | nil =>
      cases ran
      exact ⟨routine, known, .refl _ _⟩
  | cons action actions induction =>
      rw [Machine.run_cons, Option.bind_eq_some_iff] at ran
      rcases ran with ⟨middle, stepped, rest⟩
      rcases leads_call (transition_of_step protocol stepped) known with ⟨later, after, leads⟩
      rcases induction after rest with ⟨last, final, leadsOn⟩
      exact ⟨last, final, leads.trans leadsOn⟩

/-- Whatever a call returns in a run of the session machine, its routine returns. -/
theorem leads_of_returned {request begun : Request} {tag : Option UInt16}
    {result : ClientResult (SessionResponse types)} {actions : List Action}
    (timeout : Duration)
    (ran : (machine protocol).run state (.begin id request :: actions) = some next)
    (returned : next.calls id = .returned begun tag result) :
    Leads (sendCommand protocol request timeout) (.done result) := by
  rw [Machine.run_cons, Option.bind_eq_some_iff] at ran
  rcases ran with ⟨middle, stepped, rest⟩
  cases transition_of_step protocol stepped with
  | @advance _ call _ after current advances =>
      have same : id = call := by cases advances <;> rfl
      subst same
      have starting : LeadsTo protocol timeout id (sendCommand protocol request timeout) after :=
        leads_begin advances
      rcases starting with ⟨first, known, begins⟩
      have middleKnown : remaining protocol timeout id ((state.setPhase id after).calls id) =
          some first := by
        simp only [State.setPhase, Function.update_self]
        exact known
      rcases leads_of_run middleKnown rest with ⟨last, final, leads⟩
      rw [returned] at final
      cases final
      exact begins.trans leads
  | readerMoves current moves => cases moves

/-! ### The reader -/

theorem leads_wakeAll (reason : String) (slots : List Pending) :
    Leads (wakeAll reason slots : Routine types Unit) (.done ()) := by
  induction slots with
  | nil => exact .refl _ _
  | cons slot slots induction => exact leads_perform () induction

theorem leads_wakePending (reason : String) (slots : List Pending) :
    Leads (wakePending reason : Routine types Unit) (.done ()) :=
  leads_perform () (leads_perform slots (leads_perform () (leads_wakeAll reason slots)))

theorem leads_dispatch {works : List FrameWork} {frame : Frame}
    (transition : Transition protocol state .readerDispatch next)
    (current : state.reader = .dispatching (.ok frame :: works)) :
    ∃ rest, readerRemaining protocol next.reader = some rest ∧
      Leads (dispatchWorks protocol (.ok frame :: works)) rest := by
  rw [dispatchWorks, dispatchWork, dispatch]
  cases transition with
  | advance _ _ advances => cases advances
  | readerMoves same moves =>
      cases moves
      rw [current] at same
      cases same
  | corrupt same =>
      rw [current] at same
      cases same
  | unanswered same nobody =>
      rw [current] at same
      cases same
      refine ⟨_, rfl, ?_⟩
      split
      · exact leads_perform () (.refl _ _)
      · exact leads_perform () (leads_perform none (leads_perform () (.refl _ _)))
  | @absorbed _ _ slot same nonzero found absorbed =>
      rw [current] at same
      cases same
      have reinserts : Leads ((if absorbs protocol slot.cmdType frame.typeId then
          guarded .pending (insertSlot frame.tag slot)
        else wake slot.waker (resolve protocol slot.cmdType frame.typeId frame.payload)) >>=
          fun _ => dispatchWorks protocol works)
          (guarded .pending (insertSlot frame.tag slot) >>= fun _ =>
            dispatchWorks protocol works) := by
        rw [if_pos absorbed]
        exact .refl _ _
      refine ⟨_, rfl, ?_⟩
      rw [if_neg nonzero]
      exact leads_perform () (leads_perform (some slot) (leads_perform () reinserts))
  | @resolved _ _ slot same nonzero found resolves =>
      rw [current] at same
      cases same
      have wakes : Leads ((if absorbs protocol slot.cmdType frame.typeId then
          guarded .pending (insertSlot frame.tag slot)
        else wake slot.waker (resolve protocol slot.cmdType frame.typeId frame.payload)) >>=
          fun _ => dispatchWorks protocol works) (dispatchWorks protocol works) := by
        rw [resolves]
        exact leads_perform () (.refl _ _)
      refine ⟨_, rfl, ?_⟩
      rw [if_neg nonzero]
      exact leads_perform () (leads_perform (some slot) (leads_perform () wakes))

/-- A step of the reader is a run of accesses of its turn, or begins the next turn, or
is where the reader stops because it was aborted. -/
theorem leads_reader {routine : Routine types Unit}
    (transition : Transition protocol state action next) (own : action.task = .reader)
    (known : readerRemaining protocol state.reader = some routine) :
    (∃ rest, readerRemaining protocol next.reader = some rest ∧ Leads routine rest) ∨
      routine = .done () ∧ next.reader = .checking ∨ next.reader = .stopped := by
  have whole := transition
  cases transition with
  | advance _ _ advances => cases advances <;> cases own
  | readerMoves current moves =>
      rw [current] at known
      cases moves with
      | check =>
          cases known
          refine .inl ?_
          cases closed : state.closed with
          | true => exact ⟨_, rfl, leads_perform true (.refl _ _)⟩
          | false => exact ⟨_, rfl, leads_perform false (.refl _ _)⟩
      | read works =>
          cases known
          exact .inl ⟨_, rfl, leads_perform (some works) (.refl _ _)⟩
      | leave =>
          cases known
          exact .inl ⟨_, rfl, leads_perform none (.refl _ _)⟩
      | turn =>
          cases known
          exact .inr (.inl ⟨rfl, rfl⟩)
  | corrupt current =>
      rw [current] at known
      cases known
      exact .inl ⟨_, rfl, leads_perform () (.refl _ _)⟩
  | unanswered current _ | absorbed current _ _ _ | resolved current _ _ _ =>
      rw [current] at known
      cases known
      exact .inl (leads_dispatch whole current)
  | reinsert current =>
      rw [current] at known
      cases known
      exact .inl ⟨_, rfl, leads_perform () (leads_perform () (leads_perform () (.refl _ _)))⟩
  | readerDrain current =>
      rw [current] at known
      cases known
      exact .inl ⟨_, rfl, leads_wakePending "reader exited"
        (state.pending.entries.map Sigma.snd)⟩
  | readerStop => exact .inr (.inr rfl)
  | _ => cases own

/-! ### Closing -/

def closeRemaining : ClosePhase → Routine types Unit
  | .idle => close
  | .stored => do
      wakePending "session closed"
      stopReader
  | .drained => stopReader
  | .done => return ()

theorem leads_close (transition : Transition protocol state action next)
    (own : action.task = .close) :
    Leads (closeRemaining state.closer : Routine types Unit) (closeRemaining next.closer) := by
  cases transition with
  | advance _ _ advances => cases advances <;> cases own
  | readerMoves _ moves => cases moves <;> cases own
  | closeStore current =>
      rw [current]
      exact leads_perform () (.refl _ _)
  | closeDrain current =>
      rw [current]
      exact (leads_wakePending "session closed" (state.pending.entries.map Sigma.snd)).bind
        (.refl _ _)
  | closeAbort current =>
      rw [current]
      exact leads_perform () (leads_perform true (leads_perform () (leads_perform ()
        (.refl _ _))))
  | _ => cases own

end Machine

end DongloraClient.Routines
