import DongloraClient.Foundation.Machine
import DongloraClient.Session.Dispatch

/-! # Writing frames

Any number of `write_frame` calls share the writer. A call encodes its frame,
takes the writer lock, and hands the bytes to the transport in whatever chunks the
transport accepts; the lock is given up when the call returns or is dropped.
-/

namespace DongloraClient.Session

open Foundation

variable {types : WireTypes} (protocol : Protocol types)

structure Outbound where
  typeId : UInt8
  tag : UInt16
  payload : List UInt8
  deriving DecidableEq, Repr

/-- How far a `write_frame` call has come. While it writes, `rest` is what the
transport has not accepted yet; a call that has written everything is flushing. -/
inductive WritePhase
  | idle
  | locking (frame : Outbound) (wire : List UInt8)
  | writing (frame : Outbound) (rest : List UInt8)
  | returned (frame : Outbound) (result : ClientResult Unit)
  | dropped (frame : Outbound)

/-- `stream` is everything the transport has accepted, `accepted` what it has
accepted from each call, and `order` lists the calls in the order in which they
acquired the lock. -/
structure WriterState where
  calls : Nat → WritePhase
  holder : Option Nat
  stream : List UInt8
  accepted : Nat → List UInt8
  order : List Nat

inductive WriteAction
  | begin (call : Nat) (frame : Outbound)
  | lock (call : Nat)
  | accept (call : Nat) (count : Nat)
  | fail (call : Nat) (text : String)
  | flush (call : Nat) (failure : Option String)
  | drop (call : Nat)
  deriving DecidableEq, Repr

namespace WriterState

def setPhase (state : WriterState) (call : Nat) (phase : WritePhase) (holder : Option Nat) :
    WriterState :=
  { state with
    calls := Function.update state.calls call phase
    holder := holder }

def push (state : WriterState) (call : Nat) (chunk : List UInt8) : WriterState :=
  { state with
    stream := state.stream ++ chunk
    accepted := Function.update state.accepted call (state.accepted call ++ chunk) }

section Fields

variable (state : WriterState) (call : Nat)

@[simp] theorem setPhase_self (phase : WritePhase) (holder : Option Nat) :
    (state.setPhase call phase holder).calls call = phase :=
  Function.update_self _ _ _

theorem setPhase_ne {other : Nat} (different : other ≠ call) (phase : WritePhase)
    (holder : Option Nat) :
    (state.setPhase call phase holder).calls other = state.calls other :=
  Function.update_of_ne different _ _

@[simp] theorem push_calls (chunk : List UInt8) :
    (state.push call chunk).calls = state.calls := rfl

@[simp] theorem push_self (chunk : List UInt8) :
    (state.push call chunk).accepted call = state.accepted call ++ chunk :=
  Function.update_self _ _ _

theorem push_ne {other : Nat} (different : other ≠ call) (chunk : List UInt8) :
    (state.push call chunk).accepted other = state.accepted other :=
  Function.update_of_ne different _ _

end Fields

end WriterState

/-- `write_all` goes on until nothing is left, and fails on an error or when the
transport accepts nothing. -/
def stepWriter (state : WriterState) : WriteAction → Option WriterState
  | .begin call frame =>
      match state.calls call with
      | .idle =>
          match protocol.encodeFrame frame.typeId frame.tag frame.payload with
          | .error reason =>
              some (state.setPhase call (.returned frame (.error (.encodeFailed reason)))
                state.holder)
          | .ok wire => some (state.setPhase call (.locking frame wire) state.holder)
      | _ => none
  | .lock call =>
      match state.calls call, state.holder with
      | .locking frame wire, none =>
          some { state.setPhase call (.writing frame wire) (some call) with
            order := state.order ++ [call] }
      | _, _ => none
  | .accept call count =>
      match state.calls call with
      | .writing frame rest =>
          if 0 < count ∧ count ≤ rest.length then
            some ((state.push call (rest.take count)).setPhase call
              (.writing frame (rest.drop count)) state.holder)
          else none
      | _ => none
  | .fail call text =>
      match state.calls call with
      | .writing frame (_ :: _) =>
          some (state.setPhase call (.returned frame (.error (.io text))) none)
      | _ => none
  | .flush call failure =>
      match state.calls call, failure with
      | .writing frame [], none =>
          some (state.setPhase call (.returned frame (.ok ())) none)
      | .writing frame [], some text =>
          some (state.setPhase call (.returned frame (.error (.io text))) none)
      | _, _ => none
  | .drop call =>
      match state.calls call with
      | .locking frame _ => some (state.setPhase call (.dropped frame) state.holder)
      | .writing frame _ => some (state.setPhase call (.dropped frame) none)
      | _ => none

def writerMachine : Machine WriterState WriteAction where
  initial := ⟨fun _ => .idle, none, [], fun _ => [], []⟩
  step := stepWriter protocol

/-! ## What the transport has accepted from a call -/

def encoded (frame : Outbound) : Except String (List UInt8) :=
  protocol.encodeFrame frame.typeId frame.tag frame.payload

/-- What a call in the given phase has had accepted, if it acquired the lock. -/
def Accepted (phase : WritePhase) (accepted : List UInt8) : Prop :=
  match phase with
  | .idle => False
  | .locking _ _ => False
  | .writing frame rest => encoded protocol frame = .ok (accepted ++ rest)
  | .returned frame (.ok ()) => encoded protocol frame = .ok accepted
  | .returned frame (.error _) =>
      ∃ wire, encoded protocol frame = .ok wire ∧ accepted <+: wire
  | .dropped frame => ∃ wire, encoded protocol frame = .ok wire ∧ accepted <+: wire

def Unlocked (phase : WritePhase) : Prop :=
  match phase with
  | .idle => True
  | .locking frame wire => encoded protocol frame = .ok wire
  | .writing _ _ => False
  | .returned frame result =>
      ∃ reason, encoded protocol frame = .error reason ∧
        result = .error (.encodeFailed reason)
  | .dropped _ => True

structure Serialised (state : WriterState) : Prop where
  segments : state.stream = state.order.flatMap state.accepted
  once : state.order.Nodup
  locked : ∀ call ∈ state.order, Accepted protocol (state.calls call) (state.accepted call)
  unlocked : ∀ call, call ∉ state.order →
    Unlocked protocol (state.calls call) ∧ state.accepted call = []
  holds : ∀ call frame rest, state.calls call = .writing frame rest →
    state.holder = some call
  last : ∀ call, state.holder = some call → ∃ earlier, state.order = earlier ++ [call]

/-! ## What a step can do -/

def WriteAction.isFault : WriteAction → Bool
  | .fail _ _ => true
  | .flush _ (some _) => true
  | .drop _ => true
  | _ => false

inductive WriterTransition (state : WriterState) (action : WriteAction) : WriterState → Prop
  | waits (call : Nat) (phase : WritePhase)
      (before : state.calls call = .idle ∨ ∃ frame wire, state.calls call = .locking frame wire)
      (after : Unlocked protocol phase) :
      WriterTransition state action (state.setPhase call phase state.holder)
  | locks (call : Nat) (frame : Outbound) (wire : List UInt8)
      (before : state.calls call = .locking frame wire) (free : state.holder = none) :
      WriterTransition state action
        { state.setPhase call (.writing frame wire) (some call) with
          order := state.order ++ [call] }
  | accepts (call : Nat) (frame : Outbound) (rest : List UInt8) (count : Nat)
      (before : state.calls call = .writing frame rest) :
      WriterTransition state action ((state.push call (rest.take count)).setPhase call
        (.writing frame (rest.drop count)) state.holder)
  | ends (call : Nat) (frame : Outbound) (rest : List UInt8) (phase : WritePhase)
      (before : state.calls call = .writing frame rest)
      (after : ∀ accepted, encoded protocol frame = .ok (accepted ++ rest) →
        Accepted protocol phase accepted)
      (stopped : ∀ other left, phase ≠ .writing other left)
      (succeeds : action.isFault = false → phase = .returned frame (.ok ())) :
      WriterTransition state action (state.setPhase call phase none)

section Transitions

variable {protocol} {state next : WriterState}

theorem accepted_of_returned_ok {frame : Outbound} {accepted : List UInt8}
    (whole : encoded protocol frame = .ok (accepted ++ [])) :
    Accepted protocol (.returned frame (.ok ())) accepted := by
  rw [List.append_nil] at whole
  exact whole

theorem begins_encoded {frame : Outbound} {accepted rest : List UInt8}
    (whole : encoded protocol frame = .ok (accepted ++ rest)) :
    ∃ wire, encoded protocol frame = .ok wire ∧ accepted <+: wire :=
  ⟨accepted ++ rest, whole, List.prefix_append accepted rest⟩

theorem writerTransition_of_step {action : WriteAction}
    (stepped : (writerMachine protocol).step state action = some next) :
    WriterTransition protocol state action next := by
  change stepWriter protocol state action = some next at stepped
  cases action with
  | begin call frame =>
      simp only [stepWriter] at stepped
      split at stepped
      · next current =>
        split at stepped
        · next reason failed =>
          cases stepped
          exact .waits call _ (.inl current) ⟨reason, failed, rfl⟩
        · next wire succeeded =>
          cases stepped
          exact .waits call _ (.inl current) succeeded
      · cases stepped
  | lock call =>
      simp only [stepWriter] at stepped
      split at stepped
      · next current free =>
        cases stepped
        exact .locks call _ _ current free
      · cases stepped
  | accept call count =>
      simp only [stepWriter] at stepped
      split at stepped
      · next current =>
        split at stepped
        · cases stepped
          exact .accepts call _ _ count current
        · cases stepped
      · cases stepped
  | fail call text =>
      simp only [stepWriter] at stepped
      split at stepped
      · next current =>
        cases stepped
        exact .ends call _ _ _ current (fun _ => begins_encoded) (by simp)
          (by simp [WriteAction.isFault])
      · cases stepped
  | flush call failure =>
      simp only [stepWriter] at stepped
      split at stepped
      · next current =>
        cases stepped
        exact .ends call _ _ _ current (fun _ => accepted_of_returned_ok) (by simp) (by simp)
      · next current =>
        cases stepped
        exact .ends call _ _ _ current (fun _ => begins_encoded) (by simp)
          (by simp [WriteAction.isFault])
      · cases stepped
  | drop call =>
      simp only [stepWriter] at stepped
      split at stepped
      · next current =>
        cases stepped
        exact .waits call _ (.inr ⟨_, _, current⟩) trivial
      · next current =>
        cases stepped
        exact .ends call _ _ _ current (fun _ => begins_encoded) (by simp)
          (by simp [WriteAction.isFault])
      · cases stepped

end Transitions

/-! ## Segments -/

theorem flatMap_update_of_not_mem {calls : List Nat} {call : Nat} (absent : call ∉ calls)
    (segments : Nat → List UInt8) (segment : List UInt8) :
    calls.flatMap (Function.update segments call segment) = calls.flatMap segments := by
  apply List.flatMap_congr
  intro other member
  apply Function.update_of_ne
  intro same
  exact absent (same ▸ member)

/-- What the last call adds to its segment is added to the end of the stream. -/
theorem flatMap_push_last {earlier : List Nat} {call : Nat}
    (once : (earlier ++ [call]).Nodup) (segments : Nat → List UInt8) (chunk : List UInt8) :
    (earlier ++ [call]).flatMap (Function.update segments call (segments call ++ chunk)) =
      (earlier ++ [call]).flatMap segments ++ chunk := by
  have absent : call ∉ earlier := by
    intro member
    exact (List.nodup_append.mp once).2.2 call member call (by simp) rfl
  rw [List.flatMap_append, List.flatMap_append, flatMap_update_of_not_mem absent]
  simp

/-! ## Every reachable state -/

section Serial

variable {protocol} {state next : WriterState}

theorem Serialised.not_mem_order (serial : Serialised protocol state) {call : Nat}
    (before : state.calls call = .idle ∨ ∃ frame wire, state.calls call = .locking frame wire) :
    call ∉ state.order := by
  intro member
  have accepted := serial.locked call member
  rcases before with idle | ⟨frame, wire, locking⟩
  · rw [idle] at accepted
    exact accepted
  · rw [locking] at accepted
    exact accepted

theorem Serialised.mem_order (serial : Serialised protocol state) {call : Nat}
    {frame : Outbound} {rest : List UInt8} (writing : state.calls call = .writing frame rest) :
    call ∈ state.order := by
  by_contra absent
  have unlocked := (serial.unlocked call absent).1
  rw [writing] at unlocked
  exact unlocked

theorem Serialised.waits (serial : Serialised protocol state) {call : Nat} {phase : WritePhase}
    (before : state.calls call = .idle ∨ ∃ frame wire, state.calls call = .locking frame wire)
    (after : Unlocked protocol phase) :
    Serialised protocol (state.setPhase call phase state.holder) := by
  have absent := serial.not_mem_order before
  refine ⟨serial.segments, serial.once, ?_, ?_, ?_, serial.last⟩
  · intro other member
    have different : other ≠ call := fun same => absent (same ▸ member)
    rw [WriterState.setPhase_ne _ _ different]
    exact serial.locked other member
  · intro other notOrdered
    by_cases same : other = call
    · subst same
      rw [WriterState.setPhase_self]
      exact ⟨after, (serial.unlocked other absent).2⟩
    · rw [WriterState.setPhase_ne _ _ same]
      exact serial.unlocked other notOrdered
  · intro other frame rest writing
    by_cases same : other = call
    · subst same
      rw [WriterState.setPhase_self] at writing
      rw [writing] at after
      exact absurd after id
    · rw [WriterState.setPhase_ne _ _ same] at writing
      exact serial.holds other frame rest writing

theorem Serialised.locks (serial : Serialised protocol state) {call : Nat} {frame : Outbound}
    {wire : List UInt8} (before : state.calls call = .locking frame wire)
    (free : state.holder = none) :
    Serialised protocol { state.setPhase call (.writing frame wire) (some call) with
      order := state.order ++ [call] } := by
  have absent := serial.not_mem_order (.inr ⟨frame, wire, before⟩)
  rcases serial.unlocked call absent with ⟨encodes, nothing⟩
  rw [before] at encodes
  refine ⟨?_, ?_, ?_, ?_, ?_, ?_⟩
  · change state.stream = (state.order ++ [call]).flatMap state.accepted
    rw [List.flatMap_append, List.flatMap_singleton, nothing, List.append_nil]
    exact serial.segments
  · rw [← List.concat_eq_append]
    exact List.Nodup.concat absent serial.once
  · intro other member
    by_cases same : other = call
    · subst same
      rw [WriterState.setPhase_self]
      change Accepted protocol (.writing frame wire) (state.accepted other)
      rw [nothing]
      exact encodes
    · have earlier : other ∈ state.order := by
        simpa [same] using member
      rw [WriterState.setPhase_ne _ _ same]
      exact serial.locked other earlier
  · intro other notOrdered
    rw [List.mem_append, List.mem_singleton, not_or] at notOrdered
    rw [WriterState.setPhase_ne _ _ notOrdered.2]
    exact serial.unlocked other notOrdered.1
  · intro other otherFrame rest writing
    by_cases same : other = call
    · rw [same]
      rfl
    · rw [WriterState.setPhase_ne _ _ same] at writing
      rw [serial.holds other otherFrame rest writing] at free
      cases free
  · intro other held
    cases held
    exact ⟨state.order, rfl⟩

theorem Serialised.accepts (serial : Serialised protocol state) {call : Nat} {frame : Outbound}
    {rest : List UInt8} {count : Nat} (before : state.calls call = .writing frame rest) :
    Serialised protocol ((state.push call (rest.take count)).setPhase call
      (.writing frame (rest.drop count)) state.holder) := by
  have held := serial.holds call frame rest before
  have ordered := serial.mem_order before
  refine ⟨?_, serial.once, ?_, ?_, ?_, serial.last⟩
  · rcases serial.last call held with ⟨earlier, order⟩
    have once := serial.once
    change state.stream ++ rest.take count =
      state.order.flatMap (Function.update state.accepted call
        (state.accepted call ++ rest.take count))
    rw [order] at once ⊢
    rw [flatMap_push_last once, ← order, serial.segments]
  · intro other member
    by_cases same : other = call
    · subst same
      have accepted := serial.locked other member
      rw [before] at accepted
      rw [WriterState.setPhase_self]
      change encoded protocol frame = .ok ((state.push other (rest.take count)).accepted other ++
        rest.drop count)
      rw [WriterState.push_self, List.append_assoc, List.take_append_drop]
      exact accepted
    · rw [WriterState.setPhase_ne _ _ same]
      change Accepted protocol (state.calls other)
        ((state.push call (rest.take count)).accepted other)
      rw [WriterState.push_ne _ _ same]
      exact serial.locked other member
  · intro other notOrdered
    have different : other ≠ call := fun same => notOrdered (same ▸ ordered)
    rw [WriterState.setPhase_ne _ _ different]
    refine ⟨(serial.unlocked other notOrdered).1, ?_⟩
    exact (WriterState.push_ne _ _ different _).trans (serial.unlocked other notOrdered).2
  · intro other otherFrame left writing
    by_cases same : other = call
    · rw [same]
      exact held
    · rw [WriterState.setPhase_ne _ _ same] at writing
      exact serial.holds other otherFrame left writing

theorem Serialised.ends (serial : Serialised protocol state) {call : Nat} {frame : Outbound}
    {rest : List UInt8} {phase : WritePhase} (before : state.calls call = .writing frame rest)
    (after : ∀ accepted, encoded protocol frame = .ok (accepted ++ rest) →
      Accepted protocol phase accepted)
    (stopped : ∀ other left, phase ≠ .writing other left) :
    Serialised protocol (state.setPhase call phase none) := by
  have held := serial.holds call frame rest before
  have ordered := serial.mem_order before
  refine ⟨serial.segments, serial.once, ?_, ?_, ?_, ?_⟩
  · intro other member
    by_cases same : other = call
    · subst same
      have accepted := serial.locked other member
      rw [before] at accepted
      rw [WriterState.setPhase_self]
      exact after _ accepted
    · rw [WriterState.setPhase_ne _ _ same]
      exact serial.locked other member
  · intro other notOrdered
    have different : other ≠ call := fun same => notOrdered (same ▸ ordered)
    rw [WriterState.setPhase_ne _ _ different]
    exact serial.unlocked other notOrdered
  · intro other otherFrame left writing
    by_cases same : other = call
    · subst same
      rw [WriterState.setPhase_self] at writing
      exact absurd writing (stopped _ _)
    · rw [WriterState.setPhase_ne _ _ same] at writing
      have heldToo := serial.holds other otherFrame left writing
      rw [held] at heldToo
      cases heldToo
      exact absurd rfl same
  · intro other heldToo
    cases heldToo

theorem Serialised.step {action : WriteAction} (serial : Serialised protocol state)
    (transition : WriterTransition protocol state action next) : Serialised protocol next := by
  cases transition with
  | waits call phase before after => exact serial.waits before after
  | locks call frame wire before free => exact serial.locks before free
  | accepts call frame rest count before => exact serial.accepts before
  | ends call frame rest phase before after stopped _ => exact serial.ends before after stopped

theorem serialised (reached : (writerMachine protocol).Reachable state) :
    Serialised protocol state := by
  apply reached.invariant
  · exact ⟨rfl, List.nodup_nil, by simp [writerMachine], fun _ _ => ⟨trivial, rfl⟩,
      by simp [writerMachine], by simp [writerMachine]⟩
  · intro current action next serial _ stepped
    exact serial.step (writerTransition_of_step stepped)

def Faultless (state : WriterState) : Prop :=
  ∀ call ∈ state.order, state.holder = some call ∨
    ∃ frame, state.calls call = .returned frame (.ok ())

theorem Faultless.step {action : WriteAction} (serial : Serialised protocol state)
    (faultless : Faultless state) (noFault : action.isFault = false)
    (transition : WriterTransition protocol state action next) : Faultless next := by
  cases transition with
  | waits call phase before after =>
      intro other member
      have different : other ≠ call := fun same => serial.not_mem_order before (same ▸ member)
      rw [WriterState.setPhase_ne _ _ different]
      exact faultless other member
  | locks call frame wire before free =>
      intro other member
      rcases List.mem_append.mp member with earlier | last
      · have different : other ≠ call :=
          fun same => serial.not_mem_order (.inr ⟨frame, wire, before⟩) (same ▸ earlier)
        rw [WriterState.setPhase_ne _ _ different]
        rcases faultless other earlier with held | returned
        · rw [free] at held
          cases held
        · exact .inr returned
      · rw [List.mem_singleton.mp last]
        exact .inl rfl
  | accepts call frame rest count before =>
      intro other member
      by_cases same : other = call
      · rw [same]
        exact .inl (serial.holds call frame rest before)
      · rw [WriterState.setPhase_ne _ _ same]
        exact faultless other member
  | ends call frame rest phase before after stopped succeeds =>
      intro other member
      by_cases same : other = call
      · subst same
        rw [WriterState.setPhase_self, succeeds noFault]
        exact .inr ⟨frame, rfl⟩
      · rw [WriterState.setPhase_ne _ _ same]
        rcases faultless other member with held | returned
        · rw [serial.holds call frame rest before] at held
          cases held
          exact absurd rfl same
        · exact .inr returned

theorem faultless (reached : (writerMachine protocol).ReachableBy
    (fun _ action => action.isFault = false) state) : Faultless state := by
  have both : Serialised protocol state ∧ Faultless state := by
    apply reached.invariant
    · exact ⟨serialised .initial, by simp [Faultless, writerMachine]⟩
    · intro current action next holds noFault stepped
      have transition := writerTransition_of_step stepped
      exact ⟨holds.1.step transition, holds.2.step holds.1 noFault transition⟩
  exact both.2

end Serial

/-! ## The stream -/

/-- The segment of a call that acquired the lock is the beginning of its frame, and
the whole frame if the call returned `Ok`. -/
def Segment (state : WriterState) (call : Nat) : Prop :=
  ∃ frame wire, protocol.encodeFrame frame.typeId frame.tag frame.payload = .ok wire ∧
    state.accepted call <+: wire ∧
    ((state.holder = some call ∧ ∃ rest, state.calls call = .writing frame rest) ∨
      (state.calls call = .returned frame (.ok ()) ∧ state.accepted call = wire) ∨
      (∃ error, state.calls call = .returned frame (.error error)) ∨
      state.calls call = .dropped frame)

def WholeFrames (state : WriterState) : Prop :=
  ∃ whole, state.order = whole ++ state.holder.toList ∧
    state.stream = whole.flatMap state.accepted ++ state.holder.elim [] state.accepted ∧
    ∀ call ∈ whole, ∃ frame, state.calls call = .returned frame (.ok ()) ∧
      protocol.encodeFrame frame.typeId frame.tag frame.payload = .ok (state.accepted call)

section Stream

variable {protocol} {state : WriterState}

theorem Serialised.segment (serial : Serialised protocol state) {call : Nat}
    (ordered : call ∈ state.order) : Segment protocol state call := by
  have accepted := serial.locked call ordered
  cases phase : state.calls call with
  | idle =>
      rw [phase] at accepted
      exact absurd accepted id
  | locking frame wire =>
      rw [phase] at accepted
      exact absurd accepted id
  | writing frame rest =>
      rw [phase] at accepted
      refine ⟨frame, _, accepted, List.prefix_append _ _, .inl ⟨?_, rest, phase⟩⟩
      exact serial.holds call frame rest phase
  | returned frame result =>
      rw [phase] at accepted
      cases result with
      | ok _ => exact ⟨frame, _, accepted, List.prefix_rfl, .inr (.inl ⟨phase, rfl⟩)⟩
      | error error =>
          rcases accepted with ⟨wire, encodes, begins⟩
          exact ⟨frame, wire, encodes, begins, .inr (.inr (.inl ⟨error, phase⟩))⟩
  | dropped frame =>
      rw [phase] at accepted
      rcases accepted with ⟨wire, encodes, begins⟩
      exact ⟨frame, wire, encodes, begins, .inr (.inr (.inr phase))⟩

theorem Serialised.mem_order_of_ok (serial : Serialised protocol state) {call : Nat}
    {frame : Outbound} (returned : state.calls call = .returned frame (.ok ())) :
    call ∈ state.order := by
  by_contra absent
  have unlocked := (serial.unlocked call absent).1
  rw [returned] at unlocked
  rcases unlocked with ⟨reason, _, impossible⟩
  cases impossible

theorem Serialised.not_mem_order_of_unencoded (serial : Serialised protocol state) {call : Nat}
    {frame : Outbound} {result : ClientResult Unit} {reason : String}
    (returned : state.calls call = .returned frame result)
    (fails : encoded protocol frame = .error reason) : call ∉ state.order := by
  intro ordered
  have accepted := serial.locked call ordered
  rw [returned] at accepted
  cases result with
  | ok _ =>
      have encodes : encoded protocol frame = .ok (state.accepted call) := accepted
      rw [fails] at encodes
      cases encodes
  | error error =>
      rcases accepted with ⟨wire, encodes, _⟩
      rw [fails] at encodes
      cases encodes

theorem Serialised.wholeFrames (serial : Serialised protocol state)
    (faultless : Faultless state) : WholeFrames protocol state := by
  have whole : ∀ call ∈ state.order, state.holder ≠ some call →
      ∃ frame, state.calls call = .returned frame (.ok ()) ∧
        protocol.encodeFrame frame.typeId frame.tag frame.payload =
          .ok (state.accepted call) := by
    intro call ordered free
    rcases faultless call ordered with held | ⟨frame, returned⟩
    · exact absurd held free
    · have accepted := serial.locked call ordered
      rw [returned] at accepted
      exact ⟨frame, returned, accepted⟩
  cases held : state.holder with
  | none =>
      refine ⟨state.order, by simp [held], by simp [held, serial.segments], ?_⟩
      intro call ordered
      exact whole call ordered (by simp [held])
  | some holder =>
      rcases serial.last holder held with ⟨earlier, order⟩
      refine ⟨earlier, by simp [held, order], by simp [held, serial.segments, order], ?_⟩
      intro call member
      have different : holder ≠ call := by
        intro same
        have once := serial.once
        rw [order] at once
        exact (List.nodup_append.mp once).2.2 call member holder (by simp) same.symm
      exact whole call (by simp [order, member]) (by simp [held, different])

end Stream

/-- Frames never interleave on the transport: every call that acquired the lock has
one segment of the stream, in the order of the locks, and calls that did not have
none. -/
theorem frames_never_interleave :
    (∀ state, (writerMachine protocol).Reachable state →
      state.stream = state.order.flatMap state.accepted ∧ state.order.Nodup ∧
      (∀ call ∈ state.order, Segment protocol state call) ∧
      (∀ call, call ∉ state.order → state.accepted call = []) ∧
      (∀ call frame, state.calls call = .returned frame (.ok ()) → call ∈ state.order) ∧
      (∀ call frame result reason, state.calls call = .returned frame result →
        protocol.encodeFrame frame.typeId frame.tag frame.payload = .error reason →
        call ∉ state.order)) ∧
    (∀ state, (writerMachine protocol).ReachableBy
        (fun _ action => action.isFault = false) state → WholeFrames protocol state) := by
  constructor
  · intro state reached
    have serial := serialised reached
    exact ⟨serial.segments, serial.once, fun call ordered => serial.segment ordered,
      fun call absent => (serial.unlocked call absent).2,
      fun call frame returned => serial.mem_order_of_ok returned,
      fun call frame result reason returned fails =>
        serial.not_mem_order_of_unencoded returned fails⟩
  · intro state reached
    exact (serialised reached.reachable).wholeFrames (faultless reached)

def droppedThenWhole : List WriteAction :=
  [.begin 0 ⟨1, 1, []⟩, .begin 1 ⟨1, 2, []⟩, .lock 0, .accept 0 2, .drop 0, .lock 1,
    .accept 1 1, .accept 1 3, .flush 1 none]

theorem frames_never_interleave_dropped :
    ∃ state, (writerMachine Protocol.sample).run (writerMachine Protocol.sample).initial
        droppedThenWhole = some state ∧
      state.stream = [1, 1, 1, 2, 0, 0] ∧ state.order = [0, 1] ∧
      state.stream = state.order.flatMap state.accepted := by
  have ran : ∃ state, (writerMachine Protocol.sample).run
      (writerMachine Protocol.sample).initial droppedThenWhole = some state ∧
      state.stream = [1, 1, 1, 2, 0, 0] ∧ state.order = [0, 1] :=
    ⟨_, rfl, rfl, rfl⟩
  rcases ran with ⟨state, ran, stream, order⟩
  exact ⟨state, ran, stream, order,
    ((frames_never_interleave Protocol.sample).1 state (.run .initial ran)).1⟩

end DongloraClient.Session
