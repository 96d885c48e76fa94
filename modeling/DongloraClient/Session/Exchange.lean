import DongloraClient.Session.Correlation
import DongloraClient.Session.Events
import DongloraClient.Session.TagSequence

/-! # Both ends of the link

A tag is all that an answer says about the command it answers, and tags come round
again. Here the session is put together with a device: the device hears the frames
that are written, replies to whichever of them it likes, as often and as late as it
likes, and sends frames of its own in between. Whether host and device mean the same
command by a tag then depends on how long calls, replies and slots live, counted in
tags handed out.
-/

namespace DongloraClient.Session

open Foundation

variable {types : WireTypes}

/-! ## The two parties -/

/-- A frame on its way to the host, with the command it replies to. What the device
sends of its own accord, and what arrives damaged, replies to none. -/
structure Arrival where
  work : FrameWork
  command : Option CallId

/-- The session, the device, and what is under way between them. `allocated` counts the
tags handed out and `position` is where in their sequence the tag of a call stands. -/
structure Exchange (types : WireTypes) where
  session : State types
  allocated : Nat
  position : CallId → Nat
  /-- The commands whose frame may have got to the device. -/
  heard : CallId → Bool
  /-- Everything the device has sent in reply to a command, newest first. -/
  replies : List (CallId × Frame)
  /-- Sent by the device and not yet read, oldest first. -/
  incoming : List Arrival
  /-- Read and not yet dispatched. -/
  batch : List Arrival

inductive ExchangeAction
  | host (action : Action)
  | read (count : Nat)
  | reply (call : CallId) (typeId : UInt8) (payload : List UInt8)
  | emit (work : FrameWork)
  deriving DecidableEq, Repr

def Action.isRead : Action → Bool
  | .readerRead _ => true
  | _ => false

def Action.leaves {Item : Type} : Action → List Item → List Item
  | .readerDispatch, items => items.tail
  | .readerStop, _ => []
  | _, items => items

def FrameWork.unasked : FrameWork → Bool
  | .ok received => received.tag == 0
  | .frame => true

variable (protocol : Protocol types)

/-- A write of an encoded frame may reach the device also where it ends in an error. -/
def Phase.reachesDevice : Phase types → Bool
  | .writing request tag => (protocol.encodeFrame request.typeId tag request.payload).isOk
  | _ => false

def Exchange.follow (exchange : Exchange types) (action : Action) (next : State types) :
    Exchange types where
  session := next
  allocated := exchange.allocated + if action.allocates then 1 else 0
  position :=
    match action with
    | .allocTag call => Function.update exchange.position call exchange.allocated
    | _ => exchange.position
  heard :=
    match action with
    | .write call _ =>
        Function.update exchange.heard call
          ((exchange.session.calls call).reachesDevice protocol)
    | _ => exchange.heard
  replies := exchange.replies
  incoming := exchange.incoming
  batch := action.leaves exchange.batch

def stepExchange (exchange : Exchange types) : ExchangeAction → Option (Exchange types)
  | .host action =>
      if action.isRead then none
      else (step protocol exchange.session action).map (exchange.follow protocol action)
  | .read count =>
      let taken := exchange.incoming.take count
      (step protocol exchange.session (.readerRead (taken.map Arrival.work))).map fun next =>
        { exchange with
          session := next
          incoming := exchange.incoming.drop count
          batch := taken }
  -- The device answers under the tag that it found in the command's frame.
  | .reply call typeId payload =>
      match (exchange.session.calls call).tag with
      | none => none
      | some tag =>
          if exchange.heard call then
            some { exchange with
              replies := (call, ⟨typeId, tag, payload⟩) :: exchange.replies
              incoming := exchange.incoming ++ [⟨.ok ⟨typeId, tag, payload⟩, some call⟩] }
          else none
  | .emit work =>
      if work.unasked then
        some { exchange with incoming := exchange.incoming ++ [⟨work, none⟩] }
      else none

def exchangeMachine : Machine (Exchange types) ExchangeAction where
  initial := {
    session := spawn
    allocated := 0
    position _ := 0
    heard _ := false
    replies := []
    incoming := []
    batch := [] }
  step := stepExchange protocol

/-- Nothing outlives a turn of the tag counter: no tag is handed out while a call is
running that got its tag 65535 allocations before, no reply is dispatched when the
tag of its command has been handed out again, and no slot is put back by the reader
when its tag has been handed out again. -/
def Timely (exchange : Exchange types) : ExchangeAction → Prop
  | .host (.allocTag _) => ∀ call tag, (exchange.session.calls call).tag = some tag →
      (exchange.session.calls call).isReturned = false →
      exchange.allocated < exchange.position call + 65535
  | .host .readerDispatch => ∀ arrival ∈ exchange.batch.head?, ∀ call ∈ arrival.command,
      exchange.allocated ≤ exchange.position call + 65535
  | .host .readerReinsert => ∀ held ∈ exchange.session.reader.hand,
      exchange.allocated ≤ exchange.position held.2.waker + 65535
  | _ => True

/-! ## Everything a step can do -/

inductive Exchanged (exchange : Exchange types) : ExchangeAction → Exchange types → Prop
  | host {action : Action} {next : State types} (unread : action.isRead = false)
      (taken : (machine protocol).step exchange.session action = some next) :
      Exchanged exchange (.host action) (exchange.follow protocol action next)
  | read (count : Nat) {next : State types}
      (taken : (machine protocol).step exchange.session
        (.readerRead ((exchange.incoming.take count).map Arrival.work)) = some next) :
      Exchanged exchange (.read count)
        { exchange with
          session := next
          incoming := exchange.incoming.drop count
          batch := exchange.incoming.take count }
  | reply {call : CallId} (typeId : UInt8) {tag : UInt16} (payload : List UInt8)
      (given : (exchange.session.calls call).tag = some tag)
      (heard : exchange.heard call = true) :
      Exchanged exchange (.reply call typeId payload)
        { exchange with
          replies := (call, ⟨typeId, tag, payload⟩) :: exchange.replies
          incoming := exchange.incoming ++ [⟨.ok ⟨typeId, tag, payload⟩, some call⟩] }
  | emit {work : FrameWork} (unasked : work.unasked = true) :
      Exchanged exchange (.emit work)
        { exchange with incoming := exchange.incoming ++ [⟨work, none⟩] }

theorem exchanged_of_step {exchange next : Exchange types} {action : ExchangeAction}
    (stepped : (exchangeMachine protocol).step exchange action = some next) :
    Exchanged protocol exchange action next := by
  change stepExchange protocol exchange action = some next at stepped
  cases action with
  | host action =>
      simp only [stepExchange] at stepped
      split at stepped
      · cases stepped
      · next unread =>
        rcases Option.map_eq_some_iff.mp stepped with ⟨session, taken, rfl⟩
        exact .host (by simpa using unread) taken
  | read count =>
      simp only [stepExchange] at stepped
      rcases Option.map_eq_some_iff.mp stepped with ⟨session, taken, rfl⟩
      exact .read count taken
  | reply call typeId payload =>
      simp only [stepExchange] at stepped
      split at stepped
      · cases stepped
      · next given =>
        split at stepped
        · next heard =>
          cases stepped
          exact .reply typeId payload given heard
        · cases stepped
  | emit work =>
      simp only [stepExchange] at stepped
      split at stepped
      · next unasked =>
        cases stepped
        exact .emit unasked
      · cases stepped

variable {protocol}

theorem session_reachable {allowed : Exchange types → ExchangeAction → Prop}
    {exchange : Exchange types}
    (reached : (exchangeMachine protocol).ReachableBy allowed exchange) :
    (machine protocol).Reachable exchange.session := by
  apply reached.invariant
  · exact .initial
  · intro current action next before _ stepped
    cases exchanged_of_step protocol stepped with
    | host _ taken | read _ taken => exact .step before trivial taken
    | reply | emit => exact before

theorem read_session {state next : State types} {works : List FrameWork}
    (taken : (machine protocol).step state (.readerRead works) = some next) :
    state.reader = .reading ∧ next = { state with reader := .dispatching works } := by
  cases transition_of_step protocol taken with
  | advance _ _ advances => cases advances
  | readerMoves current moves =>
      cases moves
      exact ⟨current, rfl⟩

theorem Transition.keeps_tag {state next : State types} {action : Action}
    (transition : Transition protocol state action next) {call : CallId} {tag : UInt16}
    (given : (state.calls call).tag = some tag) : (next.calls call).tag = some tag := by
  cases transition.callStep call with
  | keeps same =>
      rw [same]
      exact given
  | advance current reached advances =>
      rw [reached, advances.tag.1, ← current]
      exact given
  | allocTag current _ =>
      rw [current] at given
      cases given
  | register current reached _ _ | cleanup current reached =>
      rw [current] at given
      rw [reached]
      exact given

/-! ## Positions -/

/-- The tag of a call stands at its position of the sequence, no two calls have the same
position, and a running call is at most one turn old. -/
structure Counted (exchange : Exchange types) : Prop where
  counter : exchange.session.nextTag = tagAt exchange.allocated
  given : ∀ call tag, (exchange.session.calls call).tag = some tag →
    tag = tagAt (exchange.position call) ∧ exchange.position call < exchange.allocated
  apart : ∀ call other tag another, (exchange.session.calls call).tag = some tag →
    (exchange.session.calls other).tag = some another →
    exchange.position call = exchange.position other → call = other
  young : ∀ call tag, (exchange.session.calls call).tag = some tag →
    (exchange.session.calls call).isReturned = false →
    exchange.allocated ≤ exchange.position call + 65535

/-- Within one turn of the counter a tag names one call. -/
theorem Counted.same_call {exchange : Exchange types} (counted : Counted exchange)
    {call other : CallId} {tag : UInt16}
    (given : (exchange.session.calls call).tag = some tag)
    (alsoGiven : (exchange.session.calls other).tag = some tag)
    (recent : exchange.allocated ≤ exchange.position call + 65535)
    (alsoRecent : exchange.allocated ≤ exchange.position other + 65535) : call = other := by
  have first := counted.given call tag given
  have second := counted.given other tag alsoGiven
  apply counted.apart call other tag tag given alsoGiven
  apply @eq_of_tagAt_eq (exchange.allocated - 65535)
  · exact first.1.symm.trans second.1
  · omega
  · omega

theorem Counted.keep {exchange next : Exchange types} (counted : Counted exchange)
    (sameCounter : next.session.nextTag = exchange.session.nextTag)
    (sameCount : next.allocated = exchange.allocated)
    (samePositions : next.position = exchange.position)
    (sameTags : ∀ call, (next.session.calls call).tag = (exchange.session.calls call).tag)
    (stays : ∀ call, (exchange.session.calls call).isReturned = true →
      (next.session.calls call).isReturned = true) : Counted next where
  counter := by rw [sameCounter, sameCount]; exact counted.counter
  given call tag given := by
    rw [samePositions, sameCount]
    exact counted.given call tag (sameTags call ▸ given)
  apart call other tag another given alsoGiven same := by
    rw [samePositions] at same
    exact counted.apart call other tag another (sameTags call ▸ given)
      (sameTags other ▸ alsoGiven) same
  young call tag given running := by
    rw [samePositions, sameCount]
    apply counted.young call tag (sameTags call ▸ given)
    by_contra returned
    rw [stays call (by simpa using returned)] at running
    cases running

theorem Counted.follow {exchange : Exchange types} {action : Action} {next : State types}
    (counted : Counted exchange) (other : action.allocates = false)
    (transition : Transition protocol exchange.session action next) :
    Counted (exchange.follow protocol action next) := by
  have others : ∀ call, action ≠ .allocTag call := by
    rintro call rfl
    cases other
  have unmoved : next.nextTag = exchange.session.nextTag := by
    rcases transition.counter with ⟨_, _, unmoved⟩ | ⟨allocates, _, _⟩
    · exact unmoved
    · rw [other] at allocates
      cases allocates
  have kept : ∀ call, (next.calls call).tag = (exchange.session.calls call).tag ∧
      ((exchange.session.calls call).isReturned = true →
        (next.calls call).isReturned = true) := by
    intro call
    rcases transition.tag call with kept | ⟨allocates, _⟩
    · exact kept
    · exact absurd allocates (others call)
  refine counted.keep unmoved ?_ ?_ (fun call => (kept call).1) (fun call => (kept call).2)
  · simp [Exchange.follow, other]
  · cases action with
    | allocTag call => cases other
    | _ => rfl

theorem Counted.allocate {exchange : Exchange types} {call : CallId} {next : State types}
    (counted : Counted exchange) (timely : Timely exchange (.host (.allocTag call)))
    (transition : Transition protocol exchange.session (.allocTag call) next) :
    Counted (exchange.follow protocol (.allocTag call) next) := by
  have moved : next.nextTag = advanceTag exchange.session.nextTag := by
    rcases transition.counter with ⟨other, _, _⟩ | ⟨_, _, moved⟩
    · cases other
    · exact moved
  have own : (next.calls call).tag = some exchange.session.nextTag := by
    cases transition with
    | advance _ _ advances => cases advances
    | allocTag _ current => simp [State.setPhase, Phase.tag]
    | readerMoves _ moves => cases moves
  have kept : ∀ other, other ≠ call → next.calls other = exchange.session.calls other := by
    intro other different
    apply transition.keeps_call
    intro same
    exact different (Task.call.inj same).symm
  -- A call that had its tag before is not this one, and its position is below the count.
  have cases : ∀ other tag, (next.calls other).tag = some tag →
      (other = call ∧ tag = exchange.session.nextTag) ∨
      (other ≠ call ∧ (exchange.session.calls other).tag = some tag) := by
    intro other tag given
    by_cases same : other = call
    · subst same
      rw [own] at given
      exact .inl ⟨rfl, (Option.some.inj given).symm⟩
    · rw [kept other same] at given
      exact .inr ⟨same, given⟩
  constructor
  · change next.nextTag = tagAt (exchange.allocated + 1)
    rw [moved, counted.counter, advanceTag_tagAt]
  · intro other tag given
    change _ = tagAt (Function.update exchange.position call exchange.allocated other) ∧
      Function.update exchange.position call exchange.allocated other < exchange.allocated + 1
    rcases cases other tag given with ⟨rfl, rfl⟩ | ⟨different, before⟩
    · rw [Function.update_self]
      exact ⟨counted.counter, Nat.lt_succ_self _⟩
    · rw [Function.update_of_ne different]
      have earlier := counted.given other tag before
      exact ⟨earlier.1, Nat.lt_succ_of_lt earlier.2⟩
  · intro first second tag another given alsoGiven same
    change Function.update exchange.position call exchange.allocated first =
      Function.update exchange.position call exchange.allocated second at same
    rcases cases first tag given with ⟨rfl, _⟩ | ⟨different, before⟩
    · rcases cases second another alsoGiven with ⟨rfl, _⟩ | ⟨alsoDifferent, alsoBefore⟩
      · rfl
      · rw [Function.update_self, Function.update_of_ne alsoDifferent] at same
        exact absurd same.symm (Nat.ne_of_lt (counted.given second another alsoBefore).2)
    · rcases cases second another alsoGiven with ⟨rfl, _⟩ | ⟨alsoDifferent, alsoBefore⟩
      · rw [Function.update_self, Function.update_of_ne different] at same
        exact absurd same (Nat.ne_of_lt (counted.given first tag before).2)
      · rw [Function.update_of_ne different, Function.update_of_ne alsoDifferent] at same
        exact counted.apart first second tag another before alsoBefore same
  · intro other tag given running
    change exchange.allocated + 1 ≤
      Function.update exchange.position call exchange.allocated other + 65535
    rcases cases other tag given with ⟨rfl, _⟩ | ⟨different, before⟩
    · rw [Function.update_self]
      omega
    · rw [Function.update_of_ne different]
      have unreturned : (exchange.session.calls other).isReturned = false := by
        rw [← kept other different]
        exact running
      exact timely other tag before unreturned

theorem Counted.step {exchange next : Exchange types} {action : ExchangeAction}
    (counted : Counted exchange) (timely : Timely exchange action)
    (exchanged : Exchanged protocol exchange action next) : Counted next := by
  cases exchanged with
  | @host action session unread taken =>
      have transition := transition_of_step protocol taken
      cases allocates : action.allocates with
      | false => exact counted.follow allocates transition
      | true =>
          cases action with
          | allocTag call => exact counted.allocate timely transition
          | _ => cases allocates
  | read count taken =>
      rcases read_session taken with ⟨_, rfl⟩
      exact counted.keep rfl rfl rfl (fun _ => rfl) (fun _ => id)
  | reply | emit => exact counted.keep rfl rfl rfl (fun _ => rfl) (fun _ => id)

/-! ## What is under way -/

inductive Arrival.Genuine (exchange : Exchange types) : Arrival → Prop
  | reply {call : CallId} {frame : Frame} (sent : (call, frame) ∈ exchange.replies)
      (given : (exchange.session.calls call).tag = some frame.tag) :
      Genuine exchange ⟨.ok frame, some call⟩
  | unasked {work : FrameWork} (unasked : work.unasked = true) : Genuine exchange ⟨work, none⟩

structure Carried (exchange : Exchange types) : Prop where
  batched : exchange.session.reader.works = exchange.batch.map Arrival.work
  genuine : ∀ arrival ∈ exchange.batch ++ exchange.incoming, Arrival.Genuine exchange arrival

theorem Arrival.Genuine.keep {exchange next : Exchange types} {arrival : Arrival}
    (genuine : Arrival.Genuine exchange arrival)
    (grows : ∀ reply ∈ exchange.replies, reply ∈ next.replies)
    (kept : ∀ call tag, (exchange.session.calls call).tag = some tag →
      (next.session.calls call).tag = some tag) : Arrival.Genuine next arrival := by
  cases genuine with
  | reply sent given => exact .reply (grows _ sent) (kept _ _ given)
  | unasked unasked => exact .unasked unasked

theorem Transition.works_left {state next : State types} {action : Action}
    (transition : Transition protocol state action next) (unread : action.isRead = false) :
    next.reader.works = action.leaves state.reader.works := by
  cases transition with
  | advance _ _ advances => cases advances <;> rfl
  | readerMoves current moves =>
      cases moves with
      | check =>
          rw [current]
          by_cases closed : state.closed = true <;>
            simp [closed, ReaderPhase.works, Action.leaves]
      | read => cases unread
      | leave | turn =>
          rw [current]
          rfl
  | register => simp [State.record, State.setPhase, State.insertSlot, Action.leaves]
  | cleanup => simp [State.setPhase, State.removeSlot, Action.leaves]
  | corrupt current | unanswered current | absorbed current | resolved current
  | reinsert current | readerDrain current =>
      rw [current]
      rfl
  | _ => rfl

theorem Action.leaves_map {Item Image : Type} (action : Action) (image : Item → Image)
    (items : List Item) : (action.leaves items).map image = action.leaves (items.map image) := by
  cases action with
  | readerDispatch => exact List.map_tail
  | _ => rfl

theorem Action.mem_of_leaves {Item : Type} {action : Action} {items : List Item} {item : Item}
    (member : item ∈ action.leaves items) : item ∈ items := by
  cases action with
  | readerDispatch => exact List.mem_of_mem_tail member
  | readerStop => cases member
  | _ => exact member

theorem Carried.step {exchange next : Exchange types} {action : ExchangeAction}
    (carried : Carried exchange) (exchanged : Exchanged protocol exchange action next) :
    Carried next := by
  cases exchanged with
  | @host action session unread taken =>
      have transition := transition_of_step protocol taken
      constructor
      · change session.reader.works = (action.leaves exchange.batch).map Arrival.work
        rw [transition.works_left unread, carried.batched, Action.leaves_map]
      · intro arrival member
        have before : arrival ∈ exchange.batch ++ exchange.incoming := by
          rcases List.mem_append.mp member with batched | coming
          · exact List.mem_append_left _ (Action.mem_of_leaves batched)
          · exact List.mem_append_right _ coming
        exact (carried.genuine arrival before).keep (fun _ sent => sent)
          (fun _ _ given => transition.keeps_tag given)
  | read count taken =>
      rcases read_session taken with ⟨_, rfl⟩
      refine ⟨rfl, ?_⟩
      intro arrival member
      rw [List.take_append_drop] at member
      exact (carried.genuine arrival (List.mem_append_right _ member)).keep
        (fun _ sent => sent) (fun _ _ given => given)
  | @reply call typeId tag payload given heard =>
      refine ⟨carried.batched, ?_⟩
      intro arrival member
      rw [← List.append_assoc] at member
      rcases List.mem_append.mp member with before | fresh
      · exact (carried.genuine arrival before).keep
          (fun _ sent => List.mem_cons_of_mem _ sent) (fun _ _ kept => kept)
      · cases List.mem_singleton.mp fresh
        exact .reply List.mem_cons_self given
  | @emit work unasked =>
      refine ⟨carried.batched, ?_⟩
      intro arrival member
      rw [← List.append_assoc] at member
      rcases List.mem_append.mp member with before | fresh
      · exact (carried.genuine arrival before).keep (fun _ sent => sent)
          (fun _ _ kept => kept)
      · cases List.mem_singleton.mp fresh
        exact .unasked unasked

theorem Carried.dispatching {exchange : Exchange types} (carried : Carried exchange)
    {frame : Frame} {works : List FrameWork}
    (current : exchange.session.reader = .dispatching (.ok frame :: works))
    (nonzero : frame.tag ≠ 0) :
    ∃ call rest, exchange.batch = ⟨.ok frame, some call⟩ :: rest ∧
      (call, frame) ∈ exchange.replies ∧
      (exchange.session.calls call).tag = some frame.tag := by
  have batched := carried.batched
  rw [current] at batched
  cases batch : exchange.batch with
  | nil =>
      rw [batch] at batched
      cases batched
  | cons arrival rest =>
      rw [batch] at batched
      have same : FrameWork.ok frame = arrival.work := (List.cons.inj batched).1
      cases carried.genuine arrival (by simp [batch]) with
      | reply sent given =>
          cases same
          exact ⟨_, rest, rfl, sent, given⟩
      | unasked unasked =>
          cases same
          exact absurd (by simpa [FrameWork.unasked] using unasked) nonzero

/-- A reply at the front of the batch finds the slot of its command, where that command
still waits for its answer. -/
theorem Carried.finds_slot {exchange : Exchange types} (carried : Carried exchange)
    (channeled : Channeled exchange.session) {call : CallId} {request : Request}
    {tag : UInt16} {frame : Frame} {rest : List Arrival}
    (waiting : exchange.session.calls call = .waiting request tag)
    (empty : exchange.session.channels call = .empty)
    (batch : exchange.batch = ⟨.ok frame, some call⟩ :: rest)
    (unheld : exchange.session.reader.hand = none) :
    frame.tag = tag ∧ exchange.session.pending.lookup tag = some ⟨request.typeId, call⟩ := by
  have same : frame.tag = tag := by
    cases carried.genuine ⟨.ok frame, some call⟩ (by simp [batch]) with
    | reply sent given =>
        rw [waiting] at given
        exact (Option.some.inj given).symm
  refine ⟨same, ?_⟩
  have registered : (exchange.session.calls call).registration = some (tag, request.typeId) := by
    rw [waiting]
    rfl
  rcases channeled.awaited call tag request.typeId registered empty with found | held
  · exact found
  · rw [unheld] at held
    cases held

/-! ## Answers -/

theorem Transition.matched {state next : State types} {action : Action}
    (transition : Transition protocol state action next) {serial : Nat} {frame : Frame}
    {slot : Pending} (member : .dispatched serial frame (some slot) ∈ next.history) :
    .dispatched serial frame (some slot) ∈ state.history ∨
      ∃ works, action = .readerDispatch ∧
        state.reader = .dispatching (.ok frame :: works) ∧ frame.tag ≠ 0 ∧
        state.pending.lookup frame.tag = some slot := by
  cases transition with
  | register | cleanup | reinsert | readerStop =>
      left
      simpa [State.record, State.setPhase, State.insertSlot, State.removeSlot] using member
  | readerDrain | closeDrain =>
      left
      simpa [State.drain] using member
  | unanswered =>
      left
      simpa [State.recordFrame] using member
  | absorbed current nonzero found =>
      rcases List.mem_cons.mp member with same | before
      · cases same
        exact .inr ⟨_, rfl, current, nonzero, found⟩
      · exact .inl before
  | resolved current nonzero found =>
      simp only [State.deliver, State.recordFrame, List.mem_cons, reduceCtorEq,
        false_or] at member
      rcases member with same | before
      · cases same
        exact .inr ⟨_, rfl, current, nonzero, found⟩
      · exact .inl before
  | _ => exact .inl member

def Phase.Failed (phase : Phase types) : Prop :=
  ∃ request tag error, phase = .returned request tag (.error error)

/-- Every frame was matched with the command it replies to, unless it came too late and
found the slot of a call that had failed. -/
def Matched (exchange : Exchange types) : Prop :=
  ∀ serial frame slot, .dispatched serial frame (some slot) ∈ exchange.session.history →
    (slot.waker, frame) ∈ exchange.replies ∨ (exchange.session.calls slot.waker).Failed

/-- The owner of a slot is running or has failed: whoever returned an answer has used up
its slot. -/
theorem running_or_failed {state : State types} (owned : Owned state)
    (recorded : Recorded protocol state) {tag : UInt16} {slot : Pending}
    (holds : state.Holds tag slot) :
    (state.calls slot.waker).isReturned = false ∨ (state.calls slot.waker).Failed := by
  cases phase : state.calls slot.waker with
  | returned request given result =>
      cases result with
      | error error => exact .inr ⟨request, given, error, rfl⟩
      | ok response =>
          rcases recorded.answered _ _ _ _ phase with ⟨source, delivered⟩
          have answered : slot.waker ∈ deliveredCalls state.history :=
            List.mem_filterMap.mpr ⟨_, delivered, rfl⟩
          exact absurd rfl (owned.spent _ answered tag slot holds)
  | _ => exact .inl rfl

theorem Matched.step {exchange next : Exchange types} {action : ExchangeAction}
    (matched : Matched exchange) (counted : Counted exchange) (carried : Carried exchange)
    (owned : Owned exchange.session) (recorded : Recorded protocol exchange.session)
    (timely : Timely exchange action) (exchanged : Exchanged protocol exchange action next) :
    Matched next := by
  cases exchanged with
  | @host action session unread taken =>
      have transition := transition_of_step protocol taken
      have stays : ∀ call, (exchange.session.calls call).Failed →
          (session.calls call).Failed := by
        rintro call ⟨request, tag, error, failed⟩
        exact ⟨request, tag, error, transition.stays_returned failed⟩
      intro serial frame slot member
      rcases transition.matched member with before | ⟨works, rfl, current, nonzero, found⟩
      · exact (matched serial frame slot before).imp id (stays slot.waker)
      · rcases running_or_failed owned recorded (.inl found) with running | failed
        · left
          rcases carried.dispatching current nonzero with ⟨call, rest, batch, sent, given⟩
          have recent : exchange.allocated ≤ exchange.position call + 65535 :=
            timely _ (by rw [batch]; rfl) call rfl
          have own : (exchange.session.calls slot.waker).tag = some frame.tag :=
            Phase.tag_of_registration (owned.owner frame.tag slot (.inl found))
          have young := counted.young slot.waker frame.tag own running
          rw [counted.same_call own given young recent]
          exact sent
        · exact .inr (stays slot.waker failed)
  | read count taken =>
      rcases read_session taken with ⟨_, rfl⟩
      exact matched
  | reply =>
      intro serial frame slot member
      exact (matched serial frame slot member).imp (List.mem_cons_of_mem _) id
  | emit => exact matched

/-! ## Slots -/

/-- A waker is dropped unused where its slot is overwritten or removed, and with the
reader that has it in its hand. -/
theorem Transition.drops {state next : State types} {action : Action}
    (transition : Transition protocol state action next) {call : CallId}
    (dropped : next.channels call = .senderDropped) :
    state.channels call = .senderDropped ∨ next.reader = .stopped ∨
      ∃ tag slot, state.pending.lookup tag = some slot ∧ slot.waker = call ∧
        ((∃ other request, action = .register other ∧
            state.calls other = .tagged request tag) ∨
          (∃ other request error, action = .cleanup other ∧
            state.calls other = .cleaning request tag error) ∨
          ∃ held, action = .readerReinsert ∧ state.reader.hand = some (tag, held)) := by
  have overwritten : ∀ tag, (state.dropWaker (state.pending.lookup tag)).channels call =
      .senderDropped → state.channels call = .senderDropped ∨
        ∃ slot, state.pending.lookup tag = some slot ∧ slot.waker = call := by
    intro tag after
    rw [State.dropWaker_channels] at after
    split at after
    · next own => exact .inr (Option.map_eq_some_iff.mp own)
    · exact .inl after
  cases transition with
  | @register other request tag current =>
      rcases overwritten tag dropped with before | ⟨slot, found, own⟩
      · exact .inl before
      · exact .inr (.inr ⟨tag, slot, found, own, .inl ⟨other, request, rfl, current⟩⟩)
  | @cleanup other request tag error current =>
      rcases overwritten tag dropped with before | ⟨slot, found, own⟩
      · exact .inl before
      · exact .inr (.inr ⟨tag, slot, found, own, .inr (.inl ⟨other, request, error, rfl, current⟩)⟩)
  | @reinsert tag held works current =>
      rcases overwritten tag dropped with before | ⟨slot, found, own⟩
      · exact .inl before
      · exact .inr (.inr ⟨tag, slot, found, own,
          .inr (.inr ⟨held, rfl, by rw [current]; rfl⟩)⟩)
  | @resolved frame works slot current nonzero found resolves =>
      left
      by_cases own : call = slot.waker
      · subst own
        simp only [State.deliver, State.recordFrame, Function.update_self] at dropped
        cases before : state.channels slot.waker <;> simp_all [Oneshot.send]
      · simpa [State.deliver, State.recordFrame, own] using dropped
  | readerDrain | closeDrain =>
      left
      simp only [State.drain] at dropped
      split at dropped
      · cases before : state.channels call <;> simp_all [Oneshot.send]
      · exact dropped
  | readerStop => exact .inr (.inl rfl)
  | _ => exact .inl dropped

theorem Transition.stays_stopped {state next : State types} {action : Action}
    (transition : Transition protocol state action next) (stopped : state.reader = .stopped) :
    next.reader = .stopped := by
  by_cases reader : action.task = .reader
  · cases transition with
    | advance _ _ advances => cases advances <;> cases reader
    | readerMoves current moves =>
        rw [stopped] at current
        subst current
        cases moves
    | corrupt current | unanswered current | absorbed current | resolved current
    | reinsert current | readerDrain current =>
        rw [stopped] at current
        cases current
    | readerStop => rfl
    | _ => cases reader
  · rw [(transition.keeps_reader reader).1]
    exact stopped

def Unbroken (exchange : Exchange types) : Prop :=
  ∀ call, (exchange.session.calls call).isReturned = false →
    exchange.session.channels call = .senderDropped → exchange.session.reader = .stopped

theorem Unbroken.step {exchange next : Exchange types} {action : ExchangeAction}
    (unbroken : Unbroken exchange) (counted : Counted exchange)
    (owned : Owned exchange.session) (timely : Timely exchange action)
    (exchanged : Exchanged protocol exchange action next) : Unbroken next := by
  cases exchanged with
  | @host action session unread taken =>
      have transition := transition_of_step protocol taken
      intro call running dropped
      have ran : (exchange.session.calls call).isReturned = false := by
        cases phase : exchange.session.calls call with
        | returned request tag result =>
            have returned := transition.stays_returned phase
            change (session.calls call).isReturned = false at running
            rw [returned] at running
            cases running
        | _ => rfl
      rcases transition.drops dropped with before | stopped | ⟨tag, slot, found, rfl, taken⟩
      · exact transition.stays_stopped (unbroken call ran before)
      · exact stopped
      · exfalso
        have registered := owned.owner tag slot (.inl found)
        have own := Phase.tag_of_registration registered
        have young := counted.young slot.waker tag own ran
        rcases taken with ⟨other, request, rfl, current⟩ | ⟨other, request, error, rfl, current⟩ |
          ⟨held, rfl, current⟩
        · have given : (exchange.session.calls other).tag = some tag := by rw [current]; rfl
          have same := counted.same_call own given young
            (counted.young other tag given (by rw [current]; rfl))
          rw [same, current] at registered
          cases registered
        · have given : (exchange.session.calls other).tag = some tag := by rw [current]; rfl
          have same := counted.same_call own given young
            (counted.young other tag given (by rw [current]; rfl))
          cases transition with
          | advance _ _ advances => cases advances
          | readerMoves _ moves => cases moves
          | cleanup =>
              rw [same] at running
              simp [Exchange.follow, State.setPhase, Phase.isReturned] at running
        · have given := Phase.tag_of_registration (owned.owner tag held (.inr current))
          have same := counted.same_call own given young (timely _ current)
          exact owned.apart tag held slot current found same
  | read count taken =>
      intro call running dropped
      rcases read_session taken with ⟨reading, rfl⟩
      have stopped := unbroken call running dropped
      rw [reading] at stopped
      cases stopped
  | reply | emit => exact unbroken

/-! ## Agreement -/

structure Agreeing (exchange : Exchange types) : Prop where
  counted : Counted exchange
  carried : Carried exchange
  matched : Matched exchange
  unbroken : Unbroken exchange

theorem agreeing_of_reachable {exchange : Exchange types}
    (reached : (exchangeMachine protocol).ReachableBy Timely exchange) :
    Agreeing exchange := by
  have all : (machine protocol).Reachable exchange.session ∧ Agreeing exchange := by
    apply reached.invariant
    · refine ⟨.initial, ?_, ?_, ?_, ?_⟩
      · exact ⟨rfl, nofun, nofun, nofun⟩
      · constructor <;> simp [exchangeMachine, spawn, ReaderPhase.works]
      · simp [Matched, exchangeMachine, spawn]
      · simp [Unbroken, exchangeMachine, spawn]
    · rintro current action next ⟨ran, agreeing⟩ timely stepped
      have exchanged := exchanged_of_step protocol stepped
      have owned := owned_of_reachable ran
      refine ⟨?_, agreeing.counted.step timely exchanged, agreeing.carried.step exchanged,
        agreeing.matched.step agreeing.counted agreeing.carried owned
          (recorded_of_reachable ran) timely exchanged,
        agreeing.unbroken.step agreeing.counted owned timely exchanged⟩
      cases exchanged with
      | host _ taken | read _ taken => exact .step ran trivial taken
      | reply | emit => exact ran
  exact all.2

/-- Dispatching a frame whose tag has a slot hands the answer to the owner of the slot, or
keeps the slot for the answer to come. -/
theorem dispatch_to_owner {state next : State types} {frame : Frame} {works : List FrameWork}
    {slot : Pending} (current : state.reader = .dispatching (.ok frame :: works))
    (nonzero : frame.tag ≠ 0) (found : state.pending.lookup frame.tag = some slot)
    (empty : state.channels slot.waker = .empty)
    (taken : (machine protocol).step state .readerDispatch = some next) :
    (absorbs protocol slot.cmdType frame.typeId = true ∧ next.Holds frame.tag slot ∧
      next.channels slot.waker = .empty) ∨
    next.channels slot.waker =
      .filled (resolve protocol slot.cmdType frame.typeId frame.payload) := by
  have dispatched : next = dispatchFrame protocol state frame works := by
    simp only [machine, step, Action.task, stepReader, current, Option.some.injEq] at taken
    exact taken.symm
  rw [dispatchFrame, if_neg nonzero, found] at dispatched
  cases absorbed : absorbs protocol slot.cmdType frame.typeId with
  | true =>
      left
      simp only [absorbed, if_true] at dispatched
      subst dispatched
      exact ⟨rfl, .inr rfl, empty⟩
  | false =>
      right
      simp only [absorbed, Bool.false_eq_true, if_false] at dispatched
      subst dispatched
      simp [State.deliver, State.recordFrame, empty, Oneshot.send]

/-- As long as nothing outlives a turn of the tag counter, host and device mean the same
command by a tag. What a call returns is the answer to its own command: the device sent
it in reply to that command. While the reader lives, a call that waits has not lost its
waker to another one. And a reply that is dispatched while its command waits is taken
for its answer, unless it is the `OK` of a `TX`, which keeps its slot. -/
theorem link_is_faithful {exchange : Exchange types}
    (reached : (exchangeMachine protocol).ReachableBy Timely exchange) :
    (∀ call request tag response,
      exchange.session.calls call = .returned request tag (.ok response) →
      (∀ reason, response ≠ .err (.transportClosed reason)) →
      ∃ frame, (call, frame) ∈ exchange.replies ∧ tag = some frame.tag ∧
        response = resolve protocol request.typeId frame.typeId frame.payload) ∧
    (∀ call request tag, exchange.session.calls call = .waiting request tag →
      exchange.session.reader ≠ .stopped →
      exchange.session.channels call ≠ .senderDropped) ∧
    (∀ call request tag frame rest next,
      exchange.session.calls call = .waiting request tag →
      exchange.session.channels call = .empty →
      exchange.batch = ⟨.ok frame, some call⟩ :: rest →
      (exchangeMachine protocol).step exchange (.host .readerDispatch) = some next →
      (absorbs protocol request.typeId frame.typeId = true ∧
        next.session.Holds frame.tag ⟨request.typeId, call⟩ ∧
        next.session.channels call = .empty) ∨
      next.session.channels call =
        .filled (resolve protocol request.typeId frame.typeId frame.payload)) := by
  have ran := session_reachable reached
  have agreeing := agreeing_of_reachable reached
  have owned := owned_of_reachable ran
  refine ⟨?_, ?_, ?_⟩
  · intro call request tag response returned notDrained
    rcases answered_by_frame ran returned notDrained with
      ⟨serial, frame, given, dispatched, _, same⟩
    rcases agreeing.matched serial frame _ dispatched with sent | ⟨_, _, _, failed⟩
    · exact ⟨frame, sent, given, same⟩
    · rw [returned] at failed
      cases failed
  · intro call request tag waiting alive dropped
    exact alive (agreeing.unbroken call (by rw [waiting]; rfl) dropped)
  · intro call request tag frame rest next waiting empty batch stepped
    have works := agreeing.carried.batched
    rw [batch] at works
    cases exchanged_of_step protocol stepped with
    | host _ taken =>
        -- Only a reader that dispatches takes this step, and it has read the reply.
        cases current : exchange.session.reader with
        | dispatching read =>
            rw [current] at works
            change read = .ok frame :: _ at works
            rw [works] at current
            rcases agreeing.carried.finds_slot (channeled_of_reachable ran) waiting empty batch
              (by rw [current]; rfl) with ⟨rfl, found⟩
            have nonzero : frame.tag ≠ 0 := by
              intro zero
              exact (tagsPositive_of_reachable ran).given call (by rw [waiting, ← zero]; rfl)
            exact dispatch_to_owner current nonzero found empty taken
        | reinserting => simp [machine, step, Action.task, stepReader, current] at taken
        | _ =>
            rw [current] at works
            cases works

/-! In a run that hands out fewer than 65535 tags, nothing can outlive a turn. -/

theorem timely_of_few {exchange : Exchange types} (few : exchange.allocated < 65535)
    (action : ExchangeAction) : Timely exchange action := by
  cases action with
  | host action =>
      cases action with
      | allocTag _ =>
          intro call tag _ _
          omega
      | readerDispatch =>
          intro arrival _ call _
          omega
      | readerReinsert =>
          intro held _
          omega
      | _ => trivial
  | _ => trivial

theorem Exchanged.allocated {exchange next : Exchange types} {action : ExchangeAction}
    (exchanged : Exchanged protocol exchange action next) :
    next.allocated ≤ exchange.allocated + 1 := by
  cases exchanged with
  | host =>
      refine Nat.add_le_add_left ?_ _
      split <;> omega
  | _ => exact Nat.le_succ _

theorem allows_timely {exchange : Exchange types} {actions : List ExchangeAction}
    (few : exchange.allocated + actions.length ≤ 65535) :
    (exchangeMachine protocol).Allows Timely exchange actions := by
  induction actions generalizing exchange with
  | nil => trivial
  | cons action actions induction =>
      rw [List.length_cons] at few
      refine ⟨timely_of_few (by omega) action, ?_⟩
      split
      · trivial
      · next stepped =>
        have grown := (exchanged_of_step protocol stepped).allocated
        exact induction (by omega)

def crossedReplies : List ExchangeAction :=
  [.host (.begin 0 ⟨1, []⟩), .host (.begin 1 ⟨1, []⟩), .host (.allocTag 0),
    .host (.allocTag 1), .host (.register 0), .host (.register 1), .host (.write 0 none),
    .host (.write 1 none), .reply 1 129 [3, 0], .emit .frame, .reply 0 128 [],
    .host .readerCheck, .read 3, .host .readerDispatch, .host .readerDispatch,
    .host .readerDispatch, .host (.receive 0), .host (.receive 1)]

theorem link_is_faithful_crossed :
    ∃ exchange, (exchangeMachine Protocol.sample).run
        (exchangeMachine Protocol.sample).initial crossedReplies = some exchange ∧
      exchange.session.calls 0 = .returned ⟨1, []⟩ (some 1) (.ok .empty) ∧
      exchange.session.calls 1 = .returned ⟨1, []⟩ (some 2) (.ok (.err .notConfigured)) ∧
      ∃ frame, (0, frame) ∈ exchange.replies ∧ frame.tag = 1 ∧
        resolve Protocol.sample 1 frame.typeId frame.payload = .empty := by
  have ran : ∃ exchange, (exchangeMachine Protocol.sample).run
      (exchangeMachine Protocol.sample).initial crossedReplies = some exchange ∧
      exchange.session.calls 0 = .returned ⟨1, []⟩ (some 1) (.ok .empty) ∧
      exchange.session.calls 1 = .returned ⟨1, []⟩ (some 2) (.ok (.err .notConfigured)) :=
    ⟨_, rfl, rfl, rfl⟩
  rcases ran with ⟨exchange, ran, first, second⟩
  have permitted : (exchangeMachine Protocol.sample).Allows Timely
      (exchangeMachine Protocol.sample).initial crossedReplies := allows_timely (by decide)
  have faithful := link_is_faithful (.run .initial permitted ran)
  rcases faithful.1 0 _ _ _ first nofun with ⟨frame, sent, given, same⟩
  exact ⟨exchange, ran, first, second, frame, sent, (Option.some.inj given).symm, same.symm⟩

end DongloraClient.Session
