import DongloraClient.Session.Ownership

/-! # Responses reach the command they answer

What the history of a run says about the responses its commands were sent: each
was computed from a frame with the command's own tag, dispatched after the
command had registered, or is the `TransportClosed` of a drain.
-/

namespace DongloraClient.Session

variable {types : WireTypes} {protocol : Protocol types}

/-! ## How a step extends the history -/

theorem Transition.history_grows {state next : State types} {action : Action}
    (transition : Transition protocol state action next) :
    ∃ fresh, next.history = fresh ++ state.history := by
  cases transition with
  | register => exact ⟨[_], by simp [State.record, State.setPhase, State.insertSlot]; rfl⟩
  | cleanup => exact ⟨[], by simp [State.setPhase, State.removeSlot]⟩
  | unanswered => exact ⟨[_], rfl⟩
  | absorbed => exact ⟨[_], rfl⟩
  | resolved => exact ⟨[_, _], rfl⟩
  | reinsert => exact ⟨[], by simp [State.insertSlot]⟩
  | readerDrain => exact ⟨_, rfl⟩
  | readerStop => exact ⟨[], by simp⟩
  | closeDrain => exact ⟨_, rfl⟩
  | _ => exact ⟨[], rfl⟩

/-- The event that made `response` out of a frame: `call` was registered under
the frame's tag by then, and the frame was read as an answer to its command. -/
def ComputedFrom (protocol : Protocol types) (history : List (Event types))
    (call : CallId) (response : SessionResponse types) (serial : Nat) : Prop :=
  ∃ frame cmdType newer older,
    history = newer ++ .dispatched serial frame (some ⟨cmdType, call⟩) :: older ∧
    .registered call frame.tag cmdType ∈ older ∧ frame.tag ≠ 0 ∧
    response = resolve protocol cmdType frame.typeId frame.payload

theorem ComputedFrom.append {history : List (Event types)} {call : CallId}
    {response : SessionResponse types} {serial : Nat}
    (computed : ComputedFrom protocol history call response serial)
    (fresh : List (Event types)) :
    ComputedFrom protocol (fresh ++ history) call response serial := by
  rcases computed with ⟨frame, cmdType, newer, older, split, rest⟩
  exact ⟨frame, cmdType, fresh ++ newer, older, by simp [split], rest⟩

def Explained (protocol : Protocol types) (history : List (Event types))
    (call : CallId) (response : SessionResponse types) : Source → Prop
  | .frame serial => ComputedFrom protocol history call response serial
  | .drain => ∃ reason, response = .err (.transportClosed reason)

theorem Explained.append {history : List (Event types)} {call : CallId}
    {response : SessionResponse types} {source : Source}
    (explained : Explained protocol history call response source)
    (fresh : List (Event types)) :
    Explained protocol (fresh ++ history) call response source := by
  cases source with
  | frame serial => exact ComputedFrom.append explained fresh
  | drain => exact explained

/-! ## The invariant -/

structure Recorded (protocol : Protocol types) (state : State types) : Prop where
  registered : ∀ call tag cmdType,
    (state.calls call).registration = some (tag, cmdType) →
    .registered call tag cmdType ∈ state.history
  truthful : ∀ call tag cmdType, .registered call tag cmdType ∈ state.history →
    (state.calls call).registration = some (tag, cmdType)
  numbered : ∀ serial frame slot, .dispatched serial frame slot ∈ state.history →
    serial < state.serial
  distinct : ∀ serial frame slot other found,
    .dispatched serial frame slot ∈ state.history →
    .dispatched serial other found ∈ state.history → frame = other ∧ slot = found
  explained : ∀ call response source,
    .delivered call response source ∈ state.history →
    Explained protocol state.history call response source
  filled : ∀ call response, state.channels call = .filled response →
    ∃ source, .delivered call response source ∈ state.history
  answered : ∀ call request tag response,
    state.calls call = .returned request tag (.ok response) →
    ∃ source, .delivered call response source ∈ state.history

theorem Recorded.spawn : Recorded protocol (spawn : State types) := by
  constructor <;> simp [Session.spawn, Phase.registration]

section Preservation

variable {state next : State types} {action : Action}

theorem Recorded.registered_step (recorded : Recorded protocol state)
    (transition : Transition protocol state action next) (call : CallId)
    (tag : UInt16) (cmdType : UInt8)
    (registered : (next.calls call).registration = some (tag, cmdType)) :
    .registered call tag cmdType ∈ next.history := by
  have keep : (state.calls call).registration = some (tag, cmdType) →
      .registered call tag cmdType ∈ next.history := by
    intro before
    rcases transition.history_grows with ⟨fresh, grown⟩
    rw [grown]
    exact List.mem_append_right _ (recorded.registered call tag cmdType before)
  cases transition.callStep call with
  | keeps same =>
      rw [same] at registered
      exact keep registered
  | advance current reached advances =>
      rw [reached, advances.registration, ← current] at registered
      exact keep registered
  | allocTag _ reached =>
      rw [reached] at registered
      cases registered
  | register _ reached _ recorded =>
      rw [reached] at registered
      cases registered
      exact recorded
  | cleanup current reached =>
      rw [reached] at registered
      apply keep
      rw [current]
      exact registered

theorem Recorded.truthful_step (recorded : Recorded protocol state)
    (transition : Transition protocol state action next) (call : CallId)
    (tag : UInt16) (cmdType : UInt8)
    (member : .registered call tag cmdType ∈ next.history) :
    (next.calls call).registration = some (tag, cmdType) := by
  have keep : .registered call tag cmdType ∈ state.history →
      (next.calls call).registration = some (tag, cmdType) := by
    intro before
    exact transition.registration (recorded.truthful call tag cmdType before)
  cases transition with
  | register other current =>
      rcases List.mem_cons.mp member with same | before
      · cases same
        simp [State.record, State.setPhase, Phase.registration]
      · exact keep (by simpa [State.setPhase, State.insertSlot] using before)
  | cleanup | reinsert | readerStop =>
      exact keep (by
        simpa [State.setPhase, State.insertSlot, State.removeSlot] using member)
  | unanswered | absorbed | resolved =>
      exact keep (by simpa [State.deliver, State.recordFrame] using member)
  | readerDrain | closeDrain => exact keep (by simpa [State.drain] using member)
  | _ => exact keep member

theorem Transition.dispatched (transition : Transition protocol state action next)
    {serial : Nat} {frame : Frame} {slot : Option Pending}
    (member : .dispatched serial frame slot ∈ next.history) :
    (.dispatched serial frame slot ∈ state.history ∧ state.serial ≤ next.serial) ∨
      (serial = state.serial ∧ next.serial = state.serial + 1 ∧
        ∀ other found, .dispatched serial other found ∈ next.history →
          .dispatched serial other found ∈ state.history ∨
            (other = frame ∧ found = slot)) := by
  cases transition with
  | register | cleanup | reinsert | readerStop =>
      left
      simpa [State.record, State.setPhase, State.insertSlot, State.removeSlot] using member
  | readerDrain | closeDrain =>
      left
      simpa [State.drain] using member
  | unanswered | absorbed =>
      rcases List.mem_cons.mp member with same | before
      · cases same
        refine .inr ⟨rfl, rfl, ?_⟩
        intro other found also
        rcases List.mem_cons.mp also with same | before
        · cases same
          exact .inr ⟨rfl, rfl⟩
        · exact .inl before
      · exact .inl ⟨before, Nat.le_succ _⟩
  | resolved =>
      simp only [State.deliver, State.recordFrame, List.mem_cons, reduceCtorEq,
        false_or] at member
      rcases member with same | before
      · cases same
        refine .inr ⟨rfl, rfl, ?_⟩
        intro other found also
        simp only [State.deliver, State.recordFrame, List.mem_cons, reduceCtorEq,
          false_or] at also
        rcases also with same | before
        · cases same
          exact .inr ⟨rfl, rfl⟩
        · exact .inl before
      · exact .inl ⟨before, Nat.le_succ _⟩
  | _ => exact .inl ⟨member, Nat.le_refl _⟩

theorem Recorded.numbered_step (recorded : Recorded protocol state)
    (transition : Transition protocol state action next) (serial : Nat) (frame : Frame)
    (slot : Option Pending) (member : .dispatched serial frame slot ∈ next.history) :
    serial < next.serial := by
  rcases transition.dispatched member with ⟨before, grown⟩ | ⟨rfl, grown, _⟩
  · exact Nat.lt_of_lt_of_le (recorded.numbered serial frame slot before) grown
  · omega

theorem Recorded.distinct_step (recorded : Recorded protocol state)
    (transition : Transition protocol state action next) (serial : Nat)
    (frame : Frame) (slot : Option Pending) (other : Frame) (found : Option Pending)
    (member : .dispatched serial frame slot ∈ next.history)
    (alsoMember : .dispatched serial other found ∈ next.history) :
    frame = other ∧ slot = found := by
  rcases transition.dispatched member with ⟨before, _⟩ | ⟨fresh, _, others⟩
  · rcases transition.dispatched alsoMember with ⟨alsoBefore, _⟩ | ⟨fresh, _, _⟩
    · exact recorded.distinct serial frame slot other found before alsoBefore
    · exact absurd (recorded.numbered serial frame slot before) (by omega)
  · rcases others other found alsoMember with before | ⟨rfl, rfl⟩
    · exact absurd (recorded.numbered serial other found before) (by omega)
    · exact ⟨rfl, rfl⟩

theorem Recorded.explained_step (recorded : Recorded protocol state) (owned : Owned state)
    (transition : Transition protocol state action next) (call : CallId)
    (response : SessionResponse types) (source : Source)
    (member : .delivered call response source ∈ next.history) :
    Explained protocol next.history call response source := by
  have keep : .delivered call response source ∈ state.history →
      Explained protocol next.history call response source := by
    intro before
    rcases transition.history_grows with ⟨fresh, grown⟩
    rw [grown]
    exact (recorded.explained call response source before).append fresh
  have drained : ∀ reason, .delivered call response source ∈ (state.drain reason).history →
      .delivered call response source ∉ state.history →
      source = .drain ∧ response = .err (.transportClosed reason) := by
    intro reason appended absent
    rcases List.mem_append.mp appended with fresh | before
    · rcases List.mem_map.mp fresh with ⟨entry, _, same⟩
      cases same
      exact ⟨rfl, rfl⟩
    · exact absurd before absent
  by_cases before : .delivered call response source ∈ state.history
  · exact keep before
  · cases transition with
    | resolved current nonzero found resolves =>
        rename_i frame works slot
        simp only [State.deliver, State.recordFrame, List.mem_cons, reduceCtorEq,
          false_or] at member
        rcases member with same | old
        · cases same
          refine ⟨frame, slot.cmdType, [_], state.history, rfl, ?_, nonzero, rfl⟩
          exact recorded.registered _ _ _ (owned.owner frame.tag slot (.inl found))
        · exact absurd old before
    | readerDrain =>
        rcases drained _ member before with ⟨rfl, rfl⟩
        exact ⟨_, rfl⟩
    | closeDrain =>
        rcases drained _ member before with ⟨rfl, rfl⟩
        exact ⟨_, rfl⟩
    | register | cleanup | reinsert | readerStop =>
        exact absurd (by
          simpa [State.record, State.setPhase, State.insertSlot, State.removeSlot]
            using member) before
    | unanswered | absorbed =>
        exact absurd (by simpa [State.recordFrame] using member) before
    | _ => exact absurd member before

theorem dropWaker_filled {slot : Option Pending} {call : CallId}
    {response : SessionResponse types}
    (filled : (state.dropWaker slot).channels call = .filled response) :
    state.channels call = .filled response := by
  rw [State.dropWaker_channels] at filled
  split at filled
  · exact Oneshot.dropSender_eq_filled.mp filled
  · exact filled

theorem drain_filled {reason : String} {call : CallId} {response : SessionResponse types}
    (filled : (state.drain reason).channels call = .filled response) :
    state.channels call = .filled response ∨
      .delivered call response .drain ∈ (state.drain reason).history := by
  simp only [State.drain] at filled
  split at filled
  · next waked =>
    rcases Oneshot.send_eq_filled.mp filled with before | ⟨_, rfl⟩
    · exact .inl before
    · rcases List.any_eq_true.mp waked with ⟨entry, member, same⟩
      refine .inr (List.mem_append_left _ (List.mem_map.mpr ⟨entry, member, ?_⟩))
      simp only [beq_iff_eq] at same
      rw [same]
  · exact .inl filled

/-- A channel is only ever filled by a delivery. -/
theorem Transition.filled (transition : Transition protocol state action next)
    {call : CallId} {response : SessionResponse types}
    (filled : next.channels call = .filled response) :
    state.channels call = .filled response ∨
      ∃ source, .delivered call response source ∈ next.history := by
  cases transition with
  | register | cleanup | reinsert | readerStop => exact .inl (dropWaker_filled filled)
  | readerDrain | closeDrain =>
      rcases drain_filled filled with before | delivered
      · exact .inl before
      · exact .inr ⟨_, delivered⟩
  | @resolved frame works slot current nonzero found resolves =>
      by_cases own : call = slot.waker
      · subst own
        simp only [State.deliver, State.recordFrame, Function.update_self] at filled
        rcases Oneshot.send_eq_filled.mp filled with before | ⟨_, rfl⟩
        · exact .inl before
        · exact .inr ⟨_, List.mem_cons_self⟩
      · simp only [State.deliver, State.recordFrame, Function.update_of_ne own] at filled
        exact .inl filled
  | _ => exact .inl filled

theorem Recorded.filled_step (recorded : Recorded protocol state)
    (transition : Transition protocol state action next) (call : CallId)
    (response : SessionResponse types) (filled : next.channels call = .filled response) :
    ∃ source, .delivered call response source ∈ next.history := by
  rcases transition.filled filled with before | delivered
  · rcases recorded.filled call response before with ⟨source, member⟩
    rcases transition.history_grows with ⟨fresh, grown⟩
    exact ⟨source, grown ▸ List.mem_append_right _ member⟩
  · exact delivered

theorem Transition.answered (transition : Transition protocol state action next)
    {call : CallId} {request : Request} {tag : Option UInt16}
    {response : SessionResponse types}
    (returned : next.calls call = .returned request tag (.ok response)) :
    state.calls call = .returned request tag (.ok response) ∨
      state.channels call = .filled response := by
  cases transition.callStep call with
  | keeps same => exact .inl (same.symm.trans returned)
  | advance current reached advances =>
      rw [returned] at reached
      subst reached
      cases advances with
      | received _ filled => exact .inr filled
  | allocTag _ reached | register _ reached _ _ | cleanup _ reached =>
      rw [returned] at reached
      cases reached

theorem Recorded.answered_step (recorded : Recorded protocol state)
    (transition : Transition protocol state action next) (call : CallId)
    (request : Request) (tag : Option UInt16) (response : SessionResponse types)
    (returned : next.calls call = .returned request tag (.ok response)) :
    ∃ source, .delivered call response source ∈ next.history := by
  have before : ∃ source, .delivered call response source ∈ state.history := by
    rcases transition.answered returned with already | filled
    · exact recorded.answered call request tag response already
    · exact recorded.filled call response filled
  rcases before with ⟨source, member⟩
  rcases transition.history_grows with ⟨fresh, grown⟩
  exact ⟨source, grown ▸ List.mem_append_right _ member⟩

theorem Recorded.step (recorded : Recorded protocol state) (owned : Owned state)
    (transition : Transition protocol state action next) : Recorded protocol next where
  registered := recorded.registered_step transition
  truthful := recorded.truthful_step transition
  numbered := recorded.numbered_step transition
  distinct := recorded.distinct_step transition
  explained := recorded.explained_step owned transition
  filled := recorded.filled_step transition
  answered := recorded.answered_step transition

end Preservation

theorem recorded_of_reachable {allowed : State types → Action → Prop} {state : State types}
    (reached : (machine protocol).ReachableBy allowed state) : Recorded protocol state := by
  have both : Owned state ∧ Recorded protocol state := by
    apply reached.invariant ⟨Owned.spawn, Recorded.spawn⟩
    intro current action next holds _ stepped
    have transition := transition_of_step protocol stepped
    exact ⟨holds.1.step transition, holds.2.step holds.1 transition⟩
  exact both.2

/-! ## What a returned call says -/

theorem Transition.stays_returned {state next : State types} {action : Action}
    (transition : Transition protocol state action next) {call : CallId}
    {request : Request} {tag : Option UInt16} {result : ClientResult (SessionResponse types)}
    (returned : state.calls call = .returned request tag result) :
    next.calls call = .returned request tag result := by
  cases transition.callStep call with
  | keeps same => exact same.trans returned
  | advance current _ advances =>
      rw [returned] at current
      subst current
      cases advances
  | allocTag current _ | register current _ _ _ | cleanup current _ =>
      rw [returned] at current
      cases current

/-- The errors that `send_command` itself returns, without a word from the device. -/
def localError : ClientError → Bool
  | .timeout _ | .transportClosed _ | .readerExited | .encodeFailed _ | .io _ => true
  | _ => false

def Phase.FailsLocally : Phase types → Prop
  | .cleaning _ _ error => localError error = true
  | .returned _ _ (.error error) => localError error = true
  | _ => True

theorem Transition.failsLocally {state next : State types} {action : Action}
    (transition : Transition protocol state action next)
    (before : ∀ call, (state.calls call).FailsLocally) (call : CallId) :
    (next.calls call).FailsLocally := by
  have earlier := before call
  cases transition.callStep call with
  | keeps same =>
      rw [same]
      exact earlier
  | advance _ reached advances =>
      rw [reached]
      cases advances <;> simp [Phase.FailsLocally, localError]
  | allocTag _ reached | register _ reached _ _ =>
      rw [reached]
      trivial
  | cleanup current reached =>
      rw [current] at earlier
      rw [reached]
      exact earlier

theorem failsLocally_of_reachable {allowed : State types → Action → Prop}
    {state : State types} (reached : (machine protocol).ReachableBy allowed state)
    (call : CallId) : (state.calls call).FailsLocally := by
  have all : ∀ call, (state.calls call).FailsLocally := by
    apply reached.invariant
    · exact fun _ => trivial
    · intro current action next before _ stepped
      exact (transition_of_step protocol stepped).failsLocally before
  exact all call

/-- A call that returned a response other than the `TransportClosed` of a drain was
answered by a frame with its own tag. -/
theorem Recorded.answered_by_frame {state : State types} (recorded : Recorded protocol state)
    {call : CallId} {request : Request} {tag : Option UInt16} {response : SessionResponse types}
    (returned : state.calls call = .returned request tag (.ok response))
    (notDrained : ∀ reason, response ≠ .err (.transportClosed reason)) :
    ∃ serial frame, tag = some frame.tag ∧
      .dispatched serial frame (some ⟨request.typeId, call⟩) ∈ state.history ∧
      .delivered call response (.frame serial) ∈ state.history ∧
      response = resolve protocol request.typeId frame.typeId frame.payload := by
  rcases recorded.answered call request tag response returned with ⟨source, delivered⟩
  have explained := recorded.explained call response source delivered
  cases source with
  | drain =>
      rcases explained with ⟨reason, same⟩
      exact absurd same (notDrained reason)
  | frame serial =>
      rcases explained with ⟨frame, cmdType, newer, older, split, registered, _, same⟩
      have registration := recorded.truthful call frame.tag cmdType (by simp [split, registered])
      rw [returned] at registration
      cases tag with
      | none => cases registration
      | some tag =>
          simp only [Phase.registration, Option.map_some, Option.some.injEq,
            Prod.mk.injEq] at registration
          rcases registration with ⟨rfl, rfl⟩
          exact ⟨serial, frame, rfl, by simp [split], delivered, same⟩

theorem answered_by_frame {allowed : State types → Action → Prop} {state : State types}
    (reached : (machine protocol).ReachableBy allowed state) {call : CallId}
    {request : Request} {tag : Option UInt16} {response : SessionResponse types}
    (returned : state.calls call = .returned request tag (.ok response))
    (notDrained : ∀ reason, response ≠ .err (.transportClosed reason)) :
    ∃ serial frame, tag = some frame.tag ∧
      .dispatched serial frame (some ⟨request.typeId, call⟩) ∈ state.history ∧
      .delivered call response (.frame serial) ∈ state.history ∧
      response = resolve protocol request.typeId frame.typeId frame.payload :=
  (recorded_of_reachable reached).answered_by_frame returned notDrained

/-! ## No cross-talk -/

/-- In every interleaving, whatever a command is sent is either the
`TransportClosed` of a drain or was computed, as an answer to that command, from
a frame with its tag that was dispatched after it registered; no frame answers
two commands, no command is answered twice, a frame with tag 0 or without a slot
answers nobody, and a call returns `Ok` only with what it was sent. -/
theorem no_crosstalk {state : State types}
    (reached : (machine protocol).Reachable state) :
    (∀ call response source, .delivered call response source ∈ state.history →
      (∃ serial frame cmdType newer older, source = .frame serial ∧
        (state.calls call).registration = some (frame.tag, cmdType) ∧
        state.history =
          newer ++ .dispatched serial frame (some ⟨cmdType, call⟩) :: older ∧
        .registered call frame.tag cmdType ∈ older ∧
        response = resolve protocol cmdType frame.typeId frame.payload) ∨
      (source = .drain ∧ ∃ reason, response = .err (.transportClosed reason))) ∧
    (∀ serial call other response second,
      .delivered call response (.frame serial) ∈ state.history →
      .delivered other second (.frame serial) ∈ state.history → call = other) ∧
    (deliveredCalls state.history).Nodup ∧
    (∀ serial frame slot, .dispatched serial frame slot ∈ state.history →
      frame.tag = 0 ∨ slot = none →
      ∀ call response, .delivered call response (.frame serial) ∉ state.history) ∧
    (∀ call request tag response,
      state.calls call = .returned request tag (.ok response) →
      ∃ source, .delivered call response source ∈ state.history) := by
  have owned := owned_of_reachable reached
  have recorded := recorded_of_reachable reached
  refine ⟨?_, ?_, owned.once, ?_, recorded.answered⟩
  · intro call response source member
    have explained := recorded.explained call response source member
    cases source with
    | drain => exact .inr ⟨rfl, explained⟩
    | frame serial =>
        rcases explained with ⟨frame, cmdType, newer, older, split, registered, _, same⟩
        have registration := recorded.truthful call frame.tag cmdType
          (by simp [split, registered])
        exact .inl ⟨serial, frame, cmdType, newer, older, rfl, registration, split,
          registered, same⟩
  · intro serial call other response second member alsoMember
    rcases recorded.explained _ _ _ member with ⟨frame, cmdType, newer, older, split, _⟩
    rcases recorded.explained _ _ _ alsoMember with
      ⟨found, foundType, later, earlier, alsoSplit, _⟩
    have same := recorded.distinct serial frame (some ⟨cmdType, call⟩) found
      (some ⟨foundType, other⟩) (by simp [split]) (by simp [alsoSplit])
    simp only [Option.some.injEq, Pending.mk.injEq] at same
    exact same.2.2
  · intro serial frame slot dispatched nobody call response member
    rcases recorded.explained _ _ _ member with
      ⟨found, cmdType, newer, older, split, _, nonzero, _⟩
    have same := recorded.distinct serial frame slot found (some ⟨cmdType, call⟩)
      dispatched (by simp [split])
    rcases nobody with zero | none
    · exact nonzero (same.1 ▸ zero)
    · simp [none] at same

def crossedCommands : List Action :=
  [.begin 0 ⟨4, [0, 7]⟩, .begin 1 ⟨1, []⟩, .allocTag 0, .allocTag 1, .register 1,
    .register 0, .write 0 none, .write 1 none, .readerCheck,
    .readerRead [.ok ⟨128, 2, []⟩, .ok ⟨128, 1, []⟩, .ok ⟨193, 1, [0, 9, 0, 0, 0]⟩],
    .readerDispatch, .readerDispatch, .readerReinsert, .readerDispatch, .receive 0, .receive 1]

theorem no_crosstalk_crossedCommands :
    ∃ state, (machine Protocol.sample).run spawn crossedCommands = some state ∧
      (deliveredCalls state.history).Nodup ∧
      (∃ serial frame, frame.tag = 1 ∧
        .delivered 0 (.txDone ⟨.transmitted, 9⟩) (.frame serial) ∈ state.history ∧
        .dispatched serial frame (some ⟨4, 0⟩) ∈ state.history) ∧
      ∃ serial frame, frame.tag = 2 ∧
        .delivered 1 .empty (.frame serial) ∈ state.history ∧
        .dispatched serial frame (some ⟨1, 1⟩) ∈ state.history := by
  have ran : ∃ state, (machine Protocol.sample).run spawn crossedCommands = some state ∧
      state.calls 0 =
        .returned ⟨4, [0, 7]⟩ (some 1) (.ok (.txDone ⟨.transmitted, 9⟩)) ∧
      state.calls 1 = .returned ⟨1, []⟩ (some 2) (.ok .empty) := ⟨_, rfl, rfl, rfl⟩
  rcases ran with ⟨state, ran, transmitted, pinged⟩
  have correlated := no_crosstalk (Foundation.Machine.Reachable.run .initial ran)
  have answered : ∀ call request tag response,
      state.calls call = .returned request (some tag) (.ok response) →
      (∀ reason, response ≠ .err (.transportClosed reason)) →
      ∃ serial frame, frame.tag = tag ∧
        .delivered call response (.frame serial) ∈ state.history ∧
        .dispatched serial frame (some ⟨request.typeId, call⟩) ∈ state.history := by
    intro call request tag response returned other
    rcases correlated.2.2.2.2 _ _ _ _ returned with ⟨source, delivered⟩
    rcases correlated.1 _ _ _ delivered with
      ⟨serial, frame, cmdType, _, _, rfl, registration, split, _⟩ | ⟨_, reason, drained⟩
    · rw [returned] at registration
      cases registration
      exact ⟨serial, frame, rfl, delivered, by simp [split]⟩
    · exact absurd drained (other reason)
  exact ⟨state, ran, correlated.2.2.1, answered 0 _ _ _ transmitted (by simp),
    answered 1 _ _ _ pinged (by simp)⟩

end DongloraClient.Session
