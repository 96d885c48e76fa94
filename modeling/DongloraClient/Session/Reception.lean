import DongloraClient.Foundation.Delimited
import DongloraClient.Session.Writer

/-! # What arrives

On the wire a zero byte ends each frame and occurs nowhere in it. The device cuts the
stream there, so that a frame that breaks off runs into the next one: a `write_frame` call
that fails or is dropped in the middle of its frame spoils that of another call.
-/

namespace DongloraClient.Session

open Foundation

variable {types : WireTypes} (protocol : Protocol types)

def sentinel : UInt8 := 0

/-- An encoded frame ends in the sentinel and has it nowhere else. -/
def EndsInSentinel : Prop :=
  ∀ typeId tag payload wire, protocol.encodeFrame typeId tag payload = .ok wire →
    ∃ body, wire = body ++ [sentinel] ∧ sentinel ∉ body

namespace WriterState

variable (state : WriterState)

/-- What lies between the sentinels of the stream. -/
def arrived : List (List UInt8) := (Delimited.scan sentinel [] state.stream).1

def sent (call : Nat) : Bool := sentinel ∈ state.accepted call

def body (call : Nat) : List UInt8 := (state.accepted call).dropLast

def spoiled : Nat :=
  (state.arrived.zip ((state.order.filter state.sent).map state.body)).countP fun pair =>
    pair.1 ≠ pair.2

def torn : Nat :=
  state.order.countP fun call => !state.sent call && !(state.accepted call).isEmpty

end WriterState

def WritePhase.frame : WritePhase → Option Outbound
  | .idle => none
  | .locking frame _ | .writing frame _ | .returned frame _ | .dropped frame => some frame

def Carries (state : WriterState) (piece : List UInt8) (call : Nat) : Prop :=
  ∃ frame body, (state.calls call).frame = some frame ∧
    protocol.encodeFrame frame.typeId frame.tag frame.payload = .ok (body ++ [sentinel]) ∧
    body <:+ piece

section Arrivals

variable {protocol} {state : WriterState} {call : Nat}

theorem Segment.frame (segment : Segment protocol state call) :
    ∃ frame wire, (state.calls call).frame = some frame ∧
      protocol.encodeFrame frame.typeId frame.tag frame.payload = .ok wire ∧
      state.accepted call <+: wire := by
  rcases segment with ⟨frame, wire, encodes, begins, outcome⟩
  refine ⟨frame, wire, ?_, encodes, begins⟩
  rcases outcome with ⟨_, rest, phase⟩ | ⟨phase, _⟩ | ⟨error, phase⟩ | phase <;> rw [phase] <;> rfl

/-- Where a call stands that has acquired the lock: at a frame, of which the transport
has accepted all or something without the sentinel. -/
theorem Serialised.accepted_cases (serial : Serialised protocol state)
    (delimited : EndsInSentinel protocol) (ordered : call ∈ state.order) :
    ∃ frame body, (state.calls call).frame = some frame ∧ sentinel ∉ body ∧
      protocol.encodeFrame frame.typeId frame.tag frame.payload = .ok (body ++ [sentinel]) ∧
      (state.accepted call = body ++ [sentinel] ∨ state.accepted call <+: body) := by
  rcases (serial.segment ordered).frame with ⟨frame, wire, current, encodes, begins⟩
  rcases delimited _ _ _ _ encodes with ⟨body, rfl, inside⟩
  exact ⟨frame, body, current, inside, encodes, List.prefix_concat_iff.mp begins⟩

theorem Serialised.sentinel_last (serial : Serialised protocol state)
    (delimited : EndsInSentinel protocol) (ordered : call ∈ state.order) :
    sentinel ∉ (state.accepted call).dropLast := by
  rcases serial.accepted_cases delimited ordered with ⟨_, body, _, inside, _, whole | begins⟩
  · rw [whole, List.dropLast_concat]
    exact inside
  · intro member
    exact inside (begins.subset (List.dropLast_subset _ member))

theorem Serialised.accepted_of_sent (serial : Serialised protocol state)
    (delimited : EndsInSentinel protocol) (ordered : call ∈ state.order)
    (isSent : state.sent call = true) :
    ∃ frame, (state.calls call).frame = some frame ∧
      protocol.encodeFrame frame.typeId frame.tag frame.payload =
        .ok (state.body call ++ [sentinel]) := by
  rcases serial.accepted_cases delimited ordered with
    ⟨frame, body, current, inside, encodes, whole | begins⟩
  · refine ⟨frame, current, ?_⟩
    rw [WriterState.body, whole, List.dropLast_concat]
    exact encodes
  · have member : sentinel ∈ state.accepted call := by simpa [WriterState.sent] using isSent
    exact absurd (begins.subset member) inside

theorem Serialised.arrived_eq (serial : Serialised protocol state) :
    state.arrived = Delimited.pieces sentinel state.accepted [] state.order := by
  rw [WriterState.arrived, serial.segments, Delimited.pieces]

theorem Serialised.sent_of_ok (serial : Serialised protocol state)
    (delimited : EndsInSentinel protocol) {frame : Outbound}
    (returned : state.calls call = .returned frame (.ok ())) :
    call ∈ state.order ∧ state.sent call = true := by
  have ordered := serial.mem_order_of_ok returned
  have accepted := serial.locked call ordered
  rw [returned] at accepted
  rcases delimited _ _ _ _ accepted with ⟨body, whole, _⟩
  exact ⟨ordered, by simp [WriterState.sent, whole]⟩

theorem Serialised.unfinished (serial : Serialised protocol state)
    (delimited : EndsInSentinel protocol) (ordered : call ∈ state.order)
    (unsent : state.sent call = false) :
    state.holder = some call ∨ (∃ frame error, state.calls call = .returned frame (.error error)) ∨
      ∃ frame, state.calls call = .dropped frame := by
  rcases serial.segment ordered with ⟨frame, _, _, _, outcome⟩
  rcases outcome with ⟨held, _⟩ | ⟨returned, _⟩ | ⟨error, failed⟩ | dropped
  · exact .inl held
  · rw [(serial.sent_of_ok delimited returned).2] at unsent
    cases unsent
  · exact .inr (.inl ⟨frame, error, failed⟩)
  · exact .inr (.inr ⟨frame, dropped⟩)

end Arrivals

/-- A torn frame spoils one other frame and no more. Each frame that was sent to its end
arrives, in the order of the locks, behind whatever earlier calls have left on the wire
since the one before it; so it arrives as it was sent exactly if they have left nothing.
No more frames are spoiled than calls left the beginning of one, and only a call that is
still writing, has failed or was dropped leaves that: a call that returned `Ok` has sent
its frame, but cannot know that the device got it. -/
theorem torn_frame_spoils_one (state : WriterState) (delimited : EndsInSentinel protocol)
    (reached : (writerMachine protocol).Reachable state) :
    List.Forall₂ (Carries protocol state) state.arrived (state.order.filter state.sent) ∧
    (∀ before call after, state.order = before ++ call :: after → state.sent call = true →
      state.arrived[before.countP state.sent]? =
        some ((before.rtakeWhile fun earlier => !state.sent earlier).flatMap state.accepted ++
          state.body call)) ∧
    state.spoiled ≤ state.torn ∧
    (∀ call ∈ state.order, state.sent call = false →
      state.holder = some call ∨
      (∃ frame error, state.calls call = .returned frame (.error error)) ∨
      ∃ frame, state.calls call = .dropped frame) ∧
    ∀ call frame, state.calls call = .returned frame (.ok ()) →
      call ∈ state.order ∧ state.sent call = true := by
  have serial := serialised reached
  have inner : ∀ call ∈ state.order, sentinel ∉ (state.accepted call).dropLast :=
    fun call ordered => serial.sentinel_last delimited ordered
  refine ⟨?_, ?_, ?_, fun call => serial.unfinished delimited,
    fun call frame => serial.sent_of_ok delimited⟩
  · rw [serial.arrived_eq]
    apply Delimited.pieces_of_writers inner
    intro call ordered isSent piece ends
    rcases serial.accepted_of_sent delimited ordered isSent with ⟨frame, current, encodes⟩
    exact ⟨frame, state.body call, current, encodes, ends⟩
  · intro before call after order isSent
    rw [serial.arrived_eq, order]
    rw [order] at inner
    exact Delimited.pieces_getElem? inner isSent
  · have bounded := @Delimited.spoiled_le _ _ _ _ _ [] _ inner
    rw [List.isEmpty_nil, Bool.not_true, Bool.toNat_false, Nat.zero_add] at bounded
    rw [WriterState.spoiled, serial.arrived_eq]
    exact bounded

/-! ## A dropped call and two that return -/

def stuff (byte : UInt8) : List UInt8 :=
  if byte = 0 then [1, 1] else if byte = 1 then [1, 2] else [byte]

theorem sentinel_notMem_stuff (bytes : List UInt8) : sentinel ∉ bytes.flatMap stuff := by
  intro member
  rcases List.mem_flatMap.mp member with ⟨byte, _, stuffed⟩
  unfold stuff at stuffed
  split at stuffed
  · simp [sentinel] at stuffed
  · split at stuffed
    · simp [sentinel] at stuffed
    · next notZero _ => exact notZero (List.mem_singleton.mp stuffed).symm

def stuffedProtocol : Protocol WireTypes.sample :=
  { Protocol.sample with
    encodeFrame := fun typeId tag payload =>
      .ok (([typeId, tag.toUInt8, (tag >>> 8).toUInt8] ++ payload).flatMap stuff ++ [sentinel]) }

theorem stuffedProtocol_endsInSentinel : EndsInSentinel stuffedProtocol := by
  intro typeId tag payload wire encoded
  cases encoded
  exact ⟨_, rfl, sentinel_notMem_stuff _⟩

def droppedBeforeTwo : List WriteAction :=
  [.begin 0 ⟨9, 7, []⟩, .begin 1 ⟨9, 8, []⟩, .begin 2 ⟨9, 9, []⟩, .lock 0, .accept 0 2, .drop 0,
    .lock 1, .accept 1 5, .flush 1 none, .lock 2, .accept 2 5, .flush 2 none]

theorem torn_frame_spoils_one_dropped :
    ∃ state, (writerMachine stuffedProtocol).run (writerMachine stuffedProtocol).initial
        droppedBeforeTwo = some state ∧
      state.arrived = [[9, 7, 9, 8, 1, 1], [9, 9, 1, 1]] ∧
      state.spoiled = 1 ∧ state.spoiled ≤ state.torn ∧
      state.arrived[0]? = some ([9, 7] ++ state.body 1) := by
  have ran : ∃ state, (writerMachine stuffedProtocol).run
      (writerMachine stuffedProtocol).initial droppedBeforeTwo = some state ∧
      state.arrived = [[9, 7, 9, 8, 1, 1], [9, 9, 1, 1]] ∧ state.spoiled = 1 ∧
      state.order = [0, 1, 2] ∧ state.sent 1 = true ∧ state.sent 0 = false ∧
      state.accepted 0 = [9, 7] :=
    ⟨_, rfl, by decide, by decide, rfl, by decide, by decide, rfl⟩
  rcases ran with ⟨state, ran, arrived, spoiled, order, isSent, unsent, first⟩
  have general := torn_frame_spoils_one stuffedProtocol state stuffedProtocol_endsInSentinel
    (.run .initial ran)
  refine ⟨state, ran, arrived, spoiled, general.2.2.1, ?_⟩
  have piece := general.2.1 [0] 1 [2] order isSent
  simpa [unsent, first, List.rtakeWhile] using piece

end DongloraClient.Session
