import DongloraClient.Session.Dispatch

/-! # The reader loop

`reader_loop` as a function of what its reads return, and a reference semantics
that treats every tag and every queue on its own. The two agree on every byte
stream, however it is cut into reads.
-/

namespace DongloraClient.Session

inductive ReadOutcome
  | ok (bytes : List UInt8)
  | err

/-- One turn of the loop: the closed flag as loaded at its top, and what the read
returned. -/
structure Iteration where
  closed : Bool
  read : ReadOutcome

inductive LoopStatus
  | reading
  | left
  deriving DecidableEq, Repr

variable {types : WireTypes} (protocol : Protocol types)

def drainReader (inbound : Inbound types) : Inbound types :=
  { inbound with
    pending := ∅
    completions := inbound.completions ++ inbound.pending.entries.map fun entry =>
      ⟨entry.1, entry.2.waker, .err (.transportClosed "reader exited")⟩ }

def readerLoop (decoder : FrameDecoder) :
    decoder.State → List Iteration → Inbound types → LoopStatus × Inbound types
  | _, [], inbound => (.reading, inbound)
  | state, iteration :: iterations, inbound =>
      if iteration.closed then
        (.left, drainReader inbound)
      else
        match iteration.read with
        | .err => (.left, drainReader inbound)
        | .ok [] => (.left, drainReader inbound)
        | .ok (byte :: bytes) =>
            let fed := decoder.feed state (byte :: bytes)
            readerLoop decoder fed.1 iterations
              (dispatchAll protocol (fed.2.map FrameWork.ofResult) inbound)

def Iteration.reads (bytes : List UInt8) : Iteration := ⟨false, .ok bytes⟩

theorem dispatchAll_append (first second : List FrameWork) (inbound : Inbound types) :
    dispatchAll protocol (first ++ second) inbound =
      dispatchAll protocol second (dispatchAll protocol first inbound) := by
  simp [dispatchAll]

/-- Reading chunk after chunk dispatches the decoder's whole output in order. -/
theorem readerLoop_reads (decoder : FrameDecoder) (state : decoder.State)
    (chunks : List (List UInt8)) (nonempty : ∀ chunk ∈ chunks, chunk ≠ [])
    (inbound : Inbound types) :
    readerLoop protocol decoder state (chunks.map Iteration.reads) inbound =
      (.reading, dispatchAll protocol
        ((decoder.feedAll state chunks).map FrameWork.ofResult) inbound) := by
  induction chunks generalizing state inbound with
  | nil => rfl
  | cons chunk chunks induction =>
      have later : ∀ other ∈ chunks, other ≠ [] := by
        intro other member
        exact nonempty other (by simp [member])
      cases chunk with
      | nil => exact absurd rfl (nonempty [] (by simp))
      | cons byte bytes =>
          simp only [List.map_cons, readerLoop, Iteration.reads, Bool.false_eq_true,
            if_false]
          rw [FrameDecoder.feedAll, List.map_append, dispatchAll_append]
          exact induction _ later _

/-! ## The reference semantics -/

namespace Reference

def framesOf (tag : UInt16) (works : List FrameWork) : List Frame :=
  works.filterMap fun
    | .ok frame => if frame.tag = tag then some frame else none
    | .frame => none

/-- The frame that settles a command: the first of its frames, except that a
`TX` passes over every `OK`. -/
def decisive (cmdType : UInt8) (frames : List Frame) : Option Frame :=
  if cmdType = protocol.typeTx then
    frames.find? fun frame => frame.typeId ≠ protocol.typeOk
  else
    frames.head?

def ofOkPayload : OkPayload types → SessionResponse types
  | .empty => .empty
  | .info info => .info info
  | .setConfig result => .setConfig result

def answer (cmdType : UInt8) (frame : Frame) : SessionResponse types :=
  if frame.typeId = protocol.typeOk then
    (protocol.parseFor cmdType frame.payload).elim
      (.err (.badFrame "OK payload did not parse for command context")) ofOkPayload
  else if frame.typeId = protocol.typeErr then
    .err ((protocol.decodeErrPayload frame.payload).elim
      (.badFrame "bad ERR payload") ClientError.fromWire)
  else if frame.typeId = protocol.typeTxDone then
    (protocol.decodeTxDone frame.payload).elim
      (.err (.badFrame "bad TX_DONE payload")) .txDone
  else
    .err (.badFrame ("unexpected tagged frame type 0x" ++ hexByte frame.typeId))

/-- The slot that is left after a command's frames, if it is still waiting. -/
def slotAfter (slot : Pending) (frames : List Frame) : Option Pending :=
  match decisive protocol slot.cmdType frames with
  | none => some slot
  | some _ => none

def received (tag : UInt16) (slot : Pending) (frames : List Frame) :
    List (Completion types) :=
  match decisive protocol slot.cmdType frames with
  | none => []
  | some frame => [⟨tag, slot.waker, answer protocol slot.cmdType frame⟩]

def rxPayloads (works : List FrameWork) : List types.RxPayload :=
  works.filterMap fun
    | .ok frame =>
        if frame.tag = 0 ∧ frame.typeId = protocol.typeRx then
          protocol.decodeRx frame.payload
        else none
    | .frame => none

def asyncErrors (works : List FrameWork) : List ClientError :=
  works.filterMap fun
    | .ok frame =>
        if frame.tag ≠ 0 then none
        else if frame.typeId = protocol.typeRx then
          (protocol.decodeRx frame.payload).elim (some (.badFrame "bad RX payload"))
            fun _ => none
        else if frame.typeId = protocol.typeErr then
          some ((protocol.decodeErrPayload frame.payload).elim
            (.badFrame "bad async ERR payload") ClientError.fromWire)
        else none
    | .frame => some (.badFrame "inbound frame failed CRC or COBS")

theorem answer_eq_resolve (cmdType : UInt8) (frame : Frame) :
    answer protocol cmdType frame =
      resolve protocol cmdType frame.typeId frame.payload := by
  rw [answer, resolve]
  split
  · rcases protocol.parseFor cmdType frame.payload with _ | _ | _ | _ <;> rfl
  · split
    · cases protocol.decodeErrPayload frame.payload <;> rfl
    · split
      · cases protocol.decodeTxDone frame.payload <;> rfl
      · rfl

theorem decisive_cons (cmdType : UInt8) (frame : Frame) (frames : List Frame) :
    decisive protocol cmdType (frame :: frames) =
      if absorbs protocol cmdType frame.typeId then decisive protocol cmdType frames
      else some frame := by
  by_cases isTx : cmdType = protocol.typeTx
  · by_cases isOk : frame.typeId = protocol.typeOk <;>
      simp [decisive, absorbs, isTx, isOk]
  · simp [decisive, absorbs, isTx]

end Reference

/-! ## Agreement -/

theorem dispatch_cases (frame : Frame) (inbound : Inbound types) :
    (frame.tag = 0 ∧ dispatch protocol frame inbound =
      { inbound with
        queues := dispatchAsync protocol frame.typeId frame.payload inbound.queues }) ∨
    (frame.tag ≠ 0 ∧ inbound.pending.lookup frame.tag = none ∧
      dispatch protocol frame inbound = inbound) ∨
    (∃ slot, frame.tag ≠ 0 ∧ inbound.pending.lookup frame.tag = some slot ∧
      absorbs protocol slot.cmdType frame.typeId = true ∧
      dispatch protocol frame inbound =
        { inbound with
          pending := (inbound.pending.erase frame.tag).insert frame.tag slot }) ∨
    (∃ slot, frame.tag ≠ 0 ∧ inbound.pending.lookup frame.tag = some slot ∧
      absorbs protocol slot.cmdType frame.typeId = false ∧
      dispatch protocol frame inbound =
        { inbound with
          pending := inbound.pending.erase frame.tag
          completions := inbound.completions ++ [⟨frame.tag, slot.waker,
            resolve protocol slot.cmdType frame.typeId frame.payload⟩] }) := by
  by_cases zero : frame.tag = 0
  · exact .inl ⟨zero, by simp [dispatch, zero]⟩
  · cases found : inbound.pending.lookup frame.tag with
    | none => exact .inr (.inl ⟨zero, rfl, by simp [dispatch, zero, found]⟩)
    | some slot =>
        cases absorbed : absorbs protocol slot.cmdType frame.typeId
        · exact .inr (.inr (.inr ⟨slot, zero, rfl, absorbed,
            by simp [dispatch, zero, found, absorbed]⟩))
        · exact .inr (.inr (.inl ⟨slot, zero, rfl, absorbed,
            by simp [dispatch, zero, found, absorbed]⟩))

def Inbound.completionsOf (inbound : Inbound types) (tag : UInt16) :
    List (Completion types) :=
  inbound.completions.filter fun completion => completion.tag = tag

def Inbound.view (inbound : Inbound types) (tag : UInt16) :
    Option Pending × List (Completion types) :=
  (inbound.pending.lookup tag, inbound.completionsOf tag)

theorem dispatch_other {frame : Frame} {tag : UInt16} (different : tag ≠ frame.tag)
    (inbound : Inbound types) :
    (dispatch protocol frame inbound).view tag = inbound.view tag := by
  rcases dispatch_cases protocol frame inbound with
    ⟨_, equal⟩ | ⟨_, _, equal⟩ | ⟨slot, _, _, _, equal⟩ | ⟨slot, _, _, _, equal⟩ <;>
    rw [equal]
  · rfl
  · simp [Inbound.view, Inbound.completionsOf, AList.lookup_insert_ne different,
      AList.lookup_erase_ne different]
  · simp [Inbound.view, Inbound.completionsOf, AList.lookup_erase_ne different,
      different.symm]

def Reference.viewAfter (tag : UInt16) (frames : List Frame)
    (view : Option Pending × List (Completion types)) :
    Option Pending × List (Completion types) :=
  match view.1 with
  | none => view
  | some slot =>
      (slotAfter protocol slot frames, view.2 ++ received protocol tag slot frames)

theorem viewAfter_dispatch {frame : Frame} (nonzero : frame.tag ≠ 0)
    (frames : List Frame) (inbound : Inbound types) :
    Reference.viewAfter protocol frame.tag frames
        ((dispatch protocol frame inbound).view frame.tag) =
      Reference.viewAfter protocol frame.tag (frame :: frames)
        (inbound.view frame.tag) := by
  rcases dispatch_cases protocol frame inbound with
    ⟨zero, _⟩ | ⟨_, absent, equal⟩ | ⟨slot, _, found, absorbed, equal⟩ |
    ⟨slot, _, found, resolved, equal⟩
  · exact absurd zero nonzero
  · simp [equal, Reference.viewAfter, Inbound.view, absent]
  · simp [equal, Reference.viewAfter, Inbound.view, found, Reference.slotAfter,
      Reference.received, Reference.decisive_cons, absorbed, Inbound.completionsOf]
  · simp [equal, Reference.viewAfter, Inbound.view, found, Reference.slotAfter,
      Reference.received, Reference.decisive_cons, resolved, Inbound.completionsOf,
      Reference.answer_eq_resolve]

/-- Dispatching any sequence of frames is, for each tag, the reference semantics
of that tag's own frames. -/
theorem view_dispatchAll {tag : UInt16} (nonzero : tag ≠ 0) (works : List FrameWork)
    (inbound : Inbound types) :
    (dispatchAll protocol works inbound).view tag =
      Reference.viewAfter protocol tag (Reference.framesOf tag works)
        (inbound.view tag) := by
  induction works generalizing inbound with
  | nil =>
      rw [Reference.viewAfter]
      split
      · rfl
      · next slot found =>
        have same : Reference.decisive protocol slot.cmdType [] = none := by
          simp [Reference.decisive]
        simp [dispatchAll, Reference.framesOf, Reference.slotAfter,
          Reference.received, same, ← found]
  | cons work works induction =>
      change (dispatchAll protocol works (dispatchWork protocol work inbound)).view tag = _
      rw [induction]
      cases work with
      | frame => rfl
      | ok frame =>
          by_cases own : frame.tag = tag
          · subst own
            have cons : Reference.framesOf frame.tag (.ok frame :: works) =
                frame :: Reference.framesOf frame.tag works := by
              simp [Reference.framesOf]
            rw [cons]
            exact viewAfter_dispatch protocol nonzero _ inbound
          · have skip : Reference.framesOf tag (.ok frame :: works) =
                Reference.framesOf tag works := by
              simp [Reference.framesOf, own]
            rw [skip, dispatchWork, dispatch_other protocol (Ne.symm own)]

/-- The slot of tag 0 takes no part: those frames are events. -/
theorem view_zero_dispatchAll (works : List FrameWork) (inbound : Inbound types) :
    (dispatchAll protocol works inbound).view 0 = inbound.view 0 := by
  induction works generalizing inbound with
  | nil => rfl
  | cons work works induction =>
      change (dispatchAll protocol works (dispatchWork protocol work inbound)).view 0 = _
      rw [induction]
      cases work with
      | frame => rfl
      | ok frame =>
          by_cases zero : frame.tag = 0
          · simp [dispatchWork, dispatch, zero, Inbound.view, Inbound.completionsOf]
          · exact dispatch_other protocol (Ne.symm zero) inbound

theorem queues_dispatchAll (works : List FrameWork) (inbound : Inbound types) :
    (dispatchAll protocol works inbound).queues =
      ⟨inbound.queues.rx ++ Reference.rxPayloads protocol works,
        inbound.queues.asyncErrors ++ Reference.asyncErrors protocol works⟩ := by
  induction works generalizing inbound with
  | nil => simp [dispatchAll, Reference.rxPayloads, Reference.asyncErrors]
  | cons work works induction =>
      change (dispatchAll protocol works (dispatchWork protocol work inbound)).queues = _
      rw [induction]
      cases work with
      | frame =>
          simp [dispatchWork, EventQueues.sendAsyncError, Reference.rxPayloads,
            Reference.asyncErrors]
      | ok frame =>
          by_cases zero : frame.tag = 0
          · by_cases isRx : frame.typeId = protocol.typeRx
            · cases decoded : protocol.decodeRx frame.payload <;>
                simp [dispatchWork, dispatch, dispatchAsync, zero, isRx, decoded,
                  EventQueues.sendRx, EventQueues.sendAsyncError,
                  Reference.rxPayloads, Reference.asyncErrors]
            · by_cases isErr : frame.typeId = protocol.typeErr
              · have notRx : protocol.typeErr ≠ protocol.typeRx := isErr ▸ isRx
                cases decoded : protocol.decodeErrPayload frame.payload <;>
                  simp [dispatchWork, dispatch, dispatchAsync, zero, notRx, isErr,
                    decoded, EventQueues.sendAsyncError, Reference.rxPayloads,
                    Reference.asyncErrors]
              · simp [dispatchWork, dispatch, dispatchAsync, zero, isRx, isErr,
                  Reference.rxPayloads, Reference.asyncErrors]
          · have untouched :
                (dispatchWork protocol (.ok frame) inbound).queues = inbound.queues := by
              rcases dispatch_cases protocol frame inbound with
                ⟨isZero, _⟩ | ⟨_, _, equal⟩ | ⟨_, _, _, _, equal⟩ | ⟨_, _, _, _, equal⟩
              · exact absurd isZero zero
              all_goals rw [dispatchWork, equal]
            rw [untouched]
            simp [Reference.rxPayloads, Reference.asyncErrors, zero]

/-- Inbound processing is the reference semantics, tag by tag and queue by queue,
for every way of cutting the byte stream into reads. -/
theorem readerLoop_eq_reference (decoder : FrameDecoder)
    (irrelevant : decoder.ChunkingIrrelevant) (pending : PendingMap)
    (queues : EventQueues types) (chunks : List (List UInt8))
    (sized : ∀ chunk ∈ chunks, 1 ≤ chunk.length ∧ chunk.length ≤ 256) :
    let works := (decoder.decode chunks.flatten).map FrameWork.ofResult
    let outcome := readerLoop protocol decoder decoder.new
      (chunks.map Iteration.reads) ⟨pending, queues, []⟩
    outcome.1 = .reading ∧
    (∀ tag slot, tag ≠ 0 → pending.lookup tag = some slot →
      (Reference.decisive protocol slot.cmdType (Reference.framesOf tag works) = none →
        outcome.2.pending.lookup tag = some slot ∧ outcome.2.completionsOf tag = []) ∧
      ∀ frame,
        Reference.decisive protocol slot.cmdType (Reference.framesOf tag works) =
          some frame →
        outcome.2.pending.lookup tag = none ∧
          outcome.2.completionsOf tag =
            [⟨tag, slot.waker, Reference.answer protocol slot.cmdType frame⟩]) ∧
    (∀ tag, tag = 0 ∨ pending.lookup tag = none →
      outcome.2.pending.lookup tag = pending.lookup tag ∧
        outcome.2.completionsOf tag = []) ∧
    outcome.2.queues =
      ⟨queues.rx ++ Reference.rxPayloads protocol works,
        queues.asyncErrors ++ Reference.asyncErrors protocol works⟩ := by
  have nonempty : ∀ chunk ∈ chunks, chunk ≠ [] := by
    intro chunk member empty
    have bounds := sized chunk member
    simp [empty] at bounds
  intro works outcome
  have result : outcome = (.reading, dispatchAll protocol works ⟨pending, queues, []⟩) := by
    have read := readerLoop_reads protocol decoder decoder.new chunks nonempty
      ⟨pending, queues, []⟩
    rwa [FrameDecoder.feedAll_eq_decode irrelevant] at read
  have start : ∀ tag, (⟨pending, queues, []⟩ : Inbound types).view tag =
      (pending.lookup tag, []) := fun _ => rfl
  rw [result]
  refine ⟨rfl, ?_, ?_, queues_dispatchAll protocol works _⟩
  · intro tag slot nonzero registered
    have view := view_dispatchAll protocol nonzero works ⟨pending, queues, []⟩
    rw [start, registered] at view
    have slotPart := congrArg Prod.fst view
    have sentPart := congrArg Prod.snd view
    simp only [Inbound.view, Reference.viewAfter, Reference.slotAfter,
      Reference.received, List.nil_append] at slotPart sentPart
    constructor
    · intro none
      rw [none] at slotPart sentPart
      exact ⟨slotPart, sentPart⟩
    · intro frame found
      rw [found] at slotPart sentPart
      exact ⟨slotPart, sentPart⟩
  · intro tag inactive
    have view : (dispatchAll protocol works ⟨pending, queues, []⟩).view tag =
        (pending.lookup tag, []) := by
      by_cases zero : tag = 0
      · rw [zero, view_zero_dispatchAll, start]
      · rw [view_dispatchAll protocol zero, start, inactive.resolve_left zero]
        rfl
    exact ⟨congrArg Prod.fst view, congrArg Prod.snd view⟩

/-! ## A stream in three reads -/

def crcShift (crc : UInt16) (_ : Nat) : UInt16 :=
  if crc &&& 0x8000 = 0 then crc <<< 1 else (crc <<< 1) ^^^ 0x1021

def crc16 : (crc : UInt16) → List UInt8 → UInt16
  | crc, [] => crc
  | crc, byte :: bytes =>
      let shifted : UInt16 := byte.toUInt16 <<< 8
      crc16 ((List.range 8).foldl crcShift (crc ^^^ shifted)) bytes

/-- COBS: every block begins with the distance to the zero it stands for. -/
def unstuff : (fuel : Nat) → List UInt8 → Option (List UInt8)
  | fuel + 1, code :: bytes =>
      if code = 0 ∨ bytes.length < code.toNat - 1 then none
      else
        let block := bytes.take (code.toNat - 1)
        match bytes.drop (code.toNat - 1) with
        | [] => some block
        | rest => (unstuff fuel rest).map fun later =>
            block ++ (if code = 255 then [] else [0]) ++ later
  | _, _ => none

def decodeRun (run : List UInt8) : FrameResult :=
  match unstuff run.length run with
  | some (typeId :: low :: high :: rest) =>
      let payload := rest.take (rest.length - 2)
      let crc := crc16 0xFFFF (typeId :: low :: high :: payload)
      if rest.drop (rest.length - 2) = [crc.toUInt8, (crc >>> 8).toUInt8] then
        .ok typeId (low.toUInt16 ||| high.toUInt16 <<< 8) payload
      else .err
  | _ => .err

def feedBytes : (run : List UInt8) → List UInt8 → List UInt8 × List FrameResult
  | run, [] => (run, [])
  | run, byte :: bytes =>
      if byte = 0 then ((feedBytes [] bytes).1, decodeRun run :: (feedBytes [] bytes).2)
      else feedBytes (run ++ [byte]) bytes

def bytewiseDecoder : FrameDecoder where
  State := List UInt8
  new := []
  feed := feedBytes

theorem feedBytes_append (run first second : List UInt8) :
    (feedBytes run (first ++ second)).2 =
      (feedBytes run first).2 ++ (feedBytes (feedBytes run first).1 second).2 := by
  induction first generalizing run with
  | nil => rfl
  | cons byte bytes induction =>
      rw [List.cons_append, feedBytes, feedBytes]
      split
      · rw [induction, List.cons_append]
      · exact induction _

theorem bytewiseDecoder_chunkingIrrelevant : bytewiseDecoder.ChunkingIrrelevant := by
  have flat : ∀ (chunks : List (List UInt8)) (run : List UInt8),
      bytewiseDecoder.feedAll run chunks = (feedBytes run chunks.flatten).2 := by
    intro chunks
    induction chunks with
    | nil => exact fun run => rfl
    | cons chunk chunks induction =>
        intro run
        rw [List.flatten_cons, feedBytes_append, ← induction]
        rfl
  intro first second equal
  have firstFlat := flat first []
  rw [equal] at firstFlat
  exact firstFlat.trans (flat second []).symm

/-- An `OK` to a `PING`, something corrupt, the `OK` of a `TX` and its `TX_DONE`, in three
reads that cut two of them in two. -/
def splitReads : List (List UInt8) :=
  [[3, 128, 7, 3], [81, 110, 0, 5, 1, 0, 3, 128, 8, 3, 111, 126, 0, 3, 193, 8],
    [1, 2, 9, 1, 1, 3, 102, 29, 0]]

def splitPending : PendingMap :=
  (AList.singleton 7 ⟨Protocol.sample.typePing, 0⟩).insert 8 ⟨Protocol.sample.typeTx, 1⟩

theorem decode_splitReads :
    (bytewiseDecoder.decode splitReads.flatten).map FrameWork.ofResult =
      [.ok ⟨128, 7, []⟩, .frame, .ok ⟨128, 8, []⟩, .ok ⟨193, 8, [0, 9, 0, 0, 0]⟩] := by
  decide +kernel

theorem readerLoop_eq_reference_splitReads :
    let outcome := readerLoop Protocol.sample bytewiseDecoder bytewiseDecoder.new
      (splitReads.map Iteration.reads) ⟨splitPending, ⟨[], []⟩, []⟩
    outcome.2.completionsOf 7 = [⟨7, 0, .empty⟩] ∧
      outcome.2.completionsOf 8 = [⟨8, 1, .txDone ⟨.transmitted, 9⟩⟩] ∧
      outcome.2.queues.asyncErrors = [.badFrame "inbound frame failed CRC or COBS"] := by
  have reference := readerLoop_eq_reference Protocol.sample bytewiseDecoder
    bytewiseDecoder_chunkingIrrelevant splitPending ⟨[], []⟩ splitReads (by decide)
  rw [decode_splitReads] at reference
  rcases reference with ⟨_, registered, _, queued⟩
  have pinged := ((registered 7 ⟨1, 0⟩ (by decide) rfl).2 ⟨128, 7, []⟩ rfl).2
  have transmitted :=
    ((registered 8 ⟨4, 1⟩ (by decide) rfl).2 ⟨193, 8, [0, 9, 0, 0, 0]⟩ rfl).2
  exact ⟨pinged, transmitted, congrArg EventQueues.asyncErrors queued⟩

end DongloraClient.Session
