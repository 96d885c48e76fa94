import DongloraClient.Session.Correlation
import DongloraClient.Dongle.TransmitLog

/-! # Transmitting at most once

The transmissions of an operation with the session underneath. Each result in the
operation's log is traced back to the frame it was computed from, so that a resend
is always preceded by a frame that says the packet did not go on the air.
-/

namespace DongloraClient.Dongle

open Foundation Session

variable {types : WireTypes} (protocol : Protocol types)

/-! ## An operation among other tasks -/

structure Sent (types : WireTypes) where
  call : CallId
  command : Command types

structure Shared (types : WireTypes) where
  session : State types
  sent : List (Sent types)

/-- A command is a call of its own that some interleaving of the session takes
from its start to its return. Whatever else the operation does, other tasks may
run meanwhile, and what it learns from them is arbitrary. -/
inductive Performs : Shared types → (effect : Effect types) → Answer effect →
    Shared types → Prop
  | command {before : Shared types} {after : State types} (call : CallId)
      {request : Request} {timeout : Duration} {tag : Option UInt16}
      {result : ClientResult (SessionResponse types)} (actions : List Action)
      (unused : before.session.calls call = .idle)
      (ran : (Session.machine protocol).run before.session actions = some after)
      (returned : after.calls call = .returned request tag result) :
      Performs before (.sendCommand request timeout) result
        ⟨after, ⟨call, request, result⟩ :: before.sent⟩
  | other {before : Shared types} {after : State types} {effect : Effect types}
      (actions : List Action) (answer : Answer effect)
      (noCommand : Effect.isCommand effect = false)
      (ran : (Session.machine protocol).run before.session actions = some after) :
      Performs before effect answer ⟨after, before.sent⟩

def Shared.log (world : Shared types) : List (Command types) :=
  world.sent.map Sent.command

structure Traced (world : Shared types) : Prop where
  reached : (Session.machine protocol).Reachable world.session
  returned : ∀ entry ∈ world.sent, ∃ tag, world.session.calls entry.call =
    .returned entry.command.request tag entry.command.result

section Tracing

variable {protocol}

theorem Performs.issues {before after : Shared types} {effect : Effect types}
    {answer : Answer effect} (performs : Performs protocol before effect answer after) :
    Issues before.log effect answer after.log := by
  cases performs with
  | command => exact .command _ _ _ _
  | other _ _ noCommand => exact .other _ answer noCommand

theorem stays_returned {state final : State types} {actions : List Action} {call : CallId}
    {request : Request} {tag : Option UInt16} {result : ClientResult (SessionResponse types)}
    (returned : state.calls call = .returned request tag result)
    (ran : (Session.machine protocol).run state actions = some final) :
    final.calls call = .returned request tag result :=
  Machine.run_preserves (fun _ _ _ before stepped =>
    (transition_of_step protocol stepped).stays_returned before) returned ran

theorem Traced.step {before after : Shared types} {effect : Effect types}
    {answer : Answer effect} (traced : Traced protocol before)
    (performs : Performs protocol before effect answer after) : Traced protocol after := by
  cases performs with
  | @command _ _ _ _ tag _ actions unused ran returned =>
      refine ⟨traced.reached.run ran, ?_⟩
      intro entry member
      rcases List.mem_cons.mp member with rfl | old
      · exact ⟨tag, returned⟩
      · rcases traced.returned entry old with ⟨tag, before⟩
        exact ⟨tag, stays_returned before ran⟩
  | other actions _ _ ran =>
      refine ⟨traced.reached.run ran, ?_⟩
      intro entry member
      rcases traced.returned entry member with ⟨tag, before⟩
      exact ⟨tag, stays_returned before ran⟩

end Tracing

/-! ## Frames behind results -/

def IsErr (code : ErrorCode) (frame : Frame) : Prop :=
  frame.typeId = protocol.typeErr ∧ protocol.decodeErrPayload frame.payload = some code

def IsTxDone (outcome : TxResult) (frame : Frame) : Prop :=
  frame.typeId = protocol.typeTxDone ∧ ∃ done,
    protocol.decodeTxDone frame.payload = some done ∧ done.result = outcome

/-- The command returned what was computed from a frame with its own tag, and the
frame has the given meaning. -/
def AnsweredBy (session : State types) (entry : Sent types) (meaning : Frame → Prop) :
    Prop :=
  ∃ serial frame response, meaning frame ∧ entry.command.result = .ok response ∧
    response = resolve protocol entry.command.request.typeId frame.typeId frame.payload ∧
    session.calls entry.call =
      .returned entry.command.request (some frame.tag) entry.command.result ∧
    .dispatched serial frame (some ⟨entry.command.request.typeId, entry.call⟩) ∈
      session.history ∧
    .delivered entry.call response (.frame serial) ∈ session.history

def NotOnAir (session : State types) (entry : Sent types) : Prop :=
  AnsweredBy protocol session entry (IsErr protocol .eNotConfigured) ∨
    AnsweredBy protocol session entry (IsErr protocol .eBusy) ∨
    AnsweredBy protocol session entry (IsTxDone protocol .channelBusy)

section Frames

variable {protocol} {world : Shared types} {entry : Sent types}

theorem Traced.answered (traced : Traced protocol world) (member : entry ∈ world.sent)
    {response : SessionResponse types} (result : entry.command.result = .ok response)
    (notDrained : ∀ reason, response ≠ .err (.transportClosed reason))
    {meaning : Frame → Prop}
    (means : ∀ frame : Frame, response = resolve protocol entry.command.request.typeId
      frame.typeId frame.payload → meaning frame) :
    AnsweredBy protocol world.session entry meaning := by
  rcases traced.returned entry member with ⟨tag, returned⟩
  rw [result] at returned
  rcases answered_by_frame traced.reached returned notDrained with
    ⟨serial, frame, rfl, dispatched, delivered, resolved⟩
  rw [← result] at returned
  exact ⟨serial, frame, response, means frame resolved, result, resolved, returned,
    dispatched, delivered⟩

theorem Traced.answered_err (traced : Traced protocol world) (member : entry ∈ world.sent)
    {code : ErrorCode}
    (result : entry.command.result = .ok (.err (.fromWire code))) :
    AnsweredBy protocol world.session entry (IsErr protocol code) := by
  apply traced.answered member result
  · intro reason same
    cases code <;> cases same
  · intro frame resolved
    exact resolve_eq_fromWire protocol resolved.symm

theorem Traced.answered_txDone (traced : Traced protocol world) (member : entry ∈ world.sent)
    {done : TxDonePayload} (result : entry.command.result = .ok (.txDone done)) :
    AnsweredBy protocol world.session entry (IsTxDone protocol done.result) := by
  apply traced.answered member result nofun
  intro frame resolved
  have isTxDone := resolve_eq_txDone protocol resolved.symm
  exact ⟨isTxDone.1, done, isTxDone.2, rfl⟩

theorem Traced.not_error (traced : Traced protocol world) (member : entry ∈ world.sent)
    {error : ClientError} (fromDevice : localError error = false) :
    entry.command.result ≠ .error error := by
  intro same
  rcases traced.returned entry member with ⟨tag, returned⟩
  have failsLocally := failsLocally_of_reachable traced.reached entry.call
  rw [returned, same] at failsLocally
  rw [Phase.FailsLocally, fromDevice] at failsLocally
  cases failsLocally

/-- `ChannelBusy` is no wire error: it never arrives in an `ERR` frame. -/
theorem Traced.not_err_channelBusy (traced : Traced protocol world)
    (member : entry ∈ world.sent) :
    entry.command.result ≠ .ok (.err .channelBusy) := by
  intro result
  have answered : AnsweredBy protocol world.session entry fun _ => False := by
    apply traced.answered member result
    · intro reason same
      cases same
    · intro frame resolved
      rcases resolve_eq_err protocol resolved.symm with ⟨_, same⟩ | ⟨code, same, _⟩
      · cases same
      · cases code <;> cases same
  rcases answered with ⟨_, _, _, impossible, _⟩
  exact impossible

theorem Traced.unconfigured (traced : Traced protocol world) (member : entry ∈ world.sent)
    (unconfigured : entry.command.Unconfigured protocol) :
    AnsweredBy protocol world.session entry (IsErr protocol .eNotConfigured) := by
  rcases transmitResult_eq_error unconfigured with
    failed | result | ⟨done, _, ⟨_, other⟩ | ⟨_, other⟩⟩ | ⟨text, other⟩
  · exact absurd failed (traced.not_error member rfl)
  · exact traced.answered_err member result
  · cases other
  · cases other
  · cases other

theorem Traced.retryable (traced : Traced protocol world) (member : entry ∈ world.sent)
    (retryable : entry.command.Retryable protocol) :
    AnsweredBy protocol world.session entry (IsErr protocol .eBusy) ∨
      AnsweredBy protocol world.session entry (IsTxDone protocol .channelBusy) := by
  rcases retryable with ⟨error, failed, retry⟩
  rcases (ClientError.isRetryable_iff error).mp retry with rfl | rfl
  · rcases transmitResult_eq_error failed with
      failed | result | ⟨done, result, ⟨outcome, _⟩ | ⟨_, other⟩⟩ | ⟨text, other⟩
    · exact absurd failed (traced.not_error member rfl)
    · exact absurd result (traced.not_err_channelBusy member)
    · exact .inr (outcome ▸ traced.answered_txDone member result)
    · cases other
    · cases other
  · rcases transmitResult_eq_error failed with
      failed | result | ⟨done, _, ⟨_, other⟩ | ⟨_, other⟩⟩ | ⟨text, other⟩
    · exact absurd failed (traced.not_error member rfl)
    · exact .inl (traced.answered_err member result)
    · cases other
    · cases other
    · cases other

theorem Traced.transmits (traced : Traced protocol world) (member : entry ∈ world.sent)
    {done : TxDonePayload} (transmitted : entry.command.Transmits protocol done) :
    AnsweredBy protocol world.session entry (IsTxDone protocol .transmitted) := by
  rcases transmitResult_eq_ok transmitted with ⟨result, outcome⟩
  exact outcome ▸ traced.answered_txDone member result

theorem not_transmitted (failed : ∀ done, ¬ entry.command.Transmits protocol done) :
    ¬ AnsweredBy protocol world.session entry (IsTxDone protocol .transmitted) := by
  rintro ⟨serial, frame, response, ⟨isTxDone, done, decoded, outcome⟩, result, resolved, _⟩
  have distinct := protocol.eventTypes_nodup
  simp only [List.nodup_cons, List.mem_cons, not_or] at distinct
  apply failed done
  rw [Command.Transmits, result, resolved, resolve, isTxDone,
    if_neg (Ne.symm distinct.1.2.1), if_neg (Ne.symm distinct.2.1.1), if_pos rfl, decoded]
  simp only [transmitResult, outcome]

end Frames

/-! ## At most one packet on the air -/

def transmissions (world : Shared types) : List (Sent types) :=
  world.sent.filter fun entry => entry.command.request.typeId == protocol.typeTx

def Transmitting {Result : Type} (rest : Operation types Result) : Prop :=
  ∃ request timeout next, rest = .perform (.sendCommand request timeout) next ∧
    request.typeId = protocol.typeTx

/-- Where an operation with `rest` still to do stands: it transmits again only
where `resend` permits, every `TX` command but the newest is known not to have
gone on the air, there are at most `limit` of them, at most one of them was
radiated, and success means that the newest one, and only it, was answered by
`TX_DONE(Transmitted)`. -/
structure TransmitsOnce {Result : Type} (limit : Nat) (resend : Shared types → Prop)
    (world : Shared types) (rest : Operation types (ClientResult Result)) : Prop where
  resends : Transmitting protocol rest → transmissions protocol world ≠ [] → resend world
  earlier : Transmitting protocol rest → ∀ entry ∈ transmissions protocol world,
    NotOnAir protocol world.session entry
  older : ∀ entry ∈ (transmissions protocol world).tail,
    NotOnAir protocol world.session entry
  bounded : (transmissions protocol world).length ≤ limit ∧
    (Transmitting protocol rest → (transmissions protocol world).length < limit)
  radiated : ∀ onAir : CallId → Bool,
    (∀ entry, NotOnAir protocol world.session entry → onAir entry.call = false) →
    ((transmissions protocol world).filter fun entry => onAir entry.call).length ≤ 1 ∧
      (Transmitting protocol rest →
        (transmissions protocol world).filter (fun entry => onAir entry.call) = [])
  succeeds : ∀ value, rest = .done (.ok value) → ∃ last older,
    transmissions protocol world = last :: older ∧
    AnsweredBy protocol world.session last (IsTxDone protocol .transmitted) ∧
    ∀ entry ∈ older,
      ¬ AnsweredBy protocol world.session entry (IsTxDone protocol .transmitted)

def AfterRecovery (world : Shared types) : Prop :=
  ∃ config first, world.sent = [config, first] ∧
    AnsweredBy protocol world.session first (IsErr protocol .eNotConfigured) ∧
    config.command.IsSetConfig protocol ∧
    ∃ applied, config.command.result = .ok (.setConfig applied)

def AfterBusy (world : Shared types) : Prop :=
  ∃ last older, world.sent = last :: older ∧ last.command.IsTx protocol ∧
    (AnsweredBy protocol world.session last (IsErr protocol .eBusy) ∨
      AnsweredBy protocol world.session last (IsTxDone protocol .channelBusy))

section Once

variable {protocol} {world : Shared types}

theorem setConfigResult_eq_ok {result : ClientResult (SessionResponse types)}
    {applied : SetConfigResult types}
    (accepted : setConfigResult protocol result = .ok applied) :
    result = .ok (.setConfig applied) := by
  unfold setConfigResult at accepted
  split at accepted
  · cases accepted
  · cases accepted
    rfl
  · cases accepted
  · cases accepted

theorem transmissions_eq_sent (allTx : ∀ command ∈ world.log, command.IsTx protocol) :
    transmissions protocol world = world.sent := by
  rw [transmissions, List.filter_eq_self]
  intro entry member
  exact beq_iff_eq.mpr (allTx entry.command (List.mem_map_of_mem member))

theorem recovered_world (recovered : Recovered protocol world.log) :
    ∃ config first, world.sent = [config, first] ∧ first.command.IsTx protocol ∧
      first.command.Unconfigured protocol ∧ config.command.IsSetConfig protocol ∧
      config.command.Reconfigures protocol := by
  rcases recovered with ⟨config, first, logged, isTx, unconfigured, isSetConfig, reconfigures⟩
  rw [Shared.log, List.map_eq_cons_iff] at logged
  rcases logged with ⟨configEntry, rest, split, rfl, others⟩
  rw [List.map_eq_cons_iff] at others
  rcases others with ⟨firstEntry, none, rfl, rfl, empty⟩
  rw [List.map_eq_nil_iff] at empty
  subst empty
  exact ⟨configEntry, firstEntry, split, isTx, unconfigured, isSetConfig, reconfigures⟩

theorem isTx_of_setConfig {command : Command types}
    (isSetConfig : command.IsSetConfig protocol) : ¬ command.IsTx protocol := by
  intro isTx
  exact setConfig_ne_tx (isSetConfig.symm.trans isTx)

theorem transmissions_recovered {config first : Sent types}
    (sent : world.sent = [config, first]) (isTx : first.command.IsTx protocol)
    (isSetConfig : config.command.IsSetConfig protocol) :
    transmissions protocol world = [first] := by
  have notTx : config.command.request.typeId ≠ protocol.typeTx :=
    isTx_of_setConfig isSetConfig
  have isTx' : first.command.request.typeId = protocol.typeTx := isTx
  simp [transmissions, sent, notTx, isTx']

theorem timeout_earlier (traced : Traced protocol world)
    (recovered : Recovered protocol world.log) :
    AfterRecovery protocol world ∧ (transmissions protocol world).length = 1 ∧
      ∀ entry ∈ transmissions protocol world, NotOnAir protocol world.session entry := by
  rcases recovered_world recovered with
    ⟨config, first, sent, isTx, unconfigured, isSetConfig, applied, accepted⟩
  have answered := traced.unconfigured (by simp [sent]) unconfigured
  rw [transmissions_recovered sent isTx isSetConfig]
  refine ⟨⟨config, first, sent, answered, isSetConfig, applied,
    setConfigResult_eq_ok accepted⟩, rfl, ?_⟩
  intro entry member
  rw [List.mem_singleton.mp member]
  exact .inl answered

theorem transmissions_of_log {last : Command types} {older : List (Command types)}
    (logged : world.log = last :: older) (isTx : last.IsTx protocol) :
    ∃ entry rest, world.sent = entry :: rest ∧ entry.command = last ∧
      rest.map Sent.command = older ∧
      transmissions protocol world =
        entry :: transmissions protocol ⟨world.session, rest⟩ := by
  rw [Shared.log, List.map_eq_cons_iff] at logged
  rcases logged with ⟨entry, rest, split, rfl, others⟩
  have isTx' : entry.command.request.typeId = protocol.typeTx := isTx
  exact ⟨entry, rest, split, rfl, others, by simp [transmissions, split, isTx']⟩

theorem timeout_transmissions (traced : Traced protocol world)
    (logged : TimeoutLog protocol world.log) :
    (transmissions protocol world).length ≤ 2 ∧
      ∀ entry ∈ (transmissions protocol world).tail,
        NotOnAir protocol world.session entry ∧
        ∀ done, ¬ entry.command.Transmits protocol done := by
  generalize equal : world.log = log at logged
  cases logged with
  | none =>
      rw [Shared.log, List.map_eq_nil_iff] at equal
      simp [transmissions, equal]
  | first isTx =>
      rcases transmissions_of_log equal isTx with ⟨entry, rest, _, _, none, filtered⟩
      rw [List.map_eq_nil_iff] at none
      rw [filtered, none]
      simp [transmissions]
  | @recovering first config isTx unconfigured isSetConfig =>
      have notTx : config.request.typeId ≠ protocol.typeTx := isTx_of_setConfig isSetConfig
      have short : (transmissions protocol world).length ≤ 1 := by
        rw [Shared.log, List.map_eq_cons_iff] at equal
        rcases equal with ⟨entry, rest, split, rfl, others⟩
        have length := congrArg List.length others
        simp only [List.length_map, List.length_singleton] at length
        calc (transmissions protocol world).length
            = (transmissions protocol ⟨world.session, rest⟩).length := by
              simp [transmissions, split, notTx]
          _ ≤ rest.length := List.length_filter_le _ _
          _ = 1 := length
      refine ⟨by omega, ?_⟩
      have empty : (transmissions protocol world).tail = [] := by
        apply List.eq_nil_of_length_eq_zero
        rw [List.length_tail]
        omega
      simp [empty]
  | second recovered isTx =>
      rcases transmissions_of_log equal isTx with ⟨entry, rest, split, _, others, filtered⟩
      rcases @recovered_world _ protocol ⟨world.session, rest⟩
          (by rw [Shared.log, others]; exact recovered)
        with ⟨config, first, sent, isFirst, unconfigured, isSetConfig, _⟩
      have before := @transmissions_recovered _ protocol ⟨world.session, rest⟩ _ _ sent isFirst
        isSetConfig
      have sent' : rest = [config, first] := sent
      rw [filtered, before]
      refine ⟨Nat.le_refl 2, ?_⟩
      intro other member
      rw [List.mem_singleton.mp member]
      have answered := traced.unconfigured (by simp [split, sent']) unconfigured
      refine ⟨.inl answered, ?_⟩
      intro done transmits
      rw [Command.Transmits, unconfigured] at transmits
      cases transmits

/-- Packets that are known not to be on the air leave at most the newest one. -/
theorem radiated_once {entries : List (Sent types)} {onAir : CallId → Bool}
    (silent : ∀ entry ∈ entries.tail, onAir entry.call = false) :
    (entries.filter fun entry => onAir entry.call).length ≤ 1 := by
  cases entries with
  | nil => exact Nat.zero_le 1
  | cons entry older =>
      have none : older.filter (fun entry => onAir entry.call) = [] := by
        rw [List.filter_eq_nil_iff]
        intro other member
        simp [silent other member]
      rw [List.filter_cons, none]
      split <;> simp

theorem radiated_none {entries : List (Sent types)} {onAir : CallId → Bool}
    (silent : ∀ entry ∈ entries, onAir entry.call = false) :
    entries.filter (fun entry => onAir entry.call) = [] := by
  rw [List.filter_eq_nil_iff]
  intro entry member
  simp [silent entry member]

/-- The obligations of `TransmitsOnce` in terms of the operation's log. -/
theorem transmitsOnce_of_log {Result : Type} {limit : Nat} {resend : Shared types → Prop}
    {rest : Operation types (ClientResult Result)} (traced : Traced protocol world)
    (resends : Transmitting protocol rest →
      (transmissions protocol world ≠ [] → resend world) ∧
      (transmissions protocol world).length < limit ∧
      ∀ entry ∈ transmissions protocol world, NotOnAir protocol world.session entry)
    (bounded : (transmissions protocol world).length ≤ limit)
    (older : ∀ entry ∈ (transmissions protocol world).tail,
      NotOnAir protocol world.session entry ∧
        ∀ done, ¬ entry.command.Transmits protocol done)
    (succeeds : ∀ value, rest = .done (.ok value) → ∃ last older done,
      world.log = last :: older ∧ last.IsTx protocol ∧ last.Transmits protocol done) :
    TransmitsOnce protocol limit resend world rest where
  resends transmitting := (resends transmitting).1
  earlier transmitting := (resends transmitting).2.2
  older entry member := (older entry member).1
  bounded := ⟨bounded, fun transmitting => (resends transmitting).2.1⟩
  radiated onAir assumed := by
    refine ⟨radiated_once fun entry member => assumed entry (older entry member).1, ?_⟩
    intro transmitting
    exact radiated_none fun entry member =>
      assumed entry ((resends transmitting).2.2 entry member)
  succeeds := by
    intro value finished
    rcases succeeds value finished with ⟨last, before, done, logged, isTx, transmits⟩
    rcases transmissions_of_log logged isTx with ⟨entry, others, split, rfl, _, filtered⟩
    rw [filtered] at older
    refine ⟨entry, _, filtered, traced.transmits (by simp [split]) transmits, ?_⟩
    intro other member
    exact not_transmitted (older other member).2

theorem Traced.runs {Result : Type} {later : Shared types}
    {operation rest : Operation types Result} (traced : Traced protocol world)
    (ran : Program.Runs (Performs protocol) world operation later rest) :
    Traced protocol later :=
  ran.invariant traced fun _ _ _ _ before performed => before.step performed

/-- What a log specification says wherever an operation stands. -/
theorem Commands.at_rest {Result : Type} {later : Shared types}
    {invariant : List (Command types) → Prop}
    {may : List (Command types) → Request → Prop}
    {returns : List (Command types) → Result → Prop}
    {operation rest : Operation types Result}
    (logs : Commands invariant may returns world.log operation)
    (ran : Program.Runs (Performs protocol) world operation later rest)
    (final : ∀ log value, returns log value → invariant log) :
    invariant later.log ∧
      (∀ request timeout next, rest = .perform (.sendCommand request timeout) next →
        may later.log request) ∧
      ∀ value, rest = .done value → returns later.log value := by
  have projected := ran.project Shared.log fun _ _ _ _ performed => performed.issues
  have remaining := Program.Satisfies.runs logs projected
  cases rest with
  | done value =>
      refine ⟨final _ _ remaining, nofun, ?_⟩
      intro other same
      cases same
      exact remaining
  | perform effect next =>
      refine ⟨remaining.1.1, ?_, nofun⟩
      intro request timeout after same
      cases same
      exact remaining.1.2 request timeout rfl

theorem txWithTimeout_transmitsOnce {data : List UInt8} {skipCad : Bool}
    {timeout : Duration} {later : Shared types}
    {rest : Operation types (ClientResult TxDonePayload)} (traced : Traced protocol world)
    (fresh : world.sent = [])
    (ran : Program.Runs (Performs protocol) world
      (txWithTimeout protocol data skipCad timeout) later rest) :
    TransmitsOnce protocol 2 (AfterRecovery protocol) later rest := by
  have empty : world.log = [] := by simp [Shared.log, fresh]
  have logs := @txWithTimeout_log _ protocol data skipCad timeout
  rw [← empty] at logs
  rcases Commands.at_rest logs ran fun _ _ returned => returned.1 with
    ⟨logged, may, returns⟩
  have tracedLater := traced.runs ran
  rcases timeout_transmissions tracedLater logged with ⟨bounded, older⟩
  apply transmitsOnce_of_log tracedLater _ bounded older
  · intro value finished
    rcases (returns _ finished).2 value rfl with ⟨last, before, done, split, isTx, transmits, _⟩
    exact ⟨last, before, done, split, isTx, transmits⟩
  · rintro ⟨request, timeout, next, same, isTx⟩
    rcases may request timeout next same isTx with none | recovered
    · rw [Shared.log, List.map_eq_nil_iff] at none
      simp [transmissions, none]
    · rcases timeout_earlier tracedLater recovered with ⟨after, one, silent⟩
      exact ⟨fun _ => after, by omega, silent⟩

theorem txWithRetry_transmitsOnce {data : List UInt8} {policy : RetryPolicy}
    {later : Shared types} {rest : Operation types (ClientResult TxOutcome)}
    (traced : Traced protocol world) (fresh : world.sent = [])
    (ran : Program.Runs (Performs protocol) world
      (txWithRetry protocol data policy) later rest) :
    TransmitsOnce protocol policy.maxAttempts.toNat (AfterBusy protocol) later rest := by
  have empty : world.log = [] := by simp [Shared.log, fresh]
  have logs := @txWithRetry_log _ protocol data policy
  rw [← empty] at logs
  rcases Commands.at_rest logs ran fun _ _ returned => returned.1 with
    ⟨logged, may, returns⟩
  have tracedLater := traced.runs ran
  have all := transmissions_eq_sent logged.allTx
  have notOnAir : ∀ entry ∈ later.sent, entry.command.Retryable protocol →
      NotOnAir protocol later.session entry := by
    intro entry member retryable
    exact .inr (tracedLater.retryable member retryable)
  apply transmitsOnce_of_log tracedLater
  · rintro ⟨request, timeout, next, same, isTx⟩
    rcases may request timeout next same isTx with ⟨retryable, short⟩
    rw [all]
    refine ⟨?_, by simpa [Shared.log] using short, ?_⟩
    · intro nonempty
      rcases List.exists_cons_of_ne_nil nonempty with ⟨last, before, split⟩
      have member : last ∈ later.sent := by simp [split]
      have logMember : last.command ∈ later.log := List.mem_map_of_mem member
      exact ⟨last, before, split, logged.allTx _ logMember,
        tracedLater.retryable member (retryable _ logMember)⟩
    · intro entry member
      exact notOnAir entry member (retryable _ (List.mem_map_of_mem member))
  · rw [all]
    simpa [Shared.log] using logged.bounded
  · rw [all]
    intro entry member
    have retryable : entry.command.Retryable protocol := by
      apply logged.older
      rw [Shared.log, ← List.map_tail]
      exact List.mem_map_of_mem member
    refine ⟨notOnAir entry (List.mem_of_mem_tail member) retryable, ?_⟩
    intro done transmits
    rcases retryable with ⟨error, failed, _⟩
    rw [Command.Transmits, failed] at transmits
    cases transmits
  · intro value finished
    rcases (returns _ finished).2 value rfl with ⟨last, before, done, split, isTx, transmits, _⟩
    exact ⟨last, before, done, split, isTx, transmits⟩

end Once

/-- Whatever the device, the transport and the other tasks do, one call of
`tx_with_timeout` or `tx_with_retry` puts at most one packet on the air. -/
theorem no_duplicate_transmission {world : Shared types}
    (reached : (Session.machine protocol).Reachable world.session)
    (fresh : world.sent = []) :
    (∀ data skipCad timeout later rest,
      Program.Runs (Performs protocol) world
        (txWithTimeout protocol data skipCad timeout) later rest →
      TransmitsOnce protocol 2 (AfterRecovery protocol) later rest) ∧
    (∀ data policy later rest,
      Program.Runs (Performs protocol) world (txWithRetry protocol data policy) later rest →
      TransmitsOnce protocol policy.maxAttempts.toNat (AfterBusy protocol) later rest) := by
  have traced : Traced protocol world := ⟨reached, by simp [fresh]⟩
  constructor
  · intro data skipCad timeout later rest ran
    exact txWithTimeout_transmitsOnce traced fresh ran
  · intro data policy later rest ran
    exact txWithRetry_transmitsOnce traced fresh ran

def commandRead (call : CallId) (request : Request) (works : List FrameWork) : List Action :=
  [.begin call request, .allocTag call, .register call, .write call none, .readerCheck,
    .readerRead works, .readerDispatch]

def refusedTx : List Action :=
  commandRead 0 ⟨4, [0, 7]⟩ [.ok ⟨129, 1, [3, 0]⟩] ++ [.receive 0, .readerDispatch]

def acceptedConfig : List Action :=
  commandRead 1 ⟨3, [1]⟩ [.ok ⟨128, 2, [0]⟩] ++ [.receive 1, .readerDispatch]

def acceptedTx : List Action :=
  commandRead 2 ⟨4, [0, 7]⟩ [.ok ⟨128, 3, []⟩, .ok ⟨193, 3, [0, 9, 0, 0, 0]⟩] ++
    [.readerReinsert, .readerDispatch, .receive 2]

theorem no_duplicate_transmission_recovered :
    ∃ later, Program.Runs (Performs Protocol.sample) ⟨spawn, []⟩
        (txWithTimeout Protocol.sample [7] false (fromSecs 10)) later
        (.done (.ok ⟨.transmitted, 9⟩)) ∧
      (transmissions Protocol.sample later).length = 2 ∧
      TransmitsOnce Protocol.sample 2 (AfterRecovery Protocol.sample) later
        (.done (.ok (⟨.transmitted, 9⟩ : TxDonePayload))) := by
  have quiet : ∀ {world : Shared WireTypes.sample} (effect : Effect WireTypes.sample)
      (answer : Answer effect), Effect.isCommand effect = false →
      Performs Protocol.sample world effect answer world :=
    fun _ answer noCommand => .other [] answer noCommand rfl
  have commands : ∃ refused configured later,
      Performs Protocol.sample ⟨spawn, []⟩ (.sendCommand ⟨4, [0, 7]⟩ (fromSecs 10))
        (.ok (.err .notConfigured)) refused ∧
      Performs Protocol.sample refused (.sendCommand ⟨3, [1]⟩ (fromSecs 2))
        (.ok (.setConfig ⟨(), (), .other ()⟩)) configured ∧
      Performs Protocol.sample configured (.sendCommand ⟨4, [0, 7]⟩ (fromSecs 10))
        (.ok (.txDone ⟨.transmitted, 9⟩)) later ∧
      (transmissions Protocol.sample later).length = 2 :=
    ⟨_, _, _, .command 0 refusedTx rfl rfl rfl, .command 1 acceptedConfig rfl rfl rfl,
      .command 2 acceptedTx rfl rfl rfl, rfl⟩
  rcases commands with ⟨refused, configured, later, refuses, configures, transmits, twice⟩
  have ran : Program.Runs (Performs Protocol.sample) ⟨spawn, []⟩
      (txWithTimeout Protocol.sample [7] false (fromSecs 10)) later
      (.done (.ok ⟨.transmitted, 9⟩)) :=
    .step (quiet (.acquire .closed) () rfl) <| .step (quiet (.load .closed) false rfl) <|
    .step (quiet (.release .closed) () rfl) <| .step (quiet .now (0 : Nat) rfl) <|
    .step (quiet (.acquire .lastWriteAt) () rfl) <|
    .step (quiet (.store .lastWriteAt (0 : Nat)) () rfl) <|
    .step (quiet (.release .lastWriteAt) () rfl) <| .step refuses <|
    .step (quiet (.acquire .appliedConfig) () rfl) <|
    .step (quiet (.load .appliedConfig) (some (.other ())) rfl) <|
    .step (quiet (.release .appliedConfig) () rfl) <| .step configures <|
    .step (quiet (.acquire .appliedConfig) () rfl) <|
    .step (quiet (.store .appliedConfig (some (.other ()))) () rfl) <|
    .step (quiet (.release .appliedConfig) () rfl) <| .step transmits <|
    .refl _ _
  exact ⟨later, ran, twice, (no_duplicate_transmission Protocol.sample .initial rfl).1
    [7] false (fromSecs 10) later _ ran⟩

end DongloraClient.Dongle
