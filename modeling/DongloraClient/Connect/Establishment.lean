import DongloraClient.Connect.FailedHandshake
import DongloraClient.Connect.Options
import DongloraClient.Dongle.Receipts
import DongloraClient.Session.TagSequence

/-! # What a connected dongle starts from

A handshake that succeeds has asked the device for everything the dongle knows, and
hands over a session with nothing left open: this is where the runs of a dongle begin.
-/

namespace DongloraClient.Connect.Handshake

open Foundation Session Dongle

variable {types : WireTypes} {protocol : Protocol types}

/-! ## One command -/

def requestsBegun (trace : List Action) : List Request :=
  trace.filterMap fun
    | .begin _ request => some request
    | _ => none

theorem requestsBegun_append (first second : List Action) :
    requestsBegun (first ++ second) = requestsBegun first ++ requestsBegun second :=
  List.filterMap_append

/-- How far the command `call` has come, which takes the tag at `index`. -/
structure Asking (index : Nat) (call : CallId) (state : State types) (trace : List Action) :
    Prop where
  begun : requestsBegun trace = (requestOf (state.calls call)).toList
  counter : state.nextTag = tagAt (index + (state.calls call).tag.toList.length)
  given : ∀ tag, (state.calls call).tag = some tag → tag = tagAt index

theorem Asking.keep {index : Nat} {call : CallId} {state next : State types} {action : Action}
    {trace : List Action} (asking : Asking index call state trace)
    (begunNone : requestsBegun [action] = [])
    (sameRequest : requestOf (next.calls call) = requestOf (state.calls call))
    (sameTag : (next.calls call).tag = (state.calls call).tag)
    (sameCounter : next.nextTag = state.nextTag) : Asking index call next (trace ++ [action]) where
  begun := by
    rw [requestsBegun_append, begunNone, List.append_nil, sameRequest]
    exact asking.begun
  counter := by
    rw [sameCounter, sameTag]
    exact asking.counter
  given tag given := asking.given tag (sameTag ▸ given)

theorem Asking.step {index : Nat} {call : CallId} {state next : State types} {action : Action}
    {trace : List Action} (asking : Asking index call state trace)
    (transition : Transition protocol state action next)
    (own : action.task = .call call ∨ action.task = .reader) :
    Asking index call next (trace ++ [action]) := by
  rcases own with isOwn | isReader
  · cases transition with
    | advance other current advances =>
        cases advances with
        | refuse request _ | accept request _ =>
            cases isOwn
            have nothing := asking.begun
            have counter := asking.counter
            rw [current] at nothing counter
            refine ⟨?_, ?_, ?_⟩
            · rw [requestsBegun_append, nothing]
              simp [State.setPhase, requestOf, requestsBegun]
            · simpa [State.setPhase, Phase.tag] using counter
            · simp [State.setPhase, Phase.tag]
        | _ =>
            cases isOwn
            refine asking.keep rfl ?_ ?_ rfl
            · simp [State.setPhase, requestOf, current]
            · simp [State.setPhase, Phase.tag, current]
    | allocTag other current =>
        cases isOwn
        have nothing := asking.begun
        have counter := asking.counter
        rw [current] at nothing counter
        refine ⟨?_, ?_, ?_⟩
        · rw [requestsBegun_append, nothing]
          simp [State.setPhase, requestOf, requestsBegun]
        · change advanceTag state.nextTag = _
          rw [counter, advanceTag_tagAt]
          simp [State.setPhase, Phase.tag]
        · intro tag given
          simp only [State.setPhase, Function.update_self, Phase.tag, Option.some.injEq] at given
          rw [← given, counter]
          rfl
    | register other current =>
        cases isOwn
        refine asking.keep rfl ?_ ?_ (by simp [State.record, State.setPhase, State.insertSlot])
        · simp [State.record, State.setPhase, requestOf, current]
        · simp [State.record, State.setPhase, Phase.tag, current]
    | cleanup other current =>
        cases isOwn
        refine asking.keep rfl ?_ ?_ (by simp [State.setPhase, State.removeSlot])
        · simp [State.setPhase, requestOf, current]
        · simp [State.setPhase, Phase.tag, current]
    | readerMoves current moves => cases moves <;> cases isOwn
    | _ => cases isOwn
  · have same : next.calls call = state.calls call :=
      transition.keeps_call (by simp [isReader])
    have unmoved : next.nextTag = state.nextTag := by
      rcases transition.counter with ⟨_, _, unmoved⟩ | ⟨allocates, _, _⟩
      · exact unmoved
      · cases action <;> cases isReader <;> cases allocates
    refine asking.keep ?_ (by rw [same]) (by rw [same]) unmoved
    cases action <;> cases isReader <;> rfl

theorem Asking.run {index : Nat} {call : CallId} {state next : State types}
    {trace actions : List Action} (asking : Asking index call state trace)
    (own : ∀ action ∈ actions, action.task = .call call ∨ action.task = .reader)
    (ran : (Session.machine protocol).run state actions = some next) :
    Asking index call next (trace ++ actions) := by
  induction actions generalizing state trace with
  | nil =>
      cases ran
      rw [List.append_nil]
      exact asking
  | cons action actions induction =>
      rw [Machine.run_cons, Option.bind_eq_some_iff] at ran
      rcases ran with ⟨middle, stepped, rest⟩
      have after := asking.step (transition_of_step protocol stepped) (own action (by simp))
      have whole := induction after (fun other member => own other (by simp [member])) rest
      rw [List.append_assoc] at whole
      exact whole

/-! ## Commands one after another -/

/-- The response was computed, for a command of type `cmdType`, from a frame with `tag`. -/
def RepliedUnder (protocol : Protocol types) (session : State types) (tag : UInt16)
    (cmdType : UInt8) (response : SessionResponse types) : Prop :=
  ∃ serial frame call, .dispatched serial frame (some ⟨cmdType, call⟩) ∈ session.history ∧
    frame.tag = tag ∧ response = resolve protocol cmdType frame.typeId frame.payload

structure Asked (protocol : Protocol types) (setup : Setup types) (requests : List Request) :
    Prop where
  reached : (Session.machine protocol).Reachable setup.session
  undisturbed : Undisturbed setup.session setup.trace
  begun : requestsBegun setup.trace = requests
  counter : setup.session.nextTag = tagAt requests.length
  closer : setup.session.closer = .idle
  rested : ∀ call, setup.session.calls call = .idle ∨
    ∃ request tag response, setup.session.calls call = .returned request tag (.ok response)

theorem asked_spawned : Asked protocol .spawned [] where
  reached := .initial
  undisturbed := undisturbed_spawn
  begun := rfl
  counter := rfl
  closer := rfl
  rested _ := .inl rfl

theorem RepliedUnder.later {before after : Setup types} {effect : Effect types}
    {answer : Answer effect} {tag : UInt16} {cmdType : UInt8} {response : SessionResponse types}
    (replied : RepliedUnder protocol before.session tag cmdType response)
    (conducts : Conducts protocol before effect answer after) :
    RepliedUnder protocol after.session tag cmdType response := by
  rcases replied with ⟨serial, frame, call, dispatched, rest⟩
  refine ⟨serial, frame, call, ?_, rest⟩
  rcases conducts.ran with ⟨actions, ran, _⟩
  have kept : ∀ current action next,
      .dispatched serial frame (some ⟨cmdType, call⟩) ∈ current.history →
      (Session.machine protocol).step current action = some next →
      .dispatched serial frame (some ⟨cmdType, call⟩) ∈ next.history := by
    intro current action next member stepped
    rcases (transition_of_step protocol stepped).history_grows with ⟨fresh, grown⟩
    rw [grown]
    exact List.mem_append_right fresh member
  exact Machine.run_preserves kept dispatched ran

theorem Asked.command {before after : Setup types} {requests : List Request}
    {request : Request} {timeout : Duration} {response : SessionResponse types}
    (asked : Asked protocol before requests)
    (conducts : Conducts protocol before (.sendCommand request timeout) (.ok response) after)
    (notDrained : ∀ reason, response ≠ .err (.transportClosed reason)) :
    Asked protocol after (requests ++ [request]) ∧
      RepliedUnder protocol after.session (tagAt requests.length) request.typeId response := by
  have undisturbed := undisturbed_of_conducts conducts (by simp) asked.undisturbed
  cases conducts with
  | @command session call _ _ tag _ actions unused own ran returned =>
      have reached := asked.reached.run ran
      rcases answered_by_frame reached returned notDrained with
        ⟨serial, frame, given, dispatched, _, computed⟩
      have started : Asking requests.length call before.session [] := by
        constructor <;> simp [unused, requestOf, Phase.tag, requestsBegun, asked.counter]
      have asking := started.run own ran
      have tagged : (session.calls call).tag = some frame.tag := by
        rw [returned]
        exact given
      refine ⟨⟨reached, undisturbed, ?_, ?_, ?_, ?_⟩, serial, frame, call, dispatched,
        asking.given frame.tag tagged, computed⟩
      · have begun := asking.begun
        rw [returned] at begun
        rw [requestsBegun_append, asked.begun]
        exact congrArg (requests ++ ·) begun
      · rw [asking.counter, tagged, List.length_append]
        rfl
      · have kept : session.closer = before.session.closer := by
          apply Machine.run_keeps _ ran
          intro action member current next stepped
          apply (transition_of_step protocol stepped).keeps_closer
          rcases own action member with isOwn | isReader
          · simp [isOwn]
          · simp [isReader]
        exact kept.trans asked.closer
      · intro other
        by_cases same : other = call
        · subst same
          exact .inr ⟨request, tag, response, returned⟩
        · have kept : session.calls other = before.session.calls other := by
            apply @Machine.run_keeps _ _ _ _ (fun state => state.calls other) _ _ _ _ ran
            intro action member current next stepped
            apply (transition_of_step protocol stepped).keeps_call
            rcases own action member with isOwn | isReader
            · rw [isOwn]
              intro equal
              exact same (Task.call.inj equal).symm
            · simp [isReader]
          rw [kept]
          exact asked.rested other

/-! ## The helpers -/

theorem infoResult_eq_ok {result : ClientResult (SessionResponse types)} {info : Info}
    (accepted : infoResult protocol result = .ok info) : result = .ok (.info info) := by
  unfold infoResult at accepted
  split at accepted
  · cases accepted
  · cases accepted
    rfl
  · cases accepted
  · cases accepted

section Helpers

variable {perform : Setup types → (effect : Effect types) → Answer effect → Setup types → Prop}
  {before after : Setup types} {timeout : Duration}

theorem runs_ping {result : ClientResult Unit}
    (ran : Program.Runs perform before (Session.ping protocol timeout) after (.done result)) :
    ∃ answer, perform before (.sendCommand ⟨protocol.typePing, []⟩ timeout) answer after ∧
      result = emptyResult protocol "PING" answer := by
  cases ran with
  | step performed rest =>
      rcases rest.of_done with ⟨rfl, rfl⟩
      exact ⟨_, performed, rfl⟩

theorem runs_getInfo {result : ClientResult Info}
    (ran : Program.Runs perform before (Session.getInfo protocol timeout) after (.done result)) :
    ∃ answer, perform before (.sendCommand ⟨protocol.typeGetInfo, []⟩ timeout) answer after ∧
      result = infoResult protocol answer := by
  cases ran with
  | step performed rest =>
      rcases rest.of_done with ⟨rfl, rfl⟩
      exact ⟨_, performed, rfl⟩

theorem runs_setConfig {modulation : Modulation types} {result : SetConfigResult types}
    (ran : Program.Runs perform before (Session.setConfig protocol modulation timeout) after
      (.done (.ok result))) :
    ∃ payload answer, protocol.encodeSetConfig modulation = .ok payload ∧
      perform before (.sendCommand ⟨protocol.typeSetConfig, payload⟩ timeout) answer after ∧
      setConfigResult protocol answer = .ok result := by
  rw [Session.setConfig] at ran
  cases encoded : protocol.encodeSetConfig modulation with
  | error reason =>
      rw [encoded] at ran
      cases ran.of_done.2
  | ok payload =>
      rw [encoded] at ran
      cases ran with
      | step performed rest =>
          rcases rest.of_done with ⟨rfl, accepted⟩
          exact ⟨payload, _, rfl, performed, accepted.symm⟩

theorem runs_prepare {debugBandwidth : types.LoRaBandwidth → String} {build : Build}
    {info : Info} {modulation : Modulation types} {result : ClientResult (Modulation types)}
    (ran : Program.Runs perform before (prepare protocol debugBandwidth build info modulation)
      after (.done result)) :
    after = before ∧
      evaluate build (prepareConfig protocol debugBandwidth info modulation) = some result := by
  rw [prepare] at ran
  cases evaluated : evaluate build (prepareConfig protocol debugBandwidth info modulation) with
  | none =>
      rw [evaluated] at ran
      cases ran with
      | @step _ _ _ _ _ answer => exact Empty.elim answer
  | some value =>
      rw [evaluated] at ran
      rcases ran.of_done with ⟨rfl, rfl⟩
      exact ⟨rfl, rfl⟩

end Helpers

/-! ## What is handed over -/

structure HandedOver (protocol : Protocol types) (session : State types) : Prop where
  reached : (Session.machine protocol).Reachable session
  opened : session.closed = false
  closer : session.closer = .idle
  rested : ∀ call, ¬ Busy (session.calls call)
  empty : ∀ tag, session.pending.lookup tag = none

/-- Whoever has a slot has an empty channel, and whoever was answered has not. -/
theorem Asked.handedOver {setup : Setup types} {requests : List Request}
    (asked : Asked protocol setup requests) : HandedOver protocol setup.session where
  reached := asked.reached
  opened := asked.undisturbed.opened
  closer := asked.closer
  rested call := by
    rcases asked.rested call with idle | ⟨_, _, _, returned⟩
    · rw [idle]
      exact id
    · rw [returned]
      exact id
  empty tag := by
    rw [← Option.not_isSome_iff_eq_none, Option.isSome_iff_exists]
    rintro ⟨slot, found⟩
    have owned := owned_of_reachable asked.reached
    have registered := owned.owner tag slot (.inl found)
    rcases asked.rested slot.waker with idle | ⟨request, given, response, returned⟩
    · rw [idle] at registered
      cases registered
    · rcases (recorded_of_reachable asked.reached).answered _ _ _ _ returned with
        ⟨source, delivered⟩
      have answered : slot.waker ∈ deliveredCalls setup.session.history :=
        List.mem_filterMap.mpr ⟨_, delivered, rfl⟩
      exact owned.spent _ answered tag slot (.inl found) rfl

inductive Learned (protocol : Protocol types) (debugBandwidth : types.LoRaBandwidth → String)
    (build : Build) (session : State types) (info : Info) :
    Option (Modulation types) → Option (Modulation types) → List Request → Prop
  | unconfigured :
      Learned protocol debugBandwidth build session info none none
        [⟨protocol.typePing, []⟩, ⟨protocol.typeGetInfo, []⟩]
  | configured {modulation prepared : Modulation types} {payload : List UInt8}
      {result : SetConfigResult types}
      (accepted : evaluate build (prepareConfig protocol debugBandwidth info modulation) =
        some (.ok prepared))
      (encoded : protocol.encodeSetConfig prepared = .ok payload)
      (replied : RepliedUnder protocol session 3 protocol.typeSetConfig (.setConfig result)) :
      Learned protocol debugBandwidth build session info (some modulation)
        (some result.current)
        [⟨protocol.typePing, []⟩, ⟨protocol.typeGetInfo, []⟩, ⟨protocol.typeSetConfig, payload⟩]

theorem learned_of_autoConfigure {debugBandwidth : types.LoRaBandwidth → String} {build : Build}
    {info : Info} {options : ConnectOptions types} {timeout : Duration}
    {before after : Setup types} {applied : Option (Modulation types)}
    (asked : Asked protocol before
      [⟨protocol.typePing, []⟩, ⟨protocol.typeGetInfo, []⟩])
    (ran : Program.Runs (Conducts protocol) before
      (autoConfigure protocol debugBandwidth build info options timeout) after
      (.done (.ok applied))) :
    ∃ requests, Asked protocol after requests ∧
      Learned protocol debugBandwidth build after.session info
        (if options.autoConfigure then options.config else none) applied requests ∧
      ∀ tag cmdType response, RepliedUnder protocol before.session tag cmdType response →
        RepliedUnder protocol after.session tag cmdType response := by
  rw [autoConfigure] at ran
  split at ran
  · next enabled =>
    rw [if_pos enabled]
    split at ran
    · next modulation config =>
      rw [config]
      rcases ran.of_bind with ⟨middle, prepared, preparing, rest⟩
      rcases runs_prepare preparing with ⟨rfl, evaluated⟩
      cases prepared with
      | error error => cases rest.of_done.2
      | ok prepared =>
          rcases rest.of_bind with ⟨reached, result, configuring, last⟩
          cases result with
          | error error => cases last.of_done.2
          | ok result =>
              rcases last.of_done with ⟨rfl, same⟩
              cases same
              rcases runs_setConfig configuring with ⟨payload, answer, encoded, conducts, made⟩
              have answered := setConfigResult_eq_ok made
              subst answered
              have next := asked.command conducts (by simp)
              exact ⟨_, next.1, .configured evaluated encoded next.2,
                fun _ _ _ replied => replied.later conducts⟩
    · next config =>
      rw [config]
      rcases ran.of_done with ⟨rfl, same⟩
      cases same
      exact ⟨_, asked, .unconfigured, fun _ _ _ replied => replied⟩
  · next disabled =>
    rw [if_neg disabled]
    rcases ran.of_done with ⟨rfl, same⟩
    cases same
    exact ⟨_, asked, .unconfigured, fun _ _ _ replied => replied⟩

/-- When a handshake succeeds, the dongle knows what the device has said: it answered the
`PING`, `info` is its answer to the `GET_INFO`, and the cached configuration is the one
it reported for a `SET_CONFIG` of exactly the prepared configuration that the options ask
for, which is the last one set unless its application was switched off afterwards. No
other command was begun, and the session is handed over with nothing left open. -/
theorem established_from_device (debugBandwidth : types.LoRaBandwidth → String)
    (build : Build) (kind : TransportKind) (base : ConnectOptions types)
    (settings : List (Setting types)) (timeout : Duration) (setup : Setup types)
    (established : Established types) (blank : base = .new ∨ base = .default)
    (succeeded : Program.Runs (Conducts protocol) .spawned
      (finalize protocol debugBandwidth build kind (configure base settings) timeout) setup
      (.done (.ok established))) :
    RepliedUnder protocol setup.session 1 protocol.typePing .empty ∧
    RepliedUnder protocol setup.session 2 protocol.typeGetInfo (.info established.info) ∧
    Learned protocol debugBandwidth build setup.session established.info (requested settings)
      established.applied (requestsBegun setup.trace) ∧
    established.kind = kind ∧
    established.keepalive =
      (lastSetting Setting.toKeepalive settings).getD base.keepalive ∧
    HandedOver protocol setup.session := by
  rcases succeeded.of_bind with ⟨pinged, pong, pinging, rest⟩
  rcases runs_ping pinging with ⟨answer, ping, made⟩
  cases pong with
  | error error => cases rest.of_done.2
  | ok _ =>
      have alive := emptyResult_eq_ok made.symm
      subst alive
      have first := asked_spawned.command ping (by simp)
      rcases rest.of_bind with ⟨informed, info, asking, rest⟩
      rcases runs_getInfo asking with ⟨answer, getInfo, made⟩
      cases info with
      | error error => cases rest.of_done.2
      | ok info =>
          have known := infoResult_eq_ok made.symm
          subst known
          have second := first.1.command getInfo (by simp)
          rcases rest.of_bind with ⟨reached, applied, configuring, last⟩
          cases applied with
          | error error => cases last.of_done.2
          | ok applied =>
              rcases last.of_done with ⟨rfl, same⟩
              cases same
              rcases learned_of_autoConfigure second.1 configuring with
                ⟨requests, asked, learned, later⟩
              rw [← requested_configure blank settings, ← asked.begun] at learned
              exact ⟨later _ _ _ (first.2.later getInfo), later _ _ _ second.2, learned, rfl,
                keepalive_configure base settings, asked.handedOver⟩

/-! ## A handshake that succeeds -/

def littleEndian (bytes : List UInt8) : Nat :=
  bytes.foldr (fun byte rest => byte.toNat + 256 * rest) 0

/-- The answer to `GET_INFO` of a device that gives no identifiers: fixed fields only. -/
def decodeInfo (payload : List UInt8) : Option Info :=
  let field (offset size : Nat) := littleEndian ((payload.drop offset).take size)
  if payload.length = 37 then
    some
      { supportedSfBitmap := .ofNat (field 15 2)
        supportedBwBitmap := .ofNat (field 17 2)
        freqMinHz := .ofNat (field 25 4)
        freqMaxHz := .ofNat (field 29 4)
        txPowerMinDbm := (UInt8.ofNat (field 33 1)).toInt8
        txPowerMaxDbm := (UInt8.ofNat (field 34 1)).toInt8 }
  else none

def describingProtocol : Protocol WireTypes.sample :=
  { Protocol.sample with
    parseFor := fun cmdType payload =>
      if cmdType = 2 then (decodeInfo payload).map .info
      else Protocol.sample.parseFor cmdType payload }

def infoPayload : List UInt8 :=
  [1, 0, 0, 1, 0, 2, 0, 1, 0, 0, 0, 0, 0, 0, 0, 224, 31, 255, 3, 255, 0, 64,
    0, 16, 0, 192, 85, 112, 51, 0, 40, 80, 55, 247, 22, 0, 0]

def exchangeOf (call : CallId) (request : Request) (frame : Frame) : List Action :=
  [.readerCheck, .begin call request, .allocTag call, .register call, .write call none,
    .readerRead [.ok frame], .readerDispatch, .receive call, .readerDispatch]

def describingSetup (actions : List Action) : Setup WireTypes.sample :=
  ⟨((Session.machine describingProtocol).run spawn actions).getD spawn, actions⟩

def pingAnswered : List Action := exchangeOf 0 ⟨1, []⟩ ⟨128, 1, []⟩

def infoAnswered : List Action := pingAnswered ++ exchangeOf 1 ⟨2, []⟩ ⟨128, 2, infoPayload⟩

def configAnswered : List Action := infoAnswered ++ exchangeOf 2 ⟨3, [1]⟩ ⟨128, 3, [0]⟩

theorem established_from_device_configured :
    ∃ setup established, Program.Runs (Conducts describingProtocol) .spawned
        (finalize describingProtocol (fun _ => "BW") .checked (.serial "/dev/ttyACM0")
          (configure .default [.autoConfigure false, .config (.loRa (sampleConfig 7))])
          (fromSecs 2)) setup (.done (.ok established)) ∧
      established.applied = some (.other ()) ∧
      established.keepalive = false ∧
      RepliedUnder describingProtocol setup.session 2 2 (.info established.info) ∧
      HandedOver describingProtocol setup.session := by
  have pinged : Conducts describingProtocol .spawned (.sendCommand ⟨1, []⟩ (fromSecs 2))
      (.ok .empty) (describingSetup pingAnswered) :=
    .command 0 pingAnswered rfl (by decide) rfl rfl
  have informed : Conducts describingProtocol (describingSetup pingAnswered)
      (.sendCommand ⟨2, []⟩ (fromSecs 2)) (.ok (.info sampleInfo))
      (describingSetup infoAnswered) :=
    .command 1 (exchangeOf 1 ⟨2, []⟩ ⟨128, 2, infoPayload⟩) rfl (by decide) rfl rfl
  have configured : Conducts describingProtocol (describingSetup infoAnswered)
      (.sendCommand ⟨3, [1]⟩ (fromSecs 2)) (.ok (.setConfig ⟨(), (), .other ()⟩))
      (describingSetup configAnswered) :=
    .command 2 (exchangeOf 2 ⟨3, [1]⟩ ⟨128, 3, [0]⟩) rfl (by decide) rfl rfl
  have succeeded : Program.Runs (Conducts describingProtocol) .spawned
      (finalize describingProtocol (fun _ => "BW") .checked (.serial "/dev/ttyACM0")
        (configure .default [.autoConfigure false, .config (.loRa (sampleConfig 7))])
        (fromSecs 2)) (describingSetup configAnswered)
      (.done (.ok ⟨sampleInfo, .serial "/dev/ttyACM0", some (.other ()), false⟩)) :=
    .step pinged (.step informed (.step configured (.refl _ _)))
  have known := established_from_device (fun _ => "BW") .checked (.serial "/dev/ttyACM0") .default
    [.autoConfigure false, .config (.loRa (sampleConfig 7))] (fromSecs 2) _ _ (.inr rfl) succeeded
  exact ⟨_, _, succeeded, rfl, rfl, known.2.1, known.2.2.2.2.2⟩

end DongloraClient.Connect.Handshake
