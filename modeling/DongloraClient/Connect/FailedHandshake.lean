import DongloraClient.Connect.Handshake
import DongloraClient.Session.Transitions

/-! # What a failed handshake leaves behind

`finalize` owns the session until it returns. When it returns an error the session
is dropped, and with it the handle of the reader task; dropping a handle detaches
its task. Whether the reader is gone by then depends on the transport alone.
-/

namespace DongloraClient.Connect.Handshake

open Foundation Session

variable {types : WireTypes} (protocol : Protocol types)

/-! ## A handshake among the steps of its session -/

structure Setup (types : WireTypes) where
  session : State types
  trace : List Action

def Setup.spawned : Setup types := ⟨spawn, []⟩

/-- Nobody but `finalize` and the reader knows the session, so that the steps of a
command, or of `Session::close`, are its own and those of the reader. -/
inductive Conducts : Setup types → (effect : Effect types) → Answer effect →
    Setup types → Prop
  | command {before : Setup types} {after : State types} (call : CallId)
      {request : Request} {timeout : Duration} {tag : Option UInt16}
      {result : ClientResult (SessionResponse types)} (actions : List Action)
      (unused : before.session.calls call = .idle)
      (own : ∀ action ∈ actions, action.task = .call call ∨ action.task = .reader)
      (ran : (Session.machine protocol).run before.session actions = some after)
      (returned : after.calls call = .returned request tag result) :
      Conducts before (.sendCommand request timeout) result ⟨after, before.trace ++ actions⟩
  | close {before : Setup types} {after : State types} (actions : List Action)
      (own : ∀ action ∈ actions, action.task = .close ∨ action.task = .reader)
      (ran : (Session.machine protocol).run before.session actions = some after)
      (finished : after.closer = .done) :
      Conducts before .closeSession () ⟨after, before.trace ++ actions⟩

def ReaderStopped (session : State types) : Prop :=
  session.reader = .exited ∨ session.reader = .stopped

/-- The reader stops on its own, without finding the end of the transport first. -/
def ReaderStops (session : State types) : Prop :=
  ∃ later final, (∀ action ∈ later, action.task = .reader ∧ action ≠ .readerLeave) ∧
    (Session.machine protocol).run session later = some final ∧ ReaderStopped final

def TransportEnded (trace : List Action) : Prop := .readerLeave ∈ trace

instance (trace : List Action) : Decidable (TransportEnded trace) :=
  inferInstanceAs (Decidable (_ ∈ _))

/-! ## Sessions that nobody closes -/

/-- How far the reader can have come after `trace`, none of which is a step of
`close`. -/
structure Undisturbed (session : State types) (trace : List Action) : Prop where
  opened : session.closed = false
  notAborted : session.aborted = false
  notStopped : session.reader ≠ .stopped
  left : session.reader.inLoop = false ↔ TransportEnded trace

section Undisturbed

variable {protocol} {session next : State types} {trace : List Action} {action : Action}

theorem undisturbed_spawn : Undisturbed (spawn : State types) [] where
  opened := rfl
  notAborted := rfl
  notStopped := by simp [spawn]
  left := by simp [spawn, ReaderPhase.inLoop, TransportEnded]

theorem Undisturbed.keep (undisturbed : Undisturbed session trace)
    (closed : next.closed = session.closed) (aborted : next.aborted = session.aborted)
    (notStopped : next.reader ≠ .stopped)
    (reader : next.reader.inLoop = session.reader.inLoop) (goesOn : action ≠ .readerLeave) :
    Undisturbed next (trace ++ [action]) where
  opened := closed.trans undisturbed.opened
  notAborted := aborted.trans undisturbed.notAborted
  notStopped := notStopped
  left := by
    rw [reader, undisturbed.left]
    simp [TransportEnded, Ne.symm goesOn]

theorem Undisturbed.step (undisturbed : Undisturbed session trace)
    (transition : Transition protocol session action next) (notClose : action.task ≠ .close) :
    Undisturbed next (trace ++ [action]) := by
  rcases transition.keeps_flags notClose with ⟨closed, notAborted⟩
  by_cases own : action.task = .reader
  · cases transition with
    | advance call current advances => cases advances <;> cases own
    | readerMoves current moves =>
        cases moves with
        | check =>
            refine undisturbed.keep rfl rfl ?_ ?_ (by simp)
            · simp [undisturbed.opened]
            · simp [undisturbed.opened, current, ReaderPhase.inLoop]
        | leave =>
            refine ⟨undisturbed.opened, undisturbed.notAborted, by simp, ?_⟩
            simp [ReaderPhase.inLoop, TransportEnded]
        | _ =>
            exact undisturbed.keep rfl rfl (by simp) (by simp [current, ReaderPhase.inLoop])
              (by simp)
    | corrupt current | unanswered current | absorbed current | resolved current
    | reinsert current | readerDrain current =>
        exact undisturbed.keep closed notAborted (by simp)
          (by simp [current, ReaderPhase.inLoop]) (by simp)
    | readerStop aborted _ =>
        rw [undisturbed.notAborted] at aborted
        cases aborted
    | _ => cases own
  · have same := (transition.keeps_reader own).1
    refine undisturbed.keep closed notAborted ?_ (by rw [same]) ?_
    · rw [same]
      exact undisturbed.notStopped
    · rintro rfl
      exact own rfl

theorem Undisturbed.run {actions : List Action} (undisturbed : Undisturbed session trace)
    (notClose : ∀ action ∈ actions, action.task ≠ .close)
    (ran : (Session.machine protocol).run session actions = some next) :
    Undisturbed next (trace ++ actions) := by
  induction actions generalizing session trace with
  | nil =>
      cases ran
      rw [List.append_nil]
      exact undisturbed
  | cons action actions induction =>
      rw [Machine.run_cons, Option.bind_eq_some_iff] at ran
      rcases ran with ⟨middle, stepped, rest⟩
      have after := undisturbed.step (transition_of_step protocol stepped)
        (notClose action (by simp))
      have whole := induction after (fun other member => notClose other (by simp [member])) rest
      rw [List.append_assoc] at whole
      exact whole

theorem Undisturbed.ended_of_stopped (undisturbed : Undisturbed session trace)
    (stopped : ReaderStopped session) : TransportEnded trace := by
  apply undisturbed.left.mp
  rw [stopped.resolve_right undisturbed.notStopped]
  rfl

/-- After the end of the transport the reader has at most its last step to take. -/
theorem Undisturbed.stopped_of_ended (undisturbed : Undisturbed session trace)
    (ended : TransportEnded trace) :
    ReaderStopped session ∨
      ∃ last, (Session.machine protocol).step session .readerDrain = some last ∧
        ReaderStopped last := by
  have outside := undisturbed.left.mpr ended
  cases current : session.reader with
  | leaving =>
      refine .inr ⟨{ session.drain "reader exited" with reader := .exited }, ?_, .inl rfl⟩
      simp [Session.machine, Session.step, Session.Action.task, stepReader, current]
  | exited => exact .inl (.inl current)
  | stopped => exact absurd current undisturbed.notStopped
  | _ =>
      rw [current] at outside
      cases outside

theorem Undisturbed.stops_iff (undisturbed : Undisturbed session trace) :
    ReaderStops protocol session ↔ TransportEnded trace := by
  constructor
  · rintro ⟨later, final, own, ran, stopped⟩
    have after := undisturbed.run (fun action member => by simp [(own action member).1]) ran
    rcases List.mem_append.mp (after.ended_of_stopped stopped) with before | during
    · exact before
    · exact absurd rfl (own _ during).2
  · intro ended
    rcases undisturbed.stopped_of_ended ended with stopped | ⟨last, drained, stopped⟩
    · exact ⟨[], session, by simp, rfl, stopped⟩
    · refine ⟨[.readerDrain], last, by simp [Action.task], ?_, stopped⟩
      rw [Machine.run_cons, drained]
      rfl

end Undisturbed

/-! ## What `finalize` does to its session -/

section Commands

variable {protocol} {before after : Setup types} {effect : Effect types} {answer : Answer effect}

theorem Conducts.ran (conducts : Conducts protocol before effect answer after) :
    ∃ actions, (Session.machine protocol).run before.session actions = some after.session ∧
      after.trace = before.trace ++ actions := by
  cases conducts with
  | command _ actions _ _ ran _ => exact ⟨actions, ran, rfl⟩
  | close actions _ ran _ => exact ⟨actions, ran, rfl⟩

theorem undisturbed_of_conducts (conducts : Conducts protocol before effect answer after)
    (notClose : effect ≠ .closeSession)
    (undisturbed : Undisturbed before.session before.trace) :
    Undisturbed after.session after.trace := by
  cases conducts with
  | command call actions unused own ran returned =>
      apply undisturbed.run _ ran
      intro action member
      rcases own action member with isOwn | isReader
      · simp [isOwn]
      · simp [isReader]
  | close => exact absurd rfl notClose

end Commands

def NeverCloses {Result : Type} (operation : Operation types Result) : Prop :=
  operation.Performs fun effect => effect ≠ .closeSession

section NeverCloses

variable {protocol}

theorem NeverCloses.bind {First Second : Type} {operation : Operation types First}
    {next : First → Operation types Second} (first : NeverCloses operation)
    (second : ∀ value, NeverCloses (next value)) : NeverCloses (operation >>= next) :=
  Program.Performs.bind first second

theorem neverCloses_done {Result : Type} (value : Result) :
    NeverCloses (.done value : Operation types Result) := trivial

theorem neverCloses_command {Result : Type} (typeId : UInt8) (payload : List UInt8)
    (timeout : Duration) (finish : ClientResult (SessionResponse types) → Result) :
    NeverCloses
      (sendCommand typeId payload timeout >>= fun response => .done (finish response)) :=
  NeverCloses.bind (Program.performs_effect (by simp)) fun _ => neverCloses_done _

theorem neverCloses_setConfig (modulation : Modulation types) (timeout : Duration) :
    NeverCloses (Session.setConfig protocol modulation timeout) := by
  rw [Session.setConfig]
  split
  · exact neverCloses_done _
  · exact neverCloses_command _ _ _ _

theorem neverCloses_autoConfigure (debugBandwidth : types.LoRaBandwidth → String)
    (build : Build) (info : Info) (options : ConnectOptions types) (timeout : Duration) :
    NeverCloses (autoConfigure protocol debugBandwidth build info options timeout) := by
  have prepares : ∀ modulation,
      NeverCloses (prepare protocol debugBandwidth build info modulation) := by
    intro modulation
    rw [prepare]
    split
    · refine ⟨by simp, ?_⟩
      intro answer
      cases answer
    · exact neverCloses_done _
  rw [autoConfigure]
  split
  · split
    · next modulation _ =>
      apply (prepares modulation).bind
      intro prepared
      cases prepared with
      | error error => exact neverCloses_done _
      | ok prepared =>
          apply (neverCloses_setConfig prepared timeout).bind
          intro result
          cases result <;> exact neverCloses_done _
    · exact neverCloses_done _
  · exact neverCloses_done _

theorem neverCloses_finalize (debugBandwidth : types.LoRaBandwidth → String) (build : Build)
    (kind : TransportKind) (options : ConnectOptions types) (timeout : Duration) :
    NeverCloses (finalize protocol debugBandwidth build kind options timeout) := by
  apply NeverCloses.bind (neverCloses_command _ _ _ _)
  intro pinged
  cases pinged with
  | error error => exact neverCloses_done _
  | ok _ =>
      apply NeverCloses.bind (neverCloses_command _ _ _ _)
      intro informed
      cases informed with
      | error error => exact neverCloses_done _
      | ok info =>
          apply (neverCloses_autoConfigure debugBandwidth build info options timeout).bind
          intro applied
          cases applied <;> exact neverCloses_done _

end NeverCloses

/-- When a handshake fails, nobody has closed its session: the reader stops on its own
exactly if the transport has already ended under it, and then it is stopped or one step
away from it, wherever its steps have taken it. -/
theorem failed_finalize_stops_reader_iff (debugBandwidth : types.LoRaBandwidth → String)
    (build : Build) (kind : TransportKind) (options : ConnectOptions types)
    (timeout : Duration) (setup : Setup types) (error : ClientError)
    (failed : Program.Runs (Conducts protocol) .spawned
      (finalize protocol debugBandwidth build kind options timeout) setup
      (.done (.error error))) :
    (ReaderStops protocol setup.session ↔ TransportEnded setup.trace) ∧
    (TransportEnded setup.trace → ∀ later final,
      (∀ action ∈ later, action.task = .reader) →
      (Session.machine protocol).run setup.session later = some final →
      ReaderStopped final ∨
        ∃ last, (Session.machine protocol).step final .readerDrain = some last ∧
          ReaderStopped last) := by
  have undisturbed : Undisturbed setup.session setup.trace := by
    have neverCloses : NeverCloses
        (finalize protocol debugBandwidth build kind options timeout) :=
      neverCloses_finalize debugBandwidth build kind options timeout
    apply (Program.Performs.satisfies neverCloses _).invariant failed undisturbed_spawn
    intro current effect answer next before notClose conducts
    exact undisturbed_of_conducts conducts notClose before
  refine ⟨undisturbed.stops_iff, ?_⟩
  intro ended later final own ran
  have after := undisturbed.run (fun action member => by simp [own action member]) ran
  exact after.stopped_of_ended (List.mem_append_left later ended)

/-! ## Two handshakes that fail -/

def pingWritten : List Action :=
  [.readerCheck, .begin 0 ⟨1, []⟩, .allocTag 0, .register 0, .write 0 none]

def sampleSetup (actions : List Action) : Setup WireTypes.sample :=
  ⟨((Session.machine Protocol.sample).run spawn actions).getD spawn, actions⟩

def sampleHandshake : Operation WireTypes.sample
    (ClientResult (Established WireTypes.sample)) :=
  finalize Protocol.sample (fun _ => "BW") .checked (.serial "/dev/ttyACM0") .new (fromSecs 2)

theorem sampleHandshake_ping_fails {actions : List Action} {tag : Option UInt16}
    {result : ClientResult (SessionResponse WireTypes.sample)} {error : ClientError}
    (own : ∀ action ∈ actions, action.task = .call 0 ∨ action.task = .reader)
    (ran : (Session.machine Protocol.sample).run spawn actions =
      some (sampleSetup actions).session)
    (returned : (sampleSetup actions).session.calls 0 = .returned ⟨1, []⟩ tag result)
    (fails : emptyResult Protocol.sample "PING" result = .error error) :
    Program.Runs (Conducts Protocol.sample) .spawned sampleHandshake (sampleSetup actions)
      (.done (.error error)) := by
  have conducted : Conducts Protocol.sample .spawned
      (.sendCommand ⟨1, []⟩ (fromSecs 2)) result (sampleSetup actions) :=
    .command 0 actions rfl own ran returned
  rcases finalize_of_ping_failed Protocol.sample (fun _ => "BW") .checked
    (.serial "/dev/ttyACM0") .new (fromSecs 2) fails with ⟨next, begins, ends⟩
  rw [sampleHandshake, begins]
  refine .step conducted ?_
  rw [ends]
  exact .refl _ _

/-- The transport ends while the `PING` is waiting. The `PING` times out before the reader
has taken its last step. -/
theorem failed_finalize_stops_reader_at_end :
    ∃ setup, Program.Runs (Conducts Protocol.sample) .spawned sampleHandshake setup
        (.done (.error (.timeout "PING"))) ∧
      TransportEnded setup.trace ∧ ReaderStops Protocol.sample setup.session := by
  have failed : Program.Runs (Conducts Protocol.sample) .spawned sampleHandshake
      (sampleSetup (pingWritten ++ [.readerLeave, .timeout 0, .cleanup 0]))
      (.done (.error (.timeout "PING"))) :=
    sampleHandshake_ping_fails (by decide) rfl rfl rfl
  have ended : TransportEnded
      (sampleSetup (pingWritten ++ [.readerLeave, .timeout 0, .cleanup 0])).trace := by
    decide
  exact ⟨_, failed, ended, (failed_finalize_stops_reader_iff Protocol.sample (fun _ => "BW")
    .checked (.serial "/dev/ttyACM0") .new (fromSecs 2) _ _ failed).1.mpr ended⟩

/-- The `PING` times out, `finalize` returns, and the reader goes on reading. -/
theorem failed_finalize_leaks_reader :
    ∃ setup, Program.Runs (Conducts Protocol.sample) .spawned sampleHandshake setup
        (.done (.error (.timeout "PING"))) ∧
      setup.session.reader = .reading ∧ ¬ ReaderStopped setup.session := by
  have failed : Program.Runs (Conducts Protocol.sample) .spawned sampleHandshake
      (sampleSetup (pingWritten ++ [.timeout 0, .cleanup 0]))
      (.done (.error (.timeout "PING"))) :=
    sampleHandshake_ping_fails (by decide) rfl rfl rfl
  have reading : (sampleSetup (pingWritten ++ [.timeout 0, .cleanup 0])).session.reader =
      .reading := rfl
  refine ⟨_, failed, reading, ?_⟩
  rw [ReaderStopped, reading]
  simp

end DongloraClient.Connect.Handshake
