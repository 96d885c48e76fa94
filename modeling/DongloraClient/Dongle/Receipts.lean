import DongloraClient.Dongle.Closing
import DongloraClient.Dongle.ConcurrentMode
import DongloraClient.Dongle.Dropping
import DongloraClient.Dongle.Transmission

/-! # Every success has an answer of its own

However many calls share a dongle, and whichever of them are dropped, a call that reports
success does so on the strength of an answer that the device gave to a command of that
very call, and no two calls rest on the same frame. An `rx_start` that finds the mode in
its cell asks nothing.
-/

namespace DongloraClient.Dongle

open Foundation Session

variable {types : WireTypes} (protocol : Protocol types)

/-! ## Successes and the answers they rest on -/

def Outcome.isSuccess : Outcome types → Bool
  | .transmitted (.ok _) => true
  | .retried (.ok _) => true
  | .finished (.ok _) => true
  | _ => false

inductive Vouches : Call types → Outcome types → Request → SessionResponse types → Prop
  | transmitted {data : List UInt8} {skipCad : Bool} {timeout : Duration} {done : TxDonePayload}
      (onAir : done.result = .transmitted) :
      Vouches (.txWithTimeout data skipCad timeout) (.transmitted (.ok done))
        ⟨protocol.typeTx, protocol.txFlagsAsByte skipCad :: data⟩ (.txDone done)
  | retried {data : List UInt8} {policy : RetryPolicy} {outcome : TxOutcome}
      {done : TxDonePayload} (onAir : done.result = .transmitted)
      (airtime : outcome.finalAirtimeUs = done.airtimeUs) :
      Vouches (.txWithRetry data policy) (.retried (.ok outcome))
        ⟨protocol.typeTx, protocol.txFlagsAsByte policy.skipCad :: data⟩ (.txDone done)
  | rxStarted :
      Vouches .rxStart (.finished (.ok ())) ⟨protocol.typeRxStart, []⟩ .empty
  | rxStopped :
      Vouches .rxStop (.finished (.ok ())) ⟨protocol.typeRxStop, []⟩ .empty
  | configured {modulation : Modulation types} {payload : List UInt8}
      {result : SetConfigResult types}
      (encoded : protocol.encodeSetConfig modulation = .ok payload) :
      Vouches (.setConfig modulation) (.finished (.ok ()))
        ⟨protocol.typeSetConfig, payload⟩ (.setConfig result)
  | pinged : Vouches .ping (.finished (.ok ())) ⟨protocol.typePing, []⟩ .empty

/-- The newest command of the log is the one that vouches for the outcome. -/
def Backed (call : Call types) (log : List (Command types)) (outcome : Outcome types) : Prop :=
  outcome.isSuccess = true →
    (call = .rxStart ∧ log = []) ∨
      ∃ request response older, log = ⟨request, .ok response⟩ :: older ∧
        Vouches protocol call outcome request response

/-! ## Logs of operations -/

def Logs {Result : Type} (returns : List (Command types) → Result → Prop)
    (log : List (Command types)) (operation : Operation types Result) : Prop :=
  Commands (fun _ => True) (fun _ _ => True) returns log operation

section Logs

variable {protocol} {First Second : Type} {log : List (Command types)}

theorem Logs.bind {between : List (Command types) → First → Prop}
    {returns : List (Command types) → Second → Prop} {operation : Operation types First}
    {next : First → Operation types Second} (first : Logs between log operation)
    (second : ∀ reached value, between reached value → Logs returns reached (next value)) :
    Logs returns log (operation >>= next) :=
  Commands.bind first second

theorem logs_quietly {returns : List (Command types) → Second → Prop}
    {operation : Operation types First} {next : First → Operation types Second}
    (quiet : Quiet operation) (continues : ∀ value, Logs returns log (next value)) :
    Logs returns log (operation >>= next) :=
  commands_after_quiet quiet trivial continues

theorem logs_anything (operation : Operation types First) :
    Logs (fun _ _ => True) log operation := by
  induction operation generalizing log with
  | done value => trivial
  | perform effect rest induction =>
      exact ⟨⟨trivial, fun _ _ _ => trivial⟩, fun answer _ _ => induction answer⟩

theorem logs_ifOpen {returns : List (Command types) → Second → Prop}
    {next : ClientResult Unit → Operation types Second}
    (refuses : ∀ error, ∃ value, next (.error error) = .done value ∧ returns log value)
    (goesOn : Logs returns log (next (.ok ()))) : Logs returns log (checkOpen >>= next) := by
  apply logs_quietly quiet_checkOpen
  intro result
  cases result with
  | error error =>
      rcases refuses error with ⟨value, same, refused⟩
      rw [same]
      exact refused
  | ok => exact goesOn

theorem emptyResult_eq_ok {name : String} {result : ClientResult (SessionResponse types)}
    (accepted : emptyResult protocol name result = .ok ()) : result = .ok .empty := by
  unfold emptyResult at accepted
  split at accepted
  · cases accepted
  · rfl
  · cases accepted
  · cases accepted

def Rests {Value : Type} (log : List (Command types)) (request : Request)
    (answer : Value → SessionResponse types → Prop) (reached : List (Command types))
    (result : ClientResult Value) : Prop :=
  ∀ value, result = .ok value → ∃ response, answer value response ∧
    reached = ⟨request, .ok response⟩ :: log

theorem logs_emptyResult (name : String) (typeId : UInt8) (timeout : Duration) :
    Logs (Rests log ⟨typeId, []⟩ fun _ response => response = .empty) log
      (do return emptyResult protocol name (← sendCommand typeId [] timeout) :
        Operation types _) := by
  have sending : Logs (fun reached result => reached = ⟨⟨typeId, []⟩, result⟩ :: log) log
      (sendCommand typeId [] timeout) :=
    commands_of_sendCommand trivial trivial fun _ => rfl
  apply sending.bind
  intro reached result logged value accepted
  exact ⟨.empty, rfl, by rw [logged, emptyResult_eq_ok accepted]⟩

theorem logs_session_transmit (data : List UInt8) (skipCad : Bool) (timeout : Duration) :
    Logs (Rests log ⟨protocol.typeTx, protocol.txFlagsAsByte skipCad :: data⟩
        fun done response => response = .txDone done ∧ done.result = .transmitted) log
      (Session.transmit protocol data skipCad timeout) := by
  rw [Session.transmit]
  split
  · intro done same
    cases same
  · split
    · refine ⟨⟨trivial, fun _ _ _ => trivial⟩, ?_⟩
      intro answer
      cases answer
    · have sending : Logs (fun reached result =>
          reached = ⟨⟨protocol.typeTx, protocol.txFlagsAsByte skipCad :: data⟩, result⟩ :: log)
          log (sendCommand protocol.typeTx (protocol.txFlagsAsByte skipCad :: data) timeout) :=
        commands_of_sendCommand trivial trivial fun _ => rfl
      apply sending.bind
      intro reached result logged done transmitted
      rcases transmitResult_eq_ok transmitted with ⟨answered, onAir⟩
      exact ⟨_, ⟨rfl, onAir⟩, by rw [logged, answered]⟩

theorem logs_session_setConfig (modulation : Modulation types) (timeout : Duration) :
    Logs (fun reached result => ∀ applied, result = .ok applied → ∃ payload,
        protocol.encodeSetConfig modulation = .ok payload ∧
        reached = ⟨⟨protocol.typeSetConfig, payload⟩, .ok (.setConfig applied)⟩ :: log) log
      (Session.setConfig protocol modulation timeout) := by
  rw [Session.setConfig]
  split
  · intro applied same
    cases same
  · next payload encoded =>
    have sending : Logs (fun reached result =>
        reached = ⟨⟨protocol.typeSetConfig, payload⟩, result⟩ :: log) log
        (sendCommand protocol.typeSetConfig payload timeout) :=
      commands_of_sendCommand trivial trivial fun _ => rfl
    apply sending.bind
    intro reached result logged applied accepted
    exact ⟨payload, encoded, by rw [logged, setConfigResult_eq_ok accepted]⟩

/-- Success is reported only on the answer to `request`, the command issued last. -/
def EndsOn {Value : Type} (request : Request)
    (answer : Value → SessionResponse types → Prop) (reached : List (Command types))
    (result : ClientResult Value) : Prop :=
  ∀ value, result = .ok value → ∃ response older, answer value response ∧
    reached = ⟨request, .ok response⟩ :: older

theorem Rests.endsOn {Value : Type} {request : Request}
    {answer : Value → SessionResponse types → Prop} {reached : List (Command types)}
    {result : ClientResult Value} (rests : Rests log request answer reached result) :
    EndsOn request answer reached result := by
  intro value same
  rcases rests value same with ⟨response, answers, logged⟩
  exact ⟨response, log, answers, logged⟩

theorem endsOn_error {Value : Type} {request : Request}
    {answer : Value → SessionResponse types → Prop} {reached : List (Command types)}
    {error : ClientError} :
    EndsOn request answer reached (.error error : ClientResult Value) := by
  intro value same
  cases same

def OnAir (done : TxDonePayload) (response : SessionResponse types) : Prop :=
  response = .txDone done ∧ done.result = .transmitted

theorem logs_txWithTimeout (data : List UInt8) (skipCad : Bool) (timeout : Duration) :
    Logs (EndsOn ⟨protocol.typeTx, protocol.txFlagsAsByte skipCad :: data⟩ OnAir) log
      (txWithTimeout protocol data skipCad timeout) := by
  refine logs_ifOpen (fun _ => ⟨_, rfl, endsOn_error⟩) ?_
  apply logs_quietly quiet_markWrite
  intro
  apply (logs_session_transmit data skipCad timeout).bind
  intro reached result rests
  split
  · apply (logs_anything (reapplyConfig protocol)).bind
    intro recovered reapplied _
    cases reapplied with
    | error => exact endsOn_error
    | ok =>
        refine Program.Satisfies.weaken (logs_session_transmit data skipCad timeout) ?_
        exact fun _ _ retried => retried.endsOn
  · exact rests.endsOn

theorem logs_txAttempts (data : List UInt8) (policy : RetryPolicy) (numbers : List UInt8)
    (attempts : List TxAttempt) (delayMs : UInt32) :
    Logs (EndsOn ⟨protocol.typeTx, protocol.txFlagsAsByte policy.skipCad :: data⟩
        fun outcome response => ∃ done, OnAir done response ∧
          outcome.finalAirtimeUs = done.airtimeUs) log
      (txAttempts protocol data policy numbers attempts delayMs) := by
  induction numbers generalizing log attempts delayMs with
  | nil => exact endsOn_error
  | cons number numbers induction =>
      rw [txAttempts]
      apply logs_quietly quiet_markWrite
      intro
      apply logs_quietly (quiet_perform rfl)
      intro started
      apply (logs_session_transmit data policy.skipCad policy.perAttemptTimeout).bind
      intro reached result rests
      apply logs_quietly (quiet_perform rfl)
      intro ended
      cases result with
      | ok done =>
          intro outcome same
          cases same
          rcases rests done rfl with ⟨response, answers, logged⟩
          exact ⟨response, log, ⟨done, answers, rfl⟩, logged⟩
      | error error =>
          dsimp only
          split
          · exact endsOn_error
          · apply logs_quietly (quiet_jitterMs policy)
            intro jitter
            apply logs_quietly (quiet_perform rfl)
            intro
            exact induction _ _

theorem logs_txWithRetry (data : List UInt8) (policy : RetryPolicy) :
    Logs (EndsOn ⟨protocol.typeTx, protocol.txFlagsAsByte policy.skipCad :: data⟩
        fun outcome response => ∃ done, OnAir done response ∧
          outcome.finalAirtimeUs = done.airtimeUs) log
      (txWithRetry protocol data policy) :=
  logs_ifOpen (fun _ => ⟨_, rfl, endsOn_error⟩) (logs_txAttempts data policy _ _ _)

def IsEmpty (_value : Unit) (response : SessionResponse types) : Prop :=
  response = .empty

theorem logs_rxStop :
    Logs (EndsOn ⟨protocol.typeRxStop, []⟩ IsEmpty) log (rxStop protocol) := by
  refine logs_ifOpen (fun _ => ⟨_, rfl, endsOn_error⟩) ?_
  apply logs_quietly quiet_markWrite
  intro
  apply (logs_emptyResult "RX_STOP" protocol.typeRxStop (fromSecs 2)).bind
  intro reached result rests
  cases result with
  | error => exact endsOn_error
  | ok =>
      apply logs_quietly (quiet_write _ _)
      exact fun _ => rests.endsOn

theorem logs_ping : Logs (EndsOn ⟨protocol.typePing, []⟩ IsEmpty) log (ping protocol) := by
  refine logs_ifOpen (fun _ => ⟨_, rfl, endsOn_error⟩) ?_
  apply logs_quietly quiet_markWrite
  intro
  refine Program.Satisfies.weaken (logs_emptyResult "PING" protocol.typePing (fromSecs 2)) ?_
  exact fun _ _ rests => rests.endsOn

theorem logs_dongle_setConfig (modulation : Modulation types) :
    Logs (fun reached result => result = .ok () → ∃ payload applied older,
        protocol.encodeSetConfig modulation = .ok payload ∧
        reached = ⟨⟨protocol.typeSetConfig, payload⟩, .ok (.setConfig applied)⟩ :: older) log
      (setConfig protocol modulation) := by
  refine logs_ifOpen (fun _ => ⟨_, rfl, nofun⟩) ?_
  apply logs_quietly quiet_markWrite
  intro
  apply (logs_session_setConfig modulation (fromSecs 2)).bind
  intro reached result rests
  cases result with
  | error => exact nofun
  | ok applied =>
      apply logs_quietly (quiet_write _ _)
      intro
      apply logs_quietly (quiet_write _ _)
      intro _ _
      rcases rests applied rfl with ⟨payload, encoded, logged⟩
      exact ⟨payload, applied, log, encoded, logged⟩

/-- Unless the flag was set, in which case nothing has been asked. -/
theorem logs_rxStart :
    Logs (fun reached result => (result = .ok () ∧ reached = log) ∨
        EndsOn ⟨protocol.typeRxStart, []⟩ IsEmpty reached result) log (rxStart protocol) := by
  refine logs_ifOpen (fun _ => ⟨_, rfl, .inr endsOn_error⟩) ?_
  apply logs_quietly quiet_markWrite
  intro
  apply logs_quietly (quiet_perform rfl)
  intro
  apply logs_quietly (quiet_perform rfl)
  intro started
  cases started with
  | true =>
      apply logs_quietly (quiet_perform rfl)
      exact fun _ => .inl ⟨rfl, rfl⟩
  | false =>
      apply (logs_emptyResult "RX_START" protocol.typeRxStart (fromSecs 2)).bind
      intro reached result rests
      split
      · apply logs_quietly (quiet_perform rfl)
        intro
        apply (logs_anything (reapplyConfig protocol)).bind
        intro recovered reapplied _
        cases reapplied with
        | error => exact .inr endsOn_error
        | ok =>
            apply (logs_emptyResult "RX_START" protocol.typeRxStart (fromSecs 2)).bind
            intro again result retried
            cases result with
            | error => exact .inr endsOn_error
            | ok =>
                apply logs_quietly (quiet_write _ _)
                exact fun _ => .inr retried.endsOn
      · apply logs_quietly (quiet_perform rfl)
        exact fun _ => .inr endsOn_error
      · apply logs_quietly (quiet_perform rfl)
        intro
        apply logs_quietly (quiet_perform rfl)
        exact fun _ => .inr rests.endsOn

theorem logs_unbacked {call : Call types} (operation : Operation types First)
    (last : First → Outcome types) (fails : ∀ value, (last value).isSuccess = false) :
    Logs (Backed protocol call) log (operation >>= fun value => .done (last value)) := by
  apply (logs_anything operation).bind
  intro reached value _ succeeds
  rw [fails value] at succeeds
  cases succeeds

theorem logs_operationOf (call : Call types) :
    Logs (Backed protocol call) [] (operationOf protocol call) := by
  cases call with
  | txWithTimeout data skipCad timeout =>
      apply (logs_txWithTimeout data skipCad timeout).bind
      intro reached result ends succeeds
      cases result with
      | error => cases succeeds
      | ok done =>
          rcases ends done rfl with ⟨response, older, ⟨rfl, onAir⟩, logged⟩
          exact .inr ⟨_, _, older, logged, .transmitted onAir⟩
  | txWithRetry data policy =>
      apply (logs_txWithRetry data policy).bind
      intro reached result ends succeeds
      cases result with
      | error => cases succeeds
      | ok outcome =>
          rcases ends outcome rfl with ⟨response, older, ⟨done, ⟨rfl, onAir⟩, airtime⟩, logged⟩
          exact .inr ⟨_, _, older, logged, .retried onAir airtime⟩
  | rxStart =>
      apply logs_rxStart.bind
      intro reached result ends succeeds
      cases result with
      | error => cases succeeds
      | ok =>
          rcases ends with ⟨_, nothing⟩ | ends
          · exact .inl ⟨rfl, nothing⟩
          · rcases ends () rfl with ⟨response, older, rfl, logged⟩
            exact .inr ⟨_, _, older, logged, .rxStarted⟩
  | rxStop =>
      apply logs_rxStop.bind
      intro reached result ends succeeds
      cases result with
      | error => cases succeeds
      | ok =>
          rcases ends () rfl with ⟨response, older, rfl, logged⟩
          exact .inr ⟨_, _, older, logged, .rxStopped⟩
  | ping =>
      apply logs_ping.bind
      intro reached result ends succeeds
      cases result with
      | error => cases succeeds
      | ok =>
          rcases ends () rfl with ⟨response, older, rfl, logged⟩
          exact .inr ⟨_, _, older, logged, .pinged⟩
  | setConfig modulation =>
      apply (logs_dongle_setConfig modulation).bind
      intro reached result ends succeeds
      cases result with
      | error => cases succeeds
      | ok =>
          rcases ends rfl with ⟨payload, applied, older, encoded, logged⟩
          exact .inr ⟨_, _, older, logged, .configured encoded⟩
  | _ => exact logs_unbacked _ _ fun _ => rfl

end Logs

/-! ## Logs in a pool -/

section Pools

variable {protocol} {session : State types} {applied : Option (Modulation types)}
  {openedAt : Instant} {pool next : Pool types} {task : TaskId}

/-- What is proved of a call's log under arbitrary answers holds of it in a pool. -/
theorem commands_of_pool {invariant : List (Command types) → Prop}
    {may : List (Command types) → Request → Prop}
    {returns : Call types → List (Command types) → Outcome types → Prop}
    (specified : ∀ call, Commands invariant may (returns call) [] (operationOf protocol call))
    (reached : (droppingMachine protocol session applied openedAt).Reachable pool)
    {call : Call types} {operation : Operation types (Outcome types)}
    {inFlight : Option CallId} {log : List (Command types)}
    (running : pool.tasks task = .running call operation inFlight log) :
    Commands invariant may (returns call) log operation := by
  have all : ∀ task call operation inFlight log,
      pool.tasks task = .running call operation inFlight log →
      Commands invariant may (returns call) log operation := by
    apply reached.invariant
    · intro task call operation inFlight log running
      cases running
    · intro current action next before _ stepped task call operation inFlight log running
      cases dropTransition_of_step stepped with
      | drops actor =>
          have different : task ≠ actor := by
            intro same
            subst same
            rw [Pool.dropTask_self] at running
            cases running
          rw [Pool.dropTask_ne _ _ different] at running
          exact before task call operation inFlight log running
      | acts stepped =>
          have step := (poolTransition_of_step stepped).taskStep task
          rw [running] at step
          generalize after : PoolTask.running call operation inFlight log = reached at step
          cases step with
          | same => exact before task call operation inFlight log after.symm
          | starts =>
              cases after
              exact specified call
          | issues id current =>
              cases after
              exact before task _ _ _ _ current
          | performs current answers =>
              cases after
              refine (before task _ _ _ _ current).2 _ _ (.other _ _ ?_)
              cases answers with
              | plain _ _ isPlain => exact notCommand_of_plain isPlain
              | _ => rfl
          | collects result current =>
              cases after
              exact (before task _ _ _ _ current).2 _ _ (.command _ _ _ _)
          | closes current =>
              cases after
              exact (before task _ _ _ _ current).2 _ _ (.other _ _ rfl)
  exact all task call operation inFlight log running

/-! ## Which task issued which command -/

def Records (session : State types) (command : Command types) (id : CallId) : Prop :=
  ∃ tag, session.calls id = .returned command.request tag command.result

/-- A task that starts has issued nothing, whatever was issued under its name before. -/
def noteIssue (issued : TaskId → List CallId) : DropAction types → TaskId → List CallId
  | .act (.start task _) => Function.update issued task []
  | .act (.issue task id) => Function.update issued task (id :: issued task)
  | _ => issued

def issuedBy (actions : List (DropAction types)) : TaskId → List CallId :=
  actions.foldl noteIssue fun _ => []

/-- The commands that have come back to the task are the records of `ids`, one each, apart
from the one it waits for. -/
def Accounted (session : State types) (ids : List CallId) : PoolTask types → Prop
  | .idle => True
  | .running _ operation inFlight log =>
      ∃ collected, ids = inFlight.toList ++ collected ∧
        List.Forall₂ (Records session) log collected ∧
        ∀ id, inFlight = some id → ∃ request timeout rest,
          operation = .perform (.sendCommand request timeout) rest ∧
          requestOf (session.calls id) = some request

/-- `issued` lists session calls that have begun, and no two tasks have one in common. -/
structure Attributed (pool : Pool types) (issued : TaskId → List CallId) : Prop where
  begun : ∀ task, ∀ id ∈ issued task, ∃ request,
    requestOf (pool.session.calls id) = some request
  apart : ∀ first second id, id ∈ issued first → id ∈ issued second → first = second
  accounted : ∀ task, Accounted pool.session (issued task) (pool.tasks task)

variable {issued : TaskId → List CallId}

theorem Accounted.shifts {state after : State types} {ids : List CallId}
    {current : PoolTask types} (accounted : Accounted state ids current)
    (shifts : Shifts protocol state after) : Accounted after ids current := by
  cases current with
  | idle => trivial
  | running call operation inFlight log =>
      rcases accounted with ⟨collected, split, records, waits⟩
      refine ⟨collected, split, ?_, ?_⟩
      · apply records.imp
        rintro command id ⟨tag, returned⟩
        exact ⟨tag, returned_of_shifts shifts returned⟩
      · intro id same
        rcases waits id same with ⟨request, timeout, rest, performs, known⟩
        exact ⟨request, timeout, rest, performs, requestOf_of_shifts shifts known⟩

theorem Attributed.acts (attributed : Attributed pool issued) {action : PoolAction types}
    (transition : PoolTransition protocol pool action next)
    (own : ∀ task, action.task = some task →
      Accounted next.session (issued task) (next.tasks task)) : Attributed next issued where
  begun := by
    intro task id member
    rcases attributed.begun task id member with ⟨request, known⟩
    exact ⟨request, requestOf_of_shifts transition.shifts known⟩
  apart := attributed.apart
  accounted := by
    intro task
    by_cases actor : action.task = some task
    · exact own task actor
    · rw [transition.elsewhere actor]
      exact (attributed.accounted task).shifts transition.shifts

theorem Attributed.starts (attributed : Attributed pool issued) (task : TaskId)
    (call : Call types) :
    Attributed (pool.setTask task (.running call (operationOf protocol call) none []))
      (Function.update issued task []) := by
  have fewer : ∀ other, ∀ id ∈ Function.update issued task [] other, id ∈ issued other := by
    intro other id member
    by_cases own : other = task
    · subst own
      simp at member
    · rwa [Function.update_of_ne own] at member
  refine ⟨?_, ?_, ?_⟩
  · exact fun other id member => attributed.begun other id (fewer other id member)
  · exact fun first second id inFirst inSecond =>
      attributed.apart first second id (fewer first id inFirst) (fewer second id inSecond)
  · intro other
    by_cases own : other = task
    · subst own
      rw [Pool.setTask_self, Function.update_self]
      exact ⟨[], rfl, .nil, by simp⟩
    · rw [Pool.setTask_ne _ _ _ own, Function.update_of_ne own]
      exact attributed.accounted other

theorem mem_issued {id used : CallId} {other : TaskId} :
    used ∈ Function.update issued task (id :: issued task) other ↔
      used ∈ issued other ∨ (other = task ∧ used = id) := by
  by_cases own : other = task
  · subst own
    simp [or_comm]
  · simp [own]

theorem Attributed.issues (attributed : Attributed pool issued) {id : CallId}
    {call : Call types} {request : Request} {timeout : Duration}
    {rest : ClientResult (SessionResponse types) → Operation types (Outcome types)}
    {log : List (Command types)} {session : State types}
    (current : pool.tasks task =
      .running call (.perform (.sendCommand request timeout) rest) none log)
    (begins : Transition protocol pool.session (.begin id request) session) :
    Attributed ((pool.setSession session).setTask task
        (.running call (.perform (.sendCommand request timeout) rest) (some id) log))
      (Function.update issued task (id :: issued task)) := by
  have shifts : Shifts protocol pool.session session := .steps begins
  rcases requestOf_of_begin begins with ⟨idle, known⟩
  have unused : ∀ other, id ∉ issued other := by
    intro other member
    rcases attributed.begun other id member with ⟨earlier, already⟩
    rw [idle] at already
    cases already
  refine ⟨?_, ?_, ?_⟩
  · intro other used member
    rcases mem_issued.mp member with member | ⟨rfl, rfl⟩
    · rcases attributed.begun other used member with ⟨earlier, already⟩
      exact ⟨earlier, requestOf_of_shifts shifts already⟩
    · exact ⟨request, known⟩
  · intro first second used inFirst inSecond
    rcases mem_issued.mp inFirst with before | ⟨rfl, rfl⟩
    · rcases mem_issued.mp inSecond with alsoBefore | ⟨rfl, rfl⟩
      · exact attributed.apart first second used before alsoBefore
      · exact absurd before (unused first)
    · rcases mem_issued.mp inSecond with before | ⟨rfl, _⟩
      · exact absurd before (unused second)
      · rfl
  · intro other
    by_cases own : other = task
    · subst own
      rw [Pool.setTask_self, Function.update_self]
      have before := (attributed.accounted other).shifts shifts
      rw [current] at before
      rcases before with ⟨collected, split, records, _⟩
      refine ⟨collected, by rw [split]; rfl, records, ?_⟩
      intro used same
      cases same
      exact ⟨request, timeout, rest, rfl, known⟩
    · rw [Pool.setTask_ne _ _ _ own, Function.update_of_ne own]
      exact (attributed.accounted other).shifts shifts

theorem Attributed.drops (attributed : Attributed pool issued) (task : TaskId) :
    Attributed (pool.dropTask task) issued where
  begun := attributed.begun
  apart := attributed.apart
  accounted := by
    intro other
    by_cases own : other = task
    · rw [own, Pool.dropTask_self]
      trivial
    · rw [Pool.dropTask_ne _ _ own]
      exact attributed.accounted other

theorem Attributed.step (attributed : Attributed pool issued) {action : PoolAction types}
    (transition : PoolTransition protocol pool action next) :
    Attributed next (noteIssue issued (.act action)) := by
  have acts := attributed.acts transition
  have shifted := fun task => (attributed.accounted task).shifts transition.shifts
  cases transition with
  | starts task call idle => exact attributed.starts task call
  | performs task choice current answers =>
      apply acts
      rintro _ ⟨rfl⟩
      have before := shifted task
      rw [current] at before
      rcases before with ⟨collected, split, records, _⟩
      rw [Pool.setTask_self]
      exact ⟨collected, split, records, by simp⟩
  | issues task id current begins => exact attributed.issues current begins
  | collects task current returned =>
      apply acts
      rintro _ ⟨rfl⟩
      have before := attributed.accounted task
      rw [current] at before
      rcases before with ⟨collected, split, records, waits⟩
      rcases waits _ rfl with ⟨request, timeout, rest, same, known⟩
      cases same
      rw [returned] at known
      cases known
      rw [Pool.setTask_self]
      exact ⟨_, split, .cons ⟨_, returned⟩ records, by simp⟩
  | closes task current closing steps goesOn =>
      apply acts
      rintro _ ⟨rfl⟩
      have before := shifted task
      rw [Pool.setTask_self]
      rcases goesOn with rfl | rfl
      · exact before
      · rw [current] at before
        rcases before with ⟨collected, split, records, _⟩
        exact ⟨collected, split, records, by simp⟩
  | background isBackground steps =>
      apply acts
      rintro _ ⟨⟩

theorem Attributed.run {actions : List (DropAction types)} (attributed : Attributed pool issued)
    (ran : (droppingMachine protocol session applied openedAt).run pool actions = some next) :
    Attributed next (actions.foldl noteIssue issued) := by
  induction actions generalizing pool issued with
  | nil =>
      cases ran
      exact attributed
  | cons action actions induction =>
      rw [Machine.run_cons, Option.bind_eq_some_iff] at ran
      rcases ran with ⟨middle, stepped, rest⟩
      rw [List.foldl_cons]
      refine induction ?_ rest
      cases dropTransition_of_step stepped with
      | acts stepped => exact attributed.step (poolTransition_of_step stepped)
      | drops task => exact attributed.drops task

theorem attributed_of_run {actions : List (DropAction types)}
    (ran : (droppingMachine protocol session applied openedAt).run
      (droppingMachine protocol session applied openedAt).initial actions = some pool) :
    Attributed pool (issuedBy actions) := by
  have initially : Attributed (droppingMachine protocol session applied openedAt).initial
      fun _ => [] := ⟨by simp, by simp, fun _ => trivial⟩
  exact initially.run ran

/-! ## Receipts -/

theorem sound_of_pool (opened : (Session.machine protocol).Reachable session)
    (reached : (droppingMachine protocol session applied openedAt).Reachable pool) :
    Sound protocol pool.session := by
  apply reached.invariant
  · exact ⟨owned_of_reachable opened, recorded_of_reachable opened⟩
  · intro current action next sound _ stepped
    exact sound.shifts (dropTransition_of_step stepped).shifts

def Receipt (protocol : Protocol types) (session : State types) (request : Request)
    (response : SessionResponse types) (id : CallId) (serial : Nat) : Prop :=
  ∃ frame, session.calls id = .returned request (some frame.tag) (.ok response) ∧
    .dispatched serial frame (some ⟨request.typeId, id⟩) ∈ session.history ∧
    response = resolve protocol request.typeId frame.typeId frame.payload

theorem Vouches.not_drained {call : Call types} {outcome : Outcome types} {request : Request}
    {response : SessionResponse types} (vouches : Vouches protocol call outcome request response)
    (reason : String) : response ≠ .err (.transportClosed reason) := by
  cases vouches <;> simp

theorem receipt_of_records {state : State types} (sound : Sound protocol state)
    {request : Request} {response : SessionResponse types} {id : CallId}
    (records : Records state ⟨request, .ok response⟩ id)
    (notDrained : ∀ reason, response ≠ .err (.transportClosed reason)) :
    ∃ serial, Receipt protocol state request response id serial := by
  rcases records with ⟨tag, returned⟩
  rcases sound.recorded.answered_by_frame returned notDrained with
    ⟨serial, frame, rfl, dispatched, _, same⟩
  exact ⟨serial, frame, returned, dispatched, same⟩

theorem receipt_same {state : State types} (sound : Sound protocol state)
    {request other : Request} {response second : SessionResponse types} {id also : CallId}
    {serial : Nat} (first : Receipt protocol state request response id serial)
    (again : Receipt protocol state other second also serial) : id = also := by
  rcases first with ⟨frame, _, dispatched, _⟩
  rcases again with ⟨found, _, alsoDispatched, _⟩
  have same := (sound.recorded.distinct _ _ _ _ _ dispatched alsoDispatched).2
  simp only [Option.some.injEq, Pending.mk.injEq] at same
  exact same.2

theorem receipt_of_task (attributed : Attributed pool issued) (sound : Sound protocol pool.session)
    (reached : (droppingMachine protocol session applied openedAt).Reachable pool) (task : TaskId) :
    ∃ receipt : Option Nat,
      (∀ serial, receipt = some serial → ∃ request response, ∃ id ∈ issued task,
        Receipt protocol pool.session request response id serial) ∧
      ∀ call outcome log, pool.tasks task = .running call (.done outcome) none log →
        outcome.isSuccess = true →
        (call = .rxStart ∧ issued task = [] ∧ receipt = none) ∨
          ∃ request response, ∃ id ∈ issued task, ∃ serial, receipt = some serial ∧
            Vouches protocol call outcome request response ∧
            Receipt protocol pool.session request response id serial := by
  by_cases succeeded : ∃ call outcome log,
      pool.tasks task = .running call (.done outcome) none log ∧ outcome.isSuccess = true
  · rcases succeeded with ⟨call, outcome, log, returned, success⟩
    have backed : Backed protocol call log outcome :=
      commands_of_pool logs_operationOf reached returned
    have accounted := attributed.accounted task
    rw [returned] at accounted
    rcases accounted with ⟨collected, split, records, _⟩
    rcases backed success with ⟨isStart, nothing⟩ | ⟨request, response, older, logged, vouches⟩
    · refine ⟨none, by simp, ?_⟩
      intro _ _ _ same _
      rw [returned] at same
      cases same
      subst nothing
      cases records
      exact .inl ⟨isStart, split, rfl⟩
    · subst logged
      cases records with
      | @cons _ id _ ids record _ =>
          have own : id ∈ issued task := by
            rw [split]
            exact List.mem_cons_self
          rcases receipt_of_records sound record vouches.not_drained with ⟨serial, receipt⟩
          refine ⟨some serial, ?_, ?_⟩
          · rintro _ ⟨rfl⟩
            exact ⟨request, response, id, own, receipt⟩
          · intro _ _ _ same _
            rw [returned] at same
            cases same
            exact .inr ⟨request, response, id, own, serial, rfl, vouches, receipt⟩
  · refine ⟨none, by simp, ?_⟩
    intro call outcome log returned success
    exact absurd ⟨call, outcome, log, returned, success⟩ succeeded

/-- Every call that returned a success has the answer of a frame to show for it, given to
a session call that this very call issued, and no two calls have the same frame to show. -/
theorem successes_have_own_receipts {actions : List (DropAction types)}
    (opened : (Session.machine protocol).Reachable session)
    (ran : (droppingMachine protocol session applied openedAt).run
      (droppingMachine protocol session applied openedAt).initial actions = some pool) :
    ∃ receipt : TaskId → Option Nat,
      (∀ task call outcome log, pool.tasks task = .running call (.done outcome) none log →
        outcome.isSuccess = true →
        (call = .rxStart ∧ issuedBy actions task = [] ∧ receipt task = none) ∨
          ∃ request response, ∃ id ∈ issuedBy actions task, ∃ serial,
            receipt task = some serial ∧
            Vouches protocol call outcome request response ∧
            Receipt protocol pool.session request response id serial) ∧
      ∀ first second serial, receipt first = some serial → receipt second = some serial →
        first = second := by
  have reached : (droppingMachine protocol session applied openedAt).Reachable pool :=
    .run .initial ran
  have attributed := attributed_of_run ran
  have sound := sound_of_pool opened reached
  choose receipt owned vouched using receipt_of_task attributed sound reached
  refine ⟨receipt, vouched, ?_⟩
  intro first second serial firstHas secondHas
  rcases owned first serial firstHas with ⟨_, _, id, own, issuedFirst⟩
  rcases owned second serial secondHas with ⟨_, _, also, alsoOwn, issuedSecond⟩
  cases receipt_same sound issuedFirst issuedSecond
  exact attributed.apart first second id own alsoOwn

end Pools

def twoTransmissions : List (DropAction WireTypes.sample) :=
  List.map .act <| .start 0 (.txWithTimeout [7] false 0) :: .start 1 (.txWithTimeout [8] false 0) ::
    List.replicate 7 (.perform 0 .any) ++ List.replicate 7 (.perform 1 .any) ++
    [.issue 0 0, .issue 1 1, .session (.allocTag 1), .session (.allocTag 0),
      .session (.register 0), .session (.register 1), .session (.write 1 none),
      .session (.write 0 none), .session .readerCheck,
      .session (.readerRead [.ok ⟨193, 2, [0, 9, 0, 0, 0]⟩, .ok ⟨193, 1, [0, 9, 0, 0, 0]⟩]),
      .session .readerDispatch, .session .readerDispatch, .session (.receive 0),
      .session (.receive 1), .collect 0, .collect 1]

/-- The two have the same result to return and still a frame each, for the session call
that each has issued. -/
theorem successes_have_own_receipts_twoTransmissions :
    ∃ pool first second,
      (droppingMachine Protocol.sample spawn none 0).run
        (droppingMachine Protocol.sample spawn none 0).initial twoTransmissions = some pool ∧
      first ≠ second ∧
      (∃ request response, Receipt Protocol.sample pool.session request response 0 first) ∧
      ∃ request response, Receipt Protocol.sample pool.session request response 1 second := by
  have ran : ∃ pool log older,
      (droppingMachine Protocol.sample spawn none 0).run
        (droppingMachine Protocol.sample spawn none 0).initial twoTransmissions = some pool ∧
      pool.tasks 0 = .running (.txWithTimeout [7] false 0)
        (.done (.transmitted (.ok ⟨.transmitted, 9⟩))) none log ∧
      pool.tasks 1 = .running (.txWithTimeout [8] false 0)
        (.done (.transmitted (.ok ⟨.transmitted, 9⟩))) none older := ⟨_, _, _, rfl, rfl, rfl⟩
  have firstIssued : issuedBy twoTransmissions 0 = [0] := rfl
  have secondIssued : issuedBy twoTransmissions 1 = [1] := rfl
  rcases ran with ⟨pool, log, older, ran, firstDone, secondDone⟩
  rcases successes_have_own_receipts .initial ran with ⟨receipt, vouched, distinct⟩
  rcases vouched 0 _ _ _ firstDone rfl with
    ⟨starts, _⟩ | ⟨request, response, id, own, first, firstHas, _, shown⟩
  · cases starts
  rcases vouched 1 _ _ _ secondDone rfl with
    ⟨starts, _⟩ | ⟨other, answer, also, alsoOwn, second, secondHas, _, alsoShown⟩
  · cases starts
  rw [firstIssued, List.mem_singleton] at own
  rw [secondIssued, List.mem_singleton] at alsoOwn
  subst own
  subst alsoOwn
  refine ⟨pool, first, second, ran, ?_, ⟨_, _, shown⟩, ⟨_, _, alsoShown⟩⟩
  intro same
  rw [same] at firstHas
  have sameTask := distinct 0 1 second firstHas secondHas
  cases sameTask

end DongloraClient.Dongle
