import DongloraClient.Dongle.Operations

/-! # The commands an operation issues

An operation performed under arbitrary answers, with its commands collected in a
log, newest first. What is proved of an operation here holds whatever the device
replies and whatever other tasks do to the cells meanwhile.
-/

namespace DongloraClient.Dongle

open Foundation Session

variable {types : WireTypes}

def Effect.isCommand : Effect types → Bool
  | .sendCommand _ _ => true
  | _ => false

/-- Commands are logged with their result; nothing is assumed about answers. -/
inductive Issues : List (Command types) → (effect : Effect types) → Answer effect →
    List (Command types) → Prop
  | command (log : List (Command types)) (request : Request) (timeout : Duration)
      (result : ClientResult (SessionResponse types)) :
      Issues log (.sendCommand request timeout) result (⟨request, result⟩ :: log)
  | other (log : List (Command types)) {effect : Effect types} (answer : Answer effect)
      (noCommand : Effect.isCommand effect = false) : Issues log effect answer log

/-- The log satisfies `invariant` whenever an effect is performed, and `may` when
the effect is a command. -/
def Guarded (invariant : List (Command types) → Prop)
    (may : List (Command types) → Request → Prop) (log : List (Command types))
    (effect : Effect types) : Prop :=
  invariant log ∧ ∀ request timeout, effect = .sendCommand request timeout → may log request

def Commands {Result : Type} (invariant : List (Command types) → Prop)
    (may : List (Command types) → Request → Prop)
    (returns : List (Command types) → Result → Prop) (log : List (Command types))
    (operation : Operation types Result) : Prop :=
  operation.Satisfies Issues (Guarded invariant may) returns log

section Rules

variable {invariant : List (Command types) → Prop}
  {may : List (Command types) → Request → Prop} {log : List (Command types)}

theorem Commands.bind {First Second : Type}
    {between : List (Command types) → First → Prop}
    {returns : List (Command types) → Second → Prop}
    {operation : Operation types First} {next : First → Operation types Second}
    (first : Commands invariant may between log operation)
    (second : ∀ reached value, between reached value →
      Commands invariant may returns reached (next value)) :
    Commands invariant may returns log (operation >>= next) :=
  Program.Satisfies.bind first second

def Quiet {Result : Type} : Operation types Result → Prop
  | .done _ => True
  | .perform effect next =>
      Effect.isCommand effect = false ∧ ∀ answer, Quiet (next answer)

theorem Quiet.bind {First Second : Type} {operation : Operation types First}
    {next : First → Operation types Second} (first : Quiet operation)
    (second : ∀ value, Quiet (next value)) : Quiet (operation >>= next) := by
  induction operation with
  | done value => exact second value
  | perform effect rest induction =>
      exact ⟨first.1, fun answer => induction answer (first.2 answer)⟩

theorem commands_of_quiet {Result : Type} {operation : Operation types Result}
    {returns : List (Command types) → Result → Prop} (quiet : Quiet operation)
    (holds : invariant log) (returning : ∀ value, returns log value) :
    Commands invariant may returns log operation := by
  induction operation with
  | done value => exact returning value
  | perform effect rest induction =>
      have noCommand := quiet.1
      refine ⟨⟨holds, ?_⟩, ?_⟩
      · intro request timeout same
        rw [same] at noCommand
        cases noCommand
      · intro answer reached performed
        cases performed with
        | command => cases noCommand
        | other => exact induction answer (quiet.2 answer)

theorem commands_after_quiet {First Second : Type} {operation : Operation types First}
    {next : First → Operation types Second}
    {returns : List (Command types) → Second → Prop} (quiet : Quiet operation)
    (holds : invariant log)
    (continues : ∀ value, Commands invariant may returns log (next value)) :
    Commands invariant may returns log (operation >>= next) := by
  have unchanged : Commands invariant may (fun reached _ => reached = log) log operation :=
    commands_of_quiet quiet holds fun _ => rfl
  apply Commands.bind unchanged
  intro reached value same
  rw [same]
  exact continues value

theorem commands_of_sendCommand {returns : List (Command types) →
      ClientResult (SessionResponse types) → Prop} {typeId : UInt8}
    {payload : List UInt8} {timeout : Duration} (holds : invariant log)
    (issue : may log ⟨typeId, payload⟩)
    (returning : ∀ result, returns (⟨⟨typeId, payload⟩, result⟩ :: log) result) :
    Commands invariant may returns log (sendCommand typeId payload timeout) := by
  refine ⟨⟨holds, ?_⟩, ?_⟩
  · intro request timeout same
    cases same
    exact issue
  · intro answer reached performed
    cases performed with
    | command => exact returning answer
    | other _ noCommand => cases noCommand

/-! ## Quiet helpers -/

theorem quiet_perform {effect : Effect types} (noCommand : Effect.isCommand effect = false) :
    Quiet (.perform effect .done) :=
  ⟨noCommand, fun _ => trivial⟩

theorem quiet_read (cell : Cell) : Quiet (read cell : Operation types _) :=
  (quiet_perform rfl).bind fun _ => (quiet_perform rfl).bind fun _ =>
    (quiet_perform rfl).bind fun _ => trivial

theorem quiet_write (cell : Cell) (value : cell.Value types) : Quiet (write cell value) :=
  (quiet_perform rfl).bind fun _ => (quiet_perform rfl).bind fun _ => quiet_perform rfl

theorem quiet_markWrite : Quiet (markWrite : Operation types Unit) :=
  (quiet_perform rfl).bind fun _ => quiet_write _ _

theorem quiet_checkOpen : Quiet (checkOpen : Operation types (ClientResult Unit)) := by
  apply Quiet.bind (quiet_read .closed)
  intro closed
  cases closed <;> trivial

theorem quiet_jitterMs (policy : RetryPolicy) :
    Quiet (policy.jitterMs : Operation types UInt32) := by
  rw [RetryPolicy.jitterMs]
  split
  · trivial
  · exact ⟨rfl, fun _ => trivial⟩

/-! ## Session helpers -/

variable {protocol : Protocol types}

theorem commands_of_setConfig {config : Modulation types} {timeout : Duration}
    {returns : List (Command types) → ClientResult (SetConfigResult types) → Prop}
    (holds : invariant log)
    (refused : ∀ reason, returns log (.error (.encodeFailed reason)))
    (issue : ∀ payload, may log ⟨protocol.typeSetConfig, payload⟩)
    (answered : ∀ payload result,
      returns (⟨⟨protocol.typeSetConfig, payload⟩, result⟩ :: log)
        (setConfigResult protocol result)) :
    Commands invariant may returns log (Session.setConfig protocol config timeout) := by
  rw [Session.setConfig]
  split
  · exact refused _
  · next payload _ =>
    have sending : Commands invariant may (fun reached result =>
        reached = ⟨⟨protocol.typeSetConfig, payload⟩, result⟩ :: log) log
        (sendCommand protocol.typeSetConfig payload timeout) :=
      commands_of_sendCommand holds (issue payload) fun _ => rfl
    apply Commands.bind sending
    intro reached result logged
    rw [logged]
    exact answered payload result

theorem commands_of_transmit {data : List UInt8} {skipCad : Bool} {timeout : Duration}
    {returns : List (Command types) → ClientResult TxDonePayload → Prop}
    (holds : invariant log) (refused : returns log (.error .length))
    (issue : ∀ payload, may log ⟨protocol.typeTx, payload⟩)
    (answered : ∀ payload result,
      returns (⟨⟨protocol.typeTx, payload⟩, result⟩ :: log)
        (transmitResult protocol result)) :
    Commands invariant may returns log (Session.transmit protocol data skipCad timeout) := by
  rw [Session.transmit]
  split
  · exact refused
  · split
    · refine ⟨⟨holds, ?_⟩, ?_⟩
      · intro request timeout same
        cases same
      · intro answer
        cases answer
    · have sending : Commands invariant may (fun reached result =>
          reached = ⟨⟨protocol.typeTx, protocol.txFlagsAsByte skipCad :: data⟩, result⟩ :: log)
          log (sendCommand protocol.typeTx (protocol.txFlagsAsByte skipCad :: data) timeout) :=
        commands_of_sendCommand holds (issue _) fun _ => rfl
      apply Commands.bind sending
      intro reached result logged
      rw [logged]
      exact answered _ result

end Rules

end DongloraClient.Dongle
