import Mathlib.Logic.Function.Basic

/-! # Programs over effects

A program is a tree of effects: each node performs one effect and continues with
whatever answer comes back. The same program text can be executed against an
answer source (`run`), carried out by programs over other effects (`expand`), or
reasoned about under every behaviour that an effect relation permits (`Satisfies`).
-/

namespace Foundation

inductive Program (Effect : Type u) (Answer : Effect → Type v) (Result : Type w)
  | done (value : Result)
  | perform (effect : Effect) (next : Answer effect → Program Effect Answer Result)

namespace Program

variable {Effect : Type u} {Answer : Effect → Type v} {State : Type s}

def bind {First : Type w} {Second : Type x}
    (program : Program Effect Answer First)
    (next : First → Program Effect Answer Second) : Program Effect Answer Second :=
  match program with
  | .done value => next value
  | .perform effect rest => .perform effect fun answer => (rest answer).bind next

instance : Monad (Program Effect Answer) where
  pure := .done
  bind := bind

section Equations

variable {First : Type w} {Second : Type w}

@[simp] theorem pure_eq (value : First) :
    (pure value : Program Effect Answer First) = .done value := rfl

@[simp] theorem done_bind (value : First)
    (next : First → Program Effect Answer Second) :
    (.done value >>= next : Program Effect Answer Second) = next value := rfl

@[simp] theorem perform_bind (effect : Effect)
    (rest : Answer effect → Program Effect Answer First)
    (next : First → Program Effect Answer Second) :
    (.perform effect rest >>= next : Program Effect Answer Second) =
      .perform effect fun answer => rest answer >>= next := rfl

end Equations

/-- Carry every effect out by a program over other effects. -/
def expand {Lower : Type u} {LowerAnswer : Lower → Type v} {Result : Type v}
    (lower : (effect : Effect) → Program Lower LowerAnswer (Answer effect)) :
    Program Effect Answer Result → Program Lower LowerAnswer Result
  | .done value => .done value
  | .perform effect next => lower effect >>= fun answer => (next answer).expand lower

/-! ## Execution -/

/-- Execute a program against a handler. An effect without an answer stops the
program; the state it had reached is kept. -/
def run {Result : Type w}
    (handler : (effect : Effect) → State → Option (Answer effect × State)) :
    Program Effect Answer Result → State → Option Result × State
  | .done value, state => (some value, state)
  | .perform effect next, state =>
      match handler effect state with
      | none => (none, state)
      | some (answer, reached) => (next answer).run handler reached

def andThen {First : Type w} {Second : Type w} (outcome : Option First × State)
    (next : First → State → Option Second × State) : Option Second × State :=
  match outcome with
  | (none, reached) => (none, reached)
  | (some value, reached) => next value reached

@[simp] theorem andThen_some {First : Type w} {Second : Type w} (value : First)
    (state : State) (next : First → State → Option Second × State) :
    andThen (some value, state) next = next value state := rfl

@[simp] theorem andThen_none {First : Type w} {Second : Type w} (state : State)
    (next : First → State → Option Second × State) :
    andThen (none, state) next = (none, state) := rfl

theorem andThen_eq_some {First : Type w} {Second : Type w} {outcome : Option First × State}
    {next : First → State → Option Second × State} {value : Second} {reached : State}
    (continued : andThen outcome next = (some value, reached)) :
    ∃ first middle, outcome = (some first, middle) ∧
      next first middle = (some value, reached) := by
  rcases outcome with ⟨first, middle⟩
  cases first with
  | none => cases continued
  | some first => exact ⟨first, middle, rfl, continued⟩

section Run

variable (handler : (effect : Effect) → State → Option (Answer effect × State))

@[simp] theorem run_done {Result : Type w} (value : Result) (state : State) :
    run handler (.done value) state = (some value, state) := rfl

theorem run_perform {Result : Type w} (effect : Effect)
    (next : Answer effect → Program Effect Answer Result) (state : State) :
    run handler (.perform effect next) state =
      match handler effect state with
      | none => (none, state)
      | some (answer, reached) => (next answer).run handler reached := by
  cases answered : handler effect state <;> simp [run, answered]

theorem run_bind {First : Type w} {Second : Type w}
    (program : Program Effect Answer First)
    (next : First → Program Effect Answer Second) (state : State) :
    run handler (program >>= next) state =
      andThen (run handler program state) fun value reached =>
        run handler (next value) reached := by
  induction program generalizing state with
  | done value => rfl
  | perform effect rest induction =>
      rw [perform_bind, run_perform, run_perform]
      cases handler effect state with
      | none => rfl
      | some outcome => exact induction outcome.1 outcome.2

end Run

section Relates

variable {handler : (effect : Effect) → State → Option (Answer effect × State)}
  {relation : State → State → Prop} {state : State}

/-- What a transitive relation says of both parts of an execution, it says of the
whole. -/
theorem run_bind_relates {First : Type w} {Second : Type w}
    {program : Program Effect Answer First} {next : First → Program Effect Answer Second}
    (transitive : ∀ before middle after, relation before middle → relation middle after →
      relation before after)
    (first : relation state (run handler program state).2)
    (second : ∀ value reached, relation reached (run handler (next value) reached).2) :
    relation state (run handler (program >>= next) state).2 := by
  rw [run_bind]
  rcases executed : run handler program state with ⟨value, reached⟩
  rw [executed] at first
  cases value with
  | none => exact first
  | some value => exact transitive _ _ _ first (second value reached)

theorem run_perform_relates {Result : Type w} {effect : Effect}
    {next : Answer effect → Program Effect Answer Result}
    (stopped : relation state state)
    (continued : ∀ answer reached, handler effect state = some (answer, reached) →
      relation state (run handler (next answer) reached).2) :
    relation state (run handler (.perform effect next) state).2 := by
  rw [run_perform]
  cases handled : handler effect state with
  | none => exact stopped
  | some outcome => exact continued outcome.1 outcome.2 handled

/-- What a reflexive and transitive relation says of every effect, it says of the whole
program. -/
theorem run_relates {Result : Type w} (reflexive : ∀ before, relation before before)
    (transitive : ∀ before middle after, relation before middle → relation middle after →
      relation before after)
    (handled : ∀ effect before answer after,
      handler effect before = some (answer, after) → relation before after)
    (program : Program Effect Answer Result) :
    relation state (run handler program state).2 := by
  induction program generalizing state with
  | done value => exact reflexive state
  | perform effect next induction =>
      apply run_perform_relates (reflexive state)
      intro answer reached performed
      exact transitive _ _ _ (handled effect state answer reached performed) (induction answer)

end Relates

/-- Where each effect is carried out by a program that comes to the same answer and
keeps the states related, so is the whole program. -/
theorem run_expand_simulates {Lower : Type u} {LowerAnswer : Lower → Type v}
    {LowerState : Type t} {Result : Type v}
    {handler : (effect : Effect) → State → Option (Answer effect × State)}
    {lowerHandler : (effect : Lower) → LowerState → Option (LowerAnswer effect × LowerState)}
    {lower : (effect : Effect) → Program Lower LowerAnswer (Answer effect)}
    {relates : State → LowerState → Prop}
    (simulates : ∀ effect state lowerState answer reached, relates state lowerState →
      handler effect state = some (answer, reached) →
      ∃ lowerReached, run lowerHandler (lower effect) lowerState = (some answer, lowerReached) ∧
        relates reached lowerReached)
    {program : Program Effect Answer Result} {state reached : State}
    {lowerState : LowerState} {value : Result} (related : relates state lowerState)
    (ran : run handler program state = (some value, reached)) :
    ∃ lowerReached,
      run lowerHandler (program.expand lower) lowerState = (some value, lowerReached) ∧
      relates reached lowerReached := by
  induction program generalizing state lowerState with
  | done returned =>
      cases ran
      exact ⟨lowerState, rfl, related⟩
  | perform effect next induction =>
      rw [run_perform] at ran
      cases handled : handler effect state with
      | none =>
          rw [handled] at ran
          cases ran
      | some outcome =>
          rw [handled] at ran
          rcases simulates effect state lowerState outcome.1 outcome.2 related handled with
            ⟨middle, executed, relatedAfter⟩
          rw [expand, run_bind, executed, andThen_some]
          exact induction outcome.1 relatedAfter ran

/-! ## Reasoning under every permitted behaviour

`perform state effect answer reached` says that performing `effect` in `state`
may be answered by `answer` and leave `reached`. -/

/-- Every effect the program comes to perform is `allowed` in the state where it
is performed, and every value it returns satisfies `returns`. -/
def Satisfies {Result : Type w}
    (perform : State → (effect : Effect) → Answer effect → State → Prop)
    (allowed : State → Effect → Prop) (returns : State → Result → Prop) :
    State → Program Effect Answer Result → Prop
  | state, .done value => returns state value
  | state, .perform effect next =>
      allowed state effect ∧ ∀ answer reached,
        perform state effect answer reached →
          (next answer).Satisfies perform allowed returns reached

/-- Partial executions: the program left to perform after some effects. -/
inductive Runs {Result : Type w}
    (perform : State → (effect : Effect) → Answer effect → State → Prop) :
    State → Program Effect Answer Result →
      State → Program Effect Answer Result → Prop
  | refl (state : State) (program : Program Effect Answer Result) :
      Runs perform state program state program
  | step {state middle reached : State} {effect : Effect}
      {next : Answer effect → Program Effect Answer Result}
      {answer : Answer effect} {rest : Program Effect Answer Result} :
      perform state effect answer middle →
      Runs perform middle (next answer) reached rest →
      Runs perform state (.perform effect next) reached rest

section Runs

variable {perform : State → (effect : Effect) → Answer effect → State → Prop}

theorem Runs.invariant {Result : Type w} {property : State → Prop}
    {state reached : State} {program rest : Program Effect Answer Result}
    (ran : Runs perform state program reached rest) (initially : property state)
    (preserved : ∀ current effect answer next, property current →
      perform current effect answer next → property next) :
    property reached := by
  induction ran with
  | refl => exact initially
  | step performed _ induction => exact induction (preserved _ _ _ _ initially performed)

theorem Runs.trans {Result : Type w} {state middle reached : State}
    {program between rest : Program Effect Answer Result}
    (first : Runs perform state program middle between)
    (second : Runs perform middle between reached rest) :
    Runs perform state program reached rest := by
  induction first with
  | refl => exact second
  | step performed _ induction => exact .step performed (induction second)

theorem Runs.bind {First : Type w} {Second : Type w} {state middle reached : State}
    {program : Program Effect Answer First} {value : First}
    {next : First → Program Effect Answer Second} {rest : Program Effect Answer Second}
    (first : Runs perform state program middle (.done value))
    (second : Runs perform middle (next value) reached rest) :
    Runs perform state (program >>= next) reached rest := by
  generalize finished : Program.done value = last at first
  induction first with
  | refl =>
      subst finished
      exact second
  | step performed _ induction => exact .step performed (induction second finished)

theorem Runs.of_done {Result : Type w} {state reached : State} {value last : Result}
    (ran : Runs perform state (.done value : Program Effect Answer Result) reached
      (.done last)) : reached = state ∧ last = value := by
  cases ran
  exact ⟨rfl, rfl⟩

theorem Runs.of_bind {First : Type w} {Second : Type w} {state reached : State}
    {program : Program Effect Answer First} {next : First → Program Effect Answer Second}
    {last : Second} (ran : Runs perform state (program >>= next) reached (.done last)) :
    ∃ middle value, Runs perform state program middle (.done value) ∧
      Runs perform middle (next value) reached (.done last) := by
  induction program generalizing state with
  | done value => exact ⟨state, value, .refl _ _, ran⟩
  | perform effect rest induction =>
      rw [perform_bind] at ran
      cases ran with
      | step performed after =>
          rcases induction _ after with ⟨middle, value, first, second⟩
          exact ⟨middle, value, .step performed first, second⟩

/-- A projection that carries every permitted effect along carries runs along. -/
theorem Runs.project {Result : Type w} {Abstract : Type a}
    {abstract : Abstract → (effect : Effect) → Answer effect → Abstract → Prop}
    (project : State → Abstract)
    (simulates : ∀ current effect answer next, perform current effect answer next →
      abstract (project current) effect answer (project next))
    {state reached : State} {program rest : Program Effect Answer Result}
    (ran : Runs perform state program reached rest) :
    Runs abstract (project state) program (project reached) rest := by
  induction ran with
  | refl => exact .refl _ _
  | step performed _ induction => exact .step (simulates _ _ _ _ performed) induction

end Runs

section Satisfies

variable {perform : State → (effect : Effect) → Answer effect → State → Prop}
  {allowed : State → Effect → Prop}

/-- A specification stays true of whatever is left of the program. -/
theorem Satisfies.runs {Result : Type w} {returns : State → Result → Prop}
    {state reached : State} {program rest : Program Effect Answer Result}
    (satisfies : program.Satisfies perform allowed returns state)
    (ran : Runs perform state program reached rest) :
    rest.Satisfies perform allowed returns reached := by
  induction ran with
  | refl => exact satisfies
  | step performed _ induction => exact induction (satisfies.2 _ _ performed)

theorem Satisfies.invariant {Result : Type w} {returns : State → Result → Prop}
    {property : State → Prop} {state reached : State}
    {program rest : Program Effect Answer Result}
    (satisfies : program.Satisfies perform allowed returns state)
    (ran : Runs perform state program reached rest) (initially : property state)
    (preserved : ∀ current effect answer next, property current → allowed current effect →
      perform current effect answer next → property next) :
    property reached := by
  induction ran with
  | refl => exact initially
  | step performed _ induction =>
      exact induction (satisfies.2 _ _ performed)
        (preserved _ _ _ _ initially satisfies.1 performed)

theorem Satisfies.weaken {Result : Type w} {returns weaker : State → Result → Prop}
    {program : Program Effect Answer Result} {state : State}
    (satisfies : program.Satisfies perform allowed returns state)
    (implies : ∀ reached value, returns reached value → weaker reached value) :
    program.Satisfies perform allowed weaker state := by
  induction program generalizing state with
  | done value => exact implies state value satisfies
  | perform effect next induction =>
      refine ⟨satisfies.1, ?_⟩
      intro answer reached performed
      exact induction answer (satisfies.2 answer reached performed)

theorem Satisfies.permits {Result : Type w} {returns : State → Result → Prop}
    {wider : State → Effect → Prop} {program : Program Effect Answer Result} {state : State}
    (satisfies : program.Satisfies perform allowed returns state)
    (implies : ∀ reached effect, allowed reached effect → wider reached effect) :
    program.Satisfies perform wider returns state := by
  induction program generalizing state with
  | done value => exact satisfies
  | perform effect next induction =>
      refine ⟨implies _ _ satisfies.1, ?_⟩
      intro answer reached performed
      exact induction answer (satisfies.2 answer reached performed)

/-- Where whatever is `allowed` is answered, the program can be performed to its end. -/
theorem Satisfies.completes {Result : Type w} {returns : State → Result → Prop}
    (answered : ∀ state effect, allowed state effect →
      ∃ answer reached, perform state effect answer reached)
    {program : Program Effect Answer Result} {state : State}
    (satisfies : program.Satisfies perform allowed returns state) :
    ∃ reached value, Runs perform state program reached (.done value) := by
  induction program generalizing state with
  | done value => exact ⟨state, value, .refl _ _⟩
  | perform effect next induction =>
      rcases answered state effect satisfies.1 with ⟨answer, middle, performed⟩
      rcases induction answer (satisfies.2 answer middle performed) with ⟨reached, value, ran⟩
      exact ⟨reached, value, .step performed ran⟩

/-- Sequencing: the first program's postcondition is what the rest may assume. -/
theorem Satisfies.bind {First : Type w} {Second : Type w}
    {between : State → First → Prop} {returns : State → Second → Prop}
    {program : Program Effect Answer First}
    {next : First → Program Effect Answer Second} {state : State}
    (first : program.Satisfies perform allowed between state)
    (second : ∀ reached value, between reached value →
      (next value).Satisfies perform allowed returns reached) :
    (program >>= next).Satisfies perform allowed returns state := by
  induction program generalizing state with
  | done value => exact second state value first
  | perform effect rest induction =>
      refine ⟨first.1, ?_⟩
      intro answer reached performed
      exact induction answer (first.2 answer reached performed)

/-- A program carried out by programs that keep to a specification of their own. -/
theorem Satisfies.expand {Lower : Type u} {LowerAnswer : Lower → Type v} {Result : Type v}
    {LowerState : Type t} {returns : State → Result → Prop}
    {lowerPerform : LowerState → (effect : Lower) → LowerAnswer effect → LowerState → Prop}
    {lowerAllowed : LowerState → Lower → Prop}
    {lower : (effect : Effect) → Program Lower LowerAnswer (Answer effect)}
    {embed : State → LowerState}
    (refines : ∀ state effect, allowed state effect →
      (lower effect).Satisfies lowerPerform lowerAllowed
        (fun reached answer => ∃ next, perform state effect answer next ∧ reached = embed next)
        (embed state))
    {program : Program Effect Answer Result} {state : State}
    (satisfies : program.Satisfies perform allowed returns state) :
    (program.expand lower).Satisfies lowerPerform lowerAllowed
      (fun reached value => ∃ next, returns next value ∧ reached = embed next)
      (embed state) := by
  induction program generalizing state with
  | done value => exact ⟨state, satisfies, rfl⟩
  | perform effect next induction =>
      apply Satisfies.bind (refines state effect satisfies.1)
      intro reached answer between
      rcases between with ⟨middle, performed, rfl⟩
      exact induction answer (satisfies.2 answer middle performed)

end Satisfies

/-! ## What a program performs at all -/

/-- Whatever its effects are answered, the program performs only what is `permitted`. -/
def Performs {Result : Type w} (permitted : Effect → Prop) :
    Program Effect Answer Result → Prop
  | .done _ => True
  | .perform effect next => permitted effect ∧ ∀ answer, (next answer).Performs permitted

section Performs

variable {permitted : Effect → Prop}

theorem performs_effect {effect : Effect} (isPermitted : permitted effect) :
    (Program.perform effect .done : Program Effect Answer _).Performs permitted :=
  ⟨isPermitted, fun _ => trivial⟩

theorem Performs.bind {First : Type w} {Second : Type w}
    {program : Program Effect Answer First} {next : First → Program Effect Answer Second}
    (first : program.Performs permitted) (second : ∀ value, (next value).Performs permitted) :
    (program >>= next).Performs permitted := by
  induction program with
  | done value => exact second value
  | perform effect rest induction =>
      exact ⟨first.1, fun answer => induction answer (first.2 answer)⟩

theorem Satisfies.performs {Result : Type w}
    {perform : State → (effect : Effect) → Answer effect → State → Prop}
    {allowed : State → Effect → Prop} {returns : State → Result → Prop}
    {program : Program Effect Answer Result} {state : State}
    (satisfies : program.Satisfies perform allowed returns state)
    (performs : program.Performs permitted) :
    program.Satisfies perform (fun reached effect => allowed reached effect ∧ permitted effect)
      returns state := by
  induction program generalizing state with
  | done value => exact satisfies
  | perform effect next induction =>
      refine ⟨⟨satisfies.1, performs.1⟩, ?_⟩
      intro answer reached performed
      exact induction answer (satisfies.2 answer reached performed) (performs.2 answer)

theorem Performs.satisfies {Result : Type w}
    {perform : State → (effect : Effect) → Answer effect → State → Prop}
    {program : Program Effect Answer Result} (performs : program.Performs permitted)
    (state : State) :
    program.Satisfies perform (fun _ effect => permitted effect) (fun _ _ => True) state := by
  induction program generalizing state with
  | done value => trivial
  | perform effect next induction =>
      refine ⟨performs.1, ?_⟩
      intro answer reached _
      exact induction answer (performs.2 answer) reached

end Performs

end Program

end Foundation
