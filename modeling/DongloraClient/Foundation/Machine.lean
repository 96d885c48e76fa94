import Mathlib.Logic.Function.Basic

/-! # Interleaving machines

A machine is a step function driven by an externally chosen sequence of
actions. Concurrent tasks are modelled by letting every task's next atomic step
be one action; an interleaving is then a list of actions, and a statement about
every reachable state is a statement about every interleaving.
-/

namespace Foundation

/-- A step function over actions. `step` returns `none` where the action is not
enabled. -/
structure Machine (State : Type u) (Action : Type v) where
  initial : State
  step : State → Action → Option State

namespace Machine

variable {State : Type u} {Action : Type v}

def run (machine : Machine State Action) :
    State → List Action → Option State
  | state, [] => some state
  | state, action :: actions =>
      (machine.step state action).bind fun next => machine.run next actions

@[simp] theorem run_nil (machine : Machine State Action) (state : State) :
    machine.run state [] = some state := rfl

@[simp] theorem run_cons (machine : Machine State Action) (state : State)
    (action : Action) (actions : List Action) :
    machine.run state (action :: actions) =
      (machine.step state action).bind fun next => machine.run next actions := rfl

theorem run_append {machine : Machine State Action} {state middle final : State}
    {actions later : List Action} (first : machine.run state actions = some middle)
    (second : machine.run middle later = some final) :
    machine.run state (actions ++ later) = some final := by
  induction actions generalizing state with
  | nil =>
      cases first
      exact second
  | cons action actions induction =>
      rw [run_cons, Option.bind_eq_some_iff] at first
      rcases first with ⟨next, stepped, rest⟩
      rw [List.cons_append, run_cons, stepped]
      exact induction rest

theorem run_preserves {machine : Machine State Action} {property : State → Prop}
    (preserved : ∀ current action next, property current →
      machine.step current action = some next → property next)
    {state final : State} {actions : List Action} (holds : property state)
    (ran : machine.run state actions = some final) : property final := by
  induction actions generalizing state with
  | nil =>
      cases ran
      exact holds
  | cons action actions induction =>
      rw [run_cons, Option.bind_eq_some_iff] at ran
      rcases ran with ⟨next, stepped, rest⟩
      exact induction (preserved _ _ _ holds stepped) rest

theorem run_keeps {machine : Machine State Action} {Part : Type w} {part : State → Part}
    {state final : State} {actions : List Action}
    (keeps : ∀ action ∈ actions, ∀ current next, machine.step current action = some next →
      part next = part current)
    (ran : machine.run state actions = some final) : part final = part state := by
  induction actions generalizing state with
  | nil =>
      cases ran
      rfl
  | cons action actions induction =>
      rw [run_cons, Option.bind_eq_some_iff] at ran
      rcases ran with ⟨next, stepped, rest⟩
      rw [← keeps action List.mem_cons_self state next stepped]
      exact induction (fun later member => keeps later (List.mem_cons_of_mem _ member)) rest

/-- The states reached by runs all of whose steps are `allowed`, judged in the
state before the step. -/
inductive ReachableBy (machine : Machine State Action)
    (allowed : State → Action → Prop) : State → Prop
  | initial : ReachableBy machine allowed machine.initial
  | step {state next : State} {action : Action} :
      ReachableBy machine allowed state → allowed state action →
      machine.step state action = some next →
      ReachableBy machine allowed next

abbrev Reachable (machine : Machine State Action) : State → Prop :=
  machine.ReachableBy fun _ _ => True

namespace ReachableBy

variable {machine : Machine State Action} {allowed : State → Action → Prop}

/-- The invariant rule: what holds initially and survives every allowed step
holds in every state reached by allowed steps. -/
theorem invariant {state : State} {property : State → Prop}
    (reached : machine.ReachableBy allowed state)
    (initially : property machine.initial)
    (preserved : ∀ current action next, property current →
      allowed current action → machine.step current action = some next →
      property next) :
    property state := by
  induction reached with
  | initial => exact initially
  | step _ permitted stepped induction =>
      exact preserved _ _ _ induction permitted stepped

theorem weaken {state : State} {weaker : State → Action → Prop}
    (reached : machine.ReachableBy allowed state)
    (implies : ∀ current action, allowed current action → weaker current action) :
    machine.ReachableBy weaker state := by
  induction reached with
  | initial => exact .initial
  | step _ permitted stepped induction =>
      exact .step induction (implies _ _ permitted) stepped

theorem reachable {state : State} (reached : machine.ReachableBy allowed state) :
    machine.Reachable state :=
  reached.weaken fun _ _ _ => trivial

end ReachableBy

def Allows (machine : Machine State Action) (allowed : State → Action → Prop) :
    State → List Action → Prop
  | _, [] => True
  | state, action :: actions =>
      allowed state action ∧
        match machine.step state action with
        | none => True
        | some next => machine.Allows allowed next actions

instance decidableAllows (machine : Machine State Action)
    (allowed : State → Action → Prop)
    [∀ state action, Decidable (allowed state action)] :
    ∀ state actions, Decidable (machine.Allows allowed state actions)
  | _, [] => .isTrue trivial
  | state, action :: actions =>
      have : Decidable (match machine.step state action with
          | none => True
          | some next => machine.Allows allowed next actions) :=
        match machine.step state action with
        | none => .isTrue trivial
        | some next => decidableAllows machine allowed next actions
      inferInstanceAs (Decidable (_ ∧ _))

theorem Allows.and {machine : Machine State Action}
    {allowed permitted : State → Action → Prop} {state : State} {actions : List Action}
    (first : machine.Allows allowed state actions)
    (second : machine.Allows permitted state actions) :
    machine.Allows (fun current action => allowed current action ∧ permitted current action)
      state actions := by
  induction actions generalizing state with
  | nil => trivial
  | cons action actions induction =>
      refine ⟨⟨first.1, second.1⟩, ?_⟩
      have firstRest := first.2
      have secondRest := second.2
      split
      · trivial
      · next stepped =>
        rw [stepped] at firstRest secondRest
        exact induction firstRest secondRest

theorem ReachableBy.run {machine : Machine State Action}
    {allowed : State → Action → Prop} {state final : State} {actions : List Action}
    (reached : machine.ReachableBy allowed state)
    (permitted : machine.Allows allowed state actions)
    (ran : machine.run state actions = some final) :
    machine.ReachableBy allowed final := by
  induction actions generalizing state with
  | nil =>
      cases ran
      exact reached
  | cons action actions induction =>
      rw [run_cons, Option.bind_eq_some_iff] at ran
      rcases ran with ⟨next, stepped, rest⟩
      rw [Allows, stepped] at permitted
      exact induction (.step reached permitted.1 stepped) permitted.2 rest

theorem allows_of_always {machine : Machine State Action} {allowed : State → Action → Prop}
    {actions : List Action}
    (always : ∀ action ∈ actions, ∀ current, allowed current action) (state : State) :
    machine.Allows allowed state actions := by
  induction actions generalizing state with
  | nil => trivial
  | cons action actions induction =>
      refine ⟨always _ List.mem_cons_self state, ?_⟩
      split
      · trivial
      · exact induction (fun later member => always later (List.mem_cons_of_mem _ member)) _

theorem Reachable.run {machine : Machine State Action} {state final : State}
    {actions : List Action} (reached : machine.Reachable state)
    (ran : machine.run state actions = some final) :
    machine.Reachable final :=
  ReachableBy.run reached (allows_of_always (fun _ _ _ => trivial) state) ran

/-! ## Observing runs -/

/-- What an observer notes down of a run, in order, as far as the run gets. Each step
is judged by its action and the state it leaves. -/
def notes {Note : Type w} (machine : Machine State Action)
    (observe : Action → State → List Note) : State → List Action → List Note
  | _, [] => []
  | state, action :: actions =>
      match machine.step state action with
      | none => []
      | some next => observe action next ++ machine.notes observe next actions

theorem notes_cons {Note : Type w} {machine : Machine State Action}
    {observe : Action → State → List Note} {state next : State} {action : Action}
    (actions : List Action) (stepped : machine.step state action = some next) :
    machine.notes observe state (action :: actions) =
      observe action next ++ machine.notes observe next actions := by
  rw [notes, stepped]

end Machine

end Foundation
