import DongloraClient.Foundation.Machine
import DongloraClient.Foundation.Program
import Mathlib.Order.WellFounded

/-! # Progress

What can still happen from a state, as opposed to what has happened before it. A goal
can be reached when some run gets there, and a rank that goes down step by step shows
that one does.
-/

namespace Foundation

namespace Machine

variable {State : Type u} {Action : Type v} {machine : Machine State Action}

/-- Some run of allowed steps ends where the goal holds. -/
def CanReach (machine : Machine State Action) (allowed : Action → Prop) (state : State)
    (goal : State → Prop) : Prop :=
  ∃ actions final, (∀ action ∈ actions, allowed action) ∧
    machine.run state actions = some final ∧ goal final

namespace CanReach

variable {allowed : Action → Prop} {goal : State → Prop} {state : State}

theorem here (holds : goal state) : machine.CanReach allowed state goal :=
  ⟨[], state, by simp, rfl, holds⟩

theorem step {next : State} {action : Action} (permitted : allowed action)
    (stepped : machine.step state action = some next)
    (later : machine.CanReach allowed next goal) : machine.CanReach allowed state goal := by
  rcases later with ⟨actions, final, others, ran, holds⟩
  refine ⟨action :: actions, final, ?_, ?_, holds⟩
  · intro taken member
    rcases List.mem_cons.mp member with rfl | member
    · exact permitted
    · exact others taken member
  · rw [run_cons, stepped]
    exact ran

theorem bind {between : State → Prop} (first : machine.CanReach allowed state between)
    (second : ∀ middle, between middle → machine.CanReach allowed middle goal) :
    machine.CanReach allowed state goal := by
  rcases first with ⟨actions, middle, earlier, ran, holds⟩
  rcases second middle holds with ⟨more, final, later, continued, reached⟩
  refine ⟨actions ++ more, final, ?_, run_append ran continued, reached⟩
  intro action member
  rcases List.mem_append.mp member with member | member
  · exact earlier action member
  · exact later action member

theorem weaken {weaker : State → Prop} {wider : Action → Prop}
    (reach : machine.CanReach allowed state goal)
    (permits : ∀ action, allowed action → wider action)
    (implies : ∀ final, goal final → weaker final) : machine.CanReach wider state weaker := by
  rcases reach with ⟨actions, final, all, ran, holds⟩
  exact ⟨actions, final, fun action member => permits action (all action member), ran,
    implies final holds⟩

theorem keeping (reach : machine.CanReach allowed state goal) (property : State → Prop)
    (initially : property state)
    (preserved : ∀ current action next, allowed action → property current →
      machine.step current action = some next → property next) :
    machine.CanReach allowed state fun final => goal final ∧ property final := by
  rcases reach with ⟨actions, final, all, ran, holds⟩
  refine ⟨actions, final, all, ran, holds, ?_⟩
  clear holds
  induction actions generalizing state with
  | nil =>
      cases ran
      exact initially
  | cons action actions induction =>
      rw [run_cons, Option.bind_eq_some_iff] at ran
      rcases ran with ⟨next, stepped, rest⟩
      exact induction (preserved _ _ _ (all action List.mem_cons_self) initially stepped)
        (fun later member => all later (List.mem_cons_of_mem _ member)) rest

/-- A machine that carries another inside it reaches what that one can reach. -/
theorem lift {Outer : Type w} {OuterAction : Type x} {outer : Machine Outer OuterAction}
    (embed : State → Outer) (perform : Action → OuterAction)
    (steps : ∀ current action next, allowed action → machine.step current action = some next →
      outer.step (embed current) (perform action) = some (embed next))
    (reach : machine.CanReach allowed state goal) :
    outer.CanReach (fun taken => ∃ action, allowed action ∧ taken = perform action)
      (embed state) fun final => ∃ inside, final = embed inside ∧ goal inside := by
  rcases reach with ⟨actions, final, all, ran, holds⟩
  refine ⟨actions.map perform, embed final, ?_, ?_, final, rfl, holds⟩
  · intro taken member
    rcases List.mem_map.mp member with ⟨action, among, rfl⟩
    exact ⟨action, all action among, rfl⟩
  · clear holds
    induction actions generalizing state with
    | nil =>
        cases ran
        rfl
    | cons action actions induction =>
        rw [run_cons, Option.bind_eq_some_iff] at ran
        rcases ran with ⟨next, stepped, rest⟩
        rw [List.map_cons, run_cons, steps _ _ _ (all action List.mem_cons_self) stepped]
        exact induction (fun later member => all later (List.mem_cons_of_mem _ member)) rest

end CanReach

/-- The goal is reached when every state short of it has a step to a state of lower
rank. -/
theorem canReach_of_rank {allowed : Action → Prop} {goal : State → Prop}
    (property : State → Prop) {Rank : Type w} {below : Rank → Rank → Prop}
    (wellFounded : WellFounded below) (rank : State → Rank)
    (descends : ∀ current, property current → goal current ∨
      ∃ action next, allowed action ∧ machine.step current action = some next ∧
        property next ∧ below (rank next) (rank current))
    {state : State} (holds : property state) : machine.CanReach allowed state goal := by
  generalize started : rank state = start
  induction start using wellFounded.induction generalizing state with
  | _ start induction =>
      rcases descends state holds with done | ⟨action, next, permitted, stepped, kept, lower⟩
      · exact .here done
      · rw [started] at lower
        exact .step permitted stepped (induction _ lower kept rfl)

end Machine

end Foundation
