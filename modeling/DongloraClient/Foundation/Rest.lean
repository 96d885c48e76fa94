import DongloraClient.Foundation.Locks
import Mathlib.Logic.Hydra

/-! # Crews that come to rest

Tasks that acquire their locks in the order of a rank are held up only from outside: once
nothing can move, whoever has not returned waits, from one holder of a lock to the next,
for a task at an effect that stays without an answer. And it comes to that in every run
without new tasks, because every effect leaves less of a program.
-/

namespace Foundation

namespace Program

variable {Effect : Type u} {Answer : Effect → Type v} {Result : Type w}

/-- What is left of a program after its first effect. -/
inductive Leaves : Program Effect Answer Result → Program Effect Answer Result → Prop
  | intro {effect : Effect} {next : Answer effect → Program Effect Answer Result}
      (answer : Answer effect) : Leaves (next answer) (.perform effect next)

theorem leaves_wellFounded : WellFounded (@Leaves Effect Answer Result) := by
  constructor
  intro program
  induction program with
  | done value =>
      constructor
      intro rest leaves
      cases leaves
  | perform effect next induction =>
      constructor
      intro rest leaves
      cases leaves with
      | intro answer => exact induction answer

end Program

namespace Locks

variable {Effect : Type u} {Answer : Effect → Type v} {Result : Type w} {Lock : Type w}
  [DecidableEq Lock] {Name : Type w} {use : Effect → Use Lock}
  {body : Name → Program Effect Answer Result} {crew next : Crew Effect Answer Result Lock}

/-! ## Which program a task runs -/

def nameTask (names : Nat → Option Name) : CrewAction Effect Answer Name → Nat → Option Name
  | .start task name => Function.update names task (some name)
  | _ => names

def named (actions : List (CrewAction Effect Answer Name)) : Nat → Option Name :=
  actions.foldl nameTask fun _ => none

/-- How far a task has come with its program, and with which locks. -/
structure Placed (use : Effect → Use Lock) (allowed : List Lock → Effect → Prop)
    (body : Name → Program Effect Answer Result) (names : Nat → Option Name)
    (crew : Crew Effect Answer Result Lock) (task : Nat) (held : List Lock) : Prop
    extends Keeping use allowed crew task held where
  came : ∀ program, crew.tasks task = some program → ∃ name, names task = some name ∧
    Program.Runs (Holding use) [] (body name) held program

section Placed

variable {rank : Lock → Nat} {allowed : List Lock → Effect → Prop} {names : Nat → Option Name}
  (inOrder : ∀ held effect, allowed held effect → InOrder use rank held effect)
  (disciplined : ∀ name, Disciplined use allowed [] (body name))

include inOrder disciplined in
theorem placed_step (placed : ∀ task, ∃ held, Placed use allowed body names crew task held)
    {action : CrewAction Effect Answer Name}
    (stepped : stepCrew use body crew action = some next) (task : Nat) :
    ∃ held, Placed use allowed body (nameTask names action) next task held := by
  rcases placed task with ⟨held, keeps, came⟩
  have step := crewStep_of_step stepped
  by_cases own : task = action.task
  · cases step with
    | @starts _ name idle =>
        cases own
        refine ⟨[], keeps.starts idle (disciplined name), ?_⟩
        intro program running
        cases (Function.update_self _ _ _).symm.trans running
        exact ⟨name, Function.update_self _ _ _, .refl _ _⟩
    | performs running used =>
        cases own
        refine ⟨_, keeps.performs inOrder running used, ?_⟩
        intro program now
        cases (Function.update_self _ _ _).symm.trans now
        rcases came _ running with ⟨name, isNamed, ran⟩
        exact ⟨name, isNamed, ran.trans (.step rfl (.refl _ _))⟩
    | leaves =>
        cases own
        refine ⟨[], keeping_nothing (Function.update_self _ _ _) (by simp [CrewAction.task]), ?_⟩
        intro program running
        cases (Function.update_self _ _ _).symm.trans running
  · rcases step.elsewhere own with ⟨sameTask, sameLocks⟩
    refine ⟨held, keeps.elsewhere sameLocks sameTask, ?_⟩
    intro program running
    have sameName : nameTask names action task = names task := by
      cases action with
      | start => exact Function.update_of_ne own _ _
      | perform | leave => rfl
    rw [sameName]
    exact came program (sameTask.symm.trans running)

include inOrder disciplined in
theorem placed_run (placed : ∀ task, ∃ held, Placed use allowed body names crew task held)
    {actions : List (CrewAction Effect Answer Name)}
    (ran : (crewMachine use body).run crew actions = some next) (task : Nat) :
    ∃ held, Placed use allowed body (actions.foldl nameTask names) next task held := by
  induction actions generalizing crew names with
  | nil =>
      cases ran
      exact placed task
  | cons action actions induction =>
      rw [Machine.run_cons, Option.bind_eq_some_iff] at ran
      rcases ran with ⟨middle, stepped, rest⟩
      exact induction (placed_step inOrder disciplined placed stepped) rest

include inOrder disciplined in
theorem placed_of_run {actions : List (CrewAction Effect Answer Name)}
    (ran : (crewMachine use body).run (crewMachine use body).initial actions = some crew)
    (task : Nat) : ∃ held, Placed use allowed body (named actions) crew task held := by
  refine placed_run inOrder disciplined ?_ ran task
  intro task
  refine ⟨[], keeping_nothing rfl (by simp [crewMachine]), ?_⟩
  intro program running
  cases running

end Placed

/-! ## Crews at rest -/

/-- Nothing can be performed, except what `stalls`. -/
def Crew.Rests (use : Effect → Use Lock) (stalls : Effect → Prop)
    (crew : Crew Effect Answer Result Lock) : Prop :=
  ∀ task effect rest, crew.tasks task = some (.perform effect rest) →
    stalls effect ∨ crew.useLocks use task effect = none

section Rests

variable {rank : Lock → Nat} {allowed : List Lock → Effect → Prop} {stalls : Effect → Prop}
  (inOrder : ∀ held effect, allowed held effect → InOrder use rank held effect)
  (keeping : ∀ task, ∃ held, Keeping use allowed crew task held)

include inOrder keeping in
/-- Only a lock that is held keeps a task from its next effect. -/
theorem waits_of_stuck {task : Nat} {effect : Effect}
    {rest : Answer effect → Program Effect Answer Result}
    (running : crew.tasks task = some (.perform effect rest))
    (stuck : crew.useLocks use task effect = none) : ∃ other, crew.WaitsFor use task other := by
  rcases keeping task with ⟨held, keeps⟩
  have ordered := inOrder held effect (keeps.disciplined _ running).1
  rw [Crew.useLocks] at stuck
  rw [InOrder] at ordered
  cases uses : use effect with
  | neither =>
      rw [uses] at stuck
      cases stuck
  | acquire lock =>
      rw [uses] at stuck
      cases holder : crew.holders lock with
      | none =>
          simp only [holder] at stuck
          cases stuck
      | some other => exact ⟨other, effect, rest, lock, running, uses, holder⟩
  | release lock =>
      simp only [uses] at stuck ordered
      rw [if_pos ((keeps.holds lock).mpr (List.mem_of_mem_head? ordered))] at stuck
      cases stuck

omit [DecidableEq Lock] in
include keeping in
theorem holder_runs {lock : Lock} {holder : Nat} (holds : crew.holders lock = some holder) :
    ∃ effect rest, crew.tasks holder = some (.perform effect rest) := by
  rcases keeping holder with ⟨held, keeps⟩
  have member := (keeps.holds lock).mp holds
  cases running : crew.tasks holder with
  | none =>
      rw [keeps.idle running] at member
      cases member
  | some program =>
      cases program with
      | done value =>
          rw [show held = [] from keeps.disciplined _ running] at member
          cases member
      | perform effect rest => exact ⟨effect, rest, rfl⟩

include inOrder keeping in
/-- The ranks go up from one holder to the next, so that the chain comes to an end. -/
theorem chain_to_stalled {limit : Nat} (bounded : ∀ lock, rank lock < limit)
    (rests : crew.Rests use stalls) {task : Nat} {effect : Effect}
    {rest : Answer effect → Program Effect Answer Result}
    (running : crew.tasks task = some (.perform effect rest)) :
    ∃ last stalling later, Relation.ReflTransGen (crew.WaitsFor use) task last ∧
      crew.tasks last = some (.perform stalling later) ∧ stalls stalling := by
  have waiting : ∀ height task effect rest wanted other, limit - rank wanted = height →
      crew.tasks task = some (.perform effect rest) → use effect = .acquire wanted →
      crew.holders wanted = some other →
      ∃ last stalling later, Relation.ReflTransGen (crew.WaitsFor use) task last ∧
        crew.tasks last = some (.perform stalling later) ∧ stalls stalling := by
    intro height
    induction height using Nat.strongRecOn with
    | _ height induction =>
        intro task effect rest wanted other same running wants holds
        have waits : crew.WaitsFor use task other := ⟨_, _, _, running, wants, holds⟩
        rcases holder_runs keeping holds with ⟨further, remains, others⟩
        rcases rests other further remains others with stalled | stuck
        · exact ⟨other, further, remains, .single waits, others, stalled⟩
        · rcases waits_of_stuck inOrder keeping others stuck with
            ⟨beyond, _, _, lock, alsoRunning, alsoWants, alsoHolds⟩
          have above := waits_above inOrder keeping alsoRunning alsoWants holds
          have below := bounded lock
          rcases induction (limit - rank lock) (by omega) other _ _ lock beyond rfl alsoRunning
            alsoWants alsoHolds with ⟨last, stalling, later, chain, stands, stalled⟩
          exact ⟨last, stalling, later, .head waits chain, stands, stalled⟩
  rcases rests task effect rest running with stalled | stuck
  · exact ⟨task, effect, rest, .refl, running, stalled⟩
  · rcases waits_of_stuck inOrder keeping running stuck with
      ⟨other, _, _, lock, alsoRunning, wants, holds⟩
    exact waiting _ task _ _ lock other rfl alsoRunning wants holds

end Rests

/-! ## Runs end -/

/-- A task that is running takes its next step, or is cancelled. -/
def Moves (use : Effect → Use Lock) (body : Name → Program Effect Answer Result)
    (crew next : Crew Effect Answer Result Lock) : Prop :=
  ∃ task, crew.tasks task ≠ none ∧
    ((∃ reply, stepCrew use body crew (.perform task reply) = some next) ∨
      stepCrew use body crew (.leave task) = some next)

def Crew.Within (crew : Crew Effect Answer Result Lock) (tasks : Finset Nat) : Prop :=
  ∀ task, task ∉ tasks → crew.tasks task = none

omit [DecidableEq Lock] in
theorem Crew.Within.of_ne {tasks : Finset Nat} (within : crew.Within tasks) {task : Nat}
    (running : crew.tasks task ≠ none) : task ∈ tasks := by
  by_contra outside
  exact running (within task outside)

theorem within_of_reachable (reached : (crewMachine use body).Reachable crew) :
    ∃ tasks, crew.Within tasks := by
  apply reached.invariant
  · exact ⟨∅, fun _ _ => rfl⟩
  · intro current action next earlier _ stepped
    rcases earlier with ⟨tasks, within⟩
    refine ⟨insert action.task tasks, ?_⟩
    intro task outside
    rw [Finset.mem_insert, not_or] at outside
    rw [((crewStep_of_step stepped).elsewhere outside.1).1]
    exact within task outside.2

inductive Advances : (later earlier : Option (Program Effect Answer Result)) → Prop
  | goesOn {rest program : Program Effect Answer Result} (leaves : Program.Leaves rest program) :
      Advances (some rest) (some program)
  | ends (program : Program Effect Answer Result) : Advances none (some program)

theorem advances_wellFounded : WellFounded (@Advances Effect Answer Result) := by
  have gone : Acc Advances (none : Option (Program Effect Answer Result)) := by
    constructor
    intro later advances
    cases advances
  constructor
  intro task
  cases task with
  | none => exact gone
  | some program =>
      induction program using Program.leaves_wellFounded.induction with
      | _ program induction =>
          constructor
          intro later advances
          cases advances with
          | goesOn leaves => exact induction _ leaves
          | ends => exact gone

theorem Moves.advances (moves : Moves use body crew next) :
    ∃ task, crew.tasks task ≠ none ∧ Advances (next.tasks task) (crew.tasks task) ∧
      ∀ other, other ≠ task → next.tasks other = crew.tasks other := by
  rcases moves with ⟨task, started, ⟨reply, stepped⟩ | stepped⟩
  · have step := crewStep_of_step stepped
    refine ⟨task, started, ?_, fun other different => (step.elsewhere different).1⟩
    cases step with
    | @performs _ _ effect rest answer reached running used =>
        have own : (reached.setTask task (some (rest answer))).tasks task =
            some (rest answer) := Function.update_self _ _ _
        rw [own, running]
        exact .goesOn (.intro answer)
  · have step := crewStep_of_step stepped
    refine ⟨task, started, ?_, fun other different => (step.elsewhere different).1⟩
    rcases Option.ne_none_iff_exists'.mp started with ⟨program, running⟩
    cases step with
    | leaves =>
        simp only [Function.update_self, running]
        exact .ends program

/-- In the collection of all programs, one makes room for what is left of it. -/
theorem moves_cut {tasks : Finset Nat} (within : crew.Within tasks)
    (moves : Moves use body crew next) :
    next.Within tasks ∧
      Relation.CutExpand Advances (tasks.val.map next.tasks) (tasks.val.map crew.tasks) := by
  rcases moves.advances with ⟨mover, started, advances, elsewhere⟩
  have member : mover ∈ tasks := within.of_ne started
  constructor
  · intro task outside
    have other : task ≠ mover := by
      rintro rfl
      exact outside member
    rw [elsewhere task other]
    exact within task outside
  · have others : ∀ task ∈ tasks.val.erase mover, next.tasks task = crew.tasks task := by
      intro task among
      exact elsewhere task ((Multiset.Nodup.mem_erase_iff tasks.nodup).mp among).1
    rw [← Multiset.cons_erase (show mover ∈ tasks.val from member), Multiset.map_cons,
      Multiset.map_cons, Multiset.map_congr rfl others]
    exact Relation.cutExpand_single_add advances _

theorem acc_of_within {tasks : Finset Nat} (within : crew.Within tasks) :
    Acc (fun later earlier => Moves use body earlier later) crew := by
  generalize programs : tasks.val.map crew.tasks = heads
  induction heads using advances_wellFounded.cutExpand.induction generalizing crew with
  | _ heads induction =>
      constructor
      intro next moves
      rcases moves_cut within moves with ⟨still, cut⟩
      rw [programs] at cut
      exact induction _ cut still rfl

/-- No run goes on for ever without new tasks. -/
theorem no_endless_run (reached : (crewMachine use body).Reachable crew)
    (crews : Nat → Crew Effect Answer Result Lock) (starts : crews 0 = crew) :
    ¬ ∀ time, Moves use body (crews time) (crews (time + 1)) := by
  rcases within_of_reachable reached with ⟨tasks, within⟩
  have ends : Acc (fun later earlier => Moves use body earlier later) crew :=
    acc_of_within within
  clear reached within
  induction ends generalizing crews with
  | intro crew _ induction =>
      intro moves
      subst starts
      exact induction (crews 1) (moves 0) (fun time => crews (time + 1)) rfl
        fun time => moves (time + 1)

end Locks

end Foundation
