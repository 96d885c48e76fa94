import DongloraClient.Foundation.Machine
import DongloraClient.Foundation.Program
import Mathlib.Logic.Relation

/-! # Programs that share locks

Tasks run programs some of whose effects acquire and release locks. A lock is held
by one task at a time, and a task that finds a lock held waits for its holder. When
every program acquires its locks in the order of a rank, tasks cannot come to wait
for each other in a cycle, whatever the answers to their effects are.
-/

namespace Foundation.Locks

inductive Use (Lock : Type w)
  | acquire (lock : Lock)
  | release (lock : Lock)
  | neither

variable {Effect : Type u} {Answer : Effect → Type v} {Result : Type w} {Lock : Type w}

/-! ## Lock order -/

section Order

variable (use : Effect → Use Lock) (rank : Lock → Nat)

def after (held : List Lock) (effect : Effect) : List Lock :=
  match use effect with
  | .acquire lock => lock :: held
  | .release _ => held.tail
  | .neither => held

def Holding (held : List Lock) (effect : Effect) (_answer : Answer effect)
    (reached : List Lock) : Prop :=
  reached = after use held effect

/-- A lock is acquired only under locks of lower rank, and the newest is released
first. -/
def InOrder (held : List Lock) (effect : Effect) : Prop :=
  match use effect with
  | .acquire lock => ∀ other ∈ held, rank other < rank lock
  | .release lock => held.head? = some lock
  | .neither => True

/-- Holding the locks `held`, the program performs only what is `allowed` with the
locks it holds then, and in the end it holds none. -/
def Disciplined (allowed : List Lock → Effect → Prop) (held : List Lock)
    (program : Program Effect Answer Result) : Prop :=
  program.Satisfies (Holding use) allowed (fun reached _ => reached = []) held

def Restoring {Value : Type x} (allowed : List Lock → Effect → Prop) (held : List Lock)
    (program : Program Effect Answer Value) : Prop :=
  program.Satisfies (Holding use) allowed (fun reached _ => reached = held) held

end Order

section Restoring

variable {use : Effect → Use Lock} {allowed : List Lock → Effect → Prop} {held : List Lock}
  {First Second : Type w}

theorem Restoring.bind {program : Program Effect Answer First}
    {next : First → Program Effect Answer Second} (first : Restoring use allowed held program)
    (second : ∀ value, Restoring use allowed held (next value)) :
    Restoring use allowed held (program >>= next) := by
  apply Program.Satisfies.bind first
  intro reached value same
  subst same
  exact second value

theorem restoring_effect {effect : Effect} (permitted : allowed held effect)
    (neither : use effect = .neither) :
    Restoring use allowed held (Program.perform effect .done : Program Effect Answer _) := by
  refine ⟨permitted, ?_⟩
  intro answer reached same
  rw [same, after, neither]
  rfl

end Restoring

/-! ## Tasks -/

structure Crew (Effect : Type u) (Answer : Effect → Type v) (Result : Type w)
    (Lock : Type w) where
  tasks : Nat → Option (Program Effect Answer Result)
  holders : Lock → Option Nat

def Crew.WaitsFor (use : Effect → Use Lock) (crew : Crew Effect Answer Result Lock)
    (task other : Nat) : Prop :=
  ∃ effect next lock, crew.tasks task = some (.perform effect next) ∧
    use effect = .acquire lock ∧ crew.holders lock = some other

section Waiting

variable {use : Effect → Use Lock} {rank : Lock → Nat}
  {allowed : List Lock → Effect → Prop} {crew next : Crew Effect Answer Result Lock}

/-- `held` lists the locks of a task, and what is left of its program is
disciplined from there. -/
structure Keeping (use : Effect → Use Lock) (allowed : List Lock → Effect → Prop)
    (crew : Crew Effect Answer Result Lock) (task : Nat) (held : List Lock) : Prop where
  holds : ∀ lock, crew.holders lock = some task ↔ lock ∈ held
  once : held.Nodup
  idle : crew.tasks task = none → held = []
  disciplined : ∀ program, crew.tasks task = some program →
    Disciplined use allowed held program

theorem Keeping.elsewhere {task : Nat} {held : List Lock}
    (keeping : Keeping use allowed crew task held)
    (sameLocks : ∀ lock, next.holders lock = some task ↔ crew.holders lock = some task)
    (sameTask : next.tasks task = crew.tasks task) : Keeping use allowed next task held where
  holds lock := (sameLocks lock).trans (keeping.holds lock)
  once := keeping.once
  idle none := keeping.idle (sameTask.symm.trans none)
  disciplined program running := keeping.disciplined program (sameTask.symm.trans running)

variable (inOrder : ∀ held effect, allowed held effect → InOrder use rank held effect)

include inOrder in
/-- What a waiting task holds ranks below what it waits for. -/
theorem waits_above (keeping : ∀ task, ∃ held, Keeping use allowed crew task held)
    {task : Nat} {effect : Effect} {rest : Answer effect → Program Effect Answer Result}
    {wanted lock : Lock} (running : crew.tasks task = some (.perform effect rest))
    (wants : use effect = .acquire wanted) (holds : crew.holders lock = some task) :
    rank lock < rank wanted := by
  rcases keeping task with ⟨held, keeps⟩
  have ordered := inOrder held effect (keeps.disciplined _ running).1
  rw [InOrder, wants] at ordered
  exact ordered lock ((keeps.holds lock).mp holds)

include inOrder in
/-- Along a chain of waiting tasks the ranks go up. -/
theorem chain_ascends (keeping : ∀ task, ∃ held, Keeping use allowed crew task held)
    {task last : Nat} (chain : Relation.TransGen (crew.WaitsFor use) task last) :
    ∃ effect rest wanted lock, crew.tasks task = some (.perform effect rest) ∧
      use effect = .acquire wanted ∧ crew.holders lock = some last ∧
      rank wanted ≤ rank lock := by
  induction chain with
  | single waits =>
      rcases waits with ⟨effect, rest, lock, running, wants, holds⟩
      exact ⟨effect, rest, lock, lock, running, wants, holds, Nat.le_refl _⟩
  | tail _ waits induction =>
      rcases induction with ⟨effect, rest, wanted, lock, running, wants, holds, below⟩
      rcases waits with ⟨_, _, further, runningOn, wantsOn, holdsOn⟩
      have above := waits_above inOrder keeping runningOn wantsOn holds
      exact ⟨effect, rest, wanted, further, running, wants, holdsOn, by omega⟩

end Waiting

/-! ## Steps -/

/-- An effect is answered by the action that performs it. A task that leaves has
returned, or was cancelled where it stood. -/
inductive CrewAction (Effect : Type u) (Answer : Effect → Type v) (Name : Type w)
  | start (task : Nat) (name : Name)
  | perform (task : Nat) (reply : (effect : Effect) → Option (Answer effect))
  | leave (task : Nat)

namespace Crew

def setTask (crew : Crew Effect Answer Result Lock) (task : Nat)
    (program : Option (Program Effect Answer Result)) : Crew Effect Answer Result Lock :=
  { crew with tasks := Function.update crew.tasks task program }

variable [DecidableEq Lock]

def setHolder (crew : Crew Effect Answer Result Lock) (lock : Lock)
    (holder : Option Nat) : Crew Effect Answer Result Lock :=
  { crew with holders := Function.update crew.holders lock holder }

/-- The locks after `task` has performed `effect`, unless it has to wait. -/
def useLocks (use : Effect → Use Lock) (crew : Crew Effect Answer Result Lock)
    (task : Nat) (effect : Effect) : Option (Crew Effect Answer Result Lock) :=
  match use effect with
  | .acquire lock =>
      match crew.holders lock with
      | none => some (crew.setHolder lock (some task))
      | some _ => none
  | .release lock =>
      if crew.holders lock = some task then some (crew.setHolder lock none) else none
  | .neither => some crew

end Crew

variable [DecidableEq Lock] {Name : Type w}

def stepCrew (use : Effect → Use Lock) (body : Name → Program Effect Answer Result)
    (crew : Crew Effect Answer Result Lock) :
    CrewAction Effect Answer Name → Option (Crew Effect Answer Result Lock)
  | .start task name =>
      match crew.tasks task with
      | none => some (crew.setTask task (some (body name)))
      | some _ => none
  | .perform task reply =>
      match crew.tasks task with
      | some (.perform effect next) =>
          (reply effect).bind fun answer =>
            (crew.useLocks use task effect).map fun reached =>
              reached.setTask task (some (next answer))
      | _ => none
  | .leave task =>
      some { crew with
        tasks := Function.update crew.tasks task none
        holders := fun lock =>
          if crew.holders lock = some task then none else crew.holders lock }

def crewMachine (use : Effect → Use Lock) (body : Name → Program Effect Answer Result) :
    Machine (Crew Effect Answer Result Lock) (CrewAction Effect Answer Name) where
  initial := ⟨fun _ => none, fun _ => none⟩
  step := stepCrew use body

def CrewAction.task : CrewAction Effect Answer Name → Nat
  | .start task _ => task
  | .perform task _ => task
  | .leave task => task

inductive CrewStep (use : Effect → Use Lock) (body : Name → Program Effect Answer Result)
    (crew : Crew Effect Answer Result Lock) :
    CrewAction Effect Answer Name → Crew Effect Answer Result Lock → Prop
  | starts {task : Nat} {name : Name} (idle : crew.tasks task = none) :
      CrewStep use body crew (.start task name) (crew.setTask task (some (body name)))
  | performs {task : Nat} {reply : (effect : Effect) → Option (Answer effect)}
      {effect : Effect} {rest : Answer effect → Program Effect Answer Result}
      {answer : Answer effect} {reached : Crew Effect Answer Result Lock}
      (running : crew.tasks task = some (.perform effect rest))
      (used : crew.useLocks use task effect = some reached) :
      CrewStep use body crew (.perform task reply) (reached.setTask task (some (rest answer)))
  | leaves {task : Nat} :
      CrewStep use body crew (.leave task)
        { crew with
          tasks := Function.update crew.tasks task none
          holders := fun lock =>
            if crew.holders lock = some task then none else crew.holders lock }

/-- Some reply makes a task perform its next effect with a given answer. -/
theorem stepCrew_perform {use : Effect → Use Lock} {body : Name → Program Effect Answer Result}
    {crew reached : Crew Effect Answer Result Lock} {task : Nat} {effect : Effect}
    {rest : Answer effect → Program Effect Answer Result} (answer : Answer effect)
    (running : crew.tasks task = some (.perform effect rest))
    (used : crew.useLocks use task effect = some reached) :
    ∃ reply, stepCrew use body crew (.perform task reply) =
      some (reached.setTask task (some (rest answer))) := by
  classical
  refine ⟨fun asked => if same : asked = effect then some (same ▸ answer) else none, ?_⟩
  simp [stepCrew, running, used]

/-! ## No cycles -/

section NoCycle

variable {use : Effect → Use Lock} {rank : Lock → Nat}
  {allowed : List Lock → Effect → Prop} {crew next : Crew Effect Answer Result Lock}
  (inOrder : ∀ held effect, allowed held effect → InOrder use rank held effect)

include inOrder in
theorem Keeping.performs {task : Nat} {held : List Lock} {effect : Effect}
    {rest : Answer effect → Program Effect Answer Result} {answer : Answer effect}
    {reached : Crew Effect Answer Result Lock}
    (keeping : Keeping use allowed crew task held)
    (running : crew.tasks task = some (.perform effect rest))
    (used : crew.useLocks use task effect = some reached) :
    Keeping use allowed (reached.setTask task (some (rest answer))) task
      (after use held effect) := by
  have spec := keeping.disciplined _ running
  have goesOn : Disciplined use allowed (after use held effect) (rest answer) :=
    spec.2 answer _ rfl
  have ordered := inOrder held effect spec.1
  suffices locks : (∀ lock, reached.holders lock = some task ↔ lock ∈ after use held effect) ∧
      (after use held effect).Nodup by
    refine ⟨locks.1, locks.2, ?_, ?_⟩
    · intro none
      simp [Crew.setTask] at none
    · intro program now
      simp only [Crew.setTask, Function.update_self, Option.some.injEq] at now
      rw [← now]
      exact goesOn
  rw [Crew.useLocks] at used
  rw [InOrder] at ordered
  rw [after]
  cases uses : use effect with
  | neither =>
      rw [uses] at used
      cases used
      exact ⟨keeping.holds, keeping.once⟩
  | acquire lock =>
      simp only [uses] at used ordered
      split at used
      · next free =>
        cases used
        have fresh : lock ∉ held := by
          intro member
          exact Nat.lt_irrefl _ (ordered lock member)
        refine ⟨?_, List.nodup_cons.mpr ⟨fresh, keeping.once⟩⟩
        intro other
        by_cases same : other = lock
        · subst same
          simp [Crew.setHolder]
        · simp [Crew.setHolder, same, keeping.holds]
      · cases used
  | release lock =>
      simp only [uses] at used ordered
      split at used
      · cases used
        rcases List.head?_eq_some_iff.mp ordered with ⟨older, rfl⟩
        have once := List.nodup_cons.mp keeping.once
        refine ⟨?_, once.2⟩
        intro other
        by_cases same : other = lock
        · subst same
          simp [Crew.setHolder, once.1]
        · simp [Crew.setHolder, same, keeping.holds]
      · cases used

omit [DecidableEq Lock] in
theorem Keeping.starts {task : Nat} {held : List Lock}
    {program : Program Effect Answer Result} (keeping : Keeping use allowed crew task held)
    (idle : crew.tasks task = none) (disciplined : Disciplined use allowed [] program) :
    Keeping use allowed (crew.setTask task (some program)) task [] := by
  cases keeping.idle idle
  refine ⟨keeping.holds, keeping.once, fun _ => rfl, ?_⟩
  intro running now
  simp only [Crew.setTask, Function.update_self, Option.some.injEq] at now
  rw [← now]
  exact disciplined

omit [DecidableEq Lock] in
theorem keeping_nothing {task : Nat} (idle : crew.tasks task = none)
    (free : ∀ lock, crew.holders lock ≠ some task) : Keeping use allowed crew task [] := by
  refine ⟨?_, List.nodup_nil, fun _ => rfl, ?_⟩
  · intro lock
    simp [free lock]
  · intro program running
    rw [idle] at running
    cases running

theorem useLocks_elsewhere {task other : Nat} {effect : Effect}
    {reached : Crew Effect Answer Result Lock} (different : other ≠ task)
    (used : crew.useLocks use task effect = some reached) :
    reached.tasks = crew.tasks ∧
      ∀ lock, reached.holders lock = some other ↔ crew.holders lock = some other := by
  rw [Crew.useLocks] at used
  split at used
  · next lock _ =>
    split at used
    · next free =>
      cases used
      refine ⟨rfl, ?_⟩
      intro queried
      by_cases same : queried = lock
      · subst same
        simp [Crew.setHolder, free, Ne.symm different]
      · simp [Crew.setHolder, same]
    · cases used
  · next lock _ =>
    split at used
    · next own =>
      cases used
      refine ⟨rfl, ?_⟩
      intro queried
      by_cases same : queried = lock
      · subst same
        simp [Crew.setHolder, own, Ne.symm different]
      · simp [Crew.setHolder, same]
    · cases used
  · cases used
    exact ⟨rfl, fun _ => Iff.rfl⟩

variable {body : Name → Program Effect Answer Result}

theorem crewStep_of_step {action : CrewAction Effect Answer Name}
    (stepped : stepCrew use body crew action = some next) :
    CrewStep use body crew action next := by
  cases action with
  | start task name =>
      simp only [stepCrew] at stepped
      split at stepped
      · next idle =>
        cases stepped
        exact .starts idle
      · cases stepped
  | perform task reply =>
      simp only [stepCrew] at stepped
      split at stepped
      · next running =>
        rw [Option.bind_eq_some_iff] at stepped
        rcases stepped with ⟨answer, _, performed⟩
        rw [Option.map_eq_some_iff] at performed
        rcases performed with ⟨reached, used, rfl⟩
        exact .performs running used
      · cases stepped
  | leave task =>
      cases stepped
      exact .leaves

theorem CrewStep.elsewhere {action : CrewAction Effect Answer Name} {task : Nat}
    (step : CrewStep use body crew action next) (different : task ≠ action.task) :
    next.tasks task = crew.tasks task ∧
      ∀ lock, next.holders lock = some task ↔ crew.holders lock = some task := by
  cases step with
  | starts _ => exact ⟨Function.update_of_ne different _ _, fun _ => Iff.rfl⟩
  | performs _ used =>
      rcases useLocks_elsewhere different used with ⟨sameTasks, sameLocks⟩
      refine ⟨?_, sameLocks⟩
      rw [← sameTasks]
      exact Function.update_of_ne different _ _
  | @leaves leaver =>
      refine ⟨Function.update_of_ne different _ _, ?_⟩
      intro lock
      have other : leaver ≠ task := fun same => different same.symm
      by_cases left : crew.holders lock = some leaver
      · simp [left, other]
      · simp [left]

include inOrder in
theorem keeping_step (disciplined : ∀ name, Disciplined use allowed [] (body name))
    (keeping : ∀ task, ∃ held, Keeping use allowed crew task held)
    {action : CrewAction Effect Answer Name}
    (stepped : stepCrew use body crew action = some next) (task : Nat) :
    ∃ held, Keeping use allowed next task held := by
  rcases keeping task with ⟨held, keeps⟩
  have step := crewStep_of_step stepped
  by_cases own : task = action.task
  · cases step with
    | starts idle =>
        cases own
        exact ⟨[], keeps.starts idle (disciplined _)⟩
    | performs running used =>
        cases own
        exact ⟨_, keeps.performs inOrder running used⟩
    | leaves =>
        cases own
        exact ⟨[], keeping_nothing (Function.update_self _ _ _) (by simp [CrewAction.task])⟩
  · rcases step.elsewhere own with ⟨sameTask, sameLocks⟩
    exact ⟨held, keeps.elsewhere sameLocks sameTask⟩

include inOrder in
theorem keeping_of_reachable (disciplined : ∀ name, Disciplined use allowed [] (body name))
    (reached : (crewMachine use body).Reachable crew) (task : Nat) :
    ∃ held, Keeping use allowed crew task held := by
  have all : ∀ task, ∃ held, Keeping use allowed crew task held := by
    apply reached.invariant
    · intro task
      exact ⟨[], keeping_nothing rfl (by simp [crewMachine])⟩
    · intro current action next keeping _ stepped
      exact keeping_step inOrder disciplined keeping stepped
  exact all task

include inOrder in
/-- Disciplined tasks never wait for each other in a cycle, nor for themselves. -/
theorem no_wait_cycle (disciplined : ∀ name, Disciplined use allowed [] (body name))
    (reached : (crewMachine use body).Reachable crew) (task : Nat) :
    ¬ Relation.TransGen (crew.WaitsFor use) task task := by
  intro cycle
  have keeping := keeping_of_reachable inOrder disciplined reached
  rcases chain_ascends inOrder keeping cycle with
    ⟨effect, rest, wanted, lock, running, wants, holds, below⟩
  have above := waits_above inOrder keeping running wants holds
  omega

end NoCycle

end Foundation.Locks
