import DongloraClient.Dongle.Conduct
import DongloraClient.Dongle.Dropping

/-! # One task at a time

What the conduct of the calls comes to when they share a dongle, and any of them may be
dropped: the cells are used under their locks only, and closing is the business of one
task. That task is not replaced when it is dropped.
-/

namespace DongloraClient.Dongle

open Foundation Session

variable {types : WireTypes}

/-! ## The invariant -/

def Conduct.Taken (conduct : Conduct) : Prop :=
  conduct.claim = .claimed ∨ conduct.claim = .spent

/-- Every task conducts itself, holds the locks it seems to hold, and at most one has
set the closed flag. -/
structure WellConducted (protocol : Protocol types) (pool : Pool types)
    (conducts : TaskId → Conduct) : Prop where
  follows : ∀ task call operation inFlight log,
    pool.tasks task = .running call operation inFlight log →
    Behaves protocol call (conducts task) operation
  idle : ∀ task, pool.tasks task = .idle → conducts task = .rest
  holds : ∀ cell task, pool.holders cell = some task ↔ (conducts task).held = some cell
  vacant : ∀ task, (conducts task).claim = .vacant →
    (conducts task).held = some .closed ∧ pool.inner.closed = false
  taken : ∀ task, (conducts task).Taken → pool.inner.closed = true
  single : ∀ task other, (conducts task).Taken → (conducts other).Taken → task = other
  unfinished : ∀ task, (conducts task).claim = .claimed → pool.session.closer ≠ .done
  begun : pool.session.closer ≠ .idle → pool.inner.closed = true

section Pools

variable {protocol : Protocol types} {pool next : Pool types} {conducts : TaskId → Conduct}
  {task : TaskId}

theorem WellConducted.keeps (well : WellConducted protocol pool conducts)
    (follows : ∀ task call operation inFlight log,
      next.tasks task = .running call operation inFlight log →
      Behaves protocol call (conducts task) operation)
    (idle : ∀ task, next.tasks task = .idle → pool.tasks task = .idle)
    (holders : next.holders = pool.holders) (closed : next.inner.closed = pool.inner.closed)
    (closer : next.session.closer = pool.session.closer) :
    WellConducted protocol next conducts where
  follows := follows
  idle task nothing := well.idle task (idle task nothing)
  holds := by
    rw [holders]
    exact well.holds
  vacant := by
    rw [closed]
    exact well.vacant
  taken := by
    rw [closed]
    exact well.taken
  single := well.single
  unfinished := by
    rw [closer]
    exact well.unfinished
  begun := by
    rw [closer, closed]
    exact well.begun

theorem WellConducted.performing (well : WellConducted protocol pool conducts) {call : Call types}
    {effect : Effect types} {rest : Answer effect → Operation types (Outcome types)}
    {inFlight : Option CallId} {log : List (Command types)}
    (current : pool.tasks task = .running call (.perform effect rest) inFlight log) :
    (conducts task).Permits (Call.mayStall protocol call) effect ∧ ∀ answer,
      Behaves protocol call ((conducts task).after effect answer) (rest answer) := by
  have spec := well.follows task call _ inFlight log current
  exact ⟨spec.1, fun answer => spec.2 answer _ rfl⟩

theorem WellConducted.follows_moved (well : WellConducted protocol pool conducts)
    {call : Call types} {operation : Operation types (Outcome types)} {waited : Option CallId}
    {log : List (Command types)} {after : Conduct}
    {reached : Pool types} (sameTasks : reached.tasks = pool.tasks)
    (follows : Behaves protocol call after operation)
    (other : TaskId) (otherCall : Call types) (rest : Operation types (Outcome types))
    (inFlight : Option CallId) (otherLog : List (Command types))
    (running : (reached.setTask task (.running call operation waited log)).tasks other =
      .running otherCall rest inFlight otherLog) :
    Behaves protocol otherCall (Function.update conducts task after other) rest := by
  by_cases own : other = task
  · subst own
    rw [Pool.setTask_self] at running
    cases running
    rw [Function.update_self]
    exact follows
  · rw [Pool.setTask_ne _ _ _ own, sameTasks] at running
    rw [Function.update_of_ne own]
    exact well.follows other _ _ _ _ running

theorem WellConducted.idle_moved (well : WellConducted protocol pool conducts) {call : Call types}
    {operation : Operation types (Outcome types)} {waited : Option CallId}
    {log : List (Command types)} {after : Conduct}
    {reached : Pool types} (sameTasks : reached.tasks = pool.tasks) (other : TaskId)
    (nothing : (reached.setTask task (.running call operation waited log)).tasks other = .idle) :
    Function.update conducts task after other = .rest := by
  have different : other ≠ task := by
    intro same
    subst same
    rw [Pool.setTask_self] at nothing
    cases nothing
  rw [Pool.setTask_ne _ _ _ different, sameTasks] at nothing
  rw [Function.update_of_ne different]
  exact well.idle other nothing

theorem WellConducted.unmoved (well : WellConducted protocol pool conducts) {call : Call types}
    {operation : Operation types (Outcome types)} {waited : Option CallId}
    {log : List (Command types)} {reached : Pool types} (sameTasks : reached.tasks = pool.tasks)
    (follows : Behaves protocol call (conducts task) operation)
    (holders : reached.holders = pool.holders)
    (closed : reached.inner.closed = pool.inner.closed)
    (closer : reached.session.closer = pool.session.closer) :
    WellConducted protocol (reached.setTask task (.running call operation waited log))
      conducts := by
  have same : Function.update conducts task (conducts task) = conducts :=
    Function.update_eq_self _ _
  refine well.keeps ?_ ?_ holders closed closer
  · have moved := @well.follows_moved _ _ _ _ task call operation waited log
      (conducts task) reached sameTasks follows
    rw [same] at moved
    exact moved
  · intro other nothing
    have different : other ≠ task := by
      intro same
      subst same
      rw [Pool.setTask_self] at nothing
      cases nothing
    rw [Pool.setTask_ne _ _ _ different, sameTasks] at nothing
    exact nothing

/-! ### One effect at a time -/

section Effects

variable {call : Call types} {operation : Operation types (Outcome types)}
  {log : List (Command types)}

theorem WellConducted.moves (well : WellConducted protocol pool conducts) {after : Conduct}
    {reached : Pool types} (sameTasks : reached.tasks = pool.tasks)
    (closer : reached.session.closer = pool.session.closer)
    (follows : Behaves protocol call after operation)
    (holds : ∀ cell other, reached.holders cell = some other ↔
      (Function.update conducts task after other).held = some cell)
    (stays : pool.inner.closed = true → reached.inner.closed = true)
    (vacant : after.claim = .vacant → after.held = some .closed ∧ reached.inner.closed = false)
    (others : ∀ other, other ≠ task → (conducts other).claim = .vacant →
      reached.inner.closed = false)
    (taken : after.Taken → reached.inner.closed = true ∧
      ∀ other, (conducts other).Taken → other = task)
    (unfinished : after.claim = .claimed → pool.session.closer ≠ .done) :
    WellConducted protocol (reached.setTask task (.running call operation none log))
      (Function.update conducts task after) where
  follows := well.follows_moved sameTasks follows
  idle := well.idle_moved sameTasks
  holds := holds
  vacant := by
    intro other isVacant
    by_cases own : other = task
    · subst own
      rw [Function.update_self] at isVacant ⊢
      exact vacant isVacant
    · rw [Function.update_of_ne own] at isVacant ⊢
      exact ⟨(well.vacant other isVacant).1, others other own isVacant⟩
  taken := by
    intro other isTaken
    by_cases own : other = task
    · subst own
      rw [Function.update_self] at isTaken
      exact (taken isTaken).1
    · rw [Function.update_of_ne own] at isTaken
      exact stays (well.taken other isTaken)
  single := by
    intro first second firstTaken secondTaken
    by_cases own : first = task
    · by_cases also : second = task
      · exact own.trans also.symm
      · rw [Function.update_of_ne also] at secondTaken
        rw [own, Function.update_self] at firstTaken
        exact absurd ((taken firstTaken).2 second secondTaken) also
    · rw [Function.update_of_ne own] at firstTaken
      by_cases also : second = task
      · rw [also, Function.update_self] at secondTaken
        exact absurd ((taken secondTaken).2 first firstTaken) own
      · rw [Function.update_of_ne also] at secondTaken
        exact well.single first second firstTaken secondTaken
  unfinished := by
    intro other claimed
    rw [Pool.setTask_session, closer]
    by_cases own : other = task
    · subst own
      rw [Function.update_self] at claimed
      exact unfinished claimed
    · rw [Function.update_of_ne own] at claimed
      exact well.unfinished other claimed
  begun := by
    intro begun
    rw [Pool.setTask_session, closer] at begun
    exact stays (well.begun begun)

theorem WellConducted.holds_same (well : WellConducted protocol pool conducts) {after : Conduct}
    (same : after.held = (conducts task).held) (cell : Cell) (other : TaskId) :
    pool.holders cell = some other ↔
      (Function.update conducts task after other).held = some cell := by
  rw [well.holds]
  by_cases own : other = task
  · subst own
    rw [Function.update_self, same]
  · rw [Function.update_of_ne own]

theorem WellConducted.acquires (well : WellConducted protocol pool conducts) {cell : Cell}
    (free : pool.holders cell = none) (unheld : (conducts task).held = none)
    (follows : Behaves protocol call { conducts task with held := some cell } operation) :
    WellConducted protocol ((pool.setHolder cell (some task)).setTask task
        (.running call operation none log))
      (Function.update conducts task { conducts task with held := some cell }) := by
  refine well.moves rfl rfl follows ?_ id ?_ ?_ ?_ (well.unfinished task)
  · intro other holder
    by_cases own : holder = task <;> by_cases same : other = cell
    · subst own
      subst same
      simp [Pool.setHolder]
    · subst own
      simp [Pool.setHolder, same, well.holds, unheld, Ne.symm same]
    · subst same
      have unrelated : (conducts holder).held ≠ some other := by
        intro holds
        rw [(well.holds other holder).mpr holds] at free
        cases free
      simp [Pool.setHolder, own, Ne.symm own, unrelated]
    · simp [Pool.setHolder, own, same, well.holds]
  · intro vacant
    rw [(well.vacant task vacant).1] at unheld
    cases unheld
  · exact fun other _ vacant => (well.vacant other vacant).2
  · exact fun taken => ⟨well.taken task taken,
      fun other alsoTaken => well.single other task alsoTaken taken⟩

theorem WellConducted.releases (well : WellConducted protocol pool conducts) {cell : Cell}
    (held : (conducts task).held = some cell)
    (follows : Behaves protocol call (conducts task).unlocked operation) :
    WellConducted protocol
      ((pool.setHolder cell none).setTask task (.running call operation none log))
      (Function.update conducts task (conducts task).unlocked) := by
  have claimed : (conducts task).unlocked.Taken → (conducts task).Taken := by
    intro taken
    rw [Conduct.Taken, Conduct.unlocked] at taken
    dsimp only at taken
    split at taken
    · rcases taken with taken | taken <;> cases taken
    · exact taken
  refine well.moves rfl rfl follows ?_ id ?_ ?_ ?_ ?_
  · intro other holder
    have holding := (well.holds cell task).mpr held
    by_cases own : holder = task <;> by_cases same : other = cell
    · subst own
      subst same
      simp [Pool.setHolder, Conduct.unlocked]
    · subst own
      simp [Pool.setHolder, Conduct.unlocked, same, well.holds, held, Ne.symm same]
    · subst same
      have unrelated : (conducts holder).held ≠ some other := by
        intro holds
        rw [(well.holds other holder).mpr holds] at holding
        exact own (Option.some.inj holding)
      simp [Pool.setHolder, own, unrelated]
    · simp [Pool.setHolder, own, same, well.holds]
  · intro vacant
    rw [Conduct.unlocked] at vacant
    dsimp only at vacant
    split at vacant
    · cases vacant
    · next occupied => exact absurd vacant occupied
  · exact fun other _ vacant => (well.vacant other vacant).2
  · intro taken
    have before := claimed taken
    exact ⟨well.taken task before,
      fun other alsoTaken => well.single other task alsoTaken before⟩
  · intro isClaimed
    apply well.unfinished task
    rw [Conduct.unlocked] at isClaimed
    dsimp only at isClaimed
    split at isClaimed
    · cases isClaimed
    · exact isClaimed

theorem WellConducted.seesOpen (well : WellConducted protocol pool conducts)
    (held : conducts task = ⟨some .closed, .unclaimed⟩) (opened : pool.inner.closed = false)
    (follows : Behaves protocol call ⟨some .closed, .vacant⟩ operation) :
    WellConducted protocol (pool.setTask task (.running call operation none log))
      (Function.update conducts task ⟨some .closed, .vacant⟩) := by
  refine well.moves rfl rfl follows ?_ id ?_ ?_ ?_ ?_
  · exact well.holds_same (by rw [held])
  · exact fun _ => ⟨rfl, opened⟩
  · exact fun _ _ _ => opened
  · rintro (taken | taken) <;> cases taken
  · intro claimed
    cases claimed

/-- The flag is set by the one task that found it clear under its lock. -/
theorem WellConducted.claims (well : WellConducted protocol pool conducts)
    (held : conducts task = ⟨some .closed, .vacant⟩)
    (follows : Behaves protocol call ⟨some .closed, .claimed⟩ operation) :
    WellConducted protocol
      ((pool.setCell .closed true).setTask task (.running call operation none log))
      (Function.update conducts task ⟨some .closed, .claimed⟩) := by
  have opened : pool.inner.closed = false := (well.vacant task (by rw [held])).2
  refine well.moves rfl rfl follows ?_ (fun _ => rfl) ?_ ?_ ?_ ?_
  · exact well.holds_same (by rw [held])
  · intro vacant
    cases vacant
  · intro other different vacant
    have alsoHeld := (well.holds .closed other).mpr (well.vacant other vacant).1
    rw [(well.holds .closed task).mpr (by rw [held])] at alsoHeld
    exact absurd (Option.some.inj alsoHeld).symm different
  · intro _
    refine ⟨rfl, ?_⟩
    intro other taken
    rw [well.taken other taken] at opened
    cases opened
  · intro _ done
    rw [well.begun (by rw [done]; simp)] at opened
    cases opened

theorem WellConducted.performs (well : WellConducted protocol pool conducts) {effect : Effect types}
    {rest : Answer effect → Operation types (Outcome types)} {answer : Answer effect}
    {reached : Pool types}
    (current : pool.tasks task = .running call (.perform effect rest) none log)
    (answers : Answers task pool effect answer reached) :
    WellConducted protocol (reached.setTask task (.running call (rest answer) none log))
      (Function.update conducts task ((conducts task).after effect answer)) := by
  rcases well.performing current with ⟨permitted, continues⟩
  have continued := continues answer
  have same : Function.update conducts task (conducts task) = conducts :=
    Function.update_eq_self _ _
  cases answers with
  | acquire cell free => exact well.acquires free permitted continued
  | release cell => exact well.releases permitted continued
  | load cell =>
      cases cell with
      | closed =>
          cases flag : pool.inner.closed with
          | false =>
              have found : pool.inner.get .closed = false := flag
              have seen : (conducts task).after (.load .closed : Effect types) false =
                  ⟨some .closed, .vacant⟩ := by
                rw [permitted]
                rfl
              rw [found] at continued ⊢
              rw [seen] at continued ⊢
              exact well.seesOpen permitted flag continued
          | true =>
              have found : pool.inner.get .closed = true := flag
              rw [found] at continued ⊢
              change WellConducted protocol _ (Function.update conducts task (conducts task))
              rw [same]
              exact well.unmoved rfl continued rfl rfl rfl
      | _ =>
          change WellConducted protocol _ (Function.update conducts task (conducts task))
          rw [same]
          exact well.unmoved rfl continued rfl rfl rfl
  | store cell value =>
      cases cell with
      | closed =>
          rcases permitted with ⟨held, rfl⟩
          have claimed : (conducts task).after (.store .closed true : Effect types) () =
              ⟨some .closed, .claimed⟩ := by
            rw [held]
            rfl
          rw [claimed] at continued ⊢
          exact well.claims held continued
      | _ =>
          change WellConducted protocol _ (Function.update conducts task (conducts task))
          rw [same]
          exact well.unmoved rfl continued rfl rfl rfl
  | plain answer queues isPlain =>
      have unchanged : (conducts task).after effect answer = conducts task := by
        cases effect <;> first | rfl | cases isPlain
      rw [unchanged] at continued ⊢
      rw [same]
      exact well.unmoved rfl continued rfl rfl rfl

end Effects

theorem task_of_background {action : Action} (background : isBackground action = true) :
    action.task ≠ .close := by
  cases action with
  | closeStore | closeDrain | closeAbort => cases background
  | _ => simp [Action.task]

theorem closer_unfinished {state after : State types} {action : Action}
    (transition : Transition protocol state action after) (closing : action.task = .close)
    (before : action ≠ .closeAbort) : after.closer ≠ .done := by
  cases transition with
  | closeStore | closeDrain => simp
  | closeAbort => exact absurd rfl before
  | advance _ _ advances => cases advances <;> cases closing
  | readerMoves _ moves => cases moves <;> cases closing
  | _ => cases closing

theorem WellConducted.setSession (well : WellConducted protocol pool conducts)
    {session : State types} (closed : pool.inner.closed = true)
    (unfinished : ∀ task, (conducts task).claim = .claimed → session.closer ≠ .done) :
    WellConducted protocol (pool.setSession session) conducts where
  follows := well.follows
  idle := well.idle
  holds := well.holds
  vacant := well.vacant
  taken := well.taken
  single := well.single
  unfinished := unfinished
  begun := fun _ => closed

theorem WellConducted.closes (well : WellConducted protocol pool conducts) {action : Action}
    (stepped : stepPool protocol pool (.close task action) = some next) :
    (conducts task).claim = .claimed ∧
      ((action ≠ .closeAbort ∧ WellConducted protocol next conducts) ∨
        (action = .closeAbort ∧
          WellConducted protocol next (Function.update conducts task ⟨none, .spent⟩))) := by
  simp only [stepPool] at stepped
  split at stepped
  · next call rest log current =>
    split at stepped
    · next closing =>
      rw [Option.map_eq_some_iff] at stepped
      rcases stepped with ⟨session, steps, rfl⟩
      rcases well.performing current with ⟨held, continues⟩
      change conducts task = ⟨none, .claimed⟩ at held
      refine ⟨by rw [held], ?_⟩
      have isTaken : (conducts task).Taken := .inl (by rw [held])
      have closed : pool.inner.closed = true := well.taken task isTaken
      by_cases last : action = .closeAbort
      · subst last
        rw [if_pos rfl]
        have follows := continues ()
        rw [held] at follows
        have spent := @WellConducted.moves _ protocol pool conducts task call (rest ()) log well
          ⟨none, .spent⟩ pool rfl rfl follows ?_ id ?_ ?_ ?_ ?_
        · refine .inr ⟨rfl, spent.setSession closed ?_⟩
          intro other claimed
          by_cases own : other = task
          · rw [own, Function.update_self] at claimed
            cases claimed
          · rw [Function.update_of_ne own] at claimed
            exact absurd (well.single other task (.inl claimed) isTaken) own
        · exact well.holds_same (by rw [held])
        · intro vacant
          cases vacant
        · exact fun other _ vacant => (well.vacant other vacant).2
        · exact fun _ => ⟨closed, fun other taken => well.single other task taken isTaken⟩
        · intro claimed
          cases claimed
      · rw [if_neg last]
        refine .inl ⟨last, ?_⟩
        have same : (pool.setSession session).setTask task (pool.tasks task) =
            pool.setSession session := by
          simp [Pool.setTask, Pool.setSession]
        rw [same]
        apply well.setSession closed
        intro other claimed
        exact closer_unfinished (transition_of_step protocol steps) closing last
    · cases stepped
  · cases stepped

/-! ### Steps and runs -/

/-- Nobody sets the flag twice. -/
theorem Conduct.taken_before {conduct : Conduct} {effect : Effect types} {stalls : Bool}
    {answer : Answer effect} (permitted : conduct.Permits stalls effect)
    (closing : effect ≠ .closeSession) (taken : (conduct.after effect answer).Taken) :
    conduct.Taken ∨ conduct.claim = .vacant := by
  cases effect with
  | release cell =>
      rw [Conduct.Taken, Conduct.after, Conduct.unlocked] at taken
      dsimp only at taken
      split at taken
      · rcases taken with taken | taken <;> cases taken
      · exact .inl taken
  | load cell =>
      cases cell with
      | closed =>
          rw [show conduct = ⟨some .closed, .unclaimed⟩ from permitted] at taken
          cases answer <;> rcases taken with taken | taken <;> cases taken
      | _ => exact .inl taken
  | store cell value =>
      cases cell with
      | closed => exact .inr (by rw [permitted.1])
      | _ => exact .inl taken
  | closeSession => exact absurd rfl closing
  | _ => exact .inl taken

/-- With the flag set it stays set, and nobody has it that did not have it before. -/
structure FlagKept (pool : Pool types) (conducts : TaskId → Conduct) (next : Pool types)
    (after : TaskId → Conduct) : Prop where
  stays : pool.inner.closed = true → next.inner.closed = true
  nobody : pool.inner.closed = true → ∀ task, (after task).Taken → (conducts task).Taken

theorem FlagKept.same (closed : next.inner = pool.inner) :
    FlagKept pool conducts next conducts where
  stays := by
    rw [closed]
    exact id
  nobody := fun _ _ => id

theorem FlagKept.update {reached : Conduct}
    (stays : pool.inner.closed = true → next.inner.closed = true)
    (own : pool.inner.closed = true → reached.Taken → (conducts task).Taken) :
    FlagKept pool conducts next (Function.update conducts task reached) where
  stays := stays
  nobody := by
    intro closed other taken
    by_cases same : other = task
    · subst same
      rw [Function.update_self] at taken
      exact own closed taken
    · rw [Function.update_of_ne same] at taken
      exact taken

theorem WellConducted.settles (well : WellConducted protocol pool conducts)
    {effect : Effect types} {rest : Answer effect → Operation types (Outcome types)}
    {answer : Answer effect} {reached : Pool types} {call : Call types}
    {log : List (Command types)}
    (current : pool.tasks task = .running call (.perform effect rest) none log)
    (answers : Answers task pool effect answer reached) :
    FlagKept pool conducts (reached.setTask task (.running call (rest answer) none log))
      (Function.update conducts task ((conducts task).after effect answer)) := by
  have permitted := (well.performing current).1
  refine .update ?_ ?_
  · intro closed
    cases answers with
    | store cell value =>
        cases cell with
        | closed => exact permitted.2
        | _ => exact closed
    | _ => exact closed
  · intro closed taken
    have closing : effect ≠ .closeSession := by
      cases answers with
      | plain _ _ isPlain =>
          intro same
          rw [same] at isPlain
          cases isPlain
      | _ => simp
    rcases Conduct.taken_before permitted closing taken with before | vacant
    · exact before
    · rw [(well.vacant task vacant).2] at closed
      cases closed

theorem WellConducted.acts (well : WellConducted protocol pool conducts)
    {action : PoolAction types} (stepped : stepPool protocol pool action = some next) :
    ∃ after, WellConducted protocol next after ∧ FlagKept pool conducts next after := by
  cases poolTransition_of_step stepped with
  | starts task call idle =>
      have resting := well.idle task idle
      refine ⟨conducts, well.unmoved rfl ?_ rfl rfl rfl, .same rfl⟩
      rw [resting]
      exact behaves_operationOf protocol call
  | performs task choice current answers =>
      exact ⟨_, well.performs current answers, well.settles current answers⟩
  | issues task id current begins =>
      refine ⟨conducts, well.unmoved rfl (well.follows _ _ _ _ _ current) rfl rfl ?_, .same rfl⟩
      exact begins.keeps_closer (by simp [Action.task])
  | collects task current returned =>
      exact ⟨conducts, well.unmoved rfl ((well.performing current).2 _) rfl rfl rfl, .same rfl⟩
  | closes task current closing steps goesOn =>
      rcases well.closes stepped with ⟨claimed, ⟨_, kept⟩ | ⟨_, spent⟩⟩
      · exact ⟨conducts, kept, .same rfl⟩
      · exact ⟨_, spent, .update id fun _ _ => .inl claimed⟩
  | background isBackground steps =>
      refine ⟨conducts, well.keeps well.follows (fun _ nothing => nothing) rfl rfl ?_, .same rfl⟩
      exact steps.keeps_closer (task_of_background isBackground)

theorem conduct_of_dropped {other : TaskId}
    (claims : (Function.update conducts task .rest other).claim ≠ .unclaimed) :
    Function.update conducts task .rest other = conducts other := by
  by_cases own : other = task
  · rw [own, Function.update_self] at claims
    exact absurd rfl claims
  · rw [Function.update_of_ne own]

theorem Conduct.Taken.claims {conduct : Conduct} (taken : conduct.Taken) :
    conduct.claim ≠ .unclaimed := by
  rcases taken with claimed | spent
  · simp [claimed]
  · simp [spent]

theorem WellConducted.drops (well : WellConducted protocol pool conducts) (task : TaskId) :
    WellConducted protocol (pool.dropTask task) (Function.update conducts task .rest) where
  follows := by
    intro other call operation inFlight log running
    have different : other ≠ task := by
      intro same
      subst same
      rw [Pool.dropTask_self] at running
      cases running
    rw [Pool.dropTask_ne _ _ different] at running
    rw [Function.update_of_ne different]
    exact well.follows _ _ _ _ _ running
  idle := by
    intro other nothing
    by_cases own : other = task
    · rw [own, Function.update_self]
    · rw [Pool.dropTask_ne _ _ own] at nothing
      rw [Function.update_of_ne own]
      exact well.idle other nothing
  holds := by
    intro cell other
    rw [Pool.dropTask_holders, well.holds]
    by_cases own : other = task
    · simp [own, Conduct.rest]
    · simp [own]
  vacant := by
    intro other vacant
    have same := conduct_of_dropped (by rw [vacant]; simp)
    rw [same] at vacant ⊢
    exact well.vacant other vacant
  taken := by
    intro other taken
    rw [conduct_of_dropped taken.claims] at taken
    exact well.taken other taken
  single := by
    intro first second firstTaken secondTaken
    rw [conduct_of_dropped firstTaken.claims] at firstTaken
    rw [conduct_of_dropped secondTaken.claims] at secondTaken
    exact well.single first second firstTaken secondTaken
  unfinished := by
    intro other claimed
    have same := conduct_of_dropped (by rw [claimed]; simp)
    rw [same] at claimed
    exact well.unfinished other claimed
  begun := well.begun

theorem WellConducted.step (well : WellConducted protocol pool conducts)
    {action : DropAction types} (stepped : stepDropping protocol pool action = some next) :
    ∃ after, WellConducted protocol next after ∧ FlagKept pool conducts next after := by
  cases dropTransition_of_step stepped with
  | acts stepped => exact well.acts stepped
  | drops task current waits =>
      refine ⟨_, well.drops task, .update id ?_⟩
      rintro _ (taken | taken) <;> cases taken

section Runs

variable {session : State types} {applied : Option (Modulation types)} {openedAt : Instant}

theorem WellConducted.initial (fresh : session.closer = .idle) :
    WellConducted protocol (droppingMachine protocol session applied openedAt).initial
      fun _ => .rest where
  follows := by
    intro task call operation inFlight log running
    cases running
  idle := fun _ _ => rfl
  holds := by simp [droppingMachine, poolMachine, Conduct.rest]
  vacant := by simp [Conduct.rest]
  taken := by simp [Conduct.Taken, Conduct.rest]
  single := by simp [Conduct.Taken, Conduct.rest]
  unfinished := by simp [Conduct.rest]
  begun := fun begun => absurd fresh begun

theorem wellConducted_of_reachable (fresh : session.closer = .idle)
    (reached : (droppingMachine protocol session applied openedAt).Reachable pool) :
    ∃ conducts, WellConducted protocol pool conducts := by
  apply reached.invariant ⟨_, .initial fresh⟩
  rintro current action next ⟨before, well⟩ _ stepped
  rcases well.step stepped with ⟨after, wellAfter, _⟩
  exact ⟨after, wellAfter⟩

/-! ## Locks in a pool -/

/-- The cell that an effect uses: to give its lock up counts, to wait for it does not. -/
def Effect.cell : Effect types → Option Cell
  | .release cell => some cell
  | .load cell => some cell
  | .store cell _ => some cell
  | _ => none

theorem Conduct.Permits.guards {conduct : Conduct} {effect : Effect types} {cell : Cell}
    {stalls : Bool} (permitted : conduct.Permits stalls effect)
    (uses : Effect.cell effect = some cell) :
    conduct.held = some cell := by
  cases effect with
  | release other =>
      cases uses
      exact permitted
  | load other =>
      cases uses
      cases cell with
      | closed => rw [show conduct = ⟨some .closed, .unclaimed⟩ from permitted]
      | _ => exact permitted
  | store other value =>
      cases uses
      cases cell with
      | closed => rw [permitted.1]
      | _ => exact permitted
  | _ => cases uses

/-- With a lock held, a call uses its cell, or waits for an answer to `RX_START`. -/
theorem Conduct.Permits.uses {conduct : Conduct} {effect : Effect types} {cell : Cell}
    {stalls : Bool} (permitted : conduct.Permits stalls effect)
    (held : conduct.held = some cell) :
    Effect.cell effect = some cell ∨ (cell = .rxStarted ∧ Effect.isCommand effect = true) := by
  have unheld : conduct.held ≠ none := by
    rw [held]
    simp
  cases effect with
  | release | load | store =>
      have same := permitted.guards rfl
      rw [held] at same
      exact .inl same.symm
  | sendCommand request timeout =>
      rcases permitted with none | receiving
      · exact absurd none unheld
      · rw [held] at receiving
        exact .inr ⟨Option.some.inj receiving, rfl⟩
  | abortKeepalive | closeSession =>
      rw [show conduct = ⟨none, .claimed⟩ from permitted] at held
      cases held
  | nextRx | panic => exact absurd permitted.2 unheld
  | _ => exact absurd permitted unheld

theorem WellConducted.holder (well : WellConducted protocol pool conducts) {cell : Cell}
    (holding : pool.holders cell = some task) :
    ∃ call effect rest inFlight log,
      pool.tasks task = .running call (.perform effect rest) inFlight log ∧
        (Effect.cell effect = some cell ∨
          (cell = .rxStarted ∧ Effect.isCommand effect = true)) := by
  rw [well.holds] at holding
  cases current : pool.tasks task with
  | idle =>
      rw [well.idle task current] at holding
      cases holding
  | running call operation inFlight log =>
      cases operation with
      | done value =>
          have unheld : (conducts task).held = none := well.follows _ _ _ _ _ current
          rw [holding] at unheld
          cases unheld
      | perform effect rest =>
          exact ⟨call, effect, rest, inFlight, log, rfl,
            (well.performing current).1.uses holding⟩

/-- Every access to a cell is made under its lock, no task has more than one lock, and
whoever has one uses its cell in the next step, or has a command under way with the lock
of `rx_started` held. -/
theorem cells_are_guarded (fresh : session.closer = .idle)
    (reached : (droppingMachine protocol session applied openedAt).Reachable pool) :
    (∀ task call effect rest inFlight log cell,
      pool.tasks task = .running call (.perform effect rest) inFlight log →
      Effect.cell effect = some cell → pool.holders cell = some task) ∧
    (∀ task first second, pool.holders first = some task → pool.holders second = some task →
      first = second) ∧
    ∀ task cell, pool.holders cell = some task → ∃ call effect rest inFlight log,
      pool.tasks task = .running call (.perform effect rest) inFlight log ∧
        (Effect.cell effect = some cell ∨
          (cell = .rxStarted ∧ Effect.isCommand effect = true)) := by
  rcases wellConducted_of_reachable fresh reached with ⟨conducts, well⟩
  refine ⟨?_, ?_, ?_⟩
  · intro task call effect rest inFlight log cell current uses
    rw [well.holds]
    exact (well.performing current).1.guards uses
  · intro task first second holdsFirst holdsSecond
    rw [well.holds] at holdsFirst holdsSecond
    exact Option.some.inj (holdsFirst.symm.trans holdsSecond)
  · intro task cell holding
    exact well.holder holding

def startingRx : List (DropAction WireTypes.sample) :=
  .act (.start 0 .rxStart) :: List.replicate 9 (.act (.perform 0 .any)) ++ [.act (.issue 0 0)]

theorem cells_are_guarded_rxStart :
    ∃ pool, (droppingMachine Protocol.sample spawn none 0).run
        (droppingMachine Protocol.sample spawn none 0).initial
        (startingRx ++ .drop 0 :: .act (.start 1 .rxStart) ::
          List.replicate 9 (.act (.perform 1 .any)) ++ [.act (.issue 1 1)]) = some pool ∧
      pool.holders .rxStarted = some 1 ∧
      ∀ task first second, pool.holders first = some task → pool.holders second = some task →
        first = second := by
  have ran : ∃ pool, (droppingMachine Protocol.sample spawn none 0).run
      (droppingMachine Protocol.sample spawn none 0).initial
      (startingRx ++ .drop 0 :: .act (.start 1 .rxStart) ::
        List.replicate 9 (.act (.perform 1 .any)) ++ [.act (.issue 1 1)]) = some pool ∧
      pool.holders .rxStarted = some 1 := ⟨_, rfl, rfl⟩
  rcases ran with ⟨pool, ran, holding⟩
  exact ⟨pool, ran, holding, (cells_are_guarded rfl (.run .initial ran)).2.1⟩

/-! ## Closing -/

def PoolTask.Closes : PoolTask types → Prop
  | .running _ (.perform .abortKeepalive _) _ _ => True
  | .running _ (.perform .closeSession _) _ _ => True
  | _ => False

theorem WellConducted.claimed_of_closes (well : WellConducted protocol pool conducts)
    (closes : (pool.tasks task).Closes) : (conducts task).claim = .claimed := by
  unfold PoolTask.Closes at closes
  split at closes
  · next current => rw [(well.performing current).1]
  · next current => rw [(well.performing current).1]
  · cases closes

/-- The flag is set, and nobody but one of `closers` has set it. -/
def ClosedBy (protocol : Protocol types) (closers : TaskId → Prop) (pool : Pool types) : Prop :=
  pool.inner.closed = true ∧ ∃ conducts, WellConducted protocol pool conducts ∧
    ∀ task, (conducts task).Taken → closers task

theorem ClosedBy.step {closers : TaskId → Prop} {action : DropAction types}
    (closedBy : ClosedBy protocol closers pool)
    (stepped : stepDropping protocol pool action = some next) :
    ClosedBy protocol closers next := by
  rcases closedBy with ⟨closed, conducts, well, taken⟩
  rcases well.step stepped with ⟨after, wellAfter, settled⟩
  exact ⟨settled.stays closed, after, wellAfter,
    fun task isTaken => taken task (settled.nobody closed task isTaken)⟩

theorem ClosedBy.run {closers : TaskId → Prop} {final : Pool types}
    {actions : List (DropAction types)} (closedBy : ClosedBy protocol closers pool)
    (ran : (droppingMachine protocol session applied openedAt).run pool actions = some final) :
    ClosedBy protocol closers final :=
  Machine.run_preserves (fun _ _ _ before stepped => before.step stepped) closedBy ran

theorem ClosedBy.closes {closers : TaskId → Prop} (closedBy : ClosedBy protocol closers pool)
    (closes : (pool.tasks task).Closes) : closers task := by
  rcases closedBy with ⟨_, conducts, well, taken⟩
  exact taken task (.inl (well.claimed_of_closes closes))

/-- However many calls of `close` there are, one of them does the closing: whatever
stands at it at two points of a run is one and the same task. The session begins to
close only after the dongle has turned everybody else away. -/
theorem close_runs_once (fresh : session.closer = .idle) {final : Pool types}
    {actions : List (DropAction types)}
    (reached : (droppingMachine protocol session applied openedAt).Reachable pool)
    (ran : (droppingMachine protocol session applied openedAt).run pool actions = some final) :
    (∀ first second, (pool.tasks first).Closes → (final.tasks second).Closes →
      first = second) ∧
    (final.session.closer ≠ .idle → final.inner.closed = true) := by
  constructor
  · intro first second closesFirst closesSecond
    rcases wellConducted_of_reachable fresh reached with ⟨conducts, well⟩
    have firstTaken : (conducts first).Taken := .inl (well.claimed_of_closes closesFirst)
    have closedBy : ClosedBy protocol (fun task => first = task) pool :=
      ⟨well.taken first firstTaken, conducts, well,
        fun task taken => well.single first task firstTaken taken⟩
    exact (closedBy.run ran).closes closesSecond
  · rcases wellConducted_of_reachable fresh (reached.run ran) with ⟨conducts, well⟩
    exact well.begun

theorem close_runs_once_twice :
    ∃ pool final, (droppingMachine Protocol.sample spawn none 0).run
        (droppingMachine Protocol.sample spawn none 0).initial
        (.act (.start 0 .close) :: .act (.start 1 .close) ::
          List.replicate 4 (.act (.perform 0 .any))) = some pool ∧
      (droppingMachine Protocol.sample spawn none 0).run pool
        [.act (.perform 1 .any), .act (.perform 0 .any), .act (.close 0 .closeStore),
          .act (.perform 1 .any)] = some final ∧
      (pool.tasks 0).Closes ∧ (final.tasks 0).Closes ∧ final.inner.closed = true ∧
      ∀ task, (final.tasks task).Closes → task = 0 := by
  have ran : ∃ pool final, (droppingMachine Protocol.sample spawn none 0).run
        (droppingMachine Protocol.sample spawn none 0).initial
        (.act (.start 0 .close) :: .act (.start 1 .close) ::
          List.replicate 4 (.act (.perform 0 .any))) = some pool ∧
      (droppingMachine Protocol.sample spawn none 0).run pool
        [.act (.perform 1 .any), .act (.perform 0 .any), .act (.close 0 .closeStore),
          .act (.perform 1 .any)] = some final ∧
      (pool.tasks 0).Closes ∧ (final.tasks 0).Closes ∧ final.session.closer = .stored :=
    ⟨_, _, rfl, rfl, trivial, trivial, rfl⟩
  rcases ran with ⟨pool, final, ran, more, closes, stillCloses, stored⟩
  have once := close_runs_once rfl (.run .initial ran) more
  refine ⟨pool, final, ran, more, closes, stillCloses, once.2 (by rw [stored]; simp), ?_⟩
  intro task alsoCloses
  exact (once.1 0 task closes alsoCloses).symm

/-- Nobody goes on with the closing of a session that nobody has claimed. -/
theorem ClosedBy.closer_step {action : DropAction types}
    (abandoned : ClosedBy protocol (fun _ => False) pool)
    (stepped : stepDropping protocol pool action = some next) :
    next.session.closer = pool.session.closer ∧
      next.session.aborted = pool.session.aborted := by
  rcases abandoned with ⟨_, conducts, well, nobody⟩
  cases dropTransition_of_step stepped with
  | drops => exact ⟨rfl, rfl⟩
  | acts stepped =>
      cases poolTransition_of_step stepped with
      | starts | collects => exact ⟨rfl, rfl⟩
      | performs _ _ _ answers => cases answers <;> exact ⟨rfl, rfl⟩
      | issues _ _ _ begins =>
          exact ⟨begins.keeps_closer (by simp [Action.task]),
            (begins.keeps_flags (by simp [Action.task])).2⟩
      | closes task current closing steps goesOn =>
          exact (nobody task (.inl (well.closes stepped).1)).elim
      | background isBackground steps =>
          have other := task_of_background isBackground
          exact ⟨steps.keeps_closer other, (steps.keeps_flags other).2⟩

/-- A `close` that is dropped after it has set the flag is not made up for: in no run
after that does anybody go on where it stopped, so the reader is never told to stop. -/
theorem dropped_close_stays_undone (fresh : session.closer = .idle) {final : Pool types}
    {actions : List (DropAction types)}
    (reached : (droppingMachine protocol session applied openedAt).Reachable pool)
    (closes : (pool.tasks task).Closes)
    (dropped : (droppingMachine protocol session applied openedAt).step pool (.drop task) =
      some next)
    (ran : (droppingMachine protocol session applied openedAt).run next actions =
      some final) :
    final.inner.closed = true ∧ final.session.closer = pool.session.closer ∧
      final.session.closer ≠ .done ∧ final.session.aborted = pool.session.aborted ∧
      ∀ other, ¬ (final.tasks other).Closes := by
  rcases wellConducted_of_reachable fresh reached with ⟨conducts, well⟩
  have claimed := well.claimed_of_closes closes
  have transition : DropTransition protocol pool (.drop task) next :=
    dropTransition_of_step dropped
  cases transition with
  | drops =>
      have abandoned : ClosedBy protocol (fun _ => False) (pool.dropTask task) := by
        refine ⟨well.taken task (.inl claimed), _, well.drops task, ?_⟩
        intro other taken
        by_cases own : other = task
        · rw [own, Function.update_self] at taken
          exact taken.claims rfl
        · rw [Function.update_of_ne own] at taken
          exact own (well.single other task taken (.inl claimed))
      have stuck : ClosedBy protocol (fun _ => False) final ∧
          final.session.closer = pool.session.closer ∧
          final.session.aborted = pool.session.aborted := by
        refine @Machine.run_preserves _ _ _ (fun reached =>
          ClosedBy protocol (fun _ => False) reached ∧
            reached.session.closer = pool.session.closer ∧
            reached.session.aborted = pool.session.aborted) ?_ _ _ _ ⟨abandoned, rfl, rfl⟩ ran
        intro current action next before stepped
        rcases before.1.closer_step stepped with ⟨sameCloser, sameFlag⟩
        exact ⟨before.1.step stepped, sameCloser.trans before.2.1, sameFlag.trans before.2.2⟩
      refine ⟨stuck.1.1, stuck.2.1, ?_, stuck.2.2, fun other => stuck.1.closes⟩
      rw [stuck.2.1]
      exact well.unfinished task claimed

theorem dropped_close_stays_undone_second :
    ∃ pool next final, (droppingMachine Protocol.sample spawn none 0).run
        (droppingMachine Protocol.sample spawn none 0).initial
        (.act (.start 0 .close) :: List.replicate 5 (.act (.perform 0 .any)) ++
          [.act (.close 0 .closeStore)]) = some pool ∧
      (droppingMachine Protocol.sample spawn none 0).step pool (.drop 0) = some next ∧
      (droppingMachine Protocol.sample spawn none 0).run next
        (.act (.start 1 .close) :: List.replicate 3 (.act (.perform 1 .any))) = some final ∧
      final.session.aborted = false ∧ final.session.closer ≠ .done := by
  have ran : ∃ pool next final, (droppingMachine Protocol.sample spawn none 0).run
        (droppingMachine Protocol.sample spawn none 0).initial
        (.act (.start 0 .close) :: List.replicate 5 (.act (.perform 0 .any)) ++
          [.act (.close 0 .closeStore)]) = some pool ∧
      (droppingMachine Protocol.sample spawn none 0).step pool (.drop 0) = some next ∧
      (droppingMachine Protocol.sample spawn none 0).run next
        (.act (.start 1 .close) :: List.replicate 3 (.act (.perform 1 .any))) = some final ∧
      (pool.tasks 0).Closes ∧ pool.session.aborted = false :=
    ⟨_, _, _, rfl, rfl, rfl, trivial, rfl⟩
  rcases ran with ⟨pool, next, final, ran, dropped, more, closes, going⟩
  have undone := dropped_close_stays_undone rfl (.run .initial ran) closes dropped more
  exact ⟨pool, next, final, ran, dropped, more, undone.2.2.2.1.trans going, undone.2.2.1⟩

end Runs

end Pools

end DongloraClient.Dongle
