import DongloraClient.Dongle.Deadlock
import DongloraClient.Foundation.Rest

/-! # The client comes to rest

With every mutex in its place, the calls of a dongle, the turns of its keepalive and those
of its reader always get to where nothing moves any more, and then little is left of them:
every wait of a command has a timeout, but the wait for the receiver's mutex has none, and
`next_rx` keeps that mutex until there is a packet.
-/

namespace DongloraClient.Dongle

open Foundation Session Routines

variable {types : WireTypes} {protocol : Protocol types}

abbrev ClientCrew (types : WireTypes) := Locks.Crew (Access types) Access.Answer Unit Mutex

abbrev ClientAction (types : WireTypes) :=
  Locks.CrewAction (Access types) Access.Answer (Job types)

/-- What may stay without an answer for ever. A transport that is `blocked` neither takes
nor refuses what is written. -/
def Stalls (blocked : Bool) : Access types → Prop
  | .read => True
  | .recv none => True
  | .own .panic => True
  | .writeAll _ => blocked = true
  | .flush => blocked = true
  | _ => False

theorem Stalls.cases {access : Access types} (stalls : Stalls false access) :
    access = .read ∨ access = .own .panic ∨ access = .recv none := by
  rw [Stalls.eq_def] at stalls
  split at stalls
  · exact .inl rfl
  · exact .inr (.inr rfl)
  · exact .inr (.inl rfl)
  · cases stalls
  · cases stalls
  · exact stalls.elim

def StandsAt (crew : ClientCrew types) (task : Nat) (access : Access types) : Prop :=
  ∃ rest, crew.tasks task = some (.perform access rest)

inductive LeftOver (protocol : Protocol types) (actions : List (ClientAction types))
    (crew : ClientCrew types) (task : Nat) : Job types → Prop
  | returned {job : Job types} (done : crew.tasks task = some (.done ())) :
      LeftOver protocol actions crew task job
  | reading (reads : StandsAt crew task .read) : LeftOver protocol actions crew task .readerTurn
  | panicked {call : Call types} (oversize : call.oversize protocol)
      (panics : StandsAt crew task (.own .panic)) :
      LeftOver protocol actions crew task (.operation call)
  | waiting (waits : StandsAt crew task (.recv none)) :
      LeftOver protocol actions crew task (.operation .nextRx)
  | behind {job : Job types} {first : Nat}
      (receives : job = .operation .nextRx ∨ ∃ timeout, job = .operation (.recv timeout))
      (locks : StandsAt crew task (.lock .rxRx)) (holds : crew.holders .rxRx = some first)
      (named : Locks.named actions first = some (.operation .nextRx))
      (waits : StandsAt crew first (.recv none)) : LeftOver protocol actions crew task job

section Rest

variable {actions : List (ClientAction types)} {crew : ClientCrew types} {task : Nat}

theorem mutexRank_lt (mutex : Mutex) : mutexRank mutex < 2 := by
  cases mutex <;> decide

section Standing

variable (ran : (clientMachine protocol).run (clientMachine protocol).initial actions = some crew)

include ran in
theorem keeping_of_run (task : Nat) :
    ∃ held, Locks.Keeping accessUse (Locks.InOrder accessUse mutexRank) crew task held :=
  Locks.keeping_of_reachable (fun _ _ ordered => ordered) (disciplined_routine protocol)
    (.run .initial ran) task

include ran in
theorem suits_of_running {access : Access types} {rest : access.Answer → Routine types Unit}
    (running : crew.tasks task = some (.perform access rest)) :
    ∃ job held, Locks.named actions task = some job ∧
      (∀ mutex, crew.holders mutex = some task ↔ mutex ∈ held) ∧
      job.Suits protocol held access := by
  rcases Locks.placed_of_run (fun _ _ ordered => ordered) (disciplined_routine protocol) ran
    task with ⟨held, keeps, came⟩
  rcases came _ running with ⟨job, isNamed, reached⟩
  have permitted := ((tidy_routine protocol job).runs reached).1
  exact ⟨job, held, isNamed, keeps.holds, permitted.2⟩

include ran in
/-- With a transport that is not blocked, only a `next_rx` stalls with a mutex of its own. -/
theorem stalled_holder {access : Access types} {rest : access.Answer → Routine types Unit}
    {mutex : Mutex} (running : crew.tasks task = some (.perform access rest))
    (stalls : Stalls false access) (holds : crew.holders mutex = some task) :
    mutex = .rxRx ∧ Locks.named actions task = some (.operation .nextRx) ∧
      StandsAt crew task (.recv none) := by
  rcases suits_of_running ran running with ⟨job, held, isNamed, holding, suits⟩
  have member := (holding mutex).mp holds
  rcases stalls.cases with rfl | rfl | rfl
  · rw [suits.2] at member
    cases member
  · rw [suits.2] at member
    cases member
  · rcases suits with ⟨rfl, rfl⟩
    exact ⟨List.mem_singleton.mp member, isNamed, rest, running⟩

include ran in
theorem leftOver_of_stalled {access : Access types} {rest : access.Answer → Routine types Unit}
    (running : crew.tasks task = some (.perform access rest)) (stalls : Stalls false access) :
    ∃ job, Locks.named actions task = some job ∧ LeftOver protocol actions crew task job := by
  rcases suits_of_running ran running with ⟨job, held, isNamed, _, suits⟩
  refine ⟨job, isNamed, ?_⟩
  rcases stalls.cases with rfl | rfl | rfl
  · rcases suits with ⟨rfl, _⟩
    exact .reading ⟨rest, running⟩
  · rcases suits with ⟨⟨call, rfl, oversize⟩, _⟩
    exact .panicked oversize ⟨rest, running⟩
  · rcases suits with ⟨rfl, _⟩
    exact .waiting ⟨rest, running⟩

include ran in
/-- A chain of waiting tasks has at most one link: whoever waits for the mutex of a
`next_rx` has none itself. -/
theorem leftOver_of_chain {last : Nat} {stalling : Access types}
    {later : stalling.Answer → Routine types Unit}
    (chain : Relation.ReflTransGen (crew.WaitsFor accessUse) task last)
    (stands : crew.tasks last = some (.perform stalling later))
    (stalls : Stalls false stalling) :
    ∃ job, Locks.named actions task = some job ∧ LeftOver protocol actions crew task job := by
  rcases chain.cases_tail with rfl | ⟨waiter, earlier, waits⟩
  · exact leftOver_of_stalled ran stands stalls
  · rcases waits with ⟨access, rest, mutex, running, wants, holds⟩
    rcases stalled_holder ran stands stalls holds with ⟨rfl, isNext, receives⟩
    have locks : access = .lock .rxRx := by
      cases access with
      | lock mutex =>
          cases wants
          rfl
      | _ => cases wants
    subst locks
    rcases suits_of_running ran running with ⟨job, held, isNamed, holding, mayReceive, rfl⟩
    rcases earlier.cases_tail with rfl | ⟨other, _, _, _, further, _, _, alsoHolds⟩
    · exact ⟨job, isNamed, .behind mayReceive ⟨rest, running⟩ holds isNext receives⟩
    · cases (holding further).mp alsoHolds

end Standing

/-- The client comes to rest. Without new calls and turns no run goes on for ever; when
nothing moves any more, whoever has not returned waits, from one holder of a mutex to the
next, for something that never comes; and if the transport is not blocked, that is the
reader, a panic, a `next_rx` without a packet, or a `recv` or `next_rx` that such a
`next_rx` keeps from the receiver. -/
theorem client_comes_to_rest
    (ran : (clientMachine protocol).run (clientMachine protocol).initial actions = some crew) :
    (∀ crews : Nat → ClientCrew types, crews 0 = crew →
      ¬ ∀ time, Locks.Moves accessUse (Job.routine protocol) (crews time) (crews (time + 1))) ∧
    (crew.Rests accessUse (Stalls true) → ∀ task access, StandsAt crew task access →
      ∃ last stalling, Relation.ReflTransGen (crew.WaitsFor accessUse) task last ∧
        StandsAt crew last stalling ∧ Stalls true stalling) ∧
    (crew.Rests accessUse (Stalls false) → ∀ task, crew.tasks task ≠ none →
      ∃ job, Locks.named actions task = some job ∧ LeftOver protocol actions crew task job) := by
  have inOrder : ∀ held (access : Access types), Locks.InOrder accessUse mutexRank held access →
      Locks.InOrder accessUse mutexRank held access := fun _ _ ordered => ordered
  have keeping := keeping_of_run ran
  refine ⟨Locks.no_endless_run (.run .initial ran), ?_, ?_⟩
  · rintro rests task access ⟨rest, running⟩
    rcases Locks.chain_to_stalled inOrder keeping mutexRank_lt rests running with
      ⟨last, stalling, later, chain, stands, stalls⟩
    exact ⟨last, stalling, chain, ⟨later, stands⟩, stalls⟩
  · intro rests task started
    rcases Option.ne_none_iff_exists'.mp started with ⟨program, running⟩
    cases program with
    | done value =>
        rcases Locks.placed_of_run inOrder (disciplined_routine protocol) ran task with
          ⟨_, _, came⟩
        rcases came _ running with ⟨job, isNamed, _⟩
        exact ⟨job, isNamed, .returned running⟩
    | perform access rest =>
        rcases Locks.chain_to_stalled inOrder keeping mutexRank_lt rests running with
          ⟨last, stalling, later, chain, stands, stalls⟩
        exact leftOver_of_chain ran chain stands stalls

end Rest

def receivingReply : (access : Access types) → Option access.Answer
  | .own (.load .rxStarted) => some true
  | access => quietReply access

/-- A `recv` with a timeout while a `next_rx` waits for a packet. -/
def hangingRecv : List (ClientAction WireTypes.sample) :=
  .start 0 (.operation .nextRx) :: List.replicate 7 (.perform 0 receivingReply) ++
    .start 1 (.operation (.recv (fromSecs 1))) :: List.replicate 6 (.perform 1 receivingReply)

theorem client_comes_to_rest_hangingRecv :
    ∃ crew, (clientMachine Protocol.sample).run (clientMachine Protocol.sample).initial
        hangingRecv = some crew ∧ crew.Rests accessUse (Stalls false) ∧
      StandsAt crew 1 (.lock .rxRx) ∧
      LeftOver Protocol.sample hangingRecv crew 1 (.operation (.recv (fromSecs 1))) := by
  have ran : ∃ crew, (clientMachine Protocol.sample).run
        (clientMachine Protocol.sample).initial hangingRecv = some crew ∧
      StandsAt crew 0 (.recv none) ∧ StandsAt crew 1 (.lock .rxRx) ∧
      crew.holders .rxRx = some 0 ∧ ∀ task, crew.tasks (task + 2) = none :=
    ⟨_, rfl, ⟨_, rfl⟩, ⟨_, rfl⟩, rfl, fun _ => rfl⟩
  rcases ran with ⟨crew, ran, ⟨_, receiving⟩, ⟨_, locking⟩, held, others⟩
  have rests : crew.Rests accessUse (Stalls false) := by
    intro task access rest running
    rcases task with _ | _ | task
    · cases receiving.symm.trans running
      exact .inl trivial
    · cases locking.symm.trans running
      exact .inr (by simp [Locks.Crew.useLocks, accessUse, held])
    · cases (others task).symm.trans running
  refine ⟨crew, ran, rests, ⟨_, locking⟩, ?_⟩
  have leftOver := (client_comes_to_rest ran).2.2 rests 1 (by simp [locking])
  rcases leftOver with ⟨job, isNamed, left⟩
  cases isNamed
  exact left

end DongloraClient.Dongle
