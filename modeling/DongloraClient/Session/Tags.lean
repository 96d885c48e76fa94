import DongloraClient.Session.Shutdown

/-! # Tags and slots

The pending map is keyed by tags and every access to it is blind: a registration
overwrites what is there and a cleanup removes what is there. Whether that is
harmless depends on who else holds the tag. A 16-bit counter hands tags out, so
a long enough run hands the same tag out again.
-/

namespace DongloraClient.Session

open Foundation

variable {types : WireTypes} {protocol : Protocol types}

/-! ## The tags of calls -/

def Phase.tag : Phase types → Option UInt16
  | .idle => none
  | .opened _ => none
  | .tagged _ tag => some tag
  | .writing _ tag => some tag
  | .waiting _ tag => some tag
  | .cleaning _ tag _ => some tag
  | .returned _ tag _ => tag

def Phase.isReturned : Phase types → Bool
  | .returned _ _ _ => true
  | _ => false

theorem Phase.tag_of_registration {phase : Phase types} {tag : UInt16} {cmdType : UInt8}
    (registered : phase.registration = some (tag, cmdType)) : phase.tag = some tag := by
  cases phase with
  | returned request given result =>
      cases given with
      | none => cases registered
      | some given =>
          simp only [Phase.registration, Option.map_some, Option.some.injEq,
            Prod.mk.injEq] at registered
          simp [Phase.tag, registered.1]
  | _ => simp_all [Phase.registration, Phase.tag]

theorem Advance.tag {state : State types} {call : CallId} {action : Action}
    {before after : Phase types}
    (advances : Advance protocol state call action before after) :
    after.tag = before.tag ∧ before.isReturned = false := by
  cases advances <;> exact ⟨rfl, rfl⟩

theorem Transition.tag {state next : State types} {action : Action}
    (transition : Transition protocol state action next) (call : CallId) :
    ((next.calls call).tag = (state.calls call).tag ∧
      ((state.calls call).isReturned = true → (next.calls call).isReturned = true)) ∨
    (action = .allocTag call ∧ (next.calls call).tag = some state.nextTag) := by
  cases transition.callStep call with
  | keeps same =>
      rw [same]
      exact .inl ⟨rfl, id⟩
  | advance current reached advances =>
      rw [current, reached, advances.tag.1, advances.tag.2]
      exact .inl ⟨rfl, nofun⟩
  | allocTag _ reached =>
      rw [reached]
      exact .inr ⟨rfl, rfl⟩
  | register current reached _ _ =>
      rw [current, reached]
      exact .inl ⟨rfl, id⟩
  | cleanup current reached =>
      rw [current, reached]
      exact .inl ⟨rfl, fun _ => rfl⟩

/-- A call holds its tag until it returns; counting `everUsed`, also after. -/
def Phase.Occupies (phase : Phase types) (everUsed : Bool) (tag : UInt16) : Prop :=
  phase.tag = some tag ∧ (everUsed = true ∨ phase.isReturned = false)

/-- No allocation hands out a tag that some call occupies. -/
def FreshTags (everUsed : Bool) (state : State types) (action : Action) : Prop :=
  ∀ call, action = .allocTag call →
    ∀ other, ¬ (state.calls other).Occupies everUsed state.nextTag

def TagsApart (everUsed : Bool) (state : State types) : Prop :=
  ∀ call other tag, (state.calls call).Occupies everUsed tag →
    (state.calls other).Occupies everUsed tag → call = other

theorem TagsApart.step {everUsed : Bool} {state next : State types} {action : Action}
    (apart : TagsApart everUsed state) (fresh : FreshTags everUsed state action)
    (transition : Transition protocol state action next) : TagsApart everUsed next := by
  have earlier : ∀ {call tag}, (next.calls call).Occupies everUsed tag →
      (state.calls call).Occupies everUsed tag ∨
        (action = .allocTag call ∧ tag = state.nextTag) := by
    intro call tag occupies
    rcases transition.tag call with ⟨same, stays⟩ | ⟨allocates, given⟩
    · refine .inl ⟨same ▸ occupies.1, ?_⟩
      rcases occupies.2 with counted | unreturned
      · exact .inl counted
      · refine .inr ?_
        by_contra returned
        rw [stays (by simpa using returned)] at unreturned
        cases unreturned
    · have given' := occupies.1
      rw [given] at given'
      exact .inr ⟨allocates, (Option.some.inj given').symm⟩
  intro call other tag occupies alsoOccupies
  rcases earlier occupies with before | ⟨allocates, given⟩
  · rcases earlier alsoOccupies with alsoBefore | ⟨allocates, given⟩
    · exact apart call other tag before alsoBefore
    · exact absurd (given ▸ before) (fresh other allocates call)
  · rcases earlier alsoOccupies with alsoBefore | ⟨alsoAllocates, _⟩
    · exact absurd (given ▸ alsoBefore) (fresh call allocates other)
    · rw [allocates] at alsoAllocates
      exact Action.allocTag.inj alsoAllocates

theorem tagsApart_of_reachable {everUsed : Bool} {state : State types}
    {allowed : State types → Action → Prop}
    (reached : (machine protocol).ReachableBy allowed state)
    (fresh : ∀ current action, allowed current action →
      FreshTags everUsed current action) : TagsApart everUsed state := by
  apply reached.invariant
  · intro call other tag occupies
    simp [machine, spawn, Phase.Occupies, Phase.tag] at occupies
  · intro current action next apart permitted stepped
    exact apart.step (fresh current action permitted) (transition_of_step protocol stepped)

/-! ## Leaked slots -/

/-- A re-insert puts back the slot of a call that has not returned. -/
def ReinsertsLive (state : State types) (action : Action) : Prop :=
  action = .readerReinsert → ∀ tag slot, state.reader.hand = some (tag, slot) →
    (state.calls slot.waker).isReturned = false

instance (state : State types) (action : Action) :
    Decidable (ReinsertsLive state action) :=
  if reinserts : action = .readerReinsert then
    match held : state.reader.hand with
    | none => .isTrue (by simp [ReinsertsLive, held])
    | some (_, slot) =>
        decidable_of_iff ((state.calls slot.waker).isReturned = false)
          (by simp [ReinsertsLive, held, reinserts])
  else .isTrue fun same => absurd same reinserts

def State.NoLeak (state : State types) : Prop :=
  ∀ call request tag result, state.calls call = .returned request (some tag) result →
    state.pending.lookup tag = none

def State.EntriesLive (state : State types) : Prop :=
  ∀ tag slot, state.pending.lookup tag = some slot →
    (state.calls slot.waker).isReturned = false

theorem EntriesLive.step {state next : State types} {action : Action}
    (live : state.EntriesLive) (owned : Owned state) (channeled : Channeled state)
    (reinserts : ReinsertsLive state action)
    (transition : Transition protocol state action next) : next.EntriesLive := by
  intro tag slot found
  cases transition with
  | @advance action call before after current advances =>
      have unreturned := live tag slot found
      by_cases own : slot.waker = call
      · subst own
        have registered := owned.owner tag slot (.inl found)
        have unsent := channeled.unsent tag slot (.inl found)
        cases advances with
        | refuse | accept => simp [current, Phase.registration] at registered
        | received response filled => simp [unsent] at filled
        | _ => simp [State.setPhase, Phase.isReturned]
      · simpa [State.setPhase, own] using unreturned
  | allocTag call current =>
      by_cases own : slot.waker = call
      · subst own
        simp [State.setPhase, Phase.isReturned]
      · simpa [State.setPhase, own] using live tag slot found
  | register call current =>
      rcases lookup_insert_eq_some.mp found with ⟨_, rfl⟩ | ⟨_, found⟩
      · simp [State.record, State.setPhase, Phase.isReturned]
      · by_cases own : slot.waker = call
        · subst own
          simp [State.record, State.setPhase, Phase.isReturned]
        · simpa [State.record, State.setPhase, State.insertSlot, own] using
            live tag slot found
  | cleanup call current =>
      rcases lookup_erase_eq_some.mp found with ⟨different, before⟩
      have notOwn : slot.waker ≠ call := by
        rintro rfl
        -- The entry of the cleaning call is the one it removes.
        have registered := owned.owner tag slot (.inl before)
        simp only [current, Phase.registration, Option.some.injEq,
          Prod.mk.injEq] at registered
        exact different registered.1.symm
      simpa [State.setPhase, State.removeSlot, notOwn] using live tag slot before
  | reinsert current =>
      rcases lookup_insert_eq_some.mp found with ⟨rfl, rfl⟩ | ⟨_, found⟩
      · have held := reinserts rfl tag slot (by rw [current]; rfl)
        simpa [State.insertSlot] using held
      · simpa [State.insertSlot] using live tag slot found
  | absorbed | resolved => exact live tag slot (lookup_erase_eq_some.mp found).2
  | readerDrain | closeDrain => simp [State.drain] at found
  | readerStop =>
      have before := live tag slot (by simpa using found)
      simpa using before
  | _ => exact live tag slot found

theorem entriesLive_of_reachable {allowed : State types → Action → Prop}
    {state : State types} (reached : (machine protocol).ReachableBy allowed state)
    (reinserts : ∀ current action, allowed current action →
      ReinsertsLive current action) : state.EntriesLive := by
  have all : Owned state ∧ Channeled state ∧ state.EntriesLive := by
    apply reached.invariant
    · exact ⟨.spawn, .spawn, by simp [State.EntriesLive, machine, spawn]⟩
    · intro current action next holds permitted stepped
      rcases holds with ⟨owned, channeled, live⟩
      have transition := transition_of_step protocol stepped
      exact ⟨owned.step transition, channeled.step owned transition,
        EntriesLive.step live owned channeled (reinserts _ _ permitted) transition⟩
  exact all.2.2

/-- With tags never reused, and re-inserts only for calls in progress, the keys
of the pending map are tags of calls in progress. A re-insert for a returned call
leaks the slot. -/
theorem no_leaked_slots :
    (∀ state : State types,
      (machine protocol).ReachableBy (fun current action =>
        FreshTags true current action ∧ ReinsertsLive current action) state →
      state.NoLeak ∧ state.EntriesLive) ∧
    (∀ state next : State types, (machine protocol).Reachable state →
      (machine protocol).step state .readerReinsert = some next →
      ¬ ReinsertsLive state .readerReinsert → ¬ next.NoLeak) := by
  constructor
  · intro state reached
    have apart : TagsApart true state :=
      tagsApart_of_reachable reached fun _ _ permitted => permitted.1
    have live := entriesLive_of_reachable reached fun _ _ permitted => permitted.2
    refine ⟨?_, live⟩
    intro call request tag result returned
    by_contra present
    rcases Option.ne_none_iff_exists'.mp present with ⟨slot, found⟩
    have registered := (owned_of_reachable reached).owner tag slot (.inl found)
    have same : slot.waker = call := by
      apply apart slot.waker call tag
      · exact ⟨Phase.tag_of_registration registered, .inl rfl⟩
      · exact ⟨by rw [returned]; rfl, .inl rfl⟩
    have unreturned := live tag slot found
    rw [same, returned] at unreturned
    cases unreturned
  · intro state next reached stepped violated noLeak
    cases transition_of_step protocol stepped with
    | advance _ _ advances => cases advances
    | readerMoves _ moves => cases moves
    | @reinsert tag slot works current =>
        have held : state.reader.hand = some (tag, slot) := by
          rw [current]
          rfl
        have returned : (state.calls slot.waker).isReturned = true := by
          by_contra unreturned
          apply violated
          intro _ other twin alsoHeld
          rw [held] at alsoHeld
          cases alsoHeld
          simpa using unreturned
        have registered := (owned_of_reachable reached).owner tag slot (.inr held)
        cases phase : state.calls slot.waker with
        | returned request given result =>
            rw [phase] at registered
            have given' := Phase.tag_of_registration registered
            cases given'
            have absent := noLeak slot.waker request tag result
              (by simpa [State.insertSlot] using phase)
            simp [State.insertSlot] at absent
        | _ => simp [phase, Phase.isReturned] at returned

/-! Runs of one command: the tag it gets is the first one handed out. -/

def Action.allocates : Action → Bool
  | .allocTag _ => true
  | _ => false

theorem freshTags_of_untagged {everUsed : Bool} {state : State types} (action : Action)
    (untagged : ∀ call, (state.calls call).tag = none) :
    FreshTags everUsed state action := by
  intro _ _ other occupies
  rw [Phase.Occupies, untagged other] at occupies
  cases occupies.1

theorem allows_freshTags {everUsed : Bool} (state : State types) {actions : List Action}
    (others : ∀ action ∈ actions, action.allocates = false) :
    (machine protocol).Allows (FreshTags everUsed) state actions := by
  apply Machine.allows_of_always
  rintro action member current call rfl
  cases others _ member

def answeredTx : List Action :=
  [.begin 0 ⟨4, [0, 7]⟩, .allocTag 0, .register 0, .write 0 none, .readerCheck,
    .readerRead [.ok ⟨128, 1, []⟩, .ok ⟨193, 1, [0, 9, 0, 0, 0]⟩], .readerDispatch,
    .readerReinsert, .readerDispatch, .receive 0]

theorem no_leaked_slots_answeredTx :
    ∃ state, (machine Protocol.sample).run spawn answeredTx = some state ∧
      state.calls 0 = .returned ⟨4, [0, 7]⟩ (some 1)
        (.ok (.txDone ⟨.transmitted, 9⟩)) ∧ state.NoLeak := by
  have permitted : (machine Protocol.sample).Allows (fun current action =>
      FreshTags true current action ∧ ReinsertsLive current action) spawn answeredTx := by
    apply Machine.Allows.and
    · have first : (machine Protocol.sample).Allows (FreshTags true) spawn answeredTx :=
        And.intro (freshTags_of_untagged _ fun _ => rfl)
          (And.intro (freshTags_of_untagged _ fun call => by cases call <;> rfl)
            (allows_freshTags _ (by decide)))
      exact first
    · decide
  exact ⟨_, rfl, rfl, (no_leaked_slots.1 _ (.run .initial permitted rfl)).1⟩

/-- The timeout of a `TX` falls between the two lock acquisitions with which
dispatch puts its slot back. -/
def timeoutDuringReinsert : List Action :=
  [.begin 0 ⟨4, [0, 7]⟩, .allocTag 0, .register 0, .write 0 none, .readerCheck,
    .readerRead [.ok ⟨128, 1, []⟩], .readerDispatch, .timeout 0, .cleanup 0,
    .readerReinsert]

theorem timeoutDuringReinsert_leaks :
    ¬ ∀ state, (machine Protocol.sample).ReachableBy (FreshTags true) state →
      state.NoLeak := by
  intro always
  have permitted : (machine Protocol.sample).Allows (FreshTags true) spawn
      timeoutDuringReinsert := by
    exact And.intro (freshTags_of_untagged _ fun _ => rfl)
      (And.intro (freshTags_of_untagged _ fun call => by cases call <;> rfl)
        (allows_freshTags _ (by decide)))
  have ran : ∃ state,
      (machine Protocol.sample).run spawn timeoutDuringReinsert = some state ∧
      (∃ request result, state.calls 0 = .returned request (some 1) result) ∧
      state.pending.lookup 1 = some ⟨4, 0⟩ :=
    ⟨_, rfl, ⟨_, _, rfl⟩, rfl⟩
  rcases ran with ⟨state, ran, ⟨request, result, returned⟩, found⟩
  have absent := always state (.run .initial permitted ran) 0 request 1 result returned
  rw [found] at absent
  cases absent

/-! ## Wrap-around -/

/-- The step of `call` leaves every entry of another unreturned call in place. -/
def Undisturbed (state next : State types) (call : CallId) : Prop :=
  ∀ tag slot, state.pending.lookup tag = some slot → slot.waker ≠ call →
    (state.calls slot.waker).isReturned = false →
    next.pending.lookup tag = some slot

/-- As long as no tag is handed out that an unreturned call still holds, no step
of a call touches the entry of another one. -/
theorem calls_leave_others_undisturbed {state next : State types} {action : Action}
    {call : CallId} (reached : (machine protocol).ReachableBy (FreshTags false) state)
    (stepped : (machine protocol).step state action = some next)
    (steps : action.task = .call call) : Undisturbed state next call := by
  have apart : TagsApart false state := tagsApart_of_reachable reached fun _ _ fresh => fresh
  have owned := owned_of_reachable reached
  -- The blind accesses are by the tag of the stepping call, which is its own.
  have otherTag : ∀ {tag own slot}, (state.calls call).tag = some own →
      (state.calls call).isReturned = false → state.pending.lookup tag = some slot →
      slot.waker ≠ call → (state.calls slot.waker).isReturned = false → tag ≠ own := by
    rintro tag own slot given running found different unreturned rfl
    apply different
    apply apart slot.waker call tag
    · exact ⟨Phase.tag_of_registration (owned.owner tag slot (.inl found)), .inr unreturned⟩
    · exact ⟨given, .inr running⟩
  intro tag slot found different unreturned
  cases transition_of_step protocol stepped with
  | advance | allocTag => exact found
  | register registering current =>
      cases steps
      refine lookup_insert_eq_some.mpr (.inr ⟨?_, found⟩)
      exact otherTag (by rw [current]; rfl) (by rw [current]; rfl) found different unreturned
  | cleanup cleaning current =>
      cases steps
      refine lookup_erase_eq_some.mpr ⟨?_, found⟩
      exact otherTag (by rw [current]; rfl) (by rw [current]; rfl) found different unreturned
  | readerMoves current moves => cases moves <;> cases steps
  | _ => cases steps

def twoPings : List Action :=
  [.begin 0 ⟨1, []⟩, .allocTag 0, .register 0, .begin 1 ⟨1, []⟩, .allocTag 1]

theorem calls_leave_others_undisturbed_twoPings :
    ∃ state next, (machine Protocol.sample).run spawn twoPings = some state ∧
      (machine Protocol.sample).step state (.register 1) = some next ∧
      state.pending.lookup 1 = some ⟨1, 0⟩ ∧ Undisturbed state next 1 := by
  have permitted : (machine Protocol.sample).Allows (FreshTags false) spawn twoPings := by
    refine And.intro (freshTags_of_untagged _ fun _ => rfl)
      (And.intro (freshTags_of_untagged _ fun call => by cases call <;> rfl)
        (And.intro ?_ (And.intro ?_ (And.intro ?_ trivial))))
    · intro call allocates
      cases allocates
    · intro call allocates
      cases allocates
    · intro call _ other occupies
      match other with
      | 0 => exact absurd occupies.1 (by decide)
      | 1 => cases occupies.1
      | other + 2 => cases occupies.1
  have steps : (Action.register 1).task = .call 1 := rfl
  exact ⟨_, _, rfl, rfl, rfl,
    calls_leave_others_undisturbed (.run .initial permitted rfl) rfl steps⟩

/-! Wrapping the counter: one call waits on tag 1 while 65534 others, whose writes
fail, use up the remaining tags. -/

structure Lapped (others : Nat) (state : State WireTypes.sample) : Prop where
  reached : (machine Protocol.sample).Reachable state
  opened : state.closed = false
  waiting : state.calls 0 = .waiting ⟨1, []⟩ 1
  entry : state.pending.lookup 1 = some ⟨1, 0⟩
  unused : ∀ call, others < call → state.calls call = .idle

theorem lapped_zero : ∃ state, Lapped 0 state ∧ state.nextTag = 2 := by
  have ran : ∃ state, (machine Protocol.sample).run spawn
      [.begin 0 ⟨1, []⟩, .allocTag 0, .register 0, .write 0 none] = some state ∧
      state.closed = false ∧ state.calls 0 = .waiting ⟨1, []⟩ 1 ∧
      state.pending.lookup 1 = some ⟨1, 0⟩ ∧
      (∀ call, 0 < call → state.calls call = .idle) ∧ state.nextTag = 2 := by
    refine ⟨_, rfl, rfl, rfl, rfl, ?_, rfl⟩
    intro call later
    have different : call ≠ 0 := Nat.ne_of_gt later
    simp [State.setPhase, State.record, State.insertSlot, different, spawn]
  rcases ran with ⟨state, ran, opened, waiting, entry, unused, next⟩
  exact ⟨state, ⟨.run .initial ran, opened, waiting, entry, unused⟩, next⟩

def failedPing (call : CallId) : List Action :=
  [.begin call ⟨1, []⟩, .allocTag call, .register call,
    .write call (some "broken pipe"), .cleanup call]

theorem run_failedPing {state : State WireTypes.sample} {call : CallId}
    (idle : state.calls call = .idle) (opened : state.closed = false) :
    ∃ next, (machine Protocol.sample).run state (failedPing call) = some next ∧
      next.closed = false ∧ next.nextTag = advanceTag state.nextTag ∧
      (∀ tag, tag ≠ state.nextTag →
        next.pending.lookup tag = state.pending.lookup tag) ∧
      ∀ other, other ≠ call → next.calls other = state.calls other := by
  let admitted := state.setPhase call (.opened ⟨1, []⟩)
  let given : State WireTypes.sample :=
    { admitted.setPhase call (.tagged ⟨1, []⟩ state.nextTag) with
      nextTag := advanceTag state.nextTag }
  let registered := ((given.insertSlot state.nextTag ⟨1, call⟩).setPhase call
    (.writing ⟨1, []⟩ state.nextTag)).record (.registered call state.nextTag 1)
  let failed := registered.setPhase call
    (.cleaning ⟨1, []⟩ state.nextTag (.io "broken pipe"))
  let final := (failed.removeSlot state.nextTag).setPhase call
    (.returned ⟨1, []⟩ (some state.nextTag) (.error (.io "broken pipe")))
  have begins : (machine Protocol.sample).step state (.begin call ⟨1, []⟩) =
      some admitted := by
    simp [machine, step, Action.task, stepCall, idle, opened, admitted]
  have allocates : (machine Protocol.sample).step admitted (.allocTag call) =
      some given := by
    simp [machine, step, Action.task, stepCall, given, admitted, State.setPhase]
  have registers : (machine Protocol.sample).step given (.register call) =
      some registered := by
    simp [machine, step, Action.task, stepCall, registered, given, State.setPhase]
  have encodes : ∃ frame, Protocol.sample.encodeFrame 1 state.nextTag [] = .ok frame :=
    ⟨_, rfl⟩
  rcases encodes with ⟨frame, encodes⟩
  have fails : (machine Protocol.sample).step registered
      (.write call (some "broken pipe")) = some failed := by
    simp [machine, step, Action.task, stepCall, failed, registered, State.setPhase,
      State.record, encodes]
  have cleans : (machine Protocol.sample).step failed (.cleanup call) = some final := by
    simp [machine, step, Action.task, stepCall, final, failed, State.setPhase]
  have ran : (machine Protocol.sample).run state (failedPing call) = some final := by
    simp only [failedPing, Machine.run_cons, Machine.run_nil, begins, allocates,
      registers, fails, cleans, Option.bind_some]
  refine ⟨final, ran, ?_, ?_, ?_, ?_⟩
  · simp [final, failed, registered, given, admitted, State.setPhase, State.record,
      State.removeSlot, State.insertSlot, opened]
  · simp [final, failed, registered, given, State.setPhase, State.record,
      State.removeSlot, State.insertSlot]
  · intro tag different
    simp [final, failed, registered, given, admitted, State.setPhase, State.record,
      State.removeSlot, State.insertSlot, AList.lookup_erase_ne different,
      AList.lookup_insert_ne different]
  · intro other different
    simp [final, failed, registered, given, admitted, State.setPhase, State.record,
      State.removeSlot, State.insertSlot, different]

theorem Lapped.next {others : Nat} {state : State WireTypes.sample}
    (lapped : Lapped others state) (different : state.nextTag ≠ 1) :
    ∃ next, Lapped (others + 1) next ∧ next.nextTag = advanceTag state.nextTag := by
  have idle := lapped.unused (others + 1) (Nat.lt_succ_self others)
  rcases run_failedPing idle lapped.opened with
    ⟨next, ran, opened, nextTag, entries, otherCalls⟩
  refine ⟨next, ⟨lapped.reached.run ran, opened, ?_, ?_, ?_⟩, nextTag⟩
  · rw [otherCalls 0 (Nat.succ_ne_zero others).symm]
    exact lapped.waiting
  · rw [entries 1 (Ne.symm different)]
    exact lapped.entry
  · intro call later
    rw [otherCalls call (Nat.ne_of_gt later)]
    exact lapped.unused call (Nat.lt_of_succ_lt later)

theorem lapped_of_le (others : Nat) (small : others ≤ 65533) :
    ∃ state, Lapped others state ∧ state.nextTag.toNat = others + 2 := by
  induction others with
  | zero =>
      rcases lapped_zero with ⟨state, lapped, next⟩
      exact ⟨state, lapped, by rw [next]; rfl⟩
  | succ others induction =>
      rcases induction (by omega) with ⟨state, lapped, next⟩
      have different : state.nextTag ≠ 1 := by
        intro same
        simp [same] at next
      rcases lapped.next different with ⟨final, lappedNext, advanced⟩
      refine ⟨final, lappedNext, ?_⟩
      have bumped : (state.nextTag + 1).toNat = others + 3 := by
        rw [UInt16.toNat_add, next, UInt16.toNat_one]
        exact Nat.mod_eq_of_lt (by omega)
      have nonzero : state.nextTag + 1 ≠ 0 := by
        intro zero
        simp [zero] at bumped
      rw [advanced, advanceTag, if_neg nonzero, bumped]

theorem wrapped_registration_overwrites :
    ¬ ∀ state next : State WireTypes.sample, ∀ action call,
      (machine Protocol.sample).Reachable state →
      (machine Protocol.sample).step state action = some next →
      action.task = .call call → Undisturbed state next call := by
  intro always
  rcases lapped_of_le 65533 (Nat.le_refl _) with ⟨last, lapped, lastTag⟩
  have different : last.nextTag ≠ 1 := by
    intro same
    simp [same] at lastTag
  rcases lapped.next different with ⟨state, wrapped, advanced⟩
  have nextTag : state.nextTag = 1 := by
    have zero : last.nextTag + 1 = 0 := by
      apply UInt16.toNat_inj.mp
      rw [UInt16.toNat_add, lastTag]
      rfl
    rw [advanced, advanceTag, if_pos zero]
  let call : CallId := 65535
  have idle : state.calls call = .idle := wrapped.unused call (by decide)
  let given : State WireTypes.sample :=
    { (state.setPhase call (.opened ⟨1, []⟩)).setPhase call (.tagged ⟨1, []⟩ 1) with
      nextTag := advanceTag 1 }
  have ran : (machine Protocol.sample).run state [.begin call ⟨1, []⟩, .allocTag call] =
      some given := by
    simp [machine, step, Action.task, stepCall, idle, wrapped.opened, given,
      State.setPhase, nextTag]
  let next := ((given.insertSlot 1 ⟨1, call⟩).setPhase call
    (.writing ⟨1, []⟩ 1)).record (.registered call 1 1)
  have registers : (machine Protocol.sample).step given (.register call) = some next := by
    simp [machine, step, Action.task, stepCall, next, given, State.setPhase]
  have waiting : given.calls 0 = .waiting ⟨1, []⟩ 1 := by
    simpa [given, State.setPhase, call] using wrapped.waiting
  have kept := always given next (.register call) call (wrapped.reached.run ran) registers rfl
    1 ⟨1, 0⟩ wrapped.entry (by decide) (by rw [waiting]; rfl)
  simp [next, State.record, State.setPhase, State.insertSlot, call] at kept

end DongloraClient.Session
