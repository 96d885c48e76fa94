import DongloraClient.Session.Ownership

/-! # Shutting down: `close` and the reader's exit

Both paths drain the pending map once. A call is then stranded only if its slot
enters the map after that drain, and the two results below say so: as long as no
slot is inserted after the drain, nobody is left waiting on a registered slot.
-/

namespace DongloraClient.Session

variable {types : WireTypes} {protocol : Protocol types}

/-! ## Channels and slots

The channel of a registered call is empty exactly as long as its slot exists. -/

structure Channeled (state : State types) : Prop where
  untouched : ∀ call, (state.calls call).registration = none →
    state.channels call = .empty
  unsent : ∀ tag slot, state.Holds tag slot → state.channels slot.waker = .empty
  awaited : ∀ call tag cmdType,
    (state.calls call).registration = some (tag, cmdType) →
    state.channels call = .empty → state.Holds tag ⟨cmdType, call⟩

theorem Channeled.spawn : Channeled (spawn : State types) := by
  constructor <;> simp [Session.spawn, State.Holds, ReaderPhase.hand, Phase.registration]

section Preservation

variable {state next : State types} {action : Action}

theorem dropWaker_owner {dropped : Option Pending} {slot : Pending}
    (same : dropped = some slot) :
    (state.dropWaker dropped).channels slot.waker ≠ .empty := by
  rw [State.dropWaker_channels, if_pos (by simp [same])]
  exact Oneshot.dropSender_ne_empty _

theorem dropWaker_empty {slot : Option Pending} {call : CallId}
    (empty : (state.dropWaker slot).channels call = .empty) :
    state.channels call = .empty := by
  rw [State.dropWaker_channels] at empty
  split at empty
  · exact absurd empty (Oneshot.dropSender_ne_empty _)
  · exact empty

theorem drain_empty {reason : String} {call : CallId}
    (empty : (state.drain reason).channels call = .empty) :
    state.channels call = .empty ∧
      ∀ tag slot, state.pending.lookup tag = some slot → slot.waker ≠ call := by
  simp only [State.drain] at empty
  split at empty
  · exact absurd empty (Oneshot.send_ne_empty _ _)
  · next nobody =>
    refine ⟨empty, ?_⟩
    intro tag slot found same
    apply nobody
    rw [List.any_eq_true]
    exact ⟨⟨tag, slot⟩, mem_entries_iff_lookup.mpr found, by simp [same]⟩

theorem Transition.channel_empty (transition : Transition protocol state action next)
    {call : CallId} (empty : next.channels call = .empty) :
    state.channels call = .empty := by
  cases transition with
  | register | cleanup | reinsert | readerStop => exact dropWaker_empty empty
  | readerDrain | closeDrain => exact (drain_empty empty).1
  | @resolved frame works slot current nonzero present resolves =>
      have different : call ≠ slot.waker := by
        intro same
        subst same
        simp only [State.deliver, State.recordFrame, Function.update_self] at empty
        exact Oneshot.send_ne_empty _ _ empty
      simpa [State.deliver, State.recordFrame, different] using empty
  | _ => exact empty

/-- A slot is taken away only together with its owner's empty channel. -/
theorem Transition.keeps_slot (transition : Transition protocol state action next)
    {tag : UInt16} {slot : Pending} (holds : state.Holds tag slot)
    (empty : next.channels slot.waker = .empty) : next.Holds tag slot := by
  cases transition with
  | @register other request key current =>
      rcases holds with found | held
      · refine .inl (lookup_insert_eq_some.mpr (.inr ⟨?_, found⟩))
        -- An entry under the same tag is the overwritten one.
        intro same
        subst same
        exact dropWaker_owner found empty
      · exact .inr (by simpa [State.record, State.setPhase, State.insertSlot] using held)
  | @cleanup other request key error current =>
      rcases holds with found | held
      · refine .inl (lookup_erase_eq_some.mpr ⟨?_, found⟩)
        intro same
        subst same
        exact dropWaker_owner found empty
      · exact .inr (by simpa [State.setPhase, State.removeSlot] using held)
  | readerMoves current moves =>
      rcases holds with found | held
      · exact .inl found
      · rw [current, moves.hand.1] at held
        cases held
  | corrupt current | unanswered current =>
      rcases holds with found | held
      · exact .inl found
      · simp [current, ReaderPhase.hand] at held
  | @absorbed frame works taken current nonzero present absorbs =>
      rcases holds with found | held
      · by_cases same : tag = frame.tag
        · subst same
          rw [present] at found
          cases found
          exact .inr rfl
        · exact .inl (lookup_erase_eq_some.mpr ⟨same, found⟩)
      · simp [current, ReaderPhase.hand] at held
  | @resolved frame works taken current nonzero present resolves =>
      rcases holds with found | held
      · refine .inl (lookup_erase_eq_some.mpr ⟨?_, found⟩)
        intro same
        subst same
        rw [present] at found
        cases found
        simp only [State.deliver, State.recordFrame, Function.update_self] at empty
        exact Oneshot.send_ne_empty _ _ empty
      · simp [current, ReaderPhase.hand] at held
  | @reinsert key inHand works current =>
      rcases holds with found | held
      · refine .inl (lookup_insert_eq_some.mpr (.inr ⟨?_, found⟩))
        intro same
        subst same
        exact dropWaker_owner found empty
      · simp only [current, ReaderPhase.hand, Option.some.injEq, Prod.mk.injEq] at held
        rcases held with ⟨rfl, rfl⟩
        exact .inl (AList.lookup_insert _)
  | readerDrain current =>
      rcases holds with found | held
      · exact absurd rfl ((drain_empty empty).2 tag slot found)
      · simp [current, ReaderPhase.hand] at held
  | closeDrain current =>
      rcases holds with found | held
      · exact absurd rfl ((drain_empty empty).2 tag slot found)
      · exact .inr held
  | readerStop aborted running =>
      rcases holds with found | held
      · exact .inl (by simpa using found)
      · have same : state.reader.hand.map Prod.snd = some slot := by
          rw [held]
          rfl
        exact absurd empty (dropWaker_owner same)
  | advance | allocTag | closeStore | closeAbort => exact holds

theorem Transition.registered_before (transition : Transition protocol state action next)
    {call : CallId} {tag : UInt16} {cmdType : UInt8}
    (registered : (next.calls call).registration = some (tag, cmdType)) :
    (state.calls call).registration = some (tag, cmdType) ∨
      next.Holds tag ⟨cmdType, call⟩ := by
  cases transition.callStep call with
  | keeps same =>
      rw [same] at registered
      exact .inl registered
  | advance current reached advances =>
      rw [reached, advances.registration, ← current] at registered
      exact .inl registered
  | allocTag _ reached =>
      rw [reached] at registered
      cases registered
  | register _ reached inserted _ =>
      rw [reached] at registered
      cases registered
      exact .inr (.inl inserted)
  | cleanup current reached =>
      rw [reached] at registered
      rw [current]
      exact .inl registered

theorem Channeled.awaited_step (channeled : Channeled state)
    (transition : Transition protocol state action next) (call : CallId)
    (tag : UInt16) (cmdType : UInt8)
    (registered : (next.calls call).registration = some (tag, cmdType))
    (empty : next.channels call = .empty) : next.Holds tag ⟨cmdType, call⟩ := by
  rcases transition.registered_before registered with before | holds
  · have held := channeled.awaited call tag cmdType before (transition.channel_empty empty)
    exact transition.keeps_slot held empty
  · exact holds

theorem dropWaker_other {dropped : Option Pending} {call : CallId}
    (different : ∀ slot, dropped = some slot → slot.waker ≠ call) :
    (state.dropWaker dropped).channels call = state.channels call := by
  rw [State.dropWaker_channels, if_neg]
  intro same
  rcases Option.map_eq_some_iff.mp same with ⟨slot, found, own⟩
  exact different slot found own

theorem drain_channels (reason : String) (call : CallId) :
    (state.drain reason).channels call = state.channels call ∨
      ∃ tag slot, state.pending.lookup tag = some slot ∧ slot.waker = call := by
  simp only [State.drain]
  split
  · next waked =>
    rcases List.any_eq_true.mp waked with ⟨⟨tag, slot⟩, member, own⟩
    exact .inr ⟨tag, slot, mem_entries_iff_lookup.mp member, by simpa using own⟩
  · exact .inl rfl

theorem Owned.not_in_hand (owned : Owned state) {tag : UInt16} {slot : Pending}
    (found : state.pending.lookup tag = some slot) :
    state.reader.hand ≠ some (tag, slot) := by
  intro held
  exact owned.apart tag slot slot held found rfl

theorem Transition.releases (transition : Transition protocol state action next)
    (owned : Owned state) (call : CallId) :
    next.channels call = state.channels call ∨
      ∃ tag slot, slot.waker = call ∧ state.Holds tag slot ∧ ¬ next.Holds tag slot := by
  have dropped : ∀ slot : Option Pending,
      (∀ dropping, slot = some dropping → dropping.waker = call →
        ∃ tag, state.Holds tag dropping ∧ ¬ next.Holds tag dropping) →
      (state.dropWaker slot).channels call = state.channels call ∨
        ∃ tag slot, slot.waker = call ∧ state.Holds tag slot ∧ ¬ next.Holds tag slot := by
    intro slot gone
    by_cases own : ∃ dropping, slot = some dropping ∧ dropping.waker = call
    · rcases own with ⟨dropping, found, own⟩
      rcases gone dropping found own with ⟨tag, before, after⟩
      exact .inr ⟨tag, dropping, own, before, after⟩
    · exact .inl (dropWaker_other fun dropping found own' => own ⟨dropping, found, own'⟩)
  cases transition with
  | @register other request key current =>
      apply dropped
      intro dropping found own
      refine ⟨key, .inl found, ?_⟩
      rintro (inMap | inHand)
      · rcases lookup_insert_eq_some.mp inMap with ⟨_, rfl⟩ | ⟨different, _⟩
        · have registered := owned.owner _ _ (.inl found)
          simp [current, Phase.registration] at registered
        · exact different rfl
      · apply owned.not_in_hand found
        simpa [State.record, State.setPhase, State.insertSlot] using inHand
  | @cleanup other request key error current =>
      apply dropped
      intro dropping found own
      refine ⟨key, .inl found, ?_⟩
      rintro (inMap | inHand)
      · exact (lookup_erase_eq_some.mp inMap).1 rfl
      · apply owned.not_in_hand found
        simpa [State.setPhase, State.removeSlot] using inHand
  | @resolved frame works slot current nonzero found resolves =>
      by_cases own : call = slot.waker
      · subst own
        refine .inr ⟨frame.tag, slot, rfl, .inl found, ?_⟩
        rintro (inMap | inHand)
        · exact (lookup_erase_eq_some.mp inMap).1 rfl
        · simp [ReaderPhase.hand] at inHand
      · exact .inl (by simp [State.deliver, State.recordFrame, own])
  | @reinsert key slot works current =>
      have held : state.reader.hand = some (key, slot) := by rw [current]; rfl
      apply dropped
      intro dropping found own
      refine ⟨key, .inl found, ?_⟩
      rintro (inMap | inHand)
      · rcases lookup_insert_eq_some.mp inMap with ⟨_, rfl⟩ | ⟨different, _⟩
        · exact owned.not_in_hand found held
        · exact different rfl
      · simp [ReaderPhase.hand] at inHand
  | readerDrain current =>
      rcases drain_channels "reader exited" call with same | ⟨tag, slot, found, own⟩
      · exact .inl same
      · refine .inr ⟨tag, slot, own, .inl found, ?_⟩
        rintro (inMap | inHand)
        · simp [State.drain] at inMap
        · simp [ReaderPhase.hand] at inHand
  | closeDrain current =>
      rcases drain_channels "session closed" call with same | ⟨tag, slot, found, own⟩
      · exact .inl same
      · refine .inr ⟨tag, slot, own, .inl found, ?_⟩
        rintro (inMap | inHand)
        · simp [State.drain] at inMap
        · exact owned.not_in_hand found inHand
  | readerStop aborted running =>
      apply dropped
      intro dropping held own
      rcases Option.map_eq_some_iff.mp held with ⟨⟨tag, slot⟩, inHand, rfl⟩
      refine ⟨tag, .inr inHand, ?_⟩
      rintro (inMap | inHandStill)
      · exact owned.not_in_hand (by simpa using inMap) inHand
      · simp [ReaderPhase.hand] at inHandStill
  | _ => exact .inl rfl

theorem Transition.unregistered_channel (transition : Transition protocol state action next)
    (owned : Owned state) {call : CallId}
    (unregistered : (state.calls call).registration = none) :
    next.channels call = state.channels call := by
  rcases transition.releases owned call with same | ⟨tag, slot, own, held, _⟩
  · exact same
  · have registered := owned.owner tag slot held
    rw [own, unregistered] at registered
    cases registered

theorem Channeled.untouched_step (channeled : Channeled state) (owned : Owned state)
    (transition : Transition protocol state action next) (call : CallId)
    (unregistered : (next.calls call).registration = none) :
    next.channels call = .empty := by
  have before : (state.calls call).registration = none := by
    cases registered : (state.calls call).registration with
    | none => rfl
    | some registration =>
        rw [transition.registration registered] at unregistered
        cases unregistered
  rw [transition.unregistered_channel owned before]
  exact channeled.untouched call before

theorem Channeled.unsent_step (channeled : Channeled state) (owned : Owned state)
    (transition : Transition protocol state action next) (tag : UInt16) (slot : Pending)
    (holds : next.Holds tag slot) : next.channels slot.waker = .empty := by
  rcases transition.holds holds with before | ⟨request, _, tagged, _⟩
  · rcases transition.releases owned slot.waker with same | ⟨other, twin, own, held, gone⟩
    · rw [same]
      exact channeled.unsent tag slot before
    · rcases owned.same_slot held before own with ⟨rfl, rfl⟩
      exact absurd holds gone
  · have unregistered : (state.calls slot.waker).registration = none := by
      rw [tagged]
      rfl
    rw [transition.unregistered_channel owned unregistered]
    exact channeled.untouched slot.waker unregistered

theorem Channeled.step (channeled : Channeled state) (owned : Owned state)
    (transition : Transition protocol state action next) : Channeled next where
  untouched := channeled.untouched_step owned transition
  unsent := channeled.unsent_step owned transition
  awaited := channeled.awaited_step transition

end Preservation

theorem channeled_of_reachable {allowed : State types → Action → Prop}
    {state : State types} (reached : (machine protocol).ReachableBy allowed state) :
    Channeled state := by
  have both : Owned state ∧ Channeled state := by
    apply reached.invariant ⟨Owned.spawn, Channeled.spawn⟩
    intro current action next holds _ stepped
    have transition := transition_of_step protocol stepped
    exact ⟨holds.1.step transition, holds.2.step holds.1 transition⟩
  exact both.2

/-! ## After a drain -/

def Action.inserts : Action → Bool
  | .register _ => true
  | .readerReinsert => true
  | _ => false

theorem Transition.pending_shrinks {state next : State types} {action : Action}
    (transition : Transition protocol state action next)
    (inserts : action.inserts = false) (empty : state.pending = ∅) :
    next.pending = ∅ := by
  have erased : ∀ tag, state.pending.erase tag = ∅ := by
    intro tag
    rw [empty]
    rfl
  cases transition with
  | register | reinsert => cases inserts
  | cleanup => exact erased _
  | absorbed | resolved => exact erased _
  | readerDrain | closeDrain => rfl
  | readerStop => simpa using empty
  | _ => exact empty

/-- The pending map stays empty once a drain is passed, if nothing is inserted
from then on. -/
theorem empty_after {allowed : State types → Action → Prop} {state : State types}
    (passed : State types → Prop) (reached : (machine protocol).ReachableBy allowed state)
    (initially : ¬ passed (spawn : State types))
    (drains : ∀ current action next, allowed current action →
      Transition protocol current action next → passed next →
      next.pending = ∅ ∨ (passed current ∧ action.inserts = false)) :
    passed state → state.pending = ∅ := by
  apply reached.invariant
  · intro holds
    exact absurd holds initially
  · intro current action next empty permitted stepped holds
    have transition := transition_of_step protocol stepped
    rcases drains current action next permitted transition holds with
      drained | ⟨before, inserts⟩
    · exact drained
    · exact transition.pending_shrinks inserts (empty before)

/-- A call waits on a slot that is still registered. -/
def State.Hangs (state : State types) (call : CallId) : Prop :=
  ∃ request tag cmdType, state.calls call = .waiting request tag ∧
    state.pending.lookup tag = some ⟨cmdType, call⟩

def State.Woken (state : State types) (call : CallId) : Prop :=
  (state.calls call).registration ≠ none → state.channels call ≠ .empty

theorem woken_of_empty {state : State types} (channeled : Channeled state)
    (empty : state.pending = ∅) (noHand : state.reader.hand = none) (call : CallId) :
    ¬ state.Hangs call ∧ state.Woken call := by
  constructor
  · rintro ⟨request, tag, cmdType, _, found⟩
    simp [empty] at found
  · intro registered unfilled
    rcases Option.ne_none_iff_exists'.mp registered with ⟨⟨tag, cmdType⟩, known⟩
    rcases channeled.awaited call tag cmdType known unfilled with found | held
    · simp [empty] at found
    · simp [noHand] at held

/-! ## `close` -/

def ClosePhase.hasDrained : ClosePhase → Bool
  | .drained => true
  | .done => true
  | _ => false

/-- Nothing is inserted once `close` has drained the map. -/
def InsertsBeforeClose (state : State types) (action : Action) : Prop :=
  action.inserts = true → state.closer.hasDrained = false

instance (state : State types) (action : Action) :
    Decidable (InsertsBeforeClose state action) :=
  inferInstanceAs (Decidable (_ → _))

theorem empty_after_close {state : State types}
    (reached : (machine protocol).ReachableBy InsertsBeforeClose state)
    (drained : state.closer.hasDrained = true) : state.pending = ∅ := by
  refine empty_after (fun state => state.closer.hasDrained = true) reached
    (by simp [spawn, ClosePhase.hasDrained]) ?_ drained
  intro current action next permitted transition passed
  by_cases before : current.closer.hasDrained = true
  · refine .inr ⟨before, ?_⟩
    by_contra inserts
    rw [permitted (by simpa using inserts)] at before
    cases before
  · left
    cases transition with
    | closeDrain => rfl
    | closeStore => cases passed
    | closeAbort drained =>
        rw [drained] at before
        exact absurd rfl before
    | register | cleanup | reinsert | readerStop =>
        exact absurd (by
          simpa [State.record, State.setPhase, State.insertSlot, State.removeSlot]
            using passed) before
    | _ => exact absurd passed before

/-- If nothing is inserted after `close`'s drain, then once `close` is done and
the reader is gone no call waits on a registered slot, and every call that has
registered has been answered or has had its sender dropped. -/
theorem close_leaves_nobody_hanging {state : State types}
    (reached : (machine protocol).ReachableBy InsertsBeforeClose state)
    (closed : state.closer = .done)
    (stopped : state.reader = .stopped ∨ state.reader = .exited) (call : CallId) :
    ¬ state.Hangs call ∧ state.Woken call := by
  apply woken_of_empty (channeled_of_reachable reached)
  · apply empty_after_close reached
    rw [closed]
    rfl
  · rcases stopped with stopped | exited
    · rw [stopped]
      rfl
    · rw [exited]
      rfl

def closedWhileWaiting : List Action :=
  [.begin 0 ⟨1, []⟩, .allocTag 0, .register 0, .write 0 none, .closeStore,
    .closeDrain, .closeAbort, .readerStop]

theorem close_leaves_nobody_hanging_waiting :
    ∃ state, (machine Protocol.sample).run spawn closedWhileWaiting = some state ∧
      state.closer = .done ∧ state.reader = .stopped ∧
      state.calls 0 = .waiting ⟨1, []⟩ 1 ∧ ¬ state.Hangs 0 ∧ state.Woken 0 := by
  have permitted : (machine Protocol.sample).Allows InsertsBeforeClose spawn
      closedWhileWaiting := by decide
  exact ⟨_, rfl, rfl, rfl, rfl, close_leaves_nobody_hanging
    (.run .initial permitted rfl) rfl (.inl rfl) 0⟩

/-- The call has passed the closed check when `close` runs, and registers after
the drain. -/
def lateRegistration : List Action :=
  [.begin 0 ⟨1, []⟩, .closeStore, .closeDrain, .allocTag 0, .register 0,
    .write 0 none, .closeAbort, .readerStop]

theorem lateRegistration_hangs :
    ¬ ∀ state, (machine Protocol.sample).Reachable state → state.closer = .done →
      state.reader = .stopped ∨ state.reader = .exited →
      ∀ call, ¬ state.Hangs call := by
  intro always
  have ran : ∃ state, (machine Protocol.sample).run spawn lateRegistration = some state ∧
      state.closer = .done ∧ state.reader = .stopped ∧ state.Hangs 0 :=
    ⟨_, rfl, rfl, rfl, _, _, _, rfl, rfl⟩
  rcases ran with ⟨state, ran, closed, stopped, hangs⟩
  exact always state (.run .initial ran) closed (.inl stopped) 0 hangs

/-! ## The reader's exit -/

def RegistersBeforeExit (state : State types) (action : Action) : Prop :=
  ∀ call, action = .register call → state.reader ≠ .exited

instance (state : State types) (action : Action) :
    Decidable (RegistersBeforeExit state action) :=
  match action with
  | .register _ =>
      decidable_of_iff (state.reader ≠ .exited) (by simp [RegistersBeforeExit])
  | .begin _ _ | .allocTag _ | .write _ _ | .receive _ | .senderGone _ | .timeout _
  | .cleanup _ | .readerCheck | .readerRead _ | .readerLeave | .readerDispatch
  | .readerReinsert | .readerDrain | .readerStop | .closeStore | .closeDrain
  | .closeAbort => .isTrue nofun

theorem empty_after_exit {state : State types}
    (reached : (machine protocol).ReachableBy RegistersBeforeExit state)
    (exited : state.reader = .exited) : state.pending = ∅ := by
  refine empty_after (fun state => state.reader = .exited) reached (by simp [spawn]) ?_
    exited
  intro current action next permitted transition passed
  cases transition with
  | readerDrain => exact .inl rfl
  | register call =>
      have before : current.reader = .exited := by
        simpa [State.record, State.setPhase, State.insertSlot] using passed
      exact absurd before (permitted call rfl)
  | cleanup => exact .inr ⟨by simpa [State.setPhase, State.removeSlot] using passed, rfl⟩
  | advance call current advances => exact .inr ⟨passed, by cases advances <;> rfl⟩
  | allocTag | closeStore | closeAbort => exact .inr ⟨passed, rfl⟩
  | closeDrain => exact .inl rfl
  | readerMoves current moves =>
      cases moves with
      | check =>
          rename_i state
          cases closed : state.closed <;> simp [closed] at passed
      | _ => cases passed
  | _ => cases passed

/-- The exit drain answers the owner of every slot, and a call that waits for
that answer returns it. -/
theorem answered_by_exit {state next : State types}
    (reached : (machine protocol).Reachable state)
    (drained : (machine protocol).step state .readerDrain = some next) {tag : UInt16}
    {slot : Pending} (found : state.pending.lookup tag = some slot) :
    next.channels slot.waker = .filled (.err (.transportClosed "reader exited")) := by
  have unsent := (channeled_of_reachable reached).unsent tag slot (.inl found)
  cases transition_of_step protocol drained with
  | advance _ _ advances => cases advances
  | readerMoves _ moves => cases moves
  | readerDrain current =>
      have waked : (state.pending.entries.any fun entry =>
          entry.2.waker == slot.waker) = true := by
        rw [List.any_eq_true]
        exact ⟨⟨tag, slot⟩, mem_entries_iff_lookup.mpr found, by simp⟩
      simp only [State.drain]
      rw [if_pos waked, unsent]
      rfl

/-- The reader's exit answers every registered call, and if no call registers
after it then no call waits on a registered slot from then on. -/
theorem reader_exit_fails_fast {state : State types}
    (reached : (machine protocol).ReachableBy RegistersBeforeExit state) :
    (∀ next tag slot, (machine protocol).step state .readerDrain = some next →
      state.pending.lookup tag = some slot →
      next.channels slot.waker = .filled (.err (.transportClosed "reader exited")) ∧
      ∀ request, state.calls slot.waker = .waiting request tag →
        (machine protocol).step next (.receive slot.waker) =
          some (next.setPhase slot.waker (.returned request (some tag)
            (.ok (.err (.transportClosed "reader exited")))))) ∧
    (state.reader = .exited → ∀ call, ¬ state.Hangs call ∧ state.Woken call) := by
  constructor
  · intro next tag slot drained found
    have filled := answered_by_exit reached.reachable drained found
    refine ⟨filled, ?_⟩
    intro request waiting
    have still : next.calls slot.waker = .waiting request tag := by
      cases transition_of_step protocol drained with
      | advance _ _ advances => cases advances
      | readerMoves _ moves => cases moves
      | readerDrain => exact waiting
    simp only [machine, step, Action.task, stepCall, still, filled]
  · intro exited call
    apply woken_of_empty (channeled_of_reachable reached)
    · exact empty_after_exit reached exited
    · rw [exited]
      rfl

def exitWhileWaiting : List Action :=
  [.begin 0 ⟨1, []⟩, .allocTag 0, .register 0, .write 0 none, .readerCheck,
    .readerLeave, .readerDrain]

theorem reader_exit_fails_fast_waiting :
    ∃ state, (machine Protocol.sample).run spawn exitWhileWaiting = some state ∧
      state.reader = .exited ∧ state.calls 0 = .waiting ⟨1, []⟩ 1 ∧
      ¬ state.Hangs 0 ∧ state.Woken 0 := by
  have permitted : (machine Protocol.sample).Allows RegistersBeforeExit spawn
      exitWhileWaiting := by decide
  exact ⟨_, rfl, rfl, rfl,
    (reader_exit_fails_fast (.run .initial permitted rfl)).2 rfl 0⟩

def commandAfterExit : List Action :=
  [.readerCheck, .readerLeave, .readerDrain, .begin 0 ⟨1, []⟩, .allocTag 0,
    .register 0, .write 0 none]

theorem commandAfterExit_hangs :
    ¬ ∀ state, (machine Protocol.sample).Reachable state → state.reader = .exited →
      ∀ call, ¬ state.Hangs call := by
  intro always
  have ran : ∃ state, (machine Protocol.sample).run spawn commandAfterExit = some state ∧
      state.reader = .exited ∧ state.Hangs 0 :=
    ⟨_, rfl, rfl, _, _, _, rfl, rfl⟩
  rcases ran with ⟨state, ran, exited, hangs⟩
  exact always state (.run .initial ran) exited 0 hangs

end DongloraClient.Session
