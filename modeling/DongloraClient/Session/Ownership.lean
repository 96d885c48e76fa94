import DongloraClient.Session.Transitions

/-! # Who owns a completion channel

The sending half of a call's channel is, at any time, in at most one place: in
the pending map under the call's own tag, or in the reader's hand while it
re-inserts the slot of a `TX`. Once it has been used it is in neither.
-/

namespace DongloraClient.Session

variable {types : WireTypes} {protocol : Protocol types}

def Phase.registration : Phase types → Option (UInt16 × UInt8)
  | .writing request tag => some (tag, request.typeId)
  | .waiting request tag => some (tag, request.typeId)
  | .cleaning request tag _ => some (tag, request.typeId)
  | .returned request tag _ => tag.map fun tag => (tag, request.typeId)
  | _ => none

/-- A slot that still exists, in the map or in the reader's hand. -/
def State.Holds (state : State types) (tag : UInt16) (slot : Pending) : Prop :=
  state.pending.lookup tag = some slot ∨ state.reader.hand = some (tag, slot)

/-! ## Steps -/

theorem Advance.registration {state : State types} {call : CallId} {action : Action}
    {before after : Phase types}
    (advances : Advance protocol state call action before after) :
    after.registration = before.registration := by
  cases advances <;> rfl

theorem ReaderMove.hand {state : State types} {action : Action}
    {before after : ReaderPhase} (moves : ReaderMove state action before after) :
    before.hand = none ∧ after.hand = none := by
  cases moves with
  | check => cases state.closed <;> exact ⟨rfl, rfl⟩
  | _ => exact ⟨rfl, rfl⟩

theorem Transition.registration {state next : State types} {action : Action}
    (transition : Transition protocol state action next) {call : CallId}
    {registration : UInt16 × UInt8}
    (registered : (state.calls call).registration = some registration) :
    (next.calls call).registration = some registration := by
  cases transition.callStep call with
  | keeps same =>
      rw [same]
      exact registered
  | advance current reached advances =>
      rw [reached, advances.registration, ← current]
      exact registered
  | allocTag current _ | register current _ _ _ =>
      rw [current] at registered
      cases registered
  | cleanup current reached =>
      rw [current] at registered
      rw [reached]
      exact registered

/-- A slot is only ever created by the registration of its own call. -/
theorem Transition.holds {state next : State types} {action : Action}
    (transition : Transition protocol state action next) {tag : UInt16}
    {slot : Pending} (holds : next.Holds tag slot) :
    state.Holds tag slot ∨ ∃ request, action = .register slot.waker ∧
      state.calls slot.waker = .tagged request tag ∧
      slot.cmdType = request.typeId := by
  cases transition with
  | advance | allocTag => exact .inl holds
  | closeStore | closeAbort => exact .inl holds
  | readerMoves current moves =>
      rcases holds with found | held
      · exact .inl (.inl found)
      · simp [moves.hand.2] at held
  | corrupt current | unanswered current =>
      rcases holds with found | held
      · exact .inl (.inl found)
      · simp [ReaderPhase.hand] at held
  | @register call request key current =>
      rcases holds with found | held
      · rcases lookup_insert_eq_some.mp found with ⟨rfl, rfl⟩ | ⟨_, found⟩
        · exact .inr ⟨request, rfl, current, rfl⟩
        · exact .inl (.inl found)
      · exact .inl (.inr (by simpa [State.record, State.setPhase, State.insertSlot] using held))
  | cleanup call current =>
      rcases holds with found | held
      · exact .inl (.inl (lookup_erase_eq_some.mp found).2)
      · exact .inl (.inr (by simpa [State.setPhase, State.removeSlot] using held))
  | @absorbed frame works taken current nonzero found absorbs =>
      rcases holds with found | held
      · exact .inl (.inl (lookup_erase_eq_some.mp found).2)
      · simp only [ReaderPhase.hand, Option.some.injEq, Prod.mk.injEq] at held
        rcases held with ⟨rfl, rfl⟩
        exact .inl (.inl found)
  | resolved current nonzero found resolves =>
      rcases holds with found | held
      · exact .inl (.inl (lookup_erase_eq_some.mp found).2)
      · simp [ReaderPhase.hand] at held
  | @reinsert key held works current =>
      rcases holds with found | inHand
      · rcases lookup_insert_eq_some.mp found with ⟨rfl, rfl⟩ | ⟨_, found⟩
        · exact .inl (.inr (by simp [current, ReaderPhase.hand]))
        · exact .inl (.inl found)
      · simp [ReaderPhase.hand] at inHand
  | readerDrain current =>
      rcases holds with found | held
      · simp [State.drain] at found
      · simp [ReaderPhase.hand] at held
  | readerStop aborted running =>
      rcases holds with found | held
      · exact .inl (.inl (by simpa using found))
      · simp [ReaderPhase.hand] at held
  | closeDrain current =>
      rcases holds with found | held
      · simp [State.drain] at found
      · exact .inl (.inr held)

def deliveredCalls (history : List (Event types)) : List CallId :=
  history.filterMap fun
    | .delivered call _ _ => some call
    | _ => none

theorem deliveredCalls_drain (state : State types) (reason : String) :
    deliveredCalls (state.drain reason).history =
      state.pending.entries.map (fun entry => entry.2.waker) ++
        deliveredCalls state.history := by
  simp [deliveredCalls, State.drain, List.filterMap_append, List.filterMap_map]

/-- A step answers nobody, or the owner of one slot it takes out of the map, or
the owners of every slot in the map. -/
theorem Transition.deliveries {state next : State types} {action : Action}
    (transition : Transition protocol state action next) :
    deliveredCalls next.history = deliveredCalls state.history ∨
    (∃ tag slot, state.pending.lookup tag = some slot ∧
      next.pending.lookup tag = none ∧ next.reader.hand = none ∧
      deliveredCalls next.history = slot.waker :: deliveredCalls state.history) ∨
    (next.pending = ∅ ∧
      (next.reader.hand = none ∨ next.reader.hand = state.reader.hand) ∧
      deliveredCalls next.history =
        state.pending.entries.map (fun entry => entry.2.waker) ++
          deliveredCalls state.history) := by
  cases transition with
  | resolved current nonzero found resolves =>
      refine .inr (.inl ⟨_, _, found, ?_, rfl, rfl⟩)
      simp [State.deliver]
  | readerDrain current => exact .inr (.inr ⟨rfl, .inl rfl, deliveredCalls_drain state _⟩)
  | closeDrain current => exact .inr (.inr ⟨rfl, .inr rfl, deliveredCalls_drain state _⟩)
  | register | cleanup | reinsert | readerStop =>
      left
      simp [State.insertSlot, State.removeSlot, State.setPhase, State.record, deliveredCalls]
  | _ => exact .inl rfl

/-! ## The invariant -/

structure Owned (state : State types) : Prop where
  owner : ∀ tag slot, state.Holds tag slot →
    (state.calls slot.waker).registration = some (tag, slot.cmdType)
  apart : ∀ tag slot other, state.reader.hand = some (tag, slot) →
    state.pending.lookup tag = some other → other.waker ≠ slot.waker
  settled : ∀ call ∈ deliveredCalls state.history,
    (state.calls call).registration ≠ none
  spent : ∀ call ∈ deliveredCalls state.history, ∀ tag slot,
    state.Holds tag slot → slot.waker ≠ call
  once : (deliveredCalls state.history).Nodup

theorem Owned.same_slot {state : State types} (owned : Owned state)
    {tag other : UInt16} {slot twin : Pending} (holds : state.Holds tag slot)
    (alsoHolds : state.Holds other twin) (sameWaker : slot.waker = twin.waker) :
    tag = other ∧ slot = twin := by
  have first := owned.owner tag slot holds
  have second := owned.owner other twin alsoHolds
  rw [sameWaker, second] at first
  simp only [Option.some.injEq, Prod.mk.injEq] at first
  refine ⟨first.1.symm, ?_⟩
  cases slot
  cases twin
  simp_all

theorem mem_entries_iff_lookup {map : PendingMap} {tag : UInt16} {slot : Pending} :
    ⟨tag, slot⟩ ∈ map.entries ↔ map.lookup tag = some slot :=
  AList.mem_lookup_iff.symm

theorem Owned.wakers_nodup {state : State types} (owned : Owned state) :
    (state.pending.entries.map fun entry => entry.2.waker).Nodup := by
  have keys : (state.pending.entries.map Sigma.fst).Nodup := state.pending.keys_nodup
  rw [List.nodup_map_iff_inj_on state.pending.nodupKeys.nodup]
  intro left leftMember right rightMember sameWaker
  have leftHolds : state.Holds left.1 left.2 := .inl (mem_entries_iff_lookup.mp leftMember)
  have rightHolds : state.Holds right.1 right.2 :=
    .inl (mem_entries_iff_lookup.mp rightMember)
  have sameTag := (owned.same_slot leftHolds rightHolds sameWaker).1
  exact List.inj_on_of_nodup_map keys leftMember rightMember sameTag

theorem Owned.spawn : Owned (spawn : State types) := by
  constructor <;> simp [Session.spawn, State.Holds, ReaderPhase.hand, deliveredCalls]

section Preservation

variable {state next : State types} {action : Action}

theorem Owned.owner_step (owned : Owned state)
    (transition : Transition protocol state action next) (tag : UInt16)
    (slot : Pending) (holds : next.Holds tag slot) :
    (next.calls slot.waker).registration = some (tag, slot.cmdType) := by
  rcases transition.holds holds with before | ⟨request, rfl, tagged, sameType⟩
  · exact transition.registration (owned.owner tag slot before)
  · cases transition with
    | advance _ _ advances => cases advances
    | readerMoves _ moves => cases moves
    | register _ current =>
        rw [tagged] at current
        cases current
        simp [State.record, State.setPhase, Phase.registration, sameType]

theorem Owned.apart_step (owned : Owned state)
    (transition : Transition protocol state action next) (tag : UInt16)
    (slot other : Pending) (held : next.reader.hand = some (tag, slot))
    (found : next.pending.lookup tag = some other) : other.waker ≠ slot.waker := by
  cases transition with
  | advance | allocTag | closeStore | closeAbort => exact owned.apart tag slot other held found
  | @register call request key current =>
      have heldBefore : state.reader.hand = some (tag, slot) := by
        simpa [State.record, State.setPhase, State.insertSlot] using held
      rcases lookup_insert_eq_some.mp found with ⟨_, rfl⟩ | ⟨_, found⟩
      · intro same
        have registered := owned.owner tag slot (.inr heldBefore)
        rw [← same] at registered
        simp [current, Phase.registration] at registered
      · exact owned.apart tag slot other heldBefore found
  | cleanup call current =>
      have heldBefore : state.reader.hand = some (tag, slot) := by
        simpa [State.setPhase, State.removeSlot] using held
      exact owned.apart tag slot other heldBefore (lookup_erase_eq_some.mp found).2
  | readerMoves current moves => simp [moves.hand.2] at held
  | absorbed current nonzero present absorbs =>
      simp only [ReaderPhase.hand, Option.some.injEq, Prod.mk.injEq] at held
      rw [← held.1] at found
      simp at found
  | closeDrain current => simp [State.drain] at found
  | _ => simp [ReaderPhase.hand] at held

theorem Owned.settled_step (owned : Owned state)
    (transition : Transition protocol state action next) (call : CallId)
    (delivered : call ∈ deliveredCalls next.history) :
    (next.calls call).registration ≠ none := by
  have keep : ∀ {tag slot}, state.Holds tag slot →
      (next.calls slot.waker).registration ≠ none := by
    intro tag slot holds
    simp [transition.registration (owned.owner tag slot holds)]
  have keepOld : call ∈ deliveredCalls state.history →
      (next.calls call).registration ≠ none := by
    intro before
    rcases Option.ne_none_iff_exists'.mp (owned.settled call before) with ⟨_, registered⟩
    simp [transition.registration registered]
  rcases transition.deliveries with same | ⟨tag, slot, found, _, _, extended⟩ |
    ⟨_, _, extended⟩
  · exact keepOld (same ▸ delivered)
  · rw [extended] at delivered
    rcases List.mem_cons.mp delivered with rfl | before
    · exact keep (.inl found)
    · exact keepOld before
  · rw [extended] at delivered
    rcases List.mem_append.mp delivered with fresh | before
    · rcases List.mem_map.mp fresh with ⟨entry, member, rfl⟩
      exact keep (.inl (mem_entries_iff_lookup.mp member))
    · exact keepOld before

theorem Transition.holds_of_registered (transition : Transition protocol state action next)
    {tag : UInt16} {slot : Pending} (holds : next.Holds tag slot)
    (registered : (state.calls slot.waker).registration ≠ none) :
    state.Holds tag slot := by
  rcases transition.holds holds with before | ⟨request, _, tagged, _⟩
  · exact before
  · simp [tagged, Phase.registration] at registered

theorem Owned.spent_step (owned : Owned state)
    (transition : Transition protocol state action next) (call : CallId)
    (delivered : call ∈ deliveredCalls next.history) (tag : UInt16) (slot : Pending)
    (holds : next.Holds tag slot) : slot.waker ≠ call := by
  rintro rfl
  have notBefore : slot.waker ∉ deliveredCalls state.history := by
    intro before
    exact owned.spent _ before tag slot
      (transition.holds_of_registered holds (owned.settled _ before)) rfl
  -- A waker answered by this very step was in the map, under the tag of the slot.
  have fromMap : ∀ {found taken}, state.pending.lookup found = some taken →
      taken.waker = slot.waker → state.Holds tag slot ∧ found = tag := by
    intro found taken present same
    have registered := owned.owner found taken (.inl present)
    rw [same] at registered
    have before := transition.holds_of_registered holds (by simp [registered])
    exact ⟨before, (owned.same_slot (.inl present) before same).1⟩
  rcases transition.deliveries with same | ⟨found, taken, present, gone, noHand, extended⟩ |
    ⟨cleared, hand, extended⟩
  · exact notBefore (same ▸ delivered)
  · rw [extended] at delivered
    rcases List.mem_cons.mp delivered with own | before
    · rcases fromMap present own.symm with ⟨_, rfl⟩
      rcases holds with inMap | inHand
      · simp [gone] at inMap
      · simp [noHand] at inHand
    · exact notBefore before
  · rw [extended] at delivered
    rcases List.mem_append.mp delivered with fresh | before
    · rcases List.mem_map.mp fresh with ⟨⟨found, taken⟩, member, own⟩
      have present := mem_entries_iff_lookup.mp member
      rcases fromMap present own with ⟨_, rfl⟩
      rcases holds with inMap | inHand
      · simp [cleared] at inMap
      · rcases hand with none | same
        · simp [none] at inHand
        · exact owned.apart found slot taken (same ▸ inHand) present own
    · exact notBefore before

theorem Owned.once_step (owned : Owned state)
    (transition : Transition protocol state action next) :
    (deliveredCalls next.history).Nodup := by
  have unspent : ∀ {tag slot}, state.pending.lookup tag = some slot →
      slot.waker ∉ deliveredCalls state.history := by
    intro tag slot found before
    exact owned.spent _ before tag slot (.inl found) rfl
  rcases transition.deliveries with same | ⟨tag, slot, found, _, _, extended⟩ |
    ⟨_, _, extended⟩
  · rw [same]
    exact owned.once
  · rw [extended]
    exact List.nodup_cons.mpr ⟨unspent found, owned.once⟩
  · rw [extended]
    apply List.Nodup.append owned.wakers_nodup owned.once
    intro call fresh before
    rcases List.mem_map.mp fresh with ⟨entry, member, rfl⟩
    exact unspent (mem_entries_iff_lookup.mp member) before

theorem Owned.step (owned : Owned state)
    (transition : Transition protocol state action next) : Owned next where
  owner := owned.owner_step transition
  apart := owned.apart_step transition
  settled := owned.settled_step transition
  spent := owned.spent_step transition
  once := owned.once_step transition

end Preservation

/-- Completion channels are owned by one slot at a time in every interleaving. -/
theorem owned_of_reachable {allowed : State types → Action → Prop} {state : State types}
    (reached : (machine protocol).ReachableBy allowed state) : Owned state :=
  reached.invariant Owned.spawn fun _ _ _ owned _ stepped =>
    owned.step (transition_of_step protocol stepped)

end DongloraClient.Session
