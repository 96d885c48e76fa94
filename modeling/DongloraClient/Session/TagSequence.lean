import DongloraClient.Session.Tags

/-! # The sequence of tags

Callers take their tags from one counter, so whatever the interleaving, the tags
handed out along a run are one fixed sequence: 1 up to 65535, and again from 1.
Tag 0 marks asynchronous frames and is not in the sequence.
-/

namespace DongloraClient.Session

open Foundation

variable {types : WireTypes} {protocol : Protocol types}

/-! ## Allocations along a run -/

/-- What `alloc_tag` returned to its caller, where the step is a call of it. -/
def allocated (action : Action) (next : State types) : List UInt16 :=
  match action with
  | .allocTag call => (next.calls call).tag.toList
  | _ => []

def allocations (protocol : Protocol types) (actions : List Action) : List UInt16 :=
  (machine protocol).notes allocated spawn actions

/-- The tag at a position of the sequence, counted from 0. -/
def tagAt (index : Nat) : UInt16 :=
  UInt16.ofNat (1 + index % 65535)

theorem tagAt_toNat (index : Nat) : (tagAt index).toNat = 1 + index % 65535 := by
  have bounded : 1 + index % 65535 < 65536 := by omega
  rw [tagAt, UInt16.toNat_ofNat']
  exact Nat.mod_eq_of_lt bounded

theorem advanceTag_tagAt (index : Nat) : advanceTag (tagAt index) = tagAt (index + 1) := by
  have current := tagAt_toNat index
  have following := tagAt_toNat (index + 1)
  have bumped : (tagAt index + 1).toNat = (2 + index % 65535) % 65536 := by
    rw [UInt16.toNat_add, current]
    change (1 + index % 65535 + 1) % 65536 = _
    omega
  apply UInt16.toNat_inj.mp
  rw [advanceTag, following]
  split
  · next wraps =>
    rw [wraps] at bumped
    change 0 = _ at bumped
    change 1 = _
    omega
  · next stays =>
    have nonzero : (tagAt index + 1).toNat ≠ 0 := by
      intro zero
      exact stays (UInt16.toNat_inj.mp zero)
    rw [bumped] at nonzero ⊢
    omega

/-! ## One step -/

theorem Transition.counter {state next : State types} {action : Action}
    (transition : Transition protocol state action next) :
    (action.allocates = false ∧ allocated action next = [] ∧
      next.nextTag = state.nextTag) ∨
    (action.allocates = true ∧ allocated action next = [state.nextTag] ∧
      next.nextTag = advanceTag state.nextTag) := by
  cases transition with
  | allocTag call current =>
      refine .inr ⟨rfl, ?_, rfl⟩
      simp [allocated, State.setPhase, Phase.tag]
  | advance call current advances => cases advances <;> exact .inl ⟨rfl, rfl, rfl⟩
  | readerMoves current moves => cases moves <;> exact .inl ⟨rfl, rfl, rfl⟩
  | register | reinsert =>
      exact .inl ⟨rfl, rfl, by simp [State.record, State.setPhase, State.insertSlot]⟩
  | cleanup => exact .inl ⟨rfl, rfl, by simp [State.setPhase, State.removeSlot]⟩
  | readerStop => exact .inl ⟨rfl, rfl, by simp⟩
  | _ => exact .inl ⟨rfl, rfl, rfl⟩

/-! ## Whole runs -/

/-- From a counter at one position, a run hands out the sequence from there on. -/
theorem notes_allocated {state final : State types} {actions : List Action} {index : Nat}
    (current : state.nextTag = tagAt index)
    (ran : (machine protocol).run state actions = some final) :
    (machine protocol).notes allocated state actions =
      (List.range' index (actions.countP Action.allocates)).map tagAt := by
  induction actions generalizing state index with
  | nil => rfl
  | cons action actions induction =>
      rw [Machine.run_cons, Option.bind_eq_some_iff] at ran
      rcases ran with ⟨next, stepped, rest⟩
      rw [Machine.notes_cons actions stepped, List.countP_cons]
      rcases (transition_of_step protocol stepped).counter with
        ⟨other, nothing, unmoved⟩ | ⟨allocates, given, moved⟩
      · rw [nothing, other, induction (unmoved.trans current) rest]
        rfl
      · have advanced : next.nextTag = tagAt (index + 1) := by
          rw [moved, current, advanceTag_tagAt]
        rw [given, allocates, current, induction advanced rest, if_pos rfl,
          Nat.add_comm, Nat.add_comm 1]
        rfl

theorem allocations_eq {actions : List Action} {state : State types}
    (ran : (machine protocol).run spawn actions = some state) :
    allocations protocol actions =
      (List.range (actions.countP Action.allocates)).map tagAt := by
  have start : (spawn : State types).nextTag = tagAt 0 := rfl
  rw [allocations, notes_allocated start ran, List.range_eq_range']

/-- Within one turn of the counter a tag tells its position. -/
theorem eq_of_tagAt_eq {start first second : Nat} (same : tagAt first = tagAt second)
    (firstWithin : start ≤ first ∧ first < start + 65535)
    (secondWithin : start ≤ second ∧ second < start + 65535) : first = second := by
  have values := congrArg UInt16.toNat same
  rw [tagAt_toNat, tagAt_toNat] at values
  omega

theorem mem_range_window {start count index : Nat}
    (member : index ∈ ((List.range count).drop start).take 65535) :
    start ≤ index ∧ index < start + 65535 := by
  rw [List.mem_take_iff_getElem] at member
  rcases member with ⟨offset, bounded, rfl⟩
  rw [List.getElem_drop, List.getElem_range]
  omega

theorem tagAt_window_nodup (start count : Nat) :
    ((((List.range count).map tagAt).drop start).take 65535).Nodup := by
  rw [← List.map_drop, ← List.map_take]
  apply List.Nodup.map_on
  · intro first firstMember second secondMember same
    exact eq_of_tagAt_eq same (mem_range_window firstMember) (mem_range_window secondMember)
  · exact (List.nodup_range.sublist (List.drop_sublist start _)).sublist
      (List.take_sublist 65535 _)

/-! ## Tag 0 -/

theorem tagAt_ne_zero (index : Nat) : tagAt index ≠ 0 := by
  intro zero
  have value := tagAt_toNat index
  rw [zero] at value
  change 0 = _ at value
  omega

theorem advanceTag_ne_zero (tag : UInt16) : advanceTag tag ≠ 0 := by
  rw [advanceTag]
  split
  · decide
  · next stays => exact stays

structure TagsPositive (state : State types) : Prop where
  counter : state.nextTag ≠ 0
  given : ∀ call, (state.calls call).tag ≠ some 0

theorem TagsPositive.step {state next : State types} {action : Action}
    (positive : TagsPositive state) (transition : Transition protocol state action next) :
    TagsPositive next := by
  constructor
  · rcases transition.counter with ⟨_, _, unmoved⟩ | ⟨_, _, moved⟩
    · rw [unmoved]
      exact positive.counter
    · rw [moved]
      exact advanceTag_ne_zero state.nextTag
  · intro call
    rcases transition.tag call with ⟨same, _⟩ | ⟨_, given⟩
    · rw [same]
      exact positive.given call
    · rw [given]
      intro zero
      exact positive.counter (Option.some.inj zero)

theorem tagsPositive_of_reachable {state : State types}
    (reached : (machine protocol).Reachable state) : TagsPositive state := by
  apply reached.invariant
  · constructor
    · exact (by decide : (1 : UInt16) ≠ 0)
    · intro call given
      cases given
  · intro current action next positive _ stepped
    exact positive.step (transition_of_step protocol stepped)

theorem not_holds_zero {state : State types}
    (reached : (machine protocol).Reachable state) (slot : Pending) :
    ¬ state.Holds 0 slot := by
  intro holds
  have registered := (owned_of_reachable reached).owner 0 slot holds
  exact (tagsPositive_of_reachable reached).given slot.waker
    (Phase.tag_of_registration registered)

/-! ## The sequence -/

/-- Any interleaving of callers takes the tags 1, 2, … 65535 and then 1 again. -/
theorem alloc_tag_sequence {actions : List Action} {state : State types}
    (ran : (machine protocol).run spawn actions = some state) :
    (allocations protocol actions).length = actions.countP Action.allocates ∧
    (∀ n tag, 1 ≤ n → (allocations protocol actions)[n - 1]? = some tag →
      tag.toNat = 1 + (n - 1) % 65535) ∧
    0 ∉ allocations protocol actions ∧
    state.pending.lookup 0 = none ∧
    ∀ start, (((allocations protocol actions).drop start).take 65535).Nodup := by
  rw [allocations_eq ran]
  refine ⟨by simp, ?_, ?_, ?_, ?_⟩
  · intro n tag _ nth
    rw [List.getElem?_map, Option.map_eq_some_iff] at nth
    rcases nth with ⟨index, found, rfl⟩
    rw [List.getElem?_eq_some_iff] at found
    rcases found with ⟨bounded, position⟩
    rw [List.getElem_range] at position
    rw [tagAt_toNat, position]
  · intro member
    rw [List.mem_map] at member
    rcases member with ⟨index, _, zero⟩
    exact tagAt_ne_zero index zero
  · rw [← Option.not_isSome_iff_eq_none, Option.isSome_iff_exists]
    rintro ⟨slot, found⟩
    exact not_holds_zero (Machine.Reachable.run .initial ran) slot (.inl found)
  · intro start
    exact tagAt_window_nodup start _

def overtaken : List Action :=
  [.begin 0 ⟨1, []⟩, .begin 1 ⟨4, [0, 7]⟩, .allocTag 1, .allocTag 0, .register 0, .register 1]

theorem alloc_tag_sequence_overtaken :
    allocations Protocol.sample overtaken = [1, 2] ∧
    ∃ state, (machine Protocol.sample).run spawn overtaken = some state ∧
      state.pending.lookup 1 = some ⟨4, 1⟩ ∧ state.pending.lookup 2 = some ⟨1, 0⟩ ∧
      state.pending.lookup 0 = none := by
  refine ⟨rfl, _, rfl, rfl, rfl, ?_⟩
  exact (@alloc_tag_sequence _ Protocol.sample overtaken _ rfl).2.2.2.1

end DongloraClient.Session
