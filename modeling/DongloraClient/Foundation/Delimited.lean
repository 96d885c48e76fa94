import Mathlib.Data.List.DropRight
import Mathlib.Data.List.Forall2

/-! # Marked streams

A receiver cuts a stream into pieces at a mark that ends each of them. The stream comes
from writers, one segment each, and a segment has the mark at its end, if it has it at
all: a writer that stops early leaves a segment without one, which the receiver takes for
the beginning of the next piece.
-/

namespace Foundation.Delimited

variable {Item : Type u} [DecidableEq Item] (mark : Item)

/-- The pieces that a mark has ended, and what has come since. `begun` is what had come
before. -/
def scan (begun : List Item) : List Item → List (List Item) × List Item
  | [] => ([], begun)
  | item :: rest =>
      if item = mark then (begun :: (scan [] rest).1, (scan [] rest).2)
      else scan (begun ++ [item]) rest

theorem scan_append (begun first second : List Item) :
    scan mark begun (first ++ second) =
      ((scan mark begun first).1 ++ (scan mark (scan mark begun first).2 second).1,
        (scan mark (scan mark begun first).2 second).2) := by
  induction first generalizing begun with
  | nil => rfl
  | cons item rest induction =>
      simp only [List.cons_append, scan]
      split
      · rw [induction]
        rfl
      · exact induction (begun ++ [item])

theorem scan_unmarked {begun items : List Item} (absent : mark ∉ items) :
    scan mark begun items = ([], begun ++ items) := by
  induction items generalizing begun with
  | nil => simp [scan]
  | cons item rest induction =>
      simp only [List.mem_cons, not_or] at absent
      rw [scan, if_neg (Ne.symm absent.1), induction absent.2, List.append_assoc]
      rfl

omit [DecidableEq Item] in
theorem eq_of_marked {segment : List Item} (marked : mark ∈ segment)
    (inner : mark ∉ segment.dropLast) : segment = segment.dropLast ++ [mark] := by
  have nonempty : segment ≠ [] := List.ne_nil_of_mem marked
  have split := List.dropLast_append_getLast nonempty
  rw [← split, List.mem_append, List.mem_singleton] at marked
  rcases marked with inside | last
  · exact absurd inside inner
  · rw [last, split]

theorem scan_segment {begun segment : List Item} (inner : mark ∉ segment.dropLast) :
    scan mark begun segment =
      if mark ∈ segment then ([begun ++ segment.dropLast], []) else ([], begun ++ segment) := by
  split
  · next marked =>
    rw [eq_of_marked mark marked inner, scan_append, scan_unmarked mark inner]
    simp [scan]
  · next unmarked => exact scan_unmarked mark unmarked

/-! ## Writers -/

section Writers

variable {Writer : Type v} (segments : Writer → List Item)

def ended (writer : Writer) : Bool := mark ∈ segments writer

def pieces (begun : List Item) (writers : List Writer) : List (List Item) :=
  (scan mark begun (writers.flatMap segments)).1

def remainder (begun : List Item) (writers : List Writer) : List Item :=
  (scan mark begun (writers.flatMap segments)).2

variable {mark segments} {begun : List Item} {writers : List Writer}

section Cons

variable {writer : Writer} (inner : mark ∉ (segments writer).dropLast)

include inner

theorem pieces_ended (isEnded : ended mark segments writer = true) :
    pieces mark segments begun (writer :: writers) =
      (begun ++ (segments writer).dropLast) :: pieces mark segments [] writers := by
  have marked : mark ∈ segments writer := by simpa [ended] using isEnded
  rw [pieces, List.flatMap_cons, scan_append, scan_segment mark inner, if_pos marked]
  rfl

theorem pieces_torn (isTorn : ended mark segments writer = false) :
    pieces mark segments begun (writer :: writers) =
      pieces mark segments (begun ++ segments writer) writers := by
  have unmarked : mark ∉ segments writer := by simpa [ended] using isTorn
  rw [pieces, List.flatMap_cons, scan_append, scan_segment mark inner, if_neg unmarked]
  rfl

end Cons

/-- One piece for each segment that was written to its mark, related to it by whatever a
piece that ends as the segment does is related by. -/
theorem pieces_of_writers {relation : List Item → Writer → Prop}
    (inner : ∀ writer ∈ writers, mark ∉ (segments writer).dropLast)
    (related : ∀ writer ∈ writers, ended mark segments writer = true →
      ∀ piece, (segments writer).dropLast <:+ piece → relation piece writer) :
    List.Forall₂ relation (pieces mark segments begun writers)
      (writers.filter (ended mark segments)) := by
  induction writers generalizing begun with
  | nil => exact .nil
  | cons writer writers induction =>
      have first := inner writer (by simp)
      have rest := fun later => @induction later
        (fun other member => inner other (by simp [member]))
        fun other member => related other (by simp [member])
      cases isEnded : ended mark segments writer with
      | true =>
          rw [pieces_ended first isEnded, List.filter_cons_of_pos isEnded]
          exact .cons (related writer (by simp) isEnded _ (List.suffix_append _ _)) (rest _)
      | false =>
          rw [pieces_torn first isEnded, List.filter_cons_of_neg (by simp [isEnded])]
          exact rest _

/-- What is left over belongs to the writers that have stopped early since the last mark. -/
theorem remainder_eq (inner : ∀ writer ∈ writers, mark ∉ (segments writer).dropLast) :
    remainder mark segments [] writers =
      (writers.rtakeWhile fun writer => !ended mark segments writer).flatMap segments := by
  induction writers using List.reverseRecOn with
  | nil => rfl
  | append_singleton writers writer induction =>
      have last := inner writer (by simp)
      have earlier := induction fun other member => inner other (by simp [member])
      rw [remainder, List.flatMap_append, List.flatMap_singleton, scan_append,
        scan_segment mark last]
      cases isEnded : ended mark segments writer with
      | true =>
          have marked : mark ∈ segments writer := by simpa [ended] using isEnded
          rw [if_pos marked, List.rtakeWhile_concat_neg _ _ _ (by simp [isEnded])]
          rfl
      | false =>
          have unmarked : mark ∉ segments writer := by simpa [ended] using isEnded
          rw [if_neg unmarked, List.rtakeWhile_concat_pos _ _ _ (by simp [isEnded]),
            List.flatMap_append, List.flatMap_singleton]
          exact congrArg (· ++ segments writer) earlier

theorem pieces_append (first second : List Writer) :
    pieces mark segments begun (first ++ second) =
      pieces mark segments begun first ++
        pieces mark segments (remainder mark segments begun first) second := by
  rw [pieces, List.flatMap_append, scan_append]
  rfl

theorem pieces_length (inner : ∀ writer ∈ writers, mark ∉ (segments writer).dropLast) :
    (pieces mark segments begun writers).length = writers.countP (ended mark segments) := by
  have paired : List.Forall₂ (fun _ _ => True) (pieces mark segments begun writers)
      (writers.filter (ended mark segments)) :=
    pieces_of_writers inner fun _ _ _ _ _ => trivial
  rw [List.countP_eq_length_filter]
  exact paired.length_eq

theorem pieces_getElem? {before after : List Writer} {writer : Writer}
    (inner : ∀ other ∈ before ++ writer :: after, mark ∉ (segments other).dropLast)
    (isEnded : ended mark segments writer = true) :
    (pieces mark segments [] (before ++ writer :: after))[before.countP (ended mark segments)]? =
      some ((before.rtakeWhile fun earlier => !ended mark segments earlier).flatMap segments ++
        (segments writer).dropLast) := by
  have earlier : ∀ other ∈ before, mark ∉ (segments other).dropLast :=
    fun other member => inner other (by simp [member])
  rw [pieces_append, pieces_ended (inner writer (by simp)) isEnded, ← pieces_length earlier,
    List.getElem?_append_right (Nat.le_refl _), Nat.sub_self, List.getElem?_cons_zero,
    remainder_eq earlier]

/-- The pieces that are not what was meant by them. -/
def spoiled (mark : Item) (segments : Writer → List Item) (begun : List Item)
    (writers : List Writer) : Nat :=
  ((pieces mark segments begun writers).zip
    ((writers.filter (ended mark segments)).map fun writer => (segments writer).dropLast)).countP
      fun pair => pair.1 ≠ pair.2

/-- The writers that stopped early, but not before they had written something. -/
def torn (mark : Item) (segments : Writer → List Item) (writers : List Writer) : Nat :=
  writers.countP fun writer => !ended mark segments writer && !(segments writer).isEmpty

/-- What has begun can spoil one piece, if it is not empty. -/
theorem spoiled_le (inner : ∀ writer ∈ writers, mark ∉ (segments writer).dropLast) :
    spoiled mark segments begun writers ≤
      (!begun.isEmpty).toNat + torn mark segments writers := by
  induction writers generalizing begun with
  | nil => simp [spoiled, pieces, scan]
  | cons writer writers induction =>
      have first := inner writer (by simp)
      have rest := fun other member => inner other (List.mem_cons_of_mem writer member)
      cases isEnded : ended mark segments writer with
      | true =>
          have later := @induction [] rest
          have same : torn mark segments (writer :: writers) = torn mark segments writers := by
            simp [torn, isEnded]
          have more : spoiled mark segments begun (writer :: writers) ≤
              (!begun.isEmpty).toNat + spoiled mark segments [] writers := by
            rw [spoiled, pieces_ended first isEnded, List.filter_cons_of_pos isEnded,
              List.map_cons, List.zip_cons_cons, List.countP_cons, Nat.add_comm]
            apply Nat.add_le_add_right
            cases begun with
            | nil => simp
            | cons item items => split <;> simp
          have nothing : (!([] : List Item).isEmpty).toNat = 0 := rfl
          omega
      | false =>
          have later := @induction (begun ++ segments writer) rest
          have same : spoiled mark segments begun (writer :: writers) =
              spoiled mark segments (begun ++ segments writer) writers := by
            rw [spoiled, pieces_torn first isEnded, List.filter_cons_of_neg (by simp [isEnded])]
            rfl
          have more : torn mark segments (writer :: writers) =
              torn mark segments writers + (!(segments writer).isEmpty).toNat := by
            rw [torn, List.countP_cons, isEnded]
            cases segments writer <;> rfl
          have either : (!(begun ++ segments writer).isEmpty).toNat ≤
              (!begun.isEmpty).toNat + (!(segments writer).isEmpty).toNat := by
            cases begun <;> cases segments writer <;> simp
          omega

end Writers

end Foundation.Delimited
