import VoiceGrammar.Expansion.Rounds
import VoiceGrammar.Proofs.Expansion.Matching

/-!
# Repetitions end with the least fixed point

Every round of the search but the last brings a position that was missing, so that the search of a
text is over after no more rounds than the text has words. That rounds from the frontier alone lose
nothing rests on steps being additive: what a set of positions reaches is what its members reach,
and all moves from outside the frontier are explored already.
-/

namespace VoiceGrammar.Expansion

open Relation (TransGen)

/-! ## Steps -/

section Steps

variable {step : List Nat → List Nat} {Moves : Nat → Nat → Prop}

theorem Follows.mem_append (follows : Follows step Moves) {positions others : List Nat}
    {stop : Nat} :
    stop ∈ step (positions ++ others) ↔ stop ∈ step positions ∨ stop ∈ step others := by
  simp only [follows _ stop, List.mem_append, or_and_right, exists_or]

/-- What one or more moves reach is the least set that is closed under a step. -/
theorem Follows.isClosureOf (follows : Follows step Moves) {starts found : List Nat}
    (reaches : ∀ stop, stop ∈ found ↔ ∃ start ∈ starts, TransGen Moves start stop) :
    IsClosureOf step (step starts) found where
  contains stop member := by
    obtain ⟨start, isStart, move⟩ := (follows starts stop).1 member
    exact (reaches stop).2 ⟨start, isStart, .single move⟩
  closed stop member := by
    obtain ⟨middle, isFound, move⟩ := (follows found stop).1 member
    obtain ⟨start, isStart, path⟩ := (reaches middle).1 isFound
    exact (reaches stop).2 ⟨start, isStart, .tail path move⟩
  least others contains closed stop isFound := by
    obtain ⟨start, isStart, path⟩ := (reaches stop).1 isFound
    induction path with
    | single move => exact contains ((follows starts _).2 ⟨start, isStart, move⟩)
    | tail path move inPath =>
      have known := inPath ((reaches _).2 ⟨start, isStart, path⟩)
      exact closed ((follows others _).2 ⟨_, known, move⟩)

end Steps

/-! ## Rounds -/

namespace Search

variable {step : List Nat → List Nat} {Moves : Nat → Nat → Prop} {size : Nat} {starts : List Nat}

theorem mem_fresh {search : Search} {position : Nat} :
    position ∈ search.fresh step ↔ position ∈ step search.frontier ∧ position ∉ search.reached :=
  Expansion.mem_fresh

theorem explored_after (follows : Follows step Moves) (rounds : Nat) :
    Explored Moves (after step starts rounds).reached (after step starts rounds).frontier := by
  induction rounds with
  | zero => exact explored_self Moves _
  | succ rounds inRounds => exact inRounds.round follows rfl

/-- Looking from the frontier alone finds all that looking from everything finds. -/
theorem mem_reachedAfter_iff (follows : Follows step Moves) (rounds : Nat) (position : Nat) :
    position ∈ reachedAfter step starts rounds ↔
      position ∈ (after step starts rounds).reached := by
  induction rounds generalizing position with
  | zero => exact Iff.rfl
  | succ rounds inRounds =>
    have explored : Explored Moves (after step starts rounds).reached _ :=
      explored_after follows rounds
    rw [reachedAfter, mem_bothOf, after, round, List.mem_append, mem_fresh, inRounds]
    constructor
    · rintro (known | found)
      · exact .inl known
      · by_cases known : position ∈ (after step starts rounds).reached
        · exact .inl known
        · -- Whatever leads to a new position is in the frontier: elsewhere all moves are explored.
          obtain ⟨start, reached, move⟩ := (follows _ position).1 found
          rw [inRounds] at reached
          have inFrontier : start ∈ (after step starts rounds).frontier := by
            by_contra outside
            exact known (explored.closed start reached outside position move)
          exact .inr ⟨(follows _ position).2 ⟨start, inFrontier, move⟩, known⟩
    · rintro (known | ⟨found, -⟩)
      · exact .inl known
      · obtain ⟨start, inFrontier, move⟩ := (follows _ position).1 found
        have reached := (inRounds start).2 (explored.known start inFrontier)
        exact .inr ((follows _ position).2 ⟨start, reached, move⟩)

theorem exists_new_of_fresh {rounds : Nat} (more : (after step starts rounds).fresh step ≠ []) :
    ∃ position ∈ (after step starts (rounds + 1)).reached,
      position ∉ (after step starts rounds).reached := by
  obtain ⟨position, member⟩ := List.exists_mem_of_ne_nil _ more
  exact ⟨position, List.mem_append_right _ member, (mem_fresh.1 member).2⟩

/-- Each round that finds something takes one position from those missing. -/
theorem card_missing_after (follows : Follows step Moves) (stays : StaysInside size Moves)
    {rounds : Nat} (more : ∀ round < rounds, (after step starts round).fresh step ≠ []) :
    (missing size (after step starts rounds).reached).card + rounds ≤
      (missing size (step starts)).card := by
  induction rounds with
  | zero => exact Nat.le_refl _
  | succ rounds inRounds =>
    have before := inRounds fun round earlier => more round (Nat.lt_succ_of_lt earlier)
    have lost := (explored_after follows rounds).card_missing_round follows stays rfl
      (more rounds (Nat.lt_succ_self rounds))
    change (missing size (after step starts (rounds + 1)).reached).card < _ at lost
    omega

/-- A search that finds anything starts with a position of the text, so that one less is missing
than the text has. -/
theorem card_missing_of_fresh (follows : Follows step Moves) (stays : StaysInside size Moves)
    (more : (after step starts 0).fresh step ≠ []) :
    (missing size (step starts)).card ≤ size := by
  obtain ⟨position, member⟩ := List.exists_mem_of_ne_nil _ more
  obtain ⟨-, start, reached, inside⟩ :=
    (explored_after follows 0).inside_of_mem_fresh follows stays member
  have lost := card_missing_lt inside List.not_mem_nil reached
  rw [List.nil_append] at lost
  exact Nat.le_of_lt_succ (Nat.lt_of_lt_of_le lost card_missing_le)

/-- The first round that finds nothing is one of the first `size + 1` rounds. -/
theorem exists_first_without_fresh (follows : Follows step Moves) (stays : StaysInside size Moves)
    (starts : List Nat) :
    ∃ last ≤ size, (∀ round < last, (after step starts round).fresh step ≠ []) ∧
      (after step starts last).fresh step = [] := by
  obtain ⟨found, bounded, none⟩ : ∃ round ≤ size, (after step starts round).fresh step = [] := by
    by_contra never
    have more : ∀ round < size + 1, (after step starts round).fresh step ≠ [] :=
      fun round earlier none => never ⟨round, Nat.le_of_lt_succ earlier, none⟩
    have first := card_missing_of_fresh follows stays (more 0 (Nat.succ_pos size))
    have later := card_missing_after follows stays more
    omega
  have ends : ∃ round, (after step starts round).fresh step = [] := ⟨found, none⟩
  exact ⟨Nat.find ends, Nat.le_trans (Nat.find_min' ends none) bounded,
    fun _ earlier => Nat.find_min ends earlier, Nat.find_spec ends⟩

/-- As long as rounds find something the bounded search takes one of its rounds for each. -/
theorem closure_after (follows : Follows step Moves) {rounds : Nat}
    (more : ∀ round < rounds, (after step starts round).fresh step ≠ []) (left : Nat) :
    closureFrom step (rounds + left) starts =
      closure step (left + 1) (after step starts rounds).reached
        (after step starts rounds).frontier := by
  induction rounds generalizing left with
  | zero => rw [Nat.zero_add]; rfl
  | succ rounds inRounds =>
    rw [Nat.add_right_comm, Nat.add_assoc,
      inRounds (fun round earlier => more round (Nat.lt_succ_of_lt earlier)) (left + 1),
      closure_succ follows (more rounds (Nat.lt_succ_self rounds))]
    rfl

/-- The search ends in the first round that finds nothing, and what it returns is what was reached
by then. -/
theorem exists_last_round (follows : Follows step Moves) (stays : StaysInside size Moves)
    (starts : List Nat) :
    ∃ last ≤ size, (∀ round < last, (after step starts round).fresh step ≠ []) ∧
      (after step starts last).fresh step = [] ∧
      (after step starts last).reached = closureFrom step size starts := by
  obtain ⟨last, bounded, more, none⟩ := exists_first_without_fresh follows stays starts
  refine ⟨last, bounded, more, none, ?_⟩
  obtain ⟨left, rfl⟩ := Nat.exists_eq_add_of_le bounded
  rw [closure_after follows more left]
  exact (closure_of_none none).symm

end Search

/-! ## The matcher -/

/-- The search of a repetition ends, in the first round that finds nothing: every round before it
brings a new position, and with that one there are at most as many rounds as positions in the
utterance. What it returns is the least set of positions that holds what the body reaches from the
starts and is closed under the body. Rounds that look from everything reached, and not from the
frontier alone, reach the same after every round. The body is followed from the members of a set
each on its own: from a union the union is reached, and nothing from the empty set. -/
theorem repetition_is_least_closure (words : List String) (body : Expansion) (starts : List Nat) :
    (∃ last ≤ words.length,
      (∀ round < last, ∃ position ∈ (Search.after (advance words body) starts (round + 1)).reached,
        position ∉ (Search.after (advance words body) starts round).reached) ∧
      (Search.after (advance words body) starts last).fresh (advance words body) = [] ∧
      (Search.after (advance words body) starts last).reached =
        closureFrom (advance words body) words.length starts) ∧
    IsClosureOf (advance words body) (advance words body starts)
      (closureFrom (advance words body) words.length starts) ∧
    (∀ rounds position, position ∈ reachedAfter (advance words body) starts rounds ↔
      position ∈ (Search.after (advance words body) starts rounds).reached) ∧
    (∀ positions others stop, stop ∈ advance words body (positions ++ others) ↔
      stop ∈ advance words body positions ∨ stop ∈ advance words body others) ∧
    advance words body [] = [] := by
  have follows := follows_advance words body
  have stays := staysInside_spans words body.language
  refine ⟨?_, follows.isClosureOf fun _ => mem_closureFrom follows stays,
    Search.mem_reachedAfter_iff follows, fun _ _ _ => follows.mem_append, follows.nil⟩
  obtain ⟨last, bounded, more, none, found⟩ := Search.exists_last_round follows stays starts
  exact ⟨last, bounded, fun round earlier => Search.exists_new_of_fresh (more round earlier),
    none, found⟩

end VoiceGrammar.Expansion
