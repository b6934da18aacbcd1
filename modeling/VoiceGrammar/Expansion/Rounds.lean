import VoiceGrammar.Expansion.Matching

/-!
# Rounds of a repetition

The search for what a repeated body reaches, one round at a time and with no limit on the rounds.
A round looks from the frontier only; beside it stands the search that looks from everything
reached so far, round for round.
-/

namespace VoiceGrammar.Expansion

/-- How far the search has come: the positions reached, and those of them to look from next. -/
structure Search where
  reached : List Nat
  frontier : List Nat

namespace Search

/-- What a round finds that was not reached before. -/
def fresh (step : List Nat → List Nat) (search : Search) : List Nat :=
  (step search.frontier).filter (· ∉ search.reached)

/-- A round: what it finds is reached and becomes the next frontier. -/
def round (step : List Nat → List Nat) (search : Search) : Search :=
  ⟨search.reached ++ search.fresh step, search.fresh step⟩

/-- The search after a number of rounds; it starts with what one step reaches. -/
def after (step : List Nat → List Nat) (starts : List Nat) : (rounds : Nat) → Search
  | 0 => ⟨step starts, step starts⟩
  | rounds + 1 => (after step starts rounds).round step

end Search

/-- What is reached after a number of rounds that each look from everything reached so far. -/
def reachedAfter (step : List Nat → List Nat) (starts : List Nat) : (rounds : Nat) → List Nat
  | 0 => step starts
  | rounds + 1 =>
    let reached := reachedAfter step starts rounds
    bothOf reached (step reached)

/-- The least set of positions that holds those of `base` and is closed under a step. -/
structure IsClosureOf (step : List Nat → List Nat) (base positions : List Nat) : Prop where
  contains : base ⊆ positions
  closed : step positions ⊆ positions
  least : ∀ others, base ⊆ others → step others ⊆ others → positions ⊆ others

end VoiceGrammar.Expansion
