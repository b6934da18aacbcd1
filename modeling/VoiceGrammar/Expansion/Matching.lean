import VoiceGrammar.Expansion.Basic

/-!
# Matching utterances

An utterance is matched by following, all at once, every way of reading it: a set of positions
between its words is moved past one part of the expansion after the other. A repeated body is
followed from the newest positions only, and since a text of `n` words has `n + 1` positions, no
more than that many rounds can each bring a new one.
-/

namespace VoiceGrammar

namespace Expansion

/-- The positions of either set, those of the first set first. -/
def bothOf (reached more : List Nat) : List Nat :=
  reached ++ more.filter (· ∉ reached)

@[simp]
theorem mem_bothOf {reached more : List Nat} {position : Nat} :
    position ∈ bothOf reached more ↔ position ∈ reached ∨ position ∈ more := by
  by_cases known : position ∈ reached <;> simp [bothOf, known]

/-- The positions that are reached from `frontier` by any number of further steps, together with
those `reached` already. Every frontier holds only positions that are new, so `rounds` is never
used up when it counts all positions. -/
def closure (step : List Nat → List Nat) :
    (rounds : Nat) → (reached frontier : List Nat) → List Nat
  | 0, reached, _ => reached
  | rounds + 1, reached, frontier =>
    if frontier.isEmpty then reached
    else
      let fresh := (step frontier).filter (· ∉ reached)
      closure step rounds (reached ++ fresh) fresh

/-- The positions that are reached from `starts` by one or more steps in a text of `size` words. -/
def closureFrom (step : List Nat → List Nat) (size : Nat) (starts : List Nat) : List Nat :=
  closure step (size + 1) (step starts) (step starts)

/-- The positions right after a phrase that is spoken at one of `starts`. -/
def advancePhrase (phrase words : List String) (starts : List Nat) : List Nat :=
  (starts.filter fun start => phrase.isPrefixOf (words.drop start)).map (· + phrase.length)

mutual

/-- The positions that are reached by saying the expansion from one of `starts`. -/
def advance (words : List String) : Expansion → List Nat → List Nat
  | .phrase token, starts => advancePhrase token.words words starts
  | .sequence items, starts => advanceThrough words items starts
  | .alternatives items, starts => advanceAny words items starts
  | .optional body, starts => bothOf starts (advance words body starts)
  | .oneOrMore body, starts => closureFrom (advance words body) words.length starts
  | .zeroOrMore body, starts =>
    bothOf starts (closureFrom (advance words body) words.length starts)

/-- The positions that are reached by saying all items in order. -/
def advanceThrough (words : List String) : List Expansion → List Nat → List Nat
  | [], starts => starts
  | first :: rest, starts => advanceThrough words rest (advance words first starts)

/-- The positions that are reached by saying one of the items. -/
def advanceAny (words : List String) : List Expansion → List Nat → List Nat
  | [], _ => []
  | first :: rest, starts =>
    bothOf (advance words first starts) (advanceAny words rest starts)

end

/-- Whether the words can be said, all of them and no others. -/
def acceptsWords (expansion : Expansion) (words : List String) : Bool :=
  words.length ∈ advance words expansion [0]

/-- Whether an utterance, words with blanks between them, can be said. -/
def accepts (expansion : Expansion) (utterance : String) : Bool :=
  expansion.acceptsWords (Text.words utterance)

end Expansion

end VoiceGrammar
