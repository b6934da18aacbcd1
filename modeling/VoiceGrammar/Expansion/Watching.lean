import VoiceGrammar.Expansion.Matching

/-!
# Watched matching

The matcher once more, as a program that can be watched: every position at which words are compared
with a phrase is put on record, and a comparison that starts behind the end of the words fails,
because there is no stretch of words to take. Nothing else is different.
-/

namespace VoiceGrammar.Expansion

/-- A program that keeps a record of positions and may fail. -/
abbrev Watched := StateT (List Nat) Option

/-- The words from a position on. The position behind the last word has none left; from there on
there are no positions. -/
def wordsFrom? (words : List String) (position : Nat) : Option (List String) :=
  if position ≤ words.length then some (words.drop position) else none

/-- Whether a phrase is spoken at a position, which is put on record. -/
def compareAt (phrase words : List String) (position : Nat) : Watched Bool := do
  modify (position :: ·)
  let rest ← wordsFrom? words position
  return phrase.isPrefixOf rest

/-- The positions right after a phrase that is spoken at one of the starts. -/
def watchPhrase (phrase words : List String) : (starts : List Nat) → Watched (List Nat)
  | [] => return []
  | start :: rest => do
    let spoken ← compareAt phrase words start
    let further ← watchPhrase phrase words rest
    return if spoken then (start + phrase.length) :: further else further

def watchClosure (step : List Nat → Watched (List Nat)) :
    (rounds : Nat) → (reached frontier : List Nat) → Watched (List Nat)
  | 0, reached, _ => return reached
  | rounds + 1, reached, frontier =>
    if frontier.isEmpty then return reached
    else do
      let fresh := (← step frontier).filter (· ∉ reached)
      watchClosure step rounds (reached ++ fresh) fresh

def watchClosureFrom (step : List Nat → Watched (List Nat)) (size : Nat) (starts : List Nat) :
    Watched (List Nat) := do
  let reached ← step starts
  watchClosure step (size + 1) reached reached

mutual

/-- The positions that are reached by saying the expansion from one of the starts. -/
def watch (words : List String) : Expansion → List Nat → Watched (List Nat)
  | .phrase token, starts => watchPhrase token.words words starts
  | .sequence items, starts => watchThrough words items starts
  | .alternatives items, starts => watchAny words items starts
  | .optional body, starts => return bothOf starts (← watch words body starts)
  | .oneOrMore body, starts => watchClosureFrom (watch words body) words.length starts
  | .zeroOrMore body, starts =>
    return bothOf starts (← watchClosureFrom (watch words body) words.length starts)

def watchThrough (words : List String) : List Expansion → List Nat → Watched (List Nat)
  | [], starts => return starts
  | first :: rest, starts => do watchThrough words rest (← watch words first starts)

def watchAny (words : List String) : List Expansion → List Nat → Watched (List Nat)
  | [], _ => return []
  | first :: rest, starts =>
    return bothOf (← watch words first starts) (← watchAny words rest starts)

end

/-- Whether an utterance can be said, or nothing if a comparison fails on the way. -/
def accepts? (expansion : Expansion) (utterance : String) : Option Bool := do
  let words := Text.words utterance
  let (reached, _) ← (watch words expansion [0]).run []
  return words.length ∈ reached

end VoiceGrammar.Expansion
