import Mathlib.Data.List.Chain
import VoiceGrammar.Expansion.BodyReading

/-!
# Gaps in rule bodies

A rule body may have gaps of two kinds: two blanks with nothing between them or a blank at one of
its ends, and a bracket or a bar with nothing where something has to stand.
-/

namespace VoiceGrammar.Body

/-- No two blanks stand side by side and none at an end; a text that is empty is not tight. -/
def IsTight (text : String) : Prop :=
  ∀ piece ∈ text.toList.splitOn ' ', piece ≠ []

namespace Symbol

/-- Whether something has to follow. -/
def opens : Symbol → Bool
  | .bar | .openRound | .openSquare => true
  | .word _ | .closeRound _ | .closeSquare => false

/-- Whether something has to stand before it. -/
def closes : Symbol → Bool
  | .bar | .closeRound _ | .closeSquare => true
  | .word _ | .openRound | .openSquare => false

/-- No gap is left between two symbols that stand side by side. -/
def Adjoins (before after : Symbol) : Prop :=
  before.opens = false ∨ after.closes = false

end Symbol

/-- Something stands in all brackets and on both sides of all bars. -/
structure IsFilled (symbols : List Symbol) : Prop where
  nonempty : symbols ≠ []
  first : ∀ symbol ∈ symbols.head?, symbol.closes = false
  last : ∀ symbol ∈ symbols.getLast?, symbol.opens = false
  inner : symbols.IsChain Symbol.Adjoins

end VoiceGrammar.Body
