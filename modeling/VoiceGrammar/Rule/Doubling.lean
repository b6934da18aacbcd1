import VoiceGrammar.Rule.Tree

/-!
# Doubling

A selection that recurs is written twice in a row in a grammar, so a grammar doubles with every
such group around a literal. The tokens of the grammar are given here on the rule itself, and their
number as a sum over its literals.
-/

namespace VoiceGrammar

/-- How often a group of this kind is written in a row. -/
def Kind.copies (kind : Kind) : Nat :=
  if kind.combination = .selection ∧ kind.repetition = .repeatable then 2 else 1

namespace Rule

mutual

/-- The tokens of the grammar of a rule, from left to right. -/
def doubledTokens : Rule → List Token
  | .literal token => [token]
  | .group kind first rest =>
    (List.replicate kind.copies (doubledTokens first ++ doubledTokensOfAll rest)).flatten

def doubledTokensOfAll : List Rule → List Token
  | [] => []
  | first :: rest => doubledTokens first ++ doubledTokensOfAll rest

end

mutual

/-- For every literal, from left to right, the number of groups around it that are written
twice; `around` counts those around the rule. -/
def doublings (around : Nat) : Rule → List Nat
  | .literal _ => [around]
  | .group kind first rest =>
    doublings (around + (kind.copies - 1)) first ++
      doublingsOfAll (around + (kind.copies - 1)) rest

/-- The same for every literal of some rules. -/
def doublingsOfAll (around : Nat) : List Rule → List Nat
  | [] => []
  | first :: rest => doublings around first ++ doublingsOfAll around rest

end

end Rule

end VoiceGrammar
