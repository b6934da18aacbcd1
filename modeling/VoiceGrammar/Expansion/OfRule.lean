import VoiceGrammar.Expansion.Basic
import VoiceGrammar.Rule.Tree

/-!
# Expansions of rules

A rule is expanded from its leaves upwards. Nested sequences are joined into one and a group with
a single child is replaced by that child, so that the expansion of a rule is never degenerate. A
selection that recurs allows one further choice; only a sequence that recurs becomes a loop.
-/

namespace VoiceGrammar

namespace Expansion

/-- The parts that an expansion contributes to a sequence around it. -/
def sequenceItems : Expansion → List Expansion
  | .sequence items => items
  | other => [other]

/-- The sequence of some parts, nested sequences joined to it; a single item stands for itself. -/
def join (parts : List Expansion) : Expansion :=
  match parts.flatMap sequenceItems with
  | [item] => item
  | items => .sequence items

/-- The choice between some parts; a single part stands for itself. -/
def choose : List Expansion → Expansion
  | [part] => part
  | parts => .alternatives parts

def onceOrTwice (body : Expansion) : Expansion :=
  .sequence [body, .optional body]

/-- The expansion of a group of this kind, from the expansions of its children. -/
def ofParts (kind : Kind) (parts : List Expansion) : Expansion :=
  match kind.combination, kind.obligation, kind.repetition with
  | .sequence, .required, .single => join parts
  | .sequence, .optional, .single => .optional (join parts)
  | .sequence, .required, .repeatable => .oneOrMore (join parts)
  | .sequence, .optional, .repeatable => .zeroOrMore (join parts)
  | .selection, .required, .single => choose parts
  | .selection, .optional, .single => .optional (choose parts)
  | .selection, .required, .repeatable => onceOrTwice (choose parts)
  | .selection, .optional, .repeatable => .optional (onceOrTwice (choose parts))

end Expansion

namespace Rule

mutual

def expansion : Rule → Expansion
  | .literal token => .phrase token
  | .group kind first rest => .ofParts kind (expansion first :: expansions rest)

def expansions : List Rule → List Expansion
  | [] => []
  | first :: rest => expansion first :: expansions rest

end

theorem expansions_eq (rules : List Rule) : expansions rules = rules.map expansion := by
  induction rules with
  | nil => rfl
  | cons first rest inRest => simp [expansions, inRest]

end Rule

def RuleGroup.expansion (group : RuleGroup) : Expansion :=
  group.toRule.expansion

end VoiceGrammar
