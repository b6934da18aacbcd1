import Mathlib.Computability.Language
import VoiceGrammar.Rule.Tree

/-!
# The language of a rule

What a rule allows to be said, read off the three axes of its kind and nothing else. The axes act
one after the other: the children are combined, the combination may recur, and the whole may be
left out. Only a sequence recurs without limit; a selection that recurs is two choices at most.
-/

namespace VoiceGrammar

namespace Kind

/-- What the children say together. -/
def combined (kind : Kind) (parts : List (Language String)) : Language String :=
  match kind.combination with
  | .sequence => parts.prod
  | .selection => parts.sum

/-- What is said when the children may say `once` what they say together. -/
def recurring (kind : Kind) (once : Language String) : Language String :=
  match kind.repetition, kind.combination with
  | .single, _ => once
  | .repeatable, .sequence => once * KStar.kstar once
  | .repeatable, .selection => once + once * once

/-- What is said when all of it may have to be said. -/
def omissible (kind : Kind) (all : Language String) : Language String :=
  match kind.obligation with
  | .required => all
  | .optional => 1 + all

/-- The language of a group of this kind, from the languages of its children. -/
def language (kind : Kind) (parts : List (Language String)) : Language String :=
  kind.omissible (kind.recurring (kind.combined parts))

end Kind

namespace Rule

mutual

/-- The word sequences that a rule allows. -/
def language : Rule → Language String
  | .literal token => {token.words}
  | .group kind first rest => kind.language (language first :: languages rest)

def languages : List Rule → List (Language String)
  | [] => []
  | first :: rest => language first :: languages rest

end

theorem languages_eq (rules : List Rule) : languages rules = rules.map language := by
  induction rules with
  | nil => rfl
  | cons first rest inRest => simp [languages, inRest]

theorem language_group (kind : Kind) (first : Rule) (rest : List Rule) :
    (group kind first rest).language = kind.language ((first :: rest).map language) := by
  rw [language, languages_eq, List.map_cons]

end Rule

end VoiceGrammar
