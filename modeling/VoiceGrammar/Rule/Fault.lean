import VoiceGrammar.Rule.Kind
import VoiceGrammar.Rule.Token
import VoiceGrammar.Spec.Value

/-!
# Faults of a specification

A value may fail to be a rule in several ways. Each fault names the place where it is: a rule or
an element is reached through the list bodies around it, a body is named by its keyword. Places
are kept as data and only shown as text in messages.
-/

namespace VoiceGrammar

/-- One step into a specification: the element with this index in the body of a rule of this
kind. -/
structure Step where
  kind : Kind
  index : Nat
  deriving DecidableEq, Repr

/-- Where in a specification something stands. -/
inductive Place where
  /-- Outside every specification: a token on its own. -/
  | alone
  /-- The rule or element that the steps lead to; no step at all is the whole value. -/
  | element (steps : List Step)
  /-- The body of the rule that the steps lead to, whose kind is given. -/
  | body (steps : List Step) (kind : Kind)
  deriving DecidableEq, Repr

def Step.text (step : Step) : String :=
  step.kind.key ++ "[" ++ toString step.index ++ "]"

def Place.text : Place → String
  | .alone => "<token>"
  | .element [] => "root"
  | .element steps => ".".intercalate (steps.map Step.text)
  | .body steps kind => ".".intercalate (steps.map Step.text ++ [kind.key])

/-- Why a value at the place of a rule does not name a kind of rule. -/
inductive KeyFlaw where
  | notMapping (found : Spec.Value)
  | noEntry
  /-- The first key that is equal to an earlier one. -/
  | duplicateKey (key : String)
  /-- All keys, when there are several and no two are equal. -/
  | severalKeys (keys : List String)
  | unknownKey (key : String)

def KeyFlaw.text : KeyFlaw → String
  | .notMapping found => "expected a rule mapping, found " ++ found.describe
  | .noEntry => "mapping has no rule key"
  | .duplicateKey key => "duplicate key '" ++ key ++ "'"
  | .severalKeys keys =>
    "mapping has " ++ toString keys.length ++ " keys (expected exactly one): " ++
      ", ".intercalate keys
  | .unknownKey key => "unrecognized rule type '" ++ key ++ "'"

/-- Why a value is not a rule. -/
inductive RuleFault where
  | malformedKey (place : Place) (flaw : KeyFlaw)
  | emptyBody (place : Place) (kind : Kind)
  | badToken (place : Place) (text : String) (flaw : TokenFlaw)
  | unexpected (place : Place) (found : Spec.Value)

def RuleFault.place : RuleFault → Place
  | .malformedKey place _ | .emptyBody place _ | .badToken place _ _ | .unexpected place _ => place

def RuleFault.message : RuleFault → String
  | .malformedKey place flaw => "Malformed rule key at " ++ place.text ++ ": " ++ flaw.text
  | .emptyBody place kind =>
    "Rule '" ++ kind.key ++ "' at " ++ place.text ++ " has an empty body"
  | .badToken place text .lowercase =>
    "Token '" ++ text ++ "' at " ++ place.text ++ " " ++ TokenFlaw.lowercase.reason
  | .badToken place text flaw =>
    "Invalid token '" ++ text ++ "' at " ++ place.text ++ ": " ++ flaw.reason
  | .unexpected place found =>
    "Unexpected " ++ found.describe ++ " at " ++ place.text ++
      " (expected a token string or a rule mapping)"

end VoiceGrammar
