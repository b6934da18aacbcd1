import VoiceGrammar.Rule.Fault
import VoiceGrammar.Rule.Tree

/-!
# Rules from specification values

A rule is written as a mapping with one entry, from the keyword of its kind to the list of its
children, and a literal as a text. Reading such a value checks everything there is to check, so a
rule that was read needs no further validation; the first fault in the order of the document ends
the reading.
-/

namespace VoiceGrammar

/-- The first key that is equal to an earlier one or to one of `seen`. -/
def firstRepeat? (seen : List String) : List String → Option String
  | [] => none
  | key :: keys => if key ∈ seen then some key else firstRepeat? (key :: seen) keys

/-- What is wrong with a mapping that has these keys, when there are two or more. -/
def extraKeys (keys : List String) : KeyFlaw :=
  match firstRepeat? [] keys with
  | some key => .duplicateKey key
  | none => .severalKeys keys

/-- The token that a text is; a flaw is charged to the place of the text. -/
def Token.ofTextAt (place : Place) (text : String) : Except RuleFault Token :=
  match Token.ofText text with
  | .error flaw => .error (.badToken place text flaw)
  | .ok token => .ok token

namespace RuleGroup

/-- The group of some children, of which there has to be one; the place is that of its body. -/
def ofChildrenAt (place : Place) (kind : Kind) : List Rule → Except RuleFault RuleGroup
  | [] => .error (.emptyBody place kind)
  | first :: rest => .ok ⟨kind, first, rest⟩

/-- The group of some children that stand in no specification. -/
def ofChildren (kind : Kind) (children : List Rule) : Except RuleFault RuleGroup :=
  ofChildrenAt (.body [] kind) kind children

/-- An element of a body: a text is a token, a mapping is the group that it was read as, and
nothing else is an element. -/
def elementOf (here : List Step) (group : Except RuleFault RuleGroup) :
    Spec.Value → Except RuleFault Rule
  | .text content => (Token.ofTextAt (.element here) content).map Rule.literal
  | .mapping _ => group.map toRule
  | found => .error (.unexpected (.element here) found)

mutual

/-- Reads the rule that the steps lead to. -/
def ofValueAt (steps : List Step) : Spec.Value → Except RuleFault RuleGroup
  | .mapping [(key, body)] =>
    match Kind.ofKey? key with
    | none => .error (.malformedKey (.element steps) (.unknownKey key))
    | some kind =>
      match body with
      | .list items =>
        match childrenAt steps kind 0 items with
        | .error fault => .error fault
        | .ok children => ofChildrenAt (.body steps kind) kind children
      | .null => .error (.emptyBody (.body steps kind) kind)
      | found => .error (.unexpected (.body steps kind) found)
  | .mapping [] => .error (.malformedKey (.element steps) .noEntry)
  | .mapping entries =>
    .error (.malformedKey (.element steps) (extraKeys (entries.map Prod.fst)))
  | found => .error (.malformedKey (.element steps) (.notMapping found))

/-- Reads the children of a rule, from the one with this index on. -/
def childrenAt (steps : List Step) (kind : Kind) (index : Nat) :
    List Spec.Value → Except RuleFault (List Rule)
  | [] => .ok []
  | item :: items =>
    let here := steps ++ [⟨kind, index⟩]
    match elementOf here (ofValueAt here item) item with
    | .error fault => .error fault
    | .ok child =>
      match childrenAt steps kind (index + 1) items with
      | .error fault => .error fault
      | .ok children => .ok (child :: children)

end

/-- The rule that a specification value holds, or its first fault. -/
def ofValue (value : Spec.Value) : Except RuleFault RuleGroup :=
  ofValueAt [] value

end RuleGroup

namespace Rule

mutual

def toValue : Rule → Spec.Value
  | .literal token => .text token.text
  | .group kind first rest => .mapping [(kind.key, .list (toValue first :: toValues rest))]

def toValues : List Rule → List Spec.Value
  | [] => []
  | first :: rest => toValue first :: toValues rest

end

theorem toValues_eq (rules : List Rule) : toValues rules = rules.map toValue := by
  induction rules with
  | nil => rfl
  | cons first rest inRest => simp [toValues, inRest]

end Rule

end VoiceGrammar
