import VoiceGrammar.Rule.OfValue

/-!
# All faults of a value

The faults of a value in the order of the document, found without building anything: those of a
mapping stand before those of its elements, and a list without elements is at fault last. A place
is found again in the value by following its steps.
-/

namespace VoiceGrammar

mutual

/-- The faults of the rule that the steps lead to. -/
def ruleFaults (steps : List Step) : Spec.Value → List RuleFault
  | .mapping [] => [.malformedKey (.element steps) .noEntry]
  | .mapping [(key, body)] =>
    match Kind.ofKey? key with
    | none => [.malformedKey (.element steps) (.unknownKey key)]
    | some kind =>
      match body with
      | .null => [.emptyBody (.body steps kind) kind]
      | .list items =>
        elementFaults steps kind 0 items ++
          if items.isEmpty then [.emptyBody (.body steps kind) kind] else []
      | found => [.unexpected (.body steps kind) found]
  | .mapping (first :: second :: rest) =>
    [.malformedKey (.element steps) (extraKeys ((first :: second :: rest).map Prod.fst))]
  | found => [.malformedKey (.element steps) (.notMapping found)]

/-- The faults of the elements of a body, from the one with this index on. -/
def elementFaults (steps : List Step) (kind : Kind) (index : Nat) :
    List Spec.Value → List RuleFault
  | [] => []
  | item :: items =>
    let here := steps ++ [⟨kind, index⟩]
    let own :=
      match item with
      | .text content =>
        ((tokenFlaw? content.toList).map (RuleFault.badToken (.element here) content)).toList
      | .mapping _ => ruleFaults here item
      | found => [.unexpected (.element here) found]
    own ++ elementFaults steps kind (index + 1) items

end

namespace Spec.Value

/-- The value of the only entry of a mapping, if its key names this kind. -/
def bodyOf? (kind : Kind) : Value → Option Value
  | .mapping [(key, body)] => if key = kind.key then some body else none
  | _ => none

def follow? : List Step → Value → Option Value
  | [], value => some value
  | step :: steps, value =>
    match value.bodyOf? step.kind with
    | some (.list items) =>
      match items[step.index]? with
      | some item => follow? steps item
      | none => none
    | _ => none

def at? (value : Value) : Place → Option Value
  | .alone => none
  | .element steps => value.follow? steps
  | .body steps kind => (value.follow? steps).bind (bodyOf? kind)

end Spec.Value

end VoiceGrammar
