import VoiceGrammar.Text.Quoted

/-!
# Specification values

A rule specification is written as a data value: texts, lists and mappings, with numbers and truth
values kept only as the text they are shown with. A mapping keeps every entry in the order of the
document, equal keys included, so that a key written twice can be seen and refused.
-/

namespace VoiceGrammar.Spec

/-- A value as it is written in a specification. -/
inductive Value where
  | text (content : String)
  | list (items : List Value)
  | mapping (entries : List (String × Value))
  /-- A number or a truth value, known only by how it is shown. -/
  | scalar (shown : String)
  | null
  deriving Inhabited

namespace Value

def describe : Value → String
  | .text content => "string " ++ Text.quoted content
  | .list _ => "list"
  | .mapping _ => "mapping"
  | .scalar shown => "value " ++ shown
  | .null => "null"

/-- Induction on a value: a mapping from one keyword to a list may use the claim for each item of
the list. -/
@[elab_as_elim]
theorem itemInduction {motive : Value → Prop}
    (step : ∀ value, (∀ key items, value = .mapping [(key, .list items)] →
      ∀ item ∈ items, motive item) → motive value) (value : Value) : motive value := by
  apply step
  intro key items shape item member
  have smaller : sizeOf item < sizeOf value := by
    have below := List.sizeOf_lt_of_mem member
    simp only [shape, mapping.sizeOf_spec, List.cons.sizeOf_spec, Prod.mk.sizeOf_spec,
      list.sizeOf_spec]
    omega
  exact itemInduction step item
termination_by sizeOf value
decreasing_by exact smaller

end Value

end VoiceGrammar.Spec
