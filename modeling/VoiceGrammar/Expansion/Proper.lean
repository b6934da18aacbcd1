import VoiceGrammar.Expansion.Basic

/-!
# Proper expansions

An expansion is proper when every sequence and every choice in it, at any depth, has two items or
more. Such an expansion has no empty brackets and no bar without two sides.
-/

namespace VoiceGrammar.Expansion

/-- Every sequence and every choice has at least two items. -/
inductive IsProper : Expansion → Prop where
  | phrase (token : Token) : IsProper (.phrase token)
  | sequence {items : List Expansion} :
      2 ≤ items.length → (∀ item ∈ items, IsProper item) → IsProper (.sequence items)
  | alternatives {items : List Expansion} :
      2 ≤ items.length → (∀ item ∈ items, IsProper item) → IsProper (.alternatives items)
  | optional {body : Expansion} : IsProper body → IsProper (.optional body)
  | oneOrMore {body : Expansion} : IsProper body → IsProper (.oneOrMore body)
  | zeroOrMore {body : Expansion} : IsProper body → IsProper (.zeroOrMore body)

/-- No choice in the expansion, at any depth, is empty. -/
inductive IsSayable : Expansion → Prop where
  | phrase (token : Token) : IsSayable (.phrase token)
  | sequence {items : List Expansion} :
      (∀ item ∈ items, IsSayable item) → IsSayable (.sequence items)
  | alternatives {items : List Expansion} :
      items ≠ [] → (∀ item ∈ items, IsSayable item) → IsSayable (.alternatives items)
  | optional {body : Expansion} : IsSayable body → IsSayable (.optional body)
  | oneOrMore {body : Expansion} : IsSayable body → IsSayable (.oneOrMore body)
  | zeroOrMore {body : Expansion} : IsSayable body → IsSayable (.zeroOrMore body)

theorem IsProper.isSayable {expansion : Expansion} (proper : IsProper expansion) :
    IsSayable expansion := by
  induction proper with
  | phrase token => exact .phrase token
  | sequence _ _ items => exact .sequence items
  | alternatives two _ items =>
    apply IsSayable.alternatives _ items
    intro empty
    simp [empty] at two
  | optional _ body => exact .optional body
  | oneOrMore _ body => exact .oneOrMore body
  | zeroOrMore _ body => exact .zeroOrMore body

end VoiceGrammar.Expansion
