import VoiceGrammar.Rule.Token

/-!
# Expansions

An expansion is the right-hand side of a grammar rule: tokens put together in sequence or as
alternatives, made optional, or repeated. Unlike a rule it may be degenerate: an empty sequence
says nothing, and an empty choice cannot be said at all.
-/

namespace VoiceGrammar

/-- What a grammar rule expands to. -/
inductive Expansion where
  | phrase (token : Token)
  /-- All items, in order. -/
  | sequence (items : List Expansion)
  /-- Exactly one item. -/
  | alternatives (items : List Expansion)
  /-- The body or nothing. -/
  | optional (body : Expansion)
  /-- The body, one or more times. -/
  | oneOrMore (body : Expansion)
  /-- The body, zero or more times. -/
  | zeroOrMore (body : Expansion)

namespace Expansion

instance : Inhabited Expansion := ⟨.sequence []⟩

/-- Induction on an expansion: a sequence or a choice may use the claim for each of its items. -/
@[elab_as_elim]
theorem induction {motive : Expansion → Prop}
    (phrase : ∀ token, motive (.phrase token))
    (sequence : ∀ items, (∀ item ∈ items, motive item) → motive (.sequence items))
    (alternatives : ∀ items, (∀ item ∈ items, motive item) → motive (.alternatives items))
    (optional : ∀ body, motive body → motive (.optional body))
    (oneOrMore : ∀ body, motive body → motive (.oneOrMore body))
    (zeroOrMore : ∀ body, motive body → motive (.zeroOrMore body))
    (expansion : Expansion) : motive expansion := by
  refine Expansion.rec (motive_2 := fun items => ∀ item ∈ items, motive item)
    phrase sequence alternatives optional oneOrMore zeroOrMore ?_ ?_ expansion
  · simp
  · intro first rest inFirst inRest item member
    rcases List.mem_cons.1 member with rfl | member
    · exact inFirst
    · exact inRest item member

mutual

/-- Whether the expansion holds a repetition that has no upper limit. -/
def isUnbounded : Expansion → Bool
  | .phrase _ => false
  | .sequence items | .alternatives items => someUnbounded items
  | .optional body => isUnbounded body
  | .oneOrMore _ | .zeroOrMore _ => true

def someUnbounded : List Expansion → Bool
  | [] => false
  | first :: rest => isUnbounded first || someUnbounded rest

end

theorem someUnbounded_eq (items : List Expansion) :
    someUnbounded items = items.any isUnbounded := by
  induction items with
  | nil => rfl
  | cons first rest inRest => simp [someUnbounded, inRest]

mutual

/-- Every token of an expansion, from left to right. -/
def tokens : Expansion → List Token
  | .phrase token => [token]
  | .sequence items | .alternatives items => tokensOfAll items
  | .optional body | .oneOrMore body | .zeroOrMore body => tokens body

def tokensOfAll : List Expansion → List Token
  | [] => []
  | first :: rest => tokens first ++ tokensOfAll rest

end

theorem tokensOfAll_eq (items : List Expansion) : tokensOfAll items = items.flatMap tokens := by
  induction items with
  | nil => rfl
  | cons first rest inRest => simp [tokensOfAll, inRest]

end Expansion

end VoiceGrammar
