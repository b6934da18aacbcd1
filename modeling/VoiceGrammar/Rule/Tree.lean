import VoiceGrammar.Rule.Kind
import VoiceGrammar.Rule.Token

/-!
# Rules

A rule is a literal token or a group of rules of some kind. A group always has a first child, so
a group with nothing to say cannot be written down. A whole specification is a group. Functions on
rules come in pairs, one for a rule and one for a list of rules; the lemma beside each pair turns
the second into an operation on lists, after which only the first is ever needed.
-/

namespace VoiceGrammar

/-- A rule: a token, or a group of a kind with at least one child. -/
inductive Rule where
  | literal (token : Token)
  | group (kind : Kind) (first : Rule) (rest : List Rule)

structure RuleGroup where
  kind : Kind
  first : Rule
  rest : List Rule

namespace RuleGroup

def children (group : RuleGroup) : List Rule :=
  group.first :: group.rest

def toRule (group : RuleGroup) : Rule :=
  .group group.kind group.first group.rest

end RuleGroup

namespace Rule

/-- Induction on a rule: a group may use the claim for each of its children. -/
@[elab_as_elim]
theorem induction {motive : Rule → Prop}
    (literal : ∀ token, motive (.literal token))
    (group : ∀ kind first rest, motive first → (∀ rule ∈ rest, motive rule) →
      motive (.group kind first rest)) (rule : Rule) : motive rule := by
  refine Rule.rec (motive_2 := fun rules => ∀ rule ∈ rules, motive rule)
    literal group ?_ ?_ rule
  · simp
  · intro first rest inFirst inRest rule member
    rcases List.mem_cons.1 member with rfl | member
    · exact inFirst
    · exact inRest rule member

mutual

/-- Every token of a rule, depth first and in the order of the children. -/
def tokens : Rule → List Token
  | .literal token => [token]
  | .group _ first rest => tokens first ++ tokensOfAll rest

def tokensOfAll : List Rule → List Token
  | [] => []
  | first :: rest => tokens first ++ tokensOfAll rest

end

theorem tokensOfAll_eq (rules : List Rule) : tokensOfAll rules = rules.flatMap tokens := by
  induction rules with
  | nil => rfl
  | cons first rest inRest => simp [tokensOfAll, inRest]

mutual

/-- How deep groups nest in a rule; a literal has depth zero. -/
def depth : Rule → Nat
  | .literal _ => 0
  | .group _ first rest => 1 + max (depth first) (depthOfAll rest)

def depthOfAll : List Rule → Nat
  | [] => 0
  | first :: rest => max (depth first) (depthOfAll rest)

end

mutual

def decEq : (a b : Rule) → Decidable (a = b)
  | .literal token, .literal token' => decidable_of_iff (token = token') (by simp)
  | .group kind first rest, .group kind' first' rest' =>
    have := decEq first first'
    have := decEqAll rest rest'
    decidable_of_iff (kind = kind' ∧ first = first' ∧ rest = rest') (by simp)
  | .literal _, .group .. => isFalse (by simp)
  | .group .., .literal _ => isFalse (by simp)

def decEqAll : (as bs : List Rule) → Decidable (as = bs)
  | [], [] => isTrue rfl
  | a :: as, b :: bs =>
    have := decEq a b
    have := decEqAll as bs
    decidable_of_iff (a = b ∧ as = bs) (by simp)
  | [], _ :: _ => isFalse (by simp)
  | _ :: _, [] => isFalse (by simp)

end

instance : DecidableEq Rule := decEq

end Rule

namespace RuleGroup

deriving instance DecidableEq for RuleGroup

def tokens (group : RuleGroup) : List Token :=
  group.toRule.tokens

/-- How deep groups nest, this one counted. -/
def depth (group : RuleGroup) : Nat :=
  group.toRule.depth

end RuleGroup

end VoiceGrammar
