import Mathlib.Algebra.BigOperators.Group.List.Basic
import Mathlib.Algebra.GroupWithZero.Nat
import VoiceGrammar.Proofs.Rule.Doubling

/-!
# The size of a grammar

Every group around a literal that is a repeated selection writes the literal twice as often, and
nothing else in a rule does. The size of a grammar is therefore a sum over the literals of its rule,
with a power of two for each of them. The induction carries the groups around the rule along, since
the share of a literal depends on all that stands above it.
-/

namespace VoiceGrammar

/-- One more group that is written twice doubles the power of two, and any other keeps it. -/
theorem Kind.two_pow_add_copies (kind : Kind) (around : Nat) :
    2 ^ (around + (kind.copies - 1)) = 2 ^ around * kind.copies := by
  rw [copies]
  split
  · exact Nat.pow_succ 2 around
  · exact (Nat.mul_one _).symm

namespace Rule

theorem doublingsOfAll_eq (around : Nat) (rules : List Rule) :
    doublingsOfAll around rules = rules.flatMap (doublings around) := by
  induction rules with
  | nil => rfl
  | cons first rest inRest => simp [doublingsOfAll, inRest]

theorem doublings_group (around : Nat) (kind : Kind) (first : Rule) (rest : List Rule) :
    (group kind first rest).doublings around =
      (first :: rest).flatMap (doublings (around + (kind.copies - 1))) := by
  rw [doublings, doublingsOfAll_eq, List.flatMap_cons]

theorem length_doubledTokens_group (kind : Kind) (first : Rule) (rest : List Rule) :
    (group kind first rest).doubledTokens.length =
      kind.copies * ((first :: rest).flatMap doubledTokens).length := by
  rw [doubledTokens, doubledTokensOfAll_eq, ← List.flatMap_cons, List.length_flatten,
    List.map_replicate, List.sum_replicate_nat]

/-- There is one number for every literal. -/
theorem length_doublings (rule : Rule) (around : Nat) :
    (rule.doublings around).length = rule.tokens.length := by
  induction rule using Rule.induction generalizing around with
  | literal token => rfl
  | group kind first rest inFirst inRest =>
    have inChildren := List.forall_mem_cons.2 ⟨inFirst, inRest⟩
    rw [doublings_group, tokens, tokensOfAll_eq, ← List.flatMap_cons, List.length_flatMap,
      List.length_flatMap]
    exact congrArg List.sum (List.map_congr_left fun child member => inChildren child member _)

/-- Shares of the same power of two add up. -/
theorem sum_doublings_of_each {around : Nat} {rules : List Rule}
    (each : ∀ rule ∈ rules,
      ((rule.doublings around).map (2 ^ ·)).sum = 2 ^ around * rule.doubledTokens.length) :
    ((rules.flatMap (doublings around)).map (2 ^ ·)).sum =
      2 ^ around * (rules.flatMap doubledTokens).length := by
  induction rules with
  | nil => rfl
  | cons first rest inRest =>
    rw [List.forall_mem_cons] at each
    rw [List.flatMap_cons, List.flatMap_cons, List.map_append, List.sum_append, each.1,
      inRest each.2, List.length_append, Nat.mul_add]

theorem sum_doublings (rule : Rule) (around : Nat) :
    ((rule.doublings around).map (2 ^ ·)).sum = 2 ^ around * rule.doubledTokens.length := by
  induction rule using Rule.induction generalizing around with
  | literal token => simp [doublings, doubledTokens]
  | group kind first rest inFirst inRest =>
    have inChildren := List.forall_mem_cons.2 ⟨inFirst, inRest⟩
    -- For the children the group itself is one more around them.
    rw [doublings_group, sum_doublings_of_each fun child member => inChildren child member _,
      kind.two_pow_add_copies, length_doubledTokens_group, Nat.mul_assoc]

end Rule

/-- From left to right, the tokens of the grammar of a rule are the tokens of its literals, with
those below a repeated selection written twice in a row. So every literal, of which there are as
many as there are tokens, is written two to the power of the number of the repeated selections
around it. -/
theorem RuleGroup.tokens_expansion_doubled (group : RuleGroup) :
    group.expansion.tokens = group.toRule.doubledTokens ∧
      (group.toRule.doublings 0).length = group.tokens.length ∧
      group.expansion.tokens.length = ((group.toRule.doublings 0).map (2 ^ ·)).sum := by
  have sameTokens : group.expansion.tokens = group.toRule.doubledTokens :=
    group.toRule.tokens_expansion
  refine ⟨sameTokens, group.toRule.length_doublings 0, ?_⟩
  calc group.expansion.tokens.length
    _ = 2 ^ 0 * group.toRule.doubledTokens.length := by rw [sameTokens, Nat.pow_zero, Nat.one_mul]
    _ = ((group.toRule.doublings 0).map (2 ^ ·)).sum := (group.toRule.sum_doublings 0).symm

end VoiceGrammar
