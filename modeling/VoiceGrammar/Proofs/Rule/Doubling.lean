import VoiceGrammar.Expansion.OfRule
import VoiceGrammar.Proofs.Distinct
import VoiceGrammar.Rule.Doubling

/-!
# The tokens of an expansion

From left to right the expansion of a rule holds the tokens of the rule, those of a repeated
selection twice in a row. Joining sequences and dropping choices with one item move no token, and
a second copy brings no word that the first one did not bring.
-/

namespace VoiceGrammar

namespace Expansion

theorem tokens_sequenceItems (expansion : Expansion) :
    expansion.sequenceItems.flatMap tokens = expansion.tokens := by
  cases expansion with
  | sequence items => rw [sequenceItems, tokens, tokensOfAll_eq]
  | _ => simp [sequenceItems]

theorem tokens_join (parts : List Expansion) : (join parts).tokens = parts.flatMap tokens := by
  have opened : (parts.flatMap sequenceItems).flatMap tokens = parts.flatMap tokens := by
    rw [List.flatMap_assoc]
    simp only [tokens_sequenceItems]
  rw [join, ← opened]
  split
  · next item single => simp [single]
  · rw [tokens, tokensOfAll_eq]

theorem tokens_choose (parts : List Expansion) : (choose parts).tokens = parts.flatMap tokens := by
  rw [choose.eq_def]
  split
  · simp
  · rw [tokens, tokensOfAll_eq]

theorem tokens_onceOrTwice (body : Expansion) :
    (onceOrTwice body).tokens = body.tokens ++ body.tokens := by
  simp [onceOrTwice, tokens, tokensOfAll]

theorem tokens_ofParts (kind : Kind) (parts : List Expansion) :
    (ofParts kind parts).tokens =
      (List.replicate kind.copies (parts.flatMap tokens)).flatten := by
  obtain ⟨combination, obligation, repetition⟩ := kind
  cases combination <;> cases obligation <;> cases repetition <;>
    simp [ofParts, Kind.copies, tokens, tokens_join, tokens_choose, tokens_onceOrTwice]

end Expansion

namespace Rule

theorem doubledTokensOfAll_eq (rules : List Rule) :
    doubledTokensOfAll rules = rules.flatMap doubledTokens := by
  induction rules with
  | nil => rfl
  | cons first rest inRest => simp [doubledTokensOfAll, inRest]

/-- The tokens of the expansion of a rule are the tokens of the rule, doubled where a selection
recurs. -/
theorem tokens_expansion (rule : Rule) : rule.expansion.tokens = rule.doubledTokens := by
  induction rule using Rule.induction with
  | literal token => rfl
  | group kind first rest inFirst inRest =>
    have inChildren : (rest.map expansion).flatMap Expansion.tokens =
        rest.flatMap doubledTokens := by
      rw [List.flatMap_map]
      exact List.flatMap_congr inRest
    rw [expansion, expansions_eq, Expansion.tokens_ofParts, List.flatMap_cons, inFirst, inChildren,
      doubledTokens, doubledTokensOfAll_eq]

/-- Doubling leaves the words and the order of their first appearance as they are. -/
theorem eraseDups_words_doubledTokens (rule : Rule) :
    (rule.doubledTokens.flatMap Token.words).eraseDups =
      (rule.tokens.flatMap Token.words).eraseDups := by
  induction rule using Rule.induction with
  | literal token => rfl
  | group kind first rest inFirst inRest =>
    have positive : 0 < kind.copies := by
      rw [Kind.copies]
      split <;> decide
    -- The copies are made of tokens, and seen word by word they are copies of a list of words.
    have copied : ∀ tokens : List Token,
        (List.replicate kind.copies tokens).flatten.flatMap Token.words =
          (List.replicate kind.copies (tokens.flatMap Token.words)).flatten := by
      intro tokens
      rw [List.flatMap_def, List.map_flatten, List.map_replicate, List.flatten_flatten,
        List.map_replicate, ← List.flatMap_def]
    rw [doubledTokens, doubledTokensOfAll_eq, copied, Distinct.eraseDups_flatten_replicate positive,
      tokens, tokensOfAll_eq, List.flatMap_append, List.flatMap_append, List.flatMap_assoc,
      List.flatMap_assoc]
    exact Distinct.eraseDups_append_congr inFirst (Distinct.eraseDups_flatMap_congr inRest)

end Rule

/-- The words of the expansion of a group first appear in the order of its vocabulary. -/
theorem RuleGroup.eraseDups_words_expansion (group : RuleGroup) :
    (group.expansion.tokens.flatMap Token.words).eraseDups =
      (group.tokens.flatMap Token.words).eraseDups := by
  rw [expansion, Rule.tokens_expansion, Rule.eraseDups_words_doubledTokens, tokens]

end VoiceGrammar
