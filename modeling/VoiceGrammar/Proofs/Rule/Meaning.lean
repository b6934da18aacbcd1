import VoiceGrammar.Expansion.OfRule
import VoiceGrammar.Proofs.Expansion.Matching
import VoiceGrammar.Rule.Language

/-!
# Rules keep their meaning

The expansion of a rule has the language of the rule. The simplifications on the way, joining
nested sequences, dropping a choice with one item and writing a repeated choice twice, are laws of
the algebra of languages, and the eight kinds of rules come down to three of them.
-/

namespace VoiceGrammar

open scoped Computability

namespace Expansion

/-! ## Simplifications -/

theorem language_sequenceItems (expansion : Expansion) :
    (expansion.sequenceItems.map language).prod = expansion.language := by
  cases expansion with
  | sequence items => exact (language_sequence items).symm
  | _ => exact List.prod_singleton

theorem language_join (parts : List Expansion) :
    (join parts).language = (parts.map language).prod := by
  rw [← prod_language_flatMap fun part _ => language_sequenceItems part, join]
  -- The items are counted after nested sequences are opened, so a part may have gone altogether.
  split
  · next item single => rw [single, List.map_singleton, List.prod_singleton]
  · exact language_sequence _

theorem language_choose (parts : List Expansion) :
    (choose parts).language = (parts.map language).sum := by
  cases parts with
  | nil => exact language_alternatives []
  | cons first rest =>
    cases rest with
    | nil => rw [choose, List.map_singleton, List.sum_singleton]
    | cons second rest => exact language_alternatives _

theorem language_onceOrTwice (body : Expansion) :
    (onceOrTwice body).language = body.language + body.language * body.language := by
  rw [onceOrTwice, language_sequence]
  simp only [List.map_cons, List.map_nil, List.prod_cons, List.prod_nil, language_optional]
  rw [mul_one, mul_add, mul_one]

/-! ## Kinds -/

/-- The expansion of a group means what its kind makes of the meanings of its parts. -/
theorem language_ofParts (kind : Kind) (parts : List Expansion) :
    (ofParts kind parts).language = kind.language (parts.map language) := by
  obtain ⟨combination, obligation, repetition⟩ := kind
  cases combination with
  | sequence =>
    -- Only the optional repetition is more than its axes one after the other: `1 + L * L∗ = L∗`.
    cases obligation <;> cases repetition <;>
      simp only [ofParts, Kind.language, Kind.omissible, Kind.recurring, Kind.combined,
        language_optional, language_oneOrMore, language_zeroOrMore, language_join,
        Language.one_add_self_mul_kstar_eq_kstar]
  | selection =>
    cases obligation <;> cases repetition <;>
      simp only [ofParts, Kind.language, Kind.omissible, Kind.recurring, Kind.combined,
        language_optional, language_onceOrTwice, language_choose]

end Expansion

namespace Rule

open Expansion (language_phrase language_ofParts)

/-- A rule and its expansion have the same language. -/
theorem language_expansion (rule : Rule) : rule.expansion.language = rule.language := by
  induction rule using Rule.induction with
  | literal token => exact language_phrase token
  | group kind first rest inFirst inRest =>
    -- The kind is applied to the languages of the children and to nothing else of them.
    have inParts : (rest.map expansion).map Expansion.language = rest.map language := by
      rw [List.map_map]
      exact List.map_congr_left inRest
    rw [expansion, expansions_eq, language_ofParts, language_group, List.map_cons, List.map_cons,
      inFirst, inParts]

end Rule

theorem RuleGroup.accepts_iff {group : RuleGroup} {utterance : String} :
    group.expansion.accepts utterance = true ↔ Text.words utterance ∈ group.toRule.language := by
  rw [expansion, Expansion.accepts_iff, Rule.language_expansion]

/-- What the expansion of a rule accepts is what the rule means, and none of the simplifications
made on the way changes what is accepted. -/
theorem expansion_accepts_iff_language (utterance : String) :
    (∀ rule : Rule,
      rule.expansion.accepts utterance = true ↔ Text.words utterance ∈ rule.language) ∧
    (∀ group : RuleGroup,
      group.expansion.accepts utterance = true ↔
        Text.words utterance ∈ group.toRule.language) ∧
    (∀ parts : List Expansion,
      (Expansion.join parts).accepts utterance = (Expansion.sequence parts).accepts utterance) ∧
    (∀ parts : List Expansion,
      (Expansion.choose parts).accepts utterance =
        (Expansion.alternatives parts).accepts utterance) ∧
    ∀ body : Expansion,
      (Expansion.onceOrTwice body).accepts utterance = true ↔
        Text.words utterance ∈ body.language + body.language * body.language := by
  refine ⟨fun rule => ?_, fun group => ?_, fun parts => ?_, fun parts => ?_, fun body => ?_⟩
  · rw [Expansion.accepts_iff, Rule.language_expansion]
  · rw [RuleGroup.expansion, Expansion.accepts_iff, Rule.language_expansion]
  · rw [Bool.eq_iff_iff, Expansion.accepts_iff, Expansion.accepts_iff, Expansion.language_join,
      Expansion.language_sequence]
  · rw [Bool.eq_iff_iff, Expansion.accepts_iff, Expansion.accepts_iff, Expansion.language_choose,
      Expansion.language_alternatives]
  · rw [Expansion.accepts_iff, Expansion.language_onceOrTwice]

end VoiceGrammar
