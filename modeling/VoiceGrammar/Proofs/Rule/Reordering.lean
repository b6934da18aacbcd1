import Mathlib.Data.List.Forall2
import VoiceGrammar.Proofs.Rule.Loops
import VoiceGrammar.Rule.Variation

/-!
# Reordered rules

A sum does not depend on the order of its terms, so the language of a rule does not show in which
order its selections list their children. Whether the rule has a limit and which words it has can
both be read from its language, and so they do not show it either.
-/

namespace VoiceGrammar

theorem Kind.combined_of_perm {kind : Kind} (isSelection : kind.combination = .selection)
    {parts parts' : List (Language String)} (perm : parts.Perm parts') :
    kind.combined parts = kind.combined parts' := by
  rw [combined, combined, isSelection]
  exact perm.sum_eq

namespace Rule

/-- Induction on a reordering: a group may use the claim for each of its children. -/
theorem Reordered.induction {motive : Rule → Rule → Prop}
    (literal : ∀ token, motive (.literal token) (.literal token))
    (group : ∀ kind first first' rest rest', motive first first' → List.Forall₂ motive rest rest' →
      motive (.group kind first rest) (.group kind first' rest'))
    (selection : ∀ kind first first' rest rest', kind.combination = .selection →
      (first :: rest).Perm (first' :: rest') →
      motive (.group kind first rest) (.group kind first' rest'))
    (trans : ∀ rule rule' rule'', motive rule rule' → motive rule' rule'' → motive rule rule'')
    {rule rule' : Rule} (reordered : Reordered rule rule') : motive rule rule' := by
  refine Reordered.rec (motive_2 := fun rules rules' _ => List.Forall₂ motive rules rules')
    literal ?_ ?_ ?_ .nil ?_ reordered
  · exact fun kind _ _ _ _ _ _ => group kind _ _ _ _
  · exact selection _ _ _ _ _
  · exact fun _ _ => trans _ _ _
  · exact fun _ _ => .cons

/-- Reordered rules have the same language. -/
theorem Reordered.language_eq {rule rule' : Rule} (reordered : Reordered rule rule') :
    rule.language = rule'.language := by
  refine Reordered.induction (motive := fun rule rule' => rule.language = rule'.language)
    ?literal ?group ?selection ?trans reordered
  case literal => exact fun token => rfl
  case group =>
    intro kind first first' rest rest' inFirst inRest
    have inRest' : rest.map language = rest'.map language := by
      rwa [← List.forall₂_eq_eq_eq, List.forall₂_map_left_iff, List.forall₂_map_right_iff]
    rw [language_group, language_group, List.map_cons, List.map_cons, inFirst, inRest']
  case selection =>
    intro kind first first' rest rest' isSelection perm
    rw [language_group, language_group, Kind.language, Kind.language,
      Kind.combined_of_perm isSelection (perm.map language)]
  case trans => exact fun _ _ _ before behind => before.trans behind

theorem isUnbounded_eq_of_language_eq {rule rule' : Rule} (same : rule.language = rule'.language) :
    rule.expansion.isUnbounded = rule'.expansion.isUnbounded := by
  have flag : ∀ rule : Rule, rule.expansion.isUnbounded = true ↔ ¬ IsLimited rule.language := by
    intro rule
    rw [isUnbounded_expansion, isLimited_language, not_not]
  rw [Bool.eq_iff_iff, flag, flag, same]

end Rule

namespace RuleGroup

theorem mem_vocabulary_iff_said {group : RuleGroup} {word : String} :
    word ∈ group.vocabulary ↔ ∃ said ∈ group.toRule.language, word ∈ said := by
  have voices := group.toRule.voices_language
  rw [vocabulary, List.mem_eraseDups]
  constructor
  · exact voices.used word
  · rintro ⟨said, allowed, member⟩
    exact voices.heard said allowed word member

end RuleGroup

end VoiceGrammar
