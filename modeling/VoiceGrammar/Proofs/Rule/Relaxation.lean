import Mathlib.Algebra.Order.Kleene
import Mathlib.Order.CompletePartialOrder
import VoiceGrammar.Proofs.Rule.Meaning
import VoiceGrammar.Rule.Variation

/-!
# Relaxed rules allow more

Each axis of a kind is a monotone operation on languages, and each change that relaxes a rule goes
from a language to a greater one. Monotonicity carries the change through all groups around it, so
what the expansions look like, and how their simplifications meet the change, does not matter.
-/

namespace VoiceGrammar

open scoped Computability

namespace Kind

variable {language language' : Language String} {before after parts parts' : List (Language String)}

/-! ## Monotone axes -/

theorem combined_mono (kind : Kind) (le : language ≤ language') :
    kind.combined (before ++ language :: after) ≤ kind.combined (before ++ language' :: after) := by
  rw [combined, combined]
  cases kind.combination with
  | sequence =>
    simp only [List.prod_append, List.prod_cons]
    gcongr
  | selection =>
    simp only [List.sum_append, List.sum_cons]
    gcongr

theorem recurring_mono (kind : Kind) (le : language ≤ language') :
    kind.recurring language ≤ kind.recurring language' := by
  rw [recurring, recurring]
  cases kind.repetition with
  | single => exact le
  | repeatable =>
    cases kind.combination with
    | sequence => exact mul_le_mul' le (kstar_mono le)
    | selection => exact add_le_add le (mul_le_mul' le le)

theorem omissible_mono (kind : Kind) (le : language ≤ language') :
    kind.omissible language ≤ kind.omissible language' := by
  rw [omissible, omissible]
  cases kind.obligation with
  | required => exact le
  | optional => exact add_le_add le_rfl le

theorem language_mono (kind : Kind) (le : kind.combined parts ≤ kind.combined parts') :
    kind.language parts ≤ kind.language parts' :=
  kind.omissible_mono (kind.recurring_mono le)

/-! ## One change -/

/-- A further choice takes none of the others away. -/
theorem combined_le_of_selection {kind : Kind} (isSelection : kind.combination = .selection)
    (added : Language String) :
    kind.combined (before ++ after) ≤ kind.combined (before ++ added :: after) := by
  rw [combined, combined, isSelection]
  simp only [List.sum_append, List.sum_cons]
  gcongr
  exact le_add_self

end Kind

namespace Rule

theorem RelaxedKind.language_le {kind kind' : Kind} (relaxed : RelaxedKind kind kind')
    (parts : List (Language String)) : kind.language parts ≤ kind'.language parts := by
  cases relaxed with
  | omissible combination repetition =>
    -- The empty utterance is added to all that there was.
    exact le_add_self
  | repeatable combination obligation =>
    apply Kind.omissible_mono ⟨combination, obligation, .single⟩
    cases combination with
    | sequence => exact le_mul_of_one_le_right' one_le_kstar
    | selection => exact le_self_add

/-- What a rule allows, a relaxed rule allows too. -/
theorem Relaxed.language_le {rule rule' : Rule} (relaxed : Relaxed rule rule') :
    rule.language ≤ rule'.language := by
  induction relaxed with
  | kind first rest relaxedKind =>
    rw [language_group, language_group]
    exact relaxedKind.language_le _
  | child isSelection isChildren isChildren' =>
    rw [language_group, language_group, isChildren, isChildren', List.map_append, List.map_append,
      List.map_cons]
    exact Kind.language_mono _ (Kind.combined_le_of_selection isSelection _)
  | inside kind _ isChildren isChildren' inChild =>
    rw [language_group, language_group, isChildren, isChildren', List.map_append, List.map_append,
      List.map_cons, List.map_cons]
    exact kind.language_mono (kind.combined_mono inChild)

end Rule

namespace RuleGroup

/-- A relaxed rule accepts every utterance that the rule accepts. -/
theorem accepts_of_relaxed {group group' : RuleGroup}
    (relaxed : group.toRule.Relaxed group'.toRule) {utterance : String}
    (accepted : group.expansion.accepts utterance = true) :
    group'.expansion.accepts utterance = true := by
  rw [accepts_iff] at accepted ⊢
  exact relaxed.language_le accepted

/-- A further choice within a repeated selection, which a sequence around it repeats. -/
theorem accepts_of_relaxed_inside :
    let go : Rule := .literal ⟨"GO", by decide⟩
    let goNow : Rule := .literal ⟨"GO NOW", by decide⟩
    let now : Rule := .literal ⟨"NOW", by decide⟩
    let group : RuleGroup := ⟨⟨.sequence, .required, .repeatable⟩,
      .group ⟨.selection, .required, .repeatable⟩ go [], [now]⟩
    let group' : RuleGroup := ⟨⟨.sequence, .required, .repeatable⟩,
      .group ⟨.selection, .required, .repeatable⟩ goNow [go], [now]⟩
    group.toRule.Relaxed group'.toRule ∧
      group.expansion.accepts "GO NOW GO GO NOW" = true ∧
      group'.expansion.accepts "GO NOW GO GO NOW" = true := by
  intro go goNow now group group'
  have choice : Rule.Relaxed (.group ⟨.selection, .required, .repeatable⟩ go [])
      (.group ⟨.selection, .required, .repeatable⟩ goNow [go]) :=
    .child rfl (List.nil_append [go]).symm rfl
  have relaxed : group.toRule.Relaxed group'.toRule :=
    .inside _ choice (List.nil_append _).symm (List.nil_append _).symm
  have accepted : group.expansion.accepts "GO NOW GO GO NOW" = true := by decide +kernel
  exact ⟨relaxed, accepted, accepts_of_relaxed relaxed accepted⟩

end RuleGroup

end VoiceGrammar
