import VoiceGrammar.Proofs.Expansion.Limits
import VoiceGrammar.Proofs.Rule.Vocabulary

/-!
# Rules without a limit

Only a sequence that recurs makes a rule unlimited. Every part of a rule can be said somehow, so
a loop shows however deep it is nested; and every loop has a word in its body, so a further round
is always a longer one. A selection that recurs adds one choice and keeps every limit. The flag on
the expansion, which looks for loops and nothing else, is therefore exact.
-/

namespace VoiceGrammar

open scoped Computability

/-- A kind of group that goes on without end: a sequence that recurs. -/
def Kind.IsLoop (kind : Kind) : Prop :=
  kind.combination = .sequence ∧ kind.repetition = .repeatable

instance (kind : Kind) : Decidable kind.IsLoop :=
  inferInstanceAs (Decidable (_ ∧ _))

theorem Kind.isLoop_iff {kind : Kind} :
    kind.IsLoop ↔ kind = ⟨.sequence, .required, .repeatable⟩ ∨
      kind = ⟨.sequence, .optional, .repeatable⟩ := by
  obtain ⟨combination, obligation, repetition⟩ := kind
  cases combination <;> cases obligation <;> cases repetition <;> decide

namespace Rule

/-- A group of this kind stands in the rule, at any depth. -/
inductive HasGroup (kind : Kind) : Rule → Prop where
  | here (first : Rule) (rest : List Rule) : HasGroup kind (.group kind first rest)
  | inside {outer : Kind} {first child : Rule} {rest : List Rule} :
      child ∈ first :: rest → HasGroup kind child → HasGroup kind (.group outer first rest)

/-- Some group in the rule is a sequence that recurs. -/
def HasLoop (rule : Rule) : Prop :=
  ∃ kind : Kind, kind.IsLoop ∧ rule.HasGroup kind

theorem not_hasLoop_literal (token : Token) : ¬ (literal token).HasLoop := by
  rintro ⟨kind, _, found⟩
  cases found

theorem hasLoop_group {kind : Kind} {first : Rule} {rest : List Rule} :
    (group kind first rest).HasLoop ↔ kind.IsLoop ∨ ∃ child ∈ first :: rest, child.HasLoop := by
  constructor
  · rintro ⟨inner, isLoop, found⟩
    cases found with
    | here => exact .inl isLoop
    | inside isChild found => exact .inr ⟨_, isChild, inner, isLoop, found⟩
  · rintro (isLoop | ⟨child, isChild, inner, isLoop, found⟩)
    · exact ⟨kind, isLoop, .here first rest⟩
    · exact ⟨inner, isLoop, .inside isChild found⟩

end Rule

/-! ## The flag -/

namespace Expansion

theorem any_isUnbounded_sequenceItems (expansion : Expansion) :
    expansion.sequenceItems.any isUnbounded = expansion.isUnbounded := by
  cases expansion with
  | sequence items => rw [sequenceItems, isUnbounded, someUnbounded_eq]
  | _ => exact Bool.or_false _

theorem isUnbounded_join (parts : List Expansion) :
    (join parts).isUnbounded = parts.any isUnbounded := by
  have opened : (parts.flatMap sequenceItems).any isUnbounded = parts.any isUnbounded := by
    rw [List.any_flatMap]
    exact congrArg parts.any (funext any_isUnbounded_sequenceItems)
  rw [← opened, join]
  split
  · next item single => rw [single, List.any_cons, List.any_nil, Bool.or_false]
  · rw [isUnbounded, someUnbounded_eq]

theorem isUnbounded_choose (parts : List Expansion) :
    (choose parts).isUnbounded = parts.any isUnbounded := by
  rw [choose.eq_def]
  split
  · rw [List.any_cons, List.any_nil, Bool.or_false]
  · rw [isUnbounded, someUnbounded_eq]

theorem isUnbounded_onceOrTwice (body : Expansion) :
    (onceOrTwice body).isUnbounded = body.isUnbounded := by
  rw [onceOrTwice, isUnbounded, someUnbounded_eq, List.any_cons, List.any_cons, List.any_nil,
    isUnbounded, Bool.or_false, Bool.or_self]

/-- Joining, choosing and repeating once neither make a loop nor lose one. -/
theorem isUnbounded_ofParts (kind : Kind) (parts : List Expansion) :
    (ofParts kind parts).isUnbounded = (decide kind.IsLoop || parts.any isUnbounded) := by
  obtain ⟨combination, obligation, repetition⟩ := kind
  cases combination <;> cases obligation <;> cases repetition <;>
    simp [ofParts, Kind.IsLoop, isUnbounded, isUnbounded_join, isUnbounded_choose,
      isUnbounded_onceOrTwice]

end Expansion

theorem Rule.isUnbounded_expansion (rule : Rule) :
    rule.expansion.isUnbounded = true ↔ rule.HasLoop := by
  induction rule using Rule.induction with
  | literal token =>
    simp only [expansion, Expansion.isUnbounded, Bool.false_eq_true, not_hasLoop_literal]
  | group kind first rest inFirst inRest =>
    have inChildren : ∀ child ∈ first :: rest,
        child.expansion.isUnbounded = true ↔ child.HasLoop :=
      List.forall_mem_cons.2 ⟨inFirst, inRest⟩
    rw [expansion, expansions_eq, ← List.map_cons, Expansion.isUnbounded_ofParts, hasLoop_group,
      Bool.or_eq_true, decide_eq_true_iff, List.any_map, List.any_eq_true]
    exact or_congr_right (exists_congr fun child => and_congr_right (inChildren child))

/-! ## The language -/

section Parts

variable {α : Type} {parts : List α} {meaning : α → Language String} {spoken : α → List String}

/-- A sequence is limited when all its parts are, each of which has to be said. -/
theorem isLimited_prod (voices : ∀ part ∈ parts, Voices (meaning part) (spoken part)) :
    IsLimited (parts.map meaning).prod ↔ ∀ part ∈ parts, IsLimited (meaning part) := by
  induction parts with
  | nil =>
    simp only [List.map_nil, List.prod_nil, List.not_mem_nil, false_implies, implies_true, iff_true]
    exact isLimited_one
  | cons first rest inRest =>
    rw [List.forall_mem_cons] at voices
    rw [List.map_cons, List.prod_cons,
      isLimited_mul voices.1.nonempty (Voices.prod voices.2).nonempty, inRest voices.2,
      List.forall_mem_cons]

theorem isLimited_combined (kind : Kind)
    (voices : ∀ part ∈ parts, Voices (meaning part) (spoken part)) :
    IsLimited (kind.combined (parts.map meaning)) ↔ ∀ part ∈ parts, IsLimited (meaning part) := by
  rw [Kind.combined]
  cases kind.combination with
  | sequence => exact isLimited_prod voices
  | selection => exact isLimited_sum

end Parts

section Group

variable {language : Language String} {words : List String}

/-- A round of a loop has at least one word to say. -/
theorem not_isLimited_loop (voices : Voices language words) (spoken : words ≠ []) :
    ¬ IsLimited (language * language∗) := by
  obtain ⟨word, isWord⟩ := List.exists_mem_of_ne_nil words spoken
  obtain ⟨said, allowed, member⟩ := voices.used word isWord
  rw [isLimited_mul voices.nonempty ⟨[], Language.nil_mem_kstar language⟩]
  exact fun limited => not_isLimited_kstar allowed (List.ne_nil_of_mem member) limited.2

theorem isLimited_recurring (kind : Kind) (voices : Voices language words) (spoken : words ≠ []) :
    IsLimited (kind.recurring language) ↔ ¬ kind.IsLoop ∧ IsLimited language := by
  rw [Kind.IsLoop, Kind.recurring]
  cases kind.repetition with
  | single => simp
  | repeatable =>
    cases kind.combination with
    | sequence => simpa using not_isLimited_loop voices spoken
    | selection =>
      -- One further choice has the limit twice over.
      change IsLimited (language + language * language) ↔ _
      rw [isLimited_add, isLimited_mul voices.nonempty voices.nonempty]
      simp

theorem isLimited_omissible (kind : Kind) :
    IsLimited (kind.omissible language) ↔ IsLimited language := by
  rw [Kind.omissible]
  cases kind.obligation with
  | required => exact Iff.rfl
  | optional => rw [isLimited_add, and_iff_right isLimited_one]

end Group

namespace Rule

/-- Every rule has something to say. -/
theorem flatMap_words_tokens_ne_nil (rule : Rule) : rule.tokens.flatMap Token.words ≠ [] := by
  induction rule using Rule.induction with
  | literal token =>
    rw [tokens, List.flatMap_singleton, Token.words]
    exact List.map_eq_nil_iff.not.2 (List.splitOn_ne_nil ' ' _)
  | group kind first rest inFirst inRest =>
    rw [tokens, List.flatMap_append]
    exact List.append_ne_nil_of_left_ne_nil inFirst _

/-- A rule is limited exactly when it holds no loop. -/
theorem isLimited_language (rule : Rule) : IsLimited rule.language ↔ ¬ rule.HasLoop := by
  induction rule using Rule.induction with
  | literal token =>
    rw [language]
    exact iff_of_true (isLimited_singleton _) (not_hasLoop_literal token)
  | group kind first rest inFirst inRest =>
    have inChildren : ∀ child ∈ first :: rest, IsLimited child.language ↔ ¬ child.HasLoop :=
      List.forall_mem_cons.2 ⟨inFirst, inRest⟩
    have voices : ∀ child ∈ first :: rest,
        Voices child.language (child.tokens.flatMap Token.words) :=
      fun child _ => child.voices_language
    have together := Voices.ofCombined kind (List.cons_ne_nil first rest) voices
    have spoken : (first :: rest).flatMap (fun child => child.tokens.flatMap Token.words) ≠ [] := by
      rw [List.flatMap_cons]
      exact List.append_ne_nil_of_left_ne_nil first.flatMap_words_tokens_ne_nil _
    rw [language_group, Kind.language, isLimited_omissible,
      isLimited_recurring kind together spoken, isLimited_combined kind voices, hasLoop_group,
      not_or, forall₂_congr inChildren]
    simp only [not_exists, not_and]

end Rule

namespace RuleGroup

/-- The word sequences of a rule are the words of the utterances that its grammar accepts. -/
theorem exists_accepted_iff (group : RuleGroup) {property : List String → Prop} :
    (∃ utterance, group.expansion.accepts utterance = true ∧ property (Text.words utterance)) ↔
      ∃ said ∈ group.toRule.language, property said := by
  constructor
  · rintro ⟨utterance, accepted, holds⟩
    exact ⟨_, accepts_iff.1 accepted, holds⟩
  · rintro ⟨said, allowed, holds⟩
    obtain ⟨utterance, accepted, rfl⟩ := exists_accepted allowed
    exact ⟨utterance, accepted, holds⟩

/-- The flag is raised exactly when utterances of any length are accepted, and exactly when some
group in the rule is a sequence that recurs. Where it is not raised there is a longest utterance. -/
theorem isUnbounded_iff_unlimited (group : RuleGroup) :
    (group.expansion.isUnbounded = true ↔ ∀ limit, ∃ utterance,
      group.expansion.accepts utterance = true ∧ limit < (Text.words utterance).length) ∧
    (group.expansion.isUnbounded = true ↔
      group.toRule.HasGroup ⟨.sequence, .required, .repeatable⟩ ∨
        group.toRule.HasGroup ⟨.sequence, .optional, .repeatable⟩) ∧
    (group.expansion.isUnbounded = false ↔ ∃ longest,
      group.expansion.accepts longest = true ∧ ∀ utterance,
        group.expansion.accepts utterance = true →
          (Text.words utterance).length ≤ (Text.words longest).length) := by
  have flag : group.expansion.isUnbounded = true ↔ ¬ IsLimited group.toRule.language := by
    rw [expansion, Rule.isUnbounded_expansion, Rule.isLimited_language, not_not]
  refine ⟨?_, ?_, ?_⟩
  · rw [flag, not_isLimited_iff]
    exact forall_congr' fun limit => group.exists_accepted_iff.symm
  · rw [expansion, Rule.isUnbounded_expansion, Rule.HasLoop]
    simp only [Kind.isLoop_iff, or_and_right, exists_or, exists_eq_left]
  · rw [← Bool.not_eq_true, flag, not_not]
    constructor
    · intro limited
      obtain ⟨longest, allowed, greatest⟩ :=
        limited.exists_longest group.toRule.voices_language.nonempty
      obtain ⟨utterance, accepted, rfl⟩ := exists_accepted allowed
      exact ⟨utterance, accepted, fun other accepted' => greatest _ (accepts_iff.1 accepted')⟩
    · rintro ⟨longest, _, greatest⟩
      refine ⟨(Text.words longest).length, fun said allowed => ?_⟩
      obtain ⟨utterance, accepted, rfl⟩ := exists_accepted allowed
      exact greatest utterance accepted

end RuleGroup

end VoiceGrammar
