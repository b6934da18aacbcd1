import VoiceGrammar.Proofs.Rule.Meaning
import VoiceGrammar.Proofs.Text.CharClasses
import VoiceGrammar.Rule.Vocabulary

/-!
# A rule says the words of its vocabulary

No rule is silenced: its language holds at least one word sequence, however its groups are nested.
That is why every word of a rule occurs in something that the rule allows, since the parts around
the word can always be said somehow. The two facts go through the same induction, as one property
of a language and a list of words.
-/

namespace VoiceGrammar

open scoped Computability

/-- Something can be said, and the words are those that occur in what can be said. -/
structure Voices (language : Language String) (words : List String) : Prop where
  nonempty : ∃ said, said ∈ language
  heard : ∀ said ∈ language, ∀ word ∈ said, word ∈ words
  used : ∀ word ∈ words, ∃ said ∈ language, word ∈ said

namespace Voices

variable {language language' : Language String} {words words' : List String}

theorem singleton (words : List String) : Voices {words} words where
  nonempty := ⟨words, rfl⟩
  heard := by
    rintro said rfl word member
    exact member
  used word member := ⟨words, rfl, member⟩

theorem one : Voices 1 [] where
  nonempty := ⟨[], Language.nil_mem_one⟩
  heard := by
    rintro said rfl word member
    exact member
  used word member := absurd member List.not_mem_nil

theorem add (voices : Voices language words) (voices' : Voices language' words') :
    Voices (language + language') (words ++ words') where
  nonempty := by
    obtain ⟨said, inFirst⟩ := voices.nonempty
    exact ⟨said, .inl inFirst⟩
  heard := by
    rintro said (inFirst | inSecond) word member
    · exact List.mem_append_left _ (voices.heard said inFirst word member)
    · exact List.mem_append_right _ (voices'.heard said inSecond word member)
  used word member := by
    rcases List.mem_append.1 member with member | member
    · obtain ⟨said, inFirst, member⟩ := voices.used word member
      exact ⟨said, .inl inFirst, member⟩
    · obtain ⟨said, inSecond, member⟩ := voices'.used word member
      exact ⟨said, .inr inSecond, member⟩

theorem mul (voices : Voices language words) (voices' : Voices language' words') :
    Voices (language * language') (words ++ words') where
  nonempty := by
    obtain ⟨said, inFirst⟩ := voices.nonempty
    obtain ⟨further, inSecond⟩ := voices'.nonempty
    exact ⟨said ++ further, said, inFirst, further, inSecond, rfl⟩
  heard := by
    rintro _ ⟨said, inFirst, further, inSecond, rfl⟩ word member
    rcases List.mem_append.1 member with member | member
    · exact List.mem_append_left _ (voices.heard said inFirst word member)
    · exact List.mem_append_right _ (voices'.heard further inSecond word member)
  used word member := by
    -- The factor without the word still has to be said, and here it can be.
    rcases List.mem_append.1 member with member | member
    · obtain ⟨said, inFirst, member⟩ := voices.used word member
      obtain ⟨further, inSecond⟩ := voices'.nonempty
      exact ⟨said ++ further, ⟨said, inFirst, further, inSecond, rfl⟩,
        List.mem_append_left _ member⟩
    · obtain ⟨said, inFirst⟩ := voices.nonempty
      obtain ⟨further, inSecond, member⟩ := voices'.used word member
      exact ⟨said ++ further, ⟨said, inFirst, further, inSecond, rfl⟩,
        List.mem_append_right _ member⟩

theorem of_mem_iff (voices : Voices language words) (same : ∀ word, word ∈ words ↔ word ∈ words') :
    Voices language words' where
  nonempty := voices.nonempty
  heard said inside word member := (same word).1 (voices.heard said inside word member)
  used word member := voices.used word ((same word).2 member)

theorem kstar (voices : Voices language words) : Voices language∗ words where
  nonempty := ⟨[], Language.nil_mem_kstar language⟩
  heard := by
    rintro _ ⟨parts, rfl, inParts⟩ word member
    obtain ⟨part, isPart, member⟩ := List.mem_flatten.1 member
    exact voices.heard part (inParts part isPart) word member
  used word member := by
    obtain ⟨said, inside, member⟩ := voices.used word member
    refine ⟨said, ⟨[said], by simp, ?_⟩, member⟩
    simpa using inside

section Parts

variable {α : Type} {parts : List α} {meaning : α → Language String} {spoken : α → List String}

theorem prod (voices : ∀ part ∈ parts, Voices (meaning part) (spoken part)) :
    Voices (parts.map meaning).prod (parts.flatMap spoken) := by
  induction parts with
  | nil => exact one
  | cons first rest inRest =>
    rw [List.forall_mem_cons] at voices
    rw [List.map_cons, List.prod_cons, List.flatMap_cons]
    exact voices.1.mul (inRest voices.2)

theorem sum (nonempty : parts ≠ [])
    (voices : ∀ part ∈ parts, Voices (meaning part) (spoken part)) :
    Voices (parts.map meaning).sum (parts.flatMap spoken) := by
  induction parts with
  | nil => exact absurd rfl nonempty
  | cons first rest inRest =>
    rw [List.forall_mem_cons] at voices
    rw [List.map_cons, List.sum_cons, List.flatMap_cons]
    cases rest with
    | nil => simpa using voices.1
    | cons second rest => exact voices.1.add (inRest (List.cons_ne_nil _ _) voices.2)

/-- However a group combines its children, it says all their words and no others. -/
theorem ofCombined (kind : Kind) (nonempty : parts ≠ [])
    (voices : ∀ part ∈ parts, Voices (meaning part) (spoken part)) :
    Voices (kind.combined (parts.map meaning)) (parts.flatMap spoken) := by
  cases combination : kind.combination with
  | sequence => simpa [Kind.combined, combination] using prod voices
  | selection => simpa [Kind.combined, combination] using sum nonempty voices

/-- Whatever the kind of a group makes of its children, it says all their words and no others. -/
theorem ofKind (kind : Kind) (nonempty : parts ≠ [])
    (voices : ∀ part ∈ parts, Voices (meaning part) (spoken part)) :
    Voices (kind.language (parts.map meaning)) (parts.flatMap spoken) := by
  have together := ofCombined kind nonempty voices
  have again : Voices (kind.recurring (kind.combined (parts.map meaning)))
      (parts.flatMap spoken) := by
    cases repetition : kind.repetition with
    | single => simpa [Kind.recurring, repetition] using together
    | repeatable =>
      cases combination : kind.combination with
      | sequence =>
        have looped := together.mul together.kstar
        simpa [Kind.recurring, repetition, combination] using looped.of_mem_iff (by simp)
      | selection =>
        have twice := together.add (together.mul together)
        simpa [Kind.recurring, repetition, combination] using twice.of_mem_iff (by simp)
  rw [Kind.language]
  cases obligation : kind.obligation with
  | required => simpa [Kind.omissible, obligation] using again
  | optional => simpa [Kind.omissible, obligation] using one.add again

end Parts

end Voices

namespace Rule

/-- A rule says the words of its tokens and no others. -/
theorem voices_language (rule : Rule) :
    Voices rule.language (rule.tokens.flatMap Token.words) := by
  induction rule using Rule.induction with
  | literal token => simpa [language, tokens] using Voices.singleton token.words
  | group kind first rest inFirst inRest =>
    have inChildren : ∀ child ∈ first :: rest,
        Voices child.language (child.tokens.flatMap Token.words) :=
      List.forall_mem_cons.2 ⟨inFirst, inRest⟩
    have voices := Voices.ofKind kind (List.cons_ne_nil first rest) inChildren
    simpa [language_group, tokens, tokensOfAll_eq, List.flatMap_assoc] using voices

theorem isUnbroken_of_mem_language {rule : Rule} {said : List String}
    (allowed : said ∈ rule.language) : ∀ word ∈ said, Text.IsUnbroken word.toList := by
  intro word member
  have inTokens := rule.voices_language.heard said allowed word member
  obtain ⟨token, _, inToken⟩ := List.mem_flatMap.1 inTokens
  exact (Token.isWord_of_mem_words inToken).isUnbroken

end Rule

namespace RuleGroup

theorem mem_vocabulary_iff {group : RuleGroup} {word : String} :
    word ∈ group.vocabulary ↔ ∃ token ∈ group.tokens, word ∈ token.words := by
  rw [vocabulary, List.mem_eraseDups, List.mem_flatMap]

/-- What the rule allows can be spoken as an utterance with exactly these words. -/
theorem exists_accepted {group : RuleGroup} {said : List String}
    (allowed : said ∈ group.toRule.language) :
    ∃ utterance, group.expansion.accepts utterance = true ∧ Text.words utterance = said := by
  have words := Text.words_intercalate (Rule.isUnbroken_of_mem_language allowed)
  refine ⟨" ".intercalate said, ?_, words⟩
  rw [accepts_iff, words]
  exact allowed

/-- The vocabulary of a rule holds exactly the words of the utterances that its grammar accepts. -/
theorem mem_vocabulary_iff_accepted (group : RuleGroup) (word : String) :
    word ∈ group.vocabulary ↔
      ∃ utterance, group.expansion.accepts utterance = true ∧ word ∈ Text.words utterance := by
  have voices := group.toRule.voices_language
  rw [mem_vocabulary_iff, ← List.mem_flatMap, tokens]
  constructor
  · intro member
    obtain ⟨said, allowed, inSaid⟩ := voices.used word member
    obtain ⟨utterance, accepted, rfl⟩ := exists_accepted allowed
    exact ⟨utterance, accepted, inSaid⟩
  · rintro ⟨utterance, accepted, inUtterance⟩
    rw [expansion, Expansion.accepts_iff, Rule.language_expansion] at accepted
    exact voices.heard _ accepted word inUtterance

end RuleGroup

end VoiceGrammar
