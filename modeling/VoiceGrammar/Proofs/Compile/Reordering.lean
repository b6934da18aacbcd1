import VoiceGrammar.Proofs.Compile.WordLines
import VoiceGrammar.Proofs.Rule.Reordering

/-!
# Compiling reordered rules

Reordered rules have the same language, and everything that can be observed of a rule but the order
of words goes back to its language: what its grammar accepts, whether it has a limit, and which
words are looked up. Of a compilation the order of the words is all that changes.
-/

namespace VoiceGrammar

open Dictionary

/-- Two answers of a compilation that differ in the order of words at most. -/
inductive SameButOrder : Except Failure Artifacts → Except Failure Artifacts → Prop where
  | badRuleName (name : String) :
      SameButOrder (.error (.badRuleName name)) (.error (.badRuleName name))
  /-- The same words are unknown. -/
  | unknownWords {words words' : List String} :
      words.Perm words' →
      SameButOrder (.error (.unknownWords words)) (.error (.unknownWords words'))
  /-- The dictionaries have the same lines, and for each word in the same order. -/
  | compiled {artifacts artifacts' : Artifacts} :
      (Text.lines artifacts.dictionary.toList).Perm (Text.lines artifacts'.dictionary.toList) →
      (∀ word, linesOf word artifacts.dictionary = linesOf word artifacts'.dictionary) →
      SameButOrder (.ok artifacts) (.ok artifacts')

namespace RuleGroup

variable {group group' : RuleGroup}

theorem vocabulary_perm_of_language_eq (same : group.toRule.language = group'.toRule.language) :
    group.vocabulary.Perm group'.vocabulary := by
  rw [List.perm_ext_iff_of_nodup group.nodup_vocabulary group'.nodup_vocabulary]
  intro word
  rw [mem_vocabulary_iff_said, mem_vocabulary_iff_said, same]

/-- Rules with the same words, whatever their order, compile alike. -/
theorem sameButOrder_compile (perm : group.vocabulary.Perm group'.vocabulary) (name : String)
    (pairs : List (String × String)) :
    SameButOrder (group.compile name (Lexicon.ofPairs pairs).pronunciations?)
      (group'.compile name (Lexicon.ofPairs pairs).pronunciations?) := by
  have sameUnknown : (unknown (Lexicon.ofPairs pairs).pronunciations? group.vocabulary).Perm
      (unknown (Lexicon.ofPairs pairs).pronunciations? group'.vocabulary) :=
    perm.filter _
  cases isName : Grammar.isRuleName name with
  | false =>
    rw [compile_of_isRuleName_eq_false isName, compile_of_isRuleName_eq_false isName]
    exact .badRuleName name
  | true =>
    by_cases none : unknown (Lexicon.ofPairs pairs).pronunciations? group.vocabulary = []
    · have none' := List.nil_perm.1 (none ▸ sameUnknown)
      have compiled := compile_of_known isName none
      have compiled' := compile_of_known isName none'
      rw [compiled, compiled']
      apply SameButOrder.compiled
      · rw [lines_of_compile compiled, lines_of_compile compiled']
        exact (perm.flatMap_right _).map lineChars
      · intro word
        rw [linesOf_of_compile compiled, linesOf_of_compile compiled']
        simp only [perm.mem_iff]
    · have some' : unknown (Lexicon.ofPairs pairs).pronunciations? group'.vocabulary ≠ [] :=
        fun none' => none (List.perm_nil.1 (none' ▸ sameUnknown))
      rw [compile_of_unknown isName none, compile_of_unknown isName some']
      exact .unknownWords sameUnknown

/-- Reordering the children of selections changes neither what is accepted nor whether there is a
limit, and of a compilation only the order of words. -/
theorem reordered_unobservable (reordered : group.toRule.Reordered group'.toRule) :
    (∀ utterance, group.expansion.accepts utterance = group'.expansion.accepts utterance) ∧
      group.expansion.isUnbounded = group'.expansion.isUnbounded ∧
      ∀ name pairs,
        SameButOrder (group.compile name (Lexicon.ofPairs pairs).pronunciations?)
          (group'.compile name (Lexicon.ofPairs pairs).pronunciations?) := by
  have same := reordered.language_eq
  refine ⟨fun utterance => ?accepts, Rule.isUnbounded_eq_of_language_eq same,
    sameButOrder_compile (vocabulary_perm_of_language_eq same)⟩
  case accepts => rw [Bool.eq_iff_iff, accepts_iff, accepts_iff, same]

/-- Two selections are reordered, one of them deep within the other. -/
theorem reordered_unobservable_nested :
    let go : Rule := .literal ⟨"GO", by decide⟩
    let left : Rule := .literal ⟨"LEFT", by decide⟩
    let now : Rule := .literal ⟨"NOW", by decide⟩
    let stop : Rule := .literal ⟨"STOP", by decide⟩
    let group : RuleGroup := ⟨⟨.selection, .required, .single⟩,
      .group ⟨.sequence, .required, .repeatable⟩
        (.group ⟨.selection, .optional, .repeatable⟩ go [left]) [now], [stop]⟩
    let group' : RuleGroup := ⟨⟨.selection, .required, .single⟩, stop,
      [.group ⟨.sequence, .required, .repeatable⟩
        (.group ⟨.selection, .optional, .repeatable⟩ left [go]) [now]]⟩
    let pairs := [("GO", "G OW"), ("LEFT", "L EH F T"), ("GO", "G AO")]
    group.toRule.Reordered group'.toRule ∧
      group'.expansion.accepts "LEFT GO NOW NOW" = true ∧
      SameButOrder (group.compile "moves" (Lexicon.ofPairs pairs).pronunciations?)
        (group'.compile "moves" (Lexicon.ofPairs pairs).pronunciations?) := by
  intro go left now stop group group' pairs
  have inner : Rule.Reordered
      (.group ⟨.sequence, .required, .repeatable⟩
        (.group ⟨.selection, .optional, .repeatable⟩ go [left]) [now])
      (.group ⟨.sequence, .required, .repeatable⟩
        (.group ⟨.selection, .optional, .repeatable⟩ left [go]) [now]) :=
    .group _ (.selection rfl (.swap left go [])) (.cons (.literal _) .nil)
  have reordered : group.toRule.Reordered group'.toRule :=
    .trans (.group _ inner (.cons (.literal _) .nil)) (.selection rfl (.swap _ _ []))
  obtain ⟨accepts, -, compiles⟩ := reordered_unobservable reordered
  refine ⟨reordered, ?_, compiles "moves" pairs⟩
  rw [← accepts]
  decide +kernel

end RuleGroup

end VoiceGrammar
