import VoiceGrammar.Proofs.Compile.Agreement
import VoiceGrammar.Proofs.Compile.WordLines
import VoiceGrammar.Proofs.Lexicon.LookupLists

/-!
# Extending a lookup list

A lookup list that is put behind another one only adds pronunciations, and adds them behind those
of the first list. A word that was known stays known, so a rule that compiled still compiles; its
lines keep their places and their numbers, because the new lines of a word come last. A word that
was unknown is known now exactly if the second list knows it.
-/

namespace VoiceGrammar

open Dictionary

namespace Lexicon

variable {lexicon added both : Lexicon}

theorem Merges.known_eq (merges : Merges both lexicon added) (word : String) :
    known both.pronunciations? word =
      joined (known lexicon.pronunciations? word) (known added.pronunciations? word) := by
  rw [known, known, known, merges]
  cases lexicon.pronunciations? word <;> cases added.pronunciations? word <;> simp [joined]

theorem Merges.isPrefix_known (merges : Merges both lexicon added) (word : String) :
    known lexicon.pronunciations? word <+: known both.pronunciations? word := by
  rw [merges.known_eq, joined]
  exact List.prefix_append _ _

/-- The words that stay unknown are those that the second lexicon does not know either. -/
theorem Merges.unknown_eq {pairs : List (String × String)}
    (merges : Merges both lexicon (ofPairs pairs)) (words : List String) :
    unknown both.pronunciations? words =
      (unknown lexicon.pronunciations? words).filter
        fun word => ((ofPairs pairs).pronunciations? word).isNone := by
  rw [unknown, unknown, List.filter_filter]
  refine List.filter_congr fun word _ => ?_
  have notAdded : ((ofPairs pairs).pronunciations? word).isNone = true ↔
      known (ofPairs pairs).pronunciations? word = [] := by
    rw [Option.isNone_iff_eq_none, ← Option.not_isSome_iff_eq_none,
      isSome_pronunciations?_ofPairs, not_not]
  rw [Bool.eq_iff_iff, Bool.and_eq_true, notAdded, List.isEmpty_iff, List.isEmpty_iff,
    merges.known_eq, joined_eq_nil_iff, and_comm]

end Lexicon

namespace Dictionary

theorem isPrefix_wordEntries (word : String) {pronunciations more : List String}
    (extends' : pronunciations <+: more) :
    wordEntries word pronunciations <+: wordEntries word more := by
  obtain ⟨new, rfl⟩ := extends'
  rw [wordEntries, wordEntries, List.mapIdx_append]
  exact List.prefix_append _ _

end Dictionary

namespace RuleGroup

variable {group : RuleGroup} {name : String} {artifacts artifacts' : Artifacts}
  {pairs pairs' : List (String × String)}

/-- With more pronunciations behind those that are known, every word keeps its lines in front. -/
theorem isPrefix_linesOf
    (compiled : group.compile name (Lexicon.ofPairs pairs).pronunciations? = .ok artifacts)
    (compiled' : group.compile name (Lexicon.ofPairs pairs').pronunciations? = .ok artifacts')
    (grows : ∀ word, known (Lexicon.ofPairs pairs).pronunciations? word <+:
      known (Lexicon.ofPairs pairs').pronunciations? word) (word : String) :
    linesOf word artifacts.dictionary <+: linesOf word artifacts'.dictionary := by
  rw [linesOf_of_compile compiled, linesOf_of_compile compiled']
  split
  · exact (isPrefix_wordEntries word (grows word)).map lineChars
  · exact List.prefix_rfl

/-- A lookup list behind another one breaks no compilation. A rule that compiles keeps its grammar,
its words and the lines it has; where words are unknown, those that the new list knows are known
now, and the others are reported as before. -/
theorem extended_list_keeps {text more origin origin' : String} {lexicon added : Lexicon}
    (isRead : Lexicon.ofLookupList text origin = .ok lexicon)
    (isAdded : Lexicon.ofLookupList more origin' = .ok added) (origin'' : String) :
    ∃ both, Lexicon.ofLookupList (text ++ "\n" ++ more) origin'' = .ok both ∧
      ∀ (group : RuleGroup) (name : String),
        (∀ artifacts, group.compile name lexicon.pronunciations? = .ok artifacts →
          ∃ artifacts', group.compile name both.pronunciations? = .ok artifacts' ∧
            artifacts'.grammar = artifacts.grammar ∧
            artifacts'.pronounced.eraseDups = artifacts.pronounced.eraseDups ∧
            ∀ word, linesOf word artifacts.dictionary <+: linesOf word artifacts'.dictionary) ∧
        ∀ missing, group.compile name lexicon.pronunciations? = .error (.unknownWords missing) →
          let left := missing.filter fun word => (added.pronunciations? word).isNone
          ((∃ artifacts, group.compile name both.pronunciations? = .ok artifacts) ↔ left = []) ∧
            (left ≠ [] →
              group.compile name both.pronunciations? = .error (.unknownWords left)) := by
  obtain ⟨both, isBoth, merges⟩ := Lexicon.ofLookupList_join isRead isAdded origin''
  obtain ⟨pairs, rfl, -⟩ := Lexicon.exists_pairs_of_ofLookupList isRead
  obtain ⟨pairs', rfl, -⟩ := Lexicon.exists_pairs_of_ofLookupList isAdded
  obtain ⟨pairs'', rfl, -⟩ := Lexicon.exists_pairs_of_ofLookupList isBoth
  refine ⟨_, isBoth, fun group name => ⟨?compiles, ?fails⟩⟩
  case compiles =>
    intro artifacts compiled
    obtain ⟨isName, complete, isArtifacts⟩ := compile_eq_ok_iff.1 compiled
    have noneLeft : unknown (Lexicon.ofPairs pairs'').pronunciations? group.vocabulary = [] := by
      rw [merges.unknown_eq, unknown_eq_nil_iff.2 complete, List.filter_nil]
    have compiled' := compile_of_known isName noneLeft
    refine ⟨_, compiled', ?_, ?_, isPrefix_linesOf compiled compiled' merges.isPrefix_known⟩
    · rw [isArtifacts]
    · rw [eraseDups_pronounced_of_compile compiled, eraseDups_pronounced_of_compile compiled']
  case fails =>
    intro missing failed
    obtain ⟨isName, -, rfl⟩ := compile_eq_unknownWords_iff.1 failed
    rw [← merges.unknown_eq]
    refine ⟨?_, compile_of_unknown isName⟩
    rw [unknown_eq_nil_iff]
    constructor
    · rintro ⟨artifacts, compiled⟩
      exact (compile_eq_ok_iff.1 compiled).2.1
    · intro complete
      exact ⟨_, compile_of_known isName (unknown_eq_nil_iff.2 complete)⟩

theorem extended_list_keeps_alternates :
    let goLeft : RuleGroup :=
      ⟨⟨.sequence, .required, .single⟩, .literal ⟨"GO LEFT", by decide⟩, []⟩
    let upNow : RuleGroup :=
      ⟨⟨.sequence, .required, .single⟩, .literal ⟨"UP GO NOW", by decide⟩, []⟩
    ∃ lexicon added both artifacts artifacts',
      Lexicon.ofLookupList "GO G OW\nLEFT(2) L EH F T" "list" = .ok lexicon ∧
      Lexicon.ofLookupList "# more\r\nGO\tG AO\nGO(2) G  OW\nNOW N AW" "more" = .ok added ∧
      Lexicon.ofLookupList
        "GO G OW\nLEFT(2) L EH F T\n# more\r\nGO\tG AO\nGO(2) G  OW\nNOW N AW" "both" = .ok both ∧
      goLeft.compile "moves" lexicon.pronunciations? = .ok artifacts ∧
      artifacts.dictionary = "GO\tG OW\nLEFT\tL EH F T\n" ∧
      goLeft.compile "moves" both.pronunciations? = .ok artifacts' ∧
      (∀ word, linesOf word artifacts.dictionary <+: linesOf word artifacts'.dictionary) ∧
      upNow.compile "moves" lexicon.pronunciations? = .error (.unknownWords ["UP", "NOW"]) ∧
      upNow.compile "moves" both.pronunciations? = .error (.unknownWords ["UP"]) := by
  intro goLeft upNow
  have isRead : Lexicon.ofLookupList "GO G OW\nLEFT(2) L EH F T" "list" =
      .ok (Lexicon.ofPairs [("GO", "G OW"), ("LEFT", "L EH F T")]) := by
    rfl
  have isAdded : Lexicon.ofLookupList "# more\r\nGO\tG AO\nGO(2) G  OW\nNOW N AW" "more" =
      .ok (Lexicon.ofPairs [("GO", "G AO"), ("GO", "G  OW"), ("NOW", "N AW")]) := by
    rfl
  have compiled : goLeft.compile "moves"
      (Lexicon.ofPairs [("GO", "G OW"), ("LEFT", "L EH F T")]).pronunciations? =
      .ok ⟨"#JSGF V1.0;\ngrammar moves;\npublic <moves> = GO LEFT;\n",
        "GO\tG OW\nLEFT\tL EH F T\n"⟩ := by
    rfl
  have failed : upNow.compile "moves"
      (Lexicon.ofPairs [("GO", "G OW"), ("LEFT", "L EH F T")]).pronunciations? =
      .error (.unknownWords ["UP", "NOW"]) := by
    rfl
  obtain ⟨both, isBoth, keeps⟩ := extended_list_keeps isRead isAdded "both"
  obtain ⟨artifacts', compiled', -, -, lines⟩ := (keeps goLeft "moves").1 _ compiled
  obtain ⟨-, stillUnknown⟩ := (keeps upNow "moves").2 _ failed
  exact ⟨_, _, both, _, artifacts', isRead, isAdded, isBoth, compiled, rfl, compiled', lines,
    failed, stillUnknown (by decide +kernel)⟩

end RuleGroup

end VoiceGrammar
