import VoiceGrammar.Grammar.DocumentReading
import VoiceGrammar.Proofs.Compile.Outcome
import VoiceGrammar.Proofs.Grammar.DocumentWords
import VoiceGrammar.Proofs.Lexicon.Pronunciations
import VoiceGrammar.Proofs.Rule.Doubling

/-!
# The two texts of a compilation agree

The grammar comes from the expansion of a rule, in which repeated selections are written twice, and
the dictionary from its vocabulary, in which every word stands once. Both go back to the tokens of
the rule, and what can be read from the two texts is the same words in the same order.
-/

namespace VoiceGrammar

namespace Artifacts

/-- The words in the body of the grammar, from left to right. -/
def spoken (artifacts : Artifacts) : List String :=
  Body.wordsOf (Grammar.bodyOf artifacts.grammar)

/-- The words of the dictionary, one for each of its lines. -/
def pronounced (artifacts : Artifacts) : List String :=
  (Dictionary.entries artifacts.dictionary).map fun line => Dictionary.baseWord line.1

end Artifacts

namespace Dictionary

theorem map_fst_wordEntries (word : String) (pronunciations : List String) :
    (wordEntries word pronunciations).map Prod.fst =
      (List.range pronunciations.length).map (heading word) := by
  apply List.ext_getElem <;> simp [wordEntries]

theorem map_baseWord_wordEntries {word : String} (isWord : IsWord word.toList)
    (pronunciations : List String) :
    (wordEntries word pronunciations).map (fun line => baseWord line.1) =
      List.replicate pronunciations.length word := by
  have bases : (fun line : String × String => baseWord line.1) = baseWord ∘ Prod.fst := rfl
  rw [bases, ← List.map_map, map_fst_wordEntries, List.map_map]
  apply List.ext_getElem <;> simp [baseWord_heading isWord]

variable {lookup : String → Option (List String)} {words : List String}

/-- The words of a dictionary appear in the order in which they were asked for. -/
theorem eraseDups_baseWord_entriesFor (isWord : ∀ word ∈ words, IsWord word.toList)
    (complete : ∀ word ∈ words, known lookup word ≠ []) :
    ((entriesFor lookup words).map fun line => baseWord line.1).eraseDups = words.eraseDups := by
  have bases : (entriesFor lookup words).map (fun line => baseWord line.1) =
      words.flatMap fun word => List.replicate (known lookup word).length word := by
    rw [entriesFor, List.map_flatMap]
    exact List.flatMap_congr fun word member => map_baseWord_wordEntries (isWord word member) _
  rw [bases]
  exact Distinct.eraseDups_flatMap_replicate fun word member =>
    List.length_pos_iff.2 (complete word member)

/-- No two lines have the same head: heads of one word differ in their numbers, and heads of two
words in their words. -/
theorem nodup_heads_entriesFor (isWord : ∀ word ∈ words, IsWord word.toList)
    (nodup : words.Nodup) : ((entriesFor lookup words).map Prod.fst).Nodup := by
  rw [entriesFor, List.map_flatMap, List.nodup_flatMap]
  constructor
  · intro word _
    rw [map_fst_wordEntries]
    exact List.nodup_range.map fun index index' same => heading_injective same
  · refine nodup.imp_of_mem ?_
    intro word word' member member' different head inFirst inSecond
    simp only [map_fst_wordEntries] at inFirst inSecond
    obtain ⟨index, _, rfl⟩ := List.mem_map.1 inFirst
    obtain ⟨index', _, same⟩ := List.mem_map.1 inSecond
    -- A head in common gives back either word.
    have base : baseWord (heading word' index') = word := by
      rw [same, baseWord_heading (isWord word member)]
    rw [baseWord_heading (isWord word' member')] at base
    exact different base.symm

end Dictionary

namespace RuleGroup

open Dictionary

variable {group : RuleGroup} {name : String} {artifacts : Artifacts}

theorem spoken_of_compile {lookup : String → Option (List String)}
    (compiled : group.compile name lookup = .ok artifacts) :
    artifacts.spoken = group.expansion.tokens.flatMap Token.words := by
  obtain ⟨isName, _, rfl⟩ := compile_eq_ok_iff.1 compiled
  rw [Artifacts.spoken, Grammar.bodyOf_text isName, Expansion.wordsOf_body]

variable {pairs : List (String × String)}

theorem entries_of_compile
    (compiled : group.compile name (Lexicon.ofPairs pairs).pronunciations? = .ok artifacts) :
    entries artifacts.dictionary =
      entriesFor (Lexicon.ofPairs pairs).pronunciations? group.vocabulary := by
  obtain ⟨_, _, rfl⟩ := compile_eq_ok_iff.1 compiled
  refine entries_textOf_vocabulary fun word phones member => ?_
  obtain ⟨pair, -, -, rfl⟩ := Lexicon.normalize_of_mem_known member
  exact Lexicon.lineBreak_not_mem_normalize pair.2

theorem eraseDups_pronounced_of_compile
    (compiled : group.compile name (Lexicon.ofPairs pairs).pronunciations? = .ok artifacts) :
    artifacts.pronounced.eraseDups = group.vocabulary := by
  obtain ⟨_, complete, _⟩ := compile_eq_ok_iff.1 compiled
  rw [Artifacts.pronounced, entries_of_compile compiled,
    eraseDups_baseWord_entriesFor (fun _ => isWord_of_mem_vocabulary) complete,
    Distinct.eraseDups_of_nodup group.nodup_vocabulary]

/-- In a compiled rule the grammar and the dictionary have the same words, those of the rule; the
words first appear in the same order; and the dictionary lists every word once, with one line for
each pronunciation that the lexicon has for it, numbered from the second one on. -/
theorem compiled_texts_agree
    (compiled : group.compile name (Lexicon.ofPairs pairs).pronunciations? = .ok artifacts) :
    (∀ word, word ∈ artifacts.spoken ↔ word ∈ artifacts.pronounced) ∧
      (∀ word, word ∈ artifacts.pronounced ↔ ∃ token ∈ group.tokens, word ∈ token.words) ∧
      artifacts.pronounced.eraseDups = artifacts.spoken.eraseDups ∧
      ((entries artifacts.dictionary).map Prod.fst).Nodup ∧
      entries artifacts.dictionary = artifacts.pronounced.eraseDups.flatMap fun word =>
        (((Lexicon.ofPairs pairs).pronunciations? word).getD []).mapIdx fun index phones =>
          (if index = 0 then word else word ++ "(" ++ toString (index + 1) ++ ")", phones) := by
  have lines := entries_of_compile compiled
  have listed := eraseDups_pronounced_of_compile compiled
  have sameOrder : artifacts.pronounced.eraseDups = artifacts.spoken.eraseDups := by
    rw [spoken_of_compile compiled, group.eraseDups_words_expansion, listed, vocabulary]
  refine ⟨?sameWords, ?ruleWords, sameOrder, ?distinctHeads, ?numbered⟩
  case sameWords =>
    intro word
    rw [← List.mem_eraseDups, ← sameOrder, List.mem_eraseDups]
  case ruleWords =>
    intro word
    rw [← List.mem_eraseDups, listed, mem_vocabulary_iff]
  case distinctHeads =>
    rw [lines]
    exact nodup_heads_entriesFor (fun _ => isWord_of_mem_vocabulary) group.nodup_vocabulary
  case numbered =>
    rw [lines, listed]
    simp only [← heading_eq]
    rfl

theorem compiled_texts_agree_recurring :
    ∃ artifacts,
      RuleGroup.compile
          ⟨⟨.selection, .required, .repeatable⟩, .literal ⟨"GO LEFT", by decide⟩,
            [.literal ⟨"GO", by decide⟩]⟩
          "moves"
          (Lexicon.ofPairs
            [("GO", "G OW"), ("LEFT", "L EH F T"), ("GO", "G  AO")]).pronunciations? =
        .ok artifacts ∧
      artifacts.spoken = ["GO", "LEFT", "GO", "GO", "LEFT", "GO"] ∧
      artifacts.pronounced = ["GO", "GO", "LEFT"] ∧
      artifacts.pronounced.eraseDups = artifacts.spoken.eraseDups ∧
      ((entries artifacts.dictionary).map Prod.fst).Nodup := by
  have compiled : RuleGroup.compile
      ⟨⟨.selection, .required, .repeatable⟩, .literal ⟨"GO LEFT", by decide⟩,
        [.literal ⟨"GO", by decide⟩]⟩
      "moves"
      (Lexicon.ofPairs [("GO", "G OW"), ("LEFT", "L EH F T"), ("GO", "G  AO")]).pronunciations? =
      .ok ⟨"#JSGF V1.0;\ngrammar moves;\npublic <moves> = ( GO LEFT | GO ) [ GO LEFT | GO ];\n",
        "GO\tG OW\nGO(2)\tG AO\nLEFT\tL EH F T\n"⟩ := by
    rfl
  obtain ⟨_, _, sameOrder, distinctHeads, _⟩ := compiled_texts_agree compiled
  exact ⟨_, compiled, by decide +kernel, by decide +kernel, sameOrder, distinctHeads⟩

end RuleGroup

end VoiceGrammar
