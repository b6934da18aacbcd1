import VoiceGrammar.Compile
import VoiceGrammar.Proofs.Lexicon.DictionaryLines
import VoiceGrammar.Proofs.Rule.Vocabulary

/-!
# When a rule compiles, and to what

A rule compiles under a valid name as soon as every word of its vocabulary has a pronunciation. The
grammar is then the document with the expansion, and the dictionary has the lines of the words one
after the other, from which they can be read back.
-/

namespace VoiceGrammar

namespace Dictionary

/-- The heads and phones of the dictionary of some words. -/
def entriesFor (lookup : String → Option (List String)) (words : List String) :
    List (String × String) :=
  words.flatMap fun word => wordEntries word (known lookup word)

theorem ofWords_eq_ok_iff {lookup : String → Option (List String)} {words : List String}
    {text : String} :
    ofWords lookup words = .ok text ↔
      (∀ word ∈ words, known lookup word ≠ []) ∧
        text = textOf (entriesFor lookup words) := by
  have written : String.join (words.flatMap fun word => wordLines word (known lookup word)) =
      textOf (entriesFor lookup words) := by
    simp only [textOf, entriesFor, List.map_flatMap, wordLines_eq]
  have complete : (words.filter fun word => (known lookup word).isEmpty).isEmpty = true ↔
      ∀ word ∈ words, known lookup word ≠ [] := by
    simp
  simp only [ofWords, written]
  split
  · next all =>
    rw [Except.ok.injEq, eq_comm]
    exact (and_iff_right (complete.1 all)).symm
  · next missing =>
    constructor
    · intro failed
      cases failed
    · rintro ⟨all, -⟩
      exact absurd (complete.2 all) missing

theorem isEntry_of_mem_entriesFor {lookup : String → Option (List String)} {words : List String}
    (isWord : ∀ word ∈ words, IsWord word.toList)
    (noBreak : ∀ word, ∀ phones ∈ known lookup word, '\n' ∉ phones.toList) :
    ∀ line ∈ entriesFor lookup words, IsEntry line := by
  intro line member
  obtain ⟨word, isMember, isLine⟩ := List.mem_flatMap.1 member
  obtain ⟨index, isHead, isPhones⟩ := mem_wordEntries isLine
  have isWord := isWord word isMember
  constructor
  case noTab =>
    rw [isHead]
    exact not_mem_heading isWord index (by decide) (by decide)
  case noBreak =>
    rw [isHead]
    exact ⟨not_mem_heading isWord index (by decide) (by decide), noBreak word _ isPhones⟩

end Dictionary

namespace RuleGroup

open Dictionary

theorem isWord_of_mem_vocabulary {group : RuleGroup} {word : String}
    (member : word ∈ group.vocabulary) : IsWord word.toList := by
  obtain ⟨token, _, inToken⟩ := mem_vocabulary_iff.1 member
  exact Token.isWord_of_mem_words inToken

theorem nodup_vocabulary (group : RuleGroup) : group.vocabulary.Nodup :=
  Distinct.nodup_eraseDups _

/-- A rule compiles under a valid name when all its words have a pronunciation, and then to the
document of its expansion and the lines of its words. -/
theorem compile_eq_ok_iff {group : RuleGroup} {name : String}
    {lookup : String → Option (List String)} {artifacts : Artifacts} :
    group.compile name lookup = .ok artifacts ↔
      Grammar.isRuleName name = true ∧ (∀ word ∈ group.vocabulary, known lookup word ≠ []) ∧
        artifacts = ⟨Grammar.text name group.expansion,
          textOf (entriesFor lookup group.vocabulary)⟩ := by
  rw [compile, Grammar.document, Grammar.checkRuleName]
  by_cases isName : Grammar.isRuleName name = true
  · rw [if_pos isName]
    cases made : ofWords lookup group.vocabulary with
    | error failure =>
      have none : ¬ ∀ word ∈ group.vocabulary, known lookup word ≠ [] := by
        intro all
        rw [ofWords_eq_ok_iff.2 ⟨all, rfl⟩] at made
        cases made
      constructor
      · intro failed
        cases failed
      · rintro ⟨-, all, -⟩
        exact absurd all none
    | ok dictionary =>
      obtain ⟨all, rfl⟩ := ofWords_eq_ok_iff.1 made
      constructor
      · intro done
        cases done
        exact ⟨isName, all, rfl⟩
      · rintro ⟨-, -, rfl⟩
        rfl
  · rw [if_neg isName]
    constructor
    · intro failed
      cases failed
    · rintro ⟨isName', -⟩
      exact absurd isName' isName

/-- Compilation asks for nothing but the pronunciations of the vocabulary. -/
theorem compile_congr {group : RuleGroup} {name : String}
    {lookup lookup' : String → Option (List String)} {artifacts : Artifacts}
    (same : ∀ word ∈ group.vocabulary, known lookup' word = known lookup word)
    (compiled : group.compile name lookup = .ok artifacts) :
    group.compile name lookup' = .ok artifacts := by
  obtain ⟨isName, complete, rfl⟩ := compile_eq_ok_iff.1 compiled
  have sameLines : entriesFor lookup' group.vocabulary = entriesFor lookup group.vocabulary :=
    List.flatMap_congr fun word member => congrArg (wordEntries word) (same word member)
  refine compile_eq_ok_iff.2 ⟨isName, ?_, by rw [sameLines]⟩
  intro word member
  rw [same word member]
  exact complete word member

/-- The lines of a compiled dictionary are read back, if no phones hold a line break. -/
theorem entries_textOf_vocabulary {group : RuleGroup} {lookup : String → Option (List String)}
    (noBreak : ∀ word, ∀ phones ∈ known lookup word, '\n' ∉ phones.toList) :
    entries (textOf (entriesFor lookup group.vocabulary)) =
      entriesFor lookup group.vocabulary :=
  entries_textOf (isEntry_of_mem_entriesFor (fun _ => isWord_of_mem_vocabulary) noBreak)

end RuleGroup

end VoiceGrammar
