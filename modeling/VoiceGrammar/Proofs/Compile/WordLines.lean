import VoiceGrammar.Proofs.Compile.Answers
import VoiceGrammar.Proofs.Compile.Reproduction
import VoiceGrammar.Proofs.Text.Lines

/-!
# The lines of each word

What a compilation answers depends on the words of the rule, one by one: on those that are unknown,
all of which are reported, and else on the pronunciations of each, which make the lines of that
word. So two compilations are compared by comparing their unknown words and, word for word, their
lines.
-/

namespace VoiceGrammar

namespace Dictionary

/-! ## Unknown words -/

/-- Those of some words that have no pronunciation. -/
def unknown (lookup : String → Option (List String)) (words : List String) : List String :=
  words.filter fun word => (known lookup word).isEmpty

theorem unknown_eq_nil_iff {lookup : String → Option (List String)} {words : List String} :
    unknown lookup words = [] ↔ ∀ word ∈ words, known lookup word ≠ [] := by
  simp [unknown]

/-! ## Lines of a text -/

section Lines

variable {lookup : String → Option (List String)} {words : List String}
  {lines : List (String × String)}

theorem lines_textOf
    (unbroken : ∀ line ∈ lines, '\n' ∉ lineChars line ∧ '\r' ∉ lineChars line) :
    Text.lines (textOf lines).toList = lines.map lineChars := by
  induction lines with
  | nil => rfl
  | cons first rest inRest =>
    rw [List.forall_mem_cons] at unbroken
    rw [toList_textOf_cons, Text.lines_append_break unbroken.1.1 unbroken.1.2, inRest unbroken.2,
      List.map_cons]

/-- The blanks in a line are its tab and the spaces of its phones. -/
theorem eq_of_mem_lineChars {word phones : String} (isWord : IsWord word.toList) (index : Nat)
    (spaced : ∀ c ∈ phones.toList, Text.isBlank c = true → c = ' ') {c : Char}
    (member : c ∈ lineChars (heading word index, phones)) (blank : Text.isBlank c = true) :
    c = '\t' ∨ c = ' ' := by
  rw [lineChars, List.mem_append, List.mem_cons] at member
  rcases member with inHead | isTab | inPhones
  · rw [isBlank_eq_false_of_mem_heading isWord inHead] at blank
    cases blank
  · exact .inl isTab
  · exact .inr (spaced c inPhones blank)

/-- A line gives back the word that it belongs to. -/
theorem baseWord_entryOfLine {word : String} (isWord : IsWord word.toList)
    {pronunciations : List String} {line : String × String}
    (member : line ∈ wordEntries word pronunciations) :
    baseWord (entryOfLine (lineChars line)).1 = word := by
  obtain ⟨index, isHead, -⟩ := mem_wordEntries member
  have noTab : '\t' ∉ line.1.toList := by
    rw [isHead]
    exact not_mem_heading isWord index (by decide) (by decide)
  rw [entryOfLine_lineChars noTab, isHead, baseWord_heading isWord]

/-- The words of a dictionary have their lines to themselves. -/
theorem filter_entriesFor (isWord : ∀ word ∈ words, IsWord word.toList) (nodup : words.Nodup)
    (word : String) :
    (entriesFor lookup words).filter
        (fun line => baseWord (entryOfLine (lineChars line)).1 = word) =
      if word ∈ words then wordEntries word (known lookup word) else [] := by
  have own : ∀ other ∈ words, (wordEntries other (known lookup other)).filter
      (fun line => baseWord (entryOfLine (lineChars line)).1 = word) =
        if other = word then wordEntries other (known lookup other) else [] := by
    intro other member
    have base : ∀ line ∈ wordEntries other (known lookup other),
        baseWord (entryOfLine (lineChars line)).1 = other :=
      fun line => baseWord_entryOfLine (isWord other member)
    rw [List.filter_congr fun line isLine => by rw [base line isLine]]
    by_cases same : other = word <;> simp [same]
  rw [entriesFor, List.filter_flatMap, List.flatMap_congr own, Distinct.flatMap_ite_of_nodup nodup]

end Lines

end Dictionary

namespace RuleGroup

open Dictionary

variable {group : RuleGroup} {name : String} {lookup : String → Option (List String)}
  {artifacts : Artifacts} {missing : List String}

/-! ## Answers -/

theorem compile_of_unknown (isName : Grammar.isRuleName name = true)
    (some : unknown lookup group.vocabulary ≠ []) :
    group.compile name lookup = .error (.unknownWords (unknown lookup group.vocabulary)) := by
  rw [compile_of_isRuleName isName, ofWords_eq, ← unknown, if_pos some]
  rfl

theorem compile_of_known (isName : Grammar.isRuleName name = true)
    (none : unknown lookup group.vocabulary = []) :
    group.compile name lookup =
      .ok ⟨Grammar.text name group.expansion, textOf (entriesFor lookup group.vocabulary)⟩ :=
  compile_eq_ok_iff.2 ⟨isName, unknown_eq_nil_iff.1 none, rfl⟩

theorem compile_eq_unknownWords_iff :
    group.compile name lookup = .error (.unknownWords missing) ↔
      Grammar.isRuleName name = true ∧ missing ≠ [] ∧
        missing = unknown lookup group.vocabulary := by
  cases isName : Grammar.isRuleName name with
  | false => simp [compile_of_isRuleName_eq_false isName]
  | true =>
    by_cases none : unknown lookup group.vocabulary = []
    · rw [compile_of_known isName none, none]
      simp
    · rw [compile_of_unknown isName none]
      constructor
      · rintro ⟨⟩
        exact ⟨rfl, none, rfl⟩
      · rintro ⟨-, -, rfl⟩
        rfl

/-! ## The lines of a compiled dictionary -/

variable {pairs : List (String × String)}

theorem lines_of_compile
    (compiled : group.compile name (Lexicon.ofPairs pairs).pronunciations? = .ok artifacts) :
    Text.lines artifacts.dictionary.toList =
      (entriesFor (Lexicon.ofPairs pairs).pronunciations? group.vocabulary).map lineChars := by
  obtain ⟨-, -, rfl⟩ := compile_eq_ok_iff.1 compiled
  apply lines_textOf
  intro line member
  obtain ⟨word, isMember, isLine⟩ := List.mem_flatMap.1 member
  obtain ⟨index, isHead, isPhones⟩ := mem_wordEntries isLine
  obtain ⟨pair, -, -, normal⟩ := Lexicon.normalize_of_mem_known isPhones
  obtain ⟨head, phones⟩ := line
  obtain rfl : head = heading word index := isHead
  obtain rfl : Lexicon.normalize pair.2 = phones := normal
  have spaced : ∀ c ∈ (Lexicon.normalize pair.2).toList, Text.isBlank c = true → c = ' ' :=
    fun _ => Lexicon.eq_space_of_mem_normalize
  have blanks := @eq_of_mem_lineChars word _ (isWord_of_mem_vocabulary isMember) index spaced
  constructor <;> intro inLine <;> exact absurd (blanks inLine (by decide)) (by decide)

/-- The lines of a word in a compiled dictionary are those of its pronunciations. -/
theorem linesOf_of_compile
    (compiled : group.compile name (Lexicon.ofPairs pairs).pronunciations? = .ok artifacts)
    (word : String) :
    linesOf word artifacts.dictionary =
      if word ∈ group.vocabulary then
        (wordEntries word (known (Lexicon.ofPairs pairs).pronunciations? word)).map lineChars
      else [] := by
  rw [linesOf, lines_of_compile compiled, List.filter_map, Function.comp_def,
    filter_entriesFor (fun _ => isWord_of_mem_vocabulary) group.nodup_vocabulary]
  split <;> rfl

end RuleGroup

end VoiceGrammar
