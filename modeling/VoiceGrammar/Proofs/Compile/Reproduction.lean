import VoiceGrammar.Proofs.Compile.Outcome
import VoiceGrammar.Proofs.Lexicon.LookupLines

/-!
# A dictionary is a lookup list

The dictionary of a compiled rule can be read as a lookup list, because none of its lines looks
like a comment or lacks phones and because the numbers behind the words are taken off again. The
lexicon that is read has of the first lexicon what the rule needs, so compiling with it changes
nothing.
-/

namespace VoiceGrammar

namespace Lexicon

/-- Phones as a lexicon of a lookup list has them: normal, and not blank. -/
structure IsPhones (phones : String) : Prop where
  normal : normalize phones = phones
  nonempty : phones ≠ ""

theorem IsPhones.lineBreak_not_mem {phones : String} (isPhones : IsPhones phones) :
    '\n' ∉ phones.toList := by
  rw [← isPhones.normal]
  exact lineBreak_not_mem_normalize phones

theorem IsPhones.isBlank_getLast? {phones : String} (isPhones : IsPhones phones) {c : Char}
    (last : phones.toList.getLast? = some c) : Text.isBlank c = false := by
  rw [← isPhones.normal, normalize, Text.toList_intercalate_space] at last
  refine Text.isBlank_getLast?_intercalate ?_ last
  simpa using fun word member => Text.isUnbroken_of_mem_words member

theorem isPhones_of_mem_known {pairs : List (String × String)}
    (visible : ∀ pair ∈ pairs, normalize pair.2 ≠ "") {word phones : String}
    (member : phones ∈ Dictionary.known (ofPairs pairs).pronunciations? word) :
    IsPhones phones := by
  obtain ⟨pair, isPair, -, rfl⟩ := normalize_of_mem_known member
  exact ⟨normalize_normalize _, visible pair isPair⟩

end Lexicon

namespace Dictionary

theorem isBlank_eq_false_of_mem_heading {word : String} (isWord : IsWord word.toList) {index : Nat}
    {c : Char} (member : c ∈ (heading word index).toList) : Text.isBlank c = false := by
  cases blank : Text.isBlank c with
  | false => rfl
  | true =>
    have foreign : isWordChar c = false := by
      cases wordChar : isWordChar c with
      | false => rfl
      | true =>
        rw [isBlank_eq_false_of_isWordChar wordChar] at blank
        cases blank
    have noBracket : c ≠ '(' ∧ c ≠ ')' := by
      constructor <;> rintro rfl <;> exact absurd blank (by decide)
    exact absurd member (not_mem_heading isWord index foreign noBracket)

theorem toList_heading_ne_nil {word : String} (isWord : IsWord word.toList) (index : Nat) :
    (heading word index).toList ≠ [] := by
  cases index with
  | zero => exact isWord.nonempty
  | succ index => simp [toList_heading_succ]

section Line

variable {word phones : String} (isWord : IsWord word.toList) (isPhones : Lexicon.IsPhones phones)
  (index : Nat)
include isWord

theorem exists_visible_head :
    ∃ c rest, (heading word index).toList = c :: rest ∧ Text.isBlank c = false ∧
      c ≠ ';' ∧ c ≠ '#' := by
  obtain ⟨c, rest, head⟩ := List.exists_cons_of_ne_nil (toList_heading_ne_nil isWord index)
  have member : c ∈ (heading word index).toList := head ▸ List.mem_cons_self
  refine ⟨c, rest, head, isBlank_eq_false_of_mem_heading isWord member, ?_, ?_⟩ <;> rintro rfl <;>
    exact absurd member (not_mem_heading isWord index (by decide) (by decide))

theorem isComment_lineChars :
    LookupLine.isComment (lineChars (heading word index, phones)) = false := by
  obtain ⟨c, rest, head, -, noSemicolon, noHash⟩ := exists_visible_head isWord index
  simp [LookupLine.isComment, lineChars, head, List.isPrefixOf, Ne.symm noSemicolon,
    Ne.symm noHash]

include isPhones

/-- A line begins with a character of its word and ends with one of its phones. -/
theorem trim_lineChars :
    Text.trim (lineChars (heading word index, phones)) =
      lineChars (heading word index, phones) := by
  apply Text.trim_of_ends
  · intro d isFirst
    obtain ⟨c, rest, head, visible, -⟩ := exists_visible_head isWord index
    obtain rfl : c = d := by simpa [lineChars, head] using isFirst
    exact visible
  · intro d isLast
    obtain ⟨last, isLast'⟩ := Option.ne_none_iff_exists'.1
      (show phones.toList.getLast? ≠ none by simpa using isPhones.nonempty)
    rw [lineChars, List.getLast?_append, List.getLast?_cons, isLast'] at isLast
    exact isPhones.isBlank_getLast? (isLast'.trans (by simpa using isLast))

/-- A line of a dictionary is an entry of a lookup list, with the number taken off its word. -/
theorem ofText_lineChars :
    LookupLine.ofText (lineChars (heading word index, phones)) = .entry word phones := by
  have inHead : ∀ d ∈ (heading word index).toList, (!Text.isBlank d) = true := by
    intro d member
    simp [isBlank_eq_false_of_mem_heading isWord member]
  have taken : (lineChars (heading word index, phones)).takeWhile (!Text.isBlank ·) =
      (heading word index).toList :=
    Text.takeWhile_append_mark _ inHead (by decide)
  have dropped : (lineChars (heading word index, phones)).dropWhile (!Text.isBlank ·) =
      '\t' :: phones.toList :=
    Text.dropWhile_append_mark _ inHead (by decide)
  have base := baseWord_heading isWord index
  rw [baseWord] at base
  rw [LookupLine.ofText, trim_lineChars isWord isPhones, isComment_lineChars isWord]
  simp [taken, dropped, base]

end Line

/-- The pairs of some words and their pronunciations. -/
def pairsFor (lookup : String → Option (List String)) (words : List String) :
    List (String × String) :=
  words.flatMap fun word => (known lookup word).map fun phones => (word, phones)

theorem filterMap_pair?_wordEntries {word : String} {pronunciations : List String}
    (isWord : IsWord word.toList)
    (isPhones : ∀ phones ∈ pronunciations, Lexicon.IsPhones phones) :
    ((wordEntries word pronunciations).map lineChars).filterMap LookupLine.pair? =
      pronunciations.map fun phones => (word, phones) := by
  have each : ∀ line ∈ wordEntries word pronunciations,
      LookupLine.pair? (lineChars line) = some (word, line.2) := by
    rintro ⟨head, phones⟩ member
    obtain ⟨index, rfl, isMember⟩ := mem_wordEntries member
    exact LookupLine.pair?_eq_some_iff.2 (ofText_lineChars isWord (isPhones phones isMember) index)
  rw [List.filterMap_map, List.filterMap_congr (g := fun line => some (word, line.2)) each,
    List.filterMap_eq_map']
  apply List.ext_getElem <;> simp [wordEntries]

variable {lookup : String → Option (List String)} {words : List String}

/-- The dictionary of some words is read as the pairs of these words with their pronunciations. -/
theorem ofLookupList_textOf (isWord : ∀ word ∈ words, IsWord word.toList)
    (isPhones : ∀ word, ∀ phones ∈ known lookup word, Lexicon.IsPhones phones) (origin : String) :
    Lexicon.ofLookupList (textOf (entriesFor lookup words)) origin =
      .ok (Lexicon.ofPairs (pairsFor lookup words)) := by
  have isEntry := isEntry_of_mem_entriesFor isWord fun word phones member =>
    (isPhones word phones member).lineBreak_not_mem
  have atEnd : LookupLine.ofText [] = .nothing := by decide
  rw [Lexicon.ofLookupList, splitOn_textOf isEntry, Lexicon.readLines_eq_ok_iff]
  constructor
  · intro line member text
    rcases List.mem_append.1 member with inDictionary | isEnd
    · obtain ⟨⟨head, phones⟩, isLine, rfl⟩ := List.mem_map.1 inDictionary
      obtain ⟨word, isMember, isLine⟩ := List.mem_flatMap.1 isLine
      obtain ⟨index, rfl, isKnown⟩ := mem_wordEntries isLine
      rw [ofText_lineChars (isWord word isMember) (isPhones word phones isKnown) index]
      simp
    · rw [List.mem_singleton.1 isEnd, atEnd]
      simp
  · have noPair : LookupLine.pair? [] = none := by rw [LookupLine.pair?, atEnd]
    rw [Lexicon.ofPairs, List.filterMap_append, List.filterMap_cons_none noPair, List.filterMap_nil,
      List.append_nil, entriesFor, List.map_flatMap, List.filterMap_flatMap, pairsFor]
    congr 1
    refine List.flatMap_congr fun word member => ?_
    exact (filterMap_pair?_wordEntries (isWord word member) (isPhones word)).symm

/-- Among the pairs of distinct words a word finds its own pronunciations. -/
theorem phonesFor_pairsFor (nodup : words.Nodup)
    (isPhones : ∀ word, ∀ phones ∈ known lookup word, Lexicon.IsPhones phones) (word : String) :
    Lexicon.phonesFor word (pairsFor lookup words) =
      if word ∈ words then known lookup word else [] := by
  have normal : ∀ word, (known lookup word).map Lexicon.normalize = known lookup word := by
    intro word
    rw [List.map_congr_left fun phones member => (isPhones word phones member).normal]
    exact List.map_id' _
  have own : ∀ other ∈ words, Lexicon.phonesFor word
      ((known lookup other).map fun phones => (other, phones)) =
        if other = word then known lookup other else [] := by
    intro other _
    rw [Lexicon.phonesFor_map_pair, normal]
  rw [pairsFor, Lexicon.phonesFor_flatMap, List.flatMap_congr own,
    Distinct.flatMap_ite_of_nodup nodup]

/-- Distinct words have in the lexicon of their dictionary what they were given there, and no other
word is known. -/
theorem known_ofPairs_pairsFor (nodup : words.Nodup)
    (isPhones : ∀ word, ∀ phones ∈ known lookup word, Lexicon.IsPhones phones)
    (distinct : ∀ word, (known lookup word).Nodup) (word : String) :
    known (Lexicon.ofPairs (pairsFor lookup words)).pronunciations? word =
      if word ∈ words then known lookup word else [] := by
  rw [Lexicon.known_ofPairs, phonesFor_pairsFor nodup isPhones]
  split
  · exact Distinct.eraseDups_of_nodup (distinct word)
  · rfl

end Dictionary

namespace RuleGroup

open Dictionary

/-- The dictionary of a rule that compiles with the lexicon of a lookup list is a lookup list too.
Its lexicon knows the words of the rule and no others, each with the pronunciations it had, and the
rule compiles with it to the same two texts. -/
theorem dictionary_reproduces {group : RuleGroup} {name text origin : String} {lexicon : Lexicon}
    {artifacts : Artifacts} (isRead : Lexicon.ofLookupList text origin = .ok lexicon)
    (compiled : group.compile name lexicon.pronunciations? = .ok artifacts) (origin' : String) :
    ∃ lexicon', Lexicon.ofLookupList artifacts.dictionary origin' = .ok lexicon' ∧
      (∀ word, (lexicon'.pronunciations? word).isSome ↔
        ∃ token ∈ group.tokens, word ∈ token.words) ∧
      (∀ token ∈ group.tokens, ∀ word ∈ token.words,
        lexicon'.pronunciations? word = lexicon.pronunciations? word) ∧
      group.compile name lexicon'.pronunciations? = .ok artifacts := by
  obtain ⟨pairs, rfl, visible⟩ := Lexicon.exists_pairs_of_ofLookupList isRead
  obtain ⟨isName, complete, rfl⟩ := compile_eq_ok_iff.1 compiled
  have isPhones : ∀ word, ∀ phones ∈ known (Lexicon.ofPairs pairs).pronunciations? word,
      Lexicon.IsPhones phones := fun _ _ member => Lexicon.isPhones_of_mem_known visible member
  have same := known_ofPairs_pairsFor group.nodup_vocabulary isPhones (Lexicon.nodup_known pairs)
  refine ⟨_, ofLookupList_textOf (fun _ => isWord_of_mem_vocabulary) isPhones origin', ?words,
    ?pronunciations, ?again⟩
  case words =>
    intro word
    rw [← mem_vocabulary_iff, Lexicon.isSome_pronunciations?_ofPairs, same]
    constructor
    · -- The dictionary has lines of the vocabulary only.
      intro isKnown
      by_contra notMember
      exact isKnown (if_neg notMember)
    · intro member
      rw [if_pos member]
      exact complete word member
  case pronunciations =>
    intro token isToken word inToken
    have member := mem_vocabulary_iff.2 ⟨token, isToken, inToken⟩
    rw [Lexicon.pronunciations?_eq_known, Lexicon.pronunciations?_eq_known, same, if_pos member]
  case again =>
    refine compile_congr (fun word member => ?_) compiled
    rw [same, if_pos member]

theorem dictionary_reproduces_alternates :
    ∃ lexicon artifacts lexicon',
      Lexicon.ofLookupList "# moves\nGO(2)  G  OW\r\nLEFT L EH F T\nGO\tG AO" "list" = .ok lexicon ∧
      RuleGroup.compile ⟨⟨.sequence, .required, .single⟩, .literal ⟨"GO GO", by decide⟩, []⟩ "moves"
        lexicon.pronunciations? = .ok artifacts ∧
      artifacts.dictionary = "GO\tG OW\nGO(2)\tG AO\n" ∧
      Lexicon.ofLookupList artifacts.dictionary "dictionary" = .ok lexicon' ∧
      lexicon'.pronunciations? "GO" = lexicon.pronunciations? "GO" ∧
      RuleGroup.compile ⟨⟨.sequence, .required, .single⟩, .literal ⟨"GO GO", by decide⟩, []⟩ "moves"
        lexicon'.pronunciations? = .ok artifacts := by
  have isRead : Lexicon.ofLookupList "# moves\nGO(2)  G  OW\r\nLEFT L EH F T\nGO\tG AO" "list" =
      .ok (Lexicon.ofPairs [("GO", " G  OW"), ("LEFT", "L EH F T"), ("GO", "G AO")]) := by
    rfl
  have compiled : RuleGroup.compile
      ⟨⟨.sequence, .required, .single⟩, .literal ⟨"GO GO", by decide⟩, []⟩ "moves"
      (Lexicon.ofPairs [("GO", " G  OW"), ("LEFT", "L EH F T"), ("GO", "G AO")]).pronunciations? =
      .ok ⟨"#JSGF V1.0;\ngrammar moves;\npublic <moves> = GO GO;\n",
        "GO\tG OW\nGO(2)\tG AO\n"⟩ := by
    rfl
  obtain ⟨lexicon', isRead', -, same, again⟩ := dictionary_reproduces isRead compiled "dictionary"
  have inWords : "GO" ∈ Token.words ⟨"GO GO", by decide⟩ := by decide
  exact ⟨_, _, lexicon', isRead, compiled, rfl, isRead', same _ List.mem_cons_self _ inWords, again⟩

end RuleGroup

end VoiceGrammar
