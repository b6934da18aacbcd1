import VoiceGrammar.Lexicon.Basic
import VoiceGrammar.Lexicon.Dictionary
import VoiceGrammar.Proofs.Distinct
import VoiceGrammar.Proofs.Text.Words

/-!
# The pronunciations of a lexicon

A lexicon is made by insertions, and what it has for a word is what was inserted under that word:
the normalised phones in the order of the insertions, each of them once. Insertions under other
words do not matter, wherever they stand between.
-/

namespace VoiceGrammar.Lexicon

/-! ## Normal phones -/

/-- Normalising phones leaves their words. -/
theorem words_normalize (phones : String) : Text.words (normalize phones) = Text.words phones :=
  Text.words_intercalate fun _ member => Text.isUnbroken_of_mem_words member

theorem normalize_normalize (phones : String) :
    normalize (normalize phones) = normalize phones := by
  rw [normalize, words_normalize, normalize]

/-- Normal phones hold no blank but the space. -/
theorem eq_space_of_mem_normalize {phones : String} {c : Char}
    (member : c ∈ (normalize phones).toList) (blank : Text.isBlank c = true) : c = ' ' := by
  rw [normalize, Text.toList_intercalate_space] at member
  refine Text.eq_space_of_mem_intercalate ?_ member blank
  simpa using fun word member => Text.isUnbroken_of_mem_words member

theorem lineBreak_not_mem_normalize (phones : String) : '\n' ∉ (normalize phones).toList := by
  intro member
  have isSpace := eq_space_of_mem_normalize member (by decide)
  exact absurd isSpace (by decide)

/-! ## Insertions -/

/-- The normal phones that some pairs have for a word, repetitions included. -/
def phonesFor (word : String) (pairs : List (String × String)) : List String :=
  (pairs.filter (·.1 = word)).map fun pair => normalize pair.2

theorem phonesFor_append (word : String) (pairs more : List (String × String)) :
    phonesFor word (pairs ++ more) = phonesFor word pairs ++ phonesFor word more := by
  rw [phonesFor, List.filter_append, List.map_append, phonesFor, phonesFor]

theorem phonesFor_flatMap {α : Type} (word : String) (parts : List α)
    (pairsOf : α → List (String × String)) :
    phonesFor word (parts.flatMap pairsOf) =
      parts.flatMap fun part => phonesFor word (pairsOf part) := by
  simp only [phonesFor, List.filter_flatMap, List.map_flatMap]

theorem phonesFor_map_pair (word own : String) (pronunciations : List String) :
    phonesFor word (pronunciations.map fun phones => (own, phones)) =
      if own = word then pronunciations.map normalize else [] := by
  rw [phonesFor, List.filter_map, List.map_map]
  by_cases same : own = word
  · simp [same, Function.comp_def]
  · simp [same, Function.comp_def]

theorem foldl_addNew (known values : List String) (nodup : known.Nodup) :
    values.foldl addNew known = (known ++ values).eraseDups := by
  induction values generalizing known with
  | nil => rw [List.foldl_nil, List.append_nil, Distinct.eraseDups_of_nodup nodup]
  | cons value values inValues =>
    rw [List.foldl_cons, addNew]
    split
    · next isKnown =>
      -- On the right the value is a copy, which is dropped there.
      have again : (known ++ [value]).eraseDups = known.eraseDups :=
        Distinct.eraseDups_append_of_subset (by simpa using isKnown)
      rw [inValues known nodup, ← List.singleton_append, ← List.append_assoc]
      exact Distinct.eraseDups_append_congr again.symm rfl
    · next isNew =>
      have nodup' : (known ++ [value]).Nodup := by
        refine List.nodup_append.2 ⟨nodup, List.nodup_singleton value, ?_⟩
        intro old isOld other isValue same
        rw [same, List.mem_singleton.1 isValue] at isOld
        exact isNew isOld
      rw [inValues _ nodup', List.append_assoc, List.singleton_append]

/-- What a lexicon has for a word after insertions. -/
theorem pronunciations?_insertAll (lexicon : Lexicon) (pairs : List (String × String))
    (word : String) :
    (lexicon.insertAll pairs).pronunciations? word =
      if phonesFor word pairs = [] then lexicon.pronunciations? word
      else some ((phonesFor word pairs).foldl addNew
        ((lexicon.pronunciations? word).getD [])) := by
  induction pairs generalizing lexicon with
  | nil => rfl
  | cons pair pairs inPairs =>
    have step : lexicon.insertAll (pair :: pairs) =
        (lexicon.insert pair.1 pair.2).insertAll pairs := rfl
    rw [step, inPairs, pronunciations?_insert]
    by_cases own : pair.1 = word
    · have more : phonesFor word (pair :: pairs) = normalize pair.2 :: phonesFor word pairs := by
        simp [phonesFor, own]
      rw [more]
      by_cases last : phonesFor word pairs = []
      · simp [own, last]
      · simp [own, last]
    · have same : phonesFor word (pair :: pairs) = phonesFor word pairs := by
        simp [phonesFor, own]
      rw [same]
      simp [own]

/-- A lexicon made of pairs knows the words of the pairs, and under each of them its normal phones
in order, each once. -/
theorem pronunciations?_ofPairs (pairs : List (String × String)) (word : String) :
    (ofPairs pairs).pronunciations? word =
      if phonesFor word pairs = [] then none else some (phonesFor word pairs).eraseDups := by
  rw [ofPairs, pronunciations?_insertAll, pronunciations?_empty, Option.getD_none,
    foldl_addNew [] _ List.nodup_nil, List.nil_append]

/-- What is known of a word when further pronunciations follow those it has. -/
def joined (known new : List String) : List String :=
  known ++ new.filter (· ∉ known)

theorem joined_eq_nil_iff {known new : List String} :
    joined known new = [] ↔ known = [] ∧ new = [] := by
  rw [joined, List.append_eq_nil_iff]
  refine and_congr_right ?_
  rintro rfl
  simp

/-- The lexicon has what two lexicons have, the second behind the first. -/
def Merges (both lexicon added : Lexicon) : Prop :=
  ∀ word, both.pronunciations? word =
    Option.merge joined (lexicon.pronunciations? word) (added.pronunciations? word)

/-- Pairs behind others add what these do not have. -/
theorem merges_ofPairs_append (pairs more : List (String × String)) :
    Merges (ofPairs (pairs ++ more)) (ofPairs pairs) (ofPairs more) := by
  intro word
  rw [pronunciations?_ofPairs, pronunciations?_ofPairs, pronunciations?_ofPairs, phonesFor_append]
  by_cases none : phonesFor word pairs = []
  · rw [none, List.nil_append, if_pos rfl, Option.merge_none_left]
  · by_cases noneMore : phonesFor word more = []
    · rw [noneMore, List.append_nil, if_pos rfl, Option.merge_none_right]
    · rw [if_neg none, if_neg noneMore, if_neg (List.append_ne_nil_of_left_ne_nil none _),
        Option.merge_some_some, joined, Distinct.eraseDups_append_eq]

theorem known_ofPairs (pairs : List (String × String)) (word : String) :
    Dictionary.known (ofPairs pairs).pronunciations? word =
      (phonesFor word pairs).eraseDups := by
  rw [Dictionary.known, pronunciations?_ofPairs]
  split
  · next none => rw [none]; rfl
  · rfl

theorem nodup_known (pairs : List (String × String)) (word : String) :
    (Dictionary.known (ofPairs pairs).pronunciations? word).Nodup := by
  rw [known_ofPairs]
  exact Distinct.nodup_eraseDups _

/-- A word is either unknown or has a pronunciation. -/
theorem pronunciations?_eq_known (pairs : List (String × String)) (word : String) :
    (ofPairs pairs).pronunciations? word =
      if Dictionary.known (ofPairs pairs).pronunciations? word = [] then none
      else some (Dictionary.known (ofPairs pairs).pronunciations? word) := by
  have sameNil : (phonesFor word pairs).eraseDups = [] ↔ phonesFor word pairs = [] := by
    simp only [List.eq_nil_iff_forall_not_mem, List.mem_eraseDups]
  simp only [known_ofPairs, pronunciations?_ofPairs, sameNil]

theorem isSome_pronunciations?_ofPairs {pairs : List (String × String)} {word : String} :
    ((ofPairs pairs).pronunciations? word).isSome ↔
      Dictionary.known (ofPairs pairs).pronunciations? word ≠ [] := by
  rw [pronunciations?_eq_known]
  split
  · next none => simp [none]
  · next some => simp [some]

theorem normalize_of_mem_known {pairs : List (String × String)} {word phones : String}
    (member : phones ∈ Dictionary.known (ofPairs pairs).pronunciations? word) :
    ∃ pair ∈ pairs, pair.1 = word ∧ normalize pair.2 = phones := by
  rw [known_ofPairs, List.mem_eraseDups, phonesFor] at member
  obtain ⟨pair, isOwn, isPhones⟩ := List.mem_map.1 member
  have own := List.mem_filter.1 isOwn
  exact ⟨pair, own.1, by simpa using own.2, isPhones⟩

end VoiceGrammar.Lexicon
