import Mathlib.Data.Finset.Card
import VoiceGrammar.Proofs.Lexicon.Pronunciations

/-!
# Runs of insertions

A lexicon keeps the pronunciations of every word apart. What it answers after a run of insertions is
fixed by the pairs that were inserted and, under each word, by their order; how the pairs of
different words stand among each other leaves no trace. An insertion adds a word if the word is new
and a pronunciation if the word does not have it, and from this one step the size of a lexicon after
any run follows.
-/

namespace VoiceGrammar.Lexicon

variable {pairs : List (String × String)} {word : String}

/-! ## Phones that are spelled in different ways -/

/-- Normalising forgets how phones are spaced, and nothing else. -/
theorem normalize_eq_iff {phones phones' : String} :
    normalize phones = normalize phones' ↔ Text.words phones = Text.words phones' := by
  constructor
  · intro same
    rw [← words_normalize phones, same, words_normalize phones']
  · intro same
    rw [normalize, normalize, same]

/-! ## One insertion -/

/-- An insertion adds a word only if the word is new. -/
theorem size_insert (lexicon : Lexicon) (word phones : String) :
    (lexicon.insert word phones).size =
      if (lexicon.pronunciations? word).isSome then lexicon.size else lexicon.size + 1 := by
  rw [size, insert, Std.TreeMap.size_insert, Std.TreeMap.contains_eq_isSome_getElem?]
  rfl

/-! ## Runs -/

theorem insertAll_ofPairs (pairs more : List (String × String)) :
    (ofPairs pairs).insertAll more = ofPairs (pairs ++ more) :=
  List.foldl_append.symm

theorem phonesFor_eq_nil_iff : phonesFor word pairs = [] ↔ word ∉ pairs.map Prod.fst := by
  rw [phonesFor, List.map_eq_nil_iff, List.filter_eq_nil_iff, List.mem_map]
  simp only [decide_eq_true_eq, not_exists, not_and]

theorem isSome_ofPairs_iff :
    ((ofPairs pairs).pronunciations? word).isSome ↔ word ∈ pairs.map Prod.fst := by
  rw [pronunciations?_ofPairs]
  split
  · next none => exact iff_of_false Bool.false_ne_true (phonesFor_eq_nil_iff.1 none)
  · next some => exact iff_of_true rfl (Classical.not_not.1 fun absent =>
      some (phonesFor_eq_nil_iff.2 absent))

/-- A lexicon has as many words as there are among the pairs. -/
theorem size_ofPairs (pairs : List (String × String)) :
    (ofPairs pairs).size = (pairs.map Prod.fst).toFinset.card := by
  induction pairs using List.reverseRecOn with
  | nil => rfl
  | append_singleton pairs last inPairs =>
    -- The run grows at its end, where the step lemma applies.
    have step : ofPairs (pairs ++ [last]) = (ofPairs pairs).insert last.1 last.2 :=
      (insertAll_ofPairs pairs [last]).symm
    have words : ((pairs ++ [last]).map Prod.fst).toFinset =
        Insert.insert last.1 (pairs.map Prod.fst).toFinset := by
      ext word
      simp
    rw [step, size_insert, words, inPairs]
    by_cases known : last.1 ∈ pairs.map Prod.fst
    · rw [if_pos (isSome_ofPairs_iff.2 known),
        Finset.insert_eq_of_mem (List.mem_toFinset.2 known)]
    · rw [if_neg fun isSome => known (isSome_ofPairs_iff.1 isSome),
        Finset.card_insert_of_notMem fun member => known (List.mem_toFinset.1 member)]

theorem isEmpty_ofPairs_iff : (ofPairs pairs).isEmpty = true ↔ pairs = [] := by
  rw [isEmpty, Std.TreeMap.isEmpty_eq_size_eq_zero, beq_iff_eq, ← size, size_ofPairs,
    Finset.card_eq_zero, List.toFinset_eq_empty_iff, List.map_eq_nil_iff]

/-! ## What a run leaves -/

/-- What a lexicon answers after these pairs were entered, one after the other: it knows their words
and no others, under each word its phones in the order of their first entry, each of them once and
evenly spaced, and how many words there are. -/
structure Records (lexicon : Lexicon) (entered : List (String × String)) : Prop where
  unknown : ∀ word, lexicon.pronunciations? word = none ↔ word ∉ entered.map Prod.fst
  known : ∀ word ∈ entered.map Prod.fst,
    lexicon.pronunciations? word = some (((entered.filter (·.1 = word)).map fun pair =>
      " ".intercalate (Text.words pair.2)).eraseDups)
  size_eq : lexicon.size = (entered.map Prod.fst).toFinset.card
  isEmpty_iff : lexicon.isEmpty = true ↔ entered = []

theorem records_ofPairs (pairs : List (String × String)) : Records (ofPairs pairs) pairs where
  unknown word := by
    rw [← isSome_ofPairs_iff, Option.not_isSome_iff_eq_none]
  known word isWord := by
    have some : phonesFor word pairs ≠ [] := fun none => phonesFor_eq_nil_iff.1 none isWord
    rw [pronunciations?_ofPairs, if_neg some]
    rfl
  size_eq := size_ofPairs pairs
  isEmpty_iff := isEmpty_ofPairs_iff

/-- Two runs that have the same pairs under every word, in the same order. -/
def SameByWord (entered entered' : List (String × String)) : Prop :=
  ∀ word, entered.filter (·.1 = word) = entered'.filter (·.1 = word)

section SameByWord

variable {entered entered' : List (String × String)} {lexicon lexicon' : Lexicon}

theorem SameByWord.mem_iff (same : SameByWord entered entered') (word : String) :
    word ∈ entered.map Prod.fst ↔ word ∈ entered'.map Prod.fst := by
  rw [← not_iff_not, ← phonesFor_eq_nil_iff, ← phonesFor_eq_nil_iff, phonesFor, phonesFor,
    same word]

theorem Records.pronunciations?_eq (records : Records lexicon entered)
    (records' : Records lexicon' entered') (same : SameByWord entered entered') (word : String) :
    lexicon.pronunciations? word = lexicon'.pronunciations? word := by
  by_cases isWord : word ∈ entered.map Prod.fst
  · rw [records.known word isWord, records'.known word ((same.mem_iff word).1 isWord), same word]
  · rw [(records.unknown word).2 isWord,
      (records'.unknown word).2 fun isWord' => isWord ((same.mem_iff word).2 isWord')]

theorem Records.size_eq_size (records : Records lexicon entered)
    (records' : Records lexicon' entered') (same : SameByWord entered entered') :
    lexicon.size = lexicon'.size := by
  have sameWords : (entered.map Prod.fst).toFinset = (entered'.map Prod.fst).toFinset :=
    List.toFinset.ext_iff.2 same.mem_iff
  rw [records.size_eq, records'.size_eq, sameWords]

end SameByWord

/-- Insertions are recorded, whether they are made all at once to begin with or one by one. What is
recorded fixes all answers, and the order of the pairs counts only under each word: two runs with
the same pairs under every word end in lexicons with the same answers. Phones that differ only in
their blanks are the same phones. -/
theorem insertions_recorded :
    (∀ pairs more, Records
      (more.foldl (fun lexicon pair => lexicon.insert pair.1 pair.2) (ofPairs pairs))
      (pairs ++ more)) ∧
    (∀ lexicon lexicon' entered entered', Records lexicon entered → Records lexicon' entered' →
      SameByWord entered entered' →
      (∀ word, lexicon.pronunciations? word = lexicon'.pronunciations? word) ∧
        lexicon.size = lexicon'.size ∧ lexicon.isEmpty = lexicon'.isEmpty) ∧
    ∀ phones phones', normalize phones = normalize phones' ↔
      Text.words phones = Text.words phones' := by
  refine ⟨fun pairs more => ?recorded, fun lexicon lexicon' _ _ records records' same => ?answers,
    fun _ _ => normalize_eq_iff⟩
  case recorded =>
    have run := insertAll_ofPairs pairs more
    rw [insertAll] at run
    rw [run]
    exact records_ofPairs _
  case answers =>
    have sameSize := records.size_eq_size records' same
    refine ⟨records.pronunciations?_eq records' same, sameSize, ?_⟩
    -- A lexicon is empty when its size is zero.
    rw [isEmpty, isEmpty, Std.TreeMap.isEmpty_eq_size_eq_zero, Std.TreeMap.isEmpty_eq_size_eq_zero]
    exact congrArg (· == 0) sameSize

/-- The second entry of `GO` differs from the first one only in its blanks; `READ` may stand
anywhere. -/
theorem insertions_recorded_interleaved :
    let pairs := [("GO", "G OW"), ("READ", "R EH D")]
    let more := [("GO", " G \t OW"), ("GO", "G AO")]
    let pairs' := [("READ", "R EH D"), ("GO", "G OW"), ("GO", " G \t OW"), ("GO", "G AO")]
    let lexicon := more.foldl (fun lexicon pair => lexicon.insert pair.1 pair.2) (ofPairs pairs)
    Records lexicon (pairs ++ more) ∧ Records (ofPairs pairs') pairs' ∧
      SameByWord (pairs ++ more) pairs' ∧
      lexicon.pronunciations? "GO" = some ["G OW", "G AO"] ∧ lexicon.size = 2 ∧
      ∀ word, lexicon.pronunciations? word = (ofPairs pairs').pronunciations? word := by
  intro pairs more pairs' lexicon
  have records : Records lexicon (pairs ++ more) := insertions_recorded.1 pairs more
  have records' : Records (ofPairs pairs') pairs' := insertions_recorded.1 pairs' []
  have same : SameByWord (pairs ++ more) pairs' := by
    intro word
    by_cases isGo : "GO" = word
    · subst isGo
      rfl
    · simp [pairs, more, pairs', List.filter_cons, isGo]
  have answers := insertions_recorded.2.1 _ _ _ _ records records' same
  exact ⟨records, records', same, (records.known "GO" (by decide)).trans (by decide),
    records.size_eq.trans (by decide), answers.1⟩

end VoiceGrammar.Lexicon
