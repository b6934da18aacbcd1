import VoiceGrammar.Lexicon.LookupList
import VoiceGrammar.Proofs.Lexicon.DictionaryLines
import VoiceGrammar.Proofs.Lexicon.Pronunciations

/-!
# The lines of a lookup list

A lookup list is read when none of its lines lacks phones, and its lexicon has then the entries of
its lines in order. Trimming sees to it that an entry never comes with blank phones.
-/

namespace VoiceGrammar

namespace Lexicon

theorem normalize_ne_empty {phones : String} {c : Char} (member : c ∈ phones.toList)
    (visible : Text.isBlank c = false) : normalize phones ≠ "" := by
  intro empty
  have words := Text.words_intercalate fun word (member : word ∈ Text.words phones) =>
    Text.isUnbroken_of_mem_words member
  have noWords : Text.words "" = [] := by decide
  rw [← normalize, empty, noWords] at words
  exact Text.words_ne_nil member visible words.symm

end Lexicon

namespace LookupLine

/-- The word and the phones of a line that is an entry. -/
def pair? (raw : List Char) : Option (String × String) :=
  match ofText raw with
  | .entry word phones => some (word, phones)
  | _ => none

theorem pair?_eq_some_iff {raw : List Char} {pair : String × String} :
    pair? raw = some pair ↔ ofText raw = .entry pair.1 pair.2 := by
  rw [pair?]
  split
  · next word phones isEntry =>
    rw [isEntry]
    simp [Prod.ext_iff]
  · next notEntry =>
    constructor
    · intro isPair
      cases isPair
    · intro isEntry
      exact absurd isEntry (notEntry pair.1 pair.2)

/-- The phones of an entry are what is behind the first blank of the trimmed line. -/
theorem trim_of_entry {raw : List Char} {word phones : String}
    (isEntry : ofText raw = .entry word phones) :
    ∃ written blank, Text.trim raw = written ++ blank :: phones.toList ∧
      Text.isBlank blank = true := by
  rw [ofText] at isEntry
  split at isEntry
  · cases isEntry
  · split at isEntry
    · cases isEntry
    · next blank behind cut =>
      obtain ⟨-, rfl⟩ : _ ∧ String.ofList behind = phones := by simpa using isEntry
      have isFirst := List.head?_dropWhile_not (!Text.isBlank ·) (Text.trim raw)
      have line := List.takeWhile_append_dropWhile (p := (!Text.isBlank ·)) (l := Text.trim raw)
      rw [cut] at line
      exact ⟨_, blank, by simpa using line.symm, by simpa [cut] using isFirst⟩

/-- The phones of an entry are never blank, since its line is trimmed. -/
theorem normalize_ne_empty_of_entry {raw : List Char} {word phones : String}
    (isEntry : ofText raw = .entry word phones) : Lexicon.normalize phones ≠ "" := by
  obtain ⟨written, blank, line, isBlank⟩ := trim_of_entry isEntry
  obtain ⟨c, isLast⟩ : ∃ c, (blank :: phones.toList).getLast? = some c :=
    ⟨_, List.getLast?_eq_some_getLast (List.cons_ne_nil blank phones.toList)⟩
  have atEnd : (Text.trim raw).getLast? = some c := by
    rw [line, List.getLast?_append, isLast, Option.some_or]
  have visible := Text.isBlank_getLast?_trim atEnd
  -- The first blank of the line is not its last character, which is no blank.
  have member : c ∈ phones.toList := by
    rcases List.mem_cons.1 (List.mem_of_getLast? isLast) with rfl | member
    · rw [isBlank] at visible
      cases visible
    · exact member
  exact Lexicon.normalize_ne_empty member visible

end LookupLine

namespace Lexicon

/-- Lines are read when none of them lacks phones; their entries are then inserted in order. -/
theorem readLines_eq_ok_iff {origin : String} {lexicon result : Lexicon} {number : Nat}
    {lines : List (List Char)} :
    readLines origin lexicon number lines = .ok result ↔
      (∀ line ∈ lines, ∀ text, LookupLine.ofText line ≠ .noPhones text) ∧
        result = lexicon.insertAll (lines.filterMap LookupLine.pair?) := by
  induction lines generalizing lexicon number with
  | nil =>
    rw [readLines, Except.ok.injEq, eq_comm]
    simp [insertAll]
  | cons first rest inRest =>
    rw [readLines, List.forall_mem_cons]
    split
    · next isNothing =>
      have skipped : LookupLine.pair? first = none := by rw [LookupLine.pair?, isNothing]
      rw [inRest, List.filterMap_cons_none skipped]
      simp [isNothing]
    · next word phones isEntry =>
      have taken : LookupLine.pair? first = some (word, phones) :=
        LookupLine.pair?_eq_some_iff.2 isEntry
      rw [inRest, List.filterMap_cons_some taken]
      simp [isEntry, insertAll]
    · next text isFault =>
      constructor
      · intro failed
        cases failed
      · rintro ⟨⟨faultless, -⟩, -⟩
        exact absurd isFault (faultless text)

/-- What a lookup list makes is made of pairs, none of which has blank phones. -/
theorem exists_pairs_of_ofLookupList {text origin : String} {lexicon : Lexicon}
    (isRead : ofLookupList text origin = .ok lexicon) :
    ∃ pairs, lexicon = ofPairs pairs ∧ ∀ pair ∈ pairs, normalize pair.2 ≠ "" := by
  obtain ⟨-, rfl⟩ := readLines_eq_ok_iff.1 isRead
  refine ⟨_, rfl, ?_⟩
  intro pair member
  obtain ⟨line, -, isPair⟩ := List.mem_filterMap.1 member
  exact LookupLine.normalize_ne_empty_of_entry (LookupLine.pair?_eq_some_iff.1 isPair)

end Lexicon

end VoiceGrammar
