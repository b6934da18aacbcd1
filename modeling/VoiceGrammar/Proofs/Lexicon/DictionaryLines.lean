import VoiceGrammar.Lexicon.DictionaryReading
import VoiceGrammar.Proofs.Distinct
import VoiceGrammar.Proofs.Text.CharClasses

/-!
# The lines of a dictionary

The text of a dictionary falls into the lines that it was put together from, and every head gives
back its word and its number. Words hold neither tabs nor brackets, and phones no line breaks, so
that nothing in a line can be taken for a separator.
-/

namespace VoiceGrammar

/-! ## Heads -/

namespace LookupLine

theorem stripMarker_marked {base digits : List Char} (nonempty : base ≠ []) (numbered : digits ≠ [])
    (allDigits : ∀ c ∈ digits, Text.isDigit c = true) :
    stripMarker (base ++ '(' :: (digits ++ [')'])) = base := by
  obtain ⟨last, front, isBase⟩ :=
    List.exists_cons_of_ne_nil (List.reverse_ne_nil_iff.2 nonempty)
  obtain ⟨first, more, isDigits⟩ := List.exists_cons_of_ne_nil (List.reverse_ne_nil_iff.2 numbered)
  have backwards : (base ++ '(' :: (digits ++ [')'])).reverse =
      ')' :: (digits.reverse ++ '(' :: (last :: front)) := by
    simp [← isBase]
  -- Backwards the digits come first, up to the bracket that opens.
  have allDigits' : ∀ c ∈ digits.reverse, Text.isDigit c = true := by
    simpa using allDigits
  have noDigit : Text.isDigit '(' = false := by decide
  have taken := Text.takeWhile_append_mark (last :: front) allDigits' noDigit
  have dropped := Text.dropWhile_append_mark (last :: front) allDigits' noDigit
  rw [isDigits] at backwards taken dropped
  rw [stripMarker, backwards]
  simp only [taken, dropped]
  rw [← isBase, List.reverse_reverse]

theorem stripMarker_of_not_mem {word : List Char} (noBracket : ')' ∉ word) :
    stripMarker word = word := by
  rw [stripMarker]
  split
  · next rest backwards =>
    have member : ')' ∈ word.reverse := backwards ▸ List.mem_cons_self
    exact absurd (List.mem_reverse.1 member) noBracket
  · rfl

end LookupLine

namespace Dictionary

/-- The first line of a word is headed by the word alone, the second one by the word with (2), the
third one by the word with (3), and so on. -/
theorem heading_eq (word : String) (index : Nat) :
    heading word index =
      if index = 0 then word else word ++ "(" ++ toString (index + 1) ++ ")" := by
  cases index <;> rfl

theorem toList_heading_succ (word : String) (index : Nat) :
    (heading word (index + 1)).toList =
      word.toList ++ '(' :: (Nat.toDigits 10 (index + 2) ++ [')']) := by
  simp [heading]

/-- A head gives back the word it was made for. -/
theorem baseWord_heading {word : String} (isWord : IsWord word.toList) (index : Nat) :
    baseWord (heading word index) = word := by
  cases index with
  | zero =>
    rw [heading, baseWord, LookupLine.stripMarker_of_not_mem (isWord.not_mem (by decide)),
      String.ofList_toList]
  | succ index =>
    rw [baseWord, toList_heading_succ,
      LookupLine.stripMarker_marked isWord.nonempty Nat.toDigits_ne_nil
        (fun c => Text.isDigit_of_mem_toDigits),
      String.ofList_toList]

theorem heading_injective {word : String} {index index' : Nat}
    (same : heading word index = heading word index') : index = index' := by
  rw [← String.toList_inj] at same
  cases index with
  | zero =>
    cases index' with
    | zero => rfl
    | succ index' =>
      rw [toList_heading_succ, heading] at same
      simp at same
  | succ index =>
    cases index' with
    | zero =>
      rw [toList_heading_succ, heading] at same
      simp at same
    | succ index' =>
      rw [toList_heading_succ, toList_heading_succ, List.append_cancel_left_eq, List.cons.injEq,
        List.append_cancel_right_eq] at same
      have numbers : index + 2 = index' + 2 := by
        rw [← Nat.ofDigitChars_ten_toDigits (n := index + 2), same.2, Nat.ofDigitChars_ten_toDigits]
      omega

/-- A head holds characters of its word, digits and brackets. -/
theorem not_mem_heading {word : String} (isWord : IsWord word.toList) (index : Nat) {c : Char}
    (foreign : isWordChar c = false) (noBracket : c ≠ '(' ∧ c ≠ ')') :
    c ∉ (heading word index).toList := by
  have notInWord := isWord.not_mem foreign
  have noDigit : ∀ number, c ∉ Nat.toDigits 10 number := by
    intro number member
    have digit := Text.isDigit_of_mem_toDigits member
    simp [isWordChar, digit] at foreign
  cases index with
  | zero => exact notInWord
  | succ index =>
    rw [toList_heading_succ]
    simp [notInWord, noDigit, noBracket]

/-! ## Lines -/

/-- A line with its head and its phones. -/
def lineText (entry : String × String) : String :=
  entry.1 ++ "\t" ++ entry.2 ++ "\n"

/-- The text that some lines make. -/
def textOf (lines : List (String × String)) : String :=
  String.join (lines.map lineText)

/-- The heads and phones of the lines of a word. -/
def wordEntries (word : String) (pronunciations : List String) : List (String × String) :=
  pronunciations.mapIdx fun index phones => (heading word index, phones)

theorem wordLines_eq (word : String) (pronunciations : List String) :
    wordLines word pronunciations = (wordEntries word pronunciations).map lineText := by
  rw [wordLines, wordEntries, List.mapIdx_eq_zipIdx_map, List.mapIdx_eq_zipIdx_map, List.map_map]
  rfl

theorem mem_wordEntries {word : String} {pronunciations : List String} {entry : String × String}
    (member : entry ∈ wordEntries word pronunciations) :
    ∃ index, entry.1 = heading word index ∧ entry.2 ∈ pronunciations := by
  obtain ⟨index, bound, rfl⟩ := List.mem_mapIdx.1 member
  exact ⟨index, rfl, List.getElem_mem bound⟩

/-- A head without a tab and phones without a line break can be told apart in the text. -/
structure IsEntry (entry : String × String) : Prop where
  noTab : '\t' ∉ entry.1.toList
  noBreak : '\n' ∉ entry.1.toList ∧ '\n' ∉ entry.2.toList

theorem entryOfLine_append {head phones : List Char} (noTab : '\t' ∉ head) :
    entryOfLine (head ++ '\t' :: phones) = (String.ofList head, String.ofList phones) := by
  have before := Text.ne_mark_of_not_mem noTab
  rw [entryOfLine, Text.takeWhile_append_mark _ before (by decide),
    Text.dropWhile_append_mark _ before (by decide), List.drop_one, List.tail_cons]

/-- A line without its line break. -/
def lineChars (entry : String × String) : List Char :=
  entry.1.toList ++ '\t' :: entry.2.toList

theorem entryOfLine_lineChars {entry : String × String} (noTab : '\t' ∉ entry.1.toList) :
    entryOfLine (lineChars entry) = entry := by
  rw [lineChars, entryOfLine_append noTab, String.ofList_toList, String.ofList_toList]

theorem toList_textOf_cons (first : String × String) (rest : List (String × String)) :
    (textOf (first :: rest)).toList = lineChars first ++ '\n' :: (textOf rest).toList := by
  simp [textOf, lineText, lineChars]

/-- The line breaks of a text that was put together from lines are those that end the lines. -/
theorem splitOn_textOf {lines : List (String × String)} (isEntry : ∀ line ∈ lines, IsEntry line) :
    (textOf lines).toList.splitOn '\n' = lines.map lineChars ++ [[]] := by
  induction lines with
  | nil => decide
  | cons first rest inRest =>
    -- There is no line break before the one that ends the first line.
    rw [List.forall_mem_cons] at isEntry
    obtain ⟨⟨noTab, noBreak⟩, isRest⟩ := isEntry
    have whole : '\n' ∉ lineChars first := by
      simp [lineChars, noBreak]
    rw [toList_textOf_cons, List.splitOn_append_cons_self_of_not_mem whole, inRest isRest]
    rfl

/-- The lines of a text that was put together from lines are these lines. -/
theorem entries_textOf {lines : List (String × String)} (isEntry : ∀ line ∈ lines, IsEntry line) :
    entries (textOf lines) = lines := by
  have single : ∀ line ∈ lines, entryOfLine (lineChars line) = line :=
    fun line member => entryOfLine_lineChars (isEntry line member).noTab
  rw [entries, splitOn_textOf isEntry, List.dropLast_concat, List.map_map]
  exact (List.map_congr_left single).trans (List.map_id _)

end Dictionary

end VoiceGrammar
