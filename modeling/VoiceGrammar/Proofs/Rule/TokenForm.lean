import VoiceGrammar.Proofs.Text.LetterCase
import VoiceGrammar.Rule.OfValue
import VoiceGrammar.Rule.TokenForm

/-!
# Tokens have one form

The checks on a text, one after the other, come to a single form: words with one space between two
of them. Cutting a text at its spaces gives the words back, so that no text can be made up of words
in two ways. A word in front of a space and a token makes a token again, which carries the checks
from the last word to the first one.
-/

namespace VoiceGrammar

/-! ## Words -/

/-- That no character of a word is a small letter need not be asked for: capital letters and digits
are none. -/
theorem isWord_iff {word : List Char} :
    IsWord word ↔ word ≠ [] ∧ ∀ c ∈ word, isWordChar c = true := by
  constructor
  · intro isWord
    exact ⟨isWord.nonempty, isWord.wordChars⟩
  · rintro ⟨nonempty, wordChars⟩
    refine ⟨nonempty, wordChars, fun c member => ?_⟩
    exact isLowercase_eq_false_of_isWordChar (wordChars c member)

/-! ## A word in front of a token -/

theorem hasDoubleSpace_append_space {word rest : List Char} (noSpace : ' ' ∉ word)
    (first : rest.head? ≠ some ' ') :
    hasDoubleSpace (word ++ ' ' :: rest) = hasDoubleSpace rest := by
  induction word with
  | nil =>
    rw [List.nil_append, hasDoubleSpace]
    -- Two spaces in a row would need a second one at the start of the rest.
    rintro tail - rfl
    exact first rfl
  | cons c word inWord =>
    rw [List.mem_cons, not_or] at noSpace
    rw [List.cons_append, hasDoubleSpace_cons_of_ne _ (Ne.symm noSpace.1), inWord noSpace.2]

theorem tokenFlaw?_append_space {word rest : List Char} (isWord : IsWord word)
    (flawless : tokenFlaw? rest = none) : tokenFlaw? (word ++ ' ' :: rest) = none := by
  obtain ⟨notLower, nonempty, ⟨notFirst, notLast⟩, single, allowed⟩ :=
    tokenFlaw?_eq_none_iff.1 flawless
  -- The first character is one of the word now, the last one is still that of the rest.
  refine tokenFlaw?_eq_none_iff.2 ⟨?lower, by simp, ⟨?first, ?last⟩, ?double, ?foreign⟩
  case lower =>
    rw [List.forall_mem_append, List.forall_mem_cons]
    exact ⟨isWord.notLower, by decide, notLower⟩
  case first =>
    obtain ⟨c, word, rfl⟩ := List.exists_cons_of_ne_nil isWord.nonempty
    rintro isSpace
    exact isWord.space_not_mem (List.mem_of_head? isSpace)
  case last =>
    rw [List.getLast?_append_of_ne_nil _ (List.cons_ne_nil _ _),
      List.getLast?_cons_of_ne_nil nonempty]
    exact notLast
  case double =>
    rw [hasDoubleSpace_append_space isWord.space_not_mem notFirst, single]
  case foreign =>
    rw [List.forall_mem_append, List.forall_mem_cons]
    refine ⟨fun c member foreign => ?_, fun _ => rfl, allowed⟩
    exact absurd member (isWord.not_mem foreign)

theorem tokenFlaw?_intercalate {pieces : List (List Char)} (nonempty : pieces ≠ [])
    (isWord : ∀ piece ∈ pieces, IsWord piece) : tokenFlaw? ([' '].intercalate pieces) = none := by
  induction pieces with
  | nil => exact absurd rfl nonempty
  | cons first rest inRest =>
    rw [List.forall_mem_cons] at isWord
    cases rest with
    | nil =>
      rw [List.intercalate_singleton]
      exact tokenFlaw?_of_isWord isWord.1
    | cons second rest =>
      rw [List.intercalate_cons_cons, List.append_assoc, List.singleton_append]
      exact tokenFlaw?_append_space isWord.1 (inRest (List.cons_ne_nil _ _) isWord.2)

/-! ## Spelling -/

namespace Spells

variable {words : List String} {text : String}

theorem isWord (spells : Spells words text) : ∀ word ∈ words, IsWord word.toList := by
  intro word member
  refine isWord_iff.2 ⟨?_, fun c inWord => ?_⟩
  · simpa using spells.nonempty word member
  · exact Bool.or_eq_true_iff.2 (spells.capital word member c inWord)

theorem toList_eq (spells : Spells words text) :
    text.toList = [' '].intercalate (words.map String.toList) := by
  rw [← spells.joined, Text.toList_intercalate_space]

theorem flawless (spells : Spells words text) : tokenFlaw? text.toList = none := by
  rw [spells.toList_eq]
  refine tokenFlaw?_intercalate (by simpa using spells.some_word) ?_
  simpa using spells.isWord

/-- The words that spell a text are the pieces between its spaces. -/
theorem words_eq (spells : Spells words text) :
    words = (text.toList.splitOn ' ').map String.ofList := by
  have noSpace : ∀ piece ∈ words.map String.toList, ' ' ∉ piece := by
    simpa using fun word member => (spells.isWord word member).space_not_mem
  rw [spells.toList_eq, List.splitOn_intercalate ' ' noSpace (by simpa using spells.some_word),
    List.map_map]
  simp

end Spells

/-- A token is spelled by its words. -/
theorem Token.spells (token : Token) : Spells token.words token.text where
  some_word := by
    rw [words, ne_eq, List.map_eq_nil_iff]
    exact List.splitOn_ne_nil ' ' _
  nonempty word member := by
    simpa using (Token.isWord_of_mem_words member).nonempty
  capital word member c inWord :=
    Bool.or_eq_true_iff.1 ((Token.isWord_of_mem_words member).wordChars c inWord)
  joined := by
    have pieces : token.words.map String.toList = token.text.toList.splitOn ' ' := by
      rw [words, List.map_map]
      simp
    rw [← String.toList_inj, Text.toList_intercalate_space, pieces, List.intercalate_splitOn]

/-! ## The answer to a text -/

theorem tokenFlaw?_eq_lowercase_iff {text : List Char} :
    tokenFlaw? text = some .lowercase ↔ ∃ c ∈ text, Text.isLowercase c = true := by
  rw [← List.any_eq_true, tokenFlaw?]
  split
  · next lower => simp [lower]
  · -- None of the later checks finds a small letter.
    next notLower =>
    simp only [notLower]
    split_ifs <;> simp

variable {place : Place} {text : String} {token : Token} {fault : RuleFault}

theorem Token.ofTextAt_eq_ok_iff :
    Token.ofTextAt place text = .ok token ↔ Token.ofText text = .ok token := by
  rw [Token.ofTextAt]
  cases Token.ofText text <;> simp

theorem Token.ofTextAt_of_flawless (flawless : tokenFlaw? text.toList = none) :
    Token.ofTextAt place text = .ok ⟨text, flawless⟩ :=
  Token.ofTextAt_eq_ok_iff.2 (Token.ofText_text ⟨text, flawless⟩)

theorem Token.ofTextAt_eq_error_iff :
    Token.ofTextAt place text = .error fault ↔
      ∃ flaw, tokenFlaw? text.toList = some flaw ∧ fault = .badToken place text flaw := by
  simp only [← Token.ofText_eq_error_iff]
  rw [Token.ofTextAt]
  cases Token.ofText text <;> simp [eq_comm]

/-- A text is taken for a token exactly if words spell it, and then the token has these words and
no others could spell it; each of the words is a token by itself. Any other text is refused, for a
small letter if it holds one and else for another flaw; a text that words spell holds none. -/
theorem ofTextAt_accepts_spelled (place : Place) (text : String) :
    ((∃ token, Token.ofTextAt place text = .ok token) ↔ ∃ words, Spells words text) ∧
    (∀ token, Token.ofTextAt place text = .ok token →
      token.text = text ∧ (∀ words, Spells words text ↔ words = token.words) ∧
      " ".intercalate token.words = text ∧
      ∀ word ∈ token.words, ∃ own, Token.ofTextAt place word = .ok own ∧ own.words = [word]) ∧
    (∀ fault, Token.ofTextAt place text = .error fault →
      ∃ flaw, fault = .badToken place text flaw ∧
        (flaw = .lowercase ↔ ∃ c ∈ text.toList, Text.isLowercase c = true)) ∧
    ((∃ words, Spells words text) → ∀ c ∈ text.toList, Text.isLowercase c = false) ∧
    ∀ c, Text.isUppercase c = true ∨ Text.isDigit c = true → Text.isLowercase c = false := by
  refine ⟨⟨?accepted, ?spelled⟩, ?token, ?refused, ?noSmall, fun c wordChar => ?notLower⟩
  case accepted =>
    rintro ⟨token, isToken⟩
    obtain rfl := Token.text_of_ofText (Token.ofTextAt_eq_ok_iff.1 isToken)
    exact ⟨token.words, token.spells⟩
  case spelled =>
    rintro ⟨words, spells⟩
    exact ⟨_, Token.ofTextAt_of_flawless spells.flawless⟩
  case token =>
    intro token isToken
    obtain rfl := Token.text_of_ofText (Token.ofTextAt_eq_ok_iff.1 isToken)
    refine ⟨rfl, fun words => ⟨Spells.words_eq, ?_⟩, token.spells.joined, fun word member => ?_⟩
    · rintro rfl
      exact token.spells
    · have isWord := Token.isWord_of_mem_words member
      exact ⟨_, Token.ofTextAt_of_flawless (tokenFlaw?_of_isWord isWord),
        Token.words_of_isWord isWord⟩
  case refused =>
    intro fault isFault
    obtain ⟨flaw, isFlaw, rfl⟩ := Token.ofTextAt_eq_error_iff.1 isFault
    refine ⟨flaw, rfl, ?_⟩
    rw [← tokenFlaw?_eq_lowercase_iff, isFlaw, Option.some.injEq]
  case noSmall =>
    rintro ⟨words, spells⟩
    exact (tokenFlaw?_eq_none_iff.1 spells.flawless).1
  case notLower =>
    exact isLowercase_eq_false_of_isWordChar (Bool.or_eq_true_iff.2 wordChar)

/-- Capital letters of any alphabet make a word; a small letter outweighs the space in front. -/
theorem ofTextAt_accepts_spelled_alphabets :
    Spells ["Ā", "ΑΩ", "10"] "Ā ΑΩ 10" ∧
    (∃ token, Token.ofTextAt .alone "Ā ΑΩ 10" = .ok token ∧ token.words = ["Ā", "ΑΩ", "10"]) ∧
    ∃ fault, Token.ofTextAt .alone " ß" = .error fault ∧
      fault = .badToken .alone " ß" .lowercase := by
  have spells : Spells ["Ā", "ΑΩ", "10"] "Ā ΑΩ 10" := by decide
  obtain ⟨accepted, token, -, -, -⟩ := ofTextAt_accepts_spelled .alone "Ā ΑΩ 10"
  obtain ⟨-, -, refused, -, -⟩ := ofTextAt_accepts_spelled .alone " ß"
  obtain ⟨own, isToken⟩ := accepted.2 ⟨_, spells⟩
  have isFault : Token.ofTextAt .alone " ß" = .error (.badToken .alone " ß" .lowercase) :=
    Token.ofTextAt_eq_error_iff.2 ⟨_, by decide, rfl⟩
  refine ⟨spells, ⟨own, isToken, ((token own isToken).2.1 _ |>.1 spells).symm⟩, _, isFault, ?_⟩
  -- Of the flaws of this text only the small letter is told.
  obtain ⟨flaw, isFlaw, lower⟩ := refused _ isFault
  rw [isFlaw, lower.2 ⟨'ß', by decide, by decide⟩]

end VoiceGrammar
