import VoiceGrammar.Proofs.Rule.TokenWords
import VoiceGrammar.Proofs.Text.Words

/-!
# Characters of words

The properties of characters are lists of runs, and two properties have nothing in common when
every run of one lies on one side of every run of the other. In this way no capital letter and no
digit is a blank, so that a word of a token is also a word of any text that it stands in.
-/

namespace VoiceGrammar

namespace Text

/-- Every run of the first list ends before or starts behind every run of the second. -/
def runsApart (runs runs' : List CodeRun) : Bool :=
  runs.all fun run => runs'.all fun run' => run.last < run'.first || run'.last < run.first

theorem inRuns_eq_false_of_apart {runs runs' : List CodeRun} (apart : runsApart runs runs' = true)
    {c : Char} (member : inRuns runs c = true) : inRuns runs' c = false := by
  obtain ⟨run, isRun, reached⟩ := inRuns_iff.1 member
  have bounds := CodeRun.bounds_of_contains reached
  cases known : inRuns runs' c with
  | false => rfl
  | true =>
    obtain ⟨run', isRun', reached'⟩ := inRuns_iff.1 known
    have bounds' := CodeRun.bounds_of_contains reached'
    have oneSide := List.all_eq_true.1 (List.all_eq_true.1 apart run isRun) run' isRun'
    simp only [Bool.or_eq_true, decide_eq_true_eq] at oneSide
    omega

theorem isDigit_iff {c : Char} : isDigit c = true ↔ 48 ≤ c.toNat ∧ c.toNat ≤ 57 := by
  simp only [isDigit, Bool.and_eq_true, decide_eq_true_eq]
  exact Iff.rfl

theorem isDigit_of_mem_toDigits {number : Nat} {c : Char} (member : c ∈ Nat.toDigits 10 number) :
    isDigit c = true := by
  have digit := Nat.isDigit_of_mem_toDigits (by decide) (by decide) member
  rw [Char.isDigit_iff_toNat] at digit
  exact isDigit_iff.2 digit

theorem inRuns_of_isDigit {c : Char} (digit : isDigit c = true) :
    inRuns [⟨48, 57, 1⟩] c = true := by
  have bounds := isDigit_iff.1 digit
  simp [inRuns, CodeRun.contains, bounds.1, bounds.2, Nat.mod_one]

theorem isBlank_eq_false_of_isUppercase {c : Char} (upper : isUppercase c = true) :
    isBlank c = false :=
  inRuns_eq_false_of_apart (by decide +kernel) upper

theorem isBlank_eq_false_of_isDigit {c : Char} (digit : isDigit c = true) :
    isBlank c = false :=
  inRuns_eq_false_of_apart (by decide) (inRuns_of_isDigit digit)

end Text

theorem isBlank_eq_false_of_isWordChar {c : Char} (wordChar : isWordChar c = true) :
    Text.isBlank c = false := by
  rcases Bool.or_eq_true_iff.1 wordChar with upper | digit
  · exact Text.isBlank_eq_false_of_isUppercase upper
  · exact Text.isBlank_eq_false_of_isDigit digit

theorem IsWord.isUnbroken {word : List Char} (isWord : IsWord word) : Text.IsUnbroken word where
  nonempty := isWord.nonempty
  noBlank c member := isBlank_eq_false_of_isWordChar (isWord.wordChars c member)

/-- A character that is no word character stands in no word. -/
theorem IsWord.not_mem {word : List Char} (isWord : IsWord word) {c : Char}
    (foreign : isWordChar c = false) : c ∉ word := by
  intro member
  have wordChar := isWord.wordChars c member
  rw [foreign] at wordChar
  cases wordChar

theorem Token.isWord_of_mem_words {token : Token} {word : String} (member : word ∈ token.words) :
    IsWord word.toList := by
  obtain ⟨piece, isPiece, rfl⟩ := List.mem_map.1 member
  rw [String.toList_ofList]
  exact isWord_of_mem_splitOn token.flawless isPiece

end VoiceGrammar
