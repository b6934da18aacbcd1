import VoiceGrammar.Text.LetterCase

/-!
# The form of tokens

What a token looks like, said without the checks: words of capital letters and digits with one
space between two of them.
-/

namespace VoiceGrammar

/-- The words make up the text: there is one at least, none of them is empty, they hold capital
letters and digits only, and a single space stands between two of them. -/
structure Spells (words : List String) (text : String) : Prop where
  some_word : words ≠ []
  nonempty : ∀ word ∈ words, word ≠ ""
  capital : ∀ word ∈ words, ∀ c ∈ word.toList, Text.isUppercase c = true ∨ Text.isDigit c = true
  joined : " ".intercalate words = text

theorem spells_iff {words : List String} {text : String} :
    Spells words text ↔ words ≠ [] ∧ (∀ word ∈ words, word ≠ "") ∧
      (∀ word ∈ words, word.toList.all (fun c => Text.isUppercase c || Text.isDigit c) = true) ∧
      " ".intercalate words = text := by
  simp only [List.all_eq_true, Bool.or_eq_true]
  constructor
  · rintro ⟨some_word, nonempty, capital, joined⟩
    exact ⟨some_word, nonempty, capital, joined⟩
  · rintro ⟨some_word, nonempty, capital, joined⟩
    exact ⟨some_word, nonempty, capital, joined⟩

instance (words : List String) (text : String) : Decidable (Spells words text) :=
  decidable_of_iff' _ spells_iff

end VoiceGrammar
