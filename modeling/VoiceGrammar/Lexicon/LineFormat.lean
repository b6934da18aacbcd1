import VoiceGrammar.Lexicon.LookupList

/-!
# The format of lookup lists

What a line of a lookup list says, without a reader. Only the trimmed line counts. It is idle, or
it lists the phones of a word, or it is at fault because no blank ends its word. A number in
brackets behind a word marks a further pronunciation and is no part of the word.
-/

namespace VoiceGrammar.LookupLine

/-- A line that says nothing: an empty one or a comment. -/
def IsIdle (line : List Char) : Prop :=
  Text.trim line = [] ∨ [';', ';', ';'] <+: Text.trim line ∨ ['#'] <+: Text.trim line

instance : DecidablePred IsIdle := fun _ =>
  inferInstanceAs (Decidable (_ ∨ _ ∨ _))

/-- A line that is idle or holds a blank somewhere inside. -/
def IsSound (line : List Char) : Prop :=
  IsIdle line ∨ ∃ c ∈ Text.trim line, Text.isBlank c = true

instance : DecidablePred IsSound := fun _ =>
  inferInstanceAs (Decidable (_ ∨ ∃ c ∈ _, _))

/-- The first of some lines that is not sound, with the lines before it. -/
structure FirstFault (lines before : List (List Char)) (line : List Char) : Prop where
  stands : ∃ after, lines = before ++ line :: after
  sound : ∀ other ∈ before, IsSound other
  faulty : ¬ IsSound line

/-- A word with a number in brackets behind it. -/
def Marked (written word : List Char) : Prop :=
  ∃ digits, word ≠ [] ∧ digits ≠ [] ∧ (∀ c ∈ digits, Text.isDigit c = true) ∧
    written = word ++ '(' :: (digits ++ [')'])

/-- The word that is meant by what is written: itself, or the word that a number marks. -/
inductive Means : List Char → List Char → Prop where
  | marked {written word : List Char} : Marked written word → Means written word
  | bare {written : List Char} : (∀ word, ¬ Marked written word) → Means written written

/-- The line has a word, up to the first blank, and its phones. -/
inductive Lists : List Char → String × String → Prop where
  | intro {line written word phones : List Char} {blank : Char} :
      Text.trim line = written ++ blank :: phones → (∀ c ∈ written, Text.isBlank c = false) →
      Text.isBlank blank = true → Means written word →
      Lists line (String.ofList word, String.ofList phones)

end VoiceGrammar.LookupLine
