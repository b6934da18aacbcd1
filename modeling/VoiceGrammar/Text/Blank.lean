import VoiceGrammar.Text.CodeRun

/-!
# Blanks and words

A blank is a character of the Unicode property White_Space. Utterances and phone strings are read
as the words between blanks, and lines are trimmed of blanks at both ends. The one fact that the
rest of the library leans on is that a word is never empty and never holds a blank.
-/

namespace VoiceGrammar.Text

def blankRuns : List CodeRun :=
  [⟨0x09, 0x0D, 1⟩, ⟨0x20, 0x20, 1⟩, ⟨0x85, 0x85, 1⟩, ⟨0xA0, 0xA0, 1⟩, ⟨0x1680, 0x1680, 1⟩,
   ⟨0x2000, 0x200A, 1⟩, ⟨0x2028, 0x2029, 1⟩, ⟨0x202F, 0x202F, 1⟩, ⟨0x205F, 0x205F, 1⟩,
   ⟨0x3000, 0x3000, 1⟩]

/-- The property White_Space. -/
def isBlank (c : Char) : Bool :=
  inRuns blankRuns c

/-- The stretches of `text` between blanks, empty ones left out. -/
def splitWords (text : List Char) : List (List Char) :=
  (text.splitOnP isBlank).filter (!·.isEmpty)

def words (text : String) : List String :=
  (splitWords text.toList).map String.ofList

/-- The text without the blanks at its two ends. -/
def trim (text : List Char) : List Char :=
  ((text.dropWhile isBlank).reverse.dropWhile isBlank).reverse

theorem ne_nil_of_mem_splitWords {text word : List Char} (h : word ∈ splitWords text) :
    word ≠ [] := by
  have := (List.mem_filter.1 h).2
  intro empty
  simp [empty] at this

end VoiceGrammar.Text
