import VoiceGrammar.Lexicon.Dictionary
import VoiceGrammar.Lexicon.LookupList
import VoiceGrammar.Text.Lines

/-!
# Reading dictionaries

The text of a dictionary is read back line by line. Every line is ended by a line break; its head
is what stands before the first tab, and the number in brackets that a head may carry is no part of
the word.
-/

namespace VoiceGrammar.Dictionary

/-- The head of a line and the phones behind its first tab. -/
def entryOfLine (line : List Char) : String × String :=
  (String.ofList (line.takeWhile (· ≠ '\t')), String.ofList ((line.dropWhile (· ≠ '\t')).drop 1))

/-- The heads and phones of the lines of a dictionary. -/
def entries (text : String) : List (String × String) :=
  (text.toList.splitOn '\n').dropLast.map entryOfLine

/-- The word that a head belongs to. -/
def baseWord (head : String) : String :=
  String.ofList (LookupLine.stripMarker head.toList)

/-- The lines of a dictionary that belong to a word, in their order. -/
def linesOf (word text : String) : List (List Char) :=
  (Text.lines text.toList).filter fun line => baseWord (entryOfLine line).1 = word

end VoiceGrammar.Dictionary
