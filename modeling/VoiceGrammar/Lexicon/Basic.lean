import Std.Data.TreeMap
import VoiceGrammar.Text.Blank

/-!
# Lexicons

A lexicon gives every word it knows one or more pronunciations, the preferred one first. A
pronunciation is a string of phones with one space between two of them; entering it again under
the same word changes nothing.
-/

namespace VoiceGrammar

structure Lexicon where
  entries : Std.TreeMap String (List String)

namespace Lexicon

def empty : Lexicon := ⟨∅⟩

/-- Phones with one space between two of them and none around them. -/
def normalize (phones : String) : String :=
  " ".intercalate (Text.words phones)

/-- The pronunciations of a word, or nothing for an unknown word. -/
def pronunciations? (lexicon : Lexicon) (word : String) : Option (List String) :=
  lexicon.entries[word]?

/-- Adds a pronunciation at the end, unless it is there already. -/
def addNew (known : List String) (pronunciation : String) : List String :=
  if pronunciation ∈ known then known else known ++ [pronunciation]

/-- Enters a pronunciation of a word after those it has. -/
def insert (lexicon : Lexicon) (word phones : String) : Lexicon :=
  let known := (lexicon.pronunciations? word).getD []
  ⟨lexicon.entries.insert word (addNew known (normalize phones))⟩

/-- Enters pairs of a word and its phones, one after the other. -/
def insertAll (lexicon : Lexicon) (pairs : List (String × String)) : Lexicon :=
  pairs.foldl (fun lexicon pair => lexicon.insert pair.1 pair.2) lexicon

def ofPairs (pairs : List (String × String)) : Lexicon :=
  empty.insertAll pairs

def size (lexicon : Lexicon) : Nat :=
  lexicon.entries.size

def isEmpty (lexicon : Lexicon) : Bool :=
  lexicon.entries.isEmpty

@[simp]
theorem pronunciations?_empty (word : String) : empty.pronunciations? word = none := by
  simp [empty, pronunciations?]

/-- An insertion shows at its own word and nowhere else. -/
theorem pronunciations?_insert (lexicon : Lexicon) (word phones other : String) :
    (lexicon.insert word phones).pronunciations? other =
      if word = other then
        some (addNew ((lexicon.pronunciations? word).getD []) (normalize phones))
      else lexicon.pronunciations? other := by
  simp [insert, pronunciations?, Std.TreeMap.getElem?_insert]

end Lexicon

end VoiceGrammar
