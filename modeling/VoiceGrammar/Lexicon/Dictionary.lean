import VoiceGrammar.Failure

/-!
# Dictionaries

A dictionary has a line for every pronunciation of every word: the word, a tab, the phones. From
the second pronunciation on the word carries its number in brackets. All words are looked up
before anything is refused, so every unknown word is reported at once.
-/

namespace VoiceGrammar

namespace Dictionary

/-- How the pronunciation with this index heads its line. -/
def heading (word : String) : (index : Nat) → String
  | 0 => word
  | index + 1 => word ++ "(" ++ toString (index + 2) ++ ")"

def wordLines (word : String) (pronunciations : List String) : List String :=
  pronunciations.mapIdx fun index phones => heading word index ++ "\t" ++ phones ++ "\n"

/-- The pronunciations that a lookup has for a word; an unknown word has none. -/
def known (lookup : String → Option (List String)) (word : String) : List String :=
  (lookup word).getD []

def ofWords (lookup : String → Option (List String)) (words : List String) :
    Except Failure String :=
  let missing := words.filter fun word => (known lookup word).isEmpty
  if missing.isEmpty then
    .ok (String.join (words.flatMap fun word => wordLines word (known lookup word)))
  else .error (.unknownWords missing)

end Dictionary

end VoiceGrammar
