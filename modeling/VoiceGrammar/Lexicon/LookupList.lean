import VoiceGrammar.Failure
import VoiceGrammar.Lexicon.Basic

/-!
# Lookup lists

An acoustic model lists the pronunciations it knows, one to a line: a word, a blank, the phones.
Further pronunciations of a word may be marked by a number in brackets behind the word. Empty lines
and comments are passed over; a line with a word and nothing else spoils the list.
-/

namespace VoiceGrammar

/-- What a line of a lookup list says. -/
inductive LookupLine where
  /-- Nothing: the line is empty or a comment. -/
  | nothing
  | entry (word phones : String)
  /-- The trimmed line has no phones. -/
  | noPhones (line : String)
  deriving DecidableEq, Repr

namespace LookupLine

/-- The word without the number in brackets behind it. A word that is nothing but such a number
stays as it is. -/
def stripMarker (word : List Char) : List Char :=
  match word.reverse with
  | ')' :: rest =>
    match rest.takeWhile Text.isDigit, rest.dropWhile Text.isDigit with
    | _ :: _, '(' :: last :: base => (last :: base).reverse
    | _, _ => word
  | _ => word

def isComment (line : List Char) : Bool :=
  line.isEmpty || [';', ';', ';'].isPrefixOf line || ['#'].isPrefixOf line

/-- What a line says; blanks around it do not matter, a carriage return at its end included. -/
def ofText (raw : List Char) : LookupLine :=
  let line := Text.trim raw
  if isComment line then .nothing
  else
    let word := line.takeWhile (!Text.isBlank ·)
    match line.dropWhile (!Text.isBlank ·) with
    | [] => .noPhones (String.ofList line)
    | _ :: phones => .entry (String.ofList (stripMarker word)) (String.ofList phones)

end LookupLine

namespace Lexicon

/-- Reads the lines of a lookup list, the first of which has this number. -/
def readLines (origin : String) (lexicon : Lexicon) (number : Nat) :
    List (List Char) → Except Failure Lexicon
  | [] => .ok lexicon
  | raw :: rest =>
    match LookupLine.ofText raw with
    | .nothing => readLines origin lexicon (number + 1) rest
    | .entry word phones => readLines origin (lexicon.insert word phones) (number + 1) rest
    | .noPhones line => .error (.noPhones origin number line)

/-- The lexicon of a lookup list; `origin` names the list in messages. -/
def ofLookupList (text origin : String) : Except Failure Lexicon :=
  readLines origin empty 1 (text.toList.splitOn '\n')

end Lexicon

end VoiceGrammar
