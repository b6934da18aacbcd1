import VoiceGrammar.Expansion.BodyReading
import VoiceGrammar.Grammar.Document

/-!
# Reading grammar documents

The body of the one rule in a grammar document stands between the equals sign and the last
semicolon. Without its brackets, bars and marks it is a list of words.
-/

namespace VoiceGrammar

/-- The words of a rule body, from left to right. -/
def Body.wordsOf (body : String) : List String :=
  (symbols body).filterMap fun
    | .word text => some text
    | _ => none

/-- The body in a grammar document: what is behind the first `= ` and before the last `;`. -/
def Grammar.bodyOf (document : String) : String :=
  let behind := (document.toList.dropWhile (· ≠ '=')).drop 2
  String.ofList ((behind.reverse.dropWhile (· ≠ ';')).drop 1).reverse

end VoiceGrammar
