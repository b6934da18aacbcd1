import VoiceGrammar.Rule.Fault

/-!
# Reading places

The text of a place is read back. It is cut at its dots; a piece is a keyword with an index in
square brackets, and only the last piece may be a keyword alone, which is then that of a body.
The whole value and a token outside every specification have names of their own.
-/

namespace VoiceGrammar

/-- The step that a piece of a path is. -/
def Step.ofText? (piece : List Char) : Option Step :=
  let key := String.ofList (piece.takeWhile (· ≠ '['))
  let behind := (piece.dropWhile (· ≠ '[')).drop 1
  let digits := behind.takeWhile Text.isDigit
  if digits ≠ [] ∧ behind.dropWhile Text.isDigit = [']'] then
    (Kind.ofKey? key).map fun kind => ⟨kind, Nat.ofDigitChars 10 digits 0⟩
  else none

namespace Place

/-- The place that the remaining pieces of a path lead to, behind the steps that were read. -/
def ofPieces? (steps : List Step) : List (List Char) → Option Place
  | [] => none
  | [piece] =>
    match Step.ofText? piece with
    | some step => some (.element (steps ++ [step]))
    | none => (Kind.ofKey? (String.ofList piece)).map (.body steps)
  | piece :: pieces =>
    match Step.ofText? piece with
    | some step => ofPieces? (steps ++ [step]) pieces
    | none => none

/-- The place that a text names, if it names one. -/
def ofText? (text : String) : Option Place :=
  if text = "<token>" then some .alone
  else if text = "root" then some (.element [])
  else ofPieces? [] (text.toList.splitOn '.')

end Place

end VoiceGrammar
