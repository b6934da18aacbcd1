/-!
# Lines

A text is read line by line. A line break ends a line, and a carriage return right before it
belongs to the break. Any other carriage return is a character of its line, and no other character
ends one. Behind the last break there is a line only if there is something left.
-/

namespace VoiceGrammar.Text

/-- The lines of a text, without what ends them. -/
def lines : List Char → List (List Char)
  | [] => []
  | '\n' :: rest => [] :: lines rest
  | '\r' :: '\n' :: rest => [] :: lines rest
  | c :: rest =>
    match lines rest with
    | [] => [[c]]
    | line :: others => (c :: line) :: others

/-- The text with a carriage return before every line break. -/
def withReturns (text : List Char) : List Char :=
  text.flatMap fun c => if c = '\n' then ['\r', '\n'] else [c]

end VoiceGrammar.Text
