import VoiceGrammar.Rule.OfValue

/-!
# The canonical text of a rule

A rule is written as JSON without blanks: a literal as a string, a group as an object with its
keyword and the array of its children. Keywords and tokens hold no character that a string would
have to escape.
-/

namespace VoiceGrammar.Rule

/-- A text between double quotes, as it is. -/
def jsonQuoted (text : String) : String := "\"" ++ text ++ "\""

mutual

/-- The canonical text of a rule. -/
def jsonText : Rule → String
  | .literal token => jsonQuoted token.text
  | .group kind first rest =>
    "\x7b" ++ jsonQuoted kind.key ++ ":[" ++ jsonText first ++ jsonTexts rest ++ "]\x7d"

/-- The canonical texts of some rules, each with a comma before it. -/
def jsonTexts : List Rule → String
  | [] => ""
  | first :: rest => "," ++ jsonText first ++ jsonTexts rest

end

end VoiceGrammar.Rule
