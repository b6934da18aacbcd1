import VoiceGrammar.Expansion.Basic

/-!
# Rule bodies

The body of a grammar rule is written with blanks between its symbols. A bar separates
alternatives and binds loosest, which is why alternatives always stand in brackets: round ones, or
the square ones that make them optional. What is repeated stands in round brackets with the mark
right behind them.
-/

namespace VoiceGrammar

namespace Expansion

mutual

/-- The text of an expansion in a rule body. -/
def body : Expansion → String
  | .phrase token => token.text
  | .sequence items => bodies " " items
  | .alternatives items => "( " ++ bodies " | " items ++ " )"
  | .optional (.alternatives items) => "[ " ++ bodies " | " items ++ " ]"
  | .optional inner => "[ " ++ body inner ++ " ]"
  | .oneOrMore (.alternatives items) => "( " ++ bodies " | " items ++ " )+"
  | .oneOrMore inner => "( " ++ body inner ++ " )+"
  | .zeroOrMore (.alternatives items) => "( " ++ bodies " | " items ++ " )*"
  | .zeroOrMore inner => "( " ++ body inner ++ " )*"

/-- The texts of some expansions with `separator` between two of them. -/
def bodies (separator : String) : List Expansion → String
  | [] => ""
  | [item] => body item
  | first :: rest => body first ++ separator ++ bodies separator rest

end

end Expansion

end VoiceGrammar
