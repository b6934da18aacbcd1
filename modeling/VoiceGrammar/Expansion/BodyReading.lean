import VoiceGrammar.Expansion.Body

/-!
# Reading rule bodies

The text of a rule body is read back symbol by symbol. Blanks separate symbols; a bar ends an
alternative and everything between two bars is a sequence; a closing bracket ends the innermost
group, and a mark glued to it repeats that group. Open groups are kept on a stack, so the text is
read once from left to right.
-/

namespace VoiceGrammar

namespace Body

inductive Bracket where
  /-- Round brackets group. -/
  | round
  /-- Square brackets make optional what they hold. -/
  | square
  deriving DecidableEq, Repr

/-- How often a group in round brackets is said. -/
inductive Mark where
  | once
  | oneOrMore
  | zeroOrMore
  deriving DecidableEq, Repr

inductive Symbol where
  | word (text : String)
  | bar
  | openRound
  | openSquare
  | closeRound (mark : Mark)
  | closeSquare
  deriving DecidableEq, Repr

/-- The symbol that a text without blanks is. -/
def Symbol.ofText : String → Symbol
  | "|" => .bar
  | "(" => .openRound
  | "[" => .openSquare
  | ")" => .closeRound .once
  | ")+" => .closeRound .oneOrMore
  | ")*" => .closeRound .zeroOrMore
  | "]" => .closeSquare
  | text => .word text

def symbols (text : String) : List Symbol :=
  ((text.toList.splitOn ' ').filter (!·.isEmpty)).map fun piece =>
    Symbol.ofText (String.ofList piece)

/-- A group that is still open: the alternatives before the last bar and the items behind it, both
with the last one first. The outermost group has no bracket. -/
structure Group where
  bracket : Option Bracket
  alternatives : List Expansion
  items : List Expansion

namespace Group

/-- A group that was just opened. -/
def start (bracket : Option Bracket) : Group := ⟨bracket, [], []⟩

/-- Adds an item behind the last bar. -/
def add (group : Group) (item : Expansion) : Group :=
  { group with items := item :: group.items }

/-- Ends the alternative behind the last bar. -/
def bar (group : Group) : Group :=
  { group with alternatives := .sequence group.items.reverse :: group.alternatives, items := [] }

def content (group : Group) : Expansion :=
  match group.alternatives with
  | [] => .sequence group.items.reverse
  | alternatives => .alternatives (.sequence group.items.reverse :: alternatives).reverse

end Group

/-- What a group in round brackets means with its mark. -/
def Mark.apply (mark : Mark) (content : Expansion) : Expansion :=
  match mark with
  | .once => content
  | .oneOrMore => .oneOrMore content
  | .zeroOrMore => .zeroOrMore content

/-- Reads symbols into the innermost open group; `outer` holds the groups around it. -/
def readSymbols (outer : List Group) (group : Group) : List Symbol → Option Expansion
  | [] => if outer.isEmpty then some group.content else none
  | .word text :: rest =>
    match Token.ofText text with
    | .ok token => readSymbols outer (group.add (.phrase token)) rest
    | .error _ => none
  | .bar :: rest => readSymbols outer group.bar rest
  | .openRound :: rest => readSymbols (group :: outer) (.start (some .round)) rest
  | .openSquare :: rest => readSymbols (group :: outer) (.start (some .square)) rest
  | .closeRound mark :: rest =>
    match outer with
    | [] => none
    | next :: outer =>
      if group.bracket = some .round then
        readSymbols outer (next.add (mark.apply group.content)) rest
      else none
  | .closeSquare :: rest =>
    match outer with
    | [] => none
    | next :: outer =>
      if group.bracket = some .square then
        readSymbols outer (next.add (.optional group.content)) rest
      else none

end Body

/-- The expansion that a rule body reads as; a text that is no rule body reads as nothing. -/
def Expansion.ofBody? (text : String) : Option Expansion :=
  Body.readSymbols [] (.start none) (Body.symbols text)

end VoiceGrammar
