import VoiceGrammar.Expansion.Body
import VoiceGrammar.Failure

/-!
# Grammar documents

A grammar document declares one public rule in three lines: the header, the name of the grammar,
and the rule, which has the same name. A name that could end a line, a statement or a bracket of
the document is refused, and so are the names of the two built-in rules.
-/

namespace VoiceGrammar

namespace Grammar

/-- The characters with a meaning of their own in a document. A dot would turn a name into a
reference to another grammar. -/
def reserved : List Char :=
  ['<', '>', ';', '=', '|', '*', '+', '(', ')', '[', ']', '\x7b', '\x7d', '/', '\x22', '\\', '.']

/-- The names of the rule that says nothing and of the rule that cannot be said. -/
def builtIn : List String := ["NULL", "VOID"]

def isNameChar (c : Char) : Bool :=
  !(Text.isBlank c || Text.isControl c || reserved.contains c)

/-- Whether a text may name a grammar and its rule. -/
def isRuleName (name : String) : Bool :=
  !name.isEmpty && name.toList.all isNameChar && !builtIn.contains name

/-- Refuses a text that may not name a rule. -/
def checkRuleName (name : String) : Except Failure Unit :=
  if isRuleName name then .ok () else .error (.badRuleName name)

def header : String := "#JSGF V1.0;"

/-- The text of a document, its name taken as it is. -/
def text (name : String) (body : Expansion) : String :=
  header ++ "\ngrammar " ++ name ++ ";\npublic <" ++ name ++ "> = " ++ body.body ++ ";\n"

/-- The document that declares one public rule. -/
def document (name : String) (body : Expansion) : Except Failure String :=
  match checkRuleName name with
  | .error failure => .error failure
  | .ok () => .ok (text name body)

end Grammar

end VoiceGrammar
