import VoiceGrammar.Text.Blank
import VoiceGrammar.Text.LetterCase
import VoiceGrammar.Text.Quoted

/-!
# Tokens

A token is a word or a phrase that a rule may say: words of capital letters and digits with one
space between two of them. The type carries its own validity, so whatever is built from tokens
needs no further check. A text that is no token has a flaw, and the flaws are looked for in a
fixed order: a small letter anywhere outweighs every other flaw.
-/

namespace VoiceGrammar

/-- The characters that words are made of. -/
def isWordChar (c : Char) : Bool :=
  Text.isUppercase c || Text.isDigit c

/-- Why a text is no token. -/
inductive TokenFlaw where
  /-- Some character is a small letter. -/
  | lowercase
  /-- There is no text at all. -/
  | empty
  /-- The text starts or ends with a space. -/
  | outerSpace
  /-- Two spaces stand side by side. -/
  | doubleSpace
  /-- The first character that is no capital letter, digit or space. -/
  | foreign (c : Char)
  deriving DecidableEq, Repr

def hasDoubleSpace : List Char → Bool
  | ' ' :: ' ' :: _ => true
  | _ :: rest => hasDoubleSpace rest
  | [] => false

/-- The flaw that keeps a text from being a token, if it has one. -/
def tokenFlaw? (text : List Char) : Option TokenFlaw :=
  if text.any Text.isLowercase then some .lowercase
  else if text.isEmpty then some .empty
  else if text.head? = some ' ' ∨ text.getLast? = some ' ' then some .outerSpace
  else if hasDoubleSpace text then some .doubleSpace
  else (text.find? fun c => !(isWordChar c || c == ' ')).map .foreign

/-- A word, or a phrase of words with one space between two of them. -/
structure Token where
  text : String
  flawless : tokenFlaw? text.toList = none

namespace Token

instance : DecidableEq Token := fun a b =>
  if same : a.text = b.text then
    isTrue (by cases a; cases b; subst same; rfl)
  else
    isFalse fun equal => same (equal ▸ rfl)

/-- The token that a text is, or the flaw that keeps it from being one. -/
def ofText (text : String) : Except TokenFlaw Token :=
  match flawless : tokenFlaw? text.toList with
  | some flaw => .error flaw
  | none => .ok ⟨text, flawless⟩

def words (token : Token) : List String :=
  (token.text.toList.splitOn ' ').map String.ofList

end Token

def TokenFlaw.reason : TokenFlaw → String
  | .lowercase => "contains lowercase characters (tokens must be uppercase)"
  | .empty => "token is empty"
  | .outerSpace => "leading or trailing space"
  | .doubleSpace => "words must be separated by a single space"
  | .foreign c =>
    "character " ++ Text.quotedChar c ++ " is not an uppercase letter, digit or space"

end VoiceGrammar
