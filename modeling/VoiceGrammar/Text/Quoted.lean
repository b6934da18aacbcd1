import VoiceGrammar.Text.Printable

/-!
# Quoted text

Messages show a text between double quotes and a single character between single quotes. The
quote in use, the backslash and a handful of control characters get a short escape; every other
character that would not print on its own is shown by its code point in hexadecimal.
-/

namespace VoiceGrammar.Text

/-- The escape that shows a character by its code point: small hexadecimal digits, no leading
zeros, in braces. -/
def codePointEscape (c : Char) : List Char :=
  '\\' :: 'u' :: '\x7b' :: (Nat.toDigits 16 c.toNat ++ ['\x7d'])

/-- How a character is shown between two `mark`s. -/
def showChar (mark c : Char) : List Char :=
  if c = '\x00' then ['\\', '0']
  else if c = '\t' then ['\\', 't']
  else if c = '\r' then ['\\', 'r']
  else if c = '\n' then ['\\', 'n']
  else if c = '\\' then ['\\', '\\']
  else if c = mark then ['\\', c]
  else if isPlain c then [c]
  else codePointEscape c

/-- A text between double quotes. -/
def quoted (text : String) : String :=
  String.ofList ('"' :: (text.toList.flatMap (showChar '"') ++ ['"']))

/-- A character between single quotes. -/
def quotedChar (c : Char) : String :=
  String.ofList ('\x27' :: (showChar '\x27' c ++ ['\x27']))

end VoiceGrammar.Text
