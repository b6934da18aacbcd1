/-!
# Where reading stops

Reading consumes a text from the front. When it cannot go on it says why, and how many bytes were
left unread; together with the whole text that count is a line and a column. A fault is charged
either to the place reached so far or to the first byte still unread, which then counts as read.
-/

namespace VoiceGrammar.Spec.Json

/-- Why a text is not JSON. -/
inductive Flaw where
  /-- The text ends where a value should stand, or inside one. -/
  | valueEnd
  | listEnd
  | mappingEnd
  | stringEnd
  /-- A letter of `null`, `true` or `false` is wrong. -/
  | name
  /-- No value starts with this character. -/
  | value
  | listSeparator
  | mappingSeparator
  | colon
  | key
  | trailingComma
  | trailingCharacters
  | controlCharacter
  | escape
  /-- Half of a surrogate pair without its other half. -/
  | loneSurrogate
  /-- The first half of a surrogate pair is not followed by an escape. -/
  | surrogateEnd
  | number
  | numberRange
  | depth
  deriving DecidableEq, Repr

def Flaw.text : Flaw → String
  | .valueEnd => "EOF while parsing a value"
  | .listEnd => "EOF while parsing a list"
  | .mappingEnd => "EOF while parsing an object"
  | .stringEnd => "EOF while parsing a string"
  | .name => "expected ident"
  | .value => "expected value"
  | .listSeparator => "expected `,` or `]`"
  | .mappingSeparator => "expected `,` or `\x7d`"
  | .colon => "expected `:`"
  | .key => "key must be a string"
  | .trailingComma => "trailing comma"
  | .trailingCharacters => "trailing characters"
  | .controlCharacter => "control character (\\u0000-\\u001F) found while parsing a string"
  | .escape => "invalid escape"
  | .loneSurrogate => "lone leading surrogate in hex escape"
  | .surrogateEnd => "unexpected end of hex escape"
  | .number => "invalid number"
  | .numberRange => "number out of range"
  | .depth => "recursion limit exceeded"

/-- Why reading stopped, with the number of bytes left unread. -/
structure Stop where
  flaw : Flaw
  left : Nat
  deriving DecidableEq, Repr

def byteLength (text : List Char) : Nat :=
  text.foldr (fun c bytes => c.utf8Size + bytes) 0

/-- A stop after everything before `rest` was read. -/
def Stop.before (flaw : Flaw) (rest : List Char) : Stop :=
  ⟨flaw, byteLength rest⟩

/-- A stop at the first byte of `rest`, which counts as read. -/
def Stop.at (flaw : Flaw) (rest : List Char) : Stop :=
  ⟨flaw, byteLength rest - 1⟩

/-- What a reading step gives: a result and the text still unread, or the reason it stopped. -/
abbrev Reading (α : Type) := Except Stop (α × List Char)

/-- The line and column reached when `bytes` more bytes of the text are read, starting from a
given line and column. Columns count bytes from the start of the line. -/
def locate (line column bytes : Nat) : List Char → Nat × Nat
  | [] => (line, column)
  | c :: rest =>
    if bytes = 0 then (line, column)
    else if c = '\n' then locate (line + 1) 0 (bytes - 1) rest
    else if bytes < c.utf8Size then (line, column + bytes)
    else locate line (column + c.utf8Size) (bytes - c.utf8Size) rest

end VoiceGrammar.Spec.Json
