import VoiceGrammar.Spec.Json.Number
import VoiceGrammar.Spec.Json.String
import VoiceGrammar.Spec.Value

/-!
# Reading a specification

A specification is one JSON value with blanks around it. Lists and mappings may nest only so deep,
and that depth is what the reader recurses on; the number of items in a list or mapping is bounded
by the length of the text, which serves as the bound of the loops over them.
-/

namespace VoiceGrammar.Spec

namespace Json

/-- How deep lists and mappings may nest. -/
def maxDepth : Nat := 127

def isSpace (c : Char) : Bool :=
  c == ' ' || c == '\n' || c == '\t' || c == '\r'

/-- The text after the blanks that it starts with. -/
def skipSpace (text : List Char) : List Char :=
  text.dropWhile isSpace

/-- Reads the remaining letters of a name such as `null`. -/
def nameRest (shown : Value) : List Char → List Char → Reading Value
  | [], text => .ok (shown, text)
  | _ :: _, [] => .error (.before .valueEnd [])
  | wanted :: letters, c :: text =>
    if c = wanted then nameRest shown letters text else .error (.at .name (c :: text))

/-- Reads the items of a list up to its closing bracket. `done` holds the items read so far, the
last one first; `bound` is larger than the number of items still to come. -/
def items (read : List Char → Reading Value) :
    (bound : Nat) → (done : List Value) → List Char → Reading Value
  | 0, _, text => .error (.at .listEnd text)
  | bound + 1, done, text =>
    match skipSpace text with
    | [] => .error (.at .listEnd [])
    | ']' :: rest => .ok (.list done.reverse, rest)
    | c :: rest =>
      if done.isEmpty then
        match read (c :: rest) with
        | .error stop => .error stop
        | .ok (item, rest) => items read bound (item :: done) rest
      else if c = ',' then
        match skipSpace rest with
        | [] => .error (.at .valueEnd [])
        | ']' :: rest => .error (.at .trailingComma (']' :: rest))
        | rest =>
          match read rest with
          | .error stop => .error stop
          | .ok (item, rest) => items read bound (item :: done) rest
      else .error (.at .listSeparator (c :: rest))

/-- Reads an entry of a mapping: a key, a colon and a value. -/
def entry (read : List Char → Reading Value) : List Char → Reading (String × Value)
  | '"' :: text =>
    match string text with
    | .error stop => .error stop
    | .ok (key, text) =>
      match skipSpace text with
      | [] => .error (.at .mappingEnd [])
      | ':' :: text =>
        match read text with
        | .error stop => .error stop
        | .ok (value, text) => .ok ((key, value), text)
      | text => .error (.at .colon text)
  | text => .error (.at .key text)

/-- Reads the entries of a mapping up to its closing brace, as `items` does for a list. -/
def entries (read : List Char → Reading Value) :
    (bound : Nat) → (done : List (String × Value)) → List Char → Reading Value
  | 0, _, text => .error (.at .mappingEnd text)
  | bound + 1, done, text =>
    match skipSpace text with
    | [] => .error (.at .mappingEnd [])
    | '\x7d' :: rest => .ok (.mapping done.reverse, rest)
    | c :: rest =>
      if done.isEmpty then
        match entry read (c :: rest) with
        | .error stop => .error stop
        | .ok (found, rest) => entries read bound (found :: done) rest
      else if c = ',' then
        match skipSpace rest with
        | [] => .error (.at .valueEnd [])
        | '\x7d' :: rest => .error (.at .trailingComma ('\x7d' :: rest))
        | rest =>
          match entry read rest with
          | .error stop => .error stop
          | .ok (found, rest) => entries read bound (found :: done) rest
      else .error (.at .mappingSeparator (c :: rest))

/-- Reads a value, with lists and mappings in it at most `depth` deep. -/
def value (bound : Nat) (depth : Nat) (text : List Char) : Reading Value :=
  match skipSpace text with
  | [] => .error (.at .valueEnd [])
  | 'n' :: rest => nameRest .null ['u', 'l', 'l'] rest
  | 't' :: rest => nameRest (.scalar "true") ['r', 'u', 'e'] rest
  | 'f' :: rest => nameRest (.scalar "false") ['a', 'l', 's', 'e'] rest
  | '"' :: rest => (string rest).map fun (content, rest) => (.text content, rest)
  | '-' :: rest => (number false rest).map fun (shown, rest) => (.scalar shown, rest)
  | '[' :: rest =>
    match depth with
    | 0 => .error (.at .depth ('[' :: rest))
    | depth + 1 => items (value bound depth) bound [] rest
  | '\x7b' :: rest =>
    match depth with
    | 0 => .error (.at .depth ('\x7b' :: rest))
    | depth + 1 => entries (value bound depth) bound [] rest
  | c :: rest =>
    if Text.isDigit c then
      (number true (c :: rest)).map fun (shown, rest) => (.scalar shown, rest)
    else .error (.at .value (c :: rest))

def document (text : List Char) : Except Stop Value :=
  match value (text.length + 1) maxDepth text with
  | .error stop => .error stop
  | .ok (found, rest) =>
    match skipSpace rest with
    | [] => .ok found
    | rest => .error (.at .trailingCharacters rest)

/-- A flaw with the line and the column where it shows. -/
structure Fault where
  flaw : Flaw
  line : Nat
  column : Nat
  deriving DecidableEq, Repr

def Fault.text (fault : Fault) : String :=
  fault.flaw.text ++ " at line " ++ toString fault.line ++ " column " ++ toString fault.column

def Stop.fault (stop : Stop) (text : List Char) : Fault :=
  let (line, column) := locate 1 0 (byteLength text - stop.left) text
  ⟨stop.flaw, line, column⟩

end Json

def Value.ofJson (text : String) : Except Json.Fault Value :=
  match Json.document text.toList with
  | .error stop => .error (stop.fault text.toList)
  | .ok value => .ok value

end VoiceGrammar.Spec
