import VoiceGrammar.Spec.Json.Reader

/-!
# Spellings of a value

One value has many spellings in JSON. Blanks may stand between any two symbols, and a character of
a string may be written as itself, as a short escape where there is one, by its code point, or as a
pair of surrogates. A spelling is given by what it is made of, without reading anything.
-/

namespace VoiceGrammar.Spec.Json

/-- A stretch of blanks, possibly empty. -/
def IsSpace (text : List Char) : Prop := ∀ c ∈ text, isSpace c = true

instance (text : List Char) : Decidable (IsSpace text) :=
  decidable_of_iff (text.all isSpace = true) List.all_eq_true

theorem isSpace_nil : IsSpace [] := List.forall_mem_nil _

/-- Four hexadecimal digits and their value. -/
inductive HexQuad : Nat → List Char → Prop where
  | digits {a b c d : Char} {a' b' c' d' : Nat} :
      hexValue? a = some a' → hexValue? b = some b' → hexValue? c = some c' →
      hexValue? d = some d' → HexQuad (((a' * 16 + b') * 16 + c') * 16 + d') [a, b, c, d]

/-- The spellings of a character within a string. -/
inductive CharSpelling : Char → List Char → Prop where
  /-- A character stands for itself, unless it is a control character, a quote or a backslash. -/
  | itself {c : Char} : ' ' ≤ c → c ≠ '"' → c ≠ '\\' → CharSpelling c [c]
  | short {letter c : Char} : simpleEscape? letter = some c → CharSpelling c ['\\', letter]
  | codePoint {c : Char} {digits : List Char} :
      HexQuad c.toNat digits → CharSpelling c ('\\' :: 'u' :: digits)
  /-- The two halves of a surrogate pair. -/
  | pair {c : Char} {high low : Nat} {digits digits' : List Char} :
      isHighSurrogate high = true → isLowSurrogate low = true →
      c.toNat = 0x10000 + (high - 0xD800) * 0x400 + (low - 0xDC00) →
      HexQuad high digits → HexQuad low digits' →
      CharSpelling c ('\\' :: 'u' :: digits ++ '\\' :: 'u' :: digits')

/-- The spellings of the characters of a string, one after the other. -/
inductive CharsSpelling : List Char → List Char → Prop where
  | nil : CharsSpelling [] []
  | cons {c : Char} {rest spelled spelled' : List Char} :
      CharSpelling c spelled → CharsSpelling rest spelled' →
      CharsSpelling (c :: rest) (spelled ++ spelled')

/-- The spellings of a string, quotes included. -/
def StringSpelling (text : String) (spelled : List Char) : Prop :=
  ∃ inner, CharsSpelling text.toList inner ∧ spelled = '"' :: inner ++ ['"']

mutual

/-- The spellings of a value, blanks before and behind it included. Numbers are left out. -/
inductive ValueSpelling : Value → List Char → Prop where
  | null {before after : List Char} : IsSpace before → IsSpace after →
      ValueSpelling .null (before ++ ['n', 'u', 'l', 'l'] ++ after)
  | true {before after : List Char} : IsSpace before → IsSpace after →
      ValueSpelling (.scalar "true") (before ++ ['t', 'r', 'u', 'e'] ++ after)
  | false {before after : List Char} : IsSpace before → IsSpace after →
      ValueSpelling (.scalar "false") (before ++ ['f', 'a', 'l', 's', 'e'] ++ after)
  | text {content : String} {before spelled after : List Char} :
      IsSpace before → IsSpace after → StringSpelling content spelled →
      ValueSpelling (.text content) (before ++ spelled ++ after)
  | emptyList {before inner after : List Char} :
      IsSpace before → IsSpace inner → IsSpace after →
      ValueSpelling (.list []) (before ++ '[' :: inner ++ ']' :: after)
  | list {items : List Value} {before inner after : List Char} :
      IsSpace before → IsSpace after → ItemsSpelling items inner →
      ValueSpelling (.list items) (before ++ '[' :: inner ++ ']' :: after)
  | emptyMapping {before inner after : List Char} :
      IsSpace before → IsSpace inner → IsSpace after →
      ValueSpelling (.mapping []) (before ++ '\x7b' :: inner ++ '\x7d' :: after)
  | mapping {entries : List (String × Value)} {before inner after : List Char} :
      IsSpace before → IsSpace after → EntriesSpelling entries inner →
      ValueSpelling (.mapping entries) (before ++ '\x7b' :: inner ++ '\x7d' :: after)

/-- The spellings of one or more items with commas between them. -/
inductive ItemsSpelling : List Value → List Char → Prop where
  | last {item : Value} {spelled : List Char} :
      ValueSpelling item spelled → ItemsSpelling [item] spelled
  | cons {item : Value} {items : List Value} {spelled spelled' : List Char} :
      ValueSpelling item spelled → ItemsSpelling items spelled' →
      ItemsSpelling (item :: items) (spelled ++ ',' :: spelled')

/-- The spellings of one or more entries with commas between them. -/
inductive EntriesSpelling : List (String × Value) → List Char → Prop where
  | last {key : String} {value : Value} {before spelled after spelled' : List Char} :
      IsSpace before → IsSpace after → StringSpelling key spelled → ValueSpelling value spelled' →
      EntriesSpelling [(key, value)] (before ++ spelled ++ after ++ ':' :: spelled')
  | cons {key : String} {value : Value} {entries : List (String × Value)}
      {before spelled after spelled' others : List Char} :
      IsSpace before → IsSpace after → StringSpelling key spelled → ValueSpelling value spelled' →
      EntriesSpelling entries others →
      EntriesSpelling ((key, value) :: entries)
        (before ++ spelled ++ after ++ ':' :: spelled' ++ ',' :: others)

end

end VoiceGrammar.Spec.Json

namespace VoiceGrammar.Spec.Value

mutual

def depth : Value → Nat
  | .text _ | .scalar _ | .null => 0
  | .list items => 1 + depthOfItems items
  | .mapping entries => 1 + depthOfEntries entries

def depthOfItems : List Value → Nat
  | [] => 0
  | first :: rest => max (depth first) (depthOfItems rest)

def depthOfEntries : List (String × Value) → Nat
  | [] => 0
  | (_, value) :: rest => max (depth value) (depthOfEntries rest)

end

end VoiceGrammar.Spec.Value
