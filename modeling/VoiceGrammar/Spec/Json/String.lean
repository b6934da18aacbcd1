import VoiceGrammar.Spec.Json.Stop

/-!
# Strings in JSON text

Between its quotes a string holds characters that stand for themselves and escapes that stand for
one character each. A character outside the basic plane may be escaped as two halves of a surrogate
pair; a half alone stands for nothing. Since an escape takes at least one character, the text left
to read always gets shorter.
-/

namespace VoiceGrammar.Spec.Json

/-- The characters that a single letter after the backslash stands for. -/
def simpleEscape? : Char → Option Char
  | '"' => some '"'
  | '\\' => some '\\'
  | '/' => some '/'
  | 'b' => some '\x08'
  | 'f' => some '\x0c'
  | 'n' => some '\n'
  | 'r' => some '\r'
  | 't' => some '\t'
  | _ => none

def hexValue? (c : Char) : Option Nat :=
  if '0' ≤ c && c ≤ '9' then some (c.toNat - '0'.toNat)
  else if 'a' ≤ c && c ≤ 'f' then some (c.toNat - 'a'.toNat + 10)
  else if 'A' ≤ c && c ≤ 'F' then some (c.toNat - 'A'.toNat + 10)
  else none

/-- Reads four hexadecimal digits. Four bytes are taken before any of them is looked at, so too
short a text is a matter of its end, whatever it holds. -/
def hexQuad (text : List Char) : Reading Nat :=
  if byteLength text < 4 then .error (.before .stringEnd [])
  else
    match text with
    | a :: b :: c :: d :: rest =>
      match hexValue? a, hexValue? b, hexValue? c, hexValue? d with
      | some a, some b, some c, some d => .ok (((a * 16 + b) * 16 + c) * 16 + d, rest)
      | _, _, _, _ => .error ⟨.escape, byteLength text - 4⟩
    | _ => .error ⟨.escape, byteLength text - 4⟩

def isHighSurrogate (n : Nat) : Bool := 0xD800 ≤ n && n ≤ 0xDBFF

def isLowSurrogate (n : Nat) : Bool := 0xDC00 ≤ n && n ≤ 0xDFFF

/-- The character outside the basic plane that a surrogate pair stands for. -/
def pairedChar (high low : Nat) : Char :=
  Char.ofNat (0x10000 + (high - 0xD800) * 0x400 + (low - 0xDC00))

/-- Reads one character that has to be `wanted`. -/
def surrogateLink (wanted : Char) : List Char → Except Stop (List Char)
  | [] => .error (.before .stringEnd [])
  | c :: rest => if c = wanted then .ok rest else .error (.at .surrogateEnd (c :: rest))

/-- Reads the second half of a surrogate pair, which is an escape of its own. -/
def lowSurrogate (text : List Char) : Reading Nat :=
  match surrogateLink '\\' text with
  | .error stop => .error stop
  | .ok rest =>
    match surrogateLink 'u' rest with
    | .error stop => .error stop
    | .ok rest =>
      match hexQuad rest with
      | .error stop => .error stop
      | .ok (low, rest) =>
        if isLowSurrogate low then .ok (low, rest) else .error (.before .loneSurrogate rest)

/-- Reads an escape by code point, the letter `u` already read. -/
def codePoint (text : List Char) : Reading Char :=
  match hexQuad text with
  | .error stop => .error stop
  | .ok (n, rest) =>
    if isLowSurrogate n then .error (.before .loneSurrogate rest)
    else if isHighSurrogate n then
      match lowSurrogate rest with
      | .error stop => .error stop
      | .ok (low, rest) => .ok (pairedChar n low, rest)
    else .ok (Char.ofNat n, rest)

/-- Reads an escape, the backslash already read. -/
def escape : List Char → Reading Char
  | [] => .error (.before .stringEnd [])
  | 'u' :: rest => codePoint rest
  | c :: rest =>
    match simpleEscape? c with
    | some meant => .ok (meant, rest)
    | none => .error (.at .escape (c :: rest))

theorem length_lt_of_hexQuad {text rest : List Char} {n : Nat}
    (h : hexQuad text = .ok (n, rest)) : rest.length < text.length := by
  unfold hexQuad at h
  split at h
  · cases h
  · split at h
    · split at h
      · cases h
        simp only [List.length_cons]
        omega
      · cases h
    · cases h

theorem length_lt_of_surrogateLink {wanted : Char} {text rest : List Char}
    (h : surrogateLink wanted text = .ok rest) : rest.length < text.length := by
  cases text with
  | nil => cases h
  | cons c tail =>
    simp only [surrogateLink] at h
    split at h
    · cases h
      simp
    · cases h

theorem length_lt_of_lowSurrogate {text rest : List Char} {n : Nat}
    (h : lowSurrogate text = .ok (n, rest)) : rest.length < text.length := by
  unfold lowSurrogate at h
  split at h
  · cases h
  · rename_i afterSlash slash
    split at h
    · cases h
    · rename_i afterLetter letter
      split at h
      · cases h
      · rename_i quad
        split at h
        · cases h
          have := length_lt_of_surrogateLink slash
          have := length_lt_of_surrogateLink letter
          have := length_lt_of_hexQuad quad
          omega
        · cases h

theorem length_lt_of_codePoint {text rest : List Char} {c : Char}
    (h : codePoint text = .ok (c, rest)) : rest.length < text.length := by
  unfold codePoint at h
  split at h
  · cases h
  · rename_i quad
    have shorter := length_lt_of_hexQuad quad
    split at h
    · cases h
    · split at h
      · split at h
        · cases h
        · rename_i low
          simp only [Except.ok.injEq, Prod.mk.injEq] at h
          have := length_lt_of_lowSurrogate low
          rw [← h.2]
          omega
      · cases h
        exact shorter

theorem length_lt_of_escape {text rest : List Char} {c : Char}
    (h : escape text = .ok (c, rest)) : rest.length < text.length := by
  unfold escape at h
  split at h
  · cases h
  · have := length_lt_of_codePoint h
    simp only [List.length_cons]
    omega
  · split at h
    · cases h
      simp
    · cases h

/-- Reads a string up to its closing quote, the opening one already read; `done` holds the
characters read so far, the last one first. -/
def stringFrom (done : List Char) : List Char → Reading String
  | [] => .error (.before .stringEnd [])
  | '"' :: rest => .ok (String.ofList done.reverse, rest)
  | '\\' :: rest =>
    match _ : escape rest with
    | .error stop => .error stop
    | .ok (c, rest') => stringFrom (c :: done) rest'
  | c :: rest =>
    if c < ' ' then .error (.before .controlCharacter rest)
    else stringFrom (c :: done) rest
termination_by text => text.length
decreasing_by
  · have := length_lt_of_escape ‹escape rest = .ok (c, rest')›
    simp only [List.length_cons]
    omega
  · simp

/-- Reads a string, the opening quote already read. -/
def string (text : List Char) : Reading String :=
  stringFrom [] text

end VoiceGrammar.Spec.Json
