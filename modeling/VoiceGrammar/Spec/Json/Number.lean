import VoiceGrammar.Decimal.Shortest
import VoiceGrammar.Spec.Json.Stop
import VoiceGrammar.Text.LetterCase

/-!
# Numbers in JSON text

A number is read for nothing but the text it is shown with. Integers that fit a 64-bit word are
shown digit by digit. Every other number becomes a double and is shown by its shortest decimal:
its digits are collected in a 64-bit coefficient, and once a further digit would not fit, that
digit only shifts the power of ten. The coefficient is then multiplied or divided by a power of
ten, which rounds a second time.
-/

namespace VoiceGrammar.Spec.Json

/-- The largest coefficient that is collected digit by digit. -/
def maxCoefficient : Nat := Nat.pow 2 64 - 1

/-- The largest exponent that is collected digit by digit. -/
def maxExponent : Nat := Nat.pow 2 31 - 1

def digitValue (c : Char) : Nat := c.toNat - '0'.toNat

/-- Takes in a digit before the point. Once one digit did not fit, none of those after it does. -/
def takeWhole (read : Decimal.Scaled) (c : Char) : Decimal.Scaled :=
  let grown := read.coefficient * 10 + digitValue c
  if read.exponent ≠ 0 ∨ grown > maxCoefficient then { read with exponent := read.exponent + 1 }
  else { read with coefficient := grown }

/-- Takes in a digit after the point; the flag says that an earlier digit did not fit. -/
def takeFraction : Decimal.Scaled × Bool → Char → Decimal.Scaled × Bool
  | (read, full), c =>
    let grown := read.coefficient * 10 + digitValue c
    if full || grown > maxCoefficient then (read, true)
    else (⟨grown, read.exponent - 1⟩, false)

/-- Divides by `10 ^ places`, in steps that a double can express. -/
def divideByPower (x : Float) (places : Nat) : Float :=
  if places ≤ 308 then x / Float.ofScientific 1 false places
  else if x == 0 then x
  else divideByPower (x / Float.ofScientific 1 false 308) (places - 308)
termination_by places

/-- The double nearest to the collected coefficient, scaled by its power of ten; nothing when that
is too large for a double. -/
def scaledFloat? (read : Decimal.Scaled) : Option Float :=
  let x := Float.ofNat read.coefficient
  if read.exponent < 0 then some (divideByPower x read.exponent.natAbs)
  else if read.coefficient = 0 then some x
  else if read.exponent.natAbs > 308 then none
  else
    let product := x * Float.ofScientific 1 false read.exponent.natAbs
    if product.isInf then none else some product

def signText (positive : Bool) : String := if positive then "" else "-"

/-- Shows a number that needs a double. -/
def showScaled (positive : Bool) (read : Decimal.Scaled) (rest : List Char) : Reading String :=
  match scaledFloat? read with
  | some x => .ok (signText positive ++ Decimal.ofFloat x, rest)
  | none => .error (.before .numberRange rest)

/-- Shows a number without point and exponent. -/
def showWhole (positive : Bool) (read : Decimal.Scaled) (rest : List Char) : Reading String :=
  if read.exponent ≠ 0 then showScaled positive read rest
  else if positive || (0 < read.coefficient && read.coefficient ≤ Nat.pow 2 63) then
    .ok (signText positive ++ toString read.coefficient, rest)
  else showScaled positive read rest

/-- Collects the digits of an exponent. A digit that does not fit ends the collection: the result
is then `none`, with the text after that digit. -/
def exponentDigits (exponent : Nat) : List Char → Option Nat × List Char
  | [] => (some exponent, [])
  | c :: rest =>
    if !Text.isDigit c then (some exponent, c :: rest)
    else
      let grown := exponent * 10 + digitValue c
      if grown > maxExponent then (none, rest) else exponentDigits grown rest

/-- The sign of an exponent, which may be left out. -/
def exponentSign : List Char → Bool × List Char
  | '+' :: rest => (true, rest)
  | '-' :: rest => (false, rest)
  | rest => (true, rest)

/-- Reads an exponent, the letter before it already read. -/
def exponent (positive : Bool) (read : Decimal.Scaled) (text : List Char) : Reading String :=
  let (up, digits) := exponentSign text
  match digits with
  | [] => .error (.before .valueEnd [])
  | c :: _ =>
    if !Text.isDigit c then .error (.at .number digits)
    else
      match exponentDigits 0 digits with
      | (some shift, rest) =>
        let moved := if up then read.exponent + shift else read.exponent - shift
        showScaled positive { read with exponent := moved } rest
      | (none, rest) =>
        if read.coefficient ≠ 0 && up then .error (.before .numberRange rest)
        else .ok (signText positive ++ "0", rest.dropWhile Text.isDigit)

def exponentMark : List Char → Bool
  | c :: _ => c == 'e' || c == 'E'
  | [] => false

/-- Reads the digits after a point, the point already read. -/
def fraction (positive : Bool) (read : Decimal.Scaled) (text : List Char) : Reading String :=
  let digits := text.takeWhile Text.isDigit
  let rest := text.dropWhile Text.isDigit
  if digits.isEmpty then
    .error (.at (if rest.isEmpty then .valueEnd else .number) rest)
  else
    let read := (digits.foldl takeFraction (read, false)).1
    if exponentMark rest then exponent positive read rest.tail
    else showScaled positive read rest

/-- Reads a number, its sign already read. -/
def number (positive : Bool) (text : List Char) : Reading String :=
  let digits := text.takeWhile Text.isDigit
  let rest := text.dropWhile Text.isDigit
  match digits with
  | [] =>
    .error (if text.isEmpty then .before .valueEnd [] else .at .number text)
  | '0' :: _ :: _ => .error (.at .number text.tail)
  | _ =>
    let read := digits.foldl takeWhole ⟨0, 0⟩
    if rest.head? = some '.' then fraction positive read rest.tail
    else if exponentMark rest then exponent positive read rest.tail
    else showWhole positive read rest

end VoiceGrammar.Spec.Json
