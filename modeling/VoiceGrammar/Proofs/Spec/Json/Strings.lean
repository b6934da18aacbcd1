import VoiceGrammar.Spec.Json.Spelling

/-!
# Strings are read as they are spelled

Whatever spelling is chosen for each character of a string, reading gives the characters back. No
code point of a character is a surrogate, so a single escape is never taken for half of a pair, and
a pair stands for the one character that it was made for.
-/

namespace VoiceGrammar.Spec.Json

/-! ## Escapes -/

theorem hexQuad_append {n : Nat} {digits : List Char} (quad : HexQuad n digits)
    (rest : List Char) : hexQuad (digits ++ rest) = .ok (n, rest) := by
  cases quad with
  | @digits a b c d a' b' c' d' isA isB isC isD =>
    change hexQuad (a :: b :: c :: d :: rest) = _
    have enough : ¬ byteLength (a :: b :: c :: d :: rest) < 4 := by
      have := a.utf8Size_pos
      have := b.utf8Size_pos
      have := c.utf8Size_pos
      have := d.utf8Size_pos
      simp only [byteLength, List.foldr_cons]
      omega
    rw [hexQuad, if_neg enough]
    simp only [isA, isB, isC, isD]

theorem not_surrogate (c : Char) :
    isHighSurrogate c.toNat = false ∧ isLowSurrogate c.toNat = false := by
  have valid : c.toNat < 0xD800 ∨ 0xDFFF < c.toNat ∧ c.toNat < 0x110000 := c.valid
  simp only [isHighSurrogate, isLowSurrogate, Bool.and_eq_false_iff, decide_eq_false_iff_not]
  omega

theorem lowSurrogate_append {low : Nat} {digits : List Char} (isLow : isLowSurrogate low = true)
    (quad : HexQuad low digits) (rest : List Char) :
    lowSurrogate ('\\' :: 'u' :: (digits ++ rest)) = .ok (low, rest) := by
  simp only [lowSurrogate, surrogateLink, if_true, hexQuad_append quad, isLow]

/-- A spelling that begins with a backslash is an escape of its character. -/
theorem escape_append {c : Char} {escaped : List Char}
    (spelling : CharSpelling c ('\\' :: escaped)) (rest : List Char) :
    escape (escaped ++ rest) = .ok (c, rest) := by
  cases spelling with
  | itself _ _ notBackslash => exact absurd rfl notBackslash
  | @short letter _ isShort =>
    have notCodePoint : letter ≠ 'u' := by
      rintro rfl
      cases isShort
    change escape (letter :: rest) = _
    rw [escape]
    · simp only [isShort]
    · exact notCodePoint
  | codePoint quad =>
    obtain ⟨notHigh, notLow⟩ := not_surrogate c
    rw [List.cons_append, escape, codePoint, hexQuad_append quad]
    simp only [notHigh, notLow, Bool.false_eq_true, if_false, Char.ofNat_toNat]
  | @pair _ high low digits digits' isHigh isLow isPair quad quad' =>
    have notLow : isLowSurrogate high = false := by
      simp only [isHighSurrogate, isLowSurrogate, Bool.and_eq_true, decide_eq_true_eq,
        Bool.and_eq_false_iff, decide_eq_false_iff_not] at isHigh ⊢
      omega
    change escape ('u' :: (digits ++ '\\' :: 'u' :: digits' ++ rest)) = _
    rw [escape, List.append_assoc, codePoint, hexQuad_append quad]
    simp only [List.cons_append, notLow, isHigh, lowSurrogate_append isLow quad', if_true,
      Bool.false_eq_true, if_false]
    rw [pairedChar, ← isPair, Char.ofNat_toNat]

/-! ## Strings -/

theorem stringFrom_escape {c : Char} {text rest : List Char}
    (escaped : escape text = .ok (c, rest)) (done : List Char) :
    stringFrom done ('\\' :: text) = stringFrom (c :: done) rest := by
  rw [stringFrom]
  split
  · next stop stopped =>
    rw [escaped] at stopped
    cases stopped
  · next c' rest' read =>
    rw [escaped] at read
    cases read
    rfl

/-- A character of a string is read, however it is spelled. -/
theorem stringFrom_append {c : Char} {spelled : List Char} (spelling : CharSpelling c spelled)
    (done rest : List Char) : stringFrom done (spelled ++ rest) = stringFrom (c :: done) rest := by
  cases spelling with
  | itself visible notQuote notBackslash =>
    rw [List.singleton_append, stringFrom, if_neg (Char.not_lt.2 visible)]
    · exact notQuote
    · exact notBackslash
  | short isShort => exact stringFrom_escape (escape_append (.short isShort) rest) done
  | codePoint quad => exact stringFrom_escape (escape_append (.codePoint quad) rest) done
  | pair isHigh isLow isPair quad quad' =>
    exact stringFrom_escape (escape_append (.pair isHigh isLow isPair quad quad') rest) done

theorem stringFrom_chars {content spelled : List Char} (spelling : CharsSpelling content spelled)
    (done rest : List Char) :
    stringFrom done (spelled ++ '"' :: rest) =
      .ok (String.ofList (done.reverse ++ content), rest) := by
  induction spelling generalizing done with
  | nil =>
    rw [List.nil_append, stringFrom, List.append_nil]
  | cons first _ inRest =>
    rw [List.append_assoc, stringFrom_append first, inRest, List.reverse_cons, List.append_assoc,
      List.singleton_append]

/-- A string is read up to its closing quote. -/
theorem string_append {content : String} {spelled : List Char}
    (spelling : CharsSpelling content.toList spelled) (rest : List Char) :
    string (spelled ++ '"' :: rest) = .ok (content, rest) := by
  rw [string, stringFrom_chars spelling, List.reverse_nil, List.nil_append, String.ofList_toList]

end VoiceGrammar.Spec.Json
