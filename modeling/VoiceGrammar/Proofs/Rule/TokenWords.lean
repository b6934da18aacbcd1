import VoiceGrammar.Proofs.Text.Pieces
import VoiceGrammar.Rule.Token

/-!
# The words of a token

A token is put together from words with one space between two of them, and every one of its words
is a token again. The checks on spaces are what keeps the words from being empty.
-/

namespace VoiceGrammar

/-! ## Flawless texts -/

theorem ite_some_eq_none_iff {α : Type} {p : Prop} [Decidable p] {x : α} {y : Option α} :
    (if p then some x else y) = none ↔ ¬ p ∧ y = none := by
  split <;> simp [*]

/-- The checks on a token, all at once. -/
theorem tokenFlaw?_eq_none_iff {text : List Char} :
    tokenFlaw? text = none ↔
      (∀ c ∈ text, Text.isLowercase c = false) ∧ text ≠ [] ∧
        (text.head? ≠ some ' ' ∧ text.getLast? ≠ some ' ') ∧ hasDoubleSpace text = false ∧
        ∀ c ∈ text, isWordChar c = false → c = ' ' := by
  rw [tokenFlaw?, ite_some_eq_none_iff, ite_some_eq_none_iff, ite_some_eq_none_iff,
    ite_some_eq_none_iff]
  simp

/-! ## Words -/

/-- A run of characters that may be a word of a token. -/
structure IsWord (word : List Char) : Prop where
  nonempty : word ≠ []
  wordChars : ∀ c ∈ word, isWordChar c = true
  notLower : ∀ c ∈ word, Text.isLowercase c = false

theorem IsWord.space_not_mem {word : List Char} (isWord : IsWord word) : ' ' ∉ word := by
  intro member
  have := isWord.wordChars ' ' member
  exact absurd this (by decide)

theorem hasDoubleSpace_cons_of_ne {c : Char} (rest : List Char) (notSpace : c ≠ ' ') :
    hasDoubleSpace (c :: rest) = hasDoubleSpace rest := by
  rw [hasDoubleSpace]
  intro _ isSpace
  exact absurd isSpace notSpace

theorem hasDoubleSpace_of_space_not_mem {text : List Char} (noSpace : ' ' ∉ text) :
    hasDoubleSpace text = false := by
  induction text with
  | nil => rfl
  | cons c rest inRest =>
    rw [List.mem_cons, not_or] at noSpace
    rw [hasDoubleSpace_cons_of_ne rest (Ne.symm noSpace.1), inRest noSpace.2]

/-- A word by itself is a token. -/
theorem tokenFlaw?_of_isWord {word : List Char} (isWord : IsWord word) :
    tokenFlaw? word = none := by
  have noSpace := isWord.space_not_mem
  refine tokenFlaw?_eq_none_iff.2 ⟨isWord.notLower, isWord.nonempty, ⟨?_, ?_⟩,
    hasDoubleSpace_of_space_not_mem noSpace, ?_⟩
  · exact fun first => noSpace (List.mem_of_head? first)
  · exact fun last => noSpace (List.mem_of_getLast? last)
  · intro c member foreign
    rw [isWord.wordChars c member] at foreign
    cases foreign

/-! ## Cutting a text at its spaces -/

/-- With neither a space at an end nor two in a row, all pieces between spaces hold something. -/
theorem ne_nil_of_mem_splitOn : ∀ {c : Char} {rest piece : List Char}, c ≠ ' ' →
    (c :: rest).getLast? ≠ some ' ' → hasDoubleSpace (c :: rest) = false →
    piece ∈ (c :: rest).splitOn ' ' → piece ≠ []
  | c, [], piece, notSpace, _, _, isPiece => by
    rcases Text.mem_splitOn_cons_of_ne notSpace isPiece with ⟨first, rfl⟩ | later
    · exact List.cons_ne_nil c first
    · cases later
  | c, d :: rest, piece, notSpace, last, single, isPiece => by
    rw [List.getLast?_cons_cons] at last
    rw [hasDoubleSpace_cons_of_ne _ notSpace] at single
    rcases Text.mem_splitOn_cons_of_ne notSpace isPiece with ⟨first, rfl⟩ | later
    · exact List.cons_ne_nil c first
    · by_cases isSpace : d = ' '
      · subst isSpace
        rw [Text.splitOn_cons_mark, List.tail_cons] at later
        -- The first piece ends here, and the next one starts with a character that is no space.
        cases rest with
        | nil => simp at last
        | cons e rest =>
          have notSpace' : e ≠ ' ' := by
            rintro rfl
            simp [hasDoubleSpace] at single
          rw [List.getLast?_cons_cons] at last
          refine ne_nil_of_mem_splitOn notSpace' last ?_ later
          rw [hasDoubleSpace] at single
          · exact single
          · intro tail _ both
            exact notSpace' (List.cons.inj both).1
      · exact ne_nil_of_mem_splitOn isSpace last single (List.mem_of_mem_tail later)

/-- The pieces of a token between its spaces are words. -/
theorem isWord_of_mem_splitOn {text piece : List Char} (flawless : tokenFlaw? text = none)
    (isPiece : piece ∈ text.splitOn ' ') : IsWord piece := by
  obtain ⟨notLower, nonempty, ⟨notFirst, notLast⟩, single, allowed⟩ :=
    tokenFlaw?_eq_none_iff.1 flawless
  constructor
  case nonempty =>
    cases text with
    | nil => exact absurd rfl nonempty
    | cons c rest =>
      have notSpace : c ≠ ' ' := by
        rintro rfl
        exact notFirst rfl
      exact ne_nil_of_mem_splitOn notSpace notLast single isPiece
  case wordChars =>
    intro c member
    obtain ⟨inText, notSpace⟩ := Text.of_mem_splitOn isPiece member
    -- The only other character of a token is the space, and at spaces it was cut.
    cases known : isWordChar c with
    | true => rfl
    | false => exact absurd (allowed c inText known) notSpace
  case notLower =>
    intro c member
    exact notLower c (Text.of_mem_splitOn isPiece member).1

namespace Token

theorem ofText_text (token : Token) : Token.ofText token.text = .ok token := by
  obtain ⟨text, flawless⟩ := token
  rw [ofText]
  split
  · next flaw flawed => rw [flawless] at flawed; cases flawed
  · rfl

theorem text_of_ofText {text : String} {token : Token} (isToken : Token.ofText text = .ok token) :
    token.text = text := by
  rw [ofText] at isToken
  split at isToken
  · cases isToken
  · cases isToken
    rfl

theorem ofText_eq_error_iff {text : String} {flaw : TokenFlaw} :
    Token.ofText text = .error flaw ↔ tokenFlaw? text.toList = some flaw := by
  rw [ofText]
  split
  · next flaw' isFlaw => rw [isFlaw, Except.error.injEq, Option.some.injEq]
  · next flawless => simp [flawless]

/-- The words of a token, each of them as a token. -/
def wordTokens (token : Token) : List Token :=
  (token.text.toList.splitOn ' ').pmap
    (fun piece isWord => ⟨String.ofList piece, by
      rw [String.toList_ofList]; exact tokenFlaw?_of_isWord isWord⟩)
    fun _ isPiece => isWord_of_mem_splitOn token.flawless isPiece

theorem map_text_wordTokens (token : Token) : token.wordTokens.map Token.text = token.words := by
  rw [wordTokens, List.map_pmap, List.pmap_eq_map, words]

/-- What the words of a token are made of. -/
theorem isWord_of_mem_wordTokens {token word : Token} (member : word ∈ token.wordTokens) :
    IsWord word.text.toList := by
  obtain ⟨piece, isPiece, rfl⟩ := List.mem_pmap.1 member
  rw [String.toList_ofList]
  exact isWord_of_mem_splitOn token.flawless isPiece

/-- A token that is a word is its only word. -/
theorem words_of_isWord {token : Token} (isWord : IsWord token.text.toList) :
    token.words = [token.text] := by
  rw [words, List.splitOn_eq_singleton isWord.space_not_mem, List.map_singleton,
    String.ofList_toList]

end Token

end VoiceGrammar
