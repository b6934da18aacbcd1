import VoiceGrammar.Expansion.BodyReading
import VoiceGrammar.Proofs.Rule.TokenWords

/-!
# The symbols of a rule body

How the text of an expansion falls into symbols, one operator of the expansion at a time. A text is
cut at its blanks, so the cut goes through every separator that is written with one; what is
between two blanks is a bracket, a bar or a word, and no word of a token can be taken for one of
the others.
-/

namespace VoiceGrammar

namespace Body

/-! ## Blanks -/

/-- A blank separates the symbols before it from those behind it. -/
theorem symbols_append_blank (before after : String) :
    symbols (before ++ " " ++ after) = symbols before ++ symbols after := by
  have cut : (before ++ " " ++ after).toList = before.toList ++ ' ' :: after.toList := by
    simp
  rw [symbols, cut, List.splitOn_append_cons_self, List.filter_append, List.map_append]
  rfl

theorem symbols_empty : symbols "" = [] := by
  decide

theorem append_bar_eq (before after : String) :
    before ++ " | " ++ after = before ++ " " ++ ("|" ++ " " ++ after) := by
  simp [← String.toList_inj]

theorem symbols_append_bar (before after : String) :
    symbols (before ++ " | " ++ after) = symbols before ++ .bar :: symbols after := by
  have bar : symbols "|" = [.bar] := by decide
  rw [append_bar_eq, symbols_append_blank, symbols_append_blank, bar, List.singleton_append]

/-! ## Brackets -/

/-- The closing bracket with its mark. -/
def Mark.closing : Mark → String
  | .once => ")"
  | .oneOrMore => ")+"
  | .zeroOrMore => ")*"

theorem symbols_closing (mark : Mark) : symbols mark.closing = [.closeRound mark] := by
  cases mark <;> decide

theorem open_round_eq (inner : String) : "( " ++ inner = "(" ++ " " ++ inner := by
  simp

theorem symbols_round (inner : String) (mark : Mark) :
    symbols ("( " ++ inner ++ " " ++ mark.closing) =
      .openRound :: (symbols inner ++ [.closeRound mark]) := by
  have bracket : symbols "(" = [.openRound] := by decide
  rw [symbols_append_blank, open_round_eq, symbols_append_blank, symbols_closing, bracket]
  rfl

theorem square_eq (inner : String) :
    "[ " ++ inner ++ " ]" = "[" ++ " " ++ inner ++ " " ++ "]" := by
  simp [← String.toList_inj]

theorem symbols_square (inner : String) :
    symbols ("[ " ++ inner ++ " ]") = .openSquare :: (symbols inner ++ [.closeSquare]) := by
  have opening : symbols "[" = [.openSquare] := by decide
  have closing : symbols "]" = [.closeSquare] := by decide
  rw [square_eq, symbols_append_blank, symbols_append_blank, opening, closing]
  rfl

/-! ## Words -/

/-- A text that starts with a word character is a word and no bracket or bar. -/
theorem ofText_of_isWord {text : String} (isWord : IsWord text.toList) :
    Symbol.ofText text = .word text := by
  have noSymbol : ∀ first rest, text.toList = first :: rest → isWordChar first = true := by
    intro first rest shape
    exact isWord.wordChars first (shape ▸ List.mem_cons_self)
  rw [Symbol.ofText]
  -- What is left is that the text is none of the seven that are read as a symbol.
  all_goals
    rintro rfl
    exact absurd (noSymbol _ _ rfl) (by decide)

/-- The symbols of a token are its words. -/
theorem symbols_token (token : Token) : symbols token.text = token.words.map .word := by
  have inPieces : ∀ piece ∈ token.text.toList.splitOn ' ', IsWord piece :=
    fun _ isPiece => isWord_of_mem_splitOn token.flawless isPiece
  -- No two spaces of a token stand side by side, so no empty piece is dropped.
  have nonempty : (token.text.toList.splitOn ' ').filter (!·.isEmpty) =
      token.text.toList.splitOn ' ' := by
    rw [List.filter_eq_self]
    intro piece isPiece
    simpa using (inPieces piece isPiece).nonempty
  rw [symbols, nonempty, Token.words, List.map_map]
  apply List.map_congr_left
  intro piece isPiece
  apply ofText_of_isWord
  rw [String.toList_ofList]
  exact inPieces piece isPiece

end Body

namespace Expansion

open Body

/-! ## Operators -/

/-- The text of an expansion where brackets stand around it anyway. -/
def inside : Expansion → String
  | .alternatives items => bodies " | " items
  | expansion => body expansion

theorem body_alternatives (items : List Expansion) :
    body (.alternatives items) =
      "( " ++ inside (.alternatives items) ++ " " ++ Mark.once.closing := by
  simp [body, inside, Mark.closing, String.append_assoc]

theorem body_optional (expansion : Expansion) :
    body (.optional expansion) = "[ " ++ inside expansion ++ " ]" := by
  cases expansion <;> rfl

theorem body_oneOrMore (expansion : Expansion) :
    body (.oneOrMore expansion) =
      "( " ++ inside expansion ++ " " ++ Mark.oneOrMore.closing := by
  cases expansion <;> simp [body, inside, Mark.closing, String.append_assoc]

theorem body_zeroOrMore (expansion : Expansion) :
    body (.zeroOrMore expansion) =
      "( " ++ inside expansion ++ " " ++ Mark.zeroOrMore.closing := by
  cases expansion <;> simp [body, inside, Mark.closing, String.append_assoc]

theorem bodies_cons_cons (separator : String) (first second : Expansion) (rest : List Expansion) :
    bodies separator (first :: second :: rest) =
      body first ++ separator ++ bodies separator (second :: rest) :=
  rfl

/-- The symbols of a sequence are those of its items; an item without symbols leaves no trace. -/
theorem symbols_bodies_blank (items : List Expansion) :
    symbols (bodies " " items) = items.flatMap fun item => symbols item.body := by
  induction items with
  | nil => exact symbols_empty
  | cons first rest inRest =>
    cases rest with
    | nil => simp [bodies]
    | cons second rest =>
      rw [bodies_cons_cons, symbols_append_blank, inRest]
      rfl

theorem symbols_bodies_bar (first second : Expansion) (rest : List Expansion) :
    symbols (bodies " | " (first :: second :: rest)) =
      symbols first.body ++ .bar :: symbols (bodies " | " (second :: rest)) := by
  rw [bodies_cons_cons, symbols_append_bar]

end Expansion

end VoiceGrammar
