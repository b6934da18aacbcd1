import Mathlib.Data.List.Basic
import VoiceGrammar.Grammar.DocumentReading
import VoiceGrammar.Proofs.Expansion.BodySymbols

/-!
# The words in a grammar document

Seen without its brackets, bars and marks, the body of a document is the list of the words of all
tokens of the expansion. No name of a rule holds an equals sign, so that the body can be found in
the document.
-/

namespace VoiceGrammar

namespace Body

/-- The words among some symbols. -/
def spoken (symbols : List Symbol) : List String :=
  symbols.filterMap fun
    | .word text => some text
    | _ => none

theorem wordsOf_eq_spoken (body : String) : wordsOf body = spoken (symbols body) :=
  rfl

theorem spoken_append (symbols more : List Symbol) :
    spoken (symbols ++ more) = spoken symbols ++ spoken more :=
  List.filterMap_append

theorem spoken_words (words : List String) : spoken (words.map .word) = words := by
  induction words with
  | nil => rfl
  | cons first rest inRest => exact congrArg (first :: ·) inRest

/-- Brackets and bars are no words. -/
@[simp]
theorem spoken_cons (symbol : Symbol) (rest : List Symbol) :
    spoken (symbol :: rest) =
      match symbol with
      | .word text => text :: spoken rest
      | _ => spoken rest := by
  cases symbol <;> rfl

/-! ## Brackets and separators -/

theorem wordsOf_round (inner : String) (mark : Mark) :
    wordsOf ("( " ++ inner ++ " " ++ mark.closing) = wordsOf inner := by
  rw [wordsOf_eq_spoken, symbols_round, spoken_cons, spoken_append]
  simp [spoken, wordsOf_eq_spoken]

theorem wordsOf_square (inner : String) : wordsOf ("[ " ++ inner ++ " ]") = wordsOf inner := by
  rw [wordsOf_eq_spoken, symbols_square, spoken_cons, spoken_append]
  simp [spoken, wordsOf_eq_spoken]

theorem wordsOf_token (token : Token) : wordsOf token.text = token.words := by
  rw [wordsOf_eq_spoken, symbols_token, spoken_words]

end Body

namespace Expansion

open Body

theorem wordsOf_bodies_blank (items : List Expansion) :
    wordsOf (bodies " " items) = items.flatMap fun item => wordsOf item.body := by
  rw [wordsOf_eq_spoken, symbols_bodies_blank]
  induction items with
  | nil => rfl
  | cons first rest inRest => rw [List.flatMap_cons, spoken_append, inRest]; rfl

theorem wordsOf_bodies_bar (items : List Expansion) :
    wordsOf (bodies " | " items) = items.flatMap fun item => wordsOf item.body := by
  induction items with
  | nil => rfl
  | cons first rest inRest =>
    cases rest with
    | nil => simp [bodies]
    | cons second rest =>
      rw [wordsOf_eq_spoken, symbols_bodies_bar, spoken_append, spoken_cons, List.flatMap_cons,
        ← inRest]
      rfl

/-- Brackets around alternatives make no difference to the words. -/
theorem wordsOf_inside (expansion : Expansion) :
    wordsOf expansion.inside = wordsOf expansion.body := by
  cases expansion with
  | alternatives items => rw [body_alternatives, wordsOf_round]
  | _ => rfl

/-- The words of a rule body are the words of the tokens of the expansion. -/
theorem wordsOf_body (expansion : Expansion) :
    wordsOf expansion.body = expansion.tokens.flatMap Token.words := by
  induction expansion using Expansion.induction with
  | phrase token => simpa [body, tokens] using wordsOf_token token
  | sequence items inItems =>
    rw [body, wordsOf_bodies_blank, tokens, tokensOfAll_eq, List.flatMap_assoc]
    exact List.flatMap_congr inItems
  | alternatives items inItems =>
    rw [body_alternatives, wordsOf_round, inside, wordsOf_bodies_bar, tokens, tokensOfAll_eq,
      List.flatMap_assoc]
    exact List.flatMap_congr inItems
  | optional body inBody => rw [body_optional, wordsOf_square, wordsOf_inside, inBody, tokens]
  | oneOrMore body inBody => rw [body_oneOrMore, wordsOf_round, wordsOf_inside, inBody, tokens]
  | zeroOrMore body inBody => rw [body_zeroOrMore, wordsOf_round, wordsOf_inside, inBody, tokens]

end Expansion

namespace Grammar

theorem isNameChar_of_mem {name : String} (isName : isRuleName name = true) :
    ∀ c ∈ name.toList, isNameChar c = true := by
  simp only [isRuleName, Bool.and_eq_true, List.all_eq_true] at isName
  exact isName.1.2

/-- The body is found again in the document that it was put into. -/
theorem bodyOf_text {name : String} (isName : isRuleName name = true) (body : Expansion) :
    bodyOf (text name body) = body.body := by
  have start : (text name body).toList =
      (header.toList ++ "\ngrammar ".toList ++ name.toList ++ ";\npublic <".toList ++ name.toList ++
        "> ".toList) ++ '=' :: ' ' :: (body.body.toList ++ [';', '\n']) := by
    have parts : ";\n".toList = [';', '\n'] ∧ "> = ".toList = "> ".toList ++ ['=', ' '] := by
      decide
    simp [text, parts]
  -- The equals sign before the body is the first one.
  have inName : name.toList.all (· ≠ '=') = true := by
    rw [List.all_eq_true]
    intro c member
    have nameChar := isNameChar_of_mem isName c member
    have different : c ≠ '=' := by
      rintro rfl
      exact absurd nameChar (by decide)
    simpa using different
  have before : (header.toList ++ "\ngrammar ".toList ++ name.toList ++ ";\npublic <".toList ++
      name.toList ++ "> ".toList).all (· ≠ '=') = true := by
    have fixed : header.toList.all (· ≠ '=') = true ∧
        "\ngrammar ".toList.all (· ≠ '=') = true ∧ ";\npublic <".toList.all (· ≠ '=') = true ∧
        "> ".toList.all (· ≠ '=') = true := by
      decide
    simp only [List.all_append, fixed, inName, Bool.and_self]
  rw [bodyOf, start, List.dropWhile_append_of_pos (List.all_eq_true.1 before)]
  simp

end Grammar

end VoiceGrammar
