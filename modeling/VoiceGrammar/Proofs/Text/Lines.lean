import Mathlib.Data.List.Forall2
import VoiceGrammar.Proofs.Text.Words
import VoiceGrammar.Text.Lines

/-!
# Lines and the pieces between line breaks

The lines of a text are the pieces between its line breaks, apart from a carriage return at the end
of a piece and from an empty piece behind the last break. To a reader that trims its lines neither
makes a difference.
-/

namespace VoiceGrammar.Text

/-- A piece that is a line, or a line and a carriage return. -/
def Covers (piece line : List Char) : Prop :=
  piece = line ∨ piece = line ++ ['\r']

theorem Covers.cons {piece line : List Char} (covers : Covers piece line) (c : Char) :
    Covers (c :: piece) (c :: line) := by
  rcases covers with rfl | rfl
  · exact .inl rfl
  · exact .inr rfl

theorem trim_append_blank (text : List Char) {blank : Char} (isBlank : isBlank blank = true) :
    trim (text ++ [blank]) = trim text := by
  rw [trim, trim, List.dropWhile_append]
  split
  · next noneLeft =>
    rw [List.isEmpty_iff.1 noneLeft, List.dropWhile_cons_of_pos isBlank]
    rfl
  · rw [List.reverse_append, List.reverse_singleton, List.singleton_append,
      List.dropWhile_cons_of_pos isBlank]

theorem Covers.trim_eq {piece line : List Char} (covers : Covers piece line) :
    trim piece = trim line := by
  rcases covers with rfl | rfl
  · rfl
  · exact trim_append_blank line (by decide)

theorem covers_modifyHead_cons {pieces lines : List (List Char)}
    (covers : List.Forall₂ Covers pieces lines) (c : Char) :
    List.Forall₂ Covers (pieces.modifyHead (c :: ·)) (lines.modifyHead (c :: ·)) := by
  cases covers with
  | nil => exact .nil
  | cons first rest => exact .cons (first.cons c) rest

/-- The pieces of a text are its lines, and perhaps an empty piece behind them. -/
theorem covers_lines (text : List Char) :
    List.Forall₂ Covers (text.splitOn '\n') (lines text) ∨
      List.Forall₂ Covers (text.splitOn '\n') (lines text ++ [[]]) := by
  fun_induction lines text with
  | case1 => exact .inr (.cons (.inl rfl) .nil)
  | case2 rest inRest =>
    rw [splitOn_cons_mark]
    exact inRest.imp (.cons (.inl rfl)) (.cons (.inl rfl))
  | case3 rest inRest =>
    rw [splitOn_cons_of_ne (by decide), splitOn_cons_mark]
    exact inRest.imp (.cons (.inr rfl)) (.cons (.inr rfl))
  | case4 c rest notBreak _ noLine inRest =>
    -- Nothing but an empty piece is left, and the last line begins in it.
    rw [noLine] at inRest
    rw [splitOn_cons_of_ne notBreak]
    rcases inRest with nowhere | atEnd
    · exact absurd (List.forall₂_nil_right_iff.1 nowhere) (List.splitOn_ne_nil '\n' rest)
    · exact .inl (covers_modifyHead_cons atEnd c)
  | case5 c rest notBreak _ line others isRest inRest =>
    rw [isRest] at inRest
    rw [splitOn_cons_of_ne notBreak]
    exact inRest.imp (covers_modifyHead_cons · c) (covers_modifyHead_cons · c)

theorem withReturns_cons_of_ne {c : Char} (notBreak : c ≠ '\n') (rest : List Char) :
    withReturns (c :: rest) = c :: withReturns rest := by
  simp [withReturns, notBreak]

theorem covers_withReturns (text : List Char) :
    List.Forall₂ Covers ((withReturns text).splitOn '\n') (text.splitOn '\n') := by
  induction text with
  | nil => exact .cons (.inl rfl) .nil
  | cons c rest inRest =>
    by_cases isBreak : c = '\n'
    · subst isBreak
      have first : withReturns ('\n' :: rest) = '\r' :: '\n' :: withReturns rest := rfl
      rw [first, splitOn_cons_of_ne (by decide), splitOn_cons_mark, splitOn_cons_mark]
      exact .cons (.inr rfl) inRest
    · rw [withReturns_cons_of_ne isBreak, splitOn_cons_of_ne isBreak, splitOn_cons_of_ne isBreak]
      exact covers_modifyHead_cons inRest c

theorem length_splitOn_break (text : List Char) :
    (text.splitOn '\n').length = text.count '\n' + 1 := by
  induction text with
  | nil => rfl
  | cons c rest inRest =>
    by_cases isBreak : c = '\n'
    · rw [isBreak, splitOn_cons_mark, List.length_cons, inRest, List.count_cons_self]
    · rw [splitOn_cons_of_ne isBreak, List.length_modifyHead, inRest,
        List.count_cons_of_ne isBreak]

/-- A stretch without a line break and without a carriage return is a line up to the next break. -/
theorem lines_append_break {line : List Char} (noBreak : '\n' ∉ line) (noReturn : '\r' ∉ line)
    (rest : List Char) : lines (line ++ '\n' :: rest) = line :: lines rest := by
  induction line with
  | nil => rfl
  | cons c line inLine =>
    rw [List.mem_cons, not_or] at noBreak noReturn
    rw [List.cons_append, lines, inLine noBreak.2 noReturn.2]
    · exact Ne.symm noBreak.1
    · exact fun _ isReturn => absurd isReturn.symm noReturn.1

end VoiceGrammar.Text
