import Mathlib.Data.List.TakeWhile
import VoiceGrammar.Proofs.Text.CharClasses
import VoiceGrammar.Rule.PlaceReading

/-!
# Places and their texts

The text of a place is read back as that place, so no two places share a text. Keywords hold
letters only: the dots and brackets of a path are those that were put between its parts.
-/

namespace VoiceGrammar

namespace Kind

theorem isAlpha_of_mem_key (kind : Kind) : ∀ c ∈ kind.key.toList, c.isAlpha = true :=
  kind.forall_mem_key (by decide)

theorem not_mem_key (kind : Kind) {c : Char} (foreign : c.isAlpha = false) :
    c ∉ kind.key.toList := by
  intro member
  have letter := kind.isAlpha_of_mem_key c member
  rw [foreign] at letter
  cases letter

end Kind

/-! ## Pieces of a path -/

namespace Step

theorem toList_text (step : Step) :
    step.text.toList = step.kind.key.toList ++ '[' :: (Nat.toDigits 10 step.index ++ [']']) := by
  simp [text]

theorem ofText?_text (step : Step) : ofText? step.text.toList = some step := by
  have inKey := Text.ne_mark_of_not_mem (step.kind.not_mem_key (c := '[') (by decide))
  have inDigits : ∀ c ∈ Nat.toDigits 10 step.index, Text.isDigit c = true :=
    fun c => Text.isDigit_of_mem_toDigits
  have noDigit : Text.isDigit ']' = false := by decide
  rw [ofText?, toList_text, Text.takeWhile_append_mark _ inKey (by decide),
    Text.dropWhile_append_mark _ inKey (by decide), List.drop_one, List.tail_cons,
    Text.takeWhile_append_mark _ inDigits noDigit, Text.dropWhile_append_mark _ inDigits noDigit,
    if_pos ⟨Nat.toDigits_ne_nil, rfl⟩, String.ofList_toList, Kind.ofKey?_key, Option.map_some,
    Nat.ofDigitChars_ten_toDigits]

/-- A keyword alone is no step, because it has no brackets. -/
theorem ofText?_key (kind : Kind) : ofText? kind.key.toList = none := by
  have inKey := Text.ne_mark_of_not_mem (kind.not_mem_key (c := '[') (by decide))
  rw [ofText?, List.dropWhile_eq_nil_iff.2 inKey]
  exact if_neg fun both => both.1 rfl

theorem dot_not_mem_text (step : Step) : '.' ∉ step.text.toList := by
  have inKey := step.kind.not_mem_key (c := '.') (by decide)
  have inDigits : '.' ∉ Nat.toDigits 10 step.index :=
    fun member => absurd (Text.isDigit_of_mem_toDigits member) (by decide)
  rw [toList_text]
  simp [inKey, inDigits]

end Step

/-! ## Paths -/

namespace Place

theorem ofPieces?_element (steps more : List Step) (nonempty : more ≠ []) :
    ofPieces? steps (more.map (·.text.toList)) = some (.element (steps ++ more)) := by
  induction more generalizing steps with
  | nil => exact absurd rfl nonempty
  | cons step more inMore =>
    cases more with
    | nil => simp only [List.map_cons, List.map_nil, ofPieces?, Step.ofText?_text]
    | cons second more =>
      have inMore := inMore (steps ++ [step]) (List.cons_ne_nil second more)
      rw [List.append_assoc, List.singleton_append] at inMore
      simp only [List.map_cons] at inMore ⊢
      rw [ofPieces?, Step.ofText?_text]
      · exact inMore
      · simp

theorem ofPieces?_body (steps more : List Step) (kind : Kind) :
    ofPieces? steps (more.map (·.text.toList) ++ [kind.key.toList]) =
      some (.body (steps ++ more) kind) := by
  induction more generalizing steps with
  | nil =>
    rw [List.map_nil, List.nil_append, ofPieces?, Step.ofText?_key, String.ofList_toList,
      Kind.ofKey?_key, Option.map_some, List.append_nil]
  | cons step more inMore =>
    have inMore := inMore (steps ++ [step])
    rw [List.append_assoc, List.singleton_append] at inMore
    rw [List.map_cons, List.cons_append, ofPieces?, Step.ofText?_text]
    · exact inMore
    · simp

/-- What is read from the pieces of a text is read from the text, which is then not one of the two
names that are no paths. -/
theorem ofText?_of_ofPieces? {text : String} {place : Place}
    (read : ofPieces? [] (text.toList.splitOn '.') = some place) : ofText? text = some place := by
  have noPaths : ofPieces? [] ("<token>".toList.splitOn '.') = none ∧
      ofPieces? [] ("root".toList.splitOn '.') = none := by
    decide
  rw [ofText?, if_neg, if_neg, read]
  · rintro rfl
    cases noPaths.2.symm.trans read
  · rintro rfl
    cases noPaths.1.symm.trans read

theorem ofText?_intercalate {pieces : List String} {place : Place} (nonempty : pieces ≠ [])
    (noDot : ∀ piece ∈ pieces, '.' ∉ piece.toList)
    (read : ofPieces? [] (pieces.map String.toList) = some place) :
    ofText? (".".intercalate pieces) = some place := by
  have dot : ".".toList = ['.'] := by decide
  apply ofText?_of_ofPieces?
  rw [String.toList_intercalate, dot, List.splitOn_intercalate '.' (by simpa using noDot)
    (by simpa using nonempty), read]

/-- The text of a place is read as that place. -/
theorem ofText?_text (place : Place) : ofText? place.text = some place := by
  have inSteps : ∀ {steps : List Step}, ∀ piece ∈ steps.map Step.text, '.' ∉ piece.toList := by
    intro steps
    exact List.forall_mem_map.2 fun step _ => step.dot_not_mem_text
  cases place with
  | alone => rfl
  | body steps kind =>
    refine ofText?_intercalate (by simp) ?_ ?_
    · intro piece member
      rcases List.mem_append.1 member with member | member
      · exact inSteps piece member
      · rw [List.mem_singleton.1 member]
        exact kind.not_mem_key (by decide)
    · rw [List.map_append, List.map_map]
      exact ofPieces?_body [] steps kind
  | element steps =>
    cases steps with
    | nil => rfl
    | cons step steps =>
      have pieces := ofPieces?_element [] (step :: steps) (List.cons_ne_nil step steps)
      have path : ofText? (".".intercalate ((step :: steps).map Step.text)) =
          some (.element (step :: steps)) := by
        refine ofText?_intercalate (by simp) inSteps ?_
        rw [List.map_map]
        exact pieces
      exact path

/-- No two places have the same text. -/
theorem text_injective : Function.Injective text := by
  intro place place' same
  have read := ofText?_text place
  rw [same, ofText?_text, Option.some.injEq] at read
  exact read.symm

end Place

end VoiceGrammar
