import VoiceGrammar.Proofs.Expansion.BodySymbols
import VoiceGrammar.Proofs.Text.CharClasses

/-!
# The characters of a rule body

However an expansion is put together, its text is written with the characters of words, the space
and seven signs. Nothing that has a meaning outside of rule bodies can therefore stand in one, and
no blank but the space.
-/

namespace VoiceGrammar

namespace Text

/-- The code points of the control characters. -/
def controlRuns : List CodeRun := [⟨0x00, 0x1F, 1⟩, ⟨0x7F, 0x9F, 1⟩]

theorem inRuns_controlRuns {c : Char} (control : isControl c = true) :
    inRuns controlRuns c = true := by
  simp only [isControl, Bool.or_eq_true, Bool.and_eq_true, decide_eq_true_eq] at control
  rw [inRuns_iff]
  rcases control with low | ⟨above, below⟩
  · refine ⟨_, List.mem_cons_self, ?_⟩
    have bound : c.toNat ≤ 0x1F := by omega
    simp [CodeRun.contains, bound, Nat.mod_one]
  · refine ⟨_, List.mem_cons_of_mem _ List.mem_cons_self, ?_⟩
    have bound : c.toNat ≤ 0x9F := by omega
    simp [CodeRun.contains, above, bound, Nat.mod_one]

end Text

theorem isControl_eq_false_of_isWordChar {c : Char} (wordChar : isWordChar c = true) :
    Text.isControl c = false := by
  have outside : Text.inRuns Text.controlRuns c = false := by
    rcases Bool.or_eq_true_iff.1 wordChar with upper | digit
    · exact Text.inRuns_eq_false_of_apart (by decide +kernel) upper
    · exact Text.inRuns_eq_false_of_apart (by decide) (Text.inRuns_of_isDigit digit)
  rw [Bool.eq_false_iff]
  intro control
  rw [Text.inRuns_controlRuns control] at outside
  cases outside

namespace Body

/-- The space, the brackets, the bar and the marks of repetition. -/
def signs : List Char := [' ', '(', ')', '[', ']', '|', '+', '*']

/-- The characters that rule bodies are written with. -/
def isBodyChar (c : Char) : Bool :=
  isWordChar c || signs.contains c

theorem isBodyChar_iff {c : Char} : isBodyChar c = true ↔ isWordChar c = true ∨ c ∈ signs := by
  rw [isBodyChar, Bool.or_eq_true, List.contains_iff_mem]

theorem isControl_eq_false_of_isBodyChar {c : Char} (bodyChar : isBodyChar c = true) :
    Text.isControl c = false := by
  rcases isBodyChar_iff.1 bodyChar with wordChar | isSign
  · exact isControl_eq_false_of_isWordChar wordChar
  · have inSigns : signs.any Text.isControl = false := by decide
    exact Bool.eq_false_iff.2 (List.any_eq_false.1 inSigns c isSign)

theorem eq_space_of_isBodyChar {c : Char} (bodyChar : isBodyChar c = true)
    (blank : Text.isBlank c = true) : c = ' ' := by
  rcases isBodyChar_iff.1 bodyChar with wordChar | isSign
  · rw [isBlank_eq_false_of_isWordChar wordChar] at blank
    cases blank
  · have inSigns : (signs.filter Text.isBlank).all (· == ' ') = true := by decide
    exact beq_iff_eq.1 (List.all_eq_true.1 inSigns c (List.mem_filter.2 ⟨isSign, blank⟩))

/-! ## Texts -/

/-- A text with characters of rule bodies only. -/
def IsBodyText (text : String) : Prop :=
  ∀ c ∈ text.toList, isBodyChar c = true

instance : DecidablePred IsBodyText := fun _ =>
  -- Along the text: characters are a finite type too, but they are too many to go through.
  List.decidableBAll _ _

theorem isBodyText_append {text more : String} :
    IsBodyText (text ++ more) ↔ IsBodyText text ∧ IsBodyText more := by
  rw [IsBodyText, String.toList_append, List.forall_mem_append]
  rfl

theorem isBodyText_token (token : Token) : IsBodyText token.text := by
  intro c member
  obtain ⟨-, -, -, -, allowed⟩ := tokenFlaw?_eq_none_iff.1 token.flawless
  rw [isBodyChar_iff]
  cases wordChar : isWordChar c with
  | true => exact .inl rfl
  | false =>
    -- Between the words of a token stands the space.
    rw [allowed c member wordChar]
    exact .inr List.mem_cons_self

theorem isBodyText_round {inner : String} (inBody : IsBodyText inner) (mark : Mark) :
    IsBodyText ("( " ++ inner ++ " " ++ mark.closing) := by
  have closing : IsBodyText mark.closing := by
    cases mark <;> decide
  simp only [isBodyText_append]
  exact ⟨⟨⟨by decide, inBody⟩, by decide⟩, closing⟩

theorem isBodyText_square {inner : String} (inBody : IsBodyText inner) :
    IsBodyText ("[ " ++ inner ++ " ]") := by
  simp only [isBodyText_append]
  exact ⟨⟨by decide, inBody⟩, by decide⟩

end Body

namespace Expansion

open Body

theorem isBodyText_bodies {separator : String} {items : List Expansion}
    (between : IsBodyText separator) (inItems : ∀ item ∈ items, IsBodyText item.body) :
    IsBodyText (bodies separator items) := by
  induction items with
  | nil =>
    intro c member
    cases member
  | cons first rest inRest =>
    rw [List.forall_mem_cons] at inItems
    cases rest with
    | nil => exact inItems.1
    | cons second rest =>
      rw [bodies_cons_cons, isBodyText_append, isBodyText_append]
      exact ⟨⟨inItems.1, between⟩, inRest inItems.2⟩

/-- Without the brackets that alternatives have of their own nothing new is written. -/
theorem isBodyText_inside {expansion : Expansion} (inBody : IsBodyText expansion.body) :
    IsBodyText expansion.inside := by
  cases expansion with
  | alternatives items =>
    rw [body_alternatives, isBodyText_append, isBodyText_append, isBodyText_append] at inBody
    exact inBody.1.1.2
  | _ => exact inBody

/-- Every expansion is written with the characters of rule bodies, degenerate ones included. -/
theorem isBodyText_body (expansion : Expansion) : IsBodyText expansion.body := by
  induction expansion using Expansion.induction with
  | phrase token => exact isBodyText_token token
  | sequence items inItems => exact isBodyText_bodies (by decide) inItems
  | alternatives items inItems =>
    rw [body_alternatives]
    exact isBodyText_round (isBodyText_bodies (by decide) inItems) .once
  | optional body inBody =>
    rw [body_optional]
    exact isBodyText_square (isBodyText_inside inBody)
  | oneOrMore body inBody =>
    rw [body_oneOrMore]
    exact isBodyText_round (isBodyText_inside inBody) .oneOrMore
  | zeroOrMore body inBody =>
    rw [body_zeroOrMore]
    exact isBodyText_round (isBodyText_inside inBody) .zeroOrMore

end Expansion

end VoiceGrammar
