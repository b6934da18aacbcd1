import VoiceGrammar.Expansion.BodyGaps
import VoiceGrammar.Proofs.Expansion.BodySymbols
import VoiceGrammar.Proofs.Expansion.Proper

/-!
# Rule bodies have no gaps

What all tokens have, and what is kept when texts are written one behind the other, with a bar
between them or in brackets, the body of every proper expansion has: it is put together in no other
way, and nowhere from nothing. Both kinds of gaps are excluded by this one induction.
-/

namespace VoiceGrammar

namespace Expansion

open Body

/-! ## Putting bodies together -/

/-- What tokens have and every way of putting rule bodies together keeps. -/
structure IsKept (holds : String → Prop) : Prop where
  token : ∀ token : Token, holds token.text
  blank : ∀ {before after}, holds before → holds after → holds (before ++ " " ++ after)
  bar : ∀ {before after}, holds before → holds after → holds (before ++ " | " ++ after)
  round : ∀ {inner}, holds inner → ∀ mark : Mark, holds ("( " ++ inner ++ " " ++ mark.closing)
  square : ∀ {inner}, holds inner → holds ("[ " ++ inner ++ " ]")

section Kept

variable {holds : String → Prop} {items : List Expansion} {expansion : Expansion}

theorem holds_bodies {separator : String}
    (between : ∀ {before after}, holds before → holds after → holds (before ++ separator ++ after))
    (nonempty : items ≠ []) (inItems : ∀ item ∈ items, holds item.body) :
    holds (bodies separator items) := by
  induction items with
  | nil => exact absurd rfl nonempty
  | cons first rest inRest =>
    rw [List.forall_mem_cons] at inItems
    cases rest with
    | nil => exact inItems.1
    | cons second rest =>
      rw [bodies_cons_cons]
      exact between inItems.1 (inRest (List.cons_ne_nil second rest) inItems.2)

/-- Alternatives have brackets of their own where no others stand around them. -/
theorem IsKept.body_of_inside (kept : IsKept holds) (inside : holds expansion.inside) :
    holds expansion.body := by
  cases expansion with
  | alternatives items =>
    rw [body_alternatives]
    exact kept.round inside .once
  | _ => exact inside

theorem IsKept.inside (kept : IsKept holds) (proper : expansion.IsProper) :
    holds expansion.inside := by
  -- As for the reading of bodies the fact about the inside goes through the induction: a choice
  -- below an operator has no brackets of its own.
  induction proper with
  | phrase token => exact kept.token token
  | sequence two _ inItems =>
    have nonempty := List.ne_nil_of_length_pos (Nat.zero_lt_of_lt two)
    exact holds_bodies kept.blank nonempty fun item member =>
      kept.body_of_inside (inItems item member)
  | alternatives two _ inItems =>
    have nonempty := List.ne_nil_of_length_pos (Nat.zero_lt_of_lt two)
    exact holds_bodies kept.bar nonempty fun item member =>
      kept.body_of_inside (inItems item member)
  | @optional inner _ inInner =>
    change holds (body (.optional inner))
    rw [body_optional]
    exact kept.square inInner
  | @oneOrMore inner _ inInner =>
    change holds (body (.oneOrMore inner))
    rw [body_oneOrMore]
    exact kept.round inInner .oneOrMore
  | @zeroOrMore inner _ inInner =>
    change holds (body (.zeroOrMore inner))
    rw [body_zeroOrMore]
    exact kept.round inInner .zeroOrMore

theorem IsKept.body (kept : IsKept holds) (proper : expansion.IsProper) : holds expansion.body :=
  kept.body_of_inside (kept.inside proper)

end Kept

end Expansion

/-! ## Blanks -/

namespace Body

/-- A blank with something on both sides leaves no gap. -/
theorem isTight_append_blank {before after : String} :
    IsTight (before ++ " " ++ after) ↔ IsTight before ∧ IsTight after := by
  have cut : (before ++ " " ++ after).toList = before.toList ++ ' ' :: after.toList := by
    simp
  rw [IsTight, cut, List.splitOn_append_cons_self, List.forall_mem_append]
  rfl

theorem not_isTight_empty : ¬ IsTight "" := by
  intro tight
  exact tight [] (by simp) rfl

theorem isTight_of_not_mem {text : String} (noBlank : ' ' ∉ text.toList) (nonempty : text ≠ "") :
    IsTight text := by
  rw [IsTight, List.splitOn_eq_singleton noBlank, List.forall_mem_singleton]
  simpa using nonempty

theorem isKept_isTight : Expansion.IsKept IsTight where
  token token piece isPiece := (isWord_of_mem_splitOn token.flawless isPiece).nonempty
  blank before after := isTight_append_blank.2 ⟨before, after⟩
  bar before after := by
    have bar : IsTight "|" := isTight_of_not_mem (by decide) (by decide)
    rw [append_bar_eq, isTight_append_blank, isTight_append_blank]
    exact ⟨before, bar, after⟩
  round inner mark := by
    have opening : IsTight "(" := isTight_of_not_mem (by decide) (by decide)
    have closing : IsTight mark.closing := by
      cases mark <;> exact isTight_of_not_mem (by decide) (by decide)
    rw [isTight_append_blank, open_round_eq, isTight_append_blank]
    exact ⟨⟨opening, inner⟩, closing⟩
  square inner := by
    have opening : IsTight "[" := isTight_of_not_mem (by decide) (by decide)
    have closing : IsTight "]" := isTight_of_not_mem (by decide) (by decide)
    rw [square_eq, isTight_append_blank, isTight_append_blank]
    exact ⟨⟨opening, inner⟩, closing⟩

/-! ## Symbols -/

section Filled

variable {symbols more : List Symbol} {first last : Symbol}

theorem isFilled_word (text : String) : IsFilled [.word text] where
  nonempty := List.cons_ne_nil _ _
  first := by simp [Symbol.closes]
  last := by simp [Symbol.opens]
  inner := .singleton _

theorem IsFilled.append (filled : IsFilled symbols) (filled' : IsFilled more) :
    IsFilled (symbols ++ more) where
  nonempty := List.append_ne_nil_of_left_ne_nil filled.nonempty more
  first := by
    rw [List.head?_append_of_ne_nil symbols filled.nonempty]
    exact filled.first
  last := by
    rw [List.getLast?_append_of_ne_nil symbols filled'.nonempty]
    exact filled'.last
  inner := filled.inner.append filled'.inner fun symbol isLast _ _ =>
    .inl (filled.last symbol isLast)

/-- Symbols between an opening and a closing one. -/
theorem IsFilled.enclosed (filled : IsFilled symbols) (opening : first.closes = false)
    (closing : last.opens = false) : IsFilled (first :: (symbols ++ [last])) where
  nonempty := List.cons_ne_nil _ _
  first := by simpa using opening
  last := by
    rw [← List.cons_append, List.getLast?_append_of_ne_nil _ (List.cons_ne_nil last [])]
    simpa using closing
  inner := by
    have ended : (symbols ++ [last]).IsChain Symbol.Adjoins :=
      filled.inner.append (.singleton last) fun symbol isLast _ _ =>
        .inl (filled.last symbol isLast)
    refine List.isChain_cons.2 ⟨fun symbol isFirst => .inr ?_, ended⟩
    rw [List.head?_append_of_ne_nil symbols filled.nonempty] at isFirst
    exact filled.first symbol isFirst

/-- Symbols on both sides of a bar. -/
theorem IsFilled.append_bar (filled : IsFilled symbols) (filled' : IsFilled more) :
    IsFilled (symbols ++ .bar :: more) where
  nonempty := List.append_ne_nil_of_left_ne_nil filled.nonempty _
  first := by
    rw [List.head?_append_of_ne_nil symbols filled.nonempty]
    exact filled.first
  last := by
    rw [List.append_cons, List.getLast?_append_of_ne_nil _ filled'.nonempty]
    exact filled'.last
  inner := by
    have started : (Symbol.bar :: more).IsChain Symbol.Adjoins :=
      List.isChain_cons.2 ⟨fun symbol isFirst => .inr (filled'.first symbol isFirst), filled'.inner⟩
    exact filled.inner.append started fun symbol isLast _ _ => .inl (filled.last symbol isLast)

theorem isFilled_words {words : List String} (nonempty : words ≠ []) :
    IsFilled (words.map .word) := by
  induction words with
  | nil => exact absurd rfl nonempty
  | cons word rest inRest =>
    cases rest with
    | nil => exact isFilled_word word
    | cons next rest =>
      rw [List.map_cons, ← List.singleton_append]
      exact (isFilled_word word).append (inRest (List.cons_ne_nil next rest))

end Filled

theorem isKept_isFilled : Expansion.IsKept fun text => IsFilled (symbols text) where
  token token := by
    rw [symbols_token]
    refine isFilled_words fun none => ?_
    exact List.splitOn_ne_nil ' ' token.text.toList (List.map_eq_nil_iff.1 none)
  blank before after := by
    rw [symbols_append_blank]
    exact before.append after
  bar before after := by
    rw [symbols_append_bar]
    exact before.append_bar after
  round inner mark := by
    rw [symbols_round]
    exact inner.enclosed rfl rfl
  square inner := by
    rw [symbols_square]
    exact inner.enclosed rfl rfl

end Body

/-- The expansion of a rule is never degenerate: every sequence and every choice in it, at any
depth, has two items or more. Its body is therefore not empty and falls into no empty piece at its
blanks, and no brackets are empty and no bar is without something on both sides. -/
theorem Rule.expansion_never_degenerate (rule : Rule) :
    rule.expansion.IsProper ∧ rule.expansion.body ≠ "" ∧
    (∀ piece ∈ rule.expansion.body.toList.splitOn ' ', piece ≠ []) ∧
    Body.IsFilled (Body.symbols rule.expansion.body) := by
  have proper := rule.isProper_expansion
  have tight : Body.IsTight rule.expansion.body := Body.isKept_isTight.body proper
  refine ⟨proper, fun empty => ?_, tight, Body.isKept_isFilled.body proper⟩
  rw [empty] at tight
  exact Body.not_isTight_empty tight

/-- An empty choice, which no rule expands to, has both kinds of gaps. -/
example : ¬ Body.IsTight (Expansion.body (.alternatives [])) ∧
    ¬ Body.IsFilled (Body.symbols (Expansion.body (.alternatives []))) := by
  have symbols : Body.symbols (Expansion.body (.alternatives [])) =
      [.openRound, .closeRound .once] := by
    decide +kernel
  refine ⟨fun tight => tight [] (by decide +kernel) rfl, fun filled => ?_⟩
  rw [symbols] at filled
  exact absurd (List.isChain_pair.1 filled.inner) (by simp [Body.Symbol.Adjoins,
    Body.Symbol.opens, Body.Symbol.closes])

end VoiceGrammar
