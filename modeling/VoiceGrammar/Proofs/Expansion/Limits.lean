import Mathlib.Order.Lattice.Nat
import VoiceGrammar.Proofs.Expansion.Language

/-!
# Limited languages

A language is limited when its word sequences have no more than some number of words. Sums and
products are limited exactly when their parts are, as long as every factor of a product can be
said at all. A repetition is never limited, unless its body says nothing.
-/

namespace VoiceGrammar

open scoped Computability

/-- No word sequence of the language has more words than some limit. -/
def IsLimited (language : Language String) : Prop :=
  ∃ limit, ∀ said ∈ language, said.length ≤ limit

section Operations

variable {language language' : Language String}

theorem not_isLimited_iff :
    ¬ IsLimited language ↔ ∀ limit, ∃ said ∈ language, limit < said.length := by
  simp only [IsLimited, not_exists, not_forall, Nat.not_le, exists_prop]

theorem isLimited_singleton (words : List String) : IsLimited {words} := by
  refine ⟨words.length, ?_⟩
  rintro said rfl
  exact Nat.le_refl _

theorem isLimited_one : IsLimited 1 :=
  isLimited_singleton []

theorem isLimited_add :
    IsLimited (language + language') ↔ IsLimited language ∧ IsLimited language' := by
  constructor
  · rintro ⟨limit, within⟩
    exact ⟨⟨limit, fun said inFirst => within said (.inl inFirst)⟩,
      ⟨limit, fun said inSecond => within said (.inr inSecond)⟩⟩
  · rintro ⟨⟨limit, within⟩, ⟨limit', within'⟩⟩
    refine ⟨max limit limit', ?_⟩
    rintro said (inFirst | inSecond)
    · exact (within said inFirst).trans (Nat.le_max_left limit limit')
    · exact (within' said inSecond).trans (Nat.le_max_right limit limit')

theorem isLimited_mul (nonempty : ∃ said, said ∈ language) (nonempty' : ∃ said, said ∈ language') :
    IsLimited (language * language') ↔ IsLimited language ∧ IsLimited language' := by
  constructor
  · rintro ⟨limit, within⟩
    obtain ⟨said, inFirst⟩ := nonempty
    obtain ⟨further, inSecond⟩ := nonempty'
    -- Either factor is shorter than what it makes together with something of the other one.
    constructor
    · refine ⟨limit, fun other inFirst => ?_⟩
      have both := within (other ++ further) ⟨other, inFirst, further, inSecond, rfl⟩
      rw [List.length_append] at both
      omega
    · refine ⟨limit, fun other inSecond => ?_⟩
      have both := within (said ++ other) ⟨said, inFirst, other, inSecond, rfl⟩
      rw [List.length_append] at both
      omega
  · rintro ⟨⟨limit, within⟩, ⟨limit', within'⟩⟩
    refine ⟨limit + limit', ?_⟩
    rintro _ ⟨said, inFirst, further, inSecond, rfl⟩
    have := within said inFirst
    have := within' further inSecond
    change (said ++ further).length ≤ limit + limit'
    rw [List.length_append]
    omega

/-- What says something can be said as often as it takes to pass a limit. -/
theorem not_isLimited_kstar {said : List String} (allowed : said ∈ language) (spoken : said ≠ []) :
    ¬ IsLimited language∗ := by
  rw [not_isLimited_iff]
  intro limit
  refine ⟨(List.replicate (limit + 1) said).flatten, ⟨_, rfl, ?_⟩, ?_⟩
  · intro part member
    rw [List.eq_of_mem_replicate member]
    exact allowed
  · have words : 1 ≤ said.length := List.length_pos_iff.2 spoken
    rw [List.length_flatten, List.map_replicate, List.sum_replicate_nat]
    calc limit < (limit + 1) * 1 := by omega
      _ ≤ (limit + 1) * said.length := Nat.mul_le_mul_left _ words

/-- Among limited lengths there is a greatest one. -/
theorem IsLimited.exists_longest (limited : IsLimited language)
    (nonempty : ∃ said, said ∈ language) :
    ∃ longest ∈ language, ∀ said ∈ language, said.length ≤ longest.length := by
  obtain ⟨limit, within⟩ := limited
  have bounded : BddAbove (List.length '' language) := by
    refine ⟨limit, ?_⟩
    rintro _ ⟨said, allowed, rfl⟩
    exact within said allowed
  obtain ⟨longest, allowed, greatest⟩ :=
    Nat.sSup_mem (Set.Nonempty.image List.length nonempty) bounded
  refine ⟨longest, allowed, fun said inside => ?_⟩
  rw [greatest]
  exact le_csSup bounded ⟨said, inside, rfl⟩

end Operations

/-- A choice is limited when all that can be chosen is. -/
theorem isLimited_sum {α : Type} {parts : List α} {meaning : α → Language String} :
    IsLimited (parts.map meaning).sum ↔ ∀ part ∈ parts, IsLimited (meaning part) := by
  induction parts with
  | nil =>
    simp only [List.map_nil, List.sum_nil, List.not_mem_nil, false_implies, implies_true, iff_true]
    exact ⟨0, fun said inside => absurd inside (Language.notMem_zero said)⟩
  | cons first rest inRest =>
    rw [List.map_cons, List.sum_cons, isLimited_add, inRest, List.forall_mem_cons]

end VoiceGrammar
