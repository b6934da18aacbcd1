import Mathlib.Computability.Language
import VoiceGrammar.Expansion.Derives

/-!
# The language of an expansion

The derivations of an expansion, gathered into a language. Each constructor is an operation of the
Kleene algebra of languages, so that from here on derivations are never taken apart again: what an
expansion allows is computed by the laws of that algebra.
-/

namespace VoiceGrammar.Expansion

open scoped Computability

/-- The word sequences that an expansion derives. -/
def language (expansion : Expansion) : Language String :=
  {words | expansion.Derives words}

theorem mem_language {expansion : Expansion} {words : List String} :
    words ∈ expansion.language ↔ expansion.Derives words :=
  Iff.rfl

/-- A sum of languages is their union. -/
theorem mem_sum {languages : List (Language String)} {words : List String} :
    words ∈ languages.sum ↔ ∃ language ∈ languages, words ∈ language := by
  induction languages with
  | nil => simp
  | cons first rest inRest =>
    rw [List.sum_cons, Language.mem_add, inRest, List.exists_mem_cons_iff]

theorem append_mem_kstar {language : Language String} {first rest : List String}
    (inOne : first ∈ language) (inMore : rest ∈ language∗) : first ++ rest ∈ language∗ := by
  obtain ⟨parts, rfl, inParts⟩ := inMore
  exact ⟨first :: parts, rfl, List.forall_mem_cons.2 ⟨inOne, inParts⟩⟩

/-! ## One equation for each constructor -/

theorem language_phrase (token : Token) : language (.phrase token) = {token.words} := by
  ext words
  constructor
  · intro derived
    cases derived
    rfl
  · rintro rfl
    exact .phrase token

theorem language_sequence_nil : language (.sequence []) = 1 := by
  ext words
  rw [mem_language, Language.mem_one]
  constructor
  · intro derived
    cases derived
    rfl
  · rintro rfl
    exact .nil

theorem language_sequence_cons (first : Expansion) (rest : List Expansion) :
    language (.sequence (first :: rest)) = first.language * language (.sequence rest) := by
  ext words
  rw [mem_language, Language.mem_mul]
  constructor
  · intro derived
    cases derived with
    | cons inFirst inRest => exact ⟨_, inFirst, _, inRest, rfl⟩
  · rintro ⟨said, inFirst, further, inRest, rfl⟩
    exact .cons inFirst inRest

/-- A sequence concatenates the languages of its items. -/
theorem language_sequence (items : List Expansion) :
    language (.sequence items) = (items.map language).prod := by
  induction items with
  | nil => exact language_sequence_nil
  | cons first rest inRest =>
    rw [language_sequence_cons, inRest, List.map_cons, List.prod_cons]

/-- Items may be replaced by several ones that say the same in sequence. -/
theorem prod_language_flatMap {items : List Expansion} {parts : Expansion → List Expansion}
    (same : ∀ item ∈ items, ((parts item).map language).prod = item.language) :
    ((items.flatMap parts).map language).prod = (items.map language).prod := by
  induction items with
  | nil => rfl
  | cons first rest inRest =>
    rw [List.forall_mem_cons] at same
    rw [List.flatMap_cons, List.map_append, List.prod_append, same.1, inRest same.2,
      List.map_cons, List.prod_cons]

/-- A choice unites the languages of its items. -/
theorem language_alternatives (items : List Expansion) :
    language (.alternatives items) = (items.map language).sum := by
  ext words
  rw [mem_language, mem_sum]
  constructor
  · intro derived
    cases derived with
    | choice member inItem => exact ⟨_, List.mem_map_of_mem member, inItem⟩
  · rintro ⟨_, member, inItem⟩
    obtain ⟨item, isItem, rfl⟩ := List.mem_map.1 member
    exact .choice isItem inItem

theorem language_optional (body : Expansion) : language (.optional body) = 1 + body.language := by
  ext words
  rw [mem_language, Language.mem_add, Language.mem_one]
  constructor
  · intro derived
    cases derived with
    | omitted => exact .inl rfl
    | present inBody => exact .inr inBody
  · rintro (rfl | inBody)
    · exact .omitted body
    · exact .present inBody

theorem language_zeroOrMore (body : Expansion) :
    language (.zeroOrMore body) = body.language∗ := by
  ext words
  rw [mem_language]
  constructor
  · -- The induction is on the derivation, in which the same repetition comes again behind the body.
    intro derived
    generalize repeated : Expansion.zeroOrMore body = expansion at derived
    induction derived with
    | never => exact Language.nil_mem_kstar _
    | more inBody _ _ inLoop =>
      cases repeated
      exact append_mem_kstar inBody (inLoop rfl)
    | _ => cases repeated
  · rintro ⟨parts, rfl, inBody⟩
    induction parts with
    | nil => exact .never body
    | cons part parts inParts =>
      rw [List.forall_mem_cons] at inBody
      exact .more inBody.1 (inParts inBody.2)

theorem language_oneOrMore (body : Expansion) :
    language (.oneOrMore body) = body.language * body.language∗ := by
  ext words
  rw [mem_language, Language.mem_mul]
  constructor
  · intro derived
    generalize repeated : Expansion.oneOrMore body = expansion at derived
    induction derived with
    | last inBody =>
      cases repeated
      exact ⟨_, inBody, [], Language.nil_mem_kstar _, List.append_nil _⟩
    | again inBody _ _ inLoop =>
      cases repeated
      obtain ⟨said, inSaid, further, inFurther, rfl⟩ := inLoop rfl
      exact ⟨_, inBody, _, append_mem_kstar inSaid inFurther, rfl⟩
    | _ => cases repeated
  · -- What is said first changes on the way: every further part is the first one of a repetition.
    rintro ⟨said, inBody, further, ⟨parts, rfl, inParts⟩, rfl⟩
    induction parts generalizing said with
    | nil => exact (List.append_nil said).symm ▸ .last inBody
    | cons part parts inLoop =>
      rw [List.forall_mem_cons] at inParts
      exact .again inBody (inLoop part inParts.1 inParts.2)

end VoiceGrammar.Expansion
