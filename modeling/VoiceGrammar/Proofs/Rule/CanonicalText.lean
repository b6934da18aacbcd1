import VoiceGrammar.Proofs.Rule.Format
import VoiceGrammar.Proofs.Spec.Json.Values
import VoiceGrammar.Proofs.Text.CharClasses
import VoiceGrammar.Rule.JsonText
import VoiceGrammar.Rule.OfJson

/-!
# The canonical text of a rule is read back

The canonical text of a rule spells its written form, in which every group is a mapping around a
list. A rule therefore nests twice as deep in JSON as it does by itself, and it is read back from
its canonical text as long as its groups nest no deeper than half of what JSON text may.
-/

namespace VoiceGrammar

open Spec (Value)
open Spec.Json

/-! ## Texts that need no escape -/

/-- The characters that do not stand for themselves within a string: the control characters, the
quote and the backslash. -/
def specialRuns : List Text.CodeRun := [⟨0, 31, 1⟩, ⟨34, 34, 1⟩, ⟨92, 92, 1⟩]

theorem charSpelling_itself {c : Char} (plain : Text.inRuns specialRuns c = false) :
    CharSpelling c [c] := by
  refine .itself (Char.not_lt.1 fun control => ?_) ?_ ?_
  · have below : c.toNat ≤ 31 := Nat.le_of_lt_succ control
    have special : Text.inRuns specialRuns c = true :=
      Text.inRuns_iff.2 ⟨⟨0, 31, 1⟩, List.mem_cons_self, by
        simp [Text.CodeRun.contains, below, Nat.mod_one]⟩
    rw [plain] at special
    cases special
  · rintro rfl
    exact absurd plain (by decide)
  · rintro rfl
    exact absurd plain (by decide)

theorem charsSpelling_self {chars : List Char}
    (plain : ∀ c ∈ chars, Text.inRuns specialRuns c = false) : CharsSpelling chars chars := by
  induction chars with
  | nil => exact .nil
  | cons c rest inRest =>
    rw [List.forall_mem_cons] at plain
    exact .cons (charSpelling_itself plain.1) (inRest plain.2)

theorem stringSpelling_jsonQuoted {text : String}
    (plain : ∀ c ∈ text.toList, Text.inRuns specialRuns c = false) :
    StringSpelling text (Rule.jsonQuoted text).toList :=
  ⟨text.toList, charsSpelling_self plain, by simp [Rule.jsonQuoted]⟩

theorem Kind.stringSpelling_key (kind : Kind) :
    StringSpelling kind.key (Rule.jsonQuoted kind.key).toList := by
  have plain := kind.forall_mem_key (p := fun c => !Text.inRuns specialRuns c) (by decide)
  exact stringSpelling_jsonQuoted fun c member => by simpa using plain c member

theorem not_special_of_isWordChar {c : Char} (wordChar : isWordChar c = true) :
    Text.inRuns specialRuns c = false := by
  rcases Bool.or_eq_true_iff.1 wordChar with upper | digit
  · exact Text.inRuns_eq_false_of_apart (by decide +kernel) upper
  · exact Text.inRuns_eq_false_of_apart (by decide) (Text.inRuns_of_isDigit digit)

theorem Token.stringSpelling_text (token : Token) :
    StringSpelling token.text (Rule.jsonQuoted token.text).toList := by
  obtain ⟨_, _, _, _, noForeign⟩ := tokenFlaw?_eq_none_iff.1 token.flawless
  refine stringSpelling_jsonQuoted fun c member => ?_
  cases wordChar : isWordChar c with
  | true => exact not_special_of_isWordChar wordChar
  | false =>
    rw [noForeign c member wordChar]
    decide

/-! ## The canonical text spells the written form -/

namespace Rule

theorem toList_jsonText_group (kind : Kind) (first : Rule) (rest : List Rule) :
    (group kind first rest).jsonText.toList =
      [] ++ '\x7b' :: ([] ++ (jsonQuoted kind.key).toList ++ [] ++ ':' ::
        ([] ++ '[' :: (jsonText first ++ jsonTexts rest).toList ++ ']' :: [])) ++ '\x7d' :: [] := by
  simp [jsonText]

theorem itemsSpelling_toValues {first : Rule} {rest : List Rule}
    (spellings : ∀ rule ∈ first :: rest, ValueSpelling rule.toValue rule.jsonText.toList) :
    ItemsSpelling (toValues (first :: rest)) (jsonText first ++ jsonTexts rest).toList := by
  induction rest generalizing first with
  | nil =>
    rw [jsonTexts, String.append_empty, toValues, toValues]
    exact .last (spellings first (List.mem_singleton_self first))
  | cons second rest inRest =>
    rw [List.forall_mem_cons] at spellings
    have parts : (jsonText first ++ jsonTexts (second :: rest)).toList =
        (jsonText first).toList ++ ',' :: (jsonText second ++ jsonTexts rest).toList := by
      simp [jsonTexts]
    rw [parts, toValues]
    exact .cons spellings.1 (inRest spellings.2)

theorem spelling_toValue (rule : Rule) : ValueSpelling rule.toValue rule.jsonText.toList := by
  induction rule using Rule.induction with
  | literal token =>
    have spelling := @ValueSpelling.text _ [] _ [] isSpace_nil isSpace_nil token.stringSpelling_text
    rw [List.nil_append, List.append_nil] at spelling
    exact spelling
  | group kind first rest inFirst inRest =>
    have items := itemsSpelling_toValues (List.forall_mem_cons.2 ⟨inFirst, inRest⟩)
    have body := @ValueSpelling.list _ [] _ [] isSpace_nil isSpace_nil items
    have entry := @EntriesSpelling.last _ _ [] _ [] _ isSpace_nil isSpace_nil
      kind.stringSpelling_key body
    rw [toList_jsonText_group]
    exact .mapping isSpace_nil isSpace_nil entry

/-! ## Depth -/

theorem depthOfItems_toValues {rules : List Rule}
    (twice : ∀ rule ∈ rules, rule.toValue.depth = 2 * rule.depth) :
    Value.depthOfItems (toValues rules) = 2 * depthOfAll rules := by
  induction rules with
  | nil => rfl
  | cons first rest inRest =>
    rw [List.forall_mem_cons] at twice
    rw [toValues, Value.depthOfItems, depthOfAll, twice.1, inRest twice.2, Nat.mul_max_mul_left]

/-- A group nests a mapping and a list in it. -/
theorem depth_toValue (rule : Rule) : rule.toValue.depth = 2 * rule.depth := by
  induction rule using Rule.induction with
  | literal token => rfl
  | group kind first rest inFirst inRest =>
    have items := depthOfItems_toValues (List.forall_mem_cons.2 ⟨inFirst, inRest⟩)
    rw [toValues, depthOfAll] at items
    rw [toValue, Value.depth, Value.depthOfEntries, Value.depthOfEntries, Value.depth, items, depth,
      Nat.max_zero]
    omega

end Rule

/-! ## Reading -/

namespace RuleGroup

theorem ofJson_jsonText_eq_ok {group : RuleGroup} (nested : group.depth ≤ 63) :
    RuleGroup.ofJson group.toRule.jsonText = .ok group := by
  have twice := group.toRule.depth_toValue
  have read := Value.ofJson_eq_ok group.toRule.spelling_toValue (by rw [depth] at nested; omega)
  have readRule : ofValue group.toRule.toValue = .ok group := ofValue_eq_ok_iff.2 rfl
  simp only [RuleGroup.ofJson, read, readRule]

theorem ofJson_jsonText_eq_error {group : RuleGroup} (deep : 63 < group.depth) :
    ∃ fault, RuleGroup.ofJson group.toRule.jsonText = .error (.notJson fault) ∧
      fault.flaw = .depth := by
  have twice := group.toRule.depth_toValue
  obtain ⟨fault, stopped, isDepth⟩ := Value.ofJson_eq_error group.toRule.spelling_toValue
    (by rw [depth] at deep; omega)
  exact ⟨fault, by simp only [RuleGroup.ofJson, stopped], isDepth⟩

theorem ofJson_jsonText_ne_ok {group : RuleGroup} (deep : 63 < group.depth) (other : RuleGroup) :
    RuleGroup.ofJson group.toRule.jsonText ≠ .ok other := by
  intro read
  obtain ⟨fault, stopped, _⟩ := ofJson_jsonText_eq_error deep
  rw [read] at stopped
  cases stopped

/-- A rule is read back from its canonical text exactly if its groups nest no deeper than half of
what JSON text may nest. A rule that nests deeper is refused for its depth before it is looked at
as a rule. -/
theorem ofJson_jsonText (group : RuleGroup) :
    (RuleGroup.ofJson group.toRule.jsonText = .ok group ↔ group.depth ≤ 63) ∧
      (63 < group.depth → ∃ fault,
        RuleGroup.ofJson group.toRule.jsonText = .error (.notJson fault) ∧
          fault.flaw = .depth) := by
  refine ⟨⟨fun read => ?_, ofJson_jsonText_eq_ok⟩, ofJson_jsonText_eq_error⟩
  by_contra deep
  exact ofJson_jsonText_ne_ok (Nat.lt_of_not_le deep) group read

/-- A rule within some groups of one kind, each the only child of the one around it. -/
def nestedIn (kind : Kind) (inner : Rule) : Nat → Rule
  | 0 => inner
  | around + 1 => .group kind (nestedIn kind inner around) []

theorem depth_nestedIn (kind : Kind) (inner : Rule) (around : Nat) :
    (nestedIn kind inner around).depth = around + inner.depth := by
  induction around with
  | zero => exact (Nat.zero_add _).symm
  | succ around ih =>
    rw [nestedIn, Rule.depth, Rule.depthOfAll, ih, Nat.max_zero]
    omega

/-- A literal within sixty-four groups is not read back. -/
theorem ofJson_jsonText_sixty_four_deep :
    ∃ group : RuleGroup,
      group.toRule = nestedIn ⟨.sequence, .required, .single⟩ (.literal ⟨"A", by decide⟩) 64 ∧
        RuleGroup.ofJson group.toRule.jsonText ≠ .ok group := by
  let group : RuleGroup := ⟨⟨.sequence, .required, .single⟩,
    nestedIn ⟨.sequence, .required, .single⟩ (.literal ⟨"A", by decide⟩) 63, []⟩
  have deep : group.depth = 64 := depth_nestedIn _ (.literal ⟨"A", by decide⟩) 64
  exact ⟨group, rfl, ofJson_jsonText_ne_ok (by omega) group⟩

end RuleGroup

end VoiceGrammar
