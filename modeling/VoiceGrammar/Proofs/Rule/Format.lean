import VoiceGrammar.Proofs.Rule.TokenWords
import VoiceGrammar.Rule.OfValue

/-!
# The rule format

Reading a specification value and writing a rule are inverse to each other: a written rule is read
back as it was, and what can be read is the written form of what it is read as. The values that can
be read are also described by themselves, without any rule.
-/

namespace VoiceGrammar

/-! ## Values in rule format -/

/-- The keywords of the eight kinds of rules. -/
def ruleKeys : List String :=
  ["ThisWillBeSaidOnce", "ThisCanBeSaidOnce", "ThisWillBeSaidWithOptionalRepetitions",
    "ThisCanBeSaidWithOptionalRepetitions", "OneOfTheseWillBeSaidOnce", "OneOfTheseCanBeSaidOnce",
    "OneOfTheseWillBeSaidWithOptionalRepetitions", "OneOfTheseCanBeSaidWithOptionalRepetitions"]

theorem mem_ruleKeys_iff {key : String} : key ∈ ruleKeys ↔ ∃ kind : Kind, kind.key = key := by
  have keys : ruleKeys = Kind.all.map Kind.key := by decide
  rw [keys, List.mem_map]
  constructor
  · rintro ⟨kind, _, isKey⟩
    exact ⟨kind, isKey⟩
  · rintro ⟨kind, isKey⟩
    exact ⟨kind, Kind.mem_all kind, isKey⟩

namespace Spec.Value

mutual

/-- A mapping with one entry, from a keyword to a list of elements that is not empty. -/
inductive IsRule : Value → Prop where
  | mapping {key : String} {items : List Value} :
      key ∈ ruleKeys → items ≠ [] → (∀ item ∈ items, IsElement item) →
      IsRule (.mapping [(key, .list items)])

/-- The text of a token, or a rule. -/
inductive IsElement : Value → Prop where
  | token (token : Token) : IsElement (.text token.text)
  | rule {value : Value} : IsRule value → IsElement value

end

end Spec.Value

open Spec (Value)

/-! ## Reading what was written -/

namespace RuleGroup

theorem elementOf_literal (here : List Step) (group : Except RuleFault RuleGroup) (token : Token) :
    elementOf here group (.text token.text) = .ok (.literal token) := by
  rw [elementOf, Token.ofTextAt, token.ofText_text]
  rfl

/-- An element that is a written rule is read as that rule. -/
def ReadsBack (rule : Rule) : Prop :=
  ∀ here, elementOf here (ofValueAt here rule.toValue) rule.toValue = .ok rule

theorem childrenAt_toValues {rules : List Rule} (readBack : ∀ rule ∈ rules, ReadsBack rule)
    (steps : List Step) (kind : Kind) (index : Nat) :
    childrenAt steps kind index (Rule.toValues rules) = .ok rules := by
  induction rules generalizing index with
  | nil => rw [Rule.toValues, childrenAt]
  | cons first rest inRest =>
    rw [List.forall_mem_cons] at readBack
    have readFirst := readBack.1 (steps ++ [⟨kind, index⟩])
    simp only [Rule.toValues, childrenAt, readFirst, inRest readBack.2]

theorem ofValueAt_toValue (steps : List Step) {group : RuleGroup}
    (readBack : ∀ child ∈ group.children, ReadsBack child) :
    ofValueAt steps group.toRule.toValue = .ok group := by
  have read := childrenAt_toValues readBack steps group.kind 0
  rw [children, Rule.toValues] at read
  simp only [toRule, Rule.toValue, ofValueAt, Kind.ofKey?_key, read, ofChildrenAt]

theorem readsBack (rule : Rule) : ReadsBack rule := by
  induction rule using Rule.induction with
  | literal token => exact fun here => elementOf_literal here _ token
  | group kind first rest inFirst inRest =>
    intro here
    have read := @ofValueAt_toValue here ⟨kind, first, rest⟩
      (List.forall_mem_cons.2 ⟨inFirst, inRest⟩)
    rw [toRule] at read
    rw [read]
    rfl

/-! ## Writing what was read -/

/-- What can be read is a mapping from the keyword of its kind to a list that its children were
read from. -/
theorem shape_of_ofValueAt {steps : List Step} {value : Value} {group : RuleGroup}
    (read : ofValueAt steps value = .ok group) :
    ∃ items, value = .mapping [(group.kind.key, .list items)] ∧
      childrenAt steps group.kind 0 items = .ok group.children := by
  rw [ofValueAt.eq_def] at read
  split at read
  · next key body =>
    split at read
    · cases read
    · next kind isKey =>
      split at read
      · next items =>
        split at read
        · cases read
        · next children readItems =>
          cases children with
          | nil => cases read
          | cons first rest =>
            cases read
            exact ⟨items, by rw [Kind.key_of_ofKey? isKey], readItems⟩
      · cases read
      · cases read
  all_goals cases read

theorem childrenAt_cons {steps : List Step} {kind : Kind} {index : Nat} {item : Value}
    {items : List Value} {children : List Rule}
    (read : childrenAt steps kind index (item :: items) = .ok children) :
    ∃ here child rest, children = child :: rest ∧
      elementOf here (ofValueAt here item) item = .ok child ∧
      childrenAt steps kind (index + 1) items = .ok rest := by
  rw [childrenAt] at read
  split at read
  · cases read
  · next child readItem =>
    split at read
    · cases read
    · next rest readItems =>
      cases read
      exact ⟨_, child, rest, rfl, readItem, readItems⟩

/-- An element is the text of a token or a value that a group was read from. -/
theorem shape_of_elementOf {here : List Step} {group : Except RuleFault RuleGroup}
    {value : Value} {rule : Rule} (read : elementOf here group value = .ok rule) :
    (∃ token, value = .text token.text ∧ rule = .literal token) ∨
      ∃ inner, group = .ok inner ∧ rule = inner.toRule := by
  cases value with
  | text content =>
    rw [elementOf, Token.ofTextAt] at read
    split at read
    · cases read
    · next token isToken =>
      cases read
      exact .inl ⟨token, by rw [Token.text_of_ofText isToken], rfl⟩
  | mapping entries =>
    cases group with
    | error fault => cases read
    | ok inner =>
      cases read
      exact .inr ⟨inner, rfl, rfl⟩
  | list items => cases read
  | scalar shown => cases read
  | null => cases read

/-- Every group that is read from the value is written as the value. -/
def WritesBack (value : Value) : Prop :=
  ∀ steps group, ofValueAt steps value = .ok group → value = group.toRule.toValue

theorem eq_toValues_of_childrenAt {steps : List Step} {kind : Kind} {index : Nat}
    {items : List Value} {children : List Rule} (writeBack : ∀ item ∈ items, WritesBack item)
    (read : childrenAt steps kind index items = .ok children) : items = Rule.toValues children := by
  induction items generalizing index children with
  | nil =>
    cases read
    rfl
  | cons item items inItems =>
    rw [List.forall_mem_cons] at writeBack
    -- The position of the first item goes into its errors only, and the next one counts on.
    obtain ⟨here, child, rest, rfl, readItem, readItems⟩ := childrenAt_cons read
    rw [Rule.toValues, ← inItems writeBack.2 readItems]
    obtain ⟨token, rfl, rfl⟩ | ⟨inner, readInner, rfl⟩ := shape_of_elementOf readItem
    · rfl
    · rw [← writeBack.1 here inner readInner]

theorem writesBack (value : Value) : WritesBack value := by
  induction value using Value.itemInduction with
  | step value inItems =>
    intro steps group read
    obtain ⟨items, rfl, readItems⟩ := shape_of_ofValueAt read
    rw [toRule, Rule.toValue, eq_toValues_of_childrenAt (inItems _ _ rfl) readItems]
    rfl

/-- A value is read as the rule whose written form it is, and as no other. -/
theorem ofValue_eq_ok_iff {value : Value} {group : RuleGroup} :
    ofValue value = .ok group ↔ value = group.toRule.toValue := by
  constructor
  · exact writesBack value [] group
  · rintro rfl
    exact ofValueAt_toValue [] fun child _ => readsBack child

end RuleGroup

/-! ## Values in rule format are written rules -/

theorem Rule.isElement_toValue (rule : Rule) : rule.toValue.IsElement := by
  induction rule using Rule.induction with
  | literal token => exact .token token
  | group kind first rest inFirst inRest =>
    refine .rule (.mapping (mem_ruleKeys_iff.2 ⟨kind, rfl⟩) (List.cons_ne_nil _ _) ?_)
    rw [toValues_eq, List.forall_mem_cons, List.forall_mem_map]
    exact ⟨inFirst, inRest⟩

theorem RuleGroup.isRule_toValue (group : RuleGroup) : group.toRule.toValue.IsRule := by
  cases group.toRule.isElement_toValue with
  | rule isRule => exact isRule

theorem exists_toValues {items : List Value}
    (written : ∀ item ∈ items, ∃ rule : Rule, item = rule.toValue) :
    ∃ rules, items = Rule.toValues rules := by
  induction items with
  | nil => exact ⟨[], rfl⟩
  | cons item items inItems =>
    rw [List.forall_mem_cons] at written
    obtain ⟨⟨rule, rfl⟩, writtenItems⟩ := written
    obtain ⟨rules, rfl⟩ := inItems writtenItems
    exact ⟨rule :: rules, rfl⟩

theorem Spec.Value.IsRule.exists_group {value : Value} (isRule : value.IsRule) :
    ∃ group : RuleGroup, value = group.toRule.toValue := by
  induction value using Value.itemInduction with
  | step value inItems =>
    cases isRule with
    | mapping isKey nonempty elements =>
      obtain ⟨kind, rfl⟩ := mem_ruleKeys_iff.1 isKey
      obtain ⟨rules, rfl⟩ := exists_toValues fun item member => by
        cases elements item member with
        | token token => exact ⟨.literal token, rfl⟩
        | rule isRule =>
          -- A rule in the list is an item of it, which the induction knows.
          obtain ⟨group, written⟩ := inItems _ _ rfl item member isRule
          exact ⟨group.toRule, written⟩
      cases rules with
      | nil => exact absurd rfl nonempty
      | cons first rest => exact ⟨⟨kind, first, rest⟩, rfl⟩

/-- Reading and writing are inverse to each other, what can be read is exactly what is in rule
format, and different values are never read as the same rule. -/
theorem ofValue_inverse_toValue :
    (∀ value group, RuleGroup.ofValue value = .ok group ↔ value = group.toRule.toValue) ∧
    (∀ value, (∃ group, RuleGroup.ofValue value = .ok group) ↔ value.IsRule) ∧
    ∀ value value' group, value ≠ value' → RuleGroup.ofValue value = .ok group →
      RuleGroup.ofValue value' ≠ .ok group := by
  refine ⟨fun value group => RuleGroup.ofValue_eq_ok_iff, fun value => ⟨?_, ?_⟩, ?_⟩
  · rintro ⟨group, read⟩
    rw [RuleGroup.ofValue_eq_ok_iff.1 read]
    exact group.isRule_toValue
  · intro isRule
    obtain ⟨group, written⟩ := isRule.exists_group
    exact ⟨group, RuleGroup.ofValue_eq_ok_iff.2 written⟩
  · -- Both would be the one written form of the group.
    intro value value' group different read read'
    rw [RuleGroup.ofValue_eq_ok_iff] at read read'
    exact different (read.trans read'.symm)

/-- Two keywords that differ in one part make different rules of the same list. -/
theorem ofValue_inverse_toValue_keywords :
    RuleGroup.ofValue (.mapping [("ThisWillBeSaidOnce", .list [.text "GO"])]) =
      .ok ⟨⟨.sequence, .required, .single⟩, .literal ⟨"GO", by decide⟩, []⟩ ∧
    RuleGroup.ofValue (.mapping [("ThisCanBeSaidOnce", .list [.text "GO"])]) ≠
      .ok ⟨⟨.sequence, .required, .single⟩, .literal ⟨"GO", by decide⟩, []⟩ := by
  have read : RuleGroup.ofValue (.mapping [("ThisWillBeSaidOnce", .list [.text "GO"])]) =
      .ok ⟨⟨.sequence, .required, .single⟩, .literal ⟨"GO", by decide⟩, []⟩ := by
    rfl
  exact ⟨read, ofValue_inverse_toValue.2.2 _ _ _ (by simp) read⟩

end VoiceGrammar
