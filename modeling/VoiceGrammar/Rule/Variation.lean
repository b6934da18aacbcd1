import VoiceGrammar.Rule.Tree

/-!
# Variations of rules

Two ways in which a rule may differ from another. Reordering permutes the children of selections,
at any depth. Relaxing lets a group be omitted or recur, or gives a selection one more child, at
one place in the rule.
-/

namespace VoiceGrammar.Rule

mutual

/-- Rules that differ only in the order of the children of selections. -/
inductive Reordered : Rule → Rule → Prop where
  | literal (token : Token) : Reordered (.literal token) (.literal token)
  /-- The children are reordered themselves. -/
  | group (kind : Kind) {first first' : Rule} {rest rest' : List Rule} :
      Reordered first first' → AllReordered rest rest' →
      Reordered (.group kind first rest) (.group kind first' rest')
  /-- The children of a selection change places. -/
  | selection {kind : Kind} {first first' : Rule} {rest rest' : List Rule} :
      kind.combination = .selection → List.Perm (first :: rest) (first' :: rest') →
      Reordered (.group kind first rest) (.group kind first' rest')
  | trans {rule rule' rule'' : Rule} :
      Reordered rule rule' → Reordered rule' rule'' → Reordered rule rule''

/-- Lists of rules that are reordered one by one. -/
inductive AllReordered : List Rule → List Rule → Prop where
  | nil : AllReordered [] []
  | cons {first first' : Rule} {rest rest' : List Rule} :
      Reordered first first' → AllReordered rest rest' →
      AllReordered (first :: rest) (first' :: rest')

end

/-- One change of the kind of a group that allows more. -/
inductive RelaxedKind : Kind → Kind → Prop where
  | omissible (combination : Combination) (repetition : Repetition) :
      RelaxedKind ⟨combination, .required, repetition⟩ ⟨combination, .optional, repetition⟩
  | repeatable (combination : Combination) (obligation : Obligation) :
      RelaxedKind ⟨combination, obligation, .single⟩ ⟨combination, obligation, .repeatable⟩

/-- One change at one place of a rule that allows more. -/
inductive Relaxed : Rule → Rule → Prop where
  | kind {kind kind' : Kind} (first : Rule) (rest : List Rule) :
      RelaxedKind kind kind' → Relaxed (.group kind first rest) (.group kind' first rest)
  /-- A selection gets a further child, before or behind any of its children. -/
  | child {kind : Kind} {first first' : Rule} {rest rest' before after : List Rule} {added : Rule} :
      kind.combination = .selection → first :: rest = before ++ after →
      first' :: rest' = before ++ added :: after →
      Relaxed (.group kind first rest) (.group kind first' rest')
  /-- The change is in one of the children. -/
  | inside (kind : Kind) {first first' child child' : Rule} {rest rest' before after : List Rule} :
      Relaxed child child' → first :: rest = before ++ child :: after →
      first' :: rest' = before ++ child' :: after →
      Relaxed (.group kind first rest) (.group kind first' rest')

end VoiceGrammar.Rule
