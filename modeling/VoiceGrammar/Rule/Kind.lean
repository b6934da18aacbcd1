/-!
# Kinds of rules

A rule combines its children in one of two ways, may or may not be omitted, and may or may not
recur. The three choices are independent, so a kind is simply one choice on each axis, and its
keyword in a specification is put together from one part per axis.
-/

namespace VoiceGrammar

inductive Combination where
  /-- All children, in the order they are listed. -/
  | sequence
  /-- Exactly one child. -/
  | selection
  deriving DecidableEq, Repr

/-- Whether a rule may be left out of an utterance. -/
inductive Obligation where
  | required
  | optional
  deriving DecidableEq, Repr

/-- Whether what a rule says may recur. -/
inductive Repetition where
  | single
  /-- Any number of times for a sequence, one further choice for a selection. -/
  | repeatable
  deriving DecidableEq, Repr

/-- A kind of rule: one choice on each of the three axes. -/
structure Kind where
  combination : Combination
  obligation : Obligation
  repetition : Repetition
  deriving DecidableEq, Repr

namespace Kind

/-- The keyword that names the kind in a specification. -/
def key (kind : Kind) : String :=
  (match kind.combination with
    | .sequence => "This"
    | .selection => "OneOfThese") ++
  (match kind.obligation with
    | .required => "Will"
    | .optional => "Can") ++ "BeSaid" ++
  (match kind.repetition with
    | .single => "Once"
    | .repeatable => "WithOptionalRepetitions")

/-- All eight kinds: sequences first, and among these the kinds that do not recur. -/
def all : List Kind :=
  [⟨.sequence, .required, .single⟩, ⟨.sequence, .optional, .single⟩,
   ⟨.sequence, .required, .repeatable⟩, ⟨.sequence, .optional, .repeatable⟩,
   ⟨.selection, .required, .single⟩, ⟨.selection, .optional, .single⟩,
   ⟨.selection, .required, .repeatable⟩, ⟨.selection, .optional, .repeatable⟩]

/-- The kind that a keyword names; the keyword has to match letter for letter. -/
def ofKey? (key : String) : Option Kind :=
  all.find? (·.key == key)

/-- The eight keywords, each with the choices that it stands for. -/
theorem map_key_all :
    all.map (fun kind => (kind.key, kind)) =
      [("ThisWillBeSaidOnce", ⟨.sequence, .required, .single⟩),
       ("ThisCanBeSaidOnce", ⟨.sequence, .optional, .single⟩),
       ("ThisWillBeSaidWithOptionalRepetitions", ⟨.sequence, .required, .repeatable⟩),
       ("ThisCanBeSaidWithOptionalRepetitions", ⟨.sequence, .optional, .repeatable⟩),
       ("OneOfTheseWillBeSaidOnce", ⟨.selection, .required, .single⟩),
       ("OneOfTheseCanBeSaidOnce", ⟨.selection, .optional, .single⟩),
       ("OneOfTheseWillBeSaidWithOptionalRepetitions", ⟨.selection, .required, .repeatable⟩),
       ("OneOfTheseCanBeSaidWithOptionalRepetitions", ⟨.selection, .optional, .repeatable⟩)] :=
  rfl

theorem mem_all (kind : Kind) : kind ∈ all := by
  obtain ⟨combination, obligation, repetition⟩ := kind
  cases combination <;> cases obligation <;> cases repetition <;> decide

/-- What holds of the characters of all eight keywords holds of those of any keyword. -/
theorem forall_mem_key {p : Char → Bool}
    (holds : (all.all fun kind => kind.key.toList.all p) = true) (kind : Kind) :
    ∀ c ∈ kind.key.toList, p c = true :=
  List.all_eq_true.1 (List.all_eq_true.1 holds kind kind.mem_all)

/-- Every kind is found under its own keyword, so no two kinds share one. -/
theorem ofKey?_key (kind : Kind) : ofKey? kind.key = some kind := by
  obtain ⟨combination, obligation, repetition⟩ := kind
  cases combination <;> cases obligation <;> cases repetition <;> rfl

theorem key_of_ofKey? {key : String} {kind : Kind} (h : ofKey? key = some kind) :
    kind.key = key := by
  simpa using List.find?_some h

end Kind

end VoiceGrammar
