import VoiceGrammar.Proofs.Rule.Format
import VoiceGrammar.Proofs.Rule.Places
import VoiceGrammar.Rule.FaultList

/-!
# The first fault of a value

Reading stops at the first fault in the order of the document, and every fault that could be found
is charged to the place where it is. What a fault says of the value at its place is stated apart
from both readings, so that it can be held against the value alone.
-/

namespace VoiceGrammar

open Spec (Value)

/-- What a fault says of the value that is found at its place. -/
inductive RuleFault.Describes : RuleFault → Value → Prop where
  | notMapping {steps : List Step} {found : Value} :
      (∀ entries, found ≠ .mapping entries) →
      Describes (.malformedKey (.element steps) (.notMapping found)) found
  | noEntry (steps : List Step) :
      Describes (.malformedKey (.element steps) .noEntry) (.mapping [])
  /-- The first key that repeats an earlier one: no two keys before it are equal. -/
  | duplicateKey {steps : List Step} {entries : List (String × Value)} {before after : List String}
      {key : String} :
      entries.map Prod.fst = before ++ key :: after → before.Nodup → key ∈ before →
      Describes (.malformedKey (.element steps) (.duplicateKey key)) (.mapping entries)
  | severalKeys {steps : List Step} {entries : List (String × Value)} :
      2 ≤ entries.length → (entries.map Prod.fst).Nodup →
      Describes (.malformedKey (.element steps) (.severalKeys (entries.map Prod.fst)))
        (.mapping entries)
  | unknownKey {steps : List Step} {key : String} {body : Value} :
      key ∉ ruleKeys →
      Describes (.malformedKey (.element steps) (.unknownKey key)) (.mapping [(key, body)])
  | absentBody (steps : List Step) (kind : Kind) :
      Describes (.emptyBody (.body steps kind) kind) .null
  | emptyBody (steps : List Step) (kind : Kind) :
      Describes (.emptyBody (.body steps kind) kind) (.list [])
  /-- A body that is there and no list. -/
  | unexpectedBody {steps : List Step} {kind : Kind} {found : Value} :
      found ≠ .null → (∀ items, found ≠ .list items) →
      Describes (.unexpected (.body steps kind) found) found
  /-- An element that is neither a text nor a mapping. -/
  | unexpectedElement {steps : List Step} {found : Value} :
      (∀ content, found ≠ .text content) → (∀ entries, found ≠ .mapping entries) →
      Describes (.unexpected (.element steps) found) found
  | badToken {steps : List Step} {content : String} {flaw : TokenFlaw} :
      Token.ofText content = .error flaw →
      Describes (.badToken (.element steps) content flaw) (.text content)

/-! ## Keys -/

/-- The first repeated key, among keys that stand behind `seen`. -/
theorem firstRepeat?_eq_some {seen keys : List String} {key : String} (distinct : seen.Nodup)
    (found : firstRepeat? seen keys = some key) :
    ∃ before after, keys = before ++ key :: after ∧ (before.reverse ++ seen).Nodup ∧
      key ∈ before.reverse ++ seen := by
  induction keys generalizing seen with
  | nil => cases found
  | cons first rest inRest =>
    rw [firstRepeat?] at found
    split at found
    · next known =>
      cases found
      exact ⟨[], rest, rfl, distinct, known⟩
    · next fresh =>
      obtain ⟨before, after, rfl, distinct', repeated⟩ :=
        inRest (List.nodup_cons.2 ⟨fresh, distinct⟩) found
      refine ⟨first :: before, after, rfl, ?_, ?_⟩
      · simpa using distinct'
      · simpa using repeated

theorem firstRepeat?_eq_none {seen keys : List String} (distinct : seen.Nodup)
    (notFound : firstRepeat? seen keys = none) : (keys.reverse ++ seen).Nodup := by
  induction keys generalizing seen with
  | nil => exact distinct
  | cons first rest inRest =>
    rw [firstRepeat?] at notFound
    split at notFound
    · cases notFound
    · next fresh =>
      simpa using inRest (List.nodup_cons.2 ⟨fresh, distinct⟩) notFound

theorem describes_extraKeys (steps : List Step) {entries : List (String × Value)}
    (several : 2 ≤ entries.length) :
    (RuleFault.malformedKey (.element steps) (extraKeys (entries.map Prod.fst))).Describes
      (.mapping entries) := by
  rw [extraKeys]
  split
  · next key found =>
    obtain ⟨before, after, keys, distinct, repeated⟩ := firstRepeat?_eq_some List.nodup_nil found
    rw [List.append_nil] at distinct repeated
    exact .duplicateKey keys ((List.reverse_perm before).nodup_iff.1 distinct)
      (List.mem_reverse.1 repeated)
  · next notFound =>
    have distinct := firstRepeat?_eq_none List.nodup_nil notFound
    rw [List.append_nil, (List.reverse_perm _).nodup_iff] at distinct
    exact .severalKeys several distinct

/-! ## Elements -/

/-- The faults of an element. -/
def ownFaults (here : List Step) : Value → List RuleFault
  | .text content =>
    ((tokenFlaw? content.toList).map (RuleFault.badToken (.element here) content)).toList
  | .mapping entries => ruleFaults here (.mapping entries)
  | found => [.unexpected (.element here) found]

theorem elementFaults_cons (steps : List Step) (kind : Kind) (index : Nat) (item : Value)
    (items : List Value) :
    elementFaults steps kind index (item :: items) =
      ownFaults (steps ++ [⟨kind, index⟩]) item ++ elementFaults steps kind (index + 1) items := by
  cases item <;> simp only [elementFaults, ownFaults]

theorem elementFaults_eq (steps : List Step) (kind : Kind) (index : Nat) (items : List Value) :
    elementFaults steps kind index items =
      (items.zipIdx index).flatMap fun (item, i) => ownFaults (steps ++ [⟨kind, i⟩]) item := by
  induction items generalizing index with
  | nil => rfl
  | cons item items inItems => rw [elementFaults_cons, inItems, List.zipIdx_cons, List.flatMap_cons]

theorem mem_elementFaults {steps : List Step} {kind : Kind} {items : List Value}
    {fault : RuleFault} : fault ∈ elementFaults steps kind 0 items ↔
      ∃ index item, items[index]? = some item ∧
        fault ∈ ownFaults (steps ++ [⟨kind, index⟩]) item := by
  rw [elementFaults_eq, List.mem_flatMap]
  simp only [Prod.exists, List.mk_mem_zipIdx_iff_getElem?]
  exact exists_comm

/-! ## Reading stops at the first fault -/

/-- The result is the first of the faults, and there is a result only without any. -/
def StopsAt {α : Type} (result : Except RuleFault α) (faults : List RuleFault) : Prop :=
  match result with
  | .ok _ => faults = []
  | .error fault => faults.head? = some fault

theorem StopsAt.map {α β : Type} {result : Except RuleFault α} {faults : List RuleFault}
    (stops : StopsAt result faults) (f : α → β) : StopsAt (result.map f) faults := by
  cases result with
  | error fault => exact stops
  | ok found => exact stops

theorem StopsAt.eq_error_iff {α : Type} {result : Except RuleFault α} {faults : List RuleFault}
    (stops : StopsAt result faults) (fault : RuleFault) :
    result = .error fault ↔ faults.head? = some fault := by
  cases result with
  | error found =>
    rw [show faults.head? = some found from stops, Except.error.injEq, Option.some.injEq]
  | ok found =>
    rw [show faults = [] from stops]
    simp

/-- What comes second is looked at only when the first has no fault. -/
theorem StopsAt.andThen {α β : Type} {result : Except RuleFault α}
    {next : α → Except RuleFault β} {faults faults' : List RuleFault}
    (stops : StopsAt result faults)
    (stopsNext : ∀ found, result = .ok found → StopsAt (next found) faults') :
    StopsAt (result.bind next) (faults ++ faults') := by
  cases result with
  | error fault =>
    change (faults ++ faults').head? = some fault
    rw [List.head?_append, show faults.head? = some fault from stops, Option.some_or]
  | ok found =>
    rw [show faults = [] from stops, List.nil_append]
    exact stopsNext found rfl

namespace RuleGroup

theorem stopsAt_ofTextAt (here : List Step) (content : String) :
    StopsAt (Token.ofTextAt (.element here) content) (ownFaults here (.text content)) := by
  rw [Token.ofTextAt, ownFaults]
  cases read : Token.ofText content with
  | error flaw =>
    rw [Token.ofText_eq_error_iff.1 read]
    rfl
  | ok token =>
    have flawless := token.flawless
    rw [Token.text_of_ofText read] at flawless
    rw [flawless]
    rfl

theorem stopsAt_elementOf {item : Value}
    (stops : ∀ steps, StopsAt (ofValueAt steps item) (ruleFaults steps item)) (here : List Step) :
    StopsAt (elementOf here (ofValueAt here item) item) (ownFaults here item) := by
  cases item with
  | text content => exact (stopsAt_ofTextAt here content).map Rule.literal
  | mapping entries => exact (stops here).map toRule
  | list items => rfl
  | scalar shown => rfl
  | null => rfl

theorem childrenAt_cons_eq (steps : List Step) (kind : Kind) (index : Nat) (item : Value)
    (items : List Value) :
    childrenAt steps kind index (item :: items) =
      (elementOf (steps ++ [⟨kind, index⟩]) (ofValueAt (steps ++ [⟨kind, index⟩]) item) item).bind
        fun child => (childrenAt steps kind (index + 1) items).map (child :: ·) := by
  rw [childrenAt]
  cases elementOf _ _ item with
  | error fault => rfl
  | ok child => cases childrenAt steps kind (index + 1) items <;> rfl

theorem ofValueAt_list (steps : List Step) (kind : Kind) (items : List Value) :
    ofValueAt steps (.mapping [(kind.key, .list items)]) =
      (childrenAt steps kind 0 items).bind (ofChildrenAt (.body steps kind) kind) := by
  rw [ofValueAt, Kind.ofKey?_key]
  dsimp only
  cases childrenAt steps kind 0 items <;> rfl

theorem ruleFaults_list (steps : List Step) (kind : Kind) (items : List Value) :
    ruleFaults steps (.mapping [(kind.key, .list items)]) =
      elementFaults steps kind 0 items ++
        if items.isEmpty then [.emptyBody (.body steps kind) kind] else [] := by
  rw [ruleFaults, Kind.ofKey?_key]

theorem stopsAt_childrenAt {items : List Value}
    (stops : ∀ item ∈ items, ∀ steps, StopsAt (ofValueAt steps item) (ruleFaults steps item))
    (steps : List Step) (kind : Kind) (index : Nat) :
    StopsAt (childrenAt steps kind index items) (elementFaults steps kind index items) := by
  induction items generalizing index with
  | nil =>
    rw [childrenAt, elementFaults]
    rfl
  | cons item items inItems =>
    rw [List.forall_mem_cons] at stops
    have own := stopsAt_elementOf stops.1 (steps ++ [⟨kind, index⟩])
    have others := inItems stops.2 (index + 1)
    rw [childrenAt_cons_eq, elementFaults_cons]
    exact own.andThen fun child _ => others.map (child :: ·)

theorem stopsAt_ofValueAt (value : Value) :
    ∀ steps, StopsAt (ofValueAt steps value) (ruleFaults steps value) := by
  induction value using Value.itemInduction with
  | step value inItems =>
    intro steps
    cases value with
    | text content => rfl
    | list items => rfl
    | scalar shown => rfl
    | null => rfl
    | mapping entries =>
      match entries with
      | [] => rfl
      | first :: second :: rest => rfl
      | [(key, body)] =>
        cases isKey : Kind.ofKey? key with
        | none =>
          rw [ofValueAt, ruleFaults, isKey]
          rfl
        | some kind =>
          obtain rfl := Kind.key_of_ofKey? isKey
          cases body with
          | list items =>
            rw [ofValueAt_list, ruleFaults_list]
            refine (stopsAt_childrenAt (inItems _ items rfl) steps kind 0).andThen ?_
            intro children read
            cases items with
            | nil =>
              rw [childrenAt] at read
              cases read
              rfl
            | cons item items =>
              obtain ⟨_, child, rest, rfl, -, -⟩ := childrenAt_cons read
              rfl
          | _ =>
            rw [ofValueAt, ruleFaults, isKey]
            rfl

end RuleGroup

/-! ## Faults are where they are said to be -/

namespace Spec.Value

theorem follow?_cons (step : Step) (steps : List Step) (value : Value) :
    value.follow? (step :: steps) = (value.follow? [step]).bind (follow? steps) := by
  rw [follow?, follow?]
  cases value.bodyOf? step.kind with
  | none => rfl
  | some body =>
    cases body with
    | list items => dsimp only; cases items[step.index]? <;> rfl
    | _ => rfl

theorem follow?_append (steps more : List Step) (value : Value) :
    value.follow? (steps ++ more) = (value.follow? steps).bind (follow? more) := by
  induction steps generalizing value with
  | nil => rfl
  | cons step steps inSteps =>
    rw [List.cons_append, follow?_cons, follow?_cons step steps, Option.bind_assoc]
    exact congrArg _ (funext inSteps)

theorem bodyOf?_mapping (kind : Kind) (body : Value) :
    (mapping [(kind.key, body)]).bodyOf? kind = some body := by
  rw [bodyOf?, if_pos rfl]

/-- One step further than a mapping lies an element of its body. -/
theorem follow?_element {whole : Value} {steps : List Step} {kind : Kind} {items : List Value}
    (reached : whole.follow? steps = some (.mapping [(kind.key, .list items)])) {index : Nat}
    {item : Value} (isItem : items[index]? = some item) :
    whole.follow? (steps ++ [⟨kind, index⟩]) = some item := by
  rw [follow?_append, reached, Option.bind_some, follow?, bodyOf?_mapping]
  simp only [isItem, follow?]

theorem at?_body {whole : Value} {steps : List Step} {kind : Kind} {body : Value}
    (reached : whole.follow? steps = some (.mapping [(kind.key, body)])) :
    whole.at? (.body steps kind) = some body := by
  rw [at?, reached, Option.bind_some, bodyOf?_mapping]

end Spec.Value

open Spec.Value (follow?_element at?_body)

/-- Every one of the faults is found by its place in the whole, and is what it says. -/
def Charged (whole : Value) (faults : List RuleFault) : Prop :=
  ∀ fault ∈ faults, ∃ found, whole.at? fault.place = some found ∧ fault.Describes found

theorem charged_singleton {whole found : Value} {fault : RuleFault}
    (reached : whole.at? fault.place = some found) (describes : fault.Describes found) :
    Charged whole [fault] := by
  intro fault' member
  obtain rfl := List.mem_singleton.1 member
  exact ⟨found, reached, describes⟩

theorem charged_ownFaults {whole item : Value} {here : List Step}
    (reached : whole.follow? here = some item)
    (inside : Charged whole (ruleFaults here item)) : Charged whole (ownFaults here item) := by
  cases item with
  | text content =>
    intro fault member
    obtain ⟨flaw, isFlaw, rfl⟩ := Option.map_eq_some_iff.1 (Option.mem_toList.1 member)
    exact ⟨.text content, reached, .badToken (Token.ofText_eq_error_iff.2 isFlaw)⟩
  | mapping entries => exact inside
  | list items => exact charged_singleton reached (.unexpectedElement (by simp) (by simp))
  | scalar shown => exact charged_singleton reached (.unexpectedElement (by simp) (by simp))
  | null => exact charged_singleton reached (.unexpectedElement (by simp) (by simp))

theorem charged_ruleFaults (whole value : Value) :
    ∀ steps, whole.follow? steps = some value → Charged whole (ruleFaults steps value) := by
  induction value using Value.itemInduction with
  | step value inItems =>
    intro steps reached
    cases value with
    | text content => exact charged_singleton reached (.notMapping (by simp))
    | list items => exact charged_singleton reached (.notMapping (by simp))
    | scalar shown => exact charged_singleton reached (.notMapping (by simp))
    | null => exact charged_singleton reached (.notMapping (by simp))
    | mapping entries =>
      match entries with
      | [] => exact charged_singleton reached (.noEntry steps)
      | first :: second :: rest =>
        exact charged_singleton reached (describes_extraKeys steps (by simp))
      | [(key, body)] =>
        cases isKey : Kind.ofKey? key with
        | none =>
          rw [ruleFaults, isKey]
          refine charged_singleton reached (.unknownKey fun isRuleKey => ?_)
          obtain ⟨kind, rfl⟩ := mem_ruleKeys_iff.1 isRuleKey
          rw [Kind.ofKey?_key] at isKey
          cases isKey
        | some kind =>
          obtain rfl := Kind.key_of_ofKey? isKey
          have inBody := at?_body reached
          cases body with
          | list items =>
            rw [RuleGroup.ruleFaults_list]
            intro fault member
            rcases List.mem_append.1 member with member | member
            · obtain ⟨index, item, isItem, member⟩ := mem_elementFaults.1 member
              have reachedItem := follow?_element reached isItem
              exact charged_ownFaults reachedItem
                (inItems _ items rfl item (List.mem_of_getElem? isItem) _ reachedItem) fault member
            · cases items with
              | nil => exact charged_singleton inBody (.emptyBody steps kind) fault member
              | cons item items => cases member
          | null =>
            rw [ruleFaults, isKey]
            exact charged_singleton inBody (.absentBody steps kind)
          | _ =>
            rw [ruleFaults, isKey]
            exact charged_singleton inBody (.unexpectedBody (by simp) (by simp))

namespace RuleGroup

/-- Reading gives the first fault of the value, if it has any. Every fault is charged to a place
whose text leads back to what is at fault, and no two places have the same text. -/
theorem ofValue_reports_first_fault (value : Value) :
    (∀ fault, ofValue value = .error fault ↔ (ruleFaults [] value).head? = some fault) ∧
    ((∃ fault, ofValue value = .error fault) ↔ ruleFaults [] value ≠ []) ∧
    (∀ fault ∈ ruleFaults [] value, ∃ found,
      (Place.ofText? fault.place.text).bind value.at? = some found ∧ fault.Describes found) ∧
    Function.Injective Place.text := by
  have first : ∀ fault, ofValue value = .error fault ↔ (ruleFaults [] value).head? = some fault :=
    (stopsAt_ofValueAt value []).eq_error_iff
  refine ⟨first, ?_, ?_, Place.text_injective⟩
  · rw [exists_congr first]
    cases ruleFaults [] value <;> simp
  · intro fault member
    obtain ⟨found, reached, describes⟩ := charged_ruleFaults value value [] rfl fault member
    rw [Place.ofText?_text]
    exact ⟨found, reached, describes⟩

end RuleGroup

end VoiceGrammar
