import Mathlib.Data.Finset.Card
import Mathlib.Logic.Relation
import VoiceGrammar.Expansion.Matching
import VoiceGrammar.Proofs.Expansion.Language

/-!
# The matcher decides the language

Positions are related to word sequences by `Spans`: from one position to another the utterance says
something of a language. Concatenation of languages is then composition of relations and the star
is reflexive transitive closure, so the sets of positions of the matcher can be compared with the
languages of the expansion constructor by constructor. The one loop is the search for all positions
that a repeated body reaches; its invariant is `Explored`.
-/

namespace VoiceGrammar.Expansion

open Relation (ReflTransGen TransGen)
open scoped Computability

/-! ## Stretches of an utterance -/

/-- What `words` say from position `start` up to position `stop` belongs to the language. -/
def Spans (words : List String) (language : Language String) (start stop : Nat) : Prop :=
  ∃ said ∈ language, said <+: words.drop start ∧ stop = start + said.length

section Spans

variable {words : List String} {language language' : Language String} {start stop : Nat}

theorem Spans.start_le (spans : Spans words language start stop) : start ≤ stop := by
  obtain ⟨said, _, _, rfl⟩ := spans
  exact Nat.le_add_right start said.length

/-- Behind the last word there is nothing to say. -/
theorem Spans.inside (spans : Spans words language start stop) :
    stop = start ∨ start ≤ words.length ∧ stop ≤ words.length := by
  obtain ⟨said, _, fits, rfl⟩ := spans
  have := fits.length_le
  rw [List.length_drop] at this
  omega

theorem append_prefix_iff {first second text : List String} :
    first ++ second <+: text ↔ first <+: text ∧ second <+: text.drop first.length := by
  constructor
  · rintro ⟨rest, rfl⟩
    rw [List.append_assoc, List.drop_left]
    exact ⟨List.prefix_append _ _, List.prefix_append _ _⟩
  · rintro ⟨⟨tail, rfl⟩, fits⟩
    rw [List.drop_left] at fits
    exact (List.prefix_append_right_inj first).2 fits

theorem not_spans_zero : ¬ Spans words 0 start stop := by
  rintro ⟨_, inNone, _⟩
  exact inNone

theorem spans_one : Spans words 1 start stop ↔ stop = start := by
  constructor
  · rintro ⟨said, rfl, _, rfl⟩
    rfl
  · rintro rfl
    exact ⟨[], rfl, List.nil_prefix, rfl⟩

theorem spans_add :
    Spans words (language + language') start stop ↔
      Spans words language start stop ∨ Spans words language' start stop := by
  constructor
  · rintro ⟨said, inOne | inOther, fits⟩
    · exact .inl ⟨said, inOne, fits⟩
    · exact .inr ⟨said, inOther, fits⟩
  · rintro (⟨said, inOne, fits⟩ | ⟨said, inOther, fits⟩)
    · exact ⟨said, .inl inOne, fits⟩
    · exact ⟨said, .inr inOther, fits⟩

theorem spans_mul :
    Spans words (language * language') start stop ↔
      ∃ middle, Spans words language start middle ∧ Spans words language' middle stop := by
  constructor
  · rintro ⟨_, ⟨said, inFirst, further, inSecond, rfl⟩, fits, rfl⟩
    rw [append_prefix_iff, List.drop_drop] at fits
    refine ⟨start + said.length, ⟨said, inFirst, fits.1, rfl⟩, further, inSecond, fits.2, ?_⟩
    rw [List.length_append, Nat.add_assoc]
  · rintro ⟨_, ⟨said, inFirst, fits, rfl⟩, further, inSecond, fits', rfl⟩
    rw [← List.drop_drop] at fits'
    refine ⟨said ++ further, ⟨said, inFirst, further, inSecond, rfl⟩,
      append_prefix_iff.2 ⟨fits, fits'⟩, ?_⟩
    rw [List.length_append, Nat.add_assoc]

theorem spans_kstar :
    Spans words language∗ start stop ↔ ReflTransGen (Spans words language) start stop := by
  constructor
  · -- Each part of what is said is one step of the path, so the path starts where the part ends.
    rintro ⟨_, ⟨parts, rfl, inParts⟩, fits, rfl⟩
    induction parts generalizing start with
    | nil => exact .refl
    | cons part parts inLoop =>
      rw [List.forall_mem_cons] at inParts
      rw [List.flatten_cons, append_prefix_iff, List.drop_drop] at fits
      rw [List.flatten_cons, List.length_append, ← Nat.add_assoc]
      exact .head ⟨part, inParts.1, fits.1, rfl⟩ (inLoop inParts.2 fits.2)
  · intro path
    induction path using Relation.ReflTransGen.head_induction_on with
    | refl => exact ⟨[], Language.nil_mem_kstar _, List.nil_prefix, rfl⟩
    | head move _ inLoop =>
      rw [← Language.one_add_self_mul_kstar_eq_kstar]
      exact spans_add.2 (.inr (spans_mul.2 ⟨_, move, inLoop⟩))

theorem spans_mul_kstar :
    Spans words (language * language∗) start stop ↔
      TransGen (Spans words language) start stop := by
  rw [spans_mul, Relation.TransGen.head'_iff]
  simp only [spans_kstar]

end Spans

/-! ## The search of a repetition -/

section Search

variable {step : List Nat → List Nat} {size : Nat} {Moves : Nat → Nat → Prop}
variable {reached frontier fresh : List Nat} {rounds position stop : Nat}

/-- The step leads from a set of positions to what one move reaches from one of them. -/
def Follows (step : List Nat → List Nat) (Moves : Nat → Nat → Prop) : Prop :=
  ∀ starts stop, stop ∈ step starts ↔ ∃ start ∈ starts, Moves start stop

/-- A move to another position goes from one position of a text of `size` words to one of them. -/
def StaysInside (size : Nat) (Moves : Nat → Nat → Prop) : Prop :=
  ∀ start stop, Moves start stop → stop = start ∨ start ≤ size ∧ stop ≤ size

/-- What the search keeps: every reached position outside the frontier has all its moves explored,
and the frontier is part of what was reached. -/
structure Explored (Moves : Nat → Nat → Prop) (reached frontier : List Nat) : Prop where
  known : ∀ position ∈ frontier, position ∈ reached
  closed : ∀ position ∈ reached, position ∉ frontier →
    ∀ next, Moves position next → next ∈ reached

/-- The positions of a text of `size` words that are not reached yet. -/
def missing (size : Nat) (reached : List Nat) : Finset Nat :=
  Finset.range (size + 1) \ reached.toFinset

theorem card_missing_le : (missing size reached).card ≤ size + 1 := by
  have := Finset.card_le_card (Finset.sdiff_subset : missing size reached ⊆ _)
  rwa [Finset.card_range] at this

theorem card_missing_lt (bounded : position ≤ size) (isNew : position ∉ reached)
    (isFresh : position ∈ fresh) :
    (missing size (reached ++ fresh)).card < (missing size reached).card := by
  apply Finset.card_lt_card
  rw [Finset.ssubset_iff_of_subset]
  · refine ⟨position, ?_, ?_⟩
    · simp [missing, isNew, Nat.lt_succ_of_le bounded]
    · simp [missing, isFresh]
  · apply Finset.sdiff_subset_sdiff (Finset.Subset.refl _)
    intro position member
    rw [List.mem_toFinset] at member ⊢
    exact List.mem_append_left _ member

theorem mem_fresh :
    position ∈ (step frontier).filter (· ∉ reached) ↔
      position ∈ step frontier ∧ position ∉ reached := by
  simp

theorem Follows.nil (follows : Follows step Moves) : step [] = [] := by
  apply List.eq_nil_iff_forall_not_mem.2
  intro stop member
  obtain ⟨_, isStart, _⟩ := (follows [] stop).1 member
  cases isStart

/-- At the start nothing is explored, so everything reached is the frontier. -/
theorem explored_self (Moves : Nat → Nat → Prop) (reached : List Nat) :
    Explored Moves reached reached where
  known _ member := member
  closed _ member notMember := absurd member notMember

/-- One round explores the frontier and makes the new positions the next one. -/
theorem Explored.round (follows : Follows step Moves) (explored : Explored Moves reached frontier)
    (isFresh : (step frontier).filter (· ∉ reached) = fresh) :
    Explored Moves (reached ++ fresh) fresh := by
  subst isFresh
  constructor
  case known =>
    intro position member
    exact List.mem_append_right _ member
  case closed =>
    intro position member notFresh next move
    have old : position ∈ reached := (List.mem_append.1 member).resolve_right notFresh
    by_cases seen : next ∈ reached
    · exact List.mem_append_left _ seen
    · -- A move from what was reached leads to a new position only if it starts in the frontier.
      by_cases inFrontier : position ∈ frontier
      · have found := (follows frontier next).2 ⟨position, inFrontier, move⟩
        exact List.mem_append_right _ (mem_fresh.2 ⟨found, seen⟩)
      · exact absurd (explored.closed position old inFrontier next move) seen

/-- What is reachable after a round was reachable before: a new position is one move away from the
frontier. -/
theorem Explored.reachable_round (follows : Follows step Moves)
    (explored : Explored Moves reached frontier)
    (isFresh : (step frontier).filter (· ∉ reached) = fresh) :
    (∃ start ∈ reached ++ fresh, ReflTransGen Moves start stop) ↔
      ∃ start ∈ reached, ReflTransGen Moves start stop := by
  subst isFresh
  constructor
  · rintro ⟨start, member, path⟩
    rcases List.mem_append.1 member with member | member
    · exact ⟨start, member, path⟩
    · obtain ⟨origin, inFrontier, move⟩ := (follows frontier start).1 (mem_fresh.1 member).1
      exact ⟨origin, explored.known origin inFrontier, .head move path⟩
  · rintro ⟨start, member, path⟩
    exact ⟨start, List.mem_append_left _ member, path⟩

/-- Once a round finds nothing new, nothing further is reachable. -/
theorem Explored.mem_iff_reachable (follows : Follows step Moves)
    (explored : Explored Moves reached frontier)
    (none : (step frontier).filter (· ∉ reached) = []) :
    stop ∈ reached ↔ ∃ start ∈ reached, ReflTransGen Moves start stop := by
  have explored' := explored.round follows none
  rw [List.append_nil] at explored'
  constructor
  · exact fun member => ⟨stop, member, .refl⟩
  · rintro ⟨start, member, path⟩
    induction path with
    | refl => exact member
    | tail _ move inPath => exact explored'.closed _ inPath List.not_mem_nil _ move

/-- A new position lies in the text, and so does the one that it was found from. -/
theorem Explored.inside_of_mem_fresh (follows : Follows step Moves)
    (stays : StaysInside size Moves) (explored : Explored Moves reached frontier)
    (member : position ∈ (step frontier).filter (· ∉ reached)) :
    position ≤ size ∧ ∃ start ∈ reached, start ≤ size := by
  obtain ⟨found, isNew⟩ := mem_fresh.1 member
  obtain ⟨start, inFrontier, move⟩ := (follows frontier position).1 found
  have known := explored.known start inFrontier
  rcases stays start position move with rfl | ⟨startInside, inside⟩
  · exact absurd known isNew
  · exact ⟨inside, start, known, startInside⟩

/-- A round that finds something leaves less to find. -/
theorem Explored.card_missing_round (follows : Follows step Moves)
    (stays : StaysInside size Moves) (explored : Explored Moves reached frontier)
    (isFresh : (step frontier).filter (· ∉ reached) = fresh) (more : fresh ≠ []) :
    (missing size (reached ++ fresh)).card < (missing size reached).card := by
  obtain ⟨position, member⟩ := List.exists_mem_of_ne_nil fresh more
  have inFilter : position ∈ (step frontier).filter (· ∉ reached) := isFresh ▸ member
  exact card_missing_lt (explored.inside_of_mem_fresh follows stays inFilter).1
    (mem_fresh.1 inFilter).2 member

theorem closure_nil (step : List Nat → List Nat) (rounds : Nat) (reached : List Nat) :
    closure step rounds reached [] = reached := by
  cases rounds <;> simp [closure]

/-- A round that finds nothing new is the last one. -/
theorem closure_of_none (none : (step frontier).filter (· ∉ reached) = []) :
    closure step rounds reached frontier = reached := by
  cases rounds with
  | zero => rfl
  | succ rounds => simp only [closure, none, List.append_nil, closure_nil, ite_self]

theorem closure_succ (follows : Follows step Moves)
    (more : (step frontier).filter (· ∉ reached) ≠ []) :
    closure step (rounds + 1) reached frontier =
      closure step rounds (reached ++ (step frontier).filter (· ∉ reached))
        ((step frontier).filter (· ∉ reached)) := by
  have pending : frontier ≠ [] := by
    rintro rfl
    exact more (by simp [follows.nil])
  simp [closure, pending]

/-- The search finds exactly what is reachable, provided that it may run for as many rounds as there
are positions left to find. -/
theorem mem_closure (follows : Follows step Moves) (stays : StaysInside size Moves)
    (explored : Explored Moves reached frontier) (enough : (missing size reached).card ≤ rounds) :
    stop ∈ closure step rounds reached frontier ↔
      ∃ start ∈ reached, ReflTransGen Moves start stop := by
  induction rounds generalizing reached frontier with
  | zero =>
    have none : (step frontier).filter (· ∉ reached) = [] := by
      by_contra more
      have := explored.card_missing_round follows stays rfl more
      omega
    rw [closure_of_none none, explored.mem_iff_reachable follows none]
  | succ rounds inRounds =>
    by_cases none : (step frontier).filter (· ∉ reached) = []
    · rw [closure_of_none none, explored.mem_iff_reachable follows none]
    · have := explored.card_missing_round follows stays rfl none
      rw [closure_succ follows none, inRounds (explored.round follows rfl) (by omega),
        explored.reachable_round follows rfl]

/-- A repetition reaches what one or more moves reach. -/
theorem mem_closureFrom (follows : Follows step Moves) (stays : StaysInside size Moves)
    {starts : List Nat} :
    stop ∈ closureFrom step size starts ↔ ∃ start ∈ starts, TransGen Moves start stop := by
  rw [closureFrom, mem_closure follows stays (explored_self Moves _) card_missing_le]
  simp only [follows starts, Relation.TransGen.head'_iff]
  constructor
  · rintro ⟨middle, ⟨start, isStart, move⟩, path⟩
    exact ⟨start, isStart, middle, move, path⟩
  · rintro ⟨start, isStart, middle, move, path⟩
    exact ⟨middle, ⟨start, isStart, move⟩, path⟩

end Search

/-! ## The matcher -/

section Matcher

variable {words : List String} {starts : List Nat} {stop : Nat}

theorem mem_advancePhrase {phrase : List String} :
    stop ∈ advancePhrase phrase words starts ↔
      ∃ start ∈ starts, Spans words {phrase} start stop := by
  simp only [advancePhrase, List.mem_map, List.mem_filter, List.isPrefixOf_iff_prefix]
  constructor
  · rintro ⟨start, ⟨isStart, fits⟩, rfl⟩
    exact ⟨start, isStart, phrase, rfl, fits, rfl⟩
  · rintro ⟨start, isStart, _, rfl, fits, rfl⟩
    exact ⟨start, ⟨isStart, fits⟩, rfl⟩

theorem follows_advanceThrough {items : List Expansion}
    (inItems : ∀ item ∈ items, Follows (advance words item) (Spans words item.language)) :
    Follows (advanceThrough words items) (Spans words (items.map language).prod) := by
  induction items with
  | nil =>
    intro starts stop
    simp [advanceThrough, spans_one]
  | cons first rest inRest =>
    rw [List.forall_mem_cons] at inItems
    intro starts stop
    rw [advanceThrough, inRest inItems.2]
    simp only [inItems.1 starts, List.map_cons, List.prod_cons, spans_mul]
    constructor
    · rintro ⟨middle, ⟨start, isStart, spans⟩, spans'⟩
      exact ⟨start, isStart, middle, spans, spans'⟩
    · rintro ⟨start, isStart, middle, spans, spans'⟩
      exact ⟨middle, ⟨start, isStart, spans⟩, spans'⟩

theorem follows_advanceAny {items : List Expansion}
    (inItems : ∀ item ∈ items, Follows (advance words item) (Spans words item.language)) :
    Follows (advanceAny words items) (Spans words (items.map language).sum) := by
  induction items with
  | nil =>
    intro starts stop
    simp [advanceAny, not_spans_zero]
  | cons first rest inRest =>
    rw [List.forall_mem_cons] at inItems
    intro starts stop
    rw [advanceAny, mem_bothOf, inItems.1 starts, inRest inItems.2 starts]
    simp only [List.map_cons, List.sum_cons, spans_add, and_or_left, exists_or]

theorem staysInside_spans (words : List String) (language : Language String) :
    StaysInside words.length (Spans words language) :=
  fun _ _ => Spans.inside

/-- The positions that the matcher reaches are those up to which the words belong to the language
of the expansion. -/
theorem follows_advance (words : List String) (expansion : Expansion) :
    Follows (advance words expansion) (Spans words expansion.language) := by
  induction expansion using Expansion.induction with
  | phrase token =>
    intro starts stop
    rw [advance, language_phrase, mem_advancePhrase]
  | sequence items inItems =>
    intro starts stop
    rw [advance, language_sequence, follows_advanceThrough inItems starts]
  | alternatives items inItems =>
    intro starts stop
    rw [advance, language_alternatives, follows_advanceAny inItems starts]
  | optional body inBody =>
    intro starts stop
    rw [advance, mem_bothOf, inBody starts, language_optional]
    simp only [spans_add, spans_one, and_or_left, exists_or, exists_eq_right']
  | oneOrMore body inBody =>
    intro starts stop
    rw [advance, mem_closureFrom inBody (staysInside_spans words _), language_oneOrMore]
    simp only [spans_mul_kstar]
  | zeroOrMore body inBody =>
    intro starts stop
    -- The matcher keeps the starts and adds what one or more rounds reach: `1 + L * L∗ = L∗`.
    rw [advance, mem_bothOf, mem_closureFrom inBody (staysInside_spans words _),
      language_zeroOrMore, ← Language.one_add_self_mul_kstar_eq_kstar]
    simp only [spans_add, spans_one, spans_mul_kstar, and_or_left, exists_or, exists_eq_right']

/-- A language spans all words from the first position to the last exactly when they belong to
it. -/
theorem spans_all {words : List String} {language : Language String} :
    Spans words language 0 words.length ↔ words ∈ language := by
  constructor
  · rintro ⟨said, inLanguage, fits, all⟩
    rw [List.drop_zero] at fits
    rw [Nat.zero_add] at all
    exact fits.eq_of_length all.symm ▸ inLanguage
  · intro inLanguage
    exact ⟨words, inLanguage, List.prefix_rfl, (Nat.zero_add _).symm⟩

/-- The matcher accepts the words of the language of the expansion and no others. -/
theorem acceptsWords_iff {expansion : Expansion} {words : List String} :
    expansion.acceptsWords words = true ↔ words ∈ expansion.language := by
  rw [acceptsWords, decide_eq_true_iff, follows_advance words expansion [0]]
  simp only [List.mem_singleton, exists_eq_left, spans_all]

theorem accepts_iff {expansion : Expansion} {utterance : String} :
    expansion.accepts utterance = true ↔ Text.words utterance ∈ expansion.language :=
  acceptsWords_iff

/-- An utterance is accepted exactly when the expansion derives its words. -/
theorem accepts_iff_derives (expansion : Expansion) (utterance : String) :
    expansion.accepts utterance = true ↔ expansion.Derives (Text.words utterance) := by
  rw [accepts_iff, mem_language]

/-- Of a loop in a loop, half a phrase is no round. -/
example : accepts (.oneOrMore (.zeroOrMore (.phrase ⟨"GO LEFT", by decide⟩))) "GO LEFT GO" =
    false := by
  decide +kernel

end Matcher

end VoiceGrammar.Expansion
