import VoiceGrammar.Proofs.Expansion.BodyGrammar
import VoiceGrammar.Proofs.Expansion.BodySymbols
import VoiceGrammar.Proofs.Expansion.Proper
import VoiceGrammar.Proofs.Rule.Meaning

/-!
# Rule bodies mean what their expansions mean

The text of an expansion reads as the expansion with its phrases cut into words, its nested
sequences joined and a choice with one item replaced by that item. Every operator is read around
exactly what it stands around, so that the reading has the language of the expansion.
-/

namespace VoiceGrammar

namespace Expansion

open Body

/-! ## The reading of an expansion -/

/-- What stands in brackets around an expansion that is spelled by these items: alternatives share
the brackets, and all else is a sequence. -/
def grouped : Expansion → List Expansion → Expansion
  | .alternatives _, [choice] => choice
  | _, items => .sequence items

mutual

/-- The items that an expansion is spelled by in a rule body. -/
def spelled : Expansion → List Expansion
  | .phrase token => token.wordTokens.map .phrase
  | .sequence items => spelledAll items
  | .alternatives items => [choose (spelledEach items)]
  | .optional body => [.optional (grouped body (spelled body))]
  | .oneOrMore body => [.oneOrMore (grouped body (spelled body))]
  | .zeroOrMore body => [.zeroOrMore (grouped body (spelled body))]

/-- The items of some expansions in sequence. -/
def spelledAll : List Expansion → List Expansion
  | [] => []
  | first :: rest => spelled first ++ spelledAll rest

/-- Some expansions, each of them as the sequence of its items. -/
def spelledEach : List Expansion → List Expansion
  | [] => []
  | first :: rest => .sequence (spelled first) :: spelledEach rest

end

theorem spelledAll_eq (items : List Expansion) : spelledAll items = items.flatMap spelled := by
  induction items with
  | nil => rfl
  | cons first rest inRest => simp [spelledAll, inRest]

theorem spelledEach_eq (items : List Expansion) :
    spelledEach items = (items.map spelled).map .sequence := by
  induction items with
  | nil => rfl
  | cons first rest inRest => simp [spelledEach, inRest]

/-- The expansion as its rule body reads. -/
def spelledOut (expansion : Expansion) : Expansion :=
  .sequence expansion.spelled

/-! ## Its language -/

theorem language_grouped (expansion : Expansion) (items : List Expansion) :
    (grouped expansion items).language = (items.map language).prod := by
  unfold grouped
  split
  · exact List.prod_singleton.symm
  · exact language_sequence items

theorem prod_singleton_words (words : List String) :
    (words.map fun word => ({[word]} : Language String)).prod = {words} := by
  induction words with
  | nil => rfl
  | cons first rest inRest =>
    rw [List.map_cons, List.prod_cons, inRest]
    exact Set.image2_singleton

theorem language_spelled_phrase (token : Token) :
    ((token.wordTokens.map .phrase).map language).prod = {token.words} := by
  have inWords : ∀ word ∈ token.wordTokens,
      language (.phrase word) = ({[word.text]} : Language String) := by
    intro word member
    rw [language_phrase, Token.words_of_isWord (Token.isWord_of_mem_wordTokens member)]
  rw [List.map_map, ← token.map_text_wordTokens, ← prod_singleton_words, List.map_map]
  exact congrArg List.prod (List.map_congr_left inWords)

/-- Spelling an expansion out does not change what it means. -/
theorem language_spelled (expansion : Expansion) :
    (expansion.spelled.map language).prod = expansion.language := by
  induction expansion using Expansion.induction with
  | phrase token => rw [spelled, language_spelled_phrase, language_phrase]
  | sequence items inItems =>
    rw [spelled, spelledAll_eq, language_sequence, prod_language_flatMap inItems]
  | alternatives items inItems =>
    rw [spelled, spelledEach_eq, List.map_singleton, List.prod_singleton, language_choose,
      language_alternatives, List.map_map, List.map_map]
    -- Every alternative is spelled as a sequence of its own, whose language is a product.
    refine congrArg List.sum (List.map_congr_left fun item member => ?_)
    exact (language_sequence _).trans (inItems item member)
  | optional body inBody =>
    rw [spelled, List.map_singleton, List.prod_singleton, language_optional, language_grouped,
      inBody, language_optional]
  | oneOrMore body inBody =>
    rw [spelled, List.map_singleton, List.prod_singleton, language_oneOrMore, language_grouped,
      inBody, language_oneOrMore]
  | zeroOrMore body inBody =>
    rw [spelled, List.map_singleton, List.prod_singleton, language_zeroOrMore, language_grouped,
      inBody, language_zeroOrMore]

theorem language_spelledOut (expansion : Expansion) :
    expansion.spelledOut.language = expansion.language := by
  rw [spelledOut, language_sequence, language_spelled]

/-! ## Its parse -/

/-- The alternatives that an expansion is spelled by inside brackets. -/
def branches : Expansion → List (List Expansion)
  | .alternatives items => items.map spelled
  | expansion => [expansion.spelled]

theorem content_branches (expansion : Expansion) :
    content expansion.branches = grouped expansion expansion.spelled := by
  cases expansion with
  | alternatives items => rw [branches, content, spelled, spelledEach_eq, grouped]
  | _ => rfl

theorem parses_words {words : List Token} :
    Parses (words.map fun word => .word word.text) [words.map .phrase] := by
  induction words with
  | nil => exact .nil
  | cons first rest inRest => exact .word first.ofText_text inRest

theorem parses_sequence {items : List Expansion}
    (parses : ∀ item ∈ items, Parses (symbols item.body) [item.spelled]) :
    Parses (symbols (bodies " " items)) [items.flatMap spelled] := by
  rw [symbols_bodies_blank]
  induction items with
  | nil => exact .nil
  | cons first rest inRest =>
    rw [List.forall_mem_cons] at parses
    exact parses.1.append (inRest parses.2)

theorem parses_alternatives {items : List Expansion} (nonempty : items ≠ [])
    (parses : ∀ item ∈ items, Parses (symbols item.body) [item.spelled]) :
    Parses (symbols (bodies " | " items)) (items.map spelled) := by
  induction items with
  | nil => exact absurd rfl nonempty
  | cons first rest inRest =>
    rw [List.forall_mem_cons] at parses
    cases rest with
    | nil => exact parses.1
    | cons second rest =>
      rw [symbols_bodies_bar]
      exact parses.1.append_bar (inRest (List.cons_ne_nil _ _) parses.2)

/-- A group with nothing behind it. -/
theorem parses_round {expansion : Expansion} (mark : Mark)
    (parses : Parses (symbols expansion.inside) expansion.branches) :
    Parses (symbols ("( " ++ expansion.inside ++ " " ++ mark.closing))
      [[mark.apply (grouped expansion expansion.spelled)]] := by
  rw [symbols_round, ← content_branches]
  exact .round mark parses .nil

/-- An expansion parses by itself if it does inside of brackets: where the two texts differ, the
difference is a pair of brackets. -/
theorem parses_body {expansion : Expansion}
    (parses : Parses (symbols expansion.inside) expansion.branches) :
    Parses (symbols expansion.body) [expansion.spelled] := by
  cases expansion with
  | alternatives items =>
    rw [body_alternatives]
    exact parses_round .once parses
  | _ => exact parses

/-- The text of an expansion without an empty choice parses as the items that spell it. -/
theorem parses_inside {expansion : Expansion} (sayable : expansion.IsSayable) :
    Parses (symbols expansion.inside) expansion.branches := by
  -- The fact about the inside goes through the induction and not the one about the whole text: only
  -- there a choice below an operator has no brackets of its own.
  induction sayable with
  | phrase token =>
    change Parses (symbols token.text) [token.wordTokens.map .phrase]
    rw [symbols_token, ← token.map_text_wordTokens, List.map_map]
    exact parses_words
  | @sequence items _ inItems =>
    change Parses (symbols (bodies " " items)) [spelledAll items]
    rw [spelledAll_eq]
    exact parses_sequence fun item member => parses_body (inItems item member)
  | alternatives nonempty _ inItems =>
    exact parses_alternatives nonempty fun item member => parses_body (inItems item member)
  | @optional inner _ inInner =>
    change Parses (symbols (body (.optional inner))) [[.optional (grouped inner inner.spelled)]]
    rw [body_optional, symbols_square, ← content_branches]
    exact .square inInner .nil
  | @oneOrMore inner _ inInner =>
    change Parses (symbols (body (.oneOrMore inner))) [[.oneOrMore (grouped inner inner.spelled)]]
    rw [body_oneOrMore]
    exact parses_round .oneOrMore inInner
  | @zeroOrMore inner _ inInner =>
    change Parses (symbols (body (.zeroOrMore inner))) [[.zeroOrMore (grouped inner inner.spelled)]]
    rw [body_zeroOrMore]
    exact parses_round .zeroOrMore inInner

/-- The text of an expansion without an empty choice reads as the expansion spelled out. -/
theorem IsSayable.reads {expansion : Expansion} (sayable : expansion.IsSayable) :
    Reads (symbols expansion.body) expansion.spelledOut :=
  ⟨_, parses_body (parses_inside sayable), rfl⟩

theorem IsSayable.isBalanced {expansion : Expansion} (sayable : expansion.IsSayable) :
    IsBalanced (symbols expansion.body) :=
  (parses_body (parses_inside sayable)).isBalanced

theorem ofBody?_eq_some_iff {text : String} {reading : Expansion} :
    ofBody? text = some reading ↔ Reads (symbols text) reading :=
  readSymbols_eq_some_iff

theorem accepts_spelledOut (expansion : Expansion) (utterance : String) :
    expansion.spelledOut.accepts utterance = expansion.accepts utterance := by
  rw [Bool.eq_iff_iff, accepts_iff, accepts_iff, language_spelledOut]

/-- A rule body without an empty choice has exactly one reading by the precedence of its symbols:
the expansion spelled out, with each operator around what it stands around. The reader finds it, its
brackets balance, and it accepts what the expansion accepts; so expansions with the same text accept
the same utterances. The expansions of rules hold no empty choice. -/
theorem body_reads_back :
    (∀ expansion : Expansion, expansion.IsSayable →
      (∀ reading, Reads (symbols expansion.body) reading ↔ reading = expansion.spelledOut) ∧
      ofBody? expansion.body = some expansion.spelledOut ∧
      IsBalanced (symbols expansion.body) ∧
      ∀ utterance, expansion.spelledOut.accepts utterance = expansion.accepts utterance) ∧
    (∀ expansion expansion' : Expansion, expansion.IsSayable → expansion'.IsSayable →
      expansion.body = expansion'.body →
      ∀ utterance, expansion.accepts utterance = expansion'.accepts utterance) ∧
    (∀ text reading, ofBody? text = some reading ↔ Reads (symbols text) reading) ∧
    ∀ rule : Rule, rule.expansion.IsSayable := by
  refine ⟨fun expansion sayable => ⟨fun reading => ⟨?_, ?_⟩, ?_, sayable.isBalanced, ?_⟩, ?_,
    fun text reading => ofBody?_eq_some_iff, fun rule => rule.isProper_expansion.isSayable⟩
  · exact fun reads => reads.unique sayable.reads
  · rintro rfl
    exact sayable.reads
  · exact ofBody?_eq_some_iff.2 sayable.reads
  · exact expansion.accepts_spelledOut
  · -- Equal texts have equal readings, and a reading accepts what its expansion accepts.
    intro expansion expansion' sayable sayable' same utterance
    have reads := sayable.reads
    rw [same] at reads
    rw [← accepts_spelledOut, reads.unique sayable'.reads, accepts_spelledOut]

/-- A repeated phrase is repeated as a whole, and a phrase accepts what its words in sequence do. -/
theorem body_reads_back_phrase :
    ofBody? "( GO LEFT )+" =
      some (.sequence [.oneOrMore
        (.sequence [.phrase ⟨"GO", by decide⟩, .phrase ⟨"LEFT", by decide⟩])]) ∧
    ∀ utterance, accepts (.phrase ⟨"GO LEFT", by decide⟩) utterance =
      accepts (.sequence [.phrase ⟨"GO", by decide⟩, .phrase ⟨"LEFT", by decide⟩]) utterance := by
  constructor
  · exact (body_reads_back.1 (.oneOrMore (.phrase ⟨"GO LEFT", by decide⟩))
      (.oneOrMore (.phrase _))).2.1
  · refine body_reads_back.2.1 _ _ (.phrase _) (.sequence ?_) (by decide)
    simp only [List.forall_mem_cons]
    exact ⟨.phrase _, .phrase _, List.forall_mem_nil _⟩

end Expansion

end VoiceGrammar
