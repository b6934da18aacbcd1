import VoiceGrammar.Proofs.Text.Pieces
import VoiceGrammar.Text.Blank

/-!
# Words between blanks

Cutting a text at its blanks gives stretches without a blank, and putting such stretches together
with single spaces is undone by cutting again. What the words of a text are is therefore known as
soon as the text is put together from words.
-/

namespace VoiceGrammar.Text

/-! ## The first mark -/

section Mark

variable {p : Char → Bool} {before : List Char} {mark : Char}

theorem takeWhile_append_mark (behind : List Char) (inside : ∀ c ∈ before, p c = true)
    (outside : p mark = false) : (before ++ mark :: behind).takeWhile p = before := by
  rw [List.takeWhile_append_of_pos inside, List.takeWhile_cons_of_neg (by simp [outside]),
    List.append_nil]

theorem dropWhile_append_mark (behind : List Char) (inside : ∀ c ∈ before, p c = true)
    (outside : p mark = false) : (before ++ mark :: behind).dropWhile p = mark :: behind := by
  rw [List.dropWhile_append_of_pos inside, List.dropWhile_cons_of_neg (by simp [outside])]

theorem ne_mark_of_not_mem (unmarked : mark ∉ before) :
    ∀ c ∈ before, decide (c ≠ mark) = true := by
  intro c member
  have different : c ≠ mark := fun same => unmarked (same ▸ member)
  simpa using different

end Mark

/-! ## Words -/

/-- A stretch of a text that holds something and no blank. -/
structure IsUnbroken (text : List Char) : Prop where
  nonempty : text ≠ []
  noBlank : ∀ c ∈ text, isBlank c = false

theorem isBlank_space : isBlank ' ' = true := by
  decide

theorem isUnbroken_of_mem_splitWords {text word : List Char} (member : word ∈ splitWords text) :
    IsUnbroken word where
  nonempty := ne_nil_of_mem_splitWords member
  noBlank c inWord := (of_mem_splitOnP (List.mem_filter.1 member).1 c inWord).2

theorem splitWords_of_isUnbroken {word : List Char} (unbroken : IsUnbroken word) :
    splitWords word = [word] := by
  have whole := List.splitOnP_eq_singleton unbroken.noBlank
  simp [splitWords, whole, unbroken.nonempty]

theorem splitWords_append_blank (before after : List Char) {blank : Char}
    (isBlank : isBlank blank = true) :
    splitWords (before ++ blank :: after) = splitWords before ++ splitWords after := by
  rw [splitWords, List.splitOnP_append_cons _ _ isBlank, List.filter_append]
  rfl

theorem splitWords_intercalate {pieces : List (List Char)}
    (unbroken : ∀ piece ∈ pieces, IsUnbroken piece) :
    splitWords ([' '].intercalate pieces) = pieces := by
  induction pieces with
  | nil => decide
  | cons first rest inRest =>
    rw [List.forall_mem_cons] at unbroken
    have single := splitWords_of_isUnbroken unbroken.1
    cases rest with
    | nil => simpa using single
    | cons second rest =>
      rw [List.intercalate_cons_cons, List.append_assoc, List.singleton_append,
        splitWords_append_blank _ _ isBlank_space, single, inRest unbroken.2]
      rfl

/-- The only blanks among words put together with spaces are these spaces. -/
theorem eq_space_of_mem_intercalate {pieces : List (List Char)} {c : Char}
    (unbroken : ∀ piece ∈ pieces, IsUnbroken piece) (member : c ∈ [' '].intercalate pieces)
    (blank : isBlank c = true) : c = ' ' := by
  induction pieces with
  | nil => cases member
  | cons first rest inRest =>
    rw [List.forall_mem_cons] at unbroken
    have notFirst : c ∉ first := by
      intro inFirst
      have noBlank := unbroken.1.noBlank c inFirst
      rw [blank] at noBlank
      cases noBlank
    cases rest with
    | nil => exact absurd (by simpa using member) notFirst
    | cons second rest =>
      rw [List.intercalate_cons_cons, List.append_assoc, List.singleton_append, List.mem_append,
        List.mem_cons] at member
      rcases member with inFirst | isSpace | later
      · exact absurd inFirst notFirst
      · exact isSpace
      · exact inRest unbroken.2 later

theorem toList_intercalate_space (parts : List String) :
    (" ".intercalate parts).toList = [' '].intercalate (parts.map String.toList) := by
  have space : " ".toList = [' '] := by decide
  rw [String.toList_intercalate, space]

/-- The words of words put together with spaces are these words. -/
theorem words_intercalate {parts : List String}
    (unbroken : ∀ part ∈ parts, IsUnbroken part.toList) :
    words (" ".intercalate parts) = parts := by
  have cut : splitWords ([' '].intercalate (parts.map String.toList)) = parts.map String.toList :=
    splitWords_intercalate (by simpa using unbroken)
  rw [words, toList_intercalate_space, cut, List.map_map]
  simp

theorem isUnbroken_of_mem_words {text word : String} (member : word ∈ words text) :
    IsUnbroken word.toList := by
  obtain ⟨piece, isPiece, rfl⟩ := List.mem_map.1 member
  rw [String.toList_ofList]
  exact isUnbroken_of_mem_splitWords isPiece

/-- A text with a character that is no blank has a word. -/
theorem words_ne_nil {text : String} {c : Char} (member : c ∈ text.toList)
    (visible : isBlank c = false) : words text ≠ [] := by
  have pieces : ∀ text : List Char, c ∈ text → splitWords text ≠ [] := by
    intro text inText
    induction text with
    | nil => cases inText
    | cons d rest inRest =>
      cases blank : isBlank d with
      | true =>
        have later : c ∈ rest := by
          rcases List.mem_cons.1 inText with rfl | later
          · rw [visible] at blank
            cases blank
          · exact later
        have skipped := splitWords_append_blank [] rest blank
        rw [List.nil_append] at skipped
        rw [skipped]
        simp [inRest later]
      | false =>
        obtain ⟨first, more, cut⟩ := List.exists_cons_of_ne_nil (List.splitOnP_ne_nil isBlank rest)
        rw [splitWords, List.splitOnP_cons_eq_if_modifyHead, cut]
        simp [blank]
  intro none
  rw [words, List.map_eq_nil_iff] at none
  exact pieces _ member none

/-- Words put together with spaces end as their last word ends. -/
theorem isBlank_getLast?_intercalate {pieces : List (List Char)}
    (unbroken : ∀ piece ∈ pieces, IsUnbroken piece) {c : Char}
    (last : ([' '].intercalate pieces).getLast? = some c) : isBlank c = false := by
  induction pieces with
  | nil => cases last
  | cons first rest inRest =>
    rw [List.forall_mem_cons] at unbroken
    cases rest with
    | nil =>
      have isLast : first.getLast? = some c := by simpa using last
      exact unbroken.1.noBlank c (List.mem_of_getLast? isLast)
    | cons second rest =>
      have later : ([' '].intercalate (second :: rest)).getLast? ≠ none := by
        have nonempty := (unbroken.2 second List.mem_cons_self).nonempty
        cases rest <;> simp [List.intercalate_cons_cons, nonempty]
      obtain ⟨d, isLast⟩ := Option.ne_none_iff_exists'.1 later
      rw [List.intercalate_cons_cons, List.append_assoc, List.singleton_append,
        List.getLast?_append, List.getLast?_cons, isLast] at last
      exact inRest unbroken.2 (isLast.trans (by simpa using last))

/-! ## Trimming -/

theorem trim_of_ends {text : List Char} (first : ∀ c, text.head? = some c → isBlank c = false)
    (last : ∀ c, text.getLast? = some c → isBlank c = false) : trim text = text := by
  have noneBefore : text.dropWhile isBlank = text := by
    cases text with
    | nil => rfl
    | cons c rest => rw [List.dropWhile_cons_of_neg (by simp [first c rfl])]
  have noneBehind : text.reverse.dropWhile isBlank = text.reverse := by
    cases backwards : text.reverse with
    | nil => rfl
    | cons c rest =>
      have isLast : text.getLast? = some c := by
        rw [← List.head?_reverse, backwards, List.head?_cons]
      rw [List.dropWhile_cons_of_neg (by simp [last c isLast])]
  rw [trim, noneBefore, noneBehind, List.reverse_reverse]

theorem isBlank_getLast?_trim {text : List Char} {c : Char}
    (last : (trim text).getLast? = some c) : isBlank c = false := by
  rw [trim, List.getLast?_reverse] at last
  have stopped := List.head?_dropWhile_not isBlank (text.dropWhile isBlank).reverse
  rw [last] at stopped
  simpa using stopped

end VoiceGrammar.Text
