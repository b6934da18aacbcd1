import Mathlib.Data.List.Forall2
import Mathlib.Data.List.TakeWhile
import VoiceGrammar.Lexicon.LineFormat
import VoiceGrammar.Proofs.Lexicon.LookupLines

/-!
# The reader of lines keeps to the format

A line is read as what the format says of it, and as nothing else. The word of an entry is cut off
at the first blank and searched from behind for a number in brackets: what the search finds is a
mark, and every mark is found. So the format gives a line one reading at most.
-/

namespace VoiceGrammar.LookupLine

/-! ## Words and their marks -/

theorem stripMarker_of_marked {written word : List Char} (marked : Marked written word) :
    stripMarker written = word := by
  obtain ⟨digits, nonempty, numbered, allDigits, rfl⟩ := marked
  exact stripMarker_marked nonempty numbered allDigits

theorem stripMarker_cases (written : List Char) :
    stripMarker written = written ∨ Marked written (stripMarker written) := by
  rw [stripMarker]
  split
  · next behind backwards =>
    split
    · next digit digits last base isDigits isBase =>
      have cut := List.takeWhile_append_dropWhile (p := Text.isDigit) (l := behind)
      rw [isDigits, isBase] at cut
      have allDigits : ∀ c ∈ (digit :: digits).reverse, Text.isDigit c = true := by
        intro c member
        rw [List.mem_reverse, ← isDigits] at member
        exact List.mem_takeWhile_imp member
      refine .inr ⟨_, by simp, by simp, allDigits, ?_⟩
      rw [← List.reverse_reverse written, backwards, ← cut]
      simp
    · exact .inl rfl
  · exact .inl rfl

theorem means_iff {written word : List Char} :
    Means written word ↔ stripMarker written = word := by
  constructor
  · intro means
    cases means with
    | marked marked => exact stripMarker_of_marked marked
    | bare unmarked => exact (stripMarker_cases written).resolve_right (unmarked _)
  · rintro rfl
    by_cases marked : ∃ word, Marked written word
    · obtain ⟨word, marked⟩ := marked
      rw [stripMarker_of_marked marked]
      exact .marked marked
    · rw [not_exists] at marked
      rw [(stripMarker_cases written).resolve_right (marked _)]
      exact .bare marked

/-! ## Lines -/

section Line

variable {line written phones : List Char} {blank : Char}

theorem isComment_trim_iff : isComment (Text.trim line) = true ↔ IsIdle line := by
  simp only [isComment, IsIdle, Bool.or_eq_true, List.isEmpty_iff, List.isPrefixOf_iff_prefix,
    or_assoc]

theorem ofText_of_isIdle (idle : IsIdle line) : ofText line = .nothing := by
  rw [ofText]
  exact if_pos (isComment_trim_iff.2 idle)

theorem ofText_of_not_isSound (faulty : ¬ IsSound line) :
    ofText line = .noPhones (String.ofList (Text.trim line)) := by
  rw [IsSound, not_or, ← isComment_trim_iff] at faulty
  have noBlank : ∀ c ∈ Text.trim line, (!Text.isBlank c) = true := by
    simpa using faulty.2
  have noneBehind : (Text.trim line).dropWhile (!Text.isBlank ·) = [] := by
    rw [← List.append_nil (Text.trim line), List.dropWhile_append_of_pos noBlank,
      List.dropWhile_nil]
  simp only [ofText, if_neg faulty.1, noneBehind]

theorem ofText_of_cut (busy : ¬ IsIdle line) (cut : Text.trim line = written ++ blank :: phones)
    (noBlank : ∀ c ∈ written, Text.isBlank c = false) (isBlank : Text.isBlank blank = true) :
    ofText line = .entry (String.ofList (stripMarker written)) (String.ofList phones) := by
  rw [← isComment_trim_iff] at busy
  have before : ∀ c ∈ written, (!Text.isBlank c) = true := by
    simpa using noBlank
  have outside : (!Text.isBlank blank) = false := by
    simpa using isBlank
  have taken := Text.takeWhile_append_mark phones before outside
  have dropped := Text.dropWhile_append_mark phones before outside
  rw [← cut] at taken dropped
  simp only [ofText, if_neg busy, taken, dropped]

theorem ofText_of_lists {pair : String × String} (busy : ¬ IsIdle line) (lists : Lists line pair) :
    ofText line = .entry pair.1 pair.2 := by
  obtain ⟨cut, noBlank, isBlank, means⟩ := lists
  rw [ofText_of_cut busy cut noBlank isBlank, means_iff.1 means]

/-- A line with a blank inside has a word and phones. -/
theorem exists_lists (inside : ∃ c ∈ Text.trim line, Text.isBlank c = true) :
    ∃ pair, Lists line pair := by
  obtain ⟨blank, found⟩ := Option.isSome_iff_exists.1 (List.find?_isSome.2 inside)
  obtain ⟨isBlank, written, phones, cut, noBlank⟩ := List.find?_eq_some_iff_append.1 found
  exact ⟨_, .intro cut (by simpa using noBlank) isBlank (means_iff.2 rfl)⟩

/-- A line is idle, or faulty, or lists a word with its phones, and is read as such. -/
theorem ofText_cases (line : List Char) :
    (IsIdle line ∧ ofText line = .nothing) ∨
      (¬ IsSound line ∧ ofText line = .noPhones (String.ofList (Text.trim line))) ∨
      ∃ pair, ¬ IsIdle line ∧ Lists line pair ∧ ofText line = .entry pair.1 pair.2 := by
  by_cases idle : IsIdle line
  · exact .inl ⟨idle, ofText_of_isIdle idle⟩
  · by_cases inside : ∃ c ∈ Text.trim line, Text.isBlank c = true
    · obtain ⟨pair, lists⟩ := exists_lists inside
      exact .inr (.inr ⟨pair, idle, lists, ofText_of_lists idle lists⟩)
    · have faulty : ¬ IsSound line := not_or.2 ⟨idle, inside⟩
      exact .inr (.inl ⟨faulty, ofText_of_not_isSound faulty⟩)

theorem Lists.isSound {pair : String × String} (lists : Lists line pair) : IsSound line := by
  obtain ⟨cut, -, isBlank, -⟩ := lists
  exact .inr ⟨_, by simp [cut], isBlank⟩

theorem ofText_eq_noPhones_iff {text : String} :
    ofText line = .noPhones text ↔ ¬ IsSound line ∧ text = String.ofList (Text.trim line) := by
  rcases ofText_cases line with ⟨idle, isRead⟩ | ⟨faulty, isRead⟩ | ⟨pair, -, lists, isRead⟩
  · have sound : IsSound line := .inl idle
    simp [isRead, sound]
  · simp [isRead, faulty, eq_comm]
  · simp [isRead, lists.isSound]

theorem isSound_iff : IsSound line ↔ ∀ text, ofText line ≠ .noPhones text := by
  simp [ofText_eq_noPhones_iff]

theorem pair?_eq_some_iff_lists {pair : String × String} :
    pair? line = some pair ↔ ¬ IsIdle line ∧ Lists line pair := by
  rw [pair?_eq_some_iff]
  constructor
  · intro isEntry
    rcases ofText_cases line with ⟨_, isRead⟩ | ⟨_, isRead⟩ | ⟨pair', busy, lists, isRead⟩
    · cases isRead.symm.trans isEntry
    · cases isRead.symm.trans isEntry
    · obtain ⟨word, phones⟩ := pair'
      obtain ⟨rfl, rfl⟩ : word = pair.1 ∧ phones = pair.2 := by simpa [isRead] using isEntry
      exact ⟨busy, lists⟩
  · rintro ⟨busy, lists⟩
    exact ofText_of_lists busy lists

end Line

/-- The pairs of sound lines are what those of them that are not idle list, one for one. -/
theorem forall₂_lists_iff {lines : List (List Char)} {pairs : List (String × String)}
    (sound : ∀ line ∈ lines, IsSound line) :
    List.Forall₂ Lists (lines.filter (¬ IsIdle ·)) pairs ↔ pairs = lines.filterMap pair? := by
  induction lines generalizing pairs with
  | nil => simp
  | cons first rest inRest =>
    rw [List.forall_mem_cons] at sound
    by_cases idle : IsIdle first
    · have skipped : pair? first = none := by rw [pair?, ofText_of_isIdle idle]
      rw [List.filter_cons_of_neg (by simpa using idle), List.filterMap_cons_none skipped,
        inRest sound.2]
    · -- A sound line that is not idle lists one pair, the one that is read.
      obtain ⟨pair, lists⟩ := exists_lists (sound.1.resolve_left idle)
      have taken : pair? first = some pair := pair?_eq_some_iff_lists.2 ⟨idle, lists⟩
      have unique : ∀ other, Lists first other ↔ other = pair := by
        intro other
        rw [← Option.some_inj, ← taken, eq_comm, pair?_eq_some_iff_lists, and_iff_right idle]
      rw [List.filter_cons_of_pos (by simpa using idle), List.filterMap_cons_some taken,
        List.forall₂_cons_left_iff]
      simp only [unique, inRest sound.2, exists_and_left, exists_eq_left]

end VoiceGrammar.LookupLine
