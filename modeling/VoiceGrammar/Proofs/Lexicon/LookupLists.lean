import VoiceGrammar.Proofs.Lexicon.LineFormat
import VoiceGrammar.Proofs.Text.Lines

/-!
# Lookup lists, line by line

A lookup list is read in one pass over its lines, which either inserts what they list or stops at
the first line at fault. Since no line looks at another, a list behind another one is read as it
would be alone: its lines have higher numbers, and its pronunciations come after those of the first
list, apart from those that are there already.
-/

namespace VoiceGrammar.Lexicon

open LookupLine

/-! ## One pass over the lines -/

section Pass

variable {origin : String} {lexicon result : Lexicon} {number : Nat} {line : List Char}
  {lines more : List (List Char)} {failure : Failure}

theorem readLines_cons_of_isSound (sound : IsSound line) :
    readLines origin lexicon number (line :: lines) =
      readLines origin (lexicon.insertAll (pair? line).toList) (number + 1) lines := by
  rw [readLines, pair?]
  split
  · next isNothing => simp only [isNothing]; rfl
  · next word phones isEntry => simp only [isEntry]; rfl
  · next text isFault => exact absurd isFault (isSound_iff.1 sound text)

theorem readLines_cons_of_not_isSound (faulty : ¬ IsSound line) :
    readLines origin lexicon number (line :: lines) =
      .error (.noPhones origin number (String.ofList (Text.trim line))) := by
  rw [readLines, ofText_of_not_isSound faulty]

theorem readLines_append :
    readLines origin lexicon number (lines ++ more) =
      (readLines origin lexicon number lines).bind fun lexicon' =>
        readLines origin lexicon' (number + lines.length) more := by
  induction lines generalizing lexicon number with
  | nil => rfl
  | cons first rest inRest =>
    rw [List.cons_append]
    by_cases sound : IsSound first
    · rw [readLines_cons_of_isSound sound, readLines_cons_of_isSound sound, inRest,
        List.length_cons, Nat.add_right_comm, Nat.add_assoc number]
    · rw [readLines_cons_of_not_isSound sound, readLines_cons_of_not_isSound sound]
      rfl

theorem readLines_of_sound (sound : ∀ line ∈ lines, IsSound line) :
    readLines origin lexicon number lines = .ok (lexicon.insertAll (lines.filterMap pair?)) :=
  readLines_eq_ok_iff.2 ⟨fun line member => isSound_iff.1 (sound line member), rfl⟩

theorem readLines_of_firstFault {before : List (List Char)} (fault : FirstFault lines before line) :
    readLines origin lexicon number lines =
      .error (.noPhones origin (number + before.length) (String.ofList (Text.trim line))) := by
  obtain ⟨⟨after, rfl⟩, sound, faulty⟩ := fault
  rw [readLines_append, readLines_of_sound sound]
  exact readLines_cons_of_not_isSound faulty

theorem sound_or_firstFault (lines : List (List Char)) :
    (∀ line ∈ lines, IsSound line) ∨ ∃ before line, FirstFault lines before line := by
  cases found : lines.find? (¬ IsSound ·) with
  | none => exact .inl (by simpa using found)
  | some line =>
    obtain ⟨faulty, before, after, stands, sound⟩ := List.find?_eq_some_iff_append.1 found
    exact .inr ⟨before, line, ⟨after, stands⟩, by simpa using sound, by simpa using faulty⟩

/-- The pass fails exactly if there is a first line at fault, and names it. -/
theorem readLines_eq_error_iff :
    readLines origin lexicon number lines = .error failure ↔
      ∃ before line, FirstFault lines before line ∧
        failure =
          .noPhones origin (number + before.length) (String.ofList (Text.trim line)) := by
  constructor
  · intro failed
    rcases sound_or_firstFault lines with sound | ⟨before, line, fault⟩
    · rw [readLines_of_sound sound] at failed
      cases failed
    · rw [readLines_of_firstFault fault, Except.error.injEq] at failed
      exact ⟨before, line, fault, failed.symm⟩
  · rintro ⟨before, line, fault, rfl⟩
    exact readLines_of_firstFault fault

/-- Carriage returns at the end of lines are trimmed away. -/
theorem readLines_of_covers {pieces : List (List Char)}
    (covers : List.Forall₂ Text.Covers pieces lines) :
    readLines origin lexicon number pieces = readLines origin lexicon number lines := by
  induction covers generalizing lexicon number with
  | nil => rfl
  | cons first _ inRest =>
    have same : ∀ {piece line}, Text.Covers piece line → ofText piece = ofText line := by
      intro piece line covers
      rw [ofText, ofText, covers.trim_eq]
    rw [readLines, readLines, same first]
    simp only [inRest]

theorem readLines_concat_nil :
    readLines origin lexicon number (lines ++ [[]]) = readLines origin lexicon number lines := by
  have atEnd : ∀ lexicon number, readLines origin lexicon number [[]] = .ok lexicon :=
    fun _ _ => rfl
  rw [readLines_append]
  simp only [atEnd]
  cases readLines origin lexicon number lines <;> rfl

end Pass

/-! ## One list -/

section List

variable {text origin : String} {lexicon : Lexicon} {failure : Failure}

/-- What is read of a lookup list are the lines of its text. -/
theorem ofLookupList_eq (text origin : String) :
    ofLookupList text origin = readLines origin empty 1 (Text.lines text.toList) := by
  rw [ofLookupList]
  rcases Text.covers_lines text.toList with covers | covers
  · exact readLines_of_covers covers
  · rw [readLines_of_covers covers, readLines_concat_nil]

theorem ofLookupList_withReturns (text origin : String) :
    ofLookupList (String.ofList (Text.withReturns text.toList)) origin =
      ofLookupList text origin := by
  rw [ofLookupList, String.toList_ofList, readLines_of_covers (Text.covers_withReturns _),
    ofLookupList]

theorem exists_lexicon_iff {lines : List (List Char)} {number : Nat} :
    (∃ result, readLines origin lexicon number lines = .ok result) ↔
      ∀ line ∈ lines, IsSound line := by
  constructor
  · rintro ⟨result, isRead⟩ line member
    exact isSound_iff.2 ((readLines_eq_ok_iff.1 isRead).1 line member)
  · intro sound
    exact ⟨_, readLines_of_sound sound⟩

/-- A list is read if all its lines are sound, and the pairs that they list are inserted in
order. -/
theorem ofLookupList_eq_ok_iff :
    ofLookupList text origin = .ok lexicon ↔
      (∀ line ∈ Text.lines text.toList, IsSound line) ∧
        ∃ pairs, List.Forall₂ Lists ((Text.lines text.toList).filter (¬ IsIdle ·)) pairs ∧
          lexicon = ofPairs pairs := by
  rw [ofLookupList_eq, readLines_eq_ok_iff]
  simp only [← isSound_iff]
  refine and_congr_right fun sound => ?_
  simp only [forall₂_lists_iff sound, exists_eq_left, ofPairs]

end List

/-! ## Two lists, one behind the other -/

section Join

variable {first second origin origin' : String} {lexicon added : Lexicon}

theorem splitOn_join (first second : String) :
    (first ++ "\n" ++ second).toList.splitOn '\n' =
      first.toList.splitOn '\n' ++ second.toList.splitOn '\n' := by
  have breaks : (first ++ "\n" ++ second).toList = first.toList ++ '\n' :: second.toList := by
    simp
  rw [breaks, List.splitOn_append_cons_self]

theorem ofLookupList_join (isRead : ofLookupList first origin = .ok lexicon)
    (isAdded : ofLookupList second origin' = .ok added) (origin'' : String) :
    ∃ both, ofLookupList (first ++ "\n" ++ second) origin'' = .ok both ∧
      Merges both lexicon added := by
  obtain ⟨sound, rfl⟩ := readLines_eq_ok_iff.1 isRead
  obtain ⟨sound', rfl⟩ := readLines_eq_ok_iff.1 isAdded
  refine ⟨_, readLines_eq_ok_iff.2 ⟨?_, rfl⟩, ?_⟩
  · rw [splitOn_join, List.forall_mem_append]
    exact ⟨sound, sound'⟩
  · rw [splitOn_join, List.filterMap_append]
    exact merges_ofPairs_append _ _

theorem exists_lexicon_join_iff :
    (∃ both, ofLookupList (first ++ "\n" ++ second) origin = .ok both) ↔
      (∃ lexicon, ofLookupList first origin = .ok lexicon) ∧
        ∃ added, ofLookupList second origin = .ok added := by
  simp only [ofLookupList, exists_lexicon_iff, splitOn_join, List.forall_mem_append]

/-- A fault of the second list is found as many lines later as the first list has. -/
theorem ofLookupList_join_error {number : Nat} {content : String}
    (isRead : ofLookupList first origin = .ok lexicon)
    (failed : ofLookupList second origin = .error (.noPhones origin number content)) :
    ofLookupList (first ++ "\n" ++ second) origin =
      .error (.noPhones origin (number + first.toList.count '\n' + 1) content) := by
  obtain ⟨before, line, fault, isFailure⟩ := readLines_eq_error_iff.1 failed
  obtain ⟨-, rfl, rfl⟩ := (Failure.noPhones.injEq ..).mp isFailure
  obtain ⟨⟨after, stands⟩, sound, faulty⟩ := fault
  have soundFirst := exists_lexicon_iff.1 ⟨lexicon, isRead⟩
  have later : FirstFault ((first ++ "\n" ++ second).toList.splitOn '\n')
      (first.toList.splitOn '\n' ++ before) line := by
    refine ⟨⟨after, ?_⟩, List.forall_mem_append.2 ⟨soundFirst, sound⟩, faulty⟩
    rw [splitOn_join, stands, List.append_assoc]
  rw [ofLookupList, readLines_of_firstFault later, List.length_append, Text.length_splitOn_break]
  congr 2
  omega

end Join

/-- A lookup list is read line by line: it is refused at its first line at fault, and else its
lexicon has what its lines list, one after the other. Carriage returns before line breaks change
nothing. A list behind another list is read as if it stood alone, with the lines of the first list
counted and its pronunciations known. -/
theorem ofLookupList_line_by_line (text origin : String) :
    (∀ lexicon, ofLookupList text origin = .ok lexicon ↔
      (∀ line ∈ Text.lines text.toList, IsSound line) ∧
        ∃ pairs, List.Forall₂ Lists ((Text.lines text.toList).filter (¬ IsIdle ·)) pairs ∧
          lexicon = ofPairs pairs) ∧
    ((∃ lexicon, ofLookupList text origin = .ok lexicon) ↔
      ∀ line ∈ Text.lines text.toList, IsSound line) ∧
    (∀ failure, ofLookupList text origin = .error failure ↔
      ∃ before line, FirstFault (Text.lines text.toList) before line ∧
        failure = .noPhones origin (before.length + 1) (String.ofList (Text.trim line))) ∧
    ofLookupList (String.ofList (Text.withReturns text.toList)) origin =
      ofLookupList text origin ∧
    ∀ more,
      ((∃ both, ofLookupList (text ++ "\n" ++ more) origin = .ok both) ↔
        (∃ lexicon, ofLookupList text origin = .ok lexicon) ∧
          ∃ added, ofLookupList more origin = .ok added) ∧
      (∀ lexicon added both, ofLookupList text origin = .ok lexicon →
        ofLookupList more origin = .ok added →
        ofLookupList (text ++ "\n" ++ more) origin = .ok both →
        ∀ word, both.pronunciations? word =
          Option.merge (fun known new => known ++ new.filter (· ∉ known))
            (lexicon.pronunciations? word) (added.pronunciations? word)) ∧
      ∀ lexicon number content, ofLookupList text origin = .ok lexicon →
        ofLookupList more origin = .error (.noPhones origin number content) →
        ofLookupList (text ++ "\n" ++ more) origin =
          .error (.noPhones origin (number + text.toList.count '\n' + 1) content) := by
  refine ⟨fun lexicon => ofLookupList_eq_ok_iff, ?readable, fun failure => ?refused,
    ofLookupList_withReturns text origin, fun more => ⟨exists_lexicon_join_iff, ?merged,
      fun _ _ _ isRead failed => ofLookupList_join_error isRead failed⟩⟩
  case readable =>
    rw [ofLookupList_eq, exists_lexicon_iff]
  case refused =>
    rw [ofLookupList_eq, readLines_eq_error_iff]
    simp only [Nat.add_comm 1]
  case merged =>
    intro lexicon added both isRead isAdded isBoth word
    obtain ⟨both', isBoth', merges⟩ := ofLookupList_join isRead isAdded origin
    obtain rfl : both' = both := Except.ok.inj (isBoth'.symm.trans isBoth)
    exact merges word

/-- A carriage return alone ends no line, and an empty line counts. -/
example : (ofLookupList "GO\rG OW\n\nSTOP" "list").map (fun _ => ()) =
    .error (.noPhones "list" 3 "STOP") := by
  rfl

end VoiceGrammar.Lexicon
