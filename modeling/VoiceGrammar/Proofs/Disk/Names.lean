import Mathlib.Data.List.Nodup
import Mathlib.Data.List.Perm.Subperm
import VoiceGrammar.Proofs.Disk.Walks

/-!
# Names in a directory

The path of a plain name in a directory leads first to the directory and then to the name, however
the path of the directory is written. Names of temporary entries are plain and end in a digit, and a
directory has one of them to spare unless it holds as many entries as there are such names.
-/

namespace VoiceGrammar

/-! ## Paths of names -/

namespace Path

/-- A name that leads to an entry of the directory it is looked up in. -/
structure IsPlain (name : String) : Prop where
  isStep : isStep name = true
  notUp : name ≠ ".."
  noSlash : '/' ∉ name.toList

theorem isPlain_of_length {name : String} (noSlash : '/' ∉ name.toList)
    (long : 2 < name.toList.length) : IsPlain name where
  isStep := by
    have notEmpty : name ≠ "" := by
      rintro rfl
      exact absurd long (by decide)
    have notDot : name ≠ "." := by
      rintro rfl
      exact absurd long (by decide)
    simp [isStep, notEmpty, notDot]
  notUp := by
    rintro rfl
    exact absurd long (by decide)
  noSlash := noSlash

theorem isAbsolute_eq_false {name : String} (noSlash : '/' ∉ name.toList) :
    isAbsolute name = false := by
  have notFirst : name.toList.head? ≠ some '/' := fun first => noSlash (List.mem_of_head? first)
  simpa [isAbsolute] using notFirst

theorem segments_of_noSlash {name : String} (noSlash : '/' ∉ name.toList) :
    segments name = [name] := by
  rw [segments, List.splitOn_eq_singleton noSlash]
  simp

theorem segments_append {path name : String} {before : List Char}
    (cut : path.toList = before ++ '/' :: name.toList) (noSlash : '/' ∉ name.toList) :
    segments path = (before.splitOn '/').map String.ofList ++ [name] := by
  rw [segments, cut, List.splitOn_append_cons_self, List.map_append,
    List.splitOn_eq_singleton noSlash]
  simp

/-- The segments of a path in a directory: those of the directory, less an empty one at the end,
and then the name. -/
theorem segments_join (directory : String) {name : String} (plain : IsPlain name) :
    isAbsolute (join directory name) = isAbsolute directory ∧
      ∃ front, segments (join directory name) = front ++ [name] ∧
        (directory = "" ∧ front = [] ∨
          directory ≠ "" ∧ (segments directory = front ∨ segments directory = front ++ [""])) := by
  have relative := isAbsolute_eq_false plain.noSlash
  rw [join, relative]
  simp only [Bool.false_eq_true, if_false]
  split
  · next ends =>
    rcases ends with isEmpty | slash
    · obtain rfl : directory = "" := by
        rw [← String.toList_inj]
        exact List.getLast?_eq_none_iff.1 isEmpty
      refine ⟨by rw [String.empty_append, relative]; decide, [], ?_, .inl ⟨rfl, rfl⟩⟩
      rw [String.empty_append, segments_of_noSlash plain.noSlash]
      rfl
    · obtain ⟨before, isDirectory⟩ := List.getLast?_eq_some_iff.1 slash
      have notEmpty : directory ≠ "" := by
        rintro rfl
        simp at slash
      have cut : (directory ++ name).toList = before ++ '/' :: name.toList := by
        simp [isDirectory]
      -- Without the name, the last slash has an empty segment behind it.
      refine ⟨?_, _, segments_append cut plain.noSlash, .inr ⟨notEmpty, .inr ?_⟩⟩
      · cases before <;> simp [isAbsolute, isDirectory]
      · have cut' : directory.toList = before ++ '/' :: "".toList := by simpa using isDirectory
        exact segments_append cut' (by simp)
  · next ends =>
    have notEmpty : directory ≠ "" := by
      rintro rfl
      simp at ends
    have cut : (directory ++ "/" ++ name).toList = directory.toList ++ '/' :: name.toList := by
      simp
    refine ⟨?_, _, segments_append cut plain.noSlash, .inr ⟨notEmpty, .inl rfl⟩⟩
    obtain ⟨c, rest, isDirectory⟩ := List.exists_cons_of_ne_nil
      (show directory.toList ≠ [] by simpa using notEmpty)
    simp [isAbsolute, isDirectory]

theorem split?_of_segments {path name : String} {front : List String}
    (cut : segments path = front ++ [name]) (plain : IsPlain name) :
    split? path = some (front, name) := by
  have notEmpty : name ≠ "" ∧ name ≠ "." := by simpa [isStep] using plain.isStep
  rw [split?, cut, List.reverse_concat, List.dropWhile_cons_of_neg (by simp [notEmpty])]
  simp [notEmpty, plain.notUp]

end Path

/-! ## Names of temporary entries -/

namespace Entries

@[simp]
theorem length_digits (count n : Nat) : (digits count n).length = count := by
  induction count generalizing n with
  | zero => rfl
  | succ count inCount => rw [digits, List.length_append, inCount, List.length_singleton]

theorem isDigit_of_mem_digits {count n : Nat} {c : Char} (member : c ∈ digits count n) :
    c.isDigit = true := by
  induction count generalizing n with
  | zero => cases member
  | succ count inCount =>
    rw [digits, List.mem_append, List.mem_singleton] at member
    rcases member with member | rfl
    · exact inCount member
    · simp [Nat.mod_lt]

/-- Two numbers that fit have different digits. -/
theorem digits_inj {count n n' : Nat} (fits : n < Nat.pow 10 count)
    (fits' : n' < Nat.pow 10 count) (same : digits count n = digits count n') : n = n' := by
  induction count generalizing n n' with
  | zero => exact (Nat.lt_one_iff.1 fits).trans (Nat.lt_one_iff.1 fits').symm
  | succ count inCount =>
    -- The last digits agree, and so do the numbers that are left without them.
    rw [digits, digits] at same
    obtain ⟨front, last⟩ := List.append_inj' same rfl
    have lastDigit : n % 10 = n' % 10 := by
      have chars := congrArg Char.toNat (List.singleton_inj.1 last)
      rw [Nat.toNat_digitChar_of_lt_ten (Nat.mod_lt _ (by decide)),
        Nat.toNat_digitChar_of_lt_ten (Nat.mod_lt _ (by decide))] at chars
      omega
    have others := inCount (Nat.div_lt_of_lt_mul (by rwa [Nat.mul_comm]))
      (Nat.div_lt_of_lt_mul (by rwa [Nat.mul_comm])) front
    omega

theorem toList_temporaryName (n : Nat) :
    (temporaryName n).toList = ['.', 't', 'm', 'p'] ++ digits 6 n := by
  rw [temporaryName, String.toList_append, String.toList_ofList, String.toList_ofList]

theorem length_temporaryName (n : Nat) : (temporaryName n).toList.length = 10 := by
  rw [toList_temporaryName, List.length_append, length_digits]
  rfl

theorem isPlain_temporaryName (n : Nat) : Path.IsPlain (temporaryName n) := by
  apply Path.isPlain_of_length
  · rw [toList_temporaryName, List.mem_append, not_or]
    exact ⟨by decide, fun slash => absurd (isDigit_of_mem_digits slash) (by decide)⟩
  · rw [length_temporaryName]
    decide

/-- The name of a temporary entry ends in a digit. -/
theorem isDigit_of_getLast?_temporaryName {n : Nat} {last : Char}
    (isLast : (temporaryName n).toList.getLast? = some last) : last.isDigit = true := by
  rw [toList_temporaryName, digits, ← List.append_assoc, List.getLast?_concat] at isLast
  cases isLast
  simp [Nat.mod_lt]

theorem temporaryName_inj {n n' : Nat} (fits : n < maxNames) (fits' : n' < maxNames)
    (same : temporaryName n = temporaryName n') : n = n' := by
  have lists := congrArg String.toList same
  rw [toList_temporaryName, toList_temporaryName, List.append_cancel_left_eq] at lists
  exact @digits_inj 6 n n' fits fits' lists

theorem freshName?_eq_some {entries : Entries} {name : String}
    (found : freshName? entries = some name) :
    (∃ n, name = temporaryName n) ∧ entries.lookup name = none := by
  obtain ⟨n, -, rfl⟩ := List.mem_map.1 (List.mem_of_find?_eq_some found)
  exact ⟨⟨n, rfl⟩, by simpa using List.find?_some found⟩

/-- There is a fresh name unless there are as many entries as names. -/
theorem exists_freshName {entries : Entries} (few : entries.length < maxNames) :
    ∃ name, freshName? entries = some name := by
  rw [freshName?, Nat.min_eq_left few]
  cases found : ((List.range (entries.length + 1)).map temporaryName).find? fun name =>
      (entries.lookup name).isNone with
  | some name => exact ⟨name, rfl⟩
  | none =>
    -- Otherwise more names than there are entries would all be names of entries.
    have taken : (List.range (entries.length + 1)).map temporaryName ⊆ entries.map Prod.fst := by
      intro name member
      have isTaken := List.find?_eq_none.1 found name member
      by_contra notName
      apply isTaken
      rw [Option.isNone_iff_eq_none, List.lookup_eq_none_iff]
      intro entry isEntry
      have different : name ≠ entry.1 := by
        rintro rfl
        exact notName (List.mem_map_of_mem isEntry)
      simpa using different
    have distinct : ((List.range (entries.length + 1)).map temporaryName).Nodup := by
      refine List.Nodup.map_on (fun n member n' member' same => ?_) List.nodup_range
      rw [List.mem_range] at member member'
      exact temporaryName_inj (by omega) (by omega) same
    have bound := (List.subperm_of_subset distinct taken).length_le
    simp only [List.length_map, List.length_range] at bound
    omega

end Entries

end VoiceGrammar
