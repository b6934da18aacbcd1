import Mathlib.Data.List.Chain
import Mathlib.Data.List.TakeWhile
import VoiceGrammar.Proofs.Text.CharClasses

/-!
# No letter has two cases

In many alphabets capital and small letters alternate, so that a run of capital letters and a run of
small ones may lie across each other and still share no code point: one of them holds the even code
points and the other the odd ones. Both tables are in order, which is why one sweep from left to
right finds all runs that could meet.
-/

namespace VoiceGrammar

namespace Text

namespace CodeRun

/-- All code points of the run are even, or all of them are odd. -/
def keepsParity (run : CodeRun) : Bool :=
  run.step % 2 == 0 || run.first == run.last

/-- One run lies behind the other, or one is even and the other odd. -/
def misses (run other : CodeRun) : Bool :=
  run.last < other.first || other.last < run.first ||
    (run.keepsParity && other.keepsParity && run.first % 2 != other.first % 2)

theorem parity_of_contains {run : CodeRun} {n : Nat} (keeps : run.keepsParity = true)
    (reached : run.contains n = true) : n % 2 = run.first % 2 := by
  have bounds := bounds_of_contains reached
  simp only [contains, Bool.and_eq_true, beq_iff_eq] at reached
  simp only [keepsParity, Bool.or_eq_true, beq_iff_eq] at keeps
  rcases keeps with even | single
  · -- The distance from the first code point is a multiple of an even step.
    have distance : 2 ∣ n - run.first :=
      Nat.dvd_trans (Nat.dvd_of_mod_eq_zero even) (Nat.dvd_of_mod_eq_zero reached.2)
    omega
  · have isFirst : n = run.first := by omega
    rw [isFirst]

theorem contains_eq_false_of_misses {run other : CodeRun} {n : Nat}
    (misses : run.misses other = true) (reached : run.contains n = true) :
    other.contains n = false := by
  rw [Bool.eq_false_iff]
  intro reached'
  have bounds := bounds_of_contains reached
  have bounds' := bounds_of_contains reached'
  simp only [CodeRun.misses, Bool.or_eq_true, Bool.and_eq_true, decide_eq_true_eq, bne_iff_ne]
    at misses
  obtain (before | behind) | ⟨⟨keeps, keeps'⟩, parities⟩ := misses
  · omega
  · omega
  · have parity := parity_of_contains keeps reached
    have parity' := parity_of_contains keeps' reached'
    omega

end CodeRun

/-! ## The sweep -/

/-- Goes through some runs from left to right. What ends before a run is left behind for good, and
what begins inside of it has to miss it. -/
def missInSweep : List CodeRun → List CodeRun → Bool
  | [], _ => true
  | run :: runs, others =>
    let ahead := others.dropWhile (·.last < run.first)
    (ahead.takeWhile (·.first ≤ run.last)).all run.misses && missInSweep runs ahead

def InOrder (runs : List CodeRun) : Prop :=
  runs.Pairwise fun run next => run.first ≤ next.first

theorem inOrder_of_isChain {runs : List CodeRun}
    (chain : (runs.map CodeRun.first).IsChain (· ≤ ·)) : InOrder runs :=
  List.pairwise_map.1 (List.isChain_iff_pairwise.1 chain)

/-- What begins behind the end of a run is followed by nothing that begins earlier. -/
theorem last_lt_first_of_mem_dropWhile {run other : CodeRun} {others : List CodeRun}
    (inOrder : InOrder others) (member : other ∈ others.dropWhile (·.first ≤ run.last)) :
    run.last < other.first := by
  have sorted : InOrder (others.dropWhile (·.first ≤ run.last)) :=
    inOrder.sublist (List.dropWhile_sublist _)
  have stopped := List.head?_dropWhile_not (fun other => decide (other.first ≤ run.last)) others
  cases rest : others.dropWhile (·.first ≤ run.last) with
  | nil =>
    rw [rest] at member
    cases member
  | cons head tail =>
    rw [rest] at member sorted stopped
    have behind : run.last < head.first := by simpa using stopped
    rcases List.mem_cons.1 member with rfl | later
    · exact behind
    · exact Nat.lt_of_lt_of_le behind ((List.pairwise_cons.1 sorted).1 other later)

theorem misses_of_missInSweep {runs others : List CodeRun} (inOrder : InOrder runs)
    (inOrder' : InOrder others) (swept : missInSweep runs others = true) :
    ∀ run ∈ runs, ∀ other ∈ others, run.misses other = true := by
  induction runs generalizing others with
  | nil =>
    intro run member
    cases member
  | cons first rest inRest =>
    rw [missInSweep, Bool.and_eq_true, List.all_eq_true] at swept
    obtain ⟨inside, swept⟩ := swept
    have ahead : InOrder (others.dropWhile (·.last < first.first)) :=
      inOrder'.sublist (List.dropWhile_sublist _)
    have notBefore : ∀ run ∈ first :: rest, first.first ≤ run.first :=
      List.forall_mem_cons.2 ⟨Nat.le_refl _, (List.pairwise_cons.1 inOrder).1⟩
    intro run isRun other isOther
    rw [← List.takeWhile_append_dropWhile (p := (·.last < first.first)) (l := others),
      List.mem_append] at isOther
    rcases isOther with left | isAhead
    · -- What is left behind lies before this run and so before all that follow it.
      have before : other.last < first.first := by simpa using List.mem_takeWhile_imp left
      have behind := Nat.lt_of_lt_of_le before (notBefore run isRun)
      simp [CodeRun.misses, behind]
    · rcases List.mem_cons.1 isRun with rfl | later
      · rw [← List.takeWhile_append_dropWhile (p := (·.first ≤ run.last))
          (l := others.dropWhile _), List.mem_append] at isAhead
        rcases isAhead with isInside | isBehind
        · exact inside other isInside
        · have behind := last_lt_first_of_mem_dropWhile ahead isBehind
          simp [CodeRun.misses, behind]
      · exact inRest (List.pairwise_cons.1 inOrder).2 ahead swept run later other isAhead

/-! ## The cases -/

theorem isLowercase_eq_false_of_isUppercase {c : Char} (upper : isUppercase c = true) :
    isLowercase c = false := by
  have missing : ∀ run ∈ uppercaseRuns, ∀ other ∈ lowercaseRuns, run.misses other = true :=
    misses_of_missInSweep (inOrder_of_isChain (by decide +kernel))
      (inOrder_of_isChain (by decide +kernel)) (by decide +kernel)
  rw [Bool.eq_false_iff]
  intro lower
  obtain ⟨run, isRun, reached⟩ := inRuns_iff.1 upper
  obtain ⟨other, isOther, reached'⟩ := inRuns_iff.1 lower
  rw [CodeRun.contains_eq_false_of_misses (missing run isRun other isOther) reached] at reached'
  cases reached'

theorem isLowercase_eq_false_of_isDigit {c : Char} (digit : isDigit c = true) :
    isLowercase c = false :=
  inRuns_eq_false_of_apart (by decide +kernel) (inRuns_of_isDigit digit)

end Text

/-- No word character is a small letter. -/
theorem isLowercase_eq_false_of_isWordChar {c : Char} (wordChar : isWordChar c = true) :
    Text.isLowercase c = false := by
  rcases Bool.or_eq_true_iff.1 wordChar with upper | digit
  · exact Text.isLowercase_eq_false_of_isUppercase upper
  · exact Text.isLowercase_eq_false_of_isDigit digit

end VoiceGrammar
