/-!
# Runs of code points

A character property is given as a list of runs. A run is an arithmetic progression of code
points: step one for a plain range, step two for the alphabets in which capital and small letters
alternate. Membership in a property is membership in one of its runs.
-/

namespace VoiceGrammar.Text

/-- The code points `first`, `first + step`, and so on up to `last`. -/
structure CodeRun where
  first : Nat
  last : Nat
  step : Nat
  deriving DecidableEq, Repr

namespace CodeRun

/-- Whether the run reaches the code point `n`. -/
def contains (run : CodeRun) (n : Nat) : Bool :=
  decide (run.first ≤ n) && decide (n ≤ run.last) && (n - run.first) % run.step == 0

theorem bounds_of_contains {run : CodeRun} {n : Nat} (h : run.contains n = true) :
    run.first ≤ n ∧ n ≤ run.last := by
  simp only [contains, Bool.and_eq_true, decide_eq_true_eq] at h
  exact h.1

end CodeRun

/-- Whether a character belongs to the property that the runs describe. -/
def inRuns (runs : List CodeRun) (c : Char) : Bool :=
  runs.any (·.contains c.toNat)

theorem inRuns_iff {runs : List CodeRun} {c : Char} :
    inRuns runs c = true ↔ ∃ run ∈ runs, run.contains c.toNat = true :=
  List.any_eq_true

end VoiceGrammar.Text
