import VoiceGrammar.Proofs.ArtifactFiles.Outcome

/-!
# One write after another

Several pairs are written into one directory, under names that may come again. No two names share a
target, so what a name shows is the pair of its last write that succeeded: a write under another
name leaves it alone, and so does a write that fails.

The directory may be missing at first, and a path with `..` in it may then lead nowhere although
there are files at the place that it will lead to. So it is this place that must have no files under
the names at first.
-/

namespace VoiceGrammar

open VoiceGrammar.Path (join)
open FileSystem (run run_bind Grows refusalOfPath?)

/-- The directory at an address has the files of a pair under a name, or has no file under it where
there is no pair. -/
structure FileSystem.HoldsPair (fs : FileSystem) (place : List String) (name : String)
    (pair : Option Artifacts) : Prop where
  grammar : fs.file? (place ++ [name ++ ".gram"]) =
    pair.map fun artifacts => (artifacts.grammar.toUTF8, 0o644)
  dictionary : fs.file? (place ++ [name ++ ".dic"]) =
    pair.map fun artifacts => (artifacts.dictionary.toUTF8, 0o644)

/-- A pair and the name to write it under. -/
structure Write where
  name : String
  artifacts : Artifacts

/-- Writes pair after pair into a directory, whatever becomes of each. -/
def writeEach [Monad m] [Disk m] (directory : String) (writes : List Write) :
    m (List (Except Failure ArtifactPaths)) :=
  writes.mapM fun write => write.artifacts.write directory write.name

/-- The pair that a write has put under a name; none where it failed or was under another name. -/
def Write.put? (write : Write) (name : String) (answer : Except Failure ArtifactPaths) :
    Option Artifacts :=
  if write.name = name ∧ answer.isOk then some write.artifacts else none

@[simp]
theorem Write.put?_error (write : Write) (name : String) (failure : Failure) :
    write.put? name (.error failure) = none :=
  if_neg (by simp [Except.isOk, Except.toBool])

/-- The pair of the last write under a name that was answered with success. -/
def lastWritten (name : String) (writes : List Write)
    (answers : List (Except Failure ArtifactPaths)) : Option Artifacts :=
  ((writes.zip answers).filterMap fun answered => answered.1.put? name answered.2).getLast?

theorem targets_ne (name name' : String) : name ++ ".gram" ≠ name' ++ ".dic" := by
  intro same
  have ends := congrArg (·.toList.getLast?) same
  simp at ends

section Runs

variable {directory name : String} {write : Write} {writes : List Write}
  {fs fs' : FileSystem} {answer : Except Failure ArtifactPaths}
  {answers : List (Except Failure ArtifactPaths)} {last : Option Artifacts}

theorem exists_of_run_writeEach_cons
    (ran : run (writeEach directory (write :: writes)) fs = (answers, fs')) :
    ∃ answer middle later, run (write.artifacts.write directory write.name) fs = (answer, middle) ∧
      run (writeEach directory writes) middle = (later, fs') ∧ answers = answer :: later := by
  rw [writeEach, List.mapM_cons, run_bind, run_bind] at ran
  cases ran
  exact ⟨_, _, _, rfl, rfl, rfl⟩

theorem lastWritten_cons :
    lastWritten name (write :: writes) (answer :: answers) =
      (lastWritten name writes answers).or (write.put? name answer) := by
  rw [lastWritten, List.zip_cons_cons, List.filterMap_cons]
  cases write.put? name answer with
  | none => rw [Option.or_none, lastWritten]
  | some pair =>
    simp only
    rw [List.getLast?_cons, ← lastWritten]
    cases lastWritten name writes answers <;> rfl

theorem grows_writeEach (ran : run (writeEach directory writes) fs = (answers, fs')) :
    Grows fs fs' := by
  induction writes generalizing fs answers with
  | nil =>
    cases ran
    exact .refl _
  | cons write rest inRest =>
    obtain ⟨answer, middle, later, wrote, ran', rfl⟩ := exists_of_run_writeEach_cons ran
    exact (Artifacts.write_cases wrote).1.trans (inRest ran')

/-- One write: a name keeps what it holds, unless the write is under this name and succeeds. -/
theorem holdsPair_of_write
    (wrote : run (write.artifacts.write directory write.name) fs = (answer, fs'))
    (holds : fs.HoldsPair (fs.placeOf directory) name last) :
    fs'.HoldsPair (fs'.placeOf directory) name ((write.put? name answer).or last) := by
  obtain ⟨grows, ⟨rfl, -, rfl⟩ | ⟨path, refusal, rfl, keepsFiles⟩ | ⟨rfl, placed⟩⟩ :=
    Artifacts.write_cases wrote
  · simpa using holds
  · rw [Write.put?_error, Option.none_or, grows.placeOf_eq]
    exact ⟨keepsFiles.file?_eq holds.grammar, keepsFiles.file?_eq holds.dictionary⟩
  obtain ⟨address, isDirectory, files⟩ := placed.place
  rw [← grows.placeOf_eq, ← isDirectory.address_eq] at holds
  rw [← isDirectory.address_eq]
  by_cases sameName : write.name = name
  · subst sameName
    rw [Write.put?, if_pos ⟨rfl, rfl⟩]
    constructor
    · rw [files, Function.update_of_ne (by simp), Function.update_self]
      rfl
    · rw [files, Function.update_self]
      rfl
  · -- Neither target of this name is one of the two that are written.
    rw [Write.put?, if_neg (by simp [sameName])]
    have other : ∀ suffix, name ++ suffix ≠ write.name ++ suffix := by
      simpa using fun same => sameName same.symm
    constructor
    · rw [files, Function.update_of_ne, Function.update_of_ne]
      · exact holds.grammar
      · simpa using other ".gram"
      · simpa using targets_ne name write.name
    · rw [files, Function.update_of_ne, Function.update_of_ne]
      · exact holds.dictionary
      · simpa using (targets_ne write.name name).symm
      · simpa using other ".dic"

/-- All writes, one after another: the last one that put something under a name decides. -/
theorem holdsPair_of_writeEach (ran : run (writeEach directory writes) fs = (answers, fs'))
    (holds : fs.HoldsPair (fs.placeOf directory) name last) :
    fs'.HoldsPair (fs'.placeOf directory) name ((lastWritten name writes answers).or last) := by
  induction writes generalizing fs answers last with
  | nil =>
    cases ran
    exact holds
  | cons write rest inRest =>
    obtain ⟨answer, middle, later, wrote, ran', rfl⟩ := exists_of_run_writeEach_cons ran
    rw [lastWritten_cons, Option.or_assoc]
    exact inRest ran' (holdsPair_of_write wrote holds)

/-- Where something was put under a name, its paths lead into the directory. -/
theorem exists_place_of_lastWritten (ran : run (writeEach directory writes) fs = (answers, fs'))
    {pair : Artifacts} (written : lastWritten name writes answers = some pair) :
    (refusalOfPath? (join directory (name ++ ".gram")) = none ∧
        refusalOfPath? (join directory (name ++ ".dic")) = none) ∧
      ∃ place, fs'.HasDirectory directory place := by
  induction writes generalizing fs answers with
  | nil =>
    cases ran
    cases written
  | cons write rest inRest =>
    obtain ⟨answer, middle, later, wrote, ran', rfl⟩ := exists_of_run_writeEach_cons ran
    rw [lastWritten_cons, Option.or_eq_some_iff] at written
    rcases written with inLater | ⟨-, here⟩
    · exact inRest ran' inLater
    rw [Write.put?, Option.ite_none_right_eq_some] at here
    obtain ⟨⟨rfl, isOk⟩, -⟩ := here
    obtain ⟨-, ⟨rfl, -⟩ | ⟨path, refusal, rfl, -⟩ | ⟨rfl, placed⟩⟩ := Artifacts.write_cases wrote
    · cases isOk
    · cases isOk
    · obtain ⟨place, isDirectory, -⟩ := placed.place
      exact ⟨placed.admitted, place, isDirectory.of_grows (grows_writeEach ran')⟩

theorem showsPair_of_holdsPair (isBase : ArtifactPaths.isBaseName name = true)
    (holds : fs.HoldsPair (fs.placeOf directory) name last)
    (leads : ∀ pair, last = some pair →
      (refusalOfPath? (join directory (name ++ ".gram")) = none ∧
        refusalOfPath? (join directory (name ++ ".dic")) = none) ∧
      ∃ place, fs.HasDirectory directory place) :
    fs.ShowsPair (.ofName directory name) last := by
  have targets := ArtifactPaths.targets_of_isBaseName isBase
  constructor
  · refine FileSystem.fileAt?_join_eq targets.plain.1 holds.grammar fun content isSome => ?_
    obtain ⟨pair, isPair, -⟩ := Option.map_eq_some_iff.1 isSome
    exact ⟨(leads pair isPair).1.1, (leads pair isPair).2⟩
  · refine FileSystem.fileAt?_join_eq targets.plain.2 holds.dictionary fun content isSome => ?_
    obtain ⟨pair, isPair, -⟩ := Option.map_eq_some_iff.1 isSome
    exact ⟨(leads pair isPair).1.2, (leads pair isPair).2⟩

end Runs

/-- Where a name has no files at first, it has the pair of its last write that succeeded, or still
none, whatever is written under other names. -/
theorem pairs_never_mixed {directory : String} {writes : List Write} {fs fs' : FileSystem}
    {answers : List (Except Failure ArtifactPaths)}
    (ran : run (writeEach directory writes) fs = (answers, fs')) (names : Set String)
    (clear : ∀ name ∈ names, fs.HoldsPair (fs.placeOf directory) name none) :
    ∀ name ∈ names,
      fs'.HoldsPair (fs.placeOf directory) name (lastWritten name writes answers) ∧
        (ArtifactPaths.isBaseName name = true →
          fs'.ShowsPair (.ofName directory name) (lastWritten name writes answers)) := by
  intro name member
  have holds : fs'.HoldsPair (fs'.placeOf directory) name (lastWritten name writes answers) := by
    simpa using holdsPair_of_writeEach ran (clear name member)
  refine ⟨?_, fun isBase => showsPair_of_holdsPair isBase holds fun pair written =>
    exists_place_of_lastWritten ran written⟩
  rwa [(grows_writeEach ran).placeOf_eq] at holds

/-- A directory is in the way of one name, and two dots are no base name. -/
theorem pairs_never_mixed_twice :
    let writes : List Write := [⟨"x", ⟨"G1\n", "D1\n"⟩⟩, ⟨"y", ⟨"G2\n", "D2\n"⟩⟩,
      ⟨"..", ⟨"G3\n", "D3\n"⟩⟩, ⟨"x", ⟨"G4\n", "D4\n"⟩⟩, ⟨"y", ⟨"G5\n", "D5\n"⟩⟩]
    let start : FileSystem :=
      ⟨[("work", .directory [("out", .directory [("y.dic", .directory [])])])], ["work"]⟩
    ∃ answers fs', run (writeEach "out" writes) start = (answers, fs') ∧
      fs'.ShowsPair (.ofName "out" "x") (some ⟨"G4\n", "D4\n"⟩) ∧
      fs'.ShowsPair (.ofName "out" "y") none := by
  intro writes start
  have lastX : lastWritten "x" writes (run (writeEach "out" writes) start).1 =
      some ⟨"G4\n", "D4\n"⟩ := by
    decide +kernel
  have lastY : lastWritten "y" writes (run (writeEach "out" writes) start).1 = none := by
    decide +kernel
  -- The run is kept as it stands: what it leaves is known from the theorem.
  generalize ran : run (writeEach "out" writes) start = outcome at lastX lastY
  obtain ⟨answers, fs'⟩ := outcome
  have shown := pairs_never_mixed ran {"x", "y"} (by
    rintro name (rfl | rfl)
    all_goals exact ⟨rfl, rfl⟩)
  refine ⟨answers, fs', rfl, ?_, ?_⟩
  · rw [← lastX]
    exact (shown "x" (.inl rfl)).2 (by decide)
  · rw [← lastY]
    exact (shown "y" (.inr rfl)).2 (by decide)

end VoiceGrammar
