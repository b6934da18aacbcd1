import VoiceGrammar.Proofs.ArtifactFiles.AllOrNothing
import VoiceGrammar.Proofs.Disk.Files

/-!
# What a write answers, and which files there are then

A write answers in one of three ways, and each way says which regular files there are afterwards: a
refused name leaves all of them as they were, a failure too but for a grammar that may come back as
a copy of itself, and a success adds the two of the pair.
-/

namespace VoiceGrammar

open VoiceGrammar.Path (join)
open FileSystem (run run_bind Grows refusalOfPath? artifactMode)

/-- Both paths lead to the files of a pair, or to no file where there is no pair. -/
structure FileSystem.ShowsPair (fs : FileSystem) (paths : ArtifactPaths)
    (pair : Option Artifacts) : Prop where
  grammar : fs.fileAt? paths.grammar = pair.map fun artifacts => (artifacts.grammar.toUTF8, 0o644)
  dictionary :
    fs.fileAt? paths.dictionary = pair.map fun artifacts => (artifacts.dictionary.toUTF8, 0o644)

/-- Every file is what it was, or a copy of it. -/
def FileSystem.KeepsFiles (fs fs' : FileSystem) : Prop :=
  ∀ address, fs'.file? address = fs.file? address ∨ fs'.file? address =
    (fs.file? address).map fun content => (content.1, copiedMode content.1 content.2)

/-- The files of a pair are kept as they are, as no copy of them has another mode. -/
theorem FileSystem.KeepsFiles.file?_eq {fs fs' : FileSystem} (keepsFiles : fs.KeepsFiles fs')
    {address : List String} {pair : Option Artifacts} {bytes : Artifacts → ByteArray}
    (holds : fs.file? address = pair.map fun artifacts => (bytes artifacts, 0o644)) :
    fs'.file? address = pair.map fun artifacts => (bytes artifacts, 0o644) := by
  rw [← holds]
  rcases keepsFiles address with same | copied
  · exact same
  · rw [copied, holds]
    cases pair with
    | none => rfl
    | some artifacts => simp [copiedMode_of_lt]

namespace ArtifactPaths

theorem isBaseName_of_isRuleName {name : String} (isName : Grammar.isRuleName name = true) :
    isBaseName name = true := by
  simp only [Grammar.isRuleName, Bool.and_eq_true, List.all_eq_true] at isName
  obtain ⟨⟨notEmpty, allowed⟩, -⟩ := isName
  have foreign : ∀ c, Grammar.isNameChar c = false → c ∉ name.toList := by
    intro c isForeign member
    rw [allowed c member] at isForeign
    cases isForeign
  have noDot : '.' ∉ name.toList := foreign '.' (by decide)
  have dots : name ≠ "." ∧ name ≠ ".." := by
    constructor <;> rintro rfl <;> exact noDot (by decide)
  have letters : ∀ c ∈ name.toList, c ≠ '/' ∧ c ≠ '\\' ∧ c ≠ '\x00' := by
    intro c member
    refine ⟨?_, ?_, ?_⟩ <;> rintro rfl <;> exact foreign _ (by decide) member
  have nonempty : name ≠ "" := by simpa using notEmpty
  rw [isBaseName, Bool.and_eq_true, List.all_eq_true]
  exact ⟨by simp [nonempty, dots], fun c member => by simpa [and_assoc] using letters c member⟩

end ArtifactPaths

namespace Artifacts

variable {artifacts : Artifacts} {directory name : String} {fs fs' : FileSystem}
  {answer : Except Failure ArtifactPaths}

theorem isBaseName_eq_false_of_write {bad : String}
    (wrote : run (artifacts.write directory name) fs = (.error (.badFileName bad), fs')) :
    ArtifactPaths.isBaseName name = false := by
  by_contra notFalse
  have isBase : ArtifactPaths.isBaseName name = true := by simpa using notFalse
  rw [write, if_pos isBase, run_bind] at wrote
  generalize run (makeDirectories directory) fs = outcome at wrote
  obtain ⟨made, middle⟩ := outcome
  cases made with
  | error refusal => cases wrote
  | ok =>
    obtain ⟨answer, fs'', wrote', outcome⟩ := run_writeInto artifacts directory
      (ArtifactPaths.targets_of_isBaseName isBase) middle
    obtain rfl : answer = .error (.badFileName bad) := congrArg Prod.fst (wrote'.symm.trans wrote)
    rcases outcome with ⟨path, refusal, isError, -⟩ | ⟨refusal, address, isError, -⟩ | ⟨isOk, -⟩
    · cases isError
    · cases isError
    · cases isOk

/-- The pair is in its directory, and there are no other new files. -/
structure IsPlaced (artifacts : Artifacts) (directory name : String) (fs fs' : FileSystem) :
    Prop where
  targets : ArtifactPaths.Targets (name ++ ".gram") (name ++ ".dic")
  admitted : refusalOfPath? (join directory (name ++ ".gram")) = none ∧
    refusalOfPath? (join directory (name ++ ".dic")) = none
  place : ∃ address, fs'.HasDirectory directory address ∧
    fs'.file? = Function.update
      (Function.update fs.file? (address ++ [name ++ ".gram"])
        (some (artifacts.grammar.toUTF8, 0o644)))
      (address ++ [name ++ ".dic"]) (some (artifacts.dictionary.toUTF8, 0o644))

theorem keepsFiles_of_putBack {made : FileSystem} {address : List String} {target : String}
    (paves : FileSystem.Paves fs made directory)
    (staging : Staging made fs' directory address (putBack made.stat? (address ++ [target])) []) :
    fs.KeepsFiles fs' := by
  intro other
  rw [← congrFun paves.file?_eq other, FileSystem.file?, FileSystem.file?, staging.stat?_eq]
  rcases putBack_cases made.stat? (address ++ [target]) other with
    same | ⟨-, bytes, mode, there, -, copied⟩
  · left
    rw [same]
  · right
    rw [copied, there]
    rfl

theorem write_cases (wrote : run (artifacts.write directory name) fs = (answer, fs')) :
    Grows fs fs' ∧
      ((answer = .error (.badFileName name) ∧ ArtifactPaths.isBaseName name = false ∧ fs' = fs) ∨
        (∃ path refusal, answer = .error (.notWritten path refusal) ∧ fs.KeepsFiles fs') ∨
        (answer = .ok (.ofName directory name) ∧ IsPlaced artifacts directory name fs fs')) := by
  obtain ⟨answer', fs'', wrote', outcome⟩ := run_write artifacts directory name fs
  obtain ⟨rfl, rfl⟩ : answer' = answer ∧ fs'' = fs' := by
    rw [wrote, Prod.mk.injEq] at wrote'
    exact ⟨wrote'.1.symm, wrote'.2.symm⟩
  rcases outcome with
    ⟨rfl, rfl⟩ | ⟨path, refusal, rfl, paves⟩ | ⟨refusal, made, address, rfl, paves, staging⟩ |
      ⟨rfl, targets, made, address, paves, inPlace⟩
  · exact ⟨.refl _, .inl ⟨rfl, isBaseName_eq_false_of_write wrote, rfl⟩⟩
  · exact ⟨paves.grows, .inr (.inl ⟨path, refusal, rfl,
      fun address => .inl (congrFun paves.file?_eq address)⟩)⟩
  · exact ⟨paves.grows.trans staging.grows, .inr (.inl ⟨_, refusal, rfl,
      keepsFiles_of_putBack paves staging⟩)⟩
  · refine ⟨paves.grows.trans inPlace.staging.grows, .inr (.inr ⟨rfl, targets, inPlace.admitted,
      address, inPlace.staging.isDirectory, ?_⟩)⟩
    -- Files are read off the entries, and making the directories has brought none.
    rw [FileSystem.file?_eq_comp, inPlace.staging.stat?_eq, Function.comp_update,
      Function.comp_update, ← FileSystem.file?_eq_comp, paves.file?_eq]
    rfl

theorem IsPlaced.showsPair (placed : IsPlaced artifacts directory name fs fs') :
    fs'.ShowsPair (.ofName directory name) (some artifacts) := by
  obtain ⟨address, isDirectory, files⟩ := placed.place
  have apart : address ++ [name ++ ".gram"] ≠ address ++ [name ++ ".dic"] := by simp
  constructor
  · refine (FileSystem.fileAt?_join_eq_some_iff placed.targets.plain.1).2
      ⟨placed.admitted.1, address, isDirectory, ?_⟩
    rw [files, Function.update_of_ne apart, Function.update_self]
  · refine (FileSystem.fileAt?_join_eq_some_iff placed.targets.plain.2).2
      ⟨placed.admitted.2, address, isDirectory, ?_⟩
    rw [files, Function.update_self]

end Artifacts

end VoiceGrammar
