import VoiceGrammar.Proofs.ArtifactFiles.Staging
import VoiceGrammar.Proofs.Disk.Directories

/-!
# A pair is written as a whole or not at all

Whatever stops a write, the two targets are left as they were: before the first move only staged
files have come, and when the second move is refused the first one is taken back. Directories that
were made on the way to the output directory stay, and nothing else does. What comes back for the
grammar is a copy of it, which may lend fewer rights than the file that it was made from.
-/

namespace VoiceGrammar

open VoiceGrammar.Path (join IsPlain)
open FileSystem (run run_bind run_pure Grows Paves Keeps refusalOfPath? artifactMode)

/-! ## The names of a pair -/

namespace ArtifactPaths

theorem noSlash_of_isBaseName {name : String} (isBase : isBaseName name = true) :
    '/' ∉ name.toList := by
  intro slash
  rw [isBaseName, Bool.and_eq_true, List.all_eq_true] at isBase
  exact absurd (isBase.2 '/' slash) (by decide)

variable {name suffix : String}

theorem isPlain_target (isBase : isBaseName name = true) (noSlash : '/' ∉ suffix.toList)
    (long : 2 < suffix.toList.length) : IsPlain (name ++ suffix) := by
  apply Path.isPlain_of_length
  · rw [String.toList_append, List.mem_append, not_or]
    exact ⟨noSlash_of_isBaseName isBase, noSlash⟩
  · rw [String.toList_append, List.length_append]
    omega

theorem foreign_target (last : Char) (isLast : suffix.toList.getLast? = some last)
    (noDigit : last.isDigit = false) (n : Nat) : name ++ suffix ≠ Entries.temporaryName n := by
  intro same
  have ends : (Entries.temporaryName n).toList.getLast? = some last := by
    rw [← same, String.toList_append, List.getLast?_append, isLast, Option.some_or]
  rw [Entries.isDigit_of_getLast?_temporaryName ends] at noDigit
  cases noDigit

/-- The two names that a pair is moved to. -/
structure Targets (grammar dictionary : String) : Prop where
  plain : IsPlain grammar ∧ IsPlain dictionary
  foreign : ∀ n, grammar ≠ Entries.temporaryName n ∧ dictionary ≠ Entries.temporaryName n
  different : grammar ≠ dictionary

theorem targets_of_isBaseName {name : String} (isBase : isBaseName name = true) :
    Targets (name ++ ".gram") (name ++ ".dic") where
  plain := ⟨isPlain_target isBase (by decide) (by decide),
    isPlain_target isBase (by decide) (by decide)⟩
  foreign n := ⟨foreign_target 'm' (by decide) (by decide) n,
    foreign_target 'c' (by decide) (by decide) n⟩
  different := by
    intro same
    have lengths := congrArg String.length same
    have fixed : ".gram".length = 5 ∧ ".dic".length = 4 := by decide
    rw [String.length_append, String.length_append, fixed.1, fixed.2] at lengths
    omega

end ArtifactPaths

/-- What an entry is once it was replaced by a copy of itself. Directories are not copied. -/
def Stat.copied : Stat → Stat
  | .file bytes mode => .file bytes (copiedMode bytes mode)
  | .directory => .directory

namespace Artifacts

variable {start fs : FileSystem} {directory : String} {address : List String}
  {shown : List String → Option Stat} {staged : List StagedFile}

theorem run_discard {kept : Option StagedFile}
    (staging : Staging start fs directory address shown (kept.toList ++ staged)) :
    ∃ fs', run (discard (kept.map (·.path directory))) fs = ((), fs') ∧
      Staging start fs' directory address shown staged := by
  cases kept with
  | none => exact ⟨fs, rfl, staging⟩
  | some copy => exact staging.run_remove []

/-- What is shown once the entry at an address has come back as its copy. -/
def putBack (shown : List String → Option Stat) (address : List String) :
    List String → Option Stat :=
  Function.update shown address ((shown address).map Stat.copied)

/-- Only a file that lends rights comes back as something else. -/
theorem putBack_cases (shown : List String → Option Stat) (address other : List String) :
    putBack shown address other = shown other ∨
      other = address ∧ ∃ bytes mode, shown other = some (.file bytes mode) ∧ 0o2000 ≤ mode ∧
        putBack shown address other = some (.file bytes (copiedMode bytes mode)) := by
  by_cases isTarget : other = address
  · subst isTarget
    rw [putBack, Function.update_self]
    cases shown other with
    | none => exact .inl rfl
    | some stat =>
      cases stat with
      | directory => exact .inl rfl
      | file bytes mode =>
        by_cases small : mode < 0o2000
        · left
          rw [Option.map_some, Stat.copied, copiedMode_of_lt bytes small]
        · exact .inr ⟨rfl, bytes, mode, rfl, Nat.le_of_not_lt small, rfl⟩
  · exact .inl (Function.update_of_ne isTarget _ _)

/-- The earlier grammar is kept: a copy of the file that the target is, or nothing if it is none. -/
structure IsKept (directory : String) (target : String) (earlier : Option Stat)
    (kept : Option StagedFile) : Prop where
  copy : ∀ file ∈ kept, earlier.map Stat.copied = some file.stat
  noFile : kept = none → refusalOfPath? (join directory target) = none →
    ∀ bytes mode, earlier ≠ some (.file bytes mode)

variable {target : String}

theorem run_keep? (staging : Staging start fs directory address shown staged)
    (plain : IsPlain target) (foreign : ∀ n, target ≠ Entries.temporaryName n) :
    (∃ refusal, run (keep? directory (join directory target)) fs = (.error refusal, fs)) ∨
      ∃ kept fs', run (keep? directory (join directory target)) fs =
          (.ok (kept.map (·.path directory)), fs') ∧
        IsKept directory target (shown (address ++ [target])) kept ∧
        Staging start fs' directory address shown (kept.toList ++ staged) := by
  obtain ⟨answer, looked, isFile⟩ := FileSystem.run_isFile staging.isDirectory plain
  rw [staging.stat?_target foreign] at isFile
  rw [keep?, run_bind, looked]
  cases answer with
  | false =>
    refine .inr ⟨none, fs, rfl, ⟨by simp, ?_⟩, staging⟩
    intro _ admitted bytes mode there
    exact absurd (isFile.2 ⟨admitted, bytes, mode, there⟩) (by decide)
  | true =>
    obtain ⟨admitted, bytes, mode, there⟩ := isFile.1 rfl
    rw [← staging.stat?_target foreign] at there
    simp only [if_true]
    rw [run_bind]
    rcases FileSystem.run_setAside staging.isDirectory plain admitted there with
      ⟨refusal, refused⟩ | ⟨copy, fs', copied, adds⟩
    · rw [refused]
      exact .inl ⟨refusal, rfl⟩
    · rw [copied]
      rw [staging.stat?_target foreign] at there
      refine .inr ⟨some ⟨copy, bytes, copiedMode bytes mode⟩, fs', rfl, ⟨?_, by simp⟩,
        staging.add _ adds⟩
      rintro file ⟨⟩
      rw [there]
      rfl

/-- After a move to the target a copy of the earlier grammar, or its absence, is shown again. -/
theorem run_restore {kept : Option StagedFile} {stat : Stat}
    (staging : Staging start fs directory address
      (Function.update shown (address ++ [target]) (some stat)) (kept.toList ++ staged))
    (plain : IsPlain target) (foreign : ∀ n, target ≠ Entries.temporaryName n)
    (admitted : refusalOfPath? (join directory target) = none)
    (bare : shown (address ++ [target]) ≠ some .directory)
    (isFile : ∃ bytes mode, stat = .file bytes mode)
    (keeps : IsKept directory target (shown (address ++ [target])) kept) :
    ∃ fs', run (restore (join directory target) (kept.map (·.path directory))) fs = ((), fs') ∧
      Staging start fs' directory address (putBack shown (address ++ [target])) staged := by
  obtain ⟨bytes, mode, rfl⟩ := isFile
  have there := staging.stat?_target foreign
  rw [Function.update_self] at there
  cases kept with
  | none =>
    obtain ⟨fs', removed, puts⟩ := FileSystem.run_remove staging.isDirectory plain admitted there
    have placed := staging.place foreign (by simp [there]) puts
    -- A file at the target would have been kept, and onto a directory nothing moves.
    have absent : shown (address ++ [target]) = none := by
      cases found : shown (address ++ [target]) with
      | none => rfl
      | some stat =>
        cases stat with
        | directory => exact absurd found bare
        | file bytes mode => exact absurd found (keeps.noFile rfl admitted bytes mode)
    rw [Function.update_idem] at placed
    refine ⟨fs', removed, ?_⟩
    rw [putBack, absent]
    exact placed
  | some copy =>
    rcases staging.run_rename [] plain foreign with
      ⟨refusal, refused, noFile⟩ | ⟨fs', moved, -, -, placed⟩
    · -- The new grammar is a file at the target, so a move there is not refused.
      have impossible := noFile bytes mode admitted
      rw [Function.update_self] at impossible
      exact absurd rfl impossible
    · rw [Function.update_idem] at placed
      refine ⟨fs', ?_, ?_⟩
      · rw [Option.map_some, restore, run_bind, moved]
        rfl
      · rw [putBack, keeps.copy copy rfl]
        exact placed

/-- The two files are at the targets, which had no directory, and nothing is staged any more. -/
structure InPlace (start fs : FileSystem) (directory : String) (address : List String)
    (shown : List String → Option Stat) (grammar dictionary : String)
    (first second : Stat) : Prop where
  admitted : refusalOfPath? (join directory grammar) = none ∧
    refusalOfPath? (join directory dictionary) = none
  bare : shown (address ++ [grammar]) ≠ some .directory ∧
    shown (address ++ [dictionary]) ≠ some .directory
  staging : Staging start fs directory address
    (Function.update (Function.update shown (address ++ [grammar]) (some first))
      (address ++ [dictionary]) (some second)) []

namespace InPlace

variable {grammar dictionary : String} {first second : Stat}

theorem stat?_dictionary
    (inPlace : InPlace start fs directory address shown grammar dictionary first second) :
    fs.stat? (address ++ [dictionary]) = some second := by
  rw [inPlace.staging.stat?_eq, Function.update_self]

theorem stat?_grammar
    (inPlace : InPlace start fs directory address shown grammar dictionary first second)
    (different : grammar ≠ dictionary) : fs.stat? (address ++ [grammar]) = some first := by
  have apart : address ++ [grammar] ≠ address ++ [dictionary] := by simpa using different
  rw [inPlace.staging.stat?_eq, Function.update_of_ne apart, Function.update_self]

theorem stat?_other
    (inPlace : InPlace start fs directory address shown grammar dictionary first second)
    {other : List String} (notGrammar : other ≠ address ++ [grammar])
    (notDictionary : other ≠ address ++ [dictionary]) : fs.stat? other = shown other := by
  rw [inPlace.staging.stat?_eq, Function.update_of_ne notDictionary,
    Function.update_of_ne notGrammar]

end InPlace

theorem run_moveIntoPlace {grammar dictionary : String}
    (targets : ArtifactPaths.Targets grammar dictionary)
    {first second : StagedFile} {kept : Option StagedFile}
    (staging : Staging start fs directory address shown (kept.toList ++ [second, first]))
    (keeps : IsKept directory grammar (shown (address ++ [grammar])) kept) :
    ∃ answer fs', run (moveIntoPlace ⟨join directory grammar, join directory dictionary⟩
        (first.path directory) (second.path directory) (kept.map (·.path directory))) fs =
          (answer, fs') ∧
      ((∃ path refusal, answer = .error (.notWritten path refusal) ∧
          Staging start fs' directory address shown []) ∨
        (∃ refusal, answer = .error (.notWritten (join directory dictionary) refusal) ∧
          Staging start fs' directory address (putBack shown (address ++ [grammar])) []) ∨
        (answer = .ok ⟨join directory grammar, join directory dictionary⟩ ∧
          InPlace start fs' directory address shown grammar dictionary first.stat
            second.stat)) := by
  have foreign := fun n => (targets.foreign n).1
  have foreign' := fun n => (targets.foreign n).2
  have stagedFirst : Staging start fs directory address shown
      ((kept.toList ++ [second]) ++ first :: []) := by
    simpa using staging
  rw [moveIntoPlace, run_bind]
  rcases stagedFirst.run_rename _ targets.plain.1 foreign with
    ⟨refusal, refused, -⟩ | ⟨fs₁, moved, admitted, bare, staging₁⟩
  · -- Nothing has moved yet, and only the staged files have to go.
    obtain ⟨fs₁, discarded, staging₁⟩ := run_discard staging
    obtain ⟨fs₂, removed, staging₂⟩ := staging₁.run_remove []
    obtain ⟨fs₃, removed', staging₃⟩ := staging₂.run_remove []
    refine ⟨_, fs₃, ?_, .inl ⟨join directory grammar, refusal, rfl, staging₃⟩⟩
    rw [refused]
    simp only [run_bind, discarded, removed, removed', run_pure]
  · rw [List.append_nil] at staging₁
    have sameTarget : Function.update shown (address ++ [grammar]) (some first.stat)
        (address ++ [dictionary]) = shown (address ++ [dictionary]) :=
      Function.update_of_ne (by simpa using targets.different.symm) _ _
    rcases staging₁.run_rename _ targets.plain.2 foreign' with
      ⟨refusal, refused, -⟩ | ⟨fs₂, moved', admitted', bare', staging₂⟩
    · -- The second move is refused, so the first one is taken back.
      obtain ⟨fs₂, restored, staging₂⟩ := run_restore staging₁ targets.plain.1 foreign admitted
        bare ⟨_, _, rfl⟩ keeps
      obtain ⟨fs₃, removed, staging₃⟩ := staging₂.run_remove []
      refine ⟨_, fs₃, ?_, .inr (.inl ⟨refusal, rfl, staging₃⟩)⟩
      rw [moved]
      simp only [run_bind, refused, restored, removed, run_pure]
    · obtain ⟨fs₃, discarded, staging₃⟩ := run_discard staging₂
      rw [sameTarget] at bare'
      refine ⟨_, fs₃, ?_, .inr (.inr ⟨rfl, ⟨admitted, admitted'⟩, ⟨bare, bare'⟩, staging₃⟩)⟩
      rw [moved]
      simp only [run_bind, moved', discarded, run_pure]

theorem run_writeInto (artifacts : Artifacts) (directory : String) {grammar dictionary : String}
    (targets : ArtifactPaths.Targets grammar dictionary) (fs : FileSystem) :
    ∃ answer fs', run (writeInto directory ⟨join directory grammar, join directory dictionary⟩
        artifacts) fs = (answer, fs') ∧
      ((∃ path refusal, answer = .error (.notWritten path refusal) ∧
          fs'.working = fs.working ∧ fs'.stat? = fs.stat?) ∨
        (∃ refusal address, answer = .error (.notWritten (join directory dictionary) refusal) ∧
          Staging fs fs' directory address (putBack fs.stat? (address ++ [grammar])) []) ∨
        (answer = .ok ⟨join directory grammar, join directory dictionary⟩ ∧
          ∃ address, InPlace fs fs' directory address fs.stat? grammar dictionary
            (.file artifacts.grammar.toUTF8 artifactMode)
            (.file artifacts.dictionary.toUTF8 artifactMode))) := by
  rw [writeInto, run_bind]
  rcases Staging.run_begin directory artifacts.grammar fs with
    ⟨refusal, refused⟩ | ⟨address, first, fs₁, put, isFirst, staging₁⟩
  · rw [refused]
    exact ⟨_, fs, rfl, .inl ⟨join directory grammar, refusal, rfl, rfl, rfl⟩⟩
  -- From here on a refusal has the files removed that are staged, the last one first.
  rw [put]
  simp only [run_bind]
  rcases staging₁.run_stage artifacts.dictionary with
    ⟨refusal, refused⟩ | ⟨second, fs₂, put', isSecond, staging₂⟩
  · obtain ⟨fs₂, removed, staging₂⟩ := staging₁.run_remove []
    refine ⟨_, fs₂, ?_, .inl ⟨join directory dictionary, refusal, rfl, staging₂.unchanged⟩⟩
    rw [refused]
    simp only [run_bind, removed, run_pure]
  rw [put']
  simp only [run_bind]
  rcases run_keep? staging₂ targets.plain.1 fun n => (targets.foreign n).1 with
    ⟨refusal, refused⟩ | ⟨kept, fs₃, copied, isKept, staging₃⟩
  · obtain ⟨fs₃, removed, staging₃⟩ := staging₂.run_remove []
    obtain ⟨fs₄, removed', staging₄⟩ := staging₃.run_remove []
    refine ⟨_, fs₄, ?_, .inl ⟨join directory grammar, refusal, rfl, staging₄.unchanged⟩⟩
    rw [refused]
    simp only [run_bind, removed, removed', run_pure]
  · rw [copied]
    obtain ⟨answer, fs₄, moved, outcome⟩ := run_moveIntoPlace targets staging₃ isKept
    rw [isFirst, isSecond] at outcome
    refine ⟨answer, fs₄, moved, ?_⟩
    rcases outcome with
      ⟨path, refusal, isError, staging₄⟩ | ⟨refusal, isError, staging₄⟩ | ⟨isOk, inPlace⟩
    · exact .inl ⟨path, refusal, isError, staging₄.unchanged⟩
    · exact .inr (.inl ⟨refusal, address, isError, staging₄⟩)
    · exact .inr (.inr ⟨isOk, address, inPlace⟩)

/-- A write is refused for the name, fails with at most new directories to show for it, fails at the
dictionary so that the grammar comes back, or puts the pair into place after making directories. -/
theorem run_write (artifacts : Artifacts) (directory name : String) (fs : FileSystem) :
    ∃ answer fs', run (artifacts.write directory name) fs = (answer, fs') ∧
      ((answer = .error (.badFileName name) ∧ fs' = fs) ∨
        (∃ path refusal, answer = .error (.notWritten path refusal) ∧ Paves fs fs' directory) ∨
        (∃ refusal made address,
          answer = .error (.notWritten (ArtifactPaths.ofName directory name).dictionary refusal) ∧
          Paves fs made directory ∧ Staging made fs' directory address
            (putBack made.stat? (address ++ [name ++ ".gram"])) []) ∨
        (answer = .ok (.ofName directory name) ∧
          ArtifactPaths.Targets (name ++ ".gram") (name ++ ".dic") ∧
          ∃ made address, Paves fs made directory ∧ InPlace made fs' directory address made.stat?
            (name ++ ".gram") (name ++ ".dic") (.file artifacts.grammar.toUTF8 artifactMode)
            (.file artifacts.dictionary.toUTF8 artifactMode))) := by
  rw [write]
  split
  · next isBase =>
    have paves := FileSystem.onlyPaves_makeDirectories directory fs
    rw [run_bind]
    generalize run (makeDirectories directory) fs = outcome at paves ⊢
    obtain ⟨answer, made⟩ := outcome
    cases answer with
    | error refusal => exact ⟨_, made, rfl, .inr (.inl ⟨directory, refusal, rfl, paves⟩)⟩
    | ok =>
      have targets := ArtifactPaths.targets_of_isBaseName isBase
      obtain ⟨answer, fs', wrote, outcome⟩ := run_writeInto artifacts directory targets made
      refine ⟨answer, fs', wrote, .inr ?_⟩
      rcases outcome with
        ⟨path, refusal, isError, working, same⟩ | ⟨refusal, address, isError, staging⟩ |
          ⟨isOk, address, inPlace⟩
      · exact .inl ⟨path, refusal, isError, paves.trans (.of_stat?_eq working same)⟩
      · exact .inr (.inl ⟨refusal, made, address, isError, paves, staging⟩)
      · exact .inr (.inr ⟨isOk, targets, made, address, paves, inPlace⟩)
  · exact ⟨_, fs, rfl, .inl ⟨rfl, rfl⟩⟩

/-- The file under a name has come back to a directory as a copy of itself. It has lent rights and
may lend fewer now; all other bits of its mode, and its bytes, are what they were. -/
structure ComesBack (fs fs' : FileSystem) (directory name : String) (other : List String) :
    Prop where
  place : ∃ address, fs'.HasDirectory directory address ∧ other = address ++ [name]
  copy : ∃ bytes mode, fs.stat? other = some (.file bytes mode) ∧
    fs'.stat? other = some (.file bytes (copiedMode bytes mode)) ∧
    0o2000 ≤ mode ∧ copiedMode bytes mode % 0o2000 = mode % 0o2000

/-- After directories were made, an entry that is then left alone is kept. -/
theorem keeps_of_stat?_eq {made fs' : FileSystem} {other : List String}
    (paves : Paves fs made directory) (grows : Grows made fs')
    (same : fs'.stat? other = made.stat? other) : Keeps fs fs' directory other := by
  rcases paves.keeps other with kept | ⟨absent, isNew, leads⟩
  · exact .inl (same.trans kept)
  · exact .inr ⟨absent, same.trans isNew, leads.of_grows isNew grows⟩

/-- What has been put back is kept, or it is a file that has come back. -/
theorem keeps_or_comesBack {made fs' : FileSystem} (paves : Paves fs made directory)
    (staging : Staging made fs' directory address (putBack made.stat? (address ++ [target])) [])
    (other : List String) :
    Keeps fs fs' directory other ∨ ComesBack fs fs' directory target other := by
  have shown := congrFun staging.stat?_eq other
  rcases putBack_cases made.stat? (address ++ [target]) other with
    same | ⟨rfl, bytes, mode, there, lends, copied⟩
  · exact .inl (keeps_of_stat?_eq paves staging.grows (shown.trans same))
  · -- A file is no directory that was made, so it was there at first.
    have atFirst : fs.stat? (address ++ [target]) = some (.file bytes mode) := by
      rcases paves.keeps (address ++ [target]) with kept | ⟨-, isNew, -⟩
      · exact kept.symm.trans there
      · cases isNew.symm.trans there
    exact .inr ⟨⟨address, staging.isDirectory, rfl⟩, bytes, mode, atFirst, shown.trans copied,
      lends, copiedMode_mod bytes mode⟩

/-- Either the pair is written, or every entry is what it was, except that a grammar taken back
after the dictionary could not follow may lend fewer rights. Apart from the pair all that may be new
are directories on the way to the output directory. A bad name changes nothing. -/
theorem write_all_or_nothing (artifacts : Artifacts) (directory name : String) (fs : FileSystem) :
    match run (artifacts.write directory name) fs with
    | (.ok paths, fs') =>
      paths = .ofName directory name ∧
        fs'.nodeAt? paths.grammar = some (.file artifacts.grammar.toUTF8 0o644) ∧
        fs'.nodeAt? paths.dictionary = some (.file artifacts.dictionary.toUTF8 0o644) ∧
        ∃ address, fs'.HasDirectory directory address ∧
          fs'.stat? (address ++ [name ++ ".gram"]) =
            some (.file artifacts.grammar.toUTF8 0o644) ∧
          fs'.stat? (address ++ [name ++ ".dic"]) =
            some (.file artifacts.dictionary.toUTF8 0o644) ∧
          ∀ other, other ≠ address ++ [name ++ ".gram"] → other ≠ address ++ [name ++ ".dic"] →
            Keeps fs fs' directory other
    | (.error failure, fs') =>
      (∀ other, Keeps fs fs' directory other ∨
        (ComesBack fs fs' directory (name ++ ".gram") other ∧
          ∃ refusal,
            failure = .notWritten (ArtifactPaths.ofName directory name).dictionary refusal)) ∧
        ∀ bad, failure = .badFileName bad → fs' = fs := by
  obtain ⟨answer, fs', wrote, outcome⟩ := run_write artifacts directory name fs
  rw [wrote]
  rcases outcome with
    ⟨rfl, rfl⟩ | ⟨path, refusal, rfl, paves⟩ | ⟨refusal, made, address, rfl, paves, staging⟩ |
      ⟨rfl, targets, made, address, paves, inPlace⟩
  case inl => exact ⟨fun _ => .inl (.inl rfl), fun _ _ => rfl⟩
  case inr.inl =>
    refine ⟨fun other => .inl (paves.keeps other), ?_⟩
    rintro bad ⟨⟩
  case inr.inr.inl =>
    constructor
    · intro other
      rcases keeps_or_comesBack paves staging other with kept | back
      · exact .inl kept
      · exact .inr ⟨back, refusal, rfl⟩
    · rintro bad ⟨⟩
  case inr.inr.inr =>
    have isDirectory := inPlace.staging.isDirectory
    have hasGrammar := inPlace.stat?_grammar targets.different
    have hasDictionary := inPlace.stat?_dictionary
    refine ⟨rfl, ?_, ?_, address, isDirectory, hasGrammar, hasDictionary, ?_⟩
    · exact (isDirectory.nodeAt?_join targets.plain.1 inPlace.admitted.1).trans
        (FileSystem.stat?_eq_file_iff.1 hasGrammar)
    · exact (isDirectory.nodeAt?_join targets.plain.2 inPlace.admitted.2).trans
        (FileSystem.stat?_eq_file_iff.1 hasDictionary)
    · -- What the directories left as it was, or made, the pair does not touch.
      intro other notGrammar notDictionary
      exact keeps_of_stat?_eq paves inPlace.staging.grows
        (inPlace.stat?_other notGrammar notDictionary)

example : (run (write ⟨"G\n", "D\n"⟩ "out" "x") (.startingIn ["work"])).1 =
    .ok ⟨"out/x.gram", "out/x.dic"⟩ := by
  rfl

/-- A failed write may leave its traces at the targets: a directory where nothing was before, if it
is on the way to the output directory, and a grammar that lends its owner's rights no more, if it
was taken back. -/
theorem write_fails_with_traces :
    (∃ fs', run (write ⟨"G\n", "D\n"⟩ "x.gram/.." "x") (.startingIn ["work"]) =
        (.error (.notWritten (ArtifactPaths.ofName "x.gram/.." "x").grammar .isDirectory), fs') ∧
      fs'.HasDirectory "x.gram/.." ["work"] ∧
      (FileSystem.startingIn ["work"]).stat? ["work", "x" ++ ".gram"] = none ∧
      fs'.stat? ["work", "x" ++ ".gram"] = some .directory) ∧
    let start : FileSystem :=
      ⟨[("work", .directory [("x.gram", .file "OLD\n".toUTF8 0o4755), ("x.dic", .directory [])])],
        ["work"]⟩
    ∃ fs', run (write ⟨"G\n", "D\n"⟩ "." "x") start =
        (.error (.notWritten (ArtifactPaths.ofName "." "x").dictionary .isDirectory), fs') ∧
      fs'.HasDirectory "." ["work"] ∧
      start.stat? ["work", "x" ++ ".gram"] = some (.file "OLD\n".toUTF8 0o4755) ∧
      fs'.stat? ["work", "x" ++ ".gram"] = some (.file "OLD\n".toUTF8 0o755) :=
  ⟨⟨_, rfl, ⟨_, rfl, rfl, rfl⟩, rfl, rfl⟩, _, rfl, ⟨_, rfl, rfl, rfl⟩, rfl, rfl⟩

end Artifacts

end VoiceGrammar
