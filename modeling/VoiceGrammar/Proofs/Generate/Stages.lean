import VoiceGrammar.Generate
import VoiceGrammar.Proofs.ArtifactFiles.Outcome
import VoiceGrammar.Proofs.Compile.Answers

/-!
# The stages of a generation

A specification is read, the lexicon is loaded, the rule is compiled, and the artifacts are
written, in this order. Every failure tells the stage that it comes from, and a stage is reached
only through a success of the stages before it. All stages but the last one only read, so a failure
of theirs leaves the disk as it was.
-/

namespace VoiceGrammar

open FileSystem (run run_bind OnlyReads)

/-! ## Failures of a stage -/

inductive Stage where
  | reading
  | loading
  | compiling
  | writing
  deriving DecidableEq

def Failure.stage : Failure → Stage
  | .notJson _ | .notRule _ => .reading
  | .notRead .. | .noPhones .. => .loading
  | .badRuleName _ | .unknownWords _ => .compiling
  | .badFileName _ | .notWritten .. => .writing

theorem Failure.isValidation_iff {failure : Failure} :
    failure.isValidation = true ↔ failure.stage = .reading := by
  cases failure <;> simp [isValidation, stage]

theorem Failure.ne_badFileName {failure : Failure} (stage : failure.stage ≠ .writing)
    (bad : String) : failure ≠ .badFileName bad := by
  rintro rfl
  exact stage rfl

theorem RuleGroup.stage_of_ofJson {spec : String} {failure : Failure}
    (failed : RuleGroup.ofJson spec = .error failure) : failure.stage = .reading := by
  rw [ofJson] at failed
  split at failed
  · cases failed
    rfl
  · split at failed
    · cases failed
      rfl
    · cases failed

namespace Lexicon

theorem stage_of_readLines {origin : String} {lexicon : Lexicon} {number : Nat}
    {lines : List (List Char)} {failure : Failure}
    (failed : readLines origin lexicon number lines = .error failure) :
    failure.stage = .loading := by
  induction lines generalizing lexicon number with
  | nil => cases failed
  | cons raw rest inRest =>
    rw [readLines] at failed
    split at failed
    · exact inRest failed
    · exact inRest failed
    · cases failed
      rfl

theorem onlyReads_ofModel (model listName : String) : OnlyReads (ofModel model listName) := by
  refine (OnlyReads.readText _).bind fun answer => ?_
  split <;> exact .pure _

theorem stage_of_ofModel {model listName : String} {fs : FileSystem} {failure : Failure}
    (failed : (run (ofModel model listName) fs).1 = .error failure) :
    failure.stage = .loading := by
  rw [ofModel, run_bind] at failed
  split at failed
  · cases failed
    rfl
  · exact stage_of_readLines failed

theorem run_ofModel {model listName : String} {fs : FileSystem} {answer : Except Failure Lexicon}
    (loaded : (run (ofModel model listName) fs).1 = answer) :
    run (ofModel model listName) fs = (answer, fs) :=
  Prod.ext loaded (onlyReads_ofModel model listName fs)

end Lexicon

namespace RuleGroup

variable {group : RuleGroup} {settings : Settings} {name model : String} {fs : FileSystem}
  {failure : Failure} {artifacts : Artifacts}

theorem stage_of_compile {lookup : String → Option (List String)}
    (failed : group.compile name lookup = .error failure) : failure.stage = .compiling := by
  cases isName : Grammar.isRuleName name with
  | false =>
    rw [compile_of_isRuleName_eq_false isName] at failed
    cases failed
    rfl
  | true =>
    rw [compile_of_isRuleName isName, Dictionary.ofWords_eq] at failed
    split at failed
    · cases failed
      rfl
    · cases failed

theorem isRuleName_of_compile {lookup : String → Option (List String)}
    (compiled : group.compile name lookup = .ok artifacts) : Grammar.isRuleName name = true := by
  cases isName : Grammar.isRuleName name with
  | false =>
    rw [compile_of_isRuleName_eq_false isName] at compiled
    cases compiled
  | true => rfl

theorem run_compileFor_of_error (group : RuleGroup) (name : String)
    (failed : (run (Lexicon.ofModel model settings.listName) fs).1 = .error failure) :
    run (group.compileFor settings name model) fs = (.error failure, fs) := by
  rw [compileFor, run_bind, Lexicon.run_ofModel failed]
  rfl

theorem run_compileFor_of_ok (group : RuleGroup) (name : String) {lexicon : Lexicon}
    (loaded : (run (Lexicon.ofModel model settings.listName) fs).1 = .ok lexicon) :
    run (group.compileFor settings name model) fs =
      (group.compile (settings.ruleName.getD name) lexicon.pronunciations?, fs) := by
  rw [compileFor, run_bind, Lexicon.run_ofModel loaded]
  rfl

theorem compileFor_cases (group : RuleGroup) (settings : Settings) (name model : String)
    (fs : FileSystem) :
    (∃ failure, run (group.compileFor settings name model) fs = (.error failure, fs) ∧
        (failure.stage = .loading ∨ failure.stage = .compiling)) ∨
      ∃ artifacts, run (group.compileFor settings name model) fs = (.ok artifacts, fs) := by
  cases loaded : (run (Lexicon.ofModel model settings.listName) fs).1 with
  | error failure =>
    exact .inl ⟨failure, run_compileFor_of_error group name loaded,
      .inl (Lexicon.stage_of_ofModel loaded)⟩
  | ok lexicon =>
    rw [run_compileFor_of_ok group name loaded]
    cases compiled : group.compile (settings.ruleName.getD name) lexicon.pronunciations? with
    | error failure => exact .inl ⟨failure, rfl, .inr (stage_of_compile compiled)⟩
    | ok artifacts => exact .inr ⟨artifacts, rfl⟩

theorem run_generate_of_error
    (failed : run (group.compileFor settings name model) fs = (.error failure, fs)) :
    run (group.generate settings name model) fs = (.error failure, fs) := by
  rw [generate, run_bind, failed]
  rfl

theorem run_generate_of_ok
    (compiled : run (group.compileFor settings name model) fs = (.ok artifacts, fs)) :
    run (group.generate settings name model) fs =
      run (artifacts.write settings.directory name) fs := by
  rw [generate, run_bind, compiled]

end RuleGroup

theorem run_generate_of_ofJson_error {spec name model : String} {settings : Settings}
    {failure : Failure} (failed : RuleGroup.ofJson spec = .error failure) (fs : FileSystem) :
    run (generate spec name model settings) fs = (.error failure, fs) := by
  rw [generate, failed]
  rfl

theorem run_generate_of_ofJson_ok {spec name model : String} {settings : Settings}
    {group : RuleGroup} (isRead : RuleGroup.ofJson spec = .ok group) (fs : FileSystem) :
    run (generate spec name model settings) fs = run (group.generate settings name model) fs := by
  rw [generate, isRead]

/-- Every stage is reached through the stages before it, and the first failure is the answer. -/
theorem run_generate (spec name model : String) (settings : Settings) (fs : FileSystem) :
    run (generate spec name model settings) fs =
      match RuleGroup.ofJson spec with
      | .error failure => (.error failure, fs)
      | .ok group =>
        match (run (Lexicon.ofModel model settings.listName) fs).1 with
        | .error failure => (.error failure, fs)
        | .ok lexicon =>
          match group.compile (settings.ruleName.getD name) lexicon.pronunciations? with
          | .error failure => (.error failure, fs)
          | .ok artifacts => run (artifacts.write settings.directory name) fs := by
  cases isRead : RuleGroup.ofJson spec with
  | error failure => exact run_generate_of_ofJson_error isRead fs
  | ok group =>
    rw [run_generate_of_ofJson_ok isRead]
    simp only
    cases loaded : (run (Lexicon.ofModel model settings.listName) fs).1 with
    | error failure =>
      exact RuleGroup.run_generate_of_error (RuleGroup.run_compileFor_of_error group name loaded)
    | ok lexicon =>
      -- From here on the disk is as it was, and only the rule's own words decide.
      have compiledFor := RuleGroup.run_compileFor_of_ok group name loaded
      simp only
      cases compiled : group.compile (settings.ruleName.getD name) lexicon.pronunciations? with
      | error failure =>
        exact RuleGroup.run_generate_of_error (by rw [compiledFor, compiled])
      | ok artifacts =>
        exact RuleGroup.run_generate_of_ok (by rw [compiledFor, compiled])

/-- The failure is that of the stage that it tells, and all stages before it have succeeded. -/
def Failure.IsFirst (failure : Failure) (spec name model : String) (settings : Settings)
    (fs : FileSystem) : Prop :=
  match failure.stage with
  | .reading => RuleGroup.ofJson spec = .error failure
  | .loading =>
    ∃ group, RuleGroup.ofJson spec = .ok group ∧
      run (Lexicon.ofModel model settings.listName) fs = (.error failure, fs)
  | .compiling =>
    ∃ group lexicon, RuleGroup.ofJson spec = .ok group ∧
      run (Lexicon.ofModel model settings.listName) fs = (.ok lexicon, fs) ∧
      group.compile (settings.ruleName.getD name) lexicon.pronunciations? = .error failure
  | .writing =>
    ∃ group lexicon artifacts, RuleGroup.ofJson spec = .ok group ∧
      run (Lexicon.ofModel model settings.listName) fs = (.ok lexicon, fs) ∧
      group.compile (settings.ruleName.getD name) lexicon.pronunciations? = .ok artifacts

/-- The stages are passed in their order: the answer is that of the first stage that fails, which
the failure tells, or of the writing, and only a failing write may touch the disk. A success leaves
the two texts that the rule compiles to. A base name that is also the rule name is never refused as
a file name. -/
theorem generate_in_stages (spec name model : String) (settings : Settings) (fs : FileSystem) :
    (run (generate spec name model settings) fs =
      match RuleGroup.ofJson spec with
      | .error failure => (.error failure, fs)
      | .ok group =>
        match (run (Lexicon.ofModel model settings.listName) fs).1 with
        | .error failure => (.error failure, fs)
        | .ok lexicon =>
          match group.compile (settings.ruleName.getD name) lexicon.pronunciations? with
          | .error failure => (.error failure, fs)
          | .ok artifacts => run (artifacts.write settings.directory name) fs) ∧
    (∀ failure, RuleGroup.ofJson spec = .error failure →
      run (generate spec name model settings) fs = (.error failure, fs)) ∧
    (∀ base, Grammar.isRuleName base = true → ArtifactPaths.isBaseName base = true) ∧
    match run (generate spec name model settings) fs with
    | (.error failure, fs') =>
      (failure.isValidation = true ↔ RuleGroup.ofJson spec = .error failure) ∧
        failure.IsFirst spec name model settings fs ∧
        ((∀ path refusal, failure ≠ .notWritten path refusal) → fs' = fs) ∧
        (settings.ruleName = none → ∀ bad, failure ≠ .badFileName bad)
    | (.ok paths, fs') =>
      paths = .ofName settings.directory name ∧
        ∃ group lexicon artifacts,
          RuleGroup.ofJson spec = .ok group ∧
          run (Lexicon.ofModel model settings.listName) fs = (.ok lexicon, fs) ∧
          group.compile (settings.ruleName.getD name) lexicon.pronunciations? = .ok artifacts ∧
          fs'.ShowsPair paths (some artifacts) := by
  refine ⟨run_generate spec name model settings fs,
    fun failure failed => run_generate_of_ofJson_error failed fs,
    fun base => ArtifactPaths.isBaseName_of_isRuleName, ?_⟩
  -- Each failure is followed to its stage, which is that of no other failure.
  rw [run_generate]
  cases isRead : RuleGroup.ofJson spec with
  | error failure =>
    have stage := RuleGroup.stage_of_ofJson isRead
    refine ⟨by simp [Failure.isValidation_iff, stage], ?_, fun _ => rfl,
      fun _ => Failure.ne_badFileName (by simp [stage])⟩
    rw [Failure.IsFirst, stage]
    exact isRead
  | ok group =>
    cases loaded : (run (Lexicon.ofModel model settings.listName) fs).1 with
    | error failure =>
      have stage := Lexicon.stage_of_ofModel loaded
      refine ⟨by simp [Failure.isValidation_iff, stage], ?_, fun _ => rfl,
        fun _ => Failure.ne_badFileName (by simp [stage])⟩
      rw [Failure.IsFirst, stage]
      exact ⟨group, isRead, Lexicon.run_ofModel loaded⟩
    | ok lexicon =>
      have isLoaded := Lexicon.run_ofModel loaded
      simp only
      cases compiled : group.compile (settings.ruleName.getD name) lexicon.pronunciations? with
      | error failure =>
        have stage := RuleGroup.stage_of_compile compiled
        refine ⟨by simp [Failure.isValidation_iff, stage], ?_, fun _ => rfl,
          fun _ => Failure.ne_badFileName (by simp [stage])⟩
        rw [Failure.IsFirst, stage]
        exact ⟨group, lexicon, isRead, isLoaded, compiled⟩
      | ok artifacts =>
        simp only
        generalize wrote : run (artifacts.write settings.directory name) fs = outcome
        obtain ⟨answer, fs'⟩ := outcome
        obtain ⟨-, ⟨rfl, notBase, rfl⟩ | ⟨path, refusal, rfl, -⟩ | ⟨rfl, placed⟩⟩ :=
          Artifacts.write_cases wrote
        · refine ⟨by simp [Failure.isValidation],
            ⟨group, lexicon, artifacts, isRead, isLoaded, compiled⟩, fun _ => rfl, ?_⟩
          -- Without a rule name of its own, the base name has been checked as one.
          intro noName bad _
          rw [noName, Option.getD_none] at compiled
          rw [ArtifactPaths.isBaseName_of_isRuleName (RuleGroup.isRuleName_of_compile compiled)]
            at notBase
          cases notBase
        · refine ⟨by simp [Failure.isValidation],
            ⟨group, lexicon, artifacts, isRead, isLoaded, compiled⟩,
            fun other => absurd rfl (other path refusal), ?_⟩
          rintro - bad ⟨⟩
        · exact ⟨rfl, group, lexicon, artifacts, rfl, isLoaded, compiled, placed.showsPair⟩

/-- A disk with a specification and an acoustic model of one word. -/
def oneWordDisk : FileSystem where
  entries := [("work", .directory [
    ("spec.json", .file "\x7b\"ThisWillBeSaidOnce\": [\"GO\"]\x7d".toUTF8 0o644),
    ("model", .directory [(Lexicon.defaultListName, .file "GO\tG OW\n".toUTF8 0o644)])])]
  working := ["work"]

/-- All stages are passed, and the pair is on the disk. -/
theorem generate_in_stages_one_word :
    ∃ fs', run (generate "\x7b\"ThisWillBeSaidOnce\": [\"GO\"]\x7d" "robot" "model" {})
        oneWordDisk = (.ok ⟨"./robot.gram", "./robot.dic"⟩, fs') ∧
      fs'.ShowsPair ⟨"./robot.gram", "./robot.dic"⟩
        (some ⟨"#JSGF V1.0;\ngrammar robot;\npublic <robot> = GO;\n", "GO\tG OW\n"⟩) := by
  have succeeded : (run (generate "\x7b\"ThisWillBeSaidOnce\": [\"GO\"]\x7d" "robot" "model" {})
      oneWordDisk).1.toOption = some ⟨"./robot.gram", "./robot.dic"⟩ := by
    decide +kernel
  have texts : ((RuleGroup.ofJson "\x7b\"ThisWillBeSaidOnce\": [\"GO\"]\x7d").toOption.bind
      fun group => (run (group.compileFor {} "robot" "model") oneWordDisk).1.toOption) =
        some ⟨"#JSGF V1.0;\ngrammar robot;\npublic <robot> = GO;\n", "GO\tG OW\n"⟩ := by
    decide +kernel
  obtain ⟨-, -, -, stages⟩ := generate_in_stages
    "\x7b\"ThisWillBeSaidOnce\": [\"GO\"]\x7d" "robot" "model" {} oneWordDisk
  -- The run is kept as it stands: what it leaves is known from the theorem.
  generalize run (generate _ _ _ _) oneWordDisk = outcome at succeeded stages ⊢
  obtain ⟨answer, fs'⟩ := outcome
  cases answer with
  | error failure => cases succeeded
  | ok paths =>
    cases succeeded
    obtain ⟨-, group, lexicon, artifacts, isRead, loaded, compiled, shows⟩ := stages
    have same := RuleGroup.run_compileFor_of_ok group "robot" (congrArg Prod.fst loaded)
    rw [isRead] at texts
    simp only [Except.toOption, Option.bind_some, same, compiled] at texts
    cases texts
    exact ⟨fs', rfl, shows⟩

end VoiceGrammar
