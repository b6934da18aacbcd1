import VoiceGrammar.CommandLine.Report
import VoiceGrammar.Proofs.CommandLine.Arguments
import VoiceGrammar.Proofs.Generate.Stages

/-!
# Dry runs

A dry run and a real run read the same specification, judge the same utterances and compile the same
rule, so they part only after the compilation has succeeded. Up to there nothing is written, and a
failure is reported alike by both. The dry run compiles by itself what a generation compiles before
it writes, which is why the two have to be shown to be one.
-/

namespace VoiceGrammar

open FileSystem (run run_bind)

namespace RuleGroup

theorem run_ofFile (path : String) (fs : FileSystem) :
    run (ofFile path) fs = run (match fs.readText path with
      | .error refusal => pure (.error (.notRead path refusal))
      | .ok text => pure (ofJson text)) fs :=
  rfl

/-- Only a text that is no specification makes the reading of a rule fail at the specification. -/
theorem ofFile_cases (path : String) (fs : FileSystem) :
    (∃ failure, run (ofFile path) fs = (.error failure, fs) ∧
        (failure.stage = .reading ↔
          ∃ text failure, fs.readText path = .ok text ∧ ofJson text = .error failure)) ∨
      ∃ text group, fs.readText path = .ok text ∧ ofJson text = .ok group ∧
        run (ofFile path) fs = (.ok group, fs) := by
  rw [run_ofFile]
  cases fs.readText path with
  | error refusal => exact .inl ⟨.notRead path refusal, rfl, by simp [Failure.stage]⟩
  | ok text =>
    cases isRead : ofJson text with
    | error failure =>
      exact .inl ⟨failure, congrArg (·, fs) isRead, by simp [isRead, stage_of_ofJson isRead]⟩
    | ok group => exact .inr ⟨text, group, rfl, isRead, congrArg (·, fs) isRead⟩

end RuleGroup

namespace CommandLine

variable {options : Options} {group : RuleGroup} {failure : Failure} {output : String}
  {artifacts : Artifacts} {paths : ArtifactPaths} {fs fs' : FileSystem}

theorem exitStatus_eq_two_iff : exitStatus failure = 2 ↔ failure.stage = .reading := by
  rw [exitStatus, ← Failure.isValidation_iff]
  split <;> simp_all

theorem exitStatus_eq_one (stage : failure.stage ≠ .reading) : exitStatus failure = 1 := by
  rw [exitStatus, if_neg (by rwa [Failure.isValidation_iff])]

theorem exitStatus_ne_zero (failure : Failure) : exitStatus failure ≠ 0 := by
  rw [exitStatus]
  split <;> simp

/-! ## From the stages to the report -/

theorem run_of_ofFile_error
    (failed : run (RuleGroup.ofFile options.spec) fs = (.error failure, fs)) :
    run options.run fs = (.ofFailure "" failure, fs) := by
  rw [Options.run, run_bind, failed]
  rfl

theorem run_of_produce_error (failed : run (options.produce group) fs = (.error failure, fs'))
    (isRead : run (RuleGroup.ofFile options.spec) fs = (.ok group, fs)) :
    run options.run fs = (.ofFailure (checkLines group options.checks) failure, fs') := by
  rw [Options.run, run_bind, isRead]
  simp only
  rw [run_bind, failed]
  rfl

theorem run_of_produce_ok (done : run (options.produce group) fs = (.ok output, fs'))
    (isRead : run (RuleGroup.ofFile options.spec) fs = (.ok group, fs)) :
    run options.run fs = (⟨0, checkLines group options.checks ++ output, ""⟩, fs') := by
  rw [Options.run, run_bind, isRead]
  simp only
  rw [run_bind, done]
  rfl

/-- A dry run compiles just as a generation does. -/
theorem compile_eq_compileFor {m : Type → Type} [Monad m] [Disk m] (options : Options)
    (group : RuleGroup) : (options.compile group : m (Except Failure Artifacts)) =
      group.compileFor options.settings options.name options.model :=
  rfl

theorem run_produce_of_error
    (failed : run (group.compileFor options.settings options.name options.model) fs =
      (.error failure, fs)) :
    run (options.produce group) fs = (.error failure, fs) := by
  rw [Options.produce]
  split
  · rw [compile_eq_compileFor, run_bind, failed]
    rfl
  · rw [run_bind, RuleGroup.run_generate_of_error failed]
    rfl

theorem run_produce_dry (dry : options.dryRun = true)
    (compiled : run (group.compileFor options.settings options.name options.model) fs =
      (.ok artifacts, fs)) :
    run (options.produce group) fs = (.ok (artifactsText artifacts), fs) := by
  rw [Options.produce, if_pos dry, compile_eq_compileFor, run_bind, compiled]
  rfl

theorem run_produce_real (real : options.dryRun = false)
    (compiled : run (group.compileFor options.settings options.name options.model) fs =
      (.ok artifacts, fs))
    {answer : Except Failure ArtifactPaths}
    (wrote : run (artifacts.write options.directory options.name) fs = (answer, fs')) :
    run (options.produce group) fs =
      (answer.map (if options.json then pathsJson else pathsText), fs') := by
  have generated : run (group.generate options.settings options.name options.model) fs =
      (answer, fs') := (RuleGroup.run_generate_of_ok compiled).trans wrote
  rw [Options.produce, if_neg (by simp [real]), run_bind, generated]
  cases answer <;> cases options.json <;> rfl

/-- What is made of a rule cannot fail at the specification any more. -/
theorem stage_of_produce (failed : run (options.produce group) fs = (.error failure, fs')) :
    failure.stage ≠ .reading := by
  rcases group.compileFor_cases options.settings options.name options.model fs with
    ⟨other, notCompiled, stage⟩ | ⟨artifacts, compiled⟩
  · rw [run_produce_of_error notCompiled] at failed
    cases failed
    rcases stage with stage | stage <;> simp [stage]
  · cases kind : options.dryRun with
    | true =>
      rw [run_produce_dry kind compiled] at failed
      cases failed
    | false =>
      generalize wrote : run (artifacts.write options.directory options.name) fs = outcome
      obtain ⟨answer, fs''⟩ := outcome
      rw [run_produce_real kind compiled wrote] at failed
      obtain ⟨-, ⟨rfl, -⟩ | ⟨path, refusal, rfl, -⟩ | ⟨rfl, -⟩⟩ := Artifacts.write_cases wrote
      · cases failed
        simp [Failure.stage]
      · cases failed
        simp [Failure.stage]
      · cases failed

theorem status_eq_two_iff (options : Options) (fs : FileSystem) :
    (run options.run fs).1.status = 2 ↔
      ∃ text failure, fs.readText options.spec = .ok text ∧
        RuleGroup.ofJson text = .error failure := by
  rcases RuleGroup.ofFile_cases options.spec fs with
    ⟨failure, failed, stage⟩ | ⟨text, group, isText, isRule, isRead⟩
  · rw [run_of_ofFile_error failed, ← stage]
    exact exitStatus_eq_two_iff
  · refine iff_of_false ?_ (by simp [isText, isRule])
    generalize produced : run (options.produce group) fs = outcome
    obtain ⟨answer, fs'⟩ := outcome
    cases answer with
    | error failure =>
      rw [run_of_produce_error produced isRead]
      exact fun isTwo => stage_of_produce produced (exitStatus_eq_two_iff.1 isTwo)
    | ok output =>
      rw [run_of_produce_ok produced isRead]
      simp

/-- What a run prints before it makes anything: how it judges the utterances, where there is a rule
to judge them. -/
def Options.verdicts (options : Options) (fs : FileSystem) : String :=
  match (FileSystem.run (RuleGroup.ofFile options.spec) fs).1 with
  | .error _ => ""
  | .ok group => checkLines group options.checks

theorem verdicts_of_ok (isRead : run (RuleGroup.ofFile options.spec) fs = (.ok group, fs)) :
    options.verdicts fs = checkLines group options.checks := by
  rw [Options.verdicts, isRead]

/-- A dry run and a real run with the same other options agree. The dry run fails just as the real
run does. Where it succeeds, it prints the two texts that the real run writes, unless the real run
cannot write them. -/
def RunsAgree (options : Options) (fs : FileSystem) (dry real : Report × FileSystem) : Prop :=
  ∃ report, dry = (report, fs) ∧
    ((report.status ≠ 0 ∧ report.output = options.verdicts fs ∧ real = (report, fs)) ∨
      ∃ group artifacts, run (RuleGroup.ofFile options.spec) fs = (.ok group, fs) ∧
        run (group.compileFor options.settings options.name options.model) fs =
          (.ok artifacts, fs) ∧
        report = ⟨0, checkLines group options.checks ++
          (artifacts.grammar ++ "\n" ++ artifacts.dictionary), ""⟩ ∧
        ∃ report' fs', real = (report', fs') ∧
          ((∃ paths : ArtifactPaths, paths = .ofName options.directory options.name ∧
              fs'.ShowsPair paths (some artifacts) ∧
              report' = ⟨0, checkLines group options.checks ++
                (paths.grammar ++ "\n" ++ paths.dictionary ++ "\n"), ""⟩) ∨
            ∃ failure : Failure,
              (failure = .badFileName options.name ∨
                ∃ path refusal, failure = .notWritten path refusal) ∧
              report' = ⟨1, checkLines group options.checks,
                "Error: " ++ failure.message ++ "\n"⟩))

/-- Once a rule has compiled, a real run writes what it compiled to, or it fails at the writing. -/
theorem run_real_of_compiled (noJson : options.json = false)
    (isRead : run (RuleGroup.ofFile options.spec) fs = (.ok group, fs))
    (compiled : run (group.compileFor options.settings options.name options.model) fs =
      (.ok artifacts, fs)) :
    ∃ report fs', run (Options.run { options with dryRun := false }) fs = (report, fs') ∧
      ((∃ paths : ArtifactPaths, paths = .ofName options.directory options.name ∧
          fs'.ShowsPair paths (some artifacts) ∧
          report = ⟨0, checkLines group options.checks ++
            (paths.grammar ++ "\n" ++ paths.dictionary ++ "\n"), ""⟩) ∨
        ∃ failure : Failure,
          (failure = .badFileName options.name ∨
            ∃ path refusal, failure = .notWritten path refusal) ∧
          report = ⟨1, checkLines group options.checks, "Error: " ++ failure.message ++ "\n"⟩) := by
  generalize wrote : run (artifacts.write options.directory options.name) fs = outcome
  obtain ⟨answer, fs'⟩ := outcome
  have produced : run (Options.produce { options with dryRun := false } group) fs =
      (answer.map (if options.json then pathsJson else pathsText), fs') :=
    run_produce_real rfl (by exact compiled) (by exact wrote)
  have failing : ∀ failure : Failure, answer = .error failure → failure.stage = .writing →
      run (Options.run { options with dryRun := false }) fs =
        (⟨1, checkLines group options.checks, "Error: " ++ failure.message ++ "\n"⟩, fs') := by
    rintro failure rfl stage
    refine (run_of_produce_error produced isRead).trans ?_
    rw [Report.ofFailure, exitStatus_eq_one (by simp [stage])]
  obtain ⟨-, ⟨isError, -⟩ | ⟨path, refusal, isError, -⟩ | ⟨rfl, placed⟩⟩ :=
    Artifacts.write_cases wrote
  · exact ⟨_, fs', failing _ isError rfl, .inr ⟨_, .inl rfl, rfl⟩⟩
  · exact ⟨_, fs', failing _ isError rfl, .inr ⟨_, .inr ⟨path, refusal, rfl⟩, rfl⟩⟩
  · refine ⟨_, fs', run_of_produce_ok produced isRead, .inl ⟨_, rfl, placed.showsPair, ?_⟩⟩
    simp [noJson, pathsText]

theorem runsAgree_of_noJson (noJson : options.json = false) (fs : FileSystem) :
    RunsAgree options fs (run (Options.run { options with dryRun := true }) fs)
      (run (Options.run { options with dryRun := false }) fs) := by
  rcases RuleGroup.ofFile_cases options.spec fs with
    ⟨failure, failed, -⟩ | ⟨-, group, -, -, isRead⟩
  · refine ⟨.ofFailure "" failure, run_of_ofFile_error failed, .inl ⟨exitStatus_ne_zero failure, ?_,
      run_of_ofFile_error failed⟩⟩
    rw [Options.verdicts, failed]
    rfl
  rcases group.compileFor_cases options.settings options.name options.model fs with
    ⟨failure, failed, -⟩ | ⟨artifacts, compiled⟩
  · exact ⟨.ofFailure (checkLines group options.checks) failure,
      run_of_produce_error (run_produce_of_error failed) isRead,
      .inl ⟨exitStatus_ne_zero failure, (verdicts_of_ok isRead).symm,
        run_of_produce_error (run_produce_of_error failed) isRead⟩⟩
  -- Only now may the two runs part, by what becomes of the writing.
  exact ⟨_, run_of_produce_ok (run_produce_dry rfl compiled) isRead,
    .inr ⟨group, artifacts, isRead, compiled, rfl, run_real_of_compiled noJson isRead compiled⟩⟩

/-- Wherever the flag of a dry run is put among the arguments of a real run, the two command lines
agree. -/
theorem runsAgree_of_flag {before after : List String} {options' : Options}
    (isReal : Request.ofArguments (before ++ after) = .run options)
    (isDry : Request.ofArguments (before ++ "--dry-run" :: after) = .run options')
    (noJson : options.json = false) (fs : FileSystem) :
    RunsAgree options fs (run (Request.ofArguments (before ++ "--dry-run" :: after)).answer fs)
      (run (Request.ofArguments (before ++ after)).answer fs) := by
  obtain ⟨rfl, isNotDry⟩ := ofArguments_insert isReal isDry
  have same : options = { options with dryRun := false } := by
    rw [← isNotDry]
  rw [isDry, isReal]
  have agree := runsAgree_of_noJson noJson fs
  rwa [← same] at agree

/-- Command lines that differ only in asking for a dry run agree, and the exit status of a faulty
specification is that of nothing else. -/
theorem dryRun_agrees {options : Options} {dry real : List String}
    (isDry : Request.ofArguments dry = .run { options with dryRun := true })
    (isReal : Request.ofArguments real = .run { options with dryRun := false })
    (noJson : options.json = false) (fs : FileSystem) :
    RunsAgree options fs (run (Request.ofArguments dry).answer fs)
        (run (Request.ofArguments real).answer fs) ∧
      ∀ arguments options', Request.ofArguments arguments = .run options' →
        ((run (Request.ofArguments arguments).answer fs).1.status = 2 ↔
          ∃ text failure, fs.readText options'.spec = .ok text ∧
            RuleGroup.ofJson text = .error failure) := by
  refine ⟨?_, fun arguments options' isRun => by rw [isRun]; exact status_eq_two_iff options' fs⟩
  rw [isDry, isReal]
  exact runsAgree_of_noJson noJson fs

/-- The dry run prints the two texts, and the real run writes them and prints where. -/
theorem dryRun_agrees_one_word :
    (run (Request.ofArguments
        ["spec.json", "-n", "robot", "-a", "model", "--check", "STOP", "--dry-run"]).answer
      oneWordDisk).1 = ⟨0, "rejected: STOP\n" ++
        "#JSGF V1.0;\ngrammar robot;\npublic <robot> = GO;\n\nGO\tG OW\n", ""⟩ ∧
      ∃ fs' artifacts, run (Request.ofArguments
          ["spec.json", "-n", "robot", "-a", "model", "--check", "STOP"]).answer oneWordDisk =
            (⟨0, "rejected: STOP\n./robot.gram\n./robot.dic\n", ""⟩, fs') ∧
        fs'.ShowsPair (.ofName "." "robot") (some artifacts) ∧
        artifacts.grammar ++ "\n" ++ artifacts.dictionary =
          "#JSGF V1.0;\ngrammar robot;\npublic <robot> = GO;\n\nGO\tG OW\n" := by
  let options : Options :=
    ⟨"spec.json", "robot", "model", ".", none, Lexicon.defaultListName, false, false, ["STOP"]⟩
  have isDry : Request.ofArguments
      ["spec.json", "-n", "robot", "-a", "model", "--check", "STOP", "--dry-run"] =
        .run { options with dryRun := true } := rfl
  have isReal : Request.ofArguments
      ["spec.json", "-n", "robot", "-a", "model", "--check", "STOP"] =
        .run { options with dryRun := false } := rfl
  have printed : (run (Request.ofArguments
      ["spec.json", "-n", "robot", "-a", "model", "--check", "STOP", "--dry-run"]).answer
        oneWordDisk).1 = ⟨0, "rejected: STOP\n" ++
          "#JSGF V1.0;\ngrammar robot;\npublic <robot> = GO;\n\nGO\tG OW\n", ""⟩ := by
    decide +kernel
  have printed' : (run (Request.ofArguments
      ["spec.json", "-n", "robot", "-a", "model", "--check", "STOP"]).answer oneWordDisk).1 =
        ⟨0, "rejected: STOP\n./robot.gram\n./robot.dic\n", ""⟩ := by
    decide +kernel
  refine ⟨printed, ?_⟩
  obtain ⟨⟨report, ranDry, outcome⟩, -⟩ := dryRun_agrees isDry isReal rfl oneWordDisk
  rw [ranDry] at printed
  obtain rfl : report = _ := printed
  rcases outcome with
    ⟨failed, -⟩ | ⟨group, artifacts, isRead, -, isReport, report', fs', ranReal, ended⟩
  · exact absurd rfl failed
  rw [ranReal] at printed' ⊢
  obtain rfl : report' = _ := printed'
  rcases ended with ⟨paths, rfl, shows, -⟩ | ⟨failure, -, isReport'⟩
  · have judged : checkLines group ["STOP"] = "rejected: STOP\n" :=
      (verdicts_of_ok isRead).symm.trans (by decide +kernel)
    have output := congrArg Report.output isReport
    simp only [options, judged, String.append_right_inj] at output
    exact ⟨fs', artifacts, rfl, shows, output.symm⟩
  · cases isReport'

end CommandLine

end VoiceGrammar
