import VoiceGrammar.CommandLine.Options

/-!
# A flag among the arguments

The flag of a dry run may stand anywhere among the arguments, and where the arguments make sense
with it and without it, it changes nothing but what it says. Reading goes on from a marked draft
just as from the unmarked one, except that a second flag is a misuse.
-/

namespace VoiceGrammar.CommandLine

namespace Draft

/-- The draft with the flag of a dry run. -/
def mark (draft : Draft) : Draft :=
  { draft with dryRun := true }

variable {draft draft' : Draft} {options options' : Options}

theorem give_mark (draft : Draft) (value : String) (setting : Setting) :
    draft.mark.give value setting = (draft.give value setting).map mark := by
  cases setting <;> simp [give, mark, Function.comp_def]

theorem dryRun_of_give {value : String} {setting : Setting}
    (given : draft.give value setting = some draft') : draft'.dryRun = draft.dryRun := by
  cases setting <;> simp only [give, Option.map_eq_some_iff, Option.some.injEq] at given
  case check =>
    rw [← given]
  all_goals
    obtain ⟨field, -, rfl⟩ := given
    rfl

theorem giveSpec_mark (draft : Draft) (value : String) :
    draft.mark.giveSpec value = (draft.giveSpec value).map mark := by
  simp [giveSpec, mark, Function.comp_def]

theorem dryRun_of_giveSpec {value : String} (given : draft.giveSpec value = some draft') :
    draft'.dryRun = draft.dryRun := by
  rw [giveSpec, Option.map_eq_some_iff] at given
  obtain ⟨spec, -, rfl⟩ := given
  rfl

theorem spec_of_giveSpec {value : String} (given : draft.giveSpec value = some draft') :
    draft.spec = none ∧ draft'.spec = some value := by
  rw [giveSpec, Option.map_eq_some_iff] at given
  obtain ⟨spec, filled, rfl⟩ := given
  rw [fillPath] at filled
  split at filled
  · cases filled
  · rw [fill, Option.ite_none_right_eq_some] at filled
    obtain ⟨isFree, isValue⟩ := filled
    exact ⟨by simpa using isFree, (Option.some.inj isValue).symm⟩

theorem finish_mark (finished : draft.finish = .run options) :
    draft.mark.finish = .run { options with dryRun := true } ∧ options.dryRun = draft.dryRun := by
  rw [finish] at finished
  split at finished
  · next spec name model hasSpec hasName hasModel =>
    cases finished
    exact ⟨by simp [finish, mark, hasSpec, hasName, hasModel], rfl⟩
  · cases finished

theorem raise_mark {flag : Flag} (raised : draft.raise flag = .ok draft') :
    (draft.mark.raise flag = .ok draft'.mark ∧ draft'.dryRun = draft.dryRun) ∨
      draft.mark.raise flag = .error .misuse := by
  cases flag with
  | dryRun =>
    -- Whether or not the draft has the flag, the marked one has it.
    exact .inr rfl
  | json =>
    rw [raise] at raised
    split at raised
    · cases raised
    · next isNew =>
      cases raised
      exact .inl ⟨if_neg isNew, rfl⟩
  | verbose =>
    cases raised
    exact .inl ⟨rfl, rfl⟩
  | version => cases raised
  | help => cases raised

theorem raise_ne_run (draft : Draft) (flag : Flag) (options : Options) :
    draft.raise flag ≠ .error (.run options) := by
  cases flag <;> simp [raise] <;> split <;> simp

end Draft

variable {draft draft' : Draft} {waiting waiting' : Option Setting} {options options' : Options}

/-! ## Reading from a marked draft -/

/-- What reading from the marked draft gives where reading from the draft gives `draft'`: the same
with the flag, unless the flag comes a second time. -/
def Follows (draft draft' : Draft) (waiting : Option Setting) :
    Except Request (Draft × Option Setting) → Prop
  | .ok outcome => outcome = (draft'.mark, waiting) ∧ draft'.dryRun = draft.dryRun
  | .error request => request = .misuse

theorem Follows.of_dryRun_eq {middle : Draft} {outcome : Except Request (Draft × Option Setting)}
    (follows : Follows middle draft' waiting outcome) (same : middle.dryRun = draft.dryRun) :
    Follows draft draft' waiting outcome := by
  cases outcome with
  | error request => exact follows
  | ok outcome => exact ⟨follows.1, follows.2.trans same⟩

theorem follows_readLetters {letters : List Char}
    (read : readLetters draft letters = .ok (draft', waiting)) :
    Follows draft draft' waiting (readLetters draft.mark letters) := by
  induction letters generalizing draft with
  | nil =>
    cases read
    exact ⟨rfl, rfl⟩
  | cons letter rest inRest =>
    rw [readLetters] at read ⊢
    split at read
    · cases read
    · next flag isFlag =>
      split at read
      · cases read
      · next raised isRaised =>
        rcases Draft.raise_mark isRaised with ⟨marked, same⟩ | misused
        · simp only [marked]
          exact (inRest read).of_dryRun_eq same
        · -- Here the flag comes a second time.
          simp only [misused]
          rfl
    · next setting isSetting =>
      cases rest with
      | nil =>
        cases read
        exact ⟨rfl, rfl⟩
      | cons first more =>
        simp only at read ⊢
        split at read
        · next given isGiven =>
          cases read
          rw [Draft.give_mark, isGiven]
          exact ⟨rfl, Draft.dryRun_of_give isGiven⟩
        · cases read

theorem follows_readLong {text : List Char} (read : readLong draft text = .ok (draft', waiting)) :
    Follows draft draft' waiting (readLong draft.mark text) := by
  rw [readLong] at read ⊢
  simp only at read ⊢
  split at read
  · cases read
  · next flag isFlag isAll =>
    cases isRaised : draft.raise flag with
    | error request =>
      rw [isRaised] at read
      cases read
    | ok raised =>
      rw [isRaised] at read
      cases read
      rcases Draft.raise_mark isRaised with ⟨marked, same⟩ | misused
      · rw [marked]
        exact ⟨rfl, same⟩
      · rw [misused]
        rfl
  · cases read
  · cases read
    exact ⟨rfl, rfl⟩
  · split at read
    · next given isGiven =>
      cases read
      rw [Draft.give_mark, isGiven]
      exact ⟨rfl, Draft.dryRun_of_give isGiven⟩
    · cases read

theorem follows_readArgument {argument : String}
    (read : readArgument draft argument = .ok (draft', waiting)) :
    Follows draft draft' waiting (readArgument draft.mark argument) := by
  rw [readArgument] at read ⊢
  split at read
  · exact follows_readLong read
  · exact follows_readLetters read
  · split at read
    · next given isGiven =>
      cases read
      rw [Draft.giveSpec_mark, isGiven]
      exact ⟨rfl, Draft.dryRun_of_giveSpec isGiven⟩
    · cases read

/-! ## Whole command lines -/

theorem readLetters_ne_run (draft : Draft) (letters : List Char) (options : Options) :
    readLetters draft letters ≠ .error (.run options) := by
  induction letters generalizing draft with
  | nil => simp [readLetters]
  | cons letter rest inRest =>
    intro isError
    rw [readLetters] at isError
    split at isError
    · cases isError
    · split at isError
      · next request isRaised =>
        cases isError
        exact Draft.raise_ne_run _ _ _ isRaised
      · exact inRest _ isError
    · split at isError
      · cases isError
      · simp only at isError
        split at isError <;> cases isError

theorem readLong_ne_run (draft : Draft) (text : List Char) (options : Options) :
    readLong draft text ≠ .error (.run options) := by
  intro isError
  rw [readLong] at isError
  simp only at isError
  split at isError
  · cases isError
  · next flag _ _ =>
    cases isRaised : draft.raise flag with
    | error request =>
      rw [isRaised] at isError
      cases isError
      exact Draft.raise_ne_run _ _ _ isRaised
    | ok raised =>
      rw [isRaised] at isError
      cases isError
  · cases isError
  · cases isError
  · split at isError <;> cases isError

theorem readArgument_ne_run (draft : Draft) (argument : String) (options : Options) :
    readArgument draft argument ≠ .error (.run options) := by
  intro isError
  rw [readArgument] at isError
  split at isError
  · exact readLong_ne_run _ _ _ isError
  · exact readLetters_ne_run _ _ _ isError
  · split at isError <;> cases isError

/-- One argument is taken in, as the value that is waited for or by itself. -/
inductive Takes (draft : Draft) (argument : String) :
    Option Setting → Draft → Option Setting → Prop where
  | value {setting : Setting} {draft' : Draft} (notOption : looksLikeOption argument = false)
    (given : draft.give argument setting = some draft') :
    Takes draft argument (some setting) draft' none
  | alone {draft' : Draft} {waiting : Option Setting} (notEnd : argument ≠ "--")
    (read : readArgument draft argument = .ok (draft', waiting)) :
    Takes draft argument none draft' waiting

variable {argument : String} {arguments before after rest : List String}

theorem Takes.readArguments_eq (takes : Takes draft argument waiting draft' waiting')
    (rest : List String) :
    readArguments draft waiting (argument :: rest) = readArguments draft' waiting' rest := by
  cases takes with
  | value notOption given => simp [readArguments, notOption, given]
  | alone notEnd read => simp [readArguments, notEnd, read]

theorem readArguments_cons_eq_run
    (read : readArguments draft waiting (argument :: rest) = .run options) :
    (waiting = none ∧ argument = "--" ∧ readPlain draft rest = .run options) ∨
      ∃ draft' waiting', Takes draft argument waiting draft' waiting' ∧
        readArguments draft' waiting' rest = .run options := by
  cases waiting with
  | some setting =>
    rw [readArguments.eq_def] at read
    simp only at read
    split at read
    · cases read
    · next notOption =>
      split at read
      · next given isGiven =>
        exact .inr ⟨given, none, .value (by simpa using notOption) isGiven, read⟩
      · cases read
  | none =>
    rw [readArguments.eq_def] at read
    simp only at read
    split at read
    · next isEnd => exact .inl ⟨rfl, isEnd, read⟩
    · next notEnd =>
      split at read
      · next request isError =>
        subst read
        exact absurd isError (readArgument_ne_run _ _ _)
      · next given waiting' isRead => exact .inr ⟨given, waiting', .alone notEnd isRead, read⟩

theorem Takes.mark (takes : Takes draft argument waiting draft' waiting')
    (read : readArguments draft.mark waiting (argument :: rest) = .run options) :
    readArguments draft'.mark waiting' rest = .run options ∧ draft'.dryRun = draft.dryRun := by
  cases takes with
  | value notOption given =>
    have takes' : Takes draft.mark argument (some _) draft'.mark none :=
      .value notOption (by rw [Draft.give_mark, given]; rfl)
    rw [takes'.readArguments_eq] at read
    exact ⟨read, Draft.dryRun_of_give given⟩
  | alone notEnd isRead =>
    have follows := follows_readArgument isRead
    cases marked : readArgument draft.mark argument with
    | error request =>
      rw [marked] at follows
      cases follows
      simp [readArguments, notEnd, marked] at read
    | ok outcome =>
      rw [marked] at follows
      obtain ⟨rfl, same⟩ := follows
      rw [(Takes.alone notEnd marked).readArguments_eq] at read
      exact ⟨read, same⟩

theorem readPlain_mark (read : readPlain draft arguments = .run options) :
    readPlain draft.mark arguments = .run { options with dryRun := true } ∧
      options.dryRun = draft.dryRun := by
  induction arguments generalizing draft with
  | nil => exact Draft.finish_mark read
  | cons argument rest inRest =>
    rw [readPlain] at read ⊢
    split at read
    · next given isGiven =>
      rw [Draft.giveSpec_mark, isGiven, ← Draft.dryRun_of_giveSpec isGiven]
      exact inRest read
    · cases read

theorem readArguments_mark (read : readArguments draft waiting arguments = .run options)
    (read' : readArguments draft.mark waiting arguments = .run options') :
    options' = { options with dryRun := true } ∧ options.dryRun = draft.dryRun := by
  induction arguments generalizing draft waiting with
  | nil =>
    cases waiting with
    | some setting => cases read
    | none =>
      obtain ⟨finished, same⟩ := Draft.finish_mark read
      cases finished.symm.trans read'
      exact ⟨rfl, same⟩
  | cons argument rest inRest =>
    rcases readArguments_cons_eq_run read with
      ⟨rfl, rfl, isPlain⟩ | ⟨draft', waiting', takes, later⟩
    · obtain ⟨finished, same⟩ := readPlain_mark isPlain
      cases finished.symm.trans read'
      exact ⟨rfl, same⟩
    · obtain ⟨later', same⟩ := takes.mark read'
      rw [← same]
      exact inRest later later'

/-- Behind two dashes there is room for the specification and for nothing else. -/
theorem length_of_readPlain (read : readPlain draft arguments = .run options) :
    arguments.length = if draft.spec.isNone then 1 else 0 := by
  induction arguments generalizing draft with
  | nil =>
    change draft.finish = .run options at read
    rw [Draft.finish] at read
    split at read
    · next isSpec _ _ => simp [isSpec]
    · cases read
  | cons argument rest inRest =>
    rw [readPlain] at read
    split at read
    · next given isGiven =>
      obtain ⟨isFree, isFilled⟩ := Draft.spec_of_giveSpec isGiven
      simp [inRest read, isFree, isFilled]
    · cases read

theorem readArguments_insert (read : readArguments draft waiting (before ++ after) = .run options)
    (read' : readArguments draft waiting (before ++ "--dry-run" :: after) = .run options') :
    options' = { options with dryRun := true } ∧ options.dryRun = false := by
  induction before generalizing draft waiting with
  | nil =>
    rw [List.nil_append] at read read'
    rcases readArguments_cons_eq_run read' with ⟨-, isEnd, -⟩ | ⟨draft', waiting', takes, later⟩
    · exact absurd isEnd (by simp)
    -- The flag is nobody's value. It marks the draft, and both readings go on from there.
    cases takes with
    | value notOption given => exact absurd notOption (by decide)
    | alone notEnd isRead =>
      have raised : readArgument draft "--dry-run" =
          (draft.raise .dryRun).map fun draft => (draft, none) := rfl
      rw [raised, Draft.raise] at isRead
      split at isRead
      · cases isRead
      · next notRaised =>
        cases isRead
        obtain ⟨marked, same⟩ := readArguments_mark read later
        exact ⟨marked, same.trans (by simpa using notRaised)⟩
  | cons argument rest inRest =>
    rcases readArguments_cons_eq_run read with
      ⟨rfl, rfl, isPlain⟩ | ⟨draft', waiting', takes, later⟩
    · -- Behind two dashes the flag would be one more specification.
      have isPlain' : readPlain draft (rest ++ "--dry-run" :: after) = .run options' := read'
      have oneMore := (length_of_readPlain isPlain).trans (length_of_readPlain isPlain').symm
      simp at oneMore
    · rw [List.cons_append, takes.readArguments_eq] at read'
      exact inRest later read'

/-- Where a command line makes sense with the flag of a dry run and without it, the flag changes
nothing but itself. -/
theorem ofArguments_insert (read : Request.ofArguments (before ++ after) = .run options)
    (read' : Request.ofArguments (before ++ "--dry-run" :: after) = .run options') :
    options' = { options with dryRun := true } ∧ options.dryRun = false :=
  readArguments_insert read read'

end VoiceGrammar.CommandLine
