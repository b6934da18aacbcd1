import VoiceGrammar.Expansion.Watching
import VoiceGrammar.Proofs.Expansion.Matching

/-!
# Matching stays inside the utterance

From positions of the utterance only positions of the utterance are reached, and none before the
first start. In a watched matching the same holds of every position at which words are compared, so
that no comparison fails: the watched matcher is taken apart program by program, each with the
result of its unwatched counterpart and with what its record may hold.
-/

namespace VoiceGrammar.Expansion

/-! ## Positions -/

/-- A position of the text that is not before all of the starts. -/
def IsWithin (words : List String) (starts : List Nat) (position : Nat) : Prop :=
  position ≤ words.length ∧ ∃ start ∈ starts, start ≤ position

section Within

variable {words : List String} {starts : List Nat} {position : Nat}

theorem isWithin_of_mem (bounded : ∀ start ∈ starts, start ≤ words.length)
    (member : position ∈ starts) : IsWithin words starts position :=
  ⟨bounded position member, position, member, Nat.le_refl position⟩

/-- What is said from a position of the text ends at one of its later positions. -/
theorem IsWithin.spans {language : Language String} {stop : Nat}
    (within : IsWithin words starts position) (spans : Spans words language position stop) :
    IsWithin words starts stop := by
  obtain ⟨bounded, start, isStart, before⟩ := within
  refine ⟨?_, start, isStart, Nat.le_trans before spans.start_le⟩
  rcases spans.inside with rfl | ⟨-, inside⟩
  · exact bounded
  · exact inside

theorem isWithin_of_mem_advance {expansion : Expansion} {middles : List Nat}
    (within : ∀ middle ∈ middles, IsWithin words starts middle)
    (member : position ∈ advance words expansion middles) : IsWithin words starts position := by
  obtain ⟨middle, isMiddle, spans⟩ := (follows_advance words expansion middles position).1 member
  exact (within middle isMiddle).spans spans

end Within

/-! ## Watched programs -/

section Programs

variable {α β : Type} {good : Nat → Prop}

/-- The program does not fail and has this result, and it puts only good positions on record. -/
def GoesThrough (good : Nat → Prop) (program : Watched α) (result : α) : Prop :=
  ∀ seen, (∀ position ∈ seen, good position) →
    ∃ seen', program.run seen = some (result, seen') ∧ ∀ position ∈ seen', good position

theorem goesThrough_pure (result : α) : GoesThrough good (pure result) result :=
  fun seen inSeen => ⟨seen, rfl, inSeen⟩

theorem GoesThrough.bind {program : Watched α} {next : α → Watched β} {middle : α} {result : β}
    (goes : GoesThrough good program middle) (further : GoesThrough good (next middle) result) :
    GoesThrough good (program >>= next) result := by
  intro seen inSeen
  obtain ⟨seen', runs, inSeen'⟩ := goes seen inSeen
  obtain ⟨seen'', runs', inSeen''⟩ := further seen' inSeen'
  refine ⟨seen'', ?_, inSeen''⟩
  rw [StateT.run_bind, runs]
  exact runs'

/-- A comparison puts its position on record, unless the position is outside the text. -/
theorem run_compareAt (phrase words : List String) (position : Nat) (seen : List Nat) :
    (compareAt phrase words position).run seen =
      (wordsFrom? words position).map fun rest =>
        (phrase.isPrefixOf rest, position :: seen) := by
  by_cases inside : position ≤ words.length <;> simp [compareAt, wordsFrom?, inside]

/-- A comparison at a position of the text goes through. -/
theorem goesThrough_compareAt {phrase words : List String} {position : Nat}
    (inside : position ≤ words.length) (isGood : good position) :
    GoesThrough good (compareAt phrase words position)
      (phrase.isPrefixOf (words.drop position)) := by
  intro seen inSeen
  refine ⟨position :: seen, ?_, List.forall_mem_cons.2 ⟨isGood, inSeen⟩⟩
  rw [run_compareAt, wordsFrom?, if_pos inside, Option.map_some]

/-- From good positions a watched step goes through with the result of the step, and the positions
that it leads to are good. -/
structure Mirrors (good : Nat → Prop) (watched : List Nat → Watched (List Nat))
    (step : List Nat → List Nat) : Prop where
  goes : ∀ {starts}, (∀ start ∈ starts, good start) →
    GoesThrough good (watched starts) (step starts)
  keeps : ∀ {starts}, (∀ start ∈ starts, good start) → ∀ stop ∈ step starts, good stop

variable {watched : List Nat → Watched (List Nat)} {step : List Nat → List Nat}

theorem Mirrors.watchClosure (mirrors : Mirrors good watched step) (rounds : Nat)
    (reached : List Nat) {frontier : List Nat} (inFrontier : ∀ position ∈ frontier, good position) :
    GoesThrough good (watchClosure watched rounds reached frontier)
      (closure step rounds reached frontier) := by
  induction rounds generalizing reached frontier with
  | zero => exact goesThrough_pure reached
  | succ rounds inRounds =>
    rw [Expansion.watchClosure, closure]
    split
    · exact goesThrough_pure reached
    · -- The next frontier is a part of what the step finds from this one.
      refine (mirrors.goes inFrontier).bind (inRounds _ fun position member => ?_)
      exact mirrors.keeps inFrontier position (mem_fresh.1 member).1

theorem Mirrors.watchClosureFrom (mirrors : Mirrors good watched step) (size : Nat)
    {starts : List Nat} (inStarts : ∀ start ∈ starts, good start) :
    GoesThrough good (watchClosureFrom watched size starts) (closureFrom step size starts) :=
  (mirrors.goes inStarts).bind
    (mirrors.watchClosure (size + 1) _ (mirrors.keeps inStarts))

end Programs

/-! ## The matcher -/

section Matcher

variable {words : List String} {origin starts : List Nat}

theorem advancePhrase_cons (phrase : List String) (start : Nat) (rest : List Nat) :
    advancePhrase phrase words (start :: rest) =
      if phrase.isPrefixOf (words.drop start) then
        (start + phrase.length) :: advancePhrase phrase words rest
      else advancePhrase phrase words rest := by
  rw [advancePhrase, List.filter_cons]
  split <;> rfl

theorem goesThrough_watchPhrase (phrase : List String)
    (inStarts : ∀ start ∈ starts, IsWithin words origin start) :
    GoesThrough (IsWithin words origin) (watchPhrase phrase words starts)
      (advancePhrase phrase words starts) := by
  induction starts with
  | nil => exact goesThrough_pure []
  | cons start rest inRest =>
    rw [List.forall_mem_cons] at inStarts
    rw [watchPhrase, advancePhrase_cons]
    exact (goesThrough_compareAt inStarts.1.1 inStarts.1).bind
      ((inRest inStarts.2).bind (goesThrough_pure _))

/-- The watched matcher mirrors the matcher at the positions within some of the text. -/
def IsWatched (words : List String) (origin : List Nat) (expansion : Expansion) : Prop :=
  Mirrors (IsWithin words origin) (watch words expansion) (advance words expansion)

theorem isWatched_of_goes {expansion : Expansion}
    (goes : ∀ starts, (∀ start ∈ starts, IsWithin words origin start) →
      GoesThrough (IsWithin words origin) (watch words expansion starts)
        (advance words expansion starts)) :
    IsWatched words origin expansion where
  goes inStarts := goes _ inStarts
  keeps within _ member := isWithin_of_mem_advance within member

theorem goesThrough_watchThrough {items : List Expansion}
    (inItems : ∀ item ∈ items, IsWatched words origin item)
    (inStarts : ∀ start ∈ starts, IsWithin words origin start) :
    GoesThrough (IsWithin words origin) (watchThrough words items starts)
      (advanceThrough words items starts) := by
  induction items generalizing starts with
  | nil => exact goesThrough_pure starts
  | cons first rest inRest =>
    rw [List.forall_mem_cons] at inItems
    rw [watchThrough, advanceThrough]
    exact (inItems.1.goes inStarts).bind (inRest inItems.2 (inItems.1.keeps inStarts))

theorem goesThrough_watchAny {items : List Expansion}
    (inItems : ∀ item ∈ items, IsWatched words origin item)
    (inStarts : ∀ start ∈ starts, IsWithin words origin start) :
    GoesThrough (IsWithin words origin) (watchAny words items starts)
      (advanceAny words items starts) := by
  induction items with
  | nil => exact goesThrough_pure []
  | cons first rest inRest =>
    rw [List.forall_mem_cons] at inItems
    rw [watchAny, advanceAny]
    exact (inItems.1.goes inStarts).bind ((inRest inItems.2).bind (goesThrough_pure _))

theorem isWatched (words : List String) (origin : List Nat) (expansion : Expansion) :
    IsWatched words origin expansion := by
  induction expansion using Expansion.induction with
  | phrase token =>
    exact isWatched_of_goes fun _ inStarts => goesThrough_watchPhrase token.words inStarts
  | sequence items inItems =>
    exact isWatched_of_goes fun _ inStarts => goesThrough_watchThrough inItems inStarts
  | alternatives items inItems =>
    exact isWatched_of_goes fun _ inStarts => goesThrough_watchAny inItems inStarts
  | optional body inBody =>
    refine isWatched_of_goes fun starts inStarts => ?_
    rw [watch, advance]
    exact (inBody.goes inStarts).bind (goesThrough_pure _)
  | oneOrMore body inBody =>
    refine isWatched_of_goes fun starts inStarts => ?_
    rw [watch, advance]
    exact inBody.watchClosureFrom words.length inStarts
  | zeroOrMore body inBody =>
    refine isWatched_of_goes fun starts inStarts => ?_
    rw [watch, advance]
    exact (inBody.watchClosureFrom words.length inStarts).bind (goesThrough_pure _)

theorem accepts?_eq (expansion : Expansion) (utterance : String) :
    expansion.accepts? utterance = some (expansion.accepts utterance) := by
  have inStarts : ∀ start ∈ [0], IsWithin (Text.words utterance) [0] start :=
    fun _ member => isWithin_of_mem (by simp) member
  obtain ⟨compared, runs, -⟩ :=
    (isWatched (Text.words utterance) [0] expansion).goes inStarts [] (List.forall_mem_nil _)
  rw [accepts?, runs]
  rfl

/-- From positions of the text, matching and repeated matching reach only positions of the text that
are not before all of the starts, and only at such positions are words compared with a phrase,
anywhere inside and in any round of a loop. So no comparison fails, and the watched matcher gives
the answer of the matcher to every utterance. -/
theorem matching_stays_inside (words : List String) (expansion : Expansion) {starts : List Nat}
    (bounded : ∀ start ∈ starts, start ≤ words.length) :
    (∀ position ∈ advance words expansion starts, IsWithin words starts position) ∧
    (∀ position ∈ closureFrom (advance words expansion) words.length starts,
      IsWithin words starts position) ∧
    (∃ compared,
      (watch words expansion starts).run [] = some (advance words expansion starts, compared) ∧
      ∀ position ∈ compared, IsWithin words starts position) ∧
    (∃ compared,
      (watchClosureFrom (watch words expansion) words.length starts).run [] =
        some (closureFrom (advance words expansion) words.length starts, compared) ∧
      ∀ position ∈ compared, IsWithin words starts position) ∧
    ∀ utterance, expansion.accepts? utterance = some (expansion.accepts utterance) := by
  have inStarts : ∀ start ∈ starts, IsWithin words starts start :=
    fun _ member => isWithin_of_mem bounded member
  have unseen : ∀ position ∈ [], IsWithin words starts position := List.forall_mem_nil _
  have once := isWatched words starts expansion
  -- A repetition of the expansion is itself an expansion, so nothing new is to be shown of it.
  have repeated := isWatched words starts (.oneOrMore expansion)
  exact ⟨once.keeps inStarts, repeated.keeps inStarts, once.goes inStarts [] unseen,
    repeated.goes inStarts [] unseen, accepts?_eq expansion⟩

/-- A loop whose phrase runs out of words at the end of the text. -/
theorem matching_stays_inside_loop :
    (∀ start ∈ [0, 2], start ≤ ["GO", "LEFT", "GO"].length) ∧
    ∃ compared,
      (watch ["GO", "LEFT", "GO"] (.oneOrMore (.phrase ⟨"GO LEFT", by decide⟩)) [0, 2]).run [] =
        some ([2], compared) ∧
      ∀ position ∈ compared, IsWithin ["GO", "LEFT", "GO"] [0, 2] position := by
  have bounded : ∀ start ∈ [0, 2], start ≤ ["GO", "LEFT", "GO"].length := by decide
  obtain ⟨-, -, ⟨compared, runs, within⟩, -⟩ :=
    matching_stays_inside ["GO", "LEFT", "GO"] (.oneOrMore (.phrase ⟨"GO LEFT", by decide⟩)) bounded
  have reached : advance ["GO", "LEFT", "GO"] (.oneOrMore (.phrase ⟨"GO LEFT", by decide⟩)) [0, 2] =
      [2] := by
    decide +kernel
  rw [reached] at runs
  exact ⟨bounded, compared, runs, within⟩

/-- Only from a start behind the last position does a comparison fail. -/
example : (watch ["GO"] (.phrase ⟨"GO", by decide⟩) [1]).run [] = some ([], [1]) ∧
    (watch ["GO"] (.phrase ⟨"GO", by decide⟩) [2]).run [] = none := by
  decide +kernel

end Matcher

end VoiceGrammar.Expansion
