import VoiceGrammar.ArtifactFiles
import VoiceGrammar.Proofs.Disk.Requests

/-!
# Staged files

While a pair is being written, the output directory holds files under temporary names, and but for
these the file system shows what it is going to show. Staging adds a file, removing takes one away,
and a move takes one away and shows it under its new name; with no file left there is nothing more
to tell apart.
-/

namespace VoiceGrammar

open VoiceGrammar.Path (join IsPlain)
open FileSystem (run Puts Grows Adds HasDirectory refusalOfPath?)

/-- A file under a temporary name. -/
structure StagedFile where
  name : String
  bytes : ByteArray
  mode : Nat

namespace StagedFile

def stat (file : StagedFile) : Stat :=
  .file file.bytes file.mode

def path (file : StagedFile) (directory : String) : String :=
  join directory file.name

end StagedFile

/-- The file is there under a temporary name that `shown` has nothing for. -/
structure IsStaged (fs : FileSystem) (directory : String) (address : List String)
    (shown : List String → Option Stat) (file : StagedFile) : Prop where
  temporary : ∃ n, file.name = Entries.temporaryName n
  admitted : refusalOfPath? (file.path directory) = none
  hidden : shown (address ++ [file.name]) = none
  here : fs.stat? (address ++ [file.name]) = some file.stat

namespace IsStaged

variable {fs fs' : FileSystem} {directory target : String} {address : List String}
  {shown : List String → Option Stat} {file : StagedFile}

theorem isPlain (isStaged : IsStaged fs directory address shown file) : IsPlain file.name := by
  obtain ⟨n, isName⟩ := isStaged.temporary
  rw [isName]
  exact Entries.isPlain_temporaryName n

theorem bare (isStaged : IsStaged fs directory address shown file) :
    fs.stat? (address ++ [file.name]) ≠ some .directory := by
  rw [isStaged.here]
  simp [StagedFile.stat]

theorem ne_target (isStaged : IsStaged fs directory address shown file)
    (foreign : ∀ n, target ≠ Entries.temporaryName n) :
    address ++ [file.name] ≠ address ++ [target] := by
  intro same
  obtain ⟨n, isName⟩ := isStaged.temporary
  apply foreign n
  rw [← isName]
  simpa using same.symm

theorem of_puts (isStaged : IsStaged fs directory address shown file) {other : List String}
    {stat : Option Stat} (puts : Puts fs fs' other stat)
    (apart : address ++ [file.name] ≠ other) : IsStaged fs' directory address shown file where
  temporary := isStaged.temporary
  admitted := isStaged.admitted
  hidden := isStaged.hidden
  here := by rw [puts.stat?, Function.update_of_ne apart, isStaged.here]

end IsStaged

/-- The directory at `address` holds the staged files, and all other entries are as `shown` has
them. No directory of `start` is missing. -/
structure Staging (start fs : FileSystem) (directory : String) (address : List String)
    (shown : List String → Option Stat) (staged : List StagedFile) : Prop where
  grows : Grows start fs
  isDirectory : fs.HasDirectory directory address
  files : ∀ file ∈ staged, IsStaged fs directory address shown file
  distinct : (staged.map StagedFile.name).Nodup
  elsewhere : ∀ other, (∀ file ∈ staged, other ≠ address ++ [file.name]) →
    fs.stat? other = shown other

namespace Staging

variable {start fs fs' : FileSystem} {directory : String} {address : List String}
  {shown : List String → Option Stat} {staged before after : List StagedFile} {file : StagedFile}
  {target : String}

theorem begin (isDirectory : fs.HasDirectory directory address) :
    Staging fs fs directory address fs.stat? [] where
  grows := .refl fs
  isDirectory := isDirectory
  files := by simp
  distinct := by simp
  elsewhere _ _ := rfl

theorem stat?_eq (staging : Staging start fs directory address shown []) : fs.stat? = shown := by
  funext other
  exact staging.elsewhere other (by simp)

theorem unchanged (staging : Staging start fs directory address start.stat? []) :
    fs.working = start.working ∧ fs.stat? = start.stat? :=
  ⟨staging.grows.working, staging.stat?_eq⟩

theorem add (file : StagedFile) (staging : Staging start fs directory address shown staged)
    (adds : Adds fs fs' directory address file.name file.stat) :
    Staging start fs' directory address shown (file :: staged) := by
  have grown := adds.puts.grows (by simp [adds.free])
  -- A staged file is there, so the free name is not one of theirs.
  have different : ∀ other ∈ staged, other.name ≠ file.name := by
    intro other member same
    have isHere := (staging.files other member).here
    rw [same, adds.free] at isHere
    cases isHere
  have apart : ∀ other ∈ staged, address ++ [other.name] ≠ address ++ [file.name] := by
    intro other member same
    exact different other member (by simpa using same)
  have hidden : shown (address ++ [file.name]) = none := by
    rw [← staging.elsewhere _ fun other member => (apart other member).symm, adds.free]
  refine ⟨staging.grows.trans grown, staging.isDirectory.of_grows grown, ?files, ?distinct,
    ?elsewhere⟩
  case files =>
    rw [List.forall_mem_cons]
    refine ⟨⟨adds.temporary, adds.admitted, hidden, ?_⟩, fun other member => ?_⟩
    · rw [adds.puts.stat?, Function.update_self]
    · exact (staging.files other member).of_puts adds.puts (apart other member)
  case distinct =>
    rw [List.map_cons, List.nodup_cons]
    exact ⟨by simpa using different, staging.distinct⟩
  case elsewhere =>
    intro other elsewhere
    rw [List.forall_mem_cons] at elsewhere
    rw [adds.puts.stat?, Function.update_of_ne elsewhere.1, staging.elsewhere other elsewhere.2]

theorem isStaged_middle
    (staging : Staging start fs directory address shown (before ++ file :: after)) :
    IsStaged fs directory address shown file :=
  staging.files file (List.mem_append_right before List.mem_cons_self)

theorem drop (staging : Staging start fs directory address shown (before ++ file :: after))
    (puts : Puts fs fs' (address ++ [file.name]) none) :
    Staging start fs' directory address shown (before ++ after) := by
  have grown := puts.grows staging.isStaged_middle.bare
  have distinct := staging.distinct
  rw [List.map_append, List.map_cons, List.nodup_middle, ← List.map_append, List.nodup_cons]
    at distinct
  refine ⟨staging.grows.trans grown, staging.isDirectory.of_grows grown, ?files, distinct.2,
    ?elsewhere⟩
  case files =>
    intro other member
    have isOther : other ∈ before ++ file :: after := by
      rcases List.mem_append.1 member with member | member
      · exact List.mem_append_left _ member
      · exact List.mem_append_right _ (List.mem_cons_of_mem _ member)
    refine (staging.files other isOther).of_puts puts ?_
    intro same
    have sameName : other.name = file.name := by simpa using same
    exact distinct.1 (List.mem_map.2 ⟨other, member, sameName⟩)
  case elsewhere =>
    intro other elsewhere
    rw [puts.stat?]
    by_cases same : other = address ++ [file.name]
    · rw [same, Function.update_self, staging.isStaged_middle.hidden]
    · rw [Function.update_of_ne same]
      apply staging.elsewhere
      intro more member
      rcases List.mem_append.1 member with member | member
      · exact elsewhere more (List.mem_append_left _ member)
      · rcases List.mem_cons.1 member with rfl | member
        · exact same
        · exact elsewhere more (List.mem_append_right _ member)

/-- An entry under another name than a temporary one is shown as it is. -/
theorem stat?_target (staging : Staging start fs directory address shown staged)
    (foreign : ∀ n, target ≠ Entries.temporaryName n) :
    fs.stat? (address ++ [target]) = shown (address ++ [target]) :=
  staging.elsewhere _ fun file member => ((staging.files file member).ne_target foreign).symm

theorem place (staging : Staging start fs directory address shown staged)
    (foreign : ∀ n, target ≠ Entries.temporaryName n)
    (bare : fs.stat? (address ++ [target]) ≠ some .directory) {stat : Option Stat}
    (puts : Puts fs fs' (address ++ [target]) stat) :
    Staging start fs' directory address (Function.update shown (address ++ [target]) stat)
      staged := by
  have grown := puts.grows bare
  refine ⟨staging.grows.trans grown, staging.isDirectory.of_grows grown, ?files, staging.distinct,
    ?elsewhere⟩
  case files =>
    intro file member
    have isStaged := staging.files file member
    have apart := isStaged.ne_target foreign
    have moved := isStaged.of_puts puts apart
    refine ⟨moved.temporary, moved.admitted, ?_, moved.here⟩
    rw [Function.update_of_ne apart, isStaged.hidden]
  case elsewhere =>
    intro other elsewhere
    rw [puts.stat?]
    by_cases same : other = address ++ [target]
    · rw [same, Function.update_self, Function.update_self]
    · rw [Function.update_of_ne same, Function.update_of_ne same, staging.elsewhere other elsewhere]

/-! ## Requests -/

theorem run_begin (directory text : String) (fs : FileSystem) :
    (∃ refusal, run (Disk.stage directory text) fs = (.error refusal, fs)) ∨
      ∃ address file fs', run (Disk.stage directory text) fs = (.ok (file.path directory), fs') ∧
        file.stat = .file text.toUTF8 FileSystem.artifactMode ∧
        Staging fs fs' directory address fs.stat? [file] := by
  rcases FileSystem.run_stage directory text fs with
    ⟨refusal, refused⟩ | ⟨address, name, fs', put, adds⟩
  · exact .inl ⟨refusal, refused⟩
  · exact .inr ⟨address, ⟨name, text.toUTF8, FileSystem.artifactMode⟩, fs', put, rfl,
      (begin adds.isDirectory).add _ adds⟩

theorem run_stage (staging : Staging start fs directory address shown staged) (text : String) :
    (∃ refusal, run (Disk.stage directory text) fs = (.error refusal, fs)) ∨
      ∃ file fs', run (Disk.stage directory text) fs = (.ok (file.path directory), fs') ∧
        file.stat = .file text.toUTF8 FileSystem.artifactMode ∧
        Staging start fs' directory address shown (file :: staged) := by
  rcases FileSystem.run_stage directory text fs with
    ⟨refusal, refused⟩ | ⟨address', name, fs', put, adds⟩
  · exact .inl ⟨refusal, refused⟩
  · obtain rfl := staging.isDirectory.unique adds.isDirectory
    exact .inr ⟨⟨name, text.toUTF8, FileSystem.artifactMode⟩, fs', put, rfl, staging.add _ adds⟩

theorem run_remove (before : List StagedFile)
    (staging : Staging start fs directory address shown (before ++ file :: after)) :
    ∃ fs', run (Disk.remove (file.path directory)) fs = ((), fs') ∧
      Staging start fs' directory address shown (before ++ after) := by
  have isStaged := staging.isStaged_middle
  obtain ⟨fs', removed, puts⟩ := FileSystem.run_remove staging.isDirectory isStaged.isPlain
    isStaged.admitted isStaged.here
  exact ⟨fs', removed, staging.drop puts⟩

/-- A move to a target is refused, which never happens where a file is, or it is made and the target
is shown as the staged file was. -/
theorem run_rename (before : List StagedFile)
    (staging : Staging start fs directory address shown (before ++ file :: after))
    (plain : IsPlain target) (foreign : ∀ n, target ≠ Entries.temporaryName n) :
    (∃ refusal,
      run (Disk.rename (file.path directory) (join directory target)) fs = (.error refusal, fs) ∧
        ∀ bytes mode, refusalOfPath? (join directory target) = none →
          shown (address ++ [target]) ≠ some (.file bytes mode)) ∨
      (∃ fs',
        run (Disk.rename (file.path directory) (join directory target)) fs = (.ok (), fs') ∧
          refusalOfPath? (join directory target) = none ∧
          shown (address ++ [target]) ≠ some .directory ∧
          Staging start fs' directory address
            (Function.update shown (address ++ [target]) (some file.stat)) (before ++ after)) := by
  have sameTarget := staging.stat?_target foreign
  have isStaged := staging.isStaged_middle
  rcases FileSystem.run_rename staging.isDirectory isStaged.isPlain plain isStaged.admitted
      isStaged.here with
    ⟨refusal, refused, noFile⟩ | ⟨middle, fs', moved, admitted, bare, removed, put⟩
  · rw [sameTarget] at noFile
    exact .inl ⟨refusal, refused, noFile⟩
  · have dropped := staging.drop removed
    rw [sameTarget] at bare
    have bare' : middle.stat? (address ++ [target]) ≠ some .directory := by
      rw [dropped.stat?_target foreign]
      exact bare
    exact .inr ⟨fs', moved, admitted, bare, dropped.place foreign bare' put⟩

end Staging

end VoiceGrammar
