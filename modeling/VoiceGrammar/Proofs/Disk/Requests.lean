import VoiceGrammar.Disk.Basic
import VoiceGrammar.Proofs.Disk.Names

/-!
# Requests about the entries of a directory

What a request for a plain name in a directory does is known from the entry that the directory has
under this name. A request that is refused changes nothing, and one that is not changes the entries
that it names.
-/

namespace VoiceGrammar.FileSystem

open VoiceGrammar.Path (join IsPlain)

/-! ## Directories and their entries -/

theorem directoryAt_eq_ok_iff {fs : FileSystem} {path : String} {spot : Spot} :
    fs.directoryAt path = .ok spot ↔
      (path ≠ "" → refusalOfPath? path = none) ∧
        fs.top.walk (fs.origin path ++ if path = "" then [] else Path.segments path) =
          .ok spot := by
  rw [directoryAt]
  split
  · next isEmpty =>
    have relative : Path.isAbsolute "" = false := by decide
    subst isEmpty
    simp [origin, relative]
  · next notEmpty =>
    rw [resolve, follow_eq_ok_iff]
    simp [notEmpty]

/-- A path, possibly the empty one, leads to the directory at an address. -/
def HasDirectory (fs : FileSystem) (path : String) (address : List String) : Prop :=
  ∃ spot, fs.directoryAt path = .ok spot ∧ spot.node.isDirectory = true ∧ spot.address = address

theorem hasSpot_of_directoryAt {fs : FileSystem} {path : String} {spot : Spot}
    (found : fs.directoryAt path = .ok spot) : HasSpot fs spot :=
  hasSpot_of_walk_top (directoryAt_eq_ok_iff.1 found).2

namespace HasDirectory

variable {fs fs' : FileSystem} {directory name : String} {address address' : List String}

theorem of_grows (isDirectory : fs.HasDirectory directory address) (grows : Grows fs fs') :
    fs'.HasDirectory directory address := by
  obtain ⟨spot, found, isNode, rfl⟩ := isDirectory
  obtain ⟨admitted, walked⟩ := directoryAt_eq_ok_iff.1 found
  obtain ⟨spot', walked', same, isNode'⟩ := walk_top_of_grows grows walked isNode
  have sameOrigin : fs'.origin directory = fs.origin directory := by
    rw [origin, origin, grows.working]
  rw [← sameOrigin] at walked'
  exact ⟨spot', directoryAt_eq_ok_iff.2 ⟨admitted, walked'⟩, isNode', same⟩

theorem unique (isDirectory : fs.HasDirectory directory address)
    (isDirectory' : fs.HasDirectory directory address') : address = address' := by
  obtain ⟨spot, found, -, rfl⟩ := isDirectory
  obtain ⟨spot', found', -, rfl⟩ := isDirectory'
  rw [found] at found'
  cases found'
  rfl

theorem exists_front (isDirectory : fs.HasDirectory directory address) (plain : IsPlain name) :
    ∃ front entries above, Path.segments (join directory name) = front ++ [name] ∧
      fs.top.walk (fs.origin (join directory name) ++ front) = .ok ⟨.directory entries, above⟩ ∧
      Spot.address ⟨.directory entries, above⟩ = address := by
  obtain ⟨⟨node, above⟩, found, isNode, rfl⟩ := isDirectory
  obtain ⟨entries, rfl⟩ := Node.isDirectory_iff.1 isNode
  obtain ⟨-, walked⟩ := directoryAt_eq_ok_iff.1 found
  obtain ⟨sameStart, front, cut, shape⟩ := Path.segments_join directory plain
  have sameOrigin : fs.origin (join directory name) = fs.origin directory := by
    rw [origin, origin, sameStart]
  refine ⟨front, entries, above, cut, ?_, rfl⟩
  rw [sameOrigin]
  rcases shape with ⟨isEmpty, rfl⟩ | ⟨notEmpty, whole | slash⟩
  · rwa [if_pos isEmpty] at walked
  · rwa [if_neg notEmpty, whole] at walked
  · -- The slash at the end asks for a directory, and leads no further.
    rw [if_neg notEmpty, slash, ← List.append_assoc] at walked
    obtain ⟨middle, started, ended⟩ := Spot.exists_of_walk_append walked
    rw [Spot.walk] at ended
    split at ended
    · cases ended
    · rw [started]
      exact ended

theorem holds (isDirectory : fs.HasDirectory directory address) (name : String) :
    Entries.holds (address ++ [name]) fs.entries = true := by
  obtain ⟨⟨node, above⟩, found, isNode, rfl⟩ := isDirectory
  obtain ⟨entries, rfl⟩ := Node.isDirectory_iff.1 isNode
  exact (hasSpot_of_directoryAt found).holds_child name

theorem resolve_join (isDirectory : fs.HasDirectory directory address) (plain : IsPlain name)
    (admitted : refusalOfPath? (join directory name) = none) :
    ∃ above, (∀ node, Spot.address ⟨node, above⟩ = address ++ [name]) ∧
      fs.resolve (join directory name) =
        match fs.node? (address ++ [name]) with
        | some node => .ok ⟨node, above⟩
        | none => .error (Spot.missing name) := by
  obtain ⟨front, entries, above, cut, walked, rfl⟩ := isDirectory.exists_front plain
  refine ⟨(name, entries) :: above, fun node => Spot.address_inside node name entries above, ?_⟩
  have followed := follow_eq fs admitted (front ++ [name])
  rw [← List.append_assoc, Spot.walk_append_of_ok walked] at followed
  rw [resolve, cut, followed, (hasSpot_of_walk_top walked).node?_child]
  cases found : entries.lookup name <;>
    simp [Spot.walk, plain.isStep, plain.notUp, found]

theorem nodeAt?_join (isDirectory : fs.HasDirectory directory address) (plain : IsPlain name)
    (admitted : refusalOfPath? (join directory name) = none) :
    fs.nodeAt? (join directory name) = fs.node? (address ++ [name]) := by
  obtain ⟨above, -, resolved⟩ := isDirectory.resolve_join plain admitted
  rw [nodeAt?, resolved]
  cases fs.node? (address ++ [name]) <;> rfl

/-- The slot that the path of a name leads to is the name in the directory. Only a path that leads
nowhere has none. -/
theorem slot_join_cases (isDirectory : fs.HasDirectory directory address) (plain : IsPlain name) :
    (∃ refusal, fs.slot (join directory name) = .error refusal ∧
        (refusalOfPath? (join directory name) = none → fs.stat? (address ++ [name]) = none)) ∨
      (refusalOfPath? (join directory name) = none ∧
        fs.slot (join directory name) =
          .ok ⟨address ++ [name], fs.node? (address ++ [name])⟩) := by
  obtain ⟨front, entries, above, cut, walked, rfl⟩ := isDirectory.exists_front plain
  have split := Path.split?_of_segments cut plain
  have child := (hasSpot_of_walk_top walked).node?_child name
  cases admitted : refusalOfPath? (join directory name) with
  | some refusal => exact .inl ⟨refusal, by simp [slot, split, follow, admitted], by simp⟩
  | none =>
    have followed := (follow_eq fs admitted front).trans walked
    cases found : entries.lookup name with
    | some node => exact .inr ⟨rfl, by simp [slot, split, followed, child, found]⟩
    | none =>
      -- A name that is too long for an entry is refused where there is none yet.
      by_cases long : name.utf8ByteSize > Spot.maxName
      · refine .inl ⟨.nameTooLong, by simp [slot, split, followed, found, Spot.missing, long], ?_⟩
        intro _
        rw [stat?_eq_none_iff, child, found]
      · exact .inr ⟨rfl, by simp [slot, split, followed, child, found, Spot.missing, long]⟩

end HasDirectory

/-! ## Requests -/

/-- What a program answers, and the file system that it leaves. -/
def run (program : StateM FileSystem α) (fs : FileSystem) : α × FileSystem :=
  program fs

theorem run_pure (answer : α) (fs : FileSystem) : run (pure answer) fs = (answer, fs) :=
  rfl

theorem run_bind (program : StateM FileSystem α) (next : α → StateM FileSystem β)
    (fs : FileSystem) :
    run (program >>= next) fs = run (next (run program fs).1) (run program fs).2 :=
  rfl

/-- A request that is refused leaves the file system as it is. -/
theorem run_request (change : FileSystem → Except Refusal FileSystem) (fs : FileSystem) :
    run (attempt fun fs => (change fs).map fun fs' => ((), fs')) fs =
      match change fs with
      | .ok fs' => (.ok (), fs')
      | .error refusal => (.error refusal, fs) := by
  rw [run, attempt]
  cases change fs <;> rfl

/-! ## Programs that only read -/

def OnlyReads (program : StateM FileSystem α) : Prop :=
  ∀ fs, (run program fs).2 = fs

namespace OnlyReads

theorem pure (answer : α) : OnlyReads (Pure.pure answer) :=
  fun _ => rfl

theorem bind {program : StateM FileSystem α} {next : α → StateM FileSystem β}
    (onlyReads : OnlyReads program) (onlyReads' : ∀ answer, OnlyReads (next answer)) :
    OnlyReads (program >>= next) := by
  intro fs
  rw [run_bind, onlyReads fs]
  exact onlyReads' _ fs

theorem readText (path : String) : OnlyReads (Disk.readText path) :=
  fun _ => rfl

end OnlyReads

/-! ## Requests about a name -/

section Requests

variable {fs : FileSystem} {directory name : String} {address : List String}

theorem run_remove (isDirectory : fs.HasDirectory directory address) (plain : IsPlain name)
    (admitted : refusalOfPath? (join directory name) = none) {bytes : ByteArray} {mode : Nat}
    (isFile : fs.stat? (address ++ [name]) = some (.file bytes mode)) :
    ∃ fs', run (Disk.remove (join directory name)) fs = ((), fs') ∧
      Puts fs fs' (address ++ [name]) none := by
  obtain ⟨above, same, resolved⟩ := isDirectory.resolve_join plain admitted
  rw [stat?_eq_file_iff.1 isFile] at resolved
  have removed : fs.remove (join directory name) = .ok (fs.set (address ++ [name]) none) := by
    rw [remove, resolved, ← same]
  refine ⟨fs.set (address ++ [name]) none, ?_, ?_⟩
  · change ((), (fs.remove (join directory name)).toOption.getD fs) = _
    rw [removed]
    rfl
  · exact puts_set (isDirectory.holds name) (by simp [isFile]) (by simp)

/-- A file is moved to another name unless a directory has this name or the path leads nowhere. -/
theorem run_rename {target : String} (isDirectory : fs.HasDirectory directory address)
    (plain : IsPlain name) (plain' : IsPlain target)
    (admitted : refusalOfPath? (join directory name) = none) {bytes : ByteArray} {mode : Nat}
    (isFile : fs.stat? (address ++ [name]) = some (.file bytes mode)) :
    (∃ refusal,
      run (Disk.rename (join directory name) (join directory target)) fs = (.error refusal, fs) ∧
        ∀ bytes mode, refusalOfPath? (join directory target) = none →
          fs.stat? (address ++ [target]) ≠ some (.file bytes mode)) ∨
      (∃ middle fs',
        run (Disk.rename (join directory name) (join directory target)) fs = (.ok (), fs') ∧
          refusalOfPath? (join directory target) = none ∧
          fs.stat? (address ++ [target]) ≠ some .directory ∧
          Puts fs middle (address ++ [name]) none ∧
          Puts middle fs' (address ++ [target]) (some (.file bytes mode))) := by
  have asked := run_request (·.rename (join directory name) (join directory target)) fs
  obtain ⟨above, same, resolved⟩ := isDirectory.resolve_join plain admitted
  rw [stat?_eq_file_iff.1 isFile] at resolved
  change run (Disk.rename _ _) fs = _ at asked
  rw [rename, resolved] at asked
  rw [asked]
  rcases isDirectory.slot_join_cases plain' with ⟨refusal, refused, absent⟩ | ⟨admitted', slot⟩
  · refine .inl ⟨refusal, by simp only [refused], ?_⟩
    intro bytes mode admitted'
    simp [absent admitted']
  · by_cases isInTheWay : fs.stat? (address ++ [target]) = some .directory
    · obtain ⟨entries, found⟩ := stat?_eq_directory_iff.1 isInTheWay
      refine .inl ⟨.isDirectory, by simp only [slot, found], ?_⟩
      intro bytes mode _
      simp [isInTheWay]
    · -- The file is taken away first, and no directory comes to the target by that.
      have removed : Puts fs (fs.set (address ++ [name]) none) (address ++ [name]) none :=
        puts_set (isDirectory.holds name) (by simp [isFile]) (by simp)
      have grown := removed.grows (by simp [isFile])
      have bare : (fs.set (address ++ [name]) none).stat? (address ++ [target]) ≠
          some .directory := by
        rw [removed.stat?, Function.update_apply]
        split
        · simp
        · exact isInTheWay
      refine .inr ⟨_, (fs.set (address ++ [name]) none).set (address ++ [target])
        (some (.file bytes mode)), ?_, admitted', isInTheWay, removed,
        puts_set ((isDirectory.of_grows grown).holds target) bare (leaf_file bytes mode)⟩
      simp only [slot, same]
      cases found : fs.node? (address ++ [target]) with
      | none => rfl
      | some node =>
        cases node with
        | file bytes mode => rfl
        | directory entries => exact absurd (stat?_eq_directory_iff.2 ⟨entries, found⟩) isInTheWay

theorem run_isFile (isDirectory : fs.HasDirectory directory address) (plain : IsPlain name) :
    ∃ answer, run (Disk.isFile (join directory name)) fs = (answer, fs) ∧
      (answer = true ↔ refusalOfPath? (join directory name) = none ∧
        ∃ bytes mode, fs.stat? (address ++ [name]) = some (.file bytes mode)) := by
  refine ⟨(fs.nodeAt? (join directory name)).any (!·.isDirectory), rfl, ?_⟩
  cases admitted : refusalOfPath? (join directory name) with
  | some refusal => simp [nodeAt?, resolve, follow, admitted]
  | none =>
    rw [isDirectory.nodeAt?_join plain admitted, stat?]
    cases fs.node? (address ++ [name]) with
    | none => simp
    | some node => cases node <;> simp [Node.isDirectory, Node.stat]

/-! ## Fresh entries -/

/-- A file comes under a temporary name that was free. -/
structure Adds (fs fs' : FileSystem) (directory : String) (address : List String) (name : String)
    (stat : Stat) : Prop where
  temporary : ∃ n, name = Entries.temporaryName n
  isDirectory : fs.HasDirectory directory address
  admitted : refusalOfPath? (join directory name) = none
  free : fs.stat? (address ++ [name]) = none
  puts : Puts fs fs' (address ++ [name]) (some stat)

theorem addFresh_cases (fs : FileSystem) (directory : String) (bytes : ByteArray) (mode : Nat) :
    (∃ refusal, fs.addFresh directory (.file bytes mode) = .error refusal) ∨
      ∃ address name fs', fs.addFresh directory (.file bytes mode) =
          .ok (join directory name, fs') ∧
        Adds fs fs' directory address name (.file bytes mode) := by
  rw [addFresh]
  cases found : fs.directoryAt directory with
  | error refusal => exact .inl ⟨refusal, rfl⟩
  | ok spot =>
    obtain ⟨node, above⟩ := spot
    cases node with
    | file bytes mode => exact .inl ⟨.notDirectory, rfl⟩
    | directory entries =>
      cases fresh : Entries.freshName? entries with
      | none => exact .inl ⟨.alreadyExists, by simp only [fresh]⟩
      | some name =>
        cases admitted : refusalOfPath? (join directory name) with
        | some refusal => exact .inl ⟨refusal, by simp only [fresh, admitted]⟩
        | none =>
          obtain ⟨temporary, unused⟩ := Entries.freshName?_eq_some fresh
          have isSpot := hasSpot_of_directoryAt found
          have free : fs.stat? (Spot.address ⟨.directory entries, above⟩ ++ [name]) = none := by
            rw [stat?_eq_none_iff, isSpot.node?_child, unused]
          refine .inr ⟨_, name, _, by simp only [fresh, admitted]; rfl, temporary,
            ⟨_, found, rfl, rfl⟩, admitted, free, ?_⟩
          exact puts_set (isSpot.holds_child _) (by simp [free]) (leaf_file bytes mode)

theorem run_stage (directory text : String) (fs : FileSystem) :
    (∃ refusal, run (Disk.stage directory text) fs = (.error refusal, fs)) ∨
      ∃ address name fs', run (Disk.stage directory text) fs = (.ok (join directory name), fs') ∧
        Adds fs fs' directory address name (.file text.toUTF8 artifactMode) := by
  have asked : run (Disk.stage directory text) fs =
      run (attempt fun fs => fs.addFresh directory (.file text.toUTF8 artifactMode)) fs := rfl
  rw [asked, run, attempt]
  rcases fs.addFresh_cases directory text.toUTF8 artifactMode with
    ⟨refusal, refused⟩ | ⟨address, name, fs', added, adds⟩
  · exact .inl ⟨refusal, by rw [refused]⟩
  · exact .inr ⟨address, name, fs', by rw [added], adds⟩

theorem run_setAside (isDirectory : fs.HasDirectory directory address) (plain : IsPlain name)
    (admitted : refusalOfPath? (join directory name) = none) {bytes : ByteArray} {mode : Nat}
    (isFile : fs.stat? (address ++ [name]) = some (.file bytes mode)) :
    (∃ refusal,
      run (Disk.setAside directory (join directory name)) fs = (.error refusal, fs)) ∨
      ∃ copy fs', run (Disk.setAside directory (join directory name)) fs =
          (.ok (join directory copy), fs') ∧
        Adds fs fs' directory address copy (.file bytes (copiedMode bytes mode)) := by
  have asked : run (Disk.setAside directory (join directory name)) fs =
      run (attempt fun fs => fs.copyFresh directory (join directory name)) fs := rfl
  obtain ⟨above, -, resolved⟩ := isDirectory.resolve_join plain admitted
  rw [stat?_eq_file_iff.1 isFile] at resolved
  rw [asked, run, attempt, copyFresh, readFile, resolved]
  by_cases readable : mayRead mode = true
  · simp only [readable, if_true]
    rcases fs.addFresh_cases directory bytes (copiedMode bytes mode) with
      ⟨refusal, refused⟩ | ⟨address', copy, fs', added, adds⟩
    · exact .inl ⟨refusal, by rw [refused]⟩
    · obtain rfl := isDirectory.unique adds.isDirectory
      exact .inr ⟨copy, fs', by rw [added], adds⟩
  · simp only [readable]
    exact .inl ⟨.notPermitted, rfl⟩

end Requests

end VoiceGrammar.FileSystem
