import VoiceGrammar.Proofs.Disk.Directories

/-!
# Regular files

What a file system holds besides directories are regular files, each with its bytes and its mode.
A file is found under an address or by a path. The path of a plain name in a directory finds what
the directory has under this name, and finds nothing where no directory is.
-/

namespace VoiceGrammar

open VoiceGrammar.Path (join IsPlain)

def Stat.file? : Stat → Option (ByteArray × Nat)
  | .file bytes mode => some (bytes, mode)
  | .directory => none

namespace FileSystem

/-- The bytes and the mode of the regular file at an address. -/
def file? (fs : FileSystem) (address : List String) : Option (ByteArray × Nat) :=
  (fs.stat? address).bind Stat.file?

/-- The bytes and the mode of the regular file that a path leads to. -/
def fileAt? (fs : FileSystem) (path : String) : Option (ByteArray × Nat) :=
  (fs.nodeAt? path).bind (·.stat.file?)

variable {fs fs' : FileSystem} {directory name : String} {address : List String}

theorem file?_eq_comp (fs : FileSystem) : fs.file? = (Option.bind · Stat.file?) ∘ fs.stat? :=
  rfl

theorem Paves.file?_eq (paves : Paves fs fs' directory) : fs'.file? = fs.file? := by
  funext address
  rcases paves.keeps address with same | ⟨absent, isDirectory, -⟩
  · rw [file?, file?, same]
  · simp [file?, absent, isDirectory, Stat.file?]

/-! ## Paths of names -/

theorem refusalOfPath?_eq_none_iff {path : String} :
    refusalOfPath? path = none ↔
      '\x00' ∉ path.toList ∧ path ≠ "" ∧ path.utf8ByteSize < maxPath := by
  rw [refusalOfPath?]
  split
  · next null => simp [List.contains_iff_mem.1 null]
  · next noNull =>
    rw [List.contains_iff_mem] at noNull
    split
    · next isEmpty => simp [isEmpty]
    · next notEmpty =>
      split
      · next long => simp; omega
      · next short => simp [noNull, notEmpty]; omega

/-- A path is not refused where a longer one is not. -/
theorem refusalOfPath?_of_join (notEmpty : directory ≠ "") (noSlash : '/' ∉ name.toList)
    (admitted : refusalOfPath? (join directory name) = none) :
    refusalOfPath? directory = none := by
  obtain ⟨rest, whole⟩ : ∃ rest, join directory name = directory ++ rest := by
    rw [join, Path.isAbsolute_eq_false noSlash]
    simp only [Bool.false_eq_true, if_false]
    split
    · exact ⟨name, rfl⟩
    · exact ⟨"/" ++ name, String.append_assoc⟩
  rw [whole, refusalOfPath?_eq_none_iff, String.toList_append, List.mem_append, not_or,
    String.utf8ByteSize_append] at admitted
  obtain ⟨⟨noNull, -⟩, -, short⟩ := admitted
  exact refusalOfPath?_eq_none_iff.2 ⟨noNull, notEmpty, by omega⟩

/-- A path that ends in a plain name leads to an entry of a directory. -/
theorem exists_hasDirectory_of_resolve_join (plain : IsPlain name) {spot : Spot}
    (resolved : fs.resolve (join directory name) = .ok spot) :
    ∃ address, fs.HasDirectory directory address := by
  obtain ⟨admitted, walked⟩ := follow_eq_ok_iff.1 resolved
  obtain ⟨sameStart, front, cut, shape⟩ := Path.segments_join directory plain
  have sameOrigin : fs.origin (join directory name) = fs.origin directory := by
    rw [origin, origin, sameStart]
  rw [cut, sameOrigin, ← List.append_assoc] at walked
  obtain ⟨middle, started, ended⟩ := Spot.exists_of_walk_append walked
  -- The name is looked up in the place before it, which therefore is a directory.
  obtain ⟨entries, isNode⟩ : ∃ entries, middle.node = .directory entries := by
    rw [Spot.walk] at ended
    split at ended
    · cases ended
    · next entries isNode => exact ⟨entries, isNode⟩
  refine ⟨middle.address, middle, directoryAt_eq_ok_iff.2 ?_, by rw [isNode]; rfl, rfl⟩
  rcases shape with ⟨rfl, rfl⟩ | ⟨notEmpty, shape⟩
  · exact ⟨by simp, started⟩
  · refine ⟨fun _ => refusalOfPath?_of_join notEmpty plain.noSlash admitted, ?_⟩
    rw [if_neg notEmpty]
    rcases shape with whole | slash
    · rw [whole]
      exact started
    · rw [slash, ← List.append_assoc, Spot.walk_append_of_ok started, Spot.walk, isNode]
      rfl

/-- The path of a plain name finds a file just where its directory has one. -/
theorem fileAt?_join_eq_some_iff (plain : IsPlain name) {content : ByteArray × Nat} :
    fs.fileAt? (join directory name) = some content ↔
      refusalOfPath? (join directory name) = none ∧
        ∃ address, fs.HasDirectory directory address ∧
          fs.file? (address ++ [name]) = some content := by
  constructor
  · intro found
    cases resolved : fs.resolve (join directory name) with
    | error refusal => simp [fileAt?, nodeAt?, resolved] at found
    | ok spot =>
      have admitted := (follow_eq_ok_iff.1 resolved).1
      obtain ⟨address, isDirectory⟩ := exists_hasDirectory_of_resolve_join plain resolved
      rw [fileAt?, isDirectory.nodeAt?_join plain admitted] at found
      exact ⟨admitted, address, isDirectory, by rwa [file?, stat?, Option.bind_map]⟩
  · rintro ⟨admitted, address, isDirectory, found⟩
    rw [file?, stat?, Option.bind_map] at found
    rwa [fileAt?, isDirectory.nodeAt?_join plain admitted]

/-! ## Places of directories -/

/-- The address that a segment leads to from another one, where all that it needs is there. -/
def addressFrom (address : List String) (segment : String) : List String :=
  if !Path.isStep segment then address
  else if segment = ".." then address.dropLast
  else address ++ [segment]

/-- The address that a path leads to, now or as soon as the directories on its way are there. -/
def placeOf (fs : FileSystem) (path : String) : List String :=
  (fs.origin path ++ Path.segments path).foldl addressFrom []

theorem address_of_walk {spot spot' : Spot} {segments : List String}
    (walked : spot.walk segments = .ok spot') :
    spot'.address = segments.foldl addressFrom spot.address := by
  induction segments generalizing spot with
  | nil =>
    cases walked
    rfl
  | cons segment rest inRest =>
    obtain ⟨node, above⟩ := spot
    rw [Spot.walk] at walked
    rw [List.foldl_cons, addressFrom]
    split at walked
    · cases walked
    · split at walked
      · next noStep =>
        rw [if_pos noStep]
        exact inRest walked
      · next isStep =>
        rw [if_neg isStep]
        split at walked
        · next up =>
          rw [if_pos up, ← Spot.address_parent]
          exact inRest walked
        · next notUp =>
          rw [if_neg notUp]
          split at walked
          · rw [inRest walked, Spot.address_inside]
            rfl
          · cases walked

theorem HasDirectory.address_eq (isDirectory : fs.HasDirectory directory address) :
    address = fs.placeOf directory := by
  obtain ⟨spot, found, -, rfl⟩ := isDirectory
  rw [address_of_walk (directoryAt_eq_ok_iff.1 found).2, placeOf]
  split
  · next isEmpty =>
    -- The empty path has one segment, which leads nowhere.
    have segments : Path.segments directory = [""] := by
      rw [isEmpty]
      rfl
    rw [segments, List.foldl_append, List.foldl_append]
    rfl
  · rfl

theorem Grows.placeOf_eq (grows : Grows fs fs') (path : String) :
    fs'.placeOf path = fs.placeOf path := by
  rw [placeOf, placeOf, origin, origin, grows.working]

/-- What a directory has under a name at its place, the path of the name finds. -/
theorem fileAt?_join_eq (plain : IsPlain name) {file? : Option (ByteArray × Nat)}
    (holds : fs.file? (fs.placeOf directory ++ [name]) = file?)
    (leads : ∀ content, file? = some content → refusalOfPath? (join directory name) = none ∧
      ∃ address, fs.HasDirectory directory address) :
    fs.fileAt? (join directory name) = file? := by
  refine Option.ext fun content => (fileAt?_join_eq_some_iff plain).trans ⟨?_, fun isSome => ?_⟩
  · rintro ⟨-, address, isDirectory, found⟩
    rwa [← holds, ← isDirectory.address_eq]
  · obtain ⟨admitted, address, isDirectory⟩ := leads content isSome
    refine ⟨admitted, address, isDirectory, ?_⟩
    rw [isDirectory.address_eq, holds, isSome]

end FileSystem

end VoiceGrammar
