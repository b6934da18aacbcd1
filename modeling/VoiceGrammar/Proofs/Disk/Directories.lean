import Mathlib.Data.List.TakeWhile
import VoiceGrammar.Disk.Directories
import VoiceGrammar.Proofs.Disk.Requests
import VoiceGrammar.Proofs.Text.Words

/-!
# What making directories changes

Making the directories of a path leaves every entry as it is. All that comes are directories where
nothing was before, and each of them is passed on the way that the path takes, though with dots in
the path it need not lie above the place where the path ends.
-/

namespace VoiceGrammar

namespace Path

def steps (path : String) : List String :=
  (segments path).filter isStep

/-- What a path is split into are its steps, and the last of them is a name. -/
theorem steps_of_split? {path name : String} {parents : List String}
    (cut : split? path = some (parents, name)) :
    steps path = (parents ++ [name]).filter isStep ∧ isStep name = true ∧ name ≠ ".." := by
  rw [split?] at cut
  split at cut
  · cases cut
  · next last rest backwards =>
    split at cut
    · cases cut
    · next noDots =>
      cases cut
      rw [not_or] at noDots
      have first := List.head?_dropWhile_not (· == "") (segments path).reverse
      have notEmpty : name ≠ "" := by simpa [backwards] using first
      have parts := List.takeWhile_append_dropWhile (p := (· == "")) (l := (segments path).reverse)
      have whole : segments path = rest.reverse ++ [name] ++
          ((segments path).reverse.takeWhile (· == "")).reverse := by
        rw [backwards] at parts
        have turned := congrArg List.reverse parts
        simpa using turned.symm
      -- The slashes at the end come with empty segments, which lead nowhere.
      have nowhere : ((segments path).reverse.takeWhile (· == "")).reverse.filter isStep = [] := by
        rw [List.filter_eq_nil_iff]
        intro segment member
        have isEmpty := List.mem_takeWhile_imp (List.mem_reverse.1 member)
        simp only [beq_iff_eq] at isEmpty
        simp [isStep, isEmpty]
      refine ⟨?_, by simp [isStep, notEmpty, noDots.1], noDots.2⟩
      rw [steps, whole, List.filter_append, nowhere, List.append_nil]

/-! ## Directories above a path -/

theorem mem_components {path component : String} (member : component ∈ components path) :
    component ∈ segments path ∧ component ≠ "" := by
  rw [components] at member
  split at member
  · next rest cut =>
    rw [cut]
    rcases List.mem_cons.1 member with rfl | member
    · exact ⟨List.mem_cons_self, by decide⟩
    · have kept := List.mem_filter.1 member
      exact ⟨List.mem_cons_of_mem _ kept.1, by rintro rfl; exact absurd kept.2 (by decide)⟩
  · have kept := List.mem_filter.1 member
    exact ⟨kept.1, by rintro rfl; exact absurd kept.2 (by decide)⟩

theorem noSlash_of_mem_components {path component : String}
    (member : component ∈ components path) : '/' ∉ component.toList := by
  obtain ⟨piece, isPiece, rfl⟩ := List.mem_map.1 (mem_components member).1
  rw [String.toList_ofList]
  intro slash
  have noSlash := (Text.of_mem_splitOnP isPiece '/' slash).2
  simp at noSlash

theorem filter_components (path : String) : (components path).filter isStep = steps path := by
  have noDot : ¬ isStep "." = true := by decide
  rw [components, steps]
  split
  · next rest cut =>
    rw [cut, List.filter_cons_of_neg noDot, List.filter_cons_of_neg noDot, List.filter_filter]
    simp
  · rw [List.filter_filter]
    simp

theorem segments_ofComponents {absolute : Bool} {parts : List String} (nonempty : parts ≠ [])
    (noSlash : ∀ part ∈ parts, '/' ∉ part.toList) :
    segments (ofComponents absolute parts) = (if absolute then [""] else []) ++ parts := by
  have slash : "/".toList = ['/'] := by decide
  have cut : (['/'].intercalate (parts.map String.toList)).splitOn '/' =
      parts.map String.toList :=
    List.splitOn_intercalate '/' (by simpa using noSlash) (by simpa using nonempty)
  have whole : (parts.map String.toList).map String.ofList = parts := by simp
  cases absolute with
  | false =>
    simp only [ofComponents, segments, Bool.false_eq_true, if_false, String.empty_append,
      String.toList_intercalate, slash, cut, whole, List.nil_append]
  | true =>
    have first := List.splitOn_append_cons_self (a := '/') []
      (['/'].intercalate (parts.map String.toList))
    rw [List.nil_append, cut] at first
    simp only [ofComponents, segments, if_true, String.toList_append,
      String.toList_intercalate, slash, List.singleton_append, first, List.map_append, whole]
    simp

theorem isAbsolute_ofComponents {absolute : Bool} {parts : List String} (nonempty : parts ≠ [])
    (isComponent : ∀ part ∈ parts, '/' ∉ part.toList ∧ part ≠ "") :
    isAbsolute (ofComponents absolute parts) = absolute := by
  cases absolute with
  | true => simp [isAbsolute, ofComponents]
  | false =>
    obtain ⟨first, rest, rfl⟩ := List.exists_cons_of_ne_nil nonempty
    obtain ⟨noSlash, notEmpty⟩ := isComponent first List.mem_cons_self
    obtain ⟨c, more, isFirst⟩ := List.exists_cons_of_ne_nil
      (show first.toList ≠ [] by simpa using notEmpty)
    have different : c ≠ '/' := by
      rintro rfl
      exact noSlash (isFirst ▸ List.mem_cons_self)
    cases rest with
    | nil => simp [isAbsolute, ofComponents, isFirst, different]
    | cons second rest =>
      simp [isAbsolute, ofComponents, isFirst, different]

theorem prefix_of_mem_ancestors {path above : String} (member : above ∈ ancestors path) :
    isAbsolute above = isAbsolute path ∧ steps above <+: steps path := by
  rw [ancestors] at member
  split at member
  · cases member
  · next notNone =>
    rcases List.mem_cons.1 member with rfl | member
    · exact ⟨rfl, List.prefix_refl _⟩
    · obtain ⟨n, inRange, rfl⟩ := List.mem_map.1 member
      have bound : n < (components path).length - 1 := by simpa using inRange
      have nonempty : (components path).take (n + 1) ≠ [] := by
        rw [← List.length_pos_iff, List.length_take]
        omega
      have isComponent : ∀ part ∈ (components path).take (n + 1),
          '/' ∉ part.toList ∧ part ≠ "" := by
        intro part isPart
        have inAll := List.mem_of_mem_take isPart
        exact ⟨noSlash_of_mem_components inAll, (mem_components inAll).2⟩
      refine ⟨isAbsolute_ofComponents nonempty isComponent, ?_⟩
      have noStep : ¬ isStep "" = true := by decide
      have onlyParts : steps (ofComponents (isAbsolute path) ((components path).take (n + 1))) =
          ((components path).take (n + 1)).filter isStep := by
        rw [steps, segments_ofComponents nonempty fun part isPart => (isComponent part isPart).1]
        split <;> simp [noStep]
      rw [onlyParts, ← filter_components path]
      exact (List.take_prefix _ _).filter _

end Path

namespace FileSystem

/-- Some leading steps of a path lead to an address. -/
def LeadsThrough (fs : FileSystem) (path : String) (address : List String) : Prop :=
  ∃ steps spot, steps <+: Path.steps path ∧
    (fs.start path).bind (·.walk steps) = .ok spot ∧ spot.address = address

/-- An address has what it had, or it is a new directory on the way of a path. -/
def Keeps (fs fs' : FileSystem) (path : String) (address : List String) : Prop :=
  fs'.stat? address = fs.stat? address ∨
    (fs.stat? address = none ∧ fs'.stat? address = some .directory ∧
      fs'.LeadsThrough path address)

/-- All that is new are directories on the way of a path. -/
structure Paves (fs fs' : FileSystem) (path : String) : Prop where
  working : fs'.working = fs.working
  keeps : ∀ address, Keeps fs fs' path address

theorem start_bind_walk (fs : FileSystem) (path : String) (steps : List String) :
    (fs.start path).bind (·.walk steps) = fs.top.walk (fs.origin path ++ steps) := by
  rw [start_eq, Spot.walk_append]

theorem start_bind_walk_filter {fs : FileSystem} {path : String} {segments : List String}
    {spot : Spot} (walked : (fs.start path).bind (·.walk segments) = .ok spot) :
    (fs.start path).bind (·.walk (segments.filter Path.isStep)) = .ok spot := by
  cases started : fs.start path with
  | error refusal =>
    rw [started] at walked
    cases walked
  | ok start =>
    rw [started] at walked
    exact Spot.walk_filter walked

theorem LeadsThrough.of_grows {fs fs' : FileSystem} {path : String} {address : List String}
    (leads : fs.LeadsThrough path address) (isDirectory : fs.stat? address = some .directory)
    (grows : Grows fs fs') : fs'.LeadsThrough path address := by
  obtain ⟨steps, spot, leading, walked, rfl⟩ := leads
  rw [start_bind_walk] at walked
  have isNode := (hasSpot_of_walk_top walked).isDirectory_iff.1 isDirectory
  obtain ⟨spot', walked', same, -⟩ := walk_top_of_grows grows walked isNode
  refine ⟨steps, spot', leading, ?_, same⟩
  rw [start_bind_walk, origin, grows.working]
  exact walked'

namespace Paves

variable {fs fs' fs'' : FileSystem} {path : String}

theorem refl (fs : FileSystem) (path : String) : Paves fs fs path :=
  ⟨rfl, fun _ => .inl rfl⟩

theorem of_stat?_eq (working : fs'.working = fs.working) (same : fs'.stat? = fs.stat?) :
    Paves fs fs' path :=
  ⟨working, fun address => .inl (congrFun same address)⟩

theorem grows (paves : Paves fs fs' path) : Grows fs fs' where
  working := paves.working
  directory address isDirectory := by
    rcases paves.keeps address with same | ⟨absent, -⟩
    · rw [same, isDirectory]
    · rw [isDirectory] at absent
      cases absent

theorem trans (first : Paves fs fs' path) (second : Paves fs' fs'' path) : Paves fs fs'' path where
  working := second.working.trans first.working
  keeps address := by
    rcases first.keeps address with same | ⟨absent, isDirectory, leads⟩
    · rcases second.keeps address with same' | ⟨absent', new⟩
      · exact .inl (same'.trans same)
      · exact .inr ⟨same ▸ absent', new⟩
    · exact .inr ⟨absent, second.grows.directory address isDirectory,
        leads.of_grows isDirectory second.grows⟩

end Paves

/-! ## One directory -/

/-- A slot is a name in a directory, together with what the directory has under it. -/
theorem exists_of_slot {fs : FileSystem} {path : String} {slot : Slot}
    (found : fs.slot path = .ok slot) :
    ∃ parents name entries above, Path.split? path = some (parents, name) ∧
      fs.top.walk (fs.origin path ++ parents) = .ok ⟨.directory entries, above⟩ ∧
      slot = ⟨Spot.address ⟨.directory entries, above⟩ ++ [name], entries.lookup name⟩ := by
  rw [FileSystem.slot] at found
  split at found
  · split at found <;> cases found
  · next parents name cut =>
    split at found
    · cases found
    · next spot followed =>
      obtain ⟨node, above⟩ := spot
      obtain ⟨-, walked⟩ := follow_eq_ok_iff.1 followed
      cases node with
      | file bytes mode => cases found
      | directory entries =>
        refine ⟨parents, name, entries, above, cut, walked, ?_⟩
        simp only at found
        split at found
        · next node isNode =>
          cases found
          rw [isNode]
        · next isNone =>
          split at found
          · cases found
            rw [isNone]
          · cases found

/-- The path of a free slot leads to the directory that is put into it. -/
theorem leadsThrough_of_puts {fs fs' : FileSystem} {path : String} {slot : Slot}
    (found : fs.slot path = .ok slot) (free : fs.stat? slot.address = none)
    (puts : Puts fs fs' slot.address (some .directory)) : fs'.LeadsThrough path slot.address := by
  obtain ⟨parents, name, entries, above, cut, walked, rfl⟩ := exists_of_slot found
  obtain ⟨whole, isStep, notUp⟩ := Path.steps_of_split? cut
  obtain ⟨⟨node', above'⟩, walked', same, isNode'⟩ :=
    walk_top_of_grows (puts.grows (by simp [free])) walked rfl
  obtain ⟨entries', rfl⟩ := Node.isDirectory_iff.1 isNode'
  have isSpot' := hasSpot_of_walk_top walked'
  have isNew := congrFun puts.stat? (Spot.address ⟨.directory entries, above⟩ ++ [name])
  rw [Function.update_self, ← same, stat?, isSpot'.node?_child] at isNew
  obtain ⟨node, isEntry, -⟩ := Option.map_eq_some_iff.1 isNew
  refine ⟨_, ⟨node, (name, entries') :: above'⟩, List.prefix_refl _, ?_, ?_⟩
  · have sameOrigin : fs'.origin path = fs.origin path := by
      rw [origin, origin, puts.working]
    rw [whole]
    apply start_bind_walk_filter
    rw [start_bind_walk, sameOrigin, ← List.append_assoc, Spot.walk_append_of_ok walked']
    simp [Spot.walk, isStep, notUp, isEntry]
  · rw [Spot.address_inside, same]

theorem run_makeDirectory (path : String) (fs : FileSystem) :
    (∃ refusal, run (Disk.makeDirectory path) fs = (.error refusal, fs)) ∨
      ∃ address fs', run (Disk.makeDirectory path) fs = (.ok (), fs') ∧
        fs.stat? address = none ∧ Puts fs fs' address (some .directory) ∧
        fs'.LeadsThrough path address := by
  have asked := run_request (·.makeDirectory path) fs
  change run (Disk.makeDirectory path) fs = _ at asked
  rw [asked]
  cases made : fs.makeDirectory path with
  | error refusal => exact .inl ⟨refusal, rfl⟩
  | ok fs' =>
    rw [makeDirectory] at made
    split at made
    · cases made
    · next slot found =>
      split at made
      · cases made
      · next isFree =>
        cases made
        obtain ⟨parents, name, entries, above, cut, walked, rfl⟩ := exists_of_slot found
        have isSpot := hasSpot_of_walk_top walked
        have free : fs.stat? (Spot.address ⟨.directory entries, above⟩ ++ [name]) = none := by
          rw [stat?_eq_none_iff, isSpot.node?_child]
          exact isFree
        have puts := puts_set (isSpot.holds_child name) (by simp [free]) leaf_directory
        exact .inr ⟨_, _, rfl, free, puts, leadsThrough_of_puts found free puts⟩

/-! ## The directories of a path -/

/-- A program that leaves at most new directories on the way of a path. -/
def OnlyPaves (program : StateM FileSystem α) (path : String) : Prop :=
  ∀ fs, Paves fs (run program fs).2 path

namespace OnlyPaves

variable {path : String}

theorem pure (answer : α) : OnlyPaves (Pure.pure answer) path :=
  fun fs => .refl fs path

theorem bind {program : StateM FileSystem α} {next : α → StateM FileSystem β}
    (onlyPaves : OnlyPaves program path) (onlyPaves' : ∀ answer, OnlyPaves (next answer) path) :
    OnlyPaves (program >>= next) path :=
  fun fs => (onlyPaves fs).trans (onlyPaves' _ _)

theorem isDirectory (asked : String) : OnlyPaves (Disk.isDirectory asked) path :=
  fun fs => .refl fs path

theorem makeDirectory {made : String}
    (onWay : ∀ (fs : FileSystem) address, fs.LeadsThrough made address →
      fs.LeadsThrough path address) : OnlyPaves (Disk.makeDirectory made) path := by
  intro fs
  rcases run_makeDirectory made fs with ⟨refusal, refused⟩ | ⟨address, fs', done, free, puts, leads⟩
  · rw [refused]
    exact .refl fs path
  · rw [done]
    refine ⟨puts.working, fun other => ?_⟩
    by_cases same : other = address
    · subst same
      exact .inr ⟨free, by rw [puts.stat?, Function.update_self], onWay fs' _ leads⟩
    · exact .inl (by rw [puts.stat?, Function.update_of_ne same])

theorem makeDirectoryIn {paths : List String}
    (onWay : ∀ above ∈ paths, ∀ (fs : FileSystem) address,
      fs.LeadsThrough above address → fs.LeadsThrough path address) :
    OnlyPaves (VoiceGrammar.makeDirectoryIn paths) path := by
  induction paths with
  | nil => exact pure _
  | cons first above inAbove =>
    rw [List.forall_mem_cons] at onWay
    have make := makeDirectory onWay.1
    have accept : ∀ refusal : Refusal, OnlyPaves (do
        if ← Disk.isDirectory first then return Except.ok () else return Except.error refusal)
        path := by
      intro refusal
      refine (isDirectory first).bind fun answer => ?_
      split <;> exact pure _
    refine make.bind fun answer => ?_
    split
    case h_1 => exact pure _
    case h_2 =>
      -- The directories above are made and then the first one is asked for again.
      refine (inAbove onWay.2).bind fun answer => ?_
      split
      · exact pure _
      · refine make.bind fun answer => ?_
        split
        · exact pure _
        · exact accept _
    case h_3 => exact accept _

end OnlyPaves

/-- Making a directory with those above it paves the way to it, whether or not it succeeds. -/
theorem onlyPaves_makeDirectories (path : String) : OnlyPaves (makeDirectories path) path := by
  apply OnlyPaves.makeDirectoryIn
  rintro above isAbove fs address ⟨steps, spot, leading, walked, same⟩
  obtain ⟨sameStart, onWay⟩ := Path.prefix_of_mem_ancestors isAbove
  rw [start, sameStart] at walked
  exact ⟨steps, spot, leading.trans onWay, walked, same⟩

end FileSystem

end VoiceGrammar
