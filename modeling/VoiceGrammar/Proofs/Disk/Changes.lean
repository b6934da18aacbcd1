import Mathlib.Logic.Function.Basic
import VoiceGrammar.Disk.Lemmas

/-!
# Changes at one address

A file that comes, goes or is replaced, and an empty directory that comes, show at one address and
nowhere else. A change of this kind that overwrites no directory leaves every path where it led.
-/

namespace VoiceGrammar.FileSystem

/-- The second file system is the first one with another entry at one address. -/
structure Puts (fs fs' : FileSystem) (address : List String) (stat : Option Stat) : Prop where
  working : fs'.working = fs.working
  stat? : fs'.stat? = Function.update fs.stat? address stat

/-- The second file system has every directory of the first one. -/
structure Grows (fs fs' : FileSystem) : Prop where
  working : fs'.working = fs.working
  directory : ∀ address, fs.stat? address = some .directory → fs'.stat? address = some .directory

namespace Grows

variable {fs fs' fs'' : FileSystem}

theorem refl (fs : FileSystem) : Grows fs fs :=
  ⟨rfl, fun _ isDirectory => isDirectory⟩

theorem trans (first : Grows fs fs') (second : Grows fs' fs'') : Grows fs fs'' where
  working := second.working.trans first.working
  directory address isDirectory := second.directory address (first.directory address isDirectory)

end Grows

theorem Puts.grows {fs fs' : FileSystem} {address : List String} {stat : Option Stat}
    (puts : Puts fs fs' address stat) (bare : fs.stat? address ≠ some .directory) :
    Grows fs fs' where
  working := puts.working
  directory other isDirectory := by
    have different : other ≠ address := by
      rintro rfl
      exact bare isDirectory
    rw [puts.stat?, Function.update_of_ne different, isDirectory]

/-! ## Entries by themselves -/

theorem stat?_eq_none_iff {fs : FileSystem} {address : List String} :
    fs.stat? address = none ↔ fs.node? address = none := by
  rw [stat?, Option.map_eq_none_iff]

theorem stat?_eq_file_iff {fs : FileSystem} {address : List String} {bytes : ByteArray}
    {mode : Nat} :
    fs.stat? address = some (.file bytes mode) ↔ fs.node? address = some (.file bytes mode) := by
  rw [stat?]
  cases fs.node? address with
  | none => simp
  | some node => cases node <;> simp [Node.stat]

theorem stat?_eq_directory_iff {fs : FileSystem} {address : List String} :
    fs.stat? address = some .directory ↔
      ∃ entries, fs.node? address = some (.directory entries) := by
  rw [stat?]
  cases fs.node? address with
  | none => simp
  | some node => cases node <;> simp [Node.stat]

/-! ## Putting nodes -/

theorem stat?_append (fs : FileSystem) (address rest : List String) :
    fs.stat? (address ++ rest) =
      ((fs.node? address).bind (Entries.below? rest)).map Node.stat := by
  rw [stat?, node?, Entries.find?_append]
  rfl

theorem stat?_append_eq_none {fs : FileSystem} {address rest : List String}
    (bare : fs.stat? address ≠ some .directory) (below : rest ≠ []) :
    fs.stat? (address ++ rest) = none := by
  rw [stat?_append]
  rw [stat?] at bare
  cases found : fs.node? address with
  | none => rfl
  | some node =>
    cases node with
    | directory entries => simp [found, Node.stat] at bare
    | file bytes mode => simp [Entries.below?, below]

theorem puts_set {fs : FileSystem} {address : List String} {node : Option Node}
    (held : Entries.holds address fs.entries = true) (bare : fs.stat? address ≠ some .directory)
    (leaf : ∀ rest ≠ [], node.bind (Entries.below? rest) = none) :
    Puts fs (fs.set address node) address (node.map Node.stat) where
  working := rfl
  stat? := by
    funext other
    rw [stat?_set fs node held]
    by_cases same : other = address
    · subst same
      rw [if_pos (List.prefix_refl other), Function.update_self, List.drop_length]
      cases node <;> simp
    · rw [Function.update_of_ne same]
      split
      · next isBelow =>
        -- Below the address nothing is found before or after.
        obtain ⟨rest, rfl⟩ := isBelow
        have below : rest ≠ [] := by
          rintro rfl
          exact same (List.append_nil _)
        rw [stat?_append_eq_none bare below, List.drop_left, leaf rest below]
        rfl
      · rfl

theorem leaf_file (bytes : ByteArray) (mode : Nat) :
    ∀ rest ≠ [], (some (Node.file bytes mode)).bind (Entries.below? rest) = none := by
  intro rest below
  simp [Entries.below?, below]

theorem leaf_directory :
    ∀ rest ≠ [], (some (Node.directory [])).bind (Entries.below? rest) = none := by
  intro rest below
  obtain ⟨name, more, rfl⟩ := List.exists_cons_of_ne_nil below
  simp [Entries.below?, Entries.find?_cons]

end VoiceGrammar.FileSystem
