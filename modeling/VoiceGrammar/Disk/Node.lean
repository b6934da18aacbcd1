/-!
# Trees of entries

A directory holds named entries, and an entry is a file or a directory again. A tree is looked into
and changed at an address, the list of names that lead from its top to an entry. Directories exist
only as nodes of the tree, so nothing ever stands in a directory that is not there. A file may be
read or written over as its mode grants its owner; whoever asks owns every file, is in its group and
has no rights beyond that.
-/

namespace VoiceGrammar

/-! ## Modes -/

/-- Whether a mode lets the owner of a file read it. -/
def mayRead (mode : Nat) : Bool := mode / 0o400 % 2 = 1

def mayWrite (mode : Nat) : Bool := mode / 0o200 % 2 = 1

def withoutBit (bit mode : Nat) : Nat :=
  if mode / bit % 2 = 1 then mode - bit else mode

/-- The mode of a file after something was written to it. It no longer lends the rights of its owner
to those who run it, nor the rights of its group where the group may run it. -/
def writtenMode (mode : Nat) : Nat :=
  let disowned := withoutBit 0o4000 mode
  if mode / 0o010 % 2 = 1 then withoutBit 0o2000 disowned else disowned

/-- The mode of a copy of a file. A copy gets the mode of the file before the bytes are written to
it; without bytes nothing is written. -/
def copiedMode (bytes : ByteArray) (mode : Nat) : Nat :=
  if bytes.isEmpty then mode else writtenMode mode

theorem withoutBit_of_lt {bit mode : Nat} (small : mode < bit) : withoutBit bit mode = mode := by
  rw [withoutBit, Nat.div_eq_of_lt small, if_neg (by decide)]

/-- A copy keeps a mode that lends no rights. -/
theorem copiedMode_of_lt (bytes : ByteArray) {mode : Nat} (small : mode < 0o2000) :
    copiedMode bytes mode = mode := by
  simp [copiedMode, writtenMode, withoutBit_of_lt small,
    withoutBit_of_lt (Nat.lt_trans small (by decide : 0o2000 < 0o4000))]

theorem withoutBit_mod {bit below : Nat} (mode : Nat) (divides : below ∣ bit) :
    withoutBit bit mode % below = mode % below := by
  rw [withoutBit]
  split
  · next isSet =>
    obtain ⟨times, rfl⟩ := divides
    have fits : below * times ≤ mode := by
      apply Nat.le_of_not_lt
      intro small
      rw [Nat.div_eq_of_lt small] at isSet
      exact absurd isSet (by decide)
    obtain ⟨rest, rfl⟩ := Nat.exists_eq_add_of_le fits
    rw [Nat.add_sub_cancel_left, Nat.mul_add_mod]
  · rfl

/-- The bits of a mode that lend nothing are copied as they are. -/
theorem copiedMode_mod (bytes : ByteArray) (mode : Nat) :
    copiedMode bytes mode % 0o2000 = mode % 0o2000 := by
  have first := withoutBit_mod mode (by decide : 0o2000 ∣ 0o4000)
  rw [copiedMode]
  split
  · rfl
  rw [writtenMode]
  split
  · rw [withoutBit_mod _ (Nat.dvd_refl _), first]
  · exact first

/-! ## Nodes -/

inductive Node where
  | file (bytes : ByteArray) (mode : Nat)
  | directory (entries : List (String × Node))

/-- An entry by itself: all of a file, and of a directory only that it is one. -/
inductive Stat where
  | file (bytes : ByteArray) (mode : Nat)
  | directory

namespace Node

def isDirectory : Node → Bool
  | .directory _ => true
  | .file .. => false

/-- The node without what is below it. -/
def stat : Node → Stat
  | .file bytes mode => .file bytes mode
  | .directory _ => .directory

end Node

abbrev Entries := List (String × Node)

namespace Entries

/-- Gives a name a new node, or removes the name. -/
def replace (entries : Entries) (name : String) (node : Option Node) : Entries :=
  entries.filter (·.1 ≠ name) ++ (node.map fun node => (name, node)).toList

def find? : List String → Entries → Option Node
  | [], entries => some (.directory entries)
  | name :: rest, entries =>
    match entries.lookup name with
    | some (.directory inner) => find? rest inner
    | some file => if rest.isEmpty then some file else none
    | none => none

/-- Puts a node at an address, or removes what is there. Without a directory to hold it nothing
changes. -/
def set (node : Option Node) : List String → Entries → Entries
  | [], entries => entries
  | [name], entries => replace entries name node
  | name :: rest, entries =>
    match entries.lookup name with
    | some (.directory inner) => replace entries name (some (.directory (set node rest inner)))
    | _ => entries

/-- Makes the directories that lead to an address, and one at the address itself. A file in the
way stays. -/
def makeDirectories : List String → Entries → Entries
  | [], entries => entries
  | name :: rest, entries =>
    match entries.lookup name with
    | some (.directory inner) =>
      replace entries name (some (.directory (makeDirectories rest inner)))
    | some (.file ..) => entries
    | none => replace entries name (some (.directory (makeDirectories rest [])))

/-- The last digits of a number, as many as asked for. -/
def digits : (count n : Nat) → List Char
  | 0, _ => []
  | count + 1, n => digits count (n / 10) ++ [Nat.digitChar (n % 10)]

/-- The names that temporary entries may get, which are all of one length. -/
def temporaryName (n : Nat) : String :=
  ".tmp" ++ String.ofList (digits 6 n)

/-- The number of different names that temporary entries may get. -/
def maxNames : Nat := 1000000

/-- A name for a temporary entry that no entry has. Of one more name than there are entries at least
one is free, so no more are tried. -/
def freshName? (entries : Entries) : Option String :=
  ((List.range (min (entries.length + 1) maxNames)).map temporaryName).find? fun name =>
    (entries.lookup name).isNone

end Entries

end VoiceGrammar
