import VoiceGrammar.Disk.Directories

/-!
# Taking stock of a file system

A file system can be filled file by file, and everything in its working directory can be listed.
The list is in the order of the paths, and a directory comes before what it holds.
-/

namespace VoiceGrammar

namespace Entries

mutual

/-- A node and everything below it, each with its path. -/
def listNode (path : String) : Node → List (String × Stat)
  | .file bytes mode => [(path, .file bytes mode)]
  | .directory entries => (path, .directory) :: listEntries (path ++ "/") entries

/-- The entries of a directory and everything below them; `stem` stands before each name. -/
def listEntries (stem : String) : List (String × Node) → List (String × Stat)
  | [] => []
  | (name, node) :: rest => listNode (stem ++ name) node ++ listEntries stem rest

end

end Entries

namespace FileSystem

/-- Everything below the working directory, in the order of the paths. -/
def listing (fs : FileSystem) : List (String × Stat) :=
  match fs.node? fs.working with
  | some (.directory entries) => (Entries.listEntries "" entries).mergeSort fun a b => a.1 ≤ b.1
  | _ => []

def directoryMode : Nat := 0o755

/-- The rights that a mode grants, without its special bits. -/
def rights (mode : Nat) : Nat := mode % 0o1000

def rightsAt? (fs : FileSystem) (path : String) : Option Nat :=
  (fs.nodeAt? path).map fun
    | .file _ mode => rights mode
    | .directory _ => directoryMode

/-- Writes a file and gives it a mode. A file that is there has to admit being written to, and a
path that ends in a slash never leads to a file. -/
def writeFile (fs : FileSystem) (path : String) (bytes : ByteArray) (mode : Nat) :
    Except Refusal FileSystem :=
  match Path.split? path with
  | none => (fs.resolve path).bind fun _ => .error .isDirectory
  | some (parents, _) =>
    if path.endsWith "/" then (fs.follow path parents).bind fun _ => .error .isDirectory
    else
      match fs.slot path with
      | .error refusal => .error refusal
      | .ok slot =>
        let written := fs.set slot.address (some (.file bytes mode))
        match slot.node with
        | none => .ok written
        | some (.file _ old) => if mayWrite old then .ok written else .error .notPermitted
        | some (.directory _) => .error .isDirectory

/-- Puts a file at a path and makes the directories above it that are missing. -/
def putFile (path : String) (bytes : ByteArray) (mode : Nat) :
    StateM FileSystem (Except Refusal Unit) := do
  match ← makeDirectoryIn (Path.ancestors path).tail with
  | .error refusal => return .error refusal
  | .ok () => attempt fun fs => (fs.writeFile path bytes mode).map fun fs' => ((), fs')

end FileSystem

end VoiceGrammar
