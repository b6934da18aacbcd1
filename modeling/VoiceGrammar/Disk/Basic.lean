import VoiceGrammar.Disk.FileSystem

/-!
# Disks

Whatever reads or writes files asks a disk to do it, one request at a time. A request is answered
by a result or by a refusal, and nothing else is known about the disk, so the same program runs on
a file system that is a value and on one that is not. The value is the disk for reasoning.
-/

namespace VoiceGrammar

/-- Something that answers requests about files. -/
class Disk (m : Type → Type) where
  /-- The text of a file. -/
  readText : (path : String) → m (Except Refusal String)
  /-- Whether a path leads to a directory. -/
  isDirectory : (path : String) → m Bool
  /-- Whether a path leads to a file. -/
  isFile : (path : String) → m Bool
  /-- Makes a directory in a directory that is there. -/
  makeDirectory : (path : String) → m (Except Refusal Unit)
  /-- Puts a text into a new file of a directory, readable for everyone; the answer is its path. -/
  stage : (directory text : String) → m (Except Refusal String)
  /-- Puts a copy of a file, with the mode that copies get, into the directory; the answer is the
  copy's path. -/
  setAside : (directory path : String) → m (Except Refusal String)
  /-- Moves a file to another path, replacing a file there. -/
  rename : (source target : String) → m (Except Refusal Unit)
  /-- Removes a file. -/
  remove : (path : String) → m Unit

namespace FileSystem

/-- The mode of new files: everyone may read, the owner may write. -/
def artifactMode : Nat := 0o644

/-- Turns a change that may be refused into a step; a refused change changes nothing. -/
def attempt (change : FileSystem → Except Refusal (α × FileSystem)) :
    StateM FileSystem (Except Refusal α) := fun fs =>
  match change fs with
  | .ok (answer, fs') => (.ok answer, fs')
  | .error refusal => (.error refusal, fs)

/-- The copy of a file under a fresh name in a directory. -/
def copyFresh (fs : FileSystem) (directory path : String) :
    Except Refusal (String × FileSystem) :=
  match fs.readFile path with
  | .error refusal => .error refusal
  | .ok (bytes, mode) => fs.addFresh directory (.file bytes (copiedMode bytes mode))

instance : Disk (StateM FileSystem) where
  readText path := fun fs => (fs.readText path, fs)
  isDirectory path := fun fs => ((fs.nodeAt? path).any (·.isDirectory), fs)
  isFile path := fun fs => ((fs.nodeAt? path).any (!·.isDirectory), fs)
  makeDirectory path := attempt fun fs => (fs.makeDirectory path).map fun fs' => ((), fs')
  stage directory text :=
    attempt fun fs => fs.addFresh directory (.file text.toUTF8 artifactMode)
  setAside directory path := attempt fun fs => fs.copyFresh directory path
  rename source target := attempt fun fs => (fs.rename source target).map fun fs' => ((), fs')
  remove path := fun fs => ((), (fs.remove path).toOption.getD fs)

end FileSystem

end VoiceGrammar
