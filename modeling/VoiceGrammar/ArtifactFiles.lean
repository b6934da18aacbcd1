import VoiceGrammar.Compile
import VoiceGrammar.Disk.Directories

/-!
# Artifact files

The two artifacts of a rule are written as a pair: both appear, or the disk shows the pair that was
there before. Both texts are first put into the directory under other names, and moved into place
when nothing but the moves can go wrong. A copy of an earlier grammar is kept until then, because
the grammar moves first and has to be taken back when the dictionary cannot follow.
-/

namespace VoiceGrammar

structure ArtifactPaths where
  grammar : String
  dictionary : String
  deriving DecidableEq, Repr

namespace ArtifactPaths

/-- Whether a text may be the common part of the two file names. -/
def isBaseName (name : String) : Bool :=
  name ≠ "" && name ≠ "." && name ≠ ".." &&
    name.toList.all fun c => c ≠ '/' && c ≠ '\\' && c ≠ '\x00'

/-- The paths of the pair with this base name in a directory. -/
def ofName (directory name : String) : ArtifactPaths :=
  ⟨Path.join directory (name ++ ".gram"), Path.join directory (name ++ ".dic")⟩

end ArtifactPaths

namespace Artifacts

/-- Removes a file that was set aside, if one was. -/
def discard [Monad m] [Disk m] : Option String → m Unit
  | none => pure ()
  | some path => Disk.remove path

/-- Keeps a copy of the file at a path, if there is one. -/
def keep? [Monad m] [Disk m] (directory path : String) :
    m (Except Refusal (Option String)) := do
  if ← Disk.isFile path then
    match ← Disk.setAside directory path with
    | .ok kept => return .ok (some kept)
    | .error refusal => return .error refusal
  else return .ok none

/-- Undoes the move of a grammar into place: the copy of the earlier file comes back, or the new
file goes. A copy that cannot come back goes too. -/
def restore [Monad m] [Disk m] (path : String) : Option String → m Unit
  | none => Disk.remove path
  | some kept => do
    match ← Disk.rename kept path with
    | .ok () => pure ()
    | .error _ => Disk.remove kept

/-- Moves both staged files into place. `kept` is the copy of an earlier grammar. -/
def moveIntoPlace [Monad m] [Disk m] (paths : ArtifactPaths) (grammar dictionary : String)
    (kept : Option String) : m (Except Failure ArtifactPaths) := do
  match ← Disk.rename grammar paths.grammar with
  | .error refusal =>
    discard kept
    Disk.remove dictionary
    Disk.remove grammar
    return .error (.notWritten paths.grammar refusal)
  | .ok () =>
    match ← Disk.rename dictionary paths.dictionary with
    | .error refusal =>
      restore paths.grammar kept
      Disk.remove dictionary
      return .error (.notWritten paths.dictionary refusal)
    | .ok () =>
      discard kept
      return .ok paths

def writeInto [Monad m] [Disk m] (directory : String) (paths : ArtifactPaths)
    (artifacts : Artifacts) : m (Except Failure ArtifactPaths) := do
  match ← Disk.stage directory artifacts.grammar with
  | .error refusal => return .error (.notWritten paths.grammar refusal)
  | .ok grammar =>
    match ← Disk.stage directory artifacts.dictionary with
    | .error refusal =>
      Disk.remove grammar
      return .error (.notWritten paths.dictionary refusal)
    | .ok dictionary =>
      match ← keep? directory paths.grammar with
      | .error refusal =>
        Disk.remove dictionary
        Disk.remove grammar
        return .error (.notWritten paths.grammar refusal)
      | .ok kept => moveIntoPlace paths grammar dictionary kept

/-- Writes the pair under a base name into a directory, which is made where it is missing. A bad
base name is refused before the disk is asked for anything. -/
def write [Monad m] [Disk m] (artifacts : Artifacts) (directory name : String) :
    m (Except Failure ArtifactPaths) := do
  if ArtifactPaths.isBaseName name then
    match ← makeDirectories directory with
    | .error refusal => return .error (.notWritten directory refusal)
    | .ok () => writeInto directory (.ofName directory name) artifacts
  else return .error (.badFileName name)

end Artifacts

end VoiceGrammar
