import VoiceGrammar.Disk.Basic

/-!
# Making directories

A directory is made together with the directories above it that are missing. A directory that is
there already is as good as a new one.
-/

namespace VoiceGrammar

/-- Makes the first of some paths a directory, the paths after it being the directories above,
the nearest first. Those are turned to only when the directory above is missing. -/
def makeDirectoryIn [Monad m] [Disk m] : List String → m (Except Refusal Unit)
  | [] => pure (.ok ())
  | path :: above => do
    let acceptable (refusal : Refusal) : m (Except Refusal Unit) := do
      if ← Disk.isDirectory path then return .ok () else return .error refusal
    match ← Disk.makeDirectory path with
    | .ok () => return .ok ()
    | .error .notFound =>
      match ← makeDirectoryIn above with
      | .error refusal => return .error refusal
      | .ok () =>
        match ← Disk.makeDirectory path with
        | .ok () => return .ok ()
        | .error refusal => acceptable refusal
    | .error refusal => acceptable refusal

/-- Makes a directory and those above it, as far as they are missing. -/
def makeDirectories [Monad m] [Disk m] (path : String) : m (Except Refusal Unit) :=
  makeDirectoryIn (Path.ancestors path)

end VoiceGrammar
