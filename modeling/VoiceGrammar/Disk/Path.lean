/-!
# Paths

A path is a text whose segments are separated by slashes. Paths are shown the way they were
written, so joining works on the text; only a look at the disk takes a path apart.
-/

namespace VoiceGrammar.Path

/-- The stretches between the slashes of a path, empty ones included. -/
def segments (path : String) : List String :=
  (path.toList.splitOn '/').map String.ofList

def isAbsolute (path : String) : Bool :=
  path.toList.head? = some '/'

/-- The path of `name` within `directory`. An absolute name stands for itself. -/
def join (directory name : String) : String :=
  if isAbsolute name then name
  else if directory.toList.getLast? = none ∨ directory.toList.getLast? = some '/' then
    directory ++ name
  else directory ++ "/" ++ name

/-- Whether a segment leads anywhere: an empty one and a single dot do not. -/
def isStep (segment : String) : Bool :=
  segment ≠ "" && segment ≠ "."

/-- The segments that lead somewhere, and a dot at the very start. -/
def components (path : String) : List String :=
  match segments path with
  | "." :: rest => "." :: rest.filter isStep
  | all => all.filter isStep

def ofComponents (absolute : Bool) (components : List String) : String :=
  (if absolute then "/" else "") ++ "/".intercalate components

/-- The path itself and the directories above it, the nearest first; the top and the empty path
are left out. -/
def ancestors (path : String) : List String :=
  match components path with
  | [] => []
  | all =>
    path :: ((List.range (all.length - 1)).reverse.map fun n =>
      ofComponents (isAbsolute path) (all.take (n + 1)))

/-- The segments before the last one and the last one, slashes at the end left out; nothing when
the last segment is no name. -/
def split? (path : String) : Option (List String × String) :=
  match (segments path).reverse.dropWhile (· == "") with
  | [] => none
  | name :: parents => if name = "." ∨ name = ".." then none else some (parents.reverse, name)

end VoiceGrammar.Path
