import VoiceGrammar.Disk.Node
import VoiceGrammar.Disk.Path
import VoiceGrammar.Disk.Refusal

/-!
# Places in a tree

A path is followed one segment at a time, which is where a missing entry, a file in the way or an
overlong name is noticed. A place keeps the way back to the top, so a segment that leads upwards
needs no second search.
-/

namespace VoiceGrammar

/-- A place in a tree: the node there, and on the way back to the top each name with the directory
that it was looked up in. -/
structure Spot where
  node : Node
  above : List (String × Entries)

namespace Spot

/-- The greatest length of a name in bytes. -/
def maxName : Nat := 255

def address (spot : Spot) : List String :=
  (spot.above.map Prod.fst).reverse

/-- The directory that holds a place; the top holds itself. -/
def parent (spot : Spot) : Spot :=
  match spot.above with
  | [] => spot
  | (_, entries) :: above => ⟨.directory entries, above⟩

/-- Why a name leads nowhere. -/
def missing (name : String) : Refusal :=
  if name.utf8ByteSize > maxName then .nameTooLong else .notFound

/-- Follows segments. Everything that a segment is looked up in has to be a directory, even for a
segment that leads nowhere. -/
def walk (spot : Spot) : List String → Except Refusal Spot
  | [] => .ok spot
  | segment :: rest =>
    match spot.node with
    | .file .. => .error .notDirectory
    | .directory entries =>
      if !Path.isStep segment then walk spot rest
      else if segment = ".." then walk spot.parent rest
      else
        match entries.lookup segment with
        | some node => walk ⟨node, (segment, entries) :: spot.above⟩ rest
        | none => .error (missing segment)

end Spot

end VoiceGrammar
