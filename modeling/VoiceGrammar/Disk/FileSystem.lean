import VoiceGrammar.Disk.Spot

/-!
# File systems

A file system is a tree of entries with a working directory somewhere in it. A path starts at the
top or at the working directory, and leads to the place of an entry or to a slot where an entry
could be made. Some paths are refused as they stand, whatever the tree holds.
-/

namespace VoiceGrammar

/-- Where an entry stands or could be made: its address and the node there. -/
structure Slot where
  address : List String
  node : Option Node

/-- The entries below the top of a file system, and the address of the working directory, from
which relative paths start. -/
structure FileSystem where
  entries : Entries
  working : List String

namespace FileSystem

/-- The file system that has nothing but the directories that lead to a working directory. -/
def startingIn (working : List String) : FileSystem :=
  ⟨Entries.makeDirectories working [], working⟩

/-- The node at an address; the top has the empty address. -/
def node? (fs : FileSystem) (address : List String) : Option Node :=
  Entries.find? address fs.entries

/-- The entry at an address by itself. -/
def stat? (fs : FileSystem) (address : List String) : Option Stat :=
  (fs.node? address).map Node.stat

/-- Puts a node at an address, or removes what is there. -/
def set (fs : FileSystem) (address : List String) (node : Option Node) : FileSystem :=
  { fs with entries := Entries.set node address fs.entries }

def top (fs : FileSystem) : Spot :=
  ⟨.directory fs.entries, []⟩

/-- The length in bytes that no path may reach. -/
def maxPath : Nat := 4096

/-- Why a path is refused without a look at any entry. -/
def refusalOfPath? (path : String) : Option Refusal :=
  if path.toList.contains '\x00' then some .nullInPath
  else if path = "" then some .notFound
  else if path.utf8ByteSize ≥ maxPath then some .nameTooLong
  else none

def start (fs : FileSystem) (path : String) : Except Refusal Spot :=
  if Path.isAbsolute path then .ok fs.top else fs.top.walk fs.working

/-- The place that a path leads to by following some of its segments. -/
def follow (fs : FileSystem) (path : String) (segments : List String) : Except Refusal Spot :=
  match refusalOfPath? path with
  | some refusal => .error refusal
  | none =>
    match fs.start path with
    | .error refusal => .error refusal
    | .ok spot => spot.walk segments

def resolve (fs : FileSystem) (path : String) : Except Refusal Spot :=
  fs.follow path (Path.segments path)

/-- The slot that a path leads to. A path that ends in dots leads to a directory and no slot. -/
def slot (fs : FileSystem) (path : String) : Except Refusal Slot :=
  match Path.split? path with
  | none =>
    match fs.resolve path with
    | .error refusal => .error refusal
    | .ok _ => .error .alreadyExists
  | some (parents, name) =>
    match fs.follow path parents with
    | .error refusal => .error refusal
    | .ok spot =>
      match spot.node with
      | .file .. => .error .notDirectory
      | .directory entries =>
        match entries.lookup name with
        | some node => .ok ⟨spot.address ++ [name], some node⟩
        | none =>
          match Spot.missing name with
          | .notFound => .ok ⟨spot.address ++ [name], none⟩
          | refusal => .error refusal

def nodeAt? (fs : FileSystem) (path : String) : Option Node :=
  match fs.resolve path with
  | .ok spot => some spot.node
  | .error _ => none

/-- The bytes and the mode of a file that may be read. -/
def readFile (fs : FileSystem) (path : String) : Except Refusal (ByteArray × Nat) :=
  match fs.resolve path with
  | .error refusal => .error refusal
  | .ok spot =>
    match spot.node with
    | .directory _ => .error .isDirectory
    | .file bytes mode => if mayRead mode then .ok (bytes, mode) else .error .notPermitted

def readText (fs : FileSystem) (path : String) : Except Refusal String :=
  match fs.readFile path with
  | .error refusal => .error refusal
  | .ok (bytes, _) =>
    match String.fromUTF8? bytes with
    | some text => .ok text
    | none => .error .notText

def makeDirectory (fs : FileSystem) (path : String) : Except Refusal FileSystem :=
  match fs.slot path with
  | .error refusal => .error refusal
  | .ok slot =>
    match slot.node with
    | some _ => .error .alreadyExists
    | none => .ok (fs.set slot.address (some (.directory [])))

/-- The place of a directory; the empty path leads to the working directory. -/
def directoryAt (fs : FileSystem) (path : String) : Except Refusal Spot :=
  if path = "" then fs.top.walk fs.working else fs.resolve path

/-- Puts a node under a fresh name into a directory. The result holds the path of the new entry. -/
def addFresh (fs : FileSystem) (directory : String) (node : Node) :
    Except Refusal (String × FileSystem) :=
  match fs.directoryAt directory with
  | .error refusal => .error refusal
  | .ok spot =>
    match spot.node with
    | .file .. => .error .notDirectory
    | .directory entries =>
      match Entries.freshName? entries with
      | none => .error .alreadyExists
      | some name =>
        let path := Path.join directory name
        match refusalOfPath? path with
        | some refusal => .error refusal
        | none => .ok (path, fs.set (spot.address ++ [name]) (some node))

/-- Moves a file to another path, where it replaces a file but not a directory. -/
def rename (fs : FileSystem) (source target : String) : Except Refusal FileSystem :=
  match fs.resolve source with
  | .error refusal => .error refusal
  | .ok spot =>
    match fs.slot target with
    | .error refusal => .error refusal
    | .ok slot =>
      match slot.node with
      | some (.directory _) => .error .isDirectory
      | _ => .ok ((fs.set spot.address none).set slot.address (some spot.node))

/-- Removes the entry that a path leads to, with what is below it. -/
def remove (fs : FileSystem) (path : String) : Except Refusal FileSystem :=
  match fs.resolve path with
  | .ok spot => .ok (fs.set spot.address none)
  | .error refusal => .error refusal

end FileSystem

end VoiceGrammar
