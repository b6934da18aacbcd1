import VoiceGrammar.CommandLine.Report

/-!
# The program

The command line on the disk of the system. Only here are files really read and written: every
request is one call to the system, and its answer becomes a result or a refusal.
-/

namespace VoiceGrammar.Main

/-- The refusal with a system number. Some requests answer with the number negated in a word of
32 bits. -/
def refusalOf (number : Nat) (reason : String) : Refusal :=
  match if number < Nat.pow 2 31 then number else Nat.pow 2 32 - number with
  | 2 => .notFound
  | 13 => .notPermitted
  | 17 => .alreadyExists
  | 20 => .notDirectory
  | 21 => .isDirectory
  | 36 => .nameTooLong
  | number => .other number reason.capitalize

/-- The refusal that an error of the system stands for. -/
def refusalOfError : IO.Error → Refusal
  | .alreadyExists _ number reason | .invalidArgument _ number reason
  | .permissionDenied _ number reason | .resourceExhausted _ number reason
  | .inappropriateType _ number reason | .noSuchThing _ number reason
  | .interrupted _ number reason | .noFileOrDirectory _ number reason
  | .otherError number reason | .resourceBusy number reason
  | .resourceVanished number reason | .unsupportedOperation number reason
  | .hardwareFault number reason | .unsatisfiedConstraints number reason
  | .illegalOperation number reason | .protocolError number reason
  | .timeExpired number reason => refusalOf number.toNat reason
  | .unexpectedEof => .other 0 "unexpected end of file"
  | .userError reason => .other 0 reason

/-- Carries out a request; an error of the system is the answer too. -/
def attempt (request : IO α) : IO (Except Refusal α) := do
  try
    return .ok (← request)
  catch error =>
    return .error (refusalOfError error)

def succeeds (request : IO α) : IO Bool := do
  try
    let _ ← request
    return true
  catch _ =>
    return false

/-- A path in a directory that is most likely free. -/
def temporaryPath (directory : String) : IO String := do
  let number ← IO.rand 0 (Entries.maxNames - 1)
  return Path.join directory (Entries.temporaryName number)

/-- Tries a request with temporary paths until one of them is free. -/
def withFreshPath (directory : String) (request : String → IO Unit) :
    Nat → IO (Except Refusal String)
  | 0 => return .error .alreadyExists
  | tries + 1 => do
    let path ← temporaryPath directory
    match ← attempt (request path) with
    | .ok () => return .ok path
    | .error .alreadyExists => withFreshPath directory request tries
    | .error refusal => return .error refusal

def maxTries : Nat := 1000

/-- The rights of artifact files: everyone may read, the owner may write. -/
def artifactRights : IO.FileRight where
  user := { read := true, write := true }
  group := { read := true }
  other := { read := true }

/-- Writes a file that is not there yet. Where that fails halfway, the file goes again. -/
def writeNew (bytes : ByteArray) (path : String) : IO Unit := do
  let handle ← IO.FS.Handle.mk path .writeNew
  try
    handle.write bytes
    handle.flush
    IO.setAccessRights path artifactRights
  catch error =>
    let _ ← attempt (IO.FS.removeFile path)
    throw error

/-- Gives a file a second name, under which it has the same bytes and the same mode. -/
def linkNew (path copy : String) : IO Unit := do
  IO.FS.hardLink (← IO.FS.realPath path) copy

/-- Whether a path leads to a directory, which is where a dot leads back to it. -/
def isDirectory (path : String) : IO Bool :=
  succeeds (IO.FS.realPath (Path.join path "."))

instance : Disk IO where
  readText path := do
    match ← attempt (IO.FS.readBinFile path) with
    | .error refusal => return .error refusal
    | .ok bytes =>
      match String.fromUTF8? bytes with
      | some text => return .ok text
      | none => return .error .notText
  isDirectory path := isDirectory path
  isFile path := do
    if ← isDirectory path then return false
    succeeds (IO.FS.realPath path)
  makeDirectory path := attempt (IO.FS.createDir path)
  stage directory text := withFreshPath directory (writeNew text.toUTF8) maxTries
  setAside directory path := do
    match ← attempt (IO.FS.readBinFile path) with
    | .error refusal => return .error refusal
    | .ok bytes =>
      -- There is no way to ask for the mode of a file, but a link to the file has it. Where the
      -- system makes no link the bytes are copied, with the mode of artifact files.
      match ← withFreshPath directory (linkNew path) maxTries with
      | .ok copy => return .ok copy
      | .error _ => withFreshPath directory (writeNew bytes) maxTries
  rename source target := attempt (IO.FS.rename source target)
  remove path := do
    let _ ← attempt (IO.FS.removeFile path)

def usage : String :=
  "Usage: voxgram [OPTIONS] --name <NAME> --acoustic-model <DIR> <SPEC_FILE>\n\n" ++
  "Options:\n" ++
  "  -n, --name <NAME>           Base name of the generated .gram and .dic files\n" ++
  "  -a, --acoustic-model <DIR>  Acoustic model directory with the lookup list\n" ++
  "  -o, --out-dir <DIR>         Output directory (the current one by default)\n" ++
  "      --rule-name <NAME>      Public rule name (the base name by default)\n" ++
  "      --lookup-list <FILE>    Name of the lookup list in the acoustic model\n" ++
  "      --dry-run               Print the grammar and the dictionary, write nothing\n" ++
  "      --json                  Print the paths of the files as JSON\n" ++
  "      --check <UTTERANCE>     Say whether an utterance is accepted (repeatable)\n" ++
  "  -v, --verbose               Say more (repeatable)\n" ++
  "  -h, --help                  Print this text\n" ++
  "  -V, --version               Print the version\n"

end VoiceGrammar.Main

def main (arguments : List String) : IO UInt32 := do
  let request := VoiceGrammar.CommandLine.Request.ofArguments arguments
  let report ← request.answer
  IO.print report.output
  IO.eprint report.errors
  match request with
  | .help => IO.print VoiceGrammar.Main.usage
  | .misuse => IO.eprint VoiceGrammar.Main.usage
  | _ => pure ()
  return UInt32.ofNat report.status
