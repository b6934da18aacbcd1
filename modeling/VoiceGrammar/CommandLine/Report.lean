import VoiceGrammar.CommandLine.Options
import VoiceGrammar.Expansion.Matching
import VoiceGrammar.Generate

/-!
# Runs of the program

A run answers with its exit status and with what it prints. The specification is read first, so
that the utterances to check are judged even where no artifact can be made. The status tells a bad
specification from every other failure.
-/

namespace VoiceGrammar.CommandLine

/-- What a run of the program answers. -/
structure Report where
  status : Nat
  output : String := ""
  errors : String := ""
  deriving DecidableEq, Repr

def exitStatus (failure : Failure) : Nat :=
  if failure.isValidation then 2 else 1

def Report.ofFailure (output : String) (failure : Failure) : Report :=
  ⟨exitStatus failure, output, "Error: " ++ failure.message ++ "\n"⟩

def checkLine (expansion : Expansion) (utterance : String) : String :=
  (if expansion.accepts utterance then "accepted" else "rejected") ++ ": " ++ utterance ++ "\n"

def checkLines (group : RuleGroup) (utterances : List String) : String :=
  String.join (utterances.map (checkLine group.expansion))

/-- How a character is written in a JSON string. -/
def jsonChar (c : Char) : List Char :=
  if c = '\x22' then ['\\', '\x22']
  else if c = '\\' then ['\\', '\\']
  else if c = '\x08' then ['\\', 'b']
  else if c = '\x0c' then ['\\', 'f']
  else if c = '\n' then ['\\', 'n']
  else if c = '\r' then ['\\', 'r']
  else if c = '\t' then ['\\', 't']
  else if c < ' ' then
    let digits := Nat.toDigits 16 c.toNat
    ['\\', 'u'] ++ List.replicate (4 - digits.length) '0' ++ digits
  else [c]

def jsonString (text : String) : String :=
  String.ofList ('\x22' :: (text.toList.flatMap jsonChar ++ ['\x22']))

/-- The paths of the artifact files as a JSON object. -/
def pathsJson (paths : ArtifactPaths) : String :=
  "\x7b\n  \"grammar_path\": " ++ jsonString paths.grammar ++
    ",\n  \"dictionary_path\": " ++ jsonString paths.dictionary ++ "\n\x7d\n"

/-- The paths of the artifact files, one to a line. -/
def pathsText (paths : ArtifactPaths) : String :=
  paths.grammar ++ "\n" ++ paths.dictionary ++ "\n"

/-- The artifacts, with an empty line between the two. -/
def artifactsText (artifacts : Artifacts) : String :=
  artifacts.grammar ++ "\n" ++ artifacts.dictionary

def Options.settings (options : Options) : Settings :=
  ⟨options.directory, options.ruleName, options.listName⟩

/-- Compiles a rule without generating anything. The base name is the name of the rule when no other
one is given. -/
def Options.compile [Monad m] [Disk m] (options : Options) (group : RuleGroup) :
    m (Except Failure Artifacts) := do
  match ← Lexicon.ofModel options.model options.listName with
  | .error failure => return .error failure
  | .ok lexicon =>
    let ruleName := options.ruleName.getD options.name
    return group.compile ruleName lexicon.pronunciations?

/-- Makes what a rule compiles to, printed or written, and says what to print. -/
def Options.produce [Monad m] [Disk m] (options : Options) (group : RuleGroup) :
    m (Except Failure String) := do
  if options.dryRun then
    match ← options.compile group with
    | .error failure => return .error failure
    | .ok artifacts => return .ok (artifactsText artifacts)
  else
    match ← group.generate options.settings options.name options.model with
    | .error failure => return .error failure
    | .ok paths => return .ok (if options.json then pathsJson paths else pathsText paths)

def Options.run [Monad m] [Disk m] (options : Options) : m Report := do
  match ← RuleGroup.ofFile options.spec with
  | .error failure => return .ofFailure "" failure
  | .ok group =>
    let checked := checkLines group options.checks
    match ← options.produce group with
    | .error failure => return .ofFailure checked failure
    | .ok output => return ⟨0, checked ++ output, ""⟩

def versionText : String := "voxgram 0.1.0\n"

def Request.answer [Monad m] [Disk m] : Request → m Report
  | .run options => options.run
  | .version => pure ⟨0, versionText, ""⟩
  | .help => pure ⟨0, "", ""⟩
  | .misuse => pure ⟨2, "", ""⟩

end VoiceGrammar.CommandLine
