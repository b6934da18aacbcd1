import VoiceGrammar.Lexicon.OfModel

/-!
# Command-line options

The arguments of the program are read from left to right. An option that takes a value finds it
behind an equals sign, behind its letter or in the next argument; flags may share one dash. The
first argument that makes no sense ends the reading, and so do the flags that ask for the version
or for help, whatever may follow them.
-/

namespace VoiceGrammar.CommandLine

/-- What a run of the program is asked to do. -/
structure Options where
  /-- The path of the specification. -/
  spec : String
  /-- The base name of the artifact files. -/
  name : String
  /-- The directory of the acoustic model. -/
  model : String
  /-- The directory that receives the artifact files. -/
  directory : String
  ruleName : Option String
  listName : String
  /-- Print the artifacts and write nothing. -/
  dryRun : Bool
  /-- Print the paths of the artifact files as JSON. -/
  json : Bool
  /-- Utterances to try on the rule. -/
  checks : List String
  deriving DecidableEq, Repr

/-- What the arguments ask for. -/
inductive Request where
  | run (options : Options)
  | version
  | help
  /-- The arguments make no sense. -/
  | misuse
  deriving DecidableEq, Repr

/-- The options that take a value. -/
inductive Setting where
  | name
  | model
  | directory
  | ruleName
  | listName
  | check
  deriving DecidableEq, Repr

inductive Flag where
  | dryRun
  | json
  | verbose
  | version
  | help
  deriving DecidableEq, Repr

inductive Meaning where
  | setting (setting : Setting)
  | flag (flag : Flag)
  deriving DecidableEq, Repr

def ofLongName? : String → Option Meaning
  | "name" => some (.setting .name)
  | "acoustic-model" => some (.setting .model)
  | "out-dir" => some (.setting .directory)
  | "rule-name" => some (.setting .ruleName)
  | "lookup-list" => some (.setting .listName)
  | "check" => some (.setting .check)
  | "dry-run" => some (.flag .dryRun)
  | "json" => some (.flag .json)
  | "verbose" => some (.flag .verbose)
  | "version" => some (.flag .version)
  | "help" => some (.flag .help)
  | _ => none

def ofLetter? : Char → Option Meaning
  | 'n' => some (.setting .name)
  | 'a' => some (.setting .model)
  | 'o' => some (.setting .directory)
  | 'v' => some (.flag .verbose)
  | 'V' => some (.flag .version)
  | 'h' => some (.flag .help)
  | _ => none

/-- What the arguments read so far have given. -/
structure Draft where
  spec : Option String := none
  name : Option String := none
  model : Option String := none
  directory : Option String := none
  ruleName : Option String := none
  listName : Option String := none
  dryRun : Bool := false
  json : Bool := false
  checks : List String := []
  deriving DecidableEq, Repr

namespace Draft

/-- Fills a field that is still free. -/
def fill (old : Option String) (value : String) : Option (Option String) :=
  if old.isNone then some (some value) else none

/-- Fills a field that holds a path; a path is never empty. -/
def fillPath (old : Option String) (value : String) : Option (Option String) :=
  if value.isEmpty then none else fill old value

/-- Takes in the value of an option; only an utterance to check may be given more than once. -/
def give (draft : Draft) (value : String) : Setting → Option Draft
  | .name => (fill draft.name value).map fun name => { draft with name }
  | .model => (fillPath draft.model value).map fun model => { draft with model }
  | .directory => (fillPath draft.directory value).map fun directory => { draft with directory }
  | .ruleName => (fill draft.ruleName value).map fun ruleName => { draft with ruleName }
  | .listName => (fill draft.listName value).map fun listName => { draft with listName }
  | .check => some { draft with checks := draft.checks ++ [value] }

/-- Takes in an argument that belongs to no option. -/
def giveSpec (draft : Draft) (value : String) : Option Draft :=
  (fillPath draft.spec value).map fun spec => { draft with spec }

/-- Takes in a flag. The flags that ask for the version or for help end the reading at once; only
verbosity may be asked for more than once. -/
def raise (draft : Draft) : Flag → Except Request Draft
  | .version => .error .version
  | .help => .error .help
  | .verbose => .ok draft
  | .dryRun => if draft.dryRun then .error .misuse else .ok { draft with dryRun := true }
  | .json => if draft.json then .error .misuse else .ok { draft with json := true }

/-- The options, if none that is needed is missing. -/
def finish (draft : Draft) : Request :=
  match draft.spec, draft.name, draft.model with
  | some spec, some name, some model =>
    .run {
      spec, name, model
      directory := draft.directory.getD "."
      ruleName := draft.ruleName
      listName := draft.listName.getD Lexicon.defaultListName
      dryRun := draft.dryRun
      json := draft.json
      checks := draft.checks }
  | _, _, _ => .misuse

end Draft

/-- Whether an argument is taken for an option, and so for nobody's value. -/
def looksLikeOption (argument : String) : Bool :=
  match argument.toList with
  | '-' :: _ :: _ => true
  | _ => false

/-- Reads the letters behind a single dash. A letter that takes a value and has none behind it
waits for the next argument. -/
def readLetters (draft : Draft) : List Char → Except Request (Draft × Option Setting)
  | [] => .ok (draft, none)
  | letter :: rest =>
    match ofLetter? letter with
    | none => .error .misuse
    | some (.flag flag) =>
      match draft.raise flag with
      | .error request => .error request
      | .ok draft => readLetters draft rest
    | some (.setting setting) =>
      match rest with
      | [] => .ok (draft, some setting)
      | first :: more =>
        let value := String.ofList (if first = '=' then more else first :: more)
        match draft.give value setting with
        | some draft => .ok (draft, none)
        | none => .error .misuse

/-- Reads what stands behind two dashes: a long name, or one with an equals sign and a value. -/
def readLong (draft : Draft) (text : List Char) : Except Request (Draft × Option Setting) :=
  let name := String.ofList (text.takeWhile (· != '='))
  match ofLongName? name, text.dropWhile (· != '=') with
  | none, _ => .error .misuse
  | some (.flag flag), [] => (draft.raise flag).map fun draft => (draft, none)
  | some (.flag _), _ :: _ => .error .misuse
  | some (.setting setting), [] => .ok (draft, some setting)
  | some (.setting setting), _ :: value =>
    match draft.give (String.ofList value) setting with
    | some draft => .ok (draft, none)
    | none => .error .misuse

/-- Reads one argument, two dashes alone left out. The setting in the result still waits for its
value. -/
def readArgument (draft : Draft) (argument : String) : Except Request (Draft × Option Setting) :=
  match argument.toList with
  | '-' :: '-' :: text => readLong draft text
  | '-' :: letter :: text => readLetters draft (letter :: text)
  | _ =>
    match draft.giveSpec argument with
    | some draft => .ok (draft, none)
    | none => .error .misuse

/-- Reads arguments none of which is an option. -/
def readPlain (draft : Draft) : List String → Request
  | [] => draft.finish
  | argument :: rest =>
    match draft.giveSpec argument with
    | some draft => readPlain draft rest
    | none => .misuse

/-- Reads arguments; `waiting` is the option whose value has to come next. -/
def readArguments (draft : Draft) (waiting : Option Setting) : List String → Request
  | [] => if waiting.isSome then .misuse else draft.finish
  | argument :: rest =>
    match waiting with
    | some setting =>
      if looksLikeOption argument then .misuse
      else
        match draft.give argument setting with
        | some draft => readArguments draft none rest
        | none => .misuse
    | none =>
      if argument = "--" then readPlain draft rest
      else
        match readArgument draft argument with
        | .error request => request
        | .ok (draft, waiting) => readArguments draft waiting rest

def Request.ofArguments (arguments : List String) : Request :=
  readArguments {} none arguments

end VoiceGrammar.CommandLine
