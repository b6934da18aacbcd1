import VoiceGrammar.ArtifactFiles
import VoiceGrammar.Lexicon.OfModel
import VoiceGrammar.Rule.OfJson

/-!
# Generating artifact files

From a specification to its two files: the rule is read, the lexicon of the acoustic model is
loaded, the rule is compiled, and only then is anything written. Each stage needs the one before it
to have succeeded.
-/

namespace VoiceGrammar

/-- What generation needs to know besides the rule, its name and the acoustic model. -/
structure Settings where
  /-- The directory that receives the files. -/
  directory : String := "."
  /-- The name of the public rule; the base name of the files when it is not given. -/
  ruleName : Option String := none
  /-- The name of the lookup list in the acoustic model. -/
  listName : String := Lexicon.defaultListName
  deriving DecidableEq, Repr

namespace RuleGroup

/-- Compiles a rule with the lexicon of an acoustic model. -/
def compileFor [Monad m] [Disk m] (group : RuleGroup) (settings : Settings) (name model : String) :
    m (Except Failure Artifacts) := do
  match ← Lexicon.ofModel model settings.listName with
  | .error failure => return .error failure
  | .ok lexicon =>
    return group.compile (settings.ruleName.getD name) lexicon.pronunciations?

def generate [Monad m] [Disk m] (group : RuleGroup) (settings : Settings) (name model : String) :
    m (Except Failure ArtifactPaths) := do
  match ← group.compileFor settings name model with
  | .error failure => return .error failure
  | .ok artifacts => artifacts.write settings.directory name

def ofFile [Monad m] [Disk m] (path : String) : m (Except Failure RuleGroup) := do
  match ← Disk.readText path with
  | .error refusal => return .error (.notRead path refusal)
  | .ok text => return ofJson text

end RuleGroup

/-- Generates the artifact files of a specification text. -/
def generate [Monad m] [Disk m] (spec name model : String) (settings : Settings) :
    m (Except Failure ArtifactPaths) := do
  match RuleGroup.ofJson spec with
  | .error failure => return .error failure
  | .ok group => group.generate settings name model

end VoiceGrammar
