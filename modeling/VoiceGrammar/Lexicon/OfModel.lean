import VoiceGrammar.Disk.Basic
import VoiceGrammar.Lexicon.LookupList

/-!
# Lexicons of acoustic models

An acoustic model is a directory that comes with a lookup list. The list is known in messages by
its path.
-/

namespace VoiceGrammar.Lexicon

/-- The name that a lookup list has unless told otherwise. -/
def defaultListName : String := "LanguageModelGeneratorLookupList.text"

/-- The lexicon of the lookup list of an acoustic model. -/
def ofModel [Monad m] [Disk m] (model listName : String) : m (Except Failure Lexicon) := do
  let path := Path.join model listName
  match ← Disk.readText path with
  | .error refusal => return .error (.notRead path refusal)
  | .ok text => return ofLookupList text path

end VoiceGrammar.Lexicon
