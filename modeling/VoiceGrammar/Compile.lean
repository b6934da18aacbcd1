import VoiceGrammar.Expansion.OfRule
import VoiceGrammar.Grammar.Document
import VoiceGrammar.Lexicon.Dictionary
import VoiceGrammar.Rule.Vocabulary

/-!
# Compiling a rule

A rule compiles to two texts: the grammar document that says what may be spoken, and the
dictionary that says how each of its words is pronounced. Nothing is written anywhere.
-/

namespace VoiceGrammar

structure Artifacts where
  grammar : String
  dictionary : String
  deriving DecidableEq, Repr

/-- Compiles a rule under a name. The name is checked before any word is looked up. -/
def RuleGroup.compile (group : RuleGroup) (name : String)
    (lookup : String → Option (List String)) : Except Failure Artifacts := do
  Grammar.checkRuleName name
  let dictionary ← Dictionary.ofWords lookup group.vocabulary
  let grammar ← Grammar.document name group.expansion
  return ⟨grammar, dictionary⟩

end VoiceGrammar
