import VoiceGrammar.Rule.Tree

/-!
# The vocabulary of a rule

The words of all tokens of a rule, each word once, in the order of their first appearance. The
dictionary of a grammar has an entry for every one of them.
-/

namespace VoiceGrammar

/-- The distinct words of a rule in the order in which they first appear. -/
def RuleGroup.vocabulary (group : RuleGroup) : List String :=
  (group.tokens.flatMap Token.words).eraseDups

end VoiceGrammar
