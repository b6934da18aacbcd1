import VoiceGrammar.Disk.Refusal
import VoiceGrammar.Rule.Fault
import VoiceGrammar.Spec.Json.Reader

/-!
# Failures

Everything that can go wrong between a specification and its artifacts. A failure records its
cause; the wording stands in one place. Failures of the specification itself are told apart from
all others, because a caller reports them differently.
-/

namespace VoiceGrammar

/-- Why no artifacts could be made. -/
inductive Failure where
  /-- The specification text is not JSON. -/
  | notJson (fault : Spec.Json.Fault)
  /-- The specification is not a rule. -/
  | notRule (fault : RuleFault)
  | badRuleName (name : String)
  /-- Words that have no pronunciation. -/
  | unknownWords (words : List String)
  /-- A line of a lookup list has a word and no phones. -/
  | noPhones (origin : String) (line : Nat) (content : String)
  | badFileName (name : String)
  | notRead (path : String) (refusal : Refusal)
  | notWritten (path : String) (refusal : Refusal)

namespace Failure

def isValidation : Failure → Bool
  | .notJson _ | .notRule _ => true
  | _ => false

def message : Failure → String
  | .notJson fault => "Rule specification is not valid JSON: " ++ fault.text
  | .notRule fault => fault.message
  | .badRuleName name =>
    "Invalid rule name '" ++ name ++
      "' (names must be non-empty and contain no whitespace, dots or JSGF operators)"
  | .unknownWords words => "No pronunciation found for: " ++ ", ".intercalate words
  | .noPhones origin line content =>
    "Malformed phonetic lookup list '" ++ origin ++ "' at line " ++ toString line ++
      ": word '" ++ content ++ "' has no phones"
  | .badFileName name => "Invalid output file name '" ++ name ++ "'"
  | .notRead path refusal => "Failed to read '" ++ path ++ "': " ++ refusal.message
  | .notWritten path refusal => "Failed to write '" ++ path ++ "': " ++ refusal.message

end Failure

end VoiceGrammar
