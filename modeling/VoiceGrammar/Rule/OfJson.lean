import VoiceGrammar.Failure
import VoiceGrammar.Rule.OfValue

/-!
# Rules from specification text

The text is read as a value first and the value as a rule second, so a text that is not JSON is
never blamed for its rules.
-/

namespace VoiceGrammar

def RuleGroup.ofJson (text : String) : Except Failure RuleGroup :=
  match Spec.Value.ofJson text with
  | .error fault => .error (.notJson fault)
  | .ok value =>
    match RuleGroup.ofValue value with
    | .error fault => .error (.notRule fault)
    | .ok group => .ok group

end VoiceGrammar
