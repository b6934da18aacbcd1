import VoiceGrammar.Compile
import VoiceGrammar.Proofs.Distinct

/-!
# What a compilation answers

A compilation checks the name, then looks up every word of the rule, and only then writes a text.
So a bad name is refused whatever the words are, all words that cannot be pronounced are reported
together, and the grammar does not depend on how the others are pronounced. Words are listed in the
order in which a reader of the rule, depth first and from left to right, first meets them.
-/

namespace VoiceGrammar

namespace Dictionary

theorem isEmpty_known_iff {lookup : String → Option (List String)} {word : String} :
    (known lookup word).isEmpty = true ↔ lookup word = none ∨ lookup word = some [] := by
  rw [known]
  cases lookup word <;> simp

theorem ofWords_eq (lookup : String → Option (List String)) (words : List String) :
    ofWords lookup words =
      if words.filter (fun word => (known lookup word).isEmpty) ≠ [] then
        .error (.unknownWords (words.filter fun word => (known lookup word).isEmpty))
      else .ok (String.join (words.flatMap fun word => wordLines word (known lookup word))) := by
  simp only [ofWords, List.isEmpty_iff, ne_eq, ite_not]

end Dictionary

namespace RuleGroup

open Dictionary Distinct

variable {group : RuleGroup} {name : String} {lookup : String → Option (List String)}

theorem compile_of_isRuleName_eq_false (notName : Grammar.isRuleName name = false) :
    group.compile name lookup = .error (.badRuleName name) := by
  rw [compile, Grammar.checkRuleName, notName]
  rfl

theorem compile_of_isRuleName (isName : Grammar.isRuleName name = true) :
    group.compile name lookup = (ofWords lookup group.vocabulary).map fun dictionary =>
      ⟨Grammar.text name group.expansion, dictionary⟩ := by
  rw [compile, Grammar.document, Grammar.checkRuleName, if_pos isName]
  cases ofWords lookup group.vocabulary <;> rfl

/-- A bad name is refused; else the words that lack a pronunciation are reported, all of them; else
the rule compiles to its grammar and to the lines of its words. The words and the grammar are there
before anything is looked up. -/
theorem compile_answers (group : RuleGroup) (name : String) :
    ∃ words, FirstSeen (group.tokens.flatMap Token.words) (fun _ => True) words ∧
      ∀ lookup : String → Option (List String), ∃ missing,
        FirstSeen (group.tokens.flatMap Token.words)
          (fun word => lookup word = none ∨ lookup word = some []) missing ∧
        group.compile name lookup =
          if Grammar.isRuleName name = false then .error (.badRuleName name)
          else if missing ≠ [] then .error (.unknownWords missing)
          else .ok ⟨Grammar.text name group.expansion,
            String.join (words.flatMap fun word => wordLines word (known lookup word))⟩ := by
  have everyWord := firstSeen_filter_eraseDups (group.tokens.flatMap Token.words) fun _ => true
  rw [List.filter_true] at everyWord
  refine ⟨group.vocabulary, by simpa [vocabulary] using everyWord, fun lookup => ?_⟩
  have unknown := firstSeen_filter_eraseDups (group.tokens.flatMap Token.words)
    fun word => (known lookup word).isEmpty
  simp only [isEmpty_known_iff] at unknown
  refine ⟨_, unknown, ?_⟩
  cases isName : Grammar.isRuleName name with
  | false => rw [compile_of_isRuleName_eq_false isName, if_pos rfl]
  | true =>
    rw [compile_of_isRuleName isName, if_neg (by decide), ofWords_eq, ← vocabulary]
    split <;> rfl

end RuleGroup

end VoiceGrammar
