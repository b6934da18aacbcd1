import VoiceGrammar.Expansion.Basic

/-!
# Derivations

What an expansion derives, rule by rule and without any notion of matching. A derivation of a
sequence derives its items one after the other, and a derivation of a repetition is a derivation
of its body followed by a derivation of the rest.
-/

namespace VoiceGrammar

/-- The word sequences that an expansion derives. -/
inductive Expansion.Derives : Expansion → List String → Prop where
  /-- A token derives exactly its words. -/
  | phrase (token : Token) : Derives (.phrase token) token.words
  /-- An empty sequence derives no words. -/
  | nil : Derives (.sequence []) []
  | cons {first : Expansion} {rest : List Expansion} {words words' : List String} :
      Derives first words → Derives (.sequence rest) words' →
      Derives (.sequence (first :: rest)) (words ++ words')
  /-- A choice derives what one of its items derives. -/
  | choice {item : Expansion} {items : List Expansion} {words : List String} :
      item ∈ items → Derives item words → Derives (.alternatives items) words
  | omitted (body : Expansion) : Derives (.optional body) []
  | present {body : Expansion} {words : List String} :
      Derives body words → Derives (.optional body) words
  | last {body : Expansion} {words : List String} :
      Derives body words → Derives (.oneOrMore body) words
  | again {body : Expansion} {words words' : List String} :
      Derives body words → Derives (.oneOrMore body) words' →
      Derives (.oneOrMore body) (words ++ words')
  | never (body : Expansion) : Derives (.zeroOrMore body) []
  | more {body : Expansion} {words words' : List String} :
      Derives body words → Derives (.zeroOrMore body) words' →
      Derives (.zeroOrMore body) (words ++ words')

end VoiceGrammar
