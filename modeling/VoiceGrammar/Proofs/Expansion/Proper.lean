import VoiceGrammar.Expansion.OfRule
import VoiceGrammar.Expansion.Proper

/-!
# Rules have proper expansions

A group has a child, so that joining and choosing never work on nothing, and what they leave with a
single item they replace by that item. Hence every sequence and every choice in the expansion of a
rule keeps at least two items.
-/

namespace VoiceGrammar

namespace Expansion

theorem IsProper.sequenceItems {expansion : Expansion} (proper : expansion.IsProper) :
    ∀ item ∈ expansion.sequenceItems, item.IsProper := by
  intro item member
  cases proper with
  | sequence _ inItems => exact inItems item member
  | _ =>
    obtain rfl := List.mem_singleton.1 member
    constructor <;> assumption

theorem IsProper.sequenceItems_ne_nil {expansion : Expansion} (proper : expansion.IsProper) :
    expansion.sequenceItems ≠ [] := by
  cases proper with
  | sequence two _ =>
    rintro (rfl : _ = [])
    simp at two
  | _ => exact List.cons_ne_nil _ _

theorem two_le_length {items : List Expansion} (nonempty : items ≠ [])
    (several : ∀ item, items ≠ [item]) : 2 ≤ items.length := by
  match items with
  | [] => exact absurd rfl nonempty
  | [item] => exact absurd rfl (several item)
  | _ :: _ :: rest => simp

theorem isProper_join {parts : List Expansion} (nonempty : parts ≠ [])
    (proper : ∀ part ∈ parts, part.IsProper) : (join parts).IsProper := by
  have inItems : ∀ item ∈ parts.flatMap sequenceItems, item.IsProper := by
    intro item member
    obtain ⟨part, isPart, member⟩ := List.mem_flatMap.1 member
    exact (proper part isPart).sequenceItems item member
  rw [join]
  -- With one item left it is that item, and with none left a part would have had no items.
  split
  · next item single => exact inItems item (single ▸ List.mem_singleton_self item)
  · next several =>
    refine .sequence (two_le_length ?_ several) inItems
    obtain ⟨first, rest, rfl⟩ := List.exists_cons_of_ne_nil nonempty
    rw [List.flatMap_cons]
    exact List.append_ne_nil_of_left_ne_nil (proper first List.mem_cons_self).sequenceItems_ne_nil _

theorem isProper_choose {parts : List Expansion} (nonempty : parts ≠ [])
    (proper : ∀ part ∈ parts, part.IsProper) : (choose parts).IsProper := by
  match parts with
  | [] => exact absurd rfl nonempty
  | [part] => exact proper part (List.mem_singleton_self part)
  | first :: second :: rest => exact .alternatives (by simp) proper

theorem isProper_onceOrTwice {body : Expansion} (proper : body.IsProper) :
    (onceOrTwice body).IsProper := by
  refine .sequence (Nat.le_refl 2) fun item member => ?_
  obtain rfl | rfl : item = body ∨ item = .optional body := by simpa using member
  · exact proper
  · exact .optional proper

theorem isProper_ofParts (kind : Kind) {parts : List Expansion} (nonempty : parts ≠ [])
    (proper : ∀ part ∈ parts, part.IsProper) : (ofParts kind parts).IsProper := by
  have joined := isProper_join nonempty proper
  have chosen := isProper_choose nonempty proper
  rw [ofParts]
  split
  · exact joined
  · exact .optional joined
  · exact .oneOrMore joined
  · exact .zeroOrMore joined
  · exact chosen
  · exact .optional chosen
  · exact isProper_onceOrTwice chosen
  · exact .optional (isProper_onceOrTwice chosen)

end Expansion

theorem Rule.isProper_expansion (rule : Rule) : rule.expansion.IsProper := by
  induction rule using Rule.induction with
  | literal token => exact .phrase token
  | group kind first rest inFirst inRest =>
    rw [expansion, expansions_eq]
    refine Expansion.isProper_ofParts kind (List.cons_ne_nil _ _) fun part member => ?_
    rcases List.mem_cons.1 member with rfl | member
    · exact inFirst
    · obtain ⟨child, isChild, rfl⟩ := List.mem_map.1 member
      exact inRest child isChild

end VoiceGrammar
