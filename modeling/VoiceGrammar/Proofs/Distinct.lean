import Mathlib.Data.List.Nodup
import Mathlib.Data.List.Basic
import Mathlib.Data.List.Induction

/-!
# Values in the order of their first appearance

Two lists are compared by the distinct values they hold, in the order in which these first appear.
Repeating a stretch, or a value that is there already, goes unnoticed; and the order of a longer
list is known from the orders of its parts.
-/

namespace VoiceGrammar.Distinct

variable {α : Type} [DecidableEq α]

theorem nodup_eraseDups (values : List α) : values.eraseDups.Nodup := by
  match values with
  | [] => simp
  | first :: rest =>
    rw [List.eraseDups_cons, List.nodup_cons]
    exact ⟨by simp, nodup_eraseDups _⟩
termination_by values.length
decreasing_by exact Nat.lt_succ_of_le (List.length_filter_le _ _)

theorem eraseDups_of_nodup {values : List α} (nodup : values.Nodup) :
    values.eraseDups = values := by
  induction values with
  | nil => rfl
  | cons first rest inRest =>
    rw [List.nodup_cons] at nodup
    have others : rest.filter (fun value => !value == first) = rest := by
      rw [List.filter_eq_self]
      intro value member
      have different : value ≠ first := fun same => nodup.1 (same ▸ member)
      simpa using different
    rw [List.eraseDups_cons, others, inRest nodup.2]

theorem eraseDups_filter (p : α → Bool) (values : List α) :
    (values.filter p).eraseDups = values.eraseDups.filter p := by
  match values with
  | [] => rfl
  | first :: rest =>
    have inRest := eraseDups_filter p (rest.filter fun value => !value == first)
    rw [List.eraseDups_cons]
    by_cases kept : p first = true
    · rw [List.filter_cons_of_pos kept, List.filter_cons_of_pos kept, List.eraseDups_cons,
        ← inRest, List.filter_comm]
    · -- A value that is filtered out takes only copies of itself along.
      have copies : (rest.filter fun value => !value == first).filter p = rest.filter p := by
        rw [List.filter_filter]
        apply List.filter_congr
        intro value _
        by_cases same : value = first <;> simp [same, kept]
      rw [List.filter_cons_of_neg kept, List.filter_cons_of_neg kept, ← inRest, copies]
termination_by values.length
decreasing_by exact Nat.lt_succ_of_le (List.length_filter_le _ _)

theorem removeAll_eq_filter (values known : List α) :
    values.removeAll known = values.filter fun value => !known.contains value :=
  rfl

/-- Equal orders of two pairs of lists make equal orders of the lists put together. -/
theorem eraseDups_append_congr {values values' more more' : List α}
    (same : values.eraseDups = values'.eraseDups) (sameMore : more.eraseDups = more'.eraseDups) :
    (values ++ more).eraseDups = (values' ++ more').eraseDups := by
  have sameValues : ∀ value, values.contains value = values'.contains value := by
    intro value
    rw [Bool.eq_iff_iff, List.contains_iff_mem, List.contains_iff_mem, ← List.mem_eraseDups, same,
      List.mem_eraseDups]
  rw [List.eraseDups_append, List.eraseDups_append, same, removeAll_eq_filter, removeAll_eq_filter,
    eraseDups_filter, eraseDups_filter, sameMore]
  simp only [sameValues]

theorem eraseDups_flatMap_congr {β : Type} {parts : List β} {f g : β → List α}
    (same : ∀ part ∈ parts, (f part).eraseDups = (g part).eraseDups) :
    (parts.flatMap f).eraseDups = (parts.flatMap g).eraseDups := by
  induction parts with
  | nil => rfl
  | cons first rest inRest =>
    rw [List.forall_mem_cons] at same
    exact eraseDups_append_congr same.1 (inRest same.2)

/-- Of what is read later, only the values that were not seen before are new. -/
theorem eraseDups_append_eq (values more : List α) :
    (values ++ more).eraseDups =
      values.eraseDups ++ more.eraseDups.filter (· ∉ values.eraseDups) := by
  rw [List.eraseDups_append, removeAll_eq_filter, eraseDups_filter]
  simp only [List.mem_eraseDups, List.contains_eq_mem, decide_not]

theorem eraseDups_append_of_subset {values more : List α} (known : ∀ value ∈ more, value ∈ values) :
    (values ++ more).eraseDups = values.eraseDups := by
  have nothing : more.removeAll values = [] := by
    rw [removeAll_eq_filter, List.filter_eq_nil_iff]
    intro value member
    simpa using known value member
  rw [List.eraseDups_append, nothing, List.eraseDups_nil, List.append_nil]

/-- A stretch that is written several times in a row counts once. -/
theorem eraseDups_flatten_replicate {count : Nat} (positive : 0 < count) (values : List α) :
    (List.replicate count values).flatten.eraseDups = values.eraseDups := by
  obtain ⟨more, rfl⟩ := Nat.exists_eq_succ_of_ne_zero (Nat.ne_of_gt positive)
  rw [List.replicate_succ, List.flatten_cons]
  apply eraseDups_append_of_subset
  intro value member
  obtain ⟨copy, isCopy, member⟩ := List.mem_flatten.1 member
  rw [List.eq_of_mem_replicate isCopy] at member
  exact member

/-- Values that are each written several times in a row appear in the order they had. -/
theorem eraseDups_flatMap_replicate {values : List α} {count : α → Nat}
    (positive : ∀ value ∈ values, 0 < count value) :
    (values.flatMap fun value => List.replicate (count value) value).eraseDups =
      values.eraseDups := by
  have single : ∀ value ∈ values,
      (List.replicate (count value) value).eraseDups = [value].eraseDups := by
    intro value member
    have copies := eraseDups_flatten_replicate (positive value member) [value]
    simpa using copies
  have same := eraseDups_flatMap_congr single
  simpa using same

/-- Among distinct values each has what is made of it to itself. -/
theorem flatMap_ite_of_nodup {β : Type} {values : List α} (nodup : values.Nodup) (f : α → List β)
    (value : α) :
    (values.flatMap fun other => if other = value then f other else []) =
      if value ∈ values then f value else [] := by
  induction values with
  | nil => rfl
  | cons first rest inRest =>
    rw [List.nodup_cons] at nodup
    rw [List.flatMap_cons, inRest nodup.2]
    by_cases same : first = value
    · subst same
      rw [if_pos rfl, if_neg nodup.1, if_pos List.mem_cons_self, List.append_nil]
    · rw [if_neg same, List.nil_append]
      simp only [List.mem_cons, Ne.symm same, false_or]

/-! ## Positions of first appearance -/

/-- A list has the values of a reading that pass a test, each of them once and in the order in
which they first appear there. -/
structure FirstSeen (reading : List α) (passes : α → Prop) (listed : List α) : Prop where
  mem_iff : ∀ value, value ∈ listed ↔ value ∈ reading ∧ passes value
  ordered : listed.Pairwise fun value next => reading.idxOf value < reading.idxOf next

theorem pairwise_idxOf_append {values listed : List α} (more : List α)
    (seen : ∀ value ∈ listed, value ∈ values)
    (ordered : listed.Pairwise fun value next => values.idxOf value < values.idxOf next) :
    listed.Pairwise fun value next =>
      (values ++ more).idxOf value < (values ++ more).idxOf next := by
  refine ordered.imp_of_mem ?_
  intro value next isValue isNext before
  rwa [List.idxOf_append_of_mem (seen value isValue), List.idxOf_append_of_mem (seen next isNext)]

theorem pairwise_idxOf_eraseDups (values : List α) :
    values.eraseDups.Pairwise fun value next => values.idxOf value < values.idxOf next := by
  -- The reading grows at its end, and what is read later moves no value that was seen before.
  induction values using List.reverseRecOn with
  | nil => simp
  | append_singleton values last inValues =>
    have earlier := pairwise_idxOf_append [last] (fun value => List.mem_eraseDups.1) inValues
    by_cases known : last ∈ values
    · rwa [eraseDups_append_of_subset (by simpa using known)]
    · have isNew : [last].removeAll values = [last] := by
        simpa [removeAll_eq_filter] using known
      rw [List.eraseDups_append, isNew, eraseDups_of_nodup (List.nodup_singleton last),
        List.pairwise_append]
      refine ⟨earlier, List.pairwise_singleton _ last, ?_⟩
      intro value member next isLast
      have isValue := List.mem_eraseDups.1 member
      have bound := List.idxOf_lt_length_of_mem isValue
      rw [List.mem_singleton.1 isLast, List.idxOf_append_of_notMem known,
        List.idxOf_append_of_mem isValue]
      omega

theorem firstSeen_filter_eraseDups (reading : List α) (passes : α → Bool) :
    FirstSeen reading (fun value => passes value = true) (reading.eraseDups.filter passes) where
  mem_iff value := by rw [List.mem_filter, List.mem_eraseDups]
  ordered := (pairwise_idxOf_eraseDups reading).filter passes

end VoiceGrammar.Distinct
