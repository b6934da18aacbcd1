/-!
# Pieces

A text that is cut at a mark, or wherever a test holds, falls into pieces. They are made of the
characters that are left, and a character in front of a text either opens a new piece or joins the
first one.
-/

namespace VoiceGrammar.Text

variable {p : Char → Bool} {mark c : Char} {text piece : List Char}

theorem splitOn_cons_mark (rest : List Char) :
    (mark :: rest).splitOn mark = [] :: rest.splitOn mark :=
  List.splitOn_append_cons_self_of_not_mem List.not_mem_nil rest

theorem splitOn_cons_of_ne (different : c ≠ mark) (rest : List Char) :
    (c :: rest).splitOn mark = (rest.splitOn mark).modifyHead (c :: ·) := by
  rw [List.splitOn_cons_eq_if_modifyHead, if_neg (by simpa using different)]

/-- Only the first piece gets the character, and the others are pieces of the rest. -/
theorem mem_splitOn_cons_of_ne (different : c ≠ mark) {rest : List Char}
    (isPiece : piece ∈ (c :: rest).splitOn mark) :
    (∃ first, piece = c :: first) ∨ piece ∈ (rest.splitOn mark).tail := by
  obtain ⟨first, more, pieces⟩ := List.exists_cons_of_ne_nil (List.splitOn_ne_nil mark rest)
  rw [splitOn_cons_of_ne different, pieces, List.modifyHead_cons, List.mem_cons] at isPiece
  rw [pieces, List.tail_cons]
  exact isPiece.imp_left fun isFirst => ⟨first, isFirst⟩

/-- What a piece holds is in the text, and nothing of it is where the text is cut. -/
theorem of_mem_splitOnP (isPiece : piece ∈ text.splitOnP p) :
    ∀ c ∈ piece, c ∈ text ∧ p c = false := by
  induction text generalizing piece with
  | nil =>
    obtain rfl : piece = [] := by simpa using isPiece
    simp
  | cons d rest inRest =>
    obtain ⟨first, more, pieces⟩ := List.exists_cons_of_ne_nil (List.splitOnP_ne_nil p rest)
    have inLater : ∀ piece ∈ rest.splitOnP p, ∀ c ∈ piece, c ∈ d :: rest ∧ p c = false :=
      fun piece later c member => (inRest later c member).imp_left (List.mem_cons_of_mem d)
    rw [pieces] at inLater
    rw [List.splitOnP_cons_eq_if_modifyHead, pieces] at isPiece
    split at isPiece
    · rcases List.mem_cons.1 isPiece with rfl | later
      · simp
      · exact inLater piece later
    · -- The first piece grows by a character that is no place to cut at.
      next kept =>
      rcases List.mem_cons.1 isPiece with rfl | later
      · exact List.forall_mem_cons.2
          ⟨⟨List.mem_cons_self, by simpa using kept⟩, inLater first List.mem_cons_self⟩
      · exact inLater piece (List.mem_cons_of_mem first later)

theorem of_mem_splitOn (isPiece : piece ∈ text.splitOn mark) (member : c ∈ piece) :
    c ∈ text ∧ c ≠ mark := by
  rw [List.splitOn_eq_splitOnP] at isPiece
  have inPiece := of_mem_splitOnP isPiece c member
  exact ⟨inPiece.1, by simpa using inPiece.2⟩

end VoiceGrammar.Text
