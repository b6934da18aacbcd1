import Mathlib.Data.List.DropRight
import VoiceGrammar.Proofs.Spec.Json.Strings

/-!
# Values are read as they are spelled

Every spelling of a value is read as that value, as long as its lists and mappings nest no deeper
than reading allows; a value that nests deeper is refused for its depth and for nothing else. Items
and entries are read by loops of one shape, which add what they find in the order of the text, so
nothing is merged, dropped or moved.
-/

namespace VoiceGrammar.Spec.Json

/-- What reading gives for something that nests `needed` deep: what was spelled, with nothing but
blanks read behind it, or a complaint about the depth. -/
def Reads {α : Type} (depth needed : Nat) (result : Reading α) (found : α) (rest : List Char) :
    Prop :=
  if needed ≤ depth then
    ∃ rest', skipSpace rest' = skipSpace rest ∧ result = .ok (found, rest')
  else ∃ left, result = .error ⟨.depth, left⟩

namespace Reads

variable {α β : Type} {depth needed needed' : Nat} {result : Reading α} {found : α}
  {rest rest' : List Char}

theorem of_eq (same : skipSpace rest' = skipSpace rest) (read : result = .ok (found, rest')) :
    Reads depth 0 result found rest := by
  rw [Reads, if_pos (Nat.zero_le depth)]
  exact ⟨rest', same, read⟩

theorem exists_of_le (reads : Reads depth needed result found rest) (fits : needed ≤ depth) :
    ∃ rest', skipSpace rest' = skipSpace rest ∧ result = .ok (found, rest') := by
  rw [Reads, if_pos fits] at reads
  exact reads

theorem exists_of_lt (reads : Reads depth needed result found rest) (deep : depth < needed) :
    ∃ left, result = .error ⟨.depth, left⟩ := by
  rw [Reads, if_neg (Nat.not_le.2 deep)] at reads
  exact reads

/-- It does not matter how many of the blanks behind it were read with it. -/
theorem upTo (reads : Reads depth needed result found rest)
    (same : skipSpace rest = skipSpace rest') : Reads depth needed result found rest' := by
  rw [Reads, same] at reads
  exact reads

/-- What is read in two steps nests as deep as the deeper of the two. -/
theorem andThen {next : α × List Char → Reading β} {found' : β}
    (reads : Reads depth needed result found rest)
    (readsNext : ∀ left, skipSpace left = skipSpace rest →
      Reads depth needed' (next (found, left)) found' rest') :
    Reads depth (max needed needed') (result.bind next) found' rest' := by
  by_cases fits : needed ≤ depth
  · obtain ⟨left, same, rfl⟩ := reads.exists_of_le fits
    have both : max needed needed' ≤ depth ↔ needed' ≤ depth :=
      Nat.max_le.trans (and_iff_right fits)
    change Reads depth (max needed needed') (next (found, left)) found' rest'
    have read := readsNext left same
    rw [Reads] at read ⊢
    simpa only [both] using read
  · obtain ⟨left, rfl⟩ := reads.exists_of_lt (Nat.lt_of_not_le fits)
    rw [Reads, if_neg fun both => fits (Nat.max_le.1 both).1]
    exact ⟨left, rfl⟩

theorem deeper (reads : Reads depth needed result found rest) :
    Reads (depth + 1) (1 + needed) result found rest := by
  have same : 1 + needed ≤ depth + 1 ↔ needed ≤ depth := by omega
  rw [Reads] at reads ⊢
  simpa only [same] using reads

theorem tooDeep (left : Nat) (found : α) (rest : List Char) :
    Reads 0 (1 + needed) (.error ⟨.depth, left⟩) found rest := by
  rw [Reads, if_neg (by omega)]
  exact ⟨left, rfl⟩

end Reads

/-! ## Blanks -/

theorem skipSpace_append {blanks : List Char} (space : IsSpace blanks) (text : List Char) :
    skipSpace (blanks ++ text) = skipSpace text :=
  List.dropWhile_append_of_pos space

theorem skipSpace_skipSpace (text : List Char) : skipSpace (skipSpace text) = skipSpace text := by
  rw [skipSpace, skipSpace, List.dropWhile_idempotent]

theorem skipSpace_cons {c : Char} (visible : isSpace c = false) (rest : List Char) :
    skipSpace (c :: rest) = c :: rest := by
  rw [skipSpace, List.dropWhile_cons_of_neg (by simp [visible])]

theorem value_of_skipSpace {bound depth : Nat} {text text' : List Char}
    (same : skipSpace text = skipSpace text') :
    value bound depth text = value bound depth text' := by
  rw [value.eq_def, value.eq_def bound depth text', same]

theorem value_skipSpace {bound depth : Nat} {text : List Char} :
    value bound depth (skipSpace text) = value bound depth text :=
  value_of_skipSpace (skipSpace_skipSpace text)

/-! ## The loop over items and the loop over entries -/

/-- Behind its blanks the text starts with something else than the closing bracket. -/
def Opens (close : Char) (text : List Char) : Prop :=
  ∃ c rest, skipSpace text = c :: rest ∧ c ≠ close

section Loop

variable {α : Type}

/-- Reads a part and, by the loop, the parts behind it. -/
def readOn (read : List Char → Reading α) (loop : Nat → List α → List Char → Reading Value)
    (bound : Nat) (done : List α) (text : List Char) : Reading Value :=
  (read (skipSpace text)).bind fun (part, rest) => loop bound (part :: done) rest

/-- A loop over what stands between two brackets, with a comma between two parts. -/
structure IsLoop (read : List Char → Reading α) (close : Char) (make : List α → Value)
    (loop : Nat → List α → List Char → Reading Value) : Prop where
  ends {bound : Nat} {done : List α} {text rest : List Char} :
    skipSpace text = close :: rest → loop (bound + 1) done text = .ok (make done.reverse, rest)
  begins {bound : Nat} {text : List Char} :
    Opens close text → loop (bound + 1) [] text = readOn read loop bound [] text
  goesOn {bound : Nat} {last : α} {done : List α} {text others : List Char} :
    skipSpace text = ',' :: others → Opens close others →
    loop (bound + 1) (last :: done) text = readOn read loop bound (last :: done) others

theorem isLoop_items (read : List Char → Reading Value) :
    IsLoop read ']' .list (items read) where
  ends closed := by
    rw [items, closed]
    rfl
  begins := by
    rintro bound text ⟨c, rest, starts, more⟩
    rw [items, readOn, starts]
    split
    · next none => cases none
    · next closed => exact absurd (List.cons.inj closed).1 more
    · next c rest _ parts =>
      cases parts
      rw [if_pos List.isEmpty_nil]
      cases read _ <;> rfl
  goesOn := by
    rintro bound last done text others starts ⟨c, rest, again, more⟩
    rw [items, readOn, starts]
    split
    · next none => cases none
    · next closed => cases closed
    · next c others _ parts =>
      cases parts
      rw [if_neg (by simp), if_pos rfl, again]
      split
      · next none => cases none
      · next closed => exact absurd (List.cons.inj closed).1 more
      · cases read _ <;> rfl

theorem isLoop_entries (read : List Char → Reading Value) :
    IsLoop (entry read) '\x7d' .mapping (entries read) where
  ends closed := by
    rw [entries, closed]
    rfl
  begins := by
    rintro bound text ⟨c, rest, starts, more⟩
    rw [entries, readOn, starts]
    split
    · next none => cases none
    · next closed => exact absurd (List.cons.inj closed).1 more
    · next c rest _ parts =>
      cases parts
      rw [if_pos List.isEmpty_nil]
      cases entry read _ <;> rfl
  goesOn := by
    rintro bound last done text others starts ⟨c, rest, again, more⟩
    rw [entries, readOn, starts]
    split
    · next none => cases none
    · next closed => cases closed
    · next c others _ parts =>
      cases parts
      rw [if_neg (by simp), if_pos rfl, again]
      split
      · next none => cases none
      · next closed => exact absurd (List.cons.inj closed).1 more
      · cases entry read _ <;> rfl

namespace IsLoop

variable {read : List Char → Reading α} {close : Char} {make : List α → Value}
  {loop : Nat → List α → List Char → Reading Value} {depth needed needed' : Nat}
  {part : α} {text rest : List Char}

/-- Nothing but blanks stands between the brackets. -/
theorem empty (isLoop : IsLoop read close make loop) (visible : isSpace close = false)
    {inner : List Char} (space : IsSpace inner) (bound : Nat) :
    Reads depth 0 (loop (bound + 1) [] (inner ++ close :: rest)) (make []) rest := by
  have closed : skipSpace (inner ++ close :: rest) = close :: rest := by
    rw [skipSpace_append space, skipSpace_cons visible]
  exact .of_eq rfl (isLoop.ends closed)

/-- The last part is followed by the closing bracket. -/
theorem last (isLoop : IsLoop read close make loop) (visible : isSpace close = false)
    (reads : Reads depth needed (read (skipSpace text)) part (close :: rest)) (bound : Nat)
    (done : List α) :
    Reads depth needed (readOn read loop (bound + 1) done text) (make (done.reverse ++ [part]))
      rest := by
  rw [← Nat.max_zero needed]
  refine reads.andThen fun left same => ?_
  rw [skipSpace_cons visible] at same
  refine .of_eq rfl ?_
  change loop (bound + 1) (part :: done) left = _
  rw [isLoop.ends same, List.reverse_cons]

/-- A part that is not the last one is followed by a comma and the others. -/
theorem cons (isLoop : IsLoop read close make loop) {others : List Char} {parts : List α}
    {bound : Nat} {done : List α}
    (reads : Reads depth needed (read (skipSpace text)) part (',' :: others))
    (opens : Opens close others)
    (readsOthers : Reads depth needed' (readOn read loop bound (part :: done) others)
      (make ((part :: done).reverse ++ parts)) rest) :
    Reads depth (max needed needed') (readOn read loop (bound + 1) done text)
      (make (done.reverse ++ part :: parts)) rest := by
  refine reads.andThen fun left same => ?_
  rw [skipSpace_cons (by decide)] at same
  rw [List.reverse_cons, List.append_assoc, List.singleton_append] at readsOthers
  change Reads depth needed' (loop (bound + 1) (part :: done) left) _ rest
  rw [isLoop.goesOn same opens]
  exact readsOthers

end IsLoop

end Loop

/-! ## Values -/

theorem nameRest_append (shown : Value) (letters rest : List Char) :
    nameRest shown letters (letters ++ rest) = .ok (shown, rest) := by
  induction letters with
  | nil => rfl
  | cons letter letters inRest => rw [List.cons_append, nameRest, if_pos rfl, inRest]

section Value

variable {bound depth needed : Nat} {before inner after rest : List Char} {found : Value}

theorem reads_behind {text : List Char} (space : IsSpace before)
    (reads : Reads depth needed (value bound depth text) found rest) :
    Reads depth needed (value bound depth (before ++ text)) found rest := by
  rw [value_of_skipSpace (skipSpace_append space text)]
  exact reads

theorem reads_name {letter : Char} {letters : List Char}
    (named : ∀ text, value bound depth (letter :: text) = nameRest found letters text)
    (space : IsSpace before) (space' : IsSpace after) (rest : List Char) :
    Reads depth 0 (value bound depth (before ++ letter :: letters ++ after ++ rest)) found
      rest := by
  rw [List.append_assoc, List.append_assoc]
  refine reads_behind space (.of_eq (skipSpace_append space' rest) ?_)
  rw [List.cons_append, named, nameRest_append]

theorem reads_text {content : String} {spelled : List Char} (space : IsSpace before)
    (space' : IsSpace after) (spelling : StringSpelling content spelled) (rest : List Char) :
    Reads depth 0 (value bound depth (before ++ spelled ++ after ++ rest)) (.text content)
      rest := by
  obtain ⟨inner, chars, rfl⟩ := spelling
  rw [List.append_assoc, List.append_assoc, List.append_assoc, List.cons_append]
  refine reads_behind space (.of_eq (skipSpace_append space' rest) ?_)
  rw [value.eq_def, skipSpace_cons (by decide)]
  change (string (inner ++ '"' :: (after ++ rest))).map _ = _
  rw [string_append chars]
  rfl

theorem value_list (depth : Nat) (text : List Char) : value bound depth ('[' :: text) =
    match depth with
    | 0 => .error (.at .depth ('[' :: text))
    | depth + 1 => items (value bound depth) bound [] text := by
  rw [value.eq_def, skipSpace_cons (by decide)]
  rfl

theorem value_mapping (depth : Nat) (text : List Char) : value bound depth ('\x7b' :: text) =
    match depth with
    | 0 => .error (.at .depth ('\x7b' :: text))
    | depth + 1 => entries (value bound depth) bound [] text := by
  rw [value.eq_def, skipSpace_cons (by decide)]
  rfl

/-- A list or mapping nests one level deeper than what stands between its brackets. -/
theorem reads_bracketed {α : Type} {opening closing : Char}
    {loop : (List Char → Reading Value) → Nat → List α → List Char → Reading Value}
    (opened : ∀ depth text, value bound depth (opening :: text) =
      match depth with
      | 0 => .error (.at .depth (opening :: text))
      | depth + 1 => loop (value bound depth) bound [] text)
    (space : IsSpace before) (space' : IsSpace after)
    (reads : ∀ depth, Reads depth needed
      (loop (value bound depth) bound [] (inner ++ closing :: (after ++ rest))) found
      (after ++ rest)) (depth : Nat) :
    Reads depth (1 + needed)
      (value bound depth (before ++ opening :: inner ++ closing :: after ++ rest)) found rest := by
  simp only [List.append_assoc, List.cons_append]
  refine reads_behind space (.upTo ?_ (skipSpace_append space' rest))
  rw [opened]
  cases depth with
  | zero => exact .tooDeep _ found _
  | succ depth => exact (reads depth).deeper

/-- An entry nests as deep as its value. -/
theorem reads_entry {read : List Char → Reading Value} {key : String}
    {spelled text : List Char} (space : IsSpace before) (space' : IsSpace after)
    (spelling : StringSpelling key spelled) (reads : Reads depth needed (read text) found rest) :
    Reads depth needed (entry read (skipSpace (before ++ spelled ++ after ++ ':' :: text)))
      (key, found) rest := by
  obtain ⟨inner, chars, rfl⟩ := spelling
  have parts : before ++ ('"' :: inner ++ ['"']) ++ after ++ ':' :: text =
      before ++ '"' :: (inner ++ '"' :: (after ++ ':' :: text)) := by
    simp only [List.append_assoc, List.cons_append, List.nil_append]
  have keyRead : entry read ('"' :: (inner ++ '"' :: (after ++ ':' :: text))) =
      (read text).bind fun (value, left) => .ok ((key, value), left) := by
    have colon : skipSpace (':' :: text) = ':' :: text := skipSpace_cons (by decide) text
    simp only [entry, string_append chars, skipSpace_append space', colon]
    cases read text <;> rfl
  rw [parts, skipSpace_append space, skipSpace_cons (by decide), keyRead, ← Nat.max_zero needed]
  exact reads.andThen fun left same => .of_eq same rfl

end Value

/-! ## What a spelling starts with -/

theorem opens_behind {before rest : List Char} {c close : Char} (space : IsSpace before)
    (visible : isSpace c = false) (other : c ≠ close) : Opens close (before ++ c :: rest) :=
  ⟨c, rest, by rw [skipSpace_append space, skipSpace_cons visible], other⟩

/-- No value starts with a closing bracket. -/
theorem opens_value {found : Value} {spelled : List Char} (spelling : ValueSpelling found spelled)
    (rest : List Char) : Opens ']' (spelled ++ rest) := by
  cases spelling with
  | text space _ chars =>
    obtain ⟨inner, _, rfl⟩ := chars
    simp only [List.append_assoc, List.cons_append]
    exact opens_behind space (by decide) (by decide)
  | _ space =>
    simp only [List.append_assoc, List.cons_append]
    exact opens_behind space (by decide) (by decide)

theorem opens_items {found : List Value} {spelled : List Char}
    (spelling : ItemsSpelling found spelled) (rest : List Char) : Opens ']' (spelled ++ rest) := by
  cases spelling with
  | last first => exact opens_value first rest
  | cons first _ =>
    rw [List.append_assoc]
    exact opens_value first _

/-- No entry starts with a closing brace. -/
theorem opens_entries {found : List (String × Value)} {spelled : List Char}
    (spelling : EntriesSpelling found spelled) (rest : List Char) :
    Opens '\x7d' (spelled ++ rest) := by
  cases spelling with
  | last space _ key _ | cons space _ key _ _ =>
    obtain ⟨inner, _, rfl⟩ := key
    simp only [List.append_assoc, List.cons_append]
    exact opens_behind space (by decide) (by decide)

/-! ## Reading a spelling -/

theorem exists_succ_of_lt {n bound : Nat} (short : n < bound) : ∃ others, bound = others + 1 :=
  ⟨bound - 1, by omega⟩

theorem length_inner_lt {before inner after : List Char} {opening closing : Char} {bound : Nat}
    (short : (before ++ opening :: inner ++ closing :: after).length < bound + 1) :
    inner.length < bound := by
  simp only [List.length_append, List.length_cons] at short
  omega

mutual

/-- A value is read up to the blanks behind it. -/
theorem reads_value {found : Value} {spelled : List Char} (spelling : ValueSpelling found spelled)
    {bound : Nat} (short : spelled.length < bound) (depth : Nat) (rest : List Char) :
    Reads depth found.depth (value bound depth (spelled ++ rest)) found rest := by
  cases spelling with
  | null space space' | true space space' | false space space' =>
    refine reads_name (fun text => ?_) space space' rest
    rw [value.eq_def, skipSpace_cons (by decide)]
    rfl
  | text space space' chars => exact reads_text space space' chars rest
  | emptyList space inner space' =>
    obtain ⟨bound, rfl⟩ := exists_succ_of_lt short
    exact reads_bracketed value_list space space'
      (fun depth => (isLoop_items (value (bound + 1) depth)).empty (by decide) inner bound) depth
  | emptyMapping space inner space' =>
    obtain ⟨bound, rfl⟩ := exists_succ_of_lt short
    exact reads_bracketed value_mapping space space'
      (fun depth => (isLoop_entries (value (bound + 1) depth)).empty (by decide) inner bound) depth
  | @list items before inner after space space' spelling =>
    obtain ⟨bound, rfl⟩ := exists_succ_of_lt short
    -- Every round takes a character at least, so the rounds last up to the closing bracket.
    have fewer := length_inner_lt short
    refine reads_bracketed value_list space space' (fun depth => ?_) depth
    rw [(isLoop_items _).begins (opens_items spelling _)]
    exact reads_items spelling (Nat.lt_succ_of_lt fewer) fewer depth [] (after ++ rest)
  | @mapping entries before inner after space space' spelling =>
    obtain ⟨bound, rfl⟩ := exists_succ_of_lt short
    have fewer := length_inner_lt short
    refine reads_bracketed value_mapping space space' (fun depth => ?_) depth
    rw [(isLoop_entries _).begins (opens_entries spelling _)]
    exact reads_entries spelling (Nat.lt_succ_of_lt fewer) fewer depth [] (after ++ rest)

/-- The items of a list are read on up to its closing bracket. -/
theorem reads_items {found : List Value} {spelled : List Char}
    (spelling : ItemsSpelling found spelled) {bound more : Nat} (short : spelled.length < bound)
    (fewer : spelled.length < more) (depth : Nat) (done : List Value) (rest : List Char) :
    Reads depth (Value.depthOfItems found)
      (readOn (value bound depth) (items (value bound depth)) more done (spelled ++ ']' :: rest))
      (.list (done.reverse ++ found)) rest := by
  obtain ⟨more, rfl⟩ := exists_succ_of_lt fewer
  cases spelling with
  | @last item _ first =>
    have read := reads_value first short depth (']' :: rest)
    rw [← value_skipSpace] at read
    rw [Value.depthOfItems, Value.depthOfItems, Nat.max_zero]
    exact (isLoop_items _).last (by decide) read more done
  | @cons item others spelled spelled' first spelling =>
    rw [List.length_append, List.length_cons] at short fewer
    have shortFirst : spelled.length < bound := by omega
    have shortOthers : spelled'.length < bound := by omega
    have fewerOthers : spelled'.length < more := by omega
    have read := reads_value first shortFirst depth (',' :: (spelled' ++ ']' :: rest))
    rw [← value_skipSpace] at read
    have readOthers := reads_items spelling shortOthers fewerOthers depth (item :: done) rest
    rw [List.append_assoc, List.cons_append, Value.depthOfItems]
    exact (isLoop_items _).cons read (opens_items spelling _) readOthers

/-- The entries of a mapping are read on up to its closing brace. -/
theorem reads_entries {found : List (String × Value)} {spelled : List Char}
    (spelling : EntriesSpelling found spelled) {bound more : Nat} (short : spelled.length < bound)
    (fewer : spelled.length < more) (depth : Nat) (done : List (String × Value))
    (rest : List Char) :
    Reads depth (Value.depthOfEntries found)
      (readOn (entry (value bound depth)) (entries (value bound depth)) more done
        (spelled ++ '\x7d' :: rest))
      (.mapping (done.reverse ++ found)) rest := by
  obtain ⟨more, rfl⟩ := exists_succ_of_lt fewer
  cases spelling with
  | @last key found before spelled after spelled' space space' isKey first =>
    simp only [List.length_append, List.length_cons] at short
    have shortFirst : spelled'.length < bound := by omega
    have read := reads_entry space space' isKey
      (reads_value first shortFirst depth ('\x7d' :: rest))
    rw [Value.depthOfEntries, Value.depthOfEntries, Nat.max_zero, List.append_assoc _ (':' :: _),
      List.cons_append]
    exact (isLoop_entries _).last (by decide) read more done
  | @cons key found entries before spelled after spelled' others space space' isKey first
      spelling =>
    simp only [List.length_append, List.length_cons] at short fewer
    have shortFirst : spelled'.length < bound := by omega
    have shortOthers : others.length < bound := by omega
    have fewerOthers : others.length < more := by omega
    have read := reads_entry space space' isKey
      (reads_value first shortFirst depth (',' :: (others ++ '\x7d' :: rest)))
    have readOthers := reads_entries spelling shortOthers fewerOthers depth
      ((key, found) :: done) rest
    rw [List.append_assoc, List.append_assoc _ (':' :: _), List.cons_append, List.cons_append,
      Value.depthOfEntries]
    exact (isLoop_entries _).cons read (opens_entries spelling _) readOthers

end

/-! ## Whole texts -/

theorem reads_whole {found : Value} {text : List Char} (spelling : ValueSpelling found text) :
    Reads maxDepth found.depth (value (text.length + 1) maxDepth text) found [] := by
  have reads := reads_value spelling (Nat.lt_succ_self text.length) maxDepth []
  rw [List.append_nil] at reads
  exact reads

end VoiceGrammar.Spec.Json

namespace VoiceGrammar.Spec.Value

variable {value : Value} {text : String}

theorem ofJson_eq_ok (spelling : Json.ValueSpelling value text.toList)
    (nested : value.depth ≤ 127) : Value.ofJson text = .ok value := by
  obtain ⟨rest, same, read⟩ := (Json.reads_whole spelling).exists_of_le nested
  have atEnd : Json.skipSpace rest = [] := same
  simp only [Value.ofJson, Json.document, read, atEnd]

theorem ofJson_eq_error (spelling : Json.ValueSpelling value text.toList)
    (deep : 127 < value.depth) :
    ∃ fault, Value.ofJson text = .error fault ∧ fault.flaw = .depth := by
  obtain ⟨left, stopped⟩ := (Json.reads_whole spelling).exists_of_lt deep
  rw [Value.ofJson, Json.document, stopped]
  exact ⟨_, rfl, rfl⟩

/-- Every spelling of a value is read as that value, with all its items and entries in their order
and equal keys kept, if no more than 127 lists and mappings nest in it. A value that nests deeper
is refused for its depth, whatever its spelling. -/
theorem ofJson_spelling (spelling : Json.ValueSpelling value text.toList) :
    (value.depth ≤ 127 → Value.ofJson text = .ok value) ∧
      (127 < value.depth → ∃ fault, Value.ofJson text = .error fault ∧ fault.flaw = .depth) :=
  ⟨ofJson_eq_ok spelling, ofJson_eq_error spelling⟩

/-- One key twice, a blank, a letter as an escape and a character as a pair of surrogates. -/
theorem ofJson_spelling_repeated_key :
    Value.ofJson "\x7b\"a\":[ true],\n\"\\u0061\":\"\\ud83d\\uDE00\"\x7d" =
      .ok (.mapping [("a", .list [.scalar "true"]), ("a", .text "😀")]) := by
  have plain : Json.CharSpelling 'a' "a".toList := .itself (by decide) (by decide) (by decide)
  have escaped : Json.CharSpelling 'a' "\\u0061".toList :=
    .codePoint (@Json.HexQuad.digits '0' '0' '6' '1' 0 0 6 1 rfl rfl rfl rfl)
  have paired : Json.CharSpelling '😀' "\\ud83d\\uDE00".toList :=
    @Json.CharSpelling.pair '😀' 0xD83D 0xDE00 _ _ rfl rfl rfl
      (@Json.HexQuad.digits 'd' '8' '3' 'd' 13 8 3 13 rfl rfl rfl rfl)
      (@Json.HexQuad.digits 'D' 'E' '0' '0' 13 14 0 0 rfl rfl rfl rfl)
  have key : Json.StringSpelling "a" "\"a\"".toList := ⟨"a".toList, .cons plain .nil, rfl⟩
  have key' : Json.StringSpelling "a" "\"\\u0061\"".toList :=
    ⟨"\\u0061".toList, .cons escaped .nil, rfl⟩
  have face : Json.StringSpelling "😀" "\"\\ud83d\\uDE00\"".toList :=
    ⟨"\\ud83d\\uDE00".toList, .cons paired .nil, rfl⟩
  have first : Json.ValueSpelling (.list [.scalar "true"]) "[ true]".toList :=
    @Json.ValueSpelling.list _ [] " true".toList [] Json.isSpace_nil Json.isSpace_nil
      (.last (@Json.ValueSpelling.true [' '] [] (by decide) Json.isSpace_nil))
  have second : Json.ValueSpelling (.text "😀") "\"\\ud83d\\uDE00\"".toList :=
    @Json.ValueSpelling.text _ [] _ [] Json.isSpace_nil Json.isSpace_nil face
  have entries := @Json.EntriesSpelling.cons "a" _ _ [] _ [] _ _ Json.isSpace_nil Json.isSpace_nil
    key first
    (@Json.EntriesSpelling.last "a" _ ['\n'] _ [] _ (by decide) Json.isSpace_nil key' second)
  exact (ofJson_spelling (@Json.ValueSpelling.mapping _ [] _ [] Json.isSpace_nil Json.isSpace_nil
    entries)).1 (by decide)

end VoiceGrammar.Spec.Value
