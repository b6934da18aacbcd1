import VoiceGrammar.Expansion.BodyReading
import VoiceGrammar.Expansion.OfRule

/-!
# The grammar of rule bodies

Rule bodies as a grammar, apart from any way of reading them: a bar binds loosest, then
juxtaposition; a group stands between brackets, and its mark belongs to the closing one. The grammar
leaves open where a group ends, so that it is not plain that a text has one reading only. That it
has follows from the reader, which keeps its open groups on a stack: every reading in the grammar
is the one that the reader finds.
-/

namespace VoiceGrammar.Body

open Expansion (choose)

/-- What alternatives mean together, each of them a list of items in sequence. -/
def content (branches : List (List Expansion)) : Expansion :=
  choose (branches.map Expansion.sequence)

/-- The symbols read as these alternatives, each of them a list of items in sequence. -/
inductive Parses : List Symbol → List (List Expansion) → Prop where
  /-- An empty stretch is one alternative without items. -/
  | nil : Parses [] [[]]
  | word {text : String} {token : Token} {rest : List Symbol} {items : List Expansion}
      {branches : List (List Expansion)} :
      Token.ofText text = .ok token → Parses rest (items :: branches) →
      Parses (.word text :: rest) ((.phrase token :: items) :: branches)
  | bar {rest : List Symbol} {branches : List (List Expansion)} :
      Parses rest branches → Parses (.bar :: rest) ([] :: branches)
  | round (mark : Mark) {inner rest : List Symbol} {items : List Expansion}
      {branches branches' : List (List Expansion)} :
      Parses inner branches → Parses rest (items :: branches') →
      Parses (.openRound :: (inner ++ .closeRound mark :: rest))
        ((mark.apply (content branches) :: items) :: branches')
  | square {inner rest : List Symbol} {items : List Expansion}
      {branches branches' : List (List Expansion)} :
      Parses inner branches → Parses rest (items :: branches') →
      Parses (.openSquare :: (inner ++ .closeSquare :: rest))
        ((.optional (content branches) :: items) :: branches')

/-- The symbols are a rule body with this meaning. -/
def Reads (body : List Symbol) (reading : Expansion) : Prop :=
  ∃ branches, Parses body branches ∧ reading = content branches

theorem Parses.branches_ne_nil {body : List Symbol} {branches : List (List Expansion)}
    (parses : Parses body branches) : branches ≠ [] := by
  cases parses <;> exact List.cons_ne_nil _ _

/-- Two texts side by side: the last alternative of the first goes on in the second. -/
theorem Parses.append {body body' : List Symbol} {items items' : List Expansion}
    {branches : List (List Expansion)} (parses : Parses body [items])
    (parses' : Parses body' (items' :: branches)) :
    Parses (body ++ body') ((items ++ items') :: branches) := by
  generalize single : [items] = alternatives at parses
  -- The items of the first text are taken off one by one; a bar would make a second alternative.
  induction parses generalizing items with
  | nil =>
    cases single
    exact parses'
  | word isToken _ inRest =>
    cases single
    exact .word isToken (inRest rfl)
  | bar parses _ =>
    cases single
    exact absurd rfl parses.branches_ne_nil
  | round mark inner _ _ inRest =>
    cases single
    rw [List.cons_append, List.append_assoc]
    exact .round mark inner (inRest rfl)
  | square inner _ _ inRest =>
    cases single
    rw [List.cons_append, List.append_assoc]
    exact .square inner (inRest rfl)

theorem Parses.append_bar {body body' : List Symbol} {items : List Expansion}
    {branches : List (List Expansion)} (parses : Parses body [items])
    (parses' : Parses body' branches) :
    Parses (body ++ .bar :: body') (items :: branches) := by
  simpa using parses.append (.bar parses')

/-! ## Brackets -/

/-- The brackets that are open after the symbols, the innermost first; none if one is closed that
is not the innermost. -/
def openAfter : List Bracket → List Symbol → Option (List Bracket)
  | brackets, [] => some brackets
  | brackets, .word _ :: rest | brackets, .bar :: rest => openAfter brackets rest
  | brackets, .openRound :: rest => openAfter (.round :: brackets) rest
  | brackets, .openSquare :: rest => openAfter (.square :: brackets) rest
  | .round :: brackets, .closeRound _ :: rest => openAfter brackets rest
  | .square :: brackets, .closeSquare :: rest => openAfter brackets rest
  | _, .closeRound _ :: _ | _, .closeSquare :: _ => none

/-- Every bracket is closed, by one of its own kind. -/
def IsBalanced (body : List Symbol) : Prop :=
  openAfter [] body = some []

theorem Parses.openAfter_append {body : List Symbol} {branches : List (List Expansion)}
    (parses : Parses body branches) (brackets : List Bracket) (rest : List Symbol) :
    openAfter brackets (body ++ rest) = openAfter brackets rest := by
  induction parses generalizing brackets rest with
  | nil => rfl
  | word _ _ inRest => exact inRest brackets rest
  | bar _ inRest => exact inRest brackets rest
  | round mark _ _ inInner inRest =>
    rw [List.cons_append, List.append_assoc, openAfter, inInner, List.cons_append, openAfter,
      inRest]
  | square _ _ inInner inRest =>
    rw [List.cons_append, List.append_assoc, openAfter, inInner, List.cons_append, openAfter,
      inRest]

theorem Parses.isBalanced {body : List Symbol} {branches : List (List Expansion)}
    (parses : Parses body branches) : IsBalanced body := by
  rw [IsBalanced, ← List.append_nil body, parses.openAfter_append, openAfter]

/-! ## The reader -/

namespace Group

/-- The alternatives of a group, the open one included. -/
def branches (group : Group) : List Expansion :=
  (.sequence group.items.reverse :: group.alternatives).reverse

theorem choose_append_pair (parts : List Expansion) (first second : Expansion) :
    choose (parts ++ [first, second]) = .alternatives (parts ++ [first, second]) := by
  cases parts with
  | nil => rfl
  | cons part parts => cases parts <;> rfl

theorem content_eq_choose (group : Group) : group.content = choose group.branches := by
  obtain ⟨bracket, alternatives, items⟩ := group
  cases alternatives with
  | nil => rfl
  | cons last alternatives =>
    simp only [content, branches, List.reverse_cons, List.append_assoc, List.singleton_append,
      choose_append_pair]

/-- The group after it has read these alternatives. -/
def extend (group : Group) : List (List Expansion) → Group
  | [] => group
  | items :: more =>
    more.foldl (fun group items => items.foldl add group.bar) (items.foldl add group)

theorem foldl_add (items : List Expansion) (group : Group) :
    items.foldl add group = { group with items := items.reverse ++ group.items } := by
  induction items generalizing group with
  | nil => rfl
  | cons item items inItems => simp [inItems, add]

theorem branches_extend (group : Group) (items : List Expansion)
    (more : List (List Expansion)) :
    (group.extend (items :: more)).branches =
      group.alternatives.reverse ++
        .sequence (group.items.reverse ++ items) :: more.map .sequence := by
  -- A bar moves the items read so far to the alternatives, so both change from one to the next.
  induction more generalizing group items with
  | nil => simp [extend, foldl_add, branches]
  | cons next more inMore =>
    have later := inMore (items.foldl add group).bar next
    simpa [extend, foldl_add, bar] using later

theorem bracket_extend (group : Group) (branches : List (List Expansion)) :
    (group.extend branches).bracket = group.bracket := by
  cases branches with
  | nil => rfl
  | cons items more =>
    induction more generalizing group items with
    | nil => simp [extend, foldl_add]
    | cons next more inMore =>
      have later := inMore (items.foldl add group).bar next
      simpa [extend, foldl_add, bar] using later

theorem bracket_extend_start (bracket : Option Bracket) (branches : List (List Expansion)) :
    ((start bracket).extend branches).bracket = bracket :=
  bracket_extend (start bracket) branches

/-- A group that has read everything between its brackets holds what the alternatives mean. -/
theorem content_extend_start (bracket : Option Bracket) {branches : List (List Expansion)}
    (nonempty : branches ≠ []) :
    ((start bracket).extend branches).content = Body.content branches := by
  obtain ⟨items, more, rfl⟩ := List.exists_cons_of_ne_nil nonempty
  rw [content_eq_choose, branches_extend]
  rfl

end Group

/-- The reader takes a stretch that parses into the innermost open group and goes on behind it. -/
theorem Parses.readSymbols_append {body : List Symbol} {branches : List (List Expansion)}
    (parses : Parses body branches) (outer : List Group) (group : Group) (rest : List Symbol) :
    readSymbols outer group (body ++ rest) = readSymbols outer (group.extend branches) rest := by
  -- The stack is arbitrary, because the inside of brackets is read with one group more on it.
  induction parses generalizing outer group rest with
  | nil => rfl
  | word isToken _ inRest =>
    rw [List.cons_append, readSymbols, isToken]
    exact inRest outer (group.add _) rest
  | bar parses inRest =>
    obtain ⟨items, more, rfl⟩ := List.exists_cons_of_ne_nil parses.branches_ne_nil
    exact inRest outer group.bar rest
  | round mark inner _ inInner inRest =>
    rw [List.cons_append, List.append_assoc, readSymbols, inInner, List.cons_append, readSymbols,
      if_pos (Group.bracket_extend_start _ _), Group.content_extend_start _ inner.branches_ne_nil]
    exact inRest outer (group.add _) rest
  | square inner _ inInner inRest =>
    rw [List.cons_append, List.append_assoc, readSymbols, inInner, List.cons_append, readSymbols,
      if_pos (Group.bracket_extend_start _ _), Group.content_extend_start _ inner.branches_ne_nil]
    exact inRest outer (group.add _) rest

/-- How the reader can end with a reading: each open group, the innermost first, is read up to a
closing bracket of its kind, and the outermost one up to the end. -/
inductive Finishes : List Group → Group → List Symbol → Expansion → Prop where
  | last {group : Group} {body : List Symbol} {branches : List (List Expansion)} :
      Parses body branches → Finishes [] group body (group.extend branches).content
  | round {outer : List Group} {next group : Group} {mark : Mark} {inner rest : List Symbol}
      {branches : List (List Expansion)} {reading : Expansion} :
      Parses inner branches → group.bracket = some .round →
      Finishes outer (next.add (mark.apply (group.extend branches).content)) rest reading →
      Finishes (next :: outer) group (inner ++ .closeRound mark :: rest) reading
  | square {outer : List Group} {next group : Group} {inner rest : List Symbol}
      {branches : List (List Expansion)} {reading : Expansion} :
      Parses inner branches → group.bracket = some .square →
      Finishes outer (next.add (.optional (group.extend branches).content)) rest reading →
      Finishes (next :: outer) group (inner ++ .closeSquare :: rest) reading

/-- Symbols in front belong to the open group if the grammar takes them in the way that leads from
`group` to `group'`. -/
theorem Finishes.prepend {outer : List Group} {group group' : Group} {rest : List Symbol}
    {reading : Expansion} (front : List Symbol)
    (takes : ∀ {inner branches}, Parses inner branches →
      ∃ branches', Parses (front ++ inner) branches' ∧
        group.extend branches' = group'.extend branches)
    (finishes : Finishes outer group' rest reading) :
    Finishes outer group (front ++ rest) reading := by
  -- The symbols in front join the first stretch, and all behind its closing bracket stays.
  have bracket {branches branches'} (same : group.extend branches' = group'.extend branches) :
      group.bracket = group'.bracket := by
    rw [← Group.bracket_extend group branches', same, Group.bracket_extend]
  cases finishes with
  | last inner =>
    obtain ⟨branches', parses, same⟩ := takes inner
    exact same ▸ .last parses
  | round inner isRound later =>
    obtain ⟨branches', parses, same⟩ := takes inner
    rw [← List.append_assoc]
    exact .round parses (bracket same ▸ isRound) (same ▸ later)
  | square inner isSquare later =>
    obtain ⟨branches', parses, same⟩ := takes inner
    rw [← List.append_assoc]
    exact .square parses (bracket same ▸ isSquare) (same ▸ later)

/-- Symbols in front that parse as one more item. -/
theorem Finishes.add {outer : List Group} {group : Group} {item : Expansion}
    {rest : List Symbol} {reading : Expansion} (front : List Symbol)
    (parses : ∀ {inner items branches}, Parses inner (items :: branches) →
      Parses (front ++ inner) ((item :: items) :: branches))
    (finishes : Finishes outer (group.add item) rest reading) :
    Finishes outer group (front ++ rest) reading := by
  refine finishes.prepend front fun inner => ?_
  obtain ⟨items, more, rfl⟩ := List.exists_cons_of_ne_nil inner.branches_ne_nil
  exact ⟨_, parses inner, rfl⟩

theorem Finishes.bar {outer : List Group} {group : Group} {rest : List Symbol}
    {reading : Expansion} (finishes : Finishes outer group.bar rest reading) :
    Finishes outer group (.bar :: rest) reading := by
  refine finishes.prepend [.bar] fun inner => ?_
  obtain ⟨items, more, rfl⟩ := List.exists_cons_of_ne_nil inner.branches_ne_nil
  exact ⟨_, .bar inner, rfl⟩

/-- A group that is opened and closed again is one more item. -/
theorem Finishes.openRound {outer : List Group} {group : Group} {rest : List Symbol}
    {reading : Expansion}
    (finishes : Finishes (group :: outer) (.start (some .round)) rest reading) :
    Finishes outer group (.openRound :: rest) reading := by
  cases finishes with
  | @round _ _ _ mark inner rest branches _ parses _ later =>
    rw [Group.content_extend_start _ parses.branches_ne_nil] at later
    have added := later.add (.openRound :: (inner ++ [.closeRound mark])) fun further => by
      simpa using Parses.round mark parses further
    simpa using added
  | square _ isSquare _ => cases isSquare

theorem Finishes.openSquare {outer : List Group} {group : Group} {rest : List Symbol}
    {reading : Expansion}
    (finishes : Finishes (group :: outer) (.start (some .square)) rest reading) :
    Finishes outer group (.openSquare :: rest) reading := by
  cases finishes with
  | @square _ _ _ inner rest branches _ parses _ later =>
    rw [Group.content_extend_start _ parses.branches_ne_nil] at later
    have added := later.add (.openSquare :: (inner ++ [.closeSquare])) fun further => by
      simpa using Parses.square parses further
    simpa using added
  | round _ isRound _ => cases isRound

/-- What the reader returns was read in one of these ways. -/
theorem finishes_of_readSymbols {outer : List Group} {group : Group} {body : List Symbol}
    {reading : Expansion} (read : readSymbols outer group body = some reading) :
    Finishes outer group body reading := by
  -- Symbol by symbol: what the reader makes of the rest is known, and one symbol is put in front.
  induction body generalizing outer group with
  | nil =>
    cases outer with
    | nil =>
      have whole : Finishes [] group [] (group.extend [[]]).content := .last .nil
      obtain rfl : group.content = reading := by simpa [readSymbols] using read
      exact whole
    | cons next outer => simp [readSymbols] at read
  | cons symbol rest inRest =>
    cases symbol with
    | word text =>
      rw [readSymbols] at read
      split at read
      · next token isToken => exact .add [.word text] (.word isToken) (inRest read)
      · cases read
    | bar => exact (inRest read).bar
    | openRound => exact (inRest read).openRound
    | openSquare => exact (inRest read).openSquare
    | closeRound mark =>
      cases outer with
      | nil => cases read
      | cons next outer =>
        rw [readSymbols] at read
        split at read
        · next isRound => exact .round .nil isRound (inRest read)
        · cases read
    | closeSquare =>
      cases outer with
      | nil => cases read
      | cons next outer =>
        rw [readSymbols] at read
        split at read
        · next isSquare => exact .square .nil isSquare (inRest read)
        · cases read

/-- The reader finds the readings that the grammar allows, and no others. -/
theorem readSymbols_eq_some_iff {body : List Symbol} {reading : Expansion} :
    readSymbols [] (.start none) body = some reading ↔ Reads body reading := by
  constructor
  · intro read
    cases finishes_of_readSymbols read with
    | last parses => exact ⟨_, parses, Group.content_extend_start _ parses.branches_ne_nil⟩
  · rintro ⟨branches, parses, rfl⟩
    rw [← List.append_nil body, parses.readSymbols_append, readSymbols,
      Group.content_extend_start _ parses.branches_ne_nil]
    rfl

/-- No rule body has two readings. -/
theorem Reads.unique {body : List Symbol} {reading reading' : Expansion}
    (reads : Reads body reading) (reads' : Reads body reading') : reading = reading' := by
  rw [← readSymbols_eq_some_iff] at reads reads'
  exact Option.some.inj (reads.symm.trans reads')

end VoiceGrammar.Body
