import VoiceGrammar.Disk.FileSystem

/-!
# Looking into a changed file system

A change at one address shows at that address and below it, and nowhere else. What lies above the
address changes only in what it holds, which is why entries are compared by themselves. The change
takes effect only where a directory holds the address. A path that is followed leads to a place
whose address finds the node that was met there.
-/

namespace VoiceGrammar

namespace Entries

/-! ## One directory -/

theorem lookup_append (first second : Entries) (name : String) :
    (first ++ second).lookup name = (first.lookup name).or (second.lookup name) := by
  induction first with
  | nil => simp
  | cons entry rest inRest =>
    obtain ⟨key, node⟩ := entry
    by_cases same : name = key
    · subst same
      simp
    · have other : (name == key) = false := by simpa using same
      simp [List.lookup_cons, other, inRest]

theorem lookup_filter_ne (entries : Entries) (name other : String) :
    (entries.filter (·.1 ≠ name)).lookup other =
      if other = name then none else entries.lookup other := by
  induction entries with
  | nil => simp
  | cons entry rest inRest =>
    obtain ⟨key, node⟩ := entry
    by_cases removed : key = name
    · subst removed
      by_cases same : other = key
      · subst same
        simpa using inRest
      · have different : (other == key) = false := by simpa using same
        simpa [List.lookup_cons, different, same] using inRest
    · by_cases same : other = key
      · subst same
        simp [removed]
      · have different : (other == key) = false := by simpa using same
        simpa [List.lookup_cons, different, removed] using inRest

/-- A replaced name has its new node, and every other name the node it had. -/
theorem lookup_replace (entries : Entries) (name other : String) (node : Option Node) :
    (replace entries name node).lookup other =
      if other = name then node else entries.lookup other := by
  rw [replace, lookup_append, lookup_filter_ne]
  by_cases same : other = name
  · subst same
    cases node <;> simp
  · have different : (other == name) = false := by simpa using same
    cases node <;> simp [List.lookup_cons, different, same]

/-! ## Addresses -/

def below? (rest : List String) : Node → Option Node
  | .directory entries => find? rest entries
  | .file bytes mode => if rest.isEmpty then some (.file bytes mode) else none

theorem find?_cons (name : String) (rest : List String) (entries : Entries) :
    find? (name :: rest) entries = (entries.lookup name).bind (below? rest) := by
  rw [find?]
  cases entries.lookup name with
  | none => rfl
  | some node => cases node <;> rfl

@[simp]
theorem below?_nil (node : Node) : below? [] node = some node := by
  cases node <;> rfl

/-- Addresses are looked up name by name, so a longer one goes on from where a shorter one ends. -/
theorem find?_append (address rest : List String) (entries : Entries) :
    find? (address ++ rest) entries = (find? address entries).bind (below? rest) := by
  induction address generalizing entries with
  | nil => simp [find?, below?]
  | cons name address inAddress =>
    rw [List.cons_append, find?_cons, find?_cons]
    cases entries.lookup name with
    | none => rfl
    | some node =>
      cases node with
      | directory inner => simpa [below?] using inAddress inner
      | file bytes mode => cases address <;> cases rest <;> simp [below?]

/-- Whether some directory holds the address, that is, whether all names but the last one lead to
a directory. -/
def holds (address : List String) (entries : Entries) : Bool :=
  !address.isEmpty && (find? address.dropLast entries).any (·.isDirectory)

theorem holds_cons_cons {name next : String} {rest : List String} {entries : Entries}
    (h : holds (name :: next :: rest) entries = true) :
    ∃ inner, entries.lookup name = some (.directory inner) ∧ holds (next :: rest) inner = true := by
  simp only [holds, List.dropLast_cons_cons, find?_cons, List.isEmpty_cons, Bool.not_false,
    Bool.true_and] at h
  cases found : entries.lookup name with
  | none => simp [found] at h
  | some node =>
    cases node with
    | directory inner => exact ⟨inner, rfl, by simpa [found, below?, holds] using h⟩
    | file bytes mode =>
      simp only [found, Option.bind_some, below?] at h
      split at h <;> simp [Node.isDirectory] at h

/-- What is found after a change: the new node at its address and what is below it there, and
elsewhere the entry that was there. -/
theorem stat_find?_set (node : Option Node) {address : List String} {entries : Entries}
    (held : holds address entries = true) (other : List String) :
    (find? other (set node address entries)).map Node.stat =
      if address <+: other then
        (node.bind (below? (other.drop address.length))).map Node.stat
      else (find? other entries).map Node.stat := by
  induction address generalizing entries other with
  | nil => simp [holds] at held
  | cons name rest inRest =>
    cases other with
    | nil => simp [find?, Node.stat]
    | cons first others =>
      cases rest with
      | nil =>
        rw [set, find?_cons, find?_cons, lookup_replace]
        by_cases same : first = name
        · subst same
          simp
        · have different : ¬ name = first := fun equal => same equal.symm
          simp [same, different]
      | cons next rest =>
        obtain ⟨inner, found, heldInside⟩ := holds_cons_cons held
        rw [set, found, find?_cons, find?_cons, lookup_replace]
        · by_cases same : first = name
          · subst same
            simpa [found, below?] using inRest heldInside others
          · have different : ¬ name = first := fun equal => same equal.symm
            simp [same, different]
        · simp

end Entries

namespace FileSystem

/-- A change shows at its address and below, and nowhere else. -/
theorem stat?_set (fs : FileSystem) (node : Option Node) {address : List String}
    (held : Entries.holds address fs.entries = true) (other : List String) :
    (fs.set address node).stat? other =
      if address <+: other then
        (node.bind (Entries.below? (other.drop address.length))).map Node.stat
      else fs.stat? other :=
  Entries.stat_find?_set node held other

/-! ## Places -/

/-- The places of a file system: the top, and below a directory whatever it has under a name. -/
inductive HasSpot (fs : FileSystem) : Spot → Prop where
  | top : HasSpot fs fs.top
  | inside {entries : Entries} {above : List (String × Entries)} {name : String} {node : Node} :
      HasSpot fs ⟨.directory entries, above⟩ → entries.lookup name = some node →
      HasSpot fs ⟨node, (name, entries) :: above⟩

namespace HasSpot

theorem node?_address {fs : FileSystem} {spot : Spot} (h : HasSpot fs spot) :
    fs.node? spot.address = some spot.node := by
  induction h with
  | top => rfl
  | inside _ found inAbove =>
    simp only [node?, Spot.address, List.map_cons, List.reverse_cons] at inAbove ⊢
    rw [Entries.find?_append, inAbove, Option.bind_some, Entries.below?, Entries.find?_cons, found]
    exact Entries.below?_nil _

theorem parent {fs : FileSystem} {spot : Spot} (h : HasSpot fs spot) :
    HasSpot fs spot.parent := by
  cases h with
  | top => exact .top
  | inside above _ => exact above

theorem walk {fs : FileSystem} {spot spot' : Spot} (h : HasSpot fs spot) {segments : List String}
    (walked : spot.walk segments = .ok spot') : HasSpot fs spot' := by
  induction segments generalizing spot with
  | nil =>
    cases walked
    exact h
  | cons segment rest inRest =>
    obtain ⟨node, above⟩ := spot
    simp only [Spot.walk] at walked
    split at walked
    · cases walked
    · split at walked
      · exact inRest h walked
      · split at walked
        · exact inRest h.parent walked
        · split at walked
          · rename_i found
            exact inRest (.inside h found) walked
          · cases walked

end HasSpot

end FileSystem

end VoiceGrammar
