import VoiceGrammar.Proofs.Disk.Changes

/-!
# Ways through a file system

Following some segments and then some more is following all of them, and segments that lead nowhere
may be left out. A way that ends in a directory meets directories only, and so it leads to the same
address in every file system that has at least these directories.
-/

namespace VoiceGrammar

theorem Node.isDirectory_iff {node : Node} :
    node.isDirectory = true ↔ ∃ entries, node = .directory entries := by
  cases node <;> simp [isDirectory]

namespace Spot

theorem walk_append (spot : Spot) (first second : List String) :
    spot.walk (first ++ second) = (spot.walk first).bind (·.walk second) := by
  induction first generalizing spot with
  | nil => rfl
  | cons segment rest inRest =>
    rw [List.cons_append, walk, walk]
    split
    · rfl
    · split
      · exact inRest spot
      · split
        · exact inRest spot.parent
        · split
          · exact inRest _
          · rfl

theorem exists_of_walk_append {spot spot' : Spot} {first second : List String}
    (walked : spot.walk (first ++ second) = .ok spot') :
    ∃ middle, spot.walk first = .ok middle ∧ middle.walk second = .ok spot' := by
  rw [walk_append] at walked
  cases started : spot.walk first with
  | error refusal =>
    rw [started] at walked
    cases walked
  | ok middle =>
    rw [started] at walked
    exact ⟨middle, rfl, walked⟩

theorem walk_append_of_ok {spot middle : Spot} {first second : List String}
    (started : spot.walk first = .ok middle) :
    spot.walk (first ++ second) = middle.walk second := by
  rw [walk_append, started]
  rfl

theorem isDirectory_of_walk {spot spot' : Spot} {segments : List String}
    (walked : spot.walk segments = .ok spot') (isDirectory : spot'.node.isDirectory = true) :
    spot.node.isDirectory = true := by
  cases segments with
  | nil =>
    cases walked
    exact isDirectory
  | cons segment rest =>
    rw [walk] at walked
    cases found : spot.node with
    | directory entries => rfl
    | file bytes mode =>
      rw [found] at walked
      cases walked

theorem walk_filter {spot spot' : Spot} {segments : List String}
    (walked : spot.walk segments = .ok spot') :
    spot.walk (segments.filter Path.isStep) = .ok spot' := by
  induction segments generalizing spot with
  | nil => exact walked
  | cons segment rest inRest =>
    obtain ⟨node, above⟩ := spot
    rw [walk] at walked
    cases node with
    | file bytes mode => cases walked
    | directory entries =>
      by_cases step : Path.isStep segment = true
      · rw [List.filter_cons_of_pos step, walk]
        simp only [step, Bool.not_true, Bool.false_eq_true, if_false] at walked ⊢
        split at walked
        · next up =>
          rw [if_pos up]
          exact inRest walked
        · next notUp =>
          rw [if_neg notUp]
          split at walked
          · exact inRest walked
          · cases walked
      · simp only [step, Bool.not_false, if_true] at walked
        rw [List.filter_cons_of_neg step]
        exact inRest walked

@[simp]
theorem address_inside (node : Node) (name : String) (entries : Entries)
    (above : List (String × Entries)) :
    Spot.address ⟨node, (name, entries) :: above⟩ =
      Spot.address ⟨.directory entries, above⟩ ++ [name] := by
  simp [address]

theorem address_parent (spot : Spot) : spot.parent.address = spot.address.dropLast := by
  obtain ⟨node, above⟩ := spot
  cases above with
  | nil => rfl
  | cons entry above => rw [address_inside, List.dropLast_concat, parent]

end Spot

namespace FileSystem

namespace HasSpot

variable {fs fs' : FileSystem} {spot spot' : Spot}

theorem stat?_address (isSpot : HasSpot fs spot) : fs.stat? spot.address = some spot.node.stat := by
  rw [stat?, isSpot.node?_address]
  rfl

theorem isDirectory_iff (isSpot : HasSpot fs spot) :
    fs.stat? spot.address = some .directory ↔ spot.node.isDirectory = true := by
  rw [isSpot.stat?_address]
  cases spot.node with
  | directory entries => simp [Node.stat, Node.isDirectory]
  | file bytes mode => simp [Node.stat, Node.isDirectory]

/-- What a directory has under a name is what the file system has there. -/
theorem node?_child {entries : Entries} {above : List (String × Entries)}
    (isSpot : HasSpot fs ⟨.directory entries, above⟩) (name : String) :
    fs.node? (Spot.address ⟨.directory entries, above⟩ ++ [name]) = entries.lookup name := by
  have found := isSpot.node?_address
  rw [node?] at found ⊢
  rw [Entries.find?_append, found, Option.bind_some, Entries.below?, Entries.find?_cons]
  cases entries.lookup name <;> simp

theorem holds_child {entries : Entries} {above : List (String × Entries)}
    (isSpot : HasSpot fs ⟨.directory entries, above⟩) (name : String) :
    Entries.holds (Spot.address ⟨.directory entries, above⟩ ++ [name]) fs.entries = true := by
  have found := isSpot.node?_address
  rw [node?] at found
  simp [Entries.holds, found, Node.isDirectory]

end HasSpot

/-- A way to a directory stays a way to it in a file system with more directories. -/
theorem walk_of_grows {fs fs' : FileSystem} (grows : Grows fs fs') {segments : List String}
    {spot spot' goal : Spot} (isSpot : HasSpot fs spot) (isSpot' : HasSpot fs' spot')
    (same : spot'.address = spot.address) (walked : spot.walk segments = .ok goal)
    (isDirectory : goal.node.isDirectory = true) :
    ∃ goal', spot'.walk segments = .ok goal' ∧ goal'.address = goal.address := by
  induction segments generalizing spot spot' with
  | nil =>
    cases walked
    exact ⟨spot', rfl, same⟩
  | cons segment rest inRest =>
    -- Both places are directories, and a step that one of them allows the other allows too.
    have here := Spot.isDirectory_of_walk walked isDirectory
    have kept := grows.directory _ (isSpot.isDirectory_iff.2 here)
    rw [← same] at kept
    have here' := isSpot'.isDirectory_iff.1 kept
    obtain ⟨node, above⟩ := spot
    obtain ⟨node', above'⟩ := spot'
    obtain ⟨entries, rfl⟩ := Node.isDirectory_iff.1 here
    obtain ⟨entries', rfl⟩ := Node.isDirectory_iff.1 here'
    rw [Spot.walk] at walked ⊢
    by_cases step : Path.isStep segment = true
    · simp only [step, Bool.not_true, Bool.false_eq_true, if_false] at walked ⊢
      by_cases up : segment = ".."
      · rw [if_pos up] at walked ⊢
        exact inRest isSpot.parent isSpot'.parent
          (by rw [Spot.address_parent, Spot.address_parent, same]) walked
      · rw [if_neg up] at walked ⊢
        cases found : entries.lookup segment with
        | none =>
          rw [found] at walked
          cases walked
        | some node =>
          rw [found] at walked
          -- The next place is a directory of the first file system, hence of the second.
          have next := HasSpot.inside isSpot found
          have kept := grows.directory _
            (next.isDirectory_iff.2 (Spot.isDirectory_of_walk walked isDirectory))
          rw [Spot.address_inside, ← same, stat?, isSpot'.node?_child] at kept
          cases found' : entries'.lookup segment with
          | none =>
            rw [found'] at kept
            cases kept
          | some node' =>
            exact inRest next (.inside isSpot' found')
              (by rw [Spot.address_inside, Spot.address_inside, same]) walked
    · simp only [step, Bool.not_false, if_true] at walked ⊢
      exact inRest isSpot isSpot' same walked

/-! ## Paths from the top -/

def origin (fs : FileSystem) (path : String) : List String :=
  if Path.isAbsolute path then [] else fs.working

theorem start_eq (fs : FileSystem) (path : String) :
    fs.start path = fs.top.walk (fs.origin path) := by
  rw [start, origin]
  split <;> rfl

theorem follow_eq (fs : FileSystem) {path : String} (admitted : refusalOfPath? path = none)
    (segments : List String) :
    fs.follow path segments = fs.top.walk (fs.origin path ++ segments) := by
  rw [follow, admitted, start_eq, Spot.walk_append]
  cases fs.top.walk (fs.origin path) <;> rfl

theorem follow_eq_ok_iff {fs : FileSystem} {path : String} {segments : List String} {spot : Spot} :
    fs.follow path segments = .ok spot ↔
      refusalOfPath? path = none ∧ fs.top.walk (fs.origin path ++ segments) = .ok spot := by
  cases admitted : refusalOfPath? path with
  | none => simp [follow_eq fs admitted]
  | some refusal => simp [follow, admitted]

theorem hasSpot_of_walk_top {fs : FileSystem} {segments : List String} {spot : Spot}
    (walked : fs.top.walk segments = .ok spot) : HasSpot fs spot :=
  HasSpot.walk .top walked

theorem walk_top_of_grows {fs fs' : FileSystem} (grows : Grows fs fs') {segments : List String}
    {goal : Spot} (walked : fs.top.walk segments = .ok goal)
    (isDirectory : goal.node.isDirectory = true) :
    ∃ goal', fs'.top.walk segments = .ok goal' ∧ goal'.address = goal.address ∧
      goal'.node.isDirectory = true := by
  obtain ⟨goal', walked', same⟩ := walk_of_grows grows .top .top rfl walked isDirectory
  have kept := grows.directory _ ((hasSpot_of_walk_top walked).isDirectory_iff.2 isDirectory)
  rw [← same] at kept
  exact ⟨goal', walked', same, (hasSpot_of_walk_top walked').isDirectory_iff.1 kept⟩

end FileSystem

end VoiceGrammar
