import NodeKit.Proofs.Disk.Plain

/-!
# Where a path leads on a plain disk

Without links a path is followed one step after the other, and all that matters on
the way is which locations are folders. `trail` is that walk. From it follow the
two facts that a run over a folder rests on: a path below a folder leads to the
location below it, and it still does when files have been overwritten.
-/
namespace NodeKit.Disk

/-- The location that the steps lead to, when these are the kinds of node on the disk. -/
def trail (kinds : Location → Option Node.Kind) :
    Location → List Path.Step → Except PathFault Location
  | here, [] => if kinds here = none then .error .notFound else .ok here
  | here, step :: rest =>
    match kinds here with
    | some .folder =>
      match step with
      | .here => trail kinds here rest
      | .up => trail kinds here.dropLast rest
      | .into name => trail kinds (here ++ [name]) rest
    | some _ => .error .notADirectory
    | none => .error .notFound

/-- A location with what is there. -/
def find (disk : Disk) (location : Location) : Except PathFault (Location × Node) :=
  match disk.top.at? location with
  | some node => .ok (location, node)
  | none => .error .notFound

variable {disk : Disk} {path name : Text} {location : Location} {node : Node}

lemma find_eq_ok {found : Location × Node} :
    disk.find location = .ok found ↔ found.1 = location ∧ disk.top.at? location = some found.2 := by
  unfold find
  cases disk.top.at? location with
  | none => simp
  | some node =>
    simp only [Except.ok.injEq, Option.some.injEq, Prod.ext_iff]
    exact ⟨fun h => ⟨h.1.symm, h.2⟩, fun h => ⟨h.1.symm, h.2⟩⟩

lemma trail_of_none {kinds : Location → Option Node.Kind} {here : Location}
    (h : kinds here = none) (steps : List Path.Step) :
    trail kinds here steps = .error .notFound := by
  cases steps <;> simp [trail, h]

lemma trail_append (kinds : Location → Option Node.Kind) (here : Location)
    (steps further : List Path.Step) :
    trail kinds here (steps ++ further) =
      (trail kinds here steps).bind (trail kinds · further) := by
  induction steps generalizing here with
  | nil =>
    by_cases hhere : kinds here = none
    · simp [trail, trail_of_none hhere, Except.bind, hhere]
    · simp [trail, Except.bind, hhere]
  | cons step steps ih =>
    cases hhere : kinds here with
    | none => simp [trail_of_none hhere, Except.bind]
    | some kind =>
      cases kind <;> cases step <;> simp [trail, hhere, ih, Except.bind]

/-- The walk of the disk itself finds the end of the trail. -/
lemma walkSteps_eq_trail (hplain : disk.top.Plain) (followLast : Bool) (here : Location)
    (steps : List Path.Step) :
    disk.walkSteps followLast here steps =
      ((trail disk.kindAt? here steps).bind disk.find).map fun found =>
        .arrived found.1 found.2 := by
  induction steps generalizing here with
  | nil =>
    cases hnode : disk.top.at? here <;>
      simp [walkSteps, trail, kindAt?, find, hnode, Except.bind, Except.map]
  | cons step rest ih =>
    cases hnode : disk.top.at? here with
    | none => simp [walkSteps, trail, kindAt?, hnode, Except.bind, Except.map]
    | some node =>
      cases node with
      | file content =>
        simp [walkSteps, trail, kindAt?, hnode, Node.kind, Except.bind, Except.map]
      | link target => cases hplain.at? hnode
      | folder entries =>
        cases step with
        | here => simp [walkSteps, trail, kindAt?, hnode, Node.kind, ih]
        | up => simp [walkSteps, trail, kindAt?, hnode, Node.kind, ih]
        | into name =>
          have hbelow : disk.top.at? (here ++ [name]) = entries.lookup name := by
            simp [Node.at?_append, hnode, Node.at?, Node.entries?]
          cases hchild : entries.lookup name with
          | none =>
            have hnone : disk.kindAt? (here ++ [name]) = none := by
              simp [kindAt?, hbelow, hchild]
            simp [walkSteps, trail, kindAt?, hnode, Node.kind, hchild, trail_of_none hnone,
              Except.bind, Except.map]
          | some child =>
            cases child with
            | link target => cases hplain.at? (hbelow.trans hchild)
            | file content => simp [walkSteps, trail, kindAt?, hnode, Node.kind, hchild, ih]
            | folder entries => simp [walkSteps, trail, kindAt?, hnode, Node.kind, hchild, ih]

/-- Where a path sets out from. -/
def origin (disk : Disk) (path : Text) : Location :=
  if Path.isAbsolute path then [] else disk.current

lemma resolve_eq_trail (hplain : disk.top.Plain) (followLast : Bool) (hpath : path ≠ []) :
    disk.resolve followLast path =
      (trail disk.kindAt? (disk.origin path) (Path.steps path)).bind disk.find := by
  have hstart : disk.resolve followLast path =
      disk.followSteps followLast maxLinks (disk.origin path) (Path.steps path) := by
    simp [resolve, origin, hpath]
  rw [hstart, followSteps, walkSteps_eq_trail hplain]
  cases (trail disk.kindAt? (disk.origin path) (Path.steps path)).bind disk.find <;> rfl

lemma resolve_eq_ok (hplain : disk.top.Plain) {followLast : Bool} {found : Location × Node} :
    disk.resolve followLast path = .ok found ↔
      path ≠ [] ∧ trail disk.kindAt? (disk.origin path) (Path.steps path) = .ok found.1 ∧
        disk.top.at? found.1 = some found.2 := by
  by_cases hpath : path = []
  · simp [resolve, hpath]
  · rw [resolve_eq_trail hplain followLast hpath]
    cases trail disk.kindAt? (disk.origin path) (Path.steps path) with
    | error fault => simp [Except.bind]
    | ok location =>
      simp only [Except.bind, find_eq_ok, ne_eq, hpath, not_false_eq_true, true_and,
        Except.ok.injEq]
      constructor
      · rintro ⟨rfl, h⟩
        exact ⟨rfl, h⟩
      · rintro ⟨rfl, h⟩
        exact ⟨rfl, h⟩

/-- Paths lead to the same locations on disks of the same shape. -/
lemma resolve_of_sameShape {other : Disk} (hplain : disk.top.Plain) (hother : other.top.Plain)
    (hsame : disk.SameShape other) {followLast : Bool} {found : Location × Node}
    (h : disk.resolve followLast path = .ok found) (hnode : other.top.at? found.1 = some node) :
    other.resolve followLast path = .ok (found.1, node) := by
  obtain ⟨hpath, htrail, -⟩ := (resolve_eq_ok hplain).1 h
  refine (resolve_eq_ok hother).2 ⟨hpath, ?_, hnode⟩
  rw [hsame.kindAt?_eq, origin, hsame.current_eq]
  exact htrail

/-- A path to a folder leads to a folder on every disk of the same shape. -/
lemma resolve_folder_of_sameShape {other : Disk} (hplain : disk.top.Plain)
    (hother : other.top.Plain) (hsame : disk.SameShape other) {followLast : Bool}
    {entries : Entries} (h : disk.resolve followLast path = .ok (location, .folder entries)) :
    ∃ entries', other.resolve followLast path = .ok (location, .folder entries') := by
  obtain ⟨-, -, hnode⟩ := (resolve_eq_ok hplain).1 h
  have hkind : other.kindAt? location = some .folder := by
    rw [hsame.kindAt?_eq]
    exact kindAt?_eq_folder.2 ⟨entries, hnode⟩
  obtain ⟨entries', hnode'⟩ := kindAt?_eq_folder.1 hkind
  exact ⟨entries', resolve_of_sameShape hplain hother hsame h hnode'⟩

/-- A path to a file leads to a file on every disk of the same shape. -/
lemma resolve_file_of_sameShape {other : Disk} (hplain : disk.top.Plain)
    (hother : other.top.Plain) (hsame : disk.SameShape other) {followLast : Bool}
    {content : ByteArray} (h : disk.resolve followLast path = .ok (location, .file content)) :
    ∃ content', other.resolve followLast path = .ok (location, .file content') := by
  obtain ⟨-, -, hnode⟩ := (resolve_eq_ok hplain).1 h
  have hkind : other.kindAt? location = some .file := by
    rw [hsame.kindAt?_eq]
    exact kindAt?_eq_file.2 ⟨content, contentAt?_eq_some.2 hnode⟩
  obtain ⟨content', hcontent'⟩ := kindAt?_eq_file.1 hkind
  exact ⟨content', resolve_of_sameShape hplain hother hsame h (contentAt?_eq_some.1 hcontent')⟩

/-- A path that leads nowhere leads nowhere on every disk of the same shape. -/
lemma resolve_error_of_sameShape {other : Disk} (hplain : disk.top.Plain)
    (hother : other.top.Plain) (hsame : disk.SameShape other) {followLast : Bool}
    {fault : PathFault} (h : disk.resolve followLast path = .error fault) :
    other.resolve followLast path = .error fault := by
  by_cases hpath : path = []
  · simpa [resolve, hpath] using h
  · rw [resolve_eq_trail hplain _ hpath] at h
    rw [resolve_eq_trail hother _ hpath, hsame.kindAt?_eq, origin, hsame.current_eq]
    change ((trail disk.kindAt? (disk.origin path) (Path.steps path)).bind other.find) = _
    cases htrail : trail disk.kindAt? (disk.origin path) (Path.steps path) with
    | error => simpa [htrail, Except.bind] using h
    | ok location =>
      have hkind : (other.top.at? location).map Node.kind = (disk.top.at? location).map Node.kind :=
        congrFun hsame.kindAt?_eq location
      cases hnode : disk.top.at? location with
      | some node => simp [htrail, Except.bind, find, hnode] at h
      | none =>
        have hnone : other.top.at? location = none := by simpa [hnode] using hkind
        simpa [htrail, Except.bind, find, hnode, hnone] using h

/-- The bytes that a path leads to are the same on disks of the same shape that agree on them. -/
lemma readBytes_of_sameShape {other : Disk} (hplain : disk.top.Plain) (hother : other.top.Plain)
    (hsame : disk.SameShape other)
    (hcontent : ∀ location content, disk.resolve true path = .ok (location, .file content) →
      other.contentAt? location = some content) :
    other.readBytes path = disk.readBytes path := by
  cases hresolve : disk.resolve true path with
  | error fault =>
    simp [readBytes, hresolve, resolve_error_of_sameShape hplain hother hsame hresolve]
  | ok found =>
    obtain ⟨location, node⟩ := found
    cases node with
    | file content =>
      have hnode := contentAt?_eq_some.1 (hcontent location content hresolve)
      simp [readBytes, hresolve, resolve_of_sameShape hplain hother hsame hresolve hnode]
    | folder entries =>
      obtain ⟨entries', hfolder⟩ := resolve_folder_of_sameShape hplain hother hsame hresolve
      simp [readBytes, hresolve, hfolder]
    | link target => cases hplain.at? ((resolve_eq_ok hplain).1 hresolve).2.2

section

variable (hplain : disk.top.Plain) {followLast : Bool}
include hplain

lemma trail_moves {entries : Entries}
    (h : disk.resolve followLast path = .ok (location, .folder entries)) :
    trail disk.kindAt? (disk.origin path) (Path.moves path) = .ok location := by
  obtain ⟨-, htrail, hnode⟩ := (resolve_eq_ok hplain).1 h
  rcases Path.steps_eq_moves path with hsteps | hsteps
  · rwa [hsteps] at htrail
  · rw [hsteps, trail_append] at htrail
    cases hmoves : trail disk.kindAt? (disk.origin path) (Path.moves path) with
    | error fault => simp [hmoves, Except.bind] at htrail
    | ok reached =>
      rw [hmoves] at htrail
      have hhere : trail disk.kindAt? reached [.here] = .ok location := htrail
      -- the step for a separator at the end stays where it is
      cases hkind : disk.kindAt? reached with
      | none => simp [trail, hkind] at hhere
      | some kind => cases kind <;> simp_all [trail]

lemma resolve_join {entries : Entries} (hname : Path.IsName name)
    (h : disk.resolve followLast path = .ok (location, .folder entries))
    (hnode : entries.lookup name = some node) :
    disk.resolve followLast (Path.join path name) = .ok (location ++ [name], node) := by
  obtain ⟨hpath, -, hfolder⟩ := (resolve_eq_ok hplain).1 h
  have hbelow : disk.top.at? (location ++ [name]) = some node := by
    simpa [Node.at?_append, hfolder, Node.at?, Node.entries?] using hnode
  refine (resolve_eq_ok hplain).2 ⟨Path.join_ne_nil hname, ?_, hbelow⟩
  have horigin : disk.origin (Path.join path name) = disk.origin path := by
    simp [origin, Path.isAbsolute_join hpath]
  have hkind : disk.kindAt? location = some .folder := by simp [kindAt?, hfolder, Node.kind]
  have hend : disk.kindAt? (location ++ [name]) ≠ none := by simp [kindAt?, hbelow]
  rw [horigin, Path.steps_join hname, trail_append, trail_moves hplain h]
  simp [Except.bind, trail, hkind, hend]

/-- The path of names below a folder leads to the location below it. -/
lemma resolve_below {names : List Text} {folder : Node}
    (h : disk.resolve followLast path = .ok (location, folder))
    (hnode : folder.at? names = some node) :
    disk.resolve followLast (Path.below path names) = .ok (location ++ names, node) := by
  induction names generalizing path location folder with
  | nil =>
    cases hnode
    simpa using h
  | cons name names ih =>
    obtain ⟨entries, child, rfl, hchild, hnode⟩ := Node.at?_cons_eq_some.1 hnode
    obtain ⟨-, -, hfolder⟩ := (resolve_eq_ok hplain).1 h
    have hname : Path.IsName name :=
      (hplain.at? hfolder).named (Entries.mem_of_lookup hchild)
    simpa using ih (resolve_join hplain hname h hchild) hnode

end

end NodeKit.Disk
