import NodeKit.Refactoring.Files
import NodeKit.Proofs.Disk.Files

/-!
# A folder run, file by file

A run that goes on after failures comes to a fold over the locations of the files
that it has the mode applied to. Every step of the fold overwrites one file and
leaves the shape of the disk alone, so the later steps find the same files that they
would have found at the start. As no location occurs twice, the fold is one
simultaneous change, and the order of the walk is lost in it.
-/
namespace NodeKit.Refactoring

/-- What the mode makes of the bytes of a file. Those that it cannot deal with are kept. -/
def Mode.rewrite (mode : Mode) (content : ByteArray) : ByteArray :=
  match Text.decode? content with
  | none => content
  | some t =>
    match mode.apply t with
    | .ok new => Text.encode new
    | .error _ => content

lemma Mode.rewrite_eq_self {mode : Mode} {content : ByteArray}
    (h : ∀ t new, Text.decode? content = some t → mode.apply t ≠ .ok new) :
    mode.rewrite content = content := by
  unfold Mode.rewrite
  cases hdecode : Text.decode? content with
  | none => rfl
  | some t =>
    cases happly : mode.apply t with
    | error e => simp [happly]
    | ok new => exact absurd happly (h t new hdecode)

/-- Has the mode applied to the file at a location, if there is one. -/
def rewriteAt (mode : Mode) (disk : Disk) (location : Location) : Disk :=
  match disk.contentAt? location with
  | some content => disk.store location (mode.rewrite content)
  | none => disk

/-- The location of the file that a visit has the mode applied to, if it does. -/
def target? (extension : Text) (disk : Disk) : Visit → Option Location
  | .file path =>
    if Path.hasExtension path extension then
      match disk.resolve true path with
      | .ok (location, .file _) => some location
      | _ => none
    else none
  | _ => none

variable {mode : Mode} {settings : Settings} {globs : List Glob} {extension : Text}
  {disk : Disk} {location : Location}

lemma target?_eq_some {visit : Visit} :
    target? extension disk visit = some location ↔
      ∃ path content, visit = .file path ∧ Path.hasExtension path extension ∧
        disk.resolve true path = .ok (location, .file content) := by
  cases visit with
  | folder path => simp [target?]
  | excluded path => simp [target?]
  | unreadable path fault => simp [target?]
  | file path =>
    by_cases hextension : Path.hasExtension path extension
    · cases hresolve : disk.resolve true path with
      | error fault => simp [target?, hextension, hresolve]
      | ok found =>
        obtain ⟨reached, node⟩ := found
        cases node <;> simp [target?, hextension, hresolve]
    · simp [target?, hextension]

lemma target?_eq_some_iff {visit : Visit} :
    target? extension disk visit = some location ↔
      disk.fileAt? visit = some location ∧ ∃ path, visit = .file path ∧
        Path.hasExtension path extension := by
  rw [target?_eq_some, Disk.fileAt?_eq_some]
  constructor
  · rintro ⟨path, content, rfl, hextension, hresolve⟩
    exact ⟨⟨path, content, rfl, hresolve⟩, path, rfl, hextension⟩
  · rintro ⟨⟨path, content, rfl, hresolve⟩, _, hpath, hextension⟩
    cases hpath
    exact ⟨path, content, rfl, hextension, hresolve⟩

/-! ## One step -/

section

variable (hplain : disk.top.Plain)
include hplain

lemma plain_rewriteAt : (rewriteAt mode disk location).top.Plain := by
  unfold rewriteAt
  cases hcontent : disk.contentAt? location with
  | none => exact hplain
  | some content => exact Disk.plain_store (Disk.contentAt?_eq_some.1 hcontent) _ hplain

omit hplain in
lemma sameShape_rewriteAt : disk.SameShape (rewriteAt mode disk location) := by
  unfold rewriteAt
  cases hcontent : disk.contentAt? location with
  | none => exact .refl disk
  | some content => exact Disk.sameShape_store (Disk.contentAt?_eq_some.1 hcontent) _

omit hplain in
lemma contentAt?_rewriteAt (other : Location) :
    (rewriteAt mode disk location).contentAt? other =
      if other = location then (disk.contentAt? other).map mode.rewrite
      else disk.contentAt? other := by
  cases hcontent : disk.contentAt? location with
  | none =>
    have hsame : rewriteAt mode disk location = disk := by simp [rewriteAt, hcontent]
    rw [hsame]
    by_cases hother : other = location
    · simp [hother, hcontent]
    · simp [hother]
  | some content =>
    have hstore : rewriteAt mode disk location = disk.store location (mode.rewrite content) := by
      simp [rewriteAt, hcontent]
    rw [hstore, Disk.contentAt?_store (Disk.contentAt?_eq_some.1 hcontent)]
    by_cases hother : other = location
    · simp [hother, hcontent]
    · simp [hother]

lemma walk_rewriteAt {root : Text} {home : Location} {entries : Entries}
    (hroot : disk.resolve true root = .ok (home, .folder entries)) :
    (rewriteAt mode disk location).walk globs root = disk.walk globs root := by
  unfold rewriteAt
  cases hcontent : disk.contentAt? location with
  | none => rfl
  | some content => exact Disk.walk_store hplain hroot (Disk.contentAt?_eq_some.1 hcontent) _

/-- Overwriting files does not turn a visit to another file. -/
lemma target?_of_sameShape {other : Disk} (hother : other.top.Plain)
    (hsame : disk.SameShape other) (visit : Visit) :
    target? extension other visit = target? extension disk visit := by
  have hsub {one two : Disk} (hone : one.top.Plain) (htwo : two.top.Plain)
      (hshape : one.SameShape two) {location : Location}
      (h : target? extension one visit = some location) :
      target? extension two visit = some location := by
    obtain ⟨path, content, rfl, hextension, hresolve⟩ := target?_eq_some.1 h
    obtain ⟨content', hresolve'⟩ := Disk.resolve_file_of_sameShape hone htwo hshape hresolve
    exact target?_eq_some.2 ⟨path, content', rfl, hextension, hresolve'⟩
  apply Option.ext
  intro reached
  exact ⟨hsub hother hplain hsame.symm, hsub hplain hother hsame⟩

/-- Planning a file and carrying the plan out has the mode applied to its bytes. -/
lemma refactorFile_disk {path : Text} {content : ByteArray}
    (hresolve : disk.resolve true path = .ok (location, .file content)) :
    (refactorFile mode false disk path).disk = rewriteAt mode disk location := by
  obtain ⟨-, -, hnode⟩ := (Disk.resolve_eq_ok hplain).1 hresolve
  have hcontent : disk.contentAt? location = some content := Disk.contentAt?_eq_some.2 hnode
  have hrewrite : rewriteAt mode disk location = disk.store location (mode.rewrite content) := by
    simp [rewriteAt, hcontent]
  have hkeep : mode.rewrite content = content → disk = rewriteAt mode disk location := by
    intro h
    rw [hrewrite, h, Disk.store_self hcontent]
  cases hdecode : Text.decode? content with
  | none =>
    have hplan : plan mode disk path = .error (.read .notUtf8) := by
      simp [plan, Disk.readText, Disk.readBytes, hresolve, hdecode]
    simpa [refactorFile, hplan] using hkeep (by simp [Mode.rewrite, hdecode])
  | some t =>
    have hread : disk.readText path = .ok t := by
      simp [Disk.readText, Disk.readBytes, hresolve, hdecode]
    cases happly : mode.apply t with
    | error e =>
      have hplan : plan mode disk path = .error e := by simp [plan, hread, happly]
      simpa [refactorFile, hplan] using hkeep (by simp [Mode.rewrite, hdecode, happly])
    | ok new =>
      have hnew : mode.rewrite content = Text.encode new := by
        simp [Mode.rewrite, hdecode, happly]
      by_cases hsame : new = t
      · have hplan : plan mode disk path = .ok (.unchanged path) := by
          simp [plan, hread, happly, hsame]
        have hback : mode.rewrite content = content := by
          rw [hnew, hsame, Text.encode_of_decode? hdecode]
        simpa [refactorFile, hplan, Operation.perform] using hkeep hback
      · have hplan : plan mode disk path = .ok (.change path new) := by
          simp [plan, hread, happly, hsame]
        have hwrite : disk.writeText path new = .ok (disk.store location (Text.encode new)) := by
          simp [Disk.writeText, hresolve, Disk.store]
        simp [refactorFile, hplan, Operation.perform, hwrite, hrewrite, hnew, Except.mapError]

omit hplain in
/-- Nothing becomes of a path that leads to no file. -/
lemma refactorFile_disk_of_no_file {path : Text}
    (h : ∀ location content, disk.resolve true path ≠ .ok (location, .file content)) :
    (refactorFile mode false disk path).disk = disk := by
  have hread : ∃ fault, disk.readBytes path = .error fault := by
    unfold Disk.readBytes
    cases hresolve : disk.resolve true path with
    | error fault => exact ⟨fault, rfl⟩
    | ok found =>
      obtain ⟨reached, node⟩ := found
      cases node with
      | file content => exact absurd hresolve (h reached content)
      | link target => exact ⟨.isADirectory, rfl⟩
      | folder entries => exact ⟨.isADirectory, rfl⟩
  obtain ⟨fault, hread⟩ := hread
  simp [refactorFile, plan, Disk.readText, hread]

/-- A visit that has the mode applied to a file changes that file, and any other visit changes
nothing. -/
lemma runVisit_disk (hdry : settings.dryRun = false) (visit : Visit) :
    (runVisit mode settings disk visit).disk =
      ((target? settings.extension disk visit).map (rewriteAt mode disk)).getD disk := by
  cases htarget : target? settings.extension disk visit with
  | some location =>
    obtain ⟨path, content, rfl, hextension, hresolve⟩ := target?_eq_some.1 htarget
    simpa [runVisit, hextension, hdry] using refactorFile_disk hplain hresolve
  | none =>
    cases visit with
    | folder path => rfl
    | excluded path => rfl
    | unreadable path fault => rfl
    | file path =>
      by_cases hextension : Path.hasExtension path settings.extension
      · have hno : ∀ location content,
            disk.resolve true path ≠ .ok (location, .file content) := by
          intro location content hresolve
          have hsome := target?_eq_some.2 ⟨path, content, rfl, hextension, hresolve⟩
          rw [htarget] at hsome
          cases hsome
        simpa [runVisit, hextension, hdry] using refactorFile_disk_of_no_file hno
      · simp [runVisit, hextension]

end

/-! ## The whole run -/

/-- A run that goes on after failures deals with every visit, and gives a summary. -/
lemma runVisits_of_proceed (mode : Mode) (hpolicy : settings.failurePolicy = .proceed) (disk : Disk)
    (summary : Summary) (visits : List Visit) :
    (∃ total, (runVisits mode settings disk summary visits).result = .ok total) ∧
      (runVisits mode settings disk summary visits).disk =
        visits.foldl (fun left visit => (runVisit mode settings left visit).disk) disk := by
  induction visits generalizing disk summary with
  | nil => exact ⟨⟨summary, rfl⟩, rfl⟩
  | cons visit rest ih =>
    rw [List.foldl_cons, runVisits]
    cases (runVisit mode settings disk visit).result with
    | ok operation => exact ih _ _
    | error e =>
      rw [hpolicy]
      exact ih _ _

/-- The visits of a run have the mode applied to the files that they would find at the start. -/
lemma foldl_runVisit (hdry : settings.dryRun = false) (hplain : disk.top.Plain)
    (visits : List Visit) :
    visits.foldl (fun left visit => (runVisit mode settings left visit).disk) disk =
      (visits.filterMap (target? settings.extension disk)).foldl (rewriteAt mode) disk := by
  induction visits generalizing disk with
  | nil => rfl
  | cons visit rest ih =>
    rw [List.foldl_cons, runVisit_disk hplain hdry]
    cases htarget : target? settings.extension disk visit with
    | none =>
      rw [List.filterMap_cons_none htarget]
      exact ih hplain
    | some location =>
      have hplain' : (rewriteAt mode disk location).top.Plain := plain_rewriteAt hplain
      have htargets : target? settings.extension (rewriteAt mode disk location) =
          target? settings.extension disk :=
        funext (target?_of_sameShape hplain hplain' sameShape_rewriteAt)
      rw [List.filterMap_cons_some htarget, List.foldl_cons, ← htargets]
      exact ih hplain'

/-- Overwriting files at different locations is one simultaneous change of their bytes. -/
lemma contentAt?_foldl_rewriteAt (mode : Mode) {locations : List Location}
    (hnodup : locations.Nodup) (disk : Disk) (location : Location) :
    (locations.foldl (rewriteAt mode) disk).contentAt? location =
      if location ∈ locations then (disk.contentAt? location).map mode.rewrite
      else disk.contentAt? location := by
  induction locations generalizing disk with
  | nil => simp
  | cons first rest ih =>
    obtain ⟨hfresh, hrest⟩ := List.nodup_cons.1 hnodup
    rw [List.foldl_cons, ih hrest, contentAt?_rewriteAt]
    by_cases hfirst : location = first
    · subst hfirst
      simp [hfresh]
    · simp [hfirst]

lemma sameShape_foldl_rewriteAt (mode : Mode) (locations : List Location) (disk : Disk) :
    disk.SameShape (locations.foldl (rewriteAt mode) disk) := by
  induction locations generalizing disk with
  | nil => exact .refl disk
  | cons first rest ih => exact sameShape_rewriteAt.trans (ih _)

lemma plain_foldl_rewriteAt (mode : Mode) (locations : List Location) {disk : Disk}
    (hplain : disk.top.Plain) : (locations.foldl (rewriteAt mode) disk).top.Plain := by
  induction locations generalizing disk with
  | nil => exact hplain
  | cons first rest ih => exact ih (plain_rewriteAt hplain)

/-- However many files are overwritten, a walk from a folder meets the same as before. -/
lemma walk_foldl_rewriteAt (mode : Mode) (globs : List Glob) {root : Text} {home : Location}
    {entries : Entries} (hplain : disk.top.Plain)
    (hroot : disk.resolve true root = .ok (home, .folder entries)) (locations : List Location) :
    (locations.foldl (rewriteAt mode) disk).walk globs root = disk.walk globs root := by
  induction locations generalizing disk entries with
  | nil => rfl
  | cons first rest ih =>
    have hplain' : (rewriteAt mode disk first).top.Plain := plain_rewriteAt hplain
    obtain ⟨_, hroot'⟩ :=
      Disk.resolve_folder_of_sameShape hplain hplain' sameShape_rewriteAt hroot
    exact (ih hplain' hroot').trans (walk_rewriteAt hplain hroot)

lemma foldl_rewriteAt (mode : Mode) (globs : List Glob) {root : Text} {home : Location}
    {entries : Entries} (hplain : disk.top.Plain)
    (hroot : disk.resolve true root = .ok (home, .folder entries))
    {locations : List Location} (hnodup : locations.Nodup) :
    disk.SameShape (locations.foldl (rewriteAt mode) disk) ∧
      (locations.foldl (rewriteAt mode) disk).walk globs root = disk.walk globs root ∧
      ∀ location, (locations.foldl (rewriteAt mode) disk).contentAt? location =
        if location ∈ locations then (disk.contentAt? location).map mode.rewrite
        else disk.contentAt? location :=
  ⟨sameShape_foldl_rewriteAt mode locations disk,
    walk_foldl_rewriteAt mode globs hplain hroot locations,
    contentAt?_foldl_rewriteAt mode hnodup disk⟩

/-- No walk has a mode applied to a file twice. -/
lemma nodup_targets (hplain : disk.top.Plain) (globs : List Glob) (root : Text) :
    ((disk.walk globs root).filterMap (target? extension disk)).Nodup := by
  rw [List.Nodup, List.pairwise_filterMap]
  refine (List.pairwise_filterMap.1 (Disk.nodup_files hplain globs root)).imp ?_
  intro one other h location hlocation location' hlocation'
  exact h location (target?_eq_some_iff.1 hlocation).1 location'
    (target?_eq_some_iff.1 hlocation').1

/-! ## The files that a run changes -/

/-- Whether a folder run has its mode applied to the file with the names below the root: it has
the extension, and no glob matches it or a folder on the way to it. -/
def IsCandidate (globs : List Glob) (extension : Text) (names : List Text) : Prop :=
  Reaches globs [] names ∧
    ∃ name, names.getLast? = some name ∧ Path.hasExtension name extension

/-- Whether a folder run changes the file at a location to a text: it is a candidate below the
root, it holds text, and the mode makes the new text of it. -/
def Rewrites (mode : Mode) (globs : List Glob) (extension : Text) (disk : Disk) (home : Location)
    (location : Location) (new : Text) : Prop :=
  ∃ names content t, location = home ++ names ∧ IsCandidate globs extension names ∧
    disk.contentAt? location = some content ∧ Text.decode? content = some t ∧
    mode.apply t = .ok new

section

variable {root : Text} {home : Location} {entries : Entries}
  (hplain : disk.top.Plain) (hroot : disk.resolve true root = .ok (home, .folder entries))
include hplain hroot

/-- The locations that a run has its mode applied to are those of the candidates. -/
lemma mem_targets :
    location ∈ (disk.walk globs root).filterMap (target? extension disk) ↔
      ∃ names content, location = home ++ names ∧ IsCandidate globs extension names ∧
        disk.contentAt? location = some content := by
  have hextension {names : List Text} {content : ByteArray} {name : Text}
      (hcontent : disk.contentAt? (home ++ names) = some content)
      (hlast : names.getLast? = some name) :
      Path.hasExtension (Path.below root names) extension = Path.hasExtension name extension :=
    Disk.hasExtension_below hplain hroot (Disk.contentAt?_eq_some.1 hcontent) hlast extension
  rw [List.mem_filterMap]
  constructor
  · rintro ⟨visit, hvisit, htarget⟩
    obtain ⟨hfile, path, hpath, hcandidate⟩ := target?_eq_some_iff.1 htarget
    obtain ⟨names, content, hreaches, rfl, rfl, hcontent⟩ :=
      Disk.names_of_fileAt? hplain hroot hvisit hfile
    cases hpath
    obtain ⟨name, hlast⟩ := Disk.exists_getLast? hplain hroot hcontent
    rw [hextension hcontent hlast] at hcandidate
    exact ⟨names, content, rfl, ⟨hreaches, name, hlast, hcandidate⟩, hcontent⟩
  · rintro ⟨names, content, rfl, ⟨hreaches, name, hlast, hcandidate⟩, hcontent⟩
    rw [← hextension hcontent hlast] at hcandidate
    exact ⟨_, (Disk.file_mem_walk hplain hroot).2 ⟨names, content, hreaches, rfl, hcontent⟩,
      target?_eq_some_iff.2 ⟨Disk.fileAt?_below hplain hroot hcontent, _, rfl, hcandidate⟩⟩

end

/-- Whatever order folders list their entries in, a folder run that goes on after failures ends
with a summary and changes each candidate that the mode makes a text of to that text. Every other
file keeps its bytes, nothing is created or removed, no file is come to twice, and what is already
written never changes what the walk meets. -/
theorem runFolder_pointwise (mode : Mode) (globs : List Glob) {settings : Settings}
    {disk listed : Disk} {root : Text} {home : Location} {entries : Entries}
    (hpolicy : settings.failurePolicy = .proceed) (hdry : settings.dryRun = false)
    (hplain : disk.top.Plain) (hlisted : listed.Relists disk)
    (hroot : disk.resolve true root = .ok (home, .folder entries)) :
    let done := runFolder mode settings globs listed root
    (∃ summary, done.result = .ok summary) ∧
      disk.SameShape done.disk ∧
      (∀ location new, Rewrites mode globs settings.extension disk home location new →
        done.disk.contentAt? location = some (Text.encode new)) ∧
      (∀ location, (¬ ∃ new, Rewrites mode globs settings.extension disk home location new) →
        done.disk.contentAt? location = disk.contentAt? location) ∧
      ((listed.walk globs root).filterMap (target? settings.extension listed)).Nodup ∧
      done.disk.walk globs root = listed.walk globs root := by
  obtain ⟨_, hroot'⟩ :=
    Disk.resolve_folder_of_sameShape hplain hlisted.plain hlisted.toSameShape hroot
  obtain ⟨hresult, hdisk⟩ := runVisits_of_proceed mode hpolicy listed Summary.empty
    (listed.walk globs root)
  rw [foldl_runVisit hdry hlisted.plain] at hdisk
  have hnodup : ((listed.walk globs root).filterMap (target? settings.extension listed)).Nodup :=
    nodup_targets hlisted.plain globs root
  obtain ⟨hshape, hwalk, hcontent⟩ :=
    foldl_rewriteAt mode globs hlisted.plain hroot' hnodup
  rw [← hdisk] at hshape hwalk hcontent
  refine ⟨hresult, hlisted.toSameShape.trans hshape, ?_, ?_, hnodup, hwalk⟩
  · rintro location new ⟨names, content, t, hlocation, hcandidate, hold, hdecode, happly⟩
    have hmem := (mem_targets hlisted.plain hroot').2
      ⟨names, content, hlocation, hcandidate, by rwa [hlisted.contentAt?_eq]⟩
    refine (hcontent location).trans ?_
    rw [if_pos hmem, hlisted.contentAt?_eq, hold]
    simp [Mode.rewrite, hdecode, happly]
  · intro location hnone
    refine (hcontent location).trans ?_
    rw [hlisted.contentAt?_eq]
    split
    · next hmem =>
      obtain ⟨names, content, hlocation, hcandidate, hold⟩ :=
        (mem_targets hlisted.plain hroot').1 hmem
      rw [hlisted.contentAt?_eq] at hold
      have hkeep : mode.rewrite content = content := by
        apply Mode.rewrite_eq_self
        intro t new hdecode happly
        exact hnone ⟨new, names, content, t, hlocation, hcandidate, hold, hdecode, happly⟩
      simp [hold, hkeep]
    · rfl

/-- Two files with the same bytes in a folder. -/
def twoFiles (content : ByteArray) : Disk where
  top := .folder [(['n'], .folder [("A.cs", .file content), ("A.txt", .file content)])]
  current := []

lemma plain_twoFiles (content : ByteArray) : (twoFiles content).top.Plain := by
  have hnames : ∀ name ∈ ["A.cs".toList, "A.txt".toList], Path.IsName name := by decide
  have hfolder : (Node.folder [("A.cs".toList, .file content),
      ("A.txt".toList, .file content)]).Plain :=
    .folder (show ["A.cs".toList, "A.txt".toList].Nodup by decide) (by simpa using hnames)
      (by simp [Node.Plain.file])
  have hname : Path.IsName ['n'] := by decide
  exact .folder (by simp) (by simpa using hname) (by simpa using hfolder)

/-- Of two files with the same bytes, the one with the extension is changed. -/
theorem runFolder_pointwise_twoFiles :
    (runFolder .getNodeData ⟨.folder, "cs", [], .proceed, false⟩ []
      (twoFiles (Text.encode getNodeDataChange.old)) ['n']).disk.contentAt? [['n'], "A.cs"] =
      some (Text.encode getNodeDataChange.new) := by
  have hplain := plain_twoFiles (Text.encode getNodeDataChange.old)
  have hroot : (twoFiles (Text.encode getNodeDataChange.old)).resolve true ['n'] =
      .ok ([['n']], .folder [("A.cs", .file (Text.encode getNodeDataChange.old)),
        ("A.txt", .file (Text.encode getNodeDataChange.old))]) := rfl
  obtain ⟨-, -, hchanged, -⟩ := @runFolder_pointwise .getNodeData []
    ⟨.folder, "cs", [], .proceed, false⟩ _ _ _ _ _ rfl rfl hplain (.refl hplain) hroot
  refine hchanged [['n'], "A.cs"] getNodeDataChange.new ?_
  refine ⟨["A.cs"], Text.encode getNodeDataChange.old, getNodeDataChange.old, rfl, ?_, rfl,
    Text.decode?_encode _, ?_⟩
  · exact ⟨fun _ _ _ => rfl, "A.cs", rfl, by decide⟩
  · decide +kernel

end NodeKit.Refactoring
