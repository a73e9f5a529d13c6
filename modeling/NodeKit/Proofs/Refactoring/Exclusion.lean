import NodeKit.Proofs.Disk.Pruning
import NodeKit.Refactoring.Files

/-!
# Excluding by patterns

Patterns are read one after the other, and the first that cannot be read is reported.
When all of them can, a walk comes to an entry exactly when no pattern stands for the
names of the entry or of a folder on the way to it. That is a rule about the set of the
patterns, which only ever takes entries away as the set grows.
-/
namespace NodeKit.Refactoring

/-- Whether a pattern can be read and stands for the path with the given names. -/
def PatternMatches (pattern : Text) (names : List Text) : Prop :=
  ∃ glob, Glob.ofPattern pattern = .ok glob ∧ glob.matchesPath names = true

/-- Whether a pattern is the first of a list that cannot be read, for the given fault. -/
def FirstUnreadable (patterns : List Text) (pattern : Text) (fault : GlobFault) : Prop :=
  ∃ front back, patterns = front ++ pattern :: back ∧
    (∀ earlier ∈ front, ∃ glob, Glob.ofPattern earlier = .ok glob) ∧
    Glob.ofPattern pattern = .error fault

variable {patterns others : List Text} {globs otherGlobs : List Glob} {names : List Text}

/-! ## Reading patterns -/

lemma readGlobs_append (front back : List Text) :
    readGlobs (front ++ back) =
      (readGlobs front).bind fun globs => (readGlobs back).map (globs ++ ·) := by
  induction front with
  | nil => cases hback : readGlobs back <;> simp [readGlobs, Except.bind, Except.map, hback]
  | cons pattern front ih =>
    rw [List.cons_append, readGlobs, readGlobs, ih]
    cases Glob.ofPattern pattern with
    | error fault => rfl
    | ok glob => cases readGlobs front <;> cases readGlobs back <;> rfl

/-- Every pattern gives one glob, and there are no others. -/
lemma mem_of_readGlobs (hglobs : readGlobs patterns = .ok globs) {glob : Glob} :
    glob ∈ globs ↔ ∃ pattern ∈ patterns, Glob.ofPattern pattern = .ok glob := by
  induction patterns generalizing globs with
  | nil =>
    cases hglobs
    simp
  | cons pattern patterns ih =>
    rw [readGlobs] at hglobs
    cases hpattern : Glob.ofPattern pattern with
    | error fault => simp [hpattern] at hglobs
    | ok first =>
      cases hrest : readGlobs patterns with
      | error e => simp [hpattern, hrest, Except.map] at hglobs
      | ok rest =>
        obtain rfl : first :: rest = globs := by simpa [hpattern, hrest, Except.map] using hglobs
        simp [ih hrest, hpattern, eq_comm]

lemma exists_readGlobs_iff :
    (∃ globs, readGlobs patterns = .ok globs) ↔
      ∀ pattern ∈ patterns, ∃ glob, Glob.ofPattern pattern = .ok glob := by
  induction patterns with
  | nil => simp [readGlobs]
  | cons pattern patterns ih =>
    rw [List.forall_mem_cons, ← ih, readGlobs]
    cases hpattern : Glob.ofPattern pattern with
    | error fault => simp
    | ok glob => cases readGlobs patterns <;> simp [Except.map]

/-- Reading fails for the first pattern that cannot be read. -/
lemma readGlobs_eq_error_iff {e : Error} :
    readGlobs patterns = .error e ↔
      ∃ pattern fault, FirstUnreadable patterns pattern fault ∧ e = .glob pattern fault := by
  constructor
  · intro h
    induction patterns with
    | nil => cases h
    | cons pattern patterns ih =>
      rw [readGlobs] at h
      cases hpattern : Glob.ofPattern pattern with
      | error fault =>
        obtain rfl : Error.glob pattern fault = e := by simpa [hpattern] using h
        exact ⟨pattern, fault, ⟨[], patterns, rfl, by simp, hpattern⟩, rfl⟩
      | ok glob =>
        cases hrest : readGlobs patterns with
        | ok globs => simp [hpattern, hrest, Except.map] at h
        | error e' =>
          obtain rfl : e' = e := by simpa [hpattern, hrest, Except.map] using h
          obtain ⟨bad, fault, ⟨front, back, rfl, hfront, hbad⟩, rfl⟩ := ih hrest
          exact ⟨bad, fault, ⟨pattern :: front, back, rfl,
            List.forall_mem_cons.2 ⟨⟨glob, hpattern⟩, hfront⟩, hbad⟩, rfl⟩
  · rintro ⟨bad, fault, ⟨front, back, rfl, hfront, hbad⟩, rfl⟩
    induction front with
    | nil => simp [readGlobs, hbad]
    | cons pattern front ih =>
      obtain ⟨⟨glob, hpattern⟩, hfront⟩ := List.forall_mem_cons.1 hfront
      simp [readGlobs, hpattern, ih hfront, Except.map]

/-! ## What is let through -/

lemma excludes_eq_false_iff (hglobs : readGlobs patterns = .ok globs) :
    excludes globs names = false ↔ ∀ pattern ∈ patterns, ¬ PatternMatches pattern names := by
  rw [excludes_eq_false]
  constructor
  · rintro h pattern hpattern ⟨glob, hglob, hmatches⟩
    rw [h glob ((mem_of_readGlobs hglobs).2 ⟨pattern, hpattern, hglob⟩)] at hmatches
    cases hmatches
  · intro h glob hglob
    obtain ⟨pattern, hpattern, hread⟩ := (mem_of_readGlobs hglobs).1 hglob
    have hno := h pattern hpattern
    by_contra hmatches
    exact hno ⟨glob, hread, by simpa using hmatches⟩

lemma reaches_iff (hglobs : readGlobs patterns = .ok globs) :
    Reaches globs [] names ↔
      ∀ front, front ≠ [] → front <+: names →
        ∀ pattern ∈ patterns, ¬ PatternMatches pattern front := by
  unfold Reaches
  simp only [List.nil_append, excludes_eq_false_iff hglobs]

lemma reaches_of_subset (hglobs : readGlobs patterns = .ok globs)
    (hothers : readGlobs others = .ok otherGlobs) (hsubset : patterns ⊆ others)
    (h : Reaches otherGlobs [] names) : Reaches globs [] names := by
  apply h.of_subset
  intro glob hglob
  obtain ⟨pattern, hpattern, hread⟩ := (mem_of_readGlobs hglobs).1 hglob
  exact (mem_of_readGlobs hothers).2 ⟨pattern, hsubset hpattern, hread⟩

/-- A walk from a folder comes to the folder, and to an entry below it exactly when no pattern
stands for any part, from the front, of the names that lead to the entry. So neither the order of
the patterns nor their repetition decides what is reached, and further patterns never bring in an
entry that was not reached before. -/
theorem walk_reached {disk : Disk} {root : Text} {home : Location} {entries : Entries}
    (hglobs : readGlobs patterns = .ok globs) (hplain : disk.top.Plain)
    (hroot : disk.resolve true root = .ok (home, .folder entries)) :
    disk.Reached globs root home ∧
      (∀ names node, disk.top.at? (home ++ names) = some node →
        (disk.Reached globs root (home ++ names) ↔
          ∀ front, front ≠ [] → front <+: names →
            ∀ pattern ∈ patterns, ¬ PatternMatches pattern front)) ∧
      (∀ location, disk.Reached globs root location →
        ∃ names node, location = home ++ names ∧ disk.top.at? location = some node) ∧
      ∀ others otherGlobs, readGlobs others = .ok otherGlobs →
        (patterns ⊆ others → ∀ location,
          disk.Reached otherGlobs root location → disk.Reached globs root location) ∧
        ((∀ pattern, pattern ∈ others ↔ pattern ∈ patterns) → ∀ location,
          disk.Reached otherGlobs root location ↔ disk.Reached globs root location) := by
  have hmono {patterns others globs otherGlobs} (hglobs : readGlobs patterns = .ok globs)
      (hothers : readGlobs others = .ok otherGlobs) (hsubset : patterns ⊆ others)
      (location : Location) (h : disk.Reached otherGlobs root location) :
      disk.Reached globs root location := by
    obtain ⟨names, node, hlocation, hnode, hreaches⟩ := (Disk.reached_iff hplain hroot).1 h
    exact (Disk.reached_iff hplain hroot).2
      ⟨names, node, hlocation, hnode, reaches_of_subset hglobs hothers hsubset hreaches⟩
  refine ⟨?_, ?_, ?_, ?_⟩
  · obtain ⟨-, -, hhome⟩ := (Disk.resolve_eq_ok hplain).1 hroot
    exact (Disk.reached_iff hplain hroot).2
      ⟨[], _, (List.append_nil home).symm, hhome, reaches_nil globs []⟩
  · intro names node hnode
    rw [Disk.reached_iff hplain hroot, ← reaches_iff hglobs]
    constructor
    · rintro ⟨names', _, hnames, -, hreaches⟩
      rwa [List.append_cancel_left hnames]
    · intro hreaches
      exact ⟨names, node, rfl, hnode, hreaches⟩
  · intro location h
    obtain ⟨names, node, hlocation, hnode, -⟩ := (Disk.reached_iff hplain hroot).1 h
    exact ⟨names, node, hlocation, hnode⟩
  · intro others otherGlobs hothers
    refine ⟨hmono hglobs hothers, fun hsame location => ⟨?_, ?_⟩⟩
    · exact hmono hglobs hothers (fun pattern => (hsame pattern).2) location
    · exact hmono hothers hglobs (fun pattern => (hsame pattern).1) location

/-- A folder of generated files, beside a file whose name only begins like that of the folder. -/
def generatedFiles (content : ByteArray) : Disk where
  top := .folder [(['n'], .folder [("Gen", .folder [("A.cs", .file content)]),
    ("Gen.cs", .file content)])]
  current := []

lemma plain_generatedFiles (content : ByteArray) : (generatedFiles content).top.Plain := by
  have hnames : ∀ name ∈ [['n'], "Gen".toList, "Gen.cs".toList, "A.cs".toList],
      Path.IsName name := by decide
  have hinner : (Node.folder [("A.cs".toList, .file content)]).Plain :=
    .folder (by simp) (by simpa using hnames "A.cs" (by decide)) (by simp [Node.Plain.file])
  have hfolder : (Node.folder [("Gen".toList, .folder [("A.cs".toList, .file content)]),
      ("Gen.cs".toList, .file content)]).Plain :=
    .folder (show ["Gen".toList, "Gen.cs".toList].Nodup by decide)
      (by simpa using ⟨hnames "Gen" (by decide), hnames "Gen.cs" (by decide)⟩)
      (by simpa [Node.Plain.file] using hinner)
  exact .folder (by simp) (by simpa using hnames ['n'] (by decide)) (by simpa using hfolder)

/-- What is in an excluded folder is not reached, while the file beside it is. Giving the pattern
twice changes nothing. -/
theorem walk_reached_generatedFiles :
    let disk := generatedFiles (Text.encode [])
    let gen : Glob := [.char 'G', .char 'e', .char 'n']
    readGlobs ["Gen"] = .ok [gen] ∧
      ¬ disk.Reached [gen] ['n'] [['n'], "Gen", "A.cs"] ∧
      disk.Reached [gen] ['n'] [['n'], "Gen.cs"] ∧
      ∀ location, disk.Reached [gen, gen] ['n'] location ↔ disk.Reached [gen] ['n'] location := by
  have hpattern : Glob.ofPattern "Gen" = .ok [.char 'G', .char 'e', .char 'n'] := by cbv
  have hglobs : readGlobs ["Gen"] = .ok [[.char 'G', .char 'e', .char 'n']] := by cbv
  have hroot : (generatedFiles (Text.encode [])).resolve true ['n'] =
      .ok ([['n']], .folder [("Gen", .folder [("A.cs", .file (Text.encode []))]),
        ("Gen.cs", .file (Text.encode []))]) := rfl
  obtain ⟨-, hreached, -, hothers⟩ := walk_reached hglobs (plain_generatedFiles _) hroot
  refine ⟨hglobs, ?_, ?_, ?_⟩
  · intro h
    exact (hreached ["Gen", "A.cs"] _ rfl).1 h ["Gen"] (by simp) ⟨["A.cs"], rfl⟩ "Gen" (by simp)
      ⟨_, hpattern, by decide⟩
  · refine (hreached ["Gen.cs"] _ rfl).2 ?_
    rintro front hne hfront pattern hmem ⟨glob, hglob, hmatches⟩
    obtain ⟨rest, rfl, hrest⟩ := (List.prefix_cons_iff.1 hfront).resolve_left hne
    obtain rfl := List.prefix_nil.1 hrest
    obtain rfl := List.mem_singleton.1 hmem
    obtain rfl := Except.ok.inj (hpattern.symm.trans hglob)
    revert hmatches
    decide
  · exact (hothers ["Gen", "Gen"] _ (by cbv)).2 (by simp)

end NodeKit.Refactoring
