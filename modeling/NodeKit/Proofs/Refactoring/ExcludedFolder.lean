import NodeKit.Proofs.Glob.Literal
import NodeKit.Proofs.Refactoring.Exclusion
import NodeKit.Proofs.Refactoring.Request

/-!
# Excluding a folder, whole or by its contents

The path of a folder as a pattern keeps a walk from entering the folder. With `/**` behind
it the folder is entered, and everything in it is passed over. The visits differ, but only
in those that a run does nothing at, so that a run comes to the same either way.
-/
namespace NodeKit.Refactoring

variable {mode : Mode} {settings : Settings} {disk : Disk} {location : Location}
  {globs others : List Glob} {glob : Glob} {names : List Text}

/-! ## What a run sees of the globs -/

/-- The visits that are not counted do nothing to a run. -/
lemma runVisits_filter (mode : Mode) (settings : Settings) (disk : Disk) (summary : Summary)
    (visits : List Visit) :
    (runVisits mode settings disk summary (visits.filter Visit.isCounted)).disk =
        (runVisits mode settings disk summary visits).disk ∧
      (runVisits mode settings disk summary (visits.filter Visit.isCounted)).result =
        (runVisits mode settings disk summary visits).result := by
  induction visits generalizing disk summary with
  | nil => exact ⟨rfl, rfl⟩
  | cons visit rest ih =>
    cases visit with
    | folder path => exact ih disk summary
    | excluded path => exact ih disk summary
    | file path | unreadable path fault =>
      rw [List.filter_cons_of_pos rfl, runVisits, runVisits]
      generalize runVisit mode settings disk _ = done
      cases done.result with
      | ok operation => exact ih done.disk _
      | error e =>
        cases settings.failurePolicy with
        | abort => exact ⟨rfl, rfl⟩
        | proceed => exact ih done.disk _

/-- Globs that let the same files through make for the same run. -/
lemma runFolder_congr (mode : Mode) (settings : Settings) {root : Text} {home : Location}
    {entries : Entries} (hplain : disk.top.Plain)
    (hroot : disk.resolve true root = .ok (home, .folder entries))
    (h : ∀ names content, disk.contentAt? (home ++ names) = some content →
      (Reaches globs [] names ↔ Reaches others [] names)) :
    (runFolder mode settings globs disk root).disk =
        (runFolder mode settings others disk root).disk ∧
      (runFolder mode settings globs disk root).result =
        (runFolder mode settings others disk root).result := by
  obtain ⟨hdisk, hresult⟩ :=
    runVisits_filter mode settings disk Summary.empty (disk.walk globs root)
  obtain ⟨hdisk', hresult'⟩ :=
    runVisits_filter mode settings disk Summary.empty (disk.walk others root)
  rw [Disk.filter_walk_congr hplain hroot h] at hdisk hresult
  exact ⟨hdisk.symm.trans hdisk', hresult.symm.trans hresult'⟩

/-- A run overwrites nothing but the files that its visits have the mode applied to. -/
lemma contentAt?_runVisits (mode : Mode) (settings : Settings) (hplain : disk.top.Plain)
    (summary : Summary) {visits : List Visit}
    (h : location ∉ visits.filterMap (target? settings.extension disk)) :
    (runVisits mode settings disk summary visits).disk.contentAt? location =
      disk.contentAt? location := by
  induction visits generalizing disk summary with
  | nil => rfl
  | cons visit rest ih =>
    obtain ⟨hplain', hsame, hcontent⟩ := runVisit_keeps mode settings hplain visit
    have htargets : target? settings.extension (runVisit mode settings disk visit).disk =
        target? settings.extension disk := funext (target?_of_sameShape hplain hplain' hsame)
    have hvisit : target? settings.extension disk visit ≠ some location := by
      intro htarget
      exact h (List.mem_filterMap.2 ⟨visit, List.mem_cons_self, htarget⟩)
    have hrest : location ∉ rest.filterMap
        (target? settings.extension (runVisit mode settings disk visit).disk) := by
      rw [htargets]
      intro hmem
      obtain ⟨later, hlater, htarget⟩ := List.mem_filterMap.1 hmem
      exact h (List.mem_filterMap.2 ⟨later, List.mem_cons_of_mem _ hlater, htarget⟩)
    have hkeep (counted : Summary) := (ih hplain' counted hrest).trans (hcontent location hvisit)
    rw [runVisits]
    cases (runVisit mode settings disk visit).result with
    | ok operation => exact hkeep _
    | error e =>
      cases settings.failurePolicy with
      | abort => exact hcontent location hvisit
      | proceed => exact hkeep _

/-- The excludes of the settings are read before a run, which does not look at them again. -/
lemma runVisits_withExcludes (mode : Mode) (settings : Settings) (excludes : List Text)
    (disk : Disk) (summary : Summary) (visits : List Visit) :
    runVisits mode { settings with excludes } disk summary visits =
      runVisits mode settings disk summary visits := by
  induction visits generalizing disk summary with
  | nil => rfl
  | cons visit rest ih =>
    have hvisit : runVisit mode { settings with excludes } disk visit =
        runVisit mode settings disk visit := by
      cases visit <;> rfl
    simp only [runVisits, hvisit, ih]

lemma runPath_withExcludes (mode : Mode) {settings : Settings} (hpath : settings.pathMode = .folder)
    {excludes : List Text} (hglobs : readGlobs excludes = .ok globs) (disk : Disk) (root : Text) :
    (runPath mode { settings with excludes } disk root).disk =
        (runFolder mode settings globs disk root).disk ∧
      (runPath mode { settings with excludes } disk root).result =
        (runFolder mode settings globs disk root).result := by
  have hrun : runFolder mode { settings with excludes } globs disk root =
      runFolder mode settings globs disk root :=
    runVisits_withExcludes mode settings excludes disk Summary.empty _
  rw [← hrun]
  exact runPath_of_folder { settings with excludes } hglobs hpath mode disk root

/-! ## Two patterns for a folder -/

lemma readGlobs_insert {pattern : Text} (h : Glob.ofPattern pattern = .ok glob)
    (front back : List Text) :
    readGlobs (front ++ pattern :: back) = (readGlobs front).bind fun before =>
      (readGlobs back).map fun after => before ++ glob :: after := by
  rw [readGlobs_append, readGlobs, h]
  cases readGlobs back <;> rfl

lemma reaches_insert {before after : List Glob} :
    Reaches (before ++ glob :: after) [] names ↔
      Reaches (before ++ after) [] names ∧
        ∀ part, part ≠ [] → part <+: names → glob.matchesPath part = false := by
  have hexcludes (part : List Text) : excludes (before ++ glob :: after) part = false ↔
      excludes (before ++ after) part = false ∧ glob.matchesPath part = false := by
    simp [excludes]
    tauto
  simp only [Reaches, List.nil_append, hexcludes, imp_and, forall_and]

section

variable {folder : List Text} (hne : folder ≠ []) (hfolder : ∀ name ∈ folder, '/' ∉ name)
  (hnames : ∀ name ∈ names, '/' ∉ name)
include hne hfolder hnames

/-- The path of a folder lets through what is not at it or below it. -/
lemma spelling_passes_iff :
    (∀ part, part ≠ [] → part <+: names →
        (Glob.spelling (Text.joinWith ['/'] folder)).matchesPath part = false) ↔
      ¬ folder <+: names := by
  constructor
  · intro h hbegins
    have hself := (matchesPath_spelling hne hfolder hne hfolder).2 rfl
    rw [h folder hne hbegins] at hself
    cases hself
  · intro h part hpart hbegins
    by_contra hmatches
    rw [Bool.not_eq_false, matchesPath_spelling hne hfolder hpart fun name hname =>
      hnames name (hbegins.subset hname)] at hmatches
    exact h (hmatches ▸ hbegins)

/-- The path of a folder with `/**` behind it lets through what is not below the folder. -/
lemma below_passes_iff :
    (∀ part, part ≠ [] → part <+: names →
        Glob.matchesPath (Glob.spelling (Text.joinWith ['/'] folder) ++ [.everythingBelow]) part =
          false) ↔
      ¬ (folder <+: names ∧ folder ≠ names) := by
  constructor
  · rintro h ⟨⟨below, rfl⟩, hother⟩
    have hbelow : below ≠ [] := by
      rintro rfl
      exact hother (List.append_nil folder).symm
    have hself := (matchesPath_below hne hfolder (by simp [hne]) hnames).2 ⟨below, hbelow, rfl⟩
    rw [h _ (by simp [hne]) List.prefix_rfl] at hself
    cases hself
  · intro h part hpart hbegins
    by_contra hmatches
    rw [Bool.not_eq_false, matchesPath_below hne hfolder hpart fun name hname =>
      hnames name (hbegins.subset hname)] at hmatches
    obtain ⟨below, hbelow, rfl⟩ := hmatches
    refine h ⟨(List.prefix_append folder below).trans hbegins, ?_⟩
    rintro rfl
    have hlength := hbegins.length_le
    rw [List.length_append] at hlength
    have hpositive := List.length_pos_iff.2 hbelow
    omega

end

/-! ## The two runs -/

/-- Whether a glob keeps a walk from the files below a folder, and from no others. -/
def PassesOver (glob : Glob) (disk : Disk) (home folder : Location) : Prop :=
  ∀ names content, disk.contentAt? (home ++ names) = some content →
    ((∀ part, part ≠ [] → part <+: names → glob.matchesPath part = false) ↔ ¬ folder <+: names)

lemma separator_notMem_names (hplain : disk.top.Plain) {home : Location} {node : Node}
    (hnode : disk.top.at? (home ++ names) = some node) : ∀ name ∈ names, '/' ∉ name := by
  intro name hname
  exact (hplain.isName_of_at? hnode (List.mem_append_right home hname)).separator_notMem

section

variable {home folder : Location} {below : Entries} (hplain : disk.top.Plain)
  (hfolder : disk.top.at? (home ++ folder) = some (.folder below)) (hne : folder ≠ [])
include hplain hfolder hne

lemma passesOver_spelling :
    PassesOver (Glob.spelling (Text.joinWith ['/'] folder)) disk home folder := by
  intro names content hcontent
  exact spelling_passes_iff hne (separator_notMem_names hplain hfolder)
    (separator_notMem_names hplain (Disk.contentAt?_eq_some.1 hcontent))

lemma passesOver_below :
    PassesOver (Glob.spelling (Text.joinWith ['/'] folder) ++ [.everythingBelow]) disk home
      folder := by
  intro names content hcontent
  have hfile := Disk.contentAt?_eq_some.1 hcontent
  have hother : folder ≠ names := by
    rintro rfl
    rw [hfolder] at hfile
    cases hfile
  rw [below_passes_iff hne (separator_notMem_names hplain hfolder)
    (separator_notMem_names hplain hfile)]
  simp [hother]

end

section

variable {root : Text} {home folder : Location} {entries : Entries} {before after : List Glob}
  (hplain : disk.top.Plain) (hroot : disk.resolve true root = .ok (home, .folder entries))
  (hglob : PassesOver glob disk home folder)
include hplain hroot hglob

/-- A walk comes to no file below a folder that is passed over. -/
lemma notMem_files_of_passesOver (rest : Location) :
    home ++ folder ++ rest ∉
      (disk.walk (before ++ glob :: after) root).filterMap disk.fileAt? := by
  intro hmem
  obtain ⟨names, content, hnames, hreaches, hcontent⟩ := (Disk.mem_files hplain hroot).1 hmem
  rw [List.append_assoc] at hnames
  obtain rfl := List.append_cancel_left hnames
  rw [List.append_assoc] at hcontent
  exact (hglob _ content hcontent).1 (reaches_insert.1 hreaches).2 (List.prefix_append folder rest)

lemma contentAt?_runFolder_of_passesOver (mode : Mode) (settings : Settings) (rest : Location) :
    (runFolder mode settings (before ++ glob :: after) disk root).disk.contentAt?
        (home ++ folder ++ rest) =
      disk.contentAt? (home ++ folder ++ rest) := by
  refine contentAt?_runVisits mode settings hplain Summary.empty fun hmem => ?_
  obtain ⟨visit, hvisit, htarget⟩ := List.mem_filterMap.1 hmem
  exact notMem_files_of_passesOver hplain hroot hglob rest
    (List.mem_filterMap.2 ⟨visit, hvisit, (target?_eq_some_iff.1 htarget).1⟩)

/-- Globs that pass over the same folder make for the same run. -/
lemma runFolder_of_passesOver (mode : Mode) (settings : Settings) {other : Glob}
    (hother : PassesOver other disk home folder) :
    (runFolder mode settings (before ++ glob :: after) disk root).disk =
        (runFolder mode settings (before ++ other :: after) disk root).disk ∧
      (runFolder mode settings (before ++ glob :: after) disk root).result =
        (runFolder mode settings (before ++ other :: after) disk root).result := by
  apply runFolder_congr mode settings hplain hroot
  intro names content hcontent
  rw [reaches_insert, reaches_insert, hglob names content hcontent, hother names content hcontent]

end

/-- Two patterns in the same place of a list fail with the same error or give their two globs, one
in the place of the other. -/
lemma readGlobs_insert_cases {one other : Text} {otherGlob : Glob}
    (hone : Glob.ofPattern one = .ok glob) (hother : Glob.ofPattern other = .ok otherGlob)
    (front back : List Text) :
    (∃ e, readGlobs (front ++ one :: back) = .error e ∧
        readGlobs (front ++ other :: back) = .error e) ∨
      ∃ before after, readGlobs (front ++ one :: back) = .ok (before ++ glob :: after) ∧
        readGlobs (front ++ other :: back) = .ok (before ++ otherGlob :: after) := by
  rw [readGlobs_insert hone, readGlobs_insert hother]
  cases readGlobs front with
  | error e => exact Or.inl ⟨e, rfl, rfl⟩
  | ok before =>
    cases readGlobs back with
    | error e => exact Or.inl ⟨e, rfl, rfl⟩
    | ok after => exact Or.inr ⟨before, after, rfl, rfl⟩

/-- A folder can be excluded by its path or by its path with `/**` behind it, whatever the other
patterns are: the two runs leave the same disk and come to the same result, be it a summary or the
first failure, and neither comes to a file in the folder, at any depth. -/
theorem runPath_excludeFolder (mode : Mode) {settings : Settings} (front back : List Text)
    {disk : Disk} {root : Text} {home folder : Location} {entries below : Entries}
    (hpath : settings.pathMode = .folder) (hplain : disk.top.Plain)
    (hroot : disk.resolve true root = .ok (home, .folder entries))
    (hfolder : disk.top.at? (home ++ folder) = some (.folder below)) (hne : folder ≠ [])
    (hliteral : (Text.joinWith ['/'] folder).IsLiteral) :
    let whole := front ++ Text.joinWith ['/'] folder :: back
    let contents := front ++ (Text.joinWith ['/'] folder ++ "/**") :: back
    let run excludes := runPath mode { settings with excludes } disk root
    (run whole).disk = (run contents).disk ∧ (run whole).result = (run contents).result ∧
      (∀ rest, (run whole).disk.contentAt? (home ++ folder ++ rest) =
        disk.contentAt? (home ++ folder ++ rest)) ∧
      ∀ excludes ∈ [whole, contents], ∀ globs, readGlobs excludes = .ok globs →
        ∀ rest, home ++ folder ++ rest ∉ (disk.walk globs root).filterMap disk.fileAt? := by
  intro whole contents run
  have hspelling := passesOver_spelling hplain hfolder hne
  have hbelow := passesOver_below hplain hfolder hne
  rcases readGlobs_insert_cases (ofPattern_literal hliteral) (ofPattern_below hliteral) front back
    with ⟨e, hwhole, hcontents⟩ | ⟨before, after, hwhole, hcontents⟩
  · obtain ⟨hdisk, hresult⟩ :=
      runPath_of_globError { settings with excludes := whole } hwhole mode disk root
    obtain ⟨hdisk', hresult'⟩ :=
      runPath_of_globError { settings with excludes := contents } hcontents mode disk root
    refine ⟨hdisk.trans hdisk'.symm, hresult.trans hresult'.symm, ?_, ?_⟩
    · intro rest
      rw [show (run whole).disk = disk from hdisk]
    · intro excludes hexcludes globs hglobs
      rcases List.mem_pair.1 hexcludes with rfl | rfl
      · rw [hwhole] at hglobs
        cases hglobs
      · rw [hcontents] at hglobs
        cases hglobs
  · obtain ⟨hdisk, hresult⟩ := runPath_withExcludes mode hpath hwhole disk root
    obtain ⟨hdisk', hresult'⟩ := runPath_withExcludes mode hpath hcontents disk root
    obtain ⟨hsameDisk, hsameResult⟩ :=
      runFolder_of_passesOver hplain hroot hspelling mode settings hbelow
    refine ⟨hdisk.trans (hsameDisk.trans hdisk'.symm),
      hresult.trans (hsameResult.trans hresult'.symm), ?_, ?_⟩
    · intro rest
      rw [show (run whole).disk = _ from hdisk]
      exact contentAt?_runFolder_of_passesOver hplain hroot hspelling mode settings rest
    · intro excludes hexcludes globs hglobs rest
      rcases List.mem_pair.1 hexcludes with rfl | rfl
      · obtain rfl := Except.ok.inj (hwhole.symm.trans hglobs)
        exact notMem_files_of_passesOver hplain hroot hspelling rest
      · obtain rfl := Except.ok.inj (hcontents.symm.trans hglobs)
        exact notMem_files_of_passesOver hplain hroot hbelow rest

/-- A generated file keeps its bytes either way, and the two runs agree. -/
theorem runPath_excludeFolder_generatedFiles :
    let disk := generatedFiles (Text.encode getNodeDataChange.old)
    let run excludes :=
      runPath .getNodeData ⟨.folder, "cs", excludes, .abort, false⟩ disk ['n']
    (run ["*.txt", "Gen"]).disk = (run ["*.txt", "Gen/**"]).disk ∧
      (run ["*.txt", "Gen"]).result = (run ["*.txt", "Gen/**"]).result ∧
      (run ["*.txt", "Gen"]).disk.contentAt? [['n'], "Gen", "A.cs"] =
        some (Text.encode getNodeDataChange.old) := by
  have hplain := plain_generatedFiles (Text.encode getNodeDataChange.old)
  have hroot : (generatedFiles (Text.encode getNodeDataChange.old)).resolve true ['n'] =
      .ok ([['n']], .folder [("Gen", .folder [("A.cs", .file (Text.encode getNodeDataChange.old))]),
        ("Gen.cs", .file (Text.encode getNodeDataChange.old))]) := rfl
  have hliteral : (Text.joinWith ['/'] ["Gen".toList]).IsLiteral := by
    simp [Text.joinWith, Text.IsLiteral, globSpecials]
  obtain ⟨hdisk, hresult, hkept, -⟩ := @runPath_excludeFolder .getNodeData
    ⟨.folder, "cs", [], .abort, false⟩ ["*.txt"] [] _ _ _ ["Gen"] _ _ rfl hplain hroot rfl
    (by simp) hliteral
  exact ⟨hdisk, hresult, (hkept ["A.cs"]).trans rfl⟩

end NodeKit.Refactoring
