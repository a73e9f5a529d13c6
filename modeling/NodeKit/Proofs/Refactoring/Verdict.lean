import NodeKit.Proofs.Refactoring.FolderRun

/-!
# What a run comes to

The result of a run can be read off the disk that it starts from. Every visit has a
verdict there, and what a run has written never changes the verdict on a later visit,
as no walk comes to a file twice. All that is left is to add the verdicts up, until
the policy ends the run. So two runs that differ in their policy add up the same
verdicts, and whether a run writes is of no account for what it reports.
-/
namespace NodeKit.Refactoring

/-- Why the mode makes nothing of the bytes of a file, if it does not: they are no text, or it
fails on the text. -/
def Mode.refusal? (mode : Mode) (content : ByteArray) : Option Error :=
  match Text.decode? content with
  | none => some (.read .notUtf8)
  | some t =>
    match mode.apply t with
    | .error e => some e
    | .ok _ => none

/-- What a visit comes to, as the disk stands: nothing to count, an operation, or a failure. -/
def verdict (mode : Mode) (extension : Text) (disk : Disk) :
    Visit → Except Error (Option Operation)
  | .folder _ | .excluded _ => .ok none
  | .unreadable path fault => .error (.walk path fault)
  | .file path =>
    if Path.hasExtension path extension then
      ((plan mode disk path).map some).mapError fun e => .fileFailed path e.message
    else .ok (some (.skip path))

/-- What verdicts add up to, counting on from a summary. A failure ends the count or is counted,
as the policy says. -/
def tally (policy : FailurePolicy) (summary : Summary) :
    List (Except Error (Option Operation)) → Except Error Summary
  | [] => .ok summary
  | .ok operation :: rest => tally policy ((operation.map summary.record).getD summary) rest
  | .error e :: rest =>
    match policy with
    | .abort => .error e
    | .proceed => tally policy summary.recordFailure rest

/-- What a summary counts. -/
inductive Fate where
  | changed
  | unchanged
  | skipped
  | failed
deriving DecidableEq

/-- Which count a verdict goes to, if it is counted. -/
def fate? : Except Error (Option Operation) → Option Fate
  | .ok none => none
  | .ok (some (.change _ _)) => some .changed
  | .ok (some (.unchanged _)) => some .unchanged
  | .ok (some (.skip _)) => some .skipped
  | .error _ => some .failed

/-- How many of the verdicts go to a count. -/
def countOf (fate : Fate) (verdicts : List (Except Error (Option Operation))) : Nat :=
  verdicts.countP fun v => fate? v = some fate

variable {mode : Mode} {settings : Settings} {extension : Text} {disk other : Disk}
  {location : Location} {path : Text} {content : ByteArray}

/-! ## Adding up verdicts -/

lemma countOf_cons (fate : Fate) (v : Except Error (Option Operation))
    (rest : List (Except Error (Option Operation))) :
    countOf fate (v :: rest) = countOf fate rest + if fate? v = some fate then 1 else 0 := by
  simp [countOf, List.countP_cons]

/-- A tally that goes on after failures counts every verdict under its fate. -/
lemma tally_proceed (summary : Summary) (verdicts : List (Except Error (Option Operation))) :
    tally .proceed summary verdicts = .ok
      ⟨summary.changed + countOf .changed verdicts,
        summary.unchanged + countOf .unchanged verdicts,
        summary.skipped + countOf .skipped verdicts,
        summary.failed + countOf .failed verdicts⟩ := by
  induction verdicts generalizing summary with
  | nil => rfl
  | cons v rest ih =>
    simp only [countOf_cons]
    cases v with
    | error e => simp [tally, ih, fate?, Summary.recordFailure, Nat.add_assoc, Nat.add_comm 1]
    | ok operation =>
      cases operation with
      | none => simp [tally, ih, fate?]
      | some operation =>
        cases operation <;>
          simp [tally, ih, fate?, Summary.record, Nat.add_assoc, Nat.add_comm 1]

lemma countOf_failed_eq_zero {verdicts : List (Except Error (Option Operation))} :
    countOf .failed verdicts = 0 ↔ ∀ v ∈ verdicts, ∃ operation, v = .ok operation := by
  rw [countOf, List.countP_eq_zero]
  refine forall₂_congr fun v _ => ?_
  cases v with
  | error e => simp [fate?]
  | ok operation =>
    cases operation with
    | none => simp [fate?]
    | some operation => cases operation <;> simp [fate?]

/-- Up to a first failure the policy decides nothing. -/
lemma tally_abort_of_ok (summary : Summary) {verdicts : List (Except Error (Option Operation))}
    (hok : ∀ v ∈ verdicts, ∃ operation, v = .ok operation) :
    tally .abort summary verdicts = tally .proceed summary verdicts := by
  induction verdicts generalizing summary with
  | nil => rfl
  | cons v rest ih =>
    obtain ⟨operation, rfl⟩ := hok v List.mem_cons_self
    exact ih _ fun v hv => hok v (List.mem_cons_of_mem _ hv)

lemma tally_abort_append (summary : Summary) {before : List (Except Error (Option Operation))}
    (hok : ∀ v ∈ before, ∃ operation, v = .ok operation) (e : Error)
    (after : List (Except Error (Option Operation))) :
    tally .abort summary (before ++ .error e :: after) = .error e := by
  induction before generalizing summary with
  | nil => rfl
  | cons v rest ih =>
    obtain ⟨operation, rfl⟩ := hok v List.mem_cons_self
    exact ih _ fun v hv => hok v (List.mem_cons_of_mem _ hv)

/-! ## Planning -/

lemma plan_of_refusal? {e : Error}
    (hresolve : disk.resolve true path = .ok (location, .file content))
    (h : mode.refusal? content = some e) : plan mode disk path = .error e := by
  unfold Mode.refusal? at h
  cases hdecode : Text.decode? content with
  | none => simp_all [plan, Disk.readText, Disk.readBytes]
  | some t => cases happly : mode.apply t <;> simp_all [plan, Disk.readText, Disk.readBytes]

/-- The mode makes other bytes of a file exactly when it makes another text of its text. -/
lemma Mode.rewrite_eq_self_iff {t new : Text} (hdecode : Text.decode? content = some t)
    (happly : mode.apply t = .ok new) : mode.rewrite content = content ↔ new = t := by
  have hrewrite : mode.rewrite content = Text.encode new := by
    simp [Mode.rewrite, hdecode, happly]
  rw [hrewrite]
  constructor
  · intro h
    rw [← h, Text.decode?_encode] at hdecode
    exact Option.some.inj hdecode
  · rintro rfl
    exact Text.encode_of_decode? hdecode

/-- A file that the mode does not fail on is changed when the mode makes other bytes of it. -/
lemma plan_of_accepted (hresolve : disk.resolve true path = .ok (location, .file content))
    (h : mode.refusal? content = none) :
    (mode.rewrite content = content ∧ plan mode disk path = .ok (.unchanged path)) ∨
      (mode.rewrite content ≠ content ∧ ∃ new, plan mode disk path = .ok (.change path new)) := by
  unfold Mode.refusal? at h
  cases hdecode : Text.decode? content with
  | none => simp [hdecode] at h
  | some t =>
    cases happly : mode.apply t with
    | error e => simp [hdecode, happly] at h
    | ok new =>
      by_cases hsame : new = t <;>
        simp [Mode.rewrite_eq_self_iff hdecode happly, plan, Disk.readText, Disk.readBytes,
          hresolve, hdecode, happly, hsame]

lemma exists_file_of_plan {operation : Operation} (h : plan mode disk path = .ok operation) :
    ∃ location content, disk.resolve true path = .ok (location, .file content) ∧
      mode.refusal? content = none := by
  cases hresolve : disk.resolve true path with
  | error fault => simp [plan, Disk.readText, Disk.readBytes, hresolve] at h
  | ok found =>
    obtain ⟨location, node⟩ := found
    cases node with
    | folder entries => simp [plan, Disk.readText, Disk.readBytes, hresolve] at h
    | link target => simp [plan, Disk.readText, Disk.readBytes, hresolve] at h
    | file content =>
      refine ⟨location, content, rfl, ?_⟩
      cases hrefusal : mode.refusal? content with
      | none => rfl
      | some e => simp [plan_of_refusal? hresolve hrefusal] at h

/-- What is planned can be carried out, so that a file comes to what is planned for it. -/
lemma refactorFile_result (mode : Mode) (dryRun : Bool) (disk : Disk) (path : Text) :
    (refactorFile mode dryRun disk path).result = plan mode disk path := by
  cases hplan : plan mode disk path with
  | error e => simp [refactorFile, hplan]
  | ok operation =>
    obtain ⟨location, content, hresolve, haccepted⟩ := exists_file_of_plan hplan
    have hperform : ∃ left, operation.perform dryRun disk = .ok left := by
      rcases plan_of_accepted hresolve haccepted with ⟨-, hsame⟩ | ⟨-, new, hnew⟩
      · obtain rfl := Except.ok.inj (hplan.symm.trans hsame)
        exact ⟨disk, rfl⟩
      · obtain rfl := Except.ok.inj (hplan.symm.trans hnew)
        cases dryRun with
        | true => exact ⟨disk, rfl⟩
        | false => simp [Operation.perform, Disk.writeText, hresolve, Except.mapError]
    obtain ⟨left, hleft⟩ := hperform
    simp [refactorFile, hplan, hleft]

lemma runVisit_result (mode : Mode) (settings : Settings) (disk : Disk) (visit : Visit) :
    (runVisit mode settings disk visit).result = verdict mode settings.extension disk visit := by
  cases visit with
  | folder path => rfl
  | excluded path => rfl
  | unreadable path fault => rfl
  | file path =>
    by_cases hextension : Path.hasExtension path settings.extension
    · simp [runVisit, verdict, hextension, refactorFile_result]
    · simp [runVisit, verdict, hextension]

/-! ## The verdict on a file -/

lemma verdict_of_skipped (mode : Mode) (disk : Disk)
    (h : Path.hasExtension path extension = false) :
    verdict mode extension disk (.file path) = .ok (some (.skip path)) := by
  simp [verdict, h]

lemma verdict_of_refusal? {e : Error} (hextension : Path.hasExtension path extension = true)
    (hresolve : disk.resolve true path = .ok (location, .file content))
    (h : mode.refusal? content = some e) :
    verdict mode extension disk (.file path) = .error (.fileFailed path e.message) := by
  simp [verdict, hextension, plan_of_refusal? hresolve h, Except.map, Except.mapError]

lemma verdict_of_accepted (hextension : Path.hasExtension path extension = true)
    (hresolve : disk.resolve true path = .ok (location, .file content))
    (h : mode.refusal? content = none) :
    (mode.rewrite content = content ∧
        verdict mode extension disk (.file path) = .ok (some (.unchanged path))) ∨
      (mode.rewrite content ≠ content ∧
        ∃ new, verdict mode extension disk (.file path) = .ok (some (.change path new))) := by
  rcases plan_of_accepted hresolve h with ⟨hsame, hplan⟩ | ⟨hother, new, hplan⟩
  · exact Or.inl ⟨hsame, by simp [verdict, hextension, hplan, Except.map, Except.mapError]⟩
  · exact Or.inr ⟨hother, new, by simp [verdict, hextension, hplan, Except.map, Except.mapError]⟩

/-! ## One visit leaves the other verdicts as they are -/

lemma verdict_of_sameShape (hplain : disk.top.Plain) (hother : other.top.Plain)
    (hsame : disk.SameShape other) {visit : Visit}
    (hcontent : ∀ location, target? extension disk visit = some location →
      other.contentAt? location = disk.contentAt? location) :
    verdict mode extension other visit = verdict mode extension disk visit := by
  cases visit with
  | folder path => rfl
  | excluded path => rfl
  | unreadable path fault => rfl
  | file path =>
    by_cases hextension : Path.hasExtension path extension
    · have hread : other.readBytes path = disk.readBytes path := by
        apply Disk.readBytes_of_sameShape hplain hother hsame
        intro location content hresolve
        rw [hcontent location (target?_eq_some.2 ⟨path, content, rfl, hextension, hresolve⟩),
          Disk.contentAt?_eq_some]
        exact ((Disk.resolve_eq_ok hplain).1 hresolve).2.2
      simp [verdict, plan, Disk.readText, hread]
    · simp [verdict, hextension]

lemma refactorFile_disk_of_dryRun (mode : Mode) (disk : Disk) (path : Text) :
    (refactorFile mode true disk path).disk = disk := by
  have hperform (operation : Operation) : operation.perform true disk = .ok disk := by
    cases operation <;> rfl
  cases hplan : plan mode disk path <;> simp [refactorFile, hplan, hperform]

lemma runVisit_disk_of_dryRun (mode : Mode) (hdry : settings.dryRun = true) (disk : Disk)
    (visit : Visit) : (runVisit mode settings disk visit).disk = disk := by
  cases visit with
  | folder path => rfl
  | excluded path => rfl
  | unreadable path fault => rfl
  | file path =>
    by_cases hextension : Path.hasExtension path settings.extension
    · simpa [runVisit, hextension, hdry] using refactorFile_disk_of_dryRun mode disk path
    · simp [runVisit, hextension]

/-- A visit overwrites the file that it has the mode applied to, if any file at all. -/
lemma runVisit_keeps (mode : Mode) (settings : Settings) (hplain : disk.top.Plain)
    (visit : Visit) :
    let left := (runVisit mode settings disk visit).disk
    left.top.Plain ∧ disk.SameShape left ∧
      ∀ location, target? settings.extension disk visit ≠ some location →
        left.contentAt? location = disk.contentAt? location := by
  cases hdry : settings.dryRun with
  | true =>
    rw [runVisit_disk_of_dryRun mode hdry]
    exact ⟨hplain, .refl disk, fun _ _ => rfl⟩
  | false =>
    rw [runVisit_disk hplain hdry]
    cases htarget : target? settings.extension disk visit with
    | none => exact ⟨hplain, .refl disk, fun _ _ => rfl⟩
    | some reached =>
      refine ⟨plain_rewriteAt hplain, sameShape_rewriteAt, ?_⟩
      intro location hne
      have hne' : location ≠ reached := by
        rintro rfl
        exact hne rfl
      exact (contentAt?_rewriteAt location).trans (if_neg hne')

lemma walk_runVisit (mode : Mode) (settings : Settings) (globs : List Glob)
    (hplain : disk.top.Plain) {root : Text} {home : Location} {entries : Entries}
    (hroot : disk.resolve true root = .ok (home, .folder entries)) (visit : Visit) :
    (runVisit mode settings disk visit).disk.walk globs root = disk.walk globs root := by
  cases hdry : settings.dryRun with
  | true => rw [runVisit_disk_of_dryRun mode hdry]
  | false =>
    rw [runVisit_disk hplain hdry]
    cases htarget : target? settings.extension disk visit with
    | none => rfl
    | some location => exact walk_rewriteAt hplain hroot

/-- The run of a visit leaves the verdicts on all visits that have the mode applied to other
files. -/
lemma verdict_runVisit (hplain : disk.top.Plain) {visit later : Visit}
    (hapart : ∀ location, target? settings.extension disk later = some location →
      target? settings.extension disk visit ≠ some location) :
    verdict mode settings.extension (runVisit mode settings disk visit).disk later =
      verdict mode settings.extension disk later := by
  obtain ⟨hplain', hsame, hcontent⟩ := runVisit_keeps mode settings hplain visit
  exact verdict_of_sameShape hplain hplain' hsame fun location hlater =>
    hcontent location (hapart location hlater)

/-! ## The whole run -/

/-- Behind the first of some visits that come to no file twice, all verdicts stand as they were,
and the later visits come to no file twice on the disk that it leaves. -/
lemma verdict_rest (mode : Mode) (hplain : disk.top.Plain) {visit : Visit} {rest : List Visit}
    (hnodup : ((visit :: rest).filterMap (target? settings.extension disk)).Nodup) :
    (∀ later ∈ rest,
        verdict mode settings.extension (runVisit mode settings disk visit).disk later =
          verdict mode settings.extension disk later) ∧
      (rest.filterMap
        (target? settings.extension (runVisit mode settings disk visit).disk)).Nodup := by
  obtain ⟨hplain', hsame, -⟩ := runVisit_keeps mode settings hplain visit
  have htargets : target? settings.extension (runVisit mode settings disk visit).disk =
      target? settings.extension disk := funext (target?_of_sameShape hplain hplain' hsame)
  rw [htargets]
  cases htarget : target? settings.extension disk visit with
  | none =>
    rw [List.filterMap_cons_none htarget] at hnodup
    refine ⟨?_, hnodup⟩
    intro later _
    apply verdict_runVisit hplain
    simp [htarget]
  | some location =>
    rw [List.filterMap_cons_some htarget, List.nodup_cons] at hnodup
    obtain ⟨hfresh, hrest⟩ := hnodup
    refine ⟨?_, hrest⟩
    intro later hlater
    apply verdict_runVisit hplain
    rintro other hother hsame'
    obtain rfl : location = other := Option.some.inj (htarget.symm.trans hsame')
    exact hfresh (List.mem_filterMap.2 ⟨later, hlater, hother⟩)

/-- At any stage of a run, a walk from a folder meets what it met at the start. So it is the same
whether folders are listed before anything is written or only when the walk comes to them. -/
theorem walk_runVisits (mode : Mode) (settings : Settings) (globs : List Glob)
    (hplain : disk.top.Plain) {root : Text} {home : Location} {entries : Entries}
    (hroot : disk.resolve true root = .ok (home, .folder entries)) (summary : Summary)
    (visits : List Visit) :
    (runVisits mode settings disk summary visits).disk.walk globs root = disk.walk globs root := by
  induction visits generalizing disk entries summary with
  | nil => rfl
  | cons visit rest ih =>
    obtain ⟨hplain', hsame, -⟩ := runVisit_keeps mode settings hplain visit
    obtain ⟨_, hroot'⟩ := Disk.resolve_folder_of_sameShape hplain hplain' hsame hroot
    have hvisit := walk_runVisit mode settings globs hplain hroot visit
    have hrest (counted : Summary) := (ih hplain' hroot' counted).trans hvisit
    rw [runVisits]
    cases (runVisit mode settings disk visit).result with
    | ok operation => exact hrest _
    | error e =>
      cases settings.failurePolicy with
      | abort => exact hvisit
      | proceed => exact hrest _

/-- A run comes to what the verdicts on the disk that it starts from add up to. -/
theorem runVisits_result (mode : Mode) (settings : Settings) (hplain : disk.top.Plain)
    (summary : Summary) {visits : List Visit}
    (hnodup : (visits.filterMap (target? settings.extension disk)).Nodup) :
    (runVisits mode settings disk summary visits).result =
      tally settings.failurePolicy summary
        (visits.map (verdict mode settings.extension disk)) := by
  induction visits generalizing disk summary with
  | nil => rfl
  | cons visit rest ih =>
    obtain ⟨hverdicts, hnodup'⟩ := verdict_rest mode hplain hnodup
    obtain ⟨hplain', -, -⟩ := runVisit_keeps mode settings hplain visit
    have hrest (counted : Summary) := ih hplain' counted hnodup'
    rw [List.map_congr_left hverdicts] at hrest
    rw [runVisits, List.map_cons, runVisit_result]
    cases verdict mode settings.extension disk visit with
    | ok operation => exact hrest _
    | error e =>
      cases hpolicy : settings.failurePolicy with
      | abort => rfl
      | proceed =>
        rw [hpolicy] at hrest
        exact hrest _

theorem runFolder_result (mode : Mode) (settings : Settings) (globs : List Glob)
    (hplain : disk.top.Plain) (root : Text) :
    (runFolder mode settings globs disk root).result =
      tally settings.failurePolicy Summary.empty
        ((disk.walk globs root).map (verdict mode settings.extension disk)) :=
  runVisits_result mode settings hplain Summary.empty (nodup_targets hplain globs root)

/-- A run that goes on after failures counts every verdict under its fate. -/
lemma runFolder_result_of_proceed (mode : Mode) (settings : Settings)
    (hproceed : settings.failurePolicy = .proceed) (globs : List Glob) (hplain : disk.top.Plain)
    (root : Text) :
    let verdicts := (disk.walk globs root).map (verdict mode settings.extension disk)
    (runFolder mode settings globs disk root).result =
      .ok ⟨countOf .changed verdicts, countOf .unchanged verdicts, countOf .skipped verdicts,
        countOf .failed verdicts⟩ := by
  rw [runFolder_result mode settings globs hplain, hproceed, tally_proceed]
  simp [Summary.empty]

lemma runFolder_disk_of_proceed (mode : Mode) (settings : Settings)
    (hproceed : settings.failurePolicy = .proceed) (hdry : settings.dryRun = false)
    (hplain : disk.top.Plain) (globs : List Glob) (root : Text) :
    (runFolder mode settings globs disk root).disk =
      ((disk.walk globs root).filterMap (target? settings.extension disk)).foldl
        (rewriteAt mode) disk := by
  rw [← foldl_runVisit hdry hplain]
  exact (runVisits_of_proceed mode hproceed disk Summary.empty _).2

/-! ## A folder with a file for every fate -/

/-- The entries of a folder of which, when the first change of a signature is asked for, two files
are changed, one is no text, one stays as it is and one is no candidate. -/
def fiveEntries : Entries :=
  [("A.cs", .file (Text.encode getNodeDataChange.old)), ("B.cs", .file ⟨#[0xFF]⟩),
    ("C.cs", .file (Text.encode getNodeDataChange.old)), ("D.cs", .file (Text.encode [])),
    ("E.txt", .file (Text.encode getNodeDataChange.old))]

def fiveFiles : Disk where
  top := .folder [(['n'], .folder fiveEntries)]
  current := []

lemma plain_fiveFiles : fiveFiles.top.Plain := by
  have hnames : ∀ name ∈ fiveEntries.map Prod.fst, Path.IsName name := by decide
  have hfolder : (Node.folder fiveEntries).Plain := by
    refine .folder (by decide) ?_ ?_
    · intro entry hentry
      exact hnames _ (List.mem_map_of_mem hentry)
    · simp [fiveEntries, Node.Plain.file]
  have hname : Path.IsName ['n'] := by decide
  exact .folder (by simp) (by simpa using hname) (by simpa using hfolder)

lemma walk_fiveFiles :
    fiveFiles.walk [] ['n'] =
      [.folder ['n'], .file "n/A.cs", .file "n/B.cs", .file "n/C.cs", .file "n/D.cs",
        .file "n/E.txt"] := by
  have hroot : fiveFiles.resolve true ['n'] = .ok ([['n']], .folder fiveEntries) := rfl
  rw [Disk.walk_eq_of_resolve plain_fiveFiles hroot]
  simp [fiveEntries, walkEntries_cons, visitsOf, excludes, Visit.ofNode, Node.entries?, Path.join]

lemma verdicts_fiveFiles :
    (fiveFiles.walk [] ['n']).map (verdict .getNodeData "cs" fiveFiles) =
      [.ok none, .ok (some (.change "n/A.cs" getNodeDataChange.new)),
        .error (.fileFailed "n/B.cs" (Error.read .notUtf8).message),
        .ok (some (.change "n/C.cs" getNodeDataChange.new)), .ok (some (.unchanged "n/D.cs")),
        .ok (some (.skip "n/E.txt"))] := by
  rw [walk_fiveFiles]
  decide +kernel

end NodeKit.Refactoring
