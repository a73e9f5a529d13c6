import NodeKit.Proofs.Refactoring.Verdict

/-!
# Stopping at the first failure

A run that stops at its first failure is a run to the end, cut short. Up to the visit
that fails both deal with the same visits in the same way, and from there on nothing
is written any more. Without a failing visit the two are one.
-/
namespace NodeKit.Refactoring

variable {mode : Mode} {settings : Settings} {globs : List Glob} {extension : Text}
  {disk : Disk} {location : Location}

/-- Whether the mode is applied to the file of a visit and fails on it, for the given cause. -/
def Fails (mode : Mode) (extension : Text) (disk : Disk) (visit : Visit) (cause : Error) : Prop :=
  ∃ location content, target? extension disk visit = some location ∧
    disk.contentAt? location = some content ∧ mode.refusal? content = some cause

/-- How a run that stops at its first failure ends, beside a run to the end: where it stops, and
what each file is left as. -/
structure StopsAt (mode : Mode) (extension : Text) (disk : Disk) (before : List Visit)
    (path : Text) (after : List Visit) (cause : Error) (stopped complete : Disk) : Prop where
  /-- The file that the run stops at is one that fails. -/
  fails : Fails mode extension disk (.file path) cause
  /-- No visit in front of it fails. -/
  first : ∀ visit ∈ before, ∀ cause, ¬ Fails mode extension disk visit cause
  /-- Nothing is created or removed. -/
  sameShape : disk.SameShape stopped
  /-- A file in front of it is left as a run to the end leaves it. -/
  walked : ∀ visit ∈ before, ∀ location, disk.fileAt? visit = some location →
    stopped.contentAt? location = complete.contentAt? location
  /-- That file and all behind it keep their bytes. -/
  unwalked : ∀ visit ∈ .file path :: after, ∀ location, disk.fileAt? visit = some location →
    stopped.contentAt? location = disk.contentAt? location
  /-- So does every file that the walk does not come to. -/
  outside : ∀ location, location ∉ (before ++ .file path :: after).filterMap disk.fileAt? →
    stopped.contentAt? location = disk.contentAt? location

/-! ## Failing visits -/

section

variable (hplain : disk.top.Plain)
include hplain

lemma verdict_of_fails {visit : Visit} {cause : Error}
    (h : Fails mode extension disk visit cause) :
    ∃ e, verdict mode extension disk visit = .error e := by
  obtain ⟨location, content, htarget, hcontent, hrefusal⟩ := h
  obtain ⟨path, content', rfl, hextension, hresolve⟩ := target?_eq_some.1 htarget
  have hnode := ((Disk.resolve_eq_ok hplain).1 hresolve).2.2
  obtain rfl : content' = content :=
    Option.some.inj ((Disk.contentAt?_eq_some.2 hnode).symm.trans hcontent)
  exact ⟨_, verdict_of_refusal? hextension hresolve hrefusal⟩

/-- On a walk from something that is there only files fail, and they fail for what the mode makes
of their bytes. -/
lemma fails_of_verdict {root : Text} {found : Location × Node}
    (hroot : disk.resolve true root = .ok found) {visit : Visit}
    (hvisit : visit ∈ disk.walk globs root) {e : Error}
    (h : verdict mode extension disk visit = .error e) :
    ∃ path cause, visit = .file path ∧ Fails mode extension disk visit cause ∧
      e = .fileFailed path cause.message := by
  cases visit with
  | folder path => cases h
  | excluded path => cases h
  | unreadable path fault => exact absurd hvisit (Disk.unreadable_notMem_walk hplain hroot _ _)
  | file path =>
    obtain ⟨location, content, hresolve⟩ := Disk.exists_fileAt? hplain hvisit
    have hnode := ((Disk.resolve_eq_ok hplain).1 hresolve).2.2
    cases hextension : Path.hasExtension path extension with
    | false => simp [verdict_of_skipped mode disk hextension] at h
    | true =>
      cases hrefusal : mode.refusal? content with
      | none =>
        rcases verdict_of_accepted hextension hresolve hrefusal with
          ⟨-, haccepted⟩ | ⟨-, new, haccepted⟩ <;> simp [haccepted] at h
      | some cause =>
        have hfailed := verdict_of_refusal? hextension hresolve hrefusal
        exact ⟨path, cause, rfl,
          ⟨location, content, target?_eq_some.2 ⟨path, content, rfl, hextension, hresolve⟩,
            Disk.contentAt?_eq_some.2 hnode, hrefusal⟩,
          Except.error.inj (h.symm.trans hfailed)⟩

end

/-- A visit that fails leaves the disk as it is. -/
lemma runVisit_disk_of_error {visit : Visit} {e : Error}
    (h : verdict mode settings.extension disk visit = .error e) :
    (runVisit mode settings disk visit).disk = disk := by
  cases visit with
  | folder path => rfl
  | excluded path => rfl
  | unreadable path fault => rfl
  | file path =>
    by_cases hextension : Path.hasExtension path settings.extension
    · cases hplan : plan mode disk path with
      | error cause => simp [runVisit, hextension, refactorFile, hplan]
      | ok operation => simp [verdict, hextension, hplan, Except.map, Except.mapError] at h
    · simp [runVisit, hextension]

/-- A run that stops at its first failure does to the disk what the visits in front of it do. -/
lemma runVisits_disk_of_abort (mode : Mode) (habort : settings.failurePolicy = .abort)
    (hplain : disk.top.Plain) (summary : Summary) {before after : List Visit}
    (hnodup : ((before ++ after).filterMap (target? settings.extension disk)).Nodup)
    (hok : ∀ visit ∈ before,
      ∃ operation, verdict mode settings.extension disk visit = .ok operation)
    (hstop : ∀ visit ∈ after.head?, ∃ e, verdict mode settings.extension disk visit = .error e) :
    (runVisits mode settings disk summary (before ++ after)).disk =
      before.foldl (fun left visit => (runVisit mode settings left visit).disk) disk := by
  induction before generalizing disk summary with
  | nil =>
    cases after with
    | nil => rfl
    | cons failing after =>
      obtain ⟨e, hfailing⟩ := hstop failing rfl
      simp [runVisits, runVisit_result, hfailing, habort, runVisit_disk_of_error hfailing]
  | cons visit rest ih =>
    obtain ⟨hverdicts, hnodup'⟩ := verdict_rest mode hplain hnodup
    obtain ⟨hplain', -, -⟩ := runVisit_keeps mode settings hplain visit
    obtain ⟨operation, hvisit⟩ := hok visit List.mem_cons_self
    have hrest (counted : Summary) := by
      refine ih hplain' counted hnodup' ?_ ?_
      · intro later hlater
        rw [hverdicts later (List.mem_append_left _ hlater)]
        exact hok later (List.mem_cons_of_mem _ hlater)
      · intro later hlater
        rw [hverdicts later (List.mem_append_right _ (List.mem_of_mem_head? hlater))]
        exact hstop later hlater
    simpa [runVisits, runVisit_result, hvisit] using hrest _

/-! ## Two runs over one folder -/

lemma runFolder_disk_of_abort (mode : Mode) (settings : Settings)
    (habort : settings.failurePolicy = .abort) (hdry : settings.dryRun = false)
    (hplain : disk.top.Plain) {root : Text} {before after : List Visit}
    (hwalk : disk.walk globs root = before ++ after)
    (hok : ∀ visit ∈ before,
      ∃ operation, verdict mode settings.extension disk visit = .ok operation)
    (hstop : ∀ visit ∈ after.head?, ∃ e, verdict mode settings.extension disk visit = .error e) :
    (runFolder mode settings globs disk root).disk =
      (before.filterMap (target? settings.extension disk)).foldl (rewriteAt mode) disk := by
  have hnodup : ((disk.walk globs root).filterMap (target? settings.extension disk)).Nodup :=
    nodup_targets hplain globs root
  rw [hwalk] at hnodup
  rw [← foldl_runVisit hdry hplain, runFolder, hwalk]
  exact runVisits_disk_of_abort mode habort hplain Summary.empty hnodup hok hstop

/-- Without a failing visit the policy decides nothing. -/
lemma runFolder_abort_of_ok (mode : Mode) (settings : Settings) (hdry : settings.dryRun = false)
    (hplain : disk.top.Plain) {root : Text}
    (hok : ∀ visit ∈ disk.walk globs root,
      ∃ operation, verdict mode settings.extension disk visit = .ok operation) :
    let aborting := runFolder mode { settings with failurePolicy := .abort } globs disk root
    let proceeding := runFolder mode { settings with failurePolicy := .proceed } globs disk root
    aborting.result = proceeding.result ∧ aborting.disk = proceeding.disk := by
  intro aborting proceeding
  constructor
  · have hverdicts : ∀ v ∈ (disk.walk globs root).map (verdict mode settings.extension disk),
        ∃ operation, v = .ok operation := by simpa using hok
    calc aborting.result
        = tally .abort Summary.empty
            ((disk.walk globs root).map (verdict mode settings.extension disk)) :=
          runFolder_result mode _ globs hplain root
      _ = tally .proceed Summary.empty
            ((disk.walk globs root).map (verdict mode settings.extension disk)) :=
          tally_abort_of_ok Summary.empty hverdicts
      _ = proceeding.result :=
          (runFolder_result mode { settings with failurePolicy := .proceed } globs hplain root).symm
  · calc aborting.disk
        = ((disk.walk globs root).filterMap (target? settings.extension disk)).foldl
            (rewriteAt mode) disk :=
          runFolder_disk_of_abort mode { settings with failurePolicy := .abort } rfl hdry hplain
            (List.append_nil _).symm hok (by simp)
      _ = proceeding.disk :=
          (runFolder_disk_of_proceed mode { settings with failurePolicy := .proceed } rfl hdry
            hplain globs root).symm

lemma mem_files_of_mem_targets {visits : List Visit}
    (h : location ∈ visits.filterMap (target? extension disk)) :
    location ∈ visits.filterMap disk.fileAt? := by
  obtain ⟨visit, hvisit, htarget⟩ := List.mem_filterMap.1 h
  exact List.mem_filterMap.2 ⟨visit, hvisit, (target?_eq_some_iff.1 htarget).1⟩

lemma all_ok_or_first_error (verdictOf : Visit → Except Error (Option Operation))
    (visits : List Visit) :
    (∀ visit ∈ visits, ∃ operation, verdictOf visit = .ok operation) ∨
      ∃ before failing after e, visits = before ++ failing :: after ∧
        (∀ visit ∈ before, ∃ operation, verdictOf visit = .ok operation) ∧
        verdictOf failing = .error e := by
  induction visits with
  | nil => exact Or.inl (by simp)
  | cons visit rest ih =>
    cases hvisit : verdictOf visit with
    | error e => exact Or.inr ⟨[], visit, rest, e, rfl, by simp, hvisit⟩
    | ok operation =>
      have hfirst : ∃ operation, verdictOf visit = .ok operation := ⟨operation, hvisit⟩
      rcases ih with hall | ⟨before, failing, after, e, rfl, hok, hfailing⟩
      · exact Or.inl (List.forall_mem_cons.2 ⟨hfirst, hall⟩)
      · exact Or.inr ⟨visit :: before, failing, after, e, rfl,
          List.forall_mem_cons.2 ⟨hfirst, hok⟩, hfailing⟩

/-- Having the mode applied to the files in front of a failing one, beside having it applied to
all files of the walk. -/
lemma stopsAt_foldl (hplain : disk.top.Plain) {root path : Text} {before after : List Visit}
    {cause : Error} (hwalk : disk.walk globs root = before ++ .file path :: after)
    (hfails : Fails mode extension disk (.file path) cause)
    (hfirst : ∀ visit ∈ before, ∀ cause, ¬ Fails mode extension disk visit cause) :
    StopsAt mode extension disk before path after cause
      ((before.filterMap (target? extension disk)).foldl (rewriteAt mode) disk)
      (((disk.walk globs root).filterMap (target? extension disk)).foldl
        (rewriteAt mode) disk) := by
  have htargets : ((disk.walk globs root).filterMap (target? extension disk)).Nodup :=
    nodup_targets hplain globs root
  have hbefore : (before.filterMap (target? extension disk)).Nodup := by
    rw [hwalk, List.filterMap_append] at htargets
    exact (List.nodup_append.1 htargets).1
  have hstopped := contentAt?_foldl_rewriteAt mode hbefore disk
  have hcomplete := contentAt?_foldl_rewriteAt mode htargets disk
  -- no file is visited on both sides of the place where the run stops
  have hapart : ∀ location ∈ before.filterMap disk.fileAt?,
      location ∉ (.file path :: after).filterMap disk.fileAt? := by
    have hfiles := Disk.nodup_files hplain globs root
    rw [hwalk, List.filterMap_append, List.nodup_append] at hfiles
    intro location hbefore hafter
    exact hfiles.2.2 location hbefore location hafter rfl
  refine ⟨hfails, hfirst, sameShape_foldl_rewriteAt mode _ disk, ?_, ?_, ?_⟩
  · intro visit hvisit location hfile
    have hmem : location ∈ before.filterMap disk.fileAt? :=
      List.mem_filterMap.2 ⟨visit, hvisit, hfile⟩
    have hiff : location ∈ (disk.walk globs root).filterMap (target? extension disk) ↔
        location ∈ before.filterMap (target? extension disk) := by
      rw [hwalk, List.filterMap_append, List.mem_append]
      exact or_iff_left fun hafter => hapart location hmem (mem_files_of_mem_targets hafter)
    rw [hstopped, hcomplete]
    simp only [hiff]
  · intro visit hvisit location hfile
    rw [hstopped, if_neg]
    intro hmem
    exact hapart location (mem_files_of_mem_targets hmem)
      (List.mem_filterMap.2 ⟨visit, hvisit, hfile⟩)
  · intro location hnone
    rw [hstopped, if_neg]
    intro hmem
    rw [List.filterMap_append, List.mem_append] at hnone
    exact hnone (Or.inl (mem_files_of_mem_targets hmem))

/-- A failing visit behind others that do not fail ends the run that stops at it. -/
lemma runFolder_abort_of_error (mode : Mode) (settings : Settings)
    (hdry : settings.dryRun = false) (hplain : disk.top.Plain) {root path : Text}
    {before after : List Visit} {cause e : Error}
    (hwalk : disk.walk globs root = before ++ .file path :: after)
    (hok : ∀ visit ∈ before,
      ∃ operation, verdict mode settings.extension disk visit = .ok operation)
    (hfails : Fails mode settings.extension disk (.file path) cause)
    (hfailing : verdict mode settings.extension disk (.file path) = .error e) :
    let aborting := runFolder mode { settings with failurePolicy := .abort } globs disk root
    let proceeding := runFolder mode { settings with failurePolicy := .proceed } globs disk root
    aborting.result = .error e ∧
      StopsAt mode settings.extension disk before path after cause
        aborting.disk proceeding.disk := by
  intro aborting proceeding
  constructor
  · have hbefore : ∀ v ∈ before.map (verdict mode settings.extension disk),
        ∃ operation, v = .ok operation := by simpa using hok
    have hresult : aborting.result = tally .abort Summary.empty
        ((disk.walk globs root).map (verdict mode settings.extension disk)) :=
      runFolder_result mode _ globs hplain root
    rw [hresult, hwalk, List.map_append, List.map_cons, hfailing]
    exact tally_abort_append Summary.empty hbefore e _
  · have hfirst : ∀ visit ∈ before, ∀ cause, ¬ Fails mode settings.extension disk visit cause := by
      intro visit hvisit cause hfails
      obtain ⟨operation, hoperation⟩ := hok visit hvisit
      obtain ⟨e, he⟩ := verdict_of_fails hplain hfails
      exact absurd (he.symm.trans hoperation) (by simp)
    have hstopped : aborting.disk =
        (before.filterMap (target? settings.extension disk)).foldl (rewriteAt mode) disk :=
      runFolder_disk_of_abort mode { settings with failurePolicy := .abort } rfl hdry hplain
        hwalk hok (by simpa using ⟨_, hfailing⟩)
    have hcomplete : proceeding.disk =
        ((disk.walk globs root).filterMap (target? settings.extension disk)).foldl
          (rewriteAt mode) disk :=
      runFolder_disk_of_proceed mode { settings with failurePolicy := .proceed } rfl hdry hplain
        globs root
    rw [hstopped, hcomplete]
    exact stopsAt_foldl hplain hwalk hfails hfirst

/-- On a disk without links, a run over something that is there fails under the policy that stops
at the first failure exactly when the same run to the end counts a failure. Without one, both runs
give the same summary and leave the same disk. With one, the error names the first file in the
order of the walk that cannot be read or that the mode fails on; every file visited before it is
left as the run to the end leaves it, and that file and all others keep their bytes. -/
theorem runFolder_abort (mode : Mode) (globs : List Glob) (settings : Settings) {disk : Disk}
    {root : Text} {found : Location × Node} (hdry : settings.dryRun = false)
    (hplain : disk.top.Plain) (hroot : disk.resolve true root = .ok found) :
    let aborting := runFolder mode { settings with failurePolicy := .abort } globs disk root
    let proceeding := runFolder mode { settings with failurePolicy := .proceed } globs disk root
    ∃ total, proceeding.result = .ok total ∧
      ((∃ e, aborting.result = .error e) ↔ 0 < total.failed) ∧
      (∀ summary, aborting.result = .ok summary →
        summary = total ∧ total.failed = 0 ∧ aborting.disk = proceeding.disk) ∧
      ∀ e, aborting.result = .error e → ∃ before path after cause,
        disk.walk globs root = before ++ .file path :: after ∧
          e = .fileFailed path cause.message ∧
          StopsAt mode settings.extension disk before path after cause
            aborting.disk proceeding.disk := by
  intro aborting proceeding
  let verdictOf := verdict mode settings.extension disk
  have hcomplete := runFolder_result_of_proceed mode { settings with failurePolicy := .proceed }
    rfl globs hplain root
  refine ⟨_, hcomplete, ?_⟩
  rcases all_ok_or_first_error verdictOf (disk.walk globs root) with
    hok | ⟨before, failing, after, e, hwalk, hok, hfailing⟩
  · obtain ⟨hresult, hdisk⟩ := runFolder_abort_of_ok mode settings hdry hplain hok
    have hnone : countOf .failed ((disk.walk globs root).map verdictOf) = 0 :=
      countOf_failed_eq_zero.2 (by simpa using hok)
    rw [hcomplete] at hresult
    simp only [aborting, hresult]
    refine ⟨by simpa using hnone, ?_, ?_⟩
    · rintro summary ⟨⟩
      exact ⟨rfl, hnone, hdisk⟩
    · rintro e ⟨⟩
  · have hmem : failing ∈ disk.walk globs root := by simp [hwalk]
    obtain ⟨path, cause, rfl, hfails, rfl⟩ := fails_of_verdict hplain hroot hmem hfailing
    obtain ⟨hresult, hstopsAt⟩ :=
      runFolder_abort_of_error mode settings hdry hplain hwalk hok hfails hfailing
    have hsome : 0 < countOf .failed ((disk.walk globs root).map verdictOf) := by
      refine Nat.pos_of_ne_zero (mt countOf_failed_eq_zero.1 fun hall => ?_)
      obtain ⟨operation, hoperation⟩ := hall _ (List.mem_map_of_mem hmem)
      exact absurd (hfailing.symm.trans hoperation) (by simp)
    simp only [aborting, hresult]
    refine ⟨by simpa using hsome, ?_, ?_⟩
    · rintro summary ⟨⟩
    · rintro e ⟨⟩
      exact ⟨before, path, after, cause, hwalk, rfl, hstopsAt⟩

/-- Of five files the second is no text. The run stops there, with the first file changed and the
third one, which the run to the end changes too, as it was. -/
theorem runFolder_abort_fiveFiles :
    let stopped := runFolder .getNodeData ⟨.folder, "cs", [], .abort, false⟩ [] fiveFiles ['n']
    stopped.result = .error (.fileFailed "n/B.cs" (Error.read .notUtf8).message) ∧
      stopped.disk.contentAt? [['n'], "A.cs"] = some (Text.encode getNodeDataChange.new) ∧
      stopped.disk.contentAt? [['n'], "C.cs"] = some (Text.encode getNodeDataChange.old) := by
  have hroot : fiveFiles.resolve true ['n'] = .ok ([['n']], .folder fiveEntries) := rfl
  have hresult : (runFolder .getNodeData ⟨.folder, "cs", [], .abort, false⟩ []
      fiveFiles ['n']).result = .error (.fileFailed "n/B.cs" (Error.read .notUtf8).message) := by
    rw [runFolder_result _ _ _ plain_fiveFiles, verdicts_fiveFiles]
    rfl
  obtain ⟨-, -, -, -, hstops⟩ := runFolder_abort .getNodeData []
    ⟨.folder, "cs", [], .abort, false⟩ rfl plain_fiveFiles hroot
  obtain ⟨before, path, after, cause, hwalk, he, hstopsAt⟩ := hstops _ hresult
  obtain ⟨rfl, -⟩ := Error.fileFailed.inj he
  rw [walk_fiveFiles] at hwalk
  change [Visit.folder ['n'], .file "n/A.cs"] ++ .file "n/B.cs" ::
    [.file "n/C.cs", .file "n/D.cs", .file "n/E.txt"] = _ at hwalk
  rw [List.append_cons_inj_of_notMem (by decide) (by decide)] at hwalk
  obtain ⟨rfl, -, rfl⟩ := hwalk
  refine ⟨hresult, ?_, ?_⟩
  · refine (hstopsAt.walked (.file "n/A.cs") (by simp) _ (by decide +kernel)).trans ?_
    rw [runFolder, walk_fiveFiles]
    decide +kernel
  · exact hstopsAt.unwalked (.file "n/C.cs") (by simp) _ (by decide +kernel)

end NodeKit.Refactoring
