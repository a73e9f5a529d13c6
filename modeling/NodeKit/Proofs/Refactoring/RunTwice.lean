import NodeKit.Proofs.Refactoring.Counts
import NodeKit.Proofs.Refactoring.Signature

/-!
# Running over a folder twice

A mode that keeps what it has made leaves nothing to do for a second run. What the first
run changed is now unchanged, and every other file has the fate that it had before. The
shape of the disk tells which files a run comes to, and that is not changed either.
-/
namespace NodeKit.Refactoring

/-- Whether the mode leaves alone every text that it made itself. -/
def Mode.Settles (mode : Mode) : Prop := ∀ t new, mode.apply t = .ok new → mode.apply new = .ok new

/-- What becomes of a file the second time. -/
def Fate.again : Fate → Fate
  | .changed => .unchanged
  | fate => fate

@[simp] lemma Fate.again_ne_changed (fate : Fate) : fate.again ≠ .changed := by
  cases fate <;> simp [again]

@[simp] lemma Fate.again_eq_unchanged {fate : Fate} :
    fate.again = .unchanged ↔ fate = .changed ∨ fate = .unchanged := by
  cases fate <;> simp [again]

@[simp] lemma Fate.again_eq_skipped {fate : Fate} : fate.again = .skipped ↔ fate = .skipped := by
  cases fate <;> simp [again]

@[simp] lemma Fate.again_eq_failed {fate : Fate} : fate.again = .failed ↔ fate = .failed := by
  cases fate <;> simp [again]

variable {mode : Mode} {settings : Settings} {globs : List Glob} {extension root : Text}
  {disk again : Disk} {home location : Location} {entries : Entries} {content : ByteArray}

/-! ## Modes that settle -/

lemma SignatureChange.apply_apply {change : SignatureChange} (h : change ∈ signatureChanges)
    (t : Text) : change.apply (change.apply t) = change.apply t := by
  have hsame : ∀ other : NodeDataChange,
      other ∈ [⟨change, h⟩, ⟨change, h⟩] ↔ other ∈ [⟨change, h⟩] := by simp
  exact independent_signatureChanges.applyAll_eq hsame t

lemma settles_of_change (change : SignatureChange) (h : change ∈ signatureChanges)
    (happly : ∀ t, mode.apply t = .ok (change.apply t)) : mode.Settles := by
  intro t new hnew
  obtain rfl : change.apply t = new := Except.ok.inj ((happly t).symm.trans hnew)
  rw [happly, SignatureChange.apply_apply h]

lemma settles_of_narrows (hmode : mode = .getNodeData ∨ mode = .setNodeData) : mode.Settles := by
  rcases hmode with rfl | rfl
  · exact settles_of_change getNodeDataChange (by decide) fun _ => rfl
  · exact settles_of_change setNodeDataChange (by decide) fun _ => rfl

namespace Mode.Settles

variable (h : mode.Settles)
include h

lemma rewrite_rewrite (content : ByteArray) :
    mode.rewrite (mode.rewrite content) = mode.rewrite content := by
  cases hdecode : Text.decode? content with
  | none => simp [Mode.rewrite, hdecode]
  | some t =>
    cases happly : mode.apply t with
    | error e => simp [Mode.rewrite, hdecode, happly]
    | ok new => simp [Mode.rewrite, hdecode, happly, h t new happly]

/-- What the mode has rewritten is unchanged the next time. -/
lemma fate_rewrite (content : ByteArray) :
    mode.fate true (mode.rewrite content) = (mode.fate true content).again := by
  cases hdecode : Text.decode? content with
  | none => simp [Mode.rewrite, Mode.fate, hdecode, Fate.again]
  | some t =>
    cases happly : mode.apply t with
    | error e => simp [Mode.rewrite, Mode.fate, hdecode, happly, Fate.again]
    | ok new =>
      by_cases hsame : new = t <;>
        simp [Mode.rewrite, Mode.fate, hdecode, happly, h t new happly, hsame, Fate.again]

end Mode.Settles

/-! ## The files that both runs come to -/

/-- The locations that a run over a folder has its mode applied to. -/
def targets (globs : List Glob) (extension : Text) (disk : Disk) (root : Text) : List Location :=
  (disk.walk globs root).filterMap (target? extension disk)

/-- The shape of a disk tells which files a run has its mode applied to. -/
lemma mem_targets_of_sameShape {other : Disk} (hplain : disk.top.Plain)
    (hother : other.top.Plain) (hsame : disk.SameShape other) :
    location ∈ targets globs extension other root ↔
      location ∈ targets globs extension disk root := by
  cases hroot : disk.resolve true root with
  | error fault =>
    have hroot' := Disk.resolve_error_of_sameShape hplain hother hsame hroot
    simp [targets, Disk.walk_of_error hplain hroot, Disk.walk_of_error hother hroot', target?]
  | ok found =>
    obtain ⟨home, node⟩ := found
    cases node with
    | link target => cases hplain.at? ((Disk.resolve_eq_ok hplain).1 hroot).2.2
    | file content =>
      obtain ⟨_, hroot'⟩ := Disk.resolve_file_of_sameShape hplain hother hsame hroot
      rw [targets, targets, Disk.walk_of_file hplain hroot, Disk.walk_of_file hother hroot',
        funext (target?_of_sameShape hplain hother hsame)]
    | folder entries =>
      obtain ⟨_, hroot'⟩ := Disk.resolve_folder_of_sameShape hplain hother hsame hroot
      have hfile (location : Location) : (∃ content, other.contentAt? location = some content) ↔
          ∃ content, disk.contentAt? location = some content := by
        rw [← Disk.kindAt?_eq_file, hsame.kindAt?_eq, Disk.kindAt?_eq_file]
      rw [targets, targets, mem_targets hother hroot', mem_targets hplain hroot]
      simp only [exists_and_left, hfile]

/-- What two runs over a folder have to do with each other: the second starts from what the first
has left, with folders listed in any order. -/
structure Follows (mode : Mode) (globs : List Glob) (extension root : Text) (disk again : Disk) :
    Prop where
  before : disk.top.Plain
  after : again.top.Plain
  sameShape : disk.SameShape again
  contentAt?_eq (location : Location) : again.contentAt? location =
    if location ∈ targets globs extension disk root then
      (disk.contentAt? location).map mode.rewrite
    else disk.contentAt? location

lemma follows_of_relists (mode : Mode) (hproceed : settings.failurePolicy = .proceed)
    (hdry : settings.dryRun = false) (hplain : disk.top.Plain)
    (hagain : again.Relists (runFolder mode settings globs disk root).disk) :
    Follows mode globs settings.extension root disk again := by
  have hdisk := runFolder_disk_of_proceed mode settings hproceed hdry hplain globs root
  refine ⟨hplain, hagain.plain, ?_, fun location => ?_⟩
  · refine Disk.SameShape.trans ?_ hagain.toSameShape
    rw [hdisk]
    exact sameShape_foldl_rewriteAt mode _ disk
  · rw [hagain.contentAt?_eq, hdisk]
    exact contentAt?_foldl_rewriteAt mode (nodup_targets hplain globs root) disk location

/-! ## The disk that the second run leaves -/

lemma foldl_rewriteAt_eq_self {locations : List Location}
    (h : ∀ location ∈ locations, ∀ content, disk.contentAt? location = some content →
      mode.rewrite content = content) : locations.foldl (rewriteAt mode) disk = disk := by
  induction locations with
  | nil => rfl
  | cons first rest ih =>
    obtain ⟨hfirst, hrest⟩ := List.forall_mem_cons.1 h
    have hself : rewriteAt mode disk first = disk := by
      unfold rewriteAt
      cases hcontent : disk.contentAt? first with
      | none => rfl
      | some content => simp [hfirst content hcontent, Disk.store_self hcontent]
    rw [List.foldl_cons, hself, ih hrest]

namespace Follows

variable (h : Follows mode globs extension root disk again)
include h

/-- The second run makes no other bytes of a file. -/
lemma foldl_rewriteAt (hsettles : mode.Settles) :
    (targets globs extension again root).foldl (rewriteAt mode) again = again := by
  refine foldl_rewriteAt_eq_self fun location hmem content hcontent => ?_
  -- the first run came to the file, too, so that its bytes have been rewritten already
  rw [mem_targets_of_sameShape h.before h.after h.sameShape] at hmem
  rw [h.contentAt?_eq, if_pos hmem, Option.map_eq_some_iff] at hcontent
  obtain ⟨old, -, rfl⟩ := hcontent
  exact hsettles.rewrite_rewrite old

end Follows

/-! ## The fates of the files in the second run -/

/-- What the verdicts of a second run come to, by those of the first. -/
structure CountedAgain (first second : List (Except Error (Option Operation))) : Prop where
  changed : countOf .changed second = 0
  unchanged : countOf .unchanged second = countOf .changed first + countOf .unchanged first
  skipped : countOf .skipped second = countOf .skipped first
  failed : countOf .failed second = countOf .failed first

lemma countedAgain_singleton {one other : Except Error (Option Operation)}
    (h : fate? other = (fate? one).map Fate.again) : CountedAgain [one] [other] := by
  constructor <;> simp only [countOf, List.countP_singleton, h] <;> cases fate? one with
  | none => rfl
  | some fate => cases fate <;> rfl

lemma mem_filesOf {fate : Fate} :
    location ∈ filesOf mode globs extension disk home fate ↔
      ∃ names name, location = home ++ names ∧ Reaches globs [] names ∧
        names.getLast? = some name ∧
        (disk.contentAt? location).map (mode.fate (Path.hasExtension name extension)) =
          some fate := by
  change (∃ names name content, _) ↔ _
  simp only [Option.map_eq_some_iff, exists_and_left]

/-- No file has two fates. -/
lemma fate_eq_of_mem_filesOf {fate other : Fate}
    (hfate : location ∈ filesOf mode globs extension disk home fate)
    (hother : location ∈ filesOf mode globs extension disk home other) : fate = other := by
  obtain ⟨names, name, rfl, -, hlast, hfate⟩ := mem_filesOf.1 hfate
  obtain ⟨names', name', hnames, -, hlast', hother⟩ := mem_filesOf.1 hother
  obtain rfl : names = names' := List.append_cancel_left hnames
  obtain rfl : name = name' := Option.some.inj (hlast.symm.trans hlast')
  exact Option.some.inj (hfate.symm.trans hother)

namespace Follows

variable (h : Follows mode globs extension root disk again) (hsettles : mode.Settles)
include h hsettles

/-- Each file has in the second run what its fate in the first becomes. -/
lemma fate_again (hroot : disk.resolve true root = .ok (home, .folder entries))
    {names : List Text} {name : Text} (hreaches : Reaches globs [] names)
    (hlast : names.getLast? = some name) :
    (again.contentAt? (home ++ names)).map (mode.fate (Path.hasExtension name extension)) =
      ((disk.contentAt? (home ++ names)).map
        (mode.fate (Path.hasExtension name extension))).map Fate.again := by
  rw [h.contentAt?_eq]
  cases hcontent : disk.contentAt? (home ++ names) with
  | none => simp
  | some content =>
    cases hextension : Path.hasExtension name extension with
    | false =>
      -- a file without the extension is skipped, whatever its bytes are
      split_ifs <;> rfl
    | true =>
      have hmem : home ++ names ∈ targets globs extension disk root :=
        (mem_targets h.before hroot).2
          ⟨names, content, rfl, ⟨hreaches, name, hlast, hextension⟩, hcontent⟩
      simp [hmem, hsettles.fate_rewrite]

lemma mem_filesOf_again (hroot : disk.resolve true root = .ok (home, .folder entries))
    {fate : Fate} :
    location ∈ filesOf mode globs extension again home fate ↔
      ∃ first : Fate, first.again = fate ∧
        location ∈ filesOf mode globs extension disk home first := by
  rw [mem_filesOf]
  constructor
  · rintro ⟨names, name, rfl, hreaches, hlast, hfate⟩
    rw [h.fate_again hsettles hroot hreaches hlast, Option.map_eq_some_iff] at hfate
    obtain ⟨first, hfirst, hagain⟩ := hfate
    exact ⟨first, hagain, mem_filesOf.2 ⟨names, name, rfl, hreaches, hlast, hfirst⟩⟩
  · rintro ⟨first, rfl, hmem⟩
    obtain ⟨names, name, rfl, hreaches, hlast, hfirst⟩ := mem_filesOf.1 hmem
    refine ⟨names, name, rfl, hreaches, hlast, ?_⟩
    rw [h.fate_again hsettles hroot hreaches hlast, hfirst]
    rfl

lemma countedAgain_of_folder (hroot : disk.resolve true root = .ok (home, .folder entries)) :
    CountedAgain ((disk.walk globs root).map (verdict mode extension disk))
      ((again.walk globs root).map (verdict mode extension again)) := by
  obtain ⟨_, hroot'⟩ := Disk.resolve_folder_of_sameShape h.before h.after h.sameShape hroot
  have hfirst (fate : Fate) := encard_filesOf h.before hroot mode globs extension fate
  have hsecond (fate : Fate) := encard_filesOf h.after hroot' mode globs extension fate
  have hfiles (fate : Fate) : filesOf mode globs extension again home fate =
      {location | ∃ first : Fate, first.again = fate ∧
        location ∈ filesOf mode globs extension disk home first} :=
    Set.ext fun location => h.mem_filesOf_again hsettles hroot
  have hkept {fate : Fate} (hkeeps : ∀ first : Fate, first.again = fate ↔ first = fate) :
      countOf fate ((again.walk globs root).map (verdict mode extension again)) =
        countOf fate ((disk.walk globs root).map (verdict mode extension disk)) := by
    have hsame : filesOf mode globs extension again home fate =
        filesOf mode globs extension disk home fate := by simp [hfiles, hkeeps]
    have hcount := hsecond fate
    rw [hsame, hfirst] at hcount
    exact_mod_cast hcount.symm
  refine ⟨?_, ?_, hkept fun _ => Fate.again_eq_skipped, hkept fun _ => Fate.again_eq_failed⟩
  · have hnone : filesOf mode globs extension again home .changed = ∅ := by simp [hfiles]
    have hcount := hsecond .changed
    rw [hnone, Set.encard_empty] at hcount
    exact_mod_cast hcount.symm
  · have hunion : filesOf mode globs extension again home .unchanged =
        filesOf mode globs extension disk home .changed ∪
          filesOf mode globs extension disk home .unchanged := by
      ext location
      simp [hfiles, or_and_right, exists_or]
    have hapart : Disjoint (filesOf mode globs extension disk home .changed)
        (filesOf mode globs extension disk home .unchanged) := by
      refine Set.disjoint_left.2 fun location hchanged hunchanged => ?_
      cases fate_eq_of_mem_filesOf hchanged hunchanged
    have hcount := hsecond .unchanged
    rw [hunion, Set.encard_union_eq hapart, hfirst, hfirst] at hcount
    exact_mod_cast hcount.symm

lemma countedAgain_of_file (hroot : disk.resolve true root = .ok (location, .file content)) :
    CountedAgain ((disk.walk globs root).map (verdict mode extension disk))
      ((again.walk globs root).map (verdict mode extension again)) := by
  obtain ⟨content', hroot'⟩ := Disk.resolve_file_of_sameShape h.before h.after h.sameShape hroot
  have hcontent := Disk.contentAt?_eq_some.2 ((Disk.resolve_eq_ok h.before).1 hroot).2.2
  have hcontent' := Disk.contentAt?_eq_some.2 ((Disk.resolve_eq_ok h.after).1 hroot').2.2
  rw [h.contentAt?_eq, hcontent] at hcontent'
  rw [Disk.walk_of_file h.before hroot, Disk.walk_of_file h.after hroot']
  refine countedAgain_singleton ?_
  rw [fate?_verdict mode extension hroot, fate?_verdict mode extension hroot']
  cases hextension : Path.hasExtension root extension with
  | false => rfl
  | true =>
    have hmem : location ∈ targets globs extension disk root := by
      rw [targets, Disk.walk_of_file h.before hroot, List.mem_filterMap]
      exact ⟨_, List.mem_singleton_self _, target?_eq_some.2 ⟨root, content, rfl, hextension, hroot⟩⟩
    obtain rfl : mode.rewrite content = content' := by simpa [hmem] using hcontent'
    rw [hsettles.fate_rewrite]
    rfl

/-- Wherever the runs start from, what the first changed is unchanged in the second, and all else
is counted as before. -/
lemma countedAgain : CountedAgain ((disk.walk globs root).map (verdict mode extension disk))
    ((again.walk globs root).map (verdict mode extension again)) := by
  cases hroot : disk.resolve true root with
  | error fault =>
    have hroot' := Disk.resolve_error_of_sameShape h.before h.after h.sameShape hroot
    rw [Disk.walk_of_error h.before hroot, Disk.walk_of_error h.after hroot']
    exact countedAgain_singleton rfl
  | ok found =>
    obtain ⟨home, node⟩ := found
    cases node with
    | link target => cases h.before.at? ((Disk.resolve_eq_ok h.before).1 hroot).2.2
    | file content => exact h.countedAgain_of_file hsettles hroot
    | folder entries => exact h.countedAgain_of_folder hsettles hroot

end Follows

/-! ## Two runs -/

/-- A run over a folder with one of the two modes that narrow a signature leaves nothing to do.
When it is run again on what it has left, in whatever order folders list their entries then, it
changes nothing, reports as unchanged what it had changed or left unchanged before, and skips and
fails on as many files as before. -/
theorem runPath_twice {mode : Mode} {settings : Settings} {globs : List Glob} {disk again : Disk}
    {root : Text} (hmode : mode = .getNodeData ∨ mode = .setNodeData)
    (hglobs : readGlobs settings.excludes = .ok globs) (hfolder : settings.pathMode = .folder)
    (hproceed : settings.failurePolicy = .proceed) (hdry : settings.dryRun = false)
    (hplain : disk.top.Plain)
    (hagain : again.Relists (runPath mode settings disk root).disk) :
    (runPath mode settings again root).disk = again ∧
      ∃ summary, (runPath mode settings disk root).result = .ok summary ∧
        (runPath mode settings again root).result =
          .ok ⟨0, summary.changed + summary.unchanged, summary.skipped, summary.failed⟩ := by
  have hsettles := settles_of_narrows hmode
  obtain ⟨hdisk, hresult⟩ := runPath_of_folder settings hglobs hfolder mode disk root
  obtain ⟨hdisk', hresult'⟩ := runPath_of_folder settings hglobs hfolder mode again root
  rw [hdisk] at hagain
  have hfollows := follows_of_relists mode hproceed hdry hplain hagain
  have hcounts := hfollows.countedAgain hsettles
  rw [hdisk', hresult, hresult', runFolder_result_of_proceed mode settings hproceed globs hplain,
    runFolder_result_of_proceed mode settings hproceed globs hagain.plain]
  refine ⟨?_, _, rfl, ?_⟩
  · rw [runFolder_disk_of_proceed mode settings hproceed hdry hagain.plain]
    exact hfollows.foldl_rewriteAt hsettles
  · rw [hcounts.changed, hcounts.unchanged, hcounts.skipped, hcounts.failed]

/-- Of five files two are changed by the first run. -/
theorem runPath_twice_fiveFiles :
    let settings : Settings := ⟨.folder, "cs", [], .proceed, false⟩
    let again := (runPath .getNodeData settings fiveFiles ['n']).disk
    (runPath .getNodeData settings fiveFiles ['n']).result = .ok ⟨2, 1, 1, 1⟩ ∧
      (runPath .getNodeData settings again ['n']).disk = again ∧
      (runPath .getNodeData settings again ['n']).result = .ok ⟨0, 3, 1, 1⟩ := by
  intro settings again
  have hagain : again.top.Plain := by
    change (runPath .getNodeData settings fiveFiles ['n']).disk.top.Plain
    obtain ⟨hdisk, -⟩ := runPath_of_folder settings rfl rfl .getNodeData fiveFiles ['n']
    rw [hdisk, runFolder_disk_of_proceed .getNodeData settings rfl rfl plain_fiveFiles]
    exact plain_foldl_rewriteAt .getNodeData _ plain_fiveFiles
  have hfirst : (runPath .getNodeData settings fiveFiles ['n']).result = .ok ⟨2, 1, 1, 1⟩ := by
    rw [runPath_result _ _ plain_fiveFiles]
    change tally .proceed Summary.empty
      ((fiveFiles.walk [] ['n']).map (verdict .getNodeData "cs" fiveFiles)) = _
    rw [verdicts_fiveFiles]
    rfl
  obtain ⟨hdisk, summary, hsummary, hsecond⟩ :=
    runPath_twice (.inl rfl) rfl rfl rfl rfl plain_fiveFiles (.refl hagain)
  obtain rfl : ⟨2, 1, 1, 1⟩ = summary := Except.ok.inj (hfirst.symm.trans hsummary)
  exact ⟨hfirst, hdisk, hsecond⟩

end NodeKit.Refactoring
