import Mathlib.Data.Set.Card
import NodeKit.Proofs.Refactoring.Request

/-!
# What a summary counts

Each count of a summary is the number of files in a set that is told without a walk: the
files that no glob keeps a walk from, those of them without the extension, those that
the mode fails on, and those whose bytes are not what they were. Every file has one
fate, which the verdict on its visit tells, and no walk comes to a file twice.
-/
namespace NodeKit.Refactoring

/-- What becomes of a file, by whether it is a candidate and by its bytes. -/
def Mode.fate (mode : Mode) (candidate : Bool) (content : ByteArray) : Fate :=
  if candidate then
    match Text.decode? content with
    | none => .failed
    | some t =>
      match mode.apply t with
      | .error _ => .failed
      | .ok new => if new = t then .unchanged else .changed
  else .skipped

/-- The files below a folder that no glob keeps a walk from. -/
def filesMet (globs : List Glob) (disk : Disk) (home : Location) : Set Location :=
  {location | ∃ names content, location = home ++ names ∧ Reaches globs [] names ∧
    disk.contentAt? location = some content}

/-- Those of them that have the extension. -/
def candidates (globs : List Glob) (extension : Text) (disk : Disk) (home : Location) :
    Set Location :=
  {location | ∃ names content, location = home ++ names ∧ IsCandidate globs extension names ∧
    disk.contentAt? location = some content}

/-- The files below a folder that have a fate. -/
def filesOf (mode : Mode) (globs : List Glob) (extension : Text) (disk : Disk) (home : Location)
    (fate : Fate) : Set Location :=
  {location | ∃ names name content, location = home ++ names ∧ Reaches globs [] names ∧
    names.getLast? = some name ∧ disk.contentAt? location = some content ∧
    mode.fate (Path.hasExtension name extension) content = fate}

variable {mode : Mode} {settings : Settings} {globs : List Glob} {extension : Text}
  {disk : Disk} {location : Location} {content : ByteArray} {candidate : Bool}

/-! ## Fates -/

lemma Mode.fate_eq_skipped : mode.fate candidate content = .skipped ↔ candidate = false := by
  cases candidate with
  | false => simp [Mode.fate]
  | true =>
    simp only [Mode.fate, if_true]
    split
    · simp
    · split
      · simp
      · split_ifs <;> simp

lemma Mode.fate_eq_failed :
    mode.fate candidate content = .failed ↔
      candidate = true ∧ ∃ e, mode.refusal? content = some e := by
  cases candidate with
  | false => simp [Mode.fate]
  | true =>
    cases hdecode : Text.decode? content with
    | none => simp [Mode.fate, Mode.refusal?, hdecode]
    | some t =>
      cases happly : mode.apply t with
      | error e => simp [Mode.fate, Mode.refusal?, hdecode, happly]
      | ok new =>
        by_cases hsame : new = t <;> simp [Mode.fate, Mode.refusal?, hdecode, happly, hsame]

lemma Mode.fate_eq_changed :
    mode.fate candidate content = .changed ↔
      candidate = true ∧ mode.rewrite content ≠ content := by
  cases candidate with
  | false => simp [Mode.fate]
  | true =>
    cases hdecode : Text.decode? content with
    | none => simp [Mode.fate, Mode.rewrite, hdecode]
    | some t =>
      cases happly : mode.apply t with
      | error e => simp [Mode.fate, Mode.rewrite, hdecode, happly]
      | ok new =>
        by_cases hsame : new = t <;>
          simp [Mode.fate, Mode.rewrite_eq_self_iff hdecode happly, hdecode, happly, hsame]

/-- The verdict on a file tells its fate. -/
lemma fate?_verdict {path : Text} (mode : Mode) (extension : Text)
    (hresolve : disk.resolve true path = .ok (location, .file content)) :
    fate? (verdict mode extension disk (.file path)) =
      some (mode.fate (Path.hasExtension path extension) content) := by
  cases hextension : Path.hasExtension path extension with
  | false => simp [verdict_of_skipped mode disk hextension, fate?, Mode.fate]
  | true =>
    cases hrefusal : mode.refusal? content with
    | some e =>
      have hfate : mode.fate true content = .failed := Mode.fate_eq_failed.2 ⟨rfl, e, hrefusal⟩
      simp [verdict_of_refusal? hextension hresolve hrefusal, fate?, hfate]
    | none =>
      rcases verdict_of_accepted hextension hresolve hrefusal with
        ⟨hsame, hverdict⟩ | ⟨hother, new, hverdict⟩
      · have hfate : mode.fate true content = .unchanged := by
          cases hfate : mode.fate true content with
          | changed => exact absurd hsame (Mode.fate_eq_changed.1 hfate).2
          | unchanged => rfl
          | skipped => cases Mode.fate_eq_skipped.1 hfate
          | failed =>
            obtain ⟨-, e, he⟩ := Mode.fate_eq_failed.1 hfate
            cases hrefusal.symm.trans he
        simp [hverdict, fate?, hfate]
      · have hfate : mode.fate true content = .changed := Mode.fate_eq_changed.2 ⟨rfl, hother⟩
        simp [hverdict, fate?, hfate]

lemma countP_fate? (verdicts : List (Except Error (Option Operation))) :
    verdicts.countP (fun v => (fate? v).isSome) =
      countOf .changed verdicts + countOf .unchanged verdicts + countOf .skipped verdicts +
        countOf .failed verdicts := by
  induction verdicts with
  | nil => rfl
  | cons v rest ih =>
    simp only [countOf_cons, List.countP_cons, ih]
    cases fate? v with
    | none => simp
    | some fate => cases fate <;> simp <;> omega

/-! ## Sets of files -/

/-- Visits of a walk that are told apart by their files are as many as the files. -/
lemma encard_eq_countP (hplain : disk.top.Plain) {root : Text} {q : Visit → Bool}
    {files : Set Location}
    (hq : ∀ visit ∈ disk.walk globs root, q visit → (disk.fileAt? visit).isSome)
    (hfiles : ∀ location, location ∈ files ↔
      ∃ visit ∈ disk.walk globs root, q visit ∧ disk.fileAt? visit = some location) :
    files.encard = (disk.walk globs root).countP q := by
  have hnodup : (((disk.walk globs root).filter q).filterMap disk.fileAt?).Nodup :=
    (Disk.nodup_files hplain globs root).sublist (List.filter_sublist.filterMap _)
  have hlist : files = (((disk.walk globs root).filter q).filterMap disk.fileAt?).toFinset := by
    ext location
    simp [hfiles, and_assoc]
  have hall : ((disk.walk globs root).filter q).countP (fun visit => (disk.fileAt? visit).isSome) =
      (disk.walk globs root).countP q := by
    rw [List.countP_filter]
    refine List.countP_congr fun visit hvisit => ?_
    simpa using hq visit hvisit
  rw [hlist, Set.encard_coe_eq_coe_finsetCard, List.toFinset_card_of_nodup hnodup,
    List.length_filterMap_eq_countP, hall]

section

variable {root : Text} {home : Location} {entries : Entries}
  (hplain : disk.top.Plain) (hroot : disk.resolve true root = .ok (home, .folder entries))
include hplain hroot

lemma fate?_below {names : List Text} {name : Text} (mode : Mode) (extension : Text)
    (hcontent : disk.contentAt? (home ++ names) = some content)
    (hlast : names.getLast? = some name) :
    fate? (verdict mode extension disk (.file (Path.below root names))) =
      some (mode.fate (Path.hasExtension name extension) content) := by
  have hnode := Disk.contentAt?_eq_some.1 hcontent
  have hbelow := hnode
  rw [Disk.at?_home_append hplain hroot] at hbelow
  rw [fate?_verdict mode extension (Disk.resolve_below hplain hroot hbelow),
    Disk.hasExtension_below hplain hroot hnode hlast]

/-- Only visits to files are counted. -/
lemma isSome_fileAt?_of_fate? {visit : Visit} (hvisit : visit ∈ disk.walk globs root)
    (h : (fate? (verdict mode extension disk visit)).isSome) : (disk.fileAt? visit).isSome := by
  cases visit with
  | folder path => cases h
  | excluded path => cases h
  | unreadable path fault => exact absurd hvisit (Disk.unreadable_notMem_walk hplain hroot _ _)
  | file path =>
    obtain ⟨location, content, hresolve⟩ := Disk.exists_fileAt? hplain hvisit
    rw [Disk.fileAt?_eq_some.2 ⟨path, content, rfl, hresolve⟩]
    rfl

/-- There are as many files with a fate as verdicts that tell it. -/
lemma encard_filesOf (mode : Mode) (globs : List Glob) (extension : Text) (fate : Fate) :
    (filesOf mode globs extension disk home fate).encard =
      countOf fate ((disk.walk globs root).map (verdict mode extension disk)) := by
  rw [countOf, List.countP_map]
  apply encard_eq_countP hplain
  · intro visit hvisit hfate
    apply isSome_fileAt?_of_fate? hplain hroot hvisit
    rw [of_decide_eq_true hfate]
    rfl
  · intro location
    constructor
    · rintro ⟨names, name, content, rfl, hreaches, hlast, hcontent, rfl⟩
      exact ⟨_, (Disk.file_mem_walk hplain hroot).2 ⟨names, content, hreaches, rfl, hcontent⟩,
        decide_eq_true (fate?_below hplain hroot mode extension hcontent hlast),
        Disk.fileAt?_below hplain hroot hcontent⟩
    · rintro ⟨visit, hvisit, hfate, hfile⟩
      obtain ⟨names, content, hreaches, rfl, rfl, hcontent⟩ :=
        Disk.names_of_fileAt? hplain hroot hvisit hfile
      obtain ⟨name, hlast⟩ := Disk.exists_getLast? hplain hroot hcontent
      have hbelow := fate?_below hplain hroot mode extension hcontent hlast
      exact ⟨names, name, content, rfl, hreaches, hlast, hcontent,
        Option.some.inj (hbelow.symm.trans (of_decide_eq_true hfate))⟩

/-- Every file that is met has one of the fates. -/
lemma encard_filesMet (mode : Mode) (globs : List Glob) (extension : Text) :
    (filesMet globs disk home).encard =
      ((disk.walk globs root).map (verdict mode extension disk)).countP
        fun v => (fate? v).isSome := by
  rw [List.countP_map]
  apply encard_eq_countP hplain
  · intro visit hvisit hfate
    exact isSome_fileAt?_of_fate? hplain hroot hvisit hfate
  · intro location
    change (∃ names content, _) ↔ _
    rw [← Disk.mem_files hplain hroot, List.mem_filterMap]
    refine exists_congr fun visit => and_congr_right fun _ => ?_
    refine ⟨fun hfile => ⟨?_, hfile⟩, And.right⟩
    obtain ⟨path, content, rfl, hresolve⟩ := Disk.fileAt?_eq_some.1 hfile
    simp [fate?_verdict mode extension hresolve]

/-! ## The sets in words -/

lemma filesOf_skipped (mode : Mode) (globs : List Glob) (extension : Text) :
    filesOf mode globs extension disk home .skipped =
      filesMet globs disk home \ candidates globs extension disk home := by
  ext location
  constructor
  · rintro ⟨names, name, content, rfl, hreaches, hlast, hcontent, hfate⟩
    refine ⟨⟨names, content, rfl, hreaches, hcontent⟩, ?_⟩
    rintro ⟨names', _, hnames, ⟨-, name', hlast', hextension⟩, -⟩
    obtain rfl : names = names' := List.append_cancel_left hnames
    obtain rfl : name = name' := Option.some.inj (hlast.symm.trans hlast')
    rw [Mode.fate_eq_skipped, hextension] at hfate
    cases hfate
  · rintro ⟨⟨names, content, rfl, hreaches, hcontent⟩, hnone⟩
    obtain ⟨name, hlast⟩ := Disk.exists_getLast? hplain hroot hcontent
    refine ⟨names, name, content, rfl, hreaches, hlast, hcontent, Mode.fate_eq_skipped.2 ?_⟩
    by_contra hextension
    exact hnone ⟨names, content, rfl, ⟨hreaches, name, hlast, by simpa using hextension⟩, hcontent⟩

end

lemma filesOf_failed (mode : Mode) (globs : List Glob) (extension : Text) (disk : Disk)
    (home : Location) :
    filesOf mode globs extension disk home .failed =
      {location ∈ candidates globs extension disk home | ∃ content e,
        disk.contentAt? location = some content ∧ mode.refusal? content = some e} := by
  ext location
  constructor
  · rintro ⟨names, name, content, rfl, hreaches, hlast, hcontent, hfate⟩
    obtain ⟨hextension, e, he⟩ := Mode.fate_eq_failed.1 hfate
    exact ⟨⟨names, content, rfl, ⟨hreaches, name, hlast, hextension⟩, hcontent⟩,
      content, e, hcontent, he⟩
  · rintro ⟨⟨names, _, rfl, ⟨hreaches, name, hlast, hextension⟩, -⟩, content, e, hcontent, he⟩
    exact ⟨names, name, content, rfl, hreaches, hlast, hcontent,
      Mode.fate_eq_failed.2 ⟨hextension, e, he⟩⟩

lemma filesOf_changed (mode : Mode) (globs : List Glob) (extension : Text) (disk : Disk)
    (home : Location) :
    filesOf mode globs extension disk home .changed =
      {location ∈ candidates globs extension disk home |
        (disk.contentAt? location).map mode.rewrite ≠ disk.contentAt? location} := by
  ext location
  constructor
  · rintro ⟨names, name, content, rfl, hreaches, hlast, hcontent, hfate⟩
    obtain ⟨hextension, hrewrite⟩ := Mode.fate_eq_changed.1 hfate
    exact ⟨⟨names, content, rfl, ⟨hreaches, name, hlast, hextension⟩, hcontent⟩,
      by simpa [hcontent] using hrewrite⟩
  · rintro ⟨⟨names, content, rfl, ⟨hreaches, name, hlast, hextension⟩, hcontent⟩, hrewrite⟩
    exact ⟨names, name, content, rfl, hreaches, hlast, hcontent,
      Mode.fate_eq_changed.2 ⟨hextension, by simpa [hcontent] using hrewrite⟩⟩

/-- A run to the end leaves other bytes in exactly the files that are changed by fate. -/
lemma changed_runFolder (mode : Mode) (globs : List Glob)
    (hproceed : settings.failurePolicy = .proceed) (hdry : settings.dryRun = false)
    (hplain : disk.top.Plain) {root : Text} {home : Location} {entries : Entries}
    (hroot : disk.resolve true root = .ok (home, .folder entries)) :
    {location | (runFolder mode settings globs disk root).disk.contentAt? location ≠
        disk.contentAt? location} =
      filesOf mode globs settings.extension disk home .changed := by
  rw [filesOf_changed]
  ext location
  change (runFolder mode settings globs disk root).disk.contentAt? location ≠ _ ↔
    (∃ names content, _) ∧ _
  rw [runFolder_disk_of_proceed mode settings hproceed hdry hplain,
    contentAt?_foldl_rewriteAt mode (nodup_targets hplain globs root)]
  rw [← mem_targets hplain hroot]
  split_ifs with hmem <;> simp [hmem]

end NodeKit.Refactoring

namespace NodeKit

open Refactoring

/-- On a disk without links, a run over a folder that goes on after failures counts every file that
no glob keeps it from exactly once: as skipped those without the extension, as failed those of the
rest that hold no text or that the mode fails on, and, unless the run is dry, as changed just the
files of the disk whose bytes are not what they were. The request succeeds with that summary when
no file failed, and else fails with their number. The order in which folders list their entries
decides nothing. -/
theorem RefactorRequest.run_counts (request : RefactorRequest) {mode : Mode} {globs : List Glob}
    {disk listed : Disk} {home : Location} {entries : Entries}
    (hmode : Mode.ofName request.mode = .ok mode)
    (hglobs : readGlobs request.excludes = .ok globs) (hfolder : request.folder = true)
    (hpolicy : request.failurePolicy = .proceed) (hplain : disk.top.Plain)
    (hlisted : listed.Relists disk)
    (hroot : disk.resolve true request.path = .ok (home, .folder entries)) :
    let done := runFolder mode request.settings globs listed request.path
    ∃ summary, done.result = .ok summary ∧
      (filesMet globs disk home).encard =
        (summary.changed + summary.unchanged + summary.skipped + summary.failed : ℕ) ∧
      (filesMet globs disk home \ candidates globs request.extension disk home).encard =
        summary.skipped ∧
      {location ∈ candidates globs request.extension disk home | ∃ content e,
        disk.contentAt? location = some content ∧ mode.refusal? content = some e}.encard =
        summary.failed ∧
      (request.dryRun = false →
        {location | done.disk.contentAt? location ≠ disk.contentAt? location}.encard =
          summary.changed) ∧
      (request.run listed).disk = done.disk ∧
      (request.run listed).result =
        if summary.failed = 0 then .ok (some summary) else .error (.filesFailed summary.failed) := by
  intro done
  obtain ⟨_, hroot'⟩ :=
    Disk.resolve_folder_of_sameShape hplain hlisted.plain hlisted.toSameShape hroot
  have hmet : filesMet globs disk home = filesMet globs listed home := by
    simp only [filesMet, hlisted.contentAt?_eq]
  have hcandidates : candidates globs request.extension disk home =
      candidates globs request.extension listed home := by
    simp only [candidates, hlisted.contentAt?_eq]
  have hproceed : request.settings.failurePolicy = .proceed := hpolicy
  have hresult : done.result = .ok _ :=
    runFolder_result_of_proceed mode request.settings hproceed globs hlisted.plain request.path
  have hcount (fate : Fate) := encard_filesOf hlisted.plain hroot' mode globs request.extension fate
  rw [hmet, hcandidates, ← hlisted.contentAt?_eq]
  refine ⟨_, hresult, ?_, ?_, ?_, ?_, ?_⟩
  · rw [encard_filesMet hlisted.plain hroot' mode globs request.extension, countP_fate?]
    rfl
  · rw [← filesOf_skipped hlisted.plain hroot' mode, hcount]
    rfl
  · rw [← filesOf_failed mode, hcount]
    rfl
  · intro hdry
    rw [changed_runFolder mode globs hproceed hdry hlisted.plain hroot']
    exact hcount .changed
  · have hpathMode : request.settings.pathMode = .folder := by simp [settings, pathMode, hfolder]
    obtain ⟨hrunDisk, hrun⟩ := request.run_of_mode hmode listed
    obtain ⟨hpathDisk, hpath⟩ :=
      runPath_of_folder request.settings hglobs hpathMode mode listed request.path
    refine ⟨hrunDisk.trans hpathDisk, ?_⟩
    rw [hrun, hpath, hresult]
    rfl

/-- Of five files two are changed and one fails. -/
theorem RefactorRequest.run_counts_fiveFiles :
    let request : RefactorRequest := ⟨"get-node-data", ['n'], false, true, "cs", [], .proceed, false⟩
    (filesMet [] fiveFiles [['n']]).encard = 5 ∧
      {location | (request.run fiveFiles).disk.contentAt? location ≠
        fiveFiles.contentAt? location}.encard = 2 ∧
      (request.run fiveFiles).result = .error (.filesFailed 1) := by
  intro request
  have hroot : fiveFiles.resolve true ['n'] = .ok ([['n']], .folder fiveEntries) := rfl
  have hmode : Mode.ofName request.mode = .ok .getNodeData := rfl
  have hglobs : readGlobs request.excludes = .ok [] := rfl
  obtain ⟨summary, hsummary, hmet, -, -, hchanged, hdisk, hresult⟩ :=
    RefactorRequest.run_counts request hmode hglobs rfl rfl plain_fiveFiles
      (.refl plain_fiveFiles) hroot
  rw [runFolder_result _ _ _ plain_fiveFiles] at hsummary
  change tally .proceed Summary.empty
    ((fiveFiles.walk [] ['n']).map (verdict .getNodeData "cs" fiveFiles)) = _ at hsummary
  rw [verdicts_fiveFiles] at hsummary
  obtain rfl : ⟨2, 1, 1, 1⟩ = summary := Except.ok.inj hsummary
  rw [hdisk]
  exact ⟨hmet, hchanged rfl, hresult⟩

end NodeKit
