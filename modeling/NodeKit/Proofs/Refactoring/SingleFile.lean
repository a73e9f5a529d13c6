import NodeKit.Proofs.Refactoring.Request

/-!
# A path that is no folder

A path that is no folder can be run over as a single file or as the root of a walk.
Either way at most one file is dealt with, and the disk is left the same. The reports
agree as well, but for one case: when nothing is there and the path does not have the
extension, the single file is skipped, while no walk can start.
-/
namespace NodeKit.Refactoring

variable {mode : Mode} {settings : Settings} {disk : Disk} {path : Text}
  {summary : Option Summary}

lemma failed_record (summary : Summary) (operation : Operation) :
    (summary.record operation).failed = summary.failed := by
  cases operation <;> rfl

lemma reported_record (operation : Operation) :
    reported (.ok (Summary.empty.record operation)) =
      .ok (some (Summary.empty.record operation)) := by
  simp [reported, failed_record, Summary.empty]

lemma verdict_file_ne_none (mode : Mode) (extension : Text) (disk : Disk) (path : Text) :
    verdict mode extension disk (.file path) ≠ .ok none := by
  cases hextension : Path.hasExtension path extension with
  | false => simp [verdict_of_skipped mode disk hextension]
  | true =>
    cases hplan : plan mode disk path <;>
      simp [verdict, hextension, hplan, Except.map, Except.mapError]

/-- A single file is reported on without an error exactly when its visit would not fail. -/
lemma reported_runFile (mode : Mode) (settings : Settings) (hpath : disk.isFolder path = false) :
    reported (runFile mode settings disk path).result = .ok summary ↔
      ∃ operation, verdict mode settings.extension disk (.file path) = .ok (some operation) ∧
        summary = some (Summary.empty.record operation) := by
  rw [runFile_result, hpath]
  cases hextension : Path.hasExtension path settings.extension with
  | false => simp [verdict_of_skipped mode disk hextension, reported_record, eq_comm]
  | true =>
    cases hplan : plan mode disk path with
    | error e => simp [verdict, hextension, hplan, reported, Except.map, Except.mapError]
    | ok operation =>
      simp [verdict, hextension, hplan, reported_record, Except.map, Except.mapError, eq_comm]

/-- A walk of one visit is reported on without an error exactly when the visit does not fail,
whatever the policy. -/
lemma reported_tally_singleton (policy : FailurePolicy) (v : Except Error (Option Operation)) :
    reported (tally policy Summary.empty [v]) = .ok summary ↔
      ∃ operation, v = .ok operation ∧
        summary = some ((operation.map Summary.empty.record).getD Summary.empty) := by
  cases v with
  | error e => cases policy <;> simp [tally, reported, Summary.recordFailure]
  | ok operation =>
    cases operation with
    | none => simp [tally, reported, Summary.empty, eq_comm]
    | some operation => simp [tally, reported, failed_record, Summary.empty, eq_comm]

lemma runFile_disk (mode : Mode) (settings : Settings) (hpath : disk.isFolder path = false) :
    (runFile mode settings disk path).disk = (runVisit mode settings disk (.file path)).disk := by
  cases hextension : Path.hasExtension path settings.extension <;>
    simp [runFile, runVisit, hpath, hextension]

lemma runVisits_singleton_disk (mode : Mode) (settings : Settings) (disk : Disk)
    (summary : Summary) (visit : Visit) :
    (runVisits mode settings disk summary [visit]).disk =
      (runVisit mode settings disk visit).disk := by
  cases hresult : (runVisit mode settings disk visit).result with
  | ok operation => simp [runVisits, hresult]
  | error e => cases hpolicy : settings.failurePolicy <;> simp [runVisits, hresult, hpolicy]

lemma plan_of_missing {fault : PathFault} (hmissing : disk.resolve true path = .error fault)
    (mode : Mode) : plan mode disk path = .error (.read (.path fault)) := by
  simp [plan, Disk.readText, Disk.readBytes, hmissing]

/-! ## What is there, and what is not -/

lemma resolve_of_isFolder_eq_false (hplain : disk.top.Plain)
    (hpath : disk.isFolder path = false) :
    (∃ location content, disk.resolve true path = .ok (location, .file content)) ∨
      ∃ fault, disk.resolve true path = .error fault := by
  cases hresolve : disk.resolve true path with
  | error fault => exact Or.inr ⟨fault, rfl⟩
  | ok found =>
    obtain ⟨location, node⟩ := found
    cases node with
    | file content => exact Or.inl ⟨location, content, rfl⟩
    | folder entries => simp [Disk.isFolder, hresolve] at hpath
    | link target => cases hplain.at? ((Disk.resolve_eq_ok hplain).1 hresolve).2.2

section

variable (hplain : disk.top.Plain) (hpath : disk.isFolder path = false)
include hplain hpath

/-- As a file or as the root of a walk, the path leaves the disk the same. -/
lemma runFolder_disk_of_isFolder_eq_false (mode : Mode) (settings : Settings)
    (globs : List Glob) :
    (runFolder mode settings globs disk path).disk = (runFile mode settings disk path).disk := by
  rw [runFile_disk mode settings hpath, runFolder]
  rcases resolve_of_isFolder_eq_false hplain hpath with ⟨location, content, hfile⟩ | ⟨fault, hnone⟩
  · rw [Disk.walk_of_file hplain hfile, runVisits_singleton_disk]
  · rw [Disk.walk_of_error hplain hnone, runVisits_singleton_disk]
    cases hextension : Path.hasExtension path settings.extension <;>
      simp [runVisit, hextension, refactorFile, plan_of_missing hnone]

/-- A walk from the path is reported on without an error exactly when there is a file and its
visit does not fail. -/
lemma reported_runFolder (mode : Mode) (settings : Settings) (globs : List Glob) :
    reported (runFolder mode settings globs disk path).result = .ok summary ↔
      (∃ found, disk.resolve true path = .ok found) ∧
        reported (runFile mode settings disk path).result = .ok summary := by
  rw [runFolder_result mode settings globs hplain, reported_runFile mode settings hpath]
  rcases resolve_of_isFolder_eq_false hplain hpath with ⟨location, content, hfile⟩ | ⟨fault, hnone⟩
  · rw [Disk.walk_of_file hplain hfile, List.map_singleton, reported_tally_singleton]
    constructor
    · rintro ⟨operation, hverdict, rfl⟩
      obtain ⟨operation, rfl⟩ : ∃ counted, operation = some counted := by
        cases operation with
        | none => exact absurd hverdict (verdict_file_ne_none mode _ disk path)
        | some counted => exact ⟨counted, rfl⟩
      exact ⟨⟨_, hfile⟩, operation, hverdict, rfl⟩
    · rintro ⟨-, operation, hverdict, rfl⟩
      exact ⟨some operation, hverdict, rfl⟩
  · rw [Disk.walk_of_error hplain hnone, List.map_singleton, reported_tally_singleton]
    simp [verdict, hnone]

omit hplain in
/-- Where nothing is, a single file is reported on without an error exactly when the path does not
have the extension. -/
lemma reported_runFile_of_missing (mode : Mode) (settings : Settings) {fault : PathFault}
    (hmissing : disk.resolve true path = .error fault) :
    (∃ summary, reported (runFile mode settings disk path).result = .ok summary) ↔
      Path.hasExtension path settings.extension = false := by
  simp only [reported_runFile mode settings hpath]
  cases hextension : Path.hasExtension path settings.extension with
  | false => simp [verdict_of_skipped mode disk hextension]
  | true =>
    simp [verdict, hextension, plan_of_missing hmissing, Except.map, Except.mapError]

end

end NodeKit.Refactoring

namespace NodeKit

open Refactoring

/-- On a disk without links, a path that is no folder is dealt with alike as a single file and as
the root of a walk: the disk is left the same, and a run succeeds as the one exactly when it
succeeds as the other, with the same summary. The reports agree exactly when something is there or
the path has the extension of candidates. -/
theorem RefactorRequest.run_folderSwitch (request : RefactorRequest) {mode : Mode}
    {globs : List Glob} {disk : Disk} (hmode : Mode.ofName request.mode = .ok mode)
    (hglobs : readGlobs request.excludes = .ok globs) (hplain : disk.top.Plain)
    (hpath : disk.isFolder request.path = false) :
    let single := { request with folder := false : RefactorRequest }.run disk
    let walked := { request with folder := true : RefactorRequest }.run disk
    single.disk = walked.disk ∧
      ((∀ summary, single.result = .ok summary ↔ walked.result = .ok summary) ↔
        (∃ found, disk.resolve true request.path = .ok found) ∨
          Path.hasExtension request.path request.extension = true) := by
  intro single walked
  let settings := { request with folder := true : RefactorRequest }.settings
  obtain ⟨hsingleDisk, hsingle⟩ :=
    run_of_mode { request with folder := false } hmode disk
  obtain ⟨hwalkedDisk, hwalked⟩ :=
    run_of_mode { request with folder := true } hmode disk
  obtain ⟨hfileDisk, hfile⟩ :=
    runPath_of_file { request with folder := false : RefactorRequest }.settings
      hglobs rfl mode disk request.path
  obtain ⟨hfolderDisk, hfolder⟩ :=
    runPath_of_folder settings hglobs rfl mode disk request.path
  -- a single file is not dealt with by the path mode, so the settings of the walk do for both
  have hdisk : single.disk = (runFile mode settings disk request.path).disk :=
    hsingleDisk.trans hfileDisk
  have hresult : single.result = reported (runFile mode settings disk request.path).result :=
    hsingle.trans (congrArg reported hfile)
  refine ⟨?_, ?_⟩
  · rw [hdisk, ← runFolder_disk_of_isFolder_eq_false hplain hpath mode settings globs]
    exact (hwalkedDisk.trans hfolderDisk).symm
  · have hwalkedResult : walked.result =
        reported (runFolder mode settings globs disk request.path).result :=
      hwalked.trans (congrArg reported hfolder)
    simp only [hresult, hwalkedResult, reported_runFolder hplain hpath]
    rcases resolve_of_isFolder_eq_false hplain hpath with
      ⟨location, content, hthere⟩ | ⟨fault, hmissing⟩
    · simp [hthere]
    · have hskipped := reported_runFile_of_missing hpath mode settings hmissing
      have hnone : ¬ ∃ found, disk.resolve true request.path = .ok found := by simp [hmissing]
      simp only [hnone, false_and, iff_false, false_or, ← not_exists]
      rw [hskipped, Bool.not_eq_false]
      rfl

/-- A file with the extension is reported on alike, be it asked for as a file or as a folder. -/
theorem RefactorRequest.run_folderSwitch_fiveFiles :
    let single : RefactorRequest :=
      ⟨"get-node-data", "n/A.cs", false, false, "cs", [], .abort, false⟩
    let walked : RefactorRequest :=
      ⟨"get-node-data", "n/A.cs", false, true, "cs", [], .abort, false⟩
    (single.run fiveFiles).disk = (walked.run fiveFiles).disk ∧
      ∀ summary, (single.run fiveFiles).result = .ok summary ↔
        (walked.run fiveFiles).result = .ok summary := by
  have hpath : fiveFiles.isFolder "n/A.cs" = false := by decide +kernel
  have hmode : Mode.ofName "get-node-data" = .ok .getNodeData := rfl
  have hglobs : readGlobs [] = .ok [] := rfl
  obtain ⟨hdisk, hresults⟩ := RefactorRequest.run_folderSwitch
    ⟨"get-node-data", "n/A.cs", false, false, "cs", [], .abort, false⟩
    hmode hglobs plain_fiveFiles hpath
  exact ⟨hdisk, hresults.2 (Or.inr (by decide +kernel))⟩

/-- Where nothing is and the path does not have the extension, the single file is skipped, which
counts as a success, while no walk can start. -/
theorem RefactorRequest.not_run_folderSwitch_missing :
    let disk : Disk := ⟨.emptyFolder, []⟩
    let single : RefactorRequest :=
      ⟨"get-node-data", "missing.txt", false, false, "cs", [], .abort, false⟩
    let walked : RefactorRequest :=
      ⟨"get-node-data", "missing.txt", false, true, "cs", [], .abort, false⟩
    disk.top.Plain ∧ disk.isFolder "missing.txt" = false ∧
      (single.run disk).result = .ok (some ⟨0, 0, 1, 0⟩) ∧
      (walked.run disk).result = .error (.walk "missing.txt" .notFound) := by
  refine ⟨.folder (by simp) (by simp) (by simp), by decide +kernel, by decide +kernel, ?_⟩
  decide +kernel

end NodeKit
