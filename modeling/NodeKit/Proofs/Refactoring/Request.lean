import NodeKit.Program
import NodeKit.Proofs.Refactoring.Verdict

/-!
# What a request comes to

A request names a mode and globs, which are read before anything is touched, and then
runs over a path. A dry run reads and reports what a run that writes does, as none of
the verdicts that make up a report depends on what has been written.
-/
namespace NodeKit

open Refactoring

/-- What is reported of a run: its summary, unless files failed. -/
def reported : Except Error Summary → Except Error (Option Summary)
  | .error e => .error e
  | .ok summary =>
    if summary.failed = 0 then .ok (some summary) else .error (.filesFailed summary.failed)

variable {mode : Mode} {settings : Settings} {globs : List Glob} {disk : Disk}

namespace RefactorRequest

lemma run_of_unknownMode (request : RefactorRequest) {e : Error}
    (hmode : Mode.ofName request.mode = .error e) (disk : Disk) :
    (request.run disk).disk = disk ∧ (request.run disk).result = .ok none := by
  simp [run, hmode]

lemma run_of_mode (request : RefactorRequest) (hmode : Mode.ofName request.mode = .ok mode)
    (disk : Disk) :
    (request.run disk).disk = (runPath mode request.settings disk request.path).disk ∧
      (request.run disk).result =
        reported (runPath mode request.settings disk request.path).result := by
  unfold run
  simp only [hmode]
  cases (runPath mode request.settings disk request.path).result with
  | error e => exact ⟨rfl, rfl⟩
  | ok summary => by_cases hfailed : summary.failed = 0 <;> simp [reported, hfailed]

end RefactorRequest

namespace Refactoring

lemma runPath_of_globError (settings : Settings) {e : Error}
    (hglobs : readGlobs settings.excludes = .error e) (mode : Mode) (disk : Disk) (path : Text) :
    (runPath mode settings disk path).disk = disk ∧
      (runPath mode settings disk path).result = .error e := by
  simp [runPath, hglobs]

lemma runPath_of_file (settings : Settings) (hglobs : readGlobs settings.excludes = .ok globs)
    (hpath : settings.pathMode = .file) (mode : Mode) (disk : Disk) (path : Text) :
    (runPath mode settings disk path).disk = (runFile mode settings disk path).disk ∧
      (runPath mode settings disk path).result = (runFile mode settings disk path).result := by
  simp [runPath, hglobs, hpath]

lemma runPath_of_folder (settings : Settings) (hglobs : readGlobs settings.excludes = .ok globs)
    (hpath : settings.pathMode = .folder) (mode : Mode) (disk : Disk) (path : Text) :
    (runPath mode settings disk path).disk = (runFolder mode settings globs disk path).disk ∧
      (runPath mode settings disk path).result =
        (runFolder mode settings globs disk path).result := by
  simp [runPath, hglobs, hpath]

lemma runFile_result (mode : Mode) (settings : Settings) (disk : Disk) (path : Text) :
    (runFile mode settings disk path).result =
      if disk.isFolder path then .error (.notAFile path)
      else if Path.hasExtension path settings.extension then
        (plan mode disk path).map Summary.empty.record
      else .ok (Summary.empty.record (.skip path)) := by
  unfold runFile
  split
  · rfl
  · split
    · simp [refactorFile_result]
    · rfl

/-! ## Dry runs -/

lemma runFile_disk_of_dryRun (mode : Mode) (hdry : settings.dryRun = true) (disk : Disk)
    (path : Text) : (runFile mode settings disk path).disk = disk := by
  unfold runFile
  split
  · rfl
  · split
    · simpa [hdry] using refactorFile_disk_of_dryRun mode disk path
    · rfl

lemma runVisits_disk_of_dryRun (mode : Mode) (hdry : settings.dryRun = true) (disk : Disk)
    (summary : Summary) (visits : List Visit) :
    (runVisits mode settings disk summary visits).disk = disk := by
  induction visits generalizing summary with
  | nil => rfl
  | cons visit rest ih =>
    have hstep : (runVisit mode settings disk visit).disk = disk :=
      runVisit_disk_of_dryRun mode hdry disk visit
    unfold runVisits
    cases hresult : (runVisit mode settings disk visit).result with
    | ok operation => simpa [hresult, hstep] using ih _
    | error e =>
      cases hpolicy : settings.failurePolicy with
      | abort => simpa [hresult, hpolicy] using hstep
      | proceed => simpa [hresult, hpolicy, hstep] using ih _

/-- A dry run leaves the disk as it is. -/
lemma runPath_disk_of_dryRun (mode : Mode) (hdry : settings.dryRun = true) (disk : Disk)
    (path : Text) : (runPath mode settings disk path).disk = disk := by
  cases hglobs : readGlobs settings.excludes with
  | error e => exact (runPath_of_globError settings hglobs mode disk path).1
  | ok globs =>
    cases hpath : settings.pathMode with
    | file =>
      exact (runPath_of_file settings hglobs hpath mode disk path).1.trans
        (runFile_disk_of_dryRun mode hdry disk path)
    | folder =>
      exact (runPath_of_folder settings hglobs hpath mode disk path).1.trans
        (runVisits_disk_of_dryRun mode hdry disk Summary.empty _)

/-- What a run over a path comes to is told by the globs and by the verdicts on the disk that it
starts from. -/
lemma runPath_result (mode : Mode) (settings : Settings) (hplain : disk.top.Plain) (path : Text) :
    (runPath mode settings disk path).result =
      (readGlobs settings.excludes).bind fun globs =>
        match settings.pathMode with
        | .file =>
          if disk.isFolder path then .error (.notAFile path)
          else if Path.hasExtension path settings.extension then
            (plan mode disk path).map Summary.empty.record
          else .ok (Summary.empty.record (.skip path))
        | .folder =>
          tally settings.failurePolicy Summary.empty
            ((disk.walk globs path).map (verdict mode settings.extension disk)) := by
  cases hglobs : readGlobs settings.excludes with
  | error e => exact (runPath_of_globError settings hglobs mode disk path).2
  | ok globs =>
    cases hpath : settings.pathMode with
    | file =>
      exact (runPath_of_file settings hglobs hpath mode disk path).2.trans
        (runFile_result mode settings disk path)
    | folder =>
      exact (runPath_of_folder settings hglobs hpath mode disk path).2.trans
        (runFolder_result mode settings globs hplain path)

end Refactoring

/-- On a disk without links a dry run leaves everything as it is, and it reports what the run that
writes reports, be it a summary or an error: for any path, as a file or as a folder, for any mode
and globs, and under either policy. -/
theorem RefactorRequest.run_dryRun (request : RefactorRequest) {disk : Disk}
    (hplain : disk.top.Plain) :
    let dry := { request with dryRun := true : RefactorRequest }.run disk
    let real := { request with dryRun := false : RefactorRequest }.run disk
    dry.disk = disk ∧ dry.result = real.result := by
  cases hmode : Mode.ofName request.mode with
  | error e =>
    obtain ⟨hdisk, hdry⟩ :=
      run_of_unknownMode { request with dryRun := true } hmode disk
    obtain ⟨-, hreal⟩ :=
      run_of_unknownMode { request with dryRun := false } hmode disk
    exact ⟨hdisk, hdry.trans hreal.symm⟩
  | ok mode =>
    obtain ⟨hdisk, hdry⟩ := run_of_mode { request with dryRun := true } hmode disk
    obtain ⟨-, hreal⟩ := run_of_mode { request with dryRun := false } hmode disk
    refine ⟨hdisk.trans (runPath_disk_of_dryRun mode rfl disk _), ?_⟩
    rw [runPath_result mode _ hplain] at hdry hreal
    exact hdry.trans hreal.symm

/-- Of five files one fails, which a dry run reports although it leaves all of them as they are. -/
theorem RefactorRequest.run_dryRun_fiveFiles :
    let dry : RefactorRequest := ⟨"get-node-data", ['n'], false, true, "cs", [], .proceed, true⟩
    (dry.run fiveFiles).disk = fiveFiles ∧
      (dry.run fiveFiles).result = .error (.filesFailed 1) := by
  let request : RefactorRequest := ⟨"get-node-data", ['n'], false, true, "cs", [], .proceed, false⟩
  obtain ⟨hdisk, hresult⟩ := request.run_dryRun plain_fiveFiles
  refine ⟨hdisk, hresult.trans ?_⟩
  have hmode : Mode.ofName request.mode = .ok .getNodeData := rfl
  obtain ⟨-, hreal⟩ := request.run_of_mode hmode fiveFiles
  rw [runPath_result _ _ plain_fiveFiles] at hreal
  refine hreal.trans ?_
  change reported (tally .proceed Summary.empty
    ((fiveFiles.walk [] ['n']).map (verdict .getNodeData "cs" fiveFiles))) = _
  rw [verdicts_fiveFiles]
  rfl

end NodeKit
