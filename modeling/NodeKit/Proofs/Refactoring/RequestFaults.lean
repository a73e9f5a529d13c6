import NodeKit.Proofs.Refactoring.Abort
import NodeKit.Proofs.Refactoring.Exclusion
import NodeKit.Proofs.Refactoring.SingleFile

/-!
# Requests that fail outside a walk

Mode, patterns, path, extension, bytes and text are looked at in this order, and nothing is
written before all of them are in order. So a request that fails on any of them leaves the
disk as it is, and when several things are wrong with it, the first in this order is the one
that is reported. A request for a single file that succeeds changes that file or nothing.
-/
namespace NodeKit.Refactoring

variable {mode : Mode} {settings : Settings} {disk : Disk} {path : Text}

lemma Mode.ofName_eq_error_iff {name : Text} :
    (∃ e, Mode.ofName name = .error e) ↔ ∀ mode : Mode, mode.name ≠ name := by
  constructor
  · rintro ⟨e, he⟩ mode rfl
    rw [Mode.ofName_name] at he
    cases he
  · intro hunknown
    cases hname : Mode.ofName name with
    | error e => exact ⟨e, rfl⟩
    | ok mode =>
      unfold Mode.ofName at hname
      split at hname
      · next found hfound =>
        exact absurd (by simpa using List.find?_some hfound) (hunknown found)
      · cases hname

lemma Mode.exists_patternNotFound {t : Text} {e : Error} (h : mode.apply t = .error e) :
    ∃ pattern context, e = .patternNotFound pattern context := by
  cases mode with
  | getNodeData => cases h
  | setNodeData => cases h
  | titleCategory =>
    simp only [Mode.apply, hoist] at h
    split at h
    · cases h
    · split at h
      · cases h
        exact ⟨_, _, rfl⟩
      · split at h
        · cases h
          exact ⟨_, _, rfl⟩
        · cases h

lemma plan_eq_error_iff {e : Error} :
    plan mode disk path = .error e ↔
      (∃ fault, disk.readText path = .error fault ∧ e = .read fault) ∨
        ∃ t, disk.readText path = .ok t ∧ mode.apply t = .error e := by
  unfold plan
  cases disk.readText path with
  | error fault => simp [eq_comm]
  | ok t => cases happly : mode.apply t <;> simp [happly]

/-- A file that nothing can be planned for is left as it is. -/
lemma refactorFile_disk_of_error {dryRun : Bool} {e : Error}
    (h : plan mode disk path = .error e) : (refactorFile mode dryRun disk path).disk = disk := by
  simp [refactorFile, h]

/-- A file that is not failed on is counted as changed exactly when a run that writes leaves other
bytes of it. -/
lemma changed_record_eq_one_iff (hplain : disk.top.Plain) (hdry : settings.dryRun = false)
    {operation : Operation}
    (h : verdict mode settings.extension disk (.file path) = .ok (some operation)) :
    (Summary.empty.record operation).changed = 1 ↔
      ∃ location node, disk.resolve true path = .ok (location, node) ∧
        (runVisit mode settings disk (.file path)).disk.contentAt? location ≠
          disk.contentAt? location := by
  rw [runVisit_disk hplain hdry]
  cases hextension : Path.hasExtension path settings.extension with
  | false =>
    rw [verdict_of_skipped mode disk hextension] at h
    cases h
    simp [target?, hextension, Summary.record, Summary.empty]
  | true =>
    cases hplan : plan mode disk path with
    | error e => simp [verdict, hextension, hplan, Except.map, Except.mapError] at h
    | ok planned =>
      obtain ⟨location, content, hresolve, haccepted⟩ := exists_file_of_plan hplan
      have hcontent : disk.contentAt? location = some content :=
        Disk.contentAt?_eq_some.2 ((Disk.resolve_eq_ok hplain).1 hresolve).2.2
      have htarget : target? settings.extension disk (.file path) = some location :=
        target?_eq_some.2 ⟨path, content, rfl, hextension, hresolve⟩
      have hwritten : (rewriteAt mode disk location).contentAt? location =
          some (mode.rewrite content) := by simp [contentAt?_rewriteAt, hcontent]
      rcases verdict_of_accepted hextension hresolve haccepted with
        ⟨hsame, hverdict⟩ | ⟨hother, new, hverdict⟩
      · obtain rfl : Operation.unchanged path = operation := by simpa [hverdict] using h
        simp [htarget, hresolve, hwritten, hcontent, hsame, Summary.record, Summary.empty]
      · obtain rfl : Operation.change path new = operation := by simpa [hverdict] using h
        simp [htarget, hresolve, hwritten, hcontent, hother, Summary.record, Summary.empty]

end NodeKit.Refactoring

namespace NodeKit

open Refactoring

/-- Whether a request for a single file comes to reading it. The patterns are read before that,
although none of them has a say about a single file. -/
structure RefactorRequest.OpensFile (request : RefactorRequest) (disk : Disk) : Prop where
  patterns : ∀ pattern ∈ request.excludes, ∃ glob, Glob.ofPattern pattern = .ok glob
  isFolder : disk.isFolder request.path = false
  hasExtension : Path.hasExtension request.path request.extension = true

/-- Why a request for a single file fails. -/
inductive SingleFileFault (mode : Mode) (request : RefactorRequest) (disk : Disk) : Error → Prop
  | pattern {pattern : Text} {fault : GlobFault}
      (first : FirstUnreadable request.excludes pattern fault) :
      SingleFileFault mode request disk (.glob pattern fault)
  | notAFile (patterns : ∀ pattern ∈ request.excludes, ∃ glob, Glob.ofPattern pattern = .ok glob)
      (isFolder : disk.isFolder request.path = true) :
      SingleFileFault mode request disk (.notAFile request.path)
  | unread {fault : ReadFault} (opens : request.OpensFile disk)
      (fails : disk.readText request.path = .error fault) :
      SingleFileFault mode request disk (.read fault)
  | refused {t pattern context : Text} (opens : request.OpensFile disk)
      (text : disk.readText request.path = .ok t)
      (fails : mode.apply t = .error (.patternNotFound pattern context)) :
      SingleFileFault mode request disk (.patternNotFound pattern context)

namespace RefactorRequest

variable {request : RefactorRequest} {mode : Mode} {globs : List Glob} {disk : Disk}

lemma pathMode_of_file (hfile : request.folder = false) : request.settings.pathMode = .file := by
  simp [settings, pathMode, hfile]

section

variable (hmode : Mode.ofName request.mode = .ok mode)
include hmode

lemma run_of_globError {e : Error} (hglobs : readGlobs request.excludes = .error e)
    (disk : Disk) :
    (request.run disk).disk = disk ∧ (request.run disk).result = .error e := by
  obtain ⟨hdisk, hresult⟩ := run_of_mode request hmode disk
  obtain ⟨hdisk', hresult'⟩ :=
    runPath_of_globError request.settings hglobs mode disk request.path
  rw [hdisk, hresult, hdisk', hresult']
  exact ⟨rfl, rfl⟩

section

variable (hfile : request.folder = false) (hglobs : readGlobs request.excludes = .ok globs)
include hfile hglobs

lemma run_of_file (disk : Disk) :
    (request.run disk).disk = (runFile mode request.settings disk request.path).disk ∧
      (request.run disk).result =
        reported (runFile mode request.settings disk request.path).result := by
  obtain ⟨hdisk, hresult⟩ := run_of_mode request hmode disk
  obtain ⟨hdisk', hresult'⟩ := runPath_of_file request.settings hglobs (pathMode_of_file hfile)
    mode disk request.path
  rw [hdisk, hresult, hdisk', hresult']
  exact ⟨rfl, rfl⟩

/-- What a request for a single file comes to, one check after the other. -/
lemma run_result_of_file :
    (request.run disk).result =
      if disk.isFolder request.path then .error (.notAFile request.path)
      else if Path.hasExtension request.path request.extension then
        (plan mode disk request.path).map fun operation => some (Summary.empty.record operation)
      else .ok (some (Summary.empty.record (.skip request.path))) := by
  rw [(run_of_file hmode hfile hglobs disk).2, runFile_result]
  change reported (if disk.isFolder request.path then _ else
    if Path.hasExtension request.path request.extension then _ else _) = _
  split_ifs
  · rfl
  · cases plan mode disk request.path with
    | error e => rfl
    | ok operation => exact reported_record operation
  · exact reported_record _

end

section

variable (hfile : request.folder = false)
include hfile

lemma run_of_planError (hopens : request.OpensFile disk) {e : Error}
    (hplan : plan mode disk request.path = .error e) :
    (request.run disk).disk = disk ∧ (request.run disk).result = .error e := by
  obtain ⟨globs, hglobs⟩ := exists_readGlobs_iff.2 hopens.patterns
  have hextension : Path.hasExtension request.path request.settings.extension = true :=
    hopens.hasExtension
  constructor
  · rw [(run_of_file hmode hfile hglobs disk).1, runFile]
    simpa [hopens.isFolder, hextension] using refactorFile_disk_of_error hplan
  · simp [run_result_of_file hmode hfile hglobs, hopens.isFolder, hopens.hasExtension, hplan,
      Except.map]

/-- A request for a single file reports the fault that it has, and writes nothing. -/
lemma run_of_fault {e : Error} (h : SingleFileFault mode request disk e) :
    (request.run disk).disk = disk ∧ (request.run disk).result = .error e := by
  cases h with
  | pattern first =>
    exact run_of_globError hmode (readGlobs_eq_error_iff.2 ⟨_, _, first, rfl⟩) disk
  | notAFile patterns isFolder =>
    obtain ⟨globs, hglobs⟩ := exists_readGlobs_iff.2 patterns
    constructor
    · simp [(run_of_file hmode hfile hglobs disk).1, runFile, isFolder]
    · simp [run_result_of_file hmode hfile hglobs, isFolder]
  | unread opens fails =>
    exact run_of_planError hmode hfile opens (plan_eq_error_iff.2 (.inl ⟨_, fails, rfl⟩))
  | refused opens text fails =>
    exact run_of_planError hmode hfile opens (plan_eq_error_iff.2 (.inr ⟨_, text, fails⟩))

lemma fault_of_run {e : Error} (h : (request.run disk).result = .error e) :
    SingleFileFault mode request disk e := by
  cases hglobs : readGlobs request.excludes with
  | error cause =>
    obtain ⟨pattern, fault, hfirst, rfl⟩ := readGlobs_eq_error_iff.1 hglobs
    rw [(run_of_globError hmode hglobs disk).2] at h
    cases h
    exact .pattern hfirst
  | ok globs =>
    have hpatterns := exists_readGlobs_iff.1 ⟨globs, hglobs⟩
    rw [run_result_of_file hmode hfile hglobs] at h
    split_ifs at h with hfolder hextension
    · cases h
      exact .notAFile hpatterns hfolder
    · have hopens : request.OpensFile disk := ⟨hpatterns, by simpa using hfolder, hextension⟩
      cases hplan : plan mode disk request.path with
      | ok operation => simp [hplan, Except.map] at h
      | error cause =>
        obtain rfl : cause = e := by simpa [hplan, Except.map] using h
        rcases plan_eq_error_iff.1 hplan with ⟨fault, hfails, rfl⟩ | ⟨t, htext, hfails⟩
        · exact .unread hopens hfails
        · obtain ⟨pattern, context, rfl⟩ := Mode.exists_patternNotFound hfails
          exact .refused hopens htext hfails

/-- A request for a single file that does not fail has come to a verdict on the file. -/
lemma verdict_of_run {summary : Option Summary} (h : (request.run disk).result = .ok summary) :
    (request.run disk).disk =
        (runVisit mode request.settings disk (.file request.path)).disk ∧
      ∃ operation, verdict mode request.extension disk (.file request.path) = .ok (some operation) ∧
        summary = some (Summary.empty.record operation) := by
  cases hglobs : readGlobs request.excludes with
  | error cause =>
    rw [(run_of_globError hmode hglobs disk).2] at h
    cases h
  | ok globs =>
    obtain ⟨hdisk, hresult⟩ := run_of_file hmode hfile hglobs disk
    have hpath : disk.isFolder request.path = false := by
      by_contra hfolder
      rw [run_result_of_file hmode hfile hglobs, if_pos (by simpa using hfolder)] at h
      cases h
    rw [runFile_disk mode request.settings hpath] at hdisk
    exact ⟨hdisk, (reported_runFile mode request.settings hpath).1 (hresult.symm.trans h)⟩

end

/-- Whether a request writes is of no account for what it reports. -/
lemma run_result_withDryRun (hplain : disk.top.Plain) (dryRun : Bool) :
    ({ request with dryRun : RefactorRequest }.run disk).result = (request.run disk).result := by
  rw [(run_of_mode { request with dryRun } hmode disk).2, (run_of_mode request hmode disk).2,
    runPath_result mode _ hplain, runPath_result mode _ hplain]
  rfl

/-- A pattern that cannot be read is enough for a request to fail, for the first such pattern. -/
lemma run_of_unreadPattern
    (hunread : ∃ pattern ∈ request.excludes, ∃ fault, Glob.ofPattern pattern = .error fault) :
    (request.run disk).disk = disk ∧
      ∃ pattern fault, FirstUnreadable request.excludes pattern fault ∧
        (request.run disk).result = .error (.glob pattern fault) := by
  obtain ⟨unread, hmem, cause, hcause⟩ := hunread
  cases hglobs : readGlobs request.excludes with
  | ok globs =>
    obtain ⟨glob, hglob⟩ := exists_readGlobs_iff.1 ⟨globs, hglobs⟩ unread hmem
    rw [hcause] at hglob
    cases hglob
  | error e =>
    obtain ⟨pattern, fault, hfirst, rfl⟩ := readGlobs_eq_error_iff.1 hglobs
    obtain ⟨hdisk, hresult⟩ := run_of_globError hmode hglobs disk
    exact ⟨hdisk, pattern, fault, hfirst, hresult⟩

/-- A request for a single file that does not fail overwrites that file or none, and counts it as
changed exactly when a run that writes leaves other bytes of it. -/
lemma run_ok_of_file (hplain : disk.top.Plain) (hfile : request.folder = false)
    {result : Option Summary} (hresult : (request.run disk).result = .ok result) :
    let written := { request with dryRun := false : RefactorRequest }.run disk
    ∃ summary, result = some summary ∧ disk.SameShape (request.run disk).disk ∧
      (∀ location, (∀ node, disk.resolve true request.path ≠ .ok (location, node)) →
        (request.run disk).disk.contentAt? location = disk.contentAt? location) ∧
      (summary.changed = 1 ↔
        ∃ location node, disk.resolve true request.path = .ok (location, node) ∧
          written.disk.contentAt? location ≠ disk.contentAt? location) := by
  intro written
  have hreal : written.result = .ok result :=
    (run_result_withDryRun hmode hplain false).trans hresult
  obtain ⟨hwritten, -⟩ :=
    @verdict_of_run { request with dryRun := false } mode disk hmode hfile _ hreal
  obtain ⟨hdisk, operation, hverdict, rfl⟩ := verdict_of_run hmode hfile hresult
  obtain ⟨-, hshape, hkept⟩ := runVisit_keeps mode request.settings hplain (.file request.path)
  refine ⟨_, rfl, ?_, ?_, ?_⟩
  · rwa [← hdisk] at hshape
  · intro location helsewhere
    rw [hdisk]
    apply hkept location
    intro htarget
    obtain ⟨path, content, hpath, -, hresolve⟩ := target?_eq_some.1 htarget
    cases hpath
    exact helsewhere _ hresolve
  · rw [show written.disk = _ from hwritten]
    exact changed_record_eq_one_iff hplain rfl hverdict

end

/-- On a disk without links a request that fails before any file is walked leaves the disk as it is.
With an unknown mode it does nothing at all. With a known one, but a pattern that cannot be read, it
reports the first such pattern, whatever the path is and whether or not anything is there. A request
for a single file reports an error exactly when it has that fault; any other one changes no file but
the one that it names, which is counted as changed exactly when a run that writes leaves other bytes
of it. -/
theorem run_faults (request : RefactorRequest) {disk : Disk} (hplain : disk.top.Plain) :
    let done := request.run disk
    let written := { request with dryRun := false : RefactorRequest }.run disk
    ((∀ mode : Mode, mode.name ≠ request.mode) → done.disk = disk ∧ done.result = .ok none) ∧
      ∀ mode : Mode, mode.name = request.mode →
        ((∃ pattern ∈ request.excludes, ∃ fault, Glob.ofPattern pattern = .error fault) →
          done.disk = disk ∧ ∃ pattern fault, FirstUnreadable request.excludes pattern fault ∧
            done.result = .error (.glob pattern fault)) ∧
        (request.folder = false →
          (∀ e, done.result = .error e ↔ SingleFileFault mode request disk e) ∧
          (∀ e, done.result = .error e → done.disk = disk) ∧
          ∀ result, done.result = .ok result → ∃ summary, result = some summary ∧
            disk.SameShape done.disk ∧
            (∀ location, (∀ node, disk.resolve true request.path ≠ .ok (location, node)) →
              done.disk.contentAt? location = disk.contentAt? location) ∧
            (summary.changed = 1 ↔
              ∃ location node, disk.resolve true request.path = .ok (location, node) ∧
                written.disk.contentAt? location ≠ disk.contentAt? location)) := by
  intro done written
  refine ⟨?_, ?_⟩
  · intro hunknown
    obtain ⟨e, hmode⟩ := Mode.ofName_eq_error_iff.2 hunknown
    exact run_of_unknownMode request hmode disk
  · intro mode hname
    have hmode : Mode.ofName request.mode = .ok mode := hname ▸ Mode.ofName_name mode
    refine ⟨run_of_unreadPattern hmode, fun hfile => ⟨?_, ?_, ?_⟩⟩
    · intro e
      exact ⟨fault_of_run hmode hfile, fun hfault => (run_of_fault hmode hfile hfault).2⟩
    · intro e herror
      exact (run_of_fault hmode hfile (fault_of_run hmode hfile herror)).1
    · intro result hresult
      exact run_ok_of_file hmode hplain hfile hresult

/-- Of two patterns that cannot be read the first is reported, although nothing is at the path. A
folder is no single file. A file that is rewritten counts as changed, and its neighbour is kept. -/
theorem run_faults_fiveFiles :
    let request path folder excludes : RefactorRequest :=
      ⟨"get-node-data", path, false, folder, "cs", excludes, .abort, false⟩
    let unread := (request "missing" true ["*.txt", "[", "a\\"]).run fiveFiles
    let folder := (request ['n'] false []).run fiveFiles
    let single := (request "n/A.cs" false []).run fiveFiles
    (unread.disk = fiveFiles ∧ unread.result = .error (.glob ['['] .unclosedSet)) ∧
      (folder.disk = fiveFiles ∧ folder.result = .error (.notAFile ['n'])) ∧
      single.result = .ok (some ⟨1, 0, 0, 0⟩) ∧
      single.disk.contentAt? [['n'], "A.cs"] ≠ fiveFiles.contentAt? [['n'], "A.cs"] ∧
      single.disk.contentAt? [['n'], "C.cs"] = fiveFiles.contentAt? [['n'], "C.cs"] := by
  intro request unread folder single
  have hname : Mode.getNodeData.name = "get-node-data" := rfl
  have hfault : Glob.ofPattern ['['] = .error .unclosedSet := by cbv
  have hglobs : readGlobs ["*.txt", "[", "a\\"] = .error (.glob ['['] .unclosedSet) := by cbv
  refine ⟨?_, ?_, ?_⟩
  · obtain ⟨-, hmode⟩ :=
      run_faults (request "missing" true ["*.txt", "[", "a\\"]) plain_fiveFiles
    obtain ⟨hdisk, pattern, fault, hfirst, hresult⟩ :=
      (hmode .getNodeData hname).1 ⟨['['], by simp [request], _, hfault⟩
    have hsame := (readGlobs_eq_error_iff.2 ⟨_, _, hfirst, rfl⟩).symm.trans hglobs
    exact ⟨hdisk, hresult.trans (congrArg Except.error (Except.error.inj hsame))⟩
  · obtain ⟨-, hmode⟩ := run_faults (request ['n'] false []) plain_fiveFiles
    obtain ⟨hiff, hkept, -⟩ := (hmode .getNodeData hname).2 rfl
    have hresult := (hiff _).2 (.notAFile (by simp [request]) (by decide +kernel))
    exact ⟨hkept _ hresult, hresult⟩
  · obtain ⟨-, hmode⟩ := run_faults (request "n/A.cs" false []) plain_fiveFiles
    obtain ⟨-, -, hok⟩ := (hmode .getNodeData hname).2 rfl
    have hresult : single.result = .ok (some ⟨1, 0, 0, 0⟩) := by decide +kernel
    have hresolve : fiveFiles.resolve true "n/A.cs" =
        .ok ([['n'], "A.cs"], .file (Text.encode getNodeDataChange.old)) := rfl
    obtain ⟨summary, hsummary, -, hothers, hchanged⟩ := hok _ hresult
    obtain rfl := Option.some.inj hsummary
    refine ⟨hresult, ?_, hothers _ ?_⟩
    · obtain ⟨location, node, hlocation, hcontent⟩ := hchanged.1 rfl
      rw [show fiveFiles.resolve true "n/A.cs" = .ok (location, node) from hlocation] at hresolve
      cases hresolve
      exact hcontent
    · intro node hother
      rw [show fiveFiles.resolve true "n/A.cs" = _ from hother] at hresolve
      cases hresolve

end RefactorRequest

end NodeKit
