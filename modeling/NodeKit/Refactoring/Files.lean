import NodeKit.Disk.Walk
import NodeKit.Glob.Reading
import NodeKit.Refactoring.Basic
import NodeKit.Refactoring.Settings

/-!
# Refactoring files

One file, or every candidate below a folder, is read, refactored and written back.
A folder is walked first: a run writes to files only and so never changes what the
walk meets. The visits are then dealt with in order, each on the disk that the
earlier ones left.
-/
namespace NodeKit.Refactoring

/-- What the mode would do to the file at a path. Nothing is written. -/
def plan (mode : Mode) (disk : Disk) (path : Text) : Except Error Operation :=
  match disk.readText path with
  | .error fault => .error (.read fault)
  | .ok t =>
    match mode.apply t with
    | .error e => .error e
    | .ok new => .ok (if new = t then .unchanged path else .change path new)

/-- The log of planning. -/
def planRecords (mode : Mode) (disk : Disk) (path : Text) : List Record :=
  match disk.readText path with
  | .error _ => []
  | .ok t => mode.records t

/-- Writes what the operation changes, unless the run is dry. -/
def Operation.perform (dryRun : Bool) (disk : Disk) : Operation → Except Error Disk
  | .change path content =>
    if dryRun then .ok disk else (disk.writeText path content).mapError (.read ∘ .path)
  | .unchanged _ | .skip _ => .ok disk

/-- The log line of an operation that was carried out. -/
def Operation.record (mode : Mode) (dryRun : Bool) (operation : Operation) : Record :=
  ⟨.info, .files, mode.name ++ ": " ++ operation.message dryRun⟩

/-- A result, with the disk and the log that the way to it left. -/
structure Outcome (α : Type) where
  disk : Disk
  records : List Record
  result : Except Error α

/-- Plans one file and carries the plan out. -/
def refactorFile (mode : Mode) (dryRun : Bool) (disk : Disk) (path : Text) : Outcome Operation :=
  let planned := planRecords mode disk path
  match plan mode disk path with
  | .error e => ⟨disk, planned, .error e⟩
  | .ok operation =>
    match operation.perform dryRun disk with
    | .error e => ⟨disk, planned, .error e⟩
    | .ok left => ⟨left, planned ++ [operation.record mode dryRun], .ok operation⟩

/-! ## A single file -/

/-- Deals with a path that is to be a single file. One without the extension is left alone, even
when nothing is there. -/
def runFile (mode : Mode) (settings : Settings) (disk : Disk) (path : Text) : Outcome Summary :=
  if disk.isFolder path then ⟨disk, [], .error (.notAFile path)⟩
  else if Path.hasExtension path settings.extension then
    let done := refactorFile mode settings.dryRun disk path
    ⟨done.disk, done.records, done.result.map Summary.empty.record⟩
  else
    let operation := Operation.skip path
    ⟨disk,
      [⟨.warn, .files, "'" ++ path ++ "' does not have the ." ++ settings.extension ++
          " extension, leaving it alone"⟩,
        operation.record mode settings.dryRun],
      .ok (Summary.empty.record operation)⟩

/-! ## A folder -/

/-- What one visit comes to: nothing to count, an operation, or a failure. -/
def runVisit (mode : Mode) (settings : Settings) (disk : Disk) :
    Visit → Outcome (Option Operation)
  | .folder _ => ⟨disk, [], .ok none⟩
  | .excluded path => ⟨disk, [⟨.debug, .files, "Excluding '" ++ path ++ "'"⟩], .ok none⟩
  | .unreadable path fault => ⟨disk, [], .error (.walk path fault)⟩
  | .file path =>
    if Path.hasExtension path settings.extension then
      let done := refactorFile mode settings.dryRun disk path
      ⟨done.disk, done.records,
        (done.result.map some).mapError fun e => .fileFailed path e.message⟩
    else ⟨disk, [⟨.debug, .files, "Ignoring '" ++ path ++ "'"⟩], .ok (some (.skip path))⟩

/-- Deals with visits in order, counting on from a summary. -/
def runVisits (mode : Mode) (settings : Settings) (disk : Disk) (summary : Summary) :
    List Visit → Outcome Summary
  | [] => ⟨disk, [], .ok summary⟩
  | visit :: rest =>
    let done := runVisit mode settings disk visit
    match done.result with
    | .ok operation =>
      let counted := (operation.map summary.record).getD summary
      let later := runVisits mode settings done.disk counted rest
      ⟨later.disk, done.records ++ later.records, later.result⟩
    | .error e =>
      match settings.failurePolicy with
      | .abort => ⟨done.disk, done.records, .error e⟩
      | .proceed =>
        let later := runVisits mode settings done.disk summary.recordFailure rest
        ⟨later.disk, done.records ++ ⟨.error, .files, e.message⟩ :: later.records, later.result⟩

/-- Walks a folder and deals with what it meets. -/
def runFolder (mode : Mode) (settings : Settings) (globs : List Glob) (disk : Disk)
    (root : Text) : Outcome Summary :=
  runVisits mode settings disk Summary.empty (disk.walk globs root)

/-! ## A run -/

/-- Reads the exclude globs. The first one that cannot be read is the one reported. -/
def readGlobs : List Text → Except Error (List Glob)
  | [] => .ok []
  | pattern :: patterns =>
    match Glob.ofPattern pattern with
    | .error fault => .error (.glob pattern fault)
    | .ok glob => (readGlobs patterns).map (glob :: ·)

/-- The log of reading globs: each one is announced before it is read. -/
def globRecords : List Text → List Record
  | [] => []
  | pattern :: patterns =>
    ⟨.debug, .files, "Adding exclude pattern: " ++ pattern⟩ ::
      match Glob.ofPattern pattern with
      | .error _ => []
      | .ok _ => globRecords patterns

/-- Deals with a path as the settings say. The globs are read first, and for a single file too. -/
def runPath (mode : Mode) (settings : Settings) (disk : Disk) (path : Text) : Outcome Summary :=
  let announced := globRecords settings.excludes
  match readGlobs settings.excludes with
  | .error e => ⟨disk, announced, .error e⟩
  | .ok globs =>
    let done := match settings.pathMode with
      | .file => runFile mode settings disk path
      | .folder => runFolder mode settings globs disk path
    ⟨done.disk, announced ++ done.records, done.result⟩

end NodeKit.Refactoring
