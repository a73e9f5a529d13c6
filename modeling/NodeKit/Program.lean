import NodeKit.Command.Reading
import NodeKit.Refactoring.Files

/-!
# The program

A command runs on a disk and an input stream. What it leaves is the disk, the text
it printed, its log, and whether it failed. The whole program adds the exit code and
the line that reports an error.
-/
namespace NodeKit

/-- What a command leaves. -/
structure CommandOutcome (α : Type) where
  disk : Disk
  printed : Text
  records : List Record
  result : Except Error α

/-- The bytes of the declarations to read: the input stream, or a file when one is named. A dash
names the input stream. -/
def openInput (disk : Disk) (stdin : ByteArray) : Option Text → Except Error ByteArray
  | none | some ['-'] => .ok stdin
  | some path => (disk.readBytes path).mapError (.read ∘ .path)

/-- Runs the generator on the input that is asked for. -/
def GenerateRequest.run (request : GenerateRequest) (disk : Disk) (stdin : ByteArray) :
    Except Error (Option Text) := do
  Boilerplate.run request.options (← openInput disk stdin request.input)

/-- The log of running the generator. -/
def GenerateRequest.records (request : GenerateRequest) (disk : Disk) (stdin : ByteArray) :
    List Record :=
  match openInput disk stdin request.input with
  | .error _ => []
  | .ok input => Boilerplate.runRecords request.options input

/-- A line of printed text. -/
def printLine (t : Text) : Text := t ++ ['\n']

/-- Runs a refactoring. An unknown mode is printed and nothing is touched. Files that failed are
an error at the end, after the summary has been printed. -/
def RefactorRequest.run (request : RefactorRequest) (disk : Disk) :
    CommandOutcome (Option Refactoring.Summary) :=
  match Refactoring.Mode.ofName request.mode with
  | .error e => ⟨disk, printLine e.message, [], .ok none⟩
  | .ok mode =>
    let started : Record := ⟨.debug, .command, "Running " ++ mode.name ++ " over '" ++
      request.path ++ "' with " ++ request.settings.line⟩
    let done := Refactoring.runPath mode request.settings disk request.path
    let records := started :: done.records
    match done.result with
    | .error e => ⟨done.disk, [], records, .error e⟩
    | .ok summary =>
      if summary.failed = 0 then ⟨done.disk, [], records, .ok (some summary)⟩
      else ⟨done.disk,
        printLine ("Rewrite finished with failures: " ++ summary.text ++ "."), records,
        .error (.filesFailed summary.failed)⟩

/-- Runs a command and prints what it has to say. -/
def Command.run (disk : Disk) (stdin : ByteArray) : Command → CommandOutcome Unit
  | .generate request =>
    let records := request.records disk stdin
    match request.run disk stdin with
    | .error e => ⟨disk, [], records, .error e⟩
    | .ok none => ⟨disk, [], records, .ok ()⟩
    | .ok (some code) => ⟨disk, printLine code, records, .ok ()⟩
  | .refactor request =>
    let done := request.run disk
    match done.result with
    | .error e => ⟨done.disk, done.printed, done.records, .error e⟩
    | .ok none => ⟨done.disk, done.printed, done.records, .ok ()⟩
    | .ok (some summary) =>
      let line := Refactoring.dryRunMark request.dryRun ++ "Rewrite completed: " ++
        summary.text ++ "."
      ⟨done.disk, done.printed ++ printLine line, done.records, .ok ()⟩

/-- What the whole program leaves. -/
structure ProgramOutcome where
  disk : Disk
  exitCode : Nat
  printed : Text
  reported : Text
  records : List Record

/-- The line that shows the version. -/
def versionLine : Text := printLine "nodegen 0.1.0"

/-- Runs the program. When the command line stops it nothing is run, and only the version is
printed here: help and usage are not the program's own words. -/
def runProgram (arguments : List Text) (disk : Disk) (stdin : ByteArray) : ProgramOutcome :=
  match CommandLine.ofArguments arguments with
  | .error stop =>
    ⟨disk, stop.exitCode, if stop = .version then versionLine else [], [], []⟩
  | .ok line =>
    let done := line.command.run disk stdin
    let shown := shownAt line.logLevel done.records
    match done.result with
    | .ok () => ⟨done.disk, 0, done.printed, [], shown⟩
    | .error e => ⟨done.disk, 1, done.printed, printLine e.message, shown⟩

end NodeKit
