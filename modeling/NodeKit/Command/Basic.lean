import NodeKit.Boilerplate.Basic
import NodeKit.Refactoring.Settings

/-!
# Commands

What a command line asks for: to generate boilerplate, or to refactor a file or a
folder. The switches that exclude each other are kept as they were given; what they
choose together is read off them.
-/
namespace NodeKit

/-- What the generator is asked for. -/
structure GenerateRequest where
  editor : Bool
  runtime : Bool
  both : Bool
  tagStyle : Boilerplate.TagStyle
  /-- A file of declarations; none or a dash for the input stream. -/
  input : Option Text
deriving DecidableEq, Repr

namespace GenerateRequest

/-- The blocks that the switches choose. Without a switch that is both. -/
def outputMode (request : GenerateRequest) : Boilerplate.OutputMode :=
  if request.editor then .editor else if request.runtime then .runtime else .both

def options (request : GenerateRequest) : Boilerplate.Options :=
  ⟨request.outputMode, request.tagStyle⟩

end GenerateRequest

/-- What a refactoring run is asked for. -/
structure RefactorRequest where
  mode : Text
  path : Text
  file : Bool
  folder : Bool
  extension : Text
  excludes : List Text
  failurePolicy : Refactoring.FailurePolicy
  dryRun : Bool
deriving DecidableEq, Repr

namespace RefactorRequest

/-- A path is a single file unless the switch for folders is given. -/
def pathMode (request : RefactorRequest) : Refactoring.PathMode :=
  if request.folder then .folder else .file

def settings (request : RefactorRequest) : Refactoring.Settings :=
  ⟨request.pathMode, request.extension, request.excludes, request.failurePolicy, request.dryRun⟩

end RefactorRequest

/-- One of the two commands. -/
inductive Command where
  | generate (request : GenerateRequest)
  | refactor (request : RefactorRequest)
deriving DecidableEq, Repr

/-- A command, with the number of times that a longer log was asked for. -/
structure CommandLine where
  verbosity : Nat
  command : Command
deriving DecidableEq, Repr

/-- The level of the log. -/
def CommandLine.logLevel (line : CommandLine) : Severity := Severity.ofVerbosity line.verbosity

/-- Why no command is carried out. Help and the version are shown on request. -/
inductive Stop where
  | help
  | version
  | helpForNothing
  | unknownArgument
  | invalidSubcommand
  | invalidValue
  | tooManyValues
  | conflict
  | missingArgument
  | missingSubcommand
deriving DecidableEq, Repr

/-- The exit code of a program that stops at its command line. -/
def Stop.exitCode : Stop → Nat
  | .help | .version => 0
  | _ => 2

end NodeKit
