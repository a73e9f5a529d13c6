import NodeKit.Text.Quoted

/-!
# Settings of a refactoring run

Which files a run looks at, what it does when one of them fails, and whether it
writes anything.
-/
namespace NodeKit.Refactoring

/-- Whether a path is taken as a single file or as the root of a folder. -/
inductive PathMode where
  | file
  | folder
deriving DecidableEq, Repr

def PathMode.name : PathMode → Text
  | .file => "File"
  | .folder => "Folder"

/-- What becomes of a run over a folder when one file fails. -/
inductive FailurePolicy where
  /-- The run ends. What is already written stays. -/
  | abort
  /-- The failure is logged and counted, and the run goes on. -/
  | proceed
deriving DecidableEq, Repr

namespace FailurePolicy

def all : List FailurePolicy := [.abort, .proceed]

/-- The name under which a command line asks for the policy. -/
def name : FailurePolicy → Text
  | .abort => "abort"
  | .proceed => "continue"

/-- The name in log messages. -/
def title : FailurePolicy → Text
  | .abort => "Abort"
  | .proceed => "Continue"

end FailurePolicy

/-- The settings of one run. -/
structure Settings where
  pathMode : PathMode
  /-- The extension of candidate files. -/
  extension : Text
  /-- Globs for what is passed over below a folder. -/
  excludes : List Text
  failurePolicy : FailurePolicy
  /-- Whether the run only reports what it would do. -/
  dryRun : Bool
deriving DecidableEq, Repr

/-- The extension of candidate files unless another one is asked for. -/
def defaultExtension : Text := "cs"

/-- The settings on one line, as log messages show them. -/
def Settings.line (settings : Settings) : Text :=
  "RewriteOptions \x7b path_mode: " ++ settings.pathMode.name ++
    ", extension: " ++ Text.quote settings.extension ++
    ", excludes: " ++ Text.quoteList settings.excludes ++
    ", failure_policy: " ++ settings.failurePolicy.title ++
    ", dry_run: " ++ (if settings.dryRun then "true".toList else "false".toList) ++ " \x7d"

end NodeKit.Refactoring
