import NodeKit.Disk.Fault
import NodeKit.Glob.Basic
import NodeKit.Template.Basic

/-!
# Errors

Every way in which a run can fail, and the one line that is shown for it. An
error that wraps another one carries what is needed to show the cause.
-/
namespace NodeKit

/-- Why a run failed. -/
inductive Error where
  /-- A file or the input stream could not be read. -/
  | read (fault : ReadFault)
  /-- A folder could not be entered. -/
  | walk (path : Text) (fault : PathFault)
  | glob (pattern : Text) (fault : GlobFault)
  | template (fault : TemplateFault)
  /-- A declaration line has too few words for its shape. -/
  | malformedLine (number : Nat) (line : Text) (expected found : Nat)
  /-- Code that a refactoring relies on is missing. -/
  | patternNotFound (pattern context : Text)
  | unknownMode (mode : Text)
  | notAFile (path : Text)
  /-- One file of a folder failed, for the cause given in words. -/
  | fileFailed (path cause : Text)
  /-- A run over a folder ended with this many failed files. -/
  | filesFailed (failed : Nat)
deriving DecidableEq, Repr

/-- The line that reports the error. -/
def Error.message : Error → Text
  | .read fault => "IO error: " ++ fault.message ++ "."
  | .walk path fault =>
    "Failed to walk directory. Original error: IO error for operation on " ++ path ++ ": " ++
      fault.message
  | .glob pattern fault =>
    "Failed to parse exclude pattern. Original error: error parsing glob '" ++ pattern ++ "': " ++
      fault.message
  | .template fault => "Failed to render. Original error: " ++ fault.message
  | .malformedLine number line expected found =>
    "Malformed declaration on line " ++ Text.ofNat number ++ ": '" ++ line ++ "' (expected " ++
      Text.ofNat expected ++ " tokens, found " ++ Text.ofNat found ++ ")."
  | .patternNotFound pattern context =>
    "Pattern '" ++ pattern ++ "' not found while " ++ context ++ "."
  | .unknownMode mode => "Invalid mode \"" ++ mode ++ "\""
  | .notAFile path =>
    "Cannot proceed: '" ++ path ++ "' is not a file. Use --folder to process a directory."
  | .fileFailed path cause => "Cannot rewrite '" ++ path ++ "'. Original error: " ++ cause
  | .filesFailed failed => Text.ofNat failed ++ " file(s) failed to rewrite."

end NodeKit
