import NodeKit.Text.Basic

/-!
# What a file system refuses

The reasons why a path cannot be opened or read, with the wording of the
operating system.
-/
namespace NodeKit

/-- Why a path does not lead to what was asked for. -/
inductive PathFault where
  | notFound
  | notADirectory
  | isADirectory
  | tooManyLinks
deriving DecidableEq, Repr

def PathFault.message : PathFault → Text
  | .notFound => "No such file or directory (os error 2)"
  | .notADirectory => "Not a directory (os error 20)"
  | .isADirectory => "Is a directory (os error 21)"
  | .tooManyLinks => "Too many levels of symbolic links (os error 40)"

/-- Why no text was read. -/
inductive ReadFault where
  | path (fault : PathFault)
  | notUtf8
deriving DecidableEq, Repr

def ReadFault.message : ReadFault → Text
  | .path fault => fault.message
  | .notUtf8 => "stream did not contain valid UTF-8"

end NodeKit
