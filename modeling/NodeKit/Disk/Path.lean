import NodeKit.Text.Basic

/-!
# Paths

A path is a text with `/` between its parts. Empty parts do not count. A separator
at the end asks for a folder, as a single dot does, and is read as one.
-/
namespace NodeKit.Path

/-- One move along a path. -/
inductive Step where
  | here
  | up
  | into (name : Text)
deriving DecidableEq, Repr

/-- The parts between separators, the empty ones left out. -/
def parts (path : Text) : List Text := (path.splitOn '/').filter (!·.isEmpty)

/-- The move that a part stands for. -/
def Step.ofPart (part : Text) : Step :=
  if part = ['.'] then .here else if part = ['.', '.'] then .up else .into part

/-- The moves along a path. -/
def steps (path : Text) : List Step :=
  (parts path).map Step.ofPart ++ if path.getLast? = some '/' then [.here] else []

/-- Whether the path begins at the top of the file system. -/
def isAbsolute (path : Text) : Bool := path.head? = some '/'

/-- The path of a name inside a folder. -/
def join (folder name : Text) : Text :=
  if folder.getLast? = some '/' then folder ++ name else folder ++ '/' :: name

/-- The last name on a path. Dots do not count, and a path that ends by moving up has none. -/
def fileName? (path : Text) : Option Text :=
  match ((parts path).filter (· ≠ ['.'])).getLast? with
  | some name => if name = ['.', '.'] then none else some name
  | none => none

/-- What follows the last dot of a name. A name without a dot has none, and neither has one
whose only dot comes first. -/
def nameExtension? (name : Text) : Option Text :=
  let extension := (name.reverse.takeWhile (· ≠ '.')).reverse
  if extension.length + 1 < name.length then some extension else none

/-- The extension of the last name on a path. -/
def extension? (path : Text) : Option Text := (fileName? path).bind nameExtension?

/-- Whether the path has the extension, which may be given with dots in front. -/
def hasExtension (path extension : Text) : Bool :=
  extension? path = some (extension.dropWhile (· = '.'))

end NodeKit.Path
