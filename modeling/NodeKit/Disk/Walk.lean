import NodeKit.Disk.Basic
import NodeKit.Glob.Matching

/-!
# Walking a folder

A walk visits a root and everything below it, each folder before its entries and
the entries in listing order. Links below the root are visited like files and not
entered. What an exclude glob matches is passed over, and a folder that is passed
over is not entered. The globs see names below the root only, never the root.
-/
namespace NodeKit

/-- One event of a walk, with the path under which it was met. -/
inductive Visit where
  | folder (path : Text)
  /-- A file, or a link that is not entered. -/
  | file (path : Text)
  /-- Matched by an exclude glob. -/
  | excluded (path : Text)
  /-- A root that cannot be opened. -/
  | unreadable (path : Text) (fault : PathFault)
deriving DecidableEq, Repr

/-- Whether any of the globs matches the names of a path. -/
def excludes (globs : List Glob) (names : List Text) : Bool :=
  globs.any (·.matchesPath names)

/-- Walks the entries of a folder. `path` is the folder's own path, and `names` are its names
below the root. -/
def walkEntries (globs : List Glob) (path : Text) (names : List Text) : Entries → List Visit
  | [] => []
  | (name, node) :: rest =>
    let childPath := Path.join path name
    let childNames := names ++ [name]
    (if excludes globs childNames then [.excluded childPath]
      else match node with
        | .folder entries => .folder childPath :: walkEntries globs childPath childNames entries
        | _ => [.file childPath]) ++
      walkEntries globs path names rest

/-- Walks from a root. A root that is a link is visited as the link that it is, and is entered
when it leads to a folder. -/
def Disk.walk (disk : Disk) (globs : List Glob) (root : Text) : List Visit :=
  match disk.resolve false root with
  | .error fault => [.unreadable root fault]
  | .ok (_, .folder entries) => .folder root :: walkEntries globs root [] entries
  | .ok (_, .file _) => [.file root]
  | .ok (_, .link _) =>
    match disk.resolve true root with
    | .error fault => [.unreadable root fault]
    | .ok (_, .folder entries) => .file root :: walkEntries globs root [] entries
    | .ok (_, _) => [.file root]

end NodeKit
