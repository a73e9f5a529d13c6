import NodeKit.Disk.Fault
import NodeKit.Disk.Path

/-!
# A disk

Files, symbolic links and folders, and the folder that relative paths start from.
The entries of a folder are kept in the order in which it lists them. A location
is the list of names from the top of the disk, without links, and a path is led to
a location by following its links.
-/
namespace NodeKit

/-- What a name in a folder stands for. -/
inductive Node where
  | file (content : ByteArray)
  | link (target : Text)
  | folder (entries : List (Text × Node))

/-- The names and nodes in a folder, in listing order. -/
abbrev Entries := List (Text × Node)

/-- Names from the top of the disk. -/
abbrev Location := List Text

/-- A whole disk and its current folder. -/
structure Disk where
  top : Node
  current : Location

namespace Node

/-- An empty folder. -/
def emptyFolder : Node := .folder []

/-- The entries of a folder; none for anything else. -/
def entries? : Node → Option Entries
  | .folder entries => some entries
  | _ => none

/-- The node at a location below this one. Links are not followed. -/
def at? : Node → Location → Option Node
  | node, [] => some node
  | node, name :: rest => (node.entries?.bind (·.lookup name)).bind (·.at? rest)

end Node

/-- The entries with another node under a name, which comes last when it is new. -/
def Entries.put (name : Text) (node : Node) : Entries → Entries
  | [] => [(name, node)]
  | (first, old) :: rest =>
    if first = name then (name, node) :: rest else (first, old) :: Entries.put name node rest

@[simp] theorem Entries.lookup_put_self (name : Text) (node : Node) (entries : Entries) :
    (Entries.put name node entries).lookup name = some node := by
  fun_induction Entries.put name node entries with
  | case1 => simp
  | case2 => simp
  | case3 first old rest h ih =>
    have differs : (name == first) = false := by simpa using Ne.symm h
    simp [List.lookup_cons, differs, ih]

theorem Entries.lookup_put_of_ne {name other : Text} (h : other ≠ name) (node : Node)
    (entries : Entries) : (Entries.put name node entries).lookup other = entries.lookup other := by
  have hb : (other == name) = false := by simpa using h
  fun_induction Entries.put name node entries with
  | case1 => simp [List.lookup_cons, hb]
  | case2 => simp [List.lookup_cons, hb]
  | case3 first old rest _ ih => simp [List.lookup_cons, ih]

/-- The entries without a name. -/
def Entries.erase (name : Text) (entries : Entries) : Entries :=
  entries.filter fun entry => entry.1 ≠ name

namespace Node

/-- This node with another one at a location below it. Folders on the way are made where there
are none. -/
def put (node new : Node) : Location → Node
  | [] => new
  | name :: rest =>
    let entries := node.entries?.getD []
    let child := (entries.lookup name).getD emptyFolder
    .folder (Entries.put name (child.put new rest) entries)

/-- What was put at a location is found there. -/
@[simp] theorem at?_put (node new : Node) (location : Location) :
    (node.put new location).at? location = some new := by
  induction location generalizing node with
  | nil => simp [Node.put, Node.at?]
  | cons name rest ih => simp [Node.put, Node.at?, Node.entries?, ih]

/-- This node without the one at a location below it. -/
def erase (node : Node) : Location → Node
  | [] => node
  | [name] =>
    match node with
    | .folder entries => .folder (Entries.erase name entries)
    | other => other
  | name :: rest =>
    match node with
    | .folder entries =>
      match entries.lookup name with
      | some child => .folder (Entries.put name (child.erase rest) entries)
      | none => .folder entries
    | other => other

end Node

/-- Where a walk along the steps of a path ends. -/
inductive Arrival where
  /-- A location and what is there. -/
  | arrived (location : Location) (node : Node)
  /-- A link in a folder, with the steps that are left behind it. -/
  | atLink (folder : Location) (target : Text) (rest : List Path.Step)

namespace Disk

/-- How many links one path may lead through. -/
def maxLinks : Nat := 40

/-- Takes steps from a location up to the first link. Every step but the last has to find a
folder. A link in the last place is the end of the way when it is not to be followed. -/
def walkSteps (disk : Disk) (followLast : Bool) : Location → List Path.Step →
    Except PathFault Arrival
  | here, [] =>
    match disk.top.at? here with
    | some node => .ok (.arrived here node)
    | none => .error .notFound
  | here, step :: rest =>
    match disk.top.at? here with
    | some (.folder entries) =>
      match step with
      | .here => disk.walkSteps followLast here rest
      | .up => disk.walkSteps followLast here.dropLast rest
      | .into name =>
        match entries.lookup name with
        | none => .error .notFound
        | some (.link target) =>
          if rest.isEmpty && !followLast then .ok (.arrived (here ++ [name]) (.link target))
          else .ok (.atLink here target rest)
        | some _ => disk.walkSteps followLast (here ++ [name]) rest
    | some _ => .error .notADirectory
    | none => .error .notFound

/-- Takes steps from a location through at most the given number of links. -/
def followSteps (disk : Disk) (followLast : Bool) (links : Nat) (here : Location)
    (steps : List Path.Step) : Except PathFault (Location × Node) :=
  match disk.walkSteps followLast here steps with
  | .error fault => .error fault
  | .ok (.arrived location node) => .ok (location, node)
  | .ok (.atLink folder target rest) =>
    match links with
    | 0 => .error .tooManyLinks
    | links + 1 =>
      disk.followSteps followLast links (if Path.isAbsolute target then [] else folder)
        (Path.steps target ++ rest)

/-- The location and node that a path leads to. The empty path leads nowhere. -/
def resolve (disk : Disk) (followLast : Bool) (path : Text) :
    Except PathFault (Location × Node) :=
  if path.isEmpty then .error .notFound
  else disk.followSteps followLast maxLinks (if Path.isAbsolute path then [] else disk.current)
    (Path.steps path)

/-- Whether the path leads to a folder. -/
def isFolder (disk : Disk) (path : Text) : Bool :=
  match disk.resolve true path with
  | .ok (_, .folder _) => true
  | _ => false

/-- The bytes of a file. -/
def readBytes (disk : Disk) (path : Text) : Except PathFault ByteArray :=
  match disk.resolve true path with
  | .error fault => .error fault
  | .ok (_, .file content) => .ok content
  | .ok (_, _) => .error .isADirectory

/-- The text of a file. -/
def readText (disk : Disk) (path : Text) : Except ReadFault Text :=
  match disk.readBytes path with
  | .error fault => .error (.path fault)
  | .ok content =>
    match Text.decode? content with
    | some t => .ok t
    | none => .error .notUtf8

/-- Overwrites a file that exists. -/
def writeText (disk : Disk) (path content : Text) : Except PathFault Disk :=
  match disk.resolve true path with
  | .error fault => .error fault
  | .ok (location, .file _) =>
    .ok { disk with top := disk.top.put (.file (Text.encode content)) location }
  | .ok (_, _) => .error .isADirectory

end Disk

end NodeKit
