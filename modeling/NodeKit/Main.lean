import NodeKit.Program

/-!
# The executable

The part of the real file system that a command names is read into a disk, the
command runs on that disk, and the files that it changed are written back. Files
that cannot be read are left out of the disk. A link is taken over with the place
that it finally leads to.
-/
namespace NodeKit.Main

/-- The text of a location from the top of the file system. -/
def locationPath (location : Location) : String :=
  "/" ++ String.ofList (Text.joinWith ['/'] location)

/-- A location as the file system's functions take it. -/
def entryAt (location : Location) : IO.FS.DirEntry where
  root := "/"
  fileName := String.ofList (Text.joinWith ['/'] location)

def put (disk : Disk) (location : Location) (node : Node) : Disk :=
  { disk with top := disk.top.put node location }

/-- A name that no folder holds, for a link that leads nowhere. -/
def nowhere : Text := ['\x00']

mutual

/-- Reads what is at a location, and with `deep` everything below it. -/
partial def loadAt (deep : Bool) (disk : Disk) (location : Location) : IO Disk := do
  if (disk.top.at? location).isSome && !deep then return disk
  let path := (entryAt location).path
  try
    match (← path.symlinkMetadata).type with
    | .dir =>
      let kept := if (disk.top.at? location).isSome then disk else put disk location .emptyFolder
      if !deep then return kept
      let mut loaded := kept
      for entry in ← path.readDir do
        loaded ← loadAt true loaded (location ++ [entry.fileName.toList])
      return loaded
    | .symlink =>
      if !(← path.pathExists) then return put disk location (.link nowhere)
      let target := (← IO.FS.realPath path).toString.toList
      loadSteps false (put disk location (.link target)) [] (Path.steps target)
    | _ => return put disk location (.file (← IO.FS.readBinFile path))
  catch _ => return disk

/-- Reads what the steps from a location lead through, and the end of the way. -/
partial def loadSteps (deep : Bool) (disk : Disk) (here : Location) (steps : List Path.Step) :
    IO Disk := do
  match steps with
  | [] => if deep then loadAt true disk here else return disk
  | .here :: rest => loadSteps deep disk here rest
  | .up :: rest => loadSteps deep disk here.dropLast rest
  | .into name :: rest =>
    let loaded ← loadAt false disk (here ++ [name])
    match loaded.top.at? (here ++ [name]) with
    | some (.link target) => loadSteps deep loaded [] (Path.steps target ++ rest)
    | some _ => loadSteps deep loaded (here ++ [name]) rest
    | none => return loaded

end

/-- The disk with what a path leads to. -/
def loadPath (deep : Bool) (disk : Disk) (path : Text) : IO Disk :=
  loadSteps deep disk (if Path.isAbsolute path then [] else disk.current) (Path.steps path)

/-- The disk that a command needs. -/
def loadFor (command : Command) : IO Disk := do
  let current := Path.parts (← IO.currentDir).toString.toList
  let disk : Disk := ⟨Node.emptyFolder.put .emptyFolder current, current⟩
  match command with
  | .generate request =>
    match request.input with
    | none | some ['-'] => return disk
    | some path => loadPath false disk path
  | .refactor request => loadPath request.folder disk request.path

/-- Writes the files below a location that differ from what was there. -/
partial def writeBack (location : Location) (old : Option Node) : Node → IO Unit
  | .file content => do
    let same := match old with
      | some (.file before) => before.data == content.data
      | _ => false
    unless same do IO.FS.writeBinFile (entryAt location).path content
  | .link _ => return
  | .folder entries => do
    for (name, node) in entries do
      writeBack (location ++ [name]) ((old.bind Node.entries?).bind (·.lookup name)) node

/-- All bytes of a stream. -/
partial def readAll (stream : IO.FS.Stream) (read : ByteArray) : IO ByteArray := do
  let more ← stream.read 65536
  if more.isEmpty then return read else readAll stream (read ++ more)

/-- The bytes of the input stream, for a command that reads it. -/
def inputFor : Command → IO ByteArray
  | .generate request =>
    match request.input with
    | none | some ['-'] => do readAll (← IO.getStdin) ByteArray.empty
    | some _ => return ByteArray.empty
  | .refactor _ => return ByteArray.empty

/-- What is shown when no command is carried out. -/
def usage : String :=
  "Usage: nodegen [-v] generate [-e | -r | -b] [--tag-style STYLE] [-i FILE]\n" ++
    "       nodegen [-v] rewrite [--file | --folder] [--extension EXT] [--exclude GLOB]...\n" ++
    "                            [--on-error POLICY] [--dry-run] MODE PATH\n"

/-- Runs the program on the real file system and returns its exit code. -/
def run (arguments : List String) : IO UInt32 := do
  let arguments := arguments.map String.toList
  let stdout ← IO.getStdout
  let stderr ← IO.getStderr
  match CommandLine.ofArguments arguments with
  | .error stop =>
    match stop with
    | .version => stdout.putStr (String.ofList versionLine)
    | .help => stdout.putStr usage
    | _ => stderr.putStr usage
    return stop.exitCode.toUInt32
  | .ok line =>
    let disk ← loadFor line.command
    let done := runProgram arguments disk (← inputFor line.command)
    for record in done.records do
      stderr.putStr (String.ofList (printLine record.line))
    writeBack [] (some disk.top) done.disk.top
    stdout.putStr (String.ofList done.printed)
    stderr.putStr (String.ofList done.reported)
    return done.exitCode.toUInt32

end NodeKit.Main

/-- The entry point. -/
def main (arguments : List String) : IO UInt32 := NodeKit.Main.run arguments
