import NodeKit.Command.Grammar

/-!
# Reading a command line

The arguments are first cut into occurrences of flags, values and words, up to the
end or to an argument that ends the reading. The occurrences are then settled in
order, and the first one that cannot stand is reported.

A flag and a value attached to its switch settle at once. A word, and a value in an
argument of its own, settle only when the next switch or word is read. So the last
of them is not looked at when an unknown argument follows.
-/
namespace NodeKit.CommandLine

/-- One thing that a command line gives. -/
inductive Occurrence where
  | flag (flag : Flag)
  /-- A switch with its value, which is attached when it stands in the same argument. -/
  | valued (switch : ValueSwitch) (value : Text) (attached : Bool)
  /-- A switch whose value is missing. -/
  | unvalued (switch : ValueSwitch)
  | word (word : Text)
deriving DecidableEq, Repr

/-- Whether the occurrence settles as soon as it is read. -/
def Occurrence.settlesAtOnce : Occurrence → Bool
  | .flag _ => true
  | .valued _ _ attached => attached
  | .unvalued _ | .word _ => false

def Occurrence.flag? : Occurrence → Option Flag
  | .flag f => some f
  | _ => none

/-- Why reading ends before the last argument. -/
structure Halt where
  stop : Stop
  /-- Whether what was read before is settled first. -/
  settlesLast : Bool
deriving DecidableEq, Repr

/-- Reading ends at an argument that belongs to no switch. -/
def Halt.unknown : Halt := ⟨.unknownArgument, false⟩

/-- The occurrences of a command line, and why reading ended early, if it did. -/
structure Scan where
  occurrences : List Occurrence
  halt : Option Halt
deriving DecidableEq, Repr

namespace Scan

def finished : Scan := ⟨[], none⟩

def halted (halt : Halt) : Scan := ⟨[], some halt⟩

/-- Puts occurrences in front. -/
def prepend (first : List Occurrence) (scan : Scan) : Scan :=
  { scan with occurrences := first ++ scan.occurrences }

/-- The occurrences that are settled. -/
def settled (scan : Scan) : List Occurrence :=
  match scan.halt, scan.occurrences.getLast? with
  | some halt, some last =>
    if halt.settlesLast || last.settlesAtOnce then scan.occurrences
    else scan.occurrences.dropLast
  | _, _ => scan.occurrences

end Scan

/-- What one argument with dashes comes to: occurrences, and then either nothing more, a
switch that waits for its value, or the end of reading. -/
inductive Remainder where
  | complete
  | awaits (switch : ValueSwitch)
  | halts (halt : Halt)
deriving DecidableEq, Repr

/-- Reads letters behind one dash. What follows the letter of a switch with a value is the value,
without an equals sign in front. -/
def readLetters (level : Level) : Text → List Occurrence × Remainder
  | [] => ([], .complete)
  | letter :: rest =>
    match (letters level).lookup letter with
    | none => ([], .halts .unknown)
    | some (.stop stop) => ([], .halts ⟨stop, true⟩)
    | some (.flag flag) =>
      let (occurrences, remainder) := readLetters level rest
      (.flag flag :: occurrences, remainder)
    | some (.valued switch) =>
      match rest with
      | [] => ([], .awaits switch)
      | '=' :: value => ([.valued switch value true], .complete)
      | value => ([.valued switch value true], .complete)

/-- Cuts at the first equals sign. -/
def cutValue (t : Text) : Text × Option Text :=
  let name := t.takeWhile (· ≠ '=')
  match t.dropWhile (· ≠ '=') with
  | [] => (name, none)
  | _ :: value => (name, some value)

/-- Reads what stands behind two dashes. A flag with a value ends the reading. -/
def readLong (level : Level) (t : Text) : List Occurrence × Remainder :=
  match (longNames level).lookup (cutValue t).1, (cutValue t).2 with
  | none, _ => ([], .halts .unknown)
  | some (.valued switch), none => ([], .awaits switch)
  | some (.valued switch), some value => ([.valued switch value true], .complete)
  | some (.stop stop), none => ([], .halts ⟨stop, true⟩)
  | some (.flag flag), none => ([.flag flag], .complete)
  | some _, some _ => ([], .halts ⟨.tooManyValues, false⟩)

/-- What an argument is by its dashes. A dash alone is a word. -/
inductive Shape where
  | dashes
  /-- A long name behind two dashes, or letters behind one. -/
  | switches (long : Bool) (rest : Text)
  | word
deriving DecidableEq, Repr

def Shape.of : Text → Shape
  | ['-', '-'] => .dashes
  | '-' :: '-' :: rest => .switches true rest
  | '-' :: c :: rest => .switches false (c :: rest)
  | _ => .word

/-- Reads what stands behind the dashes of an argument. -/
def readSwitches (level : Level) (long : Bool) (rest : Text) : List Occurrence × Remainder :=
  if long then readLong level rest else readLetters level rest

/-- Reads the arguments behind two bare dashes. All of them are words. -/
def scanWords : (slots : Nat) → List Text → Scan
  | _, [] => .finished
  | 0, _ :: _ => .halted .unknown
  | slots + 1, argument :: rest => (scanWords slots rest).prepend [.word argument]

/-- Reads the arguments of a subcommand, with the number of words it still takes and the switch
that waits for its value. -/
def scan (level : Level) (slots : Nat) (awaiting : Option ValueSwitch) : List Text → Scan
  | [] => ⟨awaiting.toList.map .unvalued, none⟩
  | argument :: rest =>
    let unvalued := awaiting.toList.map Occurrence.unvalued
    match Shape.of argument with
    | .dashes => (scanWords slots rest).prepend unvalued
    | .word =>
      match awaiting, slots with
      | some switch, _ =>
        (scan level slots none rest).prepend [.valued switch argument false]
      | none, 0 => .halted .unknown
      | none, slots + 1 => (scan level slots none rest).prepend [.word argument]
    | .switches long text =>
      match readSwitches level long text with
      | (occurrences, .complete) =>
        (scan level slots none rest).prepend (unvalued ++ occurrences)
      | (occurrences, .awaits switch) =>
        (scan level slots (some switch) rest).prepend (unvalued ++ occurrences)
      | (occurrences, .halts halt) => ⟨unvalued ++ occurrences, some halt⟩

/-! ## Settling -/

/-- What has been settled so far, each in the order of the command line. -/
structure Settled where
  flags : List Flag
  values : List (ValueSwitch × Text)
  words : List Text
deriving DecidableEq, Repr

namespace Settled

def nothing : Settled := ⟨[], [], []⟩

/-- Settles one more occurrence. The second word is a path and cannot be empty. -/
def add (settled : Settled) : Occurrence → Except Stop Settled
  | .flag flag =>
    if !flag.isCounted && settled.flags.contains flag then .error .conflict
    else .ok { settled with flags := settled.flags ++ [flag] }
  | .unvalued _ => .error .invalidValue
  | .valued switch value _ =>
    if !switch.isRepeatable && settled.values.any (·.1 = switch) then .error .conflict
    else if !switch.accepts value then .error .invalidValue
    else .ok { settled with values := settled.values ++ [(switch, value)] }
  | .word word =>
    if settled.words.length = 1 && word.isEmpty then .error .invalidValue
    else .ok { settled with words := settled.words ++ [word] }

/-- Settles occurrences in order. -/
def addAll (settled : Settled) (occurrences : List Occurrence) : Except Stop Settled :=
  occurrences.foldlM add settled

/-- Whether a flag was given. -/
def has (settled : Settled) (flag : Flag) : Bool := settled.flags.contains flag

/-- The value of a switch. -/
def value? (settled : Settled) (switch : ValueSwitch) : Option Text :=
  settled.values.lookup switch

/-- All values of a switch, in order. -/
def valuesOf (settled : Settled) (switch : ValueSwitch) : List Text :=
  (settled.values.filter (·.1 = switch)).map (·.2)

/-- Whether more than one of the flags was given. -/
def conflicting (settled : Settled) (flags : List Flag) : Bool :=
  1 < (flags.filter settled.has).length

end Settled

/-- The occurrences of a whole scan, settled, unless one of them or the end of the scan stops the
program. -/
def Scan.settle (scan : Scan) : Except Stop Settled := do
  let settled ← Settled.nothing.addAll scan.settled
  match scan.halt with
  | some halt => .error halt.stop
  | none => .ok settled

/-- The request to generate. At most one switch may choose the blocks. -/
def generateRequest (settled : Settled) : Except Stop GenerateRequest :=
  if settled.conflicting [.editor, .runtime, .both] then .error .conflict
  else .ok {
    editor := settled.has .editor
    runtime := settled.has .runtime
    both := settled.has .both
    tagStyle := ((settled.value? .tagStyle).bind tagStyle?).getD .bracketed
    input := settled.value? .input }

/-- The request to refactor. A path is a file or a folder, not both. -/
def refactorRequest (settled : Settled) : Except Stop RefactorRequest :=
  if settled.conflicting [.file, .folder] then .error .conflict
  else match settled.words with
    | [mode, path] => .ok {
        mode := mode
        path := path
        file := settled.has .file
        folder := settled.has .folder
        extension := (settled.value? .extension).getD Refactoring.defaultExtension
        excludes := settled.valuesOf .exclude
        failurePolicy := ((settled.value? .failurePolicy).bind failurePolicy?).getD .abort
        dryRun := settled.has .dryRun }
    | _ => .error .missingArgument

/-- The largest count of one flag. -/
def maxCount : Nat := 255

/-- How often a longer log was asked for. -/
def verboseCount (flags : List Flag) : Nat := min maxCount (flags.count .verbose)

/-- Reads the arguments of a subcommand. A verbosity given there replaces the one in front. -/
def readSubcommand (level : Level) (outerFlags : List Flag) (arguments : List Text) :
    Except Stop CommandLine := do
  let settled ← (scan level (wordCount level) none arguments).settle
  let own := verboseCount settled.flags
  let verbosity := if own = 0 then verboseCount outerFlags else own
  match level with
  | .refactor => return ⟨verbosity, .refactor (← refactorRequest settled)⟩
  | _ => return ⟨verbosity, .generate (← generateRequest settled)⟩

/-- Whether a word names a subcommand. -/
def isSubcommand (word : Text) : Bool := (subcommand? word).isSome || word = helpName

/-- Reads what follows the subcommand for help: at most the name of one subcommand. -/
def readHelp : List Text → Stop
  | [] => .help
  | [name] => if isSubcommand name then .help else .invalidSubcommand
  | _ => .invalidSubcommand

/-- Reads a command line, given the flags that were read in front. -/
def readTop (flags : List Flag) : List Text → Except Stop CommandLine
  | [] => .error (if flags.isEmpty then .helpForNothing else .missingSubcommand)
  | argument :: rest =>
    match Shape.of argument with
    | .dashes =>
      match rest with
      | [] => .error (if flags.isEmpty then .helpForNothing else .missingSubcommand)
      | word :: _ => .error (if isSubcommand word then .unknownArgument else .invalidSubcommand)
    | .word =>
      match subcommand? argument with
      | some level => readSubcommand level flags rest
      | none => .error (if argument = helpName then readHelp rest else .invalidSubcommand)
    | .switches long text =>
      match readSwitches .top long text with
      | (occurrences, .complete) => readTop (flags ++ occurrences.filterMap Occurrence.flag?) rest
      | (_, .halts halt) => .error halt.stop
      | (_, .awaits _) => .error .unknownArgument

/-- Reads the arguments of the program. -/
def ofArguments (arguments : List Text) : Except Stop CommandLine := readTop [] arguments

end NodeKit.CommandLine
