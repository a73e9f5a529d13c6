import NodeKit.Declaration.Basic
import NodeKit.Error
import NodeKit.Log
import NodeKit.Text.Blank
import NodeKit.Text.Lines
import NodeKit.Text.Quoted

/-!
# Reading declarations

The input is read line by line. The first line without a word ends it, and
nothing behind that line is looked at, not even whether it is UTF-8. Of two
faulty lines the earlier one is reported. Each line is classified by itself; the
declarations, the error and the log are all read off the classified lines.
-/
namespace NodeKit

/-- What a line with enough words declares. -/
inductive Entry where
  | shorthand (shorthand : TypeAlias)
  | property (property : Property)
deriving DecidableEq, Repr

namespace Entry

/-- The fewest words of a declaration. -/
def minimumWords : Nat := 3

/-- The declaration in the words of a line; none when there are too few. -/
def ofWords? : List Text → Option Entry
  | code :: second :: third :: rest =>
    some (if code = ['u'] then .shorthand ⟨second, third⟩
      else .property ⟨Category.ofCode code, second, third, rest.head?⟩)
  | _ => none

def shorthand? : Entry → Option TypeAlias
  | .shorthand s => some s
  | .property _ => none

def property? : Entry → Option Property
  | .shorthand _ => none
  | .property p => some p

/-- The log line for an entry that was read. -/
def record : Entry → Record
  | .shorthand s => ⟨.debug, .reading, "Parsed alias: " ++ s.directive⟩
  | .property p => ⟨.debug, .reading,
      "Parsed " ++ p.category.name ++ " property '" ++ p.identifier ++ "' of type '" ++
        p.typeName ++ "'"⟩

end Entry

/-- One line of input, classified. -/
inductive LineReading where
  | undecodable
  | blank (line : Text)
  | malformed (line : Text) (found : Nat)
  | entry (line : Text) (entry : Entry)
deriving DecidableEq, Repr

namespace LineReading

/-- Classifies the text of a line. -/
def ofText (line : Text) : LineReading :=
  match Text.words line with
  | [] => .blank line
  | words =>
    match Entry.ofWords? words with
    | some e => .entry line e
    | none => .malformed line words.length

/-- Classifies the bytes of a line. -/
def ofBytes (bytes : List UInt8) : LineReading :=
  match Text.decode? bytes.toByteArray with
  | some line => ofText line
  | none => .undecodable

/-- The text of the line, when it has one. -/
def text? : LineReading → Option Text
  | .undecodable => none
  | .blank line | .malformed line _ | .entry line _ => some line

def entry? : LineReading → Option Entry
  | .entry _ e => some e
  | _ => none

/-- The error for the line with the given number; none for a blank line or an entry. -/
def error? (number : Nat) : LineReading → Option Error
  | .undecodable => some (.read .notUtf8)
  | .malformed line found => some (.malformedLine number line Entry.minimumWords found)
  | .blank _ | .entry _ _ => none

/-- The log of the line with the given number. -/
def records (number : Nat) (reading : LineReading) : List Record :=
  let seen := reading.text?.map fun line =>
    ⟨.trace, .reading, "Read line " ++ Text.ofNat number ++ ": " ++ Text.quote line⟩
  seen.toList ++ reading.entry?.toList.map Entry.record

end LineReading

/-- The lines of a byte stream, without their terminators. -/
def inputLines (input : ByteArray) : List (List UInt8) :=
  (Line.split Breaks.bytes input.data.toList).map Line.body

/-- The entry or blank of a single line of text. -/
def parseLine (line : Text) (number : Nat) : Except Error (Option Entry) :=
  let reading := LineReading.ofText line
  match reading.error? number with
  | some error => .error error
  | none => .ok reading.entry?

/-- The readings up to and including the first that is no entry. -/
def throughLast : List LineReading → List LineReading
  | [] => []
  | .entry line entry :: rest => .entry line entry :: throughLast rest
  | last :: _ => [last]

/-- The lines that are looked at, each classified, in order. -/
def readLines (input : ByteArray) : List LineReading :=
  throughLast ((inputLines input).map LineReading.ofBytes)

/-- The error of the first faulty reading, when the first reading has the given number. -/
def firstError? (number : Nat) : List LineReading → Option Error
  | [] => none
  | reading :: rest => (reading.error? number).or (firstError? (number + 1) rest)

/-- The declarations in a list of readings. -/
def Declarations.ofReadings (readings : List LineReading) : Declarations where
  aliases := (readings.filterMap LineReading.entry?).filterMap Entry.shorthand?
  properties := (readings.filterMap LineReading.entry?).filterMap Entry.property?

/-- Reads declarations from a byte stream. -/
def parseDeclarations (input : ByteArray) : Except Error Declarations :=
  let readings := readLines input
  match firstError? 1 readings with
  | some error => .error error
  | none => .ok (Declarations.ofReadings readings)

/-- The log of a list of readings, when the first reading has the given number. -/
def recordsOfReadings (number : Nat) : List LineReading → List Record
  | [] => []
  | reading :: rest => reading.records number ++ recordsOfReadings (number + 1) rest

/-- The log of reading declarations. -/
def parseRecords (input : ByteArray) : List Record := recordsOfReadings 1 (readLines input)

end NodeKit
