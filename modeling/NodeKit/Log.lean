import NodeKit.Text.Basic

/-!
# Log records

What a run reports while it goes. A record names the part of the program that
wrote it. A level admits the records of its own severity and of all graver ones.
-/
namespace NodeKit

/-- How grave a record is. -/
inductive Severity where
  | error
  | warn
  | info
  | debug
  | trace
deriving DecidableEq, Repr

namespace Severity

/-- Zero is the gravest. -/
def rank : Severity → Nat
  | .error => 0
  | .warn => 1
  | .info => 2
  | .debug => 3
  | .trace => 4

def name : Severity → Text
  | .error => "ERROR"
  | .warn => "WARN"
  | .info => "INFO"
  | .debug => "DEBUG"
  | .trace => "TRACE"

/-- The level for a number of `-v` flags. -/
def ofVerbosity : Nat → Severity
  | 0 => .error
  | 1 => .info
  | 2 => .debug
  | _ => .trace

/-- Whether a log at this level shows records of severity `s`. -/
def admits (level s : Severity) : Bool := s.rank ≤ level.rank

end Severity

/-- The part of the program that wrote a record. -/
inductive Origin where
  | reading
  | generation
  | hoist
  | signature
  | files
  | command
deriving DecidableEq, Repr

def Origin.name : Origin → Text
  | .reading => "reading"
  | .generation => "generation"
  | .hoist => "hoist"
  | .signature => "signature"
  | .files => "files"
  | .command => "command"

/-- One record. -/
structure Record where
  severity : Severity
  origin : Origin
  message : Text
deriving DecidableEq, Repr

/-- The record as one line. -/
def Record.line (record : Record) : Text :=
  record.severity.name ++ " " ++ record.origin.name ++ ": " ++ record.message

/-- The records that a log at the given level shows. -/
def shownAt (level : Severity) (records : List Record) : List Record :=
  records.filter fun record => level.admits record.severity

end NodeKit
