import NodeKit.Refactoring.Hoist
import NodeKit.Refactoring.Signature

/-!
# Refactorings

The fixed set of refactorings, each chosen by its name. A refactoring turns the
text of one file into another text, and gives back the same text when there is
nothing to do. `Operation` says what became of one file.
-/
namespace NodeKit.Refactoring

/-- A refactoring. -/
inductive Mode where
  | titleCategory
  | getNodeData
  | setNodeData
deriving DecidableEq, Repr

namespace Mode

def all : List Mode := [.titleCategory, .getNodeData, .setNodeData]

def name : Mode → Text
  | .titleCategory => "title-category"
  | .getNodeData => "get-node-data"
  | .setNodeData => "set-node-data"

/-- The refactoring of the given name. -/
def ofName (name : Text) : Except Error Mode :=
  match all.find? (·.name = name) with
  | some mode => .ok mode
  | none => .error (.unknownMode name)

theorem ofName_name (mode : Mode) : ofName mode.name = .ok mode := by
  cases mode <;> rfl

/-- Refactors the text of a file. -/
def apply : Mode → Text → Except Error Text
  | .titleCategory, t => hoist t
  | .getNodeData, t => .ok (getNodeDataChange.apply t)
  | .setNodeData, t => .ok (setNodeDataChange.apply t)

/-- The log of refactoring a text. -/
def records : Mode → Text → List Record
  | .titleCategory, t => hoistRecords t
  | .getNodeData, t => getNodeDataChange.records t
  | .setNodeData, t => setNodeDataChange.records t

end Mode

/-- What is to become of one file. -/
inductive Operation where
  /-- The text changes. -/
  | change (path content : Text)
  /-- There is nothing to change. -/
  | unchanged (path : Text)
  /-- The file is no candidate. -/
  | skip (path : Text)
deriving DecidableEq, Repr

/-- What stands in front of a line about a run that writes nothing. -/
def dryRunMark (dryRun : Bool) : Text := if dryRun then "[DRY RUN] ".toList else []

/-- What the operation says of itself. -/
def Operation.message (dryRun : Bool) (operation : Operation) : Text :=
  dryRunMark dryRun ++
    match operation with
    | .change path _ => "Rewriting '" ++ path ++ "'"
    | .unchanged path => "Leaving '" ++ path ++ "' unchanged (nothing to rewrite)"
    | .skip path => "Skipping '" ++ path ++ "'"

/-- How many files a run dealt with, by outcome. -/
structure Summary where
  changed : Nat
  unchanged : Nat
  skipped : Nat
  failed : Nat
deriving DecidableEq, Repr

namespace Summary

def empty : Summary := ⟨0, 0, 0, 0⟩

/-- Counts one more operation. -/
def record (summary : Summary) : Operation → Summary
  | .change _ _ => { summary with changed := summary.changed + 1 }
  | .unchanged _ => { summary with unchanged := summary.unchanged + 1 }
  | .skip _ => { summary with skipped := summary.skipped + 1 }

/-- Counts one more failure. -/
def recordFailure (summary : Summary) : Summary := { summary with failed := summary.failed + 1 }

/-- The counts on one line. -/
def text (summary : Summary) : Text :=
  Text.ofNat summary.changed ++ " rewritten, " ++ Text.ofNat summary.unchanged ++
    " unchanged, " ++ Text.ofNat summary.skipped ++ " skipped, " ++ Text.ofNat summary.failed ++
    " failed"

end Summary

end NodeKit.Refactoring
